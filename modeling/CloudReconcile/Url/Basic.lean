import CloudReconcile.Decimal.Shortest
import CloudReconcile.Text.Hex

/-!
# Web addresses

An address is kept in its parts, each of them in its written form.  Some schemes are special:
their addresses have a host, a default port, and a path that is never empty.
-/

namespace CloudReconcile

inductive Host where
  | name (text : List Char)
  | ipv4 (address : Nat)
  /-- Eight pieces of 16 bits. -/
  | ipv6 (pieces : List Nat)
deriving DecidableEq, Repr

inductive UrlPath where
  /-- A path without structure: the address cannot be built upon. -/
  | flat (text : List Char)
  | segments (list : List (List Char))
deriving DecidableEq, Repr

structure Url where
  scheme : List Char
  /-- User name and password, up to the `@`. -/
  userinfo : List Char
  /-- No host is another thing than an empty host. -/
  host : Option Host
  port : Option Nat
  path : UrlPath
  query : Option (List Char)
  fragment : Option (List Char)
deriving DecidableEq, Repr

namespace Host

def ipv4Text (address : Nat) : List Char :=
  Decimal.digits (address / 0x1000000 % 0x100) ++ '.' ::
    (Decimal.digits (address / 0x10000 % 0x100) ++ '.' ::
      (Decimal.digits (address / 0x100 % 0x100) ++ '.' :: Decimal.digits (address % 0x100)))

def zeros (pieces : List Nat) : Nat := (pieces.takeWhile (· = 0)).length

/-- The first of the longest runs of at least two zeros: where it begins and its length. -/
def longestZeros (pieces : List Nat) : Option (Nat × Nat) :=
  (List.range pieces.length).foldl (fun best i =>
    let n := zeros (pieces.drop i)
    if 2 ≤ n ∧ (best.map (·.2)).getD 0 < n then some (i, n) else best) none

def pieceTexts (pieces : List Nat) : List Char :=
  List.intercalate [':'] (pieces.map Text.hex)

def ipv6Text (pieces : List Nat) : List Char :=
  let inner := match longestZeros pieces with
    | none => pieceTexts pieces
    | some (i, n) =>
      pieceTexts (pieces.take i) ++ [':', ':'] ++ pieceTexts (pieces.drop (i + n))
  '[' :: (inner ++ [']'])

def text : Host → List Char
  | .name label => label
  | .ipv4 address => ipv4Text address
  | .ipv6 pieces => ipv6Text pieces

end Host

namespace UrlPath

def text : UrlPath → List Char
  | .flat text => text
  | .segments list => list.flatMap fun s => '/' :: s

/-- Put a segment behind the others; a lone empty segment gives way. -/
def push (list : List (List Char)) (segment : List Char) : List (List Char) :=
  if list = [[]] then [segment] else list ++ [segment]

end UrlPath

namespace Url

def defaultPort? (scheme : List Char) : Option Nat :=
  if scheme = ['h', 't', 't', 'p'] ∨ scheme = ['w', 's'] then some 80
  else if scheme = ['h', 't', 't', 'p', 's'] ∨ scheme = ['w', 's', 's'] then some 443
  else if scheme = ['f', 't', 'p'] then some 21
  else none

def isFile (scheme : List Char) : Bool := scheme = ['f', 'i', 'l', 'e']

def isSpecial (scheme : List Char) : Bool :=
  isFile scheme || (defaultPort? scheme).isSome

def authority (u : Url) : List Char :=
  (if u.userinfo.isEmpty then [] else u.userinfo ++ ['@']) ++
    (u.host.map Host.text).getD [] ++
    (match u.port with
      | some port => ':' :: Decimal.digits port
      | none => [])

def front (u : Url) : List Char :=
  let path := u.path.text
  u.scheme ++ ':' ::
    (match u.host with
      | some _ => ['/', '/'] ++ u.authority ++ path
      | none =>
        match u.path with
        | .segments ([] :: _ :: _) => ['/', '.'] ++ path
        | _ => path)

def queryText (u : Url) : List Char :=
  match u.query with
  | some query => '?' :: query
  | none => []

def fragmentText (u : Url) : List Char :=
  match u.fragment with
  | some fragment => '#' :: fragment
  | none => []

def chars (u : Url) : List Char :=
  u.front ++ u.queryText ++ u.fragmentText

def text (u : Url) : String := String.ofList u.chars

end Url

end CloudReconcile
