import CloudReconcile.Url.Basic
import CloudReconcile.Url.Domain
import CloudReconcile.Url.Error

/-!
# Reading hosts

A host is a domain name, an IPv4 address of up to four numbers, or an IPv6 address in brackets.
Schemes that are not special take any text without separators.
-/

namespace CloudReconcile
namespace Host

/-! ## IPv4 -/

/-- A number in decimal, in octal behind `0` or in hexadecimal behind `0x`. -/
def ipv4Number? (text : List Char) : Option Nat :=
  let (base, digits) := match text with
    | '0' :: 'x' :: rest => (16, rest)
    | '0' :: 'X' :: rest => (16, rest)
    | '0' :: c :: rest => (8, c :: rest)
    | _ => (10, text)
  if text.isEmpty then none
  else if digits.isEmpty then some 0
  else digits.foldl (fun n c => do
    let n ← n
    let d ← Text.hexValue? c.toNat
    if d < base then some (n * base + d) else none) (some 0)

def parts (name : List Char) : List (List Char) :=
  let parts := name.splitOn '.'
  if parts.getLast? = some [] then parts.dropLast else parts

/-- The last part is a number, so the name can only be an IPv4 address. -/
def endsInNumber (name : List Char) : Bool :=
  match (parts name).getLast? with
  | none => false
  | some last => (!last.isEmpty && last.all Char.isDigit) || (ipv4Number? last).isSome

/-- An IPv4 address; the last number fills the places that are left. -/
def ipv4? (name : List Char) : Option Nat := do
  let numbers ← (parts name).mapM ipv4Number?
  let last ← numbers.getLast?
  let before := numbers.dropLast
  if 4 < numbers.length ∨ before.any (255 < ·) ∨ Nat.pow 256 (4 - before.length) ≤ last then none
  else some (last + (before.zipIdx.map fun (n, i) => n * Nat.pow 256 (3 - i)).foldl (· + ·) 0)

/-! ## IPv6 -/

def piece? (text : List Char) : Option Nat :=
  if text.isEmpty ∨ 4 < text.length then none
  else text.foldl (fun n c => do
    let n ← n
    let d ← Text.hexValue? c.toNat
    some (n * 16 + d)) (some 0)

def octet? (text : List Char) : Option Nat :=
  if text.isEmpty ∨ 3 < text.length ∨ !text.all Char.isDigit ∨
      (1 < text.length ∧ text.head? = some '0') then none
  else
    let n := text.foldl (fun n c => n * 10 + (c.toNat - 0x30)) 0
    if n ≤ 255 then some n else none

def embedded? (text : List Char) : Option (List Nat) := do
  match ← (text.splitOn '.').mapM octet? with
  | [a, b, c, d] => some [a * 256 + b, c * 256 + d]
  | _ => none

/-- The pieces of one side of an IPv6 address; only the last side may end in decimal numbers. -/
def pieces? (isLast : Bool) (text : List Char) : Option (List Nat) :=
  if text.isEmpty then some []
  else
    let parts := text.splitOn ':'
    let last := parts.getLast?.getD []
    if isLast && last.contains '.' then do
      let before ← parts.dropLast.mapM piece?
      let embedded ← embedded? last
      some (before ++ embedded)
    else parts.mapM piece?

/-- The text before the first `::`, and the text behind it if there is one. -/
def splitDouble : List Char → List Char × Option (List Char)
  | ':' :: ':' :: rest => ([], some rest)
  | c :: rest =>
    let (before, after) := splitDouble rest
    (c :: before, after)
  | [] => ([], none)

def ipv6? (text : List Char) : Option (List Nat) :=
  match splitDouble text with
  | (whole, none) => do
    let pieces ← pieces? true whole
    if pieces.length = 8 ∧ !whole.isEmpty then some pieces else none
  | (before, some after) => do
    let left ← pieces? false before
    let right ← pieces? true after
    if left.length + right.length < 8 then
      some (left ++ List.replicate (8 - left.length - right.length) 0 ++ right)
    else none

/-! ## Hosts -/

def bracketed (text : List Char) : Except UrlError Host :=
  if text.getLast? = some ']' then
    match ipv6? (text.drop 1).dropLast with
    | some pieces => .ok (.ipv6 pieces)
    | none => .error .invalidIpv6
  else .error .invalidIpv6

def separators : List Char :=
  [' ', '#', '/', ':', '<', '>', '?', '@', '[', '\\', ']', '^', '|', '\t', '\n', '\r']

/-- The host of an address whose scheme is special. -/
def ofSpecial (text : List Char) : Except UrlError Host :=
  if text.head? = some '[' then bracketed text
  else
    match Domain.toAscii? text with
    | none => .error .invalidDomain
    | some [] => .error .emptyHost
    | some label =>
      if endsInNumber label then
        match ipv4? label with
        | some address => .ok (.ipv4 address)
        | none => .error .invalidIpv4
      else .ok (.name label)

def ofOther (text : List Char) : Except UrlError Host :=
  if text.head? = some '[' then bracketed text
  else if text.any fun c => c.toNat = 0 || separators.contains c then
    .error .invalidHostCharacter
  else .ok (.name (Text.Percent.encode [] text))

end Host
end CloudReconcile
