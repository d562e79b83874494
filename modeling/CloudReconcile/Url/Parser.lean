import CloudReconcile.Url.Host
import CloudReconcile.Url.Segments

/-!
# Reading web addresses

Space at the ends and line breaks anywhere do not count.  The text is taken apart at its scheme,
authority, path, query and fragment, in this order.
-/

namespace CloudReconcile
namespace Url
namespace Parser

def querySet (isSpecial : Bool) : Text.Percent.Set :=
  [' ', '"', '#', '<', '>'] ++ (if isSpecial then ['\''] else [])

def fragmentSet : Text.Percent.Set := [' ', '"', '<', '>', '\x60']

def userSet : Text.Percent.Set :=
  UrlPath.pathSet ++ ['/', ':', ';', '=', '@', '[', '\\', ']', '^', '|']

def isEdge (c : Char) : Bool := c.toNat ≤ 0x20

def clean (text : List Char) : List Char :=
  UrlPath.withoutBreaks ((text.dropWhile isEdge).reverse.dropWhile isEdge).reverse

def isSchemeChar (c : Char) : Bool :=
  c.isAlphanum || c = '+' || c = '-' || c = '.'

def scheme? (text : List Char) : Option (List Char × List Char) :=
  match text.span isSchemeChar with
  | (scheme, ':' :: rest) =>
    if scheme.head?.any Char.isAlpha then some (scheme.map Char.toLower, rest) else none
  | _ => none

def endsAuthority (isSpecial : Bool) (c : Char) : Bool :=
  c = '/' || c = '?' || c = '#' || (isSpecial && c = '\\')

/-- The text before the query and fragment, the query, and the fragment. -/
def splitTail (text : List Char) : List Char × Option (List Char) × Option (List Char) :=
  let (front, fragment) := text.span (· ≠ '#')
  let (path, query) := front.span (· ≠ '?')
  let behind (t : List Char) : Option (List Char) :=
    match t with
    | [] => none
    | _ :: rest => some rest
  (path, behind query, behind fragment)

/-- Text between slashes; backslashes count as slashes in special addresses. -/
def splitPath (isSpecial : Bool) (text : List Char) : List (List Char) :=
  (if isSpecial then text.map fun c => if c = '\\' then '/' else c else text).splitOn '/'

/-- The encoded segments of a path behind its first slash, dots and drives as they stand. -/
def rawSegments (isSpecial : Bool) (text : List Char) : List (List Char) :=
  (splitPath isSpecial text).map (Text.Percent.encode UrlPath.pathSet)

def segments (isSpecial : Bool) (text : List Char) : List (List Char) :=
  UrlPath.appendAll false [] (rawSegments isSpecial text)

def behindSlash (isSpecial : Bool) (text : List Char) : List Char :=
  match text with
  | [] => []
  | c :: rest => if c = '/' || (isSpecial && c = '\\') then rest else text

def pathOf (isSpecial : Bool) (text : List Char) : List (List Char) :=
  if text.isEmpty && !isSpecial then [] else segments isSpecial (behindSlash isSpecial text)

def withTail (u : Url) (query fragment : Option (List Char)) : Url :=
  { u with
    query := query.map (Text.Percent.encode (querySet (isSpecial u.scheme)))
    fragment := fragment.map (Text.Percent.encode fragmentSet) }

/-- The user part in its written form: the first colon parts name and password, and an empty
password takes its colon along. -/
def userinfo (text : List Char) : List Char :=
  let (name, rest) := text.span (· ≠ ':')
  let name := Text.Percent.encode userSet name
  match rest with
  | [] => name
  | [_] => name
  | _ :: password => name ++ ':' :: Text.Percent.encode userSet password

def splitUser (authority : List Char) : Option (List Char) × List Char :=
  let host := (authority.reverse.takeWhile (· ≠ '@')).reverse
  if host.length = authority.length then (none, authority)
  else (some (authority.take (authority.length - host.length - 1)), host)

/-- The length of the host at the front: up to the first colon outside brackets. -/
def hostLength : Bool → List Char → Nat
  | _, [] => 0
  | inside, c :: rest =>
    if c = ':' && !inside then 0
    else hostLength (if c = '[' then true else if c = ']' then false else inside) rest + 1

/-- A port behind the colon, and what follows it; the default one is not kept.  A backslash ends a
port everywhere. -/
def port (scheme text : List Char) : Except UrlError (Option Nat × List Char) :=
  let (digits, rest) := text.span Char.isDigit
  let n := digits.foldl (fun n c => n * 10 + (c.toNat - 0x30)) 0
  if 65535 < n || rest.head?.any (· ≠ '\\') then .error .invalidPort
  else if digits.isEmpty ∨ defaultPort? scheme = some n then .ok (none, rest)
  else .ok (some n, rest)

/-- A user part asks for a host: it shows, or it is empty and something else follows it. -/
def needsHost (user : Option (List Char)) (rest : List Char) : Bool :=
  match user with
  | none => false
  | some [] => !rest.isEmpty
  | some user => !(userinfo user).isEmpty

def withAuthority (scheme text : List Char) : Except UrlError Url := do
  let isSpecial := isSpecial scheme
  let (authority, rest) := text.span fun c => !endsAuthority isSpecial c
  let (user, hostAndPort) := splitUser authority
  let length := hostLength false hostAndPort
  let hostText := hostAndPort.take length
  if hostText.isEmpty ∧ (isSpecial ∨ hostAndPort ≠ [] ∨ needsHost user rest) then throw .emptyHost
  let host ← if isSpecial then Host.ofSpecial hostText else Host.ofOther hostText
  let (port, start) ← port scheme ((hostAndPort.drop length).drop 1)
  let (path, query, fragment) := splitTail (start ++ rest)
  return withTail
    { scheme, userinfo := userinfo (user.getD []), host := some host, port
      path := .segments (pathOf isSpecial path), query := none, fragment := none }
    query fragment

/-- The address of a file, from its host and what follows; a drive takes the place of a host. -/
def fileOn (scheme : List Char) (host : Host) (rest : List Char) : Url :=
  let (path, query, fragment) := splitTail rest
  let raw := rawSegments true (behindSlash true path)
  withTail
    { scheme, userinfo := []
      host := some (if UrlPath.meetsDrive [] raw then .name [] else host)
      port := none
      path := .segments (UrlPath.withoutBlanks (UrlPath.appendAll true [] raw)), query := none
      fragment := none }
    query fragment

/-- The address of a file behind its scheme; this machine goes without a name. -/
def file (scheme text : List Char) : Except UrlError Url := do
  let isSlash (c : Char) : Bool := c = '/' || c = '\\'
  match text with
  | a :: b :: rest =>
    if isSlash a && isSlash b then
      let (hostText, path) := rest.span fun c => !endsAuthority true c
      if hostText.isEmpty ∨ UrlPath.isDrive hostText then return fileOn scheme (.name []) rest
      else
        let host ← Host.ofSpecial hostText
        return fileOn scheme (if host = .name "localhost".toList then .name [] else host) path
    else return fileOn scheme (.name []) text
  | _ => return fileOn scheme (.name []) text

def other (scheme text : List Char) : Except UrlError Url :=
  match text with
  | '/' :: '/' :: rest => withAuthority scheme rest
  | _ =>
    let (path, query, fragment) := splitTail text
    let path : UrlPath := match path with
      | '/' :: rest => .segments (segments false rest)
      | _ => .flat (Text.Percent.encode [] path)
    .ok (withTail
      { scheme, userinfo := [], host := none, port := none, path, query := none
        fragment := none }
      query fragment)

end Parser

def parse (text : String) : Except UrlError Url :=
  match Parser.scheme? (Parser.clean text.toList) with
  | none => .error .relative
  | some (scheme, rest) =>
    if isFile scheme then Parser.file scheme rest
    else if isSpecial scheme then
      Parser.withAuthority scheme (rest.dropWhile fun c => c = '/' || c = '\\')
    else Parser.other scheme rest

end Url
end CloudReconcile
