import CloudReconcile.Text.Utf8
import CloudReconcile.Url.Basic

/-!
# Targets of requests

A request is sent to the written form of an address without its fragment.  Not every address will
do: there has to be a host, and the text must not be longer than the header of a request can be.
Where the host is known, a target has the origin form: a path and a query.
-/

namespace CloudReconcile
namespace Http

inductive TargetError where
  | tooLong
  | invalidFormat
  | invalidAuthority
  | invalidCharacter
  | schemeTooLong
deriving DecidableEq, Repr

namespace TargetError

def message : TargetError → String
  | .tooLong => "uri too long"
  | .invalidFormat => "invalid format"
  | .invalidAuthority => "invalid authority"
  | .invalidCharacter => "invalid uri character"
  | .schemeTooLong => "scheme too long"

end TargetError

namespace Target

def maxLength : Nat := 65534

def maxSchemeLength : Nat := 64

/-- The marks that may stand in an authority besides letters, digits, `:`, `@`, brackets and
percent signs. -/
def marks : List Char :=
  ['!', '$', '&', '\'', '(', ')', '*', '+', ',', '-', '.', ';', '=', '_', '~']

structure Seen where
  colons : Nat
  opened : Bool
  closed : Bool
  percent : Bool
  atSign : Bool

def look (s : Seen) (c : Char) : Except TargetError Seen :=
  if c = ':' then
    if 8 ≤ s.colons then .error .invalidAuthority
    else .ok { s with colons := s.colons + 1, atSign := false }
  else if c = '[' then
    if s.percent || s.opened then .error .invalidAuthority
    else .ok { s with opened := true, atSign := false }
  else if c = ']' then
    if !s.opened || s.closed then .error .invalidAuthority
    else .ok { s with closed := true, colons := 0, percent := false, atSign := false }
  else if c = '@' then .ok { s with colons := 0, percent := false, atSign := true }
  else if c = '%' then .ok { s with percent := true, atSign := false }
  else if c.isAlphanum || marks.contains c then .ok { s with atSign := false }
  else .error .invalidCharacter

/-- An authority has at most one colon outside of user and brackets, no percent sign in the host,
and something behind the user. -/
def checkAuthority (text : List Char) : Except TargetError Unit := do
  let s ← text.foldlM look ⟨0, false, false, false, false⟩
  if s.opened != s.closed || 1 < s.colons || s.atSign || s.percent then
    throw .invalidAuthority

def ofUrl (u : Url) : Except TargetError String := do
  if maxLength < (Text.Utf8.encode u.chars).length then throw .tooLong
  match u.host with
  | none => throw .invalidFormat
  | some _ =>
    if maxSchemeLength < u.scheme.length then throw .schemeTooLong
    checkAuthority u.authority
    if u.authority.isEmpty then throw .invalidFormat
    return String.ofList ({ u with fragment := none } : Url).chars

end Target

/-! ## Targets where the host is known -/

structure OriginForm where
  path : String
  query : Option String
deriving DecidableEq, Repr

namespace OriginForm

def isPathChar (c : Char) : Bool :=
  0x20 < c.toNat && !(['#', '<', '>', '?', '`'].contains c)

def isQueryChar (c : Char) : Bool :=
  0x20 < c.toNat && !(['"', '#', '<', '>'].contains c)

/-- The target that a text spells, which ends at a hash sign. -/
def parse? (text : String) : Option OriginForm :=
  let carried := text.toList.takeWhile (· ≠ '#')
  let path := carried.takeWhile (· ≠ '?')
  let query := (carried.dropWhile (· ≠ '?')).tail
  if text.utf8ByteSize ≤ Target.maxLength && path.all isPathChar && query.all isQueryChar then
    some ⟨String.ofList path,
      if carried.contains '?' then some (String.ofList query) else none⟩
  else none

end OriginForm
end Http
end CloudReconcile
