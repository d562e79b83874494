import CloudReconcile.Text.Number
import CloudReconcile.Text.Printable

/-!
# Which log lines are shown

A filter is a list of directives with commas between them.  Each gives a level, for everything, for
the targets that begin with a name, or for what happens inside a named span of work; of those about
a line, the one with the longest name decides.  Without a filter that can be read, lines of level
`INFO` and above are shown.
-/

namespace CloudReconcile

inductive LogLevel where
  | error
  | warn
  | info
  | debug
  | trace
deriving DecidableEq, Repr

namespace LogLevel

def text : LogLevel → String
  | .error => "ERROR"
  | .warn => "WARN"
  | .info => "INFO"
  | .debug => "DEBUG"
  | .trace => "TRACE"

def verbosity : LogLevel → Nat
  | .error => 1
  | .warn => 2
  | .info => 3
  | .debug => 4
  | .trace => 5

end LogLevel

/-- What a directive is about. -/
inductive LogScope where
  /-- Lines whose target begins with a name and that carry a value, if one is named. -/
  | lines (target : List Char) (value : Option (List Char))
  /-- Lines inside a span of work with a certain name or certain values. -/
  | span
deriving DecidableEq, Repr

/-- How verbose some lines may be; zero shows none. -/
structure LogDirective where
  scope : LogScope
  verbosity : Nat
deriving DecidableEq, Repr

namespace LogDirective

/-- The verbosity of a directive without a level: everything. -/
def full : Nat := LogLevel.trace.verbosity

def verbosity? (text : List Char) : Option Nat :=
  match Text.number (String.ofList text) with
  | .ok n => if n ≤ full then some n else none
  | .error _ =>
    match String.ofList (text.map Char.toLower) with
    | "off" => some 0
    | "error" => some 1
    | "warn" => some 2
    | "info" => some 3
    | "debug" => some 4
    | "trace" => some 5
    | _ => none

def levelOf? (text : List Char) : Option Nat :=
  if text.isEmpty then some full else verbosity? text

/-- A character that may begin a directive: a letter, a figure, a sign of a target, or the bracket
of a span. -/
def opens (c : Char) : Bool :=
  c.isAlphanum || ['-', ':', '_', '['].contains c ||
    (0x80 ≤ c.toNat && Text.isPrintable c)

def ofWord (word : List Char) : LogDirective :=
  match verbosity? word with
  | some v => ⟨.lines [] none, v⟩
  | none => ⟨.lines word none, full⟩

def scopeOf (target name : List Char) (value : Option (List Char)) : LogScope :=
  match name, value with
  | [], some value => if value.contains '=' then .span else .lines target (some value)
  | _, _ => .span

/-- The brackets of a directive, from its text behind the opening one: the name of a span, the name
of a value, and what is left behind the closing bracket. -/
def brackets? (text : List Char) : Option (List Char × Option (List Char) × List Char) :=
  let (name, rest) := text.span fun c => c ≠ ']' && c ≠ '\x7b'
  match rest with
  | [] => none
  | ']' :: rest => some (name, none, rest)
  | _ :: rest =>
    let (value, rest) := rest.span (· ≠ '\x7d')
    match rest with
    | _ :: ']' :: rest => if value.isEmpty then none else some (name, some value, rest)
    | _ => none

/-- Read a directive: a level, a target, or a target, a span or both with an equals sign and a
level, which may be missing. -/
def parse? (text : List Char) : Option LogDirective :=
  if !text.head?.any opens then none
  else
    match text.span fun c => c ≠ '=' && c ≠ '[' with
    | (word, []) => some (ofWord word)
    | (target, '=' :: level) => (levelOf? level).map fun v => ⟨.lines target none, v⟩
    | (target, _ :: rest) => do
      let (name, value, rest) ← brackets? rest
      let scope := scopeOf target name value
      match rest with
      | [] => return ⟨scope, full⟩
      | '=' :: level => (levelOf? level).map fun v => ⟨scope, v⟩
      | _ => none

end LogDirective

namespace LogFilter

def target : List Char := ['k', 'e', 'e', 'l']

/-- The one value that every line carries. -/
def carried : List Char := ['m', 'e', 's', 's', 'a', 'g', 'e']

def directives? (text : String) : Option (List LogDirective) :=
  ((text.toList.splitOn ',').filter fun part => !part.isEmpty).mapM LogDirective.parse?

/-- How exactly a directive fits the lines of the program, if it does: the longer the name of the
target, the better, and of two like it the one that names a value. -/
def fit? : LogScope → Option Nat
  | .lines name value =>
    if name.isPrefixOf target && value.all (· = carried) then
      some (2 * name.length + if value.isSome then 1 else 0)
    else none
  | .span => none

/-- How verbose the program may be: the directive that fits best decides, and of two that fit
alike the later one. -/
def verbosityOf (directives : List LogDirective) : Nat :=
  (directives.foldl (fun (best : Nat × Nat) d =>
    match fit? d.scope with
    | some fit => if best.1 ≤ fit then (fit, d.verbosity) else best
    | none => best) (0, 0)).2

def shows (lookup : String → Option String) (level : LogLevel) : Bool :=
  let verbosity := match (lookup "RUST_LOG").bind directives? with
    | some directives => verbosityOf directives
    | none => LogLevel.info.verbosity
  level.verbosity ≤ verbosity

end LogFilter

end CloudReconcile
