import CloudReconcile.Json.Tree
import CloudReconcile.Json.Numeral
import CloudReconcile.Text.Hex
import CloudReconcile.Text.Utf8

/-!
# Reading JSON text

The reader turns bytes into a tree, from left to right.  `skipString` finds the end of a string
and `readString` its content; the two differ in what they refuse.  The fuel of `value` bounds the
nesting and the number of items; `Document.ofBytes` gives it more than any text can use.
-/

namespace CloudReconcile
namespace Json

open Text (hexValue? Utf8.decode?)

/-- The bytes still to be read and the number of those already read. -/
structure Cursor where
  offset : Nat
  rest : List UInt8

namespace Cursor

def fault (c : Cursor) (kind : FaultKind) : Fault := ⟨kind, c.offset⟩

/-- A fault noticed by looking at the next byte. -/
def peekFault (c : Cursor) (kind : FaultKind) : Fault :=
  ⟨kind, if c.rest.isEmpty then c.offset else c.offset + 1⟩

def drop (c : Cursor) (n : Nat) : Cursor := ⟨c.offset + n, c.rest.drop n⟩

def dropWhile (c : Cursor) (p : UInt8 → Bool) : Cursor :=
  c.drop (c.rest.takeWhile p).length

def isSpace (b : UInt8) : Bool := b = 0x20 || b = 0x09 || b = 0x0a || b = 0x0d

def skipSpace (c : Cursor) : Cursor := c.dropWhile isSpace

def peek? (c : Cursor) : Option UInt8 := c.rest.head?

end Cursor

namespace Reader

/-! ## Strings -/

def quote : UInt8 := 0x22

def backslash : UInt8 := 0x5c

/-- What an escape of one letter stands for. -/
def simpleEscape? (b : UInt8) : Option UInt8 :=
  if b = 0x22 || b = 0x5c || b = 0x2f then some b
  else if b = 0x62 then some 0x08
  else if b = 0x66 then some 0x0c
  else if b = 0x6e then some 0x0a
  else if b = 0x72 then some 0x0d
  else if b = 0x74 then some 0x09
  else none

def hexQuad? (a b c d : UInt8) : Option Nat :=
  match hexValue? a.toNat, hexValue? b.toNat, hexValue? c.toNat, hexValue? d.toNat with
  | some p, some q, some r, some s => some (((p * 16 + q) * 16 + r) * 16 + s)
  | _, _, _, _ => none

def isLeading (n : Nat) : Bool := 0xd800 ≤ n && n ≤ 0xdbff

def isTrailing (n : Nat) : Bool := 0xdc00 ≤ n && n ≤ 0xdfff

/-- The end of a string whose opening quote has been read, without regard to its content. -/
def skipString (offset : Nat) : List UInt8 → Except Fault Cursor
  | [] => .error ⟨.endInString, offset⟩
  | b :: rest =>
    if b = quote then .ok ⟨offset + 1, rest⟩
    else if b = backslash then
      match rest with
      | [] => .error ⟨.endInString, offset + 1⟩
      | e :: rest =>
        if e = 0x75 then
          match rest with
          | h1 :: h2 :: h3 :: h4 :: rest =>
            if (hexQuad? h1 h2 h3 h4).isSome then skipString (offset + 6) rest
            else .error ⟨.invalidEscape, offset + 6⟩
          | short => .error ⟨.endInString, offset + 2 + short.length⟩
        else if (simpleEscape? e).isSome then skipString (offset + 2) rest
        else .error ⟨.invalidEscape, offset + 2⟩
    else if b < 0x20 then .error ⟨.controlInString, offset⟩
    else skipString (offset + 1) rest

/-- The bytes that a string spells whose opening quote has been read; `content` holds those so far,
the last one first. -/
def readString (offset : Nat) (content : List UInt8) :
    List UInt8 → Except Fault (List UInt8)
  | [] => .error ⟨.endInString, offset⟩
  | b :: rest =>
    if b = quote then .ok content.reverse
    else if b = backslash then
      match rest with
      | [] => .error ⟨.endInString, offset + 1⟩
      | e :: rest =>
        if e = 0x75 then
          match rest with
          | h1 :: h2 :: h3 :: h4 :: rest =>
            match hexQuad? h1 h2 h3 h4 with
            | none => .error ⟨.invalidEscape, offset + 6⟩
            | some n =>
              if isTrailing n then .error ⟨.loneSurrogate, offset + 6⟩
              else if isLeading n then
                match rest with
                | [] => .error ⟨.endInString, offset + 6⟩
                | s :: rest =>
                  if s ≠ backslash then .error ⟨.brokenSurrogatePair, offset + 7⟩
                  else match rest with
                  | [] => .error ⟨.endInString, offset + 7⟩
                  | u :: rest =>
                    if u ≠ 0x75 then .error ⟨.brokenSurrogatePair, offset + 8⟩
                    else match rest with
                    | l1 :: l2 :: l3 :: l4 :: rest =>
                      match hexQuad? l1 l2 l3 l4 with
                      | none => .error ⟨.invalidEscape, offset + 12⟩
                      | some m =>
                        if isTrailing m then
                          let c := Char.ofNat ((n - 0xd800) * 0x400 + (m - 0xdc00) + 0x10000)
                          readString (offset + 12)
                            ((Text.Utf8.encodeChar c).reverse ++ content) rest
                        else .error ⟨.loneSurrogate, offset + 12⟩
                    | short => .error ⟨.endInString, offset + 8 + short.length⟩
              else
                readString (offset + 6)
                  ((Text.Utf8.encodeChar (Char.ofNat n)).reverse ++ content) rest
          | short => .error ⟨.endInString, offset + 2 + short.length⟩
        else
          match simpleEscape? e with
          | some byte => readString (offset + 2) (byte :: content) rest
          | none => .error ⟨.invalidEscape, offset + 2⟩
    else if b < 0x20 then .error ⟨.controlInString, offset + 1⟩
    else readString (offset + 1) (b :: content) rest

/-- The text of a string that was read from the cursor.  Escapes are whole characters, so bytes that
are no text stand in the text itself. -/
def content (c : Cursor) : Except Fault String := do
  match Utf8.decode? (← readString c.offset [] c.rest) with
  | some text => return String.ofList text
  | none => throw ⟨.invalidUnicode, c.offset + Text.Utf8.validLength c.rest + 1⟩

/-- A string whose opening quote has been read: its content or what is wrong with it, and what
follows; or the faults of a string without an end. -/
def string (c : Cursor) : Except Faults (Except Fault String × Cursor) :=
  let content := content c
  match skipString c.offset c.rest with
  | .ok rest => .ok (content, rest)
  | .error skipped =>
    match content with
    | .error used => .error ⟨used, skipped, used, false⟩
    | .ok _ => .error (.always skipped)

/-! ## Numbers and literals -/

def isDigit (b : UInt8) : Bool := 0x30 ≤ b.toNat && b.toNat ≤ 0x39

def digits (c : Cursor) : List Nat × Cursor :=
  ((c.rest.takeWhile isDigit).map (·.toNat - 0x30), c.dropWhile isDigit)

/-- The fault of a number that is wanted, and the fault of one that is skipped, when the text
ends inside it. -/
def cut (c : Cursor) : Fault × Fault :=
  (c.fault .endInValue, c.fault .invalidNumber)

def either (fault : Fault) : Fault × Fault := (fault, fault)

def whole (c : Cursor) : Except (Fault × Fault) (List Nat × Cursor) :=
  match c.peek? with
  | none => .error (cut c)
  | some b =>
    if b = 0x30 then
      let after := c.drop 1
      if after.peek?.any isDigit then .error (either (after.peekFault .invalidNumber))
      else .ok ([0], after)
    else if isDigit b then .ok (digits c)
    else .error (either ((c.drop 1).fault .invalidNumber))

def fraction (c : Cursor) : Except (Fault × Fault) (Option (List Nat) × Cursor) :=
  if c.peek? = some 0x2e then
    let after := c.drop 1
    match digits after with
    | ([], _) =>
      .error (match after.peek? with
        | none => cut after
        | some _ => either (after.peekFault .invalidNumber))
    | (ds, rest) => .ok (some ds, rest)
  else .ok (none, c)

def exponent (c : Cursor) : Except (Fault × Fault) (Option (Bool × List Nat) × Cursor) :=
  if c.peek? = some 0x65 ∨ c.peek? = some 0x45 then
    let after := c.drop 1
    let negative : Bool := after.peek? = some 0x2d
    let after := if after.peek? = some 0x2d ∨ after.peek? = some 0x2b then after.drop 1 else after
    match digits after with
    | ([], _) =>
      .error (match after.peek? with
        | none => cut after
        | some _ => either ((after.drop 1).fault .invalidNumber))
    | (ds, rest) => .ok (some (negative, ds), rest)
  else .ok (none, c)

def numeral (c : Cursor) : Except (Fault × Fault) (Numeral × Cursor) := do
  let negative : Bool := c.peek? = some 0x2d
  let (whole, c) ← whole (if negative then c.drop 1 else c)
  let (fraction, c) ← fraction c
  let (exponent, c) ← exponent c
  return (⟨negative, whole, fraction, exponent⟩, c)

def literal (c : Cursor) : List UInt8 → Except Fault Cursor
  | [] => .ok c
  | b :: expected =>
    match c.rest with
    | [] => .error (c.fault .endInValue)
    | a :: rest =>
      let after : Cursor := ⟨c.offset + 1, rest⟩
      if a = b then literal after expected else .error (after.fault .expectedLiteral)

/-! ## Values -/

/-- A part of a tree and what follows it, unless it broke. -/
abbrev Parsed (α : Type) := α × Option Cursor

/-- What is wrong with a value that does not begin a name. -/
def unnamed (c : Cursor) (used skipped : Fault) : Tree :=
  .broken ⟨used, skipped, c.peekFault .expectedValue, c.peek? = some 0x6e⟩

def literalTree (c : Cursor) (expected : List UInt8) (tree : Span → Tree) : Parsed Tree :=
  match literal (c.drop 1) expected with
  | .ok rest => (tree ⟨c.offset, rest.offset⟩, some rest)
  | .error fault => (unnamed c fault fault, none)

def scalar (c : Cursor) (b : UInt8) : Parsed Tree :=
  if b = 0x6e then literalTree c [0x75, 0x6c, 0x6c] .null
  else if b = 0x74 then literalTree c [0x72, 0x75, 0x65] (.bool true)
  else if b = 0x66 then literalTree c [0x61, 0x6c, 0x73, 0x65] (.bool false)
  else if b = quote then
    match string (c.drop 1) with
    | .ok (content, rest) => (.string content ⟨c.offset, rest.offset⟩, some rest)
    | .error faults => (.broken faults, none)
  else if b = 0x2d || isDigit b then
    match numeral c with
    | .ok (numeral, rest) =>
      let value := match numeral.value with
        | some n => .ok n
        | none => .error ⟨.numberOutOfRange, rest.offset - numeral.spare⟩
      (.number value ⟨c.offset, rest.offset⟩, some rest)
    | .error (used, skipped) => (unnamed c used skipped, none)
  else (.broken (.always (c.peekFault .expectedValue)), none)

def ended (c : Cursor) : Tree :=
  .broken (.always (c.fault .endInValue))

mutual

def value : Nat → Cursor → Parsed Tree
  | 0, c => (ended c, none)
  | fuel + 1, c =>
    let c := c.skipSpace
    match c.peek? with
    | none => (ended c, none)
    | some b =>
      if b = 0x5b then
        let (items, rest) := items fuel true (c.drop 1)
        (.array items c.offset, rest)
      else if b = 0x7b then
        let (members, rest) := members fuel true (c.drop 1)
        (.object members c.offset, rest)
      else scalar c b

/-- The items of an array behind its bracket, or behind an item. -/
def items : Nat → Bool → Cursor → Parsed Items
  | 0, _, c => (.broken (.always (c.fault .endInList)), none)
  | fuel + 1, first, c =>
    let c := c.skipSpace
    match c.peek? with
    | none => (.broken (.always (c.fault .endInList)), none)
    | some b =>
      if b = 0x5d then (.done (c.offset + 1), some (c.drop 1))
      else if first then item fuel c
      else if b = 0x2c then
        let c := (c.drop 1).skipSpace
        if c.peek? = some 0x5d then
          let fault := c.peekFault .trailingComma
          (.broken ⟨fault, c.peekFault .expectedValue, fault, false⟩, none)
        else item fuel c
      else (.broken (.always (c.peekFault .expectedListCommaOrEnd)), none)

def item : Nat → Cursor → Parsed Items
  | 0, c => (.broken (.always (c.fault .endInList)), none)
  | fuel + 1, c =>
    match value fuel c with
    | (tree, none) => (.item c.offset tree (.done 0), none)
    | (tree, some rest) =>
      let (more, rest) := items fuel false rest
      (.item c.offset tree more, rest)

/-- The members of an object behind its brace, or behind a member. -/
def members : Nat → Bool → Cursor → Parsed Members
  | 0, _, c => (.broken (.always (c.fault .endInObject)), none)
  | fuel + 1, first, c =>
    let c := c.skipSpace
    match c.peek? with
    | none => (.broken (.always (c.fault .endInObject)), none)
    | some b =>
      if b = 0x7d then (.done (c.offset + 1), some (c.drop 1))
      else if first then member fuel c
      else if b = 0x2c then
        let c := (c.drop 1).skipSpace
        match c.peek? with
        | none =>
          let fault := c.fault .endInValue
          (.broken ⟨fault, c.fault .endInObject, fault, false⟩, none)
        | some b =>
          if b = 0x7d then
            let fault := c.peekFault .trailingComma
            (.broken ⟨fault, c.peekFault .keyNotString, fault, false⟩, none)
          else member fuel c
      else (.broken (.always (c.peekFault .expectedObjectCommaOrEnd)), none)

def member : Nat → Cursor → Parsed Members
  | 0, c => (.broken (.always (c.fault .endInObject)), none)
  | fuel + 1, c =>
    if c.peek? = some quote then
      match string (c.drop 1) with
      | .error faults => (.broken faults, none)
      | .ok (key, rest) =>
        let colon := rest.skipSpace
        let stop := if colon.peek? = some 0x7d then colon.offset + 1 else colon.offset
        let places : Places := ⟨rest.offset, stop, colon.offset⟩
        match colon.peek? with
        | none =>
          let value := .broken (.always (colon.fault .endInObject))
          (.member key places value (.done 0), none)
        | some b =>
          if b = 0x3a then
            match value fuel (colon.drop 1) with
            | (tree, none) => (.member key places tree (.done 0), none)
            | (tree, some rest) =>
              let (more, behind) := members fuel false rest
              let places := { places with next := rest.skipSpace.offset }
              (.member key places tree more, behind)
          else
            let value := .broken (.always (colon.peekFault .expectedColon))
            (.member key places value (.done 0), none)
    else (.broken (.always (c.peekFault .keyNotString)), none)

end

end Reader

end Json
end CloudReconcile
