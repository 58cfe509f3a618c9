import Tollgate.Json.Scan

/-!
# Records in JSON

A record of texts and whole numbers is read from an object, where fields may come in any order and
unknown ones are skipped, or from an array of its values in order. What is refused is described
together with the line and column where reading stopped.
-/

namespace Tollgate.Json

/-! ## What is said of a refusal -/

/-- A character as it is shown between quotes in a description. -/
private def shownChar (c : Char) : List Char :=
  let n := c.toNat
  match c with
  | '"' => ['\\', '"']
  | '\\' => ['\\', '\\']
  | '\n' => ['\\', 'n']
  | '\r' => ['\\', 'r']
  | '\t' => ['\\', 't']
  | '\x00' => ['\\', '0']
  | _ =>
    let hidden := n < 0x20 || (0x7F ≤ n && n < 0xA0) || n = 0xAD || (0x300 ≤ n && n ≤ 0x36F)
      || (0x200B ≤ n && n ≤ 0x200F) || (0x2028 ≤ n && n ≤ 0x202E) || (0x2060 ≤ n && n ≤ 0x206F)
      || (0xE000 ≤ n && n ≤ 0xF8FF) || (0xFE00 ≤ n && n ≤ 0xFE0F) || n = 0xFEFF
      || (0xFFF0 ≤ n && n ≤ 0xFFFB) || n = 0xFFFE || n = 0xFFFF || 0xE0000 ≤ n
    if hidden then ['\\', 'u', '\x7b'] ++ Nat.toDigits 16 n ++ ['\x7d'] else [c]

private def shownText (text : String) : String :=
  "\"" ++ String.ofList (text.toList.flatMap shownChar) ++ "\""

def Found.message : Found → String
  | .null => "null"
  | .bool value => s!"boolean `{value}`"
  | .number (.unsigned n) => s!"integer `{n}`"
  | .number (.signed n) => s!"integer `{n}`"
  | .number (.float x) => s!"floating point `{Number.floatText x}`"
  | .text value => s!"string {shownText value}"
  | .array => "sequence"
  | .object => "map"

/-- Why a text is refused, in words. -/
def Cause.message : Cause → String
  | .listEnds => "EOF while parsing a list"
  | .objectEnds => "EOF while parsing an object"
  | .textEnds => "EOF while parsing a string"
  | .valueEnds => "EOF while parsing a value"
  | .colonExpected => "expected `:`"
  | .listSeparatorExpected => "expected `,` or `]`"
  | .objectSeparatorExpected => "expected `,` or `\x7d`"
  | .wordExpected => "expected ident"
  | .valueExpected => "expected value"
  | .invalidEscape => "invalid escape"
  | .invalidNumber => "invalid number"
  | .numberOutOfRange => "number out of range"
  | .invalidCodePoint => "invalid unicode code point"
  | .controlCharacter => "control character (\\u0000-\\u001F) found while parsing a string"
  | .keyExpected => "key must be a string"
  | .loneSurrogate => "lone leading surrogate in hex escape"
  | .trailingComma => "trailing comma"
  | .trailingCharacters => "trailing characters"
  | .escapeEnds => "unexpected end of hex escape"
  | .invalidType found expected => s!"invalid type: {found.message}, expected {expected}"
  | .invalidValue n expected => s!"invalid value: integer `{n}`, expected {expected}"
  | .invalidLength length expected => s!"invalid length {length}, expected {expected}"
  | .missingField name => s!"missing field `{name}`"
  | .duplicateField name => s!"duplicate field `{name}`"

/-- The line of a text that an index is in, and how far into the line it is. -/
def lineAndColumn (text : Octets) (index : Nat) : Nat × Nat :=
  let before := text.take index
  (1 + before.count 0x0A, (before.reverse.takeWhile (· ≠ 0x0A)).length)

def Failure.message (failure : Failure) (text : Octets) : String :=
  match failure.index with
  | some index =>
    let (line, column) := lineAndColumn text index
    s!"{failure.cause.message} at line {line} column {column}"
  | none => failure.cause.message

/-! ## Shapes -/

inductive FieldKind where
  | text
  | integer
  deriving DecidableEq, Repr

/-- What a kind of field is called where something else was found. -/
def FieldKind.expected : FieldKind → String
  | .text => "a string"
  | .integer => "i64"

/-- A field; one that is not required has the empty text or zero if it is left out. -/
structure Field where
  name : String
  kind : FieldKind
  required : Bool
  deriving Repr

structure Shape where
  name : String
  fields : List Field

def Shape.expected (shape : Shape) : String := s!"struct {shape.name}"

inductive Value where
  | text (value : String)
  | integer (value : Int)
  deriving DecidableEq, Repr

def Value.toText : Value → String
  | .text value => value
  | .integer _ => ""

/-- The number of a field that holds one. -/
def Value.toInt : Value → Int
  | .text _ => 0
  | .integer value => value

/-- The number in a value, if there is one, has 64 bits. -/
def Value.Fits (value : Value) : Prop := Text.fitsInt64 value.toInt = true

theorem Value.fits_text (value : String) : (Value.text value).Fits := rfl

/-- The value of a field that was left out. -/
def Field.absent (field : Field) : Value :=
  match field.kind with
  | .text => .text ""
  | .integer => .integer 0

/-! ## Reading -/

namespace Scan

private def otherKind {α : Type} (expected : String) (found : Found) : Scan α :=
  failUnplaced (.invalidType found expected)

/-- Refuses the next value because it is of another kind than expected. -/
private def refuseValue {α : Type} (expected : String) : Scan α := placed do
  match ← peek with
  | some 0x6E => skip; word [0x75, 0x6C, 0x6C]; otherKind expected .null
  | some 0x74 => skip; word [0x72, 0x75, 0x65]; otherKind expected (.bool true)
  | some 0x66 => skip; word [0x61, 0x6C, 0x73, 0x65]; otherKind expected (.bool false)
  | some 0x2D => skip; otherKind expected (.number (← number false))
  | some 0x22 => skip; otherKind expected (.text (← quoted))
  | some 0x5B => otherKind expected .array
  | some 0x7B => otherKind expected .object
  | some byte =>
    if 0x30 ≤ byte && byte ≤ 0x39 then otherKind expected (.number (← number true))
    else failAtPeek .valueExpected
  | none => failAtPeek .valueExpected

private def integerOf (n : Number) : Scan Value :=
  let expected := FieldKind.integer.expected
  match n with
  | .unsigned value =>
    if Text.fitsInt64 value then return .integer value
    else failUnplaced (.invalidValue value expected)
  | .signed value => return .integer value
  | .float _ => otherKind expected (.number n)

def value (kind : FieldKind) : Scan Value := do
  match ← peekSolid with
  | none => failAtPeek .valueEnds
  | some byte => placed do
    match kind with
    | .text =>
      if byte = 0x22 then do skip; return .text (← quoted)
      else refuseValue kind.expected
    | .integer =>
      if byte = 0x2D then do skip; integerOf (← number false)
      else if 0x30 ≤ byte && byte ≤ 0x39 then integerOf (← number true)
      else refuseValue kind.expected

/-- Whether an array goes on, with the comma taken. -/
private def hasElement (first : Bool) : Scan Bool := do
  match ← peekSolid with
  | none => failAtPeek .listEnds
  | some 0x5D => return false
  | some byte =>
    if first then return true
    if byte ≠ 0x2C then failAtPeek .listSeparatorExpected
    skip
    match ← peekSolid with
    | none => failAtPeek .valueEnds
    | some 0x5D => failAtPeek .trailingComma
    | some _ => return true

/-- Takes the values of the fields in order, as far as the array goes. -/
private def elements (shape : Shape) : (place : Nat) → List Field → Scan (List Value)
  | _, [] => return []
  | place, field :: rest => do
    if ← hasElement (place = 0) then
      let first ← value field.kind
      return first :: (← elements shape (place + 1) rest)
    else if field.required then
      failUnplaced (.invalidLength place
        s!"{shape.expected} with {shape.fields.length} elements")
    else return field.absent :: (← elements shape (place + 1) rest)

private def closeList : Scan Unit := do
  match ← peekSolid with
  | some 0x5D => skip
  | some 0x2C =>
    skip
    match ← peekSolid with
    | some 0x5D => failAtPeek .trailingComma
    | _ => failAtPeek .trailingCharacters
  | some _ => failAtPeek .trailingCharacters
  | none => failAtPeek .listEnds

/-- Whether an object goes on, up to the opening quote of a key. -/
private def hasKey (first : Bool) : Scan Bool := do
  match ← peekSolid with
  | none => failAtPeek .objectEnds
  | some 0x7D => return false
  | some byte =>
    if first then
      if byte = 0x22 then return true else failAtPeek .keyExpected
    if byte ≠ 0x2C then failAtPeek .objectSeparatorExpected
    skip
    match ← peekSolid with
    | none => failAtPeek .valueEnds
    | some 0x22 => return true
    | some 0x7D => failAtPeek .trailingComma
    | some _ => failAtPeek .keyExpected

private def colon : Scan Unit := do
  match ← peekSolid with
  | none => failAtPeek .objectEnds
  | some 0x3A => skip
  | some _ => failAtPeek .colonExpected

/-- Takes the fields of an object, in the order in which they come. -/
private def members (shape : Shape) :
    (steps : Nat) → (first : Bool) → List (String × Value) → Scan (List (String × Value))
  | 0, _, known => return known
  | steps + 1, first, known => do
    if !(← hasKey first) then return known
    skip
    let key ← quoted
    match shape.fields.find? (·.name = key) with
    | some field =>
      if (known.lookup key).isSome then failUnplaced (.duplicateField key)
      colon
      let found ← value field.kind
      members shape steps false ((key, found) :: known)
    | none =>
      colon
      skipValue
      members shape steps false known

private def complete (known : List (String × Value)) : List Field → Scan (List Value)
  | [] => return []
  | field :: rest => do
    match known.lookup field.name with
    | some found => return found :: (← complete known rest)
    | none =>
      if field.required then failUnplaced (.missingField field.name)
      else return field.absent :: (← complete known rest)

private def closeObject : Scan Unit := do
  match ← peekSolid with
  | some 0x7D => skip
  | some 0x2C => failAtPeek .trailingComma
  | some _ => failAtPeek .trailingCharacters
  | none => failAtPeek .objectEnds

/-- Runs a scanner and returns how it went. -/
private def outcome {α : Type} (scan : Scan α) : Scan (Except Failure α) := ExceptT.lift scan.run

/-- Takes what a container holds and its end. The end is looked for even when the content is
refused, which is then what counts. -/
private def enclosed {α : Type} (content : Scan α) (close : Scan Unit) : Scan α := do
  skip
  match ← outcome content with
  | .ok found =>
    close
    return found
  | .error failure =>
    let _ ← outcome close
    throw failure

/-- Takes a record: the values of its fields in the order of its shape. -/
def record (shape : Shape) : Scan (List Value) := do
  match ← peekSolid with
  | none => failAtPeek .valueEnds
  | some 0x5B => placed (enclosed (elements shape 0 shape.fields) closeList)
  | some 0x7B =>
    let content := do
      let known ← members shape ((← get).rest.length + 1) true []
      complete known shape.fields
    placed (enclosed content closeObject)
  | some _ => refuseValue shape.expected

/-! ## Numbers of a record -/

private theorem takes_otherKind {α : Type} {P : α → Prop} (expected : String) (found : Found) :
    Takes P (otherKind expected found) := .throw _

private theorem takes_refuseValue {α : Type} {P : α → Prop} (expected : String) :
    Takes P (refuseValue expected) := by
  refine .placed (.seq fun byte => ?_)
  split
  next => exact .seq fun _ => .seq fun _ => takes_otherKind expected _
  next => exact .seq fun _ => .seq fun _ => takes_otherKind expected _
  next => exact .seq fun _ => .seq fun _ => takes_otherKind expected _
  next => exact .seq fun _ => .seq fun _ => takes_otherKind expected _
  next => exact .seq fun _ => .seq fun _ => takes_otherKind expected _
  next => exact takes_otherKind expected _
  next => exact takes_otherKind expected _
  next => exact .ite (fun _ => .seq fun _ => takes_otherKind expected _) fun _ => .failAtPeek _
  next => exact .failAtPeek _

private theorem takes_integerOf {n : Number}
    (whole : ∀ value, n = .signed value → Text.fitsInt64 value = true) :
    Takes Value.Fits (integerOf n) := by
  cases n with
  | unsigned value => exact .ite (fun fits => .pure fits) fun _ => .throw _
  | signed value => exact .pure (whole value rfl)
  | float => exact takes_otherKind _ _

theorem takes_value (kind : FieldKind) : Takes Value.Fits (value kind) := by
  refine .seq fun byte => ?_
  split
  next => exact .failAtPeek _
  next byte =>
    refine .placed ?_
    cases kind with
    | text =>
        refine .ite (fun _ => .seq fun _ => .seq fun text => .pure (Value.fits_text text)) ?_
        exact fun _ => takes_refuseValue _
    | integer =>
        refine .ite (fun _ => .seq fun _ => (takes_number false).bind fun _ => takes_integerOf) ?_
        refine fun _ => .ite (fun _ => (takes_number true).bind fun _ => takes_integerOf) ?_
        exact fun _ => takes_refuseValue _

private theorem fits_absent (field : Field) : field.absent.Fits := by
  unfold Field.absent
  cases field.kind <;> rfl

private theorem takes_elements (shape : Shape) (place : Nat) (fields : List Field) :
    Takes (fun values => ∀ value ∈ values, value.Fits) (elements shape place fields) := by
  induction fields generalizing place with
  | nil => exact .pure (List.forall_mem_nil _)
  | cons field rest ih =>
      refine .seq fun goesOn => .ite (fun _ => ?_) fun _ => .ite (fun _ => .throw _) fun _ => ?_
      · refine (takes_value field.kind).bind fun first fits => ?_
        refine (ih (place + 1)).bind fun more all => ?_
        exact .pure (List.forall_mem_cons.mpr ⟨fits, all⟩)
      · refine (ih (place + 1)).bind fun more all => ?_
        exact .pure (List.forall_mem_cons.mpr ⟨fits_absent field, all⟩)

private theorem takes_members (shape : Shape) (steps : Nat) (first : Bool)
    {known : List (String × Value)} (fits : ∀ entry ∈ known, entry.2.Fits) :
    Takes (fun found => ∀ entry ∈ found, entry.2.Fits) (members shape steps first known) := by
  induction steps generalizing first known with
  | zero => exact .pure fits
  | succ steps ih =>
      refine .seq fun goesOn => .ite (fun _ => .pure fits) fun _ => .seq fun _ => .seq fun key => ?_
      split
      next field _ =>
        refine .check (.throw _) (.seq fun _ => ?_)
        refine (takes_value field.kind).bind fun found fits_too => ?_
        exact ih false (List.forall_mem_cons.mpr ⟨fits_too, fits⟩)
      next => exact .seq fun _ => .seq fun _ => ih false fits

private theorem takes_complete {known : List (String × Value)}
    (fits : ∀ entry ∈ known, entry.2.Fits) (fields : List Field) :
    Takes (fun values => ∀ value ∈ values, value.Fits) (complete known fields) := by
  induction fields with
  | nil => exact .pure (List.forall_mem_nil _)
  | cons field rest ih =>
      unfold complete
      split
      next found looked =>
        refine ih.bind fun more all => .pure (List.forall_mem_cons.mpr ⟨?_, all⟩)
        obtain ⟨before, behind, rfl, -⟩ := List.lookup_eq_some_iff.mp looked
        exact fits _ (List.mem_append_right before List.mem_cons_self)
      next =>
        refine .ite (fun _ => .throw _) fun _ => ih.bind fun more all => ?_
        exact .pure (List.forall_mem_cons.mpr ⟨fits_absent field, all⟩)

private theorem takes_outcome {α : Type} {P : α → Prop} {content : Scan α}
    (takes : Takes P content) :
    Takes (fun result => ∀ value, result = .ok value → P value) (outcome content) := by
  intro start result after ran
  obtain ⟨⟨⟩, rfl⟩ := Prod.mk.inj ran
  exact fun value read => takes start value _ (Prod.ext read rfl)

private theorem takes_enclosed {α : Type} {P : α → Prop} {content : Scan α} {close : Scan Unit}
    (takes : Takes P content) : Takes P (enclosed content close) := by
  refine .seq fun _ => (takes_outcome takes).bind fun result holds => ?_
  cases result with
  | ok found => exact .seq fun _ => .pure (holds found rfl)
  | error failure => exact .seq fun _ => .throw failure

theorem takes_record (shape : Shape) :
    Takes (fun values => ∀ value ∈ values, value.Fits) (record shape) := by
  refine .seq fun byte => ?_
  split
  next => exact .failAtPeek _
  next => exact .placed (takes_enclosed (takes_elements shape 0 shape.fields))
  next =>
    refine .placed (takes_enclosed (.seq fun cursor => ?_))
    refine (takes_members shape _ true (List.forall_mem_nil _)).bind fun known fits => ?_
    exact takes_complete fits shape.fields
  next => exact takes_refuseValue _

end Scan

def readRecord (shape : Shape) (text : Octets) : Except Failure (List Value) :=
  let whole : Scan (List Value) := do
    let values ← Scan.record shape
    if (← Scan.peekSolid).isSome then Scan.failAtPeek .trailingCharacters
    return values
  (Id.run (StateT.run (ExceptT.run whole) ⟨0, text⟩)).1

theorem fits_of_readRecord {shape : Shape} {text : Octets} {values : List Value}
    (read : readRecord shape text = .ok values) : ∀ value ∈ values, value.Fits := by
  have takes : Scan.Takes (fun values => ∀ value ∈ values, value.Fits) (do
      let values ← Scan.record shape
      if (← Scan.peekSolid).isSome then Scan.failAtPeek .trailingCharacters
      return values) := by
    refine (Scan.takes_record shape).bind fun values fits => .seq fun _ => ?_
    exact .check (.failAtPeek _) (.pure fits)
  exact takes ⟨0, text⟩ values _ (Prod.ext read rfl)

end Tollgate.Json
