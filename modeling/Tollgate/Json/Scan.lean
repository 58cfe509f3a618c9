import Tollgate.Json.Number
import Tollgate.Octets
import Tollgate.Text.Decimal

/-!
# Scanning JSON

The parts of JSON, taken off a cursor one after the other: blanks, words, numbers and quoted texts,
and values that are skipped. A failure knows where it happened; a failure that is about a whole
value is placed by whoever reads the value.
-/

namespace Tollgate.Json

/-- What was found in place of a value of another kind. -/
inductive Found where
  | null
  | bool (value : Bool)
  | number (value : Number)
  | text (value : String)
  | array
  | object

/-- Why a text is refused. -/
inductive Cause where
  | listEnds
  | objectEnds
  | textEnds
  | valueEnds
  | colonExpected
  | listSeparatorExpected
  | objectSeparatorExpected
  | wordExpected
  | valueExpected
  | invalidEscape
  | invalidNumber
  | numberOutOfRange
  | invalidCodePoint
  | controlCharacter
  | keyExpected
  | loneSurrogate
  | trailingComma
  | trailingCharacters
  | escapeEnds
  | invalidType (found : Found) (expected : String)
  | invalidValue (n : Nat) (expected : String)
  | invalidLength (length : Nat) (expected : String)
  | missingField (name : String)
  | duplicateField (name : String)

/-- A failure and, once it is placed, how many octets of the text lie before it. -/
structure Failure where
  cause : Cause
  index : Option Nat

/-- A place in a text and the octets from there on. -/
structure Cursor where
  index : Nat
  rest : Octets

/-- A scanner moves the cursor, also when it fails. -/
abbrev Scan := ExceptT Failure (StateM Cursor)

namespace Scan

/-- The next octet, which stays. -/
def peek : Scan (Option UInt8) := do return (← get).rest.head?

/-- Leaves the next octet behind. -/
def skip : Scan Unit := modify fun cursor =>
  match cursor.rest with
  | [] => cursor
  | _ :: rest => ⟨cursor.index + 1, rest⟩

def next : Scan (Option UInt8) := do
  let byte ← peek
  skip
  return byte

/-- Fails behind what was taken. -/
def failHere {α : Type} (cause : Cause) : Scan α := do throw ⟨cause, (← get).index⟩

/-- Fails at the octet that was looked at. -/
def failAtPeek {α : Type} (cause : Cause) : Scan α := do
  let cursor ← get
  throw ⟨cause, cursor.index + min 1 cursor.rest.length⟩

/-- Fails because of a value as a whole. -/
def failUnplaced {α : Type} (cause : Cause) : Scan α := throw ⟨cause, none⟩

/-- Places a failure that has no place yet where the cursor is. -/
def placed {α : Type} (scan : Scan α) : Scan α :=
  tryCatch scan fun failure => do
    match failure.index with
    | some _ => throw failure
    | none => throw { failure with index := (← get).index }

private def isBlankOctet (byte : UInt8) : Bool :=
  byte = 0x20 || byte = 0x0A || byte = 0x09 || byte = 0x0D

/-- Leaves octets of a class behind. -/
def skipWhile (p : UInt8 → Bool) : Scan Unit := modify fun cursor =>
  let taken := cursor.rest.takeWhile p
  ⟨cursor.index + taken.length, cursor.rest.drop taken.length⟩

/-- The next octet that is not blank, which stays. -/
def peekSolid : Scan (Option UInt8) := do
  skipWhile isBlankOctet
  peek

/-- Takes a word whose first letter is taken already. -/
def word : List UInt8 → Scan Unit
  | [] => return
  | expected :: rest => do
    match ← next with
    | none => failHere .valueEnds
    | some byte => if byte = expected then word rest else failHere .wordExpected

/-! ## What is taken -/

section Takes

variable {α β : Type} {P : α → Prop} {Q : β → Prop} {scan : Scan α} {next : α → Scan β}

/-- Whatever a scanner takes has a property. -/
def Takes (P : α → Prop) (scan : Scan α) : Prop :=
  ∀ start value after, scan.run.run start = (.ok value, after) → P value

theorem Takes.pure {value : α} (holds : P value) : Takes P (Pure.pure value) := by
  intro start taken after takes
  obtain ⟨⟨⟩, -⟩ := Prod.mk.inj takes
  exact holds

theorem Takes.throw (failure : Failure) : Takes P (MonadExcept.throw failure) := by
  intro start taken after takes
  cases takes

theorem Takes.bind (first : Takes P scan) (rest : ∀ value, P value → Takes Q (next value)) :
    Takes Q (scan >>= next) := by
  intro start taken after takes
  have step : (scan >>= next).run.run start =
      ExceptT.bindCont next (scan.run.run start).1 (scan.run.run start).2 := rfl
  rw [step] at takes
  cases read : (scan.run.run start).1 with
  | error failure =>
      rw [read] at takes
      cases takes
  | ok value =>
      rw [read] at takes
      exact rest value (first start value _ (Prod.ext read rfl)) _ taken after takes

theorem Takes.seq (rest : ∀ value, Takes Q (next value)) : Takes Q (scan >>= next) :=
  Takes.bind (P := fun _ => True) (fun _ _ _ _ => trivial) fun value _ => rest value

theorem Takes.failHere (cause : Cause) : Takes P (failHere cause) := .seq fun _ => .throw _

theorem Takes.failAtPeek (cause : Cause) : Takes P (failAtPeek cause) := .seq fun _ => .throw _

theorem Takes.tryCatch {handler : Failure → Scan α} (takes : Takes P scan)
    (handled : ∀ failure, Takes P (handler failure)) :
    Takes P (MonadExcept.tryCatch scan handler) := by
  intro start taken after caught
  rw [ExceptT.run_tryCatch, StateT.run_bind] at caught
  cases read : (scan.run.run start).1 with
  | error failure =>
      dsimp only [Bind.bind] at caught
      rw [read] at caught
      exact handled failure _ taken after caught
  | ok value =>
      dsimp only [Bind.bind] at caught
      rw [read] at caught
      obtain ⟨⟨⟩, -⟩ := Prod.mk.inj caught
      exact takes start _ _ (Prod.ext read rfl)

theorem Takes.ite {condition : Prop} [Decidable condition] {other : Scan α}
    (yes : condition → Takes P scan) (no : ¬ condition → Takes P other) :
    Takes P (if condition then scan else other) := by
  split
  next holds => exact yes holds
  next fails => exact no fails

/-- Behind a check that fails nothing is taken. -/
theorem Takes.check {condition : Prop} [Decidable condition] {failed : Scan Unit}
    (fails : Takes (fun _ => False) failed) (passed : Takes P scan) :
    Takes P (if condition then failed >>= fun _ => scan else scan) :=
  .ite (fun _ => fails.bind fun _ impossible => impossible.elim) fun _ => passed

theorem Takes.placed (takes : Takes P scan) : Takes P (placed scan) := by
  refine takes.tryCatch fun failure => ?_
  cases failure.index with
  | some index => exact .throw failure
  | none => exact .seq fun _ => .throw _

end Takes

/-! ## Numbers -/

private def isDigitOctet (byte : UInt8) : Bool := 0x30 ≤ byte && byte ≤ 0x39

private def digitAhead : Scan (Option Nat) := do
  return ((← peek).filter isDigitOctet).map fun byte => byte.toNat - 0x30

private def peekIs (bytes : List UInt8) : Scan Bool := do return (← peek).any bytes.contains

private def maxUnsigned : Nat := 0xFFFFFFFFFFFFFFFF

/-- A significand times a power of ten, by division or multiplication of floating-point numbers. -/
private def scaled (significand : Nat) (exponent : Int) : Scan Float :=
  let tenTo := fun (n : Nat) => Float.ofScientific 1 false n
  let start := significand.toUInt64.toFloat
  if 0 ≤ exponent then
    if 308 < exponent then
      if significand = 0 then return 0.0 else failHere .numberOutOfRange
    else
      let value := start * tenTo exponent.toNat
      if value.isInf then failHere .numberOutOfRange else return value
  else
    let size := (-exponent).toNat
    if size ≤ 308 then return start / tenTo size
    else
      let once := start / tenTo 308
      if size ≤ 616 then return once / tenTo (size - 308) else return 0.0

/-- Takes the digits of an exponent; nothing once the number runs beyond all bounds. -/
private def exponentDigits : (steps : Nat) → Nat → Scan (Option Nat)
  | 0, n => return some n
  | steps + 1, n => do
    match ← digitAhead with
    | none => return some n
    | some digit =>
      skip
      if 0x80000000 ≤ n * 10 + digit then return none else exponentDigits steps (n * 10 + digit)

private def exponentPart (significand : Nat) (exponent : Int) : Scan Float := do
  skip
  let negative ← peekIs [0x2D]
  if ← peekIs [0x2B, 0x2D] then skip
  match ← next with
  | none => failHere .valueEnds
  | some byte =>
    if !isDigitOctet byte then failHere .invalidNumber
    match ← exponentDigits (← get).rest.length (byte.toNat - 0x30) with
    | some n => scaled significand (if negative then exponent - n else exponent + n)
    | none =>
      if significand ≠ 0 ∧ !negative then failHere .numberOutOfRange
      skipWhile isDigitOctet
      return 0.0

/-- Takes digits as long as the significand has 64 bits, and says how many. -/
private def significandDigits : (steps : Nat) → (significand count : Nat) → Scan (Nat × Nat)
  | 0, significand, count => return (significand, count)
  | steps + 1, significand, count => do
    match ← digitAhead with
    | none => return (significand, count)
    | some digit =>
      if maxUnsigned < significand * 10 + digit then return (significand, count)
      skip
      significandDigits steps (significand * 10 + digit) (count + 1)

private def withExponent (significand : Nat) (exponent : Int) : Scan Float := do
  if ← peekIs [0x65, 0x45] then exponentPart significand exponent else scaled significand exponent

private def decimalPart (significand : Nat) (exponent : Int) : Scan Float := do
  skip
  let (longer, count) ← significandDigits (← get).rest.length significand 0
  if count = 0 ∧ (← digitAhead).isNone then
    if (← peek).isSome then failAtPeek .invalidNumber else failAtPeek .valueEnds
  skipWhile isDigitOctet
  withExponent longer (exponent - count)

/-- Takes a number whose sign is taken already. -/
def number (positive : Bool) : Scan Number := do
  let signed := fun (x : Float) => Number.float (if positive then x else -x)
  match ← next with
  | none => failHere .valueEnds
  | some byte =>
    if !isDigitOctet byte then failHere .invalidNumber
    if byte = 0x30 ∧ (← digitAhead).isSome then failAtPeek .invalidNumber
    let (significand, _) ← significandDigits (← get).rest.length (byte.toNat - 0x30) 0
    let start := (← get).index
    skipWhile isDigitOctet
    let dropped := (← get).index - start
    if ← peekIs [0x2E] then return signed (← decimalPart significand dropped)
    else if ← peekIs [0x65, 0x45] then return signed (← exponentPart significand dropped)
    else if 0 < dropped then return signed (← scaled significand dropped)
    else if positive then return .unsigned significand
    else if significand = 0 ∨ 0x8000000000000000 < significand then
      return .float (-significand.toUInt64.toFloat)
    else return .signed (-significand)

/-- A number with a minus sign in front has 64 bits if it is whole. -/
theorem takes_number (positive : Bool) :
    Takes (fun taken => ∀ n, taken = .signed n → Text.fitsInt64 n = true) (number positive) := by
  unfold number
  refine .seq fun byte => ?_
  split
  next => exact .failHere _
  next byte =>
    refine .check (.failHere _) (.seq fun zero => .check (.failAtPeek _) ?_)
    refine .seq fun cursor => .seq fun (significand, _) => .seq fun start => .seq fun _ =>
      .seq fun stop => .seq fun point => ?_
    refine .ite (fun _ => .seq fun _ => .pure nofun) fun _ => .seq fun exponent => ?_
    refine .ite (fun _ => .seq fun _ => .pure nofun) fun _ => ?_
    refine .ite (fun _ => .seq fun _ => .pure nofun) fun _ => ?_
    refine .ite (fun _ => .pure nofun) fun _ => ?_
    refine .ite (fun _ => .pure nofun) fun small => .pure ?_
    rintro n ⟨⟩
    rw [Text.fitsInt64_iff, Text.minInt64, Text.maxInt64]
    omega

/-- Takes a number whose value does not matter. -/
def skipNumber : Scan Unit := do
  let skipExponent : Scan Unit := do
    skip
    if ← peekIs [0x2B, 0x2D] then skip
    if !(← next).any isDigitOctet then failHere .invalidNumber
    skipWhile isDigitOctet
  match ← next with
  | none => failHere .invalidNumber
  | some byte =>
    if !isDigitOctet byte then failHere .invalidNumber
    if byte = 0x30 then
      if (← digitAhead).isSome then failAtPeek .invalidNumber
    else skipWhile isDigitOctet
    if ← peekIs [0x2E] then
      skip
      if (← digitAhead).isNone then failAtPeek .invalidNumber
      skipWhile isDigitOctet
    if ← peekIs [0x65, 0x45] then skipExponent

/-! ## Quoted texts -/

private def hexEscape : Scan Nat := do
  match (← get).rest with
  | a :: b :: c :: d :: rest =>
    modify fun cursor => ⟨cursor.index + 4, rest⟩
    let digits := [a, b, c, d].map fun byte =>
      if byte < 0x80 then Char.ofNat byte.toNat else '\x00'
    match Text.natural? 16 digits with
    | some n => return n
    | none => failHere .invalidEscape
  | rest =>
    modify fun cursor => ⟨cursor.index + rest.length, []⟩
    failHere .textEnds

private def expectInEscape (byte : UInt8) : Scan Unit := do
  match ← next with
  | none => failHere .textEnds
  | some found => if found ≠ byte then failHere .escapeEnds

/-- Takes a code point, which may be spelt as a pair of surrogates. -/
private def unicodeEscape : Scan Octets := do
  let n ← hexEscape
  if 0xDC00 ≤ n ∧ n ≤ 0xDFFF then failHere .loneSurrogate
  if n < 0xD800 ∨ 0xDFFF < n then return Octets.ofText (String.singleton (Char.ofNat n))
  expectInEscape 0x5C
  expectInEscape 0x75
  let low ← hexEscape
  if low < 0xDC00 ∨ 0xDFFF < low then failHere .loneSurrogate
  let codePoint := (n - 0xD800) * 0x400 + (low - 0xDC00) + 0x10000
  return Octets.ofText (String.singleton (Char.ofNat codePoint))

/-- Takes what follows a backslash. Where the text does not matter, surrogates need no partner. -/
private def escapeBody (checked : Bool) : Scan Octets := do
  match ← next with
  | none => failHere .textEnds
  | some 0x22 => return [0x22]
  | some 0x5C => return [0x5C]
  | some 0x2F => return [0x2F]
  | some 0x62 => return [0x08]
  | some 0x66 => return [0x0C]
  | some 0x6E => return [0x0A]
  | some 0x72 => return [0x0D]
  | some 0x74 => return [0x09]
  | some 0x75 => if checked then unicodeEscape else do let _ ← hexEscape; return []
  | some _ => failHere .invalidEscape

private def quotedOctets (checked : Bool) : (steps : Nat) → Scan Octets
  | 0 => failHere .textEnds
  | steps + 1 => do
    let plain := (← get).rest.takeWhile fun byte => byte ≠ 0x22 && byte ≠ 0x5C && 0x20 ≤ byte
    modify fun cursor => ⟨cursor.index + plain.length, cursor.rest.drop plain.length⟩
    match ← peek with
    | none => failHere .textEnds
    | some 0x22 =>
      skip
      return plain
    | some 0x5C =>
      skip
      let escaped ← escapeBody checked
      return plain ++ escaped ++ (← quotedOctets checked steps)
    | some _ =>
      if checked then skip
      failHere .controlCharacter

/-- Takes a text whose opening quote is taken already. -/
def quoted : Scan String := do
  let octets ← quotedOctets true ((← get).rest.length + 1)
  match octets.text? with
  | some text => return text
  | none => failHere .invalidCodePoint

/-- Takes a text that does not matter, behind its opening quote. -/
def skipQuoted : Scan Unit := do
  let _ ← quotedOctets false ((← get).rest.length + 1)

/-! ## Values that do not matter -/

inductive Container where
  | list
  | object
  deriving DecidableEq

private def Container.close : Container → UInt8
  | .list => 0x5D
  | .object => 0x7D

/-- Goes on inside containers, the innermost first, up to where the next value starts. Nothing is
returned when all of them are closed. A comma is only accepted behind a value. -/
private def toNextValue : (afterValue : Bool) → List Container → Scan (Option (List Container))
  | _, [] => return none
  | afterValue, container :: outer => do
    match ← peekSolid with
    | none => failAtPeek (if container = .list then .listEnds else .objectEnds)
    | some byte =>
      if byte = container.close then
        skip
        toNextValue true outer
      else if byte = 0x2C ∧ afterValue then
        skip
        return some (container :: outer)
      else if afterValue then
        failAtPeek (if container = .list then .listSeparatorExpected else .objectSeparatorExpected)
      else return some (container :: outer)

/-- Takes the key of a value in an object. -/
private def skipKey : Scan Unit := do
  match ← peekSolid with
  | none => failAtPeek .objectEnds
  | some 0x22 => skip
  | some _ => failAtPeek .keyExpected
  skipQuoted
  match ← peekSolid with
  | none => failAtPeek .objectEnds
  | some 0x3A => skip
  | some _ => failAtPeek .colonExpected

/-- Takes the start of a value, and says whether it opened a container. -/
private def skipStart : Scan (Option Container) := do
  match ← peekSolid with
  | none => failAtPeek .valueEnds
  | some 0x6E => skip; word [0x75, 0x6C, 0x6C]; return none
  | some 0x74 => skip; word [0x72, 0x75, 0x65]; return none
  | some 0x66 => skip; word [0x61, 0x6C, 0x73, 0x65]; return none
  | some 0x2D => skip; skipNumber; return none
  | some 0x22 => skip; skipQuoted; return none
  | some 0x5B => skip; return some .list
  | some 0x7B => skip; return some .object
  | some byte => if isDigitOctet byte then do skipNumber; return none else failAtPeek .valueExpected

private def skipValues : (steps : Nat) → List Container → Scan Unit
  | 0, _ => return
  | steps + 1, containers => do
    let opened ← skipStart
    let inside := opened.toList ++ containers
    match ← toNextValue opened.isNone inside with
    | none => return
    | some containers =>
      if containers.head? = some .object then skipKey
      skipValues steps containers

def skipValue : Scan Unit := do skipValues ((← get).rest.length + 1) []

end Scan

end Tollgate.Json
