import Tollgate.Dns.Name
import Tollgate.Text.Idna
import Tollgate.Text.Utf8
import Tollgate.Text.Blank
import Tollgate.Text.Decimal

/-!
# The text of domain names

Labels are written with dots between them, and an absolute name ends in a dot. A label that is an
internationalised form is shown in Unicode. In other labels a character that host names do not use
is written behind a backslash, and an octet that is no printable ASCII character as a backslash and
three octal digits.

A label typed by a person is taken as it is if it is the wildcard or starts with an underscore, and
goes through the rules for internationalised labels otherwise.
-/

namespace Tollgate.Dns

namespace Label

/-- Characters that a label may show as they are. The wildcard only starts a label, and a hyphen
does not. -/
def isSafe (first : Bool) (c : Char) : Bool :=
  c.isAlphanum || (c = '-' && !first) || c = '_' || (c = '*' && first)

private def octal (byte : UInt8) : List Char :=
  let n := byte.toNat
  ['\\', Nat.digitChar (n / 64), Nat.digitChar (n / 8 % 8), Nat.digitChar (n % 8)]

private def escaped (first : Bool) (byte : UInt8) : List Char :=
  let c := Char.ofNat byte.toNat
  if isSafe first c then [c]
  else if 0x20 < byte && byte < 0x7F then ['\\', c]
  else octal byte

def escapedText : Label → List Char
  | [] => []
  | first :: rest => escaped true first ++ rest.flatMap (escaped false)

def text (label : Label) (idna : Text.Idna) : List Char :=
  let plain := Text.Utf8.decodeLossy label
  match Text.dropStart? Text.Idna.mark plain with
  | some _ => (idna.shown.toUnicode? plain).getD (escapedText label)
  | none => escapedText label

private def ofAscii? (text : List Char) : Option Label :=
  let octets := text.map fun c => c.toNat.toUInt8
  match text with
  | [] => none
  | first :: rest =>
    if (isSafe true first || first = '.') && rest.all (fun c => isSafe false c || c = '.')
        && text.length ≤ maxLength then
      some octets
    else none

def ofText? (idna : Text.Idna) (text : List Char) : Option Label :=
  if text.head? = some '_' ∨ text = ['*'] then ofAscii? text
  else (idna.typed.toAscii? text).bind ofAscii?

def isTyped (c : Char) : Bool := isSafe true c || isSafe false c || c = '.'

private theorem isTyped_of_ofAscii? {text : List Char} {label : Label}
    (h : ofAscii? text = some label) :
    text ≠ [] ∧ text.length ≤ maxLength ∧ ∀ c ∈ text, isTyped c = true := by
  unfold ofAscii? at h
  dsimp only at h
  cases text with
  | nil => cases h
  | cons first rest =>
    rw [Option.ite_none_right_eq_some] at h
    obtain ⟨⟨⟨front, behind⟩, short⟩, -⟩ : ((_ ∧ _) ∧ _) ∧ _ := by simpa using h
    refine ⟨List.cons_ne_nil first rest, short, ?_⟩
    intro c mem
    rcases List.mem_cons.mp mem with rfl | mem
    · rcases front with safe | dot
      · simp [isTyped, safe]
      · simp [isTyped, dot]
    · rcases behind c mem with safe | dot
      · simp [isTyped, safe]
      · simp [isTyped, dot]

theorem isTyped_of_ofText? {idna : Text.Idna} {text : List Char} {label : Label}
    (ascii : ∀ c ∈ text, c.toNat < 128) (h : ofText? idna text = some label) :
    text ≠ [] ∧ text.length ≤ maxLength ∧ ∀ c ∈ text, isTyped c = true := by
  unfold ofText? at h
  split at h
  next => exact isTyped_of_ofAscii? h
  next =>
    obtain ⟨form, form_eq, h⟩ := Option.bind_eq_some_iff.mp h
    obtain rfl := Text.Idna.Rules.toAscii?_of_ascii ascii form_eq
    obtain ⟨nonempty, short, typed⟩ := isTyped_of_ofAscii? h
    rw [List.length_map] at short
    refine ⟨by simpa using nonempty, short, ?_⟩
    intro c mem
    have lower_typed := typed _ (List.mem_map_of_mem mem)
    exact Text.of_ascii (P := fun c => isTyped c.toLower = true → isTyped c = true)
      (by decide +kernel) (ascii c mem) lower_typed

/-! ## Escapes -/

def isSafeOctet (first : Bool) (octet : UInt8) : Bool := isSafe first (Char.ofNat octet.toNat)

/-- A label is shown as it is if all of its octets are. -/
def IsSafe : Label → Prop
  | [] => True
  | first :: rest => isSafeOctet true first = true ∧ ∀ octet ∈ rest, isSafeOctet false octet = true

instance (label : Label) : Decidable (IsSafe label) :=
  match label with
  | [] => .isTrue trivial
  | _ :: _ => inferInstanceAs (Decidable (_ ∧ _))

/-- What can be checked of each octet is so of all. -/
theorem of_octets {P : UInt8 → Prop} (all : ∀ n < 256, P (UInt8.ofNat n)) (octet : UInt8) :
    P octet := by
  have this := all octet.toNat octet.toNat_lt
  rwa [UInt8.ofNat_toNat] at this

private theorem escaped_of_isSafeOctet {first : Bool} {octet : UInt8}
    (safe : isSafeOctet first octet = true) : escaped first octet = [Char.ofNat octet.toNat] :=
  if_pos safe

private theorem ascii_of_mem_escaped (first : Bool) (octet : UInt8) :
    ∀ c ∈ escaped first octet, c.toNat < 128 := by
  have all : (escaped first octet).all (·.toNat < 128) = true :=
    of_octets (P := fun octet => ∀ first, (escaped first octet).all (·.toNat < 128) = true)
      (by decide +kernel) octet first
  simpa using all

private theorem count_escaped (first : Bool) (octet : UInt8) :
    (escaped first octet).count '\\' =
      (if octet == 0x5C then 1 else 0) + (if !isSafeOctet first octet then 1 else 0) :=
  of_octets (P := fun octet => ∀ first, (escaped first octet).count '\\' =
      (if octet == 0x5C then 1 else 0) + (if !isSafeOctet first octet then 1 else 0))
    (by decide +kernel) octet first

private theorem exists_ne_dot_escaped (first : Bool) (octet : UInt8) :
    ∃ c ∈ escaped first octet, c ≠ '.' := by
  have any : (escaped first octet).any (· ≠ '.') = true :=
    of_octets (P := fun octet => ∀ first, (escaped first octet).any (· ≠ '.') = true)
      (by decide +kernel) octet first
  simpa using any

theorem escapedText_of_isSafe {label : Label} (safe : IsSafe label) :
    escapedText label = label.map fun octet => Char.ofNat octet.toNat := by
  cases label with
  | nil => rfl
  | cons first rest =>
    obtain ⟨front, behind⟩ := safe
    have rest_eq : rest.flatMap (escaped false) = rest.map fun octet => Char.ofNat octet.toNat := by
      induction rest with
      | nil => rfl
      | cons octet rest ih =>
        obtain ⟨here, later⟩ := List.forall_mem_cons.mp behind
        rw [List.flatMap_cons, escaped_of_isSafeOctet here, ih later]
        rfl
    rw [escapedText, escaped_of_isSafeOctet front, rest_eq]
    rfl

theorem ascii_of_mem_escapedText {label : Label} : ∀ c ∈ escapedText label, c.toNat < 128 := by
  cases label with
  | nil => exact List.forall_mem_nil _
  | cons first rest =>
    rw [escapedText, List.forall_mem_append]
    refine ⟨ascii_of_mem_escaped true first, ?_⟩
    intro c mem
    obtain ⟨octet, -, mem⟩ := List.mem_flatMap.mp mem
    exact ascii_of_mem_escaped false octet c mem

private theorem count_flatMap_escaped (octets : Octets) :
    (octets.flatMap (escaped false)).count '\\' =
      octets.count 0x5C + octets.countP fun octet => !isSafeOctet false octet := by
  induction octets with
  | nil => rfl
  | cons octet rest ih =>
    rw [List.flatMap_cons, List.count_append, count_escaped, ih, List.count_cons, List.countP_cons]
    omega

/-- Without backslashes but those of the label there are no escapes. -/
theorem isSafe_of_count {label : Label}
    (unescaped : (escapedText label).count '\\' = label.count 0x5C) : IsSafe label := by
  cases label with
  | nil => trivial
  | cons first rest =>
    rw [escapedText, List.count_append, count_escaped, count_flatMap_escaped, List.count_cons]
      at unescaped
    constructor
    · cases front : isSafeOctet true first with
      | true => rfl
      | false =>
        rw [front, Bool.not_false, if_pos rfl] at unescaped
        omega
    · have behind : rest.countP (fun octet => !isSafeOctet false octet) = 0 := by omega
      simpa using List.countP_eq_zero.mp behind

theorem exists_ne_dot_of_escapedText {label : Label} (nonempty : label ≠ []) :
    ∃ c ∈ escapedText label, c ≠ '.' := by
  obtain ⟨first, rest, rfl⟩ := List.exists_cons_of_ne_nil nonempty
  obtain ⟨c, mem, other⟩ := exists_ne_dot_escaped true first
  exact ⟨c, List.mem_append_left _ mem, other⟩

/-! ## Labels that are typed -/

private theorem eq_of_ofAscii? {text : List Char} {label : Label} (h : ofAscii? text = some label) :
    label = text.map fun c => c.toNat.toUInt8 := by
  unfold ofAscii? at h
  dsimp only at h
  split at h
  next => cases h
  next => exact (Option.some.inj (Option.ite_none_right_eq_some.mp h).2).symm

/-- An ASCII text that names a label names the label of its octets, up to case. -/
theorem lower_of_ofText? {idna : Text.Idna} {text : List Char} {label : Label}
    (ascii : ∀ c ∈ text, c.toNat < 128) (h : ofText? idna text = some label) :
    lower label = lower (text.map fun c => c.toNat.toUInt8) := by
  unfold ofText? at h
  split at h
  next => rw [eq_of_ofAscii? h]
  next =>
    obtain ⟨form, form_eq, h⟩ := Option.bind_eq_some_iff.mp h
    obtain rfl := Text.Idna.Rules.toAscii?_of_ascii ascii form_eq
    rw [eq_of_ofAscii? h, lower, lower, List.map_map, List.map_map, List.map_map,
      List.map_inj_left]
    intro c mem
    exact Text.of_ascii
      (P := fun c => lowerOctet c.toLower.toNat.toUInt8 = lowerOctet c.toNat.toUInt8)
      (by decide +kernel) (ascii c mem)

end Label

namespace Name

def text (name : Name) (idna : Text.Idna) : String :=
  let labels := ".".intercalate (name.labels.map fun label => String.ofList (label.text idna))
  if name.absolute then labels ++ "." else labels

def prepend? (name : Name) (idna : Text.Idna) (label : String) : Option Name := do
  name.child? (← Label.ofText? idna label.toList)

/-- A character that names cannot hold unescaped. -/
private def isRefused (c : Char) : Bool :=
  c.toNat < 0x20 || (0x7F ≤ c.toNat && c.toNat < 0xA0) || Text.isBlank c

/-- Splits the text of a name into its labels with escapes undone; the last part is what stands
behind the last dot. -/
private def parts? (label : List Char) : List Char → Option (List (List Char))
  | [] => some [label.reverse]
  | '.' :: rest => (parts? [] rest).map (label.reverse :: ·)
  | '\\' :: c :: rest =>
    if c.isDigit then
      match rest with
      | d :: e :: rest =>
        match Text.natural? 8 [c, d, e] with
        | some value =>
          if Nat.isValidChar value then parts? (Char.ofNat value :: label) rest else none
        | none => none
      | _ => none
    else parts? (c :: label) rest
  | ['\\'] => some [label.reverse]
  | c :: rest => if isRefused c then none else parts? (c :: label) rest

private def ofParts? (read : List Char → Option Label) (parts : List (List Char)) :
    Option Name := do
  let last := parts.getLastD []
  let parts := if last.isEmpty then parts.dropLast else parts
  let labels ← parts.mapM read
  if fits labels then some ⟨labels, last.isEmpty && !parts.isEmpty⟩ else none

/-- The name that a text spells: by the rules for typed labels, or if those fail, with its ASCII
characters taken as they are. -/
def ofText? (idna : Text.Idna) (text : String) : Option Name :=
  if text = "." then some root
  else do
    let parts ← parts? [] text.toList
    ofParts? (Label.ofText? idna) parts <|> ofParts? Label.ofAscii? parts

end Name

end Tollgate.Dns
