/-!
# Octet strings

Wire formats are read and written as lists of octets. Multi-octet integers are big-endian
throughout, and text crosses the wire as UTF-8.
-/

namespace Tollgate

/-- A string of octets. -/
abbrev Octets := List UInt8

namespace Octets

/-- The number that the octets spell, most significant octet first. -/
def toNat (bytes : Octets) : Nat :=
  bytes.foldl (fun value byte => value * 256 + byte.toNat) 0

/-- The low `width` octets of a number, most significant first. -/
def ofNat : (width : Nat) → Nat → Octets
  | 0, _ => []
  | width + 1, value => ofNat width (value / 256) ++ [value.toUInt8]

@[simp] theorem length_ofNat (width value : Nat) : (ofNat width value).length = width := by
  induction width generalizing value with
  | zero => rfl
  | succ width ih => simp [ofNat, ih]

/-- The UTF-8 octets of a text. -/
def ofText (text : String) : Octets := text.toUTF8.data.toList

/-- The text that the octets spell in UTF-8, if they are well-formed. -/
def text? (bytes : Octets) : Option String := String.fromUTF8? ⟨bytes.toArray⟩

/-- Writing a text and reading it back gives the text. -/
theorem text?_ofText (text : String) : text? (ofText text) = some text := by
  have bytes : (⟨(ofText text).toArray⟩ : ByteArray) = text.toUTF8 := by simp [ofText]
  rw [text?, bytes]
  simp [String.fromUTF8?, String.toUTF8, String.fromUTF8, text.isValidUTF8]

/-- Splits off exactly `count` octets; nothing when there are fewer. Only these are walked over. -/
def take? (count : Nat) (bytes : Octets) : Option (Octets × Octets) :=
  let front := bytes.take count
  if front.length = count then some (front, bytes.drop count) else none

/-- There is something to split off whenever there are enough octets. -/
theorem take?_eq (count : Nat) (bytes : Octets) :
    take? count bytes =
      if count ≤ bytes.length then some (bytes.take count, bytes.drop count) else none := by
  have enough : (bytes.take count).length = count ↔ count ≤ bytes.length := by
    rw [List.length_take]
    omega
  simp only [take?, enough]

theorem take?_append (front rest : Octets) :
    take? front.length (front ++ rest) = some (front, rest) := by
  simp [take?_eq]

/-- What is split off is the front, of the length that was asked for. -/
theorem take?_eq_some {count : Nat} {bytes front rest : Octets}
    (h : take? count bytes = some (front, rest)) :
    front.length = count ∧ bytes = front ++ rest := by
  rw [take?_eq, Option.ite_none_right_eq_some] at h
  obtain ⟨enough, parts⟩ := h
  obtain ⟨rfl, rfl⟩ := Prod.mk.inj (Option.some.inj parts)
  exact ⟨List.length_take_of_le enough, (List.take_append_drop count bytes).symm⟩

theorem length_of_take? {count : Nat} {bytes : Octets} {parts : Octets × Octets}
    (h : take? count bytes = some parts) : parts.2.length + count = bytes.length := by
  obtain ⟨length_eq, bytes_eq⟩ := take?_eq_some h
  rw [bytes_eq, List.length_append, length_eq, Nat.add_comm]

end Octets

end Tollgate
