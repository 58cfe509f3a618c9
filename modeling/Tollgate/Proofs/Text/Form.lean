import Tollgate.Proofs.Text.Percent
import Tollgate.Proofs.Text.Split
import Tollgate.Text.Form

/-!
# Parameters of query strings

Query strings that are joined by `&` have the parameters of both. A value of plain octets, which are
ASCII and without a meaning of their own in a query string, is read as it was written.
-/

namespace Tollgate

def Octets.asciiText (bytes : Octets) : String :=
  String.ofList (bytes.map fun byte => Char.ofNat byte.toNat)

theorem Octets.asciiText_append (front back : Octets) :
    asciiText (front ++ back) = asciiText front ++ asciiText back := by
  simp [asciiText]

theorem Octets.ofText_append (front back : String) :
    ofText (front ++ back) = ofText front ++ ofText back := by
  simp [ofText]

theorem Octets.ofText_asciiText {bytes : Octets} (ascii : ∀ byte ∈ bytes, byte.toNat < 128) :
    ofText (asciiText bytes) = bytes := by
  have code : ∀ n < 128, (Char.ofNat n).toNat = n := by decide
  have chars : ∀ c ∈ (asciiText bytes).toList, c.toNat < 128 := by
    intro c mem
    rw [asciiText, String.toList_ofList] at mem
    obtain ⟨byte, isByte, rfl⟩ := List.mem_map.mp mem
    rw [code byte.toNat (ascii byte isByte)]
    exact ascii byte isByte
  rw [ofText_of_ascii chars, asciiText, String.toList_ofList, List.map_map]
  refine (List.map_congr_left fun byte mem => ?_).trans (List.map_id bytes)
  rw [Function.comp_apply, code byte.toNat (ascii byte mem)]
  exact UInt8.ofNat_toNat

namespace Text

theorem Utf8.decodeLossy_of_ascii {bytes : Octets} (ascii : ∀ byte ∈ bytes, byte.toNat < 128) :
    decodeLossy bytes = bytes.map fun byte => Char.ofNat byte.toNat := by
  induction bytes with
  | nil => rw [decodeLossy, List.map_nil]
  | cons byte rest ih =>
      have small : byte < 0x80 := ascii byte List.mem_cons_self
      have first : lead? byte = some (1, 0, 0) := if_pos small
      rw [decodeLossy, List.map_cons,
        ih fun other mem => ascii other (List.mem_cons_of_mem byte mem)]
      simp only [first]

theorem Utf8.decodeLossy_ofText (text : String) :
    decodeLossy (Octets.ofText text) = text.toList := by
  rw [Octets.ofText_eq_flatMap]
  induction text.toList with
  | nil => rw [List.flatMap_nil, decodeLossy]
  | cons c rest ih => rw [List.flatMap_cons, decodeLossy_utf8EncodeChar_append, ih]

namespace Form

/-- Octets that stand for themselves in a name or a value. -/
structure IsPlain (byte : UInt8) : Prop where
  ascii : byte.toNat < 128
  not_join : byte ≠ 0x26
  not_space : byte ≠ 0x2B
  not_escape : byte ≠ 0x25

instance (byte : UInt8) : Decidable (IsPlain byte) :=
  decidable_of_iff (byte.toNat < 128 ∧ byte ≠ 0x26 ∧ byte ≠ 0x2B ∧ byte ≠ 0x25)
    ⟨fun ⟨ascii, not_join, not_space, not_escape⟩ => ⟨ascii, not_join, not_space, not_escape⟩,
      fun plain => ⟨plain.ascii, plain.not_join, plain.not_space, plain.not_escape⟩⟩

theorem unescape_of_plain {bytes : Octets} (plain : ∀ byte ∈ bytes, IsPlain byte) :
    unescape bytes = Octets.asciiText bytes := by
  have spaced : bytes.map (fun byte => if byte = 0x2B then 0x20 else byte) = bytes := by
    refine (List.map_congr_left fun byte mem => ?_).trans (List.map_id bytes)
    exact if_neg (plain byte mem).not_space
  have no_escape : ¬ Percent.HasEscape bytes := by
    rintro ⟨before, high, low, behind, rfl, -⟩
    exact (plain 0x25 (List.mem_append_right before List.mem_cons_self)).not_escape rfl
  rw [unescape, spaced, Percent.decode_eq_self_iff.mpr no_escape,
    Utf8.decodeLossy_of_ascii fun byte mem => (plain byte mem).ascii, Octets.asciiText]

/-- A joined query string has the parameters of both parts. -/
theorem pairs_append (front back : String) :
    pairs (front ++ "&" ++ back) = pairs front ++ pairs back := by
  have octets : Octets.ofText (front ++ "&" ++ back) =
      Octets.ofText front ++ 0x26 :: Octets.ofText back := by
    rw [Octets.ofText_append, Octets.ofText_append, List.append_assoc]
    rfl
  rw [pairs, octets, split_append, List.filter_append, List.map_append, pairs, pairs]

theorem pairs_parameter {name value : Octets} (plainName : ∀ byte ∈ name, IsPlain byte)
    (no_equals : (0x3D : UInt8) ∉ name) (plainValue : ∀ byte ∈ value, IsPlain byte) :
    pairs (Octets.asciiText (name ++ 0x3D :: value)) =
      [(Octets.asciiText name, Octets.asciiText value)] := by
  have plain : ∀ byte ∈ name ++ 0x3D :: value, IsPlain byte := by
    intro byte mem
    rcases List.mem_append.mp mem with mem | mem
    · exact plainName byte mem
    · rcases List.mem_cons.mp mem with rfl | mem
      · decide
      · exact plainValue byte mem
  have whole : (0x26 : UInt8) ∉ name ++ 0x3D :: value := fun mem => (plain _ mem).not_join rfl
  have nonempty : (!(name ++ 0x3D :: value).isEmpty) = true := by simp
  rw [pairs, Octets.ofText_asciiText fun byte mem => (plain byte mem).ascii,
    split_eq_singleton whole, List.filter_singleton, nonempty, cond_true, List.map_singleton, pair,
    cut_append no_equals]
  simp only [unescape_of_plain plainName, unescape_of_plain plainValue]

end Form

end Text

end Tollgate
