import Tollgate.Text.Idna

/-!
# Rules for some scripts

The rules for labels in Latin, Greek, Cyrillic, Armenian, Hebrew, Arabic, Devanagari, Bengali, Thai,
Georgian, Hangul, Kana and Han, and for pictographs. They are a part of the tables of Unicode: a
label with a character of another script is not valid by them, nothing is composed or reordered, and
labels of any direction may stand side by side.
-/

namespace Tollgate.Text.Idna

private def even (n : Nat) : Bool := n % 2 = 0

/-- The lower-case form of a code point of the Latin, Greek and Cyrillic scripts. -/
def lowerCode (n : Nat) : Nat :=
  if 0x41 ≤ n && n ≤ 0x5A then n + 32
  else if 0xC0 ≤ n && n ≤ 0xDE && n != 0xD7 then n + 32
  else if 0x100 ≤ n && n ≤ 0x12F && even n then n + 1
  else if 0x134 ≤ n && n ≤ 0x137 && even n then n + 1
  else if 0x139 ≤ n && n ≤ 0x13E && !even n then n + 1
  else if 0x141 ≤ n && n ≤ 0x147 && !even n then n + 1
  else if 0x14A ≤ n && n ≤ 0x177 && even n then n + 1
  else if n = 0x178 then 0xFF
  else if 0x179 ≤ n && n ≤ 0x17E && !even n then n + 1
  else if n = 0x386 then 0x3AC
  else if 0x388 ≤ n && n ≤ 0x38A then n + 37
  else if n = 0x38C then 0x3CC
  else if n = 0x38E || n = 0x38F then n + 63
  else if 0x391 ≤ n && n ≤ 0x3AB && n != 0x3A2 then n + 32
  else if 0x400 ≤ n && n ≤ 0x40F then n + 80
  else if 0x410 ≤ n && n ≤ 0x42F then n + 32
  else if 0x460 ≤ n && n ≤ 0x481 && even n then n + 1
  else if 0x48A ≤ n && n ≤ 0x4BF && even n then n + 1
  else if n = 0x4C0 then 0x4CF
  else if 0x4C1 ≤ n && n ≤ 0x4CE && !even n then n + 1
  else if 0x4D0 ≤ n && n ≤ 0x52F && even n then n + 1
  else if 0x1E00 ≤ n && n ≤ 0x1E95 && even n then n + 1
  else if 0x1EA0 ≤ n && n ≤ 0x1EFF && even n then n + 1
  else if 0xFF10 ≤ n && n ≤ 0xFF19 then n - 0xFEE0
  else if 0xFF21 ≤ n && n ≤ 0xFF3A then n - 0xFEE0 + 32
  else if 0xFF41 ≤ n && n ≤ 0xFF5A then n - 0xFEE0
  else n

/-- Letters, digits and pictographs beyond ASCII, from the first to the last of each range. Capitals
among them are mapped to small letters. -/
def letterRanges : List (Nat × Nat) :=
  [(0xB7, 0xB7), (0xDF, 0xF6), (0xF8, 0x12F), (0x131, 0x131), (0x134, 0x13E), (0x141, 0x148),
    (0x14A, 0x17E), (0x180, 0x180), (0x250, 0x2AF), (0x390, 0x3A1), (0x3A3, 0x3CE), (0x430, 0x481),
    (0x48A, 0x52F), (0x561, 0x586), (0x5D0, 0x5EA), (0x620, 0x64A), (0x660, 0x669), (0x671, 0x674),
    (0x679, 0x6D3), (0x6F0, 0x6FC), (0x904, 0x939), (0x93D, 0x93D), (0x950, 0x950),
    (0x960, 0x961), (0x966, 0x96F), (0x985, 0x98C), (0x98F, 0x990), (0x993, 0x9A8),
    (0x9AA, 0x9B0), (0x9B2, 0x9B2), (0x9B6, 0x9B9), (0xE01, 0xE30), (0xE32, 0xE32),
    (0xE40, 0xE46), (0xE50, 0xE59), (0x10D0, 0x10FA), (0x1E00, 0x1E99), (0x1EA0, 0x1EFF),
    (0x2600, 0x266E), (0x2670, 0x2767), (0x3005, 0x3007), (0x3041, 0x3096), (0x30A1, 0x30FA),
    (0x30FC, 0x30FE), (0x3105, 0x312F), (0x3400, 0xA48C), (0xAC00, 0xD7A3), (0x1F300, 0x1F64F),
    (0x1F680, 0x1F6D7), (0x1F900, 0x1FA53), (0x1FA60, 0x1FA6D), (0x1FA70, 0x1FA74),
    (0x20000, 0x2A6DF)]

/-- Signs that are written with the letter before them. No label starts with one. -/
def signRanges : List (Nat × Nat) :=
  [(0x64B, 0x652), (0x900, 0x903), (0x93A, 0x93B), (0x93E, 0x94F), (0x962, 0x963), (0xE31, 0xE31),
    (0xE34, 0xE3A), (0xE47, 0xE4E)]

private def isIn (ranges : List (Nat × Nat)) (c : Char) : Bool :=
  ranges.any fun (first, last) => first ≤ c.toNat && c.toNat ≤ last

/-- The ASCII characters that host names have, in lower case. -/
def isPlain (c : Char) : Bool := ('a' ≤ c && c ≤ 'z') || c.isDigit || c = '-'

/-- What a character stands for. Every kind of full stop separates labels, and characters that
cannot be seen are left out. In a typed name a sharp s is two letters, a final sigma is a sigma, and
joiners are left out too. -/
def replaced (typed : Bool) (c : Char) : List Char :=
  if typed && (c = 'ß' || c = 'ẞ') then ['s', 's']
  else if typed && c = 'ς' then ['σ']
  else if typed && (c = '\u200C' || c = '\u200D') then []
  else if c = '\u00AD' || c = '\uFE0F' then []
  else if c = '\u3002' || c = '\uFF0E' || c = '\uFF61' then ['.']
  else [Char.ofNat (lowerCode c.toNat)]

/-- Whether a label may have a character. -/
def isAllowed (typed : Bool) (c : Char) : Bool :=
  replaced typed c = [c] && c ≠ '.' &&
    if c.toNat < 128 then !typed || isPlain c else isIn letterRanges c || isIn signRanges c

theorem replaced_of_ascii (typed : Bool) {c : Char} (ascii : c.toNat < 128) :
    replaced typed c = [c.toLower] :=
  of_ascii (P := fun c => ∀ typed, replaced typed c = [c.toLower]) (by decide +kernel) ascii typed

theorem replaced_toLower (typed : Bool) (c : Char) :
    replaced typed c.toLower = replaced typed c := by
  by_cases ascii : c.toNat < 128
  · exact of_ascii (P := fun c => ∀ typed, replaced typed c.toLower = replaced typed c)
      (by decide +kernel) ascii typed
  · rw [toLower_of_not_ascii ascii]

theorem flatMap_replaced_of_ascii (typed : Bool) {text : List Char}
    (ascii : ∀ c ∈ text, c.toNat < 128) :
    text.flatMap (replaced typed) = text.map Char.toLower := by
  induction text with
  | nil => rfl
  | cons c rest ih =>
    obtain ⟨here, later⟩ := List.forall_mem_cons.mp ascii
    rw [List.flatMap_cons, replaced_of_ascii typed here, ih later, List.singleton_append,
      List.map_cons]

theorem flatMap_replaced_of_isAllowed {typed : Bool} {label : List Char}
    (allowed : label.all (isAllowed typed) = true) : label.flatMap (replaced typed) = label := by
  induction label with
  | nil => rfl
  | cons c rest ih =>
    rw [List.all_cons, Bool.and_eq_true] at allowed
    have same : replaced typed c = [c] := by
      have := allowed.1
      simp only [isAllowed, Bool.and_eq_true, decide_eq_true_eq] at this
      exact this.1.1
    rw [List.flatMap_cons, same, ih allowed.2, List.singleton_append]

/-- The rules for names of these scripts. -/
def rulesOf (typed : Bool) : Rules where
  mapped? text := some (text.flatMap (replaced typed))
  isLabel label := label.all (isAllowed typed) && !label.head?.any (isIn signRanges)
  isName _ := true
  mapped?_ascii text form ascii mapped := by
    rw [← Option.some.inj mapped, flatMap_replaced_of_ascii typed ascii]
  mapped?_lower text := by
    rw [List.flatMap_map]
    simp only [replaced_toLower]
  mapped?_mark rest := by
    have mark_kept : mark.flatMap (replaced typed) = mark :=
      (flatMap_replaced_of_ascii typed (by simp [mark])).trans (by decide)
    rw [List.flatMap_append, mark_kept, Option.map_some]
  mapped?_of_isLabel label valid := by
    rw [Bool.and_eq_true] at valid
    rw [flatMap_replaced_of_isAllowed valid.1]
  dot_not_mem label valid dot := by
    rw [Bool.and_eq_true, List.all_eq_true] at valid
    have allowed := valid.1 '.' dot
    simp [isAllowed] at allowed

end Tollgate.Text.Idna

namespace Tollgate.Text

/-- The rules for some scripts. -/
def Idna.scripts : Idna := ⟨rulesOf false, rulesOf true⟩

-- vowel signs are a part of a label
example : Idna.scripts.shown.toUnicode? "xn--h2brj9c".toList = some "भारत".toList := by cbv

end Tollgate.Text
