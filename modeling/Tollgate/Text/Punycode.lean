/-!
# Punycode

A list of code points is written in ASCII: its ASCII characters first, then one variable-length
number for each other code point, which says how far to move on in the pairs of code point and
place.
-/

namespace Tollgate.Text.Punycode

/-- The threshold of the digit at a place of a number: at first a digit below it ends the number. -/
def threshold (place bias : Nat) : Nat := max 1 (min 26 (36 * (place + 1) - bias))

theorem threshold_pos (place bias : Nat) : 0 < threshold place bias := by
  unfold threshold
  omega

theorem threshold_le (place bias : Nat) : threshold place bias ≤ 26 := by
  unfold threshold
  omega

private def settle (delta k : Nat) : Nat → Nat
  | 0 => k + 36 * delta / (delta + 38)
  | steps + 1 =>
    if delta ≤ 455 then k + 36 * delta / (delta + 38) else settle (delta / 35) (k + 36) steps

/-- The bias after a number that placed the `count`-th code point. -/
def adapt (delta count : Nat) (first : Bool) : Nat :=
  let delta := if first then delta / 700 else delta / 2
  settle (delta + delta / count) 0 (delta + 1).log2

def digit (n : Nat) : Char :=
  if n < 26 then Char.ofNat ('a'.toNat + n) else Char.ofNat ('0'.toNat + (n - 26))

/-- The value of a digit in either case. -/
def digit? (c : Char) : Option Nat :=
  if 'a' ≤ c ∧ c ≤ 'z' then some (c.toNat - 'a'.toNat)
  else if 'A' ≤ c ∧ c ≤ 'Z' then some (c.toNat - 'A'.toNat)
  else if c.isDigit then some (c.toNat - '0'.toNat + 26)
  else none

def number (bias : Nat) (place n : Nat) : List Char :=
  let t := threshold place bias
  if n < t then [digit n]
  else digit (t + (n - t) % (36 - t)) :: number bias (place + 1) ((n - t) / (36 - t))
termination_by n
decreasing_by
  have := threshold_pos place bias
  exact Nat.lt_of_le_of_lt (Nat.div_le_self ..) (by omega)

/-- What the encoder carries along: the digits so far, the distance to the next code point, the bias
and how many code points are placed. -/
private structure Progress where
  digits : List Char
  delta : Nat
  bias : Nat
  placed : Nat

private def place (basic codePoint : Nat) (progress : Progress) (c : Nat) : Progress :=
  if c < codePoint then { progress with delta := progress.delta + 1 }
  else if c = codePoint then
    { digits := progress.digits ++ number progress.bias 0 progress.delta
      delta := 0
      bias := adapt progress.delta (progress.placed + 1) (progress.placed = basic)
      placed := progress.placed + 1 }
  else progress

/-- The ASCII form of a list of characters. -/
def encode (text : List Char) : List Char :=
  let basic := text.filter (·.toNat < 128)
  let codes := text.map Char.toNat
  let others := ((codes.filter (128 ≤ ·)).mergeSort (· ≤ ·)).eraseDups
  let start : Progress := ⟨[], 0, 72, basic.length⟩
  let step := fun (state : Progress × Nat) codePoint =>
    let (progress, next) := state
    let moved := { progress with
      delta := progress.delta + (codePoint - next) * (progress.placed + 1) }
    let done := codes.foldl (place basic.length codePoint) moved
    ({ done with delta := done.delta + 1 }, codePoint + 1)
  let (done, _) := others.foldl step (start, 128)
  basic ++ (if basic.isEmpty then [] else ['-']) ++ done.digits

/-! ## ASCII forms -/

private theorem digit_ascii : ∀ n < 36, (digit n).toNat < 128 := by decide

private theorem number_ascii (bias place n : Nat) : ∀ c ∈ number bias place n, c.toNat < 128 := by
  induction place, n using number.induct bias with
  | case1 place n t last =>
    rw [number, if_pos last]
    have below : t ≤ 26 := threshold_le place bias
    intro c mem
    rw [List.mem_singleton.mp mem]
    exact digit_ascii n (by omega)
  | case2 place n t more ih =>
    rw [number, if_neg more, List.forall_mem_cons]
    have below : t ≤ 26 := threshold_le place bias
    have rest_lt : (n - t) % (36 - t) < 36 - t := Nat.mod_lt _ (by omega)
    exact ⟨digit_ascii (t + (n - t) % (36 - t)) (by omega), ih⟩

private theorem place_ascii {basic codePoint : Nat} {progress : Progress} (c : Nat)
    (ascii : ∀ digit ∈ progress.digits, digit.toNat < 128) :
    ∀ digit ∈ (place basic codePoint progress c).digits, digit.toNat < 128 := by
  unfold place
  split
  next => exact ascii
  next =>
    split
    next =>
      rw [List.forall_mem_append]
      exact ⟨ascii, number_ascii _ _ _⟩
    next => exact ascii

theorem encode_ascii (text : List Char) : ∀ c ∈ encode text, c.toNat < 128 := by
  unfold encode
  dsimp only
  rw [List.forall_mem_append, List.forall_mem_append]
  refine ⟨⟨?_, ?_⟩, ?_⟩
  · intro c mem
    exact of_decide_eq_true (List.mem_filter.mp mem).2
  · split
    next => exact List.forall_mem_nil _
    next => simp
  · refine List.foldlRecOn _ _ (motive := fun state : Progress × Nat =>
      ∀ digit ∈ state.1.digits, digit.toNat < 128) (List.forall_mem_nil _) ?_
    intro state ascii codePoint _
    refine List.foldlRecOn _ _ (motive := fun progress : Progress =>
      ∀ digit ∈ progress.digits, digit.toNat < 128) ascii ?_
    exact fun progress ascii c _ => place_ascii c ascii

/-- What the decoder carries along: the code points so far, the next code point and its place, and
the number that is being read. -/
private structure Reading where
  output : List Nat
  codePoint : Nat
  index : Nat
  bias : Nat
  /-- The index before the number that is being read. -/
  from_ : Nat
  weight : Nat
  digits : Nat

private def readDigit (reading : Reading) (c : Char) : Option Reading := do
  let value ← digit? c
  let index := reading.index + value * reading.weight
  if 0x100000000 ≤ index then none
  let t := threshold reading.digits reading.bias
  if value < t then
    let count := reading.output.length + 1
    let codePoint := reading.codePoint + index / count
    let index := index % count
    if !codePoint.isValidChar then none
    return {
      output := reading.output.take index ++ codePoint :: reading.output.drop index
      codePoint
      index := index + 1
      bias := adapt (reading.index + value * reading.weight - reading.from_) count
        (reading.from_ = 0)
      from_ := index + 1
      weight := 1
      digits := 0 }
  else
    return { reading with
      index, weight := reading.weight * (36 - t), digits := reading.digits + 1 }

/-- The characters that an ASCII form stands for. -/
def decode? (text : List Char) : Option (List Char) := do
  let (basic, numbers) :=
    match (text.reverse.span (· ≠ '-')) with
    | (numbers, _ :: basic) => (basic.reverse, numbers.reverse)
    | (numbers, []) => ([], numbers.reverse)
  let start : Reading := ⟨basic.map Char.toNat, 128, 0, 72, 0, 1, 0⟩
  let done ← numbers.foldlM readDigit start
  if done.digits = 0 then some (done.output.map Char.ofNat) else none

end Tollgate.Text.Punycode
