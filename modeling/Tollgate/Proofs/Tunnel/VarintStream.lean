import Tollgate.Proofs.Tunnel.Varint

/-!
# Values one after another

A reader takes a value off a stream octet by octet, and a decoder looks at the front of a buffer
that is all there. `ReadsFront` says in terms of the decoder what a reader can do: it finds a clean
end where there is nothing, takes what decodes, and is cut off where something does not decode. So
values that are read one after another are those that are decoded one after another, and the stream
ends cleanly exactly if nothing is left of the buffer.
-/

namespace Tollgate.Tunnel.Varint

variable {value count : Nat} {stream rest : Octets} {error : ReadError}

/-! ## One value -/

inductive ReadsFront (stream : Octets) : Except ReadError (Option (Nat × Octets)) → Prop where
  | ended (nothing : stream = []) : ReadsFront stream (.ok none)
  | taken {value count : Nat} (decoded : decode? stream = some (value, count))
      (within : count ≤ stream.length) : ReadsFront stream (.ok (some (value, stream.drop count)))
  | cut (begun : stream ≠ []) (undecoded : decode? stream = none) :
      ReadsFront stream (.error .endedEarly)

theorem length_of_decode? (decoded : decode? stream = some (value, count)) :
    0 < count ∧ count ≤ stream.length := by
  obtain ⟨bytes, rest, rfl, rfl, isEncoding⟩ := exists_isEncoding_of_decode? decoded
  refine ⟨isEncoding.length_pos, ?_⟩
  rw [List.length_append]
  exact Nat.le_add_right _ _

theorem readsFront (stream : Octets) : ReadsFront stream (read stream) := by
  by_cases nothing : stream = []
  · rw [nothing]
    exact .ended rfl
  · rw [read_eq_decode? nothing]
    split
    next decoded => exact .taken decoded (length_of_decode? decoded).2
    next undecoded => exact .cut nothing undecoded

theorem read_eq_none_iff : read stream = .ok none ↔ stream = [] := by
  constructor
  · intro ended
    have front := readsFront stream
    rw [ended] at front
    cases front with
    | ended nothing => exact nothing
  · rintro rfl
    rfl

/-- How much is taken is told by what is left. -/
theorem read_eq_some_iff :
    count ≤ stream.length ∧ read stream = .ok (some (value, stream.drop count)) ↔
      decode? stream = some (value, count) := by
  constructor
  · rintro ⟨within, got⟩
    have front := readsFront stream
    generalize read stream = result at front got
    cases front with
    | ended => cases got
    | @taken _ other decoded within_other =>
        obtain ⟨rfl, left⟩ := Prod.mk.inj (Option.some.inj (Except.ok.inj got))
        have left_length := congrArg List.length left
        rw [List.length_drop, List.length_drop] at left_length
        obtain rfl : other = count := by omega
        exact decoded
    | cut => cases got
  · intro decoded
    have nonempty : stream ≠ [] := by
      rintro rfl
      cases decoded
    refine ⟨(length_of_decode? decoded).2, ?_⟩
    rw [read_eq_decode? nonempty, decoded]

theorem read_eq_error_iff :
    read stream = .error error ↔
      error = .endedEarly ∧ stream ≠ [] ∧ decode? stream = none := by
  constructor
  · intro failed
    have front := readsFront stream
    rw [failed] at front
    cases front with
    | cut begun undecoded => exact ⟨rfl, begun, undecoded⟩
  · rintro ⟨rfl, begun, undecoded⟩
    rw [read_eq_decode? begun, undecoded]

/-! ## All values -/

/-- All values of a stream in order, and the error that ends them, if one does. -/
def readAll (stream : Octets) : List Nat × Option ReadError :=
  match h : read stream with
  | .error error => ([], some error)
  | .ok none => ([], none)
  | .ok (some (value, rest)) =>
    have : rest.length < stream.length := length_lt_of_read h
    let (values, error) := readAll rest
    (value :: values, error)
termination_by stream.length

/-- All values at the front of a buffer in order, and the octets behind the last one. -/
def decodeAll (buffer : Octets) : List Nat × Octets :=
  match h : decode? buffer with
  | none => ([], buffer)
  | some (value, count) =>
    have : 0 < count ∧ count ≤ buffer.length := length_of_decode? h
    let (values, rest) := decodeAll (buffer.drop count)
    (value :: values, rest)
termination_by buffer.length

theorem readAll_of_error (h : read stream = .error error) : readAll stream = ([], some error) := by
  rw [readAll]
  split <;> simp_all

theorem readAll_of_none (h : read stream = .ok none) : readAll stream = ([], none) := by
  rw [readAll]
  split <;> simp_all

theorem readAll_of_some (h : read stream = .ok (some (value, rest))) :
    readAll stream = (value :: (readAll rest).1, (readAll rest).2) := by
  rw [readAll]
  split <;> simp_all

theorem decodeAll_of_none (h : decode? stream = none) : decodeAll stream = ([], stream) := by
  rw [decodeAll]
  split <;> simp_all

theorem decodeAll_of_some (h : decode? stream = some (value, count)) :
    decodeAll stream =
      (value :: (decodeAll (stream.drop count)).1, (decodeAll (stream.drop count)).2) := by
  rw [decodeAll]
  split <;> simp_all

/-- What is left of a buffer is what cuts a reader off. -/
theorem readAll_eq_decodeAll (stream : Octets) :
    readAll stream =
      ((decodeAll stream).1, if (decodeAll stream).2 = [] then none else some .endedEarly) := by
  induction stream using decodeAll.induct with
  | case1 stream undecoded =>
      rw [decodeAll_of_none undecoded]
      by_cases nothing : stream = []
      · rw [readAll_of_none (read_eq_none_iff.mpr nothing), if_pos nothing]
      · rw [readAll_of_error (read_eq_error_iff.mpr ⟨rfl, nothing, undecoded⟩), if_neg nothing]
  | case2 stream value count decoded _ _ _ _ ih =>
      rw [readAll_of_some (read_eq_some_iff.mpr decoded).2, decodeAll_of_some decoded, ih]

/-- Two values, of which the second is not as short as it could be, and the beginning of a third. -/
example : readAll [0x7B, 0xBD, 0x40, 0x25, 0x9D, 0x7F] = ([15293, 37], some .endedEarly) := by
  cbv

/-- A reader finds a clean end exactly where there is nothing, takes a value and the octets that it
decodes from exactly if it decodes, and fails exactly where something does not decode, with the
error of a stream that has ended too early. The values that are read one after another are those
that are decoded one after another, with a clean end exactly if nothing is left. -/
theorem stream_reads_what_decodes (stream : Octets) :
    (read stream = .ok none ↔ stream = []) ∧
    (∀ value count,
      count ≤ stream.length ∧ read stream = .ok (some (value, stream.drop count)) ↔
        decode? stream = some (value, count)) ∧
    (∀ error, read stream = .error error ↔
      error = .endedEarly ∧ stream ≠ [] ∧ decode? stream = none) ∧
    ReadError.isUnexpectedEnd .endedEarly = true ∧
    readAll stream =
      ((decodeAll stream).1, if (decodeAll stream).2 = [] then none else some .endedEarly) :=
  ⟨read_eq_none_iff, fun _ _ => read_eq_some_iff, fun _ => read_eq_error_iff, rfl,
    readAll_eq_decodeAll stream⟩

end Tollgate.Tunnel.Varint
