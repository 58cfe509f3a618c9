import Tollgate.Tunnel.ChunkReader
import Mathlib.Data.List.Basic

/-!
# Reads of a body

However a body is cut into chunks, whenever these come and however much is asked for at a time, the
reads give its octets in order and then how it ended. `Polled` says once what a poll can do: it
takes some of what is left, waits, or finds that nothing is left. What is left and what is waited
for become less with each poll, until the end is read.
-/

namespace Tollgate.Tunnel

namespace PolledReader

variable {reader : PolledReader} {most : Nat} {sizes : List Nat}

/-- How often the body is polled for a chunk that has not come. -/
def waits (reader : PolledReader) : Nat := reader.polls.count none

inductive Polled (reader : PolledReader) (most : Nat) : Option ChunkRead × PolledReader → Prop where
  | taken {piece : Octets} {next : PolledReader} (parts : reader.rest = piece ++ next.rest)
      (nonempty : 0 < most → piece ≠ []) (short : piece.length ≤ most)
      (ending : next.ending = reader.ending) (waits : next.waits = reader.waits) :
      Polled reader most (some (.data piece), next)
  | waiting {next : PolledReader} (untouched : next.rest = reader.rest)
      (ending : next.ending = reader.ending) (waits : next.waits + 1 = reader.waits) :
      Polled reader most (none, next)
  | drained {next : PolledReader} (nothing : reader.rest = []) (noWaits : reader.waits = 0)
      (nothing_left : next.rest = []) (ending : next.ending = reader.ending)
      (waits : next.waits = 0) :
      Polled reader most (reader.ending.map BodyEnd.read, next)

/-- What a poll can do is told by what is left. -/
theorem Polled.congr {other : PolledReader} {outcome : Option ChunkRead × PolledReader}
    (polled : Polled reader most outcome) (sameRest : reader.rest = other.rest)
    (sameWaits : reader.waits = other.waits) (sameEnding : reader.ending = other.ending) :
    Polled other most outcome := by
  cases polled with
  | taken parts nonempty short ending waits =>
      exact .taken (sameRest ▸ parts) nonempty short (ending.trans sameEnding)
        (waits.trans sameWaits)
  | waiting untouched ending waits =>
      exact .waiting (untouched.trans sameRest) (ending.trans sameEnding) (waits.trans sameWaits)
  | drained nothing noWaits nothing_left ending waits =>
      rw [sameEnding]
      exact .drained (sameRest ▸ nothing) (sameWaits ▸ noWaits) nothing_left
        (ending.trans sameEnding) waits

theorem polled (reader : PolledReader) (most : Nat) : Polled reader most (reader.poll most) := by
  obtain ⟨pending, polls, ending⟩ := reader
  unfold poll
  dsimp only
  fun_induction pollFrom ending most pending polls with
  | case1 polls byte pending all =>
    refine .taken ?_ ?_ (List.length_take_le _ _) rfl rfl
    · rw [rest, rest, ← List.append_assoc, List.take_append_drop]
    · intro positive
      cases most with
      | zero => cases positive
      | succ most => exact List.cons_ne_nil _ _
  | case2 chunk polls ih =>
    have sameRest : rest ⟨chunk, polls, ending⟩ = rest ⟨[], some chunk :: polls, ending⟩ := rfl
    have sameWaits : waits ⟨chunk, polls, ending⟩ = waits ⟨[], some chunk :: polls, ending⟩ := by
      simp [waits]
    exact ih.congr sameRest sameWaits rfl
  | case3 polls => exact .waiting rfl rfl (by simp [waits])
  | case4 => exact .drained rfl rfl rfl rfl rfl

/-! ## Many polls -/

/-- Polls with buffers of the given sizes, and what they return. -/
def pollAll (reader : PolledReader) : (sizes : List Nat) → List (Option ChunkRead) × PolledReader
  | [] => ([], reader)
  | most :: sizes =>
    let (result, next) := reader.poll most
    let (results, last) := next.pollAll sizes
    (result :: results, last)

def octetsOf : Option ChunkRead → Octets
  | some (.data bytes) => bytes
  | _ => []

def delivered (results : List (Option ChunkRead)) : Octets := results.flatMap octetsOf

/-- What is still to come of a body: its octets, and the times that it is waited for. -/
def left (reader : PolledReader) : Nat := reader.rest.length + reader.waits

theorem octetsOf_end (ending : Option BodyEnd) : octetsOf (ending.map BodyEnd.read) = [] := by
  rcases ending with _ | _ | _ <;> rfl

theorem delivered_poll (reader : PolledReader) (most : Nat) :
    octetsOf (reader.poll most).1 ++ (reader.poll most).2.rest = reader.rest := by
  have polled := reader.polled most
  generalize reader.poll most = outcome at polled
  cases polled with
  | taken parts => exact parts.symm
  | waiting untouched => exact untouched
  | drained nothing _ nothing_left => rw [octetsOf_end, nothing_left, nothing, List.nil_append]

theorem ending_poll (reader : PolledReader) (most : Nat) :
    (reader.poll most).2.ending = reader.ending := by
  have polled := reader.polled most
  generalize reader.poll most = outcome at polled
  cases polled with
  | taken _ _ _ ending => exact ending
  | waiting _ ending => exact ending
  | drained _ _ _ ending => exact ending

/-- Each poll brings the end nearer. -/
theorem left_poll_le (reader : PolledReader) (positive : 0 < most) :
    (reader.poll most).2.left ≤ reader.left - 1 := by
  have polled := reader.polled most
  generalize reader.poll most = outcome at polled
  cases polled with
  | taken parts nonempty _ _ waits =>
      have := List.length_pos_iff.mpr (nonempty positive)
      have := congrArg List.length parts
      rw [List.length_append] at this
      simp only [left]
      omega
  | waiting untouched _ waits =>
      simp only [left, untouched]
      omega
  | drained _ _ nothing_left _ waits =>
      simp only [left, nothing_left, waits]
      exact Nat.zero_le _

theorem delivered_pollAll (reader : PolledReader) (sizes : List Nat) :
    delivered (reader.pollAll sizes).1 ++ (reader.pollAll sizes).2.rest = reader.rest := by
  induction sizes generalizing reader with
  | nil => rfl
  | cons most sizes ih =>
      let next := (reader.poll most).2
      calc delivered (reader.pollAll (most :: sizes)).1 ++ (reader.pollAll (most :: sizes)).2.rest
        _ = octetsOf (reader.poll most).1 ++
              (delivered (next.pollAll sizes).1 ++ (next.pollAll sizes).2.rest) :=
            List.append_assoc _ _ _
        _ = octetsOf (reader.poll most).1 ++ next.rest := by rw [ih]
        _ = reader.rest := delivered_poll reader most

theorem ending_pollAll (reader : PolledReader) (sizes : List Nat) :
    (reader.pollAll sizes).2.ending = reader.ending := by
  induction sizes generalizing reader with
  | nil => rfl
  | cons most sizes ih => exact (ih _).trans (ending_poll reader most)

theorem left_pollAll_le (reader : PolledReader) (positive : ∀ most ∈ sizes, 0 < most) :
    (reader.pollAll sizes).2.left ≤ reader.left - sizes.length := by
  induction sizes generalizing reader with
  | nil => exact Nat.le_refl _
  | cons most sizes ih =>
      obtain ⟨here, later⟩ := List.forall_mem_cons.mp positive
      have first := left_poll_le reader here
      have others : (reader.pollAll (most :: sizes)).2.left ≤ _ := ih (reader.poll most).2 later
      rw [List.length_cons]
      omega

/-- A poll that returns takes something that is left, or finds the end. -/
theorem poll_eq_some {result : ChunkRead} (positive : 0 < most)
    (returned : (reader.poll most).1 = some result) :
    (reader.rest ≠ [] ∧ ∃ piece, result = .data piece ∧ piece ≠ [] ∧ piece.length ≤ most) ∨
      (reader.rest = [] ∧ ∃ how, reader.ending = some how ∧ result = how.read) := by
  have polled := reader.polled most
  generalize reader.poll most = outcome at polled returned
  cases polled with
  | taken parts nonempty short =>
      obtain rfl := Option.some.inj returned
      refine Or.inl ⟨?_, _, rfl, nonempty positive, short⟩
      rw [parts]
      exact List.append_ne_nil_of_left_ne_nil (nonempty positive) _
  | waiting => cases returned
  | drained nothing =>
      obtain ⟨how, ends, rfl⟩ := Option.map_eq_some_iff.mp returned
      exact Or.inr ⟨nothing, how, ends, rfl⟩

/-- Where nothing is left and nothing is waited for, the end is read. -/
theorem poll_of_left_eq_zero (none_left : reader.left = 0) (positive : 0 < most) :
    (reader.poll most).1 = reader.ending.map BodyEnd.read := by
  obtain ⟨noRest, noWaits⟩ := Nat.add_eq_zero_iff.mp none_left
  have polled := reader.polled most
  generalize reader.poll most = outcome at polled
  cases polled with
  | taken parts nonempty =>
      rw [List.length_eq_zero_iff.mp noRest] at parts
      exact absurd (List.append_eq_nil_iff.mp parts.symm).1 (nonempty positive)
  | waiting _ _ waits =>
      rw [noWaits] at waits
      cases waits
  | drained => rfl

end PolledReader

/-- Where nothing is waited for, every poll is a read. -/
theorem ChunkReader.poll_polled (reader : ChunkReader) (most : Nat) :
    reader.polled.poll most = (some (reader.read most).1, (reader.read most).2.polled) := by
  fun_induction ChunkReader.read reader most with
  | case1 ending => cases ending <;> rfl
  | case2 chunk chunks ending ih => exact ih
  | case3 =>
    rw [polled, PolledReader.poll, PolledReader.pollFrom]
    rfl

namespace PolledReader

/-- However a body is cut into chunks, whenever these come and whatever buffers it is read with, the
octets that are delivered and those that are still to come are the octets of the chunks in order.
A poll that returns delivers some octets as long as not all were delivered. When all were, it
returns only if the body has ended, and then tells how: nothing is read at a complete end, and a
broken one is an error. As soon as the body was polled often enough, all octets were delivered and
the end is told. Reads of a body that has come are such polls. -/
theorem body_read_in_order :
    (∀ (polls : List (Option Octets)) (ending : Option BodyEnd) (earlier : List Nat)
        (results : List (Option ChunkRead)) (after : PolledReader),
      (∀ size ∈ earlier, 0 < size) →
      pollAll ⟨[], polls, ending⟩ earlier = (results, after) →
      delivered results ++ after.rest = (polls.filterMap id).flatten ∧
      (∀ (most : Nat) (result : ChunkRead), 0 < most → (after.poll most).1 = some result →
        (delivered results ≠ (polls.filterMap id).flatten ∧
          ∃ piece, result = .data piece ∧ piece ≠ [] ∧ piece.length ≤ most) ∨
        (delivered results = (polls.filterMap id).flatten ∧
          ∃ how, ending = some how ∧ result = how.read)) ∧
      ((polls.filterMap id).flatten.length + polls.count none ≤ earlier.length →
        delivered results = (polls.filterMap id).flatten ∧
        ∀ most, 0 < most → (after.poll most).1 = ending.map BodyEnd.read)) ∧
    ∀ (reader : ChunkReader) (most : Nat),
      reader.polled.poll most = (some (reader.read most).1, (reader.read most).2.polled) := by
  refine ⟨?_, ChunkReader.poll_polled⟩
  intro polls ending earlier results after positive polled
  have whole := delivered_pollAll ⟨[], polls, ending⟩ earlier
  have sameEnding := ending_pollAll ⟨[], polls, ending⟩ earlier
  have nearer := left_pollAll_le ⟨[], polls, ending⟩ positive
  have start : left ⟨[], polls, ending⟩ =
      (polls.filterMap id).flatten.length + polls.count none := rfl
  rw [polled] at whole sameEnding nearer
  dsimp only at whole sameEnding nearer
  have all_iff : delivered results = (polls.filterMap id).flatten ↔ after.rest = [] := by
    rw [← show _ = (polls.filterMap id).flatten from whole, List.self_eq_append_right]
  refine ⟨whole, ?_, ?_⟩
  · intro most result buffer returned
    rw [ne_eq, all_iff, ← sameEnding]
    exact poll_eq_some buffer returned
  · intro enough
    have none_left : after.left = 0 := by omega
    refine ⟨all_iff.mpr (List.length_eq_zero_iff.mp (Nat.add_eq_zero_iff.mp none_left).1), ?_⟩
    intro most buffer
    rw [poll_of_left_eq_zero none_left buffer, sameEnding]

/-- Five octets in chunks with an empty one between them, of which the last is waited for. The body
breaks off behind it. -/
theorem five_octets_read_before_break :
    pollAll ⟨[], [some [1, 2, 3], some [], none, some [4, 5]], some .broken⟩ [2, 2, 2, 8] =
      ([some (.data [1, 2]), some (.data [3]), none, some (.data [4, 5])],
        ⟨[], [], some .broken⟩) ∧
    (([[1, 2], [3], [4, 5]] : List Octets).flatten ++ rest ⟨[], [], some .broken⟩ =
      [1, 2, 3, 4, 5]) ∧
    ∃ how, some BodyEnd.broken = some how ∧ (.broken : ChunkRead) = how.read := by
  have polled : pollAll ⟨[], [some [1, 2, 3], some [], none, some [4, 5]], some .broken⟩
      [2, 2, 2, 8] = ([some (.data [1, 2]), some (.data [3]), none, some (.data [4, 5])],
        ⟨[], [], some .broken⟩) := rfl
  obtain ⟨whole, returned, -⟩ := body_read_in_order.1 _ _ _ _ _ (by decide) polled
  refine ⟨polled, whole, ?_⟩
  rcases returned 8 .broken (by decide) rfl with ⟨some_left, -⟩ | ⟨-, ended⟩
  · exact absurd rfl some_left
  · exact ended

end PolledReader

end Tollgate.Tunnel
