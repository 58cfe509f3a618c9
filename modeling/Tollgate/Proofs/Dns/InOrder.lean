import Tollgate.Dns.Dot
import Mathlib.Data.List.TakeWhile

/-!
# Resolutions in order

A connection resolves its messages one after the other, each on the ledger that the one before it
has left, and it can go on as long as each has an answer that fits a frame. `delivered` are the
resolutions up to the first that has none, and `attended` are these and that one. What comes behind
it changes neither.
-/

namespace Tollgate.Dns

/-- A time at which something comes in: what the clock says, and what the recursor answers then. -/
structure Moment where
  now : Instant
  recursor : Recursor

/-- The resolutions of messages, one after the other, each on the ledger that the one before it has
left. -/
def Resolver.resolveAll (resolver : Resolver) (query : Octets → Query) :
    List (Moment × Octets) → Ledger → List Resolution
  | [], _ => []
  | (moment, message) :: later, ledger =>
    let resolution := resolver.resolve moment.recursor (query message) moment.now ledger
    resolution :: resolver.resolveAll query later resolution.ledger

namespace Dot

/-- Why a connection cannot go on after a resolution: there is no answer, or none that fits a
frame. -/
def failure? (resolution : Resolution) : Option Failure :=
  match resolution.result with
  | .error error => some (.rejected error)
  | .ok answer => if answer.length ≤ maxLength then none else some (.messageTooLarge answer.length)

/-- How a connection fails with a resolution. -/
inductive FailsWith (resolution : Resolution) : Failure → Prop where
  | rejected {error : ResolveError} (refused : resolution.result = .error error) :
      FailsWith resolution (.rejected error)
  | messageTooLarge {answer : Octets} (answered : resolution.result = .ok answer)
      (long : maxLength < answer.length) : FailsWith resolution (.messageTooLarge answer.length)

/-- The resolutions before the first that a connection fails with. -/
def delivered (resolutions : List Resolution) : List Resolution :=
  resolutions.takeWhile fun resolution => (failure? resolution).isNone

/-- The resolutions up to and including the first that a connection fails with. -/
def attended (resolutions : List Resolution) : List Resolution :=
  resolutions.take ((delivered resolutions).length + 1)

/-- The answers before the first resolution that a connection fails with. -/
def answers (resolutions : List Resolution) : List Octets :=
  (delivered resolutions).filterMap fun resolution => resolution.result.toOption

/-- What the first resolution that a connection fails with makes it fail for. -/
def firstFailure? (resolutions : List Resolution) : Option Failure := resolutions.findSome? failure?

/-- The ledger that resolutions leave. -/
def ledgerAfter (ledger : Ledger) (resolutions : List Resolution) : Ledger :=
  (resolutions.getLast?.map (·.ledger)).getD ledger

variable {resolution : Resolution} {resolutions later : List Resolution} {answer : Octets}
variable {failure : Failure} {ledger : Ledger}

theorem failure?_eq_none_iff :
    failure? resolution = none ↔
      ∃ answer, resolution.result = .ok answer ∧ answer.length ≤ maxLength := by
  unfold failure?
  cases resolution.result with
  | error error => simp
  | ok answer => simp

theorem failure?_eq_some_iff :
    failure? resolution = some failure ↔ FailsWith resolution failure := by
  unfold failure?
  constructor
  · intro fails
    cases result : resolution.result with
    | error error =>
        rw [result] at fails
        obtain rfl := Option.some.inj fails
        exact .rejected result
    | ok answer =>
        rw [result] at fails
        dsimp only at fails
        split at fails
        next => cases fails
        next long =>
            obtain rfl := Option.some.inj fails
            exact .messageTooLarge result (Nat.not_le.mp long)
  · intro fails
    cases fails with
    | rejected refused => rw [refused]
    | messageTooLarge answered long =>
        rw [answered]
        exact if_neg (Nat.not_le.mpr long)

/-! ## Up to the first failure -/

theorem firstFailure?_eq_none_iff :
    firstFailure? resolutions = none ↔
      ∀ resolution ∈ resolutions, failure? resolution = none :=
  List.findSome?_eq_none_iff

theorem failure?_of_mem_delivered (mem : resolution ∈ delivered resolutions) :
    failure? resolution = none :=
  Option.isNone_iff_eq_none.mp
    (List.mem_takeWhile_imp (p := fun resolution => (failure? resolution).isNone) mem)

/-- While nothing fails, everything is delivered, and what comes later may be. -/
theorem delivered_append (clean : firstFailure? resolutions = none) (later : List Resolution) :
    delivered (resolutions ++ later) = resolutions ++ delivered later := by
  unfold delivered
  rw [List.takeWhile_append_of_pos]
  intro resolution mem
  rw [firstFailure?_eq_none_iff.mp clean resolution mem]
  rfl

theorem delivered_eq_self (clean : firstFailure? resolutions = none) :
    delivered resolutions = resolutions := by
  simpa [delivered] using delivered_append clean []

theorem attended_append (clean : firstFailure? resolutions = none) (later : List Resolution) :
    attended (resolutions ++ later) = resolutions ++ attended later := by
  rw [attended, delivered_append clean, List.length_append, Nat.add_assoc,
    List.take_length_add_append, attended]

theorem attended_eq_self (clean : firstFailure? resolutions = none) :
    attended resolutions = resolutions := by
  simpa [attended, delivered] using attended_append clean []

theorem attended_isPrefix (resolutions : List Resolution) : attended resolutions <+: resolutions :=
  List.take_prefix _ _

theorem answers_append (clean : firstFailure? resolutions = none) (later : List Resolution) :
    answers (resolutions ++ later) = answers resolutions ++ answers later := by
  rw [answers, delivered_append clean, List.filterMap_append, answers, delivered_eq_self clean,
    answers]

theorem firstFailure?_append (resolutions later : List Resolution) :
    firstFailure? (resolutions ++ later) =
      (firstFailure? resolutions).or (firstFailure? later) :=
  List.findSome?_append

theorem length_delivered_lt (failed : firstFailure? resolutions ≠ none) :
    (delivered resolutions).length < resolutions.length := by
  refine Nat.lt_of_le_of_ne (List.takeWhile_prefix _).length_le ?_
  intro all
  have clean := List.takeWhile_eq_self_iff.mp ((List.takeWhile_prefix _).eq_of_length all)
  apply failed
  rw [firstFailure?_eq_none_iff]
  intro resolution mem
  exact Option.isNone_iff_eq_none.mp (clean resolution mem)

/-- Behind the first failure nothing is delivered. -/
theorem delivered_append_of_failed (failed : firstFailure? resolutions ≠ none)
    (later : List Resolution) :
    delivered (resolutions ++ later) = delivered resolutions := by
  have undelivered := Nat.ne_of_lt (length_delivered_lt failed)
  rw [delivered] at undelivered ⊢
  rw [List.takeWhile_append, if_neg undelivered, delivered]

/-- Behind the first failure nothing is attended to. -/
theorem attended_append_of_failed (failed : firstFailure? resolutions ≠ none)
    (later : List Resolution) : attended (resolutions ++ later) = attended resolutions := by
  rw [attended, delivered_append_of_failed failed,
    List.take_append_of_le_length (length_delivered_lt failed), attended]

/-- The last resolution that is attended to is the one that is not delivered. -/
theorem exists_attended_eq (failed : firstFailure? resolutions = some failure) :
    ∃ resolution ∈ resolutions, failure? resolution = some failure ∧
      attended resolutions = delivered resolutions ++ [resolution] := by
  induction resolutions with
  | nil => cases failed
  | cons first rest ih =>
      cases ends : failure? first with
      | none =>
          have clean : firstFailure? [first] = none := by simp [firstFailure?, ends]
          rw [firstFailure?, List.findSome?_cons, ends] at failed
          obtain ⟨resolution, mem, fails, rest_eq⟩ := ih failed
          refine ⟨resolution, List.mem_cons_of_mem first mem, fails, ?_⟩
          rw [← List.singleton_append, attended_append clean, rest_eq, delivered_append clean,
            List.append_assoc]
      | some reason =>
          rw [firstFailure?, List.findSome?_cons, ends] at failed
          refine ⟨first, List.mem_cons_self, ends.trans failed, ?_⟩
          simp [attended, delivered, ends]

theorem firstFailure?_attended (resolutions : List Resolution) :
    firstFailure? (attended resolutions) = firstFailure? resolutions := by
  cases failed : firstFailure? resolutions with
  | none => rw [attended_eq_self failed, failed]
  | some failure =>
      obtain ⟨resolution, -, fails, attended_eq⟩ := exists_attended_eq failed
      have clean : firstFailure? (delivered resolutions) = none := by
        rw [firstFailure?_eq_none_iff]
        intro other mem
        exact failure?_of_mem_delivered mem
      rw [attended_eq, firstFailure?_append, clean, Option.none_or, firstFailure?,
        List.findSome?_cons, fails]

/-! ## Ledgers in between -/

theorem ledgerAfter_append (ledger : Ledger) (resolutions later : List Resolution) :
    ledgerAfter ledger (resolutions ++ later) =
      ledgerAfter (ledgerAfter ledger resolutions) later := by
  unfold ledgerAfter
  rw [List.getLast?_append]
  cases later.getLast? with
  | none => rfl
  | some last => rfl

theorem ledgerAfter_cons (ledger : Ledger) (resolution : Resolution) (later : List Resolution) :
    ledgerAfter ledger (resolution :: later) = ledgerAfter resolution.ledger later :=
  ledgerAfter_append ledger [resolution] later

end Dot

theorem Resolver.resolveAll_append (resolver : Resolver) (query : Octets → Query)
    (messages later : List (Moment × Octets)) (ledger : Ledger) :
    resolver.resolveAll query (messages ++ later) ledger =
      resolver.resolveAll query messages ledger ++
        resolver.resolveAll query later
          (Dot.ledgerAfter ledger (resolver.resolveAll query messages ledger)) := by
  induction messages generalizing ledger with
  | nil => rfl
  | cons first rest ih =>
      rw [List.cons_append, resolveAll, ih, resolveAll, List.cons_append, Dot.ledgerAfter_cons]

theorem Resolver.resolveAll_take (resolver : Resolver) (query : Octets → Query) (count : Nat)
    (messages : List (Moment × Octets)) (ledger : Ledger) :
    resolver.resolveAll query (messages.take count) ledger =
      (resolver.resolveAll query messages ledger).take count := by
  induction messages generalizing count ledger with
  | nil => rw [List.take_nil, resolveAll, List.take_nil]
  | cons first later ih =>
      cases count with
      | zero => rfl
      | succ count => rw [List.take_succ_cons, resolveAll, ih, resolveAll, List.take_succ_cons]

end Tollgate.Dns
