import Tollgate.Proofs.Ledger.Isolation
import Tollgate.Proofs.Ledger.Lifecycle

/-!
# Tokens that are cut off

A token is cut off while it has no ticket, or its newest ticket has no bytes left. Debits only take
bytes and keep every ticket in its place, and operations of other tokens do not touch its tickets.
So nothing but a credit for the token itself ends this.
-/

namespace Tollgate

/-- Whether an operation is a credit for a token. -/
def LedgerOperation.Credits (token : String) : LedgerOperation → Prop
  | .create credit _ => credit.token = token
  | .cost _ _ _ => False

namespace Store

/-- There is no ticket of the token, or its newest ticket has no bytes left. -/
def CutOff (token : String) (store : Store) : Prop :=
  ∀ ticket, store.newest? token = some ticket → ticket.bytes ≤ 0

variable {token payer : String} {amount : Int} {now : Instant} {store : Store}
variable {operation : LedgerOperation}

/-- The ledger serves no token that is cut off. -/
theorem isActive_of_cutOff (cut : store.CutOff token) (now : Instant) :
    (Ledger.store store).isActive token now = .ok false := by
  rw [Ledger.isActive_store]
  cases newest : store.newest? token with
  | none => rfl
  | some ticket =>
      have spent : ¬ 0 < ticket.bytes := Int.not_lt.mpr (cut ticket newest)
      simp [spent]

/-- A debit leaves the newest ticket of a token the newest. -/
theorem exists_newest?_of_settles {paid : List Ticket} {new : Ticket}
    (debit : Settles payer amount now store.tickets paid)
    (newest : newest? token { store with tickets := paid } = some new) :
    ∃ old, store.newest? token = some old ∧ Debited payer amount now old new := by
  have own : List.Forall₂ (Debited payer amount now) (store.ticketsOf token)
      (ticketsOf token { store with tickets := paid }) := by
    refine List.rel_filter ?_ debit.forall₂
    intro old new change
    cases change with
    | untouched | charged => rfl
  have newest_first := List.forall₂_reverse_iff.mpr own
  rw [newest?, List.getLast?_eq_head?_reverse] at newest ⊢
  obtain ⟨older, later_eq⟩ := List.head?_eq_some_iff.mp newest
  rw [later_eq] at newest_first
  obtain ⟨old, before, change, -, earlier_eq⟩ := List.forall₂_cons_right_iff.mp newest_first
  exact ⟨old, by rw [earlier_eq]; rfl, change⟩

/-- Every operation but a credit for the token leaves it cut off. -/
theorem CutOff.after (cut : store.CutOff token) (operation : LedgerOperation)
    (other : ¬ operation.Credits token) : (operation.after store).CutOff token := by
  cases operation with
  | create credit now =>
      have foreign : (LedgerOperation.create credit now).token ≠ token := other
      intro ticket newest
      rw [newest?, ticketsOf_after_of_ne _ store foreign] at newest
      exact cut ticket newest
  | cost payer amount now =>
      have step := store.step (.cost payer amount now)
      generalize (LedgerOperation.cost payer amount now).outcome store = outcome,
        (LedgerOperation.cost payer amount now).after store = later at step ⊢
      cases step with
      | free | refused => exact cut
      | settled _ debit =>
          intro new newest
          obtain ⟨old, newest_old, change⟩ := exists_newest?_of_settles debit newest
          exact Int.le_trans change.evolves.bytes_le (cut old newest_old)

/-- A ledger comes from a store by operations that do not credit the token. -/
def Uncredited (token : String) (store : Store) (ledger : Ledger) : Prop :=
  ∃ operations : List LedgerOperation, ledger = .store (store.run operations) ∧
    ∀ operation ∈ operations, ¬ operation.Credits token

namespace Uncredited

variable {ledger later : Ledger}

theorem refl (token : String) (store : Store) : store.Uncredited token (.store store) :=
  ⟨[], rfl, fun _ mem => nomatch mem⟩

theorem trans {middle : Store} (first : store.Uncredited token (.store middle))
    (second : middle.Uncredited token later) : store.Uncredited token later := by
  obtain ⟨operations, middle_eq, others⟩ := first
  obtain ⟨more, later_eq, more_others⟩ := second
  obtain rfl := Ledger.store.inj middle_eq
  refine ⟨operations ++ more, by rw [later_eq, run_append], ?_⟩
  intro operation mem
  rcases List.mem_append.mp mem with early | late
  · exact others operation early
  · exact more_others operation late

theorem of_operation (operation : LedgerOperation) (store : Store)
    (other : ¬ operation.Credits token) :
    store.Uncredited token (.store (operation.after store)) := by
  refine ⟨[operation], rfl, ?_⟩
  intro same mem
  rwa [List.mem_singleton.mp mem]

theorem of_cost {later : Store} (debited : store.cost payer amount now = .ok later) :
    store.Uncredited token (.store later) := by
  have after_eq : (LedgerOperation.cost payer amount now).after store = later := by
    simp only [LedgerOperation.after, LedgerOperation.apply, debited]
  rw [← after_eq]
  exact of_operation _ store id

theorem exists_store (h : store.Uncredited token ledger) : ∃ later, ledger = .store later := by
  obtain ⟨operations, later_eq, -⟩ := h
  exact ⟨_, later_eq⟩

/-- What does not credit a token leaves it cut off. -/
theorem cutOff {later : Store} (h : store.Uncredited token (.store later))
    (cut : store.CutOff token) : later.CutOff token := by
  obtain ⟨operations, later_eq, others⟩ := h
  obtain rfl := Ledger.store.inj later_eq
  clear later_eq
  induction operations generalizing store with
  | nil => exact cut
  | cons operation rest ih =>
      apply ih (cut.after operation (others operation List.mem_cons_self))
      intro later mem
      exact others later (List.mem_cons_of_mem _ mem)

end Uncredited

end Store

end Tollgate
