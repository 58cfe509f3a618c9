import Tollgate.Proofs.Ledger.Conservation
import Tollgate.Proofs.Ledger.Renumbering

/-!
# Repeated pay orders

A payment may be notified more than once, so credits repeat pay orders, perhaps for another token,
another number of bytes and at another time. Such a credit uses up an id at most. It is as if it had
not been made: the other calls of a run end as they would without it, and the tickets differ in
their ids alone.

A run into which credits are put is a list of `PaddedCall`. Leaving the credits out gives the
original run. The two runs go side by side, related by a renumbering that a repeated pay order
changes only for ids to come.
-/

namespace Tollgate

/-- A call of a run into which credits are put. -/
inductive PaddedCall where
  /-- A call of the original run. -/
  | original (operation : LedgerOperation)
  /-- A credit that is put in. -/
  | inserted (credit : Credit) (now : Instant)
  deriving DecidableEq, Repr

namespace PaddedCall

def operation : PaddedCall → LedgerOperation
  | .original operation => operation
  | .inserted credit now => .create credit now

/-- The operation, unless it is put in. -/
def original? : PaddedCall → Option LedgerOperation
  | .original operation => some operation
  | .inserted _ _ => none

/-- The run with the credits that are put in. -/
def operations (calls : List PaddedCall) : List LedgerOperation := calls.map operation

/-- The run without them. -/
def originals (calls : List PaddedCall) : List LedgerOperation := calls.filterMap original?

end PaddedCall

namespace Store

open PaddedCall (operations originals)

/-- Every credit that is put in repeats a pay order that the store knows by then. -/
def OnlyRepeats : Store → List PaddedCall → Prop
  | _, [] => True
  | store, .original operation :: rest => OnlyRepeats (operation.after store) rest
  | store, .inserted credit now :: rest =>
    store.Knows credit.payOrder ∧ OnlyRepeats ((LedgerOperation.create credit now).after store) rest

/-- The calls of the original run, with their outcomes while credits are put in. -/
def originalTrace :
    Store → List PaddedCall → List (LedgerOperation × Except LedgerError Unit)
  | _, [] => []
  | store, .original operation :: rest =>
    (operation, operation.outcome store) :: originalTrace (operation.after store) rest
  | store, .inserted credit now :: rest =>
    originalTrace ((LedgerOperation.create credit now).after store) rest

/-- Neither a ticket nor a balance nor a chain of expiries tells two stores apart. -/
structure Alike (store later : Store) : Prop where
  tickets_eq : later.tickets = store.tickets
  balance_eq : ∀ owner, later.balance owner = store.balance owner
  creditExpiry?_eq : ∀ credit now, later.creditExpiry? credit now = store.creditExpiry? credit now

variable {f : Int → Int} {store other : Store} {credit : Credit} {calls : List PaddedCall}

/-- Balances and chains are functions of the tickets. -/
theorem Alike.of_tickets_eq (same : other.tickets = store.tickets) : store.Alike other := by
  refine ⟨same, ?_, ?_⟩
  · intro owner
    rw [balance, balance, same]
  · intro credit now
    rw [creditExpiry?, creditExpiry?, newest?, newest?, ticketsOf, ticketsOf, same]

/-- A repeated pay order uses up an id, or not even that if its expiry has no date. -/
theorem after_of_knows (known : store.Knows credit.payOrder) (now : Instant) :
    (LedgerOperation.create credit now).after store = store ∨
      (LedgerOperation.create credit now).after store =
        { store with nextId := store.nextId + 1 } := by
  simp only [LedgerOperation.after, LedgerOperation.apply]
  cases dated : store.creditExpiry? credit now with
  | none =>
      rw [create_of_no_expiry dated]
      exact Or.inl rfl
  | some expires =>
      rw [create_of_knows dated known]
      exact Or.inr rfl

theorem alike_after_of_knows (known : store.Knows credit.payOrder) (now : Instant) :
    store.Alike ((LedgerOperation.create credit now).after store) := by
  rcases after_of_knows known now with unchanged | skipped
  · rw [unchanged]
    exact .of_tickets_eq rfl
  · rw [skipped]
    exact .of_tickets_eq rfl

/-- A repeated pay order in the other store alone leaves the two stores related. -/
theorem Renumbers.insert (h : Renumbers f store other) (registered : store.Registered)
    (known : other.Knows credit.payOrder) (now : Instant) :
    ∃ g, Renumbers g store ((LedgerOperation.create credit now).after other) := by
  rcases after_of_knows known now with unchanged | skipped
  · rw [unchanged]
    exact ⟨f, h⟩
  · rw [skipped]
    exact h.skip_other_id registered

/-- The run with repeated pay orders and the run without them answer the same calls alike, and end
in related stores. -/
theorem Renumbers.run (h : Renumbers f store other) (registered : store.Registered)
    (repeats : other.OnlyRepeats calls) :
    other.originalTrace calls = store.trace (originals calls) ∧
      ∃ g, Renumbers g (store.run (originals calls)) (other.run (operations calls)) := by
  induction calls generalizing f store other with
  | nil => exact ⟨rfl, f, h⟩
  | cons call rest ih =>
      cases call with
      | original operation =>
          obtain ⟨same_outcome, related⟩ := h.step operation
          have registered_after := (store.step operation).registered registered
          obtain ⟨same_trace, ends⟩ := ih related registered_after repeats
          refine ⟨?_, ends⟩
          change (operation, operation.outcome other) ::
              (operation.after other).originalTrace rest =
            (operation, operation.outcome store) ::
              (operation.after store).trace (originals rest)
          rw [same_outcome, same_trace]
      | inserted credit now =>
          obtain ⟨known, repeats_after⟩ := repeats
          obtain ⟨g, related⟩ := h.insert registered known now
          exact ih related registered repeats_after

/-- What is put in at any point repeats a pay order that is known at that point. -/
theorem OnlyRepeats.knows {before after : List PaddedCall} {now : Instant}
    (repeats : store.OnlyRepeats (before ++ .inserted credit now :: after)) :
    (store.run (operations before)).Knows credit.payOrder := by
  induction before generalizing store with
  | nil => exact repeats.1
  | cons call rest ih =>
      cases call with
      | original operation => exact ih repeats
      | inserted other time => exact ih repeats.2

/-- Credits that repeat known pay orders are invisible, wherever they are put into a run. The calls
of the run have the outcomes that they have without them, the tickets differ by a renumbering that
keeps the order of ids, and no such credit changes a ticket, a balance or a chain of expiries. -/
theorem repeated_orders_invisible (repeats : Store.empty.OnlyRepeats calls) :
    Store.empty.originalTrace calls = Store.empty.trace (originals calls) ∧
    (∃ f : Int → Int, (∀ ⦃first second : Int⦄, first < second → f first < f second) ∧
      (Store.empty.run (operations calls)).tickets =
        (Store.empty.run (originals calls)).tickets.map (Ticket.renumber f)) ∧
    ∀ before credit now after, calls = before ++ .inserted credit now :: after →
      Alike (Store.empty.run (operations before))
        (Store.empty.run (operations (before ++ [.inserted credit now]))) := by
  obtain ⟨same_trace, f, related⟩ := (Renumbers.refl Store.empty).run Registered.empty repeats
  refine ⟨same_trace, ⟨f, related.ascends, related.tickets_eq⟩, ?_⟩
  rintro before credit now after rfl
  have concat : operations (before ++ [.inserted credit now]) =
      operations before ++ [.create credit now] := by
    simp [operations, PaddedCall.operation]
  rw [concat, run_concat]
  exact alike_after_of_knows repeats.knows now

/-- A purchase that is notified twice, the second time for another token, before another one. -/
def notifiedTwice : List PaddedCall :=
  [.original (.create ⟨"a", 5, "first", ""⟩ 0), .inserted ⟨"b", 9, "first", ""⟩ 3,
    .original (.create ⟨"a", 7, "second", ""⟩ 1), .original (.cost "b" 1 2)]

/-- The other token gets nothing from the second notification, and its debit is refused as it is
without it. -/
theorem refused_after_notified_twice :
    Store.empty.OnlyRepeats notifiedTwice ∧
    Store.empty.originalTrace notifiedTwice = Store.empty.trace (originals notifiedTwice) ∧
    (Store.empty.originalTrace notifiedTwice).getLast? =
      some (.cost "b" 1 2, .error .noEntitlement) := by
  have repeats : Store.empty.OnlyRepeats notifiedTwice :=
    ⟨⟨_, List.mem_cons_self, rfl⟩, trivial⟩
  have same_trace := (repeated_orders_invisible repeats).1
  exact ⟨repeats, same_trace, by decide⟩

end Store

end Tollgate
