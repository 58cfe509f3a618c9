import Tollgate.Proofs.Ledger.Authorization
import Tollgate.Proofs.Ledger.Conservation
import Tollgate.Proofs.Ledger.Renumbering

/-!
# Isolation of tokens

All tokens share one list of tickets, one counter of ids and one register of pay orders. Only the
register lets a token notice another one, when both use the same pay order. In a run where no pay
order is used for two tokens, a token cannot tell whether the others exist.

`Store.restrict` is the store as one token sees it. The token's own operations act on this view as
they do on the whole store, and an operation of another token moves the next id at most. So the run
goes side by side with the run of the token's own operations, and `Renumbers` relates the latter to
the view of the former.
-/

namespace Tollgate

namespace LedgerOperation

/-- The operations of a run that are about a token. -/
def ofToken (owner : String) (operations : List LedgerOperation) : List LedgerOperation :=
  operations.filter (·.token = owner)

/-- What an operation asks to be credited. -/
def credit? : LedgerOperation → Option Credit
  | .create credit _ => some credit
  | .cost _ _ _ => none

/-- What a run asks to be credited. -/
def credits (operations : List LedgerOperation) : List Credit := operations.filterMap credit?

/-- No pay order is used for two tokens. -/
def OrdersExclusive (operations : List LedgerOperation) : Prop :=
  ∀ first ∈ credits operations, ∀ second ∈ credits operations,
    first.payOrder = second.payOrder → first.token = second.token

theorem mem_credits_cons_of_mem {operation : LedgerOperation} {operations : List LedgerOperation}
    {credit : Credit} (mem : credit ∈ credits operations) :
    credit ∈ credits (operation :: operations) := by
  obtain ⟨other, listed, same⟩ := List.mem_filterMap.mp mem
  exact List.mem_filterMap.mpr ⟨other, List.mem_cons_of_mem _ listed, same⟩

theorem mem_credits_create (credit : Credit) (now : Instant) (operations : List LedgerOperation) :
    credit ∈ credits (.create credit now :: operations) :=
  List.mem_cons_self

end LedgerOperation

namespace Store

open LedgerOperation (ofToken credits OrdersExclusive mem_credits_cons_of_mem
  mem_credits_create)

variable {owner token : String} {amount : Int} {now : Instant} {store alone : Store}
variable {operation : LedgerOperation} {operations : List LedgerOperation} {f : Int → Int}

/-- The store as a token sees it. -/
def restrict (owner : String) (store : Store) : Store :=
  { store with tickets := store.ticketsOf owner }

@[simp] theorem restrict_tickets : (store.restrict owner).tickets = store.ticketsOf owner := rfl

@[simp] theorem ticketsOf_restrict :
    (store.restrict owner).ticketsOf owner = store.ticketsOf owner := by
  simp [restrict, ticketsOf]

/-! ## Debits -/

/-- What a token can be charged stands among its own tickets. -/
theorem any_chargeable_filter (tickets : List Ticket) :
    (tickets.filter (·.token = owner)).any (chargeable owner now) =
      tickets.any (chargeable owner now) := by
  rw [List.any_filter]
  congr 1
  funext ticket
  by_cases own : ticket.token = owner
  · simp [own]
  · simp [own, not_chargeable_of_token_ne own]

private theorem filter_cons_own {ticket : Ticket} (rest : List Ticket)
    (own : ticket.token = owner) :
    (ticket :: rest).filter (·.token = owner) = ticket :: rest.filter (·.token = owner) :=
  List.filter_cons_of_pos (by simpa using own)

private theorem filter_cons_foreign {ticket : Ticket} (rest : List Ticket)
    (foreign : ticket.token ≠ owner) :
    (ticket :: rest).filter (·.token = owner) = rest.filter (·.token = owner) :=
  List.filter_cons_of_neg (by simpa using foreign)

/-- A debit walks the tickets of its own token and passes by all others. -/
theorem filter_debitAll (tickets : List Ticket) :
    (debitAll owner amount now tickets).filter (·.token = owner) =
      debitAll owner amount now (tickets.filter (·.token = owner)) := by
  induction tickets generalizing amount with
  | nil => rfl
  | cons ticket rest ih =>
      by_cases own : ticket.token = owner
      · have own_charged (share : Int) : (charged share now ticket).token = owner := own
        rw [filter_cons_own rest own, debitAll, debitAll, any_chargeable_filter rest]
        by_cases pays : chargeable owner now ticket = true
        · rw [if_pos pays, if_pos pays]
          by_cases stops : amount ≤ ticket.bytes ∨ rest.any (chargeable owner now) = false
          · rw [if_pos stops, if_pos stops, filter_cons_own rest (own_charged amount)]
          · rw [if_neg stops, if_neg stops, filter_cons_own _ (own_charged ticket.bytes), ih]
        · rw [if_neg pays, if_neg pays, filter_cons_own _ own, ih]
      · have keeps : ¬ chargeable owner now ticket = true := by
          simp [not_chargeable_of_token_ne own]
        rw [filter_cons_foreign rest own, debitAll, if_neg keeps, filter_cons_foreign _ own, ih]

/-- Only tickets of the token that is debited are drained. -/
theorem filter_map_drained (front : List Ticket) (foreign : token ≠ owner) :
    (front.map (drained token now)).filter (·.token = owner) =
      front.filter (·.token = owner) := by
  rw [List.filter_map]
  simp only [Function.comp_def, drained_token]
  refine (List.map_congr_left ?_).trans (List.map_id _)
  intro ticket mem
  have own : ticket.token = owner := by simpa using (List.mem_filter.mp mem).2
  exact drained_of_not_chargeable (not_chargeable_of_token_ne (own.trans_ne foreign.symm))

/-- A debit changes no ticket of another token. -/
theorem Settles.filter_eq_of_ne {tickets paid : List Ticket}
    (debit : Settles token amount now tickets paid) (foreign : token ≠ owner) :
    paid.filter (·.token = owner) = tickets.filter (·.token = owner) := by
  obtain ⟨front, settling, behind, share, pays, share_pos, owed, ends⟩ := debit
  have settling_foreign : ¬ settling.token = owner := by
    rw [(chargeable_iff.mp pays).1]
    exact foreign
  have charged_foreign : ¬ (charged share now settling).token = owner := settling_foreign
  rw [List.filter_append, List.filter_append, filter_map_drained front foreign]
  simp [settling_foreign]

/-! ## One operation -/

/-- What a token sees of an operation of another token: an id is used up, if anything. -/
theorem restrict_after_of_ne (operation : LedgerOperation) (store : Store)
    (foreign : operation.token ≠ owner) :
    (operation.after store).restrict owner = store.restrict owner ∨
      (operation.after store).restrict owner =
        { store.restrict owner with nextId := (store.restrict owner).nextId + 1 } := by
  have step := store.step operation
  generalize operation.outcome store = outcome, operation.after store = later at step ⊢
  cases step with
  | outOfRange | free | refused => exact Or.inl rfl
  | repeated => exact Or.inr rfl
  | @added credit now expires =>
      have new_foreign : (credit.ticket store.nextId now expires).token ≠ owner := foreign
      right
      simp only [restrict, ticketsOf, List.filter_append, filter_cons_foreign [] new_foreign,
        List.filter_nil, List.append_nil]
  | settled _ debit =>
      left
      simp only [restrict, ticketsOf, debit.filter_eq_of_ne foreign]

theorem ticketsOf_after_of_ne (operation : LedgerOperation) (store : Store)
    (foreign : operation.token ≠ owner) :
    (operation.after store).ticketsOf owner = store.ticketsOf owner := by
  rcases restrict_after_of_ne operation store foreign with unseen | counted
  · exact congrArg Store.tickets unseen
  · exact congrArg Store.tickets counted

/-- A token's debit does to the token's view what it does to the store. -/
theorem restrict_cost (owner : String) (amount : Int) (now : Instant) (store : Store) :
    (LedgerOperation.cost owner amount now).outcome (store.restrict owner) =
        (LedgerOperation.cost owner amount now).outcome store ∧
      (LedgerOperation.cost owner amount now).after (store.restrict owner) =
        ((LedgerOperation.cost owner amount now).after store).restrict owner := by
  simp only [LedgerOperation.outcome, LedgerOperation.after, LedgerOperation.apply,
    cost_eq_costThroughAll, costThroughAll, restrict_tickets, ticketsOf, any_chargeable_filter]
  by_cases free : amount ≤ 0
  · rw [if_pos free, if_pos free]
    exact ⟨rfl, rfl⟩
  · rw [if_neg free, if_neg free]
    cases store.tickets.any (chargeable owner now) with
    | false => exact ⟨rfl, rfl⟩
    | true =>
        refine ⟨rfl, ?_⟩
        simp only [restrict, ticketsOf, if_true, filter_debitAll]

theorem creditExpiry?_restrict (credit : Credit) (now : Instant) (store : Store) :
    (store.restrict credit.token).creditExpiry? credit now = store.creditExpiry? credit now := by
  rw [creditExpiry?, newest?, ticketsOf_restrict, creditExpiry?, newest?]

/-- A token sees whether a pay order is known, if only its own tickets may have it. -/
theorem knows_restrict_iff {payOrder : String}
    (own : ∀ ticket ∈ store.tickets, ticket.payOrder = payOrder → ticket.token = owner) :
    (store.restrict owner).Knows payOrder ↔ store.Knows payOrder := by
  constructor
  · rintro ⟨ticket, mem, same⟩
    exact ⟨ticket, (mem_ticketsOf.mp mem).1, same⟩
  · rintro ⟨ticket, mem, same⟩
    exact ⟨ticket, mem_ticketsOf.mpr ⟨mem, own ticket mem same⟩, same⟩

/-- A token's credit does to the token's view what it does to the store, unless another token has
the pay order. -/
theorem restrict_create (credit : Credit) (now : Instant) (store : Store)
    (own : ∀ ticket ∈ store.tickets,
      ticket.payOrder = credit.payOrder → ticket.token = credit.token) :
    (LedgerOperation.create credit now).outcome (store.restrict credit.token) =
        (LedgerOperation.create credit now).outcome store ∧
      (LedgerOperation.create credit now).after (store.restrict credit.token) =
        ((LedgerOperation.create credit now).after store).restrict credit.token := by
  simp only [LedgerOperation.outcome, LedgerOperation.after, LedgerOperation.apply]
  have same_expiry := creditExpiry?_restrict credit now store
  cases dated : store.creditExpiry? credit now with
  | none =>
      rw [create_of_no_expiry dated, create_of_no_expiry (same_expiry.trans dated)]
      exact ⟨rfl, rfl⟩
  | some expires =>
      by_cases known : store.Knows credit.payOrder
      · rw [create_of_knows dated known,
          create_of_knows (same_expiry.trans dated) ((knows_restrict_iff own).mpr known)]
        exact ⟨rfl, rfl⟩
      · rw [create_of_not_knows dated known,
          create_of_not_knows (same_expiry.trans dated) (mt (knows_restrict_iff own).mp known)]
        have new_own : (credit.ticket store.nextId now expires).token = credit.token := rfl
        refine ⟨rfl, ?_⟩
        simp only [restrict, ticketsOf, List.filter_append, filter_cons_own [] new_own,
          List.filter_nil]

/-! ## Runs -/

/-- No pay order of a run is used for two tokens, counting the tickets that are there already. -/
structure Exclusive (store : Store) (operations : List LedgerOperation) : Prop where
  requested : OrdersExclusive operations
  held : ∀ ticket ∈ store.tickets, ∀ credit ∈ credits operations,
    ticket.payOrder = credit.payOrder → ticket.token = credit.token

/-- A ticket after an operation has its token and pay order from a ticket before, or from the
operation. -/
theorem Step.order_origin {outcome : Except LedgerError Unit} {later : Store}
    (step : Step store operation outcome later) {ticket : Ticket} (mem : ticket ∈ later.tickets) :
    (∃ old ∈ store.tickets, old.token = ticket.token ∧ old.payOrder = ticket.payOrder) ∨
      ∃ credit now, operation = .create credit now ∧
        credit.token = ticket.token ∧ credit.payOrder = ticket.payOrder := by
  cases step with
  | outOfRange | repeated | free | refused => exact Or.inl ⟨ticket, mem, rfl, rfl⟩
  | added =>
      rcases List.mem_append.mp mem with old | new
      · exact Or.inl ⟨ticket, old, rfl, rfl⟩
      · rw [List.mem_singleton.mp new]
        exact Or.inr ⟨_, _, rfl, rfl, rfl⟩
  | settled _ debit =>
      obtain ⟨old, mem_old, change⟩ := debit.exists_debited_from mem
      refine Or.inl ⟨old, mem_old, ?_⟩
      cases change with
      | untouched | charged => exact ⟨rfl, rfl⟩

theorem Step.knows_origin {outcome : Except LedgerError Unit} {later : Store}
    (step : Step store operation outcome later) {payOrder : String} (known : later.Knows payOrder) :
    store.Knows payOrder ∨
      ∃ credit now, operation = .create credit now ∧ credit.payOrder = payOrder := by
  obtain ⟨ticket, mem, rfl⟩ := known
  rcases step.order_origin mem with ⟨old, mem_old, -, same⟩ | ⟨credit, now, created, -, same⟩
  · exact Or.inl ⟨old, mem_old, same⟩
  · exact Or.inr ⟨credit, now, created, same⟩

theorem Exclusive.after (h : Exclusive store (operation :: operations)) :
    Exclusive (operation.after store) operations := by
  refine ⟨?_, ?_⟩
  · intro first mem_first second mem_second
    exact h.requested first (mem_credits_cons_of_mem mem_first) second
      (mem_credits_cons_of_mem mem_second)
  · intro ticket mem credit mem_credit same
    have later_credit : credit ∈ credits (operation :: operations) :=
      mem_credits_cons_of_mem mem_credit
    rcases (store.step operation).order_origin mem with
      ⟨old, mem_old, old_token, old_order⟩ | ⟨first, time, rfl, first_token, first_order⟩
    · rw [← old_token]
      exact h.held old mem_old credit later_credit (old_order.trans same)
    · rw [← first_token]
      exact h.requested first (mem_credits_create first time operations) credit later_credit
        (first_order.trans same)

/-- A token's operation does to the token's view what it does to the store. -/
theorem Exclusive.restrict_after (h : Exclusive store (operation :: operations))
    (own : operation.token = owner) :
    operation.outcome (store.restrict owner) = operation.outcome store ∧
      operation.after (store.restrict owner) = (operation.after store).restrict owner := by
  subst own
  cases operation with
  | create credit now =>
      exact restrict_create credit now store fun ticket mem same =>
        h.held ticket mem credit (mem_credits_create credit now operations) same
  | cost token amount now => exact restrict_cost token amount now store

/-- A token's operations alone keep up with the token's view of the whole run: they end alike, and
the tickets differ by a renumbering. -/
theorem Renumbers.isolate (h : Renumbers f alone (store.restrict owner))
    (registered : alone.Registered) (exclusive : Exclusive store operations) :
    (store.trace operations).filter (·.1.token = owner) =
        alone.trace (ofToken owner operations) ∧
      ∃ g, Renumbers g (alone.run (ofToken owner operations))
        ((store.run operations).restrict owner) := by
  induction operations generalizing f store alone with
  | nil => exact ⟨rfl, f, h⟩
  | cons operation rest ih =>
      by_cases own : operation.token = owner
      · obtain ⟨same_outcome, related⟩ := h.step operation
        obtain ⟨seen_outcome, seen⟩ := exclusive.restrict_after own
        rw [seen] at related
        obtain ⟨same_trace, ends⟩ := ih related ((alone.step operation).registered registered)
          exclusive.after
        have listed : ofToken owner (operation :: rest) = operation :: ofToken owner rest :=
          List.filter_cons_of_pos (by simpa using own)
        rw [listed]
        refine ⟨?_, ends⟩
        rw [trace, trace, List.filter_cons_of_pos (by simpa using own), same_trace,
          ← same_outcome, seen_outcome]
      · have listed : ofToken owner (operation :: rest) = ofToken owner rest :=
          List.filter_cons_of_neg (by simpa using own)
        obtain ⟨g, related⟩ :
            ∃ g, Renumbers g alone ((operation.after store).restrict owner) := by
          rcases restrict_after_of_ne operation store own with unchanged | skipped
          · rw [unchanged]
            exact ⟨f, h⟩
          · rw [skipped]
            exact h.skip_other_id registered
        obtain ⟨same_trace, ends⟩ := ih related registered exclusive.after
        rw [listed]
        refine ⟨?_, ends⟩
        rw [trace, List.filter_cons_of_neg (by simpa using own), same_trace]

/-! ## What a token can read -/

@[simp] theorem balance_restrict : (store.restrict owner).balance owner = store.balance owner := by
  change (((store.restrict owner).ticketsOf owner).map (·.bytes)).sum = _
  rw [ticketsOf_restrict]
  rfl

@[simp] theorem isActive_restrict :
    (Ledger.store (store.restrict owner)).isActive owner now =
      (Ledger.store store).isActive owner now := by
  rw [Ledger.isActive_store, Ledger.isActive_store, newest?, ticketsOf_restrict, newest?]

theorem Renumbers.balance_eq {other : Store} (h : Renumbers f store other) (owner : String) :
    other.balance owner = store.balance owner := by
  change ((other.ticketsOf owner).map (·.bytes)).sum = ((store.ticketsOf owner).map (·.bytes)).sum
  rw [h.ticketsOf_eq, List.map_map]
  rfl

theorem Renumbers.isActive_eq {other : Store} (h : Renumbers f store other) (owner : String)
    (now : Instant) :
    (Ledger.store other).isActive owner now = (Ledger.store store).isActive owner now := by
  rw [Ledger.isActive_store, Ledger.isActive_store, h.newest?_eq, Option.any_map]
  rfl

/-- Tokens are isolated from each other. Without the operations of all other tokens, the operations
of a token end as they do in the whole run, and its tickets, in the order of their ids, are the same
up to a renumbering that keeps this order. So its balance, its chain of expiries and its activity do
not depend on the others either. -/
theorem token_isolation (exclusive : OrdersExclusive operations) (owner : String) :
    (Store.empty.trace operations).filter (·.1.token = owner) =
        Store.empty.trace (ofToken owner operations) ∧
    (∃ f : Int → Int, (∀ ⦃first second : Int⦄, first < second → f first < f second) ∧
      (Store.empty.run operations).ticketsOf owner =
        ((Store.empty.run (ofToken owner operations)).ticketsOf owner).map (Ticket.renumber f)) ∧
    ((Store.empty.run operations).ticketsOf owner).Pairwise
      (fun older newer => older.id < newer.id) ∧
    (Store.empty.run operations).balance owner =
      (Store.empty.run (ofToken owner operations)).balance owner ∧
    (∀ (credit : Credit) (now : Instant), credit.token = owner →
      (Store.empty.run operations).creditExpiry? credit now =
        (Store.empty.run (ofToken owner operations)).creditExpiry? credit now) ∧
    ∀ now : Instant, (Ledger.store (Store.empty.run operations)).isActive owner now =
      (Ledger.store (Store.empty.run (ofToken owner operations))).isActive owner now := by
  have start : Exclusive Store.empty operations := ⟨exclusive, by simp [Store.empty]⟩
  obtain ⟨same_trace, f, related⟩ :=
    (Renumbers.refl (Store.empty.restrict owner)).isolate Registered.empty start
  have registered := registered_run Registered.empty operations
  refine ⟨same_trace, ⟨f, related.ascends, ?_⟩, ?_, ?_, ?_, ?_⟩
  · rw [← ticketsOf_restrict, related.ticketsOf_eq]
    rfl
  · exact (List.pairwise_map.mp registered.ids_ascend).filter _
  · rw [← balance_restrict, related.balance_eq]
    rfl
  · rintro credit now rfl
    rw [← creditExpiry?_restrict, related.creditExpiry?_eq]
    rfl
  · intro now
    rw [← isActive_restrict, related.isActive_eq]
    rfl

/-- Two tokens take turns, and one of them is overdrawn. -/
def takingTurns : List LedgerOperation :=
  [.create ⟨"b", 9, "first", ""⟩ 0, .create ⟨"a", 5, "second", ""⟩ 1, .cost "b" 20 2,
    .cost "a" 3 3, .create ⟨"a", 7, "third", ""⟩ 4, .cost "b" 1 5]

/-- The overdraft of one token leaves the other token its balance and its service. -/
theorem served_beside_overdraft :
    OrdersExclusive takingTurns ∧
    (Store.empty.trace takingTurns).filter (·.1.token = "a") =
      [(.create ⟨"a", 5, "second", ""⟩ 1, .ok ()), (.cost "a" 3 3, .ok ()),
        (.create ⟨"a", 7, "third", ""⟩ 4, .ok ())] ∧
    (Store.empty.run takingTurns).balance "a" = 9 ∧
    (Ledger.store (Store.empty.run takingTurns)).isActive "a" 6 = .ok true ∧
    (Ledger.store (Store.empty.run takingTurns)).isActive "b" 6 = .ok false := by
  have exclusive : OrdersExclusive takingTurns := by
    unfold OrdersExclusive
    decide
  obtain ⟨same_trace, -, -, same_balance, -, same_activity⟩ := token_isolation exclusive "a"
  refine ⟨exclusive, ?_, ?_, ?_, by decide⟩
  · rw [same_trace]
    decide
  · rw [same_balance]
    decide
  · rw [same_activity]
    decide

end Store

end Tollgate
