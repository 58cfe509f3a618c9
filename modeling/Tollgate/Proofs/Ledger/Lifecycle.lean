import Tollgate.Proofs.Ledger.Register
import Mathlib.Data.List.Induction

/-!
# The life of a ticket

A ticket is never lost and never becomes another one: only its balance and the time of its last
change move. The balance only falls, and once nothing is left neither of the two moves again.

`Ticket.Evolves` relates a ticket to itself at a later time, and `Store.Advances` does so for whole
stores. Both compose, so one step lemma covers every continuation of every run. Where a balance went
below zero is found by looking at a run from its end: the last operation either did it or left the
ticket as the shorter run had it.
-/

namespace Tollgate

/-- How a ticket may differ from itself at an earlier time. -/
structure Ticket.Evolves (old new : Ticket) : Prop where
  id : new.id = old.id
  token : new.token = old.token
  total : new.total = old.total
  payOrder : new.payOrder = old.payOrder
  buyOrder : new.buyOrder = old.buyOrder
  created : new.created = old.created
  expires : new.expires = old.expires
  bytes_le : new.bytes ≤ old.bytes
  frozen : old.bytes ≤ 0 → new.bytes = old.bytes ∧ new.updated = old.updated

namespace Ticket.Evolves

@[refl] theorem refl (ticket : Ticket) : ticket.Evolves ticket :=
  ⟨rfl, rfl, rfl, rfl, rfl, rfl, rfl, Int.le_refl _, fun _ => ⟨rfl, rfl⟩⟩

theorem trans {first second third : Ticket} (h₁ : first.Evolves second)
    (h₂ : second.Evolves third) : first.Evolves third where
  id := h₂.id.trans h₁.id
  token := h₂.token.trans h₁.token
  total := h₂.total.trans h₁.total
  payOrder := h₂.payOrder.trans h₁.payOrder
  buyOrder := h₂.buyOrder.trans h₁.buyOrder
  created := h₂.created.trans h₁.created
  expires := h₂.expires.trans h₁.expires
  bytes_le := Int.le_trans h₂.bytes_le h₁.bytes_le
  frozen exhausted := by
    have still := h₂.frozen (Int.le_trans h₁.bytes_le exhausted)
    have since := h₁.frozen exhausted
    exact ⟨still.1.trans since.1, still.2.trans since.2⟩

end Ticket.Evolves

namespace Store

/-- Only a ticket with bytes left is charged, so a debit leaves exhausted ones alone. -/
theorem Debited.evolves {token : String} {amount : Int} {now : Instant} {old new : Ticket}
    (h : Debited token amount now old new) : old.Evolves new := by
  cases h with
  | untouched => rfl
  | charged share pays share_pos share_le =>
      refine ⟨rfl, rfl, rfl, rfl, rfl, rfl, rfl, ?_, ?_⟩
      · rw [charged_bytes]
        omega
      · intro exhausted
        have left := (chargeable_iff.mp pays).2.2
        omega

/-- How a store may differ from itself at an earlier time: tickets evolve, and tickets that were not
there have ids that were not given out. -/
structure Advances (store later : Store) : Prop where
  kept : ∀ old ∈ store.tickets, ∃ new ∈ later.tickets, old.Evolves new
  origin : ∀ new ∈ later.tickets,
    (∃ old ∈ store.tickets, old.Evolves new) ∨ (store.nextId : Int) ≤ new.id
  nextId_le : store.nextId ≤ later.nextId

namespace Advances

@[refl] theorem refl (store : Store) : store.Advances store :=
  ⟨fun ticket mem => ⟨ticket, mem, .refl ticket⟩,
    fun ticket mem => Or.inl ⟨ticket, mem, .refl ticket⟩, Nat.le_refl _⟩

theorem trans {first second third : Store} (h₁ : first.Advances second)
    (h₂ : second.Advances third) : first.Advances third := by
  refine ⟨?_, ?_, Nat.le_trans h₁.nextId_le h₂.nextId_le⟩
  · intro old mem
    obtain ⟨middle, mem_middle, early⟩ := h₁.kept old mem
    obtain ⟨new, mem_new, late⟩ := h₂.kept middle mem_middle
    exact ⟨new, mem_new, early.trans late⟩
  · intro new mem
    rcases h₂.origin new mem with ⟨middle, mem_middle, late⟩ | fresh
    · rcases h₁.origin middle mem_middle with ⟨old, mem_old, early⟩ | fresh
      · exact Or.inl ⟨old, mem_old, early.trans late⟩
      · exact Or.inr (by rw [late.id]; exact fresh)
    · have grown : (first.nextId : Int) ≤ second.nextId := Int.ofNat_le.mpr h₁.nextId_le
      exact Or.inr (Int.le_trans grown fresh)

end Advances

theorem Step.advances {operation : LedgerOperation} {outcome : Except LedgerError Unit}
    {store later : Store} (step : Step store operation outcome later) : store.Advances later := by
  cases step with
  | outOfRange => rfl
  | repeated =>
      have same := Advances.refl store
      exact ⟨same.kept, same.origin, Nat.le_succ _⟩
  | added =>
      refine ⟨?_, ?_, Nat.le_succ _⟩
      · intro old mem
        exact ⟨old, List.mem_append_left _ mem, .refl old⟩
      · intro new mem
        rcases List.mem_append.mp mem with old | fresh
        · exact Or.inl ⟨new, old, .refl new⟩
        · rw [List.mem_singleton.mp fresh]
          exact Or.inr (Int.le_refl _)
  | free => rfl
  | refused => rfl
  | settled _ debit =>
      refine ⟨?_, ?_, Nat.le_refl _⟩
      · intro old mem
        obtain ⟨new, mem_new, change⟩ := debit.exists_debited mem
        exact ⟨new, mem_new, change.evolves⟩
      · intro new mem
        obtain ⟨old, mem_old, change⟩ := debit.exists_debited_from mem
        exact Or.inl ⟨old, mem_old, change.evolves⟩

theorem advances_run (store : Store) (operations : List LedgerOperation) :
    store.Advances (store.run operations) :=
  run_induction (P := fun later => store.Advances later)
    (fun operation middle h => h.trans (middle.step operation).advances) (.refl store) operations

/-- A ticket in debt was in debt before a step, or the step is a debit that is larger than the debt
and found bytes on the ticket. -/
theorem Step.debt_origin {operation : LedgerOperation} {outcome : Except LedgerError Unit}
    {store later : Store} (step : Step store operation outcome later) {ticket : Ticket}
    (mem : ticket ∈ later.tickets) (funded : 0 ≤ ticket.total) (overdrawn : ticket.bytes < 0) :
    ticket ∈ store.tickets ∨
      ∃ amount now, operation = .cost ticket.token amount now ∧ outcome = .ok () ∧
        (∃ old ∈ store.tickets, old.id = ticket.id ∧ 0 < old.bytes) ∧ -ticket.bytes < amount := by
  cases step with
  | outOfRange => exact Or.inl mem
  | repeated => exact Or.inl mem
  | added =>
      rcases List.mem_append.mp mem with old | new
      · exact Or.inl old
      · rw [List.mem_singleton.mp new] at funded overdrawn
        exact absurd funded (Int.not_le.mpr overdrawn)
  | free => exact Or.inl mem
  | refused => exact Or.inl mem
  | settled _ debit =>
      obtain ⟨old, mem_old, change⟩ := debit.exists_debited_from mem
      cases change with
      | untouched => exact Or.inl mem_old
      | charged share pays share_pos share_le =>
          obtain ⟨own, -, left⟩ := chargeable_iff.mp pays
          rw [charged_bytes] at overdrawn ⊢
          rw [charged_token, own]
          exact Or.inr ⟨_, _, rfl, rfl, ⟨old, mem_old, rfl, left⟩, by omega⟩

/-- A debit after a run is the one that put a ticket in debt: it went through, found bytes on the
ticket, left it as given, and was larger than the debt. -/
structure IsOverdraft (before : List LedgerOperation) (amount : Int) (now : Instant)
    (ticket : Ticket) : Prop where
  accepted :
    (LedgerOperation.cost ticket.token amount now).outcome (Store.empty.run before) = .ok ()
  found : ∃ old ∈ (Store.empty.run before).tickets, old.id = ticket.id ∧ 0 < old.bytes
  left : ticket ∈ (Store.empty.run (before ++ [.cost ticket.token amount now])).tickets
  debt_lt : -ticket.bytes < amount

/-- A ticket in debt was put there by one debit of the run, and did not change since. -/
theorem exists_overdraft (operations : List LedgerOperation) {ticket : Ticket}
    (mem : ticket ∈ (Store.empty.run operations).tickets) (funded : 0 ≤ ticket.total)
    (overdrawn : ticket.bytes < 0) :
    ∃ before amount now after, operations = before ++ .cost ticket.token amount now :: after ∧
      IsOverdraft before amount now ticket := by
  induction operations using List.reverseRecOn with
  | nil => cases mem
  | append_singleton operations last ih =>
      have mem_last := mem
      rw [run_concat] at mem
      rcases ((Store.empty.run operations).step last).debt_origin mem funded overdrawn with
        earlier | ⟨amount, now, rfl, accepted, found, larger⟩
      · obtain ⟨before, amount, now, after, split, overdraft⟩ := ih earlier
        exact ⟨before, amount, now, after ++ [last], by simp [split], overdraft⟩
      · exact ⟨operations, amount, now, [], rfl, accepted, found, mem_last, larger⟩

/-- The life of all tickets, over every run and every continuation of it. Tickets stay what they
are, balances only fall and never exceed what was paid for, exhausted tickets are frozen, and a debt
of a ticket that was created with no debt is the work of one debit that was larger than it. Ids
ascend in the order of creation and are not given out again, and no two tickets have one pay
order. -/
theorem ticket_life_cycle (operations more : List LedgerOperation) :
    (∀ old ∈ (Store.empty.run operations).tickets,
      ∃ new ∈ (Store.empty.run (operations ++ more)).tickets,
        old.Evolves new ∧ new.bytes ≤ new.total) ∧
    (∀ ticket ∈ (Store.empty.run operations).tickets, 0 ≤ ticket.total → ticket.bytes < 0 →
      ∃ before amount now after, operations = before ++ .cost ticket.token amount now :: after ∧
        IsOverdraft before amount now ticket) ∧
    (Store.empty.run operations).tickets.Pairwise (fun older newer => older.id < newer.id) ∧
    (∀ old ∈ (Store.empty.run operations).tickets,
      ∀ new ∈ (Store.empty.run (operations ++ more)).tickets,
        (∀ ticket ∈ (Store.empty.run operations).tickets, ticket.id ≠ new.id) → old.id < new.id) ∧
    ((Store.empty.run operations).tickets.map (·.payOrder)).Nodup := by
  have registered := registered_run Registered.empty operations
  have registered_later := registered_run Registered.empty (operations ++ more)
  have advances := advances_run (Store.empty.run operations) more
  rw [← run_append] at advances
  refine ⟨?_, ?_, List.pairwise_map.mp registered.ids_ascend, ?_, registered.orders_differ⟩
  · intro old mem
    obtain ⟨new, mem_new, evolves⟩ := advances.kept old mem
    exact ⟨new, mem_new, evolves, registered_later.bytes_le_total new mem_new⟩
  · intro ticket mem funded overdrawn
    exact exists_overdraft operations mem funded overdrawn
  · intro old mem new mem_new fresh
    rcases advances.origin new mem_new with ⟨origin, mem_origin, evolves⟩ | unused
    · exact absurd evolves.id.symm (fresh origin mem_origin)
    · have given := registered.ids_below old.id (List.mem_map_of_mem mem)
      omega

end Store

end Tollgate
