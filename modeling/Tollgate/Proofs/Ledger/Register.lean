import Tollgate.Proofs.Ledger.Run
import Mathlib.Data.List.Nodup

/-!
# The register of tickets

Every store that a run reaches numbers its tickets in the order of their creation, keeps one ticket
for each pay order, and lets no ticket hold more than was paid for. `Registered` is this invariant;
it needs no assumption on clocks or amounts.

Because ids ascend, the last ticket of a token in the store is the one with its highest id. So the
look-up of the newest ticket by position agrees with `IsNewest`, which speaks of ids alone.
-/

namespace Tollgate.Store

/-- The invariant of all stores that a run reaches. -/
structure Registered (store : Store) : Prop where
  ids_ascend : (store.tickets.map (·.id)).Pairwise (· < ·)
  ids_below : ∀ id ∈ store.tickets.map (·.id), id < (store.nextId : Int)
  orders_differ : (store.tickets.map (·.payOrder)).Nodup
  bytes_le_total : ∀ ticket ∈ store.tickets, ticket.bytes ≤ ticket.total

namespace Registered

theorem empty : Registered Store.empty :=
  ⟨List.Pairwise.nil, by simp [Store.empty], List.nodup_nil, by simp [Store.empty]⟩

/-- A pay order that is known still uses up an id. -/
theorem skip_id {store : Store} (h : Registered store) :
    Registered { store with nextId := store.nextId + 1 } := by
  refine ⟨h.ids_ascend, ?_, h.orders_differ, h.bytes_le_total⟩
  intro id mem
  have below := h.ids_below id mem
  push_cast
  omega

theorem add {store : Store} (h : Registered store) {credit : Credit} {now expires : Instant}
    (unknown : ¬ store.Knows credit.payOrder) :
    Registered ⟨store.tickets ++ [credit.ticket store.nextId now expires], store.nextId + 1⟩ := by
  refine ⟨?_, ?_, ?_, ?_⟩
  · rw [List.map_append, List.pairwise_append]
    refine ⟨h.ids_ascend, List.pairwise_singleton _ _, ?_⟩
    intro id mem newId new
    rw [List.mem_singleton.mp new]
    exact h.ids_below id mem
  · intro id mem
    rw [List.map_append, List.mem_append] at mem
    push_cast
    rcases mem with old | new
    · have below := h.ids_below id old
      omega
    · rw [List.mem_singleton.mp new]
      exact Int.lt_succ _
  · rw [List.map_append, List.nodup_append]
    refine ⟨h.orders_differ, List.nodup_singleton _, ?_⟩
    rintro order old _ new rfl
    obtain ⟨ticket, mem, same⟩ := List.mem_map.mp old
    exact unknown ⟨ticket, mem, same.trans (List.mem_singleton.mp new)⟩
  · intro ticket mem
    rcases List.mem_append.mp mem with old | new
    · exact h.bytes_le_total ticket old
    · rw [List.mem_singleton.mp new]
      exact Int.le_refl _

theorem debit {store : Store} (h : Registered store) {token : String} {amount : Int}
    {now : Instant} {paid : List Ticket} (debit : Settles token amount now store.tickets paid) :
    Registered { store with tickets := paid } := by
  have same_ids := debit.map_eq (·.id) (fun _ _ => rfl)
  have same_orders := debit.map_eq (·.payOrder) (fun _ _ => rfl)
  refine ⟨?_, ?_, ?_, ?_⟩
  · simpa only [same_ids] using h.ids_ascend
  · simpa only [same_ids] using h.ids_below
  · simpa only [same_orders] using h.orders_differ
  · intro ticket mem
    obtain ⟨old, before, change⟩ := debit.exists_debited_from mem
    have bound := h.bytes_le_total old before
    cases change with
    | untouched => exact bound
    | charged share pays share_pos share_le =>
        change old.bytes - share ≤ old.total
        omega

end Registered

theorem Step.registered {operation : LedgerOperation} {outcome : Except LedgerError Unit}
    {store later : Store} (step : Step store operation outcome later) (h : Registered store) :
    Registered later := by
  cases step with
  | outOfRange => exact h
  | repeated => exact h.skip_id
  | added _ unknown => exact h.add unknown
  | free => exact h
  | refused => exact h
  | settled _ debit => exact h.debit debit

theorem registered_run {store : Store} (h : Registered store)
    (operations : List LedgerOperation) : Registered (store.run operations) :=
  run_induction (fun operation store kept => (store.step operation).registered kept) h operations

/-! ## Newest tickets -/

/-- A ticket is the newest of a token if no ticket of the token has a higher id. -/
structure IsNewest (token : String) (ticket : Ticket) (store : Store) : Prop where
  mem : ticket ∈ store.tickets
  token_eq : ticket.token = token
  id_le : ∀ other ∈ store.tickets, other.token = token → other.id ≤ ticket.id

/-- The newest ticket stands behind all others of its token. -/
theorem newest?_eq_some_iff_append {token : String} {ticket : Ticket} {store : Store} :
    store.newest? token = some ticket ↔
      ∃ older, store.ticketsOf token = older ++ [ticket] :=
  List.getLast?_eq_some_iff

theorem mem_ticketsOf {token : String} {ticket : Ticket} {store : Store} :
    ticket ∈ store.ticketsOf token ↔ ticket ∈ store.tickets ∧ ticket.token = token := by
  simp [ticketsOf]

/-- An id belongs to one ticket. -/
theorem eq_of_id {tickets : List Ticket} (ids_ascend : (tickets.map (·.id)).Pairwise (· < ·))
    {first second : Ticket} (mem_first : first ∈ tickets) (mem_second : second ∈ tickets)
    (same : first.id = second.id) : first = second := by
  have distinct : (tickets.map (·.id)).Nodup := ids_ascend.imp fun ascends => ne_of_lt ascends
  exact List.inj_on_of_nodup_map distinct mem_first mem_second same

theorem Registered.eq_of_id {store : Store} (h : Registered store) {first second : Ticket}
    (mem_first : first ∈ store.tickets) (mem_second : second ∈ store.tickets)
    (same : first.id = second.id) : first = second :=
  Store.eq_of_id h.ids_ascend mem_first mem_second same

/-- The last ticket of a token has its highest id. -/
theorem Registered.isNewest_of_newest? {store : Store} (h : Registered store) {token : String}
    {ticket : Ticket} (last : store.newest? token = some ticket) : store.IsNewest token ticket := by
  obtain ⟨older, split⟩ := newest?_eq_some_iff_append.mp last
  have own : ticket ∈ store.tickets ∧ ticket.token = token := by
    rw [← mem_ticketsOf, split]
    simp
  refine ⟨own.1, own.2, ?_⟩
  intro other mem same
  have ascend : (older ++ [ticket]).Pairwise fun first second => first.id < second.id := by
    rw [← split]
    exact (List.pairwise_map.mp h.ids_ascend).filter _
  have among : other ∈ older ++ [ticket] := by
    rw [← split]
    exact mem_ticketsOf.mpr ⟨mem, same⟩
  rcases List.mem_append.mp among with before | here
  · exact Int.le_of_lt ((List.pairwise_append.mp ascend).2.2 other before ticket (by simp))
  · rw [List.mem_singleton.mp here]

/-- Position and id agree on which ticket is the newest. -/
theorem Registered.newest?_eq_some_iff {store : Store} (h : Registered store) {token : String}
    {ticket : Ticket} : store.newest? token = some ticket ↔ store.IsNewest token ticket := by
  constructor
  · exact h.isNewest_of_newest?
  · intro newest
    cases last : store.newest? token with
    | none =>
        have nobody : store.ticketsOf token = [] := List.getLast?_eq_none_iff.mp last
        have own := mem_ticketsOf.mpr ⟨newest.mem, newest.token_eq⟩
        rw [nobody] at own
        cases own
    | some other =>
        have highest := h.isNewest_of_newest? last
        have up := newest.id_le other highest.mem highest.token_eq
        have down := highest.id_le ticket newest.mem newest.token_eq
        rw [h.eq_of_id highest.mem newest.mem (Int.le_antisymm up down)]

end Tollgate.Store
