import Tollgate.Ledger.Ledger
import Tollgate.Proofs.Ledger.Expiry
import Tollgate.Proofs.Ledger.Register

/-!
# The authorization gate

Service is granted by a token's newest ticket alone, while a debit walks all of the token's tickets.
The two agree as long as tickets are credited with bytes and the clock does not run backwards.

What carries this is the order in which tickets are used up: as long as a ticket can be charged, the
newer ones of its token have bytes left. A debit keeps the order because it only reaches a ticket
when all older ones are drained, a credit because it comes with bytes, and time because a ticket
that expired stays expired. Expiries ascend besides, so an older ticket that can be charged makes
the newest one chargeable too.
-/

namespace Tollgate

/-- Whether an operation brings no ticket without bytes. -/
def LedgerOperation.IsFunded : LedgerOperation → Prop
  | .create credit _ => 0 < credit.bytes
  | .cost _ _ _ => True

/-- As long as the older one of two tickets of a token can be charged, the newer one has bytes. -/
def Ticket.Precedes (now : Instant) (older newer : Ticket) : Prop :=
  older.token = newer.token → now < older.expires → 0 < older.bytes → 0 < newer.bytes

theorem Ticket.Precedes.mono {now later : Instant} {older newer : Ticket}
    (h : older.Precedes now newer) (passed : now ≤ later) : older.Precedes later newer :=
  fun same running left => h same (Int.lt_of_le_of_lt passed running) left

namespace Store

/-- Tickets are used up in the order of their creation. -/
def Queued (now : Instant) (store : Store) : Prop :=
  store.tickets.Pairwise (Ticket.Precedes now)

variable {now : Instant} {token : String} {amount : Int} {store : Store}

theorem Queued.mono {later : Instant} (h : store.Queued now) (passed : now ≤ later) :
    store.Queued later :=
  h.imp fun precedes => precedes.mono passed

/-- A drained ticket has no bytes left, so nothing is asked of the newer ones. -/
private theorem precedes_drained {older newer newer' : Ticket} (h : older.Precedes now newer)
    (same_token : newer'.token = newer.token)
    (kept : newer.token ≠ token → newer' = newer) :
    (drained token now older).Precedes now newer' := by
  intro same running left
  cases pays : chargeable token now older with
  | true =>
      rw [drained_of_chargeable pays, charged_bytes] at left
      omega
  | false =>
      rw [drained_of_not_chargeable pays] at same running left
      have other_token : newer.token ≠ token := by
        intro own
        have chargeable_older : chargeable token now older = true :=
          chargeable_iff.mpr ⟨same.trans (same_token.trans own), running, left⟩
        rw [pays] at chargeable_older
        cases chargeable_older
      rw [kept other_token]
      exact h (same.trans same_token) running left

theorem precedes_of_settles {tickets paid : List Ticket}
    (h : tickets.Pairwise (Ticket.Precedes now)) (debit : Settles token amount now tickets paid) :
    paid.Pairwise (Ticket.Precedes now) := by
  obtain ⟨front, settling, behind, share, pays, share_pos, owed, ends⟩ := debit
  obtain ⟨own, -, -⟩ := chargeable_iff.mp pays
  rw [List.pairwise_append, List.pairwise_cons] at h
  obtain ⟨in_front, ⟨after_settling, in_behind⟩, across⟩ := h
  rw [List.pairwise_append, List.pairwise_cons, List.pairwise_map]
  refine ⟨in_front.imp ?_, ⟨?_, in_behind⟩, ?_⟩
  · intro older newer precedes
    exact precedes_drained precedes (drained_token newer)
      fun foreign => drained_of_not_chargeable (not_chargeable_of_token_ne foreign)
  · intro newer mem same running left
    rw [charged_bytes] at left
    exact after_settling newer mem same running (by omega)
  · intro older mem newer mem_newer
    obtain ⟨gave, mem_gave, rfl⟩ := List.mem_map.mp mem
    rcases List.mem_cons.mp mem_newer with rfl | mem_behind
    · exact precedes_drained (across gave mem_gave settling List.mem_cons_self) rfl
        fun foreign => absurd own foreign
    · exact precedes_drained (across gave mem_gave newer (List.mem_cons_of_mem _ mem_behind)) rfl
        fun _ => rfl

/-- A credit comes with bytes, a debit keeps the order, and no other step changes a ticket. -/
theorem Step.queued {operation : LedgerOperation} {outcome : Except LedgerError Unit}
    {later : Store} (step : Step store operation outcome later) (funded : operation.IsFunded)
    (h : store.Queued operation.time) : later.Queued operation.time := by
  cases step with
  | outOfRange => exact h
  | repeated => exact h
  | added =>
      refine List.pairwise_append.mpr ⟨h, List.pairwise_singleton _ _, ?_⟩
      intro older _ newer mem _ _ _
      rw [List.mem_singleton.mp mem]
      exact funded
  | free => exact h
  | refused => exact h
  | settled _ debit => exact precedes_of_settles h debit

/-- The order is kept along a run whose clock does not run backwards, and by the time after it. -/
theorem queued_run {operations : List LedgerOperation}
    (funded : ∀ operation ∈ operations, operation.IsFunded)
    (clock : (operations.map (·.time)).Pairwise (· ≤ ·))
    (passed : ∀ operation ∈ operations, operation.time ≤ now) :
    (Store.empty.run operations).Queued now := by
  induction operations using List.reverseRecOn generalizing now with
  | nil => exact List.Pairwise.nil
  | append_singleton operations last ih =>
      rw [List.map_append, List.pairwise_append] at clock
      obtain ⟨earlier_clock, -, before_last⟩ := clock
      have before : (Store.empty.run operations).Queued last.time := by
        refine ih (fun operation mem => funded operation (List.mem_append_left _ mem))
          earlier_clock ?_
        intro operation mem
        exact before_last _ (List.mem_map_of_mem mem) _ (List.mem_singleton.mpr rfl)
      have last_mem : last ∈ operations ++ [last] := List.mem_append_right _ List.mem_cons_self
      rw [run_concat]
      exact (((Store.empty.run operations).step last).queued (funded last last_mem) before).mono
        (passed last last_mem)

/-- Behind a ticket that can be charged, all tickets of its token can be charged: they have bytes
because tickets are used up in order, and they expire later. -/
theorem Queued.newer_chargeable (h : store.Queued now) (chained : store.ExpiriesChained)
    (token : String) :
    store.tickets.Pairwise fun older newer =>
      chargeable token now older = true → newer.token = token →
        chargeable token now newer = true := by
  have expiries := List.pairwise_filter.mp (chained.ascend token)
  refine (h.and expiries).imp ?_
  rintro older newer ⟨precedes, expires_lt⟩ pays newer_own
  obtain ⟨own, running, left⟩ := chargeable_iff.mp pays
  have expires_later : older.expires < newer.expires :=
    expires_lt (by simpa using own) (by simpa using newer_own)
  exact chargeable_iff.mpr ⟨newer_own, Int.lt_trans running expires_later,
    precedes (own.trans newer_own.symm) running left⟩

/-- If any ticket of a token can be charged, its newest one can. -/
theorem Queued.exists_newest (h : store.Queued now) (chained : store.ExpiriesChained)
    {ticket : Ticket} (mem : ticket ∈ store.tickets) (pays : chargeable token now ticket = true) :
    ∃ newest, store.newest? token = some newest ∧ chargeable token now newest = true := by
  have own := (chargeable_iff.mp pays).1
  have among : ticket ∈ store.ticketsOf token := mem_ticketsOf.mpr ⟨mem, own⟩
  cases last : store.newest? token with
  | none =>
      rw [List.getLast?_eq_none_iff.mp last] at among
      cases among
  | some newest =>
      refine ⟨newest, rfl, ?_⟩
      obtain ⟨older, split⟩ := newest?_eq_some_iff_append.mp last
      have newest_own : newest.token = token := by
        have listed : newest ∈ store.ticketsOf token := by simp [split]
        exact (mem_ticketsOf.mp listed).2
      have newer_chargeable := (h.newer_chargeable chained token).filter (·.token = token)
      rw [← ticketsOf, split] at newer_chargeable
      rw [split] at among
      rcases List.mem_append.mp among with mem_older | here
      · exact (List.pairwise_append.mp newer_chargeable).2.2 ticket mem_older newest
          List.mem_cons_self pays newest_own
      · rwa [← List.mem_singleton.mp here]

/-- A debit that overdraws a ticket stops there because nothing behind it can be charged, and then
nothing behind it belongs to the token. -/
theorem Queued.newest_of_overdraft (h : store.Queued now) (chained : store.ExpiriesChained)
    (registered : store.Registered) {paid : List Ticket}
    (debit : Settles token amount now store.tickets paid) {old new : Ticket}
    (mem_old : old ∈ store.tickets) (mem_new : new ∈ paid) (same_id : new.id = old.id)
    (left : 0 < old.bytes) (overdrawn : new.bytes < 0) :
    IsNewest token new { store with tickets := paid } := by
  have changed : new ∉ store.tickets := by
    intro mem
    rw [registered.eq_of_id mem mem_old same_id] at overdrawn
    omega
  have ids := List.pairwise_map.mp (registered.debit debit).ids_ascend
  have newer_chargeable := h.newer_chargeable chained token
  obtain ⟨front, settling, behind, share, before, rfl, rfl, pays, nobody⟩ :=
    debit.overdrawn_settles mem_new changed overdrawn
  rw [before, List.pairwise_append, List.pairwise_cons] at newer_chargeable
  refine ⟨mem_new, (chargeable_iff.mp pays).1, ?_⟩
  intro other mem own
  rcases List.mem_append.mp mem with in_front | in_rest
  · exact Int.le_of_lt ((List.pairwise_append.mp ids).2.2 other in_front _ List.mem_cons_self)
  · rcases List.mem_cons.mp in_rest with rfl | in_behind
    · exact Int.le_refl _
    · have other_pays := newer_chargeable.2.1.1 other in_behind pays own
      rw [nobody other in_behind] at other_pays
      cases other_pays

end Store

/-- A token is active if its newest ticket has bytes left; the clock does not matter. -/
theorem Ledger.isActive_store (token : String) (now : Instant) (store : Store) :
    (Ledger.store store).isActive token now =
      .ok ((store.newest? token).any fun ticket => 0 < ticket.bytes) := by
  have one_fits : Text.fitsInt64 ((1 : Nat) : Int) = true := rfl
  have newest : ((store.list token 1).head?) = store.newest? token := by
    simp only [Store.list, one_fits, if_true, List.head?_take, Store.newest?]
    simp
  simp only [Ledger.isActive, Ledger.list, Except.map, newest]

/-- The ledger after an operation, which is the same ledger if it was refused. -/
def LedgerOperation.on (operation : LedgerOperation) (ledger : Ledger) : Ledger :=
  let result :=
    match operation with
    | .create credit now => ledger.create credit now
    | .cost token amount now => ledger.cost token amount now
  match result with
  | .ok later => later
  | .error _ => ledger

@[simp] theorem LedgerOperation.on_store (operation : LedgerOperation) (store : Store) :
    operation.on (.store store) = .store (operation.after store) := by
  cases operation with
  | create credit now =>
      simp only [on, after, apply, Ledger.create]
      cases store.create credit now <;> rfl
  | cost token amount now =>
      simp only [on, after, apply, Ledger.cost]
      cases store.cost token amount now <;> rfl

namespace Store

theorem Step.inactive_of_overdraft {outcome : Except LedgerError Unit} {later : Store}
    (step : Step store (.cost token amount now) outcome later) (h : store.Queued now)
    (chained : store.ExpiriesChained) (registered : store.Registered) {old new : Ticket}
    (mem_old : old ∈ store.tickets) (mem_new : new ∈ later.tickets) (same_id : new.id = old.id)
    (left : 0 < old.bytes) (overdrawn : new.bytes < 0) :
    later.IsNewest token new ∧ (Ledger.store later).isActive token now = .ok false := by
  have registered_later := step.registered registered
  have newest : later.IsNewest token new := by
    cases step with
    | free =>
        rw [registered.eq_of_id mem_new mem_old same_id] at overdrawn
        omega
    | refused =>
        rw [registered.eq_of_id mem_new mem_old same_id] at overdrawn
        omega
    | settled _ debit =>
        exact h.newest_of_overdraft chained registered debit mem_old mem_new same_id left overdrawn
  refine ⟨newest, ?_⟩
  have spent : ¬ 0 < new.bytes := by omega
  rw [Ledger.isActive_store, registered_later.newest?_eq_some_iff.mpr newest]
  simp [spent]

/-- The gate and the debits agree after every run whose credits bring bytes and whose clock does not
run backwards. A debit goes through exactly if the newest ticket of the token has bytes and has not
expired. A debit that overdraws a ticket overdraws the newest one, so the token is inactive right
after it. While a token is inactive none of its tickets can be charged. -/
theorem gate_agrees_with_debits {operations : List LedgerOperation}
    (funded : ∀ operation ∈ operations, operation.IsFunded)
    (clock : (operations.map (·.time)).Pairwise (· ≤ ·)) (token : String) {now : Instant}
    (passed : ∀ operation ∈ operations, operation.time ≤ now) :
    (∀ amount, 0 < amount →
      ((LedgerOperation.cost token amount now).outcome (Store.empty.run operations) = .ok () ↔
        ∃ ticket, (Store.empty.run operations).IsNewest token ticket ∧
          0 < ticket.bytes ∧ now < ticket.expires)) ∧
    (∀ amount, ∀ old ∈ (Store.empty.run operations).tickets,
      ∀ new ∈ (Store.empty.run (operations ++ [.cost token amount now])).tickets,
        new.id = old.id → 0 < old.bytes → new.bytes < 0 →
          (Store.empty.run (operations ++ [.cost token amount now])).IsNewest token new ∧
          (Ledger.store (Store.empty.run (operations ++ [.cost token amount now]))).isActive
            token now = .ok false) ∧
    ((Ledger.store (Store.empty.run operations)).isActive token now = .ok false →
      ∀ ticket ∈ (Store.empty.run operations).tickets, chargeable token now ticket = false) := by
  have queued := queued_run funded clock passed
  have chained := expiriesChained_run expiriesChained_empty operations
  have registered := registered_run Registered.empty operations
  refine ⟨?_, ?_, ?_⟩
  · intro amount positive
    rw [cost_outcome_eq_ok_iff positive]
    constructor
    · rintro ⟨ticket, mem, pays⟩
      obtain ⟨newest, last, pays_newest⟩ := queued.exists_newest chained mem pays
      obtain ⟨-, running, left⟩ := chargeable_iff.mp pays_newest
      exact ⟨newest, registered.isNewest_of_newest? last, left, running⟩
    · rintro ⟨ticket, newest, left, running⟩
      exact ⟨ticket, newest.mem, chargeable_iff.mpr ⟨newest.token_eq, running, left⟩⟩
  · intro amount old mem_old new mem_new same_id left overdrawn
    rw [run_concat] at mem_new ⊢
    exact ((Store.empty.run operations).step (.cost token amount now)).inactive_of_overdraft queued
      chained registered mem_old mem_new same_id left overdrawn
  · intro inactive ticket mem
    by_contra pays
    rw [Bool.not_eq_false] at pays
    obtain ⟨newest, last, pays_newest⟩ := queued.exists_newest chained mem pays
    obtain ⟨-, -, left⟩ := chargeable_iff.mp pays_newest
    rw [Ledger.isActive_store, last] at inactive
    simp [left] at inactive

def twoCredits : List LedgerOperation :=
  [.create ⟨"a", 5, "first", ""⟩ 0, .create ⟨"a", 7, "second", ""⟩ 1]

/-- A debit that two credits do not cover goes through. It overdraws the second one, which is the
newest, and ends service. -/
theorem inactive_after_overdrawing_two_credits :
    (∀ operation ∈ twoCredits, operation.IsFunded) ∧
    (twoCredits.map (·.time)).Pairwise (· ≤ ·) ∧
    (∀ operation ∈ twoCredits, operation.time ≤ 2) ∧
    (LedgerOperation.cost "a" 20 2).outcome (Store.empty.run twoCredits) = .ok () ∧
    (Store.empty.run (twoCredits ++ [.cost "a" 20 2])).IsNewest "a"
      ⟨2, "a", -8, 7, "second", "", 1, 2, 5184000000⟩ ∧
    (Ledger.store (Store.empty.run (twoCredits ++ [.cost "a" 20 2]))).isActive "a" 2 =
      .ok false := by
  have funded : ∀ operation ∈ twoCredits, operation.IsFunded := by
    simp [twoCredits, LedgerOperation.IsFunded]
  have clock : (twoCredits.map (·.time)).Pairwise (· ≤ ·) := by decide
  have passed : ∀ operation ∈ twoCredits, operation.time ≤ 2 := by decide
  obtain ⟨goes_through_iff, overdrafts, -⟩ := gate_agrees_with_debits funded clock "a" passed
  let credited : Ticket := ⟨2, "a", 7, 7, "second", "", 1, 1, 5184000000⟩
  let overdrawn : Ticket := ⟨2, "a", -8, 7, "second", "", 1, 2, 5184000000⟩
  have credited_newest : (Store.empty.run twoCredits).IsNewest "a" credited :=
    (registered_run Registered.empty twoCredits).isNewest_of_newest? (by decide)
  obtain ⟨newest, inactive⟩ := overdrafts 20 credited (by decide) overdrawn (by decide) rfl
    (by decide) (by decide)
  refine ⟨funded, clock, passed, ?_, newest, inactive⟩
  exact (goes_through_iff 20 (by decide)).mpr ⟨credited, credited_newest, by decide, by decide⟩

end Store

end Tollgate
