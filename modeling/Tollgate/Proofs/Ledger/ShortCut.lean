import Tollgate.Proofs.Ledger.Distribution
import Tollgate.Proofs.Ledger.Register

/-!
# The short cut of a debit

Where tickets are the rows of a table, a debit first tries one guarded update: of the payers, the
one with the lowest id is charged if it covers the amount. Only if this updates no row are the
balances of all payers loaded, walked over and written back. The two find a ticket by different
means, one by the lowest id and the other as the first row of a list, and they write by different
means. Still it makes no difference to leave the update out. Where it finds a row, the walk stops at
its first balance, and writes to the same row what the update writes.
-/

namespace Tollgate.Store

variable {token : String} {amount : Int64} {now : Instant} {tickets payers later : List Ticket}
  {ticket first : Ticket} {store : Store}

/-- The lowest id among those of the tickets that can pay. -/
def lowestPayer? (token : String) (now : Instant) (tickets : List Ticket) : Option Int :=
  ((tickets.filter (chargeable token now)).map (·.id)).min?

/-- Whether the guarded update is about a ticket. -/
def updates (token : String) (amount : Int64) (now : Instant) (tickets : List Ticket)
    (ticket : Ticket) : Bool :=
  lowestPayer? token now tickets = some ticket.id && amount.toInt ≤ ticket.bytes

/-- The debit that always loads the balances of the payers, as 64-bit words, and walks over them. -/
def costThroughRows (token : String) (amount : Int64) (now : Instant) (store : Store) :
    Except LedgerError Store :=
  let payers := store.tickets.filter (chargeable token now)
  let walk := BalanceWalk.settle amount (payers.map fun payer => Int64.ofInt payer.bytes)
  if amount ≤ 0 then .ok store
  else if payers = [] then .error .noEntitlement
  else .ok { store with tickets := writeBack now payers (walk.map Int64.toInt) store.tickets }

/-- The debit that tries the guarded update first. -/
def costWithUpdate (token : String) (amount : Int64) (now : Instant) (store : Store) :
    Except LedgerError Store :=
  let found := updates token amount now store.tickets
  if amount ≤ 0 then .ok store
  else if store.tickets.countP found = 1 then
    .ok { store with
      tickets := store.tickets.map fun ticket =>
        if found ticket then charged amount.toInt now ticket else ticket }
  else store.costThroughRows token amount now

theorem not_pos_iff_toInt {amount : Int64} : amount ≤ 0 ↔ amount.toInt ≤ 0 := by
  rw [Int64.le_iff_toInt_le, Int64.toInt_zero]

/-! ## The walk over rows -/

/-- Balances that fit a word are read as they are. -/
theorem map_toInt_words (fit : ∀ payer ∈ payers, Text.fitsInt64 payer.bytes = true) :
    (payers.map fun payer => Int64.ofInt payer.bytes).map Int64.toInt = payers.map (·.bytes) := by
  rw [List.map_map]
  refine List.map_congr_left fun payer mem => ?_
  obtain ⟨low, high⟩ := Text.fitsInt64_iff.mp (fit payer mem)
  rw [Text.minInt64] at low
  rw [Text.maxInt64] at high
  exact Int64.toInt_ofInt_of_le (by omega) (by omega)

/-- The walk over the payers' words is the walk over their balances. -/
theorem settle_payers (fit : ∀ ticket ∈ tickets, Text.fitsInt64 ticket.bytes = true)
    (positive : 0 < amount.toInt) :
    (BalanceWalk.settle amount ((tickets.filter (chargeable token now)).map
        fun payer => Int64.ofInt payer.bytes)).map Int64.toInt =
      .settle amount.toInt ((tickets.filter (chargeable token now)).map (·.bytes)) := by
  have payers_fit : ∀ payer ∈ tickets.filter (chargeable token now),
      Text.fitsInt64 payer.bytes = true := fun payer mem => fit payer (List.mem_of_mem_filter mem)
  have read := map_toInt_words payers_fit
  rw [← read]
  refine BalanceWalk.settle_words (Int.le_of_lt positive) fun balance mem => ?_
  have listed := List.mem_map_of_mem (f := Int64.toInt) mem
  rw [read] at listed
  obtain ⟨payer, isPayer, same⟩ := List.mem_map.mp listed
  rw [← same]
  exact Int.le_of_lt (bytes_pos_of_mem_filter isPayer)

/-- The rows come to what the tickets come to. -/
theorem costThroughRows_eq (ids_ascend : (store.tickets.map (·.id)).Pairwise (· < ·))
    (fit : ∀ ticket ∈ store.tickets, Text.fitsInt64 ticket.bytes = true) :
    store.costThroughRows token amount now = store.costThroughAll token amount.toInt now := by
  rw [costThroughRows, costThroughAll]
  by_cases free : amount ≤ 0
  · rw [if_pos free, if_pos (not_pos_iff_toInt.mp free)]
  · have positive : 0 < amount.toInt := Int.not_le.mp (mt not_pos_iff_toInt.mpr free)
    rw [if_neg free, if_neg (Int.not_le.mpr positive), settle_payers fit positive,
      ← debitAll_eq_writeBack ids_ascend]
    by_cases nobody : store.tickets.filter (chargeable token now) = []
    · have nobody_pays : ¬ store.tickets.any (chargeable token now) = true := by
        simpa using nobody
      rw [if_pos nobody, if_neg nobody_pays]
    · have somebody_pays : store.tickets.any (chargeable token now) = true := by
        simpa using nobody
      rw [if_neg nobody, if_pos somebody_pays]

/-! ## The guarded update -/

theorem first_payer_mem (payers_eq : tickets.filter (chargeable token now) = first :: later) :
    first ∈ tickets := by
  apply List.mem_of_mem_filter (p := chargeable token now)
  rw [payers_eq]
  exact List.mem_cons_self

/-- Of payers in order, the first one has the lowest id. -/
theorem lowestPayer?_eq (ids_ascend : (tickets.map (·.id)).Pairwise (· < ·))
    (payers_eq : tickets.filter (chargeable token now) = first :: later) :
    lowestPayer? token now tickets = some first.id := by
  have ascend := (List.pairwise_map.mp ids_ascend).filter (chargeable token now)
  rw [payers_eq, List.pairwise_cons] at ascend
  rw [lowestPayer?, payers_eq, List.min?_eq_some_iff]
  refine ⟨List.mem_map_of_mem List.mem_cons_self, fun id mem => ?_⟩
  obtain ⟨payer, isPayer, rfl⟩ := List.mem_map.mp mem
  rcases List.mem_cons.mp isPayer with rfl | isLater
  · exact Int.le_refl _
  · exact Int.le_of_lt (ascend.1 payer isLater)

theorem lowestPayer?_eq_none (nobody : tickets.filter (chargeable token now) = []) :
    lowestPayer? token now tickets = none := by
  rw [lowestPayer?, nobody, List.map_nil, List.min?_nil]

/-- The guarded update is about the first payer alone, and only if that covers the amount. -/
theorem updates_iff (ids_ascend : (tickets.map (·.id)).Pairwise (· < ·))
    (payers_eq : tickets.filter (chargeable token now) = first :: later) (mem : ticket ∈ tickets) :
    updates token amount now tickets ticket = true ↔
      ticket = first ∧ amount.toInt ≤ first.bytes := by
  rw [updates, lowestPayer?_eq ids_ascend payers_eq, Bool.and_eq_true, decide_eq_true_eq,
    decide_eq_true_eq, Option.some_inj]
  constructor
  · rintro ⟨same, covered⟩
    obtain rfl := eq_of_id ids_ascend (first_payer_mem payers_eq) mem same
    exact ⟨rfl, covered⟩
  · rintro ⟨rfl, covered⟩
    exact ⟨rfl, covered⟩

/-- Without a payer that covers the amount, no row is updated. -/
theorem not_updates (ids_ascend : (tickets.map (·.id)).Pairwise (· < ·))
    (short : ∀ first later, tickets.filter (chargeable token now) = first :: later →
      first.bytes < amount.toInt) (mem : ticket ∈ tickets) :
    ¬ updates token amount now tickets ticket = true := by
  cases payers_eq : tickets.filter (chargeable token now) with
  | nil => simp [updates, lowestPayer?_eq_none payers_eq]
  | cons first later =>
      rw [updates_iff ids_ascend payers_eq mem]
      exact fun found => Int.not_le.mpr (short first later payers_eq) found.2

theorem countP_updates (ids_ascend : (tickets.map (·.id)).Pairwise (· < ·))
    (payers_eq : tickets.filter (chargeable token now) = first :: later)
    (covered : amount.toInt ≤ first.bytes) :
    tickets.countP (updates token amount now tickets) = 1 := by
  have nodup := nodup_of_ids_ascend (List.pairwise_map.mp ids_ascend)
  rw [← List.count_eq_one_of_mem nodup (first_payer_mem payers_eq), List.count]
  refine List.countP_congr fun ticket mem => ?_
  rw [updates_iff ids_ascend payers_eq mem, beq_iff_eq, and_iff_left covered]

/-- What is written by the update is what is written behind a walk that stops at once. -/
theorem map_updates_eq_writeBack (ids_ascend : (tickets.map (·.id)).Pairwise (· < ·))
    (payers_eq : tickets.filter (chargeable token now) = first :: later)
    (covered : amount.toInt ≤ first.bytes) :
    (tickets.map fun ticket =>
        if updates token amount now tickets ticket then charged amount.toInt now ticket
        else ticket) =
      writeBack now (first :: later) (.settle amount.toInt ((first :: later).map (·.bytes)))
        tickets := by
  rw [List.map_cons, BalanceWalk.settle_of_le covered]
  change _ = setBalance now tickets (first.id, first.bytes - amount.toInt)
  refine List.map_congr_left fun ticket mem => ?_
  have found : updates token amount now tickets ticket = true ↔ _ :=
    updates_iff ids_ascend payers_eq mem
  by_cases same : ticket.id = first.id
  · obtain rfl := eq_of_id ids_ascend mem (first_payer_mem payers_eq) same
    rw [if_pos (found.mpr ⟨rfl, covered⟩), if_pos rfl, charged]
  · have kept : ¬ updates token amount now tickets ticket = true :=
      fun updated => same (congrArg _ (found.mp updated).1)
    rw [if_neg kept, if_neg same]

/-- The guarded update does not show in the rows. -/
theorem costWithUpdate_eq (ids_ascend : (store.tickets.map (·.id)).Pairwise (· < ·))
    (fit : ∀ ticket ∈ store.tickets, Text.fitsInt64 ticket.bytes = true) :
    store.costWithUpdate token amount now = store.costThroughRows token amount now := by
  rw [costWithUpdate]
  by_cases free : amount ≤ 0
  · rw [if_pos free, costThroughRows, if_pos free]
  rw [if_neg free]
  by_cases covered : ∃ first later,
      store.tickets.filter (chargeable token now) = first :: later ∧ amount.toInt ≤ first.bytes
  · obtain ⟨first, later, payers_eq, covered⟩ := covered
    have positive : 0 < amount.toInt := Int.not_le.mp (mt not_pos_iff_toInt.mpr free)
    have somebody : store.tickets.filter (chargeable token now) ≠ [] := by
      rw [payers_eq]
      exact List.cons_ne_nil first later
    rw [if_pos (countP_updates ids_ascend payers_eq covered), costThroughRows,
      if_neg free, if_neg somebody, settle_payers fit positive, payers_eq,
      map_updates_eq_writeBack ids_ascend payers_eq covered]
  · have nothing : store.tickets.countP (updates token amount now store.tickets) = 0 := by
      rw [List.countP_eq_zero]
      intro ticket mem
      refine not_updates ids_ascend (fun first later payers_eq => ?_) mem
      exact Int.not_le.mp fun enough => covered ⟨first, later, payers_eq, enough⟩
    rw [nothing, if_neg (by decide)]

/-- A debit with its short cut and one without it come to the same, in every store, for every token,
amount and time. This holds of the debits that run, and it holds of tickets in a table: with ids in
order and balances of 64 bits, the guarded update followed by the walk over words, the walk alone,
and the debits that run have one result and leave one store. -/
theorem short_cut_invisible (token : String) (now : Instant) (store : Store) :
    (∀ amount, store.cost token amount now = store.costThroughAll token amount now) ∧
      ((store.tickets.map (·.id)).Pairwise (· < ·) →
        (∀ ticket ∈ store.tickets, Text.fitsInt64 ticket.bytes = true) →
        ∀ amount : Int64,
          store.costWithUpdate token amount now = store.costThroughRows token amount now ∧
            store.costThroughRows token amount now = store.cost token amount.toInt now) := by
  refine ⟨fun amount => cost_eq_costThroughAll token amount now store, ?_⟩
  intro ids_ascend fit amount
  refine ⟨costWithUpdate_eq ids_ascend fit, ?_⟩
  rw [costThroughRows_eq ids_ascend fit, cost_eq_costThroughAll]

/-- The exact balance of the first payer is taken by the update, and one byte more by the walk. -/
theorem short_cut_at_its_limit :
    storeOfFour.costThroughRows "tok" 5 50 =
        .ok { storeOfFour with
          tickets := [⟨1, "tok", 0, 9, "first", "", 0, 50, 100⟩,
            ⟨2, "other", 8, 8, "second", "", 0, 0, 100⟩, ⟨3, "tok", 7, 7, "third", "", 0, 0, 10⟩,
            ⟨6, "tok", 3, 3, "fourth", "", 20, 20, 100⟩] } ∧
      storeOfFour.costWithUpdate "tok" 6 50 =
        .ok { storeOfFour with
          tickets := [⟨1, "tok", 0, 9, "first", "", 0, 50, 100⟩,
            ⟨2, "other", 8, 8, "second", "", 0, 0, 100⟩, ⟨3, "tok", 7, 7, "third", "", 0, 0, 10⟩,
            ⟨6, "tok", 2, 3, "fourth", "", 20, 50, 100⟩] } := by
  have alike := (short_cut_invisible "tok" 50 storeOfFour).2 (by decide) (by decide)
  refine ⟨(alike 5).2.trans (by decide), ?_⟩
  exact (alike 6).1.trans ((alike 6).2.trans (by decide))

end Tollgate.Store
