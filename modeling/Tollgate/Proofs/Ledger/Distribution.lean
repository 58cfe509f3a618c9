import Tollgate.Proofs.Ledger.BalanceWalk

/-!
# How a debit is distributed

What a debit leaves on a ticket can be said without the walk: it depends on the amount, on what the
older payers hold together, and on whether there is a newer one. The formula is read off the form
of a debit. In front of the ticket that settles the amount is not reached yet, there it is, and
behind it nothing is left to pay.
-/

namespace Tollgate.Store

variable {token : String} {amount : Int} {now : Instant} {tickets payers paid : List Ticket}

/-- The bytes on some tickets together. -/
def held (tickets : List Ticket) : Int := (tickets.map (·.bytes)).sum

@[simp] theorem held_nil : held [] = 0 := rfl

@[simp] theorem held_cons (ticket : Ticket) (rest : List Ticket) :
    held (ticket :: rest) = ticket.bytes + held rest := rfl

@[simp] theorem held_append (front behind : List Ticket) :
    held (front ++ behind) = held front + held behind := by
  simp [held]

theorem held_filter_chargeable (tickets : List Ticket) :
    held (tickets.filter (chargeable token now)) = means token now tickets := rfl

/-- The tickets that can pay for a token, from the lowest id to the highest. -/
structure IsPayers (token : String) (now : Instant) (tickets payers : List Ticket) : Prop where
  ids_ascend : payers.Pairwise fun older newer => older.id < newer.id
  mem_iff : ∀ ticket, ticket ∈ payers ↔
    ticket ∈ tickets ∧ ticket.token = token ∧ now < ticket.expires ∧ 0 < ticket.bytes

/-- A store that is ordered by id has its payers in their order. -/
theorem isPayers_filter (ids_ascend : tickets.Pairwise fun older newer => older.id < newer.id) :
    IsPayers token now tickets (tickets.filter (chargeable token now)) where
  ids_ascend := ids_ascend.filter _
  mem_iff ticket := by rw [List.mem_filter, chargeable_iff]

theorem nodup_of_ids_ascend (ids_ascend : tickets.Pairwise fun older newer => older.id < newer.id) :
    tickets.Nodup :=
  ids_ascend.imp fun lt same => absurd (same ▸ lt) (Int.lt_irrefl _)

theorem IsPayers.unique {first second : List Ticket} (isFirst : IsPayers token now tickets first)
    (isSecond : IsPayers token now tickets second) : first = second := by
  have same : first.Perm second := by
    refine (List.perm_ext_iff_of_nodup (nodup_of_ids_ascend isFirst.ids_ascend)
      (nodup_of_ids_ascend isSecond.ids_ascend)).mpr ?_
    exact fun ticket => (isFirst.mem_iff ticket).trans (isSecond.mem_iff ticket).symm
  refine same.eq_of_pairwise ?_ isFirst.ids_ascend isSecond.ids_ascend
  intro older newer _ _ up down
  omega

/-- What a debit leaves on a payer, between the older payers and the newer ones: less what is owed
behind the older ones, down to nothing, but all that is owed of the last one. -/
def bytesAfter (amount : Int) (older : List Ticket) (payer : Ticket) (newer : List Ticket) : Int :=
  let all := held (older ++ payer :: newer)
  if newer = [] ∧ all < amount then -(amount - all)
  else payer.bytes - min payer.bytes (max 0 (amount - held older))

/-- A ticket with a balance, which is an update if the balance is a new one. -/
def rebalanced (balance : Int) (now : Instant) (ticket : Ticket) : Ticket :=
  { ticket with
    bytes := balance
    updated := if balance = ticket.bytes then ticket.updated else now }

/-- A ticket before and after a debit, if it is distributed by the formula. -/
structure Distributed (payers : List Ticket) (amount : Int) (now : Instant) (old new : Ticket) :
    Prop where
  other : old ∉ payers → new = old
  payer : ∀ older newer, payers = older ++ old :: newer →
    new = rebalanced (bytesAfter amount older old newer) now old

theorem rebalanced_self (ticket : Ticket) : rebalanced ticket.bytes now ticket = ticket := by
  rw [rebalanced, if_pos rfl]

theorem rebalanced_eq_charged {share : Int} (positive : 0 < share) (ticket : Ticket) :
    rebalanced (ticket.bytes - share) now ticket = charged share now ticket := by
  have changed : ticket.bytes - share ≠ ticket.bytes := by omega
  rw [rebalanced, if_neg changed, charged]

/-- Payers that do not cover the amount leave nothing, if there are newer ones. -/
theorem bytesAfter_of_short {older newer : List Ticket} {payer : Ticket} (nonempty : newer ≠ [])
    (short : held older + payer.bytes ≤ amount) : bytesAfter amount older payer newer = 0 := by
  rw [bytesAfter, if_neg fun last => nonempty last.1]
  omega

/-- The payer that settles pays what is owed behind the older ones, whether it has it or not. -/
theorem bytesAfter_of_settling {older newer : List Ticket} {payer : Ticket}
    (owes : held older < amount) (ends : amount ≤ held older + payer.bytes ∨ newer = []) :
    bytesAfter amount older payer newer = payer.bytes - (amount - held older) := by
  by_cases covered : amount ≤ held older + payer.bytes
  · have enough : ¬ (newer = [] ∧ held (older ++ payer :: newer) < amount) := by
      rintro ⟨rfl, short⟩
      simp at short
      omega
    rw [bytesAfter, if_neg enough]
    omega
  · obtain rfl : newer = [] := ends.resolve_left covered
    have all : held (older ++ [payer]) = held older + payer.bytes := by simp
    rw [bytesAfter, all, if_pos ⟨rfl, by omega⟩]
    omega

/-- Behind a covered amount, payers keep what they have. -/
theorem bytesAfter_of_covered {older newer : List Ticket} {payer : Ticket}
    (covered : amount ≤ held older) (has : 0 < payer.bytes) :
    bytesAfter amount older payer newer = payer.bytes := by
  have enough : ¬ (newer = [] ∧ held (older ++ payer :: newer) < amount) := by
    rintro ⟨rfl, short⟩
    simp at short
    omega
  rw [bytesAfter, if_neg enough]
  omega

/-- A list without repetitions is split at an entry in one way. -/
theorem append_cons_inj_of_nodup {α : Type} {front front' behind behind' : List α} {a : α}
    (nodup : (front ++ a :: behind).Nodup) (same : front ++ a :: behind = front' ++ a :: behind') :
    front = front' ∧ behind = behind' := by
  have apart := List.nodup_append.mp nodup
  have not_front : a ∉ front := fun mem => apart.2.2 a mem a List.mem_cons_self rfl
  have not_behind : a ∉ behind := (List.nodup_cons.mp apart.2.1).1
  obtain ⟨front_eq, -, behind_eq⟩ :=
    (List.append_cons_inj_of_notMem not_front not_behind).mp same
  exact ⟨front_eq, behind_eq⟩

/-- To know a payer's place in one way is enough. -/
theorem Distributed.of_payer {older newer : List Ticket} {old new : Ticket}
    (nodup : (older ++ old :: newer).Nodup)
    (formula : new = rebalanced (bytesAfter amount older old newer) now old) :
    Distributed (older ++ old :: newer) amount now old new where
  other absent := absurd (List.mem_append_right older List.mem_cons_self) absent
  payer older' newer' same := by
    obtain ⟨rfl, rfl⟩ := append_cons_inj_of_nodup nodup same
    exact formula

theorem Distributed.of_not_mem {old : Ticket} (absent : old ∉ payers) :
    Distributed payers amount now old old where
  other _ := rfl
  payer older newer split := by
    rw [split] at absent
    exact absurd (List.mem_append_right older List.mem_cons_self) absent

theorem held_nonneg (hold : ∀ ticket ∈ tickets, 0 < ticket.bytes) : 0 ≤ held tickets := by
  apply List.sum_nonneg
  intro bytes mem
  obtain ⟨ticket, listed, rfl⟩ := List.mem_map.mp mem
  exact Int.le_of_lt (hold ticket listed)

section

variable {front behind : List Ticket} {settling ticket : Ticket} {share : Int}

/-- Payers in front of the one that settles give all they have. -/
theorem Distributed.of_front (nodup : (front ++ settling :: behind).Nodup)
    (hold : ∀ ticket ∈ front, 0 < ticket.bytes) (share_pos : 0 < share)
    (owed : held front + share = amount) (mem : ticket ∈ front) :
    Distributed (front ++ settling :: behind) amount now ticket
      (charged ticket.bytes now ticket) := by
  obtain ⟨older, between, rfl⟩ := List.append_of_mem mem
  have between_nonneg : 0 ≤ held between :=
    held_nonneg fun other mem => hold other (by simp [mem])
  have has := hold ticket mem
  rw [List.append_assoc, List.cons_append] at nodup ⊢
  refine .of_payer nodup ?_
  rw [held_append, held_cons] at owed
  rw [bytesAfter_of_short (by simp) (by omega), ← Int.sub_self ticket.bytes,
    rebalanced_eq_charged has]

theorem Distributed.of_settling (nodup : (front ++ settling :: behind).Nodup)
    (share_pos : 0 < share) (owed : held front + share = amount)
    (ends : share ≤ settling.bytes ∨ behind = []) :
    Distributed (front ++ settling :: behind) amount now settling
      (charged share now settling) := by
  refine .of_payer nodup ?_
  have share_eq : amount - held front = share := by omega
  rw [bytesAfter_of_settling (by omega) (ends.imp_left fun _ => by omega), share_eq,
    rebalanced_eq_charged share_pos]

/-- Payers behind a covered amount keep what they have. -/
theorem Distributed.of_behind (nodup : (front ++ settling :: behind).Nodup)
    (hold : ∀ ticket ∈ behind, 0 < ticket.bytes) (covered : amount ≤ held front + settling.bytes)
    (mem : ticket ∈ behind) :
    Distributed (front ++ settling :: behind) amount now ticket ticket := by
  obtain ⟨between, newer, rfl⟩ := List.append_of_mem mem
  have between_nonneg : 0 ≤ held between :=
    held_nonneg fun other mem => hold other (by simp [mem])
  have covered_here : amount ≤ held (front ++ settling :: between) := by
    rw [held_append, held_cons]
    omega
  rw [← List.cons_append, ← List.append_assoc] at nodup ⊢
  refine .of_payer nodup ?_
  rw [bytesAfter_of_covered covered_here (hold ticket mem), rebalanced_self]

end

theorem bytes_pos_of_mem_filter {ticket : Ticket}
    (mem : ticket ∈ tickets.filter (chargeable token now)) : 0 < ticket.bytes :=
  (chargeable_iff.mp (List.mem_filter.mp mem).2).2.2

theorem Settles.distributed (debit : Settles token amount now tickets paid)
    (nodup : tickets.Nodup) :
    List.Forall₂ (Distributed (tickets.filter (chargeable token now)) amount now) tickets paid := by
  obtain ⟨front, settling, behind, share, pays, share_pos, owed, ends⟩ := debit
  have payers_nodup := nodup.filter (chargeable token now)
  have absent {ticket : Ticket} (keeps : chargeable token now ticket = false) :
      ticket ∉ (front ++ settling :: behind).filter (chargeable token now) :=
    fun mem => by simp [keeps] at mem
  rw [List.filter_append, List.filter_cons_of_pos pays] at payers_nodup absent ⊢
  rw [← held_filter_chargeable] at owed
  -- The formula is about payers only, but tickets that cannot pay stand between them everywhere.
  refine List.rel_append ?_ (.cons ?_ ?_)
  · rw [List.forall₂_map_right_iff, List.forall₂_same]
    intro ticket mem
    cases gives : chargeable token now ticket with
    | false =>
        rw [drained_of_not_chargeable gives]
        exact .of_not_mem (absent gives)
    | true =>
        rw [drained_of_chargeable gives]
        exact .of_front payers_nodup (fun _ => bytes_pos_of_mem_filter) share_pos owed
          (List.mem_filter.mpr ⟨mem, gives⟩)
  · refine .of_settling payers_nodup share_pos owed (ends.imp_right fun nobody => ?_)
    simpa using nobody
  · rw [List.forall₂_same]
    intro ticket mem
    cases could : chargeable token now ticket with
    | false => exact .of_not_mem (absent could)
    | true =>
        have covered : share ≤ settling.bytes := by
          refine ends.resolve_right fun nobody => ?_
          rw [nobody ticket mem] at could
          cases could
        exact .of_behind payers_nodup (fun _ => bytes_pos_of_mem_filter) (by omega)
          (List.mem_filter.mpr ⟨mem, could⟩)

/-- A debit is distributed exactly. Where nobody can pay it is refused and changes nothing. Where
somebody can, it goes through, and every payer is left what the formula says: it is written now if
its balance changed, and all other tickets and fields stay as they are. The store gets there by a
walk over the balances, and in 64-bit words each number on this walk is the exact one. -/
theorem debit_distribution {store : Store} {payers : List Ticket}
    (ids_ascend : store.tickets.Pairwise fun older newer => older.id < newer.id)
    (positive : 0 < amount) (isPayers : IsPayers token now store.tickets payers) :
    (payers = [] →
        store.cost token amount now = .error .noEntitlement ∧
          (LedgerOperation.cost token amount now).after store = store) ∧
      (payers ≠ [] →
        ∃ paid, store.cost token amount now = .ok { store with tickets := paid } ∧
          List.Forall₂ (Distributed payers amount now) store.tickets paid ∧
          paid = writeBack now payers (.settle amount (payers.map (·.bytes))) store.tickets) ∧
      ∀ (word : Int64) (words : List Int64), word.toInt = amount →
        words.map Int64.toInt = payers.map (·.bytes) →
          (BalanceWalk.settle word words).map Int64.toInt =
            .settle amount (payers.map (·.bytes)) := by
  obtain rfl := isPayers.unique (isPayers_filter ids_ascend)
  refine ⟨fun nobody => ?_, fun somebody => ?_, ?_⟩
  · have refused : store.cost token amount now = .error .noEntitlement := by
      rcases cost_cases token amount now store with
        ⟨free, -⟩ | ⟨-, -, refused⟩ | ⟨-, ⟨ticket, mem, pays⟩, -⟩
      · omega
      · exact refused
      · have payer := List.mem_filter.mpr ⟨mem, pays⟩
        rw [nobody] at payer
        cases payer
    refine ⟨refused, ?_⟩
    rw [LedgerOperation.after, LedgerOperation.apply, refused]
  · obtain ⟨payer, isPayer⟩ := List.exists_mem_of_ne_nil _ somebody
    obtain ⟨mem, pays⟩ := List.mem_filter.mp isPayer
    rcases cost_cases token amount now store with ⟨free, -⟩ | ⟨-, nobody, -⟩ | ⟨-, anyone, debited⟩
    · omega
    · rw [nobody payer mem] at pays
      cases pays
    · have settled := debitAll_settles positive anyone
      exact ⟨_, debited, settled.distributed (nodup_of_ids_ascend ids_ascend),
        debitAll_eq_writeBack (List.pairwise_map.mpr ids_ascend) amount⟩
  · rintro word words rfl balances
    rw [← balances]
    refine BalanceWalk.settle_words (Int.le_of_lt positive) fun balance mem => ?_
    have listed := List.mem_map_of_mem (f := Int64.toInt) mem
    rw [balances] at listed
    obtain ⟨payer, isPayer, same⟩ := List.mem_map.mp listed
    rw [← same]
    exact Int.le_of_lt (bytes_pos_of_mem_filter isPayer)

/-- A store with two tickets that can pay for a token, and two others between them. -/
def storeOfFour : Store where
  tickets := [⟨1, "tok", 5, 9, "first", "", 0, 0, 100⟩, ⟨2, "other", 8, 8, "second", "", 0, 0, 100⟩,
    ⟨3, "tok", 7, 7, "third", "", 0, 0, 10⟩, ⟨6, "tok", 3, 3, "fourth", "", 20, 20, 100⟩]
  nextId := 7

theorem payers_of_storeOfFour :
    IsPayers "tok" 50 storeOfFour.tickets
      [⟨1, "tok", 5, 9, "first", "", 0, 0, 100⟩, ⟨6, "tok", 3, 3, "fourth", "", 20, 20, 100⟩] := by
  have found : IsPayers "tok" 50 storeOfFour.tickets
      (storeOfFour.tickets.filter (chargeable "tok" 50)) := isPayers_filter (by decide)
  exact found

/-- The largest amount drains the first payer and overdraws the second one. -/
theorem largest_debit_distributed :
    storeOfFour.cost "tok" (2 ^ 63 - 1) 50 =
        .ok { storeOfFour with
          tickets := [⟨1, "tok", 0, 9, "first", "", 0, 50, 100⟩,
            ⟨2, "other", 8, 8, "second", "", 0, 0, 100⟩, ⟨3, "tok", 7, 7, "third", "", 0, 0, 10⟩,
            ⟨6, "tok", 8 - (2 ^ 63 - 1), 3, "fourth", "", 20, 50, 100⟩] } ∧
      (BalanceWalk.settle Int64.maxValue [5, 3]).map Int64.toInt =
        ⟨[0, 8 - (2 ^ 63 - 1)], 2, 2 ^ 63 - 1 - 8,
          [2 ^ 63 - 1 - 5, 2 ^ 63 - 1 - 8, 8 - (2 ^ 63 - 1)]⟩ := by
  have positive : (0 : Int) < 2 ^ 63 - 1 := by decide
  obtain ⟨-, debited, exact_words⟩ :=
    debit_distribution (by decide) positive payers_of_storeOfFour
  obtain ⟨paid, debited, -, rfl⟩ := debited (List.cons_ne_nil _ _)
  refine ⟨debited.trans (by decide), ?_⟩
  exact (exact_words Int64.maxValue [5, 3] rfl rfl).trans (by decide)

end Tollgate.Store
