import Tollgate.Ledger.Store
import Mathlib.Algebra.Order.BigOperators.Group.List
import Mathlib.Algebra.Order.Ring.Int
import Mathlib.Data.List.Forall2

/-!
# The form of a debit

Every debit that goes through has one form. The tickets in front of the one where it stops give all
they can be charged, that one settles what is still owed, and the tickets behind it are not looked
at. The settling ticket either covers its share or is the last one that can pay, and only then does
it end below zero.

`Settles` states this form apart from the two ways in which a debit is carried out. Both reach it:
the short cut succeeds exactly when the first chargeable ticket settles alone. What a debit keeps or
changes is read off the form afterwards, and no later proof follows the walk again.
-/

namespace Tollgate.Store

variable {token : String} {amount : Int} {now : Instant}

theorem chargeable_iff {ticket : Ticket} :
    chargeable token now ticket = true ↔
      ticket.token = token ∧ now < ticket.expires ∧ 0 < ticket.bytes := by
  simp [chargeable, Ticket.isValidAt, and_assoc]

/-- Nobody else's tickets can be charged. -/
theorem not_chargeable_of_token_ne {ticket : Ticket} (foreign : ticket.token ≠ token) :
    chargeable token now ticket = false := by
  simp [chargeable, foreign]

@[simp] theorem charged_id (ticket : Ticket) : (charged amount now ticket).id = ticket.id := rfl

@[simp] theorem charged_token (ticket : Ticket) :
    (charged amount now ticket).token = ticket.token := rfl

@[simp] theorem charged_bytes (ticket : Ticket) :
    (charged amount now ticket).bytes = ticket.bytes - amount := rfl

/-- A ticket in front of the one that settles: it gives all it has if it can be charged. -/
def drained (token : String) (now : Instant) (ticket : Ticket) : Ticket :=
  if chargeable token now ticket then charged ticket.bytes now ticket else ticket

theorem drained_of_chargeable {ticket : Ticket} (pays : chargeable token now ticket = true) :
    drained token now ticket = charged ticket.bytes now ticket := if_pos pays

theorem drained_of_not_chargeable {ticket : Ticket} (keeps : chargeable token now ticket = false) :
    drained token now ticket = ticket := by
  simp [drained, keeps]

@[simp] theorem drained_id (ticket : Ticket) : (drained token now ticket).id = ticket.id := by
  cases pays : chargeable token now ticket <;> simp [drained, pays]

@[simp] theorem drained_token (ticket : Ticket) :
    (drained token now ticket).token = ticket.token := by
  cases pays : chargeable token now ticket <;> simp [drained, pays]

/-- All that a token can be charged now. -/
def means (token : String) (now : Instant) (tickets : List Ticket) : Int :=
  ((tickets.filter (chargeable token now)).map (·.bytes)).sum

@[simp] theorem means_nil : means token now [] = 0 := rfl

theorem means_cons_of_chargeable {ticket : Ticket} (rest : List Ticket)
    (pays : chargeable token now ticket = true) :
    means token now (ticket :: rest) = ticket.bytes + means token now rest := by
  simp [means, pays]

theorem means_cons_of_not_chargeable {ticket : Ticket} (rest : List Ticket)
    (keeps : chargeable token now ticket = false) :
    means token now (ticket :: rest) = means token now rest := by
  simp [means, keeps]

/-- Only tickets with bytes left can be charged. -/
private theorem chargeable_bytes_nonneg (tickets : List Ticket) :
    ∀ bytes ∈ (tickets.filter (chargeable token now)).map (·.bytes), 0 ≤ bytes := by
  intro bytes mem
  obtain ⟨ticket, listed, rfl⟩ := List.mem_map.mp mem
  exact Int.le_of_lt (chargeable_iff.mp (List.mem_filter.mp listed).2).2.2

theorem means_nonneg (token : String) (now : Instant) (tickets : List Ticket) :
    0 ≤ means token now tickets :=
  List.sum_nonneg (chargeable_bytes_nonneg tickets)

/-- A ticket that can be charged holds no more than its token can be charged. -/
theorem bytes_le_means {tickets : List Ticket} {ticket : Ticket} (mem : ticket ∈ tickets)
    (pays : chargeable token now ticket = true) : ticket.bytes ≤ means token now tickets :=
  List.single_le_sum (chargeable_bytes_nonneg tickets) _
    (List.mem_map_of_mem (List.mem_filter.mpr ⟨mem, pays⟩))

/-- What a debit does to one ticket: nothing, or a positive share of the amount is taken from it
while it can be charged. -/
inductive Debited (token : String) (amount : Int) (now : Instant) (old : Ticket) :
    Ticket → Prop where
  | untouched : Debited token amount now old old
  | charged (share : Int) (pays : chargeable token now old = true) (share_pos : 0 < share)
      (share_le : share ≤ amount) : Debited token amount now old (charged share now old)

/-- The form of a debit: who gives all, who settles, and who is not looked at. -/
inductive Settles (token : String) (amount : Int) (now : Instant) :
    List Ticket → List Ticket → Prop where
  | intro (front : List Ticket) (settling : Ticket) (behind : List Ticket) (share : Int)
      (pays : chargeable token now settling = true)
      (share_pos : 0 < share)
      (owed : means token now front + share = amount)
      (ends : share ≤ settling.bytes ∨ ∀ ticket ∈ behind, chargeable token now ticket = false) :
      Settles token amount now (front ++ settling :: behind)
        (front.map (drained token now) ++ charged share now settling :: behind)

namespace Settles

/-- A debit passes by a ticket that cannot be charged. -/
theorem cons_of_not_chargeable {tickets paid : List Ticket} {ticket : Ticket}
    (h : Settles token amount now tickets paid) (keeps : chargeable token now ticket = false) :
    Settles token amount now (ticket :: tickets) (ticket :: paid) := by
  obtain ⟨front, settling, behind, share, pays, share_pos, owed, ends⟩ := h
  have owed_here : means token now (ticket :: front) + share = amount := by
    rwa [means_cons_of_not_chargeable front keeps]
  have debit := Settles.intro (ticket :: front) settling behind share pays share_pos owed_here ends
  simpa [drained_of_not_chargeable keeps] using debit

/-- A ticket that does not cover the amount gives all it has, and the others owe the rest. -/
theorem cons_of_chargeable {tickets paid : List Ticket} {ticket : Ticket}
    (h : Settles token (amount - ticket.bytes) now tickets paid)
    (gives : chargeable token now ticket = true) :
    Settles token amount now (ticket :: tickets) (charged ticket.bytes now ticket :: paid) := by
  obtain ⟨front, settling, behind, share, pays, share_pos, owed, ends⟩ := h
  have owed_here : means token now (ticket :: front) + share = amount := by
    rw [means_cons_of_chargeable front gives]
    omega
  have debit := Settles.intro (ticket :: front) settling behind share pays share_pos owed_here ends
  simpa [drained_of_chargeable gives] using debit

/-- A ticket in front gives no more than the amount. -/
theorem debited_drained {front : List Ticket} {ticket : Ticket} {share : Int}
    (mem : ticket ∈ front) (share_pos : 0 < share) (owed : means token now front + share = amount) :
    Debited token amount now ticket (drained token now ticket) := by
  cases pays : chargeable token now ticket with
  | false =>
      rw [drained_of_not_chargeable pays]
      exact .untouched
  | true =>
      have held := bytes_le_means mem pays
      rw [drained_of_chargeable pays]
      exact .charged ticket.bytes pays (chargeable_iff.mp pays).2.2 (by omega)

/-- A debit keeps every ticket in its place. -/
theorem forall₂ {tickets paid : List Ticket} (h : Settles token amount now tickets paid) :
    List.Forall₂ (Debited token amount now) tickets paid := by
  obtain ⟨front, settling, behind, share, pays, share_pos, owed, ends⟩ := h
  have front_nonneg := means_nonneg token now front
  have drains : List.Forall₂ (Debited token amount now) front (front.map (drained token now)) := by
    rw [List.forall₂_map_right_iff, List.forall₂_same]
    intro ticket mem
    exact debited_drained mem share_pos owed
  have rest_kept : List.Forall₂ (Debited token amount now) behind behind :=
    List.forall₂_same.mpr fun _ _ => .untouched
  exact List.rel_append drains (.cons (.charged share pays share_pos (by omega)) rest_kept)

/-- Every ticket is still there after a debit. -/
theorem exists_debited {tickets paid : List Ticket} (h : Settles token amount now tickets paid)
    {old : Ticket} (mem : old ∈ tickets) : ∃ new ∈ paid, Debited token amount now old new := by
  have pairs := h.forall₂
  clear h
  induction pairs with
  | nil => cases mem
  | cons change _ ih =>
      rcases List.mem_cons.mp mem with rfl | later
      · exact ⟨_, List.mem_cons_self, change⟩
      · obtain ⟨new, mem_new, change_new⟩ := ih later
        exact ⟨new, List.mem_cons_of_mem _ mem_new, change_new⟩

/-- Every ticket after a debit was there before. -/
theorem exists_debited_from {tickets paid : List Ticket}
    (h : Settles token amount now tickets paid) {new : Ticket} (mem : new ∈ paid) :
    ∃ old ∈ tickets, Debited token amount now old new := by
  have pairs := h.forall₂
  clear h
  induction pairs with
  | nil => cases mem
  | cons change _ ih =>
      rcases List.mem_cons.mp mem with rfl | later
      · exact ⟨_, List.mem_cons_self, change⟩
      · obtain ⟨old, mem_old, change_old⟩ := ih later
        exact ⟨old, List.mem_cons_of_mem _ mem_old, change_old⟩

/-- What being charged does not change on a ticket, a debit does not change on any. -/
theorem map_eq {α : Type} {tickets paid : List Ticket} (h : Settles token amount now tickets paid)
    (field : Ticket → α)
    (kept : ∀ (share : Int) (ticket : Ticket), field (charged share now ticket) = field ticket) :
    paid.map field = tickets.map field := by
  have same : List.Forall₂ (fun old new => field old = field new) tickets paid := by
    refine h.forall₂.imp ?_
    rintro old new (_ | ⟨share, pays, share_pos, share_le⟩)
    · rfl
    · exact (kept share old).symm
  have same_fields := List.forall₂_map_left_iff.mpr (List.forall₂_map_right_iff.mpr same)
  rw [List.forall₂_eq_eq_eq] at same_fields
  exact same_fields.symm

/-- The same holds of one owner's tickets. -/
theorem map_filter_token_eq {α : Type} {tickets paid : List Ticket}
    (h : Settles token amount now tickets paid) (owner : String) (field : Ticket → α)
    (kept : ∀ (share : Int) (ticket : Ticket), field (charged share now ticket) = field ticket) :
    (paid.filter (·.token = owner)).map field = (tickets.filter (·.token = owner)).map field := by
  have same := h.map_eq (fun ticket => (ticket.token, field ticket))
    (fun share ticket => by rw [charged_token, kept])
  have read : ∀ list : List Ticket, (list.filter (·.token = owner)).map field =
      ((list.map fun ticket => (ticket.token, field ticket)).filter (·.1 = owner)).map (·.2) := by
    intro list
    simp [List.filter_map, Function.comp_def]
  rw [read, read, same]

/-- Only the ticket that settles is overdrawn, and only if nothing behind it can be charged. -/
theorem overdrawn_settles {tickets paid : List Ticket} (h : Settles token amount now tickets paid)
    {new : Ticket} (mem : new ∈ paid) (changed : new ∉ tickets) (overdrawn : new.bytes < 0) :
    ∃ front settling behind share, tickets = front ++ settling :: behind ∧
      paid = front.map (drained token now) ++ new :: behind ∧ new = charged share now settling ∧
      chargeable token now settling = true ∧
      ∀ ticket ∈ behind, chargeable token now ticket = false := by
  obtain ⟨front, settling, behind, share, pays, share_pos, owed, ends⟩ := h
  rcases List.mem_append.mp mem with in_front | in_rest
  · obtain ⟨gave, mem_gave, rfl⟩ := List.mem_map.mp in_front
    cases gives : chargeable token now gave with
    | true =>
        rw [drained_of_chargeable gives, charged_bytes] at overdrawn
        omega
    | false =>
        rw [drained_of_not_chargeable gives] at changed
        exact absurd (List.mem_append_left _ mem_gave) changed
  · rcases List.mem_cons.mp in_rest with rfl | in_behind
    · refine ⟨front, settling, behind, share, rfl, rfl, rfl, pays, ?_⟩
      rcases ends with covered | nobody
      · rw [charged_bytes] at overdrawn
        omega
      · exact nobody
    · exact absurd (List.mem_append_right _ (List.mem_cons_of_mem _ in_behind)) changed

end Settles

/-- The walk over all chargeable tickets settles the amount, if there is any such ticket. -/
theorem debitAll_settles {tickets : List Ticket} (positive : 0 < amount)
    (chargeableTicket : ∃ ticket ∈ tickets, chargeable token now ticket = true) :
    Settles token amount now tickets (debitAll token amount now tickets) := by
  induction tickets generalizing amount with
  | nil => simp at chargeableTicket
  | cons ticket rest ih =>
      cases pays : chargeable token now ticket with
      | false =>
          have later : ∃ other ∈ rest, chargeable token now other = true := by
            simpa [pays] using chargeableTicket
          simpa [debitAll, pays] using (ih positive later).cons_of_not_chargeable pays
      | true =>
          by_cases stops : amount ≤ ticket.bytes ∨ rest.any (chargeable token now) = false
          · have ends : amount ≤ ticket.bytes ∨
                ∀ other ∈ rest, chargeable token now other = false := by
              simpa using stops
            rw [debitAll, if_pos pays, if_pos stops]
            exact Settles.intro [] ticket rest amount pays positive (by simp) ends
          · have short : ticket.bytes < amount := by
              by_contra covered
              exact stops (Or.inl (by omega))
            have later : ∃ other ∈ rest, chargeable token now other = true := by
              by_contra nobody
              exact stops (Or.inr (by simpa using nobody))
            rw [debitAll, if_pos pays, if_neg stops]
            exact (ih (by omega) later).cons_of_chargeable pays

/-- The short cut succeeds only where the walk does, and gives what the walk gives. -/
theorem debitFirst?_eq_some {tickets paid : List Ticket}
    (h : debitFirst? token amount now tickets = some paid) :
    (∃ ticket ∈ tickets, chargeable token now ticket = true) ∧
      paid = debitAll token amount now tickets := by
  induction tickets generalizing paid with
  | nil => simp [debitFirst?] at h
  | cons ticket rest ih =>
      cases pays : chargeable token now ticket with
      | false =>
          obtain ⟨others, first, rfl⟩ : ∃ others,
              debitFirst? token amount now rest = some others ∧ ticket :: others = paid := by
            simpa [debitFirst?, pays] using h
          obtain ⟨⟨other, mem, chargeableOther⟩, rfl⟩ := ih first
          exact ⟨⟨other, List.mem_cons_of_mem _ mem, chargeableOther⟩, by simp [debitAll, pays]⟩
      | true =>
          obtain ⟨covered, rfl⟩ : amount ≤ ticket.bytes ∧
              charged amount now ticket :: rest = paid := by
            simpa [debitFirst?, pays] using h
          exact ⟨⟨ticket, List.mem_cons_self, pays⟩, by simp [debitAll, pays, covered]⟩

/-- The short cut of a debit does not show in its result. -/
theorem cost_eq_costThroughAll (token : String) (amount : Int) (now : Instant) (store : Store) :
    store.cost token amount now = store.costThroughAll token amount now := by
  by_cases free : amount ≤ 0
  · simp [cost, costThroughAll, free]
  · cases first : debitFirst? token amount now store.tickets with
    | none => simp [cost, free, first]
    | some paid =>
        obtain ⟨anyone, rfl⟩ := debitFirst?_eq_some first
        have found : store.tickets.any (chargeable token now) = true := by
          simpa using anyone
        simp [cost, costThroughAll, free, first, found]

/-- How a debit ends: nothing is asked for, nothing can be charged, or the amount is settled. -/
theorem cost_cases (token : String) (amount : Int) (now : Instant) (store : Store) :
    (amount ≤ 0 ∧ store.cost token amount now = .ok store) ∨
    (0 < amount ∧ (∀ ticket ∈ store.tickets, chargeable token now ticket = false) ∧
      store.cost token amount now = .error .noEntitlement) ∨
    (0 < amount ∧ (∃ ticket ∈ store.tickets, chargeable token now ticket = true) ∧
      store.cost token amount now =
        .ok { store with tickets := debitAll token amount now store.tickets }) := by
  rw [cost_eq_costThroughAll, costThroughAll]
  by_cases free : amount ≤ 0
  · exact Or.inl ⟨free, if_pos free⟩
  · right
    have positive : 0 < amount := by omega
    rw [if_neg free]
    cases anyone : store.tickets.any (chargeable token now) with
    | false => exact Or.inl ⟨positive, by simpa using anyone, rfl⟩
    | true => exact Or.inr ⟨positive, by simpa using anyone, rfl⟩

end Tollgate.Store
