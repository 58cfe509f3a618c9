import Tollgate.Proofs.Ledger.Debit
import Mathlib.Data.List.Basic

/-!
# A debit as a walk over balances

A debit reads the balances of the tickets that can pay, walks over them with the amount that is
still owed, lets the last one take what remains, and writes back the balances that it touched, each
to the ticket with its id. `BalanceWalk.settle` is that walk over any numbers with a difference and
an order, and `writeBack` is the end of it; together they do what `debitAll` does to the tickets
themselves. The short cut of a debit is a walk that stops at its first balance.

The numbers are 64-bit words where a ledger is stored. The walk takes no difference but of numbers
that are not negative, and such a difference has 64 bits. So a walk over words is the walk over the
integers that they stand for, with every difference on its way.
-/

namespace Tollgate

/-- What a walk over balances leaves behind. -/
structure BalanceWalk (α : Type) where
  /-- All balances, new ones as far as the walk came. -/
  balances : List α
  /-- How many balances the walk came to. -/
  touched : Nat
  /-- What is still owed behind the last balance. -/
  remaining : α
  /-- All differences that were computed, in order. -/
  differences : List α
  deriving DecidableEq, Repr

namespace BalanceWalk

variable {α β : Type}

/-- The walk of other numbers that these stand for. -/
def map (f : α → β) (walk : BalanceWalk α) : BalanceWalk β where
  balances := walk.balances.map f
  touched := walk.touched
  remaining := f walk.remaining
  differences := walk.differences.map f

/-- A walk with one more balance in front, which gave all it had. -/
def behind [OfNat α 0] (owed : α) (later : BalanceWalk α) : BalanceWalk α where
  balances := 0 :: later.balances
  touched := later.touched + 1
  remaining := later.remaining
  differences := owed :: later.differences

section

variable [OfNat α 0] [Sub α] [LT α] [DecidableLT α]

/-- The last balance takes what remains. -/
def overdraw (walk : BalanceWalk α) : BalanceWalk α :=
  match walk.balances.getLast? with
  | none => walk
  | some last =>
    if 0 < walk.remaining then
      { walk with
        balances := walk.balances.dropLast ++ [last - walk.remaining]
        differences := walk.differences ++ [last - walk.remaining] }
    else walk

theorem overdraw_of_nil {walk : BalanceWalk α} (empty : walk.balances = []) :
    walk.overdraw = walk := by
  rw [overdraw, empty, List.getLast?_nil]

theorem overdraw_of_not_owed {walk : BalanceWalk α} (settled : ¬ 0 < walk.remaining) :
    walk.overdraw = walk := by
  rw [overdraw]
  split
  · rfl
  · exact if_neg settled

theorem overdraw_of_owed {walk : BalanceWalk α} {last : α}
    (ends : walk.balances.getLast? = some last) (owes : 0 < walk.remaining) :
    walk.overdraw =
      { walk with
        balances := walk.balances.dropLast ++ [last - walk.remaining]
        differences := walk.differences ++ [last - walk.remaining] } := by
  rw [overdraw, ends]
  exact if_pos owes

/-- Who is overdrawn does not depend on what was paid in front. -/
theorem overdraw_behind {owed : α} {later : BalanceWalk α} (nonempty : later.balances ≠ []) :
    (later.behind owed).overdraw = later.overdraw.behind owed := by
  by_cases owes : 0 < later.remaining
  · have ends := List.getLast?_eq_some_getLast nonempty
    have ends_behind : (later.behind owed).balances.getLast? =
        some (later.balances.getLast nonempty) := by
      rw [behind, List.getLast?_cons, ends, Option.getD_some]
    rw [overdraw_of_owed ends owes, overdraw_of_owed ends_behind owes]
    simp only [behind, List.dropLast_cons_of_ne_nil nonempty, List.cons_append]
  · have owes_behind : ¬ 0 < (later.behind owed).remaining := owes
    rw [overdraw_of_not_owed owes, overdraw_of_not_owed owes_behind]

variable [LE α] [DecidableLE α]

/-- Pays from balance to balance, and stops at one that covers what is still owed. -/
def pay (owed : α) : List α → BalanceWalk α
  | [] => ⟨[], 0, owed, []⟩
  | balance :: rest =>
    if owed ≤ balance then ⟨(balance - owed) :: rest, 1, 0, [balance - owed]⟩
    else (pay (owed - balance) rest).behind (owed - balance)

/-- The whole walk. -/
def settle (amount : α) (balances : List α) : BalanceWalk α := (pay amount balances).overdraw

end

/-! ## Words -/

/-- A difference of words that are not negative is the difference of what they stand for. -/
theorem toInt_sub_of_nonneg {a b : Int64} (a_nonneg : 0 ≤ a.toInt) (b_nonneg : 0 ≤ b.toInt) :
    (a - b).toInt = a.toInt - b.toInt := by
  have a_lt := a.toInt_lt
  have b_lt := b.toInt_lt
  rw [Int64.toInt_sub, Int.bmod_eq_of_le (by omega) (by omega)]

/-- Paying keeps words exact, and it leaves nothing negative. -/
theorem pay_words {owed : Int64} {balances : List Int64} (owed_nonneg : 0 ≤ owed.toInt)
    (nonneg : ∀ balance ∈ balances, 0 ≤ balance.toInt) :
    (pay owed balances).map Int64.toInt = pay owed.toInt (balances.map Int64.toInt) ∧
      (∀ balance ∈ (pay owed balances).balances, 0 ≤ balance.toInt) ∧
      0 ≤ (pay owed balances).remaining.toInt := by
  -- What is owed stays positive from balance to balance, which makes the next difference exact.
  induction balances generalizing owed with
  | nil => exact ⟨rfl, nonneg, owed_nonneg⟩
  | cons balance rest ih =>
      obtain ⟨balance_nonneg, rest_nonneg⟩ := List.forall_mem_cons.mp nonneg
      rw [pay, List.map_cons, pay]
      by_cases covered : owed.toInt ≤ balance.toInt
      · have difference := toInt_sub_of_nonneg balance_nonneg owed_nonneg
        rw [if_pos (Int64.le_iff_toInt_le.mpr covered), if_pos covered]
        refine ⟨?_, ?_, Int.le_refl 0⟩
        · rw [map, List.map_cons, List.map_cons, List.map_nil, difference, Int64.toInt_zero]
        · refine List.forall_mem_cons.mpr ⟨?_, rest_nonneg⟩
          omega
      · have difference := toInt_sub_of_nonneg owed_nonneg balance_nonneg
        have rest_owed : 0 ≤ (owed - balance).toInt := by omega
        obtain ⟨exact_later, balances_nonneg, remaining_nonneg⟩ := ih rest_owed rest_nonneg
        rw [if_neg (mt Int64.le_iff_toInt_le.mp covered), if_neg covered]
        refine ⟨?_, ?_, remaining_nonneg⟩
        · rw [← difference, ← exact_later]
          rfl
        · exact List.forall_mem_cons.mpr ⟨Int.le_refl 0, balances_nonneg⟩

theorem overdraw_words {walk : BalanceWalk Int64}
    (nonneg : ∀ balance ∈ walk.balances, 0 ≤ balance.toInt)
    (remaining_nonneg : 0 ≤ walk.remaining.toInt) :
    walk.overdraw.map Int64.toInt = (walk.map Int64.toInt).overdraw := by
  by_cases owes : 0 < walk.remaining
  · have owes_toInt : 0 < (walk.map Int64.toInt).remaining := Int64.lt_iff_toInt_lt.mp owes
    cases ends : walk.balances.getLast? with
    | none =>
        have empty : walk.balances = [] := List.getLast?_eq_none_iff.mp ends
        have empty_toInt : (walk.map Int64.toInt).balances = [] := by
          rw [map, empty, List.map_nil]
        rw [overdraw_of_nil empty, overdraw_of_nil empty_toInt]
    | some last =>
        have last_nonneg := nonneg last (List.mem_of_getLast? ends)
        have ends_toInt : (walk.map Int64.toInt).balances.getLast? = some last.toInt := by
          rw [map, List.getLast?_map, ends, Option.map_some]
        rw [overdraw_of_owed ends owes, overdraw_of_owed ends_toInt owes_toInt]
        simp only [map, List.map_append, List.map_dropLast, List.map_cons, List.map_nil,
          toInt_sub_of_nonneg last_nonneg remaining_nonneg]
  · have settled : ¬ 0 < (walk.map Int64.toInt).remaining :=
      fun owed => owes (Int64.lt_iff_toInt_lt.mpr owed)
    rw [overdraw_of_not_owed owes, overdraw_of_not_owed settled]

/-- A debit of 64-bit balances is exact, with all differences on its way. -/
theorem settle_words {amount : Int64} {balances : List Int64} (amount_nonneg : 0 ≤ amount.toInt)
    (nonneg : ∀ balance ∈ balances, 0 ≤ balance.toInt) :
    (settle amount balances).map Int64.toInt =
      settle amount.toInt (balances.map Int64.toInt) := by
  obtain ⟨exact_pay, balances_nonneg, remaining_nonneg⟩ := pay_words amount_nonneg nonneg
  rw [settle, settle, ← exact_pay, overdraw_words balances_nonneg remaining_nonneg]

/-! ## Integers -/

/-- Every payer has its balance, also behind the last one that was touched. -/
@[simp] theorem length_balances_pay (owed : Int) (balances : List Int) :
    (pay owed balances).balances.length = balances.length := by
  induction balances generalizing owed with
  | nil => rfl
  | cons balance rest ih =>
      rw [pay]
      split
      · rfl
      · rw [behind, List.length_cons, List.length_cons, ih]

/-- A balance that covers the amount pays alone. -/
theorem settle_of_le {amount balance : Int} (covered : amount ≤ balance) (rest : List Int) :
    settle amount (balance :: rest) = ⟨(balance - amount) :: rest, 1, 0, [balance - amount]⟩ := by
  rw [settle, pay, if_pos covered, overdraw_of_not_owed (Int.lt_irrefl 0)]

/-- A balance that does not cover the amount gives all it has, if there are others. -/
theorem settle_of_lt {amount balance : Int} (short : balance < amount) {rest : List Int}
    (nonempty : rest ≠ []) :
    settle amount (balance :: rest) =
      (settle (amount - balance) rest).behind (amount - balance) := by
  have later_nonempty : (pay (amount - balance) rest).balances ≠ [] := by
    rw [← List.length_pos_iff, length_balances_pay]
    exact List.length_pos_iff.mpr nonempty
  rw [settle, pay, if_neg (Int.not_le.mpr short), overdraw_behind later_nonempty, settle]

theorem settle_singleton {amount balance : Int} (short : balance < amount) :
    settle amount [balance] =
      ⟨[balance - amount], 1, amount - balance, [amount - balance, balance - amount]⟩ := by
  have owes : 0 < (behind (amount - balance) (pay (amount - balance) [])).remaining :=
    Int.sub_pos_of_lt short
  have gone : 0 - (amount - balance) = balance - amount := by omega
  rw [settle, pay, if_neg (Int.not_le.mpr short), overdraw_of_owed rfl owes]
  simp [behind, pay, gone]

end BalanceWalk

namespace Store

/-! ## Tickets -/

/-- Writes a balance to the ticket with an id. -/
def setBalance (now : Instant) (tickets : List Ticket) (row : Int × Int) : List Ticket :=
  tickets.map fun ticket =>
    if ticket.id = row.1 then { ticket with bytes := row.2, updated := now } else ticket

/-- The ids of the payers that a walk touched, with what became of their balances. -/
def touchedRows (payers : List Ticket) (walk : BalanceWalk Int) : List (Int × Int) :=
  ((payers.map (·.id)).zip walk.balances).take walk.touched

/-- Writes back what a walk over the balances of payers did. -/
def writeBack (now : Instant) (payers : List Ticket) (walk : BalanceWalk Int)
    (tickets : List Ticket) : List Ticket :=
  (touchedRows payers walk).foldl (setBalance now) tickets

variable {token : String} {amount balance : Int} {now : Instant} {ticket : Ticket}
  {payers rest : List Ticket} {walk : BalanceWalk Int}

theorem touchedRows_behind (ticket : Ticket) (payers : List Ticket) (owed : Int)
    (walk : BalanceWalk Int) :
    touchedRows (ticket :: payers) (walk.behind owed) =
      (ticket.id, 0) :: touchedRows payers walk := rfl

theorem exists_of_mem_touchedRows {row : Int × Int} (mem : row ∈ touchedRows payers walk) :
    ∃ payer ∈ payers, payer.id = row.1 :=
  List.mem_map.mp (List.of_mem_zip (List.mem_of_mem_take mem)).1

/-- A balance is written to the one ticket with its id. -/
theorem setBalance_cons (others : ∀ other ∈ rest, ticket.id < other.id) (balance : Int) :
    setBalance now (ticket :: rest) (ticket.id, balance) =
      { ticket with bytes := balance, updated := now } :: rest := by
  have rest_kept : setBalance now rest (ticket.id, balance) = rest := by
    refine (List.map_congr_left fun other mem => if_neg ?_).trans (List.map_id rest)
    exact Int.ne_of_gt (others other mem)
  rw [setBalance, List.map_cons, if_pos rfl, ← setBalance, rest_kept]

/-- A ticket that is not among the payers is not written to. -/
theorem foldl_setBalance_cons {rows : List (Int × Int)}
    (others : ∀ row ∈ rows, ticket.id ≠ row.1) :
    rows.foldl (setBalance now) (ticket :: rest) =
      ticket :: rows.foldl (setBalance now) rest := by
  induction rows generalizing rest with
  | nil => rfl
  | cons row rows ih =>
      obtain ⟨other, later⟩ := List.forall_mem_cons.mp others
      have passed : setBalance now (ticket :: rest) row = ticket :: setBalance now rest row := by
        rw [setBalance, List.map_cons, if_neg other, setBalance]
      rw [List.foldl_cons, List.foldl_cons, passed, ih later]

/-- The walk over the balances does what the debit does to the tickets. -/
theorem debitAll_eq_writeBack {tickets : List Ticket}
    (ids_ascend : (tickets.map (·.id)).Pairwise (· < ·)) (amount : Int) :
    debitAll token amount now tickets =
      writeBack now (tickets.filter (chargeable token now))
        (.settle amount ((tickets.filter (chargeable token now)).map (·.bytes))) tickets := by
  induction tickets generalizing amount with
  | nil => rfl
  | cons ticket rest ih =>
      rw [List.map_cons, List.pairwise_cons, List.forall_mem_map] at ids_ascend
      obtain ⟨others, rest_ascends⟩ := ids_ascend
      -- No payer behind this ticket has its id, so what is written for them passes it by.
      have elsewhere : ∀ walk, ∀ row ∈ touchedRows (rest.filter (chargeable token now)) walk,
          ticket.id ≠ row.1 := by
        intro walk row mem
        obtain ⟨payer, isPayer, id_eq⟩ := exists_of_mem_touchedRows mem
        have later := others payer (List.mem_of_mem_filter isPayer)
        omega
      cases pays : chargeable token now ticket with
      | false =>
          rw [debitAll, if_neg (by simp [pays]), List.filter_cons_of_neg (by simp [pays]),
            ih rest_ascends, writeBack, writeBack, foldl_setBalance_cons (elsewhere _)]
      | true =>
          rw [debitAll, if_pos pays, List.filter_cons_of_pos pays, List.map_cons, writeBack]
          by_cases covered : amount ≤ ticket.bytes
          · rw [if_pos (Or.inl covered), BalanceWalk.settle_of_le covered]
            exact (setBalance_cons others _).symm
          · have short : ticket.bytes < amount := Int.not_le.mp covered
            by_cases alone : rest.any (chargeable token now) = false
            · have nobody : rest.filter (chargeable token now) = [] := by
                simpa using alone
              rw [if_pos (Or.inr alone), nobody, List.map_nil, BalanceWalk.settle_singleton short]
              exact (setBalance_cons others _).symm
            · have somebody : (rest.filter (chargeable token now)).map (·.bytes) ≠ [] := by
                simpa using alone
              rw [if_neg (by simp [covered, alone]), ih rest_ascends,
                BalanceWalk.settle_of_lt short somebody, touchedRows_behind, List.foldl_cons,
                setBalance_cons others, foldl_setBalance_cons, charged, Int.sub_self, writeBack]
              exact elsewhere _

end Store

end Tollgate
