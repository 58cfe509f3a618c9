import Tollgate.Proofs.Ledger.Run

/-!
# Conservation of bytes

What is left on a token's tickets is what was paid for, less what its debits took. Only debits that
were asked for a positive amount and went through take anything, and these take all of it: an amount
that the tickets do not cover still counts in full, as a negative balance of the last of them.

The step lemma compares both sums before and after one operation. No invariant of reachable stores
is needed, so it holds of every store, and a run adds up what its steps take.
-/

namespace Tollgate.Store

/-- The sum of a field over a token's tickets. -/
def sumOf (field : Ticket → Int) (owner : String) (tickets : List Ticket) : Int :=
  ((tickets.filter (·.token = owner)).map field).sum

/-- The bytes left on a token's tickets. -/
def balance (owner : String) (store : Store) : Int := sumOf (·.bytes) owner store.tickets

/-- The bytes paid for on a token's tickets. -/
def granted (owner : String) (store : Store) : Int := sumOf (·.total) owner store.tickets

/-- What a call took from a token: the amount of a debit of that token that went through, if it was
positive, and nothing otherwise. -/
def taken (owner : String) : LedgerOperation × Except LedgerError Unit → Int
  | (.cost token amount _, .ok _) => if token = owner ∧ 0 < amount then amount else 0
  | _ => 0

section

variable {field : Ticket → Int} {owner token : String} {amount : Int} {now : Instant}

@[simp] theorem sumOf_nil : sumOf field owner [] = 0 := rfl

theorem sumOf_cons (ticket : Ticket) (rest : List Ticket) :
    sumOf field owner (ticket :: rest) =
      (if ticket.token = owner then field ticket else 0) + sumOf field owner rest := by
  by_cases own : ticket.token = owner <;> simp [sumOf, own]

theorem sumOf_append (front behind : List Ticket) :
    sumOf field owner (front ++ behind) = sumOf field owner front + sumOf field owner behind := by
  simp [sumOf]

/-- A draining ticket gives its bytes to the token that is debited, and to nobody else. -/
theorem sumOf_bytes_drained (front : List Ticket) :
    sumOf (·.bytes) owner (front.map (drained token now)) =
      sumOf (·.bytes) owner front - if token = owner then means token now front else 0 := by
  induction front with
  | nil => simp
  | cons ticket rest ih =>
      rw [List.map_cons, sumOf_cons, sumOf_cons, ih]
      cases pays : chargeable token now ticket with
      | false =>
          rw [drained_of_not_chargeable pays, means_cons_of_not_chargeable rest pays]
          omega
      | true =>
          have own : ticket.token = token := (chargeable_iff.mp pays).1
          rw [drained_of_chargeable pays, means_cons_of_chargeable rest pays]
          by_cases same : token = owner
          · simp only [charged_token, charged_bytes, own, same, if_true]
            omega
          · simp only [charged_token, own, same, if_false]
            omega

/-- A settled debit takes the whole amount from the token that is debited. -/
theorem sumOf_bytes_of_settles {tickets paid : List Ticket}
    (debit : Settles token amount now tickets paid) :
    sumOf (·.bytes) owner paid =
      sumOf (·.bytes) owner tickets - if token = owner then amount else 0 := by
  obtain ⟨front, settling, behind, share, pays, share_pos, owed, ends⟩ := debit
  have own : settling.token = token := (chargeable_iff.mp pays).1
  rw [sumOf_append, sumOf_cons, sumOf_append, sumOf_cons, sumOf_bytes_drained]
  by_cases same : token = owner
  · simp only [charged_token, charged_bytes, own, same, if_true]
    subst same
    omega
  · simp only [charged_token, own, same, if_false]
    omega

/-- A settled debit changes nothing that was paid for. -/
theorem sumOf_total_of_settles {tickets paid : List Ticket}
    (debit : Settles token amount now tickets paid) :
    sumOf (·.total) owner paid = sumOf (·.total) owner tickets := by
  rw [sumOf, sumOf, debit.map_filter_token_eq owner (·.total) (fun _ _ => rfl)]

/-- A debit that goes through takes its amount from the token that is debited, and from nobody
else. -/
theorem balance_of_cost {store later : Store} (positive : 0 < amount)
    (debited : store.cost token amount now = .ok later) (owner : String) :
    later.balance owner = store.balance owner - if token = owner then amount else 0 := by
  rcases cost_cases token amount now store with ⟨free, -⟩ | ⟨-, -, refused⟩ | ⟨-, anyone, settled⟩
  · omega
  · rw [refused] at debited
    cases debited
  · obtain rfl := Except.ok.inj (settled.symm.trans debited)
    exact sumOf_bytes_of_settles (debitAll_settles positive anyone)

end

/-- One operation moves the balance by what it grants and what it takes. -/
theorem Step.balance {operation : LedgerOperation} {outcome : Except LedgerError Unit}
    {store later : Store} (h : Step store operation outcome later) (owner : String) :
    later.balance owner - later.granted owner =
      store.balance owner - store.granted owner - taken owner (operation, outcome) := by
  cases h with
  | outOfRange => simp [taken]
  | repeated => simp [taken, Store.balance, granted]
  | added =>
      simp only [taken, Store.balance, granted, sumOf_append, sumOf_cons, sumOf_nil, Credit.ticket]
      omega
  | free nonpos => simp [taken, Int.not_lt.mpr nonpos]
  | refused => simp [taken]
  | settled positive debit =>
      simp only [taken, Store.balance, granted, positive, and_true]
      rw [sumOf_bytes_of_settles debit, sumOf_total_of_settles debit]
      omega

/-- A run moves the balance by what it grants and what its calls take. -/
theorem balance_run (owner : String) (store : Store) (operations : List LedgerOperation) :
    (store.run operations).balance owner - (store.run operations).granted owner =
      store.balance owner - store.granted owner -
        ((store.trace operations).map (taken owner)).sum := by
  induction operations generalizing store with
  | nil => simp [trace]
  | cons operation rest ih =>
      have first := (store.step operation).balance owner
      rw [run_cons, ih, first, trace, List.map_cons, List.sum_cons]
      omega

/-- After any run from the empty store, the bytes left on a token's tickets are the bytes paid for,
less the amounts of its debits that went through. -/
theorem balance_eq_granted_sub_taken (operations : List LedgerOperation) (owner : String) :
    (Store.empty.run operations).balance owner =
      (Store.empty.run operations).granted owner -
        ((Store.empty.trace operations).map (taken owner)).sum := by
  have moved := balance_run owner Store.empty operations
  have none_yet : Store.empty.balance owner = 0 ∧ Store.empty.granted owner = 0 := ⟨rfl, rfl⟩
  rw [none_yet.1, none_yet.2] at moved
  omega

end Tollgate.Store
