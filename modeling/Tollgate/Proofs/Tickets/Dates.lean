import Tollgate.Proofs.Ledger.Validity
import Tollgate.Proofs.Tickets.Amount
import Tollgate.Proofs.Tickets.Crediting

/-!
# Payments and the end of the calendar

Every amount that can be credited has a lifetime of 64 bits, but not every lifetime ends at a date.
A payment is answered exactly if the token's chain of expiries has room for one more lifetime before
the calendar ends. The room is looked at before the order number is, so the notification of an order
that was credited already needs it as well.

The chain of a token ends no later than the clock and all its lifetimes together. This bound tells a
shop which payments are answered without looking at any expiry.
-/

namespace Tollgate

namespace Ticket

/-- The lifetime of what an amount can buy has 64 bits. -/
theorem fitsInt64_lifetime {bytes : Int} (bought : bytes ≤ Text.maxInt64.tdiv 100) :
    Text.fitsInt64 (lifetime bytes) = true := by
  have bound : bytes ≤ 92233720368547758 := bought
  rw [Text.fitsInt64_iff, lifetime_eq, Text.minInt64, Text.maxInt64]
  omega

def lifetimes (tickets : List Ticket) : Int := (tickets.map fun ticket => lifetime ticket.total).sum

theorem lifetimes_cons (ticket : Ticket) (rest : List Ticket) :
    lifetimes (ticket :: rest) = lifetime ticket.total + lifetimes rest := List.sum_cons

theorem lifetimes_nonneg (tickets : List Ticket) : 0 ≤ lifetimes tickets := by
  apply List.sum_nonneg
  intro granted mem
  obtain ⟨ticket, -, rfl⟩ := List.mem_map.mp mem
  exact Int.le_of_lt (lifetime_pos ticket.total)

/-- A chain that starts no later than the clock, and whose tickets were bought no later than that,
ends no later than the clock and its lifetimes together. -/
theorem Chained.expires_le {latest : Option Instant} {tickets : List Ticket} {clock : Instant}
    (h : Chained latest tickets) (latest_le : ∀ before ∈ latest, before ≤ clock)
    (created_le : ∀ ticket ∈ tickets, ticket.created ≤ clock) :
    ∀ ticket ∈ tickets, ticket.expires ≤ clock + lifetimes tickets := by
  induction tickets generalizing latest clock with
  | nil =>
      intro ticket mem
      cases mem
  | cons first rest ih =>
      obtain ⟨expires_eq, chained⟩ := h
      have begun_le : latest.elim first.created (max · first.created) ≤ clock := by
        cases latest with
        | none => exact created_le first List.mem_cons_self
        | some before =>
            exact Int.max_le.mpr ⟨latest_le before rfl, created_le first List.mem_cons_self⟩
      have first_le : first.expires ≤ clock + lifetime first.total := by
        rw [expires_eq]
        exact Int.add_le_add_right begun_le _
      have clock_le : clock ≤ clock + lifetime first.total :=
        Int.le_add_of_nonneg_right (Int.le_of_lt (lifetime_pos first.total))
      -- The rest of the chain is bounded from the clock on by which the first ticket expires.
      have chain_le : ∀ before ∈ some first.expires, before ≤ clock + lifetime first.total := by
        rintro before ⟨⟩
        exact first_le
      have rest_created : ∀ ticket ∈ rest, ticket.created ≤ clock + lifetime first.total := by
        intro ticket mem
        exact Int.le_trans (created_le ticket (List.mem_cons_of_mem _ mem)) clock_le
      intro ticket mem
      rw [lifetimes_cons, ← Int.add_assoc]
      rcases List.mem_cons.mp mem with rfl | later
      · exact Int.le_trans first_le (Int.le_add_of_nonneg_right (lifetimes_nonneg rest))
      · exact ih chained chain_le rest_created ticket later

end Ticket

namespace Store

/-- The chain of a token, with one more lifetime, ends no later than the clock and all lifetimes
together. -/
theorem ExpiriesChained.chainedExpiry_le {store : Store} (h : store.ExpiriesChained)
    {token : String} {now clock : Instant} (bytes : Int) (now_le : now ≤ clock)
    (created_le : ∀ ticket ∈ store.ticketsOf token, ticket.created ≤ clock) :
    Ticket.chainedExpiry ((store.newest? token).map (·.expires)) bytes now ≤
      clock + Ticket.lifetimes (store.ticketsOf token) + Ticket.lifetime bytes := by
  have now_le_end : now ≤ clock + Ticket.lifetimes (store.ticketsOf token) :=
    Int.le_trans now_le (Int.le_add_of_nonneg_right (Ticket.lifetimes_nonneg _))
  apply Int.add_le_add_right
  cases newest : store.newest? token with
  | none => exact now_le_end
  | some ticket =>
      have mem : ticket ∈ store.ticketsOf token := by
        obtain ⟨older, tickets_eq⟩ := newest?_eq_some_iff_append.mp newest
        rw [tickets_eq]
        exact List.mem_append_right _ List.mem_cons_self
      refine Int.max_le.mpr ⟨?_, now_le_end⟩
      exact (h token).expires_le (fun _ nothing => nomatch nothing) created_le ticket mem

/-- A credit goes through exactly if its ticket has a date, whether or not it is a repeated one. -/
theorem create_outcome_eq_ok {credit : Credit} {now expires : Instant} {store : Store}
    (dated : store.creditExpiry? credit now = some expires) :
    (LedgerOperation.create credit now).outcome store = .ok () := by
  by_cases known : store.Knows credit.payOrder
  · rw [LedgerOperation.outcome, LedgerOperation.apply, create_of_knows dated known]
    rfl
  · rw [LedgerOperation.outcome, LedgerOperation.apply, create_of_not_knows dated known]
    rfl

theorem create_outcome_eq_error {credit : Credit} {now : Instant} {store : Store}
    (dateless : store.creditExpiry? credit now = none) :
    (LedgerOperation.create credit now).outcome store = .error .expiryOutOfRange := by
  rw [LedgerOperation.outcome, LedgerOperation.apply, create_of_no_expiry dateless]
  rfl

end Store

namespace Tickets

variable {shop : Shop} {order : Order} {credit : Credit} {now : Instant} {store : Store}

/-- What is credited for an amount has no date exactly if the chain of its token, with one more
lifetime, ends after the calendar. -/
theorem Shop.creditExpiry?_eq_none_iff (payable : shop.creditOf? order = some credit)
    (now : Instant) (store : Store) :
    store.creditExpiry? credit now = none ↔
      ¬ Ticket.chainedExpiry ((store.newest? credit.token).map (·.expires)) credit.bytes now ≤
        Instant.last := by
  obtain ⟨-, -, -, read⟩ := creditOf?_eq_some_iff.mp payable
  obtain ⟨cents, -, bought⟩ := Option.bind_eq_some_iff.mp read
  have fits := Ticket.fitsInt64_lifetime (creditBytes_le bought)
  rw [Store.creditExpiry?, Ticket.expiry?_eq]
  simp only [fits, true_and, ite_eq_right_iff, reduceCtorEq, imp_false]

/-- A payment is answered with success while there is room for it before the end of the calendar,
and otherwise not at all. -/
theorem Shop.credit_answered_iff (payable : shop.creditOf? order = some credit) (now : Instant)
    (store : Store) :
    ∃ answer later, shop.credit order now (.store store) = (answer, .store later) ∧
      (answer = some success ↔
        Ticket.chainedExpiry ((store.newest? credit.token).map (·.expires)) credit.bytes now ≤
          Instant.last) ∧
      (answer ≠ some success → answer = none ∧ later = store) := by
  rw [credit_of_payable payable]
  refine ⟨_, _, rfl, ?_, ?_⟩
  · rw [answerTo_eq_success_iff, ← not_iff_not, ← creditExpiry?_eq_none_iff payable]
    cases room : store.creditExpiry? credit now with
    | none => simp [Store.create_outcome_eq_error room]
    | some expires => simp [Store.create_outcome_eq_ok room]
  · intro refused
    have not_ok : (LedgerOperation.create credit now).outcome store ≠ .ok () :=
      fun accepted => refused (answerTo_eq_success_iff.mpr accepted)
    refine ⟨?_, Store.after_create_of_refused not_ok⟩
    cases room : store.creditExpiry? credit now with
    | none => rw [Store.create_outcome_eq_error room]; rfl
    | some expires => exact absurd (Store.create_outcome_eq_ok room) not_ok

/-- Which payments are answered, after any dealings with a shop. One whose amount can be credited is
answered, and with success, exactly while the chain of its token has room for one more lifetime
before the calendar ends; otherwise nothing is answered, and the store stays as it was. There is
room as long as the clock, the lifetimes of the token's tickets and the new one together lie before
the end of the calendar. -/
theorem payment_answered_iff (shop : Shop) (dealings : List Dealing) (payment : PaymentProvider)
    (request : Http.Request) (now : Instant) {order : Order} {credit : Credit}
    (genuine : payment.paid request.headers request.body = some order)
    (payable : shop.creditOf? order = some credit) :
    ∃ store answer later, Dealing.run shop (.store .empty) dealings = .store store ∧
      shop.notify payment request now (.store store) = (answer, .store later) ∧
      (answer = some Shop.success ↔
        Ticket.chainedExpiry ((store.newest? credit.token).map (·.expires)) credit.bytes now ≤
          Instant.last) ∧
      (answer ≠ some Shop.success → answer = none ∧ later = store) ∧
      ∀ clock, now ≤ clock →
        (∀ ticket ∈ store.ticketsOf credit.token, ticket.created ≤ clock) →
        clock + Ticket.lifetimes (store.ticketsOf credit.token) + Ticket.lifetime credit.bytes ≤
          Instant.last →
        answer = some Shop.success := by
  obtain ⟨operations, reached⟩ := Dealing.exists_operations shop dealings .empty
  have chained := Store.expiriesChained_run Store.expiriesChained_empty operations
  generalize Store.empty.run operations = store at reached chained
  obtain ⟨answer, later, credited, answered_iff, otherwise⟩ :=
    Shop.credit_answered_iff payable now store
  have notified := (Shop.notify_of_genuine genuine now (.store store)).trans credited
  refine ⟨store, answer, later, reached, notified, answered_iff, otherwise, ?_⟩
  intro clock now_le created_le room
  exact answered_iff.mpr (Int.le_trans (chained.chainedExpiry_le _ now_le created_le) room)

open Shop

/-- The ticket of `tok` that an amount in whole yuan buys. -/
def boughtTicket (yuan : Int) : Ticket :=
  (⟨"tok", yuan * Ticket.bytesPerPeriod, "tok@1", ""⟩ : Credit).ticket 1 mayMorning
    (mayMorning + Ticket.lifetime (yuan * Ticket.bytesPerPeriod))

/-- A paid order of one yuan that is notified again is answered with success again. -/
theorem one_yuan_answered_twice :
    ∃ store later,
      Dealing.run namingShop (.store .empty) [paymentOf "tok@1" "1.00" ""] = .store store ∧
      store.Knows "tok@1" ∧
      namingShop.notify namingProvider (amountPaid "tok@1" "1.00" "") mayMorning (.store store) =
        (some success, .store later) := by
  have once : Dealing.run namingShop (.store .empty) [paymentOf "tok@1" "1.00" ""] =
      .store ⟨[boughtTicket 1], 2⟩ := by
    decide +kernel
  obtain ⟨store, answer, later, reached, notified, -, -, answered⟩ :=
    payment_answered_iff namingShop [paymentOf "tok@1" "1.00" ""] namingProvider
      (amountPaid "tok@1" "1.00" "") mayMorning
      (show _ = some ⟨"tok@1", "1.00", ""⟩ by decide +kernel)
      (show _ = some ⟨"tok", Ticket.bytesPerPeriod, "tok@1", ""⟩ by decide +kernel)
  obtain rfl := Ledger.store.inj (once.symm.trans reached)
  have success_eq : answer = some success := by
    apply answered mayMorning (Int.le_refl _)
    · rintro ticket mem
      obtain rfl := List.mem_singleton.mp mem
      exact Int.le_refl _
    · decide +kernel
  subst success_eq
  exact ⟨_, later, once, ⟨boughtTicket 1, List.mem_singleton_self _, rfl⟩, notified⟩

/-- Two million yuan are credited, and when the notification comes again nothing is answered. Eighty
million are not even answered the first time. -/
theorem two_million_yuan_not_answered_twice :
    namingShop.creditOf? ⟨"tok@1", "2000000.00", ""⟩ =
      some ⟨"tok", 2000000 * Ticket.bytesPerPeriod, "tok@1", ""⟩ ∧
    namingShop.notify namingProvider (amountPaid "tok@1" "2000000.00" "") mayMorning
      (.store .empty) = (some success, .store ⟨[boughtTicket 2000000], 2⟩) ∧
    namingShop.notify namingProvider (amountPaid "tok@1" "2000000.00" "") mayMorning
      (.store ⟨[boughtTicket 2000000], 2⟩) = (none, .store ⟨[boughtTicket 2000000], 2⟩) ∧
    namingShop.creditOf? ⟨"tok@1", "80000000.00", ""⟩ =
      some ⟨"tok", 80000000 * Ticket.bytesPerPeriod, "tok@1", ""⟩ ∧
    namingShop.notify namingProvider (amountPaid "tok@1" "80000000.00" "") mayMorning
      (.store .empty) = (none, .store .empty) := by
  refine ⟨?_, ?_, ?_, ?_, ?_⟩
  · decide +kernel
  · decide +kernel
  · decide +kernel
  · decide +kernel
  · decide +kernel

end Tickets

end Tollgate
