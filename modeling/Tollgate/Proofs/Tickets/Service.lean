import Tollgate.Proofs.Tickets.Amount
import Tollgate.Proofs.Tickets.Purchase

/-!
# Payments and service

A token is served while its newest ticket has bytes left, so the ticket that a payment adds decides
alone, whatever is left on older ones. A payment of a positive amount adds a positive ticket, and
the token is served. An amount of nothing, or one whose cents are negative, can be read and credited
as well. Its ticket has no bytes, and the token is cut off although it paid for others.
-/

namespace Tollgate

namespace Store

/-- A ticket that is added is the newest one of its token, and of no other. -/
theorem newest?_add (token : String) (store : Store) (ticket : Ticket) (nextId : Nat) :
    newest? token ⟨store.tickets ++ [ticket], nextId⟩ =
      if ticket.token = token then some ticket else store.newest? token := by
  by_cases own : ticket.token = token
  · simp [newest?, ticketsOf, own]
  · simp [newest?, ticketsOf, own]

/-- A token that is served is cut off by an added ticket exactly if that is its own and has no
bytes. -/
theorem isActive_add_eq_false_iff {token : String} {clock : Instant} {store : Store}
    {ticket : Ticket} (nextId : Nat)
    (served : (Ledger.store store).isActive token clock = .ok true) :
    (Ledger.store ⟨store.tickets ++ [ticket], nextId⟩).isActive token clock = .ok false ↔
      ticket.token = token ∧ ticket.bytes ≤ 0 := by
  rw [Ledger.isActive_store] at served ⊢
  rw [newest?_add]
  by_cases own : ticket.token = token
  · simp [own]
  · simp [own, served]

/-- Without a new ticket no token is cut off. -/
theorem isActive_ne_false {token : String} {clock : Instant} {store later : Store}
    (same : later.tickets = store.tickets)
    (served : (Ledger.store store).isActive token clock = .ok true) :
    (Ledger.store later).isActive token clock ≠ .ok false := by
  rw [Ledger.isActive_store] at served ⊢
  rw [newest?, ticketsOf, same]
  intro cut
  cases served.symm.trans cut

end Store

namespace Tickets.Shop

variable {shop : Shop} {order : Order} {now : Instant} {store : Store}

/-- The bytes of a credit are positive exactly if the amount is. -/
theorem bytes_pos_iff {credit : Credit} (priced : 0 < shop.mibPerYuan)
    (payable : shop.creditOf? order = some credit) :
    0 < credit.bytes ↔ ∃ cents, parseCents order.amount = some cents ∧ 0 < cents := by
  obtain ⟨bytes, read, rfl⟩ := Option.map_eq_some_iff.mp payable
  obtain ⟨cents, parsed, bought⟩ := Option.bind_eq_some_iff.mp read
  rw [creditBytes_pos_iff priced bought]
  constructor
  · intro positive
    exact ⟨cents, parsed, positive⟩
  · rintro ⟨same, parsed_same, positive⟩
    rw [parsed] at parsed_same
    rwa [Option.some.inj parsed_same]

/-- What a genuine notification does to the service of tokens, at any price. The ticket that it adds
has bytes exactly if the amount is positive. A token that was served is cut off by it exactly if the
notification is the first one of an order of that token, is answered with success, and the amount is
not positive. -/
theorem payment_ends_service_iff (shop : Shop) (payment : PaymentProvider)
    (request : Http.Request) (now : Instant) (store : Store) {order : Order}
    (priced : 0 < shop.mibPerYuan)
    (genuine : payment.paid request.headers request.body = some order) :
    ∃ answer later, shop.notify payment request now (.store store) = (answer, .store later) ∧
      (∀ ticket, answer = some success → later.tickets = store.tickets ++ [ticket] →
        (0 < ticket.total ↔ ∃ cents, parseCents order.amount = some cents ∧ 0 < cents)) ∧
      ∀ token clock, (Ledger.store store).isActive token clock = .ok true →
        ((Ledger.store later).isActive token clock = .ok false ↔
          token = Order.tokenOf order.number ∧ ¬ store.Knows order.number ∧
            answer = some success ∧
            ¬ ∃ cents, parseCents order.amount = some cents ∧ 0 < cents) := by
  rw [notify_of_genuine genuine]
  cases payable : shop.creditOf? order with
  | none =>
      rw [credit_of_unpayable payable]
      refine ⟨_, store, rfl, nofun, ?_⟩
      intro token clock served
      refine iff_of_false (Store.isActive_ne_false rfl served) ?_
      rintro ⟨-, -, answered, -⟩
      cases answered
  | some credit =>
      obtain ⟨token_eq, number_eq⟩ := token_of_creditOf? payable
      rw [← bytes_pos_iff priced payable, ← token_eq, ← number_eq]
      have ending := paid payable now store
      generalize shop.credit order now (.store store) = result at ending
      cases ending with
      | dateless noDate =>
          refine ⟨none, store, rfl, nofun, ?_⟩
          intro token clock served
          refine iff_of_false (Store.isActive_ne_false rfl served) ?_
          rintro ⟨-, -, answered, -⟩
          cases answered
      | repeated known =>
          refine ⟨some success, _, rfl, ?_, ?_⟩
          · intro ticket _ added
            exact absurd added (by simp)
          · intro token clock served
            refine iff_of_false (Store.isActive_ne_false rfl served) ?_
            rintro ⟨-, unknown, -⟩
            exact unknown known
      | added dated unknown =>
          refine ⟨some success, _, rfl, ?_, ?_⟩
          · intro ticket _ added
            obtain rfl : credit.ticket _ _ _ = ticket :=
              List.singleton_inj.mp (List.append_cancel_left added)
            rfl
          · intro token clock served
            rw [Store.isActive_add_eq_false_iff _ served]
            constructor
            · rintro ⟨own, spent⟩
              exact ⟨own.symm, unknown, rfl, Int.not_lt.mpr spent⟩
            · rintro ⟨own, -, -, spent⟩
              exact ⟨own.symm, Int.not_lt.mp spent⟩

/-- A store in which the token `tok` has one GiB left. -/
def oneGibLeft : Store := ⟨[oneYuanTicket "tok" "seed"], 2⟩

/-- One yuan more keeps `tok` served: its notification adds a ticket with bytes. -/
theorem one_yuan_keeps_tok_served :
    0 < namingShop.mibPerYuan ∧
    (Ledger.store oneGibLeft).isActive "tok" mayMorning = .ok true ∧
    ∃ answer later,
      namingShop.notify namingProvider (amountPaid "tok@1" "1.00" "") mayMorning
        (.store oneGibLeft) = (answer, .store later) ∧
      (Ledger.store later).isActive "tok" mayMorning ≠ .ok false := by
  have served : (Ledger.store oneGibLeft).isActive "tok" mayMorning = .ok true := by
    decide +kernel
  refine ⟨by decide, served, ?_⟩
  obtain ⟨answer, later, notified, -, ends_iff⟩ := payment_ends_service_iff namingShop
    namingProvider (amountPaid "tok@1" "1.00" "") mayMorning oneGibLeft (by decide)
    (show _ = some ⟨"tok@1", "1.00", ""⟩ by decide +kernel)
  refine ⟨answer, later, notified, ?_⟩
  intro cut
  obtain ⟨-, -, -, nothing⟩ := (ends_iff "tok" mayMorning served).mp cut
  exact nothing ⟨100, by decide +kernel, by decide⟩

/-- The ticket that a payment for `tok` adds behind its GiB. -/
def secondTicket (bytes : Int) : Ticket :=
  (⟨"tok", bytes, "tok@1", ""⟩ : Credit).ticket 2 mayMorning (mayMorning + 2 * Ticket.lifetime 0)

/-- A payment of nothing, and one of a cent less than nothing, are answered with success and cut off
the token that they are for. -/
theorem payment_of_nothing_ends_service :
    (Ledger.store oneGibLeft).isActive "tok" mayMorning = .ok true ∧
    namingShop.notify namingProvider (amountPaid "tok@1" "0.00" "") mayMorning (.store oneGibLeft) =
      (some success, .store ⟨[oneYuanTicket "tok" "seed", secondTicket 0], 3⟩) ∧
    (Ledger.store ⟨[oneYuanTicket "tok" "seed", secondTicket 0], 3⟩).isActive "tok" mayMorning =
      .ok false ∧
    namingShop.notify namingProvider (amountPaid "tok@1" "0.-1" "") mayMorning (.store oneGibLeft) =
      (some success, .store ⟨[oneYuanTicket "tok" "seed", secondTicket (-10737418)], 3⟩) ∧
    (Ledger.store ⟨[oneYuanTicket "tok" "seed", secondTicket (-10737418)], 3⟩).isActive "tok"
      mayMorning = .ok false := by
  refine ⟨?_, ?_, ?_, ?_, ?_⟩
  · decide +kernel
  · decide +kernel
  · decide +kernel
  · decide +kernel
  · decide +kernel

end Tickets.Shop

end Tollgate
