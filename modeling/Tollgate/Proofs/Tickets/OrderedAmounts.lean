import Tollgate.Proofs.Tickets.CreditLimit

/-!
# Amounts on their way through the provider

A purchase counts cents, its order names them in yuan, and the payment comes back with a text for
the amount. Whatever 64 bits can count is read back from what is written for it, so the payment of
an order credits what was ordered, to the cent.
-/

namespace Tollgate.Tickets

/-- The cents of a purchase have 64 bits, as the numbers of any record have. -/
theorem Purchase.fitsInt64_cents {text : Octets} {purchase : Purchase}
    (read : ofJson text = .ok purchase) : Text.fitsInt64 purchase.cents = true := by
  unfold ofJson at read
  split at read
  next token cents values =>
    obtain rfl := Except.ok.inj read
    exact Json.fits_of_readRecord values cents (by simp)
  next => cases read
  next => cases read

/-- What is written for an amount is read back as that amount, if it has 64 bits. -/
theorem parseCents_formatCents {cents : Int} (nonneg : 0 ≤ cents)
    (fits : Text.fitsInt64 cents = true) : parseCents (formatCents cents) = some cents := by
  obtain ⟨n, rfl⟩ := Int.eq_ofNat_of_zero_le nonneg
  rw [(spellsCents_formatCents n).parseCents_eq, checked, if_pos fits]

namespace Shop

variable {shop : Shop} {payment : PaymentProvider} {request : Http.Request} {random : Octets}
variable {now : Instant} {response : Http.Response} {order : Order} {url : String}

/-- The provider is given orders of purchases alone, and the amount of each is read back. -/
theorem exists_purchase_of_order
    (sold : buy payment request random now = (response, some (order, url))) :
    ∃ purchase, Purchase.ofJson request.body = .ok purchase ∧
      parseCents order.amount = some purchase.cents := by
  have readBack : ∀ {purchase : Purchase}, Purchase.ofJson request.body = .ok purchase →
      minPurchaseCents ≤ purchase.cents →
      parseCents (purchase.order random now).amount = some purchase.cents := by
    intro purchase read enough
    exact parseCents_formatCents (Int.le_trans (by decide) enough) (Purchase.fitsInt64_cents read)
  have ending := bought payment request random now
  rw [sold] at ending
  cases ending with
  | offered read enough taken => exact ⟨_, read, readBack read enough⟩
  | declined read enough refused => exact ⟨_, read, readBack read enough⟩

/-- Every amount that is not negative and has 64 bits is read back from what is written for it. So
whatever order the provider is given, the notification of a payment of its amount is treated as one
of the cents that were bought for: it is refused if they buy nothing that can be counted, and
otherwise credits the bytes that they buy. -/
theorem ordered_cents_credited (shop : Shop) :
    (∀ cents : Int, 0 ≤ cents → cents ≤ Text.maxInt64 →
      parseCents (formatCents cents) = some cents) ∧
    ∀ (payment : PaymentProvider) (request : Http.Request) (random : Octets) (now : Instant)
      (response : Http.Response) (order : Order) (url : String),
      buy payment request random now = (response, some (order, url)) →
      ∃ purchase, Purchase.ofJson request.body = .ok purchase ∧
        parseCents order.amount = some purchase.cents ∧
        ∀ (notice : Http.Request) (paid : Order) (later : Instant),
          payment.paid notice.headers notice.body = some paid → paid.amount = order.amount →
          (creditBytes shop.mibPerYuan purchase.cents = none → ∀ ledger,
            shop.notify payment notice later ledger = (some invalidAmount, ledger)) ∧
          ∀ bytes, creditBytes shop.mibPerYuan purchase.cents = some bytes → ∀ store,
            Paid ⟨Order.tokenOf paid.number, bytes, paid.number, paid.trade⟩ later store
              (shop.notify payment notice later (.store store)) := by
  refine ⟨?_, ?_⟩
  · intro cents nonneg fits
    refine parseCents_formatCents nonneg (Text.fitsInt64_iff.mpr ⟨?_, fits⟩)
    exact Int.le_trans (by decide) nonneg
  · intro payment request random now response order url sold
    obtain ⟨purchase, read, amount_eq⟩ := exists_purchase_of_order sold
    refine ⟨purchase, read, amount_eq, ?_⟩
    intro notice paid_order later genuine same
    have credit_eq : shop.creditOf? paid_order =
        (creditBytes shop.mibPerYuan purchase.cents).map fun bytes =>
          ⟨Order.tokenOf paid_order.number, bytes, paid_order.number, paid_order.trade⟩ := by
      rw [creditOf?, same, amount_eq, Option.bind_some]
    constructor
    · intro worthless ledger
      rw [worthless, Option.map_none] at credit_eq
      rw [notify_of_genuine genuine, credit_of_unpayable credit_eq]
      rfl
    · intro bytes worth store
      rw [worth, Option.map_some] at credit_eq
      rw [notify_of_genuine genuine]
      exact paid credit_eq later store

/-- The greatest amount, and two and a half yuan for the token `tok`. -/
theorem two_and_a_half_yuan_credited :
    formatCents Text.maxInt64 = "92233720368547758.07" ∧
    parseCents "92233720368547758.07" = some Text.maxInt64 ∧
    Paid ⟨"tok", 2684354560, "tok@2024-05-01T10:00:00Z", "T"⟩ mayMorning .empty
      (namingShop.notify namingProvider
        (amountPaid "tok@2024-05-01T10:00:00Z" "2.50" "T") mayMorning (.store .empty)) := by
  have written : formatCents Text.maxInt64 = "92233720368547758.07" := by decide +kernel
  obtain ⟨readBack, credited⟩ := ordered_cents_credited namingShop
  have greatest := readBack Text.maxInt64 (by decide) (Int.le_refl _)
  rw [written] at greatest
  have sold : buy namingProvider
      (posted (some "buy") "\x7b\"token\":\"tok\",\"cents\":250\x7d") [] mayMorning =
        (.ofType "application/json" 200 (Octets.ofText
          (receipt "qr://tok@2024-05-01T10:00:00Z" "tok" "tok@2024-05-01T10:00:00Z")),
          some (⟨"tok@2024-05-01T10:00:00Z", "2.50", ""⟩, "https:///ticket/")) := by
    decide +kernel
  obtain ⟨purchase, read, -, paid⟩ := credited _ _ _ _ _ _ _ sold
  have read_too : Purchase.ofJson
      (posted (some "buy") "\x7b\"token\":\"tok\",\"cents\":250\x7d").body =
        .ok ⟨"tok", 250⟩ := by decide +kernel
  obtain rfl := Except.ok.inj (read.symm.trans read_too)
  refine ⟨written, greatest, ?_⟩
  have genuine : namingProvider.paid
      (amountPaid "tok@2024-05-01T10:00:00Z" "2.50" "T").headers
      (amountPaid "tok@2024-05-01T10:00:00Z" "2.50" "T").body =
        some ⟨"tok@2024-05-01T10:00:00Z", "2.50", "T"⟩ := by decide +kernel
  have worth : creditBytes namingShop.mibPerYuan 250 = some 2684354560 := by decide +kernel
  exact (paid _ _ mayMorning genuine rfl).2 _ worth .empty

end Shop

end Tollgate.Tickets
