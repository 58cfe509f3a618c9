import Tollgate.Proofs.Tickets.AmountText
import Tollgate.Proofs.Tickets.Sales

/-!
# The largest payable amount

What an amount buys is counted in hundredths of a byte first, and these have to fit into 64 bits. So
the limit is a hundredth of what could be counted: of the amounts beyond it, those whose bytes would
have fitted are refused as well. A purchase is offered at any amount, and one beyond the limit is
paid for and then refused.
-/

namespace Tollgate.Tickets

variable {price cents : Int}

/-- The hundredths of a byte that an amount is worth, counted exactly. -/
def hundredthsWorth (price cents : Int) : Int := cents * price * bytesPerMib

/-- The whole bytes that an amount is worth, counted exactly. -/
def bytesWorth (price cents : Int) : Int := hundredthsWorth price cents / 100

/-- The bytes that an amount is worth, if there are 64-bit numbers for them. -/
def countable? (price cents : Int) : Option Int :=
  if bytesWorth price cents ≤ Text.maxInt64 then some (bytesWorth price cents) else none

/-- Worth is counted up from nothing: at any price, a cent is worth more hundredths than one. -/
theorem le_hundredthsWorth (priced : 0 < price) (paid : 0 ≤ cents) :
    cents ≤ cents * price ∧ cents * price ≤ hundredthsWorth price cents := by
  have times_price : cents ≤ cents * price := le_mul_of_one_le_right paid priced
  refine ⟨times_price, ?_⟩
  simp only [hundredthsWorth, bytesPerMib]
  omega

/-- An amount buys what it is worth if its hundredths have 64 bits. -/
theorem creditBytes_eq (priced : 0 < price) (paid : 0 ≤ cents) :
    creditBytes price cents =
      if hundredthsWorth price cents ≤ Text.maxInt64 then some (bytesWorth price cents)
      else none := by
  obtain ⟨times_price, times_mib⟩ := le_hundredthsWorth priced paid
  have nonneg : 0 ≤ hundredthsWorth price cents := by omega
  have divided : (hundredthsWorth price cents).tdiv 100 = bytesWorth price cents :=
    Int.tdiv_eq_ediv_of_nonneg nonneg
  apply Option.ext
  intro bytes
  rw [creditBytes_eq_some_iff, Option.ite_none_right_eq_some, Option.some.injEq,
    ← hundredthsWorth, divided]
  simp only [Text.fitsInt64_iff, Text.minInt64]
  constructor
  · rintro ⟨-, fits, bought⟩
    exact ⟨fits.2, bought⟩
  · rintro ⟨fits, bought⟩
    omega

/-- Beyond the limit are amounts that are refused although their bytes could be counted. -/
theorem creditBytes_eq_countable?_iff (priced : 0 < price) (paid : 0 ≤ cents) :
    creditBytes price cents = countable? price cents ↔
      (bytesWorth price cents ≤ Text.maxInt64 → hundredthsWorth price cents ≤ Text.maxInt64) := by
  obtain ⟨times_price, times_mib⟩ := le_hundredthsWorth priced paid
  have fewer : bytesWorth price cents ≤ hundredthsWorth price cents := by
    simp only [bytesWorth]
    omega
  rw [creditBytes_eq priced paid, countable?]
  by_cases within : hundredthsWorth price cents ≤ Text.maxInt64
  · rw [if_pos within, if_pos (Int.le_trans fewer within)]
    simp [within]
  · rw [if_neg within]
    simp [within]

/-! ## Orders -/

namespace Shop

/-- The answer to a notification of an amount that cannot be credited. -/
def invalidAmount : Http.Response := ⟨400, [], Octets.ofText "invalid amount"⟩

/-- That is the answer only where nothing can be credited. -/
theorem credit_eq_invalidAmount_iff (shop : Shop) (order : Order) (now : Instant)
    (ledger : Ledger) :
    (shop.credit order now ledger).1 = some invalidAmount ↔
      (parseCents order.amount).bind (creditBytes shop.mibPerYuan) = none := by
  constructor
  · intro refused
    unfold credit at refused
    split at refused
    next unpayable => exact unpayable
    next =>
      have status := congrArg (Option.map Http.Response.status) refused
      split at status
      next => exact absurd (Option.some.inj status) (by decide)
      next => cases status
      next => exact absurd (Option.some.inj status) (by decide)
  · intro unpayable
    simp only [credit, unpayable]
    rfl

/-- The amount of a purchase is read back from its order, and buys what that many cents do. -/
theorem credit_formatCents_eq_none_iff (priced : 0 < price) (paid : 0 ≤ cents) :
    (parseCents (formatCents cents)).bind (creditBytes price) = none ↔
      Text.maxInt64 < hundredthsWorth price cents := by
  obtain ⟨times_price, times_mib⟩ := le_hundredthsWorth priced paid
  obtain ⟨n, rfl⟩ := Int.eq_ofNat_of_zero_le paid
  rw [(spellsCents_formatCents n).parseCents_eq, checked]
  by_cases fits : Text.fitsInt64 n = true
  · rw [if_pos fits, Option.bind_some, creditBytes_eq priced paid]
    simp
  · rw [if_neg fits, Option.bind_none]
    simp only [Text.fitsInt64_iff, Text.minInt64] at fits
    simp only [true_iff]
    omega

/-- The order of a sale, once it is paid, is refused exactly if its hundredths have more than 64
bits. -/
theorem notify_eq_invalidAmount_iff (shop : Shop) (priced : 0 < shop.mibPerYuan) (sale : Sale)
    (notice : Notification) (ordered : notice.order.amount = sale.order.amount) (ledger : Ledger) :
    (shop.notify notice.payment notice.request notice.now ledger).1 = some invalidAmount ↔
      Text.maxInt64 < hundredthsWorth shop.mibPerYuan sale.purchase.cents := by
  obtain ⟨purchase, code, read, enough, order_eq, -⟩ := offered_of_status_eq_200 sale.sold sale.ok
  obtain rfl := Except.ok.inj (sale.read.symm.trans read)
  have paid : 0 ≤ sale.purchase.cents := Int.le_trans (by decide) enough
  rw [order_eq] at ordered
  rw [notify_of_genuine notice.genuine, credit_eq_invalidAmount_iff, ordered]
  exact credit_formatCents_eq_none_iff priced paid

/-- At a price, an amount buys exactly the bytes that it is worth if their hundredths have 64 bits,
and nothing otherwise. Where that differs from what could be counted, the bytes have 64 bits and
the hundredths have not. The order of a sale is refused in just these cases, whoever paid it. -/
theorem worth_credited_iff (shop : Shop) (priced : 0 < shop.mibPerYuan) :
    (∀ cents, 0 ≤ cents → creditBytes shop.mibPerYuan cents =
      if hundredthsWorth shop.mibPerYuan cents ≤ Text.maxInt64 then
        some (bytesWorth shop.mibPerYuan cents)
      else none) ∧
    (∀ cents, 0 ≤ cents →
      (creditBytes shop.mibPerYuan cents = countable? shop.mibPerYuan cents ↔
        (bytesWorth shop.mibPerYuan cents ≤ Text.maxInt64 →
          hundredthsWorth shop.mibPerYuan cents ≤ Text.maxInt64))) ∧
    ∀ (sale : Sale) (notice : Notification) (ledger : Ledger),
      notice.order.amount = sale.order.amount →
      ((shop.notify notice.payment notice.request notice.now ledger).1 = some invalidAmount ↔
        Text.maxInt64 < hundredthsWorth shop.mibPerYuan sale.purchase.cents) := by
  refine ⟨?_, ?_, ?_⟩
  · exact fun cents paid => creditBytes_eq priced paid
  · exact fun cents paid => creditBytes_eq_countable?_iff priced paid
  · exact fun sale notice ledger ordered =>
      notify_eq_invalidAmount_iff shop priced sale notice ordered ledger

/-- The greatest amount that buys something where a yuan buys a GiB, and one yuan of an order that
is credited. -/
theorem credited_up_to_the_limit :
    0 < namingShop.mibPerYuan ∧
    creditBytes namingShop.mibPerYuan 8589934591 = some 92233720357810339 ∧
    (namingShop.notify noticeOfTen.payment noticeOfTen.request noticeOfTen.now (.store .empty)).1 ≠
      some invalidAmount := by
  have priced : 0 < namingShop.mibPerYuan := by decide
  obtain ⟨bought, -, sold⟩ := worth_credited_iff namingShop priced
  refine ⟨priced, bought 8589934591 (by decide), ?_⟩
  intro refused
  exact absurd ((sold saleAtTen noticeOfTen _ rfl).mp refused) (by decide)

/-- One cent more is offered and paid, and then refused. Its bytes have 64 bits. -/
theorem refused_beyond_the_limit :
    (∃ receipt, buy namingProvider
        (posted (some "buy") "\x7b\"token\":\"a\",\"cents\":8589934592\x7d") [] mayMorning =
      (.ofType "application/json" 200 receipt,
        some (⟨"a@2024-05-01T10:00:00Z", "85899345.92", ""⟩, "https:///ticket/"))) ∧
    namingShop.notify namingProvider (amountPaid "a@2024-05-01T10:00:00Z" "85899345.92" "T")
        mayMorning (.store .empty) =
      (some invalidAmount, .store .empty) ∧
    creditBytes namingShop.mibPerYuan 8589934592 = none ∧
    bytesWorth namingShop.mibPerYuan 8589934592 = 92233720368547758 ∧
    (92233720368547758 : Int) ≤ Text.maxInt64 := by
  refine ⟨⟨_, rfl⟩, ?_, ?_, ?_, ?_⟩
  · decide +kernel
  · decide +kernel
  · decide +kernel
  · decide +kernel

end Shop

end Tollgate.Tickets
