import Tollgate.Config.Validation
import Tollgate.Proofs.Dns.Resolution

/-!
# Prices of answers

An answer of the recursor is delivered only after a debit, and the amount of that debit is the
product of its octets with a multiplier. Valid settings may have any positive multiplier and a
message may be of any length, so there are products that have more than 64 bits. The product is
checked: with each of these the call breaks off before the debit, so no answer is delivered below
its price.
-/

namespace Tollgate

/-- The resolver that a gateway with these settings runs. -/
def Config.resolverWith (config : Config) (idna : Text.Idna) (blocklist : Dns.Blocklist) :
    Dns.Resolver where
  blocklist
  relayMultiplier := config.resolver.failoverMultiplier.toInt
  idna

/-- Valid settings give no relayed query away. -/
theorem Config.relayMultiplier_pos {config : Config} (valid : config.isValid = true)
    (idna : Text.Idna) (blocklist : Dns.Blocklist) :
    0 < (config.resolverWith idna blocklist).relayMultiplier := by
  have flawless := (config.isValid_iff.mp valid) .failoverMultiplier
  simp only [Config.hasFlaw, decide_eq_false_iff_not, Int64.not_le] at flawless
  exact Int64.lt_iff_toInt_lt.mp flawless

namespace Dns

namespace Resolver

variable {resolver : Resolver} {recursor : Recursor} {query : Query} {now : Instant}
variable {ledger : Ledger} {token : String} {forwarded answer : Octets}

/-- Whatever the ledger, only the token of a query is let through. -/
theorem holder_of_authorized (served : authorize query now ledger = .ok token) :
    query.token = some token := by
  unfold authorize at served
  split at served
  next => cases served
  next holder found =>
      rw [found]
      split at served
      next => cases served
      next =>
          split at served
          next => rw [Except.ok.inj served]
          next => cases served
          next => cases served

/-- What was forwarded was planned for the token of the query. Its answer is debited, if one
comes. -/
theorem exists_settle_of_forwarded
    (sent : (resolver.resolve recursor query now ledger).forwarded = some forwarded)
    (answered : recursor forwarded = some answer) :
    ∃ token, query.token = some token ∧
      resolver.plan token query = .ok (.forward forwarded (resolver.multiplierOf query)) ∧
      resolver.resolve recursor query now ledger =
        ⟨(settle token forwarded answer (resolver.multiplierOf query) now ledger).1,
          (settle token forwarded answer (resolver.multiplierOf query) now ledger).2,
          some forwarded⟩ := by
  cases served : authorize query now ledger with
  | error error =>
      rw [resolve_of_denied _ _ served] at sent
      cases sent
  | ok token =>
      refine ⟨token, holder_of_authorized served, ?_⟩
      cases planned : resolver.plan token query with
      | error error =>
          rw [resolve_of_failed _ _ served planned] at sent
          cases sent
      | ok plan =>
          cases plan with
          | answer own =>
              rw [resolve_of_own _ _ served planned] at sent
              cases sent
          | forward query' multiplier =>
              obtain ⟨-, -, -, -, -, -, rfl⟩ := plan_eq_forward planned
              rw [resolve_of_forward _ _ served planned] at sent ⊢
              have same : query' = forwarded := by
                cases reply : recursor query' with
                | none =>
                    rw [reply] at sent
                    exact Option.some.inj sent
                | some reply' =>
                    rw [reply] at sent
                    exact Option.some.inj sent
              subst same
              rw [answered]
              exact ⟨rfl, rfl⟩

/-- Under valid settings, and whatever the ledger, an answer of the recursor is delivered only after
a debit of its octets and those of the forwarded query, times the multiplier. That amount is
positive and covers every octet. If it has more than 64 bits, there is neither an answer nor a
debit. -/
theorem delivered_pays_octets (config : Config) (idna : Text.Idna) (blocklist : Blocklist)
    (recursor : Recursor) (query : Query) (now : Instant) (ledger : Ledger) {ending : Resolution}
    {forwarded answer : Octets} (valid : config.isValid = true)
    (ends : (config.resolverWith idna blocklist).resolve recursor query now ledger = ending)
    (sent : ending.forwarded = some forwarded) (answered : recursor forwarded = some answer) :
    let octets : Int := (forwarded.length + answer.length : Nat)
    let product : Int := octets * (config.resolverWith idna blocklist).multiplierOf query
    (ending.result = .ok answer →
      ∃ token amount, query.token = some token ∧ ledger.cost token amount now = .ok ending.ledger ∧
        amount = product ∧ 0 < amount ∧ octets ≤ amount ∧ amount ≤ Text.maxInt64) ∧
    (Text.maxInt64 < product →
      ending.result = .error .priceOutOfRange ∧ ending.ledger = ledger) := by
  intro octets product
  subst ends
  have relayMultiplier_pos := Config.relayMultiplier_pos valid idna blocklist
  obtain ⟨token, holder, planned, ends⟩ := exists_settle_of_forwarded sent answered
  have multiplier_pos := multiplierOf_pos relayMultiplier_pos query
  have product_pos : 0 < product := amount_pos relayMultiplier_pos planned answer
  rw [ends]
  constructor
  · intro delivered
    unfold settle at delivered ⊢
    cases priced : price? forwarded answer
        ((config.resolverWith idna blocklist).multiplierOf query) with
    | none =>
        rw [priced] at delivered
        cases delivered
    | some amount =>
        simp only [priced] at delivered ⊢
        obtain ⟨amount_eq, fits⟩ := price?_eq_some_iff.mp priced
        cases debited : ledger.cost token amount now with
        | error reason =>
            rw [debited] at delivered
            cases delivered
        | ok later =>
            have covers : octets ≤ product :=
              le_mul_of_one_le_right (Int.natCast_nonneg _) multiplier_pos
            obtain rfl : amount = product := amount_eq
            exact ⟨token, product, holder, debited, rfl, product_pos, covers,
              (Text.fitsInt64_iff.mp fits).2⟩
  · intro long
    have unpriced : price? forwarded answer
        ((config.resolverWith idna blocklist).multiplierOf query) = none := by
      rw [Option.eq_none_iff_forall_ne_some]
      intro amount priced
      obtain ⟨amount_eq, fits⟩ := price?_eq_some_iff.mp priced
      have short := (Text.fitsInt64_iff.mp fits).2
      rw [amount_eq] at short
      exact absurd short (Int.not_le.mpr long)
    rw [settle_of_unpriced unpriced]
    exact ⟨rfl, rfl⟩

/-- A listener without encryption, and a multiplier of relayed queries. -/
def relaySettings (multiplier : Int64) : Config where
  server := { https := none, http := some ⟨.v4 0x7F000001, 8080, 0⟩ }
  resolver := { failoverMultiplier := multiplier }

/-- The resolver of a gateway with such settings. -/
def relayResolver (multiplier : Int64) : Resolver :=
  (relaySettings multiplier).resolverWith .scripts .empty

/-- With the usual multiplier, 44 octets of a relayed query cost 4400 bytes. With one of 2⁶² they
would cost more than 64 bits can count, so the query gets no answer and costs nothing. -/
theorem relayed_query_pays_octets :
    ((relaySettings 100).isValid = true ∧
      ((relayResolver 100).resolve (fun _ => some [1, 2, 3]) relayedQuery 2
        (.store fiveBytes)).result = .ok [1, 2, 3] ∧
      (Ledger.store fiveBytes).cost "a" 4400 2 =
        .ok ((relayResolver 100).resolve (fun _ => some [1, 2, 3]) relayedQuery 2
          (.store fiveBytes)).ledger) ∧
    (relaySettings 0x4000000000000000).isValid = true ∧
      ((relayResolver 0x4000000000000000).resolve (fun _ => some [1, 2, 3]) relayedQuery 2
        (.store fiveBytes)).result = .error .priceOutOfRange ∧
      ((relayResolver 0x4000000000000000).resolve (fun _ => some [1, 2, 3]) relayedQuery 2
        (.store fiveBytes)).ledger = .store fiveBytes := by
  constructor
  · have valid : (relaySettings 100).isValid = true := by decide
    have octets : ((relayResolver 100).resolve (fun _ => some [1, 2, 3]) relayedQuery 2
        (.store fiveBytes)).forwarded.map (·.length) = some 41 := by decide +kernel
    have delivered : ((relayResolver 100).resolve (fun _ => some [1, 2, 3]) relayedQuery 2
        (.store fiveBytes)).result = .ok [1, 2, 3] := by decide +kernel
    obtain ⟨forwarded, sent, length⟩ := Option.map_eq_some_iff.mp octets
    obtain ⟨token, amount, holder, debited, product, -⟩ :=
      (delivered_pays_octets (relaySettings 100) .scripts .empty (fun _ => some [1, 2, 3])
        relayedQuery 2 (.store fiveBytes) valid rfl sent rfl).1 delivered
    obtain rfl : "a" = token := Option.some.inj holder
    rw [length] at product
    rw [product] at debited
    exact ⟨valid, delivered, debited⟩
  · have valid : (relaySettings 0x4000000000000000).isValid = true := by decide
    have octets : ((relayResolver 0x4000000000000000).resolve (fun _ => some [1, 2, 3])
        relayedQuery 2 (.store fiveBytes)).forwarded.map (·.length) = some 41 := by decide +kernel
    obtain ⟨forwarded, sent, length⟩ := Option.map_eq_some_iff.mp octets
    obtain ⟨unanswered, undebited⟩ :=
      (delivered_pays_octets (relaySettings 0x4000000000000000) .scripts .empty
        (fun _ => some [1, 2, 3]) relayedQuery 2 (.store fiveBytes) valid rfl sent rfl).2 (by
          rw [length]
          decide)
    exact ⟨valid, unanswered, undebited⟩

end Resolver

end Dns

end Tollgate
