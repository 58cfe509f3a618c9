import Tollgate.Proofs.Text.Split
import Tollgate.Proofs.Time.Calendar
import Tollgate.Tickets.Order

/-!
# Order numbers

An order number is a token, `@` and the second of the order. The second has no `@`, so the last `@`
of a number tells token and second apart, whatever the token. The token to be credited is taken from
the front instead, up to the first `@`, and this is another text for a token that has an `@` itself.
-/

namespace Tollgate

namespace Tickets.Order

variable {token : String} {now : Instant}

theorem numberFor_eq (token : String) (now : Instant) :
    numberFor token now = token ++ "@" ++ Instant.textToSeconds now := rfl

theorem toList_numberFor (token : String) (now : Instant) :
    (numberFor token now).toList =
      token.toList ++ '@' :: (Instant.textToSeconds now).toList := by
  rw [numberFor_eq, String.toList_append, String.toList_append, List.append_assoc]
  rfl

/-- An order credits the token in front of the first `@` of the buyer's token. -/
theorem tokenOf_numberFor (token : String) (now : Instant) :
    tokenOf (numberFor token now) = String.ofList (Text.before '@' token.toList) := by
  rw [tokenOf, toList_numberFor, Text.before_append]

/-- An order credits the buyer's token exactly if that has no `@`. -/
theorem tokenOf_numberFor_eq_iff :
    tokenOf (numberFor token now) = token ↔ '@' ∉ token.toList := by
  rw [tokenOf_numberFor, ← Text.before_eq_self_iff]
  constructor
  · intro same
    have chars := congrArg String.toList same
    rwa [String.toList_ofList] at chars
  · intro same
    rw [same, String.ofList_toList]

/-- Orders have the same number exactly if they are for the same token in the same second. -/
theorem numberFor_eq_iff {other : String} {later : Instant} :
    numberFor token now = numberFor other later ↔
      token = other ∧ Instant.second now = Instant.second later := by
  rw [← Instant.textToSeconds_eq_iff]
  constructor
  · intro same
    have chars := congrArg String.toList same
    rw [toList_numberFor, toList_numberFor] at chars
    have seconds : (Instant.textToSeconds now).toList = (Instant.textToSeconds later).toList := by
      rw [← Text.afterLast_append token.toList (Instant.not_mem_textToSeconds now), chars,
        Text.afterLast_append other.toList (Instant.not_mem_textToSeconds later)]
    rw [seconds] at chars
    exact ⟨String.toList_inj.mp (List.append_cancel_right chars), String.toList_inj.mp seconds⟩
  · rintro ⟨rfl, same⟩
    rw [numberFor_eq, numberFor_eq, same]

end Tickets.Order

end Tollgate
