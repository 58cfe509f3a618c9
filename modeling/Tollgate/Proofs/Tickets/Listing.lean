import Tollgate.Proofs.Dns.TokenPath
import Tollgate.Proofs.Ledger.Run
import Tollgate.Tickets.Shop

/-!
# The tickets that a path shows

The same segment names a token behind `/dns/` and behind `/ticket/`. Queries are served for what the
segment stands for, but the shop lists the tickets of the segment itself. These are one token as
long as the segment stands for itself.
-/

namespace Tollgate

theorem Json.array_singleton_ne {value : String} (nonempty : value ≠ "") :
    array [value] ≠ array [] := by
  intro same
  have lengths := congrArg (·.toList.length) same
  simp [array] at lengths
  exact nonempty lengths

theorem Ticket.json_ne_empty (ticket : Ticket) : ticket.json ≠ "" := by
  rw [json, Json.object]
  simp

namespace Tickets.Shop

open Text.Percent (meaning IsLiteral)

variable {segment token other : String} {now : Instant}

theorem tokenOfPath_of_segment (whole : '/' ∉ segment.toList) :
    tokenOfPath (path ++ segment) = segment := by
  rw [tokenOfPath, String.toList_append, Text.dropStart?_append, Option.getD_some,
    Text.dropEndWhile_eq_self whole, String.ofList_toList]

/-- The store after the first purchase of a token. -/
def firstPurchase (token : String) : Store :=
  Store.empty.run [.create ⟨token, 1, "first", ""⟩ 0]

theorem list_of_nonempty (nonempty : token ≠ "") (now : Instant) (store : Store) :
    list token now (.store store) =
      .ofType "application/json" 200
        (Octets.ofText (Json.array ((store.list token listLimit).map Ticket.json))) := by
  rw [list, if_neg (by simpa using nonempty)]
  rfl

theorem firstPurchase_tickets (token : String) :
    ∃ ticket, (firstPurchase token).tickets = [ticket] ∧ ticket.token = token :=
  ⟨_, rfl, rfl⟩

theorem list_firstPurchase_of_ne (different : token ≠ other) :
    (firstPurchase token).list other listLimit = [] := by
  obtain ⟨ticket, tickets_eq, rfl⟩ := firstPurchase_tickets token
  simp [Store.list, Store.ticketsOf, tickets_eq, different]

theorem list_firstPurchase_self (token : String) :
    ∃ ticket, (firstPurchase token).list token listLimit = [ticket] := by
  obtain ⟨ticket, tickets_eq, rfl⟩ := firstPurchase_tickets token
  refine ⟨ticket, ?_⟩
  simp [Store.list, Store.ticketsOf, tickets_eq, listLimit]

/-- The tickets of two tokens are told apart where only one of them has bought any. -/
theorem list_ne_of_firstPurchase (different : token ≠ other) (now : Instant) :
    list other now (.store (firstPurchase token)) ≠
      list token now (.store (firstPurchase token)) := by
  intro same
  by_cases otherMissing : other = ""
  · subst otherMissing
    have statuses := congrArg Http.Response.status same
    rw [list_of_nonempty different] at statuses
    cases statuses
  · rw [list_of_nonempty otherMissing, list_firstPurchase_of_ne different] at same
    by_cases missing : token = ""
    · subst missing
      cases congrArg Http.Response.status same
    · obtain ⟨ticket, shown⟩ := list_firstPurchase_self token
      rw [list_of_nonempty missing, shown] at same
      have bodies := Octets.ofText_inj.mp (congrArg Http.Response.body same)
      exact Json.array_singleton_ne ticket.json_ne_empty bodies.symm

/-- A segment behind `/dns/` always names a token, and behind `/ticket/` it always lists the tickets
of itself. These are the tickets of the token, in every ledger, exactly if the segment stands for
itself: it has no percent escape, or its escapes spell no text. -/
theorem lists_resolved_token_iff (shop : Shop) (segment : String) (query listing : Http.Request)
    (nonempty : segment ≠ "") (whole : '/' ∉ segment.toList)
    (asks : query.uri.path = Dns.Doh.tokenPath ++ segment) (gets : listing.method = "GET")
    (lists : listing.uri.path = path ++ segment) :
    ∃ token, Dns.Doh.token? query = some (some token, .path) ∧
      (∀ random now ledger, (shop.serve listing random now ledger).response =
        some (list segment now ledger)) ∧
      ((∀ random now ledger, (shop.serve listing random now ledger).response =
          some (list token now ledger)) ↔
        IsLiteral segment) := by
  have served : ∀ random now ledger, (shop.serve listing random now ledger).response =
      some (list segment now ledger) := by
    intro random now ledger
    rw [serve, gets, lists, tokenOfPath_of_segment whole]
    rfl
  refine ⟨meaning segment, ?_, served, ?_⟩
  · rw [Dns.Doh.token?_of_tokenPath asks, Dns.Doh.pathToken?_of_segment nonempty whole]
    rfl
  · constructor
    · intro agree
      by_contra escaped
      have different : meaning segment ≠ segment := mt Text.Percent.meaning_eq_self_iff.mp escaped
      have same := agree [] 0 (.store (firstPurchase (meaning segment)))
      rw [served] at same
      exact list_ne_of_firstPurchase different 0 (Option.some.inj same)
    · intro literal random now ledger
      rw [served, Text.Percent.meaning_eq_self_iff.mpr literal]

def visit (path : String) : Http.Request := ⟨"GET", ⟨none, none, path, none⟩, false, [], none, []⟩

/-- A shop where nothing can be bought. -/
def closedShop : Shop := ⟨none, 1⟩

/-- The tickets of `tok` are shown where its queries are served. -/
theorem plain_segment_lists_resolved_token :
    Dns.Doh.token? (visit "/dns/tok") = some (some "tok", .path) ∧
      ∀ random now ledger, (closedShop.serve (visit "/ticket/tok") random now ledger).response =
        some (list "tok" now ledger) := by
  have literal : IsLiteral "tok" := Text.Percent.meaning_eq_self_iff.mp (by decide +kernel)
  have named_tok : Dns.Doh.token? (visit "/dns/tok") = some (some "tok", .path) := by
    decide +kernel
  obtain ⟨token, named, -, same⟩ := lists_resolved_token_iff closedShop "tok" (visit "/dns/tok")
    (visit "/ticket/tok") (by decide) (by decide) rfl rfl rfl
  obtain rfl : "tok" = token := by simpa using named_tok.symm.trans named
  exact ⟨named_tok, same.mpr literal⟩

/-- At `%61` queries of `a` are served, but its tickets are not shown. -/
theorem escaped_segment_lists_other_token :
    Dns.Doh.token? (visit "/dns/%61") = some (some "a", .path) ∧
      (closedShop.serve (visit "/ticket/%61") [] 0 (.store (firstPurchase "a"))).response ≠
        some (list "a" 0 (.store (firstPurchase "a"))) := by
  constructor
  · decide +kernel
  · decide +kernel

end Tickets.Shop

end Tollgate
