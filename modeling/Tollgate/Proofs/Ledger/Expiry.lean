import Tollgate.Proofs.Ledger.Run
import Mathlib.Data.List.Induction

/-!
# Chains of expiries

A token's tickets form a chain: each of them expires one lifetime after it was created or after the
ticket before it expires, whichever is later. The chain is a function of what was credited and when,
so debits do not appear in it, and it needs no assumption on the clock.

Lifetimes are positive, so the expiries of one token ascend strictly with the order of creation.
-/

namespace Tollgate

namespace Ticket

theorem lifetime_pos (bytes : Int) : 0 < lifetime bytes := by
  have periods : (1 : Int) ≤ max 1 (bytes.tdiv bytesPerPeriod) := Int.le_max_left _ _
  simp only [lifetime, lifetimeDays, daysPerPeriod, Instant.perDay]
  omega

/-- When a ticket expires that is created now, after one that expires at `latest`. -/
def chainedExpiry (latest : Option Instant) (bytes : Int) (now : Instant) : Instant :=
  latest.elim now (max · now) + lifetime bytes

/-- A new ticket's time starts at the later one of now and the latest expiry. -/
theorem expiry?_eq (latest : Option Instant) (bytes : Int) (now : Instant) :
    expiry? latest bytes now =
      if Text.fitsInt64 (lifetime bytes) = true ∧ chainedExpiry latest bytes now ≤ Instant.last then
        some (chainedExpiry latest bytes now)
      else none := by
  have later_eq : ∀ before : Instant,
      (if now < before then before else now) = max before now := by
    intro before
    by_cases running : now < before
    · rw [if_pos running, Int.max_eq_left (Int.le_of_lt running)]
    · rw [if_neg running, Int.max_eq_right (Int.not_lt.mp running)]
  by_cases fits : Text.fitsInt64 (lifetime bytes) = true
  · have granted : lifetime? bytes = some (lifetime bytes) := by
      simp [lifetime?, Option.filter, fits]
    cases latest with
    | none => simp [expiry?, granted, chainedExpiry, fits]
    | some before => simp [expiry?, granted, chainedExpiry, fits, later_eq]
  · have refused : lifetime? bytes = none := by simp [lifetime?, Option.filter, fits]
    simp [expiry?, refused, fits]

/-- An expiry is the one of the chain. It has a date if the lifetime has 64 bits and the calendar
does not end before. -/
theorem expiry?_eq_some_iff {latest : Option Instant} {bytes : Int} {now expires : Instant} :
    expiry? latest bytes now = some expires ↔
      Text.fitsInt64 (lifetime bytes) = true ∧ chainedExpiry latest bytes now = expires ∧
        expires ≤ Instant.last := by
  rw [expiry?_eq, Option.ite_none_right_eq_some, Option.some.injEq]
  constructor
  · rintro ⟨⟨fits, dated⟩, rfl⟩
    exact ⟨fits, rfl, dated⟩
  · rintro ⟨fits, rfl, dated⟩
    exact ⟨⟨fits, dated⟩, rfl⟩

theorem expiry?_eq_some {latest : Option Instant} {bytes : Int} {now expires : Instant}
    (h : expiry? latest bytes now = some expires) : expires = chainedExpiry latest bytes now :=
  (expiry?_eq_some_iff.mp h).2.1.symm

theorem lt_chainedExpiry (latest : Option Instant) (bytes : Int) (now : Instant) :
    ∀ before ∈ latest, before < chainedExpiry latest bytes now := by
  rintro before rfl
  exact Int.lt_of_le_of_lt (Int.le_max_left before now)
    (Int.lt_add_of_pos_right _ (lifetime_pos bytes))

/-- Each ticket expires where the chain of those before it says. -/
def Chained : Option Instant → List Ticket → Prop
  | _, [] => True
  | latest, ticket :: rest =>
    ticket.expires = chainedExpiry latest ticket.total ticket.created ∧
      Chained (some ticket.expires) rest

theorem chained_concat {latest : Option Instant} {tickets : List Ticket} {ticket : Ticket} :
    Chained latest (tickets ++ [ticket]) ↔
      Chained latest tickets ∧
        ticket.expires = chainedExpiry ((tickets.getLast?.map (·.expires)).or latest)
          ticket.total ticket.created := by
  induction tickets generalizing latest with
  | nil => simp [Chained]
  | cons first rest ih =>
      rw [List.cons_append, Chained, ih, Chained, and_assoc]
      cases rest using List.reverseRecOn <;> simp [List.getLast?_cons]

theorem Chained.ascend {latest : Option Instant} {tickets : List Ticket}
    (h : Chained latest tickets) :
    (∀ before ∈ latest, ∀ ticket ∈ tickets, before < ticket.expires) ∧
      tickets.Pairwise fun older newer => older.expires < newer.expires := by
  induction tickets generalizing latest with
  | nil => exact ⟨by simp, List.Pairwise.nil⟩
  | cons first rest ih =>
      obtain ⟨expires_eq, chained⟩ := h
      obtain ⟨above, ascend⟩ := ih chained
      have start : ∀ before ∈ latest, before < first.expires := by
        rw [expires_eq]
        exact lt_chainedExpiry latest first.total first.created
      have after_first : ∀ ticket ∈ rest, first.expires < ticket.expires := above _ rfl
      refine ⟨?_, List.Pairwise.cons after_first ascend⟩
      intro before known ticket mem
      rcases List.mem_cons.mp mem with rfl | later
      · exact start before known
      · exact Int.lt_trans (start before known) (after_first ticket later)

/-- A chain depends on no more than what was credited, when, and until when. -/
theorem Chained.congr {latest : Option Instant} {first second : List Ticket}
    (h : Chained latest first)
    (same : second.map (fun ticket => (ticket.created, ticket.total, ticket.expires)) =
      first.map fun ticket => (ticket.created, ticket.total, ticket.expires)) :
    Chained latest second := by
  induction first generalizing latest second with
  | nil =>
      rw [List.map_eq_nil_iff.mp same]
      trivial
  | cons ticket rest ih =>
      cases second with
      | nil => cases same
      | cons other others =>
          simp only [List.map_cons, List.cons.injEq, Prod.mk.injEq] at same
          obtain ⟨⟨created, total, expires⟩, same_rest⟩ := same
          obtain ⟨expires_eq, chained⟩ := h
          refine ⟨?_, ?_⟩
          · rw [created, total, expires, expires_eq]
          · rw [expires]
            exact ih chained same_rest

end Ticket

namespace Store

/-- Every token's tickets form a chain. -/
def ExpiriesChained (store : Store) : Prop :=
  ∀ token, Ticket.Chained none (store.ticketsOf token)

theorem expiriesChained_empty : Store.empty.ExpiriesChained := fun _ => trivial

theorem ExpiriesChained.add {store : Store} (h : store.ExpiriesChained) {credit : Credit}
    {now expires : Instant} {nextId : Nat}
    (dated : store.creditExpiry? credit now = some expires) :
    ExpiriesChained ⟨store.tickets ++ [credit.ticket store.nextId now expires], nextId⟩ := by
  intro token
  have same : (credit.ticket store.nextId now expires).token = credit.token := rfl
  by_cases own : credit.token = token
  · have extended : ticketsOf token
        ⟨store.tickets ++ [credit.ticket store.nextId now expires], nextId⟩ =
          store.ticketsOf token ++ [credit.ticket store.nextId now expires] := by
      simp [ticketsOf, same, own]
    rw [extended, Ticket.chained_concat]
    refine ⟨h token, ?_⟩
    subst own
    rw [Option.or_none]
    exact Ticket.expiry?_eq_some dated
  · have kept : ticketsOf token
        ⟨store.tickets ++ [credit.ticket store.nextId now expires], nextId⟩ =
          store.ticketsOf token := by
      simp [ticketsOf, same, own]
    rw [kept]
    exact h token

theorem Step.expiriesChained {operation : LedgerOperation} {outcome : Except LedgerError Unit}
    {store later : Store} (step : Step store operation outcome later)
    (h : store.ExpiriesChained) : later.ExpiriesChained := by
  cases step with
  | outOfRange => exact h
  | repeated => exact h
  | added dated => exact h.add dated
  | free => exact h
  | refused => exact h
  | settled _ debit =>
      intro token
      exact (h token).congr (debit.map_filter_token_eq token _ (fun _ _ => rfl))

theorem expiriesChained_run {store : Store} (h : store.ExpiriesChained)
    (operations : List LedgerOperation) : (store.run operations).ExpiriesChained :=
  run_induction (fun operation store kept => (store.step operation).expiriesChained kept)
    h operations

/-- Whatever the clock did, the expiries of a token ascend with the order of creation. -/
theorem ExpiriesChained.ascend {store : Store} (h : store.ExpiriesChained) (token : String) :
    (store.ticketsOf token).Pairwise fun older newer => older.expires < newer.expires :=
  (h token).ascend.2

end Store

end Tollgate
