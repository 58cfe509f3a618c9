import Tollgate.Proofs.Ledger.Expiry
import Tollgate.Proofs.Ledger.Register

/-!
# Granted validity

The chain of a token's expiries, read as a recurrence: the first ticket expires one lifetime after
it was created, and each later one a lifetime after the expiry of the ticket before or after its own
creation, whichever is later. So the time that a ticket grants is added in full to what is left of
the time granted before, and nothing of it is lost as long as tickets are bought in time.

The part of a ticket that the recurrence speaks of never changes. `Store.terms` is that part of all
tickets. An operation extends it by one ticket at most, and debits and repeated pay orders leave it
as it is.
-/

namespace Tollgate

namespace Ticket

/-- The lifetime in milliseconds: thirty days for every whole GiB, and thirty days at least. -/
theorem lifetime_eq (bytes : Int) :
    lifetime bytes = 30 * 86400000 * max 1 (bytes / 1073741824) := by
  have periods : max 1 (bytes.tdiv bytesPerPeriod) = max 1 (bytes / 1073741824) := by
    change max 1 (bytes.tdiv 1073741824) = max 1 (bytes / 1073741824)
    rcases Int.le_total 0 bytes with nonneg | nonpos
    · rw [Int.tdiv_eq_ediv_of_nonneg nonneg]
    · have mirrored : 0 ≤ (-bytes).tdiv 1073741824 :=
        Int.tdiv_nonneg (Int.neg_nonneg_of_nonpos nonpos) (by decide)
      rw [Int.neg_tdiv] at mirrored
      omega
  rw [lifetime, lifetimeDays, periods]
  simp only [daysPerPeriod, Instant.perDay]
  omega

/-- A new ticket is valid for its whole lifetime after the ticket before expires. -/
theorem add_lifetime_le_chainedExpiry (before : Instant) (bytes : Int) (now : Instant) :
    before + lifetime bytes ≤ chainedExpiry (some before) bytes now :=
  Int.add_le_add_right (Int.le_max_left before now) _

/-- A ticket that is bought in time is valid no longer than that. -/
theorem chainedExpiry_of_le {before now : Instant} (inTime : now ≤ before) (bytes : Int) :
    chainedExpiry (some before) bytes now = before + lifetime bytes := by
  change max before now + lifetime bytes = before + lifetime bytes
  rw [Int.max_eq_left inTime]

/-- What a chain says about a ticket. -/
structure Term where
  id : Int
  token : String
  total : Int
  created : Instant
  expires : Instant
  deriving DecidableEq, Repr

/-- The part of a ticket that the chain of its token is made of. -/
def term (ticket : Ticket) : Term :=
  ⟨ticket.id, ticket.token, ticket.total, ticket.created, ticket.expires⟩

namespace Chained

variable {latest : Option Instant} {tickets front behind stretch : List Ticket}
variable {older newer : Ticket}

theorem expires_first (h : Chained latest tickets) {first : Ticket}
    (at_front : tickets[0]? = some first) :
    first.expires = chainedExpiry latest first.total first.created := by
  cases tickets with
  | nil => cases at_front
  | cons ticket rest =>
      obtain rfl : ticket = first := by simpa using at_front
      exact h.1

theorem expires_next (h : Chained latest tickets) {place : Nat}
    (at_place : tickets[place]? = some older) (after_place : tickets[place + 1]? = some newer) :
    newer.expires = max older.expires newer.created + lifetime newer.total := by
  induction place generalizing latest tickets with
  | zero =>
      cases tickets with
      | nil => cases at_place
      | cons ticket rest =>
          obtain rfl : ticket = older := by simpa using at_place
          exact h.2.expires_first (by simpa using after_place)
  | succ place ih =>
      cases tickets with
      | nil => cases at_place
      | cons ticket rest =>
          exact ih h.2 (by simpa using at_place) (by simpa using after_place)

theorem behind_ticket (h : Chained latest (front ++ older :: behind)) :
    Chained (some older.expires) behind := by
  induction front generalizing latest with
  | nil => exact h.2
  | cons ticket rest ih => exact ih h.2

/-- Along a chain, no granted time is lost. -/
theorem add_sum_le (h : Chained (some older.expires) (stretch ++ newer :: behind)) :
    older.expires + ((stretch ++ [newer]).map fun ticket => lifetime ticket.total).sum ≤
      newer.expires := by
  induction stretch generalizing older with
  | nil =>
      have newer_expires : newer.expires = chainedExpiry (some older.expires) _ _ := h.1
      rw [newer_expires]
      simpa using add_lifetime_le_chainedExpiry older.expires newer.total newer.created
  | cons ticket rest ih =>
      have granted : older.expires + lifetime ticket.total ≤ ticket.expires := by
        rw [h.1]
        exact add_lifetime_le_chainedExpiry older.expires ticket.total ticket.created
      rw [List.cons_append, List.map_cons, List.sum_cons, ← Int.add_assoc]
      exact Int.le_trans (Int.add_le_add_right granted _) (ih h.2)

/-- Along a chain whose tickets were bought in time, the granted times add up. -/
theorem eq_add_sum (h : Chained (some older.expires) (stretch ++ newer :: behind))
    (inTime : (older :: (stretch ++ [newer])).IsChain fun before after =>
      after.created ≤ before.expires) :
    newer.expires =
      older.expires + ((stretch ++ [newer]).map fun ticket => lifetime ticket.total).sum := by
  induction stretch generalizing older with
  | nil =>
      have newer_expires : newer.expires = chainedExpiry (some older.expires) _ _ := h.1
      have bought : newer.created ≤ older.expires := (List.isChain_cons_cons.mp inTime).1
      rw [newer_expires, chainedExpiry_of_le bought]
      simp
  | cons ticket rest ih =>
      obtain ⟨bought, inTime_rest⟩ := List.isChain_cons_cons.mp inTime
      have granted : ticket.expires = older.expires + lifetime ticket.total := by
        rw [h.1, chainedExpiry_of_le bought]
      rw [List.cons_append, List.map_cons, List.sum_cons, ← Int.add_assoc, ← granted]
      exact ih h.2 inTime_rest

end Chained

end Ticket

namespace Store

/-- What the chains of all tokens are made of. -/
def terms (store : Store) : List Ticket.Term := store.tickets.map Ticket.term

variable {operation : LedgerOperation} {outcome : Except LedgerError Unit} {store later : Store}

/-- Debits and repeated pay orders move no expiry. -/
theorem Step.terms_eq (step : Step store operation outcome later)
    (nothingNew : ∀ credit now, operation = .create credit now → store.Knows credit.payOrder) :
    later.terms = store.terms := by
  cases step with
  | outOfRange | repeated | free | refused => rfl
  | added dated unknown => exact absurd (nothingNew _ _ rfl) unknown
  | settled _ debit => exact debit.map_eq Ticket.term (fun _ _ => rfl)

theorem Step.terms_extend (step : Step store operation outcome later) :
    store.terms <+: later.terms := by
  cases step with
  | outOfRange | repeated | free | refused => exact List.prefix_rfl
  | added =>
      rw [terms, terms, List.map_append]
      exact List.prefix_append _ _
  | settled _ debit =>
      have kept := debit.map_eq Ticket.term (fun _ _ => rfl)
      simp only [terms, kept, List.prefix_rfl]

theorem terms_extend_run (store : Store) (operations : List LedgerOperation) :
    store.terms <+: (store.run operations).terms :=
  run_induction (P := fun later => store.terms <+: later.terms)
    (fun operation middle h => h.trans (middle.step operation).terms_extend) List.prefix_rfl
    operations

/-- The chain of a token's expiries after any run, whatever its clock reads. In the order of their
ids, the first ticket of a token expires one lifetime after it was created, and each later one a
lifetime after the expiry of the ticket before or its own creation, whichever is later. So expiries
ascend with ids. No later operation moves an expiry, and debits and repeated pay orders add none
either. The time granted by a stretch of tickets is never lost, and it adds up exactly if each of
them was bought by the time the ticket before expired. -/
theorem expiry_recurrence (operations : List LedgerOperation) (token : String) :
    (∀ bytes, Ticket.lifetime bytes = 30 * 86400000 * max 1 (bytes / 1073741824)) ∧
    ((Store.empty.run operations).ticketsOf token).Pairwise
      (fun older newer => older.id < newer.id ∧ older.expires < newer.expires) ∧
    (∀ first, ((Store.empty.run operations).ticketsOf token)[0]? = some first →
      first.expires = first.created + Ticket.lifetime first.total) ∧
    (∀ place older newer, ((Store.empty.run operations).ticketsOf token)[place]? = some older →
      ((Store.empty.run operations).ticketsOf token)[place + 1]? = some newer →
        newer.expires = max older.expires newer.created + Ticket.lifetime newer.total) ∧
    (∀ more, (Store.empty.run operations).terms <+:
      (Store.empty.run (operations ++ more)).terms) ∧
    (∀ operation : LedgerOperation,
      (∀ credit now, operation = .create credit now →
        (Store.empty.run operations).Knows credit.payOrder) →
      (Store.empty.run (operations ++ [operation])).terms = (Store.empty.run operations).terms) ∧
    ∀ front older stretch newer behind,
      (Store.empty.run operations).ticketsOf token =
        front ++ older :: (stretch ++ newer :: behind) →
      older.expires +
          ((stretch ++ [newer]).map fun ticket => Ticket.lifetime ticket.total).sum ≤
        newer.expires ∧
      ((older :: (stretch ++ [newer])).IsChain
          (fun before after => after.created ≤ before.expires) →
        newer.expires = older.expires +
          ((stretch ++ [newer]).map fun ticket => Ticket.lifetime ticket.total).sum) := by
  have chained := expiriesChained_run expiriesChained_empty operations
  have registered := registered_run Registered.empty operations
  refine ⟨Ticket.lifetime_eq, ?_, ?_, ?_, ?_, ?_, ?_⟩
  · have ids_ascend : ((Store.empty.run operations).ticketsOf token).Pairwise
        fun older newer => older.id < newer.id :=
      (List.pairwise_map.mp registered.ids_ascend).filter _
    exact ids_ascend.and (chained.ascend token)
  · intro first at_front
    exact (chained token).expires_first at_front
  · intro place older newer at_place after_place
    exact (chained token).expires_next at_place after_place
  · intro more
    rw [run_append]
    exact terms_extend_run (Store.empty.run operations) more
  · intro operation nothingNew
    rw [run_concat]
    exact ((Store.empty.run operations).step operation).terms_eq nothingNew
  · intro front older stretch newer behind split
    have whole : Ticket.Chained none (front ++ older :: (stretch ++ newer :: behind)) := by
      rw [← split]
      exact chained token
    exact ⟨whole.behind_ticket.add_sum_le, whole.behind_ticket.eq_add_sum⟩

end Store

end Tollgate
