import Tollgate.Proofs.Ledger.Debit

/-!
# Steps and runs of the ticket store

`Store.Step` says once what an operation can do to a store and what its caller learns: a credit is
refused, repeats a known pay order or adds a ticket; a debit is free, refused or settled. Every
invariant is a case distinction over these six steps, followed by an induction over a run.

A run keeps the store only. Its trace keeps the operations with their outcomes, so that statements
about what callers saw can be made next to statements about what is stored.
-/

namespace Tollgate

namespace LedgerOperation

/-- The token that an operation is about. -/
def token : LedgerOperation → String
  | .create credit _ => credit.token
  | .cost token _ _ => token

/-- The clock reading of an operation. -/
def time : LedgerOperation → Instant
  | .create _ now => now
  | .cost _ _ now => now

/-- What the caller of an operation learns. -/
def outcome (operation : LedgerOperation) (store : Store) : Except LedgerError Unit :=
  (operation.apply store).map fun _ => ()

end LedgerOperation

def Credit.ticket (credit : Credit) (id : Int) (now expires : Instant) : Ticket where
  id
  token := credit.token
  bytes := credit.bytes
  total := credit.bytes
  payOrder := credit.payOrder
  buyOrder := credit.buyOrder
  created := now
  updated := now
  expires

namespace Store

/-- Whether a pay order has its ticket already. -/
def Knows (payOrder : String) (store : Store) : Prop :=
  ∃ ticket ∈ store.tickets, ticket.payOrder = payOrder

/-- When a ticket that is credited now expires. -/
def creditExpiry? (credit : Credit) (now : Instant) (store : Store) : Option Instant :=
  Ticket.expiry? ((store.newest? credit.token).map (·.expires)) credit.bytes now

theorem create_of_no_expiry {credit : Credit} {now : Instant} {store : Store}
    (h : store.creditExpiry? credit now = none) :
    store.create credit now = .error .expiryOutOfRange := by
  rw [creditExpiry?] at h
  simp only [create, h]

theorem create_of_knows {credit : Credit} {now expires : Instant} {store : Store}
    (h : store.creditExpiry? credit now = some expires) (known : store.Knows credit.payOrder) :
    store.create credit now = .ok { store with nextId := store.nextId + 1 } := by
  have found : store.tickets.any (·.payOrder = credit.payOrder) = true := by
    simpa [Knows] using known
  rw [creditExpiry?] at h
  simp [create, h, found]

theorem create_of_not_knows {credit : Credit} {now expires : Instant} {store : Store}
    (h : store.creditExpiry? credit now = some expires) (unknown : ¬ store.Knows credit.payOrder) :
    store.create credit now =
      .ok ⟨store.tickets ++ [credit.ticket store.nextId now expires], store.nextId + 1⟩ := by
  have notFound : store.tickets.any (·.payOrder = credit.payOrder) = false := by
    simpa [Knows] using unknown
  rw [creditExpiry?] at h
  simp [create, h, notFound, Credit.ticket]

/-- What an operation can do: its outcome, and the store that it leaves. -/
inductive Step (store : Store) : LedgerOperation → Except LedgerError Unit → Store → Prop where
  | outOfRange {credit : Credit} {now : Instant}
      (dateless : store.creditExpiry? credit now = none) :
      Step store (.create credit now) (.error .expiryOutOfRange) store
  | repeated {credit : Credit} {now : Instant} (known : store.Knows credit.payOrder) :
      Step store (.create credit now) (.ok ()) { store with nextId := store.nextId + 1 }
  | added {credit : Credit} {now expires : Instant}
      (dated : store.creditExpiry? credit now = some expires)
      (unknown : ¬ store.Knows credit.payOrder) :
      Step store (.create credit now) (.ok ())
        ⟨store.tickets ++ [credit.ticket store.nextId now expires], store.nextId + 1⟩
  | free {token : String} {amount : Int} {now : Instant} (nonpos : amount ≤ 0) :
      Step store (.cost token amount now) (.ok ()) store
  | refused {token : String} {amount : Int} {now : Instant} (positive : 0 < amount)
      (nobody : ∀ ticket ∈ store.tickets, chargeable token now ticket = false) :
      Step store (.cost token amount now) (.error .noEntitlement) store
  | settled {token : String} {amount : Int} {now : Instant} {paid : List Ticket}
      (positive : 0 < amount) (debit : Settles token amount now store.tickets paid) :
      Step store (.cost token amount now) (.ok ()) { store with tickets := paid }

theorem step (operation : LedgerOperation) (store : Store) :
    Step store operation (operation.outcome store) (operation.after store) := by
  cases operation with
  | create credit now =>
      simp only [LedgerOperation.outcome, LedgerOperation.after, LedgerOperation.apply]
      cases dated : store.creditExpiry? credit now with
      | none =>
          rw [create_of_no_expiry dated]
          exact .outOfRange dated
      | some expires =>
          by_cases known : store.Knows credit.payOrder
          · rw [create_of_knows dated known]
            exact .repeated known
          · rw [create_of_not_knows dated known]
            exact .added dated known
  | cost token amount now =>
      simp only [LedgerOperation.outcome, LedgerOperation.after, LedgerOperation.apply]
      rcases cost_cases token amount now store with
        ⟨nonpos, eq⟩ | ⟨positive, nobody, eq⟩ | ⟨positive, anyone, eq⟩
      · rw [eq]
        exact .free nonpos
      · rw [eq]
        exact .refused positive nobody
      · rw [eq]
        exact .settled positive (debitAll_settles positive anyone)

/-- A debit of a positive amount goes through exactly if something can be charged. -/
theorem cost_outcome_eq_ok_iff {token : String} {amount : Int} {now : Instant} {store : Store}
    (positive : 0 < amount) :
    (LedgerOperation.cost token amount now).outcome store = .ok () ↔
      ∃ ticket ∈ store.tickets, chargeable token now ticket = true := by
  have eq : (LedgerOperation.cost token amount now).outcome store =
      (store.cost token amount now).map fun _ => () := rfl
  rcases cost_cases token amount now store with
    ⟨nonpos, -⟩ | ⟨-, nobody, refused⟩ | ⟨-, anyone, settled⟩
  · omega
  · rw [eq, refused]
    constructor
    · intro accepted
      cases accepted
    · rintro ⟨ticket, mem, pays⟩
      rw [nobody ticket mem] at pays
      cases pays
  · rw [eq, settled]
    exact ⟨fun _ => anyone, fun _ => rfl⟩

/-! ## Runs -/

@[simp] theorem run_nil (store : Store) : store.run [] = store := rfl

@[simp] theorem run_cons (store : Store) (operation : LedgerOperation)
    (rest : List LedgerOperation) :
    store.run (operation :: rest) = (operation.after store).run rest := rfl

theorem run_append (store : Store) (first second : List LedgerOperation) :
    store.run (first ++ second) = (store.run first).run second :=
  List.foldl_append

@[simp] theorem run_concat (store : Store) (operations : List LedgerOperation)
    (last : LedgerOperation) :
    store.run (operations ++ [last]) = last.after (store.run operations) :=
  run_append store operations [last]

/-- What every step keeps, a run keeps. -/
theorem run_induction {P : Store → Prop}
    (kept : ∀ (operation : LedgerOperation) (store : Store), P store → P (operation.after store))
    {store : Store} (start : P store) (operations : List LedgerOperation) :
    P (store.run operations) := by
  induction operations generalizing store with
  | nil => exact start
  | cons operation rest ih => exact ih (kept operation store start)

/-- The operations of a run with their outcomes. -/
def trace : Store → List LedgerOperation → List (LedgerOperation × Except LedgerError Unit)
  | _, [] => []
  | store, operation :: rest =>
    (operation, operation.outcome store) :: trace (operation.after store) rest

end Store

end Tollgate
