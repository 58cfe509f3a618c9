import Tollgate.Proofs.Tunnel.Session
import Mathlib.Algebra.Order.BigOperators.Group.List
import Mathlib.Algebra.Order.Group.Nat

/-!
# What a tunnel pays for

Every octet that crosses the upstream leg of a tunnel is in one batch, and the ledger is asked once
for the price of each batch. Only the width of the counter limits this: what crosses between two
flushes is debited as far as it fits into 64 bits.

A session keeps a list of its debits. `Accounts` says that this list is true of the ledger: it is
what these debits, and whatever others do in between, make of the ledger at the start.
-/

namespace Tollgate

/-- Remainders add up to what they were taken of exactly if nothing was cut off. -/
theorem sum_mod_eq_sum_iff {modulus : Nat} (positive : 0 < modulus) (numbers : List Nat) :
    (numbers.map (· % modulus)).sum = numbers.sum ↔ ∀ n ∈ numbers, n < modulus := by
  induction numbers with
  | nil => simp
  | cons n rest ih =>
      have first : n % modulus ≤ n := Nat.mod_le n modulus
      have later : (rest.map (· % modulus)).sum ≤ rest.sum := by
        have bound := List.sum_le_sum (f := (· % modulus)) (g := id) (l := rest)
          fun n _ => Nat.mod_le n modulus
        rwa [List.map_id] at bound
      have first_iff : n % modulus = n ↔ n < modulus := Nat.mod_eq_iff_lt (Nat.ne_of_gt positive)
      rw [List.map_cons, List.sum_cons, List.sum_cons, List.forall_mem_cons, ← ih, ← first_iff]
      omega

namespace Tunnel

namespace Billing

/-- A batch below the sign bit is priced as it is, if the product has 64 bits. -/
theorem price_eq {billing : Billing} {batch : UInt64} (small : batch.toNat < 2 ^ 63)
    (fits : Text.fitsInt64 (batch.toNat * billing.multiplier) = true) :
    billing.price batch = batch.toNat * billing.multiplier := by
  have whole : batch.toInt64.toInt = batch.toNat := by
    apply BitVec.toInt_eq_toNat_of_lt
    change 2 * batch.toNat < 2 ^ 64
    omega
  obtain ⟨above, below⟩ := Text.fitsInt64_iff.mp fits
  rw [price, whole, saturated, min_eq_right below, max_eq_right above]

end Billing

namespace Session

variable {billing : Billing} {session : Session} {period : Nat}

/-- The octets of all batches that were debited. -/
def octets (session : Session) : Nat := (session.debits.map (·.batch.toNat)).sum

def asked (session : Session) : Int := (session.debits.map (·.amount)).sum

/-- Batches hold of each stretch what fits into the counter. -/
theorem sum_batches (stretches : List Nat) :
    (((stretches.map UInt64.ofNat).filter (· ≠ 0)).map UInt64.toNat).sum =
      (stretches.map (· % 2 ^ 64)).sum := by
  induction stretches with
  | nil => rfl
  | cons stretch rest ih =>
      have held : (UInt64.ofNat stretch).toNat = stretch % 2 ^ 64 := UInt64.toNat_ofNat'
      rw [List.map_cons, List.map_cons, List.sum_cons, ← ih, ← held, List.filter_cons]
      by_cases nothing : UInt64.ofNat stretch = 0
      · simp [nothing]
      · simp [nothing]

theorem positive_of_mem_handed (sound : session.Sound billing) {batch : UInt64}
    (mem : batch ∈ session.handed) : 0 < batch := by
  rw [sound.handed, List.mem_filter] at mem
  exact UInt64.pos_iff_ne_zero.mpr (of_decide_eq_true mem.2)

/-! ## The ledger -/

/-- A use of the ledger. -/
inductive Use where
  | debits (debit : Debit)
  | changes (change : Ledger → Ledger)

def Use.debit? : Use → Option Debit
  | .debits debit => some debit
  | .changes _ => none

def Use.change? : Use → Option (Ledger → Ledger)
  | .debits _ => none
  | .changes change => some change

/-- What becomes of a ledger as it is used for debits of a token, and changed by others, in order.
A debit is paid exactly if the ledger takes its amount off, and has no effect otherwise. -/
inductive Accounts (token : String) (first : Ledger) : List Use → Ledger → Prop where
  | nothing : Accounts token first [] first
  | paid {uses : List Use} {before later : Ledger} {debit : Debit}
      (earlier : Accounts token first uses before) (isPaid : debit.paid = true)
      (debited : before.cost token debit.amount debit.now = .ok later) :
      Accounts token first (uses ++ [.debits debit]) later
  | unpaid {uses : List Use} {before : Ledger} {debit : Debit} {error : LedgerError}
      (earlier : Accounts token first uses before) (isUnpaid : debit.paid = false)
      (refused : before.cost token debit.amount debit.now = .error error) :
      Accounts token first (uses ++ [.debits debit]) before
  | changed {uses : List Use} {before : Ledger} (earlier : Accounts token first uses before)
      (change : Ledger → Ledger) :
      Accounts token first (uses ++ [.changes change]) (change before)

variable {first : Ledger} {uses : List Use}

theorem Accounts.settle (earlier : Accounts billing.token first uses session.ledger)
    (batch : UInt64) (now : Instant) :
    Accounts billing.token first
      (uses ++ [.debits (billing.debit batch now session.ledger).1])
      (session.settle billing batch now).ledger := by
  have settled : (session.settle billing batch now).ledger =
      (billing.debit batch now session.ledger).2 := rfl
  rw [settled]
  obtain ⟨later, asked, debited⟩ | ⟨error, asked, debited⟩ :=
    billing.debit_cases batch now session.ledger
  · rw [debited]
    exact .paid earlier rfl asked
  · rw [debited]
    exact .unpaid earlier rfl asked

/-- An event uses the ledger for the debit that it adds to the list, or for a change by others. -/
theorem Accounts.after (earlier : Accounts billing.token first uses session.ledger)
    (listed : uses.filterMap Use.debit? = session.debits) (event : Event) :
    ∃ later, Accounts billing.token first (uses ++ later) (session.after billing event).ledger ∧
      (uses ++ later).filterMap Use.debit? = (session.after billing event).debits ∧
      later.filterMap Use.change? = event.change?.toList := by
  have moved := session.moves billing event
  generalize session.after billing event = next at moved
  cases moved with
  | idle event nothing unchanged relaying =>
      rw [unchanged]
      exact ⟨[], by rwa [List.append_nil], by rwa [List.append_nil], rfl⟩
  | counts | ticks | ends | stops =>
      exact ⟨[], by rwa [List.append_nil], by rwa [List.append_nil], rfl⟩
  | settles batch now underway =>
      refine ⟨_, earlier.settle batch now, ?_, rfl⟩
      rw [List.filterMap_append, listed]
      rfl
  | changes change =>
      refine ⟨_, .changed earlier change, ?_, rfl⟩
      rw [List.filterMap_append, listed]
      exact List.append_nil _

/-- Along a run the ledger is used for the debits of the session and for the changes by others. -/
theorem Accounts.run (earlier : Accounts billing.token first uses session.ledger)
    (listed : uses.filterMap Use.debit? = session.debits) (events : List Event) :
    ∃ later, Accounts billing.token first (uses ++ later) (session.run billing events).ledger ∧
      (uses ++ later).filterMap Use.debit? = (session.run billing events).debits ∧
      later.filterMap Use.change? = events.filterMap Event.change? := by
  induction events generalizing session uses with
  | nil => exact ⟨[], by rwa [List.append_nil], by rwa [List.append_nil], rfl⟩
  | cons event rest ih =>
      obtain ⟨here, so_far, listed_here, changed_here⟩ := earlier.after listed event
      obtain ⟨later, in_all, listed_all, changed_later⟩ := ih so_far listed_here
      refine ⟨here ++ later, ?_, ?_, ?_⟩
      · rwa [← List.append_assoc]
      · rwa [← List.append_assoc]
      · rw [List.filterMap_append, changed_here, changed_later, List.filterMap_cons]
        cases event.change? with
        | none => rfl
        | some change => rfl

/-- When the task of the meter has ended, nothing is left in the counter. -/
theorem octets_eq_iff (sound : session.Sound billing) (done : session.isOver = true) :
    session.octets = session.traffic.total ↔
      ∀ stretch ∈ session.traffic.stretches, stretch < 2 ^ 64 := by
  obtain ⟨ended, waiting⟩ : session.meter.isRunning = false ∧ session.inFlight = none := by
    simpa [isOver] using done
  have empty := (sound.ended ended).2
  have batches := sound.handed
  rw [handed_of_waiting waiting] at batches
  have octets_eq : session.octets = (session.traffic.past.map (· % 2 ^ 64)).sum := by
    rw [octets, ← sum_batches, ← batches, List.map_map]
    rfl
  -- the stretch behind the last flush is empty, so nothing but the batches is to be compared
  rw [octets_eq, Traffic.total, Traffic.stretches, empty, List.sum_append, List.sum_singleton,
    Nat.add_zero, sum_mod_eq_sum_iff (Nat.two_pow_pos 64), List.forall_mem_append,
    List.forall_mem_singleton]
  exact ⟨fun fit => ⟨fit, Nat.two_pow_pos 64⟩, And.left⟩

theorem asked_eq (sound : session.Sound billing)
    (fit : ∀ debit ∈ session.debits, debit.batch.toNat < 2 ^ 63 ∧
      Text.fitsInt64 (debit.batch.toNat * billing.multiplier) = true) :
    session.asked = session.octets * billing.multiplier := by
  have priced : ∀ debit ∈ session.debits,
      debit.amount = debit.batch.toNat * billing.multiplier := by
    intro debit mem
    obtain ⟨small, fits⟩ := fit debit mem
    rw [sound.priced debit mem, Billing.price_eq small fits]
  unfold asked octets
  generalize session.debits = debits at priced
  induction debits with
  | nil => simp
  | cons debit rest ih =>
      have later := ih fun other mem => priced other (List.mem_cons_of_mem debit mem)
      rw [List.map_cons, List.sum_cons, priced debit List.mem_cons_self, later, List.map_cons,
        List.sum_cons, Int.natCast_add, Int.add_mul]

/-- Traffic is billed once, however it is counted and flushed by a meter with a period, without
which no settings are valid. No batch is empty, and a debit that fails closes the tunnel. The ledger
is what the debits make of it, and the changes by others. After the relay is over the task of the
meter can come to its end, and then the batches are what crossed before, as long as no more than
fits into the counter crosses between two flushes, and the ledger was asked for their price, as long
as batches and products fit into 64 bits with a sign. -/
theorem traffic_billed_once (billing : Billing) (period : Nat) (positive : 0 < period)
    (ledger : Ledger) (events : List Event) :
    let session := (start period ledger).run billing events
    (∀ batch ∈ session.handed, 0 < batch) ∧
    (∀ debit ∈ session.debits, debit.paid = false → session.closed = true) ∧
    (∃ uses, Accounts billing.token ledger uses session.ledger ∧
      uses.filterMap Use.debit? = session.debits ∧
      uses.filterMap Use.change? = events.filterMap Event.change?) ∧
    (∀ now later,
      (session.run billing [.stops, .answers now, .breaks, .answers later]).isOver = true) ∧
    (session.isOver = true →
      session.debits.map (·.batch) = session.handed ∧
      (session.octets = movedBy events ↔
        ∀ stretch ∈ session.traffic.stretches, stretch < 2 ^ 64) ∧
      ((∀ debit ∈ session.debits, debit.batch.toNat < 2 ^ 63 ∧
          Text.fitsInt64 (debit.batch.toNat * billing.multiplier) = true) →
        session.asked = session.octets * billing.multiplier)) := by
  intro session
  have sound : session.Sound billing := sound_run (sound_start positive ledger) events
  have total : session.traffic.total = movedBy events := by
    rw [total_run rfl]
    exact Nat.zero_add _
  have accounts : ∃ uses, Accounts billing.token ledger uses session.ledger ∧
      uses.filterMap Use.debit? = session.debits ∧
      uses.filterMap Use.change? = events.filterMap Event.change? :=
    @Accounts.run billing (start period ledger) ledger [] .nothing rfl events
  refine ⟨fun batch => positive_of_mem_handed sound, sound.closes, accounts,
    isOver_run_ending billing session, fun done => ⟨?_, ?_, asked_eq sound⟩⟩
  · have waiting : session.inFlight = none := by
      simp [isOver] at done
      exact done.2
    exact (handed_of_waiting waiting).symm
  · rw [← total]
    exact octets_eq_iff sound done

/-- Three octets are written and flushed, and two more are read while they are debited. -/
def fiveOctets : List Event :=
  [.crosses (.write (.done 3)), .crosses (.read .pending), .passes 1000,
    .crosses (.read (.done [7, 8])), .answers 1, .stops, .breaks, .answers 2]

def fiveBytesLeft : Ledger := .store (Store.empty.run [.create ⟨"a", 5, "first", ""⟩ 0])

/-- Five octets are billed at two bytes each. The first debit takes more than is left, and so the
second one is refused and closes the tunnel. -/
theorem five_octets_billed :
    let session := (start 1000 fiveBytesLeft).run ⟨"a", 2⟩ fiveOctets
    session.octets = 5 ∧ session.asked = 10 ∧ session.closed = true ∧
      (session.ledger.list "a" 1 2).toOption.map (·.map (·.bytes)) = some [-1] := by
  intro session
  obtain ⟨-, closes, -, -, ending⟩ :=
    traffic_billed_once ⟨"a", 2⟩ 1000 (by decide) fiveBytesLeft fiveOctets
  obtain ⟨-, octets_iff, asked⟩ := ending (by decide +kernel)
  have octets : session.octets = 5 := octets_iff.mpr (by decide +kernel)
  refine ⟨octets, ?_, closes ⟨2, 4, 2, false⟩ (by decide +kernel) rfl, by decide +kernel⟩
  rw [asked (by decide +kernel), octets]
  rfl

end Session

end Tunnel

end Tollgate
