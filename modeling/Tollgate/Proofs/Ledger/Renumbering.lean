import Tollgate.Proofs.Ledger.Register

/-!
# Ids do not matter

The store gives out ids and never reads one. Two stores that hold the same tickets under different
ids therefore answer every operation alike, and they still hold the same tickets afterwards.

`Renumbers` relates such stores by a renumbering that keeps the order of ids. It also covers the ids
that are not given out yet, so one renumbering serves for a whole run.
-/

namespace Tollgate

def Ticket.renumber (f : Int → Int) (ticket : Ticket) : Ticket := { ticket with id := f ticket.id }

namespace Store

variable {f : Int → Int} {token : String} {amount : Int} {now : Instant} {store other : Store}

@[simp] theorem chargeable_renumber (ticket : Ticket) :
    chargeable token now (ticket.renumber f) = chargeable token now ticket := rfl

@[simp] theorem charged_renumber (ticket : Ticket) :
    charged amount now (ticket.renumber f) = (charged amount now ticket).renumber f := rfl

@[simp] theorem any_chargeable_renumber (tickets : List Ticket) :
    (tickets.map (Ticket.renumber f)).any (chargeable token now) =
      tickets.any (chargeable token now) := by
  rw [List.any_map]
  rfl

/-- A debit charges tickets by their place in the store. -/
theorem debitAll_renumber (tickets : List Ticket) :
    debitAll token amount now (tickets.map (Ticket.renumber f)) =
      (debitAll token amount now tickets).map (Ticket.renumber f) := by
  induction tickets generalizing amount with
  | nil => rfl
  | cons ticket rest ih =>
      have same_bytes : (ticket.renumber f).bytes = ticket.bytes := rfl
      simp only [List.map_cons, debitAll, chargeable_renumber, any_chargeable_renumber, same_bytes]
      by_cases pays : chargeable token now ticket = true
      · rw [if_pos pays, if_pos pays]
        by_cases stops : amount ≤ ticket.bytes ∨ rest.any (chargeable token now) = false
        · rw [if_pos stops, if_pos stops, charged_renumber, List.map_cons]
        · rw [if_neg stops, if_neg stops, charged_renumber, ih, List.map_cons]
      · rw [if_neg pays, if_neg pays, ih, List.map_cons]

/-- The other store holds the same tickets under other ids in the same order, and it goes on
numbering them where the renumbering says. -/
structure Renumbers (f : Int → Int) (store other : Store) : Prop where
  ascends : ∀ ⦃first second : Int⦄, first < second → f first < f second
  tickets_eq : other.tickets = store.tickets.map (Ticket.renumber f)
  next_eq : ∀ skipped : Nat, f (store.nextId + skipped) = other.nextId + skipped

namespace Renumbers

theorem refl (store : Store) : Renumbers id store store :=
  ⟨fun _ _ ascends => ascends, (List.map_id _).symm, fun _ => rfl⟩

theorem knows_iff (h : Renumbers f store other) (payOrder : String) :
    other.Knows payOrder ↔ store.Knows payOrder := by
  simp [Knows, h.tickets_eq, Ticket.renumber]

theorem ticketsOf_eq (h : Renumbers f store other) (owner : String) :
    other.ticketsOf owner = (store.ticketsOf owner).map (Ticket.renumber f) := by
  rw [ticketsOf, ticketsOf, h.tickets_eq, List.filter_map]
  rfl

theorem newest?_eq (h : Renumbers f store other) (owner : String) :
    other.newest? owner = (store.newest? owner).map (Ticket.renumber f) := by
  rw [newest?, newest?, h.ticketsOf_eq, List.getLast?_map]

theorem creditExpiry?_eq (h : Renumbers f store other) (credit : Credit) (now : Instant) :
    other.creditExpiry? credit now = store.creditExpiry? credit now := by
  rw [creditExpiry?, creditExpiry?, h.newest?_eq, Option.map_map]
  rfl

/-- Both stores use up an id. -/
theorem skip_id (h : Renumbers f store other) :
    Renumbers f { store with nextId := store.nextId + 1 }
      { other with nextId := other.nextId + 1 } := by
  refine ⟨h.ascends, h.tickets_eq, ?_⟩
  intro skipped
  have next := h.next_eq (skipped + 1)
  push_cast at next ⊢
  rw [Int.add_assoc, Int.add_comm 1, next]
  omega

theorem add (h : Renumbers f store other) (credit : Credit) (now expires : Instant) :
    Renumbers f
      ⟨store.tickets ++ [credit.ticket store.nextId now expires], store.nextId + 1⟩
      ⟨other.tickets ++ [credit.ticket other.nextId now expires], other.nextId + 1⟩ := by
  refine ⟨h.ascends, ?_, h.skip_id.next_eq⟩
  have new_id : f store.nextId = other.nextId := by
    simpa using h.next_eq 0
  rw [h.tickets_eq, List.map_append, List.map_singleton, Ticket.renumber]
  simp only [Credit.ticket, new_id]

/-- An id that only the other store uses up moves the ids that are still to come, and no others. -/
theorem skip_other_id (h : Renumbers f store other) (registered : store.Registered) :
    ∃ g, Renumbers g store { other with nextId := other.nextId + 1 } := by
  refine ⟨fun id => if id < store.nextId then f id else f id + 1, ?_, ?_, ?_⟩
  · intro first second ascends
    have images := h.ascends ascends
    by_cases given : second < store.nextId
    · have given_first : first < store.nextId := Int.lt_trans ascends given
      simpa only [given, given_first, if_true] using images
    · by_cases given_first : first < store.nextId
      · simp only [given, given_first, if_true, if_false]
        omega
      · simp only [given, given_first, if_false]
        omega
  · rw [h.tickets_eq]
    refine List.map_congr_left ?_
    intro ticket mem
    have given := registered.ids_below ticket.id (List.mem_map_of_mem mem)
    simp only [Ticket.renumber, given, if_true]
  · intro skipped
    have to_come : ¬ (store.nextId + skipped : Int) < store.nextId := by omega
    simp only [to_come, if_false, h.next_eq skipped]
    omega

/-- Both stores answer an operation alike and hold the same tickets afterwards. -/
theorem step (h : Renumbers f store other) (operation : LedgerOperation) :
    operation.outcome other = operation.outcome store ∧
      Renumbers f (operation.after store) (operation.after other) := by
  cases operation with
  | create credit now =>
      simp only [LedgerOperation.outcome, LedgerOperation.after, LedgerOperation.apply]
      cases dated : store.creditExpiry? credit now with
      | none =>
          have dateless := (h.creditExpiry?_eq credit now).trans dated
          rw [create_of_no_expiry dated, create_of_no_expiry dateless]
          exact ⟨rfl, h⟩
      | some expires =>
          have dated_other := (h.creditExpiry?_eq credit now).trans dated
          by_cases known : store.Knows credit.payOrder
          · have known_other := (h.knows_iff credit.payOrder).mpr known
            rw [create_of_knows dated known, create_of_knows dated_other known_other]
            exact ⟨rfl, h.skip_id⟩
          · have unknown_other := mt (h.knows_iff credit.payOrder).mp known
            rw [create_of_not_knows dated known, create_of_not_knows dated_other unknown_other]
            exact ⟨rfl, h.add credit now expires⟩
  | cost token amount now =>
      simp only [LedgerOperation.outcome, LedgerOperation.after, LedgerOperation.apply,
        cost_eq_costThroughAll, costThroughAll]
      by_cases free : amount ≤ 0
      · rw [if_pos free, if_pos free]
        exact ⟨rfl, h⟩
      · rw [if_neg free, if_neg free, h.tickets_eq, any_chargeable_renumber, debitAll_renumber]
        cases anyone : store.tickets.any (chargeable token now) with
        | false => exact ⟨rfl, h⟩
        | true => exact ⟨rfl, h.ascends, rfl, h.next_eq⟩

end Renumbers

end Store

end Tollgate
