import Tollgate.Proofs.Dns.Connection

/-!
# The course of a connection

While its client listens, a connection resolves the messages that become whole in time, in order and
up to the first failure. Nothing is late as long as the connection is open, or if the stream comes
without any wait. Then these are the messages of the whole stream.

When the client goes away, its last octets may still be on their way. One message of these is
resolved, and debited, before the connection notices that nobody takes the answer.
-/

namespace Tollgate.Dns.Dot

variable {received : Octets} {events : List Event}

/-! ## What comes in time -/

theorem inTime_isPrefix (received : Octets) (waited : Nat) (events : List Event) :
    inTime received waited events <+: arrivals events := by
  induction events generalizing received waited with
  | nil => exact List.prefix_rfl
  | cons event later ih =>
      cases event with
      | arrives moment bytes => exact List.cons_prefix_cons.mpr ⟨rfl, ih _ _⟩
      | passes elapsed =>
          rw [inTime]
          split
          next => exact ih _ _
          next =>
            split
            next => exact ih _ _
            next => exact List.nil_prefix
      | leaves => exact ih _ _

/-- Without a wait nothing is late. -/
theorem inTime_eq_arrivals (at_once : ∀ elapsed, .passes elapsed ∉ events) (received : Octets)
    (waited : Nat) : inTime received waited events = arrivals events := by
  induction events generalizing received waited with
  | nil => rfl
  | cons event later ih =>
      have later_at_once : ∀ elapsed, .passes elapsed ∉ later := fun elapsed mem =>
        at_once elapsed (List.mem_cons_of_mem event mem)
      cases event with
      | arrives moment bytes =>
          rw [inTime, ih later_at_once]
          rfl
      | passes elapsed => exact absurd List.mem_cons_self (at_once elapsed)
      | leaves => exact ih later_at_once received waited

/-- A message in its frame that comes half a minute after the connection has begun is late. -/
example (moment : Moment) (message : Octets) :
    inTime [] 0 [.passes 30000, .arrives moment (framed message)] = [] := by
  have outside : ¬ EndsInside [] := by
    rw [Frames.empty.endsInside_iff]
    decide
  rw [inTime, if_neg outside]
  rfl

namespace Connection

variable {connection : Connection} {resolver : Resolver} {earlier : List Octets} {ledger : Ledger}

theorem leave_of_open (isOpen : connection.isOpen = true) :
    connection.leave = { connection with listens := false } := if_pos isOpen

/-- While a connection does not fail, what it has not read is the tail of all that has come in time.
While it is open nothing has been late. -/
theorem received_of_no_failure (held : Frames received earlier connection.unread)
    (isOpen : connection.isOpen = true)
    (noFailure : (connection.run resolver events ledger).connection.failure = none) :
    (∃ messages, Frames (received ++ (inTime received connection.waited events).flatMap (·.2))
        messages (connection.run resolver events ledger).connection.unread) ∧
      ((connection.run resolver events ledger).connection.isOpen = true →
        inTime received connection.waited events = arrivals events) := by
  induction events generalizing connection received earlier ledger with
  | nil => exact ⟨⟨earlier, by simpa [inTime, run] using held⟩, fun _ => rfl⟩
  | cons event later ih =>
      cases event with
      | arrives moment bytes =>
          have follows := receive_of_no_failure resolver ledger held isOpen moment bytes
          rw [run, after] at noFailure ⊢
          generalize connection.receive resolver moment.recursor moment.now bytes ledger = first
            at follows noFailure ⊢
          by_cases failed : first.connection.failure = none
          · obtain ⟨open_meanwhile, frames, waits⟩ := follows failed
            obtain ⟨⟨messages, frames_rest⟩, rest_in_time⟩ := ih frames open_meanwhile noFailure
            rw [List.append_assoc] at frames_rest
            rw [inTime, waits]
            refine ⟨⟨messages, frames_rest⟩, fun open_still => ?_⟩
            rw [rest_in_time open_still]
            rfl
          · have ended := isOpen_eq_false_iff.mpr (Or.inl failed)
            rw [run_of_ended ended] at noFailure
            exact absurd noFailure failed
      | passes elapsed =>
          obtain ⟨waited, pass_eq⟩ := connection.exists_pass_eq elapsed
          rw [run_passes] at noFailure ⊢
          rcases pass_cases held isOpen elapsed later with ⟨open_meanwhile, rest⟩ | ⟨ended, rest⟩
          · rw [rest]
            rw [pass_eq] at open_meanwhile noFailure ⊢
            exact @ih _ { connection with waited } _ _ held open_meanwhile noFailure
          · rw [rest, run_of_ended ended, ended, pass_eq]
            refine ⟨⟨earlier, by simpa using held⟩, fun never => ?_⟩
            exact absurd never Bool.false_ne_true
      | leaves =>
          rw [run, after, leave_of_open isOpen] at noFailure ⊢
          exact @ih _ { connection with listens := false } _ _ held isOpen noFailure

/-! ## When the client has gone -/

/-- What a connection does whose client has gone. -/
structure Ceases (next : Option Resolution) (ledger : Ledger) (service : Service) : Prop where
  written_eq : service.written = []
  forwarded_eq : service.forwarded = next.toList.filterMap (·.forwarded)
  ledger_eq : service.ledger = ledgerAfter ledger next.toList
  failure_eq : service.connection.failure =
    next.map fun resolution => (failure? resolution).getD .notTaken

theorem Ceases.of_last {resolution : Resolution} {failure : Failure} (rest : Octets)
    (fails : (failure? resolution).getD .notTaken = failure) :
    Ceases (some resolution) ledger
      ⟨{ connection with unread := rest, failure := some failure }, resolution.ledger, [],
        resolution.forwarded.toList⟩ where
  written_eq := rfl
  forwarded_eq := by cases sent : resolution.forwarded <;> simp [sent]
  ledger_eq := rfl
  failure_eq := congrArg some fails.symm

/-- Once the client has gone, the next message is the last. -/
theorem run_of_gone (resolver : Resolver) (held : Frames received earlier connection.unread)
    (isOpen : connection.isOpen = true) (gone : connection.listens = false) (events : List Event)
    (ledger : Ledger) :
    Ceases (resolver.resolveAll connection.query
        (asked received (inTime received connection.waited events)) ledger).head? ledger
      (connection.run resolver events ledger) := by
  have noFailure := (isOpen_iff.mp isOpen).1
  induction events generalizing connection received earlier with
  | nil => exact ⟨rfl, rfl, rfl, noFailure⟩
  | cons event later ih =>
      cases event with
      | arrives moment bytes =>
          have follows := receive_of_no_failure resolver ledger held isOpen moment bytes
          rw [run, after, inTime, asked, held.drop_messagesIn]
          rw [receive_of_open isOpen] at follows ⊢
          cases whole : takeFrame? (connection.unread ++ bytes) with
          | none =>
              rw [serve_of_incomplete _ _ _ _ _ whole] at follows ⊢
              obtain ⟨open_still, frames, waits⟩ := follows noFailure
              rw [messagesIn_of_incomplete (takeFrame?_eq_none_iff.mp whole), waits]
              exact ih frames open_still gone noFailure
          | some parts =>
              obtain ⟨message, rest⟩ := parts
              rw [messagesIn_of_whole whole]
              cases fails : failure? (resolver.resolve moment.recursor (connection.query message)
                  moment.now ledger) with
              | some failure =>
                  rw [serve_of_failed whole fails, run_of_ended rfl, Service.followedBy_idle]
                  exact .of_last rest (by rw [fails, Option.getD_some])
              | none =>
                  rw [serve_of_not_taken gone whole fails, run_of_ended rfl,
                    Service.followedBy_idle]
                  exact .of_last rest (by rw [fails, Option.getD_none])
      | passes elapsed =>
          obtain ⟨waited, pass_eq⟩ := connection.exists_pass_eq elapsed
          rw [run_passes]
          rcases pass_cases held isOpen elapsed later with ⟨open_still, rest⟩ | ⟨ended, rest⟩
          · rw [rest]
            rw [pass_eq] at open_still ⊢
            exact @ih _ { connection with waited } _ held open_still gone noFailure
          · rw [rest, run_of_ended ended, pass_eq]
            exact ⟨rfl, rfl, rfl, noFailure⟩
      | leaves =>
          have left : connection.leave = connection := by rw [leave_of_open isOpen, ← gone]
          rw [run, after, left]
          exact ih held isOpen gone noFailure

/-! ## The whole course -/

variable (resolver : Resolver) (token : Option String) (peer : Address)

/-- A connection of a host's token whose client listens resolves the messages that become whole in
time, in order, whatever the parts in which its stream comes. It has the effects of the resolutions
up to and including the first without an answer that fits a frame, and it has written the answers
before that one, which are again the only messages that its output holds. Nothing else is read: the
effects are those of a connection that receives only the messages attended to, and once a connection
has ended nothing that comes later matters. The messages in time are those of the whole stream if it
comes without any wait, or if the connection is still open. When the client goes away then, one more
message is resolved in the same way, and nothing more is written. -/
theorem serves_in_order (events : List Event) (ledger : Ledger) (stays : .leaves ∉ events) :
    let query : Octets → Query := fun message => ⟨token, .host, message, peer, none, false⟩
    let messages := asked [] (inTime [] 0 events)
    let resolutions := resolver.resolveAll query messages ledger
    let serve : List Event → Service := fun events => run resolver { token, peer } events ledger
    let service := serve events
    let alone := receiveAll resolver { token, peer }
      ((messages.take (attended resolutions).length).map
        fun message => (message.1, framed message.2)) ledger
    (∃ tail, Frames ((inTime [] 0 events).flatMap (·.2)) (messages.map (·.2)) tail) ∧
      (inTime [] 0 events <+: arrivals events ∧
        ((∀ elapsed, .passes elapsed ∉ events) ∨ service.connection.isOpen = true →
          inTime [] 0 events = arrivals events)) ∧
      service.ledger = ledgerAfter ledger (attended resolutions) ∧
      service.forwarded = (attended resolutions).filterMap (·.forwarded) ∧
      service.connection.failure = firstFailure? resolutions ∧
      service.written = (answers resolutions).flatMap framed ∧
      (∀ sent tail, Frames service.written sent tail ↔ sent = answers resolutions ∧ tail = []) ∧
      (alone.ledger = service.ledger ∧ alone.forwarded = service.forwarded ∧
        alone.connection.failure = service.connection.failure ∧
        alone.written = service.written) ∧
      (service.connection.isOpen = false → ∀ later, serve (events ++ later) = service) ∧
      (service.connection.isOpen = true → ∀ later,
        let left := serve (events ++ .leaves :: later)
        let next := (resolver.resolveAll query (asked service.connection.unread
          (inTime service.connection.unread service.connection.waited later)) service.ledger).head?
        left.written = service.written ∧
          left.forwarded = service.forwarded ++ next.toList.filterMap (·.forwarded) ∧
          left.ledger = ledgerAfter service.ledger next.toList ∧
          left.connection.failure =
            next.map fun resolution => (failure? resolution).getD .notTaken) := by
  intro query' messages resolutions serve service alone
  have renders : service.Renders resolutions { token, peer } ledger :=
    run_renders resolver { token, peer } .empty rfl rfl events stays ledger
  have renders_alone : alone.Renders resolutions { token, peer } ledger := by
    apply Service.Renders.of_attended
    rw [List.prefix_iff_eq_take.mp (attended_isPrefix resolutions)]
    exact receiveAll_renders_take resolver token peer _ _ ledger
  refine ⟨frames_asked _, ⟨inTime_isPrefix _ _ _, ?_⟩, renders.ledger_eq, renders.forwarded_eq,
    renders.failure_eq, renders.written_eq, ?_, ⟨?_, ?_, ?_, ?_⟩, ?_, ?_⟩
  · rintro (at_once | isOpen)
    · exact inTime_eq_arrivals at_once _ _
    · exact (received_of_no_failure Frames.empty rfl (isOpen_iff.mp isOpen).1).2 isOpen
  · intro sent tail
    have frames := frames_answers resolutions
    rw [renders.written_eq]
    constructor
    · exact frames.unique
    · rintro ⟨rfl, rfl⟩
      exact frames
  · rw [renders_alone.ledger_eq, renders.ledger_eq]
  · rw [renders_alone.forwarded_eq, renders.forwarded_eq]
  · rw [renders_alone.failure_eq, renders.failure_eq]
  · rw [renders_alone.written_eq, renders.written_eq]
  · intro ended later
    refine (run_append resolver { token, peer } events later ledger).trans ?_
    rw [run_of_ended ended, Service.followedBy_idle]
  · intro isOpen later left next
    obtain ⟨⟨held, frames⟩, -⟩ :=
      received_of_no_failure Frames.empty rfl (isOpen_iff.mp isOpen).1
    have left_eq : left = service.followedBy
        (run resolver { service.connection with listens := false } later service.ledger) := by
      refine (run_append resolver { token, peer } events (.leaves :: later) ledger).trans ?_
      rw [run, after, leave_of_open isOpen]
      rfl
    have ceases := @run_of_gone _ { service.connection with listens := false } _ resolver
      (.nil frames.incomplete) isOpen rfl later service.ledger
    have same_query : query { service.connection with listens := false } = query' :=
      query_congr renders.token_eq renders.peer_eq
    rw [same_query] at ceases
    rw [left_eq]
    refine ⟨?_, congrArg (service.forwarded ++ ·) ceases.forwarded_eq, ceases.ledger_eq,
      ceases.failure_eq⟩
    exact (congrArg (service.written ++ ·) ceases.written_eq).trans (List.append_nil _)

open Resolver (plainResolver relayedQuery fiveBytes)

/-- Octets of a message come after a long wait for them, and then the same message again. -/
def askedSlowly : List Event :=
  [.arrives ⟨2, fun _ => some [1, 2, 3]⟩ ((framed relayedQuery.message).take 7), .passes 40000,
    .arrives ⟨3, fun _ => some [1, 2, 3]⟩ ((framed relayedQuery.message).drop 7), .passes 20000,
    .arrives ⟨4, fun _ => some [1, 2, 3]⟩ (framed relayedQuery.message)]

/-- The last bytes of a token pay for one message, however long it takes to come as a whole. The
next one ends the connection, and nothing comes of what follows. -/
theorem last_bytes_serve_one_message :
    let serve := fun events =>
      run plainResolver { token := some "a", peer := relayedQuery.peer } events (.store fiveBytes)
    .leaves ∉ askedSlowly ∧ Frames (serve askedSlowly).written [[1, 2, 3]] [] ∧
      (serve askedSlowly).forwarded.length = 1 ∧
      (serve askedSlowly).connection.failure.map (·.message) = some "Query rejected: Unauthorized" ∧
      ∀ later, serve (askedSlowly ++ later) = serve askedSlowly := by
  intro serve
  have answered : answers (plainResolver.resolveAll
      (fun message => ⟨some "a", .host, message, relayedQuery.peer, none, false⟩)
      (asked [] (inTime [] 0 askedSlowly)) (.store fiveBytes)) = [[1, 2, 3]] := by decide +kernel
  have failed : (serve askedSlowly).connection.failure.map (·.message) =
      some "Query rejected: Unauthorized" := by decide +kernel
  have forwarded : (serve askedSlowly).forwarded.length = 1 := by decide +kernel
  have ended : (serve askedSlowly).connection.isOpen = false := by decide +kernel
  have stays : .leaves ∉ askedSlowly := by simp [askedSlowly]
  obtain ⟨-, -, -, -, -, -, written, -, later, -⟩ :=
    serves_in_order plainResolver (some "a") relayedQuery.peer askedSlowly (.store fiveBytes) stays
  exact ⟨stays, (written _ _).mpr ⟨answered.symm, rfl⟩, forwarded, failed, later ended⟩

end Connection

end Tollgate.Dns.Dot
