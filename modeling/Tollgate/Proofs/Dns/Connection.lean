import Tollgate.Proofs.Dns.Frames
import Tollgate.Proofs.Dns.InOrder
import Tollgate.Proofs.Gateway.Effects

/-!
# A connection serves its messages in order

A connection does nothing but resolve the messages of its stream, one after the other, and the first
resolution without an answer that can be framed is its last. `Service.Renders` compares what a
connection has done with the resolutions of all its messages: the effects are those of the
resolutions up to and including that one, and what is written are the frames of the answers before
it. Two parts of a stream compose, so the stream may come in any parts, and the recursor may change
its mind meanwhile. A message is resolved when the last of its octets comes.

The parts have to come in time. A connection that has waited too long for the length of a message
has ended, as has one that has failed, and what happens to it then changes nothing.
-/

namespace Tollgate.Dns.Dot

/-! ## Connections -/

variable {resolution : Resolution} {resolutions later : List Resolution} {answer : Octets}
variable {failure : Failure} {ledger : Ledger}

/-- A service and the one that continues it. -/
def Service.followedBy (first next : Service) : Service :=
  { next with
    written := first.written ++ next.written
    forwarded := first.forwarded ++ next.forwarded }

theorem Service.followedBy_idle (service : Service) :
    service.followedBy ⟨service.connection, service.ledger, [], []⟩ = service := by
  rw [followedBy, List.append_nil, List.append_nil]

theorem Service.followedBy_assoc (first second third : Service) :
    (first.followedBy second).followedBy third = first.followedBy (second.followedBy third) := by
  simp only [followedBy, List.append_assoc]

/-- What a connection meets with. -/
inductive Event where
  /-- Octets come in. -/
  | arrives (moment : Moment) (bytes : Octets)
  /-- Some milliseconds pass in which nothing comes in. -/
  | passes (elapsed : Nat)
  /-- The client goes away. -/
  | leaves

/-- What comes of one event. -/
def Connection.after (resolver : Resolver) (connection : Connection) (ledger : Ledger) :
    Event → Service
  | .arrives moment bytes => connection.receive resolver moment.recursor moment.now bytes ledger
  | .passes elapsed => ⟨connection.pass elapsed, ledger, [], []⟩
  | .leaves => ⟨connection.leave, ledger, [], []⟩

/-- What comes of events, one after the other. -/
def Connection.run (resolver : Resolver) (connection : Connection) : List Event → Ledger → Service
  | [], ledger => ⟨connection, ledger, [], []⟩
  | event :: later, ledger =>
    let first := connection.after resolver ledger event
    first.followedBy (first.connection.run resolver later first.ledger)

/-- What comes of a connection that receives octets at some moments, without long waits. -/
def Connection.receiveAll (resolver : Resolver) (connection : Connection)
    (arrivals : List (Moment × Octets)) (ledger : Ledger) : Service :=
  connection.run resolver (arrivals.map fun arrival => .arrives arrival.1 arrival.2) ledger

/-- The octets that come in, in time or not. -/
def arrivals (events : List Event) : List (Moment × Octets) :=
  events.filterMap fun
    | .arrives moment bytes => some (moment, bytes)
    | .passes _ | .leaves => none

/-- The octets that come in time, behind what was received before and after some milliseconds of
waiting. The length of a message has to come in time, counted from the message before it, and
nothing comes in time behind a wait that is too long. -/
def inTime (received : Octets) (waited : Nat) : List Event → List (Moment × Octets)
  | [] => []
  | .arrives moment bytes :: later =>
    let waits := if messagesIn (received ++ bytes) = messagesIn received then waited else 0
    (moment, bytes) :: inTime (received ++ bytes) waits later
  | .passes elapsed :: later =>
    if EndsInside received then inTime received waited later
    else if waited + elapsed < readTimeout then inTime received (waited + elapsed) later
    else []
  | .leaves :: later => inTime received waited later

/-- The messages that become whole as octets come in behind what was received before, each with the
moment at which its last octet comes. -/
def asked (received : Octets) : List (Moment × Octets) → List (Moment × Octets)
  | [] => []
  | (moment, bytes) :: later =>
    ((messagesIn (received ++ bytes)).drop (messagesIn received).length).map (moment, ·) ++
      asked (received ++ bytes) later

/-- A connection has the effects of resolutions, up to and including the first that it fails with,
and has written the answers before that one. -/
structure Service.Renders (resolutions : List Resolution) (connection : Connection)
    (ledger : Ledger) (service : Service) : Prop where
  written_eq : service.written = (answers resolutions).flatMap framed
  forwarded_eq : service.forwarded = (attended resolutions).filterMap (·.forwarded)
  ledger_eq : service.ledger = ledgerAfter ledger (attended resolutions)
  failure_eq : service.connection.failure = firstFailure? resolutions
  token_eq : service.connection.token = connection.token
  peer_eq : service.connection.peer = connection.peer
  listens_eq : service.connection.listens = connection.listens

namespace Service.Renders

variable {connection : Connection} {service next : Service}

/-- Without a failure, what comes later adds its effects. -/
theorem append (h : service.Renders resolutions connection ledger)
    (isOpen : service.connection.failure = none)
    (h' : next.Renders later service.connection service.ledger) :
    (service.followedBy next).Renders (resolutions ++ later) connection ledger := by
  have clean : firstFailure? resolutions = none := h.failure_eq.symm.trans isOpen
  have attended_all := attended_eq_self clean
  constructor
  case written_eq =>
    rw [Service.followedBy, h.written_eq, h'.written_eq, answers_append clean,
      List.flatMap_append]
  case forwarded_eq =>
    rw [Service.followedBy, h.forwarded_eq, h'.forwarded_eq, attended_append clean, attended_all,
      List.filterMap_append]
  case ledger_eq =>
    rw [Service.followedBy, h'.ledger_eq, h.ledger_eq, attended_append clean, attended_all,
      ledgerAfter_append]
  case failure_eq =>
    rw [Service.followedBy, h'.failure_eq, firstFailure?_append, clean, Option.none_or]
  case token_eq => exact h'.token_eq.trans h.token_eq
  case peer_eq => exact h'.peer_eq.trans h.peer_eq
  case listens_eq => exact h'.listens_eq.trans h.listens_eq

/-- After a failure, what comes later adds nothing. -/
theorem append_of_failed (h : service.Renders resolutions connection ledger)
    (failed : service.connection.failure ≠ none) (later : List Resolution) :
    service.Renders (resolutions ++ later) connection ledger := by
  have failed' : firstFailure? resolutions ≠ none := h.failure_eq ▸ failed
  have same := attended_append_of_failed failed' later
  constructor
  case written_eq => rw [h.written_eq, answers, answers, delivered_append_of_failed failed']
  case forwarded_eq => rw [h.forwarded_eq, same]
  case ledger_eq => rw [h.ledger_eq, same]
  case failure_eq =>
    obtain ⟨failure, first⟩ := Option.ne_none_iff_exists'.mp failed'
    rw [h.failure_eq, firstFailure?_append, first, Option.some_or]
  case token_eq => exact h.token_eq
  case peer_eq => exact h.peer_eq
  case listens_eq => exact h.listens_eq

/-- It does not matter how long the connection had waited. -/
theorem of_waited {waited : Nat}
    (h : service.Renders resolutions { connection with waited } ledger) :
    service.Renders resolutions connection ledger :=
  ⟨h.written_eq, h.forwarded_eq, h.ledger_eq, h.failure_eq, h.token_eq, h.peer_eq, h.listens_eq⟩

theorem of_failed (failed : failure? resolution = some failure) (rest : Octets) :
    Service.Renders [resolution] connection ledger
      ⟨{ connection with unread := rest, failure := some failure }, resolution.ledger, [],
        resolution.forwarded.toList⟩ := by
  have nothing : delivered [resolution] = [] := by simp [delivered, failed]
  constructor
  case written_eq => simp [answers, nothing]
  case forwarded_eq => cases sent : resolution.forwarded <;> simp [attended, nothing, sent]
  case ledger_eq => simp [attended, nothing, ledgerAfter]
  case failure_eq => simp [firstFailure?, failed]
  case token_eq => rfl
  case peer_eq => rfl
  case listens_eq => rfl

theorem of_answered (isOpen : connection.failure = none) (answered : resolution.result = .ok answer)
    (fits : answer.length ≤ maxLength) :
    Service.Renders [resolution] connection ledger
      ⟨{ connection with waited := 0 }, resolution.ledger, framed answer,
        resolution.forwarded.toList⟩ := by
  have succeeded : failure? resolution = none :=
    failure?_eq_none_iff.mpr ⟨answer, answered, fits⟩
  have everything : delivered [resolution] = [resolution] := by simp [delivered, succeeded]
  constructor
  case written_eq => simp [answers, everything, answered, Except.toOption]
  case forwarded_eq => cases sent : resolution.forwarded <;> simp [attended, everything, sent]
  case ledger_eq => simp [attended, everything, ledgerAfter]
  case failure_eq => simp [firstFailure?, succeeded, isOpen]
  case token_eq => rfl
  case peer_eq => rfl
  case listens_eq => rfl

end Service.Renders

namespace Connection

variable {connection : Connection} {stream message rest received : Octets}
variable {resolver : Resolver} {recursor : Recursor} {now : Instant} {earlier : List Octets}

theorem serve_of_failed (whole : takeFrame? stream = some (message, rest))
    (failed : failure? (resolver.resolve recursor (connection.query message) now ledger) =
      some failure) :
    serve resolver recursor now connection stream ledger =
      ⟨{ connection with unread := rest, failure := some failure },
        (resolver.resolve recursor (connection.query message) now ledger).ledger, [],
        (resolver.resolve recursor (connection.query message) now ledger).forwarded.toList⟩ := by
  rw [serve_of_message _ _ _ _ _ whole]
  dsimp only
  cases failure?_eq_some_iff.mp failed with
  | rejected refused => rw [refused]
  | messageTooLarge answered long =>
      rw [answered]
      dsimp only
      rw [frame?_of_lt long]

theorem serve_of_answered (listens : connection.listens = true)
    (whole : takeFrame? stream = some (message, rest))
    (answered : (resolver.resolve recursor (connection.query message) now ledger).result =
      .ok answer)
    (fits : answer.length ≤ maxLength) :
    serve resolver recursor now connection stream ledger =
      let resolution := resolver.resolve recursor (connection.query message) now ledger
      Service.followedBy
        ⟨{ connection with waited := 0 }, resolution.ledger, framed answer,
          resolution.forwarded.toList⟩
        (serve resolver recursor now { connection with waited := 0 } rest resolution.ledger) := by
  rw [serve_of_message _ _ _ _ _ whole]
  dsimp only
  rw [answered]
  dsimp only
  rw [frame?_of_le fits]
  dsimp only
  rw [if_pos listens]
  rfl

theorem serve_of_not_taken (gone : connection.listens = false)
    (whole : takeFrame? stream = some (message, rest))
    (delivered : failure? (resolver.resolve recursor (connection.query message) now ledger) =
      none) :
    serve resolver recursor now connection stream ledger =
      ⟨{ connection with unread := rest, failure := some .notTaken },
        (resolver.resolve recursor (connection.query message) now ledger).ledger, [],
        (resolver.resolve recursor (connection.query message) now ledger).forwarded.toList⟩ := by
  obtain ⟨answer, answered, fits⟩ := failure?_eq_none_iff.mp delivered
  rw [serve_of_message _ _ _ _ _ whole]
  dsimp only
  rw [answered]
  dsimp only
  rw [frame?_of_le fits]
  exact if_neg (by rw [gone]; decide)

theorem serve_renders (resolver : Resolver) (moment : Moment)
    (noFailure : connection.failure = none) (listens : connection.listens = true) (stream : Octets) (ledger : Ledger) :
    (serve resolver moment.recursor moment.now connection stream ledger).Renders
      (resolver.resolveAll connection.query ((messagesIn stream).map (moment, ·)) ledger)
      connection ledger := by
  induction stream using messagesIn.induct generalizing connection ledger with
  | case1 stream nothing =>
      rw [serve_of_incomplete _ _ _ _ _ nothing,
        messagesIn_of_incomplete (takeFrame?_eq_none_iff.mp nothing)]
      exact ⟨rfl, rfl, rfl, noFailure, rfl, rfl, rfl⟩
  | case2 stream message rest whole shorter ih =>
      rw [messagesIn_of_whole whole, List.map_cons, Resolver.resolveAll]
      cases failed : failure?
          (resolver.resolve moment.recursor (connection.query message) moment.now ledger) with
      | some failure =>
          rw [serve_of_failed whole failed]
          exact (Service.Renders.of_failed failed rest).append_of_failed
            (Option.some_ne_none failure) _
      | none =>
          obtain ⟨answer, answered, fits⟩ := failure?_eq_none_iff.mp failed
          rw [serve_of_answered listens whole answered fits]
          exact (Service.Renders.of_answered noFailure answered fits).append noFailure
            (@ih { connection with waited := 0 } noFailure listens _)

/-- While a connection does not fail, what is left unread of a stream is its tail, and the wait for
the next length begins anew with every message. -/
theorem serve_of_no_failure (resolver : Resolver) (recursor : Recursor) (now : Instant)
    (connection : Connection) (stream : Octets) (ledger : Ledger)
    (noFailure :
      (serve resolver recursor now connection stream ledger).connection.failure = none) :
    Frames stream (messagesIn stream)
        (serve resolver recursor now connection stream ledger).connection.unread ∧
      (serve resolver recursor now connection stream ledger).connection.waited =
        if messagesIn stream = [] then connection.waited else 0 := by
  induction stream using messagesIn.induct generalizing connection ledger with
  | case1 stream nothing =>
      have incomplete := takeFrame?_eq_none_iff.mp nothing
      rw [serve_of_incomplete _ _ _ _ _ nothing, messagesIn_of_incomplete incomplete]
      exact ⟨.nil incomplete, rfl⟩
  | case2 stream message rest whole shorter ih =>
      obtain ⟨message_fits, stream_eq⟩ := takeFrame?_eq_some whole
      cases failed : failure?
          (resolver.resolve recursor (connection.query message) now ledger) with
      | some failure =>
          rw [serve_of_failed whole failed] at noFailure
          cases noFailure
      | none =>
          cases listens : connection.listens with
          | false =>
              rw [serve_of_not_taken listens whole failed] at noFailure
              cases noFailure
          | true =>
              obtain ⟨answer, answered, fits⟩ := failure?_eq_none_iff.mp failed
              rw [serve_of_answered listens whole answered fits] at noFailure ⊢
              obtain ⟨frames, waited_eq⟩ := ih _ _ noFailure
              rw [messagesIn_of_whole whole]
              constructor
              · nth_rewrite 1 [stream_eq]
                exact .cons message_fits frames
              · rw [if_neg (List.cons_ne_nil message _)]
                exact waited_eq.trans (ite_self 0)

/-! ## Events -/

theorem isOpen_iff :
    connection.isOpen = true ↔ connection.failure = none ∧ connection.waited < readTimeout := by
  simp [isOpen]

theorem isOpen_eq_false_iff :
    connection.isOpen = false ↔ connection.failure ≠ none ∨ readTimeout ≤ connection.waited := by
  rw [← Bool.not_eq_true, isOpen_iff, not_and_or, Nat.not_lt]

theorem receive_of_open (isOpen : connection.isOpen = true) (bytes : Octets) :
    connection.receive resolver recursor now bytes ledger =
      serve resolver recursor now connection (connection.unread ++ bytes) ledger :=
  if_pos isOpen

/-- A connection that has ended takes no notice of anything. -/
theorem after_of_ended (ended : connection.isOpen = false) (event : Event) (ledger : Ledger) :
    connection.after resolver ledger event = ⟨connection, ledger, [], []⟩ := by
  cases event with
  | arrives moment bytes => simp [after, receive, ended]
  | passes elapsed => simp [after, pass, ended]
  | leaves => simp [after, leave, ended]

theorem run_of_ended (ended : connection.isOpen = false) (events : List Event) (ledger : Ledger) :
    connection.run resolver events ledger = ⟨connection, ledger, [], []⟩ := by
  induction events with
  | nil => rfl
  | cons event later ih =>
      rw [run, after_of_ended ended, ih]
      rfl

theorem run_append (resolver : Resolver) (connection : Connection) (events later : List Event)
    (ledger : Ledger) :
    connection.run resolver (events ++ later) ledger =
      (connection.run resolver events ledger).followedBy
        ((connection.run resolver events ledger).connection.run resolver later
          (connection.run resolver events ledger).ledger) := by
  induction events generalizing connection ledger with
  | nil => rfl
  | cons event rest ih =>
      rw [List.cons_append, run, run, ih, ← Service.followedBy_assoc]
      rfl

theorem run_passes (connection : Connection) (elapsed : Nat) (later : List Event)
    (ledger : Ledger) :
    connection.run resolver (.passes elapsed :: later) ledger =
      (connection.pass elapsed).run resolver later ledger := rfl

/-- Nothing but the wait is longer. -/
theorem exists_pass_eq (connection : Connection) (elapsed : Nat) :
    ∃ waited, connection.pass elapsed = { connection with waited } := by
  unfold pass
  split
  next => exact ⟨_, rfl⟩
  next => exact ⟨connection.waited, rfl⟩

theorem pass_cases (held : Frames received earlier connection.unread)
    (isOpen : connection.isOpen = true) (elapsed : Nat) (later : List Event) :
    ((connection.pass elapsed).isOpen = true ∧
      inTime received connection.waited (.passes elapsed :: later) =
        inTime received (connection.pass elapsed).waited later) ∨
    ((connection.pass elapsed).isOpen = false ∧
      inTime received connection.waited (.passes elapsed :: later) = []) := by
  obtain ⟨noFailure, inTime_still⟩ := isOpen_iff.mp isOpen
  by_cases inside : EndsInside received
  · have waits : connection.pass elapsed = connection := by
      simp [pass, insideMessage, held.endsInside_iff.mp inside]
    left
    rw [waits, inTime, if_pos inside]
    exact ⟨isOpen, rfl⟩
  · have waits : connection.pass elapsed =
        { connection with waited := connection.waited + elapsed } := by
      simp [pass, isOpen, insideMessage, mt held.endsInside_iff.mpr inside]
    rw [waits, inTime, if_neg inside]
    by_cases soon : connection.waited + elapsed < readTimeout
    · left
      rw [if_pos soon]
      exact ⟨isOpen_iff.mpr ⟨noFailure, soon⟩, rfl⟩
    · right
      rw [if_neg soon]
      exact ⟨isOpen_eq_false_iff.mpr (Or.inr (Nat.not_lt.mp soon)), rfl⟩

/-- The octets that a connection has not read are behind the last message, and it waits for the next
one as long as that is missing. -/
theorem receive_of_no_failure (resolver : Resolver) (ledger : Ledger)
    (held : Frames received earlier connection.unread) (isOpen : connection.isOpen = true)
    (moment : Moment) (bytes : Octets)
    (noFailure : (connection.receive resolver moment.recursor moment.now bytes
      ledger).connection.failure = none) :
    let service := connection.receive resolver moment.recursor moment.now bytes ledger
    service.connection.isOpen = true ∧
      Frames (received ++ bytes) (earlier ++ messagesIn (connection.unread ++ bytes))
        service.connection.unread ∧
      (if messagesIn (received ++ bytes) = messagesIn received then connection.waited else 0) =
        service.connection.waited := by
  intro service
  have served : service = serve resolver moment.recursor moment.now connection
      (connection.unread ++ bytes) ledger := receive_of_open isOpen bytes
  obtain ⟨frames, waited_eq⟩ := serve_of_no_failure resolver moment.recursor moment.now connection
    (connection.unread ++ bytes) ledger (served ▸ noFailure)
  rw [← served] at frames waited_eq
  have together := held.append frames
  have same : messagesIn (received ++ bytes) = messagesIn received ↔
      messagesIn (connection.unread ++ bytes) = [] := by
    rw [together.messagesIn_eq, held.messagesIn_eq, List.append_right_eq_self]
  refine ⟨isOpen_iff.mpr ⟨noFailure, ?_⟩, together, ?_⟩
  · rw [waited_eq]
    split
    next => exact (isOpen_iff.mp isOpen).2
    next => decide
  · rw [waited_eq]
    simp only [same]

theorem query_congr {other : Connection} (token : other.token = connection.token)
    (peer : other.peer = connection.peer) : other.query = connection.query := by
  funext message
  rw [query, query, token, peer]

/-- While its client listens, what a connection does are the resolutions of the messages that become
whole in time. -/
theorem run_renders (resolver : Resolver) (connection : Connection)
    (held : Frames received earlier connection.unread) (isOpen : connection.isOpen = true)
    (listens : connection.listens = true) (events : List Event) (stays : .leaves ∉ events)
    (ledger : Ledger) :
    (connection.run resolver events ledger).Renders
      (resolver.resolveAll connection.query
        (asked received (inTime received connection.waited events)) ledger) connection ledger := by
  have noFailure := (isOpen_iff.mp isOpen).1
  induction events generalizing connection received earlier ledger with
  | nil => exact ⟨rfl, rfl, rfl, noFailure, rfl, rfl, rfl⟩
  | cons event later ih =>
      have stays_later : .leaves ∉ later := fun mem => stays (List.mem_cons_of_mem event mem)
      cases event with
      | arrives moment bytes =>
          have renders := serve_renders resolver moment noFailure listens
            (connection.unread ++ bytes) ledger
          have follows := receive_of_no_failure resolver ledger held isOpen moment bytes
          rw [run, inTime, asked, held.drop_messagesIn, Resolver.resolveAll_append, after]
          rw [← receive_of_open isOpen bytes] at renders
          generalize connection.receive resolver moment.recursor moment.now bytes ledger = first
            at renders follows ⊢
          -- while the connection is open, what it has not read is the tail of all that it received
          by_cases failed : first.connection.failure = none
          · obtain ⟨open_still, frames_still, waits⟩ := follows failed
            have rest := ih first.connection frames_still open_still
              (renders.listens_eq.trans listens) stays_later first.ledger failed
            have clean := renders.failure_eq.symm.trans failed
            rw [query_congr renders.token_eq renders.peer_eq] at rest
            rw [waits, ← attended_eq_self clean, ← renders.ledger_eq, attended_eq_self clean]
            exact renders.append failed rest
          · have ended := isOpen_eq_false_iff.mpr (Or.inl failed)
            rw [run_of_ended ended, Service.followedBy_idle]
            exact renders.append_of_failed failed _
      | passes elapsed =>
          obtain ⟨waited, pass_eq⟩ := connection.exists_pass_eq elapsed
          rw [run_passes]
          rcases pass_cases held isOpen elapsed later with ⟨open_still, rest⟩ | ⟨ended, rest⟩
          · rw [rest]
            rw [pass_eq] at open_still ⊢
            exact (ih { connection with waited } held open_still listens stays_later ledger
              noFailure).of_waited
          · rw [rest, run_of_ended ended, pass_eq]
            exact ⟨rfl, rfl, rfl, noFailure, rfl, rfl, rfl⟩
      | leaves => exact absurd List.mem_cons_self stays

end Connection

/-! ## What is sent and received -/

variable {received : Octets}

theorem map_snd_asked (received : Octets) (arrivals : List (Moment × Octets)) :
    messagesIn received ++ (asked received arrivals).map (·.2) =
      messagesIn (received ++ arrivals.flatMap (·.2)) := by
  induction arrivals generalizing received with
  | nil => simp [asked]
  | cons arrival later ih =>
      obtain ⟨moment, bytes⟩ := arrival
      have split_here : messagesIn received ++
          (messagesIn (received ++ bytes)).drop (messagesIn received).length =
            messagesIn (received ++ bytes) :=
        List.prefix_append_drop (messagesIn_isPrefix received bytes) |>.symm
      rw [asked, List.map_append, List.map_map, ← List.append_assoc, List.flatMap_cons,
        ← List.append_assoc, ← ih]
      congr 1
      exact (congrArg _ (List.map_id _)).trans split_here

/-- The messages that become whole are those of the whole stream. -/
theorem frames_asked (arrivals : List (Moment × Octets)) :
    ∃ tail, Frames (arrivals.flatMap (·.2)) ((asked [] arrivals).map (·.2)) tail := by
  have whole := map_snd_asked [] arrivals
  rw [messagesIn_nil, List.nil_append, List.nil_append] at whole
  rw [whole]
  exact exists_frames _

theorem frames_answers (resolutions : List Resolution) :
    Frames ((answers resolutions).flatMap framed) (answers resolutions) [] where
  stream_eq := (List.append_nil _).symm
  fit := by
    intro answer mem
    obtain ⟨resolution, isDelivered, answered⟩ := List.mem_filterMap.mp mem
    obtain ⟨answer', result, fits⟩ :=
      failure?_eq_none_iff.mp (failure?_of_mem_delivered isDelivered)
    rw [result] at answered
    obtain rfl := Option.some.inj answered
    exact fits
  incomplete := trivial

theorem asked_framed {messages : List (Moment × Octets)} {earlier : List Octets}
    (held : Frames received earlier [])
    (fit : ∀ message ∈ messages, message.2.length ≤ maxLength) :
    asked received (messages.map fun message => (message.1, framed message.2)) = messages := by
  induction messages generalizing received earlier with
  | nil => rfl
  | cons first later ih =>
      obtain ⟨moment, message⟩ := first
      have fits : message.length ≤ maxLength := fit _ List.mem_cons_self
      have alone : Frames ([] ++ framed message) [message] [] := by
        simpa using Frames.cons fits .empty
      have together := held.append alone
      rw [List.map_cons, asked, together.messagesIn_eq, held.messagesIn_eq, List.drop_left,
        ih together fun other mem => fit other (List.mem_cons_of_mem _ mem)]
      rfl

theorem Service.Renders.of_attended {connection : Connection} {service : Service}
    (h : service.Renders (attended resolutions) connection ledger) :
    service.Renders resolutions connection ledger := by
  by_cases clean : firstFailure? resolutions = none
  · rwa [attended_eq_self clean] at h
  · have failed : service.connection.failure ≠ none := by
      rwa [h.failure_eq, firstFailure?_attended]
    obtain ⟨rest, parts⟩ := attended_isPrefix resolutions
    have more := h.append_of_failed failed rest
    rwa [parts] at more

/-- Octets that come without any wait come in time. -/
theorem inTime_arrives (received : Octets) (waited : Nat) (arrivals : List (Moment × Octets)) :
    inTime received waited (arrivals.map fun arrival => .arrives arrival.1 arrival.2) =
      arrivals := by
  induction arrivals generalizing received waited with
  | nil => rfl
  | cons arrival later ih => rw [List.map_cons, inTime, ih]

namespace Connection

variable (resolver : Resolver) (token : Option String) (peer : Address)

theorem receiveAll_renders_asked (arrivals : List (Moment × Octets)) (ledger : Ledger) :
    (receiveAll resolver { token, peer } arrivals ledger).Renders
      (resolver.resolveAll (fun message => ⟨token, .host, message, peer, none, false⟩)
        (asked [] arrivals) ledger) { token, peer } ledger := by
  have renders := run_renders resolver { token, peer } .empty rfl rfl
    (arrivals.map fun arrival => .arrives arrival.1 arrival.2) (by simp) ledger
  rwa [inTime_arrives] at renders

theorem receiveAll_cons {resolver : Resolver} {connection : Connection} {moment : Moment}
    {bytes : Octets} {first : Service}
    (received : connection.receive resolver moment.recursor moment.now bytes ledger = first)
    (later : List (Moment × Octets)) :
    connection.receiveAll resolver ((moment, bytes) :: later) ledger =
      first.followedBy (first.connection.receiveAll resolver later first.ledger) := by
  subst received
  rfl

/-- It is enough to receive the first messages, each in its frame. -/
theorem receiveAll_renders_take (arrivals : List (Moment × Octets)) (count : Nat)
    (ledger : Ledger) :
    (receiveAll resolver { token, peer } (((asked [] arrivals).take count).map
        fun message => (message.1, framed message.2)) ledger).Renders
      ((resolver.resolveAll (fun message => ⟨token, .host, message, peer, none, false⟩)
        (asked [] arrivals) ledger).take count) { token, peer } ledger := by
  obtain ⟨tail, frames⟩ := frames_asked arrivals
  have fit : ∀ message ∈ (asked [] arrivals).take count, message.2.length ≤ maxLength := by
    intro message mem
    exact frames.fit _ (List.mem_map_of_mem (List.mem_of_mem_take mem))
  have renders := receiveAll_renders_asked resolver token peer (((asked [] arrivals).take count).map
    fun message => (message.1, framed message.2)) ledger
  rwa [asked_framed .empty fit, Resolver.resolveAll_take] at renders

end Connection

end Tollgate.Dns.Dot
