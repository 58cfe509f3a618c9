import Tollgate.Proofs.Dns.ConnectionCourse

/-!
# Where a stream of messages ends

A stream of frames may end behind a frame or inside one. When it ends, a connection that has not
failed takes what it has not read for the beginning of a message if its length is there, and then
the message has been cut off. So the end is told from a cut, wherever the stream ends and in
whatever parts it came, but for one place: behind the first octet of a length nothing is missed.
-/

namespace Tollgate.Dns.Dot

/-- A stream consists of the frames of some messages and the first octets of another frame, as many
as are counted. -/
structure CutAt (stream : Octets) (messages : List Octets) (next : Octets) (count : Nat) :
    Prop where
  stream_eq : stream = messages.flatMap framed ++ (framed next).take count
  fit : ∀ message ∈ messages, message.length ≤ maxLength
  next_fits : next.length ≤ maxLength
  inside : count < (framed next).length

variable {stream tail next : Octets} {messages : List Octets} {count : Nat}

/-! ## Cut frames -/

theorem length_framed (message : Octets) : (framed message).length = message.length + 2 := rfl

/-- The length of a message, spelled by two octets. -/
theorem framed_of_length {high low : UInt8} {message : Octets}
    (length : message.length = high.toNat * 256 + low.toNat) :
    framed message = high :: low :: message := by
  have low_lt := low.toNat_lt
  have high_eq : (high.toNat * 256 + low.toNat) / 256 = high.toNat := by omega
  have low_eq : (high.toNat * 256 + low.toNat) % 256 = low.toNat := by omega
  rw [framed, length, high_eq, low_eq]
  simp

theorem incomplete_take_framed (fits : next.length ≤ maxLength)
    (inside : count < (framed next).length) : Incomplete ((framed next).take count) := by
  rw [← takeFrame?_eq_none_iff]
  cases whole : takeFrame? ((framed next).take count) with
  | none => rfl
  | some parts =>
      -- The message taken off would be taken off the whole frame too, and so leave nothing behind.
      obtain ⟨message, rest⟩ := parts
      obtain ⟨message_fits, stream_eq⟩ := takeFrame?_eq_some whole
      have frame_eq : framed next = framed message ++ (rest ++ (framed next).drop count) := by
        rw [← List.append_assoc, ← stream_eq, List.take_append_drop]
      have all := takeFrame?_framed_append fits []
      rw [List.append_nil, frame_eq, takeFrame?_framed_append message_fits] at all
      obtain ⟨-, nothing⟩ := Prod.mk.inj (Option.some.inj all)
      have dropped := (List.append_eq_nil_iff.mp nothing).2
      rw [List.drop_eq_nil_iff] at dropped
      omega

theorem exists_take_framed (incomplete : Incomplete tail) :
    ∃ next count, next.length ≤ maxLength ∧ count < (framed next).length ∧
      tail = (framed next).take count := by
  match tail with
  | [] => exact ⟨[], 0, by decide, by decide, rfl⟩
  | [high] =>
      have length : (List.replicate (high.toNat * 256) (0 : UInt8)).length =
          high.toNat * 256 + (0 : UInt8).toNat := by
        rw [List.length_replicate, UInt8.toNat_zero, Nat.add_zero]
      have high_lt := high.toNat_lt
      refine ⟨List.replicate (high.toNat * 256) 0, 1, ?_, ?_, ?_⟩
      · rw [List.length_replicate, maxLength]
        omega
      · rw [length_framed]
        omega
      · rw [framed_of_length length]
        rfl
  | high :: low :: rest =>
      obtain ⟨missing, spelled⟩ := Nat.exists_eq_add_of_lt (show rest.length < _ from incomplete)
      have high_lt := high.toNat_lt
      have low_lt := low.toNat_lt
      have length : (rest ++ List.replicate (missing + 1) (0 : UInt8)).length =
          high.toNat * 256 + low.toNat := by
        rw [List.length_append, List.length_replicate, spelled, Nat.add_assoc]
      refine ⟨rest ++ List.replicate (missing + 1) 0, rest.length + 2, ?_, ?_, ?_⟩
      · rw [length, maxLength]
        omega
      · rw [length_framed, length]
        omega
      · rw [framed_of_length length]
        simp

theorem CutAt.frames (cut : CutAt stream messages next count) :
    Frames stream messages ((framed next).take count) :=
  ⟨cut.stream_eq, cut.fit, incomplete_take_framed cut.next_fits cut.inside⟩

/-- Every stream ends somewhere. -/
theorem exists_cutAt (stream : Octets) :
    ∃ messages next count, CutAt stream messages next count := by
  obtain ⟨tail, frames⟩ := exists_frames stream
  obtain ⟨next, count, next_fits, inside, rfl⟩ := exists_take_framed frames.incomplete
  exact ⟨_, next, count, frames.stream_eq, frames.fit, next_fits, inside⟩

/-- Nothing fails exactly if every message has an answer that fits a frame. -/
theorem firstFailure?_eq_none_iff_answered {resolutions : List Resolution} :
    firstFailure? resolutions = none ↔
      ∀ resolution ∈ resolutions, ∃ answer, resolution.result = .ok answer ∧
        answer.length ≤ maxLength :=
  firstFailure?_eq_none_iff.trans (forall₂_congr fun _ _ => failure?_eq_none_iff)

namespace Connection

variable {connection : Connection} {resolver : Resolver} {events : List Event} {ledger : Ledger}
variable {failure : Failure}

/-! ## The end of the stream -/

theorem close_of_failed (failed : connection.failure = some failure) :
    connection.close = .error failure := by
  rw [close, failed]

theorem close_of_open (isOpen : connection.failure = none) :
    connection.close = if 2 ≤ connection.unread.length then .error .endedEarly else .ok () := by
  rw [close, isOpen]
  simp [insideMessage]

variable {token : Option String} {peer : Address}

/-- A connection that has not failed ends as the last octets of its stream say. -/
theorem close_run (on_time : inTime [] 0 events = arrivals events)
    (cut : CutAt ((arrivals events).flatMap (·.2)) messages next count)
    (noFailure : (run resolver { token, peer } events ledger).connection.failure = none) :
    (run resolver { token, peer } events ledger).connection.close =
      if 2 ≤ count then .error .endedEarly else .ok () := by
  obtain ⟨⟨others, frames⟩, -⟩ := received_of_no_failure Frames.empty rfl noFailure
  rw [List.nil_append, on_time] at frames
  obtain ⟨-, unread⟩ := cut.frames.unique frames
  rw [close_of_open noFailure, unread, List.length_take_of_le (Nat.le_of_lt cut.inside)]

/-- Of a connection whose messages have come in time and have all been answered, in frames, the end
of its stream is an error exactly if it ends inside a message. That is inside a frame, except behind
the first octet of a length, where it is none. So the rule that a connection ends well exactly if its
stream ends at the boundary of a frame holds at all places but this one. A message that has no
answer, or none that fits a frame, is what a connection ends with wherever its stream does. -/
theorem cut_reported_iff (resolver : Resolver) (token : Option String) (peer : Address)
    (events : List Event) (ledger : Ledger) (stays : .leaves ∉ events)
    (on_time : inTime [] 0 events = arrivals events) :
    let query : Octets → Query := fun message => ⟨token, .host, message, peer, none, false⟩
    let resolutions := resolver.resolveAll query (asked [] (arrivals events)) ledger
    let ending := (run resolver { token, peer } events ledger).connection.close
    (∃ messages next count, CutAt ((arrivals events).flatMap (·.2)) messages next count) ∧
      (∀ failure, firstFailure? resolutions = some failure → ending = .error failure) ∧
      ∀ messages next count, CutAt ((arrivals events).flatMap (·.2)) messages next count →
        (asked [] (arrivals events)).map (·.2) = messages ∧
          ((∀ resolution ∈ resolutions, ∃ answer, resolution.result = .ok answer ∧
              answer.length ≤ maxLength) →
            (ending = .ok () ↔ count < 2) ∧ (ending = .error .endedEarly ↔ 2 ≤ count) ∧
              ((ending = .ok () ↔ count = 0) ↔ count ≠ 1)) := by
  intro query resolutions ending
  have renders := run_renders resolver { token, peer } .empty rfl rfl events stays ledger
  rw [on_time] at renders
  refine ⟨exists_cutAt _, fun failure failed => ?_, fun messages next count cut => ⟨?_, ?_⟩⟩
  · exact close_of_failed (renders.failure_eq.trans failed)
  · obtain ⟨tail, frames⟩ := frames_asked (arrivals events)
    exact (cut.frames.unique frames).1
  · intro answered
    have clean := firstFailure?_eq_none_iff_answered.mpr answered
    have ended : ending = if 2 ≤ count then .error .endedEarly else .ok () :=
      close_run on_time cut (renders.failure_eq.trans clean)
    by_cases inMessage : 2 ≤ count
    · rw [ended, if_pos inMessage]
      simp
      omega
    · rw [ended, if_neg inMessage]
      simp
      omega

open Resolver (plainResolver relayedQuery fiveBytes)

/-- After a wait, a message in its frame comes, and some octets more. -/
def askedBefore (more : Octets) : List Event :=
  [.passes 20000, .arrives ⟨2, fun _ => some [1, 2, 3]⟩ (framed relayedQuery.message ++ more)]

theorem stays_askedBefore (more : Octets) : .leaves ∉ askedBefore more := by
  simp [askedBefore]

theorem askedBefore_on_time (more : Octets) :
    inTime [] 0 (askedBefore more) = arrivals (askedBefore more) := by
  have outside : ¬ EndsInside [] := by decide
  rw [askedBefore, inTime, if_neg outside]
  rfl

theorem cutAt_askedBefore (next : Octets) (count : Nat) (next_fits : next.length ≤ maxLength)
    (inside : count < (framed next).length) :
    CutAt ((arrivals (askedBefore ((framed next).take count))).flatMap (·.2))
      [relayedQuery.message] next count where
  stream_eq := by simp [askedBefore, arrivals]
  fit := by
    intro message mem
    rw [List.mem_singleton.mp mem]
    decide +kernel
  next_fits := next_fits
  inside := inside

/-- Five octets of a second message are missed. -/
theorem cut_inside_second_message :
    let events := askedBefore ((framed relayedQuery.message).take 5)
    .leaves ∉ events ∧ inTime [] 0 events = arrivals events ∧
      (run plainResolver { token := some "a", peer := relayedQuery.peer } events
        (.store fiveBytes)).connection.close = .error .endedEarly := by
  intro events
  have stays : .leaves ∉ events := stays_askedBefore _
  have on_time : inTime [] 0 events = arrivals events := askedBefore_on_time _
  have cut := cutAt_askedBefore relayedQuery.message 5 (by decide +kernel) (by decide +kernel)
  have clean : firstFailure? (plainResolver.resolveAll
      (fun message => ⟨some "a", .host, message, relayedQuery.peer, none, false⟩)
      (asked [] (arrivals events)) (.store fiveBytes)) = none := by
    rw [← Option.isNone_iff_eq_none]
    decide +kernel
  obtain ⟨-, -, ends⟩ := cut_reported_iff plainResolver (some "a") relayedQuery.peer events
    (.store fiveBytes) stays on_time
  obtain ⟨-, ends⟩ := ends _ _ _ cut
  exact ⟨stays, on_time,
    (ends (firstFailure?_eq_none_iff_answered.mp clean)).2.1.mpr (by decide)⟩

/-- The first octet of a length is taken for the end of the stream, though a frame is cut there. -/
theorem half_length_taken_for_end :
    let events := askedBefore [0]
    CutAt ((arrivals events).flatMap (·.2)) [relayedQuery.message] [] 1 ∧
      (∀ resolution ∈ plainResolver.resolveAll
          (fun message => ⟨some "a", .host, message, relayedQuery.peer, none, false⟩)
          (asked [] (arrivals events)) (.store fiveBytes),
        ∃ answer, resolution.result = .ok answer ∧ answer.length ≤ maxLength) ∧
      (run plainResolver { token := some "a", peer := relayedQuery.peer } events
        (.store fiveBytes)).connection.close = .ok () := by
  intro events
  have on_time : inTime [] 0 events = arrivals events := askedBefore_on_time _
  have cut : CutAt ((arrivals events).flatMap (·.2)) [relayedQuery.message] [] 1 :=
    cutAt_askedBefore [] 1 (by decide) (by decide)
  have clean : firstFailure? (plainResolver.resolveAll
      (fun message => ⟨some "a", .host, message, relayedQuery.peer, none, false⟩)
      (asked [] (arrivals events)) (.store fiveBytes)) = none := by
    rw [← Option.isNone_iff_eq_none]
    decide +kernel
  have renders := run_renders plainResolver { token := some "a", peer := relayedQuery.peer } .empty
    rfl rfl events (stays_askedBefore _) (.store fiveBytes)
  rw [on_time] at renders
  exact ⟨cut, firstFailure?_eq_none_iff_answered.mp clean,
    close_run on_time cut (renders.failure_eq.trans clean)⟩

end Connection

end Tollgate.Dns.Dot
