import RegisterLink.Proofs.Call.Verdict
import RegisterLink.Proofs.Likeness.Patience
import RegisterLink.Proofs.Stream.Deadline

/-!
# Calls with a time limit

Once the request of a ping or a read is sent, the segments that are due within the time limit
decide. If they begin with a frame, that is the answer, and the limit makes no difference. If they
do not, the call ends as the stream does if that comes in time, and for want of an answer otherwise;
then the bytes that were due are gone.
-/
namespace RegisterLink

/-- What a call with a time limit comes to when `early` is all that is due in time. -/
structure TimedVerdict (call : Call) (session : Session) (before : Stream) (limit : Nat)
    (early : List Segment) (answer : Answer) (after : Client) : Prop where
  in_time : ∀ frame rest, early.flatMap Segment.data = frame.encode ++ rest →
    let patient :=
      Client.perform (.call call) { stream := before, session := some session.unlimited }
    call.Answered session before frame ∧
      before.inbound.unread = frame.encode ++ after.stream.inbound.unread ∧
      patient.1 = answer ∧ patient.2.stream = after.stream ∧
      patient.2.session.map Session.unlimited = after.session.map Session.unlimited
  ended : ¬ BeginsWithFrame (early.flatMap Segment.data) → early = before.inbound.segments →
    (before.inbound.ending = .closed → answer = .failed (.transport .endOfStream)) ∧
      ∀ kind, before.inbound.ending = .broken kind → answer = .failed (.transport (.broken kind))
  too_late : ¬ BeginsWithFrame (early.flatMap Segment.data) →
    early ≠ before.inbound.segments ∨ before.inbound.ending = .silent →
      answer = .failed (.transport (.noResponse limit)) ∧
        before.inbound.unread = early.flatMap Segment.data ++ after.stream.inbound.unread ∧
        after.session = some { session with desynchronized := true }

/-! ## Exchanges -/

namespace Stream

variable {before sent : Stream} {request : Frame} {limit : Nat}

theorem exchange_of_due {frame : Frame} {rest : List UInt8}
    (hsent : Stream.writeFrame request before = (.done (), sent))
    (hfilled : Filled before.inbound.segments)
    (h : dueBytes limit before.inbound.segments = frame.encode ++ rest) :
    ∃ after, Stream.exchange (some limit) request before = (.done frame, after) := by
  obtain ⟨-, -, hinbound⟩ := writeFrame_dispatched hsent
  obtain ⟨inbound, hread⟩ := Inbound.readFrame_of_due hfilled h
  refine ⟨{ sent with inbound }, ?_⟩
  rw [Stream.exchange, Action.bind_of_done hsent, Stream.readFrame, Action.within, hinbound, hread]

theorem exchange_past_due (hsent : Stream.writeFrame request before = (.done (), sent))
    (hfilled : Filled before.inbound.segments)
    (h : ¬ BeginsWithFrame (dueBytes limit before.inbound.segments)) :
    ∃ after, Stream.exchange (some limit) request before =
        ((shortfallWithin before.inbound.ending limit before.inbound.segments).outcome (some limit),
          after) ∧
      before.inbound.unread =
        dueBytes limit before.inbound.segments ++ after.inbound.unread := by
  obtain ⟨-, -, hinbound⟩ := writeFrame_dispatched hsent
  obtain ⟨inbound, hread, hbytes⟩ :=
    Inbound.readFrame_past_due hfilled (incomplete_of_no_frame h)
  refine ⟨{ sent with inbound }, ?_, hbytes⟩
  rw [Stream.exchange, Action.bind_of_done hsent, Stream.readFrame, Action.within, hinbound, hread]

end Stream

/-! ## Calls -/

namespace Call

variable {call : Call} {session : Session} {before : Stream}

theorem exists_judge (h : call.Asks) : ∃ judge, call.judge? = some judge := by
  cases hjudge : call.judge? with
  | some judge => exact ⟨judge, rfl⟩
  | none => exact absurd h (not_asks_of_unanswered hjudge)

theorem goes_on_of_asks (h : call.Asks) : call.endsSession = false := by
  cases call with
  | bye | release => cases h
  | _ => rfl

/-- An answer may be refused, but then it is not the stream that failed. -/
theorem client_of_answer {request answer : Frame} {stream : Stream} (hasks : call.Asks)
    (hsync : session.desynchronized = false)
    (hrequest : call.request? session.device.deviceId = some request)
    (h : Stream.exchange session.limit request before = (.done answer, stream)) :
    let result := Client.perform (.call call) { stream := before, session := some session }
    result.2.stream = stream ∧ ∀ fault, result.1 ≠ .failed (.transport fault) := by
  obtain ⟨judge, hjudge⟩ := exists_judge hasks
  cases hverdict : judge answer with
  | ok reply =>
    have hperform : call.perform { stream := before, session } = (.done reply, _) :=
      perform_of_answer_ok hsync hrequest hjudge h hverdict
    rw [Client.perform_call_of_perform hperform]
    exact ⟨rfl, nofun⟩
  | error fault =>
    have hperform : call.perform { stream := before, session } = (.failed (.protocol fault), _) :=
      perform_of_answer_error hsync hrequest hjudge h hverdict
    rw [Client.perform_call_of_perform hperform]
    exact ⟨rfl, nofun⟩

theorem client_of_exchange_failed {request : Frame} {stream : Stream} {fault : TransportFault}
    (hasks : call.Asks) (hsync : session.desynchronized = false)
    (hrequest : call.request? session.device.deviceId = some request)
    (h : Stream.exchange session.limit request before = (.failed (.transport fault), stream)) :
    Client.perform (.call call) { stream := before, session := some session } =
      (.failed (.transport fault),
        { stream, session := some { session with desynchronized := true } }) := by
  obtain ⟨judge, hjudge⟩ := exists_judge hasks
  have hperform : call.perform { stream := before, session } = (.failed (.transport fault), _) :=
    perform_of_exchange_failed hsync hrequest hjudge h
  rw [Client.perform_call_of_perform hperform, goes_on_of_asks hasks]
  rfl

/-- If no frame is due, the call fails as the reader does that has taken all that is due. -/
theorem client_past_due {request : Frame} {sent : Stream} {limit : Nat} {fault : TransportFault}
    (hasks : call.Asks) (hsync : session.desynchronized = false)
    (hlimit : session.limit = some limit)
    (hrequest : call.request? session.device.deviceId = some request)
    (hsent : Stream.writeFrame request before = (.done (), sent))
    (hfilled : Filled before.inbound.segments)
    (hnone : ¬ BeginsWithFrame (dueBytes limit before.inbound.segments))
    (hfault : (shortfallWithin before.inbound.ending limit before.inbound.segments).outcome
      (some limit) = (.failed (.transport fault) : Outcome Frame)) :
    let result := Client.perform (.call call) { stream := before, session := some session }
    result.1 = .failed (.transport fault) ∧
      before.inbound.unread =
        dueBytes limit before.inbound.segments ++ result.2.stream.inbound.unread ∧
      result.2.session = some { session with desynchronized := true } := by
  obtain ⟨after, hexchange, hbytes⟩ := Stream.exchange_past_due hsent hfilled hnone
  rw [hfault, ← hlimit] at hexchange
  rw [client_of_exchange_failed hasks hsync hrequest hexchange]
  exact ⟨rfl, hbytes, rfl⟩

/-- A call that does not fail for want of an answer does the same without a limit. -/
theorem perform_unlimited (call : Call) (session : Session) (before : Stream)
    (h : ∀ fault, (Client.perform (.call call) { stream := before, session := some session }).1 ≠
      .failed (.transport fault)) :
    let patient :=
      Client.perform (.call call) { stream := before, session := some session.unlimited }
    let result := Client.perform (.call call) { stream := before, session := some session }
    patient.1 = result.1 ∧ patient.2.stream = result.2.stream ∧
      patient.2.session.map Session.unlimited = result.2.session.map Session.unlimited := by
  have hsessions : Likeness.patience.Sessions session session.unlimited :=
    ⟨rfl, rfl, rfl, trivial⟩
  have hclients : Likeness.patience.Clients { stream := before, session := some session }
      { stream := before, session := some session.unlimited } := ⟨rfl, .some hsessions⟩
  rcases Likeness.patience.call_follows hclients call with ⟨error, hfailed, limit, rfl⟩ | hsame
  · exact absurd hfailed (h _)
  · obtain ⟨hanswer, hstream, hsession⟩ := hsame
    exact ⟨hanswer, hstream.symm, Likeness.unlimited_eq hsession⟩

end Call

/-- A ping or a read whose request was sent, with a time limit of any length, on any segments that
hold bytes and any end: the longest leading run of segments whose waits add up to no more than the
limit decides what becomes of it. -/
theorem response_within_limit {call : Call} {session : Session} {before sent : Stream}
    {request : Frame} {limit : Nat} {early : List Segment} (hasks : call.Asks)
    (hsync : session.desynchronized = false) (hlimit : session.limit = some limit)
    (hrequest : call.request? session.device.deviceId = some request)
    (hsent : Stream.writeFrame request before = (.done (), sent))
    (hfilled : ∀ segment ∈ before.inbound.segments, segment.data ≠ [])
    (hearly : LongestPrefix (fun front => (front.map Segment.wait).sum ≤ limit)
      before.inbound.segments early) :
    TimedVerdict call session before limit early
      (Client.perform (.call call) { stream := before, session := some session }).1
      (Client.perform (.call call) { stream := before, session := some session }).2 := by
  obtain rfl : early = dueWithin limit before.inbound.segments :=
    hearly.unique (frontWithin_longest _ _ _)
  constructor
  · intro frame rest hdue
    obtain ⟨after, hexchange⟩ := Stream.exchange_of_due hsent hfilled hdue
    rw [← hlimit] at hexchange
    obtain ⟨-, -, htaken⟩ := (Stream.exchanged hexchange).swapped
    obtain ⟨hstream, hanswered⟩ := Call.client_of_answer hasks hsync hrequest hexchange
    refine ⟨⟨request, after, hrequest, hexchange⟩, ?_, Call.perform_unlimited call session before
      hanswered⟩
    rw [hstream, htaken]
  · intro hnone hall
    have hends : shortfallWithin before.inbound.ending limit before.inbound.segments =
        before.inbound.ending.shortfall (some limit) := if_pos hall
    have hfails : ∀ fault, before.inbound.ending.shortfall (some limit) = .ended fault →
        (Client.perform (.call call) { stream := before, session := some session }).1 =
          .failed (.transport fault) := by
      intro fault hfault
      refine (Call.client_past_due hasks hsync hlimit hrequest hsent hfilled hnone ?_).1
      rw [hends, hfault]
      rfl
    exact ⟨fun hclosed => hfails _ (by rw [hclosed]; rfl),
      fun kind hbroken => hfails _ (by rw [hbroken]; rfl)⟩
  · intro hnone hlate
    refine Call.client_past_due hasks hsync hlimit hrequest hsent hfilled hnone ?_
    rw [shortfallWithin_expired hlate]
    rfl

/-- A ping whose answer is complete at the very end of the limit, with a byte behind it, the same
ping with a shorter limit, and one whose stream is closed in time. -/
theorem response_within_limit_tie :
    let segments : List Segment := [⟨4000, [5]⟩, ⟨6000, [0, 0, 9]⟩, ⟨1000, [1]⟩]
    let before : Stream := { inbound := ⟨segments, .silent⟩ }
    let closing : Stream := { inbound := ⟨[⟨4000, [5]⟩], .closed⟩ }
    let session (limit : Nat) : Session :=
      { devices := [⟨1, 7⟩], device := ⟨1, 7⟩, limit := some limit }
    let result (stream : Stream) (limit : Nat) :=
      Client.perform (.call .ping) { stream, session := some (session limit) }
    (session 10000).desynchronized = false ∧ (∀ segment ∈ segments, segment.data ≠ []) ∧
      Call.Answered .ping (session 10000) before (Frame.empty .echoReply) ∧
      before.inbound.unread = [5, 0, 0] ++ (result before 10000).2.stream.inbound.unread ∧
      (result before 10000).1 = .ok .alive ∧
      (result before 9000).1 = .failed (.transport (.noResponse 9000)) ∧
      before.inbound.unread = [5] ++ (result before 9000).2.stream.inbound.unread ∧
      (result before 9000).2.session = some { session 9000 with desynchronized := true } ∧
      (result closing 4000).1 = .failed (.transport .endOfStream) := by
  intro segments before closing session result
  have hasks : Call.Asks .ping := trivial
  have hfilled : ∀ segment ∈ segments, segment.data ≠ [] := by decide
  have hnone : ¬ BeginsWithFrame [5] := no_frame_of_short (by decide)
  have hsent : ∀ stream : Stream,
      (Stream.writeFrame (Frame.empty .echoRequest) stream).1 = .done () →
        Stream.writeFrame (Frame.empty .echoRequest) stream =
          (.done (), (Stream.writeFrame (Frame.empty .echoRequest) stream).2) :=
    fun stream hdone => Prod.ext hdone rfl
  have htie : TimedVerdict .ping (session 10000) before 10000
      (frontWithin Segment.wait 10000 segments) (result before 10000).1 (result before 10000).2 :=
    response_within_limit hasks rfl rfl rfl (hsent before (by decide +kernel)) hfilled
      (frontWithin_longest Segment.wait 10000 segments)
  have hlate : TimedVerdict .ping (session 9000) before 9000
      (frontWithin Segment.wait 9000 segments) (result before 9000).1 (result before 9000).2 :=
    response_within_limit hasks rfl rfl rfl (hsent before (by decide +kernel)) hfilled
      (frontWithin_longest Segment.wait 9000 segments)
  have hclosed : TimedVerdict .ping (session 4000) closing 4000
      (frontWithin Segment.wait 4000 closing.inbound.segments) (result closing 4000).1
      (result closing 4000).2 :=
    response_within_limit hasks rfl rfl rfl (hsent closing (by decide +kernel)) (by decide)
      (frontWithin_longest Segment.wait 4000 closing.inbound.segments)
  have hearly : (frontWithin Segment.wait 9000 segments).flatMap Segment.data = [5] := by
    decide +kernel
  obtain ⟨hanswered, htaken, -⟩ := htie.in_time (Frame.empty .echoReply) [9] (by decide +kernel)
  obtain ⟨hexpired, hgone, hspoiled⟩ := hlate.too_late (hearly ▸ hnone) (.inr rfl)
  exact ⟨rfl, hfilled, hanswered, htaken, by decide +kernel, hexpired, hgone, hspoiled,
    (hclosed.ended hnone rfl).1 rfl⟩

end RegisterLink
