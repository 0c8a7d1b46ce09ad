import RegisterLink.Proofs.Session.Connect
import RegisterLink.Proofs.Session.Silence

/-!
# Requests and answers alternate

From the echo of the handshake on, a session that knows its place has sent its requests to the last
byte and taken one answer for each that expects one, neither less nor more. A failure may leave one
frame unfinished, in one direction only; nothing is sent or taken after it. So no request is ever
begun while an answer is outstanding, and no answer is mistaken for that to another request.
-/
namespace RegisterLink

/-- Every request has been sent to its end, and every answer that is due has been taken. -/
structure Balanced (start : Stream) (requests : List Frame) (now : Stream) : Prop where
  sent : now.outbound.sent = start.outbound.sent ++ requests.flatMap Frame.encode
  taken : ∃ answers : List Frame,
    start.inbound.unread = answers.flatMap Frame.encode ++ now.inbound.unread ∧
      answers.length = requests.countP Frame.expectsAnswer

/-- Whole frames have moved in both directions, but for one at most. -/
inductive Framed (start : Stream) (requests : List Frame) (now : Stream) : Prop
  /-- Every request has been sent to its end, and part of an answer may have been taken. -/
  | answering {answers : List Frame} {part : List UInt8}
      (sent : now.outbound.sent = start.outbound.sent ++ requests.flatMap Frame.encode)
      (taken : start.inbound.unread = answers.flatMap Frame.encode ++ part ++ now.inbound.unread)
      (incomplete : Incomplete part)
      (due : answers.length ≤ requests.countP Frame.expectsAnswer)
  /-- The last request was cut off, and every answer to those before it has been taken. -/
  | sending {earlier answers : List Frame} {last : Frame} {part : List UInt8}
      (made : requests = earlier ++ [last]) (cut : ProperPrefix part last.encode)
      (sent : now.outbound.sent = start.outbound.sent ++ earlier.flatMap Frame.encode ++ part)
      (taken : start.inbound.unread = answers.flatMap Frame.encode ++ now.inbound.unread)
      (due : answers.length = earlier.countP Frame.expectsAnswer)

namespace Balanced

variable {start before after : Stream} {requests : List Frame} {request : Frame}

theorem refl (start : Stream) : Balanced start [] start := by
  constructor
  · rw [List.flatMap_nil, List.append_nil]
  · exact ⟨[], rfl, rfl⟩

theorem framed (h : Balanced start requests before) : Framed start requests before := by
  obtain ⟨answers, htaken, hcount⟩ := h.taken
  have hwhole : start.inbound.unread =
      answers.flatMap Frame.encode ++ [] ++ before.inbound.unread := by
    rw [List.append_nil, htaken]
  exact .answering h.sent hwhole incomplete_nil (Nat.le_of_eq hcount)

theorem sent_concat (h : Balanced start requests before)
    (hsent : after.outbound.sent = before.outbound.sent ++ request.encode) :
    after.outbound.sent = start.outbound.sent ++ (requests ++ [request]).flatMap Frame.encode := by
  rw [hsent, h.sent, List.flatMap_append, List.flatMap_singleton, List.append_assoc]

theorem exchange_done {limit : Budget} {answer : Frame} (h : Balanced start requests before)
    (hasks : request.expectsAnswer = true)
    (hexchange : Exchanged limit request before (.done answer) after) :
    Balanced start (requests ++ [request]) after := by
  obtain ⟨hsent, -, hanswer⟩ := hexchange.swapped
  obtain ⟨answers, htaken, hcount⟩ := h.taken
  refine ⟨h.sent_concat hsent, answers ++ [answer], ?_, ?_⟩
  · rw [htaken, hanswer, List.flatMap_append, List.flatMap_singleton, List.append_assoc]
  · rw [List.length_append, List.countP_append, hcount, List.countP_singleton, hasks]
    rfl

theorem write_done (h : Balanced start requests before)
    (hsilent : request.expectsAnswer = false)
    (hwrite : Dispatched request before (.done ()) after) :
    Balanced start (requests ++ [request]) after := by
  obtain ⟨-, hsending, huntouched⟩ := hwrite
  obtain ⟨answers, htaken, hcount⟩ := h.taken
  cases hsending with
  | sent accepted flushed =>
    refine ⟨h.sent_concat accepted, answers, ?_, ?_⟩
    · rw [huntouched, htaken]
    · rw [List.countP_append, List.countP_singleton, hsilent, hcount]
      rfl

theorem framed_of_part {part : List UInt8} (h : Balanced start requests before)
    (hsent : after.outbound.sent = before.outbound.sent ++ request.encode)
    (hpart : before.inbound.unread = part ++ after.inbound.unread)
    (hincomplete : Incomplete part) : Framed start (requests ++ [request]) after := by
  obtain ⟨answers, htaken, hcount⟩ := h.taken
  have hwhole : start.inbound.unread =
      answers.flatMap Frame.encode ++ part ++ after.inbound.unread := by
    rw [htaken, hpart, List.append_assoc]
  have hdue : answers.length ≤ (requests ++ [request]).countP Frame.expectsAnswer := by
    rw [List.countP_append, hcount]
    exact Nat.le_add_right _ _
  exact .answering (h.sent_concat hsent) hwhole hincomplete hdue

theorem framed_of_sending {outcome : Outcome Unit} (h : Balanced start requests before)
    (hsending : Sending request before.outbound outcome after.outbound)
    (huntouched : after.inbound = before.inbound) : Framed start (requests ++ [request]) after := by
  have hnothing : before.inbound.unread = [] ++ after.inbound.unread := by
    rw [huntouched, List.nil_append]
  cases hsending with
  | sent accepted flushed => exact h.framed_of_part accepted hnothing incomplete_nil
  | unflushed accepted => exact h.framed_of_part accepted hnothing incomplete_nil
  | cutOff cut accepted =>
    obtain ⟨answers, htaken, hcount⟩ := h.taken
    exact .sending rfl cut (by rw [accepted, h.sent]) (by rw [huntouched, htaken]) hcount

theorem framed_of_exchange {limit : Budget} {outcome : Outcome Frame}
    (h : Balanced start requests before) (hasks : request.expectsAnswer = true)
    (hexchange : Exchanged limit request before outcome after) :
    Framed start (requests ++ [request]) after := by
  cases hexchange.moved with
  | unsent sending untouched => exact h.framed_of_sending sending untouched
  | sent sending receiving =>
    cases sending with
    | sent accepted flushed =>
      cases receiving with
      | received taken => exact (h.exchange_done hasks hexchange).framed
      | broke incomplete taken => exact h.framed_of_part accepted taken incomplete
      | waits incomplete drained unlimited silent =>
        -- A reader that waits has taken all that was left.
        have hall : before.inbound.unread = before.inbound.unread ++ after.inbound.unread := by
          rw [drained, List.append_nil]
        exact h.framed_of_part accepted hall incomplete

end Balanced

/-! ## One call -/

theorem Call.request?_of_refused {call : Call} {fault : InvalidArgument}
    (h : call.refusal = some fault) (deviceId : UInt8) : call.request? deviceId = none := by
  rcases refused_or_request call deviceId with ⟨_, -, hnone⟩ | rfl | ⟨request, hnone, -⟩
  · exact hnone
  · rfl
  · cases hnone.symm.trans h

/-- A call on a synchronized session begins with every answer taken. If it leaves the session its
place, its own answer has been taken, too. -/
theorem Performing.inStep {start : Stream} {requests : List Frame} {call : Call}
    {before after : Link} {outcome : Outcome Reply} (h : Performing call before outcome after)
    (hbalanced : Balanced start requests before.stream) :
    Framed start (requests ++ (call.request? before.session.device.deviceId).toList) after.stream ∧
      (outcome ≠ .blocked → after.session.desynchronized = false →
        Balanced start (requests ++ (call.request? before.session.device.deviceId).toList)
          after.stream) := by
  -- A failure leaves a session without its place, so only the frames have to be accounted for.
  cases h with
  | refused refusal =>
    rw [Call.request?_of_refused refusal, Option.toList_none, List.append_nil]
    exact ⟨hbalanced.framed, fun _ _ => hbalanced⟩
  | released release =>
    subst release
    show Framed start (requests ++ []) before.stream ∧
      (_ → _ → Balanced start (requests ++ []) before.stream)
    rw [List.append_nil]
    exact ⟨hbalanced.framed, fun _ _ => hbalanced⟩
  | sent asked unanswered written =>
    have hsilent := Call.not_expectsAnswer_of_unanswered asked unanswered
    have hafter := hbalanced.write_done hsilent written
    rw [asked]
    exact ⟨hafter.framed, fun _ _ => hafter⟩
  | unsent asked unanswered written =>
    rw [asked]
    exact ⟨hbalanced.framed_of_sending written.moved written.untouched,
      fun _ hplace => nomatch hplace⟩
  | broke asked judged exchanged =>
    have hasks := Call.expectsAnswer_of_judge asked judged
    rw [asked]
    exact ⟨hbalanced.framed_of_exchange hasks exchanged, fun _ hplace => nomatch hplace⟩
  | waits asked judged exchanged =>
    have hasks := Call.expectsAnswer_of_judge asked judged
    rw [asked]
    exact ⟨hbalanced.framed_of_exchange hasks exchanged, fun hcompletes => absurd rfl hcompletes⟩
  | accepted asked judged exchanged verdict =>
    have hasks := Call.expectsAnswer_of_judge asked judged
    have hafter := hbalanced.exchange_done hasks exchanged
    rw [asked]
    exact ⟨hafter.framed, fun _ _ => hafter⟩
  | rejected asked judged exchanged verdict =>
    have hasks := Call.expectsAnswer_of_judge asked judged
    rw [asked]
    exact ⟨(hbalanced.exchange_done hasks exchanged).framed, fun _ hplace => nomatch hplace⟩

namespace Client

/-- The request a call would send now: none without a session that knows its place, and none if
the argument is refused. -/
def request? (client : Client) (call : Call) : Option Frame :=
  match client.session with
  | none => none
  | some session =>
    if session.desynchronized then none else call.request? session.device.deviceId

def requests (client : Client) : List Call → List Frame
  | [] => []
  | call :: rest =>
    (client.request? call).toList ++
      if (client.perform (.call call)).1 = .blocked then []
      else (client.perform (.call call)).2.requests rest

/-- The stream carries whole frames, and a session that knows its place is owed none. -/
structure InStep (client : Client) (start : Stream) (requests : List Frame) : Prop where
  framed : Framed start requests client.stream
  balanced : ∀ session, client.session = some session → session.desynchronized = false →
    Balanced start requests client.stream

variable {client : Client} {start : Stream} {made : List Frame}

theorem perform_of_no_place (call : Call)
    (h : ∀ session, client.session = some session → session.desynchronized = true) :
    client.request? call = none ∧ (client.perform (.call call)).2.stream = client.stream ∧
      ∀ session, (client.perform (.call call)).2.session = some session →
        session.desynchronized = true := by
  obtain ⟨stream, bound⟩ := client
  cases bound with
  | none => exact ⟨rfl, rfl, nofun⟩
  | some session =>
    have hlost := h session rfl
    have honly : ∀ found, (Client.mk stream (some session)).session = some found →
        found = session := fun found hfound => (Option.some.inj hfound).symm
    obtain ⟨-, hstream, hleft, -, -⟩ := perform_call_of_lost hlost honly call
    exact ⟨if_pos hlost, hstream, fun found hfound => hleft found hfound ▸ hlost⟩

theorem perform_inStep (h : client.InStep start made) (call : Call) :
    Framed start (made ++ (client.request? call).toList) (client.perform (.call call)).2.stream ∧
      ((client.perform (.call call)).1 ≠ .blocked →
        (client.perform (.call call)).2.InStep start (made ++ (client.request? call).toList)) := by
  by_cases hplace : ∀ session, client.session = some session → session.desynchronized = true
  · obtain ⟨hnone, hstream, hlost⟩ := perform_of_no_place call hplace
    rw [hnone, Option.toList_none, List.append_nil, hstream]
    refine ⟨h.framed, fun _ => ⟨hstream ▸ h.framed, fun session hsession hsync => ?_⟩⟩
    rw [hlost session hsession] at hsync
    cases hsync
  · -- There is a session that knows its place: the call begins with every answer taken.
    obtain ⟨stream, bound⟩ := client
    obtain ⟨session, hknows⟩ := Classical.not_forall.mp hplace
    obtain ⟨rfl, hnot⟩ := Classical.not_imp.mp hknows
    have hsync : session.desynchronized = false := eq_false_of_ne_true hnot
    rcases hperform : call.perform ⟨stream, session⟩ with ⟨outcome, link⟩
    obtain ⟨hframed, hbalanced⟩ :=
      (Call.perform_performing hsync hperform).inStep (h.balanced session rfl hsync)
    have hrequest : request? ⟨stream, some session⟩ call =
        call.request? session.device.deviceId := by
      show (if session.desynchronized = true then none else _) = _
      rw [hsync]
      rfl
    rw [perform_call_of_perform hperform, hrequest]
    refine ⟨hframed, fun hcompletes => ⟨hframed, fun found hfound hkept => ?_⟩⟩
    obtain rfl := session_of_ends hfound
    have hanswered : outcome ≠ .blocked := by
      rintro rfl
      exact hcompletes rfl
    exact hbalanced hanswered hkept

/-! ## Runs of calls -/

theorem run_inStep (calls : List Call) (h : client.InStep start made) :
    Framed start (made ++ client.requests calls) (client.run (calls.map .call)).2.stream ∧
      ((∀ record ∈ (client.run (calls.map .call)).1, record.answer ≠ .blocked) →
        (client.run (calls.map .call)).2.InStep start (made ++ client.requests calls)) := by
  -- `InStep` is lost only by a call that waits for ever, and with that call the run ends.
  induction calls generalizing client made with
  | nil =>
    rw [requests, List.append_nil, List.map_nil, run]
    exact ⟨h.framed, fun _ => h⟩
  | cons call rest ih =>
    obtain ⟨hframed, hstep⟩ := perform_inStep h call
    rw [List.map_cons, requests, ← List.append_assoc]
    by_cases hblocked : (client.perform (.call call)).1 = .blocked
    · rw [if_pos hblocked, List.append_nil, run_cons_of_blocked hblocked]
      refine ⟨hframed, fun hcompletes => ?_⟩
      exact absurd hblocked (hcompletes _ List.mem_cons_self)
    · rw [if_neg hblocked, run_cons_of_completes hblocked]
      obtain ⟨hwhole, hrest⟩ := ih (hstep hblocked)
      refine ⟨hwhole, fun hcompletes => hrest fun record hrecord => ?_⟩
      exact hcompletes record (List.mem_cons_of_mem _ hrecord)

end Client

/-- What a run of calls has moved on the stream since the start of the handshake. -/
structure Lockstep (start : Stream) (requests : List Frame) (records : List StepRecord)
    (after : Client) : Prop where
  framed : Framed start requests after.stream
  balanced : (∀ record ∈ records, record.answer ≠ .blocked) →
    ∀ session, after.session = some session → session.desynchronized = false →
      Balanced start requests after.stream
  /-- The next call finds every answer taken, or it has no request and leaves the stream alone. -/
  alternate : (∀ record ∈ records, record.answer ≠ .blocked) → ∀ call,
    Balanced start requests after.stream ∨
      (after.request? call = none ∧ (after.perform (.call call)).2.stream = after.stream)

theorem Client.InStep.lockstep {client : Client} {start : Stream} {made : List Frame}
    (h : client.InStep start made) (calls : List Call) :
    Lockstep start (made ++ client.requests calls) (client.run (calls.map .call)).1
      (client.run (calls.map .call)).2 := by
  obtain ⟨hframed, hinStep⟩ := run_inStep calls h
  constructor
  · exact hframed
  · intro hcompletes
    exact (hinStep hcompletes).balanced
  · intro hcompletes call
    by_cases hplace : ∀ session, (client.run (calls.map .call)).2.session = some session →
        session.desynchronized = true
    · obtain ⟨hnone, hstream, -⟩ := perform_of_no_place call hplace
      exact Or.inr ⟨hnone, hstream⟩
    · obtain ⟨session, hknows⟩ := Classical.not_forall.mp hplace
      obtain ⟨hsession, hnot⟩ := Classical.not_imp.mp hknows
      exact Or.inl ((hinStep hcompletes).balanced session hsession (eq_false_of_ne_true hnot))

theorem Query.expectsAnswer_of_carries {query : Frame} {descriptors : List Descriptor}
    (h : Query.Carries query descriptors) : query.expectsAnswer = true := by
  have hkind := Frame.kind_eq_some_iff.mpr h.command
  rw [Frame.expectsAnswer, hkind]
  rfl

/-- Both exchanges of a handshake that binds a session are complete, one behind the other, and from
then on requests and answers alternate in every run of calls. -/
theorem session_lockstep {descriptors : List Descriptor} {options : ConnectOptions}
    {stream bound : Stream} {session : Session}
    (hbind : Session.connect descriptors options stream = (.done session, bound)) :
    ∃ query, Query.Carries query descriptors ∧
      (∃ middle answer, Greeted options stream middle ∧
        Balanced stream [Frame.empty .echoRequest] middle ∧
          Stream.exchange options.limit query middle = (.done answer, bound)) ∧
      ∀ calls : List Call,
        Lockstep stream
          (Frame.empty .echoRequest :: query ::
            Client.requests { stream := bound, session := some session } calls)
          (Client.run { stream := bound, session := some session } (calls.map .call)).1
          (Client.run { stream := bound, session := some session } (calls.map .call)).2 := by
  obtain ⟨query, answer, middle, hquery, hgreeted, hask, -, -⟩ :=
    (Session.bound_iff_listed hbind session).mp rfl
  have hfirst : Balanced stream [Frame.empty .echoRequest] middle :=
    (Balanced.refl stream).exchange_done rfl (Stream.exchanged hgreeted)
  have hboth : Balanced stream [Frame.empty .echoRequest, query] bound :=
    hfirst.exchange_done (Query.expectsAnswer_of_carries hquery) (Stream.exchanged hask)
  have hstart : Client.InStep { stream := bound, session := some session } stream
      [Frame.empty .echoRequest, query] := ⟨hboth.framed, fun _ _ _ => hboth⟩
  exact ⟨query, hquery, ⟨middle, answer, hgreeted, hfirst, hask⟩, hstart.lockstep⟩

/-- A handshake and a read with a peer that answers both. -/
theorem session_lockstep_read :
    let stream := Stream.holding [Frame.empty .echoReply,
      ⟨Command.queryResponse.byte, [1, 7], by decide⟩,
      ⟨Command.readResponse.byte, [42, 0, 0, 0], by decide⟩]
    let session : Session := { devices := [⟨1, 7⟩], device := ⟨1, 7⟩, limit := none }
    ∃ bound query, Session.connect [] {} stream = (.done session, bound) ∧
      Balanced stream [Frame.empty .echoRequest, query, Frame.ofRead ⟨7, 16, 4⟩]
        (Client.run ⟨bound, some session⟩ [.call (.read 16 4)]).2.stream := by
  intro stream session
  let bound := (Session.connect [] {} stream).2
  have hbind : Session.connect [] {} stream = (.done session, bound) := by decide +kernel
  have hrequests : Client.requests { stream := bound, session := some session } [.read 16 4] =
      [Frame.ofRead ⟨7, 16, 4⟩] := by decide +kernel
  obtain ⟨query, -, -, hruns⟩ := session_lockstep hbind
  have hlockstep := hruns [.read 16 4]
  have hbalanced := hlockstep.balanced (by decide +kernel) session (by decide +kernel) rfl
  rw [hrequests] at hbalanced
  exact ⟨bound, query, hbind, hbalanced⟩

end RegisterLink
