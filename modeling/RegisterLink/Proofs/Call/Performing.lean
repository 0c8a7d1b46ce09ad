import RegisterLink.Proofs.Call.Request
import RegisterLink.Proofs.Stream.Exchange

/-!
# How calls end

A call on a session that still knows its place ends in one of eight ways. They differ in whether the
argument was accepted, what became of the request on the stream, and what the answer was; each says
what is left of the session. A call on a session that has lost its place ends without a trace.
-/
namespace RegisterLink

/-- How a call on a synchronized session can end, and the link it leaves. -/
inductive Performing (call : Call) (before : Link) : Outcome Reply → Link → Prop
  | refused {fault : InvalidArgument} (refusal : call.refusal = some fault) :
      Performing call before (.failed (.invalidArgument fault)) before
  | released (release : call = .release) : Performing call before (.done .nothing) before
  | sent {request : Frame} {stream : Stream}
      (asked : call.request? before.session.device.deviceId = some request)
      (unanswered : call.judge? = none)
      (written : Dispatched request before.stream (.done ()) stream) :
      Performing call before (.done .nothing) { before with stream }
  | unsent {request : Frame} {stream : Stream} {fault : TransportFault}
      (asked : call.request? before.session.device.deviceId = some request)
      (unanswered : call.judge? = none)
      (written : Dispatched request before.stream (.failed (.transport fault)) stream) :
      Performing call before (.failed (.transport fault))
        (Link.desynchronize { before with stream })
  | broke {request : Frame} {judge : Frame → Except ProtocolFault Reply} {stream : Stream}
      {fault : TransportFault}
      (asked : call.request? before.session.device.deviceId = some request)
      (judged : call.judge? = some judge)
      (exchanged : Exchanged before.session.limit request before.stream
        (.failed (.transport fault)) stream) :
      Performing call before (.failed (.transport fault))
        (Link.desynchronize { before with stream })
  | waits {request : Frame} {judge : Frame → Except ProtocolFault Reply} {stream : Stream}
      (asked : call.request? before.session.device.deviceId = some request)
      (judged : call.judge? = some judge)
      (exchanged : Exchanged before.session.limit request before.stream .blocked stream) :
      Performing call before .blocked { before with stream }
  | accepted {request answer : Frame} {judge : Frame → Except ProtocolFault Reply}
      {stream : Stream} {reply : Reply}
      (asked : call.request? before.session.device.deviceId = some request)
      (judged : call.judge? = some judge)
      (exchanged : Exchanged before.session.limit request before.stream (.done answer) stream)
      (verdict : judge answer = .ok reply) :
      Performing call before (.done reply) { before with stream }
  | rejected {request answer : Frame} {judge : Frame → Except ProtocolFault Reply}
      {stream : Stream} {fault : ProtocolFault}
      (asked : call.request? before.session.device.deviceId = some request)
      (judged : call.judge? = some judge)
      (exchanged : Exchanged before.session.limit request before.stream (.done answer) stream)
      (verdict : judge answer = .error fault) :
      Performing call before (.failed (.protocol fault))
        (Link.desynchronize { before with stream })

namespace Call

variable {call : Call} {before after : Link} {outcome : Outcome Reply}

theorem perform_of_desynchronized {request : Frame}
    (h : call.request? before.session.device.deviceId = some request)
    (hlost : before.session.desynchronized = true) :
    call.perform before = (.failed (.protocol .desynchronized), before) := by
  have hrefused : call.transactOn request before =
      (.failed (.protocol .desynchronized), before) := by
    rw [transactOn_apply, if_pos hlost]
  rw [perform_request h, Link.tracked_of_failed hrefused, Link.desynchronize_eq_self hlost,
    ite_self]

/-! ## What the stream makes of the request is what the call makes of it -/

theorem transactOn_of_synchronized {request : Frame} {stream : Stream}
    (hsync : before.session.desynchronized = false)
    (h : call.transact before.session.limit request before.stream = (outcome, stream)) :
    call.transactOn request before = (outcome, { before with stream }) := by
  rw [transactOn_apply, hsync, if_neg Bool.false_ne_true, Link.onStream_apply, h]

section Transacting

variable {request : Frame} {stream : Stream}

theorem perform_of_transact_done {reply : Reply} (hsync : before.session.desynchronized = false)
    (hrequest : call.request? before.session.device.deviceId = some request)
    (h : call.transact before.session.limit request before.stream = (.done reply, stream)) :
    call.perform before = (.done reply, { before with stream }) := by
  rw [perform_request hrequest]
  exact Link.tracked_of_done (transactOn_of_synchronized hsync h)

theorem perform_of_transact_failed {error : Error} (hsync : before.session.desynchronized = false)
    (hrequest : call.request? before.session.device.deviceId = some request)
    (hplace : error.desynchronizes = true)
    (h : call.transact before.session.limit request before.stream = (.failed error, stream)) :
    call.perform before = (.failed error, Link.desynchronize { before with stream }) := by
  rw [perform_request hrequest, Link.tracked_of_failed (transactOn_of_synchronized hsync h),
    if_pos hplace]

theorem perform_of_transact_blocked (hsync : before.session.desynchronized = false)
    (hrequest : call.request? before.session.device.deviceId = some request)
    (h : call.transact before.session.limit request before.stream = (.blocked, stream)) :
    call.perform before = (.blocked, { before with stream }) := by
  rw [perform_request hrequest]
  exact Link.tracked_of_blocked (transactOn_of_synchronized hsync h)

variable {judge : Frame → Except ProtocolFault Reply} {answer : Frame}

theorem perform_of_answer_ok {reply : Reply} (hsync : before.session.desynchronized = false)
    (hrequest : call.request? before.session.device.deviceId = some request)
    (hjudge : call.judge? = some judge)
    (h : Stream.exchange before.session.limit request before.stream = (.done answer, stream))
    (hverdict : judge answer = .ok reply) :
    call.perform before = (.done reply, { before with stream }) := by
  refine perform_of_transact_done hsync hrequest ?_
  rw [transact_of_judge hjudge, Action.bind_of_done h, hverdict]
  rfl

theorem perform_of_answer_error {fault : ProtocolFault}
    (hsync : before.session.desynchronized = false)
    (hrequest : call.request? before.session.device.deviceId = some request)
    (hjudge : call.judge? = some judge)
    (h : Stream.exchange before.session.limit request before.stream = (.done answer, stream))
    (hverdict : judge answer = .error fault) :
    call.perform before =
      (.failed (.protocol fault), Link.desynchronize { before with stream }) := by
  refine perform_of_transact_failed hsync hrequest rfl ?_
  rw [transact_of_judge hjudge, Action.bind_of_done h, hverdict]
  rfl

theorem perform_of_exchange_failed {fault : TransportFault}
    (hsync : before.session.desynchronized = false)
    (hrequest : call.request? before.session.device.deviceId = some request)
    (hjudge : call.judge? = some judge)
    (h : Stream.exchange before.session.limit request before.stream =
      (.failed (.transport fault), stream)) :
    call.perform before =
      (.failed (.transport fault), Link.desynchronize { before with stream }) := by
  refine perform_of_transact_failed hsync hrequest rfl ?_
  rw [transact_of_judge hjudge, Action.bind_of_failed h]

end Transacting

theorem performing_of_unanswered {request : Frame}
    (hsync : before.session.desynchronized = false)
    (hrequest : call.request? before.session.device.deviceId = some request)
    (hjudge : call.judge? = none) (h : call.perform before = (outcome, after)) :
    Performing call before outcome after := by
  rcases hwrite : Stream.writeFrame request before.stream with ⟨written, stream⟩
  have hdispatched := Stream.writeFrame_dispatched hwrite
  have htransact := transact_of_unanswered hjudge before.session.limit request
  cases written with
  | done =>
    rw [perform_of_transact_done hsync hrequest
      (by rw [htransact, Action.bind_of_done hwrite]; rfl)] at h
    obtain ⟨rfl, rfl⟩ := Prod.mk.inj h
    exact .sent hrequest hjudge hdispatched
  | failed error =>
    obtain ⟨fault, rfl⟩ : ∃ fault, error = .transport fault := by
      cases hdispatched.moved <;> exact ⟨_, rfl⟩
    rw [perform_of_transact_failed hsync hrequest rfl
      (by rw [htransact, Action.bind_of_failed hwrite])] at h
    obtain ⟨rfl, rfl⟩ := Prod.mk.inj h
    exact .unsent hrequest hjudge hdispatched
  | blocked => cases hdispatched.moved

theorem performing_of_judge {request : Frame} {judge : Frame → Except ProtocolFault Reply}
    (hsync : before.session.desynchronized = false)
    (hrequest : call.request? before.session.device.deviceId = some request)
    (hjudge : call.judge? = some judge) (h : call.perform before = (outcome, after)) :
    Performing call before outcome after := by
  rcases hexchange : Stream.exchange before.session.limit request before.stream with
    ⟨exchanged, stream⟩
  have hexchanged := Stream.exchanged hexchange
  have htransact := transact_of_judge hjudge before.session.limit request
  cases exchanged with
  | done answer =>
    cases hverdict : judge answer with
    | ok reply =>
      rw [perform_of_answer_ok hsync hrequest hjudge hexchange hverdict] at h
      obtain ⟨rfl, rfl⟩ := Prod.mk.inj h
      exact .accepted hrequest hjudge hexchanged hverdict
    | error fault =>
      rw [perform_of_answer_error hsync hrequest hjudge hexchange hverdict] at h
      obtain ⟨rfl, rfl⟩ := Prod.mk.inj h
      exact .rejected hrequest hjudge hexchanged hverdict
  | failed error =>
    obtain ⟨fault, rfl⟩ := Stream.exchange_failed hexchange
    rw [perform_of_exchange_failed hsync hrequest hjudge hexchange] at h
    obtain ⟨rfl, rfl⟩ := Prod.mk.inj h
    exact .broke hrequest hjudge hexchanged
  | blocked =>
    rw [perform_of_transact_blocked hsync hrequest
      (by rw [htransact, Action.bind_of_blocked hexchange])] at h
    obtain ⟨rfl, rfl⟩ := Prod.mk.inj h
    exact .waits hrequest hjudge hexchanged

/-- Every call on a synchronized session ends in one of the eight ways. -/
theorem perform_performing (hsync : before.session.desynchronized = false)
    (h : call.perform before = (outcome, after)) : Performing call before outcome after := by
  rcases refused_or_request call before.session.device.deviceId with
    ⟨fault, hrefusal, -⟩ | rfl | ⟨request, -, hrequest⟩
  · rw [perform_refused hrefusal] at h
    obtain ⟨rfl, rfl⟩ := Prod.mk.inj h
    exact .refused hrefusal
  · rw [perform_release] at h
    obtain ⟨rfl, rfl⟩ := Prod.mk.inj h
    exact .released rfl
  · cases hjudge : call.judge? with
    | none => exact performing_of_unanswered hsync hrequest hjudge h
    | some judge => exact performing_of_judge hsync hrequest hjudge h

end Call

end RegisterLink
