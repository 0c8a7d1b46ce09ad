import RegisterLink.Proofs.Likeness.Outcome
import RegisterLink.Proofs.Script.Run
import RegisterLink.Proofs.Session.Handshake

/-!
# Scripts on streams that resemble each other

A likeness says in which ways two streams and two time limits may differ, and shows that sending one
frame and receiving one frame do not bring the difference to light. Everything else a client does is
made of these two, so a whole script does not bring it to light either: the records are equal step
by step, unless a step of the first run failed in a way that is excused.
-/
namespace RegisterLink

/-- What two streams may differ in without being told apart by a frame sent or received. -/
structure Likeness where
  streams : Stream → Stream → Prop
  limits : Budget → Budget → Prop
  /-- Failures of the first run behind which the second is not looked at. -/
  excused : Error → Prop
  unlimited : limits none none
  sent : ∀ {first second}, streams first second → second.outbound.sent = first.outbound.sent
  flushes : ∀ {first second}, streams first second →
    second.outbound.flushes = first.outbound.flushes
  unread : ∀ {first second}, streams first second → second.inbound.unread = first.inbound.unread
  writes : ∀ {first second} (frame : Frame), streams first second →
    Mirrored excused streams Eq (Stream.writeFrame frame first) (Stream.writeFrame frame second)
  reads : ∀ {first second limit other}, streams first second → limits limit other →
    Mirrored excused streams Eq (Stream.readFrame limit first) (Stream.readFrame other second)

/-! ## Calls -/

/-- Links that agree in their streams and in their sessions. -/
structure Link.Related (streams : Stream → Stream → Prop) (sessions : Session → Session → Prop)
    (first second : Link) : Prop where
  stream : streams first.stream second.stream
  session : sessions first.session second.session

/-- Calls whose requests fare alike on the stream fare alike. -/
theorem Call.perform_mirrored {excused : Error → Prop} {streams : Stream → Stream → Prop}
    {sessions : Session → Session → Prop} {call other : Call} {first second : Link}
    {request asked : Frame} (hlinks : first.Related streams sessions second)
    (hplace : second.session.desynchronized = first.session.desynchronized)
    (hlost : ∀ {session found}, sessions session found →
      sessions { session with desynchronized := true } { found with desynchronized := true })
    (hrequest : call.request? first.session.device.deviceId = some request)
    (hasked : other.request? second.session.device.deviceId = some asked)
    (h : Mirrored excused streams Eq
      (call.transact first.session.limit request first.stream)
      (other.transact second.session.limit asked second.stream)) :
    Mirrored excused (Link.Related streams sessions) Eq (call.perform first)
      (other.perform second) := by
  rw [perform_request hrequest, perform_request hasked]
  refine Mirrored.tracked ?_ fun hafter => ⟨hafter.stream, hlost hafter.session⟩
  rw [transactOn_apply, transactOn_apply, hplace]
  by_cases hknows : first.session.desynchronized = true
  · rw [if_pos hknows, if_pos hknows]
    exact .failed hlinks
  · rw [if_neg hknows, if_neg hknows]
    exact h.within fun hstreams => ⟨hstreams, hlinks.session⟩

namespace Likeness

variable (like : Likeness) {first second : Stream} {limit other : Budget}

/-- The same session, but for its time limit. -/
structure Sessions (first second : Session) : Prop where
  devices : second.devices = first.devices
  device : second.device = first.device
  desynchronized : second.desynchronized = first.desynchronized
  limits : like.limits first.limit second.limit

/-- Clients that agree in their streams and in their sessions. -/
structure Clients (first second : Client) : Prop where
  stream : like.streams first.stream second.stream
  session : Option.Rel like.Sessions first.session second.session

/-- The same step, but for the time limit of a session it binds. -/
inductive Steps : Step → Step → Prop
  | connect (descriptors : List Descriptor) {options : ConnectOptions} {other : Budget}
      (limits : like.limits options.limit other) :
      Steps (.connect descriptors options) (.connect descriptors { options with limit := other })
  | readFrame : Steps .readFrame .readFrame
  | writeFrame (command : UInt8) (body : List UInt8) :
      Steps (.writeFrame command body) (.writeFrame command body)
  | call (request : Call) : Steps (.call request) (.call request)

/-- The answer is a failure that is excused. -/
def Excuses (answer : Answer) : Prop := ∃ error, answer = .failed error ∧ like.excused error

variable {like}

theorem exchange (h : like.streams first second) (hlimits : like.limits limit other)
    (request : Frame) :
    Mirrored like.excused like.streams Eq (Stream.exchange limit request first)
      (Stream.exchange other request second) :=
  (like.writes request h).bind fun _ hstreams => like.reads hstreams hlimits

theorem transact (h : like.streams first second) (hlimits : like.limits limit other) (call : Call)
    (request : Frame) :
    Mirrored like.excused like.streams Eq (call.transact limit request first)
      (call.transact other request second) := by
  cases hjudge : call.judge? with
  | some judge =>
    rw [Call.transact_of_judge hjudge, Call.transact_of_judge hjudge]
    refine (like.exchange h hlimits request).bind fun hanswer hstreams => ?_
    rw [hanswer]
    exact .ofExcept hstreams
  | none =>
    rw [Call.transact_of_unanswered hjudge, Call.transact_of_unanswered hjudge]
    exact (like.writes request h).bind fun _ hstreams => .pure rfl hstreams

theorem perform_call {first second : Link}
    (h : first.Related like.streams like.Sessions second) (call : Call) :
    Mirrored like.excused (Link.Related like.streams like.Sessions) Eq (call.perform first)
      (call.perform second) := by
  rcases call.refused_or_request first.session.device.deviceId with
    ⟨fault, hrefusal, -⟩ | rfl | ⟨request, -, hrequest⟩
  · rw [Call.perform_refused hrefusal, Call.perform_refused hrefusal]
    exact .failed h
  · exact .done rfl h
  · refine Call.perform_mirrored h h.session.desynchronized ?_ hrequest
      (h.session.device ▸ hrequest) (like.transact h.stream h.session.limits call request)
    intro session found hsessions
    exact ⟨hsessions.devices, hsessions.device, rfl, hsessions.limits⟩

/-! ## Binding a device -/

theorem ofDevices_limit (options : ConnectOptions) (other : Budget) (devices : List DeviceEntry) :
    Session.ofDevices { options with limit := other } devices =
      (Session.ofDevices options devices).map fun session => { session with limit := other } := by
  unfold Session.ofDevices
  by_cases hnone : devices = []
  · rw [if_pos hnone, if_pos hnone]
    rfl
  · rw [if_neg hnone, if_neg hnone]
    cases devices[options.deviceIndex]? <;> rfl

/-- Whether an answer binds a device, and which, does not depend on the time limit. -/
theorem ofReply_limit (options : ConnectOptions) (other : Budget) (reply : Frame) :
    Session.ofReply { options with limit := other } reply =
      (Session.ofReply options reply).map fun session => { session with limit := other } := by
  unfold Session.ofReply
  split
  · cases QueryResponse.decode reply.body with
    | ok devices => exact ofDevices_limit options other devices
    | error fault => rfl
  · rfl

theorem bind_reply {options : ConnectOptions} (h : like.streams first second)
    (hlimits : like.limits options.limit other) (reply : Frame) :
    Mirrored like.excused like.streams like.Sessions
      (Action.ofExcept ((Session.ofReply options reply).mapError Error.handshake) first)
      (Action.ofExcept
        ((Session.ofReply { options with limit := other } reply).mapError Error.handshake)
        second) := by
  rw [ofReply_limit options other]
  cases hreply : Session.ofReply options reply with
  | ok session =>
    obtain ⟨-, hbound⟩ := Session.ofReply_eq_ok_iff.mp hreply
    exact .done ⟨rfl, rfl, rfl, hbound.limit ▸ hlimits⟩ h
  | error fault => exact .failed h

theorem connect (h : like.streams first second) (descriptors : List Descriptor)
    {options : ConnectOptions} (hlimits : like.limits options.limit other) :
    Mirrored like.excused like.streams like.Sessions (Session.connect descriptors options first)
      (Session.connect descriptors { options with limit := other } second) := by
  unfold Session.connect
  refine (Mirrored.ofExcept h).bind fun hquery hstart => ?_
  refine (like.exchange hstart hlimits _).bind fun hecho hgreeted => ?_
  subst hquery hecho
  split
  · refine (like.exchange hgreeted hlimits _).bind fun hreply hasked => ?_
    subst hreply
    exact like.bind_reply hasked hlimits _
  · exact .failed hgreeted

/-! ## Steps and runs -/

/-- The second client did the same, or the failure of the first is excused. -/
def Follows (first second : Answer × Client) : Prop :=
  like.Excuses first.1 ∨ (second.1 = first.1 ∧ like.Clients first.2 second.2)

theorem connect_follows {first second : Client} (h : like.Clients first second)
    (descriptors : List Descriptor) {options : ConnectOptions}
    (hlimits : like.limits options.limit other) :
    like.Follows (first.connect descriptors options)
      (second.connect descriptors { options with limit := other }) := by
  have hruns := like.connect h.stream descriptors hlimits
  rcases hfirst : Session.connect descriptors options first.stream with ⟨outcome, stream⟩
  rcases hsecond : Session.connect descriptors { options with limit := other } second.stream with
    ⟨found, rest⟩
  rw [hfirst, hsecond] at hruns
  cases hruns with
  | done agree alike =>
    rw [Client.connect_of_done hfirst, Client.connect_of_done hsecond, agree.devices]
    exact Or.inr ⟨rfl, alike, .some agree⟩
  | failed alike =>
    rw [Client.connect_of_failed hfirst, Client.connect_of_failed hsecond]
    exact Or.inr ⟨rfl, alike, .none⟩
  | blocked alike =>
    rw [Client.connect_of_blocked hfirst, Client.connect_of_blocked hsecond]
    exact Or.inr ⟨rfl, alike, .none⟩
  | excused excuse =>
    rw [Client.connect_of_failed hfirst]
    exact Or.inl ⟨_, rfl, excuse⟩

/-- The step is answered by the outcome of an action that mirrors that of the first client. -/
theorem outcome_follows {σ τ : Type} {states : σ → τ → Prop} {outcome found : Outcome Reply}
    {state : σ} {mate : τ} (left : σ → Client) (rest : τ → Client)
    (hruns : Mirrored like.excused states Eq (outcome, state) (found, mate))
    (hleft : states state mate → like.Clients (left state) (rest mate)) :
    like.Follows (.ofOutcome outcome, left state) (.ofOutcome found, rest mate) := by
  cases hruns with
  | done agree alike => exact Or.inr ⟨by rw [agree], hleft alike⟩
  | failed alike => exact Or.inr ⟨rfl, hleft alike⟩
  | blocked alike => exact Or.inr ⟨rfl, hleft alike⟩
  | excused excuse => exact Or.inl ⟨_, rfl, excuse⟩

theorem direct_follows {first second : Client} (h : like.Clients first second)
    {act : Action Stream Reply}
    (hruns : Mirrored like.excused like.streams Eq (act first.stream) (act second.stream)) :
    like.Follows (first.direct act) (second.direct act) :=
  outcome_follows (fun stream => { first with stream }) (fun stream => { second with stream }) hruns
    fun hstreams => ⟨hstreams, h.session⟩

theorem call_follows {first second : Client} (h : like.Clients first second) (request : Call) :
    like.Follows (first.call request) (second.call request) := by
  obtain ⟨stream, bound⟩ := first
  obtain ⟨rest, found⟩ := second
  obtain ⟨hstreams, hsessions⟩ := h
  cases hsessions with
  | none => exact Or.inr ⟨rfl, hstreams, .none⟩
  | @some session current hsession =>
    have hlinks : Link.Related like.streams like.Sessions ⟨stream, session⟩ ⟨rest, current⟩ :=
      ⟨hstreams, hsession⟩
    let left (link : Link) : Client :=
      ⟨link.stream, if request.endsSession then none else some link.session⟩
    refine outcome_follows left left (like.perform_call hlinks request) fun hafter => ?_
    refine ⟨hafter.stream, ?_⟩
    show Option.Rel like.Sessions (if request.endsSession then _ else _)
      (if request.endsSession then _ else _)
    cases request.endsSession with
    | true => exact .none
    | false => exact .some hafter.session

theorem perform_follows {first second : Client} {step other : Step} (hstep : like.Steps step other)
    (h : like.Clients first second) : like.Follows (first.perform step) (second.perform other) := by
  cases hstep with
  | connect descriptors limits => exact like.connect_follows h descriptors limits
  | readFrame =>
    have hreads := like.reads h.stream like.unlimited
    refine like.direct_follows h (hreads.bind fun hframe hstreams => ?_)
    rw [hframe]
    exact .pure rfl hstreams
  | writeFrame command body =>
    refine like.direct_follows h ((Mirrored.ofExcept h.stream).bind fun hframe hstreams => ?_)
    rw [hframe]
    exact (like.writes _ hstreams).bind fun _ hsent => .pure rfl hsent
  | call request => exact like.call_follows h request

theorem status_eq {first second : Option Session} (h : Option.Rel like.Sessions first second) :
    second.map Session.status = first.map Session.status := by
  cases h with
  | none => rfl
  | some hsession =>
    rw [Option.map_some, Option.map_some, Session.status, Session.status, hsession.device,
      hsession.desynchronized]

/-- A record shows only what the likeness keeps. -/
theorem record_eq {first second : Client} {step other : Step} (h : like.Clients first second)
    (hanswer : (second.perform other).1 = (first.perform step).1)
    (hafter : like.Clients (first.perform step).2 (second.perform other).2) :
    (second.record other).1 = (first.record step).1 := by
  unfold Client.record
  rw [StepRecord.mk.injEq]
  refine ⟨hanswer, ?_, ?_, ?_, status_eq hafter.session⟩
  · rw [like.sent hafter.stream, like.sent h.stream]
  · rw [like.flushes hafter.stream, like.flushes h.stream]
  · rw [like.unread hafter.stream]

/-- Scripts that differ in time limits only leave the same records on streams that resemble each
other, unless a step of the first run fails in a way that is excused. -/
theorem run_follows {steps others : List Step} (hsteps : List.Forall₂ like.Steps steps others)
    {first second : Client} (h : like.Clients first second)
    (hkept : ∀ record ∈ (first.run steps).1, ¬ like.Excuses record.answer) :
    (second.run others).1 = (first.run steps).1 ∧
      like.Clients (first.run steps).2 (second.run others).2 := by
  -- Clients that resemble each other take the next step together, and block together.
  induction hsteps generalizing first second with
  | nil => exact ⟨rfl, h⟩
  | @cons step other rest more hstep hrest ih =>
    by_cases hblocked : (first.perform step).1 = .blocked
    · rw [Client.run_cons_of_blocked hblocked] at hkept ⊢
      have hfollows := (like.perform_follows hstep h).resolve_left (hkept _ List.mem_cons_self)
      have hboth : (second.perform other).1 = .blocked := hfollows.1.trans hblocked
      rw [Client.run_cons_of_blocked hboth, record_eq h hfollows.1 hfollows.2]
      exact ⟨rfl, hfollows.2⟩
    · rw [Client.run_cons_of_completes hblocked] at hkept ⊢
      have hfollows := (like.perform_follows hstep h).resolve_left (hkept _ List.mem_cons_self)
      have hboth : (second.perform other).1 ≠ .blocked := hfollows.1 ▸ hblocked
      obtain ⟨hrecords, hlast⟩ := ih hfollows.2 fun record hrecord =>
        hkept record (List.mem_cons_of_mem _ hrecord)
      rw [Client.run_cons_of_completes hboth, record_eq h hfollows.1 hfollows.2, hrecords]
      exact ⟨rfl, hlast⟩

end Likeness

end RegisterLink
