import RegisterLink.Proofs.Call.Verdict

/-!
# A session that has lost its place

Nothing that happens on its stream changes which device a session is bound to or which devices it
found, and once it has lost its place it never finds it again. From then on every call fails, and
none of them reaches the stream: it is not written to, flushed, waited for or read from. The error
says that the place was lost, except where the argument is refused before the session is asked.
-/
namespace RegisterLink

def Step.Binds : Step → Prop
  | connect _ _ => True
  | _ => False

/-- The session is still the one that was bound, perhaps without its place. -/
structure Session.Continues (before after : Session) : Prop where
  devices : after.devices = before.devices
  device : after.device = before.device
  lost : before.desynchronized = true → after = before

theorem Session.Continues.refl (session : Session) : session.Continues session :=
  ⟨rfl, rfl, fun _ => rfl⟩

theorem Session.Continues.trans {first second third : Session} (h : first.Continues second)
    (hnext : second.Continues third) : first.Continues third where
  devices := hnext.devices.trans h.devices
  device := hnext.device.trans h.device
  lost := fun hlost => by
    have hsame := h.lost hlost
    rw [hnext.lost (hsame ▸ hlost), hsame]

/-! ## One call -/

namespace Call

/-- A call without its place fails or gives the stream back; it changes nothing. -/
theorem perform_of_lost (call : Call) (link : Link) (hlost : link.session.desynchronized = true) :
    ∃ outcome, call.perform link = (outcome, link) ∧ outcome ≠ .blocked ∧
      (call ≠ .release → ∃ error, outcome = .failed error) := by
  rcases refused_or_request call link.session.device.deviceId with
    ⟨fault, hrefusal, -⟩ | rfl | ⟨request, -, hrequest⟩
  · exact ⟨_, perform_refused hrefusal link, nofun, fun _ => ⟨_, rfl⟩⟩
  · exact ⟨_, perform_release link, nofun, fun hnot => absurd rfl hnot⟩
  · exact ⟨_, perform_of_desynchronized hrequest hlost, nofun, fun _ => ⟨_, rfl⟩⟩

theorem perform_continues {call : Call} {before after : Link} {outcome : Outcome Reply}
    (h : call.perform before = (outcome, after)) : before.session.Continues after.session := by
  cases hplace : before.session.desynchronized with
  | true =>
    obtain ⟨found, hfound, -, -⟩ := perform_of_lost call before hplace
    obtain ⟨rfl, rfl⟩ := Prod.mk.inj (hfound.symm.trans h)
    exact .refl _
  | false =>
    have hnever : before.session.desynchronized ≠ true := by rw [hplace]; exact Bool.false_ne_true
    cases perform_performing hplace h <;> exact ⟨rfl, rfl, fun hlost => absurd hlost hnever⟩

end Call

/-! ## Any steps -/

namespace Client

def Holds (client : Client) (session : Session) : Prop :=
  ∀ found, client.session = some found → session.Continues found

theorem perform_holds {client : Client} {session : Session} {step : Step} (hstep : ¬ step.Binds)
    (h : client.Holds session) : (client.perform step).2.Holds session := by
  intro found hfound
  cases step with
  | connect descriptors options => exact absurd trivial hstep
  | readFrame => exact h found hfound
  | writeFrame command body => exact h found hfound
  | call request =>
    obtain ⟨stream, bound⟩ := client
    cases bound with
    | none => exact h found hfound
    | some current =>
      rcases hperform : request.perform { stream, session := current } with ⟨outcome, link⟩
      rw [perform_call_of_perform hperform] at hfound
      obtain rfl := session_of_ends hfound
      exact (h current rfl).trans (Call.perform_continues hperform)

theorem run_holds {client : Client} {session : Session} (steps : List Step)
    (hsteps : ∀ step ∈ steps, ¬ step.Binds) (h : client.Holds session) :
    (client.run steps).2.Holds session := by
  induction steps generalizing client with
  | nil => exact h
  | cons step rest ih =>
    have hstep := perform_holds (hsteps step List.mem_cons_self) h
    have hrest := ih (fun later hlater => hsteps later (List.mem_cons_of_mem _ hlater)) hstep
    by_cases hblocked : (client.perform step).1 = .blocked
    · rw [run_cons_of_blocked hblocked]
      exact hstep
    · rw [run_cons_of_completes hblocked]
      exact hrest

end Client

/-! ## Calls without a place -/

/-- A run of calls that leaves no trace and in which every call fails: what it records and where it
leaves the client. A call after the end of the session is none. -/
structure Silent (before : Client) (session : Session) (calls : List Call)
    (records : List StepRecord) (after : Client) : Prop where
  stream : after.stream = before.stream
  kept : ∀ found, after.session = some found → found = session
  completes : records.length = calls.length
  traceless : ∀ record ∈ records, record.answer ≠ .blocked ∧ record.sent = [] ∧
    record.flushes = 0 ∧ record.unread = before.stream.inbound.unread.length
  fails : before.session = some session → ∀ i call record, calls[i]? = some call →
    records[i]? = some record → call ≠ .release →
    (∀ earlier ∈ calls.take i, earlier.endsSession = false) →
      ∃ error, record.answer = .failed error

namespace Client

variable {client : Client} {session : Session}

theorem perform_call_of_lost (hlost : session.desynchronized = true)
    (honly : ∀ found, client.session = some found → found = session) (call : Call) :
    (client.perform (.call call)).1 ≠ .blocked ∧
      (client.perform (.call call)).2.stream = client.stream ∧
      (∀ found, (client.perform (.call call)).2.session = some found → found = session) ∧
      (client.session = some session → call ≠ .release →
        ∃ error, (client.perform (.call call)).1 = .failed error) ∧
      (client.session = some session → call.endsSession = false →
        (client.perform (.call call)).2.session = some session) := by
  obtain ⟨stream, bound⟩ := client
  cases bound with
  | none => exact ⟨nofun, rfl, honly, nofun, nofun⟩
  | some current =>
    obtain rfl := honly current rfl
    obtain ⟨outcome, hperform, hcompletes, hfails⟩ :=
      Call.perform_of_lost call { stream, session := current } hlost
    rw [perform_call_of_perform hperform]
    refine ⟨?_, rfl, fun found hfound => session_of_ends hfound, ?_, ?_⟩
    · cases outcome with
      | blocked => exact absurd rfl hcompletes
      | _ => exact nofun
    · intro _ hnot
      obtain ⟨error, rfl⟩ := hfails hnot
      exact ⟨error, rfl⟩
    · intro _ hgoes
      show (if call.endsSession then none else some current) = some current
      rw [hgoes]
      rfl

theorem record_of_same_stream {step : Step}
    (h : (client.perform step).2.stream = client.stream) :
    (client.record step).1.sent = [] ∧ (client.record step).1.flushes = 0 ∧
      (client.record step).1.unread = client.stream.inbound.unread.length := by
  show List.drop _ (client.perform step).2.stream.outbound.sent = [] ∧
    (client.perform step).2.stream.outbound.flushes - _ = 0 ∧
    (client.perform step).2.stream.inbound.unread.length = _
  rw [h]
  exact ⟨List.drop_length, Nat.sub_self _, rfl⟩

theorem run_silent (hlost : session.desynchronized = true) (calls : List Call)
    (honly : ∀ found, client.session = some found → found = session) :
    Silent client session calls (client.run (calls.map .call)).1
      (client.run (calls.map .call)).2 := by
  -- The lost session stays the only one, so every call meets what the first one met.
  induction calls generalizing client with
  | nil =>
    rw [List.map_nil, run]
    constructor
    · rfl
    · exact honly
    · rfl
    · intro record hrecord
      cases hrecord
    · intro hsession i asked record hasked
      cases hasked
  | cons call rest ih =>
    obtain ⟨hcompletes, hstream, hleft, hfails, hstays⟩ := perform_call_of_lost hlost honly call
    have hrest := ih hleft
    rw [List.map_cons, run_cons_of_completes hcompletes]
    constructor
    · exact hrest.stream.trans hstream
    · exact hrest.kept
    · exact congrArg Nat.succ hrest.completes
    · intro record hrecord
      rcases List.mem_cons.mp hrecord with rfl | hlater
      · exact ⟨hcompletes, record_of_same_stream hstream⟩
      · rw [← hstream]
        exact hrest.traceless record hlater
    · intro hsession i asked record hasked hrecord hnot hlive
      cases i with
      | zero =>
        obtain rfl := Option.some.inj hasked
        obtain rfl := Option.some.inj hrecord
        exact hfails hsession hnot
      | succ i =>
        have hgoes : call.endsSession = false := hlive call List.mem_cons_self
        exact hrest.fails (hstays hsession hgoes) i asked record hasked hrecord hnot
          fun earlier hearlier => hlive earlier (List.mem_cons_of_mem _ hearlier)

end Client

/-- Over its whole life a session is bound to the same device and keeps the devices it found. Once
it has lost its place, whatever led there, every later run of calls is silent. -/
theorem lost_session_silent {client : Client} {session : Session}
    (hbound : client.session = some session) (history : List Step)
    (hhistory : ∀ step ∈ history, ¬ step.Binds) :
    ∀ found, (client.run history).2.session = some found →
      found.device.deviceId = session.device.deviceId ∧
      found.device.typeIndex = session.device.typeIndex ∧ found.devices = session.devices ∧
      (found.desynchronized = true → ∀ calls : List Call,
        Silent (client.run history).2 found calls
          ((client.run history).2.run (calls.map .call)).1
          ((client.run history).2.run (calls.map .call)).2) := by
  intro found hfound
  have hstart : client.Holds session := by
    intro current hcurrent
    obtain rfl := Option.some.inj (hbound.symm.trans hcurrent)
    exact .refl _
  have hsame := Client.run_holds history hhistory hstart found hfound
  refine ⟨by rw [hsame.device], by rw [hsame.device], hsame.devices, fun hlost calls => ?_⟩
  refine Client.run_silent hlost calls fun current hcurrent => ?_
  exact Option.some.inj (hcurrent.symm.trans hfound)

/-- A ping that is answered with a farewell, and everything behind it. -/
theorem lost_session_silent_ping :
    let session : Session := { devices := [⟨1, 7⟩], device := ⟨1, 7⟩, limit := none }
    let lost : Session := { session with desynchronized := true }
    let client : Client := { stream := Stream.holding [Frame.empty .bye], session := some session }
    (client.run [.call .ping]).2.session = some lost ∧ ∀ calls : List Call,
      Silent (client.run [.call .ping]).2 lost calls
        ((client.run [.call .ping]).2.run (calls.map .call)).1
        ((client.run [.call .ping]).2.run (calls.map .call)).2 := by
  intro session lost client
  have hsteps : ∀ step ∈ [Step.call .ping], ¬ step.Binds := by
    intro step hstep
    obtain rfl := List.mem_singleton.mp hstep
    exact id
  have hlost : (client.run [.call .ping]).2.session = some lost := by decide +kernel
  obtain ⟨-, -, -, hsilent⟩ := lost_session_silent rfl [.call .ping] hsteps lost hlost
  exact ⟨hlost, hsilent rfl⟩

/-! ## What a call without a place fails with -/

/-- The errors of a call on a session that has lost its place. An argument is checked before the
session is, so one that does not fit is refused for what it is. -/
inductive Call.FailsLost : Call → Error → Prop
  | lost {call : Call} {error : Error} (fits : ¬ call.Misfit) (kind : error.kind = .protocol)
      (detail : error.detail = "session is desynchronized by an earlier failure")
      (unattached : error.frame? = none) : FailsLost call error
  | payload {offset : UInt32} {data : List UInt8} (long : 65528 < data.length) :
      FailsLost (.write offset data) (.invalidArgument (.payloadTooLong data.length))
  | width {width : Width} {offset : UInt32} {data : List UInt8} (other : data.length ≠ width.bytes) :
      FailsLost (.writeBytes width offset data) (.invalidArgument (.wrongWidth width data.length))

theorem Call.failsLost_of_refusal {call : Call} {fault : InvalidArgument}
    (h : call.refusal = some fault) : call.FailsLost (.invalidArgument fault) := by
  cases call with
  | write offset data =>
    rw [refusal] at h
    split at h
    · obtain rfl := Option.some.inj h
      exact .payload ‹_›
    · cases h
  | writeBytes width offset data =>
    rw [refusal] at h
    split at h
    · cases h
    · obtain rfl := Option.some.inj h
      exact .width ‹_›
  | _ => cases h

/-- On a session that has lost its place every call fails, for its argument if that does not fit and
for the lost place otherwise. -/
theorem lost_session_failure (call : Call) {session : Session} (stream : Stream)
    (hlost : session.desynchronized = true) (hcall : call ≠ .release) :
    ∃ error, (Client.perform (.call call) { stream, session := some session }).1 = .failed error ∧
      call.FailsLost error := by
  rcases Call.refused_or_request call session.device.deviceId with
    ⟨fault, hrefusal, -⟩ | hrelease | ⟨request, -, hrequest⟩
  · have hperform := Call.perform_refused hrefusal { stream, session }
    rw [Client.perform_call_of_perform hperform]
    exact ⟨_, rfl, Call.failsLost_of_refusal hrefusal⟩
  · exact absurd hrelease hcall
  · have hperform : call.perform { stream, session } =
        (.failed (.protocol .desynchronized), { stream, session }) :=
      Call.perform_of_desynchronized hrequest hlost
    rw [Client.perform_call_of_perform hperform]
    exact ⟨_, rfl, .lost (Call.refusal_of_request hrequest) rfl rfl rfl⟩

/-- A ping and a write of too many bytes, after the place was lost. -/
theorem lost_session_failure_ping_write :
    let session : Session :=
      { devices := [⟨1, 7⟩], device := ⟨1, 7⟩, limit := none, desynchronized := true }
    let stream := Stream.holding []
    let fail := fun call => (Client.perform (.call call) { stream, session := some session }).1
    session.desynchronized = true ∧
      (∃ error, fail .ping = .failed error ∧ Call.FailsLost .ping error) ∧
      ∃ error, fail (.write 0 (List.replicate 65529 0)) = .failed error ∧
        Call.FailsLost (.write 0 (List.replicate 65529 0)) error := by
  intro session stream fail
  exact ⟨rfl, lost_session_failure .ping stream rfl nofun,
    lost_session_failure (.write 0 (List.replicate 65529 0)) stream rfl nofun⟩

/-- The lost place is not what every call fails with: no byte is no 8-bit value. -/
theorem lost_session_refuses_argument :
    ¬ ∀ (call : Call) (session : Session) (stream : Stream), session.desynchronized = true →
      call ≠ .release → ∃ error,
        (Client.perform (.call call) { stream, session := some session }).1 = .failed error ∧
          error.kind = .protocol ∧
          error.detail = "session is desynchronized by an earlier failure" ∧
          error.frame? = none := by
  intro h
  let session : Session :=
    { devices := [⟨1, 7⟩], device := ⟨1, 7⟩, limit := none, desynchronized := true }
  obtain ⟨error, herror, hkind, -⟩ := h (.writeBytes .w8 0 []) session (Stream.holding []) rfl nofun
  obtain rfl : Error.invalidArgument (.wrongWidth .w8 0) = error := Answer.failed.inj herror
  cases hkind

end RegisterLink
