import Mathlib.Data.List.Basic
import RegisterLink.Proofs.Call.Performing
import RegisterLink.Proofs.Script.Run

/-!
# Losing the place is exact

A call on a synchronized session succeeds and leaves the session synchronized, or is refused for its
argument and leaves everything as it was, or fails by the stream or the protocol and leaves a
session that has lost its place. There is nothing in between, and the answer alone decides between
success and breach: an empty echo for a ping, one word of four bytes for a read. The answer is the
frame that the call has taken from the stream behind the request it has sent.
-/
namespace RegisterLink

namespace Call

/-- An argument that does not fit: a payload no frame can carry, or bytes of another width. -/
def Misfit : Call → Prop
  | write _ data => 65528 < data.length
  | writeBytes width _ data => data.length ≠ width.bytes
  | _ => False

/-- Calls that wait for an answer. -/
def Asks : Call → Prop
  | ping | read _ _ | readWord _ _ => True
  | _ => False

end Call

/-- An answer to a read that carries one word, least significant byte first. -/
def Frame.CarriesWord (frame : Frame) (value : UInt32) : Prop :=
  frame.command = Command.readResponse.byte ∧ ∃ b₀ b₁ b₂ b₃ : UInt8, frame.body = [b₀, b₁, b₂, b₃] ∧
    value.toNat = b₀.toNat + 256 * b₁.toNat + 65536 * b₂.toNat + 16777216 * b₃.toNat

/-- The frames a call is content with, and the reply it makes of them. -/
def Call.Satisfied : Call → Frame → Reply → Prop
  | .ping, frame, reply => frame = Frame.empty .echoReply ∧ reply = .alive
  | .read _ _, frame, reply => ∃ value, frame.CarriesWord value ∧ reply = .word value
  | .readWord _ _, frame, reply => ∃ value, frame.CarriesWord value ∧ reply = .word value
  | _, _, _ => False

/-! ## What answers say -/

theorem Frame.isEmptyOf_iff {frame : Frame} {command : Command} :
    frame.isEmptyOf command = true ↔ frame = Frame.empty command := by
  obtain ⟨byte, body, hfits⟩ := frame
  simp [Frame.isEmptyOf, Frame.empty]

theorem Command.ofByte?_eq_some_iff {byte : UInt8} {command : Command} :
    Command.ofByte? byte = some command ↔ byte = command.byte := by
  constructor
  · intro h
    have hfound := List.find?_some h
    exact (eq_of_beq hfound).symm
  · rintro rfl
    exact Command.ofByte?_byte command

theorem Frame.kind_eq_some_iff {frame : Frame} {command : Command} :
    frame.kind = some command ↔ frame.command = command.byte :=
  Command.ofByte?_eq_some_iff

theorem decodeReadResponse_eq_ok_iff {body : List UInt8} {value : UInt32} :
    decodeReadResponse body = .ok value ↔
      ∃ b₀ b₁ b₂ b₃ : UInt8, body = [b₀, b₁, b₂, b₃] ∧
        value.toNat = b₀.toNat + 256 * b₁.toNat + 65536 * b₂.toNat + 16777216 * b₃.toNat := by
  have hword : ∀ b₀ b₁ b₂ b₃ : UInt8, (UInt32.ofNat (Word.decode [b₀, b₁, b₂, b₃])).toNat =
      b₀.toNat + 256 * b₁.toNat + 65536 * b₂.toNat + 16777216 * b₃.toNat := by
    intro b₀ b₁ b₂ b₃
    have hsum : Word.decode [b₀, b₁, b₂, b₃] =
        b₀.toNat + 256 * b₁.toNat + 65536 * b₂.toNat + 16777216 * b₃.toNat := by
      simp only [Word.decode]
      omega
    have h₀ := b₀.toNat_lt
    have h₁ := b₁.toNat_lt
    have h₂ := b₂.toNat_lt
    have h₃ := b₃.toNat_lt
    rw [UInt32.toNat_ofNat', hsum, Nat.mod_eq_of_lt (by omega)]
  unfold decodeReadResponse
  constructor
  · intro h
    split at h
    · obtain rfl := Except.ok.inj h
      obtain ⟨b₀, b₁, b₂, b₃, rfl⟩ := List.length_eq_four.mp ‹body.length = readResponseSize›
      exact ⟨b₀, b₁, b₂, b₃, rfl, hword b₀ b₁ b₂ b₃⟩
    · cases h
  · rintro ⟨b₀, b₁, b₂, b₃, rfl, hvalue⟩
    have hsize : [b₀, b₁, b₂, b₃].length = readResponseSize := rfl
    rw [if_pos hsize]
    exact congrArg _ (UInt32.toNat_inj.mp ((hword b₀ b₁ b₂ b₃).trans hvalue.symm))

theorem readReply_eq_ok_iff {frame : Frame} {value : UInt32} :
    Link.readReply frame = .ok value ↔ frame.CarriesWord value := by
  unfold Link.readReply Frame.CarriesWord
  rw [← decodeReadResponse_eq_ok_iff, ← Frame.kind_eq_some_iff]
  split
  · cases decodeReadResponse frame.body with
    | ok found =>
      constructor
      · intro h
        obtain rfl := Except.ok.inj h
        exact ⟨‹_›, rfl⟩
      · rintro ⟨-, h⟩
        obtain rfl := Except.ok.inj h
        rfl
    | error fault =>
      constructor
      · intro h
        cases h
      · rintro ⟨-, h⟩
        cases h
  · constructor
    · intro h
      cases h
    · rintro ⟨h, -⟩
      exact absurd h ‹_›

theorem readReply_error_frame {frame : Frame} {fault : ProtocolFault}
    (h : Link.readReply frame = .error fault) : fault.frame? = some frame := by
  unfold Link.readReply at h
  split at h
  · cases hdecode : decodeReadResponse frame.body with
    | ok value => rw [hdecode] at h; cases h
    | error malformed => rw [hdecode] at h; obtain rfl := Except.error.inj h; rfl
  · obtain rfl := Except.error.inj h
    rfl

namespace Call

variable {call : Call} {judge : Frame → Except ProtocolFault Reply}

theorem not_asks_of_unanswered (h : call.judge? = none) : ¬ call.Asks := by
  cases call with
  | ping | read offset size | readWord width offset => cases h
  | _ => exact id

theorem asks_of_judge (h : call.judge? = some judge) : call.Asks := by
  cases call with
  | ping | read offset size | readWord width offset => trivial
  | _ => cases h

theorem judge_eq_ok_iff (h : call.judge? = some judge) {frame : Frame} {reply : Reply} :
    judge frame = .ok reply ↔ call.Satisfied frame reply := by
  have hread : (Link.readReply frame).map Reply.word = .ok reply ↔
      ∃ value, frame.CarriesWord value ∧ reply = .word value := by
    simp only [← readReply_eq_ok_iff]
    cases Link.readReply frame <;> simp [Except.map, eq_comm]
  cases call with
  | ping =>
    obtain rfl := Option.some.inj h
    show (if frame.isEmptyOf .echoReply = true then _ else _) = _ ↔ _ = _ ∧ _
    rw [← Frame.isEmptyOf_iff]
    split <;> simp [*, eq_comm]
  | read offset size => obtain rfl := Option.some.inj h; exact hread
  | readWord width offset => obtain rfl := Option.some.inj h; exact hread
  | _ => cases h

theorem judge_error_frame (h : call.judge? = some judge) {frame : Frame} {fault : ProtocolFault}
    (hbreach : judge frame = .error fault) : fault.frame? = some frame := by
  have hread : (Link.readReply frame).map Reply.word = .error fault →
      fault.frame? = some frame := by
    intro hmap
    cases hreply : Link.readReply frame with
    | ok value => rw [hreply] at hmap; cases hmap
    | error found =>
      rw [hreply] at hmap
      obtain rfl := Except.error.inj hmap
      exact readReply_error_frame hreply
  cases call with
  | ping =>
    obtain rfl := Option.some.inj h
    change (if frame.isEmptyOf .echoReply = true then _ else _) = _ at hbreach
    split at hbreach
    · cases hbreach
    · obtain rfl := Except.error.inj hbreach
      rfl
  | read offset size => obtain rfl := Option.some.inj h; exact hread hbreach
  | readWord width offset => obtain rfl := Option.some.inj h; exact hread hbreach
  | _ => cases h

theorem refusal_isSome_iff : call.refusal.isSome ↔ call.Misfit := by
  cases call with
  | write offset data =>
    show (if 65528 < data.length then _ else _ : Option InvalidArgument).isSome ↔ 65528 < _
    split <;> simp [*]
  | writeBytes width offset data =>
    show (if data.length = width.bytes then _ else _ : Option InvalidArgument).isSome ↔ _ ≠ _
    split <;> simp [*]
  | _ => simp [refusal, Misfit]

def Answered (call : Call) (session : Session) (stream : Stream) (answer : Frame) : Prop :=
  ∃ request rest, call.request? session.device.deviceId = some request ∧
    Stream.exchange session.limit request stream = (.done answer, rest)

end Call

/-! ## The verdict -/

/-- The call succeeded, and a session that goes on still knows its place. -/
def Answer.Succeeded (answer : Answer) (after : Client) : Prop :=
  (∃ reply, answer = .ok reply) ∧
    ∀ session, after.session = some session → session.desynchronized = false

/-- The argument was refused, and nothing is changed. -/
def Answer.Refused (answer : Answer) (before after : Client) : Prop :=
  (∃ fault, answer = .failed (.invalidArgument fault)) ∧ after = before

/-- The stream or the protocol was broken, and a session that goes on has lost its place. -/
def Answer.Broken (answer : Answer) (after : Client) : Prop :=
  (∃ error, answer = .failed error ∧ (error.kind = .transport ∨ error.kind = .protocol)) ∧
    ∀ session, after.session = some session → session.desynchronized = true

/-- What a call on a synchronized session comes to. -/
structure CallVerdict (call : Call) (session : Session) (stream : Stream) (answer : Answer)
    (after : Client) : Prop where
  course : ∃ outcome link, Performing call { stream, session } outcome link ∧
    answer = .ofOutcome outcome ∧ after.stream = link.stream
  received : call.Asks → ∀ frame, call.Answered session stream frame →
    ∃ request, call.request? session.device.deviceId = some request ∧
      Swapped request frame stream after.stream
  settled : answer ≠ .blocked →
    answer.Succeeded after ∨ answer.Refused { stream, session := some session } after ∨
      answer.Broken after
  exclusive :
    ¬ (answer.Succeeded after ∧ answer.Refused { stream, session := some session } after) ∧
    ¬ (answer.Succeeded after ∧ answer.Broken after) ∧
    ¬ (answer.Refused { stream, session := some session } after ∧ answer.Broken after)
  refused_iff : answer.Refused { stream, session := some session } after ↔ call.Misfit
  ok_iff : call.Asks → ∀ reply, answer = .ok reply ↔
    ∃ frame, call.Answered session stream frame ∧ call.Satisfied frame reply
  breach : call.Asks → ∀ frame, call.Answered session stream frame →
    (∀ reply, ¬ call.Satisfied frame reply) →
      ∃ fault, answer = .failed (.protocol fault) ∧ fault.frame? = some frame
  no_breach : ¬ call.Asks → ∀ fault, answer ≠ .failed (.protocol fault)

namespace Answer

variable {answer : Answer} {before after : Client}

theorem not_refused_of_succeeded (h : answer.Succeeded after) : ¬ answer.Refused before after := by
  rintro ⟨⟨fault, hfault⟩, -⟩
  obtain ⟨⟨reply, hreply⟩, -⟩ := h
  cases hreply.symm.trans hfault

theorem not_broken_of_succeeded (h : answer.Succeeded after) : ¬ answer.Broken after := by
  rintro ⟨⟨error, herror, -⟩, -⟩
  obtain ⟨⟨reply, hreply⟩, -⟩ := h
  cases hreply.symm.trans herror

theorem not_broken_of_refused (h : answer.Refused before after) : ¬ answer.Broken after := by
  rintro ⟨⟨error, herror, hkind⟩, -⟩
  obtain ⟨⟨fault, hfault⟩, -⟩ := h
  cases hfault.symm.trans herror
  rcases hkind with hkind | hkind <;> cases hkind

end Answer

namespace Call

variable {call : Call} {session : Session} {stream : Stream} {outcome : Outcome Reply} {link : Link}

theorem refusal_of_request {deviceId : UInt8} {request : Frame}
    (h : call.request? deviceId = some request) : ¬ call.Misfit := by
  intro hmisfit
  obtain ⟨fault, hfault⟩ := Option.isSome_iff_exists.mp (refusal_isSome_iff.mpr hmisfit)
  rcases refused_or_request call deviceId with ⟨_, -, hnone⟩ | rfl | ⟨_, hnone, -⟩
  · cases hnone.symm.trans h
  · cases h
  · cases hnone.symm.trans hfault

theorem settled_of_performing (hsync : session.desynchronized = false)
    (h : Performing call { stream, session } outcome link) :
    let after : Client := ⟨link.stream, if call.endsSession then none else some link.session⟩
    outcome = .blocked ∨ (Answer.ofOutcome outcome).Succeeded after ∨
      (Answer.ofOutcome outcome).Refused ⟨stream, some session⟩ after ∨
        (Answer.ofOutcome outcome).Broken after := by
  have hgoes : ∀ {found : Session}, (if call.endsSession then none else some session) = some found →
      found.desynchronized = false := fun hfound => Client.session_of_ends hfound ▸ hsync
  have hlost : ∀ {found : Session},
      (if call.endsSession then none else some { session with desynchronized := true }) =
        some found → found.desynchronized = true :=
    fun hfound => Client.session_of_ends hfound ▸ rfl
  cases h with
  | refused refusal =>
    have hends : call.endsSession = false := by cases call <;> first | rfl | cases refusal
    exact Or.inr (Or.inr (Or.inl ⟨⟨_, rfl⟩, by rw [hends]; rfl⟩))
  | released | sent | accepted =>
    exact Or.inr (Or.inl ⟨⟨_, rfl⟩, fun _ hfound => hgoes hfound⟩)
  | unsent | broke =>
    exact Or.inr (Or.inr (Or.inr ⟨⟨_, rfl, Or.inl rfl⟩, fun _ hfound => hlost hfound⟩))
  | waits => exact Or.inl rfl
  | rejected =>
    exact Or.inr (Or.inr (Or.inr ⟨⟨_, rfl, Or.inr rfl⟩, fun _ hfound => hlost hfound⟩))

theorem misfit_of_performing (h : Performing call { stream, session } outcome link) :
    (∃ fault, outcome = .failed (.invalidArgument fault)) ↔ call.Misfit := by
  constructor
  · rintro ⟨fault, rfl⟩
    cases h with
    | refused refusal => exact refusal_isSome_iff.mp (refusal ▸ rfl)
  · intro hmisfit
    cases h with
    | refused refusal => exact ⟨_, rfl⟩
    | released release => subst release; cases hmisfit
    | sent asked | unsent asked | broke asked | waits asked | accepted asked | rejected asked =>
      exact absurd hmisfit (refusal_of_request asked)

theorem ok_of_performing (hasks : call.Asks) (hsync : session.desynchronized = false)
    (hperform : call.perform { stream, session } = (outcome, link)) (reply : Reply) :
    outcome = .done reply ↔
      ∃ frame, call.Answered session stream frame ∧ call.Satisfied frame reply := by
  constructor
  · rintro rfl
    cases perform_performing hsync hperform with
    | released release => subst release; cases hasks
    | sent asked unanswered => exact absurd hasks (not_asks_of_unanswered unanswered)
    | accepted asked judged exchanged verdict =>
      exact ⟨_, ⟨_, _, asked, exchanged.result⟩, (judge_eq_ok_iff judged).mp verdict⟩
  · rintro ⟨frame, ⟨request, rest, hrequest, hexchange⟩, hsatisfied⟩
    cases hjudge : call.judge? with
    | none => exact absurd hasks (not_asks_of_unanswered hjudge)
    | some judge =>
      have hdone : call.perform { stream, session } = (.done reply, _) :=
        perform_of_answer_ok hsync hrequest hjudge hexchange
          ((judge_eq_ok_iff hjudge).mpr hsatisfied)
      exact (Prod.mk.inj (hperform.symm.trans hdone)).1

/-- A call that was answered has sent its request and taken that answer, and nothing else. -/
theorem swapped_of_performing (hasks : call.Asks)
    (h : Performing call { stream, session } outcome link) {frame : Frame}
    (hanswered : call.Answered session stream frame) :
    ∃ request, call.request? session.device.deviceId = some request ∧
      Swapped request frame stream link.stream := by
  obtain ⟨request, rest, hrequest, hexchange⟩ := hanswered
  cases h with
  | refused refusal =>
    exact absurd (refusal_isSome_iff.mp (refusal ▸ rfl)) (refusal_of_request hrequest)
  | released release => subst release; cases hasks
  | sent asked unanswered | unsent asked unanswered =>
    exact absurd hasks (not_asks_of_unanswered unanswered)
  | broke asked judged exchanged | waits asked judged exchanged =>
    obtain rfl := Option.some.inj (hrequest.symm.trans asked)
    cases hexchange.symm.trans exchanged.result
  | accepted asked judged exchanged verdict | rejected asked judged exchanged verdict =>
    obtain rfl := Option.some.inj (hrequest.symm.trans asked)
    cases hexchange.symm.trans exchanged.result
    exact ⟨request, hrequest, exchanged.swapped⟩

theorem breach_of_performing (hasks : call.Asks) (hsync : session.desynchronized = false)
    (hperform : call.perform { stream, session } = (outcome, link)) {frame : Frame}
    (hanswered : call.Answered session stream frame)
    (hother : ∀ reply, ¬ call.Satisfied frame reply) :
    ∃ fault, outcome = .failed (.protocol fault) ∧ fault.frame? = some frame := by
  obtain ⟨request, rest, hrequest, hexchange⟩ := hanswered
  cases hjudge : call.judge? with
  | none => exact absurd hasks (not_asks_of_unanswered hjudge)
  | some judge =>
    cases hverdict : judge frame with
    | ok reply => exact absurd ((judge_eq_ok_iff hjudge).mp hverdict) (hother reply)
    | error fault =>
      have hfailed : call.perform { stream, session } = (.failed (.protocol fault), _) :=
        perform_of_answer_error hsync hrequest hjudge hexchange hverdict
      have houtcome := (Prod.mk.inj (hperform.symm.trans hfailed)).1
      exact ⟨fault, houtcome, judge_error_frame hjudge hverdict⟩

theorem error_kind_of_perform {error : Error}
    (h : call.perform { stream, session } = (.failed error, link)) :
    error.kind ≠ .frame ∧ error.kind ≠ .handshake := by
  cases hsync : session.desynchronized with
  | false =>
    cases perform_performing hsync h <;> exact ⟨nofun, nofun⟩
  | true =>
    rcases refused_or_request call session.device.deviceId with
      ⟨fault, hrefusal, -⟩ | rfl | ⟨request, -, hrequest⟩
    · rw [perform_refused hrefusal] at h
      cases h
      exact ⟨nofun, nofun⟩
    · cases h
    · have hdead : call.perform { stream, session } = (.failed (.protocol .desynchronized), _) :=
        perform_of_desynchronized hrequest hsync
      cases hdead.symm.trans h
      exact ⟨nofun, nofun⟩

end Call

/-- Every call on every session: no error of a frame or of a handshake, and on a synchronized
session the verdict above. -/
theorem call_verdict (call : Call) (session : Session) (stream : Stream) :
    (∀ error, (Client.perform (.call call) { stream, session := some session }).1 = .failed error →
      error.kind ≠ .frame ∧ error.kind ≠ .handshake) ∧
    (session.desynchronized = false →
      CallVerdict call session stream
        (Client.perform (.call call) { stream, session := some session }).1
        (Client.perform (.call call) { stream, session := some session }).2) := by
  rcases hperform : call.perform { stream, session } with ⟨outcome, link⟩
  rw [Client.perform_call_of_perform hperform]
  refine ⟨fun error herror => ?_, fun hsync => ?_⟩
  · cases outcome with
    | failed found =>
      cases herror
      exact Call.error_kind_of_perform hperform
    | _ => cases herror
  · have hperforming := Call.perform_performing hsync hperform
    have hsettled := Call.settled_of_performing hsync hperforming
    have hmisfit := Call.misfit_of_performing hperforming
    constructor
    · exact ⟨outcome, link, hperforming, rfl, rfl⟩
    · intro hasks frame hanswered
      exact Call.swapped_of_performing hasks hperforming hanswered
    · intro hcompletes
      rcases hsettled with rfl | hsettled
      · exact absurd rfl hcompletes
      · exact hsettled
    · exact ⟨fun h => Answer.not_refused_of_succeeded h.1 h.2,
        fun h => Answer.not_broken_of_succeeded h.1 h.2,
        fun h => Answer.not_broken_of_refused h.1 h.2⟩
    · rw [← hmisfit]
      constructor
      · rintro ⟨⟨fault, hfault⟩, -⟩
        cases outcome <;> cases hfault
        exact ⟨fault, rfl⟩
      · rintro ⟨fault, rfl⟩
        rcases hsettled with hnever | ⟨⟨reply, hreply⟩, -⟩ | hrefused | ⟨⟨error, herror, hkind⟩, -⟩
        · cases hnever
        · cases hreply
        · exact hrefused
        · cases herror
          rcases hkind with hkind | hkind <;> cases hkind
    · intro hasks reply
      rw [← Call.ok_of_performing hasks hsync hperform]
      cases outcome <;> simp [Answer.ofOutcome]
    · intro hasks frame hanswered hother
      obtain ⟨fault, rfl, hfault⟩ := Call.breach_of_performing hasks hsync hperform hanswered hother
      exact ⟨fault, rfl, hfault⟩
    · intro hsilent fault hfault
      cases hperforming with
      | rejected asked judged => exact hsilent (Call.asks_of_judge judged)
      | _ => cases hfault

/-- A read that is answered with one word. -/
theorem call_verdict_read :
    let answer : Frame := ⟨Command.readResponse.byte, [42, 0, 0, 0], by decide⟩
    let session : Session := { devices := [⟨1, 7⟩], device := ⟨1, 7⟩, limit := none }
    let client : Client := { stream := Stream.holding [answer], session := some session }
    session.desynchronized = false ∧ Call.Asks (.read 16 4) ∧
      (client.perform (.call (.read 16 4))).1 = .ok (.word 42) := by
  intro answer session client
  have hverdict := (call_verdict (.read 16 4) session client.stream).2 rfl
  have hanswered : Call.Answered (.read 16 4) session client.stream answer :=
    ⟨Frame.ofRead ⟨7, 16, 4⟩, (Stream.exchange none (Frame.ofRead ⟨7, 16, 4⟩) client.stream).2, rfl,
      by decide +kernel⟩
  have hword : answer.CarriesWord 42 := ⟨rfl, 42, 0, 0, 0, rfl, rfl⟩
  exact ⟨rfl, trivial, (hverdict.ok_iff trivial _).mpr ⟨answer, hanswered, 42, hword, rfl⟩⟩

end RegisterLink
