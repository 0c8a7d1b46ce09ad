import RegisterLink.Proofs.Likeness.Script
import RegisterLink.Stream.Acceptance

/-!
# Requests of the same size

How far a stream accepts a frame depends on the size of the frame and not on what is in it. So two
reads of one session fare alike wherever and however much they read: the one answer that is there
is taken by either, and judged in the same way.
-/
namespace RegisterLink

/-- The same but for the bytes that have been accepted. -/
def Outbound.SameButSent (first second : Outbound) : Prop :=
  second = { first with sent := second.sent }

/-- The same but for the bytes that have been accepted. -/
structure Stream.SameButSent (first second : Stream) : Prop where
  inbound : second.inbound = first.inbound
  outbound : first.outbound.SameButSent second.outbound

/-- Calls that ask the server for a word. -/
def Call.isRead : Call → Bool
  | read _ _ => true
  | readWord _ _ => true
  | _ => false

/-- As many bytes are accepted of one string as of another of its length, and a failure is the same
failure. -/
theorem pour_congr (chunk room : Option Nat) (refusal : TransportFault) {bytes others : List UInt8}
    (h : others.length = bytes.length) :
    (pour chunk room refusal others).1.length = (pour chunk room refusal bytes).1.length ∧
      (pour chunk room refusal others).2 = (pour chunk room refusal bytes).2 := by
  by_cases hchunk : chunk = some 0
  · -- A stream that takes nothing at a time stops at once, unless there is nothing to send.
    subst hchunk
    have hstuck : ∀ bytes, nextPiece (some 0) room bytes = [] := by
      intro bytes
      cases room with
      | none => rfl
      | some count => exact List.take_nil
    have hnil : others = [] ↔ bytes = [] := by
      rw [← List.length_eq_zero_iff, h, List.length_eq_zero_iff]
    rw [pour, pour]
    simp only [hnil, hstuck]
    split
    · exact ⟨rfl, rfl⟩
    · split <;> exact ⟨rfl, rfl⟩
  · rw [pour_eq hchunk, pour_eq hchunk]
    dsimp only
    rw [length_takeUpTo, length_takeUpTo, h]
    exact ⟨rfl, rfl⟩

/-! ## Frames of the same size -/

section Frames

variable {excused : Error → Prop}

namespace Outbound

variable {first second : Outbound}

theorem write_mirrored {bytes others : List UInt8} (h : first.SameButSent second)
    (hsize : others.length = bytes.length) :
    Mirrored excused SameButSent Eq (write bytes first) (write others second) := by
  obtain ⟨sent, rfl⟩ : ∃ sent, second = { first with sent } := ⟨_, h⟩
  obtain ⟨hcount, hfault⟩ := pour_congr first.chunk first.room first.refusal hsize
  simp only [write, hcount, hfault]
  cases (pour first.chunk first.room first.refusal bytes).2 with
  | none => exact .done rfl rfl
  | some fault => exact .failed rfl

theorem flush_mirrored (h : first.SameButSent second) :
    Mirrored excused SameButSent Eq (flush first) (flush second) := by
  obtain ⟨sent, rfl⟩ : ∃ sent, second = { first with sent } := ⟨_, h⟩
  by_cases hspent : first.flushesLeft = some 0
  · simp only [flush, if_pos hspent]
    exact .failed rfl
  · simp only [flush, if_neg hspent]
    exact .done rfl rfl

theorem writeFrame_mirrored {frame other : Frame} (h : first.SameButSent second)
    (hsize : other.encode.length = frame.encode.length) :
    Mirrored excused SameButSent Eq (writeFrame frame first) (writeFrame other second) :=
  (write_mirrored h hsize).bind fun _ hwritten => flush_mirrored hwritten

end Outbound

theorem Stream.exchange_mirrored {first second : Stream} {frame other : Frame} (limit : Budget)
    (h : first.SameButSent second) (hsize : other.encode.length = frame.encode.length) :
    Mirrored excused SameButSent Eq (Stream.exchange limit frame first)
      (Stream.exchange limit other second) := by
  have hwrites : Mirrored excused SameButSent Eq (Stream.writeFrame frame first)
      (Stream.writeFrame other second) :=
    (Outbound.writeFrame_mirrored h.outbound hsize).within fun hout => ⟨h.inbound, hout⟩
  refine hwrites.bind fun {_ _ middle centre} _ hsent => ?_
  have hreads : Mirrored excused Eq Eq (Inbound.readFrame limit middle.inbound)
      (Inbound.readFrame limit centre.inbound) := hsent.inbound ▸ .refl _
  exact hreads.within fun hin => ⟨hin.symm, hsent.outbound⟩

end Frames

/-! ## Reads -/

namespace Call

theorem judge_of_isRead {call : Call} (h : call.isRead = true) :
    call.judge? = some fun answer => (Link.readReply answer).map .word := by
  cases call with
  | read offset size => rfl
  | readWord width offset => rfl
  | _ => cases h

theorem request_of_isRead {call : Call} (h : call.isRead = true) (deviceId : UInt8) :
    ∃ access, call.request? deviceId = some (Frame.ofRead access) := by
  cases call with
  | read offset size => exact ⟨_, rfl⟩
  | readWord width offset => exact ⟨_, rfl⟩
  | _ => cases h

theorem length_encode_ofRead (access : ReadRequest) :
    (Frame.ofRead access).encode.length = headerSize + accessHeaderSize := by
  rw [Frame.length_encode]
  exact congrArg _ (length_encodeAccess _ _ _)

/-- Two reads on one link end in the same way, and leave it the same but for what was sent. -/
theorem reads_mirrored {call other : Call} (hcall : call.isRead = true)
    (hother : other.isRead = true) (link : Link) :
    Mirrored (fun _ => False) (Link.Related Stream.SameButSent Eq) Eq (call.perform link)
      (other.perform link) := by
  have hsame : link.stream.SameButSent link.stream := ⟨rfl, rfl⟩
  obtain ⟨access, hrequest⟩ := request_of_isRead hcall link.session.device.deviceId
  obtain ⟨asked, hasked⟩ := request_of_isRead hother link.session.device.deviceId
  refine perform_mirrored ⟨hsame, rfl⟩ rfl (fun h => h ▸ rfl) hrequest hasked ?_
  rw [transact_of_judge (judge_of_isRead hcall), transact_of_judge (judge_of_isRead hother)]
  refine (Stream.exchange_mirrored _ hsame ?_).bind fun hanswer hstreams => ?_
  · rw [length_encode_ofRead, length_encode_ofRead]
  · rw [hanswer]
    exact .ofExcept hstreams

end Call

/-- Where and how much a read asks for decides neither its answer nor what is taken from the
stream, nor what becomes of the session. -/
theorem Client.reads_alike {call other : Call} (hcall : call.isRead = true)
    (hother : other.isRead = true) (client : Client) :
    (client.perform (.call other)).1 = (client.perform (.call call)).1 ∧
      (client.perform (.call other)).2.stream.inbound =
        (client.perform (.call call)).2.stream.inbound ∧
      (client.perform (.call other)).2.session = (client.perform (.call call)).2.session := by
  obtain ⟨stream, bound⟩ := client
  cases bound with
  | none => exact ⟨rfl, rfl, rfl⟩
  | some session =>
    have hends : other.endsSession = call.endsSession := by
      cases call <;> cases hcall <;> cases other <;> cases hother <;> rfl
    have hreads := Call.reads_mirrored hcall hother ⟨stream, session⟩
    rcases hfirst : call.perform ⟨stream, session⟩ with ⟨outcome, after⟩
    rcases hsecond : other.perform ⟨stream, session⟩ with ⟨found, last⟩
    rw [hfirst, hsecond] at hreads
    rw [perform_call_of_perform hfirst, perform_call_of_perform hsecond, hends]
    cases hreads with
    | done agree alike =>
      rw [agree, alike.session]
      exact ⟨rfl, alike.stream.inbound, rfl⟩
    | failed alike =>
      rw [alike.session]
      exact ⟨rfl, alike.stream.inbound, rfl⟩
    | blocked alike =>
      rw [alike.session]
      exact ⟨rfl, alike.stream.inbound, rfl⟩
    | excused excuse => exact excuse.elim

end RegisterLink
