import RegisterLink.Stream.Acceptance
import RegisterLink.Stream.Framing

/-!
# What becomes of a frame that is sent

A stream may refuse bytes at any point of a frame, and refuse the flush behind it. Whatever the
sizes of its writes, it accepts the bytes in front and no others, and a frame that was not accepted
to its end is reported as a failure. Sending fails only on a stream that does not admit so many
bytes, or that has no flush left.
-/
namespace RegisterLink

/-- The bytes begin `whole` and stop before its end. -/
def ProperPrefix (part whole : List UInt8) : Prop :=
  part <+: whole ∧ part.length < whole.length

theorem properPrefix_nil {whole : List UInt8} (h : whole ≠ []) : ProperPrefix [] whole :=
  ⟨List.nil_prefix, List.length_pos_iff.mpr h⟩

theorem Frame.encode_ne_nil (frame : Frame) : frame.encode ≠ [] := by
  rw [Frame.encode]
  exact List.cons_ne_nil _ _

theorem nextPiece_append_drop (chunk room : Option Nat) (bytes : List UInt8) :
    nextPiece chunk room bytes ++ bytes.drop (nextPiece chunk room bytes).length = bytes := by
  conv => lhs; arg 1; rw [nextPiece_eq_take]
  exact List.take_append_drop _ _

/-- Accepted bytes come from the front, and there is a failure exactly when some are missing. -/
theorem pour_accepts (chunk room : Option Nat) (refusal : TransportFault) (bytes : List UInt8) :
    ((pour chunk room refusal bytes).2 = none ∧ (pour chunk room refusal bytes).1 = bytes) ∨
      ∃ fault, (pour chunk room refusal bytes).2 = some fault ∧
        ProperPrefix (pour chunk room refusal bytes).1 bytes := by
  fun_induction pour chunk room refusal bytes with
  | case1 room => exact Or.inl ⟨rfl, rfl⟩
  | case2 bytes hbytes => exact Or.inr ⟨refusal, rfl, properPrefix_nil hbytes⟩
  | case3 room bytes hbytes => exact Or.inr ⟨.writeZero, rfl, properPrefix_nil hbytes⟩
  | case4 room bytes hbytes hroom hpiece size accepted fault hrest ih =>
    -- The recursion offers the bytes that the last write did not take.
    have happ := nextPiece_append_drop chunk room bytes
    simp only [hrest] at ih
    rcases ih with ⟨hnone, hall⟩ | ⟨why, hsome, hprefix, hlt⟩
    · exact Or.inl ⟨hnone, by rw [hall]; exact happ⟩
    · refine Or.inr ⟨why, hsome, ?_, ?_⟩
      · conv => rhs; rw [← happ]
        exact (List.prefix_append_right_inj _).mpr hprefix
      · have hlen := congrArg List.length happ
        rw [List.length_append] at hlen ⊢
        change accepted.length < (bytes.drop (nextPiece chunk room bytes).length).length at hlt
        omega

/-! ## Room for bytes -/

namespace Outbound

/-- The stream has room for so many bytes and takes some at a time. -/
structure Admits (outbound : Outbound) (size : Nat) : Prop where
  accepts : outbound.chunk ≠ some 0
  room : ∀ count, outbound.room = some count → size ≤ count

section Room

variable {outbound : Outbound} {bytes : List UInt8} {room : Nat}

/-- The stream after it has accepted these bytes. -/
def accept (outbound : Outbound) (bytes : List UInt8) : Outbound :=
  { outbound with
    room := remaining outbound.room bytes.length
    sent := outbound.sent ++ bytes }

/-- With room for all bytes, all are accepted. -/
theorem write_of_admits (h : outbound.Admits bytes.length) :
    Outbound.write bytes outbound = (.done (), outbound.accept bytes) := by
  have hall : takeUpTo outbound.room bytes = bytes := by
    cases hroom : outbound.room with
    | none => rfl
    | some count => exact List.take_of_length_le (h.room count hroom)
  rw [write_eq h.accepts, hall, if_pos rfl]
  rfl

/-- With room for fewer, those in front are accepted, and the next write is refused. -/
theorem write_of_shortage (hchunk : outbound.chunk ≠ some 0) (hroom : outbound.room = some room)
    (hshort : room < bytes.length) :
    Outbound.write bytes outbound =
      (.failed (.transport outbound.refusal), outbound.accept (bytes.take room)) := by
  have hpart : (bytes.take room).length ≠ bytes.length := by
    rw [List.length_take_of_le (Nat.le_of_lt hshort)]
    exact Nat.ne_of_lt hshort
  rw [write_eq hchunk, hroom, takeUpTo, if_neg hpart, accept, hroom]

/-- A stream that takes no byte at a time fails at the first. -/
theorem write_of_stuck (hchunk : outbound.chunk = some 0) (hroom : outbound.room ≠ some 0)
    (hbytes : bytes ≠ []) :
    Outbound.write bytes outbound = (.failed (.transport .writeZero), outbound) := by
  have hpiece : nextPiece (some 0) outbound.room bytes = [] := by
    cases outbound.room with
    | none => rfl
    | some count => exact List.take_nil
  have hpour : pour outbound.chunk outbound.room outbound.refusal bytes = ([], some .writeZero) := by
    rw [hchunk, pour, if_neg hbytes, if_neg hroom, if_pos hpiece]
  rw [Outbound.write, hpour]
  obtain ⟨chunk, room, refusal, left, fault, sent, flushes⟩ := outbound
  cases room <;> simp [remaining]

end Room

end Outbound

/-! ## One frame -/

/-- How sending a frame can end, and what the stream has accepted by then. -/
inductive Sending (frame : Frame) (before : Outbound) : Outcome Unit → Outbound → Prop
  | sent {after : Outbound} (accepted : after.sent = before.sent ++ frame.encode)
      (flushed : after.flushes = before.flushes + 1) : Sending frame before (.done ()) after
  | unflushed {after : Outbound} {fault : TransportFault}
      (accepted : after.sent = before.sent ++ frame.encode)
      (unflushed : after.flushes = before.flushes) (spent : before.flushesLeft = some 0) :
      Sending frame before (.failed (.transport fault)) after
  | cutOff {after : Outbound} {fault : TransportFault} {part : List UInt8}
      (cut : ProperPrefix part frame.encode) (accepted : after.sent = before.sent ++ part)
      (unflushed : after.flushes = before.flushes)
      (shortage : ¬ before.Admits frame.encode.length) :
      Sending frame before (.failed (.transport fault)) after

theorem Sending.sent_prefix {frame : Frame} {before after : Outbound} {outcome : Outcome Unit}
    (h : Sending frame before outcome after) :
    ∃ part, part <+: frame.encode ∧ after.sent = before.sent ++ part := by
  cases h with
  | sent accepted flushed => exact ⟨_, List.prefix_rfl, accepted⟩
  | unflushed accepted => exact ⟨_, List.prefix_rfl, accepted⟩
  | cutOff cut accepted => exact ⟨_, cut.1, accepted⟩

namespace Outbound

/-- A write accepts all bytes, or fails on the way if they are not admitted; it flushes nothing. -/
theorem write_cases {bytes : List UInt8} {before after : Outbound} {outcome : Outcome Unit}
    (h : Outbound.write bytes before = (outcome, after)) :
    after.flushes = before.flushes ∧ after.flushesLeft = before.flushesLeft ∧
      ((outcome = .done () ∧ after.sent = before.sent ++ bytes) ∨
        ∃ fault part, outcome = .failed (.transport fault) ∧ ProperPrefix part bytes ∧
          after.sent = before.sent ++ part ∧ ¬ before.Admits bytes.length) := by
  have hwrite := h
  unfold Outbound.write at h
  rcases pour_accepts before.chunk before.room before.refusal bytes with
    ⟨hnone, hall⟩ | ⟨fault, hsome, hpart⟩
  · simp only [hnone] at h
    obtain ⟨rfl, rfl⟩ := Prod.mk.inj h
    exact ⟨rfl, rfl, Or.inl ⟨rfl, by rw [hall]⟩⟩
  · simp only [hsome] at h
    obtain ⟨rfl, rfl⟩ := Prod.mk.inj h
    refine ⟨rfl, rfl, Or.inr ⟨fault, _, rfl, hpart, rfl, fun hadmits => ?_⟩⟩
    cases hwrite.symm.trans (write_of_admits hadmits)

/-- A flush succeeds and is counted, or none was left and nothing changes. -/
theorem flush_cases {before after : Outbound} {outcome : Outcome Unit}
    (h : Outbound.flush before = (outcome, after)) :
    after.sent = before.sent ∧
      ((outcome = .done () ∧ after.flushes = before.flushes + 1) ∨
        ∃ fault, outcome = .failed (.transport fault) ∧ after.flushes = before.flushes ∧
          before.flushesLeft = some 0) := by
  unfold Outbound.flush at h
  split at h
  · obtain ⟨rfl, rfl⟩ := Prod.mk.inj h
    exact ⟨rfl, Or.inr ⟨_, rfl, rfl, ‹_›⟩⟩
  · obtain ⟨rfl, rfl⟩ := Prod.mk.inj h
    exact ⟨rfl, Or.inl ⟨rfl, rfl⟩⟩

theorem writeFrame_sending {frame : Frame} {before after : Outbound} {outcome : Outcome Unit}
    (h : Outbound.writeFrame frame before = (outcome, after)) :
    Sending frame before outcome after := by
  unfold Outbound.writeFrame at h
  rcases hwrite : Outbound.write frame.encode before with ⟨written, middle⟩
  obtain ⟨hcount, hleft, ⟨rfl, hsent⟩ | ⟨fault, part, rfl, hpart, hsent, hshortage⟩⟩ :=
    write_cases hwrite
  · rw [Action.bind_of_done hwrite] at h
    obtain ⟨hsame, ⟨rfl, hflush⟩ | ⟨fault, rfl, hflush, hspent⟩⟩ := flush_cases h
    · exact .sent (hsame.trans hsent) (by rw [hflush, hcount])
    · exact .unflushed (hsame.trans hsent) (hflush.trans hcount) (hleft.symm.trans hspent)
  · rw [Action.bind_of_failed hwrite] at h
    obtain ⟨rfl, rfl⟩ := Prod.mk.inj h
    exact .cutOff hpart hsent hcount hshortage

/-- A stream with room for a frame accepts it to its end, whatever becomes of the flush. -/
theorem writeFrame_sent {outbound : Outbound} {frame : Frame}
    (h : outbound.Admits frame.encode.length) :
    (Outbound.writeFrame frame outbound).2.sent = outbound.sent ++ frame.encode := by
  rw [Outbound.writeFrame, Action.bind_of_done (write_of_admits h)]
  rcases hflush : Outbound.flush _ with ⟨outcome, after⟩
  exact (flush_cases hflush).1

/-- What becomes of a frame, for every size of the writes, every room and every number of flushes
left: with too little room the bytes there is room for are accepted and nothing is flushed;
otherwise all are accepted, and the one flush decides. -/
theorem frame_accepted_or_cut_off (frame : Frame) (outbound : Outbound) :
    (outbound.chunk ≠ some 0 →
      (∀ room, outbound.room = some room → room < frame.encode.length →
        Outbound.writeFrame frame outbound =
          (.failed (.transport outbound.refusal),
            { outbound with
              room := some 0
              sent := outbound.sent ++ frame.encode.take room })) ∧
      ((∀ room, outbound.room = some room → frame.encode.length ≤ room) →
        let accepted : Outbound := { outbound with
          room := outbound.room.map (· - frame.encode.length)
          sent := outbound.sent ++ frame.encode }
        (outbound.flushesLeft ≠ some 0 →
          Outbound.writeFrame frame outbound =
            (.done (), { accepted with
              flushesLeft := outbound.flushesLeft.map (· - 1)
              flushes := outbound.flushes + 1 })) ∧
        (outbound.flushesLeft = some 0 →
          Outbound.writeFrame frame outbound =
            (.failed (.transport (.broken outbound.flushFault)), accepted)))) ∧
    (outbound.chunk = some 0 → outbound.room ≠ some 0 →
      Outbound.writeFrame frame outbound = (.failed (.transport .writeZero), outbound)) := by
  refine ⟨fun hchunk => ⟨fun room hroom hshort => ?_, fun hroom => ?_⟩, fun hchunk hroom => ?_⟩
  · have hwrite := write_of_shortage hchunk hroom hshort
    rw [Outbound.writeFrame, Action.bind_of_failed hwrite, accept, hroom,
      List.length_take_of_le (Nat.le_of_lt hshort), remaining, Option.map_some, Nat.sub_self]
  · have hadmits : outbound.Admits frame.encode.length := ⟨hchunk, hroom⟩
    rw [Outbound.writeFrame, Action.bind_of_done (write_of_admits hadmits)]
    constructor
    · intro hflushes
      rw [Outbound.flush, accept, if_neg hflushes]
      rfl
    · intro hspent
      rw [Outbound.flush, accept, if_pos hspent]
      rfl
  · have hwrite := write_of_stuck hchunk hroom frame.encode_ne_nil
    rw [Outbound.writeFrame, Action.bind_of_failed hwrite]

/-- Room for the header and one byte of the body, then for the whole frame, two bytes at a time; at
last no flush is left, or no byte is taken. -/
theorem frame_accepted_or_cut_off_body :
    let frame : Frame := ⟨7, [8, 9], by decide⟩
    let narrow : Outbound := { chunk := some 2, room := some 4, refusal := .writeZero }
    let ample : Outbound := { chunk := some 2, room := some 5, flushesLeft := some 1 }
    let spent : Outbound := { chunk := some 2, flushesLeft := some 0, flushFault := .timedOut }
    let stuck : Outbound := { chunk := some 0 }
    narrow.chunk ≠ some 0 ∧ 4 < frame.encode.length ∧
      Outbound.writeFrame frame narrow =
        (.failed (.transport .writeZero), { narrow with room := some 0, sent := [7, 2, 0, 8] }) ∧
      Outbound.writeFrame frame ample =
        (.done (), { ample with
          room := some 0, flushesLeft := some 0, sent := [7, 2, 0, 8, 9], flushes := 1 }) ∧
      Outbound.writeFrame frame spent =
        (.failed (.transport (.broken .timedOut)), { spent with sent := [7, 2, 0, 8, 9] }) ∧
      Outbound.writeFrame frame stuck = (.failed (.transport .writeZero), stuck) := by
  intro frame narrow ample spent stuck
  have hnarrow : narrow.chunk ≠ some 0 := by decide
  have hshort : 4 < frame.encode.length := by decide
  have hroom : ∀ room, ample.room = some room → frame.encode.length ≤ room := by
    rintro room ⟨⟩
    decide
  have hcut := ((frame_accepted_or_cut_off frame narrow).1 hnarrow).1 4 rfl hshort
  have hwhole := (((frame_accepted_or_cut_off frame ample).1 (by decide)).2 hroom).1 (by decide)
  have hspent := (((frame_accepted_or_cut_off frame spent).1 (by decide)).2 nofun).2 rfl
  have hstuck := (frame_accepted_or_cut_off frame stuck).2 rfl (by decide)
  exact ⟨hnarrow, hshort, hcut.trans (by decide +kernel), hwhole.trans (by decide +kernel),
    hspent.trans (by decide +kernel), hstuck⟩

end Outbound

end RegisterLink
