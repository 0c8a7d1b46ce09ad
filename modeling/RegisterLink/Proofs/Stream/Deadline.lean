import RegisterLink.Proofs.List.Front
import RegisterLink.Proofs.Stream.Reading

/-!
# Bytes that are due in time

A time limit divides the segments of a stream into those that are due by its end, each wait
beginning when the segment before it has been taken, and the others. A reader with that limit gets
what it asks for from the former, or it takes all of them and no more. Header and body of a frame
share one limit: the time that the header took is missing for the body, but so are its segments.
-/
namespace RegisterLink

/-- The segments in front that are due by the end of a time limit. -/
def dueWithin (limit : Nat) (segments : List Segment) : List Segment :=
  frontWithin Segment.wait limit segments

def dueBytes (limit : Nat) (segments : List Segment) : List UInt8 :=
  (dueWithin limit segments).flatMap Segment.data

/-- No segment is empty. -/
def Filled (segments : List Segment) : Prop := ∀ segment ∈ segments, segment.data ≠ []

/-- Why a reader falls short that has taken all that is due. -/
def shortfallWithin (ending : Ending) (limit : Nat) (segments : List Segment) : Shortfall :=
  if dueWithin limit segments = segments then ending.shortfall (some limit) else .expired

section Segments

variable {limit : Nat} {segment : Segment} {segments : List Segment}

theorem dueWithin_cons_of_le (h : segment.wait ≤ limit) (segments : List Segment) :
    dueWithin limit (segment :: segments) =
      segment :: dueWithin (limit - segment.wait) segments := frontWithin_cons_of_le h segments

theorem dueWithin_cons_of_lt (h : limit < segment.wait) (segments : List Segment) :
    dueWithin limit (segment :: segments) = [] := frontWithin_cons_of_lt h segments

theorem dueBytes_cons_of_le (h : segment.wait ≤ limit) (segments : List Segment) :
    dueBytes limit (segment :: segments) =
      segment.data ++ dueBytes (limit - segment.wait) segments := by
  rw [dueBytes, dueWithin_cons_of_le h, List.flatMap_cons]
  rfl

theorem dueBytes_cons_of_lt (h : limit < segment.wait) (segments : List Segment) :
    dueBytes limit (segment :: segments) = [] := by
  rw [dueBytes, dueWithin_cons_of_lt h, List.flatMap_nil]

theorem Ending.shortfall_some (ending : Ending) (limit other : Nat) :
    ending.shortfall (some limit) = ending.shortfall (some other) := by
  cases ending <;> rfl

theorem shortfallWithin_cons_of_le (ending : Ending) (h : segment.wait ≤ limit)
    (segments : List Segment) :
    shortfallWithin ending limit (segment :: segments) =
      shortfallWithin ending (limit - segment.wait) segments := by
  unfold shortfallWithin
  simp only [dueWithin_cons_of_le h, List.cons.injEq, true_and]
  rw [ending.shortfall_some limit (limit - segment.wait)]

theorem shortfallWithin_cons_of_lt (ending : Ending) (h : limit < segment.wait)
    (segments : List Segment) :
    shortfallWithin ending limit (segment :: segments) = .expired := by
  rw [shortfallWithin, dueWithin_cons_of_lt h, if_neg (List.cons_ne_nil _ _).symm]

end Segments

/-- If something is still to come, or nothing ever will, time runs out. -/
theorem shortfallWithin_expired {ending : Ending} {limit : Nat} {segments : List Segment}
    (h : dueWithin limit segments ≠ segments ∨ ending = .silent) :
    shortfallWithin ending limit segments = .expired := by
  rcases h with hlate | rfl
  · rw [shortfallWithin, if_neg hlate]
  · rw [shortfallWithin, Ending.shortfall, ite_self]

/-! ## One segment -/

section Step

variable {ending : Ending} {need limit : Nat} {segment : Segment} {segments : List Segment}

theorem receiveFrom_late (hneed : need ≠ 0) (hdata : segment.data ≠ [])
    (hlate : limit < segment.wait) :
    receiveFrom ending need (some limit) (segment :: segments) =
      (.short .expired, segment.afterWaiting (some limit) :: segments) := by
  have hspend : Budget.spend (some limit) segment.wait = none := if_neg (Nat.not_le.mpr hlate)
  simp only [receiveFrom, if_neg hneed, if_neg hdata, hspend]

theorem receiveFrom_within (hneed : need ≠ 0) (hdue : segment.wait ≤ limit)
    (hlt : need < segment.data.length) :
    receiveFrom ending need (some limit) (segment :: segments) =
      (.complete (segment.data.take need) (some (limit - segment.wait)),
        segment.remainder need :: segments) := by
  have hdata : segment.data ≠ [] := List.ne_nil_of_length_pos (Nat.zero_lt_of_lt hlt)
  have hspend : Budget.spend (some limit) segment.wait = some (some (limit - segment.wait)) :=
    if_pos hdue
  simp only [receiveFrom, if_neg hneed, if_neg hdata, hspend, if_pos hlt]

theorem receiveFrom_beyond {reception : Reception} {rest : List Segment}
    (hdata : segment.data ≠ []) (hdue : segment.wait ≤ limit) (hle : segment.data.length ≤ need)
    (h : receiveFrom ending (need - segment.data.length) (some (limit - segment.wait)) segments =
      (reception, rest)) :
    receiveFrom ending need (some limit) (segment :: segments) =
      (reception.prepend segment.data, rest) := by
  have hlength : 0 < segment.data.length := List.length_pos_iff.mpr hdata
  have hneed : need ≠ 0 := by omega
  have hspend : Budget.spend (some limit) segment.wait = some (some (limit - segment.wait)) :=
    if_pos hdue
  simp only [receiveFrom, if_neg hneed, if_neg hdata, hspend, if_neg (Nat.not_lt.mpr hle), h]

end Step

/-- What a reader that took `need` bytes in time leaves: the rest of what was due still is, in the
time that is left, and nothing else has come to be. -/
structure TakenInTime (ending : Ending) (need limit : Nat) (before : List Segment) (left : Nat)
    (after : List Segment) : Prop where
  filled : Filled after
  due : dueBytes left after = (dueBytes limit before).drop need
  shortfall : shortfallWithin ending left after = shortfallWithin ending limit before

namespace TakenInTime

variable {ending : Ending} {need limit left : Nat} {segment : Segment}
  {segments after : List Segment}

theorem nothing (h : Filled segments) : TakenInTime ending 0 limit segments limit segments :=
  ⟨h, rfl, rfl⟩

/-- What is left of a segment that is due is due at once. -/
theorem within (hfilled : Filled segments) (hdue : segment.wait ≤ limit)
    (hlt : need < segment.data.length) :
    TakenInTime ending need limit (segment :: segments) (limit - segment.wait)
      (segment.remainder need :: segments) := by
  have hnow : (segment.remainder need).wait ≤ limit - segment.wait := Nat.zero_le _
  have hdata : (segment.remainder need).data ≠ [] :=
    List.ne_nil_of_length_pos (by rw [Segment.remainder, List.length_drop]; omega)
  refine ⟨List.forall_mem_cons.mpr ⟨hdata, hfilled⟩, ?_, ?_⟩
  · rw [dueBytes_cons_of_le hnow, dueBytes_cons_of_le hdue,
      List.drop_append_of_le_length (Nat.le_of_lt hlt)]
    rfl
  · rw [shortfallWithin_cons_of_le ending hnow, shortfallWithin_cons_of_le ending hdue]
    rfl

theorem beyond (hdue : segment.wait ≤ limit) (hle : segment.data.length ≤ need)
    (h : TakenInTime ending (need - segment.data.length) (limit - segment.wait) segments left
      after) :
    TakenInTime ending need limit (segment :: segments) left after := by
  refine ⟨h.filled, ?_, ?_⟩
  · rw [h.due, dueBytes_cons_of_le hdue, List.drop_append, List.drop_eq_nil_of_le hle,
      List.nil_append]
  · rw [h.shortfall, shortfallWithin_cons_of_le ending hdue]

end TakenInTime

/-! ## All segments -/

/-- Enough is due: it is taken. -/
theorem receiveFrom_of_due (ending : Ending) {need limit : Nat} {segments : List Segment}
    (hfilled : Filled segments) (h : need ≤ (dueBytes limit segments).length) :
    ∃ left rest, receiveFrom ending need (some limit) segments =
        (.complete ((dueBytes limit segments).take need) (some left), rest) ∧
      TakenInTime ending need limit segments left rest := by
  induction segments generalizing need limit with
  | nil =>
    obtain rfl : need = 0 := Nat.le_zero.mp h
    exact ⟨limit, [], by rw [receiveFrom_zero, List.take_zero], .nothing hfilled⟩
  | cons segment segments ih =>
    by_cases hneed : need = 0
    · subst hneed
      exact ⟨limit, _, by rw [receiveFrom_zero, List.take_zero], .nothing hfilled⟩
    obtain ⟨hdata, hothers⟩ := List.forall_mem_cons.mp hfilled
    by_cases hdue : segment.wait ≤ limit
    · rw [dueBytes_cons_of_le hdue, List.length_append] at h
      rw [dueBytes_cons_of_le hdue]
      rcases Nat.lt_or_ge need segment.data.length with hlt | hle
      · rw [List.take_append_of_le_length (Nat.le_of_lt hlt)]
        exact ⟨_, _, receiveFrom_within hneed hdue hlt, .within hothers hdue hlt⟩
      · obtain ⟨left, rest, hrest, htaken⟩ :=
          @ih (need - segment.data.length) (limit - segment.wait) hothers (by omega)
        refine ⟨left, rest, ?_, htaken.beyond hdue hle⟩
        rw [receiveFrom_beyond hdata hdue hle hrest, List.take_append, List.take_of_length_le hle]
        rfl
    · rw [dueBytes_cons_of_lt (Nat.lt_of_not_le hdue)] at h
      exact absurd (Nat.le_zero.mp h) hneed

/-- Too little is due: all of it is taken, and nothing behind it. -/
theorem receiveFrom_past_due (ending : Ending) {need limit : Nat} {segments : List Segment}
    (hfilled : Filled segments) (h : (dueBytes limit segments).length < need) :
    ∃ rest, receiveFrom ending need (some limit) segments =
        (.short (shortfallWithin ending limit segments), rest) ∧
      segments.flatMap Segment.data = dueBytes limit segments ++ rest.flatMap Segment.data := by
  induction segments generalizing need limit with
  | nil =>
    have hneed : need ≠ 0 := Nat.ne_of_gt h
    refine ⟨[], ?_, rfl⟩
    rw [receiveFrom, if_neg hneed]
    rfl
  | cons segment segments ih =>
    obtain ⟨hdata, hothers⟩ := List.forall_mem_cons.mp hfilled
    by_cases hdue : segment.wait ≤ limit
    · rw [dueBytes_cons_of_le hdue, List.length_append] at h
      have hle : segment.data.length ≤ need := by omega
      obtain ⟨rest, hrest, hbytes⟩ :=
        @ih (need - segment.data.length) (limit - segment.wait) hothers (by omega)
      refine ⟨rest, ?_, ?_⟩
      · rw [receiveFrom_beyond hdata hdue hle hrest, shortfallWithin_cons_of_le ending hdue]
        rfl
      · rw [List.flatMap_cons, hbytes, dueBytes_cons_of_le hdue, List.append_assoc]
    · have hlate : limit < segment.wait := Nat.lt_of_not_le hdue
      have hneed : need ≠ 0 := Nat.ne_of_gt (Nat.zero_lt_of_lt h)
      refine ⟨segment.afterWaiting (some limit) :: segments, ?_, ?_⟩
      · rw [receiveFrom_late hneed hdata hlate, shortfallWithin_cons_of_lt ending hlate]
      · rw [dueBytes_cons_of_lt hlate]
        rfl

/-! ## Whole frames -/

namespace Inbound

variable {inbound : Inbound} {limit : Nat}

theorem receive_of_due {need : Nat} (hfilled : Filled inbound.segments)
    (h : need ≤ (dueBytes limit inbound.segments).length) :
    ∃ left after, inbound.receive need (some limit) =
        (.complete ((dueBytes limit inbound.segments).take need) (some left), after) ∧
      TakenInTime inbound.ending need limit inbound.segments left after.segments := by
  obtain ⟨left, rest, hrest, htaken⟩ := receiveFrom_of_due inbound.ending hfilled h
  exact ⟨left, { inbound with segments := rest }, by rw [receive, hrest], htaken⟩

theorem receive_past_due {need : Nat} (hfilled : Filled inbound.segments)
    (h : (dueBytes limit inbound.segments).length < need) :
    ∃ after, inbound.receive need (some limit) =
        (.short (shortfallWithin inbound.ending limit inbound.segments), after) ∧
      inbound.unread = dueBytes limit inbound.segments ++ after.unread := by
  obtain ⟨rest, hrest, hbytes⟩ := receiveFrom_past_due inbound.ending hfilled h
  exact ⟨{ inbound with segments := rest }, by rw [receive, hrest], hbytes⟩

/-- A whole frame is due: it is received. -/
theorem readFrame_of_due {frame : Frame} {rest : List UInt8} (hfilled : Filled inbound.segments)
    (h : dueBytes limit inbound.segments = frame.encode ++ rest) :
    ∃ after, Inbound.readFrame (some limit) inbound = (.done frame, after) := by
  rw [Frame.encode_eq_header_append, List.append_assoc] at h
  have hheader : headerSize ≤ (dueBytes limit inbound.segments).length := by
    rw [h, List.length_append, Frame.length_header]
    exact Nat.le_add_right _ _
  obtain ⟨left, middle, hmiddle, htaken⟩ := receive_of_due hfilled hheader
  have hdue := htaken.due
  rw [h, List.drop_left' frame.length_header] at hdue
  rw [h, List.take_left' frame.length_header] at hmiddle
  have hbody : declaredLength frame.header ≤ (dueBytes left middle.segments).length := by
    rw [hdue, Frame.declaredLength_header, List.length_append]
    exact Nat.le_add_right _ _
  obtain ⟨time, after, hafter, -⟩ := receive_of_due htaken.filled hbody
  rw [hdue, Frame.declaredLength_header, List.take_left] at hafter
  refine ⟨after, ?_⟩
  have hframe : Frame.ofBody (frame.header.headD 0) frame.body = .ok frame :=
    Frame.ofBody_eq_ok frame.body_fits
  simp only [Inbound.readFrame, hmiddle, Frame.declaredLength_header, hafter, hframe]
  rfl

/-- No whole frame is due: all that is due is taken, and what keeps the reader from more decides. -/
theorem readFrame_past_due (hfilled : Filled inbound.segments)
    (h : Incomplete (dueBytes limit inbound.segments)) :
    ∃ after, Inbound.readFrame (some limit) inbound =
        ((shortfallWithin inbound.ending limit inbound.segments).outcome (some limit), after) ∧
      inbound.unread = dueBytes limit inbound.segments ++ after.unread := by
  by_cases hshort : (dueBytes limit inbound.segments).length < headerSize
  · obtain ⟨after, hafter, hbytes⟩ := receive_past_due hfilled hshort
    exact ⟨after, by simp only [Inbound.readFrame, hafter], hbytes⟩
  have hheader : headerSize ≤ (dueBytes limit inbound.segments).length := Nat.le_of_not_lt hshort
  obtain ⟨left, middle, hmiddle, htaken⟩ := receive_of_due hfilled hheader
  obtain ⟨hending, header, hbefore, ⟨time, hcomplete, -, -⟩ | ⟨why, hnever, -⟩⟩ :=
    receive_cases hmiddle
  · obtain ⟨rfl, -⟩ := Reception.complete.inj hcomplete
    have hbody : (dueBytes left middle.segments).length <
        declaredLength ((dueBytes limit inbound.segments).take headerSize) :=
      htaken.due ▸ h.lacks_body hheader
    obtain ⟨after, hafter, hbytes⟩ := receive_past_due htaken.filled hbody
    rw [hending, htaken.shortfall] at hafter
    refine ⟨after, by simp only [Inbound.readFrame, hmiddle, hafter], ?_⟩
    rw [hbefore, hbytes, htaken.due, ← List.append_assoc, List.take_append_drop]
  · cases hnever

end Inbound

end RegisterLink
