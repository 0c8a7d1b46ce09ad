import RegisterLink.Proofs.Bytes.Word
import RegisterLink.Proofs.Stream.Sending
import RegisterLink.Stream.Arrival

/-!
# What becomes of a frame that is received

However the bytes are cut and whenever they are due, a reader takes exactly the bytes of one frame,
or it takes a part of one frame and fails or waits for ever. It never takes a byte behind the frame,
and every three bytes are the header of some frame, so nothing else can go wrong. Only a reader
whose time is limited leaves bytes of a frame that it has begun.
-/
namespace RegisterLink

/-- The bytes begin a frame and stop before its end. -/
def Incomplete (bytes : List UInt8) : Prop :=
  ∃ frame : Frame, ProperPrefix bytes frame.encode

theorem incomplete_nil : Incomplete [] :=
  ⟨Frame.empty .bye, properPrefix_nil (Frame.encode_ne_nil _)⟩

/-! ## Headers and bodies -/

theorem declaredLength_le {header : List UInt8} (h : header.length = headerSize) :
    declaredLength header ≤ maxBodySize := by
  have hlt := Word.decode_lt (header.drop 1)
  rw [List.length_drop, h] at hlt
  change declaredLength header < 65536 at hlt
  rw [maxBodySize]
  omega

/-- A header and as many bytes as it declares are the encoding of a frame. -/
theorem ofBody_of_header {header body : List UInt8} (hheader : header.length = headerSize)
    (hbody : body.length = declaredLength header) :
    ∃ frame, Frame.ofBody (header.headD 0) body = .ok frame ∧ frame.encode = header ++ body := by
  have hfits : body.length ≤ maxBodySize := hbody ▸ declaredLength_le hheader
  refine ⟨_, Frame.ofBody_eq_ok hfits, ?_⟩
  obtain ⟨command, field, rfl⟩ : ∃ command field, header = command :: field :=
    List.exists_cons_of_ne_nil (by rintro rfl; cases hheader)
  have hfield : field.length = 2 := Nat.succ.inj hheader
  have hword : Word.encode 2 body.length = field := by
    rw [hbody, declaredLength, List.drop_one, List.tail_cons, ← hfield, Word.encode_decode]
  rw [Frame.encode, Frame.toNat_length, hword]
  rfl

/-- Fewer bytes than a header has begin some frame. -/
theorem incomplete_of_header {bytes : List UInt8} (h : bytes.length < headerSize) :
    Incomplete bytes := by
  let header := bytes ++ List.replicate (headerSize - bytes.length) 0
  have hheader : header.length = headerSize := by
    rw [List.length_append, List.length_replicate]
    omega
  have hbody : (List.replicate (declaredLength header) (0 : UInt8)).length =
      declaredLength header := List.length_replicate
  obtain ⟨frame, -, hframe⟩ := ofBody_of_header hheader hbody
  refine ⟨frame, ?_, ?_⟩
  · rw [hframe, List.append_assoc]
    exact List.prefix_append _ _
  · rw [hframe, List.length_append, hheader]
    omega

/-- A header and fewer bytes than it declares begin some frame. -/
theorem incomplete_of_body {header part : List UInt8} (hheader : header.length = headerSize)
    (hpart : part.length < declaredLength header) : Incomplete (header ++ part) := by
  let body := part ++ List.replicate (declaredLength header - part.length) 0
  have hbody : body.length = declaredLength header := by
    rw [List.length_append, List.length_replicate]
    omega
  obtain ⟨frame, -, hframe⟩ := ofBody_of_header hheader hbody
  refine ⟨frame, ?_, ?_⟩
  · rw [hframe]
    exact (List.prefix_append_right_inj _).mpr (List.prefix_append _ _)
  · rw [hframe, List.length_append, List.length_append, hbody]
    omega

/-! ## Exact numbers of bytes -/

/-- A wait neither sets a limit nor lifts one. -/
theorem Budget.left_eq_none_iff {budget left : Budget} {wait : Nat}
    (h : budget.spend wait = some left) : left = none ↔ budget = none := by
  cases budget with
  | none => exact ⟨fun _ => rfl, fun _ => (Option.some.inj h).symm⟩
  | some time =>
    rw [Budget.spend] at h
    split at h
    · obtain rfl := Option.some.inj h
      simp
    · cases h

/-- What a reception took is gone from the segments, whether it was enough or not. Without a limit
it takes all there is before it falls short, and nothing but a silent end keeps it waiting. -/
theorem receiveFrom_cases {ending : Ending} {need : Nat} {budget : Budget}
    {segments rest : List Segment} {reception : Reception}
    (h : receiveFrom ending need budget segments = (reception, rest)) :
    ∃ taken, segments.flatMap Segment.data = taken ++ rest.flatMap Segment.data ∧
      ((∃ left, reception = .complete taken left ∧ taken.length = need ∧
          (left = none ↔ budget = none)) ∨
        ∃ why, reception = .short why ∧ taken.length < need ∧
          (why = .stalled → budget = none ∧ ending = .silent) ∧ (budget = none → rest = [])) := by
  -- What is still needed and the time left shrink with every segment taken.
  induction segments generalizing need budget reception rest with
  | nil =>
    by_cases hneed : need = 0
    · subst hneed
      rw [receiveFrom_zero] at h
      obtain ⟨rfl, rfl⟩ := Prod.mk.inj h
      exact ⟨[], rfl, Or.inl ⟨budget, rfl, rfl, Iff.rfl⟩⟩
    · rw [receiveFrom, if_neg hneed] at h
      obtain ⟨rfl, rfl⟩ := Prod.mk.inj h
      refine ⟨[], rfl, Or.inr ⟨_, rfl, Nat.pos_of_ne_zero hneed, ?_, fun _ => rfl⟩⟩
      intro hstalled
      cases ending <;> cases budget <;> simp_all [Ending.shortfall]
  | cons segment segments ih =>
    by_cases hneed : need = 0
    · subst hneed
      rw [receiveFrom_zero] at h
      obtain ⟨rfl, rfl⟩ := Prod.mk.inj h
      exact ⟨[], rfl, Or.inl ⟨budget, rfl, rfl, Iff.rfl⟩⟩
    rw [receiveFrom, if_neg hneed] at h
    by_cases hempty : segment.data = []
    · rw [if_pos hempty] at h
      rw [List.flatMap_cons, hempty, List.nil_append]
      exact ih h
    rw [if_neg hempty] at h
    cases hspend : budget.spend segment.wait with
    | none =>
      simp only [hspend] at h
      obtain ⟨rfl, rfl⟩ := Prod.mk.inj h
      refine ⟨[], rfl,
        Or.inr ⟨_, rfl, Nat.pos_of_ne_zero hneed, Shortfall.noConfusion, fun hnone => ?_⟩⟩
      rw [hnone] at hspend
      cases hspend
    | some left =>
      have hleft := Budget.left_eq_none_iff hspend
      simp only [hspend] at h
      split at h
      · obtain ⟨rfl, rfl⟩ := Prod.mk.inj h
        refine ⟨segment.data.take need, ?_, Or.inl ⟨left, rfl, ?_, hleft⟩⟩
        · rw [List.flatMap_cons, List.flatMap_cons, Segment.remainder, ← List.append_assoc,
            List.take_append_drop]
        · rw [List.length_take]
          omega
      · rcases hmore : receiveFrom ending (need - segment.data.length) left segments with
          ⟨more, final⟩
        simp only [hmore] at h
        obtain ⟨rfl, rfl⟩ := Prod.mk.inj h
        obtain ⟨taken, htaken, hends⟩ := ih hmore
        refine ⟨segment.data ++ taken, ?_, ?_⟩
        · rw [List.flatMap_cons, htaken, List.append_assoc]
        · rw [List.length_append]
          rcases hends with ⟨time, rfl, hlen, htime⟩ | ⟨why, rfl, hlen, hwhy⟩
          · exact Or.inl ⟨time, rfl, by omega, htime.trans hleft⟩
          · obtain ⟨hstalls, hdrains⟩ := hwhy
            refine Or.inr ⟨why, rfl, by omega, fun hstalled => ?_,
              fun hnone => hdrains (hleft.mpr hnone)⟩
            obtain ⟨hnone, hsilent⟩ := hstalls hstalled
            exact ⟨hleft.mp hnone, hsilent⟩

/-! ## Whole frames -/

/-- How receiving a frame can end, and which bytes are taken by then. -/
inductive Receiving (limit : Budget) (before : Inbound) : Outcome Frame → Inbound → Prop
  | received {frame : Frame} {after : Inbound}
      (taken : before.unread = frame.encode ++ after.unread) :
      Receiving limit before (.done frame) after
  | broke {fault : TransportFault} {part : List UInt8} {after : Inbound}
      (incomplete : Incomplete part) (taken : before.unread = part ++ after.unread)
      (drained : limit = none → after.unread = []) :
      Receiving limit before (.failed (.transport fault)) after
  | waits {after : Inbound} (incomplete : Incomplete before.unread) (drained : after.unread = [])
      (unlimited : limit = none) (silent : before.ending = .silent) :
      Receiving limit before .blocked after

theorem Receiving.taken_prefix {limit : Budget} {before after : Inbound} {outcome : Outcome Frame}
    (h : Receiving limit before outcome after) : ∃ part, before.unread = part ++ after.unread := by
  cases h with
  | received taken => exact ⟨_, taken⟩
  | broke incomplete taken => exact ⟨_, taken⟩
  | waits incomplete drained unlimited silent =>
    exact ⟨_, by rw [drained, List.append_nil]⟩

namespace Inbound

theorem receive_cases {inbound after : Inbound} {need : Nat} {budget : Budget}
    {reception : Reception} (h : inbound.receive need budget = (reception, after)) :
    after.ending = inbound.ending ∧
    ∃ taken, inbound.unread = taken ++ after.unread ∧
      ((∃ left, reception = .complete taken left ∧ taken.length = need ∧
          (left = none ↔ budget = none)) ∨
        ∃ why, reception = .short why ∧ taken.length < need ∧
          (why = .stalled → budget = none ∧ inbound.ending = .silent) ∧
          (budget = none → after.unread = [])) := by
  unfold Inbound.receive at h
  rcases hfrom : receiveFrom inbound.ending need budget inbound.segments with ⟨found, rest⟩
  simp only [hfrom] at h
  obtain ⟨rfl, rfl⟩ := Prod.mk.inj h
  obtain ⟨taken, htaken, hends⟩ := receiveFrom_cases hfrom
  refine ⟨rfl, taken, htaken, ?_⟩
  rcases hends with hcomplete | ⟨why, hshort, hlen, hstalls, hdrains⟩
  · exact Or.inl hcomplete
  · refine Or.inr ⟨why, hshort, hlen, hstalls, fun hnone => ?_⟩
    rw [Inbound.unread, hdrains hnone, List.flatMap_nil]

theorem receiving_of_short {limit : Budget} {before after : Inbound} {why : Shortfall}
    {part : List UInt8} (incomplete : Incomplete part)
    (taken : before.unread = part ++ after.unread)
    (hstalls : why = .stalled → limit = none ∧ before.ending = .silent)
    (hdrains : limit = none → after.unread = []) :
    Receiving limit before (why.outcome limit) after := by
  cases why with
  | ended fault => exact .broke incomplete taken hdrains
  | expired => exact .broke incomplete taken hdrains
  | stalled =>
    obtain ⟨hnone, hsilent⟩ := hstalls rfl
    rw [hdrains hnone, List.append_nil] at taken
    exact .waits (taken ▸ incomplete) (hdrains hnone) hnone hsilent

theorem readFrame_receiving {limit : Budget} {before after : Inbound} {outcome : Outcome Frame}
    (h : Inbound.readFrame limit before = (outcome, after)) :
    Receiving limit before outcome after := by
  -- The header and the body share one budget, so an unlimited body had an unlimited header.
  unfold Inbound.readFrame at h
  rcases hhead : before.receive headerSize limit with ⟨found, middle⟩
  obtain ⟨hending, header, hheader,
    ⟨left, rfl, hlen, hleft⟩ | ⟨why, rfl, hlen, hstalls, hdrains⟩⟩ := receive_cases hhead
  · simp only [hhead] at h
    rcases hrest : middle.receive (declaredLength header) left with ⟨found, last⟩
    obtain ⟨-, body, hbody, ⟨time, rfl, hsize, -⟩ | ⟨why, rfl, hsize, hstalls, hdrains⟩⟩ :=
      receive_cases hrest
    · obtain ⟨frame, hframe, hencode⟩ := ofBody_of_header hlen hsize
      simp only [hrest, hframe] at h
      obtain ⟨rfl, rfl⟩ := Prod.mk.inj h
      refine .received ?_
      rw [hheader, hbody, hencode, List.append_assoc]
    · simp only [hrest] at h
      obtain ⟨rfl, rfl⟩ := Prod.mk.inj h
      refine receiving_of_short (incomplete_of_body hlen hsize) ?_ (fun hstalled => ?_)
        fun hnone => hdrains (hleft.mpr hnone)
      · rw [hheader, hbody, List.append_assoc]
      · obtain ⟨hnone, hsilent⟩ := hstalls hstalled
        exact ⟨hleft.mp hnone, hending.symm.trans hsilent⟩
  · simp only [hhead] at h
    obtain ⟨rfl, rfl⟩ := Prod.mk.inj h
    exact receiving_of_short (incomplete_of_header hlen) hheader hstalls hdrains

end Inbound

end RegisterLink
