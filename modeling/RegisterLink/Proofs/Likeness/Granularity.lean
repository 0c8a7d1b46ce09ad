import Mathlib.Data.List.Forall2
import RegisterLink.Proofs.Likeness.Script
import RegisterLink.Stream.Acceptance
import RegisterLink.Stream.Arrival

/-!
# Streams cut differently

The same bytes may arrive in other segments, and writes may be accepted in pieces of another size.
As long as no time limit can run out in between, because nothing is delayed or because no session
has a limit, nothing a client does tells the two streams apart.
-/
namespace RegisterLink

/-- No segment keeps a reader waiting. -/
def Inbound.Prompt (inbound : Inbound) : Prop :=
  ∀ segment ∈ inbound.segments, segment.wait = 0

/-- The same bytes to be taken, the same end and the same room for bytes to be sent; the segments,
their waits and the size of a single write may differ. -/
structure Stream.SameBytes (first second : Stream) : Prop where
  unread : second.inbound.unread = first.inbound.unread
  ending : second.inbound.ending = first.inbound.ending
  outbound : second.outbound = { first.outbound with chunk := second.outbound.chunk }
  accepts : first.outbound.chunk ≠ some 0 ∧ second.outbound.chunk ≠ some 0

/-- The step binds no session with a time limit. -/
def Step.Unlimited : Step → Prop
  | connect _ options => options.limit = none
  | _ => True

/-! ## Bytes that arrive -/

theorem receiveFrom_prompt (ending : Ending) (need : Nat) (budget : Budget)
    (segments : List Segment) (hprompt : ∀ segment ∈ segments, segment.wait = 0) :
    ∀ segment ∈ (receiveFrom ending need budget segments).2, segment.wait = 0 := by
  fun_induction receiveFrom ending need budget segments with
  | case1 segments budget => exact hprompt
  | case2 need hneed budget => exact hprompt
  | case3 need budget hneed segment rest hempty ih =>
    exact ih (List.forall_mem_cons.mp hprompt).2
  | case4 need budget hneed segment rest hdata hspend =>
    obtain ⟨hwait, hrest⟩ := List.forall_mem_cons.mp hprompt
    have hafter : (segment.afterWaiting budget).wait = 0 := by
      rw [Segment.afterWaiting, hwait, Nat.zero_sub]
    exact List.forall_mem_cons.mpr ⟨hafter, hrest⟩
  | case5 need budget hneed segment rest hdata left hspend hlt =>
    exact List.forall_mem_cons.mpr ⟨rfl, (List.forall_mem_cons.mp hprompt).2⟩
  | case6 need budget hneed segment rest hdata left hspend hlt reception final hmore ih =>
    have hfinal := ih (List.forall_mem_cons.mp hprompt).2
    rw [hmore] at hfinal
    exact hfinal

/-- The same bytes in other segments. Where time counts, no segment keeps a reader waiting. -/
structure Inbound.Recut (timed : Prop) (first second : Inbound) : Prop where
  unread : second.unread = first.unread
  ending : second.ending = first.ending
  prompt : timed → first.Prompt ∧ second.Prompt

namespace Inbound

theorem prompt_receive {inbound after : Inbound} {need : Nat} {budget : Budget}
    {reception : Reception} (hprompt : inbound.Prompt)
    (h : inbound.receive need budget = (reception, after)) : after.Prompt := by
  obtain rfl := (Prod.mk.inj h).2
  exact receiveFrom_prompt inbound.ending need budget inbound.segments hprompt

namespace Recut

variable {timed : Prop} {first second : Inbound} {budget : Budget}

theorem unhurried (h : first.Recut timed second) (hbudget : timed ∨ budget = none) :
    Unhurried budget first.segments ∧ Unhurried budget second.segments := by
  rcases hbudget with htimed | hnone
  · exact ⟨Or.inr (h.prompt htimed).1, Or.inr (h.prompt htimed).2⟩
  · exact ⟨Or.inl hnone, Or.inl hnone⟩

/-- Both readers get the same, and the budget is left as it was. -/
theorem receive (h : first.Recut timed second) (hbudget : timed ∨ budget = none) (need : Nat) :
    ∃ reception after last, first.receive need budget = (reception, after) ∧
      second.receive need budget = (reception, last) ∧ after.Recut timed last ∧
        ∀ bytes left, reception = .complete bytes left → left = budget := by
  obtain ⟨hfirst, hsecond⟩ := h.unhurried hbudget
  by_cases hneed : need ≤ first.unread.length
  · obtain ⟨after, hafter, hunread, hending⟩ := receive_of_le hfirst hneed
    obtain ⟨last, hlast, hrest, hend⟩ := receive_of_le hsecond (h.unread ▸ hneed)
    rw [h.unread] at hlast hrest
    refine ⟨_, after, last, hafter, hlast, ⟨?_, ?_, ?_⟩, ?_⟩
    · rw [hunread, hrest]
    · rw [hending, hend, h.ending]
    · intro htimed
      exact ⟨prompt_receive (h.prompt htimed).1 hafter, prompt_receive (h.prompt htimed).2 hlast⟩
    · intro bytes left hcomplete
      exact (Reception.complete.inj hcomplete).2.symm
  · have hshort := Nat.lt_of_not_le hneed
    have hafter := receive_of_lt hfirst hshort
    have hlast := receive_of_lt hsecond (h.unread ▸ hshort)
    rw [h.ending] at hlast
    refine ⟨_, _, _, hafter, hlast, ⟨rfl, rfl, ?_⟩, nofun⟩
    intro htimed
    exact ⟨prompt_receive (h.prompt htimed).1 hafter, prompt_receive (h.prompt htimed).2 hlast⟩

theorem readFrame {excused : Error → Prop} (h : first.Recut timed second)
    (hlimit : timed ∨ budget = none) :
    Mirrored excused (Recut timed) Eq (Inbound.readFrame budget first)
      (Inbound.readFrame budget second) := by
  -- The header leaves the body the whole budget.
  obtain ⟨reception, middle, centre, hfirst, hsecond, hmiddle, hleft⟩ := h.receive hlimit headerSize
  simp only [Inbound.readFrame, hfirst, hsecond]
  cases reception with
  | short why => exact .shortfall hmiddle
  | complete header left =>
    obtain rfl := hleft header left rfl
    obtain ⟨reception, after, last, hfirst, hsecond, hafter, -⟩ :=
      hmiddle.receive hlimit (declaredLength header)
    simp only [hfirst, hsecond]
    cases reception with
    | short why => exact .shortfall hafter
    | complete body left => exact .ofExcept hafter

end Recut

end Inbound

/-! ## Bytes that are sent -/

/-- The same but for the size of a single write. -/
structure Outbound.Rechunked (first second : Outbound) : Prop where
  same : second = { first with chunk := second.chunk }
  accepts : first.chunk ≠ some 0 ∧ second.chunk ≠ some 0

namespace Outbound.Rechunked

variable {excused : Error → Prop} {first second : Outbound}

theorem write (h : first.Rechunked second) (bytes : List UInt8) :
    Mirrored excused Rechunked Eq (Outbound.write bytes first) (Outbound.write bytes second) := by
  obtain ⟨hfirst, hsecond⟩ := h.accepts
  obtain ⟨chunk, rfl⟩ : ∃ chunk, second = { first with chunk } := ⟨_, h.same⟩
  rw [Outbound.write_eq hfirst, Outbound.write_eq hsecond]
  by_cases hall : (takeUpTo first.room bytes).length = bytes.length
  · simp only [if_pos hall]
    exact .done rfl ⟨rfl, hfirst, hsecond⟩
  · simp only [if_neg hall]
    exact .failed ⟨rfl, hfirst, hsecond⟩

theorem flush (h : first.Rechunked second) :
    Mirrored excused Rechunked Eq (Outbound.flush first) (Outbound.flush second) := by
  obtain ⟨hfirst, hsecond⟩ := h.accepts
  obtain ⟨chunk, rfl⟩ : ∃ chunk, second = { first with chunk } := ⟨_, h.same⟩
  by_cases hspent : first.flushesLeft = some 0
  · simp only [Outbound.flush, if_pos hspent]
    exact .failed ⟨rfl, hfirst, hsecond⟩
  · simp only [Outbound.flush, if_neg hspent]
    exact .done rfl ⟨rfl, hfirst, hsecond⟩

theorem writeFrame (h : first.Rechunked second) (frame : Frame) :
    Mirrored excused Rechunked Eq (Outbound.writeFrame frame first)
      (Outbound.writeFrame frame second) :=
  (h.write frame.encode).bind fun _ hwritten => hwritten.flush

end Outbound.Rechunked

/-! ## Whole scripts -/

/-- Streams cut differently. Where time counts nothing is delayed, and elsewhere there is no
limit. -/
def Likeness.recut (timed : Prop) : Likeness where
  streams first second :=
    first.inbound.Recut timed second.inbound ∧ first.outbound.Rechunked second.outbound
  limits limit other := other = limit ∧ (timed ∨ limit = none)
  excused _ := False
  unlimited := ⟨rfl, Or.inr rfl⟩
  sent h := by rw [h.2.same]
  flushes h := by rw [h.2.same]
  unread h := h.1.unread
  writes frame h := (h.2.writeFrame frame).within fun hparts => ⟨h.1, hparts⟩
  reads h hlimits := by
    obtain ⟨rfl, hlimit⟩ := hlimits
    exact (h.1.readFrame hlimit).within fun hparts => ⟨hparts, h.2⟩

theorem Likeness.steps_recut {timed : Prop} {steps : List Step}
    (h : ∀ step ∈ steps, timed ∨ step.Unlimited) :
    List.Forall₂ (Likeness.recut timed).Steps steps steps := by
  refine List.forall₂_same.mpr fun step hstep => ?_
  cases step with
  | connect descriptors options => exact .connect descriptors ⟨rfl, h _ hstep⟩
  | readFrame => exact .readFrame
  | writeFrame command body => exact .writeFrame command body
  | call request => exact .call request

/-- A client without a session, on streams cut differently. -/
theorem Likeness.clients_recut {timed : Prop} {first second : Stream} (h : first.SameBytes second)
    (hprompt : timed → first.inbound.Prompt ∧ second.inbound.Prompt) :
    (Likeness.recut timed).Clients { stream := first } { stream := second } :=
  ⟨⟨⟨h.unread, h.ending, hprompt⟩, ⟨h.outbound, h.accepts⟩⟩, .none⟩

theorem Likeness.session_eq_of_recut {timed : Prop} {first second : Option Session}
    (h : Option.Rel (Likeness.recut timed).Sessions first second) : second = first := by
  cases h with
  | none => rfl
  | @some session found hsession =>
    obtain ⟨devices, device, limit, lost⟩ := session
    obtain ⟨entries, entry, other, place⟩ := found
    obtain ⟨rfl, rfl, rfl, rfl, -⟩ := hsession
    rfl

/-- A script leaves the same records on two streams that hold the same bytes, cut in any way and
written in pieces of any size, if nothing is delayed or if no session has a time limit. -/
theorem granularity_unseen {first second : Stream} (hbytes : first.SameBytes second)
    (steps : List Step)
    (htime : (first.inbound.Prompt ∧ second.inbound.Prompt) ∨ ∀ step ∈ steps, step.Unlimited) :
    (Client.run { stream := second } steps).1 = (Client.run { stream := first } steps).1 ∧
      (Client.run { stream := second } steps).2.session =
        (Client.run { stream := first } steps).2.session ∧
      (Client.run { stream := first } steps).2.stream.SameBytes
        (Client.run { stream := second } steps).2.stream := by
  -- Time counts in the first case only: there limits are allowed, but nothing is delayed.
  obtain ⟨timed, hsteps, hprompt⟩ : ∃ timed : Prop, (∀ step ∈ steps, timed ∨ step.Unlimited) ∧
      (timed → first.inbound.Prompt ∧ second.inbound.Prompt) := by
    rcases htime with hboth | hunlimited
    · exact ⟨True, fun _ _ => Or.inl trivial, fun _ => hboth⟩
    · exact ⟨False, fun step hstep => Or.inr (hunlimited step hstep), False.elim⟩
  obtain ⟨hrecords, ⟨hinbound, houtbound⟩, hsession⟩ :=
    Likeness.run_follows (Likeness.steps_recut hsteps) (Likeness.clients_recut hbytes hprompt)
      fun _ _ ⟨_, _, hnever⟩ => hnever
  refine ⟨hrecords, Likeness.session_eq_of_recut hsession, ?_⟩
  exact ⟨hinbound.unread, hinbound.ending, houtbound.same, houtbound.accepts⟩

/-- A handshake and a ping, with a limit that allows no waiting, on bytes that arrive together and
on the same bytes one by one. -/
theorem granularity_unseen_bytewise :
    let answers := [Frame.empty .echoReply, ⟨Command.queryResponse.byte, [1, 7], by decide⟩,
      Frame.empty .echoReply]
    let whole := Stream.holding answers
    let cut : Stream :=
      { inbound := { whole.inbound with
          segments := { data := [] } :: whole.inbound.unread.map fun byte => { data := [byte] } }
        outbound := { whole.outbound with chunk := some 1 } }
    let steps := [Step.connect [] { limit := some 0 }, .call .ping]
    whole.SameBytes cut ∧ whole.inbound.Prompt ∧ cut.inbound.Prompt ∧
      (Client.run { stream := cut } steps).1 = (Client.run { stream := whole } steps).1 ∧
      ((Client.run { stream := whole } steps).1.map StepRecord.answer =
        [.ok (.devices [⟨1, 7⟩]), .ok .alive]) := by
  intro answers whole cut steps
  have hbytes : whole.SameBytes cut := ⟨by decide, rfl, rfl, by decide, by decide⟩
  have hwhole : whole.inbound.Prompt := by unfold Inbound.Prompt; decide
  have hcut : cut.inbound.Prompt := by unfold Inbound.Prompt; decide
  have hsame := granularity_unseen hbytes steps (Or.inl ⟨hwhole, hcut⟩)
  exact ⟨hbytes, hwhole, hcut, hsame.1, by decide +kernel⟩

end RegisterLink
