import Mathlib.Data.List.Forall2
import RegisterLink.Proofs.Likeness.Script

/-!
# Longer time limits

A longer limit changes nothing for a reader that gets its answer, or meets the end of the stream,
within the shorter one. Both take the same bytes and wait for the same segments, and the longer
limit leaves more time for what is still to come. So a script in which no answer comes too late
does not notice that its limits are raised or lifted.
-/
namespace RegisterLink

/-- The second budget lasts as long as the first, or longer. -/
def Budget.AtMost : Budget → Budget → Prop
  | _, none => True
  | some left, some more => left ≤ more
  | none, some _ => False

/-- The same step, except that a session it binds waits as long for an answer, or longer. -/
def Step.Relaxed : Step → Step → Prop
  | connect descriptors options, relaxed =>
    ∃ limit, options.limit.AtMost limit ∧ relaxed = connect descriptors { options with limit }
  | step, relaxed => relaxed = step

/-- The step failed because no answer came in time. -/
def Answer.timedOut : Answer → Bool
  | failed (.transport (.noResponse _)) => true
  | _ => false

/-- The session, were it to wait for ever. -/
def Session.unlimited (session : Session) : Session := { session with limit := none }

/-! ## Time for one frame -/

namespace Budget.AtMost

variable {budget other left : Budget} {wait : Nat}

/-- What the shorter budget can wait for, the longer one can, and it has more left then. -/
theorem spend (h : budget.AtMost other) (hspend : budget.spend wait = some left) :
    ∃ more, other.spend wait = some more ∧ left.AtMost more := by
  cases other with
  | none => exact ⟨none, rfl, trivial⟩
  | some longer =>
    cases budget with
    | none => exact h.elim
    | some shorter =>
      have hle : shorter ≤ longer := h
      rw [Budget.spend] at hspend
      split at hspend
      · obtain rfl := Option.some.inj hspend
        refine ⟨some (longer - wait), if_pos (by omega), ?_⟩
        show shorter - wait ≤ longer - wait
        omega
      · cases hspend

end Budget.AtMost

/-- The second reader gets the same, with as much time left or more, unless the first one ran out
of time. -/
inductive Reception.Outlasted {σ : Type} : Reception × σ → Reception × σ → Prop
  | complete {bytes : List UInt8} {left more : Budget} {rest : σ} (lasts : left.AtMost more) :
      Outlasted (.complete bytes left, rest) (.complete bytes more, rest)
  | short {why : Shortfall} {rest : σ} : Outlasted (.short why, rest) (.short why, rest)
  | expired {rest : σ} {second : Reception × σ} : Outlasted (.short .expired, rest) second

theorem Ending.outlasted {budget other : Budget} (h : budget.AtMost other) (ending : Ending)
    {σ : Type} (rest : σ) :
    Reception.Outlasted (.short (ending.shortfall budget), rest)
      (.short (ending.shortfall other), rest) := by
  cases ending with
  | closed => exact .short
  | broken kind => exact .short
  | silent =>
    cases budget with
    | some left => exact .expired
    | none =>
      cases other with
      | none => exact .short
      | some more => exact h.elim

theorem receiveFrom_outlasted (ending : Ending) (need : Nat) {budget other : Budget}
    (h : budget.AtMost other) (segments : List Segment) :
    Reception.Outlasted (receiveFrom ending need budget segments)
      (receiveFrom ending need other segments) := by
  -- The time left may differ more with every segment, but never the other way round.
  induction segments generalizing need budget other with
  | nil =>
    rw [receiveFrom, receiveFrom]
    split
    · exact .complete h
    · exact ending.outlasted h []
  | cons segment rest ih =>
    rw [receiveFrom, receiveFrom]
    split
    · exact .complete h
    split
    · exact ih need h
    cases hspend : budget.spend segment.wait with
    | none => exact .expired
    | some left =>
      obtain ⟨more, hmore, hlasts⟩ := h.spend hspend
      rw [hmore]
      dsimp only
      split
      · exact .complete hlasts
      · generalize hfirst : receiveFrom ending (need - segment.data.length) left rest = first
        generalize hsecond : receiveFrom ending (need - segment.data.length) more rest = second
        have hrest := ih (need - segment.data.length) hlasts
        rw [hfirst, hsecond] at hrest
        cases hrest with
        | complete lasts => exact .complete lasts
        | short => exact .short
        | expired => exact .expired

theorem Inbound.receive_outlasted (inbound : Inbound) (need : Nat) {budget other : Budget}
    (h : budget.AtMost other) :
    Reception.Outlasted (inbound.receive need budget) (inbound.receive need other) := by
  unfold Inbound.receive
  generalize hfirst : receiveFrom inbound.ending need budget inbound.segments = first
  generalize hsecond : receiveFrom inbound.ending need other inbound.segments = second
  have hreceptions := receiveFrom_outlasted inbound.ending need h inbound.segments
  rw [hfirst, hsecond] at hreceptions
  cases hreceptions with
  | complete lasts => exact .complete lasts
  | short => exact .short
  | expired => exact .expired

/-- The failure that a longer limit may prevent. -/
def Error.NoResponse (error : Error) : Prop := ∃ limit, error = .transport (.noResponse limit)

/-- Both readers fall short in the same way, unless the first one ran out of time. -/
theorem Shortfall.mirrored {α σ : Type} (why : Shortfall) (limit other : Budget) (rest : σ) :
    Mirrored Error.NoResponse Eq (Eq (α := α)) (why.outcome limit, rest)
      (why.outcome other, rest) := by
  cases why with
  | ended fault => exact .failed rfl
  | expired => exact .excused ⟨_, rfl⟩
  | stalled => exact .blocked rfl

theorem Inbound.readFrame_patient {limit other : Budget} (h : limit.AtMost other)
    (inbound : Inbound) :
    Mirrored Error.NoResponse Eq Eq (Inbound.readFrame limit inbound)
      (Inbound.readFrame other inbound) := by
  unfold Inbound.readFrame
  generalize hfirst : inbound.receive headerSize limit = first
  generalize hsecond : inbound.receive headerSize other = second
  have hheader := inbound.receive_outlasted headerSize h
  rw [hfirst, hsecond] at hheader
  cases hheader with
  | short => exact Shortfall.mirrored _ limit other _
  | expired => exact .excused ⟨_, rfl⟩
  | @complete header left more middle lasts =>
    -- The header leaves the body more time.
    dsimp only
    generalize hfirst : middle.receive (declaredLength header) left = first
    generalize hsecond : middle.receive (declaredLength header) more = second
    have hbody := middle.receive_outlasted (declaredLength header) lasts
    rw [hfirst, hsecond] at hbody
    cases hbody with
    | short => exact Shortfall.mirrored _ limit other _
    | expired => exact .excused ⟨_, rfl⟩
    | complete lasts => exact .ofExcept rfl

/-! ## Whole scripts -/

/-- The same stream, and limits that last longer. -/
def Likeness.patience : Likeness where
  streams := Eq
  limits := Budget.AtMost
  excused := Error.NoResponse
  unlimited := trivial
  sent h := by rw [h]
  flushes h := by rw [h]
  unread h := by rw [h]
  writes frame h := h ▸ .refl _
  reads {first second _ _} h hlimits := by
    subst h
    exact (Inbound.readFrame_patient hlimits first.inbound).within fun hrest => by rw [hrest]

namespace Likeness

theorem steps_patience {steps relaxed : List Step} (h : List.Forall₂ Step.Relaxed steps relaxed) :
    List.Forall₂ patience.Steps steps relaxed := by
  refine h.imp fun step other hstep => ?_
  cases step with
  | connect descriptors options =>
    obtain ⟨limit, hlimit, rfl⟩ := hstep
    exact .connect descriptors hlimit
  | readFrame =>
    obtain rfl : other = .readFrame := hstep
    exact .readFrame
  | writeFrame command body =>
    obtain rfl : other = .writeFrame command body := hstep
    exact .writeFrame command body
  | call request =>
    obtain rfl : other = .call request := hstep
    exact .call request

theorem timedOut_of_excuses {answer : Answer} (h : patience.Excuses answer) :
    answer.timedOut = true := by
  obtain ⟨error, rfl, limit, rfl⟩ := h
  rfl

theorem unlimited_eq {first second : Option Session}
    (h : Option.Rel patience.Sessions first second) :
    second.map Session.unlimited = first.map Session.unlimited := by
  cases h with
  | none => rfl
  | some hsession =>
    rw [Option.map_some, Option.map_some, Session.unlimited, Session.unlimited, hsession.devices,
      hsession.device, hsession.desynchronized]

end Likeness

/-- If no step of a script fails for want of an answer in time, the script leaves the same records
and the same stream when the limits of its sessions are raised or lifted, and the same session but
for its limit. -/
theorem relaxed_limits_unnoticed (stream : Stream) {steps relaxed : List Step}
    (hrelaxed : List.Forall₂ Step.Relaxed steps relaxed)
    (htimely : ∀ record ∈ (Client.run { stream } steps).1, record.answer.timedOut = false) :
    (Client.run { stream } relaxed).1 = (Client.run { stream } steps).1 ∧
      (Client.run { stream } relaxed).2.stream = (Client.run { stream } steps).2.stream ∧
      (Client.run { stream } relaxed).2.session.map Session.unlimited =
        (Client.run { stream } steps).2.session.map Session.unlimited := by
  have hclients : Likeness.patience.Clients { stream } { stream } := ⟨rfl, .none⟩
  have hkept : ∀ record ∈ (Client.run { stream } steps).1,
      ¬ Likeness.patience.Excuses record.answer := by
    intro record hrecord hexcuse
    have hlate := Likeness.timedOut_of_excuses hexcuse
    rw [htimely record hrecord] at hlate
    cases hlate
  obtain ⟨hrecords, hstream, hsession⟩ :=
    Likeness.run_follows (Likeness.steps_patience hrelaxed) hclients hkept
  exact ⟨hrecords, hstream.symm, Likeness.unlimited_eq hsession⟩

/-- A handshake whose second answer is due at the very end of its limit, and a ping that the peer
never answers in full because it closes the stream: the same with no limit. -/
theorem relaxed_limits_unnoticed_closing :
    let segments : List Segment :=
      [⟨4000, (Frame.empty .echoReply).encode⟩, ⟨9000, [Command.queryResponse.byte, 2]⟩,
        ⟨1000, [0, 1, 7]⟩, ⟨3000, [Command.echoReply.byte]⟩]
    let stream : Stream := { inbound := { segments, ending := .closed } }
    let steps := [Step.connect [] { limit := some 10000 }, .call .ping, .call .bye]
    let relaxed := [Step.connect [] { limit := none }, .call .ping, .call .bye]
    (Client.run { stream } steps).1.map StepRecord.answer =
        [.ok (.devices [⟨1, 7⟩]), .failed (.transport .endOfStream),
          .failed (.protocol .desynchronized)] ∧
      (Client.run { stream } relaxed).1 = (Client.run { stream } steps).1 ∧
      (Client.run { stream } relaxed).2.stream = (Client.run { stream } steps).2.stream := by
  intro segments stream steps relaxed
  have hanswers : (Client.run { stream } steps).1.map StepRecord.answer =
      [.ok (.devices [⟨1, 7⟩]), .failed (.transport .endOfStream),
        .failed (.protocol .desynchronized)] := by decide +kernel
  have hrelaxed : List.Forall₂ Step.Relaxed steps relaxed :=
    .cons ⟨none, trivial, rfl⟩ (.cons rfl (.cons rfl .nil))
  have hsame := relaxed_limits_unnoticed stream hrelaxed (by decide +kernel)
  exact ⟨hanswers, hsame.1, hsame.2.1⟩

end RegisterLink
