import RegisterLink.Proofs.Action

/-!
# Two runs side by side

Two actions run on states that resemble each other. The second run mirrors the first if it ends in
the same way, with a value that agrees, and leaves states that still resemble each other. A failure
of the first run may be excused; then nothing is asked of the second. Runs that mirror each other
can be put one behind the other.
-/
namespace RegisterLink

/-- The second run ends as the first one did, unless the failure of the first is excused. -/
inductive Mirrored {σ τ α β : Type} (excused : Error → Prop) (states : σ → τ → Prop)
    (values : α → β → Prop) : Outcome α × σ → Outcome β × τ → Prop
  | done {value : α} {other : β} {first : σ} {second : τ} (agree : values value other)
      (alike : states first second) :
      Mirrored excused states values (.done value, first) (.done other, second)
  | failed {error : Error} {first : σ} {second : τ} (alike : states first second) :
      Mirrored excused states values (.failed error, first) (.failed error, second)
  | blocked {first : σ} {second : τ} (alike : states first second) :
      Mirrored excused states values (.blocked, first) (.blocked, second)
  | excused {error : Error} {first : σ} {second : Outcome β × τ} (excuse : excused error) :
      Mirrored excused states values (.failed error, first) second

namespace Mirrored

variable {σ τ α β : Type} {excused : Error → Prop} {states : σ → τ → Prop} {values : α → β → Prop}
  {first : σ} {second : τ}

theorem refl (result : Outcome α × σ) : Mirrored excused Eq Eq result result := by
  obtain ⟨outcome, state⟩ := result
  cases outcome with
  | done value => exact .done rfl rfl
  | failed error => exact .failed rfl
  | blocked => exact .blocked rfl

theorem pure {value : α} {other : β} (agree : values value other) (alike : states first second) :
    Mirrored excused states values ((Pure.pure value : Action σ α) first)
      ((Pure.pure other : Action τ β) second) :=
  .done agree alike

theorem ofExcept {result : Except Error α} (alike : states first second) :
    Mirrored excused states Eq (Action.ofExcept result first) (Action.ofExcept result second) := by
  cases result with
  | ok value => exact .done rfl alike
  | error error => exact .failed alike

/-- Falling short ends both runs in the same way. -/
theorem shortfall {limit : Budget} {why : Shortfall} {states : σ → τ → Prop} {first : σ}
    {second : τ} (alike : states first second) :
    Mirrored excused states (Eq (α := α)) (why.outcome limit, first)
      (why.outcome limit, second) := by
  cases why with
  | ended fault => exact .failed alike
  | expired => exact .failed alike
  | stalled => exact .blocked alike

theorem bind {γ δ : Type} {act : Action σ α} {other : Action τ β} {next : α → Action σ γ}
    {onward : β → Action τ δ} {results : γ → δ → Prop}
    (h : Mirrored excused states values (act first) (other second))
    (hnext : ∀ {value found middle centre}, values value found → states middle centre →
      Mirrored excused states results (next value middle) (onward found centre)) :
    Mirrored excused states results ((act >>= next) first) ((other >>= onward) second) := by
  rcases hfirst : act first with ⟨outcome, middle⟩
  rcases hsecond : other second with ⟨found, centre⟩
  rw [hfirst, hsecond] at h
  cases h with
  | done agree alike =>
    rw [Action.bind_of_done hfirst, Action.bind_of_done hsecond]
    exact hnext agree alike
  | failed alike =>
    rw [Action.bind_of_failed hfirst, Action.bind_of_failed hsecond]
    exact .failed alike
  | blocked alike =>
    rw [Action.bind_of_blocked hfirst, Action.bind_of_blocked hsecond]
    exact .blocked alike
  | excused excuse =>
    rw [Action.bind_of_failed hfirst]
    exact .excused excuse

/-- Working on a part of the state, when the parts that are put back fit the states again. -/
theorem within {σ' τ' : Type} {parts : σ' → τ' → Prop} {part : σ → σ'} {share : τ → τ'}
    {replace : σ → σ' → σ} {restore : τ → τ' → τ} {act : Action σ' α} {other : Action τ' β}
    (h : Mirrored excused parts values (act (part first)) (other (share second)))
    (hreplace : ∀ {rest remainder}, parts rest remainder →
      states (replace first rest) (restore second remainder)) :
    Mirrored excused states values (Action.within part replace act first)
      (Action.within share restore other second) := by
  unfold Action.within
  rcases hfirst : act (part first) with ⟨outcome, rest⟩
  rcases hsecond : other (share second) with ⟨found, remainder⟩
  rw [hfirst, hsecond] at h
  cases h with
  | done agree alike => exact .done agree (hreplace alike)
  | failed alike => exact .failed (hreplace alike)
  | blocked alike => exact .blocked (hreplace alike)
  | excused excuse => exact .excused excuse

/-- Sessions that lose their place at the same time go on resembling each other. -/
theorem tracked {links : Link → Link → Prop} {before start : Link} {act : Action Link α}
    {other : Action Link β}
    (h : Mirrored excused links values (act before) (other start))
    (hlost : ∀ {after last}, links after last → links after.desynchronize last.desynchronize) :
    Mirrored excused links values (Link.tracked act before) (Link.tracked other start) := by
  rcases hfirst : act before with ⟨outcome, after⟩
  rcases hsecond : other start with ⟨found, last⟩
  rw [hfirst, hsecond] at h
  cases h with
  | done agree alike =>
    rw [Link.tracked_of_done hfirst, Link.tracked_of_done hsecond]
    exact .done agree alike
  | @failed error _ _ alike =>
    rw [Link.tracked_of_failed hfirst, Link.tracked_of_failed hsecond]
    cases error.desynchronizes with
    | true => exact .failed (hlost alike)
    | false => exact .failed alike
  | blocked alike =>
    rw [Link.tracked_of_blocked hfirst, Link.tracked_of_blocked hsecond]
    exact .blocked alike
  | excused excuse =>
    rw [Link.tracked_of_failed hfirst]
    exact .excused excuse

end Mirrored

end RegisterLink
