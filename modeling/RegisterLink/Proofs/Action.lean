import RegisterLink.Link.Access

/-!
# Laws of actions

Sequencing is associative, so a sequence of actions can be regrouped and read step by step. On a
link, the part of a sequence that works on the stream alone can be run there, and marking the
session by the outcome of a whole sequence comes to the same as marking it step by step.
-/
namespace RegisterLink

namespace Action

variable {σ α β γ : Type}

theorem map_id_eq (act : Action σ α) : id <$> act = act := by
  funext state
  show Action.bind act _ state = act state
  unfold Action.bind
  rcases act state with ⟨_ | _ | _, _⟩ <;> rfl

theorem bind_bind (act : Action σ α) (next : α → Action σ β) (last : β → Action σ γ) :
    act >>= next >>= last = act >>= fun value => next value >>= last := by
  funext state
  show Action.bind (Action.bind act next) last state = Action.bind act _ state
  unfold Action.bind
  rcases act state with ⟨_ | _ | _, _⟩ <;> rfl

instance : LawfulMonad (Action σ) :=
  LawfulMonad.mk' (Action σ) map_id_eq (fun _ _ => rfl) bind_bind

theorem ofExcept_ok (value : α) : (ofExcept (.ok value) : Action σ α) = pure value := rfl

/-- What the second action leaves alone is as the first one left it. -/
theorem bind_keeps {act : Action σ α} {next : α → Action σ β} (part : σ → γ)
    (h : ∀ value state, part (next value state).2 = part state) (state : σ) :
    part ((act >>= next) state).2 = part (act state).2 := by
  rcases hact : act state with ⟨outcome, middle⟩
  cases outcome with
  | done value => rw [bind_of_done hact, h]
  | failed error => rw [bind_of_failed hact]
  | blocked => rw [bind_of_blocked hact]

end Action

namespace Link

variable {α β : Type}

theorem onStream_apply (act : Action Stream α) (link : Link) :
    onStream act link = ((act link.stream).1, { link with stream := (act link.stream).2 }) := rfl

theorem onStream_ofExcept (result : Except Error α) :
    onStream (Action.ofExcept result) = Action.ofExcept result := by
  cases result <;> rfl

theorem onStream_bind (act : Action Stream α) (next : α → Action Stream β) :
    onStream (act >>= next) = onStream act >>= fun value => onStream (next value) := by
  funext link
  rcases h : act link.stream with ⟨outcome, stream⟩
  have hlink : onStream act link = (outcome, { link with stream }) := by rw [onStream_apply, h]
  rw [onStream_apply]
  cases outcome with
  | done value => rw [Action.bind_of_done h, Action.bind_of_done hlink]; rfl
  | failed error => rw [Action.bind_of_failed h, Action.bind_of_failed hlink]
  | blocked => rw [Action.bind_of_blocked h, Action.bind_of_blocked hlink]

theorem tracked_of_done {act : Action Link α} {link after : Link} {value : α}
    (h : act link = (.done value, after)) : tracked act link = (.done value, after) := by
  unfold tracked
  rw [h]

theorem tracked_of_failed {act : Action Link α} {link after : Link} {error : Error}
    (h : act link = (.failed error, after)) :
    tracked act link =
      (.failed error, if error.desynchronizes then after.desynchronize else after) := by
  unfold tracked
  rw [h]
  rfl

theorem tracked_of_blocked {act : Action Link α} {link after : Link}
    (h : act link = (.blocked, after)) : tracked act link = (.blocked, after) := by
  unfold tracked
  rw [h]

theorem tracked_stream (act : Action Link α) (link : Link) :
    (tracked act link).2.stream = (act link).2.stream := by
  rcases hact : act link with ⟨outcome, after⟩
  cases outcome with
  | done value => rw [tracked_of_done hact]
  | failed error =>
    rw [tracked_of_failed hact]
    cases error.desynchronizes <;> rfl
  | blocked => rw [tracked_of_blocked hact]

/-- A sequence is marked where one of its parts would be. -/
theorem tracked_bind (act : Action Link α) (next : α → Action Link β) :
    tracked (act >>= next) = tracked act >>= fun value => tracked (next value) := by
  funext link
  rcases h : act link with ⟨outcome, after⟩
  cases outcome with
  | done value =>
    rw [Action.bind_of_done (tracked_of_done h), tracked, Action.bind_of_done h]
    rfl
  | failed error =>
    rw [Action.bind_of_failed (tracked_of_failed h), tracked_of_failed (Action.bind_of_failed h)]
  | blocked =>
    rw [Action.bind_of_blocked (tracked_of_blocked h),
      tracked_of_blocked (Action.bind_of_blocked h)]

theorem desynchronize_eq_self {link : Link} (h : link.session.desynchronized = true) :
    link.desynchronize = link := by
  rw [desynchronize, ← h]

theorem ensureSynchronized_of_lost {link : Link} (h : link.session.desynchronized = true) :
    ensureSynchronized link = (.failed (.protocol .desynchronized), link) := by
  rw [ensureSynchronized, if_pos h]

theorem ensureSynchronized_of_kept {link : Link} (h : ¬ link.session.desynchronized = true) :
    ensureSynchronized link = (.done (), link) := by
  rw [ensureSynchronized, if_neg h]

theorem ensureSynchronized_bind (next : Unit → Action Link α) (link : Link) :
    (ensureSynchronized >>= next) link =
      if link.session.desynchronized then (.failed (.protocol .desynchronized), link)
      else next () link := by
  by_cases h : link.session.desynchronized
  · rw [if_pos h, Action.bind_of_failed (ensureSynchronized_of_lost h)]
  · rw [if_neg h, Action.bind_of_done (ensureSynchronized_of_kept h)]

/-- A session that is refused for having lost its place has been marked before. -/
theorem tracked_ensureSynchronized : tracked ensureSynchronized = ensureSynchronized := by
  funext link
  by_cases h : link.session.desynchronized
  · rw [tracked_of_failed (ensureSynchronized_of_lost h), desynchronize_eq_self h, ite_self,
      ensureSynchronized_of_lost h]
  · rw [tracked_of_done (ensureSynchronized_of_kept h), ensureSynchronized_of_kept h]

theorem tracked_currentSession : tracked currentSession = currentSession := rfl

theorem currentSession_bind (next : Session → Action Link α) (link : Link) :
    (currentSession >>= next) link = next link.session link := rfl

end Link

end RegisterLink
