import RegisterLink.Stream.Inbound

/-!
# Bytes that no time limit keeps back

A reader that may wait for ever, or that never has to wait, gets the bytes in front, however they
are cut into segments. If fewer are left than it asks for, it takes them all and ends as the stream
does. Its budget of time stays what it was.
-/
namespace RegisterLink

/-- No waiting uses up the budget: there is no limit, or there is nothing to wait for. -/
def Unhurried (budget : Budget) (segments : List Segment) : Prop :=
  budget = none ∨ ∀ segment ∈ segments, segment.wait = 0

namespace Unhurried

variable {budget : Budget} {segment : Segment} {segments : List Segment}

theorem spend (h : Unhurried budget (segment :: segments)) :
    budget.spend segment.wait = some budget := by
  rcases h with rfl | hprompt
  · rfl
  · rw [hprompt segment List.mem_cons_self]
    cases budget <;> rfl

theorem tail (h : Unhurried budget (segment :: segments)) : Unhurried budget segments :=
  h.imp_right fun hprompt later hlater => hprompt later (List.mem_cons_of_mem _ hlater)

end Unhurried

@[simp] theorem receiveFrom_zero (ending : Ending) (budget : Budget) (segments : List Segment) :
    receiveFrom ending 0 budget segments = (.complete [] budget, segments) := by
  cases segments <;> simp [receiveFrom]

theorem receiveFrom_complete (ending : Ending) {need : Nat} {budget : Budget}
    {segments : List Segment} (hurry : Unhurried budget segments)
    (h : need ≤ (segments.flatMap Segment.data).length) :
    ∃ rest, receiveFrom ending need budget segments =
        (.complete ((segments.flatMap Segment.data).take need) budget, rest) ∧
      rest.flatMap Segment.data = (segments.flatMap Segment.data).drop need := by
  induction segments generalizing need with
  | nil =>
    have hneed : need = 0 := by simpa using h
    subst hneed
    exact ⟨[], by simp, rfl⟩
  | cons segment segments ih =>
    rw [List.flatMap_cons, List.length_append] at h
    by_cases hneed : need = 0
    · subst hneed
      exact ⟨segment :: segments, by simp, by simp⟩
    by_cases hempty : segment.data = []
    · obtain ⟨rest, hrest, hunread⟩ := @ih need hurry.tail (by simpa [hempty] using h)
      exact ⟨rest, by simp [receiveFrom, hneed, hempty, hrest], by simp [hempty, hunread]⟩
    by_cases hlt : need < segment.data.length
    · refine ⟨segment.remainder need :: segments, ?_, ?_⟩
      · rw [receiveFrom]
        simp [hneed, hempty, hurry.spend, hlt, List.take_append_of_le_length (Nat.le_of_lt hlt)]
      · simp [Segment.remainder, List.drop_append_of_le_length (Nat.le_of_lt hlt)]
    · have hle : segment.data.length ≤ need := by omega
      obtain ⟨rest, hrest, hunread⟩ := @ih (need - segment.data.length) hurry.tail (by omega)
      refine ⟨rest, ?_, ?_⟩
      · rw [receiveFrom]
        simp [hneed, hempty, hurry.spend, hlt, hrest, Reception.prepend, List.take_append,
          List.take_of_length_le hle]
      · rw [hunread, List.flatMap_cons, List.drop_append, List.drop_eq_nil_of_le hle,
          List.nil_append]

theorem receiveFrom_short (ending : Ending) {need : Nat} {budget : Budget}
    {segments : List Segment} (hurry : Unhurried budget segments)
    (h : (segments.flatMap Segment.data).length < need) :
    receiveFrom ending need budget segments = (.short (ending.shortfall budget), []) := by
  induction segments generalizing need with
  | nil =>
    have hneed : need ≠ 0 := by
      rw [List.flatMap_nil, List.length_nil] at h
      omega
    simp [receiveFrom, hneed]
  | cons segment segments ih =>
    rw [List.flatMap_cons, List.length_append] at h
    have hneed : need ≠ 0 := by omega
    by_cases hempty : segment.data = []
    · have hrest := @ih need hurry.tail (by simpa [hempty] using h)
      simp [receiveFrom, hneed, hempty, hrest]
    · have hlt : ¬ need < segment.data.length := by omega
      have hrest := @ih (need - segment.data.length) hurry.tail (by omega)
      rw [receiveFrom]
      simp [hneed, hempty, hurry.spend, hlt, hrest, Reception.prepend]

namespace Inbound

/-- Enough bytes: exactly those asked for are taken. -/
theorem receive_of_le {inbound : Inbound} {need : Nat} {budget : Budget}
    (hurry : Unhurried budget inbound.segments) (h : need ≤ inbound.unread.length) :
    ∃ after, inbound.receive need budget = (.complete (inbound.unread.take need) budget, after) ∧
      after.unread = inbound.unread.drop need ∧ after.ending = inbound.ending := by
  obtain ⟨rest, hrest, hunread⟩ := receiveFrom_complete inbound.ending hurry h
  exact ⟨{ inbound with segments := rest }, by simp [receive, hrest, unread], hunread, rfl⟩

/-- Too few bytes: all are taken, and the end decides. -/
theorem receive_of_lt {inbound : Inbound} {need : Nat} {budget : Budget}
    (hurry : Unhurried budget inbound.segments) (h : inbound.unread.length < need) :
    inbound.receive need budget =
      (.short (inbound.ending.shortfall budget), { inbound with segments := [] }) := by
  simp [receive, receiveFrom_short inbound.ending hurry h]

end Inbound

end RegisterLink
