/-!
# Splitting text at a separator

`splitFirst` and `splitLast` cut a text at the first and at the last occurrence of a character and
drop that character. Both fail exactly on texts without it.
-/
namespace RegisterLink.Text

/-- The text before and after the first `sep`. -/
def splitFirst (sep : Char) : List Char → Option (List Char × List Char)
  | [] => none
  | c :: rest =>
    if c = sep then some ([], rest)
    else (splitFirst sep rest).map fun halves => (c :: halves.1, halves.2)

/-- The text before and after the last `sep`. -/
def splitLast (sep : Char) : List Char → Option (List Char × List Char)
  | [] => none
  | c :: rest =>
    match splitLast sep rest with
    | some (before, after) => some (c :: before, after)
    | none => if c = sep then some ([], rest) else none

theorem splitFirst_eq_none_iff {sep : Char} {text : List Char} :
    splitFirst sep text = none ↔ sep ∉ text := by
  induction text with
  | nil => simp [splitFirst]
  | cons c rest ih =>
    by_cases hc : c = sep
    · simp [splitFirst, hc]
    · simp [splitFirst, hc, ih, Ne.symm hc]

theorem splitFirst_append {sep : Char} {before : List Char} (after : List Char)
    (h : sep ∉ before) : splitFirst sep (before ++ sep :: after) = some (before, after) := by
  induction before with
  | nil => simp [splitFirst]
  | cons c before ih =>
    rw [List.mem_cons, not_or] at h
    simp [splitFirst, Ne.symm h.1, ih h.2]

theorem eq_of_splitFirst {sep : Char} {text before after : List Char}
    (h : splitFirst sep text = some (before, after)) :
    text = before ++ sep :: after ∧ sep ∉ before := by
  induction text generalizing before with
  | nil => simp [splitFirst] at h
  | cons c rest ih =>
    by_cases hc : c = sep
    · simp only [splitFirst, if_pos hc, Option.some.injEq, Prod.mk.injEq] at h
      obtain ⟨rfl, rfl⟩ := h
      simp [hc]
    · simp only [splitFirst, if_neg hc, Option.map_eq_some_iff, Prod.mk.injEq] at h
      obtain ⟨⟨left, right⟩, hrest, rfl, rfl⟩ := h
      obtain ⟨rfl, hnot⟩ := ih hrest
      simp [hnot, Ne.symm hc]

/-- Where the first separator stands, a text can be cut in one way only. -/
theorem append_cons_inj {sep : Char} {before before' after after' : List Char}
    (h : sep ∉ before) (h' : sep ∉ before') :
    before ++ sep :: after = before' ++ sep :: after' ↔ before = before' ∧ after = after' := by
  constructor
  · intro heq
    have hsplit := splitFirst_append after h
    rw [heq, splitFirst_append after' h'] at hsplit
    simp only [Option.some.injEq, Prod.mk.injEq] at hsplit
    exact ⟨hsplit.1.symm, hsplit.2.symm⟩
  · intro hparts
    rw [hparts.1, hparts.2]

theorem splitLast_eq_none_iff {sep : Char} {text : List Char} :
    splitLast sep text = none ↔ sep ∉ text := by
  induction text with
  | nil => simp [splitLast]
  | cons c rest ih =>
    cases hrest : splitLast sep rest with
    | some halves =>
      have hmem : sep ∈ rest := by
        apply Classical.byContradiction
        intro hnot
        rw [ih.mpr hnot] at hrest
        cases hrest
      simp [splitLast, hrest, hmem]
    | none =>
      have hnot := ih.mp hrest
      by_cases hc : c = sep
      · simp [splitLast, hrest, hc]
      · simp [splitLast, hrest, hc, hnot, Ne.symm hc]

theorem splitLast_append {sep : Char} (before : List Char) {after : List Char}
    (h : sep ∉ after) : splitLast sep (before ++ sep :: after) = some (before, after) := by
  induction before with
  | nil => simp [splitLast, splitLast_eq_none_iff.mpr h]
  | cons c before ih => simp [splitLast, ih]

theorem eq_of_splitLast {sep : Char} {text before after : List Char}
    (h : splitLast sep text = some (before, after)) :
    text = before ++ sep :: after ∧ sep ∉ after := by
  induction text generalizing before with
  | nil => simp [splitLast] at h
  | cons c rest ih =>
    cases hrest : splitLast sep rest with
    | some halves =>
      obtain ⟨left, right⟩ := halves
      simp only [splitLast, hrest, Option.some.injEq, Prod.mk.injEq] at h
      obtain ⟨rfl, rfl⟩ := h
      obtain ⟨rfl, hnot⟩ := ih hrest
      simp [hnot]
    | none =>
      have hnot := splitLast_eq_none_iff.mp hrest
      by_cases hc : c = sep
      · simp only [splitLast, hrest, if_pos hc, Option.some.injEq, Prod.mk.injEq] at h
        obtain ⟨rfl, rfl⟩ := h
        simp [hc, hnot]
      · simp [splitLast, hrest, hc] at h

/-! ## Joined strings -/

section

variable {sep : Char} {separator : String}

theorem splitLast_join (hsep : separator.toList = [sep]) (before : String) {after : String}
    (h : sep ∉ after.toList) :
    splitLast sep (before ++ separator ++ after).toList = some (before.toList, after.toList) := by
  have htext : (before ++ separator ++ after).toList = before.toList ++ sep :: after.toList := by
    simp [hsep]
  rw [htext, splitLast_append before.toList h]

theorem exists_join (hsep : separator.toList = [sep]) {text : String} (h : sep ∈ text.toList) :
    ∃ before after : String, text = before ++ separator ++ after ∧ sep ∉ after.toList := by
  cases hsplit : splitLast sep text.toList with
  | none => exact absurd h (splitLast_eq_none_iff.mp hsplit)
  | some halves =>
    obtain ⟨before, after⟩ := halves
    obtain ⟨htext, hafter⟩ := eq_of_splitLast hsplit
    refine ⟨String.ofList before, String.ofList after, ?_, ?_⟩
    · apply String.toList_injective
      simp [htext, hsep]
    · rw [String.toList_ofList]
      exact hafter

end

end RegisterLink.Text
