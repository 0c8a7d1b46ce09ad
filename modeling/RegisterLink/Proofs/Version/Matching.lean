import RegisterLink.Version

/-!
# The order of version patterns

A version fits a pattern if it has every number that the pattern gives. A number that is not given
admits every number in its place, but as a number of its own it is admitted only by a pattern that
does not give it either. So fitting is an order on all versions, patterns among them, and the
pattern that gives nothing comes last. One pattern stands before another exactly when it admits no
version that the other refuses.
-/
namespace RegisterLink.Version

/-! ## One number -/

/-- The number is the one that the pattern gives, if it gives one. -/
def NumberMeets (value pattern : Int32) : Prop :=
  pattern ≠ unspecified → value = pattern

theorem fieldFits_iff {value pattern : Int32} :
    fieldFits value pattern = true ↔ NumberMeets value pattern := by
  rw [fieldFits, Bool.or_eq_true, beq_iff_eq, beq_iff_eq]
  constructor
  · intro h hgiven
    obtain hopen | hsame := h
    · exact absurd hopen hgiven
    · exact hsame.symm
  · intro h
    by_cases hopen : pattern = unspecified
    · exact .inl hopen
    · exact .inr (h hopen).symm

namespace NumberMeets

variable {value pattern wider : Int32}

theorem refl (value : Int32) : NumberMeets value value := fun _ => rfl

theorem of_open (value : Int32) : NumberMeets value unspecified := fun hgiven => absurd rfl hgiven

theorem trans (h : NumberMeets value pattern) (hwider : NumberMeets pattern wider) :
    NumberMeets value wider := by
  intro hgiven
  obtain rfl := hwider hgiven
  exact h hgiven

theorem antisymm (h : NumberMeets value pattern) (hback : NumberMeets pattern value) :
    value = pattern := by
  by_cases hpattern : pattern = unspecified
  · by_cases hvalue : value = unspecified
    · rw [hvalue, hpattern]
    · exact (hback hvalue).symm
  · exact h hpattern

end NumberMeets

/-! ## All three numbers -/

/-- The version has every number that the pattern gives. -/
structure Meets (version pattern : Version) : Prop where
  major : NumberMeets version.major pattern.major
  minor : NumberMeets version.minor pattern.minor
  subminor : NumberMeets version.subminor pattern.subminor

theorem fits_iff_meets {version pattern : Version} :
    version.fits pattern = true ↔ version.Meets pattern := by
  simp only [fits, Bool.and_eq_true, fieldFits_iff]
  constructor
  · intro h
    exact ⟨h.1.1, h.1.2, h.2⟩
  · intro h
    exact ⟨⟨h.major, h.minor⟩, h.subminor⟩

/-- As a version, one without a subminor number does not fit a pattern that gives one. -/
example : (⟨2, 0, -1⟩ : Version).fits ⟨2, 0, 97⟩ = false := by decide

@[simp] theorem fits_refl (version : Version) : version.fits version = true :=
  fits_iff_meets.mpr ⟨.refl _, .refl _, .refl _⟩

@[simp] theorem fits_any (version : Version) : version.fits any = true :=
  fits_iff_meets.mpr ⟨.of_open _, .of_open _, .of_open _⟩

theorem fits_trans {version pattern wider : Version} (h : version.fits pattern = true)
    (hwider : pattern.fits wider = true) : version.fits wider = true := by
  rw [fits_iff_meets] at h hwider ⊢
  exact ⟨h.major.trans hwider.major, h.minor.trans hwider.minor,
    h.subminor.trans hwider.subminor⟩

theorem fits_antisymm {version pattern : Version} (h : version.fits pattern = true)
    (hback : pattern.fits version = true) : version = pattern := by
  rw [fits_iff_meets] at h hback
  rw [mk.injEq]
  exact ⟨h.major.antisymm hback.major, h.minor.antisymm hback.minor,
    h.subminor.antisymm hback.subminor⟩

/-- What a pattern admits decides where it stands: it is among the versions that it admits. -/
theorem fits_iff_forall {pattern wider : Version} :
    pattern.fits wider = true ↔
      ∀ version : Version, version.fits pattern = true → version.fits wider = true := by
  constructor
  · intro hwider version h
    exact fits_trans h hwider
  · intro hall
    apply hall
    exact fits_refl pattern

/-- A version fits a pattern if it has every number that the pattern gives. Fitting is a partial
order on all versions, the pattern that gives no number is the greatest, and a pattern fits another
exactly if every version that it admits is admitted by the other. -/
theorem fits_partial_order :
    (∀ version pattern : Version, version.fits pattern ↔ version.Meets pattern) ∧
    (∀ version : Version, version.fits version) ∧
    (∀ version pattern wider : Version,
      version.fits pattern → pattern.fits wider → version.fits wider) ∧
    (∀ version pattern : Version,
      version.fits pattern → pattern.fits version → version = pattern) ∧
    (∀ version : Version, version.fits any) ∧
    ∀ pattern wider : Version,
      pattern.fits wider ↔ ∀ version : Version, version.fits pattern → version.fits wider := by
  refine ⟨?_, fits_refl, ?_, ?_, fits_any, ?_⟩
  · intro version pattern
    exact fits_iff_meets
  · intro version pattern wider h hwider
    exact fits_trans h hwider
  · intro version pattern h hback
    exact fits_antisymm h hback
  · intro pattern wider
    exact fits_iff_forall

/-- A letter revision, a version without a subminor number, which is a pattern for the revision, and
a pattern for both. -/
theorem fits_partial_order_letter :
    let revision : Version := ⟨2, 0, 97⟩
    let release : Version := ⟨2, 0, -1⟩
    let series : Version := ⟨2, -1, -1⟩
    revision.fits release ∧ release.fits series ∧ revision.fits series ∧
      ¬ series.fits release ∧ ⟨2, 0, -1⟩ = release ∧
      ∀ version : Version, version.fits release → version.fits series := by
  intro revision release series
  obtain ⟨-, hrefl, htrans, hantisymm, -, hmeaning⟩ := fits_partial_order
  have hrevision : revision.fits release := by decide
  have hrelease : release.fits series := by decide
  exact ⟨hrevision, hrelease, htrans revision release series hrevision hrelease, by decide,
    hantisymm ⟨2, 0, -1⟩ release (hrefl release) (hrefl release),
    (hmeaning release series).mp hrelease⟩

end RegisterLink.Version
