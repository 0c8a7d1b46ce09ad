import RegisterLink.Proofs.Version.Reading

/-!
# Displayed versions

A number that is given is displayed by its digits and read back as it was, the largest and those of
one digit included. A negative number shows a mark that no version text has: a minus sign, or the
brackets of one that is not given. So a displayed version is read back exactly if no number is
negative; and whether or not it is, no two versions are displayed alike.
-/
namespace RegisterLink.Version

/-! ## One number -/

theorem displayField_of_specified {value : Int32} (h : value ≠ unspecified) :
    displayField value = Decimal.ofInt value.toInt := if_neg h

theorem numberText_displayField {value : Int32} (h : 0 ≤ value) :
    NumberText (displayField value) value := by
  have hspecified : value ≠ unspecified := by
    intro hopen
    rw [hopen] at h
    exact absurd h (by decide)
  rw [Int32.le_iff_toInt_le] at h
  obtain ⟨n, hn⟩ := Int.eq_ofNat_of_zero_le h
  have hlimit := value.toInt_lt
  rw [displayField_of_specified hspecified, hn]
  exact .digits (Decimal.numeral_digits n) (by omega) hn

/-- A negative number is marked where it is displayed. -/
theorem marked_of_neg {value : Int32} (h : value < 0) :
    '<' ∈ displayField value ∨ '-' ∈ displayField value := by
  by_cases hopen : value = unspecified
  · left
    rw [hopen]
    decide
  · right
    rw [displayField_of_specified hopen, Decimal.minus_mem_ofInt_iff]
    exact Int32.lt_iff_toInt_lt.mp h

theorem dot_not_mem_displayField (value : Int32) : '.' ∉ displayField value := by
  by_cases hopen : value = unspecified
  · rw [hopen]
    decide
  · rw [displayField_of_specified hopen]
    exact Decimal.ofInt_not_mem rfl (by decide) value.toInt

theorem bracket_mem_displayField_iff {value : Int32} :
    '<' ∈ displayField value ↔ value = unspecified := by
  constructor
  · intro hbracket
    by_contra hspecified
    rw [displayField_of_specified hspecified] at hbracket
    exact absurd hbracket (Decimal.ofInt_not_mem rfl (by decide) value.toInt)
  · intro hopen
    rw [hopen]
    decide

theorem displayField_injective : Function.Injective displayField := by
  intro a b h
  have hopen : a = unspecified ↔ b = unspecified := by
    rw [← bracket_mem_displayField_iff, ← bracket_mem_displayField_iff, h]
  by_cases ha : a = unspecified
  · rw [ha, hopen.mp ha]
  · have hb : b ≠ unspecified := fun hb => ha (hopen.mpr hb)
    rw [displayField_of_specified ha, displayField_of_specified hb] at h
    exact Int32.toInt_inj.mp (Decimal.ofInt_injective h)

/-! ## All three numbers -/

theorem toList_display (version : Version) :
    version.display.toList = displayField version.major ++ '.' ::
      (displayField version.minor ++ '.' :: displayField version.subminor) := by
  rw [display, String.toList_ofList, displayChars, List.append_assoc, List.cons_append]

theorem written_display {version : Version} (hmajor : 0 ≤ version.major)
    (hminor : 0 ≤ version.minor) (hsubminor : 0 ≤ version.subminor) :
    Written version.display.toList version := by
  rw [toList_display]
  exact .full (numberText_displayField hmajor) (numberText_displayField hminor)
    (.number (numberText_displayField hsubminor))

theorem marked_display {version : Version}
    (h : version.major < 0 ∨ version.minor < 0 ∨ version.subminor < 0) :
    '<' ∈ version.display.toList ∨ '-' ∈ version.display.toList := by
  rw [toList_display]
  obtain hmajor | hminor | hsubminor := h
  · obtain hmark | hmark := marked_of_neg hmajor <;> simp [hmark]
  · obtain hmark | hmark := marked_of_neg hminor <;> simp [hmark]
  · obtain hmark | hmark := marked_of_neg hsubminor <;> simp [hmark]

theorem not_written_display {version : Version}
    (h : version.major < 0 ∨ version.minor < 0 ∨ version.subminor < 0) (other : Version) :
    ¬ Written version.display.toList other := by
  intro hwritten
  obtain hmark | hmark := marked_display h
  · exact hwritten.not_mem rfl (by decide) hmark
  · exact hwritten.not_mem rfl (by decide) hmark

theorem display_injective : Function.Injective display := by
  intro a b h
  have htext := congrArg String.toList h
  rw [toList_display, toList_display,
    Text.append_cons_inj (dot_not_mem_displayField _) (dot_not_mem_displayField _),
    Text.append_cons_inj (dot_not_mem_displayField _) (dot_not_mem_displayField _)] at htext
  obtain ⟨hmajor, hminor, hsubminor⟩ := htext
  rw [mk.injEq]
  exact ⟨displayField_injective hmajor, displayField_injective hminor,
    displayField_injective hsubminor⟩

/-- A displayed version is read back as it was if none of its numbers is negative, and refused if
one is. Versions that are displayed alike are equal, whatever their numbers are. -/
theorem displayed_version_read :
    (∀ version : Version, 0 ≤ version.major → 0 ≤ version.minor → 0 ≤ version.subminor →
      parse version.display = .ok version) ∧
    (∀ version : Version, version.major < 0 ∨ version.minor < 0 ∨ version.subminor < 0 →
      parse version.display = .error (.versionFormat version.display)) ∧
    ∀ version other : Version, version.display = other.display → version = other := by
  refine ⟨?_, ?_, ?_⟩
  · intro version hmajor hminor hsubminor
    exact parse_eq_ok_iff.mpr (written_display hmajor hminor hsubminor)
  · intro version hnegative
    exact parse_of_unwritten (not_written_display hnegative)
  · intro version other h
    exact display_injective h

/-- The largest number and one of a single digit; a number that is not given; and the lowest number
beside one that is not given, a text that no other version has. -/
theorem displayed_version_read_bounds :
    let largest : Version := ⟨0, 2147483647, 7⟩
    let release : Version := ⟨2, 0, -1⟩
    let lowest : Version := ⟨-1, -2147483648, 97⟩
    parse largest.display = .ok largest ∧
      parse release.display = .error (.versionFormat release.display) ∧
      lowest.display = "<NA>.-2147483648.97" ∧
      ∀ version : Version, version.display = "<NA>.-2147483648.97" → version = lowest := by
  intro largest release lowest
  obtain ⟨hback, hrefused, hequal⟩ := displayed_version_read
  have hlowest : lowest.display = "<NA>.-2147483648.97" := by decide +kernel
  refine ⟨hback largest (by decide) (by decide) (by decide),
    hrefused release (.inr (.inr (by decide))), hlowest, ?_⟩
  intro version h
  exact hequal version lowest (h.trans hlowest.symm)

end RegisterLink.Version
