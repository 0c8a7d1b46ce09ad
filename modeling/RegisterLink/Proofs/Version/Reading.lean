import RegisterLink.Proofs.Text.Numeral
import RegisterLink.Version

/-!
# Versions as they are written

A text is read as a version exactly when it is two numbers, or two numbers and a number or letter,
with a dot between them. A number has only digits, so no part has a dot of its own and the parts
are the only ones the text can be cut into. What is read from a text is never negative, but for the
subminor number that is not given.
-/
namespace RegisterLink.Version

/-- A number of a version in digits; zeros may come before. -/
inductive NumberText (text : List Char) (number : Int32) : Prop
  | digits {value : Nat} (numeral : Numeral text value) (fits : value ≤ 2147483647)
      (number_eq : number.toInt = value)

/-- A subminor number in digits, or the letter that stands for it. -/
inductive SubminorText : List Char → Int32 → Prop
  | number {text : List Char} {number : Int32} (digits : NumberText text number) :
      SubminorText text number
  | letter {c : Char} {number : Int32} (alphabetic : c.isAlpha = true)
      (code : number.toInt = c.toNat) : SubminorText [c] number

/-- The texts of a version. -/
inductive Written : List Char → Version → Prop
  | short {first second : List Char} {version : Version} (major : NumberText first version.major)
      (minor : NumberText second version.minor) (absent : version.subminor = -1) :
      Written (first ++ '.' :: second) version
  | full {first second third : List Char} {version : Version}
      (major : NumberText first version.major) (minor : NumberText second version.minor)
      (subminor : SubminorText third version.subminor) :
      Written (first ++ '.' :: (second ++ '.' :: third)) version

/-! ## The numbers -/

theorem eq_ofNat_iff {number : Int32} {value : Nat} (h : value ≤ 2147483647) :
    number = Int32.ofNat value ↔ number.toInt = value := by
  rw [← Int32.toInt_inj, Int32.toInt_ofNat_of_lt (by omega)]

theorem number?_eq_some_iff {text : List Char} {number : Int32} :
    number? text = some number ↔ NumberText text number := by
  rw [number?, Option.map_eq_some_iff]
  constructor
  · rintro ⟨value, hvalue, hnumber⟩
    obtain ⟨hnumeral, hfits⟩ := Decimal.value?_eq_some_iff.mp hvalue
    exact .digits hnumeral hfits ((eq_ofNat_iff hfits).mp hnumber.symm)
  · rintro ⟨hnumeral, hfits, hnumber⟩
    exact ⟨_, Decimal.value?_eq_some_iff.mpr ⟨hnumeral, hfits⟩,
      ((eq_ofNat_iff hfits).mpr hnumber).symm⟩

theorem NumberText.nonneg {text : List Char} {number : Int32} (h : NumberText text number) :
    0 ≤ number := by
  obtain ⟨-, -, hnumber⟩ := h
  rw [Int32.le_iff_toInt_le, hnumber]
  exact Int.natCast_nonneg _

theorem NumberText.not_mem {text : List Char} {number : Int32} {c : Char}
    (h : NumberText text number) (hc : c.isDigit = false) : c ∉ text := by
  obtain ⟨hnumeral, -, -⟩ := h
  exact hnumeral.not_mem hc

theorem NumberText.no_dot {text : List Char} {number : Int32} (h : NumberText text number) :
    '.' ∉ text := h.not_mem rfl

theorem isAlpha_iff {c : Char} :
    c.isAlpha = true ↔ 65 ≤ c.toNat ∧ c.toNat ≤ 90 ∨ 97 ≤ c.toNat ∧ c.toNat ≤ 122 := by
  change (decide (65 ≤ c.val ∧ c.val ≤ 90) ||
    decide (97 ≤ c.val) && decide (c.val ≤ 122)) = true ↔ _
  simp only [Bool.or_eq_true, Bool.and_eq_true, decide_eq_true_eq, UInt32.le_iff_toNat_le]
  rfl

/-- A digit is no letter, so a single character is read in one way only. -/
theorem NumberText.not_alpha {c : Char} {number : Int32} (h : NumberText [c] number) :
    c.isAlpha ≠ true := by
  obtain ⟨hnumeral, -, -⟩ := h
  have hdigit := Char.isDigit_iff_toNat.mp (hnumeral.digits c (List.mem_singleton_self c))
  have hnine : c.toNat ≤ 57 := hdigit.2
  intro halpha
  rw [isAlpha_iff] at halpha
  omega

theorem letter_eq_some_iff {c : Char} {number : Int32} (h : c.isAlpha = true) :
    some (Int32.ofNat c.toNat) = some number ↔ number.toInt = c.toNat := by
  have hfits : c.toNat ≤ 2147483647 := by
    rw [isAlpha_iff] at h
    omega
  rw [Option.some.injEq, eq_comm, eq_ofNat_iff hfits]

theorem subminor?_of_letter {c : Char} (h : c.isAlpha = true) :
    subminor? [c] = some (Int32.ofNat c.toNat) := if_pos h

theorem subminor?_of_no_letter {text : List Char} (h : ∀ c, text = [c] → c.isAlpha ≠ true) :
    subminor? text = number? text := by
  unfold subminor?
  split
  · exact if_neg (h _ rfl)
  · rfl

theorem subminor?_eq_some_iff {text : List Char} {number : Int32} :
    subminor? text = some number ↔ SubminorText text number := by
  by_cases hletter : ∃ c, text = [c] ∧ c.isAlpha = true
  · obtain ⟨c, rfl, halpha⟩ := hletter
    rw [subminor?_of_letter halpha, letter_eq_some_iff halpha]
    constructor
    · exact .letter halpha
    · rintro (hdigits | ⟨-, hcode⟩)
      · exact absurd halpha hdigits.not_alpha
      · exact hcode
  · have hnone : ∀ c, text = [c] → c.isAlpha ≠ true := fun c htext halpha =>
      hletter ⟨c, htext, halpha⟩
    rw [subminor?_of_no_letter hnone, number?_eq_some_iff]
    constructor
    · exact .number
    · rintro (hdigits | ⟨halpha, -⟩)
      · exact hdigits
      · exact absurd halpha (hnone _ rfl)

theorem SubminorText.nonneg {text : List Char} {number : Int32} (h : SubminorText text number) :
    0 ≤ number := by
  cases h with
  | number digits => exact digits.nonneg
  | letter alphabetic code =>
    rw [Int32.le_iff_toInt_le, code]
    exact Int.natCast_nonneg _

theorem SubminorText.not_mem {text : List Char} {number : Int32} {c : Char}
    (h : SubminorText text number) (hc : c.isAlphanum = false) : c ∉ text := by
  obtain ⟨halpha, hdigit⟩ := Bool.or_eq_false_iff.mp hc
  cases h with
  | number digits => exact digits.not_mem hdigit
  | letter alphabetic =>
    rw [List.mem_singleton]
    intro hletter
    rw [hletter, alphabetic] at halpha
    cases halpha

/-! ## The parts -/

theorem ofChars?_none {text : List Char} (h : '.' ∉ text) : ofChars? text = none := by
  simp only [ofChars?, Text.splitFirst_eq_none_iff.mpr h]
  rfl

theorem ofChars?_short {first second : List Char} {version : Version} (hfirst : '.' ∉ first)
    (hsecond : '.' ∉ second) :
    ofChars? (first ++ '.' :: second) = some version ↔ NumberText first version.major ∧
      NumberText second version.minor ∧ version.subminor = -1 := by
  simp only [ofChars?, Text.splitFirst_append second hfirst,
    Text.splitFirst_eq_none_iff.mpr hsecond, Option.bind_eq_bind, Option.bind_some,
    Option.bind_eq_some_iff, number?_eq_some_iff]
  constructor
  · rintro ⟨major, hmajor, minor, hminor, hversion⟩
    obtain rfl := Option.some.inj hversion
    exact ⟨hmajor, hminor, rfl⟩
  · obtain ⟨major, minor, subminor⟩ := version
    rintro ⟨hmajor, hminor, rfl⟩
    exact ⟨major, hmajor, minor, hminor, rfl⟩

theorem ofChars?_full {first second third : List Char} {version : Version} (hfirst : '.' ∉ first)
    (hsecond : '.' ∉ second) :
    ofChars? (first ++ '.' :: (second ++ '.' :: third)) = some version ↔
      NumberText first version.major ∧ NumberText second version.minor ∧
        SubminorText third version.subminor := by
  simp only [ofChars?, Text.splitFirst_append _ hfirst, Text.splitFirst_append third hsecond,
    Option.bind_eq_bind, Option.bind_some, Option.bind_eq_some_iff, number?_eq_some_iff,
    subminor?_eq_some_iff]
  constructor
  · rintro ⟨major, hmajor, minor, hminor, subminor, hsubminor, hversion⟩
    obtain rfl := Option.some.inj hversion
    exact ⟨hmajor, hminor, hsubminor⟩
  · rintro ⟨hmajor, hminor, hsubminor⟩
    exact ⟨_, hmajor, _, hminor, _, hsubminor, rfl⟩

theorem ofChars?_eq_some_iff {text : List Char} {version : Version} :
    ofChars? text = some version ↔ Written text version := by
  constructor
  · intro h
    cases hsplit : Text.splitFirst '.' text with
    | none =>
      rw [ofChars?_none (Text.splitFirst_eq_none_iff.mp hsplit)] at h
      cases h
    | some halves =>
      obtain ⟨first, rest⟩ := halves
      obtain ⟨rfl, hfirst⟩ := Text.eq_of_splitFirst hsplit
      cases hagain : Text.splitFirst '.' rest with
      | none =>
        have hsecond := Text.splitFirst_eq_none_iff.mp hagain
        obtain ⟨hmajor, hminor, habsent⟩ := (ofChars?_short hfirst hsecond).mp h
        exact .short hmajor hminor habsent
      | some halves =>
        obtain ⟨second, third⟩ := halves
        obtain ⟨rfl, hsecond⟩ := Text.eq_of_splitFirst hagain
        obtain ⟨hmajor, hminor, hsubminor⟩ := (ofChars?_full hfirst hsecond).mp h
        exact .full hmajor hminor hsubminor
  · rintro (⟨hmajor, hminor, habsent⟩ | ⟨hmajor, hminor, hsubminor⟩)
    · exact (ofChars?_short hmajor.no_dot hminor.no_dot).mpr ⟨hmajor, hminor, habsent⟩
    · exact (ofChars?_full hmajor.no_dot hminor.no_dot).mpr ⟨hmajor, hminor, hsubminor⟩

theorem parse_eq_ok_iff {text : String} {version : Version} :
    parse text = .ok version ↔ Written text.toList version := by
  rw [← ofChars?_eq_some_iff, parse]
  cases ofChars? text.toList <;> simp

theorem parse_of_unwritten {text : String} (h : ∀ version, ¬ Written text.toList version) :
    parse text = .error (.versionFormat text) := by
  cases hchars : ofChars? text.toList with
  | none => rw [parse, hchars]
  | some version => exact absurd (ofChars?_eq_some_iff.mp hchars) (h version)

/-! ## What is read -/

namespace Written

variable {text : List Char} {version : Version}

/-- Besides dots, a version has only letters and digits. -/
theorem not_mem {c : Char} (h : Written text version) (hc : c.isAlphanum = false) (hdot : c ≠ '.') :
    c ∉ text := by
  have hdigit : c.isDigit = false := (Bool.or_eq_false_iff.mp hc).2
  cases h with
  | short major minor absent => simp [hdot, major.not_mem hdigit, minor.not_mem hdigit]
  | full major minor subminor =>
    simp [hdot, major.not_mem hdigit, minor.not_mem hdigit, subminor.not_mem hc]

theorem major_nonneg (h : Written text version) : 0 ≤ version.major := by
  cases h with
  | short major => exact major.nonneg
  | full major => exact major.nonneg

theorem minor_nonneg (h : Written text version) : 0 ≤ version.minor := by
  cases h with
  | short _ minor => exact minor.nonneg
  | full _ minor => exact minor.nonneg

/-- The subminor number is missing from what is read exactly if its part is missing from the text,
which has one dot then. -/
theorem subminor_eq_iff (h : Written text version) :
    version.subminor = -1 ↔ text.count '.' = 1 := by
  cases h with
  | short major minor absent =>
    simp [absent, List.count_eq_zero.mpr major.no_dot, List.count_eq_zero.mpr minor.no_dot]
  | full major minor subminor =>
    constructor
    · intro hnone
      have hnonneg := subminor.nonneg
      rw [hnone] at hnonneg
      exact absurd hnonneg (by decide)
    · intro hcount
      simp only [List.count_append, List.count_cons_self] at hcount
      omega

end Written

/-- Exactly the texts of a version are read, each as the version it tells; every other text is
refused. No number that is read is negative, except for a subminor number that is not given. -/
theorem version_text_read (text : String) :
    (∀ version, parse text = .ok version ↔ Written text.toList version) ∧
    ((∀ version, ¬ Written text.toList version) → parse text = .error (.versionFormat text)) ∧
    ∀ version, parse text = .ok version → 0 ≤ version.major ∧ 0 ≤ version.minor ∧
      (version.subminor = -1 ↔ text.toList.count '.' = 1) := by
  refine ⟨fun version => parse_eq_ok_iff, parse_of_unwritten, fun version hparse => ?_⟩
  have hwritten := parse_eq_ok_iff.mp hparse
  exact ⟨hwritten.major_nonneg, hwritten.minor_nonneg, hwritten.subminor_eq_iff⟩

/-- Leading zeros, the largest number and a letter; and a number that is too large by one. -/
theorem version_text_read_largest :
    let version : Version := ⟨7, 2147483647, 122⟩
    let large := "1.2147483648"
    Written "007.2147483647.z".toList version ∧
      parse "007.2147483647.z" = .ok version ∧ 0 ≤ version.major ∧ 0 ≤ version.minor ∧
      (∀ version, ¬ Written large.toList version) ∧
      parse large = .error (.versionFormat large) := by
  intro version large
  have hwritten : Written "007.2147483647.z".toList version :=
    ofChars?_eq_some_iff.mp (by decide +kernel)
  have hlarge : ofChars? large.toList = none := by decide +kernel
  have hnone : ∀ version, ¬ Written large.toList version := by
    intro version h
    rw [ofChars?_eq_some_iff.mpr h] at hlarge
    cases hlarge
  have hparse := ((version_text_read "007.2147483647.z").1 version).mpr hwritten
  obtain ⟨hmajor, hminor, -⟩ := (version_text_read "007.2147483647.z").2.2 version hparse
  exact ⟨hwritten, hparse, hmajor, hminor, hnone, (version_text_read large).2.1 hnone⟩

end RegisterLink.Version
