import RegisterLink.Descriptor
import RegisterLink.Proofs.Version.Matching

/-!
# Wider patterns

Names count only when both sides have one, and then nothing else does. Otherwise a text that either
side leaves open agrees with every text, while of a version only the pattern's numbers may be left
open. So leaving a text open on either side keeps a match, as does a version pattern that admits
more. Nothing here chains matches: a text left open in the middle agrees with different texts.
-/
namespace RegisterLink.Descriptor

/-! ## Texts -/

/-- Two texts agree unless both are given and differ. -/
def TextsAgree (text pattern : String) : Prop :=
  text ≠ "" → pattern ≠ "" → text = pattern

theorem textFits_iff {text pattern : String} :
    textFits text pattern = true ↔ TextsAgree text pattern := by
  rw [textFits, Bool.or_eq_true, Bool.or_eq_true, beq_iff_eq, beq_iff_eq, beq_iff_eq]
  constructor
  · intro h htext hpattern
    obtain (hopen | hopen) | hsame := h
    · exact absurd hopen htext
    · exact absurd hopen hpattern
    · exact hsame
  · intro h
    by_cases htext : text = ""
    · exact .inl (.inl htext)
    · by_cases hpattern : pattern = ""
      · exact .inl (.inr hpattern)
      · exact .inr (h htext hpattern)

/-- A text left open in the middle agrees with two that do not agree with each other. -/
example :
    textFits "xlnx" "" = true ∧ textFits "" "ug4" = true ∧ textFits "xlnx" "ug4" = false := by
  decide

/-- A text stays as it was, or is left open. -/
def KeptOrOpen (text opened : String) : Prop :=
  opened = text ∨ opened = ""

theorem TextsAgree.opened {text opened pattern wider : String} (h : TextsAgree text pattern)
    (hopened : KeptOrOpen text opened) (hwider : KeptOrOpen pattern wider) :
    TextsAgree opened wider := by
  intro hgiven hwanted
  obtain rfl := hopened.resolve_right hgiven
  obtain rfl := hwider.resolve_right hwanted
  exact h hgiven hwanted

/-! ## Vendor, type and version -/

/-- Agreement in everything but the names. -/
structure Agrees (descriptor pattern : Descriptor) : Prop where
  vendor : TextsAgree descriptor.vendor pattern.vendor
  deviceType : TextsAgree descriptor.deviceType pattern.deviceType
  version : descriptor.version.fits pattern.version = true

theorem Agrees.refl (descriptor : Descriptor) : descriptor.Agrees descriptor where
  vendor _ _ := rfl
  deviceType _ _ := rfl
  version := Version.fits_refl descriptor.version

/-- The same name, and vendor and type as they were or left open. -/
structure Opens (descriptor opened : Descriptor) : Prop where
  name_eq : opened.name = descriptor.name
  vendor : KeptOrOpen descriptor.vendor opened.vendor
  deviceType : KeptOrOpen descriptor.deviceType opened.deviceType

theorem Agrees.opened {descriptor opened pattern wider : Descriptor}
    (h : descriptor.Agrees pattern) (hopened : Opens descriptor opened)
    (hversion : opened.version = descriptor.version) (hwider : Opens pattern wider)
    (hadmits : pattern.version.fits wider.version = true) : opened.Agrees wider where
  vendor := h.vendor.opened hopened.vendor hwider.vendor
  deviceType := h.deviceType.opened hopened.deviceType hwider.deviceType
  version := by
    rw [hversion]
    exact Version.fits_trans h.version hadmits

/-! ## Names -/

theorem satisfies_of_named {descriptor pattern : Descriptor} (hname : descriptor.name ≠ "")
    (hpattern : pattern.name ≠ "") :
    descriptor.satisfies pattern = true ↔ descriptor.name = pattern.name := by
  rw [satisfies, if_pos ⟨hname, hpattern⟩, beq_iff_eq]

theorem satisfies_eq_of_unnamed {descriptor pattern : Descriptor}
    (h : descriptor.name = "" ∨ pattern.name = "") :
    descriptor.satisfies pattern = (textFits descriptor.vendor pattern.vendor &&
      textFits descriptor.deviceType pattern.deviceType &&
      descriptor.version.fits pattern.version) := by
  apply if_neg
  intro hboth
  obtain hname | hname := h
  · exact hboth.1 hname
  · exact hboth.2 hname

theorem satisfies_of_unnamed {descriptor pattern : Descriptor}
    (h : descriptor.name = "" ∨ pattern.name = "") :
    descriptor.satisfies pattern = true ↔ descriptor.Agrees pattern := by
  rw [satisfies_eq_of_unnamed h, Bool.and_eq_true, Bool.and_eq_true, textFits_iff, textFits_iff]
  constructor
  · intro hall
    exact ⟨hall.1.1, hall.1.2, hall.2⟩
  · intro hagrees
    exact ⟨⟨hagrees.vendor, hagrees.deviceType⟩, hagrees.version⟩

theorem satisfies_refl (descriptor : Descriptor) : descriptor.satisfies descriptor = true := by
  by_cases hname : descriptor.name = ""
  · exact (satisfies_of_unnamed (.inl hname)).mpr (.refl descriptor)
  · rw [satisfies_of_named hname hname]

theorem satisfies_opened {descriptor opened pattern wider : Descriptor}
    (h : descriptor.satisfies pattern = true) (hopened : Opens descriptor opened)
    (hversion : opened.version = descriptor.version) (hwider : Opens pattern wider)
    (hadmits : pattern.version.fits wider.version = true) : opened.satisfies wider = true := by
  by_cases hunnamed : descriptor.name = "" ∨ pattern.name = ""
  · have hstill : opened.name = "" ∨ wider.name = "" := by
      rw [hopened.name_eq, hwider.name_eq]
      exact hunnamed
    rw [satisfies_of_unnamed hunnamed] at h
    rw [satisfies_of_unnamed hstill]
    exact h.opened hopened hversion hwider hadmits
  · obtain ⟨hname, hpattern⟩ := not_or.mp hunnamed
    rw [satisfies_of_named hname hpattern] at h
    rw [← hopened.name_eq] at hname
    rw [← hwider.name_eq] at hpattern
    rw [satisfies_of_named hname hpattern, hopened.name_eq, hwider.name_eq]
    exact h

/-- As long as one side has no name, it does not matter which names there are. -/
theorem satisfies_renamed {descriptor pattern : Descriptor} {name patternName : String}
    (h : descriptor.name = "" ∨ pattern.name = "") (hrenamed : name = "" ∨ patternName = "") :
    { descriptor with name }.satisfies { pattern with name := patternName } =
      descriptor.satisfies pattern := by
  rw [satisfies_eq_of_unnamed h, satisfies_eq_of_unnamed hrenamed]

/-- Every descriptor satisfies itself, and what satisfies a pattern satisfies every wider one, also
with its own vendor or type left open. Two names decide alone, by being equal. While one is missing,
names do not count: vendor and type have to agree and the version has to fit. -/
theorem satisfies_wider :
    (∀ device : Descriptor, device.satisfies device) ∧
    (∀ device opened pattern wider : Descriptor, device.satisfies pattern →
      Opens device opened → opened.version = device.version →
      Opens pattern wider → pattern.version.fits wider.version → opened.satisfies wider) ∧
    (∀ device pattern : Descriptor, device.name ≠ "" → pattern.name ≠ "" →
      (device.satisfies pattern ↔ device.name = pattern.name)) ∧
    ∀ device pattern : Descriptor, device.name = "" ∨ pattern.name = "" →
      (device.satisfies pattern ↔ device.Agrees pattern) ∧
      ∀ name patternName : String, name = "" ∨ patternName = "" →
        { device with name }.satisfies { pattern with name := patternName } =
          device.satisfies pattern := by
  refine ⟨satisfies_refl, ?_, ?_, ?_⟩
  · intro device opened pattern wider h hopened hversion hwider hadmits
    exact satisfies_opened h hopened hversion hwider hadmits
  · intro device pattern hname hpattern
    exact satisfies_of_named hname hpattern
  · intro device pattern hunnamed
    refine ⟨satisfies_of_unnamed hunnamed, ?_⟩
    intro name patternName hrenamed
    exact satisfies_renamed hunnamed hrenamed

/-- A device found by vendor, type and version, and still with its vendor and the pattern's type
left open; by its name in spite of all else; and with names that do not count. -/
theorem satisfies_wider_gpio :
    let device : Descriptor := ⟨"leds", "xlnx", "axi_gpio", ⟨2, 0, 97⟩⟩
    let opened : Descriptor := ⟨"leds", "", "axi_gpio", ⟨2, 0, 97⟩⟩
    let pattern : Descriptor := ⟨"", "xlnx", "axi_gpio", ⟨2, 0, -1⟩⟩
    let wider : Descriptor := ⟨"", "xlnx", "", ⟨2, -1, -1⟩⟩
    let named : Descriptor := ⟨"leds", "ug4", "axi_uart", ⟨9, 9, 9⟩⟩
    device.satisfies pattern ∧ opened.satisfies wider ∧ device.satisfies named ∧
      satisfies { device with name := "" } { pattern with name := "buttons" } =
        device.satisfies pattern := by
  intro device opened pattern wider named
  obtain ⟨-, hwider, hnamed, hunnamed⟩ := satisfies_wider
  have hdevice : device.satisfies pattern := by decide +kernel
  have hopened : Opens device opened := ⟨rfl, .inr rfl, .inl rfl⟩
  have hpattern : Opens pattern wider := ⟨rfl, .inl rfl, .inr rfl⟩
  have hadmits : pattern.version.fits wider.version := by decide
  exact ⟨hdevice, hwider device opened pattern wider hdevice hopened rfl hpattern hadmits,
    (hnamed device named (by decide) (by decide)).mpr rfl,
    (hunnamed device pattern (.inr rfl)).2 "" "buttons" (.inl rfl)⟩

end RegisterLink.Descriptor
