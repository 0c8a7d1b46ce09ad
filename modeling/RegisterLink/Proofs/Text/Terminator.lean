import Mathlib.Algebra.Group.Nat.Defs
import Mathlib.Data.List.TakeWhile
import Mathlib.Tactic.SplitIfs
import RegisterLink.Text.Utf8.RoundTrip

/-!
# The character that ends a text

In a field of fixed width the first zero byte ends the text. UTF-8 writes a zero byte for the zero
character and for no other, so the bytes in front of the first zero byte are those of the text in
front of its first zero character. The other way round, bytes without a zero are never read as a
zero character, not even where they are broken.
-/
namespace RegisterLink.Utf8

def nul : Char := Char.ofNat 0

def NulFree (text : String) : Prop := nul ∉ text.toList

instance (text : String) : Decidable (NulFree text) :=
  inferInstanceAs (Decidable (nul ∉ text.toList))

/-- A text up to its first zero character. -/
def beforeNul (text : String) : String :=
  String.ofList (text.toList.takeWhile (· != nul))

theorem beforeNul_of_nulFree {text : String} (h : NulFree text) : beforeNul text = text := by
  have hall : ∀ c ∈ text.toList, (c != nul) = true := by
    intro c hc
    rw [bne_iff_ne]
    exact fun hnul => h (hnul ▸ hc)
  rw [beforeNul, List.takeWhile_eq_self_iff.mpr hall, String.ofList_toList]

/-! ## Writing -/

theorem ofNat_ne_zero {n : Nat} (hpos : 0 < n) (hlt : n < 256) : UInt8.ofNat n ≠ 0 := by
  intro h
  have hn := congrArg UInt8.toNat h
  rw [UInt8.toNat_ofNat', UInt8.toNat_zero] at hn
  omega

theorem ne_zero_of_mem_encodeChar {c : Char} (h : c ≠ nul) {byte : UInt8}
    (hmem : byte ∈ String.utf8EncodeChar c) : byte ≠ 0 := by
  have hpos : c.val.toNat ≠ 0 := by
    intro hzero
    apply h
    rw [← Char.ofNat_toNat c]
    exact congrArg Char.ofNat hzero
  unfold String.utf8EncodeChar at hmem
  dsimp only at hmem
  split_ifs at hmem <;> simp only [List.mem_cons, List.not_mem_nil, or_false] at hmem
  · subst hmem
    exact ofNat_ne_zero (by omega) (by omega)
  · rcases hmem with rfl | rfl <;> exact ofNat_ne_zero (by omega) (by omega)
  · rcases hmem with rfl | rfl | rfl <;> exact ofNat_ne_zero (by omega) (by omega)
  · rcases hmem with rfl | rfl | rfl | rfl <;> exact ofNat_ne_zero (by omega) (by omega)

theorem takeWhile_encodeChars (text : List Char) (filling : Nat) :
    (text.flatMap String.utf8EncodeChar ++ List.replicate filling 0).takeWhile (· != 0) =
      (text.takeWhile (· != nul)).flatMap String.utf8EncodeChar := by
  induction text with
  | nil => simp
  | cons c text ih =>
    by_cases hnul : c = nul
    · subst hnul
      rfl
    · have hpass : ∀ byte ∈ String.utf8EncodeChar c, (byte != 0) = true := fun byte hbyte =>
        bne_iff_ne.mpr (ne_zero_of_mem_encodeChar hnul hbyte)
      rw [List.flatMap_cons, List.append_assoc, List.takeWhile_append_of_pos hpass, ih,
        List.takeWhile_cons, if_pos (bne_iff_ne.mpr hnul), List.flatMap_cons]

/-- Bytes end where the text does that they are read as. -/
theorem takeWhile_encode (text : String) (filling : Nat) :
    (encode text ++ List.replicate filling 0).takeWhile (· != 0) = encode (beforeNul text) := by
  rw [encode, encode, beforeNul, String.toList_ofList, takeWhile_encodeChars]

/-! ## Reading -/

/-- A number that bytes in the expected ranges can bring a character under way to. -/
inductive Pending.Reaches : Pending → Nat → Prop
  | ends {bits low high byte : Nat} (least : low ≤ byte) (most : byte ≤ high) :
      Reaches { more := 0, bits, low, high } (64 * bits + (byte - 0x80))
  | goesOn {more bits low high byte n : Nat} (least : low ≤ byte) (most : byte ≤ high)
      (further : Reaches { more, bits := 64 * bits + (byte - 0x80) } n) :
      Reaches { more := more + 1, bits, low, high } n

def Pending.least (pending : Pending) : Nat :=
  64 ^ pending.more * (64 * pending.bits + (pending.low - 0x80))

def Pending.limit (pending : Pending) : Nat :=
  64 ^ pending.more * (64 * pending.bits + (pending.high - 0x80) + 1)

/-- The expected ranges bound what a character under way can become. -/
theorem Pending.Reaches.between {pending : Pending} {n : Nat} (h : pending.Reaches n) :
    pending.least ≤ n ∧ n < pending.limit := by
  induction h with
  | ends least most =>
    unfold Pending.least Pending.limit
    dsimp only
    omega
  | goesOn least most further ih =>
    obtain ⟨hleast, hmost⟩ := ih
    unfold Pending.least at hleast ⊢
    unfold Pending.limit at hmost ⊢
    dsimp only at hleast hmost ⊢
    rw [Nat.pow_succ, Nat.mul_assoc, Nat.mul_assoc]
    constructor
    · refine Nat.le_trans (Nat.mul_le_mul_left _ ?_) hleast
      omega
    · refine Nat.lt_of_lt_of_le hmost (Nat.mul_le_mul_left _ ?_)
      omega

/-- Whatever bytes complete it, a character under way becomes a character other than the zero
character. -/
def Pending.Sound (pending : Pending) : Prop :=
  ∀ n, pending.Reaches n → 0 < n ∧ n.isValidChar

theorem Pending.sound_of_bounds {pending : Pending}
    (h : 0 < pending.least ∧
      (pending.limit ≤ 0xD800 ∨ 0xDFFF < pending.least ∧ pending.limit ≤ 0x110000)) :
    pending.Sound := by
  intro n hn
  obtain ⟨hleast, hgap⟩ := h
  obtain ⟨hlower, hupper⟩ := hn.between
  refine ⟨Nat.lt_of_lt_of_le hleast hlower, ?_⟩
  show n < 0xD800 ∨ 0xDFFF < n ∧ n < 0x110000
  omega

/-- What a byte between two characters comes to. -/
inductive Starting (byte : UInt8) : List Char × Option Pending → Prop
  | ascii (small : byte.toNat < 0x80) : Starting byte ([Char.ofNat byte.toNat], none)
  | broken : Starting byte ([replacement], none)
  | begun {pending : Pending} (sound : pending.Sound) : Starting byte ([], some pending)

theorem start_starting (byte : UInt8) : Starting byte (start byte) := by
  -- The narrower ranges behind E0, ED, F0 and F4 shut out what lies below and between characters.
  unfold start
  dsimp only
  split
  · exact .ascii ‹_›
  split
  · exact .broken
  split
  · refine .begun (Pending.sound_of_bounds ?_)
    unfold Pending.least Pending.limit
    dsimp only
    omega
  split
  · exact .begun (Pending.sound_of_bounds (by decide))
  split
  · exact .begun (Pending.sound_of_bounds (by decide))
  split
  · refine .begun (Pending.sound_of_bounds ?_)
    unfold Pending.least Pending.limit
    dsimp only
    omega
  split
  · exact .begun (Pending.sound_of_bounds (by decide))
  split
  · refine .begun (Pending.sound_of_bounds ?_)
    unfold Pending.least Pending.limit
    dsimp only
    omega
  split
  · exact .begun (Pending.sound_of_bounds (by decide))
  · exact .broken

theorem sound_of_start {byte : UInt8} {pending : Pending}
    (h : (start byte).2 = some pending) : pending.Sound := by
  have hstarting := start_starting byte
  generalize start byte = result at h hstarting
  cases hstarting with
  | ascii small => cases h
  | broken => cases h
  | begun sound => exact Option.some.inj h ▸ sound

theorem ofNat_ne_nul {n : Nat} (hpos : 0 < n) (hvalid : n.isValidChar) : Char.ofNat n ≠ nul := by
  intro h
  have hn : (Char.ofNat n).toNat = n := by
    rw [Char.ofNat, dif_pos hvalid]
    rfl
  rw [h] at hn
  exact absurd hn (Nat.ne_of_lt hpos)

theorem replacement_ne_nul : replacement ≠ nul := by decide

theorem nul_not_mem_start {byte : UInt8} (h : byte ≠ 0) : nul ∉ (start byte).1 := by
  have hstarting := start_starting byte
  generalize start byte = result at hstarting
  cases hstarting with
  | ascii small =>
    have hpos : 0 < byte.toNat := Nat.pos_of_ne_zero fun hzero => h (UInt8.toNat_inj.mp hzero)
    have hvalid : byte.toNat.isValidChar := Or.inl (by omega)
    exact fun hmem => ofNat_ne_nul hpos hvalid (List.mem_singleton.mp hmem).symm
  | broken => exact fun hmem => replacement_ne_nul (List.mem_singleton.mp hmem).symm
  | begun sound => exact List.not_mem_nil

/-- A byte inside a character finishes a sound one, keeps it sound, or is read afresh. -/
theorem resume_sound {pending next : Pending} {byte : UInt8} (h : pending.Sound)
    (hnext : (resume pending byte).2 = some next) : next.Sound := by
  obtain ⟨more, bits, low, high⟩ := pending
  by_cases hrange : low ≤ byte.toNat ∧ byte.toNat ≤ high
  · cases more with
    | zero => simp [resume, hrange] at hnext
    | succ more =>
      simp only [resume, if_pos hrange, Option.some.injEq] at hnext
      subst hnext
      exact fun n hn => h n (.goesOn hrange.1 hrange.2 hn)
  · simp only [resume, if_neg hrange] at hnext
    exact sound_of_start hnext

theorem nul_not_mem_resume {pending : Pending} {byte : UInt8} (h : pending.Sound)
    (hbyte : byte ≠ 0) : nul ∉ (resume pending byte).1 := by
  obtain ⟨more, bits, low, high⟩ := pending
  by_cases hrange : low ≤ byte.toNat ∧ byte.toNat ≤ high
  · cases more with
    | zero =>
      simp only [resume, if_pos hrange, List.mem_singleton]
      obtain ⟨hpos, hvalid⟩ := h _ (.ends hrange.1 hrange.2)
      exact (ofNat_ne_nul hpos hvalid).symm
    | succ more => simp [resume, hrange]
  · simp only [resume, if_neg hrange, List.mem_cons, not_or]
    exact ⟨replacement_ne_nul.symm, nul_not_mem_start hbyte⟩

theorem nul_not_mem_decodeFrom {bytes : List UInt8} (hbytes : 0 ∉ bytes) {state : Option Pending}
    (hstate : ∀ pending, state = some pending → pending.Sound) :
    nul ∉ decodeFrom state bytes := by
  induction bytes generalizing state with
  | nil =>
    cases state with
    | none => simp [decodeFrom]
    | some pending => simp [decodeFrom, replacement_ne_nul.symm]
  | cons byte rest ih =>
    have hbyte : byte ≠ 0 := fun hzero => hbytes (hzero ▸ List.mem_cons_self)
    have hrest : 0 ∉ rest := fun hmem => hbytes (List.mem_cons_of_mem _ hmem)
    rw [decodeFrom_cons, List.mem_append, not_or]
    cases state with
    | none => exact ⟨nul_not_mem_start hbyte, ih hrest fun next => sound_of_start⟩
    | some pending =>
      have hsound := hstate pending rfl
      exact ⟨nul_not_mem_resume hsound hbyte, ih hrest fun next => resume_sound hsound⟩

/-- What is read from bytes without a zero has no zero character, however broken they are. -/
theorem nulFree_decode {bytes : List UInt8} (h : 0 ∉ bytes) : NulFree (decode bytes) := by
  have hstart : ∀ pending : Pending, none = some pending → pending.Sound := by
    intro pending hpending
    cases hpending
  rw [NulFree, decode, String.toList_ofList]
  exact nul_not_mem_decodeFrom h hstart

end RegisterLink.Utf8
