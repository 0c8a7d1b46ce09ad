import RegisterLink.Text.Utf8

/-!
# Written text reads back

The bytes a character is written as carry the reader through one byte range after the other and
leave it between two characters again, so that any text is read back from its bytes, whatever
follows them.
-/
namespace RegisterLink.Utf8

theorem start_ascii {n : Nat} (h : n < 0x80) : start (UInt8.ofNat n) = ([Char.ofNat n], none) := by
  have hb : (UInt8.ofNat n).toNat = n := by rw [UInt8.toNat_ofNat']; omega
  simp only [start, hb, if_pos h]

theorem start_two {n : Nat} (low : 2 ≤ n) (high : n < 32) :
    start (UInt8.ofNat (n + 192)) = ([], some { more := 0, bits := n }) := by
  have hb : (UInt8.ofNat (n + 192)).toNat = n + 192 := by rw [UInt8.toNat_ofNat']; omega
  have h1 : ¬ n + 192 < 0x80 := by omega
  have h2 : ¬ n + 192 < 0xC2 := by omega
  have h3 : n + 192 < 0xE0 := by omega
  simp only [start, hb, if_neg h1, if_neg h2, if_pos h3, Nat.add_sub_cancel]

/-- The byte that begins a character of three bytes, and the range it leaves for the next. -/
theorem start_three {n : Nat} (h : n < 16) :
    start (UInt8.ofNat (n + 224)) =
      ([], some { more := 1, bits := n, low := if n = 0 then 0xA0 else 0x80,
                  high := if n = 13 then 0x9F else 0xBF }) := by
  have hb : (UInt8.ofNat (n + 224)).toNat = n + 224 := by rw [UInt8.toNat_ofNat']; omega
  have h1 : ¬ n + 224 < 0x80 := by omega
  have h2 : ¬ n + 224 < 0xC2 := by omega
  have h3 : ¬ n + 224 < 0xE0 := by omega
  have h4 : n + 224 < 0xF0 := by omega
  by_cases hzero : n = 0
  · subst hzero; rfl
  by_cases hthirteen : n = 13
  · subst hthirteen; rfl
  have h5 : ¬ n + 224 = 0xE0 := by omega
  have h6 : ¬ n + 224 = 0xED := by omega
  simp only [start, hb, if_neg h1, if_neg h2, if_neg h3, if_neg h5, if_neg h6, if_pos h4,
    if_neg hzero, if_neg hthirteen, Nat.add_sub_cancel]

/-- The byte that begins a character of four bytes, and the range it leaves for the next. -/
theorem start_four {n : Nat} (h : n < 5) :
    start (UInt8.ofNat (n + 240)) =
      ([], some { more := 2, bits := n, low := if n = 0 then 0x90 else 0x80,
                  high := if n = 4 then 0x8F else 0xBF }) := by
  have : n = 0 ∨ n = 1 ∨ n = 2 ∨ n = 3 ∨ n = 4 := by omega
  rcases this with rfl | rfl | rfl | rfl | rfl <;> rfl

/-- A byte in the range that is expected adds six bits. -/
theorem resume_within {pending : Pending} {n : Nat} (hn : n < 64)
    (low : pending.low ≤ n + 128) (high : n + 128 ≤ pending.high) :
    resume pending (UInt8.ofNat (n + 128)) =
      match pending.more with
      | 0 => ([Char.ofNat (64 * pending.bits + n)], none)
      | more + 1 => ([], some { more, bits := 64 * pending.bits + n }) := by
  have hb : (UInt8.ofNat (n + 128)).toNat = n + 128 := by rw [UInt8.toNat_ofNat']; omega
  obtain ⟨more, bits, least, most⟩ := pending
  cases more <;> simp only [resume, hb, if_pos (And.intro low high), Nat.add_sub_cancel]

theorem decodeFrom_cons (state : Option Pending) (byte : UInt8) (rest : List UInt8) :
    decodeFrom state (byte :: rest) =
      (step state byte).1 ++ decodeFrom (step state byte).2 rest := by
  cases state <;> rfl

/-- A whole character reads back, whatever follows it. -/
theorem decodeFrom_encodeChar (c : Char) (rest : List UInt8) :
    decodeFrom none (String.utf8EncodeChar c ++ rest) = c :: decodeFrom none rest := by
  have hc : c.val.toNat = c.toNat := rfl
  have hvalid : c.toNat < 55296 ∨ 57343 < c.toNat ∧ c.toNat < 1114112 := c.valid
  have hback : Char.ofNat c.toNat = c := Char.ofNat_toNat c
  generalize hn : c.toNat = n at *
  rw [String.utf8EncodeChar, hc]
  by_cases h1 : n ≤ 127
  · simp only [if_pos h1, List.cons_append, List.nil_append, decodeFrom_cons, step]
    rw [start_ascii (by omega), hback]
    rfl
  by_cases h2 : n ≤ 2047
  · have hlead : n / 64 % 32 = n / 64 := by omega
    simp only [if_neg h1, if_pos h2, hlead, List.cons_append, List.nil_append, decodeFrom_cons, step]
    rw [start_two (by omega) (by omega)]
    simp only [List.nil_append]
    rw [resume_within (by omega) (by simp) (by simp; omega)]
    have hbits : 64 * (n / 64) + n % 64 = n := by omega
    simp only [hbits, hback, List.cons_append, List.nil_append]
  by_cases h3 : n ≤ 65535
  · have hlead : n / 4096 % 16 = n / 4096 := by omega
    simp only [if_neg h1, if_neg h2, if_pos h3, hlead, List.cons_append, List.nil_append,
      decodeFrom_cons, step]
    rw [start_three (by omega)]
    simp only [List.nil_append]
    rw [resume_within (by omega) (by simp only; split <;> omega) (by simp only; split <;> omega)]
    simp only [List.nil_append]
    rw [resume_within (by omega) (by simp) (by simp; omega)]
    have hbits : 64 * (64 * (n / 4096) + n / 64 % 64) + n % 64 = n := by omega
    simp only [hbits, hback, List.cons_append, List.nil_append]
  · have hlead : n / 262144 % 8 = n / 262144 := by omega
    simp only [if_neg h1, if_neg h2, if_neg h3, hlead, List.cons_append, List.nil_append,
      decodeFrom_cons, step]
    rw [start_four (by omega)]
    simp only [List.nil_append]
    rw [resume_within (by omega) (by simp only; split <;> omega) (by simp only; split <;> omega)]
    simp only [List.nil_append]
    rw [resume_within (by omega) (by simp) (by simp; omega)]
    simp only [List.nil_append]
    rw [resume_within (by omega) (by simp) (by simp; omega)]
    have hbits : 64 * (64 * (64 * (n / 262144) + n / 4096 % 64) + n / 64 % 64) + n % 64 = n := by
      omega
    simp only [hbits, hback, List.cons_append, List.nil_append]

theorem decodeFrom_encode_append (text : List Char) (rest : List UInt8) :
    decodeFrom none (text.flatMap String.utf8EncodeChar ++ rest) = text ++ decodeFrom none rest := by
  induction text with
  | nil => rfl
  | cons c text ih => simp [List.flatMap_cons, decodeFrom_encodeChar, ih]

theorem decode_encode (text : String) : decode (encode text) = text := by
  have h := decodeFrom_encode_append text.toList []
  rw [List.append_nil] at h
  rw [decode, encode, h]
  simp [decodeFrom]

end RegisterLink.Utf8
