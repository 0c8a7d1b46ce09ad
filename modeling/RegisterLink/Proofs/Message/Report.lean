import RegisterLink.Error
import RegisterLink.Proofs.Bytes.Word
import RegisterLink.Proofs.Text.CutOff

/-!
# Error reports there and back

A report is read back with its code and with its text up to the first zero character, as far as that
fits into the room of the text. If the cut falls inside a character, a replacement stands for it;
reading that back once more changes nothing. A body need only be long enough for a code: whatever
else is in it is read as text, up to a zero byte or the end of the room.
-/
namespace RegisterLink.ErrorReport

/-! ## Bodies -/

/-- The bytes of a body: those of the code, those of the text, and those that are ignored. -/
structure Layout (body code text ignored : List UInt8) : Prop where
  body_eq : body = code ++ (text ++ ignored)
  code_size : code.length = 4
  text_size : text.length ≤ 1024
  unterminated : 0 ∉ text
  ended : text.length = 1024 ∨ ignored = [] ∨ ignored.head? = some 0

theorem Layout.visible {body code text ignored : List UInt8} (h : Layout body code text ignored) :
    ((text ++ ignored).take maxReportTextSize).takeWhile (· != 0) = text := by
  have hpass : ∀ byte ∈ text, (byte != 0) = true := by
    intro byte hbyte
    rw [bne_iff_ne]
    exact fun hzero => h.unterminated (hzero ▸ hbyte)
  have hrest : (ignored.take (maxReportTextSize - text.length)).takeWhile (· != 0) = [] := by
    rcases h.ended with hfull | rfl | hzero
    · rw [hfull, maxReportTextSize, Nat.sub_self, List.take_zero, List.takeWhile_nil]
    · rw [List.take_nil, List.takeWhile_nil]
    · obtain ⟨more, rfl⟩ := List.head?_eq_some_iff.mp hzero
      cases maxReportTextSize - text.length with
      | zero => rfl
      | succ room => rfl
  have htext : text.take maxReportTextSize = text := List.take_of_length_le h.text_size
  rw [List.take_append, htext, List.takeWhile_append_of_pos hpass, hrest, List.append_nil]

theorem decode_of_layout {body code text ignored : List UInt8}
    (h : Layout body code text ignored) :
    decode body = .ok ⟨Word.decodeInt32 code, Utf8.decode text⟩ := by
  have hlong : ¬ body.length < 4 := by
    rw [h.body_eq, List.length_append, h.code_size]
    omega
  rw [decode, if_neg hlong, h.body_eq]
  dsimp only
  rw [List.drop_left' h.code_size, List.take_left' h.code_size, h.visible]

/-- Bytes up to a zero are all there are, or the zero comes next. -/
theorem dropWhile_ended (bytes : List UInt8) :
    bytes.dropWhile (· != 0) = [] ∨ (bytes.dropWhile (· != 0)).head? = some 0 := by
  have hnot := List.head?_dropWhile_not (· != (0 : UInt8)) bytes
  cases hdrop : bytes.dropWhile (· != 0) with
  | nil => exact Or.inl rfl
  | cons byte rest =>
    rw [hdrop] at hnot
    have hzero : byte = 0 := by simpa using hnot
    exact Or.inr (congrArg some hzero)

/-- Every body with room for a code can be read. -/
theorem exists_layout {body : List UInt8} (h : 4 ≤ body.length) :
    ∃ code text ignored, Layout body code text ignored := by
  let room := (body.drop 4).take 1024
  have hsplit : body.drop 4 =
      room.takeWhile (· != 0) ++ (room.dropWhile (· != 0) ++ (body.drop 4).drop 1024) := by
    rw [← List.append_assoc, List.takeWhile_append_dropWhile, List.take_append_drop]
  have hroom : room.length ≤ 1024 := List.length_take_le _ _
  refine ⟨body.take 4, room.takeWhile (· != 0),
    room.dropWhile (· != 0) ++ (body.drop 4).drop 1024, ?_, List.length_take_of_le h,
    Nat.le_trans (List.takeWhile_prefix _).length_le hroom, fun hzero => ?_, ?_⟩
  · exact (List.take_append_drop 4 body).symm.trans (congrArg (body.take 4 ++ ·) hsplit)
  · exact absurd (List.mem_takeWhile_imp hzero) (by decide)
  · rcases dropWhile_ended room with hnone | hzero
    · have hall : room.takeWhile (· != 0) ++ room.dropWhile (· != 0) = room :=
        List.takeWhile_append_dropWhile
      rw [hnone, List.append_nil] at hall
      rw [hall, hnone, List.nil_append]
      by_cases hshort : (body.drop 4).length ≤ 1024
      · exact Or.inr (Or.inl (List.drop_eq_nil_of_le hshort))
      · exact Or.inl (List.length_take_of_le (by omega))
    · exact Or.inr (Or.inr (by rw [List.head?_append, hzero]; rfl))

/-- Bytes behind the room of the text have no part in what is read. -/
theorem decode_take (body : List UInt8) : decode (body.take 1028) = decode body := by
  have hlength : (body.take 1028).length < 4 ↔ body.length < 4 := by
    rw [List.length_take]
    omega
  by_cases hshort : body.length < 4
  · rw [List.take_of_length_le (by omega)]
  · have hcode : (body.take 1028).take 4 = body.take 4 := by rw [List.take_take]; rfl
    have htext : ((body.take 1028).drop 4).take maxReportTextSize =
        (body.drop 4).take maxReportTextSize := by
      rw [List.drop_take, List.take_take]
      rfl
    rw [decode, decode, if_neg hshort, if_neg (hlength.not.mpr hshort)]
    dsimp only
    rw [hcode, htext]

theorem nulFree_of_decode {body : List UInt8} {report : ErrorReport}
    (h : decode body = .ok report) : Utf8.NulFree report.text := by
  unfold decode at h
  split at h
  · cases h
  · obtain rfl := Except.ok.inj h
    exact Utf8.nulFree_decode fun hzero => absurd (List.mem_takeWhile_imp hzero) (by decide)

/-! ## Texts -/

/-- A text as it is read back when 1024 of its bytes are kept. -/
inductive Clipped (text : String) : String → Prop
  | whole (fits : (Utf8.encode text).length ≤ 1024) : Clipped text text
  | full {front : String} (long : 1024 < (Utf8.encode text).length)
      (fitting : Utf8.Fitting 1024 text front) (filled : (Utf8.encode front).length = 1024) :
      Clipped text front
  | split {front : String} (long : 1024 < (Utf8.encode text).length)
      (fitting : Utf8.Fitting 1024 text front) (unfilled : (Utf8.encode front).length < 1024) :
      Clipped text (front.push '\ufffd')

theorem clipped_decode_take (text : String) :
    Clipped text (Utf8.decode ((Utf8.encode text).take 1024)) := by
  by_cases hfits : (Utf8.encode text).length ≤ 1024
  · rw [List.take_of_length_le hfits, Utf8.decode_encode]
    exact .whole hfits
  · have hlong := Nat.lt_of_not_le hfits
    obtain ⟨front, hfitting⟩ := Utf8.exists_fitting 1024 text
    rw [hfitting.decode_take hlong]
    by_cases hfilled : (Utf8.encode front).length = 1024
    · rw [if_pos hfilled]
      exact .full hlong hfitting hfilled
    · rw [if_neg hfilled]
      exact .split hlong hfitting (Nat.lt_of_le_of_ne hfitting.length_le hfilled)

/-- What was clipped once is not clipped again. -/
theorem Clipped.again {text once twice : String} (h : Clipped text once)
    (hagain : Clipped once twice) : twice = once := by
  cases h with
  | whole fits =>
    cases hagain with
    | whole => rfl
    | full long => exact absurd fits (Nat.not_le.mpr long)
    | split long => exact absurd fits (Nat.not_le.mpr long)
  | full _ _ filled =>
    cases hagain with
    | whole => rfl
    | full long => exact absurd filled (Nat.ne_of_gt long)
    | split long => exact absurd filled (Nat.ne_of_gt long)
  | @split front _ fitting unfilled =>
    -- The replacement may not fit in its turn. Then the same characters do, and it comes again.
    have hsame : ∀ {other : String}, 1024 < (Utf8.encode (front.push '\ufffd')).length →
        Utf8.Fitting 1024 (front.push '\ufffd') other → other = front := by
      intro other long hother
      refine String.toList_inj.mp (LongestPrefix.unique hother ⟨?_, fitting.front_fits, ?_⟩)
      · rw [String.toList_push]
        exact List.prefix_append _ _
      · intro chars hchars hfits
        rw [String.toList_push, List.prefix_concat_iff] at hchars
        rcases hchars with rfl | hchars
        · rw [← String.toList_push, String.ofList_toList] at hfits
          exact absurd hfits (Nat.not_le.mpr long)
        · exact hchars
    cases hagain with
    | whole => rfl
    | full long fitting filled =>
      obtain rfl := hsame long fitting
      exact absurd filled (Nat.ne_of_lt unfilled)
    | split long fitting unfilled => rw [hsame long fitting]

/-! ## Reports -/

theorem decode_encode (code : Int32) (text : String) :
    decode (encode ⟨code, text⟩) =
      .ok ⟨code, Utf8.decode ((Utf8.encode (Utf8.beforeNul text)).take 1024)⟩ := by
  have hcode := Word.length_encodeInt32 code
  have hlong : ¬ (encode ⟨code, text⟩).length < 4 := by
    rw [encode, List.length_append, hcode]
    omega
  have hvisible : (((Utf8.encode text).take maxReportTextSize).take maxReportTextSize).takeWhile
      (· != 0) = (Utf8.encode (Utf8.beforeNul text)).take 1024 := by
    have hzero := Utf8.takeWhile_encode text 0
    rw [List.replicate_zero, List.append_nil] at hzero
    rw [List.take_take, Nat.min_self, ← List.take_takeWhile, hzero]
    rfl
  rw [decode, if_neg hlong, encode]
  dsimp only
  rw [List.drop_left' hcode, List.take_left' hcode, hvisible, Word.decodeInt32_encodeInt32]

theorem decode_encode_again {report once : ErrorReport} (h : decode (encode report) = .ok once) :
    decode (encode once) = .ok once := by
  have hnulFree := nulFree_of_decode h
  rw [decode_encode] at h
  obtain rfl := Except.ok.inj h
  have hclipped := clipped_decode_take (Utf8.beforeNul report.text)
  rw [decode_encode, Utf8.beforeNul_of_nulFree hnulFree, hclipped.again (clipped_decode_take _)]

/-- Code and text come back, the text up to its first zero character and clipped, and once more they
come back as they are. Every body of four bytes or more is read, whatever is ignored of it. -/
theorem report_read_back :
    (∀ code text, ∃ kept, decode (encode ⟨code, text⟩) = .ok ⟨code, kept⟩ ∧
      Clipped (Utf8.beforeNul text) kept) ∧
    (∀ report once, decode (encode report) = .ok once → decode (encode once) = .ok once) ∧
    (∀ body, 4 ≤ body.length → ∃ code text ignored report, Layout body code text ignored ∧
      decode body = .ok report ∧
        ∀ other more, Layout other code text more → decode other = .ok report) ∧
    (∀ body, decode (body.take 1028) = decode body) ∧
    ∀ body, body.length < 4 → Malformed.reported (decode body) =
      .error (.protocol (.malformed (.reportTooShort body.length))) := by
  refine ⟨fun code text => ⟨_, decode_encode code text, clipped_decode_take _⟩,
    fun report once => decode_encode_again, fun body hlong => ?_, decode_take,
    fun body hshort => ?_⟩
  · obtain ⟨code, text, ignored, hlayout⟩ := exists_layout hlong
    exact ⟨code, text, ignored, _, hlayout, decode_of_layout hlayout,
      fun other more hother => decode_of_layout hother⟩
  · rw [decode, if_pos hshort]
    rfl

/-- The cut falls inside the last character, and its replacement does not fit in its turn. -/
theorem report_read_back_split :
    let front := List.replicate 1023 'a'
    let text := String.ofList (front ++ ['é'])
    let kept := String.ofList (front ++ ['\ufffd'])
    (Utf8.encode text).length = 1025 ∧ (Utf8.encode kept).length = 1026 ∧
      decode (encode ⟨4, text⟩) = .ok ⟨4, kept⟩ ∧ decode (encode ⟨4, kept⟩) = .ok ⟨4, kept⟩ ∧
      Malformed.reported (decode [4, 0]) = .error (.protocol (.malformed (.reportTooShort 2))) := by
  intro front text kept
  have hbytes : ∀ c, Utf8.encode (String.ofList (front ++ [c])) =
      front.flatMap String.utf8EncodeChar ++ String.utf8EncodeChar c := by
    intro c
    rw [Utf8.encode, String.toList_ofList, List.flatMap_append, List.flatMap_singleton]
  have hsize : (front.flatMap String.utf8EncodeChar).length = 1023 := by
    rw [List.length_flatMap, List.map_replicate, List.sum_replicate_nat]
    rfl
  have hnulFree : Utf8.NulFree text := by
    rw [Utf8.NulFree, String.toList_ofList, List.mem_append, List.mem_replicate]
    decide
  have honce : decode (encode ⟨4, text⟩) = .ok ⟨4, kept⟩ := by
    have hfits : (front.flatMap String.utf8EncodeChar).length ≤ 1024 := by omega
    rw [decode_encode, Utf8.beforeNul_of_nulFree hnulFree, hbytes, List.take_append,
      List.take_of_length_le hfits, hsize, Utf8.decode, Utf8.decodeFrom_encode_append]
    rfl
  refine ⟨?_, ?_, honce, report_read_back.2.1 _ _ honce,
    report_read_back.2.2.2.2 [4, 0] (by decide)⟩
  · rw [hbytes, List.length_append, hsize]
    rfl
  · rw [hbytes, List.length_append, hsize]
    rfl

end RegisterLink.ErrorReport
