import RegisterLink.Proofs.List.Front
import RegisterLink.Proofs.Text.Terminator

/-!
# Text cut at a byte

A limit on bytes may fall inside a character. The bytes in front of the cut are then the characters
that fit, as many as possible, and a part of the next one, and that part is read as a single
replacement, however many bytes it has.
-/
namespace RegisterLink.Utf8

/-- What bytes finish, read from a given state, and what they leave under way. -/
def read : Option Pending → List UInt8 → List Char × Option Pending
  | state, [] => ([], state)
  | state, byte :: rest =>
    ((step state byte).1 ++ (read (step state byte).2 rest).1, (read (step state byte).2 rest).2)

theorem decodeFrom_append (state : Option Pending) (bytes rest : List UInt8) :
    decodeFrom state (bytes ++ rest) =
      (read state bytes).1 ++ decodeFrom (read state bytes).2 rest := by
  induction bytes generalizing state with
  | nil => rfl
  | cons byte bytes ih => rw [List.cons_append, decodeFrom_cons, ih, read, List.append_assoc]

/-- A byte finishes a character or leaves one under way. -/
theorem step_progress (state : Option Pending) (byte : UInt8) :
    (step state byte).1 ≠ [] ∨ (step state byte).2 ≠ none := by
  cases state with
  | none =>
    have hstarting := start_starting byte
    show (start byte).1 ≠ [] ∨ (start byte).2 ≠ none
    generalize start byte = result at hstarting
    cases hstarting with
    | ascii small => exact Or.inl (List.cons_ne_nil _ _)
    | broken => exact Or.inl (List.cons_ne_nil _ _)
    | begun sound => exact Or.inr (Option.some_ne_none _)
  | some pending =>
    obtain ⟨more, bits, low, high⟩ := pending
    by_cases hrange : low ≤ byte.toNat ∧ byte.toNat ≤ high
    · cases more <;> simp [step, resume, hrange]
    · simp [step, resume, hrange]

/-- Something is read unless there is nothing to read. -/
theorem decodeFrom_ne_nil {state : Option Pending} {bytes : List UInt8}
    (h : state ≠ none ∨ bytes ≠ []) : decodeFrom state bytes ≠ [] := by
  induction bytes generalizing state with
  | nil =>
    cases state with
    | none => exact absurd rfl (h.resolve_right (not_not_intro rfl))
    | some pending => exact List.cons_ne_nil _ _
  | cons byte rest ih =>
    rw [decodeFrom_cons]
    rcases step_progress state byte with hfinished | hbegun
    · exact List.append_ne_nil_of_left_ne_nil hfinished _
    · exact List.append_ne_nil_of_right_ne_nil _ (ih (Or.inl hbegun))

/-- A character that is cut inside is read as one replacement. -/
theorem decodeFrom_part {c : Char} {part rest : List UInt8}
    (h : String.utf8EncodeChar c = part ++ rest) (hpart : part ≠ []) (hrest : rest ≠ []) :
    decodeFrom none part = [replacement] := by
  have hwhole : (read none part).1 ++ decodeFrom (read none part).2 rest = [c] := by
    have hread := decodeFrom_encodeChar c []
    rwa [List.append_nil, h, decodeFrom_append] at hread
  -- One character is read from all bytes, and the rest has a share in it.
  have hfinished : (read none part).1 = [] := by
    rcases List.append_eq_singleton_iff.mp hwhole with ⟨hnone, -⟩ | ⟨-, hnone⟩
    · exact hnone
    · exact absurd hnone (decodeFrom_ne_nil (Or.inr hrest))
  have hends := decodeFrom_append none part []
  rw [List.append_nil, hfinished, List.nil_append] at hends
  have hread : decodeFrom none part ≠ [] := decodeFrom_ne_nil (Or.inr hpart)
  rw [hends] at hread ⊢
  cases hstate : (read none part).2 with
  | none => exact absurd (by rw [hstate]; rfl) hread
  | some pending => rfl

/-! ## The characters that fit -/

/-- The longest prefix of a text that takes no more bytes than the limit. -/
def Fitting (limit : Nat) (text front : String) : Prop :=
  LongestPrefix (fun chars => (encode (String.ofList chars)).length ≤ limit) text.toList front.toList

theorem length_encode_ofList (chars : List Char) :
    (encode (String.ofList chars)).length =
      (chars.map fun c => (String.utf8EncodeChar c).length).sum := by
  rw [encode, String.toList_ofList, List.length_flatMap]

theorem exists_fitting (limit : Nat) (text : String) : ∃ front, Fitting limit text front := by
  refine ⟨String.ofList (frontWithin (fun c => (String.utf8EncodeChar c).length) limit text.toList),
    ?_⟩
  unfold Fitting
  simp only [length_encode_ofList, String.toList_ofList]
  exact frontWithin_longest _ limit text.toList

namespace Fitting

variable {limit : Nat} {text front : String}

theorem length_le (h : Fitting limit text front) : (encode front).length ≤ limit := by
  have hfits := h.front_fits
  rwa [String.ofList_toList] at hfits

/-- Bytes cut at a limit are those of the characters that fit and a part of the next one. -/
theorem take_encode (h : Fitting limit text front) (hlong : limit < (encode text).length) :
    ∃ next part rest, String.utf8EncodeChar next = part ++ rest ∧ rest ≠ [] ∧
      part.length = limit - (encode front).length ∧
        (encode text).take limit = encode front ++ part := by
  have hwhole : ¬ (encode (String.ofList text.toList)).length ≤ limit := by
    rw [String.ofList_toList]
    exact Nat.not_le.mpr hlong
  obtain ⟨next, rest, htext, hnext⟩ := h.exists_next hwhole
  have hfits := h.length_le
  have hbytes : encode text =
      encode front ++ (String.utf8EncodeChar next ++ rest.flatMap String.utf8EncodeChar) := by
    rw [encode, htext, List.flatMap_append, List.flatMap_cons]
    rfl
  have hsize : limit - (encode front).length < (String.utf8EncodeChar next).length := by
    rw [encode, String.toList_ofList, List.flatMap_append, List.length_append,
      List.flatMap_singleton] at hnext
    change ¬ (encode front).length + _ ≤ limit at hnext
    omega
  refine ⟨next, (String.utf8EncodeChar next).take (limit - (encode front).length),
    (String.utf8EncodeChar next).drop (limit - (encode front).length),
    (List.take_append_drop _ _).symm, ?_, List.length_take_of_le (Nat.le_of_lt hsize), ?_⟩
  · exact List.ne_nil_of_length_pos (by rw [List.length_drop]; omega)
  · rw [hbytes, List.take_append, List.take_of_length_le hfits,
      List.take_append_of_le_length (Nat.le_of_lt hsize)]

/-- What is read from bytes cut at a limit. -/
theorem decode_take (h : Fitting limit text front) (hlong : limit < (encode text).length) :
    decode ((encode text).take limit) =
      if (encode front).length = limit then front else front.push replacement := by
  obtain ⟨next, part, rest, hnext, hrest, hlength, htake⟩ := h.take_encode hlong
  have hfits := h.length_le
  have hread : decode (encode front ++ part) =
      String.ofList (front.toList ++ decodeFrom none part) := by
    rw [decode, encode, decodeFrom_encode_append]
  rw [htake, hread]
  split
  · have hpart : part = [] := List.eq_nil_of_length_eq_zero (by omega)
    rw [hpart, decodeFrom, List.append_nil, String.ofList_toList]
  · have hpart : part ≠ [] := List.ne_nil_of_length_pos (by omega)
    rw [decodeFrom_part hnext hpart hrest, ← String.toList_push, String.ofList_toList]

end Fitting

end RegisterLink.Utf8
