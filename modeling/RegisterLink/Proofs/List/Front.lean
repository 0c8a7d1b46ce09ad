import Mathlib.Algebra.GroupWithZero.Nat

/-!
# What fits in front

Items that come one behind the other at a cost each, as characters take bytes and segments take
time, fit within a limit up to some point. What fits is the longest prefix whose costs add up to no
more than the limit.
-/
namespace RegisterLink

variable {α : Type}

/-- The longest prefix of a list that satisfies a condition. -/
structure LongestPrefix (fits : List α → Prop) (whole front : List α) : Prop where
  begins : front <+: whole
  front_fits : fits front
  longest : ∀ other, other <+: whole → fits other → other <+: front

namespace LongestPrefix

variable {fits : List α → Prop} {whole front other : List α}

theorem unique (h : LongestPrefix fits whole front) (hother : LongestPrefix fits whole other) :
    front = other :=
  (hother.longest front h.begins h.front_fits).eq_of_length_le
    (h.longest other hother.begins hother.front_fits).length_le

/-- Behind the longest prefix comes an item with which it does not fit any more. -/
theorem exists_next (h : LongestPrefix fits whole front) (hwhole : ¬ fits whole) :
    ∃ next rest, whole = front ++ next :: rest ∧ ¬ fits (front ++ [next]) := by
  obtain ⟨tail, rfl⟩ := h.begins
  cases tail with
  | nil => exact absurd h.front_fits (List.append_nil front ▸ hwhole)
  | cons next rest =>
    refine ⟨next, rest, rfl, fun hnext => ?_⟩
    have hbegins : front ++ [next] <+: front ++ next :: rest :=
      (List.prefix_append_right_inj _).mpr ⟨rest, rfl⟩
    have hlength := (h.longest _ hbegins hnext).length_le
    rw [List.length_append, List.length_singleton] at hlength
    omega

end LongestPrefix

/-- The items in front whose costs add up to no more than the limit. -/
def frontWithin (cost : α → Nat) : Nat → List α → List α
  | _, [] => []
  | limit, item :: rest =>
    if cost item ≤ limit then item :: frontWithin cost (limit - cost item) rest else []

theorem frontWithin_cons_of_le {cost : α → Nat} {limit : Nat} {item : α} (h : cost item ≤ limit)
    (rest : List α) :
    frontWithin cost limit (item :: rest) =
      item :: frontWithin cost (limit - cost item) rest := if_pos h

theorem frontWithin_cons_of_lt {cost : α → Nat} {limit : Nat} {item : α} (h : limit < cost item)
    (rest : List α) : frontWithin cost limit (item :: rest) = [] := if_neg (Nat.not_le.mpr h)

theorem frontWithin_longest (cost : α → Nat) (limit : Nat) (items : List α) :
    LongestPrefix (fun front => (front.map cost).sum ≤ limit) items
      (frontWithin cost limit items) := by
  induction items generalizing limit with
  | nil => exact ⟨List.prefix_rfl, Nat.zero_le _, fun other hother _ => hother⟩
  | cons item rest ih =>
    by_cases hitem : cost item ≤ limit
    · obtain ⟨hbegins, hfits, hlongest⟩ := ih (limit - cost item)
      rw [frontWithin_cons_of_le hitem]
      refine ⟨List.cons_prefix_cons.mpr ⟨rfl, hbegins⟩, ?_, fun other hother hsum => ?_⟩
      · rw [List.map_cons, List.sum_cons]
        omega
      · cases other with
        | nil => exact List.nil_prefix
        | cons first more =>
          obtain ⟨rfl, hmore⟩ := List.cons_prefix_cons.mp hother
          rw [List.map_cons, List.sum_cons] at hsum
          exact List.cons_prefix_cons.mpr ⟨rfl, hlongest more hmore (by omega)⟩
    · rw [frontWithin_cons_of_lt (Nat.lt_of_not_le hitem)]
      refine ⟨List.nil_prefix, Nat.zero_le _, fun other hother hsum => ?_⟩
      cases other with
      | nil => exact List.prefix_rfl
      | cons first more =>
        obtain ⟨rfl, -⟩ := List.cons_prefix_cons.mp hother
        rw [List.map_cons, List.sum_cons] at hsum
        exact absurd (Nat.le_trans (Nat.le_add_right _ _) hsum) hitem

end RegisterLink
