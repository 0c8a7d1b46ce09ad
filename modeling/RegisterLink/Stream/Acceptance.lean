import RegisterLink.Stream.Outbound

/-!
# Bytes accepted

Writing piece by piece comes to the same as writing all at once: the stream accepts the bytes in
front that it has room for, and the write fails exactly when that is not all of them.
-/
namespace RegisterLink

theorem length_take_take (bytes : List UInt8) (n : Nat) :
    bytes.take n = bytes.take (bytes.take n).length := by
  rw [List.length_take, List.take_eq_take_min]

theorem length_takeUpTo (limit : Option Nat) (bytes : List UInt8) :
    (takeUpTo limit bytes).length = limit.elim bytes.length (min · bytes.length) := by
  cases limit with
  | none => rfl
  | some count => exact List.length_take

theorem nextPiece_eq_take (chunk room : Option Nat) (bytes : List UInt8) :
    nextPiece chunk room bytes = bytes.take (nextPiece chunk room bytes).length := by
  match chunk, room with
  | none, none => exact (List.take_length).symm
  | none, some count => exact length_take_take bytes count
  | some size, none => exact length_take_take bytes size
  | some size, some count =>
    rw [nextPiece, takeUpTo, takeUpTo, List.take_take]
    exact length_take_take bytes (min count size)

/-- What is accepted in pieces is accepted from the front. -/
theorem takeUpTo_eq_append (chunk room : Option Nat) (bytes : List UInt8) :
    takeUpTo room bytes = nextPiece chunk room bytes ++
      takeUpTo (remaining room (nextPiece chunk room bytes).length)
        (bytes.drop (nextPiece chunk room bytes).length) := by
  have hpiece := nextPiece_eq_take chunk room bytes
  cases room with
  | none =>
    rw [takeUpTo, remaining, Option.map_none, takeUpTo]
    conv => lhs; rw [← List.take_append_drop (nextPiece chunk none bytes).length bytes]
    rw [← hpiece]
  | some count =>
    have hcount : (nextPiece chunk (some count) bytes).length ≤ count :=
      List.length_take_le count _
    have hsum : count = (nextPiece chunk (some count) bytes).length +
        (count - (nextPiece chunk (some count) bytes).length) := by omega
    rw [takeUpTo, remaining, Option.map_some, takeUpTo]
    conv => lhs; rw [hsum, List.take_add]
    rw [← hpiece]

/-- The bytes accepted are the first ones, as many as there is room for, whatever the size of the
pieces; it is a failure if that is not all of them. -/
theorem pour_eq {chunk room : Option Nat} {refusal : TransportFault} {bytes : List UInt8}
    (h : chunk ≠ some 0) :
    pour chunk room refusal bytes =
      (takeUpTo room bytes,
        if (takeUpTo room bytes).length = bytes.length then none else some refusal) := by
  fun_induction pour chunk room refusal bytes with
  | case1 room => cases room <;> simp [takeUpTo]
  | case2 bytes hbytes =>
    have hlen := List.length_pos_iff.mpr hbytes
    simp [takeUpTo, Ne.symm (Nat.ne_of_gt hlen)]
  | case3 room bytes hbytes hroom hpiece =>
    exfalso
    have hlen := List.length_pos_iff.mpr hbytes
    cases chunk <;> cases room <;> simp_all [nextPiece, takeUpTo]
  | case4 room bytes hbytes hroom hpiece size accepted fault hrest ih =>
    rw [hrest] at ih
    obtain ⟨rfl, rfl⟩ := Prod.mk.inj ih
    have happ := takeUpTo_eq_append chunk room bytes
    have hlen := congrArg List.length (nextPiece_eq_take chunk room bytes)
    rw [List.length_take] at hlen
    rw [happ, List.length_append]
    simp only [List.length_drop, size]
    congr 1
    have hsize : size ≤ bytes.length := by omega
    split <;> split <;> first | rfl | omega

namespace Outbound

/-- A write accepts what there is room for, whatever the size of its pieces. -/
theorem write_eq {outbound : Outbound} (h : outbound.chunk ≠ some 0) (bytes : List UInt8) :
    write bytes outbound =
      (if (takeUpTo outbound.room bytes).length = bytes.length then .done ()
        else .failed (.transport outbound.refusal),
        { outbound with
          room := remaining outbound.room (takeUpTo outbound.room bytes).length
          sent := outbound.sent ++ takeUpTo outbound.room bytes }) := by
  by_cases hall : (takeUpTo outbound.room bytes).length = bytes.length
  · rw [write, pour_eq h, if_pos hall, if_pos hall]
  · rw [write, pour_eq h, if_neg hall, if_neg hall]

end Outbound

end RegisterLink
