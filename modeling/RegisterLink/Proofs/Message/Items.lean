import RegisterLink.Proofs.Message.Query

/-!
# Lists of descriptors there and back

A query is packed and read one item after the other; nothing counts the items or stands between
them. What keeps both sides in step is that a descriptor is read from as many bytes as it is packed
into, whatever follows: so a list of any length is read back, and bodies put one behind the other
are read as their lists put one behind the other.
-/
namespace RegisterLink.Query

theorem decodeItems_nil : decodeItems [] = .ok [] := by
  rw [decodeItems, if_pos rfl]

theorem decodeItems_of_consume {body rest : List UInt8} {descriptor : Descriptor}
    (h : Descriptor.consume body = (.ok descriptor, rest)) :
    decodeItems body = (decodeItems rest).map (descriptor :: ·) := by
  have hsome : body ≠ [] := by
    rintro rfl
    exact absurd (Descriptor.le_length_of_consume h) (by decide)
  rw [decodeItems, if_neg hsome]
  split
  · rename_i hconsume
    rw [h] at hconsume
    cases hconsume
  · rename_i hconsume
    rw [h] at hconsume
    cases hconsume
    cases decodeItems rest <;> rfl

/-- Packed one behind the other, descriptors are read back one after the other. -/
theorem decodeItems_items {descriptors : List Descriptor}
    (h : ∀ descriptor ∈ descriptors, descriptor.Fits) :
    decodeItems (descriptors.flatMap Descriptor.item) =
      .ok (descriptors.map Descriptor.beforeNul) := by
  induction descriptors with
  | nil => exact decodeItems_nil
  | cons descriptor rest ih =>
    obtain ⟨hfits, hrest⟩ := List.forall_mem_cons.mp h
    rw [List.flatMap_cons, decodeItems_of_consume (Descriptor.consume_item hfits _), ih hrest]
    rfl

/-! ## Reading any bytes -/

/-- The descriptors that stand in the first `count` items of `body`, each in its place. -/
def itemsAt (count : Nat) (body : List UInt8) : List Descriptor :=
  (List.range count).map fun i => Descriptor.ofBytes (body.drop (i * descriptorSize))

theorem itemsAt_succ (count : Nat) (body : List UInt8) :
    itemsAt (count + 1) body =
      Descriptor.ofBytes body :: itemsAt count (body.drop descriptorSize) := by
  have hlater : (fun i => Descriptor.ofBytes (body.drop (i * descriptorSize))) ∘ Nat.succ =
      fun i => Descriptor.ofBytes ((body.drop descriptorSize).drop (i * descriptorSize)) := by
    funext i
    rw [Function.comp_apply, List.drop_drop, Nat.succ_mul, Nat.add_comm]
  rw [itemsAt, List.range_succ_eq_map, List.map_cons, List.map_map, hlater, Nat.zero_mul,
    List.drop_zero, itemsAt]

theorem decodeItems_of_length {count : Nat} {body : List UInt8}
    (h : body.length = count * descriptorSize) : decodeItems body = .ok (itemsAt count body) := by
  induction count generalizing body with
  | zero =>
    rw [Nat.zero_mul] at h
    rw [List.eq_nil_of_length_eq_zero h]
    exact decodeItems_nil
  | succ count ih =>
    rw [Nat.succ_mul] at h
    have hlong : descriptorSize ≤ body.length := h ▸ Nat.le_add_left _ _
    have hrest : (body.drop descriptorSize).length = count * descriptorSize := by
      rw [List.length_drop, h, Nat.add_sub_cancel]
    rw [decodeItems_of_consume (Descriptor.consume_of_le hlong), ih hrest, itemsAt_succ]
    rfl

/-- A body behind whole items is read after them. -/
theorem decodeItems_append {count : Nat} {front : List UInt8}
    (h : front.length = count * descriptorSize) (back : List UInt8) :
    decodeItems (front ++ back) = (decodeItems back).map (itemsAt count front ++ ·) := by
  induction count generalizing front with
  | zero =>
    rw [Nat.zero_mul] at h
    rw [List.eq_nil_of_length_eq_zero h, List.nil_append]
    cases decodeItems back <;> rfl
  | succ count ih =>
    rw [Nat.succ_mul] at h
    have hlong : descriptorSize ≤ front.length := h ▸ Nat.le_add_left _ _
    have hrest : (front.drop descriptorSize).length = count * descriptorSize := by
      rw [List.length_drop, h, Nat.add_sub_cancel]
    have hfirst := Descriptor.consume_append (Descriptor.consume_of_le hlong) back
    rw [decodeItems_of_consume hfirst, ih hrest, itemsAt_succ]
    cases decodeItems back <;> rfl

/-- Each descriptor is what its own item is read as. -/
theorem consume_itemAt {count : Nat} {body : List UInt8}
    (h : body.length = count * descriptorSize) (i : Nat) (hi : i < (itemsAt count body).length) :
    Descriptor.consume ((body.drop (i * descriptorSize)).take descriptorSize) =
      (.ok (itemsAt count body)[i], []) := by
  have hcount : i < count := by
    rwa [itemsAt, List.length_map, List.length_range] at hi
  have hlong : descriptorSize ≤ (body.drop (i * descriptorSize)).length := by
    have hlater : (i + 1) * descriptorSize ≤ count * descriptorSize :=
      Nat.mul_le_mul_right descriptorSize hcount
    rw [Nat.succ_mul, ← h] at hlater
    rw [List.length_drop]
    exact Nat.le_sub_of_add_le' hlater
  have hsize : ((body.drop (i * descriptorSize)).take descriptorSize).length = descriptorSize :=
    List.length_take_of_le hlong
  have hvalue : (itemsAt count body)[i] = Descriptor.ofBytes (body.drop (i * descriptorSize)) := by
    simp only [itemsAt, List.getElem_map, List.getElem_range]
  rw [Descriptor.consume_of_le (Nat.le_of_eq hsize.symm), Descriptor.ofBytes_take, hvalue,
    List.drop_eq_nil_of_le (Nat.le_of_eq hsize)]

/-! ## Bodies -/

theorem decode_of_whole {body : List UInt8} {count : Nat}
    (h : body.length = count * descriptorSize) : decode body = decodeItems body := by
  rw [decode, if_pos (by rw [h, Nat.mul_mod_left])]

theorem eq_count_mul {body : List UInt8} (h : body.length % descriptorSize = 0) :
    body.length = body.length / descriptorSize * descriptorSize :=
  (Nat.div_mul_cancel (Nat.dvd_of_mod_eq_zero h)).symm

theorem decode_item {descriptor : Descriptor} (hfits : descriptor.Fits)
    (hfree : descriptor.NulFree) : decode descriptor.item = .ok [descriptor] := by
  have hsize : descriptor.item.length = 1 * descriptorSize := by
    rw [Descriptor.length_item hfits, Nat.one_mul]
  have hitem := Descriptor.consume_item hfits []
  rw [List.append_nil, Descriptor.beforeNul_of_nulFree hfree] at hitem
  rw [decode_of_whole hsize, decodeItems_of_consume hitem, decodeItems_nil]
  rfl

/-- How packing a list ends. -/
inductive Listing (descriptors : List Descriptor) : Except InvalidArgument (List UInt8) → Prop
  | packed {body : List UInt8} (short : descriptors.length * 396 ≤ 65535)
      (room : ∀ descriptor ∈ descriptors, ∀ field, descriptor.textSize field ≤ 128)
      (size : body.length = descriptors.length * 396)
      (framed : ∀ command, ∃ frame, Frame.ofBody command body = .ok frame ∧ frame.body = body)
      (back : decode body = .ok (descriptors.map Descriptor.beforeNul))
      (same : (∀ descriptor ∈ descriptors, descriptor.NulFree) → decode body = .ok descriptors) :
      Listing descriptors (.ok body)
  | tooMany (long : 65535 < descriptors.length * 396) :
      Listing descriptors (.error (.tooManyDescriptors descriptors.length))
  /-- The first descriptor that is refused decides. -/
  | refused {before after : List Descriptor} {descriptor : Descriptor} {field : DescriptorField}
      (place : descriptors = before ++ descriptor :: after)
      (room : ∀ earlier ∈ before, earlier.Fits) (long : 128 < descriptor.textSize field) :
      Listing descriptors (.error (.fieldTooLong field (descriptor.textSize field)))

theorem listing_items {descriptors : List Descriptor}
    (hshort : descriptors.length * descriptorSize ≤ maxBodySize)
    (hfits : ∀ descriptor ∈ descriptors, descriptor.Fits) :
    Listing descriptors (.ok (descriptors.flatMap Descriptor.item)) := by
  have hsize := length_items hfits
  have hback : decode (descriptors.flatMap Descriptor.item) =
      .ok (descriptors.map Descriptor.beforeNul) := by
    rw [decode_of_whole hsize, decodeItems_items hfits]
  refine .packed hshort hfits hsize (fun command => ?_) hback fun hfree => ?_
  · exact ⟨_, Frame.ofBody_eq_ok (hsize.symm ▸ hshort), rfl⟩
  · have hsame : descriptors.map Descriptor.beforeNul = descriptors.map id :=
      List.map_congr_left fun descriptor hmem => Descriptor.beforeNul_of_nulFree (hfree _ hmem)
    rw [hback, hsame, List.map_id]

theorem encode_listing (descriptors : List Descriptor) :
    Listing descriptors (encode descriptors) := by
  by_cases hlong : maxBodySize < descriptors.length * descriptorSize
  · rw [encode, if_pos hlong]
    exact .tooMany hlong
  rw [encode, if_neg hlong, encodeItems_eq]
  cases hfault : descriptors.findSome? Descriptor.fault? with
  | none =>
    exact listing_items (Nat.le_of_not_lt hlong) (findSome?_fault?_eq_none_iff.mp hfault)
  | some fault =>
    obtain ⟨before, descriptor, after, rfl, hfirst, hbefore⟩ := List.findSome?_eq_some_iff.mp hfault
    obtain ⟨field, hfield, rfl⟩ := Option.map_eq_some_iff.mp hfirst
    have hroom : ∀ earlier ∈ before, earlier.Fits := fun earlier hmem =>
      Descriptor.fault?_eq_none_iff.mp (hbefore earlier hmem)
    exact .refused rfl hroom (Descriptor.lt_of_overlong? hfield)

/-- How reading a body ends. -/
inductive Reading (body : List UInt8) : Except Malformed (List Descriptor) → Prop
  | read {descriptors : List Descriptor} (whole : body.length % 396 = 0)
      (count : descriptors.length = body.length / 396)
      (each : ∀ (i : Nat) (hi : i < descriptors.length),
        Descriptor.consume ((body.drop (i * 396)).take 396) = (.ok descriptors[i], [])) :
      Reading body (.ok descriptors)
  | refused (broken : body.length % 396 ≠ 0) :
      Reading body (.error (.partialDescriptor body.length))

theorem decode_reading (body : List UInt8) : Reading body (decode body) := by
  by_cases hwhole : body.length % descriptorSize = 0
  · have hsize := eq_count_mul hwhole
    have hcount : (itemsAt (body.length / descriptorSize) body).length =
        body.length / descriptorSize := by
      rw [itemsAt, List.length_map, List.length_range]
    rw [decode_of_whole hsize, decodeItems_of_length hsize]
    exact .read hwhole hcount (consume_itemAt hsize)
  · rw [decode, if_neg hwhole]
    exact .refused hwhole

theorem decode_append {front back : List UInt8} (hfront : front.length % descriptorSize = 0)
    (hback : back.length % descriptorSize = 0) :
    ∃ descriptors later, decode front = .ok descriptors ∧ decode back = .ok later ∧
      decode (front ++ back) = .ok (descriptors ++ later) := by
  have hsize := eq_count_mul hfront
  have hlater := eq_count_mul hback
  have hboth : (front ++ back).length =
      (front.length / descriptorSize + back.length / descriptorSize) * descriptorSize := by
    rw [List.length_append, Nat.add_mul, ← hsize, ← hlater]
  rw [decode_of_whole hsize, decode_of_whole hlater, decode_of_whole hboth,
    decodeItems_append hsize, decodeItems_of_length hsize, decodeItems_of_length hlater]
  exact ⟨_, _, rfl, rfl, rfl⟩

/-- Packing and reading a list of any length stay in step: what is packed is read back, and what is
read depends item by item on the bytes alone. -/
theorem item_lists_aligned :
    (∀ descriptors, Listing descriptors (encode descriptors)) ∧
    (∀ body, Reading body (decode body)) ∧
    ∀ front back : List UInt8, front.length % 396 = 0 → back.length % 396 = 0 →
      ∃ descriptors later, decode front = .ok descriptors ∧ decode back = .ok later ∧
        decode (front ++ back) = .ok (descriptors ++ later) :=
  ⟨encode_listing, decode_reading, fun _ _ => decode_append⟩

/-- Two bodies of one item each, put one behind the other. -/
theorem item_lists_aligned_pair :
    let gpio : Descriptor := { vendor := "xlnx", deviceType := "axi_gpio", version := ⟨2, 0, 97⟩ }
    let named : Descriptor := { name := "sw8" }
    gpio.item.length % 396 = 0 ∧ named.item.length % 396 = 0 ∧
      decode (gpio.item ++ named.item) = .ok [gpio, named] := by
  intro gpio named
  have hgpio : gpio.Fits := by decide +kernel
  have hnamed : named.Fits := by decide +kernel
  have hfront : gpio.item.length % 396 = 0 := by
    rw [Descriptor.length_item hgpio]
    rfl
  have hback : named.item.length % 396 = 0 := by
    rw [Descriptor.length_item hnamed]
    rfl
  refine ⟨hfront, hback, ?_⟩
  obtain ⟨descriptors, later, hfirst, hsecond, hboth⟩ :=
    item_lists_aligned.2.2 gpio.item named.item hfront hback
  rw [decode_item hgpio (by decide +kernel)] at hfirst
  rw [decode_item hnamed (by decide +kernel)] at hsecond
  rw [hboth, ← Except.ok.inj hfirst, ← Except.ok.inj hsecond]
  rfl

end RegisterLink.Query
