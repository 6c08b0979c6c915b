import RemoteStreams.Bytes

/-! # Patches over patches

How overlays and slices of byte sequences combine. A longer patch absorbs a
prefix of itself that was laid down before (`RemoteStreams.Bytes.overlay_absorb`),
a patch within another one can be merged into it
(`RemoteStreams.Bytes.overlay_within`), and a patch of a faithful copy of some
content is a patch of that content (`RemoteStreams.Bytes.overlay_mirrored`).
-/

namespace RemoteStreams

namespace Bytes

/-- A byte of a slice is the byte of the content that stands there. -/
theorem getElem?_slice (content : Bytes) (start stop place : Nat) :
    (slice content start stop)[place]? =
      if start + place < stop then content[start + place]? else none := by
  rw [slice, List.getElem?_take, List.getElem?_drop]
  have same : place < stop - start ↔ start + place < stop := by omega
  simp only [same]

@[simp] theorem slice_self (content : Bytes) (start : Nat) : slice content start start = [] := by
  simp [slice]

/-- A slice of a slice is a slice. -/
theorem slice_slice (content : Bytes) {start stop first last : Nat} (inside : start + last ≤ stop) :
    slice (slice content start stop) first last = slice content (start + first) (start + last) := by
  apply List.ext_getElem?
  intro place
  simp only [getElem?_slice]
  grind

/-- What is behind a slice does not matter to it. -/
theorem slice_take (content : Bytes) {stop last : Nat} (first : Nat) (inside : last ≤ stop) :
    slice (content.take stop) first last = slice content first last := by
  apply List.ext_getElem?
  intro place
  simp only [getElem?_slice, List.getElem?_take]
  grind

/-- Slices that meet make one slice. -/
theorem slice_append_slice (content : Bytes) {start middle stop : Nat} (first : start ≤ middle)
    (second : middle ≤ stop) (inside : middle ≤ content.length) :
    slice content start middle ++ slice content middle stop = slice content start stop := by
  apply List.ext_getElem?
  intro place
  simp only [List.getElem?_append, getElem?_slice, length_slice]
  grind

/-- Bytes that are appended do not matter to a slice of what was there. -/
theorem slice_append_left (content : Bytes) {start stop : Nat} (more : Bytes)
    (inside : stop ≤ content.length) :
    slice (content ++ more) start stop = slice content start stop := by
  apply List.ext_getElem?
  intro place
  simp only [getElem?_slice, List.getElem?_append]
  grind

/-- No bytes change nothing, unless they are laid behind the end. -/
@[simp] theorem overlay_nil_of_le {content : Bytes} {offset : Nat}
    (inside : offset ≤ content.length) :
    overlay content offset [] = content := by
  simp [overlay, Nat.sub_eq_zero_of_le inside]

/-- A patch at the front of the part of some content that has room for it. -/
theorem overlay_take_append_drop (content : Bytes) {count : Nat} {patch : Bytes}
    (room : patch.length ≤ count) :
    overlay (content.take count) 0 patch ++ content.drop count = overlay content 0 patch := by
  have rest : content.drop count = (content.drop patch.length).drop (count - patch.length) := by
    rw [List.drop_drop, Nat.add_sub_cancel' room]
  rw [overlay_zero, overlay_zero, List.append_assoc, List.drop_take, rest, List.take_append_drop]

/-- Laying down a patch makes up for a part of it that was laid down before. -/
theorem overlay_absorb (content : Bytes) (offset count : Nat) (patch : Bytes) :
    overlay (overlay content offset (patch.take count)) offset patch =
      overlay content offset patch := by
  apply List.ext_getElem?
  intro place
  simp only [getElem?_overlay, length_overlay, List.length_take]
  grind

/-- A patch that begins within another one, or right behind it, is a patch of that one. -/
theorem overlay_within (content window patch : Bytes) {offset cursor : Nat}
    (inside : cursor ≤ window.length) :
    overlay (overlay content offset window) (offset + cursor) patch =
      overlay content offset (overlay window cursor patch) := by
  apply List.ext_getElem?
  intro place
  simp only [getElem?_overlay, length_overlay]
  grind

/-- A patch right behind some content is appended to it. -/
theorem overlay_length (content patch : Bytes) :
    overlay content content.length patch = content ++ patch := by
  simp [overlay]

/-- Patches one behind the other make one patch. -/
theorem overlay_overlay (content first second : Bytes) (offset : Nat) :
    overlay (overlay content offset first) (offset + first.length) second =
      overlay content offset (first ++ second) := by
  rw [overlay_within content first second (Nat.le_refl _), overlay_length]

/-- A patch of a faithful copy of a part of some content is a patch of the content. -/
theorem overlay_mirrored {content window patch : Bytes} {offset cursor : Nat}
    (mirrored : window = slice content offset (offset + window.length))
    (inside : cursor ≤ window.length) (present : patch ≠ []) :
    overlay content offset (overlay window cursor patch) =
      overlay content (offset + cursor) patch := by
  have nonempty : 0 < patch.length := List.length_pos_iff.mpr present
  have shown := length_slice content offset (offset + window.length)
  rw [← mirrored] at shown
  apply List.ext_getElem?
  intro place
  have cell := getElem?_slice content offset (offset + window.length) (place - offset)
  rw [← mirrored] at cell
  simp only [getElem?_overlay, length_overlay]
  grind

/-- What is occupied after a patch is the occupied part with the patch. -/
theorem take_overlay {data patch : Bytes} {cursor extent : Nat} (inside : cursor ≤ extent)
    (bounded : extent ≤ data.length) :
    (overlay data cursor patch).take (max extent (cursor + patch.length)) =
      overlay (data.take extent) cursor patch := by
  apply List.ext_getElem?
  intro place
  simp only [List.getElem?_take, getElem?_overlay, List.length_take]
  grind

/-- Only the bytes matter that a transfer puts at the front of a buffer, not how
much of the buffer travelled with them. -/
theorem overlay_zero_travelled (buffer bytes : Bytes) (count : Nat) :
    overlay buffer 0 (overlay (buffer.take count) 0 bytes) = overlay buffer 0 bytes := by
  apply List.ext_getElem?
  intro place
  simp only [getElem?_overlay, length_overlay, List.length_take]
  grind

/-- A buffer may be filled in two parts. -/
theorem overlay_zero_append (buffer first second : Bytes) :
    first ++ overlay (buffer.drop first.length) 0 second = overlay buffer 0 (first ++ second) := by
  simp only [overlay_zero, List.append_assoc, List.drop_drop, List.length_append]

end Bytes

end RemoteStreams
