/-!
# Byte sequences

File contents, transfer buffers and cached windows are lists of bytes. The one
operation that is not a list operation of its own is `overlay`: laying a patch
over some content at an offset, as a write to a file does.
-/

namespace RemoteStreams

/-- A sequence of bytes. -/
abbrev Bytes := List UInt8

namespace Bytes

/-- A run of `count` zero bytes. -/
def zeros (count : Nat) : Bytes := List.replicate count 0

/-- The bytes of `content` from offset `start` up to offset `stop`. -/
def slice (content : Bytes) (start stop : Nat) : Bytes :=
  (content.drop start).take (stop - start)

/-- The bytes of `content` with `patch` laid over them at `offset`. What `patch` does not cover
stays, a gap between the end of `content` and `offset` is filled with zeros, and
`content` is extended if `patch` reaches past its end. -/
def overlay (content : Bytes) (offset : Nat) (patch : Bytes) : Bytes :=
  content.take offset ++ zeros (offset - content.length) ++ patch ++
    content.drop (offset + patch.length)

@[simp] theorem length_zeros (count : Nat) : (zeros count).length = count := by
  simp [zeros]

@[simp] theorem zeros_zero : zeros 0 = [] := rfl

/-- A slice is cut at the end of the content, and it is empty if it would begin behind that. -/
@[simp] theorem length_slice (content : Bytes) (start stop : Nat) :
    (slice content start stop).length = min (stop - start) (content.length - start) := by
  simp [slice]

/-- A patch over the front of a buffer replaces that front and keeps the rest. -/
theorem overlay_zero (content patch : Bytes) :
    overlay content 0 patch = patch ++ content.drop patch.length := by
  simp [overlay]

/-- A patch only makes the content longer, as far as it reaches beyond its end. -/
theorem length_overlay (content : Bytes) (offset : Nat) (patch : Bytes) :
    (overlay content offset patch).length = max content.length (offset + patch.length) := by
  simp only [overlay, List.length_append, List.length_take, length_zeros, List.length_drop]
  omega

/-- Each place of an overlaid content shows the patch, the old content or the gap. -/
theorem getElem?_overlay (content : Bytes) (offset : Nat) (patch : Bytes) (place : Nat) :
    (overlay content offset patch)[place]? =
      if offset ≤ place ∧ place < offset + patch.length then patch[place - offset]?
      else if place < content.length then content[place]?
      else if place < offset then some 0
      else none := by
  have front : (content.take offset ++ zeros (offset - content.length)).length = offset := by
    simp only [List.length_append, List.length_take, length_zeros]
    omega
  by_cases before : place < offset
  · rw [overlay, List.append_assoc, List.getElem?_append_left (by omega)]
    by_cases inside : place < content.length
    · rw [List.getElem?_append_left (by simp only [List.length_take]; omega)]
      simp [before, inside, Nat.not_le.mpr before]
    · rw [List.getElem?_append_right (by simp only [List.length_take]; omega)]
      have room : place - min offset content.length < offset - content.length := by omega
      simp [zeros, before, inside, Nat.not_le.mpr before, room]
  · have reached : offset ≤ place := by omega
    rw [overlay, List.append_assoc, List.getElem?_append_right (by omega), front]
    by_cases covered : place < offset + patch.length
    · rw [List.getElem?_append_left (by omega)]
      simp [reached, covered]
    · rw [List.getElem?_append_right (by omega), List.getElem?_drop]
      have same : offset + patch.length + (place - offset - patch.length) = place := by omega
      by_cases inside : place < content.length
      · simp [covered, inside, same]
      · simp [covered, inside, before, same]

/-- What was laid over some content can be read back at its offset. -/
theorem slice_overlay (content : Bytes) (offset : Nat) (patch : Bytes) :
    slice (overlay content offset patch) offset (offset + patch.length) = patch := by
  have front : (content.take offset ++ zeros (offset - content.length)).length = offset := by
    simp only [List.length_append, List.length_take, length_zeros]
    omega
  simp only [slice, overlay, List.append_assoc]
  rw [← List.append_assoc, List.drop_left' front]
  simp

end Bytes

end RemoteStreams
