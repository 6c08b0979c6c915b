import RemoteStreams.Action
import RemoteStreams.Bytes
import RemoteStreams.Error

/-!
# Windows

A window is a buffer of bytes with a cursor. The bytes before the cursor have
been consumed, `unread` bytes follow, and the rest of the buffer is spare:

    0            cursor        cursor + unread       capacity
    |-- consumed --|---- unread ----|------ spare ------|

Bytes are taken from and put at the cursor. Consumed and unread bytes are the
occupied part; what lies behind it is left over from before and means nothing.
A window may grow up to a limit and never shrinks, and no memory may be left for
the larger buffer. Every operation that moves the counters ends with a check that
they still fit the buffer.
-/

namespace RemoteStreams

/-- A buffer of bytes with a cursor. -/
structure Window where
  /-- The whole buffer, spare part included. -/
  data : Bytes
  /-- How many bytes have been consumed. -/
  cursor : Nat
  /-- How many bytes after the cursor are yet to be read. -/
  unread : Nat
  /-- The largest capacity the window may grow to. -/
  limit : Nat
deriving DecidableEq, Repr

namespace Window

variable {ε : Type}

/-- There is no memory for buffers of this size, two to the power of 62, or more. -/
def allocationBound : Nat := 4611686018427387904

/-- The size of the buffer. -/
def capacity (window : Window) : Nat := window.data.length

/-- The size of the occupied part. -/
def extent (window : Window) : Nat := window.cursor + window.unread

/-- The room from the cursor on. -/
def spare (window : Window) : Nat := window.capacity - window.cursor

/-- The occupied part. -/
def occupied (window : Window) : Bytes := window.data.take window.extent

/-- The same buffer with nothing in it. -/
def cleared (window : Window) : Window := { window with cursor := 0, unread := 0 }

/-- The counters fit the buffer. -/
def InBounds (window : Window) : Prop :=
  window.cursor ≤ window.capacity ∧ window.cursor + window.unread ≤ window.capacity

instance (window : Window) : Decidable window.InBounds :=
  inferInstanceAs (Decidable (_ ∧ _))

/-- The window with a buffer of `capacity` bytes, of which the first are the old ones. -/
def enlarged (window : Window) (capacity : Nat) : Window :=
  { window with data := window.data ++ Bytes.zeros (capacity - window.capacity) }

/-- The window after `count` of its unread bytes were consumed. -/
def consumed (window : Window) (count : Nat) : Window :=
  { window with cursor := window.cursor + count, unread := window.unread - count }

/-- The window with `patch` put at its cursor. -/
def patched (window : Window) (patch : Bytes) : Window :=
  { window with
    data := window.data.overlay window.cursor patch
    cursor := window.cursor + patch.length
    unread := window.unread - patch.length }

/-- The window with another buffer, of which the first `count` bytes are unread. -/
def loaded (window : Window) (data : Bytes) (count : Nat) : Window :=
  { window with data, cursor := 0, unread := count }

/-- The window after `count` of its consumed bytes were given back. -/
def returned (window : Window) (count : Nat) : Window :=
  { window with cursor := window.cursor - count, unread := window.unread + count }

/-- An empty window of `capacity` bytes that may grow up to `limit`, if the memory for it
is `granted`. -/
def create (capacity limit : Nat) (granted : Bool := decide (capacity < allocationBound)) :
    Outcome StreamError Window :=
  if limit < capacity then .broken (.capacityAboveLimit capacity limit)
  else if granted then .ok ⟨Bytes.zeros capacity, 0, 0, limit⟩
  else .error (.allocation capacity)

/-- Ends in a breach unless the counters fit the buffer. -/
def checkBounds : Action Window ε Unit := do
  let window ← .get
  .ensure window.InBounds (.windowOutOfBounds window.cursor window.unread window.capacity)

/-- Forgets what the window holds and keeps its buffer. -/
def clear : Action Window ε Unit := .modify cleared

/-- Makes the window at least `capacity` bytes large, which must not be more than
its limit. What it holds stays. A larger buffer takes memory, which may not be `granted`. -/
def grow (capacity : Nat) (granted : Bool := decide (capacity < allocationBound)) :
    Action Window StreamError Unit := do
  let window ← .get
  .ensure (capacity ≤ window.limit) (.growthAboveLimit capacity window.limit)
  if capacity ≤ window.capacity then
    pure ()
  else if granted then do
    .set (window.enlarged capacity)
    checkBounds
  else
    .fail (.allocation capacity)

/-- Takes up to `count` unread bytes. -/
def take (count : Nat) : Action Window ε Bytes := do
  let window ← .get
  let taken := min window.unread count
  .set (window.consumed taken)
  checkBounds
  pure (window.data.slice window.cursor (window.cursor + taken))

/-- Puts as many bytes of `source` as fit at the cursor and tells how many. Unread
bytes that are overwritten are no longer unread. -/
def put (source : Bytes) : Action Window ε Nat := do
  let window ← .get
  let patch := source.take window.spare
  .set (window.patched patch)
  checkBounds
  pure patch.length

/-- Replaces the buffer by `filled`, of which the first `count` bytes become unread. -/
def accept (filled : Bytes) (count : Nat) : Action Window ε Unit := do
  .modify (·.loaded filled 0)
  let window ← .get
  .ensure (count ≤ window.capacity) (.refillAboveCapacity count window.capacity)
  .set (window.loaded filled count)
  checkBounds

/-- Empties the window and hands its buffer to `fill`, which answers with the
buffer filled anew and with the number of bytes it produced, or why it failed. -/
def refill (fill : Bytes → Bytes × Except ε Nat) : Action Window ε Nat := do
  let window ← .get
  match fill window.data with
  | (filled, .ok count) => do
      accept filled count
      pure count
  | (filled, .error cause) => do
      .set (window.loaded filled 0)
      .fail cause

/-- Whether the cursor stays in the occupied part when it moves by `delta`. -/
def canShift (window : Window) (delta : Int) : Bool :=
  if 0 ≤ delta then delta.natAbs ≤ window.unread else delta.natAbs ≤ window.cursor

/-- Moves the cursor by `delta` within the occupied part. -/
def shift (delta : Int) : Action Window ε Unit := do
  let window ← .get
  .ensure (window.canShift delta) (.shiftOutside delta window.cursor window.unread)
  if 0 ≤ delta then
    .set (window.consumed delta.natAbs)
  else
    .set (window.returned delta.natAbs)
  checkBounds

/-- The cursor is within the occupied part, or right behind it. -/
theorem cursor_le_extent (window : Window) : window.cursor ≤ window.extent :=
  Nat.le_add_right _ _

/-- Cursor and unread bytes are within the buffer exactly if they are so together. -/
theorem inBounds_iff {window : Window} : window.InBounds ↔ window.extent ≤ window.capacity := by
  simp only [InBounds, extent]
  omega

/-- An empty window is in bounds, whatever its buffer is. -/
theorem inBounds_cleared (window : Window) : window.cleared.InBounds := by
  simp [InBounds, cleared]

/-- A larger buffer leaves a window in bounds. -/
theorem inBounds_enlarged {window : Window} (bounded : window.InBounds) (capacity : Nat) :
    (window.enlarged capacity).InBounds := by
  simp only [InBounds, enlarged, Window.capacity, List.length_append] at *
  omega

/-- A window stays in bounds when unread bytes are consumed. -/
theorem inBounds_consumed {window : Window} (bounded : window.InBounds) {count : Nat}
    (available : count ≤ window.unread) : (window.consumed count).InBounds := by
  simp only [InBounds, consumed, capacity] at *
  omega

/-- A window stays in bounds when bytes are put at the cursor, as those that do not fit are left
out. -/
theorem inBounds_patched {window : Window} (bounded : window.InBounds) (patch : Bytes) :
    (window.patched patch).InBounds := by
  simp only [InBounds, patched, capacity, Bytes.length_overlay] at *
  omega

/-- A patch that fits behind the cursor does not change the size of the buffer. -/
theorem capacity_patched {window : Window} (bounded : window.InBounds) {patch : Bytes}
    (fits : patch.length ≤ window.spare) : (window.patched patch).capacity = window.capacity := by
  simp only [InBounds, patched, spare, capacity, Bytes.length_overlay] at *
  omega

/-- A window is in bounds when its buffer was filled with as many bytes as are said to be unread. -/
theorem inBounds_loaded {window : Window} {data : Bytes} {count : Nat}
    (fits : count ≤ data.length) : (window.loaded data count).InBounds := by
  simpa [InBounds, loaded, capacity] using fits

/-- A window stays in bounds when it goes back over bytes that were consumed. -/
theorem inBounds_returned {window : Window} (bounded : window.InBounds) {count : Nat}
    (available : count ≤ window.cursor) : (window.returned count).InBounds := by
  simp only [InBounds, returned, capacity] at *
  omega

/-- The check passes for every window in bounds and changes nothing. -/
theorem checkBounds_apply {window : Window} (bounded : window.InBounds) :
    (checkBounds : Action Window ε Unit) window = (.ok (), window) := by
  simp [checkBounds, Action.bind_apply, Action.ensure, bounded]

/-- What is taken are the first unread bytes. No check fails if the window is in bounds. -/
theorem take_apply {window : Window} (bounded : window.InBounds) (count : Nat) :
    (take count : Action Window ε Bytes) window =
      (.ok (window.data.slice window.cursor (window.cursor + min window.unread count)),
        window.consumed (min window.unread count)) := by
  have after := inBounds_consumed bounded (Nat.min_le_left window.unread count)
  simp [take, Action.bind_apply, Action.map_apply, checkBounds_apply after]

/-- What is put is as much of the source as there is room for behind the cursor. -/
theorem put_apply {window : Window} (bounded : window.InBounds) (source : Bytes) :
    (put source : Action Window ε Nat) window =
      (.ok (source.take window.spare).length, window.patched (source.take window.spare)) := by
  have after := inBounds_patched bounded (source.take window.spare)
  simp [put, Action.bind_apply, Action.map_apply, checkBounds_apply after]

/-- A window that is large enough is left as it is, memory or no memory. -/
theorem grow_of_le {window : Window} {capacity : Nat} (granted : Bool)
    (allowed : capacity ≤ window.limit) (large : capacity ≤ window.capacity) :
    grow capacity granted window = (.ok (), window) := by
  simp [grow, Action.bind_apply, Action.ensure, allowed, large]

/-- A window that gets the memory it needs is enlarged. -/
theorem grow_apply {window : Window} (bounded : window.InBounds) {capacity : Nat}
    (allowed : capacity ≤ window.limit) (small : window.capacity < capacity) :
    grow capacity true window = (.ok (), window.enlarged capacity) := by
  have after := inBounds_enlarged bounded capacity
  simp [grow, Action.bind_apply, Action.ensure, allowed, Nat.not_le.mpr small,
    checkBounds_apply after]

/-- A window that does not get the memory it needs is left as it is. -/
theorem grow_refused {window : Window} {capacity : Nat} (allowed : capacity ≤ window.limit)
    (small : window.capacity < capacity) :
    grow capacity false window = (.error (.allocation capacity), window) := by
  simp [grow, Action.bind_apply, Action.ensure, allowed, Nat.not_le.mpr small]

/-- A filled buffer is accepted if it holds the bytes that it is said to hold. -/
theorem accept_apply {window : Window} {filled : Bytes} {count : Nat}
    (fits : count ≤ filled.length) :
    (accept filled count : Action Window ε Unit) window = (.ok (), window.loaded filled count) := by
  have after : (window.loaded filled count).InBounds := inBounds_loaded fits
  simp only [accept, Action.bind_apply, Action.modify_apply, Action.get_apply, Action.ensure,
    Action.set_apply]
  simpa [loaded, capacity, fits] using checkBounds_apply after

/-- A shift that is possible moves the cursor and leaves the bytes of the window where they are. -/
theorem shift_apply {window : Window} (bounded : window.InBounds) {delta : Int}
    (inside : window.canShift delta) :
    (shift delta : Action Window ε Unit) window =
      (.ok (), if 0 ≤ delta then window.consumed delta.natAbs
        else window.returned delta.natAbs) := by
  by_cases forward : 0 ≤ delta
  · have after := inBounds_consumed bounded (by simpa [canShift, forward] using inside)
    simp [shift, Action.bind_apply, Action.ensure, inside, forward, checkBounds_apply after]
  · have after := inBounds_returned bounded (by simpa [canShift, forward] using inside)
    simp [shift, Action.bind_apply, Action.ensure, inside, forward, checkBounds_apply after]

end Window

end RemoteStreams
