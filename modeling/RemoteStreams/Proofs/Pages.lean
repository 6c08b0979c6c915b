import RemoteStreams.Proofs.Patch
import RemoteStreams.Window

/-! # Windows as pages

What a window holds is implicit in its buffer and its counters. A page says it outright: the bytes
that are occupied, a cursor among them, and the bytes left over behind them, which nobody sees but
who fills the window anew. Its capacity is what these bytes come to, so that it is within its bounds
by construction. Every page is laid out as a window (`RemoteStreams.Page.window`), and whatever is
done to the window is done to the page (`RemoteStreams.Window.run_eq_page`). In particular no check
of a window ever fails but for the three that are about its caller
(`RemoteStreams.Page.perform_eq_broken_iff`). Memory may run out whenever the window asks for some.
-/

namespace RemoteStreams

namespace Bytes

/-- A patch that begins within the first of two contents, or right behind it. -/
theorem overlay_append {first second : Bytes} {offset : Nat} (inside : offset ≤ first.length)
    (patch : Bytes) :
    overlay (first ++ second) offset patch =
      overlay first offset patch ++ second.drop (offset + patch.length - first.length) := by
  apply List.ext_getElem?
  intro place
  simp only [getElem?_overlay, List.getElem?_append, length_overlay, List.getElem?_drop,
    List.length_append]
  grind

end Bytes

/-- Occupied bytes with a cursor among them, and what is left over behind them. -/
structure Page where
  bytes : Bytes
  spare : Bytes
  cursor : Nat
  limit : Nat
  reached : cursor ≤ bytes.length
  limited : bytes.length + spare.length ≤ limit

/-- A way to fill a buffer anew, which stays as large as it is: what becomes of the buffer, and the
number of bytes that are said to be produced or the reason why none are. -/
structure Fill where
  run : Bytes → Bytes × Except StreamError Nat
  keeps : ∀ data, (run data).1.length = data.length

/-- What a window is asked for. -/
inductive WindowOperation where
  | put (source : Bytes)
  | take (count : Nat)
  /-- To have room for `capacity` bytes, with or without memory for more than there is. -/
  | grow (capacity : Nat) (granted : Bool)
  | clear
  | canShift (delta : Int)
  | shift (delta : Int)
  | refill (fill : Fill)

/-- What a window answers. -/
inductive WindowAnswer where
  /-- The number of bytes that were put, or that a fill produced. -/
  | count (count : Nat)
  | taken (bytes : Bytes)
  | possible (possible : Bool)
  | done
deriving DecidableEq, Repr

namespace Page

/-- The room for bytes. -/
def capacity (page : Page) : Nat := page.bytes.length + page.spare.length

/-- No bytes, and room for `capacity` many. -/
def create {capacity limit : Nat} (ordered : capacity ≤ limit) : Page where
  bytes := []
  spare := Bytes.zeros capacity
  cursor := 0
  limit := limit
  reached := Nat.le_refl _
  limited := by simpa using ordered

/-- The page with `patch` laid over its bytes at the cursor, which moves behind it. -/
def patched (page : Page) (patch : Bytes) (fits : page.cursor + patch.length ≤ page.capacity) :
    Page where
  bytes := page.bytes.overlay page.cursor patch
  spare := page.spare.drop (page.cursor + patch.length - page.bytes.length)
  cursor := page.cursor + patch.length
  limit := page.limit
  reached := by
    rw [Bytes.length_overlay]
    exact Nat.le_max_right _ _
  limited := by
    have limited := page.limited
    rw [Bytes.length_overlay, List.length_drop]
    simp only [capacity] at fits
    omega

/-- The page with another cursor. -/
def moved (page : Page) (cursor : Nat) (reached : cursor ≤ page.bytes.length) : Page :=
  { page with cursor, reached }

/-- The page with more room. -/
def enlarged (page : Page) (capacity : Nat) (allowed : capacity ≤ page.limit) : Page :=
  { page with
    spare := page.spare ++ Bytes.zeros (capacity - page.capacity)
    limited := by
      have limited := page.limited
      simp only [Page.capacity, List.length_append, Bytes.length_zeros]
      omega }

/-- The page with other bytes, all of them ahead, in a buffer of the same size. -/
def loaded (page : Page) (bytes spare : Bytes)
    (same : bytes.length + spare.length = page.capacity) : Page where
  bytes := bytes
  spare := spare
  cursor := 0
  limit := page.limit
  reached := Nat.zero_le _
  limited := same ▸ page.limited

/-- The page with no bytes, in a buffer of the same size. -/
def emptied (page : Page) (spare : Bytes) (same : spare.length = page.capacity) : Page :=
  page.loaded [] spare (by rw [List.length_nil, Nat.zero_add, same])

theorem capacity_loaded (page : Page) {bytes spare : Bytes}
    (same : bytes.length + spare.length = page.capacity) :
    (page.loaded bytes spare same).capacity = page.capacity :=
  same

theorem capacity_emptied (page : Page) (spare : Bytes) (same : spare.length = page.capacity) :
    (page.emptied spare same).capacity = page.capacity :=
  page.capacity_loaded _

/-- As much of `source` as there is room for behind the cursor. -/
def fitting (page : Page) (source : Bytes) : Bytes := source.take (page.capacity - page.cursor)

/-- What is fitting for a page does not reach beyond it. -/
theorem fitting_fits (page : Page) (source : Bytes) :
    page.cursor + (page.fitting source).length ≤ page.capacity := by
  have reached := page.reached
  rw [fitting, List.length_take]
  simp only [capacity]
  omega

/-- At most `count` bytes from the cursor on. -/
def ahead (page : Page) (count : Nat) : Bytes := (page.bytes.drop page.cursor).take count

/-- What is ahead of the cursor is cut at the last byte. -/
theorem length_ahead (page : Page) (count : Nat) :
    (page.ahead count).length = min (page.bytes.length - page.cursor) count := by
  rw [ahead, List.length_take, List.length_drop, Nat.min_comm]

/-- The cursor stays within the bytes when what is ahead was taken. -/
theorem ahead_within (page : Page) (count : Nat) :
    page.cursor + (page.ahead count).length ≤ page.bytes.length := by
  have reached := page.reached
  rw [length_ahead]
  omega

theorem length_fill (page : Page) (fill : Fill) :
    (fill.run (page.bytes ++ page.spare)).1.length = page.capacity := by
  rw [fill.keeps, List.length_append, capacity]

theorem length_parts {filled : Bytes} {size : Nat} (same : filled.length = size) (count : Nat) :
    (filled.take count).length + (filled.drop count).length = size := by
  rw [← List.length_append, List.take_append_drop, same]

/-- The page after its buffer was filled anew. Its bytes are those that are said to be produced, and
there are none if that is nothing or more than there can be. -/
def refilled (page : Page) (filled : Bytes) (outcome : Except StreamError Nat)
    (same : filled.length = page.capacity) : Outcome StreamError WindowAnswer × Page :=
  match outcome with
  | .ok count =>
      if count ≤ page.capacity then
        (.ok (.count count),
          page.loaded (filled.take count) (filled.drop count) (length_parts same count))
      else (.broken (.refillAboveCapacity count page.capacity), page.emptied filled same)
  | .error cause => (.error cause, page.emptied filled same)

/-- What a page does. What is put is laid over the bytes at the cursor, and a cursor moves to any
place among the bytes or right behind them. -/
def perform (page : Page) : WindowOperation → Outcome StreamError WindowAnswer × Page
  | .put source =>
      (.ok (.count (page.fitting source).length),
        page.patched (page.fitting source) (page.fitting_fits source))
  | .take count =>
      (.ok (.taken (page.ahead count)),
        page.moved (page.cursor + (page.ahead count).length) (page.ahead_within count))
  | .grow capacity granted =>
      if allowed : capacity ≤ page.limit then
        if page.capacity < capacity ∧ granted = false then (.error (.allocation capacity), page)
        else (.ok .done, page.enlarged capacity allowed)
      else (.broken (.growthAboveLimit capacity page.limit), page)
  | .clear => (.ok .done, page.emptied (page.bytes ++ page.spare) List.length_append)
  | .canShift delta =>
      (.ok (.possible (0 ≤ page.cursor + delta ∧ page.cursor + delta ≤ page.bytes.length)), page)
  | .shift delta =>
      if inside : 0 ≤ page.cursor + delta ∧ page.cursor + delta ≤ page.bytes.length then
        (.ok .done, page.moved (page.cursor + delta).toNat (by omega))
      else
        (.broken (.shiftOutside delta page.cursor (page.bytes.length - page.cursor)), page)
  | .refill fill =>
      page.refilled (fill.run (page.bytes ++ page.spare)).1 (fill.run (page.bytes ++ page.spare)).2
        (page.length_fill fill)

/-- The answers to a sequence of operations, and the page after them. -/
def run : List WindowOperation → Page → List (Outcome StreamError WindowAnswer) × Page
  | [], page => ([], page)
  | operation :: rest, page =>
      let (answer, after) := page.perform operation
      let (answers, final) := run rest after
      (answer :: answers, final)

/-- What is asked of a page but cannot be done, and how it is refused. -/
inductive Oversteps (page : Page) : WindowOperation → Breach → Prop
  /-- To have more room than the limit allows. -/
  | growth {capacity : Nat} {granted : Bool} (above : page.limit < capacity) :
      Oversteps page (.grow capacity granted) (.growthAboveLimit capacity page.limit)
  /-- To have the cursor before the first byte or behind the end. -/
  | shift {delta : Int}
      (outside : ¬ (0 ≤ page.cursor + delta ∧ page.cursor + delta ≤ page.bytes.length)) :
      Oversteps page (.shift delta)
        (.shiftOutside delta page.cursor (page.bytes.length - page.cursor))
  /-- To have more bytes produced than there is room for. -/
  | refill {fill : Fill} {count : Nat} (above : page.capacity < count)
      (claimed : (fill.run (page.bytes ++ page.spare)).2 = .ok count) :
      Oversteps page (.refill fill) (.refillAboveCapacity count page.capacity)

/-- A refill is abandoned exactly if it claims more bytes than the page has room for. -/
theorem refilled_eq_broken_iff (page : Page) (filled : Bytes) (outcome : Except StreamError Nat)
    (same : filled.length = page.capacity) (breach : Breach) :
    (page.refilled filled outcome same).1 = .broken breach ↔
      ∃ count, page.capacity < count ∧ outcome = .ok count ∧
        breach = .refillAboveCapacity count page.capacity := by
  cases outcome with
  | error cause => simp [refilled]
  | ok count =>
      by_cases fits : count ≤ page.capacity
      · simp only [refilled, if_pos fits, reduceCtorEq, Except.ok.injEq, false_iff]
        rintro ⟨_, above, rfl, -⟩
        exact Nat.not_le.mpr above fits
      · simp only [refilled, if_neg fits, Outcome.broken.injEq, Except.ok.injEq]
        constructor
        · rintro rfl
          exact ⟨count, Nat.not_le.mp fits, rfl, rfl⟩
        · rintro ⟨_, -, rfl, rfl⟩
          rfl

/-- Nothing else is ever refused. -/
theorem perform_eq_broken_iff (page : Page) (operation : WindowOperation) (breach : Breach) :
    (page.perform operation).1 = .broken breach ↔ page.Oversteps operation breach := by
  constructor
  · intro refused
    cases operation with
    | put source => simp [perform] at refused
    | take count => simp [perform] at refused
    | grow capacity granted =>
        rw [perform] at refused
        split at refused
        · split at refused <;> simp at refused
        · next above =>
            obtain rfl : Breach.growthAboveLimit capacity page.limit = breach := by
              simpa using refused
            exact .growth (Nat.not_le.mp above)
    | clear => simp [perform] at refused
    | canShift delta => simp [perform] at refused
    | shift delta =>
        rw [perform] at refused
        split at refused
        · simp at refused
        · next outside =>
            obtain rfl : Breach.shiftOutside delta page.cursor
                (page.bytes.length - page.cursor) = breach := by
              simpa using refused
            exact .shift outside
    | refill fill =>
        obtain ⟨count, above, claimed, rfl⟩ :=
          (page.refilled_eq_broken_iff _ _ (page.length_fill fill) breach).mp refused
        exact .refill above claimed
  · intro oversteps
    cases oversteps with
    | growth above => simp [perform, Nat.not_le.mpr above]
    | shift outside => rw [perform, dif_neg outside]
    | refill above claimed =>
        exact (page.refilled_eq_broken_iff _ _ (page.length_fill _) _).mpr ⟨_, above, claimed, rfl⟩

/-- A patch leaves the page as large as it is. -/
theorem capacity_patched (page : Page) (patch : Bytes)
    (fits : page.cursor + patch.length ≤ page.capacity) :
    (page.patched patch fits).capacity = page.capacity := by
  simp only [patched, capacity, Bytes.length_overlay, List.length_drop] at fits ⊢
  omega

/-- A page never shrinks. -/
theorem le_capacity_enlarged (page : Page) (capacity : Nat) (allowed : capacity ≤ page.limit) :
    page.capacity ≤ (page.enlarged capacity allowed).capacity := by
  simp only [enlarged, Page.capacity, List.length_append]
  omega

/-- A refill changes neither limit nor size, however it ends. -/
theorem keeps_refilled (page : Page) (filled : Bytes) (outcome : Except StreamError Nat)
    (same : filled.length = page.capacity) :
    (page.refilled filled outcome same).2.limit = page.limit ∧
      (page.refilled filled outcome same).2.capacity = page.capacity := by
  cases outcome with
  | error cause => exact ⟨rfl, page.capacity_emptied filled same⟩
  | ok count =>
      rw [refilled]
      split
      · exact ⟨rfl, page.capacity_loaded (length_parts same count)⟩
      · exact ⟨rfl, page.capacity_emptied filled same⟩

/-- No page shrinks, and how large it may become is settled once and for all. -/
theorem keeps_perform (page : Page) (operation : WindowOperation) :
    (page.perform operation).2.limit = page.limit ∧
      page.capacity ≤ (page.perform operation).2.capacity := by
  cases operation with
  | put source =>
      exact ⟨rfl, Nat.le_of_eq (page.capacity_patched _ (page.fitting_fits source)).symm⟩
  | take count => exact ⟨rfl, Nat.le_refl _⟩
  | grow capacity granted =>
      rw [perform]
      split
      · next allowed =>
          split
          · exact ⟨rfl, Nat.le_refl _⟩
          · exact ⟨rfl, page.le_capacity_enlarged capacity allowed⟩
      · exact ⟨rfl, Nat.le_refl _⟩
  | clear => exact ⟨rfl, Nat.le_of_eq (page.capacity_emptied _ List.length_append).symm⟩
  | canShift delta => exact ⟨rfl, Nat.le_refl _⟩
  | shift delta =>
      rw [perform]
      split
      · exact ⟨rfl, Nat.le_refl _⟩
      · exact ⟨rfl, Nat.le_refl _⟩
  | refill fill =>
      obtain ⟨limit, capacity⟩ := page.keeps_refilled _ _ (page.length_fill fill)
      exact ⟨limit, Nat.le_of_eq capacity.symm⟩

/-- By induction on the operations, the limit stays and the page never shrinks. -/
theorem keeps_run (operations : List WindowOperation) (page : Page) :
    (run operations page).2.limit = page.limit ∧
      page.capacity ≤ (run operations page).2.capacity := by
  induction operations generalizing page with
  | nil => exact ⟨rfl, Nat.le_refl _⟩
  | cons operation rest ih =>
      obtain ⟨limit, capacity⟩ := page.keeps_perform operation
      obtain ⟨same, larger⟩ := ih (page.perform operation).2
      exact ⟨same.trans limit, Nat.le_trans capacity larger⟩

/-- The page laid out in one buffer. -/
def window (page : Page) : Window where
  data := page.bytes ++ page.spare
  cursor := page.cursor
  unread := page.bytes.length - page.cursor
  limit := page.limit

variable (page : Page)

@[simp] theorem cursor_window : page.window.cursor = page.cursor := rfl

@[simp] theorem unread_window : page.window.unread = page.bytes.length - page.cursor := rfl

@[simp] theorem limit_window : page.window.limit = page.limit := rfl

@[simp] theorem capacity_window : page.window.capacity = page.capacity :=
  List.length_append

/-- They have the same room behind the cursor. -/
@[simp] theorem spare_window : page.window.spare = page.capacity - page.cursor := by
  rw [Window.spare, capacity_window, cursor_window]

@[simp] theorem extent_window : page.window.extent = page.bytes.length :=
  Nat.add_sub_cancel' page.reached

@[simp] theorem occupied_window : page.window.occupied = page.bytes := by
  rw [Window.occupied, extent_window]
  exact List.take_left

/-- The window of a page is always in bounds, as the page has no room for anything else. -/
theorem inBounds_window : page.window.InBounds := by
  rw [Window.inBounds_iff, extent_window, capacity_window]
  exact Nat.le_add_right _ _

/-- A page that is enlarged has the window enlarged. -/
theorem window_enlarged (capacity : Nat) (allowed : capacity ≤ page.limit) :
    (page.enlarged capacity allowed).window = page.window.enlarged capacity := by
  rw [Window.enlarged, capacity_window]
  simp only [enlarged, window, List.append_assoc]

/-- To ask for no more room than there is changes nothing. -/
theorem enlarged_of_le {capacity : Nat} (allowed : capacity ≤ page.limit)
    (large : capacity ≤ page.capacity) : page.enlarged capacity allowed = page := by
  simp only [enlarged, Nat.sub_eq_zero_of_le large, Bytes.zeros_zero, List.append_nil]

/-- Every window within its bounds and its limit is the layout of a page. -/
theorem exists_window_eq {window : Window} (bounded : window.InBounds)
    (limited : window.capacity ≤ window.limit) : ∃ page : Page, page.window = window := by
  have inside : window.extent ≤ window.data.length := Window.inBounds_iff.mp bounded
  have length : window.occupied.length = window.extent := List.length_take_of_le inside
  have reached : window.cursor ≤ window.occupied.length := by
    rw [length]
    exact Nat.le_add_right _ _
  have room : window.occupied.length + (window.data.drop window.extent).length ≤ window.limit := by
    rw [← List.length_append, Window.occupied, List.take_append_drop]
    exact limited
  exists ⟨window.occupied, window.data.drop window.extent, window.cursor, window.limit, reached,
    room⟩
  simp only [Page.window, length, Window.extent, Nat.add_sub_cancel_left]
  rw [Window.occupied, Window.extent, List.take_append_drop]

end Page

namespace Window

/-- What a window does. -/
def perform : WindowOperation → Action Window StreamError WindowAnswer
  | .put source => .count <$> put source
  | .take count => .taken <$> take count
  | .grow capacity granted => (fun _ => .done) <$> grow capacity granted
  | .clear => (fun _ => .done) <$> clear
  | .canShift delta => (fun window => .possible (window.canShift delta)) <$> .get
  | .shift delta => (fun _ => .done) <$> shift delta
  | .refill fill => .count <$> refill fill.run

/-- The answers to a sequence of operations, and the window after them. -/
def run : List WindowOperation → Window → List (Outcome StreamError WindowAnswer) × Window
  | [], window => ([], window)
  | operation :: rest, window =>
      let (answer, after) := perform operation window
      let (answers, final) := run rest after
      (answer :: answers, final)

variable (page : Page)

/-- Putting bytes into the window puts them on the page. -/
theorem put_page (source : Bytes) :
    perform (.put source) page.window =
      ((page.perform (.put source)).1, (page.perform (.put source)).2.window) := by
  simp only [perform, Page.perform, Action.map_apply, put_apply page.inBounds_window,
    Page.spare_window, Outcome.map_ok, Page.fitting]
  congr 1
  simp only [Page.window, patched, Page.patched, Window.mk.injEq, true_and, and_true]
  constructor
  · exact Bytes.overlay_append page.reached _
  · -- What is unread afterwards is what the longer of the two leaves behind the cursor.
    rw [Bytes.length_overlay]
    omega

/-- The unread bytes of the window are those ahead on the page. -/
theorem slice_page (count : Nat) :
    page.window.data.slice page.cursor (page.cursor + min (page.bytes.length - page.cursor) count) =
      page.ahead count := by
  have reached := page.reached
  change (page.bytes ++ page.spare).slice _ _ = _
  -- The slice ends among the bytes, so that it does not reach what is left over.
  rw [Bytes.slice_append_left _ _ (by omega), Bytes.slice, Nat.add_sub_cancel_left,
    ← List.length_drop, Nat.min_comm, ← List.take_eq_take_min, Page.ahead]

/-- Taking bytes from the window takes them from the page. -/
theorem take_page (count : Nat) :
    perform (.take count) page.window =
      ((page.perform (.take count)).1, (page.perform (.take count)).2.window) := by
  simp only [perform, Page.perform, Action.map_apply, take_apply page.inBounds_window,
    Outcome.map_ok, Page.cursor_window, Page.unread_window, slice_page]
  congr 1
  simp only [Page.window, consumed, Page.moved, Page.length_ahead, Window.mk.injEq, true_and,
    and_true]
  omega

/-- The window grows as the page does, if there is memory, and is refused as the page is if not. -/
theorem grow_page (capacity : Nat) (granted : Bool) :
    perform (.grow capacity granted) page.window =
      ((page.perform (.grow capacity granted)).1,
        (page.perform (.grow capacity granted)).2.window) := by
  simp only [perform, Page.perform, Action.map_apply]
  by_cases allowed : capacity ≤ page.limit
  · rw [dif_pos allowed]
    by_cases large : capacity ≤ page.capacity
    · have enough : ¬(page.capacity < capacity ∧ granted = false) := fun scarce =>
        Nat.not_lt.mpr large scarce.1
      rw [if_neg enough, grow_of_le granted allowed ((Page.capacity_window page).symm ▸ large),
        page.enlarged_of_le allowed large]
      rfl
    · have small : page.window.capacity < capacity := by
        rw [Page.capacity_window]
        exact Nat.not_le.mp large
      cases granted with
      | true =>
          rw [if_neg (by simp), grow_apply page.inBounds_window allowed small,
            ← Page.window_enlarged page capacity allowed]
          rfl
      | false =>
          rw [if_pos ⟨Nat.not_le.mp large, rfl⟩, grow_refused allowed small]
          rfl
  · rw [dif_neg allowed]
    simp [grow, Action.bind_apply, Action.ensure, allowed]

/-- Clearing the window clears the page. -/
theorem clear_page :
    perform .clear page.window = ((page.perform .clear).1, (page.perform .clear).2.window) := by
  rfl

/-- The window can be shifted exactly if the cursor stays on the page. -/
theorem canShift_window (delta : Int) :
    page.window.canShift delta =
      decide (0 ≤ page.cursor + delta ∧ page.cursor + delta ≤ page.bytes.length) := by
  have inside := page.reached
  rw [Bool.eq_iff_iff, decide_eq_true_eq, canShift, Page.unread_window, Page.cursor_window]
  split
  · rw [decide_eq_true_eq]
    omega
  · rw [decide_eq_true_eq]
    omega

/-- Window and page agree on whether a shift is possible. -/
theorem canShift_page (delta : Int) :
    perform (.canShift delta) page.window =
      ((page.perform (.canShift delta)).1, (page.perform (.canShift delta)).2.window) := by
  rw [perform, Action.map_apply, Action.get_apply, Outcome.map_ok, canShift_window]
  rfl

/-- Shifting the window moves the cursor on the page. -/
theorem shift_page (delta : Int) :
    perform (.shift delta) page.window =
      ((page.perform (.shift delta)).1, (page.perform (.shift delta)).2.window) := by
  have may := canShift_window page delta
  have reached := page.reached
  simp only [perform, Page.perform, Action.map_apply]
  by_cases inside : 0 ≤ page.cursor + delta ∧ page.cursor + delta ≤ page.bytes.length
  · rw [decide_eq_true inside] at may
    obtain ⟨low, high⟩ := inside
    rw [dif_pos ⟨low, high⟩, shift_apply page.inBounds_window may]
    by_cases forward : 0 ≤ delta
    · rw [if_pos forward]
      simp only [consumed, Page.window, Page.moved, Outcome.map_ok, Prod.mk.injEq,
        Window.mk.injEq, true_and, and_true]
      omega
    · rw [if_neg forward]
      simp only [returned, Page.window, Page.moved, Outcome.map_ok, Prod.mk.injEq,
        Window.mk.injEq, true_and, and_true]
      omega
  · rw [decide_eq_false inside] at may
    rw [dif_neg inside]
    simp [shift, Action.bind_apply, Action.ensure, may]

/-- A buffer of which the first `count` bytes are occupied. -/
theorem loaded_page {filled : Bytes} {count : Nat} (same : filled.length = page.capacity)
    (fits : count ≤ filled.length) :
    page.window.loaded filled count =
      (page.loaded (filled.take count) (filled.drop count)
        (Page.length_parts same count)).window := by
  simp only [loaded, Page.window, Page.loaded, List.take_append_drop, Nat.sub_zero,
    List.length_take_of_le fits]

/-- A count above the size of the buffer is not accepted. -/
theorem accept_above {filled : Bytes} {count : Nat} (above : filled.length < count) :
    (accept filled count : Action Window StreamError Unit) page.window =
      (.broken (.refillAboveCapacity count filled.length), page.window.loaded filled 0) := by
  simp [accept, Action.bind_apply, Action.ensure, loaded, capacity, Nat.not_le.mpr above]

/-- However a refill of the window ends, it ends so for the page. -/
theorem refilled_page {fill : Bytes → Bytes × Except StreamError Nat} {filled : Bytes}
    {outcome : Except StreamError Nat} (filling : fill page.window.data = (filled, outcome))
    (same : filled.length = page.capacity) :
    (.count <$> refill fill : Action Window StreamError WindowAnswer) page.window =
      ((page.refilled filled outcome same).1, (page.refilled filled outcome same).2.window) := by
  simp only [Action.map_apply, refill, Action.bind_apply, Action.get_apply, filling]
  cases outcome with
  | error cause => rfl
  | ok count =>
      by_cases fits : count ≤ filled.length
      · simp only [Action.bind_apply, accept_apply fits, Page.refilled, if_pos (same ▸ fits),
          loaded_page page same fits]
        rfl
      · simp only [Action.bind_apply, accept_above page (Nat.not_le.mp fits), Page.refilled,
          if_neg (same ▸ fits), same]
        rfl

/-- Refilling the window refills the page. -/
theorem refill_page (fill : Fill) :
    perform (.refill fill) page.window =
      ((page.perform (.refill fill)).1, (page.perform (.refill fill)).2.window) :=
  refilled_page page rfl (page.length_fill fill)

/-- What is done to a window is done to its page. -/
theorem perform_page (operation : WindowOperation) :
    perform operation page.window =
      ((page.perform operation).1, (page.perform operation).2.window) := by
  cases operation with
  | put source => exact put_page page source
  | take count => exact take_page page count
  | grow capacity granted => exact grow_page page capacity granted
  | clear => exact clear_page page
  | canShift delta => exact canShift_page page delta
  | shift delta => exact shift_page page delta
  | refill fill => exact refill_page page fill

/-- By induction on the operations, the window goes through what the page goes through. -/
theorem run_page (operations : List WindowOperation) (page : Page) :
    run operations page.window =
      ((Page.run operations page).1, (Page.run operations page).2.window) := by
  induction operations generalizing page with
  | nil => rfl
  | cons operation rest ih => simp only [run, Page.run, perform_page, ih]

/-- A window is created as an empty page, if there is memory for it. -/
theorem create_page {capacity limit : Nat} (ordered : capacity ≤ limit) (granted : Bool) :
    create capacity limit granted =
      if granted then .ok (Page.create ordered).window
      else .error (.allocation capacity) := by
  rw [create, if_neg (Nat.not_lt.mpr ordered)]
  rfl

/-- A window shows what `page` holds, in a buffer of at least `capacity` bytes and of no more than
`limit`. -/
structure ActsAs (window : Window) (page : Page) (capacity limit : Nat) : Prop where
  /-- The window is the page, laid out in one buffer. -/
  layout : window = page.window
  /-- What is occupied are the bytes of the page. -/
  occupied : window.occupied = page.bytes
  /-- The cursor is the one of the page, among the bytes or right behind them. -/
  reached : window.cursor = page.cursor ∧ page.cursor ≤ page.bytes.length
  /-- The buffer has room for the bytes. -/
  within : page.bytes.length ≤ window.capacity
  /-- The buffer never shrank. -/
  larger : capacity ≤ window.capacity
  limited : window.capacity ≤ limit
  /-- A check fails only if the caller oversteps. -/
  refuses : ∀ operation breach,
    (perform operation window).1 = .broken breach ↔ page.Oversteps operation breach

/-- The layout of a page acts as the page. -/
theorem actsAs_page {page : Page} {capacity limit : Nat} (larger : capacity ≤ page.capacity)
    (same : page.limit = limit) : ActsAs page.window page capacity limit where
  layout := rfl
  occupied := page.occupied_window
  reached := ⟨rfl, page.reached⟩
  within := by
    rw [Page.capacity_window, Page.capacity]
    exact Nat.le_add_right _ _
  larger := by
    rw [Page.capacity_window]
    exact larger
  limited := by
    rw [Page.capacity_window, ← same]
    exact page.limited
  refuses := fun operation breach => by
    rw [perform_page]
    exact page.perform_eq_broken_iff operation breach

/-- **Windows are pages.** A window is created if there is memory for it, as an empty page of its
size. Whatever is done to it after that, and whether or not there is memory each time that it is to
grow, the window answers what the page answers and holds what the page holds. It never shrinks or
exceeds its limit, and a check fails only if the caller oversteps. -/
theorem run_eq_page {capacity limit : Nat} (ordered : capacity ≤ limit) :
    (∀ granted, create capacity limit granted =
      if granted then .ok (Page.create ordered).window else .error (.allocation capacity)) ∧
    ∀ operations : List WindowOperation,
      (run operations (Page.create ordered).window).1 =
          (Page.run operations (Page.create ordered)).1 ∧
        ActsAs (run operations (Page.create ordered).window).2
          (Page.run operations (Page.create ordered)).2 capacity limit := by
  apply And.intro (create_page ordered)
  intro operations
  obtain ⟨same, larger⟩ := Page.keeps_run operations (Page.create ordered)
  have created : (Page.create ordered).capacity = capacity := by
    rw [Page.capacity, Page.create, List.length_nil, Nat.zero_add, Bytes.length_zeros]
  rw [run_page]
  exact ⟨rfl, actsAs_page (Nat.le_trans (Nat.le_of_eq created.symm) larger) same⟩

/-- A patch that ends among the bytes and one that reaches past them, a growth for which there is no
memory at first, and what oversteps. -/
def straddling : List WindowOperation :=
  [.put [1, 2, 3, 4], .shift (-2), .put [9], .grow 5 false, .grow 5 true, .put [7, 8, 6, 5],
    .grow 6 true, .shift 1, .shift (-5), .take 3]

/-- The window keeps the first patches while it cannot grow. -/
theorem run_eq_page_straddling :
    ∃ ordered : 3 ≤ 5,
      create 3 5 false = .error (.allocation 3) ∧
      create 3 5 true = .ok (Page.create ordered).window ∧
      (run straddling (Page.create ordered).window).1 =
        [.ok (.count 3), .ok .done, .ok (.count 1), .error (.allocation 5), .ok .done,
          .ok (.count 3), .broken (.growthAboveLimit 6 5), .broken (.shiftOutside 1 5 0),
          .ok .done, .ok (.taken [1, 9, 7])] ∧
      (run straddling (Page.create ordered).window).2.occupied = [1, 9, 7, 8, 6] := by
  obtain ⟨created, alike⟩ := run_eq_page (show 3 ≤ 5 by decide)
  obtain ⟨same, acts⟩ := alike straddling
  refine ⟨by decide, created false, created true, same.trans ?_, acts.occupied.trans ?_⟩
  · decide +kernel
  · decide +kernel

end Window

end RemoteStreams
