/-!
# Outcomes

An operation of this library ends in one of three ways: with a value, with an
error that is reported to the caller, or with a breach, when one of the
library's own checks fails and the operation is abandoned where it stood.
-/

namespace RemoteStreams

/-- A check of the library that failed. -/
inductive Breach where
  /-- A window was asked for that starts out larger than it may ever grow. -/
  | capacityAboveLimit (capacity limit : Nat)
  /-- A window was to grow past its limit. -/
  | growthAboveLimit (capacity limit : Nat)
  /-- A refill claims more bytes than the window holds. -/
  | refillAboveCapacity (count capacity : Nat)
  /-- The cursor of a window was to leave the occupied part. -/
  | shiftOutside (delta : Int) (cursor unread : Nat)
  /-- The counters of a window do not fit its data. -/
  | windowOutOfBounds (cursor unread capacity : Nat)
  /-- A window that still matters was about to be replaced. -/
  | windowInUse
  /-- A window that was made large enough did not take all bytes. -/
  | windowTooSmall
  /-- The buffer sizes of the settings are zero or in the wrong order. -/
  | bufferSizes (initial max : Nat)
  /-- A transfer claims more bytes than its buffer has. -/
  | countPastBuffer (count length : Nat)
  /-- Staged content would grow past what memory can address. -/
  | contentTooLarge
  /-- A sum left the range of machine words. -/
  | additionOverflow
deriving DecidableEq, Repr

/-- The text a breach is reported with. -/
def Breach.message : Breach → String
  | .capacityAboveLimit capacity limit =>
      s!"initial capacity {capacity} exceeds limit {limit}"
  | .growthAboveLimit capacity limit =>
      s!"window growth to {capacity} exceeds limit {limit}"
  | .refillAboveCapacity count capacity =>
      s!"refill produced {count} bytes into a window of {capacity}"
  | .shiftOutside delta cursor unread =>
      s!"shift by {delta} leaves window (cursor {cursor}, unread {unread})"
  | .windowOutOfBounds cursor unread capacity =>
      s!"window out of bounds: cursor {cursor} unread {unread} capacity {capacity}"
  | .windowInUse => "window is dirty or holds unread bytes"
  | .windowTooSmall => "window does not hold the rest of the write"
  | .bufferSizes initial max => s!"invalid buffer sizes: initial {initial} max {max}"
  | .countPastBuffer count length =>
      s!"range start index {count} out of range for slice of length {length}"
  | .contentTooLarge => "capacity overflow"
  | .additionOverflow => "attempt to add with overflow"

/-- How an operation ends. -/
inductive Outcome (ε α : Type) where
  /-- The operation delivers a value. -/
  | ok (value : α)
  /-- The operation failed for a reason its caller is told. -/
  | error (cause : ε)
  /-- A check failed and the operation was abandoned. -/
  | broken (breach : Breach)
deriving DecidableEq, Repr

namespace Outcome

variable {ε ε' α β : Type}

/-- Applies a function to the value. -/
def map (convert : α → β) : Outcome ε α → Outcome ε β
  | .ok value => .ok (convert value)
  | .error cause => .error cause
  | .broken breach => .broken breach

/-- Applies a function to the error. -/
def mapError (convert : ε → ε') : Outcome ε α → Outcome ε' α
  | .ok value => .ok value
  | .error cause => .error (convert cause)
  | .broken breach => .broken breach

@[simp] theorem map_ok (convert : α → β) (value : α) :
    (Outcome.ok value : Outcome ε α).map convert = .ok (convert value) := rfl

@[simp] theorem map_error (convert : α → β) (cause : ε) :
    (Outcome.error cause).map convert = .error cause := rfl

@[simp] theorem map_broken (convert : α → β) (breach : Breach) :
    (Outcome.broken breach : Outcome ε α).map convert = .broken breach := rfl

@[simp] theorem mapError_ok (convert : ε → ε') (value : α) :
    (Outcome.ok value).mapError convert = .ok value := rfl

@[simp] theorem mapError_error (convert : ε → ε') (cause : ε) :
    (Outcome.error cause : Outcome ε α).mapError convert = .error (convert cause) := rfl

@[simp] theorem mapError_broken (convert : ε → ε') (breach : Breach) :
    (Outcome.broken breach : Outcome ε α).mapError convert = .broken breach := rfl

end Outcome

end RemoteStreams
