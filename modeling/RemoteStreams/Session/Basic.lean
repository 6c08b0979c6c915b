import RemoteStreams.Descriptor
import RemoteStreams.FiniteMap
import RemoteStreams.Identifier

/-!
# Sessions

A session is the one connection to an object store that all streams share. It
numbers the objects it opens and keeps a descriptor for each, and it remembers
the sizes that the store reported, so as not to ask again.
-/

namespace RemoteStreams

/-- A connection to an object store. -/
structure Session where
  connected : Bool
  /-- The number of the object that was opened last. -/
  lastNumber : Nat
  descriptors : FiniteMap ObjectId Descriptor
  /-- The sizes of objects that the store reported and no upload has outdated since. -/
  sizes : FiniteMap ObjectPath Nat
  /-- Whether reported sizes are remembered at all. -/
  remembersSizes : Bool

namespace Session

/-- A session that was never connected. -/
def create (remembersSizes : Bool) : Session where
  connected := false
  lastNumber := 0
  descriptors := ∅
  sizes := ∅
  remembersSizes := remembersSizes

/-- What a session says of itself. -/
def description : String := "ObjectStoreSession(inner=InMemory)"

/-- The number of open objects. -/
def openObjects (session : Session) : Nat := session.descriptors.size

/-- The id of the object that is opened next. -/
def nextObject (session : Session) : ObjectId := ⟨session.lastNumber + 1⟩

/-- The session with a new open object. -/
def add (session : Session) (descriptor : Descriptor) : Session :=
  { session with
    lastNumber := session.lastNumber + 1
    descriptors := session.descriptors.insert session.nextObject descriptor }

/-- The session with another descriptor for an open object. -/
def update (session : Session) (object : ObjectId) (descriptor : Descriptor) : Session :=
  { session with descriptors := session.descriptors.insert object descriptor }

/-- The session without an open object. -/
def remove (session : Session) (object : ObjectId) : Session :=
  { session with descriptors := session.descriptors.erase object }

/-- The session after the store reported a size. -/
def remember (session : Session) (location : ObjectPath) (size : Nat) : Session :=
  if session.remembersSizes then
    { session with sizes := session.sizes.insert location size }
  else session

/-- The session without a remembered size for `location`. -/
def forget (session : Session) (location : ObjectPath) : Session :=
  { session with sizes := session.sizes.erase location }

/-- The session without a connection and without open objects. -/
def disconnected (session : Session) : Session :=
  { session with connected := false, descriptors := ∅ }

end Session

end RemoteStreams
