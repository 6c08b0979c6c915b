/-!
# Primitives

What a stream asks of the world around it: the calls on the session, those that
the session makes on its object store, and requests for memory.
-/

namespace RemoteStreams

/-- The kinds of calls on the remote side, and the requests for memory. -/
inductive Primitive where
  | connect
  | openObject
  | createObject
  | readObject
  | writeObject
  | seekObject
  | position
  | closeObject
  | disconnect
  | storePut
  | storeGet
  | storeGetRange
  | storeHead
  | allocate
deriving DecidableEq, Repr

namespace Primitive

/-- Every primitive once. -/
def all : List Primitive :=
  [.connect, .openObject, .createObject, .readObject, .writeObject, .seekObject, .position,
    .closeObject, .disconnect, .storePut, .storeGet, .storeGetRange, .storeHead,
    .allocate]

/-- The name of a primitive in reports. -/
def name : Primitive → String
  | .connect => "connect"
  | .openObject => "open"
  | .createObject => "create"
  | .readObject => "read"
  | .writeObject => "write"
  | .seekObject => "seek"
  | .position => "position"
  | .closeObject => "close"
  | .disconnect => "disconnect"
  | .storePut => "store.put"
  | .storeGet => "store.get"
  | .storeGetRange => "store.get_range"
  | .storeHead => "store.head"
  | .allocate => "allocate"

/-- The primitive of a name. -/
def ofName? (name : String) : Option Primitive :=
  all.find? (fun primitive => primitive.name = name)

theorem mem_all (primitive : Primitive) : primitive ∈ all := by
  cases primitive <;> decide

theorem ofName?_name (primitive : Primitive) : ofName? primitive.name = some primitive := by
  cases primitive <;> decide

end Primitive

end RemoteStreams
