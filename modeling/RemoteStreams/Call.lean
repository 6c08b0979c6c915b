import RemoteStreams.Bytes
import RemoteStreams.Identifier
import RemoteStreams.ObjectPath
import RemoteStreams.OpenMode
import RemoteStreams.Primitive

/-!
# Calls

A call is one use of a primitive with what it was given. The remote side keeps
the calls made on it, so that it can be told what an operation costs.
-/

namespace RemoteStreams

/-- A use of a primitive. -/
inductive Call where
  | connect
  | openObject (path : String) (mode : OpenMode)
  | createObject (path : String)
  | readObject (object : ObjectId) (count : Nat)
  | writeObject (object : ObjectId) (data : Bytes)
  | seekObject (object : ObjectId) (target : SeekTarget)
  | position (object : ObjectId)
  | closeObject (object : ObjectId)
  | disconnect
  | storePut (location : ObjectPath) (data : Bytes)
  | storeGet (location : ObjectPath)
  | storeGetRange (location : ObjectPath) (start stop : Nat)
  | storeHead (location : ObjectPath)
deriving DecidableEq, Repr

namespace Call

/-- The primitive that a call uses. -/
def primitive : Call → Primitive
  | .connect => .connect
  | .openObject _ _ => .openObject
  | .createObject _ => .createObject
  | .readObject _ _ => .readObject
  | .writeObject _ _ => .writeObject
  | .seekObject _ _ => .seekObject
  | .position _ => .position
  | .closeObject _ => .closeObject
  | .disconnect => .disconnect
  | .storePut _ _ => .storePut
  | .storeGet _ => .storeGet
  | .storeGetRange _ _ _ => .storeGetRange
  | .storeHead _ => .storeHead

/-- The path that a call names, empty if it names none. -/
def path : Call → String
  | .openObject path _ | .createObject path => path
  | .storePut location _ | .storeGet location | .storeGetRange location _ _
  | .storeHead location => location.text
  | .connect | .readObject _ _ | .writeObject _ _ | .seekObject _ _ | .position _
  | .closeObject _ | .disconnect => ""

end Call

/-- How many of the calls use `primitive`. -/
def countCalls (calls : List Call) (primitive : Primitive) : Nat :=
  calls.countP (fun call => call.primitive = primitive)

end RemoteStreams
