import RemoteStreams.Identifier
import RemoteStreams.ObjectPath
import RemoteStreams.Primitive

/-!
# Errors

Errors are causes. The remote side reports a `RemoteError`, the local disk an
`IoError`, and a stream a `StreamError`, which may carry either. Each has one
function that words it, and `IoError.ofStreamError` is the form in which a
stream error reaches callers that know of local files only.
-/

namespace RemoteStreams

/-- What an unspecific error of the remote side is about. -/
inductive Failure where
  /-- The session has no connection. -/
  | notConnected
  /-- The session has no open object of this id. -/
  | notOpen (object : ObjectId)
  /-- The object was not opened for reading. -/
  | notReadable (object : ObjectId)
  /-- The object was not opened for writing. -/
  | notWritable (object : ObjectId)
  /-- The object is read from the store, so that nothing can be written to it. -/
  | nothingStaged (object : ObjectId)
  /-- A seek would leave the range of positions. -/
  | seekOutOfRange (object : ObjectId) (target : Int)
  /-- A range begins at or past the end of an object. -/
  | rangePastEnd (start length : Nat)
  /-- A write to the object of a stream took only a part of the bytes. -/
  | shortWrite (path : String) (written length : Nat)
  /-- The call was made to fail. -/
  | injected (primitive : Primitive)
  /-- A failure of some other origin. -/
  | other (origin text : String)
deriving DecidableEq, Repr

namespace Failure

/-- Where a failure arose. -/
def origin : Failure → String
  | .notConnected | .notOpen _ | .notReadable _ | .notWritable _ | .nothingStaged _
  | .seekOutOfRange _ _ => "ObjectStoreSession"
  | .rangePastEnd _ _ => "InMemory"
  | .shortWrite _ _ _ => "BufferedHandle"
  | .injected _ => "Fault"
  | .other origin _ => origin

/-- The text of a failure. -/
def text : Failure → String
  | .notConnected => "session is not connected"
  | .notOpen object => s!"{object.text} is not open"
  | .notReadable object => s!"{object.text} is not open for reading"
  | .notWritable object => s!"{object.text} is not open for writing"
  | .nothingStaged object => s!"{object.text} has no staged content"
  | .seekOutOfRange object target => s!"invalid seek of {object.text} to {target}"
  | .rangePastEnd start length =>
      s!"Invalid range: Wanted range starting at {start}, but object was only " ++
        s!"{length} bytes long"
  | .shortWrite path written length => s!"short write to {path}: {written} of {length} bytes"
  | .injected primitive => s!"injected {primitive.name} failure"
  | .other _ text => text

end Failure

/-- An error of the session or its object store. -/
inductive RemoteError where
  | generic (failure : Failure)
  | notFound (path reason : String)
  | invalidPath (fault : PathError)
  | notSupported (reason : String)
  | alreadyExists (path reason : String)
  | precondition (path reason : String)
  | notModified (path reason : String)
  | notImplemented
deriving DecidableEq, Repr

namespace RemoteError

/-- The text of a remote error. -/
def message : RemoteError → String
  | .generic failure => s!"Generic {failure.origin} error: {failure.text}"
  | .notFound path reason => s!"Object at location {path} not found: {reason}"
  | .invalidPath fault => s!"Encountered object with invalid path: {fault.message}"
  | .notSupported reason => s!"Operation not supported: {reason}"
  | .alreadyExists path reason => s!"Object at location {path} already exists: {reason}"
  | .precondition path reason => s!"Request precondition failure for path {path}: {reason}"
  | .notModified path reason => s!"Object at location {path} not modified: {reason}"
  | .notImplemented => "Operation not yet implemented."

/-- The text of what caused a remote error, if something did. -/
def reason? : RemoteError → Option String
  | .generic failure => some failure.text
  | .invalidPath fault => some fault.message
  | .notFound _ reason | .notSupported reason | .alreadyExists _ reason
  | .precondition _ reason | .notModified _ reason => some reason
  | .notImplemented => none

/-- The error of a store that holds no object at `path`. -/
def missing (path : ObjectPath) : RemoteError :=
  .notFound path.text s!"No data in memory found. Location: {path.text}"

end RemoteError

/-- The kinds of errors of local files. -/
inductive IoKind where
  | notFound
  | permissionDenied
  | connectionRefused
  | connectionReset
  | hostUnreachable
  | networkUnreachable
  | connectionAborted
  | notConnected
  | addrInUse
  | addrNotAvailable
  | networkDown
  | brokenPipe
  | alreadyExists
  | wouldBlock
  | notADirectory
  | isADirectory
  | directoryNotEmpty
  | readOnlyFilesystem
  | staleNetworkFileHandle
  | invalidInput
  | invalidData
  | timedOut
  | writeZero
  | storageFull
  | notSeekable
  | quotaExceeded
  | fileTooLarge
  | resourceBusy
  | executableFileBusy
  | deadlock
  | crossesDevices
  | tooManyLinks
  | invalidFilename
  | argumentListTooLong
  | interrupted
  | unsupported
  | unexpectedEof
  | outOfMemory
  | other
  | uncategorized
deriving DecidableEq, Repr

namespace IoKind

/-- Every kind once. -/
def all : List IoKind :=
  [.notFound, .permissionDenied, .connectionRefused, .connectionReset, .hostUnreachable,
    .networkUnreachable, .connectionAborted, .notConnected, .addrInUse, .addrNotAvailable,
    .networkDown, .brokenPipe, .alreadyExists, .wouldBlock, .notADirectory, .isADirectory,
    .directoryNotEmpty, .readOnlyFilesystem, .staleNetworkFileHandle, .invalidInput,
    .invalidData, .timedOut, .writeZero, .storageFull, .notSeekable, .quotaExceeded,
    .fileTooLarge, .resourceBusy, .executableFileBusy, .deadlock, .crossesDevices, .tooManyLinks,
    .invalidFilename, .argumentListTooLong, .interrupted, .unsupported, .unexpectedEof,
    .outOfMemory, .other, .uncategorized]

/-- The name of a kind in reports. -/
def name : IoKind → String
  | .notFound => "NotFound"
  | .permissionDenied => "PermissionDenied"
  | .connectionRefused => "ConnectionRefused"
  | .connectionReset => "ConnectionReset"
  | .hostUnreachable => "HostUnreachable"
  | .networkUnreachable => "NetworkUnreachable"
  | .connectionAborted => "ConnectionAborted"
  | .notConnected => "NotConnected"
  | .addrInUse => "AddrInUse"
  | .addrNotAvailable => "AddrNotAvailable"
  | .networkDown => "NetworkDown"
  | .brokenPipe => "BrokenPipe"
  | .alreadyExists => "AlreadyExists"
  | .wouldBlock => "WouldBlock"
  | .notADirectory => "NotADirectory"
  | .isADirectory => "IsADirectory"
  | .directoryNotEmpty => "DirectoryNotEmpty"
  | .readOnlyFilesystem => "ReadOnlyFilesystem"
  | .staleNetworkFileHandle => "StaleNetworkFileHandle"
  | .invalidInput => "InvalidInput"
  | .invalidData => "InvalidData"
  | .timedOut => "TimedOut"
  | .writeZero => "WriteZero"
  | .storageFull => "StorageFull"
  | .notSeekable => "NotSeekable"
  | .quotaExceeded => "QuotaExceeded"
  | .fileTooLarge => "FileTooLarge"
  | .resourceBusy => "ResourceBusy"
  | .executableFileBusy => "ExecutableFileBusy"
  | .deadlock => "Deadlock"
  | .crossesDevices => "CrossesDevices"
  | .tooManyLinks => "TooManyLinks"
  | .invalidFilename => "InvalidFilename"
  | .argumentListTooLong => "ArgumentListTooLong"
  | .interrupted => "Interrupted"
  | .unsupported => "Unsupported"
  | .unexpectedEof => "UnexpectedEof"
  | .outOfMemory => "OutOfMemory"
  | .other => "Other"
  | .uncategorized => "Uncategorized"

/-- The kind of a name. -/
def ofName? (name : String) : Option IoKind :=
  all.find? (fun kind => kind.name = name)

theorem ofName?_name (kind : IoKind) : ofName? kind.name = some kind := by
  cases kind <;> decide

end IoKind

/-- An error of a local file. -/
structure IoError where
  kind : IoKind
  message : String
deriving DecidableEq, Repr

namespace IoError

/-- There is no file of that name. -/
def noSuchFile : IoError := ⟨.notFound, "No such file or directory (os error 2)"⟩

/-- The file was not opened for this direction. -/
def badDescriptor : IoError := ⟨.uncategorized, "Bad file descriptor (os error 9)"⟩

/-- A step of the path that should be a directory is a file. -/
def notDirectory : IoError := ⟨.notADirectory, "Not a directory (os error 20)"⟩

/-- The file is a directory. -/
def isDirectory : IoError := ⟨.isADirectory, "Is a directory (os error 21)"⟩

/-- The position of a seek is negative. -/
def invalidArgument : IoError := ⟨.invalidInput, "Invalid argument (os error 22)"⟩

/-- The file would grow past the largest position. -/
def tooLarge : IoError := ⟨.fileTooLarge, "File too large (os error 27)"⟩

/-- The path, or a name in it, has too many bytes. -/
def nameTooLong : IoError := ⟨.invalidFilename, "File name too long (os error 36)"⟩

/-- The path holds a NUL character. -/
def nulInPath : IoError := ⟨.invalidInput, "file name contained an unexpected NUL byte"⟩

/-- The stream ended before a buffer was full. -/
def endOfStream : IoError := ⟨.unexpectedEof, "failed to fill whole buffer"⟩

/-- The stream takes no more bytes. -/
def nothingWritten : IoError := ⟨.writeZero, "failed to write whole buffer"⟩

end IoError

/-- An error of a stream. -/
inductive StreamError where
  /-- The bytes of a window could not be allocated. -/
  | allocation (requested : Nat)
  /-- The session failed. -/
  | remote (cause : RemoteError)
  /-- As many remote streams are open as there may be. -/
  | tableFull (capacity : Nat)
  /-- The id does not name an open stream. -/
  | badHandle (stream : StreamId)
  /-- A seek would move before the start or past the last position. -/
  | invalidSeek (position : Int)
  /-- The items of a transfer do not fit into its buffer. -/
  | shortBuffer (needed length : Nat)
  /-- A local file failed. -/
  | io (cause : IoError)
deriving DecidableEq, Repr

namespace StreamError

/-- The text of a stream error. -/
def message : StreamError → String
  | .allocation requested => s!"failed to allocate a cache buffer of {requested} bytes"
  | .remote cause => cause.message
  | .tableFull capacity => s!"too many open remote streams (capacity {capacity})"
  | .badHandle stream => s!"{stream.text} does not refer to an open stream"
  | .invalidSeek position => s!"invalid seek to negative position {position}"
  | .shortBuffer needed length => s!"buffer of {length} bytes cannot hold {needed} bytes"
  | .io cause => cause.message

/-- The largest number of bytes that one collection may hold: one less than two to
the power of 63. -/
def collectionLimit : Nat := 9223372036854775807

/-- The text of what caused a stream error, if something did. The errors of the
remote side and of local files stand for themselves, so their cause is the cause
of what they carry. -/
def reason? : StreamError → Option String
  | .allocation requested =>
      if collectionLimit < requested then
        some ("memory allocation failed because the computed capacity exceeded the " ++
          "collection's maximum")
      else some "memory allocation failed because the memory allocator returned an error"
  | .remote cause => cause.reason?
  | .tableFull _ | .badHandle _ | .invalidSeek _ | .shortBuffer _ _ | .io _ => none

end StreamError

/-- The error that a caller sees who knows of local files only. -/
def IoError.ofStreamError (fault : StreamError) : IoError :=
  match fault with
  | .io cause => cause
  | .remote (.notFound _ _) => ⟨.notFound, fault.message⟩
  | .invalidSeek _ | .shortBuffer _ _ => ⟨.invalidInput, fault.message⟩
  | .allocation _ => ⟨.outOfMemory, fault.message⟩
  | .remote _ | .tableFull _ | .badHandle _ => ⟨.other, fault.message⟩

end RemoteStreams
