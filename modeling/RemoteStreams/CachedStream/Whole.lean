import RemoteStreams.CachedStream.Seek
import RemoteStreams.CachedStream.Transfer

/-!
# Whole transfers

A transfer that is repeated until the buffer is full or its bytes are written,
for callers that know streams as local files only. Errors are those of local
files.
-/

namespace RemoteStreams

namespace CachedStream

/-- A step of a cached stream with the errors of local files. -/
abbrev FileAction (α : Type) : Type := Action Attached IoError α

/-- The step for callers that know of local files only. -/
def asFile {α : Type} (body : StreamAction α) : FileAction α :=
  body.mapError IoError.ofStreamError

/-- Reads until the `missing` bytes of `buffer` are there. -/
def readMissing (missing : Nat) (buffer : Bytes) : FileAction Bytes :=
  if missing = 0 then
    pure buffer
  else do
    let (count, filled) ← asFile (read buffer)
    if count = 0 then
      .fail .endOfStream
    else if missing < count then
      .abandon (.countPastBuffer count missing)
    else do
      let rest ← readMissing (missing - count) (filled.drop count)
      pure (filled.take count ++ rest)
termination_by missing
decreasing_by omega

/-- Reads until `buffer` is full. -/
def readExact (buffer : Bytes) : FileAction Bytes := readMissing buffer.length buffer

/-- Writes until nothing of `data` is left. -/
def writeAll (data : Bytes) : FileAction Unit :=
  if data.length = 0 then
    pure ()
  else do
    let count ← asFile (write data)
    if count = 0 then
      .fail .nothingWritten
    else if data.length < count then
      .abandon (.countPastBuffer count data.length)
    else
      writeAll (data.drop count)
termination_by data.length
decreasing_by
  rw [List.length_drop]
  omega

end CachedStream

end RemoteStreams
