import RemoteStreams.Action
import RemoteStreams.Bytes
import RemoteStreams.CachedStream.Basic
import RemoteStreams.CachedStream.Flush
import RemoteStreams.CachedStream.Lifetime
import RemoteStreams.CachedStream.Seek
import RemoteStreams.CachedStream.Transfer
import RemoteStreams.CachedStream.Whole
import RemoteStreams.Call
import RemoteStreams.Descriptor
import RemoteStreams.Disk
import RemoteStreams.Error
import RemoteStreams.Event
import RemoteStreams.Fault
import RemoteStreams.FiniteMap
import RemoteStreams.Identifier
import RemoteStreams.Link
import RemoteStreams.ObjectPath
import RemoteStreams.OpenMode
import RemoteStreams.Outcome
import RemoteStreams.Primitive
import RemoteStreams.Proofs.Coherence
import RemoteStreams.Proofs.HonestFaults
import RemoteStreams.Proofs.Lifetime
import RemoteStreams.Proofs.LocalFiles
import RemoteStreams.Proofs.OpenObject
import RemoteStreams.Proofs.Operations
import RemoteStreams.Proofs.Patch
import RemoteStreams.Proofs.PlainFile
import RemoteStreams.Proofs.Reading
import RemoteStreams.Proofs.Anywhere
import RemoteStreams.Proofs.Runs
import RemoteStreams.Proofs.Seeking
import RemoteStreams.Proofs.WindowSteps
import RemoteStreams.Proofs.WriteBack
import RemoteStreams.Proofs.Writing
import RemoteStreams.Remote
import RemoteStreams.Session.Basic
import RemoteStreams.Session.Operations
import RemoteStreams.SlotTable
import RemoteStreams.Streams.Basic
import RemoteStreams.Streams.Operations
import RemoteStreams.Streams.Shutdown
import RemoteStreams.Window
import RemoteStreams.Word
import RemoteStreams.Proofs.Requests
import RemoteStreams.Proofs.Interchange
import RemoteStreams.Proofs.SessionHistory
import RemoteStreams.Proofs.StoreHistory
import RemoteStreams.Proofs.Staging
import RemoteStreams.Proofs.PrivateFiles
import RemoteStreams.Proofs.InStep
import RemoteStreams.Proofs.Pairing
import RemoteStreams.Proofs.Twins
import RemoteStreams.Proofs.Confinement
import RemoteStreams.Proofs.TableSteps
import RemoteStreams.Proofs.SharedStreams
import RemoteStreams.Proofs.Independence
import RemoteStreams.Proofs.Unsaved
import RemoteStreams.Proofs.Closing
import RemoteStreams.Proofs.Opening
import RemoteStreams.Proofs.ReadOnly
import RemoteStreams.Proofs.StreamClosing
import RemoteStreams.Proofs.Draining
import RemoteStreams.Proofs.ClosingAll
import RemoteStreams.Proofs.TableFaults
import RemoteStreams.Proofs.Deeds
import RemoteStreams.Proofs.WriteOnly
import RemoteStreams.Proofs.OpenObjects
import RemoteStreams.Proofs.Shutdown
import RemoteStreams.Proofs.Refusals
import RemoteStreams.Proofs.Retrying
import RemoteStreams.Proofs.Numbering
import RemoteStreams.Proofs.Stranded
import RemoteStreams.Proofs.Checks
import RemoteStreams.Proofs.ShutdownErrors
import RemoteStreams.Proofs.Orphans
import RemoteStreams.Proofs.Items
import RemoteStreams.Proofs.Replacing
import RemoteStreams.Proofs.InPlace
import RemoteStreams.Proofs.SeekRange
import RemoteStreams.Proofs.SessionCalls
import RemoteStreams.Proofs.Costs
import RemoteStreams.Proofs.Streaming
import RemoteStreams.Proofs.OnDemand
import RemoteStreams.Proofs.ItemBounds
import RemoteStreams.Proofs.Directory
import RemoteStreams.Proofs.Pages
