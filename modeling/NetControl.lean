import NetControl.Daemon.Life
import NetControl.Lifecycle.Shutdown
import NetControl.Lookup.HostTable
import NetControl.Lookup.Reply
import NetControl.Main
import NetControl.Proofs.Lookup.Answered
import NetControl.Proofs.Tether.DaemonView
import NetControl.Proofs.Tether.ServerFrames
import NetControl.Rehearsal.Invocation
import NetControl.Tether.Daemon
import NetControl.Tether.Error
import NetControl.Tether.Frame
import NetControl.Proofs.Lookup.Frames
import NetControl.Proofs.Lookup.HostCodec
import NetControl.Proofs.Net.MemoryForm
import NetControl.Proofs.Lookup.AddressCodec
import NetControl.Proofs.Tether.Aftermath
import NetControl.Proofs.Tether.Requesters
import NetControl.Proofs.Tether.SwitchFiles
import NetControl.Proofs.Tether.ServerView
import NetControl.Proofs.Daemon.Steps
import NetControl.Proofs.Daemon.Shutdown
import NetControl.Proofs.Command.Arrivals
import NetControl.Proofs.Control.Reads
import NetControl.Proofs.Lookup.Dispatched
import NetControl.Proofs.Daemon.Streams
import NetControl.Proofs.Text.Plain
import NetControl.Proofs.Command.Closed
import NetControl.Proofs.Control.Replies
import NetControl.Proofs.Control.Discipline
import NetControl.Proofs.Tether.DaemonAccount
import NetControl.Proofs.Tether.InterfaceFrames
import NetControl.Proofs.Lookup.Turns
import NetControl.Proofs.Daemon.Sockets
import NetControl.Proofs.Tether.StoredServers
import NetControl.Proofs.Lookup.ReplyStream
import NetControl.Proofs.Lifecycle.Drained
import NetControl.Proofs.Daemon.Ending
import NetControl.Proofs.Daemon.Abstraction
import NetControl.Proofs.Command.Quoting
import NetControl.Proofs.Tether.Truncation
import NetControl.Proofs.Tether.Undisturbed
import NetControl.Proofs.Daemon.Refusals
import NetControl.Proofs.Command.Grammar
import NetControl.Proofs.Lookup.AddressSize
import NetControl.Proofs.Lookup.Incomplete
import NetControl.Proofs.Lookup.EntryByName
import NetControl.Proofs.Command.Appending
import NetControl.Proofs.Lifecycle.Pulls
import NetControl.Proofs.Tether.KnobPaths
import NetControl.Proofs.Control.Records
import NetControl.Proofs.Settings.Precedence
import NetControl.Proofs.Text.Lenient
import NetControl.Proofs.Daemon.Capacity
