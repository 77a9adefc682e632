import Uvco.Library.Transition
import Uvco.Loop
import Uvco.Run
import Uvco.Runtime
import Uvco.Exception
import Uvco.BoundedQueue
import Uvco.Channel.Basic
import Uvco.Channel.Consistency
import Uvco.Channel.Effects
import Uvco.Channel.Wakeup
import Uvco.Library.Fifo
import Uvco.Channel.Fifo
import Uvco.Promise.Core
import Uvco.Promise.SingleAwait
import Uvco.MultiPromise.Core
import Uvco.MultiPromise.Transport
import Uvco.MultiPromise.Body
import Uvco.Yield
import Uvco.Promise.Member
import Uvco.Promise.Drop
import Uvco.Select.Basic
import Uvco.Select.Await
import Uvco.Select.Store
import Uvco.Library.Forest
import Uvco.Timer
import Uvco.Cancel.World
import Uvco.Cancel.Entries
import Uvco.Cancel.Invariant
import Uvco.Cancel.Steps
import Uvco.Cancel.Suspend
import Uvco.Cancel.Destroy
import Uvco.Cancel.Complete
import Uvco.Combinators.WaitPoint
import Uvco.Combinators.TaskSet
import Uvco.Combinators.WaitAny
import Uvco.Combinators.Race
import Uvco.Library.StdVector
import Uvco.StreamServer.Listen
import Uvco.StreamServer.Yields
import Uvco.StreamServer.Errors
import Uvco.Udp.Receive
import Uvco.Udp.Stage
import Uvco.Udp.Close
import Uvco.Udp.ReceiveMany
import Uvco.Udp.Provenance
import Uvco.Udp.Datagram
import Uvco.Stream.Operation
import Uvco.Stream.Stage
import Uvco.Stream.Resume
import Uvco.Channel.WaiterLimit
import Uvco.Stream.Registration
import Uvco.Stream.Progress
import Uvco.Stream.Transfer
import Uvco.Request.Operation
import Uvco.Request.Members
import Uvco.Request.Lifecycle
import Uvco.Request.Owned
import Uvco.Request.ThreadPool
import Uvco.Request.Send
import Uvco.Request.Start
import Uvco.Stream.Status
import Uvco.Promise.Void
import Uvco.Library.SymmetricTransfer
import Uvco.Handoff.Program
import Uvco.Handoff.Order
import Uvco.AsyncWork
import Uvco.Timer.Handle
import Uvco.Timer.Sleep
import Uvco.Timer.Ticker
import Uvco.FsWatch.Watch
import Uvco.FsWatch.Stage
import Uvco.FsWatch.Stop
import Uvco.FsWatch.Events
import Uvco.Library.Ownership
import Uvco.Ownership.Sockets
import Uvco.Ownership.Files
import Uvco.Teardown
import Uvco.Curl.Core
import Uvco.Curl.Context
import Uvco.Curl.Stage
import Uvco.Curl.Completion
import Uvco.Curl.Chunks
import Uvco.Library.ObjectRefinement
import Uvco.BoundedQueue.Refinement
import Uvco.Library.CancellableFifo
import Uvco.Scheduler.Order
import Uvco.Library.Terminator
import Uvco.NameResolution
import Uvco.TcpClient
import Uvco.Discard.World
import Uvco.Discard.Invariant
import Uvco.Discard.Ways
import Uvco.Library.FirstOccurrence
import Uvco.HttpServer.Request
import Uvco.HttpServer.ReadHeaders
import Uvco.Library.Decimal
import Uvco.Library.Framing
import Uvco.HttpServer.Response
import Uvco.HttpServer.Connection
import Uvco.HttpServer.Session
import Uvco.Library.Parallel
import Uvco.HttpServer.Server
import Uvco.Library.Records
import Uvco.Library.Percent
import Uvco.Curl.FormFields
import Uvco.Library.LittleEndian
import Uvco.AddressText
import Uvco.WaitAll.Call
import Uvco.WaitAll.Invariant
import Uvco.WaitAll.Accounts
import Uvco.Library.Outbox
import Uvco.Stream.WriteRequests
import Uvco.Stream.Sending
import Uvco.Stream.Delivery
import Uvco.Pipe
import Uvco.Curl.Polls
import Uvco.Curl.Notified
import Uvco.FileOperations
import Uvco.Library.Subscription
import Uvco.Broadcaster.Hub
import Uvco.Broadcaster.Connection
import Uvco.Broadcaster.Clients
import Uvco.Broadcaster.Order
