import NntpProxy.Framing.CutIndependence
import NntpProxy.Transport.Capture
import NntpProxy.Pool.Lifecycle
import NntpProxy.Cache.Serving
import NntpProxy.Cache.Agreement
import NntpProxy.Cache.Codec
import NntpProxy.Availability.Retention
import NntpProxy.PerCommand.Replies
import NntpProxy.Router.Priority
import NntpProxy.PerCommand.Lines
import NntpProxy.Protocol.Forwarding
import NntpProxy.Hybrid.Accounting
import NntpProxy.Availability.Transfer
import NntpProxy.Client.Fetch
import NntpProxy.Framing.Reject
import NntpProxy.Transport.PendingQueue
import NntpProxy.Buffers.Pool
import NntpProxy.Compression.Order
import NntpProxy.Pool.Cooldown
import NntpProxy.Hybrid.Reserve
import NntpProxy.Availability.Sharding
import NntpProxy.Missing.Stale
import NntpProxy.Router.Rotation
import NntpProxy.Framing.Scanner
import NntpProxy.Stateful.Flushing
import NntpProxy.Cache.Flattened
import NntpProxy.Pool.Connecting
import NntpProxy.Compression.Reading
import NntpProxy.Articles.Lookup
import NntpProxy.Articles.Lookup
import NntpProxy.Framing.Lockstep
import NntpProxy.Articles.Yenc
import NntpProxy.Availability.Counting
