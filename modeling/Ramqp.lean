import Ramqp.Epochs
import Ramqp.Replay
import Ramqp.Acceptance
import Ramqp.Authentication
import Ramqp.Refusal
import Ramqp.SizeCap
import Ramqp.Slots
import Ramqp.Atomicity
import Ramqp.Declaration
import Ramqp.Installation
import Ramqp.Membership
import Ramqp.Reassembly
import Ramqp.Leadership
import Ramqp.Persistence
import Ramqp.FlowArithmetic
import Ramqp.Drain
import Ramqp.Tables
import Ramqp.Tracking
import Ramqp.Overrun
import Ramqp.Replenish
import Ramqp.Decoys
import Ramqp.Messages
import Ramqp.FabricFrames
import Ramqp.Negotiation
import Ramqp.DeadLetters
import Ramqp.Reconnect
import Ramqp.Rendezvous
import Ramqp.Resume
import Ramqp.Transactions
import Ramqp.WebSocketReads
import Ramqp.Resting
import Ramqp.SpillRuns
import Ramqp.FrameWrites
