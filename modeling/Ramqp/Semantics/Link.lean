import Ramqp.Semantics.Types

/-! Link credit, unsettled tracking and the per-link state that a session owns. -/
namespace Ramqp

def saturatingSub (a b : UInt32) : UInt32 := if b ≤ a then a - b else 0

def saturatingAdd (a b : UInt32) : UInt32 := UInt32.ofNat (min (a.toNat + b.toNat) (2^32 - 1))

structure LinkCredit where
  deliveryCount : UInt32
  linkCredit : UInt32
  available : UInt32
  drain : Bool
  mode : CreditMode
  deriving DecidableEq

namespace LinkCredit

def new (initialDeliveryCount : UInt32) (mode : CreditMode) : LinkCredit :=
  ⟨initialDeliveryCount,0,0,false,mode⟩

variable (c : LinkCredit)

def canSend : Bool := 0 < c.linkCredit

def recordSent : LinkCredit :=
  {c with deliveryCount := c.deliveryCount + 1,linkCredit := saturatingSub c.linkCredit 1}

def applyFlowAsSender (flowDeliveryCount flowLinkCredit : Option UInt32)
    (drain : Bool) : LinkCredit :=
  let peerDc := flowDeliveryCount.getD c.deliveryCount
  match flowLinkCredit with
  | some lc => {c with linkCredit := peerDc + lc - c.deliveryCount,drain := drain}
  | none => {c with drain := drain}

def grant (credit : UInt32) : LinkCredit :=
  {c with linkCredit := saturatingAdd c.linkCredit credit,drain := false}

def setCredit (credit : UInt32) : LinkCredit :=
  {c with linkCredit := credit,drain := false}

def recordReceived : LinkCredit :=
  {c with deliveryCount := c.deliveryCount + 1,linkCredit := saturatingSub c.linkCredit 1}

end LinkCredit

structure UnsettledEntry where
  deliveryTag : Bytes
  state : Option DeliveryState
  settled : Bool
  deriving DecidableEq

abbrev UnsettledMap := Map UInt32 UnsettledEntry

namespace UnsettledMap

def track (m : UnsettledMap) (deliveryId : UInt32) (deliveryTag : Bytes)
    (state : Option DeliveryState) : UnsettledMap :=
  m.insert deliveryId ⟨deliveryTag,state,false⟩

def restate (state : Option DeliveryState) (entry : UnsettledEntry) : UnsettledEntry :=
  {entry with state := if state.isSome then state else entry.state,settled := false}

def inRange (m : UnsettledMap) (first last : UInt32) : List UInt32 :=
  m.keys.filter (fun id => decide (first ≤ id) && decide (id ≤ last))

/-- The affected ids and the new map. `BTreeMap::range` and `range_mut` panic on an
inverted range. -/
def applyDisposition (m : UnsettledMap) (first last : UInt32) (state : Option DeliveryState)
    (settled : Bool) : Except Fault (List UInt32 × UnsettledMap) :=
  if last < first then .error (.panic "range start is greater than range end in BTreeMap")
  else if settled then
    let ids := m.inRange first last
    .ok (ids,ids.foldl (fun entries id => entries.erase id) m)
  else .ok (m.inRange first last,m.map (fun id entry =>
    if first ≤ id ∧ id ≤ last then restate state entry else entry))

end UnsettledMap

def maxUnsettledPerLink : Nat := 2^16

structure PendingSend where
  body : Bytes
  settled : Bool
  messageFormat : UInt32
  state : Option DeliveryState
  reply : Option Reply
  deriving DecidableEq

structure SenderLink where
  handle : UInt32
  remoteHandle : Option UInt32
  name : String
  attached : Bool
  events : ChannelRef
  pendingAttach : Option Reply
  credit : LinkCredit
  unsettled : UnsettledMap
  pending : Map UInt32 Reply
  outbox : List PendingSend
  settleMode : SenderSettleMode
  nextTag : UInt64

namespace SenderLink

def make (handle : UInt32) (name : String) (events : ChannelRef) (pendingAttach : Option Reply)
    (settleMode : SenderSettleMode) (creditMode : CreditMode) : SenderLink :=
  {handle,remoteHandle := none,name,attached := false,events,pendingAttach,
   credit := LinkCredit.new 0 creditMode,unsettled := ∅,pending := ∅,outbox := [],
   settleMode,nextTag := 0}

def new (handle : UInt32) (name : String) (events : ChannelRef) (pendingAttach : Reply)
    (settleMode : SenderSettleMode) (creditMode : CreditMode) : SenderLink :=
  make handle name events (some pendingAttach) settleMode creditMode

def accepted (handle : UInt32) (name : String) (events : ChannelRef)
    (settleMode : SenderSettleMode) (creditMode : CreditMode) : SenderLink :=
  make handle name events none settleMode creditMode

def deliveryTag (s : SenderLink) : Bytes :=
  ([56,48,40,32,24,16,8,0] : List UInt64).map (fun shift => (s.nextTag >>> shift).toUInt8)

def replies (s : SenderLink) : List Reply :=
  s.pendingAttach.toList ++ s.pending.toList.map (·.2) ++ s.outbox.filterMap (·.reply)

end SenderLink

structure PartialDelivery where
  deliveryId : UInt32
  deliveryTag : Bytes
  settled : Bool
  state : Option DeliveryState
  buf : Bytes
  deriving DecidableEq

structure ReceiverLink where
  handle : UInt32
  remoteHandle : Option UInt32
  name : String
  attached : Bool
  events : ChannelRef
  pendingAttach : Option Reply
  credit : LinkCredit
  unsettled : UnsettledMap
  assembling : Option PartialDelivery
  settleMode : ReceiverSettleMode
  maxMessageSize : Option UInt64

def hardMaxMessageSize : Nat := 256 * 1024 * 1024

namespace ReceiverLink

def make (handle : UInt32) (name : String) (events : ChannelRef) (pendingAttach : Option Reply)
    (settleMode : ReceiverSettleMode) (creditMode : CreditMode)
    (maxMessageSize : Option UInt64) : ReceiverLink :=
  {handle,remoteHandle := none,name,attached := false,events,pendingAttach,
   credit := LinkCredit.new 0 creditMode,unsettled := ∅,assembling := none,settleMode,
   maxMessageSize}

def new (handle : UInt32) (name : String) (events : ChannelRef) (pendingAttach : Reply)
    (settleMode : ReceiverSettleMode) (creditMode : CreditMode)
    (maxMessageSize : Option UInt64) : ReceiverLink :=
  make handle name events (some pendingAttach) settleMode creditMode maxMessageSize

def accepted (handle : UInt32) (name : String) (events : ChannelRef)
    (settleMode : ReceiverSettleMode) (creditMode : CreditMode)
    (maxMessageSize : Option UInt64) : ReceiverLink :=
  make handle name events none settleMode creditMode maxMessageSize

variable (r : ReceiverLink)

def sizeCap : Nat :=
  match r.maxMessageSize with
  | some m => min m.toNat hardMaxMessageSize
  | none => hardMaxMessageSize

def initialCredit : UInt32 :=
  match r.credit.mode with
  | .auto initial _ => initial
  | .manual => 0

def complete (d : PartialDelivery) : ReceiverLink × LinkEvent :=
  ({r with
      credit := r.credit.recordReceived,
      unsettled := if d.settled then r.unsettled
        else UnsettledMap.track r.unsettled d.deliveryId d.deliveryTag none,
      assembling := none},
   .delivery ⟨r.handle,d.deliveryId,d.deliveryTag,d.buf,d.settled,d.state⟩)

def started (t : Transfer) (payload : Bytes) : PartialDelivery :=
  match r.assembling with
  | some p => {p with buf := p.buf ++ payload}
  | none => ⟨t.deliveryId.getD 0,t.deliveryTag.getD [],t.settled.getD false,t.state,payload⟩

/-- The link's part of `Session::on_transfer`: the new link, the event to emit, and
whether the delivery exceeded the size cap. The single-frame fast path is the assembly
path with nothing being assembled. -/
def receive (t : Transfer) (payload : Option Bytes) :
    Except Fault (ReceiverLink × Option LinkEvent × Bool) :=
  if t.aborted then
    .ok ({r with assembling := none,credit := r.credit.recordReceived},none,false)
  else if (r.assembling.any fun p => t.deliveryId.any fun did => p.deliveryId != did) then
    .error (.failed (.msg .protocolViolation "interleaved delivery-id during multi-frame transfer"))
  else
    let delivery := r.started t (payload.getD [])
    if r.sizeCap < delivery.buf.length then
      .ok ({r with assembling := none},none,true)
    else if t.more then
      .ok ({r with assembling := some delivery},none,false)
    else .ok ((r.complete delivery).1,some (r.complete delivery).2,false)

end ReceiverLink

inductive Link where
  | sender (link : SenderLink)
  | receiver (link : ReceiverLink)

namespace Link

def remoteHandle : Link → Option UInt32
  | .sender l => l.remoteHandle
  | .receiver l => l.remoteHandle

def setRemoteHandle (handle : UInt32) : Link → Link
  | .sender l => .sender {l with remoteHandle := some handle}
  | .receiver l => .receiver {l with remoteHandle := some handle}

def markAttached : Link → Link
  | .sender l => .sender {l with attached := true}
  | .receiver l => .receiver {l with attached := true}

def events : Link → ChannelRef
  | .sender l => l.events
  | .receiver l => l.events

def pendingAttach : Link → Option Reply
  | .sender l => l.pendingAttach
  | .receiver l => l.pendingAttach

def clearPendingAttach : Link → Link
  | .sender l => .sender {l with pendingAttach := none}
  | .receiver l => .receiver {l with pendingAttach := none}

def key : Link → String × Role
  | .sender l => (l.name,.sender)
  | .receiver l => (l.name,.receiver)

def replies : Link → List Reply
  | .sender l => l.replies
  | .receiver l => l.pendingAttach.toList

end Link

end Ramqp
