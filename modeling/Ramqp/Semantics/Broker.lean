import Ramqp.Semantics.Driver
import Ramqp.Semantics.Txn

/-! An established broker-side connection: its sessions, the bindings of their links to queues, the
dispatches that await an outcome, and the transactions its coordinator links have declared. -/
namespace Ramqp

open Function

def ErrorKind.label : ErrorKind → String
  | .io => "io"
  | .tls => "tls"
  | .sasl => "sasl"
  | .protocolViolation => "protocol-violation"
  | .peerClosed => "peer-closed"
  | .timeout => "timeout"
  | .detached => "detached"
  | .linkRedirect => "link-redirect"
  | .capacity => "capacity"
  | .settlement => "settlement"
  | .encode => "encode"
  | .notConnected => "not-connected"
  | .cancelled => "cancelled"

def Failure.displayLink (failure : Failure) : String :=
  "LinkError [" ++ failure.kind.label ++ "]: " ++ failure.message

inductive Outcome where
  | accepted
  | rejected (error : Option AmqpError)
  | released
  | modified (deliveryFailed undeliverableHere : Option Bool)
  deriving DecidableEq

inductive TxnControl where
  | declare (globalId : Bool)
  | discharge (txnId : TxnId) (fail : Bool)
  deriving DecidableEq

/-- The wire forms of transactions: reading a transactional state and a control message, and writing the
states that answer them. -/
structure TxnCodec where
  txnState : DeliveryState → Option (TxnId × Option Outcome)
  decodeControl : Bytes → Option TxnControl
  declaredState : TxnId → DeliveryState
  transactionalState : TxnId → Outcome → DeliveryState

def outcomeToSettle : Outcome → SettleOutcome
  | .accepted => .ack
  | .released => .requeue
  | .modified deliveryFailed _ => if deliveryFailed.getD false then .requeueFailed else .requeue
  | .rejected _ => .drop

def stateToOutcome : DeliveryState → SettleOutcome
  | .accepted => .ack
  | .released => .requeue
  | .modified deliveryFailed _ => if deliveryFailed.getD false then .requeueFailed else .requeue
  | .rejected _ => .drop
  | _ => .requeue

inductive Binding where
  | producer (queue : QueueHandle) (epoch : Nat) (ackedSinceGrant : UInt32)
  | coordinator
  | consumer (queue : QueueHandle) (sub : SubId) (epoch : Nat) (granted : UInt32)
  deriving DecidableEq

inductive SettleAction where
  | now (outcome : SettleOutcome)
  | txn (id : TxnId) (outcome : SettleOutcome)
  deriving DecidableEq

structure Settlement where
  queue : QueueHandle
  sub : SubId
  msgId : Nat
  reply : Reply
  action : Option SettleAction
  deriving DecidableEq

/-- A discharge under way; no session has the id `none`. -/
structure TxnDone where
  channel : UInt16
  sessionId : Option Nat
  handle : UInt32
  deliveryId : UInt32
  task : Nat
  deriving DecidableEq

structure BrokerConfig where
  codec : TxnCodec
  session : SessionConfig
  initialCredit : UInt32
  maxMessageSize : Option UInt64
  maxFrameSize : Nat

structure Subscribing where
  channel : UInt16
  remoteChannel : UInt16
  handle : UInt32
  epoch : Nat
  queue : QueueHandle
  deriving DecidableEq

structure BrokerConnection where
  id : Nat
  channels : ChannelAllocator
  remoteChannels : UInt16 → Option UInt16 := fun _ => none
  sessions : Map UInt16 Session := ∅
  discarding : UInt16 → Bool := fun _ => false
  bindings : Map UInt16 (Map UInt32 Binding) := ∅
  nextGen : Nat := 0
  settlements : List Settlement := []
  txns : TxnManager := {}
  txnResults : List TxnDone := []
  nextSessionId : Nat := 0
  subscribing : Option Subscribing := none
  nextReply : Reply := 0
  nextTask : Nat := 0

/-- What a connection does: frames to its peer, messages to queues, and tasks it spawns. The others record that
a transaction was declared through a link or discharged, that a link detached and that a session ended. -/
inductive BrokerEffect where
  | transport (frame : Frame)
  | mail (queue : QueueHandle) (msg : QueueMsg)
  | spawn (task : Nat) (commit : Commit)
  | declared (txnId : TxnId) (channel : UInt16) (handle : UInt32)
  | discharged (txnId : TxnId)
  | detached (channel : UInt16) (handle : UInt32) (binding : Option Binding)
  | ended (channel : UInt16)

def Commit.rollingBack (txn : Txn) (outcome : DischargeOutcome) : Commit :=
  {txn,phase := .sending txn.requeueSends outcome}

abbrev Reaction := Except Fault (BrokerConnection × List BrokerEffect)

def Reaction.andThen (r : Reaction) (next : BrokerConnection → Reaction) : Reaction :=
  match r with
  | .error fault => .error fault
  | .ok (c,effects) => match next c with
    | .error fault => .error fault
    | .ok (c,more) => .ok (c,effects ++ more)

def linkEvents (effects : List Effect) : List LinkEvent :=
  effects.filterMap fun effect => match effect with
    | .event _ event => some event
    | _ => none

structure ReadyOrder where
  arrange : List Settlement → List Settlement
  perm : ∀ ready, (arrange ready).Perm ready

def ReadyOrder.asPushed : ReadyOrder := ⟨id,fun _ => .refl _⟩

/-- The outcomes of the environment while a frame is handled: what the authenticator says of the attach, which
queue the registry resolves its address to, whose actors have stopped, and the orders in which hashed and ready
things are taken. -/
structure FrameEnv where
  authorized : Bool
  resolved : Option QueueHandle
  stopped : QueueHandle → Bool := fun _ => false
  order : IterOrder
  ready : ReadyOrder

namespace BrokerConnection

def binding (c : BrokerConnection) (channel : UInt16) (handle : UInt32) : Option Binding :=
  (c.bindings[channel]?).bind fun links => links[handle]?

def bind (c : BrokerConnection) (channel : UInt16) (handle : UInt32) (binding : Binding) : BrokerConnection :=
  {c with bindings := c.bindings.insert channel ((c.bindings.getD channel ∅).insert handle binding)}

def unbind (c : BrokerConnection) (channel : UInt16) (handle : UInt32) : BrokerConnection :=
  {c with bindings := c.bindings.insert channel ((c.bindings.getD channel ∅).erase handle)}

end BrokerConnection

section

variable (config : BrokerConfig)

def settleAction : Except Failure DeliveryState → SettleAction
  | .ok state => match config.codec.txnState state with
    | some (txnId,outcome) => .txn txnId ((outcome.map outcomeToSettle).getD .ack)
    | none => .now (stateToOutcome state)
  | .error _ => .now .requeue

def Settlement.hear (s : Settlement) (effect : Effect) : Settlement :=
  match s.action,effect with
  | none,.sent reply result => if reply = s.reply then {s with action := some (settleAction config result)} else s
  | none,.dropped reply => if reply = s.reply then {s with action := some (.now .requeue)} else s
  | _,_ => s

namespace BrokerConnection

def hear (c : BrokerConnection) (effects : List Effect) : BrokerConnection :=
  {c with settlements := c.settlements.map fun s => effects.foldl (Settlement.hear config) s}

def absorb (c : BrokerConnection) (effects : List Effect) : BrokerConnection × List BrokerEffect :=
  (c.hear config effects,(queued effects).map .transport)

def onSession (c : BrokerConnection) (channel : UInt16)
    (run : Session → Except Fault (Session × List Effect)) : Reaction :=
  match c.sessions[channel]? with
  | none => .ok (c,[])
  | some session => match run session with
    | .error fault => .error fault
    | .ok (session,effects) =>
      .ok ({c with sessions := c.sessions.insert channel session}.absorb config effects)

def sendDisposition (c : BrokerConnection) (channel : UInt16) (handle deliveryId : UInt32)
    (state : DeliveryState) : Reaction :=
  c.onSession config channel fun session => session.sendDisposition handle deliveryId none state true

def grantCredit (c : BrokerConnection) (channel : UInt16) (handle credit : UInt32) : Reaction :=
  c.onSession config channel fun session => .ok (session.grantCredit handle credit)

def rejection (condition : ErrorCondition) (description : String) : DeliveryState :=
  .rejected (some ⟨condition,some description⟩)

def replenishProducerCredit (c : BrokerConnection) (channel : UInt16) (handle : UInt32) : Reaction :=
  match c.binding channel handle with
  | some (.producer queue epoch ackedSinceGrant) =>
    if max (config.initialCredit / 2) 1 ≤ ackedSinceGrant + 1 then
      (c.bind channel handle (.producer queue epoch 0)).grantCredit config channel handle (ackedSinceGrant + 1)
    else .ok (c.bind channel handle (.producer queue epoch (ackedSinceGrant + 1)),[])
  | _ => .ok (c,[])

def await (c : BrokerConnection) (queue : QueueHandle) (sub : SubId) (msgId : Nat)
    (action : Option SettleAction) : BrokerConnection :=
  {c with
    settlements := c.settlements ++ [⟨queue,sub,msgId,c.nextReply,action⟩],
    nextReply := c.nextReply + 1}

def handleDeliver (c : BrokerConnection) (channel : UInt16) (handle : UInt32) (bindingGen msgId : Nat)
    (body : Bytes) : Reaction :=
  match c.binding channel handle with
  | some (.consumer queue sub epoch granted) =>
    if epoch = bindingGen then
      let c := c.bind channel handle (.consumer queue sub epoch (saturatingSub granted 1))
      match c.sessions[channel]? with
      | none => .ok (c.await queue sub msgId (some (.now .requeue)),[])
      | some session =>
        let (session,effects) := session.sendTransfer handle ⟨body,false,0,none,some c.nextReply⟩ config.maxFrameSize
        let c := c.await queue sub msgId none
        .ok ({c with sessions := c.sessions.insert channel session}.absorb config effects)
    else .ok (c,[])
  | _ => .ok (c,[])

def handleSettleIncoming (c : BrokerConnection) (channel : UInt16) (handle : UInt32) (bindingGen : Nat)
    (deliveryId : UInt32) (accepted : Bool) : Reaction :=
  match c.binding channel handle with
  | some (.producer _ epoch _) =>
    if epoch = bindingGen then
      let state := if accepted then .accepted else rejection .resourceLimitExceeded "queue is full"
      Reaction.andThen (c.sendDisposition config channel handle deliveryId state)
        fun c => c.replenishProducerCredit config channel handle
    else .ok (c,[])
  | _ => .ok (c,[])

def handleCmd (c : BrokerConnection) : ConnCmd → Reaction
  | .deliver channel handle bindingGen msgId body => c.handleDeliver config channel handle bindingGen msgId body
  | .settleIncoming channel handle bindingGen deliveryId accepted =>
    c.handleSettleIncoming config channel handle bindingGen deliveryId accepted

def forwardSettlement (c : BrokerConnection) (s : Settlement) : BrokerConnection × List BrokerEffect :=
  match s.action with
  | none => (c,[])
  | some (.now outcome) => (c,[.mail s.queue (.settle s.sub s.msgId outcome)])
  | some (.txn txnId outcome) => match c.txns.stageSettle txnId ⟨s.queue,s.sub,s.msgId,outcome⟩ with
    | (txns,.staged) => ({c with txns},[])
    | (txns,.refused settle _) => ({c with txns},[.mail settle.queue (.settle settle.sub settle.msgId .requeue)])

def forwardAll : List Settlement → BrokerConnection → BrokerConnection × List BrokerEffect
  | [],c => (c,[])
  | s::rest,c =>
    let (c,effects) := c.forwardSettlement s
    let (c,more) := forwardAll rest c
    (c,effects ++ more)

def drainReadySettlements (order : ReadyOrder) (c : BrokerConnection) : BrokerConnection × List BrokerEffect :=
  forwardAll (order.arrange (c.settlements.filter fun s => s.action.isSome))
    {c with settlements := c.settlements.filter fun s => s.action.isNone}

def spawn (c : BrokerConnection) (commit : Commit) : BrokerConnection × List BrokerEffect :=
  ({c with nextTask := c.nextTask + 1},[.spawn c.nextTask commit])

def dischargeTask (txn : Txn) (fail : Bool) : Commit :=
  if fail then .rollingBack txn .complete
  else if txn.rollbackOnly then .rollingBack txn .rolledBack
  else .start txn

def answerControl (c : BrokerConnection) (channel : UInt16) (handle deliveryId : UInt32)
    (state : DeliveryState) : Reaction :=
  Reaction.andThen (c.sendDisposition config channel handle deliveryId state)
    fun c => c.grantCredit config channel handle 1

def handleTxnControl (c : BrokerConnection) (channel : UInt16) (handle : UInt32) (d : IncomingDelivery) : Reaction :=
  match config.codec.decodeControl d.message with
  | some (.declare globalId) => match c.sessions[channel]? with
    | none => .ok (c,[])
    | some _ =>
      if globalId then
        c.answerControl config channel handle d.deliveryId
          (rejection (.custom "amqp:not-implemented") "distributed transactions (global-id) are not supported")
      else match c.txns.declare with
        | some (txnId,txns) => Reaction.andThen (.ok ({c with txns},[.declared txnId channel handle]))
            fun c => c.answerControl config channel handle d.deliveryId (config.codec.declaredState txnId)
        | none => c.answerControl config channel handle d.deliveryId
            (rejection .resourceLimitExceeded "too many open transactions")
  | some (.discharge txnId fail) => match c.txns.take txnId with
    | none => c.answerControl config channel handle d.deliveryId (rejection .unknownTransaction "unknown transaction")
    | some (txn,txns) =>
      let done : TxnDone := ⟨channel,(c.sessions[channel]?).map Session.sessionId,handle,d.deliveryId,c.nextTask⟩
      let (c,spawned) := {c with txns,txnResults := c.txnResults ++ [done]}.spawn (dischargeTask txn fail)
      Reaction.andThen (.ok (c,.discharged txnId::spawned)) fun c => c.grantCredit config channel handle 1
  | none => c.answerControl config channel handle d.deliveryId (rejection .decodeError "expected declare or discharge")

/-- A delivery on a producer link: staged under the transaction it names, or published. A stopped queue takes
nothing, and the producer hears nothing. -/
def handlePublish (c : BrokerConnection) (stopped : Bool) (channel : UInt16) (d : IncomingDelivery)
    (queue : QueueHandle) (epoch : Nat) : Reaction :=
  match d.state.bind config.codec.txnState with
  | some (txnId,_) =>
    let (txns,stage) := c.txns.stagePublish txnId ⟨queue,d.message⟩
    let state := match stage with
      | .staged => config.codec.transactionalState txnId .accepted
      | .unknownTxn => rejection .unknownTransaction "unknown transaction"
      | .capped => rejection .resourceLimitExceeded "transaction staging cap reached"
    Reaction.andThen ({c with txns}.sendDisposition config channel d.handle d.deliveryId state)
      fun c => c.replenishProducerCredit config channel d.handle
  | none =>
    let ack : Option PublishAck := if d.settled then none
      else some ⟨.connection c.id,channel,d.handle,epoch,d.deliveryId⟩
    if stopped then .ok (c,[])
    else Reaction.andThen (.ok (c,[.mail queue (.publish d.message ack)]))
      fun c => if d.settled then c.replenishProducerCredit config channel d.handle else .ok (c,[])

def handleCredit (c : BrokerConnection) (channel : UInt16) (handle credit : UInt32) (drain : Bool) :
    BrokerConnection × List BrokerEffect :=
  match c.binding channel handle with
  | some (.consumer queue sub epoch granted) =>
    let delta := saturatingSub credit granted
    let c := c.bind channel handle (.consumer queue sub epoch (if drain then 0 else max credit granted))
    (c,if 0 < delta ∨ drain then [.mail queue (.demand sub delta drain)] else [])
  | _ => (c,[])

def rollBackAll : List Txn → BrokerConnection → BrokerConnection × List BrokerEffect
  | [],c => (c,[])
  | txn::rest,c =>
    let (c,effects) := c.spawn (.rollingBack txn .complete)
    let (c,more) := rollBackAll rest c
    (c,effects ++ more)

def handleDetached (c : BrokerConnection) (channel : UInt16) (handle : UInt32) :
    BrokerConnection × List BrokerEffect :=
  let found := c.binding channel handle
  let c := c.unbind channel handle
  match found with
  | some (.consumer queue sub _ _) => (c,[.detached channel handle found,.mail queue (.unsubscribe sub)])
  | some .coordinator =>
    let (open_,txns) := c.txns.takeAll
    let (c,spawned) := rollBackAll open_ {c with txns}
    (c,.detached channel handle found::spawned)
  | _ => (c,[.detached channel handle found])

def handleLinkEvent (env : FrameEnv) (channel : UInt16) (c : BrokerConnection) : LinkEvent → Reaction
  | .delivery d => match c.binding channel d.handle with
    | some (.producer queue epoch _) => c.handlePublish config (env.stopped queue) channel d queue epoch
    | some .coordinator => Reaction.andThen (.ok (c.drainReadySettlements env.ready))
        fun c => c.handleTxnControl config channel d.handle d
    | _ => .ok (c,[])
  | .credit handle credit drain => .ok (c.handleCredit channel handle credit drain)
  | .detached handle _ => .ok (c.handleDetached channel handle)
  | .disposition _ _ _ _ => .ok (c,[])

def drainLinkEvents (env : FrameEnv) (channel : UInt16) : List LinkEvent → BrokerConnection → Reaction
  | [],c => .ok (c,[])
  | event::rest,c => Reaction.andThen (c.handleLinkEvent config env channel event)
      fun c => drainLinkEvents env channel rest c

def unsubscribes (links : Map UInt32 Binding) : List BrokerEffect :=
  links.toList.filterMap fun entry => match entry.2 with
    | .consumer queue sub _ _ => some (.mail queue (.unsubscribe sub))
    | _ => none

variable (c : BrokerConnection)

def releaseSessionBindings (channel : UInt16) : BrokerConnection × List BrokerEffect :=
  ({c with bindings := c.bindings.erase channel},unsubscribes (c.bindings.getD channel ∅))

/-- A session leaves with everything on its channel; the dispatches it held are answered with its end. -/
def dropSession (channel remoteChannel : UInt16) (error : Option AmqpError) :
    BrokerConnection × List BrokerEffect :=
  let dropped := match c.sessions[channel]? with
    | some session => session.replies.map Effect.dropped
    | none => []
  let c := {c with
    sessions := c.sessions.erase channel,
    remoteChannels := update c.remoteChannels remoteChannel none,
    channels := c.channels.release channel}
  let (c,released) := (c.hear config dropped).releaseSessionBindings channel
  (c,.ended channel::.transport ⟨channel,.end_ error,none⟩::released)

def endSessionWithError (channel remoteChannel : UInt16) (error : AmqpError) :
    BrokerConnection × List BrokerEffect :=
  let (c,effects) := c.dropSession config channel remoteChannel (some error)
  ({c with discarding := update c.discarding remoteChannel true},effects)

def handleEnd (remoteChannel : UInt16) : BrokerConnection × List BrokerEffect :=
  if c.discarding remoteChannel then
    ({c with discarding := update c.discarding remoteChannel false},[])
  else match c.remoteChannels remoteChannel with
    | none => (c,[])
    | some channel => c.dropSession config channel remoteChannel none

end BrokerConnection

end

def Attach.address (attach : Attach) : Option String := match attach.role with
  | .sender => match attach.target with
    | some (.target address) => address
    | _ => none
  | .receiver => attach.source.bind Source.address

def Attach.operation (attach : Attach) : String := match attach.role with
  | .sender => "Send"
  | .receiver => "Receive"

namespace BrokerConnection

section

variable (config : BrokerConfig)

def boundChannel : Fault := .panic "bound channel"

variable (c : BrokerConnection)

def refuseAttach (channel : UInt16) (attach : Attach) (condition : ErrorCondition)
    (description : String) : Reaction :=
  match c.sessions[channel]? with
  | none => .error boundChannel
  | some session =>
    let (session,effects) := session.refusePeerAttach attach ⟨condition,some description⟩
    .ok ({c with sessions := c.sessions.insert channel session}.absorb config effects)

/-- Mirror the peer's endpoint and go on with our handle; an attach that cannot be accepted ends the session. -/
def mirror (channel remoteChannel : UInt16) (attach : Attach) (initialCredit : UInt32)
    (next : UInt32 → BrokerConnection → BrokerConnection × List BrokerEffect) : Reaction :=
  match c.sessions[channel]? with
  | none => .error boundChannel
  | some session => match session.acceptPeerAttach attach .manual initialCredit config.maxMessageSize 0 with
    | .error failure =>
      .ok (c.endSessionWithError config channel remoteChannel ⟨.resourceLimitExceeded,some failure.displayLink⟩)
    | .ok (accepted,session,effects) =>
      Reaction.andThen (.ok ({c with sessions := c.sessions.insert channel session}.absorb config effects))
        fun c => .ok (next accepted.handle c)

def bindCoordinator (channel : UInt16) (handle : UInt32) (c : BrokerConnection) :
    BrokerConnection × List BrokerEffect :=
  (c.bind channel handle .coordinator,[])

def bindProducer (channel : UInt16) (queue : QueueHandle) (handle : UInt32) (c : BrokerConnection) :
    BrokerConnection × List BrokerEffect :=
  ({c with nextGen := c.nextGen + 1}.bind channel handle (.producer queue c.nextGen 0),[])

def subscribe (channel remoteChannel : UInt16) (queue : QueueHandle) (handle : UInt32) (c : BrokerConnection) :
    BrokerConnection × List BrokerEffect :=
  ({c with nextGen := c.nextGen + 1,subscribing := some ⟨channel,remoteChannel,handle,c.nextGen,queue⟩},
    [.mail queue (.subscribe (.connection c.id) channel handle c.nextGen)])

def acceptAttach (env : FrameEnv) (channel remoteChannel : UInt16) (attach : Attach) :
    Reaction :=
  if attach.role = .sender ∧ attach.target = some .coordinator then
    if env.authorized then c.mirror config channel remoteChannel attach config.initialCredit (bindCoordinator channel)
    else c.refuseAttach config channel attach .unauthorizedAccess "not authorized to use transactions"
  else match attach.address with
    | none => c.refuseAttach config channel attach .notFound "no queue for address None"
    | some address =>
      if env.authorized then match env.resolved with
        | none => c.refuseAttach config channel attach .notFound
            ("no queue for address Some(" ++ address.quote ++ ")")
        | some queue => match attach.role with
          | .sender => c.mirror config channel remoteChannel attach config.initialCredit (bindProducer channel queue)
          | .receiver => c.mirror config channel remoteChannel attach 0 (subscribe channel remoteChannel queue)
      else c.refuseAttach config channel attach .unauthorizedAccess
        ("not authorized to " ++ attach.operation ++ " on " ++ address)

def subscribed (s : Subscribing) : Option SubId → BrokerConnection × List BrokerEffect
  | some sub => ({c with subscribing := none}.bind s.channel s.handle (.consumer s.queue sub s.epoch 0),[])
  | none => {c with subscribing := none}.endSessionWithError config s.channel s.remoteChannel
      ⟨.internalError,some ("queue " ++ s.queue.name ++ " became unavailable")⟩

def acceptBegin (remoteChannel : UInt16) (begin_ : Begin) : Reaction :=
  if begin_.remoteChannel.isSome then
    .error (Driver.violation "begin response for a session we never initiated")
  else if (c.remoteChannels remoteChannel).isSome then
    .error (Driver.violation ("duplicate begin on channel " ++ toString remoteChannel))
  else match c.channels.allocate with
    | none => .error (.failed (.msg .capacity "channel-max exhausted"))
    | some (channel,channels) =>
      let (session,response) := Session.acceptPeerBegin (c.nextSessionId + 1) channel remoteChannel begin_ config.session 0
      .ok ({c with
        discarding := update c.discarding remoteChannel false,
        channels,
        nextSessionId := c.nextSessionId + 1,
        remoteChannels := update c.remoteChannels remoteChannel (some channel),
        sessions := c.sessions.insert channel session},[.transport ⟨channel,.begin_ response,none⟩])

def resolveActive (remoteChannel : UInt16) : Except Fault (Option UInt16) :=
  match c.remoteChannels remoteChannel with
  | some channel => .ok (some channel)
  | none =>
    if c.discarding remoteChannel then .ok none
    else .error (Driver.violation ("frame on unmapped channel " ++ toString remoteChannel))

def routeLinkFrame (env : FrameEnv) (channel : UInt16) (frame : Frame) : Reaction :=
  match c.sessions[channel]? with
  | none => .error boundChannel
  | some session => match session.handleLinkFrame env.order frame.performative frame.payload config.maxFrameSize with
    | .error fault => .error fault
    | .ok (session,effects) =>
      Reaction.andThen (.ok ({c with sessions := c.sessions.insert channel session}.absorb config effects))
        fun c => drainLinkEvents config env channel (linkEvents effects) c

def routeAttach (env : FrameEnv) (channel : UInt16) (frame : Frame) (attach : Attach) :
    Reaction :=
  match c.sessions[channel]? with
  | none => .error boundChannel
  | some session =>
    if session.knowsLink attach.name attach.role then c.routeLinkFrame config env channel frame
    else c.acceptAttach config env channel frame.channel attach

/-- `none` when the peer closed the connection. -/
def handleFrame (env : FrameEnv) (frame : Frame) : Option Reaction :=
  match frame.performative with
  | .open_ _ => some (.error (Driver.violation "duplicate open"))
  | .close _ => none
  | .begin_ begin_ => some (c.acceptBegin config frame.channel begin_)
  | .end_ _ => some (.ok (c.handleEnd config frame.channel))
  | .attach attach => some (match c.resolveActive frame.channel with
    | .error fault => .error fault
    | .ok none => .ok (c,[])
    | .ok (some channel) => c.routeAttach config env channel frame attach)
  | _ => some (match c.resolveActive frame.channel with
    | .error fault => .error fault
    | .ok none => .ok (c,[])
    | .ok (some channel) => c.routeLinkFrame config env channel frame)

def dischargeState : DischargeOutcome → DeliveryState
  | .complete => .accepted
  | .rolledBack => rejection .internalError "transaction failed; rolled back (nothing was applied)"
  | .partially applied total => rejection .internalError ("transaction failed after partial application: " ++
      toString applied ++ " of " ++ toString total ++
      " staged publishes were committed; retrying may duplicate them")
  | .unknown => rejection .internalError "transaction outcome unknown (coordinator failed)"

def reportTxnDone (done : TxnDone) (outcome : DischargeOutcome) : Reaction :=
  if ((c.sessions[done.channel]?).map Session.sessionId) = done.sessionId then
    c.sendDisposition config done.channel done.handle done.deliveryId (dischargeState outcome)
  else .ok (c,[])

/-- What the connection's loop takes up: a frame, the answer to a subscription, a command, an outcome that is
there, or the result of a discharge. -/
inductive Label where
  | frame (env : FrameEnv) (frame : Frame)
  | subscribed (sub : Option SubId)
  | command (cmd : ConnCmd)
  | settle (place : Nat)
  | report (place : Nat) (outcome : DischargeOutcome)

/-- One turn of the loop. There is none after a fault or the peer's `close`, and while a subscription is
awaited only its answer. -/
def step : Label → Option (BrokerConnection × List BrokerEffect)
  | .frame env frame =>
    if c.subscribing.isSome then none else (c.handleFrame config env frame).bind Except.toOption
  | .subscribed sub => c.subscribing.map fun s => c.subscribed config s sub
  | .command cmd => if c.subscribing.isSome then none else (c.handleCmd config cmd).toOption
  | .settle place =>
    if c.subscribing.isSome then none else (c.settlements[place]?).bind fun s =>
      if s.action.isSome then
        some ({c with settlements := c.settlements.eraseIdx place}.forwardSettlement s)
      else none
  | .report place outcome =>
    if c.subscribing.isSome then none else (c.txnResults[place]?).bind fun done =>
      ({c with txnResults := c.txnResults.eraseIdx place}.reportTxnDone config done outcome).toOption

end

def opened (id : Nat) (channelMax : UInt16) : BrokerConnection := {id,channels := .new channelMax}

end BrokerConnection

end Ramqp
