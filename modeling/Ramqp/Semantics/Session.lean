import Ramqp.Library.Sweep
import Ramqp.Semantics.Link

/-! The session state machine: flow-control windows, handle allocation and link
orchestration. Every operation returns the new session and its effects in order. -/
namespace Ramqp

open Function

structure SessionWindows where
  nextOutgoingId : UInt32
  outgoingWindow : UInt32
  remoteIncomingWindow : UInt32
  incomingWindow : UInt32
  initialIncomingWindow : UInt32
  nextIncomingId : UInt32
  remoteOutgoingWindow : UInt32
  initialized : Bool
  deriving DecidableEq

namespace SessionWindows

def new (config : SessionConfig) : SessionWindows :=
  ⟨0,config.outgoingWindow,0,config.incomingWindow,config.incomingWindow,0,0,false⟩

variable (w : SessionWindows)

def onPeerBegin (begin_ : Begin) : SessionWindows :=
  {w with
    nextIncomingId := begin_.nextOutgoingId,
    remoteIncomingWindow := begin_.incomingWindow,
    remoteOutgoingWindow := begin_.outgoingWindow,
    initialized := true}

def recordOutgoing : SessionWindows :=
  {w with
    nextOutgoingId := w.nextOutgoingId + 1,
    remoteIncomingWindow := saturatingSub w.remoteIncomingWindow 1}

def recordIncoming : SessionWindows × Bool :=
  let incomingWindow := saturatingSub w.incomingWindow 1
  ({w with nextIncomingId := w.nextIncomingId + 1,incomingWindow := incomingWindow},
    incomingWindow == 0)

def replenishIncoming : SessionWindows :=
  {w with incomingWindow := max w.initialIncomingWindow 1}

def onPeerFlow (flow : Flow) : SessionWindows :=
  {w with
    remoteIncomingWindow := match flow.nextIncomingId with
      | some ni => ni + flow.incomingWindow - w.nextOutgoingId
      | none => flow.incomingWindow - w.nextOutgoingId,
    nextIncomingId := max w.nextIncomingId flow.nextOutgoingId,
    remoteOutgoingWindow := flow.outgoingWindow}

def buildFlow : Flow :=
  {nextIncomingId := if w.initialized then some w.nextIncomingId else none,
   incomingWindow := w.incomingWindow,
   nextOutgoingId := w.nextOutgoingId,
   outgoingWindow := w.outgoingWindow}

end SessionWindows

structure HandleAllocator where
  handleMax : UInt32
  next : Nat
  free : List UInt32
  deriving DecidableEq

namespace HandleAllocator

def new (handleMax : UInt32) : HandleAllocator := ⟨handleMax,0,[]⟩

def allocate (a : HandleAllocator) : Option (UInt32 × HandleAllocator) :=
  match a.free with
  | handle::rest => some (handle,{a with free := rest})
  | [] => if a.next ≤ a.handleMax.toNat then some (UInt32.ofNat a.next,{a with next := a.next + 1})
    else none

def release (a : HandleAllocator) (handle : UInt32) : HandleAllocator :=
  {a with free := handle::a.free}

end HandleAllocator

inductive SessionPhase where
  | beginSent
  | mapped
  | endSent
  | ended
  deriving DecidableEq

structure Session where
  sessionId : Nat
  localChannel : UInt16
  remoteChannel : Option UInt16
  phase : SessionPhase
  windows : SessionWindows
  handles : HandleAllocator
  remoteHandles : UInt32 → Option UInt32
  links : Map UInt32 Link
  linkHandles : String × Role → Option UInt32
  events : ChannelRef
  pendingBegin : Option Reply
  pendingEnd : Option Reply

/-- The order in which a hash map hands out its keys: any permutation. -/
structure IterOrder where
  arrange : List UInt32 → List UInt32
  perm : ∀ keys, (arrange keys).Perm keys

def IterOrder.byKey : IterOrder := ⟨id,fun _ => .refl _⟩

def linkFlow (handle : UInt32) (credit : LinkCredit) (windows : SessionWindows) : Flow :=
  {windows.buildFlow with
    handle := some handle,
    deliveryCount := some credit.deliveryCount,
    linkCredit := some credit.linkCredit,
    available := some credit.available,
    drain := credit.drain}

def maxPayloadPerFrame (maxFrameSize : Nat) : Nat := max (maxFrameSize - (8 + 72)) 1

def frameTotal (bodyLen maxPayload : Nat) : Nat :=
  max ((bodyLen + maxPayload - 1) / maxPayload) 1

def frameCount (bodyLen maxPayload : Nat) : UInt32 := UInt32.ofNat (frameTotal bodyLen maxPayload)

/-- The loop of `send_message_frames` from `offset` on; one unit of fuel a frame. -/
def sendChunks (channel : UInt16) (first rest : Transfer) (body : Bytes) (maxPayload : Nat) :
    Nat → Nat → Bool → SessionWindows → SessionWindows × List Frame
  | 0,_,_,windows => (windows,[])
  | fuel+1,offset,firstFrame,windows =>
    if offset < body.length then
      let stop := min (offset + maxPayload) body.length
      let transfer := {(if firstFrame then first else rest) with more := stop != body.length}
      let frame : Frame := ⟨channel,.transfer transfer,some ((body.drop offset).take (stop - offset))⟩
      let (after,frames) := sendChunks channel first rest body maxPayload fuel stop false
        windows.recordOutgoing
      (after,frame::frames)
    else (windows,[])

/-- `send_message_frames`. Only the first frame carries the id, the tag and the state. -/
def sendMessageFrames (channel : UInt16) (handle deliveryId : UInt32) (tag : Bytes)
    (message : PendingSend) (maxPayload : Nat) (windows : SessionWindows) :
    SessionWindows × List Frame :=
  let first : Transfer :=
    {handle,deliveryId := some deliveryId,deliveryTag := some tag,
     messageFormat := some message.messageFormat,settled := some message.settled,
     state := message.state}
  if message.body.length ≤ maxPayload then
    (windows.recordOutgoing,[⟨channel,.transfer first,some message.body⟩])
  else sendChunks channel first {handle} message.body maxPayload message.body.length 0 true windows

def SenderLink.recordSend (s : SenderLink) (deliveryId : UInt32) (message : PendingSend) :
    SenderLink × List Effect :=
  let next := {s with nextTag := s.nextTag + 1,credit := s.credit.recordSent}
  if message.settled then
    (next,match message.reply with
      | some reply => [.sent reply (.ok .accepted)]
      | none => [])
  else
    ({next with
        unsettled := UnsettledMap.track s.unsettled deliveryId s.deliveryTag none,
        pending := match message.reply with
          | some reply => s.pending.insert deliveryId reply
          | none => s.pending},[])

def flushOutbox (channel : UInt16) (handle : UInt32) (maxPayload : Nat) :
    List PendingSend → SenderLink → SessionWindows → SenderLink × SessionWindows × List Effect
  | [],sender,windows => ({sender with outbox := []},windows,[])
  | front::rest,sender,windows =>
    if sender.attached && sender.credit.canSend then
      if !front.settled && decide (maxUnsettledPerLink ≤ sender.unsettled.size) then
        ({sender with outbox := front::rest},windows,[])
      else if windows.remoteIncomingWindow < frameCount front.body.length maxPayload then
        ({sender with outbox := front::rest},windows,[])
      else
        let deliveryId := windows.nextOutgoingId
        let (windows,frames) := sendMessageFrames channel handle deliveryId sender.deliveryTag
          front maxPayload windows
        let (sender,replies) := sender.recordSend deliveryId front
        let (sender,windows,effects) := flushOutbox channel handle maxPayload rest sender windows
        (sender,windows,frames.map .queue ++ replies ++ effects)
    else ({sender with outbox := front::rest},windows,[])

def completeDrain (channel : UInt16) (handle : UInt32) (sender : SenderLink)
    (windows : SessionWindows) : SenderLink × List Effect :=
  if sender.credit.drain && sender.outbox.isEmpty && decide (0 < sender.credit.linkCredit) then
    let credit := {sender.credit with
      deliveryCount := sender.credit.deliveryCount + sender.credit.linkCredit,linkCredit := 0}
    ({sender with credit := {credit with drain := false}},
      [.queue ⟨channel,.flow (linkFlow handle credit windows),none⟩])
  else (sender,[])

def SenderLink.report (s : SenderLink) (id : UInt32) (settled : Bool) :
    Option DeliveryState → List Effect
  | none => []
  | some st => [.event s.events (.disposition s.handle id st settled)]

/-- The loop of `on_disposition` over the affected ids: complete the awaiting sends once
the outcome is terminal or settled, and report the state to the producer. -/
def SenderLink.resolve (s : SenderLink) (outcome state : Option DeliveryState) (settled : Bool) :
    List UInt32 → Map UInt32 Reply → Map UInt32 Reply × List Effect
  | [],pending => (pending,[])
  | id::rest,pending =>
    let (pending,replies) : Map UInt32 Reply × List Effect := match outcome,pending[id]? with
      | some outcome,some reply => (pending.erase id,[.sent reply (.ok outcome)])
      | _,_ => (pending,[])
    let (pending,effects) := s.resolve outcome state settled rest pending
    (pending,replies ++ s.report id settled state ++ effects)

def sendOutcome (state : Option DeliveryState) (settled : Bool) : Option DeliveryState :=
  match state with
  | some st => if st.isTerminal then some st else if settled then some .accepted else none
  | none => if settled then some .accepted else none

/-- One link's part of `on_disposition` when the peer settles deliveries we sent. -/
def SenderLink.settleSent (s : SenderLink) (first last : UInt32) (state : Option DeliveryState)
    (settled : Bool) : Except Fault (SenderLink × List Effect) :=
  if s.unsettled.isEmpty then .ok (s,[])
  else match UnsettledMap.applyDisposition s.unsettled first last state settled with
    | .error fault => .error fault
    | .ok (affected,unsettled) =>
      let (pending,effects) := s.resolve (sendOutcome state settled) state settled affected s.pending
      .ok ({s with unsettled,pending},effects)

def ReceiverLink.settleReceived (r : ReceiverLink) (first last : UInt32)
    (state : Option DeliveryState) (settled : Bool) : Except Fault ReceiverLink :=
  if r.unsettled.isEmpty then .ok r
  else match UnsettledMap.applyDisposition r.unsettled first last state settled with
    | .error fault => .error fault
    | .ok (_,unsettled) => .ok {r with unsettled}

def Link.dispose (d : Disposition) : Link → Except Fault (Link × List Effect)
  | .sender s => match d.role with
    | .receiver => match s.settleSent d.first (d.last.getD d.first) d.state d.settled with
      | .error fault => .error fault
      | .ok (s,effects) => .ok (.sender s,effects)
    | .sender => .ok (.sender s,[])
  | .receiver r => match d.role with
    | .sender => match r.settleReceived d.first (d.last.getD d.first) d.state d.settled with
      | .error fault => .error fault
      | .ok r => .ok (.receiver r,[])
    | .receiver => .ok (.receiver r,[])

structure AcceptedLink where
  handle : UInt32
  role : Role
  deriving DecidableEq

namespace Session

def new (sessionId : Nat) (localChannel : UInt16) (begin_ : Begin) (events : ChannelRef)
    (pendingBegin : Reply) : Session :=
  {sessionId,localChannel,remoteChannel := none,phase := .beginSent,
   windows := {SessionWindows.new ⟨begin_.incomingWindow,begin_.outgoingWindow,begin_.handleMax⟩ with
     nextOutgoingId := begin_.nextOutgoingId},
   handles := .new begin_.handleMax,remoteHandles := fun _ => none,links := ∅,
   linkHandles := fun _ => none,events,pendingBegin := some pendingBegin,pendingEnd := none}

def onPeerBegin (s : Session) (remoteChannel : UInt16) (begin_ : Begin) : Session × List Effect :=
  if s.phase = .beginSent then
    ({s with remoteChannel := some remoteChannel,windows := s.windows.onPeerBegin begin_,
             phase := .mapped,pendingBegin := none},
      match s.pendingBegin with
      | some reply => [.opened reply (.ok ⟨s.localChannel,s.sessionId⟩)]
      | none => [])
  else (s,[])

def acceptPeerBegin (sessionId : Nat) (localChannel remoteChannel : UInt16) (peerBegin : Begin)
    (config : SessionConfig) (events : ChannelRef) : Session × Begin :=
  let windows := (SessionWindows.new config).onPeerBegin peerBegin
  ({sessionId,localChannel,remoteChannel := some remoteChannel,phase := .mapped,windows,
    handles := .new (min config.handleMax peerBegin.handleMax),remoteHandles := fun _ => none,
    links := ∅,linkHandles := fun _ => none,events,pendingBegin := none,pendingEnd := none},
   ⟨some remoteChannel,windows.nextOutgoingId,config.incomingWindow,config.outgoingWindow,
    config.handleMax⟩)

def beginEnd (s : Session) (reply : Reply) : Session :=
  {s with phase := .endSent,pendingEnd := some reply}

def onPeerEnd (s : Session) (error : Option AmqpError) : Session × List Effect :=
  ({s with phase := .ended,pendingEnd := none},
    match s.pendingEnd with
    | some reply => [.done reply (match error with
      | some e => .error (.fromRemote .peerClosed e)
      | none => .ok ())]
    | none => [.sessionEnded s.events error])

def attachLink (s : Session) (attach : Attach) (creditMode : CreditMode) (events : ChannelRef)
    (reply : Reply) : Session × List Effect :=
  match s.handles.allocate with
  | none => (s,[.attached reply (.error (.msg .capacity "handle-max exhausted"))])
  | some (handle,handles) =>
    let attach := {attach with
      handle,
      initialDeliveryCount := match attach.role with
        | .sender => some (attach.initialDeliveryCount.getD 0)
        | .receiver => attach.initialDeliveryCount}
    let link := match attach.role with
      | .sender => Link.sender (.new handle attach.name events reply attach.sndSettleMode creditMode)
      | .receiver => Link.receiver
        (.new handle attach.name events reply attach.rcvSettleMode creditMode attach.maxMessageSize)
    ({s with
        handles,
        linkHandles := update s.linkHandles (attach.name,attach.role) (some handle),
        links := s.links.insert handle link},
      [.queue ⟨s.localChannel,.attach attach,none⟩])

/-- The receiver's part of `on_peer_attach`: adopt the settle mode and delivery count and
grant the initial credit. -/
def bindReceiver (r : ReceiverLink) (attach : Attach) (windows : SessionWindows) :
    ReceiverLink × Option Flow :=
  let r := {r with
    settleMode := attach.rcvSettleMode,
    credit := {r.credit with
      deliveryCount := attach.initialDeliveryCount.getD r.credit.deliveryCount}}
  let grant := r.initialCredit
  if 0 < grant then
    let r := {r with credit := r.credit.setCredit grant}
    (r,some (linkFlow r.handle r.credit windows))
  else (r,none)

def bindLink (link : Link) (attach : Attach) (windows : SessionWindows) : Link × Option Flow :=
  match (link.setRemoteHandle attach.handle).markAttached with
  | .sender l => (.sender l,none)
  | .receiver r => ((.receiver (bindReceiver r attach windows).1),(bindReceiver r attach windows).2)

def queueFlow (channel : UInt16) : Option Flow → List Effect
  | some flow => [.queue ⟨channel,.flow flow,none⟩]
  | none => []

def replyAttached (handle : UInt32) (attach : Attach) : Option Reply → List Effect
  | some reply => [.attached reply (.ok ⟨handle,attach⟩)]
  | none => []

def onPeerAttach (s : Session) (attach : Attach) : Session × List Effect :=
  match s.linkHandles (attach.name,attach.role.opposite) with
  | none => (s,[])
  | some handle => match s.links[handle]? with
    | none => (s,[])
    | some link =>
      if link.remoteHandle.isSome then (s,[])
      else
        let (bound,flow) := bindLink link attach s.windows
        ({s with
            remoteHandles := update s.remoteHandles attach.handle (some handle),
            links := s.links.insert handle bound.clearPendingAttach},
          replyAttached handle attach link.pendingAttach ++ queueFlow s.localChannel flow)

def knowsLink (s : Session) (name : String) (remoteRole : Role) : Bool :=
  (s.linkHandles (name,remoteRole.opposite)).isSome

def mirrorLink (handle : UInt32) (attach : Attach) (creditMode : CreditMode) (initialCredit : UInt32)
    (maxMessageSize : Option UInt64) (events : ChannelRef) (windows : SessionWindows) :
    Link × Option Flow :=
  match attach.role.opposite with
  | .receiver =>
    let r := ReceiverLink.accepted handle attach.name events attach.rcvSettleMode creditMode maxMessageSize
    let r := {r with credit := {r.credit with
      deliveryCount := attach.initialDeliveryCount.getD r.credit.deliveryCount}}
    if 0 < initialCredit then
      let r := {r with credit := r.credit.setCredit initialCredit}
      (.receiver r,some (linkFlow handle r.credit windows))
    else (.receiver r,none)
  | .sender => (.sender (.accepted handle attach.name events attach.sndSettleMode creditMode),none)

def attachResponse (handle : UInt32) (attach : Attach) (maxMessageSize : Option UInt64) : Attach :=
  {name := attach.name,handle,role := attach.role.opposite,sndSettleMode := attach.sndSettleMode,
   rcvSettleMode := attach.rcvSettleMode,source := attach.source,target := attach.target,
   initialDeliveryCount := match attach.role.opposite with
     | .sender => some 0
     | .receiver => none,
   maxMessageSize := match attach.role.opposite with
     | .sender => none
     | .receiver => maxMessageSize}

def acceptPeerAttach (s : Session) (attach : Attach) (creditMode : CreditMode)
    (initialCredit : UInt32) (maxMessageSize : Option UInt64) (events : ChannelRef) :
    Except Failure (AcceptedLink × Session × List Effect) :=
  let ourRole := attach.role.opposite
  if (s.linkHandles (attach.name,ourRole)).isSome then
    .error (.msg .protocolViolation ("duplicate attach for link name " ++ attach.name.quote ++
      " (role " ++ (match ourRole with | .sender => "Sender" | .receiver => "Receiver") ++ ")"))
  else match s.handles.allocate with
    | none => .error (.msg .capacity "handle-max exhausted accepting attach")
    | some (handle,handles) =>
      let (link,flow) := mirrorLink handle attach creditMode initialCredit maxMessageSize events s.windows
      .ok (⟨handle,ourRole⟩,
        {s with
          handles,
          linkHandles := update s.linkHandles (attach.name,ourRole) (some handle),
          remoteHandles := update s.remoteHandles attach.handle (some handle),
          links := s.links.insert handle (link.setRemoteHandle attach.handle).markAttached},
        .queue ⟨s.localChannel,.attach (attachResponse handle attach maxMessageSize),none⟩ ::
          queueFlow s.localChannel flow)

def refusePeerAttach (s : Session) (attach : Attach) (error : AmqpError) : Session × List Effect :=
  let (handle,handles) : UInt32 × HandleAllocator := match s.handles.allocate with
    | some (handle,handles) => (handle,handles.release handle)
    | none => (0,s.handles)
  ({s with handles},
    [.queue ⟨s.localChannel,.attach
      {name := attach.name,handle,role := attach.role.opposite,
       sndSettleMode := attach.sndSettleMode,rcvSettleMode := attach.rcvSettleMode},none⟩,
     .queue ⟨s.localChannel,.detach ⟨handle,true,some error⟩,none⟩])

def flushSender (s : Session) (handle : UInt32) (maxFrameSize : Nat) : Session × List Effect :=
  match s.links[handle]? with
  | some (.sender sender) =>
    let (sender,windows,sent) := flushOutbox s.localChannel handle (maxPayloadPerFrame maxFrameSize)
      sender.outbox sender s.windows
    let (sender,drained) := completeDrain s.localChannel handle sender windows
    ({s with windows,links := s.links.insert handle (.sender sender)},sent ++ drained)
  | _ => (s,[])

def sendTransfer (s : Session) (handle : UInt32) (message : PendingSend) (maxFrameSize : Nat) :
    Session × List Effect :=
  match s.links[handle]? with
  | some (.sender sender) =>
    let sender := {sender with outbox := sender.outbox ++ [message]}
    flushSender {s with links := s.links.insert handle (.sender sender)} handle maxFrameSize
  | _ => (s,match message.reply with
    | some reply => [.sent reply (.error (.msg .detached "no such sender link"))]
    | none => [])

def forgetLink (s : Session) (handle : UInt32) : Session × List Effect :=
  match s.links[handle]? with
  | some link =>
    ({s with
        links := s.links.erase handle,
        linkHandles := update s.linkHandles link.key none,
        handles := s.handles.release handle},link.replies.map .dropped)
  | none => ({s with handles := s.handles.release handle},[])

@[simp] lemma queued_forgetLink (s : Session) (handle : UInt32) : queued (s.forgetLink handle).2 = [] := by
  unfold forgetLink
  split <;> simp

def unbind (s : Session) (remote : Option UInt32) : Session :=
  match remote with
  | some r => {s with remoteHandles := update s.remoteHandles r none}
  | none => s

def detachWithError (s : Session) (handle : UInt32) (condition : ErrorCondition)
    (description : String) : Session × List Effect :=
  let error : AmqpError := ⟨condition,some description⟩
  let link := s.links[handle]?
  let (next,dropped) := (s.unbind (link.bind Link.remoteHandle)).forgetLink handle
  (next,.queue ⟨s.localChannel,.detach ⟨handle,true,some error⟩,none⟩ ::
    ((match link with
      | some l => [.event l.events (.detached handle (some error))]
      | none => []) ++ dropped))

/-- Hand a transfer to the receiver link it is for: the new session, the event to emit, and
whether the delivery exceeded the size cap. -/
def assemble (s : Session) (handle : UInt32) (transfer : Transfer) (payload : Option Bytes) :
    Except Fault (Session × List Effect × Bool) :=
  match s.links[handle]? with
  | some (.receiver r) => match r.receive transfer payload with
    | .error fault => .error fault
    | .ok (next,emit,sizeExceeded) =>
      .ok ({s with links := s.links.insert handle (.receiver next)},
        emit.toList.map (Effect.event r.events),sizeExceeded)
  | _ => .ok (s,[],false)

def replenish (s : Session) (needSessionFlow : Bool) : Session × List Effect :=
  if needSessionFlow then
    let windows := s.windows.replenishIncoming
    ({s with windows},[.queue ⟨s.localChannel,.flow windows.buildFlow,none⟩])
  else (s,[])

def refuseOversized (s : Session) (handle : UInt32) (sizeExceeded : Bool) : Session × List Effect :=
  if sizeExceeded then
    s.detachWithError handle .messageSizeExceeded "assembled message exceeds max-message-size"
  else (s,[])

def onTransfer (s : Session) (transfer : Transfer) (payload : Option Bytes) :
    Except Fault (Session × List Effect) :=
  match s.remoteHandles transfer.handle with
  | none => .ok (s,[])
  | some handle =>
    let (windows,needSessionFlow) := s.windows.recordIncoming
    match {s with windows}.assemble handle transfer payload with
    | .error fault => .error fault
    | .ok (s,emit,sizeExceeded) =>
      let (s,flow) := s.replenish needSessionFlow
      let (s,detached) := s.refuseOversized handle sizeExceeded
      .ok (s,flow ++ emit ++ detached)

def onDisposition (s : Session) (d : Disposition) : Except Fault (Session × List Effect) :=
  match Sweep.sweep (Link.dispose d) s.links with
  | .error fault => .error fault
  | .ok (links,effects) => .ok ({s with links},effects)

def sendDisposition (s : Session) (handle first : UInt32) (last : Option UInt32)
    (state : DeliveryState) (settled : Bool) : Except Fault (Session × List Effect) :=
  let secondMode := match s.links[handle]? with
    | some (.receiver r) => r.settleMode == .second
    | _ => false
  let wireSettled := settled && !secondMode
  let frame : Effect := .queue ⟨s.localChannel,
    .disposition ⟨.receiver,first,last,wireSettled,some state⟩,none⟩
  match s.links[handle]? with
  | some (.receiver r) =>
    if r.unsettled.isEmpty then .ok (s,[frame])
    else match UnsettledMap.applyDisposition r.unsettled first (last.getD first) (some state)
        wireSettled with
      | .error fault => .error fault
      | .ok (_,unsettled) =>
        .ok ({s with links := s.links.insert handle (.receiver {r with unsettled})},[frame])
  | _ => .ok (s,[frame])

def grantCredit (s : Session) (handle credit : UInt32) : Session × List Effect :=
  match s.links[handle]? with
  | some (.receiver r) =>
    let r := {r with credit := r.credit.grant credit}
    ({s with links := s.links.insert handle (.receiver r)},
      [.queue ⟨s.localChannel,.flow (linkFlow handle r.credit s.windows),none⟩])
  | _ => (s,[])

def applyLinkFlow (s : Session) (flow : Flow) : Session × List Effect :=
  match flow.handle.bind s.remoteHandles with
  | none => (s,[])
  | some handle => match s.links[handle]? with
    | some (.sender l) =>
      let l := {l with
        credit := l.credit.applyFlowAsSender flow.deliveryCount flow.linkCredit flow.drain}
      ({s with links := s.links.insert handle (.sender l)},
        [.event l.events (.credit handle l.credit.linkCredit l.credit.drain)])
    | _ => (s,[])

def stalled (s : Session) : List UInt32 :=
  s.links.toList.filterMap fun entry => match entry.2 with
    | .sender l => if l.outbox.isEmpty then none else some entry.1
    | .receiver _ => none

def flushAll (maxFrameSize : Nat) : List UInt32 → Session → Session × List Effect
  | [],s => (s,[])
  | handle::rest,s =>
    let (s,effects) := s.flushSender handle maxFrameSize
    let (s,more) := flushAll maxFrameSize rest s
    (s,effects ++ more)

variable (s : Session)

def echoFlow (flow : Flow) : Flow :=
  let response := s.windows.buildFlow
  match flow.handle.bind s.remoteHandles with
  | none => response
  | some handle => match s.links[handle]? with
    | some link =>
      let credit := match link with
        | .sender l => l.credit
        | .receiver r => r.credit
      {response with
        handle := some handle,deliveryCount := some credit.deliveryCount,
        linkCredit := some credit.linkCredit}
    | none => response

def onFlow (order : IterOrder) (flow : Flow) (maxFrameSize : Nat) :
    Session × List Effect :=
  let s := {s with windows := s.windows.onPeerFlow flow}
  let (s,credited) := s.applyLinkFlow flow
  let (s,flushed) := flushAll maxFrameSize (order.arrange s.stalled) s
  (s,credited ++ flushed ++
    if flow.echo then [.queue ⟨s.localChannel,.flow (s.echoFlow flow),none⟩] else [])

def sendFlow (flow : Flow) : Session × List Effect :=
  let links := match flow.handle,flow.linkCredit with
    | some handle,some credit => match s.links[handle]? with
      | some (.receiver r) => s.links.insert handle (.receiver {r with credit := r.credit.setCredit credit})
      | _ => s.links
    | _,_ => s.links
  let win := s.windows.buildFlow
  ({s with links},
    [.queue ⟨s.localChannel,.flow {flow with
      nextIncomingId := win.nextIncomingId,incomingWindow := win.incomingWindow,
      nextOutgoingId := win.nextOutgoingId,outgoingWindow := win.outgoingWindow},none⟩])

def detachLink (handle : UInt32) (closed : Bool) (error : Option AmqpError)
    (reply : Reply) : Session × List Effect :=
  match s.links[handle]? with
  | some link =>
    let (next,dropped) := (s.unbind link.remoteHandle).forgetLink handle
    (next,.queue ⟨s.localChannel,.detach ⟨handle,closed,error⟩,none⟩ ::
      (dropped ++ [.done reply (.ok ())]))
  | none => (s,[.done reply (.ok ())])

def onPeerDetach (detach : Detach) : Session × List Effect :=
  match s.remoteHandles detach.handle with
  | none => (s,[])
  | some handle =>
    let (next,dropped) := (s.unbind (some detach.handle)).forgetLink handle
    (next,(match s.links[handle]? with
        | some l => [.event l.events (.detached handle detach.error)]
        | none => []) ++
      .queue ⟨s.localChannel,.detach ⟨handle,detach.closed,none⟩,none⟩ :: dropped)

def handleLinkFrame (order : IterOrder) (performative : Performative)
    (payload : Option Bytes) (maxFrameSize : Nat) : Except Fault (Session × List Effect) :=
  match performative with
  | .attach a => .ok (s.onPeerAttach a)
  | .transfer t => s.onTransfer t payload
  | .disposition d => s.onDisposition d
  | .flow f => .ok (s.onFlow order f maxFrameSize)
  | .detach d => .ok (s.onPeerDetach d)
  | _ => .ok (s,[])

end Session

end Ramqp
