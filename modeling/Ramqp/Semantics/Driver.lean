import Ramqp.Semantics.Session

/-! The connection driver: it owns the sessions of one connection, runs the commands of user
handles on them and routes inbound frames by channel. -/
namespace Ramqp

structure ChannelAllocator where
  channelMax : UInt16
  next : Nat
  free : List UInt16
  deriving DecidableEq

namespace ChannelAllocator

def new (channelMax : UInt16) : ChannelAllocator := ⟨channelMax,0,[]⟩

def allocate (a : ChannelAllocator) : Option (UInt16 × ChannelAllocator) :=
  match a.free with
  | channel::rest => some (channel,{a with free := rest})
  | [] => if a.next ≤ a.channelMax.toNat then some (UInt16.ofNat a.next,{a with next := a.next + 1})
    else none

def release (a : ChannelAllocator) (channel : UInt16) : ChannelAllocator :=
  {a with free := channel::a.free}

end ChannelAllocator

inductive DriverCommand where
  | beginSession (begin_ : Begin) (events : ChannelRef) (reply : Reply)
  | endSession (channel : UInt16) (error : Option AmqpError) (reply : Reply)
  | attachLink (channel : UInt16) (attach : Attach) (creditMode : CreditMode) (events : ChannelRef)
      (reply : Reply)
  | detachLink (channel : UInt16) (handle : UInt32) (closed : Bool) (error : Option AmqpError) (reply : Reply)
  | sendTransfer (channel : UInt16) (handle : UInt32) (message : PendingSend)
  | sendDisposition (channel : UInt16) (handle first : UInt32) (last : Option UInt32) (state : DeliveryState)
      (settled : Bool) (reply : Option Reply)
  | sendFlow (channel : UInt16) (flow : Flow)
  | grantCredit (channel : UInt16) (handle credit : UInt32)
  | closeConnection (error : Option AmqpError) (reply : Reply)
  deriving DecidableEq

structure Driver where
  maxFrameSize : Nat
  channelMax : UInt16
  channels : ChannelAllocator
  sessions : Map UInt16 Session
  remoteChannels : UInt16 → Option UInt16
  /-- The process-wide counter behind `SessionId::next`. -/
  nextSessionId : Nat

def Session.replies (s : Session) : List Reply :=
  s.pendingBegin.toList ++ s.pendingEnd.toList ++ s.links.toList.flatMap (fun entry => entry.2.replies)

namespace Driver

def opened (maxFrameSize : Nat) (channelMax : UInt16) : Driver :=
  ⟨maxFrameSize,channelMax,.new channelMax,∅,fun _ => none,0⟩

def noSession : Failure := .msg .notConnected "no such session"

variable (d : Driver)

def onSession (channel : UInt16) (missing : List Effect)
    (run : Session → Except Fault (Session × List Effect)) : Except Fault (Driver × List Effect) :=
  match d.sessions[channel]? with
  | none => .ok (d,missing)
  | some s => match run s with
    | .error fault => .error fault
    | .ok (s,effects) => .ok ({d with sessions := d.sessions.insert channel s},effects)

def beginSession (begin_ : Begin) (events : ChannelRef) (reply : Reply) :
    Driver × List Effect :=
  match d.channels.allocate with
  | none => (d,[.opened reply (.error (.msg .capacity "channel-max exhausted"))])
  | some (channel,channels) =>
    let begin_ := {begin_ with remoteChannel := none}
    ({d with
        channels,nextSessionId := d.nextSessionId + 1,
        sessions := d.sessions.insert channel (.new d.nextSessionId channel begin_ events reply)},
      [.queue ⟨channel,.begin_ begin_,none⟩])

def endSession (channel : UInt16) (error : Option AmqpError) (reply : Reply) :
    Driver × List Effect :=
  match d.sessions[channel]? with
  | some s => ({d with sessions := d.sessions.insert channel (s.beginEnd reply)},
      s.pendingEnd.toList.map .dropped ++ [.queue ⟨channel,.end_ error,none⟩])
  | none => (d,[.done reply (.error noSession)])

def handleCommand : DriverCommand → Except Fault (Driver × List Effect)
  | .beginSession begin_ events reply => .ok (d.beginSession begin_ events reply)
  | .endSession channel error reply => .ok (d.endSession channel error reply)
  | .attachLink channel attach creditMode events reply =>
    d.onSession channel [.attached reply (.error noSession)]
      (fun s => .ok (s.attachLink attach creditMode events reply))
  | .detachLink channel handle closed error reply =>
    d.onSession channel [.done reply (.error noSession)]
      (fun s => .ok (s.detachLink handle closed error reply))
  | .sendTransfer channel handle message =>
    d.onSession channel (message.reply.toList.map fun reply => .sent reply (.error noSession))
      (fun s => .ok (s.sendTransfer handle message d.maxFrameSize))
  | .sendDisposition channel handle first last state settled reply =>
    d.onSession channel (reply.toList.map fun reply => .done reply (.error noSession))
      (fun s => match s.sendDisposition handle first last state settled with
        | .error fault => .error fault
        | .ok (s,effects) => .ok (s,effects ++ reply.toList.map fun reply => .done reply (.ok ())))
  | .sendFlow channel flow => d.onSession channel [] (fun s => .ok (s.sendFlow flow))
  | .grantCredit channel handle credit => d.onSession channel [] (fun s => .ok (s.grantCredit handle credit))
  | .closeConnection error _ => .ok (d,[.queue ⟨0,.close error,none⟩]) -- answered by the peer's `close`

def violation (message : String) : Fault := .failed (.msg .protocolViolation message)

def onPeerBegin (d : Driver) (channel : UInt16) (begin_ : Begin) : Except Fault (Driver × List Effect) :=
  match begin_.remoteChannel with
  | none => .error (violation "peer begin missing remote-channel")
  | some «local» => match d.sessions[«local»]? with
    | none => .error (violation ("peer begin references unknown local channel " ++ toString «local»))
    | some s =>
      if s.phase = .beginSent then
        let (s,effects) := s.onPeerBegin channel begin_
        .ok ({d with
            remoteChannels := Function.update d.remoteChannels channel (some «local»),
            sessions := d.sessions.insert «local» s},effects)
      else .error (violation ("peer begin for already-mapped channel " ++ toString «local»))

def onPeerEnd (d : Driver) (channel : UInt16) (error : Option AmqpError) : Driver × List Effect :=
  match d.remoteChannels channel with
  | none => (d,[])
  | some «local» =>
    let ending := d.sessions[«local»]?.any (fun s => s.phase == .endSent)
    let ended := match d.sessions[«local»]? with
      | some s => (s.onPeerEnd error).2
      | none => []
    let dropped := match d.sessions[«local»]? with
      | some s => (s.onPeerEnd error).1.replies.map .dropped
      | none => []
    ({d with
        sessions := d.sessions.erase «local»,
        channels := d.channels.release «local»,
        remoteChannels := Function.update d.remoteChannels channel none},
      ended ++ (if ending then [] else [.queue ⟨«local»,.end_ none,none⟩]) ++ dropped)

def routeSessionFrame (order : IterOrder) (frame : Frame) : Except Fault (Driver × List Effect) :=
  if d.channelMax < frame.channel then
    .error (violation ("frame on channel " ++ toString frame.channel ++ " exceeds negotiated channel-max " ++
      toString d.channelMax))
  else match frame.performative with
    | .begin_ begin_ => d.onPeerBegin frame.channel begin_
    | .end_ error => .ok (d.onPeerEnd frame.channel error)
    | performative => match d.remoteChannels frame.channel with
      | none => .error (violation ("link frame on unmapped channel " ++ toString frame.channel))
      | some «local» => d.onSession «local» []
          (fun s => s.handleLinkFrame order performative frame.payload d.maxFrameSize)

def handleFrame (order : IterOrder) (frame : Frame) :
    Except Fault (Driver × List Effect × Bool) :=
  match frame.performative with
  | .close none => .ok (d,[.queue ⟨0,.close none,none⟩],true)
  | .close (some error) => .error (.failed (.fromRemote .peerClosed error))
  | .open_ _ => .error (violation "unexpected second open")
  | _ => match d.routeSessionFrame order frame with
    | .error fault => .error fault
    | .ok (d,effects) => .ok (d,effects,false)

end Driver

end Ramqp
