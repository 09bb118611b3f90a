import Ramqp.Semantics.Session

/-! What the owner of a session may do with it: local operations, and the inbound link
frames under the way the owner answers a peer-initiated attach. -/
namespace Ramqp

inductive LocalOp where
  | attach (attach : Attach) (creditMode : CreditMode) (events : ChannelRef) (reply : Reply)
  | send (handle : UInt32) (message : PendingSend)
  | settle (handle first : UInt32) (last : Option UInt32) (state : DeliveryState) (settled : Bool)
  | grant (handle credit : UInt32)
  | flow (flow : Flow)
  | detach (handle : UInt32) (closed : Bool) (error : Option AmqpError) (reply : Reply)

/-- How the owner treats an attach for a link it did not initiate: a client ignores it, a
broker accepts or refuses it. -/
inductive AttachPolicy where
  | respond
  | accept (creditMode : CreditMode) (initialCredit : UInt32) (maxMessageSize : Option UInt64)
      (events : ChannelRef)
  | refuse (error : AmqpError)

namespace Session

def act (s : Session) (maxFrameSize : Nat) : LocalOp → Except Fault (Session × List Effect)
  | .attach attach creditMode events reply => .ok (s.attachLink attach creditMode events reply)
  | .send handle message => .ok (s.sendTransfer handle message maxFrameSize)
  | .settle handle first last state settled => s.sendDisposition handle first last state settled
  | .grant handle credit => .ok (s.grantCredit handle credit)
  | .flow flow => .ok (s.sendFlow flow)
  | .detach handle closed error reply => .ok (s.detachLink handle closed error reply)

def inboundAttach (s : Session) (attach : Attach) : AttachPolicy → Except Fault (Session × List Effect)
  | .respond => .ok (s.onPeerAttach attach)
  | .accept creditMode initialCredit maxMessageSize events =>
    if s.knowsLink attach.name attach.role then .ok (s.onPeerAttach attach)
    else match s.acceptPeerAttach attach creditMode initialCredit maxMessageSize events with
      | .error failure => .error (.failed failure)
      | .ok (_,next,effects) => .ok (next,effects)
  | .refuse error =>
    if s.knowsLink attach.name attach.role then .ok (s.onPeerAttach attach)
    else .ok (s.refusePeerAttach attach error)

def inbound (s : Session) (policy : AttachPolicy) (order : IterOrder) (maxFrameSize : Nat)
    (frame : Frame) : Except Fault (Session × List Effect) :=
  match frame.performative with
  | .attach attach => s.inboundAttach attach policy
  | performative => s.handleLinkFrame order performative frame.payload maxFrameSize

end Session

inductive SessionInput where
  | op (op : LocalOp)
  | frame (policy : AttachPolicy) (order : IterOrder) (frame : Frame)

def SessionInput.channel : SessionInput → Option ChannelRef
  | .op (.attach _ _ events _) => some events
  | .frame (.accept _ _ _ events) _ ⟨_,.attach _,_⟩ => some events
  | _ => none

def Session.react (maxFrameSize : Nat) (s : Session) : SessionInput → Except Fault (Session × List Effect)
  | .op op => s.act maxFrameSize op
  | .frame policy order frame => s.inbound policy order maxFrameSize frame

def Session.step (maxFrameSize : Nat) (s : Session) (input : SessionInput) : Option Session :=
  match s.react maxFrameSize input with
  | .ok (next,_) => some next
  | .error _ => none

end Ramqp
