import Ramqp.Semantics.Endpoint

/-! A consumer in automatic credit mode: the session of its link, its event channel, the grant a call is about to send,
and the grants on their way to the driver. Commands of other handles reach the session in any order with its own. -/
namespace Ramqp

structure AutoConsumer where
  session : Session
  handle : UInt32
  events : ChannelRef
  buffer : List LinkEvent
  sending : Option UInt32
  grants : List UInt32
  creditWindow : UInt32
  replenishEvery : UInt32
  consumed : UInt32
  aborted : Nat
  dropped : Nat

/-- A call of `recv` may have to wait before the driver's queue takes its grant, and may be dropped there. -/
inductive AutoStep where
  | input (input : SessionInput)
  | recv
  | send
  | drop
  | process

namespace AutoConsumer

/-- `create_consumer_with` in automatic mode; the handle is the one that the attach reply will name. -/
def create (s : Session) (attach : Attach) (window lowWater : UInt32) (events : ChannelRef) (reply : Reply) :
    Option AutoConsumer :=
  match s.handles.allocate with
  | none => none
  | some (handle,_) => some
    {session := (s.attachLink {attach with role := .receiver} (.auto window lowWater) events reply).1,
     handle,events,buffer := [],sending := none,grants := [],creditWindow := window,
     replenishEvery := max (saturatingSub window lowWater) 1,consumed := 0,aborted := 0,dropped := 0}

variable (c : AutoConsumer)

def capacity : Nat := max c.creditWindow.toNat 1 + 64

def link : Option ReceiverLink :=
  match c.session.links[c.handle]? with
  | some (.receiver r) => if r.events = c.events then some r else none
  | _ => none

def afterConsume : AutoConsumer :=
  if c.creditWindow = 0 then c
  else
    let consumed := c.consumed + 1
    if c.replenishEvery ≤ consumed then {c with consumed := 0,sending := some consumed}
    else {c with consumed}

def detachedError : Option AmqpError → Failure
  | some error => .fromRemote .detached error
  | none => .msg .detached "link detached"

def recvFrom (c : AutoConsumer) : List LinkEvent → AutoConsumer × Option (Except Failure IncomingDelivery)
  | [] => ({c with buffer := []},none)
  | .delivery d::rest => (({c with buffer := rest} : AutoConsumer).afterConsume,some (.ok d))
  | .detached _ error::rest => ({c with buffer := rest},some (.error (detachedError error)))
  | _::rest => c.recvFrom rest

def recv : AutoConsumer × Option (Except Failure IncomingDelivery) := c.recvFrom c.buffer

def aborts : SessionInput → Bool
  | .frame _ _ ⟨_,.transfer t,_⟩ =>
    t.aborted && decide (c.session.remoteHandles t.handle = some c.handle) && c.link.isSome
  | _ => false

def eventsOn (channel : ChannelRef) (effects : List Effect) : List LinkEvent :=
  (offered effects).filterMap fun entry => if entry.1 = channel then some entry.2 else none

def step (maxFrameSize : Nat) (c : AutoConsumer) : AutoStep → Option AutoConsumer
  | .input input => match c.session.react maxFrameSize input with
    | .error _ => none
    | .ok (session,effects) => some {c with
        session,buffer := c.buffer ++ eventsOn c.events effects,
        aborted := c.aborted + if c.aborts input then 1 else 0}
  | .recv => if c.sending.isSome then none else some c.recv.1
  | .send => c.sending.map fun grant => {c with sending := none,grants := c.grants ++ [grant]}
  | .drop => c.sending.map fun grant => {c with sending := none,dropped := c.dropped + grant.toNat}
  | .process => match c.grants with
    | [] => none
    | grant::rest => some {c with session := (c.session.grantCredit c.handle grant).1,grants := rest}

end AutoConsumer

end Ramqp
