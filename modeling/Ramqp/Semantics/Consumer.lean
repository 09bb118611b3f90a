import Ramqp.Semantics.Session

/-! The consumers of one session and the peer that sends to them. The deliveries of a link reach
its consumer whole and in order; the dispositions that the consumers' calls send reach the peer in
order. Along with it goes what each call was meant to settle and what it did settle. -/
namespace Ramqp

structure Sent where
  id : UInt32
  settled : Bool
  deriving DecidableEq

/-- A consumer: its link's handle, the deliveries in its channel and those it handed to the user, the ids its
dispositions named so far, and how many deliveries it had handed over when `accept_through` was last called. -/
structure Consumer where
  handle : UInt32
  inbox : List Sent
  received : List Sent
  settled : List UInt32
  pendingFirst : Option UInt32
  through : Nat

structure Dispatch where
  disposition : Disposition
  meant : List (UInt32 × UInt32)

structure Verdict where
  dispatch : Dispatch
  settled : List (UInt32 × UInt32)

/-- `consumers` and `flights` go by the peer's handle of the link. -/
structure Shared where
  peer : Session
  maxFrameSize : Nat
  session : Session
  flights : UInt32 → List Sent
  consumers : UInt32 → Consumer
  wire : List Dispatch
  verdicts : List Verdict

inductive SharedStep where
  | send (handle : UInt32) (message : PendingSend)
  | flow (order : IterOrder) (flow : Flow)
  | arrive (handle : UInt32)
  | recv (handle : UInt32)
  | dispose (handle : UInt32) (delivery : Sent) (state : DeliveryState)
  | acceptThrough (handle : UInt32) (delivery : Sent)
  | settle

def Frame.announced (frame : Frame) : Option (UInt32 × Sent) :=
  match frame.performative with
  | .transfer t => t.deliveryId.map fun id => (t.handle,⟨id,t.settled.getD false⟩)
  | _ => none

def announced (effects : List Effect) : List (UInt32 × Sent) := (queued effects).filterMap Frame.announced

def Session.outstanding (s : Session) : List (UInt32 × UInt32) :=
  s.links.toList.flatMap fun entry => match entry.2 with
    | .sender l => l.unsettled.keys.map fun id => (entry.1,id)
    | .receiver _ => []

def Session.track (s : Session) (handle : UInt32) (d : Sent) : Session :=
  match s.links[handle]? with
  | some (.receiver r) =>
    {s with links := s.links.insert handle (.receiver (r.complete ⟨d.id,[],d.settled,none,[]⟩).1)}
  | _ => s

namespace Consumer

def unsettled (c : Consumer) (d : Sent) : Bool := !d.settled && !c.settled.contains d.id

def upTo (c : Consumer) (d : Sent) : List Sent :=
  (c.received.take (c.received.idxOf d + 1)).filter c.unsettled

/-- The deliveries handed over since `accept_through` was last called. -/
def fresh (c : Consumer) : List Sent := c.received.drop c.through

def recv (c : Consumer) : Option Consumer :=
  match c.inbox with
  | [] => none
  | d::rest => some {c with
      inbox := rest,received := c.received ++ [d],pendingFirst := some (c.pendingFirst.getD d.id)}

def named (c : Consumer) (first last : UInt32) : Consumer :=
  {c with settled := c.settled ++
    (c.received.map Sent.id).filter (fun id => decide (first ≤ id) && decide (id ≤ last))}

end Consumer

namespace Shared

variable (s : Shared)

def launch (out : Session × List Effect) : Shared :=
  {s with
    peer := out.1,
    flights := fun handle => s.flights handle ++
      ((announced out.2).filter (·.1 == handle)).map Prod.snd}

def update (s : Shared) (handle : UInt32) (c : Consumer) : Shared :=
  {s with consumers := Function.update s.consumers handle c}

def disposeRange (handle first : UInt32) (last : Option UInt32) (state : DeliveryState)
    (meant : List Sent) : Option Shared :=
  let c := s.consumers handle
  match s.session.sendDisposition c.handle first last state true with
  | .error _ => none
  | .ok (session,effects) =>
    let sent := (queued effects).filterMap fun frame => match frame.performative with
      | .disposition d => some ⟨d,meant.map fun sent => (handle,sent.id)⟩
      | _ => none
    some ({s with session,wire := s.wire ++ sent}.update handle (c.named first (last.getD first)))

def dispose (handle : UInt32) (d : Sent) (state : DeliveryState) : Option Shared :=
  s.disposeRange handle d.id none state ([d].filter (s.consumers handle).unsettled)

def acceptThrough (handle : UInt32) (d : Sent) : Option Shared :=
  let c := s.consumers handle
  (s.update handle {c with pendingFirst := none,through := c.received.length}).disposeRange handle
    (c.pendingFirst.getD d.id) (some d.id) .accepted (c.upTo d)

def settle : Option Shared :=
  match s.wire with
  | [] => none
  | dispatch::rest => match s.peer.onDisposition dispatch.disposition with
    | .error _ => none
    | .ok (peer,_) => some {s with
        peer,wire := rest,
        verdicts := s.verdicts ++ [⟨dispatch,s.peer.outstanding.filter (!peer.outstanding.contains ·)⟩]}

def step : SharedStep → Option Shared
  | .send handle message => some (s.launch (s.peer.sendTransfer handle message s.maxFrameSize))
  | .flow order flow => some (s.launch (s.peer.onFlow order flow s.maxFrameSize))
  | .arrive handle => match s.flights handle with
    | [] => none
    | d::rest =>
      let c := s.consumers handle
      some ({s with
          session := s.session.track c.handle d,
          flights := Function.update s.flights handle rest}.update handle {c with inbox := c.inbox ++ [d]})
  | .recv handle => (s.consumers handle).recv.map (s.update handle)
  | .dispose handle d state => if d ∈ (s.consumers handle).received then s.dispose handle d state else none
  | .acceptThrough handle d => if d ∈ (s.consumers handle).received then s.acceptThrough handle d else none
  | .settle => s.settle

end Shared

end Ramqp
