import Ramqp.Semantics.Driver

/-! The user handles of one connection and the driver that runs their commands. A fault or a
close stops the driver, and with it the run. -/
namespace Ramqp

structure SessionHandle where
  channel : UInt16
  events : ChannelRef
  deriving DecidableEq

/-- A producer or consumer; `session` are the events of the session it was attached on. -/
structure LinkHandle where
  channel : UInt16
  session : ChannelRef
  handle : UInt32
  events : ChannelRef
  deriving DecidableEq

inductive Owner where
  | connection
  | session (handle : SessionHandle)
  | link (handle : LinkHandle)
  deriving DecidableEq

structure Client where
  driver : Driver
  commands : List (Owner × DriverCommand)
  sessions : List SessionHandle
  links : List LinkHandle
  attaches : List (Reply × SessionHandle)
  next : Nat

inductive ClientStep where
  | beginSession (begin_ : Begin)
  | attach (session : SessionHandle) (attach : Attach) (creditMode : CreditMode)
  | send (link : LinkHandle) (body : Bytes) (settled : Bool) (state : Option DeliveryState) (awaited : Bool)
  | disposeRange (link : LinkHandle) (first : UInt32) (last : Option UInt32) (state : DeliveryState)
  | afterConsume (link : LinkHandle) (grant : UInt32)
  | credit (link : LinkHandle) (credit : UInt32)
  | detach (link : LinkHandle)
  | lose (link : LinkHandle)
  | endSession (session : SessionHandle)
  | dropSession (session : SessionHandle)
  | process
  | frame (order : IterOrder) (frame : Frame)

namespace Client

def opened (maxFrameSize : Nat) (channelMax : UInt16) : Client :=
  ⟨.opened maxFrameSize channelMax,[],[],[],[],0⟩

variable (c : Client)

def issue (owner : Owner) (command : DriverCommand) : Client :=
  {c with commands := c.commands ++ [(owner,command)],next := c.next + 1}

def take : Effect → Client
  | .opened reply (.ok opened) => {c with sessions := c.sessions ++ [⟨opened.channel,reply⟩]}
  | .attached reply (.ok attached) => match c.attaches.lookup reply with
    | some session =>
      {c with links := c.links ++ [⟨session.channel,session.events,attached.handle,reply⟩]}
    | none => c
  | _ => c

def through (link : LinkHandle) (command : DriverCommand) : Option Client :=
  if link ∈ c.links then some (c.issue (.link link) command) else none

def within (session : SessionHandle) (command : DriverCommand) : Option Client :=
  if session ∈ c.sessions then some (c.issue (.session session) command) else none

def process : Option (Client × List Effect) :=
  match c.commands with
  | [] => none
  | (_,command)::rest => match c.driver.handleCommand command with
    | .error _ => none
    | .ok (driver,effects) => some (effects.foldl take {c with driver,commands := rest},effects)

def receive (order : IterOrder) (frame : Frame) : Option (Client × List Effect) :=
  match c.driver.handleFrame order frame with
  | .ok (driver,effects,false) => some (effects.foldl take {c with driver},effects)
  | _ => none

def step : ClientStep → Option Client
  | .beginSession begin_ => some (c.issue .connection (.beginSession begin_ c.next c.next))
  | .attach session attach creditMode =>
    ({c with attaches := (c.next,session)::c.attaches}).within session
      (.attachLink session.channel attach creditMode c.next c.next)
  | .send link body settled state awaited => c.through link
      (.sendTransfer link.channel link.handle ⟨body,settled,0,state,if awaited then some c.next else none⟩)
  | .disposeRange link first last state => c.through link
      (.sendDisposition link.channel link.handle first last state true none)
  | .afterConsume link grant => c.through link (.grantCredit link.channel link.handle grant)
  | .credit link credit => c.through link
      (.sendFlow link.channel {handle := some link.handle,linkCredit := some credit})
  | .detach link => (c.through link (.detachLink link.channel link.handle true none c.next)).map
      fun next => {next with links := next.links.erase link}
  | .lose link => some {c with links := c.links.erase link}
  | .endSession session => (c.within session (.endSession session.channel none c.next)).map
      fun next => {next with sessions := next.sessions.erase session}
  | .dropSession session => some {c with sessions := c.sessions.erase session}
  | .process => c.process.map Prod.fst
  | .frame order frame => (c.receive order frame).map Prod.fst

end Client

end Ramqp
