import Ramqp.Semantics.Client

/-! The transparently reconnecting supervisor: a virtual driver that maps the sessions and links
of user handles onto one real driver after another. The real driver with its command queue is a
client; what the user handles hold and what went over the wire is kept along with it. -/
namespace Ramqp

open Function

structure RealLink where
  handle : UInt32
  events : ChannelRef
  deriving DecidableEq

structure LogicalLink where
  attach : Attach
  creditMode : CreditMode
  events : ChannelRef
  real : Option RealLink

structure LogicalSession where
  begin_ : Begin
  events : ChannelRef
  real : Option SessionHandle
  links : Map UInt32 LogicalLink
  nextVhandle : UInt32

structure ReplayReq where
  vchan : UInt16
  vhandle : UInt32
  message : PendingSend
  deriving DecidableEq

structure Proxy where
  reply : Reply
  request : ReplayReq
  deriving DecidableEq

structure Received where
  epoch : Nat
  id : UInt32
  deriving DecidableEq

structure ConsumerState where
  buffer : List Received
  held : List Received
  pendingFirst : Option Received

structure UserCommand where
  command : DriverCommand
  settles : List Received

inductive OpenTarget where
  | session (vchan : UInt16)
  | link (vchan : UInt16) (vhandle : UInt32)
  deriving DecidableEq

inductive Resume where
  | user (reply : Reply)
  | replay (plan : List OpenTarget)
  deriving DecidableEq

inductive SupervisorTask where
  | idle
  | opening (target : OpenTarget) (await : Reply) (resume : Resume)
  | establishing
  | stopped
  deriving DecidableEq

/-- How an awaited send was resolved, and whether its link existed and reconnecting had not
been given up then. -/
structure SendOutcome where
  reply : Reply
  result : Except Failure DeliveryState
  live : Bool

structure Supervised where
  client : Option Client
  commands : List UserCommand
  replays : List ReplayReq
  inner : Bool
  sessions : Map UInt16 LogicalSession
  nextVchan : UInt16
  task : SupervisorTask
  proxies : List Proxy
  orphans : List ReplayReq
  relays : ChannelRef → Option (UInt16 × UInt32)
  sessionRelays : ChannelRef → Option UInt16
  passed : List (Reply × Reply)
  consumers : UInt16 × UInt32 → ConsumerState
  epoch : Nat
  next : Nat
  spare : Nat
  answers : List Effect
  outcomes : List SendOutcome
  received : List Received
  wire : List (Nat × Frame)

namespace Supervised

def connectionLost : Failure := .msg .notConnected "connection lost"

def driverDropped : Failure := .msg .cancelled "driver dropped"

def connected (maxFrameSize : Nat) (channelMax : UInt16) : Supervised :=
  {client := some (.opened maxFrameSize channelMax),commands := [],replays := [],inner := true,
   sessions := ∅,nextVchan := 0,task := .idle,proxies := [],orphans := [],relays := fun _ => none,
   sessionRelays := fun _ => none,passed := [],consumers := fun _ => ⟨[],[],none⟩,epoch := 0,next := 0,spare := 0,answers := [],
   outcomes := [],received := [],wire := []}

variable (s : Supervised)

def knows (vchan : UInt16) (vhandle : UInt32) : Bool :=
  (s.sessions[vchan]?.bind fun session => session.links[vhandle]?).isSome

def realIds (vchan : UInt16) (vhandle : UInt32) : Option LinkHandle :=
  match s.sessions[vchan]? with
  | none => none
  | some session => match session.real,session.links[vhandle]?.bind LogicalLink.real with
    | some rc,some rl => some ⟨rc.channel,rc.events,rl.handle,rl.events⟩
    | _,_ => none

def answer (effect : Effect) : Supervised := {s with answers := s.answers ++ [effect]}

def resolve (request : ReplayReq) (result : Except Failure DeliveryState) : Supervised :=
  match request.message.reply with
  | none => s
  | some reply =>
    {s with outcomes := s.outcomes ++
      [⟨reply,result,s.knows request.vchan request.vhandle && decide (s.task ≠ .stopped)⟩]}

def lose : Supervised :=
  match s.client with
  | none => s
  | some c =>
    {s with
      client := none,spare := c.next,passed := [],proxies := [],
      orphans := s.orphans ++ s.proxies.map Proxy.request}

def forgetTarget : OpenTarget → Supervised
  | .session vchan => {s with sessions := s.sessions.erase vchan}
  | .link vchan vhandle => match s.sessions[vchan]? with
    | none => s
    | some session =>
      {s with sessions := s.sessions.insert vchan {session with links := session.links.erase vhandle}}

def failed (target : OpenTarget) (resume : Resume) (failure : Failure) : Supervised :=
  match resume with
  | .user reply =>
    {(s.forgetTarget target).answer (match target with
      | .session _ => .opened reply (.error failure)
      | .link _ _ => .attached reply (.error failure)) with task := .idle}
  | .replay _ => {s.lose with inner := false,task := .establishing}

def openSession (vchan : UInt16) (resume : Resume) : Supervised :=
  if s.inner then match s.sessions[vchan]? with
    | none => s.failed (.session vchan) resume Driver.noSession
    | some session => match s.client with
      | none => s.failed (.session vchan) resume connectionLost
      | some c =>
        {s with
          client := some (c.issue .connection (.beginSession session.begin_ c.next c.next)),
          sessionRelays := update s.sessionRelays c.next (some vchan),
          task := .opening (.session vchan) c.next resume}
  else s.failed (.session vchan) resume connectionLost

def openLink (vchan : UInt16) (vhandle : UInt32) (resume : Resume) : Supervised :=
  if s.inner then match s.sessions[vchan]? with
    | none => s.failed (.link vchan vhandle) resume Driver.noSession
    | some session => match session.real with
      | none => s.failed (.link vchan vhandle) resume (.msg .notConnected "session not open")
      | some rc => match session.links[vhandle]? with
        | none => s.failed (.link vchan vhandle) resume (.msg .notConnected "no such link")
        | some link => match s.client with
          | none => s.failed (.link vchan vhandle) resume connectionLost
          | some c =>
            {s with
              client := some ({c with attaches := (c.next,rc)::c.attaches}.issue (.session rc)
                (.attachLink rc.channel link.attach link.creditMode c.next c.next)),
              relays := update s.relays c.next (some (vchan,vhandle)),
              task := .opening (.link vchan vhandle) c.next resume}
  else s.failed (.link vchan vhandle) resume connectionLost

def topology : List OpenTarget :=
  s.sessions.toList.flatMap fun entry =>
    .session entry.1 :: entry.2.links.toList.map (fun link => .link entry.1 link.1)

def advance : List OpenTarget → Supervised
  | [] => {s with task := .idle}
  | .session vchan::plan => s.openSession vchan (.replay plan)
  | .link vchan vhandle::plan => s.openLink vchan vhandle (.replay plan)

def resumed (resume : Resume) (reply : Reply → Effect) : Supervised :=
  match resume with
  | .user user => {s.answer (reply user) with task := .idle}
  | .replay plan => s.advance plan

def sessionOpened (vchan : UInt16) (real : SessionHandle) : Supervised :=
  match s.sessions[vchan]? with
  | none => s
  | some session => {s with sessions := s.sessions.insert vchan {session with real := some real}}

def linkAttached (vchan : UInt16) (vhandle : UInt32) (real : RealLink) : Supervised :=
  match s.sessions[vchan]? with
  | none => s
  | some session => match session.links[vhandle]? with
    | none => s
    | some link =>
      let links := session.links.insert vhandle {link with real := some real}
      {s with sessions := s.sessions.insert vchan {session with links}}

def sendTransfer (s : Supervised) (vchan : UInt16) (vhandle : UInt32) (message : PendingSend) : Supervised :=
  match s.inner,s.realIds vchan vhandle with
  | true,some x => match s.client with
    | none => s.resolve ⟨vchan,vhandle,message⟩ (.error connectionLost)
    | some c => match message.reply with
      | none =>
        {s with client := some (c.issue (.link x) (.sendTransfer x.channel x.handle message))}
      | some _ =>
        {s with
          client := some (c.issue (.link x)
            (.sendTransfer x.channel x.handle {message with reply := some c.next})),
          proxies := ⟨c.next,⟨vchan,vhandle,message⟩⟩::s.proxies}
  | _,_ => s.resolve ⟨vchan,vhandle,message⟩ (.error connectionLost)

def pass (owner : Owner) (command : Reply → DriverCommand) (reply : Option Reply) :
    Supervised :=
  match s.client with
  | none => s
  | some c =>
    {s with
      client := some (c.issue owner (command c.next)),
      passed := reply.toList.map (fun user => (c.next,user)) ++ s.passed}

def release (sessions : SessionHandle → Bool) (links : LinkHandle → Bool) : Supervised :=
  {s with client := s.client.map fun c =>
    {c with sessions := c.sessions.filter (!sessions ·),links := c.links.filter (!links ·)}}

def endSession (s : Supervised) (vchan : UInt16) (error : Option AmqpError) (reply : Reply) : Supervised :=
  let real := s.sessions[vchan]?.bind LogicalSession.real
  let s := {s with sessions := s.sessions.erase vchan}
  match s.inner,real with
  | true,some rc => (s.pass (.session rc) (.endSession rc.channel error ·) (some reply)).release
      (· == rc) (·.session == rc.events)
  | _,_ => s.answer (.done reply (.ok ()))

def detachLink (s : Supervised) (vchan : UInt16) (vhandle : UInt32) (closed : Bool) (error : Option AmqpError)
    (reply : Reply) : Supervised :=
  let real := s.realIds vchan vhandle
  let s := s.forgetTarget (.link vchan vhandle)
  match s.inner,real with
  | true,some x => (s.pass (.link x) (.detachLink x.channel x.handle closed error ·) (some reply)).release
      (fun _ => false) (· == x)
  | _,_ => s.answer (.done reply (.ok ()))

def sendDisposition (s : Supervised) (vchan : UInt16) (vhandle first : UInt32) (last : Option UInt32)
    (state : DeliveryState) (settled : Bool) (reply : Option Reply) : Supervised :=
  match s.inner,s.realIds vchan vhandle with
  | true,some x => s.pass (.link x)
      (fun n => .sendDisposition x.channel x.handle first last state settled (reply.map fun _ => n)) reply
  | _,_ => match reply with
    | some reply => s.answer (.done reply (.ok ()))
    | none => s

def sendFlow (s : Supervised) (vchan : UInt16) (flow : Flow) : Supervised :=
  match s.inner,s.sessions[vchan]?.bind LogicalSession.real with
  | true,some rc => match flow.handle.bind (s.realIds vchan) with
    | some x => s.pass (.link x) (fun _ => .sendFlow x.channel {flow with handle := some x.handle}) none
    | none => s.pass (.session rc) (fun _ => .sendFlow rc.channel {flow with handle := none}) none
  | _,_ => s

def grantCredit (s : Supervised) (vchan : UInt16) (vhandle credit : UInt32) : Supervised :=
  match s.inner,s.realIds vchan vhandle with
  | true,some x => s.pass (.link x) (fun _ => .grantCredit x.channel x.handle credit) none
  | _,_ => s

def handleCommand : DriverCommand → Supervised
  | .beginSession begin_ events reply =>
    {s with
      nextVchan := s.nextVchan + 1,
      sessions := s.sessions.insert s.nextVchan ⟨begin_,events,none,∅,0⟩}.openSession s.nextVchan (.user reply)
  | .attachLink vchan attach creditMode events reply => match s.sessions[vchan]? with
    | none => s.answer (.attached reply (.error Driver.noSession))
    | some session =>
      let links := session.links.insert session.nextVhandle ⟨attach,creditMode,events,none⟩
      let opened := {session with nextVhandle := session.nextVhandle + 1,links}
      {s with sessions := s.sessions.insert vchan opened}.openLink vchan session.nextVhandle (.user reply)
  | .endSession vchan error reply => s.endSession vchan error reply
  | .detachLink vchan vhandle closed error reply => s.detachLink vchan vhandle closed error reply
  | .sendTransfer vchan vhandle message => s.sendTransfer vchan vhandle message
  | .sendDisposition vchan vhandle first last state settled reply =>
    s.sendDisposition vchan vhandle first last state settled reply
  | .sendFlow vchan flow => s.sendFlow vchan flow
  | .grantCredit vchan vhandle credit => s.grantCredit vchan vhandle credit
  | .closeConnection _ _ => {s with task := .stopped}

def deliver (target : UInt16 × UInt32) (delivery : Received) : Supervised :=
  let consumer := s.consumers target
  {s with
    received := s.received ++ [delivery],
    consumers := update s.consumers target {consumer with buffer := consumer.buffer ++ [delivery]}}

def orphan (n : Reply) : Supervised :=
  match s.proxies.find? (·.reply == n) with
  | some proxy => {s with proxies := s.proxies.erase proxy,orphans := s.orphans ++ [proxy.request]}
  | none => s

def absorb : Effect → Supervised
  | .queue frame => {s with wire := s.wire ++ [(s.epoch,frame)]}
  | .opened n result => match s.task with
    | .opening (.session vchan) await resume =>
      if n = await then match result with
        | .ok opened => (s.sessionOpened vchan ⟨opened.channel,n⟩).resumed resume
            (.opened · (.ok ⟨vchan,opened.sessionId⟩))
        | .error failure => s.failed (.session vchan) resume failure
      else s
    | _ => s
  | .attached n result => match s.task with
    | .opening (.link vchan vhandle) await resume =>
      if n = await then match result with
        | .ok attached => (s.linkAttached vchan vhandle ⟨attached.handle,n⟩).resumed resume
            (.attached · (.ok ⟨vhandle,attached.remote⟩))
        | .error failure => s.failed (.link vchan vhandle) resume failure
      else s
    | _ => s
  | .sent n result => match s.proxies.find? (·.reply == n) with
    | some proxy => {s with proxies := s.proxies.erase proxy}.resolve proxy.request result
    | none => s
  | .done n result => match s.passed.lookup n with
    | some reply => {s with passed := s.passed.filter (·.1 != n)}.answer (.done reply result)
    | none => s
  | .dropped n => match s.task with
    | .opening target await resume =>
      if n = await then s.failed target resume driverDropped else s.orphan n
    | _ => s.orphan n
  | .event events event => match event,s.relays events with
    | .delivery delivery,some target => s.deliver target ⟨s.epoch,delivery.deliveryId⟩
    | _,_ => s
  | .sessionEnded _ _ => s

def die : Supervised :=
  match s.task with
  | .opening target _ resume => s.lose.failed target resume driverDropped
  | _ => s.lose

def ran : Option (Client × List Effect) → Supervised
  | some (c,effects) => effects.foldl absorb {s with client := some c}
  | none => s.die

end Supervised

inductive SupervisedStep where
  | beginSession (begin_ : Begin)
  | attach (vchan : UInt16) (attach : Attach) (creditMode : CreditMode)
  | endSession (vchan : UInt16)
  | detach (vchan : UInt16) (vhandle : UInt32)
  | send (vchan : UInt16) (vhandle : UInt32) (body : Bytes) (settled : Bool) (state : Option DeliveryState)
      (awaited : Bool)
  | recv (vchan : UInt16) (vhandle : UInt32) (epoch : Nat)
  | dispose (vchan : UInt16) (vhandle : UInt32) (delivery : Received) (state : DeliveryState)
  | acceptThrough (vchan : UInt16) (vhandle : UInt32) (delivery : Received)
  | afterConsume (vchan : UInt16) (vhandle grant : UInt32)
  | credit (vchan : UInt16) (vhandle credit : UInt32)
  | close
  | command
  | replay
  | driverDied
  | establish (maxFrameSize : Nat) (channelMax : UInt16)
  | giveUp
  | requeue (request : ReplayReq)
  | process
  | frame (order : IterOrder) (frame : Frame)
  | die
  /-- A driver given up during a replay of the topology hands out one more delivery. -/
  | late (epoch : Nat) (vchan : UInt16) (vhandle id : UInt32)

namespace Supervised

def request (s : Supervised) (command : DriverCommand) (settles : List Received) : Supervised :=
  {s with commands := s.commands ++ [⟨command,settles⟩],next := s.next + 1}

def recv (s : Supervised) (target : UInt16 × UInt32) (epoch : Nat) : Option Supervised :=
  let consumer := s.consumers target
  match consumer.buffer.find? (·.epoch == epoch) with
  | none => none
  | some delivery =>
    let after : ConsumerState := ⟨consumer.buffer.erase delivery,consumer.held ++ [delivery],
      some (consumer.pendingFirst.getD delivery)⟩
    some {s with consumers := update s.consumers target after}

def acceptThrough (s : Supervised) (target : UInt16 × UInt32) (delivery : Received) : Supervised :=
  let consumer := s.consumers target
  let first := consumer.pendingFirst.getD delivery
  {s with consumers := update s.consumers target {consumer with pendingFirst := none}}.request
    (.sendDisposition target.1 target.2 first.id (some delivery.id) .accepted true none) [first,delivery]

def step (s : Supervised) : SupervisedStep → Option Supervised
  | .beginSession begin_ => some (s.request (.beginSession begin_ s.next s.next) [])
  | .attach vchan attach creditMode => some (s.request (.attachLink vchan attach creditMode s.next s.next) [])
  | .endSession vchan => some (s.request (.endSession vchan none s.next) [])
  | .detach vchan vhandle => some (s.request (.detachLink vchan vhandle true none s.next) [])
  | .send vchan vhandle body settled state awaited => some (s.request
      (.sendTransfer vchan vhandle ⟨body,settled,0,state,if awaited then some s.next else none⟩) [])
  | .recv vchan vhandle epoch => s.recv (vchan,vhandle) epoch
  | .dispose vchan vhandle delivery state =>
    if delivery ∈ (s.consumers (vchan,vhandle)).held then some (s.request
      (.sendDisposition vchan vhandle delivery.id none state true none) [delivery]) else none
  | .acceptThrough vchan vhandle delivery =>
    if delivery ∈ (s.consumers (vchan,vhandle)).held then some (s.acceptThrough (vchan,vhandle) delivery) else none
  | .afterConsume vchan vhandle grant => some (s.request (.grantCredit vchan vhandle grant) [])
  | .credit vchan vhandle credit =>
    some (s.request (.sendFlow vchan {handle := some vhandle,linkCredit := some credit}) [])
  | .close => some (s.request (.closeConnection none s.next) [])
  | .command => match s.task,s.commands with
    | .idle,user::rest => some ({s with commands := rest}.handleCommand user.command)
    | _,_ => none
  | .replay => match s.task,s.replays with
    | .idle,request::rest => some ({s with replays := rest}.sendTransfer request.vchan request.vhandle request.message)
    | _,_ => none
  | .driverDied => match s.task,s.client with
    | .idle,none => if s.inner then some {s with inner := false,task := .establishing} else none
    | _,_ => none
  | .establish maxFrameSize channelMax => match s.task with
    | .establishing => some ({s with
        client := some {Client.opened maxFrameSize channelMax with next := s.spare},
        inner := true,epoch := s.epoch + 1}.advance s.topology)
    | _ => none
  | .giveUp => match s.task with
    | .establishing => some {s with task := .stopped}
    | _ => none
  | .requeue request => if request ∈ s.orphans then
      some {s with orphans := s.orphans.erase request,replays := s.replays ++ [request]} else none
  | .process => match s.client with
    | some c => if c.commands.isEmpty then none else some (s.ran c.process)
    | none => none
  | .frame order frame => match s.client with
    | some c => some (s.ran (c.receive order frame))
    | none => none
  | .die => some s.die
  | .late epoch vchan vhandle id =>
    if epoch < s.epoch then some (s.deliver (vchan,vhandle) ⟨epoch,id⟩) else none

end Supervised

end Ramqp
