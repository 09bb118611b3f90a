import Ramqp.Semantics.Durable
import Ramqp.Semantics.Quorum
import Ramqp.Semantics.Txn

/-! The queue actors of a broker behind their mailboxes, together with the commits that run over them.
A step is one turn of an actor, one step of a commit, or a message from somebody else. -/
namespace Ramqp

open Function

structure QueueConfig where
  policy : EffectivePolicy
  storeId : Nat

inductive QueueActor where
  | transient (q : TransientQueue)
  | durable (q : DurableQueue)
  | quorum (q : QuorumQueue)

/-- What an actor sees in one turn: the clock when it handles the message and when it dispatches, the stored
messages at each of its reads, and which connections still take a command. -/
structure Moment where
  now : Nat
  later : Nat
  live : Nat → ConnRef → Bool
  handling : QueueView
  expiring : QueueView
  delivering : Nat → QueueView

def Moment.quiet : Moment := ⟨0,0,fun _ _ => true,⟨0,fun _ => none,fun _ => none⟩,⟨0,fun _ => none,fun _ => none⟩,
  fun _ => ⟨0,fun _ => none,fun _ => none⟩⟩

def QueueView.read (view : QueueView) (msgId : Nat) : Option Bytes := (view.bodyOf msgId).join

def DurableEffect.sent : DurableEffect → Option QueueEffect
  | .send effect => some effect
  | _ => none

namespace QueueActor

def kind : QueueActor → QueueKind
  | .transient _ => .transient
  | .durable _ => .durable
  | .quorum _ => .quorum

def reserved : QueueActor → Nat
  | .transient q => q.reserved
  | .durable q => q.reserved
  | .quorum q => q.reserved

inductive Fresh : QueueActor → Prop where
  | transient : Fresh (.transient {})
  | durable (recovered : List (Nat × UInt32 × Nat × Nat)) : Fresh (.durable (DurableQueue.recover recovered))
  | quorum (ready : Std.ExtTreeSet Nat compare) : Fresh (.quorum {ready})

def dispatch (cfg : QueueConfig) (m : Moment) : QueueActor → QueueActor × List QueueEffect
  | .transient q =>
    let (q,effects) := q.dispatch cfg.policy m.live m.later
    (.transient q,effects)
  | .durable q =>
    let (q,effects) := q.dispatch cfg.policy cfg.storeId m.live m.expiring.read
      (fun turn => (m.delivering turn).read) m.later
    (.durable q,effects.filterMap DurableEffect.sent)
  | .quorum q =>
    let (q,dead) := q.expire cfg.policy m.expiring m.later
    let (q,effects) := q.deliverReady m.live m.delivering q.turns
    (.quorum q,dead ++ effects)

def handle (cfg : QueueConfig) (m : Moment) : QueueActor → QueueMsg → QueueActor × List QueueEffect × Bool
  | .transient q,msg =>
    let (q,effects,go) := q.handle cfg.policy m.now msg
    (.transient q,effects,go)
  | .durable q,msg =>
    let (q,effects,go) := q.handle cfg.policy cfg.storeId m.handling.read m.now msg
    (.durable q,effects.filterMap DurableEffect.sent,go)
  | .quorum q,msg =>
    let (q,effects) := q.handleMsg cfg.policy m.handling m.now msg
    (.quorum q,effects,true)

def turn (cfg : QueueConfig) (m : Moment) (actor : QueueActor) (msg : QueueMsg) :
    QueueActor × List QueueEffect :=
  let (actor,effects,go) := actor.handle cfg m msg
  if go then
    let (actor,sent) := actor.dispatch cfg m
    (actor,effects ++ sent)
  else (actor,effects)

def committed (place : Nat) (result : Option Nat) : QueueActor → Option (QueueActor × List QueueEffect)
  | .transient _ => none
  | .durable q => (q.commits[place]?).map fun done =>
    let (q,effects) := q.committed done result.isSome
    (.durable q,effects.filterMap DurableEffect.sent)
  | .quorum q => (q.commits[place]?).map fun done =>
    let (q,effects) := q.committed done result
    (.quorum q,effects)

def resolve (cfg : QueueConfig) (m : Moment) (place : Nat) (result : Option Nat) (actor : QueueActor) :
    Option (QueueActor × List QueueEffect) :=
  (actor.committed place result).map fun (actor,effects) =>
    let (actor,sent) := actor.dispatch cfg m
    (actor,effects ++ sent)

end QueueActor

def callerOf : Option PublishAck → Option Nat
  | some ⟨.commit id,_,_,_,_⟩ => some id
  | _ => none

namespace QueueMsg

def caller : QueueMsg → Option Nat
  | .publish _ ack => callerOf ack
  | .publishReserved _ ack => callerOf ack
  | .reserve _ reply => some reply
  | _ => none

def fromOutside : QueueMsg → Bool
  | .publishReserved _ _ => false
  | .reserve _ _ => false
  | .unreserve _ => false
  | msg => msg.caller.isNone

end QueueMsg

def QueueEffect.answer : QueueEffect → Option (Nat × Bool)
  | .reserved reply ok => some (reply,ok)
  | .command (.commit id) (.settleIncoming _ _ _ _ accepted) => some (id,accepted)
  | _ => none

structure Letter where
  sender : Option Nat
  msg : QueueMsg
  deriving DecidableEq

/-- `history` and `held` record what every queue has done, and by how much each commit has moved each
queue's count of reserved slots. -/
structure Exchange where
  actors : QueueHandle → QueueActor
  mailboxes : QueueHandle → List Letter := fun _ => []
  commits : List Commit := []
  history : QueueHandle → List QueueEffect := fun _ => []
  held : Nat → QueueHandle → Int := fun _ _ => 0

namespace Exchange

inductive Label where
  | post (queue : QueueHandle) (msg : QueueMsg)
  | discharge (txn : Txn)
  | advance (id : Nat)
  | serve (queue : QueueHandle) (m : Moment)
  | resolve (queue : QueueHandle) (m : Moment) (place : Nat) (result : Option Nat)

def send (sender : Option Nat) (s : Exchange) (send : Send) : Exchange :=
  {s with mailboxes := update s.mailboxes send.1 (s.mailboxes send.1 ++ [⟨sender,send.2⟩])}

def answer (commits : List Commit) (answer : Nat × Bool) : List Commit :=
  commits.modify answer.1 fun k => {k with answer := some answer.2}

def finish (s : Exchange) (queue : QueueHandle) (actor : QueueActor) (effects : List QueueEffect) : Exchange :=
  {s with
    actors := update s.actors queue actor,
    commits := (effects.filterMap QueueEffect.answer).foldl answer s.commits,
    history := update s.history queue (s.history queue ++ effects)}

def charge (queue : QueueHandle) (sender : Option Nat) (change : Int) (held : Nat → QueueHandle → Int) :
    Nat → QueueHandle → Int :=
  match sender with
  | none => held
  | some id => update held id (update (held id) queue (held id queue + change))

def step (cfg : QueueHandle → QueueConfig) (s : Exchange) : Label → Option Exchange
  | .post queue msg => if msg.fromOutside then some (s.send none (queue,msg)) else none
  | .discharge txn => some {s with commits := s.commits ++ [.start txn]}
  | .advance id => (s.commits[id]?).bind fun k => (k.advance id).map fun (k,sends) =>
    sends.foldl (send (some id)) {s with commits := s.commits.set id k}
  | .serve queue m => match s.mailboxes queue with
    | [] => none
    | letter::rest =>
      let (actor,effects) := (s.actors queue).turn (cfg queue) m letter.msg
      let change : Int := actor.reserved - (s.actors queue).reserved
      some ({s with
        mailboxes := update s.mailboxes queue rest,
        held := charge queue letter.sender change s.held}.finish queue actor effects)
  | .resolve queue m place result => ((s.actors queue).resolve (cfg queue) m place result).map
    fun (actor,effects) => s.finish queue actor effects

end Exchange

end Ramqp
