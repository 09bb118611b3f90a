import Ramqp.Semantics.Link

/-! The mailbox protocol between connections and queues, the dispatch primitives that the queue
actors share, and the in-memory transient queue actor. -/
namespace Ramqp

/-- Where a command goes: to a connection, to a transaction's commit that awaits one publish, or to the
dead-letter router that awaits one letter. -/
inductive ConnRef where
  | connection (id : Nat)
  | commit (id : Nat)
  | letter (id : Nat)
  deriving DecidableEq

abbrev SubId := Nat

inductive SettleOutcome where
  | ack
  | requeue
  | requeueFailed
  | drop
  deriving DecidableEq

structure PublishAck where
  conn : ConnRef
  channel : UInt16
  handle : UInt32
  bindingGen : Nat
  deliveryId : UInt32
  deriving DecidableEq

inductive QueueMsg where
  | publish (body : Bytes) (ack : Option PublishAck)
  | publishReserved (body : Bytes) (ack : Option PublishAck)
  | reserve (count : Nat) (reply : Reply)
  | unreserve (count : Nat)
  | subscribe (conn : ConnRef) (channel : UInt16) (handle : UInt32) (bindingGen : Nat)
  | demand (sub : SubId) (credit : UInt32) (drain : Bool)
  | settle (sub : SubId) (msgId : Nat) (outcome : SettleOutcome)
  | unsubscribe (sub : SubId)
  | stats (reply : Reply)
  deriving DecidableEq

inductive ConnCmd where
  | deliver (channel : UInt16) (handle : UInt32) (bindingGen msgId : Nat) (body : Bytes)
  | settleIncoming (channel : UInt16) (handle : UInt32) (bindingGen : Nat) (deliveryId : UInt32)
      (accepted : Bool)
  deriving DecidableEq

structure Subscriber where
  id : SubId
  conn : ConnRef
  channel : UInt16
  handle : UInt32
  bindingGen : Nat
  demand : UInt32 := 0
  drainPending : Bool := false
  deriving DecidableEq

def Subscriber.grant (s : Subscriber) (credit : UInt32) (drain : Bool) : Subscriber :=
  {s with demand := saturatingAdd s.demand credit,drainPending := drain}

def pickReady (subs : List Subscriber) (rr : Nat) : Option Nat :=
  (List.range subs.length).findSome? fun i =>
    let idx := (rr + i) % subs.length
    if (subs[idx]?).any (fun s => decide (0 < s.demand)) then some idx else none

def completeDrains (subs : List Subscriber) : List Subscriber :=
  subs.map fun s => if s.drainPending then {s with demand := 0,drainPending := false} else s

structure Ring where
  subs : List Subscriber := []
  rr : Nat := 0
  nextSubId : SubId := 0
  deriving DecidableEq

namespace Ring

def subscribe (r : Ring) (conn : ConnRef) (channel : UInt16) (handle : UInt32) (bindingGen : Nat) : Ring :=
  {r with
    subs := r.subs ++ [⟨r.nextSubId + 1,conn,channel,handle,bindingGen,0,false⟩],
    nextSubId := r.nextSubId + 1}

def grantFirst (sub : SubId) (credit : UInt32) (drain : Bool) : List Subscriber → List Subscriber
  | [] => []
  | s::rest => if s.id = sub then s.grant credit drain::rest else s::grantFirst sub credit drain rest

def grant (r : Ring) (sub : SubId) (credit : UInt32) (drain : Bool) : Ring :=
  {r with subs := grantFirst sub credit drain r.subs}

def remove (r : Ring) (sub : SubId) : Ring := {r with subs := r.subs.filter (fun s => s.id ≠ sub)}

def take (r : Ring) : Option (Subscriber × Ring) :=
  (pickReady r.subs r.rr).bind fun idx => (r.subs[idx]?).map fun sub =>
    (sub,{r with
      subs := r.subs.set idx {sub with demand := sub.demand - 1},
      rr := (idx + 1) % r.subs.length})

end Ring

def Subscriber.deliver (s : Subscriber) (msgId : Nat) (body : Bytes) : ConnCmd :=
  .deliver s.channel s.handle s.bindingGen msgId body

/-- A queue's resolved policy; `dlx` tells whether there is a dead-letter router. -/
structure EffectivePolicy where
  ttlMs : Option Nat
  maxLen : Nat
  maxBytes : Nat
  dropHead : Bool
  deadLetter : Option String
  maxAttempts : Option UInt32
  dlx : Bool
  deriving DecidableEq

namespace EffectivePolicy

def expired (p : EffectivePolicy) (enqueuedMs nowMs : Nat) : Bool :=
  p.ttlMs.any fun ttl => ttl ≤ nowMs - enqueuedMs

def attemptsExhausted (p : EffectivePolicy) (failures : UInt32) : Bool :=
  p.maxAttempts.any fun max => max ≤ failures

end EffectivePolicy

structure Stored where
  id : Nat
  body : Bytes
  failures : UInt32
  enqueuedMs : Nat
  deriving DecidableEq

inductive Ending where
  | acked
  | dropped
  | maxlen
  | expired
  | deliveryLimit
  deriving DecidableEq

/-- What a queue actor sends: a command to a connection, a dead letter to the router, or a reply.
The last two record that a message entered the queue and that it left for good. -/
inductive QueueEffect where
  | command (conn : ConnRef) (cmd : ConnCmd)
  | deadLetter (target : String) (body : Bytes)
  | subscribed (conn : ConnRef) (sub : SubId)
  | reserved (reply : Reply) (ok : Bool)
  | stats (reply : Reply) (ready unacked consumers : Nat)
  | stored (id : Nat) (body : Bytes) (ack : Option PublishAck)
  | ended (id : Nat) (body : Bytes) (ending : Ending)
  deriving DecidableEq

def EffectivePolicy.sendDead (p : EffectivePolicy) (body : Bytes) : List QueueEffect :=
  match p.deadLetter with
  | some target => if p.dlx then [.deadLetter target body] else []
  | none => []

def EffectivePolicy.routeDead (p : EffectivePolicy) (ending : Ending) (stored : Stored) : List QueueEffect :=
  .ended stored.id stored.body ending::p.sendDead stored.body

def confirmPublish : Option PublishAck → List QueueEffect
  | some ack => [.command ack.conn (.settleIncoming ack.channel ack.handle ack.bindingGen ack.deliveryId true)]
  | none => []

def refusePublish : Option PublishAck → List QueueEffect
  | some ack => [.command ack.conn (.settleIncoming ack.channel ack.handle ack.bindingGen ack.deliveryId false)]
  | none => []

structure TransientQueue where
  ready : List Stored := []
  unacked : Map Nat (Stored × SubId) := ∅
  ring : Ring := {}
  reserved : Nat := 0
  bytes : Nat := 0
  nextMsgId : Nat := 0

namespace TransientQueue

variable (p : EffectivePolicy)

def isOver (q : TransientQueue) (len : Nat) : Bool :=
  decide (p.maxLen ≤ q.ready.length + q.unacked.size + q.reserved) || decide (p.maxBytes < q.bytes + len)

def makeRoom (p : EffectivePolicy) (len : Nat) : List Stored → TransientQueue → TransientQueue × List QueueEffect
  | [],q => (q,[])
  | old::rest,q =>
    if q.isOver p len then
      let (q,effects) := makeRoom p len rest {q with ready := rest,bytes := q.bytes - old.body.length}
      (q,p.routeDead .maxlen old ++ effects)
    else (q,[])

def requeueHeld (q : TransientQueue) (sub : SubId) : TransientQueue :=
  {q with
    ready := ((q.unacked.toList.filter (fun entry => entry.2.2 = sub)).map (fun entry => entry.2.1)) ++ q.ready,
    unacked := q.unacked.filter (fun _ entry => entry.2 ≠ sub)}

def useSlot (fromReserved : Bool) (q : TransientQueue) : TransientQueue :=
  if fromReserved then {q with reserved := q.reserved - 1} else q

def roomFor (len : Nat) (q : TransientQueue) : TransientQueue × List QueueEffect :=
  if p.dropHead then makeRoom p len q.ready q else (q,[])

def append (now : Nat) (body : Bytes) (q : TransientQueue) : TransientQueue :=
  {q with
    nextMsgId := q.nextMsgId + 1,
    bytes := q.bytes + body.length,
    ready := q.ready ++ [⟨q.nextMsgId + 1,body,0,now⟩]}

def publish (now : Nat) (q : TransientQueue) (body : Bytes) (ack : Option PublishAck)
    (fromReserved : Bool) : TransientQueue × List QueueEffect × Bool :=
  let (q,dead) := (q.useSlot fromReserved).roomFor p body.length
  if q.isOver p body.length && !fromReserved then (q,dead ++ refusePublish ack,false)
  else (q.append now body,dead ++ .stored (q.nextMsgId + 1) body ack::confirmPublish ack,true)

def settle (q : TransientQueue) (stored : Stored) :
    SettleOutcome → TransientQueue × List QueueEffect
  | .ack => ({q with bytes := q.bytes - stored.body.length},[.ended stored.id stored.body .acked])
  | .drop => ({q with bytes := q.bytes - stored.body.length},[.ended stored.id stored.body .dropped])
  | .requeue => ({q with ready := stored::q.ready},[])
  | .requeueFailed =>
    let stored := {stored with failures := stored.failures + 1}
    if p.attemptsExhausted stored.failures then
      ({q with bytes := q.bytes - stored.body.length},p.routeDead .deliveryLimit stored)
    else ({q with ready := stored::q.ready},[])

def handle (p : EffectivePolicy) (now : Nat) (q : TransientQueue) :
    QueueMsg → TransientQueue × List QueueEffect × Bool
  | .publish body ack => q.publish p now body ack false
  | .publishReserved body ack => q.publish p now body ack true
  | .reserve count reply =>
    let ok := p.dropHead ||
      decide (q.ready.length + q.unacked.size + q.reserved + count ≤ p.maxLen)
    (if ok && !p.dropHead then {q with reserved := q.reserved + count} else q,[.reserved reply ok],true)
  | .unreserve count => ({q with reserved := q.reserved - count},[],true)
  | .subscribe conn channel handle bindingGen =>
    let ring := q.ring.subscribe conn channel handle bindingGen
    ({q with ring},[.subscribed conn ring.nextSubId],true)
  | .demand sub credit drain => ({q with ring := q.ring.grant sub credit drain},[],true)
  | .settle sub msgId outcome => match q.unacked[msgId]? with
    | some (stored,owner) =>
      if owner = sub then
        let (q,effects) := {q with unacked := q.unacked.erase msgId}.settle p stored outcome
        (q,effects,true)
      else (q,[],false)
    | none => (q,[],false)
  | .unsubscribe sub => ({q with ring := q.ring.remove sub}.requeueHeld sub,[],true)
  | .stats reply => (q,[.stats reply q.ready.length q.unacked.size q.ring.subs.length],true)

def expireHead (p : EffectivePolicy) (now : Nat) : List Stored → TransientQueue → TransientQueue × List QueueEffect
  | [],q => (q,[])
  | old::rest,q =>
    if p.expired old.enqueuedMs now then
      let (q,effects) := expireHead p now rest {q with ready := rest,bytes := q.bytes - old.body.length}
      (q,p.routeDead .expired old ++ effects)
    else (q,[])

/-- The delivery loop, one unit of fuel a turn; `live` tells which connections take a command in a turn. -/
def deliverReady (live : Nat → ConnRef → Bool) : Nat → TransientQueue → TransientQueue × List QueueEffect
  | 0,q => (q,[])
  | fuel+1,q => match q.ready with
    | [] => ({q with ring := {q.ring with subs := completeDrains q.ring.subs}},[])
    | msg::rest => match q.ring.take with
      | none => (q,[])
      | some (sub,ring) =>
        if live fuel sub.conn then
          let (q,effects) := deliverReady live fuel
            {q with ready := rest,ring,unacked := q.unacked.insert msg.id (msg,sub.id)}
          (q,.command sub.conn (sub.deliver msg.id msg.body)::effects)
        else deliverReady live fuel ({q with ring := ring.remove sub.id}.requeueHeld sub.id)

/-- Turns that suffice: between two losses of a subscriber no message is delivered twice. -/
def turns (q : TransientQueue) : Nat :=
  (q.ring.subs.length + 1) * (q.ready.length + q.unacked.size + 1)

def expire (now : Nat) (q : TransientQueue) : TransientQueue × List QueueEffect :=
  if p.ttlMs.isSome then expireHead p now q.ready q else (q,[])

def dispatch (live : Nat → ConnRef → Bool) (now : Nat) (q : TransientQueue) :
    TransientQueue × List QueueEffect :=
  let (q,dead) := q.expire p now
  let (q,effects) := q.deliverReady live q.turns
  (q,dead ++ effects)

/-- One turn of the actor: `now` when the message is handled, `later` when the queue dispatches. -/
def step (live : Nat → ConnRef → Bool) (now later : Nat) (q : TransientQueue) (msg : QueueMsg) :
    TransientQueue × List QueueEffect :=
  let (q,effects,go) := q.handle p now msg
  if go then
    let (q,sent) := q.dispatch p live later
    (q,effects ++ sent)
  else (q,effects)

end TransientQueue

end Ramqp
