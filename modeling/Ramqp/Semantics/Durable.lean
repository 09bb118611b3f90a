import Ramqp.Semantics.Queue

/-! The durable queue actor: its memory, the operations it submits to the store's writer, and the
bodies it reads back from the store. -/
namespace Ramqp

inductive StoreOp where
  | insert (queue msgId enqueuedMs : Nat) (body : Bytes)
  | remove (queue msgId : Nat)
  | fail (queue msgId : Nat)
  deriving DecidableEq

structure PendingPublish where
  ack : Option PublishAck
  msgId : Nat
  enqueuedMs : Nat
  len : Nat
  deriving DecidableEq

/-- What the durable actor does: what it sends, what it submits, and a dead letter whose source copy is
removed once the letter's fate is known. The last two record that a publish was stored and that a
message was let go. -/
inductive DurableEffect where
  | send (effect : QueueEffect)
  | submit (op : StoreOp)
  | removeAfter (target : String) (body : Bytes) (msgId : Nat)
  | stored (msgId : Nat) (ack : Option PublishAck)
  | ended (msgId : Nat) (ending : Ending)
  deriving DecidableEq

structure DurableQueue where
  ring : Ring := {}
  inflight : Map Nat (SubId × Nat × Nat) := ∅
  ready : Map Nat (Nat × Nat) := ∅
  failures : Map Nat UInt32 := ∅
  nextMsgId : Nat := 0
  bytes : Nat := 0
  commits : List PendingPublish := []
  reserved : Nat := 0

namespace DurableQueue

def recover (recovered : List (Nat × UInt32 × Nat × Nat)) : DurableQueue where
  ready := recovered.foldl (fun ready row => ready.insert row.1 (row.2.2.1,row.2.2.2)) ∅
  failures := (recovered.filter (fun row => decide (0 < row.2.1))).foldl
    (fun failures row => failures.insert row.1 row.2.1) ∅
  nextMsgId := (recovered.map (fun row => row.1)).foldl max 0
  bytes := (recovered.map (fun row => row.2.2.2)).sum

def depth (q : DurableQueue) : Nat := q.ready.size + q.inflight.size + q.commits.length + q.reserved

variable (p : EffectivePolicy)

def isOver (q : DurableQueue) (len : Nat) : Bool :=
  decide (p.maxLen ≤ q.depth) || decide (p.maxBytes < q.bytes + len)

def letGo (q : DurableQueue) (msgId len : Nat) : DurableQueue :=
  {q with ready := q.ready.erase msgId,bytes := q.bytes - len,failures := q.failures.erase msgId}

def deadLetterThenRemove (queue msgId : Nat) (body : Option Bytes) (ending : Ending) :
    List DurableEffect :=
  .ended msgId ending :: match body,p.deadLetter with
  | some body,some target =>
    if p.dlx then [.removeAfter target body msgId] else [.submit (.remove queue msgId)]
  | _,_ => [.submit (.remove queue msgId)]

def makeRoom (p : EffectivePolicy) (queue : Nat) (read : Nat → Option Bytes) (len : Nat) :
    List (Nat × Nat × Nat) → DurableQueue → DurableQueue × List DurableEffect
  | [],q => (q,[])
  | (oldId,_,oldLen)::rest,q =>
    if q.isOver p len then
      let (q,effects) := makeRoom p queue read len rest (q.letGo oldId oldLen)
      (q,deadLetterThenRemove p queue oldId (read oldId) .maxlen ++ effects)
    else (q,[])

def useSlot (fromReserved : Bool) (q : DurableQueue) : DurableQueue :=
  if fromReserved then {q with reserved := q.reserved - 1} else q

variable (queue : Nat)

def roomFor (read : Nat → Option Bytes) (len : Nat) (q : DurableQueue) :
    DurableQueue × List DurableEffect :=
  if p.dropHead then makeRoom p queue read len q.ready.toList q else (q,[])

def admitPublish (now : Nat) (body : Bytes) (ack : Option PublishAck) (q : DurableQueue) : DurableQueue :=
  {q with
    nextMsgId := q.nextMsgId + 1,
    bytes := q.bytes + body.length,
    commits := q.commits ++ [⟨ack,q.nextMsgId + 1,now,body.length⟩]}

def publish (read : Nat → Option Bytes) (now : Nat) (q : DurableQueue)
    (body : Bytes) (ack : Option PublishAck) (fromReserved : Bool) : DurableQueue × List DurableEffect × Bool :=
  let (q,dead) := (q.useSlot fromReserved).roomFor p queue read body.length
  if q.isOver p body.length && !fromReserved then (q,dead ++ (refusePublish ack).map .send,false)
  else (q.admitPublish now body ack,dead ++ [.submit (.insert queue (q.nextMsgId + 1) now body)],true)

def requeueHeld (q : DurableQueue) (sub : SubId) : DurableQueue :=
  {q with
    ready := (q.inflight.toList.filter (fun entry => entry.2.1 = sub)).foldl
      (fun ready entry => ready.insert entry.1 entry.2.2) q.ready,
    inflight := q.inflight.filter (fun _ entry => entry.1 ≠ sub)}

def settle (read : Nat → Option Bytes) (q : DurableQueue)
    (msgId enqueuedMs len : Nat) : SettleOutcome → DurableQueue × List DurableEffect
  | .ack => ({q with failures := q.failures.erase msgId,bytes := q.bytes - len},
      [.ended msgId .acked,.submit (.remove queue msgId)])
  | .drop => ({q with failures := q.failures.erase msgId,bytes := q.bytes - len},
      [.ended msgId .dropped,.submit (.remove queue msgId)])
  | .requeue => ({q with ready := q.ready.insert msgId (enqueuedMs,len)},[])
  | .requeueFailed =>
    let count := q.failures.getD msgId 0 + 1
    if p.attemptsExhausted count then
      ({q with failures := q.failures.erase msgId,bytes := q.bytes - len},
        deadLetterThenRemove p queue msgId (read msgId) .deliveryLimit)
    else ({q with failures := q.failures.insert msgId count,ready := q.ready.insert msgId (enqueuedMs,len)},
      [.submit (.fail queue msgId)])

def handle (p : EffectivePolicy) (queue : Nat) (read : Nat → Option Bytes) (now : Nat) (q : DurableQueue) :
    QueueMsg → DurableQueue × List DurableEffect × Bool
  | .publish body ack => q.publish p queue read now body ack false
  | .publishReserved body ack => q.publish p queue read now body ack true
  | .reserve count reply =>
    let ok := p.dropHead || decide (q.depth + count ≤ p.maxLen)
    (if ok && !p.dropHead then {q with reserved := q.reserved + count} else q,
      [.send (.reserved reply ok)],true)
  | .unreserve count => ({q with reserved := q.reserved - count},[],true)
  | .subscribe conn channel handle bindingGen =>
    let ring := q.ring.subscribe conn channel handle bindingGen
    ({q with ring},[.send (.subscribed conn ring.nextSubId)],true)
  | .demand sub credit drain => ({q with ring := q.ring.grant sub credit drain},[],true)
  | .settle sub msgId outcome => match q.inflight[msgId]? with
    | some (owner,enqueuedMs,len) =>
      if owner = sub then
        let (q,effects) := {q with inflight := q.inflight.erase msgId}.settle p queue read msgId enqueuedMs len outcome
        (q,effects,true)
      else (q,[],false)
    | none => (q,[],false)
  | .unsubscribe sub => ({q with ring := q.ring.remove sub}.requeueHeld sub,[],true)
  | .stats reply => (q,[.send (.stats reply q.ready.size q.inflight.size q.ring.subs.length)],true)

def committed (q : DurableQueue) (done : PendingPublish) (ok : Bool) : DurableQueue × List DurableEffect :=
  let q := {q with commits := q.commits.erase done}
  if ok then
    ({q with ready := q.ready.insert done.msgId (done.enqueuedMs,done.len)},
      .stored done.msgId done.ack::(confirmPublish done.ack).map .send)
  else ({q with bytes := q.bytes - done.len},(refusePublish done.ack).map .send)

def expireHead (p : EffectivePolicy) (queue : Nat) (read : Nat → Option Bytes) (now : Nat) :
    List (Nat × Nat × Nat) → DurableQueue → DurableQueue × List DurableEffect
  | [],q => (q,[])
  | (msgId,enqueuedMs,len)::rest,q =>
    if p.expired enqueuedMs now then
      let (q,effects) := expireHead p queue read now rest (q.letGo msgId len)
      (q,deadLetterThenRemove p queue msgId (read msgId) .expired ++ effects)
    else (q,[])

def expire (read : Nat → Option Bytes) (now : Nat) (q : DurableQueue) :
    DurableQueue × List DurableEffect :=
  if p.ttlMs.isSome then expireHead p queue read now q.ready.toList q else (q,[])

def deliver (live : ConnRef → Bool) (body : Bytes) (q : DurableQueue) (msgId enqueuedMs len : Nat)
    (sub : Subscriber) : DurableQueue × List DurableEffect :=
  if live sub.conn then
    ({q with ready := q.ready.erase msgId,inflight := q.inflight.insert msgId (sub.id,enqueuedMs,len)},
      [.send (.command sub.conn (sub.deliver msgId body))])
  else ({q with ring := q.ring.remove sub.id}.requeueHeld sub.id,[])

def deliverReady (live : Nat → ConnRef → Bool) (read : Nat → Nat → Option Bytes) :
    Nat → DurableQueue → DurableQueue × List DurableEffect
  | 0,q => (q,[])
  | fuel+1,q => match q.ready.toList with
    | [] => ({q with ring := {q.ring with subs := completeDrains q.ring.subs}},[])
    | (msgId,enqueuedMs,len)::_ => match q.ring.take with
      | none => (q,[])
      | some (sub,ring) => match read fuel msgId with
        | none => deliverReady live read fuel {q with ready := q.ready.erase msgId}
        | some body =>
          let (q,sent) := {q with ring}.deliver (live fuel) body msgId enqueuedMs len sub
          let (q,effects) := deliverReady live read fuel q
          (q,sent ++ effects)

def turns (q : DurableQueue) : Nat :=
  (q.ring.subs.length + 1) * (q.ready.size + q.inflight.size + 1)

def dispatch (live : Nat → ConnRef → Bool) (expiring : Nat → Option Bytes)
    (read : Nat → Nat → Option Bytes) (now : Nat) (q : DurableQueue) : DurableQueue × List DurableEffect :=
  let (q,dead) := q.expire p queue expiring now
  let (q,effects) := q.deliverReady live read q.turns
  (q,dead ++ effects)

end DurableQueue

end Ramqp
