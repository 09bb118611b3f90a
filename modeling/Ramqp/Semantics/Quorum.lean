import Ramqp.Semantics.Queue
import Std.Data.ExtTreeSet

/-! The quorum queue actor: leader-local dispatch over the applied state of its Raft group, with the
proposals it makes and their resolution. -/
namespace Ramqp

inductive QueueCommand where
  | enqueue (body : Bytes) (enqueuedMs : Nat)
  | settle (msgId : Nat) (requeue : Bool)
  deriving DecidableEq

/-- What the actor reads of the applied state: a message's body, if there is one and if its spilled
bytes can be read, and its enqueue time and failures. -/
structure QueueView where
  residentBytes : Nat
  bodyOf : Nat → Option (Option Bytes)
  metaOf : Nat → Option (Nat × UInt32)

inductive Proposal where
  | publish (ack : Option PublishAck) (body : Bytes) (enqueuedMs : Nat)
  | remove (msgId : Nat) (readdOnFailure : Bool)
  | countFailure (msgId : Nat)
  deriving DecidableEq

def Proposal.command : Proposal → QueueCommand
  | .publish _ body enqueuedMs => .enqueue body enqueuedMs
  | .remove msgId _ => .settle msgId false
  | .countFailure msgId => .settle msgId true

structure QuorumQueue where
  ring : Ring := {}
  inflight : Map Nat SubId := ∅
  failures : Map Nat UInt32 := ∅
  ready : Std.ExtTreeSet Nat compare := ∅
  commits : List Proposal := []
  publishesPending : Nat := 0
  pendingBytes : Nat := 0
  reserved : Nat := 0

namespace QuorumQueue

def depth (q : QuorumQueue) : Nat := q.ready.size + q.inflight.size + q.publishesPending + q.reserved

def propose (q : QuorumQueue) (proposal : Proposal) : QuorumQueue := {q with commits := q.commits ++ [proposal]}

variable (p : EffectivePolicy)

variable (view : QueueView)

def deadLetterStored (msgId : Nat) : List QueueEffect :=
  match view.bodyOf msgId with
  | some (some body) => p.sendDead body
  | _ => []

def useSlot (fromReserved : Bool) (q : QuorumQueue) : QuorumQueue :=
  if fromReserved then {q with reserved := q.reserved - 1} else q

def roomFor (fromReserved : Bool) (q : QuorumQueue) :
    QuorumQueue × List QueueEffect × Bool :=
  if p.maxLen ≤ q.depth then
    match if p.dropHead then q.ready.toList.head? else none with
    | some oldId => ({q with ready := q.ready.erase oldId}.propose (.remove oldId false),
        deadLetterStored p view oldId,true)
    | none => (q,[],fromReserved)
  else (q,[],true)

def publish (p : EffectivePolicy) (view : QueueView) (now : Nat) (q : QuorumQueue) (body : Bytes)
    (ack : Option PublishAck) (fromReserved : Bool) : QuorumQueue × List QueueEffect × Bool :=
  let (q,dead,room) := (q.useSlot fromReserved).roomFor p view fromReserved
  if !room then (q,dead ++ refusePublish ack,false)
  else if !fromReserved && decide (p.maxBytes < view.residentBytes + q.pendingBytes + body.length) then
    (q,dead ++ refusePublish ack,false)
  else
    ({q with
        publishesPending := q.publishesPending + 1,
        pendingBytes := q.pendingBytes + body.length}.propose (.publish ack body now),dead,true)

def requeueHeld (q : QuorumQueue) (sub : SubId) : QuorumQueue :=
  {q with
    ready := (q.inflight.toList.filter (fun entry => entry.2 = sub)).foldl
      (fun ready entry => ready.insert entry.1) q.ready,
    inflight := q.inflight.filter (fun _ owner => owner ≠ sub)}

def settle (q : QuorumQueue) (msgId : Nat) :
    SettleOutcome → QuorumQueue × List QueueEffect
  | .ack => ({q with failures := q.failures.erase msgId}.propose (.remove msgId true),[])
  | .drop => ({q with failures := q.failures.erase msgId}.propose (.remove msgId true),[])
  | .requeue => ({q with ready := q.ready.insert msgId},[])
  | .requeueFailed =>
    let count := (q.failures[msgId]?).getD (((view.metaOf msgId).map Prod.snd).getD 0) + 1
    if p.attemptsExhausted count then
      ({q with failures := q.failures.erase msgId}.propose (.remove msgId false),deadLetterStored p view msgId)
    else ({q with failures := q.failures.insert msgId count,ready := q.ready.insert msgId}.propose
      (.countFailure msgId),[])

def handleMsg (now : Nat) (q : QuorumQueue) :
    QueueMsg → QuorumQueue × List QueueEffect
  | .publish body ack =>
    let (q,effects,_) := q.publish p view now body ack false
    (q,effects)
  | .publishReserved body ack =>
    let (q,effects,_) := q.publish p view now body ack true
    (q,effects)
  | .reserve count reply =>
    let ok := p.dropHead || decide (q.depth + count ≤ p.maxLen)
    (if ok && !p.dropHead then {q with reserved := q.reserved + count} else q,[.reserved reply ok])
  | .unreserve count => ({q with reserved := q.reserved - count},[])
  | .subscribe conn channel handle bindingGen =>
    let ring := q.ring.subscribe conn channel handle bindingGen
    ({q with ring},[.subscribed conn ring.nextSubId])
  | .demand sub credit drain => ({q with ring := q.ring.grant sub credit drain},[])
  | .settle sub msgId outcome =>
    if q.inflight[msgId]? = some sub then
      {q with inflight := q.inflight.erase msgId}.settle p view msgId outcome
    else (q,[])
  | .unsubscribe sub => ({q with ring := q.ring.remove sub}.requeueHeld sub,[])
  | .stats reply => (q,[.stats reply q.ready.size q.inflight.size q.ring.subs.length])

def committed (q : QuorumQueue) (done : Proposal) (result : Option Nat) : QuorumQueue × List QueueEffect :=
  let q := {q with commits := q.commits.erase done}
  match done with
  | .publish ack body _ =>
    let q := {q with
      publishesPending := q.publishesPending - 1,
      pendingBytes := q.pendingBytes - body.length}
    match result with
    | some msgId => ({q with ready := q.ready.insert msgId},.stored msgId body ack::confirmPublish ack)
    | none => (q,refusePublish ack)
  | .remove msgId readdOnFailure =>
    (if result.isNone && readdOnFailure then {q with ready := q.ready.insert msgId} else q,[])
  | .countFailure _ => (q,[])

def expireHead (p : EffectivePolicy) (view : QueueView) (now : Nat) :
    List Nat → QuorumQueue → QuorumQueue × List QueueEffect
  | [],q => (q,[])
  | head::rest,q =>
    if (view.metaOf head).all (fun info => p.expired info.1 now) then
      let (q,effects) := expireHead p view now rest
        ({q with ready := q.ready.erase head}.propose (.remove head false))
      (q,deadLetterStored p view head ++ effects)
    else (q,[])

def expire (now : Nat) (q : QuorumQueue) :
    QuorumQueue × List QueueEffect :=
  if p.ttlMs.isSome then expireHead p view now q.ready.toList q else (q,[])

def deliverReady (live : Nat → ConnRef → Bool) (view : Nat → QueueView) :
    Nat → QuorumQueue → QuorumQueue × List QueueEffect
  | 0,q => (q,[])
  | fuel+1,q => match q.ready.toList with
    | [] => ({q with ring := {q.ring with subs := completeDrains q.ring.subs}},[])
    | msgId::_ => match q.ring.take with
      | none => (q,[])
      | some (sub,ring) => match (view fuel).bodyOf msgId with
        | some (some body) =>
          if live fuel sub.conn then
            let (q,effects) := deliverReady live view fuel
              {q with ready := q.ready.erase msgId,ring,inflight := q.inflight.insert msgId sub.id}
            (q,.command sub.conn (sub.deliver msgId body)::effects)
          else deliverReady live view fuel ({q with ring := ring.remove sub.id}.requeueHeld sub.id)
        | _ => deliverReady live view fuel {q with ready := q.ready.erase msgId}

def turns (q : QuorumQueue) : Nat :=
  (q.ring.subs.length + 1) * (q.ready.size + q.inflight.size + 1)

end QuorumQueue

end Ramqp
