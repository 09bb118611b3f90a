import Ramqp.Semantics.QueueGroup

/-! The quorum queue actor over the group it leads: its proposals are applied in any order and at any point of
its loop, and each is handled once its answer is there. -/
namespace Ramqp

def QueueState.view (s : QueueState) : QueueView where
  residentBytes := s.residentBytes
  bodyOf msgId := s.messages[msgId]?.map fun m => s.fetch m.body
  metaOf msgId := s.messages[msgId]?.map fun m => (m.enqueuedMs,m.failures)

inductive LeaderPhase where
  | waiting
  | expiring (now : Nat)
  | dispatching
  deriving DecidableEq

/-- `failed` counts the failed deliveries of each message that this leader has seen. -/
structure Leader where
  queue : QuorumQueue := {}
  applied : QueueState := {}
  proposed : List Proposal := []
  answered : List (Proposal × QueueResponse) := []
  phase : LeaderPhase := .waiting
  failed : Nat → Nat := fun _ => 0

/-- The resident bytes are read apart from the rest, so any value may be seen. -/
inductive LeaderEvent where
  | receive (msg : QueueMsg) (residentBytes enqueuedMs now : Nat)
  | complete (index now : Nat)
  | apply (index : Nat) (fault : AppendFault)
  | expire
  | deliver (live : Bool)

def Proposal.result : Proposal → QueueResponse → Option Nat
  | .publish _ _ _,.enqueued msgId => some msgId
  | .publish _ _ _,_ => none
  | _,_ => some 0

namespace Leader

def start (applied : QueueState) : Leader := {queue := {ready := .ofList applied.messages.keys},applied}

def fails (q : QuorumQueue) (msgId : Nat) : QueueMsg → Bool
  | .settle sub settled .requeueFailed => settled == msgId && q.inflight[msgId]? == some sub
  | _ => false

def moved (s : Leader) (queue : QuorumQueue) : Leader :=
  {s with queue,proposed := s.proposed ++ queue.commits.drop s.queue.commits.length}

def expireTurn (p : EffectivePolicy) (now : Nat) (s : Leader) : Leader :=
  match if p.ttlMs.isSome then s.queue.ready.toList.head? else none with
  | none => {s with phase := .dispatching}
  | some head =>
    if (s.applied.view.metaOf head).all fun info => p.expired info.1 now then
      s.moved (QuorumQueue.expireHead p s.applied.view now [head] s.queue).1
    else {s with phase := .dispatching}

def deliverTurn (live : Bool) (s : Leader) : Leader :=
  let queue := (s.queue.deliverReady (fun _ _ => live) (fun _ => s.applied.view) 1).1
  if s.queue.ready.toList.isEmpty || s.queue.ring.take.isNone then {s with queue,phase := .waiting} else {s with queue}

def step (p : EffectivePolicy) (s : Leader) : LeaderEvent → Option Leader
  | .receive msg residentBytes enqueuedMs now => match s.phase with
    | .waiting =>
      let view := {s.applied.view with residentBytes}
      some {s.moved (s.queue.handleMsg p view enqueuedMs msg).1 with
        phase := .expiring now,
        failed := fun msgId => if fails s.queue msgId msg then s.failed msgId + 1 else s.failed msgId}
    | _ => none
  | .complete index now => match s.phase,s.answered[index]? with
    | .waiting,some (done,response) =>
      some {s with
        queue := (s.queue.committed done (done.result response)).1,
        answered := s.answered.eraseIdx index,
        phase := .expiring now}
    | _,_ => none
  | .apply index fault => match s.proposed[index]? with
    | some proposal => (s.applied.apply fault proposal.command).map fun (applied,response) =>
      {s with applied,proposed := s.proposed.eraseIdx index,answered := s.answered ++ [(proposal,response)]}
    | none => none
  | .expire => match s.phase with
    | .expiring now => some (s.expireTurn p now)
    | _ => none
  | .deliver live => match s.phase with
    | .dispatching => some (s.deliverTurn live)
    | _ => none

def Reads (s : Leader) : LeaderEvent → Bool
  | .deliver _ => s.queue.ready.toList.head?.all fun msgId => s.applied.view.bodyOf msgId != some none
  | _ => true

end Leader

end Ramqp
