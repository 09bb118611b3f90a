import Ramqp.Semantics.Queue

/-! The transaction coordinator: the table of open transactions with their staged work, and the task that
commits a discharged one. -/
namespace Ramqp

inductive QueueKind where
  | transient
  | quorum
  | durable
  deriving DecidableEq

/-- A queue as a link is bound to it. Queues of different kinds are different actors although the name
they carry is the same. -/
structure QueueHandle where
  kind : QueueKind
  name : String
  deriving DecidableEq

abbrev TxnId := String

def maxTxns : Nat := 64

def maxStaged : Nat := 10000

def maxStagedBytes : Nat := 64 * 1024 * 1024

structure StagedPublish where
  queue : QueueHandle
  body : Bytes
  deriving DecidableEq

structure StagedSettle where
  queue : QueueHandle
  sub : SubId
  msgId : Nat
  outcome : SettleOutcome
  deriving DecidableEq

/-- An open transaction's staged work; `rollbackOnly` once a part of it was refused. -/
structure Txn where
  publishes : List StagedPublish := []
  settles : List StagedSettle := []
  rollbackOnly : Bool := false
  deriving DecidableEq

def Txn.staged (t : Txn) : Nat := t.publishes.length + t.settles.length

structure TxnManager where
  nextId : Nat := 0
  txns : Map TxnId Txn := ∅
  stagedBytes : Nat := 0

inductive PublishStage where
  | staged
  | unknownTxn
  | capped
  deriving DecidableEq

inductive SettleStage where
  | staged
  | refused (settle : StagedSettle) (knownTxn : Bool)
  deriving DecidableEq

namespace TxnManager

def txnId (n : Nat) : TxnId := "txn-" ++ n.repr

variable (t : TxnManager)

def declare : Option (TxnId × TxnManager) :=
  if maxTxns ≤ t.txns.size then none
  else some (txnId (t.nextId + 1),
    {t with nextId := t.nextId + 1,txns := t.txns.insert (txnId (t.nextId + 1)) {}})

def stagePublish (id : TxnId) (publish : StagedPublish) : TxnManager × PublishStage :=
  match t.txns[id]? with
  | none => (t,.unknownTxn)
  | some txn =>
    if t.stagedBytes + publish.body.length ≤ maxStagedBytes ∧ txn.staged < maxStaged then
      ({t with
        stagedBytes := t.stagedBytes + publish.body.length,
        txns := t.txns.insert id {txn with publishes := txn.publishes ++ [publish]}},.staged)
    else ({t with txns := t.txns.insert id {txn with rollbackOnly := true}},.capped)

def stageSettle (id : TxnId) (settle : StagedSettle) : TxnManager × SettleStage :=
  match t.txns[id]? with
  | none => (t,.refused settle false)
  | some txn =>
    if txn.staged < maxStaged then
      ({t with txns := t.txns.insert id {txn with settles := txn.settles ++ [settle]}},.staged)
    else ({t with txns := t.txns.insert id {txn with rollbackOnly := true}},.refused settle true)

def take (id : TxnId) : Option (Txn × TxnManager) :=
  (t.txns[id]?).map fun txn =>
    (txn,{t with
      txns := t.txns.erase id,
      stagedBytes := t.stagedBytes - (txn.publishes.map (fun p => p.body.length)).sum})

def takeAll : List Txn × TxnManager :=
  (t.txns.toList.map Prod.snd,{t with txns := ∅,stagedBytes := 0})

end TxnManager

/-- How a discharge resolved; `partially` if the commit failed with some enqueues confirmed. -/
inductive DischargeOutcome where
  | complete
  | rolledBack
  | partially (applied total : Nat)
  | unknown
  deriving DecidableEq

abbrev Send := QueueHandle × QueueMsg

namespace Txn

def joinGroup (publish : StagedPublish) : List (QueueHandle × Nat) → List (QueueHandle × Nat)
  | [] => [(publish.queue,1)]
  | (queue,n)::rest =>
    if queue.name = publish.queue.name then (queue,n + 1)::rest else (queue,n)::joinGroup publish rest

def groups (publishes : List StagedPublish) : List (QueueHandle × Nat) :=
  publishes.foldl (fun groups publish => joinGroup publish groups) []

def leaveGroup (name : String) : List (QueueHandle × Nat) → List (QueueHandle × Nat)
  | [] => []
  | (queue,n)::rest => if queue.name = name then (queue,n - 1)::rest else (queue,n)::leaveGroup name rest

def settleSends (t : Txn) : List Send :=
  t.settles.map fun settle => (settle.queue,.settle settle.sub settle.msgId settle.outcome)

def requeueSends (t : Txn) : List Send :=
  t.settles.map fun settle => (settle.queue,.settle settle.sub settle.msgId .requeue)

end Txn

def unreserveSends (groups : List (QueueHandle × Nat)) : List Send :=
  groups.map fun group => (group.1,.unreserve group.2)

/-- Where a commit stands: about to reserve for the groups still to do, awaiting a reservation, about to
publish, awaiting a confirm, sending what is left to send, or returned. -/
inductive CommitPhase where
  | reserve (held todo : List (QueueHandle × Nat))
  | reserving (held : List (QueueHandle × Nat)) (group : QueueHandle × Nat) (todo : List (QueueHandle × Nat))
  | publish (applied : Nat) (remaining : List (QueueHandle × Nat)) (todo : List StagedPublish)
  | publishing (applied : Nat) (remaining : List (QueueHandle × Nat)) (publish : StagedPublish)
      (todo : List StagedPublish)
  | sending (sends : List Send) (outcome : DischargeOutcome)
  | returned (outcome : DischargeOutcome)
  deriving DecidableEq

structure Commit where
  txn : Txn
  phase : CommitPhase
  answer : Option Bool := none
  deriving DecidableEq

namespace Commit

def start (txn : Txn) : Commit := {txn,phase := .reserve [] (Txn.groups txn.publishes)}

def ack (id : Nat) : PublishAck := ⟨.commit id,0,0,0,0⟩

def rollBack (held : List (QueueHandle × Nat)) (outcome : DischargeOutcome) (k : Commit) : Commit :=
  {k with answer := none,phase := .sending (unreserveSends held ++ k.txn.requeueSends) outcome}

/-- One step of the task, with what it sends; `none` while it waits and once it has returned. -/
def advance (id : Nat) (k : Commit) : Option (Commit × List Send) :=
  match k.phase with
  | .reserve held [] => some ({k with phase := .publish 0 held k.txn.publishes},[])
  | .reserve held (group::todo) =>
    some ({k with phase := .reserving held group todo},[(group.1,.reserve group.2 id)])
  | .reserving held group todo => k.answer.map fun ok =>
    if ok then ({k with answer := none,phase := .reserve (held ++ [group]) todo},[])
    else (k.rollBack held .rolledBack,[])
  | .publish _ _ [] => some ({k with phase := .sending k.txn.settleSends .complete},[])
  | .publish applied remaining (publish::todo) =>
    some ({k with phase := .publishing applied (Txn.leaveGroup publish.queue.name remaining) publish todo},
      [(publish.queue,.publishReserved publish.body (some (ack id)))])
  | .publishing applied remaining _ todo => k.answer.map fun ok =>
    if ok then ({k with answer := none,phase := .publish (applied + 1) remaining todo},[])
    else (k.rollBack (remaining.filter fun group => 0 < group.2)
      (if applied = 0 then .rolledBack else .partially applied k.txn.publishes.length),[])
  | .sending [] outcome => some ({k with phase := .returned outcome},[])
  | .sending (send::sends) outcome => some ({k with phase := .sending sends outcome},[send])
  | .returned _ => none

end Commit

end Ramqp
