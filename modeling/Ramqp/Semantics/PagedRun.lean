import Ramqp.Semantics.GroupStore

/-! Runs of a persistent paged queue store: entries reach the log and are applied in order, snapshots are
built and cover the entries that are purged, and the process may stop at any point and open the store
again. -/
namespace Ramqp

def nextIndex (applied : Option LogId) : Nat := (applied.map fun logId => logId.index + 1).getD 0

structure QueueContents where
  nextMsgId : Nat
  messages : Nat → Option (UInt32 × Nat × Option Bytes)

def QueueState.contents (s : QueueState) : QueueContents where
  nextMsgId := s.nextMsgId
  messages := fun msgId => (s.messages[msgId]?).map fun m => (m.failures,m.enqueuedMs,s.fetch m.body)

/-- The store, and the contents it had after the last entry that was ever applied; `top` is the index
after that one. -/
structure PagedRun where
  store : QueueStore
  top : Nat := 0
  last : QueueContents := ⟨0,fun _ => none⟩

namespace PagedRun

inductive Label where
  | append (entry : Entry QueueCommand)
  | apply (fault : AppendFault)
  | beginBuild
  | writeBuild (ok : Bool)
  | finishBuild
  | saveBuild (ok : Bool)
  | publishBuild
  | purge (upto : LogId)
  | restart (fresh residentBytesMax : Nat)

def reopen (fresh residentBytesMax : Nat) (disk : QueueDisk) : Except OpenError QueueStore :=
  pagedQueueStore ⟨true,true,residentBytesMax⟩ fresh (fun _ => .none) disk

def applyNext (fault : AppendFault) (store : QueueStore) : Option QueueStore :=
  match store.inner.log[nextIndex store.inner.lastApplied]? with
  | none => none
  | some entry => (store.applyEntry fault entry).map Prod.fst

def replay : Nat → QueueStore → Option QueueStore
  | 0,store => some store
  | n + 1,store => match applyNext .none store with
    | none => none
    | some store => replay n store

def noted (r : PagedRun) (store : QueueStore) : PagedRun :=
  if r.top < nextIndex store.inner.lastApplied then
    ⟨store,nextIndex store.inner.lastApplied,store.inner.state.contents⟩
  else {r with store := store}

def step (r : PagedRun) : Label → Option PagedRun
  | .append entry =>
    -- Raft replaces no entry that was committed.
    if r.top ≤ entry.logId.index then some {r with store := (r.store.appendToLog true [entry]).1} else none
  | .apply fault => (applyNext fault r.store).map r.noted
  | .beginBuild => r.store.beginBuild.map fun store => {r with store := store}
  | .writeBuild ok => (r.store.writeBuild ok).map fun store => {r with store := store}
  | .finishBuild => r.store.finishBuild.map fun store => {r with store := store}
  | .saveBuild ok => (r.store.saveBuild ok).map fun store => {r with store := store}
  | .publishBuild => r.store.publishBuild.map fun store => {r with store := store}
  | .purge upto => match r.store.hard.snapshot with
    | some (info,_) =>
      if upto.index < nextIndex info.lastLogId then some {r with store := (r.store.purgeLogsUpto true upto).1} else none
    | none => none
  | .restart fresh residentBytesMax => match reopen fresh residentBytesMax r.store.disk with
    | .error _ => none
    | .ok store => some {r with store := store}

end PagedRun

end Ramqp
