import Ramqp.Semantics.GroupStore

/-! The storage of all the Raft groups of a node: one database with tables that the groups share, one writer that
commits the operations of many groups in a batch, and the storage calls of each group, one at a time. -/
namespace Ramqp

open Std Function

structure LogKey where
  group : Nat
  index : Nat
  deriving DecidableEq

instance : Ord LogKey where
  compare := compareLex (compareOn LogKey.group) (compareOn LogKey.index)

instance : TransOrd LogKey := inferInstanceAs (TransCmp (compareLex (compareOn LogKey.group) (compareOn LogKey.index)))

instance : LawfulEqOrd LogKey where
  eq_of_compare {a b} same := by
    have both : (compareOn LogKey.group a b).then (compareOn LogKey.index a b) = .eq := same
    rw [Ordering.then_eq_eq] at both
    cases a
    cases b
    simp only [compareOn,Nat.compare_eq_eq] at both
    rw [both.1,both.2]

structure RaftTables (Command Portable : Type) where
  groups : Map String Nat := ∅
  nextGroup : Nat := 1
  log : Map LogKey (Entry Command) := ∅
  vote : Map Nat Vote := ∅
  purged : Map Nat LogId := ∅
  snapMeta : Map Nat SnapshotMeta := ∅
  snapBlob : Map Nat (SnapshotPayload Portable) := ∅
  snapPath : Map Nat SnapshotId := ∅

inductive RaftOp (Command Portable : Type) where
  | append (entries : List (Nat × Entry Command))
  | vote (vote : Vote)
  | truncate (since : Nat)
  | purge (upto : Nat) (marker : LogId)
  | snapshot (info : SnapshotMeta) (blob : SnapshotBlob Portable)

inductive WriterOp (Command Portable : Type) where
  | raft (group : Nat) (op : RaftOp Command Portable)
  | message

def WriterOp.group? {Command Portable : Type} : WriterOp Command Portable → Option Nat
  | .raft group _ => some group
  | .message => none

inductive RecoverError where
  | blobMissing
  | noBlob
  | store (e : OpenError)
  deriving DecidableEq

structure RaftLogRecovery (Command Portable : Type) where
  vote : Option Vote
  purged : Option LogId
  entries : List (Nat × Entry Command)
  snapshot : Option (SnapshotMeta × SnapshotBlob Portable)

def RaftLogRecovery.hard {Command Portable : Type} (r : RaftLogRecovery Command Portable) : HardState Command Portable :=
  ⟨r.vote,r.purged,r.entries.foldl (fun log (index,entry) => log.insert index entry) ∅,r.snapshot⟩

namespace RaftTables

variable {Command Portable : Type}

def applyOp (group : Nat) (t : RaftTables Command Portable) : RaftOp Command Portable → RaftTables Command Portable
  | .append entries =>
    {t with log := entries.foldl (fun log (index,entry) => log.insert ⟨group,index⟩ entry) t.log}
  | .vote vote => {t with vote := t.vote.insert group vote}
  | .truncate since => {t with log := t.log.filter fun key _ => !(key.group == group && since ≤ key.index)}
  | .purge upto marker =>
    {t with log := t.log.filter fun key _ => !(key.group == group && key.index ≤ upto),
            purged := t.purged.insert group marker}
  | .snapshot info (.memory data) =>
    {t with snapMeta := t.snapMeta.insert group info,snapBlob := t.snapBlob.insert group data,
            snapPath := t.snapPath.erase group}
  | .snapshot info (.file path) =>
    {t with snapMeta := t.snapMeta.insert group info,snapPath := t.snapPath.insert group path,
            snapBlob := t.snapBlob.erase group}

variable (t : RaftTables Command Portable)

def applyBatch (batch : List (WriterOp Command Portable)) : RaftTables Command Portable :=
  batch.foldl (fun t op => match op with
    | .raft group op => t.applyOp group op
    | .message => t) t

def raftGroupId (name : String) : RaftTables Command Portable × Nat :=
  match t.groups[name]? with
  | some id => (t,id)
  | none => ({t with groups := t.groups.insert name t.nextGroup,nextGroup := t.nextGroup + 1},t.nextGroup)

def recoverRaft (blobs : BlobDir Portable) (group : Nat) :
    Except RecoverError (RaftLogRecovery Command Portable) :=
  let entries := (t.log.toList.filter fun (key,_) => key.group == group).map fun (key,entry) => (key.index,entry)
  match t.snapMeta[group]?,t.snapBlob[group]?,t.snapPath[group]? with
  | some info,some data,_ => .ok ⟨t.vote[group]?,t.purged[group]?,entries,some (info,.memory data)⟩
  | some info,none,some path =>
    -- A pointer to a file that is gone is refused.
    if (blobs path).isSome then .ok ⟨t.vote[group]?,t.purged[group]?,entries,some (info,.file path)⟩
    else .error .blobMissing
  | some _,none,none => .error .noBlob
  | none,_,_ => .ok ⟨t.vote[group]?,t.purged[group]?,entries,none⟩

end RaftTables

/-- The calls by which Raft changes what a group has stored, with how their file operations end. -/
inductive StorageCall (Command Portable : Type) where
  | saveVote (vote : Vote)
  | appendToLog (entries : List (Entry Command))
  | deleteConflictLogsSince (since : LogId)
  | purgeLogsUpto (upto : LogId)
  | buildSnapshot (written : Bool)
  | installSnapshot (faults : Nat → AppendFault) (written : Bool) (info : SnapshotMeta)
      (data : Option (SnapshotPayload Portable))

inductive Pending (Command Portable : Type) where
  | vote (vote : Vote)
  | append (entries : List (Entry Command))
  | truncate (since : LogId)
  | purge (upto : LogId)
  | built (info : SnapshotMeta) (blob : SnapshotBlob Portable) (data : SnapshotPayload Portable)
  | installed (info : SnapshotMeta) (blob : SnapshotBlob Portable) (data : SnapshotPayload Portable)
      (old : Option SnapshotId)

def Pending.op {Command Portable : Type} : Pending Command Portable → RaftOp Command Portable
  | .vote saved => .vote saved
  | .append entries => .append (entries.map fun entry => (entry.logId.index,entry))
  | .truncate since => .truncate since.index
  | .purge upto => .purge upto.index upto
  | .built info blob _ => .snapshot info blob
  | .installed info blob _ _ => .snapshot info blob

/-- Where the call of a group stands; after one has failed Raft makes no other. -/
inductive CallPhase (Command Portable : Type) where
  | idle
  | submitted (call : Pending Command Portable)
  | answered (committed : Bool) (call : Pending Command Portable)
  | failed

/-- `saved` and `held` are what the memory held, and the data of its snapshot, when the last call had returned. -/
structure GroupMember (State Command Portable : Type) where
  inner : StoreInner State Command Portable
  held : Option (SnapshotMeta × SnapshotPayload Portable)
  phase : CallPhase Command Portable
  saved : HardState Command Portable

def StoreInner.hard {State Command Portable : Type} (inner : StoreInner State Command Portable) :
    HardState Command Portable := ⟨inner.vote,inner.lastPurged,inner.log,inner.snapshot⟩

def GroupMember.resting {State Command Portable : Type} (inner : StoreInner State Command Portable)
    (held : Option (SnapshotMeta × SnapshotPayload Portable)) : GroupMember State Command Portable :=
  ⟨inner,held,.idle,inner.hard⟩

def HardState.currentSnapshot {Command Portable : Type} (h : HardState Command Portable) (blobs : BlobDir Portable) :
    Except OpenError (Option (SnapshotMeta × SnapshotPayload Portable)) :=
  match h.snapshot with
  | none => .ok none
  | some (info,blob) => (GroupStore.recoverBlob blobs blob).map fun data => some (info,data)

def StoreInner.currentSnapshot {State Command Portable : Type} (inner : StoreInner State Command Portable)
    (blobs : BlobDir Portable) : Except OpenError (Option (SnapshotMeta × SnapshotPayload Portable)) :=
  inner.hard.currentSnapshot blobs

section Calls

variable {State Command Response Portable : Type} [ReplicatedState State Command Response Portable]

/-- A call up to where it waits for the writer; `none` where it returns an error. -/
def startCall (inner : StoreInner State Command Portable) (blobs : BlobDir Portable) :
    StorageCall Command Portable →
    StoreInner State Command Portable × BlobDir Portable × Option (Pending Command Portable)
  | .saveVote vote => (inner,blobs,some (.vote vote))
  | .appendToLog entries => (inner,blobs,some (.append entries))
  | .deleteConflictLogsSince since => (inner,blobs,some (.truncate since))
  | .purgeLogsUpto upto => (inner,blobs,some (.purge upto))
  | .buildSnapshot written =>
    let store : GroupStore State Command Portable := {inner := inner,blobs := blobs}
    match store.beginBuild.bind fun s => (s.writeBuild written).bind GroupStore.finishBuild with
    | none => (inner,blobs,none)
    | some s => (s.inner,s.blobs,match s.build with
      | some ⟨info,state,.unpinned blob⟩ =>
        some (.built info blob ⟨info.lastLogId,info.lastMembership,ReplicatedState.snapshotBytes state⟩)
      | _ => none)
  | .installSnapshot faults written info data => match data with
    | none => (inner,blobs,none)
    | some payload => match ReplicatedState.restoreSnapshot faults inner.state payload.state with
      | (state,.error _) => ({inner with state := state},blobs,none)
      | (state,.ok _) =>
        let blob := if inner.snapshotDir && written then .file info.snapshotId else .memory payload
        let old := GroupStore.supersededBlob {inner := inner,blobs := blobs} blob
        let blobs := if inner.snapshotDir then
          update blobs info.snapshotId (some (if written then some payload else none)) else blobs
        ({inner with state := state,lastApplied := payload.lastApplied,lastMembership := payload.lastMembership,
                     snapshot := some (info,blob)},blobs,some (.installed info blob payload old))

def dropFile (blobs : BlobDir Portable) : Option SnapshotId → BlobDir Portable
  | none => blobs
  | some name => update blobs name none

/-- What the call leaves in memory, the data of the snapshot, and the files. -/
def Pending.resume (inner : StoreInner State Command Portable) (held : Option (SnapshotMeta × SnapshotPayload Portable))
    (blobs : BlobDir Portable) : Pending Command Portable →
    StoreInner State Command Portable × Option (SnapshotMeta × SnapshotPayload Portable) × BlobDir Portable
  | .vote saved => ({inner with vote := some saved},held,blobs)
  | .append entries =>
    ({inner with log := entries.foldl (fun log entry => log.insert entry.logId.index entry) inner.log},held,blobs)
  | .truncate since => ({inner with log := inner.log.filter fun index _ => index < since.index},held,blobs)
  | .purge upto =>
    ({inner with log := inner.log.filter fun index _ => upto.index < index,lastPurged := some upto},held,blobs)
  | .built info blob data => ({inner with snapshot := some (info,blob)},some (info,data),
      dropFile blobs (GroupStore.supersededBlob {inner := inner,blobs := blobs} blob))
  | .installed info _ data old => (inner,some (info,data),dropFile blobs old)

end Calls

structure RaftNode (State Command Portable : Type) where
  tables : RaftTables Command Portable := {}
  blobs : Nat → BlobDir Portable := fun _ _ => none
  members : Nat → Option (GroupMember State Command Portable) := fun _ => none
  channel : List (WriterOp Command Portable) := []

inductive NodeLabel (State Command Portable : Type) where
  | openGroup (name : String) (state : State) (snapshotDir : Bool) (faults : Nat → AppendFault)
  | call (group : Nat) (call : StorageCall Command Portable)
  | apply (group : Nat) (fault : AppendFault) (entry : Entry Command)
  | message
  | commit (count : Nat) (ok : Bool)
  | reply (group : Nat)
  | stop

namespace RaftNode

variable {State Command Response Portable : Type} [ReplicatedState State Command Response Portable]

def openGroup (n : RaftNode State Command Portable) (name : String) (state : State) (snapshotDir : Bool)
    (faults : Nat → AppendFault) : Except RecoverError (RaftNode State Command Portable) :=
  let (tables,group) := n.tables.raftGroupId name
  match tables.recoverRaft (n.blobs group) group with
  | .error e => .error e
  | .ok recovery => match GroupStore.newPersistent faults state snapshotDir recovery.hard (n.blobs group) with
    | .error e => .error (.store e)
    | .ok store =>
      let held := ((store.inner.currentSnapshot (n.blobs group)).toOption).getD none
      .ok {n with tables := tables,members := update n.members group (some (.resting store.inner held))}

def answer (batch : List (WriterOp Command Portable)) (ok : Bool) (group : Nat)
    (m : GroupMember State Command Portable) : GroupMember State Command Portable :=
  match m.phase with
  | .submitted call => if batch.any (fun op => op.group? == some group) then {m with phase := .answered ok call} else m
  | _ => m

def step (n : RaftNode State Command Portable) : NodeLabel State Command Portable → Option (RaftNode State Command Portable)
  | .openGroup name state snapshotDir faults =>
    -- A process opens a group once.
    if (n.members (n.tables.raftGroupId name).2).isSome then none
    else (n.openGroup name state snapshotDir faults).toOption
  | .call group call => match n.members group with
    | some ⟨inner,held,.idle,saved⟩ => match startCall inner (n.blobs group) call with
      | (inner,blobs,none) =>
        some {n with members := update n.members group (some ⟨inner,held,.failed,saved⟩),
                     blobs := update n.blobs group blobs}
      | (inner,blobs,some pending) =>
        some {n with members := update n.members group (some ⟨inner,held,.submitted pending,saved⟩),
                     blobs := update n.blobs group blobs,
                     channel := n.channel ++ [.raft group pending.op]}
    | _ => none
  | .apply group fault entry => match n.members group with
    | none => none
    | some m => match GroupStore.applyEntry fault entry {inner := m.inner} with
      | none => none
      | some (store,_) => some {n with members := update n.members group (some {m with inner := store.inner})}
  | .message => some {n with channel := n.channel ++ [.message]}
  | .commit count ok =>
    let batch := n.channel.take count
    some {n with tables := if ok then n.tables.applyBatch batch else n.tables,
                 members := fun group => (n.members group).map (answer batch ok group),
                 channel := n.channel.drop count}
  | .reply group => match n.members group with
    | some ⟨inner,held,.answered true call,_⟩ =>
      let (inner,held,blobs) := call.resume inner held (n.blobs group)
      some {n with members := update n.members group (some (.resting inner held)),blobs := update n.blobs group blobs}
    | some ⟨inner,held,.answered false _,saved⟩ =>
      some {n with members := update n.members group (some ⟨inner,held,.failed,saved⟩)}
    | _ => none
  | .stop => some {n with members := fun _ => none,channel := []}

end RaftNode

end Ramqp
