import Ramqp.Semantics.QueueGroup

/-! The storage of one Raft group member, generic over its state machine: the log, vote and snapshots in
memory, the hard state written through to the database, and the snapshot files. -/
namespace Ramqp

/-- A replicated state machine with a snapshot form. What a spill store does with its files is the
environment's choice; `none` where the code panics. -/
class ReplicatedState (State : Type) (Command Response Portable : outParam Type) where
  apply : AppendFault → State → Command → Option (State × Response)
  voidResponse : Response
  prepareSnapshot : State → State
  snapshotBytes : State → Option Portable
  finishSnapshot : State → State
  restoreSnapshot : (Nat → AppendFault) → State → Option Portable → State × Except RestoreError Unit

instance : ReplicatedState QueueState QueueCommand QueueResponse PortableState where
  apply := QueueState.apply
  voidResponse := .void
  prepareSnapshot := QueueState.prepareSnapshot
  snapshotBytes := QueueState.snapshotBytes
  finishSnapshot := QueueState.finishSnapshot
  restoreSnapshot := QueueState.restoreSnapshot

structure LogId where
  term : Nat
  node : Nat
  index : Nat
  deriving DecidableEq

structure Vote where
  term : Nat
  node : Nat
  committed : Bool
  deriving DecidableEq

inductive EntryPayload (Command : Type) where
  | blank
  | normal (command : Command)
  | membership (members : List Nat)
  deriving DecidableEq

structure Entry (Command : Type) where
  logId : LogId
  payload : EntryPayload Command
  deriving DecidableEq

structure StoredMembership where
  logId : Option LogId := none
  members : List Nat := []
  deriving DecidableEq

structure SnapshotId where
  applied : Option Nat
  idx : Nat
  deriving DecidableEq

structure SnapshotMeta where
  lastLogId : Option LogId
  lastMembership : StoredMembership
  snapshotId : SnapshotId
  deriving DecidableEq

/-- A state of `none` stands for state bytes that do not decode. -/
structure SnapshotPayload (Portable : Type) where
  lastApplied : Option LogId
  lastMembership : StoredMembership
  state : Option Portable
  deriving DecidableEq

inductive SnapshotBlob (Portable : Type) where
  | memory (data : SnapshotPayload Portable)
  | file (name : SnapshotId)
  deriving DecidableEq

structure HardState (Command Portable : Type) where
  vote : Option Vote := none
  purged : Option LogId := none
  log : Map Nat (Entry Command) := ∅
  snapshot : Option (SnapshotMeta × SnapshotBlob Portable) := none

/-- The snapshot files; a file that is not whole reads as `some none`. -/
abbrev BlobDir (Portable : Type) := SnapshotId → Option (Option (SnapshotPayload Portable))

structure StoreInner (State Command Portable : Type) where
  log : Map Nat (Entry Command) := ∅
  lastPurged : Option LogId := none
  vote : Option Vote := none
  state : State
  lastApplied : Option LogId := none
  lastMembership : StoredMembership := {}
  snapshot : Option (SnapshotMeta × SnapshotBlob Portable) := none
  snapshotIdx : Nat := 0
  snapshotDir : Bool := false
  persist : Bool := false

inductive BuildStage (Portable : Type) where
  | captured
  | written (blob : SnapshotBlob Portable)
  | failed
  | unpinned (blob : SnapshotBlob Portable)
  | saved (blob : SnapshotBlob Portable)
  deriving DecidableEq

structure Build (State Portable : Type) where
  info : SnapshotMeta
  state : State
  stage : BuildStage Portable

structure GroupStore (State Command Portable : Type) where
  inner : StoreInner State Command Portable
  hard : HardState Command Portable := {}
  blobs : BlobDir Portable := fun _ => none
  build : Option (Build State Portable) := none

inductive OpenError where
  | blobMissing
  | blobUndecodable
  | restore (e : RestoreError)
  deriving DecidableEq

namespace HardState

variable {Command Portable : Type}

variable (h : HardState Command Portable)

def append (entries : List (Entry Command)) : HardState Command Portable :=
  {h with log := entries.foldl (fun log entry => log.insert entry.logId.index entry) h.log}

def truncateSince (since : Nat) : HardState Command Portable :=
  {h with log := h.log.filter fun index _ => index < since}

def purgeUpto (upto : LogId) : HardState Command Portable :=
  {h with log := h.log.filter fun index _ => upto.index < index,purged := some upto}

end HardState

namespace GroupStore

variable {State Command Response Portable : Type} [ReplicatedState State Command Response Portable]

variable (ok : Bool)

/-- Write through to the database, if the store is persistent; `none` if the commit fails. -/
def sink (write : HardState Command Portable → HardState Command Portable)
    (s : GroupStore State Command Portable) : Option (GroupStore State Command Portable) :=
  if s.inner.persist then if ok then some {s with hard := write s.hard} else none else some s

def saveVote (vote : Vote) (s : GroupStore State Command Portable) :
    GroupStore State Command Portable × Bool :=
  match s.sink ok fun hard => {hard with vote := some vote} with
  | none => (s,false)
  | some s => ({s with inner := {s.inner with vote := some vote}},true)

def appendToLog (entries : List (Entry Command)) (s : GroupStore State Command Portable) :
    GroupStore State Command Portable × Bool :=
  match s.sink ok fun hard => hard.append entries with
  | none => (s,false)
  | some s =>
    let log := entries.foldl (fun log entry => log.insert entry.logId.index entry) s.inner.log
    ({s with inner := {s.inner with log := log}},true)

def deleteConflictLogsSince (since : LogId) (s : GroupStore State Command Portable) :
    GroupStore State Command Portable × Bool :=
  match s.sink ok fun hard => hard.truncateSince since.index with
  | none => (s,false)
  | some s =>
    let log := s.inner.log.filter fun index _ => index < since.index
    ({s with inner := {s.inner with log := log}},true)

def purgeLogsUpto (upto : LogId) (s : GroupStore State Command Portable) :
    GroupStore State Command Portable × Bool :=
  match s.sink ok fun hard => hard.purgeUpto upto with
  | none => (s,false)
  | some s =>
    let log := s.inner.log.filter fun index _ => upto.index < index
    ({s with inner := {s.inner with log := log,lastPurged := some upto}},true)

def applyEntry (fault : AppendFault) (entry : Entry Command) (s : GroupStore State Command Portable) :
    Option (GroupStore State Command Portable × Response) :=
  let inner := {s.inner with lastApplied := some entry.logId}
  match entry.payload with
  | .blank => some ({s with inner := inner},ReplicatedState.voidResponse State)
  | .normal command => match ReplicatedState.apply fault inner.state command with
    | none => none
    | some (state,response) => some ({s with inner := {inner with state := state}},response)
  | .membership members =>
    some ({s with inner := {inner with lastMembership := ⟨some entry.logId,members⟩}},
      ReplicatedState.voidResponse State)

variable (s : GroupStore State Command Portable)

def beginBuild : Option (GroupStore State Command Portable) :=
  match s.build with
  | some _ => none
  | none =>
    let idx := s.inner.snapshotIdx + 1
    let info : SnapshotMeta := ⟨s.inner.lastApplied,s.inner.lastMembership,⟨s.inner.lastApplied.map LogId.index,idx⟩⟩
    let state := ReplicatedState.prepareSnapshot s.inner.state
    some {s with inner := {s.inner with snapshotIdx := idx,state := state},build := some ⟨info,state,.captured⟩}

/-- Serialise the copy and write its file; the task may fail or be cancelled, and a file that cannot be
written is left torn. -/
def writeBuild : Option (GroupStore State Command Portable) :=
  match s.build with
  | some ⟨info,state,.captured⟩ =>
    if ok then match ReplicatedState.snapshotBytes state with
      | none => some {s with build := some ⟨info,state,.failed⟩}
      | some portable =>
        let data := ⟨info.lastLogId,info.lastMembership,some portable⟩
        if s.inner.snapshotDir then
          some {s with blobs := Function.update s.blobs info.snapshotId (some (some data)),
                       build := some ⟨info,state,.written (.file info.snapshotId)⟩}
        else some {s with build := some ⟨info,state,.written (.memory data)⟩}
    else
      let blobs := if s.inner.snapshotDir then Function.update s.blobs info.snapshotId (some none) else s.blobs
      some {s with blobs := blobs,build := some ⟨info,state,.failed⟩}
  | _ => none

def finishBuild : Option (GroupStore State Command Portable) :=
  let inner := {s.inner with state := ReplicatedState.finishSnapshot s.inner.state}
  match s.build with
  | some ⟨info,state,.written blob⟩ => some {s with inner := inner,build := some ⟨info,state,.unpinned blob⟩}
  | some ⟨_,_,.failed⟩ => some {s with inner := inner,build := none}
  | _ => none

def saveBuild : Option (GroupStore State Command Portable) :=
  match s.build with
  | some ⟨info,state,.unpinned blob⟩ =>
    match s.sink ok fun hard => {hard with snapshot := some (info,blob)} with
    | none => some {s with build := none}
    | some s => some {s with build := some ⟨info,state,.saved blob⟩}
  | _ => none

def supersededBlob (blob : SnapshotBlob Portable) : Option SnapshotId :=
  match s.inner.snapshot,blob with
  | some (_,.file old),.file new => if new = old then none else some old
  | some (_,.file old),.memory _ => some old
  | _,_ => none

def removeBlob : Option SnapshotId → GroupStore State Command Portable
  | none => s
  | some name => {s with blobs := Function.update s.blobs name none}

def publishBuild : Option (GroupStore State Command Portable) :=
  match s.build with
  | some ⟨info,_,.saved blob⟩ =>
    let s := s.removeBlob (s.supersededBlob blob)
    some {s with inner := {s.inner with snapshot := some (info,blob)},build := none}
  | _ => none

/-- Install a received snapshot; `false` where it returns an error. Data of `none` does not decode, and
`written` and `saved` say whether its file can be written and the database commits. -/
def installSnapshot (faults : Nat → AppendFault) (written saved : Bool) (info : SnapshotMeta)
    (data : Option (SnapshotPayload Portable)) (s : GroupStore State Command Portable) :
    GroupStore State Command Portable × Bool :=
  match data with
  | none => (s,false)
  | some payload =>
    match ReplicatedState.restoreSnapshot faults s.inner.state payload.state with
    | (state,.error _) => ({s with inner := {s.inner with state := state}},false)
    | (state,.ok _) =>
      let blob := if s.inner.snapshotDir && written then .file info.snapshotId else .memory payload
      let blobs := if s.inner.snapshotDir then
        Function.update s.blobs info.snapshotId (some (if written then some payload else none)) else s.blobs
      let old := s.supersededBlob blob
      let inner := {s.inner with state := state,lastApplied := payload.lastApplied,
                                 lastMembership := payload.lastMembership,snapshot := some (info,blob)}
      match sink saved (fun hard => {hard with snapshot := some (info,blob)}) {s with inner := inner,blobs := blobs} with
      | none => ({s with inner := inner,blobs := blobs},false)
      | some s => (s.removeBlob old,true)

def recoverBlob (blobs : BlobDir Portable) : SnapshotBlob Portable → Except OpenError (SnapshotPayload Portable)
  | .memory data => .ok data
  | .file name => match blobs name with
    | none => .error .blobMissing
    | some none => .error .blobUndecodable
    | some (some data) => .ok data

def newPersistent (faults : Nat → AppendFault) (state : State) (snapshotDir : Bool)
    (hard : HardState Command Portable) (blobs : BlobDir Portable) :
    Except OpenError (GroupStore State Command Portable) :=
  let inner : StoreInner State Command Portable :=
    {log := hard.log,lastPurged := hard.purged,vote := hard.vote,state := state,snapshotDir := snapshotDir,
     persist := true}
  match hard.snapshot with
  | none => .ok {inner := inner,hard := hard,blobs := blobs}
  | some (info,blob) => match recoverBlob blobs blob with
    | .error e => .error e
    | .ok data => match ReplicatedState.restoreSnapshot faults state data.state with
      | (_,.error e) => .error (.restore e)
      | (state,.ok _) =>
        .ok {inner := {inner with state := state,lastApplied := data.lastApplied,lastMembership := data.lastMembership,
                                  snapshotIdx := info.snapshotId.idx,snapshot := some (info,blob)},
             hard := hard,blobs := blobs}

end GroupStore

abbrev QueueStore := GroupStore QueueState QueueCommand PortableState

structure QueueDisk where
  hard : HardState QueueCommand PortableState := {}
  blobs : BlobDir PortableState := fun _ => none
  spill : SpillDir := {}

def QueueStore.disk (s : QueueStore) : QueueDisk :=
  ⟨s.hard,s.blobs,(s.inner.state.paging.map fun paging => paging.spill.dir).getD {}⟩

structure StoreSettings where
  dataDir : Bool
  persist : Bool
  residentBytesMax : Nat

def pagedQueueStore (settings : StoreSettings) (fresh : Nat) (faults : Nat → AppendFault) (disk : QueueDisk) :
    Except OpenError QueueStore :=
  if !settings.dataDir then .ok {inner := {state := {}}}
  else if settings.persist then
    -- Segments are kept only if a persisted snapshot may reference them.
    let spill := if disk.hard.snapshot.isSome then Spill.openPreserving disk.spill fresh else Spill.openDir fresh
    match GroupStore.newPersistent faults (QueueState.paged spill settings.residentBytesMax) true disk.hard disk.blobs with
    | .error e => .error e
    | .ok store =>
      let counts := store.inner.state.spillLiveCounts
      .ok {store with inner := {store.inner with state := store.inner.state.withSpill fun spill => spill.setLive counts}}
  else .ok {inner := {state := QueueState.paged (Spill.openDir fresh) settings.residentBytesMax,snapshotDir := true},
            blobs := disk.blobs}

end Ramqp
