import Ramqp.Library.Entries
import Ramqp.Library.Transition
import Ramqp.Semantics.RaftNode

/-! The groups of a node come back from a stop as they were: the tables say of each group what its memory holds,
whatever the writer puts into one batch, and the group's snapshot can be read. -/
namespace Ramqp

open Std List Option Function WriterOp StoreInner ReplicatedState QueueState Transition

variable {Command Portable : Type}

def RaftOp.write : RaftOp Command Portable → HardState Command Portable → HardState Command Portable
  | .append entries,h => {h with log := entries.foldl (fun log (index,entry) => log.insert index entry) h.log}
  | .vote saved,h => {h with vote := some saved}
  | .truncate since,h => {h with log := h.log.filter fun index _ => index < since}
  | .purge upto marker,h => {h with log := h.log.filter fun index _ => upto < index,purged := some marker}
  | .snapshot info blob,h => {h with snapshot := some (info,blob)}

variable {blobs : BlobDir Portable}

namespace RaftTables

def Points (t : RaftTables Command Portable) (group : Nat) : Option (SnapshotMeta × SnapshotBlob Portable) → Prop
  | none => t.snapMeta[group]? = none
  | some (info,.memory data) => t.snapMeta[group]? = some info ∧ t.snapBlob[group]? = some data
  | some (info,.file path) =>
    t.snapMeta[group]? = some info ∧ t.snapBlob[group]? = none ∧ t.snapPath[group]? = some path

structure Holds (t : RaftTables Command Portable) (group : Nat) (h : HardState Command Portable) : Prop where
  vote : t.vote[group]? = h.vote
  purged : t.purged[group]? = h.purged
  log : ∀ index : Nat, t.log[(⟨group,index⟩ : LogKey)]? = h.log[index]?
  snapshot : t.Points group h.snapshot

structure SameRows (t u : RaftTables Command Portable) (group : Nat) : Prop where
  vote : u.vote[group]? = t.vote[group]?
  purged : u.purged[group]? = t.purged[group]?
  log : ∀ index : Nat, u.log[(⟨group,index⟩ : LogKey)]? = t.log[(⟨group,index⟩ : LogKey)]?
  snapMeta : u.snapMeta[group]? = t.snapMeta[group]?
  snapBlob : u.snapBlob[group]? = t.snapBlob[group]?
  snapPath : u.snapPath[group]? = t.snapPath[group]?

variable {t u v : RaftTables Command Portable} {group other : Nat} {h : HardState Command Portable}

lemma SameRows.refl (t : RaftTables Command Portable) (group : Nat) : SameRows t t group :=
  ⟨rfl,rfl,fun _ => rfl,rfl,rfl,rfl⟩

lemma SameRows.trans (first : SameRows t u group) (second : SameRows u v group) : SameRows t v group :=
  ⟨second.vote.trans first.vote,second.purged.trans first.purged,fun index => (second.log index).trans (first.log index),
    second.snapMeta.trans first.snapMeta,second.snapBlob.trans first.snapBlob,second.snapPath.trans first.snapPath⟩

lemma Holds.sameRows (holds : t.Holds group h) (same : SameRows t u group) : u.Holds group h := by
  refine ⟨same.vote.trans holds.vote,same.purged.trans holds.purged,fun index => (same.log index).trans (holds.log index),?_⟩
  have points := holds.snapshot
  revert points
  rcases h.snapshot with _ | ⟨info,data | path⟩ <;>
    simp only [Points,same.snapMeta,same.snapBlob,same.snapPath] <;> exact fun points => points

lemma foldl_insert_log {κ : Type} [Ord κ] [TransOrd κ] [LawfulEqOrd κ] [DecidableEq κ] {key : Nat → κ}
    (inj : ∀ a b, key a = key b ↔ a = b)
    (entries : List (Nat × Entry Command)) (log : Map LogKey (Entry Command)) (memory : Map κ (Entry Command))
    (same : ∀ index : Nat, log[(⟨group,index⟩ : LogKey)]? = memory[key index]?) (index : Nat) :
    (entries.foldl (fun log (index,entry) => log.insert ⟨group,index⟩ entry) log)[(⟨group,index⟩ : LogKey)]? =
      (entries.foldl (fun log (index,entry) => log.insert (key index) entry) memory)[key index]? := by
  induction entries generalizing log memory with
  | nil => exact same index
  | cons entry entries ih =>
    refine ih _ _ fun index => ?_
    simp only [Entries.getElem?_insert,LogKey.mk.injEq,true_and,same,inj]

lemma foldl_insert_log_other (apart : group ≠ other) (entries : List (Nat × Entry Command))
    (log : Map LogKey (Entry Command)) (index : Nat) :
    (entries.foldl (fun log (index,entry) => log.insert ⟨group,index⟩ entry) log)[(⟨other,index⟩ : LogKey)]? =
      log[(⟨other,index⟩ : LogKey)]? := by
  induction entries generalizing log with
  | nil => rfl
  | cons entry entries ih =>
    refine (ih _).trans ?_
    rw [Entries.getElem?_insert,if_neg]
    rintro ⟨⟩
    exact apart rfl

lemma filter_log_other (apart : group ≠ other) (within : Nat → Bool) (log : Map LogKey (Entry Command)) (index : Nat) :
    (log.filter fun key _ => !(key.group == group && within key.index))[(⟨other,index⟩ : LogKey)]? =
      log[(⟨other,index⟩ : LogKey)]? := by
  rw [ExtTreeMap.getElem?_filter',beq_eq_false_iff_ne.mpr (Ne.symm apart)]
  cases log[(⟨other,index⟩ : LogKey)]? <;> rfl

lemma Holds.filter_log (holds : t.Holds group h) (within keep : Nat → Prop) [DecidablePred within] [DecidablePred keep]
    (same : ∀ index, ¬ within index ↔ keep index) (index : Nat) :
    (t.log.filter fun key _ => !(key.group == group && within key.index))[(⟨group,index⟩ : LogKey)]? =
      (h.log.filter fun index _ => keep index)[index]? := by
  simp only [ExtTreeMap.getElem?_filter',holds.log,BEq.rfl,Bool.true_and,← decide_not,same]

lemma Holds.applyOp (holds : t.Holds group h) (op : RaftOp Command Portable) :
    (t.applyOp group op).Holds group (op.write h) := by
  cases op with
  | append entries => exact {holds with log := foldl_insert_log (fun _ _ => Iff.rfl) entries _ _ holds.log}
  | vote => exact {holds with vote := ExtTreeMap.getElem?_insert_self}
  | truncate since => exact {holds with log := holds.filter_log (since ≤ ·) (· < since) fun _ => Nat.not_le}
  | purge upto =>
    exact {holds with log := holds.filter_log (· ≤ upto) (upto < ·) fun _ => Nat.not_le
                      purged := ExtTreeMap.getElem?_insert_self}
  | snapshot info blob =>
    cases blob with
    | memory =>
      exact {holds with snapshot := ⟨ExtTreeMap.getElem?_insert_self,ExtTreeMap.getElem?_insert_self⟩}
    | file =>
      exact {holds with snapshot :=
        ⟨ExtTreeMap.getElem?_insert_self,ExtTreeMap.getElem?_erase_self,ExtTreeMap.getElem?_insert_self⟩}

lemma applyOp_sameRows (t : RaftTables Command Portable) (apart : group ≠ other) (op : RaftOp Command Portable) :
    SameRows t (t.applyOp group op) other := by
  have same := SameRows.refl t other
  cases op with
  | append entries => exact {same with log := foldl_insert_log_other apart entries _}
  | vote => exact {same with vote := by simp [RaftTables.applyOp,Entries.getElem?_insert,apart]}
  | truncate since => exact {same with log := filter_log_other apart (fun index => since ≤ index) _}
  | purge upto =>
    refine {same with log := filter_log_other apart (fun index => index ≤ upto) _,purged := ?_}
    simp [RaftTables.applyOp,Entries.getElem?_insert,apart]
  | snapshot info blob =>
    cases blob <;> constructor <;> simp [RaftTables.applyOp,Entries.getElem?_insert,Entries.getElem?_erase,apart]

lemma SameRows.applyOp (same : SameRows t u group) (op : RaftOp Command Portable) :
    SameRows (t.applyOp group op) (u.applyOp group op) group := by
  have filtered : ∀ (within : LogKey → Entry Command → Bool) (index : Nat),
      (u.log.filter within)[(⟨group,index⟩ : LogKey)]? = (t.log.filter within)[(⟨group,index⟩ : LogKey)]? :=
    fun within index => by rw [ExtTreeMap.getElem?_filter',ExtTreeMap.getElem?_filter',same.log]
  cases op with
  | append entries => exact {same with log := foldl_insert_log (by simp) entries _ _ same.log}
  | vote => exact {same with vote := by simp [RaftTables.applyOp]}
  | truncate => exact {same with log := filtered _}
  | purge => exact {same with log := filtered _,purged := by simp [RaftTables.applyOp]}
  | snapshot info blob =>
    cases blob <;> constructor <;> simp [RaftTables.applyOp,same.vote,same.purged,same.log]

def ownOps (group : Nat) (batch : List (WriterOp Command Portable)) : List (WriterOp Command Portable) :=
  batch.filter fun op => op.group? == some group

lemma applyBatch_ownOps (same : SameRows t u group) (batch : List (WriterOp Command Portable)) :
    SameRows (t.applyBatch (ownOps group batch)) (u.applyBatch batch) group := by
  induction batch generalizing t u with
  | nil => exact same
  | cons op batch ih =>
    cases op with
    | message => exact ih same
    | raft named op =>
      by_cases own : named = group
      · subst own
        have kept : ownOps named (.raft named op::batch) = .raft named op::ownOps named batch :=
          filter_cons_of_pos (beq_self_eq_true (some named))
        rw [kept]
        exact ih (same.applyOp op)
      have dropped : ownOps group (.raft named op::batch) = ownOps group batch :=
        filter_cons_of_neg (by simpa [group?] using own)
      rw [dropped]
      exact ih (same.trans (applyOp_sameRows u own op))

lemma recovered_log (t : RaftTables Command Portable) (group index : Nat) :
    (((t.log.toList.filter fun (key,_) => key.group == group).map fun (key,entry) => (key.index,entry)).foldl
      (fun log (index,entry) => log.insert index entry) (∅ : Map Nat (Entry Command)))[index]? =
      t.log[(⟨group,index⟩ : LogKey)]? := by
  have nodup : ((((t.log.toList.filter fun (key,_) => key.group == group).map
      fun (key,entry) => (key.index,entry)).map Prod.fst)).Nodup := by
    rw [List.map_map]
    refine List.Nodup.map_on ?_ (Entries.nodup_toList.filter _)
    rintro ⟨⟨a,i⟩,x⟩ left ⟨⟨b,j⟩,y⟩ right same
    obtain ⟨there,rfl⟩ : _ ∧ a = group := by simpa using left
    obtain ⟨here,rfl⟩ : _ ∧ b = a := by simpa using right
    obtain rfl : i = j := same
    cases there.symm.trans here
    rfl
  ext entry
  refine (Entries.getElem?_foldl_insert nodup ∅ index entry).trans ?_
  constructor
  · rintro (listed | ⟨-,absent⟩)
    · obtain ⟨⟨⟨g,_⟩,_⟩,member,same⟩ := mem_map.mp listed
      obtain ⟨there,rfl⟩ : _ ∧ g = group := by simpa using member
      cases same
      exact there
    · cases absent
  intro present
  have listed := ExtTreeMap.mem_toList_iff_getElem?_eq_some.mpr present
  exact .inl (mem_map.mpr ⟨(⟨group,index⟩,entry),mem_filter.mpr ⟨listed,beq_self_eq_true group⟩,rfl⟩)

lemma holds_of_recovered {r : RaftLogRecovery Command Portable}
    (ok : t.recoverRaft blobs group = .ok r) : t.Holds group r.hard := by
  unfold recoverRaft at ok
  have log := fun index => (recovered_log t group index).symm
  cases info : t.snapMeta[group]? with
  | none =>
    simp only [info,Except.ok.injEq] at ok
    subst ok
    exact ⟨rfl,rfl,log,info⟩
  | some =>
    cases data : t.snapBlob[group]? with
    | some =>
      simp only [info,data,Except.ok.injEq] at ok
      subst ok
      exact ⟨rfl,rfl,log,info,data⟩
    | none =>
      cases path : t.snapPath[group]? with
      | none => simp [info,data,path] at ok
      | some =>
        simp only [info,data,path] at ok
        split at ok
        · cases ok
          exact ⟨rfl,rfl,log,info,data,path⟩
        · cases ok

lemma Holds.recovered (holds : t.Holds group h)
    (file : ∀ info path, h.snapshot = some (info,.file path) → (blobs path).isSome) :
    ∃ r, t.recoverRaft blobs group = .ok r ∧ r.hard = h := by
  have same : ∀ r : RaftLogRecovery Command Portable, t.Holds group r.hard → r.snapshot = h.snapshot → r.hard = h := by
    intro r read snapshot
    obtain ⟨vote,purged,log,_⟩ := h
    have logs : r.hard.log = log := ExtTreeMap.ext_getElem? fun index => (read.log index).symm.trans (holds.log index)
    have votes : r.vote = vote := read.vote.symm.trans holds.vote
    have markers : r.purged = purged := read.purged.symm.trans holds.purged
    change HardState.mk r.vote r.purged r.hard.log r.snapshot = _
    rw [votes,markers,logs,snapshot]
  have points := holds.snapshot
  suffices ∃ r, t.recoverRaft blobs group = .ok r ∧ r.snapshot = h.snapshot from by
    obtain ⟨r,ok,snapshot⟩ := this
    exact ⟨r,ok,same r (holds_of_recovered ok) snapshot⟩
  unfold recoverRaft
  revert points file
  rcases h.snapshot with _ | ⟨info,data | path⟩
  · intro _ points
    simp only [Points] at points
    simp only [points]
    exact ⟨_,rfl,rfl⟩
  · intro _ points
    simp only [points.1,points.2]
    exact ⟨_,rfl,rfl⟩
  intro file points
  simp only [points.1,points.2.1,points.2.2,file info path rfl,if_true]
  exact ⟨_,rfl,rfl⟩

lemma SameRows.recovered (same : SameRows t u group) (blobs : BlobDir Portable) :
    (u.recoverRaft blobs group).map RaftLogRecovery.hard = (t.recoverRaft blobs group).map RaftLogRecovery.hard := by
  have logs := ExtTreeMap.ext_getElem? fun index : Nat =>
    (recovered_log u group index).trans ((same.log index).trans (recovered_log t group index).symm)
  have whole := fun pointer : Option (SnapshotMeta × SnapshotBlob Portable) =>
    congrArg (fun log => Except.ok (ε := RecoverError) (HardState.mk t.vote[group]? t.purged[group]? log pointer)) logs
  unfold recoverRaft
  simp only [same.vote,same.purged,same.snapMeta,same.snapBlob,same.snapPath]
  rcases t.snapMeta[group]? with _ | info
  · exact whole none
  rcases t.snapBlob[group]? with _ | data
  · rcases t.snapPath[group]? with _ | path
    · rfl
    · dsimp only
      split
      · exact whole (some (info,.file path))
      · rfl
  · exact whole (some (info,.memory data))

end RaftTables

variable {call : StorageCall Command Portable}

section Calls

variable {State Response : Type} [ReplicatedState State Command Response Portable]
  {inner other : StoreInner State Command Portable} {held : Option (SnapshotMeta × SnapshotPayload Portable)}
  {blobs blobs' : BlobDir Portable} {pending : Pending Command Portable}

variable {written : Bool}

lemma applyEntry_hard {fault : AppendFault} {entry : Entry Command} {s t : GroupStore State Command Portable}
    {response : Response} (ok : s.applyEntry fault entry = some (t,response)) : t.inner.hard = s.inner.hard := by
  unfold GroupStore.applyEntry at ok
  cases payload : entry.payload with
  | blank | membership =>
    simp only [payload,some.injEq,Prod.mk.injEq] at ok
    rw [← ok.1]
    rfl
  | normal command =>
    cases applied : apply fault s.inner.state command with
    | none => simp [payload,applied] at ok
    | some =>
      simp only [payload,applied,some.injEq,Prod.mk.injEq] at ok
      rw [← ok.1]
      rfl

lemma Pending.resume_congr (same : other.hard = inner.hard) (pending : Pending Command Portable)
    (held : Option (SnapshotMeta × SnapshotPayload Portable)) (blobs : BlobDir Portable) :
    (pending.resume other held blobs).1.hard = (pending.resume inner held blobs).1.hard ∧
      (pending.resume other held blobs).2 = (pending.resume inner held blobs).2 := by
  have parts := same
  simp only [StoreInner.hard,HardState.mk.injEq] at parts
  obtain ⟨votes,markers,logs,pointers⟩ := parts
  cases pending with
  | vote => simp only [resume,StoreInner.hard,markers,logs,pointers,and_self]
  | append | truncate => simp only [resume,StoreInner.hard,votes,markers,logs,pointers,and_self]
  | purge => simp only [resume,StoreInner.hard,votes,logs,pointers,and_self]
  | built => simp only [resume,StoreInner.hard,GroupStore.supersededBlob,votes,markers,logs,pointers,and_self]
  | installed => exact ⟨same,rfl⟩

/-- The data of the snapshot once the call is done. -/
def Pending.holds (held : Option (SnapshotMeta × SnapshotPayload Portable)) :
    Pending Command Portable → Option (SnapshotMeta × SnapshotPayload Portable)
  | .built info _ data | .installed info _ data _ => some (info,data)
  | _ => held

lemma Pending.resume_held (pending : Pending Command Portable) :
    (pending.resume inner held blobs).2.1 = pending.holds held := by cases pending <;> rfl

/-- What can be read after a file was deleted could be read before. -/
lemma currentSnapshot_dropFile {h : HardState Command Portable} {name : Option SnapshotId}
    (read : h.currentSnapshot (dropFile blobs name) = .ok held) : h.currentSnapshot blobs = .ok held := by
  cases name with
  | none => exact read
  | some name =>
    unfold HardState.currentSnapshot at read ⊢
    revert read
    rcases h.snapshot with _ | ⟨info,data | path⟩
    · exact id
    · exact id
    by_cases same : path = name
    · subst same
      simp [GroupStore.recoverBlob,dropFile,Except.map]
    · simp only [GroupStore.recoverBlob,dropFile,update_of_ne same]
      exact id

lemma recoverBlob_dropFile (s : GroupStore State Command Portable) (blobs : BlobDir Portable)
    (blob : SnapshotBlob Portable) :
    GroupStore.recoverBlob (dropFile blobs (s.supersededBlob blob)) blob = GroupStore.recoverBlob blobs blob := by
  cases blob with
  | memory => rfl
  | file =>
    unfold GroupStore.supersededBlob
    rcases s.inner.snapshot with _ | ⟨info,data | old⟩
    · rfl
    · rfl
    dsimp only
    split
    · rfl
    next apart =>
      simp only [GroupStore.recoverBlob,dropFile,update_of_ne apart]

structure Completes (pending : Pending Command Portable) (inner : StoreInner State Command Portable)
    (held : Option (SnapshotMeta × SnapshotPayload Portable)) (blobs : BlobDir Portable)
    (before : HardState Command Portable) : Prop where
  hard : (pending.resume inner held blobs).1.hard = pending.op.write before
  snapshot : (pending.resume inner held blobs).1.currentSnapshot (pending.resume inner held blobs).2.2 =
    .ok (pending.resume inner held blobs).2.1

lemma Completes.congr {before : HardState Command Portable}
    (completes : Completes pending inner held blobs before) (same : other.hard = inner.hard) :
    Completes pending other held blobs before := by
  obtain ⟨hard,rest⟩ := pending.resume_congr same held blobs
  refine ⟨hard.trans completes.hard,?_⟩
  rw [currentSnapshot,hard,rest]
  exact completes.snapshot

/-- The snapshot of a committed call can be read before the call has returned. -/
lemma Completes.current {before : HardState Command Portable} (completes : Completes pending inner held blobs before) :
    (pending.op.write before).currentSnapshot blobs = .ok (pending.holds held) := by
  have read := completes.snapshot
  rw [currentSnapshot,completes.hard,pending.resume_held] at read
  cases pending with
  | vote | append | truncate | purge => exact read
  | built | installed => exact currentSnapshot_dropFile read

/-- The file that a call writes. -/
def StorageCall.writes (inner : StoreInner State Command Portable) : StorageCall Command Portable → Option SnapshotId
  | .buildSnapshot _ => some ⟨inner.lastApplied.map LogId.index,inner.snapshotIdx + 1⟩
  | .installSnapshot _ _ info _ => some info.snapshotId
  | _ => none

variable {started : Option (Pending Command Portable)}

variable (held) in
lemma build_completes (ok : startCall inner blobs (.buildSnapshot written) = (other,blobs',started)) :
    (∀ name ≠ ⟨inner.lastApplied.map LogId.index,inner.snapshotIdx + 1⟩, blobs' name = blobs name) ∧
      ∀ pending, started = some pending → Completes pending other held blobs' inner.hard := by
  simp only [startCall,GroupStore.beginBuild,GroupStore.writeBuild,bind_some] at ok
  cases written with
  | false =>
    simp only [Bool.false_eq_true,if_false,bind_some,GroupStore.finishBuild,Prod.mk.injEq] at ok
    obtain ⟨rfl,rfl,rfl⟩ := ok
    refine ⟨fun name elsewhere => ?_,fun _ => nofun⟩
    split
    · exact update_of_ne elsewhere _ _
    · rfl
  | true =>
    rw [if_pos rfl] at ok
    cases bytes : snapshotBytes (prepareSnapshot inner.state) with
    | none =>
      simp only [bytes,bind_some,GroupStore.finishBuild,Prod.mk.injEq] at ok
      obtain ⟨rfl,rfl,rfl⟩ := ok
      exact ⟨fun _ _ => rfl,fun _ => nofun⟩
    | some =>
      cases dir : inner.snapshotDir with
      | true =>
        simp only [bytes,dir,if_true,bind_some,GroupStore.finishBuild,Prod.mk.injEq] at ok
        obtain ⟨rfl,rfl,rfl⟩ := ok
        refine ⟨fun name elsewhere => update_of_ne elsewhere _ _,?_⟩
        rintro _ ⟨⟩
        refine ⟨rfl,?_⟩
        simp only [Pending.resume,currentSnapshot,StoreInner.hard,HardState.currentSnapshot,recoverBlob_dropFile]
        simp only [GroupStore.recoverBlob,update_self,Except.map]
      | false =>
        simp only [bytes,dir,Bool.false_eq_true,if_false,bind_some,GroupStore.finishBuild,Prod.mk.injEq] at ok
        obtain ⟨rfl,rfl,rfl⟩ := ok
        refine ⟨fun _ _ => rfl,?_⟩
        rintro _ ⟨⟩
        exact ⟨rfl,rfl⟩

variable (held) in
lemma install_completes {faults : Nat → AppendFault} {info : SnapshotMeta}
    {data : Option (SnapshotPayload Portable)}
    (ok : startCall inner blobs (.installSnapshot faults written info data) = (other,blobs',started)) :
    (∀ name ≠ info.snapshotId, blobs' name = blobs name) ∧
      ∀ pending, started = some pending → Completes pending other held blobs' inner.hard := by
  cases data with
  | none =>
    cases ok
    exact ⟨fun _ _ => rfl,fun _ => nofun⟩
  | some payload =>
    rcases restored : restoreSnapshot faults inner.state payload.state with ⟨state,_ | _⟩
    · simp only [startCall,restored,Prod.mk.injEq] at ok
      obtain ⟨rfl,rfl,rfl⟩ := ok
      exact ⟨fun _ _ => rfl,fun _ => nofun⟩
    simp only [startCall,restored,Prod.mk.injEq] at ok
    obtain ⟨rfl,rfl,rfl⟩ := ok
    constructor
    · intro name elsewhere
      split
      · exact update_of_ne elsewhere _ _
      · rfl
    rintro _ ⟨⟩
    refine ⟨rfl,?_⟩
    simp only [Pending.resume,currentSnapshot,StoreInner.hard,HardState.currentSnapshot,recoverBlob_dropFile]
    cases inner.snapshotDir with
    | false => rfl
    | true =>
      cases written with
      | false => rfl
      | true => simp [GroupStore.recoverBlob,Except.map]

lemma startCall_completes (settled : inner.currentSnapshot blobs = .ok held)
    (ok : startCall inner blobs call = (other,blobs',some pending)) :
    Completes pending other held blobs' inner.hard := by
  cases call with
  | saveVote | deleteConflictLogsSince | purgeLogsUpto =>
    cases ok
    exact ⟨rfl,settled⟩
  | appendToLog =>
    cases ok
    refine ⟨?_,settled⟩
    simp only [Pending.resume,Pending.op,RaftOp.write,foldl_map]
    rfl
  | buildSnapshot => exact (build_completes held ok).2 pending rfl
  | installSnapshot => exact (install_completes held ok).2 pending rfl

lemma startCall_files (ok : startCall inner blobs call = (other,blobs',started)) {name : SnapshotId}
    (apart : call.writes inner ≠ some name) : blobs' name = blobs name := by
  cases call with
  | saveVote | appendToLog | deleteConflictLogsSince | purgeLogsUpto =>
    cases ok
    rfl
  | buildSnapshot => exact (build_completes none ok).1 name fun same => apart (same ▸ rfl)
  | installSnapshot => exact (install_completes none ok).1 name fun same => apart (same ▸ rfl)

/-- A whole call on the store of a group, and whether it returns without an error. -/
def StorageCall.perform (ok : Bool) (s : GroupStore State Command Portable) :
    StorageCall Command Portable → GroupStore State Command Portable × Bool
  | .saveVote vote => s.saveVote ok vote
  | .appendToLog entries => s.appendToLog ok entries
  | .deleteConflictLogsSince since => s.deleteConflictLogsSince ok since
  | .purgeLogsUpto upto => s.purgeLogsUpto ok upto
  | .buildSnapshot written =>
    let s := (s.beginBuild.bind fun s => (s.writeBuild written).bind GroupStore.finishBuild).getD s
    let s := (s.saveBuild ok).getD s
    match s.publishBuild with
    | none => (s,false)
    | some s => (s,true)
  | .installSnapshot faults written info data => s.installSnapshot faults written ok info data

lemma GroupStore.removeBlob_eq (s : GroupStore State Command Portable) (old : Option SnapshotId) :
    s.removeBlob old = {s with blobs := dropFile s.blobs old} := by cases old <;> rfl

open GroupStore in
/-- A call on a store does what it does on a node in two steps, before and after the writer's answer. -/
theorem perform_resumed (ok : Bool) (s : GroupStore State Command Portable) (call : StorageCall Command Portable)
    (persistent : s.inner.persist = true) (resting : s.build = none) :
    call.perform ok s = match startCall s.inner s.blobs call with
      | (inner,blobs,none) => ({s with inner := inner,blobs := blobs},false)
      | (inner,blobs,some pending) =>
        let (resumed,_,files) := pending.resume inner none blobs
        if ok then ({s with inner := resumed,blobs := files,hard := pending.op.write s.hard},true)
        else ({s with inner := inner,blobs := blobs},false) := by
  obtain ⟨inner,hard,blobs,build⟩ := s
  obtain rfl : build = none := resting
  replace persistent : inner.persist = true := persistent
  cases call with
  | saveVote | deleteConflictLogsSince | purgeLogsUpto =>
    simp only [StorageCall.perform,saveVote,deleteConflictLogsSince,purgeLogsUpto,sink,persistent,if_true]
    cases ok <;> rfl
  | appendToLog =>
    simp only [StorageCall.perform,appendToLog,sink,persistent,if_true]
    cases ok with
    | false => rfl
    | true =>
      simp only [startCall,Pending.resume,Pending.op,RaftOp.write,foldl_map]
      rfl
  | buildSnapshot written =>
    simp only [StorageCall.perform,startCall,beginBuild,writeBuild,bind_some]
    cases written with
    | false => rfl
    | true =>
      rw [if_pos rfl]
      cases snapshotBytes (prepareSnapshot inner.state) with
      | none => rfl
      | some =>
        cases dir : inner.snapshotDir <;> cases ok <;>
          simp [finishBuild,saveBuild,publishBuild,sink,persistent,removeBlob_eq,Pending.resume,Pending.op,RaftOp.write,
            supersededBlob]
  | installSnapshot faults written info data =>
    cases data with
    | none => rfl
    | some payload =>
      rcases restored : restoreSnapshot faults inner.state payload.state with ⟨state,_ | _⟩
      · simp only [StorageCall.perform,startCall,installSnapshot,restored]
      · simp only [StorageCall.perform,startCall,installSnapshot,restored,sink,persistent,if_true]
        cases ok with
        | false => rfl
        | true => simp only [if_true,removeBlob_eq,Pending.resume,Pending.op,RaftOp.write,supersededBlob]

end Calls

/-- The call whose operation the writer commits or has committed. -/
def CallPhase.pending? : CallPhase Command Portable → Option (Pending Command Portable)
  | .submitted pending => some pending
  | .answered true pending => some pending
  | _ => none

namespace GroupMember

variable {State : Type} (m : GroupMember State Command Portable)

/-- What a stop leaves of the group: what its last call left, with the call under way if that is committed. -/
def lasting : HardState Command Portable :=
  match m.phase with
  | .answered true pending => pending.op.write m.saved
  | _ => m.saved

def lastingHeld : Option (SnapshotMeta × SnapshotPayload Portable) :=
  match m.phase with
  | .answered true pending => pending.holds m.held
  | _ => m.held

end GroupMember

namespace RaftNode

open RaftTables

variable {State Response : Type} [ReplicatedState State Command Response Portable]
  {n next : RaftNode State Command Portable} {group : Nat} {m : GroupMember State Command Portable}

variable {name : String} {label : NodeLabel State Command Portable}

variable {faults : Nat → AppendFault} {state : State} {snapshotDir : Bool} {batch : List (WriterOp Command Portable)}

def queued (group : Nat) : Option (GroupMember State Command Portable) → List (WriterOp Command Portable)
  | some ⟨_,_,.submitted pending,_⟩ => [.raft group pending.op]
  | _ => []

structure Stored (t : RaftTables Command Portable) (blobs : BlobDir Portable) (group : Nat)
    (m : GroupMember State Command Portable) : Prop where
  holds : t.Holds group m.lasting
  idle : m.phase = .idle → m.saved = m.inner.hard ∧ m.inner.currentSnapshot blobs = .ok m.held
  completes : ∀ pending, m.phase.pending? = some pending → Completes pending m.inner m.held blobs m.saved

structure Persists (n : RaftNode State Command Portable) : Prop where
  stored : ∀ group m, n.members group = some m → Stored n.tables (n.blobs group) group m
  channel : ∀ group, ownOps group n.channel = queued group (n.members group)

variable {t : RaftTables Command Portable}

variable {inner : StoreInner State Command Portable}

variable {held : Option (SnapshotMeta × SnapshotPayload Portable)} {saved : HardState Command Portable}

lemma Stored.carry {u : RaftTables Command Portable} (stored : Stored t blobs group m) (rows : SameRows t u group)
    (same : inner.hard = m.inner.hard) : Stored u blobs group {m with inner := inner} := by
  refine ⟨stored.holds.sameRows rows,fun idle => ?_,fun pending there => (stored.completes pending there).congr same⟩
  obtain ⟨last,current⟩ := stored.idle idle
  refine ⟨last.trans same.symm,?_⟩
  rw [currentSnapshot,same]
  exact current

lemma Stored.resting (holds : t.Holds group inner.hard) (current : inner.currentSnapshot blobs = .ok held) :
    Stored t blobs group (.resting inner held) := ⟨holds,fun _ => ⟨rfl,current⟩,fun _ => nofun⟩

lemma Stored.failed (holds : t.Holds group saved) : Stored t blobs group ⟨inner,held,.failed,saved⟩ :=
  ⟨holds,nofun,fun _ => nofun⟩

private lemma Persists.update (persists : n.Persists)
    {channel : List (WriterOp Command Portable)} (stored : Stored t blobs group m)
    (own : ownOps group channel = queued group (some m)) (rows : ∀ other, other ≠ group → SameRows n.tables t other)
    (others : ∀ other, other ≠ group → ownOps other channel = ownOps other n.channel) :
    Persists ⟨t,update n.blobs group blobs,update n.members group (some m),channel⟩ := by
  refine ⟨fun other m' there => ?_,fun other => ?_⟩
  · by_cases same : other = group
    · subst same
      simp only [update_self,some.injEq] at there ⊢
      exact there ▸ stored
    · simp only [update_of_ne same] at there ⊢
      exact (persists.stored other m' there).carry (rows other same) rfl
  by_cases same : other = group
  · subst same
    simpa only [update_self] using own
  · simpa only [update_of_ne same] using (others other same).trans (persists.channel other)

lemma newPersistent_hard {hard : HardState Command Portable} {store : GroupStore State Command Portable}
    (ok : GroupStore.newPersistent faults state snapshotDir hard blobs = .ok store) :
    store.inner.hard = hard ∧ ∃ held, store.inner.currentSnapshot blobs = .ok held := by
  obtain ⟨_,_,_,snapshot⟩ := hard
  unfold GroupStore.newPersistent at ok
  rcases snapshot with _ | ⟨info,blob⟩
  · cases ok
    exact ⟨rfl,none,rfl⟩
  cases read : GroupStore.recoverBlob blobs blob with
  | error => simp [read] at ok
  | ok data =>
    rcases restored : restoreSnapshot faults state data.state with ⟨state',_ | _⟩
    · simp [read,restored] at ok
    simp only [read,restored,Except.ok.injEq] at ok
    subst ok
    refine ⟨rfl,some (info,data),?_⟩
    simp only [currentSnapshot,StoreInner.hard,HardState.currentSnapshot,read,Except.map]

lemma raftGroupId_sameRows (t : RaftTables Command Portable) (name : String) (group : Nat) :
    SameRows t (t.raftGroupId name).1 group := by
  unfold raftGroupId
  split <;> exact ⟨rfl,rfl,fun _ => rfl,rfl,rfl,rfl⟩

lemma open_opened (ok : n.step (.openGroup name state snapshotDir faults) = some next) :
    ∃ inner held, n.members (n.tables.raftGroupId name).2 = none ∧
      (n.tables.raftGroupId name).1.Holds (n.tables.raftGroupId name).2 inner.hard ∧
      inner.currentSnapshot (n.blobs (n.tables.raftGroupId name).2) = .ok held ∧
      next = {n with tables := (n.tables.raftGroupId name).1,
                     members := update n.members (n.tables.raftGroupId name).2 (some (.resting inner held))} := by
  simp only [step,openGroup] at ok
  generalize n.tables.raftGroupId name = allocated at ok ⊢
  obtain ⟨t,group⟩ := allocated
  split at ok
  · cases ok
  rename_i closed
  cases read : t.recoverRaft (n.blobs group) group with
  | error => simp [read,Except.toOption] at ok
  | ok recovery =>
    cases opened : GroupStore.newPersistent faults state snapshotDir recovery.hard (n.blobs group) with
    | error => simp [read,opened,Except.toOption] at ok
    | ok =>
      obtain ⟨hard,_,current⟩ := newPersistent_hard opened
      simp only [read,opened,Except.toOption,some.injEq] at ok
      refine ⟨_,_,by simpa using closed,?_,?_,ok.symm⟩
      · exact hard ▸ holds_of_recovered read
      · rw [current]
        rfl

lemma open_persists (persists : n.Persists) (ok : n.step (.openGroup name state snapshotDir faults) = some next) :
    next.Persists := by
  obtain ⟨inner,held,absent,holds,current,rfl⟩ := open_opened ok
  have empty : ownOps (n.tables.raftGroupId name).2 n.channel =
      queued (n.tables.raftGroupId name).2 (some (.resting inner held)) := by
    rw [persists.channel,absent]
    rfl
  have updated := persists.update (.resting holds current) empty
    (fun other _ => raftGroupId_sameRows n.tables name other) (fun _ _ => rfl)
  rwa [update_eq_self] at updated

lemma ownOps_append (first second : List (WriterOp Command Portable)) :
    ownOps group (first ++ second) = ownOps group first ++ ownOps group second := filter_append ..

lemma ownOps_own (op : RaftOp Command Portable) : ownOps group [.raft group op] = [.raft group op] := by
  simp [ownOps,group?]

lemma ownOps_other {other : Nat} (apart : group ≠ other) (op : RaftOp Command Portable) :
    ownOps other [.raft group op] = [] := by
  simp [ownOps,group?,apart]

lemma call_persists (persists : n.Persists) (ok : n.step (.call group call) = some next) : next.Persists := by
  simp only [step] at ok
  split at ok
  next inner held saved there =>
    have stored := persists.stored group _ there
    obtain ⟨last,settled⟩ := stored.idle rfl
    obtain rfl : saved = inner.hard := last
    have empty : ownOps group n.channel = [] := by
      rw [persists.channel,there]
      rfl
    split at ok
    · cases ok
      exact persists.update (.failed stored.holds) empty (fun other _ => SameRows.refl _ _) fun _ _ => rfl
    rename_i started
    cases ok
    refine persists.update ⟨stored.holds,nofun,?_⟩ ?_ (fun other _ => SameRows.refl _ _) fun other apart => ?_
    · rintro pending ⟨⟩
      exact startCall_completes settled started
    · rw [ownOps_append,empty,ownOps_own]
      rfl
    · rw [ownOps_append,ownOps_other apart.symm,append_nil]
  · cases ok

lemma apply_persists (persists : n.Persists) {fault : AppendFault} {entry : Entry Command}
    (ok : n.step (.apply group fault entry) = some next) : next.Persists := by
  simp only [step] at ok
  split at ok
  · cases ok
  rename_i m there
  split at ok
  · cases ok
  rename_i store response applied
  cases ok
  have queue : ownOps group n.channel = queued group (some {m with inner := store.inner}) := by
    rw [persists.channel,there]
    cases m with | mk inner held phase => cases phase <;> rfl
  have updated := persists.update ((persists.stored group m there).carry (.refl _ _) (applyEntry_hard applied)) queue
    (fun other _ => SameRows.refl _ _) fun _ _ => rfl
  rwa [update_eq_self] at updated

lemma reply_persists (persists : n.Persists) (ok : n.step (.reply group) = some next) : next.Persists := by
  have empty (there : queued group (n.members group) = []) : ownOps group n.channel = [] :=
    (persists.channel group).trans there
  simp only [step] at ok
  split at ok
  next inner held pending saved there =>
    cases ok
    have stored := persists.stored group _ there
    have completes := stored.completes pending rfl
    refine persists.update (.resting ?_ completes.snapshot) (empty (by rw [there]; rfl))
      (fun other _ => SameRows.refl _ _) fun _ _ => rfl
    rw [completes.hard]
    exact stored.holds
  next inner held pending saved there =>
    cases ok
    have failed : Stored n.tables (n.blobs group) group ⟨inner,held,.failed,saved⟩ :=
      .failed (persists.stored group _ there).holds
    have updated := persists.update failed (empty (by rw [there]; rfl)) (fun other _ => SameRows.refl _ _) fun _ _ => rfl
    rwa [update_eq_self] at updated
  · cases ok

lemma answer_absent (absent : ownOps group batch = []) (ok : Bool) : answer batch ok group m = m := by
  have unanswered : batch.any (fun op => op.group? == some group) = false := by
    simpa [ownOps] using absent
  unfold answer
  rw [unanswered]
  cases m.phase <;> rfl

lemma answer_present {op : WriterOp Command Portable} {rest : List (WriterOp Command Portable)}
    (present : ownOps group batch = op::rest) (ok : Bool)
    {pending : Pending Command Portable} :
    answer batch ok group ⟨inner,held,.submitted pending,saved⟩ = ⟨inner,held,.answered ok pending,saved⟩ := by
  have listed : op ∈ ownOps group batch := present ▸ mem_cons_self
  have answered : batch.any (fun op => op.group? == some group) = true :=
    any_eq_true.mpr ⟨op,(mem_filter.mp listed).1,(mem_filter.mp listed).2⟩
  simp only [answer,answered,if_true]

lemma commit_sameRows (absent : ownOps group batch = []) (ok : Bool) :
    SameRows n.tables (if ok then n.tables.applyBatch batch else n.tables) group := by
  cases ok with
  | false => exact SameRows.refl _ _
  | true =>
    have same := applyBatch_ownOps (SameRows.refl n.tables group) batch
    rw [absent] at same
    exact same

lemma commit_group {left : List (WriterOp Command Portable)} (ok : Bool) (stored : Stored n.tables blobs group m)
    (parts : ownOps group batch ++ ownOps group left = queued group (some m)) :
    Stored (if ok then n.tables.applyBatch batch else n.tables) blobs group (answer batch ok group m) ∧
      ownOps group left = queued group (some (answer batch ok group m)) := by
  by_cases absent : ownOps group batch = []
  · rw [answer_absent absent]
    rw [absent,nil_append] at parts
    exact ⟨stored.carry (commit_sameRows absent ok) rfl,parts⟩
  obtain ⟨_,_,phase⟩ := m
  cases phase with
  | submitted pending =>
    obtain ⟨taken,rest⟩ | ⟨taken,rest⟩ := append_eq_singleton_iff.mp parts
    · exact absurd taken absent
    rw [answer_present taken]
    refine ⟨?_,rest⟩
    cases ok with
    | false => exact ⟨stored.holds,nofun,fun _ => nofun⟩
    | true =>
      have same := applyBatch_ownOps (SameRows.refl n.tables group) batch
      rw [taken] at same
      refine ⟨(stored.holds.applyOp pending.op).sameRows same,nofun,?_⟩
      rintro _ ⟨⟩
      exact stored.completes pending rfl
  | idle | answered | failed => exact absurd (append_eq_nil_iff.mp parts).1 absent

lemma commit_persists (persists : n.Persists) {count : Nat} {ok : Bool}
    (taken : n.step (.commit count ok) = some next) : next.Persists := by
  simp only [step,some.injEq] at taken
  subst taken
  have parts : ∀ group, ownOps group (n.channel.take count) ++ ownOps group (n.channel.drop count) =
      queued group (n.members group) := fun group => by
    rw [← ownOps_append,take_append_drop,persists.channel]
  refine ⟨fun group m there => ?_,fun group => ?_⟩
  · obtain ⟨before,present,rfl⟩ := map_eq_some_iff.mp there
    exact (commit_group ok (persists.stored group before present) (present ▸ parts group)).1
  change ownOps group (n.channel.drop count) =
    queued group ((n.members group).map (answer (n.channel.take count) ok group))
  cases there : n.members group with
  | none =>
    have none_queued := parts group
    rw [there] at none_queued
    exact (append_eq_nil_iff.mp none_queued).2
  | some m => exact (commit_group ok (persists.stored group m there) (there ▸ parts group)).2

lemma step_persists (persists : n.Persists) (ok : n.step label = some next) : next.Persists := by
  cases label with
  | openGroup => exact open_persists persists ok
  | call => exact call_persists persists ok
  | apply => exact apply_persists persists ok
  | message =>
    cases ok
    refine ⟨persists.stored,fun group => ?_⟩
    rw [← persists.channel group]
    simp [ownOps,group?]
  | commit => exact commit_persists persists ok
  | reply => exact reply_persists persists ok
  | stop =>
    cases ok
    refine ⟨fun group m there => ?_,fun _ => rfl⟩
    cases there

def recover (n : RaftNode State Command Portable) (group : Nat) : Except RecoverError (HardState Command Portable) :=
  (n.tables.recoverRaft (n.blobs group) group).map RaftLogRecovery.hard

def concerns (n : RaftNode State Command Portable) (group : Nat) : NodeLabel State Command Portable → Bool
  | .call named _ => named == group
  | .reply named => named == group
  | .commit count ok => ok && (n.channel.take count).any fun op => op.group? == some group
  | _ => false

lemma recover_congr (rows : SameRows n.tables next.tables group) (blobs : next.blobs group = n.blobs group) :
    next.recover group = n.recover group := by
  unfold recover
  rw [blobs]
  exact rows.recovered _

lemma step_recover (ok : n.step label = some next) (foreign : n.concerns group label = false) :
    next.recover group = n.recover group := by
  cases label with
  | openGroup name =>
    obtain ⟨_,_,-,-,-,rfl⟩ := open_opened ok
    exact recover_congr (raftGroupId_sameRows n.tables name group) rfl
  | call named =>
    have apart : group ≠ named := fun same => by simp [concerns,same] at foreign
    simp only [step] at ok
    split at ok
    · split at ok <;> cases ok <;> exact recover_congr (SameRows.refl _ _) (update_of_ne apart _ _)
    · cases ok
  | apply =>
    simp only [step] at ok
    split at ok
    · cases ok
    split at ok
    · cases ok
    · cases ok
      rfl
  | message | stop =>
    cases ok
    rfl
  | commit count committed =>
    cases ok
    refine recover_congr ?_ rfl
    cases committed with
    | false => exact SameRows.refl _ _
    | true =>
      have absent : ownOps group (n.channel.take count) = [] := by
        simpa [concerns,ownOps] using foreign
      exact commit_sameRows absent true
  | reply named =>
    have apart : group ≠ named := fun same => by simp [concerns,same] at foreign
    simp only [step] at ok
    split at ok
    · cases ok
      exact recover_congr (SameRows.refl _ _) (update_of_ne apart _ _)
    · cases ok
      rfl
    · cases ok

end RaftNode

/-- What a state machine promises about snapshots that refer to nothing outside them. -/
structure PlainRestore (State : Type) {Response : Type} [ReplicatedState State Command Response Portable] where
  Plain : Portable → Prop
  Fresh : State → Prop
  restores : ∀ (faults : Nat → AppendFault) (state : State) (portable : Portable), Fresh state → Plain portable →
    ∃ restored, ReplicatedState.restoreSnapshot faults state (some portable) = (restored,.ok ())

namespace RaftNode

open RaftTables

variable {State Response : Type} [ReplicatedState State Command Response Portable]
  {n next : RaftNode State Command Portable} {group : Nat} {m : GroupMember State Command Portable}

variable {faults : Nat → AppendFault} {inner : StoreInner State Command Portable}
variable {held : Option (SnapshotMeta × SnapshotPayload Portable)}

variable {hard : HardState Command Portable}

lemma newPersistent_opens {state : State} (snapshotDir : Bool) (current : hard.currentSnapshot blobs = .ok held)
    (restores : ∀ info data, held = some (info,data) →
      ∃ restored, ReplicatedState.restoreSnapshot faults state data.state = (restored,.ok ())) :
    ∃ store, GroupStore.newPersistent faults state snapshotDir hard blobs = .ok store := by
  rcases there : hard.snapshot with _ | ⟨info,blob⟩
  · simp only [GroupStore.newPersistent,there]
    exact ⟨_,rfl⟩
  simp only [GroupStore.newPersistent,there]
  simp only [HardState.currentSnapshot,there] at current
  cases read : GroupStore.recoverBlob blobs blob with
  | error => simp [read,Except.map] at current
  | ok data =>
    simp only [read,Except.map,Except.ok.injEq] at current
    obtain ⟨_,done⟩ := restores info data current.symm
    simp only [done]
    exact ⟨_,rfl⟩

lemma currentSnapshot_file (current : hard.currentSnapshot blobs = .ok held)
    (info : SnapshotMeta) (path : SnapshotId) (there : hard.snapshot = some (info,.file path)) :
    (blobs path).isSome := by
  simp only [HardState.currentSnapshot,there,GroupStore.recoverBlob] at current
  cases found : blobs path with
  | none => simp [found,Except.map] at current
  | some => rfl

/-- The snapshot that a stop leaves can be read. -/
def Readable (n : RaftNode State Command Portable) (group : Nat) (m : GroupMember State Command Portable) : Prop :=
  m.lasting.currentSnapshot (n.blobs group) = .ok m.lastingHeld

lemma Stored.readable_idle {blobs : BlobDir Portable} (stored : Stored n.tables blobs group m) (idle : m.phase = .idle) :
    m.lasting.currentSnapshot blobs = .ok m.lastingHeld := by
  obtain ⟨last,current⟩ := stored.idle idle
  unfold GroupMember.lasting GroupMember.lastingHeld
  rw [idle]
  exact last ▸ current

lemma reopens (persists : n.Persists) {name : String} (named : n.tables.groups[name]? = some group)
    (member : n.members group = some m) (readable : n.Readable group m) {state : State} (snapshotDir : Bool)
    (restores : ∀ info data, m.lastingHeld = some (info,data) →
      ∃ restored, restoreSnapshot faults state data.state = (restored,.ok ())) :
    ∃ next m', run step n [.stop,.openGroup name state snapshotDir faults] = some next ∧
      next.members group = some m' ∧ m'.inner.hard = m.lasting ∧ m'.held = m.lastingHeld ∧
      m'.inner.currentSnapshot (next.blobs group) = .ok m.lastingHeld := by
  obtain ⟨_,read,same⟩ := (persists.stored group m member).holds.recovered (currentSnapshot_file readable)
  obtain ⟨store,opened⟩ := newPersistent_opens snapshotDir readable restores
  obtain ⟨hard,-⟩ := newPersistent_hard opened
  have again : store.inner.currentSnapshot (n.blobs group) = .ok m.lastingHeld := by
    rw [currentSnapshot,hard]
    exact readable
  have allocated : n.tables.raftGroupId name = (n.tables,group) := by
    unfold raftGroupId
    rw [named]
  have ok : openGroup {n with members := fun _ => none,channel := []} name state snapshotDir faults =
      .ok {n with members := update (fun _ => none) group (some (.resting store.inner m.lastingHeld)),channel := []} := by
    simp only [openGroup,allocated,read,same,opened,again]
    rfl
  refine ⟨{n with members := update (fun _ => none) group (some (.resting store.inner m.lastingHeld)),channel := []},
    .resting store.inner m.lastingHeld,?_,?_,hard,rfl,again⟩
  · simp only [run,step,ok,bind_some]
    rfl
  · simp only [update_self]

/-- A call does not write over the file of the persisted snapshot. -/
def spares (n : RaftNode State Command Portable) : NodeLabel State Command Portable → Bool
  | .call group call => (n.members group).all fun m => match m.inner.snapshot with
    | some (_,.file path) => decide (call.writes m.inner ≠ some path)
    | _ => true
  | _ => true

lemma currentSnapshot_files {blobs' : BlobDir Portable} (same : ∀ info path, hard.snapshot = some (info,.file path) →
    blobs' path = blobs path) : hard.currentSnapshot blobs' = hard.currentSnapshot blobs := by
  unfold HardState.currentSnapshot
  rcases there : hard.snapshot with _ | ⟨info,data | path⟩
  · rfl
  · rfl
  · simp only [GroupStore.recoverBlob,same info path there]

section

variable (readable : ∀ group m, n.members group = some m → n.Readable group m)

include readable

lemma update_readable {files : BlobDir Portable} {m' : GroupMember State Command Portable} {other : Nat}
    (changed : m.lasting.currentSnapshot files = .ok m.lastingHeld) (there : update n.members group (some m) other = some m') :
    m'.lasting.currentSnapshot (update n.blobs group files other) = .ok m'.lastingHeld := by
  by_cases same : other = group
  · subst same
    simp only [update_self,some.injEq] at there ⊢
    exact there ▸ changed
  · simp only [update_of_ne same] at there ⊢
    exact readable other m' there

lemma call_readable (persists : n.Persists) (spared : n.spares (.call group call) = true)
    (ok : n.step (.call group call) = some next) {other : Nat} (there : next.members other = some m) :
    next.Readable other m := by
  simp only [step] at ok
  split at ok
  next inner held saved present =>
    have stored := persists.stored group _ present
    obtain ⟨last,current⟩ := stored.idle rfl
    obtain rfl : saved = inner.hard := last
    have kept {files : BlobDir Portable} {other : StoreInner State Command Portable} {started}
        (begun : startCall inner (n.blobs group) call = (other,files,started)) :
        inner.hard.currentSnapshot files = .ok held := by
      refine (currentSnapshot_files fun info path pointer => startCall_files begun ?_).trans current
      have pointer : inner.snapshot = some (info,.file path) := pointer
      simpa [spares,present,pointer] using spared
    split at ok
    next begun =>
      cases ok
      exact update_readable readable (m := ⟨_,held,.failed,_⟩) (kept begun) there
    next begun =>
      cases ok
      exact update_readable readable (m := ⟨_,held,.submitted _,_⟩) (kept begun) there
  · cases ok

lemma answer_readable {before : GroupMember State Command Portable} (present : n.members group = some before)
    (persists : n.Persists) (ok : Bool) : n.Readable group (answer batch ok group before) := by
  have same := readable group before present
  have stored := persists.stored group before present
  unfold answer
  split
  next pending submitted =>
    obtain ⟨inner,held,phase,saved⟩ := before
    obtain rfl : phase = .submitted pending := submitted
    split
    · cases ok with
      | false => exact same
      | true => exact (stored.completes pending rfl).current
    · exact same
  · exact same

lemma step_readable (persists : n.Persists) {label : NodeLabel State Command Portable} (spared : n.spares label = true)
    (ok : n.step label = some next) (group : Nat) (m : GroupMember State Command Portable)
    (there : next.members group = some m) : next.Readable group m := by
  by_cases idle : m.phase = .idle
  · exact ((step_persists persists ok).stored group m there).readable_idle idle
  cases label with
  | openGroup =>
    obtain ⟨inner,held,-,-,current,rfl⟩ := open_opened ok
    have updated := update_readable readable (m := .resting inner held) current there
    rwa [update_eq_self] at updated
  | call => exact call_readable readable persists spared ok there
  | apply other fault entry =>
    simp only [step] at ok
    split at ok
    · cases ok
    rename_i before present
    split at ok
    · cases ok
    rename_i store _ _
    cases ok
    have updated := update_readable readable (m := {before with inner := store.inner}) (readable _ before present) there
    rwa [update_eq_self] at updated
  | message =>
    cases ok
    exact readable group m there
  | commit =>
    cases ok
    obtain ⟨_,present,rfl⟩ := map_eq_some_iff.mp there
    exact answer_readable readable present persists _
  | reply other =>
    simp only [step] at ok
    split at ok
    next inner held pending saved present =>
      cases ok
      have completes := (persists.stored other _ present).completes pending rfl
      exact update_readable readable (m := .resting _ _) completes.snapshot there
    next inner held pending saved present =>
      cases ok
      have current : saved.currentSnapshot (n.blobs other) = .ok held := readable other _ present
      have updated := update_readable readable (m := ⟨inner,held,.failed,saved⟩) current there
      rwa [update_eq_self] at updated
    · cases ok
  | stop =>
    cases ok
    cases there

end

lemma start_persists : ({} : RaftNode State Command Portable).Persists where
  stored _ _ there := nomatch there
  channel _ := rfl

lemma run_persists {labels : List (NodeLabel State Command Portable)}
    (reached : run step ({} : RaftNode State Command Portable) labels = some n) : n.Persists :=
  run_invariant_all step_persists start_persists reached

lemma run_readable {labels : List (NodeLabel State Command Portable)}
    (spared : Meets step (fun n label => n.spares label = true) ({} : RaftNode State Command Portable) labels)
    (reached : run step ({} : RaftNode State Command Portable) labels = some n) (member : n.members group = some m) :
    n.Readable group m := by
  have both : n.Persists ∧ ∀ group m, n.members group = some m → n.Readable group m := by
    refine run_invariant (P := fun n => n.Persists ∧ ∀ group m, n.members group = some m → n.Readable group m)
      ?_ ⟨start_persists,fun _ _ there => nomatch there⟩ spared reached
    rintro before label after ⟨persists,readable⟩ guard ok
    exact ⟨step_persists persists ok,step_readable readable persists guard ok⟩
  exact both.2 group m member

/-- Whatever the groups of a node do and however the writer batches it, a stop leaves of a group what its memory held when
its last call had returned, or what the call under way leaves if that is committed: opening the group again succeeds, with
this vote, purge marker, log and snapshot. After the last call has returned this holds in every run, before that in those
in which no call writes over the file of the persisted snapshot. No step of other groups changes what would be recovered,
and of a batch only a group's own operations do. -/
theorem recovered_as_held (law : PlainRestore State) (labels : List (NodeLabel State Command Portable))
    (reached : run step ({} : RaftNode State Command Portable) labels = some n) :
    (∀ name group m, n.tables.groups[name]? = some group → n.members group = some m →
      (m.phase = .idle → m.lasting = m.inner.hard ∧ m.inner.currentSnapshot (n.blobs group) = .ok m.lastingHeld) ∧
      (m.phase = .idle ∨ Meets step (fun n label => n.spares label = true) ({} : RaftNode State Command Portable) labels →
        n.recover group = .ok m.lasting ∧ ∀ state snapshotDir faults, law.Fresh state →
          (∀ info data, m.lastingHeld = some (info,data) → ∃ portable, data.state = some portable ∧ law.Plain portable) →
          ∃ next m', run step n [.stop,.openGroup name state snapshotDir faults] = some next ∧
            next.members group = some m' ∧ m'.inner.hard = m.lasting ∧ m'.held = m.lastingHeld ∧
            m'.inner.currentSnapshot (next.blobs group) = .ok m.lastingHeld)) ∧
    (∀ label next group, n.step label = some next → n.concerns group label = false →
      next.recover group = n.recover group) ∧
    (∀ batch group, ({n with tables := n.tables.applyBatch batch}).recover group =
      ({n with tables := n.tables.applyBatch (ownOps group batch)}).recover group) := by
  have persists := run_persists reached
  refine ⟨?_,fun label next group ok foreign => step_recover ok foreign,fun batch group => ?_⟩
  · intro name group m named member
    have stored := persists.stored group m member
    refine ⟨fun idle => ?_,fun settled => ?_⟩
    · have last : m.lasting = m.inner.hard := by
        rw [← (stored.idle idle).1,GroupMember.lasting,idle]
      refine ⟨last,?_⟩
      rw [currentSnapshot,← last]
      exact stored.readable_idle idle
    have readable : n.Readable group m := settled.elim stored.readable_idle fun spared => run_readable spared reached member
    obtain ⟨_,read,same⟩ := stored.holds.recovered (currentSnapshot_file readable)
    constructor
    · unfold recover
      rw [read,← same]
      rfl
    intro state snapshotDir faults fresh plain
    refine reopens persists named member readable snapshotDir fun info data there => ?_
    obtain ⟨portable,bytes,free⟩ := plain info data there
    rw [bytes]
    exact law.restores faults state portable fresh free
  · exact (applyBatch_ownOps (SameRows.refl n.tables group) batch).recovered _

end RaftNode

def Spill.Filling (s : Spill) : Prop :=
  ∀ id, s.current = some id → ∃ segment content, s.segments[id]? = some segment ∧ s.dir.files[id]? = some content ∧
    (segment.live = 0 → segment.size < segmentMaxBytes)

namespace Spill

variable {s : Spill}

lemma write_filling {id : Nat} {segment : Segment} {content : Bytes} (current : s.current = some id)
    (there : s.segments[id]? = some segment) (file : s.dir.files[id]? = some content)
    (room : segment.live = 0 → segment.size < segmentMaxBytes) (fault : AppendFault) (body : Bytes) :
    ∃ t r, s.write fault body = some (t,r) ∧ t.Filling := by
  have written : ∀ (t : Spill) (segment : Segment), t.current = s.current → t.segments[id]? = some segment →
      (∃ content, t.dir.files[id]? = some content) → (segment.live = 0 → segment.size < segmentMaxBytes) → t.Filling := by
    intro t segment same there' file' room' other at_
    obtain ⟨content',file'⟩ := file'
    cases (same.trans current).symm.trans at_
    exact ⟨segment,content',there',file',room'⟩
  unfold write
  simp only [current,there,file]
  cases fault with
  | write => exact ⟨_,_,rfl,written _ segment current.symm there ⟨_,ExtTreeMap.getElem?_insert_self⟩ room⟩
  | none | create =>
    exact ⟨_,_,rfl,written _ _ current.symm ExtTreeMap.getElem?_insert_self ⟨_,ExtTreeMap.getElem?_insert_self⟩ nofun⟩

lemma roll_filling (filling : s.Filling) (kept : s.retire = s) (fault : AppendFault) (body : Bytes) :
    ∃ t r, (match s.roll fault with
      | (s,true) => s.write fault body
      | (s,false) => some (s,none)) = some (t,r) ∧ t.Filling := by
  have started : ∀ u : Spill, u.current = some s.nextSegment → u.segments[s.nextSegment]? = some ⟨0,0⟩ →
      u.dir.files[s.nextSegment]? = some [] → ∃ t r, u.write fault body = some (t,r) ∧ t.Filling :=
    fun u current there file => write_filling current there file (fun _ => by decide) fault body
  unfold roll
  rw [kept]
  cases fault with
  | create => exact ⟨_,_,rfl,filling⟩
  | none | write => exact started _ rfl ExtTreeMap.getElem?_insert_self ExtTreeMap.getElem?_insert_self

lemma append_filling (filling : s.Filling) (fault : AppendFault) (body : Bytes) :
    ∃ t r, s.append fault body = some (t,r) ∧ t.Filling := by
  unfold append needsRoll
  cases current : s.current with
  | none =>
    have kept : s.retire = s := by
      unfold retire
      rw [current]
    exact roll_filling filling kept fault body
  | some id =>
    obtain ⟨segment,content,there,file,room⟩ := filling id current
    simp only [there,map_some]
    by_cases full : segmentMaxBytes ≤ segment.size
    · have used : segment.live ≠ 0 := fun empty => absurd (room empty) (Nat.not_lt.mpr full)
      have kept : s.retire = s := by
        unfold retire isDrained
        simp [current,there,used]
      simp only [full,decide_true]
      exact roll_filling filling kept fault body
    · simp only [full,decide_false]
      exact write_filling current there file room fault body

end Spill

def PortableState.plain (p : PortableState) : Bool := p.messages.all fun m => m.body.ref?.isNone

namespace QueueState

def Fresh (s : QueueState) : Prop := s.messages = ∅ ∧ ∀ q, s.paging = some q → q.spill.Filling

lemma storeBody_filling {s : QueueState} (filling : ∀ q, s.paging = some q → q.spill.Filling)
    (fault : AppendFault) (body : Bytes) :
    ∃ t stored, s.storeBody fault body = some (t,stored) ∧ ∀ q, t.paging = some q → q.spill.Filling := by
  unfold storeBody
  cases paged : s.paging with
  | none => exact ⟨_,_,rfl,filling⟩
  | some paging =>
    dsimp only
    split
    · exact ⟨_,_,rfl,filling⟩
    obtain ⟨spill,r,ok,after⟩ := Spill.append_filling (filling paging paged) fault body
    rw [ok]
    have kept : ∀ q, some (⟨spill,paging.residentMaxBytes⟩ : QueuePaging) = some q → q.spill.Filling := by
      rintro q ⟨⟩
      exact after
    cases r with
    | some | none => exact ⟨_,_,rfl,kept⟩

lemma restoreMessages_plain {spillId : Nat} {faults : Nat → AppendFault} {messages : List PortableMessage}
    (plain : messages.all (fun m => m.body.ref?.isNone) = true) {position : Nat} {s : QueueState}
    (filling : ∀ q, s.paging = some q → q.spill.Filling) :
    ∃ t, s.restoreMessages spillId faults position messages = (t,.ok ()) := by
  induction messages generalizing position s with
  | nil => exact ⟨s,rfl⟩
  | cons m rest ih =>
    obtain ⟨inline,others⟩ := Bool.and_eq_true_iff.mp plain
    obtain ⟨_,_,_,body⟩ := m
    cases body with
    | external => cases inline
    | inline bytes =>
      obtain ⟨_,_,ok,kept⟩ := storeBody_filling filling (faults position) bytes
      simp only [restoreMessages,restoreBody,ok]
      exact ih others kept

lemma restores_plain (faults : Nat → AppendFault) (s : QueueState) (p : PortableState) (fresh : s.Fresh)
    (plain : p.plain = true) : ∃ restored, s.restoreSnapshot faults (some p) = (restored,.ok ()) := by
  have cleared : s.clear.paging = s.paging := by
    unfold clear
    rw [fresh.1]
    rfl
  exact restoreMessages_plain plain fun q there => fresh.2 q (cleared.symm.trans there)

def plainRestore : PlainRestore QueueState where
  Plain := fun p => p.plain = true
  Fresh := Fresh
  restores := restores_plain

lemma paged_fresh (dir : SpillDir) (fresh residentMaxBytes : Nat) :
    (paged (Spill.openPreserving dir fresh) residentMaxBytes).Fresh := by
  refine ⟨rfl,?_⟩
  rintro q ⟨⟩ id ⟨⟩

end QueueState

def CallPhase.refused : CallPhase Command Portable → Bool
  | .answered committed _ => !committed
  | _ => false

namespace RaftNode

def opening (name : String) (id : Nat) : NodeLabel QueueState QueueCommand PortableState :=
  .openGroup name (QueueState.paged (Spill.openDir id) 64) true fun _ => .none

def twoQueues : List (NodeLabel QueueState QueueCommand PortableState) :=
  let entry : Entry QueueCommand := ⟨⟨1,1,0⟩,.normal (.enqueue [1,2,3] 5)⟩
  [opening "queue/a" 7,opening "queue/b" 8,.call 1 (.saveVote ⟨1,1,true⟩),.call 2 (.appendToLog [entry]),.message,
    .commit 3 true,.reply 2,.reply 1,.call 2 (.deleteConflictLogsSince ⟨1,1,0⟩),.call 1 (.appendToLog [entry]),
    .commit 1 true,.commit 1 true,.reply 1,.reply 2,.apply 1 .none entry,.call 1 (.buildSnapshot true),.commit 1 true,
    .reply 1,.call 1 (.purgeLogsUpto ⟨1,1,0⟩),.commit 1 true,.reply 1,.call 1 (.buildSnapshot true),
    .call 2 (.saveVote ⟨2,1,false⟩),.commit 1 false]

/-- The process stops when the second snapshot of a group has not been saved. -/
theorem recovered_as_held_queues : ∃ n m, run step {} twoQueues = some n ∧ n.members 1 = some m ∧
    (m.held.map fun (info,_) => info.snapshotId) = some ⟨some 0,1⟩ ∧ m.saved.vote = some ⟨1,1,true⟩ ∧
    ∃ next m', run step n [.stop,opening "queue/a" 9] = some next ∧ next.members 1 = some m' ∧
      m'.inner.hard = m.saved ∧ m'.held = m.held := by
  have reached : ∃ n, run step {} twoQueues = some n ∧ n.tables.groups["queue/a"]? = some 1 ∧
      (n.members 1).any (fun m => m.phase.refused &&
        decide ((m.held.map fun (info,_) => info.snapshotId) = some ⟨some 0,1⟩) &&
        decide (m.saved.vote = some ⟨1,1,true⟩) && m.held.all fun (_,data) => data.state.any PortableState.plain) = true := by
    apply reaches_of_any
    decide +kernel
  obtain ⟨n,ok,named,checked⟩ := reached
  obtain ⟨m,member,checked⟩ := (Option.any_eq_true ..).mp checked
  simp only [Bool.and_eq_true,decide_eq_true_eq] at checked
  obtain ⟨⟨⟨ended,name⟩,vote⟩,plain⟩ := checked
  obtain ⟨last,held⟩ : m.lasting = m.saved ∧ m.lastingHeld = m.held := by
    obtain ⟨_,_,phase,_⟩ := m
    cases phase with
    | answered committed => cases committed <;> [exact ⟨rfl,rfl⟩; cases ended]
    | _ => cases ended
  have spared : Meets step (fun n label => n.spares label = true) {} twoQueues := by
    apply meets_of_check
    decide +kernel
  obtain ⟨-,reopened⟩ := ((recovered_as_held plainRestore twoQueues ok).1 "queue/a" 1 m named member).2 (.inr spared)
  have readable : ∀ info data, m.lastingHeld = some (info,data) →
      ∃ portable, data.state = some portable ∧ plainRestore.Plain portable := by
    intro info data there
    rw [← held,there] at plain
    exact (Option.any_eq_true ..).mp plain
  obtain ⟨next,m',opened,there,hard,again,-⟩ := reopened (paged (Spill.openDir 9) 64) true (fun _ => .none)
    (paged_fresh {} 9 64) readable
  exact ⟨n,m,ok,member,name,vote,next,m',opened,there,hard.trans last,again.trans held⟩

def votedTwice : List (NodeLabel QueueState QueueCommand PortableState) :=
  [opening "queue/a" 7,.call 1 (.saveVote ⟨1,1,true⟩),.commit 1 true,.reply 1,.call 1 (.saveVote ⟨2,1,false⟩),.commit 1 true]

/-- The second vote is recovered although the call that saves it has not returned. -/
theorem committed_call_recovered : ∃ n m, run step {} votedTwice = some n ∧ n.members 1 = some m ∧
    m.saved.vote = some ⟨1,1,true⟩ ∧ (n.recover 1).toOption.bind HardState.vote = some ⟨2,1,false⟩ := by
  have reached : ∃ n, run step {} votedTwice = some n ∧
      (n.members 1).any (fun m => decide (m.saved.vote = some ⟨1,1,true⟩)) = true ∧
      (n.recover 1).toOption.bind HardState.vote = some ⟨2,1,false⟩ := by
    apply reaches_of_any
    decide +kernel
  obtain ⟨n,ok,saved,recovered⟩ := reached
  obtain ⟨m,member,vote⟩ := (Option.any_eq_true ..).mp saved
  exact ⟨n,m,ok,member,of_decide_eq_true vote,recovered⟩

end RaftNode

end Ramqp
