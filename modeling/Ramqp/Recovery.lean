import Ramqp.Semantics.PagedRun
import Ramqp.Snapshots
import Ramqp.Library.Transition

/-! What a stopped queue store recovers. A snapshot references spilled bodies in their segments, but a
segment is deleted with its last live body, whatever a snapshot still references. -/
namespace Ramqp

open Std Option Function Transition Std.ExtTreeMap QueueState Entry GroupStore QueueStore Spill List

def Contents.view (c : Contents) : QueueContents where
  nextMsgId := c.nextMsgId
  messages := fun msgId => (c.messages msgId).map fun m => (m.failures,m.enqueuedMs,some m.body)

def Entry.effect (c : Contents) (entry : Entry QueueCommand) : Contents :=
  match entry.payload with
  | .normal command => (c.apply command).1
  | _ => c

def Entry.short (entry : Entry QueueCommand) : Bool :=
  match entry.payload with
  | .normal (.enqueue body _) => body.length < 2^32
  | _ => true

/-- The segment that loses its last body with a command: the one of the message that is removed, unless bodies are still
appended to it, or the current one if it is full and empty when a body is to be spilled. -/
def QueueState.vacates (s : QueueState) : QueueCommand → Option Nat
  | .enqueue body _ => s.paging.bind fun paging =>
    if s.residentBytes + body.length ≤ paging.residentMaxBytes ∨ paging.spill.needsRoll ≠ some true then none
    else paging.spill.current.filter fun segment => refsTo s.messages segment = 0
  | .settle _ true => none
  | .settle msgId false => s.paging.bind fun paging => (s.messages[msgId]?).bind fun m =>
    (m.body.ref?.map SpillRef.segment).filter fun segment =>
      paging.spill.current ≠ some segment ∧ refsTo s.messages segment = 1

def Entry.vacates (s : QueueState) (entry : Entry QueueCommand) : Option Nat :=
  match entry.payload with
  | .normal command => s.vacates command
  | _ => none

namespace QueueStore

/-- A snapshot is being built, and the segments of the state are pinned for it. -/
def pinning (s : QueueStore) : Bool :=
  match s.build.map Build.stage with
  | some .captured | some (.written _) | some .failed => true
  | _ => false

def deferred (s : QueueStore) : List Nat := (s.inner.state.paging.map fun paging => paging.spill.deferredDelete).getD []

def persistedSegments (s : QueueStore) : List Nat :=
  match s.hard.snapshot with
  | none => []
  | some (_,blob) => match GroupStore.recoverBlob s.blobs blob with
    | .error _ => []
    | .ok data => (data.state.map PortableState.segments).getD []

def buildingSegments (s : QueueStore) : List Nat :=
  match s.build with
  | none => []
  | some ⟨_,_,.failed⟩ => []
  | some build => (build.state.snapshotBytes.map PortableState.segments).getD []

end QueueStore

variable {c : Contents}

lemma QueueState.Represents.contents {s : QueueState} (represents : s.Represents c) (sound : s.Sound) :
    s.contents = c.view := by
  unfold QueueState.contents Contents.view
  rw [represents.next]
  congr 1
  funext msgId
  cases there : s.messages[msgId]? with
  | none =>
    rw [represents.absent there]
    rfl
  | some =>
    obtain ⟨_,same,failures,ms,stores⟩ := represents.present there
    rw [same,map_some,map_some,failures,ms,stores.fetch sound.spill]

variable {entry : Entry QueueCommand}

lemma Contents.Short.effect (short : c.Short) (brief : entry.short = true) : (entry.effect c).Short := by
  unfold Entry.short at brief
  unfold Entry.effect
  cases payload : entry.payload with
  | blank | membership => exact short
  | normal command =>
    rw [payload] at brief
    intro id v there
    cases command with
    | enqueue body enqueuedMs =>
      change update c.messages (c.nextMsgId + 1) (some ⟨0,enqueuedMs,body⟩) id = some v at there
      by_cases here : id = c.nextMsgId + 1
      · subst here
        rw [update_self] at there
        cases there
        exact of_decide_eq_true brief
      · rw [update_of_ne here] at there
        exact short id v there
    | settle msgId =>
      simp only [Contents.apply] at there
      split at there
      · exact short id v there
      rename_i m listed
      dsimp only at there
      by_cases here : id = msgId
      · subst here
        rw [update_self] at there
        split at there
        · cases there
          exact short id m listed
        · cases there
      · rw [update_of_ne here] at there
        exact short id v there

lemma Entry.short_command {command : QueueCommand} (brief : entry.short = true)
    (normal : entry.payload = .normal command) : command.Short := by
  unfold short at brief
  rw [normal] at brief
  cases command with
  | enqueue body =>
    have fits : body.length < 2^32 := of_decide_eq_true brief
    exact fits
  | settle => trivial

namespace PagedRun

variable {hist : Nat → Contents} {r next : PagedRun} {q : QueuePaging}

variable {portable : PortableState} {spill : Spill}

variable (r)

def pledged : List Nat := r.store.persistedSegments ++ r.store.buildingSegments

def applied : Nat := nextIndex r.store.inner.lastApplied

/-- No body is too long to be spilled; a pledged segment loses its last body only while a snapshot is being built; and
when that has been written, no pledged segment waits to be deleted without a body. -/
def Keeps : Label → Bool
  | .append entry => entry.short
  | .apply _ => r.store.pinning ||
    ((r.store.inner.log[r.applied]?).bind (Entry.vacates r.store.inner.state)).all fun segment => !r.pledged.contains segment
  | .finishBuild => r.pledged.all fun segment =>
    decide (0 < refsTo r.store.inner.state.messages segment) || !r.store.deferred.contains segment
  | _ => true

def base : Nat := (r.store.hard.snapshot.map fun (info,_) => nextIndex info.lastLogId).getD 0

variable {r}

structure Building (hist : Nat → Contents) (r : PagedRun) (spill : Spill) (build : Build QueueState PortableState)
    (portable : PortableState) : Prop where
  bytes : build.state.snapshotBytes = some portable
  carries : portable.Carries spill (hist (nextIndex build.info.lastLogId))
  after : r.base ≤ nextIndex build.info.lastLogId
  within : nextIndex build.info.lastLogId ≤ r.applied
  counted : build.info.snapshotId.idx ≤ r.store.inner.snapshotIdx

def Written (blobs : BlobDir PortableState) (info : SnapshotMeta) (blob : SnapshotBlob PortableState)
    (portable : PortableState) : Prop :=
  blob = .file info.snapshotId ∧
  blobs info.snapshotId = some (some ⟨info.lastLogId,info.lastMembership,some portable⟩)

def Staged (blobs : BlobDir PortableState) (info : SnapshotMeta) (portable : PortableState) :
    BuildStage PortableState → Prop
  | .captured => True
  | .written blob => Written blobs info blob portable
  | .unpinned blob => Written blobs info blob portable
  | _ => False

structure Follows (hist : Nat → Contents) (r : PagedRun) (q : QueuePaging) : Prop where
  persist : r.store.inner.persist = true
  dir : r.store.inner.snapshotDir = true
  empty : hist 0 = {}
  short : ∀ n ≤ r.top, (hist n).Short
  log : r.store.inner.log = r.store.hard.log
  entries : ∀ (i : Nat) (e : Entry QueueCommand), r.store.hard.log[i]? = some e → e.logId.index = i ∧ e.short = true
  chain : ∀ i : Nat, r.base ≤ i → i < r.top → ∃ e, r.store.hard.log[i]? = some e ∧ hist (i + 1) = e.effect (hist i)
  paged : r.store.inner.state.paging = some q
  sound : r.store.inner.state.Sound
  represents : r.store.inner.state.Represents (hist r.applied)
  base_le : r.base ≤ r.applied
  applied_le : r.applied ≤ r.top
  last : r.last = (hist r.top).view
  snapshot : ∀ info blob, r.store.hard.snapshot = some (info,blob) → ∃ portable, Written r.store.blobs info blob portable ∧
    portable.Carries q.spill (hist (nextIndex info.lastLogId)) ∧ info.snapshotId.idx ≤ r.store.inner.snapshotIdx
  building : ∀ build, r.store.build = some build → build.stage = .failed ∨
    (∃ blob, build.stage = .saved blob ∧ r.store.hard.snapshot = some (build.info,blob)) ∨
    ∃ portable, r.Building hist q.spill build portable ∧ Staged r.store.blobs build.info portable build.stage ∧
      ∀ info blob, r.store.hard.snapshot = some (info,blob) → info.snapshotId.idx < build.info.snapshotId.idx
  pinned : r.store.pinning = true → 0 < q.spill.pins

variable {blob : SnapshotBlob PortableState}

lemma Written.recovered {blobs : BlobDir PortableState} {info : SnapshotMeta}
    (written : Written blobs info blob portable) : recoverBlob blobs blob =
      .ok ⟨info.lastLogId,info.lastMembership,some portable⟩ := by
  rw [written.1]
  simp only [recoverBlob,written.2]

lemma persistedSegments_written {info : SnapshotMeta}
    (there : r.store.hard.snapshot = some (info,blob)) (written : Written r.store.blobs info blob portable) :
    r.store.persistedSegments = portable.segments := by
  unfold persistedSegments
  simp only [there,written.recovered]
  rfl

lemma Building.segments {build : Build QueueState PortableState} (building : r.Building hist spill build portable)
    (there : r.store.build = some build) (going : build.stage ≠ .failed) :
    r.store.buildingSegments = portable.segments := by
  unfold buildingSegments
  rw [there]
  split
  next none =>
    cases none
  next failed =>
    cases failed
    exact absurd rfl going
  rename_i same
  cases same
  rw [building.bytes]
  rfl

lemma disk_spill (paged : r.store.inner.state.paging = some q) : r.store.disk.spill = q.spill.dir := by
  unfold disk
  rw [paged]
  rfl

section Spilled

variable {q' : QueuePaging}

lemma Follows.snapshots_later (follows : Follows hist r q) (moves : Spill.Later q.spill q'.spill)
    (kept : ∀ id ∈ r.pledged, q.spill.Has id → q'.spill.Has id) :
    (∀ info blob, r.store.hard.snapshot = some (info,blob) → ∃ portable, Written r.store.blobs info blob portable ∧
      portable.Carries q'.spill (hist (nextIndex info.lastLogId)) ∧ info.snapshotId.idx ≤ r.store.inner.snapshotIdx) ∧
    ∀ build, r.store.build = some build → build.stage = .failed ∨
      (∃ blob, build.stage = .saved blob ∧ r.store.hard.snapshot = some (build.info,blob)) ∨
      ∃ portable, r.Building hist q'.spill build portable ∧ Staged r.store.blobs build.info portable build.stage ∧
        ∀ info blob, r.store.hard.snapshot = some (info,blob) → info.snapshotId.idx < build.info.snapshotId.idx := by
  constructor
  · intro info blob there
    obtain ⟨portable,written,carries,idx⟩ := follows.snapshot info blob there
    refine ⟨portable,written,carries.later moves ?_,idx⟩
    intro id member
    refine kept id (mem_append_left _ ?_) (carries.has member)
    rw [persistedSegments_written there written]
    exact member
  intro build there
  rcases follows.building build there with failed|saved|⟨portable,building,staged,newer⟩
  · exact Or.inl failed
  · exact Or.inr (Or.inl saved)
  refine Or.inr (Or.inr ⟨portable,?_,staged,newer⟩)
  refine {building with carries := building.carries.later moves ?_}
  intro id member
  refine kept id (mem_append_right _ ?_) (building.carries.has member)
  rw [building.segments there]
  · exact member
  intro failed
  rw [failed] at staged
  exact staged

end Spilled

variable {s : QueueStore} {fault : AppendFault}

section Apply

variable {p : QueuePaging}

/-- What an operation on a spill keeps: the number of pins, and each segment that is pinned or not named. -/
def Spares (p : QueuePaging) (after : Option QueuePaging) (named : Option Nat) : Prop :=
  ∃ q, after = some q ∧ q.spill.pins = p.spill.pins ∧
    ∀ id, p.spill.Has id → (0 < p.spill.pins ∨ named ≠ some id) → q.spill.Has id

lemma Spares.refl (named : Option Nat) : Spares p (some p) named := ⟨p,rfl,rfl,fun _ has _ => has⟩

lemma enqueue_spares {state t : QueueState} {response : QueueResponse} {body : Bytes} {enqueuedMs : Nat}
    (sound : state.Sound) (paged : state.paging = some p)
    (ok : state.apply fault (.enqueue body enqueuedMs) = some (t,response)) :
    Spares p t.paging (state.vacates (.enqueue body enqueuedMs)) := by
  simp only [QueueState.apply,storeBody,paged] at ok
  split_ifs at ok with fits
  · cases ok
    exact .refl _
  cases appended : p.spill.append fault body with
  | none => simp [appended] at ok
  | some result =>
    obtain ⟨spill,ref⟩ := result
    have after : t.paging = some {p with spill} := by
      cases ref with
      | none | some =>
        simp only [appended] at ok
        cases ok
        rfl
    refine ⟨_,after,append_pins appended,fun id has kept => ?_⟩
    have moved := append_appended (sound.spill p paged) appended
    by_cases current : p.spill.current = some id
    · rcases kept with pinned | other
      · exact append_pinned pinned has appended
      by_cases full : p.spill.needsRoll = some true
      · refine .of_liveOf (Nat.lt_of_lt_of_le ?_ ((sound.counted p paged id).trans (moved.live id ▸ Nat.le_add_right ..)))
        have here : state.vacates (.enqueue body enqueuedMs) =
            (some id).filter fun segment => refsTo state.messages segment = 0 := by
          simp [QueueState.vacates,paged,fits,full,current]
        rw [here] at other
        by_contra empty
        exact other (by simp [Nat.eq_zero_of_not_pos empty])
      · rcases append_cases appended with ⟨-,written⟩ | ⟨rolls,-⟩
        · exact write_has has written
        · exact absurd rolls full
    · exact moved.keeps id has current

lemma remove_spares {state t : QueueState} {response : QueueResponse} {msgId : Nat} (sound : state.Sound)
    (paged : state.paging = some p) (ok : state.apply fault (.settle msgId false) = some (t,response)) :
    Spares p t.paging (state.vacates (.settle msgId false)) := by
  simp only [QueueState.apply] at ok
  split at ok
  next m there =>
    cases ok
    cases body : m.body with
    | resident =>
      change Spares p state.paging _
      rw [paged]
      exact .refl _
    | spilled ref =>
      refine ⟨{p with spill := p.spill.release ref},?_,(release_kept ref).1,fun id has kept => ?_⟩
      · change state.paging.map _ = _
        rw [paged]
        rfl
      by_cases elsewhere : ref.segment = id ∧ p.spill.current ≠ some id
      · obtain ⟨rfl,other⟩ := elsewhere
        rcases kept with pinned | unnamed
        · exact release_has has (.inl pinned)
        have here : refsTo state.messages ref.segment ≠ 1 := by
          intro one
          refine unnamed ?_
          simp [QueueState.vacates,paged,there,body,StoredBody.ref?,StoredBody.portable,PortableBody.ref?,one,other]
        have refs := refsTo_pos there body
        have live := sound.counted p paged ref.segment
        refine .of_liveOf ?_
        rw [release_liveOf,if_pos rfl]
        omega
      · refine release_has has (.inr ?_)
        by_cases current : p.spill.current = some id
        · exact .inl current
        · exact .inr fun same => elsewhere ⟨same,current⟩
  · cases ok
    rw [paged]
    exact .refl _

lemma applyNext_spares {t : QueueStore} (sound : s.inner.state.Sound) (paged : s.inner.state.paging = some p)
    (ok : applyNext fault s = some t) : Spares p t.inner.state.paging
      ((s.inner.log[nextIndex s.inner.lastApplied]?).bind (Entry.vacates s.inner.state)) := by
  unfold applyNext at ok
  split at ok
  · cases ok
  rename_i entry there
  obtain ⟨⟨_,response⟩,result,rfl⟩ := map_eq_some_iff.mp ok
  rw [there,bind_some]
  unfold applyEntry at result
  unfold Entry.vacates
  dsimp only at result
  cases payload : entry.payload with
  | blank | membership =>
    rw [payload] at result
    cases result
    exact paged ▸ .refl _
  | normal command =>
    simp only [payload] at result ⊢
    split at result
    · cases result
    rename_i state _ applied
    cases result
    have applied : s.inner.state.apply fault command = some (state,response) := applied
    cases command with
    | enqueue => exact enqueue_spares sound paged applied
    | settle msgId requeue =>
      cases requeue with
      | false => exact remove_spares sound paged applied
      | true =>
        simp only [QueueState.apply] at applied
        split at applied <;> cases applied <;> exact paged ▸ .refl _

structure Advanced (s t : QueueStore) (entry : Entry QueueCommand) (c : Contents) : Prop where
  lastApplied : t.inner.lastApplied = some entry.logId
  log : t.inner.log = s.inner.log
  persist : t.inner.persist = s.inner.persist
  dir : t.inner.snapshotDir = s.inner.snapshotDir
  idx : t.inner.snapshotIdx = s.inner.snapshotIdx
  hard : t.hard = s.hard
  blobs : t.blobs = s.blobs
  build : t.build = s.build
  applied : s.inner.state.Applied t.inner.state (entry.effect c)

lemma applyEntry_advanced {t : QueueStore}
    {response : QueueResponse} (sound : s.inner.state.Sound) (represents : s.inner.state.Represents c)
    (brief : entry.short = true) (ok : s.applyEntry fault entry = some (t,response)) : Advanced s t entry c := by
  unfold applyEntry at ok
  dsimp only at ok
  split at ok
  next blank =>
    cases ok
    refine ⟨rfl,rfl,rfl,rfl,rfl,rfl,rfl,rfl,?_⟩
    unfold effect
    rw [blank]
    exact ⟨sound,represents,QueueState.Moves.refl sound⟩
  next normal =>
    split at ok
    · cases ok
    rename_i result
    cases ok
    refine ⟨rfl,rfl,rfl,rfl,rfl,rfl,rfl,rfl,?_⟩
    unfold effect
    rw [normal]
    exact (apply_applied sound represents (short_command brief normal) result).1
  next membership =>
    cases ok
    refine ⟨rfl,rfl,rfl,rfl,rfl,rfl,rfl,rfl,?_⟩
    unfold effect
    rw [membership]
    exact ⟨sound,represents,QueueState.Moves.refl sound⟩

lemma applyNext_advanced {t : QueueStore} (sound : s.inner.state.Sound) (represents : s.inner.state.Represents c)
    (entries : ∀ (i : Nat) (e : Entry QueueCommand), s.inner.log[i]? = some e → e.logId.index = i ∧ e.short = true)
    (ok : applyNext fault s = some t) : ∃ entry, s.inner.log[nextIndex s.inner.lastApplied]? = some entry ∧
      nextIndex t.inner.lastApplied = nextIndex s.inner.lastApplied + 1 ∧ Advanced s t entry c := by
  unfold applyNext at ok
  split at ok
  · cases ok
  rename_i entry there
  obtain ⟨⟨_,_⟩,result,rfl⟩ := map_eq_some_iff.mp ok
  obtain ⟨index,brief⟩ := entries _ entry there
  have advanced := applyEntry_advanced sound represents brief result
  refine ⟨entry,there,?_,advanced⟩
  rw [advanced.lastApplied]
  exact congrArg (· + 1) index

end Apply

section Steps

lemma no_snapshot {P : SnapshotMeta → SnapshotBlob PortableState → Prop} : ∀ info blob,
    (none : Option (SnapshotMeta × SnapshotBlob PortableState)) = some (info,blob) → P info blob := by
  rintro info blob ⟨⟩

lemma no_build {P : Build QueueState PortableState → Prop} :
    ∀ build, (none : Option (Build QueueState PortableState)) = some build → P build := by
  rintro build ⟨⟩

lemma append_follows (follows : Follows hist r q)
    (brief : entry.short = true) (ok : r.step (.append entry) = some next) : Follows hist next q := by
  simp only [step] at ok
  split at ok
  next above =>
    cases ok
    have appended : (r.store.appendToLog true [entry]).1 = {r.store with
        hard := {r.store.hard with log := r.store.hard.log.insert entry.logId.index entry},
        inner := {r.store.inner with log := r.store.inner.log.insert entry.logId.index entry}} := by
      unfold appendToLog sink
      rw [if_pos follows.persist]
      rfl
    rw [appended]
    refine {follows with log := ?_,entries := ?_,chain := ?_,building := ?_}
    · rw [follows.log]
    · intro i e there
      rw [Entries.getElem?_insert] at there
      split at there
      next same =>
        cases there
        exact ⟨same,brief⟩
      · exact follows.entries i e there
    · intro i low high
      obtain ⟨e,there,effect⟩ := follows.chain i low high
      refine ⟨e,?_,effect⟩
      rw [Entries.getElem?_insert,if_neg (by have : i < r.top := high; omega)]
      exact there
    intro build there
    rcases follows.building build there with failed|saved|⟨portable,building,staged,newer⟩
    · exact Or.inl failed
    · exact Or.inr (Or.inl saved)
    · refine Or.inr (Or.inr ⟨portable,?_,staged,newer⟩)
      exact {building with}
  · cases ok

private def extended (hist : Nat → Contents) (top : Nat) (entry : Entry QueueCommand) : Nat → Contents :=
  update hist (top + 1) (entry.effect (hist top))

lemma extended_of_le {top n : Nat} (entry : Entry QueueCommand) (le : n ≤ top) :
    extended hist top entry n = hist n := update_of_ne (by omega) _ _

section

variable (follows : Follows hist r q)

include follows

lemma advanced_follows {hist' : Nat → Contents}
    (agree : ∀ n ≤ r.top, hist' n = hist n) (advanced : Advanced r.store next.store entry (hist r.applied))
    (index : next.applied = r.applied + 1) (effect : hist' (r.applied + 1) = entry.effect (hist r.applied))
    (within : r.applied + 1 ≤ next.top) (chain : ∀ i : Nat, r.base ≤ i → i < next.top →
      ∃ e, r.store.hard.log[i]? = some e ∧ hist' (i + 1) = e.effect (hist' i))
    (short : ∀ n ≤ next.top, (hist' n).Short) (last : next.last = (hist' next.top).view) {named : Option Nat}
    (spares : Spares q next.store.inner.state.paging named)
    (kept : 0 < q.spill.pins ∨ ∀ segment ∈ r.pledged, named ≠ some segment) : ∃ q', Follows hist' next q' := by
  have base : next.base = r.base := by
    unfold base
    rw [advanced.hard]
  obtain ⟨q',paged,pins,has⟩ := spares
  have moves : Spill.Moves q.spill q'.spill := by
    have moves := advanced.applied.moves
    rw [follows.paged,paged] at moves
    cases moves with
    | paged budget moves => exact moves
  obtain ⟨snapshot,building⟩ := follows.snapshots_later moves.2
    (fun id member there => has id there (kept.imp_right fun apart => apart id member))
  have pinned : next.store.pinning = true → 0 < q'.spill.pins := by
    unfold pinning
    rw [advanced.build,pins]
    exact follows.pinned
  refine ⟨q',advanced.persist.trans follows.persist,advanced.dir.trans follows.dir,?_,short,?_,?_,?_,paged,
    advanced.applied.sound,?_,?_,?_,last,?_,?_,pinned⟩
  · rw [agree 0 (Nat.zero_le _)]
    exact follows.empty
  · rw [advanced.log,advanced.hard]
    exact follows.log
  · rw [advanced.hard]
    exact follows.entries
  · rw [advanced.hard,base]
    exact chain
  · rw [index,effect]
    exact advanced.applied.represents
  · rw [base,index]
    exact follows.base_le.trans (Nat.le_succ _)
  · rw [index]
    exact within
  · rw [advanced.hard,advanced.blobs,advanced.idx]
    intro info blob there
    obtain ⟨portable,written,carries,idx⟩ := snapshot info blob there
    refine ⟨portable,written,?_,idx⟩
    have covered : nextIndex info.lastLogId ≤ r.top := by
      refine Nat.le_trans ?_ (follows.base_le.trans follows.applied_le)
      unfold PagedRun.base
      rw [there]
      exact le_rfl
    rw [agree _ covered]
    exact carries
  rw [advanced.hard,advanced.blobs,advanced.build]
  intro build there
  rcases building build there with failed|saved|⟨portable,built,staged,newer⟩
  · exact Or.inl failed
  · exact Or.inr (Or.inl saved)
  refine Or.inr (Or.inr ⟨portable,⟨built.bytes,?_,base ▸ built.after,?_,?_⟩,staged,newer⟩)
  · rw [agree _ (built.within.trans follows.applied_le)]
    exact built.carries
  · rw [index]
    exact built.within.trans (Nat.le_succ _)
  · rw [advanced.idx]
    exact built.counted

lemma apply_follows (kept : r.Keeps (.apply fault) = true) (ok : r.step (.apply fault) = some next) :
    ∃ hist' q', Follows hist' next q' := by
  obtain ⟨store,taken,rfl⟩ := map_eq_some_iff.mp ok
  have entries := follows.entries
  rw [← follows.log] at entries
  obtain ⟨entry,there,index,advanced⟩ := applyNext_advanced follows.sound follows.represents entries taken
  have brief := (entries _ entry there).2
  rw [follows.log] at there
  change r.store.hard.log[r.applied]? = some entry at there
  change nextIndex store.inner.lastApplied = r.applied + 1 at index
  have spares := applyNext_spares follows.sound follows.paged taken
  have safe : 0 < q.spill.pins ∨ ∀ segment ∈ r.pledged,
      (r.store.inner.log[r.applied]?).bind (Entry.vacates r.store.inner.state) ≠ some segment := by
    refine ((Bool.or_eq_true _ _).mp kept).imp follows.pinned fun apart segment member same => ?_
    rw [same] at apart
    simp [member] at apart
  unfold noted
  split
  next above =>
    have newest : r.applied = r.top := by
      have := follows.applied_le
      omega
    rw [newest] at index there advanced
    refine ⟨extended hist r.top entry,?_⟩
    have effect : extended hist r.top entry (r.top + 1) = entry.effect (hist r.top) := update_self _ _ _
    have agree : ∀ n ≤ r.top, extended hist r.top entry n = hist n := fun n le => extended_of_le entry le
    have applied := advanced.applied
    refine advanced_follows follows agree (newest ▸ advanced) (newest ▸ index) (newest ▸ effect) ?_ ?_ ?_ ?_ spares safe
    · change r.applied + 1 ≤ nextIndex store.inner.lastApplied
      omega
    · intro i low high
      have high : i < nextIndex store.inner.lastApplied := high
      rcases Nat.lt_or_ge i r.top with old|new
      · obtain ⟨e,listed,same⟩ := follows.chain i low old
        refine ⟨e,listed,?_⟩
        rw [agree i (Nat.le_of_lt old),agree (i + 1) old]
        exact same
      have here : i = r.top := by omega
      subst here
      exact ⟨entry,there,effect.trans (by rw [agree r.top le_rfl])⟩
    · intro n le
      have le : n ≤ nextIndex store.inner.lastApplied := le
      rcases Nat.lt_or_ge r.top n with new|old
      · have here : n = r.top + 1 := by omega
        rw [here,effect]
        exact (follows.short r.top le_rfl).effect brief
      · rw [agree n old]
        exact follows.short n old
    · rw [index,effect]
      exact applied.represents.contents applied.sound
  next below =>
    have low : r.applied < r.top := by omega
    obtain ⟨_,listed,same⟩ := follows.chain r.applied follows.base_le low
    cases listed.symm.trans there
    exact ⟨hist,advanced_follows follows (fun _ _ => rfl) advanced index same low follows.chain
      follows.short follows.last spares safe⟩

lemma beginBuild_follows (ok : r.step .beginBuild = some next) :
    ∃ q', Follows hist next q' := by
  obtain ⟨store,taken,rfl⟩ := map_eq_some_iff.mp ok
  unfold beginBuild at taken
  split at taken
  · cases taken
  rename_i idle
  cases taken
  have spillSound := follows.sound.spill q follows.paged
  have moves := pin_moves spillSound
  obtain ⟨paged,applied⟩ := withSpill_applied (f := pin) follows.paged follows.sound
    follows.represents moves (fun _ => rfl)
  refine ⟨{q with spill := q.spill.pin},{follows with
    paged,sound := applied.sound,represents := applied.represents,snapshot := ?_,building := ?_,
    pinned := fun _ => Nat.succ_pos _}⟩
  · intro info blob there
    obtain ⟨portable,written,carries,idx⟩ := follows.snapshot info blob there
    exact ⟨portable,written,carries.later moves.2 fun id member => carries.has member,idx.trans (Nat.le_succ _)⟩
  rintro build ⟨⟩
  have bytes : ∃ portable, (r.store.inner.state.withSpill pin).snapshotBytes = some portable := by
    unfold snapshotBytes
    dsimp only
    split
    · exact ⟨_,rfl⟩
    · rw [paged]
      exact ⟨_,rfl⟩
  obtain ⟨portable,bytes⟩ := bytes
  refine Or.inr (Or.inr ⟨portable,⟨bytes,?_,follows.base_le,le_rfl,le_rfl⟩,trivial,?_⟩)
  · exact snapshotBytes_carries applied.represents paged bytes
  intro info blob there
  obtain ⟨-,-,-,idx⟩ := follows.snapshot info blob there
  exact Nat.lt_succ_of_le idx

lemma writeBuild_follows {written : Bool}
    (ok : r.step (.writeBuild written) = some next) : Follows hist next q := by
  obtain ⟨store,taken,rfl⟩ := map_eq_some_iff.mp ok
  unfold writeBuild at taken
  split at taken
  next info state there =>
    -- The new file is not the persisted snapshot's, whose id has a smaller counter.
    rcases follows.building _ there with failed|⟨blob,saved,-⟩|⟨portable,building,-,newer⟩
    · cases failed
    · cases saved
    have elsewhere : ∀ (data : Option (SnapshotPayload PortableState)) (other : SnapshotMeta)
        (blob : SnapshotBlob PortableState), r.store.hard.snapshot = some (other,blob) →
        update r.store.blobs info.snapshotId (some data) other.snapshotId = r.store.blobs other.snapshotId := by
      intro data other blob persisted
      refine update_of_ne ?_ _ _
      intro same
      exact absurd (newer other blob persisted) (by rw [same]; exact Nat.lt_irrefl _)
    have kept : ∀ (data : Option (SnapshotPayload PortableState)) (other : SnapshotMeta)
        (blob : SnapshotBlob PortableState), r.store.hard.snapshot = some (other,blob) → ∃ portable,
        Written (update r.store.blobs info.snapshotId (some data)) other blob portable ∧
        portable.Carries q.spill (hist (nextIndex other.lastLogId)) ∧
        other.snapshotId.idx ≤ r.store.inner.snapshotIdx := by
      intro data other blob persisted
      obtain ⟨portable,written,carries,idx⟩ := follows.snapshot other blob persisted
      exact ⟨portable,⟨written.1,(elsewhere data other blob persisted).trans written.2⟩,carries,idx⟩
    have bytes : ReplicatedState.snapshotBytes state = some portable := building.bytes
    have pinned : 0 < q.spill.pins := follows.pinned (by simp [pinning,there])
    split at taken
    · rw [bytes] at taken
      simp only [follows.dir,if_true] at taken
      cases taken
      refine {follows with snapshot := kept _,building := ?_,pinned := fun _ => pinned}
      rintro build ⟨⟩
      refine Or.inr (Or.inr ⟨portable,?_,⟨rfl,update_self _ _ _⟩,newer⟩)
      exact {building with}
    simp only [follows.dir,if_true] at taken
    cases taken
    refine {follows with snapshot := kept _,building := ?_,pinned := fun _ => pinned}
    rintro build ⟨⟩
    exact Or.inl rfl
  · cases taken

lemma unpinned_follows {build : Option (Build QueueState PortableState)} (kept : r.Keeps .finishBuild = true)
    (from_ : ∀ after, build = some after → ∃ before, r.store.build = some before ∧ after.info = before.info ∧
      after.state = before.state ∧ ∃ blob, before.stage = .written blob ∧ after.stage = .unpinned blob) :
    ∃ q', Follows hist {r with store := {r.store with
      inner := {r.store.inner with state := r.store.inner.state.finishSnapshot},build := build}} q' := by
  have spillSound := follows.sound.spill q follows.paged
  have moves := unpin_moves spillSound
  obtain ⟨paged,applied⟩ := withSpill_applied (f := unpin) follows.paged follows.sound
    follows.represents moves (unpin_liveOf spillSound)
  have has : ∀ id ∈ r.pledged, q.spill.Has id → q.spill.unpin.Has id := by
    intro id member there
    have safe := all_eq_true.mp kept id member
    simp only [QueueStore.deferred,follows.paged,map_some,getD_some,Bool.or_eq_true,decide_eq_true_eq,
      Bool.not_eq_true',List.contains_eq_mem,decide_eq_false_iff_not] at safe
    exact unpin_has spillSound there (safe.imp_left (·.trans_le (follows.sound.counted q follows.paged id)))
  have pinned : pinning {r.store with build} = false := by
    cases build with
    | none => rfl
    | some after =>
      obtain ⟨-,-,-,-,_,-,stage⟩ := from_ after rfl
      simp [pinning,stage]
  refine ⟨{q with spill := q.spill.unpin},{follows with
    paged,sound := applied.sound,represents := applied.represents,snapshot := ?_,building := ?_,
    pinned := fun pinning => nomatch pinned.symm.trans pinning}⟩
  · intro info blob there
    have there : r.store.hard.snapshot = some (info,blob) := there
    obtain ⟨portable,written,carries,idx⟩ := follows.snapshot info blob there
    refine ⟨portable,written,carries.later moves.2 ?_,idx⟩
    intro id member
    refine has id (mem_append_left _ ?_) (carries.has member)
    rw [persistedSegments_written there written]
    exact member
  intro after there
  obtain ⟨before,going,info,state,_,stage,stage'⟩ := from_ after there
  rcases follows.building before going with failed|⟨blob',saved,-⟩|⟨portable,building,staged,newer⟩
  · cases stage.symm.trans failed
  · cases stage.symm.trans saved
  rw [stage] at staged
  have bytes : after.state.snapshotBytes = some portable := by rw [state,building.bytes]
  refine Or.inr (Or.inr ⟨portable,⟨bytes,?_,?_,?_,?_⟩,?_,?_⟩)
  · rw [info]
    refine building.carries.later moves.2 ?_
    intro id member
    refine has id (mem_append_right _ ?_) (building.carries.has member)
    rw [building.segments going (by rw [stage]; exact nofun)]
    exact member
  · rw [info]
    exact building.after
  · rw [info]
    exact building.within
  · rw [info]
    exact building.counted
  · rw [stage',info]
    exact staged
  · rw [info]
    exact newer

lemma finishBuild_follows (kept : r.Keeps .finishBuild = true) (ok : r.step .finishBuild = some next) :
    ∃ q', Follows hist next q' := by
  obtain ⟨_,taken,rfl⟩ := map_eq_some_iff.mp ok
  unfold finishBuild at taken
  split at taken
  next blob there =>
    cases taken
    refine unpinned_follows follows kept ?_
    rintro after ⟨⟩
    exact ⟨_,there,rfl,rfl,blob,rfl,rfl⟩
  · cases taken
    exact unpinned_follows follows kept no_build
  · cases taken

lemma saveBuild_follows {saved : Bool}
    (ok : r.step (.saveBuild saved) = some next) : Follows hist next q := by
  obtain ⟨_,taken,rfl⟩ := map_eq_some_iff.mp ok
  unfold saveBuild sink at taken
  split at taken
  next blob there =>
    rw [if_pos follows.persist] at taken
    rcases follows.building _ there with failed|⟨blob',saved,-⟩|⟨portable,building,staged,newer⟩
    · cases failed
    · cases saved
    cases saved with
    | false =>
      cases taken
      exact {follows with building := no_build,pinned := nofun}
    | true =>
      cases taken
      have later := building.after
      refine {follows with chain := ?_,base_le := ?_,snapshot := ?_,building := ?_,pinned := nofun}
      · intro i low high
        exact follows.chain i (later.trans low) high
      · exact building.within
      · rintro other blob' ⟨⟩
        exact ⟨portable,staged,building.carries,building.counted⟩
      · rintro build ⟨⟩
        exact Or.inr (Or.inl ⟨blob,rfl,rfl⟩)
  · cases taken

lemma publishBuild_follows (ok : r.step .publishBuild = some next) :
    Follows hist next q := by
  obtain ⟨store,taken,rfl⟩ := map_eq_some_iff.mp ok
  unfold publishBuild at taken
  split at taken
  next info state blob there =>
    cases taken
    rcases follows.building _ there with failed|⟨blob',saved,persisted⟩|⟨portable,building,staged,newer⟩
    · cases failed
    · cases saved
      obtain ⟨portable,written,carries,idx⟩ := follows.snapshot info blob persisted
      obtain ⟨blobs,removed,kept⟩ : ∃ blobs, r.store.removeBlob (r.store.supersededBlob blob) = {r.store with
          blobs := blobs} ∧ blobs info.snapshotId = r.store.blobs info.snapshotId := by
        unfold supersededBlob
        rw [written.1]
        split
        next same =>
          cases same
          split
          · exact ⟨_,rfl,rfl⟩
          next apart =>
            exact ⟨_,rfl,update_of_ne apart _ _⟩
        next impossible =>
          cases impossible
        · exact ⟨_,rfl,rfl⟩
      rw [removed]
      refine {follows with snapshot := ?_,building := no_build,pinned := nofun}
      intro other blob' there'
      cases persisted.symm.trans there'
      exact ⟨portable,⟨written.1,kept.trans written.2⟩,carries,idx⟩
    · exact staged.elim
  · cases taken

lemma purge_follows {upto : LogId} (ok : r.step (.purge upto) = some next) :
    Follows hist next q := by
  simp only [step] at ok
  split at ok
  next info blob there =>
    split at ok
    next covered =>
      cases ok
      have base : r.base = nextIndex info.lastLogId := by
        unfold base
        rw [there]
        rfl
      have purged : (r.store.purgeLogsUpto true upto).1 = {r.store with
          hard := r.store.hard.purgeUpto upto,
          inner := {r.store.inner with log := (r.store.inner.log.filter fun index _ => upto.index < index),
                                       lastPurged := some upto}} := by
        unfold purgeLogsUpto sink
        rw [if_pos follows.persist]
        rfl
      have looked : ∀ (i : Nat) (e : Entry QueueCommand), (r.store.hard.log.filter fun index _ =>
          decide (upto.index < index))[i]? = some e ↔ r.store.hard.log[i]? = some e ∧ upto.index < i := by
        intro i e
        rw [← ExtTreeMap.mem_toList_iff_getElem?_eq_some,ExtTreeMap.toList_filter,List.mem_filter,
          mem_toList_iff_getElem?_eq_some]
        exact and_congr_right fun _ => decide_eq_true_iff
      rw [purged]
      refine {follows with log := ?_,entries := ?_,chain := ?_,building := ?_}
      · change r.store.inner.log.filter _ = r.store.hard.log.filter _
        rw [follows.log]
      · intro i e present
        exact follows.entries i e ((looked i e).mp present).1
      · intro i low high
        have low : r.base ≤ i := low
        obtain ⟨e,listed,effect⟩ := follows.chain i low high
        exact ⟨e,(looked i e).mpr ⟨listed,by omega⟩,effect⟩
      intro build going
      rcases follows.building build going with failed|saved|⟨portable,building,staged,newer⟩
      · exact Or.inl failed
      · exact Or.inr (Or.inl saved)
      · refine Or.inr (Or.inr ⟨portable,?_,staged,newer⟩)
        exact {building with}
    · cases ok
  · cases ok

end

end Steps

section Reopen

lemma paged_represents (spill : Spill) (residentBytesMax : Nat) :
    (paged spill residentBytesMax).Represents {} := by
  refine ⟨rfl,?_⟩
  intro id
  trivial

lemma setLive_state_ready {state : QueueState} (paged : state.paging = some q)
    (ready : q.spill.Ready) (counts : Map Nat Nat) : (state.withSpill fun spill => spill.setLive counts).Ready := by
  intro q' after
  unfold withSpill at after
  rw [paged] at after
  cases after
  exact setLive_ready ready counts

structure OnDisk (hist : Nat → Contents) (r : PagedRun) (spill : Spill) : Prop where
  empty : hist 0 = {}
  short : ∀ n ≤ r.top, (hist n).Short
  entries : ∀ (i : Nat) (e : Entry QueueCommand), r.store.hard.log[i]? = some e → e.logId.index = i ∧ e.short = true
  chain : ∀ i : Nat, r.base ≤ i → i < r.top → ∃ e, r.store.hard.log[i]? = some e ∧ hist (i + 1) = e.effect (hist i)
  base_le : r.base ≤ r.top
  last : r.last = (hist r.top).view
  sound : spill.Sound
  dir : r.store.disk.spill = spill.dir
  snapshot : ∀ info blob, r.store.hard.snapshot = some (info,blob) → ∃ portable,
    Written r.store.blobs info blob portable ∧ portable.Carries spill (hist (nextIndex info.lastLogId))

lemma Follows.onDisk (follows : Follows hist r q) : OnDisk hist r q.spill := by
  refine ⟨follows.empty,follows.short,follows.entries,follows.chain,follows.base_le.trans follows.applied_le,
    follows.last,follows.sound.spill q follows.paged,disk_spill follows.paged,?_⟩
  intro info blob there
  obtain ⟨portable,written,carries,-⟩ := follows.snapshot info blob there
  exact ⟨portable,written,carries⟩

lemma OnDisk.reopen (disk : OnDisk hist r spill) (fresh residentBytesMax : Nat) :
    ∃ store q', reopen fresh residentBytesMax r.store.disk = .ok store ∧
      Follows hist {r with store := store} q' ∧ store.inner.state.Ready := by
  have dir := disk.dir
  unfold PagedRun.reopen pagedQueueStore GroupStore.newPersistent
  cases there : r.store.hard.snapshot with
  | none =>
    have absent : r.store.disk.hard.snapshot = none := there
    simp only [absent,isSome_none,Bool.false_eq_true,if_false]
    obtain ⟨paged,sound,represents,-⟩ := setLive_opened rfl (openPreserving_sound {} fresh)
      (paged_represents (openDir fresh) residentBytesMax)
    have base : r.base = 0 := by
      unfold base
      rw [there]
      rfl
    refine ⟨_,_,rfl,⟨rfl,rfl,disk.empty,disk.short,rfl,disk.entries,disk.chain,paged,sound,?_,?_,?_,
      disk.last,?_,no_build,nofun⟩,?_⟩
    · change QueueState.Represents _ (hist 0)
      rw [disk.empty]
      exact represents
    · exact Nat.le_of_eq base
    · exact Nat.zero_le _
    · intro info blob persisted
      cases there.symm.trans persisted
    · refine setLive_state_ready rfl ?_ _
      intro id current
      cases current
  | some snapshot =>
    obtain ⟨info,blob⟩ := snapshot
    have persisted : r.store.disk.hard.snapshot = some (info,blob) := there
    obtain ⟨portable,written,carries⟩ := disk.snapshot info blob there
    have recovered : recoverBlob r.store.disk.blobs blob = _ := written.recovered
    simp only [persisted,isSome_some,if_true,recovered,dir]
    have base : r.base = nextIndex info.lastLogId := by
      unfold base
      rw [there]
      rfl
    have covered : nextIndex info.lastLogId ≤ r.top := base ▸ disk.base_le
    have reopened := carries.reopen disk.sound fresh
    obtain ⟨t,_,ok,paged,sound,ready,carried,represents,referenced⟩ := restoreSnapshot_opened
      (openPreserving_sound spill.dir fresh) rfl reopened (disk.short _ covered) residentBytesMax
    have restored : ReplicatedState.restoreSnapshot (fun _ => AppendFault.none)
        (QueueState.paged (Spill.openPreserving spill.dir fresh) residentBytesMax) (some portable) = (t,.ok ()) := ok
    rw [restored]
    obtain ⟨paged',sound',represents',kept⟩ := setLive_opened paged sound represents
    refine ⟨_,_,rfl,⟨rfl,rfl,disk.empty,disk.short,rfl,disk.entries,disk.chain,paged',sound',represents',?_,?_,
      disk.last,?_,no_build,nofun⟩,?_⟩
    · exact Nat.le_of_eq base
    · exact covered
    · intro other blob' there'
      cases there.symm.trans there'
      refine ⟨portable,written,carried.later (setLive_moves _ sound).2 ?_,le_rfl⟩
      intro id member
      exact kept id (carried.has member) (referenced id member)
    · exact setLive_state_ready paged ready _

end Reopen

section Replay

lemma replay_represents (count : Nat) {n : Nat} (sound : s.inner.state.Sound)
    (ready : s.inner.state.Ready) (represents : s.inner.state.Represents (hist n))
    (index : nextIndex s.inner.lastApplied = n)
    (entries : ∀ (i : Nat) (e : Entry QueueCommand), s.inner.log[i]? = some e → e.logId.index = i ∧ e.short = true)
    (chain : ∀ i : Nat, n ≤ i → i < n + count → ∃ e, s.inner.log[i]? = some e ∧ hist (i + 1) = e.effect (hist i)) :
    ∃ t, replay count s = some t ∧ t.inner.state.Sound ∧ t.inner.state.Represents (hist (n + count)) := by
  induction count generalizing s n with
  | zero => exact ⟨s,rfl,sound,represents⟩
  | succ count ih =>
    obtain ⟨e,there,effect⟩ := chain n le_rfl (by omega)
    obtain ⟨t,taken,after⟩ : ∃ t, applyNext .none s = some t ∧ t.inner.state.Ready := by
      unfold applyNext
      rw [index,there]
      unfold applyEntry
      dsimp only
      cases e.payload with
      | blank | membership => exact ⟨_,rfl,ready⟩
      | normal command =>
        obtain ⟨state,response,ok,after⟩ := apply_ready sound ready command
        have applied : ReplicatedState.apply AppendFault.none s.inner.state command = some (state,response) := ok
        simp only [applied]
        exact ⟨_,rfl,after⟩
    obtain ⟨e',there',index',advanced⟩ := applyNext_advanced sound represents entries taken
    rw [index] at there' index'
    cases there.symm.trans there'
    have next := advanced.applied.represents
    rw [← effect] at next
    obtain ⟨final,done,finalSound,finalRepresents⟩ := ih advanced.applied.sound after next index'
      (advanced.log ▸ entries) (by
        intro i low high
        rw [advanced.log]
        exact chain i (by omega) (by omega))
    refine ⟨final,?_,finalSound,?_⟩
    · unfold replay
      rw [taken]
      exact done
    · rw [Nat.add_assoc,Nat.add_comm 1 count] at finalRepresents
      exact finalRepresents

end Replay

/-- Stopping now and opening the store again restores the contents it had after the last entry that was
applied, with every body. -/
def Recoverable (r : PagedRun) : Prop :=
  ∀ fresh residentBytesMax, ∃ store final, reopen fresh residentBytesMax r.store.disk = .ok store ∧
    replay (r.top - nextIndex store.inner.lastApplied) store = some final ∧ final.inner.state.contents = r.last ∧
    ∀ msgId failures enqueuedMs body, r.last.messages msgId = some (failures,enqueuedMs,body) → body.isSome = true

lemma OnDisk.recoverable (disk : OnDisk hist r spill) : r.Recoverable := by
  intro fresh residentBytesMax
  obtain ⟨store,q',ok,opened,ready⟩ := disk.reopen fresh residentBytesMax
  have within : nextIndex store.inner.lastApplied ≤ r.top := opened.applied_le
  have entries := opened.entries
  rw [← opened.log] at entries
  obtain ⟨final,done,sound,represents⟩ := replay_represents (r.top - nextIndex store.inner.lastApplied) opened.sound ready
    opened.represents rfl entries (by
      intro i low high
      have low : nextIndex store.inner.lastApplied ≤ i := low
      have high : i < nextIndex store.inner.lastApplied + (r.top - nextIndex store.inner.lastApplied) := high
      have below : i < r.top := by omega
      obtain ⟨e,there,effect⟩ := opened.chain i (opened.base_le.trans low) below
      exact ⟨e,opened.log ▸ there,effect⟩)
  refine ⟨store,final,ok,done,?_,?_⟩
  · rw [disk.last,represents.contents sound]
    change (hist (nextIndex store.inner.lastApplied + (r.top - nextIndex store.inner.lastApplied))).view = _
    rw [Nat.add_sub_cancel' within]
  intro msgId failures enqueuedMs body there
  rw [disk.last] at there
  obtain ⟨_,-,same⟩ := map_eq_some_iff.mp there
  cases same
  rfl

lemma follows_step {label : Label} (follows : Follows hist r q) (kept : r.Keeps label = true)
    (ok : r.step label = some next) : ∃ hist' q', Follows hist' next q' := by
  cases label with
  | append => exact ⟨hist,q,append_follows follows kept ok⟩
  | apply => exact apply_follows follows kept ok
  | beginBuild => exact ⟨hist,beginBuild_follows follows ok⟩
  | writeBuild => exact ⟨hist,q,writeBuild_follows follows ok⟩
  | finishBuild => exact ⟨hist,finishBuild_follows follows kept ok⟩
  | saveBuild => exact ⟨hist,q,saveBuild_follows follows ok⟩
  | publishBuild => exact ⟨hist,q,publishBuild_follows follows ok⟩
  | purge => exact ⟨hist,q,purge_follows follows ok⟩
  | restart fresh residentBytesMax =>
    obtain ⟨_,q',reopened,opened,-⟩ := follows.onDisk.reopen fresh residentBytesMax
    simp only [step,reopened] at ok
    cases ok
    exact ⟨hist,q',opened⟩

section

variable {fresh residentBytesMax : Nat} {store : QueueStore} (opened : reopen fresh residentBytesMax {} = .ok store)

include opened

lemma opened_follows : ∃ q', Follows (fun _ => {}) {store := store} q' := by
  let state := paged (openDir fresh) residentBytesMax
  have spillSound : (openDir fresh).Sound := openPreserving_sound {} fresh
  have sound : state.Sound := by
    constructor
    · rintro q ⟨⟩
      exact spillSound
    · rintro q ⟨⟩ id
      exact Nat.zero_le _
  have nothing : ∀ (i : Nat) (e : Entry QueueCommand), (∅ : Map Nat (Entry QueueCommand))[i]? = some e → False := by
    intro i e there
    cases there
  have initial : Follows (fun _ => {}) {store := {inner := {state := state,snapshotDir := true,persist := true}}}
      ⟨openDir fresh,residentBytesMax⟩ :=
    ⟨rfl,rfl,rfl,fun _ _ => nofun,rfl,fun i e there => (nothing i e there).elim,fun i _ high => absurd high (Nat.not_lt_zero i),
      rfl,sound,paged_represents _ _,le_rfl,le_rfl,rfl,no_snapshot,no_build,nofun⟩
  obtain ⟨_,q',ok,follows,-⟩ := initial.onDisk.reopen fresh residentBytesMax
  cases opened.symm.trans ok
  exact ⟨q',follows⟩

lemma run_follows (labels : List Label)
    (kept : Transition.Meets step (fun r label => r.Keeps label = true) {store := store} labels)
    (ok : run step {store := store} labels = some r) : ∃ hist q, Follows hist r q := by
  obtain ⟨q,initial⟩ := opened_follows opened
  refine run_invariant (P := fun r => ∃ hist q, Follows hist r q) ?_ ⟨_,q,initial⟩ kept ok
  rintro state label next ⟨hist,q,follows⟩ guard taken
  exact follows_step follows guard taken

end

/-- At whatever point a run stops whose steps keep the segments that a snapshot references, reopening the store restores
the contents. -/
theorem kept_segments_recoverable {fresh residentBytesMax : Nat} {store : QueueStore}
    (opened : reopen fresh residentBytesMax {} = .ok store) (labels : List Label)
    (kept : Transition.Meets step (fun r label => r.Keeps label = true) {store := store} labels)
    (ok : run step {store := store} labels = some r) : r.Recoverable := by
  obtain ⟨_,_,follows⟩ := run_follows opened labels kept ok
  exact follows.onDisk.recoverable

def openedQueue : QueueStore :=
  match reopen 7 0 {} with
  | .ok store => store
  | .error _ => {inner := {state := {}}}

def enqueueEntry (index : Nat) (body : Bytes) : Entry QueueCommand := ⟨⟨1,1,index⟩,.normal (.enqueue body 5)⟩

def removeEntry (index msgId : Nat) : Entry QueueCommand := ⟨⟨1,1,index⟩,.normal (.settle msgId false)⟩

def snapshotTaken : List Label :=
  [.append (enqueueEntry 0 [1,2,3]),.apply .none,.beginBuild,.writeBuild true,.finishBuild,.saveBuild true,
    .publishBuild,.purge ⟨1,1,0⟩]

def settledLater : List Label :=
  snapshotTaken ++ [.restart 8 0,.append (enqueueEntry 1 [4]),.apply .none,.append (removeEntry 2 2),.apply .none,
    .beginBuild,.append (enqueueEntry 3 [5]),.apply .none,.writeBuild true,.finishBuild,.saveBuild true,.publishBuild]

theorem kept_segments_recoverable_settled : reopen 7 0 {} = .ok openedQueue ∧
    ∃ r, run step {store := openedQueue} settledLater = some r ∧ r.top = 4 ∧ r.Recoverable := by
  refine ⟨rfl,reaches_and (by decide +kernel) fun r ok _ => ?_⟩
  refine kept_segments_recoverable (show reopen 7 0 {} = .ok openedQueue from rfl) settledLater ?_ ok
  apply meets_of_check
  decide +kernel

def settledAtOnce : List Label := snapshotTaken ++ [.restart 8 0,.append (removeEntry 1 1),.apply .none]

theorem settled_segment_lost : reopen 7 0 {} = .ok openedQueue ∧
    ∃ r, run step {store := openedQueue} settledAtOnce = some r ∧
      (reopen 9 0 r.store.disk).toOption.isNone = true ∧ ¬ r.Recoverable := by
  refine ⟨rfl,reaches_and (by decide +kernel) fun r _ lost recoverable => ?_⟩
  obtain ⟨_,_,reopened,-⟩ := recoverable 9 0
  rw [reopened] at lost
  cases lost

end PagedRun

end Ramqp
