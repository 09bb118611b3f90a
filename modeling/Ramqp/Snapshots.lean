import Ramqp.Contents

/-! Snapshots of a paged queue: what one carries, for as long as the segments it references are there, and
that restoring it into a store opened over them gives the contents back. -/
namespace Ramqp

open Std List Std.ExtTreeMap Option

def PortableBody.Reads (spill : Spill) : PortableBody → Bytes → Prop
  | .inline bytes,body => bytes = body
  | .external r,body => spill.Holds r body

def PortableState.segments (p : PortableState) : List Nat := p.messages.filterMap fun m => m.body.ref?.map SpillRef.segment

def Contents.Short (c : Contents) : Prop := ∀ id v, c.messages id = some v → v.body.length < 2^32

structure PortableState.Carries (p : PortableState) (spill : Spill) (c : Contents) : Prop where
  next : p.nextMsgId = c.nextMsgId
  listed : ∀ m ∈ p.messages, ∃ body, c.messages m.msgId = some ⟨m.failures,m.enqueuedMs,body⟩ ∧ m.body.Reads spill body
  complete : ∀ id v, c.messages id = some v → ∃ m ∈ p.messages, m.msgId = id
  identity : p.segments ≠ [] → p.spillId = spill.id
  distinct : (p.messages.map PortableMessage.msgId).Nodup

lemma PortableState.mem_segments {p : PortableState} {m : PortableMessage} {r : SpillRef}
    (member : m ∈ p.messages) (external : m.body = .external r) : r.segment ∈ p.segments := by
  refine mem_filterMap.mpr ⟨m,member,?_⟩
  rw [external]
  rfl

lemma PortableState.of_mem_segments {p : PortableState} {id : Nat} (member : id ∈ p.segments) :
    ∃ m ∈ p.messages, ∃ r, m.body = .external r ∧ r.segment = id := by
  obtain ⟨m,listed,same⟩ := mem_filterMap.mp member
  cases external : m.body with
  | inline =>
    rw [external] at same
    cases same
  | external r =>
    rw [external] at same
    exact ⟨m,listed,r,external,some.inj same⟩

namespace PortableState.Carries

variable {p : PortableState} {s t : Spill} {c : Contents}

lemma later (carries : p.Carries s c) (moves : Spill.Later s t) (has : ∀ id ∈ p.segments, t.Has id) : p.Carries t c := by
  refine ⟨carries.next,?_,carries.complete,fun some => (carries.identity some).trans moves.id.symm,carries.distinct⟩
  intro m member
  obtain ⟨body,same,reads⟩ := carries.listed m member
  refine ⟨body,same,?_⟩
  cases external : m.body with
  | inline =>
    rw [external] at reads
    exact reads
  | external r =>
    rw [external] at reads
    exact moves.holds r body reads (has r.segment (PortableState.mem_segments member external))

lemma has (carries : p.Carries s c) {id : Nat} (member : id ∈ p.segments) : s.Has id := by
  obtain ⟨m,listed,_,external,rfl⟩ := PortableState.of_mem_segments member
  obtain ⟨_,-,reads⟩ := carries.listed m listed
  rw [external] at reads
  exact reads.has

lemma reopen (carries : p.Carries s c) (sound : s.Sound) (fresh : Nat) :
    p.Carries (Spill.openPreserving s.dir fresh) c := by
  refine ⟨carries.next,?_,carries.complete,?_,carries.distinct⟩
  · intro m member
    obtain ⟨body,same,reads⟩ := carries.listed m member
    refine ⟨body,same,?_⟩
    cases external : m.body with
    | inline =>
      rw [external] at reads
      exact reads
    | external =>
      rw [external] at reads
      exact reads.reopen fresh sound
  intro some
  rw [carries.identity some]
  change s.id = s.dir.id.getD fresh
  rw [sound.identity]
  rfl

end PortableState.Carries

namespace QueueState

variable {s t : QueueState} {c : Contents}

variable {paging : QueuePaging}

variable {portable : PortableState}

lemma snapshotBytes_fields (ok : s.snapshotBytes = some portable) : portable.nextMsgId = s.nextMsgId ∧
      portable.messages = s.messages.toList.map fun (msgId,m) => ⟨msgId,m.failures,m.enqueuedMs,m.body.portable⟩ := by
  unfold snapshotBytes at ok
  dsimp only at ok
  split at ok
  · cases ok
    exact ⟨rfl,rfl⟩
  · obtain ⟨_,-,rfl⟩ := map_eq_some_iff.mp ok
    exact ⟨rfl,rfl⟩

lemma snapshotBytes_spillId (paged : s.paging = some paging) (ok : s.snapshotBytes = some portable)
    (referenced : portable.segments ≠ []) : portable.spillId = paging.spill.id := by
  unfold snapshotBytes at ok
  dsimp only at ok
  split at ok
  next none =>
    cases ok
    refine absurd ?_ referenced
    refine filterMap_eq_nil_iff.mpr ?_
    intro m member
    have external := all_eq_true.mp none m member
    rw [isNone_iff_eq_none] at external
    rw [external]
    rfl
  · rw [paged] at ok
    cases ok
    rfl

lemma snapshotBytes_carries (represents : s.Represents c) (paged : s.paging = some paging)
    (ok : s.snapshotBytes = some portable) : portable.Carries paging.spill c := by
  have messages := snapshotBytes_fields ok
  refine ⟨messages.1.trans represents.next,?_,?_,snapshotBytes_spillId paged ok,?_⟩
  · rw [messages.2]
    intro found member
    obtain ⟨⟨msgId,m⟩,listed,rfl⟩ := mem_map.mp member
    have there := mem_toList_iff_getElem?_eq_some.mp listed
    obtain ⟨v,same,failures,ms,stores⟩ := represents.present there
    refine ⟨v.body,?_,?_⟩
    · change c.messages msgId = some ⟨m.failures,m.enqueuedMs,v.body⟩
      rw [same,failures,ms]
    change m.body.portable.Reads paging.spill v.body
    cases spilled : m.body with
    | resident =>
      rw [spilled] at stores
      exact stores
    | spilled =>
      rw [spilled] at stores
      obtain ⟨_,paged',held⟩ := stores
      cases paged.symm.trans paged'
      exact held
  · intro id v there
    cases present : s.messages[id]? with
    | none => cases (represents.absent present).symm.trans there
    | some m =>
      refine ⟨⟨id,m.failures,m.enqueuedMs,m.body.portable⟩,?_,rfl⟩
      rw [messages.2]
      exact mem_map.mpr ⟨(id,m),mem_toList_iff_getElem?_eq_some.mpr present,rfl⟩
  rw [messages.2,List.map_map]
  have keys : (s.messages.toList.map Prod.fst).Nodup := by
    rw [map_fst_toList_eq_keys]
    exact nodup_keys
  exact keys

section Restore

variable {base : Nat} {p : PortableState}

variable {m : PortableMessage} {spill : Spill}

variable {q : QueuePaging}

structure Restoring (base : Nat) (p : PortableState) (c : Contents) (s : QueueState) (q : QueuePaging) : Prop where
  paged : s.paging = some q
  next : s.nextMsgId = c.nextMsgId
  sound : q.spill.Sound
  ready : q.spill.Ready
  current : ∀ id, q.spill.current = some id → base ≤ id
  bound : base ≤ q.spill.nextSegment
  carries : p.Carries q.spill c
  recovered : ∀ id ∈ p.segments, id < base
  messages : ∀ (id : Nat) (m : ReplicatedMessage), s.messages[id]? = some m → ∃ v, c.messages id = some v ∧
    m.failures = v.failures ∧ m.enqueuedMs = v.enqueuedMs ∧ s.Stores m.body v.body ∧
    ∀ r, m.body = .spilled r → r.segment < base ∨ 0 < q.spill.liveOf r.segment

section

variable (restoring : Restoring base p c s q)

include restoring

lemma Restoring.insert {stored : StoredBody} {body : Bytes}
    (listed : c.messages m.msgId = some ⟨m.failures,m.enqueuedMs,body⟩) (stores : s.Stores stored body)
    (counted : ∀ r, stored = .spilled r → r.segment < base ∨ 0 < q.spill.liveOf r.segment) :
    Restoring base p c {s with messages := s.messages.insert m.msgId ⟨stored,m.failures,m.enqueuedMs⟩} q := by
  refine {restoring with messages := ?_}
  intro id found there
  change (s.messages.insert m.msgId ⟨stored,m.failures,m.enqueuedMs⟩)[id]? = some found at there
  rcases Entries.of_insert there with ⟨rfl,rfl⟩ | ⟨-,there⟩
  · exact ⟨_,listed,rfl,rfl,stores.withMessages rfl,counted⟩
  · obtain ⟨v,same,failures,ms,stores,live⟩ := restoring.messages id found there
    exact ⟨v,same,failures,ms,stores.withMessages rfl,live⟩

lemma Restoring.kept {t : Spill} {body : Bytes} {r : Option SpillRef}
    (appended : q.spill.Appended t body r) {id : Nat} (has : q.spill.Has id)
    (counted : id < base ∨ 0 < q.spill.liveOf id) : t.Has id := by
  rcases counted with recovered|live
  · refine appended.keeps id has ?_
    intro current
    exact Nat.not_lt_of_le (restoring.current id current) recovered
  refine Spill.Has.of_liveOf ?_
  rw [appended.live]
  exact Nat.lt_of_lt_of_le live (Nat.le_add_right _ _)

lemma Restoring.append {body : Bytes} {r : SpillRef}
    (appended : q.spill.Appended spill body (some r)) (ready : spill.Ready) :
    Restoring base p c {s with paging := some {q with spill := spill}} {q with spill := spill} := by
  have moves := appended.moves.2
  refine ⟨rfl,restoring.next,appended.moves.1,ready,?_,restoring.bound.trans moves.next,?_,restoring.recovered,?_⟩
  · intro id at_
    rcases appended.current id at_ with old|new
    · exact restoring.current id old
    · exact restoring.bound.trans new
  · refine restoring.carries.later moves ?_
    intro id member
    exact restoring.kept appended (restoring.carries.has member) (Or.inl (restoring.recovered id member))
  intro id m there
  obtain ⟨v,same,failures,ms,stores,counted⟩ := restoring.messages id m there
  refine ⟨v,same,failures,ms,?_,?_⟩
  · cases spilled : m.body with
    | resident =>
      rw [spilled] at stores
      exact stores
    | spilled ref =>
      rw [spilled] at stores
      obtain ⟨_,paged,held⟩ := stores
      cases restoring.paged.symm.trans paged
      exact ⟨_,rfl,moves.holds ref v.body held (restoring.kept appended held.has (counted ref spilled))⟩
  intro ref spilled
  rcases counted ref spilled with recovered|live
  · exact Or.inl recovered
  refine Or.inr ?_
  change 0 < spill.liveOf ref.segment
  rw [appended.live]
  exact Nat.lt_of_lt_of_le live (Nat.le_add_right _ _)

lemma Restoring.store {body : Bytes} (short : body.length < 2^32) :
    ∃ t stored q', s.storeBody .none body = some (t,stored) ∧ t.messages = s.messages ∧
      Restoring base p c t q' ∧ t.Stores stored body ∧ ∀ r, stored = .spilled r → 0 < q'.spill.liveOf r.segment := by
  unfold storeBody
  simp only [restoring.paged]
  split
  · refine ⟨_,_,q,rfl,rfl,?_,rfl,nofun⟩
    refine {restoring with messages := ?_}
    intro id m there
    obtain ⟨v,same,failures,ms,stores,live⟩ := restoring.messages id m there
    exact ⟨v,same,failures,ms,stores.withMessages rfl,live⟩
  obtain ⟨spill,r,ok,ready⟩ := Spill.append_ready restoring.sound restoring.ready body
  have appended := Spill.append_appended restoring.sound ok
  rw [ok]
  refine ⟨_,_,{q with spill := spill},rfl,rfl,restoring.append appended ready,⟨_,rfl,appended.holds r rfl short⟩,?_⟩
  rintro ref ⟨⟩
  change 0 < spill.liveOf r.segment
  rw [appended.live]
  simp

lemma Restoring.body (short : c.Short) (member : m ∈ p.messages) :
    ∃ t stored q', s.restoreBody p.spillId .none m.body = .ok (t,stored) ∧ t.messages = s.messages ∧
      (∀ r, m.body = .external r → stored = .spilled r) ∧
      Restoring base p c {t with messages := t.messages.insert m.msgId ⟨stored,m.failures,m.enqueuedMs⟩} q' := by
  obtain ⟨body,listed,reads⟩ := restoring.carries.listed m member
  unfold restoreBody
  cases external : m.body with
  | inline =>
    rw [external] at reads
    cases reads
    obtain ⟨t,stored,q',ok,same,restored,stores,live⟩ := restoring.store (short _ _ listed)
    simp only [ok]
    exact ⟨t,stored,q',rfl,same,nofun,restored.insert listed stores fun r spilled => Or.inr (live r spilled)⟩
  | external r =>
    rw [external] at reads
    have referenced : p.segments ≠ [] := ne_nil_of_mem (PortableState.mem_segments member external)
    simp only [restoring.paged]
    rw [if_neg (not_not.mpr (restoring.carries.identity referenced).symm),reads.read restoring.sound]
    refine ⟨s,.spilled r,q,rfl,rfl,?_,restoring.insert listed ⟨q,restoring.paged,reads⟩ ?_⟩
    · rintro ref ⟨⟩
      rfl
    · rintro ref ⟨⟩
      exact Or.inl (restoring.recovered r.segment (PortableState.mem_segments member external))

lemma Restoring.all (short : c.Short) (position : Nat)
    (rest : List PortableMessage) (members : ∀ m ∈ rest, m ∈ p.messages)
    (distinct : (rest.map PortableMessage.msgId).Nodup) :
    ∃ t q', s.restoreMessages p.spillId (fun _ => .none) position rest = (t,.ok ()) ∧ Restoring base p c t q' ∧
      (∀ id : Nat, id ∉ rest.map PortableMessage.msgId → t.messages[id]? = s.messages[id]?) ∧
      ∀ m ∈ rest, ∃ found, t.messages[m.msgId]? = some found ∧ ∀ r, m.body = .external r → found.body = .spilled r := by
  induction rest generalizing s q position with
  | nil => exact ⟨s,q,rfl,restoring,fun _ _ => rfl,nofun⟩
  | cons m rest ih =>
    rw [map_cons,nodup_cons] at distinct
    obtain ⟨u,stored,_,ok,same,spilled,inserted⟩ := restoring.body short (members m mem_cons_self)
    obtain ⟨t,q'',done,restored,kept,all⟩ := ih inserted (position + 1)
      (fun other member => members other (mem_cons_of_mem _ member)) distinct.2
    refine ⟨t,q'',?_,restored,?_,?_⟩
    · unfold restoreMessages
      rw [ok]
      exact done
    · intro id outside
      rw [map_cons,mem_cons,not_or] at outside
      rw [kept id outside.2]
      change (u.messages.insert m.msgId _)[id]? = _
      rw [Entries.getElem?_insert,if_neg (Ne.symm outside.1),same]
    intro other member
    rcases mem_cons.mp member with here|later
    · subst here
      refine ⟨⟨stored,other.failures,other.enqueuedMs⟩,?_,spilled⟩
      rw [kept other.msgId distinct.1]
      exact getElem?_insert_self
    · exact all other later

lemma Restoring.represents
    (all : ∀ m ∈ p.messages, ∃ found, s.messages[m.msgId]? = some found) : s.Represents c := by
  refine ⟨restoring.next,?_⟩
  intro id
  cases there : s.messages[id]? with
  | none =>
    cases listed : c.messages id with
    | none => trivial
    | some v =>
      obtain ⟨m,member,same⟩ := restoring.carries.complete id v listed
      obtain ⟨_,present⟩ := all m member
      rw [same,there] at present
      cases present
  | some m =>
    obtain ⟨_,same,failures,ms,stores,-⟩ := restoring.messages id m there
    rw [same]
    exact ⟨failures,ms,stores⟩

end

lemma restoreSnapshot_opened (sound : spill.Sound) (closed : spill.current = none) (carries : p.Carries spill c)
    (short : c.Short) (residentMaxBytes : Nat) :
    ∃ t q, (paged spill residentMaxBytes).restoreSnapshot (fun _ => .none) (some p) = (t,.ok ()) ∧
      t.paging = some q ∧ q.spill.Sound ∧ q.spill.Ready ∧ p.Carries q.spill c ∧ t.Represents c ∧
      ∀ id ∈ p.segments, 0 < refsTo t.messages id := by
  have opened : Restoring spill.nextSegment p c
      {(paged spill residentMaxBytes).clear with nextMsgId := p.nextMsgId} ⟨spill,residentMaxBytes⟩ := by
    refine ⟨rfl,carries.next,sound,?_,?_,le_rfl,carries,?_,?_⟩
    · intro id current
      cases closed.symm.trans current
    · intro id current
      cases closed.symm.trans current
    · exact fun id member => sound.bound_of_has (carries.has member)
    intro id m there
    change (∅ : Map Nat ReplicatedMessage)[id]? = some m at there
    rw [getElem?_empty] at there
    cases there
  obtain ⟨t,q,ok,restored,-,all⟩ := opened.all short 0 p.messages (fun m member => member) carries.distinct
  refine ⟨t,q,ok,restored.paged,restored.sound,restored.ready,restored.carries,restored.represents ?_,?_⟩
  · intro m member
    obtain ⟨found,there,-⟩ := all m member
    exact ⟨found,there⟩
  intro id member
  obtain ⟨m,listed,r,external,rfl⟩ := PortableState.of_mem_segments member
  obtain ⟨_,there,spilled⟩ := all m listed
  exact refsTo_pos there (spilled r external)

end Restore

section SetLive

lemma spillLiveCounts_getD (s : QueueState) (id : Nat) : (s.spillLiveCounts[id]?).getD 0 = refsTo s.messages id := by
  have fold : ∀ (ms : List ReplicatedMessage) (counts : Map Nat Nat), ((ms.foldl countSegment counts)[id]?).getD 0 =
      (counts[id]?).getD 0 + ms.countP fun m => m.refersTo id := by
    intro ms
    induction ms with
    | nil => exact fun counts => rfl
    | cons m ms ih =>
      intro counts
      rw [foldl_cons,ih,countP_cons]
      cases spilled : m.body with
      | resident =>
        rw [refersTo_resident spilled]
        unfold countSegment
        rw [spilled]
        rfl
      | spilled =>
        rw [refersTo_spilled spilled]
        unfold countSegment
        rw [spilled]
        simp only [getElem?_alter,LawfulEqCmp.compare_eq_iff_eq,beq_iff_eq]
        split
        next same =>
          subst same
          simp only [getD_some]
          omega
        · simp
  unfold spillLiveCounts refsTo
  rw [fold,getElem?_empty,countP_map]
  exact Nat.zero_add _

lemma refsTo_referenced {messages : Map Nat ReplicatedMessage} {segment : Nat} (pos : 0 < refsTo messages segment) :
    ∃ (id : Nat) (m : ReplicatedMessage) (r : SpillRef), messages[id]? = some m ∧ m.body = .spilled r ∧ r.segment = segment := by
  obtain ⟨⟨id,m⟩,member,refers⟩ := countP_pos_iff.mp pos
  have there := mem_toList_iff_getElem?_eq_some.mp member
  cases spilled : m.body with
  | resident =>
    rw [refersTo_resident spilled] at refers
    cases refers
  | spilled r =>
    rw [refersTo_spilled spilled] at refers
    exact ⟨id,m,r,there,spilled,eq_of_beq refers⟩

lemma setLive_opened {q : QueuePaging} (paged : s.paging = some q) (sound : q.spill.Sound) (represents : s.Represents c) :
    let spill := q.spill.setLive s.spillLiveCounts
    let t := s.withSpill fun spill => spill.setLive s.spillLiveCounts
    t.paging = some {q with spill := spill} ∧ t.Sound ∧ t.Represents c ∧
      ∀ id, q.spill.Has id → 0 < refsTo s.messages id → spill.Has id := by
  have after : (s.withSpill fun spill => spill.setLive s.spillLiveCounts).paging =
      some {q with spill := q.spill.setLive s.spillLiveCounts} := by
    unfold withSpill
    rw [paged]
    rfl
  have moves := Spill.setLive_moves s.spillLiveCounts sound
  have kept : ∀ id, q.spill.Has id → 0 < refsTo s.messages id → (q.spill.setLive s.spillLiveCounts).Has id := by
    intro id has pos
    refine Spill.Has.of_liveOf ?_
    rw [Spill.setLive_liveOf s.spillLiveCounts sound has,spillLiveCounts_getD]
    exact pos
  have held : ∀ id, 0 < refsTo s.messages id → q.spill.Has id := by
    intro id pos
    obtain ⟨_,_,_,there,spilled,rfl⟩ := refsTo_referenced pos
    obtain ⟨_,-,-,-,stores⟩ := represents.present there
    rw [spilled] at stores
    obtain ⟨_,paged',held⟩ := stores
    cases paged.symm.trans paged'
    exact held.has
  refine ⟨after,⟨?_,?_⟩,⟨represents.next,?_⟩,kept⟩
  · intro q' there
    cases after.symm.trans there
    exact moves.1
  · intro q' there id
    cases after.symm.trans there
    change refsTo s.messages id ≤ (q.spill.setLive s.spillLiveCounts).liveOf id
    rcases Nat.eq_zero_or_pos (refsTo s.messages id) with zero|pos
    · rw [zero]
      exact Nat.zero_le _
    · rw [Spill.setLive_liveOf s.spillLiveCounts sound (held id pos),spillLiveCounts_getD]
  intro id
  refine (represents.messages id).later ?_ ?_
  · rw [after,paged]
    exact .paged rfl moves
  intro q' r found there present spilled
  cases after.symm.trans there
  have pos := refsTo_pos present spilled
  exact kept r.segment (held r.segment pos) pos

end SetLive

end QueueState

end Ramqp
