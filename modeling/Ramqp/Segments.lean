import Ramqp.Semantics.Paging
import Ramqp.Library.Entries

/-! What the operations of a spill store keep: a body that was appended stays readable for as long as its
segment is there, and the live counts change by the references added and released. -/
namespace Ramqp.Spill

open List Option Std.ExtTreeMap Entries

variable {s t u : Spill}

variable {r : Option SpillRef} {size : Nat}

variable {body content : Bytes} {id : Nat} {segment : Segment} {fault : AppendFault}

structure Sound (s : Spill) : Prop where
  file : ∀ (id : Nat) (segment : Segment), s.segments[id]? = some segment →
    ∃ content : Bytes, s.dir.files[id]? = some content ∧ segment.size ≤ content.length
  owned : ∀ (id : Nat) (content : Bytes), s.dir.files[id]? = some content → ∃ segment, s.segments[id]? = some segment
  bound : ∀ (id : Nat) (segment : Segment), s.segments[id]? = some segment → id < s.nextSegment
  current : ∀ id, s.current = some id → id < s.nextSegment
  identity : s.dir.id = some s.id

structure Holds (s : Spill) (r : SpillRef) (body : Bytes) : Prop where
  within : ∃ segment : Segment, s.segments[r.segment]? = some segment ∧ r.offset + r.len.toNat ≤ segment.size
  bytes : ∃ content : Bytes, s.dir.files[r.segment]? = some content ∧ (content.drop r.offset).take r.len.toNat = body

def Has (s : Spill) (id : Nat) : Prop := (s.segments[id]?).isSome = true

instance (id : Nat) : Decidable (s.Has id) := inferInstanceAs (Decidable (_ = true))

def liveOf (s : Spill) (id : Nat) : Nat := ((s.segments[id]?).map Segment.live).getD 0

/-- The store after some operations: bodies are lost with their segment only, and segment ids are not
used again. -/
structure Later (s t : Spill) : Prop where
  id : t.id = s.id
  next : s.nextSegment ≤ t.nextSegment
  old : ∀ id, id < s.nextSegment → t.Has id → s.Has id
  holds : ∀ r body, s.Holds r body → t.Has r.segment → t.Holds r body

lemma Holds.has {r : SpillRef} (held : s.Holds r body) : s.Has r.segment := by
  obtain ⟨_,there,-⟩ := held.within
  unfold Has
  rw [there]
  rfl

lemma Has.of_liveOf (live : 0 < s.liveOf id) : s.Has id := by
  unfold liveOf at live
  unfold Has
  cases there : s.segments[id]? with
  | none => simp [there] at live
  | some => rfl

lemma Sound.bound_of_has (sound : s.Sound) (has : s.Has id) : id < s.nextSegment := by
  obtain ⟨segment,there⟩ := isSome_iff_exists.mp has
  exact sound.bound id segment there

lemma Has.insert (has : s.Has id) (other : Nat) (segment : Segment) :
    ((s.segments.insert other segment)[id]?).isSome = true := by
  rw [Entries.getElem?_insert]
  split
  · rfl
  · exact has

lemma Holds.read (sound : s.Sound) {r : SpillRef} (held : s.Holds r body) : s.read r = some body := by
  obtain ⟨segment,there,within⟩ := held.within
  obtain ⟨_,file,bytes⟩ := held.bytes
  obtain ⟨_,same,size⟩ := sound.file r.segment segment there
  cases file.symm.trans same
  have contained : s.segments.contains r.segment = true := by
    rw [contains_eq_isSome_getElem?,there]
    rfl
  unfold Spill.read readExact
  rw [if_pos contained,file,bind_some,if_pos (within.trans size),bytes]

lemma Later.refl : Later s s := ⟨rfl,le_rfl,fun _ _ has => has,fun _ _ held _ => held⟩

lemma Later.trans (sound : s.Sound) (first : Later s t) (second : Later t u) : Later s u := by
  refine ⟨second.id.trans first.id,first.next.trans second.next,?_,?_⟩
  · intro id old has
    exact first.old id old (second.old id (Nat.lt_of_lt_of_le old first.next) has)
  intro r body held has
  have old := Nat.lt_of_lt_of_le (sound.bound_of_has held.has) first.next
  exact second.holds r body (first.holds r body held (second.old r.segment old has)) has

lemma deleteSegment_getElem? (id other : Nat) :
    (s.deleteSegment id).segments[other]? = if id = other then none else s.segments[other]? :=
  getElem?_erase s.segments id other

lemma deleteSegment_file :
    (s.deleteSegment id).dir.files[other]? = if id = other then none else s.dir.files[other]? :=
  getElem?_erase s.dir.files id other

lemma deleteSegment_sound (sound : s.Sound) : (s.deleteSegment id).Sound := by
  refine ⟨?_,?_,?_,sound.current,sound.identity⟩
  · intro other segment there
    rw [deleteSegment_getElem?] at there
    split at there
    · cases there
    rename_i apart
    rw [deleteSegment_file,if_neg apart]
    exact sound.file other segment there
  · intro other content there
    rw [deleteSegment_file] at there
    split at there
    · cases there
    rename_i apart
    rw [deleteSegment_getElem?,if_neg apart]
    exact sound.owned other content there
  intro other segment there
  rw [deleteSegment_getElem?] at there
  split at there
  · cases there
  · exact sound.bound other segment there

lemma deleteSegment_has : (s.deleteSegment id).Has other ↔ id ≠ other ∧ s.Has other := by
  unfold Has
  rw [deleteSegment_getElem?]
  split
  next same =>
    simp [same]
  next apart =>
    simp [apart]

lemma deleteSegment_later : Later s (s.deleteSegment id) := by
  refine ⟨rfl,le_rfl,fun other _ has => (deleteSegment_has.mp has).2,?_⟩
  intro r body held has
  have apart := (deleteSegment_has.mp has).1
  constructor
  · rw [deleteSegment_getElem?,if_neg apart]
    exact held.within
  · rw [deleteSegment_file,if_neg apart]
    exact held.bytes

lemma deleteSegment_liveOf (drained : s.liveOf id = 0) (other : Nat) :
    (s.deleteSegment id).liveOf other = s.liveOf other := by
  unfold liveOf at drained ⊢
  rw [deleteSegment_getElem?]
  split
  next same =>
    subst same
    exact drained.symm
  · rfl

lemma liveOf_of_isDrained (drained : s.isDrained id = true) : s.liveOf id = 0 := by
  unfold isDrained at drained
  unfold liveOf
  cases there : s.segments[id]? with
  | none => rfl
  | some =>
    rw [there] at drained
    exact eq_of_beq drained

def Moves (s t : Spill) : Prop := t.Sound ∧ Later s t

section

variable (sound : s.Sound)

include sound

lemma Moves.refl : Moves s s := ⟨sound,Later.refl⟩

lemma Moves.trans (first : Moves s t) (second : Moves t u) : Moves s u :=
  ⟨second.1,first.2.trans sound second.2⟩

lemma deleteSegment_moves (id : Nat) : Moves s (s.deleteSegment id) :=
  ⟨deleteSegment_sound sound,deleteSegment_later⟩

lemma relive_moves (there : s.segments[id]? = some segment) (live : Nat) :
    Moves s {s with segments := s.segments.insert id {segment with live := live}} := by
  have looked : ∀ (other : Nat) (now : Segment), (s.segments.insert id {segment with live := live})[other]? = some now →
      ∃ before : Segment, s.segments[other]? = some before ∧ now.size = before.size := by
    intro other now found
    rcases of_insert found with ⟨rfl,rfl⟩ | ⟨-,found⟩
    · exact ⟨segment,there,rfl⟩
    · exact ⟨now,found,rfl⟩
  have present : ∀ (other : Nat) (before : Segment), s.segments[other]? = some before →
      ∃ now : Segment, (s.segments.insert id {segment with live := live})[other]? = some now ∧ now.size = before.size := by
    intro other before found
    rw [Entries.getElem?_insert]
    split
    next same =>
      subst same
      cases there.symm.trans found
      exact ⟨_,rfl,rfl⟩
    · exact ⟨before,found,rfl⟩
  refine ⟨⟨?_,?_,?_,sound.current,sound.identity⟩,rfl,le_rfl,?_,?_⟩
  · intro other now found
    obtain ⟨before,old,size⟩ := looked other now found
    rw [size]
    exact sound.file other before old
  · intro other content file
    obtain ⟨before,old⟩ := sound.owned other content file
    obtain ⟨now,found,-⟩ := present other before old
    exact ⟨now,found⟩
  · intro other now found
    obtain ⟨before,old,-⟩ := looked other now found
    exact sound.bound other before old
  · intro other _ has
    obtain ⟨now,found⟩ := isSome_iff_exists.mp has
    obtain ⟨before,old,-⟩ := looked other now found
    exact isSome_iff_exists.mpr ⟨before,old⟩
  intro r body held _
  refine ⟨?_,held.bytes⟩
  obtain ⟨before,old,within⟩ := held.within
  obtain ⟨now,found,size⟩ := present r.segment before old
  exact ⟨now,found,size ▸ within⟩

lemma repin_moves (pins : Nat) (deferred : List Nat) :
    Moves s {s with pins := pins,deferredDelete := deferred} :=
  ⟨{sound with},rfl,le_rfl,fun _ _ has => has,
    fun _ _ held _ => ⟨held.within,held.bytes⟩⟩

lemma reclaim_moves (id : Nat) : Moves s (s.reclaim id) := by
  unfold reclaim
  split
  · exact repin_moves sound s.pins _
  · exact deleteSegment_moves sound id

end

lemma reclaim_liveOf (drained : s.liveOf id = 0) : (s.reclaim id).liveOf other = s.liveOf other := by
  unfold reclaim
  split
  · rfl
  · exact deleteSegment_liveOf drained other

lemma retire_moves (sound : s.Sound) : Moves s s.retire := by
  unfold retire
  split
  · split
    · exact reclaim_moves sound _
    · exact Moves.refl sound
  · exact Moves.refl sound

lemma retire_liveOf (s : Spill) (other : Nat) : s.retire.liveOf other = s.liveOf other := by
  unfold retire
  split
  · split
    next drained =>
      exact reclaim_liveOf (liveOf_of_isDrained drained)
    · rfl
  · rfl

lemma create_moves (sound : s.Sound) :
    Moves s {s with dir := {s.dir with files := s.dir.files.insert s.nextSegment []},
                    segments := s.segments.insert s.nextSegment ⟨0,0⟩, nextSegment := s.nextSegment + 1,
                    current := some s.nextSegment} := by
  have apart : ∀ (id : Nat) (segment : Segment), s.segments[id]? = some segment → s.nextSegment ≠ id := by
    intro id segment there same
    exact Nat.lt_irrefl _ (same ▸ sound.bound id segment there)
  refine ⟨⟨?_,?_,?_,?_,sound.identity⟩,rfl,Nat.le_succ _,?_,?_⟩
  · intro id segment there
    rw [Entries.getElem?_insert] at there
    rw [Entries.getElem?_insert]
    split at there
    · cases there
      rename_i same
      exact ⟨[],if_pos same,le_rfl⟩
    rename_i other
    rw [if_neg other]
    exact sound.file id segment there
  · intro id content there
    rw [Entries.getElem?_insert] at there
    rw [Entries.getElem?_insert]
    split at there
    next same =>
      exact ⟨_,if_pos same⟩
    rename_i other
    rw [if_neg other]
    exact sound.owned id content there
  · intro id segment there
    rw [Entries.getElem?_insert] at there
    split at there
    next same =>
      exact same ▸ Nat.lt_succ_self _
    · exact Nat.lt_succ_of_lt (sound.bound id segment there)
  · intro id there
    cases there
    exact Nat.lt_succ_self _
  · intro id old has
    unfold Has at has ⊢
    rw [Entries.getElem?_insert,if_neg (Ne.symm (Nat.ne_of_lt old))] at has
    exact has
  intro r body held _
  obtain ⟨segment,there,within⟩ := held.within
  refine ⟨⟨segment,?_,within⟩,?_⟩
  · rw [Entries.getElem?_insert,if_neg (apart r.segment segment there)]
    exact there
  · rw [Entries.getElem?_insert,if_neg (apart r.segment segment there)]
    exact held.bytes

lemma roll_moves (sound : s.Sound) (fault : AppendFault) : Moves s (s.roll fault).1 := by
  have retired := retire_moves sound
  unfold roll
  split
  · refine retired.trans sound ⟨⟨retired.1.file,retired.1.owned,?_,?_,retired.1.identity⟩,rfl,Nat.le_succ _,
      fun _ _ has => has,fun _ _ held _ => ⟨held.within,held.bytes⟩⟩
    · exact fun id segment there => Nat.lt_succ_of_lt (retired.1.bound id segment there)
    · exact fun id there => Nat.lt_succ_of_lt (retired.1.current id there)
  · exact retired.trans sound (create_moves retired.1)

lemma roll_liveOf (sound : s.Sound) (fault : AppendFault) (other : Nat) :
    (s.roll fault).1.liveOf other = s.liveOf other := by
  have retired := retire_moves sound
  rw [← retire_liveOf s other]
  unfold roll
  split
  · rfl
  unfold liveOf
  rw [Entries.getElem?_insert]
  split
  next same =>
    subst same
    cases there : s.retire.segments[s.retire.nextSegment]? with
    | none => rfl
    | some segment => exact absurd (retired.1.bound _ segment there) (Nat.lt_irrefl _)
  · rfl

lemma writeAt_drop_take {offset len : Nat} (within : offset + len ≤ size) (size_le : size ≤ content.length) :
    ((writeAt content size body).drop offset).take len = (content.drop offset).take len := by
  unfold writeAt
  rw [append_assoc,drop_append_of_le_length (by rw [length_take]; omega),
    take_append_of_le_length (by rw [length_drop,length_take]; omega),drop_take,take_take,
    Nat.min_eq_left (by omega)]

lemma writeAt_length (size_le : size ≤ content.length) :
    size + body.length ≤ (writeAt content size body).length := by
  unfold writeAt
  simp only [length_append,length_take,length_drop]
  omega

lemma writeAt_read (size_le : size ≤ content.length) :
    ((writeAt content size body).drop size).take body.length = body := by
  unfold writeAt
  have len : (content.take size).length = size := by rw [length_take]; omega
  rw [append_assoc,drop_append_of_le_length (Nat.le_of_eq len.symm),drop_of_length_le (Nat.le_of_eq len),
    nil_append,take_append_of_le_length le_rfl,take_length]

lemma written_moves (body : Bytes) (sound : s.Sound) {now : Segment}
    (there : s.segments[id]? = some segment) (file : s.dir.files[id]? = some content)
    (grows : segment.size ≤ now.size) (whole : now.size ≤ segment.size + body.length) :
    Moves s {s with dir := {s.dir with files := s.dir.files.insert id (writeAt content segment.size body)},
                    segments := s.segments.insert id now} := by
  obtain ⟨content',same,size⟩ := sound.file id segment there
  cases file.symm.trans same
  refine ⟨⟨?_,?_,?_,sound.current,sound.identity⟩,rfl,le_rfl,?_,?_⟩
  · intro other found present
    rw [Entries.getElem?_insert] at present
    rw [Entries.getElem?_insert]
    split at present
    · cases present
      rename_i same
      exact ⟨_,if_pos same,whole.trans (writeAt_length size)⟩
    rename_i apart
    rw [if_neg apart]
    exact sound.file other found present
  · intro other found present
    rw [Entries.getElem?_insert] at present
    rw [Entries.getElem?_insert]
    split at present
    next same =>
      exact ⟨_,if_pos same⟩
    rename_i apart
    rw [if_neg apart]
    exact sound.owned other found present
  · intro other found present
    rw [Entries.getElem?_insert] at present
    split at present
    next same =>
      exact same ▸ sound.bound id segment there
    · exact sound.bound other found present
  · intro other _ has
    unfold Has at has ⊢
    rw [Entries.getElem?_insert] at has
    split at has
    next same =>
      rw [← same,there]
      rfl
    · exact has
  intro r bytes held _
  obtain ⟨found,present,within⟩ := held.within
  obtain ⟨data,stored,same⟩ := held.bytes
  by_cases here : id = r.segment
  · rw [← here] at present stored
    cases there.symm.trans present
    cases file.symm.trans stored
    refine ⟨⟨now,?_,within.trans grows⟩,writeAt content segment.size body,?_,?_⟩
    · rw [Entries.getElem?_insert,if_pos here]
    · rw [Entries.getElem?_insert,if_pos here]
    · rw [writeAt_drop_take within size]
      exact same
  refine ⟨⟨found,?_,within⟩,data,?_,same⟩
  · rw [Entries.getElem?_insert,if_neg here]
    exact present
  · rw [Entries.getElem?_insert,if_neg here]
    exact stored

lemma insert_same (there : s.segments[id]? = some segment) : s.segments.insert id segment = s.segments := by
  apply Std.ExtTreeMap.ext_getElem?
  intro other
  rw [Entries.getElem?_insert]
  split
  next same =>
    rw [← same,there]
  · rfl

structure Appended (s t : Spill) (body : Bytes) (r : Option SpillRef) : Prop where
  moves : Moves s t
  live : ∀ id, t.liveOf id = s.liveOf id + if r.map SpillRef.segment = some id then 1 else 0
  holds : ∀ ref, r = some ref → body.length < 2^32 → t.Holds ref body
  keeps : ∀ id, s.Has id → s.current ≠ some id → t.Has id
  current : ∀ id, t.current = some id → s.current = some id ∨ s.nextSegment ≤ id

lemma write_has (has : s.Has id) (ok : s.write fault body = some (t,r)) : t.Has id := by
  unfold write at ok
  split at ok
  · cases ok
  split at ok
  · split at ok
    · cases ok
      exact has
    cases ok
    exact has.insert ..
  · cases ok

lemma write_appended (sound : s.Sound) (ok : s.write fault body = some (t,r)) : Appended s t body r := by
  have written := ok
  unfold write at ok
  split at ok
  · cases ok
  rename_i id current
  split at ok
  next segment content there file =>
    obtain ⟨_,same,size⟩ := sound.file id segment there
    cases file.symm.trans same
    split at ok
    next part =>
      cases ok
      refine ⟨?_,fun other => rfl,nofun,fun other has _ => has,fun other at_ => Or.inl at_⟩
      have moved := written_moves (body.take part) sound there file le_rfl (Nat.le_add_right _ _)
      rw [insert_same there] at moved
      exact moved
    cases ok
    refine ⟨written_moves body sound there file (Nat.le_add_right _ _) le_rfl,?_,?_,?_,fun other at_ => Or.inl at_⟩
    · intro other
      unfold liveOf
      rw [Entries.getElem?_insert]
      split
      next same =>
        subst same
        simp [there]
      next apart =>
        simp [apart]
    · rintro ref ⟨⟩ short
      have len : body.length.toUInt32.toNat = body.length := Nat.mod_eq_of_lt short
      refine ⟨⟨_,getElem?_insert_self,?_⟩,_,getElem?_insert_self,?_⟩
      · rw [len]
      · rw [len]
        exact writeAt_read size
    · exact fun other has _ => write_has has written
  · cases ok

lemma retire_has (has : s.Has id) (kept : 0 < s.pins ∨ s.current ≠ some id) : s.retire.Has id := by
  unfold retire
  split
  next current =>
    split
    · unfold reclaim
      split
      · exact has
      next unpinned =>
        refine deleteSegment_has.mpr ⟨?_,has⟩
        rintro rfl
        exact kept.resolve_left unpinned current
    · exact has
  · exact has

lemma retire_nextSegment : s.retire.nextSegment = s.nextSegment := by
  unfold retire reclaim deleteSegment
  split
  · split
    · split <;> rfl
    · rfl
  · rfl

lemma retire_current : s.retire.current = s.current := by
  unfold retire reclaim deleteSegment
  split
  · split
    · split <;> simp only [*]
    · simp only [*]
  · simp only [*]

lemma roll_has (has : s.Has id) (kept : 0 < s.pins ∨ s.current ≠ some id) : (s.roll fault).1.Has id := by
  have retired := retire_has has kept
  unfold roll
  split
  · exact retired
  · exact retired.insert ..

lemma roll_current (at_ : (s.roll fault).1.current = some id) : s.current = some id ∨ s.nextSegment ≤ id := by
  unfold roll at at_
  split at at_
  · rw [← retire_current]
    exact Or.inl at_
  cases at_
  rw [retire_nextSegment]
  exact Or.inr le_rfl

/-- An append writes to the segment it finds, or rolls over and writes to the new one if that could be created. -/
lemma append_cases (ok : s.append fault body = some (t,r)) :
    (s.needsRoll = some false ∧ s.write fault body = some (t,r)) ∨ (s.needsRoll = some true ∧
      ((s.roll fault).1.write fault body = some (t,r) ∨ (t = (s.roll fault).1 ∧ r = none))) := by
  unfold append at ok
  split at ok
  · cases ok
  next stays =>
    exact .inl ⟨stays,ok⟩
  next full =>
    refine .inr ⟨full,?_⟩
    split at ok
    next result =>
      rw [result]
      exact .inl ok
    next result =>
      cases ok
      rw [result]
      exact .inr ⟨rfl,rfl⟩

lemma append_appended (sound : s.Sound) (ok : s.append fault body = some (t,r)) : Appended s t body r := by
  have rolled := roll_moves sound fault
  rcases append_cases ok with ⟨-,ok⟩ | ⟨-,ok | ⟨rfl,rfl⟩⟩
  · exact write_appended sound ok
  · have appended := write_appended rolled.1 ok
    refine ⟨rolled.trans sound appended.moves,?_,appended.holds,?_,?_⟩
    · intro id
      rw [appended.live,roll_liveOf sound]
    · intro id has apart
      exact write_has (roll_has has (.inr apart)) ok
    intro id at_
    rcases appended.current id at_ with old|fresh
    · exact roll_current old
    · exact Or.inr (rolled.2.next.trans fresh)
  · exact ⟨rolled,fun id => roll_liveOf sound fault id,nofun,fun id has apart => roll_has has (.inr apart),
      fun id at_ => roll_current at_⟩

lemma release_moves (sound : s.Sound) (r : SpillRef) : Moves s (s.release r) := by
  unfold release
  split
  · exact Moves.refl sound
  rename_i segment there
  have relived := relive_moves sound there (segment.live - 1)
  dsimp only
  split
  · exact relived.trans sound (reclaim_moves relived.1 r.segment)
  · exact relived

lemma relive_liveOf : {s with segments := s.segments.insert id {segment with live := live}}.liveOf other =
      if id = other then live else s.liveOf other := by
  unfold liveOf
  rw [Entries.getElem?_insert]
  split <;> rfl

lemma release_liveOf (r : SpillRef) : (s.release r).liveOf id = s.liveOf id - if r.segment = id then 1 else 0 := by
  unfold release
  split
  next gone =>
    split
    next same =>
      subst same
      unfold liveOf
      rw [gone]
      rfl
    · rfl
  rename_i segment there
  have live : s.liveOf r.segment = segment.live := by
    unfold liveOf
    rw [there]
    rfl
  have after : ∀ other, {s with segments := s.segments.insert r.segment {segment with live := segment.live - 1}}.liveOf
      other = s.liveOf other - if r.segment = other then 1 else 0 := by
    intro other
    rw [relive_liveOf]
    split
    next same =>
      rw [← same,live]
    · rfl
  dsimp only
  split
  next dead =>
    rw [reclaim_liveOf]
    · exact after id
    · rw [relive_liveOf,if_pos rfl]
      exact dead.1
  · exact after id

lemma pin_moves (sound : s.Sound) : Moves s s.pin := repin_moves sound (s.pins + 1) s.deferredDelete

lemma deleteDrained_moves (sound : s.Sound) (ids : List Nat) : Moves s (ids.foldl deleteDrained s) ∧
    ∀ id, (ids.foldl deleteDrained s).liveOf id = s.liveOf id := by
  induction ids generalizing s with
  | nil => exact ⟨Moves.refl sound,fun _ => rfl⟩
  | cons first ids ih =>
    have step : Moves s (s.deleteDrained first) ∧ ∀ id, (s.deleteDrained first).liveOf id = s.liveOf id := by
      unfold deleteDrained
      split
      next drained =>
        exact ⟨deleteSegment_moves sound first,deleteSegment_liveOf (liveOf_of_isDrained drained)⟩
      · exact ⟨Moves.refl sound,fun _ => rfl⟩
    obtain ⟨moves,live⟩ := ih step.1.1
    exact ⟨step.1.trans sound moves,fun id => (live id).trans (step.2 id)⟩

lemma unpin_moves (sound : s.Sound) : Moves s s.unpin := by
  unfold unpin
  dsimp only
  split
  · have repinned := repin_moves sound (s.pins - 1) []
    exact repinned.trans sound (deleteDrained_moves repinned.1 s.deferredDelete).1
  · exact repin_moves sound (s.pins - 1) s.deferredDelete

lemma unpin_liveOf (sound : s.Sound) (id : Nat) : s.unpin.liveOf id = s.liveOf id := by
  unfold unpin
  dsimp only
  split
  · exact (deleteDrained_moves (repin_moves sound (s.pins - 1) []).1 s.deferredDelete).2 id
  · rfl

section Kept

def sizeOf (s : Spill) (id : Nat) : Nat := ((s.segments[id]?).map Segment.size).getD 0

lemma retire_pins : s.retire.pins = s.pins := by
  unfold retire reclaim deleteSegment
  split
  · split
    · split <;> rfl
    · rfl
  · rfl

lemma write_kept (ok : s.write fault body = some (t,r)) :
    t.pins = s.pins ∧ t.current = s.current ∧ ∀ id, t.sizeOf id ≤ s.sizeOf id + body.length := by
  unfold write at ok
  split at ok
  · cases ok
  split at ok
  next there file =>
    split at ok
    · cases ok
      exact ⟨rfl,rfl,fun id => Nat.le_add_right ..⟩
    cases ok
    refine ⟨rfl,rfl,fun id => ?_⟩
    unfold sizeOf
    rw [Entries.getElem?_insert]
    split
    next same =>
      subst same
      simp [there]
    · exact Nat.le_add_right ..
  · cases ok

lemma append_pins (ok : s.append fault body = some (t,r)) : t.pins = s.pins := by
  have rolled : (s.roll fault).1.pins = s.pins := by
    rw [← retire_pins (s := s)]
    unfold roll
    split <;> rfl
  rcases append_cases ok with ⟨-,ok⟩ | ⟨-,ok | ⟨rfl,-⟩⟩
  · exact (write_kept ok).1
  · exact (write_kept ok).1.trans rolled
  · exact rolled

lemma append_pinned (pinned : 0 < s.pins) (has : s.Has id) (ok : s.append fault body = some (t,r)) : t.Has id := by
  have rolled : (s.roll fault).1.Has id := roll_has has (.inl pinned)
  rcases append_cases ok with ⟨-,ok⟩ | ⟨-,ok | ⟨rfl,-⟩⟩
  · exact write_has has ok
  · exact write_has rolled ok
  · exact rolled

lemma append_current (current : s.current = some id) (has : s.Has id) (room : s.sizeOf id < segmentMaxBytes)
    (ok : s.append fault body = some (t,r)) :
    t.Has id ∧ t.current = some id ∧ t.sizeOf id ≤ s.sizeOf id + body.length := by
  obtain ⟨segment,there⟩ := isSome_iff_exists.mp has
  have stays : s.needsRoll = some false := by
    unfold sizeOf at room
    rw [there,map_some,getD_some] at room
    simp [needsRoll,current,there,room]
  unfold append at ok
  rw [stays] at ok
  obtain ⟨-,same,size⟩ := write_kept ok
  exact ⟨write_has has ok,same.trans current,size id⟩

lemma release_kept (r : SpillRef) : (s.release r).pins = s.pins ∧ (s.release r).current = s.current ∧
    ∀ id, (s.release r).sizeOf id ≤ s.sizeOf id := by
  unfold release
  split
  · exact ⟨rfl,rfl,fun _ => le_rfl⟩
  rename_i segment there
  have relived : ∀ id, {s with segments := s.segments.insert r.segment {segment with live := segment.live - 1}}.sizeOf id =
      s.sizeOf id := by
    intro id
    unfold sizeOf
    rw [Entries.getElem?_insert]
    split
    next same =>
      subst same
      rw [there]
      rfl
    · rfl
  dsimp only
  split
  · unfold reclaim
    split
    · exact ⟨rfl,rfl,fun id => (relived id).le⟩
    refine ⟨rfl,rfl,fun id => ?_⟩
    rw [sizeOf,deleteSegment_getElem?]
    split
    · exact Nat.zero_le _
    · exact (relived id).le
  · exact ⟨rfl,rfl,fun id => (relived id).le⟩

lemma release_has {r : SpillRef} (has : s.Has id) (kept : 0 < s.pins ∨ s.current = some id ∨ r.segment ≠ id) :
    (s.release r).Has id := by
  unfold release
  split
  · exact has
  dsimp only
  split
  next dead =>
    unfold reclaim
    split
    · exact has.insert ..
    next unpinned =>
      refine deleteSegment_has.mpr ⟨?_,has.insert ..⟩
      rintro rfl
      exact (kept.resolve_left unpinned).elim dead.2 (· rfl)
  · exact has.insert ..

lemma unpin_has (sound : s.Sound) (has : s.Has id) (kept : 0 < s.liveOf id ∨ id ∉ s.deferredDelete) : s.unpin.Has id := by
  rcases kept with live | apart
  · exact .of_liveOf (by rwa [unpin_liveOf sound])
  have fold (ids : List Nat) : ∀ u : Spill, u.Has id → id ∉ ids → (ids.foldl deleteDrained u).Has id := by
    induction ids with
    | nil => exact fun _ has _ => has
    | cons first ids ih =>
      intro u has apart
      obtain ⟨other,rest⟩ := not_or.mp (mem_cons.not.mp apart)
      refine ih _ ?_ rest
      unfold deleteDrained
      split
      · exact deleteSegment_has.mpr ⟨Ne.symm other,has⟩
      · exact has
  unfold unpin
  dsimp only
  split
  · exact fold s.deferredDelete _ has apart
  · exact has

end Kept

section SetLive

variable (counts : Map Nat Nat)

lemma modify_present (there : s.segments[id]? = some segment) (live : Nat) :
    s.segments.modify id (fun found => {found with live := live}) =
      s.segments.insert id {segment with live := live} := by
  apply Std.ExtTreeMap.ext_getElem?
  intro other
  rw [Std.ExtTreeMap.getElem?_modify,Std.ExtTreeMap.getElem?_insert,there]
  rfl

lemma modify_absent (gone : s.segments[id]? = none) :
    s.segments.modify id (fun found => {found with live := live}) = s.segments := by
  apply Std.ExtTreeMap.ext_getElem?
  intro other
  rw [Std.ExtTreeMap.getElem?_modify]
  split
  next same =>
    rw [Std.LawfulEqCmp.compare_eq_iff_eq] at same
    rw [← same,gone]
    rfl
  · rfl

lemma setLiveOf_moves (sound : s.Sound) (id : Nat) : Moves s (setLiveOf counts s id) := by
  unfold setLiveOf
  cases there : s.segments[id]? with
  | none =>
    simp only [modify_absent there]
    split
    · exact deleteSegment_moves sound id
    · exact Moves.refl sound
  | some =>
    simp only [modify_present there]
    have relived := relive_moves sound there ((counts[id]?).getD 0)
    split
    · exact relived.trans sound (deleteSegment_moves relived.1 id)
    · exact relived

lemma setLiveOf_liveOf : (setLiveOf counts s id).liveOf other =
    if id = other ∧ s.Has id then (counts[id]?).getD 0 else s.liveOf other := by
  unfold setLiveOf
  cases there : s.segments[id]? with
  | none =>
    have gone : s.liveOf id = 0 := by
      unfold liveOf
      rw [there]
      rfl
    have lacks : ¬ s.Has id := by
      unfold Has
      rw [there]
      exact nofun
    simp only [modify_absent there,lacks,and_false,if_false]
    split
    · exact deleteSegment_liveOf gone other
    · rfl
  | some segment =>
    have has : s.Has id := isSome_iff_exists.mpr ⟨segment,there⟩
    simp only [modify_present there,has,and_true]
    split
    next dead =>
      rw [deleteSegment_liveOf,relive_liveOf]
      rw [relive_liveOf,if_pos rfl]
      exact dead.1
    · rw [relive_liveOf]

lemma setLiveOf_has : (setLiveOf counts s id).Has other ↔
    s.Has other ∧ ¬ (id = other ∧ (counts[id]?).getD 0 = 0 ∧ s.current ≠ some id) := by
  have modified : ∀ f : Segment → Segment, {s with segments := s.segments.modify id f}.Has other ↔ s.Has other := by
    intro f
    unfold Has
    rw [← mem_iff_isSome_getElem?,← mem_iff_isSome_getElem?]
    exact mem_modify
  unfold setLiveOf
  dsimp only
  split
  next dead =>
    constructor
    · intro has
      obtain ⟨apart,before⟩ := deleteSegment_has.mp has
      exact ⟨(modified _).mp before,fun same => apart same.1⟩
    rintro ⟨has,keeps⟩
    exact deleteSegment_has.mpr ⟨fun same => keeps ⟨same,dead⟩,(modified _).mpr has⟩
  next alive =>
    rw [modified]
    exact ⟨fun has => ⟨has,fun same => alive same.2⟩,fun has => has.1⟩

lemma liveOf_of_lacks (lacks : ¬ s.Has id) : s.liveOf id = 0 := by
  by_contra live
  exact lacks (Has.of_liveOf (Nat.pos_of_ne_zero live))

lemma setLiveOf_fold (sound : s.Sound) (ids : List Nat) : Moves s (ids.foldl (setLiveOf counts) s) ∧
    ∀ id, s.Has id → (ids.foldl (setLiveOf counts) s).liveOf id =
      if id ∈ ids then (counts[id]?).getD 0 else s.liveOf id := by
  induction ids generalizing s with
  | nil => exact ⟨Moves.refl sound,fun id _ => by simp⟩
  | cons first ids ih =>
    have step := setLiveOf_moves counts sound first
    obtain ⟨moves,live⟩ := ih step.1
    refine ⟨step.trans sound moves,?_⟩
    intro id has
    by_cases kept : (setLiveOf counts s first).Has id
    · rw [foldl_cons,live id kept,setLiveOf_liveOf]
      by_cases later : id ∈ ids
      · simp [later]
      by_cases here : first = id
      · subst here
        simp [later,has]
      · simp [later,here,Ne.symm here]
    have gone : first = id ∧ (counts[first]?).getD 0 = 0 := by
      rw [setLiveOf_has] at kept
      by_contra other
      exact kept ⟨has,fun dead => other ⟨dead.1,dead.2.1⟩⟩
    have lost : ¬ (ids.foldl (setLiveOf counts) (setLiveOf counts s first)).Has id := by
      intro still
      have old := Nat.lt_of_lt_of_le (sound.bound_of_has has) step.2.next
      exact kept (moves.2.old id old still)
    rw [foldl_cons,liveOf_of_lacks lost,← gone.1,if_pos mem_cons_self,gone.2]

lemma setLive_moves (sound : s.Sound) : Moves s (s.setLive counts) := (setLiveOf_fold counts sound _).1

lemma setLive_liveOf (sound : s.Sound) (has : s.Has id) : (s.setLive counts).liveOf id = (counts[id]?).getD 0 := by
  have listed : id ∈ s.segments.keys := by
    rw [Std.ExtTreeMap.mem_keys,mem_iff_isSome_getElem?]
    exact has
  exact ((setLiveOf_fold counts sound s.segments.keys).2 id has).trans (if_pos listed)

end SetLive

section Reopen

variable (dir : SpillDir) (fresh : Nat)

private lemma le_foldl_max (ids : List Nat) (start : Nat) :
    start ≤ ids.foldl (fun next segment => max next (segment + 1)) start ∧
    ∀ id ∈ ids, id < ids.foldl (fun next segment => max next (segment + 1)) start := by
  induction ids generalizing start with
  | nil => exact ⟨le_rfl,nofun⟩
  | cons first ids ih =>
    obtain ⟨start_le,all⟩ := ih (max start (first + 1))
    refine ⟨(Nat.le_max_left _ _).trans start_le,?_⟩
    intro id member
    rcases mem_cons.mp member with same|later
    · subst same
      exact Nat.lt_of_lt_of_le (Nat.lt_succ_self _) ((Nat.le_max_right _ _).trans start_le)
    · exact all id later

lemma openPreserving_getElem? (id : Nat) : (openPreserving dir fresh).segments[id]? =
    (dir.files[id]?).map fun content => ⟨0,content.length⟩ := getElem?_map

lemma openPreserving_sound : (openPreserving dir fresh).Sound := by
  refine ⟨?_,?_,?_,nofun,rfl⟩
  · intro id segment there
    rw [openPreserving_getElem?] at there
    obtain ⟨content,file,rfl⟩ := map_eq_some_iff.mp there
    exact ⟨content,file,le_rfl⟩
  · intro id content file
    rw [openPreserving_getElem?]
    exact ⟨_,map_eq_some_iff.mpr ⟨content,file,rfl⟩⟩
  intro id segment there
  rw [openPreserving_getElem?] at there
  obtain ⟨_,file,-⟩ := map_eq_some_iff.mp there
  refine (le_foldl_max dir.files.keys 0).2 id ?_
  rw [Std.ExtTreeMap.mem_keys,mem_iff_isSome_getElem?,file]
  rfl

lemma Holds.reopen (sound : s.Sound) {r : SpillRef} (held : s.Holds r body) :
    (openPreserving s.dir fresh).Holds r body := by
  obtain ⟨segment,there,within⟩ := held.within
  obtain ⟨content,file,size⟩ := sound.file r.segment segment there
  refine ⟨⟨⟨0,content.length⟩,?_,within.trans size⟩,held.bytes⟩
  rw [openPreserving_getElem?,file]
  rfl

end Reopen

def Ready (s : Spill) : Prop := ∀ id, s.current = some id → s.Has id

lemma write_ready (sound : s.Sound) (current : s.current = some id) (has : s.Has id) :
    ∃ t r, s.write .none body = some (t,some r) ∧ t.current = some id ∧ t.Has id := by
  obtain ⟨segment,there⟩ := isSome_iff_exists.mp has
  obtain ⟨_,file,-⟩ := sound.file id segment there
  obtain ⟨t,r,ok,same⟩ : ∃ t r, s.write .none body = some (t,some r) ∧ t.current = s.current := by
    unfold write
    rw [current]
    simp only [there,file]
    exact ⟨_,_,rfl,rfl⟩
  exact ⟨t,r,ok,same.trans current,write_has has ok⟩

lemma append_ready (sound : s.Sound) (ready : s.Ready) (body : Bytes) :
    ∃ t r, s.append .none body = some (t,some r) ∧ t.Ready := by
  have written : ∀ u : Spill, ∀ id, u.Sound → u.current = some id → u.Has id →
      ∃ t r, u.write .none body = some (t,some r) ∧ t.Ready := by
    intro u id sound current has
    obtain ⟨t,r,ok,same,kept⟩ := write_ready sound current has
    refine ⟨t,r,ok,?_⟩
    intro other at_
    cases same.symm.trans at_
    exact kept
  obtain ⟨u,begun,result,active,has⟩ : ∃ u id, s.roll .none = (u,true) ∧ u.current = some id ∧ u.Has id := by
    refine ⟨_,s.retire.nextSegment,rfl,rfl,?_⟩
    unfold Has
    rw [Entries.getElem?_insert,if_pos rfl]
    rfl
  have moves := roll_moves sound .none
  rw [result] at moves
  have fresh := written u begun moves.1 active has
  unfold append needsRoll
  cases current : s.current with
  | none => simpa only [result] using fresh
  | some id =>
    obtain ⟨segment,there⟩ := isSome_iff_exists.mp (ready id current)
    simp only [there,map_some]
    cases decide (segmentMaxBytes ≤ segment.size) with
    | true => simpa only [result] using fresh
    | false => exact written s id sound current (ready id current)

lemma release_ready (ready : s.Ready) (r : SpillRef) : (s.release r).Ready := by
  unfold release
  split
  · exact ready
  rename_i segment there
  dsimp only
  have relived : {s with segments := s.segments.insert r.segment {segment with live := segment.live - 1}}.Ready :=
    fun id current => (ready id current).insert ..
  split
  next dead =>
    unfold reclaim
    split
    · exact relived
    intro id current
    refine deleteSegment_has.mpr ⟨?_,relived id current⟩
    rintro rfl
    exact dead.2 current
  · exact relived

lemma setLive_ready (ready : s.Ready) (counts : Map Nat Nat) : (s.setLive counts).Ready := by
  have fold : ∀ (ids : List Nat) (u : Spill), u.Ready → (ids.foldl (setLiveOf counts) u).Ready := by
    intro ids
    induction ids with
    | nil => exact fun _ x => x
    | cons first ids ih =>
      intro u ready
      refine ih _ ?_
      intro id current
      have same : (setLiveOf counts u first).current = u.current := by
        unfold setLiveOf deleteSegment
        dsimp only
        split <;> rfl
      rw [same] at current
      refine (setLiveOf_has counts).mpr ⟨ready id current,?_⟩
      rintro ⟨rfl,-,other⟩
      exact other current
  exact fold s.segments.keys s ready

end Ramqp.Spill
