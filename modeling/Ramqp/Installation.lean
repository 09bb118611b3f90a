import Ramqp.Recovery

/-! A received snapshot that cannot be installed. The state is emptied before the snapshot's bodies are
checked, and the segments that go with the released bodies may be those that the persisted snapshot
references. -/
namespace Ramqp

open Std Option Transition GroupStore QueueState

namespace QueueState

variable {s t u : QueueState}

variable {fault : AppendFault} {stored : StoredBody} {spillId : Nat}

def PagedLater (s t : QueueState) : Prop :=
  ∀ q, s.paging = some q → q.spill.Sound → ∃ q', t.paging = some q' ∧ Spill.Moves q.spill q'.spill

lemma PagedLater.of_paging (same : t.paging = s.paging) : PagedLater s t :=
  fun q paged sound => ⟨q,same.trans paged,Spill.Moves.refl sound⟩

lemma PagedLater.trans (first : PagedLater s t) (second : PagedLater t u) : PagedLater s u := by
  intro q paged sound
  obtain ⟨q',paged',moves⟩ := first q paged sound
  obtain ⟨q'',paged'',moves'⟩ := second q' paged' moves.1
  exact ⟨q'',paged'',moves.trans sound moves'⟩

lemma dropBody_later (s : QueueState) (body : StoredBody) : PagedLater s (s.dropBody body) := by
  cases body with
  | resident => exact .of_paging rfl
  | spilled r =>
    intro q paged sound
    refine ⟨{q with spill := q.spill.release r},?_,Spill.release_moves sound r⟩
    change s.paging.map _ = _
    rw [paged]
    rfl

lemma clear_later (s : QueueState) : PagedLater s s.clear := by
  have fold : ∀ (bodies : List StoredBody) (u : QueueState), PagedLater u (bodies.foldl dropBody u) := by
    intro bodies
    induction bodies with
    | nil => exact fun u => .of_paging rfl
    | cons body bodies ih => exact fun u => (dropBody_later u body).trans (ih _)
  have emptied : PagedLater s {s with messages := ∅} := .of_paging rfl
  exact (emptied.trans (fold _ _)).trans (.of_paging rfl)

lemma storeBody_later {body : Bytes} (ok : s.storeBody fault body = some (t,stored)) : PagedLater s t := by
  intro q paged sound
  have moves := (storeBody_stored (fun other same => by cases paged.symm.trans same; exact sound) ok).moves
  rw [paged] at moves
  generalize after : t.paging = p at moves
  cases moves with
  | paged budget moves => exact ⟨_,rfl,moves⟩

lemma restoreBody_later {body : PortableBody} (ok : s.restoreBody spillId fault body = .ok (t,stored)) :
    PagedLater s t := by
  cases body with
  | inline =>
    simp only [restoreBody] at ok
    split at ok
    · cases ok
    rename_i taken
    cases ok
    exact storeBody_later taken
  | external =>
    simp only [restoreBody] at ok
    split at ok
    · cases ok
    split at ok
    · cases ok
    split at ok
    · cases ok
    · cases ok
      exact .of_paging rfl

lemma restoreMessages_later (spillId : Nat) (faults : Nat → AppendFault) (position : Nat) (s : QueueState)
    (messages : List PortableMessage) : PagedLater s (s.restoreMessages spillId faults position messages).1 := by
  induction messages generalizing s position with
  | nil => exact .of_paging rfl
  | cons m rest ih =>
    unfold restoreMessages
    split
    · exact .of_paging rfl
    rename_i t stored taken
    have inserted : PagedLater t {t with messages := t.messages.insert m.msgId ⟨stored,m.failures,m.enqueuedMs⟩} :=
      .of_paging rfl
    exact ((restoreBody_later taken).trans inserted).trans (ih _ _)

lemma restoreSnapshot_later (faults : Nat → AppendFault) (s : QueueState) (portable : Option PortableState) :
    PagedLater s (s.restoreSnapshot faults portable).1 := by
  cases portable with
  | none => exact .of_paging rfl
  | some portable =>
    have cleared : PagedLater s {s.clear with nextMsgId := portable.nextMsgId} := (clear_later s).trans (.of_paging rfl)
    exact cleared.trans (restoreMessages_later _ _ _ _ _)

def inlineBytes (messages : List PortableMessage) : Nat :=
  (messages.map fun m => match m.body with
    | .inline bytes => bytes.length
    | .external _ => 0).sum

/-- The segment stays whatever bodies are released, and if no more than so many bytes are appended: it is pinned, or it
is the current one and these leave room in it. -/
def Guards (id room : Nat) (s : QueueState) : Prop := ∃ q, s.paging = some q ∧ q.spill.Has id ∧
  (0 < q.spill.pins ∨ q.spill.current = some id ∧ q.spill.sizeOf id + room < segmentMaxBytes)

variable {id room : Nat}

lemma Guards.less {fewer : Nat} (guards : s.Guards id room) (less : fewer ≤ room) : s.Guards id fewer := by
  obtain ⟨q,paged,has,kept⟩ := guards
  exact ⟨q,paged,has,kept.imp_right fun active => ⟨active.1,by omega⟩⟩

lemma dropBody_guards (guards : s.Guards id room) (body : StoredBody) : (s.dropBody body).Guards id room := by
  cases body with
  | resident => exact guards
  | spilled ref =>
    obtain ⟨q,paged,has,kept⟩ := guards
    obtain ⟨pins,current,size⟩ := Spill.release_kept (s := q.spill) ref
    refine ⟨{q with spill := q.spill.release ref},?_,?_,?_⟩
    · change s.paging.map _ = _
      rw [paged]
      rfl
    · exact Spill.release_has has (kept.imp_right fun active => .inl active.1)
    · rw [pins,current]
      exact kept.imp_right fun active => ⟨active.1,Nat.lt_of_le_of_lt (Nat.add_le_add_right (size id) room) active.2⟩

lemma clear_guards (guards : s.Guards id room) : s.clear.Guards id room := by
  have fold (bodies : List StoredBody) : ∀ u : QueueState, u.Guards id room → (bodies.foldl dropBody u).Guards id room := by
    induction bodies with
    | nil => exact fun _ guards => guards
    | cons body bodies ih => exact fun u guards => ih _ (dropBody_guards guards body)
  exact fold _ {s with messages := ∅} guards

lemma storeBody_guards {body : Bytes} (guards : s.Guards id (body.length + room))
    (ok : s.storeBody fault body = some (t,stored)) : t.Guards id room := by
  obtain ⟨q,paged,has,kept⟩ := guards
  simp only [storeBody,paged] at ok
  split_ifs at ok
  · cases ok
    exact Guards.less ⟨q,paged,has,kept⟩ (Nat.le_add_left ..)
  cases appended : q.spill.append fault body with
  | none => simp [appended] at ok
  | some result =>
    obtain ⟨spill,ref⟩ := result
    have after : t.paging = some {q with spill} := by
      cases ref with
      | none | some =>
        simp only [appended] at ok
        cases ok
        rfl
    rcases kept with pinned | ⟨current,small⟩
    · exact ⟨_,after,Spill.append_pinned pinned has appended,.inl (Spill.append_pins appended ▸ pinned)⟩
    · obtain ⟨there,same,size⟩ := Spill.append_current current has (by omega) appended
      exact ⟨_,after,there,.inr ⟨same,by simp only; omega⟩⟩

lemma restoreMessages_guards {faults : Nat → AppendFault} {position : Nat} {messages : List PortableMessage}
    (guards : s.Guards id (inlineBytes messages)) : (s.restoreMessages spillId faults position messages).1.Guards id 0 := by
  induction messages generalizing s position with
  | nil => exact guards
  | cons m rest ih =>
    unfold restoreMessages
    split
    · exact guards.less (Nat.zero_le _)
    rename_i t stored taken
    refine ih (s := {t with messages := t.messages.insert m.msgId ⟨stored,m.failures,m.enqueuedMs⟩}) ?_
    have total : inlineBytes (m::rest) = _ + inlineBytes rest := List.sum_cons
    rw [total] at guards
    cases body : m.body with
    | inline bytes =>
      simp only [body,restoreBody] at taken guards
      split at taken
      · cases taken
      rename_i kept
      cases taken
      exact storeBody_guards (t := t) guards kept
    | external ref =>
      simp only [body,restoreBody] at taken
      split at taken
      · cases taken
      split_ifs at taken
      split at taken
      · cases taken
      · cases taken
        exact guards.less (Nat.le_add_left ..)

lemma restoreSnapshot_guards {faults : Nat → AppendFault} {portable : PortableState}
    (guards : s.Guards id (inlineBytes portable.messages)) : (s.restoreSnapshot faults (some portable)).1.Guards id 0 :=
  restoreMessages_guards (s := {s.clear with nextMsgId := portable.nextMsgId}) (clear_guards guards)

end QueueState

namespace PagedRun

variable {hist : Nat → Contents} {r : PagedRun} {q : QueuePaging}

variable {blob : SnapshotBlob PortableState}

section Install

variable (faults : Nat → AppendFault) (written saved : Bool) (info : SnapshotMeta)
  (data : Option (SnapshotPayload PortableState))

def install (r : PagedRun) : PagedRun := {r with store := (r.store.installSnapshot faults written saved info data).1}

def InstallFails (r : PagedRun) : Prop := (r.store.installSnapshot faults written saved info data).2 = false

instance (r : PagedRun) : Decidable (r.InstallFails faults written saved info data) :=
  inferInstanceAs (Decidable (_ = false))

/-- The segments of the persisted snapshot outlast an install: the received state does not decode, a snapshot is being
built, or they are the current segment and that has room for the bodies that come with the received snapshot. -/
def outlasts (r : PagedRun) : Bool := (data.bind SnapshotPayload.state).all fun portable => r.store.pinning ||
  r.store.persistedSegments.all fun segment => r.store.inner.state.paging.any fun paging =>
    paging.spill.current = some segment ∧ paging.spill.sizeOf segment + inlineBytes portable.messages < segmentMaxBytes

variable {faults written saved info data}

/-- A failed install leaves the database, and no file but that of the received snapshot changes. -/
lemma install_failed (fails : r.InstallFails faults written saved info data) :
    let next := r.install faults written saved info data
    next.store.hard = r.store.hard ∧ (∀ name, name ≠ info.snapshotId → next.store.blobs name = r.store.blobs name) ∧
    next.store.inner.state =
      (data.map fun payload => (r.store.inner.state.restoreSnapshot faults payload.state).1).getD r.store.inner.state := by
  unfold InstallFails at fails
  unfold install
  unfold installSnapshot at fails ⊢
  cases data with
  | none => exact ⟨rfl,fun _ _ => rfl,rfl⟩
  | some payload =>
    rw [map_some,getD_some]
    cases result : ReplicatedState.restoreSnapshot faults r.store.inner.state payload.state with
    | mk state outcome =>
      have restored : r.store.inner.state.restoreSnapshot faults payload.state = (state,outcome) := result
      rw [restored]
      simp only [result] at fails ⊢
      cases outcome with
      | error => exact ⟨rfl,fun _ _ => rfl,rfl⟩
      | ok =>
        dsimp only at fails ⊢
        split at fails
        · refine ⟨rfl,fun name apart => ?_,rfl⟩
          dsimp only
          split
          · exact Function.update_of_ne apart _ _
          · rfl
        · cases fails

lemma install_has (follows : Follows hist r q) (fails : r.InstallFails faults written saved info data)
    (kept : r.outlasts data = true) {q' : QueuePaging}
    (paged : (r.install faults written saved info data).store.inner.state.paging = some q') {segment : Nat}
    (member : segment ∈ r.store.persistedSegments) (has : q.spill.Has segment) : q'.spill.Has segment := by
  rw [(install_failed fails).2.2] at paged
  cases decoded : data.bind SnapshotPayload.state with
  | none =>
    have same : q = q' := by
      cases data with
      | none => exact some.inj (follows.paged.symm.trans paged)
      | some payload =>
        rw [bind_some] at decoded
        rw [map_some,getD_some,decoded] at paged
        exact some.inj (follows.paged.symm.trans paged)
    exact same ▸ has
  | some portable =>
    obtain ⟨payload,rfl,state⟩ := bind_eq_some_iff.mp decoded
    rw [map_some,getD_some,state] at paged
    have guards : r.store.inner.state.Guards segment (inlineBytes portable.messages) := by
      simp only [outlasts,decoded,Option.all_some,Bool.or_eq_true,List.all_eq_true,follows.paged,Option.any_some,
        decide_eq_true_eq] at kept
      exact ⟨q,follows.paged,has,kept.imp follows.pinned fun all => all segment member⟩
    obtain ⟨_,after,there,-⟩ : (r.store.inner.state.restoreSnapshot faults (some portable)).1.Guards segment 0 :=
      restoreSnapshot_guards guards
    cases after.symm.trans paged
    exact there

end Install

def foreignData : SnapshotPayload PortableState := ⟨some ⟨1,1,4⟩,{},some ⟨1,[⟨1,0,5,.external ⟨0,0,3⟩⟩],99⟩⟩

def foreignInfo : SnapshotMeta := ⟨some ⟨1,1,4⟩,{},⟨some 4,1⟩⟩

end PagedRun

end Ramqp
