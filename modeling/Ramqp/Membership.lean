import Ramqp.Semantics.Members
import Ramqp.Library.Transition

/-! Whether two stores of one queue are ever open at once. The map is looked up before the store is opened
and again only when the member is inserted, so that a second call may open the store in between. -/
namespace Ramqp

open List Option Transition

def MemberPhase.busy : MemberPhase → Bool
  | .openStore | .startRaft _ | .insert _ | .close _ _ => true
  | _ => false

def MemberPhase.store? : MemberPhase → Option StoreId
  | .startRaft store | .insert store | .close store _ => some store
  | _ => none

namespace MemberNode

variable {n next : MemberNode} {id : Nat}

variable {before phase : MemberPhase}

/-- A call that finds no member finds no other call between its own lookup and its end, and no member
that is being shut down. -/
def Alone (n : MemberNode) : Label → Bool
  | .check _ => n.entry.isSome || (n.calls.all (fun call => !call.phase.busy) && n.draining.isNone)
  | _ => true

def Idle (n : MemberNode) : Prop := ∀ id phase, n.phaseOf id = some phase → phase.busy = false

structure Lone (n : MemberNode) : Prop where
  one : ∀ first second phase other, n.phaseOf first = some phase → n.phaseOf second = some other →
    phase.busy = true → other.busy = true → first = second
  alone : ∀ id phase, n.phaseOf id = some phase → phase.busy = true →
    n.entry = none ∧ n.draining = none ∧ ∀ store, n.isLive store = true → phase.store? = some store
  idle : n.Idle → ∀ store, n.isLive store = true → n.entry = some store ∨ n.draining = some store
  drained : n.draining ≠ none → n.stopping = true ∧ n.entry = none
  undisturbed : n.disturbed = []

def Moves (n next : MemberNode) (id : Nat) (phase : MemberPhase) : Prop :=
  ∀ other, next.phaseOf other = if id = other then some phase else n.phaseOf other

lemma goto_moves (at_ : n.phaseOf id = some before) (phase : MemberPhase) : Moves n (n.goto id phase) id phase := by
  intro other
  obtain ⟨_,there,-⟩ := map_eq_some_iff.mp at_
  unfold phaseOf goto
  rw [getElem?_modify]
  split
  next same =>
    rw [← same,there]
    rfl
  · cases n.calls[other]? <;> rfl

lemma started_moves (at_ : n.phaseOf id = some before) (ok : Bool) :
    ∃ phase, phase.busy = false ∧ Moves n (n.started id ok) id phase := by
  obtain ⟨call,there,-⟩ := map_eq_some_iff.mp at_
  refine ⟨if call.viaGroup && ok then .again else .returned none,?_,?_⟩
  · split <;> rfl
  intro other
  unfold phaseOf started
  rw [getElem?_modify]
  split
  next same =>
    rw [← same,there]
    rfl
  · cases n.calls[other]? <;> rfl

lemma Moves.self (moves : Moves n next id phase) : next.phaseOf id = some phase := (moves id).trans (if_pos rfl)

lemma Moves.other {now : MemberPhase} {other : Nat} (moves : Moves n next id phase)
    (there : next.phaseOf other = some now) : id = other ∧ now = phase ∨ id ≠ other ∧ n.phaseOf other = some now := by
  rw [moves other] at there
  split at there
  next same =>
    cases there
    exact Or.inl ⟨same,rfl⟩
  next apart =>
    exact Or.inr ⟨apart,there⟩

/-- No call became busy, so what held of the busy ones still holds. -/
lemma Lone.still (lone : n.Lone) (same : next = {n with calls := next.calls})
    (kept : ∀ other now, next.phaseOf other = some now → now.busy = true → n.phaseOf other = some now)
    (calm : next.Idle → n.Idle) : next.Lone := by
  have entry : next.entry = n.entry := by rw [same]
  have draining : next.draining = n.draining := by rw [same]
  have live : next.isLive = n.isLive := by rw [same]; rfl
  refine ⟨?_,?_,?_,?_,?_⟩
  · intro first second now other there there' busy busy'
    exact lone.one first second now other (kept first now there busy) (kept second other there' busy') busy busy'
  · intro other now there busy
    rw [entry,draining,live]
    exact lone.alone other now (kept other now there busy) busy
  · intro idle
    rw [entry,draining,live]
    exact lone.idle (calm idle)
  · rw [entry,draining,same]
    exact lone.drained
  · rw [same]
    exact lone.undisturbed

lemma Lone.quiet (lone : n.Lone) (at_ : n.phaseOf id = some before) (calm : before.busy = false)
    (still : phase.busy = false) (moves : Moves n next id phase) (same : next = {n with calls := next.calls}) :
    next.Lone := by
  refine lone.still same ?_ ?_
  · intro other now there busy
    rcases moves.other there with ⟨-,rfl⟩|⟨-,old⟩
    · cases still.symm.trans busy
    · exact old
  intro idle other now there
  by_cases here : id = other
  · subst here
    cases at_.symm.trans there
    exact calm
  refine idle other now ?_
  rw [moves other,if_neg here]
  exact there

/-- No call but the one that moves can be busy. -/
lemma Moves.lone (moves : Moves n next id phase)
    (others : ∀ other now, n.phaseOf other = some now → now.busy = true → id = other)
    (held : phase.busy = true → next.entry = none ∧ ∀ store, next.isLive store = true → phase.store? = some store)
    (left : phase.busy = false → ∀ store, next.isLive store = true → next.entry = some store)
    (draining : next.draining = none) (undisturbed : next.disturbed = []) : next.Lone := by
  have only : ∀ other now, next.phaseOf other = some now → now.busy = true → id = other ∧ now = phase := by
    intro other now there busy
    rcases moves.other there with here|⟨apart,old⟩
    · exact here
    · exact absurd (others other now old busy) apart
  refine ⟨?_,?_,?_,?_,undisturbed⟩
  · intro first second now other there there' busy busy'
    exact (only first now there busy).1.symm.trans (only second other there' busy').1
  · intro other now there busy
    obtain ⟨-,rfl⟩ := only other now there busy
    obtain ⟨empty,mine⟩ := held busy
    exact ⟨empty,draining,mine⟩
  · intro idle store live
    exact Or.inl (left (idle id phase moves.self) store live)
  · rw [draining]
    exact fun absurd_ => (absurd_ rfl).elim

section

variable (lone : n.Lone) (at_ : n.phaseOf id = some before) (was : before.busy = true) (moves : Moves n next id phase)

include lone at_ was moves

lemma Lone.busy (entry : next.entry = n.entry) (draining : next.draining = n.draining)
    (live : ∀ store, next.isLive store = true → phase.store? = some store) (undisturbed : next.disturbed = [])
    (still : phase.busy = true) : next.Lone := by
  obtain ⟨empty,steady,-⟩ := lone.alone id before at_ was
  refine moves.lone ?_ (fun _ => ⟨entry.trans empty,live⟩) ?_ (draining.trans steady) undisturbed
  · intro other now there
    exact lone.one id other before now at_ there was
  · intro done
    cases still.symm.trans done

lemma Lone.leave (done : phase.busy = false) (draining : next.draining = none)
    (live : ∀ store, next.isLive store = true → next.entry = some store) (undisturbed : next.disturbed = []) :
    next.Lone := by
  refine moves.lone ?_ ?_ (fun _ => live) draining undisturbed
  · intro other now there
    exact lone.one id other before now at_ there was
  · intro busy
    cases done.symm.trans busy

end

lemma isLive_of_drop {store other : StoreId} (live : (n.dropStore store).isLive other = true) :
    n.isLive other = true ∧ other ≠ store := by
  unfold isLive dropStore at live
  unfold isLive
  simp only [getElem?_set] at live
  split at live
  · split at live <;> cases live
  next apart =>
    exact ⟨live,Ne.symm apart⟩

private lemma none_of_drop {store : StoreId} {P : StoreId → Prop}
    (mine : ∀ other, n.isLive other = true → some store = some other) :
    ∀ other, (n.dropStore store).isLive other = true → P other := by
  intro other live
  obtain ⟨before,apart⟩ := isLive_of_drop live
  cases mine other before
  exact absurd rfl apart

lemma isLive_of_append {other : StoreId} (live : {n with live := n.live ++ [true]}.isLive other = true) :
    n.isLive other = true ∨ other = n.live.length := by
  unfold isLive at live ⊢
  rcases Nat.lt_trichotomy other n.live.length with old|same|beyond
  · rw [getElem?_append_left old] at live
    exact Or.inl live
  · exact Or.inr same
  · rw [getElem?_eq_none (by rw [length_append]; exact beyond)] at live
    cases live

lemma Idle.of_all (calm : n.calls.all (fun call => !call.phase.busy) = true) : n.Idle := by
  intro id phase there
  obtain ⟨call,found,rfl⟩ := map_eq_some_iff.mp there
  have quiet := all_eq_true.mp calm call (mem_of_getElem? found)
  rw [Bool.not_eq_true'] at quiet
  exact quiet

section

variable (lone : n.Lone)

include lone

lemma check_lone (alone : n.Alone (.check id) = true) (ok : n.step (.check id) = some next) :
    next.Lone := by
  delta step at ok
  dsimp only at ok
  split at ok
  next at_ =>
    split at ok
    · cases ok
      obtain ⟨_,still,moves⟩ := started_moves at_ true
      exact lone.quiet at_ rfl still moves rfl
    rename_i absent
    cases ok
    simp only [Alone,absent,Bool.false_or,Bool.and_eq_true,isNone_iff_eq_none] at alone
    have idle := Idle.of_all alone.1
    have empty : n.entry = none := by
      cases there : n.entry with
      | none => rfl
      | some =>
        rw [there] at absent
        exact absurd rfl absent
    refine (goto_moves at_ .openStore).lone ?_ ?_ nofun alone.2 lone.undisturbed
    · intro other now there busy
      cases (idle other now there).symm.trans busy
    · refine fun _ => ⟨empty,fun store live => ?_⟩
      rcases lone.idle idle store live with entry|draining
      · cases empty.symm.trans entry
      · cases alone.2.symm.trans draining
  · cases ok

lemma openStore_lone {opened : Bool} (ok : n.step (.openStore id opened) = some next) :
    next.Lone := by
  delta step at ok
  dsimp only at ok
  split at ok
  next at_ =>
    obtain ⟨_,steady,nothing⟩ := lone.alone id _ at_ rfl
    have none_ : ∀ store, n.isLive store = true → False := fun store live => nomatch nothing store live
    have clear : n.liveStores = [] := filter_eq_nil_iff.mpr fun store _ live => none_ store live
    have undisturbed : n.disturbed ++ n.liveStores = [] := by rw [lone.undisturbed,clear]; rfl
    split at ok
    · cases ok
      refine lone.busy at_ rfl (goto_moves at_ _) rfl rfl ?_ undisturbed rfl
      intro store live
      rcases isLive_of_append live with old|new
      · exact (none_ store old).elim
      · rw [new]
        rfl
    cases ok
    obtain ⟨_,still,moves⟩ := started_moves at_ false
    exact lone.leave at_ rfl moves still steady (fun store live => (none_ store live).elim) undisturbed
  · cases ok

lemma startRaft_lone {started_ : Bool} (ok : n.step (.startRaft id started_) = some next) :
    next.Lone := by
  delta step at ok
  dsimp only at ok
  split at ok
  next at_ =>
    obtain ⟨_,steady,mine⟩ := lone.alone id _ at_ rfl
    split at ok
    · cases ok
      exact lone.busy at_ rfl (goto_moves at_ _) rfl rfl mine lone.undisturbed rfl
    cases ok
    obtain ⟨_,still,moves⟩ := started_moves at_ false
    exact lone.leave at_ rfl moves still steady (none_of_drop mine) lone.undisturbed
  · cases ok

lemma insert_lone (ok : n.step (.insert id) = some next) : next.Lone := by
  delta step at ok
  dsimp only at ok
  split at ok
  next at_ =>
    obtain ⟨_,steady,mine⟩ := lone.alone id _ at_ rfl
    split at ok
    · cases ok
      exact lone.busy at_ rfl (goto_moves at_ _) rfl rfl mine lone.undisturbed rfl
    split at ok
    · cases ok
      exact lone.busy at_ rfl (goto_moves at_ _) rfl rfl mine lone.undisturbed rfl
    cases ok
    obtain ⟨_,still,moves⟩ := started_moves at_ true
    refine lone.leave at_ rfl moves still steady ?_ lone.undisturbed
    intro other live
    cases mine other live
    rfl
  · cases ok

lemma close_lone (ok : n.step (.close id) = some next) : next.Lone := by
  delta step at ok
  dsimp only at ok
  split at ok
  next result at_ =>
    obtain ⟨_,steady,mine⟩ := lone.alone id _ at_ rfl
    cases ok
    obtain ⟨_,still,moves⟩ := started_moves at_ result
    exact lone.leave at_ rfl moves still steady (none_of_drop mine) lone.undisturbed
  · cases ok

lemma call_lone {viaGroup : Bool} (ok : n.step (.call viaGroup) = some next) : next.Lone := by
  cases ok
  refine lone.still rfl ?_ ?_
  · intro other now there busy
    obtain ⟨_,found,rfl⟩ := map_eq_some_iff.mp there
    rcases Nat.lt_or_ge other n.calls.length with old|new
    · rw [getElem?_append_left old] at found
      unfold phaseOf
      rw [found]
      rfl
    rw [getElem?_append_right new] at found
    have fresh := mem_of_getElem? found
    rw [mem_singleton] at fresh
    subst fresh
    cases viaGroup <;> cases busy
  intro idle other now there
  refine idle other now ?_
  obtain ⟨_,found,rfl⟩ := map_eq_some_iff.mp there
  unfold phaseOf
  rw [List.getElem?_append_left (List.getElem?_eq_some_iff.mp found).1,found]
  rfl

lemma lone_step {label : Label} (alone : n.Alone label = true) (ok : n.step label = some next) :
    next.Lone := by
  cases label with
  | call => exact call_lone lone ok
  | check => exact check_lone lone alone ok
  | openStore => exact openStore_lone lone ok
  | startRaft => exact startRaft_lone lone ok
  | insert => exact insert_lone lone ok
  | close => exact close_lone lone ok
  | lookup =>
    simp only [step] at ok
    split at ok
    next at_ =>
      split at ok
      · cases ok
        exact lone.quiet at_ rfl rfl (goto_moves at_ _) rfl
      · cases ok
        exact lone.quiet at_ rfl rfl (goto_moves at_ _) rfl
    · cases ok
  | catalog =>
    simp only [step] at ok
    split at ok
    next at_ =>
      cases ok
      refine lone.quiet at_ rfl ?_ (goto_moves at_ _) rfl
      split <;> rfl
    · cases ok
  | enter =>
    simp only [step] at ok
    split at ok
    next at_ =>
      split at ok
      · cases ok
        obtain ⟨_,still,moves⟩ := started_moves at_ false
        exact lone.quiet at_ rfl still moves rfl
      · cases ok
        exact lone.quiet at_ rfl rfl (goto_moves at_ _) rfl
    · cases ok
  | again =>
    simp only [step] at ok
    split at ok
    next at_ =>
      cases ok
      exact lone.quiet at_ rfl rfl (goto_moves at_ _) rfl
    · cases ok
  | stop =>
    cases ok
    exact ⟨lone.one,lone.alone,lone.idle,fun draining => ⟨rfl,(lone.drained draining).2⟩,lone.undisturbed⟩
  | drain =>
    simp only [step] at ok
    split at ok
    next ready =>
      rw [Bool.and_eq_true,isNone_iff_eq_none] at ready
      cases ok
      refine ⟨lone.one,?_,?_,fun _ => ⟨ready.1,rfl⟩,lone.undisturbed⟩
      · intro id phase there busy
        obtain ⟨empty,-,mine⟩ := lone.alone id phase there busy
        exact ⟨rfl,empty,mine⟩
      intro idle store live
      rcases lone.idle idle store live with entry|draining
      · exact Or.inr entry
      · cases ready.2.symm.trans draining
    · cases ok
  | shutDown =>
    simp only [step] at ok
    split at ok
    next there =>
      cases ok
      have empty := (lone.drained (by rw [there]; exact nofun)).2
      refine ⟨lone.one,?_,?_,fun absurd_ => (absurd_ rfl).elim,lone.undisturbed⟩
      · intro id phase at_ busy
        cases there.symm.trans (lone.alone id phase at_ busy).2.1
      intro idle other live
      obtain ⟨before,apart⟩ := isLive_of_drop (n := n) live
      rcases lone.idle idle other before with entry|draining
      · exact Or.inl entry
      · cases there.symm.trans draining
        exact absurd rfl apart
    · cases ok

end

/-- At most one store is live, and none was ever opened over the directories of a live one. -/
structure Exclusive (n : MemberNode) : Prop where
  one : ∀ first second, n.isLive first = true → n.isLive second = true → first = second
  undisturbed : n.disturbed = []

lemma Lone.exclusive (lone : n.Lone) : n.Exclusive := by
  refine ⟨?_,lone.undisturbed⟩
  intro first second live live'
  by_cases idle : n.Idle
  · rcases lone.idle idle first live with entry|draining
    · rcases lone.idle idle second live' with entry'|draining'
      · exact some.inj (entry.symm.trans entry')
      · have empty := (lone.drained (by rw [draining']; exact nofun)).2
        cases empty.symm.trans entry
    · have empty := (lone.drained (by rw [draining]; exact nofun)).2
      rcases lone.idle idle second live' with entry'|draining'
      · cases empty.symm.trans entry'
      · exact some.inj (draining.symm.trans draining')
  unfold Idle at idle
  simp only [not_forall] at idle
  obtain ⟨id,phase,at_,busy⟩ := idle
  obtain ⟨-,-,mine⟩ := lone.alone id phase at_ (eq_true_of_ne_false busy)
  exact some.inj ((mine first live).symm.trans (mine second live'))

theorem lone_start_exclusive (labels : List Label)
    (alone : Transition.Meets step (fun n label => n.Alone label = true) {} labels)
    (ok : run step {} labels = some n) : n.Exclusive := by
  have initial : Lone {} := ⟨nofun,nofun,fun _ => nofun,nofun,rfl⟩
  have lone : n.Lone := run_invariant (fun lone => lone_step lone) initial alone ok
  exact lone.exclusive

def startedInTurn : List Label :=
  [.call true,.lookup 0,.catalog 0 true,.enter 0 true,.check 0,.openStore 0 true,.call false,.enter 1 true,
    .startRaft 0 true,.insert 0,.check 1,.again 0,.call true,.lookup 2,.stop,.drain,.shutDown,.call true,.lookup 3,
    .catalog 3 true,.enter 3 true]

theorem lone_start_exclusive_in_turn : ∃ n, run step {} startedInTurn = some n ∧
    n.calls.map MemberCall.phase = [.returned (some 0),.returned none,.returned (some 0),.returned none] ∧ n.Exclusive := by
  refine reaches_and (by decide) fun n ok _ => ?_
  exact lone_start_exclusive startedInTurn (meets_of_check (by decide)) ok

def startedTwice : List Label :=
  [.call false,.call false,.enter 0 true,.enter 1 true,.check 0,.check 1,.openStore 0 true,.startRaft 0 true,.insert 0,
    .openStore 1 true]

theorem member_disturbed : ∃ n, run step {} startedTwice = some n ∧ n.entry = some 0 ∧ n.disturbed = [0] ∧
    ¬ n.Exclusive := by
  refine reaches_then (P := fun n => n.entry = some 0 ∧ n.disturbed = [0]) (by decide) ?_
  refine fun n _ ⟨entry,disturbed⟩ => ⟨entry,disturbed,fun exclusive => ?_⟩
  cases disturbed.symm.trans exclusive.undisturbed

end MemberNode

end Ramqp
