import Ramqp.Semantics.QueueRegistry
import Ramqp.Library.Transition

/-! Whether a key ever has two live queue actors. A call whose initialisation failed evicts the cell if it
is still empty, and another call may be initialising it by then. -/
namespace Ramqp.QueueRegistry

open List Transition Option

variable {r next : QueueRegistry}

variable {phase : ResolvePhase}

def initialiserOf (r : QueueRegistry) (cell : CellId) : Option CallId := (r.cells[cell]?).bind InitCell.initialiser

def Knows (r : QueueRegistry) (id : CallId) : ResolvePhase → Prop
  | .waiting cell _ => cell < r.cells.length
  | .initialising cell _ => r.initialiserOf cell = some id
  | .resolved cell actor _ => r.valueOf cell = some actor
  | .defunct cell _ => ∃ actor, r.valueOf cell = some actor ∧ r.isLive actor = false
  | _ => True

/-- Only the map's entry has a live actor or is being initialised. -/
structure Current (r : QueueRegistry) : Prop where
  entry : ∀ cell, r.entry = some cell → cell < r.cells.length
  spawned : ∀ cell actor, r.valueOf cell = some actor → actor < r.live.length
  live : ∀ actor, r.isLive actor = true → r.held = some actor
  busy : ∀ cell id, r.initialiserOf cell = some id → r.entry = some cell ∧ r.valueOf cell = none
  handed : ∀ pair ∈ r.handed, pair.2 = some pair.1

def Informed (r : QueueRegistry) : Prop :=
  ∀ (id : CallId) (phase : ResolvePhase), r.calls[id]? = some phase → r.Knows id phase

def Undisturbed (r : QueueRegistry) : Label → Bool
  | .evictFailed id => match r.calls[id]? with
    | some (.failed cell) => (r.initialiserOf cell).isNone
    | _ => true
  | _ => true

lemma Current.goto (current : r.Current) (id : CallId) (phase : ResolvePhase) : (r.goto id phase).Current :=
  {current with}

variable {id : CallId}

lemma informed_goto
    (others : ∀ (other : CallId) (now : ResolvePhase), other ≠ id → r.calls[other]? = some now → r.Knows other now)
    (knows : r.Knows id phase) : (r.goto id phase).Informed := by
  intro other now there
  unfold goto at there
  simp only [getElem?_set] at there
  split at there
  next same =>
    subst same
    split at there <;> cases there
    exact knows
  next apart =>
    exact others other now (Ne.symm apart) there

variable {cell : CellId}

lemma Current.evict (current : r.Current) (there : r.entry = some cell)
    (dead : ∀ actor, r.valueOf cell = some actor → r.isLive actor = false) (idle : r.initialiserOf cell = none) :
    {r with entry := none}.Current := by
  refine ⟨by simp,current.spawned,?_,?_,current.handed⟩
  · intro actor live
    have held := current.live actor live
    unfold QueueRegistry.held at held
    rw [there] at held
    cases (dead actor held).symm.trans live
  intro other id initialising
  have busy := (current.busy other id initialising).1
  rw [there] at busy
  cases busy
  cases idle.symm.trans initialising

lemma setCell_valueOf (cell other : CellId) (f : InitCell → InitCell) :
    (r.setCell cell f).valueOf other = if cell = other then (r.cells[other]?).bind (fun c => (f c).value)
      else r.valueOf other := by
  unfold valueOf setCell
  rw [getElem?_modify]
  split <;> cases r.cells[other]? <;> rfl

lemma setCell_initialiserOf (cell other : CellId) (f : InitCell → InitCell) :
    (r.setCell cell f).initialiserOf other = if cell = other then (r.cells[other]?).bind (fun c => (f c).initialiser)
      else r.initialiserOf other := by
  unfold initialiserOf setCell
  rw [getElem?_modify]
  split <;> cases r.cells[other]? <;> rfl

lemma setCell_length (cell : CellId) (f : InitCell → InitCell) :
    (r.setCell cell f).cells.length = r.cells.length := length_modify _ _ _

section Initialiser

variable (cell : CellId) (who : Option CallId)

private def handTo (r : QueueRegistry) : QueueRegistry := r.setCell cell fun c => {c with initialiser := who}

lemma handTo_valueOf : (r.handTo cell who).valueOf = r.valueOf := by
  funext other
  unfold handTo
  rw [setCell_valueOf]
  split <;> rfl

lemma handTo_initialiserOf (other : CellId) (apart : cell ≠ other) :
    (r.handTo cell who).initialiserOf other = r.initialiserOf other := by
  unfold handTo
  rw [setCell_initialiserOf,if_neg apart]

lemma handTo_mine {c : InitCell} (here : r.cells[cell]? = some c) :
    (r.handTo cell who).initialiserOf cell = who := by
  unfold handTo
  rw [setCell_initialiserOf,if_pos rfl,here]
  rfl

end Initialiser

lemma Current.handTo (current : r.Current) {who : Option CallId}
    (starts : ∀ id, who = some id → r.entry = some cell ∧ r.valueOf cell = none) : (r.handTo cell who).Current := by
  refine ⟨?_,?_,?_,?_,current.handed⟩
  · intro other there
    unfold QueueRegistry.handTo
    rw [setCell_length]
    exact current.entry other there
  · intro other actor
    rw [handTo_valueOf]
    exact current.spawned other actor
  · intro actor live
    unfold held
    rw [handTo_valueOf]
    exact current.live actor live
  intro other id initialising
  rw [handTo_valueOf]
  by_cases apart : cell = other
  · subst apart
    cases here : r.cells[cell]? with
    | none =>
      unfold QueueRegistry.handTo at initialising
      rw [setCell_initialiserOf,if_pos rfl,here] at initialising
      cases initialising
    | some =>
      rw [handTo_mine cell who here] at initialising
      exact starts id initialising
  · rw [handTo_initialiserOf cell who other apart] at initialising
    exact current.busy other id initialising

lemma knows_handTo {who : Option CallId} (known : r.Knows id phase)
    (other : r.initialiserOf cell ≠ some id) : (r.handTo cell who).Knows id phase := by
  cases phase with
  | waiting box =>
    change box < (r.handTo cell who).cells.length
    unfold handTo
    rw [setCell_length]
    exact known
  | initialising box =>
    have apart : cell ≠ box := by
      rintro rfl
      exact other known
    change (r.handTo cell who).initialiserOf box = some id
    rw [handTo_initialiserOf cell who box apart]
    exact known
  | resolved box actor =>
    change (r.handTo cell who).valueOf box = some actor
    rw [handTo_valueOf]
    exact known
  | defunct =>
    obtain ⟨actor,value,dead⟩ := known
    refine ⟨actor,?_,dead⟩
    rw [handTo_valueOf]
    exact value
  | round | failed | returned => trivial

section Create

private def create (r : QueueRegistry) : QueueRegistry :=
  {r with entry := some r.cells.length,cells := r.cells ++ [⟨none,none⟩]}

lemma create_bind {f : InitCell → Option Nat} (blank : f ⟨none,none⟩ = none) (cell : CellId) :
    (r.create.cells[cell]?).bind f = (r.cells[cell]?).bind f := by
  rcases Nat.lt_or_ge cell r.cells.length with bound|beyond
  · rw [create,getElem?_append_left bound]
  rw [create,getElem?_append_right beyond,getElem?_eq_none beyond]
  cases cell - r.cells.length with
  | zero => exact blank
  | succ => rfl

lemma create_valueOf (cell : CellId) : r.create.valueOf cell = r.valueOf cell := create_bind rfl cell

lemma create_initialiserOf (cell : CellId) : r.create.initialiserOf cell = r.initialiserOf cell := create_bind rfl cell

lemma Current.create (current : r.Current) (absent : r.entry = none) : r.create.Current := by
  refine ⟨?_,?_,?_,?_,current.handed⟩
  · intro cell there
    cases there
    change r.cells.length < (r.cells ++ [InitCell.mk none none]).length
    simp
  · intro cell actor
    rw [create_valueOf]
    exact current.spawned cell actor
  · intro actor live
    have held := current.live actor live
    unfold QueueRegistry.held at held
    rw [absent] at held
    cases held
  intro cell id initialising
  rw [create_initialiserOf] at initialising
  have busy := (current.busy cell id initialising).1
  rw [absent] at busy
  cases busy

lemma knows_create {id : CallId} (known : r.Knows id phase) : r.create.Knows id phase := by
  cases phase with
  | waiting cell =>
    change cell < (r.cells ++ [InitCell.mk none none]).length
    rw [length_append]
    exact Nat.lt_succ_of_lt known
  | initialising cell => exact (create_initialiserOf cell).trans known
  | resolved cell => exact (create_valueOf cell).trans known
  | defunct cell =>
    obtain ⟨actor,value,dead⟩ := known
    exact ⟨actor,(create_valueOf cell).trans value,dead⟩
  | round | failed | returned => trivial

end Create

section Succeed

private def fill (r : QueueRegistry) (cell : CellId) : QueueRegistry :=
  {r with live := r.live ++ [true]}.setCell cell fun _ => ⟨some r.live.length,none⟩

variable {cell : CellId} {id : CallId}

lemma initialiserOf_present (mine : r.initialiserOf cell = some id) : ∃ c, r.cells[cell]? = some c := by
  obtain ⟨c,here,-⟩ := bind_eq_some_iff.mp mine
  exact ⟨c,here⟩

lemma fill_valueOf (mine : r.initialiserOf cell = some id) (other : CellId) :
    (r.fill cell).valueOf other = if cell = other then some r.live.length else r.valueOf other := by
  obtain ⟨_,here⟩ := initialiserOf_present mine
  unfold fill
  rw [setCell_valueOf]
  split
  next same =>
    subst same
    rw [here]
    rfl
  · rfl

lemma fill_initialiserOf (other : CellId) :
    (r.fill cell).initialiserOf other = if cell = other then none else r.initialiserOf other := by
  unfold fill
  rw [setCell_initialiserOf]
  split
  · cases r.cells[other]? <;> rfl
  · rfl

lemma fill_isLive {actor : ActorId} (spawned : actor < r.live.length) :
    (r.fill cell).isLive actor = r.isLive actor := by
  change ((r.live ++ [true])[actor]?).getD false = _
  rw [getElem?_append_left spawned]
  rfl

lemma Current.fill (current : r.Current) (mine : r.initialiserOf cell = some id) : (r.fill cell).Current := by
  obtain ⟨there,unset⟩ := current.busy cell id mine
  have nobody : ∀ actor, r.isLive actor = false := by
    intro actor
    by_contra live
    have held := current.live actor (eq_true_of_ne_false live)
    unfold QueueRegistry.held at held
    rw [there] at held
    cases unset.symm.trans held
  refine ⟨?_,?_,?_,?_,current.handed⟩
  · intro other entry
    unfold QueueRegistry.fill
    rw [setCell_length]
    exact current.entry other entry
  · intro other actor value
    change actor < (r.live ++ [true]).length
    rw [length_append]
    rw [fill_valueOf mine] at value
    split at value
    · cases value
      exact Nat.lt_succ_self _
    · exact Nat.lt_succ_of_lt (current.spawned other actor value)
  · intro actor live
    have newest : actor = r.live.length := by
      rcases Nat.lt_trichotomy actor r.live.length with old|same|beyond
      · rw [fill_isLive old,nobody actor] at live
        cases live
      · exact same
      change ((r.live ++ [true])[actor]?).getD false = true at live
      rw [getElem?_eq_none (by rw [length_append]; exact beyond)] at live
      cases live
    subst newest
    exact bind_eq_some_iff.mpr ⟨cell,there,(fill_valueOf mine cell).trans (if_pos rfl)⟩
  intro other caller initialising
  rw [fill_initialiserOf] at initialising
  split at initialising
  · cases initialising
  rename_i apart
  have busy := (current.busy other caller initialising).1
  rw [there] at busy
  cases busy
  exact absurd rfl apart

lemma knows_fill (current : r.Current) (mine : r.initialiserOf cell = some id) {other : CallId}
    (apart : other ≠ id) (known : r.Knows other phase) : (r.fill cell).Knows other phase := by
  have unset := (current.busy cell id mine).2
  have values : ∀ box actor, r.valueOf box = some actor → (r.fill cell).valueOf box = some actor := by
    intro box actor value
    rw [fill_valueOf mine,if_neg]
    · exact value
    · rintro rfl
      cases unset.symm.trans value
  cases phase with
  | waiting box =>
    change box < (r.fill cell).cells.length
    unfold fill
    rw [setCell_length]
    exact known
  | initialising box =>
    change (r.fill cell).initialiserOf box = some other
    rw [fill_initialiserOf,if_neg]
    · exact known
    rintro rfl
    cases mine.symm.trans known
    exact apart rfl
  | resolved box actor => exact values box actor known
  | defunct box =>
    obtain ⟨actor,value,dead⟩ := known
    refine ⟨actor,values box actor value,?_⟩
    rw [fill_isLive (current.spawned box actor value)]
    exact dead
  | round | failed | returned => trivial

end Succeed

lemma isLive_of_stop {actor other : ActorId}
    (live : {r with live := r.live.set actor false}.isLive other = true) : r.isLive other = true := by
  unfold isLive at live ⊢
  simp only [getElem?_set] at live
  split at live
  · split at live <;> cases live
  · exact live

lemma Current.stop (current : r.Current) (actor : ActorId) :
    {r with live := r.live.set actor false}.Current := by
  refine {current with spawned := ?_,live := ?_}
  · intro cell other value
    rw [length_set]
    exact current.spawned cell other value
  · intro other live
    exact current.live other (isLive_of_stop live)

lemma knows_stop (actor : ActorId) (known : r.Knows id phase) :
    {r with live := r.live.set actor false}.Knows id phase := by
  cases phase with
  | defunct =>
    obtain ⟨other,value,dead⟩ := known
    refine ⟨other,value,?_⟩
    by_contra live
    cases dead.symm.trans (isLive_of_stop (eq_true_of_ne_false live))
  | waiting | initialising | resolved => exact known
  | round | failed | returned => trivial

section

variable (sound : r.Current ∧ r.Informed)

include sound

lemma moved (knows : r.Knows id phase) :
    (r.goto id phase).Current ∧ (r.goto id phase).Informed :=
  ⟨sound.1.goto id phase,informed_goto (fun other now _ there => sound.2 other now there) knows⟩

lemma released
    (mine : r.initialiserOf cell = some id) (knows : (r.handTo cell none).Knows id phase) :
    ((r.handTo cell none).goto id phase).Current ∧ ((r.handTo cell none).goto id phase).Informed := by
  refine ⟨(sound.1.handTo ?_).goto id phase,informed_goto ?_ knows⟩
  · rintro other ⟨⟩
  intro other now apart there
  refine knows_handTo (sound.2 other now there) ?_
  intro theirs
  cases mine.symm.trans theirs
  exact apart rfl

lemma entered {left : Nat}
    (ok : r.enterCell id cell left = some next) : next.Current ∧ next.Informed := by
  unfold enterCell at ok
  split at ok
  · cases ok
  next here =>
    cases ok
    refine moved sound ?_
    change (r.cells[cell]?).bind _ = _
    rw [here]
    rfl
  · cases ok
  rename_i here
  split at ok
  next there =>
    cases ok
    have free : r.initialiserOf cell = none := by
      unfold initialiserOf
      rw [here]
      rfl
    have unset : r.valueOf cell = none := by
      unfold valueOf
      rw [here]
      rfl
    refine ⟨(sound.1.handTo fun _ _ => ⟨there,unset⟩).goto id _,informed_goto ?_ (handTo_mine cell (some id) here)⟩
    intro other now _ present
    refine knows_handTo (sound.2 other now present) ?_
    rw [free]
    simp
  · cases ok
    exact moved sound trivial

lemma locked {full : Bool} {left : Nat}
    (ok : r.lockEntry full = some (next,cell)) :
    (next.goto id (.waiting cell left)).Current ∧ (next.goto id (.waiting cell left)).Informed := by
  unfold lockEntry at ok
  split at ok
  next there =>
    cases ok
    exact moved sound (sound.1.entry cell there)
  rename_i absent
  split at ok
  · cases ok
  cases ok
  have created : r.create.Current ∧ r.create.Informed :=
    ⟨sound.1.create absent,fun other now there => knows_create (sound.2 other now there)⟩
  exact moved created (created.1.entry _ rfl)

lemma current_step {label : Label} (undisturbed : r.Undisturbed label = true)
    (ok : r.step label = some next) : next.Current ∧ next.Informed := by
  cases label with
  | call =>
    cases ok
    refine ⟨⟨sound.1.entry,sound.1.spawned,sound.1.live,sound.1.busy,sound.1.handed⟩,?_⟩
    intro id phase there
    rcases Nat.lt_or_ge id r.calls.length with old|new
    · rw [getElem?_append_left old] at there
      exact sound.2 id phase there
    rw [getElem?_append_right new] at there
    have fresh := mem_of_getElem? there
    rw [mem_singleton] at fresh
    subst fresh
    trivial
  | getOrCreate =>
    simp only [step] at ok
    split at ok
    · cases ok
      exact moved sound trivial
    · split at ok
      · cases ok
        exact moved sound trivial
      next taken =>
        cases ok
        exact locked sound taken
    · cases ok
  | enter =>
    simp only [step] at ok
    split at ok
    · exact entered sound ok
    · cases ok
  | initialised id =>
    simp only [step] at ok
    split at ok
    next cell left at_ =>
      have mine : r.initialiserOf cell = some id := sound.2 id _ at_
      split at ok
      · cases ok
        refine ⟨(sound.1.fill mine).goto id _,informed_goto ?_ ((fill_valueOf mine cell).trans (if_pos rfl))⟩
        exact fun other now apart there => knows_fill sound.1 mine apart (sound.2 other now there)
      · cases ok
        exact released sound mine trivial
    · cases ok
  | evictFailed =>
    simp only [step] at ok
    simp only [Undisturbed] at undisturbed
    split at ok
    next failed =>
      cases ok
      simp only [failed,isNone_iff_eq_none] at undisturbed
      split
      next empty =>
        have evicted := sound.1.evict empty.1 (by intro actor value; cases empty.2.symm.trans value) undisturbed
        exact moved ⟨evicted,sound.2⟩ trivial
      · exact moved sound trivial
    · cases ok
  | handOver id =>
    simp only [step] at ok
    split at ok
    next actor left at_ =>
      split at ok
      next live =>
        cases ok
        refine moved (r := {r with handed := r.handed ++ [(actor,r.held)]}) ⟨?_,sound.2⟩ trivial
        refine ⟨sound.1.entry,sound.1.spawned,sound.1.live,sound.1.busy,?_⟩
        intro pair member
        rcases mem_append.mp member with old|new
        · exact sound.1.handed pair old
        rw [mem_singleton] at new
        subst new
        exact sound.1.live actor live
      next dead =>
        cases ok
        exact moved sound ⟨actor,sound.2 id _ at_,Bool.eq_false_iff.mpr dead⟩
    · cases ok
  | evictDefunct id =>
    simp only [step] at ok
    split at ok
    next cell left at_ =>
      cases ok
      obtain ⟨_,value,dead⟩ := sound.2 id _ at_
      split
      next there =>
        refine moved ⟨sound.1.evict there ?_ ?_,sound.2⟩ trivial
        · intro other same
          cases value.symm.trans same
          exact dead
        cases busy : r.initialiserOf cell with
        | none => rfl
        | some who => cases value.symm.trans (sound.1.busy cell who busy).2
      · exact moved sound trivial
    · cases ok
  | abandon id =>
    simp only [step] at ok
    split at ok
    next at_ =>
      cases ok
      exact released sound (sound.2 id _ at_) trivial
    · cases ok
      exact moved sound trivial
    · cases ok
  | stop actor =>
    cases ok
    exact ⟨sound.1.stop actor,fun id phase there => knows_stop actor (sound.2 id phase there)⟩

end

/-- At most one actor lives, and every handle was the one in the map's entry when it was returned. -/
structure Exclusive (r : QueueRegistry) : Prop where
  one : ∀ first second, r.isLive first = true → r.isLive second = true → first = second
  held : ∀ pair ∈ r.handed, pair.2 = some pair.1

lemma Current.exclusive (current : r.Current) : r.Exclusive := by
  refine ⟨?_,current.handed⟩
  intro first second live other
  exact some.inj ((current.live first live).symm.trans (current.live second other))

theorem undisturbed_resolve_exclusive (labels : List Label)
    (undisturbed : Transition.Meets step (fun r label => r.Undisturbed label = true) {} labels)
    (ok : run step {} labels = some r) : r.Exclusive := by
  have initial : Current {} ∧ Informed {} :=
    ⟨⟨nofun,nofun,nofun,nofun,nofun⟩,nofun⟩
  have sound : r.Current ∧ r.Informed :=
    run_invariant (P := fun r => r.Current ∧ r.Informed) (fun sound => current_step sound) initial undisturbed ok
  exact sound.1.exclusive

def failedThenRetried : List Label :=
  [.call,.call,.getOrCreate 0 false,.getOrCreate 1 false,.enter 0,.initialised 0 false,.evictFailed 0,.enter 1,
    .getOrCreate 1 false,.enter 1,.initialised 1 true,.handOver 1,.stop 0,.call,.getOrCreate 2 false,.enter 2,
    .handOver 2,.evictDefunct 2,.getOrCreate 2 false,.enter 2,.initialised 2 true,.handOver 2]

theorem undisturbed_resolve_exclusive_retried : ∃ r, run step {} failedThenRetried = some r ∧
    r.handed = [(0,some 0),(1,some 1)] ∧ r.Exclusive := by
  refine reaches_and (by decide) fun r ok _ => ?_
  exact undisturbed_resolve_exclusive failedThenRetried (meets_of_check (by decide)) ok

def evictedUnderWay : List Label :=
  [.call,.call,.call,.getOrCreate 0 false,.getOrCreate 1 false,.enter 0,.initialised 0 false,.enter 1,.evictFailed 0,
    .getOrCreate 2 false,.enter 2,.initialised 1 true,.handOver 1,.initialised 2 true,.handOver 2]

theorem two_actors : ∃ r, run step {} evictedUnderWay = some r ∧ r.isLive 0 = true ∧ r.isLive 1 = true ∧
    r.handed = [(0,none),(1,some 1)] ∧ ¬ r.Exclusive := by
  refine reaches_then (P := fun r => r.isLive 0 = true ∧ r.isLive 1 = true ∧ r.handed = [(0,none),(1,some 1)])
    (by decide) fun r _ ⟨first,second,handed⟩ => ⟨first,second,handed,?_⟩
  intro exclusive
  exact absurd (exclusive.one 0 1 first second) (by decide)

end Ramqp.QueueRegistry
