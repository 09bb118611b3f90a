import Ramqp.Semantics.Leader
import Ramqp.Dispatch

/-! Where the messages of a leader's applied state are, and how one is moved from a place to another. -/
namespace Ramqp

open Std List Function Entries

inductive Site where
  | absent
  | ready
  | held (sub : SubId)
  | removing
  | arriving
  deriving DecidableEq

def Site.released (sub : SubId) (place : Site) : Site := if place = .held sub then .ready else place

variable {sub : SubId} {place : Site}

lemma Site.released_ready : place.released sub = .ready ↔ place = .ready ∨ place = .held sub := by
  unfold released
  split
  · simp_all
  · simp_all

lemma Site.released_held {other : SubId} : place.released sub = .held other ↔ place = .held other ∧ other ≠ sub := by
  unfold released
  split
  · simp_all
  · grind

lemma Site.released_other (c : Site) (ready : c ≠ .ready) (held : ∀ sub, c ≠ .held sub) :
    place.released sub = c ↔ place = c := by
  unfold released
  split
  next here =>
    exact ⟨fun same => absurd same.symm ready,fun same => absurd (same.symm.trans here) (held sub)⟩
  · exact Iff.rfl

structure Located (q : QuorumQueue) (state : QueueState) (removals arrivals : List Nat) (place : Nat → Site) : Prop where
  ready : ∀ id, id ∈ q.ready ↔ place id = .ready
  held : ∀ (id : Nat) sub, q.inflight[id]? = some sub ↔ place id = .held sub
  removing : ∀ id, id ∈ removals ↔ place id = .removing
  arriving : ∀ id, id ∈ arrivals ↔ place id = .arriving
  applied : ∀ id : Nat, (state.messages[id]?).isSome ↔ place id ≠ .absent
  registered : ∀ id sub, place id = .held sub → sub ∈ q.ring.ids
  removingOnce : removals.Nodup
  arrivingOnce : arrivals.Nodup
  numbered : ∀ id, place id ≠ .absent → id ≤ state.nextMsgId

section Moving

variable {q : QuorumQueue} {state : QueueState} {removals arrivals : List Nat} {place : Nat → Site} {id : Nat} {dest : Site}

variable {ready : ExtTreeSet Nat compare} {x : Nat} {c : Site}

lemma mem_erase_iff : x ∈ ready.erase id ↔ x ≠ id ∧ x ∈ ready := by
  rw [ExtTreeSet.mem_erase,ne_eq,ne_eq,LawfulEqCmp.compare_eq_iff_eq,eq_comm]

lemma mem_insert_iff : x ∈ ready.insert id ↔ x = id ∨ x ∈ ready := by
  rw [ExtTreeSet.mem_insert,LawfulEqCmp.compare_eq_iff_eq,eq_comm]

lemma update_eq_iff {old : Site} (at_ : place id = old) (other : old ≠ c) (apart : dest ≠ c) (x : Nat) :
    update place id dest x = c ↔ place x = c := by
  by_cases here : x = id
  · subst here
    rw [update_self,at_]
    exact ⟨fun same => absurd same apart,fun same => absurd same other⟩
  · rw [update_of_ne here]

private lemma frame {old : Site} {member : Prop} (same : member ↔ place x = c) (at_ : place id = old)
    (other : old ≠ c) (apart : dest ≠ c) : member ↔ update place id dest x = c :=
  same.trans (update_eq_iff at_ other apart x).symm

lemma mem_of_perm {list rest : List Nat} (once : list.Nodup) (perm : list.Perm (id::rest)) (apart : dest ≠ c)
    (listed : ∀ x, x ∈ list ↔ place x = c) (x : Nat) : x ∈ rest ↔ update place id dest x = c := by
  have outside : id ∉ rest := (nodup_cons.mp (perm.nodup_iff.mp once)).1
  by_cases here : x = id
  · subst here
    simp [outside,apart]
  · rw [update_of_ne here,← listed,perm.mem_iff,mem_cons]
    exact ⟨Or.inr,fun either => either.resolve_left here⟩

lemma mem_foldl_insert {entries : List (Nat × SubId)} :
    x ∈ entries.foldl (fun ready entry => ready.insert entry.1) ready ↔ x ∈ ready ∨ ∃ sub, (x,sub) ∈ entries := by
  induction entries generalizing ready with
  | nil => simp
  | cons entry rest ih =>
    rw [foldl_cons,ih,mem_insert_iff]
    obtain ⟨key,owner⟩ := entry
    simp only [mem_cons,Prod.mk.injEq,exists_or,exists_and_left,exists_eq,and_true]
    tauto

namespace Located

variable (located : Located q state removals arrivals place)

variable {removals' arrivals' rest : List Nat}

variable {next : QueueState} {sub : SubId}

include located

lemma ready_erase (apart : dest ≠ .ready) (x : Nat) : x ∈ q.ready.erase id ↔ update place id dest x = .ready := by
  rw [mem_erase_iff,located.ready]
  by_cases here : x = id
  · subst here
    simp [apart]
  · simp [here]

lemma ready_insert (x : Nat) : x ∈ q.ready.insert id ↔ update place id .ready x = .ready := by
  rw [mem_insert_iff,located.ready]
  by_cases here : x = id
  · subst here
    simp
  · simp [here]

lemma held_erase (apart : ∀ sub, dest ≠ .held sub) (x : Nat) (sub : SubId) :
    (q.inflight.erase id)[x]? = some sub ↔ update place id dest x = .held sub := by
  rw [getElem?_erase]
  by_cases here : x = id
  · subst here
    simp [apart]
  · rw [if_neg (Ne.symm here),update_of_ne here]
    exact located.held x sub

lemma held_insert (owner : SubId) (x : Nat) (sub : SubId) :
    (q.inflight.insert id owner)[x]? = some sub ↔ update place id (.held owner) x = .held sub := by
  rw [Entries.getElem?_insert]
  by_cases here : x = id
  · subst here
    simp
  · rw [if_neg (Ne.symm here),update_of_ne here]
    exact located.held x sub

lemma removing_append (x : Nat) : x ∈ removals ++ [id] ↔ update place id .removing x = .removing := by
  rw [mem_append,mem_singleton,located.removing]
  by_cases here : x = id
  · subst here
    simp
  · simp [here]

lemma relocate (dest : Site) (present : place id ≠ .absent) (stays : dest ≠ .absent) {next : QuorumQueue}
    (ready : ∀ x, x ∈ next.ready ↔ update place id dest x = .ready)
    (held : ∀ (x : Nat) sub, next.inflight[x]? = some sub ↔ update place id dest x = .held sub)
    (removes : ∀ x, x ∈ removals' ↔ update place id dest x = .removing)
    (arrives : ∀ x, x ∈ arrivals' ↔ update place id dest x = .arriving)
    (registered : ∀ sub, dest = .held sub → sub ∈ next.ring.ids) (ids : next.ring.ids = q.ring.ids)
    (removingOnce : removals'.Nodup) (arrivingOnce : arrivals'.Nodup) :
    Located next state removals' arrivals' (update place id dest) := by
  have absent : ∀ x, update place id dest x = .absent ↔ place x = .absent := update_eq_iff rfl present stays
  refine ⟨ready,held,removes,arrives,fun x => ?_,fun x sub there => ?_,removingOnce,arrivingOnce,fun x there => ?_⟩
  · rw [ne_eq,absent]
    exact located.applied x
  · by_cases here : x = id
    · subst here
      rw [update_self] at there
      exact registered sub there
    · rw [update_of_ne here] at there
      exact ids ▸ located.registered x sub there
  · rw [ne_eq,absent] at there
    exact located.numbered x there

lemma append_nodup (elsewhere : place id ≠ .removing) : (removals ++ [id]).Nodup := by
  refine nodup_append.mpr ⟨located.removingOnce,nodup_singleton id,fun a inside b here same => ?_⟩
  rw [same,mem_singleton.mp here,located.removing] at inside
  exact elsewhere inside

lemma evict (at_ : place id = .ready) :
    Located {q with ready := q.ready.erase id} state (removals ++ [id]) arrivals (update place id .removing) := by
  refine located.relocate .removing (by rw [at_]; nofun) nofun (located.ready_erase nofun) (fun x sub => ?_)
    located.removing_append (fun x => ?_) nofun rfl (located.append_nodup (by rw [at_]; nofun)) located.arrivingOnce
  · exact frame (located.held x sub) at_ nofun nofun
  · exact frame (located.arriving x) at_ nofun nofun

lemma settle (at_ : place id = .held sub) :
    Located {q with inflight := q.inflight.erase id} state (removals ++ [id]) arrivals
      (update place id .removing) := by
  refine located.relocate .removing (by rw [at_]; nofun) nofun (fun x => ?_) (located.held_erase nofun)
    located.removing_append (fun x => ?_) nofun rfl (located.append_nodup (by rw [at_]; nofun)) located.arrivingOnce
  · exact frame (located.ready x) at_ nofun nofun
  · exact frame (located.arriving x) at_ nofun nofun

lemma requeue (at_ : place id = .held sub) :
    Located {q with inflight := q.inflight.erase id,ready := q.ready.insert id} state removals arrivals
      (update place id .ready) := by
  refine located.relocate .ready (by rw [at_]; nofun) nofun located.ready_insert (located.held_erase nofun) (fun x => ?_)
    (fun x => ?_) nofun rfl located.removingOnce located.arrivingOnce
  · exact frame (located.removing x) at_ nofun nofun
  · exact frame (located.arriving x) at_ nofun nofun

lemma deliver (at_ : place id = .ready) (known : sub ∈ q.ring.ids) :
    Located {q with ready := q.ready.erase id,inflight := q.inflight.insert id sub} state removals arrivals
      (update place id (.held sub)) := by
  refine located.relocate (.held sub) (by rw [at_]; nofun) nofun (located.ready_erase nofun) (located.held_insert sub)
    (fun x => ?_) (fun x => ?_) ?_ rfl located.removingOnce located.arrivingOnce
  · exact frame (located.removing x) at_ nofun nofun
  · exact frame (located.arriving x) at_ nofun nofun
  · rintro other ⟨⟩
    exact known

lemma arrive (perm : arrivals.Perm (id::rest)) :
    Located {q with ready := q.ready.insert id} state removals rest (update place id .ready) := by
  have at_ : place id = .arriving := (located.arriving id).mp (perm.mem_iff.mpr mem_cons_self)
  refine located.relocate .ready (by rw [at_]; nofun) nofun located.ready_insert (fun x sub => ?_) (fun x => ?_)
    (mem_of_perm located.arrivingOnce perm nofun located.arriving) nofun rfl located.removingOnce
    (nodup_cons.mp (perm.nodup_iff.mp located.arrivingOnce)).2
  · exact frame (located.held x sub) at_ nofun nofun
  · exact frame (located.removing x) at_ nofun nofun

lemma requeueHeld (sub : SubId) {ring : Ring} (ids : ∀ other ∈ q.ring.ids, other ≠ sub → other ∈ ring.ids) :
    Located ({q with ring}.requeueHeld sub) state removals arrivals (fun id => (place id).released sub) := by
  refine ⟨fun x => ?_,fun x other => ?_,fun x => ?_,fun x => ?_,fun x => ?_,fun x other there => ?_,located.removingOnce,
    located.arrivingOnce,fun x there => ?_⟩
  · have listed : (∃ owner, (x,owner) ∈ q.inflight.toList.filter fun entry => entry.2 = sub) ↔ place x = .held sub := by
      simp [ExtTreeMap.mem_toList_iff_getElem?_eq_some,located.held]
    rw [Site.released_ready,← located.ready,← listed]
    exact mem_foldl_insert
  · rw [Site.released_held,← located.held]
    simp only [QuorumQueue.requeueHeld,ExtTreeMap.getElem?_filter',Option.filter_eq_some_iff,decide_eq_true_eq]
  · exact (located.removing x).trans (Site.released_other .removing nofun nofun).symm
  · exact (located.arriving x).trans (Site.released_other .arriving nofun nofun).symm
  · exact (located.applied x).trans (not_congr (Site.released_other .absent nofun nofun).symm)
  · obtain ⟨held,apart⟩ := Site.released_held.mp there
    exact ids other (located.registered x other held) apart
  · exact located.numbered x fun absent => there ((Site.released_other .absent nofun nofun).mpr absent)

lemma same {next : QuorumQueue} (ready : next.ready = q.ready) (inflight : next.inflight = q.inflight)
    (ids : ∀ sub ∈ q.ring.ids, sub ∈ next.ring.ids) : Located next state removals arrivals place := by
  refine {located with ready := ?_,held := ?_,registered := ?_}
  · rw [ready]
    exact located.ready
  · rw [inflight]
    exact located.held
  · exact fun id sub there => ids sub (located.registered id sub there)

lemma remove (perm : removals.Perm (id::rest)) (messages : next.messages = state.messages.erase id)
    (counter : next.nextMsgId = state.nextMsgId) :
    Located q next rest arrivals (update place id .absent) := by
  have at_ : place id = .removing := (located.removing id).mp (perm.mem_iff.mpr mem_cons_self)
  have held : ∀ (x : Nat) sub, q.inflight[x]? = some sub ↔ update place id .absent x = .held sub :=
    fun x sub => frame (located.held x sub) at_ nofun nofun
  have stays : ∀ x, update place id .absent x ≠ .absent → x ≠ id ∧ place x ≠ .absent := by
    intro x there
    by_cases here : x = id
    · subst here
      rw [update_self] at there
      exact absurd rfl there
    · rw [update_of_ne here] at there
      exact ⟨here,there⟩
  refine ⟨fun x => frame (located.ready x) at_ nofun nofun,held,
    mem_of_perm located.removingOnce perm nofun located.removing,fun x => frame (located.arriving x) at_ nofun nofun,
    fun x => ?_,fun x sub there => ?_,(nodup_cons.mp (perm.nodup_iff.mp located.removingOnce)).2,
    located.arrivingOnce,fun x there => ?_⟩
  · rw [messages,getElem?_erase]
    by_cases here : x = id
    · subst here
      simp
    · rw [if_neg (Ne.symm here),update_of_ne here]
      exact located.applied x
  · exact located.registered x sub ((located.held x sub).mp ((held x sub).mpr there))
  · exact counter ▸ located.numbered x (stays x there).2

lemma enqueue {m : ReplicatedMessage} (messages : next.messages = state.messages.insert (state.nextMsgId + 1) m)
    (counter : next.nextMsgId = state.nextMsgId + 1) :
    Located q next removals (arrivals ++ [state.nextMsgId + 1]) (update place (state.nextMsgId + 1) .arriving) := by
  have at_ : place (state.nextMsgId + 1) = .absent := by
    by_contra present
    exact absurd (located.numbered _ present) (Nat.not_succ_le_self _)
  have held : ∀ (x : Nat) sub, q.inflight[x]? = some sub ↔
      update place (state.nextMsgId + 1) .arriving x = .held sub :=
    fun x sub => frame (located.held x sub) at_ nofun nofun
  have fresh : state.nextMsgId + 1 ∉ arrivals := by
    rw [located.arriving,at_]
    nofun
  refine ⟨fun x => frame (located.ready x) at_ nofun nofun,held,
    fun x => frame (located.removing x) at_ nofun nofun,fun x => ?_,fun x => ?_,fun x sub there => ?_,
    located.removingOnce,?_,fun x there => ?_⟩
  · rw [mem_append,mem_singleton,located.arriving]
    by_cases here : x = state.nextMsgId + 1
    · subst here
      simp
    · simp [here]
  · rw [messages,Entries.getElem?_insert]
    by_cases here : x = state.nextMsgId + 1
    · subst here
      simp
    · rw [if_neg (Ne.symm here),update_of_ne here]
      exact located.applied x
  · exact located.registered x sub ((located.held x sub).mp ((held x sub).mpr there))
  · refine nodup_append.mpr ⟨located.arrivingOnce,nodup_singleton _,fun a inside b here same => ?_⟩
    rw [same,mem_singleton.mp here] at inside
    exact fresh inside
  rw [counter]
  by_cases here : x = state.nextMsgId + 1
  · exact here.le
  · rw [update_of_ne here] at there
    exact (located.numbered x there).trans (Nat.le_succ _)

lemma perm (removes : removals.Perm removals') (arrives : arrivals.Perm arrivals') :
    Located q state removals' arrivals' place :=
  ⟨located.ready,located.held,fun x => removes.mem_iff.symm.trans (located.removing x),
    fun x => arrives.mem_iff.symm.trans (located.arriving x),located.applied,located.registered,
    removes.nodup_iff.mp located.removingOnce,arrives.nodup_iff.mp located.arrivingOnce,located.numbered⟩

lemma restate (messages : ∀ x : Nat, (next.messages[x]?).isSome = (state.messages[x]?).isSome)
    (counter : next.nextMsgId = state.nextMsgId) : Located q next removals arrivals place := by
  refine {located with applied := fun x => ?_,numbered := fun x there => ?_}
  · rw [messages]
    exact located.applied x
  · exact counter ▸ located.numbered x there

end Located

end Moving

end Ramqp
