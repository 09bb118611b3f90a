import Ramqp.Semantics.Queue
import Ramqp.Library.Entries

/-! What the shared dispatch primitives do to the subscribers of a queue, and that the delivery loop
of the transient queue comes to rest. -/
namespace Ramqp

open Std List

namespace Ring

variable {r next : Ring} {sub : Subscriber}

def ids (r : Ring) : List SubId := r.subs.map Subscriber.id

lemma pickReady_some {subs : List Subscriber} {rr idx : Nat} (picked : pickReady subs rr = some idx) :
    ∃ sub, subs[idx]? = some sub ∧ 0 < sub.demand := by
  obtain ⟨i,-,there⟩ := exists_of_findSome?_eq_some picked
  dsimp only at there
  split at there
  next demanded =>
    cases there
    obtain ⟨sub,found,positive⟩ := Option.any_eq_true _ _ |>.mp demanded
    exact ⟨sub,found,of_decide_eq_true positive⟩
  · cases there

lemma take_some (taken : r.take = some (sub,next)) : ∃ idx, r.subs[idx]? = some sub ∧ 0 < sub.demand ∧
      next = {r with subs := r.subs.set idx {sub with demand := sub.demand - 1},rr := (idx + 1) % r.subs.length} := by
  unfold take at taken
  obtain ⟨idx,picked,charged⟩ := Option.bind_eq_some_iff.mp taken
  obtain ⟨_,present,positive⟩ := pickReady_some picked
  rw [present] at charged
  cases charged
  exact ⟨idx,present,positive,rfl⟩

lemma take_ids (taken : r.take = some (sub,next)) :
    next.ids = r.ids ∧ next.nextSubId = r.nextSubId ∧ sub.id ∈ r.ids := by
  obtain ⟨_,present,-,rfl⟩ := take_some taken
  refine ⟨?_,rfl,mem_map_of_mem (mem_of_getElem? present)⟩
  simp only [ids,map_set]
  refine ext_getElem? fun i => ?_
  rw [getElem?_set]
  split
  next here =>
    subst here
    obtain ⟨inside,rfl⟩ := List.getElem?_eq_some_iff.mp present
    simp [inside]
  · rfl

@[simp] lemma completeDrains_ids : ({r with subs := completeDrains r.subs} : Ring).ids = r.ids := by
  unfold ids completeDrains
  rw [map_map]
  refine map_congr_left fun sub _ => ?_
  dsimp only [Function.comp]
  split <;> rfl

lemma grantFirst_ids (sub : SubId) (credit : UInt32) (drain : Bool) (subs : List Subscriber) :
    (grantFirst sub credit drain subs).map Subscriber.id = subs.map Subscriber.id := by
  induction subs with
  | nil => rfl
  | cons s rest ih =>
    unfold grantFirst
    split
    · rfl
    · rw [map_cons,map_cons,ih]

@[simp] lemma grant_ids (sub : SubId) :
    (r.grant sub credit drain).ids = r.ids := grantFirst_ids sub credit drain r.subs

@[simp] lemma subscribe_ids (r : Ring) (conn : ConnRef) (channel : UInt16) (handle : UInt32) (bindingGen : Nat) :
    (r.subscribe conn channel handle bindingGen).ids = r.ids ++ [r.nextSubId + 1] := by
  simp [ids,subscribe]

lemma mem_remove_ids {sub other : SubId} : other ∈ (r.remove sub).ids ↔ other ∈ r.ids ∧ other ≠ sub := by
  simp only [ids,remove,mem_map,mem_filter,decide_eq_true_eq]
  constructor
  · rintro ⟨s,⟨member,differs⟩,rfl⟩
    exact ⟨⟨s,member,rfl⟩,differs⟩
  · rintro ⟨⟨s,member,rfl⟩,differs⟩
    exact ⟨s,⟨member,differs⟩,rfl⟩

lemma remove_ids_sublist (sub : SubId) : (r.remove sub).ids.Sublist r.ids := filter_sublist.map _

end Ring

namespace TransientQueue

lemma unacked_split (q : TransientQueue) (sub : SubId) :
    q.unacked.toList.Perm (q.unacked.toList.filter (fun entry => entry.2.2 = sub) ++
      (q.unacked.filter (fun _ entry => entry.2 ≠ sub)).toList) := by
  have split := Entries.toList_filter_perm q.unacked fun _ entry => entry.2 ≠ sub
  have here : q.unacked.toList.filter (fun entry => !decide (entry.2.2 ≠ sub)) =
      q.unacked.toList.filter (fun entry => decide (entry.2.2 = sub)) := by
    refine filter_congr fun entry _ => ?_
    by_cases same : entry.2.2 = sub <;> simp [same]
  rwa [here] at split

lemma requeueHeld_unacked {q : TransientQueue} {id : Nat} {stored : Stored} {owner : SubId} :
    (q.requeueHeld sub).unacked[id]? = some (stored,owner) ↔ q.unacked[id]? = some (stored,owner) ∧ owner ≠ sub := by
  simp only [requeueHeld,ExtTreeMap.getElem?_filter',Option.filter_eq_some_iff,decide_eq_true_eq]

structure OnlyReady (q next : TransientQueue) : Prop where
  unacked : next.unacked = q.unacked
  ring : next.ring = q.ring
  reserved : next.reserved = q.reserved
  nextMsgId : next.nextMsgId = q.nextMsgId

/-- Some messages at the head of the queue are dead-lettered with this ending. -/
inductive Sheds (p : EffectivePolicy) (ending : Ending) : TransientQueue → TransientQueue × List QueueEffect → Prop where
  | stop (q : TransientQueue) : Sheds p ending q (q,[])
  | next {q : TransientQueue} {old : Stored} {rest : List Stored} {result : TransientQueue × List QueueEffect}
      (listed : q.ready = old::rest)
      (later : Sheds p ending {q with ready := rest,bytes := q.bytes - old.body.length} result) :
      Sheds p ending q (result.1,p.routeDead ending old ++ result.2)

variable (p : EffectivePolicy) {q : TransientQueue} {ready : List Stored}

lemma makeRoom_sheds (len : Nat) (same : q.ready = ready) : Sheds p .maxlen q (makeRoom p len ready q) := by
  induction ready generalizing q with
  | nil => exact .stop q
  | cons old rest ih =>
    unfold makeRoom
    split
    · exact .next same (ih rfl)
    · exact .stop q

lemma expireHead_sheds (now : Nat) (same : q.ready = ready) : Sheds p .expired q (expireHead p now ready q) := by
  induction ready generalizing q with
  | nil => exact .stop q
  | cons old rest ih =>
    unfold expireHead
    split
    · exact .next same (ih rfl)
    · exact .stop q

lemma roomFor_sheds (len : Nat) (q : TransientQueue) : Sheds p .maxlen q (q.roomFor p len) := by
  unfold roomFor
  split
  · exact makeRoom_sheds p len rfl
  · exact .stop q

lemma expire_sheds (now : Nat) (q : TransientQueue) : Sheds p .expired q (q.expire p now) := by
  unfold expire
  split
  · exact expireHead_sheds p now rfl
  · exact .stop q

variable {p} {ending : Ending} {result : TransientQueue × List QueueEffect}

lemma Sheds.onlyReady (sheds : Sheds p ending q result) : OnlyReady q result.1 := by
  induction sheds with
  | stop => exact ⟨rfl,rfl,rfl,rfl⟩
  | next _ _ ih =>
    obtain ⟨unacked,ring,reserved,counter⟩ := ih
    exact ⟨unacked,ring,reserved,counter⟩

lemma Sheds.keeps (sheds : Sheds p ending q result) {stored : Stored} (ready : stored ∈ q.ready) :
    stored ∈ result.1.ready ∨ .ended stored.id stored.body ending ∈ result.2 := by
  induction sheds with
  | stop => exact .inl ready
  | next listed _ ih =>
    rw [listed] at ready
    rcases mem_cons.mp ready with rfl | later
    · exact .inr mem_cons_self
    · exact (ih later).imp_right (mem_append_right _)

lemma Sheds.length_le (sheds : Sheds p ending q result) : result.1.ready.length ≤ q.ready.length := by
  induction sheds with
  | stop => exact le_rfl
  | next listed _ ih =>
    rw [listed]
    exact ih.trans (Nat.le_succ _)

end TransientQueue

end Ramqp
