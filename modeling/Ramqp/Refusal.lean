import Ramqp.Conservation
import Ramqp.Semantics.Durable
import Ramqp.Semantics.Quorum

/-! What a refused publish does to the messages a queue has. With drop-head the actors evict before
they have decided to admit the publish, so that a refusal may come after a loss. -/
namespace Ramqp

open Std QueueEffect List Std.ExtTreeMap

lemma refusePublish_letter (ack : Option PublishAck) : (refusePublish ack).filterMap letter = [] := by
  cases ack <;> rfl

namespace TransientQueue

/-- Same messages in the same order, and nothing dead-lettered. -/
def Untouched (q next : TransientQueue) (effects : List QueueEffect) : Prop :=
  next.ready = q.ready ∧ next.unacked = q.unacked ∧ effects.filterMap letter = []

variable (p : EffectivePolicy)

def evicts (q : TransientQueue) (len : Nat) : Bool :=
  p.dropHead && q.isOver p len && !q.ready.isEmpty

lemma roomFor_untouched (len : Nat) (q : TransientQueue) :
    Untouched q (q.roomFor p len).1 (q.roomFor p len).2 ↔ q.evicts p len = false := by
  unfold roomFor evicts
  cases policy : p.dropHead with
  | false => simp [Untouched]
  | true =>
    cases listed : q.ready with
    | nil => simp [Untouched,makeRoom,listed]
    | cons old rest =>
      cases above : q.isOver p len with
      | false => simp [Untouched,makeRoom,above,listed]
      | true =>
        have sheds : Sheds p .maxlen {q with ready := rest,bytes := q.bytes - old.body.length} _ := makeRoom_sheds p len rfl
        have shorter := sheds.length_le
        dsimp only at shorter
        have changed : (makeRoom p len (old::rest) q).1.ready ≠ old::rest := by
          intro same
          have longer := congrArg length same
          unfold makeRoom at longer
          rw [if_pos above,length_cons] at longer
          dsimp only at longer
          omega
        simp [Untouched,listed,changed]

lemma publish_refused {p : EffectivePolicy} {now : Nat} {q : TransientQueue} {body : Bytes}
    {ack : Option PublishAck} (refused : (q.publish p now body ack false).2.2 = false) :
    q.publish p now body ack false =
      ((q.roomFor p body.length).1,(q.roomFor p body.length).2 ++ refusePublish ack,false) := by
  unfold publish at refused ⊢
  dsimp only at refused ⊢
  split at refused
  next full =>
    rw [if_pos full]
    rfl
  · cases refused

lemma refusal_untouched (now : Nat) (q : TransientQueue) (body : Bytes)
    (ack : Option PublishAck) (refused : (q.publish p now body ack false).2.2 = false) :
    Untouched q (q.publish p now body ack false).1 (q.publish p now body ack false).2.1 ↔
      q.evicts p body.length = false := by
  rw [publish_refused refused,← roomFor_untouched]
  simp [Untouched,refusePublish_letter]

end TransientQueue

namespace DurableQueue

def removes : DurableEffect → Bool
  | .submit (.remove _ _) => true
  | .removeAfter _ _ _ => true
  | _ => false

def Untouched (q next : DurableQueue) (effects : List DurableEffect) : Prop :=
  next.ready = q.ready ∧ next.inflight = q.inflight ∧ effects.any removes = false

variable (p : EffectivePolicy)

def evicts (q : DurableQueue) (len : Nat) : Bool :=
  p.dropHead && q.isOver p len && !q.ready.isEmpty

section

variable (queue : Nat) (read : Nat → Option Bytes)

lemma makeRoom_size (len : Nat) (entries : List (Nat × Nat × Nat)) (q : DurableQueue) :
    (makeRoom p queue read len entries q).1.ready.size ≤ q.ready.size := by
  induction entries generalizing q with
  | nil => exact le_rfl
  | cons old rest ih =>
    obtain ⟨oldId,_,oldLen⟩ := old
    unfold makeRoom
    split
    · exact (ih (q.letGo oldId oldLen)).trans size_erase_le
    · exact le_rfl

lemma roomFor_untouched (len : Nat) (q : DurableQueue) :
    Untouched q (q.roomFor p queue read len).1 (q.roomFor p queue read len).2 ↔ q.evicts p len = false := by
  unfold roomFor evicts
  cases policy : p.dropHead with
  | false => simp [Untouched]
  | true =>
    cases listed : q.ready.toList with
    | nil =>
      have none : q.ready.isEmpty = true := by rw [← isEmpty_toList,listed]; rfl
      simp [Untouched,makeRoom,none]
    | cons old rest =>
      obtain ⟨oldId,oldMs,oldLen⟩ := old
      have some : q.ready.isEmpty = false := by rw [← isEmpty_toList,listed]; rfl
      cases above : q.isOver p len with
      | false => simp [Untouched,makeRoom,above]
      | true =>
        have present : oldId ∈ q.ready := by
          have there := mem_toList_iff_getElem?_eq_some.mp (listed ▸ mem_cons_self)
          exact mem_iff_isSome_getElem?.mpr (by rw [there]; rfl)
        have smaller := makeRoom_size p queue read len rest (q.letGo oldId oldLen)
        have changed : (makeRoom p queue read len ((oldId,oldMs,oldLen)::rest) q).1.ready ≠ q.ready := by
          intro same
          have sizes := congrArg size same
          unfold makeRoom at sizes
          rw [if_pos above] at sizes
          dsimp only at sizes
          rw [sizes] at smaller
          have erased : (q.letGo oldId oldLen).ready.size = q.ready.size - 1 := by
            simp [letGo,size_erase,present]
          have positive : 0 < q.ready.size := by
            rw [← length_toList,listed]
            exact Nat.succ_pos _
          omega
        simp [Untouched,some,changed]

lemma publish_untouched (now : Nat)
    (q : DurableQueue) (body : Bytes) (ack : Option PublishAck) (fromReserved : Bool) :
    Untouched q (q.publish p queue read now body ack fromReserved).1
      (q.publish p queue read now body ack fromReserved).2.1 ↔
      (q.useSlot fromReserved).evicts p body.length = false := by
  have same : (q.useSlot fromReserved).ready = q.ready ∧ (q.useSlot fromReserved).inflight = q.inflight := by
    cases fromReserved <;> exact ⟨rfl,rfl⟩
  rw [← roomFor_untouched p queue read body.length (q.useSlot fromReserved)]
  unfold publish
  generalize (q.useSlot fromReserved).roomFor p queue read body.length = made
  have refusal : ((refusePublish ack).map DurableEffect.send).any removes = false := by cases ack <;> rfl
  dsimp only
  split
  · simp [Untouched,same,any_append,refusal]
  · simp [Untouched,same,any_append,admitPublish,removes]

end

lemma refusal_untouched (q : DurableQueue) (done : PendingPublish) :
    Untouched q (q.committed done false).1 (q.committed done false).2 := by
  refine ⟨rfl,rfl,?_⟩
  change ((refusePublish done.ack).map DurableEffect.send).any removes = false
  cases done.ack <;> rfl

end DurableQueue

namespace QuorumQueue

def removes : Proposal → Bool
  | .remove _ _ => true
  | _ => false

def Untouched (q next : QuorumQueue) (effects : List QueueEffect) : Prop :=
  next.ready = q.ready ∧ next.inflight = q.inflight ∧ next.commits.filter removes = q.commits.filter removes ∧
    effects.filterMap letter = []

def evicts (p : EffectivePolicy) (q : QuorumQueue) : Bool :=
  p.dropHead && decide (p.maxLen ≤ q.depth) && !q.ready.isEmpty

lemma roomFor_untouched (p : EffectivePolicy) (view : QueueView) (fromReserved : Bool) (q : QuorumQueue) :
    Untouched q (q.roomFor p view fromReserved).1 (q.roomFor p view fromReserved).2.1 ↔ q.evicts p = false := by
  unfold roomFor evicts
  by_cases full : p.maxLen ≤ q.depth
  · cases policy : p.dropHead with
    | false => simp [Untouched,full]
    | true =>
      cases listed : q.ready.toList with
      | nil =>
        have none : q.ready.isEmpty = true := by rw [← ExtTreeSet.isEmpty_toList,listed]; rfl
        simp [Untouched,full,none]
      | cons oldId =>
        have some : q.ready.isEmpty = false := by rw [← ExtTreeSet.isEmpty_toList,listed]; rfl
        have present : oldId ∈ q.ready := ExtTreeSet.mem_toList.mp (listed ▸ mem_cons_self)
        have changed : q.ready.erase oldId ≠ q.ready := by
          intro same
          rw [← same,ExtTreeSet.mem_erase] at present
          exact present.1 compare_self
        simp [Untouched,full,some,propose,changed]
  · simp [Untouched,full]

lemma publish_untouched (p : EffectivePolicy) (view : QueueView) (now : Nat) (q : QuorumQueue)
    (body : Bytes) (ack : Option PublishAck) (fromReserved : Bool) :
    Untouched q (q.publish p view now body ack fromReserved).1 (q.publish p view now body ack fromReserved).2.1 ↔
      (q.useSlot fromReserved).evicts p = false := by
  have same : (q.useSlot fromReserved).ready = q.ready ∧ (q.useSlot fromReserved).inflight = q.inflight ∧
      (q.useSlot fromReserved).commits = q.commits := by
    cases fromReserved <;> exact ⟨rfl,rfl,rfl⟩
  rw [← roomFor_untouched p view fromReserved (q.useSlot fromReserved)]
  unfold publish
  generalize (q.useSlot fromReserved).roomFor p view fromReserved = made
  dsimp only
  split
  · simp [Untouched,same,refusePublish_letter]
  split
  · simp [Untouched,same,refusePublish_letter]
  · simp [Untouched,same,propose,removes]

lemma filter_erase (proposal : Proposal) (other : removes proposal = false) (commits : List Proposal) :
    (commits.erase proposal).filter removes = commits.filter removes := by
  induction commits with
  | nil => rfl
  | cons first rest ih =>
    by_cases same : first = proposal
    · subst same
      simp [other]
    · rw [erase_cons_tail (by simpa using same),filter_cons,filter_cons,ih]

lemma refusal_untouched (q : QuorumQueue) (ack : Option PublishAck) (body : Bytes) (enqueuedMs : Nat) :
    Untouched q (q.committed (.publish ack body enqueuedMs) none).1
      (q.committed (.publish ack body enqueuedMs) none).2 := by
  exact ⟨rfl,rfl,filter_erase _ rfl q.commits,refusePublish_letter ack⟩

end QuorumQueue

/-- A publish that ends in a refusal, at once or when its commit fails, leaves the queue as it was
exactly if it evicted nothing. -/
theorem refused_publish_untouched_iff (p : EffectivePolicy) (now : Nat) (body : Bytes) :
    (∀ (q : TransientQueue) ack, (q.publish p now body ack false).2.2 = false →
      (q.Untouched (q.publish p now body ack false).1 (q.publish p now body ack false).2.1 ↔
        q.evicts p body.length = false)) ∧
    (∀ queue read (q : DurableQueue) ack fromReserved,
      (q.Untouched (q.publish p queue read now body ack fromReserved).1
        (q.publish p queue read now body ack fromReserved).2.1 ↔
        (q.useSlot fromReserved).evicts p body.length = false)) ∧
    (∀ (q : DurableQueue) done, q.Untouched (q.committed done false).1 (q.committed done false).2) ∧
    (∀ view (q : QuorumQueue) ack fromReserved,
      (q.Untouched (q.publish p view now body ack fromReserved).1
        (q.publish p view now body ack fromReserved).2.1 ↔ (q.useSlot fromReserved).evicts p = false)) ∧
    (∀ (q : QuorumQueue) ack enqueuedMs, q.Untouched (q.committed (.publish ack body enqueuedMs) none).1
      (q.committed (.publish ack body enqueuedMs) none).2) :=
  ⟨fun q ack => TransientQueue.refusal_untouched p now q body ack,
    fun queue read q => DurableQueue.publish_untouched p queue read now q body,DurableQueue.refusal_untouched,
    fun view q => QuorumQueue.publish_untouched p view now q body,fun q ack => QuorumQueue.refusal_untouched q ack body⟩

def tightPolicy : EffectivePolicy := ⟨none,1,3,true,some "/queues/dead",none,true⟩

/-- Each queue has stored one message; a publish too big for it is refused, and the message is gone. -/
theorem refused_publish_evicts :
    (∃ s, Transition.run (Served.step tightPolicy) {} [.calm (.publish [1] none)] = some s ∧
      s.queue.ready.map Stored.body = [[1]] ∧
      (s.queue.publish tightPolicy 0 [1,2,3,4] none false).2.2 = false ∧
      (s.queue.publish tightPolicy 0 [1,2,3,4] none false).1.ready = [] ∧
      (s.queue.publish tightPolicy 0 [1,2,3,4] none false).2.1.filterMap letter = [("/queues/dead",[1])]) ∧
    (let stored := (((({} : DurableQueue).publish tightPolicy 7 (fun _ => none) 0 [1] none false).1).committed
        ⟨none,1,0,1⟩ true).1
      let refused := stored.publish tightPolicy 7 (fun _ => some [1]) 0 [1,2,3,4] none false
      stored.ready.toList = [(1,0,1)] ∧ refused.2.2 = false ∧ refused.1.ready.toList = [] ∧
      .removeAfter "/queues/dead" [1] 1 ∈ refused.2.1) ∧
    (let stored := (((({} : QuorumQueue).publish tightPolicy ⟨0,fun _ => none,fun _ => none⟩ 0 [1] none false).1).committed
        (.publish none [1] 0) (some 1)).1
      let refused := stored.publish tightPolicy ⟨1,fun _ => some (some [1]),fun _ => none⟩ 0 [1,2,3,4] none false
      stored.ready.toList = [1] ∧ refused.2.2 = false ∧ refused.1.ready.toList = [] ∧
      .remove 1 false ∈ refused.1.commits ∧ refused.2.1.filterMap letter = [("/queues/dead",[1])]) := by
  refine ⟨?_,by decide,by decide⟩
  apply Transition.reaches_of_any
  decide

end Ramqp
