import Ramqp.Conservation

/-! The transient queue comes to rest: between two turns a message waits only if no subscriber asks for one. -/
namespace Ramqp

open Std List Transition

/-- A subscriber has demand left only if nothing is ready, and then it does not drain. -/
def TransientQueue.Rests (q : TransientQueue) : Prop :=
  ∀ s ∈ q.ring.subs, 0 < s.demand → q.ready = [] ∧ s.drainPending = false

variable {r left : Ring} {sub : Subscriber}

lemma pickReady_none {subs : List Subscriber} {rr : Nat} (none_ : pickReady subs rr = none) {s : Subscriber}
    (member : s ∈ subs) : ¬ 0 < s.demand := by
  obtain ⟨idx,inside,rfl⟩ := getElem_of_mem member
  have some_ := Nat.zero_lt_of_lt inside
  -- the round that starts at `rr` comes by every index
  obtain ⟨i,within,here⟩ : ∃ i < subs.length, (rr + i) % subs.length = idx := by
    refine ⟨(idx + (subs.length - rr % subs.length)) % subs.length,Nat.mod_lt _ some_,?_⟩
    have below := Nat.mod_lt rr some_
    have round : rr % subs.length + (idx + (subs.length - rr % subs.length)) = idx + subs.length := by omega
    rw [Nat.add_mod_mod,← Nat.mod_add_mod,round,Nat.add_mod_right,Nat.mod_eq_of_lt inside]
  have skipped := findSome?_eq_none_iff.mp none_ i (mem_range.mpr within)
  simpa [here,inside] using skipped

lemma Ring.take_none (none_ : r.take = none) : ∀ s ∈ r.subs, ¬ 0 < s.demand := by
  intro s member
  cases picked : pickReady r.subs r.rr with
  | none => exact pickReady_none picked member
  | some idx =>
    obtain ⟨_,there,-⟩ := pickReady_some picked
    simp [take,picked,there] at none_

lemma Ring.take_length (taken : r.take = some (sub,left)) :
    left.subs.length = r.subs.length ∧ (left.remove sub.id).subs.length < left.subs.length := by
  obtain ⟨idx,there,-,rfl⟩ := take_some taken
  obtain ⟨inside,rfl⟩ := List.getElem?_eq_some_iff.mp there
  refine ⟨length_set,length_filter_lt_length_iff_exists.mpr ⟨_,mem_set inside _,?_⟩⟩
  simp

namespace TransientQueue

variable {p : EffectivePolicy} {q : TransientQueue} {now : Nat} {msg : QueueMsg}

/-- Each turn of the loop lets a message go, or a subscriber: then what it held is ready again, and the messages are as
many as before. -/
lemma deliverReady_rests (live : Nat → ConnRef → Bool) {bound fuel : Nat}
    (within : q.ready.length + q.unacked.size ≤ bound)
    (enough : q.ring.subs.length * (bound + 1) + q.ready.length < fuel) : (q.deliverReady live fuel).1.Rests := by
  induction fuel generalizing q with
  | zero => cases enough
  | succ fuel ih =>
    unfold deliverReady
    rcases ready : q.ready with _|⟨msg,rest⟩
    · intro s member demanded
      obtain ⟨before,-,rfl⟩ := mem_map.mp member
      cases pending : before.drainPending with
      | true => simp [pending] at demanded
      | false => exact ⟨rfl,by simp [pending]⟩
    rcases taken : q.ring.take with _|⟨sub,ring⟩
    · exact fun s member demanded => absurd demanded (Ring.take_none taken s member)
    obtain ⟨same,fewer⟩ := Ring.take_length taken
    rw [ready,length_cons] at within enough
    dsimp only
    split
    · have grown := ExtTreeMap.size_insert_le (t := q.unacked) (k := msg.id) (v := (msg,sub.id))
      refine ih ?_ ?_
      all_goals dsimp only
      · omega
      · rw [same]
        omega
    · have parts := (unacked_split q sub.id).length_eq
      have less := Nat.mul_le_mul_right (bound + 1) (same ▸ fewer : (ring.remove sub.id).subs.length < _)
      simp only [length_append,ExtTreeMap.length_toList] at parts
      rw [Nat.succ_mul] at less
      refine ih ?_ ?_
      all_goals simp only [requeueHeld,length_append,length_map,length_cons]
      all_goals omega

lemma dispatch_rests (live : Nat → ConnRef → Bool) : (q.dispatch p live now).1.Rests := by
  unfold dispatch
  refine deliverReady_rests live le_rfl ?_
  rw [turns,Nat.succ_mul]
  omega

/-- A message that no dispatch follows leaves the subscribers alone and makes nothing ready. -/
lemma handle_rests (rests : q.Rests) (stays : (q.handle p now msg).2.2 = false) : (q.handle p now msg).1.Rests := by
  have refused : ∀ body ack fromReserved, (q.publish p now body ack fromReserved).2.2 = false →
      (q.publish p now body ack fromReserved).1.Rests := by
    intro body ack fromReserved stays s member demanded
    obtain ⟨ring,ready⟩ : (q.useSlot fromReserved).ring = q.ring ∧ (q.useSlot fromReserved).ready = q.ready := by
      cases fromReserved <;> exact ⟨rfl,rfl⟩
    by_cases full : (((q.useSlot fromReserved).roomFor p body.length).1.isOver p body.length && !fromReserved) = true
    · simp only [publish,full,if_true] at member ⊢
      rw [(roomFor_sheds p body.length _).onlyReady.ring,ring] at member
      obtain ⟨empty,open_⟩ := rests s member demanded
      rw [← ready] at empty
      refine ⟨?_,open_⟩
      unfold roomFor
      split <;> simp [empty,makeRoom]
    · simp [publish,full] at stays
  cases msg with
  | publish | publishReserved => exact refused _ _ _ stays
  | settle sub msgId outcome =>
    match present : q.unacked[msgId]? with
    | some (stored,owner) =>
      by_cases own : owner = sub
      · simp [handle,present,own] at stays
      · simpa only [handle,present,own,if_false] using rests
    | none => simpa only [handle,present] using rests
  | reserve | unreserve | subscribe | demand | unsubscribe | stats => cases stays

lemma step_rests (rests : q.Rests) {live : Nat → ConnRef → Bool} {later : Nat} :
    (q.step p live now later msg).1.Rests := by
  unfold step
  cases go : (q.handle p now msg).2.2 with
  | true =>
    simp only [go,if_true]
    exact dispatch_rests live
  | false =>
    simp only [go,Bool.false_eq_true,if_false]
    exact handle_rests rests go

end TransientQueue

/-- In every state of a transient queue a subscriber has demand left only if no message is ready, and only if it does
not drain. -/
theorem transient_queue_rests (p : EffectivePolicy) (turns : List Turn) (final : Served)
    (ok : run (Served.step p) {} turns = some final) : final.queue.Rests := by
  refine run_invariant_all (P := fun s => s.queue.Rests) ?_ (fun _ member => nomatch member) ok
  intro s turn next rests taken
  cases taken
  exact TransientQueue.step_rests rests

theorem transient_queue_rests_hungry : ∃ s, run (Served.step onceOnly) {}
    [.calm (.subscribe (.connection 7) 0 0 0),.calm (.demand 1 2 false),.calm (.publish [1] none)] = some s ∧
    s.queue.ring.subs.map Subscriber.demand = [1] ∧ s.queue.Rests := by
  refine reaches_and (by decide) fun s ok _ => ?_
  exact transient_queue_rests onceOnly _ s ok

end Ramqp
