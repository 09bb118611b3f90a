import Ramqp.Library.Entries
import Ramqp.Semantics.Link

/-! What a sender does with its unsettled deliveries when a link is resumed. -/
namespace Ramqp

open Std List Std.ExtTreeMap

inductive ResumeAction where
  | resend
  | resume
  | settle (state : DeliveryState)
  | abort
  deriving DecidableEq

def senderResumeAction (localSettled : Bool) : Option DeliveryState → ResumeAction
  | some state => if state.isTerminal then .settle state else .resume
  | none => if localSettled then .abort else .resend

lemma resend_iff {settled : Bool} {remote : Option DeliveryState} :
    senderResumeAction settled remote = .resend ↔ settled = false ∧ remote = none := by
  cases remote with
  | some state => cases ended : state.isTerminal <;> simp [senderResumeAction,ended]
  | none => cases settled <;> simp [senderResumeAction]

namespace UnsettledMap

def snapshot (m : UnsettledMap) : List (Bytes × DeliveryState) :=
  m.toList.filterMap fun entry => entry.2.state.map fun state => (entry.2.deliveryTag,state)

def reconcile (m : UnsettledMap) (remote : List (Bytes × DeliveryState)) : List (UInt32 × ResumeAction) :=
  m.toList.map fun entry => (entry.1,senderResumeAction entry.2.settled (remote.lookup entry.2.deliveryTag))

def Tracks (m : UnsettledMap) (tag : Bytes) (states : Option DeliveryState → Prop) : Prop :=
  ∃ (id : UInt32) (entry : UnsettledEntry), m[id]? = some entry ∧ entry.deliveryTag = tag ∧ states entry.state

variable {m r : UnsettledMap} {id : UInt32} {entry : UnsettledEntry}

lemma lookup_snapshot {tag : Bytes} : r.snapshot.lookup tag = none ↔ ¬ r.Tracks tag (· ≠ none) := by
  rw [lookup_eq_none_iff]
  constructor
  · rintro absent ⟨id,entry,there,rfl,stated⟩
    obtain ⟨state,stated⟩ := Option.ne_none_iff_exists'.mp stated
    have listed : (entry.deliveryTag,state) ∈ r.snapshot :=
      mem_filterMap.mpr ⟨_,mem_toList_iff_getElem?_eq_some.mpr there,by simp [stated]⟩
    simpa using absent _ listed
  intro untracked seen listed
  obtain ⟨⟨id,entry⟩,there,made⟩ := mem_filterMap.mp listed
  obtain ⟨state,stated,rfl⟩ := Option.map_eq_some_iff.mp made
  by_contra same
  have same : tag = entry.deliveryTag := by simpa using same
  exact untracked ⟨id,entry,mem_toList_iff_getElem?_eq_some.mp there,same.symm,stated ▸ Option.some_ne_none state⟩

lemma mem_reconcile {remote : List (Bytes × DeliveryState)} (there : m[id]? = some entry) :
    (id,.resend) ∈ m.reconcile remote ↔ entry.settled = false ∧ remote.lookup entry.deliveryTag = none := by
  simp [reconcile,mem_toList_iff_getElem?_eq_some,resend_iff,there]

/-- A resumed link repeats no delivery that its receiver has and leaves none out, exactly if the receiver has a state for
each one that it has and the sender has not settled. -/
theorem resumed_once_iff (m r : UnsettledMap) :
    (∀ (id : UInt32) entry, m[id]? = some entry →
      (r.Tracks entry.deliveryTag (fun _ => True) → (id,.resend) ∉ m.reconcile r.snapshot) ∧
      (¬ r.Tracks entry.deliveryTag (fun _ => True) → entry.settled = false →
        (id,.resend) ∈ m.reconcile r.snapshot)) ↔
    ∀ (id : UInt32) entry, m[id]? = some entry → entry.settled = false →
      r.Tracks entry.deliveryTag (fun _ => True) → r.Tracks entry.deliveryTag (· ≠ none) := by
  constructor
  · intro exact_ id entry there open_ tracked
    by_contra unstated
    exact (exact_ id entry there).1 tracked ((mem_reconcile there).mpr ⟨open_,lookup_snapshot.mpr unstated⟩)
  intro stated id entry there
  rw [mem_reconcile there,lookup_snapshot]
  refine ⟨fun tracked decided => decided.2 (stated id entry there decided.1 tracked),?_⟩
  intro untracked open_
  refine ⟨open_,?_⟩
  rintro ⟨other,found,here,same,-⟩
  exact untracked ⟨other,found,here,same,trivial⟩

def oneTaken : UnsettledMap := UnsettledMap.track ∅ 1 [7] none

theorem taken_delivery_resent : (1,.resend) ∈ oneTaken.reconcile oneTaken.snapshot ∧
    oneTaken.Tracks [7] (fun _ => True) :=
  ⟨by decide,1,_,rfl,rfl,trivial⟩

end UnsettledMap

end Ramqp
