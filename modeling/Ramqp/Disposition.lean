import Mathlib.Data.List.Nodup
import Mathlib.Logic.Basic
import Ramqp.Library.Transition
import Ramqp.Semantics.Endpoint

/-! What an inbound disposition changes: the linear id range a session applies, against
the serial-number interval that the frame names. -/
namespace Ramqp

open Std List Std.ExtTreeMap Sweep UnsettledMap Link SenderLink ReceiverLink

variable {d : Disposition} {link : Link}

variable {entry : UInt32 × Reply} {s next : Session} {m : UnsettledMap}

variable {after : Link} {output effects : List Effect}

/-- The serial-number interval from `first` to `last`: empty when `last` precedes `first`. -/
def SerialInterval (first last id : UInt32) : Prop :=
  last - first < 0x80000000 ∧ id - first ≤ last - first

instance (first last id : UInt32) : Decidable (SerialInterval first last id) :=
  inferInstanceAs (Decidable (_ ∧ _))

lemma serialInterval_iff (first last id : UInt32) (ordered : first ≤ last) (near : last - first < 0x80000000) :
    SerialInterval first last id ↔ first ≤ id ∧ id ≤ last := by
  have span : (last - first).toNat = last.toNat - first.toNat := UInt32.toNat_sub_of_le _ _ ordered
  have offset : (id - first).toNat = (2^32 - first.toNat + id.toNat) % 2^32 := UInt32.toNat_sub id first
  have := first.toNat_lt
  have := last.toNat_lt
  have := id.toNat_lt
  simp only [SerialInterval,near,true_and,UInt32.le_iff_toNat_le] at *
  omega

lemma not_serialInterval (first last id : UInt32) (far : ¬ last - first < 0x80000000) :
    ¬ SerialInterval first last id := fun inside => far inside.1

namespace UnsettledMap

lemma mem_inRange (m : UnsettledMap) (first last id : UInt32) :
    id ∈ m.inRange first last ↔ id ∈ m ∧ first ≤ id ∧ id ≤ last := by
  simp [inRange,ExtTreeMap.mem_keys]

lemma nodup_inRange (m : UnsettledMap) (first last : UInt32) : (m.inRange first last).Nodup := nodup_keys.filter _

def settleEntry (state : Option DeliveryState) (settled : Bool) (entry : UnsettledEntry) :
    Option UnsettledEntry :=
  if settled then none else some (restate state entry)

lemma applyDisposition_ok {next : UnsettledMap} {first last : UInt32} {state : Option DeliveryState}
    {settled : Bool} {affected : List UInt32}
    (ok : m.applyDisposition first last state settled = .ok (affected,next)) :
    first ≤ last ∧ affected = m.inRange first last ∧
    ∀ id : UInt32, next[id]? = if first ≤ id ∧ id ≤ last then m[id]?.bind (settleEntry state settled)
      else m[id]? := by
  unfold applyDisposition at ok
  by_cases inverted : last < first
  · simp [inverted] at ok
  rw [if_neg inverted] at ok
  refine ⟨UInt32.not_lt.mp inverted,?_⟩
  cases settled with
  | true =>
    simp only [if_true] at ok
    cases ok
    refine ⟨rfl,?_⟩
    intro id
    rw [getElem?_foldl_erase]
    simp only [mem_inRange]
    by_cases inside : first ≤ id ∧ id ≤ last
    · by_cases present : id ∈ m
      · simp [inside,present,settleEntry]
      · simp [inside,present]
    · simp [inside]
  | false =>
    simp only [Bool.false_eq_true,if_false] at ok
    cases ok
    refine ⟨rfl,?_⟩
    intro id
    rw [ExtTreeMap.getElem?_map]
    by_cases inside : first ≤ id ∧ id ≤ last
    · cases m[id]? <;> simp [inside,settleEntry]
    · cases m[id]? <;> simp [inside]

lemma applyDisposition_total (m : UnsettledMap) (first last : UInt32) (state : Option DeliveryState)
    (settled : Bool) (ordered : first ≤ last) :
    ∃ next, m.applyDisposition first last state settled = .ok (m.inRange first last,next) := by
  unfold applyDisposition
  rw [if_neg (UInt32.not_lt.mpr ordered)]
  cases settled <;> exact ⟨_,rfl⟩

end UnsettledMap

namespace Link

def unsettled : Link → UnsettledMap
  | .sender l => l.unsettled
  | .receiver l => l.unsettled

def pending : Link → Map UInt32 Reply
  | .sender l => l.pending
  | .receiver _ => ∅

def withTracking (unsettled : UnsettledMap) (pending : Map UInt32 Reply) : Link → Link
  | .sender l => .sender {l with unsettled,pending}
  | .receiver l => .receiver {l with unsettled}

def addressed (d : Disposition) (link : Link) : Bool := link.key.2 != d.role

end Link

def sentReplies (effects : List Effect) : List Reply :=
  effects.filterMap fun effect => match effect with
    | .sent reply _ => some reply
    | _ => none

@[simp] lemma sentReplies_append (first second : List Effect) :
    sentReplies (first ++ second) = sentReplies first ++ sentReplies second := by
  simp [sentReplies]

@[simp] lemma sentReplies_sent (reply : Reply) (result : Except Failure DeliveryState) (rest : List Effect) :
    sentReplies (.sent reply result :: rest) = reply :: sentReplies rest := rfl

@[simp] lemma sentReplies_report (s : SenderLink) (id : UInt32) (settled : Bool) (state : Option DeliveryState) :
    sentReplies (s.report id settled state) = [] := by
  cases state <;> rfl

variable (pending : Map UInt32 Reply)

def awaiting (ids : List UInt32) : List (UInt32 × Reply) :=
  ids.filterMap fun id => pending[id]?.map (fun reply => (id,reply))

lemma awaiting_erase (id : UInt32) (ids : List UInt32) (fresh : id ∉ ids) :
    awaiting (pending.erase id) ids = awaiting pending ids := by
  apply filterMap_congr
  intro other member
  have distinct : id ≠ other := fun same => fresh (same ▸ member)
  simp [getElem?_erase,distinct]

lemma mem_awaiting : entry ∈ awaiting pending ids ↔ entry.1 ∈ ids ∧ pending[entry.1]? = some entry.2 := by
  obtain ⟨id,reply⟩ := entry
  simp only [awaiting,mem_filterMap,Option.map_eq_some_iff,Prod.mk.injEq]
  constructor
  · rintro ⟨other,member,found,present,rfl,rfl⟩
    exact ⟨member,present⟩
  · rintro ⟨member,present⟩
    exact ⟨id,member,reply,present,rfl,rfl⟩

lemma nodup_awaiting (distinct : ids.Nodup) : ((awaiting pending ids).map Prod.fst).Nodup := by
  have part : ((awaiting pending ids).map Prod.fst).Sublist ids := by
    induction ids with
    | nil => simp [awaiting]
    | cons head rest ih =>
      have inner := ih (nodup_cons.mp distinct).2
      cases present : pending[head]? with
      | none => simpa [awaiting,present] using inner.cons head
      | some => simpa [awaiting,present] using inner.cons_cons head
  exact part.nodup distinct

lemma SenderLink.resolve_spec (s : SenderLink) (outcome state : Option DeliveryState) (settled : Bool)
    (ids : List UInt32) (pending : Map UInt32 Reply) (distinct : ids.Nodup) :
    sentReplies (s.resolve outcome state settled ids pending).2 =
      (if outcome.isSome then awaiting pending ids else []).map Prod.snd ∧
    ∀ id : UInt32, (s.resolve outcome state settled ids pending).1[id]? =
      if outcome.isSome ∧ id ∈ ids then none else pending[id]? := by
  induction ids generalizing pending with
  | nil => simp [resolve,sentReplies,awaiting]
  | cons head rest ih =>
    rw [nodup_cons] at distinct
    cases outcome with
    | none =>
      obtain ⟨replies,left⟩ := ih pending distinct.2
      simp [resolve,replies,left]
    | some =>
      cases present : pending[head]? with
      | none =>
        obtain ⟨replies,left⟩ := ih pending distinct.2
        refine ⟨by simp [resolve,replies,awaiting,present],?_⟩
        intro id
        by_cases same : id = head
        · subst same
          simp [resolve,left,present]
        · simp [resolve,present,left,same]
      | some =>
        obtain ⟨replies,left⟩ := ih (pending.erase head) distinct.2
        rw [awaiting_erase pending head rest distinct.1] at replies
        refine ⟨by simp [resolve,replies,awaiting,present],?_⟩
        intro id
        by_cases same : id = head
        · subst same
          simp [resolve,present,left]
        · simp [resolve,present,left,same,getElem?_erase,Ne.symm same]

def Link.resolved (d : Disposition) : Link → List (UInt32 × Reply)
  | .sender l =>
    if d.role = .receiver ∧ (sendOutcome d.state d.settled).isSome then
      awaiting l.pending (UnsettledMap.inRange l.unsettled d.first (d.last.getD d.first))
    else []
  | .receiver _ => []

lemma Link.nodup_resolved (d : Disposition) (link : Link) : ((link.resolved d).map Prod.fst).Nodup := by
  cases link with
  | receiver => simp [resolved]
  | sender =>
    simp only [resolved]
    split
    · exact nodup_awaiting _ (nodup_inRange _ _ _)
    · simp

lemma Link.mem_resolved (member : entry ∈ link.resolved d) : (sendOutcome d.state d.settled).isSome ∧
    entry.1 ∈ inRange link.unsettled d.first (d.last.getD d.first) ∧
    link.pending[entry.1]? = some entry.2 := by
  cases link with
  | receiver => cases member
  | sender =>
    simp only [resolved] at member
    split at member
    next resolves =>
      exact ⟨resolves.2,(mem_awaiting _).mp member⟩
    · cases member

lemma Link.addressed_of_resolved (member : entry ∈ link.resolved d) : link.addressed d = true := by
  cases link with
  | receiver => cases member
  | sender =>
    simp only [resolved] at member
    split at member
    next resolves =>
      simp [addressed,key,resolves.1]
    · cases member

structure LinkRanged (d : Disposition) (before after : Link) : Prop where
  frame : after = before.withTracking after.unsettled after.pending
  ranged : ∀ id : UInt32, after.unsettled[id]? =
    if d.first ≤ id ∧ id ≤ d.last.getD d.first then
      before.unsettled[id]?.bind (UnsettledMap.settleEntry d.state d.settled)
    else before.unsettled[id]?
  kept : ∀ id : UInt32, id ∉ UnsettledMap.inRange before.unsettled d.first (d.last.getD d.first) →
    after.pending[id]? = before.pending[id]?
  taken : ∀ entry ∈ before.resolved d, after.pending[entry.1]? = none
  applied : before.unsettled.isEmpty = false → UnsettledMap.applyDisposition before.unsettled d.first
    (d.last.getD d.first) d.state d.settled =
      .ok (UnsettledMap.inRange before.unsettled d.first (d.last.getD d.first),after.unsettled)

lemma LinkRanged.untracked (d : Disposition) (link : Link) (empty : link.unsettled.isEmpty = true) :
    LinkRanged d link link := by
  have absent : ∀ id : UInt32, link.unsettled[id]? = none := by
    intro id
    rw [ExtTreeMap.isEmpty_iff] at empty
    simp [empty]
  have none_ranged : ∀ id, id ∉ inRange link.unsettled d.first (d.last.getD d.first) := by
    intro id member
    have present := ((mem_inRange _ _ _ _).mp member).1
    rw [mem_iff_isSome_getElem?,absent id] at present
    cases present
  refine ⟨by cases link <;> rfl,?_,fun _ _ => rfl,?_,by simp [empty]⟩
  · intro id
    simp [absent]
  · intro entry member
    exact absurd (mem_resolved member).2.1 (none_ranged entry.1)

lemma SenderLink.settleSent_ok {s after : SenderLink} (role : d.role = .receiver)
    (ok : s.settleSent d.first (d.last.getD d.first) d.state d.settled = .ok (after,output)) :
    LinkRanged d (.sender s) (.sender after) ∧ sentReplies output = ((sender s).resolved d).map Prod.snd ∧
    (s.unsettled.isEmpty = false → d.first ≤ d.last.getD d.first) := by
  unfold settleSent at ok
  by_cases empty : s.unsettled.isEmpty
  · rw [if_pos empty] at ok
    cases ok
    have still := LinkRanged.untracked d (.sender s) empty
    refine ⟨still,?_,by simp [empty]⟩
    have nothing : (sender s).resolved d = [] := by
      rw [ExtTreeMap.isEmpty_iff] at empty
      simp [resolved,empty,inRange,awaiting]
    simp [nothing,sentReplies]
  rw [if_neg empty] at ok
  split at ok
  · cases ok
  rename_i applied
  cases ok
  obtain ⟨ordered,rfl,ranged⟩ := applyDisposition_ok applied
  obtain ⟨replies,left⟩ := s.resolve_spec (sendOutcome d.state d.settled) d.state d.settled _
    s.pending (nodup_inRange s.unsettled d.first (d.last.getD d.first))
  refine ⟨⟨rfl,ranged,?_,?_,fun _ => applied⟩,?_,fun _ => ordered⟩
  · intro id outside
    change (s.resolve _ _ _ _ _).1[id]? = s.pending[id]?
    rw [left,if_neg (fun inside => outside inside.2)]
  · intro entry member
    change (s.resolve _ _ _ _ _).1[entry.1]? = none
    obtain ⟨resolves,inside,-⟩ := mem_resolved member
    rw [left,if_pos ⟨resolves,inside⟩]
  · rw [replies]
    simp [resolved,role]

lemma ReceiverLink.settleReceived_ok {r after : ReceiverLink}
    (ok : r.settleReceived d.first (d.last.getD d.first) d.state d.settled = .ok after) :
    LinkRanged d (.receiver r) (.receiver after) ∧ (r.unsettled.isEmpty = false → d.first ≤ d.last.getD d.first) := by
  unfold settleReceived at ok
  by_cases empty : r.unsettled.isEmpty
  · rw [if_pos empty] at ok
    cases ok
    exact ⟨LinkRanged.untracked d (.receiver r) empty,by simp [empty]⟩
  rw [if_neg empty] at ok
  split at ok
  · cases ok
  rename_i applied
  cases ok
  obtain ⟨ordered,rfl,ranged⟩ := applyDisposition_ok applied
  exact ⟨⟨rfl,ranged,fun _ _ => rfl,fun _ member => (nomatch member),fun _ => applied⟩,fun _ => ordered⟩

lemma Link.dispose_ok (ok : link.dispose d = .ok (after,output)) : (link.addressed d = false → after = link) ∧
    (link.addressed d = true → LinkRanged d link after ∧
      (link.unsettled.isEmpty = false → d.first ≤ d.last.getD d.first)) ∧
    sentReplies output = (link.resolved d).map Prod.snd := by
  cases link with
  | sender =>
    cases role : d.role with
    | sender =>
      simp only [dispose,role] at ok
      cases ok
      simp [addressed,key,role,resolved,sentReplies]
    | receiver =>
      simp only [dispose,role] at ok
      split at ok
      · cases ok
      rename_i settled
      cases ok
      obtain ⟨ranged,replies,ordered⟩ := settleSent_ok role settled
      exact ⟨by simp [addressed,key,role],fun _ => ⟨ranged,ordered⟩,replies⟩
  | receiver =>
    cases role : d.role with
    | sender =>
      simp only [dispose,role] at ok
      split at ok
      · cases ok
      rename_i settled
      cases ok
      obtain ⟨ranged,ordered⟩ := settleReceived_ok settled
      exact ⟨by simp [addressed,key,role],fun _ => ⟨ranged,ordered⟩,rfl⟩
    | receiver =>
      simp only [dispose,role] at ok
      cases ok
      simp [addressed,key,role,resolved,sentReplies]

lemma Link.dispose_total
    (ordered : link.addressed d = true → link.unsettled.isEmpty = false → d.first ≤ d.last.getD d.first) :
    ∃ result, link.dispose d = .ok result := by
  cases link with
  | sender s =>
    cases role : d.role with
    | sender => simp [dispose,role]
    | receiver =>
      by_cases empty : s.unsettled.isEmpty
      · simp [dispose,role,settleSent,empty]
      obtain ⟨_,applied⟩ := applyDisposition_total s.unsettled d.first
        (d.last.getD d.first) d.state d.settled
        (ordered (by simp [addressed,key,role]) (by simpa [unsettled] using empty))
      exact ⟨_,by simp only [dispose,role,settleSent,empty,applied]; rfl⟩
  | receiver r =>
    cases role : d.role with
    | receiver => simp [dispose,role]
    | sender =>
      by_cases empty : r.unsettled.isEmpty
      · simp [dispose,role,settleReceived,empty]
      obtain ⟨_,applied⟩ := applyDisposition_total r.unsettled d.first
        (d.last.getD d.first) d.state d.settled
        (ordered (by simp [addressed,key,role]) (by simpa [unsettled] using empty))
      exact ⟨_,by simp only [dispose,role,settleReceived,empty,applied]; rfl⟩

structure LinkSettled (d : Disposition) (before after : Link) : Prop where
  frame : after = before.withTracking after.unsettled after.pending
  affected : before.unsettled.isEmpty = false → ∃ affected,
    UnsettledMap.applyDisposition before.unsettled d.first (d.last.getD d.first) d.state d.settled =
      .ok (affected,after.unsettled) ∧
    ∀ id, id ∈ affected ↔ id ∈ before.unsettled ∧ SerialInterval d.first (d.last.getD d.first) id
  changed : ∀ id : UInt32, after.unsettled[id]? =
    if SerialInterval d.first (d.last.getD d.first) id then
      before.unsettled[id]?.bind (UnsettledMap.settleEntry d.state d.settled)
    else before.unsettled[id]?
  kept : ∀ id : UInt32, ¬ SerialInterval d.first (d.last.getD d.first) id →
    after.pending[id]? = before.pending[id]?

/-- What the range of a disposition must satisfy at a link that tracks deliveries: it is not
inverted, and where it spans half of the id space or more no tracked id lies in it. -/
def RangeFits (d : Disposition) (unsettled : UnsettledMap) : Prop :=
  d.first ≤ d.last.getD d.first ∧
  (d.last.getD d.first - d.first < 0x80000000 ∨
    ∀ id ∈ unsettled, ¬ (d.first ≤ id ∧ id ≤ d.last.getD d.first))

lemma RangeFits.inRange_iff (fits : RangeFits d m) (id : UInt32) : id ∈ m.inRange d.first (d.last.getD d.first) ↔
      id ∈ m ∧ SerialInterval d.first (d.last.getD d.first) id := by
  rw [mem_inRange]
  by_cases near : d.last.getD d.first - d.first < 0x80000000
  · rw [serialInterval_iff _ _ _ fits.1 near]
  have clear := fits.2.resolve_left near
  constructor
  · rintro ⟨present,inside⟩
    exact absurd inside (clear id present)
  · rintro ⟨_,inside⟩
    exact absurd inside (not_serialInterval _ _ _ near)

lemma rangeFits_of_inRange_iff (ordered : d.first ≤ d.last.getD d.first)
    (same : ∀ id, id ∈ m.inRange d.first (d.last.getD d.first) ↔
      id ∈ m ∧ SerialInterval d.first (d.last.getD d.first) id) : RangeFits d m := by
  refine ⟨ordered,?_⟩
  by_cases near : d.last.getD d.first - d.first < 0x80000000
  · exact .inl near
  refine .inr ?_
  intro id present inside
  have ranged := (same id).mp ((mem_inRange _ _ _ _).mpr ⟨present,inside⟩)
  exact not_serialInterval _ _ _ near ranged.2

lemma LinkRanged.settled {before : Link} (ranged : LinkRanged d before after)
    (fits : before.unsettled.isEmpty = false → RangeFits d before.unsettled) : LinkSettled d before after := by
  -- Linear and serial membership agree at every tracked id.
  have agree : ∀ id, id ∈ inRange before.unsettled d.first (d.last.getD d.first) ↔
      id ∈ before.unsettled ∧ SerialInterval d.first (d.last.getD d.first) id := by
    intro id
    by_cases empty : before.unsettled.isEmpty
    · rw [ExtTreeMap.isEmpty_iff] at empty
      simp [empty,inRange]
    · exact (fits (by simpa using empty)).inRange_iff id
  refine ⟨ranged.frame,fun tracked => ⟨_,ranged.applied tracked,agree⟩,?_,?_⟩
  · intro id
    rw [ranged.ranged id]
    by_cases present : id ∈ before.unsettled
    · have same := agree id
      simp only [mem_inRange,present,true_and] at same
      simp only [same]
    · simp [present]
  · intro id outside
    exact ranged.kept id fun inside => outside ((agree id).mp inside).2

/-- A disposition handled as its serial interval says: only links of the addressed role
change, each at exactly its tracked deliveries of the interval, and every completed send is
one that was awaiting and no longer is. -/
structure DispositionExact (s : Session) (d : Disposition) (next : Session)
    (effects : List Effect) : Prop where
  session : next = {s with links := next.links}
  absent : ∀ handle : UInt32, s.links[handle]? = none → next.links[handle]? = none
  unaddressed : ∀ (handle : UInt32) (link : Link), s.links[handle]? = some link →
    link.addressed d = false → next.links[handle]? = some link
  addressed : ∀ (handle : UInt32) (link : Link), s.links[handle]? = some link →
    link.addressed d = true → ∃ after, next.links[handle]? = some after ∧ LinkSettled d link after
  resolved : ∃ resolved : List (UInt32 × UInt32 × Reply),
    (resolved.map fun entry => (entry.1,entry.2.1)).Nodup ∧
    sentReplies effects = resolved.map (fun entry => entry.2.2) ∧
    ∀ entry ∈ resolved, ∃ before after, s.links[entry.1]? = some before ∧
      next.links[entry.1]? = some after ∧ before.pending[entry.2.1]? = some entry.2.2 ∧
      after.pending[entry.2.1]? = none ∧ SerialInterval d.first (d.last.getD d.first) entry.2.1

def DispositionFits (s : Session) (d : Disposition) : Prop :=
  ∀ (handle : UInt32) (link : Link), s.links[handle]? = some link → link.addressed d = true →
    link.unsettled.isEmpty = false → RangeFits d link.unsettled

lemma sentReplies_flatMap {α : Type} (entries : List α) (output : α → List Effect) :
    sentReplies (entries.flatMap output) = entries.flatMap (fun entry => sentReplies (output entry)) := by
  simp [sentReplies,filterMap_flatMap]

def Session.resolved (s : Session) (d : Disposition) : List (UInt32 × UInt32 × Reply) :=
  s.links.toList.flatMap fun entry => (entry.2.resolved d).map (fun send => (entry.1,send))

lemma Session.nodup_resolved : ((s.resolved d).map fun entry => (entry.1,entry.2.1)).Nodup := by
  have keys : (s.links.toList.map Prod.fst).Nodup := by
    rw [map_fst_toList_eq_keys]
    exact nodup_keys
  unfold resolved
  generalize s.links.toList = entries at keys
  induction entries with
  | nil => simp
  | cons entry rest ih =>
    rw [map_cons,nodup_cons] at keys
    rw [flatMap_cons,map_append,nodup_append]
    refine ⟨?_,ih keys.2,?_⟩
    · have inner := (entry.2.nodup_resolved d).map (Prod.mk_right_injective entry.1)
      simpa [List.map_map,Function.comp_def] using inner
    rintro ⟨handle,id⟩ left ⟨otherHandle,otherId⟩ right same
    simp only [List.map_map,List.mem_map,Function.comp_apply,Prod.mk.injEq] at left
    obtain ⟨_,_,here,_⟩ := left
    simp only [map_flatMap,mem_flatMap,List.map_map,List.mem_map,Function.comp_apply,Prod.mk.injEq] at right
    obtain ⟨other,member,_,_,there,_⟩ := right
    apply keys.1
    have handles : entry.1 = other.1 := by
      rw [here,there]
      exact congrArg Prod.fst same
    rw [handles]
    exact mem_map_of_mem member

lemma Session.onDisposition_ok (ok : s.onDisposition d = .ok (next,effects)) :
    next = {s with links := next.links} ∧
    (∀ handle : UInt32, s.links[handle]? = none → next.links[handle]? = none) ∧
    (∀ (handle : UInt32) (link : Link), s.links[handle]? = some link →
      ∃ after output, link.dispose d = .ok (after,output) ∧ next.links[handle]? = some after) ∧
    sentReplies effects = (s.resolved d).map (fun entry => entry.2.2) := by
  unfold onDisposition at ok
  split at ok
  · cases ok
  rename_i links effects swept
  cases ok
  obtain ⟨total,found,collected⟩ := Sweep.sweep_ok swept
  refine ⟨rfl,?_,?_,?_⟩
  · intro handle absent
    change links[handle]? = none
    rw [found,absent]
    rfl
  · intro handle link present
    obtain ⟨after,output,disposed⟩ := total handle link present
    refine ⟨after,output,disposed,?_⟩
    change links[handle]? = some after
    rw [found,present]
    simp [Sweep.valueOf,disposed]
  change effects = _ at collected
  rw [collected,sentReplies_flatMap,resolved,map_flatMap]
  apply flatMap_congr
  intro entry member
  rw [mem_toList_iff_getElem?_eq_some] at member
  obtain ⟨_,_,disposed⟩ := total entry.1 entry.2 member
  simp only [Sweep.outputOf,disposed,(Link.dispose_ok disposed).2.2,List.map_map]
  rfl

def Effect.internal : Effect → Bool
  | .event _ _ => true
  | .sent _ (.ok _) => true
  | _ => false

lemma queued_of_internal (internal : ∀ effect ∈ effects, effect.internal = true) : queued effects = [] := by
  induction effects with
  | nil => rfl
  | cons effect rest ih =>
    have silent := ih fun other member => internal other (by simp [member])
    cases effect with
    | event | sent => exact silent
    | _ => cases internal _ mem_cons_self

lemma SenderLink.resolve_effects (l : SenderLink) (settled : Bool)
    (pending : Map UInt32 Reply) : ∀ effect ∈ (l.resolve outcome state settled ids pending).2,
      effect.internal = true ∧ ∀ channel event, effect = .event channel event →
        (∀ d, event ≠ .delivery d) ∧ channel = l.events := by
  induction ids generalizing pending with
  | nil => exact forall_mem_nil _
  | cons head rest ih =>
    intro effect member
    simp only [resolve,append_assoc,mem_append] at member
    rcases member with replied | reported | later
    · split at replied
      · cases mem_singleton.mp replied
        simp [Effect.internal]
      · cases replied
    · cases state with
      | none => cases reported
      | some =>
        cases mem_singleton.mp reported
        simp [Effect.internal]
    · exact ih _ effect later

lemma Link.dispose_effects (ok : link.dispose d = .ok (after,output)) : ∀ effect ∈ output,
    effect.internal = true ∧ ∀ channel event, effect = .event channel event →
      (∀ d, event ≠ .delivery d) ∧ ∃ l, link = .sender l ∧ channel = l.events := by
  unfold dispose at ok
  split at ok
  next l =>
    split at ok
    · split at ok
      · cases ok
      next settled =>
        cases ok
        unfold settleSent at settled
        split at settled
        · cases settled
          exact forall_mem_nil _
        split at settled
        · cases settled
        cases settled
        intro effect member
        obtain ⟨inner,own⟩ := l.resolve_effects _ _ effect member
        exact ⟨inner,fun channel event same => (own channel event same).imp_right fun own => ⟨l,rfl,own⟩⟩
    · cases ok
      exact forall_mem_nil _
  split at ok
  · split at ok
    · cases ok
    · cases ok
      exact forall_mem_nil _
  · cases ok
    exact forall_mem_nil _

lemma Session.onDisposition_internal (ok : s.onDisposition d = .ok (next,effects)) :
    ∀ effect ∈ effects, effect.internal = true := by
  unfold onDisposition at ok
  split at ok
  · cases ok
  rename_i effects swept
  cases ok
  obtain ⟨total,_,collected⟩ := sweep_ok swept
  change effects = _ at collected
  intro effect member
  rw [collected,mem_flatMap] at member
  obtain ⟨entry,listed,member⟩ := member
  rw [mem_toList_iff_getElem?_eq_some] at listed
  obtain ⟨_,_,disposed⟩ := total entry.1 entry.2 listed
  simp only [outputOf,disposed] at member
  exact (dispose_effects disposed effect member).1

lemma Session.onDisposition_total (s : Session) (d : Disposition)
    (ordered : ∀ (handle : UInt32) (link : Link), s.links[handle]? = some link → link.addressed d = true →
      link.unsettled.isEmpty = false → d.first ≤ d.last.getD d.first) :
    ∃ next effects, s.onDisposition d = .ok (next,effects) := by
  unfold onDisposition
  cases swept : sweep (dispose d) s.links with
  | ok => exact ⟨_,_,rfl⟩
  | error =>
    obtain ⟨handle,link,present,failed⟩ := sweep_error swept
    obtain ⟨_,disposed⟩ := dispose_total (ordered handle link present)
    rw [disposed] at failed
    cases failed

/-- `on_disposition` completes and changes exactly the deliveries of the serial interval if and
only if every addressed link that tracks deliveries can take the range. -/
theorem onDisposition_exact_iff (s : Session) (d : Disposition) :
    (∃ next effects, s.onDisposition d = .ok (next,effects) ∧ DispositionExact s d next effects) ↔
      DispositionFits s d := by
  constructor
  · rintro ⟨next,effects,ok,exact_⟩ handle link present hit tracked
    obtain ⟨-,-,links,-⟩ := Session.onDisposition_ok ok
    obtain ⟨_,_,disposed,-⟩ := links handle link present
    obtain ⟨ranged,ordered⟩ := (dispose_ok disposed).2.1 hit
    obtain ⟨_,_,settled⟩ := exact_.addressed handle link present hit
    obtain ⟨affected,applied,inside⟩ := settled.affected tracked
    rw [ranged.applied tracked,Except.ok.injEq,Prod.mk.injEq] at applied
    rw [← applied.1] at inside
    exact rangeFits_of_inRange_iff (ordered tracked) inside
  intro fits
  obtain ⟨next,effects,ok⟩ := s.onDisposition_total d
    (fun handle link present hit tracked => (fits handle link present hit tracked).1)
  obtain ⟨session,absent,links,replies⟩ := Session.onDisposition_ok ok
  refine ⟨next,effects,ok,session,absent,?_,?_,s.resolved d,Session.nodup_resolved,replies,?_⟩
  · intro handle link present missed
    obtain ⟨_,_,disposed,found⟩ := links handle link present
    rw [found,(dispose_ok disposed).1 missed]
  · intro handle link present hit
    obtain ⟨after,_,disposed,found⟩ := links handle link present
    exact ⟨after,found,((dispose_ok disposed).2.1 hit).1.settled (fits handle link present hit)⟩
  intro entry member
  simp only [Session.resolved,mem_flatMap,mem_map] at member
  obtain ⟨⟨handle,link⟩,listed,send,completed,rfl⟩ := member
  have present : s.links[handle]? = some link :=
    mem_toList_iff_getElem?_eq_some.mp listed
  obtain ⟨_,inside,awaited⟩ := mem_resolved completed
  obtain ⟨after,_,disposed,found⟩ := links handle link present
  have hit : link.addressed d = true := addressed_of_resolved completed
  have tracked : link.unsettled.isEmpty = false := by
    cases empty : link.unsettled.isEmpty with
    | false => rfl
    | true =>
      rw [ExtTreeMap.isEmpty_iff] at empty
      simp [empty,inRange] at inside
  exact ⟨link,after,present,found,awaited,((dispose_ok disposed).2.1 hit).1.taken send completed,
    (((fits handle link present hit tracked).inRange_iff send.1).mp inside).2⟩

def oneUnsettledSend : List SessionInput :=
  [.frame (.accept .manual 0 none 7) .byKey ⟨0,.attach {name := "down",handle := 9,role := .receiver},none⟩,
   .frame .respond .byKey ⟨0,.flow {nextIncomingId := some 0,incomingWindow := 100,handle := some 9,
                                    deliveryCount := some 0,linkCredit := some 5},none⟩,
   .op (.send 0 ⟨[109],false,0,none,some 1⟩)]

theorem onDisposition_inverted_panics :
    ∃ s, Transition.run (Session.step 512)
        (Session.acceptPeerBegin 1 0 5 ⟨none,0,100,50,8⟩ ⟨32,16,64⟩ 3).1 oneUnsettledSend = some s ∧
      faultOf (s.onDisposition
        {role := .receiver,first := 1,last := some 0,settled := true,state := some .accepted}) =
          some (.panic "range start is greater than range end in BTreeMap") := by
  apply Transition.reaches_of_any
  decide

end Ramqp
