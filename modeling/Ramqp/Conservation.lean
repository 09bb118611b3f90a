import Ramqp.Dispatch
import Ramqp.Library.Transition

/-! Messages of the transient queue are conserved: each one taken in is ready, or held by one
registered subscriber, or has left the queue once. -/
namespace Ramqp

open Std List EffectivePolicy TransientQueue Transition ExtTreeMap

def Stored.message (stored : Stored) : Nat × Bytes := (stored.id,stored.body)

def Ending.dead : Ending → Bool
  | .acked => false
  | .dropped => false
  | _ => true

namespace QueueEffect

def storedMessage : QueueEffect → Option (Nat × Bytes)
  | .stored id body _ => some (id,body)
  | _ => none

def endedMessage : QueueEffect → Option (Nat × Bytes)
  | .ended id body _ => some (id,body)
  | _ => none

def deadMessage : QueueEffect → Option Bytes
  | .ended _ body ending => if ending.dead then some body else none
  | _ => none

def letter : QueueEffect → Option (String × Bytes)
  | .deadLetter target body => some (target,body)
  | _ => none

def storedAck : QueueEffect → Option PublishAck
  | .stored _ _ ack => ack
  | _ => none

def confirmation : QueueEffect → Option PublishAck
  | .command conn (.settleIncoming channel handle bindingGen deliveryId true) =>
    some ⟨conn,channel,handle,bindingGen,deliveryId⟩
  | _ => none

end QueueEffect

open QueueEffect

def EffectivePolicy.letters (p : EffectivePolicy) (bodies : List Bytes) : List (String × Bytes) :=
  match p.deadLetter with
  | some target => if p.dlx then bodies.map (fun body => (target,body)) else []
  | none => []

lemma EffectivePolicy.letters_nil (p : EffectivePolicy) : p.letters [] = [] := by
  unfold letters
  split
  · split <;> rfl
  · rfl

lemma EffectivePolicy.letters_append (p : EffectivePolicy) (first second : List Bytes) :
    p.letters (first ++ second) = p.letters first ++ p.letters second := by
  unfold letters
  split
  · split
    · exact map_append
    · rfl
  · rfl

variable {p : EffectivePolicy} {outcome : SettleOutcome} {sub : SubId}

namespace TransientQueue

variable {rest : List Stored}

variable {ending : Ending} {msg : Stored}

def held (q : TransientQueue) : List (Nat × Bytes) :=
  q.ready.map Stored.message ++ q.unacked.toList.map (fun entry => entry.2.1.message)

/-- What a piece of a turn does to the messages: those it had and those it took in are the ones it
has and those it let go, under ids counted on, with the right letters and confirmations sent. -/
structure Turned (p : EffectivePolicy) (q : TransientQueue) (effects : List QueueEffect)
    (next : TransientQueue) : Prop where
  moves : (q.held ++ effects.filterMap storedMessage).Perm (next.held ++ effects.filterMap endedMessage)
  grows : q.nextMsgId ≤ next.nextMsgId
  numbered : (effects.filterMap storedMessage).map Prod.fst =
    range' (q.nextMsgId + 1) (next.nextMsgId - q.nextMsgId)
  letters : effects.filterMap letter = p.letters (effects.filterMap deadMessage)
  confirms : effects.filterMap confirmation = effects.filterMap storedAck

def Silent (effects : List QueueEffect) : Prop :=
  effects.filterMap storedMessage = [] ∧ effects.filterMap endedMessage = [] ∧
  effects.filterMap deadMessage = [] ∧ effects.filterMap letter = [] ∧
  effects.filterMap confirmation = [] ∧ effects.filterMap storedAck = []

structure Sound (q : TransientQueue) : Prop where
  distinct : (q.held.map Prod.fst).Nodup
  below : ∀ message ∈ q.held, message.1 ≤ q.nextMsgId
  keyed : ∀ (id : Nat) stored owner, q.unacked[id]? = some (stored,owner) → stored.id = id
  owned : ∀ (id : Nat) stored owner, q.unacked[id]? = some (stored,owner) → owner ∈ q.ring.ids
  apart : q.ring.ids.Nodup
  given : ∀ owner ∈ q.ring.ids, owner ≤ q.ring.nextSubId

structure Retains (spared : Nat → Prop) (q next : TransientQueue) : Prop where
  stays : ∀ (id : Nat) stored owner, spared id → q.unacked[id]? = some (stored,owner) →
    next.unacked[id]? = some (stored,owner) ∨ owner ∉ next.ring.ids
  gone : ∀ owner, owner ≤ q.ring.nextSubId → owner ∉ q.ring.ids →
    owner ∉ next.ring.ids
  grows : q.ring.nextSubId ≤ next.ring.nextSubId

namespace Turned

variable {p : EffectivePolicy} {q mid next : TransientQueue} {first second : List QueueEffect}

lemma refl (p : EffectivePolicy) (q : TransientQueue) : Turned p q [] q :=
  ⟨List.Perm.refl _,le_rfl,by simp,p.letters_nil.symm,rfl⟩

lemma trans (one : Turned p q first mid) (two : Turned p mid second next) : Turned p q (first ++ second) next := by
  refine ⟨?_,one.grows.trans two.grows,?_,?_,?_⟩
  · have counts := fun message => And.intro (perm_iff_count.mp one.moves message)
      (perm_iff_count.mp two.moves message)
    refine perm_iff_count.mpr fun message => ?_
    obtain ⟨a,b⟩ := counts message
    simp only [filterMap_append,count_append] at a b ⊢
    omega
  · have bound := one.grows
    have later := two.grows
    rw [filterMap_append,map_append,one.numbered,two.numbered]
    have start : mid.nextMsgId + 1 = q.nextMsgId + 1 + 1 * (mid.nextMsgId - q.nextMsgId) := by omega
    rw [start,range'_append]
    congr 1
    omega
  · rw [filterMap_append,filterMap_append,one.letters,two.letters,letters_append]
  · rw [filterMap_append,filterMap_append,one.confirms,two.confirms]

lemma quiet {effects : List QueueEffect} (silent : Silent effects)
    (same : q.held.Perm next.held) (counter : next.nextMsgId = q.nextMsgId) : Turned p q effects next := by
  obtain ⟨noStored,noEnded,noDead,noLetter,noConfirm,noAck⟩ := silent
  refine ⟨by simpa [noStored,noEnded] using same,counter.ge,by simp [noStored,counter],?_,by rw [noConfirm,noAck]⟩
  rw [noLetter,noDead,letters_nil]

lemma distinct (turned : Turned p q first next) (sound : q.Sound) : (next.held.map Prod.fst).Nodup := by
  have all : ((q.held ++ first.filterMap storedMessage).map Prod.fst).Nodup := by
    rw [map_append,turned.numbered,nodup_append]
    refine ⟨sound.distinct,nodup_range',?_⟩
    rintro id old other new rfl
    obtain ⟨message,member,rfl⟩ := mem_map.mp old
    have low := sound.below message member
    have high := (mem_range'_1.mp new).1
    omega
  rw [(turned.moves.map Prod.fst).nodup_iff,map_append] at all
  exact all.of_append_left

lemma below (turned : Turned p q first next) (sound : q.Sound) :
    ∀ message ∈ next.held, message.1 ≤ next.nextMsgId := by
  intro message member
  have grows := turned.grows
  rcases mem_append.mp (turned.moves.mem_iff.mpr (mem_append_left _ member)) with old | new
  · exact (sound.below message old).trans grows
  have listed := mem_map_of_mem (f := Prod.fst) new
  rw [turned.numbered] at listed
  have high := (mem_range'_1.mp listed).2
  omega

end Turned

namespace Retains

variable {spared : Nat → Prop} {q mid next : TransientQueue}

lemma refl (q : TransientQueue) : Retains spared q q :=
  ⟨fun _ _ _ _ present => .inl present,fun _ _ absent => absent,le_rfl⟩

lemma trans (one : Retains spared q mid) (two : Retains spared mid next) (sound : q.Sound) :
    Retains spared q next := by
  refine ⟨?_,?_,one.grows.trans two.grows⟩
  · intro id stored owner free present
    have known := sound.given owner (sound.owned id stored owner present)
    rcases one.stays id stored owner free present with stayed | left
    · exact two.stays id stored owner free stayed
    · exact .inr (two.gone owner (known.trans one.grows) left)
  · intro owner known absent
    exact two.gone owner (known.trans one.grows) (one.gone owner known absent)

end Retains

variable {q : TransientQueue} {next : TransientQueue} {old : Stored}

lemma turned_ended (alive : ending.dead = false)
    (moves : q.held.Perm (old.message::next.held)) (counter : next.nextMsgId = q.nextMsgId) :
    Turned p q [.ended old.id old.body ending] next := by
  have died : [ended old.id old.body ending].filterMap deadMessage = [] := by
    simp [deadMessage,alive]
  refine ⟨?_,counter.ge,?_,?_,rfl⟩
  · change (q.held ++ []).Perm (next.held ++ [old.message])
    rw [append_nil]
    exact moves.trans (perm_append_singleton _ _).symm
  · rw [counter,Nat.sub_self]
    rfl
  · rw [died,letters_nil]
    rfl

lemma turned_dead (dead : ending.dead = true)
    (moves : q.held.Perm (old.message::next.held)) (counter : next.nextMsgId = q.nextMsgId) :
    Turned p q (p.routeDead ending old) next := by
  obtain ⟨noStored,ended,sent,died,silent⟩ : (p.routeDead ending old).filterMap storedMessage = [] ∧
      (p.routeDead ending old).filterMap endedMessage = [old.message] ∧
      (p.routeDead ending old).filterMap letter = p.letters [old.body] ∧
      (p.routeDead ending old).filterMap deadMessage = [old.body] ∧
      (p.routeDead ending old).filterMap confirmation = (p.routeDead ending old).filterMap storedAck := by
    unfold routeDead sendDead letters
    cases p.deadLetter with
    | none => exact ⟨rfl,rfl,rfl,by simp [deadMessage,dead],rfl⟩
    | some => cases p.dlx <;> exact ⟨rfl,rfl,rfl,by simp [deadMessage,dead],rfl⟩
  refine ⟨?_,counter.ge,by simp [noStored,counter],by rw [sent,died],silent⟩
  rw [noStored,ended,append_nil]
  exact moves.trans (perm_append_singleton _ _).symm

lemma held_cons (listed : q.ready = old::rest) (bytes : Nat) :
    q.held.Perm (old.message::({q with ready := rest,bytes} : TransientQueue).held) := by
  simp [held,listed]

lemma Sheds.turned {result : TransientQueue × List QueueEffect} (sheds : Sheds p ending q result)
    (dead : ending.dead = true) : Turned p q result.2 result.1 := by
  induction sheds with
  | stop q => exact Turned.refl p q
  | next listed _ ih => exact (turned_dead dead (held_cons listed _) rfl).trans ih

private lemma requeueHeld_held : q.held.Perm (q.requeueHeld sub).held := by
  have moved := (q.unacked_split sub).map fun entry => entry.2.1.message
  rw [map_append] at moved
  simp only [held,requeueHeld,List.map_append,List.map_map,Function.comp_def]
  refine (moved.append_left _).trans ?_
  rw [← append_assoc]
  exact List.perm_append_comm.append_right _

def Has (q : TransientQueue) (stored : Stored) : Prop :=
  stored ∈ q.ready ∨ ∃ owner, q.unacked[stored.id]? = some (stored,owner)

lemma requeueHeld_has {stored : Stored} (has : q.Has stored) (sub : SubId) : (q.requeueHeld sub).Has stored := by
  rcases has with ready | ⟨owner,present⟩
  · exact .inl (mem_append_right _ ready)
  by_cases same : owner = sub
  · refine .inl (mem_append_left _ (mem_map.mpr ⟨(stored.id,stored,owner),mem_filter.mpr ⟨?_,by simpa using same⟩,rfl⟩))
    exact mem_toList_iff_getElem?_eq_some.mpr present
  · exact .inr ⟨owner,requeueHeld_unacked.mpr ⟨present,same⟩⟩

/-- The message is still in the queue, or was evicted or has expired. -/
def Keeps (effects : List QueueEffect) (next : TransientQueue) (stored : Stored) : Prop :=
  next.Has stored ∨ ∃ ending ∈ [Ending.maxlen,.expired], .ended stored.id stored.body ending ∈ effects

structure Piece (p : EffectivePolicy) (spared : Nat → Prop) (q : TransientQueue) (effects : List QueueEffect)
    (next : TransientQueue) : Prop where
  turned : Turned p q effects next
  sound : next.Sound
  keeps : ∀ stored, spared stored.id → q.Has stored → Keeps effects next stored
  retains : Retains spared q next

variable {ring : Ring}

namespace Piece

variable {p : EffectivePolicy} {spared : Nat → Prop} {q mid next : TransientQueue} {first second : List QueueEffect}

lemma refl (sound : q.Sound) : Piece p spared q [] q :=
  ⟨Turned.refl p q,sound,fun _ _ => .inl,Retains.refl q⟩

lemma trans (one : Piece p spared q first mid) (two : Piece p spared mid second next) (sound : q.Sound) :
    Piece p spared q (first ++ second) next := by
  refine ⟨one.turned.trans two.turned,two.sound,?_,one.retains.trans two.retains sound⟩
  intro stored free has
  rcases one.keeps stored free has with here | ⟨ending,kind,listed⟩
  · refine (two.keeps stored free here).imp_right ?_
    rintro ⟨ending,kind,listed⟩
    exact ⟨ending,kind,mem_append_right _ listed⟩
  · exact .inr ⟨ending,kind,mem_append_left _ listed⟩

lemma of_sheds {result : TransientQueue × List QueueEffect} (sheds : Sheds p ending q result)
    (kind : ending ∈ [Ending.maxlen,.expired]) (sound : q.Sound) : Piece p spared q result.2 result.1 := by
  have dead : ending.dead = true := by
    simp only [mem_cons,not_mem_nil,or_false] at kind
    rcases kind with rfl | rfl <;> rfl
  have turned := sheds.turned dead
  have frame := sheds.onlyReady
  refine ⟨turned,⟨turned.distinct sound,turned.below sound,?_,?_,?_,?_⟩,?_,?_,?_,?_⟩
  · rw [frame.unacked]
    exact sound.keyed
  · rw [frame.unacked,frame.ring]
    exact sound.owned
  · rw [frame.ring]
    exact sound.apart
  · rw [frame.ring]
    exact sound.given
  · rintro stored - (ready | ⟨owner,present⟩)
    · exact (sheds.keeps ready).imp .inl fun listed => ⟨ending,kind,listed⟩
    · exact .inl (.inr ⟨owner,frame.unacked ▸ present⟩)
  · rw [frame.unacked]
    exact fun _ _ _ _ present => .inl present
  · rw [frame.ring]
    exact fun _ _ absent => absent
  · rw [frame.ring]

section

variable (p : EffectivePolicy) (spared : Nat → Prop)

lemma onlyRing (silent : Silent first) (sound : q.Sound)
    (same : ring.ids = q.ring.ids) (counter : ring.nextSubId = q.ring.nextSubId) :
    Piece p spared q first {q with ring} := by
  refine ⟨Turned.quiet silent (List.Perm.refl _) rfl,⟨sound.distinct,sound.below,sound.keyed,?_,?_,?_⟩,
    fun _ _ => .inl,?_,?_,?_⟩
  · rw [same]
    exact sound.owned
  · rw [same]
    exact sound.apart
  · rw [same,counter]
    exact sound.given
  · exact fun _ _ _ _ present => .inl present
  · rw [same]
    exact fun _ _ absent => absent
  · exact counter.ge

lemma lose (sound : q.Sound) (sub : SubId) :
    Piece p spared q [] ({q with ring := q.ring.remove sub}.requeueHeld sub) := by
  have turned : Turned p q [] ({q with ring := q.ring.remove sub}.requeueHeld sub) :=
    Turned.quiet ⟨rfl,rfl,rfl,rfl,rfl,rfl⟩ requeueHeld_held rfl
  refine ⟨turned,⟨turned.distinct sound,turned.below sound,?_,?_,?_,?_⟩,
    fun _ _ has => .inl (requeueHeld_has (q := {q with ring := q.ring.remove sub}) has sub),?_,?_,le_rfl⟩
  · intro id stored owner present
    exact sound.keyed id stored owner (requeueHeld_unacked.mp present).1
  · intro id stored owner present
    obtain ⟨there,other⟩ := requeueHeld_unacked.mp present
    exact Ring.mem_remove_ids.mpr ⟨sound.owned id stored owner there,other⟩
  · exact sound.apart.sublist (Ring.remove_ids_sublist sub)
  · intro owner member
    exact sound.given owner (Ring.mem_remove_ids.mp member).1
  · intro id stored owner _ present
    by_cases same : owner = sub
    · exact .inr fun member => (Ring.mem_remove_ids.mp member).2 same
    · exact .inl (requeueHeld_unacked.mpr ⟨present,same⟩)
  · intro owner _ absent member
    exact absent (Ring.mem_remove_ids.mp member).1

lemma join (sound : q.Sound) (conn : ConnRef) (channel : UInt16)
    (handle : UInt32) (bindingGen : Nat) : Piece p spared q [.subscribed conn (q.ring.nextSubId + 1)]
      {q with ring := q.ring.subscribe conn channel handle bindingGen} := by
  have fresh : q.ring.nextSubId + 1 ∉ q.ring.ids := fun member => Nat.not_succ_le_self _ (sound.given _ member)
  have ids := q.ring.subscribe_ids conn channel handle bindingGen
  refine ⟨Turned.quiet ⟨rfl,rfl,rfl,rfl,rfl,rfl⟩ (List.Perm.refl _) rfl,
    ⟨sound.distinct,sound.below,sound.keyed,?_,?_,?_⟩,fun _ _ => .inl,?_,?_,Nat.le_succ _⟩
  · intro id stored owner present
    rw [ids]
    exact mem_append_left _ (sound.owned id stored owner present)
  · rw [ids]
    refine nodup_append.mpr ⟨sound.apart,nodup_singleton _,?_⟩
    rintro id member other new rfl
    exact fresh (mem_singleton.mp new ▸ member)
  · intro owner member
    rw [ids,mem_append,mem_singleton] at member
    rcases member with old | new
    · exact (sound.given owner old).trans (Nat.le_succ _)
    · exact new.le
  · exact fun _ _ _ _ present => .inl present
  intro owner known absent
  rw [ids,mem_append,mem_singleton]
  rintro (old | rfl)
  · exact absent old
  · exact Nat.not_succ_le_self _ known

end

end Piece

private lemma Sound.absent (sound : q.Sound) (listed : q.ready = msg::rest) : q.unacked[msg.id]? = none := by
  cases present : q.unacked[msg.id]? with
  | none => rfl
  | some entry =>
    obtain ⟨stored,owner⟩ := entry
    have distinct := sound.distinct
    have same := sound.keyed msg.id stored owner present
    simp only [held,listed,map_cons,cons_append,nodup_cons,map_append,mem_append] at distinct
    refine absurd (.inr ?_) distinct.1
    refine mem_map.mpr ⟨stored.message,mem_map.mpr ⟨(msg.id,stored,owner),?_,rfl⟩,same⟩
    exact mem_toList_iff_getElem?_eq_some.mpr present

variable (p : EffectivePolicy)

variable (spared : Nat → Prop)

lemma deliver_piece {sub : Subscriber} 
    (sound : q.Sound) (listed : q.ready = msg::rest) (taken : q.ring.take = some (sub,ring)) :
    Piece p spared q [.command sub.conn (sub.deliver msg.id msg.body)]
      {q with ready := rest,ring,unacked := q.unacked.insert msg.id (msg,sub.id)} := by
  have absent := sound.absent listed
  obtain ⟨same,counter,known⟩ := Ring.take_ids taken
  have others {id : Nat} {entry : Stored × SubId} (present : q.unacked[id]? = some entry) :
      (q.unacked.insert msg.id (msg,sub.id))[id]? = some entry := by
    have other : msg.id ≠ id := by
      rintro rfl
      rw [absent] at present
      cases present
    simpa [ExtTreeMap.getElem?_insert,other] using present
  have moved : q.held.Perm
      ({q with ready := rest,ring,unacked := q.unacked.insert msg.id (msg,sub.id)} : TransientQueue).held := by
    have inserted := (Entries.toList_insert_perm (msg,sub.id) absent).map fun entry => entry.2.1.message
    simp only [held,listed,map_cons,cons_append]
    exact perm_middle.symm.trans (inserted.symm.append_left _)
  have turned : Turned p q [.command sub.conn (sub.deliver msg.id msg.body)]
      {q with ready := rest,ring,unacked := q.unacked.insert msg.id (msg,sub.id)} :=
    Turned.quiet ⟨rfl,rfl,rfl,rfl,rfl,rfl⟩ moved rfl
  refine ⟨turned,⟨turned.distinct sound,turned.below sound,?_,?_,?_,?_⟩,?_,?_,?_,counter.ge⟩
  · intro id stored owner present
    rw [ExtTreeMap.getElem?_insert] at present
    by_cases here : msg.id = id
    · simp only [here,compare_self,if_true,Option.some.injEq,Prod.mk.injEq] at present
      rw [← present.1,here]
    · simp only [LawfulEqCmp.compare_eq_iff_eq,here,if_false] at present
      exact sound.keyed id stored owner present
  · intro id stored owner present
    rw [ExtTreeMap.getElem?_insert] at present
    rw [same]
    by_cases here : msg.id = id
    · simp only [here,compare_self,if_true,Option.some.injEq,Prod.mk.injEq] at present
      rw [← present.2]
      exact known
    · simp only [LawfulEqCmp.compare_eq_iff_eq,here,if_false] at present
      exact sound.owned id stored owner present
  · rw [same]
    exact sound.apart
  · rw [same,counter]
    exact sound.given
  · rintro stored - (ready | ⟨owner,present⟩)
    · rw [listed] at ready
      rcases mem_cons.mp ready with rfl | later
      · exact .inl (.inr ⟨sub.id,getElem?_insert_self⟩)
      · exact .inl (.inl later)
    · exact .inl (.inr ⟨owner,others present⟩)
  · exact fun _ _ _ _ present => .inl (others present)
  · rw [same]
    exact fun _ _ absent => absent

lemma deliverReady_piece (live : Nat → ConnRef → Bool) (fuel : Nat) (sound : q.Sound) :
    Piece p spared q (q.deliverReady live fuel).2 (q.deliverReady live fuel).1 := by
  induction fuel generalizing q with
  | zero => exact Piece.refl sound
  | succ fuel ih =>
    unfold deliverReady
    split
    · exact Piece.onlyRing p spared ⟨rfl,rfl,rfl,rfl,rfl,rfl⟩ sound Ring.completeDrains_ids rfl
    rename_i listed
    split
    · exact Piece.refl sound
    rename_i sub ring taken
    split
    · have one := deliver_piece p spared sound listed taken
      exact one.trans (ih one.sound) sound
    obtain ⟨same,counter,-⟩ := Ring.take_ids taken
    have charged : Piece p spared q [] {q with ring} :=
      Piece.onlyRing p spared ⟨rfl,rfl,rfl,rfl,rfl,rfl⟩ sound same counter
    have lost := Piece.lose p spared charged.sound sub.id
    exact (charged.trans lost sound).trans (ih lost.sound) sound

lemma dispatch_piece (live : Nat → ConnRef → Bool) (now : Nat)
    (q : TransientQueue) (sound : q.Sound) : Piece p spared q (q.dispatch p live now).2 (q.dispatch p live now).1 := by
  have expired : Piece p spared q (q.expire p now).2 (q.expire p now).1 := by
    exact Piece.of_sheds (expire_sheds p now q) (by simp) sound
  have sent := deliverReady_piece p spared live (q.expire p now).1.turns expired.sound
  unfold dispatch
  exact expired.trans sent sound

lemma useSlot_piece (fromReserved : Bool) (q : TransientQueue)
    (sound : q.Sound) : Piece p spared q [] (q.useSlot fromReserved) := by
  unfold useSlot
  split
  · refine ⟨Turned.quiet ⟨rfl,rfl,rfl,rfl,rfl,rfl⟩ (List.Perm.refl _) rfl,?_,fun _ _ => .inl,?_⟩
    · exact {sound with}
    · exact ⟨fun _ _ _ _ present => .inl present,fun _ _ absent => absent,le_rfl⟩
  · exact Piece.refl sound

lemma append_turned (now : Nat) (body : Bytes) (ack : Option PublishAck)
    (q : TransientQueue) :
    Turned p q (.stored (q.nextMsgId + 1) body ack::confirmPublish ack) (q.append now body) := by
  have entered : (.stored (q.nextMsgId + 1) body ack::confirmPublish ack).filterMap storedMessage =
      [(q.nextMsgId + 1,body)] := by cases ack <;> rfl
  have kept : (.stored (q.nextMsgId + 1) body ack::confirmPublish ack).filterMap endedMessage = [] := by
    cases ack <;> rfl
  refine ⟨?_,Nat.le_succ _,?_,?_,?_⟩
  · rw [entered,kept,append_nil]
    simp only [held,append,map_append,append_assoc]
    exact perm_append_comm.append_left _
  · rw [entered]
    simp [append]
  · cases ack <;> exact p.letters_nil.symm
  · cases ack <;> rfl

lemma publish_piece (now : Nat) (q : TransientQueue) (body : Bytes)
    (ack : Option PublishAck) (fromReserved : Bool) (sound : q.Sound) :
    Piece p spared q (q.publish p now body ack fromReserved).2.1 (q.publish p now body ack fromReserved).1 := by
  have slot := useSlot_piece p spared fromReserved q sound
  unfold publish
  generalize q.useSlot fromReserved = start at slot ⊢
  have room : Piece p spared start (start.roomFor p body.length).2 (start.roomFor p body.length).1 := by
    exact Piece.of_sheds (roomFor_sheds p body.length start) (by simp) slot.sound
  have before := slot.trans room sound
  rw [nil_append] at before
  generalize start.roomFor p body.length = made at before ⊢
  dsimp only
  split
  · have refused : Turned p made.1 (refusePublish ack) made.1 := by
      refine Turned.quiet ?_ (List.Perm.refl _) rfl
      cases ack <;> exact ⟨rfl,rfl,rfl,rfl,rfl,rfl⟩
    exact before.trans ⟨refused,before.sound,fun _ _ => .inl,Retains.refl made.1⟩ sound
  have stored := append_turned p now body ack made.1
  refine before.trans ⟨stored,?_,?_,?_⟩ sound
  · exact ⟨stored.distinct before.sound,stored.below before.sound,before.sound.keyed,before.sound.owned,
      before.sound.apart,before.sound.given⟩
  · exact fun _ _ has => .inl (has.imp_left (mem_append_left _))
  · exact ⟨fun _ _ _ _ present => .inl present,fun _ _ absent => absent,le_rfl⟩

lemma settle_piece {stored : Stored} (sound : q.Sound) (present : q.unacked[msgId]? = some (stored,sub)) :
    Piece p (fun id => id ≠ msgId) q ({q with unacked := q.unacked.erase msgId}.settle p stored outcome).2
      ({q with unacked := q.unacked.erase msgId}.settle p stored outcome).1 := by
  have out : q.held.Perm (stored.message::({q with unacked := q.unacked.erase msgId} : TransientQueue).held) := by
    have erased := (Entries.toList_erase_perm present).map fun entry => entry.2.1.message
    simp only [held]
    exact (erased.append_left _).trans perm_middle
  -- in every outcome the unacked map has lost just this entry, and subscribers are untouched
  have frame : ∀ next effects, Turned p q effects next → next.unacked = q.unacked.erase msgId →
      next.ring = q.ring → (∀ stored ∈ q.ready, stored ∈ next.ready) →
      Piece p (fun id => id ≠ msgId) q effects next := by
    intro next effects turned erased ring waiting
    have old : ∀ (id : Nat) st owner, next.unacked[id]? = some (st,owner) → q.unacked[id]? = some (st,owner) := by
      intro id st owner there
      rw [erased] at there
      exact (Entries.of_erase there).2
    have others (id : Nat) (entry : Stored × SubId) (other : id ≠ msgId) (there : q.unacked[id]? = some entry) :
        next.unacked[id]? = some entry := by
      rw [erased,getElem?_erase]
      simpa [Ne.symm other] using there
    refine ⟨turned,⟨turned.distinct sound,turned.below sound,?_,?_,?_,?_⟩,?_,?_,?_,?_⟩
    · exact fun id st owner there => sound.keyed id st owner (old id st owner there)
    · intro id st owner there
      rw [ring]
      exact sound.owned id st owner (old id st owner there)
    · rw [ring]
      exact sound.apart
    · rw [ring]
      exact sound.given
    · rintro st other (ready | ⟨owner,there⟩)
      · exact .inl (.inl (waiting st ready))
      · exact .inl (.inr ⟨owner,others st.id (st,owner) other there⟩)
    · exact fun id st owner other there => .inl (others id (st,owner) other there)
    · rw [ring]
      exact fun _ _ absent => absent
    · rw [ring]
  cases outcome with
  | ack | drop => exact frame _ _ (turned_ended rfl out rfl) rfl rfl fun _ => id
  | requeue => exact frame _ _ (Turned.quiet ⟨rfl,rfl,rfl,rfl,rfl,rfl⟩ out rfl) rfl rfl fun _ => mem_cons_of_mem _
  | requeueFailed =>
    unfold settle
    dsimp only
    split
    · exact frame _ _ (turned_dead rfl out rfl) rfl rfl fun _ => id
    · exact frame _ _ (Turned.quiet ⟨rfl,rfl,rfl,rfl,rfl,rfl⟩ out rfl) rfl rfl fun _ => mem_cons_of_mem _

def spares : QueueMsg → Nat → Prop
  | .settle _ msgId _ => fun id => id ≠ msgId
  | _ => fun _ => True

lemma handle_piece (now : Nat) (q : TransientQueue) (msg : QueueMsg) (sound : q.Sound) :
    Piece p (spares msg) q (q.handle p now msg).2.1 (q.handle p now msg).1 := by
  cases msg with
  | publish body ack => exact publish_piece p _ now q body ack false sound
  | publishReserved body ack => exact publish_piece p _ now q body ack true sound
  | reserve =>
    unfold handle
    refine ⟨Turned.quiet ⟨rfl,rfl,rfl,rfl,rfl,rfl⟩ ?_ ?_,?_,?_,?_⟩ <;> dsimp only <;> split
    · exact List.Perm.refl _
    · exact List.Perm.refl _
    · rfl
    · rfl
    · exact {sound with}
    · exact sound
    · exact fun _ _ => .inl
    · exact fun _ _ => .inl
    · exact ⟨fun _ _ _ _ present => .inl present,fun _ _ absent => absent,le_rfl⟩
    · exact Retains.refl q
  | unreserve =>
    exact ⟨Turned.quiet ⟨rfl,rfl,rfl,rfl,rfl,rfl⟩ (List.Perm.refl _) rfl,
      {sound with},fun _ _ => .inl,
      ⟨fun _ _ _ _ present => .inl present,fun _ _ absent => absent,le_rfl⟩⟩
  | subscribe conn channel handle bindingGen => exact Piece.join p _ sound conn channel handle bindingGen
  | demand sub credit drain =>
    exact Piece.onlyRing p _ ⟨rfl,rfl,rfl,rfl,rfl,rfl⟩ sound (Ring.grant_ids sub) rfl
  | settle sub msgId outcome =>
    unfold handle
    dsimp only
    split
    next present =>
      split
      next own =>
        exact settle_piece p sound (own ▸ present)
      · exact Piece.refl sound
    · exact Piece.refl sound
  | unsubscribe sub => exact Piece.lose p _ sound sub
  | stats =>
    exact ⟨Turned.quiet ⟨rfl,rfl,rfl,rfl,rfl,rfl⟩ (List.Perm.refl _) rfl,sound,fun _ _ => .inl,Retains.refl q⟩

section

variable (live : Nat → ConnRef → Bool) (now later : Nat) (q : TransientQueue)

lemma step_piece (msg : QueueMsg) (sound : q.Sound) :
    Piece p (spares msg) q (q.step p live now later msg).2 (q.step p live now later msg).1 := by
  have handled := handle_piece p now q msg sound
  unfold step
  generalize q.handle p now msg = result at handled ⊢
  dsimp only
  split
  · exact handled.trans (dispatch_piece p _ live later _ handled.sound) sound
  · exact handled

private lemma step_late (msgId : Nat) (other : ∀ stored, q.unacked[msgId]? ≠ some (stored,sub)) :
    q.step p live now later (.settle sub msgId outcome) = (q,[]) := by
  have handled : q.handle p now (.settle sub msgId outcome) = (q,[],false) := by
    unfold handle
    dsimp only
    split
    next stored owner present =>
      have differs : owner ≠ sub := by
        rintro rfl
        exact other stored present
      simp [differs]
    · rfl
  simp [step,handled]

end

end TransientQueue

structure Turn where
  msg : QueueMsg
  live : Nat → ConnRef → Bool
  now : Nat
  later : Nat

structure Served where
  queue : TransientQueue := {}
  history : List QueueEffect := []

def Served.step (p : EffectivePolicy) (s : Served) (turn : Turn) : Option Served :=
  let (queue,effects) := s.queue.step p turn.live turn.now turn.later turn.msg
  some ⟨queue,s.history ++ effects⟩

/-- Each message taken in is in one place, and only its holder settles it. A holder that is no longer registered has
given its messages back: they are ready or with other subscribers, if they have not expired since. -/
structure Conserved (p : EffectivePolicy) (s : Served) : Prop where
  once : ∀ message ∈ s.history.filterMap storedMessage,
    (s.queue.ready.map Stored.message).count message +
      (s.queue.unacked.toList.map (fun entry => entry.2.1.message)).count message +
      (s.history.filterMap endedMessage).count message = 1
  fresh : ((s.history.filterMap storedMessage).map Prod.fst).Nodup
  confirms : s.history.filterMap confirmation = s.history.filterMap storedAck
  letters : s.history.filterMap letter = p.letters (s.history.filterMap deadMessage)
  holder : ∀ (id : Nat) stored owner, s.queue.unacked[id]? = some (stored,owner) →
    stored.id = id ∧ s.queue.ring.ids.count owner = 1
  stays : ∀ (id : Nat) stored owner turn next, s.queue.unacked[id]? = some (stored,owner) →
    (∀ outcome, turn.msg ≠ .settle owner id outcome) → s.step p turn = some next →
    next.queue.unacked[id]? = some (stored,owner) ∨ owner ∉ next.queue.ring.ids ∧
      (stored ∈ next.queue.ready ∨ (∃ other, next.queue.unacked[id]? = some (stored,other)) ∨
        ∃ ending ∈ [Ending.maxlen,.expired], .ended id stored.body ending ∈ next.history)
  late : ∀ (id : Nat) sub outcome turn, (∀ stored, s.queue.unacked[id]? ≠ some (stored,sub)) →
    turn.msg = .settle sub id outcome → s.step p turn = some s

private lemma Served.step_late (p : EffectivePolicy) (s : Served) (id : Nat) (sub : SubId)
    (outcome : SettleOutcome) (turn : Turn) (other : ∀ stored, s.queue.unacked[id]? ≠ some (stored,sub))
    (named : turn.msg = .settle sub id outcome) : s.step p turn = some s := by
  unfold Served.step
  rw [named,TransientQueue.step_late p turn.live turn.now turn.later s.queue id other]
  simp only [append_nil]

private def Served.Accounted (p : EffectivePolicy) (s : Served) : Prop :=
  TransientQueue.Turned p {} s.history s.queue ∧ s.queue.Sound

lemma TransientQueue.sound_empty : Sound {} where
  distinct := nodup_nil
  below _ member := absurd member not_mem_nil
  keyed _ _ _ present := absurd present (by simp)
  owned _ _ _ present := absurd present (by simp)
  apart := nodup_nil
  given _ member := absurd member not_mem_nil

lemma served_run (turns : List Turn) (ok : run (Served.step p) {} turns = some s) : s.Accounted p := by
  refine run_invariant_all ?_ ?_ ok
  · rintro s turn next ⟨turned,sound⟩ taken
    cases taken
    have piece := step_piece p turn.live turn.now turn.later s.queue turn.msg sound
    exact ⟨turned.trans piece.turned,piece.sound⟩
  exact ⟨TransientQueue.Turned.refl p {},sound_empty⟩

/-- Of a queue that started empty, each message taken in is ready, held or ended, once. -/
lemma TransientQueue.Turned.once {history : List QueueEffect} {q : TransientQueue} (turned : Turned p {} history q) :
    ((history.filterMap storedMessage).map Prod.fst).Nodup ∧ ∀ message ∈ history.filterMap storedMessage,
      (q.ready.map Stored.message).count message + (q.unacked.toList.map (fun entry => entry.2.1.message)).count message +
        (history.filterMap endedMessage).count message = 1 := by
  have fresh : ((history.filterMap storedMessage).map Prod.fst).Nodup := by
    rw [turned.numbered]
    exact nodup_range'
  refine ⟨fresh,fun message entered => ?_⟩
  have moved := perm_iff_count.mp turned.moves message
  have single : (history.filterMap storedMessage).count message = 1 := count_eq_one_of_mem fresh.of_map entered
  have start : ({} : TransientQueue).held = [] := rfl
  rw [start,nil_append,single] at moved
  simpa only [held,count_append] using moved.symm

theorem confirmed_messages_conserved (p : EffectivePolicy) (turns : List Turn) (s : Served)
    (ok : run (Served.step p) {} turns = some s) : Conserved p s := by
  obtain ⟨turned,sound⟩ := served_run turns ok
  obtain ⟨fresh,once⟩ := turned.once
  refine ⟨once,fresh,turned.confirms,turned.letters,?_,?_,?_⟩
  · intro id stored owner present
    exact ⟨sound.keyed id stored owner present,
      count_eq_one_of_mem sound.apart (sound.owned id stored owner present)⟩
  · intro id stored owner turn next present foreign taken
    by_cases mine : spares turn.msg id
    · cases taken
      have piece := step_piece p turn.live turn.now turn.later s.queue turn.msg sound
      obtain rfl := sound.keyed id stored owner present
      refine (piece.retains.stays stored.id stored owner mine present).imp_right fun lost => ⟨lost,?_⟩
      rcases piece.keeps stored mine (.inr ⟨owner,present⟩) with (ready | held) | ⟨ending,kind,listed⟩
      · exact .inl ready
      · exact .inr (.inl held)
      · exact .inr (.inr ⟨ending,kind,mem_append_right _ listed⟩)
    -- the turn settles this very message, for somebody else
    cases named : turn.msg with
    | settle sub msgId outcome =>
      rw [named] at mine
      obtain rfl : id = msgId := not_not.mp mine
      have other : ∀ st, s.queue.unacked[id]? ≠ some (st,sub) := by
        intro st held
        rw [present] at held
        cases held
        exact foreign outcome named
      rw [Served.step_late p s id sub outcome turn other named] at taken
      cases taken
      exact .inl present
    | _ =>
      rw [named] at mine
      exact absurd trivial mine
  · exact Served.step_late p s

def onceOnly : EffectivePolicy := ⟨none,5,100,false,some "/queues/dead",some 1,true⟩

def Turn.calm (msg : QueueMsg) : Turn := ⟨msg,fun _ _ => true,0,0⟩

def lostSubscriber : List Turn :=
  [.calm (.publish [1] (some ⟨.connection 0,0,0,0,0⟩)),.calm (.publish [2] none),.calm (.subscribe (.connection 7) 0 0 0),
    .calm (.demand 1 2 false),.calm (.settle 1 2 .requeueFailed),.calm (.demand 1 1 false),
    ⟨.publish [3] none,fun _ _ => false,0,0⟩]

theorem confirmed_messages_conserved_lost : ∃ s,
    run (Served.step onceOnly) {} lostSubscriber = some s ∧
    (s.queue.ready.map Stored.id = [1,3] ∧ s.history.filterMap letter = [("/queues/dead",[2])]) ∧
    Conserved onceOnly s := by
  refine reaches_and (by decide) fun s ok _ => ?_
  exact confirmed_messages_conserved onceOnly lostSubscriber s ok

end Ramqp
