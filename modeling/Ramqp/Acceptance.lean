import Ramqp.Library.Settlement
import Ramqp.Semantics.Consumer
import Ramqp.Stall

/-! What a ranged acceptance settles. The peer applies the range to every link of the session, so
it settles the open deliveries that have an id in the range, whose ever they are. -/
namespace Ramqp

open Std Transition Std.ExtTreeMap List UnsettledMap Session

variable {maxPayload : Nat}

@[simp] lemma announced_append (first second : List Effect) :
    announced (first ++ second) = announced first ++ announced second := by
  simp [announced]

def Session.Holds (s : Session) (key : UInt32 × UInt32) : Prop :=
  ∃ l, s.links[key.1]? = some (.sender l) ∧ key.2 ∈ l.unsettled

lemma Session.mem_outstanding (s : Session) (key : UInt32 × UInt32) : key ∈ s.outstanding ↔ s.Holds key := by
  unfold outstanding Holds
  rw [mem_flatMap]
  constructor
  · rintro ⟨entry,listed,member⟩
    rw [mem_toList_iff_getElem?_eq_some] at listed
    cases link : entry.2 with
    | sender l =>
      rw [link] at member listed
      obtain ⟨_,tracked,rfl⟩ := mem_map.mp member
      exact ⟨l,listed,ExtTreeMap.mem_keys.mp tracked⟩
    | receiver =>
      rw [link] at member
      cases member
  · rintro ⟨l,found,tracked⟩
    refine ⟨(key.1,.sender l),?_,mem_map.mpr ⟨key.2,ExtTreeMap.mem_keys.mpr tracked,rfl⟩⟩
    rw [mem_toList_iff_getElem?_eq_some]
    exact found

structure Launched (first last : UInt32) (before after : UInt32 × UInt32 → Prop) (effects : List Effect) :
    Prop where
  counter : last.toNat = first.toNat + transfers effects
  bounds : ∀ entry ∈ announced effects, first.toNat ≤ entry.2.id.toNat ∧ entry.2.id.toNat < last.toNat
  ordered : (announced effects).Pairwise (fun a b => a.2.id < b.2.id)
  held : ∀ key, after key ↔ before key ∨ ∃ d, (key.1,d) ∈ announced effects ∧ d.id = key.2 ∧ d.settled = false

namespace Launched

variable {first middle last : UInt32} {before between after : UInt32 × UInt32 → Prop} {effects more : List Effect}

lemma silent (quiet : transfers effects = 0) (none_ : announced effects = [])
    (same : ∀ key, after key ↔ before key) : Launched first first before after effects := by
  refine ⟨by simp [quiet],?_,?_,?_⟩
  · rw [none_]
    exact forall_mem_nil _
  · rw [none_]
    exact .nil
  · simp [none_,same]

lemma trans (head : Launched first middle before between effects) (tail : Launched middle last between after more) :
    Launched first last before after (effects ++ more) := by
  refine ⟨?_,?_,?_,?_⟩
  · rw [tail.counter,head.counter,transfers_append,Nat.add_assoc]
  · intro entry member
    have up := head.counter
    have on := tail.counter
    rw [announced_append] at member
    rcases mem_append.mp member with early | late
    · have here := head.bounds entry early
      omega
    · have here := tail.bounds entry late
      omega
  · rw [announced_append,pairwise_append]
    refine ⟨head.ordered,tail.ordered,?_⟩
    intro a early b late
    have one := head.bounds a early
    have two := tail.bounds b late
    rw [UInt32.lt_iff_toNat_lt]
    omega
  intro key
  rw [tail.held,head.held]
  simp only [announced_append,mem_append]
  constructor
  · rintro ((old | ⟨d,early,rest⟩) | ⟨d,late,rest⟩)
    · exact .inl old
    · exact .inr ⟨d,.inl early,rest⟩
    · exact .inr ⟨d,.inr late,rest⟩
  rintro (old | ⟨d,early | late,rest⟩)
  · exact .inl (.inl old)
  · exact .inl (.inr ⟨d,early,rest⟩)
  · exact .inr ⟨d,late,rest⟩

end Launched

variable (channel : UInt16) {w : SessionWindows} {rest : Transfer} {body : Bytes} {offset fuel : Nat}

lemma sendChunks_announced (first : Transfer) (plain : rest.deliveryId = none) :
    (sendChunks channel first rest body maxPayload fuel offset false w).2.filterMap Frame.announced = [] := by
  induction fuel generalizing offset w with
  | zero => rfl
  | succ fuel ih =>
    unfold sendChunks
    split
    · simp only [filterMap_cons,ih]
      simp [Frame.announced,plain]
    · rfl

lemma sendMessageFrames_announced (handle deliveryId : UInt32) (tag : Bytes)
    (message : PendingSend) (maxPayload : Nat) (w : SessionWindows) :
    (sendMessageFrames channel handle deliveryId tag message maxPayload w).2.filterMap Frame.announced =
      [(handle,⟨deliveryId,message.settled⟩)] := by
  unfold sendMessageFrames
  split
  · rfl
  rename_i long
  obtain ⟨fuel,same⟩ : ∃ fuel, message.body.length = fuel + 1 := ⟨message.body.length - 1,by omega⟩
  rw [same]
  unfold sendChunks
  rw [if_pos (by omega)]
  simp [Frame.announced,sendChunks_announced]

lemma sendChunks_counter (first : Transfer) (firstFrame : Bool) :
    (sendChunks channel first rest body maxPayload fuel offset firstFrame w).1.nextOutgoingId =
      w.nextOutgoingId + UInt32.ofNat (Window.dataCount
        ((sendChunks channel first rest body maxPayload fuel offset firstFrame w).2.map Frame.item)) := by
  induction fuel generalizing offset firstFrame w with
  | zero => simp [sendChunks,Window.dataCount]
  | succ fuel ih =>
    unfold sendChunks
    split
    · simp only [map_cons,Frame.item,Window.dataCount,ih,SessionWindows.recordOutgoing,UInt32.ofNat_add]
      grind
    · simp [Window.dataCount]

lemma sendMessageFrames_counter :
    (sendMessageFrames channel handle deliveryId tag message maxPayload w).1.nextOutgoingId =
      w.nextOutgoingId + UInt32.ofNat (Window.dataCount
        ((sendMessageFrames channel handle deliveryId tag message maxPayload w).2.map Frame.item)) := by
  unfold sendMessageFrames
  split
  · simp [Frame.item,Window.dataCount,SessionWindows.recordOutgoing]
  · exact sendChunks_counter ..

lemma recordSend_unsettled (sender : SenderLink) (deliveryId : UInt32) (message : PendingSend) (id : UInt32) :
    id ∈ (sender.recordSend deliveryId message).1.unsettled ↔
      id ∈ sender.unsettled ∨ message.settled = false ∧ deliveryId = id := by
  unfold SenderLink.recordSend
  split
  next settled =>
    simp [settled]
  rename_i unsettled
  simp only [UnsettledMap.track,mem_insert,LawfulEqCmp.compare_eq_iff_eq]
  simp [unsettled,or_comm]

lemma message_launched (positive : 1 ≤ maxPayload) (channel : UInt16) (handle : UInt32) (sender : SenderLink)
    (w : SessionWindows) (message : PendingSend)
    (bounded : w.nextOutgoingId.toNat + frameTotal message.body.length maxPayload < 2^32) : Launched w.nextOutgoingId
      (sendMessageFrames channel handle w.nextOutgoingId sender.deliveryTag message maxPayload w).1.nextOutgoingId
      (fun key => key.1 = handle ∧ key.2 ∈ sender.unsettled)
      (fun key => key.1 = handle ∧ key.2 ∈ (sender.recordSend w.nextOutgoingId message).1.unsettled)
      ((sendMessageFrames channel handle w.nextOutgoingId sender.deliveryTag message maxPayload w).2.map .queue ++
        (sender.recordSend w.nextOutgoingId message).2) := by
  have count : transfers
      ((sendMessageFrames channel handle w.nextOutgoingId sender.deliveryTag message maxPayload w).2.map .queue ++
        (sender.recordSend w.nextOutgoingId message).2) = frameTotal message.body.length maxPayload := by
    rw [transfers_append]
    simp only [transfers,queued_map_queue,queued_recordSend,sendMessageFrames_count _ _ _ _ _ _ _ positive]
    rfl
  have listed : announced
      ((sendMessageFrames channel handle w.nextOutgoingId sender.deliveryTag message maxPayload w).2.map .queue ++
        (sender.recordSend w.nextOutgoingId message).2) = [(handle,⟨w.nextOutgoingId,message.settled⟩)] := by
    rw [announced_append]
    simp only [announced,queued_map_queue,queued_recordSend,sendMessageFrames_announced]
    rfl
  have one : 1 ≤ frameTotal message.body.length maxPayload := Nat.le_max_right ..
  have counter :
      (sendMessageFrames channel handle w.nextOutgoingId sender.deliveryTag message maxPayload
        w).1.nextOutgoingId.toNat = w.nextOutgoingId.toNat + frameTotal message.body.length maxPayload := by
    have small : frameTotal message.body.length maxPayload < 2^32 := by omega
    rw [sendMessageFrames_counter,sendMessageFrames_count _ _ _ _ _ _ _ positive,UInt32.toNat_add,
      UInt32.toNat_ofNat_of_lt' small]
    omega
  refine ⟨by rw [count,counter],?_,?_,?_⟩
  · rw [listed,forall_mem_singleton,counter]
    exact ⟨le_rfl,Nat.lt_add_of_pos_right one⟩
  · rw [listed]
    exact pairwise_singleton ..
  intro key
  rw [listed,recordSend_unsettled]
  constructor
  · rintro ⟨own,old | ⟨unsettled,same⟩⟩
    · exact .inl ⟨own,old⟩
    · exact .inr ⟨⟨w.nextOutgoingId,message.settled⟩,by simp [own],same,unsettled⟩
  rintro (⟨own,old⟩ | ⟨d,member,same,unsettled⟩)
  · exact ⟨own,.inl old⟩
  · cases mem_singleton.mp member
    exact ⟨rfl,.inr ⟨unsettled,same⟩⟩

lemma flushOutbox_launched (positive : 1 ≤ maxPayload) (channel : UInt16) (outbox : List PendingSend)
    (bounded : w.nextOutgoingId.toNat + transfers (flushOutbox channel handle maxPayload outbox sender w).2.2 < 2^32) :
    Launched w.nextOutgoingId (flushOutbox channel handle maxPayload outbox sender w).2.1.nextOutgoingId
      (fun key => key.1 = handle ∧ key.2 ∈ sender.unsettled)
      (fun key => key.1 = handle ∧ key.2 ∈ (flushOutbox channel handle maxPayload outbox sender w).1.unsettled)
      (flushOutbox channel handle maxPayload outbox sender w).2.2 := by
  induction outbox generalizing sender w with
  | nil => exact .silent rfl rfl (fun _ => .rfl)
  | cons front rest ih =>
    unfold flushOutbox at bounded ⊢
    split
    next ready =>
      rw [if_pos ready] at bounded
      split
      · exact .silent rfl rfl fun _ => .rfl
      rename_i free
      rw [if_neg free] at bounded
      split
      · exact .silent rfl rfl fun _ => .rfl
      rename_i wide
      rw [if_neg wide] at bounded
      simp only [transfers_append] at bounded
      have count : transfers ((sendMessageFrames channel handle w.nextOutgoingId sender.deliveryTag front
          maxPayload w).2.map .queue) = frameTotal front.body.length maxPayload := by
        simp only [transfers,queued_map_queue,sendMessageFrames_count _ _ _ _ _ _ _ positive]
      have head := message_launched positive channel handle sender w front (by omega)
      have whole := head.counter
      rw [transfers_append] at whole
      refine head.trans (ih (Nat.lt_of_le_of_lt (Nat.le_of_eq ?_) bounded))
      rw [whole,Nat.add_assoc]
    · exact .silent rfl rfl fun _ => .rfl

variable {key : UInt32 × UInt32} {maxFrameSize : Nat} {last : Option UInt32} {second : List Effect} {first : UInt32}

variable {handle : UInt32}

namespace Session

def Launches (s : Session) (result : Session × List Effect) : Prop :=
  s.windows.nextOutgoingId.toNat + transfers result.2 < 2^32 →
    Launched s.windows.nextOutgoingId result.1.windows.nextOutgoingId s.Holds result.1.Holds result.2

variable {s next : Session}

lemma Launches.trans {middle : Session} {first : List Effect} (head : s.Launches (middle,first))
    (tail : middle.Launches (next,second)) : s.Launches (next,first ++ second) := by
  intro bounded
  simp only [transfers_append] at bounded
  have done := head (by simp only; omega)
  refine done.trans (tail ?_)
  rw [done.counter]
  simp only
  omega

variable {effects : List Effect}

lemma Launches.silent (quiet : transfers effects = 0)
    (none_ : announced effects = []) (counter : next.windows.nextOutgoingId = s.windows.nextOutgoingId)
    (same : ∀ key, next.Holds key ↔ s.Holds key) : s.Launches (next,effects) := by
  intro _
  rw [counter]
  exact .silent quiet none_ same

lemma holds_insert (after : SenderLink) (windows : SessionWindows) :
    ({s with windows,links := s.links.insert handle (.sender after)} : Session).Holds key ↔
      (key.1 ≠ handle ∧ s.Holds key) ∨ (key.1 = handle ∧ key.2 ∈ after.unsettled) := by
  unfold Holds
  by_cases own : key.1 = handle
  · simp [own]
  · simp [ExtTreeMap.getElem?_insert,Ne.symm own,own]

lemma holds_of_sender {l : SenderLink}
    (present : s.links[key.1]? = some (.sender l)) : s.Holds key ↔ key.2 ∈ l.unsettled := by
  unfold Holds
  simp [present]

variable {handle : UInt32} {windows : SessionWindows} {after : SenderLink}

lemma holds_replace {before : SenderLink}
    (present : s.links[handle]? = some (.sender before)) (same : after.unsettled = before.unsettled) :
    ({s with windows,links := s.links.insert handle (.sender after)} : Session).Holds key ↔ s.Holds key := by
  rw [holds_insert]
  by_cases own : key.1 = handle
  · subst own
    simp [holds_of_sender present,same]
  · simp [own]

lemma completeDrain_launched (channel : UInt16) :
    (completeDrain channel handle sender w).1.unsettled = sender.unsettled ∧
    transfers (completeDrain channel handle sender w).2 = 0 ∧
    announced (completeDrain channel handle sender w).2 = [] := by
  unfold completeDrain
  split <;> exact ⟨rfl,rfl,rfl⟩

lemma flushSender_launches : s.Launches (s.flushSender handle maxFrameSize) := by
  unfold flushSender
  split
  next sender present =>
    intro bounded
    obtain ⟨same,quiet,none_⟩ := completeDrain_launched s.localChannel
    rw [transfers_append,quiet,Nat.add_zero] at bounded
    have flushed := flushOutbox_launched (one_le_maxPayloadPerFrame maxFrameSize) s.localChannel
      sender.outbox bounded
    refine ⟨?_,?_,?_,?_⟩
    · rw [transfers_append,quiet,Nat.add_zero]
      exact flushed.counter
    · rw [announced_append,none_,append_nil]
      exact flushed.bounds
    · rw [announced_append,none_,append_nil]
      exact flushed.ordered
    intro key
    rw [announced_append,none_,append_nil,holds_insert,same,flushed.held]
    by_cases own : key.1 = handle
    · subst own
      simp [holds_of_sender present]
    have foreign : ¬ ∃ d, (key.1,d) ∈ announced (flushOutbox s.localChannel handle
        (maxPayloadPerFrame maxFrameSize) sender.outbox sender s.windows).2.2 ∧
        d.id = key.2 ∧ d.settled = false := fun started => own ((flushed.held key).mpr (.inr started)).1
    simp [own,foreign]
  · exact .silent rfl rfl rfl fun _ => .rfl

lemma sendTransfer_launches : s.Launches (s.sendTransfer handle message maxFrameSize) := by
  unfold sendTransfer
  split
  next sender present =>
    let queued : Session :=
      {s with links := s.links.insert handle (.sender {sender with outbox := sender.outbox ++ [message]})}
    have parked : s.Launches (queued,[]) := by
      refine .silent rfl rfl rfl fun key => ?_
      refine holds_replace present ?_
      rfl
    exact parked.trans flushSender_launches
  refine .silent ?_ ?_ rfl fun _ => .rfl
  · cases message.reply <;> rfl
  · cases message.reply <;> rfl

lemma flushAll_launches (handles : List UInt32) : s.Launches (flushAll maxFrameSize handles s) := by
  induction handles generalizing s with
  | nil => exact .silent rfl rfl rfl (fun _ => .rfl)
  | cons handle rest ih => exact flushSender_launches.trans ih

lemma applyLinkFlow_launches : s.Launches (s.applyLinkFlow flow) := by
  unfold applyLinkFlow
  split
  · exact .silent rfl rfl rfl fun _ => .rfl
  split
  next present =>
    refine .silent rfl rfl rfl fun key => ?_
    refine holds_replace present ?_
    rfl
  · exact .silent rfl rfl rfl fun _ => .rfl

lemma onFlow_launches (order : IterOrder) : s.Launches (s.onFlow order flow maxFrameSize) := by
  let learnt : Session := {s with windows := s.windows.onPeerFlow flow}
  have first : s.Launches (learnt,[]) := .silent rfl rfl rfl fun _ => .rfl
  let credited := learnt.applyLinkFlow flow
  have second : s.Launches (credited.1,credited.2) := first.trans applyLinkFlow_launches
  let flushed := flushAll maxFrameSize (order.arrange credited.1.stalled) credited.1
  have third : s.Launches (flushed.1,credited.2 ++ flushed.2) := second.trans (flushAll_launches _)
  have echoed : flushed.1.Launches (flushed.1,if flow.echo then
      [.queue ⟨flushed.1.localChannel,.flow (flushed.1.echoFlow flow),none⟩] else []) := by
    cases flow.echo <;> exact .silent rfl rfl rfl (fun _ => .rfl)
  exact third.trans echoed

lemma onDisposition_holds {d : Disposition}
    (ok : s.onDisposition d = .ok (next,effects)) (role : d.role = .receiver) (settled : d.settled = true)
    (key : UInt32 × UInt32) : next.Holds key ↔ s.Holds key ∧ ¬ (d.first ≤ key.2 ∧ key.2 ≤ d.last.getD d.first) := by
  obtain ⟨-,absent,present,-⟩ := onDisposition_ok ok
  cases found : s.links[key.1]? with
  | none => simp [Holds,found,absent key.1 found]
  | some link =>
    obtain ⟨_,_,disposed,there⟩ := present key.1 link found
    obtain ⟨other,hit,-⟩ := Link.dispose_ok disposed
    cases link with
    | receiver =>
      have same := other (by simp [Link.addressed,Link.key,role])
      subst same
      simp [Holds,found,there]
    | sender l =>
      obtain ⟨ranged,-⟩ := hit (by simp [Link.addressed,Link.key,role])
      have shape := ranged.frame
      rw [shape] at there
      rw [holds_of_sender there,holds_of_sender found]
      have here := ranged.ranged key.2
      simp only [mem_iff_isSome_getElem?,here]
      by_cases inside : d.first ≤ key.2 ∧ key.2 ≤ d.last.getD d.first
      · have gone : ∀ entry, settleEntry d.state d.settled entry = none := by
          simp [settleEntry,settled]
        cases (Link.sender l).unsettled[key.2]? <;> simp [gone,inside]
      · simp [inside,Link.unsettled]

lemma onDisposition_windows {d : Disposition}
    (ok : s.onDisposition d = .ok (next,effects)) : next.windows = s.windows := by
  rw [(onDisposition_ok ok).1]

def settlesFirst (s : Session) (handle : UInt32) : Bool :=
  match s.links[handle]? with
  | some (.receiver r) => r.settleMode != .second
  | _ => true

lemma sendDisposition_frame {result : Session × List Effect} (mode : s.settlesFirst handle = true)
    (ok : s.sendDisposition handle first last state true = .ok result) :
    result.2 = [.queue ⟨s.localChannel,.disposition ⟨.receiver,first,last,true,some state⟩,none⟩] := by
  unfold sendDisposition at ok
  unfold settlesFirst at mode
  simp only at ok
  split at ok
  next r present =>
    rw [present] at mode
    have first_ : (r.settleMode == .second) = false := by simpa using mode
    simp only [first_,Bool.not_false,Bool.and_true] at ok
    split at ok
    · cases ok
      rfl
    split at ok
    · cases ok
    · cases ok
      rfl
  next other =>
    cases ok
    split
    next r present =>
      exact absurd present (other r)
    · rfl

lemma sendDisposition_total {first : UInt32} {last : Option UInt32} (state : DeliveryState)
    (ordered : first ≤ last.getD first) : ∃ result, s.sendDisposition handle first last state true = .ok result := by
  unfold sendDisposition
  cases s.links[handle]? with
  | none => exact ⟨_,rfl⟩
  | some link =>
    cases link with
    | sender => exact ⟨_,rfl⟩
    | receiver r =>
      simp only
      split
      · exact ⟨_,rfl⟩
      obtain ⟨_,applied⟩ := applyDisposition_total r.unsettled first (last.getD first) (some state)
        (true && !(r.settleMode == .second)) ordered
      rw [applied]
      exact ⟨_,rfl⟩

end Session

lemma mem_take_idxOf {sent : List Sent} (ordered : sent.Pairwise (fun a b => a.id < b.id)) {d : Sent}
    (member : d ∈ sent) (x : Sent) : x ∈ sent.take (sent.idxOf d + 1) ↔ x ∈ sent ∧ x.id ≤ d.id := by
  induction sent with
  | nil => cases member
  | cons head rest ih =>
    obtain ⟨least,ordered⟩ := pairwise_cons.mp ordered
    by_cases here : head = d
    · subst here
      simp only [idxOf_cons_self,take_succ_cons,take_zero,mem_cons,not_mem_nil,or_false]
      constructor
      · rintro rfl
        exact ⟨.inl rfl,UInt32.le_refl _⟩
      rintro ⟨rfl | later,below⟩
      · rfl
      · exact absurd (least x later) (UInt32.not_lt.mpr below)
    have later : d ∈ rest := (mem_cons.mp member).resolve_left (Ne.symm here)
    rw [idxOf_cons_ne rest here,take_succ_cons,mem_cons,mem_cons,ih ordered later]
    constructor
    · rintro (rfl | ⟨inside,below⟩)
      · exact ⟨.inl rfl,UInt32.le_of_lt (least d later)⟩
      · exact ⟨.inr inside,below⟩
    rintro ⟨rfl | inside,below⟩
    · exact .inl rfl
    · exact .inr ⟨inside,below⟩

lemma eq_of_id_eq {sent : List Sent} (ordered : sent.Pairwise (fun a b => a.id < b.id)) {a b : Sent}
    (first : a ∈ sent) (second : b ∈ sent) (same : a.id = b.id) : a = b := by
  have distinct : (sent.map Sent.id).Nodup := by
    refine pairwise_map.mpr (ordered.imp ?_)
    intro x y less
    exact UInt32.ne_of_lt less
  exact inj_on_of_nodup_map distinct first second same

namespace Consumer

variable {c : Consumer} {d x : Sent}

/-- Where the range of an `accept_through` begins. -/
def oldest (c : Consumer) (d : Sent) : Sent := c.fresh.head?.getD d

/-- The lower bound is the first delivery handed over since the last `accept_through`. -/
structure Bounded (c : Consumer) : Prop where
  past : c.through ≤ c.received.length
  first : c.pendingFirst = c.fresh.head?.map Sent.id

lemma Bounded.start (bounded : c.Bounded) (d : Sent) : c.pendingFirst.getD d.id = (c.oldest d).id := by
  rw [bounded.first,oldest]
  cases c.fresh <;> rfl

lemma Bounded.recv (bounded : c.Bounded) {next : Consumer} (taken : c.recv = some next) : next.Bounded := by
  unfold Consumer.recv at taken
  split at taken
  · cases taken
  rename_i d rest waiting
  cases taken
  constructor
  · simpa using bounded.past.trans (Nat.le_succ _)
  · have more : (c.received ++ [d]).drop c.through = c.fresh ++ [d] := drop_append_of_le_length bounded.past
    simp only [fresh,more,bounded.first]
    cases c.received.drop c.through <;> rfl

lemma oldest_le (ordered : c.received.Pairwise (fun a b => a.id < b.id)) (inside : x = d ∨ x ∈ c.fresh)
    (recent : c.fresh = [] ∨ d ∈ c.fresh) : (c.oldest d).id ≤ x.id := by
  have ordered : c.fresh.Pairwise (fun a b => a.id < b.id) := ordered.sublist (drop_sublist ..)
  unfold oldest
  cases fresh : c.fresh with
  | nil =>
    rw [fresh] at inside
    cases inside.resolve_right not_mem_nil
    exact UInt32.le_refl _
  | cons head rest =>
    rw [fresh] at ordered inside recent
    have member : x ∈ head::rest := inside.elim (fun same => same ▸ recent.resolve_left nofun) id
    rcases mem_cons.mp member with rfl | later
    · exact UInt32.le_refl _
    · exact UInt32.le_of_lt ((pairwise_cons.mp ordered).1 x later)

end Consumer

def Dispatch.covers (e : Dispatch) : Set (UInt32 × UInt32) :=
  {key | e.disposition.first ≤ key.2 ∧ key.2 ≤ e.disposition.last.getD e.disposition.first}

def Dispatch.pending (e : Dispatch) : Settlement.Pending (UInt32 × UInt32) :=
  ⟨e.covers,{key | key ∈ e.meant}⟩

namespace Shared

variable {s next : Shared} {handle : UInt32} {d : Sent}

variable {state : DeliveryState}

def sent (s : Shared) (handle : UInt32) : List Sent :=
  (s.consumers handle).received ++ (s.consumers handle).inbox ++ s.flights handle

def held (s : Shared) : Set (UInt32 × UInt32) := {key | s.peer.Holds key}

def opened (s : Shared) : Set (UInt32 × UInt32) :=
  {key | ∃ d ∈ s.sent key.1, d.id = key.2 ∧ d.settled = false ∧ key.2 ∉ (s.consumers key.1).settled}

def counter (s : Shared) : Nat := s.peer.windows.nextOutgoingId.toNat

structure Coherent (s : Shared) : Prop where
  sound : Settlement.Sound s.held s.opened (s.wire.map Dispatch.pending)
  ordered : ∀ handle, (s.sent handle).Pairwise (fun a b => a.id < b.id)
  below : ∀ handle, ∀ d ∈ s.sent handle, d.id.toNat < s.counter
  distinct : ∀ handle other, ∀ d ∈ s.sent handle, ∀ x ∈ s.sent other, d.id = x.id → handle = other
  named : ∀ handle, ∀ id ∈ (s.consumers handle).settled, id.toNat < s.counter
  range : ∀ e ∈ s.wire, e.disposition.role = .receiver ∧ e.disposition.settled = true ∧
    e.disposition.first ≤ e.disposition.last.getD e.disposition.first ∧
    (e.disposition.last.getD e.disposition.first).toNat < s.counter
  verdicts : ∀ v ∈ s.verdicts, ∀ key, key ∈ v.settled ↔ key ∈ v.dispatch.meant
  bounded : ∀ handle, (s.consumers handle).Bounded

lemma Coherent.same (coherent : s.Coherent) (peer : next.peer = s.peer) (wire : next.wire = s.wire)
    (verdicts : next.verdicts = s.verdicts) (sent : ∀ handle, next.sent handle = s.sent handle)
    (settled : ∀ handle, (next.consumers handle).settled = (s.consumers handle).settled)
    (bounded : ∀ handle, (next.consumers handle).Bounded) : next.Coherent := by
  have count : next.counter = s.counter := by rw [counter,counter,peer]
  have held : next.held = s.held := by rw [held,held,peer]
  have opened : next.opened = s.opened := by
    ext key
    simp only [opened,Set.mem_ofPred_eq,sent,settled]
  refine ⟨?_,?_,?_,?_,?_,?_,?_,bounded⟩
  · rw [held,opened,wire]
    exact coherent.sound
  · intro handle
    rw [sent]
    exact coherent.ordered handle
  · intro handle
    rw [sent,count]
    exact coherent.below handle
  · intro handle other
    rw [sent,sent]
    exact coherent.distinct handle other
  · intro handle
    rw [settled,count]
    exact coherent.named handle
  · rw [wire,count]
    exact coherent.range
  · rw [verdicts]
    exact coherent.verdicts

lemma Coherent.launch (coherent : s.Coherent) {out : Session × List Effect}
    (launched : Launched s.peer.windows.nextOutgoingId out.1.windows.nextOutgoingId s.peer.Holds out.1.Holds out.2) :
    (s.launch out).Coherent := by
  have later : s.counter ≤ (s.launch out).counter := by
    change s.peer.windows.nextOutgoingId.toNat ≤ out.1.windows.nextOutgoingId.toNat
    rw [launched.counter]
    exact Nat.le_add_right ..
  have bounds : ∀ entry ∈ announced out.2,
      s.counter ≤ entry.2.id.toNat ∧ entry.2.id.toNat < (s.launch out).counter := launched.bounds
  have news : ∀ handle d, d ∈ ((announced out.2).filter (·.1 == handle)).map Prod.snd ↔
      (handle,d) ∈ announced out.2 := by
    simp
  have grown : ∀ handle, (s.launch out).sent handle =
      s.sent handle ++ ((announced out.2).filter (·.1 == handle)).map Prod.snd := by
    intro handle
    simp only [sent,Shared.launch,List.append_assoc]
  have inside : ∀ handle d, d ∈ (s.launch out).sent handle ↔ d ∈ s.sent handle ∨ (handle,d) ∈ announced out.2 := by
    intro handle d
    rw [grown,List.mem_append,news]
  let fresh : Set (UInt32 × UInt32) := {key | ∃ d, (key.1,d) ∈ announced out.2 ∧ d.id = key.2 ∧ d.settled = false}
  have held : (s.launch out).held = s.held ∪ fresh := by
    ext key
    exact launched.held key
  have opened : (s.launch out).opened = s.opened ∪ fresh := by
    ext key
    simp only [Shared.opened,fresh,Set.mem_union,Set.mem_ofPred_eq,inside]
    constructor
    · rintro ⟨d,old | new,same,unsettled,unnamed⟩
      · exact .inl ⟨d,old,same,unsettled,unnamed⟩
      · exact .inr ⟨d,new,same,unsettled⟩
    rintro (⟨d,old,rest⟩ | ⟨d,new,same,unsettled⟩)
    · exact ⟨d,.inl old,rest⟩
    refine ⟨d,.inr new,same,unsettled,?_⟩
    intro named
    have small : key.2.toNat < s.counter := coherent.named key.1 key.2 named
    have large := (bounds _ new).1
    rw [← same] at small
    simp only at large
    omega
  refine ⟨?_,?_,?_,?_,?_,?_,coherent.verdicts,coherent.bounded⟩
  · rw [held,opened]
    apply coherent.sound.grow
    rintro p listed key ⟨d,new,same,-⟩ covered
    obtain ⟨e,pending,rfl⟩ := List.mem_map.mp listed
    have under : key.2 ≤ e.disposition.last.getD e.disposition.first := covered.2
    have small := (coherent.range e pending).2.2.2
    have large := (bounds _ new).1
    rw [UInt32.le_iff_toNat_le,← same] at under
    simp only at large
    omega
  · intro handle
    rw [grown,List.pairwise_append]
    refine ⟨coherent.ordered handle,List.pairwise_map.mpr (launched.ordered.filter _),?_⟩
    intro d old x new
    have small := coherent.below handle d old
    have large := (bounds _ ((news handle x).mp new)).1
    rw [UInt32.lt_iff_toNat_lt]
    simp only at large
    omega
  · intro handle d member
    rcases (inside handle d).mp member with old | new
    · exact Nat.lt_of_lt_of_le (coherent.below handle d old) later
    · exact (bounds _ new).2
  · intro handle other d first x second same
    rcases (inside handle d).mp first with old | new
    · rcases (inside other x).mp second with aged | young
      · exact coherent.distinct handle other d old x aged same
      have small := coherent.below handle d old
      have large := (bounds _ young).1
      rw [same] at small
      simp only at large
      omega
    rcases (inside other x).mp second with aged | young
    · have small := coherent.below other x aged
      have large := (bounds _ new).1
      rw [← same] at small
      simp only at large
      omega
    have apart : ((announced out.2).map (·.2.id)).Nodup := by
      refine List.pairwise_map.mpr (launched.ordered.imp ?_)
      intro a b less
      exact UInt32.ne_of_lt less
    exact congrArg Prod.fst (List.inj_on_of_nodup_map apart new young same)
  · intro handle id named
    exact Nat.lt_of_lt_of_le (coherent.named handle id named) later
  · intro e listed
    obtain ⟨role,settled,order,small⟩ := coherent.range e listed
    exact ⟨role,settled,order,Nat.lt_of_lt_of_le small later⟩

lemma Coherent.settle (coherent : s.Coherent) (ok : s.settle = some next) : next.Coherent := by
  unfold Shared.settle at ok
  split at ok
  · cases ok
  rename_i e rest queue
  split at ok
  · cases ok
  rename_i peer effects applied
  cases ok
  obtain ⟨role,settled,-,-⟩ := coherent.range e (by simp [queue])
  have left := onDisposition_holds applied role settled
  have same := onDisposition_windows applied
  have sound := coherent.sound
  rw [queue,map_cons] at sound
  refine ⟨?_,coherent.ordered,?_,coherent.distinct,?_,?_,?_,coherent.bounded⟩
  · have held : ({key | peer.Holds key} : Set (UInt32 × UInt32)) = s.held \ e.covers := by
      ext key
      exact left key
    have popped := sound.pop
    rw [show e.pending.covers = e.covers from rfl,← held] at popped
    exact popped
  · intro handle d member
    have here := coherent.below handle d member
    simpa [counter,same] using here
  · intro handle id named
    have here := coherent.named handle id named
    simpa [counter,same] using here
  · intro other listed
    have here := coherent.range other (by simp [queue,listed])
    simpa [counter,same] using here
  intro v member key
  rcases mem_append.mp member with old | new
  · exact coherent.verdicts v old key
  cases mem_singleton.mp new
  have exact_ := sound.settles key
  simp only [mem_filter,mem_outstanding,Bool.not_eq_true']
  rw [← Bool.not_eq_true,List.contains_iff_mem,Session.mem_outstanding,left]
  change s.peer.Holds key ∧ key ∈ e.covers ↔ key ∈ e.meant at exact_
  rw [← exact_]
  constructor
  · rintro ⟨there,gone⟩
    exact ⟨there,by_contra fun outside => gone ⟨there,outside⟩⟩
  · rintro ⟨there,covered⟩
    exact ⟨there,fun kept => kept.2 covered⟩

lemma mem_received_sent (received : d ∈ (s.consumers handle).received) : d ∈ s.sent handle :=
  mem_append_left _ (mem_append_left _ received)

lemma Coherent.disposeRange (coherent : s.Coherent) {first : UInt32} {last : Option UInt32} {meant : List Sent}
    (mode : s.session.settlesFirst (s.consumers handle).handle = true) (order : first ≤ last.getD first)
    (small : (last.getD first).toNat < s.counter) (own : ∀ key ∈ s.opened, first ≤ key.2 → key.2 ≤ last.getD first →
      key.1 = handle ∧ key.2 ∈ (s.consumers handle).received.map Sent.id)
    (meets : ∀ key : UInt32 × UInt32, key ∈ meant.map (fun sent => (handle,sent.id)) ↔
      key ∈ s.opened ∧ first ≤ key.2 ∧ key.2 ≤ last.getD first)
    (ok : s.disposeRange handle first last state meant = some next) : next.Coherent := by
  unfold Shared.disposeRange at ok
  simp only at ok
  split at ok
  · cases ok
  rename_i session effects disposed
  have frame := sendDisposition_frame mode disposed
  cases ok
  subst frame
  let e : Dispatch := ⟨⟨.receiver,first,last,true,some state⟩,meant.map fun sent => (handle,sent.id)⟩
  let c := (s.consumers handle).named first (last.getD first)
  let next : Shared := {s with session,wire := s.wire ++ [e]}.update handle c
  change next.Coherent
  have consumer : ∀ other, next.consumers other = if other = handle then c else s.consumers other :=
    fun other => Function.update_apply ..
  have sent : ∀ other, next.sent other = s.sent other := by
    intro other
    simp only [sent,consumer]
    split
    next same =>
      subst same
      rfl
    · rfl
  have covers : ∀ key, key ∈ e.covers ↔ first ≤ key.2 ∧ key.2 ≤ last.getD first := fun _ => .rfl
  have opened : next.opened = s.opened \ e.covers := by
    ext key
    simp only [Set.mem_sdiff,covers]
    constructor
    · rintro ⟨d,member,same,unsettled,unnamed⟩
      rw [sent] at member
      have before : key ∈ s.opened := by
        refine ⟨d,member,same,unsettled,?_⟩
        intro named
        apply unnamed
        rw [consumer]
        split
        next here =>
          exact mem_append_left _ (here ▸ named)
        · exact named
      refine ⟨before,fun covered => unnamed ?_⟩
      obtain ⟨here,received⟩ := own key before covered.1 covered.2
      rw [consumer,if_pos here]
      refine mem_append_right _ (mem_filter.mpr ⟨received,?_⟩)
      simpa using covered
    rintro ⟨⟨d,member,same,unsettled,unnamed⟩,outside⟩
    refine ⟨d,by rw [sent]; exact member,same,unsettled,?_⟩
    rw [consumer]
    split
    next here =>
      intro named
      rcases mem_append.mp named with old | new
      · exact unnamed (here ▸ old)
      · have covered := (mem_filter.mp new).2
        exact outside (by simpa using covered)
    · exact unnamed
  have owned : e.pending = ⟨e.covers,s.opened ∩ e.covers⟩ := by
    unfold Dispatch.pending
    congr 1
    ext key
    exact meets key
  have bounded : ∀ other, (next.consumers other).Bounded := by
    intro other
    rw [consumer]
    split
    · exact ⟨(coherent.bounded handle).past,(coherent.bounded handle).first⟩
    · exact coherent.bounded other
  refine ⟨?_,?_,?_,?_,?_,?_,coherent.verdicts,bounded⟩
  · have pushed := coherent.sound.push e.covers
    rw [← owned,← opened] at pushed
    change Settlement.Sound s.held next.opened ((s.wire ++ [e]).map Dispatch.pending)
    rw [map_append]
    exact pushed
  · intro other
    rw [sent]
    exact coherent.ordered other
  · intro other
    rw [sent]
    exact coherent.below other
  · intro one other
    rw [sent,sent]
    exact coherent.distinct one other
  · intro other id named
    rw [consumer] at named
    split at named
    next here =>
      rcases mem_append.mp named with old | new
      · exact coherent.named handle id old
      obtain ⟨received,-⟩ := mem_filter.mp new
      obtain ⟨d,inside,rfl⟩ := mem_map.mp received
      exact coherent.below handle d (mem_received_sent inside)
    · exact coherent.named other id named
  intro other listed
  rcases mem_append.mp listed with old | new
  · exact coherent.range other old
  · cases mem_singleton.mp new
    exact ⟨rfl,rfl,order,small⟩

lemma Coherent.dispose (coherent : s.Coherent) (received : d ∈ (s.consumers handle).received)
    (mode : s.session.settlesFirst (s.consumers handle).handle = true) (ok : s.dispose handle d state = some next) :
    next.Coherent := by
  have sent := mem_received_sent received
  have only : ∀ key ∈ s.opened, d.id ≤ key.2 → key.2 ≤ d.id → key = (handle,d.id) := by
    rintro key ⟨x,member,same,-⟩ above below
    have equal : key.2 = d.id := UInt32.le_antisymm below above
    have here := coherent.distinct key.1 handle x member d sent (same.trans equal)
    exact Prod.ext here equal
  refine Coherent.disposeRange coherent mode ?_ ?_ ?_ ?_ ok
  · exact UInt32.le_refl _
  · exact coherent.below handle d sent
  · intro key inside above below
    have same := only key inside above below
    subst same
    exact ⟨rfl,mem_map_of_mem received⟩
  intro key
  simp only [mem_map,mem_filter,mem_singleton,Consumer.unsettled]
  constructor
  · rintro ⟨x,⟨rfl,unsettled⟩,rfl⟩
    refine ⟨⟨x,sent,rfl,?_⟩,UInt32.le_refl _,UInt32.le_refl _⟩
    simpa using unsettled
  rintro ⟨inside,above,below⟩
  have same := only key inside above below
  subst same
  obtain ⟨_,member,equal,unsettled,unnamed⟩ := inside
  cases eq_of_id_eq (coherent.ordered handle) member sent equal
  exact ⟨d,⟨rfl,by simpa [unsettled] using unnamed⟩,rfl⟩

/-- If anything was handed over since the last `accept_through`, the delivery was; so was everything unsettled up to it,
the delivery itself apart; and no open delivery of another consumer lies between. -/
def reachesBack (s : Shared) (handle : UInt32) (d : Sent) : Bool :=
  let c := s.consumers handle
  (c.fresh.isEmpty || c.fresh.contains d) && (c.upTo d).all (fun x => x == d || c.fresh.contains x) &&
    s.peer.outstanding.all (fun key => key.1 == handle || (s.consumers key.1).settled.contains key.2 ||
      !(decide ((c.oldest d).id ≤ key.2) && decide (key.2 ≤ d.id)))

lemma Coherent.moved (coherent : s.Coherent) {c : Consumer} (flights : List Sent) (peer : next.peer = s.peer)
    (wire : next.wire = s.wire) (verdicts : next.verdicts = s.verdicts)
    (consumers : next.consumers = Function.update s.consumers handle c)
    (flying : next.flights = Function.update s.flights handle flights)
    (sent : c.received ++ c.inbox ++ flights = s.sent handle) (settled : c.settled = (s.consumers handle).settled)
    (bounded : c.Bounded) : next.Coherent := by
  refine coherent.same peer wire verdicts ?_ ?_ ?_
  · intro other
    by_cases here : other = handle
    · subst here
      rw [Shared.sent,consumers,flying,Function.update_self,Function.update_self,sent]
    · rw [Shared.sent,consumers,flying,Function.update_of_ne here,Function.update_of_ne here,Shared.sent]
  · intro other
    by_cases here : other = handle
    · subst here
      rw [consumers,Function.update_self,settled]
    · rw [consumers,Function.update_of_ne here]
  · rw [consumers]
    intro other
    by_cases here : other = handle
    · subst here
      rw [Function.update_self]
      exact bounded
    · rw [Function.update_of_ne here]
      exact coherent.bounded other

lemma Coherent.taken (coherent : s.Coherent) (handle : UInt32) : (s.update handle {s.consumers handle with
    pendingFirst := none,through := (s.consumers handle).received.length}).Coherent := by
  refine coherent.moved (s.flights handle) rfl rfl rfl rfl (Function.update_eq_self ..).symm rfl rfl ⟨le_rfl,?_⟩
  simp [Consumer.fresh]

lemma Coherent.ordered_received (coherent : s.Coherent) (handle : UInt32) :
    (s.consumers handle).received.Pairwise (fun a b => a.id < b.id) :=
  (pairwise_append.mp (pairwise_append.mp (coherent.ordered handle)).1).1

lemma Coherent.reaches (coherent : s.Coherent) (reaches : s.reachesBack handle d = true) :
    ((s.consumers handle).oldest d).id ≤ d.id ∧
      ∀ x ∈ (s.consumers handle).upTo d, ((s.consumers handle).oldest d).id ≤ x.id := by
  simp only [reachesBack,Bool.and_eq_true,Bool.or_eq_true,all_eq_true,List.contains_iff_mem,beq_iff_eq,
    List.isEmpty_iff] at reaches
  obtain ⟨⟨recent,inside⟩,-⟩ := reaches
  have ordered := coherent.ordered_received handle
  exact ⟨Consumer.oldest_le ordered (.inl rfl) recent,fun x member => Consumer.oldest_le ordered (inside x member) recent⟩

lemma Coherent.acceptThrough (coherent : s.Coherent) (received : d ∈ (s.consumers handle).received)
    (mode : s.session.settlesFirst (s.consumers handle).handle = true) (reaches : s.reachesBack handle d = true)
    (ok : s.acceptThrough handle d = some next) : next.Coherent := by
  let c := s.consumers handle
  let first := (c.oldest d).id
  let taken := s.update handle {c with pendingFirst := none,through := c.received.length}
  have ordered : c.received.Pairwise (fun a b => a.id < b.id) := coherent.ordered_received handle
  have same : taken.consumers handle = {c with pendingFirst := none,through := c.received.length} :=
    Function.update_self ..
  have apart : ∀ other, other ≠ handle → taken.consumers other = s.consumers other :=
    fun other distinct => Function.update_of_ne distinct ..
  have opened : taken.opened = s.opened := by
    ext key
    simp only [opened,Set.mem_ofPred_eq,sent]
    by_cases here : key.1 = handle
    · rw [here,same]
      rfl
    · rw [apart _ here]
      rfl
  obtain ⟨order,oldest⟩ := coherent.reaches reaches
  simp only [reachesBack,Bool.and_eq_true,all_eq_true] at reaches
  obtain ⟨-,alone⟩ := reaches
  have own : ∀ key ∈ s.opened, first ≤ key.2 → key.2 ≤ d.id → key.1 = handle ∧
      ∃ x ∈ c.received, x.id = key.2 ∧ x.settled = false ∧ key.2 ∉ c.settled := by
    rintro key inside above below
    have there : key ∈ s.held := (coherent.sound.held key).mpr (.inl inside)
    obtain ⟨x,member,equal,unsettled,unnamed⟩ := inside
    have here : key.1 = handle := by
      by_contra foreign
      have clear := alone key ((s.peer.mem_outstanding key).mpr there)
      have unnamed : (s.consumers key.1).settled.contains key.2 = false := by simpa using unnamed
      have inside : (decide (first ≤ key.2) && decide (key.2 ≤ d.id)) = true := by simp [above,below]
      have other : (key.1 == handle) = false := by simpa using foreign
      rw [unnamed,other] at clear
      rw [inside] at clear
      cases clear
    rw [here] at member unnamed
    refine ⟨here,x,?_,equal,unsettled,unnamed⟩
    unfold sent at member
    rw [append_assoc] at member
    rcases mem_append.mp member with old | later
    · exact old
    have all := coherent.ordered handle
    unfold sent at all
    rw [append_assoc] at all
    have less := (pairwise_append.mp all).2.2 d received x later
    rw [equal] at less
    exact absurd less (UInt32.not_lt.mpr below)
  simp only [Shared.acceptThrough,(coherent.bounded handle).start] at ok
  refine Coherent.disposeRange (coherent.taken handle) ?_ ?_ ?_ ?_ ?_ ok
  · rw [same]
    exact mode
  · exact order
  · exact coherent.below handle d (mem_received_sent received)
  · intro key inside above below
    rw [opened] at inside
    obtain ⟨here,x,member,equal,-⟩ := own key inside above below
    refine ⟨here,?_⟩
    rw [same]
    exact mem_map.mpr ⟨x,member,equal⟩
  intro key
  change key ∈ (c.upTo d).map (fun sent => (handle,sent.id)) ↔ key ∈ taken.opened ∧ first ≤ key.2 ∧ key.2 ≤ d.id
  rw [opened]
  simp only [mem_map,Consumer.upTo,mem_filter,mem_take_idxOf ordered received]
  constructor
  · rintro ⟨x,⟨⟨member,below⟩,unsettled⟩,rfl⟩
    have listed : x ∈ c.upTo d := mem_filter.mpr
      ⟨(mem_take_idxOf ordered received x).mpr ⟨member,below⟩,unsettled⟩
    refine ⟨⟨x,mem_received_sent member,rfl,?_⟩,oldest x listed,below⟩
    simpa [Consumer.unsettled] using unsettled
  rintro ⟨inside,above,below⟩
  obtain ⟨here,x,member,equal,unsettled,unnamed⟩ := own key inside above below
  refine ⟨x,⟨⟨member,equal ▸ below⟩,?_⟩,Prod.ext here.symm equal⟩
  simp only [Consumer.unsettled,unsettled,equal]
  simpa using unnamed

def countsOn (s : Shared) (out : Session × List Effect) : Bool := decide (s.counter + transfers out.2 < 2^32)

def admits (s : Shared) : SharedStep → Bool
  | .send handle message => s.countsOn (s.peer.sendTransfer handle message s.maxFrameSize)
  | .flow order flow => s.countsOn (s.peer.onFlow order flow s.maxFrameSize)
  | .dispose handle _ _ => s.session.settlesFirst (s.consumers handle).handle
  | .acceptThrough handle d =>
    s.session.settlesFirst (s.consumers handle).handle && s.reachesBack handle d
  | _ => true

lemma step_coherent {label : SharedStep} (coherent : s.Coherent) (admitted : s.admits label = true)
    (ok : s.step label = some next) : next.Coherent := by
  cases label with
  | send handle message =>
    cases ok
    exact coherent.launch (Session.sendTransfer_launches (of_decide_eq_true admitted))
  | flow order flow =>
    cases ok
    exact coherent.launch (Session.onFlow_launches order (of_decide_eq_true admitted))
  | arrive =>
    simp only [step] at ok
    split at ok
    · cases ok
    rename_i rest flying
    cases ok
    refine coherent.moved rest rfl rfl rfl rfl rfl ?_ rfl ⟨(coherent.bounded _).past,(coherent.bounded _).first⟩
    simp only [sent,flying,append_assoc,singleton_append]
  | recv handle =>
    obtain ⟨_,taken,rfl⟩ := Option.map_eq_some_iff.mp ok
    have bounded := (coherent.bounded handle).recv taken
    unfold Consumer.recv at taken
    split at taken
    · cases taken
    rename_i waiting
    cases taken
    refine coherent.moved (s.flights handle) rfl rfl rfl rfl ?_ ?_ rfl bounded
    · exact (Function.update_eq_self ..).symm
    · simp only [sent,waiting,append_assoc,nil_append,cons_append]
  | dispose =>
    simp only [step] at ok
    split at ok
    next received =>
      exact coherent.dispose received admitted ok
    · cases ok
  | acceptThrough =>
    simp only [step] at ok
    split at ok
    next received =>
      simp only [admits,Bool.and_eq_true] at admitted
      exact coherent.acceptThrough received admitted.1 admitted.2 ok
    · cases ok
  | settle => exact coherent.settle ok

def start (peer session : Session) (maxFrameSize : Nat) (handles : UInt32 → UInt32) : Shared :=
  ⟨peer,maxFrameSize,session,fun _ => [],fun handle => ⟨handles handle,[],[],[],none,0⟩,[],[]⟩

lemma start_coherent {peer session : Session} {handles : UInt32 → UInt32}
    (idle : peer.outstanding = []) : (start peer session maxFrameSize handles).Coherent := by
  refine ⟨⟨?_,forall_mem_nil _,.nil,forall_mem_nil _⟩,fun _ => .nil,fun _ => forall_mem_nil _,
    fun _ _ => forall_mem_nil _,fun _ => forall_mem_nil _,forall_mem_nil _,forall_mem_nil _,fun _ => ⟨le_rfl,rfl⟩⟩
  intro key
  have nothing : ¬ peer.Holds key := by
    rw [← mem_outstanding,idle]
    exact not_mem_nil
  constructor
  · intro there
    exact absurd there nothing
  rintro (⟨d,member,-⟩ | ⟨p,member,-⟩)
  · cases member
  · cases member

lemma Coherent.settle_isSome (coherent : s.Coherent) (waiting : s.wire ≠ []) : s.settle.isSome = true := by
  unfold Shared.settle
  cases queue : s.wire with
  | nil => exact absurd queue waiting
  | cons e =>
    obtain ⟨peer,_,ok⟩ := s.peer.onDisposition_total e.disposition
      (fun _ _ _ _ _ => (coherent.range e (by simp [queue])).2.2.1)
    simp [ok]

lemma Coherent.acceptThrough_sends (coherent : s.Coherent) (received : d ∈ (s.consumers handle).received)
    (admitted : s.admits (.acceptThrough handle d) = true) : ∃ next, s.step (.acceptThrough handle d) = some next ∧
      next.wire = s.wire ++ [⟨⟨.receiver,((s.consumers handle).oldest d).id,some d.id,true,some .accepted⟩,
        ((s.consumers handle).upTo d).map fun x => (handle,x.id)⟩] := by
  obtain ⟨mode,reaches⟩ := Bool.and_eq_true_iff.mp admitted
  obtain ⟨order,-⟩ := coherent.reaches reaches
  simp only [step,if_pos received,Shared.acceptThrough,Shared.disposeRange,(coherent.bounded handle).start]
  have same : ((s.update handle {s.consumers handle with
      pendingFirst := none,through := (s.consumers handle).received.length}).consumers handle).handle =
        (s.consumers handle).handle := by simp [update]
  rw [same]
  obtain ⟨_,disposed⟩ := s.session.sendDisposition_total .accepted
    (show ((s.consumers handle).oldest d).id ≤ (some d.id).getD _ from order)
  have frame := sendDisposition_frame mode disposed
  rw [show (s.update handle _).session = s.session from rfl,disposed]
  refine ⟨_,rfl,?_⟩
  simp only [frame]
  rfl

end Shared

/-- In every run in which ids do not wrap, outcomes are settled at once, and each `accept_through` is for a
delivery handed over since the last one, as is all that is unsettled before it, with no open delivery of
another consumer in between: a disposition settles exactly the deliveries it was meant to, an
`accept_through` those received and not yet settled up to the delivery; it is sent, and taken by
the peer, without a fault. -/
theorem acceptThrough_exact (peer session : Session) (maxFrameSize : Nat) (handles : UInt32 → UInt32)
    (labels : List SharedStep) (final : Shared) (idle : peer.outstanding = [])
    (admitted : Transition.Meets Shared.step (fun s label => s.admits label = true)
      (.start peer session maxFrameSize handles) labels)
    (ok : Transition.run Shared.step (.start peer session maxFrameSize handles) labels = some final) :
    (∀ v ∈ final.verdicts, ∀ key, key ∈ v.settled ↔ key ∈ v.dispatch.meant) ∧
    (final.wire ≠ [] → (final.step .settle).isSome = true) ∧
    ∀ handle d, d ∈ (final.consumers handle).received → final.admits (.acceptThrough handle d) = true →
      ∃ next, final.step (.acceptThrough handle d) = some next ∧
        next.wire = final.wire ++
          [⟨⟨.receiver,((final.consumers handle).oldest d).id,some d.id,true,some .accepted⟩,
            ((final.consumers handle).upTo d).map fun x => (handle,x.id)⟩] := by
  have coherent : final.Coherent := run_invariant Shared.step_coherent (Shared.start_coherent idle) admitted ok
  exact ⟨coherent.verdicts,coherent.settle_isSome,fun _ _ => coherent.acceptThrough_sends⟩

def acceptReceiver (s : Session) (name : String) (handle : UInt32) : Session :=
  match s.acceptPeerAttach {name,handle,role := .receiver} .manual 0 none 0 with
  | .ok (_,next,_) => next
  | .error _ => s

def twoSenders : Session :=
  let s := acceptReceiver (acceptReceiver (Session.acceptPeerBegin 1 0 0 ⟨none,0,100,100,7⟩ ⟨100,100,7⟩ 1).1 "a" 0) "b" 1
  let credit : UInt32 → Flow := fun handle =>
    {handle := some handle,linkCredit := some 10,deliveryCount := some 0,nextIncomingId := some 0,incomingWindow := 100}
  ((s.onFlow .byKey (credit 0) 512).1.onFlow .byKey (credit 1) 512).1

def twoReceivers : Session :=
  let s := ((Session.new 0 0 ⟨none,0,100,100,7⟩ 0 0).onPeerBegin 0 ⟨some 0,0,100,100,7⟩).1
  let s := (s.attachLink {name := "a",handle := 0,role := .receiver} .manual 1 1).1
  let s := (s.attachLink {name := "b",handle := 0,role := .receiver} .manual 2 2).1
  let s := (s.onPeerAttach {name := "a",handle := 0,role := .sender,initialDeliveryCount := some 0}).1
  (s.onPeerAttach {name := "b",handle := 1,role := .sender,initialDeliveryCount := some 0}).1

def delivered (handle : UInt32) : List SharedStep :=
  [.send handle ⟨[1],false,0,none,none⟩,.arrive handle,.recv handle]

theorem acceptThrough_exact_shared : ∃ final,
    Transition.run Shared.step (.start twoSenders twoReceivers 512 id)
      (delivered 0 ++ delivered 0 ++ delivered 1 ++
        [.acceptThrough 0 ⟨1,false⟩,.acceptThrough 1 ⟨2,false⟩,.settle,.settle]) = some final ∧
    final.verdicts.map (fun v => v.dispatch.meant) = [[(0,0),(0,1)],[(1,2)]] ∧
    ∀ v ∈ final.verdicts, ∀ key, key ∈ v.settled ↔ key ∈ v.dispatch.meant := by
  refine reaches_and (by decide) fun final ok _ => ?_
  exact (acceptThrough_exact twoSenders twoReceivers 512 id _ final (by decide) (meets_of_check (by decide)) ok).1

/-- Delivery 1 went to the second consumer, and the range of the first settles it too; a consumer
that accepts through delivery 0 forgets delivery 1, and a later call leaves it unsettled. -/
theorem acceptThrough_not_exact :
    (∃ final, Transition.run Shared.step (.start twoSenders twoReceivers 512 id)
        (delivered 0 ++ delivered 1 ++ delivered 0 ++ [.acceptThrough 0 ⟨2,false⟩,.settle]) = some final ∧
      final.verdicts.map (fun v => (v.dispatch.meant,v.settled)) =
        [([(0,0),(0,2)],[(0,0),(0,2),(1,1)])]) ∧
    ∃ final, Transition.run Shared.step (.start twoSenders twoReceivers 512 id)
        (delivered 0 ++ delivered 0 ++ [.acceptThrough 0 ⟨0,false⟩] ++ delivered 0 ++
          [.acceptThrough 0 ⟨2,false⟩,.settle,.settle]) = some final ∧
      final.verdicts.map (fun v => (v.dispatch.meant,v.settled)) =
        [([(0,0)],[(0,0)]),([(0,1),(0,2)],[(0,2)])] := by
  constructor
  all_goals
    apply reaches_of_any
    decide

end Ramqp
