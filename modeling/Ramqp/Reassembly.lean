import Ramqp.Chunking
import Ramqp.LinkMoves

/-! Messages that one session sends over several links and another one assembles, the frames of different links
arriving in any interleaving. -/
namespace Ramqp

open List Option Ramqp.Frame Session ReceiverLink SessionWindows

section Runs

structure SentMessage where
  handle : UInt32
  deliveryId : UInt32
  tag : Bytes
  message : PendingSend

/-- One round of the loop of `flush_sender`, for a message at the head of a link's outbox; none where the loop stops. -/
def Session.sendNext (s : Session) (maxFrameSize : Nat) (handle : UInt32) (message : PendingSend) :
    Option (Session × SentMessage × List Frame) :=
  match s.links[handle]? with
  | some (.sender l) =>
    if l.attached && l.credit.canSend then
      if !message.settled && decide (maxUnsettledPerLink ≤ l.unsettled.size) then none
      else if s.windows.remoteIncomingWindow < frameCount message.body.length (maxPayloadPerFrame maxFrameSize) then none
      else
        let deliveryId := s.windows.nextOutgoingId
        let (windows,frames) := sendMessageFrames s.localChannel handle deliveryId l.deliveryTag message
          (maxPayloadPerFrame maxFrameSize) s.windows
        some ({s with windows,links := s.links.insert handle (.sender (l.recordSend deliveryId message).1)},
          ⟨handle,deliveryId,l.deliveryTag,message⟩,frames)
    else none
  | _ => none

def Session.sendAll (maxFrameSize : Nat) : List (UInt32 × PendingSend) → Session →
    Option (Session × List SentMessage × List Frame)
  | [],s => some (s,[],[])
  | (handle,message)::rest,s => do
    let (s,dispatch,frames) ← s.sendNext maxFrameSize handle message
    let (s,dispatches,more) ← sendAll maxFrameSize rest s
    some (s,dispatch::dispatches,frames ++ more)

def Session.receiveAll : List Frame → Session → Except Fault (Session × List Effect)
  | [],s => .ok (s,[])
  | frame::rest,s => match frame.performative with
    | .transfer t => do
      let (s,effects) ← s.onTransfer t frame.payload
      let (s,more) ← receiveAll rest s
      pure (s,effects ++ more)
    | _ => receiveAll rest s

def Frame.isFor (handle : UInt32) (frame : Frame) : Bool :=
  match frame.performative with
  | .transfer t => t.handle == handle
  | _ => false

structure Interleaves (merged frames : List Frame) : Prop where
  perm : merged.Perm frames
  order : ∀ handle, merged.filter (Frame.isFor handle) = frames.filter (Frame.isFor handle)

end Runs

section Assembly

variable {maxPayload : Nat}

variable {r : ReceiverLink} {d : SentMessage} {ds : List SentMessage} {blocks : List (List Frame)}

def ReceiverLink.receiveAll : List Frame → ReceiverLink → Option (ReceiverLink × List LinkEvent)
  | [],r => some (r,[])
  | frame::rest,r => match frame.performative with
    | .transfer t => match r.receive t frame.payload with
      | .ok (r,event,false) => (r.receiveAll rest).map fun (r,events) => (r,event.toList ++ events)
      | _ => none
    | _ => none

namespace ReceiverLink

lemma receiveAll_append (first second : List Frame) (r : ReceiverLink) : r.receiveAll (first ++ second) =
    (r.receiveAll first).bind fun (next,events) =>
      (next.receiveAll second).map fun (last,more) => (last,events ++ more) := by
  induction first generalizing r with
  | nil => simp [receiveAll]
  | cons frame rest ih =>
    rw [cons_append,receiveAll,receiveAll]
    split
    · split
      · simp only [ih]
        cases receiveAll rest _ with
        | none => rfl
        | some => simp [Function.comp_def]
      · rfl
    · rfl

variable {channel : UInt16} {handle : UInt32}

lemma receiveAll_continuation {r : ReceiverLink} {p : PartialDelivery} {chunks : List Bytes} (more : chunks ≠ [])
    (sized : p.buf.length + chunks.flatten.length ≤ r.sizeCap) :
    receiveAll (continuation channel handle chunks) {r with assembling := some p} =
      some ((r.complete {p with buf := p.buf ++ chunks.flatten}).1,
        [(r.complete {p with buf := p.buf ++ chunks.flatten}).2]) := by
  induction chunks generalizing p with
  | nil => exact absurd rfl more
  | cons chunk chunks ih =>
    rw [flatten_cons,length_append] at sized
    have within : ¬r.sizeCap < (p.buf ++ chunk).length := by
      rw [length_append]
      omega
    cases chunks with
    | nil =>
      have received : receive {r with assembling := some p} {handle,more := false} (some chunk) =
          .ok ((r.complete {p with buf := p.buf ++ chunk}).1,some (r.complete {p with buf := p.buf ++ chunk}).2,false) := by
        simp only [receive,any_none,any_some,Bool.false_eq_true,if_false]
        exact if_neg within
      simp only [continuation,receiveAll,isEmpty_nil,Bool.not_true,received,flatten_cons,flatten_nil,
        append_nil,map_some,toList_some]
    | cons =>
      have received : receive {r with assembling := some p} {handle,more := true} (some chunk) =
          .ok ({r with assembling := some {p with buf := p.buf ++ chunk}},none,false) := by
        simp only [receive,any_none,any_some,Bool.false_eq_true,if_false]
        exact if_neg within
      have rest := ih (p := {p with buf := p.buf ++ chunk}) (cons_ne_nil _ _) (by rw [length_append]; omega)
      rw [continuation,receiveAll]
      simp only [isEmpty_cons,Bool.not_false,received,rest,map_some,toList_none,nil_append,flatten_cons,append_assoc]

end ReceiverLink

def SentMessage.delivery (d : SentMessage) : PartialDelivery :=
  ⟨d.deliveryId,d.tag,d.message.settled,d.message.state,d.message.body⟩

variable {channel : UInt16}

lemma ReceiverLink.receiveAll_message {w : SessionWindows} (idle : r.assembling = none)
    (positive : 1 ≤ maxPayload) (sized : d.message.body.length ≤ r.sizeCap) :
    r.receiveAll (sendMessageFrames channel d.handle d.deliveryId d.tag d.message maxPayload w).2 =
      some ((r.complete d.delivery).1,[(r.complete d.delivery).2]) := by
  obtain ⟨chunk,chunks,written,joined,_,_⟩ := sendMessageFrames_eq channel d.handle positive
  have total := congrArg length joined
  rw [length_append] at total
  rw [written]
  have within : ¬r.sizeCap < chunk.length := by omega
  have first (more : Bool) : r.receive (announcement d.handle d.deliveryId d.tag d.message more) (some chunk) =
      if more then .ok ({r with assembling := some {d.delivery with buf := chunk}},none,false)
      else .ok ((r.complete {d.delivery with buf := chunk}).1,some (r.complete {d.delivery with buf := chunk}).2,false) := by
    simp only [receive,idle,any_none,Bool.false_eq_true,if_false,announcement,started,getD_some]
    exact if_neg within
  cases chunks with
  | nil =>
    rw [flatten_nil,append_nil] at joined
    have whole : {d.delivery with buf := chunk} = d.delivery := by rw [joined]; rfl
    have received := first false
    rw [whole] at received
    rw [continuation,receiveAll]
    simp only [isEmpty_nil,Bool.not_true,received,Bool.false_eq_true,if_false,receiveAll,map_some,
      toList_some,append_nil]
  | cons next others =>
    have rest := @receiveAll_continuation channel d.handle r {d.delivery with buf := chunk} _
      (cons_ne_nil next others) (by simp only; omega)
    have whole : {d.delivery with buf := chunk ++ (next::others).flatten} = d.delivery := by rw [joined]; rfl
    simp only [whole] at rest
    have received := first true
    rw [receiveAll]
    simp only [isEmpty_cons,Bool.not_false,received,if_true,rest,map_some,toList_none,nil_append]

def SentMessage.Written (channel : UInt16) (maxPayload : Nat) (d : SentMessage) (frames : List Frame) : Prop :=
  ∃ w, (sendMessageFrames channel d.handle d.deliveryId d.tag d.message maxPayload w).2 = frames

def ReceiverLink.completeAll : List SentMessage → ReceiverLink → ReceiverLink × List LinkEvent
  | [],r => (r,[])
  | d::rest,r =>
    let (next,event) := r.complete d.delivery
    let (last,events) := next.completeAll rest
    (last,event::events)

lemma ReceiverLink.receiveAll_messages
    (written : List.Forall₂ (SentMessage.Written channel maxPayload) ds blocks) (idle : r.assembling = none)
    (positive : 1 ≤ maxPayload) (sized : ∀ d ∈ ds, d.message.body.length ≤ r.sizeCap) :
    r.receiveAll blocks.flatten = some (r.completeAll ds) := by
  induction written generalizing r with
  | nil => rfl
  | @cons d block ds blocks first rest ih =>
    obtain ⟨_,rfl⟩ := first
    have others := ih (r := (r.complete d.delivery).1) rfl fun d member => sized d (mem_cons_of_mem _ member)
    rw [flatten_cons,receiveAll_append,receiveAll_message idle positive (sized d mem_cons_self)]
    simp only [bind_some,others,map_some]
    rfl

lemma SentMessage.Written.isFor {frames : List Frame}
    (written : d.Written channel maxPayload frames) (positive : 1 ≤ maxPayload) :
    ∀ frame ∈ frames, ∃ t, frame.performative = .transfer t ∧ t.handle = d.handle := by
  obtain ⟨w,rfl⟩ := written
  obtain ⟨chunk,_,written,_⟩ := sendMessageFrames_eq channel d.handle positive
  rw [written]
  refine forall_mem_cons.mpr ⟨⟨_,rfl,rfl⟩,fun frame member => ?_⟩
  obtain ⟨_,_,_,rfl⟩ := mem_continuation member
  exact ⟨_,rfl,rfl⟩

lemma Frame.isFor_eq {frame : Frame} {t : Transfer} (transfer : frame.performative = .transfer t) (handle : UInt32) :
    frame.isFor handle = (t.handle == handle) := by
  simp only [isFor,transfer]

lemma filter_written
    (written : List.Forall₂ (SentMessage.Written channel maxPayload) ds blocks) (positive : 1 ≤ maxPayload)
    (handle : UInt32) : ∃ own, blocks.flatten.filter (isFor handle) = own.flatten ∧
      List.Forall₂ (SentMessage.Written channel maxPayload) (ds.filter (·.handle == handle)) own := by
  induction written with
  | nil => exact ⟨[],rfl,.nil⟩
  | @cons d block ds blocks first rest ih =>
    obtain ⟨own,same,forms⟩ := ih
    have all := first.isFor positive
    rw [flatten_cons,filter_append,same]
    by_cases here : d.handle = handle
    · refine ⟨block::own,?_,?_⟩
      · rw [flatten_cons,filter_eq_self.mpr]
        intro frame member
        obtain ⟨_,transfer,on⟩ := all frame member
        rw [isFor_eq transfer,on,here,beq_self_eq_true]
      · rw [filter_cons_of_pos (by simpa using here)]
        exact .cons first forms
    refine ⟨own,?_,?_⟩
    · rw [filter_eq_nil_iff.mpr,nil_append]
      intro frame member
      obtain ⟨_,transfer,on⟩ := all frame member
      rw [isFor_eq transfer,on]
      simpa using here
    · rwa [filter_cons_of_neg (by simpa using here)]

end Assembly

section Receiving

variable {w : SessionWindows} {s : Session} {t : Transfer}

def LinkEvent.delivered : LinkEvent → Option IncomingDelivery
  | .delivery d => some d
  | _ => none

structure Wired (s : Session) (used : UInt32 → Prop) (target : UInt32 → UInt32) (link : UInt32 → ReceiverLink) : Prop where
  resolves : ∀ handle, used handle → s.remoteHandles handle = some (target handle)
  receives : ∀ handle, used handle → s.links[target handle]? = some (.receiver (link handle))
  named : ∀ handle, used handle → (link handle).handle = target handle
  apart : ∀ one other, used one → used other → target one = target other → one = other

structure Consumes (w next : SessionWindows) (frames flows : Nat) : Prop where
  counter : next.nextIncomingId = w.nextIncomingId + UInt32.ofNat frames
  units : next.incomingWindow.toNat + frames = w.incomingWindow.toNat + flows * (max w.initialIncomingWindow 1).toNat
  initial : next.initialIncomingWindow = w.initialIncomingWindow
  isOpen : 1 ≤ next.incomingWindow

lemma Consumes.trans {a b c : SessionWindows} {n m j k : Nat} (first : Consumes a b n j) (second : Consumes b c m k) :
    Consumes a c (n + m) (j + k) := by
  refine ⟨?_,?_,second.initial.trans first.initial,second.isOpen⟩
  · rw [second.counter,first.counter,UInt32.ofNat_add,UInt32.add_assoc]
  have one := first.units
  have two := second.units
  rw [first.initial] at two
  rw [Nat.add_mul]
  omega

lemma Consumes.record (open_ : 1 ≤ w.incomingWindow) (stays : w.recordIncoming.2 = false) :
    Consumes w w.recordIncoming.1 1 0 := by
  have left : saturatingSub w.incomingWindow 1 ≠ 0 := by simpa [recordIncoming] using stays
  refine ⟨rfl,?_,rfl,Window.one_le_of_ne_zero left⟩
  rw [Nat.zero_mul]
  exact toNat_saturatingSub_one open_

lemma Consumes.reopen (open_ : 1 ≤ w.incomingWindow) (exhausted : w.recordIncoming.2 = true) :
    Consumes w w.recordIncoming.1.replenishIncoming 1 1 := by
  have left : saturatingSub w.incomingWindow 1 = 0 := by simpa [recordIncoming] using exhausted
  have last := toNat_saturatingSub_one open_
  rw [left] at last
  refine ⟨rfl,?_,rfl,Window.one_le_max _⟩
  change (max w.initialIncomingWindow 1).toNat + 1 = _
  rw [← last,Nat.one_mul]
  exact Nat.add_comm ..

variable {used : UInt32 → Prop} {target : UInt32 → UInt32} {link : UInt32 → ReceiverLink}

lemma Wired.onTransfer (wired : Wired s used target link) (open_ : 1 ≤ s.windows.incomingWindow)
    {payload : Option Bytes} (on : used t.handle) {next : ReceiverLink} {event : Option LinkEvent}
    (received : (link t.handle).receive t payload = .ok (next,event,false)) :
    ∃ after effects, s.onTransfer t payload = .ok (after,effects) ∧
      Wired after used target (Function.update link t.handle next) ∧
      deliveries effects = (event.toList.filterMap LinkEvent.delivered).map ((link t.handle).events,·) ∧
      Consumes s.windows after.windows 1 (queued effects).length := by
  have kept {after : Session} (names : after.remoteHandles = s.remoteHandles)
      (links : after.links = s.links.insert (target t.handle) (.receiver next)) :
      Wired after used target (Function.update link t.handle next) := by
    obtain ⟨handle,_⟩ := (link t.handle).receive_cases received
    refine ⟨fun h is => names ▸ wired.resolves h is,fun h is => ?_,fun h is => ?_,wired.apart⟩
    · rw [links,Std.ExtTreeMap.getElem?_insert]
      by_cases same : h = t.handle
      · subst same
        simp
      rw [Function.update_of_ne same,if_neg,wired.receives h is]
      intro clash
      exact same (wired.apart h t.handle is on (Std.LawfulEqCmp.eq_of_compare clash).symm)
    · by_cases same : h = t.handle
      · subst same
        rw [Function.update_self,handle,wired.named _ on]
      · rw [Function.update_of_ne same,wired.named h is]
  have emitted : deliveries (event.toList.map (Effect.event (link t.handle).events)) =
      (event.toList.filterMap LinkEvent.delivered).map ((link t.handle).events,·) := by
    cases event with
    | none => rfl
    | some e =>
      obtain ⟨_,rfl,_⟩ := ((link t.handle).receive_cases received).2.2 e rfl
      rfl
  have silent : queued (event.toList.map (Effect.event (link t.handle).events)) = [] := by cases event <;> rfl
  simp only [Session.onTransfer,wired.resolves _ on,Session.assemble,wired.receives _ on,received,
    refuseOversized,Bool.false_eq_true,if_false]
  cases exhausted : s.windows.recordIncoming.2 with
  | false =>
    refine ⟨_,_,rfl,kept rfl rfl,?_,?_⟩
    · simp [replenish,emitted]
    · simpa [replenish,silent] using Consumes.record open_ exhausted
  | true =>
    refine ⟨_,_,rfl,kept rfl rfl,?_,?_⟩
    · simp [replenish,emitted]
    · simpa [replenish,silent] using Consumes.reopen open_ exhausted

lemma ReceiverLink.receiveAll_cons {r last : ReceiverLink} {frame : Frame} {rest : List Frame}
    {events : List LinkEvent} (transfer : frame.performative = .transfer t)
    (received : r.receiveAll (frame::rest) = some (last,events)) :
    ∃ next event more, r.receive t frame.payload = .ok (next,event,false) ∧ next.receiveAll rest = some (last,more) ∧
      events = event.toList ++ more := by
  rw [receiveAll] at received
  simp only [transfer] at received
  split at received
  next next event first =>
    obtain ⟨⟨_,more⟩,others,same⟩ := map_eq_some_iff.mp received
    obtain ⟨rfl,rfl⟩ := Prod.mk.inj same
    exact ⟨next,event,more,first,others,rfl⟩
  · cases received

lemma Wired.receiveAll {merged : List Frame} {final : UInt32 → ReceiverLink} {events : UInt32 → List LinkEvent}
    (wired : Wired s used target link) (open_ : 1 ≤ s.windows.incomingWindow)
    (transfers : ∀ frame ∈ merged, ∃ t, frame.performative = .transfer t ∧ used t.handle)
    (each : ∀ handle, used handle →
      (link handle).receiveAll (merged.filter (isFor handle)) = some (final handle,events handle)) :
    ∃ after effects, s.receiveAll merged = .ok (after,effects) ∧ Wired after used target final ∧
      (∀ handle, used handle → (deliveries effects).filter (·.2.handle == target handle) =
        ((events handle).filterMap LinkEvent.delivered).map ((link handle).events,·)) ∧
      (∀ entry ∈ deliveries effects, ∃ handle, used handle ∧ entry.2.handle = target handle) ∧
      Consumes s.windows after.windows merged.length (queued effects).length := by
  induction merged generalizing s link events with
  | nil =>
    have done : ∀ handle, used handle → link handle = final handle ∧ events handle = [] := fun handle on => by
      have result := some.inj (each handle on)
      exact ⟨(Prod.mk.inj result).1,(Prod.mk.inj result).2.symm⟩
    refine ⟨s,[],rfl,⟨wired.resolves,?_,?_,wired.apart⟩,?_,fun _ member => (nomatch member),?_⟩
    · exact fun handle on => (done handle on).1 ▸ wired.receives handle on
    · exact fun handle on => (done handle on).1 ▸ wired.named handle on
    · intro handle on
      rw [(done handle on).2]
      rfl
    · exact ⟨(UInt32.add_zero _).symm,by simp [queued_nil],rfl,open_⟩
  | cons frame rest ih =>
    obtain ⟨t,transfer,on⟩ := transfers frame mem_cons_self
    have own := each t.handle on
    rw [filter_cons_of_pos (by rw [isFor_eq transfer,beq_self_eq_true])] at own
    obtain ⟨next,_,later,received,others,split⟩ := receiveAll_cons transfer own
    obtain ⟨named,channel,delivered⟩ := receive_cases received
    obtain ⟨middle,effects,step,kept,first,unit⟩ := wired.onTransfer open_ on received
    have here : ∀ entry ∈ deliveries effects, entry.2.handle = target t.handle := by
      rw [first]
      intro entry member
      obtain ⟨_,inside,rfl⟩ := mem_map.mp member
      obtain ⟨e,is,of⟩ := mem_filterMap.mp inside
      obtain ⟨_,rfl,at_⟩ := delivered e (mem_toList.mp is)
      cases of
      exact at_.trans (wired.named _ on)
    have remains : ∀ handle, used handle →
        (Function.update link t.handle next handle).receiveAll (rest.filter (isFor handle)) =
          some (final handle,Function.update events t.handle later handle) := by
      intro handle is
      by_cases same : handle = t.handle
      · subst same
        rw [Function.update_self,Function.update_self,others]
      have apart : ¬frame.isFor handle = true := by
        rw [isFor_eq transfer,beq_iff_eq]
        exact fun equal => same equal.symm
      have shown := each handle is
      rw [filter_cons_of_neg apart] at shown
      rw [Function.update_of_ne same,Function.update_of_ne same,shown]
    obtain ⟨after,more,run,finish,offered,known,units⟩ :=
      ih kept unit.isOpen (fun f member => transfers f (mem_cons_of_mem _ member)) remains
    refine ⟨after,effects ++ more,?_,finish,?_,?_,?_⟩
    · rw [Session.receiveAll]
      simp only [transfer,step]
      change (receiveAll rest middle >>= fun x => pure (x.1,effects ++ x.2)) = _
      rw [run]
      rfl
    · intro handle is
      rw [deliveries_append,filter_append,offered handle is]
      by_cases same : handle = t.handle
      · subst same
        rw [filter_eq_self.mpr (fun entry member => beq_iff_eq.mpr (here entry member)),first,split,
          filterMap_append,map_append,Function.update_self,Function.update_self,channel]
      have none : (deliveries effects).filter (·.2.handle == target handle) = [] := by
        refine filter_eq_nil_iff.mpr fun entry member equal => ?_
        exact same (wired.apart _ _ is on ((beq_iff_eq.mp equal).symm.trans (here entry member)))
      rw [none,nil_append,Function.update_of_ne same,Function.update_of_ne same]
    · intro entry member
      rw [deliveries_append,mem_append] at member
      rcases member with now | later
      · exact ⟨t.handle,on,here entry now⟩
      · exact known entry later
    · have total := unit.trans units
      rwa [Nat.add_comm 1,← length_cons,← length_append,← queued_append] at total

end Receiving

section Accounts

variable {c : LinkCredit} {n m : Nat}

structure Spends (c next : LinkCredit) (messages : Nat) : Prop where
  credit : next.linkCredit.toNat + messages = c.linkCredit.toNat
  count : next.deliveryCount = c.deliveryCount + UInt32.ofNat messages

lemma Spends.refl (c : LinkCredit) : Spends c c 0 := ⟨rfl,(UInt32.add_zero _).symm⟩

lemma Spends.trans {a b : LinkCredit} (first : Spends a b n) (second : Spends b c m) : Spends a c (n + m) := by
  refine ⟨?_,by rw [second.count,first.count,UInt32.ofNat_add,UInt32.add_assoc]⟩
  have one := first.credit
  have two := second.credit
  omega

lemma spends_recordReceived (credit : 1 ≤ c.linkCredit) : Spends c c.recordReceived 1 :=
  ⟨toNat_saturatingSub_one credit,rfl⟩

lemma spends_recordSent (credit : 1 ≤ c.linkCredit) : Spends c c.recordSent 1 := ⟨toNat_saturatingSub_one credit,rfl⟩

def SentMessage.incoming (d : SentMessage) (handle : UInt32) : IncomingDelivery :=
  ⟨handle,d.deliveryId,d.tag,d.message.body,d.message.settled,d.message.state⟩

lemma ReceiverLink.completeAll_events (ds : List SentMessage) (r : ReceiverLink) :
    (r.completeAll ds).2 = ds.map fun d => .delivery (d.incoming r.handle) := by
  induction ds generalizing r with
  | nil => rfl
  | cons d rest ih =>
    rw [completeAll,map_cons]
    exact congrArg₂ cons rfl (ih _)

lemma ReceiverLink.completeAll_spends {ds : List SentMessage} {r : ReceiverLink}
    (credit : ds.length ≤ r.credit.linkCredit.toNat) : Spends r.credit (r.completeAll ds).1.credit ds.length := by
  induction ds generalizing r with
  | nil => exact .refl _
  | cons d rest ih =>
    rw [length_cons] at credit ⊢
    have positive : 1 ≤ r.credit.linkCredit := by
      rw [UInt32.le_iff_toNat_le]
      exact (Nat.le_add_left 1 _).trans credit
    have first := spends_recordReceived positive
    have others := ih (r := (r.complete d.delivery).1) (by
      have one := first.credit
      change rest.length ≤ r.credit.recordReceived.linkCredit.toNat
      omega)
    rw [Nat.add_comm]
    exact first.trans others

lemma sendChunks_windows (channel : UInt16) (first rest : Transfer) (body : Bytes) (maxPayload fuel offset : Nat)
    (firstFrame : Bool) (w : SessionWindows) :
    (sendChunks channel first rest body maxPayload fuel offset firstFrame w).1 = recordOutgoing^[
      (sendChunks channel first rest body maxPayload fuel offset firstFrame w).2.length] w := by
  induction fuel generalizing offset firstFrame w with
  | zero => rfl
  | succ fuel ih =>
    unfold sendChunks
    split
    · simp only [length_cons,Function.iterate_succ_apply]
      exact ih ..
    · rfl

lemma sendMessageFrames_windows (channel : UInt16) (handle deliveryId : UInt32) (tag : Bytes)
    (message : PendingSend) (maxPayload : Nat) (w : SessionWindows) :
    (sendMessageFrames channel handle deliveryId tag message maxPayload w).1 = recordOutgoing^[
      (sendMessageFrames channel handle deliveryId tag message maxPayload w).2.length] w := by
  unfold sendMessageFrames
  simp only
  split
  · rfl
  · exact sendChunks_windows ..

structure Draws (w next : SessionWindows) (frames : Nat) : Prop where
  counter : next.nextOutgoingId = w.nextOutgoingId + UInt32.ofNat frames
  units : next.remoteIncomingWindow.toNat + frames = w.remoteIncomingWindow.toNat

lemma Draws.trans {a b c : SessionWindows} (first : Draws a b n) (second : Draws b c m) : Draws a c (n + m) := by
  refine ⟨by rw [second.counter,first.counter,UInt32.ofNat_add,UInt32.add_assoc],?_⟩
  have one := first.units
  have two := second.units
  omega

lemma draws_iterate {w : SessionWindows} (room : n ≤ w.remoteIncomingWindow.toNat) :
    Draws w (recordOutgoing^[n] w) n := by
  induction n generalizing w with
  | zero => exact ⟨(UInt32.add_zero _).symm,rfl⟩
  | succ n ih =>
    have positive : 1 ≤ w.remoteIncomingWindow := by
      rw [UInt32.le_iff_toNat_le]
      exact (Nat.le_add_left 1 _).trans room
    have first : Draws w w.recordOutgoing 1 := ⟨rfl,toNat_saturatingSub_one positive⟩
    have others := ih (w := w.recordOutgoing) (by
      have one := first.units
      omega)
    rw [Function.iterate_succ_apply,Nat.add_comm]
    exact first.trans others

end Accounts

section Sending

variable {s next : Session} {maxFrameSize : Nat} {frames : List Frame}

lemma sendNext_eq {handle : UInt32} {message : PendingSend} {d : SentMessage}
    (sent : s.sendNext maxFrameSize handle message = some (next,d,frames)) :
    ∃ l, s.links[handle]? = some (.sender l) ∧ d = ⟨handle,s.windows.nextOutgoingId,l.deliveryTag,message⟩ ∧
      d.Written s.localChannel (maxPayloadPerFrame maxFrameSize) frames ∧ next.localChannel = s.localChannel ∧
      next.windows = recordOutgoing^[frames.length] s.windows ∧
      next.links = s.links.insert handle (.sender (l.recordSend s.windows.nextOutgoingId message).1) ∧
      1 ≤ l.credit.linkCredit ∧
      frameCount message.body.length (maxPayloadPerFrame maxFrameSize) ≤ s.windows.remoteIncomingWindow := by
  unfold sendNext at sent
  split at sent
  next l present =>
    split_ifs at sent with ready full narrow
    obtain ⟨rfl,rfl,rfl⟩ : _ ∧ _ ∧ _ := by simpa using sent
    simp only [Bool.and_eq_true,LinkCredit.canSend,decide_eq_true_eq] at ready
    refine ⟨l,present,rfl,⟨s.windows,rfl⟩,rfl,sendMessageFrames_windows .., rfl,?_,UInt32.not_lt.mp narrow⟩
    exact Window.one_le_of_ne_zero (UInt32.ne_of_lt ready.2).symm
  · cases sent

/-- The loop of `flush_sender` sends the head of the outbox by `sendNext` and goes on with the link and the windows that
leaves, or stops where `sendNext` does. -/
lemma flushOutbox_cons {handle : UInt32} {l : SenderLink} (present : s.links[handle]? = some (.sender l)) (message : PendingSend)
    (rest : List PendingSend) :
    flushOutbox s.localChannel handle (maxPayloadPerFrame maxFrameSize) (message::rest) l s.windows =
      match s.sendNext maxFrameSize handle message with
      | none => ({l with outbox := message::rest},s.windows,[])
      | some (next,_,frames) =>
        let (sender,replies) := l.recordSend s.windows.nextOutgoingId message
        let (sender,windows,effects) := flushOutbox next.localChannel handle (maxPayloadPerFrame maxFrameSize) rest
          sender next.windows
        (sender,windows,frames.map .queue ++ replies ++ effects) := by
  simp only [flushOutbox,sendNext,present]
  split_ifs <;> rfl

lemma frameTotal_lt {length maxPayload : Nat} (positive : 1 ≤ maxPayload) (sized : length ≤ hardMaxMessageSize) :
    frameTotal length maxPayload < 2^32 := by
  have below : (length + maxPayload - 1) / maxPayload ≤ length := by
    rw [Nat.div_le_iff_le_mul_add_pred positive]
    have := Nat.le_mul_of_pos_left length positive
    omega
  simp only [hardMaxMessageSize] at sized
  unfold frameTotal
  omega

structure SentAll (maxFrameSize : Nat) (s next : Session) (calls : List (UInt32 × PendingSend))
    (ds : List SentMessage) (frames : List Frame) : Prop where
  written : ∃ blocks, frames = blocks.flatten ∧
    List.Forall₂ (SentMessage.Written s.localChannel (maxPayloadPerFrame maxFrameSize)) ds blocks
  same : ds.map (fun d => (d.handle,d.message)) = calls
  draws : Draws s.windows next.windows frames.length
  spends : ∀ handle l, s.links[handle]? = some (.sender l) →
    ∃ sender, next.links[handle]? = some (.sender sender) ∧ Spends l.credit sender.credit (calls.countP (·.1 == handle))

lemma sentAll {calls : List (UInt32 × PendingSend)} {ds : List SentMessage}
    (sent : s.sendAll maxFrameSize calls = some (next,ds,frames))
    (sized : ∀ call ∈ calls, call.2.body.length ≤ hardMaxMessageSize) :
    SentAll maxFrameSize s next calls ds frames := by
  induction calls generalizing s ds frames with
  | nil =>
    obtain ⟨rfl,rfl,rfl⟩ : _ ∧ _ ∧ _ := by simpa [sendAll] using sent
    exact ⟨⟨[],rfl,.nil⟩,rfl,⟨(UInt32.add_zero _).symm,rfl⟩,fun _ l present => ⟨l,present,.refl _⟩⟩
  | cons call rest ih =>
    obtain ⟨handle,message⟩ := call
    obtain ⟨middle,_,first,others,_,one,run,rfl,rfl⟩ : ∃ middle d first others more, s.sendNext maxFrameSize handle message = some (middle,d,first) ∧
        middle.sendAll maxFrameSize rest = some (next,others,more) ∧ ds = d::others ∧ frames = first ++ more := by
      simp only [sendAll,bind_eq_bind,bind_eq_some_iff] at sent
      obtain ⟨⟨middle,d,first⟩,one,⟨_,others,more⟩,run,same⟩ := sent
      obtain ⟨rfl,rfl,rfl⟩ : _ ∧ _ ∧ _ := by simpa using same
      exact ⟨middle,d,first,others,more,one,run,rfl,rfl⟩
    obtain ⟨l,present,rfl,form,channel,windows,links,credit,room⟩ := sendNext_eq one
    have later := ih run fun call member => sized call (mem_cons_of_mem _ member)
    have positive := one_le_maxPayloadPerFrame maxFrameSize
    refine ⟨?_,?_,?_,?_⟩
    · obtain ⟨blocks,rfl,each⟩ := later.written
      exact ⟨first::blocks,rfl,.cons form (channel ▸ each)⟩
    · rw [map_cons,later.same]
    · have count : first.length = frameTotal message.body.length (maxPayloadPerFrame maxFrameSize) := by
        obtain ⟨w,rfl⟩ := form
        exact length_sendMessageFrames _ _ positive
      have small := frameTotal_lt positive (sized (handle,message) mem_cons_self)
      have enough : first.length ≤ s.windows.remoteIncomingWindow.toNat := by
        have checked := UInt32.le_iff_toNat_le.mp room
        rw [frameCount,UInt32.toNat_ofNat_of_lt' small] at checked
        exact count.trans_le checked
      rw [length_append]
      exact (windows ▸ draws_iterate enough).trans later.draws
    intro other l' found
    obtain ⟨sender,now,unit⟩ : ∃ sender, middle.links[other]? = some (.sender sender) ∧
        Spends l'.credit sender.credit (if handle == other then 1 else 0) := by
      rw [links,Std.ExtTreeMap.getElem?_insert]
      by_cases same : handle = other
      · subst same
        obtain rfl : l = l' := by simpa using present.symm.trans found
        refine ⟨_,if_pos (by simp),?_⟩
        rw [recordSend_credit,if_pos (beq_self_eq_true _)]
        exact spends_recordSent credit
      · rw [if_neg (by simpa using same),if_neg (by simpa using same)]
        exact ⟨l',found,.refl _⟩
    obtain ⟨last,final,others⟩ := later.spends other sender now
    refine ⟨last,final,?_⟩
    rw [countP_cons,Nat.add_comm]
    exact unit.trans others

end Sending

section Whole

/-- The receiver knows the links, is not in the middle of a message, and has credit and room for the messages. -/
structure Receivable (receiver : Session) (calls : List (UInt32 × PendingSend)) (target : UInt32 → UInt32)
    (link : UInt32 → ReceiverLink) : Prop where
  wired : Wired receiver (fun handle => ∃ call ∈ calls, call.1 = handle) target link
  isOpen : 1 ≤ receiver.windows.incomingWindow
  idle : ∀ call ∈ calls, (link call.1).assembling = none
  credit : ∀ call ∈ calls, calls.countP (·.1 == call.1) ≤ (link call.1).credit.linkCredit.toNat
  sized : ∀ call ∈ calls, call.2.body.length ≤ (link call.1).sizeCap

lemma sizeCap_le (r : ReceiverLink) : r.sizeCap ≤ hardMaxMessageSize := by
  unfold sizeCap
  split
  · exact Nat.min_le_right ..
  · exact le_refl _

/-- Every message sent is delivered once, on the link it was sent for and as it was sent; every frame takes a unit of
the windows of both sides, and every message a unit of the credit of both. -/
theorem messages_reassembled {s next receiver : Session} {maxFrameSize : Nat} {calls : List (UInt32 × PendingSend)}
    {ds : List SentMessage} {frames merged : List Frame} {target : UInt32 → UInt32} {link : UInt32 → ReceiverLink}
    (sent : s.sendAll maxFrameSize calls = some (next,ds,frames)) (interleaved : Interleaves merged frames)
    (receivable : Receivable receiver calls target link) :
    ds.map (fun d => (d.handle,d.message)) = calls ∧ Draws s.windows next.windows frames.length ∧
    (∀ handle l, s.links[handle]? = some (.sender l) → ∃ sender, next.links[handle]? = some (.sender sender) ∧
      Spends l.credit sender.credit (calls.countP (·.1 == handle))) ∧
    ∃ after effects final, receiver.receiveAll merged = .ok (after,effects) ∧
      Wired after (fun handle => ∃ call ∈ calls, call.1 = handle) target final ∧
      Consumes receiver.windows after.windows frames.length (queued effects).length ∧
      (∀ entry ∈ deliveries effects, ∃ call ∈ calls, entry.2.handle = target call.1) ∧
      ∀ call ∈ calls, Spends (link call.1).credit (final call.1).credit (calls.countP (·.1 == call.1)) ∧
        (deliveries effects).filter (·.2.handle == target call.1) =
          (ds.filter (·.handle == call.1)).map fun d => ((link call.1).events,d.incoming (target call.1)) := by
  have positive := one_le_maxPayloadPerFrame maxFrameSize
  obtain ⟨⟨blocks,rfl,written⟩,same,draws,spends⟩ := sentAll sent fun call member =>
    (receivable.sized call member).trans (sizeCap_le _)
  refine ⟨same,draws,spends,?_⟩
  have count (handle : UInt32) : (ds.filter (·.handle == handle)).length = calls.countP (·.1 == handle) := by
    rw [← same,countP_map,← countP_eq_length_filter]
    rfl
  have of_message {d : SentMessage} (member : d ∈ ds) : (d.handle,d.message) ∈ calls := same ▸ mem_map_of_mem member
  have each : ∀ handle, (∃ call ∈ calls, call.1 = handle) →
      (link handle).receiveAll (merged.filter (isFor handle)) =
        some ((link handle).completeAll (ds.filter (·.handle == handle))) := by
    rintro _ ⟨call,member,rfl⟩
    obtain ⟨_,filtered,forms⟩ := filter_written written positive call.1
    rw [interleaved.order,filtered]
    refine receiveAll_messages forms (receivable.idle call member) positive fun d inside => ?_
    obtain ⟨among,here⟩ := mem_filter.mp inside
    have fits := receivable.sized _ (of_message among)
    rwa [show d.handle = call.1 by simpa using here] at fits
  have transfers : ∀ frame ∈ merged, ∃ t, frame.performative = .transfer t ∧ ∃ call ∈ calls, call.1 = t.handle := by
    intro frame member
    obtain ⟨block,among,inside⟩ := mem_flatten.mp (interleaved.perm.mem_iff.mp member)
    obtain ⟨d,is,form⟩ : ∃ d ∈ ds, d.Written s.localChannel (maxPayloadPerFrame maxFrameSize) block := by
      obtain ⟨i,bound,rfl⟩ := mem_iff_getElem.mp among
      have length := written.length_eq
      exact ⟨ds[i],getElem_mem _,written.get (by omega) bound⟩
    obtain ⟨t,transfer,on⟩ := form.isFor positive frame inside
    exact ⟨t,transfer,_,of_message is,on.symm⟩
  obtain ⟨after,effects,run,wired,offered,known,consumes⟩ :=
    receivable.wired.receiveAll receivable.isOpen transfers each
  rw [interleaved.perm.length_eq] at consumes
  refine ⟨after,effects,_,run,wired,consumes,?_,fun call member => ⟨?_,?_⟩⟩
  · intro entry member
    obtain ⟨_,⟨call,inside,rfl⟩,on⟩ := known entry member
    exact ⟨call,inside,on⟩
  · rw [← count]
    exact completeAll_spends ((count call.1).trans_le (receivable.credit call member))
  rw [offered call.1 ⟨call,member,rfl⟩,completeAll_events,filterMap_map]
  have each : (LinkEvent.delivered ∘ fun d : SentMessage => LinkEvent.delivery (d.incoming (link call.1).handle)) =
      some ∘ fun d => d.incoming (link call.1).handle := rfl
  rw [each,List.filterMap_eq_map,List.map_map,receivable.wired.named call.1 ⟨call,member,rfl⟩]
  rfl

/-- A message of two frames on one link, with a message on another link between them. -/
theorem messages_reassembled_interleaved :
    let sender (handle : UInt32) : SenderLink := {SenderLink.accepted handle "l" 0 .mixed .manual with
      attached := true,credit := ⟨0,5,0,false,.manual⟩}
    let receiving (handle : UInt32) : ReceiverLink := {ReceiverLink.accepted handle "l" handle.toNat .first .manual none with
      attached := true,credit := ⟨0,5,0,false,.manual⟩}
    let base := Session.new 0 0 ⟨none,0,10,10,7⟩ 0 0
    let s : Session := {base with
      windows := {base.windows with remoteIncomingWindow := 10},
      links := ((∅ : Map UInt32 Link).insert 0 (.sender (sender 0))).insert 1 (.sender (sender 1))}
    let receiver : Session := {base with
      remoteHandles := fun handle => if handle = 0 then some 4 else if handle = 1 then some 3 else none,
      links := ((∅ : Map UInt32 Link).insert 4 (.receiver (receiving 4))).insert 3 (.receiver (receiving 3))}
    let long : PendingSend := ⟨List.replicate 433 7,false,0,none,none⟩
    let short : PendingSend := ⟨[9],true,0,some .accepted,none⟩
    ∃ next ds first second third, s.sendAll 512 [(0,long),(1,short)] = some (next,ds,[first,second,third]) ∧
      Interleaves [first,third,second] [first,second,third] ∧
      ∃ after effects, receiver.receiveAll [first,third,second] = .ok (after,effects) ∧
        (deliveries effects).filter (·.2.handle == 4) = (ds.filter (·.handle == 0)).map fun d => (4,d.incoming 4) := by
  intro sender receiving base s receiver long short
  have receivable : Receivable receiver [(0,long),(1,short)] (fun handle => if handle = 0 then 4 else 3)
      (fun handle => receiving (if handle = 0 then 4 else 3)) := by
    refine ⟨⟨?_,?_,?_,?_⟩,by decide,?_,?_,?_⟩
    all_goals simp only [mem_cons,not_mem_nil,or_false]
    · rintro _ ⟨_,rfl | rfl,rfl⟩ <;> rfl
    · rintro _ ⟨_,rfl | rfl,rfl⟩ <;> rfl
    · rintro _ ⟨_,rfl | rfl,rfl⟩ <;> rfl
    · rintro _ _ ⟨_,rfl | rfl,rfl⟩ ⟨_,rfl | rfl,rfl⟩ <;> decide
    · rintro _ (rfl | rfl) <;> rfl
    · rintro _ (rfl | rfl) <;> decide
    rintro _ (rfl | rfl)
    · exact length_replicate.trans_le (by decide)
    · decide
  obtain ⟨first,second,third,frames,one,two,three⟩ : ∃ first second third : Frame,
      (s.sendAll 512 [(0,long),(1,short)]).map (·.2.2) = some [first,second,third] ∧
      (∀ handle, first.isFor handle = (0 == handle)) ∧ (∀ handle, second.isFor handle = (0 == handle)) ∧
      ∀ handle, third.isFor handle = (1 == handle) :=
    ⟨⟨0,.transfer (announcement 0 0 (sender 0).deliveryTag long true),some (replicate 432 7)⟩,
      ⟨0,.transfer {handle := 0},some [7]⟩,
      ⟨0,.transfer (announcement 1 2 (sender 1).deliveryTag short false),some [9]⟩,by decide +kernel,
      fun _ => rfl,fun _ => rfl,fun _ => rfl⟩
  obtain ⟨⟨next,ds,_⟩,sent,rfl⟩ := map_eq_some_iff.mp frames
  have mixed : Interleaves [first,third,second] [first,second,third] := by
    refine ⟨(List.Perm.swap ..).cons _,fun handle => ?_⟩
    by_cases zero : handle = 0
    · subst zero
      simp [one,two,three]
    · have apart : ((0 : UInt32) == handle) = false := beq_eq_false_iff_ne.mpr (Ne.symm zero)
      simp [filter_cons,one,two,three,apart]
  obtain ⟨_,_,_,after,effects,_,run,_,_,_,each⟩ := messages_reassembled sent mixed receivable
  exact ⟨next,ds,first,second,third,sent,mixed,after,effects,run,(each (0,long) mem_cons_self).2⟩

end Whole

end Ramqp
