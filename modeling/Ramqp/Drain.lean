import Ramqp.Ownership

/-! A drain request on a sender link: what is sent, and how the credit that is left is given up. -/
namespace Ramqp

open Std List Std.ExtTreeMap Transition Bool

variable {before : LinkCredit} {count : Nat}

def Frame.reportsDrained (channel : UInt16) (handle deliveryCount : UInt32) (frame : Frame) : Bool :=
  match frame.performative with
  | .flow flow => frame.channel == channel && flow.handle == some handle &&
      flow.deliveryCount == some deliveryCount && flow.linkCredit == some 0
  | _ => false

structure Emptied (before after : LinkCredit) (count : Nat) : Prop where
  covered : count ≤ before.linkCredit.toNat
  left : after.linkCredit.toNat = before.linkCredit.toNat - count
  counted : after.deliveryCount = before.deliveryCount + UInt32.ofNat count

private lemma Emptied.recordSent {after : LinkCredit} (allowed : before.canSend = true)
    (rest : Emptied before.recordSent after count) : Emptied before after (count + 1) := by
  have positive : 0 < before.linkCredit.toNat := by
    simpa [LinkCredit.canSend,UInt32.lt_iff_toNat_lt] using allowed
  have one : (1 : UInt32) ≤ before.linkCredit := by
    rw [UInt32.le_iff_toNat_le]
    exact positive
  have spent : before.recordSent.linkCredit.toNat = before.linkCredit.toNat - 1 := by
    simp only [LinkCredit.recordSent,saturatingSub,if_pos one]
    rw [UInt32.toNat_sub_of_le _ _ one]
    rfl
  obtain ⟨covered,left,counted⟩ := rest
  refine ⟨by omega,by omega,?_⟩
  rw [counted]
  simp only [LinkCredit.recordSent]
  rw [UInt32.add_assoc,Nat.add_comm count 1,UInt32.ofNat_add]
  rfl

lemma flushOutbox_emptied (maxPayload : Nat) (messages : List PendingSend) :
    (flushOutbox channel handle maxPayload messages sender windows).1.credit.drain = sender.credit.drain ∧
      ((flushOutbox channel handle maxPayload messages sender windows).1.outbox = [] →
        Emptied sender.credit (flushOutbox channel handle maxPayload messages sender windows).1.credit messages.length) := by
  induction messages generalizing sender windows with
  | nil => exact ⟨rfl,fun _ => ⟨Nat.zero_le _,rfl,(UInt32.add_zero _).symm⟩⟩
  | cons front rest ih =>
    unfold flushOutbox
    split
    next open_ =>
      split
      · exact ⟨rfl,by intro same; cases same⟩
      split
      · exact ⟨rfl,by intro same; cases same⟩
      obtain ⟨drain,emptied⟩ := ih
      rw [Session.recordSend_credit] at drain emptied
      refine ⟨drain,fun empty => ?_⟩
      exact (emptied empty).recordSent (and_eq_true_iff.mp open_).2
    · exact ⟨rfl,by intro same; cases same⟩

/-- A link with nothing left to send, which had `count` messages queued under the credit `before`: it has no credit, and
what it did not use is counted as delivered and reported. -/
structure GivenUp (channel : UInt16) (handle : UInt32) (before : LinkCredit) (count : Nat) (after : LinkCredit)
    (frames : List Frame) : Prop where
  none_left : after.linkCredit = 0
  counted : 0 < before.linkCredit.toNat - count → after.deliveryCount =
    before.deliveryCount + UInt32.ofNat count + UInt32.ofNat (before.linkCredit.toNat - count)
  reported : 0 < before.linkCredit.toNat - count → frames.any (Frame.reportsDrained channel handle after.deliveryCount)

lemma completeDrain_givenUp
    (emptied : Emptied before sender.credit count) (drain : sender.credit.drain = true) (empty : sender.outbox = []) :
    GivenUp channel handle before count (completeDrain channel handle sender windows).1.credit
      (queued (completeDrain channel handle sender windows).2) := by
  have left : sender.credit.linkCredit = UInt32.ofNat (before.linkCredit.toNat - count) := by
    rw [← emptied.left,UInt32.ofNat_toNat]
  unfold completeDrain
  by_cases some_ : 0 < sender.credit.linkCredit
  · simp only [drain,empty,isEmpty_nil,some_,decide_true,Bool.and_true,if_true]
    refine ⟨rfl,fun _ => ?_,fun _ => ?_⟩
    · rw [emptied.counted,left]
    · simp [Frame.reportsDrained,linkFlow]
  have zero : sender.credit.linkCredit = 0 := by
    rw [UInt32.lt_iff_toNat_lt] at some_
    exact UInt32.toNat_inj.mp (Nat.eq_zero_of_not_pos some_)
  have nothing : ¬ 0 < before.linkCredit.toNat - count := by
    rw [← emptied.left,zero]
    exact Nat.lt_irrefl 0
  simp only [some_,decide_false,Bool.and_false,Bool.false_eq_true,if_false]
  exact ⟨zero,fun more => absurd more nothing,fun more => absurd more nothing⟩

lemma completeDrain_outbox : (completeDrain channel handle sender windows).1.outbox = sender.outbox := by
  unfold completeDrain
  split <;> rfl

namespace Session

variable {s : Session} {handle : UInt32} {l : SenderLink} {maxFrameSize : Nat}

variable {handles : List UInt32}

lemma flushSender_givenUp (there : s.links[handle]? = some (.sender l)) (drain : l.credit.drain = true) :
    ∃ after, (s.flushSender handle maxFrameSize).1.links[handle]? = some (.sender after) ∧
      (after.outbox = [] → GivenUp s.localChannel handle l.credit l.outbox.length after.credit
        (queued (s.flushSender handle maxFrameSize).2)) := by
  obtain ⟨kept,emptied⟩ := flushOutbox_emptied (maxPayloadPerFrame maxFrameSize) l.outbox
  simp only [flushSender,there]
  refine ⟨_,getElem?_insert_self,fun empty => ?_⟩
  rw [completeDrain_outbox] at empty
  obtain ⟨none_left,counted,reported⟩ := completeDrain_givenUp
    (emptied empty) (kept.trans drain) empty
  refine ⟨none_left,counted,fun more => ?_⟩
  rw [queued_append,any_append,reported more,Bool.or_true]

lemma flushAll_other (absent : handle ∉ handles) :
    (flushAll maxFrameSize handles s).1.links[handle]? = s.links[handle]? := by
  induction handles generalizing s with
  | nil => rfl
  | cons first rest ih =>
    obtain ⟨apart,others⟩ := not_or.mp (mt mem_cons.mpr absent)
    exact (ih others).trans ((flushSender_only s first maxFrameSize).links handle apart)

lemma flushSender_channel : (s.flushSender handle maxFrameSize).1.localChannel = s.localChannel := by
  rw [(flushSender_inPlace s handle maxFrameSize).frame]

lemma flushAll_givenUp (nodup : handles.Nodup) (listed : handle ∈ handles)
    (there : s.links[handle]? = some (.sender l)) (drain : l.credit.drain = true) :
    ∃ after, (flushAll maxFrameSize handles s).1.links[handle]? = some (.sender after) ∧
      (after.outbox = [] → GivenUp s.localChannel handle l.credit l.outbox.length after.credit
        (queued (flushAll maxFrameSize handles s).2)) := by
  induction handles generalizing s with
  | nil => cases listed
  | cons first rest ih =>
    obtain ⟨absent,nodup⟩ := nodup_cons.mp nodup
    by_cases same : handle = first
    · subst same
      obtain ⟨after,found,given⟩ := flushSender_givenUp there drain
      refine ⟨after,(flushAll_other absent).trans found,fun empty => ?_⟩
      obtain ⟨none_left,counted,reported⟩ := given empty
      refine ⟨none_left,counted,fun more => ?_⟩
      simp only [flushAll]
      rw [queued_append,any_append,reported more,Bool.true_or]
    have kept := ((flushSender_only s first maxFrameSize).links handle same).trans there
    obtain ⟨after,found,given⟩ := ih nodup ((mem_cons.mp listed).resolve_left same) kept
    refine ⟨after,found,fun empty => ?_⟩
    obtain ⟨none_left,counted,reported⟩ := given empty
    refine ⟨none_left,counted,fun more => ?_⟩
    rw [flushSender_channel] at reported
    simp only [flushAll]
    rw [queued_append,any_append,reported more,Bool.or_true]

def DrainComplete (s : Session) (order : IterOrder) (flow : Flow) (maxFrameSize : Nat) (handle : UInt32) (l : SenderLink) :
    Prop :=
  ∃ after, (s.onFlow order flow maxFrameSize).1.links[handle]? = some (.sender after) ∧
    (after.outbox = [] → GivenUp s.localChannel handle
      (l.credit.applyFlowAsSender flow.deliveryCount flow.linkCredit flow.drain) l.outbox.length after.credit
      (queued (s.onFlow order flow maxFrameSize).2))

lemma applyFlowAsSender_drain (c : LinkCredit) (deliveryCount credit : Option UInt32) (drain : Bool) :
    (c.applyFlowAsSender deliveryCount credit drain).drain = drain := by
  cases credit <;> rfl

lemma not_mem_stalled (there : s.links[handle]? = some (.sender l)) (empty : l.outbox = []) :
    handle ∉ s.stalled := by
  intro listed
  obtain ⟨⟨_,link⟩,member,found⟩ := mem_filterMap.mp listed
  rw [mem_toList_iff_getElem?_eq_some] at member
  cases link with
  | receiver => cases found
  | sender =>
    simp only [Option.ite_none_left_eq_some,Option.some.injEq] at found
    obtain ⟨queued,rfl⟩ := found
    cases member.symm.trans there
    exact queued (by rw [empty]; rfl)

/-- A flow completes the drain it asks for if and only if the link had a message queued or gets no credit: a link with
nothing queued is not flushed. -/
theorem drain_complete_iff (order : IterOrder) {flow : Flow} {peer : UInt32} (named : flow.handle = some peer)
    (bound : s.remoteHandles peer = some handle) (there : s.links[handle]? = some (.sender l))
    (drain : flow.drain = true) (maxFrameSize : Nat) :
    s.DrainComplete order flow maxFrameSize handle l ↔
      l.outbox ≠ [] ∨ (l.credit.applyFlowAsSender flow.deliveryCount flow.linkCredit flow.drain).linkCredit = 0 := by
  let credit := l.credit.applyFlowAsSender flow.deliveryCount flow.linkCredit flow.drain
  let credited : Session := {s with windows := s.windows.onPeerFlow flow,
                                    links := s.links.insert handle (.sender {l with credit := credit})}
  have applied : (({s with windows := s.windows.onPeerFlow flow} : Session).applyLinkFlow flow).1 = credited := by
    simp only [applyLinkFlow,named,Option.bind_some,bound,there]
    rfl
  have found : credited.links[handle]? = some (.sender {l with credit := credit}) := getElem?_insert_self
  have links : (s.onFlow order flow maxFrameSize).1 =
      (flushAll maxFrameSize (order.arrange credited.stalled) credited).1 := by
    rw [← applied]
    rfl
  have frames : queued (flushAll maxFrameSize (order.arrange credited.stalled) credited).2 ⊆
      queued (s.onFlow order flow maxFrameSize).2 := by
    rw [← applied]
    simp only [onFlow,queued_append]
    intro frame member
    exact mem_append_left _ (mem_append_right _ member)
  unfold DrainComplete
  rw [links]
  by_cases empty : l.outbox = []
  · have unflushed : handle ∉ order.arrange credited.stalled :=
      mt (order.perm _).mem_iff.mp (not_mem_stalled found empty)
    rw [flushAll_other unflushed,found]
    constructor
    · rintro ⟨after,same,given⟩
      cases same
      exact .inr (given empty).none_left
    rintro (queued | zero)
    · exact absurd empty queued
    · refine ⟨_,rfl,fun _ => ⟨zero,fun more => ?_,fun more => ?_⟩⟩ <;>
        simp [zero] at more
  refine iff_of_true ?_ (.inl empty)
  have nodup := (order.perm credited.stalled).nodup_iff.mpr nodup_stalled
  have listed := (order.perm credited.stalled).mem_iff.mpr (mem_stalled _ found empty)
  obtain ⟨after,there',given⟩ := flushAll_givenUp nodup listed found
    ((applyFlowAsSender_drain ..).trans drain)
  refine ⟨after,there',fun done => ?_⟩
  obtain ⟨none_left,counted,reported⟩ := given done
  refine ⟨none_left,counted,fun more => ?_⟩
  obtain ⟨frame,member,reports⟩ := any_eq_true.mp (reported more)
  exact any_eq_true.mpr ⟨frame,frames member,reports⟩

def mappedSession : Session :=
  ((new 0 1 ⟨none,0,100,100,8⟩ 0 0).onPeerBegin 2 ⟨some 1,0,100,100,8⟩).1

def senderAttached : List SessionInput :=
  [.op (.attach {name := "orders",handle := 0,role := .sender} .manual 1 1),
    .frame .respond .byKey ⟨2,.attach {name := "orders",handle := 7,role := .receiver},none⟩]

def drainRequest : Flow := {nextIncomingId := some 0,incomingWindow := 100,handle := some 7,deliveryCount := some 0,
                            linkCredit := some 5,drain := true}

private def senderIs (holds : SenderLink → Bool) : Option Link → Bool
  | some (.sender l) => holds l
  | _ => false

lemma senderIs_some {holds : SenderLink → Bool} {found : Option Link} (checked : senderIs holds found = true) :
    ∃ l, found = some (.sender l) ∧ holds l = true := by
  cases found with
  | none => cases checked
  | some link =>
    cases link with
    | receiver => cases checked
    | sender l => exact ⟨l,rfl,checked⟩

theorem drain_complete_iff_queued : ∃ s l, run (step 512) mappedSession
      (senderAttached ++ [.op (.send 0 ⟨[1],true,0,none,none⟩)]) = some s ∧
    s.links[(0 : UInt32)]? = some (.sender l) ∧ l.attached = true ∧ l.outbox ≠ [] ∧
    s.DrainComplete .byKey drainRequest 512 0 l := by
  obtain ⟨s,ok,bound,checked⟩ : ∃ s, run (step 512) mappedSession (senderAttached ++ [.op (.send 0 ⟨[1],true,0,none,none⟩)]) = some s ∧
      s.remoteHandles 7 = some 0 ∧ senderIs (fun l => l.attached && !l.outbox.isEmpty) s.links[(0 : UInt32)]? = true :=
    reaches_of_any (by decide +kernel)
  obtain ⟨l,there,checked⟩ := senderIs_some checked
  obtain ⟨attached,queued⟩ := and_eq_true_iff.mp checked
  have nonempty : l.outbox ≠ [] := by
    intro empty
    rw [empty] at queued
    cases queued
  exact ⟨s,l,ok,there,attached,nonempty,(drain_complete_iff .byKey rfl bound there rfl 512).mpr (.inl nonempty)⟩

/-- With nothing queued the link keeps the credit of five. -/
theorem empty_link_undrained : ∃ s l, run (step 512) mappedSession senderAttached = some s ∧
    s.remoteHandles 7 = some 0 ∧ s.links[(0 : UInt32)]? = some (.sender l) ∧ l.attached = true ∧
    ¬ s.DrainComplete .byKey drainRequest 512 0 l := by
  obtain ⟨s,ok,bound,attached,left⟩ : ∃ s, run (step 512) mappedSession senderAttached = some s ∧ s.remoteHandles 7 = some 0 ∧
      senderIs (fun l => l.attached) s.links[(0 : UInt32)]? = true ∧
      senderIs (fun l => l.outbox.isEmpty && l.credit.linkCredit == 5)
        (s.onFlow .byKey drainRequest 512).1.links[(0 : UInt32)]? = true :=
    reaches_of_any (by decide +kernel)
  obtain ⟨l,there,attached⟩ := senderIs_some attached
  obtain ⟨_,found,left⟩ := senderIs_some left
  obtain ⟨empty,credit⟩ := and_eq_true_iff.mp left
  refine ⟨s,l,ok,bound,there,attached,?_⟩
  rintro ⟨other,same,given⟩
  cases found.symm.trans same
  have zero := (given (isEmpty_iff.mp empty)).none_left
  rw [zero] at credit
  cases credit

end Session

end Ramqp
