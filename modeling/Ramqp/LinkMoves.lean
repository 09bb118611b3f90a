import Mathlib.Logic.Relation
import Ramqp.Registry

/-! What one input can do to each link of a session. -/
namespace Ramqp

open Std List Entries ReceiverLink SenderLink Link

variable {after : Link} {r : ReceiverLink} {t : Transfer} {payload : Option Bytes} {event : Option LinkEvent}

variable {exceeded : Bool} {l : SenderLink} {d : Disposition} {output : List Effect}

inductive SenderMove (l : SenderLink) : SenderLink → Prop where
  | queue (message : PendingSend) : SenderMove l {l with outbox := l.outbox ++ [message]}
  | send (message : PendingSend) (rest : List PendingSend) (deliveryId : UInt32) (waiting : l.outbox = message::rest)
      (ready : l.attached = true) (allowed : l.credit.canSend = true) :
      SenderMove l {(l.recordSend deliveryId message).1 with outbox := rest}
  | credit (deliveryCount linkCredit : Option UInt32) (drain : Bool) :
      SenderMove l {l with credit := l.credit.applyFlowAsSender deliveryCount linkCredit drain}
  | drained : SenderMove l {l with credit := {l.credit with
      deliveryCount := l.credit.deliveryCount + l.credit.linkCredit,linkCredit := 0,drain := false}}
  | bind (remote : UInt32) : SenderMove l {l with remoteHandle := some remote,attached := true,pendingAttach := none}

inductive Link.Onward : Link → Link → Prop where
  | sends {l after : SenderLink} (moves : Relation.ReflTransGen SenderMove l after) : Onward (.sender l) (.sender after)
  | same {r : ReceiverLink} : Onward (.receiver r) (.receiver r)

lemma Link.Onward.refl (link : Link) : link.Onward link := by
  cases link with
  | sender => exact .sends .refl
  | receiver => exact .same

lemma Link.Onward.trans {before middle : Link} (first : before.Onward middle) (second : middle.Onward after) :
    before.Onward after := by
  cases first with
  | same => exact second
  | sends early =>
    cases second with
    | sends late => exact .sends (early.trans late)

def ReceiverLink.boundTo (r : ReceiverLink) (attach : Attach) (windows : SessionWindows) : ReceiverLink :=
  {(Session.bindReceiver {r with remoteHandle := some attach.handle,attached := true} attach windows).1 with
    pendingAttach := none}

inductive LinkMove (s : Session) (handle : UInt32) : SessionInput → Link → Link → Prop where
  | onward {input : SessionInput} {before after : Link} (moves : before.Onward after) : LinkMove s handle input before after
  | dispose {policy : AttachPolicy} {order : IterOrder} {channel : UInt16} {d : Disposition} {payload : Option Bytes}
      {link after : Link} {output : List Effect} (disposed : link.dispose d = .ok (after,output)) :
      LinkMove s handle (.frame policy order ⟨channel,.disposition d,payload⟩) link after
  | settle {first : UInt32} {last : Option UInt32} {state : DeliveryState} {settled : Bool} {r : ReceiverLink}
      (unsettled : UnsettledMap) : LinkMove s handle (.op (.settle handle first last state settled)) (.receiver r)
        (.receiver {r with unsettled})
  | bind {policy : AttachPolicy} {order : IterOrder} {channel : UInt16} {attach : Attach} {payload : Option Bytes}
      {r : ReceiverLink} (unbound : r.remoteHandle = none) :
      LinkMove s handle (.frame policy order ⟨channel,.attach attach,payload⟩) (.receiver r)
        (.receiver (r.boundTo attach s.windows))
  | grant {credit : UInt32} {r : ReceiverLink} : LinkMove s handle (.op (.grant handle credit)) (.receiver r)
      (.receiver {r with credit := r.credit.grant credit})
  | set {flow : Flow} {credit : UInt32} {r : ReceiverLink} (named : flow.handle = some handle)
      (amount : flow.linkCredit = some credit) : LinkMove s handle (.op (.flow flow)) (.receiver r)
        (.receiver {r with credit := r.credit.setCredit credit})
  | receive {policy : AttachPolicy} {order : IterOrder} {channel : UInt16} {t : Transfer} {payload : Option Bytes}
      {r after : ReceiverLink} {event : Option LinkEvent} (routed : s.remoteHandles t.handle = some handle)
      (received : r.receive t payload = .ok (after,event,false)) :
      LinkMove s handle (.frame policy order ⟨channel,.transfer t,payload⟩) (.receiver r) (.receiver after)

variable {next : ReceiverLink}

lemma ReceiverLink.receive_cases (received : r.receive t payload = .ok (next,event,false)) :
    next.handle = r.handle ∧ next.events = r.events ∧ ∀ e, event = some e → ∃ d, e = .delivery d ∧ d.handle = r.handle := by
  unfold receive at received
  dsimp only at received
  split_ifs at received
  all_goals cases received
  all_goals refine ⟨rfl,rfl,?_⟩
  · intro _ absent; cases absent
  · intro _ absent; cases absent
  · rintro _ ⟨⟩
    exact ⟨_,rfl,rfl⟩

lemma ReceiverLink.receive_credit (received : r.receive t payload = .ok (next,event,exceeded)) :
    next.credit = if t.aborted ∨ event.isSome then r.credit.recordReceived else r.credit := by
  unfold receive at received
  dsimp only at received
  split at received
  next aborted =>
    cases received
    simp [aborted]
  rename_i whole
  split_ifs at received
  all_goals cases received
  all_goals simp [whole,complete]

lemma toNat_saturatingSub_one {n : UInt32} (positive : 1 ≤ n) : (saturatingSub n 1).toNat + 1 = n.toNat := by
  have bound : 1 ≤ n.toNat := UInt32.le_iff_toNat_le.mp positive
  rw [saturatingSub,if_pos positive,UInt32.toNat_sub_of_le _ _ positive]
  exact Nat.sub_add_cancel bound

lemma toNat_saturatingAdd {a b : UInt32} (fits : a.toNat + b.toNat < 2^32) :
    (saturatingAdd a b).toNat = a.toNat + b.toNat := by
  rw [saturatingAdd,Nat.min_eq_left (by omega)]
  exact UInt32.toNat_ofNat_of_lt' fits

lemma ReceiverLink.receive_aborted
    (received : r.receive t payload = .ok (next,event,exceeded)) (aborted : t.aborted = true) :
    event = none ∧ exceeded = false := by
  unfold receive at received
  rw [if_pos aborted] at received
  cases received
  exact ⟨rfl,rfl⟩

lemma SenderMove.events {after : SenderLink} (move : SenderMove l after) : after.events = l.events := by
  cases move with
  | send =>
    unfold recordSend
    split <;> rfl
  | queue | credit | drained | bind => rfl

lemma Link.dispose_receiver (ok : (receiver r).dispose d = .ok (after,output)) :
    ∃ unsettled, after = .receiver {r with unsettled} := by
  simp only [dispose] at ok
  split at ok
  · split at ok
    · cases ok
    next settled =>
      cases ok
      unfold settleReceived at settled
      split at settled
      · cases settled
        exact ⟨r.unsettled,rfl⟩
      split at settled
      · cases settled
      · cases settled
        exact ⟨_,rfl⟩
  · cases ok
    exact ⟨r.unsettled,rfl⟩

lemma Link.dispose_sender (ok : (sender l).dispose d = .ok (after,output)) :
    (d.role = .sender ∧ after = .sender l) ∨ ∃ settled, d.role = .receiver ∧ after = .sender settled ∧
      l.settleSent d.first (d.last.getD d.first) d.state d.settled = .ok (settled,output) := by
  simp only [dispose] at ok
  split at ok
  next role =>
    split at ok
    · cases ok
    rename_i settled
    cases ok
    exact .inr ⟨_,role,rfl,settled⟩
  rename_i role
  cases ok
  exact .inl ⟨role,rfl⟩

namespace LinkMove

variable {s : Session} {handle : UInt32} {input : SessionInput}

variable {link before : Link}

lemma of_receiver (move : LinkMove s handle input (.receiver r) link) :
    ∃ after, link = .receiver after ∧ after.handle = r.handle ∧ after.events = r.events := by
  cases move with
  | onward moves =>
    cases moves with
    | same => exact ⟨_,rfl,rfl,rfl⟩
  | dispose disposed =>
    obtain ⟨_,rfl⟩ := dispose_receiver disposed
    exact ⟨_,rfl,rfl,rfl⟩
  | settle | grant | set => exact ⟨_,rfl,rfl,rfl⟩
  | bind =>
    refine ⟨_,rfl,?_⟩
    simp only [boundTo,Session.bindReceiver]
    split <;> exact ⟨rfl,rfl⟩
  | receive routed received =>
    obtain ⟨handle,events,-⟩ := receive_cases received
    exact ⟨_,rfl,handle,events⟩

lemma of_sender (move : LinkMove s handle input (.sender l) link) :
    ∃ after, link = .sender after ∧ (Relation.ReflTransGen SenderMove l after ∨
      ∃ policy order channel d payload output, input = .frame policy order ⟨channel,.disposition d,payload⟩ ∧
        d.role = .receiver ∧ l.settleSent d.first (d.last.getD d.first) d.state d.settled = .ok (after,output)) := by
  cases move with
  | onward moves =>
    cases moves with
    | sends moves => exact ⟨_,rfl,.inl moves⟩
  | dispose disposed =>
    rcases dispose_sender disposed with ⟨-,rfl⟩ | ⟨after,role,rfl,settled⟩
    · exact ⟨l,rfl,.inl .refl⟩
    · exact ⟨after,rfl,.inr ⟨_,_,_,_,_,_,rfl,role,settled⟩⟩

lemma receiver {after : ReceiverLink} (move : LinkMove s handle input before (.receiver after)) :
    ∃ r, before = .receiver r ∧ after.handle = r.handle ∧ after.events = r.events := by
  cases before with
  | sender =>
    obtain ⟨_,absurd,-⟩ := of_sender move
    cases absurd
  | receiver r =>
    obtain ⟨_,same,own,events⟩ := of_receiver move
    cases same
    exact ⟨r,rfl,own,events⟩

lemma events (move : LinkMove s handle input before after) : after.events = before.events := by
  cases before with
  | receiver =>
    obtain ⟨_,rfl,-,same⟩ := of_receiver move
    exact same
  | sender l =>
    obtain ⟨_,rfl,moves | ⟨_,_,_,_,_,_,-,-,settled⟩⟩ := of_sender move
    · induction moves with
      | refl => rfl
      | tail _ last ih => exact last.events.trans (ih (.onward (.sends ‹_›)))
    unfold settleSent at settled
    split at settled
    · cases settled
      rfl
    split at settled
    · cases settled
    · cases settled
      rfl

lemma credit {after : ReceiverLink} (move : LinkMove s handle input (.receiver r) (.receiver after)) :
    (after.credit = r.credit ∧ after.remoteHandle = r.remoteHandle) ∨
    (r.remoteHandle = none ∧ ∃ attach, after = r.boundTo attach s.windows) ∨
    (∃ credit, input = .op (.grant handle credit)) ∨ (∃ flow, input = .op (.flow flow) ∧ flow.handle = some handle) ∨
    ∃ policy order channel t payload, input = .frame policy order ⟨channel,.transfer t,payload⟩ := by
  cases move with
  | onward moves =>
    cases moves with
    | same => exact .inl ⟨rfl,rfl⟩
  | dispose disposed =>
    obtain ⟨_,same⟩ := dispose_receiver disposed
    cases same
    exact .inl ⟨rfl,rfl⟩
  | settle => exact .inl ⟨rfl,rfl⟩
  | bind unbound => exact .inr (.inl ⟨unbound,_,rfl⟩)
  | grant => exact .inr (.inr (.inl ⟨_,rfl⟩))
  | set named => exact .inr (.inr (.inr (.inl ⟨_,rfl,named⟩)))
  | receive => exact .inr (.inr (.inr (.inr ⟨_,_,_,_,_,rfl⟩)))

end LinkMove

inductive Link.Fresh (handle : UInt32) : Link → Prop where
  | sender {l : SenderLink} (own : l.handle = handle) (unsettled : l.unsettled = ∅) (pending : l.pending = ∅)
      (outbox : l.outbox = []) (credit : ∃ mode, l.credit = .new 0 mode) : Fresh handle (.sender l)
  | receiver {r : ReceiverLink} (own : r.handle = handle) (unsettled : r.unsettled = ∅) (assembling : r.assembling = none)
      (idle : r.remoteHandle = none → r.credit.linkCredit = 0) : Fresh handle (.receiver r)

namespace Session

variable {s next : Session} {handle : UInt32} {maxFrameSize : Nat} {effects : List Effect}

variable {middle : Session} {before : Link} {policy : AttachPolicy}

variable {t : Transfer} {payload : Option Bytes}

variable {result : Session × List Effect}

variable {input : SessionInput}

structure Moved (s : Session) (input : SessionInput) (next : Session) : Prop where
  origin : ∀ (handle : UInt32) (after : Link), next.links[handle]? = some after →
    (∃ before, s.links[handle]? = some before ∧ LinkMove s handle input before after) ∨
    (∃ handles, s.handles.allocate = some (handle,handles)) ∧ after.Fresh handle ∧ input.channel = some after.events

structure Onward (s next : Session) : Prop where
  origin : ∀ (handle : UInt32) (after : Link), next.links[handle]? = some after →
    ∃ before, s.links[handle]? = some before ∧ before.Onward after

lemma Onward.keep (links : next.links = s.links) : s.Onward next :=
  ⟨fun _ link there => ⟨link,links ▸ there,.refl link⟩⟩

lemma Onward.refl (s : Session) : s.Onward s := .keep rfl

lemma Onward.trans (first : s.Onward middle) (second : middle.Onward next) : s.Onward next := by
  refine ⟨fun handle after there => ?_⟩
  obtain ⟨between,here,late⟩ := second.origin handle after there
  obtain ⟨before,present,early⟩ := first.origin handle between here
  exact ⟨before,present,early.trans late⟩

lemma Onward.moved (onward : s.Onward next) : s.Moved input next := by
  refine ⟨fun handle after there => ?_⟩
  obtain ⟨before,present,moves⟩ := onward.origin handle after there
  exact .inl ⟨before,present,.onward moves⟩

lemma Onward.put (present : s.links[handle]? = some before) (moves : before.Onward after)
    (links : next.links = s.links.insert handle after) : s.Onward next := by
  refine ⟨fun other link there => ?_⟩
  rw [links] at there
  rcases of_insert there with ⟨rfl,rfl⟩ | ⟨-,there⟩
  · exact ⟨before,present,moves⟩
  · exact ⟨link,there,.refl link⟩

lemma Onward.erase (links : next.links = s.links.erase handle) : s.Onward next := by
  refine ⟨fun other link there => ?_⟩
  rw [links] at there
  exact ⟨link,(of_erase there).2,.refl link⟩

lemma Moved.put (present : s.links[handle]? = some before)
    (move : LinkMove s handle input before after) (links : next.links = s.links.insert handle after) :
    s.Moved input next := by
  refine ⟨fun other link there => ?_⟩
  rw [links] at there
  rcases of_insert there with ⟨rfl,rfl⟩ | ⟨-,there⟩
  · exact .inl ⟨before,present,move⟩
  · exact .inl ⟨link,there,.onward (.refl link)⟩

lemma Moved.add {handles : HandleAllocator} {link : Link}
    (allocated : s.handles.allocate = some (handle,handles)) (fresh : link.Fresh handle)
    (channel : input.channel = some link.events) (links : next.links = s.links.insert handle link) :
    s.Moved input next := by
  refine ⟨fun other after there => ?_⟩
  rw [links] at there
  rcases of_insert there with ⟨rfl,rfl⟩ | ⟨-,there⟩
  · exact .inr ⟨⟨handles,allocated⟩,fresh,channel⟩
  · exact .inl ⟨after,there,.onward (.refl after)⟩

lemma Moved.onward (moved : s.Moved input middle)
    (kept : ∀ (handle : UInt32) (link : Link), next.links[handle]? = some link → middle.links[handle]? = some link) :
    s.Moved input next := ⟨fun handle after there => moved.origin handle after (kept handle after there)⟩

section Flush

variable (channel : UInt16) (handle : UInt32) (maxPayload : Nat)

lemma flushOutbox_moves (outbox : List PendingSend) (l : SenderLink) (w : SessionWindows) :
    Relation.ReflTransGen SenderMove {l with outbox} (flushOutbox channel handle maxPayload outbox l w).1 := by
  induction outbox generalizing l w with
  | nil => exact .refl
  | cons front rest ih =>
    unfold flushOutbox
    split
    next ready =>
      rw [Bool.and_eq_true] at ready
      split
      · exact .refl
      split
      · exact .refl
      refine .head ?_ (ih _ _)
      have sent := SenderMove.send (l := {l with outbox := front::rest}) front rest w.nextOutgoingId rfl ready.1 ready.2
      have same : ({(({l with outbox := front::rest} : SenderLink).recordSend w.nextOutgoingId front).1 with
          outbox := rest} : SenderLink) = {(l.recordSend w.nextOutgoingId front).1 with outbox := rest} := by
        unfold recordSend
        split <;> rfl
      rw [same] at sent
      exact sent
    · exact .refl

end Flush

variable (s)

lemma flushSender_onward (handle : UInt32) (maxFrameSize : Nat) :
    s.Onward (s.flushSender handle maxFrameSize).1 := by
  unfold flushSender
  split
  next l present =>
    have sent := flushOutbox_moves s.localChannel handle (maxPayloadPerFrame maxFrameSize) l.outbox l s.windows
    refine .put present (.sends (sent.trans ?_)) rfl
    simp only [completeDrain]
    split
    · exact .single .drained
    · exact .refl
  · exact .refl s

lemma flushAll_onward (maxFrameSize : Nat) (handles : List UInt32) (s : Session) :
    s.Onward (flushAll maxFrameSize handles s).1 := by
  induction handles generalizing s with
  | nil => exact .refl s
  | cons handle rest ih => exact (flushSender_onward s handle maxFrameSize).trans (ih _)

lemma sendTransfer_onward (message : PendingSend) : s.Onward (s.sendTransfer handle message maxFrameSize).1 := by
  unfold sendTransfer
  split
  next present =>
    exact Onward.trans (.put present (.sends (.single (.queue message))) rfl) (flushSender_onward ..)
  · exact .refl s

lemma onFlow_onward : s.Onward (s.onFlow order flow maxFrameSize).1 := by
  have credited : s.Onward (({s with windows := s.windows.onPeerFlow flow} : Session).applyLinkFlow flow).1 := by
    unfold applyLinkFlow
    split
    · exact .keep rfl
    split
    next present =>
      exact .put present (.sends (.single (.credit ..))) rfl
    · exact .keep rfl
  exact credited.trans (flushAll_onward ..)

lemma forgetLink_onward (remote : Option UInt32) :
    s.Onward ((s.unbind remote).forgetLink handle).1 := .erase (by rw [forgetLink_links,unbind_links])

lemma detachLink_onward (closed : Bool) (error : Option AmqpError) :
    s.Onward (s.detachLink handle closed error reply).1 := by
  unfold detachLink
  split
  · exact forgetLink_onward ..
  · exact .refl s

lemma onPeerDetach_onward : s.Onward (s.onPeerDetach detach).1 := by
  unfold onPeerDetach
  split
  · exact .refl s
  · exact forgetLink_onward ..

lemma attachLink_moved (attach : Attach) (creditMode : CreditMode) (events : ChannelRef) (reply : Reply) :
    s.Moved (.op (.attach attach creditMode events reply)) (s.attachLink attach creditMode events reply).1 := by
  unfold attachLink
  split
  · exact (Onward.refl s).moved
  rename_i allocated
  refine .add allocated ?_ ?_ rfl
  · split
    · exact .sender rfl rfl rfl rfl ⟨creditMode,rfl⟩
    · exact .receiver rfl rfl rfl fun _ => rfl
  · split <;> rfl

variable {s} {op : LocalOp}

lemma act_moved (ok : s.act maxFrameSize op = .ok result) : s.Moved (.op op) result.1 := by
  cases op with
  | attach =>
    cases ok
    exact attachLink_moved ..
  | send =>
    cases ok
    exact (sendTransfer_onward ..).moved
  | settle =>
    simp only [act,sendDisposition] at ok
    split at ok
    next present =>
      split at ok
      · cases ok
        exact (Onward.refl _).moved
      split at ok
      · cases ok
      · cases ok
        exact .put present (.settle _) rfl
    · cases ok
      exact (Onward.refl _).moved
  | grant =>
    cases ok
    unfold grantCredit
    split
    next present =>
      exact .put present .grant rfl
    · exact (Onward.refl _).moved
  | flow =>
    cases ok
    unfold sendFlow
    split
    next named amount =>
      split
      next present =>
        exact .put present (.set named amount) rfl
      · exact (Onward.refl s).moved
    · exact (Onward.refl s).moved
  | detach =>
    cases ok
    exact (detachLink_onward ..).moved

lemma onPeerAttach_moved (s : Session) (policy : AttachPolicy) (order : IterOrder) (channel : UInt16)
    (attach : Attach) (payload : Option Bytes) :
    s.Moved (.frame policy order ⟨channel,.attach attach,payload⟩) (s.onPeerAttach attach).1 := by
  unfold onPeerAttach
  split
  · exact (Onward.refl s).moved
  split
  · exact (Onward.refl s).moved
  rename_i link present
  split
  · exact (Onward.refl s).moved
  rename_i unbound
  cases link with
  | sender => exact .put present (.onward (.sends (.single (.bind attach.handle)))) rfl
  | receiver => exact .put present (.bind (by simpa [Link.remoteHandle] using unbound)) rfl

lemma mirrorLink_fresh (handle : UInt32) (attach : Attach) (creditMode : CreditMode) (initialCredit : UInt32)
    (maxMessageSize : Option UInt64) (events : ChannelRef) (windows : SessionWindows) :
    ((mirrorLink handle attach creditMode initialCredit maxMessageSize events windows).1.setRemoteHandle
      attach.handle).markAttached.Fresh handle := by
  unfold mirrorLink
  split
  · split
    · exact .receiver rfl rfl rfl (by simp)
    · exact .receiver rfl rfl rfl (by simp)
  · exact .sender rfl rfl rfl rfl ⟨creditMode,rfl⟩

lemma inboundAttach_moved (order : IterOrder) (channel : UInt16) {attach : Attach} (payload : Option Bytes)
    (ok : s.inboundAttach attach policy = .ok result) :
    s.Moved (.frame policy order ⟨channel,.attach attach,payload⟩) result.1 := by
  rcases inboundAttach_cases ok with
    rfl | ⟨creditMode,initialCredit,maxMessageSize,events,accepted,rfl,taken⟩ | ⟨error,-,rfl⟩
  · exact onPeerAttach_moved ..
  · obtain ⟨-,_,_,allocated,-,rfl⟩ := acceptPeerAttach_ok taken
    refine .add allocated (mirrorLink_fresh ..) ?_ rfl
    simp only [SessionInput.channel,mirrorLink]
    split
    · split <;> rfl
    · rfl
  · have kept : s.Onward (s.refusePeerAttach attach error).1 := .keep rfl
    exact kept.moved

@[simp] lemma replenish_links : (s.replenish needSessionFlow).1.links = s.links := by
  unfold replenish
  split <;> rfl

@[simp] lemma offered_replenish : offered (s.replenish needSessionFlow).2 = [] := by
  unfold replenish
  split <;> rfl

@[simp] lemma offered_dropped (replies : List Reply) : offered (replies.map .dropped) = [] := by
  induction replies with
  | nil => rfl
  | cons reply rest ih => exact ih

@[simp] lemma offered_forgetLink : offered (s.forgetLink handle).2 = [] := by
  unfold forgetLink
  split
  · exact offered_dropped _
  · rfl

@[simp] lemma offered_events (channel : ChannelRef) :
    offered (event.toList.map (.event channel)) = event.toList.map (channel,·) := by
  cases event <;> rfl

def tooLarge : AmqpError := ⟨.messageSizeExceeded,some "assembled message exceeds max-message-size"⟩

def OnlyFlows (frames : List Frame) : Prop :=
  ∀ frame ∈ frames, ∃ channel w, frame = ⟨channel,.flow (SessionWindows.buildFlow w),none⟩

inductive Transferred (s : Session) (t : Transfer) (payload : Option Bytes) (next : Session) (effects : List Effect) :
    Prop where
  | ignored (missed : ∀ (handle : UInt32) (r : ReceiverLink), s.remoteHandles t.handle = some handle →
        s.links[handle]? ≠ some (.receiver r))
      (links : next.links = s.links) (silent : offered effects = []) (frames : OnlyFlows (queued effects))
  | taken (handle : UInt32) (r after : ReceiverLink) (event : Option LinkEvent)
      (routed : s.remoteHandles t.handle = some handle) (present : s.links[handle]? = some (.receiver r))
      (received : r.receive t payload = .ok (after,event,false))
      (links : next.links = s.links.insert handle (.receiver after))
      (emitted : offered effects = event.toList.map (r.events,·)) (frames : OnlyFlows (queued effects))
      (routes : next.remoteHandles = s.remoteHandles)
  | refused (handle : UInt32) (r : ReceiverLink) (error : Option AmqpError)
      (routed : s.remoteHandles t.handle = some handle) (present : s.links[handle]? = some (.receiver r))
      (links : ∀ other : UInt32, next.links[other]? = if handle = other then none else s.links[other]?)
      (emitted : offered effects = [(r.events,.detached handle error)])
      (exceeded : ∃ after event, r.receive t payload = .ok (after,event,true))
      (frames : ∃ channel flows, OnlyFlows flows ∧
        queued effects = flows ++ [⟨channel,.detach ⟨handle,true,some tooLarge⟩,none⟩])
      (routes : ∀ remote, r.remoteHandle = some remote → next.remoteHandles remote = none)

@[simp] lemma replenish_remoteHandles : (s.replenish needSessionFlow).1.remoteHandles = s.remoteHandles := by
  unfold replenish
  split <;> rfl

lemma queued_replenish : OnlyFlows (queued (s.replenish needSessionFlow).2) := by
  unfold replenish
  split
  · exact forall_mem_singleton.mpr ⟨_,_,rfl⟩
  · exact forall_mem_nil _

lemma receive_exceeded {after : ReceiverLink}
    (received : r.receive t payload = .ok (after,event,true)) : event = none := by
  unfold receive at received
  dsimp only at received
  split_ifs at received
  all_goals cases received
  rfl

lemma onTransfer_transferred (ok : s.onTransfer t payload = .ok result) :
    s.Transferred t payload result.1 result.2 := by
  unfold onTransfer at ok
  split at ok
  next unrouted =>
    cases ok
    exact .ignored (by simp [unrouted]) rfl rfl (forall_mem_nil _)
  rename_i handle routed
  dsimp only at ok
  split at ok
  · cases ok
  rename_i counted emit sizeExceeded assembled
  cases ok
  unfold assemble at assembled
  split at assembled
  next r present =>
    split at assembled
    · cases assembled
    rename_i received
    rename_i after event _
    cases assembled
    cases sizeExceeded with
    | false =>
      refine .taken handle r after event routed present received ?_ ?_ ?_ ?_
      · simp [refuseOversized]
      · simp [refuseOversized]
      · cases event <;> simpa [refuseOversized] using queued_replenish
      · simp [refuseOversized]
    | true =>
      cases receive_exceeded received
      have left := receive_card received
      refine .refused handle r (some tooLarge) routed present (fun other => ?_) ?_ ⟨_,_,received⟩ ?_
        fun remote bound => ?_
      · simp only [refuseOversized,if_true,detachWithError,forgetLink_links,unbind_links,replenish_links]
        rw [Entries.getElem?_erase,Entries.getElem?_insert]
        split
        · rfl
        · rfl
      · simp only [refuseOversized,if_true,detachWithError,replenish_links,Entries.getElem?_insert,offered_append,
          offered_replenish,offered_events,offered_queue,offered_forgetLink]
        have same : after.events = r.events := congrArg LinkCard.events left
        simp [offered,Link.events,same,tooLarge]
      · simp only [refuseOversized,if_true,detachWithError,replenish_links,Entries.getElem?_insert,queued_append,
          queued_queue,queued_forgetLink,Option.toList_none,map_nil,append_nil]
        exact ⟨_,_,queued_replenish,rfl⟩
      · have same : after.remoteHandle = some remote := (congrArg LinkCard.remoteHandle left).trans bound
        simp [refuseOversized,detachWithError,Link.remoteHandle,same,unbind]
  next other =>
    cases assembled
    refine .ignored (fun found r here present => ?_) ?_ ?_ ?_
    · cases routed.symm.trans here
      exact other r present
    · simp [refuseOversized]
    · simp [refuseOversized]
    · simpa [refuseOversized] using queued_replenish

lemma Transferred.moved (transferred : s.Transferred t payload next effects)
    : s.Moved (.frame policy order ⟨channel,.transfer t,payload⟩) next := by
  cases transferred with
  | ignored missed links => exact (Onward.keep links).moved
  | taken handle r after event routed present received links => exact .put present (.receive routed received) links
  | refused handle r error routed present links =>
    refine ((Onward.refl s).moved).onward fun other link there => ?_
    rw [links] at there
    split at there
    · cases there
    · exact there

lemma onDisposition_moved (ok : s.onDisposition d = .ok result) :
    s.Moved (.frame policy order ⟨channel,.disposition d,payload⟩) result.1 := by
  obtain ⟨-,absent,links,-⟩ := onDisposition_ok ok
  refine ⟨fun handle after there => .inl ?_⟩
  cases present : s.links[handle]? with
  | none =>
    rw [absent handle present] at there
    cases there
  | some link =>
    obtain ⟨_,_,done,found⟩ := links handle link present
    cases found.symm.trans there
    exact ⟨link,rfl,.dispose done⟩

lemma inbound_moved {frame : Frame}
    (ok : s.inbound policy order maxFrameSize frame = .ok result) : s.Moved (.frame policy order frame) result.1 := by
  obtain ⟨channel,performative,payload⟩ := frame
  cases performative with
  | attach => exact inboundAttach_moved order channel payload ok
  | transfer => exact (onTransfer_transferred ok).moved
  | disposition => exact onDisposition_moved ok
  | flow =>
    cases ok
    exact (onFlow_onward ..).moved
  | detach =>
    cases ok
    exact (onPeerDetach_onward ..).moved
  | open_ | begin_ | end_ | close =>
    cases ok
    exact (Onward.refl s).moved

lemma react_moved (ok : s.react maxFrameSize input = .ok result) : s.Moved input result.1 := by
  cases input with
  | op => exact act_moved ok
  | frame => exact inbound_moved ok

def Labelled (s : Session) : Prop := ∀ (handle : UInt32) (r : ReceiverLink), s.links[handle]? = some (.receiver r) → r.handle = handle

lemma react_labelled (labelled : s.Labelled) (ok : s.react maxFrameSize input = .ok result) : result.1.Labelled := by
  intro handle r there
  rcases (react_moved ok).origin handle _ there with ⟨before,present,move⟩ | ⟨-,fresh,-⟩
  · obtain ⟨old,rfl,same,-⟩ := LinkMove.receiver move
    rw [same]
    exact labelled handle old present
  · cases fresh with
    | receiver own => exact own

variable {outbox : List PendingSend} {w : SessionWindows}

section Offered

variable {d : Disposition}

@[simp] lemma offered_frames (frames : List Frame) : offered (frames.map .queue) = [] := by
  induction frames with
  | nil => rfl
  | cons frame rest ih => exact ih

lemma offered_flushOutbox (maxPayload : Nat)
    : offered (flushOutbox channel handle maxPayload outbox l w).2.2 = [] := by
  induction outbox generalizing l w with
  | nil => rfl
  | cons front rest ih =>
    have replied : offered (l.recordSend w.nextOutgoingId front).2 = [] := by
      unfold recordSend
      split
      · split <;> rfl
      · rfl
    unfold flushOutbox
    split
    · split
      · rfl
      · split
        · rfl
        · simp [replied,ih]
    · rfl

lemma offered_flushSender : offered (s.flushSender handle maxFrameSize).2 = [] := by
  unfold flushSender
  split
  next l present =>
    rw [offered_append,offered_flushOutbox,nil_append]
    unfold completeDrain
    split <;> rfl
  · rfl

lemma offered_flushAll (maxFrameSize : Nat) (handles : List UInt32) (s : Session) :
    offered (flushAll maxFrameSize handles s).2 = [] := by
  induction handles generalizing s with
  | nil => rfl
  | cons handle rest ih =>
    unfold flushAll
    rw [offered_append,offered_flushSender,ih,append_nil]

lemma offered_act (ok : s.act maxFrameSize op = .ok result) : offered result.2 = [] := by
  cases op with
  | attach =>
    cases ok
    unfold attachLink
    split <;> rfl
  | send =>
    cases ok
    unfold sendTransfer
    split
    · exact offered_flushSender
    · split <;> rfl
  | settle =>
    simp only [act,sendDisposition] at ok
    split at ok
    · split at ok
      · cases ok
        rfl
      · split at ok
        · cases ok
        · cases ok
          rfl
    · cases ok
      rfl
  | grant =>
    cases ok
    unfold grantCredit
    split <;> rfl
  | flow =>
    cases ok
    rfl
  | detach =>
    cases ok
    unfold detachLink
    split
    · rw [offered_queue,offered_append,offered_forgetLink]
      rfl
    · rfl

lemma offered_onPeerAttach (s : Session) (attach : Attach) : offered (s.onPeerAttach attach).2 = [] := by
  unfold onPeerAttach
  split
  · rfl
  split
  · rfl
  split
  · rfl
  rw [offered_append]
  rename_i link _ _
  cases link.pendingAttach <;> cases (bindLink link attach s.windows).2 <;> rfl

lemma offered_inboundAttach {attach : Attach}
    (ok : s.inboundAttach attach policy = .ok result) : offered result.2 = [] := by
  rcases inboundAttach_cases ok with
    rfl | ⟨creditMode,initialCredit,maxMessageSize,events,accepted,-,ok⟩ | ⟨error,-,rfl⟩
  · exact offered_onPeerAttach ..
  · obtain ⟨-,handle,_,-,-,rfl⟩ := acceptPeerAttach_ok ok
    cases (mirrorLink handle attach creditMode initialCredit maxMessageSize events s.windows).2 <;> rfl
  · rfl

inductive Offers (s : Session) (input : SessionInput) (next : Session) (effects : List Effect) : Prop where
  | senders (all : ∀ entry ∈ offered effects, (∀ d, entry.2 ≠ .delivery d) ∧
      ∃ (handle : UInt32) (l : SenderLink), s.links[handle]? = some (.sender l) ∧ l.events = entry.1)
  | taken (policy : AttachPolicy) (order : IterOrder) (channel : UInt16) (t : Transfer) (payload : Option Bytes)
      (frame : input = .frame policy order ⟨channel,.transfer t,payload⟩)
      (handle : UInt32) (r after : ReceiverLink) (event : Option LinkEvent)
      (routed : s.remoteHandles t.handle = some handle) (present : s.links[handle]? = some (.receiver r))
      (received : r.receive t payload = .ok (after,event,false))
      (links : next.links = s.links.insert handle (.receiver after))
      (emitted : offered effects = event.toList.map (r.events,·))
  | leaves (handle : UInt32) (link : Link) (error : Option AmqpError) (present : s.links[handle]? = some link)
      (gone : next.links[handle]? = none) (emitted : offered effects = [(link.events,.detached handle error)])

lemma Offers.silent (none_ : offered effects = []) : s.Offers input next effects :=
  .senders fun entry member => by
    rw [none_] at member
    cases member

lemma onFlow_offers : s.Offers input (s.onFlow order flow maxFrameSize).1 (s.onFlow order flow maxFrameSize).2 := by
  have rest : offered (s.onFlow order flow maxFrameSize).2 =
      offered (({s with windows := s.windows.onPeerFlow flow} : Session).applyLinkFlow flow).2 := by
    simp only [onFlow,offered_append,offered_flushAll,append_nil]
    split <;> simp
  refine .senders ?_
  rw [rest]
  unfold applyLinkFlow
  split
  · exact forall_mem_nil _
  rename_i handle found
  split
  next l present =>
    intro entry member
    cases mem_singleton.mp member
    exact ⟨by simp,handle,l,present,rfl⟩
  · exact forall_mem_nil _

lemma onPeerDetach_offers : s.Offers input (s.onPeerDetach detach).1 (s.onPeerDetach detach).2 := by
  unfold onPeerDetach
  split
  · exact .silent rfl
  rename_i handle found
  cases present : s.links[handle]? with
  | none =>
    refine .silent ?_
    simp
  | some link =>
    refine .leaves handle link detach.error present ?_ ?_
    · simp
    · simp only [offered_append,offered_queue,offered_forgetLink]
      rfl

lemma onDisposition_offers (ok : s.onDisposition d = .ok result) : s.Offers input result.1 result.2 := by
  unfold onDisposition at ok
  split at ok
  · cases ok
  rename_i swept
  cases ok
  obtain ⟨total,-,collected⟩ := Sweep.sweep_ok swept
  refine .senders fun entry member => ?_
  rw [collected,offered,filterMap_flatMap] at member
  obtain ⟨visited,listed,member⟩ := mem_flatMap.mp member
  rw [ExtTreeMap.mem_toList_iff_getElem?_eq_some] at listed
  obtain ⟨_,_,disposed⟩ := total visited.1 visited.2 listed
  simp only [Sweep.outputOf,disposed] at member
  obtain ⟨effect,emitted,offer⟩ := mem_filterMap.mp member
  obtain ⟨other,l,sender,own⟩ := (dispose_effects disposed effect emitted).2 entry.1 entry.2 (by grind)
  rw [sender] at listed
  exact ⟨other,visited.1,l,listed,own.symm⟩

lemma react_offers (ok : s.react maxFrameSize input = .ok result) : s.Offers input result.1 result.2 := by
  cases input with
  | op => exact .silent (offered_act ok)
  | frame policy order frame =>
    obtain ⟨channel,performative,payload⟩ := frame
    cases performative with
    | transfer t =>
      cases onTransfer_transferred ok with
      | ignored missed links silent => exact .silent silent
      | taken handle r after event routed present received links emitted =>
        exact .taken policy order channel t payload rfl handle r after event routed present received links emitted
      | refused handle r error routed present links emitted =>
        refine .leaves handle (.receiver r) error present ?_ emitted
        rw [links,if_pos rfl]
    | attach => exact .silent (offered_inboundAttach ok)
    | disposition => exact onDisposition_offers ok
    | flow =>
      cases ok
      exact onFlow_offers
    | detach =>
      cases ok
      exact onPeerDetach_offers
    | open_ | begin_ | end_ | close =>
      cases ok
      exact .silent rfl

end Offered

end Session

end Ramqp
