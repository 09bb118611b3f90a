import Ramqp.Library.Window
import Ramqp.Registry
import Ramqp.Semantics.Pair

/-! The session windows as an instance of the window protocol: every operation of a session
emits what the protocol allows, so the two ends of a session agree on their counts. -/
namespace Ramqp

open Window List Transition SessionWindows

def SessionWindows.peer (w : SessionWindows) : Peer :=
  ⟨w.nextOutgoingId,w.remoteIncomingWindow,w.nextIncomingId,w.incomingWindow,w.initialIncomingWindow⟩

def Frame.item (frame : Frame) : Item :=
  match frame.performative with
  | .transfer _ => .data
  | .flow flow => .note flow.nextOutgoingId (flow.nextIncomingId.getD 0 + flow.incomingWindow)
  | _ => .other

structure Traced (w : SessionWindows) (frames : List Frame) (next : SessionWindows) : Prop where
  ready : next.initialized = w.initialized
  emits : w.initialized = true → Emits w.peer (frames.map Frame.item) next.peer

variable {w next : SessionWindows} {frame : Frame}

namespace Traced

lemma refl (w : SessionWindows) : Traced w [] w := ⟨rfl,fun _ => .done _⟩

lemma trans {middle : SessionWindows} {first second : List Frame} (left : Traced w first middle)
    (right : Traced middle second next) : Traced w (first ++ second) next := by
  refine ⟨right.ready.trans left.ready,?_⟩
  intro ready
  rw [map_append]
  exact (left.emits ready).trans (right.emits (left.ready.trans ready))

lemma transfer (body : Transfer) : Traced w [⟨channel,.transfer body,payload⟩] w.recordOutgoing :=
  ⟨rfl,fun _ => .data (.done _)⟩

lemma flow (channel : UInt16) (flow : Flow) (payload : Option Bytes)
    (received : flow.nextIncomingId = w.buildFlow.nextIncomingId) (window : flow.incomingWindow = w.incomingWindow)
    (sent : flow.nextOutgoingId = w.nextOutgoingId) : Traced w [⟨channel,.flow flow,payload⟩] w := by
  refine ⟨rfl,?_⟩
  intro ready
  have limit : flow.nextIncomingId.getD 0 + flow.incomingWindow = w.peer.limit := by
    rw [received,window]
    simp [buildFlow,ready,Peer.limit,peer]
  simp only [map_cons,map_nil,Frame.item]
  rw [limit,sent]
  exact .note (.done _)

lemma other (plain : frame.item = .other) : Traced w [frame] w := by
  refine ⟨rfl,fun _ => ?_⟩
  rw [map_singleton,plain]
  exact .other (.done _)

end Traced

lemma linkFlow_traced (channel : UInt16) (credit : LinkCredit) :
    Traced w [⟨channel,.flow (linkFlow handle credit w),none⟩] w :=
  .flow channel _ none rfl rfl rfl

variable (channel : UInt16)

lemma sendChunks_traced (first rest : Transfer) (body : Bytes) (maxPayload fuel : Nat)
    (offset : Nat) (firstFrame : Bool) (w : SessionWindows) :
    Traced w (sendChunks channel first rest body maxPayload fuel offset firstFrame w).2
      (sendChunks channel first rest body maxPayload fuel offset firstFrame w).1 := by
  induction fuel generalizing offset firstFrame w with
  | zero => exact .refl w
  | succ fuel ih =>
    unfold sendChunks
    split
    · exact (Traced.transfer _).trans (ih _ _ _)
    · exact .refl w

lemma sendMessageFrames_traced (tag : Bytes) :
    Traced w (sendMessageFrames channel handle deliveryId tag message maxPayload w).2
      (sendMessageFrames channel handle deliveryId tag message maxPayload w).1 := by
  unfold sendMessageFrames
  simp only
  split
  · exact .transfer _
  · exact sendChunks_traced ..

@[simp] lemma queued_recordSend (s : SenderLink) : queued (s.recordSend deliveryId message).2 = [] := by
  unfold SenderLink.recordSend
  simp only
  split
  · cases message.reply <;> rfl
  · rfl

lemma flushOutbox_traced (outbox : List PendingSend) :
    Traced w (queued (flushOutbox channel handle maxPayload outbox sender w).2.2)
      (flushOutbox channel handle maxPayload outbox sender w).2.1 := by
  induction outbox generalizing sender w with
  | nil => exact .refl w
  | cons front rest ih =>
    unfold flushOutbox
    split
    · split
      · exact .refl w
      · split
        · exact .refl w
        · simp only [queued_append,queued_map_queue,queued_recordSend,append_nil]
          exact (sendMessageFrames_traced ..).trans ih
    · exact .refl w

lemma completeDrain_traced : Traced w (queued (completeDrain channel handle sender w).2) w := by
  unfold completeDrain
  split
  · exact linkFlow_traced ..
  · exact .refl w

variable {op : LocalOp}

namespace Session

variable {s : Session} {result : Session × List Effect}

variable {policy : AttachPolicy} {payload : Option Bytes} {order : IterOrder}

variable {handle : UInt32} {maxFrameSize : Nat} {attach : Attach} {w : SessionWindows}

def Traces (s : Session) (result : Session × List Effect) : Prop :=
  Traced s.windows (queued result.2) result.1.windows

lemma flushSender_traced (s : Session) (handle : UInt32) (maxFrameSize : Nat) :
    s.Traces (s.flushSender handle maxFrameSize) := by
  unfold flushSender
  split
  · simp only [Traces,queued_append]
    exact (flushOutbox_traced ..).trans (completeDrain_traced ..)
  · exact .refl _

lemma sendTransfer_traced : s.Traces (s.sendTransfer handle message maxFrameSize) := by
  unfold sendTransfer
  split
  · exact flushSender_traced {s with links := s.links.insert handle _} handle maxFrameSize
  · cases message.reply <;> exact .refl _

lemma flushAll_traced (maxFrameSize : Nat) (handles : List UInt32) (s : Session) :
    s.Traces (flushAll maxFrameSize handles s) := by
  induction handles generalizing s with
  | nil => exact .refl _
  | cons handle rest ih =>
    simp only [Traces,flushAll,queued_append]
    exact (flushSender_traced ..).trans (ih _)

lemma attachLink_traced (s : Session) (attach : Attach) (creditMode : CreditMode) (events : ChannelRef)
    (reply : Reply) : s.Traces (s.attachLink attach creditMode events reply) := by
  unfold attachLink
  split
  · exact .refl _
  · exact .other rfl

lemma sendDisposition_traced {first : UInt32} {last : Option UInt32} {state : DeliveryState} {settled : Bool}
    (ok : s.sendDisposition handle first last state settled = .ok result) : s.Traces result := by
  unfold sendDisposition at ok
  simp only at ok
  split at ok
  · split at ok
    · cases ok
      exact .other rfl
    · split at ok
      · cases ok
      · cases ok
        exact .other rfl
  · cases ok
    exact .other rfl

variable (s)

lemma grantCredit_traced (credit : UInt32) : s.Traces (s.grantCredit handle credit) := by
  unfold grantCredit
  split
  · exact linkFlow_traced ..
  · exact .refl _

lemma sendFlow_traced (flow : Flow) : s.Traces (s.sendFlow flow) :=
  .flow s.localChannel _ none rfl rfl rfl

@[simp] lemma unbind_windows (remote : Option UInt32) : (s.unbind remote).windows = s.windows := by
  cases remote <;> rfl

@[simp] lemma forgetLink_windows : (s.forgetLink handle).1.windows = s.windows := by
  unfold forgetLink
  split <;> rfl

lemma detachLink_traced (closed : Bool) (error : Option AmqpError) :
    s.Traces (s.detachLink handle closed error reply) := by
  unfold detachLink
  split
  · simp only [Traces,queued_queue,queued_append,queued_forgetLink,queued_done,queued_nil,append_nil,
      forgetLink_windows,unbind_windows]
    exact .other rfl
  · exact .refl _

variable {s}

lemma act_traced (ok : s.act maxFrameSize op = .ok result) : s.Traces result := by
  cases op with
  | attach =>
    cases ok
    exact attachLink_traced ..
  | send =>
    cases ok
    exact sendTransfer_traced
  | settle => exact sendDisposition_traced ok
  | grant =>
    cases ok
    exact grantCredit_traced ..
  | flow =>
    cases ok
    exact sendFlow_traced ..
  | detach =>
    cases ok
    exact detachLink_traced ..

variable {flow : Flow}

lemma bindLink_flow {link : Link} (granted : (bindLink link attach w).2 = some flow) :
    ∃ handle credit, flow = linkFlow handle credit w := by
  cases link with
  | sender => cases granted
  | receiver =>
    simp only [bindLink,Link.setRemoteHandle,Link.markAttached,bindReceiver] at granted
    split at granted
    · cases granted
      exact ⟨_,_,rfl⟩
    · cases granted

lemma mirrorLink_flow {creditMode : CreditMode} {initialCredit : UInt32} {maxMessageSize : Option UInt64}
    {events : ChannelRef}
    (granted : (mirrorLink handle attach creditMode initialCredit maxMessageSize events w).2 = some flow) :
    ∃ handle credit, flow = linkFlow handle credit w := by
  unfold mirrorLink at granted
  split at granted
  · simp only at granted
    split at granted
    · cases granted
      exact ⟨_,_,rfl⟩
    · cases granted
  · cases granted

lemma queueFlow_traced (channel : UInt16) (flow : Option Flow)
    (built : ∀ f, flow = some f → ∃ handle credit, f = linkFlow handle credit w) :
    Traced w (queued (queueFlow channel flow)) w := by
  cases flow with
  | none => exact .refl w
  | some f =>
    obtain ⟨_,_,rfl⟩ := built f rfl
    exact linkFlow_traced ..

@[simp] lemma queued_replyAttached (reply : Option Reply) : queued (replyAttached handle attach reply) = [] := by
  cases reply <;> rfl

lemma onPeerAttach_traced : s.Traces (s.onPeerAttach attach) := by
  unfold onPeerAttach
  split
  · exact .refl _
  split
  · exact .refl _
  split
  · exact .refl _
  · simp only [Traces,queued_append,queued_replyAttached,nil_append]
    exact queueFlow_traced _ _ fun _ granted => bindLink_flow granted

lemma inboundAttach_traced (ok : s.inboundAttach attach policy = .ok result) : s.Traces result := by
  rcases inboundAttach_cases ok with rfl | ⟨_,_,_,_,_,-,taken⟩ | ⟨_,-,rfl⟩
  · exact onPeerAttach_traced
  · obtain ⟨-,_,_,-,-,rfl⟩ := acceptPeerAttach_ok taken
    exact (Traced.other rfl).trans (queueFlow_traced _ _ (fun _ granted => mirrorLink_flow granted))
  · unfold refusePeerAttach
    cases s.handles.allocate with
    | none | some => exact (Traced.other rfl).trans (Traced.other rfl)

lemma detachWithError_traced (condition : ErrorCondition) (description : String) :
    s.Traces (s.detachWithError handle condition description) := by
  unfold detachWithError
  simp only [Traces,queued_queue,queued_append,queued_forgetLink,forgetLink_windows,unbind_windows]
  cases s.links[handle]? <;> exact .other rfl

lemma assemble_frame {next : Session} {emit : List Effect} {sizeExceeded : Bool}
    (ok : s.assemble handle transfer payload = .ok (next,emit,sizeExceeded)) :
    next.windows = s.windows ∧ queued emit = [] := by
  unfold assemble at ok
  split at ok
  · split at ok
    · cases ok
    next event _ _ =>
      cases ok
      refine ⟨rfl,?_⟩
      cases event <;> rfl
  · cases ok
    exact ⟨rfl,rfl⟩

lemma replenish_absorbs {counted : Session} {tail : List Frame}
    (ready : w.initialized = true) (windows : counted.windows = w.recordIncoming.1)
    (traced : Traced (counted.replenish w.recordIncoming.2).1.windows tail next) :
    Absorbs w.peer .data ((queued (counted.replenish w.recordIncoming.2).2 ++ tail).map Frame.item) next.peer ∧
    next.initialized = true := by
  cases spent : w.recordIncoming.2 with
  | true =>
    have zero : saturatingSub w.incomingWindow 1 = 0 := by simpa [recordIncoming] using spent
    simp only [spent,replenish,if_true,windows] at traced ⊢
    refine ⟨?_,traced.ready.trans ready⟩
    have noted := Traced.flow counted.localChannel
      w.recordIncoming.1.replenishIncoming.buildFlow none rfl rfl rfl
    have limit : (Frame.mk counted.localChannel (.flow w.recordIncoming.1.replenishIncoming.buildFlow) none).item =
        .note w.peer.count.reopen.sent w.peer.count.reopen.limit := by
      simp only [Frame.item,buildFlow,replenishIncoming,recordIncoming,ready,if_true]
      rfl
    simp only [queued_queue,queued_nil,cons_append,nil_append,map_cons,limit]
    exact .exhausted zero (traced.emits ready)
  | false =>
    have more : saturatingSub w.incomingWindow 1 ≠ 0 := by simpa [recordIncoming] using spent
    simp only [spent,replenish,Bool.false_eq_true,if_false,windows] at traced ⊢
    exact ⟨.data more (traced.emits ready),traced.ready.trans ready⟩

lemma onTransfer_absorbs (ready : s.windows.initialized = true)
    (bound : (s.remoteHandles transfer.handle).isSome) (ok : s.onTransfer transfer payload = .ok result) :
    Absorbs s.windows.peer .data ((queued result.2).map Frame.item) result.1.windows.peer ∧
    result.1.windows.initialized = true := by
  unfold onTransfer at ok
  obtain ⟨_,resolved⟩ := Option.isSome_iff_exists.mp bound
  simp only [resolved] at ok
  split at ok
  · cases ok
  rename_i assembled
  obtain ⟨windows,silent⟩ := assemble_frame assembled
  cases ok
  simp only [queued_append,silent,append_nil]
  apply replenish_absorbs ready windows
  unfold refuseOversized
  split
  · exact detachWithError_traced ..
  · exact .refl _

lemma applyLinkFlow_frame (s : Session) (flow : Flow) :
    (s.applyLinkFlow flow).1.windows = s.windows ∧ queued (s.applyLinkFlow flow).2 = [] := by
  unfold applyLinkFlow
  split
  · exact ⟨rfl,rfl⟩
  split
  · exact ⟨rfl,rfl⟩
  · exact ⟨rfl,rfl⟩

lemma echoFlow_traced (flow : Flow) : Traced s.windows [⟨s.localChannel,.flow (s.echoFlow flow),none⟩] s.windows := by
  unfold echoFlow
  split
  · exact .flow _ _ _ rfl rfl rfl
  split
  · exact .flow _ _ _ rfl rfl rfl
  · exact .flow _ _ _ rfl rfl rfl

lemma onFlow_absorbs (ready : s.windows.initialized = true) :
    Absorbs s.windows.peer (.note flow.nextOutgoingId (flow.nextIncomingId.getD 0 + flow.incomingWindow))
      ((queued (s.onFlow order flow maxFrameSize).2).map Frame.item) (s.onFlow order flow maxFrameSize).1.windows.peer ∧
    (s.onFlow order flow maxFrameSize).1.windows.initialized = true := by
  have learnt : (s.windows.onPeerFlow flow).peer =
      s.windows.peer.learn flow.nextOutgoingId (flow.nextIncomingId.getD 0 + flow.incomingWindow) := by
    cases received : flow.nextIncomingId <;>
      simp [onPeerFlow,peer,Peer.learn,received]
  have traced : Traced (s.windows.onPeerFlow flow) (queued (s.onFlow order flow maxFrameSize).2)
      (s.onFlow order flow maxFrameSize).1.windows := by
    unfold onFlow
    obtain ⟨windows,silent⟩ := applyLinkFlow_frame {s with windows := s.windows.onPeerFlow flow} flow
    simp only [queued_append,silent,nil_append]
    have flushed := flushAll_traced maxFrameSize
      (order.arrange ({s with windows := s.windows.onPeerFlow flow}.applyLinkFlow flow).1.stalled)
      ({s with windows := s.windows.onPeerFlow flow}.applyLinkFlow flow).1
    rw [Traces,windows] at flushed
    refine flushed.trans ?_
    split
    · exact echoFlow_traced ..
    · exact .refl _
  refine ⟨.note ?_,traced.ready.trans ready⟩
  rw [← learnt]
  exact traced.emits ready

lemma onDisposition_traced {d : Disposition} (ok : s.onDisposition d = .ok result) : s.Traces result := by
  obtain ⟨next,_⟩ := result
  have windows : next.windows = s.windows := by rw [(onDisposition_ok ok).1]
  simp only [Traces,queued_of_internal (onDisposition_internal ok),windows]
  exact .refl _

lemma onPeerDetach_traced (detach : Detach) : s.Traces (s.onPeerDetach detach) := by
  unfold onPeerDetach
  split
  · exact .refl _
  · simp only [Traces,queued_append,queued_queue,queued_forgetLink,forgetLink_windows,unbind_windows]
    split <;> exact .other rfl

lemma inbound_absorbs (ready : s.windows.initialized = true)
    (bound : ∀ t, frame.performative = .transfer t → (s.remoteHandles t.handle).isSome)
    (ok : s.inbound policy order maxFrameSize frame = .ok result) :
    Absorbs s.windows.peer frame.item ((queued result.2).map Frame.item) result.1.windows.peer ∧
    result.1.windows.initialized = true := by
  have plain : s.Traces result →
      Absorbs s.windows.peer .other ((queued result.2).map Frame.item) result.1.windows.peer ∧
      result.1.windows.initialized = true :=
    fun traced => ⟨.other (traced.emits ready),traced.ready.trans ready⟩
  obtain ⟨_,performative,_⟩ := frame
  cases performative with
  | attach => exact plain (inboundAttach_traced ok)
  | transfer transfer => exact onTransfer_absorbs ready (bound transfer rfl) ok
  | disposition => exact plain (onDisposition_traced ok)
  | flow =>
    cases ok
    exact onFlow_absorbs ready
  | detach =>
    cases ok
    exact plain (onPeerDetach_traced ..)
  | open_ | begin_ | end_ | close =>
    cases ok
    exact plain (.refl _)

end Session

namespace Pair

variable {pair : Pair} {side : Side}

def peer (pair : Pair) (side : Side) : Peer := (pair side).session.windows.peer

def items (pair : Pair) (side : Side) : List Item := (pair side).inbox.map Frame.item

structure InStep (pair : Pair) : Prop where
  ready : ∀ side, (pair side).session.windows.initialized = true
  synced : ∀ side, Synced (pair.peer side) (pair.peer side.other) (pair.items side.other) (pair.items side)

/-- The steps that take a transfer only for a link the session still has. -/
def transferBound (pair : Pair) : PairStep → Bool
  | .act _ _ => true
  | .deliver side _ _ => match (pair side).inbox with
    | ⟨_,.transfer transfer,_⟩::_ => ((pair side).session.remoteHandles transfer.handle).isSome
    | _ => true

variable {result : Session × List Effect}

lemma inStep_act (inStep : pair.InStep) (ok : (pair side).session.act (pair side).maxFrameSize op = .ok result) :
    (pair.moved side result.1 (pair side).inbox result.2).InStep := by
  have traced := Session.act_traced ok
  have emits := traced.emits (inStep.ready side)
  constructor
  · intro at_
    rcases side.eq_or_other at_ with rfl | rfl
    · rw [moved_self]
      exact traced.ready.trans (inStep.ready _)
    · rw [moved_other]
      exact inStep.ready _
  intro at_
  rcases side.eq_or_other at_ with rfl | rfl
  · simp only [peer,items,moved_self,moved_other,map_append]
    exact (inStep.synced at_).emit emits
  simp only [peer,items,Side.other_other,moved_self,moved_other,map_append]
  have back := inStep.synced side.other
  rw [Side.other_other] at back
  exact back.advertise emits

lemma inStep_deliver {policy : AttachPolicy} {order : IterOrder} {rest : List Frame}
    (inStep : pair.InStep) (waiting : (pair side).inbox = frame::rest)
    (bound : ∀ t, frame.performative = .transfer t → ((pair side).session.remoteHandles t.handle).isSome)
    (ok : (pair side).session.inbound policy order (pair side).maxFrameSize frame = .ok result) :
    (pair.moved side result.1 rest result.2).InStep := by
  obtain ⟨absorbs,ready⟩ := Session.inbound_absorbs (inStep.ready side) bound ok
  have here : pair.items side = frame.item::rest.map Frame.item := by rw [items,waiting,map_cons]
  constructor
  · intro at_
    rcases side.eq_or_other at_ with rfl | rfl
    · rw [moved_self]
      exact ready
    · rw [moved_other]
      exact inStep.ready _
  intro at_
  rcases side.eq_or_other at_ with rfl | rfl
  · have out := inStep.synced at_
    rw [here] at out
    simp only [peer,items,moved_self,moved_other,map_append]
    exact out.hear absorbs
  have back := inStep.synced side.other
  rw [Side.other_other,here] at back
  simp only [peer,items,Side.other_other,moved_self,moved_other,map_append]
  exact back.receive absorbs

lemma inStep_step {next : Pair} {label : PairStep} (inStep : pair.InStep)
    (bound : pair.transferBound label = true) (ok : pair.step label = some next) : next.InStep := by
  rcases step_cases ok with ⟨side,op,result,rfl,acted,rfl⟩ | ⟨side,policy,order,frame,rest,result,rfl,waiting,taken,rfl⟩
  · exact inStep_act inStep acted
  refine inStep_deliver inStep waiting ?_ taken
  intro transfer carried
  obtain ⟨_,_⟩ := frame
  subst carried
  simpa [transferBound,waiting] using bound

lemma opened_inStep (o : Opening) (client : 1 ≤ o.begin_.incomingWindow) (server : 1 ≤ o.config.incomingWindow) :
    (opened o).InStep := by
  constructor
  · intro side
    cases side <;> rfl
  intro side
  cases side with
  | client => exact ⟨rfl,server,.inr ⟨rfl,.inl rfl⟩⟩
  | server => exact ⟨rfl,client,.inr ⟨rfl,.inl rfl⟩⟩

def Quiet (pair : Pair) : Prop := (pair .client).inbox = [] ∧ (pair .server).inbox = []

instance (pair : Pair) : Decidable pair.Quiet := inferInstanceAs (Decidable (_ ∧ _))

lemma Quiet.items (quiet : pair.Quiet) : pair.items side = [] := by
  cases side with
  | client => rw [Pair.items,quiet.1,map_nil]
  | server => rw [Pair.items,quiet.2,map_nil]

def transfersTo (pair : Pair) (side : Side) : Nat := dataCount (pair.items side)

end Pair

/-- In a run whose transfers all find their link, every transfer sent is counted or still under
way, and when nothing is under way the two ends agree on the window and on the transfer id. -/
theorem pair_windows_agree (o : Pair.Opening) (client : 1 ≤ o.begin_.incomingWindow)
    (server : 1 ≤ o.config.incomingWindow) (labels : List PairStep) (pair : Pair)
    (bound : Transition.Meets Pair.step (fun pair label => pair.transferBound label = true)
      (Pair.opened o) labels) (ok : run Pair.step (Pair.opened o) labels = some pair) (side : Side) :
    (pair side).session.windows.nextOutgoingId =
      (pair side.other).session.windows.nextIncomingId + UInt32.ofNat (pair.transfersTo side.other) ∧
    (pair.Quiet →
      (pair side).session.windows.remoteIncomingWindow = (pair side.other).session.windows.incomingWindow ∧
      (pair side).session.windows.nextOutgoingId = (pair side.other).session.windows.nextIncomingId) := by
  have inStep : pair.InStep := run_invariant Pair.inStep_step
    (Pair.opened_inStep o client server) bound ok
  have synced := inStep.synced side
  refine ⟨synced.marked.sent_eq,?_⟩
  intro quiet
  rw [quiet.items,quiet.items] at synced
  exact synced.quiescent

def smallOpening : Pair.Opening := ⟨⟨none,0,4,4,8⟩,⟨4,4,8⟩,0,0,512,512⟩

def oneTransferSent : List PairStep :=
  [.act .client (.attach {name := "q",handle := 0,role := .sender} .manual 10 20),
   .deliver .server (.accept .manual 5 none 11) .byKey,
   .deliver .client .respond .byKey,
   .deliver .client .respond .byKey,
   .act .client (.send 0 ⟨[1],true,0,none,none⟩)]

theorem pair_windows_agree_delivered :
    ∃ pair, run Pair.step (Pair.opened smallOpening)
        (oneTransferSent ++ [.deliver .server .respond .byKey]) = some pair ∧
      (pair.Quiet ∧ (pair .client).session.windows.nextOutgoingId = 1) ∧
      (pair .client).session.windows.remoteIncomingWindow = (pair .server).session.windows.incomingWindow ∧
      (pair .client).session.windows.nextOutgoingId = (pair .server).session.windows.nextIncomingId := by
  obtain ⟨pair,ok,quiet,sent⟩ := reaches_of_any
    (P := fun pair : Pair => pair.Quiet ∧ (pair .client).session.windows.nextOutgoingId = 1)
    (show Option.any _ (run Pair.step (Pair.opened smallOpening)
      (oneTransferSent ++ [.deliver .server .respond .byKey])) = true by decide)
  exact ⟨pair,ok,⟨quiet,sent⟩,(pair_windows_agree smallOpening (by decide) (by decide) _ pair
    (meets_of_check (by decide)) ok .client).2 quiet⟩

/-- The receiver detached the link while the transfer was under way: it is never counted. -/
theorem detached_transfer_uncounted :
    ∃ pair, run Pair.step (Pair.opened smallOpening) (oneTransferSent ++
        [.act .server (.detach 0 true none 30),.deliver .server .respond .byKey,
         .deliver .client .respond .byKey,.deliver .server .respond .byKey]) = some pair ∧
      pair.Quiet ∧
      (pair .client).session.windows.remoteIncomingWindow ≠ (pair .server).session.windows.incomingWindow ∧
      (pair .client).session.windows.nextOutgoingId ≠ (pair .server).session.windows.nextIncomingId := by
  apply reaches_of_any
  decide

end Ramqp
