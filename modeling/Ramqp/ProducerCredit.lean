import Ramqp.LinkMoves
import Ramqp.Semantics.Broker

/-! The credit of the producer links of a broker connection: what the peer may still send, what was acknowledged
and not granted again, and what queues still owe an answer for. -/
namespace Ramqp

open List Option Transition Std.ExtTreeMap ReceiverLink

def owing (awaiting : List PublishAck) (channel : UInt16) (handle : UInt32) (epoch : Nat) : Nat :=
  awaiting.countP fun ack => ack.channel = channel ∧ ack.handle = handle ∧ ack.bindingGen = epoch

def publishAcks (effects : List BrokerEffect) : List PublishAck :=
  effects.filterMap fun effect => match effect with
    | .mail _ (.publish _ ack) => ack
    | _ => none

@[simp] lemma publishAcks_append (first second : List BrokerEffect) :
    publishAcks (first ++ second) = publishAcks first ++ publishAcks second := filterMap_append

@[simp] lemma publishAcks_transport (frames : List Frame) : publishAcks (frames.map .transport) = [] := by
  simp [publishAcks]

def Session.receiver (s : Session) (handle : UInt32) : Option ReceiverLink :=
  match s.links[handle]? with
  | some (.receiver r) => some r
  | _ => none

lemma Session.receiver_eq_some {s : Session} {handle : UInt32} {r : ReceiverLink} :
    s.receiver handle = some r ↔ s.links[handle]? = some (.receiver r) := by
  unfold receiver
  split
  next there =>
    simp [there]
  rename_i other
  constructor
  · nofun
  · intro present
    exact absurd present (other r)

def Session.Steady (s next : Session) (excepted : UInt32 → Prop) : Prop :=
  ∀ handle r, next.receiver handle = some r → ∃ old, s.receiver handle = some old ∧ r.handle = old.handle ∧
    r.remoteHandle = old.remoteHandle ∧ (r.credit = old.credit ∨ excepted handle)

lemma LinkMove.steady {s : Session} {handle : UInt32} {input : SessionInput} {r after : ReceiverLink}
    (move : LinkMove s handle input (.receiver r) (.receiver after)) (bound : r.remoteHandle ≠ none) :
    after.handle = r.handle ∧ after.remoteHandle = r.remoteHandle := by
  constructor
  · obtain ⟨_,same,own,-⟩ := LinkMove.of_receiver move
    cases same
    exact own
  cases move with
  | onward moves =>
    cases moves with
    | same => rfl
  | dispose disposed =>
    obtain ⟨_,same⟩ := Link.dispose_receiver disposed
    cases same
    rfl
  | settle | grant | set => rfl
  | bind unbound => exact absurd unbound bound
  | receive routed received => exact congrArg LinkCard.remoteHandle (Session.receive_card received)

namespace Session

variable {s next : Session} {excepted : UInt32 → Prop}

lemma Steady.refl (s : Session) : s.Steady s excepted := fun _ r there => ⟨r,there,rfl,rfl,.inl rfl⟩

lemma Moved.steady {input : SessionInput} (moved : s.Moved input next) (none_ : input.channel = none)
    (bound : ∀ handle r, s.receiver handle = some r → r.remoteHandle ≠ none)
    (kept : ∀ handle, (∃ credit, input = .op (.grant handle credit)) ∨ (∃ flow, input = .op (.flow flow) ∧ flow.handle = some handle) ∨
      (∃ policy order channel t payload, input = .frame policy order ⟨channel,.transfer t,payload⟩) → excepted handle) :
    s.Steady next excepted := by
  intro handle r there
  rcases moved.origin handle _ (receiver_eq_some.mp there) with ⟨before,present,move⟩ | ⟨-,-,channel⟩
  · obtain ⟨old,rfl,-⟩ := LinkMove.receiver move
    have known := receiver_eq_some.mpr present
    obtain ⟨own,remote⟩ := move.steady (bound handle old known)
    refine ⟨old,known,own,remote,?_⟩
    rcases move.credit with ⟨same,-⟩ | ⟨unbound,-⟩ | changed
    · exact .inl same
    · exact absurd unbound (bound handle old known)
    · exact .inr (kept handle changed)
  · rw [none_] at channel
    cases channel

end Session

namespace BrokerConnection

variable {c next : BrokerConnection} {channel remoteChannel : UInt16} {handle : UInt32} {env : FrameEnv}
  {result : BrokerConnection × List BrokerEffect}

variable {reaction : Reaction} {then_ : BrokerConnection → Reaction} {epoch : Nat} {acked : UInt32}

variable (c)

def produces (channel : UInt16) (handle : UInt32) : Option (Nat × UInt32) :=
  match c.binding channel handle with
  | some (.producer _ epoch acked) => some (epoch,acked)
  | _ => none

def receiver (c : BrokerConnection) (channel : UInt16) (handle : UInt32) : Option ReceiverLink :=
  (c.sessions[channel]?).bind fun session => session.receiver handle

def Bound : Prop :=
  ∀ channel handle r, c.receiver channel handle = some r → r.handle = handle ∧ r.remoteHandle ≠ none

lemma binding_bind (channel : UInt16) (handle : UInt32) (b : Binding) (other : UInt16)
    (link : UInt32) : (c.bind channel handle b).binding other link =
      if channel = other ∧ handle = link then some b else c.binding other link := by
  simp only [binding,bind,Entries.getElem?_insert]
  by_cases same : channel = other
  · subst same
    simp only [if_true,bind_some,Entries.getElem?_insert,true_and]
    split
    · rfl
    · cases present : c.bindings[channel]? <;> simp [getD_eq_getD_getElem?,present]
  · simp [same]

lemma produces_bind (channel : UInt16) (handle : UInt32) (queue : QueueHandle)
    (epoch : Nat) (acked : UInt32) (other : UInt16) (link : UInt32) :
    (c.bind channel handle (.producer queue epoch acked)).produces other link =
      if channel = other ∧ handle = link then some (epoch,acked) else c.produces other link := by
  simp only [produces,binding_bind]
  split_ifs <;> rfl

lemma receiver_insert (channel : UInt16) (session : Session) (other : UInt16) (link : UInt32) :
    ({c with sessions := c.sessions.insert channel session} : BrokerConnection).receiver other link =
      if channel = other then session.receiver link else c.receiver other link := by
  simp only [receiver,Entries.getElem?_insert]
  split <;> rfl

variable {c}

lemma receiver_of_session {session : Session} (present : c.sessions[channel]? = some session) (link : UInt32) :
    c.receiver channel link = session.receiver link := by
  rw [receiver,present]
  rfl

structure Calm (c next : BrokerConnection) : Prop where
  bindings : ∀ channel handle entry, next.produces channel handle = some entry → c.produces channel handle = some entry
  links : ∀ channel handle r, next.receiver channel handle = some r → ∃ old, c.receiver channel handle = some old ∧
    r.handle = old.handle ∧ r.remoteHandle = old.remoteHandle ∧ (r.credit = old.credit ∨ next.produces channel handle = none)
  gens : c.nextGen ≤ next.nextGen

lemma Calm.of_sessions (bindings : ∀ channel handle entry, next.produces channel handle = some entry →
    c.produces channel handle = some entry) (links : ∀ channel handle r, next.receiver channel handle = some r →
      c.receiver channel handle = some r) (gens : c.nextGen ≤ next.nextGen) : c.Calm next :=
  ⟨bindings,fun channel handle r there => ⟨r,links channel handle r there,rfl,rfl,.inl rfl⟩,gens⟩

lemma Calm.same (bindings : next.bindings = c.bindings) (sessions : next.sessions = c.sessions)
    (gens : c.nextGen ≤ next.nextGen) : c.Calm next := by
  refine .of_sessions (fun channel handle entry there => ?_) (fun channel handle r there => ?_) gens
  · simpa only [produces,binding,bindings] using there
  · simpa only [receiver,sessions] using there

lemma Calm.idle (calm : c.Calm next) (idle : c.produces channel handle = none) : next.produces channel handle = none := by
  by_contra busy
  obtain ⟨_,busy⟩ := ne_none_iff_exists'.mp busy
  rw [calm.bindings _ _ _ busy] at idle
  cases idle

lemma Calm.trans {middle : BrokerConnection} (first : c.Calm middle) (second : middle.Calm next) : c.Calm next where
  bindings channel handle entry there := first.bindings _ _ _ (second.bindings _ _ _ there)
  links channel handle r there := by
    obtain ⟨between,here,own,remote,credit⟩ := second.links channel handle r there
    obtain ⟨old,known,ownBefore,remoteBefore,creditBefore⟩ := first.links channel handle between here
    refine ⟨old,known,own.trans ownBefore,remote.trans remoteBefore,?_⟩
    rcases credit with same | idle
    · rcases creditBefore with sameBefore | idle
      · exact .inl (same.trans sameBefore)
      · exact .inr (second.idle idle)
    · exact .inr idle
  gens := first.gens.trans second.gens

lemma Calm.bound (calm : c.Calm next) (bound : c.Bound) : next.Bound := by
  intro channel handle r there
  obtain ⟨old,known,own,remote,-⟩ := calm.links channel handle r there
  rw [own,remote]
  exact bound channel handle old known

lemma Calm.session {session after : Session} (present : c.sessions[channel]? = some session)
    (steady : session.Steady after (fun handle => c.produces channel handle = none)) :
    c.Calm {c with sessions := c.sessions.insert channel after} := by
  refine ⟨fun _ _ _ there => there,fun other handle r there => ?_,le_rfl⟩
  rw [receiver_insert] at there
  split at there
  next same =>
    subst same
    rw [receiver_of_session present]
    exact steady handle r there
  · exact ⟨r,there,rfl,rfl,.inl rfl⟩

def Quiet (c : BrokerConnection) (result : BrokerConnection × List BrokerEffect) : Prop :=
  c.Calm result.1 ∧ publishAcks result.2 = []

def Quietly (c : BrokerConnection) (reaction : Reaction) : Prop := ∀ result, reaction = .ok result → c.Quiet result

lemma Quiet.refl (c : BrokerConnection) : c.Quiet (c,[]) := ⟨.same rfl rfl le_rfl,rfl⟩

lemma Quiet.append {more : BrokerConnection × List BrokerEffect} (first : c.Quiet result)
    (second : result.1.Quiet more) : c.Quiet (more.1,result.2 ++ more.2) := by
  refine ⟨first.1.trans second.1,?_⟩
  rw [publishAcks_append,first.2,second.2]
  rfl

lemma Quiet.after (quiet : next.Quiet result) (calm : c.Calm next) : c.Quiet result := ⟨calm.trans quiet.1,quiet.2⟩

lemma Quiet.quietly (quiet : c.Quiet result) : c.Quietly (.ok result) := by
  rintro _ ⟨⟩
  exact quiet

lemma quietly_error (fault : Fault) : c.Quietly (.error fault) := nofun

lemma andThen_ok (ok : reaction.andThen then_ = .ok result) :
    ∃ first more, reaction = .ok first ∧ then_ first.1 = .ok more ∧ result = (more.1,first.2 ++ more.2) := by
  unfold Reaction.andThen at ok
  split at ok
  · cases ok
  rename_i middle effects
  split at ok
  · cases ok
  rename_i after more second
  cases ok
  exact ⟨(middle,effects),(after,more),rfl,second,rfl⟩

lemma Quietly.andThen (first : c.Quietly reaction)
    (second : ∀ middle, c.Calm middle → middle.Quietly (then_ middle)) : c.Quietly (reaction.andThen then_) := by
  intro result ok
  obtain ⟨early,late,once,again,rfl⟩ := andThen_ok ok
  have start := first early once
  exact start.append (second early.1 start.1 late again)

section Quiet

variable (config : BrokerConfig)

lemma Calm.absorb (calm : c.Calm next) (effects : List Effect) : c.Quiet (next.absorb config effects) :=
  ⟨calm.trans (.same rfl rfl le_rfl),publishAcks_transport _⟩

lemma onSession_quietly {run : Session → Except Fault (Session × List Effect)}
    (steady : ∀ session result, c.sessions[channel]? = some session → run session = .ok result →
      session.Steady result.1 (fun handle => c.produces channel handle = none)) :
    c.Quietly (c.onSession config channel run) := by
  intro result ok
  unfold onSession at ok
  split at ok
  · cases ok
    exact .refl c
  rename_i session present
  split at ok
  · cases ok
  rename_i after effects done
  cases ok
  exact (Calm.session present (steady session (after,effects) present done)).absorb config effects

lemma Bound.remote (bound : c.Bound) {session : Session} (present : c.sessions[channel]? = some session) :
    ∀ handle r, session.receiver handle = some r → r.remoteHandle ≠ none := by
  intro handle r there
  exact (bound channel handle r ((receiver_of_session present handle).trans there)).2

lemma sendDisposition_quietly (bound : c.Bound) (channel : UInt16) (handle deliveryId : UInt32) (state : DeliveryState) :
    c.Quietly (c.sendDisposition config channel handle deliveryId state) := by
  refine onSession_quietly config fun session result present done => ?_
  have acted : session.act 0 (.settle handle deliveryId none state true) = .ok result := done
  exact (Session.act_moved acted).steady rfl (bound.remote present) (by simp)

section

variable (bound : c.Bound) (idle : c.produces channel handle = none)

include bound idle

lemma grantCredit_quietly (credit : UInt32) : c.Quietly (c.grantCredit config channel handle credit) := by
  refine onSession_quietly config fun session result present done => ?_
  have acted : session.act 0 (.grant handle credit) = .ok result := done
  refine (Session.act_moved acted).steady rfl (bound.remote present) fun other granted => ?_
  rcases granted with ⟨_,same⟩ | ⟨_,absurd,-⟩ | ⟨_,_,_,_,_,absurd⟩
  · cases same
    exact idle
  · cases absurd
  · cases absurd

lemma answerControl_quietly (deliveryId : UInt32)
    (state : DeliveryState) : c.Quietly (c.answerControl config channel handle deliveryId state) :=
  (sendDisposition_quietly config bound channel handle deliveryId state).andThen fun _ calm =>
    grantCredit_quietly config (calm.bound bound) (calm.idle idle) 1

lemma handleTxnControl_quietly (d : IncomingDelivery) : c.Quietly (c.handleTxnControl config channel handle d) := by
  unfold handleTxnControl
  split
  · split
    · exact (Quiet.refl c).quietly
    split
    · exact answerControl_quietly config bound idle _ _
    split
    next txnId txns declared =>
      have kept : c.Quiet ({c with txns},[.declared txnId channel handle]) := ⟨.same rfl rfl le_rfl,rfl⟩
      exact kept.quietly.andThen fun _ calm => answerControl_quietly config (calm.bound bound) (calm.idle idle) _ _
    · exact answerControl_quietly config bound idle _ _
  · split
    · exact answerControl_quietly config bound idle _ _
    · refine Quietly.andThen (Quiet.quietly ⟨.same rfl rfl le_rfl,rfl⟩) fun _ calm =>
        grantCredit_quietly config (calm.bound bound) (calm.idle idle) 1
  · exact answerControl_quietly config bound idle _ _

end

lemma bind_calm (c : BrokerConnection) (channel : UInt16) (handle : UInt32) (b : Binding)
    (other : ∀ queue epoch acked, b ≠ .producer queue epoch acked) : c.Calm (c.bind channel handle b) := by
  refine .of_sessions (fun channel' handle' entry there => ?_) (fun _ _ _ there => there) le_rfl
  simp only [produces,binding_bind] at there
  split_ifs at there
  · cases b with
    | producer queue epoch acked => exact absurd rfl (other queue epoch acked)
    | coordinator | consumer => cases there
  · exact there

lemma handleDeliver_quietly (bound : c.Bound) (channel : UInt16) (handle : UInt32) (bindingGen msgId : Nat) (body : Bytes) :
    c.Quietly (c.handleDeliver config channel handle bindingGen msgId body) := by
  unfold handleDeliver
  split
  next queue sub epoch granted found =>
    split
    · have rebound := bind_calm c channel handle (.consumer queue sub epoch (saturatingSub granted 1)) nofun
      dsimp only
      split
      · exact Quiet.quietly ⟨rebound.trans (.same rfl rfl le_rfl),rfl⟩
      rename_i session present
      refine Quiet.quietly (Calm.absorb config (rebound.trans ?_) _)
      have kept : (c.bind channel handle (.consumer queue sub epoch (saturatingSub granted 1))).Bound := rebound.bound bound
      refine Calm.trans (Calm.session present ?_) (.same rfl rfl le_rfl)
      have acted : session.act config.maxFrameSize (.send handle ⟨body,false,0,none,some c.nextReply⟩) =
        .ok (session.sendTransfer handle ⟨body,false,0,none,some c.nextReply⟩ config.maxFrameSize) := rfl
      exact (Session.act_moved acted).steady rfl (kept.remote present) (by simp)
    · exact (Quiet.refl c).quietly
  · exact (Quiet.refl c).quietly

variable (c)

lemma forwardSettlement_quiet (s : Settlement) : c.Quiet (c.forwardSettlement s) := by
  unfold forwardSettlement
  split
  · exact .refl c
  · exact ⟨.same rfl rfl le_rfl,rfl⟩
  · split <;> exact ⟨.same rfl rfl le_rfl,rfl⟩

lemma forwardAll_quiet (ready : List Settlement) (c : BrokerConnection) : c.Quiet (forwardAll ready c) := by
  induction ready generalizing c with
  | nil => exact .refl c
  | cons s rest ih => exact (forwardSettlement_quiet c s).append (ih _)

lemma drainReadySettlements_quiet (order : ReadyOrder) (c : BrokerConnection) : c.Quiet (c.drainReadySettlements order) := by
  have forwarded := forwardAll_quiet (order.arrange (c.settlements.filter fun s => s.action.isSome))
    {c with settlements := c.settlements.filter fun s => s.action.isNone}
  exact forwarded.after (.same rfl rfl le_rfl)

lemma rollBackAll_quiet (txns : List Txn) (c : BrokerConnection) : c.Quiet (rollBackAll txns c) := by
  induction txns generalizing c with
  | nil => exact .refl c
  | cons txn rest ih =>
    have spawned : c.Quiet (c.spawn (.rollingBack txn .complete)) := ⟨.same rfl rfl le_rfl,rfl⟩
    exact spawned.append (ih _)

lemma handleCredit_quiet (channel : UInt16) (handle credit : UInt32) (drain : Bool) :
    c.Quiet (c.handleCredit channel handle credit drain) := by
  unfold handleCredit
  split
  · refine ⟨bind_calm c channel handle _ nofun,?_⟩
    dsimp only
    split <;> rfl
  · exact .refl c

lemma unbind_calm (channel : UInt16) (handle : UInt32) : c.Calm (c.unbind channel handle) := by
  refine .of_sessions (fun other link entry there => ?_) (fun _ _ _ there => there) le_rfl
  simp only [produces,binding,unbind,Entries.getElem?_insert] at there ⊢
  by_cases same : channel = other
  · subst same
    simp only [if_true,bind_some,Entries.getElem?_erase] at there
    by_cases left : handle = link
    · simp [left] at there
    cases present : c.bindings[channel]? with
    | none => simp [getD_eq_getD_getElem?,present,left] at there
    | some => simpa [getD_eq_getD_getElem?,present,left] using there
  · simpa [same] using there

lemma handleDetached_quiet (channel : UInt16) (handle : UInt32) :
    c.Quiet (c.handleDetached channel handle) := by
  have unbound := unbind_calm c channel handle
  unfold handleDetached
  dsimp only
  split
  · exact ⟨unbound,rfl⟩
  · have rolled := rollBackAll_quiet (c.unbind channel handle).txns.takeAll.1
      {c.unbind channel handle with txns := (c.unbind channel handle).txns.takeAll.2}
    have taken : (c.unbind channel handle).Calm
        {c.unbind channel handle with txns := (c.unbind channel handle).txns.takeAll.2} := .same rfl rfl le_rfl
    exact rolled.after (unbound.trans taken)
  · exact ⟨unbound,rfl⟩

variable {c}

lemma handleLinkEvent_quietly (env : FrameEnv) (bound : c.Bound) {event : LinkEvent}
    (other : ∀ d, event = .delivery d → c.produces channel d.handle = none) :
    c.Quietly (c.handleLinkEvent config env channel event) := by
  cases event with
  | delivery d =>
    have idle := other d rfl
    simp only [handleLinkEvent]
    split
    next found =>
      simp [produces,found] at idle
    · exact (drainReadySettlements_quiet env.ready c).quietly.andThen fun _ calm =>
        handleTxnControl_quietly config (calm.bound bound) (calm.idle idle) d
    · exact (Quiet.refl c).quietly
  | credit link credit drain => exact (handleCredit_quiet c channel link credit drain).quietly
  | detached link => exact (handleDetached_quiet c channel link).quietly
  | disposition => exact (Quiet.refl c).quietly

lemma drainLinkEvents_quietly (env : FrameEnv) (events : List LinkEvent) (bound : c.Bound)
    (other : ∀ d, .delivery d ∈ events → c.produces channel d.handle = none) :
    c.Quietly (drainLinkEvents config env channel events c) := by
  induction events generalizing c with
  | nil => exact (Quiet.refl c).quietly
  | cons event rest ih =>
    refine (handleLinkEvent_quietly config env bound fun d same => other d (same ▸ mem_cons_self)).andThen fun _ calm => ?_
    exact ih (calm.bound bound) fun d later => calm.idle (other d (mem_cons_of_mem _ later))

lemma publishAcks_unsubscribes (links : Map UInt32 Binding) : publishAcks (unsubscribes links) = [] := by
  simp only [publishAcks,unsubscribes,filterMap_filterMap,filterMap_eq_nil_iff]
  intro entry _
  split <;> rfl

section

variable (c : BrokerConnection)

lemma dropSession_quiet (channel remoteChannel : UInt16) (error : Option AmqpError) :
    c.Quiet (c.dropSession config channel remoteChannel error) := by
  refine ⟨.of_sessions (fun other handle entry there => ?_) (fun other handle r there => ?_) le_rfl,publishAcks_unsubscribes _⟩
  · simp only [produces,binding,dropSession,releaseSessionBindings,hear,Entries.getElem?_erase] at there
    split_ifs at there
    · cases there
    · exact there
  simp only [receiver,dropSession,releaseSessionBindings,hear,Entries.getElem?_erase] at there
  split_ifs at there
  · cases there
  · exact there

lemma endSessionWithError_quiet (channel remoteChannel : UInt16) (error : AmqpError) :
    c.Quiet (c.endSessionWithError config channel remoteChannel error) :=
  ⟨(dropSession_quiet config c channel remoteChannel (some error)).1.trans (.same rfl rfl le_rfl),
    (dropSession_quiet config c channel remoteChannel (some error)).2⟩

lemma handleEnd_quiet (remoteChannel : UInt16) : c.Quiet (c.handleEnd config remoteChannel) := by
  unfold handleEnd
  split
  · exact ⟨.same rfl rfl le_rfl,rfl⟩
  split
  · exact .refl c
  · exact dropSession_quiet ..

lemma subscribed_quiet (s : Subscribing) (sub : Option SubId) : c.Quiet (c.subscribed config s sub) := by
  cases sub with
  | some sub =>
    have answered : c.Calm {c with subscribing := none} := .same rfl rfl le_rfl
    exact ⟨answered.trans (bind_calm _ s.channel s.handle (.consumer s.queue sub s.epoch 0) nofun),rfl⟩
  | none =>
    have ended := endSessionWithError_quiet config {c with subscribing := none} s.channel s.remoteChannel
      ⟨.internalError,some ("queue " ++ s.queue.name ++ " became unavailable")⟩
    exact ended.after (.same rfl rfl le_rfl)

lemma acceptBegin_quietly (remoteChannel : UInt16) (begin_ : Begin) :
    c.Quietly (c.acceptBegin config remoteChannel begin_) := by
  unfold acceptBegin
  split
  · exact quietly_error _
  split
  · exact quietly_error _
  split
  · exact quietly_error _
  rename_i local_ channels allocated
  refine Quiet.quietly ⟨.of_sessions (fun _ _ _ there => there) (fun other handle r there => ?_) le_rfl,rfl⟩
  simp only [receiver,Entries.getElem?_insert] at there
  split_ifs at there
  · simp [Session.receiver] at there
  · exact there

lemma refuseAttach_quietly (channel : UInt16) (attach : Attach) (condition : ErrorCondition) (description : String) :
    c.Quietly (c.refuseAttach config channel attach condition description) := by
  unfold refuseAttach
  split
  · exact quietly_error _
  rename_i session present
  refine Quiet.quietly (Calm.absorb config (Calm.session present ?_) _)
  exact Session.Steady.refl session

end

lemma reportTxnDone_quietly (bound : c.Bound) (done : TxnDone) (outcome : DischargeOutcome) :
    c.Quietly (c.reportTxnDone config done outcome) := by
  unfold reportTxnDone
  split
  · exact sendDisposition_quietly config bound _ _ _ _
  · exact (Quiet.refl c).quietly

end Quiet

/-- The account of every producer link is even, but for one delivery that a link may have just taken. -/
structure Balanced (credit : UInt32) (c : BrokerConnection) (awaiting : List PublishAck) (taken : Option (UInt16 × UInt32)) :
    Prop where
  even : ∀ channel handle epoch acked r, c.produces channel handle = some (epoch,acked) → c.receiver channel handle = some r →
    r.credit.linkCredit.toNat + acked.toNat + owing awaiting channel handle epoch +
      (if taken = some (channel,handle) then 1 else 0) = credit.toNat
  bound : c.Bound
  issued : ∀ channel handle epoch acked, c.produces channel handle = some (epoch,acked) → epoch < c.nextGen
  owed : ∀ ack ∈ awaiting, ack.bindingGen < c.nextGen

variable {credit : UInt32} {awaiting : List PublishAck} {taken : Option (UInt16 × UInt32)}

lemma Balanced.calm (balanced : Balanced credit c awaiting taken) (calm : c.Calm next) :
    Balanced credit next awaiting taken where
  even channel handle epoch acked r bound there := by
    obtain ⟨old,known,-,-,same | idle⟩ := calm.links channel handle r there
    · rw [same]
      exact balanced.even channel handle epoch acked old (calm.bindings _ _ _ bound) known
    · rw [bound] at idle
      cases idle
  bound := calm.bound balanced.bound
  issued channel handle epoch acked bound :=
    (balanced.issued channel handle epoch acked (calm.bindings _ _ _ bound)).trans_le calm.gens
  owed ack member := (balanced.owed ack member).trans_le calm.gens

def Settled (credit : UInt32) (awaiting : List PublishAck) (result : BrokerConnection × List BrokerEffect) : Prop :=
  Balanced credit result.1 (awaiting ++ publishAcks result.2) none

lemma Balanced.quiet (balanced : Balanced credit c awaiting none) (quiet : c.Quiet result) :
    Settled credit awaiting result := by
  rw [Settled,quiet.2,append_nil]
  exact balanced.calm quiet.1

lemma Balanced.idle (balanced : Balanced credit c awaiting (some (channel,handle)))
    (idle : c.produces channel handle = none) : Balanced credit c awaiting none where
  __ := balanced
  even other link epoch acked r bound there := by
    have apart : (channel,handle) ≠ (other,link) := by
      rintro ⟨⟩
      rw [bound] at idle
      cases idle
    have even := balanced.even other link epoch acked r bound there
    simpa [apart] using even

lemma owing_append (first second : List PublishAck) (channel : UInt16) (handle : UInt32) (epoch : Nat) :
    owing (first ++ second) channel handle epoch = owing first channel handle epoch + owing second channel handle epoch :=
  countP_append

lemma Balanced.publish (balanced : Balanced credit c awaiting (some (channel,handle)))
    (bound : c.produces channel handle = some (epoch,acked)) (conn : ConnRef) (deliveryId : UInt32) :
    Balanced credit c (awaiting ++ [⟨conn,channel,handle,epoch,deliveryId⟩]) none where
  __ := balanced
  even other link gen count r here there := by
    have even := balanced.even other link gen count r here there
    rw [owing_append]
    by_cases same : (channel,handle) = (other,link)
    · cases same
      cases bound.symm.trans here
      simp [owing] at even ⊢
      omega
    have apart : ¬ (channel = other ∧ handle = link ∧ epoch = gen) := fun ⟨first,second,_⟩ => same (by rw [first,second])
    simp [owing,same,apart] at even ⊢
    omega
  owed ack member := by
    rcases mem_append.mp member with before | new
    · exact balanced.owed ack before
    · cases mem_singleton.mp new
      exact balanced.issued channel handle epoch acked bound

lemma Balanced.answer (balanced : Balanced credit c awaiting none) {ack : PublishAck} (member : ack ∈ awaiting) :
    Balanced credit c (awaiting.erase ack)
      (if (c.produces ack.channel ack.handle).any (·.1 = ack.bindingGen) then some (ack.channel,ack.handle) else none) := by
  have counted : ∀ channel handle epoch, owing awaiting channel handle epoch = owing (awaiting.erase ack) channel handle epoch +
      (if ack.channel = channel ∧ ack.handle = handle ∧ ack.bindingGen = epoch then 1 else 0) := by
    intro channel handle epoch
    rw [owing,(perm_cons_erase member).countP_eq,countP_cons]
    simp [owing]
  refine ⟨fun channel handle epoch count r here there => ?_,balanced.bound,balanced.issued,
    fun other there => balanced.owed other (mem_of_mem_erase there)⟩
  have even := balanced.even channel handle epoch count r here there
  rw [counted] at even
  by_cases same : ack.channel = channel ∧ ack.handle = handle
  · obtain ⟨rfl,rfl⟩ := same
    by_cases gen : ack.bindingGen = epoch
    · simp [here,gen] at even ⊢
      omega
    · simpa [here,gen,Ne.symm gen] using even
  have apart : ∀ live : Bool, (if live then some (ack.channel,ack.handle) else none) ≠ some (channel,handle) := by
    rintro (_ | _) equal
    · cases equal
    · cases equal
      exact same ⟨rfl,rfl⟩
  have none_ : ¬ (ack.channel = channel ∧ ack.handle = handle ∧ ack.bindingGen = epoch) := fun ⟨first,second,_⟩ =>
    same ⟨first,second⟩
  simpa [apart,none_] using even

lemma Balanced.take (balanced : Balanced credit c awaiting none) {session after : Session} {r new : ReceiverLink}
    (present : c.sessions[channel]? = some session) (known : session.receiver handle = some r)
    (links : ∀ link, after.receiver link = if handle = link then some new else session.receiver link)
    (label : new.handle = r.handle) (remote : new.remoteHandle = r.remoteHandle)
    (spent : new.credit.linkCredit.toNat + 1 = r.credit.linkCredit.toNat) :
    Balanced credit {c with sessions := c.sessions.insert channel after} awaiting (some (channel,handle)) := by
  have before := fun link => receiver_of_session present link
  refine ⟨fun other link epoch acked seen bound there => ?_,fun other link seen there => ?_,balanced.issued,balanced.owed⟩
  · rw [receiver_insert] at there
    split at there
    next same =>
      subst same
      rw [links] at there
      split at there
      next same =>
        subst same
        cases there
        have even := balanced.even channel handle epoch acked r bound ((before handle).trans known)
        simp at even ⊢
        omega
      rename_i apart
      have even := balanced.even channel link epoch acked seen bound ((before link).trans there)
      simpa [apart] using even
    next apart =>
      have even := balanced.even other link epoch acked seen bound there
      simpa [apart] using even
  rw [receiver_insert] at there
  split at there
  next same =>
    subst same
    rw [links] at there
    split at there
    next same =>
      subst same
      cases there
      rw [label,remote]
      exact balanced.bound channel handle r ((before handle).trans known)
    · exact balanced.bound channel link seen ((before link).trans there)
  · exact balanced.bound other link seen there

lemma Balanced.pay (balanced : Balanced credit c awaiting (some (channel,handle))) (count : UInt32)
    (bound : c.produces channel handle = some (epoch,acked)) (gens : next.nextGen = c.nextGen)
    (produced : ∀ other link, next.produces other link =
      if channel = other ∧ handle = link then some (epoch,count) else c.produces other link)
    (others : ∀ other link, (channel,handle) ≠ (other,link) → next.receiver other link = c.receiver other link)
    (own : ∀ r, next.receiver channel handle = some r → ∃ old, c.receiver channel handle = some old ∧
      r.handle = old.handle ∧ r.remoteHandle = old.remoteHandle ∧
      (old.credit.linkCredit.toNat + acked.toNat < credit.toNat →
        r.credit.linkCredit.toNat + count.toNat = old.credit.linkCredit.toNat + acked.toNat + 1)) :
    Balanced credit next awaiting none where
  even other link gen total r here there := by
    rw [produced] at here
    by_cases same : (channel,handle) = (other,link)
    · cases same
      rw [if_pos ⟨rfl,rfl⟩] at here
      cases here
      obtain ⟨old,known,-,-,moved⟩ := own r there
      have even := balanced.even channel handle epoch acked old bound known
      rw [if_pos rfl] at even
      have paid := moved (by omega)
      simp only [reduceCtorEq,if_false]
      omega
    · have apart : ¬ (channel = other ∧ handle = link) := fun ⟨first,second⟩ => same (by rw [first,second])
      rw [if_neg apart] at here
      rw [others other link same] at there
      simpa [same] using balanced.even other link gen total r here there
  bound other link r there := by
    by_cases same : (channel,handle) = (other,link)
    · cases same
      obtain ⟨old,known,left,remote,-⟩ := own r there
      rw [left,remote]
      exact balanced.bound channel handle old known
    · rw [others other link same] at there
      exact balanced.bound other link r there
  issued other link gen total here := by
    rw [gens]
    rw [produced] at here
    split at here
    · cases here
      exact balanced.issued channel handle epoch acked bound
    · exact balanced.issued other link gen total here
  owed ack member := gens ▸ balanced.owed ack member

section Steps

variable (config : BrokerConfig)

variable {a : UInt32} {r : ReceiverLink} {attach : Attach} {t : Transfer} {payload : Option Bytes} {frame : Frame}

lemma toNat_succ_of_lt (limit : UInt32) (bound : a.toNat < limit.toNat) : (a + 1).toNat = a.toNat + 1 := by
  have small := limit.toNat_lt
  rw [UInt32.toNat_add,UInt32.toNat_one]
  omega

lemma receiver_grantCredit (s : Session) (handle credit link : UInt32) : (s.grantCredit handle credit).1.receiver link =
    if handle = link then (s.receiver link).map fun r => {r with credit := r.credit.grant credit} else s.receiver link := by
  unfold Session.grantCredit
  split
  next present =>
    simp only [Session.receiver,Entries.getElem?_insert]
    by_cases same : handle = link
    · subst same
      simp [present]
    · simp [same]
  rename_i other
  split
  next same =>
    subst same
    cases found : s.receiver handle with
    | none => rfl
    | some r => exact absurd (Session.receiver_eq_some.mp found) (other r)
  · rfl

lemma grantCredit_ok (ok : c.grantCredit config channel handle credit = .ok result) :
    result.1.bindings = c.bindings ∧ result.1.nextGen = c.nextGen ∧ publishAcks result.2 = [] ∧
    ∀ other link, result.1.receiver other link = if (channel,handle) = (other,link)
      then (c.receiver other link).map fun r => {r with credit := r.credit.grant credit} else c.receiver other link := by
  unfold grantCredit onSession at ok
  split at ok
  next gone =>
    cases ok
    refine ⟨rfl,rfl,rfl,fun other link => ?_⟩
    split
    next same =>
      cases same
      simp [receiver,gone]
    · rfl
  next session present =>
    cases ok
    refine ⟨rfl,rfl,publishAcks_transport _,fun other link => (receiver_insert c channel _ other link).trans ?_⟩
    by_cases same : channel = other
    · subst same
      rw [if_pos rfl,receiver_of_session present]
      refine (receiver_grantCredit session handle credit link).trans ?_
      simp
    · simp [same]

lemma replenishProducerCredit_pays (balanced : Balanced config.initialCredit c awaiting (some (channel,handle)))
    (ok : c.replenishProducerCredit config channel handle = .ok result) :
    Balanced config.initialCredit result.1 awaiting none ∧ publishAcks result.2 = [] := by
  unfold replenishProducerCredit at ok
  split at ok
  next queue epoch acked found =>
    have bound : c.produces channel handle = some (epoch,acked) := by rw [produces,found]
    split at ok
    · obtain ⟨bindings,gens,silent,links⟩ := grantCredit_ok config ok
      refine ⟨balanced.pay 0 bound gens (fun other link => ?_) (fun other link apart => ?_) fun r there => ?_,silent⟩
      · rw [produces,binding,bindings]
        exact produces_bind c channel handle queue epoch 0 other link
      · exact (links other link).trans (if_neg apart)
      rw [links,if_pos rfl] at there
      obtain ⟨old,known,rfl⟩ := map_eq_some_iff.mp there
      refine ⟨old,known,rfl,rfl,fun room => ?_⟩
      have small := config.initialCredit.toNat_lt
      have step : (acked + 1).toNat = acked.toNat + 1 := toNat_succ_of_lt config.initialCredit (by omega)
      have granted : (saturatingAdd old.credit.linkCredit (acked + 1)).toNat = old.credit.linkCredit.toNat + (acked + 1).toNat :=
        toNat_saturatingAdd (by omega)
      simp only [LinkCredit.grant,granted,step,UInt32.toNat_zero]
      omega
    cases ok
    refine ⟨balanced.pay (acked + 1) bound rfl (fun other link => produces_bind c channel handle queue epoch (acked + 1) other link)
      (fun _ _ _ => rfl) fun r there => ⟨r,there,rfl,rfl,fun room => ?_⟩,rfl⟩
    have step : (acked + 1).toNat = acked.toNat + 1 := toNat_succ_of_lt config.initialCredit (by omega)
    omega
  next other =>
    cases ok
    refine ⟨balanced.idle ?_,rfl⟩
    unfold produces
    split
    next found =>
      exact absurd found (other _ _ _)
    · rfl

lemma settle_pays (balanced : Balanced config.initialCredit c awaiting (some (channel,handle)))
    (deliveryId : UInt32) (state : DeliveryState)
    (ok : Reaction.andThen (c.sendDisposition config channel handle deliveryId state)
      (fun c => c.replenishProducerCredit config channel handle) = .ok result) :
    Balanced config.initialCredit result.1 awaiting none ∧ publishAcks result.2 = [] := by
  obtain ⟨first,_,sent,paid,rfl⟩ := andThen_ok ok
  have quiet := sendDisposition_quietly config balanced.bound channel handle deliveryId state first sent
  obtain ⟨even,silent⟩ := replenishProducerCredit_pays config (balanced.calm quiet.1) paid
  refine ⟨even,?_⟩
  rw [publishAcks_append,quiet.2,silent]
  rfl

lemma handleSettleIncoming_balanced (balanced : Balanced config.initialCredit c awaiting none) {ack : PublishAck}
    (member : ack ∈ awaiting) (accepted : Bool)
    (ok : c.handleSettleIncoming config ack.channel ack.handle ack.bindingGen ack.deliveryId accepted = .ok result) :
    Settled config.initialCredit (awaiting.erase ack) result := by
  have rest := balanced.answer member
  have stale : (∀ acked, c.produces ack.channel ack.handle ≠ some (ack.bindingGen,acked)) →
      Settled config.initialCredit (awaiting.erase ack) (c,[]) := by
    intro gone
    rw [if_neg] at rest
    · simpa [Settled,publishAcks] using rest
    intro live
    obtain ⟨⟨epoch,acked⟩,here,same⟩ := (any_eq_true _ _).mp live
    cases of_decide_eq_true same
    exact gone acked here
  unfold handleSettleIncoming at ok
  split at ok
  next epoch acked found =>
    have bound : c.produces ack.channel ack.handle = some (epoch,acked) := by rw [produces,found]
    split at ok
    next same =>
      subst same
      rw [bound,if_pos (by simp)] at rest
      obtain ⟨even,silent⟩ := settle_pays config rest _ _ ok
      rw [Settled,silent,append_nil]
      exact even
    rename_i other
    cases ok
    refine stale fun _ live => ?_
    cases bound.symm.trans live
    exact other rfl
  next other =>
    cases ok
    refine stale fun acked live => ?_
    unfold produces at live
    split at live
    · exact other _ _ _ (by assumption)
    · cases live

lemma handleDelivery_balanced {d : IncomingDelivery} {queue : QueueHandle}
    (balanced : Balanced config.initialCredit c awaiting (some (channel,d.handle)))
    (found : c.binding channel d.handle = some (.producer queue epoch acked))
    (running : env.stopped queue = true → (d.state.bind config.codec.txnState).isSome)
    (ok : c.handleLinkEvent config env channel (.delivery d) = .ok result) :
    Settled config.initialCredit awaiting result := by
  have bound : c.produces channel d.handle = some (epoch,acked) := by rw [produces,found]
  simp only [handleLinkEvent,found] at ok
  unfold handlePublish at ok
  split at ok
  next txnId outcome transactional =>
    have staged : c.Calm {c with txns := (c.txns.stagePublish txnId ⟨queue,d.message⟩).1} := .same rfl rfl le_rfl
    obtain ⟨even,silent⟩ := settle_pays config (balanced.calm staged) _ _ ok
    rw [Settled,silent,append_nil]
    exact even
  rename_i plain
  dsimp only at ok
  split at ok
  next halted =>
    have transactional := running halted
    rw [plain] at transactional
    cases transactional
  obtain ⟨_,_,sent,paid,rfl⟩ := andThen_ok ok
  cases sent
  split at paid
  next settled =>
    obtain ⟨even,silent⟩ := replenishProducerCredit_pays config balanced paid
    rw [Settled,publishAcks_append,silent]
    simpa [publishAcks,settled] using even
  rename_i unsettled
  cases paid
  simpa [Settled,publishAcks,unsettled] using balanced.publish bound (.connection c.id) d.deliveryId

lemma Balanced.add (balanced : Balanced credit c awaiting none) (channel : UInt16) (handle : UInt32)
    (gens : c.nextGen ≤ next.nextGen)
    (others : ∀ other link, (channel,handle) ≠ (other,link) → next.produces other link = c.produces other link ∧
      next.receiver other link = c.receiver other link)
    (placed : ∀ r, next.receiver channel handle = some r → r.handle = handle ∧ r.remoteHandle ≠ none)
    (own : ∀ epoch acked, next.produces channel handle = some (epoch,acked) →
      (c.produces channel handle = some (epoch,acked) ∧ next.receiver channel handle = none) ∨
      (epoch = c.nextGen ∧ acked = 0 ∧ c.nextGen < next.nextGen ∧
        ∀ r, next.receiver channel handle = some r → r.credit.linkCredit = credit)) :
    Balanced credit next awaiting none where
  even other link epoch acked r here there := by
    by_cases same : (channel,handle) = (other,link)
    · cases same
      rcases own epoch acked here with ⟨-,absent⟩ | ⟨rfl,rfl,-,full⟩
      · cases absent.symm.trans there
      have unowed : owing awaiting channel handle c.nextGen = 0 := by
        refine countP_eq_zero.mpr fun ack member => ?_
        have early := balanced.owed ack member
        simp only [decide_eq_true_eq]
        omega
      simp [full r there,unowed]
    · obtain ⟨bindings,links⟩ := others other link same
      rw [bindings] at here
      rw [links] at there
      exact balanced.even other link epoch acked r here there
  bound other link r there := by
    by_cases same : (channel,handle) = (other,link)
    · cases same
      exact placed r there
    · rw [(others other link same).2] at there
      exact balanced.bound other link r there
  issued other link epoch acked here := by
    by_cases same : (channel,handle) = (other,link)
    · cases same
      rcases own epoch acked here with ⟨known,-⟩ | ⟨rfl,-,later,-⟩
      · exact (balanced.issued channel handle epoch acked known).trans_le gens
      · exact later
    · rw [(others other link same).1] at here
      exact (balanced.issued other link epoch acked here).trans_le gens
  owed ack member := (balanced.owed ack member).trans_le gens

lemma receiver_mirrorLink (handle : UInt32) (attach : Attach) (initialCredit : UInt32)
    (maxMessageSize : Option UInt64) (events : ChannelRef) (windows : SessionWindows)
    (made : ((Session.mirrorLink handle attach .manual initialCredit maxMessageSize events windows).1.setRemoteHandle
      attach.handle).markAttached = .receiver r) :
    attach.role = .sender ∧ r.handle = handle ∧ r.remoteHandle ≠ none ∧ r.credit.linkCredit = initialCredit := by
  unfold Session.mirrorLink at made
  cases role : attach.role with
  | receiver =>
    simp only [role,Role.opposite] at made
    cases made
  | sender =>
    simp only [role,Role.opposite] at made
    split at made
    · cases made
      exact ⟨rfl,rfl,nofun,rfl⟩
    rename_i zero
    cases made
    refine ⟨rfl,rfl,nofun,?_⟩
    rw [UInt32.not_lt] at zero
    exact (UInt32.le_zero_iff.mp zero).symm

lemma mirror_balanced (balanced : Balanced config.initialCredit c awaiting none) {initialCredit : UInt32}
    {go : UInt32 → BrokerConnection → BrokerConnection × List BrokerEffect}
    (silent : ∀ handle c, publishAcks (go handle c).2 = [])
    (kept : ∀ handle middle, middle.nextGen = c.nextGen → middle.bindings = c.bindings →
      (∀ other link, (channel,handle) ≠ (other,link) → middle.receiver other link = c.receiver other link) →
      (∀ r, middle.receiver channel handle = some r →
        attach.role = .sender ∧ r.handle = handle ∧ r.remoteHandle ≠ none ∧ r.credit.linkCredit = initialCredit) →
      Balanced config.initialCredit (go handle middle).1 awaiting none)
    (ok : c.mirror config channel remoteChannel attach initialCredit go = .ok result) :
    Settled config.initialCredit awaiting result := by
  unfold mirror at ok
  split at ok
  · cases ok
  rename_i present
  split at ok
  · cases ok
    exact balanced.quiet (endSessionWithError_quiet config c channel remoteChannel _)
  rename_i taken
  obtain ⟨_,_,made,gone,rfl⟩ := andThen_ok ok
  cases made
  cases gone
  obtain ⟨-,handle,_,-,rfl,same⟩ := Session.acceptPeerAttach_ok taken
  cases same
  rw [Settled,publishAcks_append,silent,append_nil]
  simp only [absorb,publishAcks_transport,append_nil]
  refine kept handle _ rfl rfl (fun other link apart => ?_) fun r there => ?_
  · refine (receiver_insert c channel _ other link).trans ?_
    split
    next same =>
      subst same
      have other : handle ≠ link := fun same => apart (by rw [same])
      rw [receiver_of_session present]
      simp [Session.receiver,Entries.getElem?_insert,other]
    · rfl
  · have inside := (receiver_insert c channel _ channel handle).symm.trans there
    rw [if_pos rfl,Session.receiver_eq_some,Entries.getElem?_insert,if_pos rfl,some.injEq] at inside
    exact receiver_mirrorLink _ _ _ _ _ _ inside

lemma acceptAttach_balanced (balanced : Balanced config.initialCredit c awaiting none)
    (ok : c.acceptAttach config env channel remoteChannel attach = .ok result) :
    Settled config.initialCredit awaiting result := by
  have refused : ∀ condition description, c.refuseAttach config channel attach condition description = .ok result →
      Settled config.initialCredit awaiting result := fun condition description ok =>
    balanced.quiet (refuseAttach_quietly config c channel attach condition description result ok)
  have elsewhere : ∀ {middle : BrokerConnection} {handle : UInt32}, middle.bindings = c.bindings →
      ∀ b other link, (channel,handle) ≠ (other,link) → (middle.bind channel handle b).produces other link = c.produces other link := by
    intro middle handle bindings b other link apart
    have different : ¬ (channel = other ∧ handle = link) := fun ⟨first,second⟩ => apart (by rw [first,second])
    simp only [produces,binding_bind,if_neg different]
    rw [binding,bindings]
    rfl
  unfold acceptAttach at ok
  split at ok
  · split at ok
    · refine mirror_balanced config balanced (fun _ _ => rfl) (fun handle middle gens bindings others own => ?_) ok
      refine balanced.add channel handle gens.ge (fun other link apart => ⟨elsewhere bindings _ other link apart,others other link apart⟩)
        (fun r there => ⟨(own r there).2.1,(own r there).2.2.1⟩) fun epoch acked here => ?_
      simp [bindCoordinator,produces,binding_bind] at here
    · exact refused _ _ ok
  split at ok
  · exact refused _ _ ok
  split at ok
  · split at ok
    · exact refused _ _ ok
    split at ok
    · refine mirror_balanced config balanced (fun _ _ => rfl) (fun handle middle gens bindings others own => ?_) ok
      have later : c.nextGen < middle.nextGen + 1 := gens ▸ Nat.lt_succ_self _
      refine balanced.add channel handle later.le
        (fun other link apart => ⟨elsewhere bindings _ other link apart,others other link apart⟩)
        (fun r there => ⟨(own r there).2.1,(own r there).2.2.1⟩) fun epoch acked here => .inr ?_
      have bound := (produces_bind {middle with nextGen := middle.nextGen + 1} channel handle _ middle.nextGen 0 channel handle).symm.trans here
      rw [if_pos ⟨rfl,rfl⟩] at bound
      cases bound
      exact ⟨gens,rfl,later,fun r there => (own r there).2.2.2⟩
    next role =>
      refine mirror_balanced config balanced (fun _ _ => rfl) (fun handle middle gens bindings others own => ?_) ok
      have bare : middle.receiver channel handle = none := by
        by_contra there
        obtain ⟨r,there⟩ := ne_none_iff_exists'.mp there
        rw [(own r there).1] at role
        cases role
      have same : ∀ other link, middle.produces other link = c.produces other link := fun other link => by
        rw [produces,binding,bindings]
        rfl
      refine balanced.add channel handle (gens ▸ Nat.le_succ _)
        (fun other link apart => ⟨same other link,others other link apart⟩) (fun r there => ⟨(own r there).2.1,(own r there).2.2.1⟩)
        fun epoch acked here => .inl ⟨(same _ _).symm.trans here,bare⟩
  · exact refused _ _ ok

lemma linkEvents_eq_offered (effects : List Effect) : linkEvents effects = (offered effects).map Prod.snd := by
  rw [linkEvents,offered,map_filterMap]
  refine filterMap_congr fun effect _ => ?_
  cases effect <;> rfl

lemma receive_event {after : ReceiverLink} {event : LinkEvent} {exceeded : Bool}
    (received : r.receive t payload = .ok (after,some event,exceeded)) : t.more = false ∧
      ∃ d, event = .delivery d ∧ d.handle = r.handle ∧ d.state = (r.started t (payload.getD [])).state := by
  unfold receive at received
  dsimp only at received
  split at received
  · cases received
  split at received
  · cases received
  split at received
  · cases received
  split at received
  · cases received
  rename_i last
  cases received
  exact ⟨by simpa using last,_,rfl,rfl,rfl⟩

lemma routeTransfer_balanced (balanced : Balanced config.initialCredit c awaiting none)
    (permitted : ∀ session handle r queue epoch acked, c.sessions[channel]? = some session →
      session.remoteHandles t.handle = some handle → session.receiver handle = some r →
      c.binding channel handle = some (.producer queue epoch acked) → t.aborted = false ∧ (t.more = false →
        0 < r.credit.linkCredit ∧ (env.stopped queue = true →
          ((r.started t (payload.getD [])).state.bind config.codec.txnState).isSome)))
    (ok : c.routeLinkFrame config env channel ⟨remoteChannel,.transfer t,payload⟩ = .ok result) :
    Settled config.initialCredit awaiting result := by
  unfold routeLinkFrame at ok
  split at ok
  · cases ok
  rename_i session present
  split at ok
  · cases ok
  rename_i after effects handled
  have quietly : session.Steady after (fun handle => c.produces channel handle = none) →
      (∀ d, .delivery d ∈ linkEvents effects → c.produces channel d.handle = none) →
      Settled config.initialCredit awaiting result := by
    intro steady idle
    have calm := (Calm.session present steady).absorb config effects
    refine balanced.quiet (calm.quietly.andThen (fun middle calmer => ?_) result ok)
    exact drainLinkEvents_quietly config env _ (calmer.bound balanced.bound) fun d there => calmer.idle (idle d there)
  rw [linkEvents_eq_offered] at ok quietly
  cases Session.onTransfer_transferred handled with
  | ignored missed links silent =>
    refine quietly (fun handle r there => ?_) (by simp [silent])
    rw [Session.receiver,links] at there
    exact ⟨r,there,rfl,rfl,.inl rfl⟩
  | refused handle r error routed here links emitted =>
    refine quietly (fun link r there => ?_) (by simp [emitted])
    rw [Session.receiver,links] at there
    split_ifs at there
    exact ⟨r,there,rfl,rfl,.inl rfl⟩
  | taken handle r new event routed here received links emitted frames =>
    have known := Session.receiver_eq_some.mpr here
    obtain ⟨own,remote⟩ := balanced.bound channel handle r ((receiver_of_session present handle).trans known)
    have card := congrArg LinkCard.remoteHandle (Session.receive_card received)
    have label := (receive_cases received).1
    have credited := receive_credit received
    have others : ∀ link, after.receiver link = if handle = link then some new else session.receiver link := by
      intro link
      rw [Session.receiver,links,Entries.getElem?_insert]
      by_cases same : handle = link
      · simp [same]
      · simp [same,Session.receiver]
    have steady : (new.credit = r.credit ∨ c.produces channel handle = none) →
        session.Steady after (fun handle => c.produces channel handle = none) := by
      intro credit link next there
      rw [others] at there
      split at there
      next same =>
        subst same
        cases there
        exact ⟨r,known,label,card,credit⟩
      · exact ⟨next,there,rfl,rfl,.inl rfl⟩
    cases found : c.produces channel handle with
    | none =>
      refine quietly (steady (.inr found)) fun d there => ?_
      rw [emitted] at there
      cases event with
      | none => cases there
      | some =>
        obtain ⟨-,_,rfl,at_,-⟩ := receive_event received
        cases mem_singleton.mp there
        rw [at_,own]
        exact found
    | some entry =>
      obtain ⟨queue,epoch,acked,bound⟩ : ∃ queue epoch acked, c.binding channel handle = some (.producer queue epoch acked) := by
        unfold produces at found
        split at found
        · exact ⟨_,_,_,by assumption⟩
        · cases found
      obtain ⟨whole,complete⟩ := permitted session handle r queue epoch acked present routed known bound
      cases event with
      | none => exact quietly (steady (.inl (by simpa [whole] using credited))) (by simp [emitted])
      | some =>
        obtain ⟨last,d,rfl,at_,state⟩ := receive_event received
        obtain ⟨positive,running⟩ := complete last
        have spent : new.credit.linkCredit.toNat + 1 = r.credit.linkCredit.toNat := by
          rw [credited]
          simp only [isSome_some,or_true,if_true,LinkCredit.recordReceived]
          exact toNat_saturatingSub_one (UInt32.le_iff_toNat_le.mpr (UInt32.lt_iff_toNat_lt.mp positive))
        obtain ⟨_,_,made,drained,rfl⟩ := andThen_ok ok
        cases made
        rw [emitted] at drained
        obtain ⟨_,_,published,done,rfl⟩ := andThen_ok drained
        cases done
        have taken := balanced.take present known others label card spent
        have same : d.handle = handle := at_.trans own
        rw [← same] at taken bound
        rw [Settled,publishAcks_append,publishAcks_append]
        simp only [absorb,publishAcks_transport,nil_append]
        have heard : Balanced config.initialCredit
            (absorb config {c with sessions := c.sessions.insert channel after} effects).1 awaiting (some (channel,d.handle)) :=
          taken.calm (.same rfl rfl le_rfl)
        have done := handleDelivery_balanced config heard bound (fun halted => state ▸ running halted) published
        simpa [Settled,publishAcks] using done

lemma routeLinkFrame_quietly (bound : c.Bound) (other : ∀ t, frame.performative ≠ .transfer t) :
    c.Quietly (c.routeLinkFrame config env channel frame) := by
  obtain ⟨remoteChannel,performative,payload⟩ := frame
  unfold routeLinkFrame
  split
  · exact quietly_error _
  rename_i session present
  split
  · exact quietly_error _
  rename_i after effects handled
  have reacted : session.react config.maxFrameSize (.frame .respond env.order ⟨remoteChannel,performative,payload⟩) =
      .ok (after,effects) := by
    cases performative <;> exact handled
  have steady : session.Steady after (fun handle => c.produces channel handle = none) := by
    refine (Session.react_moved reacted).steady ?_ (bound.remote present) fun handle changed => ?_
    · cases performative <;> rfl
    rcases changed with ⟨_,absurd⟩ | ⟨_,absurd,-⟩ | ⟨_,_,_,t,_,same⟩
    · cases absurd
    · cases absurd
    · cases same
      exact absurd rfl (other t)
  refine ((Calm.session present steady).absorb config effects).quietly.andThen fun middle calm => ?_
  refine drainLinkEvents_quietly config env _ (calm.bound bound) fun d there => ?_
  rw [linkEvents_eq_offered] at there
  obtain ⟨entry,member,same⟩ := mem_map.mp there
  cases Session.react_offers reacted with
  | senders all => exact absurd same ((all entry member).1 d)
  | taken policy order number t body frame =>
    cases frame
    exact absurd rfl (other t)
  | leaves handle link error here gone emitted =>
    rw [emitted] at member
    cases mem_singleton.mp member
    cases same

def producerOf (c : BrokerConnection) (remoteChannel : UInt16) (link : UInt32) : Option (ReceiverLink × QueueHandle) := do
  let channel ← c.remoteChannels remoteChannel
  let session ← c.sessions[channel]?
  let handle ← session.remoteHandles link
  let r ← session.receiver handle
  match c.binding channel handle with
  | some (.producer queue _ _) => some (r,queue)
  | _ => none

/-- No producer aborts a delivery or completes one without credit, and none publishes to a stopped queue outside a
transaction. -/
def permits (c : BrokerConnection) : Label → Bool
  | .frame env ⟨remoteChannel,.transfer t,payload⟩ => match c.producerOf remoteChannel t.handle with
    | none => true
    | some (r,queue) => !t.aborted && (t.more || (0 < r.credit.linkCredit && (!env.stopped queue ||
        ((r.started t (payload.getD [])).state.bind config.codec.txnState).isSome)))
  | _ => true

lemma resolveActive_ok {go : UInt16 → Reaction}
    (ok : (match c.resolveActive remoteChannel with
      | .error fault => .error fault
      | .ok none => .ok (c,[])
      | .ok (some channel) => go channel : Reaction) = .ok result) :
    result = (c,[]) ∨ ∃ channel, c.remoteChannels remoteChannel = some channel ∧ go channel = .ok result := by
  unfold resolveActive at ok
  cases mapped : c.remoteChannels remoteChannel with
  | some channel =>
    simp only [mapped] at ok
    exact .inr ⟨channel,rfl,ok⟩
  | none =>
    simp only [mapped] at ok
    split_ifs at ok
    cases ok
    exact .inl rfl

lemma handleFrame_balanced (balanced : Balanced config.initialCredit c awaiting none)
    (permitted : c.permits config (.frame env frame)) (ok : c.handleFrame config env frame = some (.ok result)) :
    Settled config.initialCredit awaiting result := by
  obtain ⟨remoteChannel,performative,payload⟩ := frame
  have routed : ∀ {channel : UInt16}, (∀ t, performative ≠ .transfer t) →
      c.routeLinkFrame config env channel ⟨remoteChannel,performative,payload⟩ = .ok result →
      Settled config.initialCredit awaiting result := fun other ok =>
    balanced.quiet (routeLinkFrame_quietly config balanced.bound other result ok)
  have ignored : result = (c,[]) → Settled config.initialCredit awaiting result := by
    rintro rfl
    exact balanced.quiet (.refl c)
  cases performative with
  | open_ | close => cases ok
  | begin_ body => exact balanced.quiet (acceptBegin_quietly config c remoteChannel body result (some.inj ok))
  | end_ =>
    cases ok
    exact balanced.quiet (handleEnd_quiet config c remoteChannel)
  | attach =>
    obtain same | ⟨channel,-,ok⟩ := resolveActive_ok (some.inj ok)
    · exact ignored same
    unfold routeAttach at ok
    split at ok
    · cases ok
    split at ok
    · exact routed (fun _ absurd => by cases absurd) ok
    · exact acceptAttach_balanced config balanced ok
  | transfer t =>
    obtain same | ⟨channel,mapped,ok⟩ := resolveActive_ok (some.inj ok)
    · exact ignored same
    refine routeTransfer_balanced config balanced (fun session handle r queue epoch acked present here known bound => ?_) ok
    have producer : c.producerOf remoteChannel t.handle = some (r,queue) := by
      simp [producerOf,mapped,present,here,known,bound]
    simp only [permits,producer,Bool.and_eq_true,Bool.or_eq_true,Bool.not_eq_true',decide_eq_true_eq] at permitted
    refine ⟨permitted.1,fun last => ?_⟩
    obtain ⟨positive,running⟩ := permitted.2.resolve_left (by simp [last])
    exact ⟨positive,fun halted => running.resolve_left (by simp [halted])⟩
  | flow | disposition | detach =>
    obtain same | ⟨channel,-,ok⟩ := resolveActive_ok (some.inj ok)
    · exact ignored same
    · exact routed (fun _ absurd => by cases absurd) ok

end Steps

end BrokerConnection

structure Publishing where
  conn : BrokerConnection
  awaiting : List PublishAck := []

/-- What a producer link may still send, what it was acknowledged and not granted again, how many of its publishes
await an answer, and whether a delivery is partially received. -/
structure ProducerAccount where
  credit : Nat
  acked : Nat
  awaiting : Nat
  unfinished : Nat
  deriving DecidableEq

def ProducerAccount.total (a : ProducerAccount) : Nat := a.credit + a.acked + a.awaiting + a.unfinished

namespace Publishing

open BrokerConnection

variable (config : BrokerConfig)

/-- The answers still owed once a label is taken up: a queue answers a publish it was sent, and once. -/
def answer (m : Publishing) : Label → Option (List PublishAck)
  | .command (.settleIncoming channel handle bindingGen deliveryId _) =>
    let ack : PublishAck := ⟨.connection m.conn.id,channel,handle,bindingGen,deliveryId⟩
    if ack ∈ m.awaiting then some (m.awaiting.erase ack) else none
  | _ => some m.awaiting

def step (m : Publishing) (label : Label) : Option Publishing :=
  (m.answer label).bind fun awaiting => (m.conn.step config label).map fun (conn,effects) =>
    ⟨conn,awaiting ++ publishAcks effects⟩

def account (m : Publishing) (channel : UInt16) (handle : UInt32) : Option ProducerAccount :=
  match m.conn.produces channel handle,m.conn.receiver channel handle with
  | some (epoch,acked),some r => some ⟨r.credit.linkCredit.toNat,acked.toNat,owing m.awaiting channel handle epoch,
      if r.assembling.isSome then 1 else 0⟩
  | _,_ => none

lemma step_balanced {m next : Publishing} {label : Label}
    (balanced : Balanced config.initialCredit m.conn m.awaiting none) (permitted : m.conn.permits config label)
    (ok : m.step config label = some next) : Balanced config.initialCredit next.conn next.awaiting none := by
  obtain ⟨awaiting,answered,rest⟩ := bind_eq_some_iff.mp ok
  obtain ⟨result,stepped,rfl⟩ := map_eq_some_iff.mp rest
  cases label with
  | frame =>
    cases answered
    simp only [BrokerConnection.step] at stepped
    split at stepped
    · cases stepped
    obtain ⟨reaction,handled,taken⟩ := bind_eq_some_iff.mp stepped
    cases reaction with
    | error => cases taken
    | ok =>
      cases taken
      exact handleFrame_balanced config balanced permitted handled
  | subscribed sub =>
    cases answered
    obtain ⟨s,-,rfl⟩ := map_eq_some_iff.mp stepped
    exact balanced.quiet (subscribed_quiet config m.conn s sub)
  | command cmd =>
    simp only [BrokerConnection.step] at stepped
    split at stepped
    · cases stepped
    have handled : m.conn.handleCmd config cmd = .ok result := by
      cases taken : m.conn.handleCmd config cmd <;> simp_all [Except.toOption]
    cases cmd with
    | deliver channel handle bindingGen msgId body =>
      cases answered
      exact balanced.quiet (handleDeliver_quietly config balanced.bound channel handle bindingGen msgId body result handled)
    | settleIncoming channel handle bindingGen deliveryId accepted =>
      simp only [answer] at answered
      split at answered
      next member =>
        cases answered
        exact handleSettleIncoming_balanced config balanced member accepted handled
      · cases answered
  | settle =>
    cases answered
    simp only [BrokerConnection.step] at stepped
    split at stepped
    · cases stepped
    obtain ⟨s,-,taken⟩ := bind_eq_some_iff.mp stepped
    split at taken
    · cases taken
      exact balanced.quiet ((forwardSettlement_quiet _ s).after (.same rfl rfl le_rfl))
    · cases taken
  | report place outcome =>
    cases answered
    simp only [BrokerConnection.step] at stepped
    split at stepped
    · cases stepped
    obtain ⟨done,-,taken⟩ := bind_eq_some_iff.mp stepped
    have erased : m.conn.Calm {m.conn with txnResults := m.conn.txnResults.eraseIdx place} := .same rfl rfl le_rfl
    refine balanced.quiet ((reportTxnDone_quietly config (erased.bound balanced.bound) done outcome result ?_).after erased)
    generalize reportTxnDone config _ done outcome = reaction at taken
    cases reaction with
    | error => cases taken
    | ok =>
      cases taken
      rfl

lemma opened_balanced (id : Nat) (channelMax : UInt16) : Balanced config.initialCredit (opened id channelMax) [] none where
  even _ _ _ _ _ bound := by simp [produces,binding,opened] at bound
  bound _ _ _ there := by simp [receiver,opened] at there
  issued _ _ _ _ bound := by simp [produces,binding,opened] at bound
  owed := forall_mem_nil _

/-- In a run in which no producer aborts a delivery or exceeds its credit, and none publishes to a stopped queue
outside a transaction, the credit of a producer link is at its peer, acknowledged or awaited. A delivery that is
partially received has not used its credit yet. -/
theorem producer_credit_conserved (id : Nat) (channelMax : UInt16) (labels : List Label) {m : Publishing}
    (permitted : Transition.Meets (step config) (fun m label => m.conn.permits config label) ⟨opened id channelMax,[]⟩ labels)
    (ok : Transition.run (step config) ⟨opened id channelMax,[]⟩ labels = some m) {channel : UInt16}
    {handle : UInt32} {a : ProducerAccount} (bound : m.account channel handle = some a) :
    a.credit + a.acked + a.awaiting = config.initialCredit.toNat ∧
    (a.total = config.initialCredit.toNat ↔ a.unfinished = 0) := by
  have balanced : Balanced config.initialCredit m.conn m.awaiting none :=
    run_invariant (P := fun m => Balanced config.initialCredit m.conn m.awaiting none) (step_balanced config)
      (opened_balanced config id channelMax) permitted ok
  unfold account at bound
  split at bound
  next epoch acked r here there =>
    cases bound
    have even := balanced.even channel handle epoch acked r here there
    simp only [reduceCtorEq,if_false,Nat.add_zero] at even
    refine ⟨even,?_⟩
    simp only [ProducerAccount.total,even]
    omega
  · cases bound

def narrowConfig : BrokerConfig where
  codec := ⟨fun _ => none,fun _ => none,fun _ => .accepted,fun _ _ => .accepted⟩
  session := ⟨100,100,8⟩
  initialCredit := 2
  maxMessageSize := none
  maxFrameSize := 512

def ordersQueue : QueueHandle := ⟨.transient,"orders"⟩

def producerFrame (stopped : Bool) (performative : Performative) (payload : Option Bytes := none) : Label :=
  .frame ⟨true,some ordersQueue,fun _ => stopped,.byKey,.asPushed⟩ ⟨0,performative,payload⟩

def attachedProducer : List Label :=
  [producerFrame false (.begin_ ⟨none,0,100,100,8⟩),
   producerFrame false (.attach {name := "p",handle := 0,role := .sender,target := some (.target (some "orders"))})]

def answeredOnce : List Label := attachedProducer ++
  [producerFrame false (.transfer {handle := 0,deliveryId := some 0}) (some [1]),
   producerFrame false (.transfer {handle := 0,deliveryId := some 1}) (some [2]),
   .command (.settleIncoming 0 0 0 0 true),
   producerFrame false (.transfer {handle := 0,deliveryId := some 2,more := true}) (some [3])]

theorem producer_credit_conserved_answered : ∃ m, Transition.run (step narrowConfig) ⟨opened 1 8,[]⟩ answeredOnce = some m ∧
    m.account 0 0 = some ⟨1,0,1,1⟩ ∧ 1 + 0 + 1 = narrowConfig.initialCredit.toNat := by
  refine reaches_and (by decide +kernel) fun m ok account => ?_
  refine (producer_credit_conserved narrowConfig 1 8 answeredOnce ?_ ok account).1
  apply meets_of_check
  decide +kernel

def abortedTransfer : Label := producerFrame false (.transfer {handle := 0,deliveryId := some 0,aborted := true})

def stoppedPublish : Label := producerFrame true (.transfer {handle := 0,deliveryId := some 0,settled := some true}) (some [1])

/-- Aborted deliveries use up the credit of a producer link, as do settled publishes to a stopped queue, and nothing
brings it back: no answer is awaited. -/
theorem producer_credit_lost :
    (∃ m, Transition.run (step narrowConfig) ⟨opened 1 8,[]⟩ (attachedProducer ++ [abortedTransfer,abortedTransfer]) = some m ∧
      m.account 0 0 = some ⟨0,0,0,0⟩) ∧
    ∃ m, Transition.run (step narrowConfig) ⟨opened 1 8,[]⟩ (attachedProducer ++ [stoppedPublish,stoppedPublish]) = some m ∧
      m.account 0 0 = some ⟨0,0,0,0⟩ := by
  constructor
  · apply reaches_of_any
    decide +kernel
  · apply reaches_of_any
    decide +kernel

end Publishing

end Ramqp
