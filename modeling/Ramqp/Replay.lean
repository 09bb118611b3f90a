import Ramqp.Mapping

/-! Awaited sends across reconnects. While no real number is given out again with its owner left,
an awaited send is only ever handed to a real link that was attached for its own logical link,
and it is resolved once. -/
namespace Ramqp

open Std List Option Function Transition Std.ExtTreeMap Client Supervised

namespace Supervised

variable {s next : Supervised} {resume : Resume} {vchan : UInt16} {c : Client}

variable {target : OpenTarget} {vhandle : UInt32} {channel : UInt16} {n : Reply} {label : SupervisedStep}

/-- A send whose link existed, with reconnecting not given up, did not fail for the connection. -/
def Kept (s : Supervised) : Prop :=
  ∀ outcome ∈ s.outcomes, ∀ failure, outcome.result = .error failure →
    failure.kind = .notConnected ∨ failure.kind = .cancelled → outcome.live = false

lemma Kept.resolve (kept : s.Kept) {request : ReplayReq} {result : Except Failure DeliveryState}
    (fine : ∀ failure, result = .error failure → failure.kind = .notConnected ∨ failure.kind = .cancelled →
      s.knows request.vchan request.vhandle = false) : (s.resolve request result).Kept := by
  unfold Supervised.resolve
  split
  · exact kept
  intro outcome member failure failed lost
  rcases mem_append.mp member with old | new
  · exact kept outcome old failure failed lost
  · cases mem_singleton.mp new
    simp [fine failure failed lost]

structure Core where
  client : Option Client
  relays : ChannelRef → Option (UInt16 × UInt32)
  sessionRelays : ChannelRef → Option UInt16
  spare : Nat
  sessions : Map UInt16 LogicalSession
  inner : Bool
  task : SupervisorTask

def core (s : Supervised) : Core :=
  ⟨s.client,s.relays,s.sessionRelays,s.spare,s.sessions,s.inner,s.task⟩

structure Steady (s : Supervised) : Prop where
  wired : s.Wired
  kept : s.Kept
  mapped : ∀ pending, s.task.pending = some pending → s.Mapped pending
  opening : ∀ vchan await resume, s.task = .opening (.session vchan) await resume →
    s.sessionRelays await = some vchan
  attaching : ∀ vchan vhandle await resume, s.task = .opening (.link vchan vhandle) await resume →
    ∃ session rc, s.sessions[vchan]? = some session ∧ session.real = some rc ∧
      s.relays await = some (vchan,vhandle) ∧ ∀ c, s.client = some c → c.attaches.lookup await = some rc
  parted : s.task = .establishing → s.client = none

lemma Steady.same (steady : s.Steady) (core : next.core = s.core)
    (proxies : ∀ proxy ∈ next.proxies, proxy ∈ s.proxies) (kept : next.Kept) : next.Steady := by
  simp only [Supervised.core,Core.mk.injEq] at core
  obtain ⟨client,relays,sessionRelays,spare,sessions,inner,task⟩ := core
  refine ⟨steady.wired.fewer client relays sessionRelays spare proxies,kept,?_,?_,?_,?_⟩
  · intro pending found
    rw [task] at found
    exact (steady.mapped pending found).follow (.same relays sessionRelays client) sessions inner
  · rw [task,sessionRelays]
    exact steady.opening
  · rw [task,sessions,relays,client]
    exact steady.attaching
  · rw [task,client]
    exact steady.parted

lemma Steady.idle (wired : s.Wired) (kept : s.Kept) (mapped : s.Mapped []) (task : s.task = .idle) : s.Steady := by
  refine ⟨wired,kept,?_,?_,?_,?_⟩
  · intro pending found
    rw [task] at found
    cases found
    exact mapped
  · intro vchan await resume same
    rw [task] at same
    cases same
  · intro vchan vhandle await resume same
    rw [task] at same
    cases same
  · intro same
    rw [task] at same
    cases same

lemma Steady.down (wired : s.Wired) (kept : s.Kept)
    (task : s.task = .stopped ∨ s.task = .establishing ∧ s.client = none) : s.Steady := by
  refine ⟨wired,kept,?_,?_,?_,?_⟩
  · intro pending found
    rcases task with same | ⟨same,-⟩ <;> rw [same] at found <;> cases found
  · intro vchan await resume equal
    rcases task with same | ⟨same,-⟩ <;> rw [same] at equal <;> cases equal
  · intro vchan vhandle await resume equal
    rcases task with same | ⟨same,-⟩ <;> rw [same] at equal <;> cases equal
  intro equal
  rcases task with same | ⟨-,gone⟩
  · rw [same] at equal
    cases equal
  · exact gone

lemma lose_client (s : Supervised) : s.lose.client = none := by
  unfold lose
  split
  next gone =>
    exact gone
  · rfl

lemma lose_outcomes (s : Supervised) : s.lose.outcomes = s.outcomes := by
  unfold lose
  split <;> rfl

lemma Mapped.lose {pending : List OpenTarget} (mapped : s.Mapped pending) : s.lose.Mapped pending := by
  have same : Extends s s.lose := by
    refine ⟨?_,?_,fun after present => by rw [lose_client] at present; cases present⟩
    · unfold Supervised.lose
      split <;> exact fun _ _ found => found
    · unfold Supervised.lose
      split <;> exact fun _ _ found => found
  refine mapped.follow same ?_ ?_
  · unfold Supervised.lose
    split <;> rfl
  · unfold Supervised.lose
    split <;> rfl

lemma failed_steady (wired : s.Wired) (kept : s.Kept) (mapped : s.Mapped (target::resume.plan))
    (failure : Failure) : (s.failed target resume failure).Steady := by
  cases resume with
  | user =>
    have forgotten : (s.forgetTarget target).Mapped [] := mapped.forget fun other inside => mem_singleton.mp inside
    have left : (s.forgetTarget target).Wired ∧ (s.forgetTarget target).Kept := by
      cases target with
      | session => exact ⟨wired.fewer rfl rfl rfl rfl (fun _ => id),kept⟩
      | link =>
        simp only [forgetTarget]
        split
        · exact ⟨wired,kept⟩
        · exact ⟨wired.fewer rfl rfl rfl rfl (fun _ => id),kept⟩
    exact .idle (left.1.fewer rfl rfl rfl rfl (fun _ => id)) left.2
      (forgotten.follow (.same rfl rfl rfl) rfl rfl) rfl
  | replay =>
    refine .down (wired.lose.fewer rfl rfl rfl rfl (fun _ => id)) ?_ (.inr ⟨rfl,s.lose_client⟩)
    intro outcome member
    exact kept outcome (s.lose_outcomes ▸ member)

lemma openSession_steady (wired : s.Wired) (kept : s.Kept) (mapped : s.Mapped (.session vchan::resume.plan)) :
    (s.openSession vchan resume).Steady := by
  unfold openSession
  split
  · split
    · exact failed_steady wired kept mapped _
    next session found =>
      split
      · exact failed_steady wired kept mapped _
      rename_i c present
      let next : Supervised :=
        {s with
          client := some (c.issue .connection (.beginSession session.begin_ c.next c.next)),
          sessionRelays := update s.sessionRelays c.next (some vchan),
          task := .opening (.session vchan) c.next resume}
      have issues : Issues s next c .connection (.beginSession session.begin_ c.next c.next) :=
        ⟨present,⟨c.attaches,rfl⟩,fun _ _ => rfl,fun n apart => update_of_ne apart ..⟩
      have sound : (c.issue .connection (.beginSession session.begin_ c.next c.next)).Sound :=
        (wired.sound c present).issue trivial (.beginSession ..)
      have moved : next.Wired := wired.issue issues (fun after there => some.inj there ▸ sound)
        (fun _ member => .inl member) (by intro _ _ _ _ same; cases same)
      refine ⟨moved,kept,?_,?_,?_,by simp⟩
      · intro pending found
        cases found
        exact mapped.follow (issues.extends wired) rfl rfl
      · intro other await resume same
        cases same
        exact update_self ..
      · intro other vhandle await resume same
        cases same
  · exact failed_steady wired kept mapped _

lemma openLink_steady (wired : s.Wired) (kept : s.Kept) (mapped : s.Mapped (.link vchan vhandle::resume.plan)) :
    (s.openLink vchan vhandle resume).Steady := by
  unfold openLink
  split
  · split
    · exact failed_steady wired kept mapped _
    next session found =>
      split
      · exact failed_steady wired kept mapped _
      rename_i rc real
      split
      · exact failed_steady wired kept mapped _
      rename_i link linked
      split
      · exact failed_steady wired kept mapped _
      rename_i c present
      let next : Supervised :=
        {s with
          client := some ({c with attaches := (c.next,rc)::c.attaches}.issue (.session rc)
            (.attachLink rc.channel link.attach link.creditMode c.next c.next)),
          relays := update s.relays c.next (some (vchan,vhandle)),
          task := .opening (.link vchan vhandle) c.next resume}
      have issues : Issues s next c (.session rc)
          (.attachLink rc.channel link.attach link.creditMode c.next c.next) :=
        ⟨present,⟨_,rfl⟩,fun n apart => update_of_ne apart ..,fun _ _ => rfl⟩
      obtain ⟨first,-⟩ := pairwise_cons.mp mapped.order
      have open_ : OpenTarget.session vchan ∉ .link vchan vhandle::resume.plan := by
        simp only [mem_cons,reduceCtorEq,false_or]
        exact fun inside => first _ inside vchan vhandle rfl rfl
      obtain ⟨_,up⟩ := mapped.up vchan session found open_
      cases up.real.symm.trans real
      have sound : ({c with attaches := (c.next,rc)::c.attaches}.issue (.session rc)
          (.attachLink rc.channel link.attach link.creditMode c.next c.next) : Client).Sound :=
        call_sound (wired.sound c present) (if_pos (up.held c present))
      have moved : next.Wired := wired.issue issues (fun after there => some.inj there ▸ sound)
        (fun _ member => .inl member) (by intro _ _ _ _ same; cases same)
      refine ⟨moved,kept,?_,?_,?_,by simp⟩
      · intro pending same
        cases same
        exact mapped.follow (issues.extends wired) rfl rfl
      · intro other await resume same
        cases same
      intro other handle await resume same
      cases same
      refine ⟨session,rc,found,real,update_self ..,?_⟩
      intro after there
      cases there
      exact lookup_cons_self
  · exact failed_steady wired kept mapped _

lemma advance_steady {plan : List OpenTarget} (wired : s.Wired) (kept : s.Kept) (mapped : s.Mapped plan) :
    (s.advance plan).Steady := by
  cases plan with
  | nil =>
    exact .idle (wired.fewer rfl rfl rfl rfl (fun _ => id)) kept
      (mapped.follow (.same rfl rfl rfl) rfl rfl) rfl
  | cons target =>
    cases target with
    | session => exact openSession_steady wired kept mapped
    | link => exact openLink_steady wired kept mapped

lemma resumed_steady (wired : s.Wired) (kept : s.Kept) (mapped : s.Mapped resume.plan) (reply : Reply → Effect) :
    (s.resumed resume reply).Steady := by
  cases resume with
  | user =>
    exact .idle (wired.fewer rfl rfl rfl rfl (fun _ => id)) kept
      (mapped.follow (.same rfl rfl rfl) rfl rfl) rfl
  | replay => exact advance_steady wired kept mapped

structure Ready (s : Supervised) : Prop where
  wired : s.Wired
  kept : s.Kept
  mapped : s.Mapped []
  task : s.task = .idle

lemma Steady.ready (steady : s.Steady) (task : s.task = .idle) : s.Ready :=
  ⟨steady.wired,steady.kept,steady.mapped [] (by rw [task]; rfl),task⟩

section

variable (ready : s.Ready)

include ready

lemma Ready.steady : s.Steady := .idle ready.wired ready.kept ready.mapped ready.task

lemma Ready.forget (target : OpenTarget) : (s.forgetTarget target).Ready := by
  have mapped : (s.forgetTarget target).Mapped [] := ready.mapped.forget (forall_mem_nil _)
  cases target with
  | session =>
    exact ⟨ready.wired.fewer rfl rfl rfl rfl (fun _ => id),ready.kept,mapped,ready.task⟩
  | link =>
    revert mapped
    simp only [forgetTarget]
    split
    · exact fun _ => ready
    · exact fun mapped =>
        ⟨ready.wired.fewer rfl rfl rfl rfl (fun _ => id),ready.kept,mapped,ready.task⟩

lemma Ready.answer (effect : Effect) : (s.answer effect).Ready :=
  ⟨ready.wired.fewer rfl rfl rfl rfl (fun _ => id),ready.kept,
    ready.mapped.follow (.same rfl rfl rfl) rfl rfl,ready.task⟩

lemma Ready.pass {owner : Owner} (command : Reply → DriverCommand)
    (holds : ∀ c, s.client = some c → owner.Holds c.driver)
    (issued : ∀ attaches next n, Issued attaches next owner (command n))
    (other : ∀ n channel handle message, command n ≠ .sendTransfer channel handle message) (reply : Option Reply) :
    (s.pass owner command reply).Ready := by
  unfold Supervised.pass
  split
  · exact ready
  rename_i c present
  let next : Supervised :=
    {s with
      client := some (c.issue owner (command c.next)),
      passed := reply.toList.map (fun user => (c.next,user)) ++ s.passed}
  have issues : Issues s next c owner (command c.next) := ⟨present,⟨c.attaches,rfl⟩,fun _ _ => rfl,fun _ _ => rfl⟩
  have sound := (ready.wired.sound c present).issue (holds c present) (issued _ _ c.next)
  refine ⟨ready.wired.issue issues ?_ (fun _ member => .inl member) ?_,ready.kept,
    ready.mapped.follow (issues.extends ready.wired) rfl rfl,ready.task⟩
  · intro after there
    cases there
    exact sound
  · intro channel handle message _ same
    exact absurd same (other c.next channel handle message)

lemma Ready.release {sessions : SessionHandle → Bool} {links : LinkHandle → Bool}
    (keptSessions : ∀ vchan rc, (s.sessions[vchan]?.bind LogicalSession.real) = some rc →
      s.sessionRelays rc.events = some vchan → sessions rc = false)
    (keptLinks : ∀ vchan vhandle x, s.realIds vchan vhandle = some x → s.sessionRelays x.session = some vchan →
      s.relays x.events = some (vchan,vhandle) → links x = false) : (s.release sessions links).Ready := by
  unfold Supervised.release
  cases present : s.client with
  | none => exact ⟨ready.wired.fewer present.symm rfl rfl rfl (fun _ => id),ready.kept,
      ready.mapped.follow (.same rfl rfl present.symm) rfl rfl,ready.task⟩
  | some c =>
    have sound : ({c with sessions := c.sessions.filter (!sessions ·),links := c.links.filter (!links ·)} :
        Client).Sound := (ready.wired.sound c present).drop
      (fun _ held => (mem_filter.mp held).1) (fun _ held => (mem_filter.mp held).1)
    refine ⟨ready.wired.moved present rfl sound rfl (fun _ => id) rfl rfl rfl,ready.kept,?_,ready.task⟩
    refine ⟨ready.mapped.inner,.nil,by simp,?_⟩
    intro vchan session found open_
    obtain ⟨rc,up⟩ := ready.mapped.up vchan session found open_
    refine ⟨rc,up.real,up.relay,?_,?_⟩
    · intro after there
      cases there
      refine mem_filter.mpr ⟨up.held c present,?_⟩
      simp [keptSessions vchan rc (by simp [found,up.real]) up.relay]
    intro vhandle link linked outside
    obtain ⟨rl,real,relay,held⟩ := up.links vhandle link linked outside
    refine ⟨rl,real,relay,?_⟩
    intro after there
    cases there
    refine mem_filter.mpr ⟨held c present,?_⟩
    have ids : s.realIds vchan vhandle = some ⟨rc.channel,rc.events,rl.handle,rl.events⟩ := by
      simp [realIds,found,up.real,linked,real]
    simp [keptLinks vchan vhandle _ ids up.relay relay]

lemma Ready.holds_link {x : LinkHandle} (real : s.realIds vchan vhandle = some x)
    (present : s.client = some c) : (Owner.link x).Holds c.driver :=
  (ready.wired.sound c present).holds _ (mem_owners.mpr
    (.inr (.inr ⟨x,(ready.mapped.realIds_held real).2 c present,rfl⟩)))

lemma Ready.holds_session {rc : SessionHandle}
    (real : s.sessions[vchan]?.bind LogicalSession.real = some rc) :
    s.sessionRelays rc.events = some vchan ∧ ∀ c, s.client = some c → (Owner.session rc).Holds c.driver := by
  obtain ⟨session,found,same⟩ := bind_eq_some_iff.mp real
  obtain ⟨_,up⟩ := ready.mapped.up vchan session found not_mem_nil
  cases up.real.symm.trans same
  exact ⟨up.relay,fun c present => (ready.wired.sound c present).holds _
    (mem_owners.mpr (.inr (.inl ⟨rc,up.held c present,rfl⟩)))⟩

end

lemma pass_fields (s : Supervised) (owner : Owner) (command : Reply → DriverCommand) (reply : Option Reply) :
    (s.pass owner command reply).sessions = s.sessions ∧ (s.pass owner command reply).relays = s.relays ∧
    (s.pass owner command reply).sessionRelays = s.sessionRelays := by
  unfold pass
  split <;> exact ⟨rfl,rfl,rfl⟩

lemma endSession_ready (ready : s.Ready) (vchan : UInt16) (error : Option AmqpError) (reply : Reply) :
    (s.endSession vchan error reply).Ready := by
  have forgotten : ({s with sessions := s.sessions.erase vchan} : Supervised).Ready := ready.forget (.session vchan)
  unfold endSession
  simp only
  split
  next rc _ real =>
    obtain ⟨relay,holds⟩ := ready.holds_session real
    have passed := forgotten.pass (.endSession rc.channel error ·) holds
      (fun _ _ _ => .endSession ..) (by intro _ _ _ _ same; cases same) (some reply)
    obtain ⟨sessions,_,sessionRelays⟩ := pass_fields {s with sessions := s.sessions.erase vchan}
      (.session rc) (.endSession rc.channel error ·) (some reply)
    refine passed.release ?_ ?_
    · intro other found bound relayed
      have distinct : found ≠ rc := by
        rintro rfl
        rw [sessionRelays] at relayed
        cases relay.symm.trans relayed
        simp [sessions] at bound
      simpa using distinct
    intro other vhandle x bound relayed _
    have distinct : x.session ≠ rc.events := by
      intro same
      rw [sessionRelays,same] at relayed
      cases relay.symm.trans relayed
      simp [realIds,sessions] at bound
    simpa using distinct
  · exact forgotten.answer _

lemma forgetTarget_unknown (s : Supervised) (vchan : UInt16) (vhandle : UInt32) :
    (s.forgetTarget (.link vchan vhandle)).realIds vchan vhandle = none := by
  simp only [forgetTarget]
  split
  next absent =>
    simp [realIds,absent]
  rename_i session present
  simp only [realIds,getElem?_insert_self,getElem?_erase_self,bind_none]
  split
  next impossible =>
    cases impossible
  · rfl

section

variable (ready : s.Ready) (vchan : UInt16)

include ready

lemma detachLink_ready (vhandle : UInt32) (closed : Bool)
    (error : Option AmqpError) (reply : Reply) : (s.detachLink vchan vhandle closed error reply).Ready := by
  have forgotten := ready.forget (.link vchan vhandle)
  have unknown := s.forgetTarget_unknown vchan vhandle
  have fields : (s.forgetTarget (.link vchan vhandle)).client = s.client ∧
      (s.forgetTarget (.link vchan vhandle)).relays = s.relays := by
    simp only [forgetTarget]
    split <;> exact ⟨rfl,rfl⟩
  unfold detachLink
  simp only
  split
  next x _ real =>
    have relay := (ready.mapped.realIds_held real).1
    have passed := forgotten.pass (.detachLink x.channel x.handle closed error ·)
      (fun c present => ready.holds_link real (fields.1 ▸ present)) (fun _ _ _ => .detachLink ..)
      (by intro _ _ _ _ same; cases same) (some reply)
    obtain ⟨sessions,relays,-⟩ := pass_fields (s.forgetTarget (.link vchan vhandle)) (.link x)
      (.detachLink x.channel x.handle closed error ·) (some reply)
    refine passed.release (fun _ _ _ _ => rfl) ?_
    intro other handle found bound _ relayed
    have distinct : found ≠ x := by
      rintro rfl
      rw [relays,fields.2] at relayed
      cases relay.symm.trans relayed
      simp only [realIds,sessions] at bound unknown
      rw [unknown] at bound
      cases bound
    simpa using distinct
  · exact forgotten.answer _

lemma sendDisposition_ready (vhandle first : UInt32) (last : Option UInt32)
    (state : DeliveryState) (settled : Bool) (reply : Option Reply) :
    (s.sendDisposition vchan vhandle first last state settled reply).Ready := by
  unfold sendDisposition
  split
  next _ real =>
    exact ready.pass _ (fun c present => ready.holds_link real present) (fun _ _ _ => .sendDisposition ..)
      (by intro _ _ _ _ same; cases same) _
  split
  · exact ready.answer _
  · exact ready

lemma sendFlow_ready (flow : Flow) : (s.sendFlow vchan flow).Ready := by
  unfold sendFlow
  split
  next _ real =>
    split
    next found =>
      obtain ⟨_,-,ids⟩ := bind_eq_some_iff.mp found
      exact ready.pass _ (fun c present => ready.holds_link ids present) (fun _ _ _ => .sendFlow _ _ rfl)
        (by intro _ _ _ _ same; cases same) _
    · exact ready.pass _ (ready.holds_session real).2 (fun _ _ _ => .sessionFlow _ _ rfl)
        (by intro _ _ _ _ same; cases same) _
  · exact ready

lemma grantCredit_ready (vhandle credit : UInt32) : (s.grantCredit vchan vhandle credit).Ready := by
  unfold grantCredit
  split
  next _ real =>
    exact ready.pass _ (fun c present => ready.holds_link real present) (fun _ _ _ => .grantCredit ..)
      (by intro _ _ _ _ same; cases same) _
  · exact ready

lemma sendTransfer_ready (vhandle : UInt32) (message : PendingSend)
    (alive : (s.realIds vchan vhandle).isSome = true → s.client.isSome = true) :
    (s.sendTransfer vchan vhandle message).Ready := by
  unfold sendTransfer
  split
  next x _ real =>
    obtain ⟨relay,-⟩ := ready.mapped.realIds_held real
    split
    next gone =>
      rw [real,gone] at alive
      cases alive rfl
    rename_i c present
    have sound : ∀ message, (c.issue (.link x) (.sendTransfer x.channel x.handle message)).Sound := fun message =>
      (ready.wired.sound c present).issue (ready.holds_link real present) (.sendTransfer ..)
    have issues : ∀ (message : PendingSend) (next : Supervised),
        next.client = some (c.issue (.link x) (.sendTransfer x.channel x.handle message)) →
        next.relays = s.relays → next.sessionRelays = s.sessionRelays →
        Issues s next c (.link x) (.sendTransfer x.channel x.handle message) :=
      fun _ _ client relays sessionRelays => ⟨present,⟨c.attaches,client⟩,fun _ _ => relays ▸ rfl,
        fun _ _ => sessionRelays ▸ rfl⟩
    split
    next silent =>
      have handed := issues message
        {s with client := some (c.issue (.link x) (.sendTransfer x.channel x.handle message))} rfl rfl rfl
      refine ⟨ready.wired.issue handed (fun after there => some.inj there ▸ sound message)
        (fun _ member => .inl member) ?_,ready.kept,
        ready.mapped.follow (handed.extends ready.wired) rfl rfl,ready.task⟩
      intro channel handle sent reply same awaited
      cases same
      rw [silent] at awaited
      cases awaited
    let next : Supervised :=
      {s with
        client := some (c.issue (.link x)
          (.sendTransfer x.channel x.handle {message with reply := some c.next})),
        proxies := ⟨c.next,⟨vchan,vhandle,message⟩⟩::s.proxies}
    have handed := issues _ next rfl rfl rfl
    refine ⟨ready.wired.issue handed (fun after there => some.inj there ▸ sound _) ?_ ?_,ready.kept,
      ready.mapped.follow (handed.extends ready.wired) rfl rfl,ready.task⟩
    · intro proxy member
      rcases mem_cons.mp member with rfl | old
      · exact .inr ⟨rfl,x,rfl,relay⟩
      · exact .inl old
    intro channel handle sent reply same awaited
    cases same
    exact (some.inj awaited).symm
  next unrouted =>
    have unknown : s.knows vchan vhandle = false := by
      cases known : s.knows vchan vhandle with
      | false => rfl
      | true =>
        obtain ⟨x,real⟩ := isSome_iff_exists.mp (ready.mapped.realIds_isSome known)
        exact absurd real (unrouted x ready.mapped.inner)
    have kept : (s.resolve ⟨vchan,vhandle,message⟩ (.error connectionLost)).Kept :=
      ready.kept.resolve (fun _ _ _ => unknown)
    revert kept
    unfold resolve
    split
    · exact fun _ => ready
    · exact fun kept => ⟨ready.wired.fewer rfl rfl rfl rfl (fun _ => id),kept,
        ready.mapped.follow (.same rfl rfl rfl) rfl rfl,ready.task⟩

end

/-- A send of a link that is up finds the driver alive, and no logical number is given out twice. -/
def admits (s : Supervised) : DriverCommand → Bool
  | .sendTransfer vchan vhandle _ => s.client.isSome || (s.realIds vchan vhandle).isNone
  | .beginSession _ _ _ => s.nextVchan != 65535
  | .attachLink vchan _ _ _ _ => s.sessions[vchan]?.all (fun session => session.nextVhandle != 4294967295)
  | _ => true

/-- No real number is given out again while its former owner is left, a send reaches its session,
and the supervisor admits what it takes up. -/
def steady (s : Supervised) : SupervisedStep → Bool
  | .command => s.commands.head?.all (fun user => s.admits user.command)
  | .replay => s.replays.head?.all (fun request =>
      s.admits (.sendTransfer request.vchan request.vhandle request.message))
  | .process => s.client.all (fun c => c.afresh .process && c.reaches)
  | .frame order frame => s.client.all (fun c => c.afresh (.frame order frame))
  | _ => true

lemma handleCommand_steady (ready : s.Ready) (command : DriverCommand) (admitted : s.admits command = true) :
    (s.handleCommand command).Steady := by
  cases command with
  | beginSession =>
    refine openSession_steady ?_ ready.kept (ready.mapped.begun rfl _)
    exact ready.wired.fewer rfl rfl rfl rfl fun _ => id
  | attachLink =>
    simp only [handleCommand]
    split
    · exact (ready.answer _).steady
    rename_i present
    refine openLink_steady ?_ ready.kept (ready.mapped.attached present rfl rfl)
    exact ready.wired.fewer rfl rfl rfl rfl fun _ => id
  | endSession => exact (endSession_ready ready ..).steady
  | detachLink => exact (detachLink_ready ready ..).steady
  | sendTransfer vchan vhandle message =>
    refine (sendTransfer_ready ready vchan vhandle message ?_).steady
    intro real
    simpa [admits,isSome_iff_ne_none.mp real] using admitted
  | sendDisposition => exact (sendDisposition_ready ready ..).steady
  | sendFlow => exact (sendFlow_ready ready ..).steady
  | grantCredit => exact (grantCredit_ready ready ..).steady
  | closeConnection =>
    exact .down (ready.wired.fewer rfl rfl rfl rfl (fun _ => id)) ready.kept (.inl rfl)

section

variable (steady : s.Steady)

include steady

lemma Steady.orphan (n : Reply) : (s.orphan n).Steady := by
  unfold Supervised.orphan
  split
  · exact steady.same rfl (fun _ member => mem_of_mem_erase member) steady.kept
  · exact steady

lemma Steady.failed {await : Reply} (task : s.task = .opening target await resume)
    (failure : Failure) : (s.failed target resume failure).Steady :=
  failed_steady steady.wired steady.kept (steady.mapped _ (by rw [task]; rfl)) failure

lemma Steady.absorb {effect : Effect} (tame : effect.Tame channel .routine) :
    (s.absorb effect).Steady := by
  cases effect with
  | queue => exact steady.same rfl (fun _ => id) steady.kept
  | opened n result | attached n result =>
    cases result with
    | ok => exact tame.elim
    | error failure =>
      simp only [Supervised.absorb]
      split
      next task =>
        split
        · exact steady.failed task failure
        · exact steady
      · exact steady
  | sent n result =>
    simp only [Supervised.absorb]
    split
    next proxy _ =>
      have fewer : ({s with proxies := s.proxies.erase proxy} : Supervised).Steady :=
        steady.same rfl (fun _ member => mem_of_mem_erase member) steady.kept
      have kept : ({s with proxies := s.proxies.erase proxy}.resolve proxy.request result : Supervised).Kept := by
        refine fewer.kept.resolve ?_
        intro failure same lost
        subst same
        have detached : failure.kind = .detached := tame
        rw [detached] at lost
        rcases lost with same | same <;> cases same
      unfold resolve at kept ⊢
      split
      · exact fewer
      rename_i awaited
      rw [awaited] at kept
      exact fewer.same rfl (fun _ => id) kept
    · exact steady
  | done | event =>
    simp only [Supervised.absorb]
    split
    · exact steady.same rfl (fun _ => id) steady.kept
    · exact steady
  | dropped n =>
    simp only [Supervised.absorb]
    split
    next task =>
      split
      · exact steady.failed task _
      · exact steady.orphan n
    · exact steady.orphan n
  | sessionEnded => exact steady

lemma Steady.absorbAll {effects : List Effect} (tame : Tame channel .routine effects) :
    (effects.foldl Supervised.absorb s).Steady := by
  obtain ⟨all⟩ := tame
  induction effects generalizing s with
  | nil => exact steady
  | cons effect rest ih =>
    rw [forall_mem_cons] at all
    exact ih (steady.absorb all.1) all.2

lemma Steady.opened {opened : SessionOpened}
    (held : ∀ c, s.client = some c → ⟨opened.channel,n⟩ ∈ c.sessions) :
    (s.absorb (.opened n (.ok opened))).Steady := by
  simp only [Supervised.absorb]
  split
  next vchan await resume task =>
    split
    next same =>
      subst same
      have mapped : s.Mapped (.session vchan::resume.plan) := steady.mapped _ (by rw [task]; rfl)
      have up : (s.sessionOpened vchan ⟨opened.channel,n⟩).Mapped resume.plan :=
        mapped.opened (steady.opening vchan n resume task) held
      refine resumed_steady ?_ ?_ up _
      · unfold sessionOpened
        split
        · exact steady.wired
        · exact steady.wired.fewer rfl rfl rfl rfl fun _ => id
      · unfold sessionOpened
        split <;> exact steady.kept
    · exact steady
  · exact steady

lemma Steady.attached {attached : LinkAttached}
    (held : ∀ c, s.client = some c → ∀ rc, c.attaches.lookup n = some rc →
      ⟨rc.channel,rc.events,attached.handle,n⟩ ∈ c.links) : (s.absorb (.attached n (.ok attached))).Steady := by
  simp only [Supervised.absorb]
  split
  next vchan vhandle await resume task =>
    split
    next same =>
      subst same
      have mapped : s.Mapped (.link vchan vhandle::resume.plan) := steady.mapped _ (by rw [task]; rfl)
      obtain ⟨_,rc,present,real,relay,call⟩ := steady.attaching vchan vhandle n resume task
      have up : (s.linkAttached vchan vhandle ⟨attached.handle,n⟩).Mapped resume.plan := mapped.linked present
        real relay (fun c there => held c there rc (call c there))
      refine resumed_steady ?_ ?_ up _
      · unfold linkAttached
        split
        · exact steady.wired
        split
        · exact steady.wired
        · exact steady.wired.fewer rfl rfl rfl rfl fun _ => id
      unfold linkAttached
      split
      · exact steady.kept
      · split <;> exact steady.kept
    · exact steady
  · exact steady

lemma Steady.die : s.die.Steady := by
  have kept : s.lose.Kept := fun outcome member => steady.kept outcome (s.lose_outcomes ▸ member)
  have task : s.lose.task = s.task := by
    unfold lose
    split <;> rfl
  unfold Supervised.die
  split
  next opening =>
    exact failed_steady steady.wired.lose kept (steady.mapped _ (by rw [opening]; rfl)).lose _
  rename_i other
  cases now : s.task with
  | idle =>
    exact .idle steady.wired.lose kept (steady.mapped [] (by rw [now]; rfl)).lose (task.trans now)
  | opening target await resume => exact absurd now (other target await resume)
  | establishing => exact .down steady.wired.lose kept (.inr ⟨task.trans now,s.lose_client⟩)
  | stopped => exact .down steady.wired.lose kept (.inl (task.trans now))

lemma Steady.moved {after : Client} (present : s.client = some c) (sound : after.Sound)
    (later : after.next = c.next) (attaches : after.attaches = c.attaches)
    (commands : ∀ entry ∈ after.commands, entry ∈ c.commands) (sessions : ∀ x ∈ c.sessions, x ∈ after.sessions)
    (links : ∀ x ∈ c.links, x ∈ after.links) : ({s with client := some after} : Supervised).Steady := by
  refine ⟨steady.wired.moved present rfl sound later commands rfl rfl rfl,steady.kept,?_,steady.opening,?_,?_⟩
  · intro pending found
    refine (steady.mapped pending found).follow ⟨fun _ _ relay => relay,fun _ _ relay => relay,?_⟩ rfl rfl
    intro found there
    cases there
    exact ⟨c,present,sessions,links⟩
  · intro vchan vhandle await resume task
    obtain ⟨session,rc,there,real,relay,call⟩ := steady.attaching vchan vhandle await resume task
    refine ⟨session,rc,there,real,relay,?_⟩
    intro found same
    cases same
    rw [attaches]
    exact call c present
  · intro task
    cases (steady.parted task).symm.trans present

lemma Steady.process (present : s.client = some c) (fresh : c.afresh .process = true)
    (reaches : c.reaches = true) : (s.ran c.process).Steady := by
  cases ran : c.process with
  | none => exact steady.die
  | some result =>
    have sound := process_sound (steady.wired.sound c present) fresh ran
    obtain ⟨_,_,_,_,queue,moved,tame⟩ := process_routine reaches ran
    obtain ⟨_,_⟩ := result
    simp only at moved tame sound
    subst moved
    refine Steady.absorbAll ?_ tame
    refine steady.moved present sound rfl rfl ?_ (fun _ => id) fun _ => id
    intro other member
    rw [queue]
    exact mem_cons_of_mem _ member

lemma Steady.receive (present : s.client = some c) {order : IterOrder} {frame : Frame}
    (fresh : c.afresh (.frame order frame) = true) : (s.ran (c.receive order frame)).Steady := by
  cases ran : c.receive order frame with
  | none => exact steady.die
  | some result =>
    have sound := receive_sound (steady.wired.sound c present) fresh ran
    obtain ⟨driver,_,rest,_,split,moved,handing,tame⟩ := receive_handing .routine (fun _ => trivial) id ran
    obtain ⟨_,_⟩ := result
    simp only at moved split sound
    subst moved split
    simp only [Supervised.ran,foldl_append]
    refine Steady.absorbAll ?_ tame
    cases handing with
    | none => exact steady.moved present sound rfl rfl (fun _ => id) (fun _ => id) (fun _ => id)
    | opened reply opened =>
      refine Steady.opened (steady.moved present sound rfl rfl (fun _ => id)
        (fun _ held => mem_append_left _ held) (fun _ => id)) ?_
      intro found there
      cases there
      exact mem_append_right _ mem_cons_self
    | attached reply attached =>
      simp only [foldl_cons,foldl_nil] at sound ⊢
      have grown : ∀ x ∈ c.links,
          x ∈ (({c with driver} : Client).take (.attached reply (.ok attached))).links := by
        intro x held
        simp only [Client.take]
        split
        · exact mem_append_left _ held
        · exact held
      obtain ⟨later,attaches,commands,sessions⟩ : (({c with driver} : Client).take (.attached reply (.ok attached))).next = c.next ∧
          (({c with driver} : Client).take (.attached reply (.ok attached))).attaches = c.attaches ∧
          (({c with driver} : Client).take (.attached reply (.ok attached))).commands = c.commands ∧
          (({c with driver} : Client).take (.attached reply (.ok attached))).sessions = c.sessions := by
        simp only [Client.take]
        split <;> exact ⟨rfl,rfl,rfl,rfl⟩
      refine Steady.attached (steady.moved present sound later attaches (fun _ member => commands ▸ member)
        (fun _ held => by rw [sessions]; exact held) grown) ?_
      intro found there rc call
      cases there
      rw [attaches] at call
      simp only [Client.take,call]
      exact mem_append_right _ mem_cons_self

end

lemma topology_order (s : Supervised) : s.topology.Pairwise
    (fun a b => ∀ vchan vhandle, a = .link vchan vhandle → b ≠ .session vchan) := by
  unfold topology
  rw [pairwise_flatMap]
  constructor
  · intro entry _
    refine pairwise_cons.mpr ⟨by simp,?_⟩
    refine pairwise_map.mpr (pairwise_of_forall_mem_list ?_)
    intro _ _ _ _ _ _ _ same
    cases same
  have distinct := s.sessions.distinct_keys_toList
  refine distinct.imp ?_
  intro a b apart first inside second member vchan vhandle head tail
  subst head tail
  simp only [List.mem_cons,reduceCtorEq,List.mem_map,OpenTarget.link.injEq,false_or] at inside
  simp only [List.mem_cons,OpenTarget.session.injEq,List.mem_map,reduceCtorEq,and_false,exists_false,
    or_false] at member
  obtain ⟨_,-,same,-⟩ := inside
  exact apart (by simp [same,member])

lemma mem_topology {session : LogicalSession} (present : s.sessions[vchan]? = some session) :
    .session vchan ∈ s.topology ∧ ∀ (vhandle : UInt32) (link : LogicalLink),
      session.links[vhandle]? = some link → .link vchan vhandle ∈ s.topology := by
  have listed : (vchan,session) ∈ s.sessions.toList := by
    rw [mem_toList_iff_getElem?_eq_some]
    exact present
  unfold topology
  refine ⟨mem_flatMap.mpr ⟨_,listed,mem_cons_self⟩,?_⟩
  intro vhandle link found
  refine mem_flatMap.mpr ⟨_,listed,mem_cons_of_mem _ (mem_map.mpr ⟨(vhandle,link),?_,rfl⟩)⟩
  rw [mem_toList_iff_getElem?_eq_some]
  exact found

lemma establish_steady (steady : s.Steady) (task : s.task = .establishing) (maxFrameSize : Nat)
    (channelMax : UInt16) :
    ({s with
        client := some {Client.opened maxFrameSize channelMax with next := s.spare},
        inner := true,epoch := s.epoch + 1}.advance s.topology : Supervised).Steady := by
  have gone := steady.parted task
  have free : s.bound = s.spare := by simp [bound,gone]
  have wired := steady.wired
  refine advance_steady ⟨?_,?_,?_,?_,?_⟩ steady.kept ⟨rfl,s.topology_order,?_,?_⟩
  · intro c there
    cases there
    exact opened_sound ..
  · intro n target found
    exact free ▸ wired.relays n target found
  · intro n vchan found
    exact free ▸ wired.sessionRelays n vchan found
  · intro proxy member
    exact free ▸ wired.proxies proxy member
  · intro c there owner channel handle message reply member
    cases there
    cases member
  · intro vchan session present _
    exact (mem_topology present).2
  · intro vchan session present open_
    exact absurd (mem_topology present).1 open_

lemma Steady.request (steady : s.Steady) (command : DriverCommand) (settles : List Received) :
    (s.request command settles).Steady := steady.same rfl (fun _ => id) steady.kept

lemma step_steady (steady : s.Steady) (admitted : s.steady label = true) (ok : s.step label = some next) :
    next.Steady := by
  cases label with
  | recv =>
    simp only [step,recv] at ok
    split at ok
    · cases ok
    · cases ok
      exact steady.same rfl (fun _ => id) steady.kept
  | dispose =>
    simp only [step] at ok
    split at ok
    · cases ok
      exact steady.request ..
    · cases ok
  | acceptThrough | requeue | late =>
    simp only [step] at ok
    split at ok
    · cases ok
      exact steady.same rfl (fun _ => id) steady.kept
    · cases ok
  | command =>
    simp only [step] at ok
    split at ok
    next user rest task queue =>
      cases ok
      have taken : ({s with commands := rest} : Supervised).Steady :=
        steady.same rfl (fun _ => id) steady.kept
      have admitted : s.admits user.command = true := by simpa [Supervised.steady,queue] using admitted
      have same : ({s with commands := rest} : Supervised).admits user.command = s.admits user.command := by
        cases user.command <;> rfl
      exact handleCommand_steady (taken.ready task) user.command (same.trans admitted)
    · cases ok
  | replay =>
    simp only [step] at ok
    split at ok
    next request rest task queue =>
      cases ok
      have taken : ({s with replays := rest} : Supervised).Steady :=
        steady.same rfl (fun _ => id) steady.kept
      refine (sendTransfer_ready (taken.ready task) request.vchan request.vhandle request.message ?_).steady
      intro real
      have admitted : (s.client.isSome || (s.realIds request.vchan request.vhandle).isNone) = true := by
        simpa [Supervised.steady,queue,admits] using admitted
      have real : (s.realIds request.vchan request.vhandle).isSome = true := real
      simpa [isSome_iff_ne_none.mp real] using admitted
    · cases ok
  | driverDied =>
    simp only [step] at ok
    split at ok
    next gone =>
      split at ok
      · cases ok
        exact .down (steady.wired.fewer rfl rfl rfl rfl (fun _ => id)) steady.kept (.inr ⟨rfl,gone⟩)
      · cases ok
    · cases ok
  | establish maxFrameSize channelMax =>
    simp only [step] at ok
    split at ok
    next task =>
      cases ok
      exact establish_steady steady task maxFrameSize channelMax
    · cases ok
  | giveUp =>
    simp only [step] at ok
    split at ok
    · cases ok
      exact .down (steady.wired.fewer rfl rfl rfl rfl (fun _ => id)) steady.kept (.inl rfl)
    · cases ok
  | process =>
    simp only [step] at ok
    split at ok
    next present =>
      split at ok
      · cases ok
      cases ok
      simp only [Supervised.steady,present,all_some,Bool.and_eq_true] at admitted
      exact steady.process present admitted.1 admitted.2
    · cases ok
  | frame =>
    simp only [step] at ok
    split at ok
    next present =>
      cases ok
      simp only [Supervised.steady,present,all_some] at admitted
      exact steady.receive present admitted
    · cases ok
  | die =>
    cases ok
    exact steady.die
  | _ =>
    cases ok
    exact steady.request ..

lemma connected_steady (maxFrameSize : Nat) (channelMax : UInt16) : (connected maxFrameSize channelMax).Steady := by
  refine .idle ⟨?_,(by intro _ _ h; cases h),(by intro _ _ h; cases h),forall_mem_nil _,?_⟩
    (forall_mem_nil _) ⟨rfl,.nil,by simp,?_⟩ rfl
  · intro c there
    cases there
    exact opened_sound maxFrameSize channelMax 0
  · intro c there owner channel handle message reply member
    cases there
    cases member
  · intro vchan session present
    simp [connected] at present

structure Once (s : Supervised) : Prop where
  unique : ∀ token, s.uses token ≤ 1
  old : ∀ token, 0 < s.uses token → token < s.next

lemma Once.follow (once : s.Once) (conserves : Conserves s next) : next.Once := by
  refine ⟨fun token => (conserves.uses token).trans (once.unique token),?_⟩
  intro token used
  rw [conserves.next]
  exact once.old token (Nat.lt_of_lt_of_le used (conserves.uses token))

lemma Once.request (once : s.Once) {command : DriverCommand} (settles : List Received)
    (fresh : ∀ token, command.token = some token → token = s.next) : (s.request command settles).Once := by
  have grown : ∀ token, (s.request command settles).uses token =
      s.uses token + command.token.toList.count token := by
    intro token
    have listed : filterMap (fun user : UserCommand => user.command.token) [⟨command,settles⟩] =
        command.token.toList := by
      cases awaited : command.token <;> simp [awaited]
    simp only [Supervised.request,uses,filterMap_append,count_append,listed]
    omega
  have unused : s.uses s.next = 0 := by
    by_contra used
    exact absurd (once.old s.next (Nat.pos_of_ne_zero used)) (Nat.lt_irrefl _)
  constructor
  · intro token
    rw [grown]
    have before := once.unique token
    cases awaited : command.token with
    | none => simpa using before
    | some reply =>
      have same := fresh reply awaited
      by_cases here : token = s.next
      · subst here
        simp [unused,count_cons]
        split <;> omega
      · have apart : reply ≠ token := fun equal => here (equal.symm.trans same)
        simpa [count_cons,apart] using before
  intro token used
  rw [grown] at used
  change token < s.next + 1
  by_cases before : 0 < s.uses token
  · exact Nat.lt_succ_of_lt (once.old token before)
  cases awaited : command.token with
  | none => simp [awaited] at used; omega
  | some reply =>
    have same := fresh reply awaited
    by_cases here : reply = token
    · rw [← here,same]
      exact Nat.lt_succ_self _
    · simp [awaited,here] at used
      omega

lemma Once.command (once : s.Once) {user : UserCommand} {rest : List UserCommand}
    (queue : s.commands = user::rest) : ({s with commands := rest}.handleCommand user.command : Supervised).Once := by
  obtain ⟨command,settles⟩ := user
  let taken : Supervised := {s with commands := rest}
  have counted : ∀ token, s.uses token = command.token.toList.count token + taken.uses token := by
    intro token
    have listed : ((⟨command,settles⟩::rest).filterMap (fun user : UserCommand => user.command.token)).count token =
        command.token.toList.count token + (rest.filterMap (·.command.token)).count token := by
      cases awaited : command.token with
      | none => simp [awaited]
      | some => simp [awaited,count_cons,Nat.add_comm]
    simp only [taken,uses,queue,listed]
    omega
  by_cases disposes : ∃ vchan vhandle first last state settled reply,
      command = .sendDisposition vchan vhandle first last state settled reply
  · obtain ⟨_,_,_,_,_,_,_,rfl⟩ := disposes
    have fewer : Conserves s taken := ⟨fun token => by rw [counted token]; exact Nat.le_add_left _ _,rfl⟩
    exact once.follow (fewer.trans (taken.sendDisposition_conserves ..))
  have quiet := taken.handleCommand_quiet command (by
    intro d disposed
    cases command with
    | sendDisposition => exact disposes ⟨_,_,_,_,_,_,_,rfl⟩
    | _ => exact disposed)
  refine once.follow ⟨fun token => ?_,congrArg Ledger.next quiet.ledger⟩
  have moved := quiet.uses token
  have before := counted token
  simp only [taken] at moved before ⊢
  omega

lemma step_once (once : s.Once) (ok : s.step label = some next) : next.Once := by
  cases label with
  | send vchan vhandle body settled state awaited =>
    cases ok
    refine once.request [] ?_
    intro token found
    cases awaited with
    | false => cases found
    | true => exact (some.inj found).symm
  | recv =>
    simp only [step,recv] at ok
    split at ok
    · cases ok
    · cases ok
      exact once.follow (.same rfl rfl)
  | dispose =>
    simp only [step] at ok
    split at ok
    · cases ok
      exact once.request _ (by intro _ h; cases h)
    · cases ok
  | acceptThrough =>
    simp only [step] at ok
    split at ok
    · cases ok
      have taken : ∀ consumers, ({s with consumers} : Supervised).Once := fun _ => once.follow (.same rfl rfl)
      refine (taken _).request _ ?_
      intro token found
      cases found
    · cases ok
  | command =>
    simp only [step] at ok
    split at ok
    next queue =>
      cases ok
      exact once.command queue
    · cases ok
  | replay =>
    simp only [step] at ok
    split at ok
    next queue =>
      cases ok
      exact once.follow (s.replay_quiet queue).conserves
    · cases ok
  | driverDied =>
    simp only [step] at ok
    split at ok
    · split at ok
      · cases ok
        exact once.follow (.same rfl rfl)
      · cases ok
    · cases ok
  | establish =>
    simp only [step] at ok
    split at ok
    · cases ok
      have moved : ∀ client inner epoch, ({s with client,inner,epoch} : Supervised).Once :=
        fun _ _ _ => once.follow (.same rfl rfl)
      exact (moved _ _ _).follow (advance_quiet ..).conserves
    · cases ok
  | giveUp | late =>
    simp only [step] at ok
    split at ok
    · cases ok
      exact once.follow (.same rfl rfl)
    · cases ok
  | requeue =>
    simp only [step] at ok
    split at ok
    next member =>
      cases ok
      exact once.follow (s.requeue_quiet member).conserves
    · cases ok
  | process =>
    simp only [step] at ok
    split at ok
    · split at ok
      · cases ok
      · cases ok
        exact once.follow (s.ran_conserves _)
    · cases ok
  | frame =>
    simp only [step] at ok
    split at ok
    · cases ok
      exact once.follow (s.ran_conserves _)
    · cases ok
  | die =>
    cases ok
    exact once.follow s.die_quiet.conserves
  | _ =>
    cases ok
    exact once.request _ (by intro _ h; cases h)

lemma connected_once (maxFrameSize : Nat) (channelMax : UInt16) : (connected maxFrameSize channelMax).Once := by
  refine ⟨fun _ => Nat.zero_le _,?_⟩
  intro token used
  simp [connected,uses] at used

end Supervised

/-- In every state of a run in which no real number is given out while its former owner is left
and the driver is alive when a send is taken up: the next command of the driver, if it is an
awaited send, finds no link but one attached for the send's own logical link; no send is
resolved twice; and none fails for the connection while its link exists and reconnecting has
not been given up. -/
theorem sends_follow_link (maxFrameSize : Nat) (channelMax : UInt16) (labels : List SupervisedStep)
    (final : Supervised)
    (steady : Transition.Meets Supervised.step (fun s label => s.steady label = true)
      (.connected maxFrameSize channelMax) labels)
    (ok : run Supervised.step (.connected maxFrameSize channelMax) labels = some final) :
    (∀ c owner channel handle message rest, final.client = some c →
      c.commands = (owner,.sendTransfer channel handle message)::rest →
      ∀ proxy ∈ final.proxies, message.reply = some proxy.reply →
        ∀ s link, c.driver.sessions[channel]? = some s → s.links[handle]? = some link →
          final.relays link.events = some (proxy.request.vchan,proxy.request.vhandle)) ∧
    (final.outcomes.map SendOutcome.reply).Nodup ∧
    ∀ outcome ∈ final.outcomes, outcome.live = true → ∀ failure, outcome.result = .error failure →
      failure.kind ≠ .notConnected ∧ failure.kind ≠ .cancelled := by
  have held : final.Steady := run_invariant step_steady (connected_steady maxFrameSize channelMax) steady ok
  have once : final.Once := run_invariant_all step_once (connected_once maxFrameSize channelMax) ok
  refine ⟨?_,?_,?_⟩
  · intro c owner channel handle message rest present queue proxy member awaited s link there found
    have inside : (owner,DriverCommand.sendTransfer channel handle message) ∈ c.commands := by simp [queue]
    obtain ⟨-,carried⟩ := held.wired.sends c present owner channel handle message proxy.reply inside awaited
    obtain ⟨_,rfl,relay⟩ := carried proxy member rfl
    have sound := held.wired.sound c present
    have holds := sound.holds _ (mem_owners.mpr (.inl ⟨_,inside⟩))
    cases sound.issued _ inside with
    | sendTransfer =>
      rw [(holds s there).2 link found]
      exact relay
  · rw [nodup_iff_count_le_one]
    intro token
    have unique := once.unique token
    simp only [uses] at unique
    omega
  intro outcome member live failure failed
  constructor
  · intro lost
    rw [held.kept outcome member failure failed (.inl lost)] at live
    cases live
  intro lost
  rw [held.kept outcome member failure failed (.inr lost)] at live
  cases live

def oneSender : List SupervisedStep :=
  [.beginSession ⟨none,0,100,100,7⟩,.command,.process,.frame .byKey ⟨3,.begin_ ⟨some 0,0,100,100,7⟩,none⟩,
   .attach 0 {name := "out",handle := 0,role := .sender} .manual,.command,.process,
   .frame .byKey ⟨3,.attach {name := "out",handle := 5,role := .receiver},none⟩]

/-- The driver dies with a send on its way; after the reconnect the send is replayed. -/
theorem sends_follow_link_replayed : ∃ final,
    run Supervised.step (.connected 512 7)
      (oneSender ++ [.send 0 0 [1] false none true,.command,.process] ++
        [.die,.driverDied,.establish 512 7,.process,.frame .byKey ⟨3,.begin_ ⟨some 0,0,100,100,7⟩,none⟩,.process,
         .frame .byKey ⟨3,.attach {name := "out",handle := 5,role := .receiver},none⟩,
         .requeue ⟨0,0,⟨[1],false,0,none,some 2⟩⟩,.replay]) = some final ∧
    final.client.map Client.commands =
      some [(.link ⟨0,3,0,4⟩,.sendTransfer 0 0 ⟨[1],false,0,none,some 5⟩)] ∧
    final.proxies = [⟨5,⟨0,0,⟨[1],false,0,none,some 2⟩⟩⟩] ∧
    ∀ c s link, final.client = some c → c.driver.sessions[(0 : UInt16)]? = some s →
      s.links[(0 : UInt32)]? = some link → final.relays link.events = some (0,0) := by
  refine reaches_then (P := fun final => final.client.map Client.commands =
      some [(.link ⟨0,3,0,4⟩,.sendTransfer 0 0 ⟨[1],false,0,none,some 5⟩)] ∧
    final.proxies = [⟨5,⟨0,0,⟨[1],false,0,none,some 2⟩⟩⟩]) (by decide) ?_
  refine fun final ok ⟨queue,proxies⟩ => ⟨queue,proxies,?_⟩
  intro c s link present there found
  have queue : c.commands = [(.link ⟨0,3,0,4⟩,.sendTransfer 0 0 ⟨[1],false,0,none,some 5⟩)] := by
    simpa [present] using queue
  exact (sends_follow_link 512 7 _ final (meets_of_check (by decide)) ok).1 c _ 0 0 _ [] present queue
    _ (by rw [proxies]; exact mem_cons_self) rfl s link there found

/-- The peer detaches the producer and a second one takes its handle; a send on the first is
handed to the link of the second. -/
theorem send_handed_to_other_link : ∃ final,
    run Supervised.step (.connected 512 7)
      (oneSender ++ [.frame .byKey ⟨3,.detach ⟨5,true,none⟩,none⟩,
        .attach 0 {name := "other",handle := 0,role := .sender} .manual,.command,.process,
        .frame .byKey ⟨3,.attach {name := "other",handle := 5,role := .receiver},none⟩,
        .send 0 0 [1] false none true,.command]) = some final ∧
    final.client.map Client.commands =
      some [(.link ⟨0,0,0,1⟩,.sendTransfer 0 0 ⟨[1],false,0,none,some 3⟩)] ∧
    final.proxies = [⟨3,⟨0,0,⟨[1],false,0,none,some 3⟩⟩⟩] ∧
    (final.client.bind fun c => c.driver.sessions[(0 : UInt16)]?.bind fun s =>
      s.links[(0 : UInt32)]?.bind fun link => final.relays link.events) = some (0,1) := by
  apply reaches_of_any
  decide

end Ramqp
