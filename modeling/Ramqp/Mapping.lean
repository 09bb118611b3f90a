import Ramqp.Supervision

/-! The mapping of logical sessions and links onto those of the current driver. What is up is held
by the driver's client and relays to its own logical link, and the awaited sends handed to the
driver were handed to such links. -/
namespace Ramqp

open Std List Entries Option

variable {order : IterOrder} {frame : Frame}

def Scope.routine : Scope := ⟨fun _ => True,fun _ => True,fun failure => failure.kind = .detached,False⟩

variable {result : Client × List Effect}

namespace Client

def reaches (c : Client) : Bool :=
  match c.commands with
  | (_,.sendTransfer channel _ _)::_ => c.driver.sessions[channel]?.isSome
  | _ => true

lemma process_routine {c : Client} (reaches : c.reaches = true) (ok : c.process = some result) :
    ∃ entry rest driver channel, c.commands = entry::rest ∧
      result.1 = {c with driver,commands := rest} ∧ Tame channel .routine result.2 := by
  obtain ⟨owner,command,rest,out,queue,handled,rfl⟩ := process_ok ok
  have wide : command.scope.Within .routine := ⟨fun _ _ => trivial,fun _ _ => trivial,fun _ => id,id⟩
  obtain ⟨channel,tame⟩ := Driver.handleCommand_tame handled wide (by
    intro channel on send absent
    cases command with
    | sendTransfer =>
      cases on
      simp only [Client.reaches,queue,absent] at reaches
      cases reaches
    | _ => cases send)
  exact ⟨_,rest,out.1,channel,queue,foldl_take id tame _,tame⟩

end Client

def Resume.plan : Resume → List OpenTarget
  | .user _ => []
  | .replay plan => plan

def SupervisorTask.pending : SupervisorTask → Option (List OpenTarget)
  | .idle => some []
  | .opening target _ resume => some (target::resume.plan)
  | .establishing => none
  | .stopped => none

namespace Supervised

variable {s next : Supervised} {vchan : UInt16} {vhandle : UInt32} {rc : SessionHandle} {pending : List OpenTarget}
  {session : LogicalSession} {c : Client} {owner : Owner}

variable {link : LogicalLink} {after : LogicalSession} {x : LinkHandle}

variable {command : DriverCommand}

def bound (s : Supervised) : Nat := s.client.elim s.spare Client.next

def Carries (s : Supervised) (request : ReplayReq) (owner : Owner) : Prop :=
  ∃ x, owner = .link x ∧ s.relays x.events = some (request.vchan,request.vhandle)

structure Wired (s : Supervised) : Prop where
  sound : ∀ c, s.client = some c → c.Sound
  relays : ∀ n target, s.relays n = some target → n < s.bound
  sessionRelays : ∀ n vchan, s.sessionRelays n = some vchan → n < s.bound
  proxies : ∀ proxy ∈ s.proxies, proxy.reply < s.bound
  sends : ∀ c, s.client = some c → ∀ owner channel handle message reply,
    (owner,.sendTransfer channel handle message) ∈ c.commands → message.reply = some reply →
      reply < s.bound ∧ ∀ proxy ∈ s.proxies, proxy.reply = reply → s.Carries proxy.request owner

def LinkUp (s : Supervised) (vchan : UInt16) (vhandle : UInt32) (rc : SessionHandle) (link : LogicalLink) : Prop :=
  ∃ rl, link.real = some rl ∧ s.relays rl.events = some (vchan,vhandle) ∧
    ∀ c, s.client = some c → ⟨rc.channel,rc.events,rl.handle,rl.events⟩ ∈ c.links

structure SessionUp (s : Supervised) (pending : List OpenTarget) (vchan : UInt16) (session : LogicalSession)
    (rc : SessionHandle) : Prop where
  real : session.real = some rc
  relay : s.sessionRelays rc.events = some vchan
  held : ∀ c, s.client = some c → rc ∈ c.sessions
  links : ∀ (vhandle : UInt32) (link : LogicalLink), session.links[vhandle]? = some link →
    .link vchan vhandle ∉ pending → s.LinkUp vchan vhandle rc link

/-- Every logical session and link is up in the current driver but those pending; a session is
brought up before its links. -/
structure Mapped (s : Supervised) (pending : List OpenTarget) : Prop where
  inner : s.inner = true
  order : pending.Pairwise (fun a b => ∀ vchan vhandle, a = .link vchan vhandle → b ≠ .session vchan)
  plan : ∀ (vchan : UInt16) (session : LogicalSession), s.sessions[vchan]? = some session →
    .session vchan ∈ pending → ∀ (vhandle : UInt32) (link : LogicalLink),
      session.links[vhandle]? = some link → .link vchan vhandle ∈ pending
  up : ∀ (vchan : UInt16) (session : LogicalSession), s.sessions[vchan]? = some session →
    .session vchan ∉ pending → ∃ rc, s.SessionUp pending vchan session rc

structure Extends (s next : Supervised) : Prop where
  relays : ∀ n target, s.relays n = some target → next.relays n = some target
  sessionRelays : ∀ n vchan, s.sessionRelays n = some vchan → next.sessionRelays n = some vchan
  client : ∀ after, next.client = some after → ∃ c, s.client = some c ∧
    (∀ x ∈ c.sessions, x ∈ after.sessions) ∧ ∀ x ∈ c.links, x ∈ after.links

lemma Extends.same (relays : next.relays = s.relays) (sessionRelays : next.sessionRelays = s.sessionRelays)
    (client : next.client = s.client) : Extends s next := by
  refine ⟨fun n target found => relays ▸ found,fun n vchan found => sessionRelays ▸ found,?_⟩
  intro after present
  exact ⟨after,client ▸ present,fun _ => id,fun _ => id⟩

lemma LinkUp.follow (up : s.LinkUp vchan vhandle rc link) (extends_ : Extends s next) :
    next.LinkUp vchan vhandle rc link := by
  obtain ⟨rl,real,relay,held⟩ := up
  refine ⟨rl,real,extends_.relays _ _ relay,?_⟩
  intro after present
  obtain ⟨c,there,-,links⟩ := extends_.client after present
  exact links _ (held c there)

lemma SessionUp.follow (up : s.SessionUp pending vchan session rc) (extends_ : Extends s next) :
    next.SessionUp pending vchan session rc := by
  refine ⟨up.real,extends_.sessionRelays _ _ up.relay,?_,?_⟩
  · intro after present
    obtain ⟨c,there,sessions,-⟩ := extends_.client after present
    exact sessions _ (up.held c there)
  · intro vhandle link found open_
    exact (up.links vhandle link found open_).follow extends_

lemma Mapped.follow (mapped : s.Mapped pending) (extends_ : Extends s next)
    (sessions : next.sessions = s.sessions) (inner : next.inner = s.inner) : next.Mapped pending := by
  refine ⟨inner.trans mapped.inner,mapped.order,?_,?_⟩
  · rw [sessions]
    exact mapped.plan
  intro vchan session found open_
  rw [sessions] at found
  obtain ⟨rc,up⟩ := mapped.up vchan session found open_
  exact ⟨rc,up.follow extends_⟩

lemma SessionUp.widen {left : List OpenTarget} (up : s.SessionUp pending vchan session rc)
    (real : after.real = session.real)
    (links : ∀ (vhandle : UInt32) (link : LogicalLink), after.links[vhandle]? = some link →
      .link vchan vhandle ∉ left → session.links[vhandle]? = some link ∧ .link vchan vhandle ∉ pending) :
    s.SessionUp left vchan after rc := by
  refine ⟨real.trans up.real,up.relay,up.held,?_⟩
  intro vhandle link found open_
  obtain ⟨there,before⟩ := links vhandle link found open_
  exact up.links vhandle link there before

lemma Mapped.forget {target : OpenTarget} (mapped : s.Mapped pending) (only : ∀ other ∈ pending, other = target) :
    (s.forgetTarget target).Mapped [] := by
  have same : Extends s (s.forgetTarget target) := by
    cases target with
    | session => exact .same rfl rfl rfl
    | link =>
      simp only [forgetTarget]
      split <;> exact .same rfl rfl rfl
  have inner : (s.forgetTarget target).inner = true := by
    rw [← mapped.inner]
    cases target with
    | session => rfl
    | link =>
      simp only [forgetTarget]
      split <;> rfl
  refine ⟨inner,.nil,by simp,?_⟩
  intro vchan session found _
  cases target with
  | session =>
    obtain ⟨distinct,found⟩ := of_erase found
    have open_ : OpenTarget.session vchan ∉ pending := by
      intro inside
      cases only _ inside
      exact distinct rfl
    obtain ⟨rc,up⟩ := mapped.up vchan session found open_
    refine ⟨rc,(up.widen rfl ?_).follow same⟩
    intro vhandle link there _
    exact ⟨there,by intro inside; cases only _ inside⟩
  | link gone =>
    have open_ : OpenTarget.session vchan ∉ pending := by intro inside; cases only _ inside
    simp only [forgetTarget] at found
    split at found
    next absent =>
      obtain ⟨rc,up⟩ := mapped.up vchan session found open_
      refine ⟨rc,(up.widen rfl ?_).follow same⟩
      intro vhandle link there _
      refine ⟨there,fun inside => ?_⟩
      cases only _ inside
      rw [absent] at found
      cases found
    rename_i old present
    rcases of_insert found with ⟨rfl,rfl⟩ | ⟨equal,found⟩
    · obtain ⟨rc,up⟩ := mapped.up gone old present open_
      refine ⟨rc,SessionUp.follow ?_ same⟩
      refine up.widen rfl ?_
      intro vhandle link there _
      obtain ⟨apart,there⟩ := of_erase there
      refine ⟨there,fun inside => ?_⟩
      cases only _ inside
      exact apart rfl
    obtain ⟨rc,up⟩ := mapped.up vchan session found open_
    refine ⟨rc,(up.widen rfl ?_).follow same⟩
    intro vhandle link there _
    refine ⟨there,fun inside => ?_⟩
    cases only _ inside
    exact equal rfl

lemma Mapped.begun (mapped : s.Mapped []) (fresh : session.links = ∅) (nextVchan : UInt16) :
    ({s with nextVchan,sessions := s.sessions.insert vchan session} : Supervised).Mapped [.session vchan] := by
  refine ⟨mapped.inner,pairwise_singleton ..,?_,?_⟩
  · intro other found there inside vhandle link member
    cases mem_singleton.mp inside
    simp only [ExtTreeMap.getElem?_insert_self,some.injEq] at there
    subst there
    simp [fresh] at member
  intro other found there open_
  have apart : vchan ≠ other := fun equal => open_ (by simp [equal])
  simp only [ExtTreeMap.getElem?_insert,LawfulEqCmp.compare_eq_iff_eq,apart,if_false] at there
  obtain ⟨rc,up⟩ := mapped.up other found there not_mem_nil
  refine ⟨rc,(up.widen rfl ?_).follow (.same rfl rfl rfl)⟩
  intro vhandle link member _
  exact ⟨member,not_mem_nil⟩

lemma Mapped.attached (mapped : s.Mapped []) (present : s.sessions[vchan]? = some session)
    (real : after.real = session.real) (links : after.links = session.links.insert vhandle link) :
    ({s with sessions := s.sessions.insert vchan after} : Supervised).Mapped [.link vchan vhandle] := by
  refine ⟨mapped.inner,pairwise_singleton ..,?_,?_⟩
  · intro other found there inside
    cases mem_singleton.mp inside
  intro other found there open_
  rcases of_insert there with ⟨rfl,rfl⟩ | ⟨equal,there⟩
  · obtain ⟨rc,up⟩ := mapped.up vchan session present not_mem_nil
    refine ⟨rc,(up.widen real ?_).follow (.same rfl rfl rfl)⟩
    intro handle found member apart
    rw [links] at member
    have distinct : vhandle ≠ handle := fun equal => apart (by simp [equal])
    simp only [ExtTreeMap.getElem?_insert,LawfulEqCmp.compare_eq_iff_eq,distinct,if_false] at member
    exact ⟨member,not_mem_nil⟩
  obtain ⟨rc,up⟩ := mapped.up other found there not_mem_nil
  refine ⟨rc,(up.widen rfl ?_).follow (.same rfl rfl rfl)⟩
  intro handle link member _
  exact ⟨member,not_mem_nil⟩

lemma Mapped.opened {plan : List OpenTarget} (mapped : s.Mapped (.session vchan::plan))
    (relay : s.sessionRelays rc.events = some vchan) (held : ∀ c, s.client = some c → rc ∈ c.sessions) :
    (s.sessionOpened vchan rc).Mapped plan := by
  have same : Extends s (s.sessionOpened vchan rc) := by
    unfold sessionOpened
    split <;> exact .same rfl rfl rfl
  have inner : (s.sessionOpened vchan rc).inner = true := by
    rw [← mapped.inner]
    unfold sessionOpened
    split <;> rfl
  have other : ∀ (found : UInt16) (session : LogicalSession), s.sessions[found]? = some session → found ≠ vchan →
      .session found ∉ plan → ∃ rc, s.SessionUp plan found session rc := by
    intro found session there apart open_
    have still : OpenTarget.session found ∉ .session vchan::plan := by
      simp only [mem_cons,OpenTarget.session.injEq,apart,false_or]
      exact open_
    obtain ⟨real,up⟩ := mapped.up found session there still
    refine ⟨real,up.widen rfl ?_⟩
    intro vhandle link member outside
    exact ⟨member,by simpa using outside⟩
  have later : ∀ (found : UInt16) (session : LogicalSession), s.sessions[found]? = some session →
      .session found ∈ .session vchan::plan → ∀ (vhandle : UInt32) (link : LogicalLink),
        session.links[vhandle]? = some link → .link found vhandle ∈ plan := by
    intro found session there inside vhandle link member
    simpa using mapped.plan found session there inside vhandle link member
  refine ⟨inner,mapped.order.of_cons,?_,?_⟩
  · intro found session there inside vhandle link member
    unfold sessionOpened at there
    split at there
    · exact later found session there (mem_cons_of_mem _ inside) vhandle link member
    rename_i old present
    rcases of_insert there with ⟨rfl,rfl⟩ | ⟨equal,there⟩
    · exact later vchan old present mem_cons_self vhandle link member
    · exact later found session there (mem_cons_of_mem _ inside) vhandle link member
  intro found session there open_
  have moved := there
  unfold sessionOpened at moved
  split at moved
  next absent =>
    have apart : found ≠ vchan := by
      rintro rfl
      rw [absent] at moved
      cases moved
    obtain ⟨real,up⟩ := other found session moved apart open_
    exact ⟨real,up.follow same⟩
  rename_i old present
  rcases of_insert moved with ⟨rfl,rfl⟩ | ⟨equal,moved⟩
  · refine ⟨rc,SessionUp.follow ⟨rfl,relay,held,?_⟩ same⟩
    intro vhandle link member outside
    exact absurd (later vchan old present mem_cons_self vhandle link member) outside
  · obtain ⟨real,up⟩ := other found session moved (Ne.symm equal) open_
    exact ⟨real,up.follow same⟩

lemma Mapped.linked {plan : List OpenTarget} {rl : RealLink} (mapped : s.Mapped (.link vchan vhandle::plan))
    (present : s.sessions[vchan]? = some session) (real : session.real = some rc)
    (relay : s.relays rl.events = some (vchan,vhandle))
    (held : ∀ c, s.client = some c → ⟨rc.channel,rc.events,rl.handle,rl.events⟩ ∈ c.links) :
    (s.linkAttached vchan vhandle rl).Mapped plan := by
  obtain ⟨first,order⟩ := pairwise_cons.mp mapped.order
  have apart : OpenTarget.session vchan ∉ plan := fun inside => first _ inside vchan vhandle rfl rfl
  have other : ∀ (found : UInt16) (old : LogicalSession), s.sessions[found]? = some old → found ≠ vchan →
      .session found ∉ plan → ∃ rc, s.SessionUp plan found old rc := by
    intro found old there distinct open_
    obtain ⟨real,up⟩ := mapped.up found old there (by simpa using open_)
    refine ⟨real,up.widen rfl ?_⟩
    intro handle link member outside
    refine ⟨member,?_⟩
    simp only [mem_cons,OpenTarget.link.injEq,distinct,false_and,false_or]
    exact outside
  have later : ∀ (found : UInt16) (old : LogicalSession), s.sessions[found]? = some old → .session found ∈ plan →
      ∀ (handle : UInt32) (link : LogicalLink), old.links[handle]? = some link → .link found handle ∈ plan := by
    intro found old there inside handle link member
    have distinct : found ≠ vchan := by
      rintro rfl
      exact apart inside
    simpa [distinct] using mapped.plan found old there (mem_cons_of_mem _ inside) handle link member
  obtain ⟨_,up⟩ := mapped.up vchan session present (by simpa using apart)
  cases (up.real.symm.trans real)
  unfold linkAttached
  rw [present]
  simp only
  split
  next absent =>
    refine ⟨mapped.inner,order,later,?_⟩
    intro found old there open_
    by_cases equal : found = vchan
    · subst equal
      rw [present,some.injEq] at there
      subst there
      refine ⟨rc,up.widen rfl ?_⟩
      intro handle link member outside
      have distinct : handle ≠ vhandle := by
        rintro rfl
        rw [absent] at member
        cases member
      exact ⟨member,by simpa [distinct] using outside⟩
    · exact other found old there equal open_
  next link linked =>
    refine ⟨mapped.inner,order,?_,?_⟩
    · intro found old there inside
      have distinct : vchan ≠ found := by
        rintro rfl
        exact apart inside
      simp only [ExtTreeMap.getElem?_insert,LawfulEqCmp.compare_eq_iff_eq,distinct,if_false] at there
      exact later found old there inside
    intro found old there open_
    rcases of_insert there with ⟨rfl,rfl⟩ | ⟨equal,there⟩
    · refine ⟨rc,SessionUp.follow ⟨up.real,up.relay,up.held,?_⟩ (.same rfl rfl rfl)⟩
      intro handle after member outside
      rcases of_insert member with ⟨rfl,rfl⟩ | ⟨here,member⟩
      · exact ⟨rl,rfl,relay,held⟩
      · exact up.links handle after member (by simpa [Ne.symm here] using outside)
    · obtain ⟨real,up⟩ := other found old there (Ne.symm equal) open_
      exact ⟨real,up.follow (.same rfl rfl rfl)⟩

lemma Mapped.realIds_isSome (mapped : s.Mapped []) (known : s.knows vchan vhandle = true) :
    (s.realIds vchan vhandle).isSome = true := by
  obtain ⟨link,found⟩ := isSome_iff_exists.mp known
  obtain ⟨session,present,linked⟩ := bind_eq_some_iff.mp found
  obtain ⟨_,up⟩ := mapped.up vchan session present not_mem_nil
  obtain ⟨_,real,-⟩ := up.links vhandle link linked not_mem_nil
  simp [realIds,present,up.real,linked,real]

lemma realIds_eq_some (found : s.realIds vchan vhandle = some x) :
    ∃ session rc link rl, s.sessions[vchan]? = some session ∧ session.real = some rc ∧
      session.links[vhandle]? = some link ∧ link.real = some rl ∧ x = ⟨rc.channel,rc.events,rl.handle,rl.events⟩ := by
  unfold realIds at found
  split at found
  · cases found
  rename_i session present
  split at found
  next rc rl real linked =>
    obtain ⟨link,inside,attached⟩ := bind_eq_some_iff.mp linked
    exact ⟨session,rc,link,rl,present,real,inside,attached,(some.inj found).symm⟩
  · cases found

lemma Mapped.realIds_held (mapped : s.Mapped []) (found : s.realIds vchan vhandle = some x) :
    s.relays x.events = some (vchan,vhandle) ∧ ∀ c, s.client = some c → x ∈ c.links := by
  obtain ⟨session,_,link,_,present,real,linked,attached,rfl⟩ := realIds_eq_some found
  obtain ⟨_,up⟩ := mapped.up vchan session present not_mem_nil
  cases up.real.symm.trans real
  obtain ⟨_,real',relay,held⟩ := up.links vhandle link linked not_mem_nil
  cases real'.symm.trans attached
  exact ⟨relay,held⟩

structure Issues (s next : Supervised) (c : Client) (owner : Owner) (command : DriverCommand) : Prop where
  present : s.client = some c
  client : ∃ attaches, next.client = some ({c with attaches}.issue owner command)
  relays : ∀ n, n ≠ c.next → next.relays n = s.relays n
  sessionRelays : ∀ n, n ≠ c.next → next.sessionRelays n = s.sessionRelays n

lemma Issues.bound (issues : Issues s next c owner command) : s.bound = c.next ∧ next.bound = c.next + 1 := by
  obtain ⟨_,client⟩ := issues.client
  simp [Supervised.bound,issues.present,client,Client.issue]

lemma Issues.extends (issues : Issues s next c owner command) (wired : s.Wired) : Extends s next := by
  have here := issues.bound.1
  refine ⟨?_,?_,?_⟩
  · intro n target found
    have old := here ▸ wired.relays n target found
    exact (issues.relays n (Nat.ne_of_lt old)).trans found
  · intro n vchan found
    have old := here ▸ wired.sessionRelays n vchan found
    exact (issues.sessionRelays n (Nat.ne_of_lt old)).trans found
  intro after there
  obtain ⟨_,client⟩ := issues.client
  cases client.symm.trans there
  exact ⟨c,issues.present,fun _ => id,fun _ => id⟩

lemma Carries.follow {request : ReplayReq} (carries : s.Carries request owner) (extends_ : Extends s next) :
    next.Carries request owner := by
  obtain ⟨x,same,relay⟩ := carries
  exact ⟨x,same,extends_.relays _ _ relay⟩

lemma Wired.issue (wired : s.Wired) (issues : Issues s next c owner command)
    (sound : ∀ after, next.client = some after → after.Sound) (proxies : ∀ proxy ∈ next.proxies, proxy ∈ s.proxies ∨
      proxy.reply = c.next ∧ next.Carries proxy.request owner)
    (awaits : ∀ channel handle message reply, command = .sendTransfer channel handle message →
      message.reply = some reply → reply = c.next) : next.Wired := by
  obtain ⟨before,after⟩ := issues.bound
  have extends_ := issues.extends wired
  have small : ∀ {n : Nat}, n < s.bound → n < next.bound := by
    intro n old
    omega
  have now : c.next < next.bound := by omega
  refine ⟨sound,?_,?_,?_,?_⟩
  · intro n target found
    by_cases here : n = c.next
    · exact here ▸ now
    · exact small (wired.relays n target ((issues.relays n here).symm.trans found))
  · intro n vchan found
    by_cases here : n = c.next
    · exact here ▸ now
    · exact small (wired.sessionRelays n vchan ((issues.sessionRelays n here).symm.trans found))
  · intro proxy member
    rcases proxies proxy member with old | ⟨new,-⟩
    · exact small (wired.proxies proxy old)
    · exact new ▸ now
  intro later there sender channel handle message reply member awaited
  obtain ⟨_,client⟩ := issues.client
  cases client.symm.trans there
  rcases mem_append.mp member with old | new
  · obtain ⟨less,carried⟩ := wired.sends c issues.present sender channel handle message reply old awaited
    refine ⟨small less,?_⟩
    intro proxy inside same
    rcases proxies proxy inside with kept | ⟨fresh,-⟩
    · exact (carried proxy kept same).follow extends_
    · rw [before,← same,fresh] at less
      exact absurd less (Nat.lt_irrefl _)
  cases mem_singleton.mp new
  have same := awaits channel handle message reply rfl awaited
  refine ⟨same ▸ now,?_⟩
  intro proxy inside equal
  rcases proxies proxy inside with kept | ⟨-,carries⟩
  · have less := wired.proxies proxy kept
    rw [before,equal,same] at less
    exact absurd less (Nat.lt_irrefl _)
  · exact carries

lemma Wired.fewer (wired : s.Wired) (client : next.client = s.client) (relays : next.relays = s.relays)
    (sessionRelays : next.sessionRelays = s.sessionRelays) (spare : next.spare = s.spare)
    (proxies : ∀ proxy ∈ next.proxies, proxy ∈ s.proxies) : next.Wired := by
  have same : next.bound = s.bound := by
    unfold bound
    rw [client,spare]
  refine ⟨client ▸ wired.sound,?_,?_,?_,?_⟩
  · rw [relays,same]
    exact wired.relays
  · rw [sessionRelays,same]
    exact wired.sessionRelays
  · intro proxy member
    rw [same]
    exact wired.proxies proxy (proxies proxy member)
  intro c there owner channel handle message reply member awaited
  obtain ⟨small,carried⟩ := wired.sends c (client ▸ there) owner channel handle message reply member awaited
  refine ⟨same ▸ small,?_⟩
  intro proxy inside equal
  exact (carried proxy (proxies proxy inside) equal).follow (.same relays sessionRelays client)

lemma Wired.moved (wired : s.Wired) {after : Client} (present : s.client = some c)
    (client : next.client = some after) (sound : after.Sound) (later : after.next = c.next)
    (commands : ∀ entry ∈ after.commands, entry ∈ c.commands) (relays : next.relays = s.relays)
    (sessionRelays : next.sessionRelays = s.sessionRelays) (proxies : next.proxies = s.proxies) : next.Wired := by
  have same : next.bound = s.bound := by simp [bound,present,client,later]
  refine ⟨?_,?_,?_,?_,?_⟩
  · intro found there
    cases client.symm.trans there
    exact sound
  · rw [relays,same]
    exact wired.relays
  · rw [sessionRelays,same]
    exact wired.sessionRelays
  · rw [proxies,same]
    exact wired.proxies
  intro found there owner channel handle message reply member awaited
  cases client.symm.trans there
  obtain ⟨small,carried⟩ := wired.sends c present owner channel handle message reply (commands _ member) awaited
  refine ⟨same ▸ small,?_⟩
  intro proxy inside equal
  obtain ⟨x,own,relay⟩ := carried proxy (proxies ▸ inside) equal
  exact ⟨x,own,relays ▸ relay⟩

lemma Wired.lose (wired : s.Wired) : s.lose.Wired := by
  unfold Supervised.lose
  split
  · exact wired
  rename_i c present
  have same : s.bound = c.next := by simp [bound,present]
  refine ⟨by simp,?_,?_,forall_mem_nil _,by simp⟩
  · intro n target found
    exact same ▸ wired.relays n target found
  · intro n vchan found
    exact same ▸ wired.sessionRelays n vchan found

end Supervised

end Ramqp
