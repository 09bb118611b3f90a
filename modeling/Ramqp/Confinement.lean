import Ramqp.Ownership

/-! Commands stay with their owner: in a run that gives out no freed number while an object or
a queued command of its former owner is left, the next command of the driver changes only the
link or session it was issued through and queues frames for no other. -/
namespace Ramqp

open Std Option Transition Entries Std.ExtTreeMap Session Driver SessionHandle Client

variable {attaches : List (Reply × SessionHandle)} {s after : Session} {d : Driver} {effects : List Effect}

/-- Nothing changes but the link of the handle, and every frame is for it. -/
structure LinkHandle.Confined (x : LinkHandle) (d next : Driver) (effects : List Effect) : Prop where
  rest : next = {d with sessions := next.sessions}
  absent : ∀ channel : UInt16, d.sessions[channel]? = none → next.sessions[channel]? = none
  sessions : ∀ (channel : UInt16) (s : Session), d.sessions[channel]? = some s → s.events ≠ x.session →
    next.sessions[channel]? = some s
  links : ∀ (channel : UInt16) (s : Session), d.sessions[channel]? = some s →
    ∃ after, next.sessions[channel]? = some after ∧
      ∀ handle : UInt32, (∀ link, s.links[handle]? = some link → link.events ≠ x.events) →
        after.links[handle]? = s.links[handle]? ∧
        (handle ∈ s.links → (∀ key, s.linkHandles key = some handle → after.linkHandles key = some handle) ∧
          ∀ remote, s.remoteHandles remote = some handle → after.remoteHandles remote = some handle)
  frames : ∀ frame ∈ queued effects, ∃ s, d.sessions[frame.channel]? = some s ∧ s.events = x.session ∧
    ∀ handle link, frame.linkHandle = some handle → s.links[handle]? = some link → link.events = x.events

structure SessionHandle.Confined (x : SessionHandle) (d next : Driver) (effects : List Effect) : Prop where
  rest : next = {d with sessions := next.sessions}
  absent : ∀ channel : UInt16, d.sessions[channel]? = none → next.sessions[channel]? = none
  sessions : ∀ (channel : UInt16) (s : Session), d.sessions[channel]? = some s → s.events ≠ x.events →
    next.sessions[channel]? = some s
  frames : ∀ frame ∈ queued effects, ∃ s, d.sessions[frame.channel]? = some s ∧ s.events = x.events

def Owner.Confined (d next : Driver) (effects : List Effect) : Owner → Prop
  | .connection => True
  | .session x => x.Confined d next effects
  | .link x => x.Confined d next effects

def Owner.Holds (d : Driver) : Owner → Prop
  | .connection => True
  | .session x => ∀ s, d.sessions[x.channel]? = some s → s.events = x.events
  | .link x => ∀ s, d.sessions[x.channel]? = some s → s.events = x.session ∧
      ∀ link, s.links[x.handle]? = some link → link.events = x.events

def Owner.onChannel (channel : UInt16) : Owner → Bool
  | .connection => false
  | .session x => x.channel == channel
  | .link x => x.channel == channel

def Owner.names (channel : UInt16) (handle : UInt32) : Owner → Bool
  | .link x => x.channel == channel && x.handle == handle
  | _ => false

namespace Client

variable (c : Client)

/-- The owners that are left: user handles, and those of commands still queued. -/
def owners : List Owner :=
  c.commands.map Prod.fst ++ (c.sessions.map .session ++ c.links.map .link)

/-- The begin that is next takes a channel of no owner that is left. -/
def beginsAfresh : Bool :=
  match c.driver.channels.allocate with
  | some (channel,_) => c.owners.all (fun owner => !owner.onChannel channel)
  | none => true

/-- The attach that is next takes a handle of no owner that is left, and a new name. -/
def attachesAfresh (channel : UInt16) (attach : Attach) : Bool :=
  match c.driver.sessions[channel]? with
  | none => true
  | some s => (s.linkHandles (attach.name,attach.role)).isNone && match s.handles.allocate with
    | some (handle,_) => c.owners.all (fun owner => !owner.names channel handle)
    | none => true

def admits : DriverCommand → Bool
  | .beginSession _ _ _ => c.beginsAfresh
  | .attachLink channel attach _ _ _ => c.attachesAfresh channel attach
  | _ => true

/-- No number is given out again while its former owner is left. -/
def afresh : ClientStep → Bool
  | .process => c.commands.head?.all (fun entry => c.admits entry.2)
  | .frame _ frame => match c.driver.remoteChannels frame.channel with
    | none => true
    | some «local» => match c.driver.sessions[«local»]? with
      | none => true
      | some s => s.attachesAfresh frame.performative
  | _ => true

end Client

/-- The command an owner issues carries the owner's own numbers. -/
inductive Issued (attaches : List (Reply × SessionHandle)) (next : Nat) : Owner → DriverCommand → Prop
  | beginSession (begin_ : Begin) (reply : Reply) : Issued attaches next .connection (.beginSession begin_ reply reply)
  | attachLink (x : SessionHandle) (attach : Attach) (creditMode : CreditMode) (reply : Reply)
      (old : reply < next) (own : ∀ y, (reply,y) ∈ attaches → y = x) :
      Issued attaches next (.session x) (.attachLink x.channel attach creditMode reply reply)
  | endSession (x : SessionHandle) (error : Option AmqpError) (reply : Reply) :
      Issued attaches next (.session x) (.endSession x.channel error reply)
  | sessionFlow (x : SessionHandle) (flow : Flow) (unnamed : flow.handle = none) :
      Issued attaches next (.session x) (.sendFlow x.channel flow)
  | sendTransfer (x : LinkHandle) (message : PendingSend) :
      Issued attaches next (.link x) (.sendTransfer x.channel x.handle message)
  | sendDisposition (x : LinkHandle) (first : UInt32) (last : Option UInt32) (state : DeliveryState)
      (settled : Bool) (reply : Option Reply) :
      Issued attaches next (.link x) (.sendDisposition x.channel x.handle first last state settled reply)
  | grantCredit (x : LinkHandle) (credit : UInt32) :
      Issued attaches next (.link x) (.grantCredit x.channel x.handle credit)
  | sendFlow (x : LinkHandle) (flow : Flow) (named : flow.handle = some x.handle) :
      Issued attaches next (.link x) (.sendFlow x.channel flow)
  | detachLink (x : LinkHandle) (closed : Bool) (error : Option AmqpError) (reply : Reply) :
      Issued attaches next (.link x) (.detachLink x.channel x.handle closed error reply)

variable {next : Nat} {command : DriverCommand} {owner : Owner}

lemma Issued.later {grown : List (Reply × SessionHandle)} (issued : Issued attaches next owner command)
    (calls : ∀ reply y, reply < next → (reply,y) ∈ grown → (reply,y) ∈ attaches) :
    Issued grown (next + 1) owner command := by
  cases issued with
  | beginSession begin_ reply => exact .beginSession begin_ reply
  | attachLink x attach creditMode reply old own =>
    exact .attachLink x attach creditMode reply (Nat.lt_succ_of_lt old)
      (fun y member => own y (calls reply y old member))
  | endSession x error reply => exact .endSession x error reply
  | sessionFlow x flow unnamed => exact .sessionFlow x flow unnamed
  | sendTransfer x message => exact .sendTransfer x message
  | sendDisposition x first last state settled reply => exact .sendDisposition x first last state settled reply
  | grantCredit x credit => exact .grantCredit x credit
  | sendFlow x flow named => exact .sendFlow x flow named
  | detachLink x closed error reply => exact .detachLink x closed error reply

/-- A session whose awaited begin and attaches belong to the calls that made them. -/
structure Session.Tended (attaches : List (Reply × SessionHandle)) (next : Nat) (channel : UInt16)
    (s : Session) : Prop where
  orderly : s.Orderly
  placed : s.localChannel = channel
  opening : ∀ reply, s.pendingBegin = some reply → reply = s.events
  attaching : ∀ (handle : UInt32) (link : Link) (reply : Reply), s.links[handle]? = some link →
    link.pendingAttach = some reply →
      reply = link.events ∧ reply < next ∧ ∀ x, (reply,x) ∈ attaches → x = ⟨channel,s.events⟩

lemma Session.Tended.follow {channel : UInt16} (tended : s.Tended attaches next channel)
    (keeps : Session.Keeps s after) (orderly : after.Orderly) : after.Tended attaches next channel := by
  refine ⟨orderly,keeps.channel.trans tended.placed,?_,?_⟩
  · intro reply pending
    rw [keeps.events]
    rcases keeps.opening with same | gone
    · exact tended.opening reply (same.symm.trans pending)
    · rw [gone] at pending
      cases pending
  intro handle link reply present pending
  obtain ⟨old,there,events,attaching⟩ := keeps.links handle link present
  rw [keeps.events,events]
  rcases attaching with same | gone
  · exact tended.attaching handle old reply there (same.symm.trans pending)
  · rw [gone] at pending
    cases pending

structure Client.Sound (c : Client) : Prop where
  holds : ∀ owner ∈ c.owners, owner.Holds c.driver
  issued : ∀ entry ∈ c.commands, Issued c.attaches c.next entry.1 entry.2
  tended : ∀ (channel : UInt16) (s : Session), c.driver.sessions[channel]? = some s →
    s.Tended c.attaches c.next channel
  recorded : ∀ call ∈ c.attaches, call.1 < c.next

variable {result : Driver × List Effect}

namespace Driver

structure Keeps (d next : Driver) : Prop where
  sessions : ∀ (channel : UInt16) (after : Session), next.sessions[channel]? = some after →
    ∃ s, d.sessions[channel]? = some s ∧ Session.Keeps s after ∧ (s.Orderly → after.Orderly)

lemma Keeps.refl (d : Driver) : Keeps d d := ⟨fun _ after present => ⟨after,present,.refl,id⟩⟩

variable {next : Driver} {channel : UInt16}

lemma Keeps.replace
    (present : d.sessions[channel]? = some s) (moved : next.sessions = d.sessions.insert channel after)
    (keeps : Session.Keeps s after) (orderly : s.Orderly → after.Orderly) : Keeps d next := by
  refine ⟨?_⟩
  intro other found there
  rw [moved] at there
  rcases of_insert there with ⟨rfl,rfl⟩ | ⟨same,there⟩
  · exact ⟨s,present,keeps,orderly⟩
  · exact ⟨found,there,.refl,id⟩

lemma Keeps.erase (moved : next.sessions = d.sessions.erase channel) : Keeps d next := by
  refine ⟨?_⟩
  intro other found there
  rw [moved] at there
  exact ⟨found,(of_erase there).2,.refl,id⟩

lemma Keeps.holds (keeps : Keeps d next) (holds : owner.Holds d) : owner.Holds next := by
  cases owner with
  | connection => trivial
  | session =>
    intro after present
    obtain ⟨s,there,kept,-⟩ := keeps.sessions _ _ present
    exact kept.events.trans (holds s there)
  | link =>
    intro after present
    obtain ⟨s,there,kept,-⟩ := keeps.sessions _ _ present
    obtain ⟨same,links⟩ := holds s there
    refine ⟨kept.events.trans same,?_⟩
    intro link found
    obtain ⟨old,before,events,-⟩ := kept.links _ _ found
    exact events.trans (links old before)

lemma onSession_ok {missing : List Effect} {run : Session → Except Fault (Session × List Effect)}
    (ok : d.onSession channel missing run = .ok result) : (d.sessions[channel]? = none ∧ result = (d,missing)) ∨
    ∃ s out, d.sessions[channel]? = some s ∧ run s = .ok out ∧
      result = ({d with sessions := d.sessions.insert channel out.1},out.2) := by
  unfold onSession at ok
  split at ok
  next absent =>
    cases ok
    exact .inl ⟨absent,rfl⟩
  rename_i s present
  split at ok
  · cases ok
  rename_i ran
  cases ok
  exact .inr ⟨s,_,present,ran,rfl⟩

lemma session_other {other : UInt16} {found : Option Session} (present : d.sessions[channel]? = some s)
    (there : d.sessions[other]? = found) (foreign : found ≠ some s) :
    (d.sessions.insert channel after)[other]? = found := by
  have apart : channel ≠ other := by
    rintro rfl
    exact foreign (there.symm.trans present)
  simpa [ExtTreeMap.getElem?_insert,apart] using there

end Driver

lemma LinkHandle.confined_of (holds : (Owner.link x).Holds d)
    (present : d.sessions[x.channel]? = some s) (only : Session.OnlyAt x.handle s after) (keeps : Session.Keeps s after)
    (named : ∀ handle, scope.named handle → handle = x.handle) (tame : Tame x.channel scope effects) :
    x.Confined d {d with sessions := d.sessions.insert x.channel after} effects := by
  obtain ⟨own,links⟩ := holds s present
  refine ⟨rfl,?_,?_,?_,?_⟩
  · intro channel absent
    exact session_other present absent (by simp)
  · intro channel other there foreign
    exact session_other present there fun same => foreign (some.inj same ▸ own)
  · intro channel other there
    by_cases same : x.channel = channel
    · subst same
      rw [present,some.injEq] at there
      subst there
      refine ⟨after,by simp,?_⟩
      intro handle foreign
      by_cases here : handle = x.handle
      · subst here
        have gone : s.links[x.handle]? = none := by
          cases found : s.links[x.handle]? with
          | none => rfl
          | some link => exact absurd (links link found) (foreign link found)
        refine ⟨?_,fun member => ?_⟩
        · rw [gone]
          cases found : after.links[x.handle]? with
          | none => rfl
          | some =>
            obtain ⟨_,before,-⟩ := keeps.links _ _ found
            rw [gone] at before
            cases before
        · rw [mem_iff_isSome_getElem?,gone] at member
          cases member
      · exact ⟨only.links handle here,fun _ => ⟨fun key found => only.names key handle here found,
            fun remote found => only.routes remote handle here found⟩⟩
    · refine ⟨other,by simp [ExtTreeMap.getElem?_insert,same,there],?_⟩
      intro handle _
      exact ⟨rfl,fun _ => ⟨fun _ => id,fun _ => id⟩⟩
  intro frame member
  have stays := tame.queued_stays frame member
  refine ⟨s,stays.channel ▸ present,own,?_⟩
  intro handle link naming found
  rw [named handle (stays.named handle naming)] at found
  exact links link found

lemma LinkHandle.confined_absent {x : LinkHandle} (silent : queued effects = []) : x.Confined d d effects := by
  refine ⟨rfl,fun _ => id,fun _ _ there _ => there,?_,?_⟩
  · intro channel s there
    exact ⟨s,there,fun _ _ => ⟨rfl,fun _ => ⟨fun _ => id,fun _ => id⟩⟩⟩
  · rw [silent]
    exact List.forall_mem_nil _

lemma SessionHandle.confined_of (holds : (Owner.session x).Holds d)
    (present : d.sessions[x.channel]? = some s) (tame : Tame x.channel scope effects) :
    x.Confined d {d with sessions := d.sessions.insert x.channel after} effects := by
  have own := holds s present
  refine ⟨rfl,?_,?_,?_⟩
  · intro channel absent
    exact session_other present absent (by simp)
  · intro channel other there foreign
    exact session_other present there fun same => foreign (some.inj same ▸ own)
  · intro frame member
    exact ⟨s,(tame.queued_stays frame member).channel ▸ present,own⟩

lemma SessionHandle.confined_absent {x : SessionHandle} (silent : queued effects = []) : x.Confined d d effects := by
  refine ⟨rfl,fun _ => id,fun _ _ there _ => there,?_⟩
  rw [silent]
  exact List.forall_mem_nil _

def DriverCommand.disposes : DriverCommand → Disposition → Prop
  | .sendDisposition _ _ first last _ _ _,d => d.first = first ∧ d.last = last
  | _,_ => False

def DriverCommand.isSend : DriverCommand → Bool
  | .sendTransfer _ _ _ => true
  | _ => false

def DriverCommand.channel : DriverCommand → Option UInt16
  | .beginSession .. | .closeConnection .. => none
  | .endSession channel .. | .attachLink channel .. | .detachLink channel .. | .sendTransfer channel ..
  | .sendDisposition channel .. | .sendFlow channel _ | .grantCredit channel .. => some channel

def DriverCommand.link : DriverCommand → Option UInt32
  | .detachLink _ handle .. | .sendTransfer _ handle _ | .sendDisposition _ handle .. | .grantCredit _ handle _ =>
    some handle
  | .sendFlow _ flow => flow.handle
  | _ => none

def DriverCommand.scope (command : DriverCommand) : Scope :=
  ⟨fun handle => ∀ own, command.link = some own → handle = own,command.disposes,
    fun failure => failure.kind = .detached,False⟩

namespace Driver

lemma beginSession_tame (d : Driver) (scope : Scope) (begin_ : Begin) (events : ChannelRef) (reply : Reply) :
    ∃ channel, Tame channel scope (d.beginSession begin_ events reply).2 := by
  unfold beginSession
  split
  · exact ⟨0,.one trivial⟩
  · exact ⟨_,.one ⟨rfl,fun _ found => (nomatch found),fun _ same => (nomatch same)⟩⟩

/-- A command on a channel finds no session there, or moves that session alone: an attach adds
its link, any other keeps the links, and one that names a link changes no other. -/
lemma handleCommand_on {command : DriverCommand} {channel : UInt16} {result : Driver × List Effect}
    (on : command.channel = some channel) (ok : d.handleCommand command = .ok result) :
    (result.1 = d ∧ d.sessions[channel]? = none ∧ queued result.2 = [] ∧
      ∀ scope : Scope, (command.isSend = true → scope.fails noSession) → Tame channel scope result.2) ∨
    ∃ s after number, d.sessions[channel]? = some s ∧ (s.localChannel = channel → number = channel) ∧
      result.1 = {d with sessions := d.sessions.insert channel after} ∧ Tame number command.scope result.2 ∧
      ((∃ attach creditMode events reply, command = .attachLink channel attach creditMode events reply ∧
          after = (s.attachLink attach creditMode events reply).1) ∨
        (s.Orderly → Session.Keeps s after ∧ after.Orderly ∧
          ∀ handle, command.link = some handle → Session.OnlyAt handle s after)) := by
  unfold handleCommand at ok
  cases command with
  | beginSession | closeConnection => cases on
  | endSession channel error reply =>
    cases on
    cases ok
    unfold endSession
    cases present : d.sessions[channel]? with
    | none => exact .inl ⟨rfl,rfl,rfl,fun _ _ => .one trivial⟩
    | some s =>
      refine .inr ⟨s,_,channel,rfl,fun _ => rfl,rfl,(Tame.dropped _).append
        (.one ⟨rfl,fun _ found => (nomatch found),fun _ same => (nomatch same)⟩),.inr ?_⟩
      intro orderly
      exact ⟨⟨rfl,rfl,.inl rfl,fun _ link there => ⟨link,there,rfl,.inl rfl⟩⟩,
        ⟨⟨orderly.registered.covers,orderly.registered.bound⟩,⟨orderly.indexed.named,orderly.indexed.routed⟩⟩,
        fun _ none_ => (nomatch none_)⟩
  | attachLink =>
    cases on
    rcases onSession_ok ok with ⟨absent,rfl⟩ | ⟨s,_,present,ran,rfl⟩
    · exact .inl ⟨rfl,absent,rfl,fun _ _ => .one trivial⟩
    cases ran
    exact .inr ⟨s,_,_,present,id,rfl,s.attachLink_tame (fun _ _ none_ => (nomatch none_)) ..,
      .inl ⟨_,_,_,_,rfl,rfl⟩⟩
  | sendTransfer _ handle message =>
    cases on
    rcases onSession_ok ok with ⟨absent,rfl⟩ | ⟨s,_,present,ran,rfl⟩
    · refine .inl ⟨rfl,absent,?_⟩
      cases message.reply with
      | none => exact ⟨rfl,fun _ _ => .nil⟩
      | some => exact ⟨rfl,fun scope fails => .one (fails rfl)⟩
    cases ran
    refine .inr ⟨s,_,_,present,id,rfl,Session.sendTransfer_tame (fun _ => some.inj) (fun _ => id),.inr ?_⟩
    intro orderly
    have kept := s.sendTransfer_inPlace handle message d.maxFrameSize
    exact ⟨kept.keeps,orderly.inPlace kept,fun _ same => some.inj same ▸ Session.sendTransfer_only⟩
  | sendDisposition _ handle first last state settled reply =>
    cases on
    rcases onSession_ok ok with ⟨absent,rfl⟩ | ⟨s,_,present,ran,rfl⟩
    · refine .inl ⟨rfl,absent,?_⟩
      cases reply with
      | none => exact ⟨rfl,fun _ _ => .nil⟩
      | some => exact ⟨rfl,fun _ _ => .one trivial⟩
    split at ran
    · cases ran
    rename_i disposed
    cases ran
    refine .inr ⟨s,_,_,present,id,rfl,.append (sendDisposition_tame ?_ disposed) ?_,.inr ?_⟩
    · intro d head tail
      exact ⟨head,tail⟩
    · cases reply with
      | none => exact .nil
      | some => exact .one trivial
    intro orderly
    have kept := sendDisposition_inPlace disposed
    have only := sendDisposition_only disposed
    exact ⟨kept.keeps,orderly.inPlace kept,fun _ same => some.inj same ▸ only⟩
  | grantCredit _ handle credit =>
    cases on
    rcases onSession_ok ok with ⟨absent,rfl⟩ | ⟨s,_,present,ran,rfl⟩
    · exact .inl ⟨rfl,absent,rfl,fun _ _ => .nil⟩
    cases ran
    refine .inr ⟨s,_,_,present,id,rfl,s.grantCredit_tame (fun _ => some.inj),.inr ?_⟩
    intro orderly
    have kept := s.grantCredit_inPlace handle credit
    exact ⟨kept.keeps,orderly.inPlace kept,fun _ same => some.inj same ▸ Session.grantCredit_only⟩
  | sendFlow _ flow =>
    cases on
    rcases onSession_ok ok with ⟨absent,rfl⟩ | ⟨s,_,present,ran,rfl⟩
    · exact .inl ⟨rfl,absent,rfl,fun _ _ => .nil⟩
    cases ran
    refine .inr ⟨s,_,_,present,id,rfl,s.sendFlow_tame ?_,.inr ?_⟩
    · intro handle found own same
      exact some.inj (found.symm.trans same)
    intro orderly
    have kept := s.sendFlow_inPlace flow
    exact ⟨kept.keeps,orderly.inPlace kept,fun _ named => Session.sendFlow_only named⟩
  | detachLink =>
    cases on
    rcases onSession_ok ok with ⟨absent,rfl⟩ | ⟨s,_,present,ran,rfl⟩
    · exact .inl ⟨rfl,absent,rfl,fun _ _ => .one trivial⟩
    cases ran
    refine .inr ⟨s,_,_,present,id,rfl,s.detachLink_tame (fun _ => some.inj),.inr ?_⟩
    intro orderly
    obtain ⟨kept,after⟩ := Orderly.stable.detachLink ⟨.refl,orderly⟩ ..
    exact ⟨kept,after,fun _ same => some.inj same ▸ s.detachLink_only orderly.indexed ..⟩

lemma handleCommand_tame (ok : d.handleCommand command = .ok result) (within : command.scope.Within scope)
    (fails : ∀ channel, command.channel = some channel → command.isSend = true → d.sessions[channel]? = none →
      scope.fails noSession) : ∃ channel, Tame channel scope result.2 := by
  cases on : command.channel with
  | none =>
    cases command with
    | beginSession =>
      cases ok
      exact d.beginSession_tame ..
    | closeConnection =>
      cases ok
      exact ⟨0,.one ⟨rfl,fun _ found => (nomatch found),fun _ same => (nomatch same)⟩⟩
    | _ => cases on
  | some channel =>
    rcases handleCommand_on on ok with ⟨-,absent,-,tame⟩ | ⟨_,_,number,-,-,-,tame,-⟩
    · exact ⟨channel,tame scope fun send => fails channel on send absent⟩
    · exact ⟨number,tame.widen within⟩

end Driver

lemma Issued.confined (issued : Issued attaches next owner command) (holds : owner.Holds d)
    (tended : ∀ (channel : UInt16) (s : Session), d.sessions[channel]? = some s →
      s.Tended attaches next channel) (ok : d.handleCommand command = .ok result) :
    owner.Confined d result.1 result.2 := by
  cases owner with
  | connection => trivial
  | session x =>
    have on : command.channel = some x.channel := by cases issued <;> rfl
    rcases handleCommand_on on ok with ⟨same,-,silent,-⟩ | ⟨s,_,_,present,placed,same,tame,-⟩
    · rw [same]
      exact confined_absent silent
    rw [same]
    rw [placed (tended _ s present).placed] at tame
    exact confined_of holds present tame
  | link x =>
    have on : command.channel = some x.channel := by cases issued <;> rfl
    have own : command.link = some x.handle := by
      cases issued with
      | sendFlow _ _ named => exact named
      | _ => rfl
    rcases handleCommand_on on ok with ⟨same,-,silent,-⟩ | ⟨s,_,_,present,placed,same,tame,moved⟩
    · rw [same]
      exact LinkHandle.confined_absent silent
    have here := tended _ s present
    rw [placed here.placed] at tame
    rw [same]
    rcases moved with ⟨_,_,_,_,rfl,-⟩ | moved
    · cases own
    obtain ⟨keeps,-,only⟩ := moved here.orderly
    refine LinkHandle.confined_of holds present (only _ own) keeps ?_ tame
    exact fun _ named => named _ own

variable {reply : Reply}

namespace Client

variable {channel : UInt16} {c next : Client} {rest : List (Owner × DriverCommand)} {command : DriverCommand}
  {x : SessionHandle} {result : Driver × List Effect}

variable {creditMode : CreditMode} {begin_ : Begin}

variable {owner : Owner} {attach : Attach} {order : IterOrder} {frame : Frame}

lemma take_of_tame {effect : Effect} (keeps : ¬ scope.hands) (tame : effect.Tame channel scope)
    : c.take effect = c := by
  cases effect with
  | opened reply result | attached reply result =>
    cases result with
    | error => rfl
    | ok => exact absurd tame keeps
  | _ => rfl

lemma foldl_take {scope : Scope} (keeps : ¬ scope.hands)
    (tame : Tame channel scope effects) (c : Client) : effects.foldl take c = c := by
  obtain ⟨all⟩ := tame
  induction effects generalizing c with
  | nil => rfl
  | cons effect rest ih =>
    rw [List.forall_mem_cons] at all
    rw [List.foldl_cons,take_of_tame keeps all.1]
    exact ih c all.2

lemma mem_owners : owner ∈ c.owners ↔ (∃ command, (owner,command) ∈ c.commands) ∨
      (∃ x ∈ c.sessions, owner = .session x) ∨ ∃ x ∈ c.links, owner = .link x := by
  simp [owners,eq_comm]

lemma owner_of_fewer (fewer : ∀ entry ∈ rest, entry ∈ c.commands) {driver : Driver}
    (member : owner ∈ ({c with driver,commands := rest} : Client).owners) : owner ∈ c.owners := by
  rw [mem_owners] at member ⊢
  rcases member with ⟨command,queued⟩ | held
  · exact .inl ⟨command,fewer _ queued⟩
  · exact .inr held

lemma Sound.follow (sound : c.Sound) {driver : Driver} (fewer : ∀ entry ∈ rest, entry ∈ c.commands)
    (keeps : Driver.Keeps c.driver driver) :
    ({c with driver,commands := rest} : Client).Sound := by
  refine ⟨?_,fun entry member => sound.issued entry (fewer entry member),?_,sound.recorded⟩
  · intro owner member
    exact keeps.holds (sound.holds owner (owner_of_fewer fewer member))
  · intro channel after present
    obtain ⟨s,there,kept,orderly⟩ := keeps.sessions channel after present
    have here := sound.tended channel s there
    exact here.follow kept (orderly here.orderly)

lemma opened_sound (maxFrameSize : Nat) (channelMax : UInt16) (next : Nat) :
    ({opened maxFrameSize channelMax with next} : Client).Sound := by
  refine ⟨List.forall_mem_nil _,List.forall_mem_nil _,?_,List.forall_mem_nil _⟩
  intro channel s present
  simp [opened,Driver.opened] at present

lemma Sound.call (sound : c.Sound) (holds : owner.Holds c.driver)
    (issued : Issued attaches (c.next + 1) owner command)
    (calls : ∀ reply y, reply < c.next → (reply,y) ∈ attaches → (reply,y) ∈ c.attaches)
    (recorded : ∀ call ∈ attaches, call.1 < c.next + 1) : ({c with attaches}.issue owner command : Client).Sound := by
  refine ⟨?_,?_,?_,recorded⟩
  · intro other member
    rw [mem_owners] at member
    rcases member with ⟨queued,member⟩ | held
    · rcases List.mem_append.mp member with old | new
      · exact sound.holds other (mem_owners.mpr (.inl ⟨queued,old⟩))
      · cases List.mem_singleton.mp new
        exact holds
    · exact sound.holds other (mem_owners.mpr (.inr held))
  · intro entry member
    rcases List.mem_append.mp member with old | new
    · exact (sound.issued entry old).later calls
    · cases List.mem_singleton.mp new
      exact issued
  intro channel s present
  obtain ⟨orderly,placed,opening,attaching⟩ := sound.tended channel s present
  refine ⟨orderly,placed,opening,?_⟩
  intro handle link reply there pending
  obtain ⟨own,old,before⟩ := attaching handle link reply there pending
  exact ⟨own,Nat.lt_succ_of_lt old,fun y member => before y (calls reply y old member)⟩

lemma Sound.issue (sound : c.Sound) (holds : owner.Holds c.driver)
    (issued : Issued c.attaches (c.next + 1) owner command) : (c.issue owner command).Sound :=
  sound.call holds issued (fun _ _ _ => id) fun call member => Nat.lt_succ_of_lt (sound.recorded call member)

lemma Sound.begun (sound : c.Sound) (begin_ : Begin) (reply : Reply) (fewer : ∀ entry ∈ rest, entry ∈ c.commands)
    (fresh : c.beginsAfresh = true) :
    ({c with driver := (c.driver.beginSession begin_ reply reply).1,commands := rest} : Client).Sound := by
  unfold beginsAfresh at fresh
  unfold beginSession
  cases allocated : c.driver.channels.allocate with
  | none => exact sound.follow fewer (.refl c.driver)
  | some entry =>
    obtain ⟨channel,_⟩ := entry
    rw [allocated] at fresh
    simp only [List.all_eq_true,Bool.not_eq_true'] at fresh
    have old := sound.follow fewer (.refl c.driver)
    refine ⟨?_,old.issued,?_,sound.recorded⟩
    · intro owner member
      have holds := old.holds owner member
      have apart := fresh owner (owner_of_fewer fewer member)
      cases owner with
      | connection => trivial
      | session x | link x =>
        have distinct : channel ≠ x.channel := fun same => by simp [Owner.onChannel,same] at apart
        simpa [Owner.Holds,ExtTreeMap.getElem?_insert,distinct] using holds
    intro other s present
    rcases of_insert present with ⟨rfl,rfl⟩ | ⟨same,present⟩
    · have none_ : ∀ handle : UInt32, (∅ : Map UInt32 Link)[handle]? = none := fun _ => by simp
      refine ⟨⟨.empty rfl rfl ⟨_,rfl⟩,?_,?_⟩,rfl,?_,?_⟩
      · intro handle link there
        cases (none_ handle).symm.trans there
      · intro handle link remote there
        cases (none_ handle).symm.trans there
      · intro awaited pending
        exact (some.inj pending).symm
      · intro handle link awaited there
        cases (none_ handle).symm.trans there
    · exact old.tended other s present

lemma Sound.attached (sound : c.Sound) (fewer : ∀ entry ∈ rest, entry ∈ c.commands)
    (present : c.driver.sessions[x.channel]? = some s) (holds : (Owner.session x).Holds c.driver)
    (recent : reply < c.next) (own : ∀ y, (reply,y) ∈ c.attaches → y = x)
    (fresh : c.attachesAfresh x.channel attach = true) : ({c with
        driver := {c.driver with
          sessions := c.driver.sessions.insert x.channel (s.attachLink attach creditMode reply reply).1},
        commands := rest} : Client).Sound := by
  have old := sound.follow fewer (.refl c.driver)
  have here := sound.tended _ s present
  simp only [attachesAfresh,present,Bool.and_eq_true,isNone_iff_eq_none] at fresh
  obtain ⟨unknown,free⟩ := fresh
  have orderly := attachLink_orderly here.orderly creditMode reply reply unknown
  rcases s.attachLink_cases attach creditMode reply reply with
    ⟨-,same⟩ | ⟨handle,handles,link,allocated,card,same⟩
  · exact sound.follow fewer (.replace present rfl (by rw [same]; exact .refl) (by rw [same]; exact id))
  rw [allocated] at free
  simp only [List.all_eq_true,Bool.not_eq_true'] at free
  rw [same] at orderly ⊢
  refine ⟨?_,old.issued,?_,sound.recorded⟩
  · intro owner member
    have before := old.holds owner member
    have apart := free owner (owner_of_fewer fewer member)
    cases owner with
    | connection => trivial
    | session y =>
      intro after there
      rcases of_insert there with ⟨equal,rfl⟩ | ⟨-,there⟩
      · exact before s (equal ▸ present)
      · exact before after there
    | link y =>
      intro after there
      rcases of_insert there with ⟨equal,rfl⟩ | ⟨-,there⟩
      · obtain ⟨owned,links⟩ := before s (equal ▸ present)
        refine ⟨owned,?_⟩
        intro found lookup
        rcases of_insert lookup with ⟨same,-⟩ | ⟨-,lookup⟩
        · simp [Owner.names,equal,same] at apart
        · exact links found lookup
      · exact before after there
  intro channel after there
  rcases of_insert there with ⟨rfl,rfl⟩ | ⟨equal,there⟩
  · refine ⟨orderly,here.placed,here.opening,?_⟩
    intro other found awaited lookup pending
    rcases of_insert lookup with ⟨rfl,rfl⟩ | ⟨equal,lookup⟩
    · cases (congrArg LinkCard.pendingAttach card).symm.trans pending
      refine ⟨(congrArg LinkCard.events card).symm,recent,?_⟩
      intro y call
      rw [own y call,holds s present]
    · exact here.attaching other found awaited lookup pending
  · exact old.tended channel after there

lemma Sound.handled (sound : c.Sound) (fewer : ∀ entry ∈ rest, entry ∈ c.commands)
    (issued : Issued c.attaches c.next owner command) (holds : owner.Holds c.driver)
    (fresh : c.admits command = true) (ok : c.driver.handleCommand command = .ok result) :
    (result.2.foldl take {c with driver := result.1,commands := rest}).Sound := by
  cases on : command.channel with
  | none =>
    cases issued with
    | beginSession begin_ reply =>
      cases ok
      obtain ⟨_,tame⟩ := c.driver.beginSession_tame .quiet begin_ reply reply
      rw [foldl_take id tame]
      exact sound.begun begin_ reply fewer fresh
    | _ => cases on
  | some channel =>
    rcases handleCommand_on on ok with ⟨same,-,-,tame⟩ | ⟨s,_,_,present,-,same,tame,moved⟩
    · rw [foldl_take id (tame .quiet fun _ => trivial),same]
      exact sound.follow fewer (.refl c.driver)
    rw [foldl_take id tame,same]
    rcases moved with ⟨attach,creditMode,_,_,rfl,rfl⟩ | moved
    · cases issued with
      | attachLink _ _ _ _ old own => exact sound.attached fewer present holds old own fresh
    obtain ⟨kept,orderly,-⟩ := moved (sound.tended _ s present).orderly
    exact sound.follow fewer (.replace present rfl kept fun _ => orderly)

section

variable {result : Client × List Effect}

lemma process_ok (ok : c.process = some result) :
    ∃ owner command rest out, c.commands = (owner,command)::rest ∧ c.driver.handleCommand command = .ok out ∧
      result = (out.2.foldl take {c with driver := out.1,commands := rest},out.2) := by
  unfold process at ok
  split at ok
  · cases ok
  rename_i owner command rest queue
  split at ok
  · cases ok
  rename_i handled
  cases ok
  exact ⟨owner,command,rest,_,queue,handled,rfl⟩

lemma receive_ok (ok : c.receive order frame = some result) :
    ∃ out, c.driver.routeSessionFrame order frame = .ok out ∧
      result = (out.2.foldl take {c with driver := out.1},out.2) := by
  unfold receive handleFrame at ok
  split at ok
  next handled =>
    cases ok
    split at handled
    · cases handled
    · cases handled
    · cases handled
    split at handled
    · cases handled
    rename_i routed
    cases handled
    exact ⟨_,routed,rfl⟩
  · cases ok

lemma process_sound (sound : c.Sound) (fresh : c.afresh .process = true)
    (ok : c.process = some result) : result.1.Sound := by
  obtain ⟨owner,command,rest,_,queue,handled,rfl⟩ := process_ok ok
  have member : (owner,command) ∈ c.commands := by simp [queue]
  have fewer : ∀ entry ∈ rest, entry ∈ c.commands := by
    intro entry inside
    simp [queue,inside]
  have admitted : c.admits command = true := by simpa [afresh,queue] using fresh
  exact sound.handled fewer (sound.issued _ member)
    (sound.holds owner (mem_owners.mpr (.inl ⟨command,member⟩))) admitted handled

end

lemma Sound.gain_session (sound : c.Sound) (holds : (Owner.session x).Holds c.driver) :
    ({c with sessions := c.sessions ++ [x]} : Client).Sound := by
  refine {sound with holds := ?_}
  intro owner member
  rw [mem_owners] at member
  rcases member with queued | ⟨y,held,rfl⟩ | held
  · exact sound.holds owner (mem_owners.mpr (.inl queued))
  · rcases List.mem_append.mp held with old | new
    · exact sound.holds _ (mem_owners.mpr (.inr (.inl ⟨y,old,rfl⟩)))
    · cases List.mem_singleton.mp new
      exact holds
  · exact sound.holds owner (mem_owners.mpr (.inr (.inr held)))

lemma Sound.gain_link (sound : c.Sound) {x : LinkHandle} (holds : (Owner.link x).Holds c.driver) :
    ({c with links := c.links ++ [x]} : Client).Sound := by
  refine {sound with holds := ?_}
  intro owner member
  rw [mem_owners] at member
  rcases member with queued | held | ⟨y,held,rfl⟩
  · exact sound.holds owner (mem_owners.mpr (.inl queued))
  · exact sound.holds owner (mem_owners.mpr (.inr (.inl held)))
  rcases List.mem_append.mp held with old | new
  · exact sound.holds _ (mem_owners.mpr (.inr (.inr ⟨y,old,rfl⟩)))
  · cases List.mem_singleton.mp new
    exact holds

lemma lookup_mem {α β : Type} [BEq α] [LawfulBEq α] {entries : List (α × β)} {key : α} {value : β}
    (found : entries.lookup key = some value) : (key,value) ∈ entries := by
  obtain ⟨_,_,split,-⟩ := List.lookup_eq_some_iff.mp found
  simp [split]

lemma Sound.answered (sound : c.Sound) (present : c.driver.sessions[channel]? = some s)
    (free : s.remoteHandles attach.handle = none) : ((s.onPeerAttach attach).2.foldl take {c with
        driver := {c.driver with
          sessions := c.driver.sessions.insert channel (s.onPeerAttach attach).1}}).Sound := by
  have here := sound.tended channel s present
  have keeps : Driver.Keeps c.driver
      {c.driver with sessions := c.driver.sessions.insert channel (s.onPeerAttach attach).1} :=
    .replace present rfl Session.onPeerAttach_keeps
      (fun _ => onPeerAttach_orderly here.orderly free)
  have moved := sound.follow (fun _ => id) keeps
  rcases Session.onPeerAttach_cases with same | ⟨handle,link,after,flow,there,card,same⟩
  · rw [same] at moved ⊢
    exact moved
  rw [same] at moved ⊢
  have quiet : Tame s.localChannel .quiet (queueFlow s.localChannel flow) := .queueFlow flow fun _ _ => trivial
  rw [List.foldl_append,foldl_take id quiet]
  cases pending : link.pendingAttach with
  | none => exact moved
  | some reply =>
    obtain ⟨own,-,calls⟩ := here.attaching handle link reply there pending
    simp only [replyAttached,List.foldl_cons,List.foldl_nil,take]
    split
    next x call =>
      apply moved.gain_link
      intro session found
      rw [calls x (lookup_mem call)] at found ⊢
      simp only [getElem?_insert_self,some.injEq] at found
      subst found
      refine ⟨rfl,?_⟩
      intro bound lookup
      simp only [getElem?_insert_self,some.injEq] at lookup
      subst lookup
      exact (congrArg LinkCard.events card).trans own.symm
    · exact moved

lemma onPeerBegin_ok (ok : d.onPeerBegin channel begin_ = .ok result) : ∃ number s, d.sessions[number]? = some s ∧
      result = ({d with
          remoteChannels := Function.update d.remoteChannels channel (some number),
          sessions := d.sessions.insert number (s.onPeerBegin channel begin_).1},
        (s.onPeerBegin channel begin_).2) := by
  unfold Driver.onPeerBegin at ok
  split at ok
  · cases ok
  split at ok
  · cases ok
  rename_i s present
  split at ok
  · exact ⟨_,s,present,(Except.ok.inj ok).symm⟩
  · cases ok

lemma Sound.mapped (sound : c.Sound) (ok : c.driver.onPeerBegin channel begin_ = .ok result) :
    (result.2.foldl take {c with driver := result.1}).Sound := by
  obtain ⟨number,s,present,rfl⟩ := onPeerBegin_ok ok
  have here := sound.tended number s present
  obtain ⟨kept,orderly⟩ := Session.onPeerBegin_keeps
  have keeps : Driver.Keeps c.driver {c.driver with
      remoteChannels := Function.update c.driver.remoteChannels channel (some number),
      sessions := c.driver.sessions.insert number (s.onPeerBegin channel begin_).1} :=
    .replace present rfl kept orderly
  have moved := sound.follow (fun _ => id) keeps
  rcases Session.onPeerBegin_effects with none_ | ⟨reply,pending,given⟩
  · rw [none_]
    exact moved
  rw [given]
  apply moved.gain_session
  intro session found
  rw [here.placed] at found
  simp only [getElem?_insert_self,some.injEq] at found
  subst found
  exact kept.events.trans (here.opening reply pending).symm

lemma onPeerEnd_tame (d : Driver) (scope : Scope) (channel : UInt16) (error : Option AmqpError) :
    ∃ number, Tame number scope (d.onPeerEnd channel error).2 := by
  unfold Driver.onPeerEnd
  cases d.remoteChannels channel with
  | none => exact ⟨0,.nil⟩
  | some number =>
    have ended : ∀ s : Session, Tame number scope (s.onPeerEnd error).2 := by
      intro s
      unfold Session.onPeerEnd
      simp only
      split
      · exact .one trivial
      · exact .one trivial
    refine ⟨number,.append (.append ?_ ?_) ?_⟩
    · split
      · exact ended _
      · exact .nil
    · split
      · exact .nil
      · exact .one ⟨rfl,fun _ found => (nomatch found),fun _ same => (nomatch same)⟩
    split
    · exact .dropped _
    · exact .nil

/-- What a frame may hand the user: at most one session or link. -/
inductive Handing : List Effect → Prop
  | none : Handing []
  | opened (reply : Reply) (opened : SessionOpened) : Handing [.opened reply (.ok opened)]
  | attached (reply : Reply) (attached : LinkAttached) : Handing [.attached reply (.ok attached)]

lemma Handing.queued {effects : List Effect} (handing : Handing effects) : queued effects = [] := by
  cases handing <;> rfl

lemma routeSessionFrame_handing (own : ∀ handle, scope.named handle) (ok : d.routeSessionFrame order frame = .ok result) :
    ∃ first rest channel, result.2 = first ++ rest ∧ Handing first ∧ Tame channel scope rest := by
  unfold routeSessionFrame at ok
  split at ok
  · cases ok
  split at ok
  · obtain ⟨_,s,-,rfl⟩ := onPeerBegin_ok ok
    rcases Session.onPeerBegin_effects with none_ | ⟨reply,-,given⟩
    · exact ⟨[],[],0,none_,.none,.nil⟩
    · exact ⟨_,[],0,given,.opened ..,.nil⟩
  · cases ok
    obtain ⟨number,tame⟩ := onPeerEnd_tame d scope frame.channel _
    exact ⟨[],_,number,rfl,.none,tame⟩
  split at ok
  · cases ok
  rcases onSession_ok ok with ⟨-,rfl⟩ | ⟨s,out,-,ran,rfl⟩
  · exact ⟨[],[],0,rfl,.none,.nil⟩
  by_cases attaches : ∃ attach, frame.performative = .attach attach
  · obtain ⟨attach,attaches⟩ := attaches
    rw [attaches] at ran
    cases ran
    rcases Session.onPeerAttach_cases with same | ⟨handle,link,after,flow,-,-,same⟩
    · exact ⟨[],[],0,congrArg Prod.snd same,.none,.nil⟩
    refine ⟨_,_,_,congrArg Prod.snd same,?_,.queueFlow flow fun handle _ => own handle⟩
    cases link.pendingAttach with
    | none => exact .none
    | some => exact .attached ..
  · have tame := handleLinkFrame_tame own (fun attach same => absurd ⟨attach,same⟩ attaches) ran
    exact ⟨[],out.2,_,rfl,.none,tame⟩

lemma receive_handing {result : Client × List Effect} (scope : Scope) (own : ∀ handle, scope.named handle)
    (keeps : ¬ scope.hands) (ok : c.receive order frame = some result) :
    ∃ driver first rest channel, result.2 = first ++ rest ∧ result.1 = first.foldl take {c with driver} ∧
      Handing first ∧ Tame channel scope rest := by
  obtain ⟨out,routed,rfl⟩ := receive_ok ok
  obtain ⟨first,rest,channel,split,handing,tame⟩ := routeSessionFrame_handing own routed
  refine ⟨out.1,first,rest,channel,split,?_,handing,tame⟩
  rw [split,List.foldl_append,foldl_take keeps tame]

variable {error : Option AmqpError}

section

variable (sound : c.Sound)

include sound

lemma Sound.ended : ((c.driver.onPeerEnd channel error).2.foldl take
      {c with driver := (c.driver.onPeerEnd channel error).1}).Sound := by
  cases resolved : c.driver.remoteChannels channel with
  | none =>
    unfold Driver.onPeerEnd
    rw [resolved]
    exact sound
  | some =>
    obtain ⟨_,tame⟩ := onPeerEnd_tame c.driver .quiet channel error
    rw [foldl_take id tame]
    apply sound.follow fun _ => id
    unfold Driver.onPeerEnd
    rw [resolved]
    exact .erase rfl

lemma Sound.routed (fresh : c.afresh (.frame order frame) = true)
    (ok : c.driver.routeSessionFrame order frame = .ok result) :
    (result.2.foldl take {c with driver := result.1}).Sound := by
  unfold routeSessionFrame at ok
  split at ok
  · cases ok
  split at ok
  · exact sound.mapped ok
  · cases ok
    exact sound.ended
  rename_i same
  split at ok
  · cases ok
  rename_i number resolved
  rcases onSession_ok ok with ⟨-,rfl⟩ | ⟨s,out,present,ran,rfl⟩
  · exact sound
  simp only [afresh,resolved,present] at fresh
  have here := sound.tended number s present
  obtain ⟨kept,orderly⟩ := handleLinkFrame_orderly here.orderly fresh ran
  by_cases attaches : ∃ attach, frame.performative = .attach attach
  · obtain ⟨_,attaches⟩ := attaches
    rw [attaches] at ran fresh
    cases ran
    exact sound.answered present (isNone_iff_eq_none.mp fresh)
  have tame : Tame s.localChannel .quiet out.2 := handleLinkFrame_tame (fun _ => trivial)
    (fun attach same => absurd ⟨attach,same⟩ attaches) ran
  rw [foldl_take id tame]
  exact sound.follow (fun _ => id) (.replace present rfl kept (fun _ => orderly))

lemma receive_sound {result : Client × List Effect}
    (fresh : c.afresh (.frame order frame) = true) (ok : c.receive order frame = some result) : result.1.Sound := by
  obtain ⟨_,routed,rfl⟩ := receive_ok ok
  exact sound.routed fresh routed

lemma Sound.drop {sessions : List SessionHandle} {links : List LinkHandle}
    (fewerSessions : ∀ x ∈ sessions, x ∈ c.sessions) (fewerLinks : ∀ x ∈ links, x ∈ c.links) :
    ({c with sessions,links} : Client).Sound := by
  refine {sound with holds := ?_}
  intro owner member
  apply sound.holds
  rw [mem_owners] at member ⊢
  rcases member with queued | ⟨x,held,same⟩ | ⟨x,held,same⟩
  · exact .inl queued
  · exact .inr (.inl ⟨x,fewerSessions x held,same⟩)
  · exact .inr (.inr ⟨x,fewerLinks x held,same⟩)

lemma through_sound {x : LinkHandle} (issued : Issued c.attaches (c.next + 1) (.link x) command)
    (ok : c.through x command = some next) : next.Sound := by
  unfold through at ok
  split at ok
  next held =>
    cases ok
    exact sound.issue (sound.holds _ (mem_owners.mpr (.inr (.inr ⟨x,held,rfl⟩)))) issued
  · cases ok

lemma within_sound (issued : Issued c.attaches (c.next + 1) (.session x) command)
    (ok : c.within x command = some next) : next.Sound := by
  unfold within at ok
  split at ok
  next held =>
    cases ok
    exact sound.issue (sound.holds _ (mem_owners.mpr (.inr (.inl ⟨x,held,rfl⟩)))) issued
  · cases ok

lemma call_sound
    (ok : ({c with attaches := (c.next,x)::c.attaches} : Client).within x
      (.attachLink x.channel attach creditMode c.next c.next) = some next) : next.Sound := by
  unfold within at ok
  split at ok
  next held =>
    cases ok
    have calls : ∀ reply y, reply < c.next → (reply,y) ∈ (c.next,x)::c.attaches → (reply,y) ∈ c.attaches := by
      intro reply y old member
      rcases List.mem_cons.mp member with same | recorded
      · cases same
        exact absurd old (Nat.lt_irrefl _)
      · exact recorded
    have holds := sound.holds _ (mem_owners.mpr (.inr (.inl ⟨x,held,rfl⟩)))
    refine sound.call holds (.attachLink x attach creditMode c.next (Nat.lt_succ_self _) ?_) calls ?_
    · intro y member
      rcases List.mem_cons.mp member with same | recorded
      · cases same
        rfl
      · exact absurd (sound.recorded _ recorded) (Nat.lt_irrefl _)
    intro call member
    rcases List.mem_cons.mp member with same | recorded
    · cases same
      exact Nat.lt_succ_self _
    · exact Nat.lt_succ_of_lt (sound.recorded call recorded)
  · cases ok

lemma step_sound {label : ClientStep} (fresh : c.afresh label = true)
    (ok : c.step label = some next) : next.Sound := by
  cases label with
  | beginSession =>
    cases ok
    exact sound.issue trivial (.beginSession ..)
  | attach => exact call_sound sound ok
  | send => exact through_sound sound (.sendTransfer ..) ok
  | disposeRange => exact through_sound sound (.sendDisposition ..) ok
  | afterConsume => exact through_sound sound (.grantCredit ..) ok
  | credit => exact through_sound sound (.sendFlow _ _ rfl) ok
  | detach =>
    obtain ⟨_,sent,rfl⟩ := map_eq_some_iff.mp ok
    exact (through_sound sound (.detachLink ..) sent).drop (fun _ => id) fun _ held => List.mem_of_mem_erase held
  | lose =>
    cases ok
    exact sound.drop (fun _ => id) fun _ held => List.mem_of_mem_erase held
  | endSession =>
    obtain ⟨_,sent,rfl⟩ := map_eq_some_iff.mp ok
    exact (within_sound sound (.endSession ..) sent).drop (fun _ held => List.mem_of_mem_erase held) fun _ => id
  | dropSession =>
    cases ok
    exact sound.drop (fun _ held => List.mem_of_mem_erase held) fun _ => id
  | process =>
    obtain ⟨_,processed,rfl⟩ := map_eq_some_iff.mp ok
    exact process_sound sound fresh processed
  | frame =>
    obtain ⟨_,received,rfl⟩ := map_eq_some_iff.mp ok
    exact receive_sound sound fresh received

end

end Client

/-- In every state of a run in which no number is given out while its former owner is left, the
next command of the driver is confined to the link or session it was issued through. -/
theorem commands_confined (maxFrameSize : Nat) (channelMax : UInt16) (labels : List ClientStep) (final : Client)
    (fresh : Transition.Meets Client.step (fun c label => c.afresh label = true)
      (.opened maxFrameSize channelMax) labels)
    (ok : Transition.run Client.step (.opened maxFrameSize channelMax) labels = some final) (owner : Owner)
    (command : DriverCommand) (rest : List (Owner × DriverCommand)) (queue : final.commands = (owner,command)::rest)
    (result : Driver × List Effect) (handled : final.driver.handleCommand command = .ok result) :
    owner.Confined final.driver result.1 result.2 := by
  have sound : final.Sound := run_invariant (fun sound => step_sound sound) (opened_sound maxFrameSize channelMax 0) fresh ok
  have member : (owner,command) ∈ final.commands := by simp [queue]
  exact (sound.issued _ member).confined
    (sound.holds owner (mem_owners.mpr (.inl ⟨command,member⟩))) sound.tended handled

def oneProducer : List ClientStep :=
  [.beginSession ⟨none,0,100,100,7⟩,.process,.frame .byKey ⟨3,.begin_ ⟨some 0,0,100,100,7⟩,none⟩,
   .attach ⟨0,0⟩ {name := "first",handle := 0,role := .sender} .manual,.process,
   .frame .byKey ⟨3,.attach {name := "first",handle := 5,role := .receiver},none⟩]

def secondProducer : List ClientStep :=
  [.attach ⟨0,0⟩ {name := "second",handle := 0,role := .sender} .manual,.process,
   .frame .byKey ⟨3,.attach {name := "second",handle := 6,role := .receiver},none⟩]

theorem commands_confined_reused : ∃ final command rest result,
    Transition.run Client.step (.opened 512 7)
      (oneProducer ++ [.detach ⟨0,0,0,1⟩,.process] ++ secondProducer ++ [.send ⟨0,0,0,3⟩ [1] false none true]) =
        some final ∧
    final.commands = (.link ⟨0,0,0,3⟩,command)::rest ∧
    final.driver.handleCommand command = .ok result ∧
    LinkHandle.Confined ⟨0,0,0,3⟩ final.driver result.1 result.2 := by
  obtain ⟨final,ok,queue,handled⟩ : ∃ final, run step (.opened 512 7)
      (oneProducer ++ [.detach ⟨0,0,0,1⟩,.process] ++ secondProducer ++ [.send ⟨0,0,0,3⟩ [1] false none true]) =
        some final ∧
      final.commands = [(.link ⟨0,0,0,3⟩,.sendTransfer 0 0 ⟨[1],false,0,none,some 4⟩)] ∧
      (final.driver.handleCommand (.sendTransfer 0 0 ⟨[1],false,0,none,some 4⟩)).isOk = true :=
    reaches_of_any (by decide)
  cases result : final.driver.handleCommand (.sendTransfer 0 0 ⟨[1],false,0,none,some 4⟩) with
  | error =>
    rw [result] at handled
    cases handled
  | ok result' =>
    exact ⟨final,_,_,result',ok,queue,result,commands_confined 512 7 _ final
      (meets_of_check (by decide)) ok _ _ _ queue _ result⟩

/-- The peer detaches the first producer, the second takes its handle, and the detach of the
dropped first producer removes the second. -/
theorem dropped_handle_detaches_other : ∃ final command rest result,
    Transition.run Client.step (.opened 512 7)
      (oneProducer ++ [.frame .byKey ⟨3,.detach ⟨5,true,none⟩,none⟩] ++ secondProducer ++ [.detach ⟨0,0,0,1⟩]) =
        some final ∧
    final.commands = (.link ⟨0,0,0,1⟩,command)::rest ∧
    final.driver.handleCommand command = .ok result ∧
    ¬ LinkHandle.Confined ⟨0,0,0,1⟩ final.driver result.1 result.2 := by
  obtain ⟨final,ok,queue,owner⟩ : ∃ final, run step (.opened 512 7)
      (oneProducer ++ [.frame .byKey ⟨3,.detach ⟨5,true,none⟩,none⟩] ++ secondProducer ++ [.detach ⟨0,0,0,1⟩]) =
        some final ∧
      final.commands = [(.link ⟨0,0,0,1⟩,.detachLink 0 0 true none 3)] ∧
      (final.driver.sessions[(0 : UInt16)]?.bind (fun s => s.links[(0 : UInt32)]?)).map Link.events = some 2 :=
    reaches_of_any (by decide)
  obtain ⟨_,found,events⟩ := map_eq_some_iff.mp owner
  obtain ⟨s,present,there⟩ := bind_eq_some_iff.mp found
  have handled : final.driver.handleCommand (.detachLink 0 0 true none 3) =
      .ok ({final.driver with sessions := final.driver.sessions.insert 0 (s.detachLink 0 true none 3).1},
        (s.detachLink 0 true none 3).2) := by
    simp [handleCommand,onSession,present]
  refine ⟨final,_,_,_,ok,queue,handled,?_⟩
  intro confined
  obtain ⟨_,moved,others⟩ := confined.links 0 s present
  rw [getElem?_insert_self,some.injEq] at moved
  have foreign : ∀ other, s.links[(0 : UInt32)]? = some other → other.events ≠ 1 := by
    intro other same
    rw [there,some.injEq] at same
    subst same
    simp [events]
  have kept := (others 0 foreign).1
  rw [← moved,there] at kept
  simp [detachLink,there] at kept

end Ramqp
