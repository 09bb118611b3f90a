import Ramqp.Confinement
import Ramqp.Semantics.Supervisor

/-! What the supervisor's own work leaves alone, said once for each of its operations: the ledger
of deliveries and frames, the dispositions handed to the driver, and the number of places in
which an awaited send waits. -/
namespace Ramqp

open Std List

def DriverCommand.token : DriverCommand → Option Reply
  | .sendTransfer _ _ message => message.reply
  | _ => none

namespace Supervised

variable {proxy : Proxy} {request : ReplayReq}

def uses (s : Supervised) (token : Reply) : Nat :=
  (s.commands.filterMap (·.command.token)).count token +
  (s.replays.filterMap (·.message.reply)).count token +
  (s.orphans.filterMap (·.message.reply)).count token +
  (s.proxies.filterMap (·.request.message.reply)).count token +
  (s.outcomes.map SendOutcome.reply).count token

structure Ledger where
  epoch : Nat
  received : List Received
  wire : List (Nat × Frame)
  consumers : UInt16 × UInt32 → ConsumerState
  commands : List UserCommand
  next : Nat

def ledger (s : Supervised) : Ledger := ⟨s.epoch,s.received,s.wire,s.consumers,s.commands,s.next⟩

structure Quiet (spent : List Reply) (s next : Supervised) : Prop where
  ledger : next.ledger = s.ledger
  client : ∀ after, next.client = some after → ∀ entry ∈ after.commands,
    (∀ d, ¬ entry.2.disposes d) ∨ ∃ c, s.client = some c ∧ entry ∈ c.commands
  uses : ∀ token, next.uses token ≤ s.uses token + spent.count token

namespace Quiet

variable {s middle next : Supervised}

lemma same (ledger : next.ledger = s.ledger) (client : next.client = s.client)
    (uses : ∀ token, next.uses token ≤ s.uses token) : Quiet [] s next :=
  ⟨ledger,fun after present _ member => .inr ⟨after,client ▸ present,member⟩,uses⟩

lemma still (ledger : next.ledger = s.ledger) (client : next.client = s.client) (uses : next.uses = s.uses) :
    Quiet [] s next := same ledger client fun token => (congrFun uses token).le

lemma refl (s : Supervised) : Quiet [] s s := still rfl rfl rfl

lemma trans {first second : List Reply} (head : Quiet first s middle) (tail : Quiet second middle next) :
    Quiet (first ++ second) s next := by
  refine ⟨tail.ledger.trans head.ledger,?_,?_⟩
  · intro after present entry member
    rcases tail.client after present entry member with silent | ⟨between,there,inside⟩
    · exact .inl silent
    · exact head.client between there entry inside
  intro token
  have before := head.uses token
  have after := tail.uses token
  rw [count_append]
  omega

lemma issue {spent : List Reply} {c : Client} {owner : Owner} {command : DriverCommand}
    (present : s.client = some c) (silent : ∀ d, ¬ command.disposes d) (ledger : next.ledger = s.ledger)
    (moved : ∀ after, next.client = some after → after.commands = c.commands ++ [(owner,command)])
    (uses : ∀ token, next.uses token ≤ s.uses token + spent.count token) : Quiet spent s next := by
  refine ⟨ledger,?_,uses⟩
  intro after there entry member
  rw [moved after there] at member
  rcases mem_append.mp member with old | new
  · exact .inr ⟨c,present,old⟩
  · cases mem_singleton.mp new
    exact .inl silent

end Quiet

section

variable (s)

lemma resolve_quiet (request : ReplayReq) (result : Except Failure DeliveryState) :
    Quiet request.message.reply.toList s (s.resolve request result) := by
  unfold resolve
  split
  next silent =>
    rw [silent]
    exact .refl s
  rename_i awaited
  refine ⟨rfl,fun after present entry member => .inr ⟨after,present,member⟩,?_⟩
  intro token
  simp only [uses,awaited,map_append,map_cons,map_nil,count_append,Option.toList_some]
  omega

lemma lose_quiet : Quiet [] s s.lose := by
  unfold lose
  split
  · exact .refl s
  refine ⟨rfl,fun after present => (nomatch present),?_⟩
  intro token
  simp only [uses,filterMap_append,filterMap_map,count_append,filterMap_nil,count_nil,Function.comp_def]
  omega

lemma forgetTarget_quiet (target : OpenTarget) : Quiet [] s (s.forgetTarget target) := by
  cases target with
  | session => exact .still rfl rfl rfl
  | link =>
    simp only [forgetTarget]
    split
    · exact .refl s
    · exact .same rfl rfl fun _ => Nat.le_refl _

lemma failed_quiet (target : OpenTarget) (resume : Resume) (failure : Failure) :
    Quiet [] s (s.failed target resume failure) := by
  cases resume with
  | user => exact (s.forgetTarget_quiet target).trans (.still rfl rfl rfl)
  | replay => exact s.lose_quiet.trans (.still rfl rfl rfl)

lemma openSession_quiet (vchan : UInt16) (resume : Resume) :
    Quiet [] s (s.openSession vchan resume) := by
  unfold openSession
  split
  · split
    · exact s.failed_quiet ..
    split
    · exact s.failed_quiet ..
    next present =>
      exact .issue present (fun _ => id) rfl (fun after there => by cases there; rfl)
        (fun _ => Nat.le_refl _)
  · exact s.failed_quiet ..

lemma openLink_quiet (vchan : UInt16) (vhandle : UInt32) (resume : Resume) :
    Quiet [] s (s.openLink vchan vhandle resume) := by
  unfold openLink
  split
  · split
    · exact s.failed_quiet ..
    split
    · exact s.failed_quiet ..
    split
    · exact s.failed_quiet ..
    split
    · exact s.failed_quiet ..
    next present =>
      exact .issue present (fun _ => id) rfl (fun after there => by cases there; rfl)
        (fun _ => Nat.le_refl _)
  · exact s.failed_quiet ..

lemma advance_quiet (plan : List OpenTarget) : Quiet [] s (s.advance plan) := by
  cases plan with
  | nil => exact .still rfl rfl rfl
  | cons target =>
    cases target with
    | session => exact s.openSession_quiet ..
    | link => exact s.openLink_quiet ..

lemma resumed_quiet (resume : Resume) (reply : Reply → Effect) :
    Quiet [] s (s.resumed resume reply) := by
  cases resume with
  | user => exact .still rfl rfl rfl
  | replay plan => exact s.advance_quiet plan

lemma sessionOpened_quiet (vchan : UInt16) (real : SessionHandle) :
    Quiet [] s (s.sessionOpened vchan real) := by
  unfold sessionOpened
  split
  · exact .refl s
  · exact .same rfl rfl fun _ => Nat.le_refl _

lemma linkAttached_quiet (vchan : UInt16) (vhandle : UInt32) (real : RealLink) :
    Quiet [] s (s.linkAttached vchan vhandle real) := by
  unfold linkAttached
  split
  · exact .refl s
  split
  · exact .refl s
  · exact .same rfl rfl fun _ => Nat.le_refl _

end

lemma count_proxies {proxies : List Proxy} (member : proxy ∈ proxies) (token : Reply) :
    (proxies.filterMap (·.request.message.reply)).count token = proxy.request.message.reply.toList.count token +
        ((proxies.erase proxy).filterMap (·.request.message.reply)).count token := by
  rw [((perm_cons_erase member).filterMap _).count_eq]
  cases awaited : proxy.request.message.reply with
  | none => simp [awaited]
  | some => simp [awaited,count_cons,Nat.add_comm]

section

variable (s)

lemma orphan_quiet (n : Reply) : Quiet [] s (s.orphan n) := by
  unfold orphan
  split
  next proxy found =>
    refine .same rfl rfl ?_
    intro token
    have counted := count_proxies (mem_of_find?_eq_some found) token
    have listed : List.filterMap (·.message.reply) [proxy.request] = proxy.request.message.reply.toList := by
      cases awaited : proxy.request.message.reply <;> simp [awaited]
    simp only [uses,filterMap_append,count_append,listed]
    omega
  · exact .refl s

lemma die_quiet : Quiet [] s s.die := by
  unfold die
  split
  · exact s.lose_quiet.trans (s.lose.failed_quiet ..)
  · exact s.lose_quiet

lemma pass_quiet (owner : Owner) (command : Reply → DriverCommand) (reply : Option Reply)
    (silent : ∀ n d, ¬ (command n).disposes d) : Quiet [] s (s.pass owner command reply) := by
  unfold pass
  split
  · exact .refl s
  rename_i c present
  exact .issue present (silent c.next) rfl (fun after there => by cases there; rfl)
    (fun _ => Nat.le_refl _)

lemma release_quiet (sessions : SessionHandle → Bool) (links : LinkHandle → Bool) :
    Quiet [] s (s.release sessions links) := by
  refine ⟨rfl,?_,fun _ => Nat.le_refl _⟩
  intro after present entry member
  obtain ⟨c,there,rfl⟩ := Option.map_eq_some_iff.mp present
  exact .inr ⟨c,there,member⟩

variable (vchan : UInt16)

lemma endSession_quiet (error : Option AmqpError) (reply : Reply) :
    Quiet [] s (s.endSession vchan error reply) := by
  have erased : Quiet [] s {s with sessions := s.sessions.erase vchan} := .same rfl rfl fun _ => Nat.le_refl _
  unfold endSession
  simp only
  split
  · exact (erased.trans (pass_quiet _ _ _ _ fun _ _ => id)).trans (release_quiet ..)
  · exact erased.trans (.still rfl rfl rfl)

lemma detachLink_quiet (vhandle : UInt32) (closed : Bool)
    (error : Option AmqpError) (reply : Reply) : Quiet [] s (s.detachLink vchan vhandle closed error reply) := by
  have forgotten := s.forgetTarget_quiet (.link vchan vhandle)
  unfold detachLink
  simp only
  split
  · exact (forgotten.trans (pass_quiet _ _ _ _ fun _ _ => id)).trans (release_quiet ..)
  · exact forgotten.trans (.still rfl rfl rfl)

lemma sendTransfer_quiet (vhandle : UInt32) (message : PendingSend) :
    Quiet message.reply.toList s (s.sendTransfer vchan vhandle message) := by
  unfold sendTransfer
  split
  · split
    · exact s.resolve_quiet ⟨vchan,vhandle,message⟩ _
    next present =>
      split
      next silent =>
        rw [silent]
        exact .issue present (fun _ => id) rfl (fun after there => by cases there; rfl) fun _ => Nat.le_refl _
      rename_i awaited
      refine .issue present (fun _ => id) rfl (fun after there => by cases there; rfl) ?_
      intro token
      simp only [uses,awaited,filterMap_cons,count_cons,Option.toList_some,count_nil]
      omega
  · exact s.resolve_quiet ⟨vchan,vhandle,message⟩ _

lemma sendFlow_quiet (flow : Flow) : Quiet [] s (s.sendFlow vchan flow) := by
  unfold sendFlow
  split
  · split
    · exact s.pass_quiet _ _ _ fun _ _ => id
    · exact s.pass_quiet _ _ _ fun _ _ => id
  · exact .refl s

lemma grantCredit_quiet (vhandle credit : UInt32) :
    Quiet [] s (s.grantCredit vchan vhandle credit) := by
  unfold grantCredit
  split
  · exact s.pass_quiet _ _ _ fun _ _ => id
  · exact .refl s

lemma handleCommand_quiet (command : DriverCommand) (silent : ∀ d, ¬ command.disposes d) :
    Quiet command.token.toList s (s.handleCommand command) := by
  cases command with
  | beginSession begin_ events =>
    have begun : Quiet [] s {s with
        nextVchan := s.nextVchan + 1,
        sessions := s.sessions.insert s.nextVchan ⟨begin_,events,none,∅,0⟩} := .still rfl rfl rfl
    exact begun.trans (openSession_quiet ..)
  | attachLink =>
    simp only [handleCommand]
    split
    · exact .same rfl rfl fun _ => Nat.le_refl _
    · have attached : ∀ sessions, Quiet [] s {s with sessions} := fun _ => .same rfl rfl fun _ => Nat.le_refl _
      exact (attached _).trans (openLink_quiet ..)
  | endSession => exact s.endSession_quiet ..
  | detachLink => exact s.detachLink_quiet ..
  | sendTransfer => exact s.sendTransfer_quiet ..
  | sendDisposition vchan vhandle first last state settled =>
    exact absurd ⟨rfl,rfl⟩ (silent ⟨.receiver,first,last,settled,some state⟩)
  | sendFlow => exact s.sendFlow_quiet ..
  | grantCredit => exact s.grantCredit_quiet ..
  | closeConnection => exact .still rfl rfl rfl

lemma proxied_quiet (member : proxy ∈ s.proxies) (result : Except Failure DeliveryState) :
    Quiet [] s ({s with proxies := s.proxies.erase proxy}.resolve proxy.request result) := by
  let taken : Supervised := {s with proxies := s.proxies.erase proxy}
  have resolved := taken.resolve_quiet proxy.request result
  refine ⟨resolved.ledger,resolved.client,?_⟩
  intro token
  have moved := resolved.uses token
  have counted := count_proxies member token
  simp only [taken,uses] at moved ⊢
  omega

lemma replay_quiet {rest : List ReplayReq} (queue : s.replays = request::rest) :
    Quiet [] s ({s with replays := rest}.sendTransfer request.vchan request.vhandle request.message) := by
  let taken : Supervised := {s with replays := rest}
  have sent := taken.sendTransfer_quiet request.vchan request.vhandle request.message
  refine ⟨sent.ledger,sent.client,?_⟩
  intro token
  have moved := sent.uses token
  have counted : (s.replays.filterMap (·.message.reply)).count token =
      request.message.reply.toList.count token + (rest.filterMap (·.message.reply)).count token := by
    rw [queue]
    cases awaited : request.message.reply with
    | none => simp [awaited]
    | some => simp [awaited,count_cons,Nat.add_comm]
  simp only [taken,uses] at moved ⊢
  omega

lemma requeue_quiet (member : request ∈ s.orphans) :
    Quiet [] s {s with orphans := s.orphans.erase request,replays := s.replays ++ [request]} := by
  refine .same rfl rfl ?_
  intro token
  have counted := ((perm_cons_erase member).filterMap (·.message.reply)).count_eq token
  simp only [uses,filterMap_append,count_append]
  rw [counted,show request::s.orphans.erase request = [request] ++ s.orphans.erase request from rfl,
    filterMap_append,count_append]
  omega

end

structure Conserves (s next : Supervised) : Prop where
  uses : ∀ token, next.uses token ≤ s.uses token
  next : next.next = s.next

variable {s next : Supervised}

lemma Quiet.conserves (quiet : Quiet [] s next) : Conserves s next := ⟨quiet.uses,congrArg Ledger.next quiet.ledger⟩

lemma Conserves.same (uses : next.uses = s.uses) (later : next.next = s.next) : Conserves s next :=
  ⟨fun token => Nat.le_of_eq (congrFun uses token),later⟩

lemma Conserves.trans {middle : Supervised} (first : Conserves s middle) (second : Conserves middle next) :
    Conserves s next :=
  ⟨fun token => (second.uses token).trans (first.uses token),second.next.trans first.next⟩

lemma sendDisposition_conserves (s : Supervised) (vchan : UInt16) (vhandle first : UInt32) (last : Option UInt32)
    (state : DeliveryState) (settled : Bool) (reply : Option Reply) :
    Conserves s (s.sendDisposition vchan vhandle first last state settled reply) := by
  unfold sendDisposition
  split
  · unfold pass
    split <;> exact .same rfl rfl
  · split <;> exact .same rfl rfl

/-- What the supervisor makes of an effect: a frame on the wire, a delivery for the user, or work of its own. -/
lemma absorb_cases (s : Supervised) (effect : Effect) :
    (∃ frame, effect = .queue frame ∧ s.absorb effect = {s with wire := s.wire ++ [(s.epoch,frame)]}) ∨
    (∃ target delivery, s.absorb effect = s.deliver target delivery) ∨ Quiet [] s (s.absorb effect) := by
  cases effect with
  | queue frame => exact .inl ⟨frame,rfl,rfl⟩
  | sessionEnded => exact .inr (.inr (.refl s))
  | event =>
    refine .inr ?_
    simp only [absorb]
    split
    · exact .inl ⟨_,_,rfl⟩
    · exact .inr (.refl s)
  | opened =>
    refine .inr (.inr ?_)
    simp only [absorb]
    split
    · split
      · split
        · exact (s.sessionOpened_quiet ..).trans (resumed_quiet ..)
        · exact s.failed_quiet ..
      · exact .refl s
    · exact .refl s
  | attached =>
    refine .inr (.inr ?_)
    simp only [absorb]
    split
    · split
      · split
        · exact (s.linkAttached_quiet ..).trans (resumed_quiet ..)
        · exact s.failed_quiet ..
      · exact .refl s
    · exact .refl s
  | sent n result =>
    refine .inr (.inr ?_)
    simp only [absorb]
    split
    next found =>
      exact s.proxied_quiet (mem_of_find?_eq_some found) result
    · exact .refl s
  | done =>
    refine .inr (.inr ?_)
    simp only [absorb]
    split
    · exact .still rfl rfl rfl
    · exact .refl s
  | dropped n =>
    refine .inr (.inr ?_)
    simp only [absorb]
    split
    · split
      · exact s.failed_quiet ..
      · exact s.orphan_quiet n
    · exact s.orphan_quiet n

lemma absorb_conserves (s : Supervised) (effect : Effect) : Conserves s (s.absorb effect) := by
  rcases s.absorb_cases effect with ⟨_,-,same⟩ | ⟨_,_,same⟩ | quiet
  · rw [same]
    exact .same rfl rfl
  · rw [same]
    exact .same rfl rfl
  · exact quiet.conserves

lemma ran_conserves (s : Supervised) (result : Option (Client × List Effect)) : Conserves s (s.ran result) := by
  cases result with
  | none => exact s.die_quiet.conserves
  | some out =>
    have all : ∀ (effects : List Effect) (s : Supervised), Conserves s (effects.foldl absorb s) := by
      intro effects
      induction effects with
      | nil => exact fun s => .same rfl rfl
      | cons effect rest ih => exact fun s => (s.absorb_conserves effect).trans (ih (s.absorb effect))
    have moved : Conserves s {s with client := some out.1} := .same rfl rfl
    exact moved.trans (all out.2 _)

end Supervised

end Ramqp
