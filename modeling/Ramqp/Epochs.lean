import Ramqp.Supervision

/-! Dispositions across reconnects. The supervisor forwards every disposition of a link that is
mapped, so what keeps a disposition in the epoch of its deliveries is when it is taken up. -/
namespace Ramqp

open Std List Function Transition Client

namespace Client

variable {result : Client × List Effect}

lemma foldl_take_commands (effects : List Effect) (c : Client) : (effects.foldl take c).commands = c.commands := by
  induction effects generalizing c with
  | nil => rfl
  | cons effect rest ih =>
    rw [foldl_cons,ih]
    unfold take
    split
    · rfl
    · split <;> rfl
    · rfl

lemma process_disposes {c : Client} (ok : c.process = some result) :
    ∃ entry rest, c.commands = entry::rest ∧ result.1.commands = rest ∧
      ∀ frame ∈ queued result.2, ∀ d, frame.performative = .disposition d → entry.2.disposes d := by
  obtain ⟨_,command,rest,_,queue,handled,rfl⟩ := process_ok ok
  have wide : command.scope.Within ⟨fun _ => True,command.disposes,fun _ => True,True⟩ :=
    ⟨fun _ _ => trivial,fun _ => id,fun _ _ => trivial,fun _ => trivial⟩
  obtain ⟨_,tame⟩ := Driver.handleCommand_tame handled wide fun _ _ _ _ => trivial
  exact ⟨_,rest,queue,foldl_take_commands ..,fun frame member => (tame.queued_stays frame member).disposed⟩

lemma receive_disposes {c : Client} {order : IterOrder} {frame : Frame} (ok : c.receive order frame = some result) :
    result.1.commands = c.commands ∧ ∀ frame ∈ queued result.2, ∀ d, frame.performative ≠ .disposition d := by
  obtain ⟨_,_,_,_,split,moved,handing,tame⟩ := receive_handing ⟨fun _ => True,fun _ => False,fun _ => True,False⟩
    (fun _ => trivial) id ok
  rw [moved,foldl_take_commands,split,queued_append,handing.queued]
  exact ⟨rfl,fun frame member d same => (tame.queued_stays frame member).disposed d same⟩

end Client

namespace Supervised

variable {s next : Supervised}

variable {received settles : List Received} {epoch : Nat} {spent : List Reply} {command : DriverCommand}

variable {c : Client} {target : UInt16 × UInt32}

def Names (received : List Received) (epoch : Nat) (d : Disposition) : Prop :=
  ⟨epoch,d.first⟩ ∈ received ∧ ∀ last, d.last = some last → ⟨epoch,last⟩ ∈ received

lemma Names.grow {more : List Received} {d : Disposition} (names : Names received epoch d)
    (grown : ∀ r ∈ received, r ∈ more) : Names more epoch d :=
  ⟨grown _ names.1,fun last same => grown _ (names.2 last same)⟩

structure Backed (received : List Received) (user : UserCommand) : Prop where
  settles : ∀ r ∈ user.settles, r ∈ received
  first : ∀ d, user.command.disposes d → ∃ r ∈ user.settles, r.id = d.first
  last : ∀ d, user.command.disposes d → ∀ last, d.last = some last → ∃ r ∈ user.settles, r.id = last

structure EpochSound (s : Supervised) : Prop where
  buffered : ∀ target, ∀ r ∈ (s.consumers target).buffer, r ∈ s.received
  held : ∀ target, ∀ r ∈ (s.consumers target).held, r ∈ s.received
  pending : ∀ target r, (s.consumers target).pendingFirst = some r → r ∈ s.received
  commands : ∀ user ∈ s.commands, Backed s.received user
  client : ∀ c, s.client = some c → ∀ entry ∈ c.commands, ∀ d, entry.2.disposes d →
    Names s.received s.epoch d
  wire : ∀ entry ∈ s.wire, ∀ d, entry.2.performative = .disposition d → Names s.received entry.1 d

lemma EpochSound.quiet (sound : s.EpochSound) (quiet : Quiet spent s next) : next.EpochSound := by
  obtain ⟨ledger,client,-⟩ := quiet
  simp only [Supervised.ledger,Ledger.mk.injEq] at ledger
  obtain ⟨epoch,received,wire,consumers,commands,-⟩ := ledger
  refine ⟨?_,?_,?_,?_,?_,?_⟩
  · rw [consumers,received]
    exact sound.buffered
  · rw [consumers,received]
    exact sound.held
  · rw [consumers,received]
    exact sound.pending
  · rw [commands,received]
    exact sound.commands
  · intro after present entry member d disposed
    rw [received,epoch]
    rcases client after present entry member with silent | ⟨c,there,inside⟩
    · exact absurd disposed (silent d)
    · exact sound.client c there entry inside d disposed
  · rw [wire,received]
    exact sound.wire

lemma EpochSound.deliver (sound : s.EpochSound) (target : UInt16 × UInt32) (delivery : Received) :
    (s.deliver target delivery).EpochSound := by
  have grown : ∀ r ∈ s.received, r ∈ s.received ++ [delivery] := fun r member => mem_append_left _ member
  have changed : ∀ other, (s.deliver target delivery).consumers other = s.consumers other ∨
      (s.deliver target delivery).consumers other =
        {s.consumers other with buffer := (s.consumers other).buffer ++ [delivery]} := by
    intro other
    by_cases same : other = target
    · subst same
      exact .inr (update_self ..)
    · exact .inl (update_of_ne same ..)
  refine ⟨?_,?_,?_,?_,?_,?_⟩
  · intro other r member
    rcases changed other with same | same
    · rw [same] at member
      exact grown r (sound.buffered other r member)
    rw [same] at member
    rcases mem_append.mp member with old | new
    · exact grown r (sound.buffered other r old)
    · cases mem_singleton.mp new
      exact mem_append_right _ mem_cons_self
  · intro other r member
    rcases changed other with same | same
    · rw [same] at member
      exact grown r (sound.held other r member)
    · rw [same] at member
      exact grown r (sound.held other r member)
  · intro other r found
    rcases changed other with same | same
    · rw [same] at found
      exact grown r (sound.pending other r found)
    · rw [same] at found
      exact grown r (sound.pending other r found)
  · intro user member
    have backed := sound.commands user member
    exact ⟨fun r inside => grown r (backed.settles r inside),backed.first,backed.last⟩
  · intro c present entry member d disposed
    exact (sound.client c present entry member d disposed).grow grown
  · intro entry member d same
    exact (sound.wire entry member d same).grow grown

structure Onward (s next : Supervised) : Prop where
  sound : next.EpochSound
  epoch : next.epoch = s.epoch
  grown : ∀ r ∈ s.received, r ∈ next.received

section

variable (sound : s.EpochSound)

include sound

lemma EpochSound.onward (quiet : Quiet spent s next) : Onward s next := by
  refine ⟨sound.quiet quiet,congrArg Ledger.epoch quiet.ledger,?_⟩
  have same : next.received = s.received := congrArg Ledger.received quiet.ledger
  rw [same]
  exact fun _ => id

lemma EpochSound.absorb {effect : Effect}
    (backed : ∀ frame d, effect = .queue frame → frame.performative = .disposition d →
      Names s.received s.epoch d) : Onward s (s.absorb effect) := by
  rcases s.absorb_cases effect with ⟨frame,queued,same⟩ | ⟨_,_,same⟩ | quiet
  · rw [same]
    refine ⟨{sound with wire := ?_},rfl,fun _ => id⟩
    intro entry member d same
    rcases mem_append.mp member with old | new
    · exact sound.wire entry old d same
    · cases mem_singleton.mp new
      exact backed frame d queued same
  · rw [same]
    exact ⟨sound.deliver ..,rfl,fun _ member => mem_append_left _ member⟩
  · exact sound.onward quiet

lemma EpochSound.absorbAll {effects : List Effect}
    (backed : ∀ frame ∈ queued effects, ∀ d, frame.performative = .disposition d →
      Names s.received s.epoch d) : (effects.foldl Supervised.absorb s).EpochSound := by
  induction effects generalizing s with
  | nil => exact sound
  | cons effect rest ih =>
    have next : Onward s (s.absorb effect) := by
      apply sound.absorb
      intro frame d same names
      subst same
      exact backed frame (by simp) d names
    apply ih next.sound
    intro frame member d names
    rw [next.epoch]
    refine (backed frame ?_ d names).grow next.grown
    rw [show effect::rest = [effect] ++ rest from rfl,queued_append]
    exact mem_append_right _ member

lemma EpochSound.ran {result : Option (Client × List Effect)} (present : s.client = some c)
    (fewer : ∀ out, result = some out → ∀ entry ∈ out.1.commands, entry ∈ c.commands)
    (backed : ∀ out, result = some out → ∀ frame ∈ queued out.2, ∀ d, frame.performative = .disposition d →
      ∃ entry ∈ c.commands, entry.2.disposes d) : (s.ran result).EpochSound := by
  cases result with
  | none => exact sound.quiet s.die_quiet
  | some out =>
    have moved : ({s with client := some out.1} : Supervised).EpochSound := by
      refine {sound with client := ?_}
      intro after there entry member
      cases there
      exact sound.client c present entry (fewer out rfl entry member)
    apply moved.absorbAll
    intro frame member d names
    obtain ⟨entry,inside,disposed⟩ := backed out rfl frame member d names
    exact sound.client c present entry inside d disposed

lemma EpochSound.process (present : s.client = some c) : (s.ran c.process).EpochSound := by
  refine sound.ran present ?_ ?_
  · intro out processed entry member
    obtain ⟨_,_,queue,left,-⟩ := process_disposes processed
    rw [left] at member
    rw [queue]
    exact mem_cons_of_mem _ member
  intro out processed frame member d names
  obtain ⟨head,_,queue,-,disposes⟩ := process_disposes processed
  exact ⟨head,by simp [queue],disposes frame member d names⟩

lemma EpochSound.receive (present : s.client = some c) (order : IterOrder) (frame : Frame) :
    (s.ran (c.receive order frame)).EpochSound := by
  refine sound.ran present ?_ ?_
  · intro out received entry member
    rw [(receive_disposes received).1] at member
    exact member
  · intro out received frame member d names
    exact absurd names ((receive_disposes received).2 frame member d)

end

/-- A disposition is taken up in the epoch of the deliveries it is for, or not forwarded. -/
def settlesCurrent (s : Supervised) : SupervisedStep → Bool
  | .command => match s.commands with
    | ⟨.sendDisposition vchan vhandle _ _ _ _ _,settles⟩::_ =>
      !(s.inner && (s.realIds vchan vhandle).isSome) || settles.all (·.epoch == s.epoch)
    | _ => true
  | _ => true

lemma EpochSound.forward (sound : s.EpochSound) {vchan : UInt16} {vhandle first : UInt32} {last : Option UInt32}
    {state : DeliveryState} {settled : Bool} {reply : Option Reply}
    (backed : Backed s.received ⟨.sendDisposition vchan vhandle first last state settled reply,settles⟩)
    (current : s.inner = true → (s.realIds vchan vhandle).isSome = true → ∀ r ∈ settles, r.epoch = s.epoch) :
    (s.sendDisposition vchan vhandle first last state settled reply).EpochSound := by
  unfold sendDisposition
  split
  next inner real =>
    unfold pass
    split
    · exact sound
    rename_i c present
    have now := current inner (by simp [real])
    refine {sound with client := ?_}
    intro after there entry member d disposed
    cases there
    rcases mem_append.mp member with old | new
    · exact sound.client c present entry old d disposed
    cases mem_singleton.mp new
    have here : ∀ r ∈ settles, ⟨s.epoch,r.id⟩ ∈ s.received := by
      intro r inside
      rw [← now r inside]
      exact backed.settles r inside
    constructor
    · obtain ⟨r,inside,same⟩ := backed.first d disposed
      rw [← same]
      exact here r inside
    intro last found
    obtain ⟨r,inside,same⟩ := backed.last d disposed last found
    rw [← same]
    exact here r inside
  · split
    · exact sound.quiet (.still rfl rfl rfl)
    · exact sound

lemma EpochSound.request (sound : s.EpochSound) (backed : Backed s.received ⟨command,settles⟩) :
    (s.request command settles).EpochSound := by
  refine {sound with commands := ?_}
  intro user member
  rcases mem_append.mp member with old | new
  · exact sound.commands user old
  · cases mem_singleton.mp new
    exact backed

lemma Backed.silent (silent : ∀ d, ¬ command.disposes d) : Backed received ⟨command,[]⟩ :=
  ⟨forall_mem_nil _,fun d disposed => absurd disposed (silent d),fun d disposed => absurd disposed (silent d)⟩

section

variable (sound : s.EpochSound)

include sound

lemma EpochSound.consume {after : ConsumerState}
    (buffered : ∀ r ∈ after.buffer, r ∈ s.received) (held : ∀ r ∈ after.held, r ∈ s.received)
    (pending : ∀ r, after.pendingFirst = some r → r ∈ s.received) :
    ({s with consumers := update s.consumers target after} : Supervised).EpochSound := by
  have changed : ∀ other, update s.consumers target after other = s.consumers other ∨
      update s.consumers target after other = after := by
    intro other
    by_cases same : other = target
    · subst same
      exact .inr (update_self ..)
    · exact .inl (update_of_ne same ..)
  refine ⟨?_,?_,?_,sound.commands,sound.client,sound.wire⟩
  · intro other r member
    rcases changed other with same | same
    · exact sound.buffered other r (same ▸ member)
    · exact buffered r (same ▸ member)
  · intro other r member
    rcases changed other with same | same
    · exact sound.held other r (same ▸ member)
    · exact held r (same ▸ member)
  · intro other r found
    rcases changed other with same | same
    · exact sound.pending other r (same ▸ found)
    · exact pending r (same ▸ found)

lemma recv_epochSound (ok : s.recv target epoch = some next) : next.EpochSound := by
  unfold recv at ok
  simp only at ok
  split at ok
  · cases ok
  rename_i delivery found
  cases ok
  have here := sound.buffered target delivery (mem_of_find?_eq_some found)
  refine sound.consume ?_ ?_ ?_
  · intro r member
    exact sound.buffered target r (mem_of_mem_erase member)
  · intro r member
    rcases mem_append.mp member with old | new
    · exact sound.held target r old
    · cases mem_singleton.mp new
      exact here
  intro r same
  cases pending : (s.consumers target).pendingFirst with
  | none =>
    rw [pending] at same
    cases same
    exact here
  | some first =>
    rw [pending] at same
    cases same
    exact sound.pending target first pending

lemma acceptThrough_epochSound {delivery : Received}
    (held : delivery ∈ (s.consumers target).held) : (s.acceptThrough target delivery).EpochSound := by
  have there := sound.held target delivery held
  have first : (s.consumers target).pendingFirst.getD delivery ∈ s.received := by
    cases pending : (s.consumers target).pendingFirst with
    | none => exact there
    | some first => exact sound.pending target first pending
  let after : ConsumerState := {s.consumers target with pendingFirst := none}
  have taken : ({s with consumers := update s.consumers target after} : Supervised).EpochSound :=
    sound.consume (sound.buffered target) (sound.held target) (fun r found => (nomatch found))
  refine taken.request ⟨?_,?_,?_⟩
  · intro r member
    rcases mem_cons.mp member with rfl | member
    · exact first
    · cases mem_singleton.mp member
      exact there
  · rintro d ⟨same,-⟩
    exact ⟨_,mem_cons_self,same.symm⟩
  · rintro d ⟨-,same⟩ last found
    rw [same,Option.some.injEq] at found
    exact ⟨delivery,by simp,found⟩

lemma command_epochSound (current : s.settlesCurrent .command = true)
    (ok : s.step .command = some next) : next.EpochSound := by
  simp only [step] at ok
  split at ok
  next user rest _ queue =>
    cases ok
    have backed := sound.commands user (by simp [queue])
    have fewer : ({s with commands := rest} : Supervised).EpochSound := by
      refine {sound with commands := ?_}
      intro other member
      exact sound.commands other (by rw [queue]; exact mem_cons_of_mem _ member)
    obtain ⟨command,_⟩ := user
    cases command with
    | sendDisposition vchan vhandle =>
      refine fewer.forward backed ?_
      intro inner real r member
      have real : (s.realIds vchan vhandle).isSome = true := real
      have inner : s.inner = true := inner
      simp only [settlesCurrent,queue,inner,real,Bool.and_self,Bool.not_true,Bool.false_or,
        all_eq_true,beq_iff_eq] at current
      exact current r member
    | _ => exact fewer.quiet (handleCommand_quiet _ _ fun _ => id)
  · cases ok

lemma step_epochSound {label : SupervisedStep} (current : s.settlesCurrent label = true)
    (ok : s.step label = some next) : next.EpochSound := by
  cases label with
  | beginSession | attach | endSession | detach | send | afterConsume | credit | close =>
    cases ok
    exact sound.request (.silent fun _ => id)
  | recv => exact recv_epochSound sound ok
  | dispose vchan vhandle delivery =>
    simp only [step] at ok
    split at ok
    next held =>
      cases ok
      refine sound.request ⟨?_,?_,?_⟩
      · intro r member
        cases mem_singleton.mp member
        exact sound.held _ delivery held
      · rintro d ⟨same,-⟩
        exact ⟨delivery,mem_cons_self,same.symm⟩
      rintro d ⟨-,same⟩ last found
      rw [same] at found
      cases found
    · cases ok
  | acceptThrough =>
    simp only [step] at ok
    split at ok
    next held =>
      cases ok
      exact acceptThrough_epochSound sound held
    · cases ok
  | command => exact command_epochSound sound current ok
  | replay =>
    simp only [step] at ok
    split at ok
    next queue =>
      cases ok
      exact sound.quiet (s.replay_quiet queue)
    · cases ok
  | driverDied =>
    simp only [step] at ok
    split at ok
    · split at ok
      · cases ok
        exact sound.quiet (.still rfl rfl rfl)
      · cases ok
    · cases ok
  | establish =>
    simp only [step] at ok
    split at ok
    · cases ok
      refine EpochSound.quiet ?_ (advance_quiet ..)
      refine {sound with client := ?_}
      intro c there entry member
      cases there
      cases member
    · cases ok
  | giveUp =>
    simp only [step] at ok
    split at ok
    · cases ok
      exact sound.quiet (.still rfl rfl rfl)
    · cases ok
  | requeue =>
    simp only [step] at ok
    split at ok
    next member =>
      cases ok
      exact sound.quiet (s.requeue_quiet member)
    · cases ok
  | process =>
    simp only [step] at ok
    split at ok
    next present =>
      split at ok
      · cases ok
      · cases ok
        exact sound.process present
    · cases ok
  | frame order frame =>
    simp only [step] at ok
    split at ok
    next present =>
      cases ok
      exact sound.receive present order frame
    · cases ok
  | die =>
    cases ok
    exact sound.quiet s.die_quiet
  | late =>
    simp only [step] at ok
    split at ok
    · cases ok
      exact sound.deliver ..
    · cases ok

end

lemma connected_epochSound (maxFrameSize : Nat) (channelMax : UInt16) :
    (connected maxFrameSize channelMax).EpochSound := by
  refine ⟨fun _ => forall_mem_nil _,fun _ => forall_mem_nil _,fun _ r found => (nomatch found),
    forall_mem_nil _,?_,forall_mem_nil _⟩
  intro c there entry member
  cases there
  cases member

end Supervised

/-- In a run in which every disposition is taken up in the epoch of its deliveries, or while its
link is not mapped, a disposition that is forwarded or goes out in an epoch names only
deliveries received in that epoch. -/
theorem dispositions_in_epoch (maxFrameSize : Nat) (channelMax : UInt16) (labels : List SupervisedStep)
    (final : Supervised)
    (current : Transition.Meets Supervised.step (fun s label => s.settlesCurrent label = true)
      (.connected maxFrameSize channelMax) labels)
    (ok : run Supervised.step (.connected maxFrameSize channelMax) labels = some final) :
    (∀ c, final.client = some c → ∀ entry ∈ c.commands, ∀ d, entry.2.disposes d →
      Supervised.Names final.received final.epoch d) ∧
    ∀ entry ∈ final.wire, ∀ d, entry.2.performative = .disposition d →
      Supervised.Names final.received entry.1 d := by
  have sound : final.EpochSound := run_invariant (fun sound => Supervised.step_epochSound sound)
    (Supervised.connected_epochSound maxFrameSize channelMax) current ok
  exact ⟨sound.client,sound.wire⟩

def oneConsumer : List SupervisedStep :=
  [.beginSession ⟨none,0,100,100,7⟩,.command,.process,.frame .byKey ⟨3,.begin_ ⟨some 0,0,100,100,7⟩,none⟩,
   .attach 0 {name := "in",handle := 0,role := .receiver} (.auto 10 5),.command,.process,
   .frame .byKey ⟨3,.attach {name := "in",handle := 5,role := .sender,initialDeliveryCount := some 0},none⟩]

def oneDelivery : SupervisedStep :=
  .frame .byKey ⟨3,.transfer {handle := 5,deliveryId := some 0,deliveryTag := some [1]},some [42]⟩

def reconnect : List SupervisedStep :=
  [.die,.driverDied,.establish 512 7,.process,.frame .byKey ⟨3,.begin_ ⟨some 0,0,100,100,7⟩,none⟩,.process,
   .frame .byKey ⟨3,.attach {name := "in",handle := 5,role := .sender,initialDeliveryCount := some 0},none⟩]

theorem dispositions_in_epoch_both : ∃ final,
    run Supervised.step (.connected 512 7)
      (oneConsumer ++ [oneDelivery,.recv 0 0 0,.dispose 0 0 ⟨0,0⟩ .accepted,.command,.process] ++
        reconnect ++ [oneDelivery,.recv 0 0 1,.acceptThrough 0 0 ⟨1,0⟩]) = some final ∧
    (0,⟨0,.disposition ⟨.receiver,0,none,true,some .accepted⟩,none⟩) ∈ final.wire ∧
    Supervised.Names final.received 0 ⟨.receiver,0,none,true,some .accepted⟩ := by
  refine reaches_and (by decide) fun final ok member => ?_
  exact (dispositions_in_epoch 512 7 _ final (meets_of_check (by decide)) ok).2 _ member _ rfl

/-- The delivery was received on the first connection; its disposition goes out on the second. -/
theorem stale_disposition_forwarded : ∃ final,
    run Supervised.step (.connected 512 7)
      (oneConsumer ++ [oneDelivery,.recv 0 0 0] ++ reconnect ++
        [.dispose 0 0 ⟨0,0⟩ .accepted,.command,.process]) = some final ∧
    (1,⟨0,.disposition ⟨.receiver,0,none,true,some .accepted⟩,none⟩) ∈ final.wire ∧
    final.received = [⟨0,0⟩] := by
  apply reaches_of_any
  decide

end Ramqp
