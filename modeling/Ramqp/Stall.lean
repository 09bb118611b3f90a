import Ramqp.LinkMoves
import Ramqp.WindowSync

/-! When a message with credit can be stuck: what a flush leaves behind, and the sessions whose
queued messages all wait for something that a frame under way or the peer's user will bring. -/
namespace Ramqp

open Std Window List Transition Entries Ramqp.Frame Link Option Session ExtTreeMap Bool

def transfers (effects : List Effect) : Nat := dataCount ((queued effects).map Frame.item)

@[simp] lemma transfers_append (first second : List Effect) :
    transfers (first ++ second) = transfers first + transfers second := by
  simp [transfers]

lemma sendChunks_count (channel : UInt16) (first rest : Transfer) (body : Bytes) (maxPayload fuel offset : Nat)
    (firstFrame : Bool) (w : SessionWindows) (positive : 1 ≤ maxPayload) (enough : body.length - offset ≤ fuel) :
    dataCount ((sendChunks channel first rest body maxPayload fuel offset firstFrame w).2.map item) =
      (body.length - offset + maxPayload - 1) / maxPayload := by
  induction fuel generalizing offset firstFrame w with
  | zero =>
    have done : body.length - offset + maxPayload - 1 < maxPayload := by omega
    rw [Nat.div_eq_of_lt done]
    rfl
  | succ fuel ih =>
    unfold sendChunks
    split
    next inside =>
      simp only [map_cons,item,dataCount]
      rw [ih (min (offset + maxPayload) body.length) false w.recordOutgoing (by omega)]
      by_cases last : body.length ≤ offset + maxPayload
      · have stop : min (offset + maxPayload) body.length = body.length := by omega
        have nothing : body.length - body.length + maxPayload - 1 < maxPayload := by omega
        have one : body.length - offset + maxPayload - 1 = body.length - offset - 1 + maxPayload := by omega
        have small : body.length - offset - 1 < maxPayload := by omega
        rw [stop,Nat.div_eq_of_lt nothing,one,Nat.add_div_right _ positive,Nat.div_eq_of_lt small]
      have stop : min (offset + maxPayload) body.length = offset + maxPayload := by omega
      have more : body.length - offset + maxPayload - 1 =
          body.length - (offset + maxPayload) + maxPayload - 1 + maxPayload := by omega
      rw [stop,more,Nat.add_div_right _ positive]
    next done =>
      have finished : body.length - offset + maxPayload - 1 < maxPayload := by omega
      rw [Nat.div_eq_of_lt finished]
      rfl

lemma sendMessageFrames_count (channel : UInt16) (handle deliveryId : UInt32) (tag : Bytes)
    (message : PendingSend) (maxPayload : Nat) (w : SessionWindows) (positive : 1 ≤ maxPayload) :
    dataCount ((sendMessageFrames channel handle deliveryId tag message maxPayload w).2.map item) =
      frameTotal message.body.length maxPayload := by
  unfold sendMessageFrames frameTotal
  simp only
  split
  next single =>
    have below : message.body.length + maxPayload - 1 < maxPayload * 2 := by omega
    have few : (message.body.length + maxPayload - 1) / maxPayload < 2 := Nat.div_lt_of_lt_mul below
    simp only [map_cons,map_nil,item,dataCount]
    omega
  rename_i long
  rw [sendChunks_count _ _ _ _ _ _ _ _ _ positive (by omega),Nat.sub_zero]
  have several : 1 ≤ (message.body.length + maxPayload - 1) / maxPayload := by
    rw [Nat.le_div_iff_mul_le positive]
    omega
  omega

def Stopped (unit : Nat) (w : SessionWindows) (l : SenderLink) : Prop :=
  l.outbox = [] ∨ l.attached = false ∨ l.credit.linkCredit = 0 ∨
    maxUnsettledPerLink ≤ l.unsettled.size ∨ w.remoteIncomingWindow.toNat < unit

lemma Stopped.less {unit : Nat} {w next : SessionWindows} {l : SenderLink} (stopped : Stopped unit w l)
    (less : next.remoteIncomingWindow.toNat ≤ w.remoteIncomingWindow.toNat) : Stopped unit next l := by
  rcases stopped with empty | detached | uncredited | full | narrow
  · exact .inl empty
  · exact .inr (.inl detached)
  · exact .inr (.inr (.inl uncredited))
  · exact .inr (.inr (.inr (.inl full)))
  · exact .inr (.inr (.inr (.inr (by omega))))

structure SenderSound (maxPayload unit : Nat) (l : SenderLink) : Prop where
  bound : l.attached = l.remoteHandle.isSome
  idle : l.attached = false → l.credit.linkCredit = 0
  sized : ∀ message ∈ l.outbox, frameTotal message.body.length maxPayload = unit

section Flush
variable {maxPayload unit : Nat} (positive : 1 ≤ maxPayload) (small : unit < 2^32)

lemma recordSend_frame (l : SenderLink) (deliveryId : UInt32) (message : PendingSend) :
    (l.recordSend deliveryId message).1.attached = l.attached ∧
    (l.recordSend deliveryId message).1.remoteHandle = l.remoteHandle := by
  unfold SenderLink.recordSend
  simp only
  split <;> exact ⟨rfl,rfl⟩

include positive small in
lemma flushOutbox_stops (channel : UInt16) (handle : UInt32) (outbox : List PendingSend) (sender : SenderLink)
    (w : SessionWindows) (sized : ∀ message ∈ outbox, frameTotal message.body.length maxPayload = unit)
    (idle : sender.attached = false → sender.credit.linkCredit = 0) :
    Stopped unit (flushOutbox channel handle maxPayload outbox sender w).2.1
      (flushOutbox channel handle maxPayload outbox sender w).1 ∧
    (flushOutbox channel handle maxPayload outbox sender w).1.attached = sender.attached ∧ (sender.attached = false →
      (flushOutbox channel handle maxPayload outbox sender w).1.credit.linkCredit = 0) ∧
    (∀ message ∈ (flushOutbox channel handle maxPayload outbox sender w).1.outbox, message ∈ outbox) ∧
    unit ∣ transfers (flushOutbox channel handle maxPayload outbox sender w).2.2 := by
  induction outbox generalizing sender w with
  | nil => exact ⟨.inl rfl,rfl,idle,fun _ => id,⟨0,rfl⟩⟩
  | cons front rest ih =>
    unfold flushOutbox
    split
    next ready =>
      split
      next full =>
        simp only [and_eq_true,decide_eq_true_eq] at full
        exact ⟨.inr (.inr (.inr (.inl full.2))),rfl,idle,fun _ => id,⟨0,rfl⟩⟩
      split
      next narrow =>
        have whole : (frameCount front.body.length maxPayload).toNat = unit := by
          rw [frameCount,sized front (by simp)]
          exact UInt32.toNat_ofNat_of_lt' small
        rw [UInt32.lt_iff_toNat_lt,whole] at narrow
        exact ⟨.inr (.inr (.inr (.inr narrow))),rfl,idle,fun _ => id,⟨0,rfl⟩⟩
      simp only [and_eq_true] at ready
      obtain ⟨attached,-⟩ := recordSend_frame sender w.nextOutgoingId front
      have busy : (sender.recordSend w.nextOutgoingId front).1.attached ≠ false := by
        rw [attached,ready.1]
        decide
      obtain ⟨stopped,same,-,left,whole⟩ := ih (sender.recordSend w.nextOutgoingId front).1
        (sendMessageFrames channel handle w.nextOutgoingId sender.deliveryTag front maxPayload w).1
        (fun message member => sized message (by simp [member])) (fun off => absurd off busy)
      refine ⟨stopped,same.trans attached,?_,?_,?_⟩
      · intro off
        rw [ready.1] at off
        cases off
      · intro message member
        exact mem_cons_of_mem _ (left message member)
      simp only [transfers_append]
      refine Nat.dvd_add (Nat.dvd_add ?_ ?_) whole
      · simp only [transfers,queued_map_queue]
        rw [sendMessageFrames_count _ _ _ _ _ _ _ positive,sized front (by simp)]
      · simp [transfers,dataCount]
    next blocked =>
      refine ⟨?_,rfl,idle,fun _ => id,⟨0,rfl⟩⟩
      by_cases attached : sender.attached = false
      · exact .inr (.inl attached)
      have none_left : ¬ 0 < sender.credit.linkCredit := by
        simpa [LinkCredit.canSend,attached] using blocked
      refine .inr (.inr (.inl ?_))
      apply UInt32.toNat.inj
      rw [UInt32.lt_iff_toNat_lt] at none_left
      simpa using none_left

include positive small in
lemma flush_link (channel : UInt16) (handle : UInt32) (sender : SenderLink) (w : SessionWindows)
    (sound : SenderSound maxPayload unit sender) : SenderSound maxPayload unit (completeDrain channel handle
      (flushOutbox channel handle maxPayload sender.outbox sender w).1
      (flushOutbox channel handle maxPayload sender.outbox sender w).2.1).1 ∧
    Stopped unit (flushOutbox channel handle maxPayload sender.outbox sender w).2.1 (completeDrain channel handle
      (flushOutbox channel handle maxPayload sender.outbox sender w).1
      (flushOutbox channel handle maxPayload sender.outbox sender w).2.1).1 ∧
    unit ∣ transfers ((flushOutbox channel handle maxPayload sender.outbox sender w).2.2 ++
      (completeDrain channel handle (flushOutbox channel handle maxPayload sender.outbox sender w).1
        (flushOutbox channel handle maxPayload sender.outbox sender w).2.1).2) := by
  obtain ⟨stopped,attached,idle,left,whole⟩ :=
    flushOutbox_stops positive small channel handle sender.outbox sender w sound.sized sound.idle
  have remote : (flushOutbox channel handle maxPayload sender.outbox sender w).1.remoteHandle =
      sender.remoteHandle := congrArg LinkCard.remoteHandle (flushOutbox_card ..)
  have kept : SenderSound maxPayload unit (flushOutbox channel handle maxPayload sender.outbox sender w).1 := by
    refine ⟨?_,?_,fun message member => sound.sized message (left message member)⟩
    · rw [attached,remote,sound.bound]
    · rw [attached]
      exact idle
  unfold completeDrain
  split
  next drained =>
    simp only [Bool.and_eq_true,List.isEmpty_iff] at drained
    refine ⟨⟨kept.bound,fun _ => rfl,kept.sized⟩,.inl drained.1.2,?_⟩
    rw [transfers_append]
    exact Nat.dvd_add whole ⟨0,rfl⟩
  · exact ⟨kept,stopped,by simpa using whole⟩

end Flush

variable {order : IterOrder}

namespace Session

variable {s : Session} {result : Session × List Effect} {handle other : UInt32} {l : SenderLink}

variable {next : Session} {links : Map UInt32 Link} {first : UInt32} {policy : AttachPolicy} {transfer : Transfer}
  {payload : Option Bytes}

structure PromptBut (maxFrameSize unit : Nat) (due : List UInt32) (s : Session) : Prop where
  registered : s.Registered
  sound : ∀ (handle : UInt32) (l : SenderLink), s.links[handle]? = some (.sender l) →
    SenderSound (maxPayloadPerFrame maxFrameSize) unit l
  stopped : ∀ (handle : UInt32) (l : SenderLink), s.links[handle]? = some (.sender l) →
    handle ∈ due ∨ Stopped unit s.windows l

abbrev Prompt (maxFrameSize unit : Nat) (s : Session) : Prop := s.PromptBut maxFrameSize unit []

variable {maxFrameSize unit : Nat} {due : List UInt32}

lemma PromptBut.follow (prompt : s.PromptBut maxFrameSize unit due) (registered : next.Registered)
    (window : next.windows.remoteIncomingWindow.toNat ≤ s.windows.remoteIncomingWindow.toNat)
    (links : ∀ (handle : UInt32) (l : SenderLink), next.links[handle]? = some (.sender l) →
      s.links[handle]? = some (.sender l) ∨
      (SenderSound (maxPayloadPerFrame maxFrameSize) unit l ∧ Stopped unit next.windows l)) :
    next.PromptBut maxFrameSize unit due := by
  refine ⟨registered,?_,?_⟩
  · intro handle l present
    rcases links handle l present with before | ⟨sound,-⟩
    · exact prompt.sound handle l before
    · exact sound
  intro handle l present
  rcases links handle l present with before | ⟨-,stopped⟩
  · exact (prompt.stopped handle l before).imp_right fun stopped => stopped.less window
  · exact .inr stopped

lemma one_le_maxPayloadPerFrame (maxFrameSize : Nat) : 1 ≤ maxPayloadPerFrame maxFrameSize := Nat.le_max_right _ _

lemma window_le_of_traces (ready : s.windows.initialized = true) (traced : s.Traces result) :
    result.1.windows.remoteIncomingWindow.toNat ≤ s.windows.remoteIncomingWindow.toNat :=
  (traced.emits ready).allowance_le

lemma PromptBut.flushSender (prompt : s.PromptBut maxFrameSize unit (handle::due)) (small : unit < 2^32)
    (ready : s.windows.initialized = true) : (s.flushSender handle maxFrameSize).1.PromptBut maxFrameSize unit due ∧
    unit ∣ transfers (s.flushSender handle maxFrameSize).2 := by
  have registered := prompt.registered.inPlace (flushSender_inPlace s handle maxFrameSize)
  have window := window_le_of_traces ready (flushSender_traced s handle maxFrameSize)
  unfold Session.flushSender at registered window ⊢
  split
  next sender present =>
    simp only [present] at registered window
    obtain ⟨sound,stopped,whole⟩ := flush_link (one_le_maxPayloadPerFrame maxFrameSize) small s.localChannel handle
      sender s.windows (prompt.sound handle sender present)
    refine ⟨⟨registered,?_,?_⟩,whole⟩
    · intro other l there
      rcases of_insert there with ⟨rfl,⟨⟩⟩ | ⟨same,there⟩
      · exact sound
      · exact prompt.sound other l there
    intro other l there
    rcases of_insert there with ⟨rfl,⟨⟩⟩ | ⟨same,there⟩
    · exact .inr stopped
    rcases prompt.stopped other l there with member | before
    · rcases mem_cons.mp member with equal | inside
      · exact absurd equal.symm same
      · exact .inl inside
    · exact .inr (before.less window)
  next absent =>
    refine ⟨⟨prompt.registered,prompt.sound,?_⟩,⟨0,rfl⟩⟩
    intro other l there
    rcases prompt.stopped other l there with member | before
    · rcases mem_cons.mp member with equal | inside
      · subst equal
        exact absurd there (by simpa using absent l)
      · exact .inl inside
    · exact .inr before

lemma PromptBut.flushAll (prompt : s.PromptBut maxFrameSize unit due) (small : unit < 2^32)
    (ready : s.windows.initialized = true) : (flushAll maxFrameSize due s).1.Prompt maxFrameSize unit ∧
    unit ∣ transfers (flushAll maxFrameSize due s).2 := by
  induction due generalizing s with
  | nil => exact ⟨prompt,⟨0,rfl⟩⟩
  | cons handle rest ih =>
    obtain ⟨flushed,whole⟩ := prompt.flushSender small ready
    obtain ⟨done,more⟩ := ih flushed ((flushSender_traced s handle maxFrameSize).ready.trans ready)
    refine ⟨done,?_⟩
    simp only [flushAll,transfers_append]
    exact Nat.dvd_add whole more

lemma PromptBut.sendTransfer (prompt : s.Prompt maxFrameSize unit) (small : unit < 2^32)
    (ready : s.windows.initialized = true) (handle : UInt32) (message : PendingSend)
    (sized : frameTotal message.body.length (maxPayloadPerFrame maxFrameSize) = unit) :
    (s.sendTransfer handle message maxFrameSize).1.Prompt maxFrameSize unit ∧
    unit ∣ transfers (s.sendTransfer handle message maxFrameSize).2 := by
  unfold Session.sendTransfer
  split
  next sender present =>
    have before := prompt.sound handle sender present
    refine PromptBut.flushSender ⟨prompt.registered.inPlace (.replace present rfl),?_,?_⟩ small ready
    · intro other l there
      rcases of_insert there with ⟨rfl,⟨⟩⟩ | ⟨same,there⟩
      · refine ⟨before.bound,before.idle,?_⟩
        intro queued member
        rcases mem_append.mp member with old | new
        · exact before.sized queued old
        · rw [mem_singleton.mp new]
          exact sized
      · exact prompt.sound other l there
    · intro other l there
      rcases of_insert there with ⟨rfl,-⟩ | ⟨-,there⟩
      · exact .inl mem_cons_self
      · exact .inr ((prompt.stopped other l there).resolve_left (by simp))
  · refine ⟨prompt,?_⟩
    cases message.reply <;> exact ⟨0,rfl⟩

lemma PromptBut.stalled (registered : s.Registered)
    (sound : ∀ (handle : UInt32) (l : SenderLink), s.links[handle]? = some (.sender l) →
      SenderSound (maxPayloadPerFrame maxFrameSize) unit l) :
    s.PromptBut maxFrameSize unit (order.arrange s.stalled) := by
  refine ⟨registered,sound,?_⟩
  intro handle l present
  by_cases empty : l.outbox = []
  · exact .inr (.inl empty)
  · exact .inl ((order.perm _).mem_iff.mpr (mem_stalled l present empty))

lemma PromptBut.onFlow (prompt : s.Prompt maxFrameSize unit) (small : unit < 2^32)
    (ready : s.windows.initialized = true) (order : IterOrder) (flow : Flow) :
    (s.onFlow order flow maxFrameSize).1.Prompt maxFrameSize unit ∧
    unit ∣ transfers (s.onFlow order flow maxFrameSize).2 := by
  have registered := prompt.registered.inPlace
    ((InPlace.windows s (s.windows.onPeerFlow flow)).trans (applyLinkFlow_inPlace _ flow))
  obtain ⟨windows,silent⟩ := applyLinkFlow_frame {s with windows := s.windows.onPeerFlow flow} flow
  have sound : ∀ (handle : UInt32) (l : SenderLink),
      ({s with windows := s.windows.onPeerFlow flow}.applyLinkFlow flow).1.links[handle]? = some (.sender l) →
      SenderSound (maxPayloadPerFrame maxFrameSize) unit l := by
    unfold applyLinkFlow
    split
    · exact prompt.sound
    rename_i handle found
    split
    next sender present =>
      have before := prompt.sound handle sender present
      intro other l there
      rcases of_insert there with ⟨rfl,⟨⟩⟩ | ⟨same,there⟩
      · -- A flow finds a link by the peer's handle, so the link is attached.
        obtain ⟨remote,-,resolved⟩ := bind_eq_some_iff.mp found
        obtain ⟨_,linked,bound⟩ := prompt.registered.bound remote handle resolved
        rw [present,some.injEq] at linked
        subst linked
        have attached : sender.attached = true := by
          rw [before.bound]
          exact isSome_iff_exists.mpr ⟨remote,bound⟩
        refine ⟨before.bound,fun off => ?_,before.sized⟩
        rw [show sender.attached = false from off] at attached
        cases attached
      · exact prompt.sound other l there
    · exact prompt.sound
  obtain ⟨done,whole⟩ := (PromptBut.stalled registered sound).flushAll small (by rw [windows]; exact ready)
  refine ⟨done,?_⟩
  unfold Session.onFlow
  simp only [transfers_append]
  refine Nat.dvd_add (Nat.dvd_add ?_ whole) ?_
  · rw [transfers,silent]
    exact ⟨0,rfl⟩
  · split <;> exact ⟨0,rfl⟩

lemma sender_of_insert_receiver
    (there : (links.insert handle (.receiver r))[other]? = some (.sender l)) : links[other]? = some (.sender l) := by
  rcases of_insert there with ⟨-,⟨⟩⟩ | ⟨-,there⟩
  exact there

lemma sender_of_insert_sender {fresh : SenderLink}
    (there : (links.insert handle (.sender fresh))[other]? = some (.sender l)) :
    links[other]? = some (.sender l) ∨ l = fresh := by
  rcases of_insert there with ⟨-,⟨⟩⟩ | ⟨-,there⟩
  · exact .inr rfl
  · exact .inl there

/-- No data is sent, and every sender link is as it was, has nothing to send or has just been bound. -/
structure Mild (s : Session) (result : Session × List Effect) : Prop where
  silent : transfers result.2 = 0
  senders : ∀ (handle : UInt32) (l : SenderLink), result.1.links[handle]? = some (.sender l) →
    s.links[handle]? = some (.sender l) ∨ (l.outbox = [] ∧ l.attached = l.remoteHandle.isSome ∧ l.credit.linkCredit = 0) ∨
    ∃ before remote, s.links[handle]? = some (.sender before) ∧ before.remoteHandle = none ∧
      l = {before with remoteHandle := some remote,attached := true,pendingAttach := none}

namespace Mild

lemma keep (links : result.1.links = s.links) (silent : transfers result.2 = 0) : s.Mild result :=
  ⟨silent,fun _ _ there => .inl (links ▸ there)⟩

lemma receiver (links : result.1.links = s.links.insert handle (.receiver r))
    (silent : transfers result.2 = 0) : s.Mild result := by
  refine ⟨silent,fun other l there => .inl ?_⟩
  rw [links] at there
  exact sender_of_insert_receiver there

lemma erase (links : ∀ other : UInt32, result.1.links[other]? = if handle = other then none else s.links[other]?)
    (silent : transfers result.2 = 0) : s.Mild result := by
  refine ⟨silent,fun other l there => .inl ?_⟩
  rw [links] at there
  split at there
  · cases there
  · exact there

lemma prompt (mild : s.Mild result) (prompt : s.Prompt maxFrameSize unit) (registered : result.1.Registered)
    (window : result.1.windows.remoteIncomingWindow.toNat ≤ s.windows.remoteIncomingWindow.toNat) :
    result.1.Prompt maxFrameSize unit ∧ unit ∣ transfers result.2 := by
  refine ⟨prompt.follow registered window fun handle l there => ?_,by rw [mild.silent]; exact Nat.dvd_zero _⟩
  rcases mild.senders handle l there with before | ⟨empty,bound,idle⟩ | ⟨before,_,present,unbound,rfl⟩
  · exact .inl before
  · exact .inr ⟨⟨bound,fun _ => idle,by simp [empty]⟩,.inl empty⟩
  have sound := prompt.sound handle before present
  have idle := sound.idle (by rw [sound.bound,unbound]; rfl)
  exact .inr ⟨⟨rfl,fun _ => idle,sound.sized⟩,.inr (.inr (.inl idle))⟩

end Mild

variable {attach : Attach} {flow : Flow}

section

variable (s) {reply : Reply}

lemma attachLink_mild (creditMode : CreditMode) (events : ChannelRef) :
    s.Mild (s.attachLink attach creditMode events reply) := by
  unfold attachLink
  split
  · exact .keep rfl rfl
  refine ⟨rfl,fun other l there => ?_⟩
  cases role : attach.role with
  | receiver =>
    simp only [role] at there
    exact .inl (sender_of_insert_receiver there)
  | sender =>
    simp only [role] at there
    rcases sender_of_insert_sender there with before | rfl
    · exact .inl before
    · exact .inr (.inl ⟨rfl,rfl,rfl⟩)

lemma forgotten_links (remote : Option UInt32) (handle other : UInt32) :
    ((s.unbind remote).forgetLink handle).1.links[other]? = if handle = other then none else s.links[other]? := by
  rw [forgetLink_links,unbind_links,Entries.getElem?_erase]

lemma detachLink_mild (closed : Bool) (error : Option AmqpError) :
    s.Mild (s.detachLink handle closed error reply) := by
  unfold detachLink
  split
  · exact .erase (forgotten_links s _ handle) (by simp [transfers,dataCount,item])
  · exact .keep rfl rfl

lemma grantCredit_mild (credit : UInt32) : s.Mild (s.grantCredit handle credit) := by
  unfold grantCredit
  split
  · exact .receiver rfl rfl
  · exact .keep rfl rfl

lemma sendFlow_mild : s.Mild (s.sendFlow flow) := by
  unfold sendFlow
  simp only
  split
  · split
    · exact .receiver rfl rfl
    · exact .keep rfl rfl
  · exact .keep rfl rfl

lemma onPeerAttach_mild : s.Mild (s.onPeerAttach attach) := by
  unfold onPeerAttach
  split
  · exact .keep rfl rfl
  split
  · exact .keep rfl rfl
  rename_i link present
  split
  · exact .keep rfl rfl
  rename_i unbound
  refine ⟨?_,fun other l there => ?_⟩
  · simp only [transfers,queued_append,queued_replyAttached,nil_append]
    cases (bindLink link attach s.windows).2 <;> rfl
  cases link with
  | receiver => exact .inl (sender_of_insert_receiver there)
  | sender sender =>
    rcases of_insert there with ⟨rfl,⟨⟩⟩ | ⟨-,there⟩
    · exact .inr (.inr ⟨sender,_,present,by simpa [remoteHandle] using unbound,rfl⟩)
    · exact .inl there

lemma onPeerDetach_mild (detach : Detach) : s.Mild (s.onPeerDetach detach) := by
  unfold onPeerDetach
  split
  · exact .keep rfl rfl
  refine .erase (forgotten_links s _ _) ?_
  simp only [transfers,queued_append,queued_queue,queued_forgetLink]
  split <;> rfl

end

lemma sendDisposition_mild {last : Option UInt32} {state : DeliveryState} {settled : Bool}
    (ok : s.sendDisposition handle first last state settled = .ok result) : s.Mild result := by
  unfold sendDisposition at ok
  simp only at ok
  split at ok
  · split at ok
    · cases ok
      exact .keep rfl rfl
    split at ok
    · cases ok
    · cases ok
      exact .receiver rfl rfl
  · cases ok
    exact .keep rfl rfl

lemma inboundAttach_mild (ok : s.inboundAttach attach policy = .ok result) : s.Mild result := by
  rcases inboundAttach_cases ok with
    rfl | ⟨creditMode,initialCredit,maxMessageSize,events,accepted,-,taken⟩ | ⟨error,-,rfl⟩
  · exact onPeerAttach_mild s
  · obtain ⟨-,handle,_,-,-,rfl⟩ := acceptPeerAttach_ok taken
    refine ⟨?_,fun other l there => ?_⟩
    · simp only [transfers,queued_queue,map_cons,item,dataCount]
      cases (mirrorLink handle attach creditMode initialCredit maxMessageSize events s.windows).2 <;> rfl
    unfold mirrorLink at there
    split at there
    · refine .inl ?_
      simp only at there
      split at there <;> exact sender_of_insert_receiver there
    rcases sender_of_insert_sender there with before | rfl
    · exact .inl before
    · exact .inr (.inl ⟨rfl,rfl,rfl⟩)
  · exact .keep rfl rfl

lemma dataCount_flows {frames : List Frame} (flows : OnlyFlows frames) : dataCount (frames.map item) = 0 := by
  induction frames with
  | nil => rfl
  | cons frame rest ih =>
    obtain ⟨⟨_,_,rfl⟩,others⟩ := forall_mem_cons.mp flows
    exact ih others

lemma onTransfer_mild (ok : s.onTransfer transfer payload = .ok result) : s.Mild result := by
  cases onTransfer_transferred ok with
  | ignored missed links silent frames => exact .keep links (dataCount_flows frames)
  | taken handle r after event routed present received links emitted frames =>
    exact .receiver links (dataCount_flows frames)
  | refused handle r error routed present links emitted exceeded frames =>
    obtain ⟨_,flows,only,same⟩ := frames
    refine .erase links ?_
    rw [transfers,same,map_append,dataCount_append,dataCount_flows only]
    rfl

lemma onTransfer_window (ok : s.onTransfer transfer payload = .ok result) :
    result.1.windows.remoteIncomingWindow = s.windows.remoteIncomingWindow := by
  unfold onTransfer at ok
  split at ok
  · cases ok
    rfl
  simp only at ok
  split at ok
  · cases ok
  rename_i counted emit sizeExceeded assembled
  cases ok
  have replenished : (counted.replenish s.windows.recordIncoming.2).1.windows.remoteIncomingWindow =
      s.windows.remoteIncomingWindow := by
    unfold replenish
    split <;> simp [assemble_frame assembled,SessionWindows.replenishIncoming,SessionWindows.recordIncoming]
  unfold refuseOversized
  split
  · simpa [detachWithError] using replenished
  · exact replenished

lemma PromptBut.act (prompt : s.Prompt maxFrameSize unit) (small : unit < 2^32)
    (ready : s.windows.initialized = true) {op : LocalOp} (sized : ∀ handle message, op = .send handle message →
      frameTotal message.body.length (maxPayloadPerFrame maxFrameSize) = unit)
    (ok : s.act maxFrameSize op = .ok result) : result.1.Prompt maxFrameSize unit ∧ unit ∣ transfers result.2 := by
  have registered := Registered.stable.act prompt.registered (fun _ _ _ _ _ => attachLink_registered prompt.registered) ok
  have mild : s.Mild result → result.1.Prompt maxFrameSize unit ∧ unit ∣ transfers result.2 :=
    fun mild => mild.prompt prompt registered (window_le_of_traces ready (act_traced ok))
  cases op with
  | attach =>
    cases ok
    exact mild (attachLink_mild ..)
  | send handle message =>
    cases ok
    exact prompt.sendTransfer small ready handle message (sized handle message rfl)
  | settle => exact mild (sendDisposition_mild ok)
  | grant =>
    cases ok
    exact mild (grantCredit_mild ..)
  | flow =>
    cases ok
    exact mild (sendFlow_mild ..)
  | detach =>
    cases ok
    exact mild (detachLink_mild ..)

def capStalled (s : Session) : Bool :=
  s.links.toList.any fun entry => match entry.2 with
    | .sender l => !l.outbox.isEmpty && decide (maxUnsettledPerLink ≤ l.unsettled.size)
    | .receiver _ => false

lemma outbox_of_not_capStalled (free : s.capStalled = false) (present : s.links[handle]? = some (.sender l))
    (full : maxUnsettledPerLink ≤ l.unsettled.size) : l.outbox = [] := by
  have listed : (handle,sender l) ∈ s.links.toList := mem_toList_iff_getElem?_eq_some.mpr present
  have here := any_eq_false.mp free _ listed
  simpa [full] using here

lemma applyDisposition_size {m next : UnsettledMap} {last : UInt32} {state : Option DeliveryState}
    {affected : List UInt32} (ok : m.applyDisposition first last state false = .ok (affected,next)) :
    next.size = m.size := by
  unfold UnsettledMap.applyDisposition at ok
  split at ok
  · cases ok
  simp only [false_eq_true,if_false] at ok
  cases ok
  exact size_map

lemma PromptBut.onDisposition (prompt : s.Prompt maxFrameSize unit) {d : Disposition}
    (free : d.role = .receiver → d.settled = true → s.capStalled = false) (ok : s.onDisposition d = .ok result) :
    result.1.Prompt maxFrameSize unit ∧ unit ∣ transfers result.2 := by
  have registered := prompt.registered.inPlace (onDisposition_inPlace ok)
  obtain ⟨next,effects⟩ := result
  obtain ⟨session,absent,links,-⟩ := onDisposition_ok ok
  have windows : next.windows = s.windows := by rw [session]
  refine ⟨prompt.follow registered (by rw [windows]) ?_,
    by rw [transfers,queued_of_internal (onDisposition_internal ok)]; exact Nat.dvd_zero _⟩
  intro handle l there
  change next.links[handle]? = some (.sender l) at there
  cases present : s.links[handle]? with
  | none =>
    rw [absent handle present] at there
    cases there
  | some link =>
    obtain ⟨after,output,disposed,found⟩ := links handle link present
    rw [found,some.injEq] at there
    subst there
    obtain ⟨missed,hit,-⟩ := Link.dispose_ok disposed
    cases addressed : link.addressed d with
    | false =>
      rw [missed addressed]
      exact .inl rfl
    | true =>
      obtain ⟨ranged,-⟩ := hit addressed
      have frame := ranged.frame
      cases link with
      | receiver => cases frame
      | sender sender =>
        have role : d.role = .receiver := by
          cases role : d.role with
          | receiver => rfl
          | sender =>
            rw [Link.addressed,role] at addressed
            cases addressed
        simp only [Link.withTracking,Link.sender.injEq] at frame
        have before := prompt.sound handle sender present
        have stopped := (prompt.stopped handle sender present).resolve_left (by simp)
        refine .inr ⟨?_,?_⟩
        · rw [frame]
          exact ⟨before.bound,before.idle,before.sized⟩
        change Stopped unit next.windows l
        rw [windows]
        rcases stopped with empty | detached | uncredited | full | narrow
        · exact .inl (by rw [frame]; exact empty)
        · exact .inr (.inl (by rw [frame]; exact detached))
        · exact .inr (.inr (.inl (by rw [frame]; exact uncredited)))
        · cases settled : d.settled with
          | true =>
            have empty := outbox_of_not_capStalled (free role settled) present full
            exact .inl (by rw [frame]; exact empty)
          | false =>
            have tracked : sender.unsettled.isEmpty = false := by
              cases none_tracked : sender.unsettled.isEmpty with
              | false => rfl
              | true =>
                rw [ExtTreeMap.isEmpty_iff] at none_tracked
                rw [none_tracked] at full
                exact absurd full (by decide)
            have applied := ranged.applied tracked
            rw [settled] at applied
            have same : l.unsettled.size = sender.unsettled.size := applyDisposition_size applied
            exact .inr (.inr (.inr (.inl (by rw [same]; exact full))))
        · exact .inr (.inr (.inr (.inr narrow)))

lemma PromptBut.inbound (prompt : s.Prompt maxFrameSize unit) (small : unit < 2^32)
    (ready : s.windows.initialized = true) {order : IterOrder} {frame : Frame}
    (free : ∀ d, frame.performative = .disposition d → d.role = .receiver → d.settled = true →
      s.capStalled = false) (ok : s.inbound policy order maxFrameSize frame = .ok result) :
    result.1.Prompt maxFrameSize unit ∧ unit ∣ transfers result.2 := by
  have registered := Registered.stable.inbound prompt.registered
    (fun _ _ attached => inboundAttach_registered prompt.registered attached) ok
  have mild := fun mild : s.Mild result => mild.prompt prompt registered
  obtain ⟨_,performative,_⟩ := frame
  cases performative with
  | attach => exact mild (inboundAttach_mild ok) (window_le_of_traces ready (inboundAttach_traced ok))
  | transfer => exact mild (onTransfer_mild ok) (by rw [onTransfer_window ok])
  | disposition disposition => exact prompt.onDisposition (free disposition rfl) ok
  | flow flow =>
    cases ok
    exact prompt.onFlow small ready order flow
  | detach =>
    cases ok
    exact mild (onPeerDetach_mild ..) (window_le_of_traces ready (onPeerDetach_traced ..))
  | open_ | begin_ | end_ | close =>
    cases ok
    exact mild (.keep rfl rfl) le_rfl

end Session

variable {frame : Frame} {op : LocalOp} {unit : Nat}

namespace Pair

variable {units : Side → Nat} {pair : Pair}

/-- The steps that keep messages moving: every message a side sends takes its unit of frames, a
transfer finds its link, and no settling disposition reaches a link stalled at the cap. -/
def steady (units : Side → Nat) (pair : Pair) (label : PairStep) : Bool :=
  pair.transferBound label && match label with
    | .act side (.send _ message) => decide
        (frameTotal message.body.length (maxPayloadPerFrame (pair side).maxFrameSize) = units side)
    | .act _ _ => true
    | .deliver side _ _ => match (pair side).inbox with
      | ⟨_,.disposition d,_⟩::_ =>
        !(decide (d.role = .receiver) && d.settled && (pair side).session.capStalled)
      | _ => true

structure Flowing (units : Side → Nat) (pair : Pair) : Prop where
  inStep : pair.InStep
  prompt : ∀ side, (pair side).session.Prompt (pair side).maxFrameSize (units side)
  aligned : ∀ side, Aligned (units side) (pair.peer side.other) (pair.items side.other)
  refill : ∀ side, units side ∣ (max (pair.peer side.other).refill 1).toNat

lemma unit_small {window : UInt32} (divides : unit ∣ (max window 1).toNat) : unit < 2^32 := by
  have positive : 0 < (max window 1).toNat := by
    change 0 < (if window ≤ 1 then 1 else window).toNat
    split
    · decide
    rename_i above
    rw [UInt32.le_iff_toNat_le] at above
    simp only [UInt32.toNat_one] at above
    omega
  exact Nat.lt_of_le_of_lt (Nat.le_of_dvd positive divides) (max window 1).toNat_lt

variable {side : Side}

variable {result : Session × List Effect}

section

variable (flowing : pair.Flowing units)

include flowing

lemma Flowing.moved {inbox : List Frame}
    (inStep : (pair.moved side result.1 inbox result.2).InStep)
    (sent : result.1.Prompt (pair side).maxFrameSize (units side) ∧ units side ∣ transfers result.2)
    (aligned : Aligned (units side.other) result.1.windows.peer (inbox.map item))
    (same : result.1.windows.peer.refill = (pair.peer side).refill) :
    (pair.moved side result.1 inbox result.2).Flowing units := by
  refine ⟨inStep,?_,?_,?_⟩
  · intro at_
    rcases side.eq_or_other at_ with rfl | rfl
    · rw [moved_self]
      exact sent.1
    · rw [moved_other]
      exact flowing.prompt _
  · intro at_
    rcases side.eq_or_other at_ with rfl | rfl
    · simp only [peer,items,moved_other,map_append]
      exact (flowing.aligned at_).emit sent.2
    · simp only [peer,items,Side.other_other,moved_self]
      exact aligned
  intro at_
  rcases side.eq_or_other at_ with rfl | rfl
  · simp only [peer,moved_other]
    exact flowing.refill at_
  have back := flowing.refill side.other
  rw [Side.other_other] at back
  simp only [peer,Side.other_other,moved_self]
  rw [same]
  exact back

lemma flowing_act (sized : ∀ handle message, op = .send handle message →
      frameTotal message.body.length (maxPayloadPerFrame (pair side).maxFrameSize) = units side)
    (ok : (pair side).session.act (pair side).maxFrameSize op = .ok result) :
    (pair.moved side result.1 (pair side).inbox result.2).Flowing units := by
  have ready := flowing.inStep.ready side
  have emits := (act_traced ok).emits ready
  have sent := (flowing.prompt side).act (unit_small (flowing.refill side)) ready sized ok
  have back := flowing.aligned side.other
  rw [Side.other_other] at back
  exact flowing.moved (inStep_act flowing.inStep ok) sent (back.emitted emits) emits.frame.2.2

lemma flowing_deliver {policy : AttachPolicy} {rest : List Frame} (waiting : (pair side).inbox = frame::rest)
    (bound : ∀ t, frame.performative = .transfer t → ((pair side).session.remoteHandles t.handle).isSome)
    (free : ∀ d, frame.performative = .disposition d → d.role = .receiver → d.settled = true →
      (pair side).session.capStalled = false)
    (ok : (pair side).session.inbound policy order (pair side).maxFrameSize frame = .ok result) :
    (pair.moved side result.1 rest result.2).Flowing units := by
  have ready := flowing.inStep.ready side
  obtain ⟨absorbs,-⟩ := inbound_absorbs ready bound ok
  have sent := (flowing.prompt side).inbound (unit_small (flowing.refill side)) ready free ok
  have back := flowing.aligned side.other
  have refill := flowing.refill side.other
  have isOpen := (flowing.inStep.synced side.other).isOpen
  have here : pair.items side = frame.item::rest.map item := by rw [items,waiting,map_cons]
  rw [Side.other_other] at back refill isOpen
  rw [here] at back
  exact flowing.moved (inStep_deliver flowing.inStep waiting bound ok) sent (back.receive isOpen refill absorbs)
    absorbs.refill

lemma flowing_step {next : Pair} {label : PairStep}
    (steady : pair.steady units label = true) (ok : pair.step label = some next) : next.Flowing units := by
  unfold Pair.steady at steady
  rw [and_eq_true] at steady
  rcases step_cases ok with ⟨side,op,result,rfl,acted,rfl⟩ | ⟨side,policy,order,frame,rest,result,rfl,waiting,taken,rfl⟩
  · refine flowing_act flowing ?_ acted
    rintro handle message rfl
    simpa using steady.2
  obtain ⟨_,_⟩ := frame
  refine flowing_deliver flowing waiting ?_ ?_ taken
  · rintro transfer rfl
    simpa [transferBound,waiting] using steady.1
  · rintro d rfl role settled
    simpa [waiting,role,settled] using steady.2

end

lemma opened_flowing (o : Opening) (client : 1 ≤ o.begin_.incomingWindow) (server : 1 ≤ o.config.incomingWindow)
    (toServer : units .client ∣ o.config.incomingWindow.toNat)
    (toClient : units .server ∣ o.begin_.incomingWindow.toNat) : (opened o).Flowing units := by
  have top : ∀ window : UInt32, 1 ≤ window → (max window 1).toNat = window.toNat := by
    intro window positive
    change (if window ≤ 1 then 1 else window).toNat = window.toNat
    split
    next below =>
      rw [UInt32.le_antisymm below positive]
    · rfl
  have whole : ∀ (unit : Nat) (window : UInt32), unit ∣ window.toNat → window.toNat % unit = 0 % unit := by
    rintro unit window ⟨units,count⟩
    rw [count,Nat.mul_mod_right,Nat.zero_mod]
  refine ⟨opened_inStep o client server,?_,?_,?_⟩
  · intro side
    cases side <;> exact ⟨.empty rfl rfl ⟨_,rfl⟩,(by intro _ _ h; cases h),by intro _ _ h; cases h⟩
  · intro side
    cases side with
    | client => exact whole _ _ toServer
    | server => exact whole _ _ toClient
  intro side
  cases side with
  | client =>
    change units .client ∣ (max o.config.incomingWindow 1).toNat
    rw [top _ server]
    exact toServer
  | server =>
    change units .server ∣ (max o.begin_.incomingWindow 1).toNat
    rw [top _ client]
    exact toClient

end Pair

/-- A sender that has credit and room for unsettled deliveries, and a message queued all the same. -/
def Link.stuck : Link → Bool
  | .sender l => l.attached && decide (1 ≤ l.credit.linkCredit) &&
      decide (l.unsettled.size < maxUnsettledPerLink) && !l.outbox.isEmpty
  | .receiver _ => false

/-- In a run of steady steps no message with credit is stuck once nothing is under way. -/
theorem pair_never_stuck (o : Pair.Opening) (units : Side → Nat) (client : 1 ≤ o.begin_.incomingWindow)
    (server : 1 ≤ o.config.incomingWindow) (toServer : units .client ∣ o.config.incomingWindow.toNat)
    (toClient : units .server ∣ o.begin_.incomingWindow.toNat) (labels : List PairStep) (pair : Pair)
    (steady : Transition.Meets Pair.step (fun pair label => pair.steady units label = true)
      (Pair.opened o) labels) (ok : run Pair.step (Pair.opened o) labels = some pair)
    (quiet : pair.Quiet) (side : Side) (handle : UInt32) (link : Link)
    (present : (pair side).session.links[handle]? = some link) :
    link.stuck = false := by
  have flowing : pair.Flowing units := run_invariant (fun flowing => Pair.flowing_step flowing)
    (Pair.opened_flowing o client server toServer toClient) steady ok
  have synced := flowing.inStep.synced side
  have aligned := flowing.aligned side
  rw [quiet.items,quiet.items] at synced
  rw [quiet.items] at aligned
  -- The sender's window is the receiver's, and that is a positive number of whole units.
  have window : (pair side).session.windows.remoteIncomingWindow = (pair.peer side.other).window :=
    synced.quiescent.1
  have whole : units side ∣ (pair.peer side.other).window.toNat := by
    rw [Aligned,dataCount,Nat.zero_mod] at aligned
    exact Nat.dvd_of_mod_eq_zero aligned
  have positive : 0 < (pair.peer side.other).window.toNat := by
    have isOpen := synced.isOpen
    rw [UInt32.le_iff_toNat_le,UInt32.toNat_one] at isOpen
    omega
  cases link with
  | receiver => rfl
  | sender l =>
    have stopped := ((flowing.prompt side).stopped handle l present).resolve_left (by simp)
    rcases stopped with empty | detached | uncredited | full | narrow
    · simp [stuck,empty]
    · simp [stuck,detached]
    · simp [stuck,uncredited]
    · simp [stuck,Nat.not_lt.mpr full]
    · rw [window] at narrow
      exact absurd (Nat.le_of_dvd positive whole) (by omega)

def twoFrames : PendingSend := ⟨replicate 433 0,true,0,none,none⟩

def attachedWithCredit : List PairStep :=
  [.act .client (.attach {name := "q",handle := 0,role := .sender} .manual 10 20),
   .deliver .server (.accept .manual 5 none 11) .byKey,
   .deliver .client .respond .byKey,
   .deliver .client .respond .byKey]

theorem pair_never_stuck_two_frames :
    ∃ pair, run Pair.step (Pair.opened ⟨⟨none,0,2,2,8⟩,⟨2,2,8⟩,0,0,512,512⟩)
        (attachedWithCredit ++ [.act .client (.send 0 twoFrames),.deliver .server .respond .byKey,
          .deliver .server .respond .byKey,.deliver .client .respond .byKey]) = some pair ∧
      pair.Quiet ∧ ∀ link, (pair .client).session.links[(0 : UInt32)]? = some link → link.stuck = false := by
  obtain ⟨pair,ok,quiet⟩ := reaches_of_any (P := Pair.Quiet)
    (show Option.any _ (run Pair.step (Pair.opened ⟨⟨none,0,2,2,8⟩,⟨2,2,8⟩,0,0,512,512⟩)
      (attachedWithCredit ++ [.act .client (.send 0 twoFrames),.deliver .server .respond .byKey,
        .deliver .server .respond .byKey,.deliver .client .respond .byKey])) = true by decide +kernel)
  exact ⟨pair,ok,quiet,fun link present => pair_never_stuck ⟨⟨none,0,2,2,8⟩,⟨2,2,8⟩,0,0,512,512⟩
    (fun side => if side = .client then 2 else 1) (by decide) (by decide) (by decide) (by decide) _ pair
    (meets_of_check (by decide +kernel)) ok quiet .client 0 link present⟩

/-- The second message of two frames waits for a window of two; the receiver still has one of
three open and reopens it only when that is used up. -/
theorem two_frame_message_stuck :
    ∃ pair, run Pair.step (Pair.opened ⟨⟨none,0,3,3,8⟩,⟨3,3,8⟩,0,0,512,512⟩)
        (attachedWithCredit ++ [.act .client (.send 0 twoFrames),.act .client (.send 0 twoFrames),
          .deliver .server .respond .byKey,.deliver .server .respond .byKey]) = some pair ∧
      pair.Quiet ∧ ((pair .client).session.links[(0 : UInt32)]?).any Link.stuck = true := by
  apply reaches_of_any
  decide +kernel

end Ramqp
