import Ramqp.Disposition
import Ramqp.Library.Entries

/-! The link registry of a session: a handle belongs to one link at a time, and a handle of
the peer leads only to a link that is bound to it. -/
namespace Ramqp

open Std List Option Function Std.ExtTreeMap

structure HandleAllocator.Covers (a : HandleAllocator) (used : UInt32 → Prop) : Prop where
  used_lt : ∀ handle, used handle → handle.toNat < a.next
  used_taken : ∀ handle, used handle → handle ∉ a.free
  free_lt : ∀ handle ∈ a.free, handle.toNat < a.next
  free_nodup : a.free.Nodup
  bounded : a.next ≤ a.handleMax.toNat + 1

namespace HandleAllocator

variable {a : HandleAllocator} {used : UInt32 → Prop}

lemma new_covers (handleMax : UInt32) : (new handleMax).Covers (fun _ => False) :=
  ⟨fun _ absurd => absurd.elim,fun _ absurd => absurd.elim,fun _ member => (nomatch member),.nil,Nat.zero_le _⟩

lemma Covers.congr {other : UInt32 → Prop} (covers : a.Covers used) (same : ∀ handle, other handle ↔ used handle) :
    a.Covers other :=
  ⟨fun handle held => covers.used_lt handle ((same handle).mp held),
    fun handle held => covers.used_taken handle ((same handle).mp held),
    covers.free_lt,covers.free_nodup,covers.bounded⟩

lemma Covers.allocate {next : HandleAllocator} (covers : a.Covers used) (ok : a.allocate = some (handle,next)) :
    ¬ used handle ∧ next.Covers (fun other => other = handle ∨ used other) := by
  unfold HandleAllocator.allocate at ok
  split at ok
  next free =>
    cases ok
    have distinct := covers.free_nodup
    rw [free,nodup_cons] at distinct
    have fresh : ¬ used handle := fun held => covers.used_taken handle held (by simp [free])
    refine ⟨fresh,?_,?_,?_,distinct.2,covers.bounded⟩
    · rintro other (rfl | held)
      · exact covers.free_lt _ (by simp [free])
      · exact covers.used_lt other held
    · rintro other (rfl | held)
      · exact distinct.1
      · intro member
        exact covers.used_taken other held (by simp [free,member])
    · intro other member
      exact covers.free_lt other (by simp [free,member])
  next free =>
    split at ok
    next room =>
      cases ok
      have size := a.handleMax.toNat_lt
      have value : (UInt32.ofNat a.next).toNat = a.next := UInt32.toNat_ofNat_of_lt' (by simp only [UInt32.size]; omega)
      have fresh : ¬ used (UInt32.ofNat a.next) := by
        intro held
        have := covers.used_lt _ held
        omega
      refine ⟨fresh,?_,?_,?_,?_,?_⟩
      · rintro other (rfl | held)
        · change (UInt32.ofNat a.next).toNat < a.next + 1
          omega
        · exact Nat.lt_succ_of_lt (covers.used_lt other held)
      · rintro other _
        simp [free]
      · intro other member
        simp [free] at member
      · simp [free]
      · change a.next + 1 ≤ a.handleMax.toNat + 1
        omega
    · cases ok

lemma Covers.release (covers : a.Covers used) (held : used handle) :
    (a.release handle).Covers (fun other => other ≠ handle ∧ used other) := by
  refine ⟨fun other here => covers.used_lt other here.2,?_,?_,?_,covers.bounded⟩
  · rintro other ⟨distinct,here⟩ member
    rcases mem_cons.mp member with same | inside
    · exact distinct same
    · exact covers.used_taken other here inside
  · intro other member
    rcases mem_cons.mp member with rfl | inside
    · exact covers.used_lt _ held
    · exact covers.free_lt other inside
  · exact nodup_cons.mpr ⟨covers.used_taken handle held,covers.free_nodup⟩

end HandleAllocator

structure LinkCard where
  key : String × Role
  remoteHandle : Option UInt32
  events : ChannelRef
  pendingAttach : Option Reply
  deriving DecidableEq

def Link.card (link : Link) : LinkCard := ⟨link.key,link.remoteHandle,link.events,link.pendingAttach⟩

namespace Session

variable {s next : Session} {handle : UInt32} {link : Link} {result : Session × List Effect} {transfer : Transfer}
  {payload : Option Bytes}

variable {policy : AttachPolicy}

variable {attach : Attach}

structure InPlace (s next : Session) : Prop where
  frame : next = {s with windows := next.windows,links := next.links}
  cards : ∀ handle : UInt32, next.links[handle]?.map Link.card = s.links[handle]?.map Link.card

variable {after : Link} {w : SessionWindows}

namespace InPlace

lemma windows (s : Session) (w : SessionWindows) : InPlace s {s with windows := w} := ⟨rfl,fun _ => rfl⟩

lemma refl : InPlace s s := ⟨rfl,fun _ => rfl⟩

lemma trans {middle : Session} (first : InPlace s middle) (second : InPlace middle next) : InPlace s next := by
  refine ⟨?_,fun handle => (second.cards handle).trans (first.cards handle)⟩
  rw [second.frame,first.frame]

lemma replace (present : s.links[handle]? = some link) (same : after.card = link.card) :
    InPlace s {s with windows := w,links := s.links.insert handle after} := by
  refine ⟨rfl,?_⟩
  intro other
  rw [ExtTreeMap.getElem?_insert]
  by_cases here : handle = other
  · subst here
    simp [present,same]
  · simp [here]

section

variable (kept : InPlace s next)

include kept

lemma handles : next.handles = s.handles := by
  rw [kept.frame]

lemma remoteHandles : next.remoteHandles = s.remoteHandles := by
  rw [kept.frame]

lemma linkHandles : next.linkHandles = s.linkHandles := by
  rw [kept.frame]

lemma forward (present : s.links[handle]? = some link) :
    ∃ after, next.links[handle]? = some after ∧ after.card = link.card := by
  have same := kept.cards handle
  rw [present,map_some] at same
  exact map_eq_some_iff.mp same

lemma backward (present : next.links[handle]? = some after) :
    ∃ link, s.links[handle]? = some link ∧ after.card = link.card := by
  have same := kept.cards handle
  rw [present,map_some] at same
  obtain ⟨link,there,card⟩ := map_eq_some_iff.mp same.symm
  exact ⟨link,there,card.symm⟩

end

end InPlace

structure Registered (s : Session) : Prop where
  covers : s.handles.Covers (fun handle => handle ∈ s.links)
  bound : ∀ remote handle, s.remoteHandles remote = some handle →
    ∃ link, s.links[handle]? = some link ∧ link.remoteHandle = some remote

lemma Registered.empty (links : s.links = ∅) (remote : s.remoteHandles = fun _ => none)
    (handles : ∃ handleMax, s.handles = .new handleMax) : s.Registered := by
  obtain ⟨handleMax,handles⟩ := handles
  constructor
  · rw [handles]
    exact (HandleAllocator.new_covers handleMax).congr (by simp [links])
  intro peer handle found
  rw [remote] at found
  cases found

lemma Registered.inPlace (registered : s.Registered) (kept : InPlace s next) : next.Registered := by
  constructor
  · rw [kept.handles]
    apply registered.covers.congr
    intro handle
    have same := congrArg isSome (kept.cards handle)
    simp only [isSome_map] at same
    simp only [mem_iff_isSome_getElem?,same]
  intro peer handle found
  rw [kept.remoteHandles] at found
  obtain ⟨_,present,bound⟩ := registered.bound peer handle found
  obtain ⟨after,there,card⟩ := kept.forward present
  exact ⟨after,there,(congrArg LinkCard.remoteHandle card).trans bound⟩

lemma Registered.add {handles : HandleAllocator} (registered : s.Registered)
    (allocated : s.handles.allocate = some (handle,handles))
    (moved : next.handles = handles ∧ next.links = s.links.insert handle link)
    (remote : (next.remoteHandles = s.remoteHandles) ∨ ∃ peer, link.remoteHandle = some peer ∧
        next.remoteHandles = update s.remoteHandles peer (some handle)) : next.Registered := by
  obtain ⟨fresh,covers⟩ := registered.covers.allocate allocated
  have kept : ∀ peer other, s.remoteHandles peer = some other →
      ∃ link, next.links[other]? = some link ∧ link.remoteHandle = some peer := by
    intro peer other found
    obtain ⟨old,present,bound⟩ := registered.bound peer other found
    have distinct : handle ≠ other := by
      rintro rfl
      exact fresh (mem_iff_isSome_getElem?.mpr (by simp [present]))
    exact ⟨old,by simp [moved.2,ExtTreeMap.getElem?_insert,distinct,present],bound⟩
  constructor
  · rw [moved.1]
    apply covers.congr
    intro other
    simp only [moved.2,mem_insert,LawfulEqCmp.compare_eq_iff_eq]
    exact or_congr eq_comm Iff.rfl
  intro peer other found
  rcases remote with remote | ⟨bound,linked,remote⟩
  · rw [remote] at found
    exact kept peer other found
  rw [remote] at found
  by_cases same : peer = bound
  · subst same
    rw [update_self,some.injEq] at found
    subst found
    exact ⟨link,by simp [moved.2],linked⟩
  · rw [update_of_ne same] at found
    exact kept peer other found

lemma Registered.bind {remote : UInt32} (registered : s.Registered)
    (present : s.links[handle]? = some link) (unbound : link.remoteHandle = none)
    (linked : after.remoteHandle = some remote)
    (moved : next.handles = s.handles ∧ next.links = s.links.insert handle after ∧
      next.remoteHandles = update s.remoteHandles remote (some handle)) : next.Registered := by
  have held : handle ∈ s.links := mem_iff_isSome_getElem?.mpr (by simp [present])
  constructor
  · rw [moved.1]
    apply registered.covers.congr
    intro other
    simp only [moved.2.1,mem_insert,LawfulEqCmp.compare_eq_iff_eq]
    constructor
    · rintro (rfl | inside)
      · exact held
      · exact inside
    · exact .inr
  intro peer other found
  rw [moved.2.2] at found
  by_cases same : peer = remote
  · subst same
    rw [update_self,some.injEq] at found
    subst found
    exact ⟨after,by simp [moved.2.1],linked⟩
  rw [update_of_ne same] at found
  obtain ⟨old,there,bound⟩ := registered.bound peer other found
  have distinct : handle ≠ other := by
    rintro rfl
    rw [present,some.injEq] at there
    subst there
    rw [unbound] at bound
    cases bound
  exact ⟨old,by simp [moved.2.1,ExtTreeMap.getElem?_insert,distinct,there],bound⟩

@[simp] lemma unbind_links : (s.unbind remote).links = s.links := by
  cases remote <;> rfl

@[simp] lemma unbind_handles : (s.unbind remote).handles = s.handles := by
  cases remote <;> rfl

lemma unbind_remoteHandles {peer : UInt32} (found : (s.unbind remote).remoteHandles peer = some handle) :
    remote ≠ some peer ∧ s.remoteHandles peer = some handle := by
  cases remote with
  | none => exact ⟨by simp,found⟩
  | some r =>
    by_cases same : peer = r
    · subst same
      simp [unbind] at found
    · simp only [unbind,update_of_ne same] at found
      exact ⟨fun equal => same (some.inj equal).symm,found⟩

@[simp] lemma forgetLink_links : (s.forgetLink handle).1.links = s.links.erase handle := by
  unfold forgetLink
  split
  · rfl
  rename_i absent
  refine ext_getElem? fun other => ?_
  rw [getElem?_erase]
  by_cases same : handle = other
  · subst same
    simp [absent]
  · simp [same]

@[simp] lemma forgetLink_handles : (s.forgetLink handle).1.handles = s.handles.release handle := by
  unfold forgetLink
  split <;> rfl

@[simp] lemma forgetLink_remoteHandles : (s.forgetLink handle).1.remoteHandles = s.remoteHandles := by
  unfold forgetLink
  split <;> rfl

variable {creditMode : CreditMode} {events : ChannelRef} {reply : Reply}

section

variable (registered : s.Registered)

include registered

lemma Registered.forget (present : s.links[handle]? = some link) :
    ((s.unbind link.remoteHandle).forgetLink handle).1.Registered := by
  have held : handle ∈ s.links := mem_iff_isSome_getElem?.mpr (by simp [present])
  constructor
  · rw [forgetLink_handles,unbind_handles,forgetLink_links,unbind_links]
    apply (registered.covers.release held).congr
    intro other
    simp only [mem_erase,ne_eq,LawfulEqCmp.compare_eq_iff_eq]
    exact and_congr (not_congr eq_comm) Iff.rfl
  intro peer other found
  rw [forgetLink_remoteHandles] at found
  obtain ⟨unbound,found⟩ := unbind_remoteHandles found
  obtain ⟨old,there,bound⟩ := registered.bound peer other found
  have distinct : handle ≠ other := by
    rintro rfl
    rw [present,some.injEq] at there
    subst there
    exact unbound bound
  exact ⟨old,by simp [getElem?_erase,distinct,there],bound⟩

lemma attachLink_registered : (s.attachLink attach creditMode events reply).1.Registered := by
  unfold attachLink
  split
  · exact registered
  next allocated =>
    exact registered.add allocated ⟨rfl,rfl⟩ (.inl rfl)

end

lemma bindLink_card (link : Link) (attach : Attach) (windows : SessionWindows) :
    (bindLink link attach windows).1.clearPendingAttach.card =
      {link.card with remoteHandle := some attach.handle,pendingAttach := none} := by
  cases link with
  | sender => rfl
  | receiver =>
    simp only [bindLink,Link.setRemoteHandle,Link.markAttached,bindReceiver]
    split <;> rfl

lemma onPeerAttach_registered (registered : s.Registered) (attach : Attach) :
    (s.onPeerAttach attach).1.Registered := by
  unfold onPeerAttach
  split
  · exact registered
  split
  · exact registered
  rename_i link present
  split
  · exact registered
  rename_i unbound
  have linked := congrArg LinkCard.remoteHandle (bindLink_card link attach s.windows)
  exact registered.bind present (by simpa using unbound) linked ⟨rfl,rfl,rfl⟩

variable {maxMessageSize : Option UInt64} {accepted : AcceptedLink} {initialCredit : UInt32}

lemma acceptPeerAttach_ok
    (ok : s.acceptPeerAttach attach creditMode initialCredit maxMessageSize events = .ok (accepted,result)) :
    s.linkHandles (attach.name,attach.role.opposite) = none ∧
    ∃ handle handles, s.handles.allocate = some (handle,handles) ∧ accepted = ⟨handle,attach.role.opposite⟩ ∧
      result = ({s with
          handles, linkHandles := update s.linkHandles (attach.name,attach.role.opposite) (some handle),
          remoteHandles := update s.remoteHandles attach.handle (some handle),
          links := s.links.insert handle ((mirrorLink handle attach creditMode initialCredit maxMessageSize events
            s.windows).1.setRemoteHandle attach.handle).markAttached},
        .queue ⟨s.localChannel,.attach (attachResponse handle attach maxMessageSize),none⟩ :: queueFlow s.localChannel
            (mirrorLink handle attach creditMode initialCredit maxMessageSize events s.windows).2) := by
  unfold acceptPeerAttach at ok
  dsimp only at ok
  split at ok
  · cases ok
  rename_i unknown
  split at ok
  · cases ok
  rename_i handle handles allocated
  cases ok
  exact ⟨by simpa using unknown,handle,handles,allocated,rfl,rfl⟩

lemma inboundAttach_cases (ok : s.inboundAttach attach policy = .ok result) : result = s.onPeerAttach attach ∨
    (∃ creditMode initialCredit maxMessageSize events accepted,
      policy = .accept creditMode initialCredit maxMessageSize events ∧
      s.acceptPeerAttach attach creditMode initialCredit maxMessageSize events = .ok (accepted,result)) ∨
    ∃ error, policy = .refuse error ∧ result = s.refusePeerAttach attach error := by
  cases policy with
  | respond =>
    cases ok
    exact .inl rfl
  | accept =>
    simp only [inboundAttach] at ok
    split at ok
    · cases ok
      exact .inl rfl
    split at ok
    · cases ok
    rename_i accepted
    cases ok
    exact .inr (.inl ⟨_,_,_,_,_,rfl,accepted⟩)
  | refuse error =>
    simp only [inboundAttach] at ok
    split at ok
    · cases ok
      exact .inl rfl
    · cases ok
      exact .inr (.inr ⟨error,rfl,rfl⟩)

lemma refusePeerAttach_covers {used : UInt32 → Prop} (covers : s.handles.Covers used)
    (error : AmqpError) : (s.refusePeerAttach attach error).1.handles.Covers used := by
  unfold refusePeerAttach
  cases allocated : s.handles.allocate with
  | none => exact covers
  | some entry =>
    obtain ⟨_,_⟩ := entry
    obtain ⟨fresh,taken⟩ := covers.allocate allocated
    refine (taken.release (.inl rfl)).congr fun other => ?_
    constructor
    · intro held
      exact ⟨fun same => fresh (same ▸ held),.inr held⟩
    rintro ⟨distinct,same | held⟩
    · exact absurd same distinct
    · exact held

lemma acceptPeerAttach_registered (registered : s.Registered)
    (ok : s.acceptPeerAttach attach creditMode initialCredit maxMessageSize events = .ok (accepted,result)) :
    result.1.Registered := by
  obtain ⟨-,handle,_,allocated,-,rfl⟩ := acceptPeerAttach_ok ok
  refine registered.add allocated ⟨rfl,rfl⟩ (.inr ⟨attach.handle,?_,rfl⟩)
  cases (mirrorLink handle attach creditMode initialCredit maxMessageSize events s.windows).1 <;> rfl

lemma inboundAttach_registered (registered : s.Registered) (ok : s.inboundAttach attach policy = .ok result) :
    result.1.Registered := by
  rcases inboundAttach_cases ok with
    rfl | ⟨creditMode,initialCredit,maxMessageSize,events,accepted,-,ok⟩ | ⟨error,-,rfl⟩
  · exact onPeerAttach_registered registered attach
  · exact acceptPeerAttach_registered registered ok
  · exact ⟨refusePeerAttach_covers registered.covers error,registered.bound⟩

lemma recordSend_credit (l : SenderLink) (deliveryId : UInt32) (message : PendingSend) :
    (l.recordSend deliveryId message).1.credit = l.credit.recordSent := by
  unfold SenderLink.recordSend
  split <;> rfl

lemma flushOutbox_card (maxPayload : Nat) (outbox : List PendingSend) :
    (Link.sender (flushOutbox channel handle maxPayload outbox sender w).1).card = (Link.sender sender).card := by
  induction outbox generalizing sender w with
  | nil => rfl
  | cons front rest ih =>
    unfold flushOutbox
    split
    · split
      · rfl
      split
      · rfl
      · rw [ih]
        unfold SenderLink.recordSend
        simp only
        split <;> rfl
    · rfl

lemma completeDrain_card :
    (Link.sender (completeDrain channel handle sender w).1).card = (Link.sender sender).card := by
  unfold completeDrain
  split <;> rfl

lemma flushSender_inPlace (s : Session) (handle : UInt32) (maxFrameSize : Nat) :
    InPlace s (s.flushSender handle maxFrameSize).1 := by
  unfold flushSender
  split
  next present =>
    exact .replace present (completeDrain_card.trans (flushOutbox_card ..))
  · exact .refl

lemma sendTransfer_inPlace (s : Session) (handle : UInt32) (message : PendingSend) (maxFrameSize : Nat) :
    InPlace s (s.sendTransfer handle message maxFrameSize).1 := by
  unfold sendTransfer
  split
  next present =>
    refine InPlace.trans ?_ (flushSender_inPlace ..)
    exact .replace present rfl
  · exact .refl

lemma flushAll_inPlace (maxFrameSize : Nat) (handles : List UInt32) (s : Session) :
    InPlace s (flushAll maxFrameSize handles s).1 := by
  induction handles generalizing s with
  | nil => exact .refl
  | cons handle rest ih => exact (flushSender_inPlace s handle maxFrameSize).trans (ih _)

lemma sendDisposition_inPlace {first : UInt32} {last : Option UInt32} {state : DeliveryState} {settled : Bool}
    (ok : s.sendDisposition handle first last state settled = .ok result) : InPlace s result.1 := by
  unfold sendDisposition at ok
  simp only at ok
  split at ok
  next present =>
    split at ok
    · cases ok
      exact .refl
    split at ok
    · cases ok
    · cases ok
      exact .replace present rfl
  · cases ok
    exact .refl

lemma grantCredit_inPlace (s : Session) (handle credit : UInt32) : InPlace s (s.grantCredit handle credit).1 := by
  unfold grantCredit
  split
  next present =>
    exact .replace present rfl
  · exact .refl

lemma sendFlow_inPlace (s : Session) (flow : Flow) : InPlace s (s.sendFlow flow).1 := by
  unfold sendFlow
  simp only
  split
  · split
    next present =>
      exact .replace present rfl
    · exact .refl
  · exact .refl

lemma receive_card {r : ReceiverLink} {result : ReceiverLink × Option LinkEvent × Bool}
    (ok : r.receive transfer payload = .ok result) : (Link.receiver result.1).card = (Link.receiver r).card := by
  unfold ReceiverLink.receive at ok
  split at ok
  · cases ok
    rfl
  split at ok
  · cases ok
  simp only at ok
  split at ok
  · cases ok
    rfl
  split at ok
  · cases ok
    rfl
  · cases ok
    rfl

lemma assemble_inPlace {emit : List Effect} {sizeExceeded : Bool}
    (ok : s.assemble handle transfer payload = .ok (next,emit,sizeExceeded)) : InPlace s next := by
  unfold assemble at ok
  split at ok
  next present =>
    split at ok
    · cases ok
    rename_i received
    cases ok
    exact .replace present (receive_card received)
  · cases ok
    exact .refl

lemma replenish_inPlace (needSessionFlow : Bool) : InPlace s (s.replenish needSessionFlow).1 := by
  unfold replenish
  split
  · exact .windows s _
  · exact .refl

lemma onTransfer_inPlace (ok : s.onTransfer transfer payload = .ok result) :
    (s.remoteHandles transfer.handle = none ∧ result.1 = s) ∨
    ∃ handle counted sizeExceeded, s.remoteHandles transfer.handle = some handle ∧ InPlace s counted ∧
      result.1 = (counted.refuseOversized handle sizeExceeded).1 := by
  unfold onTransfer at ok
  split at ok
  next unknown =>
    cases ok
    exact .inl ⟨unknown,rfl⟩
  rename_i handle found
  simp only at ok
  split at ok
  · cases ok
  rename_i sizeExceeded assembled
  cases ok
  refine .inr ⟨handle,_,sizeExceeded,found,?_,rfl⟩
  exact ((InPlace.windows s _).trans (assemble_inPlace assembled)).trans (replenish_inPlace ..)

lemma mem_stalled (l : SenderLink) (present : s.links[handle]? = some (.sender l))
    (queued : l.outbox ≠ []) : handle ∈ s.stalled := by
  simp only [stalled,mem_filterMap]
  refine ⟨(handle,.sender l),mem_toList_iff_getElem?_eq_some.mpr present,?_⟩
  simp [queued]

private lemma stalled_own (entry : UInt32 × Link) (found : (match entry.2 with
    | .sender l => if l.outbox.isEmpty then none else some entry.1
    | .receiver _ => none) = some handle) : entry.1 = handle := by
  split at found
  · split at found
    · cases found
    · exact some.inj found
  · cases found

lemma nodup_stalled : s.stalled.Nodup := by
  have keys : s.links.toList.Pairwise (fun a b => a.1 ≠ b.1) := pairwise_map.mp Entries.nodup_keys
  refine pairwise_filterMap.mpr (keys.imp ?_)
  intro a b apart first there second here
  exact stalled_own a there ▸ stalled_own b here ▸ apart

lemma applyLinkFlow_inPlace (s : Session) (flow : Flow) : InPlace s (s.applyLinkFlow flow).1 := by
  unfold applyLinkFlow
  split
  · exact .refl
  split
  next present =>
    exact .replace present rfl
  · exact .refl

lemma onFlow_inPlace (order : IterOrder) (maxFrameSize : Nat) : InPlace s (s.onFlow order flow maxFrameSize).1 := by
  have learnt := InPlace.windows s (s.windows.onPeerFlow flow)
  exact (learnt.trans (applyLinkFlow_inPlace _ flow)).trans (flushAll_inPlace ..)

lemma onDisposition_inPlace {d : Disposition} (ok : s.onDisposition d = .ok result) : InPlace s result.1 := by
  obtain ⟨_,_⟩ := result
  obtain ⟨session,absent,links,-⟩ := onDisposition_ok ok
  refine ⟨by rw [session],?_⟩
  intro handle
  cases present : s.links[handle]? with
  | none => rw [absent handle present]
  | some link =>
    obtain ⟨after,_,disposed,found⟩ := links handle link present
    rw [found]
    have same : after.card = link.card := by
      obtain ⟨missed,hit,-⟩ := Link.dispose_ok disposed
      cases addressed : link.addressed d with
      | false => rw [missed addressed]
      | true =>
        rw [(hit addressed).1.frame]
        cases link <;> rfl
    rw [map_some,map_some,same]

/-- A property of a session that has its links registered, and that neither a change of a link in its place nor the loss
of a link can break. -/
structure Stable (P : Session → Prop) : Prop where
  registered : ∀ {s}, P s → s.Registered
  inPlace : ∀ {s next}, P s → InPlace s next → P next
  forget : ∀ {s : Session} {handle : UInt32} {link : Link}, P s → s.links[handle]? = some link →
    P ((s.unbind link.remoteHandle).forgetLink handle).1

lemma Registered.stable : Stable Registered :=
  ⟨id,fun registered kept => registered.inPlace kept,fun registered present => registered.forget present⟩

namespace Stable

variable {P : Session → Prop} (stable : Stable P) (holds : P s)

include stable holds

lemma onPeerDetach (detach : Detach) : P (s.onPeerDetach detach).1 := by
  unfold Session.onPeerDetach
  split
  · exact holds
  rename_i found
  obtain ⟨_,present,bound⟩ := (stable.registered holds).bound _ _ found
  have left := stable.forget holds present
  rw [bound] at left
  exact left

lemma detachLink (closed : Bool) (error : Option AmqpError) : P (s.detachLink handle closed error reply).1 := by
  unfold Session.detachLink
  split
  next present => exact stable.forget holds present
  · exact holds

lemma onTransfer (ok : s.onTransfer transfer payload = .ok result) : P result.1 := by
  rcases onTransfer_inPlace ok with ⟨-,same⟩ | ⟨handle,counted,sizeExceeded,found,kept,same⟩
  · rw [same]
    exact holds
  have counts := stable.inPlace holds kept
  obtain ⟨_,present,-⟩ := (stable.registered holds).bound _ _ found
  obtain ⟨_,there,-⟩ := kept.forward present
  rw [same]
  unfold refuseOversized
  split
  · unfold detachWithError
    simp only [there,bind_some]
    exact stable.forget counts there
  · exact counts

variable {maxFrameSize : Nat} {order : IterOrder}

lemma handleLinkFrame {performative : Performative}
    (attaches : ∀ attach, performative = .attach attach → P (s.onPeerAttach attach).1)
    (ok : s.handleLinkFrame order performative payload maxFrameSize = .ok result) : P result.1 := by
  cases performative with
  | attach attach =>
    cases ok
    exact attaches attach rfl
  | transfer => exact stable.onTransfer holds ok
  | disposition => exact stable.inPlace holds (onDisposition_inPlace ok)
  | flow =>
    cases ok
    exact stable.inPlace holds (onFlow_inPlace ..)
  | detach detach =>
    cases ok
    exact stable.onPeerDetach holds detach
  | open_ | begin_ | end_ | close =>
    cases ok
    exact holds

lemma inbound {frame : Frame} (attaches : ∀ attach, frame.performative = .attach attach →
      s.inboundAttach attach policy = .ok result → P result.1)
    (ok : s.inbound policy order maxFrameSize frame = .ok result) : P result.1 := by
  unfold Session.inbound at ok
  split at ok
  next attach named => exact attaches attach named ok
  next other => exact stable.handleLinkFrame holds (fun attach same => absurd same (other attach)) ok

lemma act {op : LocalOp} (attaches : ∀ attach creditMode events reply, op = .attach attach creditMode events reply →
      P (s.attachLink attach creditMode events reply).1)
    (ok : s.act maxFrameSize op = .ok result) : P result.1 := by
  cases op with
  | attach =>
    cases ok
    exact attaches _ _ _ _ rfl
  | send =>
    cases ok
    exact stable.inPlace holds (sendTransfer_inPlace ..)
  | settle => exact stable.inPlace holds (sendDisposition_inPlace ok)
  | grant =>
    cases ok
    exact stable.inPlace holds (grantCredit_inPlace ..)
  | flow flow =>
    cases ok
    exact stable.inPlace holds (sendFlow_inPlace s flow)
  | detach =>
    cases ok
    exact stable.detachLink holds ..

end Stable

variable {maxFrameSize : Nat} {input : SessionInput}

lemma step_eq_some_iff :
    s.step maxFrameSize input = some next ↔ ∃ effects, s.react maxFrameSize input = .ok (next,effects) := by
  unfold step
  constructor
  · intro ok
    split at ok
    next effects reacted =>
      cases ok
      exact ⟨effects,reacted⟩
    · cases ok
  · rintro ⟨effects,reacted⟩
    rw [reacted]

end Session

end Ramqp
