import Ramqp.Registry
import Ramqp.Semantics.Client

/-! Who a driver command reaches. Handles and channels are recycled numbers, so a command
stays with the link or session it was issued for as long as no freed number is given out
again while an object or a queued command of its former owner is left. -/
namespace Ramqp

open Std List Function Entries Ramqp.Frame LinkCard

variable {maxFrameSize : Nat} {attach : Attach} {w : SessionWindows} {performative : Performative} {order : IterOrder}

variable {channel : UInt16} {handle : UInt32}

namespace Session

variable {s next : Session} {link : Link}

variable {middle : Session}

structure Indexed (s : Session) : Prop where
  named : ∀ (handle : UInt32) (link : Link), s.links[handle]? = some link →
    s.linkHandles link.key = some handle
  routed : ∀ (handle : UInt32) (link : Link) (remote : UInt32), s.links[handle]? = some link →
    link.remoteHandle = some remote → s.remoteHandles remote = some handle

structure Orderly (s : Session) : Prop where
  registered : s.Registered
  indexed : s.Indexed

structure Keeps (s next : Session) : Prop where
  channel : next.localChannel = s.localChannel
  events : next.events = s.events
  opening : next.pendingBegin = s.pendingBegin ∨ next.pendingBegin = none
  links : ∀ (handle : UInt32) (after : Link), next.links[handle]? = some after →
    ∃ link, s.links[handle]? = some link ∧ after.events = link.events ∧
      (after.pendingAttach = link.pendingAttach ∨ after.pendingAttach = none)

lemma Keeps.refl : Keeps s s := ⟨rfl,rfl,.inl rfl,fun _ link present => ⟨link,present,rfl,.inl rfl⟩⟩

lemma Keeps.trans (first : Keeps s middle) (second : Keeps middle next) : Keeps s next := by
  refine ⟨second.channel.trans first.channel,second.events.trans first.events,?_,?_⟩
  · rcases second.opening with same | gone
    · rw [same]
      exact first.opening
    · exact .inr gone
  intro handle after present
  obtain ⟨between,there,events,attaching⟩ := second.links handle after present
  obtain ⟨link,found,sameEvents,sameAttaching⟩ := first.links handle between there
  refine ⟨link,found,events.trans sameEvents,?_⟩
  rcases attaching with same | gone
  · rw [same]
    exact sameAttaching
  · exact .inr gone

lemma InPlace.keeps (kept : InPlace s next) : Keeps s next := by
  refine ⟨by rw [kept.frame],by rw [kept.frame],.inl (by rw [kept.frame]),?_⟩
  intro handle after present
  obtain ⟨link,there,card⟩ := kept.backward present
  exact ⟨link,there,congrArg LinkCard.events card,.inl (congrArg LinkCard.pendingAttach card)⟩

lemma Indexed.inPlace (indexed : s.Indexed) (kept : InPlace s next) : next.Indexed := by
  constructor
  · intro handle after present
    obtain ⟨link,there,card⟩ := kept.backward present
    have key : after.key = link.key := congrArg key card
    rw [kept.linkHandles,key]
    exact indexed.named handle link there
  intro handle after remote present bound
  obtain ⟨link,there,card⟩ := kept.backward present
  have same : after.remoteHandle = link.remoteHandle := congrArg remoteHandle card
  rw [kept.remoteHandles]
  exact indexed.routed handle link remote there (same.symm.trans bound)

lemma Orderly.inPlace (orderly : s.Orderly) (kept : InPlace s next) : next.Orderly :=
  ⟨orderly.registered.inPlace kept,orderly.indexed.inPlace kept⟩

lemma forgetLink_keeps : Keeps s ((s.unbind remote).forgetLink handle).1 := by
  obtain ⟨channel,events,opening⟩ : ((s.unbind remote).forgetLink handle).1.localChannel = s.localChannel ∧
      ((s.unbind remote).forgetLink handle).1.events = s.events ∧
      ((s.unbind remote).forgetLink handle).1.pendingBegin = s.pendingBegin := by
    unfold forgetLink
    cases remote <;> split <;> exact ⟨rfl,rfl,rfl⟩
  refine ⟨channel,events,.inl opening,?_⟩
  intro other after present
  rw [forgetLink_links,unbind_links] at present
  exact ⟨after,(of_erase present).2,rfl,.inl rfl⟩

variable {handle : UInt32}

lemma forgetLink_linkHandles (present : s.links[handle]? = some link) :
    ((s.unbind remote).forgetLink handle).1.linkHandles = update s.linkHandles link.key none := by
  unfold forgetLink
  rw [unbind_links,present]
  cases remote <;> rfl

structure OnlyAt (handle : UInt32) (s next : Session) : Prop where
  links : ∀ other : UInt32, other ≠ handle → next.links[other]? = s.links[other]?
  names : ∀ key other, other ≠ handle → s.linkHandles key = some other → next.linkHandles key = some other
  routes : ∀ remote other, other ≠ handle → s.remoteHandles remote = some other →
    next.remoteHandles remote = some other

lemma OnlyAt.refl : OnlyAt handle s s :=
  ⟨fun _ _ => rfl,fun _ _ _ found => found,fun _ _ _ found => found⟩

lemma OnlyAt.trans (first : OnlyAt handle s middle) (second : OnlyAt handle middle next) : OnlyAt handle s next :=
  ⟨fun other distinct => (second.links other distinct).trans (first.links other distinct),
    fun key other distinct found => second.names key other distinct (first.names key other distinct found),
    fun remote other distinct found =>
      second.routes remote other distinct (first.routes remote other distinct found)⟩

lemma OnlyAt.replace : OnlyAt handle s {s with windows := w,links := s.links.insert handle link} := by
  refine ⟨?_,fun _ _ _ found => found,fun _ _ _ found => found⟩
  intro other distinct
  simp [ExtTreeMap.getElem?_insert,distinct.symm]

lemma OnlyAt.forget (indexed : s.Indexed) (present : s.links[handle]? = some link) :
    OnlyAt handle s ((s.unbind link.remoteHandle).forgetLink handle).1 := by
  refine ⟨?_,?_,?_⟩
  · intro other distinct
    simp [ExtTreeMap.getElem?_erase,distinct.symm]
  · intro key other distinct found
    rw [forgetLink_linkHandles present,update_of_ne]
    · exact found
    rintro rfl
    rw [indexed.named handle link present,Option.some.injEq] at found
    exact distinct found.symm
  intro remote other distinct found
  rw [forgetLink_remoteHandles]
  cases bound : link.remoteHandle with
  | none => exact found
  | some peer =>
    have own := indexed.routed handle link peer present bound
    have apart : remote ≠ peer := by
      rintro rfl
      rw [own,Option.some.injEq] at found
      exact distinct found.symm
    simp only [unbind,update_of_ne apart]
    exact found

lemma Indexed.forget (indexed : s.Indexed) (present : s.links[handle]? = some link) :
    ((s.unbind link.remoteHandle).forgetLink handle).1.Indexed := by
  have only := OnlyAt.forget indexed present
  have split : ∀ (other : UInt32) (between : Link),
      ((s.unbind link.remoteHandle).forgetLink handle).1.links[other]? = some between →
      other ≠ handle ∧ s.links[other]? = some between := by
    intro other between there
    rw [forgetLink_links,unbind_links] at there
    exact (of_erase there).imp_left Ne.symm
  constructor
  · intro other between there
    obtain ⟨distinct,before⟩ := split other between there
    exact only.names _ _ distinct (indexed.named other between before)
  intro other between remote there bound
  obtain ⟨distinct,before⟩ := split other between there
  exact only.routes _ _ distinct (indexed.routed other between remote before bound)

lemma Orderly.forget (orderly : s.Orderly) (present : s.links[handle]? = some link) :
    ((s.unbind link.remoteHandle).forgetLink handle).1.Orderly :=
  ⟨orderly.registered.forget present,orderly.indexed.forget present⟩

lemma Indexed.add (indexed : s.Indexed) (unknown : s.linkHandles link.key = none)
    (names : next.linkHandles = update s.linkHandles link.key (some handle))
    (links : next.links = s.links.insert handle link) (routed : ∀ remote, link.remoteHandle = some remote →
      s.remoteHandles remote = none ∧ next.remoteHandles remote = some handle)
    (others : ∀ remote, link.remoteHandle ≠ some remote → next.remoteHandles remote = s.remoteHandles remote) :
    next.Indexed := by
  constructor
  · intro other after there
    rw [links] at there
    rcases of_insert there with ⟨rfl,rfl⟩ | ⟨here,there⟩
    · rw [names]
      exact update_self ..
    have named := indexed.named other after there
    have apart : after.key ≠ link.key := by
      intro equal
      rw [equal,unknown] at named
      cases named
    rw [names]
    exact (update_of_ne apart ..).trans named
  intro other after remote there bound
  rw [links] at there
  rcases of_insert there with ⟨rfl,rfl⟩ | ⟨here,there⟩
  · exact (routed remote bound).2
  have before := indexed.routed other after remote there bound
  have apart : link.remoteHandle ≠ some remote := by
    intro same
    rw [(routed remote same).1] at before
    cases before
  exact (others remote apart).trans before

lemma onPeerAttach_cases : s.onPeerAttach attach = (s,[]) ∨ ∃ handle link after flow, s.links[handle]? = some link ∧
      after.card = {link.card with remoteHandle := some attach.handle,pendingAttach := none} ∧
      s.onPeerAttach attach =
        ({s with remoteHandles := update s.remoteHandles attach.handle (some handle),
                 links := s.links.insert handle after},
          replyAttached handle attach link.pendingAttach ++ queueFlow s.localChannel flow) := by
  unfold onPeerAttach
  split
  · exact .inl rfl
  rename_i handle found
  split
  · exact .inl rfl
  rename_i link present
  split
  · exact .inl rfl
  · exact .inr ⟨handle,link,_,_,present,bindLink_card link attach s.windows,rfl⟩

lemma onPeerAttach_orderly (orderly : s.Orderly) (free : s.remoteHandles attach.handle = none) :
    (s.onPeerAttach attach).1.Orderly := by
  refine ⟨onPeerAttach_registered orderly.registered attach,?_⟩
  have indexed := orderly.indexed
  rcases onPeerAttach_cases with same | ⟨handle,link,bound,flow,present,card,same⟩
  · rw [same]
    exact indexed
  rw [same]
  constructor
  · intro other after there
    rcases of_insert there with ⟨rfl,rfl⟩ | ⟨here,there⟩
    · exact (congrArg s.linkHandles (congrArg key card)).trans (indexed.named handle link present)
    · exact indexed.named other after there
  intro other after remote there linked
  rcases of_insert there with ⟨rfl,rfl⟩ | ⟨here,there⟩
  · cases (congrArg remoteHandle card).symm.trans linked
    exact update_self ..
  have before := indexed.routed other after remote there linked
  have apart : remote ≠ attach.handle := by
    rintro rfl
    rw [free] at before
    cases before
  exact (update_of_ne apart ..).trans before

lemma onPeerAttach_keeps : Keeps s (s.onPeerAttach attach).1 := by
  rcases onPeerAttach_cases with same | ⟨handle,link,bound,flow,present,card,same⟩
  · rw [same]
    exact .refl
  rw [same]
  refine ⟨rfl,rfl,.inl rfl,?_⟩
  intro other after there
  rcases of_insert there with ⟨rfl,rfl⟩ | ⟨here,there⟩
  · exact ⟨link,present,congrArg LinkCard.events card,.inr (congrArg LinkCard.pendingAttach card)⟩
  · exact ⟨after,there,rfl,.inl rfl⟩

lemma onPeerBegin_keeps :
    Keeps s (s.onPeerBegin channel begin_).1 ∧ (s.Orderly → (s.onPeerBegin channel begin_).1.Orderly) := by
  unfold onPeerBegin
  split
  · exact ⟨⟨rfl,rfl,.inr rfl,fun _ link there => ⟨link,there,rfl,.inl rfl⟩⟩,
      fun orderly => ⟨⟨orderly.registered.covers,orderly.registered.bound⟩,
        ⟨orderly.indexed.named,orderly.indexed.routed⟩⟩⟩
  · exact ⟨.refl,id⟩

lemma onPeerBegin_effects : (s.onPeerBegin channel begin_).2 = [] ∨ ∃ reply, s.pendingBegin = some reply ∧
      (s.onPeerBegin channel begin_).2 = [.opened reply (.ok ⟨s.localChannel,s.sessionId⟩)] := by
  unfold onPeerBegin
  split
  · cases pending : s.pendingBegin with
    | none => exact .inl rfl
    | some reply => exact .inr ⟨reply,rfl,rfl⟩
  · exact .inl rfl

variable {result : Session × List Effect}

def attachesAfresh (s : Session) : Performative → Bool
  | .attach attach => (s.remoteHandles attach.handle).isNone
  | _ => true

lemma Orderly.stable : Stable (fun next => Keeps s next ∧ next.Orderly) where
  registered both := both.2.registered
  inPlace both kept := ⟨both.1.trans kept.keeps,both.2.inPlace kept⟩
  forget both present := ⟨both.1.trans forgetLink_keeps,both.2.forget present⟩

lemma handleLinkFrame_orderly (orderly : s.Orderly)
    {payload : Option Bytes} (fresh : s.attachesAfresh performative = true)
    (ok : s.handleLinkFrame order performative payload maxFrameSize = .ok result) :
    Keeps s result.1 ∧ result.1.Orderly := by
  refine Orderly.stable.handleLinkFrame ⟨.refl,orderly⟩ ?_ ok
  rintro attach rfl
  exact ⟨onPeerAttach_keeps,onPeerAttach_orderly orderly (Option.isNone_iff_eq_none.mp fresh)⟩

end Session

def Frame.linkHandle (frame : Frame) : Option UInt32 :=
  match frame.performative with
  | .attach attach => some attach.handle
  | .flow flow => flow.handle
  | .transfer transfer => some transfer.handle
  | .detach detach => some detach.handle
  | _ => none

/-- What a list of effects may show: the handles its frames name, the dispositions among them,
the failures of sends, and whether it hands the user a session or a link. -/
structure Scope where
  named : UInt32 → Prop
  disposed : Disposition → Prop
  fails : Failure → Prop
  hands : Prop

def Scope.quiet : Scope := ⟨fun _ => True,fun _ => True,fun _ => True,False⟩

structure Scope.Within (inner outer : Scope) : Prop where
  named : ∀ handle, inner.named handle → outer.named handle
  disposed : ∀ disposition, inner.disposed disposition → outer.disposed disposition
  fails : ∀ failure, inner.fails failure → outer.fails failure
  hands : inner.hands → outer.hands

structure Frame.Stays (channel : UInt16) (scope : Scope) (frame : Frame) : Prop where
  channel : frame.channel = channel
  named : ∀ handle, frame.linkHandle = some handle → scope.named handle
  disposed : ∀ disposition, frame.performative = .disposition disposition → scope.disposed disposition

def Effect.Tame (channel : UInt16) (scope : Scope) : Effect → Prop
  | .queue frame => frame.Stays channel scope
  | .opened _ (.ok _) => scope.hands
  | .attached _ (.ok _) => scope.hands
  | .sent _ (.error failure) => scope.fails failure
  | _ => True

structure Tame (channel : UInt16) (scope : Scope) (effects : List Effect) : Prop where
  all : ∀ effect ∈ effects, effect.Tame channel scope

namespace Tame

variable {channel : UInt16} {scope : Scope}

variable {effect : Effect} {effects : List Effect}

lemma nil : Tame channel scope [] := ⟨forall_mem_nil _⟩

lemma cons {rest : List Effect} (head : effect.Tame channel scope) (tail : Tame channel scope rest) :
    Tame channel scope (effect::rest) :=
  ⟨forall_mem_cons.mpr ⟨head,tail.all⟩⟩

lemma one (head : effect.Tame channel scope) : Tame channel scope [effect] := cons head nil

lemma append {first second : List Effect} (left : Tame channel scope first) (right : Tame channel scope second) :
    Tame channel scope (first ++ second) :=
  ⟨forall_mem_append.mpr ⟨left.all,right.all⟩⟩

lemma frames {frames : List Frame} (stay : ∀ frame ∈ frames, frame.Stays channel scope) :
    Tame channel scope (frames.map .queue) := by
  refine ⟨fun effect member => ?_⟩
  obtain ⟨frame,listed,rfl⟩ := mem_map.mp member
  exact stay frame listed

lemma dropped (replies : List Reply) : Tame channel scope (replies.map .dropped) := by
  refine ⟨fun effect member => ?_⟩
  obtain ⟨_,-,rfl⟩ := mem_map.mp member
  trivial

lemma internal (inside : ∀ effect ∈ effects, effect.internal = true) : Tame channel scope effects := by
  refine ⟨fun effect member => ?_⟩
  have here := inside effect member
  cases effect with
  | event => trivial
  | sent reply result =>
    cases result with
    | ok => trivial
    | error => cases here
  | _ => cases here

lemma queued_stays (tame : Tame channel scope effects) : ∀ frame ∈ queued effects, frame.Stays channel scope := by
  intro frame member
  obtain ⟨effect,listed,found⟩ := mem_filterMap.mp member
  have here := tame.all effect listed
  cases effect with
  | queue =>
    cases found
    exact here
  | _ => cases found

lemma widen {outer : Scope} (tame : Tame channel scope effects) (within : scope.Within outer) :
    Tame channel outer effects := by
  refine ⟨fun effect member => ?_⟩
  have here := tame.all effect member
  cases effect with
  | queue =>
    exact ⟨here.channel,fun handle found => within.named handle (here.named handle found),
      fun disposition same => within.disposed disposition (here.disposed disposition same)⟩
  | opened reply result | attached reply result =>
    cases result with
    | ok => exact within.hands here
    | error => trivial
  | sent reply result =>
    cases result with
    | ok => trivial
    | error failure => exact within.fails failure here
  | _ => trivial

lemma queueFlow (flow : Option Flow) (own : ∀ handle, flow.bind Flow.handle = some handle → scope.named handle) :
    Tame channel scope (Session.queueFlow channel flow) := by
  cases flow with
  | none => exact .nil
  | some => exact .one ⟨rfl,own,fun _ same => (nomatch same)⟩

end Tame

lemma Frame.stays_naming {scope : Scope} {frame : Frame}
    (here : frame.channel = channel) (names : frame.linkHandle = some handle) (own : scope.named handle) :
    frame.Stays channel scope := by
  refine ⟨here,?_,?_⟩
  · intro other found
    rw [names,Option.some.injEq] at found
    exact found ▸ own
  intro disposition same
  simp only [linkHandle,same] at names
  cases names

variable {message : PendingSend}

section Sending

variable {channel : UInt16} {scope : Scope} {handle : UInt32}

lemma sendChunks_stays {first rest : Transfer} (own : scope.named handle) (head : first.handle = handle)
    (tail : rest.handle = handle) (body : Bytes) (maxPayload fuel offset : Nat) (firstFrame : Bool)
    (w : SessionWindows) : ∀ frame ∈ (sendChunks channel first rest body maxPayload fuel offset firstFrame w).2,
      frame.Stays channel scope := by
  induction fuel generalizing offset firstFrame w with
  | zero => exact forall_mem_nil _
  | succ fuel ih =>
    unfold sendChunks
    split
    · refine forall_mem_cons.mpr ⟨?_,ih _ _ _⟩
      refine stays_naming rfl ?_ own
      cases firstFrame with
      | true => exact congrArg some head
      | false => exact congrArg some tail
    · exact forall_mem_nil _

lemma sendMessageFrames_stays (own : scope.named handle) (tag : Bytes) :
    ∀ frame ∈ (sendMessageFrames channel handle deliveryId tag message maxPayload w).2, frame.Stays channel scope := by
  unfold sendMessageFrames
  simp only
  split
  · exact forall_mem_singleton.mpr (stays_naming rfl rfl own)
  · refine sendChunks_stays own ?_ ?_ _ _ _ _ _ _ <;> rfl

lemma SenderLink.recordSend_tame (s : SenderLink) : Tame channel scope (s.recordSend deliveryId message).2 := by
  unfold recordSend
  simp only
  split
  · split
    · exact .one trivial
    · exact .nil
  · exact .nil

lemma flushOutbox_tame (own : scope.named handle) (outbox : List PendingSend) :
    Tame channel scope (flushOutbox channel handle maxPayload outbox sender w).2.2 := by
  induction outbox generalizing sender w with
  | nil => exact .nil
  | cons front rest ih =>
    unfold flushOutbox
    split
    · split
      · exact .nil
      · split
        · exact .nil
        · exact ((Tame.frames (sendMessageFrames_stays own _)).append
            (SenderLink.recordSend_tame ..)).append ih
    · exact .nil

lemma completeDrain_tame (own : scope.named handle) :
    Tame channel scope (completeDrain channel handle sender w).2 := by
  unfold completeDrain
  split
  · exact .one (stays_naming rfl rfl own)
  · exact .nil

end Sending

namespace Session

variable {scope : Scope} {handle : UInt32}

variable {first : UInt32} {last : Option UInt32} {state : DeliveryState} {settled : Bool} {transfer : Transfer}

variable {payload : Option Bytes}

variable {s : Session} {result : Session × List Effect}

lemma flushSender_tame (s : Session) (own : scope.named handle) (maxFrameSize : Nat) :
    Tame s.localChannel scope (s.flushSender handle maxFrameSize).2 := by
  unfold flushSender
  split
  · exact (flushOutbox_tame own ..).append (completeDrain_tame own)
  · exact .nil

lemma sendTransfer_tame (own : scope.named handle)
    (fails : ∀ failure, failure.kind = .detached → scope.fails failure) :
    Tame s.localChannel scope (s.sendTransfer handle message maxFrameSize).2 := by
  unfold sendTransfer
  split
  next sender present =>
    exact flushSender_tame
      {s with links := s.links.insert handle (.sender {sender with outbox := sender.outbox ++ [message]})}
      own maxFrameSize
  simp only
  split
  · exact .one (fails _ rfl)
  · exact .nil

lemma sendDisposition_tame (disposed : ∀ d : Disposition, d.first = first → d.last = last → scope.disposed d)
    (ok : s.sendDisposition handle first last state settled = .ok result) : Tame s.localChannel scope result.2 := by
  have stays : ∀ wire, Effect.Tame s.localChannel scope
      (.queue ⟨s.localChannel,.disposition ⟨.receiver,first,last,wire,some state⟩,none⟩) := by
    intro wire
    refine ⟨rfl,fun _ found => (nomatch found),?_⟩
    intro d same
    cases same
    exact disposed _ rfl rfl
  unfold sendDisposition at ok
  simp only at ok
  split at ok
  · split at ok
    · cases ok
      exact .one (stays _)
    · split at ok
      · cases ok
      · cases ok
        exact .one (stays _)
  · cases ok
    exact .one (stays _)

variable (s) {credit : UInt32}

lemma grantCredit_tame (own : scope.named handle) : Tame s.localChannel scope (s.grantCredit handle credit).2 := by
  unfold grantCredit
  split
  · exact .one (stays_naming rfl rfl own)
  · exact .nil

lemma sendFlow_tame (own : ∀ handle, flow.handle = some handle → scope.named handle) :
    Tame s.localChannel scope (s.sendFlow flow).2 :=
  .one ⟨rfl,own,fun _ same => (nomatch same)⟩

variable {channel : UInt16}

lemma forgetLink_tame : Tame channel scope (s.forgetLink handle).2 := by
  unfold forgetLink
  split
  · exact .dropped _
  · exact .nil

lemma detachLink_tame (own : scope.named handle)
    : Tame s.localChannel scope (s.detachLink handle closed error reply).2 := by
  unfold detachLink
  split
  · refine .cons (stays_naming rfl rfl own) ?_
    exact (forgetLink_tame ..).append (.one trivial)
  · exact .one trivial

lemma onPeerDetach_tame (own : ∀ handle, scope.named handle) (detach : Detach) :
    Tame s.localChannel scope (s.onPeerDetach detach).2 := by
  unfold onPeerDetach
  split
  · exact .nil
  refine .append ?_ (.cons (stays_naming rfl rfl (own _)) (forgetLink_tame ..))
  split
  · exact .one trivial
  · exact .nil

lemma refuseOversized_tame (own : scope.named handle) (sizeExceeded : Bool) :
    Tame s.localChannel scope (s.refuseOversized handle sizeExceeded).2 := by
  unfold refuseOversized
  split
  · refine .cons (stays_naming rfl rfl own) (.append ?_ (forgetLink_tame ..))
    split
    · exact .one trivial
    · exact .nil
  · exact .nil

variable {s}

lemma assemble_tame {next : Session} {emit : List Effect} {sizeExceeded : Bool}
    (ok : s.assemble handle transfer payload = .ok (next,emit,sizeExceeded)) : Tame channel scope emit := by
  unfold assemble at ok
  split at ok
  · split at ok
    · cases ok
    · cases ok
      refine ⟨fun effect member => ?_⟩
      obtain ⟨_,-,rfl⟩ := mem_map.mp member
      trivial
  · cases ok
    exact .nil

lemma replenish_tame (s : Session) (needSessionFlow : Bool) :
    Tame s.localChannel scope (s.replenish needSessionFlow).2 := by
  unfold replenish
  split
  · exact .one ⟨rfl,fun _ found => (nomatch found),fun _ same => (nomatch same)⟩
  · exact .nil

lemma onTransfer_tame (own : ∀ handle, scope.named handle) (ok : s.onTransfer transfer payload = .ok result) :
    Tame s.localChannel scope result.2 := by
  unfold onTransfer at ok
  split at ok
  · cases ok
    exact .nil
  rename_i handle found
  simp only at ok
  split at ok
  · cases ok
  rename_i counted emit sizeExceeded assembled
  cases ok
  have channel : counted.localChannel = s.localChannel := (assemble_inPlace assembled).keeps.channel
  have reopened : Tame _ scope _ := counted.replenish_tame s.windows.recordIncoming.2
  have refused := (counted.replenish s.windows.recordIncoming.2).1.refuseOversized_tame
    (own handle) sizeExceeded
  rw [(replenish_inPlace ..).keeps.channel] at refused
  rw [channel] at reopened refused
  exact (reopened.append (assemble_tame assembled)).append refused

lemma flushAll_tame (own : ∀ handle, scope.named handle) (maxFrameSize : Nat) (handles : List UInt32)
    (s : Session) : Tame s.localChannel scope (flushAll maxFrameSize handles s).2 := by
  induction handles generalizing s with
  | nil => exact .nil
  | cons handle rest ih =>
    have later := ih (s.flushSender handle maxFrameSize).1
    rw [(flushSender_inPlace ..).keeps.channel] at later
    exact (s.flushSender_tame (own handle) maxFrameSize).append later

lemma applyLinkFlow_tame (s : Session) : Tame channel scope (s.applyLinkFlow flow).2 := by
  unfold applyLinkFlow
  split
  · exact .nil
  split
  · exact .one trivial
  · exact .nil

lemma onFlow_tame (s : Session) (own : ∀ handle, scope.named handle) (order : IterOrder) (flow : Flow)
    (maxFrameSize : Nat) : Tame s.localChannel scope (s.onFlow order flow maxFrameSize).2 := by
  let learnt : Session := {s with windows := s.windows.onPeerFlow flow}
  have flushed := flushAll_tame own maxFrameSize (order.arrange (learnt.applyLinkFlow flow).1.stalled)
    (learnt.applyLinkFlow flow).1
  rw [(learnt.applyLinkFlow_inPlace flow).keeps.channel] at flushed
  refine ((learnt.applyLinkFlow_tame).append flushed).append ?_
  split
  · exact .one ⟨(onFlow_inPlace order maxFrameSize).keeps.channel,fun handle _ => own handle,
      fun _ same => (nomatch same)⟩
  · exact .nil

lemma onPeerAttach_tame (own : ∀ handle, scope.named handle) (hands : scope.hands) :
    Tame s.localChannel scope (s.onPeerAttach attach).2 := by
  rcases onPeerAttach_cases with same | ⟨handle,link,after,flow,-,-,same⟩
  · rw [same]
    exact .nil
  rw [same]
  refine .append ?_ ?_
  · cases link.pendingAttach with
    | none => exact .nil
    | some => exact .one hands
  exact .queueFlow flow fun handle _ => own handle

lemma handleLinkFrame_tame (own : ∀ handle, scope.named handle)
    (hands : ∀ attach, performative = .attach attach → scope.hands)
    (ok : s.handleLinkFrame order performative payload maxFrameSize = .ok result) :
    Tame s.localChannel scope result.2 := by
  cases performative with
  | attach attach =>
    cases ok
    exact onPeerAttach_tame own (hands attach rfl)
  | transfer => exact onTransfer_tame own ok
  | disposition => exact .internal (onDisposition_internal ok)
  | flow flow =>
    cases ok
    exact s.onFlow_tame own order flow maxFrameSize
  | detach detach =>
    cases ok
    exact s.onPeerDetach_tame own detach
  | open_ | begin_ | end_ | close =>
    cases ok
    exact .nil

lemma flushSender_only (s : Session) (handle : UInt32) (maxFrameSize : Nat) :
    OnlyAt handle s (s.flushSender handle maxFrameSize).1 := by
  unfold flushSender
  split
  · exact .replace
  · exact .refl

lemma sendTransfer_only : OnlyAt handle s (s.sendTransfer handle message maxFrameSize).1 := by
  unfold sendTransfer
  split
  · exact OnlyAt.replace.trans (flushSender_only ..)
  · exact .refl

lemma sendDisposition_only (ok : s.sendDisposition handle first last state settled = .ok result) :
    OnlyAt handle s result.1 := by
  unfold sendDisposition at ok
  simp only at ok
  split at ok
  · split at ok
    · cases ok
      exact .refl
    · split at ok
      · cases ok
      · cases ok
        exact .replace
  · cases ok
    exact .refl

lemma grantCredit_only : OnlyAt handle s (s.grantCredit handle credit).1 := by
  unfold grantCredit
  split
  · exact .replace
  · exact .refl

lemma sendFlow_only (named : flow.handle = some handle) : OnlyAt handle s (s.sendFlow flow).1 := by
  unfold sendFlow
  rw [named]
  simp only
  split
  next same _ =>
    cases same
    split
    · exact .replace
    · exact .refl
  · exact .refl

lemma detachLink_only (indexed : s.Indexed) (handle : UInt32) (closed : Bool) (error : Option AmqpError)
    (reply : Reply) : OnlyAt handle s (s.detachLink handle closed error reply).1 := by
  unfold detachLink
  split
  next present =>
    exact .forget indexed present
  · exact .refl

lemma attachLink_cases (s : Session) (attach : Attach) (creditMode : CreditMode) (events : ChannelRef)
    (reply : Reply) : (s.handles.allocate = none ∧ (s.attachLink attach creditMode events reply).1 = s) ∨
    ∃ handle handles link, s.handles.allocate = some (handle,handles) ∧
      link.card = ⟨(attach.name,attach.role),none,events,some reply⟩ ∧
      (s.attachLink attach creditMode events reply).1 =
        {s with handles,linkHandles := update s.linkHandles (attach.name,attach.role) (some handle),
                links := s.links.insert handle link} := by
  unfold attachLink
  cases allocated : s.handles.allocate with
  | none => exact .inl ⟨rfl,rfl⟩
  | some entry =>
    obtain ⟨handle,handles⟩ := entry
    refine .inr ⟨handle,handles,_,rfl,?_,rfl⟩
    cases role : attach.role <;> rfl

lemma attachLink_tame (s : Session) (own : ∀ handle, scope.named handle) (attach : Attach)
    (creditMode : CreditMode) (events : ChannelRef) (reply : Reply) :
    Tame s.localChannel scope (s.attachLink attach creditMode events reply).2 := by
  unfold attachLink
  split
  · exact .one trivial
  · exact .one (stays_naming rfl rfl (own _))

lemma attachLink_orderly (orderly : s.Orderly) {attach : Attach} (creditMode : CreditMode) (events : ChannelRef)
    (reply : Reply) (unknown : s.linkHandles (attach.name,attach.role) = none) :
    (s.attachLink attach creditMode events reply).1.Orderly := by
  refine ⟨attachLink_registered orderly.registered,?_⟩
  rcases s.attachLink_cases attach creditMode events reply with
    ⟨-,same⟩ | ⟨handle,handles,link,-,card,same⟩
  · rw [same]
    exact orderly.indexed
  rw [same]
  have key : link.key = (attach.name,attach.role) := congrArg key card
  exact orderly.indexed.add (key ▸ unknown) (by rw [key]) rfl
    (fun remote bound => nomatch (congrArg remoteHandle card).symm.trans bound) (fun _ _ => rfl)

end Session

end Ramqp
