import Ramqp.Ownership

/-! The tables of a session: the links by handle, the handles by name and role, the handles by the peer's handle, and
the handles that are in use. -/
namespace Ramqp

open Std Option Function Transition

/-- What changes the tables: the owner's operations and the link frames, a call that accepts or refuses an attach, and
the peer's end. -/
inductive TableInput where
  | input (input : SessionInput)
  | accept (attach : Attach) (creditMode : CreditMode) (initialCredit : UInt32) (maxMessageSize : Option UInt64)
      (events : ChannelRef)
  | refuse (attach : Attach) (error : AmqpError)
  | peerEnd (error : Option AmqpError)

namespace Session

variable {attach : Attach} {result : Session × List Effect} {maxFrameSize : Nat}

variable {policy : AttachPolicy}

def tableStep (maxFrameSize : Nat) (s : Session) : TableInput → Option Session
  | .input input => s.step maxFrameSize input
  | .accept attach creditMode initialCredit maxMessageSize events =>
    match s.acceptPeerAttach attach creditMode initialCredit maxMessageSize events with
    | .error _ => some s
    | .ok (_,next,_) => some next
  | .refuse attach error => some (s.refusePeerAttach attach error).1
  | .peerEnd error => some (s.onPeerEnd error).1

structure TablesAgree (s : Session) : Prop where
  in_use : ∀ (handle : UInt32) (link : Link), s.links[handle]? = some link →
    handle.toNat < s.handles.next ∧ handle ∉ s.handles.free
  named : ∀ (handle : UInt32) (key : String × Role), s.linkHandles key = some handle ↔
    ∃ link, s.links[handle]? = some link ∧ link.key = key
  routed : ∀ handle remote : UInt32, s.remoteHandles remote = some handle ↔
    ∃ link, s.links[handle]? = some link ∧ link.remoteHandle = some remote
  apart : ∀ (first second : UInt32) (left right : Link), first ≠ second → s.links[first]? = some left →
    s.links[second]? = some right → left.key ≠ right.key ∧
      ∀ remote, left.remoteHandle = some remote → right.remoteHandle ≠ some remote

def NamesLead (s : Session) : Prop := ∀ (key : String × Role) (handle : UInt32), s.linkHandles key = some handle →
  ∃ link, s.links[handle]? = some link ∧ link.key = key

structure Tabled (s : Session) : Prop where
  orderly : s.Orderly
  names : s.NamesLead

variable {s next : Session} {handle : UInt32} {link : Link}

lemma Tabled.agree (tabled : s.Tabled) : s.TablesAgree := by
  have covers := tabled.orderly.registered.covers
  have indexed := tabled.orderly.indexed
  refine ⟨?_,?_,?_,?_⟩
  · intro handle link there
    have held : handle ∈ s.links := ExtTreeMap.mem_iff_isSome_getElem?.mpr (by simp [there])
    exact ⟨covers.used_lt handle held,covers.used_taken handle held⟩
  · intro handle key
    constructor
    · exact tabled.names key handle
    · rintro ⟨link,there,rfl⟩
      exact indexed.named handle link there
  · intro handle remote
    constructor
    · exact tabled.orderly.registered.bound remote handle
    · rintro ⟨link,there,bound⟩
      exact indexed.routed handle link remote there bound
  intro first second left right distinct there here
  refine ⟨fun same => ?_,fun remote bound other => ?_⟩
  · have one := indexed.named first left there
    rw [same,indexed.named second right here] at one
    exact distinct (some.inj one).symm
  have one := indexed.routed first left remote there bound
  rw [indexed.routed second right remote here other] at one
  exact distinct (some.inj one).symm

lemma Tabled.inPlace (tabled : s.Tabled) (kept : InPlace s next) : next.Tabled := by
  refine ⟨tabled.orderly.inPlace kept,?_⟩
  intro key handle found
  rw [kept.linkHandles] at found
  obtain ⟨_,there,same⟩ := tabled.names key handle found
  obtain ⟨after,here,card⟩ := kept.forward there
  exact ⟨after,here,(congrArg LinkCard.key card).trans same⟩

lemma Tabled.forget (tabled : s.Tabled) (present : s.links[handle]? = some link) :
    ((s.unbind link.remoteHandle).forgetLink handle).1.Tabled := by
  refine ⟨tabled.orderly.forget present,?_⟩
  intro key other found
  rw [forgetLink_linkHandles present] at found
  by_cases same : key = link.key
  · subst same
    simp at found
  rw [update_of_ne same] at found
  obtain ⟨after,there,named⟩ := tabled.names key other found
  have distinct : handle ≠ other := by
    rintro rfl
    cases present.symm.trans there
    exact same named.symm
  refine ⟨after,?_,named⟩
  rw [forgetLink_links,unbind_links,Entries.getElem?_erase,if_neg distinct]
  exact there

lemma Tabled.stable : Stable Tabled :=
  ⟨fun tabled => tabled.orderly.registered,fun tabled kept => tabled.inPlace kept,fun tabled present => tabled.forget present⟩

private lemma NamesLead.insert {after : Link} (names : s.NamesLead)
    (kept : ∀ old, s.links[handle]? = some old → after.key = old.key)
    (links : next.links = s.links.insert handle after) (same : next.linkHandles = s.linkHandles) : next.NamesLead := by
  intro key other found
  rw [same] at found
  obtain ⟨old,there,named⟩ := names key other found
  rw [links,Entries.getElem?_insert]
  by_cases here : handle = other
  · subst here
    rw [if_pos rfl]
    exact ⟨after,rfl,(kept old there).trans named⟩
  · rw [if_neg here]
    exact ⟨old,there,named⟩

private lemma NamesLead.add (names : s.NamesLead) (fresh : s.links[handle]? = none)
    (links : next.links = s.links.insert handle link)
    (named : next.linkHandles = update s.linkHandles link.key (some handle)) : next.NamesLead := by
  intro key other found
  rw [named] at found
  rw [links,Entries.getElem?_insert]
  by_cases same : key = link.key
  · subst same
    rw [update_self,some.injEq] at found
    subst found
    rw [if_pos rfl]
    exact ⟨link,rfl,rfl⟩
  rw [update_of_ne same] at found
  obtain ⟨old,there,key⟩ := names key other found
  have distinct : handle ≠ other := by
    rintro rfl
    rw [fresh] at there
    cases there
  rw [if_neg distinct]
  exact ⟨old,there,key⟩

lemma allocated_absent (registered : s.Registered) {handles : HandleAllocator}
    (allocated : s.handles.allocate = some (handle,handles)) : s.links[handle]? = none := by
  cases there : s.links[handle]? with
  | none => rfl
  | some =>
    have held : handle ∈ s.links := ExtTreeMap.mem_iff_isSome_getElem?.mpr (by simp [there])
    exact absurd held (registered.covers.allocate allocated).1

lemma attachLink_tabled (tabled : s.Tabled) (creditMode : CreditMode) (events : ChannelRef) (reply : Reply)
    (unknown : s.handles.allocate.isSome → s.linkHandles (attach.name,attach.role) = none) :
    (s.attachLink attach creditMode events reply).1.Tabled := by
  rcases s.attachLink_cases attach creditMode events reply with
    ⟨-,same⟩ | ⟨handle,handles,link,allocated,card,same⟩
  · rw [same]
    exact tabled
  have free := unknown (by rw [allocated]; rfl)
  refine ⟨attachLink_orderly tabled.orderly creditMode events reply free,?_⟩
  rw [same]
  have key : link.key = (attach.name,attach.role) := congrArg LinkCard.key card
  exact tabled.names.add (allocated_absent tabled.orderly.registered allocated) rfl (by rw [key])

def awaits (s : Session) (attach : Attach) : Bool :=
  (s.linkHandles (attach.name,attach.role.opposite)).any fun handle =>
    (s.links[handle]?).any fun link => link.remoteHandle.isNone

lemma onPeerAttach_tabled (tabled : s.Tabled)
    (free : s.awaits attach = true → s.remoteHandles attach.handle = none) : (s.onPeerAttach attach).1.Tabled := by
  cases awaited : s.awaits attach with
  | true =>
    refine ⟨onPeerAttach_orderly tabled.orderly (free awaited),?_⟩
    rcases onPeerAttach_cases with same | ⟨handle,link,bound,flow,present,card,same⟩
    · rw [same]
      exact tabled.names
    rw [same]
    refine tabled.names.insert (fun old there => ?_) rfl rfl
    cases present.symm.trans there
    exact congrArg LinkCard.key card
  | false =>
    have ignored : s.onPeerAttach attach = (s,[]) := by
      unfold onPeerAttach
      cases named : s.linkHandles (attach.name,attach.role.opposite) with
      | none => rfl
      | some handle =>
        cases there : s.links[handle]? with
        | none => simp [there]
        | some link =>
          have bound : link.remoteHandle.isSome = true := by
            simpa [awaits,named,there] using awaited
          simp only [there,bound,if_true]
    rw [ignored]
    exact tabled

lemma mirrorLink_card (handle : UInt32) (attach : Attach) (creditMode : CreditMode) (initialCredit : UInt32)
    (maxMessageSize : Option UInt64) (events : ChannelRef) (windows : SessionWindows) :
    ((mirrorLink handle attach creditMode initialCredit maxMessageSize events windows).1.setRemoteHandle
        attach.handle).markAttached.key = (attach.name,attach.role.opposite) ∧
      ((mirrorLink handle attach creditMode initialCredit maxMessageSize events windows).1.setRemoteHandle
        attach.handle).markAttached.remoteHandle = some attach.handle := by
  unfold mirrorLink
  cases attach.role with
  | sender =>
    simp only [Role.opposite]
    split <;> exact ⟨rfl,rfl⟩
  | receiver => exact ⟨rfl,rfl⟩

lemma acceptPeerAttach_tabled (tabled : s.Tabled) {creditMode : CreditMode} {initialCredit : UInt32}
    {maxMessageSize : Option UInt64} {events : ChannelRef} {accepted : AcceptedLink} {effects : List Effect}
    (free : s.handles.allocate.isSome → s.remoteHandles attach.handle = none)
    (ok : s.acceptPeerAttach attach creditMode initialCredit maxMessageSize events = .ok (accepted,next,effects)) :
    next.Tabled := by
  unfold acceptPeerAttach at ok
  simp only at ok
  split at ok
  · cases ok
  rename_i unknown
  have unused : s.linkHandles (attach.name,attach.role.opposite) = none := by simpa using unknown
  split at ok
  · cases ok
  rename_i handle handles allocated
  cases ok
  obtain ⟨key,remote⟩ := mirrorLink_card handle attach creditMode initialCredit maxMessageSize events s.windows
  have open_ := free (by rw [allocated]; rfl)
  have registered := tabled.orderly.registered
  refine ⟨⟨registered.add allocated ⟨rfl,rfl⟩ (.inr ⟨attach.handle,remote,rfl⟩),?_⟩,?_⟩
  · refine tabled.orderly.indexed.add (key ▸ unused) (by rw [key]) rfl (fun other bound => ?_) (fun other apart => ?_)
    · cases remote.symm.trans bound
      exact ⟨open_,update_self ..⟩
    · have distinct : other ≠ attach.handle := by
        rintro rfl
        exact apart remote
      exact update_of_ne distinct ..
  · exact tabled.names.add (allocated_absent registered allocated) rfl (by rw [key])

lemma refusePeerAttach_tabled (tabled : s.Tabled) (attach : Attach) (error : AmqpError) :
    (s.refusePeerAttach attach error).1.Tabled :=
  ⟨⟨⟨refusePeerAttach_covers tabled.orderly.registered.covers error,tabled.orderly.registered.bound⟩,
    ⟨tabled.orderly.indexed.named,tabled.orderly.indexed.routed⟩⟩,tabled.names⟩

def takes (s : Session) (attach : Attach) : AttachPolicy → Bool
  | .respond => s.awaits attach
  | .accept .. => if s.knowsLink attach.name attach.role then s.awaits attach else s.handles.allocate.isSome
  | .refuse _ => s.knowsLink attach.name attach.role && s.awaits attach

/-- A new link has a name and role, and a handle of the peer, that no link has. -/
def AttachesApart (s : Session) : TableInput → Bool
  | .input (.op (.attach attach ..)) =>
    s.handles.allocate.isNone || (s.linkHandles (attach.name,attach.role)).isNone
  | .input (.frame policy _ ⟨_,.attach attach,_⟩) => !s.takes attach policy || (s.remoteHandles attach.handle).isNone
  | .accept attach .. => s.handles.allocate.isNone || (s.remoteHandles attach.handle).isNone
  | _ => true

section

variable (tabled : s.Tabled)

include tabled

lemma inboundAttach_tabled
    (free : s.takes attach policy = true → s.remoteHandles attach.handle = none)
    (ok : s.inboundAttach attach policy = .ok result) : result.1.Tabled := by
  cases policy with
  | respond =>
    cases ok
    exact onPeerAttach_tabled tabled free
  | accept =>
    simp only [inboundAttach] at ok
    simp only [takes] at free
    split at ok
    next known =>
      rw [if_pos known] at free
      cases ok
      exact onPeerAttach_tabled tabled free
    rename_i unknown
    rw [if_neg unknown] at free
    split at ok
    · cases ok
    rename_i accepted
    cases ok
    exact acceptPeerAttach_tabled tabled free accepted
  | refuse error =>
    simp only [inboundAttach] at ok
    split at ok
    next known =>
      cases ok
      refine onPeerAttach_tabled tabled fun awaited => free ?_
      simp only [takes,known,awaited,Bool.and_self]
    · cases ok
      exact refusePeerAttach_tabled tabled attach error

lemma tableStep_tabled {input : TableInput} (apart : s.AttachesApart input = true)
    (ok : s.tableStep maxFrameSize input = some next) : next.Tabled := by
  cases input with
  | input input =>
    obtain ⟨_,taken⟩ := step_eq_some_iff.mp ok
    cases input with
    | op =>
      refine Tabled.stable.act tabled ?_ taken
      rintro attach creditMode events reply rfl
      refine attachLink_tabled tabled creditMode events reply fun room => ?_
      simpa [AttachesApart,isSome_iff_ne_none.mp room] using apart
    | frame policy order frame =>
      obtain ⟨_,performative,_⟩ := frame
      refine Tabled.stable.inbound tabled ?_ taken
      rintro attach rfl attached
      refine inboundAttach_tabled tabled (fun takes => ?_) attached
      simpa [AttachesApart,takes] using apart
  | accept =>
    simp only [tableStep] at ok
    split at ok
    · cases ok
      exact tabled
    rename_i accepted
    cases ok
    refine acceptPeerAttach_tabled tabled (fun room => ?_) accepted
    simpa [AttachesApart,isSome_iff_ne_none.mp room] using apart
  | refuse attach error =>
    cases ok
    exact refusePeerAttach_tabled tabled attach error
  | peerEnd =>
    cases ok
    exact ⟨⟨⟨tabled.orderly.registered.covers,tabled.orderly.registered.bound⟩,
      ⟨tabled.orderly.indexed.named,tabled.orderly.indexed.routed⟩⟩,tabled.names⟩

end

structure Blank (s : Session) : Prop where
  links : s.links = ∅
  names : s.linkHandles = fun _ => none
  routes : s.remoteHandles = fun _ => none
  handles : ∃ handleMax, s.handles = .new handleMax

lemma Blank.tabled (blank : s.Blank) : s.Tabled := by
  have absent : ∀ handle : UInt32, s.links[handle]? = none := by
    intro handle
    rw [blank.links]
    rfl
  refine ⟨⟨.empty blank.links blank.routes blank.handles,⟨fun handle link there => ?_,fun handle link remote there => ?_⟩⟩,
    fun key handle found => ?_⟩
  · rw [absent] at there
    cases there
  · rw [absent] at there
    cases there
  · rw [blank.names] at found
    cases found

lemma new_blank (sessionId : Nat) (localChannel : UInt16) (begin_ : Begin) (events : ChannelRef) (reply : Reply) :
    (new sessionId localChannel begin_ events reply).Blank := ⟨rfl,rfl,rfl,_,rfl⟩

/-- In a run in which every new link has a name and role and a handle of the peer that no live link has, the tables agree
in every state that is reached. -/
theorem tables_agree {start : Session} (blank : start.Blank) (maxFrameSize : Nat) (inputs : List TableInput)
    (apart : Transition.Meets (tableStep maxFrameSize) (fun s input => s.AttachesApart input = true) start inputs)
    (ok : run (tableStep maxFrameSize) start inputs = some s) : s.TablesAgree := by
  have tabled : Tabled s := run_invariant (fun tabled => tableStep_tabled tabled) blank.tabled apart ok
  exact tabled.agree

def plainSession : Session := new 0 1 ⟨none,0,100,100,8⟩ 0 0

def attaching (name : String) : TableInput := .input (.op (.attach {name,handle := 0,role := .sender} .manual 1 1))

def answered (name : String) (handle : UInt32) : TableInput :=
  .input (.frame .respond .byKey ⟨2,.attach {name,handle,role := .receiver},none⟩)

def linksComeAndGo : List TableInput :=
  [attaching "orders",attaching "audit",answered "audit" 3,answered "orders" 7,
    .input (.op (.detach 0 true none 5)),.refuse {name := "spam",handle := 9,role := .sender} ⟨.notFound,none⟩,
    .accept {name := "replies",handle := 7,role := .sender} .manual 10 none 2,.peerEnd none]

lemma linksComeAndGo_reached : ∃ s, run (tableStep 512) plainSession linksComeAndGo = some s ∧
    (s.links[(0 : UInt32)]?.bind Link.remoteHandle) = some 7 ∧ s.handles.allocate.isSome = true := by
  apply reaches_of_any
  decide +kernel

theorem tables_agree_reused : ∃ s, run (tableStep 512) plainSession linksComeAndGo = some s ∧
    (s.links[(0 : UInt32)]?.bind Link.remoteHandle) = some 7 ∧ s.TablesAgree := by
  obtain ⟨s,ok,bound,-⟩ := linksComeAndGo_reached
  refine ⟨s,ok,bound,tables_agree (new_blank ..) 512 linksComeAndGo ?_ ok⟩
  apply meets_of_check
  decide +kernel

/-- The peer answers two attaches with the same handle. -/
theorem reused_handle_shared : ∃ s, run (tableStep 512) plainSession
      [attaching "orders",attaching "audit",answered "orders" 7,answered "audit" 7] = some s ∧ ¬ s.TablesAgree := by
  refine reaches_then (P := fun s => (s.links[(0 : UInt32)]?.bind Link.remoteHandle) = some 7 ∧
    (s.links[(1 : UInt32)]?.bind Link.remoteHandle) = some 7) (by decide +kernel) ?_
  intro s _ ⟨first,second⟩ agree
  obtain ⟨left,there,first⟩ := bind_eq_some_iff.mp first
  obtain ⟨right,here,second⟩ := bind_eq_some_iff.mp second
  exact (agree.apart 0 1 left right (by decide) there here).2 7 first second

lemma tableStep_registered (registered : s.Registered) {input : TableInput}
    (ok : s.tableStep maxFrameSize input = some next) : next.Registered := by
  cases input with
  | input input =>
    obtain ⟨_,taken⟩ := step_eq_some_iff.mp ok
    cases input with
    | op => exact Registered.stable.act registered (fun _ _ _ _ _ => attachLink_registered registered) taken
    | frame => exact Registered.stable.inbound registered (fun _ _ ok => inboundAttach_registered registered ok) taken
  | accept =>
    simp only [tableStep] at ok
    split at ok
    · cases ok
      exact registered
    rename_i accepted
    cases ok
    exact acceptPeerAttach_registered registered accepted
  | refuse attach error =>
    cases ok
    exact ⟨refusePeerAttach_covers registered.covers error,registered.bound⟩
  | peerEnd =>
    cases ok
    exact ⟨registered.covers,registered.bound⟩

/-- A refusal changes nothing but the allocator. Its frames have the handle of a live link exactly if no handle is left
and a link has handle 0. -/
theorem refusal_apart {start : Session} (blank : start.Blank) (maxFrameSize : Nat) (inputs : List TableInput)
    (ok : run (tableStep maxFrameSize) start inputs = some s) (attach : Attach) (error : AmqpError) :
    ∃ answer handles, s.refusePeerAttach attach error = ({s with handles},
        [.queue ⟨s.localChannel,.attach answer,none⟩,
         .queue ⟨s.localChannel,.detach ⟨answer.handle,true,some error⟩,none⟩]) ∧
      (s.links[answer.handle]? = none ↔ s.handles.allocate.isSome = true ∨ s.links[(0 : UInt32)]? = none) := by
  have registered : s.Registered := run_invariant_all (fun registered => tableStep_registered registered)
    (.empty blank.links blank.routes blank.handles) ok
  cases allocated : s.handles.allocate with
  | none =>
    refine ⟨_,_,by rw [refusePeerAttach,allocated],?_⟩
    simp
  | some entry =>
    obtain ⟨handle,handles⟩ := entry
    refine ⟨_,_,by rw [refusePeerAttach,allocated],?_⟩
    simp [allocated_absent registered allocated]

theorem refusal_apart_reused : ∃ s answer, run (tableStep 512) plainSession linksComeAndGo = some s ∧
    s.handles.allocate.isSome = true ∧ s.links[Attach.handle answer]? = none := by
  obtain ⟨s,ok,-,room⟩ := linksComeAndGo_reached
  obtain ⟨answer,_,-,apart⟩ :=
    refusal_apart (new_blank ..) 512 linksComeAndGo ok {name := "spam",handle := 9,role := .sender} ⟨.notFound,none⟩
  exact ⟨s,answer,ok,room,apart.mpr (.inl room)⟩

/-- With one handle, and a link that has it, a refusal detaches that link. -/
theorem refusal_detaches_link : ∃ s, run (tableStep 512) (new 0 1 ⟨none,0,100,100,0⟩ 0 0)
      [attaching "orders"] = some s ∧ s.links[(0 : UInt32)]?.isSome = true ∧
    .queue ⟨1,.detach ⟨0,true,some ⟨.notFound,none⟩⟩,none⟩ ∈
      (s.refusePeerAttach {name := "spam",handle := 9,role := .sender} ⟨.notFound,none⟩).2 := by
  refine reaches_then (P := fun s => s.links[(0 : UInt32)]?.isSome = true ∧ s.handles.allocate.isNone = true ∧
    s.localChannel = 1) (by decide +kernel) fun s _ ⟨live,full,channel⟩ => ⟨live,?_⟩
  rw [refusePeerAttach,isNone_iff_eq_none.mp full]
  simp [channel]

end Session

end Ramqp
