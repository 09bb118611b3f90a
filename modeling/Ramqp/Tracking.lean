import Ramqp.LinkMoves

/-! The two maps of a sender link: the deliveries it tracks as unsettled, and the sends that await an outcome. -/
namespace Ramqp

open Std Transition Std.ExtTreeMap

namespace SenderLink

variable {l after : SenderLink} {id : UInt32}

variable {first last : UInt32} {state : Option DeliveryState} {settled : Bool} {output : List Effect}

def PendingTracked (l : SenderLink) : Prop := ∀ id ∈ l.pending, id ∈ l.unsettled

private lemma mem_insert_iff {υ : Type} {m : Map UInt32 υ} {key other : UInt32} {value : υ} :
    other ∈ m.insert key value ↔ key = other ∨ other ∈ m := by
  simp only [mem_insert,LawfulEqCmp.compare_eq_iff_eq]

lemma recordSend_spec (l : SenderLink) (deliveryId : UInt32) (message : PendingSend) :
    (∀ id ∈ l.pending, id ∈ (l.recordSend deliveryId message).1.pending) ∧
    (∀ id ∈ l.unsettled, id ∈ (l.recordSend deliveryId message).1.unsettled) ∧
    ∀ id ∈ (l.recordSend deliveryId message).1.pending,
      id ∈ l.pending ∨ id ∈ (l.recordSend deliveryId message).1.unsettled := by
  unfold recordSend
  dsimp only
  split
  · exact ⟨fun _ => id,fun _ => id,fun _ here => .inl here⟩
  refine ⟨fun id here => ?_,fun id here => mem_insert_iff.mpr (.inr here),fun id here => ?_⟩
  · dsimp only
    split
    · exact mem_insert_iff.mpr (.inr here)
    · exact here
  dsimp only at here
  split at here
  · rcases mem_insert_iff.mp here with same | before
    · exact .inr (mem_insert_iff.mpr (.inl same))
    · exact .inl before
  · exact .inl here

lemma SenderMove.keeps (move : SenderMove l after) (tracked : l.PendingTracked) :
    after.PendingTracked ∧ ∀ id ∈ l.pending, id ∈ after.pending := by
  cases move with
  | send message rest deliveryId =>
    obtain ⟨awaiting,kept,origin⟩ := recordSend_spec l deliveryId message
    refine ⟨fun id here => ?_,awaiting⟩
    rcases origin id here with before | now
    · exact kept id (tracked id before)
    · exact now
  | queue | credit | drained | bind => exact ⟨tracked,fun _ => id⟩

lemma moves_keep (moves : Relation.ReflTransGen SenderMove l after) (tracked : l.PendingTracked) :
    after.PendingTracked ∧ ∀ id ∈ l.pending, id ∈ after.pending := by
  induction moves with
  | refl => exact ⟨tracked,fun _ => id⟩
  | tail _ move ih =>
    obtain ⟨still,more⟩ := SenderMove.keeps move ih.1
    exact ⟨still,fun id here => more id (ih.2 id here)⟩

lemma settleSent_spec (ok : l.settleSent first last state settled = .ok (after,output)) :
    (∀ id, id ∈ after.pending ↔ id ∈ l.pending ∧
      ¬ ((sendOutcome state settled).isSome ∧ id ∈ l.unsettled ∧ first ≤ id ∧ id ≤ last)) ∧
    ∀ id, id ∈ after.unsettled ↔ id ∈ l.unsettled ∧ ¬ (settled = true ∧ first ≤ id ∧ id ≤ last) := by
  unfold settleSent at ok
  split at ok
  next empty =>
    cases ok
    rw [ExtTreeMap.isEmpty_iff] at empty
    simp [empty]
  split at ok
  · cases ok
  rename_i applied
  cases ok
  obtain ⟨-,rfl,ranged⟩ := UnsettledMap.applyDisposition_ok applied
  obtain ⟨-,left⟩ := l.resolve_spec (sendOutcome state settled) state settled _ l.pending
    (UnsettledMap.nodup_inRange l.unsettled first last)
  refine ⟨fun id => ?_,fun id => ?_⟩
  · have here := left id
    simp only [mem_iff_isSome_getElem?,here,UnsettledMap.mem_inRange]
    split
    next taken =>
      simp [taken]
    next spared =>
      simp only [spared,not_false_eq_true,and_true]
  have here := ranged id
  simp only [mem_iff_isSome_getElem?,here]
  by_cases inside : first ≤ id ∧ id ≤ last
  · rw [if_pos inside]
    cases settled <;> cases l.unsettled[id]? <;> simp [UnsettledMap.settleEntry,inside]
  · simp [inside]

lemma sendOutcome_settled (state : Option DeliveryState) : (sendOutcome state true).isSome := by
  unfold sendOutcome
  split
  · split <;> rfl
  · rfl

lemma settleSent_tracked (ok : l.settleSent first last state settled = .ok (after,output))
    (tracked : l.PendingTracked) : after.PendingTracked := by
  obtain ⟨pending,unsettled⟩ := settleSent_spec ok
  intro id here
  obtain ⟨awaited,spared⟩ := (pending id).mp here
  refine (unsettled id).mpr ⟨tracked id awaited,?_⟩
  rintro ⟨rfl,inside⟩
  exact spared ⟨sendOutcome_settled state,tracked id awaited,inside⟩

end SenderLink

def SessionInput.disposition : SessionInput → Option Disposition
  | .frame _ _ ⟨_,.disposition d,_⟩ => some d
  | _ => none

namespace Session

variable {s next : Session} {maxFrameSize : Nat} {input : SessionInput}

def PendingTracked (s : Session) : Prop :=
  ∀ (handle : UInt32) (l : SenderLink), s.links[handle]? = some (.sender l) → l.PendingTracked

def Frees (s next : Session) : Prop := ∀ (handle : UInt32) (l after : SenderLink), s.links[handle]? = some (.sender l) →
  next.links[handle]? = some (.sender after) → ∀ id ∈ l.pending, id ∉ after.pending → id ∉ after.unsettled

/-- A disposition that completes a send settles it. -/
def CompletesSettled (s : Session) : SessionInput → Prop
  | .frame _ _ ⟨_,.disposition d,_⟩ => d.role = .receiver → (sendOutcome d.state d.settled).isSome → d.settled = false →
    ∀ (handle : UInt32) (l : SenderLink), s.links[handle]? = some (.sender l) →
      ∀ id ∈ l.pending, ¬ (d.first ≤ id ∧ id ≤ d.last.getD d.first)
  | _ => True

lemma moved_sender {handle : UInt32} {before : Link} {after : SenderLink}
    (move : LinkMove s handle input before (.sender after)) :
    ∃ l, before = .sender l ∧ (Relation.ReflTransGen SenderMove l after ∨
      ∃ d output, input.disposition = some d ∧ d.role = .receiver ∧
        l.settleSent d.first (d.last.getD d.first) d.state d.settled = .ok (after,output)) := by
  cases before with
  | sender l =>
    obtain ⟨_,same,moves | ⟨_,_,_,d,_,output,rfl,role,settled⟩⟩ := move.of_sender
    · cases same
      exact ⟨l,rfl,.inl moves⟩
    · cases same
      exact ⟨l,rfl,.inr ⟨d,output,rfl,role,settled⟩⟩
  | receiver =>
    obtain ⟨_,absurd,-⟩ := move.of_receiver
    cases absurd

lemma step_pendingTracked (tracked : s.PendingTracked) (ok : s.step maxFrameSize input = some next) :
    next.PendingTracked := by
  obtain ⟨_,reacted⟩ := step_eq_some_iff.mp ok
  intro handle after there
  rcases (react_moved reacted).origin handle _ there with ⟨before,present,move⟩ | ⟨-,fresh,-⟩
  · obtain ⟨l,rfl,moved⟩ := moved_sender move
    rcases moved with moves | ⟨_,_,-,-,settled⟩
    · exact (SenderLink.moves_keep moves (tracked handle l present)).1
    · exact SenderLink.settleSent_tracked settled (tracked handle l present)
  cases fresh with
  | sender own unsettled pending =>
    intro id here
    rw [pending] at here
    simp at here

lemma settleSent_frees_iff {l after : SenderLink} {first last : UInt32} {state : Option DeliveryState}
    {settled : Bool} {output : List Effect} (ok : l.settleSent first last state settled = .ok (after,output))
    (tracked : l.PendingTracked) : (∀ id ∈ l.pending, id ∉ after.pending → id ∉ after.unsettled) ↔
      ((sendOutcome state settled).isSome → settled = false → ∀ id ∈ l.pending, ¬ (first ≤ id ∧ id ≤ last)) := by
  obtain ⟨pending,unsettled⟩ := SenderLink.settleSent_spec ok
  constructor
  · rintro frees outcome rfl id awaited inside
    refine frees id awaited (fun still => ?_) ((unsettled id).mpr ⟨tracked id awaited,fun ranged => nomatch ranged.1⟩)
    exact ((pending id).mp still).2 ⟨outcome,tracked id awaited,inside⟩
  intro apart id awaited gone held
  obtain ⟨-,kept⟩ := (unsettled id).mp held
  have taken : (sendOutcome state settled).isSome ∧ id ∈ l.unsettled ∧ first ≤ id ∧ id ≤ last := by
    by_contra spared
    exact gone ((pending id).mpr ⟨awaited,spared⟩)
  cases settled with
  | true => exact kept ⟨rfl,taken.2.2⟩
  | false => exact apart taken.1 rfl id awaited taken.2.2

lemma frees_iff (tracked : s.PendingTracked) (ok : s.step maxFrameSize input = some next) :
    s.Frees next ↔ s.CompletesSettled input := by
  obtain ⟨_,reacted⟩ := step_eq_some_iff.mp ok
  -- Where no disposition came in, an awaiting send still awaits or its link is a new one.
  have otherwise : input.disposition = none → s.Frees next := by
    intro other handle l after present there id awaited gone held
    rcases (react_moved reacted).origin handle _ there with ⟨before,here,move⟩ | ⟨-,fresh,-⟩
    · cases present.symm.trans here
      obtain ⟨_,same,moved⟩ := moved_sender move
      cases same
      rcases moved with moves | ⟨d,_,named,-⟩
      · exact gone ((SenderLink.moves_keep moves (tracked handle _ present)).2 id awaited)
      · cases other.symm.trans named
    cases fresh with
    | sender own unsettled =>
      rw [unsettled] at held
      simp at held
  cases input with
  | op => exact iff_of_true (otherwise rfl) trivial
  | frame policy order frame =>
    obtain ⟨_,performative,_⟩ := frame
    cases performative with
    | disposition =>
      obtain ⟨-,_,links,-⟩ := onDisposition_ok reacted
      constructor
      · intro frees role outcome unsettled handle l present
        obtain ⟨_,_,disposed,there⟩ := links handle _ present
        rcases Link.dispose_sender disposed with ⟨other,-⟩ | ⟨after,-,rfl,settled⟩
        · cases role.symm.trans other
        · exact (settleSent_frees_iff settled (tracked handle l present)).mp (frees handle l after present there)
            outcome unsettled
      intro completes handle l after present there
      obtain ⟨_,_,disposed,found⟩ := links handle _ present
      cases found.symm.trans there
      rcases Link.dispose_sender disposed with ⟨-,same⟩ | ⟨after,role,same,settled⟩
      · cases same
        exact fun id awaited gone => absurd awaited gone
      cases same
      exact (settleSent_frees_iff settled (tracked handle l present)).mpr fun outcome unsettled =>
        completes role outcome unsettled handle l present
    | open_ | begin_ | attach | flow | transfer | detach | end_ | close => exact iff_of_true (otherwise rfl) trivial

/-- In every state that a session reaches the awaiting sends are tracked, and a step frees the deliveries whose sends it
completes if and only if it is not an unsettled disposition with an outcome for one of them. -/
theorem completed_sends_freed_iff {start : Session} (empty : start.links = ∅) (maxFrameSize : Nat)
    (inputs : List SessionInput) (ok : run (step maxFrameSize) start inputs = some s) :
    s.PendingTracked ∧ ∀ input next, s.step maxFrameSize input = some next → (s.Frees next ↔ s.CompletesSettled input) := by
  have tracked : s.PendingTracked := by
    refine run_invariant_all step_pendingTracked ?_ ok
    intro handle l there
    rw [empty] at there
    simp at there
  exact ⟨tracked,fun input next ok => frees_iff tracked ok⟩

def acceptingSession : Session := (acceptPeerBegin 1 0 5 ⟨none,0,100,50,8⟩ ⟨32,16,64⟩ 3).1

def acceptance (settled : Bool) : SessionInput :=
  .frame .respond .byKey ⟨0,.disposition {role := .receiver,first := 0,settled,state := some .accepted},none⟩

def awaitedAndTracked (s : Session) (id : UInt32) : Option (Bool × Bool) :=
  match s.links[(0 : UInt32)]? with
  | some (.sender l) => some (l.pending.contains id,l.unsettled.contains id)
  | _ => none

theorem completed_sends_freed_settled : ∃ s next, run (step 512) acceptingSession oneUnsettledSend = some s ∧
    s.awaitedAndTracked 0 = some (true,true) ∧ s.step 512 (acceptance true) = some next ∧
    next.awaitedAndTracked 0 = some (false,false) ∧ s.PendingTracked ∧ s.Frees next := by
  obtain ⟨s,ok,before,after⟩ : ∃ s, run (step 512) acceptingSession oneUnsettledSend = some s ∧
      (s.awaitedAndTracked 0 = some (true,true) ∧
        (s.step 512 (acceptance true)).any (fun next => next.awaitedAndTracked 0 = some (false,false)) = true) :=
    reaches_of_any (by decide +kernel)
  obtain ⟨next,taken,freed⟩ := (Option.any_eq_true ..).mp after
  obtain ⟨tracked,iff_⟩ := completed_sends_freed_iff rfl 512 oneUnsettledSend ok
  refine ⟨s,next,ok,before,taken,of_decide_eq_true freed,tracked,(iff_ _ next taken).mpr ?_⟩
  exact fun _ _ unsettled => nomatch unsettled

/-- Under the second settle mode the peer accepts without settling: the send is completed and the delivery stays
tracked. -/
theorem accepted_unsettled_tracked : ∃ s next, run (step 512) acceptingSession oneUnsettledSend = some s ∧
    s.awaitedAndTracked 0 = some (true,true) ∧ s.step 512 (acceptance false) = some next ∧
    next.awaitedAndTracked 0 = some (false,true) := by
  obtain ⟨s,ok,before,after⟩ : ∃ s, run (step 512) acceptingSession oneUnsettledSend = some s ∧
      (s.awaitedAndTracked 0 = some (true,true) ∧
        (s.step 512 (acceptance false)).any (fun next => next.awaitedAndTracked 0 = some (false,true)) = true) :=
    reaches_of_any (by decide +kernel)
  obtain ⟨next,taken,left⟩ := (Option.any_eq_true ..).mp after
  exact ⟨s,next,ok,before,taken,of_decide_eq_true left⟩

end Session

end Ramqp
