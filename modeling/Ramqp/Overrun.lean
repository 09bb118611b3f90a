import Ramqp.LinkMoves

/-! The deliveries that a session emits on a receiver link, against the credit that was granted on it. -/
namespace Ramqp

open Std Transition

def Session.creditAt (s : Session) (handle : UInt32) : Option Nat :=
  match s.links[handle]? with
  | some (.receiver r) => some r.credit.linkCredit.toNat
  | _ => none

def deliveredTo (handle : UInt32) (effects : List Effect) : Nat :=
  ((deliveries effects).filter fun entry => entry.2.handle == handle).length

/-- A session with, for each receiver link by its handle, the deliveries emitted on it and the credit granted on it so
far. -/
structure Metered where
  session : Session
  emitted : UInt32 → Nat
  granted : UInt32 → Nat

namespace Metered

def start (s : Session) : Metered := ⟨s,fun _ => 0,fun _ => 0⟩

/-- One input of the session. Credit is granted where a link's credit goes up; the counts of a link end with it. -/
def step (maxFrameSize : Nat) (m : Metered) (input : SessionInput) : Option Metered :=
  match m.session.react maxFrameSize input with
  | .error _ => none
  | .ok (next,effects) => some
    {session := next,
     emitted := fun handle => match next.creditAt handle with
       | some _ => m.emitted handle + deliveredTo handle effects
       | none => 0,
     granted := fun handle => match next.creditAt handle with
       | some credit => m.granted handle + (credit - (m.session.creditAt handle).getD 0)
       | none => 0}

def withinCredit (m : Metered) : SessionInput → Bool
  | .frame _ _ ⟨_,.transfer t,payload⟩ => match (m.session.remoteHandles t.handle).bind (m.session.links[·]?) with
    | some (.receiver r) => match r.receive t payload with
      | .ok (_,some _,_) => decide (0 < r.credit.linkCredit)
      | _ => true
    | _ => true
  | _ => true

structure Covered (m : Metered) : Prop where
  covered : ∀ handle, m.emitted handle + (m.session.creditAt handle).getD 0 ≤ m.granted handle
  own : m.session.Labelled

variable {m next : Metered} {maxFrameSize : Nat} {input : SessionInput}

lemma step_covered (inv : m.Covered) (within : m.withinCredit input = true) (ok : m.step maxFrameSize input = some next) :
    next.Covered := by
  unfold step at ok
  split at ok
  · cases ok
  rename_i session effects reacted
  cases ok
  refine ⟨fun handle => ?_,Session.react_labelled inv.own reacted⟩
  dsimp only
  cases after : session.creditAt handle with
  | none => exact le_rfl
  | some credit =>
    simp only [Option.getD_some]
    have before := inv.covered handle
    have quiet : deliveredTo handle effects = 0 → m.emitted handle + deliveredTo handle effects + credit ≤
          m.granted handle + (credit - (m.session.creditAt handle).getD 0) := by
      intro none_
      omega
    cases Session.react_offers reacted with
    | senders all =>
      refine quiet ?_
      have none_ : deliveries effects = [] := by
        rw [deliveries_eq_offered,List.filterMap_eq_nil_iff]
        intro entry member
        have other := (all entry member).1
        split
        next d is =>
          exact absurd is (other d)
        · rfl
      simp [deliveredTo,none_]
    | leaves peer link error present gone emitted =>
      dsimp only at emitted
      exact quiet (by simp [deliveredTo,deliveries_eq_offered,emitted])
    | taken policy order channel t payload frame own r taken event routed present received links emitted =>
      subst frame
      dsimp only at links emitted
      cases event with
      | none => exact quiet (by simp [deliveredTo,deliveries_eq_offered,emitted])
      | some =>
        obtain ⟨-,-,delivers⟩ := r.receive_cases received
        obtain ⟨d,rfl,named⟩ := delivers _ rfl
        rw [inv.own own r present] at named
        have count : deliveredTo handle effects = if own = handle then 1 else 0 := by
          rw [deliveredTo,deliveries_eq_offered,emitted]
          change ([(r.events,d)].filter fun entry => entry.2.handle == handle).length = _
          by_cases same : own = handle <;> simp [named,same]
        by_cases same : own = handle
        · subst same
          -- The delivery takes a unit of the link's credit, which the guard says it has.
          have some_left : 0 < r.credit.linkCredit := by
            simpa [withinCredit,routed,present,received] using within
          have spent : credit + 1 = r.credit.linkCredit.toNat := by
            have left := r.receive_credit received
            simp only [Session.creditAt,links,Entries.getElem?_insert,if_true,left,Option.isSome_some,or_true,
              Option.some.injEq] at after
            rw [← after]
            exact toNat_saturatingSub_one some_left
          have held : m.session.creditAt own = some r.credit.linkCredit.toNat := by
            simp [Session.creditAt,present]
          rw [if_pos rfl] at count
          rw [held,Option.getD_some] at before ⊢
          omega
        · exact quiet (by rw [count,if_neg same])

/-- In a run in which every delivery is completed while its link has credit, no link emits more deliveries than it was
granted credit for. -/
theorem emitted_le_granted {s : Session} (empty : s.links = ∅) (maxFrameSize : Nat) (inputs : List SessionInput)
    (within : Transition.Meets (step maxFrameSize) (fun m input => m.withinCredit input = true) (start s) inputs)
    (ok : Transition.run (step maxFrameSize) (start s) inputs = some m) (handle : UInt32) :
    m.emitted handle ≤ m.granted handle := by
  have initial : (start s).Covered := by
    have absent : ∀ handle : UInt32, s.links[handle]? = none := by simp [empty]
    refine ⟨fun handle => ?_,fun handle r there => ?_⟩
    · simp [start,Session.creditAt,absent]
    · simp [start,absent] at there
  have inv := run_invariant step_covered initial within ok
  have := inv.covered handle
  omega

def metered : Metered := start (Session.acceptPeerBegin 1 0 5 ⟨none,0,100,50,8⟩ ⟨32,16,64⟩ 3).1

def attachedWith (credit : UInt32) : SessionInput :=
  .frame (.accept .manual credit none 7) .byKey
    ⟨0,.attach {name := "up",handle := 9,role := .sender,initialDeliveryCount := some 0},none⟩

def transferOn (id : UInt32) (more : Bool) : SessionInput :=
  .frame .respond .byKey ⟨0,.transfer {handle := 9,deliveryId := some id,settled := some true,more},some [1]⟩

def grantedDeliveries : List SessionInput :=
  [attachedWith 1,transferOn 0 true,transferOn 0 false,.op (.grant 0 1),transferOn 1 false]

theorem emitted_le_granted_two : ∃ m, Transition.run (step 512) metered grantedDeliveries = some m ∧
    (m.emitted 0 = 2 ∧ m.granted 0 = 2) ∧ m.emitted 0 ≤ m.granted 0 := by
  refine reaches_and (by decide +kernel) fun m ok _ => ?_
  exact emitted_le_granted rfl 512 grantedDeliveries (meets_of_check (by decide +kernel)) ok 0

/-- A peer that was granted nothing sends, and the delivery is emitted. -/
theorem ungranted_delivery_emitted : ∃ m, Transition.run (step 512) metered [attachedWith 0,transferOn 0 false] = some m ∧
    (m.emitted 0 = 1 ∧ m.granted 0 = 0) := by
  apply reaches_of_any
  decide +kernel

end Metered

end Ramqp
