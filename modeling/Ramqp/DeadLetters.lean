import Ramqp.Tenancy

/-! The policy of a queue as it is resolved, and when its dead-letter target is the queue itself. -/
namespace Ramqp

inductive OverflowBehavior where
  | rejectPublish
  | dropHead
  deriving DecidableEq

structure QueuePolicy where
  messageTtl : Option Nat := none
  maxLength : Option Nat := none
  maxLengthBytes : Option Nat := none
  overflow : OverflowBehavior := .rejectPublish
  deadLetter : Option String := none
  maxDeliveryAttempts : Option UInt32 := none

namespace EffectivePolicy

def depthOnly (maxLen : Nat) : EffectivePolicy := ⟨none,maxLen,2^64 - 1,false,none,none,false⟩

def matching (policies : List (String × QueuePolicy)) (queue : String) : Option QueuePolicy :=
  (policies.find? fun policy => (strip policy.1 queue).isSome).map Prod.snd

def isSelf (queue target : String) : Bool := (parseAddress target).any fun address => address.2 = queue

def resolve (policies : List (String × QueuePolicy)) (queue : String) (globalMaxDepth globalMaxBytes : Nat)
    (dlx : Bool) : EffectivePolicy :=
  let globalBytes := if globalMaxBytes = 0 then 2^64 - 1 else globalMaxBytes
  match matching policies queue with
  | some p =>
    ⟨p.messageTtl,p.maxLength.getD globalMaxDepth,p.maxLengthBytes.getD globalBytes,p.overflow = .dropHead,
      p.deadLetter.filter fun target => !isSelf queue target,p.maxDeliveryAttempts,dlx⟩
  | none => {depthOnly globalMaxDepth with maxBytes := globalBytes}

variable {policies : List (String × QueuePolicy)} {queue target : String} {kind : QueueKind}
  {globalMaxDepth globalMaxBytes : Nat} {dlx : Bool}

lemma resolve_key : Ramqp.resolve target = some (registryKey kind queue) ↔ parseAddress target = some (kind,queue) := by
  simp [Ramqp.resolve,Option.map_eq_some_iff,registryKey_inj]

/-- A queue never dead-letters into itself. Its target is disabled exactly if it is the queue, as long as it is not a queue
of another kind with the queue's name. -/
theorem self_target_disabled_iff (set : (matching policies queue).bind QueuePolicy.deadLetter = some target) :
    let resolved := (resolve policies queue globalMaxDepth globalMaxBytes dlx).deadLetter
    (resolved = none ∨ resolved = some target ∧ Ramqp.resolve target ≠ some (registryKey kind queue)) ∧
    ((resolved = none ↔ Ramqp.resolve target = some (registryKey kind queue)) ↔
      ∀ other, parseAddress target = some (other,queue) → other = kind) := by
  obtain ⟨p,found,set⟩ := Option.bind_eq_some_iff.mp set
  have resolved : (resolve policies queue globalMaxDepth globalMaxBytes dlx).deadLetter =
      if isSelf queue target then none else some target := by
    simp only [resolve,found,set,Option.filter_some]
    cases isSelf queue target <;> rfl
  have self : isSelf queue target ↔ ∃ other, parseAddress target = some (other,queue) := by
    simp only [isSelf,Option.any_eq_true,decide_eq_true_eq,Prod.exists,exists_eq_right]
  simp only [resolved,ne_eq,resolve_key]
  by_cases same : isSelf queue target
  · obtain ⟨other,parsed⟩ := self.mp same
    simp [same,parsed]
  · have apart other : ¬parseAddress target = some (other,queue) := fun parsed => same (self.mpr ⟨other,parsed⟩)
    simp [same,apart]

def lettersAside : List (String × QueuePolicy) := [("",{deadLetter := some "/durable/orders"})]

theorem self_target_disabled_iff_durable :
    (matching lettersAside "orders").bind QueuePolicy.deadLetter = some "/durable/orders" ∧
    ((resolve lettersAside "orders" 9 0 true).deadLetter = none ↔
      Ramqp.resolve "/durable/orders" = some (registryKey .durable "orders")) := by
  have set : (matching lettersAside "orders").bind QueuePolicy.deadLetter = some "/durable/orders" := by decide +kernel
  refine ⟨set,(self_target_disabled_iff set).2.mpr fun other parsed => ?_⟩
  have own : parseAddress "/durable/orders" = some (.durable,"orders") := by decide +kernel
  cases own.symm.trans parsed
  rfl

theorem other_kind_disabled : (resolve lettersAside "orders" 9 0 true).deadLetter = none ∧
    Ramqp.resolve "/durable/orders" ≠ some (registryKey .transient "orders") := by
  decide +kernel

end EffectivePolicy

end Ramqp
