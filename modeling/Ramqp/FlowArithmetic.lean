import Ramqp.Library.Serial
import Ramqp.Semantics.Session

/-! What a flow leaves of a sender's credit and of a session's window, in the wrapping arithmetic of the counters. -/
namespace Ramqp

open Option

/-- The credit of a sender after a flow is what the receiver's credit leaves of the deliveries under way, and not more
than the flow carries, if and only if the flow's credit covers those. -/
theorem applyFlowAsSender_exact_iff (c : LinkCredit) (deliveryCount credit : UInt32) (drain : Bool) :
    ((c.applyFlowAsSender (some deliveryCount) (some credit) drain).linkCredit.toNat =
        credit.toNat - Serial.ahead deliveryCount c.deliveryCount ↔
      Serial.ahead deliveryCount c.deliveryCount ≤ credit.toNat) ∧
    ((c.applyFlowAsSender (some deliveryCount) (some credit) drain).linkCredit ≤ credit ↔
      Serial.ahead deliveryCount c.deliveryCount ≤ credit.toNat) :=
  ⟨Serial.add_sub_eq_remaining_iff,Serial.add_sub_le_iff⟩

/-- Five deliveries are under way when the receiver lowers its credit to two. -/
theorem lowered_credit_wraps : Serial.ahead 0 5 ≤ 2^31 - 1 ∧ Serial.remaining 0 2 5 = 0 ∧
    ((⟨5,0,0,false,.manual⟩ : LinkCredit).applyFlowAsSender (some 0) (some 2) false).linkCredit = 4294967293 := by
  decide

namespace SessionWindows

def allowed (w : SessionWindows) (first : UInt32) (flow : Flow) : Nat :=
  Serial.remaining (flow.nextIncomingId.getD first) flow.incomingWindow w.nextOutgoingId

/-- The window covers the transfers under way, and is counted from the number the flow means; otherwise, the difference
that wraps happens to be 0. -/
def Covered (w : SessionWindows) (first : UInt32) (flow : Flow) : Prop :=
  if Serial.ahead (flow.nextIncomingId.getD first) w.nextOutgoingId ≤ flow.incomingWindow.toNat then
    flow.nextIncomingId.isNone → first = 0
  else flow.nextIncomingId.isNone ∧ w.nextOutgoingId = flow.incomingWindow

instance (w : SessionWindows) (first : UInt32) (flow : Flow) : Decidable (w.Covered first flow) := by
  unfold Covered
  infer_instance

lemma allowed_iff (w : SessionWindows) (first : UInt32) (flow : Flow) :
    (w.onPeerFlow flow).remoteIncomingWindow.toNat = w.allowed first flow ↔ w.Covered first flow := by
  unfold Covered allowed onPeerFlow
  cases flow.nextIncomingId with
  | some =>
    simp only [getD_some,Serial.add_sub_eq_remaining_iff,isNone_some]
    split <;> simp_all
  | none =>
    simp only [getD_none,isNone_none,forall_const,true_and,← UInt32.toNat_inj,UInt32.toNat_zero]
    unfold Serial.remaining Serial.ahead
    rw [UInt32.toNat_sub,UInt32.toNat_sub]
    have start := first.toNat_lt
    have next := w.nextOutgoingId.toNat_lt
    have whole := flow.incomingWindow.toNat_lt
    split <;> omega

/-- A flow leaves the window that the peer advertised less the transfers under way, and the later of the two numbers of
incoming transfers, if and only if the window covers those transfers, the flow names where it counts from or the session
counted from 0, and the two numbers are in the order of their values. -/
theorem onPeerFlow_exact_iff (w : SessionWindows) (first : UInt32) (flow : Flow) :
    (w.onPeerFlow flow).remoteIncomingWindow.toNat = w.allowed first flow ∧
        (w.onPeerFlow flow).remoteIncomingWindow ≤ flow.incomingWindow ∧
        (w.onPeerFlow flow).nextIncomingId = Serial.later w.nextIncomingId flow.nextOutgoingId ↔
      w.Covered first flow ∧
        (w.nextIncomingId ≤ flow.nextOutgoingId ↔ Serial.ahead w.nextIncomingId flow.nextOutgoingId < 2^31) := by
  constructor
  · rintro ⟨exact_,-,later⟩
    exact ⟨(allowed_iff w first flow).mp exact_,Serial.max_eq_later_iff.mp later⟩
  rintro ⟨covered,order⟩
  have exact_ := (allowed_iff w first flow).mpr covered
  refine ⟨exact_,?_,Serial.max_eq_later_iff.mpr order⟩
  rw [UInt32.le_iff_toNat_le,exact_]
  exact Nat.sub_le ..

/-- Five transfers are under way when the peer, having seen none, lowers its window to two. -/
theorem lowered_window_wraps : Serial.ahead 0 5 ≤ 2^31 - 1 ∧ Serial.remaining 0 2 5 = 0 ∧
    (onPeerFlow ⟨5,9,0,9,9,0,0,true⟩ {nextIncomingId := some 0,incomingWindow := 2}).remoteIncomingWindow = 4294967293 := by
  decide

end SessionWindows

end Ramqp
