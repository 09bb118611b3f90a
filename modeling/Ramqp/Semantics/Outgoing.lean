import Ramqp.Semantics.Framing
import Ramqp.Semantics.Session

/-! Transfers as the session hands them to the transport. A session never looks into a delivery state, so the
state its model carries stands for any state of the wire. -/
namespace Ramqp.Wire

def transactionalState (txnId : Bytes) (outcome : Option Outcome) : Option DeliveryState :=
  match (decode : Decoder Value) (TransactionalState.composite.write ⟨txnId,outcome⟩ []) with
  | .ok (value,_) => some (.other value)
  | .error _ => none

def Transfer.ofSession (meaning : Ramqp.DeliveryState → DeliveryState) (t : Ramqp.Transfer) : Transfer where
  handle := t.handle
  deliveryId := t.deliveryId
  deliveryTag := t.deliveryTag
  messageFormat := t.messageFormat
  settled := t.settled
  more := t.more
  rcvSettleMode := none
  state := t.state.map meaning
  resume := false
  aborted := t.aborted
  batchable := false

/-- The octets of a transfer frame; a large payload is written after the rest, to the same effect. -/
def transferOctets (meaning : Ramqp.DeliveryState → DeliveryState) (channel : UInt16) (t : Ramqp.Transfer)
    (payload : Option Bytes) : Bytes :=
  encodeAmqpFrame channel (.transfer (.ofSession meaning t)) payload []

end Ramqp.Wire
