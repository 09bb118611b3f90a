import Ramqp.Frames
import Ramqp.Semantics.Outgoing
import Ramqp.Chunking

/-! How long the frames of a message are, and how many. -/
namespace Ramqp.Wire

open List

section Lengths

lemma present_of_last {blocks : List Bytes} {block : Bytes} (solid : block ≠ [FormatCode.null.octet]) :
    present (blocks ++ [block]) = blocks ++ [block] :=
  rdropWhile_concat_neg _ _ _ (by simpa using solid)

lemma length_listed_eq {σ : Type} (c : Composite σ) (count : Nat) (content : Bytes) :
    (c.listed count content).length = 10 + (encodeDescriptor c.descriptor).length + content.length := by
  simp only [Composite.listed,framed,coded,length_cons,length_append,BigEndian.length_encode]
  omega

lemma toVec_transfer (t : Transfer) : toVec (Performative.transfer t) = Transfer.composite.write t [] := rfl

lemma length_bool (b : Bool) : (toVec b).length = 1 := by cases b <;> rfl

lemma length_u32 (n : UInt32) : (toVec n).length ≤ 5 := by
  rcases toVec_uint n with ⟨_,written⟩ | ⟨_,written⟩ | ⟨_,written⟩ <;>
    exact (congrArg length written).trans_le (by simp [coded])

lemma length_transfer (t : Transfer) : (toVec (Performative.transfer t)).length =
    16 + (toVec t.handle).length + (toVec t.deliveryId).length + (toVec t.deliveryTag).length +
      (toVec t.messageFormat).length + (toVec t.settled).length + (toVec t.rcvSettleMode).length +
      (toVec t.state).length := by
  have blocks : Transfer.composite.fields.blocks (Transfer.composite.parts t) = [toVec t.handle,toVec t.deliveryId,
    toVec t.deliveryTag,toVec t.messageFormat,toVec t.settled,toVec t.more,toVec t.rcvSettleMode,toVec t.state,
    toVec t.resume,toVec t.aborted] ++ [toVec t.batchable] := rfl
  have descriptor : (encodeDescriptor Transfer.composite.descriptor).length = 2 := rfl
  rw [toVec_transfer,Composite.write_listed,blocks,present_of_last (carried_bool t.batchable).solid,length_listed_eq,
    descriptor]
  simp only [cons_append,nil_append,flatten_cons,flatten_nil,length_append,length_bool,length_nil]
  omega

lemma length_write (sent : Sent) : (sent.write []).length = 8 + sent.body.length := by
  rw [Sent.write_eq,nil_append,Sent.octets,length_frameOctets]

lemma length_transferOctets (meaning : Ramqp.DeliveryState → DeliveryState) (channel : UInt16) (t : Ramqp.Transfer)
    (payload : Option Bytes) : (transferOctets meaning channel t payload).length =
      8 + (toVec (Performative.transfer (.ofSession meaning t))).length + (payload.getD []).length := by
  refine (length_write (.amqp channel (.transfer (.ofSession meaning t)) payload)).trans ?_
  rw [Sent.body,length_append,Nat.add_assoc]

end Lengths

section Performatives

variable (p : Performative)

def Performative.blocks : Performative → List Bytes
  | open_ p => Open.composite.fields.blocks (Open.composite.parts p)
  | begin_ p => Begin.composite.fields.blocks (Begin.composite.parts p)
  | attach p => Attach.composite.fields.blocks (Attach.composite.parts p)
  | flow p => Flow.composite.fields.blocks (Flow.composite.parts p)
  | transfer p => Transfer.composite.fields.blocks (Transfer.composite.parts p)
  | disposition p => Disposition.composite.fields.blocks (Disposition.composite.parts p)
  | detach p => Detach.composite.fields.blocks (Detach.composite.parts p)
  | end_ p => End.composite.fields.blocks (End.composite.parts p)
  | close p => Close.composite.fields.blocks (Close.composite.parts p)

/-- The fields of a performative that are neither numbers nor flags, as they are encoded. -/
def Performative.varying : Performative → List Bytes
  | open_ p => [toVec p.containerId,toVec p.hostname,FieldKind.symbols.block p.outgoingLocales,
      FieldKind.symbols.block p.incomingLocales,FieldKind.symbols.block p.offeredCapabilities,
      FieldKind.symbols.block p.desiredCapabilities,toVec p.properties]
  | begin_ p => [FieldKind.symbols.block p.offeredCapabilities,FieldKind.symbols.block p.desiredCapabilities,
      toVec p.properties]
  | attach p => [toVec p.name,toVec p.source,toVec p.target,toVec p.unsettled,
      FieldKind.symbols.block p.offeredCapabilities,FieldKind.symbols.block p.desiredCapabilities,toVec p.properties]
  | flow p => [toVec p.properties]
  | transfer p => [toVec p.deliveryTag,toVec p.state]
  | disposition p => [toVec p.state]
  | detach p => [toVec p.error]
  | end_ p => [toVec p.error]
  | close p => [toVec p.error]

lemma length_optional {α : Type} [Encode α] {n : Nat} (positive : 0 < n) (bounded : ∀ x : α, (toVec x).length ≤ n)
    (x : Option α) : (toVec x).length ≤ n := by
  cases x with
  | none => exact positive
  | some x => exact bounded x

lemma length_u16 (n : UInt16) : (toVec n).length = 3 := rfl

lemma length_u64 (n : UInt64) : (toVec n).length ≤ 9 := by
  rcases toVec_ulong n with ⟨_,written⟩ | ⟨_,written⟩ | ⟨_,written⟩ <;>
    exact (congrArg length written).trans_le (by simp [coded])

lemma length_role (role : Role) : (toVec role).length = 1 := length_bool _

lemma length_senderMode (mode : SenderSettleMode) : (toVec mode).length = 2 := rfl

lemma length_receiverMode (mode : ReceiverSettleMode) : (toVec mode).length = 2 := rfl

lemma length_blocks : p.blocks.flatten.length ≤ 42 + p.varying.flatten.length := by
  have numbers := length_optional (by decide) length_u32
  have longs := length_optional (by decide) length_u64
  have shorts := length_optional (by decide) fun n => (length_u16 n).le
  have flags := length_optional (by decide) fun b => (length_bool b).le
  have modes := length_optional (by decide) fun mode => (length_receiverMode mode).le
  cases p <;>
    simp only [Performative.blocks,Performative.varying,Open.composite,Begin.composite,Attach.composite,Flow.composite,
      Transfer.composite,Disposition.composite,Detach.composite,End.composite,Close.composite,FieldList.blocks,
      FieldKind.block,flatten_cons,length_append] <;>
    grind only [length_u32,length_u16,length_role,length_senderMode,length_receiverMode,length_bool]

lemma length_performative : (toVec p).length ≤ 54 + p.varying.flatten.length := by
  have written : (toVec p).length = 12 + (present p.blocks).flatten.length := by
    cases p <;> exact (congrArg length (Composite.write_listed _)).trans (length_listed_eq ..)
  obtain ⟨elided,same,_⟩ := present_append p.blocks
  have total := congrArg (·.flatten.length) same
  have bounded := length_blocks p
  simp only [flatten_append,length_append] at total
  omega

end Performatives

section Sizes

def stateLength (meaning : Ramqp.DeliveryState → DeliveryState) (message : PendingSend) : Nat :=
  (toVec (message.state.map meaning)).length

/-- The state fits beside the other fields of the transfer and the first chunk of the body. -/
def StateFits (meaning : Ramqp.DeliveryState → DeliveryState) (maxFrameSize : Nat) (handle deliveryId : UInt32)
    (message : PendingSend) : Prop :=
  36 + (toVec handle).length + (toVec deliveryId).length + (toVec message.messageFormat).length +
    stateLength meaning message + min message.body.length (maxPayloadPerFrame maxFrameSize) ≤ maxFrameSize

variable (meaning : Ramqp.DeliveryState → DeliveryState) (channel : UInt16) (handle deliveryId : UInt32)
  (sender : SenderLink) (message : PendingSend)

lemma length_first (more : Bool) (payload : Bytes) : (transferOctets meaning channel
    (announcement handle deliveryId sender.deliveryTag message more) (some payload)).length = 36 + (toVec handle).length + (toVec deliveryId).length +
      (toVec message.messageFormat).length + stateLength meaning message + payload.length := by
  have settled : (toVec (some message.settled)).length = 1 := length_bool message.settled
  have tag : (toVec (some sender.deliveryTag)).length = 10 := rfl
  rw [length_transferOctets,length_transfer]
  simp only [Transfer.ofSession,announcement,settled,tag,Option.getD_some]
  have mode : (toVec (none : Option ReceiverSettleMode)).length = 1 := rfl
  have id : (toVec (some deliveryId)).length = (toVec deliveryId).length := rfl
  have format : (toVec (some message.messageFormat)).length = (toVec message.messageFormat).length := rfl
  rw [mode,id,format,stateLength]
  omega

lemma length_next (more : Bool) (payload : Bytes) :
    (transferOctets meaning channel {handle,more} (some payload)).length ≤ 35 + payload.length := by
  have small := length_u32 handle
  rw [length_transferOctets,length_transfer]
  simp only [Transfer.ofSession,Option.map_none,Option.getD_some]
  have null {α : Type} [Encode α] : (toVec (none : Option α)).length = 1 := rfl
  simp only [null]
  omega

lemma frames_fit {maxFrameSize : Nat} (large : 512 ≤ maxFrameSize) (w : SessionWindows)
    (room : StateFits meaning maxFrameSize handle deliveryId message) :
    ∀ frame ∈ (sendMessageFrames channel handle deliveryId sender.deliveryTag message
        (maxPayloadPerFrame maxFrameSize) w).2, ∃ t, frame.performative = .transfer t ∧
      (transferOctets meaning frame.channel t frame.payload).length ≤ maxFrameSize := by
  have payload : maxPayloadPerFrame maxFrameSize = maxFrameSize - 80 := by
    unfold maxPayloadPerFrame
    omega
  obtain ⟨chunk,chunks,written,_,filled,short⟩ := sendMessageFrames_eq channel handle (Session.one_le_maxPayloadPerFrame maxFrameSize)
  have first := length_first meaning channel handle deliveryId sender message (!chunks.isEmpty) chunk
  rw [filled] at first
  rw [written]
  refine forall_mem_cons.mpr ⟨⟨_,rfl,first.trans_le room⟩,fun frame member => ?_⟩
  obtain ⟨more,next,inside,rfl⟩ := mem_continuation member
  have small := short next inside
  exact ⟨_,rfl,(length_next meaning channel handle more next).trans (by omega)⟩

/-- Every frame of a message keeps to the negotiated size, and there are as many as were counted against the window,
exactly when the state leaves room for the first chunk and the count does not wrap. -/
theorem frame_sizes (maxFrameSize : Nat) (large : 512 ≤ maxFrameSize) (w : SessionWindows) :
    let frames :=
      (sendMessageFrames channel handle deliveryId sender.deliveryTag message (maxPayloadPerFrame maxFrameSize) w).2
    ((∀ frame ∈ frames, ∃ t, frame.performative = .transfer t ∧
        (transferOctets meaning frame.channel t frame.payload).length ≤ maxFrameSize) ∧
      frames.length = (frameCount message.body.length (maxPayloadPerFrame maxFrameSize)).toNat) ↔
    StateFits meaning maxFrameSize handle deliveryId message ∧
      frameTotal message.body.length (maxPayloadPerFrame maxFrameSize) < 2^32 := by
  intro frames
  obtain ⟨chunk,chunks,written,_,filled,-⟩ := sendMessageFrames_eq channel handle (Session.one_le_maxPayloadPerFrame maxFrameSize)
  have total : frames.length = frameTotal message.body.length (maxPayloadPerFrame maxFrameSize) :=
    length_sendMessageFrames channel handle (Session.one_le_maxPayloadPerFrame maxFrameSize)
  have first := length_first meaning channel handle deliveryId sender message (!chunks.isEmpty) chunk
  rw [filled] at first
  have size : (frameCount message.body.length (maxPayloadPerFrame maxFrameSize)).toNat =
      frameTotal message.body.length (maxPayloadPerFrame maxFrameSize) % 2^32 := UInt32.toNat_ofNat'
  rw [total,size]
  constructor
  · rintro ⟨each,count⟩
    refine ⟨?_,by omega⟩
    obtain ⟨_,⟨⟩,fits⟩ := each _ (written ▸ mem_cons_self)
    exact first.symm.trans_le fits
  · rintro ⟨room,below⟩
    exact ⟨frames_fit meaning channel handle deliveryId sender message large w room,(Nat.mod_eq_of_lt below).symm⟩

end Sizes

section Transactional

theorem frame_sizes_plain :
    let sender := SenderLink.new 0 "l" 0 0 .mixed .manual
    let message : PendingSend := ⟨replicate 600 7,false,0,none,none⟩
    ∀ frame ∈ (sendMessageFrames 1 0 0 sender.deliveryTag message (maxPayloadPerFrame 512)
        (.new ⟨10,10,7⟩)).2,
      ∃ t, frame.performative = .transfer t ∧
        (transferOctets (fun _ => .accepted ⟨⟩) frame.channel t frame.payload).length ≤ 512 := by
  intro sender message
  have fits : StateFits (fun _ => .accepted ⟨⟩) 512 0 0 message := by
    unfold StateFits
    decide +kernel
  exact ((frame_sizes _ 1 0 0 sender message 512 (le_refl _) _).mpr ⟨fits,by decide +kernel⟩).1

set_option maxRecDepth 4096 in
/-- A transaction id of 32 octets makes the first frame of a message of 432 octets 517 octets long, although 512
were agreed upon. -/
theorem transactional_frame_too_long :
    let value := Value.described (.ulong 0x34) (.list [.binary (replicate 32 7)])
    let sender := SenderLink.new 0 "l" 0 0 .mixed .manual
    let message : PendingSend := ⟨replicate 432 7,false,0,some (.other []),none⟩
    (∃ state, transactionalState (replicate 32 7) none = some state ∧ state = .other value) ∧
    ∃ t payload, (sendMessageFrames 1 0 0 sender.deliveryTag message (maxPayloadPerFrame 512) (.new ⟨10,10,7⟩)).2 =
        [⟨1,.transfer t,some payload⟩] ∧
      (transferOctets (fun _ => .other value) 1 t (some payload)).length = 517 :=
  ⟨⟨_,rfl,rfl⟩,announcement 0 0 _ _ false,_,rfl,by decide +kernel⟩

end Transactional

end Ramqp.Wire
