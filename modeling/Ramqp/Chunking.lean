import Ramqp.Stall

/-! The frames of one message: a first one with its id, tag and state, and others with a chunk of the body each. -/
namespace Ramqp

open List

section Chunking

def continuation (channel : UInt16) (handle : UInt32) : List Bytes → List Frame
  | [] => []
  | chunk::chunks =>
    ⟨channel,.transfer {handle,more := !chunks.isEmpty},some chunk⟩ :: continuation channel handle chunks

def announcement (handle deliveryId : UInt32) (tag : Bytes) (message : PendingSend) (more : Bool) : Transfer :=
  {handle,deliveryId := some deliveryId,deliveryTag := some tag,messageFormat := some message.messageFormat,
    settled := some message.settled,state := message.state,more}

lemma length_continuation (channel : UInt16) (handle : UInt32) :
    (continuation channel handle chunks).length = chunks.length := by
  induction chunks with
  | nil => rfl
  | cons chunk chunks ih => rw [continuation,length_cons,ih,length_cons]

lemma mem_continuation {channel : UInt16} {handle : UInt32} {frame : Frame}
    (member : frame ∈ continuation channel handle chunks) :
    ∃ more, ∃ chunk ∈ chunks, frame = ⟨channel,.transfer {handle,more},some chunk⟩ := by
  induction chunks with
  | nil => cases member
  | cons chunk chunks ih =>
    rcases mem_cons.mp member with rfl | later
    · exact ⟨_,chunk,mem_cons_self,rfl⟩
    · obtain ⟨more,other,inside,same⟩ := ih later
      exact ⟨more,other,mem_cons_of_mem _ inside,same⟩

variable (channel : UInt16) (handle : UInt32) (first : Transfer) (body : Bytes) {maxPayload : Nat}

lemma take_append_drop_of_le {α : Type} (items : List α) {start stop : Nat} (order : start ≤ stop) :
    (items.drop start).take (stop - start) ++ items.drop stop = items.drop start := by
  have rest : items.drop stop = (items.drop start).drop (stop - start) := by
    rw [drop_drop,Nat.add_sub_of_le order]
  rw [rest,take_append_drop]

lemma sendChunks_next (positive : 1 ≤ maxPayload) {fuel offset : Nat} (enough : body.length - offset ≤ fuel)
    (w : SessionWindows) : ∃ chunks,
      (sendChunks channel first {handle} body maxPayload fuel offset false w).2 = continuation channel handle chunks ∧
      chunks.flatten = body.drop offset ∧ (∀ chunk ∈ chunks, chunk.length ≤ maxPayload) ∧
      (chunks = [] ↔ body.length ≤ offset) := by
  induction fuel generalizing offset w with
  | zero =>
    have done : body.length ≤ offset := by omega
    exact ⟨[],rfl,by rw [drop_of_length_le done]; rfl,by simp,by simp [done]⟩
  | succ fuel ih =>
    unfold sendChunks
    split
    next inside =>
      obtain ⟨chunks,frames,joined,short,finished⟩ :=
        @ih (min (offset + maxPayload) body.length) (by omega) w.recordOutgoing
      refine ⟨(body.drop offset).take (min (offset + maxPayload) body.length - offset) :: chunks,?_,?_,?_,?_⟩
      · have more : (min (offset + maxPayload) body.length != body.length) = !chunks.isEmpty := by
          rw [Bool.eq_iff_iff]
          simp only [bne_iff_ne,ne_eq,Bool.not_eq_true',isEmpty_eq_false_iff,finished]
          omega
        simp only [continuation,frames,more,Bool.false_eq_true,if_false]
      · rw [flatten_cons,joined]
        exact take_append_drop_of_le body (by omega)
      · refine forall_mem_cons.mpr ⟨?_,short⟩
        rw [length_take]
        omega
      · simp only [cons_ne_nil,false_iff]
        omega
    next done =>
      exact ⟨[],rfl,by rw [drop_of_length_le (by omega)]; rfl,by simp,by simp; omega⟩

lemma sendMessageFrames_eq (positive : 1 ≤ maxPayload)
    : ∃ chunk chunks, (sendMessageFrames channel handle deliveryId tag message maxPayload w).2 =
        ⟨channel,.transfer (announcement handle deliveryId tag message !chunks.isEmpty),some chunk⟩ ::
          continuation channel handle chunks ∧
      chunk ++ chunks.flatten = message.body ∧ chunk.length = min message.body.length maxPayload ∧
      ∀ chunk ∈ chunks, chunk.length ≤ maxPayload := by
  unfold sendMessageFrames
  simp only
  split
  next single =>
    exact ⟨message.body,[],rfl,append_nil _,by omega,by simp⟩
  rename_i long
  obtain ⟨fuel,same⟩ : ∃ fuel, message.body.length = fuel + 1 := ⟨message.body.length - 1,by omega⟩
  have stop : min (0 + maxPayload) message.body.length = maxPayload := by omega
  obtain ⟨chunks,frames,joined,short,finished⟩ := @sendChunks_next channel handle
    (announcement handle deliveryId tag message false) message.body maxPayload positive fuel maxPayload (by omega)
    w.recordOutgoing
  have several : chunks.isEmpty = false := isEmpty_eq_false_iff.mpr fun none => long (finished.mp none)
  refine ⟨message.body.take maxPayload,chunks,?_,?_,?_,short⟩
  · rw [same,sendChunks,if_pos (by omega)]
    simp only [stop,several]
    have more : (maxPayload != message.body.length) = true := bne_iff_ne.mpr (by omega)
    exact congrArg₂ List.cons (by simp [announcement,more]) frames
  · rw [joined,take_append_drop]
  · rw [length_take,Nat.min_comm]

lemma count_continuation :
    Window.dataCount ((continuation channel handle chunks).map Frame.item) = chunks.length := by
  induction chunks with
  | nil => rfl
  | cons chunk chunks ih =>
    rw [length_cons,← ih]
    rfl

lemma length_sendMessageFrames (positive : 1 ≤ maxPayload)
    : (sendMessageFrames channel handle deliveryId tag message maxPayload w).2.length =
      frameTotal message.body.length maxPayload := by
  obtain ⟨_,chunks,written,_⟩ := sendMessageFrames_eq channel handle positive
  have counted := sendMessageFrames_count channel handle deliveryId tag message _ w positive
  rw [written,map_cons] at counted
  rw [← counted,written,length_cons,length_continuation]
  change chunks.length + 1 = Window.dataCount ((continuation channel handle chunks).map Frame.item) + 1
  rw [count_continuation]

end Chunking

end Ramqp
