import Ramqp.Semantics.WebSocket

/-! The reads of a byte stream over a WebSocket, against the binary messages that arrive. -/
namespace Ramqp

open List

namespace WsPoll

/-- The binary payloads before the first close or end of the stream. -/
def payload : List WsPoll → Bytes
  | .ready (some (.ok (.binary data)))::rest => data ++ payload rest
  | .ready (some (.ok .close))::_ => []
  | .ready none::_ => []
  | _::rest => payload rest
  | [] => []

def closes : List WsPoll → Bool
  | .ready (some (.ok .close))::_ => true
  | .ready none::_ => true
  | _::rest => closes rest
  | [] => false

/-- The polls before the first close or end of the stream that give no message. -/
def stalls : List WsPoll → Nat
  | .ready (some (.ok .close))::_ => 0
  | .ready none::_ => 0
  | .ready (some (.ok _))::rest => stalls rest
  | _::rest => stalls rest + 1
  | [] => 0

end WsPoll

def Poll.bytes : Poll (Except IoError Bytes) → Bytes
  | .ready (.ok bytes) => bytes
  | _ => []

namespace WsByteStream

open WsPoll

def rest (s : WsByteStream) : Bytes := s.leftover ++ if s.eof then [] else payload s.inner

def owing (s : WsByteStream) : Nat := s.rest.length + if s.eof then 0 else stalls s.inner

def closing (s : WsByteStream) : Bool := s.eof || closes s.inner

structure Reading (s : WsByteStream) (result : Poll (Except IoError Bytes)) (t : WsByteStream) : Prop where
  sound : t.eof = true → t.leftover = []
  bytes : result.bytes ++ t.rest = s.rest
  ends : result = .ready (.ok []) ↔ t.eof = true
  closing : t.closing = s.closing
  owing : t.owing ≤ s.owing - 1
  last : s.owing = 0 → s.closing = true → t.eof = true

variable {s t other : WsByteStream} {result : Poll (Except IoError Bytes)} {remaining : Nat}

lemma Reading.skip (reading : Reading other result t)
    (same : s.rest = other.rest ∧ s.closing = other.closing ∧ s.owing = other.owing) : Reading s result t := by
  obtain ⟨rest,closing,owing⟩ := same
  exact ⟨reading.sound,rest ▸ reading.bytes,reading.ends,closing ▸ reading.closing,owing ▸ reading.owing,
    closing ▸ owing ▸ reading.last⟩

/-- Bytes that are there are returned, as many as the buffer has room for. -/
lemma reading_data (inner : List WsPoll) {data : Bytes} (some_ : data ≠ []) (room : 0 < remaining) :
    Reading ⟨inner,data,false⟩ (.ready (.ok (data.take (min data.length remaining))))
      ⟨inner,data.drop (min data.length remaining),false⟩ := by
  have positive := length_pos_iff.mpr some_
  refine ⟨nofun,?_,?_,rfl,?_,?_⟩
  · simp only [Poll.bytes,rest,← append_assoc,take_append_drop]
  · simp only [Poll.ready.injEq,Except.ok.injEq,Bool.false_eq_true,iff_false,← length_eq_zero_iff,length_take]
    omega
  · simp only [owing,rest,length_append,length_drop]
    omega
  · intro none_
    simp only [owing,rest,length_append] at none_
    omega

lemma pull_reading (s : WsByteStream) (drained : s.leftover = [] ∧ s.eof = false) (room : 0 < remaining)
    (polls : List WsPoll) : Reading (new polls) (s.pull remaining polls).2 (s.pull remaining polls).1 := by
  obtain ⟨inner,leftover,eof⟩ := s
  obtain ⟨rfl,rfl⟩ := drained
  induction polls with
  | nil => exact ⟨nofun,rfl,by simp [pull],rfl,Nat.le_refl 0,nofun⟩
  | cons poll polls ih =>
    match poll with
    | .pending => exact ⟨nofun,rfl,by simp [pull],rfl,Nat.le_refl _,nofun⟩
    | .ready (some (.error _)) => exact ⟨nofun,rfl,by simp [pull],rfl,Nat.le_refl _,nofun⟩
    | .ready none => exact ⟨fun _ => rfl,rfl,by simp [pull],rfl,Nat.le_refl 0,fun _ _ => rfl⟩
    | .ready (some (.ok .close)) => exact ⟨fun _ => rfl,rfl,by simp [pull],rfl,Nat.le_refl 0,fun _ _ => rfl⟩
    | .ready (some (.ok (.ping _))) => exact ih.skip ⟨rfl,rfl,rfl⟩
    | .ready (some (.ok (.pong _))) => exact ih.skip ⟨rfl,rfl,rfl⟩
    | .ready (some (.ok (.text _))) => exact ih.skip ⟨rfl,rfl,rfl⟩
    | .ready (some (.ok .frame)) => exact ih.skip ⟨rfl,rfl,rfl⟩
    | .ready (some (.ok (.binary data))) =>
      cases data with
      | nil => exact ih.skip ⟨rfl,rfl,rfl⟩
      | cons octet octets => exact (reading_data polls (cons_ne_nil octet octets) room).skip ⟨rfl,rfl,rfl⟩

lemma pollRead_reading (s : WsByteStream) (sound : s.eof = true → s.leftover = []) (room : 0 < remaining) :
    Reading s (s.pollRead remaining).2 (s.pollRead remaining).1 := by
  obtain ⟨inner,leftover,eof⟩ := s
  cases leftover with
  | cons octet octets =>
    cases eof with
    | true => exact absurd (sound rfl) (cons_ne_nil octet octets)
    | false => exact reading_data inner (cons_ne_nil octet octets) room
  | nil =>
    cases eof with
    | true => exact ⟨fun _ => rfl,rfl,by simp [pollRead,drainLeftover],rfl,Nat.le_refl 0,fun _ _ => rfl⟩
    | false => exact pull_reading ⟨inner,[],false⟩ ⟨rfl,rfl⟩ room inner

lemma reads_eof (ended : s.eof = true ∧ s.leftover = []) (sizes : List Nat) :
    ∀ result ∈ (s.reads sizes).2, result = .ready (.ok []) := by
  have still : ∀ remaining, s.pollRead remaining = (s,.ready (.ok [])) := by
    intro remaining
    simp [pollRead,drainLeftover,ended]
  induction sizes with
  | nil => exact forall_mem_nil _
  | cons remaining sizes ih =>
    simp only [reads,still]
    exact forall_mem_cons.mpr ⟨rfl,ih⟩

lemma reads_spec (sizes : List Nat) (s : WsByteStream) (sound : s.eof = true → s.leftover = [])
    (room : ∀ size ∈ sizes, 0 < size) :
    (s.reads sizes).2.flatMap Poll.bytes ++ (s.reads sizes).1.rest = s.rest ∧
    (s.owing ≤ sizes.length → (s.reads sizes).1.rest = []) ∧
    (s.closing = true → s.owing < sizes.length → .ready (.ok []) ∈ (s.reads sizes).2) ∧
    ∀ before after, (s.reads sizes).2 = before ++ .ready (.ok [])::after →
      before.flatMap Poll.bytes = s.rest ∧ ∀ result ∈ after, result = .ready (.ok []) := by
  induction sizes generalizing s with
  | nil =>
    refine ⟨rfl,fun none_ => ?_,fun _ less => absurd less (Nat.not_lt_zero _),fun before after parts => ?_⟩
    · exact length_eq_zero_iff.mp (Nat.eq_zero_of_le_zero ((Nat.le_add_right _ _).trans none_))
    · simp [reads] at parts
  | cons remaining sizes ih =>
    obtain ⟨positive,room⟩ := forall_mem_cons.mp room
    have reading := pollRead_reading s sound positive
    simp only [reads]
    generalize s.pollRead remaining = read at reading
    obtain ⟨t,result⟩ := read
    dsimp only at reading ⊢
    obtain ⟨bytes,done,found,zero⟩ := ih t reading.sound room
    have less := reading.owing
    refine ⟨?_,fun few => ?_,fun closing few => ?_,fun before after parts => ?_⟩
    · rw [flatMap_cons,append_assoc,bytes]
      exact reading.bytes
    · rw [length_cons] at few
      exact done (by omega)
    · rw [length_cons] at few
      by_cases none_ : s.owing = 0
      · exact mem_cons.mpr (.inl (reading.ends.mpr (reading.last none_ closing)).symm)
      · exact mem_cons_of_mem _ (found (reading.closing.trans closing) (by omega))
    cases before with
    | nil =>
      obtain ⟨rfl,rfl⟩ := cons.inj parts
      have ended := reading.ends.mp rfl
      have drained := reading.sound ended
      refine ⟨?_,reads_eof ⟨ended,drained⟩ sizes⟩
      rw [← reading.bytes]
      simp [rest,Poll.bytes,ended,drained]
    | cons first before =>
      obtain ⟨rfl,others⟩ := cons.inj parts
      obtain ⟨all,later⟩ := zero before after others
      refine ⟨?_,later⟩
      rw [flatMap_cons,all]
      exact reading.bytes

/-- Whatever arrives, reads with room in their buffers return the binary payloads before the first close or end of the
stream, in order and all of them once there are enough reads. Only then, if a close or the end comes, do they return no
bytes, and all later reads do. -/
theorem reads_return_payload (polls : List WsPoll) (sizes : List Nat) (room : ∀ size ∈ sizes, 0 < size) :
    ((new polls).reads sizes).2.flatMap Poll.bytes <+: payload polls ∧
    ((payload polls).length + stalls polls ≤ sizes.length →
      ((new polls).reads sizes).2.flatMap Poll.bytes = payload polls) ∧
    (closes polls = true → (payload polls).length + stalls polls < sizes.length →
      .ready (.ok []) ∈ ((new polls).reads sizes).2) ∧
    ∀ before after, ((new polls).reads sizes).2 = before ++ .ready (.ok [])::after →
      before.flatMap Poll.bytes = payload polls ∧ ∀ result ∈ after, result = .ready (.ok []) := by
  obtain ⟨bytes,done,found,zero⟩ := reads_spec sizes (new polls) nofun room
  refine ⟨⟨_,bytes⟩,fun few => ?_,found,zero⟩
  rw [done few,append_nil] at bytes
  exact bytes

def arrivals : List WsPoll :=
  [.ready (some (.ok (.binary [1,2,3]))),.pending,.ready (some (.ok (.ping [9]))),.ready (some (.ok (.binary []))),
    .ready (some (.ok (.binary [4]))),.ready (some (.ok .close)),.ready (some (.ok (.binary [5])))]

theorem reads_return_payload_closed : ((new arrivals).reads [2,2,1,7,7,7]).2 =
      [.ready (.ok [1,2]),.ready (.ok [3]),.pending,.ready (.ok [4]),.ready (.ok []),.ready (.ok [])] ∧
    ((new arrivals).reads [2,2,1,7,7,7]).2.flatMap Poll.bytes = payload arrivals := by
  have read := reads_return_payload arrivals [2,2,1,7,7,7] (by decide)
  exact ⟨by decide,read.2.1 (by decide)⟩

end WsByteStream

end Ramqp
