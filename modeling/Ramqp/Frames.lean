import Ramqp.Performatives
import Ramqp.Semantics.Framing

/-! However the octets of a sequence of frames are cut into chunks, the decoder yields these frames in order. -/
namespace Ramqp.Wire

open List BigEndian Wire.Sent Reading

open Parser (Reads)

section Whole

def frameOctets (type : UInt8) (channel : UInt16) (body : Bytes) : Bytes :=
  be 4 (8 + body.length) ++ [2] ++ [type] ++ be 2 channel.toNat ++ body

lemma length_frameOctets (type : UInt8) (channel : UInt16) (body : Bytes) :
    (frameOctets type channel body).length = 8 + body.length := by
  simp [frameOctets]
  omega

lemma encodeHeader_eq {type : UInt8} {channel : UInt16} {write : Bytes → Bytes} {content after : Bytes}
    (appends : ∀ buf, write buf = buf ++ content) (buf : Bytes) :
    encodeHeader type channel write after.length buf ++ after = buf ++ frameOctets type channel (content ++ after) := by
  simp only [encodeHeader,appends,append_assoc]
  rw [patch_append (by simp)]
  have size : (buf ++ (be 4 0 ++ ([2] ++ ([type] ++ (be 2 channel.toNat ++ content))))).length - buf.length + after.length =
      8 + (content ++ after).length := by
    simp only [length_append,length_encode,length_singleton]
    omega
  rw [size]
  simp [frameOctets]

namespace Sent

def type : Sent → UInt8
  | sasl _ => frameTypeSasl
  | _ => frameTypeAmqp

def body : Sent → Bytes
  | amqp _ performative payload => toVec performative ++ payload.getD []
  | sasl frame => toVec frame
  | empty _ => []

def octets (sent : Sent) : Bytes := frameOctets sent.type sent.frame.channel sent.body

lemma write_eq (sent : Sent) (buf : Bytes) : sent.write buf = buf ++ sent.octets := by
  cases sent with
  | amqp channel performative payload => cases payload with
    | none =>
      have written := @encodeHeader_eq frameTypeAmqp channel _ _ [] (encode_eq performative) buf
      rw [append_nil] at written
      exact written
    | some => exact encodeHeader_eq (encode_eq performative) buf
  | sasl frame =>
    have written := @encodeHeader_eq frameTypeSasl 0 _ _ [] (encode_eq frame) buf
    rw [append_nil,append_nil] at written
    exact written
  | empty =>
    simp [write,encodeEmptyFrame,octets,frameOctets,type,frame,body]

def Sound : Sent → Prop
  | amqp _ performative _ => RoundTrips performative
  | _ => True

end Sent

lemma writeAll_eq (sent : List Sent) : writeAll sent = (sent.map Sent.octets).flatten := by
  have start (buf : Bytes) : sent.foldl (fun buf frame => frame.write buf) buf = buf ++ (sent.map octets).flatten := by
    induction sent generalizing buf with
    | nil => simp
    | cons frame rest ih => rw [foldl_cons,ih,write_eq,map_cons,flatten_cons,append_assoc]
  exact start []

lemma decodeBody_eq {sent : Sent} (sound : sent.Sound) (small : sent.octets.length < 2^32) :
    decodeBody sent.type sent.body = .ok sent.frame.body := by
  rw [octets,length_frameOctets] at small
  cases sent with
  | amqp channel performative payload =>
    simp only [body,length_append] at small
    have filled : (toVec performative ++ payload.getD []).isEmpty = false := by
      obtain ⟨_,written⟩ := performative.written
      rw [written]
      rfl
    have read := sound (by omega) (payload.getD [])
    change decodeAmqpBody (toVec performative ++ payload.getD []) = _
    rw [decodeAmqpBody,filled,read]
    cases payload with
    | none => rfl
    | some p => cases p <;> rfl
  | sasl frame =>
    have read := ((SaslFrame.survives frame).1 (Nat.lt_of_le_of_lt (Nat.le_add_left _ 8) small)).alone
    simp only [decodeBody,type,body,read]
    rfl
  | empty => rfl

lemma frameOctets_eq (type : UInt8) (channel : UInt16) (body : Bytes) : ∃ a b c d e f,
    be 4 (8 + body.length) = [a,b,c,d] ∧ be 2 channel.toNat = [e,f] ∧
      frameOctets type channel body = a::b::c::d::2::type::e::f::body := ⟨_,_,_,_,_,_,rfl,rfl,rfl⟩

variable {sent : Sent} (sound : sent.Sound) {max : UInt32} (fits : sent.octets.length ≤ max.toNat)

include sound fits in
lemma decodeWhole_eq : decodeWhole sent.octets = .ok sent.frame := by
  have body := decodeBody_eq sound (fits.trans_lt max.toNat_lt)
  obtain ⟨a,b,c,d,e,f,_,channel,written⟩ := frameOctets_eq sent.type sent.frame.channel sent.body
  have channel : UInt16.ofNat (BigEndian.decode [e,f]) = sent.frame.channel := by
    rw [← channel,decode_encode_of_lt sent.frame.channel.toNat_lt,UInt16.ofNat_toNat]
  have long : ¬(8 < frameHeaderLen ∨ (frameOctets sent.type sent.frame.channel sent.body).length < 8) := by
    rw [length_frameOctets,frameHeaderLen]
    omega
  rw [octets,decodeWhole]
  simp only [written] at long ⊢
  refine (if_neg long).trans ((if_neg (Nat.not_lt.mpr (Nat.zero_le _))).trans ?_)
  erw [body,channel]

lemma size_eq (small : sent.octets.length < 2^32) (rest : Bytes) :
    BigEndian.decode ((sent.octets ++ rest).take 4) = sent.octets.length := by
  obtain ⟨a,b,c,d,_,_,size,_,written⟩ := frameOctets_eq sent.type sent.frame.channel sent.body
  rw [octets,length_frameOctets] at small
  rw [octets,length_frameOctets,written]
  change BigEndian.decode [a,b,c,d] = _
  rw [← size,decode_encode_of_lt small]

include fits in
lemma decodeFrame_incomplete {received missing : Bytes} (cut : sent.octets = received ++ missing) (short : missing ≠ []) :
    decodeFrame max.toNat received = (.ok none,received) := by
  have more := length_pos_of_ne_nil short
  have total : sent.octets.length = received.length + missing.length := by rw [cut,length_append]
  have header : 8 ≤ sent.octets.length := by
    rw [Sent.octets,length_frameOctets]
    omega
  unfold decodeFrame
  split_ifs with few
  · rfl
  have size : BigEndian.decode (received.take 4) = sent.octets.length := by
    rw [← size_eq (fits.trans_lt max.toNat_lt) [],append_nil,cut,
      take_append_of_le_length ((by decide : 4 ≤ 8).trans (Nat.not_lt.mp few))]
  simp only [size]
  rw [if_neg (by rw [frameHeaderLen]; omega),if_neg (Nat.not_lt.mpr fits),if_pos (by omega)]

include sound fits in
lemma decodeFrame_complete (rest : Bytes) :
    decodeFrame max.toNat (sent.octets ++ rest) = (.ok (some sent.frame),rest) := by
  have header : 8 ≤ sent.octets.length := by
    rw [octets,length_frameOctets]
    omega
  have enough : sent.octets.length ≤ (sent.octets ++ rest).length := by simp
  unfold decodeFrame
  simp only [size_eq (fits.trans_lt max.toNat_lt) rest]
  rw [if_neg (by rw [frameHeaderLen]; omega),if_neg (by rw [frameHeaderLen]; omega),if_neg (Nat.not_lt.mpr fits),
    if_neg (Nat.not_lt.mpr enough),take_left,drop_left,decodeWhole_eq sound fits]
  rfl

end Whole

section Reading

variable {frames : List Sent} {max : UInt32} (sound : ∀ sent ∈ frames, sent.Sound)
  (fit : ∀ sent ∈ frames, sent.octets.length ≤ max.toNat)

variable {ahead : Bytes} {r : Reading}

include sound fit in
lemma decodeFrame_cases {buffer : Bytes} (part : buffer ++ ahead = (frames.map Sent.octets).flatten) :
    (decodeFrame max.toNat buffer = (.ok none,buffer) ∧ (ahead = [] → frames = [])) ∨
    ∃ sent rest left, frames = sent::rest ∧ left ++ ahead = (rest.map Sent.octets).flatten ∧
      buffer = sent.octets ++ left ∧ decodeFrame max.toNat buffer = (.ok (some sent.frame),left) := by
  cases frames with
  | nil =>
    obtain ⟨rfl,rfl⟩ := append_eq_nil_iff.mp part
    exact .inl ⟨rfl,fun _ => rfl⟩
  | cons sent rest =>
    rw [map_cons,flatten_cons] at part
    have first := fit sent mem_cons_self
    by_cases whole : sent.octets <+: buffer
    · obtain ⟨left,rfl⟩ := whole
      rw [append_assoc] at part
      exact .inr ⟨sent,rest,left,rfl,append_cancel_left part,rfl,
        decodeFrame_complete (sound sent mem_cons_self) first left⟩
    have either := prefix_or_prefix_of_prefix ⟨ahead,part⟩ ⟨_,rfl⟩
    obtain ⟨missing,cut⟩ := either.resolve_right whole
    have short : missing ≠ [] := by
      rintro rfl
      exact whole ⟨[],by rw [← cut,append_nil,append_nil]⟩
    refine .inl ⟨decodeFrame_incomplete first cut.symm short,?_⟩
    rintro rfl
    rw [append_nil] at part
    exact absurd ⟨_,part.symm⟩ whole

structure Follows (frames : List Sent) (ahead : Bytes) (r : Reading) : Prop where
  clean : r.errors = []
  split : ∃ done left, frames = done ++ left ∧ r.frames = done.map Sent.frame ∧
    r.buffer ++ ahead = (left.map Sent.octets).flatten

lemma follows_append {chunk : Bytes} (follows : Follows frames (chunk ++ ahead) r) :
    Follows frames ahead (r.turn max.toNat (.append chunk)) := by
  obtain ⟨clean,done,left,same,out,rest⟩ := follows
  exact ⟨clean,done,left,same,out,by rw [← rest]; exact append_assoc ..⟩

include sound fit

lemma follows_decode (follows : Follows frames ahead r) : Follows frames ahead (r.turn max.toNat .decode) := by
  obtain ⟨clean,done,left,rfl,out,rest⟩ := follows
  have sound : ∀ sent ∈ left, sent.Sound := fun sent member => sound sent (mem_append_right _ member)
  have fit : ∀ sent ∈ left, sent.octets.length ≤ max.toNat := fun sent member => fit sent (mem_append_right _ member)
  rcases decodeFrame_cases sound fit rest with ⟨waits,_⟩ | ⟨sent,later,buffer,rfl,remaining,_,yields⟩
  · simp only [turn,waits]
    exact ⟨clean,done,left,rfl,out,rest⟩
  simp only [turn,yields]
  refine ⟨clean,done ++ [sent],later,by simp,?_,remaining⟩
  rw [map_append,out]
  rfl

lemma follows_turns {turns : List Turn} (follows : Follows frames (arrived turns ++ ahead) r) :
    Follows frames ahead (turns.foldl (Reading.turn max.toNat) r) := by
  induction turns generalizing r with
  | nil => exact follows
  | cons turn turns ih =>
    rw [foldl_cons]
    cases turn with
    | append =>
      rw [arrived,append_assoc] at follows
      exact ih (follows_append follows)
    | decode => exact ih (follows_decode sound fit follows)

lemma drained (follows : Follows frames [] r) {n : Nat} (enough : frames.length ≤ r.frames.length + n) :
    (List.replicate n Turn.decode).foldl (Reading.turn max.toNat) r = ⟨[],frames.map Sent.frame,[]⟩ := by
  induction n generalizing r with
  | zero =>
    obtain ⟨clean,done,left,rfl,out,rest⟩ := follows
    rw [out,length_append,length_map] at enough
    obtain rfl : left = [] := eq_nil_of_length_eq_zero (by omega)
    obtain ⟨_,_⟩ := r
    simp only [append_nil,map_nil,flatten_nil] at clean out rest
    subst clean out rest
    simp
  | succ n ih =>
    refine ih (follows_decode sound fit follows) ?_
    obtain ⟨clean,done,left,rfl,out,rest⟩ := follows
    have sound : ∀ sent ∈ left, sent.Sound := fun sent member => sound sent (mem_append_right _ member)
    have fit : ∀ sent ∈ left, sent.octets.length ≤ max.toNat := fun sent member =>
      fit sent (mem_append_right _ member)
    rcases decodeFrame_cases sound fit rest with ⟨waits,finished⟩ | ⟨sent,later,buffer,rfl,remaining,_,yields⟩
    · obtain rfl := finished rfl
      simp only [turn,waits,out,append_nil,length_map]
      omega
    · simp only [turn,yields,length_append,length_singleton] at enough ⊢
      omega

lemma readFrame_next {first : Sent} {rest : List Sent} (same : frames = first::rest) {stream : List Bytes}
    {buf : Bytes} (filled : ∀ chunk ∈ stream, chunk ≠ [])
    (holds : buf ++ stream.flatten = (frames.map Sent.octets).flatten) :
    ∃ left later, readFrame max.toNat stream buf = (.ok first.frame,left,later) ∧ (∀ chunk ∈ later, chunk ≠ []) ∧
      left ++ later.flatten = (rest.map Sent.octets).flatten := by
  induction stream generalizing buf with
  | nil =>
    rcases decodeFrame_cases sound fit holds with ⟨_,finished⟩ | ⟨sent,others,left,split,remaining,_,yields⟩
    · cases same.symm.trans (finished rfl)
    · obtain ⟨rfl,rfl⟩ := cons.inj (same.symm.trans split)
      exact ⟨left,[],by simp only [readFrame,yields],filled,remaining⟩
  | cons chunk stream ih =>
    rcases decodeFrame_cases sound fit holds with ⟨waits,_⟩ | ⟨sent,others,left,split,remaining,_,yields⟩
    · have more : chunk.isEmpty = false := isEmpty_eq_false_iff.mpr (filled chunk mem_cons_self)
      obtain ⟨left,later,next⟩ := @ih (buf ++ chunk) (fun c member => filled c (mem_cons_of_mem _ member))
        (by rw [← holds,flatten_cons,append_assoc])
      refine ⟨left,later,?_,next.2⟩
      simp only [readFrame,waits,more]
      exact next.1
    · obtain ⟨rfl,rfl⟩ := cons.inj (same.symm.trans split)
      exact ⟨left,chunk::stream,by simp only [readFrame,yields],filled,remaining⟩

end Reading

section Frames

lemma readFrames_all {frames : List Sent} {max : UInt32} (sound : ∀ sent ∈ frames, sent.Sound)
    (fit : ∀ sent ∈ frames, sent.octets.length ≤ max.toNat) {stream : List Bytes} {buf : Bytes}
    (filled : ∀ chunk ∈ stream, chunk ≠ []) (holds : buf ++ stream.flatten = (frames.map Sent.octets).flatten) :
    readFrames max.toNat frames.length stream buf = (.ok (frames.map Sent.frame),[],[]) := by
  induction frames generalizing stream buf with
  | nil =>
    obtain ⟨rfl,none⟩ := append_eq_nil_iff.mp holds
    cases stream with
    | nil => rfl
    | cons chunk =>
      exact absurd (append_eq_nil_iff.mp (flatten_cons ▸ none)).1 (filled chunk mem_cons_self)
  | cons first rest ih =>
    obtain ⟨_,_,next,full,remaining⟩ := readFrame_next sound fit rfl filled holds
    have others := ih (fun sent member => sound sent (mem_cons_of_mem _ member))
      (fun sent member => fit sent (mem_cons_of_mem _ member)) full remaining
    simp only [length_cons,readFrames,next,others,map_cons]

/-- The frames written by a peer come out of the decoder, whatever the chunks and whenever it is called; a part of a
frame stays in the buffer; and the read loop of the transport reads one frame after the other. -/
theorem frames_decoded (frames : List Sent) (max : UInt32) (sound : ∀ sent ∈ frames, sent.Sound)
    (fit : ∀ sent ∈ frames, (sent.write []).length ≤ max.toNat) :
    (∀ turns ahead, arrived turns ++ ahead = writeAll frames → (Reading.run max.toNat turns).errors = [] ∧
      (Reading.run max.toNat turns).frames <+: frames.map Sent.frame) ∧
    (∀ turns, arrived turns = writeAll frames →
      Reading.run max.toNat (turns ++ List.replicate frames.length .decode) = ⟨[],frames.map Sent.frame,[]⟩) ∧
    (∀ sent ∈ frames, ∀ received missing, sent.write [] = received ++ missing → missing ≠ [] →
      decodeFrame max.toNat received = (.ok none,received)) ∧
    ∀ stream : List Bytes, (∀ chunk ∈ stream, chunk ≠ []) → stream.flatten = writeAll frames →
      readFrames max.toNat frames.length stream [] = (.ok (frames.map Sent.frame),[],[]) := by
  simp only [write_eq,nil_append,writeAll_eq] at fit ⊢
  have start {turns : List Turn} {ahead : Bytes} (cut : arrived turns ++ ahead = (frames.map octets).flatten) :
      Follows frames (arrived turns ++ ahead) ⟨[],[],[]⟩ := ⟨rfl,[],frames,rfl,rfl,cut⟩
  refine ⟨?_,?_,?_,?_⟩
  · intro turns ahead cut
    obtain ⟨clean,_,_,rfl,out,_⟩ := follows_turns sound fit (start cut)
    refine ⟨clean,?_⟩
    rw [run,out,map_append]
    exact ⟨_,rfl⟩
  · intro turns whole
    have cut : arrived turns ++ [] = (frames.map octets).flatten := by rw [append_nil,whole]
    rw [run,foldl_append]
    exact drained sound fit (follows_turns sound fit (start cut)) (Nat.le_add_left ..)
  · intro sent member received missing cut short
    exact decodeFrame_incomplete (fit sent member) cut short
  · intro stream filled whole
    exact readFrames_all sound fit filled whole

/-- A heartbeat and a frame with a payload, arriving in three pieces of which one ends within a header. -/
theorem frames_decoded_heartbeat :
    let frames := [Sent.empty 0,.amqp 3 (.end_ ⟨none⟩) (some [1,2])]
    let octets := writeAll frames
    (∀ sent ∈ frames, sent.Sound) ∧ (∀ sent ∈ frames, (sent.write []).length ≤ (512 : UInt32).toNat) ∧
      Reading.run 512 [.append (octets.take 5),.decode,.append ((octets.drop 5).take 4),.decode,
        .append (octets.drop 9),.decode,.decode] = ⟨[],[⟨0,.empty⟩,⟨3,.amqp (.end_ ⟨none⟩) (some [1,2])⟩],[]⟩ := by
  intro frames octets
  have sound : ∀ sent ∈ frames, sent.Sound := by
    simp only [frames,forall_mem_cons,Sent.Sound,true_and]
    exact ⟨(Performative.survives (x := .end_ ⟨none⟩) fun _ absent => by cases absent).1,forall_mem_nil _⟩
  have fit : ∀ sent ∈ frames, (sent.write []).length ≤ (512 : UInt32).toNat := by decide +kernel
  exact ⟨sound,fit,(frames_decoded frames 512 sound fit).2.1 [.append (octets.take 5),.decode,
    .append ((octets.drop 5).take 4),.decode,.append (octets.drop 9)] (by decide +kernel)⟩

end Frames

end Ramqp.Wire
