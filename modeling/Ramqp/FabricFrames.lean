import Ramqp.Semantics.Fabric
import Ramqp.Library.Entries

/-! What the reader of a connection between nodes makes of its stream: the frames that were sent,
however it is cut, and an answer to every call, unless a frame announces less than two octets. The writer
stops at the first frame that it cannot encode. -/
namespace Ramqp.Fabric

open BigEndian List Option Except SerdeBin

variable {closing : String} {buf rest : Bytes} {stream : List Chunk} {result : ReadEnd}

lemma takeFrame_whole {frame : Bytes} (small : frame.length ≤ maxFabricFrame) (more : Bytes) :
    takeFrame (encode 4 frame.length ++ (frame ++ more)) = some (openFrame frame,more) := by
  have total : decode ((encode 4 frame.length ++ (frame ++ more)).take 4) = frame.length := by
    rw [take_left' length_encode,decode_encode_of_lt]
    rw [maxFabricFrame] at small
    omega
  simp only [takeFrame,total,length_append,length_encode]
  rw [if_neg (by omega),if_neg (Nat.not_lt.mpr small),if_neg (by omega),← drop_drop,drop_left' length_encode,
    take_left,drop_left]

lemma encodeFrame_read {frame : OutFrame} {out octets : Bytes} (ok : encodeFrame frame out = .ok octets) :
    ∃ written, octets = out ++ written ∧ ∀ more, takeFrame (written ++ more) = some (.ok frame,more) := by
  unfold encodeFrame at ok
  generalize form : toVec frame.header = header at ok
  dsimp only at ok
  split_ifs at ok with long large
  cases ok
  have back : fromSlice header = .ok frame.header := form ▸ fromSlice_toVec (by rw [form]; omega)
  let inside := encode 2 header.length ++ (header ++ frame.body)
  have size : 2 + header.length + frame.body.length = inside.length := by simp [inside,Nat.add_assoc]
  have inner : decode (encode 2 header.length) = header.length := decode_encode_of_lt (by omega)
  have opened : openFrame inside = .ok frame := by
    rw [openFrame,if_neg (by omega)]
    simp [inside,inner,back]
  refine ⟨encode 4 inside.length ++ inside,by simp [inside,size],fun more => ?_⟩
  rw [append_assoc,takeFrame_whole (by omega),opened]

lemma readAll_written {frames : List OutFrame} {out octets : Bytes}
    (ok : encodeFrames frames out = .ok octets) : ∃ written, octets = out ++ written ∧
      ∀ stream buf, buf ++ joined stream = written → readAll closing stream buf = (frames,some closing) := by
  induction frames generalizing out with
  | nil =>
    cases ok
    refine ⟨[],(append_nil _).symm,fun stream buf all => ?_⟩
    obtain ⟨_,_,read,-⟩ := @readFrame_eq closing stream buf
    rw [all,show takeFrame [] = none from rfl] at read
    rw [readAll]
    split <;> simp_all
  | cons frame frames ih =>
    unfold encodeFrames at ok
    split at ok
    · cases ok
    rename_i encoded
    obtain ⟨first,rfl,taken⟩ := encodeFrame_read encoded
    obtain ⟨later,rfl,follows⟩ := ih ok
    refine ⟨first ++ later,append_assoc ..,fun stream buf all => ?_⟩
    obtain ⟨after,left,read,joint⟩ := @readFrame_eq closing stream buf
    rw [all,taken] at read joint
    have ended := follows left after (joint _ rfl).symm
    rw [readAll]
    split <;> simp_all

/-- The lengths of the whole frames that reading comes to, each after the one before it was read. -/
inductive Reaches : Bytes → Nat → Prop where
  | first {octets : Bytes} (long : 4 ≤ octets.length) (within : decode (octets.take 4) ≤ maxFabricFrame)
      (whole : 4 + decode (octets.take 4) ≤ octets.length) : Reaches octets (decode (octets.take 4))
  | next {octets rest : Bytes} {frame : OutFrame} {total : Nat} (read : takeFrame octets = some (.ok frame,rest))
      (later : Reaches rest total) : Reaches octets total

lemma openFrame_panicked {frame : Bytes} : openFrame frame = .panicked ↔ frame.length < 2 := by
  unfold openFrame
  split_ifs with short
  · simp [short]
  dsimp only
  split_ifs
  · simp [short]
  · split <;> simp [short]

lemma takeFrame_panicked : (takeFrame buf).map Prod.fst = some .panicked ↔
    4 ≤ buf.length ∧ decode (buf.take 4) ≤ maxFabricFrame ∧ 4 + decode (buf.take 4) ≤ buf.length ∧ decode (buf.take 4) < 2 := by
  simp only [takeFrame]
  split_ifs
  · simp; omega
  · simp; omega
  · simp; omega
  · simp [openFrame_panicked]; omega

lemma readAll_returns : (readAll closing stream buf).2.isSome = true ↔
    ∀ total, Reaches (buf ++ joined stream) total → 2 ≤ total := by
  fun_induction readAll closing stream buf with
  | case1 stream buf frame rest left read frames ended same ih =>
    have taken := readFrame_taken read (by simp)
    rw [same] at ih
    refine ih.trans ⟨fun enough total reached => ?_,fun enough total later => enough total (.next taken later)⟩
    cases reached with
    | first long within whole =>
      by_contra small
      have panics := takeFrame_panicked.mpr ⟨long,within,whole,Nat.lt_of_not_le small⟩
      simp [taken] at panics
    | next read later =>
      cases taken.symm.trans read
      exact enough total later
  | case2 stream buf msg rest left read =>
    obtain ⟨_,_,result,-⟩ := @readFrame_eq closing stream buf
    have ended := congrArg Prod.fst (read.symm.trans result)
    refine iff_of_true rfl fun total reached => ?_
    cases reached with
    | first long within whole =>
      by_contra small
      have panics := takeFrame_panicked.mpr ⟨long,within,whole,Nat.lt_of_not_le small⟩
      simp [panics] at ended
    | next read => simp [read] at ended
  | case3 stream buf rest left read =>
    have taken := readFrame_taken read (by simp)
    obtain ⟨long,within,whole,small⟩ := takeFrame_panicked.mp (by rw [taken]; rfl)
    refine iff_of_false Bool.false_ne_true fun enough => ?_
    exact absurd (enough _ (.first long within whole)) (Nat.not_le.mpr small)

namespace ConnState

variable {s : ConnState} {call : ChannelRef}

def Made (s : ConnState) (call : ChannelRef) : Prop :=
  (∃ corr : UInt64, s.pending[corr]? = some call) ∨ ∃ result, (call,result) ∈ s.answers

lemma Made.answer (made : s.Made call) (corr : UInt64) (result : Except String Bytes) :
    (s.answer corr result).Made call := by
  unfold ConnState.answer
  split
  next found =>
    rcases made with ⟨other,there⟩ | ⟨old,listed⟩
    · by_cases same : corr = other
      · subst same
        cases found.symm.trans there
        exact .inr ⟨result,mem_append_right _ mem_cons_self⟩
      · exact .inl ⟨other,by rw [Entries.getElem?_erase,if_neg same]; exact there⟩
    · exact .inr ⟨old,mem_append_left _ listed⟩
  · exact made

lemma Made.route (made : s.Made call) (frame : OutFrame) : (s.route frame).Made call := by
  unfold ConnState.route
  split
  · exact made.answer ..
  · exact made.answer ..
  · split <;> exact made
  · split <;> exact made
  · exact made

lemma Made.shatter (made : s.Made call) : ∃ result, (call,result) ∈ s.shatter.answers := by
  rcases made with ⟨corr,there⟩ | ⟨result,listed⟩
  · exact ⟨_,mem_append_right _ (mem_map.mpr ⟨(corr,call),Std.ExtTreeMap.mem_toList_iff_getElem?_eq_some.mpr there,rfl⟩)⟩
  · exact ⟨result,mem_append_left _ listed⟩

lemma Made.routed {frames : List OutFrame} (made : s.Made call) : (frames.foldl ConnState.route s).Made call := by
  induction frames generalizing s with
  | nil => exact made
  | cons frame frames ih => exact ih (made.route frame)

lemma answer_closed (s : ConnState) (corr : UInt64) (result : Except String Bytes) :
    (s.answer corr result).closed = s.closed := by
  unfold ConnState.answer
  split <;> rfl

lemma routed_closed (frames : List OutFrame) (s : ConnState) : (frames.foldl ConnState.route s).closed = s.closed := by
  induction frames generalizing s with
  | nil => rfl
  | cons frame frames ih =>
    rw [foldl_cons,ih]
    unfold ConnState.route
    split <;> first | exact answer_closed .. | (split <;> rfl) | rfl

/-- The connection is marked as closed, and no call that was made before waits on. -/
def Shattered (before s : ConnState) : Prop :=
  s.closed = true ∧ s.pending = ∅ ∧ ∀ call, before.Made call → ∃ result, (call,result) ∈ s.answers

end ConnState

/-- However a stream of frames is cut, they are read in order; the buffer waits for no more than the largest frame;
and an open connection is shattered in the end, with an answer to every call, just when every whole frame that reading
comes to announces two octets or more. -/
theorem reader_shatters (closing : String) :
    (∀ frames octets stream, encodeFrames frames [] = .ok octets → joined stream = octets →
      readAll closing stream [] = (frames,some closing)) ∧
    (∀ buf, takeFrame buf = none → buf.length < 4 + maxFabricFrame) ∧
    ∀ stream (s : ConnState), s.closed = false →
      (s.Shattered (s.reader closing stream) ↔ ∀ total, Reaches (joined stream) total → 2 ≤ total) := by
  refine ⟨?_,?_,?_⟩
  · rintro frames octets stream ok rfl
    obtain ⟨_,same,reads⟩ := @readAll_written closing _ _ _ ok
    exact reads stream [] same
  · intro buf waits
    simp only [takeFrame] at waits
    split_ifs at waits <;> omega
  intro stream s alive
  refine Iff.trans ?_ (@readAll_returns closing [] stream)
  cases ended : (readAll closing stream []).2.isSome with
  | true =>
    simp only [ConnState.Shattered,ConnState.reader,ended,if_true,iff_true]
    exact ⟨rfl,rfl,fun call made => made.routed.shatter⟩
  | false =>
    simp only [ConnState.Shattered,ConnState.reader,ended,Bool.false_eq_true,if_false,iff_false]
    rw [ConnState.routed_closed,alive]
    exact fun closed => Bool.false_ne_true closed.1

def calling : ConnState := ⟨false,true,2,(∅ : Map UInt64 ChannelRef).insert 1 7,∅,[],[]⟩

def reply : List Chunk := [⟨[0,0,0],by decide⟩,⟨[15,0,12,1,0,0,0,1,0,0,0,0,0,0,0,42],by decide⟩]

theorem reader_shatters_reply : calling.Made 7 ∧
    ∃ result, ((7 : ChannelRef),result) ∈ (calling.reader "eof" reply).answers := by
  have made : calling.Made 7 := .inl ⟨1,rfl⟩
  have shattered := ((reader_shatters "eof").2.2 reply calling rfl).mpr fun total reached => by
    cases reached with
    | first => decide
    | next read later =>
      have rest : (takeFrame (joined reply)).map Prod.snd = some [] := by decide +kernel
      rw [read] at rest
      cases rest
      cases later with
      | first long => cases long
      | next read => cases read
  exact ⟨made,shattered.2.2 7 made⟩

/-- A frame that announces nothing ends the task, and the call waits on. -/
theorem empty_frame_panics : readAll "eof" [⟨[0,0,0,0],by decide⟩] [] = ([],none) ∧
    calling.reader "eof" [⟨[0,0,0,0],by decide⟩] = calling := by
  have read : readFrame "eof" [⟨[0,0,0,0],by decide⟩] [] = (.panicked,[],[]) := by
    simp [readFrame,takeFrame,openFrame,decode]
  have panics : readAll "eof" [⟨[0,0,0,0],by decide⟩] [] = ([],none) := by
    rw [readAll]
    split <;> simp_all
  exact ⟨panics,by rw [ConnState.reader,panics]; rfl⟩

def encoded (frame : OutFrame × Bool) : Option Bytes := (encodeFrame frame.1 []).toOption

lemma encodeFrame_encoded (frame : OutFrame × Bool) (out : Bytes) : match encoded frame with
    | none => ∃ e, encodeFrame frame.1 out = .error e
    | some octets => encodeFrame frame.1 out = .ok (out ++ octets) := by
  unfold encoded encodeFrame
  dsimp only
  split_ifs <;> simp [Except.toOption]

lemma encoded_ne_nil {frame : OutFrame × Bool} : encoded frame ≠ some [] := by
  unfold encoded encodeFrame
  dsimp only
  split_ifs <;> simp [Except.toOption,encode]

lemma flatten_encoded {frames : List (OutFrame × Bool)} :
    (frames.filterMap encoded).flatten = [] ↔ ∀ frame ∈ frames, encoded frame = none := by
  rw [flatten_eq_nil_iff]
  constructor
  · intro empty frame listed
    by_contra some
    obtain ⟨octets,encodes⟩ := Option.ne_none_iff_exists'.mp some
    cases empty octets (mem_filterMap.mpr ⟨frame,listed,encodes⟩)
    exact encoded_ne_nil encodes
  · intro refused octets listed
    obtain ⟨frame,member,encodes⟩ := mem_filterMap.mp listed
    cases (refused frame member).symm.trans encodes

/-- No frame that can be encoded follows one that cannot, and the first of those starts a batch: it is not queued yet, or
the batch before it is full. `room` is the size of a batch that is not. -/
def Isolated : Option Nat → List (OutFrame × Bool) → Prop
  | _,[] => True
  | room,frame::frames => match encoded frame with
    | none => (room = none ∨ frame.2 = false) ∧ ∀ later ∈ frames, encoded later = none
    | some octets => Isolated (match room,frame.2 with
        | some size,true => if 2^20 ≤ size + octets.length then none else some (size + octets.length)
        | _,_ => some octets.length) frames

lemma spawnWriter_isolated {frames : List (OutFrame × Bool)} {out : Bytes} {full : Bool} (begun : full = false → out ≠ []) :
    spawnWriter frames out full = out ++ (frames.filterMap encoded).flatten ↔
      Isolated (if full then none else some out.length) frames := by
  induction frames generalizing out full with
  | nil => simp [spawnWriter,Isolated]
  | cons frame frames ih =>
    have writes := encodeFrame_encoded frame
    unfold spawnWriter Isolated
    cases encodes : encoded frame with
    | none =>
      simp only [encodes] at writes
      obtain ⟨_,fails⟩ := writes (if frame.2 && !full then out else [])
      simp only [fails,filterMap_cons,encodes,← flatten_encoded]
      cases full <;> cases frame.2 <;> simp_all
    | some octets =>
      simp only [encodes] at writes
      simp only [writes,filterMap_cons,encodes,flatten_cons]
      have some : octets ≠ [] := fun empty => encoded_ne_nil (empty ▸ encodes)
      have apart := @ih octets false fun _ => some
      have joins := @ih (out ++ octets) (2^20 ≤ (out ++ octets).length) (by simp [some])
      cases full <;> cases frame.2 <;> simp_all

namespace ConnState

/-- Neither another call of this caller nor a reply to its call, which a peer that was not sent the request does not
make. -/
def Event.Spares (corr : UInt64) (caller : ChannelRef) : Event → Prop
  | .call other _ _ => other ≠ caller
  | .inbound frame => frame.header ≠ .reply corr
  | _ => True

/-- A call that waits for an answer or has failed. -/
structure Fails (s : ConnState) (corr : UInt64) (caller : ChannelRef) : Prop where
  made : s.Made caller
  alone : ∀ other : UInt64, s.pending[other]? = some caller → other = corr
  errors : ∀ result, (caller,result) ∈ s.answers → ∃ msg, result = .error msg

variable {s : ConnState} {corr : UInt64} {caller : ChannelRef}

lemma Fails.answer (fails : s.Fails corr caller) (other : UInt64) (result : Except String Bytes)
    (error : other = corr → ∃ msg, result = .error msg) : (s.answer other result).Fails corr caller := by
  refine ⟨fails.made.answer other result,?_,?_⟩ <;> unfold ConnState.answer <;> split
  · exact fun key there => fails.alone key (Entries.of_erase there).2
  · exact fails.alone
  · rename_i call found
    intro answer listed
    rcases mem_append.mp listed with before | new
    · exact fails.errors answer before
    · cases mem_singleton.mp new
      exact error (fails.alone other found)
  · exact fails.errors

lemma answer_pending (s : ConnState) (corr : UInt64) (result : Except String Bytes) :
    (s.answer corr result).pending[corr]? = none := by
  unfold ConnState.answer
  split
  · simp
  · assumption

lemma Fails.insert (fails : s.Fails corr caller) {other : UInt64} {call : ChannelRef} (free : s.pending[other]? = none)
    (apart : call ≠ caller) : {s with pending := s.pending.insert other call}.Fails corr caller := by
  refine ⟨?_,fun key there => ?_,fails.errors⟩
  · refine fails.made.imp_left fun ⟨key,there⟩ => ⟨key,?_⟩
    rw [Entries.getElem?_insert,if_neg]
    · exact there
    · rintro rfl
      cases free.symm.trans there
  · rcases Entries.of_insert there with ⟨-,same⟩ | ⟨-,old⟩
    · exact absurd same apart
    · exact fails.alone key old

lemma Fails.on (fails : s.Fails corr caller) {event : Event} (spares : event.Spares corr caller) :
    (s.on event).Fails corr caller := by
  have error (other : UInt64) (msg : String) := fails.answer other (.error msg) fun _ => ⟨msg,rfl⟩
  cases event with
  | call other req body =>
    have counted : {s with nextCorr := s.nextCorr + 1}.Fails corr caller := {fails with}
    have dropped := counted.answer s.nextCorr (.error "fabric connection dropped") fun _ => ⟨_,rfl⟩
    have waits := dropped.insert (answer_pending ..) spares
    simp only [ConnState.on,ConnState.call]
    split
    · exact waits
    · exact waits.answer _ _ fun _ => ⟨_,rfl⟩
  | inbound frame =>
    simp only [ConnState.on,ConnState.route]
    split
    next named => exact fails.answer _ _ fun same => absurd (same ▸ named) spares
    · exact error _ _
    · split <;> exact {fails with}
    · split <;> exact {fails with}
    · exact fails
  | timedOut other => exact error other _
  | writerEnded => exact {fails with}
  | lost =>
    refine ⟨.inr fails.made.shatter,fun key there => by simp [ConnState.on,ConnState.shatter] at there,fun result listed => ?_⟩
    rcases mem_append.mp listed with before | new
    · exact fails.errors result before
    · obtain ⟨_,-,same⟩ := mem_map.mp new
      cases same
      exact ⟨_,rfl⟩

lemma answers_answer (s : ConnState) (corr : UInt64) (result : Except String Bytes) :
    s.answers ⊆ (s.answer corr result).answers := by
  unfold ConnState.answer
  split
  · exact subset_append_left ..
  · exact Subset.refl _

lemma answers_on (s : ConnState) (event : Event) : s.answers ⊆ (s.on event).answers := by
  cases event with
  | call =>
    have dropped := answers_answer {s with nextCorr := s.nextCorr + 1} s.nextCorr (.error "fabric connection dropped")
    simp only [ConnState.on,ConnState.call]
    split
    · exact dropped
    · exact fun _ listed => answers_answer _ _ _ (dropped listed)
  | inbound =>
    simp only [ConnState.on,ConnState.route]
    split <;> first | exact answers_answer .. | (split <;> exact Subset.refl _) | exact Subset.refl _
  | timedOut => exact answers_answer ..
  | writerEnded => exact Subset.refl _
  | lost => exact subset_append_left ..

/-- Once its time is up, or the connection is lost, the call has failed. -/
lemma Fails.ended (fails : s.Fails corr caller) {event : Event} (ends : event = .timedOut corr ∨ event = .lost) :
    ∃ msg, (caller,.error msg) ∈ (s.on event).answers := by
  have after : (s.on event).Fails corr caller := fails.on (by rcases ends with rfl | rfl <;> trivial)
  obtain ⟨key,waits⟩ | ⟨result,listed⟩ := after.made
  · cases after.alone key waits
    rcases ends with rfl | rfl
    · cases (answer_pending ..).symm.trans waits
    · simp [ConnState.on,ConnState.shatter] at waits
  · obtain ⟨msg,rfl⟩ := after.errors result listed
    exact ⟨msg,listed⟩

lemma Fails.run (fails : s.Fails corr caller) (events : List Event) (spares : ∀ event ∈ events, event.Spares corr caller) :
    (events.foldl ConnState.on s).Fails corr caller ∧ ((∃ event ∈ events, event = .timedOut corr ∨ event = .lost) →
      ∃ msg, (caller,.error msg) ∈ (events.foldl ConnState.on s).answers) := by
  induction events using List.reverseRecOn with
  | nil => exact ⟨fails,by simp⟩
  | append_singleton events event ih =>
    obtain ⟨before,answered⟩ := ih fun event listed => spares event (mem_append_left _ listed)
    rw [foldl_append]
    refine ⟨before.on (spares event (by simp)),?_⟩
    rintro ⟨last,listed,ends⟩
    rcases mem_append.mp listed with early | late
    · obtain ⟨msg,there⟩ := answered ⟨last,early,ends⟩
      exact ⟨msg,answers_on _ event there⟩
    · cases mem_singleton.mp late
      exact before.ended ends

lemma call_fails (fresh : ¬s.Made caller) (req : RequestKind) (body : Bytes) :
    (s.call caller req body).1.Fails s.nextCorr caller := by
  have waits : let dropped := {s with nextCorr := s.nextCorr + 1}.answer s.nextCorr (.error "fabric connection dropped")
      {dropped with pending := dropped.pending.insert s.nextCorr caller}.Fails s.nextCorr caller := by
    refine ⟨.inl ⟨s.nextCorr,by simp⟩,fun other there => ?_,fun result listed => ?_⟩
    · rcases Entries.of_insert there with ⟨same,-⟩ | ⟨-,old⟩
      · exact same.symm
      unfold ConnState.answer at old
      split at old
      · exact absurd (.inl ⟨other,(Entries.of_erase old).2⟩) fresh
      · exact absurd (.inl ⟨other,old⟩) fresh
    · unfold ConnState.answer at listed
      split at listed
      · rcases mem_append.mp listed with before | new
        · exact absurd (.inr ⟨result,before⟩) fresh
        · cases mem_singleton.mp new
          exact ⟨_,rfl⟩
      · exact absurd (.inr ⟨result,listed⟩) fresh
  simp only [ConnState.call]
  split
  · exact waits
  · exact waits.answer _ _ fun _ => ⟨_,rfl⟩

end ConnState

/-- All frames that can be encoded are written, in order and however they are batched, just when none follows one that
cannot and the first of those starts a batch. A call whose request is not sent fails: it is given nothing but an error, at
the latest when its time is up or the connection is lost. -/
theorem encodable_frames_written (frames : List (OutFrame × Bool)) :
    (spawnWriter frames [] true = (frames.filterMap encoded).flatten ↔ Isolated none frames) ∧
    ∀ (s : ConnState) caller req body (events : List ConnState.Event), ¬s.Made caller →
      (∀ event ∈ events, event.Spares s.nextCorr caller) →
      let final := events.foldl ConnState.on (s.call caller req body).1
      (∀ result, (caller,result) ∈ final.answers → ∃ msg, result = .error msg) ∧
      ((∃ event ∈ events, event = .timedOut s.nextCorr ∨ event = .lost) → ∃ msg, (caller,.error msg) ∈ final.answers) := by
  refine ⟨@spawnWriter_isolated frames [] true nofun,?_⟩
  intro s caller req body events fresh spares
  have fails := (ConnState.call_fails fresh req body).run events spares
  exact ⟨fails.1.errors,fails.2⟩

@[irreducible] def largeBody : Bytes := replicate maxFabricFrame 0

@[irreducible] def tooLarge : OutFrame × Bool := ⟨⟨.request 2 .metaWrite,largeBody⟩,false⟩

lemma tooLarge_refused : encoded tooLarge = none ∧ tooLarge.2 = false := by
  have long : largeBody.length = maxFabricFrame := by rw [largeBody,length_replicate]
  rw [tooLarge]
  refine ⟨?_,rfl⟩
  unfold encoded encodeFrame
  dsimp only
  rw [if_neg (by decide),if_pos (by omega)]
  rfl

def small : OutFrame × Bool := ⟨⟨.reply 2,[]⟩,false⟩

lemma small_encoded : encoded small = some [0,0,0,14,0,12,1,0,0,0,2,0,0,0,0,0,0,0] := by decide +kernel

theorem encodable_frames_written_last :
    spawnWriter [small,tooLarge] [] true = [0,0,0,14,0,12,1,0,0,0,2,0,0,0,0,0,0,0] ∧
    (calling.call 8 .metaWrite largeBody).2 = some tooLarge.1 ∧
    ∃ msg, ((8 : ChannelRef),Except.error msg) ∈ ((calling.call 8 .metaWrite largeBody).1.on (.timedOut 2)).answers := by
  have written := encodable_frames_written [small,tooLarge]
  have fresh : ¬calling.Made 8 := by
    rintro (⟨corr,waits⟩ | ⟨_,listed⟩)
    · rcases Entries.of_insert waits with ⟨-,same⟩ | ⟨-,there⟩
      · cases same
      · simp at there
    · cases listed
  refine ⟨?_,by rw [tooLarge]; rfl,(written.2 calling 8 .metaWrite largeBody [.timedOut 2] fresh ?_).2 ⟨_,mem_singleton_self _,.inl rfl⟩⟩
  · rw [written.1.mpr]
    · simp [small_encoded,tooLarge_refused]
    · rw [Isolated,small_encoded]
      dsimp only
      rw [Isolated,tooLarge_refused.1]
      exact ⟨.inr tooLarge_refused.2,fun _ listed => nomatch listed⟩
  · simp [ConnState.Event.Spares]

/-- A frame that is too large ends the task: what is submitted after it is never written. -/
theorem oversized_frame_discards : (encoded small).isSome ∧ spawnWriter [tooLarge,small] [] true = [] := by
  have fails := encodeFrame_encoded tooLarge []
  rw [tooLarge_refused.1] at fails
  obtain ⟨_,fails⟩ := fails
  refine ⟨by rw [small_encoded]; rfl,?_⟩
  generalize tooLarge = frame at fails ⊢
  obtain ⟨frame,queued⟩ := frame
  simp [spawnWriter,fails]

end Ramqp.Fabric
