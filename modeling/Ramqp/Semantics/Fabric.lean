import Ramqp.Semantics.SerdeBin

/-! The connection between two nodes of a cluster: its frames, the task that reads them, and what a
client does with each and when the connection is lost. -/
namespace Ramqp.Fabric

open BigEndian SerdeBin

def maxFabricFrame : Nat := 64 * 1024 * 1024

inductive GroupRef where
  | metadata
  | queue (name : String)

inductive RaftKind where
  | appendEntries
  | vote
  | installSnapshot

inductive RequestKind where
  | raft (group : GroupRef) (kind : RaftKind)
  | metaWrite
  | startGroup (queue : String) (members : List (UInt64 × String))
  | whoLeads (queue : String)
  | publish (queue : String)
  | openSub (queue : String) (subChan : UInt64)
  | publishReserved (queue : String)
  | reserve (queue : String) (count : UInt32)
  | unreserve (queue : String) (count : UInt32)

inductive SettleWire where
  | ack
  | requeue
  | requeueFailed
  | drop

inductive FabricHeader where
  | request (corr : UInt64) (req : RequestKind)
  | reply (corr : UInt64)
  | replyErr (corr : UInt64) (msg : String)
  | demand (subChan : UInt64) (credit : UInt32) (drain : Bool)
  | settle (subChan msgId : UInt64) (outcome : SettleWire)
  | closeSub (subChan : UInt64)
  | deliver (subChan msgId : UInt64)
  | subClosed (subChan : UInt64)

section Forms

instance : Serde GroupRef where
  serialize
    | .metadata => variant 0 ()
    | .queue name => variant 1 name
  deserialize := readVariant [(fun () => .metadata) <$> deserialize,.queue <$> deserialize]
  reads x short := by cases x <;> exact reads_variant short (by decide) rfl rfl

instance : Serde RaftKind where
  serialize
    | .appendEntries => variant 0 ()
    | .vote => variant 1 ()
    | .installSnapshot => variant 2 ()
  deserialize := readVariant [(fun () => .appendEntries) <$> deserialize,(fun () => .vote) <$> deserialize,
    (fun () => .installSnapshot) <$> deserialize]
  reads x short := by cases x <;> exact reads_variant short (by decide) rfl rfl

instance : Serde RequestKind where
  serialize
    | .raft group kind => variant 0 (group,kind)
    | .metaWrite => variant 1 ()
    | .startGroup queue members => variant 2 (queue,members)
    | .whoLeads queue => variant 3 queue
    | .publish queue => variant 4 queue
    | .openSub queue subChan => variant 5 (queue,subChan)
    | .publishReserved queue => variant 6 queue
    | .reserve queue count => variant 7 (queue,count)
    | .unreserve queue count => variant 8 (queue,count)
  deserialize := readVariant [Function.uncurry .raft <$> deserialize,(fun () => .metaWrite) <$> deserialize,
    Function.uncurry .startGroup <$> deserialize,.whoLeads <$> deserialize,.publish <$> deserialize,
    Function.uncurry .openSub <$> deserialize,.publishReserved <$> deserialize,Function.uncurry .reserve <$> deserialize,
    Function.uncurry .unreserve <$> deserialize]
  reads x short := by cases x <;> exact reads_variant short (by decide) rfl rfl

instance : Serde SettleWire where
  serialize
    | .ack => variant 0 ()
    | .requeue => variant 1 ()
    | .requeueFailed => variant 2 ()
    | .drop => variant 3 ()
  deserialize := readVariant [(fun () => .ack) <$> deserialize,(fun () => .requeue) <$> deserialize,
    (fun () => .requeueFailed) <$> deserialize,(fun () => .drop) <$> deserialize]
  reads x short := by cases x <;> exact reads_variant short (by decide) rfl rfl

instance : Serde FabricHeader where
  serialize
    | .request corr req => variant 0 (corr,req)
    | .reply corr => variant 1 corr
    | .replyErr corr msg => variant 2 (corr,msg)
    | .demand subChan credit drain => variant 3 (subChan,credit,drain)
    | .settle subChan msgId outcome => variant 4 (subChan,msgId,outcome)
    | .closeSub subChan => variant 5 subChan
    | .deliver subChan msgId => variant 6 (subChan,msgId)
    | .subClosed subChan => variant 7 subChan
  deserialize := readVariant [Function.uncurry .request <$> deserialize,.reply <$> deserialize,
    Function.uncurry .replyErr <$> deserialize,(fun (subChan,credit,drain) => .demand subChan credit drain) <$> deserialize,
    (fun (subChan,msgId,outcome) => .settle subChan msgId outcome) <$> deserialize,.closeSub <$> deserialize,
    Function.uncurry .deliver <$> deserialize,.subClosed <$> deserialize]
  reads x short := by cases x <;> exact reads_variant short (by decide) rfl rfl

end Forms

structure OutFrame where
  header : FabricHeader
  body : Bytes

def encodeFrame (frame : OutFrame) (out : Bytes) : Except String Bytes :=
  let header := toVec frame.header
  let total := 2 + header.length + frame.body.length
  if 2^16 ≤ header.length then .error "out of range integral type conversion attempted"
  else if maxFabricFrame < total then .error "fabric frame too large"
  else .ok (out ++ encode 4 total ++ encode 2 header.length ++ header ++ frame.body)

def encodeFrames : List OutFrame → Bytes → Except String Bytes
  | [],out => .ok out
  | frame::frames,out =>
    match encodeFrame frame out with
    | .error e => .error e
    | .ok out => encodeFrames frames out

/-- The octets a writer gives its socket. Each frame says if it is already queued when the batch before it looks for more. -/
def spawnWriter : List (OutFrame × Bool) → Bytes → (full : Bool) → Bytes
  | [],out,_ => out
  | (frame,queued)::frames,out,full =>
    let joins := queued && !full
    let done := if joins then [] else out
    match encodeFrame frame (if joins then out else []) with
    | .error _ => done
    | .ok out => done ++ spawnWriter frames out (joins && 2^20 ≤ out.length)

inductive ReadEnd where
  | ok (frame : OutFrame)
  | err (msg : String)
  | panicked

/-- A frame without its length: reading the length of the header panics if it is not there. -/
def openFrame (frame : Bytes) : ReadEnd :=
  if frame.length < 2 then .panicked
  else
    let headerLen := decode (frame.take 2)
    let frame := frame.drop 2
    if frame.length < headerLen then .err "fabric header length overruns frame"
    else match fromSlice (frame.take headerLen) with
      | .error e => .err e
      | .ok header => .ok ⟨header,frame.drop headerLen⟩

def takeFrame (buf : Bytes) : Option (ReadEnd × Bytes) :=
  let total := decode (buf.take 4)
  if buf.length < 4 then none
  else if maxFabricFrame < total then some (.err "fabric frame too large",buf)
  else if buf.length < 4 + total then none
  else some (openFrame ((buf.drop 4).take total),buf.drop (4 + total))

abbrev Chunk := {octets : Bytes // octets ≠ []}

def joined (stream : List Chunk) : Bytes := (stream.map Subtype.val).flatten

/-- `closing` is the error at the end of the stream. -/
def readFrame (closing : String) : List Chunk → Bytes → ReadEnd × Bytes × List Chunk
  | [],buf =>
    match takeFrame buf with
    | some (result,buf) => (result,buf,[])
    | none => (.err closing,buf,[])
  | chunk::stream,buf =>
    match takeFrame buf with
    | some (result,buf) => (result,buf,chunk::stream)
    | none => readFrame closing stream (buf ++ chunk.val)

section Reads

open List

variable {closing : String} {buf rest : Bytes} {stream left : List Chunk}

variable {result : ReadEnd}

lemma takeFrame_append (taken : takeFrame buf = some (result,rest)) (more : Bytes) :
    takeFrame (buf ++ more) = some (result,rest ++ more) := by
  simp only [takeFrame] at taken ⊢
  split_ifs at taken with short large cut
  all_goals
    cases taken
    have total : (buf ++ more).take 4 = buf.take 4 := take_append_of_le_length (Nat.le_of_not_lt short)
    rw [total,length_append,if_neg (by omega)]
  · rw [if_pos large]
  · rw [if_neg large,if_neg (by omega),drop_append_of_le_length (by omega),drop_append_of_le_length (by omega),
      take_append_of_le_length (by rw [length_drop]; omega)]

lemma readFrame_eq (stream : List Chunk) (buf : Bytes) : ∃ rest left, readFrame closing stream buf =
      (((takeFrame (buf ++ joined stream)).map Prod.fst).getD (.err closing),rest,left) ∧
    ∀ taken ∈ takeFrame (buf ++ joined stream), taken.2 = rest ++ joined left := by
  induction stream generalizing buf with
  | nil =>
    rw [joined,map_nil,flatten_nil,append_nil,readFrame]
    cases takeFrame buf <;> simp [joined]
  | cons chunk stream ih =>
    unfold readFrame
    split
    next early =>
      rw [takeFrame_append early]
      exact ⟨_,_,rfl,by simp⟩
    · rw [joined,map_cons,flatten_cons,← append_assoc]
      exact ih _

lemma readFrame_taken (read : readFrame closing stream buf = (result,rest,left)) (other : result ≠ .err closing) :
    takeFrame (buf ++ joined stream) = some (result,rest ++ joined left) := by
  obtain ⟨_,_,same,joint⟩ := @readFrame_eq closing stream buf
  rw [read] at same
  cases taken : takeFrame (buf ++ joined stream) with
  | none =>
    rw [taken] at same
    cases same
    exact absurd rfl other
  | some =>
    rw [taken] at same joint
    cases same
    rw [← joint _ rfl]
    rfl

lemma readFrame_shrinks {frame : OutFrame} (read : readFrame closing stream buf = (.ok frame,rest,left)) :
    rest.length + (joined left).length < buf.length + (joined stream).length := by
  have taken := readFrame_taken read (by simp)
  simp only [takeFrame] at taken
  split_ifs at taken
  · cases taken
  · rw [← length_append,← length_append,← (Prod.mk.inj (Option.some.inj taken)).2,length_drop]
    omega

end Reads

def readAll (closing : String) (stream : List Chunk) (buf : Bytes) : List OutFrame × Option String :=
  match _ : readFrame closing stream buf with
  | (.ok frame,rest,left) =>
    let (frames,ended) := readAll closing left rest
    (frame::frames,ended)
  | (.err msg,_,_) => ([],some msg)
  | (.panicked,_,_) => ([],none)
termination_by buf.length + (joined stream).length
decreasing_by exact readFrame_shrinks ‹_›

inductive SubEvent where
  | deliver (msgId : UInt64) (body : Bytes)
  | closed

/-- `writing` until the writer has left its loop. -/
structure ConnState where
  closed : Bool
  writing : Bool
  nextCorr : UInt64
  pending : Map UInt64 ChannelRef
  subs : Map UInt64 ChannelRef
  answers : List (ChannelRef × Except String Bytes)
  events : List (ChannelRef × UInt64 × SubEvent)

namespace ConnState

def answer (s : ConnState) (corr : UInt64) (result : Except String Bytes) : ConnState :=
  match s.pending[corr]? with
  | some call => {s with pending := s.pending.erase corr,answers := s.answers ++ [(call,result)]}
  | none => s

/-- A call up to where it waits, with the frame it gives the writer. A sender that the map replaces is dropped. -/
def call (caller : ChannelRef) (req : RequestKind) (body : Bytes) (s : ConnState) : ConnState × Option OutFrame :=
  let corr := s.nextCorr
  let s := {s with nextCorr := corr + 1}.answer corr (.error "fabric connection dropped")
  let s := {s with pending := s.pending.insert corr caller}
  if !s.closed && s.writing then (s,some ⟨.request corr req,body⟩)
  else (s.answer corr (.error "fabric connection closed"),none)

def route (s : ConnState) (frame : OutFrame) : ConnState :=
  match frame.header with
  | .reply corr => s.answer corr (.ok frame.body)
  | .replyErr corr msg => s.answer corr (.error msg)
  | .deliver subChan msgId =>
    match s.subs[subChan]? with
    | some events => {s with events := s.events ++ [(events,subChan,.deliver msgId frame.body)]}
    | none => s
  | .subClosed subChan =>
    match s.subs[subChan]? with
    | some events => {s with subs := s.subs.erase subChan,events := s.events ++ [(events,subChan,.closed)]}
    | none => s
  | _ => s

def shatter (s : ConnState) : ConnState :=
  {s with closed := true,pending := ∅,subs := ∅,
          answers := s.answers ++ s.pending.toList.map (fun (_,call) => (call,.error "fabric connection lost")),
          events := s.events ++ s.subs.toList.map (fun (subChan,events) => (events,subChan,.closed))}

def reader (s : ConnState) (closing : String) (stream : List Chunk) : ConnState :=
  let (frames,ended) := readAll closing stream []
  let s := frames.foldl route s
  if ended.isSome then s.shatter else s

/-- What happens to a connection while a call waits. -/
inductive Event where
  | call (caller : ChannelRef) (req : RequestKind) (body : Bytes)
  | inbound (frame : OutFrame)
  | timedOut (corr : UInt64)
  | writerEnded
  | lost

def on (s : ConnState) : Event → ConnState
  | .call caller req body => (s.call caller req body).1
  | .inbound frame => s.route frame
  | .timedOut corr => s.answer corr (.error "fabric call timed out")
  | .writerEnded => {s with writing := false}
  | .lost => s.shatter

end ConnState

end Ramqp.Fabric
