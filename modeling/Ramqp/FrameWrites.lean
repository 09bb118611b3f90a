import Ramqp.Frames
import Ramqp.Library.Transition

/-! The frames queued on a transport reach the stream in order, those with a body that is not copied included. -/
namespace Ramqp.Wire

open List Transition

inductive WriteError where
  | io
  | writeZero
  | peerClosed (text : String)
  deriving DecidableEq

inductive Flushed where
  | done
  | pending
  | failed (error : WriteError)
  deriving DecidableEq

/-- The loop of a write: the stream takes some octets of what is left at each turn, or fails. -/
def writeLoop (octets : σ → Bytes) (isEmpty : σ → Bool) (advance : σ → Nat → σ) (zero : WriteError) :
    List (Option Nat) → σ → Bytes × Flushed
  | answers,remaining =>
    if isEmpty remaining then ([],.done)
    else match answers with
      | [] => ([],.pending)
      | none::_ => ([],.failed .io)
      | some n::answers =>
        if n = 0 then ([],.failed zero)
        else
          let (written,result) := writeLoop octets isEmpty advance zero answers (advance remaining n)
          ((octets remaining).take n ++ written,result)

def advanceSlices : List Bytes → Nat → List Bytes
  | [],_ => []
  | slice::rest,n => if slice.length ≤ n then advanceSlices rest (n - slice.length) else slice.drop n::rest

structure FramedTransport where
  vectored : Bool
  writeBuf : Bytes := []
  outBodies : List (Nat × Bytes) := []

def bodySegmentThreshold : Nat := 4096

namespace FramedTransport

variable (t : FramedTransport)

def queue (frame : Sent) : FramedTransport := {t with writeBuf := frame.write t.writeBuf}

def queueTransfer (channel : UInt16) (performative : Performative) (body : Bytes) : FramedTransport :=
  if t.vectored ∧ bodySegmentThreshold ≤ body.length then
    let writeBuf := encodeAmqpHeader channel performative body.length t.writeBuf
    {t with writeBuf,outBodies := t.outBodies ++ [(writeBuf.length,body)]}
  else {t with writeBuf := encodeAmqpFrame channel performative (some body) t.writeBuf}

def pendingBytes : Nat := t.writeBuf.length + (t.outBodies.map fun (_,body) => body.length).sum

def inlineRun (writeBuf : Bytes) (pos off : Nat) : List Bytes :=
  if pos < off then [(writeBuf.take off).drop pos] else []

def slices (writeBuf : Bytes) : Nat → List (Nat × Bytes) → List Bytes
  | pos,[] => inlineRun writeBuf pos writeBuf.length
  | pos,(off,body)::rest => inlineRun writeBuf pos off ++ body::slices writeBuf off rest

def flushGathered (answers : List (Option Nat)) : Bytes × Flushed :=
  writeLoop flatten isEmpty advanceSlices (.peerClosed "connection closed during write") answers
    (slices t.writeBuf 0 t.outBodies)

def flush (answers : List (Option Nat)) : FramedTransport × Bytes × Flushed :=
  if t.writeBuf.isEmpty then (t,[],.done)
  else
    let out := if t.outBodies.isEmpty then writeLoop id isEmpty (fun buf n => buf.drop n) .writeZero answers t.writeBuf
      else t.flushGathered answers
    (if out.2 = .done then {t with writeBuf := [],outBodies := []} else t,out)

end FramedTransport

/-- The octets a write was given, as far as it came. -/
def Wrote (octets : Bytes) (out : Bytes × Flushed) : Prop := out.1 <+: octets ∧ (out.2 = .done → out.1 = octets)

lemma writeLoop_wrote {octets : σ → Bytes} {isEmpty : σ → Bool} {advance : σ → Nat → σ} {zero : WriteError}
    (advances : ∀ s n, octets (advance s n) = (octets s).drop n) (ends : ∀ s, isEmpty s = true → octets s = [])
    (answers : List (Option Nat)) (remaining : σ) :
    Wrote (octets remaining) (writeLoop octets isEmpty advance zero answers remaining) := by
  fun_induction writeLoop octets isEmpty advance zero answers remaining with
  | case1 _ remaining empty => exact ⟨ nil_prefix,fun _ => (ends remaining empty).symm⟩
  | case2 | case3 | case4 => exact ⟨ nil_prefix,nofun⟩
  | case5 remaining _ n answers _ written result next ih =>
    rw [next,advances] at ih
    refine ⟨?_,fun done => (congrArg _ (ih.2 done)).trans (take_append_drop n _)⟩
    conv_rhs => rw [← take_append_drop n (octets remaining)]
    exact (prefix_append_right_inj _).mpr ih.1

lemma advanceSlices_flatten (parts : List Bytes) (n : Nat) :
    (advanceSlices parts n).flatten = parts.flatten.drop n := by
  fun_induction advanceSlices parts n with
  | case1 => simp
  | case2 n slice rest whole ih => rw [ih,flatten_cons,drop_append,drop_of_length_le whole,nil_append]
  | case3 n slice rest part => rw [flatten_cons,flatten_cons,drop_append_of_le_length (by omega)]

namespace FramedTransport

variable {t : FramedTransport} {buf header body pending : Bytes} {held : Option Bytes} {pos off : Nat}
  {bodies : List (Nat × Bytes)}

@[simp] lemma inlineRun_flatten : (inlineRun buf pos off).flatten = (buf.take off).drop pos := by
  unfold inlineRun
  split
  · simp
  · simp; omega

lemma slices_add (inside : pos ≤ buf.length) (within : ∀ entry ∈ bodies, entry.1 ≤ buf.length) :
    (slices (buf ++ header) pos (bodies ++ held.toList.map ((buf ++ header).length,·))).flatten =
      (slices buf pos bodies).flatten ++ (header ++ held.getD []) := by
  induction bodies generalizing pos with
  | nil =>
    have rest : (buf ++ header).drop pos = _ := drop_append_of_le_length inside
    cases held <;> simp [slices,take_of_length_le,rest]
  | cons entry bodies ih =>
    obtain ⟨here,others⟩ := forall_mem_cons.mp within
    simp only [cons_append,slices,flatten_append,flatten_cons,inlineRun_flatten,ih here others,
      take_append_of_le_length here,append_assoc]

structure Queued (t : FramedTransport) (pending : Bytes) : Prop where
  within : ∀ entry ∈ t.outBodies, entry.1 ≤ t.writeBuf.length
  headed : t.writeBuf = [] → t.outBodies = []
  octets : (slices t.writeBuf 0 t.outBodies).flatten = pending
  counted : pending.length = t.pendingBytes

lemma cleared (vectored : Bool) : Queued ⟨vectored,[],[]⟩ [] := ⟨by simp,fun _ => rfl,rfl,rfl⟩

lemma Queued.add (held : Option Bytes) (queued : t.Queued pending) (filled : header ≠ []) :
    Queued ⟨t.vectored,t.writeBuf ++ header,t.outBodies ++ held.toList.map ((t.writeBuf ++ header).length,·)⟩
      (pending ++ (header ++ held.getD [])) := by
  refine ⟨forall_mem_append.mpr ⟨fun entry member => ?_,by simp⟩,?_,?_,?_⟩
  · exact (queued.within entry member).trans (by simp)
  · exact fun none_ => absurd (append_eq_nil_iff.mp none_).2 filled
  · exact queued.octets ▸ slices_add (Nat.zero_le _) queued.within
  · cases held <;> simp [queued.counted,pendingBytes] <;> omega

lemma Queued.queue (queued : t.Queued pending) (frame : Sent) : (t.queue frame).Queued (pending ++ frame.octets) := by
  have added := queued.add none (by simp [Sent.octets,frameOctets] : frame.octets ≠ [])
  rw [FramedTransport.queue,Sent.write_eq]
  simpa using added

lemma Queued.transfer (queued : t.Queued pending) (channel : UInt16) (performative : Performative) (body : Bytes) :
    (t.queueTransfer channel performative body).Queued
      (pending ++ (Sent.amqp channel performative (some body)).octets) := by
  obtain ⟨header,filled,same⟩ : ∃ header, header ≠ [] ∧
      (Sent.amqp channel performative (some body)).octets = header ++ body :=
    ⟨_ ++ toVec performative,by simp,(append_assoc _ _ _).symm⟩
  unfold queueTransfer
  split
  · have written := @encodeHeader_eq frameTypeAmqp channel _ _ body (encode_eq performative) t.writeBuf
    have split : encodeAmqpHeader channel performative body.length t.writeBuf = t.writeBuf ++ header :=
      append_cancel_right (written.trans ((congrArg _ same).trans (append_assoc ..).symm))
    rw [split,same]
    exact queued.add (some body) filled
  · exact queued.queue (.amqp channel performative (some body))

lemma Queued.flush (queued : t.Queued pending) (answers : List (Option Nat)) :
    Wrote pending (t.flush answers).2 ∧ ((t.flush answers).2.2 = .done → (t.flush answers).1.Queued []) := by
  cases queued.octets
  unfold FramedTransport.flush
  split
  next empty =>
    rw [queued.headed (isEmpty_iff.mp empty),isEmpty_iff.mp empty] at queued ⊢
    exact ⟨⟨ nil_prefix,fun _ => rfl⟩,fun _ => queued⟩
  refine ⟨?_,fun done => by simpa only [if_pos done] using cleared t.vectored⟩
  dsimp only
  split
  next none_ =>
    rw [isEmpty_iff.mp none_,slices,inlineRun_flatten,take_length]
    exact writeLoop_wrote (fun _ _ => rfl) (fun _ => isEmpty_iff.mp) answers t.writeBuf
  · exact writeLoop_wrote advanceSlices_flatten (by simp +contextual) answers _

end FramedTransport

/-- A transport, the frames queued on it and what its stream has taken. -/
structure Writer where
  transport : FramedTransport
  sent : List Sent := []
  stream : Bytes := []

inductive WriteCall where
  | queue (frame : Sent)
  | transfer (channel : UInt16) (performative : Performative) (body : Bytes)
  | flush (answers : List (Option Nat))

namespace Writer

variable {w next : Writer} {call : WriteCall}

def step (w : Writer) : WriteCall → Option Writer
  | .queue frame => some {w with transport := w.transport.queue frame,sent := w.sent ++ [frame]}
  | .transfer channel performative body => some {w with
      transport := w.transport.queueTransfer channel performative body
      sent := w.sent ++ [.amqp channel performative (some body)]}
  | .flush answers =>
    let out := w.transport.flush answers
    if out.2.2 = .done then some {w with transport := out.1,stream := w.stream ++ out.2.1} else none

def InOrder (w : Writer) : Prop := ∃ pending, w.transport.Queued pending ∧ w.stream ++ pending = writeAll w.sent

lemma writeAll_snoc (sent : List Sent) (frame : Sent) : writeAll (sent ++ [frame]) = writeAll sent ++ frame.octets := by
  rw [writeAll,foldl_append]
  exact frame.write_eq _

lemma step_inOrder (inOrder : w.InOrder) (taken : w.step call = some next) : next.InOrder := by
  obtain ⟨pending,queued,same⟩ := inOrder
  cases call with
  | queue frame =>
    cases taken
    exact ⟨_,queued.queue frame,by rw [← append_assoc,same,writeAll_snoc]⟩
  | transfer channel performative body =>
    cases taken
    exact ⟨_,queued.transfer channel performative body,by rw [← append_assoc,same,writeAll_snoc]⟩
  | flush answers =>
    simp only [step,Option.ite_none_right_eq_some] at taken
    obtain ⟨done,rfl⟩ := taken.imp_right Option.some.inj
    obtain ⟨⟨_,written⟩,empty⟩ := queued.flush answers
    exact ⟨[],empty done,by simpa only [append_nil,written done] using same⟩

end Writer

open FramedTransport

/-- However few octets each write takes, the stream gets the plain encodings of the frames in the order they were queued;
a flush that stops early has written a prefix of what was pending. -/
theorem frames_written_in_order (vectored : Bool) (calls : List WriteCall) (final : Writer)
    (ok : run Writer.step ⟨⟨vectored,[],[]⟩,[],[]⟩ calls = some final) :
    ∃ pending, final.stream ++ pending = writeAll final.sent ∧ pending.length = final.transport.pendingBytes ∧
      ∀ answers, Wrote pending (final.transport.flush answers).2 := by
  have inOrder : final.InOrder := run_invariant_all Writer.step_inOrder ⟨[],cleared vectored,rfl⟩ ok
  obtain ⟨pending,queued,same⟩ := inOrder
  exact ⟨pending,same,queued.counted,fun answers => (queued.flush answers).1⟩

theorem frames_written_in_order_held : ∃ final, run Writer.step ⟨⟨true,[],[]⟩,[],[]⟩
    [.transfer 1 (.end_ ⟨none⟩) (replicate 4096 7),.queue (.empty 0),.flush [some 9,some 4096,some 30]] = some final ∧
    final.transport.pendingBytes = 0 ∧ final.stream = writeAll final.sent := by
  refine reaches_and (by decide +kernel) fun final ok none_ => ?_
  obtain ⟨pending,same,counted,-⟩ := frames_written_in_order true _ final ok
  rwa [length_eq_zero_iff.mp (counted.trans none_),append_nil] at same

end Ramqp.Wire
