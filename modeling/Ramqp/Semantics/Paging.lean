import Ramqp.Semantics.Types

/-! A queue's spill store: append-only segment files in a directory, with the counts of live bodies by
which segments are reclaimed. The directory is what a stop of the process leaves. -/
namespace Ramqp

def segmentMaxBytes : Nat := 64 * 1024 * 1024

structure SpillRef where
  segment : Nat
  offset : Nat
  len : UInt32
  deriving DecidableEq

structure Segment where
  live : Nat
  size : Nat

structure SpillDir where
  id : Option Nat := none
  files : Map Nat Bytes := ∅

structure Spill where
  dir : SpillDir
  id : Nat
  nextSegment : Nat
  current : Option Nat
  segments : Map Nat Segment
  pins : Nat
  deferredDelete : List Nat

inductive AppendFault where
  | none
  | create
  | write (written : Nat)

def writeAt (content : Bytes) (offset : Nat) (body : Bytes) : Bytes :=
  content.take offset ++ body ++ content.drop (offset + body.length)

def readExact (content : Bytes) (offset len : Nat) : Option Bytes :=
  if offset + len ≤ content.length then some ((content.drop offset).take len) else none

namespace Spill

def openPreserving (dir : SpillDir) (fresh : Nat) : Spill :=
  let id := dir.id.getD fresh
  { dir := {dir with id := some id}
    id := id
    nextSegment := dir.files.keys.foldl (fun next segment => max next (segment + 1)) 0
    current := none
    segments := dir.files.map fun _ content => ⟨0,content.length⟩
    pins := 0
    deferredDelete := [] }

def openDir (fresh : Nat) : Spill := openPreserving {} fresh

variable (s : Spill)

def deleteSegment (segment : Nat) : Spill :=
  {s with segments := s.segments.erase segment,dir := {s.dir with files := s.dir.files.erase segment}}

def reclaim (segment : Nat) : Spill :=
  if 0 < s.pins then {s with deferredDelete := s.deferredDelete ++ [segment]} else s.deleteSegment segment

def isDrained (segment : Nat) : Bool := (s.segments[segment]?).any fun found => found.live == 0

def setLiveOf (counts : Map Nat Nat) (s : Spill) (segment : Nat) : Spill :=
  let live := (counts[segment]?).getD 0
  let s := {s with segments := s.segments.modify segment fun found => {found with live := live}}
  if live = 0 ∧ s.current ≠ some segment then s.deleteSegment segment else s

def setLive (counts : Map Nat Nat) : Spill := s.segments.keys.foldl (setLiveOf counts) s

def retire : Spill :=
  match s.current with
  | some old => if s.isDrained old then s.reclaim old else s
  | none => s

def roll (fault : AppendFault) (s : Spill) : Spill × Bool :=
  let s := s.retire
  let segment := s.nextSegment
  let s := {s with nextSegment := segment + 1}
  match fault with
  | .create => (s,false)
  | _ =>
    ({s with dir := {s.dir with files := s.dir.files.insert segment []},
             segments := s.segments.insert segment ⟨0,0⟩,
             current := some segment},true)

def write (fault : AppendFault) (s : Spill) (body : Bytes) : Option (Spill × Option SpillRef) :=
  match s.current with
  | none => none
  | some id => match s.segments[id]?,s.dir.files[id]? with
    | some segment,some content =>
      match fault with
      | .write written =>
        let content := writeAt content segment.size (body.take written)
        some ({s with dir := {s.dir with files := s.dir.files.insert id content}},none)
      | _ =>
        let content := writeAt content segment.size body
        some ({s with dir := {s.dir with files := s.dir.files.insert id content},
                      segments := s.segments.insert id ⟨segment.live + 1,segment.size + body.length⟩},
          some ⟨id,segment.size,body.length.toUInt32⟩)
    | _,_ => none

def needsRoll : Option Bool :=
  match s.current with
  | some id => (s.segments[id]?).map fun segment => decide (segmentMaxBytes ≤ segment.size)
  | none => some true

/-- Append one body; `none` where the code panics, a missing reference where a file operation failed. -/
def append (fault : AppendFault) (s : Spill) (body : Bytes) : Option (Spill × Option SpillRef) :=
  match s.needsRoll with
  | none => none
  | some false => s.write fault body
  | some true => match s.roll fault with
    | (s,true) => s.write fault body
    | (s,false) => some (s,none)

def read (r : SpillRef) : Option Bytes :=
  if s.segments.contains r.segment then (s.dir.files[r.segment]?).bind fun content => readExact content r.offset r.len.toNat
  else none

def release (r : SpillRef) : Spill :=
  match s.segments[r.segment]? with
  | none => s
  | some segment =>
    let s := {s with segments := s.segments.insert r.segment {segment with live := segment.live - 1}}
    if segment.live - 1 = 0 ∧ s.current ≠ some r.segment then s.reclaim r.segment else s

def pin : Spill := {s with pins := s.pins + 1}

def deleteDrained (segment : Nat) : Spill := if s.isDrained segment then s.deleteSegment segment else s

def unpin : Spill :=
  let s := {s with pins := s.pins - 1}
  if s.pins = 0 then s.deferredDelete.foldl deleteDrained {s with deferredDelete := []} else s

end Spill

end Ramqp
