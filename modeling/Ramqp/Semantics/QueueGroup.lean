import Ramqp.Semantics.Paging
import Ramqp.Semantics.Quorum

/-! The replicated state machine of a quorum queue's group, with bodies that are resident or spilled, and
its snapshot form. -/
namespace Ramqp

inductive QueueResponse where
  | enqueued (msgId : Nat)
  | settled
  | notFound
  | void
  deriving DecidableEq

inductive StoredBody where
  | resident (bytes : Bytes)
  | spilled (r : SpillRef)
  deriving DecidableEq

structure ReplicatedMessage where
  body : StoredBody
  failures : UInt32
  enqueuedMs : Nat
  deriving DecidableEq

structure QueuePaging where
  spill : Spill
  residentMaxBytes : Nat

structure QueueState where
  nextMsgId : Nat := 0
  messages : Map Nat ReplicatedMessage := ∅
  residentBytes : Nat := 0
  paging : Option QueuePaging := none

inductive PortableBody where
  | inline (bytes : Bytes)
  | external (r : SpillRef)
  deriving DecidableEq

structure PortableMessage where
  msgId : Nat
  failures : UInt32
  enqueuedMs : Nat
  body : PortableBody
  deriving DecidableEq

/-- The snapshot form of the state; `spillId` is 0 when nothing is external. -/
structure PortableState where
  nextMsgId : Nat
  messages : List PortableMessage
  spillId : Nat := 0
  deriving DecidableEq

inductive RestoreError where
  | undecodable
  | noSpill
  | foreignSpill (theirs ours : Nat)
  | unreadable
  | panicked
  deriving DecidableEq

def StoredBody.portable : StoredBody → PortableBody
  | .resident bytes => .inline bytes
  | .spilled r => .external r

def PortableBody.ref? : PortableBody → Option SpillRef
  | .inline _ => none
  | .external r => some r

def StoredBody.ref? (body : StoredBody) : Option SpillRef := body.portable.ref?

namespace QueueState

def paged (spill : Spill) (residentMaxBytes : Nat) : QueueState := {paging := some ⟨spill,residentMaxBytes⟩}

variable (s : QueueState)

def withSpill (f : Spill → Spill) : QueueState :=
  {s with paging := s.paging.map fun paging => {paging with spill := f paging.spill}}

def countSegment (counts : Map Nat Nat) (m : ReplicatedMessage) : Map Nat Nat :=
  match m.body with
  | .resident _ => counts
  | .spilled r => counts.alter r.segment fun found => some (found.getD 0 + 1)

def spillLiveCounts : Map Nat Nat := (s.messages.toList.map Prod.snd).foldl countSegment ∅

def fetch : StoredBody → Option Bytes
  | .resident bytes => some bytes
  | .spilled r => s.paging.bind fun paging => paging.spill.read r

def keepResident (body : Bytes) : QueueState × StoredBody :=
  ({s with residentBytes := s.residentBytes + body.length},.resident body)

def storeBody (fault : AppendFault) (s : QueueState) (body : Bytes) : Option (QueueState × StoredBody) :=
  match s.paging with
  | none => some (s.keepResident body)
  | some paging =>
    if s.residentBytes + body.length ≤ paging.residentMaxBytes then some (s.keepResident body)
    else match paging.spill.append fault body with
      | none => none
      | some (spill,some r) => some ({s with paging := some {paging with spill := spill}},.spilled r)
      | some (spill,none) => some (keepResident {s with paging := some {paging with spill := spill}} body)

def dropBody : StoredBody → QueueState
  | .resident bytes => {s with residentBytes := s.residentBytes - bytes.length}
  | .spilled r => s.withSpill fun spill => spill.release r

def apply (fault : AppendFault) (s : QueueState) : QueueCommand → Option (QueueState × QueueResponse)
  | .enqueue body enqueuedMs =>
    let msgId := s.nextMsgId + 1
    match storeBody fault {s with nextMsgId := msgId} body with
    | none => none
    | some (s,stored) =>
      some ({s with messages := s.messages.insert msgId ⟨stored,0,enqueuedMs⟩},.enqueued msgId)
  | .settle msgId true => match s.messages[msgId]? with
    | some m => some ({s with messages := s.messages.insert msgId {m with failures := m.failures + 1}},.settled)
    | none => some (s,.notFound)
  | .settle msgId false => match s.messages[msgId]? with
    | some removed => some (dropBody {s with messages := s.messages.erase msgId} removed.body,.settled)
    | none => some (s,.notFound)

def prepareSnapshot : QueueState := s.withSpill Spill.pin

def finishSnapshot : QueueState := s.withSpill Spill.unpin

/-- `None` where a spilled body has no spill store. -/
def snapshotBytes : Option PortableState :=
  let messages := s.messages.toList.map fun (msgId,m) => ⟨msgId,m.failures,m.enqueuedMs,m.body.portable⟩
  if messages.all fun m => m.body.ref?.isNone then some ⟨s.nextMsgId,messages,0⟩
  else s.paging.map fun paging => ⟨s.nextMsgId,messages,paging.spill.id⟩

def restoreBody (spillId : Nat) (fault : AppendFault) (s : QueueState) :
    PortableBody → Except RestoreError (QueueState × StoredBody)
  | .inline bytes => match s.storeBody fault bytes with
    | none => .error .panicked
    | some stored => .ok stored
  | .external r => match s.paging with
    | none => .error .noSpill
    | some paging =>
      if paging.spill.id ≠ spillId then .error (.foreignSpill spillId paging.spill.id)
      else match paging.spill.read r with
        | none => .error .unreadable
        | some _ => .ok (s,.spilled r)

def restoreMessages (spillId : Nat) (faults : Nat → AppendFault) (position : Nat) (s : QueueState) :
    List PortableMessage → QueueState × Except RestoreError Unit
  | [] => (s,.ok ())
  | m::rest => match s.restoreBody spillId (faults position) m.body with
    | .error e => (s,.error e)
    | .ok (s,stored) =>
      restoreMessages spillId faults (position + 1)
        {s with messages := s.messages.insert m.msgId ⟨stored,m.failures,m.enqueuedMs⟩} rest

def clear : QueueState :=
  let s := (s.messages.toList.map fun entry => entry.2.body).foldl dropBody {s with messages := ∅}
  {s with residentBytes := 0}

def restoreSnapshot (faults : Nat → AppendFault) (s : QueueState) :
    Option PortableState → QueueState × Except RestoreError Unit
  | none => (s,.error .undecodable)
  | some portable =>
    restoreMessages portable.spillId faults 0 {s.clear with nextMsgId := portable.nextMsgId} portable.messages

end QueueState

end Ramqp
