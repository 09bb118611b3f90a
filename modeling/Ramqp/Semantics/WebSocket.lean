import Ramqp.Semantics.Types

/-! A byte stream over a WebSocket: bytes travel in binary messages. -/
namespace Ramqp

inductive Poll (α : Type) where
  | ready (value : α)
  | pending
  deriving DecidableEq

inductive WsMessage where
  | text (data : Bytes)
  | binary (data : Bytes)
  | ping (data : Bytes)
  | pong (data : Bytes)
  | close
  | frame
  deriving DecidableEq

inductive WsError where
  | io (error : String)
  | other (error : String)
  deriving DecidableEq

inductive IoError where
  | raised (error : String)
  | other (error : WsError)
  deriving DecidableEq

def wsToIo : WsError → IoError
  | .io io => .raised io
  | other => .other other

/-- What one poll of the WebSocket gives. -/
abbrev WsPoll := Poll (Option (Except WsError WsMessage))

/-- The WebSocket is the list of what its polls give from now on; after them nothing more arrives. -/
structure WsByteStream where
  inner : List WsPoll
  leftover : Bytes
  eof : Bool

namespace WsByteStream

def new (inner : List WsPoll) : WsByteStream := ⟨inner,[],false⟩

/-- The bytes put into a buffer with room for `remaining`, and whether there were any left over. -/
def drainLeftover (s : WsByteStream) (remaining : Nat) : WsByteStream × Bytes × Bool :=
  if s.leftover.isEmpty then (s,[],false)
  else
    let n := min s.leftover.length remaining
    ({s with leftover := s.leftover.drop n},s.leftover.take n,true)

/-- The loop of `poll_read` over what the WebSocket gives. -/
def pull (s : WsByteStream) (remaining : Nat) : List WsPoll → WsByteStream × Poll (Except IoError Bytes)
  | [] => ({s with inner := []},.pending)
  | .pending::rest => ({s with inner := rest},.pending)
  | .ready (some (.ok (.binary data)))::rest =>
    if data.isEmpty then s.pull remaining rest
    else
      let (s,bytes,_) := {s with inner := rest,leftover := data}.drainLeftover remaining
      (s,.ready (.ok bytes))
  | .ready (some (.ok (.ping _)))::rest => s.pull remaining rest
  | .ready (some (.ok (.pong _)))::rest => s.pull remaining rest
  | .ready (some (.ok (.text _)))::rest => s.pull remaining rest
  | .ready (some (.ok .frame))::rest => s.pull remaining rest
  | .ready (some (.ok .close))::rest => ({s with inner := rest,eof := true},.ready (.ok []))
  | .ready none::rest => ({s with inner := rest,eof := true},.ready (.ok []))
  | .ready (some (.error e))::rest => ({s with inner := rest},.ready (.error (wsToIo e)))

/-- `poll_read` with a buffer that has room for `remaining` bytes: what it returns and puts into the buffer. -/
def pollRead (s : WsByteStream) (remaining : Nat) : WsByteStream × Poll (Except IoError Bytes) :=
  match s.drainLeftover remaining with
  | (s,bytes,true) => (s,.ready (.ok bytes))
  | (s,_,false) => if s.eof then (s,.ready (.ok [])) else s.pull remaining s.inner

def reads (s : WsByteStream) : List Nat → WsByteStream × List (Poll (Except IoError Bytes))
  | [] => (s,[])
  | remaining::sizes =>
    let (s,result) := s.pollRead remaining
    let (s,results) := s.reads sizes
    (s,result::results)

end WsByteStream

end Ramqp
