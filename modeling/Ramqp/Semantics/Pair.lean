import Mathlib.Logic.Function.Basic
import Ramqp.Semantics.Endpoint

/-! Two mapped sessions connected by a first-in first-out channel in each direction. A fault
ends the connection, so the pair has no step there. -/
namespace Ramqp

inductive Side where
  | client
  | server
  deriving DecidableEq

def Side.other : Side → Side
  | .client => .server
  | .server => .client

@[simp] lemma Side.other_other (side : Side) : side.other.other = side := by
  cases side <;> rfl

@[simp] lemma Side.other_ne (side : Side) : side.other ≠ side := by
  cases side <;> decide

lemma Side.eq_or_other (side at_ : Side) : at_ = side ∨ at_ = side.other := by
  cases side <;> cases at_ <;> decide

structure Endpoint where
  session : Session
  maxFrameSize : Nat
  inbox : List Frame

abbrev Pair := Side → Endpoint

inductive PairStep where
  | act (side : Side) (op : LocalOp)
  | deliver (side : Side) (policy : AttachPolicy) (order : IterOrder)

namespace Pair

def moved (pair : Pair) (side : Side) (session : Session) (inbox : List Frame)
    (effects : List Effect) : Pair := fun at_ =>
  if at_ = side then {pair side with session,inbox}
  else {pair at_ with inbox := (pair at_).inbox ++ queued effects}

section

variable (pair : Pair) (side : Side) (session : Session) (inbox : List Frame) (effects : List Effect)

@[simp] lemma moved_self : pair.moved side session inbox effects side = {pair side with session,inbox} := if_pos rfl

@[simp] lemma moved_other : pair.moved side session inbox effects side.other =
      {pair side.other with inbox := (pair side.other).inbox ++ queued effects} :=
  if_neg (Side.other_ne side)

end

def step (pair : Pair) : PairStep → Option Pair
  | .act side op => match (pair side).session.act (pair side).maxFrameSize op with
    | .ok (session,effects) => some (pair.moved side session (pair side).inbox effects)
    | .error _ => none
  | .deliver side policy order => match (pair side).inbox with
    | [] => none
    | frame::rest =>
      match (pair side).session.inbound policy order (pair side).maxFrameSize frame with
      | .ok (session,effects) => some (pair.moved side session rest effects)
      | .error _ => none

lemma step_cases {pair next : Pair} {label : PairStep} (ok : pair.step label = some next) :
    (∃ side op result, label = .act side op ∧ (pair side).session.act (pair side).maxFrameSize op = .ok result ∧
      next = pair.moved side result.1 (pair side).inbox result.2) ∨
    (∃ side policy order frame rest result, label = .deliver side policy order ∧ (pair side).inbox = frame::rest ∧
      (pair side).session.inbound policy order (pair side).maxFrameSize frame = .ok result ∧
      next = pair.moved side result.1 rest result.2) := by
  cases label with
  | act side op =>
    left
    simp only [step] at ok
    split at ok
    next acted =>
      cases ok
      exact ⟨side,op,_,rfl,acted,rfl⟩
    · cases ok
  | deliver side policy order =>
    right
    simp only [step] at ok
    split at ok
    · cases ok
    rename_i waiting
    split at ok
    next taken =>
      cases ok
      exact ⟨side,policy,order,_,_,_,rfl,waiting,taken,rfl⟩
    · cases ok

/-- What the two sides agree on before the first link: the client's begin, the server's
configuration, the channels, the frame sizes and the channels for events. -/
structure Opening where
  begin_ : Begin
  config : SessionConfig
  clientChannel : UInt16
  serverChannel : UInt16
  clientFrameSize : Nat
  serverFrameSize : Nat

def opened (o : Opening) : Pair :=
  let (server,response) := Session.acceptPeerBegin 1 o.serverChannel o.clientChannel o.begin_ o.config 1
  let client := ((Session.new 0 o.clientChannel o.begin_ 0 0).onPeerBegin o.serverChannel response).1
  fun side => match side with
    | .client => ⟨client,o.clientFrameSize,[]⟩
    | .server => ⟨server,o.serverFrameSize,[]⟩

end Pair

end Ramqp
