import Ramqp.Semantics.Framing

/-! What two opens agree on, and the heartbeat of the connection. Durations and times are in microseconds. -/
namespace Ramqp.Wire

def minMaxFrameSize : Nat := 512

structure Negotiated where
  maxFrameSize : Nat
  channelMax : UInt16
  sendInterval : Option Nat
  recvTimeout : Option Nat

def reconcile (own remote : Open) : Negotiated where
  maxFrameSize := max (min own.maxFrameSize.toNat remote.maxFrameSize.toNat) minMaxFrameSize
  channelMax := min own.channelMax remote.channelMax
  sendInterval := (remote.idleTimeOut.filter (0 < ·)).map fun ms => max (ms.toNat / 2) 1 * 1000
  recvTimeout := (own.idleTimeOut.filter (0 < ·)).map fun ms => ms.toNat * 1000

def Negotiated.open (own remote : Open) : Except ConnectError Negotiated :=
  if remote.maxFrameSize.toNat < minMaxFrameSize then
    .error (.protocolViolation ("peer advertised max-frame-size " ++ toString remote.maxFrameSize ++
      " below the 512-octet minimum"))
  else .ok (reconcile own remote)

inductive HeartbeatAction where
  | idle
  | sendEmpty
  | peerTimedOut

structure Heartbeat where
  timer : Option Nat
  sendAfter : Option Nat
  recvTimeout : Option Nat
  lastRecv : Nat
  lastSend : Nat
  recvSinceTick : Bool
  sendSinceTick : Bool

namespace Heartbeat

def new (sendAfter recvTimeout : Option Nat) (now : Nat) : Heartbeat :=
  let check := match sendAfter,recvTimeout with
    | some s,some r => some (min s (r / 2))
    | some s,none => some s
    | none,some r => some (r / 2)
    | none,none => none
  ⟨check.map (max · 1000),sendAfter,recvTimeout,now,now,false,false⟩

def recordRecv (h : Heartbeat) : Heartbeat := {h with recvSinceTick := true}

def recordSend (h : Heartbeat) : Heartbeat := {h with sendSinceTick := true}

def fold (h : Heartbeat) (now : Nat) : Heartbeat :=
  {h with
    lastRecv := if h.recvSinceTick then now else h.lastRecv
    lastSend := if h.sendSinceTick then now else h.lastSend
    recvSinceTick := false
    sendSinceTick := false}

def tick (h : Heartbeat) (now : Nat) : HeartbeatAction × Heartbeat :=
  let h := h.fold now
  if h.recvTimeout.any (· ≤ now - h.lastRecv) then (.peerTimedOut,h)
  else if h.sendAfter.any (· ≤ now - h.lastSend) then (.sendEmpty,h)
  else (.idle,h)

end Heartbeat

structure Beating where
  heartbeat : Heartbeat
  now : Nat
  due : Nat
  sent : Nat
  heard : Nat
  timedOut : Bool := false

inductive Beat where
  | pass (time : Nat)
  | send
  | recv
  | tick

namespace Beating

def start (n : Negotiated) (now : Nat) : Beating :=
  let heartbeat := .new n.sendInterval n.recvTimeout now
  {heartbeat,now,due := now + heartbeat.timer.getD 0,sent := now,heard := now}

/-- Time does not pass a tick that is due. A timeout of the peer ends the loop. -/
def step (s : Beating) (beat : Beat) : Option Beating :=
  if s.timedOut then none
  else match beat with
    | .pass time => if s.heartbeat.timer.isSome ∧ s.due < s.now + time then none else some {s with now := s.now + time}
    | .send => some {s with heartbeat := s.heartbeat.recordSend,sent := s.now}
    | .recv => some {s with heartbeat := s.heartbeat.recordRecv,heard := s.now}
    | .tick => s.heartbeat.timer.bind fun period =>
      if s.now < s.due then none
      else match s.heartbeat.tick s.now with
        | (.peerTimedOut,_) => some {s with timedOut := true}
        | (.sendEmpty,h) => some {s with heartbeat := h.recordSend,due := s.due + period,sent := s.now}
        | (.idle,h) => some {s with heartbeat := h,due := s.due + period}

end Beating

end Ramqp.Wire
