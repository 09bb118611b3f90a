import Mathlib.Data.UInt
import Std.Data.ExtTreeMap

/-! The protocol vocabulary: roles, settle modes, delivery states, errors, the
performatives with the fields some modelled function reads, and the messages that
drivers and user handles exchange. Channels and one-shot replies are the numbers
that identify them. -/
namespace Ramqp

abbrev Bytes := List UInt8

/-- Ordered and hashed maps of the source, up to the order of iteration. -/
abbrev Map (κ υ : Type) [Ord κ] := Std.ExtTreeMap κ υ compare

abbrev ChannelRef := Nat

abbrev Reply := Nat

inductive Role where
  | sender
  | receiver
  deriving DecidableEq

def Role.opposite : Role → Role
  | .sender => .receiver
  | .receiver => .sender

inductive SenderSettleMode where
  | unsettled
  | settled
  | mixed
  deriving DecidableEq

inductive ReceiverSettleMode where
  | first
  | second
  deriving DecidableEq

inductive ErrorCondition where
  | internalError
  | notFound
  | unauthorizedAccess
  | decodeError
  | resourceLimitExceeded
  | messageSizeExceeded
  | unknownTransaction
  | framingError
  | connectionForced
  | custom (symbol : String)
  deriving DecidableEq

structure AmqpError where
  condition : ErrorCondition
  description : Option String
  deriving DecidableEq

inductive ErrorKind where
  | io
  | tls
  | sasl
  | protocolViolation
  | peerClosed
  | timeout
  | detached
  | linkRedirect
  | capacity
  | settlement
  | encode
  | notConnected
  | cancelled
  deriving DecidableEq

structure Failure where
  kind : ErrorKind
  message : String
  remote : Option AmqpError
  deriving DecidableEq

def Failure.msg (kind : ErrorKind) (message : String) : Failure := ⟨kind,message,none⟩

def Failure.fromRemote (kind : ErrorKind) (error : AmqpError) : Failure := ⟨kind,"",some error⟩

inductive DeliveryState where
  | received (sectionNumber : UInt32) (sectionOffset : UInt64)
  | accepted
  | rejected (error : Option AmqpError)
  | released
  | modified (deliveryFailed undeliverableHere : Option Bool)
  | other (value : Bytes)
  deriving DecidableEq

def DeliveryState.isTerminal : DeliveryState → Bool
  | .received _ _ => false
  | _ => true

inductive CreditMode where
  | manual
  | auto (initial refillThreshold : UInt32)
  deriving DecidableEq

structure SessionConfig where
  incomingWindow : UInt32
  outgoingWindow : UInt32
  handleMax : UInt32
  deriving DecidableEq

structure Source where
  address : Option String
  deriving DecidableEq

inductive TargetArchetype where
  | target (address : Option String)
  | coordinator
  deriving DecidableEq

structure Open where
  maxFrameSize : UInt32
  channelMax : UInt16
  idleTimeOut : Option UInt32
  deriving DecidableEq

structure Begin where
  remoteChannel : Option UInt16
  nextOutgoingId : UInt32
  incomingWindow : UInt32
  outgoingWindow : UInt32
  handleMax : UInt32
  deriving DecidableEq

structure Attach where
  name : String
  handle : UInt32
  role : Role
  sndSettleMode : SenderSettleMode := .mixed
  rcvSettleMode : ReceiverSettleMode := .first
  source : Option Source := none
  target : Option TargetArchetype := none
  initialDeliveryCount : Option UInt32 := none
  maxMessageSize : Option UInt64 := none
  deriving DecidableEq

structure Flow where
  nextIncomingId : Option UInt32 := none
  incomingWindow : UInt32 := 0
  nextOutgoingId : UInt32 := 0
  outgoingWindow : UInt32 := 0
  handle : Option UInt32 := none
  deliveryCount : Option UInt32 := none
  linkCredit : Option UInt32 := none
  available : Option UInt32 := none
  drain : Bool := false
  echo : Bool := false
  deriving DecidableEq

structure Transfer where
  handle : UInt32
  deliveryId : Option UInt32 := none
  deliveryTag : Option Bytes := none
  messageFormat : Option UInt32 := none
  settled : Option Bool := none
  more : Bool := false
  state : Option DeliveryState := none
  aborted : Bool := false
  deriving DecidableEq

structure Disposition where
  role : Role
  first : UInt32
  last : Option UInt32 := none
  settled : Bool := false
  state : Option DeliveryState := none
  deriving DecidableEq

structure Detach where
  handle : UInt32
  closed : Bool := false
  error : Option AmqpError := none
  deriving DecidableEq

inductive Performative where
  | open_ (body : Open)
  | begin_ (body : Begin)
  | attach (body : Attach)
  | flow (body : Flow)
  | transfer (body : Transfer)
  | disposition (body : Disposition)
  | detach (body : Detach)
  | end_ (error : Option AmqpError)
  | close (error : Option AmqpError)
  deriving DecidableEq

structure Frame where
  channel : UInt16
  performative : Performative
  payload : Option Bytes := none
  deriving DecidableEq

structure SessionOpened where
  channel : UInt16
  sessionId : Nat
  deriving DecidableEq

structure LinkAttached where
  handle : UInt32
  remote : Attach
  deriving DecidableEq

structure IncomingDelivery where
  handle : UInt32
  deliveryId : UInt32
  deliveryTag : Bytes
  message : Bytes
  settled : Bool
  state : Option DeliveryState
  deriving DecidableEq

inductive LinkEvent where
  | delivery (delivery : IncomingDelivery)
  | disposition (handle deliveryId : UInt32) (state : DeliveryState) (settled : Bool)
  | credit (handle credit : UInt32) (drain : Bool)
  | detached (handle : UInt32) (error : Option AmqpError)
  deriving DecidableEq

/-- What an operation does besides changing its own state, in order: frames queued
on the transport, events offered to channels, replies sent and replies dropped. -/
inductive Effect where
  | queue (frame : Frame)
  | event (events : ChannelRef) (event : LinkEvent)
  | sessionEnded (events : ChannelRef) (error : Option AmqpError)
  | opened (reply : Reply) (result : Except Failure SessionOpened)
  | attached (reply : Reply) (result : Except Failure LinkAttached)
  | sent (reply : Reply) (result : Except Failure DeliveryState)
  | done (reply : Reply) (result : Except Failure Unit)
  | dropped (reply : Reply)

inductive Fault where
  | panic (message : String)
  | failed (failure : Failure)
  deriving DecidableEq

def faultOf {α : Type} : Except Fault α → Option Fault
  | .ok _ => none
  | .error fault => some fault

variable (effects : List Effect)

def queued : List Frame :=
  effects.filterMap fun effect => match effect with
    | .queue frame => some frame
    | _ => none

@[simp] lemma queued_nil : queued [] = [] := rfl

@[simp] lemma queued_queue (frame : Frame) (rest : List Effect) :
    queued (.queue frame :: rest) = frame :: queued rest := rfl

@[simp] lemma queued_event (events : ChannelRef) (event : LinkEvent) (rest : List Effect) :
    queued (.event events event :: rest) = queued rest := rfl

@[simp] lemma queued_done (reply : Reply) (result : Except Failure Unit) (rest : List Effect) :
    queued (.done reply result :: rest) = queued rest := rfl

@[simp] lemma queued_map_queue (frames : List Frame) : queued (frames.map .queue) = frames := by
  induction frames with
  | nil => rfl
  | cons frame rest ih => simp [ih]

@[simp] lemma queued_map_dropped (replies : List Reply) : queued (replies.map .dropped) = [] := by
  induction replies with
  | nil => rfl
  | cons reply rest ih => exact ih

@[simp] lemma queued_append (first second : List Effect) :
    queued (first ++ second) = queued first ++ queued second := by
  simp [queued]

def offered : List (ChannelRef × LinkEvent) :=
  effects.filterMap fun effect => match effect with
    | .event channel event => some (channel,event)
    | _ => none

@[simp] lemma offered_nil : offered [] = [] := rfl

@[simp] lemma offered_append (first second : List Effect) :
    offered (first ++ second) = offered first ++ offered second := by
  simp [offered]

@[simp] lemma offered_queue (frame : Frame) (rest : List Effect) :
    offered (.queue frame :: rest) = offered rest := rfl

def deliveries : List (ChannelRef × IncomingDelivery) :=
  effects.filterMap fun effect => match effect with
    | .event channel (.delivery delivery) => some (channel,delivery)
    | _ => none

lemma deliveries_eq_offered : deliveries effects = (offered effects).filterMap fun entry =>
    match entry.2 with
    | .delivery d => some (entry.1,d)
    | _ => none := by
  rw [deliveries,offered,List.filterMap_filterMap]
  refine List.filterMap_congr fun effect _ => ?_
  cases effect with
  | event channel event => cases event <;> rfl
  | _ => rfl

@[simp] lemma deliveries_append (first second : List Effect) :
    deliveries (first ++ second) = deliveries first ++ deliveries second := by
  simp [deliveries]

@[simp] lemma deliveries_queue (frame : Frame) (rest : List Effect) :
    deliveries (.queue frame :: rest) = deliveries rest := rfl

end Ramqp
