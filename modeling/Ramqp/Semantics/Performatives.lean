import Ramqp.Semantics.Composite

/-! The composite types of the protocol with all their fields: errors, delivery states, sources and targets, the
nine performatives, the SASL frames and the transactional state. -/
namespace Ramqp.Wire

section Definitions

abbrev FieldMap := List (Symbol × Value)

instance : Encode Role where
  encode role := encode (role == .receiver)
  appends _ _ := encode_eq _ _

instance : Decode Role where
  decode := (fun receiver => if receiver then .receiver else .sender) <$> (decode : Decoder Bool)

def senderSettleModeCode : SenderSettleMode → UInt8
  | .unsettled => 0
  | .settled => 1
  | .mixed => 2

instance : Encode SenderSettleMode where
  encode mode := encode (senderSettleModeCode mode)
  appends _ _ := encode_eq _ _

instance : Decode SenderSettleMode where
  decode := do
    let n : UInt8 ← decode
    match n with
    | 0 => pure .unsettled
    | 1 => pure .settled
    | 2 => pure .mixed
    | n => throw (.invalidValue ("invalid sender-settle-mode " ++ toString n.toNat))

def receiverSettleModeCode : ReceiverSettleMode → UInt8
  | .first => 0
  | .second => 1

instance : Encode ReceiverSettleMode where
  encode mode := encode (receiverSettleModeCode mode)
  appends _ _ := encode_eq _ _

instance : Decode ReceiverSettleMode where
  decode := do
    let n : UInt8 ← decode
    match n with
    | 0 => pure .first
    | 1 => pure .second
    | n => throw (.invalidValue ("invalid receiver-settle-mode " ++ toString n.toNat))

inductive Condition where
  | internalError | notFound | unauthorizedAccess | decodeError | resourceLimitExceeded | notAllowed | invalidField
  | notImplemented | resourceLocked | preconditionFailed | resourceDeleted | illegalState | frameSizeTooSmall
  | connectionForced | framingError | connectionRedirect
  | windowViolation | errantLink | handleInUse | unattachedHandle
  | detachForced | transferLimitExceeded | messageSizeExceeded | linkRedirect | stolen
  | unknownId | transactionRollback | transactionTimeout
  deriving DecidableEq

namespace Condition

def all : List Condition :=
  [internalError,notFound,unauthorizedAccess,decodeError,resourceLimitExceeded,notAllowed,invalidField,
    notImplemented,resourceLocked,preconditionFailed,resourceDeleted,illegalState,frameSizeTooSmall,
    connectionForced,framingError,connectionRedirect,
    windowViolation,errantLink,handleInUse,unattachedHandle,
    detachForced,transferLimitExceeded,messageSizeExceeded,linkRedirect,stolen,
    unknownId,transactionRollback,transactionTimeout]

def asStr : Condition → String
  | internalError => "amqp:internal-error"
  | notFound => "amqp:not-found"
  | unauthorizedAccess => "amqp:unauthorized-access"
  | decodeError => "amqp:decode-error"
  | resourceLimitExceeded => "amqp:resource-limit-exceeded"
  | notAllowed => "amqp:not-allowed"
  | invalidField => "amqp:invalid-field"
  | notImplemented => "amqp:not-implemented"
  | resourceLocked => "amqp:resource-locked"
  | preconditionFailed => "amqp:precondition-failed"
  | resourceDeleted => "amqp:resource-deleted"
  | illegalState => "amqp:illegal-state"
  | frameSizeTooSmall => "amqp:frame-size-too-small"
  | connectionForced => "amqp:connection:forced"
  | framingError => "amqp:connection:framing-error"
  | connectionRedirect => "amqp:connection:redirect"
  | windowViolation => "amqp:session:window-violation"
  | errantLink => "amqp:session:errant-link"
  | handleInUse => "amqp:session:handle-in-use"
  | unattachedHandle => "amqp:session:unattached-handle"
  | detachForced => "amqp:link:detach-forced"
  | transferLimitExceeded => "amqp:link:transfer-limit-exceeded"
  | messageSizeExceeded => "amqp:link:message-size-exceeded"
  | linkRedirect => "amqp:link:redirect"
  | stolen => "amqp:link:stolen"
  | unknownId => "amqp:transaction:unknown-id"
  | transactionRollback => "amqp:transaction:rollback"
  | transactionTimeout => "amqp:transaction:timeout"

def fromStr (text : String) : Option Condition := all.find? fun condition => condition.asStr == text

end Condition

inductive ErrorCondition where
  | known (condition : Condition)
  | custom (symbol : Symbol)
  deriving DecidableEq

namespace ErrorCondition

def asSymbol : ErrorCondition → Symbol
  | known condition => ⟨condition.asStr⟩
  | custom symbol => symbol

def fromSymbol (symbol : Symbol) : ErrorCondition :=
  match Condition.fromStr symbol.text with
  | some condition => known condition
  | none => custom symbol

end ErrorCondition

instance : Encode ErrorCondition where
  encode condition := encode condition.asSymbol
  appends _ _ := encode_eq _ _

instance : Decode ErrorCondition where
  decode := ErrorCondition.fromSymbol <$> (decode : Decoder Symbol)

structure Error where
  condition : ErrorCondition
  description : Option String
  info : Option FieldMap

def Error.composite : Composite Error where
  descriptor := 0x1d
  fields := .cons (.req "condition") (.cons .opt (.cons .opt .nil))
  parts x := (x.condition,x.description,x.info,())
  build x := ⟨x.1,x.2.1,x.2.2.1⟩
  build_parts _ := rfl

instance : Encode Error := Error.composite.toEncode

instance : Decode Error := Error.composite.toDecode

end Definitions

section States

structure Received where
  sectionNumber : UInt32
  sectionOffset : UInt64

def Received.composite : Composite Received where
  descriptor := 0x23
  fields := .cons (.req "section-number") (.cons (.req "section-offset") .nil)
  parts x := (x.sectionNumber,x.sectionOffset,())
  build x := ⟨x.1,x.2.1⟩
  build_parts _ := rfl

structure Accepted where

def Accepted.composite : Composite Accepted := ⟨0x24,.nil,fun _ => (),fun _ => ⟨⟩,fun _ => rfl⟩

structure Released where

def Released.composite : Composite Released := ⟨0x26,.nil,fun _ => (),fun _ => ⟨⟩,fun _ => rfl⟩

structure Rejected where
  error : Option Error

def Rejected.composite : Composite Rejected where
  descriptor := 0x25
  fields := .cons .opt .nil
  parts x := (x.error,())
  build x := ⟨x.1⟩
  build_parts _ := rfl

structure Modified where
  deliveryFailed : Option Bool
  undeliverableHere : Option Bool
  messageAnnotations : Option FieldMap

def Modified.composite : Composite Modified where
  descriptor := 0x27
  fields := .cons .opt (.cons .opt (.cons .opt .nil))
  parts x := (x.deliveryFailed,x.undeliverableHere,x.messageAnnotations,())
  build x := ⟨x.1,x.2.1,x.2.2.1⟩
  build_parts _ := rfl

inductive Outcome where
  | accepted (body : Accepted)
  | rejected (body : Rejected)
  | released (body : Released)
  | modified (body : Modified)

def Outcome.write : Outcome → Bytes → Bytes
  | accepted body => Accepted.composite.write body
  | rejected body => Rejected.composite.write body
  | released body => Released.composite.write body
  | modified body => Modified.composite.write body

instance : Encode Outcome where
  encode := Outcome.write
  appends x buf := by cases x <;> exact Composite.write_eq _ _ buf

instance : Decode Outcome where
  decode := do
    match ← peekDescriptor with
    | .code 0x24 => Outcome.accepted <$> Accepted.composite.read
    | .code 0x25 => Outcome.rejected <$> Rejected.composite.read
    | .code 0x26 => Outcome.released <$> Released.composite.read
    | .code 0x27 => Outcome.modified <$> Modified.composite.read
    | other => throw (.invalidValue ("unexpected outcome descriptor " ++ other.display))

inductive DeliveryState where
  | received (body : Received)
  | accepted (body : Accepted)
  | rejected (body : Rejected)
  | released (body : Released)
  | modified (body : Modified)
  | other (value : Value)

def DeliveryState.write : DeliveryState → Bytes → Bytes
  | received body => Received.composite.write body
  | accepted body => Accepted.composite.write body
  | rejected body => Rejected.composite.write body
  | released body => Released.composite.write body
  | modified body => Modified.composite.write body
  | other value => encodeValue value

instance : Encode DeliveryState where
  encode := DeliveryState.write
  appends x buf := by
    cases x with
    | other value => exact encodeValue_eq value buf
    | _ => exact Composite.write_eq _ _ buf

instance : Decode DeliveryState where
  decode := do
    match ← peekDescriptor with
    | .code 0x23 => DeliveryState.received <$> Received.composite.read
    | .code 0x24 => DeliveryState.accepted <$> Accepted.composite.read
    | .code 0x25 => DeliveryState.rejected <$> Rejected.composite.read
    | .code 0x26 => DeliveryState.released <$> Released.composite.read
    | .code 0x27 => DeliveryState.modified <$> Modified.composite.read
    | _ => DeliveryState.other <$> (decode : Decoder Value)

structure TransactionalState where
  txnId : Bytes
  outcome : Option Outcome

def TransactionalState.composite : Composite TransactionalState where
  descriptor := 0x34
  fields := .cons (.req "txn-id") (.cons .opt .nil)
  parts x := (x.txnId,x.outcome,())
  build x := ⟨x.1,x.2.1⟩
  build_parts _ := rfl

end States

section Addressing

structure Source where
  address : Option String
  durable : UInt32
  expiryPolicy : Symbol
  timeout : UInt32
  dynamic : Bool
  dynamicNodeProperties : Option FieldMap
  distributionMode : Option Symbol
  filter : Option FieldMap
  defaultOutcome : Option Outcome
  outcomes : List Symbol
  capabilities : List Symbol

def Source.composite : Composite Source where
  descriptor := 0x28
  fields := .cons .opt (.cons (.default 0) (.cons (.default ⟨"session-end"⟩) (.cons (.default 0) (.cons (.default false)
    (.cons .opt (.cons .opt (.cons .opt (.cons .opt (.cons .symbols (.cons .symbols .nil))))))))))
  parts x := (x.address,x.durable,x.expiryPolicy,x.timeout,x.dynamic,x.dynamicNodeProperties,x.distributionMode,
    x.filter,x.defaultOutcome,x.outcomes,x.capabilities,())
  build | (a,b,c,d,e,f,g,h,i,j,k,_) => ⟨a,b,c,d,e,f,g,h,i,j,k⟩
  build_parts _ := rfl

structure Target where
  address : Option String
  durable : UInt32
  expiryPolicy : Symbol
  timeout : UInt32
  dynamic : Bool
  dynamicNodeProperties : Option FieldMap
  capabilities : List Symbol

def Target.composite : Composite Target where
  descriptor := 0x29
  fields := .cons .opt (.cons (.default 0) (.cons (.default ⟨"session-end"⟩) (.cons (.default 0) (.cons (.default false)
    (.cons .opt (.cons .symbols .nil))))))
  parts x := (x.address,x.durable,x.expiryPolicy,x.timeout,x.dynamic,x.dynamicNodeProperties,x.capabilities,())
  build | (a,b,c,d,e,f,g,_) => ⟨a,b,c,d,e,f,g⟩
  build_parts _ := rfl

structure Coordinator where
  capabilities : List Symbol

def Coordinator.composite : Composite Coordinator := ⟨0x30,.cons .symbols .nil,fun x => (x.capabilities,()),
  fun x => ⟨x.1⟩,fun _ => rfl⟩

inductive TargetArchetype where
  | target (body : Target)
  | coordinator (body : Coordinator)

def TargetArchetype.write : TargetArchetype → Bytes → Bytes
  | target body => Target.composite.write body
  | coordinator body => Coordinator.composite.write body

instance : Encode Source := Source.composite.toEncode

instance : Decode Source := Source.composite.toDecode

instance : Encode TargetArchetype where
  encode := TargetArchetype.write
  appends x buf := by cases x <;> exact Composite.write_eq _ _ buf

instance : Decode TargetArchetype where
  decode := do
    match ← peekDescriptor with
    | .code 0x29 => TargetArchetype.target <$> Target.composite.read
    | .code 0x30 => TargetArchetype.coordinator <$> Coordinator.composite.read
    | other => throw (.invalidValue ("unexpected target archetype descriptor " ++ other.display))

end Addressing

section Transport

structure Open where
  containerId : String
  hostname : Option String
  maxFrameSize : UInt32
  channelMax : UInt16
  idleTimeOut : Option UInt32
  outgoingLocales : List Symbol
  incomingLocales : List Symbol
  offeredCapabilities : List Symbol
  desiredCapabilities : List Symbol
  properties : Option FieldMap

def Open.composite : Composite Open where
  descriptor := 0x10
  fields := .cons (.req "container-id") (.cons .opt (.cons (.default 0xFFFFFFFF) (.cons (.default 0xFFFF) (.cons .opt
    (.cons .symbols (.cons .symbols (.cons .symbols (.cons .symbols (.cons .opt .nil)))))))))
  parts x := (x.containerId,x.hostname,x.maxFrameSize,x.channelMax,x.idleTimeOut,x.outgoingLocales,x.incomingLocales,
    x.offeredCapabilities,x.desiredCapabilities,x.properties,())
  build | (a,b,c,d,e,f,g,h,i,j,_) => ⟨a,b,c,d,e,f,g,h,i,j⟩
  build_parts _ := rfl

structure Begin where
  remoteChannel : Option UInt16
  nextOutgoingId : UInt32
  incomingWindow : UInt32
  outgoingWindow : UInt32
  handleMax : UInt32
  offeredCapabilities : List Symbol
  desiredCapabilities : List Symbol
  properties : Option FieldMap

def Begin.composite : Composite Begin where
  descriptor := 0x11
  fields := .cons .opt (.cons (.req "next-outgoing-id") (.cons (.req "incoming-window") (.cons (.req "outgoing-window")
    (.cons (.default 0xFFFFFFFF) (.cons .symbols (.cons .symbols (.cons .opt .nil)))))))
  parts x := (x.remoteChannel,x.nextOutgoingId,x.incomingWindow,x.outgoingWindow,x.handleMax,x.offeredCapabilities,
    x.desiredCapabilities,x.properties,())
  build | (a,b,c,d,e,f,g,h,_) => ⟨a,b,c,d,e,f,g,h⟩
  build_parts _ := rfl

structure Attach where
  name : String
  handle : UInt32
  role : Role
  sndSettleMode : SenderSettleMode
  rcvSettleMode : ReceiverSettleMode
  source : Option Source
  target : Option TargetArchetype
  unsettled : Option (List (Bytes × DeliveryState))
  incompleteUnsettled : Bool
  initialDeliveryCount : Option UInt32
  maxMessageSize : Option UInt64
  offeredCapabilities : List Symbol
  desiredCapabilities : List Symbol
  properties : Option FieldMap

def Attach.composite : Composite Attach where
  descriptor := 0x12
  fields := .cons (.req "name") (.cons (.req "handle") (.cons (.req "role") (.cons (.default .mixed)
    (.cons (.default .first) (.cons .opt (.cons .opt (.cons .opt (.cons (.default false) (.cons .opt (.cons .opt
    (.cons .symbols (.cons .symbols (.cons .opt .nil)))))))))))))
  parts x := (x.name,x.handle,x.role,x.sndSettleMode,x.rcvSettleMode,x.source,x.target,x.unsettled,
    x.incompleteUnsettled,x.initialDeliveryCount,x.maxMessageSize,x.offeredCapabilities,x.desiredCapabilities,
    x.properties,())
  build | (a,b,c,d,e,f,g,h,i,j,k,l,m,n,_) => ⟨a,b,c,d,e,f,g,h,i,j,k,l,m,n⟩
  build_parts _ := rfl

structure Flow where
  nextIncomingId : Option UInt32
  incomingWindow : UInt32
  nextOutgoingId : UInt32
  outgoingWindow : UInt32
  handle : Option UInt32
  deliveryCount : Option UInt32
  linkCredit : Option UInt32
  available : Option UInt32
  drain : Bool
  echo : Bool
  properties : Option FieldMap

def Flow.composite : Composite Flow where
  descriptor := 0x13
  fields := .cons .opt (.cons (.req "incoming-window") (.cons (.req "next-outgoing-id") (.cons (.req "outgoing-window")
    (.cons .opt (.cons .opt (.cons .opt (.cons .opt (.cons (.default false) (.cons (.default false)
    (.cons .opt .nil))))))))))
  parts x := (x.nextIncomingId,x.incomingWindow,x.nextOutgoingId,x.outgoingWindow,x.handle,x.deliveryCount,
    x.linkCredit,x.available,x.drain,x.echo,x.properties,())
  build | (a,b,c,d,e,f,g,h,i,j,k,_) => ⟨a,b,c,d,e,f,g,h,i,j,k⟩
  build_parts _ := rfl

structure Transfer where
  handle : UInt32
  deliveryId : Option UInt32
  deliveryTag : Option Bytes
  messageFormat : Option UInt32
  settled : Option Bool
  more : Bool
  rcvSettleMode : Option ReceiverSettleMode
  state : Option DeliveryState
  resume : Bool
  aborted : Bool
  batchable : Bool

def Transfer.composite : Composite Transfer where
  descriptor := 0x14
  fields := .cons (.req "handle") (.cons .opt (.cons .opt (.cons .opt (.cons .opt (.cons (.default false) (.cons .opt
    (.cons .opt (.cons (.default false) (.cons (.default false) (.cons (.default false) .nil))))))))))
  parts x := (x.handle,x.deliveryId,x.deliveryTag,x.messageFormat,x.settled,x.more,x.rcvSettleMode,x.state,x.resume,
    x.aborted,x.batchable,())
  build | (a,b,c,d,e,f,g,h,i,j,k,_) => ⟨a,b,c,d,e,f,g,h,i,j,k⟩
  build_parts _ := rfl

structure Disposition where
  role : Role
  first : UInt32
  last : Option UInt32
  settled : Bool
  state : Option DeliveryState
  batchable : Bool

def Disposition.composite : Composite Disposition where
  descriptor := 0x15
  fields := .cons (.req "role") (.cons (.req "first") (.cons .opt (.cons (.default false) (.cons .opt
    (.cons (.default false) .nil)))))
  parts x := (x.role,x.first,x.last,x.settled,x.state,x.batchable,())
  build | (a,b,c,d,e,f,_) => ⟨a,b,c,d,e,f⟩
  build_parts _ := rfl

structure Detach where
  handle : UInt32
  closed : Bool
  error : Option Error

def Detach.composite : Composite Detach where
  descriptor := 0x16
  fields := .cons (.req "handle") (.cons (.default false) (.cons .opt .nil))
  parts x := (x.handle,x.closed,x.error,())
  build | (a,b,c,_) => ⟨a,b,c⟩
  build_parts _ := rfl

structure End where
  error : Option Error

def End.composite : Composite End := ⟨0x17,.cons .opt .nil,fun x => (x.error,()),fun x => ⟨x.1⟩,fun _ => rfl⟩

structure Close where
  error : Option Error

def Close.composite : Composite Close := ⟨0x18,.cons .opt .nil,fun x => (x.error,()),fun x => ⟨x.1⟩,fun _ => rfl⟩

inductive Performative where
  | open_ (body : Open)
  | begin_ (body : Begin)
  | attach (body : Attach)
  | flow (body : Flow)
  | transfer (body : Transfer)
  | disposition (body : Disposition)
  | detach (body : Detach)
  | end_ (body : End)
  | close (body : Close)

def Performative.write : Performative → Bytes → Bytes
  | open_ body => Open.composite.write body
  | begin_ body => Begin.composite.write body
  | attach body => Attach.composite.write body
  | flow body => Flow.composite.write body
  | transfer body => Transfer.composite.write body
  | disposition body => Disposition.composite.write body
  | detach body => Detach.composite.write body
  | end_ body => End.composite.write body
  | close body => Close.composite.write body

instance : Encode Performative where
  encode := Performative.write
  appends x buf := by cases x <;> exact Composite.write_eq _ _ buf

instance : Decode Performative where
  decode := do
    match ← peekDescriptor with
    | .code 0x10 => Performative.open_ <$> Open.composite.read
    | .code 0x11 => Performative.begin_ <$> Begin.composite.read
    | .code 0x12 => Performative.attach <$> Attach.composite.read
    | .code 0x13 => Performative.flow <$> Flow.composite.read
    | .code 0x14 => Performative.transfer <$> Transfer.composite.read
    | .code 0x15 => Performative.disposition <$> Disposition.composite.read
    | .code 0x16 => Performative.detach <$> Detach.composite.read
    | .code 0x17 => Performative.end_ <$> End.composite.read
    | .code 0x18 => Performative.close <$> Close.composite.read
    | other => throw (.invalidValue ("unknown performative descriptor " ++ other.display))

end Transport

section Security

inductive SaslCode where
  | ok
  | auth
  | sys
  | sysPerm
  | sysTemp
  deriving DecidableEq

def SaslCode.number : SaslCode → UInt8
  | ok => 0
  | auth => 1
  | sys => 2
  | sysPerm => 3
  | sysTemp => 4

instance : Encode SaslCode where
  encode code := encode code.number
  appends _ _ := encode_eq _ _

instance : Decode SaslCode where
  decode := do
    let n : UInt8 ← decode
    match n with
    | 0 => pure .ok
    | 1 => pure .auth
    | 2 => pure .sys
    | 3 => pure .sysPerm
    | 4 => pure .sysTemp
    | n => throw (.invalidValue ("invalid sasl-code " ++ toString n.toNat))

structure SaslMechanisms where
  saslServerMechanisms : List Symbol

def SaslMechanisms.composite : Composite SaslMechanisms := ⟨0x40,.cons (.reqSymbols "sasl-server-mechanisms") .nil,
  fun x => (x.saslServerMechanisms,()),fun x => ⟨x.1⟩,fun _ => rfl⟩

structure SaslInit where
  mechanism : Symbol
  initialResponse : Option Bytes
  hostname : Option String

def SaslInit.composite : Composite SaslInit where
  descriptor := 0x41
  fields := .cons (.req "mechanism") (.cons .opt (.cons .opt .nil))
  parts x := (x.mechanism,x.initialResponse,x.hostname,())
  build | (a,b,c,_) => ⟨a,b,c⟩
  build_parts _ := rfl

structure SaslChallenge where
  challenge : Bytes

def SaslChallenge.composite : Composite SaslChallenge := ⟨0x42,.cons (.req "challenge") .nil,
  fun x => (x.challenge,()),fun x => ⟨x.1⟩,fun _ => rfl⟩

structure SaslResponse where
  response : Bytes

def SaslResponse.composite : Composite SaslResponse := ⟨0x43,.cons (.req "response") .nil,
  fun x => (x.response,()),fun x => ⟨x.1⟩,fun _ => rfl⟩

structure SaslOutcome where
  code : SaslCode
  additionalData : Option Bytes

def SaslOutcome.composite : Composite SaslOutcome := ⟨0x44,.cons (.req "code") (.cons .opt .nil),
  fun x => (x.code,x.additionalData,()),fun x => ⟨x.1,x.2.1⟩,fun _ => rfl⟩

inductive SaslFrame where
  | mechanisms (body : SaslMechanisms)
  | init (body : SaslInit)
  | challenge (body : SaslChallenge)
  | response (body : SaslResponse)
  | outcome (body : SaslOutcome)

def SaslFrame.write : SaslFrame → Bytes → Bytes
  | mechanisms body => SaslMechanisms.composite.write body
  | init body => SaslInit.composite.write body
  | challenge body => SaslChallenge.composite.write body
  | response body => SaslResponse.composite.write body
  | outcome body => SaslOutcome.composite.write body

instance : Encode SaslFrame where
  encode := SaslFrame.write
  appends x buf := by cases x <;> exact Composite.write_eq _ _ buf

instance : Decode SaslFrame where
  decode := do
    match ← peekDescriptor with
    | .code 0x40 => SaslFrame.mechanisms <$> SaslMechanisms.composite.read
    | .code 0x41 => SaslFrame.init <$> SaslInit.composite.read
    | .code 0x42 => SaslFrame.challenge <$> SaslChallenge.composite.read
    | .code 0x43 => SaslFrame.response <$> SaslResponse.composite.read
    | .code 0x44 => SaslFrame.outcome <$> SaslOutcome.composite.read
    | other => throw (.invalidValue ("unknown sasl frame descriptor " ++ other.display))

end Security

end Ramqp.Wire
