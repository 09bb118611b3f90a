import Ramqp.Semantics.Composite

/-! Messages: the sections they are made of, in their order, and the decoder that takes one section after the
other and assembles the body at the end. The text of a value in an error is left out. -/
namespace Ramqp.Wire

structure Timestamp where
  ms : Int64

instance : Encode Timestamp := .ofBytes fun t => coded .timestamp (be 8 t.ms.toUInt64.toNat)

instance : Decode Timestamp where
  decode := do
    let code ← readU8
    match FormatCode.ofOctet code with
    | some .timestamp => (fun n => ⟨n.toInt64⟩) <$> readU64
    | _ => bad code "timestamp"

instance : Encode (Octets 16) := .ofBytes fun id => coded .uuid id.val

instance : Decode (Octets 16) where
  decode := do
    let code ← readU8
    match FormatCode.ofOctet code with
    | some .uuid => fixed 16
    | _ => bad code "uuid"

inductive MessageId where
  | ulong (n : UInt64)
  | uuid (id : Octets 16)
  | binary (bytes : Bytes)
  | string (text : String)

instance : Encode MessageId where
  encode
    | .ulong n => encode n
    | .uuid id => encode id
    | .binary bytes => encode bytes
    | .string text => encode text
  appends x buf := by cases x <;> exact encode_eq _ buf

instance : Decode MessageId where
  decode := fun buf => match peekCode buf with
    | some .ulong0 | some .smallUlong | some .ulong => (MessageId.ulong <$> decode) buf
    | some .uuid => (MessageId.uuid <$> decode) buf
    | some .vbin8 | some .vbin32 => (MessageId.binary <$> decode) buf
    | some .str8 | some .str32 => (MessageId.string <$> decode) buf
    | _ => match buf with
      | [] => .error (.eof 1)
      | code::_ => .error (.invalidFormatCode code "message-id (ulong/uuid/binary/string)")

structure Header where
  durable : Bool
  priority : UInt8
  ttl : Option UInt32
  firstAcquirer : Bool
  deliveryCount : UInt32

def Header.composite : Composite Header where
  descriptor := 0x70
  fields := .cons (.default false) (.cons (.default 4) (.cons .opt (.cons (.default false) (.cons (.default 0) .nil))))
  parts x := (x.durable,x.priority,x.ttl,x.firstAcquirer,x.deliveryCount,())
  build x := ⟨x.1,x.2.1,x.2.2.1,x.2.2.2.1,x.2.2.2.2.1⟩
  build_parts _ := rfl

structure Properties where
  messageId : Option MessageId := none
  userId : Option Bytes := none
  to_ : Option String := none
  subject : Option String := none
  replyTo : Option String := none
  correlationId : Option MessageId := none
  contentType : Option Symbol := none
  contentEncoding : Option Symbol := none
  absoluteExpiryTime : Option Timestamp := none
  creationTime : Option Timestamp := none
  groupId : Option String := none
  groupSequence : Option UInt32 := none
  replyToGroupId : Option String := none

def Properties.composite : Composite Properties where
  descriptor := 0x73
  fields := .cons .opt (.cons .opt (.cons .opt (.cons .opt (.cons .opt (.cons .opt (.cons .opt (.cons .opt (.cons .opt
    (.cons .opt (.cons .opt (.cons .opt (.cons .opt .nil))))))))))))
  parts x := (x.messageId,x.userId,x.to_,x.subject,x.replyTo,x.correlationId,x.contentType,x.contentEncoding,
    x.absoluteExpiryTime,x.creationTime,x.groupId,x.groupSequence,x.replyToGroupId,())
  build
    | (messageId,userId,to_,subject,replyTo,correlationId,contentType,contentEncoding,absoluteExpiryTime,creationTime,
        groupId,groupSequence,replyToGroupId,_) =>
      {messageId,userId,to_,subject,replyTo,correlationId,contentType,contentEncoding,absoluteExpiryTime,creationTime,
       groupId,groupSequence,replyToGroupId}
  build_parts _ := rfl

inductive SectionKind where
  | header | deliveryAnnotations | messageAnnotations | properties | applicationProperties
  | data | amqpSequence | amqpValue
  | footer
  deriving DecidableEq

namespace SectionKind

def code : SectionKind → UInt64
  | header => 0x70 | deliveryAnnotations => 0x71 | messageAnnotations => 0x72 | properties => 0x73
  | applicationProperties => 0x74
  | data => 0x75 | amqpSequence => 0x76 | amqpValue => 0x77
  | footer => 0x78

def ofCode : UInt64 → Option SectionKind
  | 0x70 => header | 0x71 => deliveryAnnotations | 0x72 => messageAnnotations | 0x73 => properties
  | 0x74 => applicationProperties
  | 0x75 => data | 0x76 => amqpSequence | 0x77 => amqpValue
  | 0x78 => footer
  | _ => none

def bodyRank : Int := 5

def rank : SectionKind → Int
  | header => 0 | deliveryAnnotations => 1 | messageAnnotations => 2 | properties => 3 | applicationProperties => 4
  | data | amqpSequence | amqpValue => bodyRank
  | footer => 6

end SectionKind

inductive Section where
  | header (header : Header)
  | deliveryAnnotations (entries : List (Symbol × Value))
  | messageAnnotations (entries : List (Symbol × Value))
  | properties (properties : Properties)
  | applicationProperties (entries : List (String × Value))
  | data (bytes : Bytes)
  | amqpSequence (items : List Value)
  | amqpValue (value : Value)
  | footer (entries : List (Symbol × Value))

def Section.kind : Section → SectionKind
  | header _ => .header
  | deliveryAnnotations _ => .deliveryAnnotations
  | messageAnnotations _ => .messageAnnotations
  | properties _ => .properties
  | applicationProperties _ => .applicationProperties
  | data _ => .data
  | amqpSequence _ => .amqpSequence
  | amqpValue _ => .amqpValue
  | footer _ => .footer

def encodeDescribed (kind : SectionKind) (body : Bytes → Bytes) (buf : Bytes) : Bytes :=
  body (buf ++ [FormatCode.described.octet] ++ encodeDescriptor kind.code)

def Section.write : Section → Bytes → Bytes
  | header h => Header.composite.write h
  | deliveryAnnotations entries => encodeDescribed .deliveryAnnotations (encode entries)
  | messageAnnotations entries => encodeDescribed .messageAnnotations (encode entries)
  | properties p => Properties.composite.write p
  | applicationProperties entries => encodeDescribed .applicationProperties (encode entries)
  | data bytes => encodeDescribed .data (encode bytes)
  | amqpSequence items => encodeDescribed .amqpSequence (compound .list32 items.length (encodeItems items))
  | amqpValue value => encodeDescribed .amqpValue (encode value)
  | footer entries => encodeDescribed .footer (encode entries)

def expectDescriptor (expected : UInt64) : Decoder Unit := do
  let descriptor ← describedHeader
  if descriptor = .code expected then pure () else throw (.unexpectedDescriptor expected descriptor.display)

def decodeDescribed {α : Type} [Decode α] (kind : SectionKind) (default : α) : Decoder α := do
  expectDescriptor kind.code
  (·.getD default) <$> (decode : Decoder (Option α))

def SectionKind.decode : SectionKind → Decoder Section
  | header => Section.header <$> Header.composite.read
  | deliveryAnnotations => Section.deliveryAnnotations <$> decodeDescribed deliveryAnnotations []
  | messageAnnotations => Section.messageAnnotations <$> decodeDescribed messageAnnotations []
  | properties => Section.properties <$> Properties.composite.read
  | applicationProperties => Section.applicationProperties <$> decodeDescribed applicationProperties []
  | data => Section.data <$> decodeDescribed data []
  | amqpSequence => do
    expectDescriptor amqpSequence.code
    match ← (Decode.decode : Decoder Value) with
    | .list items => pure (.amqpSequence items)
    | _ => throw (.invalidValue "amqp-sequence body must be a list")
  | amqpValue => do
    expectDescriptor amqpValue.code
    Section.amqpValue <$> Decode.decode
  | footer => Section.footer <$> decodeDescribed footer []

inductive Body where
  | data (parts : List Bytes)
  | sequence (parts : List (List Value))
  | value (value : Value)
  | empty

structure Message where
  header : Option Header := none
  deliveryAnnotations : Option (List (Symbol × Value)) := none
  messageAnnotations : Option (List (Symbol × Value)) := none
  properties : Option Properties := none
  applicationProperties : Option (List (String × Value)) := none
  body : Body := .empty
  footer : Option (List (Symbol × Value)) := none

def Body.sections : Body → List Section
  | data parts => parts.map .data
  | sequence parts => parts.map .amqpSequence
  | value v => [.amqpValue v]
  | empty => []

namespace Message

def sections (m : Message) : List Section :=
  [m.header.toList.map .header,m.deliveryAnnotations.toList.map .deliveryAnnotations,
   m.messageAnnotations.toList.map .messageAnnotations,m.properties.toList.map .properties,
   m.applicationProperties.toList.map .applicationProperties,m.body.sections,m.footer.toList.map .footer].flatten

def write (m : Message) (buf : Bytes) : Bytes := m.sections.foldl (fun buf s => s.write buf) buf

structure Assembly where
  msg : Message := {}
  dataParts : List Bytes := []
  seqParts : List (List Value) := []
  haveValue : Bool := false
  maxRank : Int := -1

namespace Assembly

def mixes (a : Assembly) : SectionKind → Bool
  | .data => a.haveValue || !a.seqParts.isEmpty
  | .amqpSequence => a.haveValue || !a.dataParts.isEmpty
  | .amqpValue => a.haveValue || !a.dataParts.isEmpty || !a.seqParts.isEmpty
  | _ => false

def add (a : Assembly) : Section → Assembly
  | .header h => {a with msg := {a.msg with header := some h}}
  | .deliveryAnnotations entries => {a with msg := {a.msg with deliveryAnnotations := some entries}}
  | .messageAnnotations entries => {a with msg := {a.msg with messageAnnotations := some entries}}
  | .properties p => {a with msg := {a.msg with properties := some p}}
  | .applicationProperties entries => {a with msg := {a.msg with applicationProperties := some entries}}
  | .data bytes => {a with dataParts := a.dataParts ++ [bytes]}
  | .amqpSequence items => {a with seqParts := a.seqParts ++ [items]}
  | .amqpValue v => {a with msg := {a.msg with body := .value v},haveValue := true}
  | .footer entries => {a with msg := {a.msg with footer := some entries}}

def take (a : Assembly) (kind : SectionKind) : Decoder Assembly :=
  if kind.rank < a.maxRank then
    throw (.invalidValue ("message section " ++ hex kind.code.toNat ++ " is out of order"))
  else if kind.rank = a.maxRank ∧ kind.rank ≠ SectionKind.bodyRank then
    throw (.invalidValue ("duplicate message section " ++ hex kind.code.toNat))
  else if a.mixes kind then
    throw (.invalidValue "message body mixes data / amqp-sequence / amqp-value sections")
  else (fun s => {a with maxRank := kind.rank}.add s) <$> kind.decode

def finish (a : Assembly) : Message :=
  if !a.dataParts.isEmpty then {a.msg with body := .data a.dataParts}
  else if !a.seqParts.isEmpty then {a.msg with body := .sequence a.seqParts}
  else a.msg

/-- The loop, for at most so many rounds; it ends at the first octets that are not a section. -/
def loop : Nat → Assembly → Decoder Message
  | 0,a => pure a.finish
  | rounds + 1,a => fun buf => match peekDescriptor buf with
    | .ok (.code code,_) => match SectionKind.ofCode code with
      | some kind => (a.take kind >>= loop rounds) buf
      | none => .ok (a.finish,buf)
    | _ => .ok (a.finish,buf)

end Assembly

def read : Decoder Message := fun buf => Assembly.loop buf.length {} buf

end Message

end Ramqp.Wire
