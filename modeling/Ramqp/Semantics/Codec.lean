import Ramqp.Library.Parser
import Ramqp.Library.BigEndian
import Ramqp.Semantics.Text

/-! The wire codec: format codes, the writers and readers of primitive values, and the compound encoders with
their size and count filled in afterwards. -/
namespace Ramqp.Wire

inductive FormatCode where
  | described | null | boolTrue | boolFalse | uint0 | ulong0 | list0
  | bool | ubyte | byte | smallUint | smallUlong | smallInt | smallLong
  | ushort | short
  | uint | int | float | char | decimal32
  | ulong | long | double | timestamp | decimal64
  | decimal128 | uuid
  | vbin8 | str8 | sym8 | vbin32 | str32 | sym32
  | list8 | map8 | list32 | map32 | array8 | array32
  deriving DecidableEq

namespace FormatCode

def octet : FormatCode → UInt8
  | described => 0x00 | null => 0x40 | boolTrue => 0x41 | boolFalse => 0x42 | uint0 => 0x43 | ulong0 => 0x44
  | list0 => 0x45
  | bool => 0x56 | ubyte => 0x50 | byte => 0x51 | smallUint => 0x52 | smallUlong => 0x53 | smallInt => 0x54
  | smallLong => 0x55
  | ushort => 0x60 | short => 0x61
  | uint => 0x70 | int => 0x71 | float => 0x72 | char => 0x73 | decimal32 => 0x74
  | ulong => 0x80 | long => 0x81 | double => 0x82 | timestamp => 0x83 | decimal64 => 0x84
  | decimal128 => 0x94 | uuid => 0x98
  | vbin8 => 0xa0 | str8 => 0xa1 | sym8 => 0xa3 | vbin32 => 0xb0 | str32 => 0xb1 | sym32 => 0xb3
  | list8 => 0xc0 | map8 => 0xc1 | list32 => 0xd0 | map32 => 0xd1 | array8 => 0xe0 | array32 => 0xf0

def ofOctet : UInt8 → Option FormatCode
  | 0x00 => described | 0x40 => null | 0x41 => boolTrue | 0x42 => boolFalse | 0x43 => uint0 | 0x44 => ulong0
  | 0x45 => list0
  | 0x56 => bool | 0x50 => ubyte | 0x51 => byte | 0x52 => smallUint | 0x53 => smallUlong | 0x54 => smallInt
  | 0x55 => smallLong
  | 0x60 => ushort | 0x61 => short
  | 0x70 => uint | 0x71 => int | 0x72 => float | 0x73 => char | 0x74 => decimal32
  | 0x80 => ulong | 0x81 => long | 0x82 => double | 0x83 => timestamp | 0x84 => decimal64
  | 0x94 => decimal128 | 0x98 => uuid
  | 0xa0 => vbin8 | 0xa1 => str8 | 0xa3 => sym8 | 0xb0 => vbin32 | 0xb1 => str32 | 0xb3 => sym32
  | 0xc0 => list8 | 0xc1 => map8 | 0xd0 => list32 | 0xd1 => map32 | 0xe0 => array8 | 0xf0 => array32
  | _ => none

@[simp] lemma ofOctet_octet (code : FormatCode) : ofOctet code.octet = some code := by cases code <;> rfl

lemma octet_injective {first second : FormatCode} (same : first.octet = second.octet) : first = second := by
  have := congrArg ofOctet same
  simpa using this

end FormatCode

def hexOctet (octet : UInt8) : String := "0x" ++ .ofList [Nat.digitChar (octet.toNat / 16),Nat.digitChar (octet.toNat % 16)]

inductive DecodeError where
  | eof (needed : Nat)
  | invalidFormatCode (code : UInt8) (expected : String)
  | invalidUtf8 (kind : String)
  | invalidValue (text : String)
  | unexpectedDescriptor (expected : UInt64) (found : String)
  | missingField (name : String)
  | nestingTooDeep (max : Nat)
  deriving DecidableEq

abbrev Decoder (α : Type) := Parser UInt8 DecodeError α

abbrev be := BigEndian.encode

def readBytes (n : Nat) : Decoder Bytes := Parser.take .eof n

def readNat (width : Nat) : Decoder Nat := BigEndian.decode <$> readBytes width

def readU8 : Decoder UInt8 := UInt8.ofNat <$> readNat 1

def readU16 : Decoder UInt16 := UInt16.ofNat <$> readNat 2

def readU32 : Decoder UInt32 := UInt32.ofNat <$> readNat 4

def readU64 : Decoder UInt64 := UInt64.ofNat <$> readNat 8

def utf8String (raw : Bytes) (kind : String) : Decoder String :=
  match fromUtf8 raw with
  | some text => pure text
  | none => throw (.invalidUtf8 kind)

def peekCode (buf : Bytes) : Option FormatCode := buf.head?.bind FormatCode.ofOctet

def bad {α : Type} (code : UInt8) (expected : String) : Decoder α := throw (.invalidFormatCode code expected)

class Encode (α : Type) where
  encode : α → Bytes → Bytes
  appends : ∀ x buf, encode x buf = buf ++ encode x []

export Encode (encode)

class Decode (α : Type) where
  decode : Decoder α

export Decode (decode)

def toVec {α : Type} [Encode α] (x : α) : Bytes := encode x []

lemma encode_eq {α : Type} [Encode α] (x : α) (buf : Bytes) : encode x buf = buf ++ toVec x := Encode.appends x buf

def coded (code : FormatCode) (octets : Bytes) : Bytes := code.octet :: octets

@[reducible] def Encode.ofBytes {α : Type} (bytes : α → Bytes) : Encode α := ⟨fun x buf => buf ++ bytes x,fun _ _ => rfl⟩

def encodeNull (buf : Bytes) : Bytes := buf ++ [FormatCode.null.octet]

def encodeVar (code8 code32 : FormatCode) (bytes : Bytes) : Bytes :=
  if bytes.length ≤ 255 then coded code8 (be 1 bytes.length ++ bytes) else coded code32 (be 4 bytes.length ++ bytes)

instance : Encode Bool := .ofBytes fun b => coded (if b then .boolTrue else .boolFalse) []

instance : Encode UInt8 := .ofBytes fun n => coded .ubyte (be 1 n.toNat)

instance : Encode UInt16 := .ofBytes fun n => coded .ushort (be 2 n.toNat)

instance : Encode UInt32 := .ofBytes fun n =>
  if n = 0 then coded .uint0 []
  else if n.toNat ≤ 255 then coded .smallUint (be 1 n.toNat)
  else coded .uint (be 4 n.toNat)

instance : Encode UInt64 := .ofBytes fun n =>
  if n = 0 then coded .ulong0 []
  else if n.toNat ≤ 255 then coded .smallUlong (be 1 n.toNat)
  else coded .ulong (be 8 n.toNat)

instance : Encode Int8 := .ofBytes fun n => coded .byte (be 1 n.toUInt8.toNat)

instance : Encode Int16 := .ofBytes fun n => coded .short (be 2 n.toUInt16.toNat)

instance : Encode Int32 := .ofBytes fun n =>
  if -128 ≤ n.toInt ∧ n.toInt ≤ 127 then coded .smallInt (be 1 n.toInt8.toUInt8.toNat)
  else coded .int (be 4 n.toUInt32.toNat)

instance : Encode Int64 := .ofBytes fun n =>
  if -128 ≤ n.toInt ∧ n.toInt ≤ 127 then coded .smallLong (be 1 n.toInt8.toUInt8.toNat)
  else coded .long (be 8 n.toUInt64.toNat)

instance : Encode Char := .ofBytes fun c => coded .char (be 4 c.toNat)

structure Symbol where
  text : String
  deriving DecidableEq

instance : Encode String := .ofBytes fun text => encodeVar .str8 .str32 (asBytes text)

instance : Encode Symbol := .ofBytes fun symbol => encodeVar .sym8 .sym32 (asBytes symbol.text)

instance : Encode Bytes := .ofBytes (encodeVar .vbin8 .vbin32)

instance {α : Type} [Encode α] : Encode (Option α) where
  encode
    | some x,buf => encode x buf
    | none,buf => encodeNull buf
  appends x buf := by
    cases x with
    | none => rfl
    | some x => exact encode_eq x buf

instance : Decode Bool where
  decode := do
    let code ← readU8
    match FormatCode.ofOctet code with
    | some .boolTrue => pure true
    | some .boolFalse => pure false
    | some .bool => do
      let n ← readU8
      if n = 0 then pure false
      else if n = 1 then pure true
      else throw (.invalidValue ("invalid boolean byte " ++ toString n.toNat))
    | _ => bad code "boolean"

instance : Decode UInt8 where
  decode := do
    let code ← readU8
    match FormatCode.ofOctet code with
    | some .ubyte => readU8
    | _ => bad code "ubyte"

instance : Decode UInt16 where
  decode := do
    let code ← readU8
    match FormatCode.ofOctet code with
    | some .ushort => readU16
    | _ => bad code "ushort"

instance : Decode UInt32 where
  decode := do
    let code ← readU8
    match FormatCode.ofOctet code with
    | some .uint0 => pure 0
    | some .smallUint => UInt8.toUInt32 <$> readU8
    | some .uint => readU32
    | _ => bad code "uint"

instance : Decode UInt64 where
  decode := do
    let code ← readU8
    match FormatCode.ofOctet code with
    | some .ulong0 => pure 0
    | some .smallUlong => UInt8.toUInt64 <$> readU8
    | some .ulong => readU64
    | _ => bad code "ulong"

def decodeVariable (code8 code32 : FormatCode) (expected : String) : Decoder Bytes := do
  let code ← readU8
  if FormatCode.ofOctet code = some code8 then do
    let n ← readU8
    readBytes n.toNat
  else if FormatCode.ofOctet code = some code32 then do
    let n ← readU32
    readBytes n.toNat
  else bad code expected

instance : Decode String where
  decode := do
    let raw ← decodeVariable .str8 .str32 "string"
    utf8String raw "string"

instance : Decode Symbol where
  decode := do
    let raw ← decodeVariable .sym8 .sym32 "symbol"
    Symbol.mk <$> utf8String raw "symbol"

instance : Decode Bytes where
  decode := decodeVariable .vbin8 .vbin32 "binary"

instance {α : Type} [Decode α] : Decode (Option α) where
  decode := fun buf =>
    if peekCode buf = some .null then .ok (none,buf.tail) else (some <$> (decode : Decoder α)) buf

def patch (buf : Bytes) (pos : Nat) (bytes : Bytes) : Bytes := buf.take pos ++ bytes ++ buf.drop (pos + bytes.length)

lemma patch_append {before old new after : Bytes} (same : old.length = new.length) :
    patch (before ++ (old ++ after)) before.length new = before ++ (new ++ after) := by
  simp [patch,← same,List.drop_append]

def openCompound (buf : Bytes) (code : FormatCode) : Bytes × Nat × Nat × Nat :=
  let buf := buf ++ [code.octet]
  let sizePos := buf.length
  let buf := buf ++ be 4 0
  let countPos := buf.length
  let buf := buf ++ be 4 0
  (buf,sizePos,countPos,buf.length)

def closeCompound (buf : Bytes) (sizePos countPos contentStart count : Nat) : Bytes :=
  let size := buf.length - contentStart + 4
  patch (patch buf sizePos (be 4 size)) countPos (be 4 count)

def compound (code : FormatCode) (count : Nat) (content : Bytes → Bytes) (buf : Bytes) : Bytes :=
  let (buf,sizePos,countPos,contentStart) := openCompound buf code
  closeCompound (content buf) sizePos countPos contentStart count

def framed (code : FormatCode) (count : Nat) (content : Bytes) : Bytes :=
  coded code (be 4 (content.length + 4) ++ be 4 count ++ content)

lemma compound_eq {code : FormatCode} {count : Nat} {content : Bytes → Bytes} {written : Bytes}
    (appended : ∀ buf, content buf = buf ++ written) (buf : Bytes) :
    compound code count content buf = buf ++ framed code count written := by
  have size : (buf ++ [code.octet] ++ be 4 0 ++ be 4 0 ++ written).length -
      (buf ++ [code.octet] ++ be 4 0 ++ be 4 0).length + 4 = written.length + 4 := by
    rw [List.length_append,Nat.add_sub_cancel_left]
  have second : (buf ++ [code.octet] ++ be 4 0).length = (buf ++ [code.octet] ++ be 4 (written.length + 4)).length := by
    simp
  simp only [compound,openCompound,closeCompound,appended,size]
  rw [List.append_assoc (buf ++ [code.octet] ++ be 4 0),List.append_assoc (buf ++ [code.octet]),
    patch_append (by simp),← List.append_assoc (buf ++ [code.octet]),second,patch_append (by simp)]
  simp [framed,coded]

end Ramqp.Wire
