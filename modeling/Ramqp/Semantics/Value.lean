import Ramqp.Semantics.Codec

/-! The self-describing `Value`: its encoder, with arrays under one shared constructor, and its decoder, with the
bound on nesting. Floating-point numbers are their bits. -/
namespace Ramqp.Wire

open List

abbrev Octets (n : Nat) := {octets : Bytes // octets.length = n}

inductive Value where
  | null
  | bool (b : Bool)
  | ubyte (n : UInt8)
  | ushort (n : UInt16)
  | uint (n : UInt32)
  | ulong (n : UInt64)
  | byte (n : Int8)
  | short (n : Int16)
  | int (n : Int32)
  | long (n : Int64)
  | float (bits : UInt32)
  | double (bits : UInt64)
  | decimal32 (octets : Octets 4)
  | decimal64 (octets : Octets 8)
  | decimal128 (octets : Octets 16)
  | char (c : Char)
  | timestamp (ms : Int64)
  | uuid (octets : Octets 16)
  | binary (bytes : Bytes)
  | string (text : String)
  | symbol (symbol : Symbol)
  | list (items : List Value)
  | map (entries : List (Value × Value))
  | array (items : List Value)
  | described (descriptor body : Value)

def arrayCode : Value → Option FormatCode
  | .symbol _ => some .sym32
  | .string _ => some .str32
  | .binary _ => some .vbin32
  | .ubyte _ => some .ubyte
  | .ushort _ => some .ushort
  | .uint _ => some .uint
  | .ulong _ => some .ulong
  | .int _ => some .int
  | .long _ => some .long
  | .bool _ => some .bool
  | .float _ => some .float
  | .double _ => some .double
  | .uuid _ => some .uuid
  | .timestamp _ => some .timestamp
  | .null => some .null
  | .byte _ => some .byte
  | .short _ => some .short
  | .char _ => some .char
  | .decimal32 _ => some .decimal32
  | .decimal64 _ => some .decimal64
  | .decimal128 _ => some .decimal128
  | .list _ | .map _ | .array _ | .described .. => none

/-- What an element puts into an array with this constructor; nothing if it is of another type. -/
def bareElement : FormatCode → Value → Bytes
  | .sym32,.symbol s => be 4 (asBytes s.text).length ++ asBytes s.text
  | .str32,.string s => be 4 (asBytes s).length ++ asBytes s
  | .vbin32,.binary x => be 4 x.length ++ x
  | .ubyte,.ubyte x => be 1 x.toNat
  | .ushort,.ushort x => be 2 x.toNat
  | .uint,.uint x => be 4 x.toNat
  | .ulong,.ulong x => be 8 x.toNat
  | .int,.int x => be 4 x.toUInt32.toNat
  | .long,.long x => be 8 x.toUInt64.toNat
  | .bool,.bool x => [if x then 1 else 0]
  | .float,.float x => be 4 x.toNat
  | .double,.double x => be 8 x.toNat
  | .uuid,.uuid x => x.val
  | .timestamp,.timestamp x => be 8 x.toUInt64.toNat
  | .byte,.byte x => be 1 x.toUInt8.toNat
  | .short,.short x => be 2 x.toUInt16.toNat
  | .char,.char x => be 4 x.toNat
  | .decimal32,.decimal32 a => a.val
  | .decimal64,.decimal64 a => a.val
  | .decimal128,.decimal128 a => a.val
  | _,_ => []

def arrayEmit (code : FormatCode) (items : List Value) (buf : Bytes) : Bytes :=
  compound .array32 items.length (fun buf => buf ++ [code.octet] ++ (items.map (bareElement code)).flatten) buf

/-- Compound elements share the first one's constructor: each is encoded into a scratch buffer, and all but
its leading octet is copied. -/
def encodeCompoundArray (scratch : List Bytes) (buf : Bytes) : Bytes :=
  match scratch with
  | (ctor::body)::rest =>
    compound .array32 scratch.length (fun buf => buf ++ [ctor] ++ body ++ (rest.map List.tail).flatten) buf
  | _ => buf

/-- Described elements share the first one's descriptor and the constructor of its body. -/
def encodeDescribedArray (scratch : List (Option (Bytes × Bytes))) (buf : Bytes) : Bytes :=
  match scratch with
  | some (descriptor,ctor::body)::rest =>
    let tails := rest.map fun
      | some (_,body) => body.tail
      | none => []
    compound .array32 scratch.length
      (fun buf => buf ++ [FormatCode.described.octet] ++ descriptor ++ [ctor] ++ body ++ tails.flatten) buf
  | _ => buf

def encodeValueArray (items : List Value) (scratch : List Bytes) (bodies : List (Option (Bytes × Bytes)))
    (buf : Bytes) : Bytes :=
  match items with
  | [] => compound .array32 0 encodeNull buf
  | first::_ => match arrayCode first with
    | some code => arrayEmit code items buf
    | none => match first with
      | .described .. => encodeDescribedArray bodies buf
      | _ => encodeCompoundArray scratch buf

mutual

def encodeValue : Value → Bytes → Bytes
  | .null,buf => encodeNull buf
  | .bool v,buf => encode v buf
  | .ubyte v,buf => encode v buf
  | .ushort v,buf => encode v buf
  | .uint v,buf => encode v buf
  | .ulong v,buf => encode v buf
  | .byte v,buf => encode v buf
  | .short v,buf => encode v buf
  | .int v,buf => encode v buf
  | .long v,buf => encode v buf
  | .float v,buf => buf ++ coded .float (be 4 v.toNat)
  | .double v,buf => buf ++ coded .double (be 8 v.toNat)
  | .decimal32 a,buf => buf ++ coded .decimal32 a.val
  | .decimal64 a,buf => buf ++ coded .decimal64 a.val
  | .decimal128 a,buf => buf ++ coded .decimal128 a.val
  | .char v,buf => encode v buf
  | .timestamp ms,buf => buf ++ coded .timestamp (be 8 ms.toUInt64.toNat)
  | .uuid v,buf => buf ++ coded .uuid v.val
  | .binary v,buf => encode v buf
  | .string v,buf => encode v buf
  | .symbol v,buf => encode v buf
  | .list items,buf => compound .list32 items.length (encodeItems items) buf
  | .map entries,buf => compound .map32 (2 * entries.length) (encodeEntries entries) buf
  | .array items,buf => encodeValueArray items (scratchItems items) (scratchBodies items) buf
  | .described d v,buf => encodeValue v (encodeValue d (buf ++ [FormatCode.described.octet]))

def encodeItems : List Value → Bytes → Bytes
  | [],buf => buf
  | item::rest,buf => encodeItems rest (encodeValue item buf)

def encodeEntries : List (Value × Value) → Bytes → Bytes
  | [],buf => buf
  | (k,v)::rest,buf => encodeEntries rest (encodeValue v (encodeValue k buf))

def scratchItems : List Value → List Bytes
  | [] => []
  | item::rest => encodeValue item [] :: scratchItems rest

def scratchBodies : List Value → List (Option (Bytes × Bytes))
  | [] => []
  | .described d v::rest => some (encodeValue d [],encodeValue v []) :: scratchBodies rest
  | _::rest => none :: scratchBodies rest

end

def maxDepth : Nat := 64

def maxZeroWidthArray : Nat := 1024

def fixed (n : Nat) : Decoder (Octets n) := fun buf =>
  if short : buf.length < n then .error (.eof (n - buf.length))
  else .ok (⟨buf.take n,length_take_of_le (Nat.not_lt.mp short)⟩,buf.drop n)

def charFromU32 (n : UInt32) : Option Char := if valid : n.isValidChar then some ⟨n,valid⟩ else none

def sizedBytes (width : Nat) : Decoder Bytes := do
  let n ← readNat width
  readBytes n

def sized {α : Type} (width : Nat) (elements : Nat → Decoder α) : Decoder α := do
  let size ← readNat width
  let slice ← readBytes size
  Parser.within slice do
    let count ← readNat width
    elements count

section Elements

variable (body : UInt8 → Decoder Value)

def decodeTyped : Decoder Value := do
  let code ← readU8
  body code

def decodeN (count : Nat) : Decoder (List Value) := Parser.times count (decodeTyped body)

def decodeMap (count : Nat) : Decoder (List (Value × Value)) :=
  if count % 2 = 0 then
    Parser.times (count / 2) do
      let k ← decodeTyped body
      let v ← decodeTyped body
      pure (k,v)
  else throw (.invalidValue ("map has an odd element count " ++ toString count))

def zeroWidth (code : UInt8) : Bool :=
  match FormatCode.ofOctet code with
  | some .null | some .boolTrue | some .boolFalse | some .uint0 | some .ulong0 | some .list0 => true
  | _ => false

/-- A count is bounded by the octets that remain; that of elements without octets by a constant. -/
def checkArrayCount (count : Nat) (code : UInt8) : Decoder Unit := fun buf =>
  let limit := if zeroWidth code then maxZeroWidthArray else buf.length
  if count > limit then
    .error (.invalidValue ("array element count " ++ toString count ++ " exceeds limit " ++ toString limit ++
      " (element constructor " ++ hexOctet code ++ ", " ++ toString buf.length ++ " body bytes)"))
  else .ok ((),buf)

def decodeArray (count : Nat) : Decoder (List Value) := do
  let ctor ← readU8
  if ctor = FormatCode.described.octet then do
    let descriptor ← decodeTyped body
    let elemCtor ← readU8
    checkArrayCount count elemCtor
    let bodies ← Parser.times count (body elemCtor)
    pure (bodies.map (Value.described descriptor))
  else do
    checkArrayCount count ctor
    Parser.times count (body ctor)

def decodeAs : FormatCode → Decoder Value
  | .null => pure .null
  | .boolTrue => pure (.bool true)
  | .boolFalse => pure (.bool false)
  | .bool => do
    let n ← readU8
    if n = 0 then pure (.bool false)
    else if n = 1 then pure (.bool true)
    else throw (.invalidValue ("invalid boolean byte " ++ toString n.toNat))
  | .ubyte => Value.ubyte <$> readU8
  | .byte => (fun n => Value.byte n.toInt8) <$> readU8
  | .ushort => Value.ushort <$> readU16
  | .short => (fun n => Value.short n.toInt16) <$> readU16
  | .uint0 => pure (.uint 0)
  | .smallUint => (fun n => Value.uint n.toUInt32) <$> readU8
  | .uint => Value.uint <$> readU32
  | .ulong0 => pure (.ulong 0)
  | .smallUlong => (fun n => Value.ulong n.toUInt64) <$> readU8
  | .ulong => Value.ulong <$> readU64
  | .smallInt => (fun n => Value.int n.toInt8.toInt32) <$> readU8
  | .int => (fun n => Value.int n.toInt32) <$> readU32
  | .smallLong => (fun n => Value.long n.toInt8.toInt64) <$> readU8
  | .long => (fun n => Value.long n.toInt64) <$> readU64
  | .float => Value.float <$> readU32
  | .double => Value.double <$> readU64
  | .decimal32 => Value.decimal32 <$> fixed 4
  | .decimal64 => Value.decimal64 <$> fixed 8
  | .decimal128 => Value.decimal128 <$> fixed 16
  | .char => do
    let n ← readU32
    match charFromU32 n with
    | some c => pure (.char c)
    | none => throw (.invalidValue "invalid char code point")
  | .timestamp => (fun n => Value.timestamp n.toInt64) <$> readU64
  | .uuid => Value.uuid <$> fixed 16
  | .vbin8 => Value.binary <$> sizedBytes 1
  | .vbin32 => Value.binary <$> sizedBytes 4
  | .str8 => do
    let raw ← sizedBytes 1
    Value.string <$> utf8String raw "string"
  | .str32 => do
    let raw ← sizedBytes 4
    Value.string <$> utf8String raw "string"
  | .sym8 => do
    let raw ← sizedBytes 1
    (fun text => Value.symbol ⟨text⟩) <$> utf8String raw "symbol"
  | .sym32 => do
    let raw ← sizedBytes 4
    (fun text => Value.symbol ⟨text⟩) <$> utf8String raw "symbol"
  | .list0 => pure (.list [])
  | .list8 => Value.list <$> sized 1 (decodeN body)
  | .list32 => Value.list <$> sized 4 (decodeN body)
  | .map8 => Value.map <$> sized 1 (decodeMap body)
  | .map32 => Value.map <$> sized 4 (decodeMap body)
  | .array8 => Value.array <$> sized 1 (decodeArray body)
  | .array32 => Value.array <$> sized 4 (decodeArray body)
  | .described => do
    let d ← decodeTyped body
    let v ← decodeTyped body
    pure (.described d v)

end Elements

/-- The value after its constructor, where `left` more levels are allowed: `MAX_DEPTH + 1 - depth`. -/
def decodeValueBody : Nat → UInt8 → Decoder Value
  | 0,_ => throw (.nestingTooDeep maxDepth)
  | left + 1,code => match FormatCode.ofOctet code with
    | some known => decodeAs (decodeValueBody left) known
    | none => bad code "any value"

def decodeValue (depth : Nat) : Decoder Value := decodeTyped (decodeValueBody (maxDepth + 1 - depth))

instance : Decode Value := ⟨decodeValue 0⟩

section Shape

inductive AmqpType where
  | null | bool | ubyte | ushort | uint | ulong | byte | short | int | long | float | double
  | decimal32 | decimal64 | decimal128 | char | timestamp | uuid | binary | string | symbol
  | list | map | array | described
  deriving DecidableEq

namespace Value

def type : Value → AmqpType
  | null => .null | bool _ => .bool | ubyte _ => .ubyte | ushort _ => .ushort | uint _ => .uint | ulong _ => .ulong
  | byte _ => .byte | short _ => .short | int _ => .int | long _ => .long | float _ => .float | double _ => .double
  | decimal32 _ => .decimal32 | decimal64 _ => .decimal64 | decimal128 _ => .decimal128 | char _ => .char
  | timestamp _ => .timestamp | uuid _ => .uuid | binary _ => .binary | string _ => .string | symbol _ => .symbol
  | list _ => .list | map _ => .map | array _ => .array | described .. => .described

def isLeaf (v : Value) : Bool :=
  match v.type with
  | .list | .map | .array | .described => false
  | _ => true

/-- Induction over values: a compound one after everything in it. -/
lemma induction {P : Value → Prop} (leaf : ∀ v : Value, v.isLeaf → P v)
    (list : ∀ items, (∀ item ∈ items, P item) → P (.list items))
    (map : ∀ entries, (∀ entry ∈ entries, P entry.1 ∧ P entry.2) → P (.map entries))
    (array : ∀ items, (∀ item ∈ items, P item) → P (.array items))
    (described : ∀ d v, P d → P v → P (.described d v)) (v : Value) : P v := by
  cases v with
  | list items => exact list items fun item _ => induction leaf list map array described item
  | map entries =>
    exact map entries fun entry _ =>
      ⟨induction leaf list map array described entry.1,induction leaf list map array described entry.2⟩
  | array items => exact array items fun item _ => induction leaf list map array described item
  | described d v =>
    exact described d v (induction leaf list map array described d) (induction leaf list map array described v)
  | _ => exact leaf _ rfl
termination_by sizeOf v
decreasing_by
  all_goals simp_wf
  · have := sizeOf_lt_of_mem ‹item ∈ items›
    omega
  · have := sizeOf_lt_of_mem ‹entry ∈ entries›
    obtain ⟨k,v⟩ := entry
    simp at this ⊢
    omega
  · have := sizeOf_lt_of_mem ‹entry ∈ entries›
    obtain ⟨k,v⟩ := entry
    simp at this ⊢
    omega
  · have := sizeOf_lt_of_mem ‹item ∈ items›
    omega
  · omega

end Value

end Shape

section Written

variable {first : Value} {rest : List Value}

variable {ctor : UInt8} {octets : Bytes}

/-! The encoder only appends, and this is what. -/

lemma encodeItems_eq {items : List Value}
    (each : ∀ item ∈ items, ∀ buf, encodeValue item buf = buf ++ encodeValue item []) (buf : Bytes) :
    encodeItems items buf = buf ++ (items.map (encodeValue · [])).flatten := by
  induction items generalizing buf with
  | nil => simp [encodeItems]
  | cons item rest ih =>
    rw [encodeItems,ih fun i member => each i (mem_cons_of_mem _ member),each item mem_cons_self]
    simp

lemma encodeEntries_eq {entries : List (Value × Value)}
    (each : ∀ entry ∈ entries, (∀ buf, encodeValue entry.1 buf = buf ++ encodeValue entry.1 []) ∧
      ∀ buf, encodeValue entry.2 buf = buf ++ encodeValue entry.2 []) (buf : Bytes) : encodeEntries entries buf =
      buf ++ (entries.map fun entry => encodeValue entry.1 [] ++ encodeValue entry.2 []).flatten := by
  induction entries generalizing buf with
  | nil => simp [encodeEntries]
  | cons entry rest ih =>
    obtain ⟨key,value⟩ := each entry mem_cons_self
    rw [encodeEntries,ih fun e member => each e (mem_cons_of_mem _ member),value,key]
    simp

lemma encodeValueArray_eq (items : List Value) (scratch : List Bytes) (bodies : List (Option (Bytes × Bytes)))
    (buf : Bytes) : encodeValueArray items scratch bodies buf = buf ++ encodeValueArray items scratch bodies [] := by
  have appended {code : FormatCode} {count : Nat} {written : Bytes} (buf : Bytes) :
      compound code count (fun buf => buf ++ written) buf =
        buf ++ compound code count (fun buf => buf ++ written) [] := by
    rw [compound_eq fun _ => rfl,compound_eq fun _ => rfl]
    rfl
  unfold encodeValueArray
  split
  · exact appended buf
  split
  · simp only [arrayEmit,append_assoc]
    exact appended buf
  split
  · unfold encodeDescribedArray
    split
    · simp only [append_assoc]
      exact appended buf
    · simp
  unfold encodeCompoundArray
  split
  · simp only [append_assoc]
    exact appended buf
  · simp

lemma encodeValue_eq (v : Value) : ∀ buf, encodeValue v buf = buf ++ encodeValue v [] := by
  induction v using Value.induction with
  | leaf v leaf => cases v with
    | list | map | array | described => cases leaf
    | _ => intro buf; rfl
  | list items each =>
    intro buf
    simp only [encodeValue]
    rw [compound_eq (encodeItems_eq each),compound_eq (encodeItems_eq each)]
    rfl
  | map entries each =>
    intro buf
    simp only [encodeValue]
    rw [compound_eq (encodeEntries_eq each),compound_eq (encodeEntries_eq each)]
    rfl
  | array =>
    intro buf
    simp only [encodeValue]
    exact encodeValueArray_eq ..
  | described d v descriptor body =>
    intro buf
    simp only [encodeValue]
    rw [body,descriptor,body (encodeValue d _),descriptor ([] ++ _)]
    simp

instance : Encode Value := ⟨encodeValue,encodeValue_eq⟩

lemma toVec_list (items : List Value) :
    toVec (Value.list items) = framed .list32 items.length (items.map toVec).flatten := by
  change compound .list32 items.length (encodeItems items) [] = _
  rw [compound_eq (encodeItems_eq fun item _ => encodeValue_eq item)]
  rfl

lemma toVec_map (entries : List (Value × Value)) : toVec (Value.map entries) = framed .map32 (2 * entries.length)
      (entries.map fun entry => toVec entry.1 ++ toVec entry.2).flatten := by
  change compound .map32 (2 * entries.length) (encodeEntries entries) [] = _
  rw [compound_eq (encodeEntries_eq fun entry _ => ⟨encodeValue_eq entry.1,encodeValue_eq entry.2⟩)]
  rfl

lemma toVec_described (d v : Value) : toVec (Value.described d v) = coded .described (toVec d ++ toVec v) := by
  change encodeValue v (encodeValue d [FormatCode.described.octet]) = _
  rw [encodeValue_eq v,encodeValue_eq d]
  simp [coded,toVec,encode]

lemma scratchItems_eq (items : List Value) : scratchItems items = items.map toVec := by
  induction items with
  | nil => rfl
  | cons item rest ih =>
    rw [scratchItems,ih]
    rfl

lemma toVec_array (items : List Value) :
    toVec (Value.array items) = encodeValueArray items (scratchItems items) (scratchBodies items) [] := rfl

lemma toVec_array_nil : toVec (Value.array []) = framed .array32 0 [FormatCode.null.octet] := by
  exact compound_eq (fun buf => rfl) []

lemma toVec_array_bare {code : FormatCode} (bare : arrayCode first = some code) :
    toVec (Value.array (first::rest)) = framed .array32 (first::rest).length
      (code.octet :: ((first::rest).map (bareElement code)).flatten) := by
  simp only [toVec_array,encodeValueArray,bare,arrayEmit]
  rw [compound_eq fun buf => append_assoc ..]
  rfl

lemma toVec_array_compound (wide : arrayCode first = none) (plain : first.type ≠ .described)
    (written : toVec first = ctor::octets) : toVec (Value.array (first::rest)) = framed .array32 (first::rest).length
      (ctor :: ((first::rest).map fun item => (toVec item).tail).flatten) := by
  have branch : toVec (Value.array (first::rest)) = encodeCompoundArray ((first::rest).map toVec) [] := by
    simp only [toVec_array,encodeValueArray,wide,scratchItems_eq]
    cases first with
    | described => exact absurd rfl plain
    | _ => rfl
  rw [branch]
  simp only [map_cons,written,encodeCompoundArray]
  rw [compound_eq fun buf => by rw [append_assoc,append_assoc]]
  simp [map_map,Function.comp_def]

lemma scratchBodies_eq (d : Value) (bodies : List Value) :
    scratchBodies (bodies.map (Value.described d)) = bodies.map fun v => some (toVec d,toVec v) := by
  induction bodies with
  | nil => rfl
  | cons v rest ih =>
    rw [map_cons,scratchBodies,ih]
    rfl

lemma toVec_array_described {d : Value} (written : toVec first = ctor::octets) :
    toVec (Value.array ((first::rest).map (Value.described d))) = framed .array32 (first::rest).length
      (FormatCode.described.octet :: (toVec d ++ ctor :: ((first::rest).map fun v => (toVec v).tail).flatten)) := by
  have branch : toVec (Value.array ((first::rest).map (Value.described d))) =
      encodeDescribedArray ((first::rest).map fun v => some (toVec d,toVec v)) [] := by
    simp only [toVec_array,scratchBodies_eq]
    rfl
  rw [branch]
  simp only [map_cons,written,encodeDescribedArray]
  rw [compound_eq fun buf => by rw [append_assoc,append_assoc,append_assoc,append_assoc]]
  simp [map_map,Function.comp_def]

end Written

end Ramqp.Wire
