import Ramqp.Semantics.Value
import Mathlib.Data.List.DropRight

/-! Composite types: a described list of fields. A type is declared by the kinds of its fields, from which its
encoder, that leaves out null fields at the end, and its decoder, that reads them as absent, are made. -/
namespace Ramqp.Wire

open List

section Headers

def readHeader (code8 code32 : FormatCode) (expected : String) : Decoder (Nat × Bytes) := do
  let code ← readU8
  let width := if FormatCode.ofOctet code = some code8 then some 1
    else if FormatCode.ofOctet code = some code32 then some 4 else none
  match width with
  | none => bad code expected
  | some width => do
    let size ← readNat width
    let body ← readBytes size
    Parser.within body fun body => match readNat width body with
      | .error e => .error e
      | .ok (count,elements) => .ok ((count,elements),[])

def readMapHeader : Decoder (Nat × Bytes) := readHeader .map8 .map32 "map"

def readArrayHeader : Decoder (Nat × Bytes) := readHeader .array8 .array32 "array"

def readListHeader : Decoder (Nat × Bytes) := fun buf =>
  if peekCode buf = some .list0 then .ok ((0,[]),buf.tail) else readHeader .list8 .list32 "list" buf

end Headers

section Maps

variable {κ υ : Type}

def encodeMapEntries [Encode κ] [Encode υ] (entries : List (κ × υ)) (buf : Bytes) : Bytes :=
  compound .map32 (2 * entries.length) (entries.foldl fun buf entry => encode entry.2 (encode entry.1 buf)) buf

lemma foldl_entries [Encode κ] [Encode υ] (entries : List (κ × υ)) (buf : Bytes) :
    entries.foldl (fun buf entry => encode entry.2 (encode entry.1 buf)) buf =
      buf ++ (entries.map fun entry => toVec entry.1 ++ toVec entry.2).flatten := by
  induction entries generalizing buf with
  | nil => simp
  | cons entry rest ih =>
    rw [foldl_cons,ih,encode_eq entry.2,encode_eq entry.1]
    simp

instance [Encode κ] [Encode υ] : Encode (List (κ × υ)) where
  encode := encodeMapEntries
  appends entries buf := by
    rw [encodeMapEntries,encodeMapEntries,compound_eq (foldl_entries entries),compound_eq (foldl_entries entries)]
    rfl

instance [Decode κ] [Decode υ] : Decode (List (κ × υ)) where
  decode := do
    let (count,body) ← readMapHeader
    if count % 2 = 0 then
      Parser.within body (Parser.times (count / 2) do
        let k ← decode
        let v ← decode
        pure (k,v))
    else throw (.invalidValue ("map has an odd element count " ++ toString count))

end Maps

section Symbols

def encodeSymbolArray (symbols : List Symbol) (buf : Bytes) : Bytes :=
  compound .array32 symbols.length (fun buf => buf ++ [FormatCode.sym32.octet] ++
    (symbols.map fun s => be 4 (asBytes s.text).length ++ asBytes s.text).flatten) buf

def decodeSymbolElement (ctor : UInt8) : Decoder Symbol := do
  let raw ← match FormatCode.ofOctet ctor with
    | some .sym8 => sizedBytes 1
    | some .sym32 => sizedBytes 4
    | _ => bad ctor "symbol array element"
  Symbol.mk <$> utf8String raw "symbol"

def decodeSymbolArray (count : Nat) : Decoder (List Symbol) :=
  if count = 0 then pure []
  else do
    let ctor ← readU8
    Parser.times count (decodeSymbolElement ctor)

end Symbols

section Descriptors

inductive Descriptor where
  | code (n : UInt64)
  | symbol (name : Symbol)
  deriving DecidableEq

def hex (n : Nat) : String := "0x" ++ .ofList (Nat.toDigits 16 n)

def Descriptor.display : Descriptor → String
  | code n => hex n.toNat
  | symbol name => name.text

def encodeDescriptor (code : UInt64) : Bytes :=
  if code.toNat ≤ 255 then coded .smallUlong (be 1 code.toNat) else coded .ulong (be 8 code.toNat)

def decodeDescriptor : Decoder Descriptor := fun buf =>
  match peekCode buf with
  | some .ulong0 | some .smallUlong | some .ulong => (Descriptor.code <$> (decode : Decoder UInt64)) buf
  | some .sym8 | some .sym32 => (Descriptor.symbol <$> (decode : Decoder Symbol)) buf
  | _ => match buf with
    | [] => .error (.eof 1)
    | code::_ => .error (.invalidFormatCode code "descriptor (ulong or symbol)")

def describedHeader : Decoder Descriptor := do
  let code ← readU8
  if code = FormatCode.described.octet then decodeDescriptor else bad code "described type (0x00)"

def peekDescriptor : Decoder Descriptor := fun buf =>
  match describedHeader buf with
  | .error e => .error e
  | .ok (descriptor,_) => .ok (descriptor,buf)

end Descriptors

section Writing

structure FieldWriter where
  buf : Bytes
  starts : List Nat

namespace FieldWriter

def put (write : Bytes → Bytes) (fw : FieldWriter) : FieldWriter := ⟨write fw.buf,fw.starts ++ [fw.buf.length]⟩

def field {α : Type} [Encode α] (x : α) : FieldWriter → FieldWriter := put (encode x)

def symbols (list : List Symbol) : FieldWriter → FieldWriter :=
  put (if list.isEmpty then encodeNull else encodeSymbolArray list)

def symbolsRequired (list : List Symbol) : FieldWriter → FieldWriter := put (encodeSymbolArray list)

def kept (fw : FieldWriter) : Nat → Nat
  | 0 => 0
  | count + 1 =>
    let start := fw.starts.getD count 0
    let stop := if count + 1 < fw.starts.length then fw.starts.getD (count + 1) 0 else fw.buf.length
    if stop - start = 1 ∧ fw.buf[start]? = some FormatCode.null.octet then fw.kept count else count + 1

end FieldWriter

def encodeDescribedList (descriptor : UInt64) (fields : FieldWriter → FieldWriter) (buf : Bytes) : Bytes :=
  let buf := buf ++ [FormatCode.described.octet] ++ encodeDescriptor descriptor
  let (buf,sizePos,countPos,contentStart) := openCompound buf .list32
  let fw := fields ⟨buf,[]⟩
  let total := fw.starts.length
  let count := fw.kept total
  let newLen := if count = total then fw.buf.length else if count = 0 then contentStart else fw.starts.getD count 0
  closeCompound (fw.buf.take newLen) sizePos countPos contentStart count

def offsets : Nat → List Bytes → List Nat
  | _,[] => []
  | base,block::rest => base :: offsets (base + block.length) rest

def Writes (fields : FieldWriter → FieldWriter) (blocks : List Bytes) : Prop :=
  ∀ buf starts, fields ⟨buf,starts⟩ = ⟨buf ++ blocks.flatten,starts ++ offsets buf.length blocks⟩

@[simp] lemma length_offsets (base : Nat) (blocks : List Bytes) : (offsets base blocks).length = blocks.length := by
  induction blocks generalizing base with
  | nil => rfl
  | cons block rest ih => simp [offsets,ih]

lemma offsets_getD (base : Nat) (before : List Bytes) (block : Bytes) (after : List Bytes) :
    (offsets base (before ++ block::after)).getD before.length 0 = base + before.flatten.length := by
  induction before generalizing base with
  | nil => simp [offsets]
  | cons first rest ih =>
    have := ih (base + first.length)
    simpa [offsets,Nat.add_assoc] using this

def present (blocks : List Bytes) : List Bytes := blocks.rdropWhile (· = [FormatCode.null.octet])

lemma kept_eq (start : Bytes) (before after : List Bytes) :
    FieldWriter.kept ⟨start ++ (before ++ after).flatten,offsets start.length (before ++ after)⟩ before.length =
      (present before).length := by
  induction before using List.reverseRecOn generalizing after with
  | nil => simp [FieldWriter.kept,present]
  | append_singleton before block ih =>
    have stop : (if before.length + 1 < (offsets start.length (before ++ block::after)).length
        then (offsets start.length (before ++ block::after)).getD (before.length + 1) 0
        else (start ++ (before ++ block::after).flatten).length) =
          start.length + before.flatten.length + block.length := by
      cases after with
      | nil => simp [Nat.add_assoc]
      | cons next others =>
        have := offsets_getD start.length (before ++ [block]) next others
        rw [if_pos (by simp)]
        simpa [Nat.add_assoc] using this
    have octet : (start ++ (before ++ block::after).flatten)[start.length + before.flatten.length]? =
        (block ++ after.flatten)[0]? := by
      rw [flatten_append,flatten_cons,← append_assoc,← length_append,
        getElem?_append_right le_rfl,Nat.sub_self]
    rw [append_assoc,singleton_append,length_append,length_singleton,FieldWriter.kept]
    simp only [stop,offsets_getD,octet,Nat.add_sub_cancel_left,present,rdropWhile_concat,decide_eq_true_eq]
    by_cases null : block = [FormatCode.null.octet]
    · have := ih (block::after)
      rw [if_pos null,if_pos (by simp [null]),this]
      rfl
    rw [if_neg null,if_neg,length_append,length_singleton]
    rintro ⟨single,first⟩
    obtain ⟨_,rfl⟩ := length_eq_one_iff.mp single
    exact null (by simpa using first)

lemma present_append (blocks : List Bytes) :
    ∃ elided, blocks = present blocks ++ elided ∧ ∀ block ∈ elided, block = [FormatCode.null.octet] := by
  induction blocks using List.reverseRecOn with
  | nil => exact ⟨[],rfl,fun _ member => by cases member⟩
  | append_singleton blocks block ih =>
    rw [present,rdropWhile_concat]
    split_ifs with null
    · obtain ⟨elided,same,nulls⟩ := ih
      refine ⟨elided ++ [block],?_,fun b member => ?_⟩
      · rw [← append_assoc]
        exact congrArg (· ++ [block]) same
      rcases mem_append.mp member with earlier | last
      · exact nulls b earlier
      · rw [mem_singleton.mp last]
        simpa using null
    · exact ⟨[],by simp,fun _ member => by cases member⟩

lemma truncate_eq (start : Bytes) (blocks : List Bytes) :
    (start ++ blocks.flatten).take (if (present blocks).length = blocks.length then (start ++ blocks.flatten).length
      else if (present blocks).length = 0 then start.length
      else (offsets start.length blocks).getD (present blocks).length 0) = start ++ (present blocks).flatten := by
  obtain ⟨elided,same,_⟩ := present_append blocks
  have length := congrArg List.length same
  rw [length_append] at length
  split_ifs with all none
  · have empty : elided = [] := length_eq_zero_iff.mp (by omega)
    rw [empty,append_nil] at same
    rw [take_length,← same]
  · rw [length_eq_zero_iff.mp none]
    simp
  obtain ⟨block,rest,rfl⟩ := exists_cons_of_ne_nil (show elided ≠ [] from fun empty => all (by rw [length,empty]; rfl))
  have stop := offsets_getD start.length (present blocks) block rest
  rw [← same] at stop
  have flat := congrArg List.flatten same
  rw [flatten_append] at flat
  rw [stop,flat,← append_assoc,← length_append,take_left]

lemma encodeDescribedList_eq {descriptor : UInt64} {fields : FieldWriter → FieldWriter} {blocks : List Bytes}
    (writes : Writes fields blocks) (buf : Bytes) :
    encodeDescribedList descriptor fields buf = buf ++ coded .described (encodeDescriptor descriptor ++
      framed .list32 (present blocks).length (present blocks).flatten) := by
  have closed : compound .list32 (present blocks).length (fun buf => buf ++ (present blocks).flatten)
      (buf ++ [FormatCode.described.octet] ++ encodeDescriptor descriptor) = _ := compound_eq (fun _ => rfl) _
  have kept (start : Bytes) : FieldWriter.kept ⟨start ++ blocks.flatten,offsets start.length blocks⟩ blocks.length =
      (present blocks).length := by simpa using kept_eq start blocks []
  simp only [compound,openCompound] at closed
  simp only [encodeDescribedList,openCompound,writes _ [],nil_append,length_offsets,kept,truncate_eq]
  rw [closed]
  simp [coded]

end Writing

section Reading

structure ListDecoder where
  body : Bytes
  remaining : Nat

abbrev FieldDecoder (α : Type) := StateT ListDecoder (Except DecodeError) α

namespace ListDecoder

variable {α : Type}

def advanceOne (p : Decoder α) : FieldDecoder α := fun d =>
  match p d.body with
  | .error e => .error e
  | .ok (x,body) => .ok (x,⟨body,d.remaining - 1⟩)

def opt [Decode α] : FieldDecoder (Option α) := fun d =>
  if d.remaining = 0 then .ok (none,d)
  else if peekCode d.body = some .null then .ok (none,⟨d.body.tail,d.remaining - 1⟩)
  else advanceOne (some <$> decode) d

def req [Decode α] (field : String) : FieldDecoder α := fun d =>
  if d.remaining = 0 ∨ peekCode d.body = some .null then .error (.missingField field)
  else advanceOne decode d

def multiple : Decoder (List Symbol) := fun body =>
  match peekCode body with
  | some .array8 | some .array32 => (do
      let (count,elements) ← readArrayHeader
      Parser.within elements (decodeSymbolArray count) : Decoder (List Symbol)) body
  | _ => ((fun symbol => [symbol]) <$> (decode : Decoder Symbol)) body

def reqSymbols (field : String) : FieldDecoder (List Symbol) := fun d =>
  if d.remaining = 0 ∨ peekCode d.body = some .null then .error (.missingField field)
  else advanceOne multiple d

def symbols : FieldDecoder (List Symbol) := fun d =>
  if d.remaining = 0 then .ok ([],d)
  else if peekCode d.body = some .null then .ok ([],⟨d.body.tail,d.remaining - 1⟩)
  else advanceOne multiple d

end ListDecoder

def decodeDescribedList (expected : UInt64) : Decoder ListDecoder := do
  let descriptor ← describedHeader
  if descriptor = .code expected then do
    let (count,body) ← readListHeader
    pure ⟨body,count⟩
  else throw (.unexpectedDescriptor expected descriptor.display)

end Reading

section Declaring

inductive FieldKind : Type → Type 1 where
  | req {α : Type} [Encode α] [Decode α] (name : String) : FieldKind α
  | opt {α : Type} [Encode α] [Decode α] : FieldKind (Option α)
  | default {α : Type} [Encode α] [Decode α] (value : α) : FieldKind α
  | symbols : FieldKind (List Symbol)
  | reqSymbols (name : String) : FieldKind (List Symbol)

namespace FieldKind

def write : {α : Type} → FieldKind α → α → FieldWriter → FieldWriter
  | _,req _,x => FieldWriter.field x
  | _,opt,x => FieldWriter.field x
  | _,default _,x => FieldWriter.field x
  | _,symbols,x => FieldWriter.symbols x
  | _,reqSymbols _,x => FieldWriter.symbolsRequired x

def read : {α : Type} → FieldKind α → FieldDecoder α
  | _,req name => ListDecoder.req name
  | _,opt => ListDecoder.opt
  | _,default value => (·.getD value) <$> ListDecoder.opt
  | _,symbols => ListDecoder.symbols
  | _,reqSymbols name => ListDecoder.reqSymbols name

end FieldKind

inductive FieldList : Type → Type 1 where
  | nil : FieldList Unit
  | cons {α β : Type} (kind : FieldKind α) (rest : FieldList β) : FieldList (α × β)

namespace FieldList

def write : {τ : Type} → FieldList τ → τ → FieldWriter → FieldWriter
  | _,nil,_ => id
  | _,cons kind rest,(x,xs) => fun fw => rest.write xs (kind.write x fw)

def read : {τ : Type} → FieldList τ → FieldDecoder τ
  | _,nil => pure ()
  | _,cons kind rest => do
    let x ← kind.read
    let xs ← rest.read
    pure (x,xs)

end FieldList

structure Composite (σ : Type) where
  descriptor : UInt64
  {Parts : Type}
  fields : FieldList Parts
  parts : σ → Parts
  build : Parts → σ
  build_parts : ∀ x, build (parts x) = x

namespace Composite

variable {σ : Type} (c : Composite σ)

def write (x : σ) (buf : Bytes) : Bytes := encodeDescribedList c.descriptor (c.fields.write (c.parts x)) buf

def read : Decoder σ := do
  let d ← decodeDescribedList c.descriptor
  match c.fields.read d with
  | .error e => throw e
  | .ok (parts,_) => pure (c.build parts)

end Composite

def symbolArray (symbols : List Symbol) : Bytes :=
  framed .array32 symbols.length (FormatCode.sym32.octet ::
    (symbols.map fun s => be 4 (asBytes s.text).length ++ asBytes s.text).flatten)

lemma encodeSymbolArray_eq (symbols : List Symbol) (buf : Bytes) :
    encodeSymbolArray symbols buf = buf ++ symbolArray symbols := by
  rw [encodeSymbolArray,compound_eq fun buf => append_assoc ..]
  rfl

def FieldKind.block : {α : Type} → FieldKind α → α → Bytes
  | _,req _,x => toVec x
  | _,opt,x => toVec x
  | _,default _,x => toVec x
  | _,symbols,x => if x.isEmpty then [FormatCode.null.octet] else symbolArray x
  | _,reqSymbols _,x => symbolArray x

def FieldList.blocks : {τ : Type} → FieldList τ → τ → List Bytes
  | _,nil,_ => []
  | _,cons kind rest,(x,xs) => kind.block x :: rest.blocks xs

lemma FieldKind.write_eq {α : Type} (kind : FieldKind α) (x : α) (fw : FieldWriter) :
    kind.write x fw = ⟨fw.buf ++ kind.block x,fw.starts ++ [fw.buf.length]⟩ := by
  cases kind with
  | req | opt | default => simp [write,FieldWriter.field,FieldWriter.put,block,encode_eq]
  | reqSymbols => simp [write,FieldWriter.symbolsRequired,FieldWriter.put,block,encodeSymbolArray_eq]
  | symbols =>
    simp only [write,FieldWriter.symbols,FieldWriter.put,block]
    split_ifs
    · rfl
    · rw [encodeSymbolArray_eq]

lemma FieldList.writes {τ : Type} (fields : FieldList τ) (xs : τ) : Writes (fields.write xs) (fields.blocks xs) := by
  induction fields with
  | nil => intro buf starts; simp [write,blocks,offsets]
  | cons kind rest ih =>
    intro buf starts
    change rest.write xs.2 (kind.write xs.1 ⟨buf,starts⟩) = _
    rw [FieldKind.write_eq,ih]
    simp [blocks,offsets]

lemma Composite.write_eq {σ : Type} (c : Composite σ) (x : σ) (buf : Bytes) :
    c.write x buf = buf ++ c.write x [] := by
  rw [write,write,encodeDescribedList_eq (c.fields.writes _),encodeDescribedList_eq (c.fields.writes _)]
  rfl

@[reducible] def Composite.toEncode {σ : Type} (c : Composite σ) : Encode σ := ⟨c.write,c.write_eq⟩

@[reducible] def Composite.toDecode {σ : Type} (c : Composite σ) : Decode σ := ⟨c.read⟩

end Declaring

end Ramqp.Wire
