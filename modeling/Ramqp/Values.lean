import Ramqp.Semantics.Value
import Ramqp.Primitives

/-! What the encoder writes for a value, constructor and octets, and that the decoder reads it back: a value
within the decoder's bounds whose arrays are of one type is decoded from its encoding. -/
namespace Ramqp.Wire

open List Value

open Parser (Reads)

variable {items : List Value} {entries : List (Value × Value)}

section Bounds

namespace Value

/-- An array whose elements can share a constructor: all of one type, not described, and few enough if they
have no octets. -/
def Homogeneous (items : List Value) : Prop :=
  ∀ first ∈ items.head?, (∀ item ∈ items, item.type = first.type) ∧ first.type ≠ .described ∧
    (first.type = .null → items.length ≤ maxZeroWidthArray)

mutual

def Regular : Value → Prop
  | list items => RegularItems items
  | map entries => RegularEntries entries
  | array items => Homogeneous items ∧ RegularItems items
  | described d v => d.Regular ∧ v.Regular
  | _ => True

def RegularItems : List Value → Prop
  | [] => True
  | item::rest => item.Regular ∧ RegularItems rest

def RegularEntries : List (Value × Value) → Prop
  | [] => True
  | (k,v)::rest => k.Regular ∧ v.Regular ∧ RegularEntries rest

end

mutual

/-- How many levels of compound and described values the deepest value lies below this one. -/
def depth : Value → Nat
  | list items => itemsDepth items
  | map entries => entriesDepth entries
  | array items => itemsDepth items
  | described d v => max d.depth v.depth + 1
  | _ => 0

def itemsDepth : List Value → Nat
  | [] => 0
  | item::rest => max (item.depth + 1) (itemsDepth rest)

def entriesDepth : List (Value × Value) → Nat
  | [] => 0
  | (k,v)::rest => max (max k.depth v.depth + 1) (entriesDepth rest)

end

/-- Every length and size the encoding carries is a number of 32 bits; the size of a compound counts the octets
after it. -/
def Fits : Value → Prop
  | binary bytes => bytes.length < 2^32
  | string text => (asBytes text).length < 2^32
  | symbol name => (asBytes name.text).length < 2^32
  | list items => (toVec (list items)).length < 2^32 + 5
  | map entries => (toVec (map entries)).length < 2^32 + 5
  | array items => (toVec (array items)).length < 2^32 + 5
  | described d v => d.Fits ∧ v.Fits
  | _ => True

lemma regular_of_mem (regular : RegularItems items) (member : item ∈ items) : item.Regular := by
  induction items with
  | nil => cases member
  | cons first rest ih =>
    rcases mem_cons.mp member with rfl | later
    · exact regular.1
    · exact ih regular.2 later

lemma regular_of_mem_entries (regular : RegularEntries entries)
    (member : entry ∈ entries) : entry.1.Regular ∧ entry.2.Regular := by
  induction entries with
  | nil => cases member
  | cons first rest ih =>
    rcases mem_cons.mp member with rfl | later
    · exact ⟨regular.1,regular.2.1⟩
    · exact ih regular.2.2 later

lemma depth_of_mem (member : item ∈ items) : item.depth < itemsDepth items := by
  induction items with
  | nil => cases member
  | cons first rest ih =>
    rw [itemsDepth]
    rcases mem_cons.mp member with rfl | later
    · omega
    · have := ih later
      omega

lemma depth_of_mem_entries (member : entry ∈ entries) :
    entry.1.depth < entriesDepth entries ∧ entry.2.depth < entriesDepth entries := by
  induction entries with
  | nil => cases member
  | cons first rest ih =>
    obtain ⟨k,v⟩ := first
    rw [entriesDepth]
    rcases mem_cons.mp member with rfl | later
    · constructor <;> dsimp only <;> omega
    · have := ih later
      omega

lemma fits_of_length {v : Value} (small : (toVec v).length < 2^32) : v.Fits := by
  induction v using induction with
  | leaf v leaf => cases v with
    | list | map | array | described => cases leaf
    | binary bytes => exact (length_encodeVar .vbin8 .vbin32 bytes).trans small
    | string text => exact (length_encodeVar .str8 .str32 (asBytes text)).trans small
    | symbol symbol => exact (length_encodeVar .sym8 .sym32 (asBytes symbol.text)).trans small
    | _ => trivial
  | list | map | array => exact Nat.lt_add_right 5 small
  | described d v descriptor body =>
    rw [toVec_described,coded,length_cons,length_append] at small
    exact ⟨descriptor (by omega),body (by omega)⟩

end Value

end Bounds

variable {left : Nat} {width : Nat}

section Leaves

variable {code : FormatCode} {v : Value}

lemma reads_known {octets : Bytes} (read : Reads (decodeAs (decodeValueBody left) code) octets v) :
    Reads (decodeValueBody (left + 1) code.octet) octets v := by
  simpa [decodeValueBody] using read

lemma reads_fixed {n : Nat} (octets : Octets n) : Reads (fixed n) octets.val octets := by
  intro rest
  obtain ⟨octets,rfl⟩ := octets
  simp [fixed]

lemma charFromU32_val : charFromU32 c.val = some c := dif_pos c.valid

variable (body : UInt8 → Decoder Value)

lemma reads_string {text : String} (fits : (asBytes text).length < 256^width) (same : decodeAs body code = do
      let raw ← sizedBytes width
      string <$> utf8String raw "string") :
    Reads (decodeAs body code) (be width (asBytes text).length ++ asBytes text) (.string text) := by
  rw [same]
  exact (reads_length fits).bind_nil ((reads_utf8String text _).map string)

lemma reads_symbol {symbol : Symbol} (fits : (asBytes symbol.text).length < 256^width) (same : decodeAs body code = do
      let raw ← sizedBytes width
      (fun text => Value.symbol ⟨text⟩) <$> utf8String raw "symbol") :
    Reads (decodeAs body code) (be width (asBytes symbol.text).length ++ asBytes symbol.text) (.symbol symbol) := by
  rw [same]
  exact (reads_length fits).bind_nil ((reads_utf8String symbol.text _).map fun text => Value.symbol ⟨text⟩)

lemma reads_char : Reads (decodeAs body .char) (be 4 c.toNat) (.char c) := by
  refine (reads_readU32 c.val).bind_nil ?_
  rw [charFromU32_val]
  exact Reads.pure _

lemma reads_int (n : Int32) : Reads (decodeAs body .int) (be 4 n.toUInt32.toNat) (.int n) :=
  (reads_readU32 n.toUInt32).map _

lemma reads_long : Reads (decodeAs body .long) (be 8 n.toUInt64.toNat) (.long n) :=
  (reads_readU64 n.toUInt64).map _

lemma reads_byte (n : Int8) : Reads (decodeAs body .byte) (be 1 n.toUInt8.toNat) (.byte n) :=
  (reads_readU8 n.toUInt8).map _

lemma reads_short (n : Int16) : Reads (decodeAs body .short) (be 2 n.toUInt16.toNat) (.short n) :=
  (reads_readU16 n.toUInt16).map _

lemma reads_timestamp : Reads (decodeAs body .timestamp) (be 8 n.toUInt64.toNat) (.timestamp n) :=
  (reads_readU64 n.toUInt64).map _

lemma reads_bareElement (bare : arrayCode v = some code) (fits : v.Fits) :
    Reads (decodeAs body code) (bareElement code v) v := by
  cases v with
  | list | map | array | described => cases bare
  | null => cases bare; exact Reads.pure _
  | bool b =>
    cases bare
    cases b <;> exact (reads_octet _).bind_nil (Reads.pure _)
  | ubyte n => cases bare; exact (reads_readU8 n).map _
  | ushort n => cases bare; exact (reads_readU16 n).map _
  | uint n | float n => cases bare; exact (reads_readU32 n).map _
  | ulong n | double n => cases bare; exact (reads_readU64 n).map _
  | byte n => cases bare; exact reads_byte body n
  | short n => cases bare; exact reads_short body n
  | int n => cases bare; exact reads_int body n
  | long n => cases bare; exact reads_long body
  | decimal32 octets | decimal64 octets | decimal128 octets | uuid octets =>
    cases bare; exact (reads_fixed octets).map _
  | char c => cases bare; exact reads_char body
  | timestamp n => cases bare; exact reads_timestamp body
  | binary => cases bare; exact (reads_length fits).map _
  | string => cases bare; exact reads_string body fits rfl
  | symbol => cases bare; exact reads_symbol body fits rfl

lemma leaf_reads (leaf : v.isLeaf) (fits : v.Fits) :
    ∃ code octets, toVec v = coded code octets ∧ ∀ body, Reads (decodeAs body code) octets v := by
  cases v with
  | list | map | array | described => cases leaf
  | null => exact ⟨.null,[],rfl,fun _ => Reads.pure _⟩
  | bool b => cases b with
    | false => exact ⟨.boolFalse,[],rfl,fun _ => Reads.pure _⟩
    | true => exact ⟨.boolTrue,[],rfl,fun _ => Reads.pure _⟩
  | ubyte n => exact ⟨.ubyte,_,rfl,fun _ => (reads_readU8 n).map _⟩
  | ushort n => exact ⟨.ushort,_,rfl,fun _ => (reads_readU16 n).map _⟩
  | uint n =>
    change ∃ code octets, (if n = 0 then _ else if n.toNat ≤ 255 then _ else _) = _ ∧ _
    split_ifs with zero small
    · subst zero
      exact ⟨.uint0,[],rfl,fun _ => Reads.pure _⟩
    · obtain ⟨octet,same⟩ := smallUint_eq small
      refine ⟨.smallUint,_,rfl,fun _ => ?_⟩
      simpa [decodeAs,octet,same] using (reads_readU8 n.toUInt8).map fun n => uint n.toUInt32
    · exact ⟨.uint,_,rfl,fun _ => (reads_readU32 n).map _⟩
  | ulong n =>
    change ∃ code octets, (if n = 0 then _ else if n.toNat ≤ 255 then _ else _) = _ ∧ _
    split_ifs with zero small
    · subst zero
      exact ⟨.ulong0,[],rfl,fun _ => Reads.pure _⟩
    · obtain ⟨octet,same⟩ := smallUlong_eq small
      refine ⟨.smallUlong,_,rfl,fun _ => ?_⟩
      simpa [decodeAs,octet,same] using (reads_readU8 n.toUInt8).map fun n => ulong n.toUInt64
    · exact ⟨.ulong,_,rfl,fun _ => (reads_readU64 n).map _⟩
  | byte n => exact ⟨.byte,_,rfl,fun body => reads_byte body n⟩
  | short n => exact ⟨.short,_,rfl,fun body => reads_short body n⟩
  | int n =>
    change ∃ code octets, (if -128 ≤ n.toInt ∧ n.toInt ≤ 127 then _ else _) = _ ∧ _
    split_ifs with small
    · refine ⟨.smallInt,_,rfl,fun _ => ?_⟩
      simpa [decodeAs,smallInt_eq small] using (reads_readU8 n.toInt8.toUInt8).map fun n => int n.toInt8.toInt32
    · exact ⟨.int,_,rfl,fun body => reads_int body n⟩
  | long n =>
    change ∃ code octets, (if -128 ≤ n.toInt ∧ n.toInt ≤ 127 then _ else _) = _ ∧ _
    split_ifs with small
    · refine ⟨.smallLong,_,rfl,fun _ => ?_⟩
      simpa [decodeAs,smallLong_eq small] using (reads_readU8 n.toInt8.toUInt8).map fun n => long n.toInt8.toInt64
    · exact ⟨.long,_,rfl,fun body => reads_long body⟩
  | float n => exact ⟨.float,_,rfl,fun _ => (reads_readU32 n).map _⟩
  | double n => exact ⟨.double,_,rfl,fun _ => (reads_readU64 n).map _⟩
  | decimal32 octets => exact ⟨.decimal32,_,rfl,fun _ => (reads_fixed octets).map _⟩
  | decimal64 octets => exact ⟨.decimal64,_,rfl,fun _ => (reads_fixed octets).map _⟩
  | decimal128 octets => exact ⟨.decimal128,_,rfl,fun _ => (reads_fixed octets).map _⟩
  | char c => exact ⟨.char,_,rfl,fun body => reads_char body⟩
  | timestamp n => exact ⟨.timestamp,_,rfl,fun body => reads_timestamp body⟩
  | uuid octets => exact ⟨.uuid,_,rfl,fun _ => (reads_fixed octets).map _⟩
  | binary =>
    change ∃ code octets, encodeVar _ _ _ = _ ∧ _
    unfold encodeVar
    split_ifs with short
    · exact ⟨.vbin8,_,rfl,fun _ => (reads_length (Nat.lt_succ_of_le short)).map _⟩
    · exact ⟨.vbin32,_,rfl,fun _ => (reads_length fits).map _⟩
  | string =>
    change ∃ code octets, encodeVar _ _ _ = _ ∧ _
    unfold encodeVar
    split_ifs with short
    · exact ⟨.str8,_,rfl,fun body => reads_string body (Nat.lt_succ_of_le short) rfl⟩
    · exact ⟨.str32,_,rfl,fun body => reads_string body fits rfl⟩
  | symbol =>
    change ∃ code octets, encodeVar _ _ _ = _ ∧ _
    unfold encodeVar
    split_ifs with short
    · exact ⟨.sym8,_,rfl,fun body => reads_symbol body (Nat.lt_succ_of_le short) rfl⟩
    · exact ⟨.sym32,_,rfl,fun body => reads_symbol body fits rfl⟩

end Leaves

variable {blocks : List Bytes} {code : FormatCode} {v : Value}

section Compounds

variable {body : UInt8 → Decoder Value} {content : Bytes} {count : Nat}

lemma reads_sized {α : Type} {left : Bytes} {x : α} {elements : Nat → Decoder α}
    (small : content.length + width < 256^width) (counted : count < 256^width)
    (read : elements count content = .ok (x,left)) :
    Reads (sized width elements) (be width (content.length + width) ++ be width count ++ content) x := by
  have inner : (do let count ← readNat width; elements count) (be width count ++ content) = .ok (x,left) :=
    (Parser.bind_of_ok (reads_readNat counted content)).trans read
  have size : content.length + width = (be width count ++ content).length := by simp [Nat.add_comm]
  rw [append_assoc]
  refine (reads_readNat small).bind ?_
  rw [size]
  exact (reads_readBytes _).bind_nil (Reads.within inner)

lemma length_le_flatten (filled : ∀ block ∈ blocks, block ≠ []) : blocks.length ≤ blocks.flatten.length := by
  induction blocks with
  | nil => simp
  | cons block rest ih =>
    have one := length_pos_of_ne_nil (filled block mem_cons_self)
    have := ih fun b member => filled b (mem_cons_of_mem _ member)
    simp only [length_cons,flatten_cons,length_append]
    omega

lemma ne_nil_of_reads {bytes : Bytes} (read : Reads (decodeTyped body) bytes v) : bytes ≠ [] := by
  rintro rfl
  cases read []

lemma framed_fits (fits : (framed code count content).length < 2^32 + 5) : content.length + 4 < 256^4 := by
  simp only [framed,coded,length_cons,length_append,BigEndian.length_encode] at fits
  omega

lemma reads_list (fits : (list items).Fits)
    (each : ∀ item ∈ items, Reads (decodeTyped body) (toVec item) item) :
    ∃ octets, toVec (list items) = coded .list32 octets ∧ Reads (decodeAs body .list32) octets (.list items) := by
  refine ⟨_,toVec_list items,?_⟩
  rw [Value.Fits,toVec_list] at fits
  have small := framed_fits fits
  have counted : items.length ≤ (items.map toVec).flatten.length := by
    rw [← length_map toVec]
    refine length_le_flatten fun block member => ?_
    obtain ⟨item,present,rfl⟩ := mem_map.mp member
    exact ne_nil_of_reads (each item present)
  have elements : List.Forall₂ (Reads (decodeTyped body)) (items.map toVec) items :=
    forall₂_map_left_iff.mpr (forall₂_same.mpr each)
  exact (reads_sized small (by omega) (Reads.times elements).alone).map _

lemma reads_map (fits : (map entries).Fits)
    (each : ∀ entry ∈ entries, Reads (decodeTyped body) (toVec entry.1) entry.1 ∧
      Reads (decodeTyped body) (toVec entry.2) entry.2) :
    ∃ octets, toVec (map entries) = coded .map32 octets ∧ Reads (decodeAs body .map32) octets (.map entries) := by
  refine ⟨_,toVec_map entries,?_⟩
  rw [Value.Fits,toVec_map] at fits
  have small := framed_fits fits
  have counted : 2 * entries.length ≤ (entries.map fun entry => toVec entry.1 ++ toVec entry.2).flatten.length := by
    clear fits small
    induction entries with
    | nil => simp
    | cons entry rest ih =>
      obtain ⟨key,value⟩ := each entry mem_cons_self
      have first := length_pos_of_ne_nil (ne_nil_of_reads key)
      have second := length_pos_of_ne_nil (ne_nil_of_reads value)
      have := ih fun e member => each e (mem_cons_of_mem _ member)
      simp only [map_cons,flatten_cons,length_append,length_cons]
      omega
  have elements : List.Forall₂ (Reads (do
      let k ← decodeTyped body
      let v ← decodeTyped body
      pure (k,v))) (entries.map fun entry => toVec entry.1 ++ toVec entry.2) entries :=
    forall₂_map_left_iff.mpr (forall₂_same.mpr fun entry member =>
      (each entry member).1.bind ((each entry member).2.bind_nil (Reads.pure _)))
  have content : decodeMap body (2 * entries.length)
      (entries.map fun entry => toVec entry.1 ++ toVec entry.2).flatten = .ok (entries,[]) := by
    rw [decodeMap,if_pos (Nat.mul_mod_right ..),Nat.mul_div_cancel_left _ (by decide)]
    exact (Reads.times elements).alone
  exact (reads_sized small (by omega) content).map _

lemma reads_array {items : List Value} {blocks : List Bytes} {code : FormatCode} (plain : code ≠ .described)
    (each : List.Forall₂ (Reads (body code.octet)) blocks items)
    (filled : zeroWidth code.octet = false → ∀ block ∈ blocks, block ≠ [])
    (few : zeroWidth code.octet = true → items.length ≤ maxZeroWidthArray)
    (fits : (framed .array32 items.length (code.octet::blocks.flatten)).length < 2^32 + 5) :
    Reads (decodeAs body .array32) (be 4 ((code.octet::blocks.flatten).length + 4) ++ be 4 items.length ++
      code.octet::blocks.flatten) (.array items) := by
  have small := framed_fits fits
  have enough : items.length ≤ if zeroWidth code.octet then maxZeroWidthArray else blocks.flatten.length := by
    cases zero : zeroWidth code.octet with
    | true => exact few zero
    | false =>
      rw [← each.length_eq]
      exact length_le_flatten (filled zero)
  have counted : items.length < 256^4 := by
    refine lt_of_le_of_lt enough ?_
    simp only [length_cons] at small
    split
    · decide
    · omega
  have content : decodeArray body items.length (code.octet::blocks.flatten) = .ok (items,[]) := by
    refine (Parser.bind_of_ok (reads_octet code.octet blocks.flatten)).trans ?_
    rw [if_neg fun same => plain (FormatCode.octet_injective same)]
    have checked : checkArrayCount items.length code.octet blocks.flatten = .ok ((),blocks.flatten) := by
      rw [checkArrayCount,if_neg (Nat.not_lt.mpr enough)]
    rw [Parser.bind_of_ok checked]
    exact (Reads.times each).alone
  exact (reads_sized small counted content).map _

end Compounds

section Arrays

variable {v : Value} {code : FormatCode}

lemma arrayCode_congr {item : Value} (same : item.type = v.type) : arrayCode item = arrayCode v := by
  cases item <;> cases v <;> first | rfl | cases same

section

variable (bare : arrayCode v = some code)

include bare

lemma arrayCode_plain : code ≠ .described := by
  cases v <;> cases bare <;> decide

lemma arrayCode_null (zero : zeroWidth code.octet = true) : v.type = .null := by
  cases v <;> cases bare <;> first | rfl | cases zero

lemma bareElement_ne_nil (wide : zeroWidth code.octet = false) :
    bareElement code v ≠ [] := by
  intro empty
  cases v with
  | list | map | array | described => cases bare
  | null => cases bare; cases wide
  | decimal32 octets | decimal64 octets | decimal128 octets | uuid octets =>
    cases bare; exact absurd octets.property (by rw [show octets.val = [] from empty]; decide)
  | _ => cases bare; cases empty

lemma fits_of_bareElement (small : (bareElement code v).length < 2^32) :
    v.Fits := by
  cases v with
  | list | map | array | described => cases bare
  | binary | string | symbol =>
    cases bare
    simp only [bareElement,length_append,BigEndian.length_encode] at small
    exact Nat.lt_of_le_of_lt (Nat.le_add_left _ 4) small
  | _ => trivial

end

def AmqpType.compoundCode : AmqpType → FormatCode
  | list => .list32
  | map => .map32
  | _ => .array32

private def Filled (v : Value) : Prop := toVec v ≠ [] ∧ ∀ d body, v = .described d body → toVec body ≠ []

lemma array_opened (filled : ∀ item ∈ items, Filled item) :
    ∃ count content, toVec (array items) = framed .array32 count content := by
  cases items with
  | nil => exact ⟨_,_,toVec_array_nil⟩
  | cons first rest =>
    obtain ⟨whole,inner⟩ := filled first mem_cons_self
    cases bare : arrayCode first with
    | some => exact ⟨_,_,toVec_array_bare bare⟩
    | none =>
      by_cases plain : first.type = .described
      · cases first with
        | described d body =>
          obtain ⟨_,_,written⟩ := exists_cons_of_ne_nil (inner d body rfl)
          change ∃ count content, encodeValue (.array (.described d body::rest)) [] = _
          have branch : encodeValue (.array (.described d body::rest)) [] =
              encodeDescribedArray (some (toVec d,toVec body) :: scratchBodies rest) [] := by
            rw [encodeValue]
            rfl
          rw [branch,written]
          simp only [encodeDescribedArray,append_assoc]
          exact ⟨_,_,compound_eq (fun buf => rfl) []⟩
        | _ => cases plain
      · obtain ⟨_,_,written⟩ := exists_cons_of_ne_nil whole
        exact ⟨_,_,toVec_array_compound bare plain written⟩

lemma filled : Filled v := by
  induction v using induction with
  | leaf v leaf =>
    refine ⟨?_,fun d body same => by rw [same] at leaf; cases leaf⟩
    cases v with
    | list | map | array | described => cases leaf
    | uint n | ulong n =>
      change (if n = 0 then _ else if n.toNat ≤ 255 then _ else _) ≠ []
      split_ifs <;> exact cons_ne_nil _ _
    | int n | long n =>
      change (if -128 ≤ n.toInt ∧ n.toInt ≤ 127 then _ else _) ≠ []
      split_ifs <;> exact cons_ne_nil _ _
    | binary | string | symbol =>
      change encodeVar _ _ _ ≠ []
      unfold encodeVar
      split_ifs <;> exact cons_ne_nil _ _
    | _ => exact cons_ne_nil _ _
  | list items => exact ⟨toVec_list items ▸ cons_ne_nil _ _,fun _ _ same => by cases same⟩
  | map entries => exact ⟨toVec_map entries ▸ cons_ne_nil _ _,fun _ _ same => by cases same⟩
  | array items each =>
    obtain ⟨_,_,written⟩ := array_opened each
    exact ⟨written ▸ cons_ne_nil _ _,fun _ _ same => by cases same⟩
  | described d v _ body =>
    refine ⟨toVec_described d v ▸ cons_ne_nil _ _,fun _ _ same => ?_⟩
    cases same
    exact body.1

lemma toVec_ne_nil : toVec v ≠ [] := filled.1

lemma compound_written (wide : arrayCode v = none) (plain : v.type ≠ .described) :
    ∃ count content, toVec v = framed v.type.compoundCode count content := by
  cases v with
  | list items => exact ⟨_,_,toVec_list items⟩
  | map entries => exact ⟨_,_,toVec_map entries⟩
  | described => exact absurd rfl plain
  | array => exact array_opened fun item _ => filled
  | _ => cases wide

end Arrays

section Round

lemma length_le_of_mem {block : Bytes} (member : block ∈ blocks) :
    block.length ≤ blocks.flatten.length := (sublist_flatten_of_mem member).length_le

def Restored (left : Nat) (v : Value) : Prop :=
  ∃ code octets, toVec v = coded code octets ∧ Reads (decodeValueBody left code.octet) octets v

lemma Restored.reads (restored : Restored left v) : Reads (decodeTyped (decodeValueBody left)) (toVec v) v := by
  obtain ⟨_,_,written,read⟩ := restored
  rw [written]
  exact reads_coded read

lemma restored_bare (bare : arrayCode first = some code) (homogeneous : Value.Homogeneous (first::rest))
    (fits : (array (first::rest)).Fits) : Restored (left + 2) (.array (first::rest)) := by
  obtain ⟨same,_,few⟩ := homogeneous first rfl
  rw [Value.Fits,toVec_array_bare bare] at fits
  have codes : ∀ item ∈ first::rest, arrayCode item = some code :=
    fun item member => (arrayCode_congr (same item member)).trans bare
  have small := framed_fits fits
  have each : List.Forall₂ (Reads (decodeValueBody (left + 1) code.octet)) ((first::rest).map (bareElement code))
      (first::rest) := by
    refine forall₂_map_left_iff.mpr (forall₂_same.mpr fun item member => ?_)
    have length := length_le_of_mem (mem_map_of_mem (f := bareElement code) member)
    refine reads_known (reads_bareElement _ (codes item member) (fits_of_bareElement (codes item member) ?_))
    rw [length_cons] at small
    omega
  refine ⟨.array32,_,toVec_array_bare bare,reads_known (reads_array (arrayCode_plain bare) each ?_ ?_ fits)⟩
  · intro wide block member
    obtain ⟨item,present,rfl⟩ := mem_map.mp member
    exact bareElement_ne_nil (codes item present) wide
  · exact fun zero => few (arrayCode_null bare zero)

lemma compoundCode_wide (type : AmqpType) :
    zeroWidth type.compoundCode.octet = false ∧ type.compoundCode ≠ .described := by
  cases type <;> exact ⟨rfl,by decide⟩

lemma restored_compounds (wide : arrayCode first = none)
    (homogeneous : Value.Homogeneous (first::rest)) (fits : (array (first::rest)).Fits)
    (each : ∀ item ∈ first::rest, (toVec item).length < 2^32 → Restored left item) :
    Restored (left + 1) (.array (first::rest)) := by
  obtain ⟨same,plain,_⟩ := homogeneous first rfl
  -- every element begins with the constructor of the first
  have written : ∀ item ∈ first::rest, ∃ count content, toVec item = framed first.type.compoundCode count content := by
    intro item member
    rw [← same item member]
    refine compound_written ((arrayCode_congr (same item member)).trans wide) ?_
    rw [same item member]
    exact plain
  obtain ⟨count,content,opened⟩ := written first mem_cons_self
  have shape := @toVec_array_compound first rest _ _ wide plain (opened.trans rfl)
  rw [Value.Fits,shape] at fits
  have small := framed_fits fits
  refine ⟨.array32,_,shape,reads_known (reads_array (compoundCode_wide _).2 ?_ ?_ ?_ fits)⟩
  · refine forall₂_map_left_iff.mpr (forall₂_same.mpr fun item member => ?_)
    obtain ⟨_,_,begun⟩ := written item member
    have length := length_le_of_mem (mem_map_of_mem (f := fun item => (toVec item).tail) member)
    have tail : (toVec item).tail.length + 1 = (toVec item).length := by rw [begun]; rfl
    rw [length_cons] at small
    obtain ⟨code,octets,equal,read⟩ := each item member (by omega)
    rw [equal] at begun
    rw [equal]
    have codes := FormatCode.octet_injective (cons.inj begun).1
    rw [← codes]
    exact read
  · intro _ block member
    obtain ⟨item,present,rfl⟩ := mem_map.mp member
    obtain ⟨_,_,begun⟩ := written item present
    rw [begun]
    exact append_ne_nil_of_left_ne_nil (append_ne_nil_of_left_ne_nil (by simp [be,BigEndian.encode]) _) _
  · intro zero
    rw [(compoundCode_wide _).1] at zero
    cases zero

lemma restored (v : Value) (left : Nat) : v.Regular → v.Fits → v.depth < left → Restored left v := by
  induction v using induction generalizing left with
  | leaf v leaf =>
    intro _ fits deep
    obtain ⟨code,octets,written,read⟩ := leaf_reads leaf fits
    obtain ⟨_,rfl⟩ := Nat.exists_eq_add_of_lt deep
    exact ⟨code,octets,written,reads_known (read _)⟩
  | list items each =>
    intro regular fits deep
    rw [depth] at deep
    obtain ⟨left,rfl⟩ : ∃ k, left = k + 1 := ⟨left - 1,by omega⟩
    have elements : ∀ item ∈ items, Reads (decodeTyped (decodeValueBody left)) (toVec item) item := by
      intro item member
      have inside := depth_of_mem member
      have length := length_le_of_mem (mem_map_of_mem (f := toVec) member)
      have small := fits
      rw [Value.Fits,toVec_list] at small
      have := framed_fits small
      exact (each item member left (regular_of_mem regular member) (fits_of_length (by omega))
        (by omega)).reads
    obtain ⟨octets,written,read⟩ := reads_list fits elements
    exact ⟨.list32,octets,written,reads_known read⟩
  | map entries each =>
    intro regular fits deep
    rw [depth] at deep
    obtain ⟨left,rfl⟩ : ∃ k, left = k + 1 := ⟨left - 1,by omega⟩
    have elements : ∀ entry ∈ entries, Reads (decodeTyped (decodeValueBody left)) (toVec entry.1) entry.1 ∧
        Reads (decodeTyped (decodeValueBody left)) (toVec entry.2) entry.2 := by
      intro entry member
      have inside := depth_of_mem_entries member
      have length := length_le_of_mem (mem_map_of_mem (f := fun entry => toVec entry.1 ++ toVec entry.2) member)
      have small := fits
      rw [Value.Fits,toVec_map] at small
      have := framed_fits small
      rw [length_append] at length
      obtain ⟨key,value⟩ := regular_of_mem_entries regular member
      exact ⟨((each entry member).1 left key (fits_of_length (by omega)) (by omega)).reads,
        ((each entry member).2 left value (fits_of_length (by omega)) (by omega)).reads⟩
    obtain ⟨octets,written,read⟩ := reads_map fits elements
    exact ⟨.map32,octets,written,reads_known read⟩
  | array items each =>
    intro regular fits deep
    rw [depth] at deep
    cases items with
    | nil =>
      obtain ⟨left,rfl⟩ : ∃ k, left = k + 1 := ⟨left - 1,by omega⟩
      rw [Value.Fits,toVec_array_nil] at fits
      have read := @reads_array (decodeValueBody left) [] [] .null (by decide) List.Forall₂.nil
        (fun _ _ member => by cases member) (fun _ => Nat.zero_le _) fits
      exact ⟨.array32,_,toVec_array_nil,reads_known read⟩
    | cons first =>
      rw [itemsDepth] at deep
      cases bare : arrayCode first with
      | some =>
        obtain ⟨left,rfl⟩ : ∃ k, left = k + 2 := ⟨left - 2,by omega⟩
        exact restored_bare bare regular.1 fits
      | none =>
        obtain ⟨left,rfl⟩ : ∃ k, left = k + 1 := ⟨left - 1,by omega⟩
        refine restored_compounds bare regular.1 fits fun item member small => ?_
        have inside := depth_of_mem member
        rw [itemsDepth] at inside
        exact each item member left (regular_of_mem regular.2 member) (fits_of_length small) (by omega)
  | described d v descriptor body =>
    intro regular fits deep
    rw [depth] at deep
    obtain ⟨left,rfl⟩ : ∃ k, left = k + 1 := ⟨left - 1,by omega⟩
    refine ⟨.described,_,toVec_described d v,reads_known ?_⟩
    exact (descriptor left regular.1 fits.1 (by omega)).reads.bind
      ((body left regular.2 fits.2 (by omega)).reads.bind_nil (Reads.pure _))

theorem value_roundTrip (v : Value) (regular : v.Regular) (fits : v.Fits) (shallow : v.depth ≤ maxDepth) :
    (∀ rest, (decode : Decoder Value) (toVec v ++ rest) = .ok (v,rest)) ∧
    ∀ bytes rest, (decode : Decoder Value) bytes = .ok (v,rest) → (decode : Decoder Value) (toVec v) = .ok (v,[]) := by
  have read : Reads (decode : Decoder Value) (toVec v) v :=
    (restored v (maxDepth + 1) regular fits (Nat.lt_succ_of_le shallow)).reads
  exact ⟨read,fun _ _ _ => read.alone⟩

theorem value_roundTrip_nested :
    let v := list [.uint 300,.map [(.bool true,.null)],.array [.list [.ubyte 1],.list []]]
    v.Regular ∧ v.Fits ∧ v.depth ≤ maxDepth ∧ (decode : Decoder Value) (toVec v) = .ok (v,[]) := by
  intro v
  have regular : v.Regular := by
    simp [v,Value.Regular,Value.RegularItems,Value.RegularEntries,Value.Homogeneous,type]
  have fits : v.Fits := by
    change (toVec v).length < 2^32 + 5
    decide +kernel
  have shallow : v.depth ≤ maxDepth := by decide
  exact ⟨regular,fits,shallow,(value_roundTrip v regular fits shallow).1 []⟩

end Round

end Ramqp.Wire
