import Ramqp.Semantics.Performatives
import Ramqp.DescribedArrays

/-! Composite values are read back from their encodings: null fields left out at the end are read as absent, and
fields that a later version of the protocol may add are skipped. -/
namespace Ramqp.Wire

open List FormatCode ListDecoder

open Parser (Reads)

section Carried

variable {condition : ErrorCondition}

@[simp] lemma peekCode_coded (code : FormatCode) (octets rest : Bytes) : peekCode (coded code octets ++ rest) = some code := by
  simp [peekCode,coded]

def Carried {α : Type} [Encode α] [Decode α] (x : α) : Prop :=
  RoundTrips x ∧ ∃ code octets, toVec x = coded code octets ∧ code ≠ .null

lemma carried_bool (b : Bool) : Carried b := by
  refine ⟨roundTrips_bool b,?_⟩
  cases b with
  | false => exact ⟨.boolFalse,[],rfl,by decide⟩
  | true => exact ⟨.boolTrue,[],rfl,by decide⟩

lemma carried_u8 (n : UInt8) : Carried n := ⟨roundTrips_u8 n,.ubyte,_,rfl,by decide⟩

lemma carried_u16 (n : UInt16) : Carried n := ⟨roundTrips_u16 n,.ushort,_,rfl,by decide⟩

lemma carried_u32 (n : UInt32) : Carried n := by
  refine ⟨roundTrips_u32,?_⟩
  rcases toVec_uint n with ⟨_,written⟩ | ⟨_,written⟩ | ⟨_,written⟩ <;> exact ⟨_,_,written,by decide⟩

lemma carried_u64 (n : UInt64) : Carried n := by
  refine ⟨roundTrips_u64 n,?_⟩
  rcases toVec_ulong n with ⟨_,written⟩ | ⟨_,written⟩ | ⟨_,written⟩ <;> exact ⟨_,_,written,by decide⟩

lemma carried_bytes (bytes : Bytes) : Carried bytes := by
  refine ⟨roundTrips_bytes,?_⟩
  rcases encodeVar_cases .vbin8 .vbin32 bytes with ⟨_,written⟩ | ⟨_,written⟩ <;> exact ⟨_,_,written,by decide⟩

lemma carried_string (text : String) : Carried text := by
  refine ⟨roundTrips_string text,?_⟩
  rcases encodeVar_cases .str8 .str32 (asBytes text) with ⟨_,written⟩ | ⟨_,written⟩ <;> exact ⟨_,_,written,by decide⟩

lemma carried_symbol (symbol : Symbol) : Carried symbol := by
  refine ⟨roundTrips_symbol symbol,?_⟩
  rcases encodeVar_cases .sym8 .sym32 (asBytes symbol.text) with ⟨_,written⟩ | ⟨_,written⟩ <;> exact ⟨_,_,written,by decide⟩

lemma carried_as {α β : Type} [Encode α] [Decode α] [Encode β] [Decode β] {x : α} {y : β} {f : β → Decoder α}
    (written : toVec x = toVec y) (read : (decode : Decoder α) = decode >>= f) (back : f y = pure x)
    (inner : Carried y) : Carried x := by
  refine ⟨fun small => ?_,written ▸ inner.2⟩
  rw [written] at small
  rw [written,read]
  refine (inner.1 small).bind_nil ?_
  rw [back]
  exact Reads.pure x

lemma carried_role (role : Role) : Carried role := by
  let back (receiver : Bool) : Decoder Role := pure (if receiver then .receiver else .sender)
  cases role with
  | sender => exact carried_as (f := back) rfl rfl rfl (carried_bool false)
  | receiver => exact carried_as (f := back) rfl rfl rfl (carried_bool true)

lemma carried_senderSettleMode (mode : SenderSettleMode) : Carried mode := by
  cases mode <;> exact carried_as (y := senderSettleModeCode _) rfl rfl rfl (carried_u8 _)

lemma carried_receiverSettleMode (mode : ReceiverSettleMode) : Carried mode := by
  cases mode <;> exact carried_as (y := receiverSettleModeCode _) rfl rfl rfl (carried_u8 _)

lemma carried_saslCode (code : SaslCode) : Carried code := by
  cases code <;> exact carried_as (y := SaslCode.number _) rfl rfl rfl (carried_u8 _)

def ErrorCondition.Admissible (condition : ErrorCondition) : Prop :=
  ∀ symbol, condition = custom symbol → Condition.fromStr symbol.text = none

lemma fromSymbol_asSymbol (admissible : condition.Admissible) :
    ErrorCondition.fromSymbol condition.asSymbol = condition := by
  cases condition with
  | known condition => cases condition <;> decide
  | custom symbol => simp [ErrorCondition.asSymbol,ErrorCondition.fromSymbol,admissible symbol rfl]

lemma carried_condition (admissible : condition.Admissible) : Carried condition :=
  carried_as (y := condition.asSymbol) (f := fun symbol => pure (ErrorCondition.fromSymbol symbol)) rfl rfl
    (by rw [fromSymbol_asSymbol admissible]) (carried_symbol _)

end Carried

variable {code : UInt64}

section Headers

variable {count : Nat} {content : Bytes}

lemma reads_header {code8 code32 : FormatCode} {expected : String} (apart : code8 ≠ code32)
    (small : content.length + 4 < 256^4) (counted : count < 256^4) :
    Reads (readHeader code8 code32 expected) (framed code32 count content) (count,content) := by
  have size : content.length + 4 = (be 4 count ++ content).length := by simp [Nat.add_comm]
  apply reads_coded
  simp only [ofOctet_octet,Option.some.injEq,apart.symm,if_false,if_true]
  rw [append_assoc]
  refine (reads_readNat small).bind ?_
  rw [size]
  refine (reads_readBytes _).bind_nil (@Reads.within _ _ _ _ _ _ [] ?_)
  simp only [reads_readNat counted content]

lemma reads_listHeader (small : content.length + 4 < 256^4) (counted : count < 256^4) :
    Reads readListHeader (framed .list32 count content) (count,content) := by
  intro rest
  have other : peekCode (framed .list32 count content ++ rest) ≠ some .list0 := by
    rw [framed,peekCode_coded]
    decide
  rw [readListHeader,if_neg other]
  exact reads_header (by decide) small counted rest

lemma reads_descriptor : Reads decodeDescriptor (encodeDescriptor code) (.code code) := by
  intro rest
  have small : Reads (decode : Decoder UInt64) (encodeDescriptor code) code := by
    unfold encodeDescriptor
    split_ifs with short
    · obtain ⟨octet,same⟩ := smallUlong_eq short
      rw [octet]
      have read := (reads_readU8 code.toUInt8).map UInt8.toUInt64
      rw [same] at read
      exact reads_coded read
    · exact reads_coded (reads_readU64 code)
  have read := small.map Descriptor.code rest
  unfold encodeDescriptor at read ⊢
  split_ifs with short
  · rw [if_pos short] at read
    simpa [decodeDescriptor] using read
  · rw [if_neg short] at read
    simpa [decodeDescriptor] using read

lemma reads_describedHeader : Reads describedHeader (coded .described (encodeDescriptor code)) (.code code) := by
  apply reads_coded
  rw [if_pos rfl]
  exact reads_descriptor

lemma peekDescriptor_eq (code : UInt64) (rest : Bytes) :
    peekDescriptor (coded .described (encodeDescriptor code ++ rest)) =
      .ok (.code code,coded .described (encodeDescriptor code ++ rest)) := by
  have head : describedHeader (coded .described (encodeDescriptor code ++ rest)) = .ok (.code code,rest) :=
    reads_describedHeader rest
  rw [peekDescriptor,head]

end Headers

variable {symbol : Symbol} {α : Type}

section Elements

lemma Carried.ne_nil [Encode α] [Decode α] {x : α} (carried : Carried x) : toVec x ≠ [] := by
  obtain ⟨_,_,same,_⟩ := carried.2
  rw [same]
  exact cons_ne_nil _ _

lemma Carried.not_null [Encode α] [Decode α] {x : α} (carried : Carried x) (rest : Bytes) :
    peekCode (toVec x ++ rest) ≠ some .null := by
  obtain ⟨_,_,written,solid⟩ := carried.2
  rw [written,peekCode_coded]
  exact fun same => solid (Option.some.inj same)

lemma carried_map {κ υ : Type} [Encode κ] [Decode κ] [Encode υ] [Decode υ] {entries : List (κ × υ)}
    (keys : ∀ entry ∈ entries, Carried entry.1)
    (values : ∀ entry ∈ entries, RoundTrips entry.2 ∧ toVec entry.2 ≠ []) : Carried entries := by
  have written : toVec entries = framed .map32 (2 * entries.length)
      (entries.map fun entry => toVec entry.1 ++ toVec entry.2).flatten := compound_eq (foldl_entries entries) []
  refine ⟨fun small => ?_,.map32,_,written,by decide⟩
  rw [written] at small ⊢
  have fits := framed_fits (Nat.lt_add_right 5 small)
  have counted : 2 * entries.length ≤ (entries.map fun entry => toVec entry.1 ++ toVec entry.2).flatten.length := by
    clear written small fits
    induction entries with
    | nil => simp
    | cons entry rest ih =>
      have first := length_pos_of_ne_nil (keys entry mem_cons_self).ne_nil
      have second := length_pos_of_ne_nil (values entry mem_cons_self).2
      have := ih (fun e member => keys e (mem_cons_of_mem _ member))
        fun e member => values e (mem_cons_of_mem _ member)
      simp only [map_cons,flatten_cons,length_append,length_cons]
      omega
  have elements : List.Forall₂ (Reads (do
      let k ← decode
      let v ← decode
      pure (k,v) : Decoder (κ × υ))) (entries.map fun entry => toVec entry.1 ++ toVec entry.2) entries := by
    refine forall₂_map_left_iff.mpr (forall₂_same.mpr fun entry member => ?_)
    have inside := length_le_of_mem (mem_map_of_mem (f := fun entry => toVec entry.1 ++ toVec entry.2) member)
    rw [length_append] at inside
    have key := (keys entry member).1 (by omega)
    exact key.bind (((values entry member).1 (by omega)).bind_nil (Reads.pure _))
  refine (reads_header (by decide) fits (by omega)).bind_nil ?_
  dsimp only
  rw [if_pos (Nat.mul_mod_right ..),Nat.mul_div_cancel_left _ (by decide)]
  exact Reads.within (Reads.times elements).alone

lemma reads_symbolElement (fits : (asBytes symbol.text).length < 256^4) :
    Reads (decodeSymbolElement sym32.octet) (be 4 (asBytes symbol.text).length ++ asBytes symbol.text) symbol :=
  (reads_length fits).bind_nil ((reads_utf8String symbol.text _).map Symbol.mk)

lemma reads_multiple {symbols : List Symbol} (small : (symbolArray symbols).length < 2^32) :
    Reads multiple (symbolArray symbols) symbols := by
  have fits := framed_fits (Nat.lt_add_right 5 small)
  rw [length_cons] at fits
  have counted : symbols.length ≤ (symbols.map fun s => be 4 (asBytes s.text).length ++ asBytes s.text).flatten.length := by
    rw [← length_map fun s : Symbol => be 4 (asBytes s.text).length ++ asBytes s.text]
    refine length_le_flatten fun block member => ?_
    obtain ⟨_,_,rfl⟩ := mem_map.mp member
    exact append_ne_nil_of_left_ne_nil (by simp [be,BigEndian.encode]) _
  have elements : List.Forall₂ (Reads (decodeSymbolElement sym32.octet))
      (symbols.map fun s => be 4 (asBytes s.text).length ++ asBytes s.text) symbols := by
    refine forall₂_map_left_iff.mpr (forall₂_same.mpr fun symbol member => reads_symbolElement ?_)
    have inside := length_le_of_mem
      (mem_map_of_mem (f := fun s : Symbol => be 4 (asBytes s.text).length ++ asBytes s.text) member)
    rw [length_append] at inside
    omega
  have content : decodeSymbolArray symbols.length (sym32.octet ::
      (symbols.map fun s => be 4 (asBytes s.text).length ++ asBytes s.text).flatten) = .ok (symbols,
        if symbols = [] then sym32.octet :: [] else []) := by
    unfold decodeSymbolArray
    by_cases none : symbols = []
    · subst none
      rfl
    · rw [if_neg (fun zero => none (length_eq_zero_iff.mp zero)),if_neg none]
      exact ((reads_octet _).bind (Reads.times elements)).alone
  intro rest
  have array : peekCode (symbolArray symbols ++ rest) = some .array32 := peekCode_coded ..
  simp only [multiple,array]
  exact (reads_header (by decide) (by rw [length_cons]; omega) (by omega)).bind_nil (Reads.within content) rest

end Elements

section Positions

variable {α : Type}

variable {rest : Bytes} {n : Nat} {kind : FieldKind α} {d : ListDecoder}

/-! Fields and their positions. -/

def FieldKind.Sound : {α : Type} → FieldKind α → α → Prop
  | _,req _,x => Carried x
  | _,opt,x => ∀ y, x = some y → Carried y
  | _,default _,x => Carried x
  | _,symbols,_ => True
  | _,reqSymbols _,_ => True

def FieldList.Sound : {τ : Type} → FieldList τ → τ → Prop
  | _,nil,_ => True
  | _,cons kind rest,(x,xs) => kind.Sound x ∧ rest.Sound xs

variable {x : α}

lemma advanceOne_eq {p : Decoder α} {block : Bytes} (read : Reads p block x) :
    advanceOne p ⟨block ++ rest,n + 1⟩ = .ok (x,⟨rest,n⟩) := by
  simp [advanceOne,read rest]

lemma opt_some [Encode α] [Decode α] (carried : Carried x) (small : (toVec x).length < 2^32) :
    opt ⟨toVec x ++ rest,n + 1⟩ = .ok (some x,⟨rest,n⟩) := by
  rw [opt,if_neg (Nat.succ_ne_zero n),if_neg (carried.not_null rest)]
  exact advanceOne_eq ((carried.1 small).map some)

lemma FieldKind.read_block (sound : kind.Sound x) (small : (kind.block x).length < 2^32) (rest : Bytes) (n : Nat) :
    kind.read ⟨kind.block x ++ rest,n + 1⟩ = .ok (x,⟨rest,n⟩) := by
  cases kind with
  | req =>
    have other : ¬(n + 1 = 0 ∨ peekCode (toVec x ++ rest) = some .null) := by
      rintro (zero | same)
      · cases zero
      · exact sound.not_null rest same
    rw [read,ListDecoder.req]
    exact (if_neg other).trans (advanceOne_eq (sound.1 small))
  | opt => cases x with
    | none =>
      rw [read,ListDecoder.opt,if_neg (Nat.succ_ne_zero n)]
      exact if_pos (peekCode_coded .null [] rest)
    | some y => exact opt_some (sound y rfl) small
  | default value =>
    change (ListDecoder.opt ⟨toVec x ++ rest,n + 1⟩ >>= fun (y,d) => pure (y.getD value,d)) = _
    rw [opt_some sound small]
    rfl
  | symbols =>
    rw [block] at small ⊢
    cases x with
    | nil =>
      rw [read,ListDecoder.symbols,if_neg (Nat.succ_ne_zero n)]
      exact if_pos (peekCode_coded .null [] rest)
    | cons symbol others =>
      have other : peekCode (symbolArray (symbol::others) ++ rest) ≠ some .null := by
        rw [symbolArray,framed,peekCode_coded]
        decide
      rw [if_neg (by simp)] at small ⊢
      rw [read,ListDecoder.symbols,if_neg (Nat.succ_ne_zero n),if_neg other]
      exact advanceOne_eq (reads_multiple small)
  | reqSymbols =>
    have other : ¬(n + 1 = 0 ∨ peekCode (symbolArray x ++ rest) = some .null) := by
      rw [symbolArray,framed,peekCode_coded]
      rintro (zero | same)
      · cases zero
      · cases same
    rw [read,ListDecoder.reqSymbols]
    exact (if_neg other).trans (advanceOne_eq (reads_multiple small))

lemma Carried.solid [Encode α] [Decode α] (carried : Carried x) : toVec x ≠ [null.octet] := by
  obtain ⟨_,_,written,solid⟩ := carried.2
  rw [written]
  exact fun same => solid (octet_injective (cons.inj same).1)

lemma FieldKind.read_absent (sound : kind.Sound x) (null : kind.block x = [null.octet])
    (none : d.remaining = 0) : kind.read d = .ok (x,d) := by
  cases kind with
  | req | default => exact absurd null sound.solid
  | opt => cases x with
    | none => rw [read,ListDecoder.opt,if_pos none]
    | some y => exact absurd null (sound y rfl).solid
  | symbols => cases x with
    | nil => rw [read,ListDecoder.symbols,if_pos none]
    | cons => cases null
  | reqSymbols => cases null

def Supplies : List Bytes → ListDecoder → Prop
  | [],_ => True
  | block::rest,d => (∃ body n, d = ⟨block ++ body,n + 1⟩ ∧ Supplies rest ⟨body,n⟩) ∨
    (d.remaining = 0 ∧ ∀ b ∈ block::rest, b = [FormatCode.null.octet])

lemma FieldList.read_supplied {τ : Type} {fields : FieldList τ} {xs : τ} (sound : fields.Sound xs)
    (small : ∀ block ∈ fields.blocks xs, block.length < 2^32) (supplied : Supplies (fields.blocks xs) d) :
    ∃ left, fields.read d = .ok (xs,left) := by
  induction fields generalizing d with
  | nil => exact ⟨d,rfl⟩
  | cons kind rest ih =>
    obtain ⟨x,xs⟩ := xs
    have step {d next : ListDecoder} (first : kind.read d = .ok (x,next))
        (others : ∃ left, rest.read next = .ok (xs,left)) : ∃ left, (cons kind rest).read d = .ok ((x,xs),left) := by
      obtain ⟨left,others⟩ := others
      refine ⟨left,?_⟩
      change (kind.read d >>= fun (x,d) => rest.read d >>= fun (xs,d) => pure ((x,xs),d)) = _
      rw [first]
      change (rest.read next >>= fun (xs,d) => pure ((x,xs),d)) = _
      rw [others]
      rfl
    have smaller : ∀ block ∈ rest.blocks xs, block.length < 2^32 := fun b member =>
      small b (mem_cons_of_mem _ member)
    rcases supplied with ⟨body,n,rfl,following⟩ | ⟨none,nulls⟩
    · exact step (kind.read_block sound.1 (small _ mem_cons_self) body n) (ih sound.2 smaller following)
    refine step (kind.read_absent sound.1 (nulls _ mem_cons_self) none) (ih sound.2 smaller ?_)
    cases later : rest.blocks xs with
    | nil => trivial
    | cons =>
      exact .inr ⟨none,fun b member => nulls b (mem_cons_of_mem _ (later ▸ member))⟩

lemma supplies_present : Supplies blocks ⟨(present blocks).flatten,(present blocks).length⟩ := by
  obtain ⟨elided,same,nulls⟩ := present_append blocks
  generalize present blocks = kept at same
  subst same
  induction kept with
  | nil => cases elided with
    | nil => trivial
    | cons => exact .inr ⟨rfl,nulls⟩
  | cons block rest ih => exact .inl ⟨rest.flatten,rest.length,rfl,ih⟩

lemma supplies_more (more : Bytes) : Supplies blocks ⟨blocks.flatten ++ more,blocks.length + n⟩ := by
  induction blocks with
  | nil => trivial
  | cons block rest ih =>
    refine .inl ⟨rest.flatten ++ more,rest.length + n,?_,ih⟩
    simp only [flatten_cons,append_assoc,length_cons]
    rw [Nat.add_right_comm]

end Positions

variable {τ : Type}

section Whole

variable {σ : Type} (c : Composite σ)

variable {x : σ} {α : Type}

def Composite.listed (count : Nat) (content : Bytes) : Bytes :=
  coded .described (encodeDescriptor c.descriptor ++ framed .list32 count content)

def Composite.extended (x : σ) (more : List Bytes) : Bytes :=
  c.listed ((c.fields.blocks (c.parts x)).length + more.length) ((c.fields.blocks (c.parts x)).flatten ++ more.flatten)

lemma Composite.write_listed : c.write x [] =
    c.listed (present (c.fields.blocks (c.parts x))).length (present (c.fields.blocks (c.parts x))).flatten :=
  encodeDescribedList_eq (c.fields.writes _) []

variable {c} {content : Bytes} {count : Nat}

lemma Composite.reads_supplied (sound : c.fields.Sound (c.parts x))
    (small : (c.listed count content).length < 2^32) (counted : count ≤ content.length)
    (fits : ∀ block ∈ c.fields.blocks (c.parts x), block.length < 2^32)
    (supplied : Supplies (c.fields.blocks (c.parts x)) ⟨content,count⟩) : Reads c.read (c.listed count content) x := by
  have room : content.length + 4 < 256^4 := by
    simp only [listed,framed,coded,length_cons,length_append,BigEndian.length_encode] at small
    omega
  obtain ⟨left,read⟩ := FieldList.read_supplied sound fits supplied
  have opened : Reads (decodeDescribedList c.descriptor) (c.listed count content) ⟨content,count⟩ := by
    refine reads_describedHeader.bind ?_
    rw [if_pos rfl]
    exact (reads_listHeader room (by omega)).bind_nil (Reads.pure _)
  refine opened.bind_nil ?_
  rw [read]
  dsimp only
  rw [c.build_parts]
  exact Reads.pure x

lemma FieldKind.block_ne_nil {kind : FieldKind α} {x : α} (sound : kind.Sound x) : kind.block x ≠ [] := by
  cases kind with
  | req | default => exact Carried.ne_nil sound
  | opt => cases x with
    | none => exact cons_ne_nil _ _
    | some y => exact (sound y rfl).ne_nil
  | symbols => cases x <;> exact cons_ne_nil _ _
  | reqSymbols => exact cons_ne_nil _ _

lemma FieldList.blocks_ne_nil {fields : FieldList τ} {xs : τ} (sound : fields.Sound xs) :
    ∀ block ∈ fields.blocks xs, block ≠ [] := by
  induction fields with
  | nil => exact fun _ member => absurd member not_mem_nil
  | cons kind rest ih => exact forall_mem_cons.mpr ⟨kind.block_ne_nil sound.1,ih sound.2⟩

lemma Composite.length_listed (count : Nat) (content : Bytes) : content.length ≤ (c.listed count content).length := by
  simp only [listed,framed,coded,length_cons,length_append]
  omega

lemma Composite.reads_write (sound : c.fields.Sound (c.parts x)) (small : (c.write x []).length < 2^32) :
    Reads c.read (c.write x []) x := by
  obtain ⟨elided,same,nulls⟩ := present_append (c.fields.blocks (c.parts x))
  rw [write_listed] at small ⊢
  have inside := length_listed (c := c) (present (c.fields.blocks (c.parts x))).length
    (present (c.fields.blocks (c.parts x))).flatten
  have filled := FieldList.blocks_ne_nil sound
  refine reads_supplied sound small ?_ ?_ supplies_present
  · exact length_le_flatten fun block member => filled block (same ▸ mem_append_left _ member)
  intro block member
  rw [same,mem_append] at member
  rcases member with kept | gone
  · have := length_le_of_mem kept
    omega
  · rw [nulls block gone]
    decide

lemma Composite.reads_extended {more : List Bytes} (sound : c.fields.Sound (c.parts x))
    (filled : ∀ field ∈ more, field ≠ []) (small : (c.extended x more).length < 2^32) :
    Reads c.read (c.extended x more) x := by
  have inside := (length_listed (c := c) ((c.fields.blocks (c.parts x)).length + more.length) _).trans_lt small
  rw [length_append] at inside
  have known := length_le_flatten (FieldList.blocks_ne_nil sound)
  have further := length_le_flatten filled
  refine reads_supplied sound small ?_ ?_ (supplies_more _)
  · rw [length_append]
    omega
  intro block member
  have := length_le_of_mem member
  omega

/-- What the encoder writes is read back, and so is the form with further fields where there is one. Every octet
of either form is consumed, and none of what follows. -/
def Survives {α : Type} (read : Decoder α) (x : α) (written : Bytes) (extended : List Bytes → Option Bytes) : Prop :=
  (written.length < 2^32 → Reads read written x) ∧
    ∀ more octets, (∀ field ∈ more, field ≠ []) → extended more = some octets → octets.length < 2^32 → Reads read octets x

lemma Composite.survives_as {p : Decoder α} {f : σ → α} (sound : c.fields.Sound (c.parts x))
    (opens : ∀ rest, p (coded .described (encodeDescriptor c.descriptor ++ rest)) =
      (f <$> c.read) (coded .described (encodeDescriptor c.descriptor ++ rest))) :
    Survives p (f x) (c.write x []) (fun more => some (c.extended x more)) := by
  have through {count : Nat} {content : Bytes} (read : Reads c.read (c.listed count content) x) :
      Reads p (c.listed count content) (f x) := by
    intro rest
    have mapped := read.map f rest
    rw [← mapped]
    simp only [listed,coded,cons_append,append_assoc]
    exact opens _
  constructor
  · intro small
    have read := reads_write sound small
    rw [write_listed] at read ⊢
    exact through read
  · rintro more _ filled ⟨⟩ small
    exact through (reads_extended sound filled small)

lemma Composite.survives (sound : c.fields.Sound (c.parts x)) :
    Survives c.read x (c.write x []) (fun more => some (c.extended x more)) :=
  survives_as (f := id) sound fun _ => by rw [id_map]

lemma peek_bind (k : Descriptor → Decoder α) (code : UInt64) (rest : Bytes) :
    (peekDescriptor >>= k) (coded .described (encodeDescriptor code ++ rest)) =
      k (.code code) (coded .described (encodeDescriptor code ++ rest)) :=
  Parser.bind_of_ok (peekDescriptor_eq code rest)

lemma Composite.write_coded : ∃ octets, c.write x [] = coded .described octets := ⟨_,c.write_listed⟩

lemma Survives.carried [Encode α] [Decode α] {x : α} {extended : List Bytes → Option Bytes}
    (survives : Survives decode x (toVec x) extended) (written : ∃ octets, toVec x = coded .described octets) :
    Carried x := by
  obtain ⟨octets,same⟩ := written
  exact ⟨survives.1,.described,octets,same,by decide⟩

lemma Composite.carried (sound : c.fields.Sound (c.parts x)) : @Carried σ c.toEncode c.toDecode x :=
  @Survives.carried σ c.toEncode c.toDecode x _ (survives sound) write_coded

end Whole

end Ramqp.Wire
