import Ramqp.Values

/-! Arrays of described values. All bodies are written under the constructor of the first, while the encoder picks
the shortest constructor for each body by itself: such an array is read back exactly when they agree. -/
namespace Ramqp.Wire

open List Parser Local Value BigEndian FormatCode AmqpType

open Parser (Reads Local)

variable {α : Type} {code : FormatCode} {n : Nat}

section Locality

lemma local_readNat (width : Nat) : Local (readNat width) := Local.take.map _

lemma local_readU8 : Local readU8 := (local_readNat 1).map _

lemma local_readU16 : Local readU16 := (local_readNat 2).map _

lemma local_readU32 : Local readU32 := (local_readNat 4).map _

lemma local_readU64 : Local readU64 := (local_readNat 8).map _

lemma local_fixed : Local (fixed n) := by
  intro s x rest read
  unfold fixed at read
  split at read
  · cases read
  · cases read
    exact ⟨_,(take_append_drop n s).symm,reads_fixed ⟨s.take n,_⟩⟩

lemma local_utf8String (raw : Bytes) (kind : String) : Local (utf8String raw kind) := by
  unfold utf8String
  split
  · exact pure
  · exact throw _

lemma local_sizedBytes : Local (sizedBytes width) := (local_readNat width).bind fun _ => take

lemma local_sized (elements : Nat → Decoder α) : Local (sized width elements) :=
  (local_readNat width).bind fun _ => Local.take.bind fun _ => Local.within

variable {body : UInt8 → Decoder Value}

lemma local_decodeTyped (inner : ∀ code, Local (body code)) : Local (decodeTyped body) := local_readU8.bind inner

lemma local_decodeAs (inner : ∀ code, Local (body code)) : Local (decodeAs body code) := by
  cases code with
  | null | boolTrue | boolFalse | uint0 | ulong0 | list0 => exact pure
  | bool =>
    refine local_readU8.bind fun n => ?_
    split_ifs
    · exact pure
    · exact pure
    · exact throw _
  | ubyte | byte | smallUint | smallUlong | smallInt | smallLong => exact local_readU8.map _
  | ushort | short => exact local_readU16.map _
  | uint | int | float => exact local_readU32.map _
  | ulong | long | double | timestamp => exact local_readU64.map _
  | decimal32 | decimal64 | decimal128 | uuid => exact local_fixed.map _
  | char =>
    refine local_readU32.bind fun n => ?_
    split
    · exact pure
    · exact throw _
  | vbin8 | vbin32 => exact local_sizedBytes.map _
  | str8 | str32 | sym8 | sym32 => exact local_sizedBytes.bind fun _ => (local_utf8String _ _).map _
  | list8 | list32 | map8 | map32 | array8 | array32 => exact (local_sized _).map _
  | described =>
    exact (local_decodeTyped inner).bind fun _ => (local_decodeTyped inner).bind fun _ => pure

lemma local_decodeValueBody (left : Nat) (code : UInt8) : Local (decodeValueBody left code) := by
  induction left generalizing code with
  | zero => exact throw _
  | succ left ih =>
    rw [decodeValueBody]
    split
    · exact local_decodeAs ih
    · exact throw _

end Locality

variable {elements : Nat → Decoder α} {count left : Nat} {content after octets : Bytes} {v : Value}

variable {body : UInt8 → Decoder Value} {x : α}

section Consumption

variable {rest : Bytes}

lemma sized_rest (small : content.length + 4 < 256^4)
    (read : sized 4 elements (be 4 (content.length + 4) ++ be 4 count ++ content ++ after) = .ok (x,rest)) :
    rest = after := by
  obtain ⟨_,_,first,read⟩ := bind_eq_ok.mp read
  rw [append_assoc,append_assoc,reads_readNat small] at first
  cases first
  obtain ⟨_,_,second,read⟩ := bind_eq_ok.mp read
  rw [← append_assoc,show content.length + 4 = (be 4 count ++ content).length by simp [Nat.add_comm],
    reads_readBytes] at second
  cases second
  unfold Parser.within at read
  split at read
  · cases read
  · cases read
    rfl

lemma decodeValueBody_known : decodeValueBody (left + 1) code.octet = decodeAs (decodeValueBody left) code := by
  simp [decodeValueBody]

variable {w : Value}

lemma compound_rest (type : AmqpType) {code : UInt8}
    (fits : (framed type.compoundCode count content).length < 2^32 + 5)
    (written : framed type.compoundCode count content = code::octets)
    (read : decodeValueBody left code (octets ++ after) = .ok (w,rest)) : rest = after := by
  have small := framed_fits fits
  cases written
  cases left with
  | zero => cases read
  | succ =>
    rw [decodeValueBody_known] at read
    cases type with
    | list | map | _ =>
      obtain ⟨_,inner,_⟩ := map_eq_ok.mp read
      exact sized_rest small inner

lemma typed_rest
    (inner : ∀ {code octets after rest}, toVec v = code::octets → body code (octets ++ after) = .ok (w,rest) →
      rest = after) (read : decodeTyped body (toVec v ++ after) = .ok (w,rest)) : rest = after := by
  obtain ⟨ctor,octets,opened⟩ := exists_cons_of_ne_nil toVec_ne_nil
  rw [opened] at read
  obtain ⟨_,_,head,read⟩ := bind_eq_ok.mp read
  cases head.symm.trans (reads_octet ctor (octets ++ after))
  exact inner opened read

lemma body_rest (fits : v.Fits) {code : UInt8}
    (written : toVec v = code::octets) (read : decodeValueBody left code (octets ++ after) = .ok (w,rest)) :
    rest = after := by
  induction v using induction generalizing left code octets after rest w with
  | leaf v leaf =>
    obtain ⟨_,_,same,reads⟩ := leaf_reads leaf fits
    rw [same] at written
    cases written
    cases left with
    | zero => cases read
    | succ =>
      rw [decodeValueBody_known,reads] at read
      cases read
      rfl
  | list =>
    rw [Value.Fits,toVec_list] at fits
    rw [toVec_list] at written
    exact compound_rest .list fits written read
  | map =>
    rw [Value.Fits,toVec_map] at fits
    rw [toVec_map] at written
    exact compound_rest .map fits written read
  | array items =>
    obtain ⟨_,_,same⟩ := compound_written (v := .array items) rfl fun same => by cases same
    rw [Value.Fits,same] at fits
    rw [same] at written
    exact compound_rest .array fits written read
  | described d v descriptor body =>
    rw [toVec_described] at written
    cases written
    cases left with
    | zero => cases read
    | succ =>
      rw [decodeValueBody_known,append_assoc] at read
      obtain ⟨_,_,first,read⟩ := bind_eq_ok.mp read
      obtain ⟨_,_,second,read⟩ := bind_eq_ok.mp read
      cases read
      rw [typed_rest (descriptor fits.1) first] at second
      exact typed_rest (body fits.2) second

end Consumption

variable {raw : Bytes} {kind : String}

section Spent

/-! What a leaf takes under some constructor of its type is never less than what its own encoding takes, and no
more only if the constructor is its own. -/

variable {width : Nat}

variable {s rest : Bytes}

lemma readNat_spent {n : Nat} (read : readNat width s = .ok (n,rest)) :
    s.length = rest.length + width ∧ n < 256^width := by
  obtain ⟨octets,taken,rfl⟩ := map_eq_ok.mp read
  unfold readBytes Parser.take at taken
  split at taken
  · cases taken
  cases taken
  have length : (s.take width).length = width := length_take_of_le (by omega)
  have small := decode_lt (s.take width)
  rw [length] at small
  exact ⟨by rw [length_drop]; omega,small⟩

lemma word_spent {Word : Type} {ofNat : Nat → Word} {n : Word} (read : (ofNat <$> readNat width) s = .ok (n,rest)) :
    s.length = rest.length + width := by
  obtain ⟨_,read,_⟩ := map_eq_ok.mp read
  exact (readNat_spent read).1

lemma fixed_spent {octets : Octets n} (read : fixed n s = .ok (octets,rest)) : s.length = rest.length + n := by
  unfold fixed at read
  split at read
  · cases read
  cases read
  rw [length_drop]
  omega

lemma sizedBytes_spent {bytes : Bytes} (read : sizedBytes width s = .ok (bytes,rest)) :
    s.length = rest.length + width + bytes.length ∧ bytes.length < 256^width := by
  obtain ⟨n,middle,first,read⟩ := bind_eq_ok.mp read
  obtain ⟨spent,small⟩ := readNat_spent first
  unfold readBytes Parser.take at read
  split at read
  · cases read
  cases read
  rw [length_drop,length_take_of_le (by omega)]
  exact ⟨by omega,small⟩

lemma asBytes_of_fromUtf8 (valid : fromUtf8 raw = some text) : asBytes text = raw := by
  unfold fromUtf8 String.fromUTF8? at valid
  split at valid
  · cases valid
    rfl
  · cases valid

lemma utf8String_spent (read : utf8String raw kind s = .ok (text,rest)) : asBytes text = raw ∧ rest = s := by
  cases valid : fromUtf8 raw with
  | none =>
    simp only [utf8String,valid] at read
    cases read
  | some =>
    simp only [utf8String,valid] at read
    cases read
    exact ⟨asBytes_of_fromUtf8 valid,rfl⟩

def Thrifty (code : FormatCode) (v : Value) (s rest : Bytes) : Prop :=
  rest.length + (toVec v).length ≤ s.length + 1 ∧
    (rest.length + (toVec v).length = s.length + 1 → (toVec v).head? = some code.octet)

variable {code : FormatCode}

lemma thrifty_own (own : toVec v = coded code octets)
    (spent : s.length = rest.length + octets.length) : Thrifty code v s rest := by
  rw [Thrifty,own]
  exact ⟨by simp only [coded,length_cons]; omega,fun _ => rfl⟩

lemma thrifty_shorter {own : FormatCode} (written : toVec v = coded own octets)
    (spent : rest.length + octets.length < s.length) : Thrifty code v s rest := by
  rw [Thrifty,written]
  simp only [coded,length_cons]
  exact ⟨by omega,fun equal => by omega⟩

def AmqpType.leafCodes : AmqpType → List FormatCode
  | null => [.null] | bool => [.boolTrue,.boolFalse] | ubyte => [.ubyte] | ushort => [.ushort]
  | uint => [.uint0,.smallUint,.uint] | ulong => [.ulong0,.smallUlong,.ulong] | byte => [.byte] | short => [.short]
  | int => [.smallInt,.int] | long => [.smallLong,.long] | float => [.float] | double => [.double]
  | decimal32 => [.decimal32] | decimal64 => [.decimal64] | decimal128 => [.decimal128] | char => [.char]
  | timestamp => [.timestamp] | uuid => [.uuid] | binary => [.vbin8,.vbin32] | string => [.str8,.str32]
  | symbol => [.sym8,.sym32] | list | map | array | described => []

/-- The forms of a number, with no octet, one octet or all of them; the first is for zero, and the last only for a number
that is not small. -/
def Forms (v : Value) (zero small : Prop) (none_ one all : FormatCode) (octet octets : Bytes) : Prop :=
  (zero ∧ toVec v = coded none_ []) ∨ (¬zero ∧ toVec v = coded one octet) ∨
    (¬(zero ∨ small) ∧ toVec v = coded all octets)

private lemma chosen {zero small : Prop} [Decidable zero] [Decidable small] {none_ one all : FormatCode}
    {octet octets : Bytes}
    (written : toVec v = if zero then coded none_ [] else if small then coded one octet else coded all octets) :
    Forms v zero small none_ one all octet octets := by
  unfold Forms
  split_ifs at written with here below
  · exact .inl ⟨here,written⟩
  · exact .inr (.inl ⟨here,written⟩)
  · exact .inr (.inr ⟨not_or.mpr ⟨here,below⟩,written⟩)

lemma toVec_uint (n : UInt32) :
    Forms (uint n) (n = 0) (n.toNat ≤ 255) .uint0 .smallUint .uint (be 1 n.toNat) (be 4 n.toNat) := chosen rfl

lemma toVec_ulong (n : UInt64) :
    Forms (ulong n) (n = 0) (n.toNat ≤ 255) .ulong0 .smallUlong .ulong (be 1 n.toNat) (be 8 n.toNat) := chosen rfl

lemma toVec_int (n : Int32) : Forms (int n) False (-128 ≤ n.toInt ∧ n.toInt ≤ 127) .smallInt .smallInt .int
    (be 1 n.toInt8.toUInt8.toNat) (be 4 n.toUInt32.toNat) := chosen rfl

lemma toVec_long (n : Int64) : Forms (long n) False (-128 ≤ n.toInt ∧ n.toInt ≤ 127) .smallLong .smallLong .long
    (be 1 n.toInt8.toUInt8.toNat) (be 8 n.toUInt64.toNat) := chosen rfl

lemma encodeVar_cases (code8 code32 : FormatCode) (bytes : Bytes) :
    (bytes.length < 256 ∧ encodeVar code8 code32 bytes = coded code8 (be 1 bytes.length ++ bytes)) ∨
    (256 ≤ bytes.length ∧ encodeVar code8 code32 bytes = coded code32 (be 4 bytes.length ++ bytes)) := by
  unfold encodeVar
  split_ifs with short
  · exact .inl ⟨by omega,rfl⟩
  · exact .inr ⟨by omega,rfl⟩

lemma leaf_code (leaf : v.isLeaf) (written : toVec v = coded code octets) : code ∈ v.type.leafCodes := by
  have codes {own : FormatCode} {content : Bytes} (same : toVec v = coded own content) : code = own :=
    octet_injective (cons.inj (written.symm.trans same)).1
  cases v with
  | list | map | array | described => cases leaf
  | bool b => cases b with
    | false => rw [codes (show toVec (bool false) = coded .boolFalse [] from rfl)]; decide
    | true => rw [codes (show toVec (bool true) = coded .boolTrue [] from rfl)]; decide
  | uint n => rcases toVec_uint n with ⟨_,same⟩ | ⟨_,same⟩ | ⟨_,same⟩ <;> rw [codes same,type] <;> decide
  | ulong n => rcases toVec_ulong n with ⟨_,same⟩ | ⟨_,same⟩ | ⟨_,same⟩ <;> rw [codes same,type] <;> decide
  | int n => rcases toVec_int n with ⟨_,same⟩ | ⟨_,same⟩ | ⟨_,same⟩ <;> rw [codes same,type] <;> decide
  | long n => rcases toVec_long n with ⟨_,same⟩ | ⟨_,same⟩ | ⟨_,same⟩ <;> rw [codes same,type] <;> decide
  | binary bytes =>
    rcases encodeVar_cases .vbin8 .vbin32 bytes with ⟨_,same⟩ | ⟨_,same⟩ <;> rw [codes same,type] <;> decide
  | string text =>
    rcases encodeVar_cases .str8 .str32 (asBytes text) with ⟨_,same⟩ | ⟨_,same⟩ <;> rw [codes same,type] <;> decide
  | symbol name =>
    rcases encodeVar_cases .sym8 .sym32 (asBytes name.text) with ⟨_,same⟩ | ⟨_,same⟩ <;>
      rw [codes same,type] <;> decide
  | _ => rw [codes rfl]; exact mem_cons_self

section Families

variable {body : UInt8 → Decoder Value} {code : FormatCode} {s rest : Bytes}

/-- A number that was read in one of its forms is written in that or a shorter one. -/
lemma thrifty_number {zero small : Prop} {none_ one all : FormatCode} {octet octets : Bytes} {Word : Type}
    (narrow : UInt8 → Value) (ofNat : Nat → Word) (full : Word → Value)
    (forms : Forms v zero small none_ one all octet octets) (single : octet.length = 1) (length : octets.length = width)
    (wide : 1 < width) (below : ∀ octet, narrow octet = v → small)
    (read : (code = none_ ∧ zero ∧ rest = s) ∨ (code = one ∧ (narrow <$> readU8) s = .ok (v,rest)) ∨
      (code = all ∧ (full <$> (ofNat <$> readNat width : Decoder Word)) s = .ok (v,rest))) : Thrifty code v s rest := by
  have form : (code = none_ ∧ zero ∧ rest = s) ∨ (code = one ∧ small ∧ s.length = rest.length + 1) ∨
      (code = all ∧ s.length = rest.length + width) := by
    refine read.imp_right (Or.imp ?_ ?_)
    · rintro ⟨own,read⟩
      obtain ⟨octet,taken,same⟩ := map_eq_ok.mp read
      exact ⟨own,below octet same,word_spent taken⟩
    · rintro ⟨own,read⟩
      obtain ⟨_,taken,_⟩ := map_eq_ok.mp read
      exact ⟨own,word_spent taken⟩
  rcases form with ⟨rfl,here,rfl⟩ | ⟨rfl,here,spent⟩ | ⟨rfl,spent⟩ <;>
    rcases forms with ⟨_,written⟩ | ⟨nonzero,written⟩ | ⟨large,written⟩
  · exact thrifty_own written rfl
  · exact absurd here nonzero
  · exact absurd (.inl here) large
  · exact thrifty_shorter written (by simp; omega)
  · exact thrifty_own written (by omega)
  · exact absurd (.inr here) large
  · exact thrifty_shorter written (by simp; omega)
  · exact thrifty_shorter written (by omega)
  · exact thrifty_own written (by omega)

lemma octet_small (octet : UInt8) : octet.toNat ≤ 255 := Nat.le_of_lt_succ octet.toNat_lt

lemma octet_signed (octet : Int8) : -128 ≤ octet.toInt ∧ octet.toInt ≤ 127 :=
  ⟨octet.le_toInt,Int.le_of_lt_add_one octet.toInt_lt⟩

lemma thrifty_variable {code8 code32 : FormatCode} {bytes middle : Bytes}
    (own : toVec v = encodeVar code8 code32 bytes) (form : (width = 1 ∧ code = code8) ∨ (width = 4 ∧ code = code32))
    (read : sizedBytes width s = .ok (bytes,middle)) (after : rest = middle) : Thrifty code v s rest := by
  subst after
  obtain ⟨spent,small⟩ := sizedBytes_spent read
  have forms := encodeVar_cases code8 code32 bytes
  rcases form with ⟨rfl,rfl⟩ | ⟨rfl,rfl⟩ <;> rcases forms with ⟨short,written⟩ | ⟨long,written⟩
  · exact thrifty_own (own.trans written) (by simp; omega)
  · omega
  · exact thrifty_shorter (own.trans written) (by simp; omega)
  · exact thrifty_own (own.trans written) (by simp; omega)

lemma leaf_thrifty (leaf : v.isLeaf) (listed : code ∈ v.type.leafCodes)
    (read : decodeAs body code s = .ok (v,rest)) : Thrifty code v s rest := by
  cases v with
  | list | map | array | described => cases leaf
  | uint n =>
    refine thrifty_number (fun octet => .uint octet.toUInt32) UInt32.ofNat .uint (toVec_uint n) (by simp)
      (length_encode : _ = 4) (by decide) ?_ ?_
    · rintro octet same
      cases same
      simpa using octet_small octet
    simp only [type,leafCodes,mem_cons,not_mem_nil,or_false] at listed
    rcases listed with rfl | rfl | rfl
    · cases read
      exact .inl ⟨rfl,rfl,rfl⟩
    · exact .inr (.inl ⟨rfl,read⟩)
    · exact .inr (.inr ⟨rfl,read⟩)
  | ulong n =>
    refine thrifty_number (fun octet => .ulong octet.toUInt64) UInt64.ofNat .ulong (toVec_ulong n) (by simp)
      (length_encode : _ = 8) (by decide) ?_ ?_
    · rintro octet same
      cases same
      simpa using octet_small octet
    simp only [type,leafCodes,mem_cons,not_mem_nil,or_false] at listed
    rcases listed with rfl | rfl | rfl
    · cases read
      exact .inl ⟨rfl,rfl,rfl⟩
    · exact .inr (.inl ⟨rfl,read⟩)
    · exact .inr (.inr ⟨rfl,read⟩)
  | int n =>
    refine thrifty_number (fun octet => .int octet.toInt8.toInt32) UInt32.ofNat (fun bits => .int bits.toInt32) (toVec_int n)
      (by simp) (length_encode : _ = 4) (by decide) ?_ (.inr ?_)
    · rintro octet same
      cases same
      simpa using octet_signed octet.toInt8
    simp only [type,leafCodes,mem_cons,not_mem_nil,or_false] at listed
    rcases listed with rfl | rfl
    · exact .inl ⟨rfl,read⟩
    · exact .inr ⟨rfl,read⟩
  | long n =>
    refine thrifty_number (fun octet => .long octet.toInt8.toInt64) UInt64.ofNat (fun bits => .long bits.toInt64) (toVec_long n)
      (by simp) (length_encode : _ = 8) (by decide) ?_ (.inr ?_)
    · rintro octet same
      cases same
      simpa using octet_signed octet.toInt8
    simp only [type,leafCodes,mem_cons,not_mem_nil,or_false] at listed
    rcases listed with rfl | rfl
    · exact .inl ⟨rfl,read⟩
    · exact .inr ⟨rfl,read⟩
  | bool =>
    simp only [type,leafCodes,mem_cons,not_mem_nil,or_false] at listed
    rcases listed with rfl | rfl <;> cases read <;> exact thrifty_own rfl (by simp)
  | binary =>
    simp only [type,leafCodes,mem_cons,not_mem_nil,or_false] at listed
    rcases listed with rfl | rfl
    · obtain ⟨_,taken,same⟩ := map_eq_ok.mp read
      cases same
      exact thrifty_variable rfl (.inl ⟨rfl,rfl⟩) taken rfl
    obtain ⟨_,taken,same⟩ := map_eq_ok.mp read
    cases same
    exact thrifty_variable rfl (.inr ⟨rfl,rfl⟩) taken rfl
  | string _ | symbol _ =>
    simp only [type,leafCodes,mem_cons,not_mem_nil,or_false] at listed
    rcases listed with rfl | rfl
    · obtain ⟨_,_,taken,read⟩ := bind_eq_ok.mp read
      obtain ⟨_,valid,same⟩ := map_eq_ok.mp read
      cases same
      obtain ⟨rfl,after⟩ := utf8String_spent valid
      exact thrifty_variable rfl (.inl ⟨rfl,rfl⟩) taken after
    obtain ⟨_,_,taken,read⟩ := bind_eq_ok.mp read
    obtain ⟨_,valid,same⟩ := map_eq_ok.mp read
    cases same
    obtain ⟨rfl,after⟩ := utf8String_spent valid
    exact thrifty_variable rfl (.inr ⟨rfl,rfl⟩) taken after
  | null =>
    cases mem_singleton.mp listed
    cases read
    exact thrifty_own rfl (by simp)
  | ubyte | byte =>
    cases mem_singleton.mp listed
    obtain ⟨_,taken,_⟩ := map_eq_ok.mp read
    exact thrifty_own rfl (by simpa using word_spent taken)
  | ushort | short =>
    cases mem_singleton.mp listed
    obtain ⟨_,taken,_⟩ := map_eq_ok.mp read
    exact thrifty_own rfl (by simpa using word_spent taken)
  | float =>
    cases mem_singleton.mp listed
    obtain ⟨_,taken,_⟩ := map_eq_ok.mp read
    exact thrifty_own rfl (by simpa using word_spent taken)
  | double | timestamp =>
    cases mem_singleton.mp listed
    obtain ⟨_,taken,_⟩ := map_eq_ok.mp read
    exact thrifty_own rfl (by simpa using word_spent taken)
  | decimal32 octets | decimal64 octets | decimal128 octets | uuid octets =>
    cases mem_singleton.mp listed
    obtain ⟨_,taken,_⟩ := map_eq_ok.mp read
    exact thrifty_own rfl (by simpa [octets.property] using fixed_spent taken)
  | char c =>
    cases mem_singleton.mp listed
    obtain ⟨n,middle,taken,read⟩ := bind_eq_ok.mp read
    have after : rest = middle := by
      cases known : charFromU32 n with
      | none =>
        simp only [known] at read
        cases read
      | some =>
        simp only [known] at read
        cases read
        rfl
    exact thrifty_own rfl (by simpa [after] using word_spent taken)

end Families

end Spent

section Sharing

/-- All the elements of an array of described values can be read under the constructor of the first: their own
constructors agree, the parts are read back one level down, and the decoder's bounds on size and count are met. -/
structure SharedForm (d first : Value) (rest : List Value) : Prop where
  agree : ∀ v ∈ rest, (toVec v).head? = (toVec first).head?
  descriptor : decodeValue 1 (toVec d) = .ok (d,[])
  bodies : ∀ v ∈ first::rest, decodeValue 1 (toVec v) = .ok (v,[])
  fits : (toVec (array ((first::rest).map (described d)))).length < 2^32 + 5
  few : ∀ code, (toVec first).head? = some code → zeroWidth code = true → (first::rest).length ≤ maxZeroWidthArray

lemma reads_of_alone (read : decodeTyped (decodeValueBody left) (toVec v) = .ok (v,[])) :
    Reads (decodeTyped (decodeValueBody left)) (toVec v) v := by
  obtain ⟨_,same,_⟩ := local_decodeTyped (local_decodeValueBody left) _ _ _ read
  rw [append_nil] at same
  rwa [same]

variable {code : UInt8}

lemma reads_tail (written : toVec v = code::octets)
    (read : Reads (decodeTyped (decodeValueBody left)) (toVec v) v) : Reads (decodeValueBody left code) octets v := by
  intro rest
  have whole := read rest
  rw [written] at whole
  rwa [decodeTyped,cons_append,← singleton_append,bind_of_ok (reads_octet code _)] at whole

variable {rest : Bytes}

lemma zeroWidth_of_empty (read : decodeValueBody left code [] = .ok (v,rest)) : zeroWidth code = true := by
  cases left with
  | zero => cases read
  | succ =>
    rw [decodeValueBody] at read
    cases known : ofOctet code with
    | none =>
      rw [known] at read
      cases read
    | some own =>
      simp only [known] at read
      rw [zeroWidth,known]
      cases own <;> first | rfl | cases read

lemma roundTrip_of_sharedForm {rest : List Value} (shared : SharedForm d first rest) :
    (decode : Decoder Value) (toVec (array ((first::rest).map (described d)))) =
      .ok (.array ((first::rest).map (described d)),[]) := by
  obtain ⟨ctor,octets,opened⟩ := exists_cons_of_ne_nil toVec_ne_nil
  have shape := @toVec_array_described first rest _ _ d opened
  have fits := shared.fits
  rw [shape] at fits ⊢
  have small := framed_fits fits
  have elements : ∀ v ∈ first::rest, Reads (decodeValueBody maxDepth ctor) (toVec v).tail v := by
    intro v member
    have head : (toVec v).head? = some ctor := by
      rcases mem_cons.mp member with rfl | later
      · rw [opened]
        rfl
      · rw [shared.agree v later,opened]
        rfl
    obtain ⟨_,written⟩ := head?_eq_some_iff.mp head
    have read := reads_tail written (reads_of_alone (shared.bodies v member))
    rwa [written]
  have each : List.Forall₂ (Reads (decodeValueBody maxDepth ctor)) ((first::rest).map fun v => (toVec v).tail)
      (first::rest) := forall₂_map_left_iff.mpr (forall₂_same.mpr elements)
  have enough : (first::rest).length ≤ if zeroWidth ctor then maxZeroWidthArray
      else ((first::rest).map fun v => (toVec v).tail).flatten.length := by
    cases zero : zeroWidth ctor with
    | true => exact shared.few ctor (by rw [opened]; rfl) zero
    | false =>
      rw [← each.length_eq]
      refine length_le_flatten fun block member empty => ?_
      obtain ⟨v,present,rfl⟩ := mem_map.mp member
      have read := elements v present []
      rw [empty] at read
      rw [zeroWidth_of_empty read] at zero
      cases zero
  have counted : (first::rest).length < 256^4 := by
    refine lt_of_le_of_lt enough ?_
    simp only [length_cons,length_append] at small ⊢
    split
    · decide
    · omega
  have content : decodeArray (decodeValueBody maxDepth) (first::rest).length
      (described.octet :: (toVec d ++ ctor :: ((first::rest).map fun v => (toVec v).tail).flatten)) =
        .ok ((first::rest).map (described d),[]) := by
    refine (bind_of_ok (reads_octet _ _)).trans ?_
    rw [if_pos rfl]
    refine (bind_of_ok (reads_of_alone shared.descriptor _)).trans ?_
    refine (bind_of_ok (reads_octet ctor _)).trans ?_
    have checked : checkArrayCount (first::rest).length ctor ((first::rest).map fun v => (toVec v).tail).flatten =
        .ok ((),((first::rest).map fun v => (toVec v).tail).flatten) := by
      rw [checkArrayCount,if_neg (Nat.not_lt.mpr enough)]
    refine (bind_of_ok checked).trans ?_
    exact (bind_of_ok (Reads.times each).alone).trans rfl
  have read : Reads (decodeAs (decodeValueBody maxDepth) .array32) _ _ := (reads_sized small counted content).map _
  exact (reads_coded (reads_known read)).alone

lemma sized_alone (read : sized 4 elements (be 4 (content.length + 4) ++ be 4 count ++ content) = .ok (x,[])) :
    content.length + 4 < 256^4 ∧ ∃ left, elements (count % 256^4) content = .ok (x,left) := by
  have number (n : Nat) : Reads (readNat 4) (be 4 n) (n % 256^4) := by
    have read := (reads_readBytes (be 4 n)).map BigEndian.decode
    rwa [length_encode,decode_encode] at read
  obtain ⟨size,_,first,read⟩ := bind_eq_ok.mp read
  rw [append_assoc,number] at first
  cases first
  obtain ⟨slice,after,second,read⟩ := bind_eq_ok.mp read
  have length : (be 4 count ++ content).length = content.length + 4 := by simp [Nat.add_comm]
  have small := Nat.mod_lt (content.length + 4) (show 0 < 256^4 by decide)
  unfold readBytes Parser.take at second
  split at second
  · cases second
  rename_i bound
  cases second
  unfold Parser.within at read
  cases inner : (do let count ← readNat 4; elements count)
      ((be 4 count ++ content).take ((content.length + 4) % 256^4)) with
  | error e =>
    rw [inner] at read
    cases read
  | ok pair =>
    rw [inner] at read
    obtain ⟨rfl,finished⟩ := Prod.mk.inj (Except.ok.inj read)
    have covered := drop_eq_nil_iff.mp finished
    have exact : (content.length + 4) % 256^4 = content.length + 4 :=
      Nat.le_antisymm (Nat.mod_le ..) (length ▸ covered)
    rw [take_of_length_le covered,bind_of_ok (number count content)] at inner
    exact ⟨exact ▸ small,pair.2,inner⟩

lemma bodies_read {ctor : UInt8} (heads : ∀ v ∈ vs, (toVec v).head? = some ctor) (fits : ∀ v ∈ vs, v.Fits)
    (read : times vs.length (decodeValueBody left ctor) ((vs.map fun v => (toVec v).tail).flatten ++ after) =
      .ok (vs,rest)) : ∀ v ∈ vs, Reads (decodeTyped (decodeValueBody left)) (toVec v) v := by
  induction vs generalizing rest with
  | nil => intro v member; cases member
  | cons first others ih =>
    obtain ⟨_,written⟩ := head?_eq_some_iff.mp (heads first mem_cons_self)
    rw [map_cons,flatten_cons,append_assoc] at read
    obtain ⟨v,_,head,read⟩ := bind_eq_ok.mp read
    obtain ⟨_,_,tail,read⟩ := bind_eq_ok.mp read
    cases read
    rw [written,tail_cons] at head
    have next := body_rest (fits first mem_cons_self) written head
    subst next
    intro v member
    rcases mem_cons.mp member with rfl | later
    · obtain ⟨_,same,reads⟩ := local_decodeValueBody left ctor _ _ _ head
      rw [append_cancel_right same] at written
      rw [written]
      exact (reads_octet ctor).bind reads
    · exact ih (fun v member => heads v (mem_cons_of_mem _ member))
        (fun v member => fits v (mem_cons_of_mem _ member)) tail v later

lemma leaves_agree {type : AmqpType} {code : FormatCode} {vs : List Value} {s : Bytes}
    (listed : code ∈ type.leafCodes) (leaves : ∀ v ∈ vs, v.isLeaf ∧ v.type = type)
    (read : times vs.length (decodeValueBody left code.octet) s = .ok (vs,rest)) :
    rest.length + (vs.map fun v => (toVec v).tail).flatten.length ≤ s.length ∧
      (rest.length + (vs.map fun v => (toVec v).tail).flatten.length = s.length →
        ∀ v ∈ vs, (toVec v).head? = some code.octet) := by
  induction vs generalizing s with
  | nil =>
    cases read
    exact ⟨by simp,fun _ v member => by cases member⟩
  | cons first others ih =>
    obtain ⟨v,middle,head,read⟩ := bind_eq_ok.mp read
    obtain ⟨vs,last,tail,read⟩ := bind_eq_ok.mp read
    cases read
    obtain ⟨bound,equal⟩ := ih (fun v member => leaves v (mem_cons_of_mem _ member)) tail
    obtain ⟨leaf,same⟩ := leaves first mem_cons_self
    have thrifty : Thrifty code first s middle := by
      cases left with
      | zero => cases head
      | succ =>
        rw [decodeValueBody_known] at head
        exact leaf_thrifty leaf (same ▸ listed) head
    obtain ⟨ctor,octets,opened⟩ := exists_cons_of_ne_nil toVec_ne_nil
    have length : (toVec first).length = (toVec first).tail.length + 1 := by
      rw [opened]
      rfl
    obtain ⟨spent,own⟩ := thrifty
    rw [map_cons,flatten_cons,length_append]
    refine ⟨by omega,fun total v member => ?_⟩
    rcases mem_cons.mp member with rfl | later
    · exact own (by omega)
    · exact equal (by omega) v later

lemma head_of_branch (branch : v.isLeaf = false) : (toVec v).head? =
    some (if v.type = .described then described.octet else v.type.compoundCode.octet) := by
  by_cases plain : v.type = .described
  · cases v with
    | described =>
      rw [toVec_described]
      rfl
    | _ => cases plain
  have wide : arrayCode v = none := by cases v <;> first | rfl | cases branch
  obtain ⟨_,_,written⟩ := compound_written wide plain
  rw [written,if_neg plain]
  rfl

lemma decode_value : (decode : Decoder Value) = readU8 >>= decodeValueBody (maxDepth + 1) := rfl

lemma checkArrayCount_ok (checked : checkArrayCount count code s = .ok ((),rest)) :
    rest = s ∧ (zeroWidth code = true → count ≤ maxZeroWidthArray) := by
  by_cases above : count > if zeroWidth code then maxZeroWidthArray else s.length
  · rw [checkArrayCount,if_pos above] at checked
    cases checked
  rw [checkArrayCount,if_neg above] at checked
  cases checked
  refine ⟨rfl,fun zero => ?_⟩
  rw [if_pos zero] at above
  omega

lemma decodeArray_described {left : Bytes} {items : List Value}
    (read : decodeArray body count (described.octet::content) = .ok (items,left)) :
    ∃ d after elemCtor rest bodies, decodeTyped body content = .ok (d,after) ∧ readU8 after = .ok (elemCtor,rest) ∧
      (zeroWidth elemCtor = true → count ≤ maxZeroWidthArray) ∧
      times count (body elemCtor) rest = .ok (bodies,left) ∧ items = bodies.map (described d) := by
  obtain ⟨_,_,code,shared⟩ := bind_eq_ok.mp read
  cases code.symm.trans (reads_octet described.octet content)
  rw [if_pos rfl] at shared
  obtain ⟨d,after,descriptor,shared⟩ := bind_eq_ok.mp shared
  obtain ⟨elemCtor,_,code,shared⟩ := bind_eq_ok.mp shared
  obtain ⟨_,_,checked,listed⟩ := bind_eq_ok.mp shared
  obtain ⟨rfl,few⟩ := checkArrayCount_ok checked
  obtain ⟨bodies,_,elements,done⟩ := bind_eq_ok.mp listed
  cases done
  exact ⟨d,after,elemCtor,_,bodies,descriptor,code,few,elements,rfl⟩

lemma map_described_inj {d' : Value} {rest bodies : List Value}
    (same : (first::rest).map (described d) = bodies.map (described d')) : d' = d ∧ bodies = first::rest := by
  cases bodies with
  | nil => cases same
  | cons =>
    obtain ⟨head,tail⟩ := cons.inj same
    cases head
    exact ⟨rfl,by rw [map_injective_iff.mpr (fun _ _ equal => (described.inj equal).2) tail]⟩

lemma sharedForm_of_roundTrip {rest : List Value} (same : ∀ v ∈ rest, v.type = first.type)
    (read : (decode : Decoder Value) (toVec (array ((first::rest).map (described d)))) =
      .ok (.array ((first::rest).map (described d)),[])) : SharedForm d first rest := by
  obtain ⟨ctor,octets,opened⟩ := exists_cons_of_ne_nil toVec_ne_nil
  have shape := @toVec_array_described first rest _ _ d opened
  rw [shape,decode_value] at read
  obtain ⟨_,_,code,read⟩ := bind_eq_ok.mp read
  cases code.symm.trans (reads_octet array32.octet _)
  rw [decodeValueBody_known] at read
  obtain ⟨items,read,listed⟩ := map_eq_ok.mp read
  cases listed
  obtain ⟨small,left,read⟩ := sized_alone read
  obtain ⟨d',after,elemCtor,_,bodies,descriptor,code,few,elements,equal⟩ := decodeArray_described read
  obtain ⟨rfl,rfl⟩ := map_described_inj equal
  have counted : (first::rest).length % 256^4 = (first::rest).length := (length_times elements).symm
  rw [counted] at few elements
  have lengths : ∀ v ∈ first::rest, (toVec v).tail.length ≤
      ((first::rest).map fun v => (toVec v).tail).flatten.length := fun v member =>
    length_le_of_mem (mem_map_of_mem (f := fun v => (toVec v).tail) member)
  rw [length_cons,length_append,length_cons] at small
  -- the descriptor ends where its encoding ends, so the shared constructor is the first body's
  have next := typed_rest (body_rest (fits_of_length (v := d') (by omega))) descriptor
  subst next
  have octet : readU8 (ctor :: ((first::rest).map fun v => (toVec v).tail).flatten) =
      .ok (ctor,((first::rest).map fun v => (toVec v).tail).flatten) := reads_octet ctor _
  obtain ⟨rfl,rfl⟩ := Prod.mk.inj (Except.ok.inj (octet.symm.trans code))
  have fits : ∀ v ∈ first::rest, v.Fits := by
    intro v member
    have bound := lengths v member
    have := length_tail (l := toVec v)
    exact fits_of_length (by omega)
  have heads : ∀ v ∈ first::rest, (toVec v).head? = some ctor := by
    have types : ∀ v ∈ first::rest, v.type = first.type := fun v member => by
      rcases mem_cons.mp member with rfl | later
      · rfl
      · exact same v later
    have head : (toVec first).head? = some ctor := by rw [opened]; rfl
    cases leaf : first.isLeaf with
    | true =>
      obtain ⟨code,content,written,_⟩ := leaf_reads leaf (fits first mem_cons_self)
      cases opened.symm.trans written
      have leaves : ∀ v ∈ first::rest, v.isLeaf ∧ v.type = first.type := by
        intro v member
        rw [isLeaf,types v member]
        exact ⟨leaf,rfl⟩
      obtain ⟨bound,agree⟩ := leaves_agree (leaf_code leaf written) leaves elements
      exact agree (by omega)
    | false =>
      intro v member
      have branch : v.isLeaf = false := by
        rw [isLeaf,types v member]
        exact leaf
      rw [head_of_branch branch,types v member,← head_of_branch leaf,head]
  have whole := elements
  rw [← append_nil (((first::rest).map fun v => (toVec v).tail).flatten)] at whole
  have reads := bodies_read heads fits whole
  have alone := local_decodeTyped (local_decodeValueBody maxDepth) _ _ _ descriptor
  refine ⟨fun v member => ?_,?_,fun v member => (reads v member).alone,?_,fun code head zero => ?_⟩
  · rw [heads v (mem_cons_of_mem _ member),heads first mem_cons_self]
  · obtain ⟨_,equal,reads⟩ := alone
    rw [append_cancel_right equal]
    exact reads.alone
  · rw [shape]
    simp only [framed,coded,length_cons,length_append,length_encode]
    omega
  · rw [heads first mem_cons_self] at head
    cases head
    exact few zero

end Sharing

theorem described_array_roundTrip_iff (d first : Value) (rest : List Value) (same : ∀ v ∈ rest, v.type = first.type) :
    (decode : Decoder Value) (toVec (array ((first::rest).map (described d)))) =
      .ok (.array ((first::rest).map (described d)),[]) ↔ SharedForm d first rest :=
  ⟨sharedForm_of_roundTrip same,roundTrip_of_sharedForm⟩

theorem described_array_roundTrip_uint :
    SharedForm (.ulong 1) (.uint 7) [.uint 8] ∧
    (decode : Decoder Value) (toVec (array [.described (.ulong 1) (.uint 7),.described (.ulong 1) (.uint 8)])) =
      .ok (.array [.described (.ulong 1) (.uint 7),.described (.ulong 1) (.uint 8)],[]) := by
  have shared : SharedForm (.ulong 1) (.uint 7) [.uint 8] := by
    refine ⟨?_,rfl,?_,by decide +kernel,?_⟩
    · intro v member
      cases mem_singleton.mp member
      rfl
    · intro v member
      simp only [mem_cons,not_mem_nil,or_false] at member
      rcases member with rfl | rfl <;> rfl
    · intro code _ _
      decide
  exact ⟨shared,(described_array_roundTrip_iff (.ulong 1) (.uint 7) [.uint 8] (by simp [type])).mpr shared⟩

set_option maxRecDepth 4096 in
/-- A true and a false body: both are decoded as true. -/
theorem described_array_mismatch :
    (bool false).type = (bool true).type ∧
    (decode : Decoder Value) (toVec (array [.described (.ulong 1) (.bool true),.described (.ulong 1) (.bool false)])) =
      .ok (.array [.described (.ulong 1) (.bool true),.described (.ulong 1) (.bool true)],[]) ∧
    (decode : Decoder Value) (toVec (array [.described (.ulong 1) (.bool true),.described (.ulong 1) (.bool false)])) ≠
      .ok (.array [.described (.ulong 1) (.bool true),.described (.ulong 1) (.bool false)],[]) := by
  have decoded : (decode : Decoder Value)
      (toVec (array [.described (.ulong 1) (.bool true),.described (.ulong 1) (.bool false)])) =
        .ok (.array [.described (.ulong 1) (.bool true),.described (.ulong 1) (.bool true)],[]) := rfl
  refine ⟨rfl,decoded,?_⟩
  rw [decoded]
  simp

end Ramqp.Wire
