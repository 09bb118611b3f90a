import Ramqp.Semantics.Codec

/-! Every primitive value is read back from its encoding. -/
namespace Ramqp.Wire

open Parser (Reads)

/-- Decoding the encoding, whatever follows it, gives the value and stops there; lengths are 32 bits wide. -/
def RoundTrips {α : Type} [Encode α] [Decode α] (x : α) : Prop :=
  (toVec x).length < 2^32 → Reads decode (toVec x) x

variable {width : Nat}

section Readers

lemma reads_readBytes (bytes : Bytes) : Reads (readBytes bytes.length) bytes bytes := Reads.take _ bytes

lemma reads_readNat {n : Nat} (fits : n < 256^width) : Reads (readNat width) (be width n) n := by
  have read := (reads_readBytes (be width n)).map BigEndian.decode
  rwa [BigEndian.length_encode,BigEndian.decode_encode_of_lt fits] at read

lemma reads_readU8 (n : UInt8) : Reads readU8 (be 1 n.toNat) n := by
  simpa [readU8] using (reads_readNat (show n.toNat < 256^1 from n.toNat_lt)).map UInt8.ofNat

lemma reads_readU16 (n : UInt16) : Reads readU16 (be 2 n.toNat) n := by
  simpa [readU16] using (reads_readNat (show n.toNat < 256^2 from n.toNat_lt)).map UInt16.ofNat

lemma reads_readU32 (n : UInt32) : Reads readU32 (be 4 n.toNat) n := by
  simpa [readU32] using (reads_readNat (show n.toNat < 256^4 from n.toNat_lt)).map UInt32.ofNat

lemma reads_readU64 (n : UInt64) : Reads readU64 (be 8 n.toNat) n := by
  simpa [readU64] using (reads_readNat (show n.toNat < 256^8 from n.toNat_lt)).map UInt64.ofNat

lemma reads_octet (n : UInt8) : Reads readU8 [n] n := by
  simpa [be,BigEndian.encode] using reads_readU8 n

lemma reads_utf8String (text kind : String) : Reads (utf8String (asBytes text) kind) [] text := by
  simpa [utf8String,fromUtf8_asBytes] using Reads.pure text

lemma reads_coded {α : Type} {f : UInt8 → Decoder α} {code : FormatCode} {octets : Bytes} {x : α}
    (read : Reads (f code.octet) octets x) : Reads (readU8 >>= f) (coded code octets) x :=
  (reads_octet code.octet).bind read

end Readers

variable {n : UInt32}

section Narrow

/-! The one-octet forms lose nothing of a small number. -/

lemma smallUint_eq (small : n.toNat ≤ 255) : be 1 n.toNat = be 1 n.toUInt8.toNat ∧ n.toUInt8.toUInt32 = n := by
  have same : n.toUInt8.toNat = n.toNat := by
    rw [UInt32.toNat_toUInt8]
    omega
  refine ⟨by rw [same],UInt32.toNat_inj.mp ?_⟩
  rw [UInt8.toNat_toUInt32,same]

lemma smallUlong_eq {n : UInt64} (small : n.toNat ≤ 255) : be 1 n.toNat = be 1 n.toUInt8.toNat ∧ n.toUInt8.toUInt64 = n := by
  have same : n.toUInt8.toNat = n.toNat := by
    rw [UInt64.toNat_toUInt8]
    omega
  refine ⟨by rw [same],UInt64.toNat_inj.mp ?_⟩
  rw [UInt8.toNat_toUInt64,same]

lemma smallInt_eq {n : Int32} (small : -128 ≤ n.toInt ∧ n.toInt ≤ 127) : n.toInt8.toInt32 = n := by
  apply Int32.toInt_inj.mp
  rw [Int8.toInt_toInt32,Int32.toInt_toInt8]
  exact Int.bmod_eq_of_le (by omega) (by omega)

lemma smallLong_eq {n : Int64} (small : -128 ≤ n.toInt ∧ n.toInt ≤ 127) : n.toInt8.toInt64 = n := by
  apply Int64.toInt_inj.mp
  rw [Int8.toInt_toInt64,Int64.toInt_toInt8]
  exact Int.bmod_eq_of_le (by omega) (by omega)

end Narrow

section Typed

variable {bytes : Bytes}

lemma roundTrips_bool (b : Bool) : RoundTrips b := by
  intro _
  cases b <;> exact reads_coded (Reads.pure _)

lemma roundTrips_u8 (n : UInt8) : RoundTrips n := fun _ => reads_coded (reads_readU8 n)

lemma roundTrips_u16 (n : UInt16) : RoundTrips n := fun _ => reads_coded (reads_readU16 n)

lemma roundTrips_u32 : RoundTrips n := by
  intro _
  change Reads decode (if n = 0 then coded .uint0 [] else if n.toNat ≤ 255 then _ else _) n
  split_ifs with zero small
  · subst zero
    exact reads_coded (Reads.pure _)
  · obtain ⟨octet,same⟩ := smallUint_eq small
    rw [octet]
    have read := (reads_readU8 n.toUInt8).map UInt8.toUInt32
    rw [same] at read
    exact reads_coded read
  · exact reads_coded (reads_readU32 n)

lemma roundTrips_u64 (n : UInt64) : RoundTrips n := by
  intro _
  change Reads decode (if n = 0 then coded .ulong0 [] else if n.toNat ≤ 255 then _ else _) n
  split_ifs with zero small
  · subst zero
    exact reads_coded (Reads.pure _)
  · obtain ⟨octet,same⟩ := smallUlong_eq small
    rw [octet]
    have read := (reads_readU8 n.toUInt8).map UInt8.toUInt64
    rw [same] at read
    exact reads_coded read
  · exact reads_coded (reads_readU64 n)

lemma reads_length (fits : bytes.length < 256^width) :
    Reads (readNat width >>= readBytes) (be width bytes.length ++ bytes) bytes :=
  (reads_readNat fits).bind (reads_readBytes bytes)

lemma reads_encodeVar {code8 code32 : FormatCode} {expected : String} (apart : code8 ≠ code32)
    (fits : bytes.length < 2^32) :
    Reads (decodeVariable code8 code32 expected) (encodeVar code8 code32 bytes) bytes := by
  unfold encodeVar decodeVariable
  split_ifs with short
  · apply reads_coded
    have length := reads_readU8 (UInt8.ofNat bytes.length)
    have same : (UInt8.ofNat bytes.length).toNat = bytes.length := by
      rw [UInt8.toNat_ofNat']
      omega
    rw [same] at length
    have read : Reads (readU8 >>= fun n => readBytes n.toNat) (be 1 bytes.length ++ bytes) bytes :=
      length.bind (by rw [same]; exact reads_readBytes bytes)
    simpa using read
  apply reads_coded
  have length := reads_readU32 (UInt32.ofNat bytes.length)
  have same : (UInt32.ofNat bytes.length).toNat = bytes.length := by
    rw [UInt32.toNat_ofNat']
    omega
  rw [same] at length
  have read : Reads (readU32 >>= fun n => readBytes n.toNat) (be 4 bytes.length ++ bytes) bytes :=
    length.bind (by rw [same]; exact reads_readBytes bytes)
  simpa [apart.symm] using read

lemma length_encodeVar (code8 code32 : FormatCode) (bytes : Bytes) :
    bytes.length < (encodeVar code8 code32 bytes).length := by
  unfold encodeVar coded
  split_ifs <;> simp only [List.length_cons,List.length_append] <;> omega

lemma roundTrips_bytes : RoundTrips bytes := fun fits =>
  reads_encodeVar (by decide) ((length_encodeVar .vbin8 .vbin32 bytes).trans fits)

lemma roundTrips_string (text : String) : RoundTrips text := fun fits =>
  (reads_encodeVar (by decide) ((length_encodeVar .str8 .str32 (asBytes text)).trans fits)).bind_nil
    (reads_utf8String text _)

lemma roundTrips_symbol (symbol : Symbol) : RoundTrips symbol := fun fits =>
  (reads_encodeVar (by decide) ((length_encodeVar .sym8 .sym32 (asBytes symbol.text)).trans fits)).bind_nil
    ((reads_utf8String symbol.text _).map Symbol.mk)

end Typed

end Ramqp.Wire
