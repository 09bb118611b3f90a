import Ramqp.Library.BigEndian
import Ramqp.Library.Parser
import Ramqp.Semantics.Text

/-! The binary form in which nodes write the values they exchange: numbers little-endian, lengths in front of texts
and sequences, the number of the variant in front of an enumeration's fields. -/
namespace Ramqp.SerdeBin

open Parser BigEndian List

abbrev Deserializer (α : Type) := Parser UInt8 String α

def take (n : Nat) : Deserializer Bytes := Parser.take (fun _ => "unexpected end of input") n

def le (width n : Nat) : Bytes := (encode width n).reverse

def readLe (width : Nat) : Deserializer Nat := (fun octets => decode octets.reverse) <$> take width

/-- A type with its form, and that it is read back; lengths are 64 bits wide. -/
class Serde (α : Type) where
  serialize : α → Bytes
  deserialize : Deserializer α
  reads : ∀ x, (serialize x).length < 2^64 → Reads deserialize (serialize x) x

export Serde (serialize deserialize)

def toVec {α : Type} [Serde α] (x : α) : Bytes := serialize x

def fromSlice {α : Type} [Serde α] (octets : Bytes) : Except String α :=
  match deserialize octets with
  | .error e => .error e
  | .ok (x,[]) => .ok x
  | .ok (_,rest) => .error (rest.length.repr ++ " trailing byte(s) after value")

variable {α : Type} [Serde α] {width n : Nat}

lemma fromSlice_toVec {x : α} (short : (toVec x).length < 2^64) : fromSlice (toVec x) = .ok x := by
  have read : deserialize (toVec x) = .ok (x,[]) := (Serde.reads x short).alone
  rw [fromSlice,read]

@[simp] lemma length_le : (le width n).length = width := by simp [le]

lemma reads_le (fits : n < 256^width) : Reads (readLe width) (le width n) n := by
  have read := (Reads.take (fun _ => "unexpected end of input") (le width n)).map fun octets => decode octets.reverse
  rwa [length_le,le,reverse_reverse,decode_encode_of_lt fits] at read

instance : Serde UInt32 where
  serialize n := le 4 n.toNat
  deserialize := UInt32.ofNat <$> readLe 4
  reads n _ := by simpa using (reads_le (show n.toNat < 256^4 from n.toNat_lt)).map UInt32.ofNat

instance : Serde UInt64 where
  serialize n := le 8 n.toNat
  deserialize := UInt64.ofNat <$> readLe 8
  reads n _ := by simpa using (reads_le (show n.toNat < 256^8 from n.toNat_lt)).map UInt64.ofNat

instance : Serde Bool where
  serialize b := le 1 b.toNat
  deserialize := do match (← readLe 1) with
    | 0 => pure false
    | 1 => pure true
    | b => throw ("invalid bool byte " ++ b.repr)
  reads b _ := (reads_le (show b.toNat < 256^1 by cases b <;> decide)).bind_nil (by cases b <;> exact .pure _)

instance : Serde String where
  serialize text := le 8 (asBytes text).length ++ asBytes text
  deserialize := do
    let raw ← take (← readLe 8)
    (fromUtf8 raw).elim (throw "invalid UTF-8 in string") pure
  reads text short := by
    rw [length_append] at short
    refine (reads_le (show (asBytes text).length < 256^8 by omega)).bind ((Reads.take _ _).bind_nil ?_)
    rw [fromUtf8_asBytes]
    exact .pure text

instance : Serde Unit where
  serialize _ := []
  deserialize := pure ()
  reads _ _ := .pure ()

variable {β : Type}

instance [Serde β] : Serde (α × β) where
  serialize x := serialize x.1 ++ serialize x.2
  deserialize := do
    let first ← deserialize
    let second ← deserialize
    pure (first,second)
  reads x short := by
    rw [length_append] at short
    exact (Serde.reads x.1 (by omega)).bind ((Serde.reads x.2 (by omega)).bind_nil (.pure _))

instance : Serde (List (α × String)) where
  serialize xs := le 8 xs.length ++ (xs.map serialize).flatten
  deserialize := do times (← readLe 8) deserialize
  reads xs short := by
    have sizes : xs.length ≤ (xs.map serialize).flatten.length ∧
        ∀ x ∈ xs, (serialize x).length ≤ (xs.map serialize).flatten.length := by
      clear short
      induction xs with
      | nil => simp
      | cons x xs ih =>
        have some : 0 < (serialize x).length := by simp [serialize]
        simp only [map_cons,flatten_cons,length_append,length_cons,forall_mem_cons]
        exact ⟨by omega,by omega,fun other listed => Nat.le_add_left_of_le (ih.2 other listed)⟩
    rw [length_append] at short
    refine (reads_le (show xs.length < 256^8 by omega)).bind (.times ?_)
    refine forall₂_map_left_iff.mpr (forall₂_same.mpr fun x listed => Serde.reads x ?_)
    exact Nat.lt_of_le_of_lt (sizes.2 x listed) (by omega)

/-- A variant of an enumeration with its fields as one value. -/
def variant (index : Nat) (fields : α) : Bytes := le 4 index ++ serialize fields

def readVariant (arms : List (Deserializer β)) : Deserializer β := do
  let index ← readLe 4
  match arms[index]? with
  | some arm => arm
  | none => throw s!"invalid value: integer `{index}`, expected variant index 0 <= i < {arms.length}"

lemma reads_variant {arms : List (Deserializer β)} {fields : α} {make : α → β} {x : β}
    (short : (variant n fields).length < 2^64) (small : n < 256^4) (arm : arms[n]? = some (make <$> deserialize))
    (made : make fields = x) : Reads (readVariant arms) (variant n fields) x := by
  rw [variant,length_append] at short
  refine (reads_le small).bind ?_
  simp only [arm]
  exact made ▸ (Serde.reads fields (by omega)).map make

end Ramqp.SerdeBin
