import Mathlib.Tactic.Ring
import Mathlib.Data.UInt

/-! Numbers as big-endian octets of a fixed width. -/
namespace BigEndian

def encode : Nat → Nat → List UInt8
  | 0,_ => []
  | width + 1,n => UInt8.ofNat (n / 256^width) :: encode width n

def decode (octets : List UInt8) : Nat := octets.foldl (fun value octet => value * 256 + octet.toNat) 0

@[simp] lemma length_encode : (encode width n).length = width := by
  induction width with
  | zero => rfl
  | succ width ih => simp [encode,ih]

lemma foldl_encode : (encode width n).foldl (fun value octet => value * 256 + octet.toNat) start =
      start * 256^width + n % 256^width := by
  induction width generalizing start with
  | zero => simp [encode,Nat.mod_one]
  | succ width ih =>
    rw [encode,List.foldl_cons,ih,Nat.pow_succ,Nat.mod_mul]
    have octet : (UInt8.ofNat (n / 256^width)).toNat = n / 256^width % 256 := UInt8.toNat_ofNat'
    rw [octet]
    ring

lemma decode_encode : decode (encode width n) = n % 256^width := by
  rw [decode,foldl_encode]
  simp

lemma decode_encode_of_lt (fits : n < 256^width) : decode (encode width n) = n := by
  rw [decode_encode,Nat.mod_eq_of_lt fits]

lemma foldl_lt (octets : List UInt8) (start : Nat) :
    octets.foldl (fun value octet => value * 256 + octet.toNat) start < (start + 1) * 256^octets.length := by
  induction octets generalizing start with
  | nil => simp
  | cons octet rest ih =>
    rw [List.foldl_cons,List.length_cons,Nat.pow_succ']
    have small := octet.toNat_lt
    calc
      _ < (start * 256 + octet.toNat + 1) * 256^rest.length := ih _
      _ ≤ ((start + 1) * 256) * 256^rest.length := Nat.mul_le_mul_right _ (by omega)
      _ = _ := Nat.mul_assoc ..

lemma decode_lt (octets : List UInt8) : decode octets < 256^octets.length := by
  simpa [decode] using foldl_lt octets 0

end BigEndian
