import Ramqp.Semantics.Types

/-! The string functions of the Rust library that the modelled code calls, on Lean strings. -/
namespace Ramqp

def fromUtf8 (bytes : Bytes) : Option String := String.fromUTF8? ⟨bytes.toArray⟩

def asBytes (text : String) : Bytes := text.toUTF8.data.toList

lemma fromUtf8_asBytes : fromUtf8 (asBytes text) = some text := by
  change String.fromUTF8? text.toUTF8 = some text
  unfold String.fromUTF8?
  rw [String.toUTF8_eq_toByteArray,dif_pos text.isValidUTF8]
  rfl

def split (separator : Char) (text : String) : List String :=
  (text.toList.splitOn separator).map String.ofList

def splitOnce (separator : Char) (text : String) : Option (String × String) :=
  match text.toList.span (fun c => c != separator) with
  | (_,[]) => none
  | (before,_::after) => some (.ofList before,.ofList after)

def startsWith (head text : String) : Bool := head.toList.isPrefixOf text.toList

def strip (head text : String) : Option String :=
  if startsWith head text then some (.ofList (text.toList.drop head.length)) else none

def eqIgnoreAsciiCase (first second : String) : Bool :=
  first.toList.map Char.toLower == second.toList.map Char.toLower

def isWhitespace (c : Char) : Bool :=
  (9 ≤ c.toNat && c.toNat ≤ 13) || c.toNat == 0x20 || c.toNat == 0x85 || c.toNat == 0xA0 ||
  c.toNat == 0x1680 || (0x2000 ≤ c.toNat && c.toNat ≤ 0x200A) || c.toNat == 0x2028 || c.toNat == 0x2029 ||
  c.toNat == 0x202F || c.toNat == 0x205F || c.toNat == 0x3000

def trim (text : String) : String :=
  .ofList (((text.toList.dropWhile isWhitespace).reverse.dropWhile isWhitespace).reverse)

def pushDigit (value : Nat) (c : Char) : Option Nat :=
  if c.isDigit && value * 10 + (c.toNat - '0'.toNat) < 2^32 then some (value * 10 + (c.toNat - '0'.toNat)) else none

def parseU32 (text : String) : Option UInt32 :=
  let digits := match text.toList with
    | '+'::rest => rest
    | all => all
  if digits.isEmpty then none else (digits.foldlM pushDigit 0).map Nat.toUInt32

example : parseU32 "+4096" = some 4096 ∧ parseU32 "4294967296" = none ∧ parseU32 "+" = none := by decide

end Ramqp
