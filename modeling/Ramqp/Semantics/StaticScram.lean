import Ramqp.Semantics.Sasl

/-! The verifiers a broker challenges with: those of the static user table, salted as a user is
added, and the decoys of unknown names, salted from a secret of the process. -/
namespace Ramqp

abbrev Draw := Fin 16 → UInt8

def uuidOctets (r : Draw) : Bytes :=
  [r 0,r 1,r 2,r 3,r 4,r 5,r 6 &&& 0x0f ||| 0x40,r 7,r 8 &&& 0x3f ||| 0x80,r 9,r 10,r 11,r 12,r 13,r 14,r 15]

def base64Letter (sextet : Nat) : UInt8 :=
  ("ABCDEFGHIJKLMNOPQRSTUVWXYZabcdefghijklmnopqrstuvwxyz0123456789+/".toList.map fun c => c.toNat.toUInt8).getD sextet 0

def sextets (a b c : UInt8) : List Nat :=
  let v := a.toNat * 65536 + b.toNat * 256 + c.toNat
  [v / 262144 % 64,v / 4096 % 64,v / 64 % 64,v % 64]

structure ScramVerifier where
  salt : Bytes
  iterations : UInt32
  storedKey : Bytes
  serverKey : Bytes
  deriving DecidableEq

section
variable (x : Primitives)

/-- What is known of the two crates: a UUID shows its version and its variant, and base64 has four letters for
three octets. -/
structure Primitives.Standard : Prop where
  uuid : x.newV4 = uuidOctets
  base64 : ∀ a b c rest, x.encodeNoPad (a::b::c::rest) = (sextets a b c).map base64Letter ++ x.encodeNoPad rest

def genNonce (draws : Draw × Draw) : Bytes := x.encodeNoPad (x.newV4 draws.1 ++ x.newV4 draws.2)

def ScramVerifier.ofSalted (mechanism : ScramMechanism) (salt : Bytes) (iterations : UInt32) (salted : Bytes) :
    ScramVerifier :=
  ⟨salt,iterations,x.h mechanism (x.hmac mechanism salted (asBytes "Client Key")),
    x.hmac mechanism salted (asBytes "Server Key")⟩

def ScramVerifier.derive (mechanism : ScramMechanism) (password : String) (salt : Bytes) (iterations : UInt32) :
    Option ScramVerifier :=
  (x.saslprep password).map fun password =>
    .ofSalted x mechanism salt iterations (x.pbkdf2 mechanism (asBytes password) salt iterations)

structure StaticScram where
  users : String → Option ScramVerifier := fun _ => none

namespace StaticScram

def iterations : UInt32 := 8192

/-- `none` where the code panics, on a password that SASLprep prohibits. -/
def withUser (store : StaticScram) (username password : String) (draws : Draw × Draw) : Option StaticScram :=
  (ScramVerifier.derive x .sha256 password ((genNonce x draws).take 16) iterations).map fun verifier =>
    {store with users := Function.update store.users username (some verifier)}

def scramVerifier (store : StaticScram) (mechanism : ScramMechanism) (username : String) : Option ScramVerifier :=
  if mechanism = .sha256 then store.users username else none

end StaticScram

def decoySecret (draws : Draw × Draw) : Bytes :=
  let nonce := genNonce x draws
  (List.range 32).map fun i => nonce.getD (i % nonce.length) 0 ^^^ (i.toUInt8 * 31)

def fakeScramVerifier (secret : Bytes) (mechanism : ScramMechanism) (username : String) : ScramVerifier :=
  let salt := (x.hmac mechanism secret (asBytes ("salt:" ++ username))).take 16
  let fakePw := x.hmac mechanism secret (asBytes ("pw:" ++ username))
  .ofSalted x mechanism salt 8192 (x.pbkdf2 mechanism fakePw salt 8192)

/-- The verifier of one attempt. The secret is made when a name is unknown for the first time. -/
def attempt (store : StaticScram) (secret : Option Bytes) (mechanism : ScramMechanism) (username : String)
    (draws : Draw × Draw) : ScramVerifier × Option Bytes :=
  match store.scramVerifier mechanism username with
  | some verifier => (verifier,secret)
  | none =>
    let made := secret.getD (decoySecret x draws)
    (fakeScramVerifier x made mechanism username,some made)

end

end Ramqp
