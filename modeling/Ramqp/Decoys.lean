import Ramqp.Semantics.StaticScram

/-! What a challenge tells about a name. The salt of a user is the text of a UUID, that of a decoy
any octets, so decoys pass for users only if every decoy's salt reads as such a text. -/
namespace Ramqp

open List

/-- Sixteen base64 letters in the places where a UUID has its version and its variant. -/
def UuidText (salt : Bytes) : Prop :=
  ∃ code : Fin 16 → Fin 64,salt = ofFn (fun i => base64Letter (code i)) ∧ (code ⟨8,by decide⟩).val / 4 = 4 ∧
    (code ⟨10,by decide⟩).val % 4 = 2

def ScramVerifier.challenge (verifier : ScramVerifier) : Bytes × UInt32 := (verifier.salt,verifier.iterations)

section
variable (x : Primitives) (store : StaticScram)

def userChallenges (username password : String) : Set (Bytes × UInt32) :=
  {c | ∃ draws added later after,store.withUser x username password draws = some added ∧
    c = (attempt x added later .sha256 username after).1.challenge}

def decoyChallenges (username : String) : Set (Bytes × UInt32) :=
  {c | ∃ draws,c = (attempt x store none .sha256 username draws).1.challenge}

def attempts (secret : Option Bytes) : List (String × Draw × Draw) → List (String × Bytes × UInt32)
  | [] => []
  | (username,draws)::rest =>
    let served := attempt x store secret .sha256 username draws
    (username,served.1.challenge)::attempts served.2 rest

lemma attempts_fixed (tries : List (String × Draw × Draw)) (secret : Option Bytes) :
    ∃ made, (∀ held, secret = some held → made = held) ∧ ∀ seen ∈ attempts x store secret tries,
      seen.2 = (attempt x store (some made) .sha256 seen.1 default).1.challenge := by
  induction tries generalizing secret with
  | nil => exact ⟨secret.getD [],fun held same => by rw [same,Option.getD_some],forall_mem_nil _⟩
  | cons first rest ih =>
    obtain ⟨username,draws⟩ := first
    cases found : store.scramVerifier .sha256 username with
    | some verifier =>
      have served (cell draws) : attempt x store cell .sha256 username draws = (verifier,cell) := by
        simp only [attempt,found]
      obtain ⟨made,keeps,each⟩ := ih secret
      refine ⟨made,keeps,?_⟩
      simp only [attempts,served]
      exact forall_mem_cons.mpr ⟨by rw [served],each⟩
    | none =>
      have served (cell draws) : attempt x store cell .sha256 username draws =
          (fakeScramVerifier x (cell.getD (decoySecret x draws)) .sha256 username,
            some (cell.getD (decoySecret x draws))) := by
        simp only [attempt,found]
      obtain ⟨made,keeps,each⟩ := ih (some (secret.getD (decoySecret x draws)))
      have same := keeps _ rfl
      refine ⟨made,fun held set => by rw [same,set,Option.getD_some],?_⟩
      simp only [attempts,served]
      exact forall_mem_cons.mpr ⟨by rw [served,same,Option.getD_some],each⟩

end

private lemma toNat_version (b : UInt8) : (b &&& 0x0f ||| 0x40).toNat = 64 + b.toNat % 16 := by
  have bits := Nat.two_pow_add_eq_or_of_lt (i := 6) (b := b.toNat % 16) (by omega) 1
  rw [UInt8.toNat_or,UInt8.toNat_and,Nat.or_comm]
  simpa [Nat.and_two_pow_sub_one_eq_mod b.toNat 4] using bits.symm

private lemma toNat_variant (b : UInt8) : (b &&& 0x3f ||| 0x80).toNat = 128 + b.toNat % 64 := by
  have bits := Nat.two_pow_add_eq_or_of_lt (i := 7) (b := b.toNat % 64) (by omega) 1
  rw [UInt8.toNat_or,UInt8.toNat_and,Nat.or_comm]
  simpa [Nat.and_two_pow_sub_one_eq_mod b.toNat 6] using bits.symm

private lemma sextets_ofNat {p q r s : Nat} (hp : p < 64) (hq : q < 64) (hr : r < 64) (hs : s < 64) :
    sextets (.ofNat (p * 4 + q / 16)) (.ofNat (q % 16 * 16 + r / 4)) (.ofNat (r % 4 * 64 + s)) = [p,q,r,s] := by
  simp only [sextets,UInt8.toNat_ofNat',cons.injEq,and_true]
  refine ⟨?_,?_,?_,?_⟩ <;> omega

lemma sextets_lt {a b c : UInt8} : ∀ code ∈ sextets a b c, code < 64 := by
  simp [sextets]
  omega

lemma map_letters {codes : List Nat} (sized : codes.length = 16) (small : ∀ code ∈ codes, code < 64) :
    codes.map base64Letter = List.ofFn fun i : Fin 16 => base64Letter (Fin.ofNat 64 (codes.getD i 0)) := by
  apply ext_getElem (by simp [sized])
  intro i first _
  have below : i < codes.length := by simpa using first
  rw [List.getElem_map,List.getElem_ofFn,List.getD_eq_getElem?_getD,List.getElem?_eq_getElem below]
  exact congrArg base64Letter (Nat.mod_eq_of_lt (small _ (getElem_mem below))).symm

section
variable {x : Primitives} {store : StaticScram} {known unknown password : String} (standard : x.Standard)

include standard

lemma genNonce_take (r s : Draw) : (genNonce x (r,s)).take 16 =
    (sextets (r 0) (r 1) (r 2) ++ sextets (r 3) (r 4) (r 5) ++ sextets (r 6 &&& 0x0f ||| 0x40) (r 7)
      (r 8 &&& 0x3f ||| 0x80) ++ sextets (r 9) (r 10) (r 11)).map base64Letter := by
  rw [genNonce,standard.uuid]
  simp only [uuidOctets,cons_append,standard.base64]
  rfl

lemma uuidText_iff {salt : Bytes} : UuidText salt ↔ ∃ draws, salt = (genNonce x draws).take 16 := by
  constructor
  · rintro ⟨code,rfl,version,variant⟩
    change (code 8).val / 4 = 4 at version
    change (code 10).val % 4 = 2 at variant
    let a (i j : Fin 16) : UInt8 := .ofNat (code i * 4 + code j / 16)
    let b (j k : Fin 16) : UInt8 := .ofNat (code j % 16 * 16 + code k / 4)
    let c (k l : Fin 16) : UInt8 := .ofNat (code k % 4 * 64 + code l)
    have group (i j k l) : sextets (a i j) (b j k) (c k l) = [(code i).val,code j,code k,code l] :=
      sextets_ofNat (code i).isLt (code j).isLt (code k).isLt (code l).isLt
    refine ⟨(fun i => [a 0 1,b 1 2,c 2 3,a 4 5,b 5 6,c 6 7,a 8 9,b 9 10,c 10 11,a 12 13,b 13 14,c 14 15].getD i 0,
      fun _ => 0),?_⟩
    have first : a 8 9 &&& 0x0f ||| 0x40 = a 8 9 := by
      rw [← UInt8.toNat_inj,toNat_version,UInt8.toNat_ofNat']
      omega
    have third : c 10 11 &&& 0x3f ||| 0x80 = c 10 11 := by
      rw [← UInt8.toNat_inj,toNat_variant,UInt8.toNat_ofNat']
      omega
    rw [genNonce_take standard]
    change _ = (sextets (a 0 1) (b 1 2) (c 2 3) ++ sextets (a 4 5) (b 5 6) (c 6 7) ++
      sextets (a 8 9 &&& 0x0f ||| 0x40) (b 9 10) (c 10 11 &&& 0x3f ||| 0x80) ++
      sextets (a 12 13) (b 13 14) (c 14 15)).map base64Letter
    rw [first,third,group,group,group,group]
    rfl
  rintro ⟨⟨r,s⟩,rfl⟩
  have version := toNat_version (r 6)
  have variant := toNat_variant (r 8)
  have middle := (r 7).toNat_lt
  rw [genNonce_take standard]
  generalize r 6 &&& 0x0f ||| 0x40 = first,r 8 &&& 0x3f ||| 0x80 = third at *
  refine ⟨fun i => .ofNat 64 ((sextets (r 0) (r 1) (r 2) ++ sextets (r 3) (r 4) (r 5) ++ sextets first (r 7) third ++
    sextets (r 9) (r 10) (r 11)).getD i 0),map_letters rfl ?_,?_,?_⟩
  · intro code member
    simp only [mem_append] at member
    rcases member with ((member | member) | member) | member <;> exact sextets_lt code member
  · simp [sextets]
    omega
  · simp [sextets]
    omega

lemma mem_userChallenges (prepared : (x.saslprep password).isSome) {c : Bytes × UInt32} :
    c ∈ userChallenges x store known password ↔ UuidText c.1 ∧ c.2 = 8192 := by
  obtain ⟨_,prepared⟩ := Option.isSome_iff_exists.mp prepared
  have challenged (draws added) (later : Option Bytes) (after)
      (made : store.withUser x known password draws = some added) :
      (attempt x added later .sha256 known after).1.challenge = ((genNonce x draws).take 16,8192) := by
    rw [StaticScram.withUser,ScramVerifier.derive,prepared] at made
    cases made
    simp [attempt,StaticScram.scramVerifier]
    rfl
  rw [uuidText_iff standard]
  constructor
  · rintro ⟨draws,added,later,after,made,rfl⟩
    rw [challenged draws added later after made]
    exact ⟨⟨draws,rfl⟩,rfl⟩
  obtain ⟨_,_⟩ := c
  rintro ⟨⟨draws,same⟩,rounds⟩
  cases made : store.withUser x known password draws with
  | none => simp [StaticScram.withUser,ScramVerifier.derive,prepared] at made
  | some added =>
    refine ⟨draws,added,none,draws,made,?_⟩
    rw [challenged draws added none draws made]
    exact Prod.ext same rounds

lemma decoys_subset_iff (prepared : (x.saslprep password).isSome) (absent : store.users unknown = none) :
    decoyChallenges x store unknown ⊆ userChallenges x store known password ↔
      ∀ draws, UuidText ((x.hmac .sha256 (decoySecret x draws) (asBytes ("salt:" ++ unknown))).take 16) := by
  have challenged (draws) : (attempt x store none .sha256 unknown draws).1.challenge =
      ((x.hmac .sha256 (decoySecret x draws) (asBytes ("salt:" ++ unknown))).take 16,8192) := by
    simp only [attempt,StaticScram.scramVerifier,absent]
    rfl
  constructor
  · intro within draws
    exact ((mem_userChallenges standard prepared).mp (within ⟨draws,(challenged draws).symm⟩)).1
  rintro each c ⟨draws,rfl⟩
  rw [challenged,mem_userChallenges standard prepared]
  exact ⟨each draws,rfl⟩

/-- Challenges of a broker keep the existence of a user to themselves exactly if the salts of
decoys read as texts of UUIDs. -/
theorem decoys_pass_iff (prepared : (x.saslprep password).isSome) (absent : store.users unknown = none) :
    (decoyChallenges x store unknown ⊆ userChallenges x store known password ∧
      ∀ tries, ∀ p ∈ attempts x store none tries, ∀ q ∈ attempts x store none tries, p.1 = q.1 → p.2 = q.2) ↔
    ∀ draws, UuidText ((x.hmac .sha256 (decoySecret x draws) (asBytes ("salt:" ++ unknown))).take 16) := by
  rw [decoys_subset_iff standard prepared absent,and_iff_left]
  intro tries p first q second same
  obtain ⟨_,-,each⟩ := attempts_fixed x store tries none
  rw [each p first,each q second,same]

end

def encodeNoPad : Bytes → Bytes
  | a::b::c::rest => (sextets a b c).map base64Letter ++ encodeNoPad rest
  | [a,b] => ((sextets a b 0).take 3).map base64Letter
  | [a] => ((sextets a 0 0).take 2).map base64Letter
  | [] => []

def zeroSecret : Bytes :=
  [0x41,0x5e,0x7f,0x1c,0x3d,0xda,0xfb,0x98,0xa9,0x56,0x75,0x14,0x35,0xd2,0xf3,0x90,
    0xb1,0x4e,0x6f,0x0c,0x2d,0xca,0xeb,0x88,0xa9,0x46,0x67,0x04,0x25,0xc6,0xe3,0x80]

/-- HMAC-SHA-256 of `salt:bob` under the secret that zeroes for random octets make. -/
def saltOfBob : Bytes :=
  [0xc8,0x2d,0x59,0xaa,0x30,0x7a,0x7b,0x3b,0xfc,0xad,0xc2,0x08,0x20,0xdb,0x0a,0xe8,
    0xc2,0x87,0xb5,0x7c,0xb0,0x82,0x8a,0xa5,0xa2,0x7f,0x80,0x41,0x20,0xca,0x0f,0x0c]

def zeroes : Primitives where
  h _ data := data
  hmac _ key message := if key = zeroSecret ∧ message = asBytes "salt:bob" then saltOfBob else replicate 32 0
  pbkdf2 _ password _ _ := password
  saslprep := some
  encode _ := ""
  decode _ := none
  encodeNoPad := encodeNoPad
  newV4 := uuidOctets
  debugBody _ := ""
  debugSymbols _ := ""

lemma zeroes_standard : zeroes.Standard := ⟨rfl,fun _ _ _ _ => rfl⟩

theorem decoys_pass_iff_bob :
    zeroes.Standard ∧ (zeroes.saslprep "secret").isSome ∧ ({} : StaticScram).users "bob" = none ∧
    ((decoyChallenges zeroes {} "bob" ⊆ userChallenges zeroes {} "alice" "secret" ∧
      ∀ tries, ∀ p ∈ attempts zeroes {} none tries, ∀ q ∈ attempts zeroes {} none tries, p.1 = q.1 → p.2 = q.2) ↔
    ∀ draws, UuidText ((zeroes.hmac .sha256 (decoySecret zeroes draws) (asBytes ("salt:" ++ "bob"))).take 16)) :=
  ⟨zeroes_standard,rfl,rfl,decoys_pass_iff zeroes_standard rfl rfl⟩

theorem decoy_told_apart : ¬ decoyChallenges zeroes {} "bob" ⊆ userChallenges zeroes {} "alice" "secret" := by
  rw [decoys_subset_iff zeroes_standard rfl rfl]
  intro each
  obtain ⟨code,same,-⟩ := each default
  have secret : decoySecret zeroes default = zeroSecret := by decide +kernel
  have salt : zeroes.hmac .sha256 zeroSecret (asBytes ("salt:" ++ "bob")) = saltOfBob := by
    decide +kernel
  rw [secret,salt] at same
  have letters : ∀ c : Fin 64, base64Letter c ≠ 0xc8 := by decide +kernel
  exact letters (code 0) (cons.inj same).1.symm

end Ramqp
