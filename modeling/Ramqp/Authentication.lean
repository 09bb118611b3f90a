import Ramqp.Semantics.Sasl

/-! Mutual authentication by SCRAM: which exchanges a client accepts although the server never
showed that it knows the password. -/
namespace Ramqp

open List ScramClient SaslProfile Transport

variable {mechanism : ScramMechanism} {username password nonce : String}

lemma diff_eq_zero (pairs : List (UInt8 × UInt8)) (diff : UInt8) :
    pairs.foldl (fun diff pair => diff ||| (pair.1 ^^^ pair.2)) diff = 0 ↔
      diff = 0 ∧ ∀ pair ∈ pairs, pair.1 = pair.2 := by
  induction pairs generalizing diff with
  | nil => simp
  | cons pair pairs ih =>
    rw [foldl_cons,ih,UInt8.or_eq_zero_iff,UInt8.xor_eq_zero_iff,forall_mem_cons,and_assoc]

lemma ctEq_iff (a b : Bytes) : ctEq a b = true ↔ a = b := by
  unfold ctEq
  split
  next lengths =>
    refine ⟨nofun,?_⟩
    rintro rfl
    exact absurd rfl lengths
  rename_i lengths
  rw [beq_iff_eq,diff_eq_zero]
  have same : a.length = b.length := not_not.mp lengths
  constructor
  · rintro ⟨-,equal⟩
    apply ext_getElem same
    intro i left right
    refine equal (a[i],b[i]) (mem_iff_getElem.mpr ⟨i,?_,getElem_zip⟩)
    rw [length_zip]
    exact lt_min left right
  rintro rfl
  refine ⟨rfl,?_⟩
  intro pair member
  obtain ⟨_,_,rfl⟩ := mem_iff_getElem.mp member
  rw [getElem_zip]

def finalData : Except Failure FrameBody → Option Bytes
  | .ok (.sasl (.challenge data)) => if ScramClient.isFinal data then some data else none
  | .ok (.sasl (.outcome _ data)) => data
  | _ => none

section
variable (x : Primitives)

variable {received : List (Except Failure FrameBody)}

def Signed (signature : Bytes) (received : List (Except Failure FrameBody)) : Prop :=
  ∃ item ∈ received, ∃ data, finalData item = some data ∧ parseServerFinal x data = .ok signature

/-- A server-first challenge that extends the client's nonce, and after it a server-final value that
is the signature the client computes for that challenge. -/
def Authenticated (c : ScramClient) (received : List (Except Failure FrameBody)) : Prop :=
  ∃ before challenge first after,
    received = before ++ .ok (.sasl (.challenge challenge))::after ∧
    parseServerFirst x challenge = .ok first ∧ startsWith c.clientNonce first.nonce = true ∧
    Signed x (c.signature x first) after

lemma Authenticated.cons {c : ScramClient} (item : Except Failure FrameBody)
    (authentic : Authenticated x c received) : Authenticated x c (item::received) := by
  obtain ⟨before,challenge,first,after,rfl,rest⟩ := authentic
  exact ⟨item::before,challenge,first,after,rfl,rest⟩

namespace ScramClient

variable {x} {c : ScramClient}

variable {challenge : Bytes}

lemma verifyServerFinal_iff (data : Bytes) : c.verifyServerFinal x data = .ok () ↔
    ∃ signature, c.serverSignature = some signature ∧ parseServerFinal x data = .ok signature := by
  unfold verifyServerFinal
  cases parseServerFinal x data with
  | error => simp
  | ok got => cases c.serverSignature with
    | none => simp
    | some expected =>
      by_cases same : ctEq expected got = true
      · have equal := (ctEq_iff ..).mp same
        subst equal
        simp [same]
      · have differ : expected ≠ got := fun equal => same ((ctEq_iff ..).mpr equal)
        simpa [same] using fun equal => differ equal.symm

def answers (x : Primitives) (c : ScramClient) (challenge : Bytes) : Bool :=
  !isFinal challenge && match parseServerFirst x challenge with
    | .ok first => startsWith c.clientNonce first.nonce
    | .error _ => false

lemma respond_cases {result : ScramClient × Bytes} (ok : c.respond x challenge = .ok result) :
    (isFinal challenge = true ∧ result.1 = c ∧
      ∃ signature, c.serverSignature = some signature ∧ parseServerFinal x challenge = .ok signature) ∨
    (c.answers x challenge = true ∧ ∃ first, parseServerFirst x challenge = .ok first ∧
      startsWith c.clientNonce first.nonce = true ∧
      result.1 = {c with serverSignature := some (c.signature x first)}) := by
  unfold respond at ok
  split at ok
  next final =>
    refine .inl ⟨final,?_⟩
    cases verified : c.verifyServerFinal x challenge with
    | error =>
      rw [verified] at ok
      cases ok
    | ok =>
      rw [verified] at ok
      cases ok
      exact ⟨rfl,(verifyServerFinal_iff challenge).mp verified⟩
  next final =>
    refine .inr ?_
    unfold answers
    cases parsed : parseServerFirst x challenge with
    | error =>
      rw [parsed] at ok
      cases ok
    | ok first =>
      simp only [parsed] at ok
      split at ok
      next extends_ =>
        cases ok
        exact ⟨by simp [final,extends_],first,rfl,extends_,rfl⟩
      · cases ok

lemma respond_of_answers (answers : c.answers x challenge = true) : ∃ first response, c.respond x challenge =
      .ok ({c with serverSignature := some (c.signature x first)},response) := by
  unfold ScramClient.answers at answers
  obtain ⟨first_,extends_⟩ := Bool.and_eq_true_iff.mp answers
  unfold respond
  rw [if_neg (by simpa using first_)]
  cases parsed : parseServerFirst x challenge with
  | error =>
    rw [parsed] at extends_
    cases extends_
  | ok first =>
    rw [parsed] at extends_
    exact ⟨first,_,if_pos extends_⟩

end ScramClient

/-- The challenges left are server-first messages that the client answers, up to an outcome `ok`
without data; `count` frames have been written. -/
def unsignedFrom (fault : Nat → Option Failure) (c : ScramClient) :
    Nat → List (Except Failure FrameBody) → Bool
  | count,.ok (.sasl (.challenge challenge))::rest =>
    c.answers x challenge && (fault count).isNone && unsignedFrom fault c (count+1) rest
  | _,.ok (.sasl (.outcome .ok none))::_ => true
  | _,_ => false

/-- The server offers the mechanism, and then sends nothing but server-first messages and an
outcome `ok` without a server-final message. -/
def Transport.unsigned (t : Transport) (mechanism : ScramMechanism) (username password nonce : String) : Bool :=
  match t.incoming,ScramClient.withNonce x mechanism username password nonce with
  | .ok (.sasl (.mechanisms names))::rest,.ok client =>
    offers names mechanism.name && (t.fault t.sent.length).isNone &&
      unsignedFrom x t.fault client.clientFirst.1 (t.sent.length+1) rest
  | _,_ => false

namespace Transport

variable {x}

variable {t : Transport}

lemma unsigned_cases (unsigned : t.unsigned x mechanism username password nonce = true) :
    ∃ names rest client, t.incoming = .ok (.sasl (.mechanisms names))::rest ∧
      withNonce x mechanism username password nonce = .ok client ∧
      offers names mechanism.name = true ∧ t.fault t.sent.length = none ∧
      unsignedFrom x t.fault client.clientFirst.1 (t.sent.length+1) rest = true := by
  unfold Transport.unsigned at unsigned
  split at unsigned
  next names rest client incoming made =>
    simp only [Bool.and_eq_true,Option.isNone_iff_eq_none] at unsigned
    exact ⟨names,rest,client,incoming,made,unsigned.1.1,unsigned.1.2,unsigned.2⟩
  · cases unsigned

lemma sendSasl_ok {next : Transport} {frame : SaslFrame} (ok : t.sendSasl frame = .ok next) :
    t.fault t.sent.length = none ∧ next.fault = t.fault ∧ next.sent.length = t.sent.length + 1 := by
  unfold sendSasl at ok
  cases fault : t.fault t.sent.length with
  | some =>
    rw [fault] at ok
    cases ok
  | none =>
    rw [fault] at ok
    cases ok
    exact ⟨rfl,rfl,by simp⟩

lemma sendSasl_total (frame : SaslFrame) (clear : t.fault t.sent.length = none) :
    ∃ next, t.sendSasl frame = .ok next := by
  unfold sendSasl
  rw [clear]
  exact ⟨_,rfl⟩

lemma exchange_signed {c : ScramClient} (incoming : List (Except Failure FrameBody)) {after : Transport}
    {signature : Option Bytes}
    (ok : t.exchange x (.scram {c with serverSignature := signature}) incoming = .ok after) :
    ∃ received, incoming = received ++ after.incoming ∧
      (Authenticated x c received ∨ (∃ s, signature = some s ∧ Signed x s received) ∨
        unsignedFrom x t.fault c t.sent.length incoming = true) := by
  induction incoming generalizing t signature with
  | nil => cases ok
  | cons item rest ih =>
    match item with
    | .error failure => cases ok
    | .ok (.sasl (.challenge challenge)) =>
      simp only [exchange,MechState.respond] at ok
      cases answered : respond x {c with serverSignature := signature} challenge with
      | error =>
        rw [answered] at ok
        cases ok
      | ok result =>
        simp only [answered] at ok
        cases written : t.sendSasl (.response result.2) with
        | error =>
          rw [written] at ok
          cases ok
        | ok =>
          simp only [written] at ok
          obtain ⟨clear,faults,count⟩ := sendSasl_ok written
          rcases respond_cases answered with ⟨final,same,s,known,parsed⟩ | ⟨taken,first,parsed,extends_,same⟩
          · rw [same] at ok
            obtain ⟨received,rfl,-⟩ := ih ok
            exact ⟨_::received,rfl,.inr (.inl ⟨s,known,_,mem_cons_self,challenge,if_pos final,parsed⟩)⟩
          rw [same] at ok
          obtain ⟨received,rfl,authentic | signed | unsigned⟩ := ih ok
          · exact ⟨_::received,rfl,.inl (authentic.cons x _)⟩
          · obtain ⟨_,equal,signed⟩ := signed
            cases equal
            exact ⟨_::received,rfl,.inl ⟨[],challenge,first,received,rfl,parsed,extends_,signed⟩⟩
          refine ⟨_::received,rfl,.inr (.inr ?_)⟩
          rw [count,faults] at unsigned
          have taken : c.answers x challenge = true := taken
          rw [unsignedFrom,taken,clear,unsigned]
          rfl
    | .ok (.sasl (.outcome code additional)) =>
      simp only [exchange] at ok
      split at ok
      next fine =>
        subst fine
        cases additional with
        | none =>
          cases ok
          exact ⟨[_],rfl,.inr (.inr rfl)⟩
        | some data =>
          simp only [MechState.verifyOutcome] at ok
          cases verified : verifyServerFinal x {c with serverSignature := signature} data with
          | error =>
            rw [verified] at ok
            cases ok
          | ok =>
            rw [verified] at ok
            cases ok
            obtain ⟨s,known,parsed⟩ := (verifyServerFinal_iff data).mp verified
            exact ⟨[_],rfl,.inr (.inl ⟨s,known,_,mem_cons_self,data,rfl,parsed⟩)⟩
      · cases ok
    | .ok (.sasl (.mechanisms names)) => cases ok
    | .ok (.sasl (.init _ _ _)) => cases ok
    | .ok (.sasl (.response _)) => cases ok
    | .ok (.amqp _ _) => cases ok
    | .ok .empty => cases ok

lemma exchange_unsigned (c : ScramClient) (signature : Option Bytes) (incoming : List (Except Failure FrameBody))
    (unsigned : unsignedFrom x t.fault c t.sent.length incoming = true) :
    ∃ after received, t.exchange x (.scram {c with serverSignature := signature}) incoming = .ok after ∧
      incoming = received ++ after.incoming ∧ ∀ item ∈ received, finalData item = none := by
  induction incoming generalizing t signature with
  | nil => cases unsigned
  | cons item rest ih =>
    unfold unsignedFrom at unsigned
    split at unsigned
    next challenge later same =>
      cases same
      simp only [Bool.and_eq_true,Option.isNone_iff_eq_none] at unsigned
      obtain ⟨⟨answers,clear⟩,later⟩ := unsigned
      have first : ScramClient.answers x {c with serverSignature := signature} challenge = true := answers
      obtain ⟨first,response,answered⟩ := ScramClient.respond_of_answers first
      obtain ⟨_,written⟩ := sendSasl_total (.response response) clear
      obtain ⟨-,faults,count⟩ := sendSasl_ok written
      rw [← faults,← count] at later
      obtain ⟨after,received,ok,rfl,quiet⟩ := ih (some (c.signature x first)) later
      refine ⟨after,_::received,?_,rfl,forall_mem_cons.mpr ⟨?_,quiet⟩⟩
      · simp only [exchange,MechState.respond,answered,written]
        exact ok
      have final : ScramClient.isFinal challenge = false := by
        simpa [ScramClient.answers] using (Bool.and_eq_true_iff.mp answers).1
      simp [finalData,final]
    next same =>
      cases same
      exact ⟨{t with incoming := rest},[_],rfl,rfl,forall_mem_singleton.mpr rfl⟩
    · cases unsigned

end Transport

end

variable {x : Primitives}

lemma Authenticated.final {c : ScramClient} {received : List (Except Failure FrameBody)}
    (authentic : Authenticated x c received) : ∃ item ∈ received, finalData item ≠ none := by
  obtain ⟨_,_,_,_,rfl,-,-,item,member,_,final,-⟩ := authentic
  refine ⟨item,mem_append_right _ (mem_cons_of_mem _ member),?_⟩
  rw [final]
  exact Option.some_ne_none _

lemma negotiate_scram_ok {t after : Transport} {hostname : Option String}
    (ok : negotiate x t (.scram mechanism username password) nonce hostname = .ok after) :
    ∃ names rest client next, t.incoming = .ok (.sasl (.mechanisms names))::rest ∧
      offers names mechanism.name = true ∧ withNonce x mechanism username password nonce = .ok client ∧
      t.sendSasl (.init mechanism.name (some client.clientFirst.2) hostname) = .ok next ∧
      next.exchange x (.scram client.clientFirst.1) rest = .ok after := by
  unfold negotiate at ok
  split at ok
  · cases ok
  · cases ok
  next names rest incoming =>
    by_cases offered : offers names mechanism.name = true
    · simp only [mechanismName,start,offered,if_true] at ok
      cases made : withNonce x mechanism username password nonce with
      | error =>
        rw [made] at ok
        cases ok
      | ok client =>
        simp only [made] at ok
        cases written : t.sendSasl (.init mechanism.name (some client.clientFirst.2) hostname) with
        | error =>
          rw [written] at ok
          cases ok
        | ok next =>
          rw [written] at ok
          exact ⟨names,rest,client,next,incoming,offered,rfl,written,ok⟩
    · simp only [mechanismName,offered] at ok
      cases ok
  · cases ok

lemma clientFirst_unsigned {client : ScramClient}
    (made : withNonce x mechanism username password nonce = .ok client) :
    client.clientFirst.1 = {client.clientFirst.1 with serverSignature := none} := by
  unfold withNonce at made
  cases named : prep x username with
  | error =>
    rw [named] at made
    cases made
  | ok =>
    cases secret : prep x password with
    | error =>
      rw [named,secret] at made
      cases made
    | ok =>
      rw [named,secret] at made
      cases made
      rfl

/-- A SCRAM client that accepts has authenticated the server, exactly unless the server ends the
exchange with a bare outcome `ok` after nothing but server-first challenges, or none. -/
theorem negotiate_authenticates_iff (x : Primitives) (t : Transport) (mechanism : ScramMechanism)
    (username password nonce : String) (hostname : Option String) :
    (∀ after, negotiate x t (.scram mechanism username password) nonce hostname = .ok after →
      ∃ client received, ScramClient.withNonce x mechanism username password nonce = .ok client ∧
        t.incoming = received ++ after.incoming ∧ Authenticated x client.clientFirst.1 received) ↔
    t.unsigned x mechanism username password nonce = false := by
  constructor
  · intro authenticates
    by_contra unsigned
    obtain ⟨_,rest,client,incoming,made,offered,clear,quiet⟩ :=
      unsigned_cases (Bool.eq_true_of_not_eq_false unsigned)
    obtain ⟨_,written⟩ := sendSasl_total
      (.init mechanism.name (some client.clientFirst.2) hostname) clear
    obtain ⟨-,faults,count⟩ := sendSasl_ok written
    rw [← faults,← count] at quiet
    obtain ⟨after,_,ok,rfl,silent⟩ := exchange_unsigned _ none rest quiet
    rw [← clientFirst_unsigned made] at ok
    have accepted : negotiate x t (.scram mechanism username password) nonce hostname = .ok after := by
      simp only [negotiate,incoming,mechanismName,offered,if_true,start,made,written,ok]
    obtain ⟨_,_,-,consumed,authentic⟩ := authenticates after accepted
    rw [incoming,← cons_append] at consumed
    obtain ⟨item,member,final⟩ := authentic.final
    rw [← append_cancel_right consumed] at member
    rcases mem_cons.mp member with rfl | member
    · exact final rfl
    · exact final (silent item member)
  intro signed after ok
  obtain ⟨_,rest,client,_,incoming,offered,made,written,ok⟩ := negotiate_scram_ok ok
  obtain ⟨clear,faults,count⟩ := sendSasl_ok written
  rw [clientFirst_unsigned made] at ok
  obtain ⟨received,rfl,authentic | ⟨_,known,-⟩ | unsigned⟩ := exchange_signed rest ok
  · exact ⟨client,_::received,made,incoming,authentic.cons x _⟩
  · cases known
  rw [faults,count] at unsigned
  simp only [Transport.unsigned,incoming,made,offered,clear,unsigned] at signed
  cases signed

def sample : Primitives where
  h := fun _ => id
  hmac := fun _ key message => key ++ message
  pbkdf2 := fun _ password salt _ => password ++ salt
  saslprep := some
  encode := fun _ => "cA=="
  decode := fun _ => some [112]
  encodeNoPad := id
  newV4 := List.ofFn
  debugBody := fun _ => "frame"
  debugSymbols := fun _ => "symbols"

def AcceptsUnsigned (incoming : List (Except Failure FrameBody)) : Prop :=
  (∃ after, negotiate sample {incoming} (.scram .sha256 "user" "pencil") "a" none = .ok after ∧ after.incoming = []) ∧
  ¬∃ client, ScramClient.withNonce sample .sha256 "user" "pencil" "a" = .ok client ∧
    Authenticated sample client.clientFirst.1 incoming

/-- A server that reports success at once, and one that sends a challenge before. -/
theorem negotiate_accepts_unsigned :
    AcceptsUnsigned [.ok (.sasl (.mechanisms ["SCRAM-SHA-256"])),.ok (.sasl (.outcome .ok none))] ∧
    AcceptsUnsigned [.ok (.sasl (.mechanisms ["SCRAM-SHA-256"])),
      .ok (.sasl (.challenge (asBytes "r=ab,s=cA==,i=1"))),.ok (.sasl (.outcome .ok none))] := by
  have silent : ∀ incoming : List (Except Failure FrameBody), (∀ item ∈ incoming, finalData item = none) →
      ¬∃ client, withNonce sample .sha256 "user" "pencil" "a" = .ok client ∧
        Authenticated sample client.clientFirst.1 incoming := by
    rintro incoming none_ ⟨client,-,authentic⟩
    obtain ⟨item,member,final⟩ := authentic.final
    exact final (none_ item member)
  refine ⟨⟨⟨_,rfl,rfl⟩,silent _ ?_⟩,⟨⟨_,rfl,rfl⟩,silent _ ?_⟩⟩
  · exact forall_mem_cons.mpr ⟨rfl,forall_mem_singleton.mpr rfl⟩
  · exact forall_mem_cons.mpr ⟨rfl,forall_mem_cons.mpr ⟨by decide,forall_mem_singleton.mpr rfl⟩⟩

end Ramqp
