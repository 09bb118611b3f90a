import Ramqp.Semantics.Text

/-! The client side of the SASL negotiation: the profiles, the SCRAM client and the loop that
answers challenges until an outcome. Hashes, base64, string preparation and the rendering of
values in error texts are those of other crates and stay arbitrary. -/
namespace Ramqp

inductive ScramMechanism where
  | sha1
  | sha256
  | sha512
  deriving DecidableEq

def ScramMechanism.name : ScramMechanism → String
  | .sha1 => "SCRAM-SHA-1"
  | .sha256 => "SCRAM-SHA-256"
  | .sha512 => "SCRAM-SHA-512"

inductive SaslCode where
  | ok
  | auth
  | sys
  | sysPerm
  | sysTemp
  deriving DecidableEq

inductive SaslFrame where
  | mechanisms (saslServerMechanisms : List String)
  | init (mechanism : String) (initialResponse : Option Bytes) (hostname : Option String)
  | challenge (challenge : Bytes)
  | response (response : Bytes)
  | outcome (code : SaslCode) (additionalData : Option Bytes)
  deriving DecidableEq

inductive FrameBody where
  | amqp (performative : Performative) (payload : Option Bytes)
  | sasl (frame : SaslFrame)
  | empty
  deriving DecidableEq

/-- Functions of other crates: per mechanism the hash, HMAC and PBKDF2; SASLprep; base64, padded and not; a UUID
of version 4 by its random octets; and the `Debug` texts of frames and symbols. -/
structure Primitives where
  h : ScramMechanism → Bytes → Bytes
  hmac : ScramMechanism → Bytes → Bytes → Bytes
  pbkdf2 : ScramMechanism → Bytes → Bytes → UInt32 → Bytes
  saslprep : String → Option String
  encode : Bytes → String
  decode : String → Option Bytes
  encodeNoPad : Bytes → Bytes
  newV4 : (Fin 16 → UInt8) → Bytes
  debugBody : FrameBody → String
  debugSymbols : List String → String

def saslErr (message : String) : Failure := .msg .sasl message

def escapeUsername (name : String) : String :=
  .ofList ((name.toList.flatMap fun c => if c = '=' then ['=','3','D'] else [c]).flatMap
    fun c => if c = ',' then ['=','2','C'] else [c])

def ctEq (a b : Bytes) : Bool :=
  if a.length ≠ b.length then false
  else (a.zip b).foldl (fun diff pair => diff ||| (pair.1 ^^^ pair.2)) 0 == 0

structure ScramClient where
  mechanism : ScramMechanism
  username : String
  password : String
  clientNonce : String
  clientFirstBare : String := ""
  serverSignature : Option Bytes := none
  deriving DecidableEq

structure ServerFirst where
  message : String
  nonce : String
  salt : Bytes
  iterations : UInt32
  deriving DecidableEq

def lastAttribute (name message : String) : Option String :=
  ((split ',' message).filterMap fun attr => match splitOnce '=' attr with
    | some (key,value) => if key = name then some value else none
    | none => none).getLast?

section
variable (x : Primitives)

def prep (text : String) : Except Failure String :=
  match x.saslprep text with
  | some prepared => .ok prepared
  | none => .error (saslErr "username or password contains characters prohibited by SASLprep (RFC 4013)")

def parseServerFirst (challenge : Bytes) : Except Failure ServerFirst :=
  match fromUtf8 challenge with
  | none => .error (saslErr "scram server-first is not UTF-8")
  | some message =>
  match lastAttribute "r" message with
  | none => .error (saslErr "scram server-first missing r")
  | some nonce =>
  match lastAttribute "s" message with
  | none => .error (saslErr "scram server-first missing s")
  | some encoded =>
  match x.decode encoded with
  | none => .error (saslErr "scram salt is not base64")
  | some salt =>
  match lastAttribute "i" message with
  | none => .error (saslErr "scram server-first missing i")
  | some digits =>
  match parseU32 digits with
  | none => .error (saslErr "scram iteration count is not a number")
  | some iterations =>
    if iterations = 0 || iterations > 10000000 then .error (saslErr "scram iteration count out of range")
    else .ok ⟨message,nonce,salt,iterations⟩

def parseServerFinal (data : Bytes) : Except Failure Bytes :=
  match fromUtf8 data with
  | none => .error (saslErr "scram server-final is not UTF-8")
  | some message =>
  match (split ',' message).findSome? (strip "v=") with
  | none => .error (saslErr "scram server-final missing v")
  | some v =>
  match x.decode v with
  | none => .error (saslErr "scram server signature is not base64")
  | some got => .ok got

namespace ScramClient

def withNonce (mechanism : ScramMechanism) (username password clientNonce : String) :
    Except Failure ScramClient := do
  let username ← prep x username
  let password ← prep x password
  return {mechanism,username,password,clientNonce}

def clientFirst (c : ScramClient) : ScramClient × Bytes :=
  let bare := "n=" ++ escapeUsername c.username ++ ",r=" ++ c.clientNonce
  ({c with clientFirstBare := bare},asBytes ("n,," ++ bare))

def salted (c : ScramClient) (f : ServerFirst) : Bytes :=
  x.pbkdf2 c.mechanism (asBytes c.password) f.salt f.iterations

variable (f : ServerFirst)

def clientFinalNoProof : String := "c=biws,r=" ++ f.nonce

variable (c : ScramClient)

def authMessage : Bytes :=
  asBytes (c.clientFirstBare ++ "," ++ f.message ++ "," ++ clientFinalNoProof f)

def signature : Bytes :=
  x.hmac c.mechanism (x.hmac c.mechanism (c.salted x f) (asBytes "Server Key")) (c.authMessage f)

def proof : Bytes :=
  let clientKey := x.hmac c.mechanism (c.salted x f) (asBytes "Client Key")
  let storedKey := x.h c.mechanism clientKey
  clientKey.zipWith (fun a b => a ^^^ b) (x.hmac c.mechanism storedKey (c.authMessage f))

def verifyServerFinal (data : Bytes) : Except Failure Unit :=
  match parseServerFinal x data with
  | .error failure => .error failure
  | .ok got => match c.serverSignature with
    | some expected =>
      if ctEq expected got then .ok ()
      else .error (saslErr "scram server signature mismatch (server not authentic)")
    | none => .error (saslErr "scram server-final received before server-first")

/-- Some servers send the server-final message as a challenge. -/
def isFinal (challenge : Bytes) : Bool := (asBytes "v=").isPrefixOf challenge

def respond (challenge : Bytes) : Except Failure (ScramClient × Bytes) :=
  if isFinal challenge then
    match c.verifyServerFinal x challenge with
    | .error failure => .error failure
    | .ok () => .ok (c,[])
  else
    match parseServerFirst x challenge with
    | .error failure => .error failure
    | .ok first =>
      if startsWith c.clientNonce first.nonce then
        .ok ({c with serverSignature := some (c.signature x first)},
          asBytes (clientFinalNoProof first ++ ",p=" ++ x.encode (c.proof x first)))
      else .error (saslErr "scram server nonce does not extend client nonce")

end ScramClient

inductive SaslProfile where
  | anonymous
  | plain (authcid passwd : String)
  | external (authzid : Option String)
  | scram (mechanism : ScramMechanism) (username password : String)
  deriving DecidableEq

inductive MechState where
  | simple
  | scram (client : ScramClient)
  deriving DecidableEq

def SaslProfile.mechanismName : SaslProfile → String
  | .anonymous => "ANONYMOUS"
  | .plain _ _ => "PLAIN"
  | .external _ => "EXTERNAL"
  | .scram mechanism _ _ => mechanism.name

def plainResponse (authcid passwd : String) : Bytes := 0::asBytes authcid ++ 0::asBytes passwd

/-- `nonce` is the random text that a SCRAM client draws. -/
def SaslProfile.start (nonce : String) : SaslProfile → Except Failure (Option Bytes × MechState)
  | .anonymous => .ok (some (asBytes "anonymous"),.simple)
  | .plain authcid passwd => .ok (some (plainResponse authcid passwd),.simple)
  | .external authzid => .ok (some (asBytes (authzid.getD "")),.simple)
  | .scram mechanism username password =>
    match ScramClient.withNonce x mechanism username password nonce with
    | .error failure => .error failure
    | .ok client => .ok (some client.clientFirst.2,.scram client.clientFirst.1)

namespace MechState

def respond (challenge : Bytes) : MechState → Except Failure (MechState × Bytes)
  | .simple => .error (saslErr "server issued a SASL challenge for a non-challenge mechanism")
  | .scram client => match client.respond x challenge with
    | .error failure => .error failure
    | .ok (client,response) => .ok (.scram client,response)

def verifyOutcome (additional : Option Bytes) : MechState → Except Failure Unit
  | .simple => .ok ()
  | .scram client => match additional with
    | some data => client.verifyServerFinal x data
    | none => .ok ()

end MechState

def saslOutcomeError (code : SaslCode) (additional : Option Bytes) : Failure :=
  let detail := match code with
    | .ok => "ok"
    | .auth => "authentication failed (bad credentials)"
    | .sys => "system error"
    | .sysPerm => "permanent system error (a retry with the same information will not succeed)"
    | .sysTemp => "transient system error (a retry may succeed)"
  let message := "SASL authentication failed: " ++ detail
  match (additional.bind fromUtf8).map trim with
  | none => saslErr message
  | some text => saslErr (if text = "" then message else message ++ " — " ++ text)

/-- What the peer sends or the reading of it fails with, the frames written so far, and the error,
if any, of the write that follows them. -/
structure Transport where
  incoming : List (Except Failure FrameBody)
  sent : List SaslFrame := []
  fault : Nat → Option Failure := fun _ => none

def Transport.sendSasl (t : Transport) (frame : SaslFrame) : Except Failure Transport :=
  match t.fault t.sent.length with
  | some failure => .error failure
  | none => .ok {t with sent := t.sent ++ [frame]}

def closedByPeer : Failure := .msg .peerClosed "connection closed by peer"

def Transport.exchange (t : Transport) : MechState → List (Except Failure FrameBody) → Except Failure Transport
  | _,[] => .error closedByPeer
  | _,.error failure::_ => .error failure
  | state,.ok (.sasl (.challenge challenge))::rest =>
    match state.respond x challenge with
    | .error failure => .error failure
    | .ok (state,response) => match t.sendSasl (.response response) with
      | .error failure => .error failure
      | .ok t => t.exchange state rest
  | state,.ok (.sasl (.outcome code additional))::rest =>
    if code = .ok then
      match state.verifyOutcome x additional with
      | .error failure => .error failure
      | .ok () => .ok {t with incoming := rest}
    else .error (saslOutcomeError code additional)
  | _,.ok other::_ => .error (saslErr ("unexpected frame during SASL negotiation: " ++ x.debugBody other))

def offers (names : List String) (chosen : String) : Bool :=
  names.any fun name => eqIgnoreAsciiCase name chosen

def negotiate (t : Transport) (profile : SaslProfile) (nonce : String) (hostname : Option String) :
    Except Failure Transport :=
  match t.incoming with
  | [] => .error closedByPeer
  | .error failure::_ => .error failure
  | .ok (.sasl (.mechanisms names))::rest =>
    let chosen := profile.mechanismName
    if offers names chosen then
      match profile.start x nonce with
      | .error failure => .error failure
      | .ok (initialResponse,state) =>
        match t.sendSasl (.init chosen initialResponse hostname) with
        | .error failure => .error failure
        | .ok t => t.exchange x state rest
    else .error (saslErr ("server does not offer " ++ chosen ++ "; offers " ++ x.debugSymbols names))
  | .ok other::_ => .error (saslErr ("expected sasl-mechanisms, got " ++ x.debugBody other))

end

end Ramqp
