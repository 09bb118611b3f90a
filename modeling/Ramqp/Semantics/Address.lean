import Ramqp.Semantics.Text
import Ramqp.Semantics.Txn

/-! Names of queues: the vhost a connection is opened for, the addresses its links use, and the registry key
that the two resolve to. -/
namespace Ramqp

def isControl (c : Char) : Bool := c.toNat < 0x20 || (0x7F ≤ c.toNat && c.toNat < 0xA0)

def validComponent (text : String) : Bool := !text.toList.contains '/' && !text.toList.any isControl

def trimSlashes (text : String) : String := .ofList (text.toList.dropWhile (· == '/'))

def acceptVhost (hostname : Option String) : Option String :=
  let vhost := (hostname.bind (strip "vhost:")).getD ""
  if vhost.toList.contains '/' || vhost.toList.any isControl then none else some vhost

def parseAddress (address : String) : Option (QueueKind × String) :=
  let named (kind : QueueKind) (name : String) := if name.isEmpty then none else some (kind,name)
  match strip "/quorum/" address with
  | some name => named .quorum name
  | none => match strip "/durable/" address with
    | some name => named .durable name
    | none => named .transient ((strip "/queues/" address).getD (trimSlashes address))

def QueueKind.tag : QueueKind → String
  | .transient => "t:"
  | .quorum => "q:"
  | .durable => "d:"

def registryKey (kind : QueueKind) (name : String) : String := kind.tag ++ name

def qualify (vhost bare : String) : String := if vhost.isEmpty then bare else vhost ++ "/" ++ bare

/-- The key that a broker-internal caller reaches: the name may be a qualified one. -/
def resolve (address : String) : Option String :=
  (parseAddress address).map fun (kind,name) => registryKey kind name

def resolveIn (vhost address : String) : Option String :=
  match parseAddress address with
  | none => none
  | some (kind,bare) =>
    if !validComponent bare || !validComponent vhost then none
    else some (registryKey kind (qualify vhost bare))

end Ramqp
