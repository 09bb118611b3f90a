import Mathlib.Data.List.Basic

/-! Concurrent calls of `start_local_member` and `group_member` for one queue name on one node. A step is
a section under the lock of the group map, the opening of a store, the start or the shutdown of a Raft
member. -/
namespace Ramqp

abbrev StoreId := Nat

/-- Where a call stands; `lookup`, `catalog` and `again` are the parts of `group_member` around
`start_local_member`. -/
inductive MemberPhase where
  | lookup
  | catalog
  | enter
  | check
  | openStore
  | startRaft (store : StoreId)
  | insert (store : StoreId)
  | close (store : StoreId) (ok : Bool)
  | again
  | returned (member : Option StoreId)
  deriving DecidableEq

structure MemberCall where
  viaGroup : Bool
  phase : MemberPhase
  deriving DecidableEq

/-- The node as the calls for one queue see it: the name's entry in the group map, the member that `stop`
took out of it and is shutting down, which of the stores opened so far are live, and the stores over whose
directories another one was opened while they were live. -/
structure MemberNode where
  stopping : Bool := false
  entry : Option StoreId := none
  draining : Option StoreId := none
  live : List Bool := []
  calls : List MemberCall := []
  disturbed : List StoreId := []
  deriving DecidableEq

namespace MemberNode

inductive Label where
  | call (viaGroup : Bool)
  | lookup (id : Nat)
  | catalog (id : Nat) (listed : Bool)
  | enter (id : Nat) (placed : Bool)
  | check (id : Nat)
  | openStore (id : Nat) (ok : Bool)
  | startRaft (id : Nat) (ok : Bool)
  | insert (id : Nat)
  | close (id : Nat)
  | again (id : Nat)
  | stop
  | drain
  | shutDown
  deriving DecidableEq

variable (n : MemberNode)

def phaseOf (id : Nat) : Option MemberPhase := (n.calls[id]?).map MemberCall.phase

def goto (id : Nat) (phase : MemberPhase) : MemberNode :=
  {n with calls := n.calls.modify id fun call => {call with phase := phase}}

def started (id : Nat) (ok : Bool) : MemberNode :=
  {n with calls := n.calls.modify id fun call =>
    {call with phase := if call.viaGroup && ok then .again else .returned none}}

def isLive (store : StoreId) : Bool := (n.live[store]?).getD false

def liveStores : List StoreId := (List.range n.live.length).filter n.isLive

def dropStore (store : StoreId) : MemberNode := {n with live := n.live.set store false}

def step : Label → Option MemberNode
  | .call viaGroup => some {n with calls := n.calls ++ [⟨viaGroup,if viaGroup then .lookup else .enter⟩]}
  | .lookup id => match n.phaseOf id with
    | some .lookup => match n.entry with
      | some store => some (n.goto id (.returned (some store)))
      | none => some (n.goto id .catalog)
    | _ => none
  | .catalog id listed => match n.phaseOf id with
    | some .catalog => some (n.goto id (if listed then .enter else .returned none))
    | _ => none
  | .enter id placed => match n.phaseOf id with
    | some .enter => if n.stopping || !placed then some (n.started id false) else some (n.goto id .check)
    | _ => none
  | .check id => match n.phaseOf id with
    | some .check => if n.entry.isSome then some (n.started id true) else some (n.goto id .openStore)
    | _ => none
  | .openStore id ok => match n.phaseOf id with
    | some .openStore =>
      -- Opening writes the directories, and may empty the spill directory, even if it fails.
      let n := {n with disturbed := n.disturbed ++ n.liveStores}
      if ok then some ({n with live := n.live ++ [true]}.goto id (.startRaft n.live.length))
      else some (n.started id false)
    | _ => none
  | .startRaft id ok => match n.phaseOf id with
    | some (.startRaft store) =>
      if ok then some (n.goto id (.insert store)) else some ((n.dropStore store).started id false)
    | _ => none
  | .insert id => match n.phaseOf id with
    | some (.insert store) =>
      if n.stopping then some (n.goto id (.close store false))
      else if n.entry.isSome then some (n.goto id (.close store true))
      else some ({n with entry := some store}.started id true)
    | _ => none
  | .close id => match n.phaseOf id with
    | some (.close store ok) => some ((n.dropStore store).started id ok)
    | _ => none
  | .again id => match n.phaseOf id with
    | some .again => some (n.goto id (.returned n.entry))
    | _ => none
  | .stop => some {n with stopping := true}
  | .drain => if n.stopping && n.draining.isNone then some {n with entry := none,draining := n.entry} else none
  | .shutDown => match n.draining with
    | some store => some {n.dropStore store with draining := none}
    | none => none

end MemberNode

end Ramqp
