import Mathlib.Data.List.Basic

/-! Concurrent calls of the registry's `resolve_name` for one key. A step is a section under the map's
lock, the end of an initialisation, a return, or an actor that stops. -/
namespace Ramqp

abbrev CellId := Nat

abbrev ActorId := Nat

abbrev CallId := Nat

structure InitCell where
  value : Option ActorId := none
  initialiser : Option CallId := none
  deriving DecidableEq

inductive ResolvePhase where
  | round (left : Nat)
  | waiting (cell : CellId) (left : Nat)
  | initialising (cell : CellId) (left : Nat)
  | failed (cell : CellId)
  | resolved (cell : CellId) (actor : ActorId) (left : Nat)
  | defunct (cell : CellId) (left : Nat)
  | returned (handle : Option ActorId)
  deriving DecidableEq

/-- The registry as the calls for one key see it: the key's entry in the map, every cell made for it, which
actors have been spawned and are still live, the calls, and each handle returned next to the one that the
map's entry held at that moment. -/
structure QueueRegistry where
  entry : Option CellId := none
  cells : List InitCell := []
  live : List Bool := []
  calls : List ResolvePhase := []
  handed : List (ActorId × Option ActorId) := []
  deriving DecidableEq

namespace QueueRegistry

inductive Label where
  | call
  | getOrCreate (id : CallId) (full : Bool)
  | enter (id : CallId)
  | initialised (id : CallId) (ok : Bool)
  | evictFailed (id : CallId)
  | handOver (id : CallId)
  | evictDefunct (id : CallId)
  | abandon (id : CallId)
  | stop (actor : ActorId)
  deriving DecidableEq

variable (r : QueueRegistry)

def goto (id : CallId) (phase : ResolvePhase) : QueueRegistry :=
  {r with calls := r.calls.set id phase}

def valueOf (cell : CellId) : Option ActorId := (r.cells[cell]?).bind InitCell.value

def isLive (actor : ActorId) : Bool := (r.live[actor]?).getD false

def held : Option ActorId := r.entry.bind r.valueOf

def setCell (cell : CellId) (f : InitCell → InitCell) : QueueRegistry :=
  {r with cells := r.cells.modify cell f}

def lockEntry (full : Bool) : Option (QueueRegistry × CellId) :=
  match r.entry with
  | some cell => some (r,cell)
  | none =>
    if full then none
    else some ({r with entry := some r.cells.length,cells := r.cells ++ [⟨none,none⟩]},r.cells.length)

/-- The cell is set, or it is this call's turn to set it; an evicted cell is left alone. -/
def enterCell (id : CallId) (cell : CellId) (left : Nat) : Option QueueRegistry :=
  match r.cells[cell]? with
  | none => none
  | some ⟨some actor,_⟩ => some (r.goto id (.resolved cell actor left))
  | some ⟨none,some _⟩ => none
  | some ⟨none,none⟩ =>
    if r.entry = some cell then
      some ((r.setCell cell fun c => {c with initialiser := some id}).goto id (.initialising cell left))
    else some (r.goto id (.round left))

def step : Label → Option QueueRegistry
  | .call => some {r with calls := r.calls ++ [.round 3]}
  | .getOrCreate id full => match r.calls[id]? with
    | some (.round 0) => some (r.goto id (.returned none))
    | some (.round (left + 1)) => match r.lockEntry full with
      | none => some (r.goto id (.returned none))
      | some (r,cell) => some (r.goto id (.waiting cell left))
    | _ => none
  | .enter id => match r.calls[id]? with
    | some (.waiting cell left) => r.enterCell id cell left
    | _ => none
  | .initialised id ok => match r.calls[id]? with
    | some (.initialising cell left) =>
      if ok then
        some (({r with live := r.live ++ [true]}.setCell cell fun _ => ⟨some r.live.length,none⟩).goto id
          (.resolved cell r.live.length left))
      else some ((r.setCell cell fun c => {c with initialiser := none}).goto id (.failed cell))
    | _ => none
  | .evictFailed id => match r.calls[id]? with
    | some (.failed cell) =>
      let r := if r.entry = some cell ∧ r.valueOf cell = none then {r with entry := none} else r
      some (r.goto id (.returned none))
    | _ => none
  | .handOver id => match r.calls[id]? with
    | some (.resolved cell actor left) =>
      if r.isLive actor then
        some ({r with handed := r.handed ++ [(actor,r.held)]}.goto id (.returned (some actor)))
      else some (r.goto id (.defunct cell left))
    | _ => none
  | .evictDefunct id => match r.calls[id]? with
    | some (.defunct cell left) =>
      let r := if r.entry = some cell then {r with entry := none} else r
      some (r.goto id (.round left))
    | _ => none
  | .abandon id => match r.calls[id]? with
    | some (.initialising cell _) =>
      some ((r.setCell cell fun c => {c with initialiser := none}).goto id (.returned none))
    | some (.waiting _ _) => some (r.goto id (.returned none))
    | _ => none
  | .stop actor => some {r with live := r.live.set actor false}

end QueueRegistry

end Ramqp
