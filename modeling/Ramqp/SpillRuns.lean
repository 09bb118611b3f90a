import Ramqp.Segments
import Ramqp.Library.Transition

/-! Runs of a spill store: what its user still refers to can be read, whatever file operations fail. -/
namespace Ramqp

open List Transition

/-- A spill store with the references that were given out and not released, and the bodies behind them. -/
structure Spilled where
  spill : Spill
  refs : List (SpillRef × Bytes) := []

inductive SpillCall where
  | append (fault : AppendFault) (body : Bytes)
  | release (entry : SpillRef × Bytes)
  | pin
  | unpin

def SpillCall.Short : SpillCall → Prop
  | .append _ body => body.length < 2^32
  | _ => True

namespace Spilled

variable {s next : Spilled} {call : SpillCall}

def step (s : Spilled) : SpillCall → Option Spilled
  | .append fault body => (s.spill.append fault body).map fun (spill,r) => ⟨spill,(r.map (·,body)).toList ++ s.refs⟩
  | .release entry => if entry ∈ s.refs then some ⟨s.spill.release entry.1,s.refs.erase entry⟩ else none
  | .pin => some {s with spill := s.spill.pin}
  | .unpin => some {s with spill := s.spill.unpin}

def refsTo (s : Spilled) (id : Nat) : Nat := s.refs.countP (·.1.segment = id)

structure Backed (s : Spilled) : Prop where
  sound : s.spill.Sound
  counted : ∀ id, s.spill.liveOf id = s.refsTo id
  holds : ∀ entry ∈ s.refs, s.spill.Holds entry.1 entry.2

lemma Backed.later (backed : s.Backed) (moves : s.spill.Moves next.spill)
    (counted : ∀ id, next.spill.liveOf id = next.refsTo id)
    (holds : ∀ entry ∈ next.refs, entry ∈ s.refs ∨ next.spill.Holds entry.1 entry.2) : next.Backed := by
  refine ⟨moves.1,counted,fun entry member => (holds entry member).elim (fun old => ?_) id⟩
  refine moves.2.holds _ _ (backed.holds entry old) (.of_liveOf ?_)
  rw [counted]
  exact countP_pos_iff.mpr ⟨entry,member,by simp⟩

lemma step_backed (backed : s.Backed) (short : call.Short) (ok : s.step call = some next) : next.Backed := by
  cases call with
  | append fault body =>
    obtain ⟨⟨spill,r⟩,appended,rfl⟩ := Option.map_eq_some_iff.mp ok
    have done := Spill.append_appended backed.sound appended
    refine backed.later done.moves (fun id => ?_) fun entry member => ?_
    · rw [done.live,backed.counted,refsTo,refsTo,countP_append]
      cases r <;> simp [Nat.add_comm,countP_cons]
    · refine (mem_append.mp member).symm.imp_right fun new => ?_
      obtain ⟨_,given,rfl⟩ := Option.map_eq_some_iff.mp (Option.mem_toList.mp new)
      exact done.holds _ given short
  | release entry =>
    obtain ⟨given,same⟩ := Option.ite_none_right_eq_some.mp ok
    cases same
    refine backed.later (Spill.release_moves backed.sound entry.1) (fun id => ?_) fun _ => .inl ∘ mem_of_mem_erase
    rw [Spill.release_liveOf,backed.counted,refsTo,refsTo,countP_erase]
    simp [given]
  | pin =>
    cases ok
    exact backed.later (Spill.pin_moves backed.sound) backed.counted fun _ => .inl
  | unpin =>
    cases ok
    refine backed.later (Spill.unpin_moves backed.sound) (fun id => ?_) fun _ => .inl
    exact (Spill.unpin_liveOf backed.sound id).trans (backed.counted id)

end Spilled

open Spilled

/-- Whatever was appended, released and pinned, and whichever file operations failed, each reference that was given out
and not released reads the body it was given for, and the segments count their references. -/
theorem spilled_bodies_readable (fresh : Nat) (calls : List SpillCall) (final : Spilled)
    (short : ∀ call ∈ calls, call.Short) (ok : run step ⟨.openDir fresh,[]⟩ calls = some final) :
    (∀ entry ∈ final.refs, final.spill.read entry.1 = some entry.2) ∧
      ∀ id, final.spill.liveOf id = final.refsTo id := by
  have backed : final.Backed := by
    refine run_invariant ?_ ?_ (meets_of_forall short) ok
    · exact step_backed
    · exact ⟨Spill.openPreserving_sound {} fresh,fun _ => rfl,fun _ member => nomatch member⟩
  exact ⟨fun entry member => (backed.holds entry member).read backed.sound,backed.counted⟩

theorem spilled_bodies_readable_after_fault : ∃ final, run step ⟨.openDir 0,[]⟩
    [.append .none [1,2],.append (.write 1) [3,5],.append .none [4],.release (⟨0,0,2⟩,[1,2])] = some final ∧
    final.refs = [(⟨0,2,1⟩,[4])] ∧ ∀ entry ∈ final.refs, final.spill.read entry.1 = some entry.2 := by
  refine reaches_and (by decide +kernel) fun final ok _ => ?_
  exact (spilled_bodies_readable 0 _ final (by simp [SpillCall.Short]) ok).1

end Ramqp
