import Std.Data.ExtTreeMap

/-! A fallible sweep over all entries of an ordered map: each value is replaced by what
the visit returns for it and the outputs are collected in key order. -/
namespace Sweep

open Std List Std.ExtTreeMap

section
variable {κ υ β ε : Type} [Ord κ] [TransOrd κ]

variable {visit : υ → Except ε (υ × List β)} {m : ExtTreeMap κ υ}

def visitAll (visit : υ → Except ε (υ × List β)) :
    List (κ × υ) → ExtTreeMap κ υ × List β → Except ε (ExtTreeMap κ υ × List β)
  | [],acc => .ok acc
  | entry::rest,acc => match visit entry.2 with
    | .error fault => .error fault
    | .ok (value,output) => visitAll visit rest (acc.1.insert entry.1 value,acc.2 ++ output)

variable (visit)

def sweep (m : ExtTreeMap κ υ) :
    Except ε (ExtTreeMap κ υ × List β) :=
  visitAll visit m.toList (m,[])

def valueOf (value : υ) : υ :=
  match visit value with
  | .ok result => result.1
  | .error _ => value

def outputOf (value : υ) : List β :=
  match visit value with
  | .ok result => result.2
  | .error _ => []

theorem visitAll_error (entries : List (κ × υ)) (acc : ExtTreeMap κ υ × List β)
    (fault : ε) (failed : visitAll visit entries acc = .error fault) :
    ∃ entry ∈ entries, visit entry.2 = .error fault := by
  induction entries generalizing acc with
  | nil => cases failed
  | cons entry rest ih =>
    unfold visitAll at failed
    split at failed
    next visited =>
      cases failed
      exact ⟨entry,by simp,visited⟩
    · obtain ⟨other,member,visited⟩ := ih _ failed
      exact ⟨other,by simp [member],visited⟩

variable [LawfulEqOrd κ] {result acc : ExtTreeMap κ υ × List β} {entries : List (κ × υ)}

theorem visitAll_ok (distinct : (entries.map Prod.fst).Nodup) (ok : visitAll visit entries acc = .ok result) :
    (∀ entry ∈ entries, ∃ value output, visit entry.2 = .ok (value,output)) ∧
    (∀ entry ∈ entries, result.1[entry.1]? = some (valueOf visit entry.2)) ∧
    (∀ key, key ∉ entries.map Prod.fst → result.1[key]? = acc.1[key]?) ∧
    result.2 = acc.2 ++ entries.flatMap (fun entry => outputOf visit entry.2) := by
  induction entries generalizing acc with
  | nil =>
    cases ok
    simp
  | cons entry rest ih =>
    rw [map_cons,nodup_cons] at distinct
    unfold visitAll at ok
    split at ok
    · cases ok
    rename_i value output visited
    obtain ⟨total,found,untouched,collected⟩ := ih distinct.2 ok
    have here : valueOf visit entry.2 = value := by simp [valueOf,visited]
    refine ⟨?_,?_,?_,?_⟩
    · intro other member
      rcases mem_cons.mp member with rfl | inside
      · exact ⟨value,output,visited⟩
      · exact total other inside
    · intro other member
      rcases mem_cons.mp member with rfl | inside
      · rw [untouched _ distinct.1,here]
        simp
      · exact found other inside
    · intro key absent
      rw [map_cons,mem_cons,not_or] at absent
      rw [untouched key absent.2]
      simp [ExtTreeMap.getElem?_insert,Ne.symm absent.1]
    · rw [collected]
      simp [outputOf,visited,append_assoc]

variable {visit}

theorem sweep_ok (ok : sweep visit m = .ok result) :
    (∀ (key : κ) (value : υ), m[key]? = some value → ∃ next output, visit value = .ok (next,output)) ∧
    (∀ key : κ, result.1[key]? = m[key]?.map (valueOf visit)) ∧
    result.2 = m.toList.flatMap (fun entry => outputOf visit entry.2) := by
  have keys : (m.toList.map Prod.fst).Nodup := by
    rw [map_fst_toList_eq_keys]
    exact nodup_keys
  obtain ⟨total,found,untouched,collected⟩ := visitAll_ok visit keys ok
  refine ⟨?_,?_,by simpa using collected⟩
  · intro key value present
    exact total (key,value) (mem_toList_iff_getElem?_eq_some.mpr present)
  intro key
  cases present : m[key]? with
  | some value =>
    exact found (key,value) (mem_toList_iff_getElem?_eq_some.mpr present)
  | none =>
    have absent : key ∉ m.toList.map Prod.fst := by
      intro member
      rw [map_fst_toList_eq_keys,ExtTreeMap.mem_keys] at member
      exact absurd present (by simpa using member)
    simpa [present] using untouched key absent

theorem sweep_error (failed : sweep visit m = .error fault) :
    ∃ (key : κ) (value : υ), m[key]? = some value ∧ visit value = .error fault := by
  obtain ⟨entry,member,visited⟩ := visitAll_error visit m.toList (m,[]) fault failed
  exact ⟨entry.1,entry.2,mem_toList_iff_getElem?_eq_some.mp member,visited⟩

theorem getElem?_foldl_erase (keys : List κ) (m : ExtTreeMap κ υ) (key : κ) [DecidableEq κ] :
    (keys.foldl (fun entries k => entries.erase k) m)[key]? =
      if key ∈ keys then none else m[key]? := by
  induction keys generalizing m with
  | nil => simp
  | cons head rest ih =>
    rw [foldl_cons,ih]
    by_cases inside : key ∈ rest
    · simp [inside]
    by_cases same : head = key
    · subst same
      simp [inside]
    · simp [inside,getElem?_erase,same,Ne.symm same]

end

end Sweep
