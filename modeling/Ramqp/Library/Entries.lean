import Std.Data.ExtTreeMap
import Mathlib.Data.List.Nodup
import Mathlib.Data.List.Perm.Basic

/-! The entries of an ordered map as a list, up to order, under insertion and removal. -/
namespace Entries

open Std List Std.ExtTreeMap

variable {κ υ : Type} [Ord κ] [TransOrd κ]

variable {other : κ} {value found : υ}

variable {m : ExtTreeMap κ υ} {key : κ}

lemma nodup_keys : (m.toList.map Prod.fst).Nodup := by
  rw [map_fst_toList_eq_keys]
  exact ExtTreeMap.nodup_keys

lemma nodup_toList : m.toList.Nodup := nodup_keys.of_map

lemma mem_iff_exists : key ∈ m ↔ ∃ value,m[key]? = some value := by
  rw [mem_iff_isSome_getElem?,Option.isSome_iff_exists]

lemma toList_filter_perm (m : ExtTreeMap κ υ) (keep : κ → υ → Bool) :
    m.toList.Perm (m.toList.filter (fun entry => !keep entry.1 entry.2) ++ (m.filter keep).toList) := by
  rw [toList_filter]
  refine List.Perm.trans ?_ perm_append_comm
  exact (filter_append_perm (fun entry => keep entry.1 entry.2) m.toList).symm

variable [LawfulEqOrd κ]

lemma getElem?_insert [DecidableEq κ] (m : ExtTreeMap κ υ) (key other : κ) (value : υ) :
    (m.insert key value)[other]? = if key = other then some value else m[other]? := by
  simp only [ExtTreeMap.getElem?_insert,LawfulEqCmp.compare_eq_iff_eq]

lemma of_insert (there : (m.insert key value)[other]? = some found) :
    (key = other ∧ value = found) ∨ (key ≠ other ∧ m[other]? = some found) := by
  rw [ExtTreeMap.getElem?_insert] at there
  by_cases same : key = other
  · exact .inl ⟨same,by simpa [same] using there⟩
  · exact .inr ⟨same,by simpa [same] using there⟩

lemma getElem?_erase [DecidableEq κ] (m : ExtTreeMap κ υ) (key other : κ) :
    (m.erase key)[other]? = if key = other then none else m[other]? := by
  simp only [ExtTreeMap.getElem?_erase,LawfulEqCmp.compare_eq_iff_eq]

lemma of_erase (there : (m.erase key)[other]? = some found) : key ≠ other ∧ m[other]? = some found := by
  rw [ExtTreeMap.getElem?_erase] at there
  by_cases same : key = other
  · simp [same] at there
  · exact ⟨same,by simpa [same] using there⟩

lemma toList_insert_perm (value : υ) (absent : m[key]? = none) :
    (m.insert key value).toList.Perm ((key,value)::m.toList) := by
  refine (perm_ext_iff_of_nodup nodup_toList ?_).mpr ?_
  · rw [nodup_cons,mem_toList_iff_getElem?_eq_some,absent]
    exact ⟨nofun,nodup_toList⟩
  rintro ⟨other,entry⟩
  rw [mem_cons,mem_toList_iff_getElem?_eq_some,mem_toList_iff_getElem?_eq_some,
    ExtTreeMap.getElem?_insert,Prod.mk.injEq]
  by_cases same : key = other
  · subst same
    simp [absent,eq_comm]
  · simp [same,Ne.symm same]

lemma toList_erase_perm (present : m[key]? = some value) : m.toList.Perm ((key,value)::(m.erase key).toList) := by
  refine (perm_ext_iff_of_nodup nodup_toList ?_).mpr ?_
  · rw [nodup_cons,mem_toList_iff_getElem?_eq_some]
    simpa using nodup_toList
  rintro ⟨other,entry⟩
  rw [mem_cons,mem_toList_iff_getElem?_eq_some,mem_toList_iff_getElem?_eq_some,
    ExtTreeMap.getElem?_erase,Prod.mk.injEq]
  by_cases same : key = other
  · subst same
    simp [present,eq_comm]
  · simp [same,Ne.symm same]

lemma getElem?_foldl_insert [DecidableEq κ] {entries : List (κ × υ)} (nodup : (entries.map Prod.fst).Nodup)
    (m : ExtTreeMap κ υ) (key : κ) (value : υ) :
    (entries.foldl (fun m entry => m.insert entry.1 entry.2) m)[key]? = some value ↔
      (key,value) ∈ entries ∨ key ∉ entries.map Prod.fst ∧ m[key]? = some value := by
  induction entries generalizing m with
  | nil => simp
  | cons entry entries ih =>
    obtain ⟨first,_⟩ := entry
    obtain ⟨absent,rest⟩ := nodup_cons.mp nodup
    rw [foldl_cons,ih rest,getElem?_insert,mem_cons,map_cons,mem_cons,Prod.mk.injEq]
    by_cases same : first = key
    · subst same
      have unlisted : (first,value) ∉ entries := fun listed =>
        absent (mem_map.mpr ⟨(first,value),listed,rfl⟩)
      simp only [unlisted,absent,if_true,Option.some.injEq,not_false_eq_true,true_and,false_or,not_true_eq_false,
        false_and,or_false,eq_comm]
    · simp only [if_neg same,Ne.symm same,false_and,false_or]

end Entries
