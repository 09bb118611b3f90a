import Mathlib.Data.Finset.Card
import Mathlib.Data.List.Sort
import Ramqp.Library.BigEndian
import Ramqp.Semantics.Text

/-! The nodes that a queue is placed on, and how few of them change with the list of nodes. -/
namespace Ramqp.Rendezvous

open List

def ranked (a b : UInt64 × UInt64) : Bool := b.1 < a.1 ∨ a.1 = b.1 ∧ a.2 ≤ b.2

def scored (score : UInt64 → UInt64) (nodes : List UInt64) : List (UInt64 × UInt64) :=
  (nodes.map fun id => (score id,id)).mergeSort ranked

def place (score : UInt64 → UInt64) (nodes : List UInt64) (want : Nat) : List UInt64 :=
  (((scored score nodes).take want).map Prod.snd).mergeSort (· ≤ ·)

def rendezvousPlacement (fnv1a : Bytes → UInt64) (name : String) (nodes : List UInt64) (want : Nat) : List UInt64 :=
  place (fun id => fnv1a (asBytes name ++ BigEndian.encode 8 id.toNat)) nodes want

section

variable {α : Type} [BEq α] [LawfulBEq α] {a b : α} {l : List α} {n : Nat}

lemma take_erase (apart : a ∉ l.take n) : (l.erase a).take n = l.take n := by
  induction l generalizing n with
  | nil => rfl
  | cons => cases n <;> grind

lemma mem_take_erase (taken : b ∈ l.take n) (other : b ≠ a) : b ∈ (l.erase a).take n := by
  induction l generalizing n with
  | nil => exact taken
  | cons c l ih =>
    cases n with
    | zero => exact taken
    | succ n =>
      have more := take_subset_take_left l n.le_succ
      grind

end

variable {score : UInt64 → UInt64} {nodes : List UInt64} {want : Nat} {x y : UInt64}

lemma scored_sorted (nodes : List UInt64) : (scored score nodes).Pairwise (ranked · ·) := by
  refine pairwise_mergeSort ?_ ?_ _
  · simp only [ranked,decide_eq_true_eq]
    grind
  · simp only [ranked,Bool.or_eq_true,decide_eq_true_eq]
    grind

lemma scored_perm (nodes : List UInt64) : (scored score nodes).Perm (nodes.map fun id => (score id,id)) :=
  mergeSort_perm ..

lemma scored_unique {scores : List (UInt64 × UInt64)} (sorted : scores.Pairwise (ranked · ·))
    (perm : scores.Perm (nodes.map fun id => (score id,id))) : scored score nodes = scores := by
  refine ((scored_perm nodes).trans perm.symm).eq_of_pairwise ?_ (scored_sorted nodes) sorted
  rintro ⟨a,i⟩ ⟨b,j⟩ - - ab ba
  simp only [ranked,decide_eq_true_eq] at ab ba
  grind

lemma scored_erase : scored score (nodes.erase x) = (scored score nodes).erase (score x,x) := by
  refine scored_unique ((scored_sorted nodes).sublist erase_sublist) (((scored_perm nodes).erase _).trans ?_)
  rw [map_erase fun a b same => congrArg Prod.snd same]

lemma mem_place : x ∈ place score nodes want ↔ (score x,x) ∈ (scored score nodes).take want := by
  rw [place,mem_mergeSort,mem_map]
  refine ⟨fun ⟨_,taken,same⟩ => ?_,fun taken => ⟨_,taken,rfl⟩⟩
  obtain ⟨id,-,rfl⟩ := mem_map.mp ((scored_perm nodes).subset (mem_of_mem_take taken))
  cases same
  exact taken

lemma place_nodup (distinct : nodes.Nodup) : (place score nodes want).Nodup := by
  have all : ((scored score nodes).map Prod.snd).Perm nodes := by
    refine ((scored_perm nodes).map _).trans (.of_eq ?_)
    rw [map_map]
    exact map_id nodes
  exact nodup_mergeSort.mpr ((all.nodup_iff.mpr distinct).sublist ((take_sublist ..).map _))

lemma length_place : (place score nodes want).length = min want nodes.length := by
  simp [place,(scored_perm nodes).length_eq]

lemma mem_place_erase (placed : y ∈ place score nodes want) (other : y ≠ x) :
    y ∈ place score (nodes.erase x) want := by
  rw [mem_place,scored_erase]
  exact mem_take_erase (mem_place.mp placed) fun same => other (Prod.ext_iff.mp same).2

/-- The nodes are as many as wanted, distinct, sorted and the same for every order of the list. One that leaves takes no
other with it and changes nothing if it was not chosen; one that joins replaces at most one. -/
theorem placement_stable (fnv1a : Bytes → UInt64) (name : String) (want : Nat) (distinct : nodes.Nodup) :
    let placed := fun nodes => rendezvousPlacement fnv1a name nodes want
    (placed nodes).length = min want nodes.length ∧ (placed nodes).Nodup ∧ (placed nodes).Pairwise (· ≤ ·) ∧
    placed nodes ⊆ nodes ∧ (∀ others, nodes.Perm others → placed others = placed nodes) ∧
    (∀ x ∉ placed nodes, placed (nodes.erase x) = placed nodes) ∧
    (∀ x, ∀ y ∈ placed nodes, y ≠ x → y ∈ placed (nodes.erase x)) ∧
    ∀ x ∉ nodes, (∀ y ∈ placed (x::nodes), y ≠ x → y ∈ placed nodes) ∧
      ((placed nodes).toFinset \ (placed (x::nodes)).toFinset).card ≤ 1 := by
  intro placed
  refine ⟨length_place,place_nodup distinct,pairwise_mergeSort' (· ≤ ·) _,?_,?_,?_,?_,?_⟩
  · intro x there
    simpa using (scored_perm nodes).subset (mem_of_mem_take (mem_place.mp there))
  · intro others perm
    simp only [placed,rendezvousPlacement,place,
      scored_unique (scored_sorted nodes) ((scored_perm nodes).trans (perm.map _))]
  · intro x apart
    simp only [placed,rendezvousPlacement,place,scored_erase]
    rw [take_erase (mt mem_place.mpr apart)]
  · exact fun _ _ => mem_place_erase
  intro x new
  have kept : ∀ y ∈ placed (x::nodes), y ≠ x → y ∈ placed nodes := by
    intro y there other
    have left := mem_place_erase there other
    rwa [erase_cons_head] at left
  refine ⟨kept,?_⟩
  have more : (placed nodes).toFinset.card ≤ (placed (x::nodes)).toFinset.card := by
    change (place _ nodes want).toFinset.card ≤ (place _ (x::nodes) want).toFinset.card
    rw [toFinset_card_of_nodup (place_nodup distinct),
      toFinset_card_of_nodup (place_nodup (nodup_cons.mpr ⟨new,distinct⟩)),length_place,length_place,length_cons]
    omega
  refine (Finset.card_sdiff_le_card_sdiff_iff.mpr more).trans (Finset.card_le_one_iff_subset_singleton.mpr ⟨x,?_⟩)
  intro y
  simp only [Finset.mem_sdiff,mem_toFinset,Finset.mem_singleton]
  exact fun ⟨there,lost⟩ => by_contra fun other => lost (kept y there other)

lemma lowest_placed : rendezvousPlacement (fun _ => 0) "" [3,1,2] 2 = [1,2] := by
  have first : scored (fun _ => 0) [3,1,2] = [(0,1),(0,2),(0,3)] := scored_unique (by decide) (by decide)
  change (((scored (fun _ => 0) [3,1,2]).take 2).map Prod.snd).mergeSort (· ≤ ·) = [1,2]
  rw [first]
  exact mergeSort_of_pairwise (by decide)

/-- With equal scores the lowest two of three nodes are chosen; the third leaves, one of the two does, a fourth joins. -/
theorem placement_stable_three :
    let placed := fun nodes : List UInt64 => rendezvousPlacement (fun _ => 0) "" nodes 2
    placed [3,1,2] = [1,2] ∧ placed [2,3,1] = [1,2] ∧ placed [1,2] = [1,2] ∧ 2 ∈ placed [3,2] ∧
      (([1,2] : List UInt64).toFinset \ (placed [4,3,1,2]).toFinset).card ≤ 1 := by
  intro placed
  have distinct : ([3,1,2] : List UInt64).Nodup := by decide
  obtain ⟨-,-,-,-,reordered,left,lost,joined⟩ := placement_stable (fun _ => 0) "" 2 distinct
  simp only [lowest_placed] at reordered left lost joined
  exact ⟨lowest_placed,reordered [2,3,1] (by decide),left 3 (by decide),lost 1 2 (by decide) (by decide),
    (joined 4 (by decide)).2⟩

end Ramqp.Rendezvous
