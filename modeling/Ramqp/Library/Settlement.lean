import Mathlib.Data.Set.Basic

/-! Acknowledgements under way. Each covers a set of items; it is to settle those that were open
when it was issued. The items still held at the far end are the open ones and those that an
acknowledgement under way is to settle. -/
namespace Settlement

open List

variable {Item : Type}

structure Pending (Item : Type) where
  covers : Set Item
  owns : Set Item

structure Sound (held opened : Set Item) (pending : List (Pending Item)) : Prop where
  held : ∀ item, item ∈ held ↔ item ∈ opened ∨ ∃ p ∈ pending, item ∈ p.owns
  clear : ∀ p ∈ pending, ∀ item ∈ opened, item ∉ p.covers
  apart : pending.Pairwise (fun first second => ∀ item ∈ second.owns, item ∉ first.covers)
  within : ∀ p ∈ pending, ∀ item ∈ p.owns, item ∈ p.covers

namespace Sound

variable {held opened : Set Item} {pending rest : List (Pending Item)} {p : Pending Item}

lemma push (sound : Sound held opened pending) (covers : Set Item) :
    Sound held (opened \ covers) (pending ++ [⟨covers,opened ∩ covers⟩]) := by
  refine ⟨?_,?_,?_,?_⟩
  · intro item
    rw [sound.held item]
    constructor
    · rintro (isOpen | ⟨p,listed,owned⟩)
      · by_cases covered : item ∈ covers
        · exact .inr ⟨_,mem_append_right _ mem_cons_self,isOpen,covered⟩
        · exact .inl ⟨isOpen,covered⟩
      · exact .inr ⟨p,mem_append_left _ listed,owned⟩
    rintro (⟨isOpen,-⟩ | ⟨p,listed,owned⟩)
    · exact .inl isOpen
    rcases mem_append.mp listed with old | new
    · exact .inr ⟨p,old,owned⟩
    · cases mem_singleton.mp new
      exact .inl owned.1
  · intro p listed item isOpen covered
    rcases mem_append.mp listed with old | new
    · exact sound.clear p old item isOpen.1 covered
    · cases mem_singleton.mp new
      exact isOpen.2 covered
  · rw [pairwise_append]
    refine ⟨sound.apart,pairwise_singleton ..,?_⟩
    intro first earlier second new item owned
    cases mem_singleton.mp new
    exact sound.clear first earlier item owned.1
  intro p listed item owned
  rcases mem_append.mp listed with old | new
  · exact sound.within p old item owned
  · cases mem_singleton.mp new
    exact owned.2

lemma settles (sound : Sound held opened (p::rest)) (item : Item) :
    item ∈ held ∧ item ∈ p.covers ↔ item ∈ p.owns := by
  constructor
  · rintro ⟨there,covered⟩
    rcases (sound.held item).mp there with isOpen | ⟨q,listed,owned⟩
    · exact absurd covered (sound.clear p mem_cons_self item isOpen)
    rcases mem_cons.mp listed with rfl | later
    · exact owned
    · exact absurd covered ((pairwise_cons.mp sound.apart).1 q later item owned)
  intro owned
  exact ⟨(sound.held item).mpr (.inr ⟨p,mem_cons_self,owned⟩),sound.within p mem_cons_self item owned⟩

lemma pop (sound : Sound held opened (p::rest)) : Sound (held \ p.covers) opened rest := by
  obtain ⟨first,apart⟩ := pairwise_cons.mp sound.apart
  refine ⟨?_,fun q listed => sound.clear q (mem_cons_of_mem _ listed),apart,
    fun q listed => sound.within q (mem_cons_of_mem _ listed)⟩
  intro item
  constructor
  · rintro ⟨there,outside⟩
    rcases (sound.held item).mp there with isOpen | ⟨q,listed,owned⟩
    · exact .inl isOpen
    rcases mem_cons.mp listed with rfl | later
    · exact absurd (sound.within q mem_cons_self item owned) outside
    · exact .inr ⟨q,later,owned⟩
  rintro (isOpen | ⟨q,later,owned⟩)
  · exact ⟨(sound.held item).mpr (.inl isOpen),sound.clear p mem_cons_self item isOpen⟩
  · exact ⟨(sound.held item).mpr (.inr ⟨q,mem_cons_of_mem _ later,owned⟩),first q later item owned⟩

lemma grow (sound : Sound held opened pending) {fresh : Set Item}
    (outside : ∀ p ∈ pending, ∀ item ∈ fresh, item ∉ p.covers) : Sound (held ∪ fresh) (opened ∪ fresh) pending := by
  refine ⟨?_,?_,sound.apart,sound.within⟩
  · intro item
    rw [Set.mem_union,Set.mem_union,sound.held item]
    exact or_right_comm
  rintro p listed item (old | new)
  · exact sound.clear p listed item old
  · exact outside p listed item new

end Sound

end Settlement
