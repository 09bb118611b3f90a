import Mathlib.Data.List.Forall2

/-! Parsers over a list of symbols: what a parser reads, how the parsers made of it read, and that a parser's
answer depends on nothing but the symbols it consumed. -/
abbrev Parser (σ ε α : Type) := StateT (List σ) (Except ε) α

namespace Parser

variable {σ ε α β : Type}

variable {p : Parser σ ε α} {s rest : List σ} {f : α → Parser σ ε β} {x : α}

lemma bind_of_ok (read : p s = .ok (x,rest)) : (p >>= f) s = f x rest := by
  change (p s >>= fun (x,s) => f x s) = _
  rw [read]
  rfl

lemma bind_congr_of_ok {g : α → Parser σ ε β} (same : ∀ x rest, p s = .ok (x,rest) → f x rest = g x rest) :
    (p >>= f) s = (p >>= g) s := by
  change (p s >>= fun (x,s) => f x s) = (p s >>= fun (x,s) => g x s)
  cases read : p s with
  | error => rfl
  | ok => exact same _ _ read

lemma bind_eq_ok {result : β × List σ} :
    (p >>= f) s = .ok result ↔ ∃ x rest, p s = .ok (x,rest) ∧ f x rest = .ok result := by
  change (p s >>= fun (x,s) => f x s) = _ ↔ _
  cases p s with
  | error =>
    constructor
    · intro impossible
      cases impossible
    · rintro ⟨_,_,impossible,_⟩
      cases impossible
  | ok pair => exact ⟨fun read => ⟨pair.1,pair.2,rfl,read⟩,fun ⟨_,_,same,read⟩ => by cases same; exact read⟩

lemma map_eq_ok {f : α → β} {y : β} : (f <$> p) s = .ok (y,rest) ↔ ∃ x, p s = .ok (x,rest) ∧ f x = y := by
  change (p s >>= fun (x,s) => pure (f x,s)) = _ ↔ _
  cases p s with
  | error =>
    constructor
    · intro impossible
      cases impossible
    · rintro ⟨_,impossible,_⟩
      cases impossible
  | ok pair =>
    obtain ⟨x,_⟩ := pair
    constructor
    · intro same
      cases same
      exact ⟨x,rfl,rfl⟩
    rintro ⟨_,same,rfl⟩
    cases same
    rfl

def take (short : Nat → ε) (n : Nat) : Parser σ ε (List σ) := fun s =>
  if s.length < n then .error (short (n - s.length)) else .ok (s.take n,s.drop n)

/-- Run a parser on a slice that was cut out before; what it leaves of the slice is dropped. -/
def within (slice : List σ) (inner : Parser σ ε α) : Parser σ ε α := fun s =>
  match inner slice with
  | .error e => .error e
  | .ok (x,_) => .ok (x,s)

def times : Nat → Parser σ ε α → Parser σ ε (List α)
  | 0,_ => pure []
  | n + 1,p => do
    let x ← p
    let xs ← times n p
    pure (x::xs)

lemma length_times {n : Nat} {xs : List α} (read : times n p s = .ok (xs,rest)) : xs.length = n := by
  induction n generalizing s xs with
  | zero =>
    cases read
    rfl
  | succ n ih =>
    obtain ⟨_,_,_,read⟩ := bind_eq_ok.mp read
    obtain ⟨_,_,following,read⟩ := bind_eq_ok.mp read
    cases read
    rw [List.length_cons,ih following]

/-- The parser turns these symbols into this value and leaves whatever follows them. -/
def Reads (p : Parser σ ε α) (symbols : List σ) (x : α) : Prop := ∀ rest, p (symbols ++ rest) = .ok (x,rest)

variable {xs : List α}

namespace Reads

variable {p : Parser σ ε α} {symbols : List σ} {x : α}

variable {f : α → Parser σ ε β} {y : β}

lemma pure (x : α) : Reads (Pure.pure x : Parser σ ε α) [] x := fun _ => rfl

lemma alone (read : Reads p symbols x) : p symbols = .ok (x,[]) := by
  simpa using read []

lemma bind {first second : List σ} (head : Reads p first x) (tail : Reads (f x) second y) :
    Reads (p >>= f) (first ++ second) y := by
  intro rest
  rw [List.append_assoc,bind_of_ok (head _)]
  exact tail rest

lemma bind_nil (head : Reads p symbols x) (tail : Reads (f x) [] y) : Reads (p >>= f) symbols y := by
  simpa using head.bind tail

lemma map (read : Reads p symbols x) (f : α → β) : Reads (f <$> p) symbols (f x) := by
  intro rest
  change (p _ >>= fun (x,s) => Pure.pure (f x,s)) = _
  rw [read]
  rfl

lemma take (short : Nat → ε) (symbols : List σ) : Reads (Parser.take short symbols.length) symbols symbols := by
  intro rest
  simp [Parser.take]

lemma within {inner : Parser σ ε α} {slice left : List σ} (read : inner slice = .ok (x,left)) :
    Reads (Parser.within slice inner) [] x := by
  intro rest
  simp [Parser.within,read]

lemma times {blocks : List (List σ)} (each : List.Forall₂ (Reads p) blocks xs) :
    Reads (Parser.times xs.length p) blocks.flatten xs := by
  induction each with
  | nil => exact pure []
  | cons head _ ih => exact head.bind (ih.bind_nil (pure _))

end Reads

/-- Whatever the parser answers, it is for the symbols it consumed and no others. -/
def Local (p : Parser σ ε α) : Prop :=
  ∀ s x rest, p s = .ok (x,rest) → ∃ symbols, s = symbols ++ rest ∧ Reads p symbols x

variable {inner : Parser σ ε α} {short : Nat → ε} {slice : List σ} {n : Nat}

namespace Local

lemma pure : Local (Pure.pure x : Parser σ ε α) := by
  rintro s _ _ read
  cases read
  exact ⟨[],rfl,Reads.pure x⟩

lemma throw (error : ε) : Local (throw error : Parser σ ε α) := by
  rintro s _ _ read
  cases read

lemma bind (head : Local p) (tail : ∀ x, Local (f x)) : Local (p >>= f) := by
  intro s y rest read
  obtain ⟨x,_,first,second⟩ := bind_eq_ok.mp read
  obtain ⟨used,rfl,reads⟩ := head _ _ _ first
  obtain ⟨more,rfl,follows⟩ := tail x _ _ _ second
  exact ⟨used ++ more,(List.append_assoc ..).symm,reads.bind follows⟩

lemma map (inner : Local p) (f : α → β) : Local (f <$> p) := by
  intro s y rest read
  obtain ⟨_,first,rfl⟩ := map_eq_ok.mp read
  obtain ⟨used,same,reads⟩ := inner _ _ _ first
  exact ⟨used,same,reads.map f⟩

lemma take : Local (Parser.take short n : Parser σ ε (List σ)) := by
  intro s x rest read
  unfold Parser.take at read
  split at read
  · cases read
  rename_i enough
  cases read
  have size : (s.take n).length = n := List.length_take_of_le (Nat.not_lt.mp enough)
  exact ⟨s.take n,(List.take_append_drop n s).symm,by simpa [size] using Reads.take short (s.take n)⟩

lemma within : Local (Parser.within slice inner) := by
  intro s x rest read
  unfold Parser.within at read
  split at read
  · cases read
  rename_i same
  cases read
  exact ⟨[],rfl,Reads.within same⟩

end Local

end Parser
