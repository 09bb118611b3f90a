import Mathlib.Data.UInt
import Mathlib.Data.List.Chain

/-! Reconnecting: the delays of a backoff, and the attempts one call makes. How each attempt ends is given; times
are in nanoseconds, and the operations of doubles are given, with a conversion of `none` where it panics. -/
namespace Ramqp

structure Doubles (F : Type) where
  one : F
  less : F → F → Bool
  isNaN : F → Bool
  add : F → F → F
  sub : F → F → F
  mul : F → F → F
  clampUnit : F → F
  asSecs : Nat → F
  fromSecs : F → Option Nat

structure ReconnectConfig (F : Type) where
  enabled : Bool
  initialBackoff : Nat
  maxBackoff : Nat
  multiplier : F
  jitter : F
  maxRetries : Option UInt32

structure Backoff (F : Type) where
  policy : ReconnectConfig F
  attempt : UInt32
  current : Nat

namespace Backoff

variable {F : Type} (f : Doubles F)

def new (policy : ReconnectConfig F) : Backoff F :=
  let multiplier := if f.less policy.multiplier f.one || f.isNaN policy.multiplier then f.one else policy.multiplier
  let initial := max policy.initialBackoff 1000000
  ⟨{policy with multiplier,initialBackoff := initial,maxBackoff := max policy.maxBackoff initial},0,initial⟩

def applyJitter (base : Nat) (fraction unit : F) : Option Nat :=
  let fraction := f.clampUnit fraction
  let factor := f.add (f.sub f.one fraction) (f.mul fraction unit)
  f.fromSecs (f.mul (f.asSecs base) factor)

/-- The next delay, given what `jitter_unit` draws; the outer `none` is a panic. -/
def nextDelay (unit : F) (b : Backoff F) : Option (Option (Nat × Backoff F)) :=
  if !b.policy.enabled || b.policy.maxRetries.any (· ≤ b.attempt) then some none
  else
    (applyJitter f (min b.current b.policy.maxBackoff) b.policy.jitter unit).bind fun delay =>
      (f.fromSecs (f.mul (f.asSecs b.current) b.policy.multiplier)).map fun next =>
        some (delay,{b with attempt := b.attempt + 1,current := min next b.policy.maxBackoff})

/-- How an attempt ends; `unit` is what `jitter_unit` draws if a delay is asked for after it. -/
inductive Attempt (F : Type) where
  | replayed
  | replayFailed
  | retryable (unit : F)
  | refused

inductive ReconnectEvent where
  | attempted
  | failed
  | waited (delay : Nat)
  | connected
  | gaveUp
  | panicked
  deriving DecidableEq

open ReconnectEvent List

/-- What a call does in its first turns, with attempts that end as the outcomes say. -/
def reconnect : Nat → (Nat → Attempt F) → Backoff F → List ReconnectEvent
  | 0,_,_ => []
  | turns+1,outcomes,b => attempted::match outcomes 0 with
    | .replayed => [connected]
    | .replayFailed => failed::reconnect turns (outcomes ∘ Nat.succ) b
    | .retryable unit => match nextDelay f unit b with
      | none => [failed,panicked]
      | some none => [failed,gaveUp]
      | some (some (delay,b)) => failed::waited delay::reconnect turns (outcomes ∘ Nat.succ) b
    | .refused => [failed,gaveUp]

/-- An attempt the call comes to fails in replaying the topology. -/
inductive ReplayFails : (Nat → Attempt F) → Backoff F → Prop where
  | now {outcomes : Nat → Attempt F} {b : Backoff F} (fails : outcomes 0 = .replayFailed) : ReplayFails outcomes b
  | later {outcomes : Nat → Attempt F} {b next : Backoff F} {unit : F} {delay : Nat}
      (first : outcomes 0 = .retryable unit) (waits : nextDelay f unit b = some (some (delay,next)))
      (rest : ReplayFails (outcomes ∘ Nat.succ) next) : ReplayFails outcomes b

/-- The delays a backoff yields one after the other. -/
def delays : List F → Backoff F → List Nat
  | [],_ => []
  | unit::units,b => match nextDelay f unit b with
    | some (some (delay,b)) => delay::delays units b
    | _ => []

def drawn : Nat → (Nat → Attempt F) → List F
  | 0,_ => []
  | turns+1,outcomes => match outcomes 0 with
    | .retryable unit => unit::drawn turns (outcomes ∘ Nat.succ)
    | _ => drawn turns (outcomes ∘ Nat.succ)

def waitsOf (log : List ReconnectEvent) : List Nat := log.filterMap fun
  | waited delay => some delay
  | _ => none

/-- The events of so many turns, when at most `fails` attempts may fail: an attempt other than the first comes right
after a wait, the waits are the delays of the backoff in their order, and after as many turns the call is over. -/
structure Paced (fails turns : Nat) (outcomes : Nat → Attempt F) (b : Backoff F) (log : List ReconnectEvent) : Prop where
  count : log.count failed ≤ fails
  spaced : log.IsChain fun event next => next = attempted → ∃ delay, event = waited delay
  delays : waitsOf log <+: delays f (drawn turns outcomes) b
  ends : fails ≤ turns → ∃ last ∈ [connected,gaveUp,panicked], last ∈ log

variable {f} {b next : Backoff F} {unit : F} {delay : Nat} {k : UInt32}

lemma nextDelay_some (retries : b.policy.maxRetries = some k) (waits : nextDelay f unit b = some (some (delay,next))) :
    next.policy.maxRetries = some k ∧ b.attempt.toNat < k.toNat ∧ next.attempt.toNat = b.attempt.toNat + 1 := by
  unfold nextDelay at waits
  split_ifs at waits with ended
  · cases waits
  obtain ⟨_,-,grown⟩ := Option.bind_eq_some_iff.mp waits
  obtain ⟨_,-,same⟩ := Option.map_eq_some_iff.mp grown
  cases same
  have below : b.attempt < k := by simp_all
  have small := UInt32.lt_iff_toNat_lt.mp below
  have large := k.toNat_lt
  refine ⟨retries,small,?_⟩
  rw [UInt32.toNat_add,UInt32.toNat_one]
  omega

lemma reconnect_paced (turns : Nat) (outcomes : Nat → Attempt F) (retries : b.policy.maxRetries = some k)
    (spent : b.attempt.toNat ≤ k.toNat) (replays : ¬ReplayFails f outcomes b) :
    Paced f (k.toNat + 1 - b.attempt.toNat) turns outcomes b (reconnect f turns outcomes b) := by
  induction turns generalizing outcomes b with
  | zero => exact ⟨Nat.zero_le _,.nil, nil_prefix,by omega⟩
  | succ turns ih =>
    have ends (last : ReconnectEvent) (kind : last = gaveUp ∨ last = panicked) :
        Paced f (k.toNat + 1 - b.attempt.toNat) (turns + 1) outcomes b [attempted,failed,last] := by
      rcases kind with rfl | rfl <;> exact ⟨by simp; omega,by simp, nil_prefix,by simp⟩
    unfold reconnect
    cases first : outcomes 0 with
    | replayed => exact ⟨Nat.zero_le _,by simp, nil_prefix,by simp⟩
    | replayFailed => exact absurd (.now first) replays
    | refused => exact ends gaveUp (.inl rfl)
    | retryable unit =>
      rcases waits : nextDelay f unit b with _ | _ | ⟨delay,next⟩ <;> simp only [waits]
      · exact ends panicked (.inr rfl)
      · exact ends gaveUp (.inl rfl)
      obtain ⟨same,below,more⟩ := nextDelay_some retries waits
      have paced := ih (outcomes ∘ Nat.succ) same (by omega) fun fails => replays (.later first waits fails)
      refine ⟨?_,?_,?_,fun enough => ?_⟩
      · have count := paced.count
        simp only [count_cons,beq_self_eq_true,if_true,reduceCtorEq,beq_iff_eq,if_false]
        omega
      · simp [isChain_cons,paced.spaced]
      · simp only [drawn,first,Backoff.delays,waits]
        exact (prefix_cons_inj delay).mpr paced.delays
      · obtain ⟨last,kind,listed⟩ := paced.ends (by omega)
        exact ⟨last,kind,.tail _ (.tail _ (.tail _ listed))⟩

lemma ReplayFails.hurried {outcomes : Nat → Attempt F} (fails : ReplayFails f outcomes b) :
    ∃ turns, ¬(reconnect f turns outcomes b).IsChain fun event next => next = attempted → ∃ delay, event = waited delay := by
  induction fails with
  | now fails => exact ⟨2,by simp [reconnect,fails]⟩
  | later first waits rest ih =>
    obtain ⟨turns,hurried⟩ := ih
    refine ⟨turns + 1,fun spaced => hurried ?_⟩
    simp only [reconnect,first,waits] at spaced
    exact spaced.tail.tail.tail

variable (f) in
/-- With `k` retries the call keeps to its budget and waits between its attempts just when no attempt it comes to fails
in replaying the topology: then at most `k + 1` attempts fail, and after as many the call is over. -/
theorem reconnect_within_budget (policy : ReconnectConfig F) (k : UInt32) (outcomes : Nat → Attempt F) :
    let b := new f {policy with maxRetries := some k}
    (∀ turns, Paced f (k.toNat + 1) turns outcomes b (reconnect f turns outcomes b)) ↔ ¬ReplayFails f outcomes b := by
  intro b
  constructor
  · intro paced fails
    obtain ⟨turns,hurried⟩ := fails.hurried
    exact hurried (paced turns).spaced
  · exact fun replays turns => reconnect_paced turns outcomes rfl (Nat.zero_le _) replays

def whole : Doubles Nat := ⟨1,(decide <| · < ·),fun _ => false,(· + ·),(· - ·),(· * ·),min 1,id,some⟩

/-- Replays that fail are neither counted nor waited for. -/
theorem failed_replays_unbounded :
    reconnect whole 3 (fun _ => .replayFailed) (new whole ⟨true,100,1000,2,0,some 1⟩) =
      [attempted,failed,attempted,failed,attempted,failed] := rfl

end Backoff

end Ramqp
