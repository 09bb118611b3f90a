import Mathlib.Data.UInt

/-! Serial numbers that wrap: how far one is ahead of another, what is left of an amount that is counted from a
number, and the later of two. -/
namespace Serial

def ahead (origin at_ : UInt32) : Nat := (at_ - origin).toNat

/-- What is left of `amount`, counted from `origin`, when the counter stands at `at_`. -/
def remaining (origin amount at_ : UInt32) : Nat := amount.toNat - ahead origin at_

def later (a b : UInt32) : UInt32 := if ahead a b < 2^31 then b else a

variable {origin amount at_ a b : UInt32}

lemma ahead_self (a : UInt32) : ahead a a = 0 := by
  unfold ahead
  rw [UInt32.sub_self]
  rfl

lemma toNat_add_sub (origin amount at_ : UInt32) :
    (origin + amount - at_).toNat = (amount.toNat + 2^32 - ahead origin at_) % 2^32 := by
  unfold ahead
  rw [UInt32.toNat_sub,UInt32.toNat_add,UInt32.toNat_sub]
  have first := origin.toNat_lt
  have second := at_.toNat_lt
  omega

lemma ahead_lt (origin at_ : UInt32) : ahead origin at_ < 2^32 := (at_ - origin).toNat_lt

lemma add_sub_eq_remaining_iff :
    (origin + amount - at_).toNat = remaining origin amount at_ ↔ ahead origin at_ ≤ amount.toNat := by
  rw [toNat_add_sub]
  unfold remaining
  have whole := amount.toNat_lt
  have less := ahead_lt origin at_
  omega

lemma add_sub_le_iff : (origin + amount - at_).toNat ≤ amount.toNat ↔ ahead origin at_ ≤ amount.toNat := by
  rw [toNat_add_sub]
  have whole := amount.toNat_lt
  have less := ahead_lt origin at_
  omega

lemma max_eq_later_iff : max a b = later a b ↔ (a ≤ b ↔ ahead a b < 2^31) := by
  unfold later
  by_cases le : a ≤ b
  · rw [show max a b = b from if_pos le]
    by_cases near : ahead a b < 2^31
    · rw [if_pos near]
      exact iff_of_true rfl (iff_of_true le near)
    have apart : b ≠ a := by
      rintro rfl
      exact near (by rw [ahead_self]; decide)
    rw [if_neg near]
    exact iff_of_false apart fun order => near (order.mp le)
  rw [show max a b = a from if_neg le]
  by_cases near : ahead a b < 2^31
  · have apart : a ≠ b := by
      rintro rfl
      exact le (UInt32.le_refl _)
    rw [if_pos near]
    exact iff_of_false apart fun order => le (order.mpr near)
  · rw [if_neg near]
    exact iff_of_true rfl (iff_of_false le near)

end Serial
