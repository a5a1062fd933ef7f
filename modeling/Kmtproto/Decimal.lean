import Mathlib.Data.Nat.Digits.Lemmas
import Mathlib.Data.List.DropRight
import Mathlib.Algebra.Order.Field.Rat
import Mathlib.Tactic.FieldSimp
import Mathlib.Tactic.Ring

/-! Decimal notation over an alphabet of digits. A text without redundant zeros at
either end and a power of ten determine each other's value and are determined by it. -/
namespace Kmtproto.Decimal

variable {α : Type} (digit : α → ℕ)

def value (text : List α) : ℕ := text.foldl (fun n c => n*10 + digit c) 0

theorem foldl_value (text : List α) (n : ℕ) :
    text.foldl (fun n c => n*10 + digit c) n = n*10^text.length + value digit text := by
  induction text generalizing n with
  | nil => simp [value]
  | cons c text ih =>
    rw [value,List.foldl_cons,List.foldl_cons,ih,ih (0*10 + digit c),List.length_cons,pow_succ]
    ring

theorem value_append (left right : List α) :
    value digit (left++right) = value digit left * 10^right.length + value digit right := by
  rw [value,List.foldl_append,foldl_value]
  rfl

theorem value_cons (c : α) (text : List α) :
    value digit (c::text) = digit c * 10^text.length + value digit text := by
  rw [← List.singleton_append,value_append]
  simp [value]

theorem value_zeros (text : List α) (zeros : ∀ c ∈ text, digit c = 0) : value digit text = 0 := by
  induction text with
  | nil => rfl
  | cons c text ih =>
    rw [value_cons,zeros c (by simp),ih (fun d member => zeros d (by simp [member]))]
    simp

theorem value_dropWhile (zero : α → Bool) (isZero : ∀ c, zero c = true → digit c = 0) (text : List α) :
    value digit (text.dropWhile zero) = value digit text := by
  calc value digit (text.dropWhile zero)
      = value digit (text.takeWhile zero) * 10^(text.dropWhile zero).length + value digit (text.dropWhile zero) := by
        rw [value_zeros digit _ (fun c member => isZero c (List.mem_takeWhile_imp member))]
        simp
    _ = value digit text := by rw [← value_append,List.takeWhile_append_dropWhile]

/-- A text whose last zeros are cut off counts for as many powers of ten. -/
theorem value_rdropWhile (zero : α → Bool) (isZero : ∀ c, zero c = true → digit c = 0) (text : List α) :
    value digit text = value digit (text.rdropWhile zero) * 10^(text.rtakeWhile zero).length := by
  have split : text.rdropWhile zero ++ text.rtakeWhile zero = text := List.rdropWhile_append_rtakeWhile
  have zeros : value digit (text.rtakeWhile zero) = 0 :=
    value_zeros digit _ (fun c member => isZero c (List.mem_rtakeWhile_imp member))
  conv_lhs => rw [← split]
  rw [value_append,zeros,Nat.add_zero]

theorem value_pos (text : List α) (head : α) (first : text.head? = some head) (nonzero : digit head ≠ 0) :
    0 < value digit text := by
  cases text with
  | nil => cases first
  | cons c text =>
    cases first
    rw [value_cons]
    have scale : 0 < 10^text.length := Nat.pow_pos (by decide)
    exact Nat.add_pos_left (Nat.mul_pos (Nat.pos_of_ne_zero nonzero) scale) _

theorem value_ofDigits (text : List α) : value digit text = Nat.ofDigits 10 (text.map digit).reverse := by
  induction text with
  | nil => rfl
  | cons c text ih =>
    rw [value_cons,ih,List.map_cons,List.reverse_cons,Nat.ofDigits_append]
    simp
    ring

/-- The last digit decides whether ten divides a number. -/
theorem not_dvd_value (text : List α) (small : ∀ c ∈ text, digit c < 10) (last : α) (final : text.getLast? = some last)
    (nonzero : digit last ≠ 0) : ¬ 10 ∣ value digit text := by
  obtain ⟨front,rfl⟩ := List.getLast?_eq_some_iff.mp final
  have bound := small last (by simp)
  rw [value_append]
  simp only [List.length_singleton,pow_one,value,List.foldl_cons,List.foldl_nil,Nat.zero_mul,Nat.zero_add]
  omega

/-- Texts without leading zeros spell different numbers. -/
theorem value_inj (left right : List α) (smallLeft : ∀ c ∈ left, digit c < 10) (smallRight : ∀ c ∈ right, digit c < 10)
    (headLeft : ∀ c, left.head? = some c → digit c ≠ 0) (headRight : ∀ c, right.head? = some c → digit c ≠ 0)
    (same : value digit left = value digit right) : left.map digit = right.map digit := by
  have canonical (text : List α) (small : ∀ c ∈ text, digit c < 10) (head : ∀ c, text.head? = some c → digit c ≠ 0) :
      Nat.digits 10 (value digit text) = (text.map digit).reverse := by
    rw [value_ofDigits]
    refine Nat.digits_ofDigits 10 (by decide) _ ?_ ?_
    · intro d member
      simp only [List.mem_reverse,List.mem_map] at member
      obtain ⟨c,found,rfl⟩ := member
      exact small c found
    · intro nonempty
      rw [List.getLast_reverse]
      cases text with
      | nil => simp at nonempty
      | cons c text => exact head c rfl
  have digits : (left.map digit).reverse = (right.map digit).reverse := by
    rw [← canonical left smallLeft headLeft,← canonical right smallRight headRight,same]
  exact List.reverse_injective digits

private theorem scaled_le {n m : ℕ} {e f : ℤ} (odd : ¬ 10 ∣ n) (same : (n : ℚ) * 10^e = m * 10^f) : f ≤ e := by
  by_contra less
  obtain ⟨k,rfl⟩ : ∃ k : ℕ, f = e + (k+1 : ℕ) := ⟨(f - e - 1).toNat,by omega⟩
  have base : (10 : ℚ)^e ≠ 0 := zpow_ne_zero e (by norm_num)
  have whole : (n : ℚ) = m * 10^(k+1) := by
    rw [zpow_add₀ (by norm_num),zpow_natCast] at same
    refine mul_right_cancel₀ base (same.trans ?_)
    ring
  have precise : n = m * 10^(k+1) := by exact_mod_cast whole
  exact odd (precise ▸ Dvd.dvd.mul_left (dvd_pow_self 10 (Nat.succ_ne_zero k)) m)

/-- A value has one coefficient that ten does not divide, and one exponent for it. -/
theorem scaled_unique {n m : ℕ} {e f : ℤ} (left : ¬ 10 ∣ n) (right : ¬ 10 ∣ m)
    (same : (n : ℚ) * 10^e = m * 10^f) : n = m ∧ e = f := by
  have exponent : e = f := le_antisymm (scaled_le right same.symm) (scaled_le left same)
  subst exponent
  have base : (10 : ℚ)^e ≠ 0 := zpow_ne_zero e (by norm_num)
  exact ⟨by exact_mod_cast mul_right_cancel₀ base same,rfl⟩

end Kmtproto.Decimal
