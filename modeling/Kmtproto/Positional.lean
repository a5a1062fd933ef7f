import Mathlib.Data.Nat.Basic
import Mathlib.Data.List.Lex
import Mathlib.Tactic.Ring

/-! Positional notation in any base. Among texts of one length, whose digits are below
the base, the order of the numbers is the lexicographic order of the texts; and the
digits of a number, written with a fixed width, spell it again. -/
namespace Kmtproto.Positional

section Value
variable {α : Type} (digit : α → ℕ) (base : ℕ)

def value (text : List α) : ℕ := text.foldl (fun n c => n*base + digit c) 0

theorem foldl_eq (text : List α) (n : ℕ) :
    text.foldl (fun n c => n*base + digit c) n = n*base^text.length + value digit base text := by
  induction text generalizing n with
  | nil => simp [value]
  | cons c text ih =>
    rw [value,List.foldl_cons,List.foldl_cons,ih,ih (0*base + digit c),List.length_cons,pow_succ]
    ring

theorem value_append (left right : List α) :
    value digit base (left++right) = value digit base left * base^right.length + value digit base right := by
  rw [value,List.foldl_append,foldl_eq]
  rfl

theorem value_cons (c : α) (text : List α) :
    value digit base (c::text) = digit c * base^text.length + value digit base text := by
  rw [← List.singleton_append,value_append]
  simp [value]

theorem value_lt {text : List α} (small : ∀ c ∈ text, digit c < base) : value digit base text < base^text.length := by
  induction text with
  | nil => simp [value]
  | cons c text ih =>
    have rest := ih (fun d member => small d (by simp [member]))
    have head : digit c + 1 ≤ base := small c (by simp)
    rw [value_cons,List.length_cons,pow_succ]
    calc digit c * base^text.length + value digit base text
        < (digit c + 1) * base^text.length := by rw [Nat.add_mul]; omega
      _ ≤ base^text.length * base := by rw [Nat.mul_comm]; exact Nat.mul_le_mul_left _ head

/-- Two numbers with the same scale compare by their leading part and then by the rest. -/
theorem scaled_lt_iff {a b r s scale : ℕ} (first : r < scale) (second : s < scale) :
    a*scale + r < b*scale + s ↔ a < b ∨ a = b ∧ r < s := by
  rcases Nat.lt_trichotomy a b with less | same | more
  · have step : (a+1)*scale ≤ b*scale := Nat.mul_le_mul_right scale less
    rw [Nat.add_mul] at step
    simp only [less,true_or,iff_true]
    omega
  · subst same
    simp
  · have step : (b+1)*scale ≤ a*scale := Nat.mul_le_mul_right scale more
    rw [Nat.add_mul] at step
    constructor
    · omega
    · rintro (less | ⟨same,_⟩) <;> omega

variable {digit base}

/-- Texts of one length are ordered as the numbers they spell. -/
theorem lex_iff_value_lt (injective : Function.Injective digit) {left right : List α}
    (length : left.length = right.length) (small : ∀ c ∈ left, digit c < base) (small' : ∀ c ∈ right, digit c < base) :
    List.Lex (fun a b => digit a < digit b) left right ↔ value digit base left < value digit base right := by
  induction left generalizing right with
  | nil =>
    cases right with
    | nil => simp
    | cons d right => cases length
  | cons c left ih =>
    cases right with
    | nil => cases length
    | cons d right =>
      have length : left.length = right.length := by simpa using length
      have rest := ih length (fun e member => small e (by simp [member])) (fun e member => small' e (by simp [member]))
      have first := value_lt digit base (fun e member => small e (List.mem_cons_of_mem c member))
      have second := value_lt digit base (fun e member => small' e (List.mem_cons_of_mem d member))
      rw [← length] at second
      rw [List.cons_lex_cons_iff,value_cons,value_cons,← length,scaled_lt_iff first second,rest,injective.eq_iff]

end Value

section Spelling
variable {base : ℕ}

def spell (base : ℕ) : ℕ → ℕ → List ℕ → List ℕ
  | 0, _, tail => tail
  | width+1, n, tail => spell base width (n/base) (n % base::tail)

theorem spell_append (width n : ℕ) (tail : List ℕ) : spell base width n tail = spell base width n [] ++ tail := by
  induction width generalizing n tail with
  | zero => rfl
  | succ width ih =>
    rw [spell,spell,ih,ih _ [n % base],List.append_assoc]
    rfl

theorem spell_length (width n : ℕ) : (spell base width n []).length = width := by
  induction width generalizing n with
  | zero => rfl
  | succ width ih =>
    rw [spell,spell_append,List.length_append,ih]
    rfl

theorem spell_small (positive : 0 < base) (width n : ℕ) : ∀ d ∈ spell base width n [], d < base := by
  induction width generalizing n with
  | zero => simp [spell]
  | succ width ih =>
    intro d member
    rw [spell,spell_append,List.mem_append] at member
    rcases member with early | last
    · exact ih _ d early
    · rw [List.mem_singleton.mp last]
      exact Nat.mod_lt n positive

theorem value_spell (width : ℕ) {n : ℕ} (fits : n < base^width) : value id base (spell base width n []) = n := by
  induction width generalizing n with
  | zero =>
    have zero : n = 0 := by simpa using fits
    rw [zero]
    rfl
  | succ width ih =>
    have quotient : n / base < base^width := by
      apply Nat.div_lt_of_lt_mul
      rwa [Nat.mul_comm,← pow_succ]
    rw [spell,spell_append,value_append,ih quotient]
    simp only [List.length_singleton,pow_one,value,List.foldl_cons,List.foldl_nil,Nat.zero_mul,Nat.zero_add,id_eq]
    exact Nat.div_add_mod' n base

end Spelling

section Letters
variable {α β : Type} {less : α → α → Prop} {below : β → β → Prop} {letter : α → β}

theorem lex_map_iff {digits : Set α} (order : ∀ a ∈ digits, ∀ b ∈ digits, below (letter a) (letter b) ↔ less a b)
    (injective : Set.InjOn letter digits) {left right : List α} (inLeft : ∀ a ∈ left, a ∈ digits)
    (inRight : ∀ a ∈ right, a ∈ digits) : List.Lex below (left.map letter) (right.map letter) ↔ List.Lex less left right := by
  induction left generalizing right with
  | nil => cases right <;> simp
  | cons a left ih =>
    cases right with
    | nil => simp
    | cons b right =>
      have first := inLeft a (by simp)
      have second := inRight b (by simp)
      have rest := ih (fun c member => inLeft c (List.mem_cons_of_mem a member))
        (fun c member => inRight c (List.mem_cons_of_mem b member))
      rw [List.map_cons,List.map_cons,List.cons_lex_cons_iff,List.cons_lex_cons_iff,order a first b second,rest,
        injective.eq_iff first second]

end Letters

end Kmtproto.Positional
