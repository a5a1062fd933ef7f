import Kmtproto.Json.Reading

/-! Valid UTF-8. A text is valid when it is a sequence of whole runes; joining valid
texts, cutting one where a rune starts and writing any text as a literal keep it so. -/
namespace Kmtproto.Json

def Whole (units : List Bytes) : Prop := ∀ unit ∈ units, unit ≠ [] ∧ runeSize unit = unit.length

theorem validString_iff (text : Bytes) : validString text = true ↔ ∃ units, text = units.flatten ∧ Whole units := by
  constructor
  · intro valid
    refine ⟨runes text,(runes_flatten text).symm,fun rune member => ?_⟩
    obtain ⟨nonempty,whole | single⟩ := runes_isRune text rune member
    · exact ⟨nonempty,whole⟩
    · have nonzero := List.all_eq_true.mp valid rune member
      have bound := (runeSize_le rune).2
      simp only [bne_iff_ne,ne_eq] at nonzero
      exact ⟨nonempty,by omega⟩
  · rintro ⟨units,rfl,whole⟩
    rw [validString,runes_of_whole units whole,List.all_eq_true]
    intro unit member
    obtain ⟨nonempty,size⟩ := whole unit member
    simpa [size] using nonempty

theorem validString_append {first second : Bytes} (one : validString first = true) (two : validString second = true) :
    validString (first++second) = true := by
  obtain ⟨units,rfl,whole⟩ := (validString_iff _).mp one
  obtain ⟨more,rfl,others⟩ := (validString_iff _).mp two
  refine (validString_iff _).mpr ⟨units++more,by simp,fun unit member => ?_⟩
  rcases List.mem_append.mp member with member | member
  · exact whole unit member
  · exact others unit member

theorem validString_flatMap {α : Type} {pieces : List α} {write : α → Bytes}
    (each : ∀ piece ∈ pieces, validString (write piece) = true) : validString (pieces.flatMap write) = true := by
  induction pieces with
  | nil => rfl
  | cons piece pieces ih =>
    rw [List.flatMap_cons]
    exact validString_append (each piece (by simp)) (ih (fun other member => each other (by simp [member])))

theorem validString_ascii {text : Bytes} (ascii : ∀ c ∈ text, c < 0x80) : validString text = true := by
  have joined : text.flatMap (fun c => [c]) = text := List.flatMap_singleton' text
  refine (validString_iff _).mpr ⟨text.map (fun c => [c]),by rw [← List.flatMap_def,joined],fun unit member => ?_⟩
  obtain ⟨c,found,rfl⟩ := List.mem_map.mp member
  exact ⟨by simp,by rw [runeSize_single,if_pos (ascii c found)]; rfl⟩

theorem validString_rune {rune : Bytes} (piece : IsRune rune) (long : rune.length ≠ 1) : validString rune = true :=
  (validString_iff _).mpr ⟨[rune],by simp,by simpa [Whole] using ⟨piece.1,piece.2.resolve_right long⟩⟩

theorem hexDigits_ascii (b : UInt8) : hexDigit (b/16) < 0x80 ∧ hexDigit (b%16) < 0x80 := by
  have digit (n : UInt8) (small : n < 16) : hexDigit n < 0x80 := by grind [hexDigit]
  have high : b / 16 < 16 := by
    rw [UInt8.lt_iff_toNat_lt,UInt8.toNat_div]
    have := b.toNat_lt
    simp only [UInt8.reduceToNat]
    omega
  have low : b % 16 < 16 := by
    rw [UInt8.lt_iff_toNat_lt,UInt8.toNat_mod]
    simp only [UInt8.reduceToNat]
    omega
  exact ⟨digit _ high,digit _ low⟩

/-- A literal has at most six characters for each byte. -/
theorem quote_length_le (text : Bytes) : (quote text).length ≤ 6*text.length + 2 := by
  have each (rune : Bytes) (piece : IsRune rune) : (quoteRune rune).length ≤ 6*rune.length := by
    have positive := List.length_pos_iff.mpr piece.1
    unfold quoteRune
    split
    · repeat' split
      all_goals simp [escapeByte]
    · repeat' split
      all_goals simp_all
  have longer (pieces : List Bytes) (all : ∀ piece ∈ pieces, IsRune piece) :
      (pieces.flatMap quoteRune).length ≤ 6*pieces.flatten.length := by
    induction pieces with
    | nil => simp
    | cons rune pieces ih =>
      have one := each rune (all rune (by simp))
      have rest := ih (fun piece member => all piece (by simp [member]))
      simp only [List.flatMap_cons,List.flatten_cons,List.length_append]
      omega
  have whole := longer (runes text) (fun piece member => runes_isRune text piece member)
  rw [runes_flatten] at whole
  simp only [quote,quoteChars,List.length_cons,List.length_append,List.length_nil]
  omega

private theorem isTail_continues (b : UInt8) (tail : isTail b = true) : b &&& 0xC0 = 0x80 := by
  have all : ∀ n < 256, isTail (UInt8.ofNat n) = true → UInt8.ofNat n &&& 0xC0 = 0x80 := by decide +kernel
  have here := all b.toNat b.toNat_lt
  rw [UInt8.ofNat_toNat] at here
  exact here tail

private theorem isSecond_isTail (a b : UInt8) (second : isSecond a b = true) : isTail b = true := by
  grind [isSecond,isTail]

private theorem rune_continues {rune : Bytes} (whole : runeSize rune = rune.length) (i : Nat) (positive : 0 < i)
    (inside : i < rune.length) : rune.getD i 0 &&& 0xC0 = 0x80 := by
  have tails : ∀ b ∈ rune.tail, isTail b = true := by
    cases rune with
    | nil => simp
    | cons a rest =>
      intro b member
      have second := isSecond_isTail a
      simp only [runeSize,List.length_cons] at whole
      grind
  cases rune with
  | nil => cases inside
  | cons a rest =>
    obtain ⟨j,rfl⟩ : ∃ j, i = j+1 := ⟨i-1,by omega⟩
    have reach : j < rest.length := by simpa using inside
    have byte := tails rest[j] (by simp)
    simpa [List.getElem?_eq_getElem reach] using isTail_continues _ byte

/-- A valid text cut where a rune may start stays valid. -/
theorem validString_take {text : Bytes} (valid : validString text = true) (cut : Nat)
    (starts : cut = 0 ∨ text.length ≤ cut ∨ text.getD cut 0 &&& 0xC0 ≠ 0x80) : validString (text.take cut) = true := by
  obtain ⟨units,rfl,whole⟩ := (validString_iff _).mp valid
  clear valid
  induction units generalizing cut with
  | nil =>
    rw [List.flatten_nil,List.take_nil]
    rfl
  | cons unit units ih =>
    obtain ⟨nonempty,size⟩ := whole unit (by simp)
    have rest : Whole units := fun other member => whole other (by simp [member])
    have one : validString unit = true := (validString_iff _).mpr ⟨[unit],by simp,by simpa [Whole] using ⟨nonempty,size⟩⟩
    simp only [List.flatten_cons] at starts ⊢
    rw [List.take_append]
    by_cases inner : cut < unit.length
    · -- no rune starts inside a rune, so the cut is at its front
      have zero : cut = 0 := by
        rcases starts with zero | past | starts
        · exact zero
        · simp only [List.length_append] at past
          omega
        · by_contra positive
          rw [List.getD_append _ _ _ _ inner] at starts
          exact starts (rune_continues size cut (by omega) inner)
      rw [zero,List.take_zero,Nat.zero_sub,List.take_zero]
      rfl
    · rw [List.take_of_length_le (by omega)]
      refine validString_append one (ih (cut-unit.length) rest ?_)
      rcases starts with zero | past | starts
      · exact .inl (by omega)
      · simp only [List.length_append] at past
        exact .inr (.inl (by omega))
      · rw [List.getD_append_right _ _ _ _ (by omega)] at starts
        exact .inr (.inr starts)

end Kmtproto.Json
