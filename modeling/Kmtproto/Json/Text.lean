import Mathlib

/-! Byte strings, UTF-8 and JSON string literals. Strings are raw byte sequences,
so malformed UTF-8 is a value of the type; quoting replaces it and escapes the
HTML-sensitive characters, and unquoting inverts quoting on well-formed input. -/
namespace Kmtproto.Json

abbrev Bytes := List UInt8

instance : LawfulBEq Bytes := inferInstance

def lit (text : String) : Bytes := text.toByteArray.data.toList

/-- Repeats a consuming step until the input is used up. -/
def many {α : Type} (step : Bytes → Option (α × Bytes)) : Nat → Bytes → Option (List α)
  | _, [] => some []
  | 0, _::_ => none
  | fuel+1, head::tail => do
    let (unit,rest) ← step (head::tail)
    let units ← many step fuel rest
    some (unit::units)

theorem many_append {α : Type} (step : Bytes → Option (α × Bytes)) (fuel : Nat) (unit : α)
    (text rest : Bytes) (units : List α) (nonempty : text ≠ [])
    (first : step (text++rest) = some (unit,rest)) (later : many step fuel rest = some units) :
    many step (fuel+1) (text++rest) = some (unit::units) := by
  cases text with
  | nil => exact absurd rfl nonempty
  | cons head tail =>
    rw [List.cons_append] at first ⊢
    simp only [many,first,later,bind,Option.bind]

theorem many_more {α : Type} (step : Bytes → Option (α × Bytes)) (fuel more : Nat) (bound : fuel ≤ more)
    (input : Bytes) (units : List α) (run : many step fuel input = some units) :
    many step more input = some units := by
  induction fuel generalizing more input units with
  | zero =>
    cases input with
    | nil => cases more <;> simpa [many] using run
    | cons head tail => simp [many] at run
  | succ fuel ih =>
    cases input with
    | nil => cases more <;> simpa [many] using run
    | cons head tail =>
      obtain ⟨more,rfl⟩ : ∃ m, more = m+1 := ⟨more-1,by omega⟩
      simp only [many,bind,Option.bind] at run ⊢
      cases taken : step (head::tail) with
      | none => simp [taken] at run
      | some pair =>
        obtain ⟨unit,rest⟩ := pair
        simp only [taken] at run ⊢
        cases following : many step fuel rest with
        | none => simp [following] at run
        | some others =>
          rw [ih more (by omega) rest others following]
          simpa [following] using run

/-- Decoding a concatenation of encoded units yields the units, given fuel for
each of them. The step may inspect what follows, which is again encoded. -/
theorem many_flatMap {α β : Type} (step : Bytes → Option (α × Bytes)) (encode : β → Bytes)
    (value : β → α) (units : List β)
    (reads : ∀ unit ∈ units, ∀ rest, step (encode unit++rest) = some (value unit,rest))
    (nonempty : ∀ unit ∈ units, encode unit ≠ []) :
    many step (units.flatMap encode).length (units.flatMap encode) = some (units.map value) := by
  induction units with
  | nil => rfl
  | cons unit units ih =>
    have later := ih (fun u member => reads u (by simp [member])) (fun u member => nonempty u (by simp [member]))
    have size : 0 < (encode unit).length := List.length_pos_iff.mpr (nonempty unit (by simp))
    have run := many_append step (units.flatMap encode).length (value unit) (encode unit)
      (units.flatMap encode) _ (nonempty unit (by simp)) (reads unit (by simp) _) later
    rw [List.flatMap_cons,List.map_cons]
    exact many_more step _ _ (by rw [List.length_append]; omega) _ _ run

/-- A continuation byte. -/
def isTail (b : UInt8) : Bool := 0x80 ≤ b && b ≤ 0xBF

/-- The second byte of a sequence of three or four: the first byte narrows its
range, which excludes overlong forms, surrogates and code points past U+10FFFF. -/
def isSecond (a b : UInt8) : Bool :=
  if a = 0xE0 then 0xA0 ≤ b && b ≤ 0xBF
  else if a = 0xED then 0x80 ≤ b && b ≤ 0x9F
  else if a = 0xF0 then 0x90 ≤ b && b ≤ 0xBF
  else if a = 0xF4 then 0x80 ≤ b && b ≤ 0x8F
  else isTail b

/-- Length of the well-formed UTF-8 sequence at the head of the input, zero when
the input is empty or malformed there. -/
def runeSize : Bytes → Nat
  | [] => 0
  | a::rest =>
    if a < 0x80 then 1
    else if a < 0xC2 then 0
    else if a < 0xE0 then
      match rest with
      | b::_ => if isTail b then 2 else 0
      | _ => 0
    else if a < 0xF0 then
      match rest with
      | b::c::_ => if isSecond a b && isTail c then 3 else 0
      | _ => 0
    else if a < 0xF5 then
      match rest with
      | b::c::d::_ => if isSecond a b && isTail c && isTail d then 4 else 0
      | _ => 0
    else 0

def runeStep (input : Bytes) : Option (Bytes × Bytes) :=
  let size := max 1 (runeSize input)
  some (input.take size,input.drop size)

def runes (input : Bytes) : List Bytes := (many runeStep input.length input).getD []

/-- `utf8.ValidString`. -/
def validString (input : Bytes) : Bool := (runes input).all (fun rune => runeSize rune != 0)

def replacement : Bytes := [0xEF,0xBF,0xBD]

/-- Every malformed byte becomes U+FFFD. -/
def toValid (input : Bytes) : Bytes :=
  (runes input).flatMap (fun rune => if runeSize rune = 0 then replacement else rune)

def hexDigit (n : UInt8) : UInt8 := if n < 10 then 0x30 + n else 0x57 + n

/-- The six characters of a \u00XX escape. -/
def escapeByte (b : UInt8) : Bytes := [0x5C,0x75,0x30,0x30,hexDigit (b / 16),hexDigit (b % 16)]

/-- The JSON text of one rune inside a string literal, with HTML escaping. -/
def quoteRune (rune : Bytes) : Bytes :=
  match rune with
  | [b] =>
    if b = 0x22 ∨ b = 0x5C then [0x5C,b]
    else if b = 0x08 then [0x5C,0x62]
    else if b = 0x0C then [0x5C,0x66]
    else if b = 0x0A then [0x5C,0x6E]
    else if b = 0x0D then [0x5C,0x72]
    else if b = 0x09 then [0x5C,0x74]
    else if b < 0x20 ∨ b = 0x3C ∨ b = 0x3E ∨ b = 0x26 then escapeByte b
    else if b < 0x80 then [b]
    else [0x5C,0x75,0x66,0x66,0x66,0x64]
  | _ =>
    if rune = [0xE2,0x80,0xA8] then [0x5C,0x75,0x32,0x30,0x32,0x38]
    else if rune = [0xE2,0x80,0xA9] then [0x5C,0x75,0x32,0x30,0x32,0x39]
    else rune

def quoteChars (input : Bytes) : Bytes := (runes input).flatMap quoteRune

def quote (input : Bytes) : Bytes := 0x22 :: (quoteChars input ++ [0x22])

def hexValue (c : UInt8) : Option Nat :=
  if 0x30 ≤ c ∧ c ≤ 0x39 then some (c.toNat - 0x30)
  else if 0x61 ≤ c ∧ c ≤ 0x66 then some (c.toNat - 0x57)
  else if 0x41 ≤ c ∧ c ≤ 0x46 then some (c.toNat - 0x37)
  else none

def unicodeEscape : Bytes → Option (Nat × Bytes)
  | 0x5C::0x75::a::b::c::d::rest => do
    let a ← hexValue a
    let b ← hexValue b
    let c ← hexValue c
    let d ← hexValue d
    some (((a*16+b)*16+c)*16+d,rest)
  | _ => none

def encodeRune (r : Nat) : Bytes :=
  if r < 0x80 then [UInt8.ofNat r]
  else if r < 0x800 then [UInt8.ofNat (0xC0 + r / 64),UInt8.ofNat (0x80 + r % 64)]
  else if r < 0x10000 then
    [UInt8.ofNat (0xE0 + r / 4096),UInt8.ofNat (0x80 + r / 64 % 64),UInt8.ofNat (0x80 + r % 64)]
  else
    [UInt8.ofNat (0xF0 + r / 262144),UInt8.ofNat (0x80 + r / 4096 % 64),
      UInt8.ofNat (0x80 + r / 64 % 64),UInt8.ofNat (0x80 + r % 64)]

/-- One character of a literal decoded: an escape, a surrogate pair, a rune or a
malformed byte. Lone surrogates and malformed bytes become U+FFFD. -/
def unquoteStep : Bytes → Option (Bytes × Bytes)
  | [] => none
  | 0x5C::rest =>
    match rest with
    | 0x75::_ => do
      let (unit,after) ← unicodeEscape (0x5C::rest)
      if 0xD800 ≤ unit ∧ unit < 0xE000 then
        match unicodeEscape after with
        | some (low,following) =>
          if unit < 0xDC00 ∧ 0xDC00 ≤ low ∧ low < 0xE000 then
            some (encodeRune (0x10000 + (unit - 0xD800) * 0x400 + (low - 0xDC00)),following)
          else some (replacement,after)
        | none => some (replacement,after)
      else some (encodeRune unit,after)
    | c::after =>
      if c = 0x22 ∨ c = 0x5C ∨ c = 0x2F then some ([c],after)
      else if c = 0x62 then some ([0x08],after)
      else if c = 0x66 then some ([0x0C],after)
      else if c = 0x6E then some ([0x0A],after)
      else if c = 0x72 then some ([0x0D],after)
      else if c = 0x74 then some ([0x09],after)
      else none
    | [] => none
  | b::rest =>
    if b = 0x22 ∨ b < 0x20 then none
    else
      let size := runeSize (b::rest)
      if size = 0 then some (replacement,rest)
      else some ((b::rest).take size,(b::rest).drop size)

def unquote (chars : Bytes) : Option Bytes := (many unquoteStep chars.length chars).map List.flatten

/-- A nonempty piece produced by cutting a string: a whole rune or a single byte. -/
def IsRune (rune : Bytes) : Prop := rune ≠ [] ∧ (runeSize rune = rune.length ∨ rune.length = 1)

theorem runeSize_le (input : Bytes) : runeSize input ≤ 4 ∧ runeSize input ≤ input.length := by
  unfold runeSize
  repeat' split
  all_goals simp

theorem runeSize_single (b : UInt8) : runeSize [b] = if b < 0x80 then 1 else 0 := by
  simp only [runeSize]
  repeat' split
  all_goals rfl

/-- Only the bytes of a rune decide where it ends. -/
theorem runeSize_append (rune rest : Bytes) (nonempty : rune ≠ [])
    (whole : runeSize rune = rune.length) : runeSize (rune++rest) = rune.length := by
  match rune with
  | [] => exact absurd rfl nonempty
  | [a] =>
    rw [runeSize_single] at whole
    split at whole
    · rename_i ascii; simp [runeSize,ascii]
    · simp at whole
  | [a,b] => simp only [runeSize] at whole; simp only [runeSize,List.cons_append]; grind
  | [a,b,c] => simp only [runeSize] at whole; simp only [runeSize,List.cons_append]; grind
  | [a,b,c,d] => simp only [runeSize] at whole; simp only [runeSize,List.cons_append]; grind
  | a::b::c::d::e::tail =>
    have bound := (runeSize_le (a::b::c::d::e::tail)).1
    simp only [List.length_cons] at whole
    omega

theorem runeSize_take (input : Bytes) : runeSize (input.take (runeSize input)) = runeSize input := by
  match input with
  | [] => rfl
  | [a] => simp only [runeSize]; grind [runeSize]
  | [a,b] => simp only [runeSize]; grind [runeSize]
  | [a,b,c] => simp only [runeSize]; grind [runeSize]
  | a::b::c::d::tail => simp only [runeSize]; grind [runeSize]

private theorem runes_run (fuel : Nat) (input : Bytes) (bound : input.length ≤ fuel) :
    ∃ pieces, many runeStep fuel input = some pieces ∧ pieces.flatten = input ∧
      ∀ rune ∈ pieces, IsRune rune := by
  induction fuel generalizing input with
  | zero =>
    have empty : input = [] := List.length_eq_zero_iff.mp (by omega)
    subst input
    exact ⟨[],rfl,rfl,by simp⟩
  | succ fuel ih =>
    cases input with
    | nil => exact ⟨[],rfl,rfl,by simp⟩
    | cons head tail =>
      let size := max 1 (runeSize (head::tail))
      have positive : 1 ≤ size := le_max_left _ _
      have inside : size ≤ (head::tail).length := by
        have := (runeSize_le (head::tail)).2
        simp only [size,List.length_cons] at this ⊢
        omega
      obtain ⟨pieces,run,joined,all⟩ := ih ((head::tail).drop size)
        (by simp only [List.length_drop,List.length_cons] at bound ⊢; omega)
      refine ⟨(head::tail).take size::pieces,?_,?_,?_⟩
      · simp only [many,runeStep,bind,Option.bind]
        rw [show max 1 (runeSize (head::tail)) = size from rfl,run]
      · rw [List.flatten_cons,joined,List.take_append_drop]
      · intro rune member
        rcases List.mem_cons.mp member with rfl | later
        · refine ⟨?_,?_⟩
          · intro empty
            have := congrArg List.length empty
            simp only [List.length_take,List.length_nil] at this
            omega
          · by_cases zero : runeSize (head::tail) = 0
            · right
              simp only [size,zero,List.length_take,List.length_cons]
              omega
            · left
              have same : size = runeSize (head::tail) := by simp only [size]; omega
              rw [List.length_take,Nat.min_eq_left inside,same,runeSize_take]
        · exact all rune later

theorem runes_flatten (input : Bytes) : (runes input).flatten = input := by
  obtain ⟨pieces,run,joined,_⟩ := runes_run input.length input le_rfl
  simpa [runes,run] using joined

theorem runes_isRune (input rune : Bytes) (member : rune ∈ runes input) : IsRune rune := by
  obtain ⟨pieces,run,_,all⟩ := runes_run input.length input le_rfl
  exact all rune (by simpa [runes,run] using member)

theorem toValid_of_valid (input : Bytes) (valid : validString input = true) : toValid input = input := by
  have same : ∀ rune ∈ runes input, (if runeSize rune = 0 then replacement else rune) = rune := by
    intro rune member
    have nonzero := List.all_eq_true.mp valid rune member
    simp only [bne_iff_ne,ne_eq] at nonzero
    rw [if_neg nonzero]
  unfold toValid
  rw [List.flatMap_congr same]
  simpa [List.flatMap] using runes_flatten input

private theorem quoteRune_ne_nil (rune : Bytes) (piece : IsRune rune) : quoteRune rune ≠ [] := by
  obtain ⟨nonempty,_⟩ := piece
  unfold quoteRune
  split
  · repeat' split
    all_goals simp [escapeByte]
  · repeat' split
    all_goals simp_all

private theorem hexValue_hexDigit (n : UInt8) (small : n < 16) : hexValue (hexDigit n) = some n.toNat := by
  have table : ∀ k < 16, hexValue (hexDigit (UInt8.ofNat k)) = some k := by decide
  simpa using table n.toNat small

theorem unquoteStep_escapeByte (b : UInt8) (ascii : b < 0x80) (rest : Bytes) :
    unquoteStep (escapeByte b++rest) = some ([b],rest) := by
  have value : b.toNat < 128 := ascii
  have high := hexValue_hexDigit (b / 16) (by rw [UInt8.lt_iff_toNat_lt]; simp; omega)
  have low := hexValue_hexDigit (b % 16) (by rw [UInt8.lt_iff_toNat_lt]; simp; omega)
  have zero : hexValue 0x30 = some 0 := by decide
  simp only [escapeByte,List.cons_append,List.nil_append,unquoteStep,unicodeEscape,zero,high,low,
    bind,Option.bind]
  have sum : ((0*16+0)*16+(b / 16).toNat)*16+(b % 16).toNat = b.toNat := by simp; omega
  rw [sum,if_neg (by omega)]
  simp [encodeRune,value]

theorem unquoteStep_plain (b : UInt8) (rest : Bytes) (slash : b ≠ 0x5C) (mark : b ≠ 0x22)
    (printable : ¬ b < 0x20) :
    unquoteStep (b::rest) = if runeSize (b::rest) = 0 then some (replacement,rest)
      else some ((b::rest).take (runeSize (b::rest)),(b::rest).drop (runeSize (b::rest))) := by
  unfold unquoteStep
  split
  · rename_i same; cases same
  · rename_i same; exact absurd (List.cons.inj same).1 slash
  · rename_i same
    obtain ⟨rfl,rfl⟩ := List.cons.inj same
    rw [if_neg (by tauto)]

private theorem unquoteStep_quoteRune (rune rest : Bytes) (piece : IsRune rune) :
    unquoteStep (quoteRune rune++rest) =
      some (if runeSize rune = 0 then replacement else rune,rest) := by
  obtain ⟨nonempty,shape⟩ := piece
  match rune with
  | [] => exact absurd rfl nonempty
  | [b] =>
    rw [runeSize_single]
    simp only [quoteRune]
    split
    · rename_i quoted
      rcases quoted with rfl | rfl <;> simp [unquoteStep]
    split; · subst b; simp [unquoteStep]
    split; · subst b; simp [unquoteStep]
    split; · subst b; simp [unquoteStep]
    split; · subst b; simp [unquoteStep]
    split; · subst b; simp [unquoteStep]
    split
    · rename_i escaped
      have ascii : b < 0x80 := by grind
      rw [unquoteStep_escapeByte b ascii rest]
      simp [ascii]
    · rename_i quoted _ _ _ _ _ escaped
      split
      · rename_i ascii
        rw [List.singleton_append,unquoteStep_plain b rest (by tauto) (by tauto) (by tauto)]
        simp [runeSize,ascii]
      · simp [unquoteStep,unicodeEscape,hexValue,encodeRune,replacement]
  | a::b::tail =>
    have whole : runeSize (a::b::tail) = (a::b::tail).length := by
      rcases shape with whole | single
      · exact whole
      · simp at single
    rw [if_neg (by rw [whole]; simp)]
    simp only [quoteRune]
    split
    · rename_i same; rw [same]; simp [unquoteStep,unicodeEscape,hexValue,encodeRune]
    split
    · rename_i same; rw [same]; simp [unquoteStep,unicodeEscape,hexValue,encodeRune]
    · have joined := runeSize_append (a::b::tail) rest (by simp) whole
      have lead : ¬ a < 0x80 := by
        intro ascii
        simp [runeSize,ascii] at whole
      rw [List.cons_append] at joined ⊢
      rw [unquoteStep_plain a _ (by grind) (by grind) (by grind),joined,if_neg (by simp)]
      rw [← List.cons_append,List.take_left,List.drop_left]

theorem unquote_quoteChars (input : Bytes) : unquote (quoteChars input) = some (toValid input) := by
  have run := many_flatMap unquoteStep quoteRune
    (fun rune => if runeSize rune = 0 then replacement else rune) (runes input)
    (fun rune member rest => unquoteStep_quoteRune rune rest (runes_isRune input rune member))
    (fun rune member => quoteRune_ne_nil rune (runes_isRune input rune member))
  unfold unquote quoteChars toValid
  rw [run]
  simp [List.flatMap]

private theorem byte_of (n : Nat) (small : n < 256) : ∃ b, UInt8.ofNat n = b ∧ b.toNat = n :=
  ⟨UInt8.ofNat n,rfl,UInt8.toNat_ofNat_of_lt' small⟩

private theorem isTail_of (b : UInt8) (low : 0x80 ≤ b.toNat) (high : b.toNat ≤ 0xBF) : isTail b = true := by
  simp only [isTail,Bool.and_eq_true,decide_eq_true_eq,UInt8.le_iff_toNat_le]
  exact ⟨low,high⟩

private theorem isSecond_of (a b : UInt8) (low : 0x80 ≤ b.toNat) (high : b.toNat ≤ 0xBF)
    (long : a.toNat = 0xE0 → 0xA0 ≤ b.toNat) (surrogate : a.toNat = 0xED → b.toNat ≤ 0x9F)
    (longer : a.toNat = 0xF0 → 0x90 ≤ b.toNat) (last : a.toNat = 0xF4 → b.toNat ≤ 0x8F) :
    isSecond a b = true := by
  simp only [isSecond,← UInt8.toNat_inj,UInt8.le_iff_toNat_le]
  split_ifs with first second third fourth
  · simpa using ⟨long first,high⟩
  · simpa using ⟨low,surrogate second⟩
  · simpa using ⟨longer third,high⟩
  · simpa using ⟨low,last fourth⟩
  · exact isTail_of b low high

/-- The encoding of a code point that is no surrogate is one rune. -/
theorem encodeRune_whole (r : Nat) (bound : r < 0x110000) (scalar : ¬(0xD800 ≤ r ∧ r < 0xE000)) :
    encodeRune r ≠ [] ∧ runeSize (encodeRune r) = (encodeRune r).length := by
  unfold encodeRune
  split
  · rename_i ascii
    obtain ⟨a,eqa,va⟩ := byte_of r (by omega)
    rw [eqa,runeSize_single,if_pos (by rw [UInt8.lt_iff_toNat_lt,va]; exact ascii)]
    exact ⟨by simp,rfl⟩
  split
  · rename_i two
    obtain ⟨a,eqa,va⟩ := byte_of (0xC0 + r / 64) (by omega)
    obtain ⟨b,eqb,vb⟩ := byte_of (0x80 + r % 64) (by omega)
    have tail : isTail b = true := isTail_of b (by omega) (by omega)
    rw [eqa,eqb]
    refine ⟨by simp,?_⟩
    simp only [runeSize,UInt8.lt_iff_toNat_lt,va,tail]
    split_ifs <;> simp_all <;> omega
  split
  · rename_i three
    obtain ⟨a,eqa,va⟩ := byte_of (0xE0 + r / 4096) (by omega)
    obtain ⟨b,eqb,vb⟩ := byte_of (0x80 + r / 64 % 64) (by omega)
    obtain ⟨c,eqc,vc⟩ := byte_of (0x80 + r % 64) (by omega)
    have second : isSecond a b = true :=
      isSecond_of a b (by omega) (by omega) (by omega) (by omega) (by omega) (by omega)
    have tail : isTail c = true := isTail_of c (by omega) (by omega)
    rw [eqa,eqb,eqc]
    refine ⟨by simp,?_⟩
    simp only [runeSize,UInt8.lt_iff_toNat_lt,va,second,tail]
    split_ifs <;> simp_all <;> omega
  · obtain ⟨a,eqa,va⟩ := byte_of (0xF0 + r / 262144) (by omega)
    obtain ⟨b,eqb,vb⟩ := byte_of (0x80 + r / 4096 % 64) (by omega)
    obtain ⟨c,eqc,vc⟩ := byte_of (0x80 + r / 64 % 64) (by omega)
    obtain ⟨d,eqd,vd⟩ := byte_of (0x80 + r % 64) (by omega)
    have second : isSecond a b = true :=
      isSecond_of a b (by omega) (by omega) (by omega) (by omega) (by omega) (by omega)
    have tail : isTail c = true := isTail_of c (by omega) (by omega)
    have last : isTail d = true := isTail_of d (by omega) (by omega)
    rw [eqa,eqb,eqc,eqd]
    refine ⟨by simp,?_⟩
    simp only [runeSize,UInt8.lt_iff_toNat_lt,va,second,tail,last]
    split_ifs <;> simp_all <;> omega

private theorem hexValue_lt (c : UInt8) (n : Nat) (read : hexValue c = some n) : n < 16 := by
  unfold hexValue at read
  simp only [UInt8.le_iff_toNat_le] at read
  split_ifs at read with digit lower upper
  · obtain rfl := Option.some.inj read
    obtain ⟨low,high⟩ := digit
    simp at low high
    omega
  · obtain rfl := Option.some.inj read
    obtain ⟨low,high⟩ := lower
    simp at low high
    omega
  · obtain rfl := Option.some.inj read
    obtain ⟨low,high⟩ := upper
    simp at low high
    omega

private theorem unicodeEscape_lt (input rest : Bytes) (unit : Nat)
    (read : unicodeEscape input = some (unit,rest)) : unit < 0x10000 := by
  unfold unicodeEscape at read
  split at read
  · simp only [bind,Option.bind_eq_some_iff,Option.some.injEq,Prod.mk.injEq] at read
    obtain ⟨a,reada,b,readb,c,readc,d,readd,rfl,_⟩ := read
    have ha := hexValue_lt _ _ reada
    have hb := hexValue_lt _ _ readb
    have hc := hexValue_lt _ _ readc
    have hd := hexValue_lt _ _ readd
    omega
  · cases read

private theorem replacement_whole : replacement ≠ [] ∧ runeSize replacement = replacement.length := by decide

private theorem unquoteStep_whole (input unit rest : Bytes) (step : unquoteStep input = some (unit,rest)) :
    unit ≠ [] ∧ runeSize unit = unit.length := by
  unfold unquoteStep at step
  split at step
  · cases step
  · split at step
    · simp only [bind,Option.bind_eq_some_iff] at step
      obtain ⟨⟨code,after⟩,escaped,step⟩ := step
      have small := unicodeEscape_lt _ _ _ escaped
      dsimp only at step
      split at step
      · rename_i surrogate
        split at step
        · split at step
          · obtain ⟨rfl,_⟩ := Prod.mk.inj (Option.some.inj step)
            rename_i pair
            exact encodeRune_whole _ (by omega) (by omega)
          · obtain ⟨rfl,_⟩ := Prod.mk.inj (Option.some.inj step)
            exact replacement_whole
        · obtain ⟨rfl,_⟩ := Prod.mk.inj (Option.some.inj step)
          exact replacement_whole
      · rename_i scalar
        obtain ⟨rfl,_⟩ := Prod.mk.inj (Option.some.inj step)
        exact encodeRune_whole _ (by omega) scalar
    · split_ifs at step with quoted
      · obtain ⟨rfl,_⟩ := Prod.mk.inj (Option.some.inj step)
        rcases quoted with rfl | rfl | rfl <;> decide
      all_goals
        obtain ⟨rfl,_⟩ := Prod.mk.inj (Option.some.inj step)
        decide
    · cases step
  · rename_i b tail _
    dsimp only at step
    split_ifs at step with control empty
    · obtain ⟨rfl,_⟩ := Prod.mk.inj (Option.some.inj step)
      exact replacement_whole
    · obtain ⟨rfl,_⟩ := Prod.mk.inj (Option.some.inj step)
      have inside := (runeSize_le (b::tail)).2
      refine ⟨?_,by rw [runeSize_take,List.length_take,Nat.min_eq_left inside]⟩
      intro none
      have := congrArg List.length none
      rw [List.length_take,Nat.min_eq_left inside] at this
      exact empty this

private theorem many_forall {α : Type} (step : Bytes → Option (α × Bytes)) (P : α → Prop)
    (each : ∀ input unit rest, step input = some (unit,rest) → P unit) (fuel : Nat) (input : Bytes)
    (units : List α) (run : many step fuel input = some units) : ∀ unit ∈ units, P unit := by
  induction fuel generalizing input units with
  | zero =>
    cases input with
    | nil => cases run; simp
    | cons head tail => cases run
  | succ fuel ih =>
    cases input with
    | nil => cases run; simp
    | cons head tail =>
      simp only [many,bind,Option.bind_eq_some_iff] at run
      obtain ⟨⟨unit,rest⟩,first,others,later,same⟩ := run
      cases same
      intro u member
      rcases List.mem_cons.mp member with rfl | inside
      · exact each _ _ _ first
      · exact ih rest others later u inside

theorem runes_of_whole (units : List Bytes)
    (whole : ∀ unit ∈ units, unit ≠ [] ∧ runeSize unit = unit.length) : runes units.flatten = units := by
  have run := many_flatMap runeStep id id units
    (fun unit member rest => by
      have size := runeSize_append unit rest (whole unit member).1 (whole unit member).2
      have positive := List.length_pos_iff.mpr (whole unit member).1
      simp only [runeStep,id,size,Nat.max_eq_right positive,List.take_left,List.drop_left])
    (fun unit member => (whole unit member).1)
  simp only [List.flatMap_id,List.map_id] at run
  rw [runes,run,Option.getD_some]

/-- Whatever characters a literal holds, the string it denotes is valid UTF-8. -/
theorem unquote_valid (chars text : Bytes) (read : unquote chars = some text) : validString text = true := by
  simp only [unquote,Option.map_eq_some_iff] at read
  obtain ⟨units,run,rfl⟩ := read
  have whole := many_forall unquoteStep _ unquoteStep_whole chars.length chars units run
  rw [validString,runes_of_whole units whole,List.all_eq_true]
  intro unit member
  obtain ⟨nonempty,size⟩ := whole unit member
  simpa [size] using nonempty

end Kmtproto.Json
