import Kmtproto.Json.Syntax

/-! Encoded texts read back. Whatever follows a value, as long as it is space or
a structural byte, the parser stops exactly at the value's end; the lemmas build
this up from literals and numbers to arrays and objects. -/
namespace Kmtproto.Json

/-- What may follow a value: nothing, space, a comma or a closing bracket. -/
def Delimited (rest : Bytes) : Prop :=
  ∀ c, rest.head? = some c → isSpace c = true ∨ c = 0x2C ∨ c = 0x5D ∨ c = 0x7D

/-- A text that parses to a node whatever value boundary follows it. -/
def Reads (depth : Nat) (text : Bytes) (node : Node) : Prop :=
  ∀ rest, Delimited rest → parseValue depth (text++rest) = some (node,rest)

theorem delimited_nil : Delimited [] := by
  intro c found
  cases found

theorem delimited_cons (c : UInt8) (rest : Bytes)
    (structural : isSpace c = true ∨ c = 0x2C ∨ c = 0x5D ∨ c = 0x7D) : Delimited (c::rest) := by
  intro d found
  cases found
  exact structural

/-- Position after a text inside a literal, none when the literal ends or breaks in it. -/
def walk : StringState → Bytes → Option StringState
  | state, [] => some state
  | state, c::rest => if state = .plain ∧ c = 0x22 then none else (state.next c).bind (walk · rest)

/-- Text that leaves the scanner between characters of a literal. -/
def Passes (text : Bytes) : Prop := walk .plain text = some .plain

theorem walk_append (state : StringState) (first second : Bytes) :
    walk state (first++second) = (walk state first).bind (walk · second) := by
  induction first generalizing state with
  | nil => rfl
  | cons c first ih =>
    simp only [List.cons_append,walk]
    split
    · rfl
    · cases state.next c with
      | none => rfl
      | some next => exact ih next

theorem scanChars_walk (state middle : StringState) (text rest : Bytes)
    (walked : walk state text = some middle) :
    scanChars state (text++rest) = (scanChars middle rest).map (fun pair => (text++pair.1,pair.2)) := by
  induction text generalizing state with
  | nil =>
    simp only [walk,Option.some.injEq] at walked
    simp [walked]
  | cons c text ih =>
    simp only [walk] at walked
    split at walked
    · cases walked
    · rename_i inside
      obtain ⟨next,moved,later⟩ := Option.bind_eq_some_iff.mp walked
      rw [List.cons_append,scanChars,if_neg inside]
      simp only [moved,bind,Option.bind]
      rw [ih next later]
      cases scanChars middle rest <;> rfl

/-- A scanned literal consists of characters that pass, then its closing quote. -/
theorem walk_scanChars (state : StringState) (input chars rest : Bytes)
    (scanned : scanChars state input = some (chars,rest)) :
    walk state chars = some .plain ∧ input = chars ++ 0x22::rest := by
  induction input generalizing state chars with
  | nil => simp [scanChars] at scanned
  | cons c input ih =>
    rw [scanChars] at scanned
    split at scanned
    · rename_i closing
      obtain ⟨rfl,rfl⟩ := closing
      simp only [Option.some.injEq,Prod.mk.injEq] at scanned
      obtain ⟨rfl,rfl⟩ := scanned
      exact ⟨rfl,rfl⟩
    · rename_i inside
      simp only [bind,Option.bind_eq_some_iff] at scanned
      obtain ⟨next,moved,⟨others,after⟩,found,same⟩ := scanned
      simp only [Option.some.injEq,Prod.mk.injEq] at same
      obtain ⟨rfl,rfl⟩ := same
      obtain ⟨walked,joined⟩ := ih next others found
      refine ⟨?_,by rw [joined]; rfl⟩
      rw [walk,if_neg inside,moved]
      exact walked

theorem passes_nil : Passes [] := rfl

theorem passes_append (first second : Bytes) (one : Passes first) (two : Passes second) :
    Passes (first++second) := by
  unfold Passes at *
  rw [walk_append,one]
  exact two

theorem walk_byte (state next : StringState) (c : UInt8) (inside : ¬ (state = .plain ∧ c = 0x22))
    (moves : state.next c = some next) : walk state [c] = some next := by
  rw [walk,if_neg inside,moves]
  rfl

theorem next_plain (c : UInt8) (printable : ¬ c < 0x20) (slash : c ≠ 0x5C) :
    StringState.plain.next c = some .plain := by
  simp [StringState.next,printable,slash]

theorem passes_byte (c : UInt8) (printable : ¬ c < 0x20) (mark : c ≠ 0x22) (slash : c ≠ 0x5C) : Passes [c] :=
  walk_byte .plain .plain c (by simp [mark]) (next_plain c printable slash)

theorem passes_bytes (text : Bytes) (high : ∀ c ∈ text, 0x80 ≤ c) : Passes text := by
  induction text with
  | nil => exact passes_nil
  | cons c text ih =>
    have head := high c (by simp)
    exact passes_append [c] text (passes_byte c (by grind) (by grind) (by grind))
      (ih (fun d member => high d (by simp [member])))

theorem passes_escape (c : UInt8) (simple : c ∈ [0x22,0x5C,0x2F,0x62,0x66,0x6E,0x72,0x74]) :
    Passes [0x5C,c] := by
  have other : c ≠ 0x75 := by
    rintro rfl
    simp at simple
  have slash : walk .plain [0x5C] = some .escape := by decide
  have moved : walk .escape [c] = some .plain :=
    walk_byte .escape .plain c (by simp) (by simp only [StringState.next,if_neg other,if_pos simple])
  rw [Passes,show [0x5C,c] = [0x5C]++[c] from rfl,walk_append,slash]
  exact moved

theorem next_hex (more : Nat) (c : UInt8) (hex : (hexValue c).isSome) :
    (StringState.hex more).next c = some (match more with | 0 => .plain | more+1 => .hex more) := by
  have present : (hexValue c).isNone = false := by simpa using hex
  cases more <;> simp only [StringState.next,present,Bool.false_eq_true,if_false]

theorem passes_unicode (a b c d : UInt8) (hexA : (hexValue a).isSome) (hexB : (hexValue b).isSome)
    (hexC : (hexValue c).isSome) (hexD : (hexValue d).isSome) : Passes [0x5C,0x75,a,b,c,d] := by
  have start : StringState.plain.next 0x5C = some .escape := by decide
  have unicode : StringState.escape.next 0x75 = some (.hex 3) := by decide
  simp [Passes,walk,start,unicode,next_hex,hexA,hexB,hexC,hexD]

theorem hexDigit_isHex (n : UInt8) (small : n < 16) : (hexValue (hexDigit n)).isSome := by
  have table : ∀ k < 16, (hexValue (hexDigit (UInt8.ofNat k))).isSome := by decide
  simpa using table n.toNat small

private theorem isTail_high (b : UInt8) (tail : isTail b = true) : 0x80 ≤ b := by grind [isTail]

private theorem isSecond_high (a b : UInt8) (second : isSecond a b = true) : 0x80 ≤ b := by
  grind [isSecond,isTail]

/-- Every byte of a rune of two or more bytes is outside ASCII. -/
theorem rune_high (rune : Bytes) (long : 2 ≤ rune.length) (whole : runeSize rune = rune.length) :
    ∀ c ∈ rune, 0x80 ≤ c := by
  match rune with
  | [] => simp at long
  | [a] => simp at long
  | [a,b] =>
    have parts : 0x80 ≤ a ∧ isTail b = true := by simp only [runeSize] at whole; grind
    simp [parts.1,isTail_high b parts.2]
  | [a,b,c] =>
    have parts : 0x80 ≤ a ∧ isSecond a b = true ∧ isTail c = true := by simp only [runeSize] at whole; grind
    simp [parts.1,isSecond_high a b parts.2.1,isTail_high c parts.2.2]
  | [a,b,c,d] =>
    have parts : 0x80 ≤ a ∧ isSecond a b = true ∧ isTail c = true ∧ isTail d = true := by
      simp only [runeSize] at whole; grind
    simp [parts.1,isSecond_high a b parts.2.1,isTail_high c parts.2.2.1,isTail_high d parts.2.2.2]
  | a::b::c::d::e::tail =>
    have bound := (runeSize_le (a::b::c::d::e::tail)).1
    simp only [List.length_cons] at whole
    omega

theorem passes_quoteRune (rune : Bytes) (piece : IsRune rune) : Passes (quoteRune rune) := by
  obtain ⟨nonempty,shape⟩ := piece
  match rune with
  | [] => exact absurd rfl nonempty
  | [b] =>
    simp only [quoteRune]
    split
    · rename_i quoted; exact passes_escape b (by rcases quoted with rfl | rfl <;> simp)
    split; · exact passes_escape _ (by simp)
    split; · exact passes_escape _ (by simp)
    split; · exact passes_escape _ (by simp)
    split; · exact passes_escape _ (by simp)
    split; · exact passes_escape _ (by simp)
    split
    · rename_i escaped
      have ascii : b.toNat < 128 := by
        have : b < 0x80 := by grind
        exact this
      exact passes_unicode _ _ _ _ (by decide) (by decide)
        (hexDigit_isHex _ (by rw [UInt8.lt_iff_toNat_lt]; simp; omega))
        (hexDigit_isHex _ (by rw [UInt8.lt_iff_toNat_lt]; simp; omega))
    · split
      · exact passes_byte b (by tauto) (by tauto) (by tauto)
      · exact passes_unicode _ _ _ _ (by decide) (by decide) (by decide) (by decide)
  | a::b::tail =>
    have whole : runeSize (a::b::tail) = (a::b::tail).length := by
      rcases shape with whole | single
      · exact whole
      · simp at single
    simp only [quoteRune]
    split
    · exact passes_unicode _ _ _ _ (by decide) (by decide) (by decide) (by decide)
    split
    · exact passes_unicode _ _ _ _ (by decide) (by decide) (by decide) (by decide)
    · exact passes_bytes _ (rune_high _ (by simp) whole)

private theorem passes_flatMap {α : Type} (units : List α) (encode : α → Bytes)
    (each : ∀ unit ∈ units, Passes (encode unit)) : Passes (units.flatMap encode) := by
  induction units with
  | nil => exact passes_nil
  | cons unit units ih =>
    rw [List.flatMap_cons]
    exact passes_append _ _ (each unit (by simp)) (ih (fun u member => each u (by simp [member])))

theorem passes_quoteChars (input : Bytes) : Passes (quoteChars input) :=
  passes_flatMap _ _ (fun rune member => passes_quoteRune rune (runes_isRune input rune member))

/-- The scanner finds the end of a literal whose characters pass. -/
theorem scanChars_closed (text rest : Bytes) (passes : Passes text) :
    scanChars .plain (text ++ 0x22::rest) = some (text,rest) := by
  rw [scanChars_walk .plain .plain text _ passes]
  simp [scanChars]

theorem scalar_closed (chars rest : Bytes) (passes : Passes chars) :
    scalar (0x22::(chars ++ 0x22::rest)) = some (.str chars,rest) := by
  simp [scalar,scanChars_closed chars rest passes]

theorem parseValue_scalar (depth : Nat) (c : UInt8) (rest : Bytes) (brace : c ≠ 0x7B) (bracket : c ≠ 0x5B) :
    parseValue depth (c::rest) = scalar (c::rest) := by
  cases depth with
  | zero => rfl
  | succ depth =>
    unfold parseValue
    split
    · rename_i same; exact absurd (List.cons.inj same).1 brace
    · rename_i same; exact absurd (List.cons.inj same).1 bracket
    · rfl

theorem reads_chars (depth : Nat) (chars : Bytes) (passes : Passes chars) :
    Reads depth (0x22::(chars++[0x22])) (.str chars) := by
  intro rest _
  rw [List.cons_append,List.append_assoc,List.singleton_append,
    parseValue_scalar depth 0x22 _ (by decide) (by decide)]
  exact scalar_closed chars rest passes

theorem reads_quote (depth : Nat) (input : Bytes) : Reads depth (quote input) (.str (quoteChars input)) :=
  reads_chars depth _ (passes_quoteChars input)

theorem reads_null (depth : Nat) : Reads depth [0x6E,0x75,0x6C,0x6C] .null := by
  intro rest _
  rw [List.cons_append,parseValue_scalar depth 0x6E _ (by decide) (by decide)]
  simp [scalar,word]

def encodeBool (value : Bool) : Bytes :=
  if value then [0x74,0x72,0x75,0x65] else [0x66,0x61,0x6C,0x73,0x65]

theorem reads_bool (depth : Nat) (value : Bool) : Reads depth (encodeBool value) (.bool value) := by
  intro rest _
  cases value
  · simp only [encodeBool,Bool.false_eq_true,if_false,List.cons_append]
    rw [parseValue_scalar depth 0x66 _ (by decide) (by decide)]
    simp [scalar,word]
  · simp only [encodeBool,if_true,List.cons_append]
    rw [parseValue_scalar depth 0x74 _ (by decide) (by decide)]
    simp [scalar,word]

theorem takeWhile_digits (digits rest : Bytes) (all : ∀ c ∈ digits, isDigit c = true)
    (stop : ∀ c, rest.head? = some c → isDigit c = false) :
    (digits++rest).takeWhile isDigit = digits ∧ (digits++rest).dropWhile isDigit = rest := by
  induction digits with
  | nil =>
    cases rest with
    | nil => simp
    | cons c rest =>
      have head := stop c rfl
      simp [head]
  | cons d digits ih =>
    have head := all d (by simp)
    have tail := ih (fun c member => all c (by simp [member]))
    simp [head,tail.1,tail.2]

private theorem delimited_stops (rest : Bytes) (delimited : Delimited rest) (c : UInt8)
    (found : rest.head? = some c) : isDigit c = false ∧ c ≠ 0x2E ∧ c ≠ 0x65 ∧ c ≠ 0x45 := by
  have cases := delimited c found
  simp only [isSpace,Bool.or_eq_true,beq_iff_eq] at cases
  rcases cases with (((rfl | rfl) | rfl) | rfl) | rfl | rfl | rfl <;> decide

structure Integer (digits : Bytes) : Prop where
  nonempty : digits ≠ []
  digit : ∀ c ∈ digits, isDigit c = true
  leading : digits.head? = some 0x30 → digits = [0x30]

structure Digits (digits : Bytes) : Prop where
  nonempty : digits ≠ []
  digit : ∀ c ∈ digits, isDigit c = true

inductive Fraction : Bytes → Prop
  | absent : Fraction []
  | present (digits : Bytes) (spelled : Digits digits) : Fraction (0x2E::digits)

inductive Exponent : Bytes → Prop
  | absent : Exponent []
  | present (e : UInt8) (sign digits : Bytes) (letter : e = 0x65 ∨ e = 0x45)
      (signed : sign = [] ∨ sign = [0x2B] ∨ sign = [0x2D]) (spelled : Digits digits) :
      Exponent (e::(sign++digits))

inductive Number : Bytes → Prop
  | mk (sign integer fraction exponent : Bytes) (signed : sign = [] ∨ sign = [0x2D])
      (whole : Integer integer) (part : Fraction fraction) (scale : Exponent exponent) :
      Number (sign++integer++fraction++exponent)

private def NoDigit (rest : Bytes) : Prop := ∀ c, rest.head? = some c → isDigit c = false

private theorem takeWhile_digit (input : Bytes) : ∀ c ∈ input.takeWhile isDigit, isDigit c = true := by
  induction input with
  | nil => simp
  | cons c input ih =>
    intro d found
    rw [List.takeWhile_cons] at found
    split at found
    · rename_i head
      rcases List.mem_cons.mp found with rfl | later
      · exact head
      · exact ih d later
    · simp at found

private theorem scanInteger_digits (digits rest : Bytes) (integer : Integer digits) (stop : NoDigit rest) :
    scanInteger (digits++rest) = some (digits,rest) := by
  have spans := takeWhile_digits digits rest integer.digit stop
  cases digits with
  | nil => exact absurd rfl integer.nonempty
  | cons d digits =>
    unfold scanInteger
    split
    · rename_i same
      rw [List.cons_append] at same
      obtain ⟨rfl,rfl⟩ := List.cons.inj same
      have single := integer.leading rfl
      rw [List.cons.injEq] at single
      simp [single.2]
    · rw [spans.1,spans.2]
      simp

private theorem scanInteger_shape (input text rest : Bytes) (scanned : scanInteger input = some (text,rest)) :
    Integer text := by
  unfold scanInteger at scanned
  split at scanned
  · cases scanned
    exact ⟨by simp,by simp; decide,fun _ => rfl⟩
  · rename_i other
    split at scanned
    · cases scanned
    · rename_i some
      cases scanned
      refine ⟨by simpa using some,takeWhile_digit input,?_⟩
      intro zero
      exfalso
      cases input with
      | nil => simp at zero
      | cons c input =>
        rw [List.takeWhile_cons] at zero
        split at zero
        · exact other input (by rw [Option.some.inj zero])
        · simp at zero

private theorem scanFraction_part (text rest : Bytes) (part : Fraction text) (stop : NoDigit rest)
    (point : rest.head? ≠ some 0x2E) : scanFraction (text++rest) = some (text,rest) := by
  cases part with
  | absent =>
    unfold scanFraction
    split
    · rename_i same; rw [List.nil_append] at same; simp [same] at point
    · rfl
  | present digits spelled =>
    have spans := takeWhile_digits digits rest spelled.digit stop
    simp [scanFraction,spans.1,spans.2,spelled.nonempty]

private theorem scanFraction_shape (input text rest : Bytes) (scanned : scanFraction input = some (text,rest)) :
    Fraction text := by
  unfold scanFraction at scanned
  split at scanned
  · rename_i digits
    split at scanned
    · cases scanned
    · rename_i some
      cases scanned
      exact .present _ ⟨by simpa using some,takeWhile_digit digits⟩
  · cases scanned
    exact .absent

private theorem scanExponentSign_signed (sign digits rest : Bytes) (spelled : Digits digits)
    (signed : sign = [] ∨ sign = [0x2B] ∨ sign = [0x2D]) :
    scanExponentSign (sign++(digits++rest)) = (sign,digits++rest) := by
  rcases signed with rfl | rfl | rfl
  · cases digits with
    | nil => exact absurd rfl spelled.nonempty
    | cons d digits =>
      have digit := spelled.digit d (by simp)
      have other : ¬ (d = 0x2B ∨ d = 0x2D) := by
        rintro (rfl | rfl) <;> simp [isDigit] at digit
      simp only [List.nil_append,List.cons_append,scanExponentSign,if_neg other]
  · simp [scanExponentSign]
  · simp [scanExponentSign]

private theorem scanExponent_part (text rest : Bytes) (scale : Exponent text) (stop : NoDigit rest)
    (letter : rest.head? ≠ some 0x65 ∧ rest.head? ≠ some 0x45) :
    scanExponent (text++rest) = some (text,rest) := by
  cases scale with
  | absent =>
    cases rest with
    | nil => rfl
    | cons c rest =>
      have other : ¬ (c = 0x65 ∨ c = 0x45) := by simpa using letter
      simp only [List.nil_append,scanExponent,if_neg other]
  | present e sign digits isLetter signed spelled =>
    have spans := takeWhile_digits digits rest spelled.digit stop
    have split := scanExponentSign_signed sign digits rest spelled signed
    simp [scanExponent,isLetter,List.append_assoc,split,spans.1,spans.2,spelled.nonempty]

private theorem scanExponent_shape (input text rest : Bytes) (scanned : scanExponent input = some (text,rest)) :
    Exponent text := by
  cases input with
  | nil => cases scanned; exact .absent
  | cons c input =>
    rw [scanExponent] at scanned
    split at scanned
    · rename_i letter
      have signed : (scanExponentSign input).1 = [] ∨ (scanExponentSign input).1 = [0x2B] ∨
          (scanExponentSign input).1 = [0x2D] := by
        cases input with
        | nil => exact Or.inl rfl
        | cons d input =>
          rw [scanExponentSign]
          split
          · rename_i plus; rcases plus with rfl | rfl <;> simp
          · exact Or.inl rfl
      simp only [] at scanned
      split at scanned
      · cases scanned
      · rename_i some
        cases scanned
        exact .present c _ _ letter signed ⟨by simpa using some,takeWhile_digit _⟩
    · cases scanned
      exact .absent

private theorem scanSign_signed (sign integer rest : Bytes) (whole : Integer integer)
    (signed : sign = [] ∨ sign = [0x2D]) : scanSign (sign++(integer++rest)) = (sign,integer++rest) := by
  rcases signed with rfl | rfl
  · cases integer with
    | nil => exact absurd rfl whole.nonempty
    | cons d digits =>
      have digit := whole.digit d (by simp)
      rw [List.nil_append]
      unfold scanSign
      split
      · rename_i same
        rw [List.cons_append] at same
        rw [(List.cons.inj same).1] at digit
        simp [isDigit] at digit
      · rfl
  · rfl

private theorem exponent_stops (text rest : Bytes) (scale : Exponent text) (delimited : Delimited rest) :
    NoDigit (text++rest) ∧ (text++rest).head? ≠ some 0x2E := by
  cases scale with
  | absent =>
    refine ⟨fun c found => (delimited_stops rest delimited c found).1,fun found => ?_⟩
    exact (delimited_stops rest delimited 0x2E found).2.1 rfl
  | present e sign digits letter _ _ =>
    refine ⟨fun c found => ?_,?_⟩
    · cases found
      rcases letter with rfl | rfl <;> decide
    · rcases letter with rfl | rfl <;> simp

private theorem fraction_stops (text rest : Bytes) (part : Fraction text) (stop : NoDigit rest) :
    NoDigit (text++rest) := by
  cases part with
  | absent => exact stop
  | present digits _ =>
    intro c found
    cases found
    decide

theorem scanNumber_number (text rest : Bytes) (number : Number text) (delimited : Delimited rest) :
    scanNumber (text++rest) = some (text,rest) := by
  obtain ⟨sign,integer,fraction,exponent,signed,whole,part,scale⟩ := number
  have stop : NoDigit rest := fun c found => (delimited_stops rest delimited c found).1
  have afterExponent := scanExponent_part exponent rest scale stop
    ⟨fun found => (delimited_stops rest delimited _ found).2.2.1 rfl,
      fun found => (delimited_stops rest delimited _ found).2.2.2 rfl⟩
  have stops := exponent_stops exponent rest scale delimited
  have afterFraction := scanFraction_part fraction (exponent++rest) part stops.1 stops.2
  have afterInteger := scanInteger_digits integer (fraction++(exponent++rest)) whole
    (fraction_stops fraction _ part stops.1)
  simp only [scanNumber,List.append_assoc,scanSign_signed sign integer _ whole signed,afterInteger,
    afterFraction,afterExponent,bind,Option.bind]

theorem scanNumber_shape (input text rest : Bytes) (scanned : scanNumber input = some (text,rest)) :
    Number text := by
  have signed : (scanSign input).1 = [] ∨ (scanSign input).1 = [0x2D] := by
    unfold scanSign
    split <;> simp
  simp only [scanNumber,bind,Option.bind_eq_some_iff] at scanned
  obtain ⟨⟨integer,_⟩,whole,⟨fraction,_⟩,part,⟨exponent,_⟩,scale,same⟩ := scanned
  cases same
  exact .mk _ _ _ _ signed (scanInteger_shape _ _ _ whole) (scanFraction_shape _ _ _ part)
    (scanExponent_shape _ _ _ scale)

private theorem number_head (text : Bytes) (number : Number text) :
    ∃ c rest, text = c::rest ∧ (isDigit c = true ∨ c = 0x2D) := by
  obtain ⟨sign,integer,fraction,exponent,signed,whole,_,_⟩ := number
  rcases signed with rfl | rfl
  · cases integer with
    | nil => exact absurd rfl whole.nonempty
    | cons d digits => exact ⟨d,_,rfl,Or.inl (whole.digit d (by simp))⟩
  · exact ⟨0x2D,_,rfl,Or.inr rfl⟩

private theorem scalar_number (c : UInt8) (rest : Bytes) (start : isDigit c = true ∨ c = 0x2D) :
    scalar (c::rest) = (scanNumber (c::rest)).map (fun pair => (.num pair.1,pair.2)) ∧
      c ≠ 0x7B ∧ c ≠ 0x5B := by
  have other : c ≠ 0x22 ∧ c ≠ 0x74 ∧ c ≠ 0x66 ∧ c ≠ 0x6E ∧ c ≠ 0x7B ∧ c ≠ 0x5B := by
    rcases start with digit | rfl
    · simp only [isDigit,Bool.and_eq_true,decide_eq_true_eq] at digit
      grind
    · decide
  simp [scalar,other]

theorem reads_number (depth : Nat) (text : Bytes) (number : Number text) : Reads depth text (.num text) := by
  intro rest delimited
  have scanned := scanNumber_number text rest number delimited
  obtain ⟨c,tail,rfl,head⟩ := number_head text number
  have start := scalar_number c (tail++rest) head
  rw [List.cons_append] at scanned ⊢
  rw [parseValue_scalar depth c _ start.2.1 start.2.2,start.1,scanned]
  rfl

theorem reads_integer (depth : Nat) (digits : Bytes) (integer : Integer digits) :
    Reads depth digits (.num digits) := by
  have number := Number.mk [] digits [] [] (by simp) integer .absent .absent
  simp only [List.nil_append,List.append_nil] at number
  exact reads_number depth digits number

theorem reads_negative (depth : Nat) (digits : Bytes) (integer : Integer digits) :
    Reads depth (0x2D::digits) (.num (0x2D::digits)) := by
  have number := Number.mk [0x2D] digits [] [] (by simp) integer .absent .absent
  simp only [List.append_nil,List.singleton_append] at number
  exact reads_number depth _ number

private def digitFold (n : Nat) (c : UInt8) : Nat := n*10 + (c.toNat - 0x30)

private theorem digit_table : ∀ k < 10, isDigit (UInt8.ofNat (0x30 + k)) = true ∧
    (UInt8.ofNat (0x30 + k)).toNat - 0x30 = k ∧ (UInt8.ofNat (0x30 + k) = 0x30 → k = 0) := by decide

private theorem decimalDigits_spec (fuel n : Nat) (enough : n < fuel) (tail : Bytes) :
    ∃ digits, decimalDigits fuel n tail = digits++tail ∧ Integer digits ∧
      digits.foldl digitFold 0 = n := by
  induction fuel generalizing n tail with
  | zero => omega
  | succ fuel ih =>
    unfold decimalDigits
    split
    · rename_i small
      have table := digit_table n small
      refine ⟨[UInt8.ofNat (0x30 + n)],rfl,⟨by simp,by simpa using table.1,?_⟩,?_⟩
      · intro zero
        rw [Option.some.inj zero]
      · simpa [digitFold] using table.2.1
    · rename_i large
      obtain ⟨digits,same,integer,value⟩ := ih (n / 10) (by omega) (UInt8.ofNat (0x30 + n % 10)::tail)
      have table := digit_table (n % 10) (by omega)
      refine ⟨digits++[UInt8.ofNat (0x30 + n % 10)],by rw [same,List.append_assoc]; rfl,⟨by simp,?_,?_⟩,?_⟩
      · intro c found
        rcases List.mem_append.mp found with early | last
        · exact integer.digit c early
        · rw [List.mem_singleton.mp last]
          exact table.1
      · intro zero
        have first : digits.head? = some 0x30 := by
          cases digits with
          | nil => exact absurd rfl integer.nonempty
          | cons d digits => simpa using zero
        have single := integer.leading first
        rw [single] at value
        simp [digitFold] at value
        omega
      · rw [List.foldl_append,value]
        simp only [List.foldl_cons,List.foldl_nil,digitFold,table.2.1]
        omega

theorem decimal_integer (n : Nat) : Integer (decimal n) := by
  obtain ⟨digits,same,integer,_⟩ := decimalDigits_spec (n+1) n (by omega) []
  rw [decimal,same,List.append_nil]
  exact integer

theorem parseDecimal_decimal (n : Nat) : parseDecimal (decimal n) = some n := by
  obtain ⟨digits,same,integer,value⟩ := decimalDigits_spec (n+1) n (by omega) []
  have text : decimal n = digits := by rw [decimal,same,List.append_nil]
  rw [text,parseDecimal,if_neg]
  · exact congrArg some value
  · rintro (empty | other)
    · exact integer.nonempty (by simpa using empty)
    · obtain ⟨c,found,bad⟩ := List.any_eq_true.mp other
      simp [integer.digit c found] at bad

theorem reads_decimal (depth n : Nat) : Reads depth (decimal n) (.num (decimal n)) :=
  reads_integer depth _ (decimal_integer n)

theorem reads_decimalInt (depth : Nat) (n : Int) : Reads depth (decimalInt n) (.num (decimalInt n)) := by
  cases n with
  | ofNat n => exact reads_decimal depth n
  | negSucc n => exact reads_negative depth _ (decimal_integer (n+1))

end Kmtproto.Json
