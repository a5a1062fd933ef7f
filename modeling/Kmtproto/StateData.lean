import Kmtproto.Decimal
import Kmtproto.Json.Spelling
import Kmtproto.State

/-! Equality of State data. A number literal denotes a rational number, the
normalized form of a literal is canonical, and comparing decoded values is an
equivalence that sees an object as the map from its names to its values. -/
namespace Kmtproto
open Json

def digitValue (c : UInt8) : ℕ := c.toNat - 0x30

inductive FractionDigits : Bytes → Bytes → Prop
  | absent : FractionDigits [] []
  | present (digits : Bytes) (spelled : Digits digits) : FractionDigits (0x2E::digits) digits

inductive ExponentValue : Bytes → ℤ → Prop
  | absent : ExponentValue [] 0
  | positive (e : UInt8) (sign digits : Bytes) (letter : e = 0x65 ∨ e = 0x45) (signed : sign = [] ∨ sign = [0x2B])
      (spelled : Digits digits) : ExponentValue (e::(sign++digits)) (Decimal.value digitValue digits)
  | negative (e : UInt8) (digits : Bytes) (letter : e = 0x65 ∨ e = 0x45) (spelled : Digits digits) :
      ExponentValue (e::0x2D::digits) (-(Decimal.value digitValue digits))

def magnitude (integer digits : Bytes) (scale : ℤ) : ℚ :=
  (Decimal.value digitValue integer + Decimal.value digitValue digits / 10^digits.length) * 10^scale

/-- The rational number a literal denotes. -/
inductive Denotes : Bytes → ℚ → Prop
  | positive (integer fraction exponent digits : Bytes) (scale : ℤ) (whole : Integer integer)
      (part : FractionDigits fraction digits) (scaled : ExponentValue exponent scale) :
      Denotes (integer++fraction++exponent) (magnitude integer digits scale)
  | negative (integer fraction exponent digits : Bytes) (scale : ℤ) (whole : Integer integer)
      (part : FractionDigits fraction digits) (scaled : ExponentValue exponent scale) :
      Denotes (0x2D::(integer++fraction++exponent)) (-magnitude integer digits scale)

private theorem fraction_digits {fraction : Bytes} (part : Fraction fraction) : ∃ digits, FractionDigits fraction digits := by
  cases part with
  | absent => exact ⟨[],.absent⟩
  | present digits spelled => exact ⟨digits,.present digits spelled⟩

private theorem exponent_value {exponent : Bytes} (scale : Exponent exponent) : ∃ value, ExponentValue exponent value := by
  cases scale with
  | absent => exact ⟨0,.absent⟩
  | present e sign digits letter signed spelled =>
    rcases signed with rfl | rfl | rfl
    · exact ⟨_,.positive e [] digits letter (by simp) spelled⟩
    · exact ⟨_,.positive e [0x2B] digits letter (by simp) spelled⟩
    · exact ⟨_,.negative e digits letter spelled⟩

theorem number_denotes {text : Bytes} (number : Number text) : ∃ value, Denotes text value := by
  obtain ⟨sign,integer,fraction,exponent,signed,whole,part,scale⟩ := number
  obtain ⟨digits,part⟩ := fraction_digits part
  obtain ⟨value,scale⟩ := exponent_value scale
  rcases signed with rfl | rfl
  · exact ⟨_,.positive integer fraction exponent digits value whole part scale⟩
  · exact ⟨_,.negative integer fraction exponent digits value whole part scale⟩

namespace NormalizedStateJSONNumber

def value (number : NormalizedStateJSONNumber) : ℚ :=
  (if number.negative then -1 else 1) * (Decimal.value digitValue number.coefficient * 10^number.exponent)

inductive Canonical : NormalizedStateJSONNumber → Prop
  | zero : Canonical {coefficient := lit "0", exponent := 0}
  | scaled (negative : Bool) (coefficient : Bytes) (exponent : ℤ) (first last : UInt8)
      (digit : ∀ c ∈ coefficient, isDigit c = true) (head : coefficient.head? = some first) (nonzero : first ≠ 0x30)
      (final : coefficient.getLast? = some last) (kept : last ≠ 0x30) :
      Canonical {negative := negative, coefficient := coefficient, exponent := exponent}

end NormalizedStateJSONNumber

private theorem digit_range {c : UInt8} (digit : isDigit c = true) : 0x30 ≤ c.toNat ∧ c.toNat ≤ 0x39 := by
  simp only [isDigit,Bool.and_eq_true,decide_eq_true_eq,UInt8.le_iff_toNat_le] at digit
  exact digit

private theorem digitValue_small {c : UInt8} (digit : isDigit c = true) : digitValue c < 10 := by
  have range := digit_range digit
  unfold digitValue
  omega

private theorem digitValue_inj {c d : UInt8} (left : isDigit c = true) (right : isDigit d = true)
    (same : digitValue c = digitValue d) : c = d := by
  have rangeC := digit_range left
  have rangeD := digit_range right
  unfold digitValue at same
  exact UInt8.toNat_inj.mp (by omega)

private theorem digitValue_ne_zero {c : UInt8} (digit : isDigit c = true) (other : c ≠ 0x30) : digitValue c ≠ 0 := by
  intro zero
  exact other (digitValue_inj digit (by decide) (zero.trans (by decide)))

private theorem texts_eq {left right : Bytes} (digitLeft : ∀ c ∈ left, isDigit c = true)
    (digitRight : ∀ c ∈ right, isDigit c = true) (same : left.map digitValue = right.map digitValue) : left = right := by
  induction left generalizing right with
  | nil => exact (List.map_eq_nil_iff.mp same.symm).symm
  | cons c left ih =>
    cases right with
    | nil => cases same
    | cons d right =>
      simp only [List.map_cons,List.cons.injEq] at same
      rw [digitValue_inj (digitLeft c (by simp)) (digitRight d (by simp)) same.1,
        ih (fun x member => digitLeft x (by simp [member])) (fun x member => digitRight x (by simp [member])) same.2]

private theorem head_nonzero {text : Bytes} {first : UInt8} (digit : ∀ c ∈ text, isDigit c = true)
    (head : text.head? = some first) (nonzero : first ≠ 0x30) (c : UInt8) (found : text.head? = some c) :
    digitValue c ≠ 0 := by
  cases Option.some.inj (found.symm.trans head)
  exact digitValue_ne_zero (digit _ (List.mem_of_mem_head? head)) nonzero

private theorem coefficient_pos {text : Bytes} {first : UInt8} (digit : ∀ c ∈ text, isDigit c = true)
    (head : text.head? = some first) (nonzero : first ≠ 0x30) : (0 : ℚ) < Decimal.value digitValue text := by
  exact_mod_cast Decimal.value_pos digitValue text first head (head_nonzero digit head nonzero first head)

namespace NormalizedStateJSONNumber

private theorem value_zero : ({coefficient := lit "0", exponent := 0} : NormalizedStateJSONNumber).value = 0 := by
  have zero : Decimal.value digitValue (lit "0") = 0 := by decide
  simp [value,zero]

private theorem value_sign (number : NormalizedStateJSONNumber)
    (positive : (0 : ℚ) < Decimal.value digitValue number.coefficient) :
    (number.negative = true → number.value < 0) ∧ (number.negative = false → 0 < number.value) := by
  have product : (0 : ℚ) < Decimal.value digitValue number.coefficient * 10^number.exponent :=
    mul_pos positive (zpow_pos (by norm_num) _)
  constructor <;> intro sign <;> simp only [value,sign] <;> simpa using product

/-- A value has one canonical form. -/
theorem Canonical.unique {left right : NormalizedStateJSONNumber} (first : left.Canonical) (second : right.Canonical)
    (same : left.value = right.value) : left = right := by
  cases first with
  | zero =>
    cases second with
    | zero => rfl
    | scaled negative coefficient exponent head last digit found nonzero =>
      have sign := value_sign ⟨negative,coefficient,exponent⟩ (coefficient_pos digit found nonzero)
      rw [← same,value_zero] at sign
      cases negative <;> simp at sign
  | scaled negative coefficient exponent head last digit found nonzero final kept =>
    have sign := value_sign ⟨negative,coefficient,exponent⟩ (coefficient_pos digit found nonzero)
    cases second with
    | zero =>
      rw [same,value_zero] at sign
      cases negative <;> simp at sign
    | scaled negative' coefficient' exponent' head' last' digit' found' nonzero' final' kept' =>
      have sign' := value_sign ⟨negative',coefficient',exponent'⟩ (coefficient_pos digit' found' nonzero')
      have signs : negative = negative' := by
        rw [same] at sign
        cases negative <;> cases negative' <;> simp only [reduceCtorEq,false_implies,true_implies] at sign sign' ⊢ <;> linarith
      subst signs
      have scaled : (Decimal.value digitValue coefficient : ℚ) * 10^exponent =
          Decimal.value digitValue coefficient' * 10^exponent' := by
        cases negative <;> simpa [value] using same
      have whole (text : Bytes) (each : ∀ c ∈ text, isDigit c = true) (c : UInt8) (ends : text.getLast? = some c)
          (other : c ≠ 0x30) : ¬ 10 ∣ Decimal.value digitValue text :=
        Decimal.not_dvd_value digitValue text (fun d member => digitValue_small (each d member)) c ends
          (digitValue_ne_zero (each c (List.mem_of_mem_getLast? ends)) other)
      obtain ⟨digits,rfl⟩ := Decimal.scaled_unique (whole coefficient digit last final kept)
        (whole coefficient' digit' last' final' kept') scaled
      have texts := Decimal.value_inj digitValue coefficient coefficient'
        (fun c member => digitValue_small (digit c member)) (fun c member => digitValue_small (digit' c member))
        (head_nonzero digit found nonzero) (head_nonzero digit' found' nonzero') digits
      rw [texts_eq digit digit' texts]

end NormalizedStateJSONNumber

section Literal
variable {integer fraction exponent digits : Bytes} {scale : ℤ} (whole : Integer integer)
  (part : FractionDigits fraction digits) (scaled : ExponentValue exponent scale)

private theorem digit_other {c : UInt8} (digit : isDigit c = true) :
    c ≠ 0x2D ∧ c ≠ 0x2E ∧ isExponentMark c = false ∧ c ≠ 0x2B := by
  refine ⟨?_,?_,?_,?_⟩
  · rintro rfl; revert digit; decide
  · rintro rfl; revert digit; decide
  · cases mark : isExponentMark c with
    | false => rfl
    | true =>
      simp only [isExponentMark,Bool.or_eq_true,beq_iff_eq] at mark
      rcases mark with rfl | rfl <;> revert digit <;> decide
  · rintro rfl; revert digit; decide

private theorem parseDecimal_digits {text : Bytes} (spelled : Digits text) :
    parseDecimal text = some (Decimal.value digitValue text) := by
  rw [parseDecimal,if_neg]
  · rfl
  · rintro (empty | other)
    · exact spelled.nonempty (by simpa using empty)
    · obtain ⟨c,found,bad⟩ := List.any_eq_true.mp other
      simp [spelled.digit c found] at bad

private theorem parseSigned_digits {text : Bytes} (spelled : Digits text) :
    parseSigned text = some (Decimal.value digitValue text : ℤ) := by
  cases text with
  | nil => exact absurd rfl spelled.nonempty
  | cons c text =>
    have other := digit_other (spelled.digit c (by simp))
    unfold parseSigned
    split
    · rename_i same
      cases same
      exact absurd rfl other.1
    · rename_i same
      cases same
      exact absurd rfl other.2.2.2
    · rw [parseDecimal_digits spelled]
      rfl

include scaled in
private theorem parseSigned_exponent :
    parseSigned (if exponent.isEmpty then lit "0" else exponent.drop 1) = some scale := by
  cases scaled with
  | absent => decide
  | positive e sign text letter signed spelled =>
    rcases signed with rfl | rfl
    · exact parseSigned_digits spelled
    · simp only [List.isEmpty_cons,List.drop_succ_cons,List.drop_zero,List.cons_append,List.nil_append]
      simp [parseSigned,parseDecimal_digits spelled]
  | negative e text letter spelled =>
    simp [parseSigned,parseDecimal_digits spelled]

include part in
private theorem part_unmarked : ∀ c ∈ fraction, isExponentMark c = false := by
  cases part with
  | absent => simp
  | present _ spelled =>
    intro c member
    rcases List.mem_cons.mp member with rfl | later
    · decide
    · exact (digit_other (spelled.digit c later)).2.2.1

include whole part in
private theorem mantissa_unmarked : ∀ c ∈ integer++fraction, (!isExponentMark c) = true := by
  intro c member
  rcases List.mem_append.mp member with early | late
  · rw [(digit_other (whole.digit c early)).2.2.1]
    rfl
  · rw [part_unmarked part c late]
    rfl

include scaled in
private theorem exponent_head : exponent.takeWhile (fun c => !isExponentMark c) = [] ∧
    exponent.dropWhile (fun c => !isExponentMark c) = exponent ∧ exponent.any isExponentMark = !exponent.isEmpty := by
  cases scaled with
  | absent => simp
  | positive e sign text letter | negative e text letter => rcases letter with rfl | rfl <;> simp [isExponentMark]

include whole part in
private theorem mantissa_split :
    ((integer++fraction).dropWhile (fun c => c != 0x2E)).drop 1 = digits ∧
      (integer++fraction).filter (fun c => c != 0x2E) = integer++digits := by
  have plain (text : Bytes) (each : ∀ c ∈ text, isDigit c = true) : ∀ c ∈ text, (c != 0x2E) = true :=
    fun c member => bne_iff_ne.mpr (digit_other (each c member)).2.1
  have left := plain integer whole.digit
  rw [List.dropWhile_append_of_pos left,List.filter_append,List.filter_eq_self.mpr left]
  cases part with
  | absent => simp
  | present digits spelled =>
    have right := List.filter_eq_self.mpr (plain digits spelled.digit)
    simp [right]

include part in
private theorem part_digit : ∀ c ∈ digits, isDigit c = true := by
  cases part with
  | absent => simp
  | present _ spelled => exact spelled.digit

private def zeroByte (c : UInt8) : Bool := c == 0x30

private theorem zeroByte_value (c : UInt8) (zero : zeroByte c = true) : digitValue c = 0 := by
  rw [beq_iff_eq.mp zero]
  rfl

private def trimmed (negative : Bool) (text : Bytes) (exponent : ℤ) : NormalizedStateJSONNumber :=
  if (text.dropWhile zeroByte).isEmpty then {coefficient := lit "0", exponent := 0}
  else {negative := negative, coefficient := (text.dropWhile zeroByte).rdropWhile zeroByte,
        exponent := exponent + ((text.dropWhile zeroByte).rtakeWhile zeroByte).length}

private theorem take_rdropWhile (zero : UInt8 → Bool) (text : Bytes) :
    text.take (text.length - (text.reverse.takeWhile zero).length) = text.rdropWhile zero := by
  have split : text.rdropWhile zero ++ text.rtakeWhile zero = text := List.rdropWhile_append_rtakeWhile
  have cut : (text.reverse.takeWhile zero).length = (text.rtakeWhile zero).length := by
    rw [List.rtakeWhile,List.length_reverse]
  have size := congrArg List.length split
  rw [List.length_append] at size
  rw [cut]
  conv_lhs => rw [← split]
  rw [List.take_append_of_le_length (by rw [split]; omega)]
  exact List.take_of_length_le (by rw [split]; omega)

include whole part scaled in
private theorem normalize_trimmed (negative : Bool) :
    normalizeStateJSONNumber ((if negative then [0x2D] else []) ++ (integer++fraction++exponent)) =
      some (trimmed negative (integer++digits) (scale - digits.length)) := by
  have unmarked := mantissa_unmarked whole part
  obtain ⟨stops,all,drops⟩ := exponent_head scaled
  have mantissa := mantissa_split whole part
  have signed : ((((if negative then [0x2D] else []) ++ (integer++fraction++exponent)).head? == some 0x2D) = negative) ∧
      (if negative then ((if negative then [0x2D] else []) ++ (integer++fraction++exponent)).drop 1
        else (if negative then [0x2D] else []) ++ (integer++fraction++exponent)) = integer++fraction++exponent := by
    cases negative with
    | true => simp
    | false =>
      cases integer with
      | nil => exact absurd rfl whole.nonempty
      | cons c integer =>
        have other := (digit_other (whole.digit c (by simp))).1
        simp [other]
  have marked : (integer++fraction++exponent).any isExponentMark = !exponent.isEmpty := by
    rw [List.any_append,drops,List.any_eq_false.mpr (fun c member => by simpa using unmarked c member),Bool.false_or]
  have exponentText : (if (integer++fraction++exponent).any isExponentMark then
      ((integer++fraction++exponent).dropWhile (fun c => !isExponentMark c)).drop 1 else lit "0") =
      if exponent.isEmpty then lit "0" else exponent.drop 1 := by
    rw [marked,List.dropWhile_append_of_pos unmarked,all]
    cases exponent.isEmpty <;> rfl
  unfold normalizeStateJSONNumber
  simp only [signed.1,signed.2,exponentText,parseSigned_exponent scaled]
  rw [List.takeWhile_append_of_pos unmarked,stops,List.append_nil,mantissa.1,mantissa.2]
  simp only [bind,Option.bind,trimmed,← zeroByte.eq_1]
  split
  · rfl
  · rw [take_rdropWhile]
    simp only [List.rtakeWhile,List.length_reverse]

private theorem trimmed_value (negative : Bool) (text : Bytes) (shift : ℤ) :
    (trimmed negative text shift).value = (if negative then -1 else 1) * (Decimal.value digitValue text * 10^shift) := by
  have front := Decimal.value_dropWhile digitValue zeroByte zeroByte_value text
  unfold trimmed
  split
  · rename_i empty
    rw [List.isEmpty_iff.mp empty] at front
    rw [NormalizedStateJSONNumber.value_zero,← front]
    simp [Decimal.value]
  · have back := Decimal.value_rdropWhile digitValue zeroByte zeroByte_value (text.dropWhile zeroByte)
    rw [front] at back
    rw [NormalizedStateJSONNumber.value,zpow_add₀ (by norm_num),zpow_natCast,back]
    push_cast
    ring

private theorem trimmed_canonical (negative : Bool) (text : Bytes) (shift : ℤ) (digit : ∀ c ∈ text, isDigit c = true) :
    (trimmed negative text shift).Canonical := by
  unfold trimmed
  split
  · exact .zero
  · rename_i nonzero
    have kept : text.dropWhile zeroByte ≠ [] := by simpa using nonzero
    have head := List.head_dropWhile_not zeroByte kept
    generalize found : text.dropWhile zeroByte = front at kept head
    have digits : ∀ c ∈ front, isDigit c = true :=
      fun c member => digit c ((List.dropWhile_suffix zeroByte).subset (found ▸ member))
    have start : (front.rdropWhile zeroByte).head? = some (front.head kept) := by
      obtain ⟨back,split⟩ := List.rdropWhile_prefix zeroByte front
      cases trim : front.rdropWhile zeroByte with
      | nil =>
        rw [List.rdropWhile_eq_nil_iff] at trim
        exact absurd (trim _ (List.head_mem kept)) (by simp [head])
      | cons c rest =>
        rw [trim] at split
        simp only [← split,List.cons_append,List.head_cons,List.head?_cons]
    have nonempty : front.rdropWhile zeroByte ≠ [] := fun empty => by rw [empty] at start; cases start
    refine .scaled negative _ _ _ _ (fun c member => digits c ((List.rdropWhile_prefix zeroByte front).subset member))
      start ?_ (List.getLast?_eq_getLast_of_ne_nil nonempty) ?_
    · intro zero
      rw [zero] at head
      cases head
    · intro zero
      have last := List.rdropWhile_last_not zeroByte front nonempty
      rw [zero] at last
      exact last rfl

private theorem magnitude_eq : magnitude integer digits scale =
    Decimal.value digitValue (integer++digits) * 10^(scale - digits.length) := by
  have base : (10 : ℚ)^digits.length ≠ 0 := pow_ne_zero _ (by norm_num)
  rw [magnitude,Decimal.value_append,zpow_sub₀ (by norm_num),zpow_natCast]
  push_cast
  field_simp

end Literal

/-- Normalizing a literal succeeds with the canonical form of the number it denotes. -/
theorem normalize_denotes {text : Bytes} {value : ℚ} (denotes : Denotes text value) :
    ∃ number, normalizeStateJSONNumber text = some number ∧ number.Canonical ∧ number.value = value := by
  cases denotes with
  | positive integer fraction exponent digits scale whole part scaled =>
    refine ⟨_,normalize_trimmed whole part scaled false,trimmed_canonical _ _ _ ?_,?_⟩
    · exact fun c member => (List.mem_append.mp member).elim (whole.digit c) (part_digit part c)
    · rw [trimmed_value,magnitude_eq]
      simp
  | negative integer fraction exponent digits scale whole part scaled =>
    refine ⟨_,normalize_trimmed whole part scaled true,trimmed_canonical _ _ _ ?_,?_⟩
    · exact fun c member => (List.mem_append.mp member).elim (whole.digit c) (part_digit part c)
    · rw [trimmed_value,magnitude_eq]
      simp

theorem Denotes.unique {text : Bytes} {left right : ℚ} (first : Denotes text left) (second : Denotes text right) :
    left = right := by
  obtain ⟨number,normal,_,rfl⟩ := normalize_denotes first
  obtain ⟨other,again,_,rfl⟩ := normalize_denotes second
  rw [Option.some.inj (normal.symm.trans again)]

/-- Two literals have the same normal form exactly when they denote the same number. -/
theorem normalize_eq_iff {left right : Bytes} {x y : ℚ} (first : Denotes left x) (second : Denotes right y) :
    normalizeStateJSONNumber left = normalizeStateJSONNumber right ↔ x = y := by
  obtain ⟨number,normal,canonical,rfl⟩ := normalize_denotes first
  obtain ⟨other,again,canonical',rfl⟩ := normalize_denotes second
  rw [normal,again,Option.some.injEq]
  exact ⟨fun same => same ▸ rfl,canonical.unique canonical'⟩

/-- A value as decoding builds it: numbers spelled by the grammar, one value for each name. -/
inductive DecodedValue : Value → Prop
  | null : DecodedValue .null
  | bool (value : Bool) : DecodedValue (.bool value)
  | number (text : Bytes) (literal : Number text) : DecodedValue (.number text)
  | text (value : Bytes) : DecodedValue (.text value)
  | array (items : List Value) (each : ∀ item ∈ items, DecodedValue item) : DecodedValue (.array items)
  | object (members : List (Bytes × Value)) (distinct : (members.map Prod.fst).Nodup)
      (each : ∀ entry ∈ members, DecodedValue entry.2) : DecodedValue (.object members)

private theorem putMember_decoded {members : List (Bytes × Value)} (name : Bytes) {value : Value}
    (distinct : (members.map Prod.fst).Nodup) (each : ∀ entry ∈ members, DecodedValue entry.2)
    (well : DecodedValue value) : ((putMember members name value).map Prod.fst).Nodup ∧
      ∀ entry ∈ putMember members name value, DecodedValue entry.2 := by
  constructor
  · rw [putMember,List.map_append,List.nodup_append]
    refine ⟨distinct.sublist (List.filter_sublist.map _),by simp,?_⟩
    intro key found other last
    obtain ⟨entry,member,rfl⟩ := List.mem_map.mp found
    have kept := (List.mem_filter.mp member).2
    rw [List.mem_singleton.mp last]
    exact bne_iff_ne.mp kept
  · intro entry found
    rcases List.mem_append.mp found with early | last
    · exact each entry (List.mem_of_mem_filter early)
    · rw [List.mem_singleton.mp last]
      exact well

private theorem scalarValue_decoded {node : Node} {value : Value} (plain : Plain node)
    (decoded : scalarValue node = some value) : DecodedValue value := by
  cases plain with
  | null => cases decoded; exact .null
  | bool flag => cases decoded; exact .bool flag
  | num text number => cases decoded; exact .number text number
  | str chars passes =>
    obtain ⟨text,_,rfl⟩ := Option.map_eq_some_iff.mp decoded
    exact .text text

private theorem members_decoded {read : Bytes → Option Value}
    (sound : ∀ text value, read text = some value → DecodedValue value) (entries : List (Bytes × Bytes))
    (found result : List (Bytes × Value)) (distinct : (found.map Prod.fst).Nodup)
    (each : ∀ entry ∈ found, DecodedValue entry.2)
    (folded : entries.foldlM (fun (found : List (Bytes × Value)) (entry : Bytes × Bytes) => do
      let name ← unquote entry.1
      let value ← read entry.2
      some (putMember found name value)) found = some result) :
    (result.map Prod.fst).Nodup ∧ ∀ entry ∈ result, DecodedValue entry.2 := by
  induction entries generalizing found with
  | nil =>
    cases folded
    exact ⟨distinct,each⟩
  | cons entry entries ih =>
    obtain ⟨next,step,later⟩ := Option.bind_eq_some_iff.mp folded
    obtain ⟨name,_,step⟩ := Option.bind_eq_some_iff.mp step
    obtain ⟨value,decoded,step⟩ := Option.bind_eq_some_iff.mp step
    cases step
    have put := putMember_decoded name distinct each (sound _ _ decoded)
    exact ih _ put.1 put.2 later

private theorem valueAt_decoded (depth : Nat) (text : Bytes) (value : Value) (decoded : valueAt depth text = some value) :
    DecodedValue value := by
  induction depth generalizing text value with
  | zero =>
    obtain ⟨node,viewed,read⟩ := Option.bind_eq_some_iff.mp decoded
    cases viewAt_shaped 0 text node viewed with
    | plain _ shape => exact scalarValue_decoded shape read
    | arr | obj => cases read
  | succ depth ih =>
    obtain ⟨node,viewed,read⟩ := Option.bind_eq_some_iff.mp decoded
    cases viewAt_shaped (depth+1) text node viewed with
    | plain _ shape =>
      refine scalarValue_decoded shape ?_
      cases shape <;> exact read
    | arr children =>
      obtain ⟨items,mapped,rfl⟩ := Option.map_eq_some_iff.mp read
      refine .array items (fun item member => ?_)
      obtain ⟨child,_,found⟩ := mapM_member _ _ _ mapped item member
      exact ih child item found
    | obj members =>
      obtain ⟨found,folded,rfl⟩ := Option.map_eq_some_iff.mp read
      have built := members_decoded ih members [] found (by simp) (by simp) folded
      exact .object found built.1 built.2

theorem decodeValue_decoded {text : Bytes} {value : Value} (decoded : decodeValue text = some value) :
    DecodedValue value := valueAt_decoded maxNestingDepth text value decoded

def memberOf (members : List (Bytes × Value)) (name : Bytes) : Option Value :=
  (members.find? (fun entry => entry.1 == name)).map Prod.snd

section Members
variable {members : List (Bytes × Value)} {name : Bytes} {value : Value}

private theorem memberOf_mem (found : memberOf members name = some value) : (name,value) ∈ members := by
  obtain ⟨⟨key,item⟩,held,rfl⟩ := Option.map_eq_some_iff.mp found
  have same : key = name := by simpa using List.find?_some held
  exact same ▸ List.mem_of_find?_eq_some held

private theorem mem_memberOf (distinct : (members.map Prod.fst).Nodup) (found : (name,value) ∈ members) :
    memberOf members name = some value := by
  induction members with
  | nil => cases found
  | cons entry members ih =>
    obtain ⟨fresh,later⟩ := List.nodup_cons.mp distinct
    rcases List.mem_cons.mp found with rfl | member
    · simp [memberOf]
    · have other : entry.1 ≠ name := by
        rintro rfl
        exact fresh (List.mem_map.mpr ⟨_,member,rfl⟩)
      have rest := ih later member
      simpa [memberOf,List.find?_cons,beq_eq_false_iff_ne.mpr other] using rest

private theorem memberOf_isSome : (memberOf members name).isSome ↔ name ∈ members.map Prod.fst := by
  simp only [memberOf,Option.isSome_map,List.find?_isSome,beq_iff_eq,List.mem_map]

end Members

private theorem equalItems_iff (left right : List Value) :
    equalItems left right = true ↔ List.Forall₂ (fun a b => equalStateJSONValue a b = true) left right := by
  induction left generalizing right with
  | nil => cases right <;> simp [equalItems]
  | cons a left ih =>
    cases right with
    | nil => simp [equalItems]
    | cons b right => simp [equalItems,ih]

private theorem equalMembers_iff (left right : List (Bytes × Value)) :
    equalMembers left right = true ↔
      ∀ entry ∈ left, ∃ value, memberOf right entry.1 = some value ∧ equalStateJSONValue entry.2 value = true := by
  induction left with
  | nil => simp [equalMembers]
  | cons entry left ih =>
    obtain ⟨key,item⟩ := entry
    rw [equalMembers]
    cases found : right.find? (fun entry => entry.1 == key) with
    | none => simp [memberOf,found]
    | some other =>
      have held : memberOf right key = some other.2 := by rw [memberOf,found]; rfl
      simp only [Bool.and_eq_true,ih,List.forall_mem_cons,held,Option.some.injEq,exists_eq_left']

private theorem equalObject_iff {left right : List (Bytes × Value)} (distinct : (left.map Prod.fst).Nodup)
    (distinct' : (right.map Prod.fst).Nodup) :
    equalStateJSONValue (.object left) (.object right) = true ↔
      ∀ name, Option.Rel (fun a b => equalStateJSONValue a b = true) (memberOf left name) (memberOf right name) := by
  rw [equalStateJSONValue,Bool.and_eq_true,beq_iff_eq,equalMembers_iff]
  constructor
  · rintro ⟨size,each⟩ name
    have names : left.map Prod.fst ⊆ right.map Prod.fst := by
      intro key found
      obtain ⟨entry,member,rfl⟩ := List.mem_map.mp found
      obtain ⟨value,held,_⟩ := each entry member
      exact memberOf_isSome.mp (by rw [held]; rfl)
    -- as many names on both sides, so the inclusion is an equality
    have all : (left.map Prod.fst).Perm (right.map Prod.fst) :=
      (List.subperm_of_subset distinct names).perm_of_length_le (by simp [size])
    cases first : memberOf left name with
    | none =>
      have absent : memberOf right name = none := by
        rw [← Option.not_isSome_iff_eq_none,memberOf_isSome,← all.mem_iff,← memberOf_isSome,first]
        simp
      rw [absent]
      exact .none
    | some value =>
      obtain ⟨other,held,equal⟩ := each _ (memberOf_mem first)
      rw [held]
      exact .some equal
  · intro each
    have names (name : Bytes) : name ∈ left.map Prod.fst ↔ name ∈ right.map Prod.fst := by
      rw [← memberOf_isSome,← memberOf_isSome]
      have related := each name
      generalize memberOf left name = first,memberOf right name = second at related ⊢
      cases related <;> simp
    refine ⟨?_,fun entry member => ?_⟩
    · have same : (left.map Prod.fst).Perm (right.map Prod.fst) := (List.perm_ext_iff_of_nodup distinct distinct').mpr names
      simpa using same.length_eq
    · have related := each entry.1
      rw [mem_memberOf distinct member] at related
      generalize memberOf right entry.1 = second at related ⊢
      cases related with
      | some equal => exact ⟨_,rfl,equal⟩

private theorem equalNumber_iff {left right : Bytes} (first : Number left) (second : Number right) :
    equalStateJSONValue (.number left) (.number right) = true ↔
      normalizeStateJSONNumber left = normalizeStateJSONNumber right := by
  obtain ⟨x,denotes⟩ := number_denotes first
  obtain ⟨y,denotes'⟩ := number_denotes second
  obtain ⟨number,normal,_⟩ := normalize_denotes denotes
  obtain ⟨other,again,_⟩ := normalize_denotes denotes'
  rw [equalStateJSONValue,normal,again]
  simp

theorem equalStateJSONValue_refl {value : Value} (decoded : DecodedValue value) :
    equalStateJSONValue value value = true := by
  induction decoded with
  | null => rfl
  | bool flag => simp [equalStateJSONValue]
  | number text literal => exact (equalNumber_iff literal literal).mpr rfl
  | text value => simp [equalStateJSONValue]
  | array items _ ih =>
    rw [equalStateJSONValue,equalItems_iff]
    exact List.forall₂_same.mpr ih
  | object members distinct _ ih =>
    refine (equalObject_iff distinct distinct).mpr (fun name => ?_)
    cases found : memberOf members name with
    | none => exact .none
    | some value => exact .some (ih _ (memberOf_mem found))

section Euclidean
variable {R : Value → Value → Prop}

private theorem forall₂_euclidean {left middle right : List Value} (first : List.Forall₂ R left middle)
    (second : List.Forall₂ R left right)
    (carry : ∀ a ∈ left, ∀ b ∈ middle, ∀ c ∈ right, R a b → R a c → R b c) : List.Forall₂ R middle right := by
  induction first generalizing right with
  | nil => cases second; exact .nil
  | cons head _ ih =>
    cases second with
    | cons head' second =>
      refine .cons (carry _ (by simp) _ (by simp) _ (by simp) head head') (ih second ?_)
      exact fun a inA b inB c inC => carry a (by simp [inA]) b (by simp [inB]) c (by simp [inC])

private theorem rel_euclidean {first second third : Option Value} (left : Option.Rel R first second)
    (right : Option.Rel R first third)
    (carry : ∀ a ∈ first, ∀ b ∈ second, ∀ c ∈ third, R a b → R a c → R b c) : Option.Rel R second third := by
  cases left with
  | none => cases right; exact .none
  | some held =>
    cases right with
    | some held' => exact .some (carry _ rfl _ rfl _ rfl held held')

end Euclidean

/-- Two values equal to a third are equal; with reflexivity this gives both other laws. -/
private theorem equalStateJSONValue_euclidean {left middle right : Value} (first : DecodedValue left)
    (second : DecodedValue middle) (third : DecodedValue right) (equal : equalStateJSONValue left middle = true)
    (equal' : equalStateJSONValue left right = true) : equalStateJSONValue middle right = true := by
  induction first generalizing middle right with
  | null | bool | text => cases second <;> cases third <;> simp_all [equalStateJSONValue]
  | number text literal =>
    cases second with
    | number other literal' =>
      cases third with
      | number last literal'' =>
        rw [equalNumber_iff literal literal'] at equal
        rw [equalNumber_iff literal literal''] at equal'
        exact (equalNumber_iff literal' literal'').mpr (equal.symm.trans equal')
      | _ => simp [equalStateJSONValue] at equal'
    | _ => simp [equalStateJSONValue] at equal
  | array items _ ih =>
    cases second with
    | array others each =>
      cases third with
      | array lasts each' =>
        rw [equalStateJSONValue,equalItems_iff] at equal equal' ⊢
        exact forall₂_euclidean equal equal' (fun a inA b inB c inC => ih a inA (each b inB) (each' c inC))
      | _ => simp [equalStateJSONValue] at equal'
    | _ => simp [equalStateJSONValue] at equal
  | object members distinct _ ih =>
    cases second with
    | object others distinct' each =>
      cases third with
      | object lasts distinct'' each' =>
        rw [equalObject_iff distinct distinct'] at equal
        rw [equalObject_iff distinct distinct''] at equal'
        refine (equalObject_iff distinct' distinct'').mpr (fun name => ?_)
        refine rel_euclidean (equal name) (equal' name) (fun a inA b inB c inC => ?_)
        exact ih _ (memberOf_mem inA) (each _ (memberOf_mem inB)) (each' _ (memberOf_mem inC))
      | _ => simp [equalStateJSONValue] at equal'
    | _ => simp [equalStateJSONValue] at equal

theorem equalStateJSONValue_symm {left right : Value} (first : DecodedValue left) (second : DecodedValue right)
    (equal : equalStateJSONValue left right = true) : equalStateJSONValue right left = true :=
  equalStateJSONValue_euclidean first second first equal (equalStateJSONValue_refl first)

theorem equalStateJSONValue_trans {left middle right : Value} (first : DecodedValue left)
    (second : DecodedValue middle) (third : DecodedValue right) (equal : equalStateJSONValue left middle = true)
    (equal' : equalStateJSONValue middle right = true) : equalStateJSONValue left right = true :=
  equalStateJSONValue_euclidean second first third (equalStateJSONValue_symm first second equal) equal'

private theorem decoded_members {members : List (Bytes × Value)} (decoded : DecodedValue (.object members)) :
    (members.map Prod.fst).Nodup := by
  cases decoded with
  | object _ distinct => exact distinct

private theorem denotes_number {text : Bytes} {value : ℚ} (denotes : Denotes text value) : Number text := by
  have fraction' {fraction digits : Bytes} (part : FractionDigits fraction digits) : Fraction fraction := by
    cases part with
    | absent => exact .absent
    | present _ spelled => exact .present _ spelled
  have exponent' {exponent : Bytes} {scale : ℤ} (scaled : ExponentValue exponent scale) : Exponent exponent := by
    cases scaled with
    | absent => exact .absent
    | positive e sign digits letter signed spelled =>
      exact .present e sign digits letter (signed.imp_right Or.inl) spelled
    | negative e digits letter spelled => exact .present e [0x2D] digits letter (by simp) spelled
  cases denotes with
  | positive integer fraction exponent digits scale whole part scaled =>
    exact .mk [] integer fraction exponent (by simp) whole (fraction' part) (exponent' scaled)
  | negative integer fraction exponent digits scale whole part scaled =>
    exact .mk [0x2D] integer fraction exponent (by simp) whole (fraction' part) (exponent' scaled)

/-- Semantic equality of decoded data: an equivalence that compares numbers by the
rationals they denote, arrays item by item and objects name by name. -/
theorem equalStateJSONValue_exact :
    (∀ text value, decodeValue text = some value → DecodedValue value) ∧
    Equivalence (fun left right : {value : Value // DecodedValue value} =>
      equalStateJSONValue left.1 right.1 = true) ∧
    (∀ text, Number text → (normalizeStateJSONNumber text).isSome ∧ ∃! value, Denotes text value) ∧
    (∀ left right x y, Denotes left x → Denotes right y →
      (normalizeStateJSONNumber left = normalizeStateJSONNumber right ↔ x = y) ∧
      (equalStateJSONValue (.number left) (.number right) = true ↔ x = y)) ∧
    normalizeStateJSONNumber (lit "-0") = normalizeStateJSONNumber (lit "0") ∧
    (∀ left right, equalStateJSONValue (.array left) (.array right) = true ↔
      List.Forall₂ (fun a b => equalStateJSONValue a b = true) left right) ∧
    ∀ left right, DecodedValue (.object left) → DecodedValue (.object right) →
      (equalStateJSONValue (.object left) (.object right) = true ↔
        ∀ name, Option.Rel (fun a b => equalStateJSONValue a b = true) (memberOf left name) (memberOf right name)) := by
  refine ⟨fun _ _ => decodeValue_decoded,⟨?_,?_,?_⟩,?_,?_,by decide,?_,?_⟩
  · exact fun value => equalStateJSONValue_refl value.2
  · exact fun {left right} equal => equalStateJSONValue_symm left.2 right.2 equal
  · exact fun {left middle right} equal equal' => equalStateJSONValue_trans left.2 middle.2 right.2 equal equal'
  · intro text number
    obtain ⟨value,denotes⟩ := number_denotes number
    obtain ⟨normal,normalized,_⟩ := normalize_denotes denotes
    exact ⟨by rw [normalized]; rfl,value,denotes,fun other again => again.unique denotes⟩
  · intro left right x y first second
    have normal := normalize_eq_iff first second
    exact ⟨normal,(equalNumber_iff (denotes_number first) (denotes_number second)).trans normal⟩
  · intro left right
    rw [equalStateJSONValue,equalItems_iff]
  · exact fun left right first second => equalObject_iff (decoded_members first) (decoded_members second)

/-- `1.50e1` and `15` denote the same number and are equal as data. -/
theorem equalStateJSONValue_exact_fifteen :
    ∃ x, Denotes (lit "1.50e1") x ∧ Denotes (lit "15") x ∧
      equalStateJSONValue (.number (lit "1.50e1")) (.number (lit "15")) = true := by
  have digits (text : Bytes) (nonempty : text ≠ []) (all : text.all isDigit = true) : Digits text :=
    ⟨nonempty,List.all_eq_true.mp all⟩
  have first : Denotes (lit "1.50e1") (magnitude (lit "1") (lit "50") 1) :=
    .positive (lit "1") (lit ".50") (lit "e1") (lit "50") 1
      ⟨by decide,List.all_eq_true.mp (by decide),by decide⟩
      (.present (lit "50") (digits _ (by decide) (by decide)))
      (.positive 0x65 [] (lit "1") (by decide) (by decide) (digits _ (by decide) (by decide)))
  have second : Denotes (lit "15") (magnitude (lit "15") [] 0) :=
    .positive (lit "15") [] [] [] 0 ⟨by decide,List.all_eq_true.mp (by decide),by decide⟩ .absent .absent
  have same : magnitude (lit "1") (lit "50") 1 = magnitude (lit "15") [] 0 := by decide +kernel
  exact ⟨_,first,same ▸ second,((equalStateJSONValue_exact.2.2.2.1 _ _ _ _ first second).2).mpr same⟩

end Kmtproto
