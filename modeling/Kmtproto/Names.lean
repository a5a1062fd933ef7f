import Kmtproto.State
import Kmtproto.Json.Utf8

/-! The grammar of names. A namespace or a capability name is a first segment that starts
with a letter and further segments, each behind one separator; the validators accept
these texts and no others, and no index of theirs is out of range. -/
namespace Kmtproto
open Json

def isNameChar (ch : UInt8) : Bool := isLowerLetter ch || isDigit ch

abbrev Part := UInt8 × Bytes

def Part.Valid (part : Part) : Prop :=
  isSeparator part.1 = true ∧ part.2 ≠ [] ∧ ∀ ch ∈ part.2, isNameChar ch = true

def joined (parts : List Part) : Bytes := parts.flatMap (fun part => part.1::part.2)

structure Spells (first : Bytes) (parts : List Part) (name : Bytes) : Prop where
  text : name = first ++ joined parts
  letter : first.head?.any isLowerLetter = true
  run : ∀ ch ∈ first, isNameChar ch = true
  parts : ∀ part ∈ parts, part.Valid

def segments (first : Bytes) (parts : List Part) : List Bytes := first::parts.map Prod.snd

/-- A `v` and one or more digits. -/
def Versioned (segment : Bytes) : Prop := ∃ digits, segment = 0x76::digits ∧ digits ≠ [] ∧ ∀ ch ∈ digits, isDigit ch = true

section Scanner

private theorem isSeparator_not_nameChar {ch : UInt8} (separates : isSeparator ch = true) : isNameChar ch = false := by
  simp only [isSeparator,Bool.or_eq_true,beq_iff_eq] at separates
  rcases separates with rfl | rfl <;> decide

private theorem wellSeparated_run (separator : Bool) {run rest : Bytes} (plain : ∀ ch ∈ run, isNameChar ch = true)
    (behind : separator = true → run ≠ []) (after : wellSeparated false rest = true) :
    wellSeparated separator (run++rest) = true := by
  induction run generalizing separator with
  | nil =>
    cases separator with
    | false => exact after
    | true => exact absurd rfl (behind rfl)
  | cons ch run ih =>
    have named : (isLowerLetter ch || isDigit ch) = true := plain ch (by simp)
    rw [List.cons_append,wellSeparated,if_pos named]
    exact ih false (fun c member => plain c (by simp [member])) nofun

private theorem wellSeparated_joined {parts : List Part} (each : ∀ part ∈ parts, part.Valid) :
    wellSeparated false (joined parts) = true := by
  induction parts with
  | nil => rfl
  | cons part parts ih =>
    obtain ⟨separates,nonempty,plain⟩ := each part (by simp)
    have rest := ih (fun other member => each other (by simp [member]))
    have other : ¬ (isLowerLetter part.1 || isDigit part.1) = true := by
      have unnamed := isSeparator_not_nameChar separates
      simpa [isNameChar] using unnamed
    change wellSeparated false (part.1::(part.2++joined parts)) = true
    rw [wellSeparated,if_neg other,if_pos separates]
    exact wellSeparated_run true plain (fun _ => nonempty) rest

private theorem wellSeparated_sound {separator : Bool} {text : Bytes} (accepted : wellSeparated separator text = true) :
    ∃ run parts, text = run ++ joined parts ∧ (∀ ch ∈ run, isNameChar ch = true) ∧ (separator = true → run ≠ []) ∧
      ∀ part ∈ parts, part.Valid := by
  induction text generalizing separator with
  | nil =>
    refine ⟨[],[],rfl,by simp,?_,by simp⟩
    intro set
    rw [set] at accepted
    cases accepted
  | cons ch text ih =>
    rw [wellSeparated] at accepted
    split at accepted
    · rename_i named
      obtain ⟨run,parts,rfl,plain,_,each⟩ := ih accepted
      refine ⟨ch::run,parts,rfl,?_,by simp,each⟩
      simpa using ⟨named,plain⟩
    split at accepted
    · rename_i separates
      obtain ⟨closed,rest⟩ := (Bool.and_eq_true _ _).mp accepted
      obtain ⟨run,parts,rfl,plain,nonempty,each⟩ := ih rest
      refine ⟨[],(ch,run)::parts,rfl,by simp,by simpa using closed,?_⟩
      exact List.forall_mem_cons.mpr ⟨⟨separates,nonempty rfl,plain⟩,each⟩
    · cases accepted

private theorem scanned_iff (name : Bytes) :
    (name.head?.any isLowerLetter && wellSeparated false name.tail) = true ↔ ∃ first parts, Spells first parts name := by
  rw [Bool.and_eq_true]
  constructor
  · rintro ⟨letter,rest⟩
    cases name with
    | nil => cases letter
    | cons ch tail =>
      obtain ⟨run,parts,rfl,plain,_,each⟩ := wellSeparated_sound rest
      refine ⟨ch::run,parts,rfl,letter,List.forall_mem_cons.mpr ⟨?_,plain⟩,each⟩
      have lower : isLowerLetter ch = true := letter
      rw [isNameChar,lower,Bool.true_or]
  · rintro ⟨first,parts,rfl,letter,plain,each⟩
    cases first with
    | nil => cases letter
    | cons ch run =>
      refine ⟨letter,?_⟩
      exact wellSeparated_run false (fun c member => plain c (by simp [member])) nofun (wellSeparated_joined each)

private theorem isNameChar_ascii {ch : UInt8} (named : isNameChar ch = true) : ch < 0x80 := by
  grind [isNameChar,isLowerLetter,isDigit]

theorem Spells.valid {first name : Bytes} {parts : List Part} (spells : Spells first parts name) : validString name = true := by
  apply validString_ascii
  intro ch member
  rw [spells.text,List.mem_append] at member
  rcases member with early | late
  · exact isNameChar_ascii (spells.run ch early)
  · obtain ⟨part,found,inside⟩ := List.mem_flatMap.mp late
    obtain ⟨separates,_,plain⟩ := spells.parts part found
    rcases List.mem_cons.mp inside with rfl | inside
    · grind [isSeparator]
    · exact isNameChar_ascii (plain ch inside)

theorem Spells.nonempty {first name : Bytes} {parts : List Part} (spells : Spells first parts name) : name ≠ [] := by
  rintro rfl
  have empty : first = [] := (List.append_eq_nil_iff.mp spells.text.symm).1
  have letter := spells.letter
  rw [empty] at letter
  cases letter

end Scanner

section Segments
variable {first name : Bytes} {parts : List Part}

private theorem not_separator {ch : UInt8} (named : isNameChar ch = true) : isSeparator ch = false := by
  by_contra separates
  rw [Bool.not_eq_false] at separates
  rw [isSeparator_not_nameChar separates] at named
  cases named

private theorem lastSegment_append (front : Bytes) {ch : UInt8} (separates : isSeparator ch = true) {last : Bytes}
    (plain : ∀ c ∈ last, isNameChar c = true) : lastSegment (front++ch::last) = last := by
  have kept : ∀ c ∈ last.reverse, (!isSeparator c) = true := fun c member => by
    rw [not_separator (plain c (List.mem_reverse.mp member)),Bool.not_false]
  rw [lastSegment,List.reverse_append,List.reverse_cons,List.append_assoc,List.takeWhile_append_of_pos kept,
    List.singleton_append,List.takeWhile_cons_of_neg (by simp [separates]),List.append_nil,List.reverse_reverse]

private theorem lastSegment_run {run : Bytes} (plain : ∀ c ∈ run, isNameChar c = true) : lastSegment run = run := by
  have kept : ∀ c ∈ run.reverse, (!isSeparator c) = true := fun c member => by
    rw [not_separator (plain c (List.mem_reverse.mp member)),Bool.not_false]
  rw [lastSegment,List.takeWhile_eq_self_iff.mpr kept,List.reverse_reverse]

theorem Spells.lastSegment (spells : Spells first parts name) :
    (segments first parts).getLast? = some (Kmtproto.lastSegment name) := by
  obtain ⟨rfl,_,run,each⟩ := spells
  rcases List.eq_nil_or_concat parts with rfl | ⟨front,part,rfl⟩
  · rw [joined,List.flatMap_nil,List.append_nil,lastSegment_run run]
    rfl
  · obtain ⟨separates,_,plain⟩ := each part (by simp)
    have text : first ++ joined (front.concat part) = (first ++ joined front) ++ part.1::part.2 := by
      simp [joined]
    rw [text,lastSegment_append _ separates plain,segments,List.concat_eq_append,List.map_append,List.map_cons,List.map_nil,
      ← List.cons_append,List.getLast?_concat]

/-- `strings.FieldsFunc` behind the characters of a field. -/
def fieldsFunc (separates : UInt8 → Bool) : Bytes → Bytes → List Bytes
  | field, [] => if field.isEmpty then [] else [field]
  | field, ch::rest =>
    if separates ch then
      if field.isEmpty then fieldsFunc separates [] rest else field::fieldsFunc separates [] rest
    else fieldsFunc separates (field++[ch]) rest

private theorem fieldsFunc_run (field : Bytes) {run : Bytes} (plain : ∀ c ∈ run, isNameChar c = true) (rest : Bytes) :
    fieldsFunc isSeparator field (run++rest) = fieldsFunc isSeparator (field++run) rest := by
  induction run generalizing field with
  | nil => rw [List.nil_append,List.append_nil]
  | cons ch run ih =>
    have kept : ¬ isSeparator ch = true := by simp [not_separator (plain ch (by simp))]
    rw [List.cons_append,fieldsFunc,if_neg kept,ih _ (fun c member => plain c (by simp [member])),List.append_assoc]
    rfl

private theorem fieldsFunc_joined {field : Bytes} (nonempty : field ≠ []) {parts : List Part}
    (each : ∀ part ∈ parts, part.Valid) : fieldsFunc isSeparator field (joined parts) = field::parts.map Prod.snd := by
  have filled {field : Bytes} (nonempty : field ≠ []) : ¬ field.isEmpty = true := by simpa using nonempty
  induction parts generalizing field with
  | nil =>
    change (if field.isEmpty then [] else [field]) = _
    rw [if_neg (filled nonempty)]
    rfl
  | cons part parts ih =>
    obtain ⟨separates,inside,plain⟩ := each part (by simp)
    change fieldsFunc isSeparator field (part.1::(part.2++joined parts)) = _
    rw [fieldsFunc,if_pos separates,if_neg (filled nonempty),fieldsFunc_run [] plain,List.nil_append,
      ih inside (fun other member => each other (by simp [member]))]
    rfl

/-- The fields of a spelled name are its segments. -/
theorem Spells.fields (spells : Spells first parts name) : fieldsFunc isSeparator [] name = segments first parts := by
  have nonempty : first ≠ [] := by
    intro empty
    have letter := spells.letter
    rw [empty] at letter
    cases letter
  rw [spells.text,fieldsFunc_run [] spells.run,List.nil_append,fieldsFunc_joined nonempty spells.parts]
  rfl

end Segments

section Indices

/-- The loop over the characters of a name from an index on, none when an index is out of
range; otherwise whether every character and the end were accepted. -/
def scanName (name : Bytes) : Nat → Nat → Bool → Option Bool
  | 0, _, separator => some (!separator)
  | remaining+1, i, separator => do
    let ch ← name[i]?
    if isLowerLetter ch || isDigit ch then scanName name remaining (i+1) false
    else if isSeparator ch then
      if separator then some false else scanName name remaining (i+1) true
    else some false

/-- `validateCapabilityName` with its index expressions; none where one would panic. -/
def validateCapabilityNameIndexed (name : Bytes) (limits : Limits) : Option (Except Err Unit) :=
  if name.isEmpty || (name.length : Int) > limits.maxCapabilityNameLength || !validString name then
    some (fail .invalidCapability (lit "invalid or oversized capability name"))
  else do
    let initial ← name[0]?
    if !isLowerLetter initial then some (fail .invalidCapability (lit "invalid capability name: " ++ name))
    else
      let accepted ← scanName name (name.length-1) 1 false
      if !accepted then some (fail .invalidCapability (lit "invalid capability name: " ++ name))
      else
        let fields := fieldsFunc isSeparator [] name
        if fields.isEmpty then none
        else
          let last ← fields[fields.length-1]?
          if last.length > 1 then
            let mark ← last[0]?
            if mark == 0x76 && allASCIIDigits (last.drop 1) then
              some (fail .invalidCapability (lit "capability version must use the numeric version field"))
            else some (.ok ())
          else some (.ok ())

private theorem scanName_eq (before rest : Bytes) (separator : Bool) :
    scanName (before++rest) rest.length before.length separator = some (wellSeparated separator rest) := by
  induction rest generalizing before separator with
  | nil => rfl
  | cons ch rest ih =>
    have here : (before++ch::rest)[before.length]? = some ch := by simp
    have later (flag : Bool) : scanName (before++ch::rest) rest.length (before.length+1) flag = some (wellSeparated flag rest) := by
      have step := ih (before++[ch]) flag
      rwa [List.append_assoc,List.length_append] at step
    rw [List.length_cons,scanName,here,wellSeparated]
    simp only [bind,Option.bind_some,later]
    split
    · rfl
    split
    · cases separator <;> rfl
    · rfl

private theorem versionCheck (last : Bytes) {refused : Except Err Unit} :
    (if last.length > 1 then (last[0]?).bind (fun mark =>
        if mark == 0x76 && allASCIIDigits (last.drop 1) then some refused else some (.ok ()))
      else some (.ok ())) =
      some (match last with
        | 0x76::digits => if allASCIIDigits digits then refused else .ok ()
        | _ => .ok ()) := by
  generalize verdict : (match last with
    | 0x76::digits => if allASCIIDigits digits then refused else .ok ()
    | _ => .ok ()) = result
  split at verdict
  · rename_i digits
    subst verdict
    cases digits with
    | nil => rfl
    | cons digit digits =>
      rw [if_pos (by simp)]
      change (if allASCIIDigits (digit::digits) = true then some refused else some (.ok ())) = _
      split <;> rfl
  · rename_i other
    subst verdict
    cases last with
    | nil => rfl
    | cons mark rest =>
      have unmarked : ¬ (mark == 0x76 && allASCIIDigits rest) = true := by
        intro both
        rw [Bool.and_eq_true,beq_iff_eq] at both
        exact other rest (by rw [both.1])
      split
      · exact if_neg unmarked
      · rfl

private theorem indexed_eq (name : Bytes) (limits : Limits) :
    validateCapabilityNameIndexed name limits = some (validateCapabilityName name limits) := by
  unfold validateCapabilityNameIndexed validateCapabilityName
  split
  · rfl
  rename_i passed
  cases name with
  | nil => simp at passed
  | cons initial tail =>
    have scanned : scanName (initial::tail) ((initial::tail).length-1) 1 false = some (wellSeparated false tail) :=
      scanName_eq [initial] tail false
    have grammar := scanned_iff (initial::tail)
    rw [List.head?_cons,Option.any_some,List.tail_cons] at grammar ⊢
    rw [List.getElem?_cons_zero]
    simp only [bind,Option.bind_some,scanned]
    cases letter : isLowerLetter initial with
    | false => rfl
    | true =>
      cases separated : wellSeparated false tail with
      | false => rfl
      | true =>
        obtain ⟨first,parts,spells⟩ := grammar.mp (by rw [letter,separated]; rfl)
        have last := spells.lastSegment
        rw [← spells.fields,List.getLast?_eq_getElem?] at last
        have fields : ¬ (fieldsFunc isSeparator [] (initial::tail)).isEmpty = true := by
          rw [spells.fields]
          exact Bool.false_ne_true
        simp only [Bool.not_true,Bool.false_eq_true,if_false,Bool.and_self,if_neg fields,last,Option.bind_some]
        exact versionCheck (lastSegment (initial::tail))

end Indices

section Grammar

private theorem version_iff (last : Bytes) {code : ErrorCode} {text : Bytes} :
    (match last with
      | 0x76::digits => if allASCIIDigits digits then fail code text else .ok ()
      | _ => .ok () : Except Err Unit) = .ok () ↔ ¬ Versioned last := by
  split
  · rename_i digits
    have marked : Versioned (0x76::digits) ↔ allASCIIDigits digits = true := by
      rw [allASCIIDigits,Bool.and_eq_true,List.all_eq_true]
      constructor
      · rintro ⟨_,same,nonempty,each⟩
        obtain rfl := (List.cons.inj same).2
        exact ⟨by simpa using nonempty,each⟩
      · rintro ⟨nonempty,each⟩
        exact ⟨digits,rfl,by simpa using nonempty,each⟩
    rw [marked]
    split
    · rename_i digital
      exact ⟨nofun,fun plain => absurd digital plain⟩
    · rename_i plain
      exact ⟨fun _ => plain,fun _ => rfl⟩
  · rename_i other
    refine ⟨fun _ => ?_,fun _ => rfl⟩
    rintro ⟨digits,same,_⟩
    exact other digits same

private theorem passed_iff {name : Bytes} {maxLength : Int} :
    (¬ (name.isEmpty || decide ((name.length : Int) > maxLength) || !validString name) = true ∧
        (name.head?.any isLowerLetter && wellSeparated false name.tail) = true) ↔
      name ≠ [] ∧ (name.length : Int) ≤ maxLength ∧ ∃ first parts, Spells first parts name := by
  rw [scanned_iff]
  constructor
  · rintro ⟨passed,spelled⟩
    simp only [Bool.or_eq_true,List.isEmpty_iff,decide_eq_true_eq,not_or,not_lt] at passed
    exact ⟨passed.1.1,passed.1.2,spelled⟩
  · rintro ⟨nonempty,bounded,first,parts,spells⟩
    refine ⟨?_,first,parts,spells⟩
    simp [nonempty,bounded,spells.valid]

private theorem namespace_iff (name : Bytes) (maxLength : Int) :
    validateStateNamespace name maxLength = .ok () ↔
      name ≠ [] ∧ (name.length : Int) ≤ maxLength ∧ ∃ first parts, Spells first parts name := by
  rw [← passed_iff,validateStateNamespace]
  split
  · rename_i refused
    exact ⟨nofun,fun passed => absurd refused passed.1⟩
  · rename_i passed
    cases scanned : (name.head?.any isLowerLetter && wellSeparated false name.tail) with
    | false => exact ⟨nofun,nofun⟩
    | true => exact ⟨fun _ => ⟨passed,rfl⟩,fun _ => rfl⟩

private theorem capability_iff (name : Bytes) (limits : Limits) :
    validateCapabilityName name limits = .ok () ↔
      name ≠ [] ∧ (name.length : Int) ≤ limits.maxCapabilityNameLength ∧
        ∃ first parts, Spells first parts name ∧ ∃ last, (segments first parts).getLast? = some last ∧ ¬ Versioned last := by
  have spelled : (∃ first parts, Spells first parts name ∧
      ∃ last, (segments first parts).getLast? = some last ∧ ¬ Versioned last) ↔
      (∃ first parts, Spells first parts name) ∧ ¬ Versioned (lastSegment name) := by
    constructor
    · rintro ⟨first,parts,spells,last,final,plain⟩
      rw [spells.lastSegment,Option.some.injEq] at final
      exact ⟨⟨first,parts,spells⟩,final ▸ plain⟩
    · rintro ⟨⟨first,parts,spells⟩,plain⟩
      exact ⟨first,parts,spells,_,spells.lastSegment,plain⟩
  rw [spelled,← and_assoc,← and_assoc,and_assoc (b := (name.length : Int) ≤ _),← passed_iff,validateCapabilityName]
  split
  · rename_i refused
    exact ⟨nofun,fun passed => absurd refused passed.1.1⟩
  · rename_i passed
    cases scanned : (name.head?.any isLowerLetter && wellSeparated false name.tail) with
    | false => exact ⟨nofun,nofun⟩
    | true =>
      change (match lastSegment name with
        | 0x76::digits => if allASCIIDigits digits then fail .invalidCapability _ else .ok ()
        | _ => .ok () : Except Err Unit) = .ok () ↔ _
      rw [version_iff]
      exact ⟨fun plain => ⟨⟨passed,rfl⟩,plain⟩,And.right⟩

/-- The validators accept the names of the grammar within their bound, a capability name
only without a version at its end, and no index they use is out of range. -/
theorem names_exact :
    (∀ (name : Bytes) (maxLength : Int), validateStateNamespace name maxLength = .ok () ↔
      name ≠ [] ∧ (name.length : Int) ≤ maxLength ∧ ∃ first parts, Spells first parts name) ∧
    (∀ (name : Bytes) (limits : Limits), validateCapabilityName name limits = .ok () ↔
      name ≠ [] ∧ (name.length : Int) ≤ limits.maxCapabilityNameLength ∧
        ∃ first parts, Spells first parts name ∧ ∃ last, (segments first parts).getLast? = some last ∧ ¬ Versioned last) ∧
    ∀ (name : Bytes) (limits : Limits),
      validateCapabilityNameIndexed name limits = some (validateCapabilityName name limits) :=
  ⟨namespace_iff,capability_iff,indexed_eq⟩

example : validateCapabilityNameIndexed (lit "state.sync-v2x") defaultLimits = some (.ok ()) := by decide

end Grammar

end Kmtproto
