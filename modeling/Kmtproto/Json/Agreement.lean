import Kmtproto.Json.Nesting

/-! Readers and compaction. A reader agrees with itself on a text and on the compact form of
the text when both give values that are related, or both give none; this is put together
field by field, so that a typed value is the same in both spellings but for the raw texts
in it, which are compacted. -/
namespace Kmtproto.Json

def Spelled (text result : Bytes) : Prop := text = [] ∧ result = [] ∨ compact text = some result

/-- Related values are read from a text and from its compact form. -/
def Agrees {α : Type} (related : α → α → Prop) (read : Reader α) : Prop :=
  ∀ ⦃current spelled : α⦄ ⦃text result : Bytes⦄, related current spelled → compact text = some result →
    Option.Rel related (read current text) (read spelled result)

section Readers
variable {α β : Type} {related : α → α → Prop}

theorem agrees_readText : Agrees Eq readText := by
  rintro current _ text result rfl compacted
  obtain ⟨node,spelled,viewed,seen,respelled⟩ := compact_respelled compacted
  unfold readText
  rw [viewed,seen]
  cases respelled with
  | null => exact .some rfl
  | str chars passes =>
    simp only [unquote_escapeChars chars passes]
    cases unquote chars with
    | none => exact .none
    | some _ => exact .some rfl
  | bool | num | arr | obj => exact .none

theorem agrees_readFlag : Agrees Eq readFlag := by
  rintro current _ text result rfl compacted
  obtain ⟨node,spelled,viewed,seen,respelled⟩ := compact_respelled compacted
  unfold readFlag
  rw [viewed,seen]
  cases respelled with
  | null | bool => exact .some rfl
  | str | num | arr | obj => exact .none

theorem agrees_readNumber (number : Bytes → Option α) : Agrees Eq (readNumber number) := by
  rintro current _ text result rfl compacted
  obtain ⟨node,spelled,viewed,seen,respelled⟩ := compact_respelled compacted
  unfold readNumber
  rw [viewed,seen]
  cases respelled with
  | null => exact .some rfl
  | num text =>
    simp only
    cases number text with
    | none => exact .none
    | some _ => exact .some rfl
  | bool | str | arr | obj => exact .none

theorem agrees_readRaw : Agrees Spelled readRaw := fun _ _ _ _ _ compacted => .some (Or.inr compacted)

private theorem agrees_readItems {item : Reader α} {zero : α} (each : Agrees related item) (start : related zero zero)
    {current spelled : List α} {texts results : List Bytes} (before : List.Forall₂ related current spelled)
    (compacted : List.Forall₂ (fun text result => compact text = some result) texts results) :
    Option.Rel (List.Forall₂ related) (readItems item zero current texts) (readItems item zero spelled results) := by
  induction compacted generalizing current spelled with
  | nil => exact .some .nil
  | cons head _ ih =>
    have tail : List.Forall₂ related current.tail spelled.tail := by
      cases before with
      | nil => exact .nil
      | cons _ rest => exact rest
    have first : related (current.head?.getD zero) (spelled.head?.getD zero) := by
      cases before with
      | nil => exact start
      | cons one _ => exact one
    have one := each first head
    have others := ih tail
    unfold readItems
    revert one others
    generalize item (current.head?.getD zero) _ = left
    generalize item (spelled.head?.getD zero) _ = right
    generalize readItems item zero current.tail _ = lefts
    generalize readItems item zero spelled.tail _ = rights
    rintro (one | _) (others | _)
    · exact .some (.cons one others)
    · exact .none
    · exact .none
    · exact .none

structure Slice.Rel (related : α → α → Prop) (slice other : Slice α) : Prop where
  items : List.Forall₂ related slice.items other.items
  spare : List.Forall₂ related slice.spare other.spare

theorem agrees_readSlice {item : Reader α} {zero : α} (each : Agrees related item) (start : related zero zero) :
    Agrees (Slice.Rel related) (readSlice item zero) := by
  intro current spelled text result before compacted
  obtain ⟨node,shown,viewed,seen,respelled⟩ := compact_respelled compacted
  unfold readSlice
  rw [viewed,seen]
  cases respelled with
  | null => exact .some ⟨.nil,.nil⟩
  | arr children texts settled =>
    have slots := List.rel_append before.items before.spare
    have read := agrees_readItems each start slots settled
    have rest : List.Forall₂ related (if children.isEmpty then [] else (current.items++current.spare).drop children.length)
        (if texts.isEmpty then [] else (spelled.items++spelled.spare).drop texts.length) := by
      have size := settled.length_eq
      cases settled with
      | nil => exact .nil
      | cons =>
        rw [size]
        exact List.forall₂_drop _ slots
    simp only
    revert read
    generalize readItems item zero _ children = left
    generalize readItems item zero _ texts = right
    rintro (values | _)
    · exact .some ⟨values,rest⟩
    · exact .none
  | bool | num | str | obj => exact .none

theorem agrees_readPointer {item : Reader α} {zero : α} (each : Agrees related item) (start : related zero zero) :
    Agrees (Option.Rel related) (readPointer item zero) := by
  intro current spelled text result before compacted
  have inner : related (current.getD zero) (spelled.getD zero) := by
    cases before with
    | some one => exact one
    | none => exact start
  have one := each inner compacted
  have lifted : Option.Rel (Option.Rel related) ((item (current.getD zero) text).map some)
      ((item (spelled.getD zero) result).map some) := by
    revert one
    generalize item (current.getD zero) text = left
    generalize item (spelled.getD zero) result = right
    rintro (one | _)
    · exact .some (.some one)
    · exact .none
  obtain ⟨node,shown,viewed,seen,respelled⟩ := compact_respelled compacted
  unfold readPointer
  rw [viewed,seen]
  cases respelled with
  | null => exact .some .none
  | bool | num | str | arr | obj => exact lifted

theorem agrees_readSlice_same {item : Reader α} {zero : α} (each : Agrees Eq item) : Agrees Eq (readSlice item zero) := by
  have same : Slice.Rel Eq = (Eq : Slice α → Slice α → Prop) := by
    ext one two
    constructor
    · rintro ⟨items,spare⟩
      rw [List.forall₂_eq_eq_eq] at items spare
      cases one
      cases two
      simp only at items spare
      rw [items,spare]
    · rintro rfl
      exact ⟨List.forall₂_same.mpr (fun _ _ => rfl),List.forall₂_same.mpr (fun _ _ => rfl)⟩
  rw [← same]
  exact agrees_readSlice each rfl

theorem agrees_readNew {inner : β → β → Prop} {zero : β} {take : β → α} {read : Reader β} (each : Agrees inner read)
    (start : inner zero zero) (takes : ∀ one two, inner one two → related (take one) (take two)) :
    Agrees related (readNew zero take read) := by
  intro current spelled text result _ compacted
  have read' := each start compacted
  unfold readNew
  revert read'
  generalize read zero text = left
  generalize read zero result = right
  rintro (values | _)
  · exact .some (takes _ _ values)
  · exact .none

theorem agrees_readNew_same {zero : β} {take : β → α} {read : Reader β} (each : Agrees Eq read) :
    Agrees Eq (readNew zero take read) :=
  agrees_readNew each rfl (fun _ _ same => congrArg take same)

theorem agrees_readPointer_same {item : Reader α} {zero : α} (each : Agrees Eq item) : Agrees Eq (readPointer item zero) := by
  have pointers := agrees_readPointer each (rfl : zero = zero)
  rintro current _ text result rfl compacted
  have one := @pointers current current text result (by cases current <;> constructor; rfl) compacted
  revert one
  generalize readPointer item zero current text = left
  generalize readPointer item zero current result = right
  rintro ((rfl | _) | _) <;> constructor <;> rfl

/-- A field agrees when its getter and setter keep what is related. -/
theorem agrees_field {inner : β → β → Prop} {name : Bytes} {get : α → β} {set : α → β → α} {read : Reader β}
    (gets : ∀ one two, related one two → inner (get one) (get two))
    (sets : ∀ one two left right, related one two → inner left right → related (set one left) (set two right))
    (each : Agrees inner read) : Agrees related (field name get set read).read := by
  intro current spelled text result before compacted
  have one := each (gets _ _ before) compacted
  change Option.Rel related ((read (get current) text).map (set current)) ((read (get spelled) result).map (set spelled))
  revert one
  generalize read (get current) text = left
  generalize read (get spelled) result = right
  rintro (one | _)
  · exact .some (sets _ _ _ _ before one)
  · exact .none

theorem agrees_field_same {name : Bytes} {get : α → β} {set : α → β → α} {read : Reader β} (each : Agrees Eq read) :
    Agrees Eq (field name get set read).read := by
  refine agrees_field (fun one two same => congrArg get same) (fun one two left right same also => ?_) each
  rw [same,also]

private theorem agrees_members {fields : List (JsonField α)} {strict : Bool} (each : ∀ field ∈ fields, Agrees related field.read)
    {current spelled : α} {members entries : List (Bytes × Bytes)} (before : related current spelled)
    (compacted : List.Forall₂ (fun member entry : Bytes × Bytes => Passes member.1 ∧ entry.1 = escapeChars member.1 ∧
      compact member.2 = some entry.2) members entries) :
    Option.Rel related (members.foldlM (readMember fields strict) current) (entries.foldlM (readMember fields strict) spelled) := by
  induction compacted generalizing current spelled with
  | nil => exact .some before
  | @cons member entry members entries head _ ih =>
    obtain ⟨passes,name,value⟩ := head
    have first : Option.Rel related (readMember fields strict current member) (readMember fields strict spelled entry) := by
      unfold readMember
      rw [name,unquote_escapeChars _ passes]
      cases unquote member.1 with
      | none => exact .none
      | some name =>
        simp only [bind,Option.bind]
        cases found : findField fields name with
        | none =>
          simp only
          split
          · exact .none
          · exact .some before
        | some field => exact each field (findField_mem found) before value
    rw [List.foldlM_cons,List.foldlM_cons]
    revert first
    generalize readMember fields strict current member = left
    generalize readMember fields strict spelled entry = right
    rintro (one | _)
    · exact ih one
    · exact .none

theorem agrees_readStruct {fields : List (JsonField α)} {strict : Bool} (each : fields.Forall (fun field => Agrees related field.read)) :
    Agrees related (readStruct fields strict) := by
  intro current spelled text result before compacted
  obtain ⟨node,shown,viewed,seen,respelled⟩ := compact_respelled compacted
  unfold readStruct
  rw [viewed,seen]
  cases respelled with
  | null => exact .some before
  | obj members entries pairs => exact agrees_members (List.forall_iff_forall_mem.mp each) before pairs
  | bool | num | str | arr => exact .none

/-- A value that does not keep raw texts is the same in both spellings. -/
theorem Agrees.same {read : Reader α} (agrees : Agrees Eq read) {current : α} {text result : Bytes} (compacted : compact text = some result) :
    read current result = read current text := by
  have one := agrees (rfl : current = current) compacted
  revert one
  generalize read current text = left
  generalize read current result = right
  rintro (rfl | _) <;> rfl

theorem Agrees.some {read : Reader α} (agrees : Agrees related read) {current spelled value : α} {text result : Bytes}
    (before : related current spelled) (compacted : compact text = some result) (got : read current text = some value) :
    ∃ other, read spelled result = some other ∧ related value other := by
  have one := agrees before compacted
  rw [got] at one
  generalize read spelled result = right at one ⊢
  cases one with
  | some one => exact ⟨_,rfl,one⟩

end Readers

theorem rawFields_compact {text result : Bytes} (compacted : compact text = some result) :
    Option.Rel (List.Forall₂ (fun field other => other.1 = field.1 ∧ compact field.2 = some other.2))
      (rawFields text) (rawFields result) := by
  obtain ⟨node,shown,viewed,seen,respelled⟩ := compact_respelled compacted
  unfold rawFields
  rw [viewed,seen]
  cases respelled with
  | null => exact .some .nil
  | obj members entries pairs =>
    simp only
    clear viewed seen
    induction pairs with
    | nil => exact .some .nil
    | @cons member entry members entries head _ ih =>
      obtain ⟨passes,name,value⟩ := head
      obtain ⟨key,unquoted⟩ := unquote_passes passes
      rw [List.mapM_cons,List.mapM_cons,name,unquote_escapeChars _ passes,unquoted]
      revert ih
      generalize members.mapM (fun entry : Bytes × Bytes => (unquote entry.1).map (fun name => (name,entry.2))) = lefts
      generalize entries.mapM (fun entry : Bytes × Bytes => (unquote entry.1).map (fun name => (name,entry.2))) = rights
      rintro (later | _)
      · exact .some (.cons ⟨rfl,value⟩ later)
      · exact .none
  | bool | num | str | arr => exact .none

theorem lastField_compact {fields others : List (Bytes × Bytes)} (name : Bytes)
    (related : List.Forall₂ (fun field other : Bytes × Bytes => other.1 = field.1 ∧ compact field.2 = some other.2) fields others) :
    Option.Rel (fun value other => compact value = some other) (lastField name fields) (lastField name others) := by
  unfold lastField
  have turned := List.forall₂_reverse_iff.mpr related
  revert turned
  generalize fields.reverse = lefts
  generalize others.reverse = rights
  intro turned
  induction turned with
  | nil => exact .none
  | @cons field other lefts rights head _ ih =>
    obtain ⟨same,value⟩ := head
    simp only [List.find?_cons,same]
    cases field.1 == name with
    | true => exact .some value
    | false => exact ih

end Kmtproto.Json
