import Kmtproto.Json.Stream

/-! Decoding into typed destinations. A destination is read over its current
value, as repeated members are; names match exactly or else without regard to
case, and an unmatched name is an error for a strict decoder only. -/
namespace Kmtproto.Json

/-- A typed destination: the current value, the raw text, the new value. -/
abbrev Reader (α : Type) := α → Bytes → Option α

def readText : Reader Bytes := fun current raw =>
  match view raw with
  | some .null => some current
  | some (.str chars) => unquote chars
  | _ => none

def readFlag : Reader Bool := fun current raw =>
  match view raw with
  | some .null => some current
  | some (.bool value) => some value
  | _ => none

def readNumber {α : Type} (number : Bytes → Option α) : Reader α := fun current raw =>
  match view raw with
  | some .null => some current
  | some (.num text) => number text
  | _ => none

def parseUInt64 (text : Bytes) : Option UInt64 := do
  let n ← parseDecimal text
  if n < 2^64 then some (UInt64.ofNat n) else none

def parseUInt16 (text : Bytes) : Option UInt16 := do
  let n ← parseDecimal text
  if n < 2^16 then some (UInt16.ofNat n) else none

def parseInt64 : Bytes → Option Int64
  | 0x2D::digits => do
    let n ← parseDecimal digits
    if n ≤ 2^63 then some (Int64.ofInt (-(n : Int))) else none
  | text => do
    let n ← parseDecimal text
    if n < 2^63 then some (Int64.ofInt n) else none

def readUInt64 : Reader UInt64 := readNumber parseUInt64

def readUInt16 : Reader UInt16 := readNumber parseUInt16

def readInt64 : Reader Int64 := readNumber parseInt64

def readRaw : Reader Bytes := fun _ raw => some raw

def readItems {α : Type} (item : Reader α) (zero : α) : List α → List Bytes → Option (List α)
  | _, [] => some []
  | current, raw::raws => do
    let value ← item (current.head?.getD zero) raw
    let values ← readItems item zero current.tail raws
    some (value::values)

/-- A slice and what its array holds beyond its length. -/
structure Slice (α : Type) where
  items : List α := []
  spare : List α := []
  deriving DecidableEq, Repr

def readSlice {α : Type} (item : Reader α) (zero : α) : Reader (Slice α) := fun current raw =>
  match view raw with
  | some .null => some {}
  | some (.arr raws) =>
    -- items are read over what the array has; an empty slice gets a new array
    let slots := current.items++current.spare
    (readItems item zero slots raws).map (fun values => ⟨values,if raws.isEmpty then [] else slots.drop raws.length⟩)
  | _ => none

def readPointer {α : Type} (item : Reader α) (zero : α) : Reader (Option α) := fun current raw =>
  match view raw with
  | some .null => some none
  | _ => (item (current.getD zero) raw).map some

/-- Reading into a new variable, and what is taken from it. -/
def readNew {α β : Type} (zero : β) (take : β → α) (read : Reader β) : Reader α := fun _ raw => (read zero raw).map take

structure JsonField (α : Type) where
  name : Bytes
  read : Reader α

def field {α β : Type} (name : Bytes) (get : α → β) (set : α → β → α) (read : Reader β) : JsonField α :=
  ⟨name,fun value raw => (read (get value) raw).map (set value)⟩

/-- A name with its letters upper-cased; the Kelvin sign and the long s fold to letters. -/
def foldName : Bytes → Bytes
  | [] => []
  | 0xE2::0x84::0xAA::rest => 0x4B::foldName rest
  | 0xC5::0xBF::rest => 0x53::foldName rest
  | c::rest => (if 0x61 ≤ c ∧ c ≤ 0x7A then c - 0x20 else c)::foldName rest

def findField {α : Type} (fields : List (JsonField α)) (name : Bytes) : Option (JsonField α) :=
  (fields.find? (fun field => field.name == name)).or
    (fields.find? (fun field => foldName field.name == foldName name))

def readMember {α : Type} (fields : List (JsonField α)) (strict : Bool) (current : α) (entry : Bytes × Bytes) :
    Option α := do
  let name ← unquote entry.1
  match findField fields name with
  | some field => field.read current entry.2
  | none => if strict then none else some current

def readStruct {α : Type} (fields : List (JsonField α)) (strict : Bool) : Reader α := fun current raw =>
  match view raw with
  | some .null => some current
  | some (.obj members) => members.foldlM (readMember fields strict) current
  | _ => none

/-- `json.Unmarshal` into a map of raw messages: decoded names with their texts. -/
def rawFields (raw : Bytes) : Option (List (Bytes × Bytes)) :=
  match view raw with
  | some .null => some []
  | some (.obj members) => members.mapM (fun entry => (unquote entry.1).map (fun name => (name,entry.2)))
  | _ => none

/-- The value of a name in such a map: the last member that has it. -/
def lastField (name : Bytes) (members : List (Bytes × Bytes)) : Option Bytes :=
  (members.reverse.find? (fun entry => entry.1 == name)).map (·.2)

/-- A value decoded without a type, numbers kept as their literals. -/
inductive Value where
  | null
  | bool (value : Bool)
  | number (text : Bytes)
  | text (value : Bytes)
  | array (items : List Value)
  | object (members : List (Bytes × Value))
  deriving Repr

/-- A member of an untyped object; a later one replaces an earlier one of that name. -/
def putMember (members : List (Bytes × Value)) (name : Bytes) (value : Value) : List (Bytes × Value) :=
  members.filter (fun entry => entry.1 != name) ++ [(name,value)]

def scalarValue : Node → Option Value
  | .null => some .null
  | .bool value => some (.bool value)
  | .num text => some (.number text)
  | .str chars => (unquote chars).map .text
  | .arr _ => none
  | .obj _ => none

def valueAt : Nat → Bytes → Option Value
  | 0, text => (viewAt 0 text).bind scalarValue
  | depth+1, text => (viewAt (depth+1) text).bind fun
    | .arr children => (children.mapM (valueAt depth)).map .array
    | .obj members =>
      (members.foldlM (fun (found : List (Bytes × Value)) (entry : Bytes × Bytes) => do
        let name ← unquote entry.1
        let value ← valueAt depth entry.2
        some (putMember found name value)) []).map .object
    | node => scalarValue node

def decodeValue (text : Bytes) : Option Value := valueAt maxNestingDepth text

theorem view_quote (text : Bytes) : view (quote text) = some (.str (quoteChars text)) :=
  (reads_quote 0 text).view (by decide)

theorem view_decimal (n : Nat) : view (decimal n) = some (.num (decimal n)) :=
  (reads_decimal 0 n).view (by decide)

theorem readText_quote (current text : Bytes) : readText current (quote text) = some (toValid text) := by
  rw [readText,view_quote]
  exact unquote_quoteChars text

theorem readFlag_encodeBool (current value : Bool) : readFlag current (encodeBool value) = some value := by
  rw [readFlag,(reads_bool 0 value).view (by decide)]

theorem readUInt64_decimal (current value : UInt64) : readUInt64 current (decimal value.toNat) = some value := by
  rw [readUInt64,readNumber,view_decimal]
  simpa [parseUInt64,parseDecimal_decimal] using value.toNat_lt

theorem readUInt16_decimal (current value : UInt16) : readUInt16 current (decimal value.toNat) = some value := by
  rw [readUInt16,readNumber,view_decimal]
  simpa [parseUInt16,parseDecimal_decimal] using value.toNat_lt

private theorem parseInt64_decimal (n : Nat) (small : n < 2^63) :
    parseInt64 (decimal n) = some (Int64.ofInt n) := by
  have digits := decimal_integer n
  have parsed := parseDecimal_decimal n
  unfold parseInt64
  split
  · rename_i rest same
    rw [same] at digits
    exact absurd (digits.digit 0x2D (by simp)) (by decide)
  · rw [parsed]
    simp only [bind,Option.bind,if_pos small]

theorem readInt64_decimalInt (current value : Int64) :
    readInt64 current (decimalInt value.toInt) = some value := by
  have low := value.le_toInt
  have high := value.toInt_lt
  have back : Int64.ofInt value.toInt = value := Int64.ofInt_toInt value
  rw [readInt64,readNumber,(reads_decimalInt 0 value.toInt).view (by decide)]
  generalize value.toInt = whole at low high back
  cases whole with
  | ofNat n =>
    have small : (n : Int) < 2^63 := high
    rw [← back]
    exact parseInt64_decimal n (by omega)
  | negSucc n =>
    have small : n+1 ≤ 2^63 := by omega
    simp only [decimalInt,parseInt64,parseDecimal_decimal,bind,Option.bind,if_pos small]
    rw [← back]
    rfl

section Composite
variable {α : Type} (encode : α → Bytes) (read : Reader α)

private theorem readItems_encode (zero : α) (values decoded : List α)
    (each : List.Forall₂ (fun value result => read zero (encode value) = some result) values decoded) :
    readItems read zero [] (values.map encode) = some decoded := by
  induction each with
  | nil => rfl
  | cons head _ ih =>
    simp only [List.map_cons,readItems,List.head?_nil,Option.getD_none,head,List.tail_nil,ih,bind,Option.bind]

theorem readSlice_encodeArray (zero : α) (values decoded : List α) (depth : Nat) (shallow : depth+1 ≤ maxNestingDepth)
    (readable : ∀ value ∈ values, ∃ node, Reads depth (encode value) node)
    (each : List.Forall₂ (fun value result => read zero (encode value) = some result) values decoded) :
    readSlice read zero {} (encodeArray (values.map encode)) = some {items := decoded} := by
  have reads := reads_array depth (values.map encode) (by simpa using readable)
  rw [readSlice,reads.view shallow]
  simp only [List.append_nil,readItems_encode encode read zero values decoded each,Option.map_some,List.drop_nil,ite_self]

end Composite

/-- Members written as a struct writes them are read one by one. -/
theorem readStruct_encodeObject {α : Type} (fields : List (JsonField α)) (strict : Bool) (current : α)
    (members : List (Bytes × Bytes)) (depth : Nat) (shallow : depth+1 ≤ maxNestingDepth)
    (names : ∀ entry ∈ members, Passes entry.1) (values : ∀ entry ∈ members, ∃ node, Reads depth entry.2 node) :
    readStruct fields strict current (encodeObject members) = members.foldlM (readMember fields strict) current := by
  rw [readStruct,(reads_object depth members names values).view shallow]

theorem readMember_field {α : Type} (fields : List (JsonField α)) (strict : Bool) (current : α) (name text : Bytes)
    (field : JsonField α) (plain : unquote name = some name) (found : findField fields name = some field) :
    readMember fields strict current (name,text) = field.read current text := by
  simp only [readMember,plain,found,bind,Option.bind]

theorem findField_mem {α : Type} {fields : List (JsonField α)} {name : Bytes} {field : JsonField α}
    (found : findField fields name = some field) : field ∈ fields := by
  rcases Option.or_eq_some_iff.mp found with precise | ⟨_,folded⟩
  · exact List.mem_of_find?_eq_some precise
  · exact List.mem_of_find?_eq_some folded

/-- What every field keeps that a member is bound to is kept. -/
theorem readMembers_keeps {α : Type} {P : α → Prop} {fields : List (JsonField α)} {strict : Bool} {members : List (Bytes × Bytes)}
    {current value : α} (each : ∀ entry ∈ members, ∀ name field before after, unquote entry.1 = some name →
      findField fields name = some field → P before → field.read before entry.2 = some after → P after)
    (start : P current) (read : members.foldlM (readMember fields strict) current = some value) : P value := by
  induction members generalizing current with
  | nil =>
    cases read
    exact start
  | cons entry members ih =>
    rw [List.foldlM_cons] at read
    obtain ⟨middle,first,read⟩ := Option.bind_eq_some_iff.mp read
    refine ih (fun other inside => each other (by simp [inside])) ?_ read
    unfold readMember at first
    obtain ⟨name,decoded,first⟩ := Option.bind_eq_some_iff.mp first
    split at first
    · rename_i field found
      exact each entry (by simp) name field current middle decoded found start first
    · split at first
      · cases first
      · cases first
        exact start

def Preserves {α : Type} (P : α → Prop) (read : Reader α) : Prop :=
  ∀ current raw value, P current → read current raw = some value → P value

section Preserves
variable {α β : Type}

theorem preserves_readText : Preserves (fun text => validString text = true) readText := by
  intro current raw value before read
  unfold readText at read
  split at read
  · cases read
    exact before
  · exact unquote_valid _ _ read
  · cases read

theorem preserves_readSlice {P : α → Prop} {item : Reader α} {zero : α} (each : Preserves P item) (start : P zero) :
    Preserves (fun slice : Slice α => ∀ value ∈ slice.items++slice.spare, P value) (readSlice item zero) := by
  have items (raws : List Bytes) (current values : List α) (before : ∀ value ∈ current, P value)
      (read : readItems item zero current raws = some values) : ∀ value ∈ values, P value := by
    induction raws generalizing current values with
    | nil =>
      cases read
      simp
    | cons raw raws ih =>
      simp only [readItems,bind,Option.bind_eq_some_iff,Option.some.injEq] at read
      obtain ⟨first,head,others,tail,rfl⟩ := read
      have old : P (current.head?.getD zero) := by
        cases current with
        | nil => exact start
        | cons value current => exact before value (List.mem_cons_self ..)
      intro value member
      rcases List.mem_cons.mp member with rfl | later
      · exact each _ _ _ old head
      · exact ih current.tail others (fun value inside => before value (List.mem_of_mem_tail inside)) tail value later
  intro current raw slice before read
  unfold readSlice at read
  split at read
  · cases read
    simp
  · obtain ⟨values,got,rfl⟩ := Option.map_eq_some_iff.mp read
    intro value member
    rcases List.mem_append.mp member with new | old
    · exact items _ _ _ before got value new
    · split at old
      · cases old
      · exact before value (List.mem_of_mem_drop old)
  · cases read

theorem preserves_readPointer {P : α → Prop} {item : Reader α} {zero : α} (each : Preserves P item) (start : P zero) :
    Preserves (fun pointer => ∀ value ∈ pointer, P value) (readPointer item zero) := by
  intro current raw pointer before read
  unfold readPointer at read
  split at read
  · cases read
    simp
  · obtain ⟨value,got,rfl⟩ := Option.map_eq_some_iff.mp read
    rintro _ ⟨⟩
    refine each _ _ _ ?_ got
    cases current with
    | none => exact start
    | some old => exact before old rfl

theorem preserves_readStruct {P : α → Prop} {fields : List (JsonField α)} {strict : Bool}
    (each : ∀ field ∈ fields, Preserves P field.read) : Preserves P (readStruct fields strict) := by
  intro current raw value before read
  unfold readStruct at read
  split at read
  · cases read
    exact before
  · exact readMembers_keeps (fun _ _ _ field _ _ _ found => each field (findField_mem found) _ _ _) before read
  · cases read

end Preserves

end Kmtproto.Json
