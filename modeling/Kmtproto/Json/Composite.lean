import Kmtproto.Json.Reading

/-! Arrays and objects. An encoded sequence reads back as its raw children, more
nesting budget never changes a result, and compaction rewrites a value to the
one text without space and with HTML-sensitive characters escaped. -/
namespace Kmtproto.Json

theorem skipSpace_cons (c : UInt8) (rest : Bytes) (visible : isSpace c = false) :
    skipSpace (c::rest) = c::rest := by
  simp [skipSpace,visible]

private theorem scanNumber_head (c : UInt8) (rest : Bytes) (number : Bytes × Bytes)
    (found : scanNumber (c::rest) = some number) : isDigit c = true ∨ c = 0x2D := by
  by_cases minus : c = 0x2D
  · exact Or.inr minus
  by_cases digit : isDigit c = true
  · exact Or.inl digit
  exfalso
  have unsigned : scanSign (c::rest) = ([],c::rest) := by
    unfold scanSign
    split
    · rename_i same; exact absurd (List.cons.inj same).1 minus
    · rfl
  have none : scanInteger (c::rest) = none := by
    unfold scanInteger
    split
    · rename_i same
      rw [(List.cons.inj same).1] at digit
      simp [isDigit] at digit
    · simp [digit]
  simp [scanNumber,unsigned,none] at found

/-- A value starts with a byte that is neither space nor a separator. -/
theorem parseValue_head (depth : Nat) (input : Bytes) (result : Node × Bytes)
    (found : parseValue depth input = some result) :
    ∃ c rest, input = c::rest ∧ isSpace c = false ∧ c ≠ 0x2C ∧ c ≠ 0x5D ∧ c ≠ 0x7D ∧ c ≠ 0x3A := by
  cases input with
  | nil => cases depth <;> simp [parseValue,scalar] at found
  | cons c rest =>
    refine ⟨c,rest,rfl,?_⟩
    by_contra other
    have plain : c ≠ 0x7B ∧ c ≠ 0x5B ∧ c ≠ 0x22 ∧ c ≠ 0x74 ∧ c ≠ 0x66 ∧ c ≠ 0x6E ∧ isDigit c = false ∧ c ≠ 0x2D := by
      have cases : c = 0x20 ∨ c = 0x09 ∨ c = 0x0A ∨ c = 0x0D ∨ c = 0x2C ∨ c = 0x5D ∨ c = 0x7D ∨
          c = 0x3A := by
        simp only [isSpace] at other
        grind
      rcases cases with rfl | rfl | rfl | rfl | rfl | rfl | rfl | rfl <;> decide
    rw [parseValue_scalar depth c rest plain.1 plain.2.1] at found
    simp only [scalar,plain,if_false,Option.map_eq_some_iff] at found
    obtain ⟨number,scanned,_⟩ := found
    rcases scanNumber_head c rest number scanned with digit | minus
    · simp [plain] at digit
    · exact plain.2.2.2.2.2.2.2 minus

theorem Reads.head {depth : Nat} {text : Bytes} {node : Node} (reads : Reads depth text node) :
    ∃ c rest, text = c::rest ∧ isSpace c = false ∧ c ≠ 0x2C ∧ c ≠ 0x5D ∧ c ≠ 0x7D ∧ c ≠ 0x3A := by
  have alone := reads [] delimited_nil
  rw [List.append_nil] at alone
  exact parseValue_head depth text _ alone

theorem Reads.raw {depth : Nat} {text : Bytes} {node : Node} (reads : Reads depth text node)
    (rest : Bytes) (delimited : Delimited rest) :
    rawText (parseValue depth) (text++rest) = some (text,rest) := by
  simp [rawText,reads rest delimited]

theorem Reads.viewAt {depth : Nat} {text : Bytes} {node : Node} (reads : Reads depth text node) :
    viewAt depth text = some node := by
  obtain ⟨c,tail,same,visible,_⟩ := reads.head
  have alone := reads [] delimited_nil
  rw [List.append_nil] at alone
  have start : skipSpace text = text := by rw [same]; exact skipSpace_cons c tail visible
  simp only [Json.viewAt,start,alone,bind,Option.bind]
  rfl

section Sequence
variable {α : Type} (item : Bytes → Option (α × Bytes)) (encode : α → Bytes) (close : UInt8)

private theorem sepBy_reads (closing : close = 0x5D ∨ close = 0x7D) (values : List α) (rest : Bytes) (fuel : Nat)
    (enough : values.length ≤ fuel) (nonempty : values ≠ [])
    (reads : ∀ value ∈ values, ∀ rest, Delimited rest → item (encode value++rest) = some (value,rest))
    (visible : ∀ value ∈ values, ∃ c tail, encode value = c::tail ∧ isSpace c = false) :
    sepBy item close fuel (commaJoin (values.map encode) ++ close::rest) = some (values,rest) := by
  induction values generalizing fuel with
  | nil => exact absurd rfl nonempty
  | cons value values ih =>
    obtain ⟨fuel,rfl⟩ : ∃ n, fuel = n+1 := ⟨fuel-1,by simp only [List.length_cons] at enough; omega⟩
    obtain ⟨c,tail,start,shown⟩ := visible value (by simp)
    have structural : isSpace close = false ∧ close ≠ 0x2C := by rcases closing with rfl | rfl <;> decide
    have first (after : Bytes) : skipSpace (encode value++after) = encode value++after := by
      rw [start,List.cons_append]
      exact skipSpace_cons c _ shown
    cases values with
    | nil =>
      have parsed := reads value (by simp) (close::rest)
        (delimited_cons close rest (by rcases closing with rfl | rfl <;> simp))
      simp [sepBy,commaJoin,first,parsed,skipSpace_cons close rest structural.1,structural.2]
    | cons second values =>
      have later := ih fuel (by simpa using enough) (by simp) (fun v found => reads v (by simp [found]))
        (fun v found => visible v (by simp [found]))
      have parsed := reads value (by simp) (0x2C::(commaJoin ((second::values).map encode) ++ close::rest))
        (delimited_cons 0x2C _ (by simp))
      have comma : isSpace 0x2C = false := by decide
      simp only [List.map_cons,commaJoin,List.append_assoc,List.cons_append] at parsed later ⊢
      simp [sepBy,first,parsed,skipSpace_cons 0x2C _ comma,later]

private theorem commaJoin_length (values : List α) (visible : ∀ value ∈ values, encode value ≠ []) :
    values.length ≤ (commaJoin (values.map encode)).length := by
  induction values with
  | nil => simp
  | cons value values ih =>
    have size : 0 < (encode value).length := List.length_pos_iff.mpr (visible value (by simp))
    have later := ih (fun v found => visible v (by simp [found]))
    cases values with
    | nil => simp [commaJoin]; omega
    | cons second values =>
      simp only [List.map_cons,commaJoin,List.length_append,List.length_cons] at later ⊢
      omega

/-- An encoded sequence reads back item by item, up to its closing bracket. -/
theorem items_reads (closing : close = 0x5D ∨ close = 0x7D) (values : List α) (rest : Bytes)
    (reads : ∀ value ∈ values, ∀ rest, Delimited rest → item (encode value++rest) = some (value,rest))
    (visible : ∀ value ∈ values, ∃ c tail, encode value = c::tail ∧ isSpace c = false ∧ c ≠ close) :
    items item close (commaJoin (values.map encode) ++ close::rest) = some (values,rest) := by
  have shown : isSpace close = false := by rcases closing with rfl | rfl <;> decide
  cases values with
  | nil => simp [items,commaJoin,skipSpace_cons close rest shown]
  | cons value values =>
    obtain ⟨c,tail,start,space,other⟩ := visible value (by simp)
    obtain ⟨following,joined⟩ : ∃ following,
        commaJoin ((value::values).map encode) ++ close::rest = c::following := by
      cases values with
      | nil => exact ⟨_,by simp [commaJoin,start]; rfl⟩
      | cons second values => exact ⟨_,by simp [commaJoin,start]; rfl⟩
    have size := commaJoin_length encode (value::values) (fun v found => by
      obtain ⟨d,more,same,_⟩ := visible v found
      simp [same])
    have parsed := sepBy_reads item encode close closing (value::values) rest
      (commaJoin ((value::values).map encode) ++ close::rest).length
      (by rw [List.length_append]; omega) (by simp) reads
      (fun v found => by obtain ⟨d,more,same,space,_⟩ := visible v found; exact ⟨d,more,same,space⟩)
    unfold items
    rw [parsed,joined,skipSpace_cons c following space]
    simp [other]

end Sequence

theorem reads_array (depth : Nat) (children : List Bytes)
    (each : ∀ child ∈ children, ∃ node, Reads depth child node) :
    Reads (depth+1) (encodeArray children) (.arr children) := by
  intro rest _
  have parsed := items_reads (rawText (parseValue depth)) id 0x5D (by simp) children rest
    (fun child found after delimited => by
      obtain ⟨node,reads⟩ := each child found
      exact reads.raw after delimited)
    (fun child found => by
      obtain ⟨node,reads⟩ := each child found
      obtain ⟨c,tail,same,space,_,bracket,_⟩ := reads.head
      exact ⟨c,tail,same,space,bracket⟩)
  rw [List.map_id] at parsed
  simp [encodeArray,parseValue,parsed]

private theorem member_reads (depth : Nat) (entry : Bytes × Bytes) (node : Node) (name : Passes entry.1)
    (reads : Reads depth entry.2 node) (rest : Bytes) (delimited : Delimited rest) :
    member (parseValue depth) (encodeMember entry++rest) = some (entry,rest) := by
  obtain ⟨c,tail,same,space,_⟩ := reads.head
  have colon : isSpace 0x3A = false := by decide
  have start : skipSpace (entry.2++rest) = entry.2++rest := by
    rw [same,List.cons_append]
    exact skipSpace_cons c _ space
  simp only [encodeMember,List.cons_append,List.append_assoc,member,
    scanChars_closed entry.1 _ name,bind,Option.bind,skipSpace_cons 0x3A _ colon,start,
    reads.raw rest delimited]

/-- An object of readable values reads back as its named members, in order. -/
theorem reads_object (depth : Nat) (members : List (Bytes × Bytes))
    (names : ∀ entry ∈ members, Passes entry.1)
    (values : ∀ entry ∈ members, ∃ node, Reads depth entry.2 node) :
    Reads (depth+1) (encodeObject members) (.obj members) := by
  intro rest _
  have parsed := items_reads (member (parseValue depth)) encodeMember 0x7D (by simp) members rest
    (fun entry found after delimited => by
      obtain ⟨node,reads⟩ := values entry found
      exact member_reads depth entry node (names entry found) reads after delimited)
    (fun entry _ => ⟨0x22,_,rfl,by decide,by decide⟩)
  simp [encodeObject,parseValue,parsed]

end Kmtproto.Json
