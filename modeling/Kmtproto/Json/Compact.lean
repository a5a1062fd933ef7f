import Kmtproto.Json.Composite

/-! Compaction: a value is printed again without space and with the characters
HTML gives a meaning escaped. The result is the only compact form of itself, and
a larger nesting budget never changes what a text is read as. -/
namespace Kmtproto.Json

/-- The characters of a literal with HTML-sensitive characters and the two line
separators escaped; the first argument counts bytes already rewritten. -/
def escapeFrom : Nat → Bytes → Bytes
  | _, [] => []
  | skip+1, _::rest => escapeFrom skip rest
  | 0, c::rest =>
    if c = 0x3C ∨ c = 0x3E ∨ c = 0x26 then escapeByte c ++ escapeFrom 0 rest
    else if (c::rest).take 3 = [0xE2,0x80,0xA8] then [0x5C,0x75,0x32,0x30,0x32,0x38] ++ escapeFrom 2 rest
    else if (c::rest).take 3 = [0xE2,0x80,0xA9] then [0x5C,0x75,0x32,0x30,0x32,0x39] ++ escapeFrom 2 rest
    else c::escapeFrom 0 rest

def escapeChars (chars : Bytes) : Bytes := escapeFrom 0 chars

def compactScalar : Node → Option Bytes
  | .null => some [0x6E,0x75,0x6C,0x6C]
  | .bool value => some (encodeBool value)
  | .num text => some text
  | .str chars => some (0x22::(escapeChars chars ++ [0x22]))
  | .arr _ => none
  | .obj _ => none

/-- The compact text of a value with at most `depth` nested brackets. -/
def compactAt : Nat → Bytes → Option Bytes
  | 0, text => (viewAt 0 text).bind compactScalar
  | depth+1, text => (viewAt (depth+1) text).bind fun
    | .arr children => (children.mapM (compactAt depth)).map encodeArray
    | .obj members =>
      (members.mapM (fun entry => (compactAt depth entry.2).map (fun value => (escapeChars entry.1,value)))).map
        encodeObject
    | node => compactScalar node

/-- `json.Compact` as the marshaler applies it to raw messages. -/
def compact (text : Bytes) : Option Bytes := compactAt maxNestingDepth text

private theorem take_three (c x : UInt8) (rest : Bytes) (same : (c::rest).take 3 = [0xE2,0x80,x]) :
    c = 0xE2 ∧ ∃ tail, rest = 0x80::x::tail := by
  match rest with
  | [] => simp at same
  | [a] => simp at same
  | a::b::tail =>
    simp only [List.take_succ_cons,List.take_zero,List.cons.injEq,and_true] at same
    exact ⟨same.1,tail,by rw [same.2.1,same.2.2]⟩

theorem escapeFrom_cons (c : UInt8) (rest : Bytes) :
    ((c = 0x3C ∨ c = 0x3E ∨ c = 0x26) ∧ escapeFrom 0 (c::rest) = escapeByte c ++ escapeFrom 0 rest) ∨
    (∃ x tail, (x = 0xA8 ∨ x = 0xA9) ∧ c = 0xE2 ∧ rest = 0x80::x::tail ∧
      escapeFrom 0 (c::rest) = [0x5C,0x75,0x32,0x30,0x32,hexDigit (x % 16)] ++ escapeFrom 0 tail) ∨
    (¬ (c = 0x3C ∨ c = 0x3E ∨ c = 0x26) ∧ (∀ x, x = 0xA8 ∨ x = 0xA9 → (c::rest).take 3 ≠ [0xE2,0x80,x]) ∧
      escapeFrom 0 (c::rest) = c::escapeFrom 0 rest) := by
  by_cases html : c = 0x3C ∨ c = 0x3E ∨ c = 0x26
  · exact Or.inl ⟨html,by rw [escapeFrom,if_pos html]⟩
  by_cases line : (c::rest).take 3 = [0xE2,0x80,0xA8]
  · obtain ⟨rfl,tail,rfl⟩ := take_three c 0xA8 rest line
    exact Or.inr (Or.inl ⟨0xA8,tail,by simp,rfl,rfl,rfl⟩)
  by_cases paragraph : (c::rest).take 3 = [0xE2,0x80,0xA9]
  · obtain ⟨rfl,tail,rfl⟩ := take_three c 0xA9 rest paragraph
    exact Or.inr (Or.inl ⟨0xA9,tail,by simp,rfl,rfl,rfl⟩)
  refine Or.inr (Or.inr ⟨html,?_,by rw [escapeFrom,if_neg html,if_neg line,if_neg paragraph]⟩)
  rintro x (rfl | rfl)
  · exact line
  · exact paragraph

private theorem walk_html (state final : StringState) (c : UInt8) (html : c = 0x3C ∨ c = 0x3E ∨ c = 0x26)
    (rest : Bytes) (walked : walk state (c::rest) = some final) :
    state = .plain ∧ walk .plain rest = some final := by
  cases state with
  | plain =>
    refine ⟨rfl,?_⟩
    rcases html with rfl | rfl | rfl <;> simpa [walk,StringState.next] using walked
  | escape => rcases html with rfl | rfl | rfl <;> simp [walk,StringState.next] at walked
  | hex more =>
    have digit : hexValue c = none := by rcases html with rfl | rfl | rfl <;> decide
    simp [walk,StringState.next,digit] at walked

private theorem walk_separator (state final : StringState) (x : UInt8) (separator : x = 0xA8 ∨ x = 0xA9)
    (rest : Bytes) (walked : walk state (0xE2::0x80::x::rest) = some final) :
    state = .plain ∧ walk .plain rest = some final := by
  have digit : hexValue 0xE2 = none := by decide
  cases state with
  | plain =>
    refine ⟨rfl,?_⟩
    rcases separator with rfl | rfl <;> simpa [walk,StringState.next] using walked
  | escape => simp [walk,StringState.next] at walked
  | hex more => simp [walk,StringState.next,digit] at walked

/-- Escaping keeps the scanner's position: what it rewrites is a whole character. -/
theorem walk_escapeFrom (text : Bytes) (state final : StringState) (walked : walk state text = some final) :
    walk state (escapeFrom 0 text) = some final := by
  match text with
  | [] => exact walked
  | c::rest =>
    rcases escapeFrom_cons c rest with ⟨html,same⟩ | ⟨x,tail,separator,rfl,rfl,same⟩ | ⟨_,_,same⟩
    · obtain ⟨rfl,later⟩ := walk_html state final c html rest walked
      have passes : walk .plain (escapeByte c) = some .plain := by
        rcases html with rfl | rfl | rfl <;> decide
      rw [same,walk_append,passes]
      exact walk_escapeFrom rest .plain final later
    · obtain ⟨rfl,later⟩ := walk_separator state final x separator tail walked
      have passes : walk .plain [0x5C,0x75,0x32,0x30,0x32,hexDigit (x % 16)] = some .plain := by
        rcases separator with rfl | rfl <;> decide
      rw [same,walk_append,passes]
      exact walk_escapeFrom tail .plain final later
    · rw [same]
      simp only [walk] at walked ⊢
      split at walked
      · cases walked
      · rename_i inside
        obtain ⟨next,moved,later⟩ := Option.bind_eq_some_iff.mp walked
        rw [if_neg inside,moved]
        exact walk_escapeFrom rest next final later
  termination_by text.length

theorem passes_escapeChars (chars : Bytes) (passes : Passes chars) : Passes (escapeChars chars) :=
  walk_escapeFrom chars .plain .plain passes

theorem escapeFrom_head (c : UInt8) (high : 0x80 ≤ c) (text tail : Bytes)
    (same : escapeFrom 0 text = c::tail) : ∃ rest, text = c::rest ∧ tail = escapeFrom 0 rest := by
  cases text with
  | nil => cases same
  | cons d rest =>
    rcases escapeFrom_cons d rest with ⟨html,form⟩ | ⟨x,after,_,_,_,form⟩ | ⟨_,_,form⟩
    · rw [form] at same
      simp only [escapeByte,List.cons_append,List.cons.injEq] at same
      rw [← same.1] at high
      exact absurd high (by decide)
    · rw [form] at same
      simp only [List.cons_append,List.cons.injEq] at same
      rw [← same.1] at high
      exact absurd high (by decide)
    · rw [form,List.cons.injEq] at same
      exact ⟨rest,by rw [same.1],same.2.symm⟩

theorem escapeFrom_safe (c : UInt8) (rest : Bytes) (html : ¬ (c = 0x3C ∨ c = 0x3E ∨ c = 0x26))
    (separator : c ≠ 0xE2) : escapeFrom 0 (c::rest) = c::escapeFrom 0 rest := by
  rcases escapeFrom_cons c rest with ⟨bad,_⟩ | ⟨x,tail,_,bad,_,_⟩ | ⟨_,_,same⟩
  · exact absurd bad html
  · exact absurd bad separator
  · exact same

theorem escapeFrom_safes (text rest : Bytes)
    (safe : ∀ c ∈ text, ¬ (c = 0x3C ∨ c = 0x3E ∨ c = 0x26) ∧ c ≠ 0xE2) :
    escapeFrom 0 (text++rest) = text ++ escapeFrom 0 rest := by
  induction text with
  | nil => rfl
  | cons c text ih =>
    have head := safe c (by simp)
    rw [List.cons_append,escapeFrom_safe c _ head.1 head.2,ih (fun d found => safe d (by simp [found]))]
    rfl

theorem escapeFrom_idem (text : Bytes) : escapeFrom 0 (escapeFrom 0 text) = escapeFrom 0 text := by
  match text with
  | [] => rfl
  | c::rest =>
    rcases escapeFrom_cons c rest with ⟨html,same⟩ | ⟨x,tail,separator,rfl,rfl,same⟩ | ⟨html,line,same⟩
    · have safe : ∀ d ∈ escapeByte c, ¬ (d = 0x3C ∨ d = 0x3E ∨ d = 0x26) ∧ d ≠ 0xE2 := by
        rcases html with rfl | rfl | rfl <;> exact @of_decide_eq_true _ (List.decidableBAll _ _) rfl
      rw [same,escapeFrom_safes _ _ safe,escapeFrom_idem rest]
    · have safe : ∀ d ∈ [0x5C,0x75,0x32,0x30,0x32,hexDigit (x % 16)],
          ¬ (d = 0x3C ∨ d = 0x3E ∨ d = 0x26) ∧ d ≠ 0xE2 := by
        rcases separator with rfl | rfl <;> exact @of_decide_eq_true _ (List.decidableBAll _ _) rfl
      rw [same,escapeFrom_safes _ _ safe,escapeFrom_idem tail]
    · -- a separator in the output would have been one in the input
      have clear : ∀ x, x = 0xA8 ∨ x = 0xA9 → (c::escapeFrom 0 rest).take 3 ≠ [0xE2,0x80,x] := by
        intro x isLine joined
        obtain ⟨rfl,after,found⟩ := take_three c x _ joined
        obtain ⟨second,rfl,form⟩ := escapeFrom_head 0x80 (by decide) rest _ found
        obtain ⟨third,rfl,_⟩ := escapeFrom_head x (by rcases isLine with rfl | rfl <;> decide) second _ form.symm
        exact line x isLine rfl
      rw [same]
      rcases escapeFrom_cons c (escapeFrom 0 rest) with ⟨bad,_⟩ | ⟨x,after,isLine,rfl,form,_⟩ | ⟨_,_,again⟩
      · exact absurd bad html
      · exact absurd (by rw [form]; rfl) (clear x isLine)
      · rw [again,escapeFrom_idem rest]
  termination_by text.length

section Sequence
variable {α : Type} {item wider : Bytes → Option (α × Bytes)} {close : UInt8}

private theorem sepBy_all (P : α → Prop) (each : ∀ input value rest, item input = some (value,rest) → P value)
    (fuel : Nat) (input : Bytes) (values : List α) (rest : Bytes)
    (parsed : sepBy item close fuel input = some (values,rest)) : ∀ value ∈ values, P value := by
  induction fuel generalizing input values with
  | zero => cases parsed
  | succ fuel ih =>
    simp only [sepBy,bind,Option.bind_eq_some_iff] at parsed
    obtain ⟨⟨first,after⟩,head,tail⟩ := parsed
    have one := each _ _ _ head
    cases following : skipSpace after with
    | nil => simp [following] at tail
    | cons c more =>
      simp only [following] at tail
      by_cases comma : c = 0x2C
      · rw [if_pos comma,Option.bind_eq_some_iff] at tail
        obtain ⟨⟨others,_⟩,later,same⟩ := tail
        cases same
        intro value found
        rcases List.mem_cons.mp found with rfl | among
        · exact one
        · exact ih _ _ later value among
      · rw [if_neg comma] at tail
        split at tail
        · cases tail
          simpa using one
        · cases tail

theorem items_all (P : α → Prop) (each : ∀ input value rest, item input = some (value,rest) → P value)
    (input : Bytes) (values : List α) (rest : Bytes) (parsed : items item close input = some (values,rest)) :
    ∀ value ∈ values, P value := by
  unfold items at parsed
  split at parsed
  · cases parsed
  · split at parsed
    · cases parsed
      simp
    · exact sepBy_all P each _ _ _ _ parsed

private theorem sepBy_mono (same : ∀ input result, item input = some result → wider input = some result)
    (fuel : Nat) (input : Bytes) (result : List α × Bytes) (parsed : sepBy item close fuel input = some result) :
    sepBy wider close fuel input = some result := by
  induction fuel generalizing input result with
  | zero => cases parsed
  | succ fuel ih =>
    simp only [sepBy,bind,Option.bind_eq_some_iff] at parsed ⊢
    obtain ⟨first,head,tail⟩ := parsed
    refine ⟨first,same _ _ head,?_⟩
    cases following : skipSpace first.2 with
    | nil => simp [following] at tail
    | cons c more =>
      simp only [following] at tail ⊢
      by_cases comma : c = 0x2C
      · rw [if_pos comma,Option.bind_eq_some_iff] at tail ⊢
        obtain ⟨others,later,form⟩ := tail
        exact ⟨others,ih _ _ later,form⟩
      · rw [if_neg comma] at tail ⊢
        exact tail

private theorem items_mono (same : ∀ input result, item input = some result → wider input = some result)
    (input : Bytes) (result : List α × Bytes) (parsed : items item close input = some result) :
    items wider close input = some result := by
  unfold items at parsed ⊢
  split at parsed
  · cases parsed
  · split at parsed
    · rw [if_pos ‹_›]
      exact parsed
    · rw [if_neg ‹_›]
      exact sepBy_mono same _ _ _ parsed

end Sequence

private theorem rawText_mono {narrow wide : Bytes → Option (Node × Bytes)}
    (same : ∀ input result, narrow input = some result → wide input = some result)
    (input : Bytes) (result : Bytes × Bytes) (parsed : rawText narrow input = some result) :
    rawText wide input = some result := by
  simp only [rawText,Option.map_eq_some_iff] at parsed ⊢
  obtain ⟨value,found,form⟩ := parsed
  exact ⟨value,same _ _ found,form⟩

private theorem member_mono {narrow wide : Bytes → Option (Node × Bytes)}
    (same : ∀ input result, narrow input = some result → wide input = some result)
    (input : Bytes) (result : (Bytes × Bytes) × Bytes) (parsed : member narrow input = some result) :
    member wide input = some result := by
  unfold member at parsed ⊢
  split at parsed
  · simp only [bind,Option.bind_eq_some_iff] at parsed ⊢
    obtain ⟨name,scanned,parsed⟩ := parsed
    refine ⟨name,scanned,?_⟩
    generalize skipSpace name.2 = after at parsed ⊢
    split at parsed
    · obtain ⟨raw,found,form⟩ := Option.bind_eq_some_iff.mp parsed
      exact Option.bind_eq_some_iff.mpr ⟨raw,rawText_mono same _ _ found,form⟩
    · cases parsed
  · cases parsed

private theorem scalar_bracket (c : UInt8) (bracket : c = 0x7B ∨ c = 0x5B) (rest : Bytes) :
    scalar (c::rest) = none := by
  have number : scanNumber (c::rest) = none := by rcases bracket with rfl | rfl <;> rfl
  rcases bracket with rfl | rfl <;> simp [scalar,number]

theorem parseValue_succ (depth : Nat) (input : Bytes) (result : Node × Bytes)
    (parsed : parseValue depth input = some result) : parseValue (depth+1) input = some result := by
  induction depth generalizing input result with
  | zero =>
    unfold parseValue at parsed ⊢
    split
    · rw [scalar_bracket _ (by simp)] at parsed
      cases parsed
    · rw [scalar_bracket _ (by simp)] at parsed
      cases parsed
    · exact parsed
  | succ depth ih =>
    unfold parseValue at parsed ⊢
    split at parsed
    · simp only [Option.map_eq_some_iff] at parsed ⊢
      obtain ⟨members,found,form⟩ := parsed
      exact ⟨members,items_mono (member_mono ih) _ _ found,form⟩
    · simp only [Option.map_eq_some_iff] at parsed ⊢
      obtain ⟨children,found,form⟩ := parsed
      exact ⟨children,items_mono (rawText_mono ih) _ _ found,form⟩
    · exact parsed

theorem parseValue_mono (depth more : Nat) (input : Bytes) (result : Node × Bytes)
    (parsed : parseValue depth input = some result) : parseValue (depth+more) input = some result := by
  induction more with
  | zero => exact parsed
  | succ more ih => exact parseValue_succ _ _ _ ih

theorem Reads.mono {depth : Nat} {text : Bytes} {node : Node} (reads : Reads depth text node) (more : Nat) :
    Reads (depth+more) text node :=
  fun rest delimited => parseValue_mono depth more _ _ (reads rest delimited)

theorem viewAt_mono (depth more : Nat) (text : Bytes) (node : Node) (viewed : viewAt depth text = some node) :
    viewAt (depth+more) text = some node := by
  simp only [viewAt,bind,Option.bind_eq_some_iff] at viewed ⊢
  obtain ⟨result,parsed,ended⟩ := viewed
  exact ⟨result,parseValue_mono depth more _ _ parsed,ended⟩

theorem Reads.view {depth : Nat} {text : Bytes} {node : Node} (reads : Reads depth text node)
    (shallow : depth ≤ maxNestingDepth) : view text = some node := by
  have wide := reads.mono (maxNestingDepth-depth)
  rw [show depth+(maxNestingDepth-depth) = maxNestingDepth by omega] at wide
  exact wide.viewAt

/-- What a text reads as at any budget is what its view shows, if it has one. -/
theorem Reads.view_eq {depth : Nat} {text : Bytes} {node seen : Node} (reads : Reads depth text node)
    (viewed : Json.view text = some seen) : seen = node := by
  have wide := viewAt_mono maxNestingDepth depth text seen viewed
  have read := (reads.mono maxNestingDepth).viewAt
  rw [Nat.add_comm depth] at read
  exact Option.some.inj (wide.symm.trans read)

inductive Plain : Node → Prop
  | null : Plain .null
  | bool (value : Bool) : Plain (.bool value)
  | num (text : Bytes) (number : Number text) : Plain (.num text)
  | str (chars : Bytes) (passes : Passes chars) : Plain (.str chars)

private theorem word_shape (text : Bytes) (node : Node) (input : Bytes) (result : Node × Bytes)
    (found : word text node input = some result) : result.1 = node := by
  unfold word at found
  split at found
  · cases found; rfl
  · cases found

theorem scalar_plain (input : Bytes) (node : Node) (rest : Bytes) (parsed : scalar input = some (node,rest)) :
    Plain node := by
  unfold scalar at parsed
  split at parsed
  · cases parsed
  split at parsed
  · obtain ⟨⟨chars,_⟩,scanned,same⟩ := Option.map_eq_some_iff.mp parsed
    cases same
    exact .str chars (walk_scanChars .plain _ _ _ scanned).1
  split at parsed
  · have same : node = _ := word_shape _ _ _ _ parsed
    rw [same]; exact .bool true
  split at parsed
  · have same : node = _ := word_shape _ _ _ _ parsed
    rw [same]; exact .bool false
  split at parsed
  · have same : node = _ := word_shape _ _ _ _ parsed
    rw [same]; exact .null
  · obtain ⟨⟨text,_⟩,scanned,same⟩ := Option.map_eq_some_iff.mp parsed
    cases same
    exact .num text (scanNumber_shape _ _ _ scanned)

private theorem member_name (value : Bytes → Option (Node × Bytes)) (input : Bytes) (entry : Bytes × Bytes)
    (rest : Bytes) (parsed : member value input = some (entry,rest)) : Passes entry.1 := by
  unfold member at parsed
  split at parsed
  · simp only [bind,Option.bind_eq_some_iff] at parsed
    obtain ⟨⟨name,after⟩,scanned,parsed⟩ := parsed
    have passes := (walk_scanChars .plain _ _ _ scanned).1
    generalize skipSpace after = following at parsed
    split at parsed
    · obtain ⟨⟨raw,_⟩,_,same⟩ := Option.bind_eq_some_iff.mp parsed
      cases same
      exact passes
    · cases parsed
  · cases parsed

inductive Shaped : Node → Prop
  | plain (node : Node) (shape : Plain node) : Shaped node
  | arr (children : List Bytes) : Shaped (.arr children)
  | obj (members : List (Bytes × Bytes)) (names : ∀ entry ∈ members, Passes entry.1) : Shaped (.obj members)

theorem parseValue_shaped (depth : Nat) (input : Bytes) (node : Node) (rest : Bytes)
    (parsed : parseValue depth input = some (node,rest)) : Shaped node := by
  cases depth with
  | zero => exact .plain node (scalar_plain _ _ _ parsed)
  | succ depth =>
    unfold parseValue at parsed
    split at parsed
    · obtain ⟨⟨members,_⟩,found,same⟩ := Option.map_eq_some_iff.mp parsed
      cases same
      exact .obj members (items_all (fun entry => Passes entry.1)
        (fun input entry rest found => member_name _ input entry rest found) _ _ _ found)
    · obtain ⟨⟨children,_⟩,_,same⟩ := Option.map_eq_some_iff.mp parsed
      cases same
      exact .arr children
    · exact .plain node (scalar_plain _ _ _ parsed)

theorem viewAt_shaped (depth : Nat) (text : Bytes) (node : Node) (viewed : viewAt depth text = some node) :
    Shaped node := by
  simp only [viewAt,bind,Option.bind_eq_some_iff] at viewed
  obtain ⟨⟨found,rest⟩,parsed,ended⟩ := viewed
  split at ended
  · cases ended
    exact parseValue_shaped depth _ _ _ parsed
  · cases ended

theorem Plain.head {depth : Nat} {node : Node} (plain : Plain node) {c : UInt8} {rest : Bytes}
    (reads : Reads depth (c::rest) node) : c ≠ 0x5B ∧ c ≠ 0x7B := by
  have alone := reads [] delimited_nil
  rw [List.append_nil] at alone
  constructor <;> rintro rfl <;> cases depth with
  | zero =>
    rw [parseValue,scalar_bracket _ (by simp)] at alone
    cases alone
  | succ depth =>
    simp only [parseValue,Option.map_eq_some_iff,Prod.mk.injEq] at alone
    obtain ⟨_,_,rfl,_⟩ := alone
    cases plain

/-- A text that is its own compact form. -/
structure Compacted (depth : Nat) (text : Bytes) : Prop where
  reads : ∃ node, Reads depth text node
  fixed : compactAt depth text = some text

private theorem compactScalar_compacted (node : Node) (shape : Plain node) (depth : Nat) :
    ∃ text, compactScalar node = some text ∧ Compacted depth text := by
  have settle (text : Bytes) (node : Node) (reads : Reads depth text node)
      (fixed : compactScalar node = some text) : Compacted depth text := by
    refine ⟨⟨node,reads⟩,?_⟩
    have viewed := reads.viewAt
    cases depth with
    | zero => rw [compactAt,viewed]; exact fixed
    | succ depth =>
      rw [compactAt,viewed]
      cases node <;> first | exact fixed | cases fixed
  cases shape with
  | null => exact ⟨_,rfl,settle _ _ (reads_null depth) rfl⟩
  | bool value => exact ⟨_,rfl,settle _ _ (reads_bool depth value) rfl⟩
  | num text number => exact ⟨_,rfl,settle _ _ (reads_number depth text number) rfl⟩
  | str chars passes =>
    refine ⟨_,rfl,settle _ _ (reads_chars depth _ (passes_escapeChars chars passes)) ?_⟩
    simp only [compactScalar,escapeChars,escapeFrom_idem]

theorem mapM_member {α β : Type} (f : α → Option β) (inputs : List α) (outputs : List β)
    (mapped : inputs.mapM f = some outputs) : ∀ output ∈ outputs, ∃ input ∈ inputs, f input = some output := by
  induction inputs generalizing outputs with
  | nil => cases mapped; simp
  | cons input inputs ih =>
    rw [List.mapM_cons] at mapped
    simp only [bind,pure,Option.bind_eq_some_iff] at mapped
    obtain ⟨first,head,others,tail,same⟩ := mapped
    cases same
    intro output found
    rcases List.mem_cons.mp found with rfl | later
    · exact ⟨input,by simp,head⟩
    · obtain ⟨source,member,form⟩ := ih others tail output later
      exact ⟨source,by simp [member],form⟩

theorem mapM_fixed {α : Type} (f : α → Option α) (inputs : List α)
    (fixed : ∀ input ∈ inputs, f input = some input) : inputs.mapM f = some inputs := by
  induction inputs with
  | nil => rfl
  | cons input inputs ih =>
    rw [List.mapM_cons,fixed input (by simp),ih (fun other found => fixed other (by simp [found]))]
    rfl

theorem compacted_object (depth : Nat) (entries : List (Bytes × Bytes))
    (each : ∀ entry ∈ entries, Compacted depth entry.2 ∧ Passes entry.1 ∧ escapeChars entry.1 = entry.1) :
    Compacted (depth+1) (encodeObject entries) := by
  have reads := reads_object depth entries (fun entry found => (each entry found).2.1)
    (fun entry found => (each entry found).1.reads)
  refine ⟨⟨_,reads⟩,?_⟩
  rw [compactAt,reads.viewAt]
  have fixed : entries.mapM (fun entry => (compactAt depth entry.2).map
      (fun value => (escapeChars entry.1,value))) = some entries := by
    refine mapM_fixed _ entries (fun entry found => ?_)
    obtain ⟨settled,_,same⟩ := each entry found
    rw [settled.fixed,Option.map_some,same]
  simp [fixed]

/-- Compacting yields a text that reads as a value and is its own compact form. -/
theorem compactAt_compacted (depth : Nat) (text result : Bytes) (compacted : compactAt depth text = some result) :
    Compacted depth result := by
  induction depth generalizing text result with
  | zero =>
    obtain ⟨node,viewed,printed⟩ := Option.bind_eq_some_iff.mp compacted
    cases viewAt_shaped 0 text node viewed with
    | plain _ shape =>
      obtain ⟨out,same,settled⟩ := compactScalar_compacted node shape 0
      rw [← Option.some.inj (same.symm.trans printed)]
      exact settled
    | arr children => cases printed
    | obj members names => cases printed
  | succ depth ih =>
    obtain ⟨node,viewed,printed⟩ := Option.bind_eq_some_iff.mp compacted
    cases viewAt_shaped (depth+1) text node viewed with
    | plain _ shape =>
      obtain ⟨out,same,settled⟩ := compactScalar_compacted node shape (depth+1)
      cases shape <;> (rw [← Option.some.inj (same.symm.trans printed)]; exact settled)
    | arr children =>
      obtain ⟨texts,mapped,rfl⟩ := Option.map_eq_some_iff.mp printed
      have each (child : Bytes) (found : child ∈ texts) : Compacted depth child := by
        obtain ⟨source,_,form⟩ := mapM_member _ _ _ mapped child found
        exact ih source child form
      have reads := reads_array depth texts (fun child found => (each child found).reads)
      refine ⟨⟨_,reads⟩,?_⟩
      rw [compactAt,reads.viewAt]
      simp [mapM_fixed (compactAt depth) texts (fun child found => (each child found).fixed)]
    | obj members names =>
      obtain ⟨entries,mapped,rfl⟩ := Option.map_eq_some_iff.mp printed
      have each (entry : Bytes × Bytes) (found : entry ∈ entries) :
          Compacted depth entry.2 ∧ Passes entry.1 ∧ escapeChars entry.1 = entry.1 := by
        obtain ⟨source,member,form⟩ := mapM_member _ _ _ mapped entry found
        obtain ⟨value,inner,rfl⟩ := Option.map_eq_some_iff.mp form
        exact ⟨ih _ _ inner,passes_escapeChars _ (names source member),escapeFrom_idem _⟩
      exact compacted_object depth entries each

theorem compact_compacted (text result : Bytes) (compacted : compact text = some result) :
    Compacted maxNestingDepth result :=
  compactAt_compacted maxNestingDepth text result compacted

theorem compact_idem (text result : Bytes) (compacted : compact text = some result) :
    compact result = some result :=
  (compact_compacted text result compacted).fixed

end Kmtproto.Json
