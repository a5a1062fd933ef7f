import Kmtproto.Json.Stream

/-! Parsing is local. The text a value was parsed from parses to that value alone
and before every other value boundary, and so do the texts of its children; a
text that has a view therefore has a compact form. -/
namespace Kmtproto.Json

theorem skipSpace_split (input : Bytes) : ∃ spaces, input = spaces++skipSpace input ∧ ∀ c ∈ spaces, isSpace c = true :=
  ⟨input.takeWhile isSpace,(List.takeWhile_append_dropWhile).symm,fun _ found => List.mem_takeWhile_imp found⟩

theorem skipSpace_spaces (spaces rest : Bytes) (space : ∀ c ∈ spaces, isSpace c = true) :
    skipSpace (spaces++rest) = skipSpace rest := by
  induction spaces with
  | nil => rfl
  | cons c spaces ih =>
    rw [List.cons_append,skipSpace,List.dropWhile_cons_of_pos (space c (by simp))]
    exact ih (fun d found => space d (by simp [found]))

theorem skipSpace_visible {input : Bytes} {c : UInt8} {rest : Bytes} (skipped : skipSpace input = c::rest) :
    isSpace c = false := by
  have head := List.head?_dropWhile_not isSpace input
  rw [show input.dropWhile isSpace = c::rest from skipped] at head
  simpa using head

/-- An item parser whose result depends on the item's text alone. -/
def Local {α : Type} (item : Bytes → Option (α × Bytes)) : Prop :=
  ∀ input value rest, item input = some (value,rest) →
    ∃ c text, input = c::text++rest ∧ ∀ other, Delimited other → item (c::text++other) = some (value,other)

section Sequence
variable {α : Type} {item : Bytes → Option (α × Bytes)} {close : UInt8}

theorem delimited_spaces {spaces rest : Bytes} (space : ∀ c ∈ spaces, isSpace c = true)
    (delimited : Delimited rest) : Delimited (spaces++rest) := by
  cases spaces with
  | nil => exact delimited
  | cons c spaces => exact delimited_cons c _ (Or.inl (space c (by simp)))

private theorem sepBy_local (parsing : Local item) (closing : close = 0x5D ∨ close = 0x7D) (fuel : Nat) (input : Bytes)
    (values : List α) (rest : Bytes) (parsed : sepBy item close fuel input = some (values,rest)) :
    ∃ text, input = text++rest ∧ values.length ≤ text.length ∧ (∃ c tail, skipSpace text = c::tail) ∧
      ∀ other more, values.length ≤ more → sepBy item close more (text++other) = some (values,other) := by
  induction fuel generalizing input values with
  | zero => cases parsed
  | succ fuel ih =>
    simp only [sepBy,bind,Option.bind_eq_some_iff] at parsed
    obtain ⟨⟨first,after⟩,head,tail⟩ := parsed
    obtain ⟨spaces,split,space⟩ := skipSpace_split input
    obtain ⟨c,text,form,again⟩ := parsing _ _ _ head
    have visible : isSpace c = false := skipSpace_visible (form.trans (List.cons_append ..))
    obtain ⟨gap,splitAfter,gapSpace⟩ := skipSpace_split after
    -- the item is parsed again whatever separator follows its text and the space after it
    have one (d : UInt8) (other : Bytes) (structural : d = 0x2C ∨ d = 0x5D ∨ d = 0x7D) :
        item (skipSpace (spaces++(c::text++(gap++d::other)))) = some (first,gap++d::other) ∧
          skipSpace (gap++d::other) = d::other := by
      have shown : isSpace d = false := by rcases structural with rfl | rfl | rfl <;> decide
      refine ⟨?_,?_⟩
      · rw [skipSpace_spaces spaces _ space,List.cons_append,skipSpace_cons c _ visible]
        exact again _ (delimited_spaces gapSpace (delimited_cons d other (Or.inr structural)))
      · rw [skipSpace_spaces gap _ gapSpace,skipSpace_cons d other shown]
    have shown (tail : Bytes) : skipSpace (spaces++(c::text++tail)) = c::(text++tail) := by
      rw [skipSpace_spaces spaces _ space,List.cons_append,skipSpace_cons c _ visible]
    cases following : skipSpace after with
    | nil => simp [following] at tail
    | cons d later =>
      simp only [following] at tail
      have whole : input = spaces++(c::text++(gap++d::later)) := by
        rw [split,form,splitAfter,following]
      by_cases comma : d = 0x2C
      · rw [if_pos comma,Option.bind_eq_some_iff] at tail
        obtain ⟨⟨others,_⟩,parsed,same⟩ := tail
        cases same
        cases comma
        obtain ⟨text',same,size,_,again'⟩ := ih _ _ parsed
        refine ⟨spaces++(c::text++(gap++0x2C::text')),?_,?_,⟨c,_,shown _⟩,fun other more enough => ?_⟩
        · rw [whole,same]
          simp
        · simp only [List.length_cons,List.length_append]
          omega
        · obtain ⟨more,rfl⟩ : ∃ n, more = n+1 := ⟨more-1,by simp only [List.length_cons] at enough; omega⟩
          obtain ⟨item',skipped⟩ := one 0x2C (text'++other) (Or.inl rfl)
          have rest := again' other more (by simpa using enough)
          simp only [List.append_assoc,List.cons_append] at item' ⊢
          simp [sepBy,item',skipped,rest]
      · rw [if_neg comma] at tail
        split at tail
        · rename_i closes
          cases tail
          cases closes
          refine ⟨spaces++(c::text++(gap++[close])),by rw [whole]; simp,by simp; omega,⟨c,_,shown _⟩,fun other more enough => ?_⟩
          obtain ⟨more,rfl⟩ : ∃ n, more = n+1 := ⟨more-1,by simp only [List.length_cons] at enough; omega⟩
          obtain ⟨item',skipped⟩ := one close other (Or.inr closing)
          simp only [List.append_assoc,List.cons_append,List.nil_append] at item' ⊢
          simp [sepBy,item',skipped,comma]
        · cases tail

theorem items_local (parsing : Local item) (closing : close = 0x5D ∨ close = 0x7D) (input : Bytes)
    (values : List α) (rest : Bytes) (parsed : items item close input = some (values,rest)) :
    ∃ text, input = text++rest ∧ ∀ other, items item close (text++other) = some (values,other) := by
  unfold items at parsed
  obtain ⟨spaces,split,space⟩ := skipSpace_split input
  split at parsed
  · cases parsed
  rename_i c tail skipped
  have visible := skipSpace_visible skipped
  split at parsed
  · rename_i closes
    cases parsed
    refine ⟨spaces++[c],by rw [split,skipped]; simp,fun other => ?_⟩
    unfold items
    rw [List.append_assoc,skipSpace_spaces spaces _ space,List.cons_append,List.nil_append,skipSpace_cons c _ visible]
    simp [closes]
  · rename_i continues
    obtain ⟨text,same,size,⟨d,more,start⟩,again⟩ := sepBy_local parsing closing _ _ _ _ parsed
    have head (other : Bytes) : skipSpace (text++other) = d::(more++other) := by
      obtain ⟨front,form,blank⟩ := skipSpace_split text
      rw [form,start,List.append_assoc,skipSpace_spaces front _ blank,List.cons_append,
        skipSpace_cons d _ (skipSpace_visible start)]
    refine ⟨text,same,fun other => ?_⟩
    unfold items
    rw [head,again other _ (by rw [List.length_append]; omega)]
    rw [same,head] at skipped
    cases skipped
    simp [continues]

end Sequence

section Numbers
variable {input text rest : Bytes}

private theorem scanSign_split (input : Bytes) : input = (scanSign input).1++(scanSign input).2 := by
  unfold scanSign
  split <;> rfl

private theorem digits_split (input : Bytes) : input = input.takeWhile isDigit++input.dropWhile isDigit :=
  (List.takeWhile_append_dropWhile).symm

private theorem scanInteger_split (scanned : scanInteger input = some (text,rest)) : input = text++rest := by
  unfold scanInteger at scanned
  split at scanned
  · cases scanned
    rfl
  · split at scanned
    · cases scanned
    · cases scanned
      exact digits_split input

private theorem scanFraction_split (scanned : scanFraction input = some (text,rest)) : input = text++rest := by
  unfold scanFraction at scanned
  split at scanned
  · rename_i tail
    split at scanned
    · cases scanned
    · cases scanned
      exact congrArg (0x2E::·) (digits_split tail)
  · cases scanned
    rfl

private theorem scanExponent_split (scanned : scanExponent input = some (text,rest)) : input = text++rest := by
  unfold scanExponent at scanned
  split at scanned
  · rename_i c tail
    split at scanned
    · have sign : tail = (scanExponentSign tail).1++(scanExponentSign tail).2 := by
        unfold scanExponentSign
        split
        · split <;> rfl
        · rfl
      simp only at scanned
      split at scanned
      · cases scanned
      · cases scanned
        rw [List.cons_append,List.append_assoc,List.takeWhile_append_dropWhile,← sign]
    · cases scanned
      rfl
  · cases scanned
    rfl

private theorem scanNumber_split (scanned : scanNumber input = some (text,rest)) : input = text++rest := by
  simp only [scanNumber,bind,Option.bind_eq_some_iff] at scanned
  obtain ⟨⟨integer,_⟩,whole,⟨fraction,_⟩,part,⟨exponent,_⟩,scale,same⟩ := scanned
  cases same
  have first := scanInteger_split whole
  have second := scanFraction_split part
  have third := scanExponent_split scale
  simp only at first second third
  nth_rewrite 1 [scanSign_split input]
  rw [first,second,third]
  simp

end Numbers

/-- A parsed text ends at a boundary of its own and reads as its node. -/
theorem scalar_local (depth : Nat) (input : Bytes) (node : Node) (rest : Bytes) (parsed : scalar input = some (node,rest)) :
    ∃ text, input = text++rest ∧ Reads depth text node := by
  unfold scalar at parsed
  split at parsed
  · cases parsed
  rename_i c tail
  have word_local (text : Bytes) (value : Node) (found : word text value (c::tail) = some (node,rest)) :
      node = value ∧ c::tail = text++rest := by
    unfold word at found
    split at found
    · rename_i begins
      cases found
      obtain ⟨more,same⟩ := List.isPrefixOf_iff_prefix.mp begins
      exact ⟨rfl,by rw [← same]; simp⟩
    · cases found
  split at parsed
  · rename_i mark
    obtain ⟨⟨chars,_⟩,scanned,same⟩ := Option.map_eq_some_iff.mp parsed
    cases same
    obtain ⟨passes,form⟩ := walk_scanChars .plain _ _ _ scanned
    exact ⟨0x22::(chars++[0x22]),by rw [form,mark]; simp,reads_chars depth chars passes⟩
  split at parsed
  · obtain ⟨rfl,same⟩ := word_local _ _ parsed
    exact ⟨_,same,reads_bool depth true⟩
  split at parsed
  · obtain ⟨rfl,same⟩ := word_local _ _ parsed
    exact ⟨_,same,reads_bool depth false⟩
  split at parsed
  · obtain ⟨rfl,same⟩ := word_local _ _ parsed
    exact ⟨_,same,reads_null depth⟩
  · obtain ⟨⟨text,_⟩,scanned,same⟩ := Option.map_eq_some_iff.mp parsed
    cases same
    refine ⟨text,?_,reads_number depth text (scanNumber_shape _ _ _ scanned)⟩
    exact scanNumber_split scanned

section Value
variable {depth : Nat}

theorem rawText_local (parsing : Local (parseValue depth)) : Local (rawText (parseValue depth)) := by
  intro input raw rest parsed
  obtain ⟨⟨node,_⟩,found,same⟩ := Option.map_eq_some_iff.mp parsed
  cases same
  obtain ⟨c,text,form,again⟩ := parsing _ _ _ found
  refine ⟨c,text,form,fun other delimited => ?_⟩
  have taken (rest : Bytes) : (c::text++rest).take ((c::text++rest).length - rest.length) = c::text := by
    rw [List.length_append,Nat.add_sub_cancel,List.take_left]
  rw [rawText,again other delimited,form,taken]
  exact congrArg (fun raw => some (raw,other)) (taken other)

theorem member_local (parsing : Local (parseValue depth)) : Local (member (parseValue depth)) := by
  intro input entry rest parsed
  unfold member at parsed
  split at parsed
  · rename_i tail
    simp only [bind,Option.bind_eq_some_iff] at parsed
    obtain ⟨⟨name,afterName⟩,scanned,parsed⟩ := parsed
    obtain ⟨passes,form⟩ := walk_scanChars .plain _ _ _ scanned
    obtain ⟨gap,splitName,gapSpace⟩ := skipSpace_split afterName
    split at parsed
    · rename_i afterColon skipped
      obtain ⟨⟨raw,_⟩,found,same⟩ := Option.bind_eq_some_iff.mp parsed
      cases same
      obtain ⟨spaces,split,space⟩ := skipSpace_split afterColon
      obtain ⟨c,text,value,again⟩ := rawText_local parsing _ _ _ found
      have visible : isSpace c = false := skipSpace_visible (value.trans (List.cons_append ..))
      refine ⟨0x22,name++0x22::(gap++0x3A::(spaces++c::text)),?_,fun other delimited => ?_⟩
      · rw [form,splitName,skipped,split,value]
        simp
      · have colon : isSpace 0x3A = false := by decide
        have name' := scanChars_closed name (gap++0x3A::(spaces++c::text++other)) passes
        have value' := again other delimited
        simp only [List.cons_append,List.append_assoc] at name' value' ⊢
        simp [member,name',skipSpace_spaces gap _ gapSpace,skipSpace_cons 0x3A _ colon,skipSpace_spaces spaces _ space,
          skipSpace_cons c _ visible,value']
    · cases parsed
  · cases parsed

theorem parseValue_local (depth : Nat) : Local (parseValue depth) := by
  have scalars (depth : Nat) (input : Bytes) (node : Node) (rest : Bytes) (parsed : scalar input = some (node,rest)) :
      ∃ c text, input = c::text++rest ∧ ∀ other, Delimited other → parseValue depth (c::text++other) = some (node,other) := by
    obtain ⟨text,form,reads⟩ := scalar_local depth input node rest parsed
    obtain ⟨c,tail,rfl,_⟩ := reads.head
    exact ⟨c,tail,form,reads⟩
  induction depth with
  | zero => exact fun input node rest parsed => scalars 0 input node rest parsed
  | succ depth ih =>
    intro input node rest parsed
    unfold parseValue at parsed
    split at parsed
    · rename_i tail
      obtain ⟨⟨members,_⟩,found,same⟩ := Option.map_eq_some_iff.mp parsed
      cases same
      obtain ⟨text,rfl,again⟩ := items_local (member_local ih) (Or.inr rfl) _ _ _ found
      refine ⟨0x7B,text,rfl,fun other _ => ?_⟩
      simp [parseValue,again]
    · rename_i tail
      obtain ⟨⟨children,_⟩,found,same⟩ := Option.map_eq_some_iff.mp parsed
      cases same
      obtain ⟨text,rfl,again⟩ := items_local (rawText_local ih) (Or.inl rfl) _ _ _ found
      refine ⟨0x5B,text,rfl,fun other _ => ?_⟩
      simp [parseValue,again]
    · exact scalars (depth+1) input node rest parsed

/-- A text that parses reads as its node. -/
theorem parseValue_reads {input : Bytes} {node : Node} {rest : Bytes} (parsed : parseValue depth input = some (node,rest)) :
    ∃ text, input = text++rest ∧ Reads depth text node := by
  obtain ⟨c,text,form,again⟩ := parseValue_local depth input node rest parsed
  exact ⟨c::text,form,again⟩

private theorem rawText_reads {input raw rest : Bytes} (parsed : rawText (parseValue depth) input = some (raw,rest)) :
    ∃ node, Reads depth raw node := by
  obtain ⟨⟨node,_⟩,found,same⟩ := Option.map_eq_some_iff.mp parsed
  cases same
  obtain ⟨text,form,reads⟩ := parseValue_reads found
  refine ⟨node,?_⟩
  rw [form]
  simpa using reads

inductive Children (depth : Nat) : Node → Prop
  | plain {node : Node} (plain : Plain node) : Children depth node
  | arr (items : List Bytes) (each : ∀ item ∈ items, ∃ node, Reads depth item node) : Children depth (.arr items)
  | obj (members : List (Bytes × Bytes)) (names : ∀ entry ∈ members, Passes entry.1)
      (each : ∀ entry ∈ members, ∃ node, Reads depth entry.2 node) : Children depth (.obj members)

theorem parseValue_children {input : Bytes} {node : Node} {rest : Bytes}
    (parsed : parseValue (depth+1) input = some (node,rest)) : Children depth node := by
  unfold parseValue at parsed
  split at parsed
  · obtain ⟨⟨members,_⟩,found,same⟩ := Option.map_eq_some_iff.mp parsed
    cases same
    have both := items_all (fun entry : Bytes × Bytes => Passes entry.1 ∧ ∃ node, Reads depth entry.2 node) ?_ _ _ _ found
    · exact .obj members (fun entry member => (both entry member).1) (fun entry member => (both entry member).2)
    intro input entry rest parsed
    unfold member at parsed
    split at parsed
    · simp only [bind,Option.bind_eq_some_iff] at parsed
      obtain ⟨⟨name,afterName⟩,scanned,parsed⟩ := parsed
      split at parsed
      · obtain ⟨⟨raw,_⟩,found,same⟩ := Option.bind_eq_some_iff.mp parsed
        cases same
        exact ⟨(walk_scanChars .plain _ _ _ scanned).1,rawText_reads found⟩
      · cases parsed
    · cases parsed
  · obtain ⟨⟨children,_⟩,found,same⟩ := Option.map_eq_some_iff.mp parsed
    cases same
    exact .arr children (items_all _ (fun _ _ _ parsed => rawText_reads parsed) _ _ _ found)
  · exact .plain (scalar_plain _ _ _ parsed)

theorem viewAt_children {text : Bytes} {node : Node} (viewed : viewAt (depth+1) text = some node) : Children depth node := by
  simp only [viewAt,bind,Option.bind_eq_some_iff] at viewed
  obtain ⟨⟨_,rest⟩,parsed,ended⟩ := viewed
  split at ended
  · cases ended
    exact parseValue_children parsed
  · cases ended

private theorem mapM_total {α β : Type} (f : α → Option β) (inputs : List α) (each : ∀ input ∈ inputs, ∃ output, f input = some output) :
    ∃ outputs, inputs.mapM f = some outputs := by
  induction inputs with
  | nil => exact ⟨[],rfl⟩
  | cons input inputs ih =>
    obtain ⟨output,one⟩ := each input (by simp)
    obtain ⟨outputs,others⟩ := ih (fun other found => each other (by simp [found]))
    exact ⟨output::outputs,by simp [List.mapM_cons,one,others]⟩

theorem viewAt_compactAt {text : Bytes} {node : Node} (viewed : viewAt depth text = some node) :
    ∃ result, compactAt depth text = some result := by
  induction depth generalizing text node with
  | zero =>
    have plain : Plain node := by
      simp only [viewAt,bind,Option.bind_eq_some_iff] at viewed
      obtain ⟨⟨_,rest⟩,parsed,ended⟩ := viewed
      split at ended
      · cases ended
        exact scalar_plain _ _ _ parsed
      · cases ended
    rw [compactAt,viewed]
    cases plain <;> exact ⟨_,rfl⟩
  | succ depth ih =>
    rw [compactAt,viewed]
    cases viewAt_children viewed with
    | plain plain => cases plain <;> exact ⟨_,rfl⟩
    | arr items each =>
      obtain ⟨outputs,all⟩ := mapM_total (compactAt depth) items (fun item found => by
        obtain ⟨node,reads⟩ := each item found
        exact ih reads.viewAt)
      exact ⟨_,by simp [all]; rfl⟩
    | obj members names each =>
      obtain ⟨outputs,all⟩ := mapM_total
        (fun entry : Bytes × Bytes => (compactAt depth entry.2).map (fun value => (escapeChars entry.1,value))) members
        (fun entry found => by
          obtain ⟨node,reads⟩ := each entry found
          obtain ⟨result,same⟩ := ih reads.viewAt
          exact ⟨_,by rw [same]; rfl⟩)
      exact ⟨_,by simp [all]; rfl⟩

/-- A decoder that takes a value from the head of a written text takes all of it, and the
text stays within the nesting limit. -/
theorem Decoder.decode_whole {text raw : Bytes} {node : Node} {dec : Decoder} (reads : Reads depth text node)
    (found : Decoder.decode {input := text} = .ok (raw,dec)) : raw = text ∧ Reads maxNestingDepth text node := by
  obtain ⟨c,tail,form,visible,_⟩ := reads.head
  have start : skipSpace text = text := by
    rw [form]
    exact skipSpace_cons c tail visible
  simp only [Decoder.decode,Decoder.prepare,TokenState.valueAllowed,start,bind,Except.bind,Bool.not_true,
    Bool.false_eq_true,if_false] at found
  split at found
  · cases found
  split at found
  · cases found
  rename_i rest taken
  cases found
  obtain ⟨⟨seen,after⟩,parsed,same⟩ := Option.map_eq_some_iff.mp taken
  obtain ⟨whole,split,again⟩ := parseValue_reads parsed
  -- a deeper budget parses the same value, and the written text is all of it
  have deep := parseValue_mono maxNestingDepth depth _ _ parsed
  have alone := (reads.mono maxNestingDepth) [] delimited_nil
  rw [List.append_nil,Nat.add_comm] at alone
  cases deep.symm.trans alone
  cases same
  rw [List.append_nil] at split
  rw [← split] at again
  exact ⟨by simp,again⟩

end Value

end Kmtproto.Json
