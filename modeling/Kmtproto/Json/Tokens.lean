import Kmtproto.Json.Nesting

/-! The token stream follows the grammar. Whatever space stands between the tokens,
each token the decoder hands out is a piece of the value the parser sees there,
and each piece of a value the parser sees is handed out as a token. -/
namespace Kmtproto.Json

theorem skipSpace_length (input : Bytes) : (skipSpace input).length ≤ input.length :=
  (List.dropWhile_sublist _).length_le

theorem delimited_skipped {input : Bytes} {c : UInt8} {rest : Bytes} (skipped : skipSpace input = c::rest)
    (structural : c = 0x2C ∨ c = 0x5D ∨ c = 0x7D) : Delimited input := by
  obtain ⟨spaces,split,space⟩ := skipSpace_split input
  rw [split,skipped]
  exact delimited_spaces space (delimited_cons c rest (Or.inr structural))

section Sequence
variable {α : Type}

inductive Tail (item : Bytes → Option (α × Bytes)) (close : UInt8) : Bytes → List α → Bytes → Prop
  | stop {input rest : Bytes} (skipped : skipSpace input = close::rest) : Tail item close input [] rest
  | more {input next after rest : Bytes} {value : α} {values : List α} (skipped : skipSpace input = 0x2C::next)
      (taken : item (skipSpace next) = some (value,after)) (others : Tail item close after values rest) :
      Tail item close input (value::values) rest

inductive Sequence (item : Bytes → Option (α × Bytes)) (close : UInt8) : Bytes → List α → Bytes → Prop
  | empty {input rest : Bytes} (skipped : skipSpace input = close::rest) : Sequence item close input [] rest
  | first {input after rest : Bytes} {value : α} {values : List α} (taken : item (skipSpace input) = some (value,after))
      (others : Tail item close after values rest) : Sequence item close input (value::values) rest

variable {item wider : Bytes → Option (α × Bytes)} {close : UInt8} {input rest : Bytes} {values : List α}

theorem Tail.mono (same : ∀ input result, item input = some result → wider input = some result)
    (tail : Tail item close input values rest) : Tail wider close input values rest := by
  induction tail with
  | stop skipped => exact .stop skipped
  | more skipped taken _ ih => exact .more skipped (same _ _ taken) ih

theorem Tail.delimited (tail : Tail item close input values rest) (closing : close = 0x5D ∨ close = 0x7D) :
    Delimited input := by
  cases tail with
  | stop skipped => exact delimited_skipped skipped (Or.inr closing)
  | more skipped _ _ => exact delimited_skipped skipped (Or.inl rfl)

private theorem sepBy_tail (fuel : Nat) (parsed : sepBy item close fuel input = some (values,rest)) :
    ∃ value others after, values = value::others ∧ item (skipSpace input) = some (value,after) ∧
      Tail item close after others rest := by
  induction fuel generalizing input values with
  | zero => cases parsed
  | succ fuel ih =>
    simp only [sepBy,bind,Option.bind_eq_some_iff] at parsed
    obtain ⟨⟨first,after⟩,head,tail⟩ := parsed
    split at tail
    · cases tail
    rename_i c later skipped
    split at tail
    · rename_i comma
      obtain ⟨⟨others,_⟩,parsed,same⟩ := Option.bind_eq_some_iff.mp tail
      cases same
      cases comma
      obtain ⟨value,more,next,rfl,taken,further⟩ := ih parsed
      exact ⟨first,_,after,rfl,head,.more skipped taken further⟩
    split at tail
    · rename_i closes
      cases tail
      cases closes
      exact ⟨first,[],after,rfl,head,.stop skipped⟩
    · cases tail

private theorem Tail.length_lt (parsing : Local item) (tail : Tail item close input values rest) :
    values.length < input.length := by
  induction tail with
  | @stop input _ skipped =>
    have shorter := skipSpace_length input
    rw [skipped,List.length_cons] at shorter
    rw [List.length_nil]
    omega
  | @more input next after _ _ _ skipped taken _ ih =>
    have shorter := skipSpace_length input
    have inside := skipSpace_length next
    obtain ⟨c,text,form,_⟩ := parsing _ _ _ taken
    rw [skipped,List.length_cons] at shorter
    rw [form,List.length_append] at inside
    rw [List.length_cons]
    omega

private theorem Tail.sepBy (separate : close ≠ 0x2C) {value : α} {after : Bytes} (fuel : Nat) (enough : values.length < fuel)
    (taken : item (skipSpace input) = some (value,after)) (tail : Tail item close after values rest) :
    Json.sepBy item close fuel input = some (value::values,rest) := by
  induction tail generalizing input value fuel with
  | stop skipped =>
    obtain ⟨fuel,rfl⟩ : ∃ n, fuel = n+1 := ⟨fuel-1,by omega⟩
    simp [Json.sepBy,taken,skipped,separate]
  | more skipped next _ ih =>
    obtain ⟨fuel,rfl⟩ : ∃ n, fuel = n+1 := ⟨fuel-1,by omega⟩
    have others := ih fuel (by simpa using enough) next
    simp [Json.sepBy,taken,skipped,others]

/-- The parser of a sequence accepts the sequences of the grammar. -/
theorem items_iff (parsing : Local item) (closing : close = 0x5D ∨ close = 0x7D)
    (starts : ∀ input result, item input = some result → input.head? ≠ some close) :
    items item close input = some (values,rest) ↔ Sequence item close input values rest := by
  unfold items
  constructor
  · intro parsed
    split at parsed
    · cases parsed
    rename_i c later skipped
    split at parsed
    · rename_i closes
      cases parsed
      cases closes
      exact .empty skipped
    · obtain ⟨value,others,after,rfl,taken,tail⟩ := sepBy_tail _ parsed
      exact .first taken tail
  · intro found
    cases found with
    | empty skipped => rw [skipped]; simp
    | first taken tail =>
      obtain ⟨c,text,form,_⟩ := parsing _ _ _ taken
      have other : c ≠ close := by
        have head := starts _ _ taken
        rw [form] at head
        simpa using head
      have separate : close ≠ 0x2C := by rcases closing with rfl | rfl <;> decide
      have short := skipSpace_length input
      rw [form,List.length_append,List.length_cons] at short
      have parsed := tail.sepBy separate input.length (by have few := tail.length_lt parsing; omega) taken
      rw [form,List.cons_append]
      simp only [if_neg other,parsed]

end Sequence

section Tokens
variable {dec after : Decoder} {token : Token} {c : UInt8} {rest : Bytes}

def TokenState.separator : TokenState → Option (UInt8 × TokenState)
  | .arrayComma => some (0x2C,.arrayValue)
  | .objectComma => some (0x2C,.objectKey)
  | .objectColon => some (0x3A,.objectValue)
  | _ => none

theorem Decoder.peek_skipped (skipped : skipSpace dec.input = c::rest) : dec.peek = some c := by
  rw [peek,skipped]
  rfl

theorem Decoder.advance_skipped (skipped : skipSpace dec.input = c::rest) (state : TokenState) :
    dec.advance state = ⟨rest,state,dec.stack⟩ := by
  rw [advance,skipped]
  rfl

theorem Decoder.more_skipped (dec : Decoder) (skipped : skipSpace dec.input = c::rest) : dec.more = (c != 0x5D && c != 0x7D) := by
  rw [more,peek_skipped skipped]

private theorem Decoder.tokenFrom_settled (settled : dec.state.separator = none) (fuel : Nat) :
    dec.tokenFrom (fuel+1) =
      match dec.peek with
      | none => .error .eof
      | some c => if c = 0x3A ∨ c = 0x2C then .error .malformed else dec.tokenAt c := by
  rw [tokenFrom]
  cases dec.peek with
  | none => rfl
  | some c =>
    have states : dec.state ≠ .objectColon ∧ dec.state ≠ .arrayComma ∧ dec.state ≠ .objectComma := by
      refine ⟨?_,?_,?_⟩ <;> intro state <;> rw [state] at settled <;> cases settled
    by_cases colon : c = 0x3A
    · simp [colon,states]
    · by_cases comma : c = 0x2C
      · simp [comma,states]
      · simp [colon,comma]

theorem Decoder.token_settled (settled : dec.state.separator = none) (skipped : skipSpace dec.input = c::rest) :
    dec.token = if c = 0x3A ∨ c = 0x2C then .error .malformed else dec.tokenAt c := by
  rw [token,tokenFrom_settled settled,peek_skipped skipped]

theorem TokenState.separator_settled {state next : TokenState} (waits : state.separator = some (c,next)) :
    next.separator = none := by
  cases state <;> cases waits <;> rfl

theorem TokenState.separator_shut {state next : TokenState} (waits : state.separator = some (c,next)) :
    state.valueAllowed = false := by
  cases state <;> first | rfl | cases waits

theorem Decoder.token_separated {next : TokenState} (waits : dec.state.separator = some (c,next))
    (skipped : skipSpace dec.input = c::rest) : dec.token = (⟨rest,next,dec.stack⟩ : Decoder).token := by
  have size : 0 < dec.input.length := by
    have short := skipSpace_length dec.input
    rw [skipped,List.length_cons] at short
    omega
  obtain ⟨fuel,length⟩ : ∃ n, dec.input.length = n+1 := ⟨dec.input.length-1,by omega⟩
  have behind : (⟨rest,next,dec.stack⟩ : Decoder).tokenFrom (fuel+1) = (⟨rest,next,dec.stack⟩ : Decoder).token := by
    have settled := TokenState.separator_settled waits
    rw [token,tokenFrom_settled settled,tokenFrom_settled settled]
  rw [← behind,token,length,tokenFrom,peek_skipped skipped]
  cases state : dec.state <;> rw [state] at waits <;> cases waits <;> simp [advance_skipped skipped]

theorem Decoder.decode_allowed (dec : Decoder) (allowed : dec.state.valueAllowed = true) (skipped : skipSpace dec.input = c::rest) :
    dec.decode =
      match rawText (parseValue maxNestingDepth) (c::rest) with
      | none => .error .malformed
      | some (raw,later) => .ok (raw,⟨later,dec.state.valueEnd,dec.stack⟩) := by
  have ready : dec.prepare = .ok dec := by
    unfold prepare
    cases state : dec.state <;> simp_all [TokenState.valueAllowed]
  simp only [decode,ready,bind,Except.bind,allowed,skipped]
  rfl

inductive Takes (dec : Decoder) : UInt8 → Bytes → Token → Decoder → Prop
  | opens {c : UInt8} {rest : Bytes} {inside : TokenState}
      (bracket : c = 0x5B ∧ inside = .arrayStart ∨ c = 0x7B ∧ inside = .objectStart)
      (allowed : dec.state.valueAllowed = true) : Takes dec c rest (.delim c) ⟨rest,inside,dec.state::dec.stack⟩
  | closes {c : UInt8} {rest : Bytes} {outer : TokenState} {stack : List TokenState}
      (bracket : c = 0x5D ∧ (dec.state = .arrayStart ∨ dec.state = .arrayComma) ∨
        c = 0x7D ∧ (dec.state = .objectStart ∨ dec.state = .objectComma))
      (nested : dec.stack = outer::stack) : Takes dec c rest (.delim c) ⟨rest,outer.valueEnd,stack⟩
  | name {rest later chars key : Bytes} (state : dec.state = .objectStart ∨ dec.state = .objectKey)
      (scanned : scanChars .plain rest = some (chars,later)) (decoded : unquote chars = some key) :
      Takes dec 0x22 rest (.text key) ⟨later,.objectColon,dec.stack⟩
  | literal {c : UInt8} {rest later : Bytes} {node : Node} {token : Token} (allowed : dec.state.valueAllowed = true)
      (parsed : scalar (c::rest) = some (node,later)) (plain : ∀ d, token ≠ .delim d) :
      Takes dec c rest token ⟨later,dec.state.valueEnd,dec.stack⟩

private theorem unquoteText_scanned {rest chars later : Bytes} (scanned : scanChars .plain rest = some (chars,later)) :
    rawText (parseValue maxNestingDepth) (0x22::rest) = some (0x22::(chars++[0x22]),later) ∧
      unquoteText (0x22::(chars++[0x22])) = unquote chars := by
  obtain ⟨passes,form⟩ := walk_scanChars .plain _ _ _ scanned
  have reads := reads_chars maxNestingDepth chars passes
  refine ⟨?_,?_⟩
  · have parsed : parseValue maxNestingDepth (0x22::rest) = some (.str chars,later) := by
      rw [parseValue_scalar maxNestingDepth 0x22 rest (by decide) (by decide)]
      simp [scalar,scanned]
    have split : 0x22::rest = (0x22::(chars++[0x22]))++later := by rw [form]; simp
    rw [rawText,parsed,Option.map_some]
    simp only [split,List.length_append,Nat.add_sub_cancel,List.take_left]
  · rw [unquoteText,reads.view (Nat.le_refl _)]

private theorem Decoder.name_takes (skipped : skipSpace dec.input = 0x22::rest)
    (state : dec.state = .objectStart ∨ dec.state = .objectKey) (taken : dec.name = .ok (token,after)) :
    Takes dec 0x22 rest token after := by
  rw [name,decode_allowed {dec with state := .topValue} rfl skipped] at taken
  cases scanned : scanChars .plain rest with
  | none =>
    have unread : rawText (parseValue maxNestingDepth) (0x22::rest) = none := by
      rw [rawText,parseValue_scalar maxNestingDepth 0x22 rest (by decide) (by decide)]
      simp [scalar,scanned]
    rw [unread] at taken
    cases taken
  | some result =>
    obtain ⟨chars,later⟩ := result
    obtain ⟨raw,text⟩ := unquoteText_scanned scanned
    rw [raw] at taken
    simp only [bind,Except.bind,text] at taken
    cases decoded : unquote chars with
    | none => rw [decoded] at taken; cases taken
    | some key =>
      rw [decoded] at taken
      cases taken
      exact .name state scanned decoded

private theorem Decoder.literal_takes (skipped : skipSpace dec.input = c::rest) (brace : c ≠ 0x7B) (bracket : c ≠ 0x5B)
    (taken : dec.literal = .ok (token,after)) : Takes dec c rest token after := by
  rw [literal] at taken
  split at taken
  · rename_i allowed
    rw [decode_allowed dec allowed skipped,rawText,parseValue_scalar maxNestingDepth c rest brace bracket] at taken
    cases parsed : scalar (c::rest) with
    | none => rw [parsed] at taken; cases taken
    | some result =>
      rw [parsed] at taken
      simp only [bind,Except.bind,Option.map_some] at taken
      split at taken <;> cases taken <;> exact .literal allowed parsed (by simp)
  · cases taken

/-- Every token is one of these. -/
theorem Decoder.tokenAt_takes (skipped : skipSpace dec.input = c::rest) (taken : dec.tokenAt c = .ok (token,after)) :
    Takes dec c rest token after := by
  have opened (inside : TokenState) (taken : dec.open c inside = .ok (token,after))
      (bracket : c = 0x5B ∧ inside = .arrayStart ∨ c = 0x7B ∧ inside = .objectStart) : Takes dec c rest token after := by
    rw [Decoder.open,advance_skipped skipped] at taken
    split at taken
    · rename_i allowed
      cases taken
      exact .opens bracket allowed
    · cases taken
  have closed (start comma : TokenState) (taken : dec.close c start comma = .ok (token,after))
      (bracket : c = 0x5D ∧ start = .arrayStart ∧ comma = .arrayComma ∨ c = 0x7D ∧ start = .objectStart ∧ comma = .objectComma) :
      Takes dec c rest token after := by
    rw [Decoder.close] at taken
    split at taken
    · rename_i state
      split at taken
      · cases taken
      rename_i outer stack nested
      rw [advance_skipped skipped] at taken
      cases taken
      refine .closes ?_ nested
      rcases bracket with ⟨same,rfl,rfl⟩ | ⟨same,rfl,rfl⟩
      · exact Or.inl ⟨same,state⟩
      · exact Or.inr ⟨same,state⟩
    · cases taken
  rw [tokenAt] at taken
  split at taken
  · rename_i bracket
    exact opened _ taken (Or.inl ⟨bracket,rfl⟩)
  rename_i bracket
  split at taken
  · rename_i same
    exact closed _ _ taken (Or.inl ⟨same,rfl,rfl⟩)
  split at taken
  · rename_i brace
    exact opened _ taken (Or.inr ⟨brace,rfl⟩)
  rename_i brace
  split at taken
  · rename_i same
    exact closed _ _ taken (Or.inr ⟨same,rfl,rfl⟩)
  split at taken
  · rename_i named
    obtain ⟨rfl,state⟩ := named
    exact name_takes skipped state taken
  · exact literal_takes skipped brace bracket taken

theorem Decoder.token_visible (taken : dec.token = .ok (token,after)) : ∃ c rest, skipSpace dec.input = c::rest := by
  cases skipped : skipSpace dec.input with
  | nil =>
    rw [Decoder.token,tokenFrom,peek,skipped] at taken
    cases taken
  | cons c rest => exact ⟨c,rest,rfl⟩

theorem Decoder.token_takes (settled : dec.state.separator = none) (taken : dec.token = .ok (token,after)) :
    ∃ c rest, skipSpace dec.input = c::rest ∧ Takes dec c rest token after := by
  obtain ⟨c,rest,skipped⟩ := token_visible taken
  rw [token_settled settled skipped] at taken
  split at taken
  · cases taken
  · exact ⟨c,rest,skipped,tokenAt_takes skipped taken⟩

theorem Decoder.token_opened (settled : dec.state.separator = none) (opening : c = 0x5B ∨ c = 0x7B)
    (taken : dec.token = .ok (.delim c,after)) :
    ∃ rest inside, skipSpace dec.input = c::rest ∧ after = ⟨rest,inside,dec.state::dec.stack⟩ ∧
      (c = 0x5B ∧ inside = .arrayStart ∨ c = 0x7B ∧ inside = .objectStart) := by
  obtain ⟨c,rest,skipped,takes⟩ := token_takes settled taken
  cases takes with
  | opens bracket _ => exact ⟨rest,_,skipped,rfl,bracket⟩
  | closes bracket _ =>
    rcases opening with rfl | rfl <;> rcases bracket with ⟨same,_⟩ | ⟨same,_⟩ <;> cases same
  | literal _ _ plain => exact absurd rfl (plain _)

/-- Without its separator a waiting state takes a closing bracket only. -/
theorem Decoder.token_waiting {next : TokenState} (waits : dec.state.separator = some (c,next))
    (taken : dec.token = .ok (token,after)) :
    (∃ rest, skipSpace dec.input = c::rest) ∨ dec.more = false ∧ dec.state ≠ .objectColon := by
  obtain ⟨d,rest,skipped⟩ := token_visible taken
  by_cases same : d = c
  · exact Or.inl ⟨rest,by rw [skipped,same]⟩
  refine Or.inr ?_
  have direct : dec.tokenAt d = .ok (token,after) := by
    rw [Decoder.token,tokenFrom,peek_skipped skipped] at taken
    cases state : dec.state <;> rw [state] at waits <;> cases waits <;>
      (simp only [same,state,if_false,reduceCtorEq] at taken
       split at taken
       · cases taken
       · exact taken)
  cases tokenAt_takes skipped direct with
  | opens _ allowed => rw [TokenState.separator_shut waits] at allowed; cases allowed
  | closes bracket _ =>
    rw [more_skipped dec skipped]
    rcases bracket with ⟨rfl,state | state⟩ | ⟨rfl,state | state⟩ <;> rw [state] <;> exact ⟨rfl,by simp⟩
  | name state _ _ => rcases state with state | state <;> rw [state] at waits <;> cases waits
  | literal allowed _ _ => rw [TokenState.separator_shut waits] at allowed; cases allowed

private theorem Decoder.token_direct (skipped : skipSpace dec.input = c::rest) (colon : c ≠ 0x3A) (comma : c ≠ 0x2C) :
    dec.token = dec.tokenAt c := by
  rw [token,tokenFrom,peek_skipped skipped]
  simp only [if_neg colon,if_neg comma]

theorem Decoder.token_opens {inside : TokenState} (skipped : skipSpace dec.input = c::rest)
    (bracket : c = 0x5B ∧ inside = .arrayStart ∨ c = 0x7B ∧ inside = .objectStart)
    (allowed : dec.state.valueAllowed = true) : dec.token = .ok (.delim c,⟨rest,inside,dec.state::dec.stack⟩) := by
  have moved := advance_skipped skipped inside
  rcases bracket with ⟨rfl,rfl⟩ | ⟨rfl,rfl⟩ <;> rw [token_direct skipped (by decide) (by decide)] <;>
    simp [tokenAt,Decoder.open,allowed,moved]

theorem Decoder.token_closes {outer : TokenState} {stack : List TokenState} (skipped : skipSpace dec.input = c::rest)
    (bracket : c = 0x5D ∧ (dec.state = .arrayStart ∨ dec.state = .arrayComma) ∨
      c = 0x7D ∧ (dec.state = .objectStart ∨ dec.state = .objectComma))
    (nested : dec.stack = outer::stack) : dec.token = .ok (.delim c,⟨rest,outer.valueEnd,stack⟩) := by
  have moved := advance_skipped skipped outer.valueEnd
  rcases bracket with ⟨rfl,state⟩ | ⟨rfl,state⟩ <;> rw [token_direct skipped (by decide) (by decide)] <;>
    simp [tokenAt,Decoder.close,state,nested,moved]

theorem Decoder.token_named {chars later key : Bytes} (skipped : skipSpace dec.input = 0x22::rest)
    (state : dec.state = .objectStart ∨ dec.state = .objectKey) (scanned : scanChars .plain rest = some (chars,later))
    (decoded : unquote chars = some key) : dec.token = .ok (.text key,⟨later,.objectColon,dec.stack⟩) := by
  obtain ⟨raw,text⟩ := unquoteText_scanned scanned
  have value := decode_allowed {dec with state := .topValue} rfl skipped
  rw [raw] at value
  rw [token_direct skipped (by decide) (by decide)]
  simp [tokenAt,state,name,value,text,decoded,bind,Except.bind]

theorem Decoder.token_literal {node : Node} {later : Bytes} (allowed : dec.state.valueAllowed = true)
    (parsed : scalar (skipSpace dec.input) = some (node,later)) :
    ∃ token, (∀ c, token ≠ .delim c) ∧ dec.token = .ok (token,⟨later,dec.state.valueEnd,dec.stack⟩) := by
  obtain ⟨c,rest,skipped,_,comma,bracket,brace,colon⟩ := parseValue_head 0 _ _ parsed
  rw [skipped] at parsed
  have opening : c ≠ 0x5B ∧ c ≠ 0x7B := by
    refine ⟨?_,?_⟩ <;> rintro rfl <;> simp [scalar,scanNumber,scanSign,scanInteger,isDigit] at parsed
  have quoted : ¬ (c = 0x22 ∧ (dec.state = .objectStart ∨ dec.state = .objectKey)) := by
    rintro ⟨_,state | state⟩ <;> rw [state] at allowed <;> cases allowed
  have value := decode_allowed dec allowed skipped
  rw [rawText,parseValue_scalar maxNestingDepth c rest opening.2 opening.1,parsed,Option.map_some] at value
  rw [token_direct skipped colon comma,tokenAt,if_neg opening.1,if_neg bracket,if_neg opening.2,if_neg brace,
    if_neg quoted,literal,if_pos allowed,value]
  simp only [bind,Except.bind]
  split
  · exact ⟨.literal,by simp,rfl⟩
  · exact ⟨.text _,by simp,rfl⟩

/-- Where no further item follows a token closes the sequence. -/
theorem Decoder.token_stopped (stopped : dec.more = false) (taken : dec.token = .ok (token,after)) :
    ∃ c rest outer stack, skipSpace dec.input = c::rest ∧ token = .delim c ∧ dec.stack = outer::stack ∧
      after = ⟨rest,outer.valueEnd,stack⟩ ∧ (c = 0x5D ∧ (dec.state = .arrayStart ∨ dec.state = .arrayComma) ∨
        c = 0x7D ∧ (dec.state = .objectStart ∨ dec.state = .objectComma)) := by
  obtain ⟨c,rest,skipped⟩ := token_visible taken
  have bracket : c = 0x5D ∨ c = 0x7D := by
    rw [more_skipped dec skipped] at stopped
    grind
  have apart : c ≠ 0x3A ∧ c ≠ 0x2C ∧ c ≠ 0x5B ∧ c ≠ 0x7B ∧ c ≠ 0x22 := by rcases bracket with rfl | rfl <;> decide
  rw [token_direct skipped apart.1 apart.2.1] at taken
  cases tokenAt_takes skipped taken with
  | opens opening _ => rcases opening with ⟨same,_⟩ | ⟨same,_⟩ <;> simp [same] at apart
  | closes bracket nested => exact ⟨c,rest,_,_,skipped,rfl,nested,rfl,bracket⟩
  | name _ _ _ => exact absurd rfl apart.2.2.2.2
  | literal _ parsed _ =>
    obtain ⟨_,_,form,_,_,one,two,_⟩ := parseValue_head 0 _ _ parsed
    cases form
    exact absurd bracket (not_or.mpr ⟨one,two⟩)

section Colon
variable (state : dec.state = .objectColon)
include state

theorem Decoder.decode_after {next : Bytes} (skipped : skipSpace dec.input = 0x3A::next) :
    dec.decode = (⟨next,.objectValue,dec.stack⟩ : Decoder).decode := by
  have ready : dec.prepare = .ok ⟨next,.objectValue,dec.stack⟩ := by
    simp [prepare,state,peek_skipped skipped,advance_skipped skipped]
  have settled : (⟨next,.objectValue,dec.stack⟩ : Decoder).prepare = .ok ⟨next,.objectValue,dec.stack⟩ := rfl
  rw [decode,decode,ready,settled]

theorem Decoder.decode_member {raw : Bytes} (taken : dec.decode = .ok (raw,after)) :
    ∃ next node, skipSpace dec.input = 0x3A::next ∧ parseValue maxNestingDepth (skipSpace next) = some (node,after.input) ∧
      after = ⟨after.input,.objectComma,dec.stack⟩ := by
  have colon : ∃ next, skipSpace dec.input = 0x3A::next := by
    by_contra other
    have missing : dec.peek ≠ some 0x3A := by
      intro found
      obtain ⟨next,form⟩ := List.head?_eq_some_iff.mp found
      exact other ⟨next,form⟩
    simp [decode,prepare,state,missing,bind,Except.bind] at taken
  obtain ⟨next,skipped⟩ := colon
  rw [decode_after state skipped] at taken
  cases start : skipSpace next with
  | nil =>
    have unread : (⟨next,.objectValue,dec.stack⟩ : Decoder).decode = .error .eof := by
      simp [decode,prepare,TokenState.valueAllowed,start,bind,Except.bind]
    rw [unread] at taken
    cases taken
  | cons c rest =>
    rw [decode_allowed ⟨next,.objectValue,dec.stack⟩ rfl start,rawText] at taken
    cases parsed : parseValue maxNestingDepth (c::rest) with
    | none => rw [parsed] at taken; cases taken
    | some result =>
      rw [parsed] at taken
      cases taken
      exact ⟨next,result.1,skipped,by rw [start,parsed],rfl⟩

theorem Decoder.decode_value {next later : Bytes} {node : Node} (skipped : skipSpace dec.input = 0x3A::next)
    (parsed : parseValue maxNestingDepth (skipSpace next) = some (node,later)) :
    ∃ raw, dec.decode = .ok (raw,⟨later,.objectComma,dec.stack⟩) := by
  obtain ⟨c,rest,start,_⟩ := parseValue_head _ _ _ parsed
  rw [start] at parsed
  rw [decode_after state skipped,decode_allowed ⟨next,.objectValue,dec.stack⟩ rfl start,rawText,parsed]
  exact ⟨_,rfl⟩

end Colon

section Shorter

theorem parseValue_shorter (depth : Nat) {input rest : Bytes} {node : Node} (parsed : parseValue depth input = some (node,rest)) :
    rest.length < input.length := by
  obtain ⟨c,text,form,_⟩ := parseValue_local depth _ _ _ parsed
  rw [form,List.length_append,List.length_cons]
  omega

private theorem skipped_shorter {input : Bytes} (skipped : skipSpace input = c::rest) : rest.length < input.length := by
  have short := skipSpace_length input
  rw [skipped,List.length_cons] at short
  omega

private theorem Takes.shorter (takes : Takes dec c rest token after) : after.input.length ≤ rest.length := by
  cases takes with
  | opens _ _ => exact Nat.le_refl _
  | closes _ _ => exact Nat.le_refl _
  | name _ scanned _ =>
    rw [(walk_scanChars .plain _ _ _ scanned).2,List.length_append,List.length_cons]
    exact Nat.le_trans (Nat.le_succ _) (Nat.le_add_left _ _)
  | literal _ parsed _ =>
    have short := parseValue_shorter 0 parsed
    rw [List.length_cons] at short
    exact Nat.lt_succ_iff.mp short

theorem Decoder.token_shorter (taken : dec.token = .ok (token,after)) : after.input.length < dec.input.length := by
  have settled_shorter {dec : Decoder} (settled : dec.state.separator = none) (taken : dec.token = .ok (token,after)) :
      after.input.length < dec.input.length := by
    obtain ⟨c,rest,skipped,takes⟩ := token_takes settled taken
    exact Nat.lt_of_le_of_lt takes.shorter (skipped_shorter skipped)
  cases waits : dec.state.separator with
  | none => exact settled_shorter waits taken
  | some result =>
    obtain ⟨c,next⟩ := result
    rcases token_waiting waits taken with ⟨rest,skipped⟩ | ⟨stopped,_⟩
    · rw [token_separated waits skipped] at taken
      have short := settled_shorter (TokenState.separator_settled waits) taken
      exact Nat.lt_trans short (skipped_shorter skipped)
    · obtain ⟨_,_,_,_,skipped,_,_,rfl,_⟩ := token_stopped stopped taken
      exact skipped_shorter skipped

private theorem Decoder.prepare_length {ready : Decoder} (prepared : dec.prepare = .ok ready) :
    ready.input.length ≤ dec.input.length := by
  have short : ((skipSpace dec.input).drop 1).length ≤ dec.input.length :=
    Nat.le_trans (List.drop_sublist _ _).length_le (skipSpace_length _)
  unfold prepare at prepared
  split at prepared
  · split at prepared <;> cases prepared
    exact short
  · split at prepared <;> cases prepared
    exact short
  · cases prepared
    exact Nat.le_refl _

theorem Decoder.decode_shorter {raw : Bytes} (taken : dec.decode = .ok (raw,after)) :
    after.input.length < dec.input.length := by
  unfold decode at taken
  cases prepared : dec.prepare with
  | error error => rw [prepared] at taken; cases taken
  | ok ready =>
    simp only [prepared,bind,Except.bind] at taken
    split at taken
    · cases taken
    split at taken
    · cases taken
    split at taken
    · cases taken
    rename_i rest found
    cases taken
    obtain ⟨⟨node,_⟩,parsed,same⟩ := Option.map_eq_some_iff.mp found
    cases same
    have one := prepare_length prepared
    have two := skipSpace_length ready.input
    exact Nat.lt_of_lt_of_le (parseValue_shorter _ parsed) (Nat.le_trans two one)

end Shorter

end Tokens

end Kmtproto.Json
