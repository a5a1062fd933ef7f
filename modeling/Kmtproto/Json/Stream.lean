import Kmtproto.Json.Compact

/-! The streaming decoder. It hands out delimiters, names and scalars one by one,
or a whole value at once, and its token state rejects a separator or a value
where the grammar has none. -/
namespace Kmtproto.Json

inductive TokenState where
  | topValue
  | arrayStart
  | arrayValue
  | arrayComma
  | objectStart
  | objectKey
  | objectColon
  | objectValue
  | objectComma
  deriving DecidableEq, Repr

def TokenState.valueAllowed : TokenState → Bool
  | .topValue | .arrayStart | .arrayValue | .objectValue => true
  | _ => false

def TokenState.valueEnd : TokenState → TokenState
  | .arrayStart | .arrayValue => .arrayComma
  | .objectValue => .objectComma
  | state => state

structure Decoder where
  input : Bytes
  state : TokenState := .topValue
  stack : List TokenState := []
  deriving DecidableEq, Repr

inductive StreamError where
  | eof
  | malformed
  deriving DecidableEq, Repr

inductive Token where
  | delim (c : UInt8)
  | text (value : Bytes)
  | literal
  deriving DecidableEq, Repr

def Decoder.peek (dec : Decoder) : Option UInt8 := (skipSpace dec.input).head?

/-- `Decoder.More`: another element follows in the open array or object. -/
def Decoder.more (dec : Decoder) : Bool :=
  match dec.peek with
  | none => false
  | some c => c != 0x5D && c != 0x7D

def Decoder.advance (dec : Decoder) (state : TokenState) : Decoder :=
  {dec with input := (skipSpace dec.input).drop 1, state := state}

/-- A separator expected before a value read as a whole. -/
def Decoder.prepare (dec : Decoder) : Except StreamError Decoder :=
  match dec.state with
  | .arrayComma => if dec.peek = some 0x2C then .ok (dec.advance .arrayValue) else .error .malformed
  | .objectColon => if dec.peek = some 0x3A then .ok (dec.advance .objectValue) else .error .malformed
  | _ => .ok dec

/-- `Decoder.Decode` up to the typed destination: the raw text of the next value. -/
def Decoder.decode (dec : Decoder) : Except StreamError (Bytes × Decoder) := do
  let dec ← dec.prepare
  if !dec.state.valueAllowed then .error .malformed
  else if (skipSpace dec.input).isEmpty then .error .eof
  else match rawText (parseValue maxNestingDepth) (skipSpace dec.input) with
    | none => .error .malformed
    | some (raw,rest) => .ok (raw,{dec with input := rest, state := dec.state.valueEnd})

def Decoder.open (dec : Decoder) (c : UInt8) (inside : TokenState) : Except StreamError (Token × Decoder) :=
  if dec.state.valueAllowed then
    .ok (.delim c,{dec.advance inside with stack := dec.state::dec.stack})
  else .error .malformed

def Decoder.close (dec : Decoder) (c : UInt8) (start comma : TokenState) : Except StreamError (Token × Decoder) :=
  if dec.state = start ∨ dec.state = comma then
    match dec.stack with
    | [] => .error .malformed
    | outer::stack => .ok (.delim c,{dec.advance outer.valueEnd with stack := stack})
  else .error .malformed

def unquoteText (raw : Bytes) : Option Bytes :=
  match view raw with
  | some (.str chars) => unquote chars
  | _ => none

def Decoder.name (dec : Decoder) : Except StreamError (Token × Decoder) := do
  let (raw,after) ← {dec with state := .topValue}.decode
  match unquoteText raw with
  | none => .error .malformed
  | some value => .ok (.text value,{after with state := .objectColon})

def Decoder.literal (dec : Decoder) : Except StreamError (Token × Decoder) :=
  if dec.state.valueAllowed then do
    let (raw,after) ← dec.decode
    match unquoteText raw with
    | none => .ok (.literal,after)
    | some value => .ok (.text value,after)
  else .error .malformed

def Decoder.tokenAt (dec : Decoder) (c : UInt8) : Except StreamError (Token × Decoder) :=
  if c = 0x5B then dec.open c .arrayStart
  else if c = 0x5D then dec.close c .arrayStart .arrayComma
  else if c = 0x7B then dec.open c .objectStart
  else if c = 0x7D then dec.close c .objectStart .objectComma
  else if c = 0x22 ∧ (dec.state = .objectStart ∨ dec.state = .objectKey) then dec.name
  else dec.literal

/-- One token after the separators before it; the fuel bounds the separators. -/
def Decoder.tokenFrom : Nat → Decoder → Except StreamError (Token × Decoder)
  | 0, _ => .error .malformed
  | fuel+1, dec =>
    match dec.peek with
    | none => .error .eof
    | some c =>
      if c = 0x3A then
        if dec.state = .objectColon then tokenFrom fuel (dec.advance .objectValue) else .error .malformed
      else if c = 0x2C then
        if dec.state = .arrayComma then tokenFrom fuel (dec.advance .arrayValue)
        else if dec.state = .objectComma then tokenFrom fuel (dec.advance .objectKey)
        else .error .malformed
      else dec.tokenAt c

/-- `Decoder.Token`. -/
def Decoder.token (dec : Decoder) : Except StreamError (Token × Decoder) :=
  dec.tokenFrom (dec.input.length+1)

section Head
variable (dec : Decoder) (c : UInt8) (rest : Bytes) (same : dec.input = c::rest) (visible : isSpace c = false)
include same visible

theorem Decoder.peek_cons : dec.peek = some c := by
  rw [peek,same,skipSpace_cons c rest visible]
  rfl

theorem Decoder.advance_cons (state : TokenState) : dec.advance state = {dec with input := rest, state := state} := by
  rw [advance,same,skipSpace_cons c rest visible]
  rfl

theorem Decoder.more_cons : dec.more = (c != 0x5D && c != 0x7D) := by
  rw [more,dec.peek_cons c rest same visible]

theorem Decoder.token_cons (colon : c ≠ 0x3A) (comma : c ≠ 0x2C) : dec.token = dec.tokenAt c := by
  simp only [token,tokenFrom,dec.peek_cons c rest same visible,if_neg colon,if_neg comma]

end Head

/-- After an element the comma is skipped and the next value is read. -/
theorem Decoder.token_comma (dec : Decoder) (c : UInt8) (rest : Bytes) (next : TokenState)
    (same : dec.input = 0x2C::c::rest) (visible : isSpace c = false) (colon : c ≠ 0x3A) (comma : c ≠ 0x2C)
    (state : dec.state = .arrayComma ∧ next = .arrayValue ∨ dec.state = .objectComma ∧ next = .objectKey) :
    dec.token = {dec with input := c::rest, state := next}.tokenAt c := by
  have seen := dec.peek_cons 0x2C _ same (by decide)
  have moved := dec.advance_cons 0x2C _ same (by decide)
  have after : ({dec with input := c::rest, state := next} : Decoder).peek = some c :=
    Decoder.peek_cons _ c rest rfl visible
  rcases state with ⟨state,rfl⟩ | ⟨state,rfl⟩ <;>
    simp [token,tokenFrom,same,seen,state,moved,after,colon,comma]

theorem Decoder.token_colon (dec : Decoder) (c : UInt8) (rest : Bytes) (same : dec.input = 0x3A::c::rest)
    (visible : isSpace c = false) (colon : c ≠ 0x3A) (comma : c ≠ 0x2C) (state : dec.state = .objectColon) :
    dec.token = {dec with input := c::rest, state := .objectValue}.tokenAt c := by
  have seen := dec.peek_cons 0x3A _ same (by decide)
  have moved := dec.advance_cons 0x3A _ same (by decide)
  have after : ({dec with input := c::rest, state := .objectValue} : Decoder).peek = some c :=
    Decoder.peek_cons _ c rest rfl visible
  simp [token,tokenFrom,same,seen,state,moved,after,colon,comma]

theorem Decoder.token_open (dec : Decoder) (c : UInt8) (rest : Bytes) (inside : TokenState)
    (same : dec.input = c::rest) (allowed : dec.state.valueAllowed = true)
    (bracket : c = 0x5B ∧ inside = .arrayStart ∨ c = 0x7B ∧ inside = .objectStart) :
    dec.token = .ok (.delim c,⟨rest,inside,dec.state::dec.stack⟩) := by
  have visible : isSpace c = false := by rcases bracket with ⟨rfl,_⟩ | ⟨rfl,_⟩ <;> decide
  have moved := dec.advance_cons c rest same visible inside
  rcases bracket with ⟨rfl,rfl⟩ | ⟨rfl,rfl⟩ <;>
    rw [dec.token_cons _ rest same visible (by decide) (by decide)] <;>
    simp [tokenAt,Decoder.open,allowed,moved]

theorem Decoder.token_close (dec : Decoder) (c : UInt8) (rest : Bytes) (outer : TokenState) (stack : List TokenState)
    (same : dec.input = c::rest) (nested : dec.stack = outer::stack)
    (bracket : c = 0x5D ∧ (dec.state = .arrayStart ∨ dec.state = .arrayComma) ∨
      c = 0x7D ∧ (dec.state = .objectStart ∨ dec.state = .objectComma)) :
    dec.token = .ok (.delim c,⟨rest,outer.valueEnd,stack⟩) := by
  have visible : isSpace c = false := by rcases bracket with ⟨rfl,_⟩ | ⟨rfl,_⟩ <;> decide
  have moved := dec.advance_cons c rest same visible outer.valueEnd
  rcases bracket with ⟨rfl,state⟩ | ⟨rfl,state⟩ <;>
    rw [dec.token_cons _ rest same visible (by decide) (by decide)] <;>
    simp [tokenAt,Decoder.close,state,nested,moved]

/-- A readable value is taken from the input as a whole. -/
theorem Decoder.decode_reads (dec : Decoder) (text rest : Bytes) (node : Node)
    (reads : Reads maxNestingDepth text node) (delimited : Delimited rest) (same : dec.input = text++rest)
    (allowed : dec.state.valueAllowed = true) :
    dec.decode = .ok (text,{dec with input := rest, state := dec.state.valueEnd}) := by
  obtain ⟨c,tail,form,visible,_⟩ := reads.head
  have start : skipSpace dec.input = text++rest := by
    rw [same,form,List.cons_append]
    exact skipSpace_cons c _ visible
  have ready : dec.prepare = .ok dec := by
    unfold prepare
    cases state : dec.state <;> simp_all [TokenState.valueAllowed]
  have nonempty : (text++rest).isEmpty = false := by simp [form]
  simp [decode,ready,allowed,start,nonempty,reads.raw rest delimited,bind,Except.bind]

theorem Decoder.decode_colon (dec : Decoder) (text rest : Bytes) (node : Node)
    (reads : Reads maxNestingDepth text node) (delimited : Delimited rest) (same : dec.input = 0x3A::(text++rest))
    (state : dec.state = .objectColon) :
    dec.decode = .ok (text,{dec with input := rest, state := .objectComma}) := by
  obtain ⟨c,tail,form,visible,_⟩ := reads.head
  have moved := dec.advance_cons 0x3A _ same (by decide) .objectValue
  have ready : dec.prepare = .ok {dec with input := text++rest, state := .objectValue} := by
    simp [prepare,state,dec.peek_cons 0x3A _ same (by decide),moved]
  have start : skipSpace (text++rest) = text++rest := by
    rw [form,List.cons_append]
    exact skipSpace_cons c _ visible
  have nonempty : (text++rest).isEmpty = false := by simp [form]
  simp [decode,ready,TokenState.valueAllowed,TokenState.valueEnd,start,nonempty,reads.raw rest delimited,bind,Except.bind]

theorem Decoder.token_scalar (dec : Decoder) (text rest : Bytes) (node : Node) (plain : Plain node)
    (reads : Reads maxNestingDepth text node) (delimited : Delimited rest) (same : dec.input = text++rest)
    (allowed : dec.state.valueAllowed = true) :
    ∃ token, (∀ c, token ≠ .delim c) ∧
      dec.token = .ok (token,{dec with input := rest, state := dec.state.valueEnd}) := by
  have decoded := dec.decode_reads text rest node reads delimited same allowed
  obtain ⟨c,tail,rfl,visible,comma,bracket,brace,colon⟩ := reads.head
  have opening := plain.head reads
  have quoted : ¬ (c = 0x22 ∧ (dec.state = .objectStart ∨ dec.state = .objectKey)) := by
    rintro ⟨_,state | state⟩ <;> rw [state] at allowed <;> cases allowed
  rw [dec.token_cons c (tail++rest) same visible colon comma,tokenAt,if_neg opening.1,if_neg bracket,
    if_neg opening.2,if_neg brace,if_neg quoted,literal,if_pos allowed,decoded]
  cases text : unquoteText (c::tail) with
  | none => exact ⟨.literal,by simp,by simp [text,bind,Except.bind]⟩
  | some value => exact ⟨.text value,by simp,by simp [text,bind,Except.bind]⟩

theorem Decoder.name_reads (dec : Decoder) (chars rest key : Bytes) (passes : Passes chars)
    (decoded : unquote chars = some key) (same : dec.input = 0x22::(chars++0x22::0x3A::rest)) :
    dec.name = .ok (.text key,{dec with input := 0x3A::rest, state := .objectColon}) := by
  have raw : rawText (parseValue maxNestingDepth) dec.input = some (0x22::(chars++[0x22]),0x3A::rest) := by
    have parsed : parseValue maxNestingDepth dec.input = some (.str chars,0x3A::rest) := by
      rw [same,parseValue_scalar maxNestingDepth 0x22 _ (by decide) (by decide)]
      exact scalar_closed chars _ passes
    rw [rawText,parsed,same]
    have cut : (0x22::(chars++0x22::0x3A::rest)).length - (0x3A::rest).length = (0x22::(chars++[0x22])).length := by
      simp only [List.length_cons,List.length_append,List.length_nil]
      omega
    simp only [Option.map_some,cut]
    have form : 0x22::(chars++0x22::0x3A::rest) = (0x22::(chars++[0x22]))++(0x3A::rest) := by simp
    rw [form,List.take_left]
  have start : skipSpace dec.input = dec.input := by
    rw [same]
    exact skipSpace_cons 0x22 _ (by decide)
  have nonempty : dec.input.isEmpty = false := by simp [same]
  have text : unquoteText (0x22::(chars++[0x22])) = some key := by
    rw [unquoteText,(reads_chars 0 chars passes).view (by decide)]
    exact decoded
  simp [name,decode,prepare,TokenState.valueAllowed,TokenState.valueEnd,start,nonempty,raw,text,bind,Except.bind]

end Kmtproto.Json
