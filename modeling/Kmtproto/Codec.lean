import Kmtproto.Types

/-! Payload decoding. A strict decoder first walks the tokens of a payload and
rejects a repeated member name, except below the members whose values belong to
the application; then the payload is read into its type and must end there. -/
namespace Kmtproto
open Json

/-- The runes `unicode.IsSpace` accepts. -/
def isUnicodeSpace (rune : Bytes) : Bool :=
  rune ∈ [[0x09],[0x0A],[0x0B],[0x0C],[0x0D],[0x20],[0xC2,0x85],[0xC2,0xA0],[0xE1,0x9A,0x80],
    [0xE2,0x80,0x80],[0xE2,0x80,0x81],[0xE2,0x80,0x82],[0xE2,0x80,0x83],[0xE2,0x80,0x84],[0xE2,0x80,0x85],
    [0xE2,0x80,0x86],[0xE2,0x80,0x87],[0xE2,0x80,0x88],[0xE2,0x80,0x89],[0xE2,0x80,0x8A],[0xE2,0x80,0xA8],
    [0xE2,0x80,0xA9],[0xE2,0x80,0xAF],[0xE2,0x81,0x9F],[0xE3,0x80,0x80]]

def trimSpace (raw : Bytes) : Bytes :=
  (((runes raw).dropWhile isUnicodeSpace).reverse.dropWhile isUnicodeSpace).reverse.flatten

def nullText : Bytes := [0x6E,0x75,0x6C,0x6C]

def isNullText (raw : Bytes) : Bool := trimSpace raw == nullText

def streamErrorText : StreamError → Bytes
  | .eof => lit "EOF"
  | .malformed => lit "invalid character"

def ensureJSONEOF (dec : Decoder) : Except Bytes Unit :=
  match dec.decode with
  | .error .eof => .ok ()
  | .error error => .error (lit "invalid trailing JSON: " ++ streamErrorText error)
  | .ok _ => .error (lit "multiple JSON values")

/-- A rune in `%q`. Of the runes above U+00FF none is escaped. -/
def goQuoteRune : Bytes → Bytes
  | [b] =>
    if b = 0x22 ∨ b = 0x5C then [0x5C,b]
    else if 0x07 ≤ b ∧ b ≤ 0x0D then [0x5C,[0x61,0x62,0x74,0x6E,0x76,0x66,0x72].getD (b.toNat-7) b]
    else if b < 0x20 ∨ 0x7F ≤ b then [0x5C,0x78,hexDigit (b/16),hexDigit (b%16)]
    else [b]
  | [0xC2,b] => if b ≤ 0xA0 ∨ b = 0xAD then [0x5C,0x75,0x30,0x30,hexDigit (b/16),hexDigit (b%16)] else [0xC2,b]
  | rune => rune

def goQuote (text : Bytes) : Bytes := 0x22::((runes text).flatMap goQuoteRune++[0x22])

/-- Why a walk stops: an error of the source, or the bound on its steps, which is not one. -/
inductive WalkError
  | failed (text : Bytes)
  | outOfSteps
  deriving DecidableEq

mutual
def walkStrictJSONValue (opaqueFields : List Bytes) : Nat → Decoder → Except WalkError Decoder
  | 0, _ => .error .outOfSteps
  | fuel+1, dec =>
    match dec.token with
    | .error error => .error (.failed (streamErrorText error))
    | .ok (.delim c,dec) =>
      if c = 0x7B then walkMembers opaqueFields fuel dec []
      else if c = 0x5B then walkElements opaqueFields fuel dec
      else .error (.failed (lit "unexpected JSON delimiter"))
    | .ok (_,dec) => .ok dec

def walkMembers (opaqueFields : List Bytes) : Nat → Decoder → List Bytes → Except WalkError Decoder
  | 0, _, _ => .error .outOfSteps
  | fuel+1, dec, seen =>
    if dec.more then
      match dec.token with
      | .error error => .error (.failed (streamErrorText error))
      | .ok (.text key,dec) =>
        if key ∈ seen then .error (.failed (lit "duplicate object member " ++ goQuote key))
        else if key ∈ opaqueFields then
          match dec.decode with
          | .error error => .error (.failed (streamErrorText error))
          | .ok (_,dec) => walkMembers opaqueFields fuel dec (key::seen)
        else
          match walkStrictJSONValue opaqueFields fuel dec with
          | .error error => .error error
          | .ok dec => walkMembers opaqueFields fuel dec (key::seen)
      | .ok _ => .error (.failed (lit "object member name is not a string"))
    else
      match dec.token with
      | .error error => .error (.failed (streamErrorText error))
      | .ok (token,dec) => if token = .delim 0x7D then .ok dec else .error (.failed (lit "unterminated JSON object"))

def walkElements (opaqueFields : List Bytes) : Nat → Decoder → Except WalkError Decoder
  | 0, _ => .error .outOfSteps
  | fuel+1, dec =>
    if dec.more then
      match walkStrictJSONValue opaqueFields fuel dec with
      | .error error => .error error
      | .ok dec => walkElements opaqueFields fuel dec
    else
      match dec.token with
      | .error error => .error (.failed (streamErrorText error))
      | .ok (token,dec) => if token = .delim 0x5D then .ok dec else .error (.failed (lit "unterminated JSON array"))
end

def rejectDuplicateJSONFields (raw : Bytes) (opaqueFields : List Bytes) : Except Err Unit :=
  match walkStrictJSONValue opaqueFields (2*raw.length+2) {input := raw} with
  | .error (.failed text) => fail .badRequest (lit "invalid JSON object: " ++ text)
  | .error .outOfSteps => fail .badRequest (lit "out of steps")
  | .ok dec =>
    match ensureJSONEOF dec with
    | .error text => fail .badRequest text
    | .ok () => .ok ()

/-- The members whose values the application owns. -/
def payloadOpaqueFields : List Bytes := [lit "content",lit "data"]

def decodePayload {α : Type} (read : Bool → Reader α) (zero : α) (raw : Bytes) (strict : Bool) : Except Err α :=
  if raw.isEmpty || isNullText raw then fail .badRequest (lit "missing payload")
  else do
    let _ ← if strict then rejectDuplicateJSONFields raw payloadOpaqueFields else .ok ()
    match ({input := raw} : Decoder).decode with
    | .error error => fail .badRequest (lit "invalid payload: " ++ streamErrorText error)
    | .ok (value,dec) =>
      match read strict zero value with
      | none => fail .badRequest (lit "invalid payload: json: cannot unmarshal")
      | some payload =>
        match ensureJSONEOF dec with
        | .error text => fail .badRequest text
        | .ok () => .ok payload

def payloadFields (raw : Bytes) : Except Err (List (Bytes × Bytes)) :=
  match rawFields raw with
  | none => fail .badRequest (lit "invalid payload: json: cannot unmarshal")
  | some fields => .ok fields

def jsonFieldPresent (raw field : Bytes) : Except Err Bool := do
  let fields ← payloadFields raw
  return (lastField field fields).isSome

def jsonFieldPresentAndNonNull (raw field : Bytes) : Except Err Bool := do
  let fields ← payloadFields raw
  match lastField field fields with
  | none => return false
  | some value => return !isNullText value

/-- A compact text the walk accepts: no object outside the opaque members repeats a name. -/
inductive Walkable (opaqueFields : List Bytes) : Bytes → Prop
  | scalar (text : Bytes) (node : Node) (plain : Plain node) (reads : Reads maxNestingDepth text node) :
      Walkable opaqueFields text
  | array (children : List Bytes) (each : ∀ child ∈ children, Walkable opaqueFields child)
      (visible : ∀ child ∈ children, ∃ node, Reads maxNestingDepth child node) :
      Walkable opaqueFields (encodeArray children)
  | object (members : List (Bytes × Bytes)) (key : Bytes → Bytes)
      (names : ∀ entry ∈ members, Passes entry.1 ∧ unquote entry.1 = some (key entry.1))
      (distinct : (members.map (fun entry => key entry.1)).Nodup)
      (visible : ∀ entry ∈ members, ∃ node, Reads maxNestingDepth entry.2 node)
      (each : ∀ entry ∈ members, key entry.1 ∉ opaqueFields → Walkable opaqueFields entry.2) :
      Walkable opaqueFields (encodeObject members)

private def commaTail (texts : List Bytes) : Bytes := texts.flatMap (fun text => 0x2C::text)

private theorem commaJoin_cons (text : Bytes) (texts : List Bytes) :
    commaJoin (text::texts) = text ++ commaTail texts := by
  induction texts generalizing text with
  | nil => simp [commaJoin,commaTail]
  | cons second texts ih =>
    rw [commaJoin,ih second]
    · simp [commaTail]
    · simp

private theorem commaTail_delimited (texts : List Bytes) (close : UInt8) (closing : close = 0x5D ∨ close = 0x7D)
    (rest : Bytes) : Delimited (commaTail texts ++ close::rest) := by
  cases texts with
  | nil => exact delimited_cons close rest (by rcases closing with rfl | rfl <;> simp)
  | cons text texts => exact delimited_cons 0x2C _ (by simp)

private def Walks (opaqueFields : List Bytes) (text : Bytes) : Prop :=
  ∀ (fuel : Nat) (dec : Decoder) (rest : Bytes), text.length ≤ fuel → Delimited rest →
    dec.input = text++rest → dec.state.valueAllowed = true →
    walkStrictJSONValue opaqueFields fuel dec = .ok {dec with input := rest, state := dec.state.valueEnd}

theorem walk_token (opaqueFields : List Bytes) (fuel : Nat) (first second : Decoder)
    (same : first.token = second.token) :
    walkStrictJSONValue opaqueFields fuel first = walkStrictJSONValue opaqueFields fuel second := by
  cases fuel with
  | zero => rfl
  | succ fuel => simp only [walkStrictJSONValue,same]

private theorem walks_scalar (opaqueFields : List Bytes) (text : Bytes) (node : Node) (plain : Plain node)
    (reads : Reads maxNestingDepth text node) : Walks opaqueFields text := by
  intro fuel dec rest enough delimited same allowed
  obtain ⟨c,tail,form,_⟩ := reads.head
  obtain ⟨fuel,rfl⟩ : ∃ n, fuel = n+1 := ⟨fuel-1,by simp only [form,List.length_cons] at enough; omega⟩
  obtain ⟨token,other,taken⟩ := dec.token_scalar text rest node plain reads delimited same allowed
  rw [walkStrictJSONValue,taken]
  cases token with
  | delim c => exact absurd rfl (other c)
  | text value => rfl
  | literal => rfl

private theorem walkElements_tail (opaqueFields : List Bytes) (children : List Bytes)
    (each : ∀ child ∈ children, Walks opaqueFields child)
    (visible : ∀ child ∈ children, ∃ node, Reads maxNestingDepth child node)
    (fuel : Nat) (rest : Bytes) (outer : TokenState) (stack : List TokenState)
    (enough : (commaTail children).length < fuel) :
    walkElements opaqueFields fuel ⟨commaTail children ++ 0x5D::rest,.arrayComma,outer::stack⟩ =
      .ok ⟨rest,outer.valueEnd,stack⟩ := by
  induction children generalizing fuel with
  | nil =>
    obtain ⟨fuel,rfl⟩ : ∃ n, fuel = n+1 := ⟨fuel-1,by omega⟩
    have start : commaTail [] ++ 0x5D::rest = 0x5D::rest := rfl
    rw [start,walkElements,Decoder.more_cons _ 0x5D rest rfl (by decide),
      Decoder.token_close _ 0x5D rest outer stack rfl rfl (by simp)]
    rfl
  | cons child children ih =>
    obtain ⟨fuel,rfl⟩ : ∃ n, fuel = n+1 := ⟨fuel-1,by omega⟩
    obtain ⟨node,reads⟩ := visible child (by simp)
    obtain ⟨c,tail,form,shown,comma,_,_,colon⟩ := reads.head
    have size : (commaTail (child::children)).length = child.length+1+(commaTail children).length := by
      simp only [commaTail,List.flatMap_cons,List.length_append,List.length_cons]
    have start : commaTail (child::children) ++ 0x5D::rest =
        0x2C::(child ++ (commaTail children ++ 0x5D::rest)) := by
      simp [commaTail]
    have token : (⟨0x2C::(child ++ (commaTail children ++ 0x5D::rest)),.arrayComma,outer::stack⟩ : Decoder).token =
        (⟨child ++ (commaTail children ++ 0x5D::rest),.arrayValue,outer::stack⟩ : Decoder).token := by
      rw [form,List.cons_append,Decoder.token_comma _ c _ .arrayValue rfl shown colon comma (by simp),
        Decoder.token_cons _ c _ rfl shown colon comma]
    have walked := each child (by simp) fuel
      ⟨child ++ (commaTail children ++ 0x5D::rest),.arrayValue,outer::stack⟩ _ (by omega)
      (commaTail_delimited children 0x5D (by simp) rest) rfl rfl
    rw [start,walkElements,Decoder.more_cons _ 0x2C _ rfl (by decide),walk_token opaqueFields fuel _ _ token,walked]
    exact ih (fun other found => each other (by simp [found])) (fun other found => visible other (by simp [found]))
      fuel (by omega)

private theorem walks_array (opaqueFields : List Bytes) (children : List Bytes)
    (each : ∀ child ∈ children, Walks opaqueFields child)
    (visible : ∀ child ∈ children, ∃ node, Reads maxNestingDepth child node) :
    Walks opaqueFields (encodeArray children) := by
  intro fuel dec rest enough delimited same allowed
  have input : dec.input = 0x5B::(commaJoin children ++ 0x5D::rest) := by rw [same]; simp [encodeArray]
  have size : (encodeArray children).length = (commaJoin children).length+2 := by simp [encodeArray]
  obtain ⟨fuel,rfl⟩ : ∃ n, fuel = n+2 := ⟨fuel-2,by omega⟩
  rw [walkStrictJSONValue,dec.token_open 0x5B _ .arrayStart input allowed (by simp)]
  simp only [if_neg (show ¬ (0x5B : UInt8) = 0x7B by decide),if_true]
  cases children with
  | nil =>
    have start : commaJoin [] ++ 0x5D::rest = 0x5D::rest := rfl
    rw [start,walkElements,Decoder.more_cons _ 0x5D rest rfl (by decide),
      Decoder.token_close _ 0x5D rest dec.state dec.stack rfl rfl (by simp)]
    rfl
  | cons child children =>
    obtain ⟨node,reads⟩ := visible child (by simp)
    obtain ⟨c,tail,form,shown,comma,bracket,brace,_⟩ := reads.head
    have joined := commaJoin_cons child children
    have start : commaJoin (child::children) ++ 0x5D::rest = child ++ (commaTail children ++ 0x5D::rest) := by
      rw [joined,List.append_assoc]
    have head : child ++ (commaTail children ++ 0x5D::rest) = c::(tail ++ (commaTail children ++ 0x5D::rest)) := by
      rw [form,List.cons_append]
    have positive : 0 < child.length := by simp [form]
    have walked := each child (by simp) fuel ⟨child ++ (commaTail children ++ 0x5D::rest),.arrayStart,dec.state::dec.stack⟩
      _ (by rw [joined,List.length_append] at size; omega)
      (commaTail_delimited children 0x5D (by simp) rest) rfl rfl
    rw [start,walkElements,Decoder.more_cons _ c _ head shown]
    simp only [bne_iff_ne.mpr bracket,bne_iff_ne.mpr brace,Bool.and_true,if_true,walked]
    exact walkElements_tail opaqueFields children (fun other found => each other (by simp [found]))
      (fun other found => visible other (by simp [found])) fuel rest dec.state dec.stack
      (by rw [joined,List.length_append] at size; omega)

section Members
variable (opaqueFields : List Bytes) (key : Bytes → Bytes)

private structure MemberWalks (entry : Bytes × Bytes) : Prop where
  passes : Passes entry.1
  decoded : unquote entry.1 = some (key entry.1)
  visible : ∃ node, Reads maxNestingDepth entry.2 node
  walks : key entry.1 ∉ opaqueFields → Walks opaqueFields entry.2

private theorem encodeMember_length (entry : Bytes × Bytes) :
    (encodeMember entry).length = entry.1.length+entry.2.length+3 := by
  simp only [encodeMember,List.length_cons,List.length_append]
  omega

private theorem walkMembers_step (entry : Bytes × Bytes) (walks : MemberWalks opaqueFields key entry)
    (seen : List Bytes) (fresh : key entry.1 ∉ seen) (fuel : Nat) (enough : entry.2.length ≤ fuel) (rest : Bytes)
    (delimited : Delimited rest) (dec : Decoder) (more : dec.more = true)
    (token : dec.token = {dec with input := encodeMember entry ++ rest}.name) :
    walkMembers opaqueFields (fuel+1) dec seen =
      walkMembers opaqueFields fuel {dec with input := rest, state := .objectComma} (key entry.1::seen) := by
  obtain ⟨node,reads⟩ := walks.visible
  have named := Decoder.name_reads {dec with input := encodeMember entry ++ rest} entry.1 (entry.2++rest) (key entry.1)
    walks.passes walks.decoded (by simp [encodeMember])
  rw [walkMembers,if_pos more,token,named]
  simp only [if_neg fresh]
  by_cases skipped : key entry.1 ∈ opaqueFields
  · rw [if_pos skipped,Decoder.decode_colon _ entry.2 rest node reads delimited rfl rfl]
  · obtain ⟨c,tail,form,shown,comma,_,_,colon⟩ := reads.head
    have value : (⟨0x3A::(entry.2++rest),.objectColon,dec.stack⟩ : Decoder).token =
        (⟨entry.2++rest,.objectValue,dec.stack⟩ : Decoder).token := by
      rw [form,List.cons_append,Decoder.token_colon _ c _ rfl shown colon comma rfl,
        Decoder.token_cons _ c _ rfl shown colon comma]
    have walked := walks.walks skipped fuel ⟨entry.2++rest,.objectValue,dec.stack⟩ rest enough delimited rfl rfl
    rw [if_neg skipped,walk_token opaqueFields fuel _ _ value,walked]
    rfl

private theorem walkMembers_tail (members : List (Bytes × Bytes)) (seen : List Bytes)
    (each : ∀ entry ∈ members, MemberWalks opaqueFields key entry)
    (distinct : (members.map (fun entry => key entry.1)).Nodup)
    (fresh : ∀ entry ∈ members, key entry.1 ∉ seen)
    (fuel : Nat) (rest : Bytes) (outer : TokenState) (stack : List TokenState)
    (enough : (commaTail (members.map encodeMember)).length < fuel) :
    walkMembers opaqueFields fuel ⟨commaTail (members.map encodeMember) ++ 0x7D::rest,.objectComma,outer::stack⟩ seen =
      .ok ⟨rest,outer.valueEnd,stack⟩ := by
  induction members generalizing fuel seen with
  | nil =>
    obtain ⟨fuel,rfl⟩ : ∃ n, fuel = n+1 := ⟨fuel-1,by omega⟩
    have start : commaTail ([].map encodeMember) ++ 0x7D::rest = 0x7D::rest := rfl
    rw [start,walkMembers,Decoder.more_cons _ 0x7D rest rfl (by decide),
      Decoder.token_close _ 0x7D rest outer stack rfl rfl (by simp)]
    rfl
  | cons entry members ih =>
    obtain ⟨fuel,rfl⟩ : ∃ n, fuel = n+1 := ⟨fuel-1,by omega⟩
    have size : (commaTail ((entry::members).map encodeMember)).length =
        entry.1.length+entry.2.length+4+(commaTail (members.map encodeMember)).length := by
      simp only [commaTail,List.map_cons,List.flatMap_cons,List.length_append,List.length_cons,encodeMember_length]
    have start : commaTail ((entry::members).map encodeMember) ++ 0x7D::rest =
        0x2C::(encodeMember entry ++ (commaTail (members.map encodeMember) ++ 0x7D::rest)) := by
      simp [commaTail]
    rw [List.map_cons,List.nodup_cons] at distinct
    rw [start,walkMembers_step opaqueFields key entry (each entry (by simp)) seen (fresh entry (by simp)) fuel (by omega)
      (commaTail (members.map encodeMember) ++ 0x7D::rest)
      (commaTail_delimited _ 0x7D (by simp) rest) _ (Decoder.more_cons _ 0x2C _ rfl (by decide))
      (Decoder.token_comma _ 0x22 _ .objectKey rfl (by decide) (by decide) (by decide) (by simp))]
    refine ih (key entry.1::seen) (fun other found => each other (by simp [found])) distinct.2 ?_ fuel (by omega)
    intro other found
    rw [List.mem_cons,not_or]
    refine ⟨?_,fresh other (by simp [found])⟩
    intro repeated
    exact distinct.1 (List.mem_map.mpr ⟨other,found,repeated⟩)

private theorem walks_object (members : List (Bytes × Bytes))
    (each : ∀ entry ∈ members, MemberWalks opaqueFields key entry)
    (distinct : (members.map (fun entry => key entry.1)).Nodup) :
    Walks opaqueFields (encodeObject members) := by
  intro fuel dec rest enough delimited same allowed
  have input : dec.input = 0x7B::(commaJoin (members.map encodeMember) ++ 0x7D::rest) := by
    rw [same]; simp [encodeObject]
  have size : (encodeObject members).length = (commaJoin (members.map encodeMember)).length+2 := by
    simp [encodeObject]
  obtain ⟨fuel,rfl⟩ : ∃ n, fuel = n+2 := ⟨fuel-2,by omega⟩
  rw [walkStrictJSONValue,dec.token_open 0x7B _ .objectStart input allowed (by simp)]
  simp only [if_true]
  cases members with
  | nil =>
    have start : commaJoin ([].map encodeMember) ++ 0x7D::rest = 0x7D::rest := rfl
    rw [start,walkMembers,Decoder.more_cons _ 0x7D rest rfl (by decide),
      Decoder.token_close _ 0x7D rest dec.state dec.stack rfl rfl (by simp)]
    rfl
  | cons entry members =>
    have joined := commaJoin_cons (encodeMember entry) (members.map encodeMember)
    have start : commaJoin ((entry::members).map encodeMember) ++ 0x7D::rest =
        encodeMember entry ++ (commaTail (members.map encodeMember) ++ 0x7D::rest) := by
      rw [List.map_cons,joined,List.append_assoc]
    have length : (commaJoin ((entry::members).map encodeMember)).length =
        entry.1.length+entry.2.length+3+(commaTail (members.map encodeMember)).length := by
      rw [List.map_cons,joined,List.length_append,encodeMember_length]
    rw [List.map_cons,List.nodup_cons] at distinct
    rw [start,walkMembers_step opaqueFields key entry (each entry (by simp)) [] (by simp) fuel (by omega)
      (commaTail (members.map encodeMember) ++ 0x7D::rest)
      (commaTail_delimited _ 0x7D (by simp) rest) _ (Decoder.more_cons _ 0x22 _ rfl (by decide))
      (Decoder.token_cons _ 0x22 _ rfl (by decide) (by decide) (by decide))]
    refine walkMembers_tail opaqueFields key members [key entry.1] (fun other found => each other (by simp [found]))
      distinct.2 ?_ fuel rest dec.state dec.stack (by omega)
    intro other found repeated
    exact distinct.1 (List.mem_map.mpr ⟨other,found,List.mem_singleton.mp repeated⟩)

end Members

private theorem Walkable.walks {opaqueFields : List Bytes} {text : Bytes} (walkable : Walkable opaqueFields text) :
    Walks opaqueFields text := by
  induction walkable with
  | scalar text node plain reads => exact walks_scalar opaqueFields text node plain reads
  | array children _ visible ih => exact walks_array opaqueFields children ih visible
  | object members key names distinct visible _ ih =>
    exact walks_object opaqueFields key members
      (fun entry found => ⟨(names entry found).1,(names entry found).2,visible entry found,ih entry found⟩) distinct

theorem ensureJSONEOF_nil (stack : List TokenState) (state : TokenState) (allowed : state.valueAllowed = true) :
    ensureJSONEOF ⟨[],state,stack⟩ = .ok () := by
  have ended : (⟨[],state,stack⟩ : Decoder).decode = .error .eof := by
    cases state <;> first | rfl | cases allowed
  rw [ensureJSONEOF,ended]

/-- Texts without repeated names pass the strict walk. -/
theorem rejectDuplicateJSONFields_walkable (raw : Bytes) (opaqueFields : List Bytes)
    (walkable : Walkable opaqueFields raw) : rejectDuplicateJSONFields raw opaqueFields = .ok () := by
  have walked := walkable.walks (2*raw.length+2) {input := raw} [] (by omega) delimited_nil (by simp) rfl
  rw [rejectDuplicateJSONFields,walked]
  simp only [TokenState.valueEnd,ensureJSONEOF_nil [] .topValue rfl]

private theorem dropWhile_last {α : Type} (drop : α → Bool) (items : List α) (last : α) (kept : drop last = false) :
    ∃ others, (items++[last]).dropWhile drop = others++[last] := by
  induction items with
  | nil => exact ⟨[],by simp [kept]⟩
  | cons item items ih =>
    rw [List.cons_append,List.dropWhile_cons]
    split
    · exact ih
    · exact ⟨item::items,rfl⟩

theorem isNullText_opening {c : UInt8} (opening : c = 0x7B ∨ c = 0x5B) (tail : Bytes) : isNullText (c::tail) = false := by
  have joined := runes_flatten (c::tail)
  cases pieces : runes (c::tail) with
  | nil => rw [pieces] at joined; cases joined
  | cons rune others =>
    have nonempty := (runes_isRune (c::tail) rune (by rw [pieces]; simp)).1
    obtain ⟨more,rfl⟩ : ∃ more, rune = c::more := by
      cases rune with
      | nil => exact absurd rfl nonempty
      | cons _ more =>
        rw [pieces,List.flatten_cons,List.cons_append] at joined
        exact ⟨more,by rw [(List.cons.inj joined).1]⟩
    have kept : isUnicodeSpace (c::more) = false := by rcases opening with rfl | rfl <;> simp [isUnicodeSpace]
    obtain ⟨middle,dropped⟩ := dropWhile_last isUnicodeSpace others.reverse (c::more) kept
    rcases opening with rfl | rfl <;> simp [isNullText,trimSpace,pieces,kept,dropped,nullText]

/-- A payload written as an object is read back by the decoder of its type. -/
theorem decodePayload_encodeObject {α : Type} (read : Bool → Reader α) (zero payload : α) (strict : Bool)
    (members : List (Bytes × Bytes)) (node : Node) (reads : Reads maxNestingDepth (encodeObject members) node)
    (walkable : Walkable payloadOpaqueFields (encodeObject members))
    (decoded : read strict zero (encodeObject members) = some payload) :
    decodePayload read zero (encodeObject members) strict = .ok payload := by
  have present : ((encodeObject members).isEmpty || isNullText (encodeObject members)) = false := by
    rw [encodeObject,isNullText_opening (.inl rfl)]
    rfl
  have value := Decoder.decode_reads {input := encodeObject members} (encodeObject members) [] node reads delimited_nil
    (by simp) rfl
  simp only [decodePayload,present,Bool.false_eq_true,if_false,bind,Except.bind,value,decoded,
    TokenState.valueEnd,ensureJSONEOF_nil [] .topValue rfl,
    rejectDuplicateJSONFields_walkable _ _ walkable,ite_self]

end Kmtproto
