import Kmtproto.JsonCodec
import Kmtproto.DuplicateNames
import Kmtproto.StateMerge
import Kmtproto.Json.Agreement

/-! Frames and how they are written. An envelope is written with its payload in compact form,
so the frame that arrives is not the one that was sent; it says the same, and it is valid
again as long as the compact form keeps within the limits on sizes. -/
namespace Kmtproto
open Json

section Null

private theorem parse_null {depth : Nat} {input rest : Bytes} (parsed : parseValue depth input = some (.null,rest)) :
    input = nullText++rest := by
  have scalars (parsed : scalar input = some (.null,rest)) : input = nullText++rest := by
    unfold scalar at parsed
    split at parsed
    · cases parsed
    split_ifs at parsed with quoted isTrue isFalse isNull
    · obtain ⟨_,_,same⟩ := Option.map_eq_some_iff.mp parsed
      cases same
    · unfold word at parsed
      split at parsed <;> cases parsed
    · unfold word at parsed
      split at parsed <;> cases parsed
    · unfold word at parsed
      split at parsed
      · rename_i starts
        cases parsed
        obtain ⟨tail,form⟩ := List.isPrefixOf_iff_prefix.mp starts
        rw [← form]
        simp [nullText]
      · cases parsed
    · obtain ⟨_,_,same⟩ := Option.map_eq_some_iff.mp parsed
      cases same
  cases depth with
  | zero => exact scalars parsed
  | succ depth =>
    unfold parseValue at parsed
    split at parsed
    · obtain ⟨_,_,same⟩ := Option.map_eq_some_iff.mp parsed
      cases same
    · obtain ⟨_,_,same⟩ := Option.map_eq_some_iff.mp parsed
      cases same
    · exact scalars parsed

private theorem null_parses (depth : Nat) (rest : Bytes) : parseValue depth (nullText++rest) = some (.null,rest) := by
  cases depth <;> simp [parseValue,nullText,scalar,word]

private theorem space_rune {c : UInt8} (space : isSpace c = true) : isUnicodeSpace [c] = true ∧ runeSize [c] = 1 := by
  simp only [isSpace,Bool.or_eq_true,beq_iff_eq] at space
  rcases space with ((rfl | rfl) | rfl) | rfl <;> decide

private theorem skipSpace_nil {rest : Bytes} (blank : (skipSpace rest).isEmpty = true) : ∀ c ∈ rest, isSpace c = true := by
  rw [List.isEmpty_iff] at blank
  exact fun c member => by simpa using List.dropWhile_eq_nil_iff.mp blank c member

private theorem isNullText_spaces {before after : Bytes} (first : ∀ c ∈ before, isSpace c = true)
    (last : ∀ c ∈ after, isSpace c = true) : isNullText (before++(nullText++after)) = true := by
  have pieces : runes (before++(nullText++after)) =
      before.map (fun c => [c])++([[0x6E],[0x75],[0x6C],[0x6C]]++after.map (fun c => [c])) := by
    have whole := runes_of_whole (before.map (fun c => [c])++([[0x6E],[0x75],[0x6C],[0x6C]]++after.map (fun c => [c]))) (by
      intro unit member
      simp only [List.mem_append,List.mem_map] at member
      rcases member with ⟨c,found,rfl⟩ | middle | ⟨c,found,rfl⟩
      · exact ⟨by simp,(space_rune (first c found)).2⟩
      · simp only [List.mem_cons,List.not_mem_nil,or_false] at middle
        rcases middle with rfl | rfl | rfl | rfl <;> exact ⟨by simp,by decide⟩
      · exact ⟨by simp,(space_rune (last c found)).2⟩)
    rw [← whole]
    congr 1
    simp [nullText,← List.flatMap_def]
  have front : (before.map (fun c => [c])).dropWhile isUnicodeSpace = [] := by
    rw [List.dropWhile_eq_nil_iff]
    intro unit member
    obtain ⟨c,found,rfl⟩ := List.mem_map.mp member
    exact (space_rune (first c found)).1
  have back : (after.map (fun c => [c])).reverse.dropWhile isUnicodeSpace = [] := by
    rw [List.dropWhile_eq_nil_iff]
    intro unit member
    obtain ⟨c,found,rfl⟩ := List.mem_map.mp (List.mem_reverse.mp member)
    exact (space_rune (last c found)).1
  unfold isNullText trimSpace
  rw [pieces,List.dropWhile_append,front]
  have kept : ([[0x6E],[0x75],[0x6C],[0x6C]]++after.map (fun c => [c])).dropWhile isUnicodeSpace =
      [[0x6E],[0x75],[0x6C],[0x6C]]++after.map (fun c => [c]) := rfl
  rw [List.isEmpty_nil,if_pos rfl,kept,List.reverse_append,List.dropWhile_append,back]
  rfl

private theorem space_parses {c : UInt8} (other : c ∈ [0x0B,0x0C,0xC2,0xE1,0xE2,0xE3]) (rest : Bytes) (depth : Nat) :
    parseValue depth (skipSpace (c::rest)) = none := by
  have plain : isSpace c = false ∧ c ≠ 0x7B ∧ c ≠ 0x5B ∧ c ≠ 0x22 ∧ c ≠ 0x74 ∧ c ≠ 0x66 ∧ c ≠ 0x6E ∧ isDigit c = false ∧ c ≠ 0x2D := by
    simp only [List.mem_cons,List.not_mem_nil,or_false] at other
    rcases other with rfl | rfl | rfl | rfl | rfl | rfl <;> decide
  have unsigned : scanSign (c::rest) = ([],c::rest) := by
    unfold scanSign
    split
    · rename_i same
      exact absurd (List.cons.inj same).1 plain.2.2.2.2.2.2.2.2
    · rfl
  have unscanned : scanInteger (c::rest) = none := by
    unfold scanInteger
    split
    · rename_i same
      have digit := plain.2.2.2.2.2.2.2.1
      rw [(List.cons.inj same).1] at digit
      cases digit
    · simp [plain]
  rw [skipSpace_cons c rest plain.1,parseValue_scalar depth c rest plain.2.1 plain.2.2.1]
  simp [scalar,plain,scanNumber,unsigned,unscanned]

private theorem space_cases {rune : Bytes} (space : isUnicodeSpace rune = true) :
    (∃ c, rune = [c] ∧ isSpace c = true) ∨ ∃ c more, rune = c::more ∧ c ∈ [0x0B,0x0C,0xC2,0xE1,0xE2,0xE3] := by
  simp only [isUnicodeSpace,decide_eq_true_eq,List.mem_cons,List.not_mem_nil,or_false] at space
  rcases space with rfl | rfl | rfl | rfl | rfl | rfl | rfl | rfl | rfl | rfl | rfl | rfl | rfl | rfl | rfl | rfl | rfl | rfl |
    rfl | rfl | rfl | rfl | rfl | rfl | rfl <;>
    first
    | exact Or.inl ⟨_,rfl,by decide⟩
    | exact Or.inr ⟨_,_,rfl,by decide⟩

private theorem spaces_parse {runes : List Bytes} (spaces : ∀ rune ∈ runes, isUnicodeSpace rune = true) {rest : Bytes} {depth : Nat}
    {result : Node × Bytes} (parsed : parseValue depth (skipSpace (runes.flatten++rest)) = some result) :
    skipSpace (runes.flatten++rest) = skipSpace rest := by
  induction runes with
  | nil => rfl
  | cons rune runes ih =>
    rw [List.flatten_cons,List.append_assoc] at parsed ⊢
    rcases space_cases (spaces rune (by simp)) with ⟨c,rfl,space⟩ | ⟨c,more,rfl,other⟩
    · have skipped (tail : Bytes) : skipSpace ([c]++tail) = skipSpace tail := by simp [skipSpace,space]
      rw [skipped] at parsed ⊢
      exact ih (fun rune member => spaces rune (by simp [member])) parsed
    · rw [List.cons_append,space_parses other] at parsed
      cases parsed

theorem isNullText_iff {text : Bytes} {node : Node} (viewed : view text = some node) : isNullText text = true ↔ node = .null := by
  simp only [view,viewAt,bind,Option.bind_eq_some_iff] at viewed
  obtain ⟨⟨seen,rest⟩,parsed,ended⟩ := viewed
  split at ended
  · rename_i blank
    cases ended
    constructor
    · intro null
      -- the runes of the text: spaces, those of null, and spaces
      have parts : ∃ front : List Bytes, (∀ rune ∈ front, isUnicodeSpace rune = true) ∧ ∃ tail, text = front.flatten++(nullText++tail) := by
        refine ⟨(runes text).takeWhile isUnicodeSpace,fun rune member => List.mem_takeWhile_imp member,?_⟩
        have trimmed : trimSpace text = nullText := by simpa [isNullText] using null
        unfold trimSpace at trimmed
        have joined := runes_flatten text
        rw [← List.takeWhile_append_dropWhile (p := isUnicodeSpace) (l := runes text),List.flatten_append] at joined
        refine ⟨(((runes text).dropWhile isUnicodeSpace).reverse.takeWhile isUnicodeSpace).reverse.flatten,?_⟩
        rw [← trimmed,← List.flatten_append,← List.reverse_append,List.takeWhile_append_dropWhile,List.reverse_reverse]
        exact joined.symm
      obtain ⟨front,spaces,tail,form⟩ := parts
      rw [form] at parsed
      rw [spaces_parse spaces parsed] at parsed
      have start : skipSpace (nullText++tail) = nullText++tail := skipSpace_cons 0x6E _ rfl
      rw [start,null_parses] at parsed
      cases parsed
      rfl
    · rintro rfl
      obtain ⟨spaces,form,space⟩ := skipSpace_split text
      rw [form,parse_null parsed]
      exact isNullText_spaces space (skipSpace_nil blank)
  · cases ended

theorem isNullText_compact {text result : Bytes} (compacted : compact text = some result) : isNullText result = isNullText text := by
  obtain ⟨node,spelled,viewed,seen,respelled⟩ := compact_respelled compacted
  rw [Bool.eq_iff_iff,isNullText_iff viewed,isNullText_iff seen]
  cases respelled <;> simp

end Null

section Duplicates
variable {opaqueFields : List Bytes}

private theorem forall₂_before {α β : Type} {R : α → β → Prop} {inputs : List α} {outputs : List β}
    (each : List.Forall₂ R inputs outputs) {output : β} (found : output ∈ outputs) : ∃ input ∈ inputs, R input output := by
  induction each with
  | nil => cases found
  | cons head _ ih =>
    rcases List.mem_cons.mp found with rfl | later
    · exact ⟨_,by simp,head⟩
    · obtain ⟨input,among,held⟩ := ih later
      exact ⟨input,by simp [among],held⟩

/-- What is reached in the compact form of a text is the compact form of what is reached in the text. -/
private theorem Within.compact {spelled inner : Node} (within : Within opaqueFields spelled inner) {text result : Bytes} {node : Node}
    (compacted : compact text = some result) (viewed : view text = some node) (seen : view result = some spelled) :
    ∃ outer shown, Json.compact outer = some shown ∧ view shown = some inner ∧
      ∃ source, view outer = some source ∧ Within opaqueFields node source := by
  induction within generalizing text result node with
  | here spelled => exact ⟨text,result,compacted,seen,node,viewed,.here node⟩
  | item found shown _ ih =>
    obtain ⟨_,_,one,two,respelled⟩ := compact_respelled compacted
    cases viewed.symm.trans one
    cases seen.symm.trans two
    cases respelled with
    | arr children texts each =>
      obtain ⟨child,among,settled⟩ := forall₂_before each found
      obtain ⟨source,spelled,first,second,_⟩ := compact_respelled settled
      cases viewAt_agree shown second
      obtain ⟨outer,last,settles,ends,inside,views,within⟩ := ih settled first second
      exact ⟨outer,last,settles,ends,inside,views,.item among first within⟩
  | member found clear shown _ ih =>
    obtain ⟨_,_,one,two,respelled⟩ := compact_respelled compacted
    cases viewed.symm.trans one
    cases seen.symm.trans two
    cases respelled with
    | obj members entries each =>
      obtain ⟨member,among,passes,name,settled⟩ := forall₂_before each found
      obtain ⟨source,spelled,first,second,_⟩ := compact_respelled settled
      cases viewAt_agree shown second
      obtain ⟨outer,last,settles,ends,inside,views,within⟩ := ih settled first second
      refine ⟨outer,last,settles,ends,inside,views,.member among (fun key member' => ?_) first within⟩
      rw [← unquote_escapeChars _ passes,← name]
      exact clear key member'

private theorem names_respelled {members entries : List (Bytes × Bytes)}
    (each : List.Forall₂ (fun member entry => Passes member.1 ∧ entry.1 = escapeChars member.1) members entries) :
    entries.map (fun entry => unquote entry.1) = members.map (fun entry => unquote entry.1) := by
  induction each with
  | nil => rfl
  | cons head _ ih => rw [List.map_cons,List.map_cons,ih,head.2,unquote_escapeChars _ head.1]

/-- A text without repeated names is written without repeated names. -/
theorem rejectDuplicateJSONFields_compact {text result : Bytes} (compacted : compact text = some result)
    (accepted : rejectDuplicateJSONFields text opaqueFields = .ok ()) : rejectDuplicateJSONFields result opaqueFields = .ok () := by
  obtain ⟨node,spelled,viewed,seen,_⟩ := compact_respelled compacted
  obtain ⟨_,_,again,clean⟩ := (accepts_iff text opaqueFields).mp accepted
  cases viewAt_agree again viewed
  refine (accepts_iff result opaqueFields).mpr ⟨_,spelled,seen,fun entries within => ?_⟩
  obtain ⟨outer,shown,settled,ends,source,views,inside⟩ := within.compact compacted viewed seen
  obtain ⟨_,_,one,two,respelled⟩ := compact_respelled settled
  cases views.symm.trans one
  cases ends.symm.trans two
  cases respelled with
  | obj members entries each =>
    refine ⟨?_,fun entry found _ _ _ => ?_⟩
    · rw [names_respelled (each.imp (fun _ _ pair => ⟨pair.1,pair.2.1⟩))]
      exact (clean members inside).names
    · obtain ⟨member,_,_,_,settles⟩ := forall₂_before each found
      obtain ⟨_,_,_,sees,_⟩ := compact_respelled settles
      rw [valid,sees]
      rfl

end Duplicates

section Payload
variable {α : Type} {read : Bool → Reader α} {zero payload : α} {strict : Bool} {raw result : Bytes}

theorem decodePayload_parts (decoded : decodePayload read zero raw strict = .ok payload) :
    isNullText raw = false ∧ (strict = true → rejectDuplicateJSONFields raw payloadOpaqueFields = .ok ()) ∧
      ∃ value, view value = view raw ∧ read strict zero value = some payload := by
  unfold decodePayload at decoded
  split at decoded
  · cases decoded
  rename_i present
  simp only [Bool.or_eq_true,not_or,Bool.not_eq_true] at present
  extract_lets following at decoded
  have both : (strict = true → rejectDuplicateJSONFields raw payloadOpaqueFields = .ok ()) ∧ following () = .ok payload := by
    split at decoded
    · obtain ⟨_,unique,rest⟩ := bind_ok decoded
      exact ⟨fun _ => unique,rest⟩
    · rename_i loose
      exact ⟨fun strict' => absurd strict' loose,decoded⟩
  refine ⟨present.2,both.1,?_⟩
  have parsed := both.2
  dsimp only [following] at parsed
  split at parsed
  · cases parsed
  rename_i value dec found
  split at parsed
  · cases parsed
  rename_i got
  split at parsed
  · cases parsed
  rename_i ended
  cases parsed
  refine ⟨value,?_,got⟩
  simp only [Decoder.decode,Decoder.prepare,TokenState.valueAllowed,bind,Except.bind,Bool.not_true,Bool.false_eq_true,if_false] at found
  split at found
  · cases found
  split at found
  · cases found
  rename_i text rest taken
  cases found
  obtain ⟨⟨node,after⟩,parsed,same⟩ := Option.map_eq_some_iff.mp taken
  cases same
  obtain ⟨text,form,reads⟩ := parseValue_reads parsed
  have blank := (ensureJSONEOF_iff _).mp ended
  have whole : view raw = some node := by
    simp only [view,viewAt,bind,Option.bind_eq_some_iff]
    exact ⟨_,parsed,if_pos blank⟩
  rw [whole,form,List.length_append,Nat.add_sub_cancel,List.take_left]
  exact reads.view (le_refl _)

private theorem compact_congr {text other : Bytes} (same : view text = view other) : compact text = compact other := by
  change (viewAt maxNestingDepth text).bind _ = (viewAt maxNestingDepth other).bind _
  rw [show viewAt maxNestingDepth text = viewAt maxNestingDepth other from same]

theorem compact_present (compacted : compact raw = some result) : raw.isEmpty = false := by
  cases empty : raw with
  | nil =>
    rw [empty] at compacted
    cases compacted
  | cons => rfl

private theorem compact_readable (compacted : compact raw = some result) : result.isEmpty = false ∧ Json.valid result = true := by
  obtain ⟨node,reads⟩ := (compact_compacted _ _ compacted).reads
  obtain ⟨c,tail,form,_⟩ := reads.head
  constructor
  · rw [form]
    rfl
  · rw [Json.valid,reads.view (le_refl _)]
    rfl

/-- A payload that is decoded is decoded from its compact form as well, to what the spelling leaves of it. -/
theorem decodePayload_compact {related : α → α → Prop} (agrees : Agrees related (read strict)) (start : related zero zero)
    (compacted : compact raw = some result) (decoded : decodePayload read zero raw strict = .ok payload) :
    ∃ other, decodePayload read zero result strict = .ok other ∧ related payload other := by
  obtain ⟨present,unique,value,same,got⟩ := decodePayload_parts decoded
  have settled : compact value = some result := (compact_congr same).trans compacted
  obtain ⟨other,again,held⟩ := agrees.some start settled got
  refine ⟨other,?_,held⟩
  obtain ⟨node,reads⟩ := (compact_compacted _ _ compacted).reads
  have nonempty : (result.isEmpty || isNullText result) = false := by
    rw [isNullText_compact compacted,present,(compact_readable compacted).1]
    rfl
  have whole := Decoder.decode_reads {input := result} result [] node reads delimited_nil (by simp) rfl
  simp only [decodePayload,nonempty,Bool.false_eq_true,if_false,bind,Except.bind,whole,again,TokenState.valueEnd,
    ensureJSONEOF_nil [] .topValue rfl]
  split
  · rename_i strict'
    rw [rejectDuplicateJSONFields_compact compacted (unique strict')]
  · rfl

theorem decodePayload_same (agrees : Agrees Eq (read strict)) (compacted : compact raw = some result)
    (decoded : decodePayload read zero raw strict = .ok payload) : decodePayload read zero result strict = .ok payload := by
  obtain ⟨other,again,rfl⟩ := decodePayload_compact agrees rfl compacted decoded
  exact again

theorem jsonFieldPresent_compact (compacted : compact raw = some result) (name : Bytes) :
    jsonFieldPresent result name = jsonFieldPresent raw name := by
  have both := rawFields_compact compacted
  unfold jsonFieldPresent payloadFields
  revert both
  generalize rawFields raw = lefts
  generalize rawFields result = rights
  rintro (fields | _)
  · have last := lastField_compact name fields
    simp only [bind,Except.bind]
    revert last
    generalize lastField name _ = left
    generalize lastField name _ = right
    rintro (_ | _) <;> rfl
  · rfl

theorem jsonFieldPresentAndNonNull_compact (compacted : compact raw = some result) (name : Bytes) :
    jsonFieldPresentAndNonNull result name = jsonFieldPresentAndNonNull raw name := by
  have both := rawFields_compact compacted
  unfold jsonFieldPresentAndNonNull payloadFields
  revert both
  generalize rawFields raw = lefts
  generalize rawFields result = rights
  rintro (fields | _)
  · have last := lastField_compact name fields
    simp only [bind,Except.bind]
    revert last
    generalize lastField name _ = left
    generalize lastField name _ = right
    rintro (settled | _)
    · simp only [isNullText_compact settled]
    · rfl
  · rfl

end Payload

section Readers
variable (strict : Bool)

theorem agrees_readOffer : Agrees Eq (readOffer strict) :=
  agrees_readStruct ⟨agrees_field_same agrees_readText,agrees_field_same (agrees_readSlice_same (agrees_readNumber _)),
    agrees_field_same agrees_readFlag⟩

theorem agrees_readHello : Agrees Eq (readHello strict) :=
  agrees_readNew_same (agrees_readStruct
    ⟨agrees_field_same agrees_readText,agrees_field_same (agrees_readSlice_same (agrees_readOffer strict))⟩)

theorem agrees_readSync : Agrees Eq (readSync strict) :=
  agrees_readStruct (agrees_field_same (agrees_readSlice_same agrees_readText))

theorem agrees_readNegotiated : Agrees Eq (readNegotiated strict) :=
  agrees_readStruct ⟨agrees_field_same agrees_readText,agrees_field_same (agrees_readNumber _)⟩

theorem agrees_readWelcome : Agrees Eq (readWelcome strict) :=
  agrees_readNew_same (agrees_readStruct
    ⟨agrees_field_same agrees_readText,agrees_field_same (agrees_readNumber _),agrees_field_same (agrees_readNumber _),
     agrees_field_same (agrees_readNumber _),agrees_field_same (agrees_readPointer_same (agrees_readSync strict)),
     agrees_field_same (agrees_readSlice_same (agrees_readNegotiated strict))⟩)

theorem agrees_readPing : Agrees Eq (readPing strict) :=
  agrees_readStruct ⟨agrees_field_same agrees_readText,agrees_field_same (agrees_readNumber _)⟩

theorem agrees_readPong : Agrees Eq (readPong strict) :=
  agrees_readStruct ⟨agrees_field_same agrees_readText,agrees_field_same (agrees_readNumber _),agrees_field_same (agrees_readNumber _)⟩

theorem agrees_readAck : Agrees Eq (readAck strict) := agrees_readStruct (agrees_field_same agrees_readText)

theorem agrees_readResume : Agrees Eq (readResume strict) :=
  agrees_readNew_same (agrees_readStruct
    ⟨agrees_field_same (agrees_readNumber _),agrees_field_same (agrees_readPointer_same (agrees_readSync strict))⟩)

theorem agrees_readQuery : Agrees Eq (readQuery strict) :=
  agrees_readNew_same (agrees_readStruct ⟨agrees_field_same agrees_readText,agrees_field_same (agrees_readSlice_same agrees_readText)⟩)

theorem agrees_readError : Agrees Eq (readError strict) :=
  agrees_readStruct ⟨agrees_field_same agrees_readText,agrees_field_same agrees_readText,agrees_field_same agrees_readText,
    agrees_field_same agrees_readFlag⟩

def SendPayload.Respelled (payload other : SendPayload) : Prop := Spelled payload.content other.content

def EventPayload.Respelled (payload other : EventPayload) : Prop :=
  other.eventType = payload.eventType ∧ Spelled payload.content other.content

structure StateObject.Respelled (object other : StateObject) : Prop where
  namespace_ : object.namespace_ = other.namespace_
  objectID : object.objectID = other.objectID
  version : object.version = other.version
  data : Spelled object.data other.data

def StateSnapshotPayload.Respelled (payload other : StateSnapshotPayload) : Prop :=
  List.Forall₂ StateObject.Respelled payload.states other.states

theorem agrees_readSend : Agrees SendPayload.Respelled (readSend strict) :=
  agrees_readStruct (agrees_field (fun _ _ same => same) (fun _ _ _ _ _ content => content) agrees_readRaw)

theorem agrees_readEvent : Agrees EventPayload.Respelled (readEvent strict) :=
  agrees_readStruct
    ⟨agrees_field (fun _ _ held => held.1.symm) (fun _ _ _ _ held type => ⟨type.symm,held.2⟩) agrees_readText,
     agrees_field (fun _ _ held => held.2) (fun _ _ _ _ held content => ⟨held.1,content⟩) agrees_readRaw⟩

theorem agrees_readObject : Agrees StateObject.Respelled (readObject strict) :=
  agrees_readStruct
    ⟨agrees_field (fun _ _ held => held.namespace_) (fun _ _ _ _ held same => ⟨same,held.objectID,held.version,held.data⟩) agrees_readText,
     agrees_field (fun _ _ held => held.objectID) (fun _ _ _ _ held same => ⟨held.namespace_,same,held.version,held.data⟩) agrees_readText,
     agrees_field (fun _ _ held => held.version) (fun _ _ _ _ held same => ⟨held.namespace_,held.objectID,same,held.data⟩)
       (agrees_readNumber _),
     agrees_field (fun _ _ held => held.data) (fun _ _ _ _ held data => ⟨held.namespace_,held.objectID,held.version,data⟩) agrees_readRaw⟩

private theorem object_start : StateObject.Respelled {} {} := ⟨rfl,rfl,rfl,Or.inl ⟨rfl,rfl⟩⟩

theorem agrees_readSnapshot : Agrees StateSnapshotPayload.Respelled (readSnapshot strict) := by
  have cells : Agrees (fun cell other : SnapshotCell => cell.states.Rel StateObject.Respelled other.states)
      (readStruct (snapshotFields strict) strict) :=
    agrees_readStruct (agrees_field (fun _ _ held => held) (fun _ _ _ _ _ states => states)
      (agrees_readSlice (agrees_readObject strict) object_start))
  exact agrees_readNew cells ⟨.nil,.nil⟩ (fun _ _ held => held.items)

theorem agrees_readUpdate : Agrees (fun payload other => payload.state.Respelled other.state) (readUpdate strict) :=
  agrees_readStruct (agrees_field (fun _ _ held => held) (fun _ _ _ _ _ state => state) (agrees_readObject strict))

end Readers

section Objects
variable {object : StateObject} {limits : Limits} {found : List StateObject}

/-- The object as a reader sees it. -/
def StateObject.rewritten (object : StateObject) : StateObject := {object with data := (compact object.data).getD []}

def Storable (limits : Limits) (found : List StateObject) : Prop :=
  ∀ object ∈ found, validateStateObject object limits = .ok ()

theorem rewritten_compact (valid : validateStateObject object limits = .ok ()) : compact object.data = some object.rewritten.data := by
  obtain ⟨data,compacted⟩ := validateStateObject_compact valid
  simp only [StateObject.rewritten,compacted,Option.getD_some]

/-- A valid object is valid again with its data as it is written, unless that is too long. -/
theorem validateStateObject_rewritten (valid : validateStateObject object limits = .ok ()) :
    validateStateObject object.rewritten limits = .ok () ↔
      (object.rewritten.data.length : Int) ≤ (normalizeLimits limits).maxStateDataSize := by
  have compacted := rewritten_compact valid
  obtain ⟨nonempty,readable⟩ := compact_readable compacted
  have encoded : object.rewritten.marshal = object.marshal := by
    have fixed : marshalRaw object.rewritten.data = marshalRaw object.data := by
      simp only [marshalRaw,nonempty,compact_present compacted,compact_idem _ _ compacted,compacted]
    rw [StateObject.marshal,StateObject.marshal,fixed]
    rfl
  unfold validateStateObject at valid ⊢
  obtain ⟨_,identity,valid⟩ := bind_ok valid
  obtain ⟨version,valid⟩ := reject_bind_ok valid
  obtain ⟨_,valid⟩ := reject_bind_ok valid
  obtain ⟨_,valid⟩ := reject_bind_ok valid
  rw [← not_lt,encoded]
  change validateStateIdentity object.rewritten.namespace_ object.rewritten.objectID _ = _ at identity
  change ¬(object.rewritten.version = 0 ∨ object.rewritten.version = _) at version
  simp only [identity,bind,Except.bind,reject,version,if_false,nonempty,readable,Bool.not_true,Bool.or_false,
    Bool.false_eq_true] at valid ⊢
  by_cases long : (object.rewritten.data.length : Int) > (normalizeLimits limits).maxStateDataSize
  · simp [long,fail]
  · simpa [long] using valid

theorem checkStates_rewritten (storable : Storable limits found) (distinct : (found.map StateObject.identity).Nodup)
    (seen : List StateIdentity) (fresh : ∀ object ∈ found, object.identity ∉ seen) :
    checkStates limits seen (found.map StateObject.rewritten) = .ok () ↔
      ∀ object ∈ found, (object.rewritten.data.length : Int) ≤ (normalizeLimits limits).maxStateDataSize := by
  induction found generalizing seen with
  | nil => simp [checkStates]
  | cons object found ih =>
    have first := validateStateObject_rewritten (storable object (by simp))
    obtain ⟨apart,others⟩ := List.nodup_cons.mp distinct
    have rest := ih (fun other member => storable other (by simp [member])) others (object.identity::seen)
      (fun other member => List.not_mem_cons_of_ne_of_not_mem (fun same => apart (List.mem_map.mpr ⟨other,member,same⟩))
        (fresh other (by simp [member])))
    have unseen : object.rewritten.identity ∉ seen := fresh object (by simp)
    rw [List.forall_mem_cons,← rest,← first,List.map_cons,checkStates]
    cases validateStateObject object.rewritten limits with
    | error error => exact ⟨fun wrong => (by cases wrong),fun both => by cases both.1⟩
    | ok done =>
      simp only [bind,Except.bind,reject,if_neg unseen,true_and]
      exact Iff.rfl

private theorem checkStates_storable {seen : List StateIdentity} (checked : checkStates limits seen found = .ok ()) :
    Storable limits found := by
  induction found generalizing seen with
  | nil => exact fun _ member => absurd member List.not_mem_nil
  | cons object found ih =>
    unfold checkStates at checked
    obtain ⟨_,valid,checked⟩ := bind_ok checked
    obtain ⟨_,checked⟩ := reject_bind_ok checked
    exact List.forall_mem_cons.mpr ⟨valid,ih checked⟩

theorem StateObject.Respelled.rewritten {other : StateObject} (respelled : object.Respelled other)
    (valid : validateStateObject object limits = .ok ()) : other = object.rewritten := by
  obtain ⟨namespace_,objectID,version,data⟩ := respelled
  have compacted := rewritten_compact valid
  rcases data with ⟨empty,_⟩ | settled
  · rw [empty] at compacted
    cases compacted
  · cases other
    simp only at namespace_ objectID version settled
    rw [StateObject.rewritten,settled,namespace_,objectID,version]
    rfl

private theorem states_rewritten {others : List StateObject} (respelled : List.Forall₂ StateObject.Respelled found others)
    (storable : Storable limits found) : others = found.map StateObject.rewritten := by
  induction respelled with
  | nil => rfl
  | cons head _ ih =>
    rw [List.map_cons,head.rewritten (storable _ (by simp)),ih (fun object member => storable object (by simp [member]))]

end Objects

def Envelope.rewritten (frame : Envelope) : Envelope := {frame with payload := (writtenPayload frame.payload).getD []}

def Envelope.states (frame : Envelope) (strict : Bool) : List StateObject :=
  match frame.type with
  | .stateSnapshot => (decodePayload readSnapshot {} frame.payload strict).toOption.elim [] StateSnapshotPayload.states
  | .stateUpdate => ((decodePayload readUpdate {} frame.payload strict).toOption.map StateUpdatePayload.state).toList
  | _ => []

/-- The written form of a frame is within the limits that are checked on it. -/
structure Envelope.Fits (frame : Envelope) (limits : Limits) (strict : Bool) : Prop where
  payload : (frame.rewritten.payload.length : Int) ≤ limits.maxPayloadSize
  snapshot : frame.type = .stateSnapshot → (frame.rewritten.payload.length : Int) ≤ limits.maxStateSnapshotBytes
  data : ∀ object ∈ frame.states strict, (object.rewritten.data.length : Int) ≤ limits.maxStateDataSize

section Typed
variable {e : Envelope} {limits : Limits} {strict : Bool} {result : Bytes}

private theorem validateContent_spelled {content other : Bytes} (spelled : Spelled content other)
    (valid : validateContent content = .ok ()) : validateContent other = .ok () := by
  rcases spelled with ⟨rfl,_⟩ | compacted
  · cases valid
  · obtain ⟨nonempty,readable⟩ := compact_readable compacted
    have valid' := (reject_ok _ _ _ _).mp valid
    refine (reject_ok _ _ _ _).mpr ?_
    rw [isNullText_compact compacted,nonempty,readable]
    intro wrong
    refine valid' ?_
    simp only [Bool.false_or,Bool.not_true,Bool.or_false] at wrong
    simp [wrong]

theorem session_payload {α : Type} {read : Bool → Reader α} {zero : α} {guard : Except Err Unit} {check : α → Except Err Unit}
    (valid : (do
      requireSession e
      requireZeroSeq e
      guard
      let payload ← decodePayload read zero e.payload strict
      check payload) = .ok ()) :
    ∃ payload, decodePayload read zero e.payload strict = .ok payload ∧ check payload = .ok () := by
  obtain ⟨_,_,valid⟩ := bind_ok valid
  obtain ⟨_,_,valid⟩ := bind_ok valid
  obtain ⟨_,_,valid⟩ := bind_ok valid
  exact bind_ok valid

private theorem session_same {α : Type} {read : Bool → Reader α} {zero : α} {guard : Except Err Unit} {check : α → Except Err Unit}
    (agrees : Agrees Eq (read strict)) (compacted : compact e.payload = some result)
    (valid : (do
      requireSession e
      requireZeroSeq e
      guard
      let payload ← decodePayload read zero e.payload strict
      check payload) = .ok ()) :
    (do
      requireSession { e with payload := result }
      requireZeroSeq { e with payload := result }
      guard
      let payload ← decodePayload read zero result strict
      check payload) = .ok () := by
  obtain ⟨payload,decoded,_⟩ := session_payload valid
  rw [decodePayload_same agrees compacted decoded,← decoded]
  exact valid

private theorem validateHello_compact (compacted : compact e.payload = some result) (valid : validateHello e limits strict = .ok ()) :
    validateHello {e with payload := result} limits strict = .ok () := by
  unfold validateHello at valid ⊢
  obtain ⟨_,_,rest⟩ := bind_ok valid
  obtain ⟨payload,decoded,_⟩ := bind_ok rest
  rw [decodePayload_same (agrees_readHello strict) compacted decoded,← decoded]
  exact valid

private theorem validateWelcome_compact (compacted : compact e.payload = some result) (valid : validateWelcome e limits strict = .ok ()) :
    validateWelcome {e with payload := result} limits strict = .ok () := by
  have members : validateWelcomeMembers {e with payload := result} = validateWelcomeMembers e := by
    funext payload
    unfold validateWelcomeMembers
    simp only [jsonFieldPresent_compact compacted,jsonFieldPresentAndNonNull_compact compacted]
  unfold validateWelcome at valid ⊢
  rw [members]
  exact session_same (agrees_readWelcome strict) compacted valid

private theorem validateResume_compact (compacted : compact e.payload = some result) (valid : validateResume e limits strict = .ok ()) :
    validateResume {e with payload := result} limits strict = .ok () := by
  unfold validateResume at valid ⊢
  simp only [jsonFieldPresent_compact compacted]
  exact session_same (agrees_readResume strict) compacted valid

private theorem validateError_compact (compacted : compact e.payload = some result) (valid : validateError e limits strict = .ok ()) :
    validateError {e with payload := result} limits strict = .ok () := by
  unfold validateError at valid ⊢
  obtain ⟨_,_,rest⟩ := bind_ok valid
  obtain ⟨_,_,rest⟩ := bind_ok rest
  obtain ⟨payload,decoded,_⟩ := bind_ok rest
  simp only [jsonFieldPresent_compact compacted]
  rw [decodePayload_same (agrees_readError strict) compacted decoded,← decoded]
  exact valid

private theorem validateSend_compact (compacted : compact e.payload = some result) (valid : validateSend e strict = .ok ()) :
    validateSend {e with payload := result} strict = .ok () := by
  unfold validateSend at valid ⊢
  obtain ⟨payload,decoded,content⟩ := session_payload valid
  obtain ⟨other,again,spelled⟩ := decodePayload_compact (agrees_readSend strict) (Or.inl ⟨rfl,rfl⟩) compacted decoded
  have same : validateContent payload.content = validateContent other.content :=
    content.trans (validateContent_spelled spelled content).symm
  rw [decoded] at valid
  rw [again]
  change (do requireSession e; requireZeroSeq e; reject e.id.isEmpty .badRequest _; validateContent other.content) = _
  rw [← same]
  exact valid

private theorem validateEvent_compact (compacted : compact e.payload = some result) (valid : validateEvent e limits strict = .ok ()) :
    validateEvent {e with payload := result} limits strict = .ok () := by
  unfold validateEvent at valid ⊢
  obtain ⟨_,_,rest⟩ := bind_ok valid
  obtain ⟨_,_,rest⟩ := bind_ok rest
  obtain ⟨payload,decoded,checks⟩ := bind_ok rest
  obtain ⟨_,content⟩ := reject_bind_ok checks
  obtain ⟨other,again,type,spelled⟩ := decodePayload_compact (agrees_readEvent strict) ⟨rfl,Or.inl ⟨rfl,rfl⟩⟩ compacted decoded
  have same : validateContent payload.content = validateContent other.content :=
    content.trans (validateContent_spelled spelled content).symm
  rw [decoded] at valid
  rw [again]
  change (do
    requireSession e
    reject (e.id.isEmpty ∨ e.seq = 0) .badRequest _
    reject (!validBoundedProtocolString other.eventType limits.maxEventTypeLength true) .badRequest _
    validateContent other.content) = _
  rw [← same,type]
  exact valid

private theorem validateStateUpdate_compact (type : e.type = .stateUpdate) (compacted : compact e.payload = some result)
    (valid : validateStateUpdate e limits strict = .ok ()) :
    validateStateUpdate {e with payload := result} limits strict = .ok () ↔
      ∀ object ∈ e.states strict, (object.rewritten.data.length : Int) ≤ (normalizeLimits limits).maxStateDataSize := by
  unfold validateStateUpdate at valid ⊢
  obtain ⟨payload,decoded,object⟩ := session_payload valid
  obtain ⟨other,again,respelled⟩ := decodePayload_compact (agrees_readUpdate strict) object_start compacted decoded
  have carried : e.states strict = [payload.state] := by
    rw [Envelope.states,type,decoded]
    rfl
  rw [carried,List.forall_mem_singleton,← validateStateObject_rewritten object]
  change (do
    requireSession e
    requireZeroSeq e
    requireEnvelopeID e
    let payload ← decodePayload readUpdate {} result strict
    validateStateObject payload.state limits) = _ ↔ validateStateObject payload.state.rewritten limits = _
  obtain ⟨_,first,valid⟩ := bind_ok valid
  obtain ⟨_,second,valid⟩ := bind_ok valid
  obtain ⟨_,third,_⟩ := bind_ok valid
  rw [first,second,third,again,← respelled.rewritten object]
  exact Iff.rfl

private theorem validateStateSnapshot_compact (type : e.type = .stateSnapshot) (compacted : compact e.payload = some result)
    (valid : validateStateSnapshot e limits strict = .ok ()) :
    validateStateSnapshot {e with payload := result} limits strict = .ok () ↔
      (result.length : Int) ≤ limits.maxStateSnapshotBytes ∧
      ∀ object ∈ e.states strict, (object.rewritten.data.length : Int) ≤ (normalizeLimits limits).maxStateDataSize := by
  unfold validateStateSnapshot at valid ⊢
  obtain ⟨_,first,valid⟩ := bind_ok valid
  obtain ⟨_,second,valid⟩ := bind_ok valid
  obtain ⟨_,third,valid⟩ := bind_ok valid
  obtain ⟨_,valid⟩ := reject_bind_ok valid
  obtain ⟨present,found,valid⟩ := bind_ok valid
  obtain ⟨has,valid⟩ := reject_bind_ok valid
  obtain ⟨payload,decoded,valid⟩ := bind_ok valid
  obtain ⟨count,checked⟩ := reject_bind_ok valid
  obtain ⟨other,again,respelled⟩ := decodePayload_compact (agrees_readSnapshot strict) .nil compacted decoded
  have storable := checkStates_storable checked
  have states := states_rewritten respelled storable
  have carried : e.states strict = payload.states := by
    rw [Envelope.states,type,decoded]
    rfl
  have objects := checkStates_rewritten storable (checkStates_nodup checked).1 [] (by simp)
  have count' : ¬(other.states.length : Int) > limits.maxStateSnapshotObjects := by
    rw [states,List.length_map]
    exact count
  rw [carried,← objects,← states]
  change (do requireSession e; requireZeroSeq e; requireEnvelopeID e; _) = _ ↔ _
  rw [first,second,third]
  change (do reject ((result.length : Int) > limits.maxStateSnapshotBytes) .badRequest _; _) = _ ↔ _
  by_cases long : (result.length : Int) > limits.maxStateSnapshotBytes
  · rw [reject,if_pos long]
    exact ⟨fun wrong => (by cases wrong),fun both => absurd both.1 (not_le.mpr long)⟩
  · rw [reject,if_neg long,and_iff_right (not_lt.mp long)]
    change (do let present ← jsonFieldPresentAndNonNull result (lit "states"); _) = _ ↔ _
    rw [jsonFieldPresentAndNonNull_compact compacted,found]
    change (do reject _ .badRequest _; let payload ← decodePayload readSnapshot {} result strict; _) = _ ↔ _
    rw [reject,if_neg has,again]
    change (do reject _ .badRequest _; checkStates limits [] other.states) = _ ↔ _
    rw [reject,if_neg count']
    exact Iff.rfl

private theorem validateTyped_compact (compacted : compact e.payload = some result) (valid : validateTyped e limits strict = .ok ()) :
    validateTyped {e with payload := result} limits strict = .ok () ↔
      (e.type = .stateSnapshot → (result.length : Int) ≤ limits.maxStateSnapshotBytes) ∧
      ∀ object ∈ e.states strict, (object.rewritten.data.length : Int) ≤ (normalizeLimits limits).maxStateDataSize := by
  have plain (no : e.type ≠ .stateSnapshot ∧ e.type ≠ .stateUpdate) (again : validateTyped {e with payload := result} limits strict = .ok ()) :
      validateTyped {e with payload := result} limits strict = .ok () ↔
        (e.type = .stateSnapshot → (result.length : Int) ≤ limits.maxStateSnapshotBytes) ∧
        ∀ object ∈ e.states strict, (object.rewritten.data.length : Int) ≤ (normalizeLimits limits).maxStateDataSize := by
    have stateless : e.states strict = [] := by
      unfold Envelope.states
      split
      · exact absurd ‹_› no.1
      · exact absurd ‹_› no.2
      · rfl
    rw [stateless]
    exact iff_of_true again ⟨fun snapshot => absurd snapshot no.1,fun _ member => absurd member List.not_mem_nil⟩
  obtain ⟨v,type,id,sessionID,seq,timestamp,payload⟩ := e
  cases type with
  | hello => exact plain (by simp) (validateHello_compact compacted valid)
  | welcome => exact plain (by simp) (validateWelcome_compact compacted valid)
  | ping => exact plain (by simp) (session_same (agrees_readPing strict) compacted valid)
  | pong => exact plain (by simp) (session_same (agrees_readPong strict) compacted valid)
  | send => exact plain (by simp) (validateSend_compact compacted valid)
  | ack => exact plain (by simp) (session_same (agrees_readAck strict) compacted valid)
  | event => exact plain (by simp) (validateEvent_compact compacted valid)
  | resume => exact plain (by simp) (validateResume_compact compacted valid)
  | stateQuery => exact plain (by simp) (session_same (agrees_readQuery strict) compacted valid)
  | error => exact plain (by simp) (validateError_compact compacted valid)
  | stateSnapshot =>
    exact (validateStateSnapshot_compact rfl compacted valid).trans (and_congr_left (fun _ => ⟨fun fits _ => fits,fun fits => fits rfl⟩))
  | stateUpdate =>
    refine (validateStateUpdate_compact rfl compacted valid).trans (and_iff_right ?_).symm
    intro wrong
    cases wrong
  | other => cases valid

theorem marshal_compact (compacted : compact e.payload = some result) : Envelope.marshal {e with payload := result} = e.marshal := by
  unfold Envelope.marshal
  simp only [compact_present compacted,(compact_readable compacted).1,Bool.false_eq_true,if_false,compacted,compact_idem _ _ compacted]

private theorem validateEnvelope_compact (compacted : compact e.payload = some result) (valid : validateEnvelope e limits = .ok ()) :
    validateEnvelope {e with payload := result} limits = .ok () ↔ (result.length : Int) ≤ (normalizeLimits limits).maxPayloadSize := by
  unfold validateEnvelope at valid ⊢
  dsimp only at valid ⊢
  rw [marshal_compact compacted]
  cases positive : validateLimits (normalizeLimits limits) with
  | error error =>
    rw [positive] at valid
    cases valid
  | ok done =>
    rw [positive] at valid
    simp only at valid ⊢
    by_cases version : e.v ≠ wireVersionV2
    · rw [if_pos version] at valid
      cases valid
    rw [if_neg version] at valid ⊢
    obtain ⟨kind,valid⟩ := reject_bind_ok valid
    obtain ⟨id,valid⟩ := reject_bind_ok valid
    obtain ⟨session,valid⟩ := reject_bind_ok valid
    obtain ⟨_,valid⟩ := reject_bind_ok valid
    simp only [reject,kind,id,session,bind,Except.bind]
    by_cases long : (result.length : Int) > (normalizeLimits limits).maxPayloadSize
    · rw [if_pos long]
      exact ⟨fun wrong => (by cases wrong),fun fits => absurd fits (not_le.mpr long)⟩
    · rw [if_neg long]
      exact iff_of_true valid (not_lt.mp long)

private theorem validateTyped_present (valid : validateTyped e limits strict = .ok ()) : e.payload ≠ [] := by
  intro empty
  have missing {α : Type} {read : Bool → Reader α} {zero payload : α} : decodePayload read zero e.payload strict ≠ .ok payload := by
    rw [empty,decodePayload,List.isEmpty_nil,Bool.true_or,if_pos rfl,fail]
    simp
  obtain ⟨v,type,id,sessionID,seq,timestamp,payload⟩ := e
  cases type with
  | hello =>
    obtain ⟨_,_,rest⟩ := bind_ok valid
    obtain ⟨_,decoded,_⟩ := bind_ok rest
    exact missing decoded
  | event =>
    obtain ⟨_,_,rest⟩ := bind_ok valid
    obtain ⟨_,_,rest⟩ := bind_ok rest
    obtain ⟨_,decoded,_⟩ := bind_ok rest
    exact missing decoded
  | error =>
    obtain ⟨_,_,rest⟩ := bind_ok valid
    obtain ⟨_,_,rest⟩ := bind_ok rest
    obtain ⟨_,decoded,_⟩ := bind_ok rest
    exact missing decoded
  | stateSnapshot =>
    obtain ⟨_,_,rest⟩ := bind_ok valid
    obtain ⟨_,_,rest⟩ := bind_ok rest
    obtain ⟨_,_,rest⟩ := bind_ok rest
    obtain ⟨_,rest⟩ := reject_bind_ok rest
    obtain ⟨_,_,rest⟩ := bind_ok rest
    obtain ⟨_,rest⟩ := reject_bind_ok rest
    obtain ⟨_,decoded,_⟩ := bind_ok rest
    exact missing decoded
  | welcome | ping | pong | send | ack | resume | stateQuery | stateUpdate =>
    obtain ⟨_,decoded,_⟩ := session_payload valid
    exact missing decoded
  | other => cases valid

/-- A valid frame is written, and its payload is the compact form of the one it has. -/
theorem rewritten_payload (valid : validateFrame e limits strict = .ok ()) : compact e.payload = some e.rewritten.payload := by
  have present := validateTyped_present (validateFrame_parts valid).2
  obtain ⟨_,_,payload,written,_⟩ := validateFrame_written valid
  rw [Envelope.rewritten,written]
  rwa [writtenPayload,if_neg (by simpa using present)] at written

/-- A valid frame is valid as it is written when the written form keeps within the limits. -/
theorem validateFrame_rewritten (valid : validateFrame e limits strict = .ok ()) :
    validateFrame e.rewritten limits strict = .ok () ↔ e.Fits (normalizeLimits limits) strict := by
  have compacted := rewritten_payload valid
  obtain ⟨envelope,typed⟩ := validateFrame_parts valid
  have first := validateEnvelope_compact compacted envelope
  have second := validateTyped_compact compacted typed
  rw [normalizeLimits_idem] at first second
  constructor
  · intro again
    obtain ⟨envelope,typed⟩ := validateFrame_parts again
    obtain ⟨snapshot,data⟩ := second.mp typed
    exact ⟨first.mp envelope,snapshot,data⟩
  · rintro ⟨payload,snapshot,data⟩
    have one := first.mpr payload
    have two := second.mpr ⟨snapshot,data⟩
    unfold validateFrame
    simp only [Envelope.rewritten] at one two ⊢
    rw [one]
    exact two

end Typed

end Kmtproto
