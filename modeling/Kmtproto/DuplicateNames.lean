import Kmtproto.Codec
import Kmtproto.Json.Tokens

/-! The walk over duplicate names is exact. It accepts a text when the text is one
value and no object it reaches repeats a decoded name, and it needs no more
steps than the bound it is given. -/
namespace Kmtproto
open Json

/-- The values below a value, those of opaque members left out. -/
inductive Within (opaqueFields : List Bytes) : Node → Node → Prop
  | here (node : Node) : Within opaqueFields node node
  | item {items : List Bytes} {item : Bytes} {depth : Nat} {inner node : Node} (found : item ∈ items)
      (viewed : viewAt depth item = some inner) (further : Within opaqueFields inner node) :
      Within opaqueFields (.arr items) node
  | member {members : List (Bytes × Bytes)} {entry : Bytes × Bytes} {depth : Nat} {inner node : Node}
      (found : entry ∈ members) (clear : ∀ key ∈ opaqueFields, unquote entry.1 ≠ some key)
      (viewed : viewAt depth entry.2 = some inner) (further : Within opaqueFields inner node) :
      Within opaqueFields (.obj members) node

/-- The decoded names of an object differ, and a skipped value is within the nesting limit. -/
structure Distinct (opaqueFields : List Bytes) (members : List (Bytes × Bytes)) : Prop where
  names : (members.map (fun entry => unquote entry.1)).Nodup
  skipped : ∀ entry ∈ members, ∀ key ∈ opaqueFields, unquote entry.1 = some key → valid entry.2 = true

/-- Every object reached has distinct names. -/
def Clean (opaqueFields : List Bytes) (node : Node) : Prop :=
  ∀ members, Within opaqueFields node (.obj members) → Distinct opaqueFields members

section Clean
variable {opaqueFields : List Bytes}

private theorem clean_plain {node : Node} (plain : Plain node) : Clean opaqueFields node := by
  intro members within
  cases within with
  | here => cases plain
  | item => cases plain
  | member => cases plain

private theorem clean_arr {items : List Bytes} :
    Clean opaqueFields (.arr items) ↔
      ∀ item ∈ items, ∀ depth inner, viewAt depth item = some inner → Clean opaqueFields inner := by
  constructor
  · intro clean item found depth inner viewed members within
    exact clean members (.item found viewed within)
  · intro each members within
    cases within with
    | item found viewed further => exact each _ found _ _ viewed members further

private theorem clean_obj {members : List (Bytes × Bytes)} :
    Clean opaqueFields (.obj members) ↔
      Distinct opaqueFields members ∧ ∀ entry ∈ members, (∀ key ∈ opaqueFields, unquote entry.1 ≠ some key) →
        ∀ depth inner, viewAt depth entry.2 = some inner → Clean opaqueFields inner := by
  constructor
  · intro clean
    refine ⟨clean members (.here _),?_⟩
    intro entry found clear depth inner viewed others within
    exact clean others (.member found clear viewed within)
  · rintro ⟨distinct,each⟩ others within
    cases within with
    | here => exact distinct
    | member found clear viewed further => exact each _ found clear _ _ viewed others further

end Clean

section Steps
variable {opaqueFields : List Bytes} {fuel : Nat} {dec after : Decoder} {seen : List Bytes}

private theorem walkValue_ok (walked : walkStrictJSONValue opaqueFields (fuel+1) dec = .ok after) :
    (∃ inner, dec.token = .ok (.delim 0x7B,inner) ∧ walkMembers opaqueFields fuel inner [] = .ok after) ∨
    (∃ inner, dec.token = .ok (.delim 0x5B,inner) ∧ walkElements opaqueFields fuel inner = .ok after) ∨
    ∃ token, dec.token = .ok (token,after) ∧ ∀ c, token ≠ .delim c := by
  rw [walkStrictJSONValue] at walked
  split at walked
  · cases walked
  · rename_i c inner taken
    split at walked
    · rename_i brace
      exact Or.inl ⟨inner,by rw [taken,brace],walked⟩
    split at walked
    · rename_i bracket
      exact Or.inr (Or.inl ⟨inner,by rw [taken,bracket],walked⟩)
    · cases walked
  · rename_i token inner plain taken
    cases walked
    exact Or.inr (Or.inr ⟨token,taken,fun c same => plain c (by rw [same])⟩)

private def ValueTaken (opaqueFields : List Bytes) (fuel : Nat) (key : Bytes) (named after : Decoder) : Prop :=
  key ∈ opaqueFields ∧ (∃ raw, named.decode = .ok (raw,after)) ∨
    key ∉ opaqueFields ∧ walkStrictJSONValue opaqueFields fuel named = .ok after

private theorem walkMembers_ok (walked : walkMembers opaqueFields (fuel+1) dec seen = .ok after) :
    (dec.more = true ∧ ∃ key named middle, dec.token = .ok (.text key,named) ∧ key ∉ seen ∧
      ValueTaken opaqueFields fuel key named middle ∧ walkMembers opaqueFields fuel middle (key::seen) = .ok after) ∨
    dec.more = false ∧ dec.token = .ok (.delim 0x7D,after) := by
  rw [walkMembers] at walked
  split at walked
  · rename_i more
    split at walked
    · cases walked
    · rename_i key named taken
      split at walked
      · cases walked
      rename_i fresh
      split at walked
      · rename_i member
        split at walked
        · cases walked
        rename_i raw middle decoded
        exact Or.inl ⟨more,key,named,middle,taken,fresh,Or.inl ⟨member,raw,decoded⟩,walked⟩
      · rename_i other
        split at walked
        · cases walked
        rename_i middle value
        exact Or.inl ⟨more,key,named,middle,taken,fresh,Or.inr ⟨other,value⟩,walked⟩
    · cases walked
  · rename_i stopped
    split at walked
    · cases walked
    rename_i token inner taken
    split at walked
    · rename_i brace
      cases walked
      exact Or.inr ⟨by simpa using stopped,by rw [taken,brace]⟩
    · cases walked

private theorem walkElements_ok (walked : walkElements opaqueFields (fuel+1) dec = .ok after) :
    (dec.more = true ∧ ∃ middle, walkStrictJSONValue opaqueFields fuel dec = .ok middle ∧
      walkElements opaqueFields fuel middle = .ok after) ∨
    dec.more = false ∧ dec.token = .ok (.delim 0x5D,after) := by
  rw [walkElements] at walked
  split at walked
  · rename_i more
    split at walked
    · cases walked
    rename_i middle value
    exact Or.inl ⟨more,middle,value,walked⟩
  · rename_i stopped
    split at walked
    · cases walked
    rename_i token inner taken
    split at walked
    · rename_i bracket
      cases walked
      exact Or.inr ⟨by simpa using stopped,by rw [taken,bracket]⟩
    · cases walked

private theorem walkValue_out (out : walkStrictJSONValue opaqueFields (fuel+1) dec = .error .outOfSteps) :
    ∃ token inner, dec.token = .ok (token,inner) ∧
      (walkMembers opaqueFields fuel inner [] = .error .outOfSteps ∨ walkElements opaqueFields fuel inner = .error .outOfSteps) := by
  rw [walkStrictJSONValue] at out
  split at out
  · cases out
  · rename_i c inner taken
    split at out
    · exact ⟨_,inner,taken,Or.inl out⟩
    split at out
    · exact ⟨_,inner,taken,Or.inr out⟩
    · cases out
  · cases out

private theorem walkMembers_out (out : walkMembers opaqueFields (fuel+1) dec seen = .error .outOfSteps) :
    ∃ key named, dec.token = .ok (.text key,named) ∧ (walkStrictJSONValue opaqueFields fuel named = .error .outOfSteps ∨
      ∃ middle, ValueTaken opaqueFields fuel key named middle ∧ walkMembers opaqueFields fuel middle (key::seen) = .error .outOfSteps) := by
  rw [walkMembers] at out
  split at out
  · split at out
    · cases out
    · rename_i key named taken
      refine ⟨key,named,taken,?_⟩
      split at out
      · cases out
      split at out
      · rename_i member
        split at out
        · cases out
        rename_i raw middle decoded
        exact Or.inr ⟨middle,Or.inl ⟨member,raw,decoded⟩,out⟩
      · rename_i other
        split at out
        · rename_i error inside
          cases out
          exact Or.inl inside
        rename_i middle value
        exact Or.inr ⟨middle,Or.inr ⟨other,value⟩,out⟩
    · cases out
  · split at out
    · cases out
    split at out <;> cases out

private theorem walkElements_out (out : walkElements opaqueFields (fuel+1) dec = .error .outOfSteps) :
    walkStrictJSONValue opaqueFields fuel dec = .error .outOfSteps ∨
      ∃ middle, walkStrictJSONValue opaqueFields fuel dec = .ok middle ∧ walkElements opaqueFields fuel middle = .error .outOfSteps := by
  rw [walkElements] at out
  split at out
  · split at out
    · rename_i error inside
      cases out
      exact Or.inl inside
    rename_i middle value
    exact Or.inr ⟨middle,value,out⟩
  · split at out
    · cases out
    split at out <;> cases out

end Steps

section Bound
variable (opaqueFields : List Bytes)

private theorem walk_shorter (fuel : Nat) :
    (∀ dec after, walkStrictJSONValue opaqueFields fuel dec = .ok after → after.input.length < dec.input.length) ∧
    (∀ dec after seen, walkMembers opaqueFields fuel dec seen = .ok after → after.input.length < dec.input.length) ∧
    (∀ dec after, walkElements opaqueFields fuel dec = .ok after → after.input.length < dec.input.length) := by
  induction fuel with
  | zero => exact ⟨nofun,nofun,nofun⟩
  | succ fuel ih =>
    obtain ⟨value,members,elements⟩ := ih
    refine ⟨fun dec after walked => ?_,fun dec after seen walked => ?_,fun dec after walked => ?_⟩
    · rcases walkValue_ok walked with ⟨inner,taken,walked⟩ | ⟨inner,taken,walked⟩ | ⟨token,taken,_⟩
      · exact Nat.lt_trans (members _ _ _ walked) (Decoder.token_shorter taken)
      · exact Nat.lt_trans (elements _ _ walked) (Decoder.token_shorter taken)
      · exact Decoder.token_shorter taken
    · rcases walkMembers_ok walked with ⟨_,key,named,middle,taken,_,passes,walked⟩ | ⟨_,taken⟩
      · have name := Decoder.token_shorter taken
        have rest := members _ _ _ walked
        have inside : middle.input.length < named.input.length := by
          rcases passes with ⟨_,raw,decoded⟩ | ⟨_,walked⟩
          · exact Decoder.decode_shorter decoded
          · exact value _ _ walked
        omega
      · exact Decoder.token_shorter taken
    · rcases walkElements_ok walked with ⟨_,middle,walked,others⟩ | ⟨_,taken⟩
      · exact Nat.lt_trans (elements _ _ others) (value _ _ walked)
      · exact Decoder.token_shorter taken

private theorem valueTaken_shorter {fuel : Nat} {key : Bytes} {named middle : Decoder}
    (passes : ValueTaken opaqueFields fuel key named middle) : middle.input.length < named.input.length := by
  rcases passes with ⟨_,raw,decoded⟩ | ⟨_,walked⟩
  · exact Decoder.decode_shorter decoded
  · exact (walk_shorter opaqueFields fuel).1 _ _ walked

/-- Two steps a byte are enough. -/
private theorem walk_enough (fuel : Nat) :
    (∀ dec : Decoder, 2*dec.input.length+1 ≤ fuel → walkStrictJSONValue opaqueFields fuel dec ≠ .error .outOfSteps) ∧
    (∀ (dec : Decoder) seen, 2*dec.input.length+2 ≤ fuel → walkMembers opaqueFields fuel dec seen ≠ .error .outOfSteps) ∧
    (∀ dec : Decoder, 2*dec.input.length+2 ≤ fuel → walkElements opaqueFields fuel dec ≠ .error .outOfSteps) := by
  induction fuel with
  | zero => exact ⟨fun _ enough => by omega,fun _ _ enough => by omega,fun _ enough => by omega⟩
  | succ fuel ih =>
    obtain ⟨value,members,elements⟩ := ih
    refine ⟨fun dec enough out => ?_,fun dec seen enough out => ?_,fun dec enough out => ?_⟩
    · obtain ⟨token,inner,taken,inside⟩ := walkValue_out out
      have short := Decoder.token_shorter taken
      rcases inside with out | out
      · exact members inner [] (by omega) out
      · exact elements inner (by omega) out
    · obtain ⟨key,named,taken,out | ⟨middle,passes,out⟩⟩ := walkMembers_out out
      · have short := Decoder.token_shorter taken
        exact value named (by omega) out
      · have short := Decoder.token_shorter taken
        have inside := valueTaken_shorter opaqueFields passes
        exact members middle (key::seen) (by omega) out
    · rcases walkElements_out out with out | ⟨middle,walked,out⟩
      · exact value dec (by omega) out
      · have inside := (walk_shorter opaqueFields fuel).1 _ _ walked
        exact elements middle (by omega) out

private theorem walk_bound (fuel : Nat) :
    (∀ (dec : Decoder) more, 2*dec.input.length+1 ≤ fuel → fuel ≤ more →
      walkStrictJSONValue opaqueFields fuel dec = walkStrictJSONValue opaqueFields more dec) ∧
    (∀ (dec : Decoder) seen more, 2*dec.input.length+2 ≤ fuel → fuel ≤ more →
      walkMembers opaqueFields fuel dec seen = walkMembers opaqueFields more dec seen) ∧
    (∀ (dec : Decoder) more, 2*dec.input.length+2 ≤ fuel → fuel ≤ more →
      walkElements opaqueFields fuel dec = walkElements opaqueFields more dec) := by
  induction fuel with
  | zero => exact ⟨fun _ _ enough => by omega,fun _ _ _ enough => by omega,fun _ _ enough => by omega⟩
  | succ fuel ih =>
    obtain ⟨value,members,elements⟩ := ih
    refine ⟨fun dec more enough larger => ?_,fun dec seen more enough larger => ?_,fun dec more enough larger => ?_⟩ <;>
      obtain ⟨more,rfl⟩ : ∃ n, more = n+1 := ⟨more-1,by omega⟩
    · rw [walkStrictJSONValue,walkStrictJSONValue]
      cases taken : dec.token with
      | error error => rfl
      | ok result =>
        obtain ⟨token,inner⟩ := result
        have short := Decoder.token_shorter taken
        cases token with
        | delim c =>
          apply ite_congr rfl
          · exact fun _ => members inner [] more (by omega) (by omega)
          · exact fun _ => ite_congr rfl (fun _ => elements inner more (by omega) (by omega)) (fun _ => rfl)
        | text _ => rfl
        | literal => rfl
    · rw [walkMembers,walkMembers]
      cases taken : dec.token with
      | error error => rfl
      | ok result =>
        obtain ⟨token,named⟩ := result
        have short := Decoder.token_shorter taken
        cases token with
        | delim c => rfl
        | literal => rfl
        | text key =>
          apply ite_congr rfl
          · intro _
            apply ite_congr rfl
            · exact fun _ => rfl
            intro _
            apply ite_congr rfl
            · intro _
              cases decoded : named.decode with
              | error error => rfl
              | ok result =>
                have inside := Decoder.decode_shorter decoded
                exact members result.2 (key::seen) more (by omega) (by omega)
            · intro _
              rw [value named more (by omega) (by omega)]
              cases walked : walkStrictJSONValue opaqueFields more named with
              | error error => rfl
              | ok middle =>
                have inside := (walk_shorter opaqueFields more).1 _ _ walked
                exact members middle (key::seen) more (by omega) (by omega)
          · exact fun _ => rfl
    · rw [walkElements,walkElements,value dec more (by omega) (by omega)]
      cases walked : walkStrictJSONValue opaqueFields more dec with
      | error error => rfl
      | ok middle =>
        have inside := (walk_shorter opaqueFields more).1 _ _ walked
        exact ite_congr rfl (fun _ => elements middle more (by omega) (by omega)) (fun _ => rfl)

end Bound

private def CleanText (opaqueFields : List Bytes) (text : Bytes) : Prop :=
  ∃ depth node, viewAt depth text = some node ∧ Clean opaqueFields node

private theorem CleanText.clean {opaqueFields : List Bytes} {text : Bytes} (clean : CleanText opaqueFields text) {depth : Nat}
    {node : Node} (viewed : viewAt depth text = some node) : Clean opaqueFields node := by
  obtain ⟨_,_,seen,clean⟩ := clean
  rwa [viewAt_agree viewed seen]

private theorem rawText_viewAt {depth : Nat} {input rest : Bytes} {node : Node} (parsed : parseValue depth input = some (node,rest)) :
    ∃ raw, rawText (parseValue depth) input = some (raw,rest) ∧ input = raw++rest ∧ Reads depth raw node := by
  obtain ⟨raw,form,reads⟩ := parseValue_reads parsed
  refine ⟨raw,?_,form,reads⟩
  rw [rawText,parsed,Option.map_some,form]
  simp

private theorem rawText_head {depth : Nat} (input : Bytes) (result : Bytes × Bytes)
    (parsed : rawText (parseValue depth) input = some result) : input.head? ≠ some 0x5D := by
  obtain ⟨_,parsed,_⟩ := Option.map_eq_some_iff.mp parsed
  obtain ⟨c,rest,rfl,_,_,bracket,_⟩ := parseValue_head depth _ _ parsed
  simpa using bracket

private theorem member_head {depth : Nat} (input : Bytes) (result : (Bytes × Bytes) × Bytes)
    (parsed : member (parseValue depth) input = some result) : input.head? ≠ some 0x7D := by
  unfold member at parsed
  split at parsed
  · simp
  · cases parsed

section Items
variable {α : Type} {item : Bytes → Option (α × Bytes)} {close : UInt8} {start comma state : TokenState}

private inductive NextItem (start comma : TokenState) : TokenState → Bytes → Bytes → Prop
  | first (input : Bytes) : NextItem start comma start input input
  | later {input next : Bytes} (skipped : skipSpace input = 0x2C::next) : NextItem start comma comma input next

private inductive Remaining (item : Bytes → Option (α × Bytes)) (close : UInt8) (start comma : TokenState) :
    TokenState → Bytes → List α → Bytes → Prop
  | all {input rest : Bytes} {values : List α} (found : Sequence item close input values rest) :
      Remaining item close start comma start input values rest
  | tail {input rest : Bytes} {values : List α} (found : Tail item close input values rest) :
      Remaining item close start comma comma input values rest

variable {input placed after rest : Bytes} {value : α} {values : List α}

private theorem Remaining.cons (next : NextItem start comma state input placed) (taken : item (skipSpace placed) = some (value,after))
    (others : Tail item close after values rest) : Remaining item close start comma state input (value::values) rest := by
  cases next with
  | first => exact .all (.first taken others)
  | later skipped => exact .tail (.more skipped taken others)

private theorem Remaining.nil (begins : state = start ∨ state = comma) (skipped : skipSpace input = close::rest) :
    Remaining item close start comma state input [] rest := by
  rcases begins with rfl | rfl
  · exact .all (.empty skipped)
  · exact .tail (.stop skipped)

end Items

section Sound
variable {opaqueFields : List Bytes} {fuel : Nat}

private def reach (fuel : Nat) : Nat := fuel+maxNestingDepth

private theorem reach_mono (fuel : Nat) (input : Bytes) (result : Node × Bytes)
    (parsed : parseValue (reach fuel) input = some result) : parseValue (reach (fuel+1)) input = some result := by
  have wide := parseValue_mono (reach fuel) 1 input result parsed
  rwa [show reach fuel+1 = reach (fuel+1) by unfold reach; omega] at wide

private theorem rawText_mono (fuel : Nat) (input : Bytes) (result : Bytes × Bytes)
    (parsed : rawText (parseValue (reach fuel)) input = some result) :
    rawText (parseValue (reach (fuel+1))) input = some result := by
  obtain ⟨_,parsed,same⟩ := Option.map_eq_some_iff.mp parsed
  rw [rawText,reach_mono fuel _ _ parsed,Option.map_some,same]

private theorem member_mono (fuel : Nat) (input : Bytes) (result : (Bytes × Bytes) × Bytes)
    (parsed : member (parseValue (reach fuel)) input = some result) :
    member (parseValue (reach (fuel+1))) input = some result := by
  unfold member at parsed ⊢
  split at parsed
  · simp only [bind,Option.bind_eq_some_iff] at parsed ⊢
    obtain ⟨named,scanned,parsed⟩ := parsed
    refine ⟨named,scanned,?_⟩
    split at parsed
    · obtain ⟨value,found,same⟩ := Option.bind_eq_some_iff.mp parsed
      exact Option.bind_eq_some_iff.mpr ⟨value,rawText_mono fuel _ _ found,same⟩
    · cases parsed
  · cases parsed

private def SoundValue (opaqueFields : List Bytes) (fuel : Nat) : Prop :=
  ∀ dec after, dec.state.valueAllowed = true → walkStrictJSONValue opaqueFields fuel dec = .ok after →
    after = ⟨after.input,dec.state.valueEnd,dec.stack⟩ ∧
      ∃ node, parseValue (reach fuel) (skipSpace dec.input) = some (node,after.input) ∧ Clean opaqueFields node

private def SoundElements (opaqueFields : List Bytes) (fuel : Nat) : Prop :=
  ∀ dec after outer stack, dec.stack = outer::stack → dec.state = .arrayStart ∨ dec.state = .arrayComma →
    walkElements opaqueFields fuel dec = .ok after →
    after = ⟨after.input,outer.valueEnd,stack⟩ ∧ ∃ items, (∀ item ∈ items, CleanText opaqueFields item) ∧
      Remaining (rawText (parseValue (reach fuel))) 0x5D .arrayStart .arrayComma dec.state dec.input items after.input

private structure Passed (opaqueFields seen : List Bytes) (members : List (Bytes × Bytes)) : Prop where
  fresh : ∀ entry ∈ members, ∃ key ∉ seen, unquote entry.1 = some key
  distinct : Distinct opaqueFields members
  walked : ∀ entry ∈ members, (∀ key ∈ opaqueFields, unquote entry.1 ≠ some key) → CleanText opaqueFields entry.2

private def SoundMembers (opaqueFields : List Bytes) (fuel : Nat) : Prop :=
  ∀ dec after seen outer stack, dec.stack = outer::stack → dec.state = .objectStart ∨ dec.state = .objectComma →
    walkMembers opaqueFields fuel dec seen = .ok after →
    after = ⟨after.input,outer.valueEnd,stack⟩ ∧ ∃ members, Passed opaqueFields seen members ∧
      Remaining (member (parseValue (reach fuel))) 0x7D .objectStart .objectComma dec.state dec.input members after.input

private theorem Passed.nil (seen : List Bytes) : Passed opaqueFields seen [] :=
  ⟨by simp,⟨.nil,by simp⟩,by simp⟩

private theorem Passed.cons {seen : List Bytes} {entry : Bytes × Bytes} {members : List (Bytes × Bytes)} {key : Bytes}
    (named : unquote entry.1 = some key) (fresh : key ∉ seen) (passed : Passed opaqueFields (key::seen) members)
    (skipped : key ∈ opaqueFields → valid entry.2 = true) (walked : key ∉ opaqueFields → CleanText opaqueFields entry.2) :
    Passed opaqueFields seen (entry::members) := by
  refine ⟨List.forall_mem_cons.mpr ⟨⟨key,fresh,named⟩,fun other found => ?_⟩,⟨?_,List.forall_mem_cons.mpr ⟨?_,passed.distinct.skipped⟩⟩,
    List.forall_mem_cons.mpr ⟨?_,passed.walked⟩⟩
  · obtain ⟨name,unseen,decoded⟩ := passed.fresh other found
    exact ⟨name,fun early => unseen (by simp [early]),decoded⟩
  · rw [List.map_cons,List.nodup_cons]
    refine ⟨?_,passed.distinct.names⟩
    intro repeated
    obtain ⟨other,found,same⟩ := List.mem_map.mp repeated
    obtain ⟨name,unseen,decoded⟩ := passed.fresh other found
    have equal : name = key := Option.some.inj (decoded.symm.trans (same.trans named))
    exact unseen (by simp [equal])
  · intro name member decoded
    have equal : name = key := Option.some.inj (decoded.symm.trans named)
    exact skipped (equal ▸ member)
  · intro clear
    exact walked (fun member => clear key member named)

private theorem walk_separated {dec after : Decoder} {c : UInt8} {next : TokenState}
    (waits : dec.state.separator = some (c,next)) (due : dec.more = true ∨ dec.state = .objectColon)
    (walked : walkStrictJSONValue opaqueFields fuel dec = .ok after) :
    ∃ rest, skipSpace dec.input = c::rest ∧ walkStrictJSONValue opaqueFields fuel ⟨rest,next,dec.stack⟩ = .ok after := by
  have taken : ∃ result, dec.token = .ok result := by
    cases fuel with
    | zero => cases walked
    | succ fuel =>
      rcases walkValue_ok walked with ⟨inner,taken,_⟩ | ⟨inner,taken,_⟩ | ⟨token,taken,_⟩ <;> exact ⟨_,taken⟩
  obtain ⟨⟨token,inner⟩,taken⟩ := taken
  rcases Decoder.token_waiting waits taken with ⟨rest,skipped⟩ | ⟨stopped,other⟩
  · refine ⟨rest,skipped,?_⟩
    rw [← walked]
    exact (walk_token opaqueFields fuel _ _ (Decoder.token_separated waits skipped)).symm
  · rcases due with more | state
    · rw [stopped] at more
      cases more
    · exact absurd state other

private theorem element_next {dec middle : Decoder} (state : dec.state = .arrayStart ∨ dec.state = .arrayComma)
    (more : dec.more = true) (walked : walkStrictJSONValue opaqueFields fuel dec = .ok middle) :
    ∃ input inside, NextItem .arrayStart .arrayComma dec.state dec.input input ∧ inside.valueAllowed = true ∧
      inside.valueEnd = .arrayComma ∧ walkStrictJSONValue opaqueFields fuel ⟨input,inside,dec.stack⟩ = .ok middle := by
  rcases state with state | state
  · refine ⟨dec.input,dec.state,?_,by rw [state]; rfl,by rw [state]; rfl,walked⟩
    rw [state]
    exact .first _
  · have waits : dec.state.separator = some (0x2C,.arrayValue) := by rw [state]; rfl
    obtain ⟨rest,skipped,walked⟩ := walk_separated waits (Or.inl more) walked
    refine ⟨rest,.arrayValue,?_,rfl,rfl,walked⟩
    rw [state]
    exact .later skipped

private theorem elements_sound (value : SoundValue opaqueFields fuel) (elements : SoundElements opaqueFields fuel) :
    SoundElements opaqueFields (fuel+1) := by
  intro dec after outer stack nested state walked
  rcases walkElements_ok walked with ⟨more,middle,child,others⟩ | ⟨stopped,taken⟩
  · obtain ⟨input,inside,next,allowed,ending,child⟩ := element_next state more child
    obtain ⟨ended,node,parsed,clean⟩ := value _ middle allowed child
    obtain ⟨raw,taken,_,reads⟩ := rawText_viewAt parsed
    rw [nested,ending] at ended
    obtain ⟨closed,items,each,remaining⟩ := elements middle after outer stack (by rw [ended]) (Or.inr (by rw [ended])) others
    rw [ended] at remaining
    cases remaining with
    | tail tail =>
      refine ⟨closed,raw::items,List.forall_mem_cons.mpr ⟨⟨_,node,reads.viewAt,clean⟩,each⟩,?_⟩
      exact .cons next (rawText_mono _ _ _ taken) (tail.mono (rawText_mono fuel))
  · obtain ⟨c,rest,_,_,skipped,same,deeper,rfl,_⟩ := Decoder.token_stopped stopped taken
    cases same
    rw [nested] at deeper
    cases deeper
    exact ⟨rfl,[],by simp,.nil state skipped⟩

private theorem member_next {dec named : Decoder} {key : Bytes} (state : dec.state = .objectStart ∨ dec.state = .objectComma)
    (more : dec.more = true) (taken : dec.token = .ok (.text key,named)) :
    ∃ input tail chars, NextItem .objectStart .objectComma dec.state dec.input input ∧ skipSpace input = 0x22::tail ∧
      scanChars .plain tail = some (chars,named.input) ∧ unquote chars = some key ∧
      named = ⟨named.input,.objectColon,dec.stack⟩ := by
  have start : ∃ input inside, NextItem .objectStart .objectComma dec.state dec.input input ∧
      (inside = .objectStart ∨ inside = .objectKey) ∧ (⟨input,inside,dec.stack⟩ : Decoder).token = .ok (.text key,named) := by
    rcases state with state | state
    · refine ⟨dec.input,dec.state,?_,Or.inl state,taken⟩
      rw [state]
      exact .first _
    · have waits : dec.state.separator = some (0x2C,.objectKey) := by rw [state]; rfl
      rcases Decoder.token_waiting waits taken with ⟨rest,skipped⟩ | ⟨stopped,_⟩
      · refine ⟨rest,.objectKey,?_,Or.inr rfl,by rw [← taken,Decoder.token_separated waits skipped]⟩
        rw [state]
        exact .later skipped
      · rw [stopped] at more
        cases more
  obtain ⟨input,inside,next,key',taken⟩ := start
  have settled : inside.separator = none := by rcases key' with rfl | rfl <;> rfl
  have shut : inside.valueAllowed = false := by rcases key' with rfl | rfl <;> rfl
  obtain ⟨c,rest,skipped,takes⟩ := Decoder.token_takes settled taken
  cases takes with
  | name _ scanned decoded => exact ⟨input,rest,_,next,skipped,scanned,decoded,rfl⟩
  | literal allowed _ _ =>
    rw [show (⟨input,inside,dec.stack⟩ : Decoder).state = inside from rfl,shut] at allowed
    cases allowed

private theorem member_value (value : SoundValue opaqueFields fuel) {named middle : Decoder} {key : Bytes}
    (state : named.state = .objectColon) (taken : ValueTaken opaqueFields fuel key named middle) :
    middle = ⟨middle.input,.objectComma,named.stack⟩ ∧ ∃ colon raw, skipSpace named.input = 0x3A::colon ∧
      rawText (parseValue (reach fuel)) (skipSpace colon) = some (raw,middle.input) ∧
      (key ∈ opaqueFields → valid raw = true) ∧ (key ∉ opaqueFields → CleanText opaqueFields raw) := by
  rcases taken with ⟨member,raw,decoded⟩ | ⟨other,walked⟩
  · obtain ⟨colon,node,skipped,parsed,ended⟩ := Decoder.decode_member state decoded
    have deep := parseValue_mono maxNestingDepth fuel _ _ parsed
    rw [Nat.add_comm] at deep
    obtain ⟨raw,_,form,reads⟩ := rawText_viewAt parsed
    obtain ⟨wide,taken,same,_⟩ := rawText_viewAt deep
    obtain rfl : raw = wide := List.append_cancel_right (form.symm.trans same)
    refine ⟨ended,colon,raw,skipped,taken,fun _ => ?_,fun absent => absurd member absent⟩
    rw [valid,reads.view (Nat.le_refl _)]
    rfl
  · have waits : named.state.separator = some (0x3A,.objectValue) := by rw [state]; rfl
    obtain ⟨colon,skipped,walked⟩ := walk_separated waits (Or.inr state) walked
    obtain ⟨ended,node,parsed,clean⟩ := value _ middle rfl walked
    obtain ⟨raw,taken,_,reads⟩ := rawText_viewAt parsed
    exact ⟨ended,colon,raw,skipped,taken,fun member => absurd member other,fun _ => ⟨_,node,reads.viewAt,clean⟩⟩

private theorem members_sound (value : SoundValue opaqueFields fuel) (members : SoundMembers opaqueFields fuel) :
    SoundMembers opaqueFields (fuel+1) := by
  intro dec after seen outer stack nested state walked
  rcases walkMembers_ok walked with ⟨more,key,named,middle,taken,fresh,inside,others⟩ | ⟨stopped,taken⟩
  · obtain ⟨input,tail,chars,next,start,scanned,decoded,named'⟩ := member_next state more taken
    obtain ⟨ended,colon,raw,skipped,value',hidden,clear⟩ := member_value value (by rw [named']) inside
    rw [named',nested] at ended
    obtain ⟨closed,entries,passed,remaining⟩ := members middle after (key::seen) outer stack (by rw [ended])
      (Or.inr (by rw [ended])) others
    have entry : member (parseValue (reach fuel)) (skipSpace input) = some ((chars,raw),middle.input) := by
      simp [member,start,scanned,skipped,value']
    rw [ended] at remaining
    cases remaining with
    | tail tail =>
      refine ⟨closed,(chars,raw)::entries,passed.cons decoded fresh hidden clear,?_⟩
      exact .cons next (member_mono _ _ _ entry) (tail.mono (member_mono fuel))
  · obtain ⟨c,rest,_,_,skipped,same,deeper,rfl,_⟩ := Decoder.token_stopped stopped taken
    cases same
    rw [nested] at deeper
    cases deeper
    exact ⟨rfl,[],.nil seen,.nil state skipped⟩

private theorem value_sound (members : SoundMembers opaqueFields fuel) (elements : SoundElements opaqueFields fuel) :
    SoundValue opaqueFields (fuel+1) := by
  intro dec after allowed walked
  have settled : dec.state.separator = none := by
    cases waits : dec.state.separator with
    | none => rfl
    | some result =>
      rw [TokenState.separator_shut waits] at allowed
      cases allowed
  rw [show reach (fuel+1) = reach fuel+1 by unfold reach; omega]
  rcases walkValue_ok walked with ⟨inner,taken,walked⟩ | ⟨inner,taken,walked⟩ | ⟨token,taken,plain⟩
  · obtain ⟨rest,inside,skipped,rfl,bracket⟩ := Decoder.token_opened settled (Or.inr rfl) taken
    obtain rfl : inside = .objectStart := by
      rcases bracket with ⟨same,_⟩ | ⟨_,same⟩
      · cases same
      · exact same
    obtain ⟨ended,entries,passed,remaining⟩ := members _ after [] dec.state dec.stack rfl (Or.inl rfl) walked
    cases remaining with
    | all found =>
      have parsed := (items_iff (member_local (parseValue_local _)) (Or.inr rfl) member_head).mpr found
      refine ⟨ended,.obj entries,by rw [skipped]; simp [parseValue,parsed],clean_obj.mpr ⟨passed.distinct,?_⟩⟩
      exact fun entry found clear _ _ viewed => (passed.walked entry found clear).clean viewed
  · obtain ⟨rest,inside,skipped,rfl,bracket⟩ := Decoder.token_opened settled (Or.inl rfl) taken
    obtain rfl : inside = .arrayStart := by
      rcases bracket with ⟨_,same⟩ | ⟨same,_⟩
      · exact same
      · cases same
    obtain ⟨ended,children,each,remaining⟩ := elements _ after dec.state dec.stack rfl (Or.inl rfl) walked
    cases remaining with
    | all found =>
      have parsed := (items_iff (rawText_local (parseValue_local _)) (Or.inl rfl) rawText_head).mpr found
      refine ⟨ended,.arr children,by rw [skipped]; simp [parseValue,parsed],clean_arr.mpr ?_⟩
      exact fun item found _ _ viewed => (each item found).clean viewed
  · obtain ⟨c,rest,skipped,takes⟩ := Decoder.token_takes settled taken
    cases takes with
    | opens => exact absurd rfl (plain c)
    | closes => exact absurd rfl (plain c)
    | name state _ _ =>
      rcases state with state | state <;> rw [state] at allowed <;> cases allowed
    | literal _ parsed _ =>
      have wide := parseValue_mono 0 (reach fuel+1) _ _ parsed
      rw [Nat.zero_add] at wide
      exact ⟨rfl,_,by rw [skipped]; exact wide,clean_plain (scalar_plain _ _ _ parsed)⟩

private theorem walk_sound (opaqueFields : List Bytes) (fuel : Nat) :
    SoundValue opaqueFields fuel ∧ SoundMembers opaqueFields fuel ∧ SoundElements opaqueFields fuel := by
  induction fuel with
  | zero => exact ⟨fun _ _ _ => nofun,fun _ _ _ _ _ _ _ => nofun,fun _ _ _ _ _ _ => nofun⟩
  | succ fuel ih =>
    obtain ⟨value,members,elements⟩ := ih
    exact ⟨value_sound members elements,members_sound value members,elements_sound value elements⟩

end Sound

section Complete
variable {opaqueFields : List Bytes} {depth : Nat} {outer : TokenState} {stack : List TokenState}

private def Ends (walk : Nat → Except WalkError Decoder) (after : Decoder) : Prop :=
  ∃ bound, ∀ fuel, bound ≤ fuel → walk fuel = .ok after

private theorem Ends.step {first second walk : Nat → Except WalkError Decoder} {middle after : Decoder} (one : Ends first middle)
    (two : Ends second after)
    (steps : ∀ fuel, first fuel = .ok middle → walk (fuel+1) = second fuel) : Ends walk after := by
  obtain ⟨early,one⟩ := one
  obtain ⟨late,two⟩ := two
  refine ⟨max early late+1,fun fuel enough => ?_⟩
  obtain ⟨fuel,rfl⟩ : ∃ n, fuel = n+1 := ⟨fuel-1,by omega⟩
  rw [steps fuel (one fuel (by omega)),two fuel (by omega)]

private theorem Ends.succ {first walk : Nat → Except WalkError Decoder} {after : Decoder} (one : Ends first after)
    (steps : ∀ fuel, walk (fuel+1) = first fuel) : Ends walk after :=
  one.step one (fun fuel _ => steps fuel)

private theorem Ends.done {walk : Nat → Except WalkError Decoder} {after : Decoder}
    (ends : ∀ fuel, walk (fuel+1) = .ok after) : Ends walk after := by
  refine ⟨1,fun fuel enough => ?_⟩
  obtain ⟨fuel,rfl⟩ : ∃ n, fuel = n+1 := ⟨fuel-1,by omega⟩
  exact ends fuel

private def CompleteValue (opaqueFields : List Bytes) (depth : Nat) : Prop :=
  ∀ dec node rest, dec.state.valueAllowed = true → parseValue depth (skipSpace dec.input) = some (node,rest) →
    Clean opaqueFields node →
    Ends (fun fuel => walkStrictJSONValue opaqueFields fuel dec) ⟨rest,dec.state.valueEnd,dec.stack⟩

private theorem elements_step (complete : CompleteValue opaqueFields depth) {dec : Decoder} {input raw middle rest : Bytes}
    {inside : TokenState} (nested : dec.stack = outer::stack) (allowed : inside.valueAllowed = true)
    (ending : inside.valueEnd = .arrayComma) (more : dec.more = true)
    (start : dec.token = (⟨input,inside,dec.stack⟩ : Decoder).token)
    (taken : rawText (parseValue depth) (skipSpace input) = some (raw,middle))
    (clean : ∀ depth inner, viewAt depth raw = some inner → Clean opaqueFields inner)
    (others : Ends (fun fuel => walkElements opaqueFields fuel ⟨middle,.arrayComma,outer::stack⟩) ⟨rest,outer.valueEnd,stack⟩) :
    Ends (fun fuel => walkElements opaqueFields fuel dec) ⟨rest,outer.valueEnd,stack⟩ := by
  obtain ⟨⟨node,_⟩,parsed,same⟩ := Option.map_eq_some_iff.mp taken
  obtain ⟨whole,again,_,reads⟩ := rawText_viewAt parsed
  cases same
  rw [taken] at again
  cases again
  have walked := complete ⟨input,inside,dec.stack⟩ node _ allowed parsed (clean _ _ reads.viewAt)
  refine walked.step others (fun fuel walked => ?_)
  rw [← walk_token opaqueFields fuel _ _ start] at walked
  rw [walkElements,if_pos more,walked,ending,nested]

private theorem elements_stop {dec : Decoder} {rest : Bytes} (nested : dec.stack = outer::stack)
    (state : dec.state = .arrayStart ∨ dec.state = .arrayComma) (skipped : skipSpace dec.input = 0x5D::rest) :
    Ends (fun fuel => walkElements opaqueFields fuel dec) ⟨rest,outer.valueEnd,stack⟩ := by
  apply Ends.done
  intro fuel
  have stopped : dec.more = false := dec.more_skipped skipped
  rw [walkElements,stopped,Decoder.token_closes skipped (Or.inl ⟨rfl,state⟩) nested]
  rfl

private theorem elements_tail (complete : CompleteValue opaqueFields depth) {input rest : Bytes} {items : List Bytes}
    (tail : Tail (rawText (parseValue depth)) 0x5D input items rest)
    (clean : ∀ item ∈ items, ∀ depth inner, viewAt depth item = some inner → Clean opaqueFields inner) :
    Ends (fun fuel => walkElements opaqueFields fuel ⟨input,.arrayComma,outer::stack⟩) ⟨rest,outer.valueEnd,stack⟩ := by
  induction tail with
  | stop skipped => exact elements_stop rfl (Or.inr rfl) skipped
  | more skipped taken _ ih =>
    refine elements_step complete rfl rfl rfl ?_ (Decoder.token_separated rfl skipped) taken (clean _ (by simp)) ?_
    · exact Decoder.more_skipped ⟨_,_,_⟩ skipped
    exact ih (fun item found => clean item (by simp [found]))

private theorem elements_complete (complete : CompleteValue opaqueFields depth) {input rest : Bytes} {items : List Bytes}
    (found : Sequence (rawText (parseValue depth)) 0x5D input items rest) (clean : Clean opaqueFields (.arr items)) :
    Ends (fun fuel => walkElements opaqueFields fuel ⟨input,.arrayStart,outer::stack⟩) ⟨rest,outer.valueEnd,stack⟩ := by
  have each := clean_arr.mp clean
  cases found with
  | empty skipped => exact elements_stop rfl (Or.inl rfl) skipped
  | first taken tail =>
    obtain ⟨⟨node,_⟩,parsed,_⟩ := Option.map_eq_some_iff.mp taken
    obtain ⟨c,_,skipped,_,_,bracket,brace,_⟩ := parseValue_head depth _ _ parsed
    refine elements_step complete rfl rfl rfl ?_ rfl taken (each _ (by simp)) ?_
    · rw [Decoder.more_skipped _ skipped]
      simp [bracket,brace]
    · exact elements_tail complete tail (fun item found => each item (by simp [found]))

private theorem member_parts {input middle : Bytes} {entry : Bytes × Bytes}
    (taken : member (parseValue depth) (skipSpace input) = some (entry,middle)) :
    ∃ tail named colon key node, skipSpace input = 0x22::tail ∧ scanChars .plain tail = some (entry.1,named) ∧
      unquote entry.1 = some key ∧ skipSpace named = 0x3A::colon ∧ parseValue depth (skipSpace colon) = some (node,middle) ∧
      skipSpace colon = entry.2++middle ∧ Reads depth entry.2 node := by
  unfold member at taken
  split at taken
  · rename_i tail skipped
    simp only [bind,Option.bind_eq_some_iff] at taken
    obtain ⟨⟨name,named⟩,scanned,taken⟩ := taken
    split at taken
    · rename_i colon later
      obtain ⟨⟨raw,_⟩,found,same⟩ := Option.bind_eq_some_iff.mp taken
      cases same
      obtain ⟨key,decoded⟩ := unquote_passes (walk_scanChars .plain _ _ _ scanned).1
      obtain ⟨⟨node,_⟩,parsed,same⟩ := Option.map_eq_some_iff.mp found
      obtain ⟨whole,again,form,reads⟩ := rawText_viewAt parsed
      cases same
      rw [found] at again
      cases again
      exact ⟨tail,named,colon,key,node,skipped,scanned,decoded,later,parsed,form,reads⟩
    · cases taken
  · cases taken

private theorem members_step (complete : CompleteValue opaqueFields depth) {dec : Decoder} {input middle rest : Bytes}
    {entry : Bytes × Bytes} {inside : TokenState} {key : Bytes} {seen : List Bytes} (nested : dec.stack = outer::stack)
    (named : inside = .objectStart ∨ inside = .objectKey) (more : dec.more = true)
    (start : dec.token = (⟨input,inside,dec.stack⟩ : Decoder).token)
    (taken : member (parseValue depth) (skipSpace input) = some (entry,middle)) (delimited : Delimited middle)
    (decoded : unquote entry.1 = some key) (fresh : key ∉ seen)
    (skipped : key ∈ opaqueFields → valid entry.2 = true)
    (clean : key ∉ opaqueFields → ∀ depth inner, viewAt depth entry.2 = some inner → Clean opaqueFields inner)
    (others : Ends (fun fuel => walkMembers opaqueFields fuel ⟨middle,.objectComma,outer::stack⟩ (key::seen))
      ⟨rest,outer.valueEnd,stack⟩) :
    Ends (fun fuel => walkMembers opaqueFields fuel dec seen) ⟨rest,outer.valueEnd,stack⟩ := by
  obtain ⟨tail,after,colon,_,node,visible,scanned,same,behind,parsed,form,reads⟩ := member_parts taken
  cases decoded.symm.trans same
  have name : dec.token = .ok (.text key,⟨after,.objectColon,dec.stack⟩) := by
    rw [start]
    exact Decoder.token_named visible named scanned decoded
  by_cases hidden : key ∈ opaqueFields
  · -- the skipped value is within the limit, so the decoder takes it as a whole
    obtain ⟨shown,viewed⟩ := Option.isSome_iff_exists.mp (skipped hidden)
    have shallow := reads.lower viewed middle delimited
    rw [← form] at shallow
    have value : ∃ raw, (⟨after,.objectColon,dec.stack⟩ : Decoder).decode = .ok (raw,⟨middle,.objectComma,dec.stack⟩) :=
      Decoder.decode_value rfl behind shallow
    obtain ⟨raw,value⟩ := value
    refine others.succ (fun fuel => ?_)
    rw [walkMembers,if_pos more,name]
    simp only [if_neg fresh,if_pos hidden,value]
    rw [nested]
  · have walked := complete ⟨colon,.objectValue,dec.stack⟩ node middle rfl parsed (clean hidden _ _ reads.viewAt)
    refine walked.step others (fun fuel walked => ?_)
    rw [← walk_token opaqueFields fuel ⟨after,.objectColon,dec.stack⟩ _ (Decoder.token_separated rfl behind)] at walked
    rw [walkMembers,if_pos more,name]
    simp only [if_neg fresh,if_neg hidden,walked]
    rw [nested]
    rfl

private theorem members_stop {dec : Decoder} {rest : Bytes} {seen : List Bytes} (nested : dec.stack = outer::stack)
    (state : dec.state = .objectStart ∨ dec.state = .objectComma) (skipped : skipSpace dec.input = 0x7D::rest) :
    Ends (fun fuel => walkMembers opaqueFields fuel dec seen) ⟨rest,outer.valueEnd,stack⟩ := by
  apply Ends.done
  intro fuel
  have stopped : dec.more = false := dec.more_skipped skipped
  rw [walkMembers,stopped,Decoder.token_closes skipped (Or.inr ⟨rfl,state⟩) nested]
  rfl

private structure Pending (opaqueFields seen : List Bytes) (members : List (Bytes × Bytes)) : Prop where
  fresh : ∀ entry ∈ members, ∀ key ∈ seen, unquote entry.1 ≠ some key
  distinct : Distinct opaqueFields members
  clean : ∀ entry ∈ members, (∀ key ∈ opaqueFields, unquote entry.1 ≠ some key) →
    ∀ depth inner, viewAt depth entry.2 = some inner → Clean opaqueFields inner

private theorem Pending.tail {seen : List Bytes} {entry : Bytes × Bytes} {members : List (Bytes × Bytes)} {key : Bytes}
    (pending : Pending opaqueFields seen (entry::members)) (decoded : unquote entry.1 = some key) :
    Pending opaqueFields (key::seen) members := by
  obtain ⟨fresh,⟨names,skipped⟩,clean⟩ := pending
  rw [List.map_cons,List.nodup_cons] at names
  refine ⟨fun other found => List.forall_mem_cons.mpr ⟨fun repeated => ?_,fresh other (by simp [found])⟩,
    ⟨names.2,fun other found => skipped other (by simp [found])⟩,fun other found => clean other (by simp [found])⟩
  exact names.1 (List.mem_map.mpr ⟨other,found,repeated.trans decoded.symm⟩)

private theorem members_next (complete : CompleteValue opaqueFields depth) {dec : Decoder} {input middle rest : Bytes}
    {entry : Bytes × Bytes} {members : List (Bytes × Bytes)} {inside : TokenState} {seen : List Bytes}
    (nested : dec.stack = outer::stack) (named : inside = .objectStart ∨ inside = .objectKey) (more : dec.more = true)
    (start : dec.token = (⟨input,inside,dec.stack⟩ : Decoder).token)
    (taken : member (parseValue depth) (skipSpace input) = some (entry,middle)) (delimited : Delimited middle)
    (pending : Pending opaqueFields seen (entry::members))
    (others : ∀ seen, Pending opaqueFields seen members →
      Ends (fun fuel => walkMembers opaqueFields fuel ⟨middle,.objectComma,outer::stack⟩ seen) ⟨rest,outer.valueEnd,stack⟩) :
    Ends (fun fuel => walkMembers opaqueFields fuel dec seen) ⟨rest,outer.valueEnd,stack⟩ := by
  obtain ⟨_,_,_,key,_,_,_,decoded,_⟩ := member_parts taken
  have fresh : key ∉ seen := fun early => pending.fresh entry (by simp) key early decoded
  refine members_step complete nested named more start taken delimited decoded fresh ?_ ?_ (others _ (pending.tail decoded))
  · exact fun member => pending.distinct.skipped entry (by simp) key member decoded
  · intro absent
    apply pending.clean entry (by simp)
    intro name member same
    exact absent (Option.some.inj (decoded.symm.trans same) ▸ member)

private theorem members_tail (complete : CompleteValue opaqueFields depth) {input rest : Bytes} {members : List (Bytes × Bytes)}
    (tail : Tail (member (parseValue depth)) 0x7D input members rest) (seen : List Bytes)
    (pending : Pending opaqueFields seen members) :
    Ends (fun fuel => walkMembers opaqueFields fuel ⟨input,.objectComma,outer::stack⟩ seen) ⟨rest,outer.valueEnd,stack⟩ := by
  induction tail generalizing seen with
  | stop skipped => exact members_stop rfl (Or.inr rfl) skipped
  | more skipped taken others ih =>
    refine members_next complete rfl (Or.inr rfl) ?_ (Decoder.token_separated rfl skipped) taken (others.delimited (Or.inr rfl))
      pending ih
    exact Decoder.more_skipped ⟨_,_,_⟩ skipped

private theorem members_complete (complete : CompleteValue opaqueFields depth) {input rest : Bytes} {members : List (Bytes × Bytes)}
    (found : Sequence (member (parseValue depth)) 0x7D input members rest) (clean : Clean opaqueFields (.obj members)) :
    Ends (fun fuel => walkMembers opaqueFields fuel ⟨input,.objectStart,outer::stack⟩ []) ⟨rest,outer.valueEnd,stack⟩ := by
  obtain ⟨distinct,each⟩ := clean_obj.mp clean
  cases found with
  | empty skipped => exact members_stop rfl (Or.inl rfl) skipped
  | first taken tail =>
    obtain ⟨_,_,_,_,_,visible,_⟩ := member_parts taken
    refine members_next complete rfl (Or.inl rfl) ?_ rfl taken (tail.delimited (Or.inr rfl)) ⟨by simp,distinct,each⟩
      (members_tail complete tail)
    exact Decoder.more_skipped ⟨_,_,_⟩ visible

private theorem value_complete (opaqueFields : List Bytes) (depth : Nat) : CompleteValue opaqueFields depth := by
  have scalars (dec : Decoder) (node : Node) (rest : Bytes) (allowed : dec.state.valueAllowed = true)
      (parsed : scalar (skipSpace dec.input) = some (node,rest)) :
      Ends (fun fuel => walkStrictJSONValue opaqueFields fuel dec) ⟨rest,dec.state.valueEnd,dec.stack⟩ := by
    obtain ⟨token,plain,taken⟩ := Decoder.token_literal allowed parsed
    apply Ends.done
    intro fuel
    rw [walkStrictJSONValue,taken]
    cases token with
    | delim c => exact absurd rfl (plain c)
    | text value => rfl
    | literal => rfl
  induction depth with
  | zero => exact fun dec node rest allowed parsed _ => scalars dec node rest allowed parsed
  | succ depth ih =>
    intro dec node rest allowed parsed clean
    unfold parseValue at parsed
    split at parsed
    · rename_i tail skipped
      obtain ⟨⟨members,_⟩,found,same⟩ := Option.map_eq_some_iff.mp parsed
      cases same
      have sequence := (items_iff (member_local (parseValue_local _)) (Or.inr rfl) member_head).mp found
      refine (members_complete ih sequence clean).succ (fun fuel => ?_)
      rw [walkStrictJSONValue,Decoder.token_opens skipped (Or.inr ⟨rfl,rfl⟩) allowed]
      rfl
    · rename_i tail skipped
      obtain ⟨⟨children,_⟩,found,same⟩ := Option.map_eq_some_iff.mp parsed
      cases same
      have sequence := (items_iff (rawText_local (parseValue_local _)) (Or.inl rfl) rawText_head).mp found
      refine (elements_complete ih sequence clean).succ (fun fuel => ?_)
      rw [walkStrictJSONValue,Decoder.token_opens skipped (Or.inl ⟨rfl,rfl⟩) allowed]
      rfl
    · exact scalars dec node rest allowed parsed

end Complete

section Exact

theorem ensureJSONEOF_iff (rest : Bytes) :
    ensureJSONEOF ⟨rest,.topValue,[]⟩ = .ok () ↔ (skipSpace rest).isEmpty = true := by
  cases skipped : skipSpace rest with
  | nil =>
    have ended : (⟨rest,.topValue,[]⟩ : Decoder).decode = .error .eof := by
      simp [Decoder.decode,Decoder.prepare,TokenState.valueAllowed,skipped,bind,Except.bind]
    rw [ensureJSONEOF,ended]
    exact ⟨fun _ => rfl,fun _ => rfl⟩
  | cons c tail =>
    rw [ensureJSONEOF,Decoder.decode_allowed ⟨rest,.topValue,[]⟩ rfl skipped]
    cases rawText (parseValue maxNestingDepth) (c::tail) with
    | none => simp
    | some result => simp

theorem accepts_iff (raw : Bytes) (opaqueFields : List Bytes) :
    rejectDuplicateJSONFields raw opaqueFields = .ok () ↔
      ∃ depth node, viewAt depth raw = some node ∧ Clean opaqueFields node := by
  rw [rejectDuplicateJSONFields]
  constructor
  · intro accepted
    split at accepted
    · cases accepted
    · cases accepted
    rename_i after walked
    obtain ⟨ended,node,parsed,clean⟩ := (walk_sound opaqueFields (2*raw.length+2)).1 {input := raw} after rfl walked
    split at accepted
    · cases accepted
    rename_i eof
    rw [ended] at eof
    refine ⟨reach (2*raw.length+2),node,?_,clean⟩
    simp only [viewAt,bind,Option.bind_eq_some_iff]
    exact ⟨_,parsed,if_pos ((ensureJSONEOF_iff after.input).mp eof)⟩
  · rintro ⟨depth,node,viewed,clean⟩
    simp only [viewAt,bind,Option.bind_eq_some_iff] at viewed
    obtain ⟨⟨node,rest⟩,parsed,blank⟩ := viewed
    split at blank
    · rename_i empty
      cases blank
      obtain ⟨bound,walked⟩ := value_complete opaqueFields depth {input := raw} node rest rfl parsed clean
      have enough := (walk_bound opaqueFields (2*raw.length+2)).1 {input := raw} (max bound (2*raw.length+2))
        (by simp only; omega) (by omega)
      rw [enough,show walkStrictJSONValue opaqueFields (max bound (2*raw.length+2)) {input := raw} = _ from
        walked (max bound (2*raw.length+2)) (by omega)]
      simp only [TokenState.valueEnd,(ensureJSONEOF_iff rest).mpr empty]
    · cases blank

private theorem viewAt_inside {depth : Nat} {text : Bytes} {node : Node} (viewed : viewAt depth text = some node)
    (bounded : depth ≤ maxNestingDepth) : Plain node ∨ ∃ inner < maxNestingDepth, Children inner node := by
  cases depth with
  | zero =>
    simp only [viewAt,bind,Option.bind_eq_some_iff] at viewed
    obtain ⟨⟨_,rest⟩,parsed,ended⟩ := viewed
    split at ended
    · cases ended
      exact Or.inl (scalar_plain _ _ _ parsed)
    · cases ended
  | succ depth => exact Or.inr ⟨depth,by omega,viewAt_children viewed⟩

private theorem Within.shallow {opaqueFields : List Bytes} {node inner : Node} (within : Within opaqueFields node inner)
    {depth : Nat} {text : Bytes} (viewed : viewAt depth text = some node) (bounded : depth ≤ maxNestingDepth) :
    ∃ depth text, viewAt depth text = some inner ∧ depth ≤ maxNestingDepth := by
  induction within generalizing depth text with
  | here => exact ⟨depth,text,viewed,bounded⟩
  | item found seen _ ih =>
    rcases viewAt_inside viewed bounded with plain | ⟨budget,small,children⟩
    · cases plain
    cases children with
    | plain plain => cases plain
    | arr _ each =>
      obtain ⟨node,reads⟩ := each _ found
      obtain rfl := viewAt_agree reads.viewAt seen
      exact ih reads.viewAt (by omega)
  | member found clear seen _ ih =>
    rcases viewAt_inside viewed bounded with plain | ⟨budget,small,children⟩
    · cases plain
    cases children with
    | plain plain => cases plain
    | obj _ _ each =>
      obtain ⟨node,reads⟩ := each _ found
      obtain rfl := viewAt_agree reads.viewAt seen
      exact ih reads.viewAt (by omega)

private theorem clean_iff {raw : Bytes} {node : Node} (viewed : view raw = some node) (opaqueFields : List Bytes) :
    Clean opaqueFields node ↔
      ∀ members, Within opaqueFields node (.obj members) → (members.map (fun entry => unquote entry.1)).Nodup := by
  constructor
  · exact fun clean members within => (clean members within).names
  · intro names members within
    refine ⟨names members within,fun entry found _ _ _ => ?_⟩
    obtain ⟨depth,text,seen,bounded⟩ := within.shallow viewed (Nat.le_refl _)
    rcases viewAt_inside seen bounded with plain | ⟨budget,small,children⟩
    · cases plain
    cases children with
    | plain plain => cases plain
    | obj _ _ each =>
      obtain ⟨inner,reads⟩ := each entry found
      rw [valid,reads.view (by omega)]
      rfl

/-- The walk accepts a text when the text is one value and the objects it reaches have
distinct decoded names; within the nesting limit nothing else is asked, and the answer
does not depend on the bound on the steps. -/
theorem duplicates_exact :
    (∀ raw opaqueFields, rejectDuplicateJSONFields raw opaqueFields = .ok () ↔
      ∃ depth node, viewAt depth raw = some node ∧ Clean opaqueFields node) ∧
    (∀ raw node opaqueFields, view raw = some node → (rejectDuplicateJSONFields raw opaqueFields = .ok () ↔
      ∀ members, Within opaqueFields node (.obj members) → (members.map (fun entry => unquote entry.1)).Nodup)) ∧
    (∀ raw opaqueFields, walkStrictJSONValue opaqueFields (2*raw.length+2) {input := raw} ≠ .error .outOfSteps) ∧
    ∀ raw opaqueFields steps, 2*raw.length+2 ≤ steps →
      walkStrictJSONValue opaqueFields steps {input := raw} = walkStrictJSONValue opaqueFields (2*raw.length+2) {input := raw} := by
  refine ⟨accepts_iff,fun raw node opaqueFields viewed => ?_,fun raw opaqueFields => ?_,fun raw opaqueFields steps enough => ?_⟩
  · rw [accepts_iff,← clean_iff viewed]
    constructor
    · rintro ⟨depth,seen,other,clean⟩
      obtain rfl := viewAt_agree other viewed
      exact clean
    · exact fun clean => ⟨_,node,viewed,clean⟩
  · exact (walk_enough opaqueFields (2*raw.length+2)).1 {input := raw} (by simp only; omega)
  · exact ((walk_bound opaqueFields (2*raw.length+2)).1 {input := raw} steps (by simp only; omega) enough).symm

example : rejectDuplicateJSONFields (lit "\x7b\"data\":\x7b\"a\":1,\"a\":2\x7d, \"b\" : [\x7b\x7d]\x7d ") [lit "data"] = .ok () := by
  decide +kernel

end Exact

end Kmtproto
