import Kmtproto.Json.Spelling
import Kmtproto.Json.Local

/-! The nesting of a text is that of its compact form. A value parses within every
budget its children leave room for, so where the compact form of a text can be read,
the text can. -/
namespace Kmtproto.Json

section Sequence
variable {α : Type} {item lower : Bytes → Option (α × Bytes)} {close : UInt8}

private theorem sepBy_lower (closing : close = 0x5D ∨ close = 0x7D) (fuel : Nat) (input : Bytes) (values : List α)
    (rest : Bytes) (parsed : sepBy item close fuel input = some (values,rest))
    (each : ∀ input value rest, item input = some (value,rest) → value ∈ values → Delimited rest →
      lower input = some (value,rest)) : sepBy lower close fuel input = some (values,rest) := by
  induction fuel generalizing input values with
  | zero => cases parsed
  | succ fuel ih =>
    simp only [sepBy,bind,Option.bind_eq_some_iff] at parsed ⊢
    obtain ⟨⟨first,after⟩,head,tail⟩ := parsed
    obtain ⟨gap,split,space⟩ := skipSpace_split after
    cases following : skipSpace after with
    | nil => simp [following] at tail
    | cons c more =>
      simp only [following] at tail split
      have delimited (structural : c = 0x2C ∨ c = 0x5D ∨ c = 0x7D) : Delimited after := by
        rw [split]
        cases gap with
        | nil => exact delimited_cons c more (Or.inr structural)
        | cons d gap => exact delimited_cons d _ (Or.inl (space d (by simp)))
      by_cases comma : c = 0x2C
      · rw [if_pos comma,Option.bind_eq_some_iff] at tail
        obtain ⟨⟨others,_⟩,later,same⟩ := tail
        cases same
        refine ⟨(first,after),each _ _ _ head (by simp) (delimited (Or.inl comma)),?_⟩
        simp only [following,if_pos comma,Option.bind_eq_some_iff]
        exact ⟨_,ih _ _ later (fun input value rest parsed found => each input value rest parsed (by simp [found])),rfl⟩
      · rw [if_neg comma] at tail
        split at tail
        · rename_i closes
          cases tail
          refine ⟨(first,after),each _ _ _ head (by simp) (delimited (Or.inr (closes ▸ closing))),?_⟩
          simp only [following,if_neg comma,if_pos closes]
        · cases tail

private theorem items_lower (closing : close = 0x5D ∨ close = 0x7D) (input : Bytes) (values : List α) (rest : Bytes)
    (parsed : items item close input = some (values,rest))
    (each : ∀ input value rest, item input = some (value,rest) → value ∈ values → Delimited rest →
      lower input = some (value,rest)) : items lower close input = some (values,rest) := by
  unfold items at parsed ⊢
  split at parsed
  · cases parsed
  · split at parsed
    · rw [if_pos ‹_›]
      exact parsed
    · rw [if_neg ‹_›]
      exact sepBy_lower closing _ _ _ _ parsed each

end Sequence

section Budget
variable {depth budget : Nat}

private theorem rawText_lower {input raw rest : Bytes} {node : Node}
    (parsed : rawText (parseValue depth) input = some (raw,rest)) (reads : Reads budget raw node)
    (delimited : Delimited rest) : rawText (parseValue budget) input = some (raw,rest) := by
  obtain ⟨⟨seen,_⟩,found,same⟩ := Option.map_eq_some_iff.mp parsed
  cases same
  obtain ⟨text,rfl,_⟩ := parseValue_reads found
  have taken : (text++rest).take ((text++rest).length - rest.length) = text := by
    rw [List.length_append,Nat.add_sub_cancel,List.take_left]
  rw [taken] at reads ⊢
  exact reads.raw rest delimited

private theorem member_lower {input rest : Bytes} {entry : Bytes × Bytes} {node : Node}
    (parsed : member (parseValue depth) input = some (entry,rest)) (reads : Reads budget entry.2 node)
    (delimited : Delimited rest) : member (parseValue budget) input = some (entry,rest) := by
  unfold member at parsed ⊢
  split at parsed
  · simp only [bind,Option.bind_eq_some_iff] at parsed ⊢
    obtain ⟨name,scanned,parsed⟩ := parsed
    refine ⟨name,scanned,?_⟩
    generalize skipSpace name.2 = after at parsed ⊢
    split at parsed
    · obtain ⟨⟨raw,_⟩,found,same⟩ := Option.bind_eq_some_iff.mp parsed
      cases same
      exact Option.bind_eq_some_iff.mpr ⟨_,rawText_lower found reads delimited,rfl⟩
    · cases parsed
  · cases parsed

/-- A value parses within every budget that suffices for its children. -/
theorem parseValue_lower {input rest : Bytes} {node : Node} (parsed : parseValue depth input = some (node,rest))
    (children : Children budget node) : parseValue (budget+1) input = some (node,rest) := by
  have scalars (found : scalar input = some (node,rest)) : parseValue (budget+1) input = some (node,rest) := by
    have wide := parseValue_mono 0 (budget+1) input _ found
    rwa [Nat.zero_add] at wide
  cases depth with
  | zero => exact scalars parsed
  | succ depth =>
    unfold parseValue at parsed
    split at parsed
    · obtain ⟨⟨members,_⟩,found,same⟩ := Option.map_eq_some_iff.mp parsed
      cases same
      cases children with
      | plain plain => cases plain
      | obj _ _ each =>
        have lowered := items_lower (Or.inr rfl) _ _ _ found (fun input entry rest parsed among delimited => by
          obtain ⟨node,reads⟩ := each entry among
          exact member_lower parsed reads delimited)
        simp [parseValue,lowered]
    · obtain ⟨⟨texts,_⟩,found,same⟩ := Option.map_eq_some_iff.mp parsed
      cases same
      cases children with
      | plain plain => cases plain
      | arr _ each =>
        have lowered := items_lower (Or.inl rfl) _ _ _ found (fun input raw rest parsed among delimited => by
          obtain ⟨node,reads⟩ := each raw among
          exact rawText_lower parsed reads delimited)
        simp [parseValue,lowered]
    · exact scalars parsed

theorem viewAt_lower {text : Bytes} {node : Node} (viewed : viewAt depth text = some node) (children : Children budget node) :
    viewAt (budget+1) text = some node := by
  simp only [viewAt,bind,Option.bind_eq_some_iff] at viewed ⊢
  obtain ⟨⟨_,rest⟩,parsed,ended⟩ := viewed
  split at ended
  · rename_i empty
    cases ended
    exact ⟨_,parseValue_lower parsed children,by simp [empty]⟩
  · cases ended

theorem Reads.lower {text : Bytes} {node seen : Node} (reads : Reads depth text node) (viewed : Json.viewAt budget text = some seen) :
    Reads budget text node := by
  obtain ⟨c,tail,form,visible,_⟩ := reads.head
  have start : skipSpace text = text := by
    rw [form]
    exact skipSpace_cons c tail visible
  simp only [Json.viewAt,start,bind,Option.bind_eq_some_iff] at viewed
  obtain ⟨⟨_,rest⟩,parsed,_⟩ := viewed
  obtain ⟨whole,split,again⟩ := parseValue_reads parsed
  have wide := parseValue_mono budget depth _ _ parsed
  have alone := (reads.mono budget) [] delimited_nil
  rw [List.append_nil,Nat.add_comm] at alone
  cases wide.symm.trans alone
  rw [List.append_nil] at split
  rw [split]
  exact again

end Budget

private theorem viewAt_plain {depth : Nat} {text : Bytes} {node : Node} (viewed : viewAt depth text = some node)
    (plain : Plain node) (budget : Nat) : viewAt budget text = some node := by
  have flat : viewAt 0 text = some node := by
    cases depth with
    | zero => exact viewed
    | succ depth =>
      simp only [viewAt,bind,Option.bind_eq_some_iff] at viewed ⊢
      obtain ⟨⟨seen,rest⟩,parsed,ended⟩ := viewed
      refine ⟨(seen,rest),?_,ended⟩
      split at ended
      · cases ended
        unfold parseValue at parsed
        split at parsed
        · obtain ⟨_,_,same⟩ := Option.map_eq_some_iff.mp parsed
          cases same
          cases plain
        · obtain ⟨_,_,same⟩ := Option.map_eq_some_iff.mp parsed
          cases same
          cases plain
        · exact parsed
      · cases ended
  have wide := viewAt_mono 0 budget text node flat
  rwa [Nat.zero_add] at wide

theorem viewAt_agree {depth budget : Nat} {text : Bytes} {node seen : Node} (one : viewAt depth text = some node)
    (two : viewAt budget text = some seen) : node = seen := by
  have first := viewAt_mono depth budget text node one
  have second := viewAt_mono budget depth text seen two
  rw [Nat.add_comm] at second
  exact Option.some.inj (first.symm.trans second)

private theorem Reads.children {budget : Nat} {text : Bytes} {node : Node} (reads : Reads budget text node) :
    Plain node ∨ ∃ inner, budget = inner+1 ∧ Children inner node := by
  have alone := reads [] delimited_nil
  cases budget with
  | zero => exact Or.inl (scalar_plain _ _ _ alone)
  | succ inner => exact Or.inr ⟨inner,rfl,parseValue_children alone⟩

private theorem forall₂_target {α β : Type} {R : α → β → Prop} {inputs : List α} {outputs : List β}
    (each : List.Forall₂ R inputs outputs) {input : α} (found : input ∈ inputs) : ∃ output ∈ outputs, R input output := by
  induction each with
  | nil => cases found
  | cons head _ ih =>
    rcases List.mem_cons.mp found with rfl | later
    · exact ⟨_,by simp,head⟩
    · obtain ⟨output,among,held⟩ := ih later
      exact ⟨output,by simp [among],held⟩

/-- A text has a view within every budget its compact form can be read in. -/
theorem viewAt_of_compact {depth budget : Nat} {text result : Bytes} {spelled : Node}
    (compacted : compactAt depth text = some result) (reads : Reads budget result spelled) :
    ∃ node, viewAt budget text = some node := by
  induction depth generalizing budget text result spelled with
  | zero =>
    obtain ⟨node,_,viewed,_,respelled⟩ := compactAt_respelled compacted
    cases viewAt_shaped 0 text node viewed with
    | plain _ plain => exact ⟨node,viewAt_plain viewed plain budget⟩
    | arr children =>
      obtain ⟨_,seen,printed⟩ := Option.bind_eq_some_iff.mp compacted
      cases viewed.symm.trans seen
      cases printed
    | obj members names =>
      obtain ⟨_,seen,printed⟩ := Option.bind_eq_some_iff.mp compacted
      cases viewed.symm.trans seen
      cases printed
  | succ depth ih =>
    obtain ⟨node,seen,viewed,shown,respelled⟩ := compactAt_respelled compacted
    cases viewAt_agree shown reads.viewAt
    have inside (child out : Bytes) (inner budget : Nat) (form : depth+1 = inner+1 ∧ compactAt inner child = some out)
        (node : Node) (source : Reads depth child node) (read : ∃ node, Reads budget out node) :
        ∃ node, Reads budget child node := by
      obtain ⟨rfl⟩ : depth = inner := by omega
      obtain ⟨_,leaves⟩ := read
      obtain ⟨_,seen⟩ := ih form.2 leaves
      exact ⟨node,source.lower seen⟩
    cases viewAt_children viewed with
    | plain plain => exact ⟨node,viewAt_plain viewed plain budget⟩
    | arr children sources =>
      cases respelled with
      | arr _ texts each =>
        rcases reads.children with plain | ⟨inner,rfl,lower⟩
        · cases plain
        cases lower with
        | plain plain => cases plain
        | arr _ readable =>
          refine ⟨_,viewAt_lower viewed (.arr children (fun child found => ?_))⟩
          obtain ⟨out,among,_,form⟩ := forall₂_target each found
          obtain ⟨node,source⟩ := sources child found
          exact inside child out _ inner form node source (readable out among)
    | obj members names sources =>
      cases respelled with
      | obj _ entries each =>
        rcases reads.children with plain | ⟨inner,rfl,lower⟩
        · cases plain
        cases lower with
        | plain plain => cases plain
        | obj _ _ readable =>
          refine ⟨_,viewAt_lower viewed (.obj members names (fun entry found => ?_))⟩
          obtain ⟨out,among,_,_,_,form⟩ := forall₂_target each found
          obtain ⟨node,source⟩ := sources entry found
          exact inside entry.2 out.2 _ inner form node source (readable out among)

theorem compactAt_lower {depth budget : Nat} {text result : Bytes} {node : Node}
    (compacted : compactAt depth text = some result) (reads : Reads budget result node) :
    compactAt budget text = some result := by
  obtain ⟨seen,viewed⟩ := viewAt_of_compact compacted reads
  obtain ⟨other,lowered⟩ := viewAt_compactAt viewed
  have first := compactAt_mono (Nat.le_add_right depth budget) compacted
  have second := compactAt_mono (Nat.le_add_left budget depth) lowered
  rw [lowered,Option.some.inj (second.symm.trans first)]

/-- The values of an object that is read within a budget are read within one less. -/
theorem Reads.object_values {depth budget : Nat} {members : List (Bytes × Bytes)} {node : Node}
    (wide : Reads depth (encodeObject members) (.obj members)) (reads : Reads (budget+1) (encodeObject members) node) :
    ∀ entry ∈ members, ∃ node, Reads budget entry.2 node := by
  cases parseValue_children ((wide.lower reads.viewAt) [] delimited_nil) with
  | plain plain => cases plain
  | obj _ _ each => exact each

theorem Reads.array_items {depth budget : Nat} {items : List Bytes} {node : Node}
    (wide : Reads depth (encodeArray items) (.arr items)) (reads : Reads (budget+1) (encodeArray items) node) :
    ∀ item ∈ items, ∃ node, Reads budget item node := by
  cases parseValue_children ((wide.lower reads.viewAt) [] delimited_nil) with
  | plain plain => cases plain
  | arr _ each => exact each

end Kmtproto.Json
