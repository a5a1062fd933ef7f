import Kmtproto.Json.Decode

/-! Spelling and meaning. Compaction changes how a value is written and nothing of
what it says: the same strings, numbers, items and members are read from the
result. -/
namespace Kmtproto.Json

/-- The characters of a literal, one escape or byte at a time. -/
inductive Chars : Bytes → Prop
  | nil : Chars []
  | byte (c : UInt8) (rest : Bytes) (printable : ¬ c < 0x20) (mark : c ≠ 0x22) (slash : c ≠ 0x5C)
      (later : Chars rest) : Chars (c::rest)
  | escape (c : UInt8) (rest : Bytes) (simple : c ∈ [0x22,0x5C,0x2F,0x62,0x66,0x6E,0x72,0x74])
      (later : Chars rest) : Chars (0x5C::c::rest)
  | unicode (a b c d : UInt8) (rest : Bytes) (hex : ∀ x ∈ [a,b,c,d], (hexValue x).isSome) (later : Chars rest) :
      Chars (0x5C::0x75::a::b::c::d::rest)

private theorem walk_step {state final : StringState} {c : UInt8} {rest : Bytes}
    (walked : walk state (c::rest) = some final) :
    ¬ (state = .plain ∧ c = 0x22) ∧ ∃ next, state.next c = some next ∧ walk next rest = some final := by
  simp only [walk] at walked
  split at walked
  · cases walked
  · rename_i inside
    obtain ⟨next,moved,later⟩ := Option.bind_eq_some_iff.mp walked
    exact ⟨inside,next,moved,later⟩

private theorem walk_hex {more : Nat} {rest : Bytes} (walked : walk (.hex more) rest = some .plain) :
    ∃ c after, rest = c::after ∧ (hexValue c).isSome ∧
      walk (match more with | 0 => .plain | more+1 => .hex more) after = some .plain := by
  cases rest with
  | nil => cases walked
  | cons c after =>
    obtain ⟨_,next,moved,later⟩ := walk_step walked
    simp only [StringState.next] at moved
    split at moved
    · cases moved
    · rename_i digit
      refine ⟨c,after,rfl,Option.isSome_iff_ne_none.mpr (by simpa using digit),?_⟩
      cases more <;> cases moved <;> exact later

theorem passes_chars (text : Bytes) (passes : Passes text) : Chars text := by
  match text with
  | [] => exact .nil
  | c::rest =>
    obtain ⟨mark,next,moved,later⟩ := walk_step passes
    simp only [StringState.next] at moved
    split at moved
    · cases moved
    rename_i printable
    split at moved
    · rename_i slash
      cases moved
      subst slash
      cases rest with
      | nil => cases later
      | cons d after =>
        obtain ⟨_,next,moved,rest'⟩ := walk_step later
        simp only [StringState.next] at moved
        split at moved
        · rename_i unicode
          cases moved
          subst unicode
          obtain ⟨x,_,rfl,hexX,rest'⟩ := walk_hex rest'
          obtain ⟨y,_,rfl,hexY,rest'⟩ := walk_hex rest'
          obtain ⟨z,_,rfl,hexZ,rest'⟩ := walk_hex rest'
          obtain ⟨w,tail,rfl,hexW,rest'⟩ := walk_hex rest'
          exact .unicode x y z w tail (by simp [hexX,hexY,hexZ,hexW]) (passes_chars tail rest')
        · split at moved
          · rename_i simple
            cases moved
            have shorter : after.length < (0x5C::d::after).length := by simp
            exact .escape d after simple (passes_chars after rest')
          · cases moved
    · rename_i slash
      cases moved
      exact .byte c rest printable (fun same => mark ⟨rfl,same⟩) slash (passes_chars rest later)
  termination_by text.length

theorem Chars.later {c : UInt8} {rest : Bytes} (chars : Chars (c::rest)) (slash : c ≠ 0x5C) :
    ¬ c < 0x20 ∧ c ≠ 0x22 ∧ Chars rest := by
  cases chars with
  | byte _ _ printable mark _ later => exact ⟨printable,mark,later⟩
  | escape | unicode => exact absurd rfl slash

def Safe (c : UInt8) : Prop := ¬ (c = 0x3C ∨ c = 0x3E ∨ c = 0x26) ∧ c ≠ 0xE2

instance (c : UInt8) : Decidable (Safe c) := inferInstanceAs (Decidable (_ ∧ _))

private theorem safe_list {text : Bytes} (checked : text.all (fun c => decide (Safe c)) = true) : ∀ c ∈ text, Safe c :=
  fun c member => of_decide_eq_true (List.all_eq_true.mp checked c member)

private theorem safe_hex {c : UInt8} (hex : (hexValue c).isSome) : Safe c := by
  unfold hexValue at hex
  refine ⟨?_,?_⟩
  · rintro (rfl | rfl | rfl) <;> revert hex <;> decide
  · rintro rfl
    revert hex
    decide

private theorem safe_unicode {a b c d : UInt8} (hex : ∀ x ∈ [a,b,c,d], (hexValue x).isSome) :
    ∀ x ∈ [0x5C,0x75,a,b,c,d], Safe x := by
  intro x member
  rcases List.mem_cons.mp member with rfl | member
  · exact ⟨by decide,by decide⟩
  rcases List.mem_cons.mp member with rfl | member
  · exact ⟨by decide,by decide⟩
  · exact safe_hex (hex x member)

private theorem unicodeEscape_length {input rest : Bytes} {unit : Nat}
    (read : unicodeEscape input = some (unit,rest)) : rest.length < input.length := by
  unfold unicodeEscape at read
  split at read
  · simp only [bind,Option.bind_eq_some_iff,Option.some.injEq,Prod.mk.injEq] at read
    obtain ⟨_,_,_,_,_,_,_,_,_,rfl⟩ := read
    simp only [List.length_cons]
    omega
  · cases read

private theorem unquoteStep_length {input unit rest : Bytes} (step : unquoteStep input = some (unit,rest)) :
    rest.length < input.length := by
  unfold unquoteStep at step
  split at step
  · cases step
  · split at step
    · obtain ⟨⟨code,after⟩,escaped,step⟩ := Option.bind_eq_some_iff.mp step
      have first := unicodeEscape_length escaped
      simp only [] at step
      split at step
      · split at step
        · rename_i paired
          have second := unicodeEscape_length paired
          split at step <;> obtain ⟨_,rfl⟩ := Prod.mk.inj (Option.some.inj step) <;> omega
        · obtain ⟨_,rfl⟩ := Prod.mk.inj (Option.some.inj step)
          exact first
      · obtain ⟨_,rfl⟩ := Prod.mk.inj (Option.some.inj step)
        exact first
    · split_ifs at step
      all_goals
        obtain ⟨_,rfl⟩ := Prod.mk.inj (Option.some.inj step)
        simp only [List.length_cons]
        omega
    · cases step
  · split at step
    · cases step
    · simp only [] at step
      split at step
      · cases step
        simp
      · cases step
        rename_i sized
        simp only [List.length_drop,List.length_cons]
        omega

private theorem unicodeEscape_hex {a b c d : UInt8} (hex : ∀ x ∈ [a,b,c,d], (hexValue x).isSome) :
    ∃ unit, ∀ rest, unicodeEscape (0x5C::0x75::a::b::c::d::rest) = some (unit,rest) := by
  simp only [List.mem_cons,List.not_mem_nil,or_false,forall_eq_or_imp,forall_eq,Option.isSome_iff_exists] at hex
  obtain ⟨⟨w,atW⟩,⟨x,atX⟩,⟨y,atY⟩,z,atZ⟩ := hex
  exact ⟨((w*16+x)*16+y)*16+z,fun rest => by simp only [unicodeEscape,atW,atX,atY,atZ,bind,Option.bind]⟩

private theorem unicodeEscape_escape {text : Bytes} (chars : Chars text) :
    (∃ unit rest, Chars rest ∧ unicodeEscape text = some (unit,rest) ∧
      unicodeEscape (escapeFrom 0 text) = some (unit,escapeFrom 0 rest)) ∨
    (unicodeEscape text = none ∧ ∀ low following, unicodeEscape (escapeFrom 0 text) = some (low,following) →
      low < 0xD800) := by
  cases chars with
  | nil => exact .inr ⟨rfl,fun _ _ found => by cases found⟩
  | escape c rest simple later =>
    have plain : c ≠ 0x75 := by rintro rfl; revert simple; decide
    have safe : ∀ x ∈ [0x5C,c], Safe x := by
      simp only [List.mem_cons,List.not_mem_nil,or_false] at simple ⊢
      rintro x (rfl | rfl)
      · exact ⟨by decide,by decide⟩
      · rcases simple with rfl | rfl | rfl | rfl | rfl | rfl | rfl | rfl <;> exact ⟨by decide,by decide⟩
    have same : escapeFrom 0 (0x5C::c::rest) = 0x5C::c::escapeFrom 0 rest := escapeFrom_safes [0x5C,c] rest safe
    have other (tail : Bytes) : unicodeEscape (0x5C::c::tail) = none := by
      unfold unicodeEscape
      split
      · rename_i form
        simp only [List.cons.injEq] at form
        exact absurd form.2.1 plain
      · rfl
    rw [same]
    exact .inr ⟨other rest,fun _ _ found => by rw [other] at found; cases found⟩
  | unicode a b c d rest hex later =>
    obtain ⟨unit,read⟩ := unicodeEscape_hex hex
    have same : escapeFrom 0 (0x5C::0x75::a::b::c::d::rest) = 0x5C::0x75::a::b::c::d::escapeFrom 0 rest :=
      escapeFrom_safes [0x5C,0x75,a,b,c,d] rest (safe_unicode hex)
    rw [same]
    exact .inl ⟨unit,rest,later,read rest,read _⟩
  | byte c rest printable mark slash later =>
    have other (tail : Bytes) : unicodeEscape (c::tail) = none := by
      unfold unicodeEscape
      split
      · rename_i form
        simp only [List.cons.injEq] at form
        exact absurd form.1 slash
      · rfl
    refine .inr ⟨other rest,fun low following found => ?_⟩
    rcases escapeFrom_cons c rest with ⟨html,same⟩ | ⟨x,tail,separator,rfl,rfl,same⟩ | ⟨_,_,same⟩
    · rw [same] at found
      rcases html with rfl | rfl | rfl <;>
        (simp [escapeByte,unicodeEscape,hexDigit,hexValue] at found; omega)
    · rw [same] at found
      rcases separator with rfl | rfl <;>
        (simp [unicodeEscape,hexDigit,hexValue] at found; omega)
    · rw [same,other] at found
      cases found

private theorem Chars.drop (bytes : Bytes) {rest : Bytes} (chars : Chars (bytes++rest)) (high : ∀ c ∈ bytes, 0x80 ≤ c) :
    Chars rest := by
  induction bytes with
  | nil => exact chars
  | cons c bytes ih =>
    have slash : c ≠ 0x5C := by
      rintro rfl
      exact absurd (high 0x5C (by simp)) (by decide)
    exact ih (chars.later slash).2.2 (fun d member => high d (by simp [member]))

private theorem escapeFrom_heads {bytes text tail : Bytes} (high : ∀ c ∈ bytes, 0x80 ≤ c)
    (same : escapeFrom 0 text = bytes++tail) : ∃ rest, text = bytes++rest := by
  induction bytes generalizing text with
  | nil => exact ⟨text,rfl⟩
  | cons c bytes ih =>
    obtain ⟨rest,rfl,form⟩ := escapeFrom_head c (high c (by simp)) text _ same
    obtain ⟨after,rfl⟩ := ih (fun d member => high d (by simp [member])) form.symm
    exact ⟨after,rfl⟩

private theorem rune_tail {c : UInt8} {bytes : Bytes} (whole : runeSize (c::bytes) = (c::bytes).length) :
    ∀ x ∈ bytes, 0x80 ≤ x ∧ Safe x := by
  have tail (x : UInt8) (continues : isTail x = true) : 0x80 ≤ x ∧ Safe x := by
    unfold Safe
    grind [isTail]
  have second (x : UInt8) (continues : isSecond c x = true) : 0x80 ≤ x ∧ Safe x := by
    unfold Safe
    grind [isSecond,isTail]
  rcases bytes with _ | ⟨a,_ | ⟨b,_ | ⟨d,_ | ⟨e,more⟩⟩⟩⟩
  · simp
  · have parts : isTail a = true := by simp only [runeSize] at whole; grind
    simpa using tail a parts
  · have parts : isSecond c a = true ∧ isTail b = true := by simp only [runeSize] at whole; grind
    simpa using ⟨second a parts.1,tail b parts.2⟩
  · have parts : isSecond c a = true ∧ isTail b = true ∧ isTail d = true := by simp only [runeSize] at whole; grind
    simpa using ⟨second a parts.1,tail b parts.2.1,tail d parts.2.2⟩
  · have bound := (runeSize_le (c::a::b::d::e::more)).1
    simp only [List.length_cons] at whole
    omega

private theorem rune_split {c : UInt8} {rest : Bytes} (sized : runeSize (c::rest) ≠ 0) :
    ∃ bytes after, rest = bytes++after ∧ runeSize (c::bytes) = (c::bytes).length ∧
      runeSize (c::rest) = (c::bytes).length := by
  obtain ⟨size,form⟩ := Nat.exists_eq_succ_of_ne_zero sized
  have bound := (runeSize_le (c::rest)).2
  have take := runeSize_take (c::rest)
  rw [form,List.take_succ_cons] at take
  rw [form,List.length_cons] at bound
  have length : (c::rest.take size).length = size+1 := by
    rw [List.length_cons,List.length_take]
    omega
  exact ⟨rest.take size,rest.drop size,(List.take_append_drop ..).symm,take.trans length.symm,form.trans length.symm⟩

/-- A malformed sequence stays one: escaping puts no continuation byte where there was none. -/
private theorem runeSize_escape {c : UInt8} {rest : Bytes} (malformed : runeSize (c::rest) = 0) :
    runeSize (c::escapeFrom 0 rest) = 0 := by
  by_contra whole
  obtain ⟨bytes,after,form,piece,_⟩ := rune_split whole
  obtain ⟨tail,rfl⟩ := escapeFrom_heads (fun x member => (rune_tail piece x member).1) form
  have size := runeSize_append (c::bytes) tail (by simp) piece
  rw [List.cons_append,malformed] at size
  simp at size

private def unquoteUnit (unit : Nat) (tail : Bytes) : Option (Bytes × Bytes) :=
  if 0xD800 ≤ unit ∧ unit < 0xE000 then
    match unicodeEscape tail with
    | some (low,following) =>
      if unit < 0xDC00 ∧ 0xDC00 ≤ low ∧ low < 0xE000 then
        some (encodeRune (0x10000 + (unit - 0xD800) * 0x400 + (low - 0xDC00)),following)
      else some (replacement,tail)
    | none => some (replacement,tail)
  else some (encodeRune unit,tail)

private theorem unquoteStep_escape {input : Bytes} (chars : Chars input) (nonempty : input ≠ []) :
    ∃ unit rest, Chars rest ∧ rest.length < input.length ∧ unquoteStep input = some (unit,rest) ∧
      unquoteStep (escapeFrom 0 input) = some (unit,escapeFrom 0 rest) := by
  cases chars with
  | nil => exact absurd rfl nonempty
  | escape c rest simple later =>
    have safe : ∀ x ∈ [0x5C,c], Safe x := by
      simp only [List.mem_cons,List.not_mem_nil,or_false] at simple ⊢
      rintro x (rfl | rfl)
      · exact ⟨by decide,by decide⟩
      · rcases simple with rfl | rfl | rfl | rfl | rfl | rfl | rfl | rfl <;> exact ⟨by decide,by decide⟩
    have same : escapeFrom 0 (0x5C::c::rest) = 0x5C::c::escapeFrom 0 rest := escapeFrom_safes [0x5C,c] rest safe
    rw [same]
    simp only [List.mem_cons,List.not_mem_nil,or_false] at simple
    rcases simple with rfl | rfl | rfl | rfl | rfl | rfl | rfl | rfl <;>
      exact ⟨_,rest,later,by simp,rfl,rfl⟩
  | unicode a b c d rest hex later =>
    obtain ⟨unit,read⟩ := unicodeEscape_hex hex
    have same : escapeFrom 0 (0x5C::0x75::a::b::c::d::rest) = 0x5C::0x75::a::b::c::d::escapeFrom 0 rest :=
      escapeFrom_safes [0x5C,0x75,a,b,c,d] rest (safe_unicode hex)
    rw [same]
    have step (tail : Bytes) : unquoteStep (0x5C::0x75::a::b::c::d::tail) = unquoteUnit unit tail := by
      simp only [unquoteStep,read,bind,Option.bind]
      rfl
    rw [step,step,unquoteUnit,unquoteUnit]
    have alone : rest.length < (0x5C::0x75::a::b::c::d::rest).length := by simp only [List.length_cons]; omega
    by_cases surrogate : 0xD800 ≤ unit ∧ unit < 0xE000
    · rw [if_pos surrogate,if_pos surrogate]
      rcases unicodeEscape_escape later with ⟨low,following,after,one,two⟩ | ⟨one,two⟩
      · rw [one,two]
        by_cases pair : unit < 0xDC00 ∧ 0xDC00 ≤ low ∧ low < 0xE000
        · simp only [if_pos pair]
          have shorter := unicodeEscape_length one
          exact ⟨_,following,after,by omega,rfl,rfl⟩
        · simp only [if_neg pair]
          exact ⟨_,rest,later,alone,rfl,rfl⟩
      · rw [one]
        refine ⟨replacement,rest,later,alone,rfl,?_⟩
        cases found : unicodeEscape (escapeFrom 0 rest) with
        | none => rfl
        | some ahead =>
          have small := two ahead.1 ahead.2 found
          exact if_neg (fun pair => by omega)
    · rw [if_neg surrogate,if_neg surrogate]
      exact ⟨_,rest,later,alone,rfl,rfl⟩
  | byte c rest printable mark slash later =>
    rcases escapeFrom_cons c rest with ⟨html,same⟩ | ⟨x,tail,separator,rfl,rfl,same⟩ | ⟨html,line,same⟩
    · have ascii : c < 0x80 := by rcases html with rfl | rfl | rfl <;> decide
      rw [same,unquoteStep_escapeByte c ascii,unquoteStep_plain c rest slash mark printable]
      have one : runeSize (c::rest) = 1 := by simp [runeSize,ascii]
      rw [one]
      exact ⟨[c],rest,later,by simp,rfl,rfl⟩
    · have after : Chars tail := Chars.drop [0x80,x] later
        (by rcases separator with rfl | rfl <;> simp)
      rw [same]
      rcases separator with rfl | rfl <;>
        exact ⟨_,tail,after,by simp only [List.length_cons]; omega,rfl,rfl⟩
    · rw [same,unquoteStep_plain c rest slash mark printable,unquoteStep_plain c _ slash mark printable]
      by_cases malformed : runeSize (c::rest) = 0
      · rw [if_pos malformed,if_pos (runeSize_escape malformed)]
        exact ⟨_,rest,later,by simp,rfl,rfl⟩
      · obtain ⟨bytes,after,rfl,piece,size⟩ := rune_split malformed
        have tails := rune_tail piece
        rw [escapeFrom_safes bytes after (fun x member => (tails x member).2)]
        have escaped : runeSize (c::(bytes++escapeFrom 0 after)) = (c::bytes).length :=
          runeSize_append (c::bytes) _ (by simp) piece
        rw [size,escaped,if_neg (by simp),if_neg (by simp),← List.cons_append,← List.cons_append,List.take_left,
          List.take_left,List.drop_left,List.drop_left]
        exact ⟨_,after,Chars.drop _ later (fun x member => (tails x member).1),by simp,rfl,rfl⟩

private theorem many_step {input unit rest : Bytes} {units : List Bytes} {fuel : Nat}
    (step : unquoteStep input = some (unit,rest)) (shorter : rest.length < input.length) (enough : input.length ≤ fuel)
    (later : ∀ fuel, rest.length ≤ fuel → many unquoteStep fuel rest = some units) :
    many unquoteStep fuel input = some (unit::units) := by
  cases fuel with
  | zero => omega
  | succ fuel =>
    cases input with
    | nil => cases step
    | cons head tail => simp only [many,step,later fuel (by omega),bind,Option.bind]

private theorem units_escapeFrom (input : Bytes) (well : Chars input) :
    ∃ units, (∀ fuel, input.length ≤ fuel → many unquoteStep fuel input = some units) ∧
      ∀ fuel, (escapeFrom 0 input).length ≤ fuel → many unquoteStep fuel (escapeFrom 0 input) = some units := by
  induction size : input.length using Nat.strong_induction_on generalizing input with
  | h length ih =>
    by_cases empty : input = []
    · subst empty
      exact ⟨[],fun fuel _ => by cases fuel <;> rfl,fun fuel _ => by cases fuel <;> rfl⟩
    obtain ⟨unit,rest,after,shorter,first,second⟩ := unquoteStep_escape well empty
    obtain ⟨units,one,two⟩ := ih rest.length (size ▸ shorter) rest after rfl
    refine ⟨unit::units,fun fuel enough => ?_,fun fuel enough => ?_⟩
    · exact many_step first shorter (size ▸ enough) one
    · exact many_step second (unquoteStep_length second) enough two

/-- Escaping a literal does not change the string it denotes. -/
theorem unquote_escapeChars (chars : Bytes) (passes : Passes chars) : unquote (escapeChars chars) = unquote chars := by
  obtain ⟨units,one,two⟩ := units_escapeFrom chars (passes_chars chars passes)
  rw [unquote,unquote,escapeChars,one _ le_rfl,two _ le_rfl]

theorem unquote_passes {chars : Bytes} (passes : Passes chars) : ∃ text, unquote chars = some text := by
  obtain ⟨units,one,_⟩ := units_escapeFrom chars (passes_chars chars passes)
  exact ⟨units.flatten,by rw [unquote,one _ le_rfl]; rfl⟩

inductive Respelled (child : Bytes → Bytes → Prop) : Node → Node → Prop
  | null : Respelled child .null .null
  | bool (value : Bool) : Respelled child (.bool value) (.bool value)
  | num (text : Bytes) : Respelled child (.num text) (.num text)
  | str (chars : Bytes) (passes : Passes chars) : Respelled child (.str chars) (.str (escapeChars chars))
  | arr (children texts : List Bytes) (each : List.Forall₂ child children texts) :
      Respelled child (.arr children) (.arr texts)
  | obj (members entries : List (Bytes × Bytes))
      (each : List.Forall₂ (fun member entry => Passes member.1 ∧ entry.1 = escapeChars member.1 ∧
        child member.2 entry.2) members entries) : Respelled child (.obj members) (.obj entries)

theorem Respelled.mono {child wider : Bytes → Bytes → Prop} {node spelled : Node}
    (respelled : Respelled child node spelled) (implies : ∀ one two, child one two → wider one two) :
    Respelled wider node spelled := by
  cases respelled with
  | null => exact .null
  | bool value => exact .bool value
  | num text => exact .num text
  | str chars passes => exact .str chars passes
  | arr children texts each => exact .arr children texts (each.imp (fun _ _ => implies _ _))
  | obj members entries each =>
    exact .obj members entries (each.imp (fun _ _ held => ⟨held.1,held.2.1,implies _ _ held.2.2⟩))

private theorem mapM_forall₂ {α β : Type} {f : α → Option β} {inputs : List α} {outputs : List β}
    (mapped : inputs.mapM f = some outputs) : List.Forall₂ (fun input output => f input = some output) inputs outputs := by
  induction inputs generalizing outputs with
  | nil =>
    cases mapped
    exact .nil
  | cons input inputs ih =>
    rw [List.mapM_cons] at mapped
    simp only [bind,pure,Option.bind_eq_some_iff] at mapped
    obtain ⟨first,head,others,tail,same⟩ := mapped
    cases same
    exact .cons head (ih tail)

private theorem mapM_more {α β : Type} {f g : α → Option β} {inputs : List α} {outputs : List β}
    (more : ∀ input output, f input = some output → g input = some output) (mapped : inputs.mapM f = some outputs) :
    inputs.mapM g = some outputs := by
  induction inputs generalizing outputs with
  | nil => exact mapped
  | cons input inputs ih =>
    rw [List.mapM_cons] at mapped ⊢
    simp only [bind,pure,Option.bind_eq_some_iff] at mapped ⊢
    obtain ⟨first,head,others,tail,same⟩ := mapped
    exact ⟨first,more input first head,others,ih tail,same⟩

private theorem forall₂_source {α β : Type} {R : α → β → Prop} {inputs : List α} {outputs : List β}
    (each : List.Forall₂ R inputs outputs) {output : β} (found : output ∈ outputs) : ∃ input, R input output := by
  induction each with
  | nil => cases found
  | cons head _ ih =>
    rcases List.mem_cons.mp found with rfl | later
    · exact ⟨_,head⟩
    · exact ih later

/-- The compact text of a value is that value spelled again. -/
theorem compactAt_respelled {depth : Nat} {text result : Bytes} (compacted : compactAt depth text = some result) :
    ∃ node spelled, viewAt depth text = some node ∧ viewAt depth result = some spelled ∧
      Respelled (fun child text => ∃ inner, depth = inner+1 ∧ compactAt inner child = some text) node spelled := by
  have settled := compactAt_compacted depth text result compacted
  have scalar {node : Node} (shape : Plain node) (printed : compactScalar node = some result) :
      ∃ spelled, viewAt depth result = some spelled ∧
        Respelled (fun child text => ∃ inner, depth = inner+1 ∧ compactAt inner child = some text) node spelled := by
    cases shape with
    | null =>
      cases printed
      exact ⟨_,(reads_null depth).viewAt,.null⟩
    | bool value =>
      cases printed
      exact ⟨_,(reads_bool depth value).viewAt,.bool value⟩
    | num literal number =>
      cases printed
      exact ⟨_,(reads_number depth _ number).viewAt,.num _⟩
    | str chars passes =>
      cases printed
      exact ⟨_,(reads_chars depth _ (passes_escapeChars chars passes)).viewAt,.str chars passes⟩
  cases depth with
  | zero =>
    obtain ⟨node,viewed,printed⟩ := Option.bind_eq_some_iff.mp compacted
    cases viewAt_shaped 0 text node viewed with
    | plain _ shape =>
      obtain ⟨spelled,seen,respelled⟩ := scalar shape printed
      exact ⟨node,spelled,viewed,seen,respelled⟩
    | arr children => cases printed
    | obj members names => cases printed
  | succ depth =>
    obtain ⟨node,viewed,printed⟩ := Option.bind_eq_some_iff.mp compacted
    cases viewAt_shaped (depth+1) text node viewed with
    | plain _ shape =>
      have plain : compactScalar node = some result := by cases shape <;> exact printed
      obtain ⟨spelled,seen,respelled⟩ := scalar shape plain
      exact ⟨node,spelled,viewed,seen,respelled⟩
    | arr children =>
      obtain ⟨texts,mapped,rfl⟩ := Option.map_eq_some_iff.mp printed
      have each := mapM_forall₂ mapped
      have reads := reads_array depth texts (fun child found => by
        obtain ⟨source,_,form⟩ := mapM_member _ _ _ mapped child found
        exact (compactAt_compacted depth source child form).reads)
      exact ⟨_,_,viewed,reads.viewAt,.arr children texts (each.imp (fun _ _ form => ⟨depth,rfl,form⟩))⟩
    | obj members names =>
      obtain ⟨entries,mapped,rfl⟩ := Option.map_eq_some_iff.mp printed
      have each : List.Forall₂ (fun member entry => Passes member.1 ∧ entry.1 = escapeChars member.1 ∧
          compactAt depth member.2 = some entry.2) members entries := by
        refine (List.forall₂_and_left _ _).mpr ⟨names,(mapM_forall₂ mapped).imp (fun member entry form => ?_)⟩
        obtain ⟨value,inner,rfl⟩ := Option.map_eq_some_iff.mp form
        exact ⟨rfl,inner⟩
      have sources (entry : Bytes × Bytes) (found : entry ∈ entries) :
          ∃ member : Bytes × Bytes, Passes member.1 ∧ entry.1 = escapeChars member.1 ∧ compactAt depth member.2 = some entry.2 :=
        forall₂_source each found
      have reads := reads_object depth entries
        (fun entry found => by
          obtain ⟨member,passes,name,_⟩ := sources entry found
          rw [name]
          exact passes_escapeChars _ passes)
        (fun entry found => by
          obtain ⟨member,_,_,form⟩ := sources entry found
          exact (compactAt_compacted depth _ _ form).reads)
      refine ⟨_,_,viewed,reads.viewAt,.obj members entries (each.imp (fun _ _ held => ?_))⟩
      exact ⟨held.1,held.2.1,depth,rfl,held.2.2⟩

private theorem compactScalar_view {depth : Nat} {text : Bytes} {node : Node} (viewed : viewAt depth text = some node)
    (plain : ∀ children, node ≠ .arr children) (flat : ∀ members, node ≠ .obj members) :
    compactAt depth text = compactScalar node := by
  cases depth with
  | zero => rw [compactAt,viewed]; rfl
  | succ depth =>
    rw [compactAt,viewed]
    cases node with
    | arr children => exact absurd rfl (plain children)
    | obj members => exact absurd rfl (flat members)
    | _ => rfl

theorem compactAt_succ {depth : Nat} {text result : Bytes} (compacted : compactAt depth text = some result) :
    compactAt (depth+1) text = some result := by
  induction depth generalizing text result with
  | zero =>
    obtain ⟨node,viewed,printed⟩ := Option.bind_eq_some_iff.mp compacted
    have wide := viewAt_mono 0 1 text node viewed
    rw [compactScalar_view wide (by rintro _ rfl; cases printed) (by rintro _ rfl; cases printed)]
    exact printed
  | succ depth ih =>
    obtain ⟨node,viewed,printed⟩ := Option.bind_eq_some_iff.mp compacted
    have wide := viewAt_mono (depth+1) 1 text node viewed
    cases node with
    | arr children =>
      obtain ⟨texts,mapped,rfl⟩ := Option.map_eq_some_iff.mp printed
      rw [compactAt,wide]
      simp only [Option.bind_some,Option.map_eq_some_iff]
      exact ⟨texts,mapM_more (fun _ _ => ih) mapped,rfl⟩
    | obj members =>
      obtain ⟨entries,mapped,rfl⟩ := Option.map_eq_some_iff.mp printed
      rw [compactAt,wide]
      simp only [Option.bind_some,Option.map_eq_some_iff]
      refine ⟨entries,mapM_more (fun member entry form => ?_) mapped,rfl⟩
      obtain ⟨value,inner,rfl⟩ := Option.map_eq_some_iff.mp form
      rw [ih inner]
      rfl
    | _ =>
      rw [compactScalar_view wide (by simp) (by simp)]
      exact printed

theorem compactAt_mono {depth wider : Nat} {text result : Bytes} (bound : depth ≤ wider)
    (compacted : compactAt depth text = some result) : compactAt wider text = some result := by
  induction bound with
  | refl => exact compacted
  | step _ ih => exact compactAt_succ ih

theorem compact_respelled {text result : Bytes} (compacted : compact text = some result) :
    ∃ node spelled, view text = some node ∧ view result = some spelled ∧
      Respelled (fun child text => compact child = some text) node spelled := by
  obtain ⟨node,spelled,viewed,seen,respelled⟩ := compactAt_respelled compacted
  refine ⟨node,spelled,viewed,seen,respelled.mono (fun child text form => ?_)⟩
  obtain ⟨inner,depth,form⟩ := form
  exact compactAt_mono (by omega) form

private theorem valueAt_some {depth : Nat} {text result : Bytes} (compacted : compactAt depth text = some result) :
    ∃ value, valueAt depth text = some value := by
  induction depth generalizing text result with
  | zero =>
    obtain ⟨node,_,viewed,result',respelled⟩ := compactAt_respelled compacted
    rw [valueAt,viewed]
    cases respelled with
    | str chars passes =>
      obtain ⟨value,read⟩ := unquote_passes passes
      simp only [Option.bind_some,scalarValue,read]
      exact ⟨_,rfl⟩
    | arr children texts each =>
      obtain ⟨_,seen,printed⟩ := Option.bind_eq_some_iff.mp compacted
      rw [Option.some.inj (seen.symm.trans viewed)] at printed
      cases printed
    | obj members entries each =>
      obtain ⟨_,seen,printed⟩ := Option.bind_eq_some_iff.mp compacted
      rw [Option.some.inj (seen.symm.trans viewed)] at printed
      cases printed
    | _ => exact ⟨_,rfl⟩
  | succ depth ih =>
    obtain ⟨node,_,viewed,result',respelled⟩ := compactAt_respelled compacted
    rw [valueAt,viewed]
    cases respelled with
    | str chars passes =>
      obtain ⟨value,read⟩ := unquote_passes passes
      simp only [Option.bind_some,scalarValue,read]
      exact ⟨_,rfl⟩
    | arr children texts each =>
      have read : ∃ values, children.mapM (valueAt depth) = some values := by
        clear viewed result'
        induction each with
        | nil => exact ⟨[],rfl⟩
        | cons head _ later =>
          obtain ⟨_,level,form⟩ := head
          cases level
          obtain ⟨value,first⟩ := ih form
          obtain ⟨values,others⟩ := later
          exact ⟨value::values,by rw [List.mapM_cons,first,others]; rfl⟩
      obtain ⟨values,read⟩ := read
      simp only [Option.bind_some,read]
      exact ⟨_,rfl⟩
    | obj members entries each =>
      have read (found : List (Bytes × Value)) : ∃ values, members.foldlM (fun (found : List (Bytes × Value))
          (entry : Bytes × Bytes) => do
            let name ← unquote entry.1
            let value ← valueAt depth entry.2
            some (putMember found name value)) found = some values := by
        clear viewed result'
        induction each generalizing found with
        | nil => exact ⟨found,rfl⟩
        | cons head _ later =>
          obtain ⟨passes,_,_,level,form⟩ := head
          cases level
          obtain ⟨name,named⟩ := unquote_passes passes
          obtain ⟨value,first⟩ := ih form
          obtain ⟨values,others⟩ := later (putMember found name value)
          exact ⟨values,by rw [List.foldlM_cons,named,first]; exact others⟩
      obtain ⟨values,read⟩ := read []
      simp only [Option.bind_some,read]
      exact ⟨_,rfl⟩
    | _ => exact ⟨_,rfl⟩

theorem decodeValue_some {text result : Bytes} (compacted : compact text = some result) :
    ∃ value, decodeValue text = some value := valueAt_some compacted

section Quoted

private theorem escapeFrom_quoteRune (rune rest : Bytes) (piece : IsRune rune) :
    escapeFrom 0 (quoteRune rune++rest) = quoteRune rune ++ escapeFrom 0 rest := by
  obtain ⟨nonempty,shape⟩ := piece
  match rune with
  | [] => exact absurd rfl nonempty
  | [b] =>
    refine escapeFrom_safes _ rest ?_
    simp only [quoteRune]
    split
    · rename_i quoted
      rcases quoted with rfl | rfl <;> exact safe_list rfl
    split; · exact safe_list rfl
    split; · exact safe_list rfl
    split; · exact safe_list rfl
    split; · exact safe_list rfl
    split; · exact safe_list rfl
    split
    · rename_i escaped
      have ascii : b.toNat < 128 := by
        have : b < 0x80 := by grind
        exact this
      refine safe_unicode (fun x member => ?_)
      simp only [List.mem_cons,List.not_mem_nil,or_false] at member
      rcases member with rfl | rfl | rfl | rfl
      · rfl
      · rfl
      · exact hexDigit_isHex _ (by rw [UInt8.lt_iff_toNat_lt]; simp; omega)
      · exact hexDigit_isHex _ (by rw [UInt8.lt_iff_toNat_lt]; simp; omega)
    rename_i plain
    split
    · rename_i ascii
      intro c member
      rw [List.mem_singleton.mp member]
      exact ⟨fun html => plain (.inr html),by rintro rfl; exact absurd ascii (by decide)⟩
    · exact safe_list rfl
  | a::b::tail =>
    have whole : runeSize (a::b::tail) = (a::b::tail).length := by
      rcases shape with whole | single
      · exact whole
      · simp at single
    simp only [quoteRune]
    split
    · exact escapeFrom_safes _ rest (safe_list rfl)
    split
    · exact escapeFrom_safes _ rest (safe_list rfl)
    · rename_i line paragraph
      have tails := rune_tail whole
      have high := rune_high (a::b::tail) (by simp) whole a (by simp)
      rw [List.cons_append]
      rcases escapeFrom_cons a (b::tail++rest) with ⟨html,_⟩ | ⟨x,after,separator,rfl,form,_⟩ | ⟨_,_,same⟩
      · rcases html with rfl | rfl | rfl <;> exact absurd high (by decide)
      · -- a rune that starts like a separator is one
        rw [List.cons_append,List.cons.injEq] at form
        obtain ⟨rfl,form⟩ := form
        have size : runeSize (0xE2::0x80::tail) = 3 ∨ runeSize (0xE2::0x80::tail) = 0 := by
          simp only [runeSize]
          grind
        have length : tail.length = 1 := by
          rw [whole] at size
          simp only [List.length_cons] at size
          omega
        obtain ⟨y,rfl⟩ := List.length_eq_one_iff.mp length
        rw [List.cons_append,List.cons.injEq] at form
        obtain ⟨rfl,_⟩ := form
        rcases separator with rfl | rfl
        · exact absurd rfl line
        · exact absurd rfl paragraph
      · rw [same,escapeFrom_safes _ rest (fun x member => (tails x member).2)]
        rfl

theorem escapeChars_quoteChars (text : Bytes) : escapeChars (quoteChars text) = quoteChars text := by
  have all : ∀ rune ∈ runes text, IsRune rune := runes_isRune text
  unfold escapeChars quoteChars
  generalize runes text = pieces at all
  induction pieces with
  | nil => rfl
  | cons rune pieces ih =>
    rw [List.flatMap_cons,escapeFrom_quoteRune rune _ (all rune (by simp)),
      ih (fun other member => all other (by simp [member]))]

theorem compacted_quote (depth : Nat) (text : Bytes) : Compacted depth (quote text) := by
  have reads := reads_quote depth text
  refine ⟨⟨_,reads⟩,?_⟩
  rw [compactScalar_view reads.viewAt (by simp) (by simp),compactScalar,escapeChars_quoteChars]
  rfl

private theorem compacted_number {depth : Nat} {text : Bytes} (reads : Reads depth text (.num text)) :
    Compacted depth text := by
  refine ⟨⟨_,reads⟩,?_⟩
  rw [compactScalar_view reads.viewAt (by simp) (by simp),compactScalar]

theorem compacted_decimal (depth n : Nat) : Compacted depth (decimal n) := compacted_number (reads_decimal depth n)

theorem compacted_decimalInt (depth : Nat) (n : Int) : Compacted depth (decimalInt n) :=
  compacted_number (reads_decimalInt depth n)

theorem compacted_null (depth : Nat) : Compacted depth [0x6E,0x75,0x6C,0x6C] := by
  have reads := reads_null depth
  refine ⟨⟨_,reads⟩,?_⟩
  rw [compactScalar_view reads.viewAt (by simp) (by simp),compactScalar]

theorem compacted_bool (depth : Nat) (value : Bool) : Compacted depth (encodeBool value) := by
  have reads := reads_bool depth value
  refine ⟨⟨_,reads⟩,?_⟩
  rw [compactScalar_view reads.viewAt (by simp) (by simp),compactScalar]

theorem compacted_array (depth : Nat) (texts : List Bytes) (each : ∀ text ∈ texts, Compacted depth text) :
    Compacted (depth+1) (encodeArray texts) := by
  have reads := reads_array depth texts (fun child found => (each child found).reads)
  refine ⟨⟨_,reads⟩,?_⟩
  rw [compactAt,reads.viewAt]
  simp [mapM_fixed (compactAt depth) texts (fun child found => (each child found).fixed)]

/-- Compacting a compact text changes nothing, whatever nesting it has. -/
theorem Compacted.compact_eq {depth : Nat} {text result : Bytes} (compacted : Compacted depth text)
    (again : compact text = some result) : result = text := by
  have wide := compactAt_mono (Nat.le_add_left maxNestingDepth depth) again
  have same := compactAt_mono (Nat.le_add_right depth maxNestingDepth) compacted.fixed
  exact Option.some.inj (wide.symm.trans same)

end Quoted

end Kmtproto.Json
