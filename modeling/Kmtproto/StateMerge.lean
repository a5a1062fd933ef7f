import Kmtproto.StateData
import Mathlib.Data.List.MinMax

/-! The monotonic merge over whole histories. Objects of one identity that agree
wherever their versions agree are merged to the first of the newest ones, so the
outcome depends on which objects arrive and not on their order or number. -/
namespace Kmtproto
open Json

theorem validateStateObject_compact {object : StateObject} {limits : Limits}
    (valid : validateStateObject object limits = .ok ()) : ∃ text, compact object.data = some text := by
  unfold validateStateObject at valid
  obtain ⟨_,_,valid⟩ := bind_ok valid
  obtain ⟨_,valid⟩ := reject_bind_ok valid
  obtain ⟨data,valid⟩ := reject_bind_ok valid
  obtain ⟨_,valid⟩ := reject_bind_ok valid
  split at valid
  · cases valid
  · rename_i encoded marshaled
    obtain ⟨text,raw,_⟩ := Option.bind_eq_some_iff.mp marshaled
    have nonempty : object.data.isEmpty = false := by
      cases empty : object.data.isEmpty with
      | false => rfl
      | true => simp [empty] at data
    rw [marshalRaw,nonempty] at raw
    exact ⟨text,raw⟩

theorem validateStateObject_decodes {object : StateObject} {limits : Limits}
    (valid : validateStateObject object limits = .ok ()) : ∃ value, decodeValue object.data = some value := by
  obtain ⟨text,compacted⟩ := validateStateObject_compact valid
  exact decodeValue_some compacted

section Equal

private theorem equalStateData_eq {left right : Bytes} {x y : Value} (first : decodeValue left = some x)
    (second : decodeValue right = some y) : equalStateData left right = .ok (equalStateJSONValue x y) := by
  simp only [equalStateData,decodeStateData,first,second,bind,Except.bind,pure,Except.pure]

private theorem equalStateData_values {left right : Bytes} (equal : equalStateData left right = .ok true) :
    ∃ x y, decodeValue left = some x ∧ decodeValue right = some y ∧ equalStateJSONValue x y = true := by
  unfold equalStateData decodeStateData at equal
  cases first : decodeValue left with
  | none => rw [first] at equal; cases equal
  | some x =>
    cases second : decodeValue right with
    | none => rw [first,second] at equal; cases equal
    | some y =>
      rw [first,second] at equal
      exact ⟨x,y,rfl,rfl,Except.ok.inj equal⟩

theorem equalStateData_refl {object : StateObject} {limits : Limits}
    (valid : validateStateObject object limits = .ok ()) : equalStateData object.data object.data = .ok true := by
  obtain ⟨value,decoded⟩ := validateStateObject_decodes valid
  rw [equalStateData_eq decoded decoded,equalStateJSONValue_refl (decodeValue_decoded decoded)]

theorem equalStateData_symm {left right : Bytes} (equal : equalStateData left right = .ok true) :
    equalStateData right left = .ok true := by
  obtain ⟨x,y,first,second,same⟩ := equalStateData_values equal
  rw [equalStateData_eq second first,
    equalStateJSONValue_symm (decodeValue_decoded first) (decodeValue_decoded second) same]

theorem equalStateData_trans {left middle right : Bytes} (equal : equalStateData left middle = .ok true)
    (equal' : equalStateData middle right = .ok true) : equalStateData left right = .ok true := by
  obtain ⟨x,y,first,second,same⟩ := equalStateData_values equal
  obtain ⟨y',z,second',third,same'⟩ := equalStateData_values equal'
  cases Option.some.inj (second.symm.trans second')
  rw [equalStateData_eq first third,equalStateJSONValue_trans (decodeValue_decoded first)
    (decodeValue_decoded second) (decodeValue_decoded third) same same']

end Equal

/-- One arrival: the returned object when it is applied, otherwise the current one. -/
def mergeState (limits : Limits) (current : Option StateObject) (incoming : StateObject) : Option StateObject :=
  match applyStateObject current incoming limits with
  | .ok (object,.applied) => some object
  | _ => current

def mergeStates (limits : Limits) (objects : List StateObject) : Option StateObject :=
  objects.foldl (mergeState limits) none

/-- Valid objects of one identity whose data agree wherever their versions agree. -/
structure Agreeing (limits : Limits) (identity : StateIdentity) (objects : List StateObject) : Prop where
  valid : ∀ object ∈ objects, validateStateObject object limits = .ok () ∧ object.identity = identity
  agree : ∀ left ∈ objects, ∀ right ∈ objects, left ≠ right → left.version = right.version →
    equalStateData left.data right.data = .ok true

section Merge
variable {limits : Limits} {identity : StateIdentity} {objects : List StateObject}

inductive Arrival (limits : Limits) (current : Option StateObject) (incoming : StateObject) : Prop
  | applied (ok : applyStateObject current incoming limits = .ok (incoming,.applied))
      (newer : ∀ object, current = some object → object.version < incoming.version)
  | duplicate (object : StateObject) (held : current = some object) (same : incoming.version = object.version)
      (ok : applyStateObject current incoming limits = .ok (object,.duplicate))
  | stale (object : StateObject) (held : current = some object) (older : incoming.version < object.version)
      (refused : applyStateObject current incoming limits = .error (.sentinel .stateStale))

theorem Agreeing.equal (agreeing : Agreeing limits identity objects) {left right : StateObject}
    (first : left ∈ objects) (second : right ∈ objects) (same : left.version = right.version) :
    equalStateData left.data right.data = .ok true := by
  by_cases one : left = right
  · subst one
    exact equalStateData_refl (agreeing.valid left first).1
  · exact agreeing.agree left first right second one same

theorem Agreeing.merged (agreeing : Agreeing limits identity objects) {current : Option StateObject}
    {incoming : StateObject} (held : ∀ object, current = some object → object ∈ objects)
    (arrives : incoming ∈ objects) : Arrival limits current incoming := by
  have valid := agreeing.valid incoming arrives
  cases current with
  | none =>
    refine .applied ?_ nofun
    simp only [applyStateObject,valid.1,bind,Except.bind]
    rfl
  | some object =>
    have known := held object rfl
    have valid' := agreeing.valid object known
    have opened : applyStateObject (some object) incoming limits =
        if incoming.version > object.version then .ok (incoming,.applied)
        else if incoming.version < object.version then .error (.sentinel .stateStale)
        else equalStateData object.data incoming.data >>= fun equal =>
          if equal then .ok (object,.duplicate) else .error (.sentinel .stateConflict) := by
      simp only [applyStateObject,valid.1,valid'.1,valid.2,valid'.2,bind,Except.bind,ne_eq,not_true,if_false]
      rfl
    rcases Nat.lt_trichotomy incoming.version.toNat object.version.toNat with older | same | newer
    · rw [← UInt64.lt_iff_toNat_lt] at older
      refine .stale object rfl older ?_
      rw [opened,if_neg (UInt64.lt_asymm older),if_pos older]
    · rw [UInt64.toNat_inj] at same
      refine .duplicate object rfl same ?_
      rw [opened,if_neg (by simp [same]),if_neg (by simp [same]),agreeing.equal known arrives same.symm]
      rfl
    · rw [← UInt64.lt_iff_toNat_lt] at newer
      refine .applied ?_ (fun other same => by cases same; exact newer)
      rw [opened,if_pos newer]

theorem Arrival.step {current : Option StateObject} {incoming : StateObject} (merged : Arrival limits current incoming) :
    mergeState limits current incoming = current.elim (some incoming)
      (fun object => if object.version < incoming.version then some incoming else some object) := by
  unfold mergeState
  cases merged with
  | applied ok newer =>
    rw [ok]
    cases current with
    | none => rfl
    | some object => simp [newer object rfl]
  | duplicate object held same ok =>
    subst held
    rw [ok]
    simp [same]
  | stale object held older refused =>
    subst held
    rw [refused]
    simp [UInt64.lt_asymm older]

def StateObject.rank (object : StateObject) : Nat := object.version.toNat

/-- The merge keeps the first of the newest objects. -/
theorem Agreeing.mergeStates_argmax (agreeing : Agreeing limits identity objects) (arrived : List StateObject)
    (known : ∀ object ∈ arrived, object ∈ objects) :
    mergeStates limits arrived = arrived.argmax StateObject.rank := by
  induction arrived using List.reverseRecOn with
  | nil => rfl
  | append_singleton early incoming ih =>
    have before := ih (fun object member => known object (by simp [member]))
    have held (object : StateObject) (same : mergeStates limits early = some object) : object ∈ objects := by
      rw [before] at same
      exact known object (List.mem_append_left _ (List.argmax_mem same))
    have step := (agreeing.merged held (known incoming (by simp))).step
    rw [mergeStates,List.foldl_append,List.foldl_cons,List.foldl_nil,← mergeStates,step,before,List.argmax_concat]
    cases early.argmax StateObject.rank with
    | none => rfl
    | some object =>
      by_cases newer : object.version < incoming.version <;> simp [StateObject.rank,newer,← UInt64.lt_iff_toNat_lt]

private theorem Agreeing.known (agreeing : Agreeing limits identity objects) {arrived : List StateObject}
    (known : ∀ object ∈ arrived, object ∈ objects) {object : StateObject}
    (kept : mergeStates limits arrived = some object) :
    object ∈ arrived ∧ ∀ other ∈ arrived, other.version ≤ object.version := by
  rw [agreeing.mergeStates_argmax arrived known] at kept
  refine ⟨List.argmax_mem kept,fun other member => UInt64.le_iff_toNat_le.mpr ?_⟩
  have below : other.rank ≤ object.rank := List.le_of_mem_argmax member kept
  exact below

private theorem Agreeing.some (agreeing : Agreeing limits identity objects) {arrived : List StateObject}
    (known : ∀ object ∈ arrived, object ∈ objects) (nonempty : arrived ≠ []) :
    ∃ object, mergeStates limits arrived = some object := by
  refine Option.ne_none_iff_exists'.mp (fun nothing => nonempty ?_)
  rw [agreeing.mergeStates_argmax arrived known] at nothing
  exact List.argmax_eq_none.mp nothing

/-- Objects with the same version and equal data. -/
def StateObject.Same (left right : StateObject) : Prop :=
  left.version = right.version ∧ equalStateData left.data right.data = .ok true

/-- Folding the merge over agreeing objects ends at the newest version with the data
of its holders, never goes back or reports a conflict, and depends only on which
objects occur. -/
theorem mergeStates_converges (agreeing : Agreeing limits identity objects) :
    (∀ early incoming late, objects = early++incoming::late →
      Arrival limits (mergeStates limits early) incoming ∧
      ∀ object, mergeStates limits early = some object →
        ∃ next, mergeStates limits (early++[incoming]) = some next ∧ object.version ≤ next.version) ∧
    (mergeStates limits objects = none ↔ objects = []) ∧
    (∀ object, mergeStates limits objects = some object → object ∈ objects ∧
      (∀ other ∈ objects, other.version ≤ object.version) ∧
      ∀ other ∈ objects, other.version = object.version → equalStateData object.data other.data = .ok true) ∧
    ∀ others : List StateObject, (∀ object, object ∈ others ↔ object ∈ objects) →
      Option.Rel StateObject.Same (mergeStates limits objects) (mergeStates limits others) := by
  have all : ∀ object ∈ objects, object ∈ objects := fun _ member => member
  refine ⟨?_,?_,?_,?_⟩
  · intro early incoming late split
    have known : ∀ object ∈ early, object ∈ objects := fun object member => by simp [split,member]
    have known' : ∀ object ∈ early++[incoming], object ∈ objects := fun object member => by
      rw [split,List.append_cons]
      exact List.mem_append_left late member
    refine ⟨agreeing.merged (fun object kept => known object (agreeing.known known kept).1) (by simp [split]),?_⟩
    intro object kept
    obtain ⟨next,later⟩ := agreeing.some known' (by simp)
    exact ⟨next,later,(agreeing.known known' later).2 object (by simp [(agreeing.known known kept).1])⟩
  · rw [agreeing.mergeStates_argmax objects all]
    exact List.argmax_eq_none
  · intro object kept
    obtain ⟨member,newest⟩ := agreeing.known all kept
    exact ⟨member,newest,fun other found same => agreeing.equal member found same.symm⟩
  · intro others same
    have known : ∀ object ∈ others, object ∈ objects := fun object => (same object).mp
    cases first : mergeStates limits objects with
    | none =>
      rw [agreeing.mergeStates_argmax objects all,List.argmax_eq_none] at first
      have empty : others = [] := List.eq_nil_iff_forall_not_mem.mpr (fun object member => by
        have found := known object member
        rw [first] at found
        cases found)
      rw [empty]
      exact .none
    | some object =>
      obtain ⟨member,newest⟩ := agreeing.known all first
      obtain ⟨other,second⟩ := agreeing.some known (List.ne_nil_of_mem ((same object).mpr member))
      obtain ⟨member',newest'⟩ := agreeing.known known second
      have version : object.version = other.version :=
        UInt64.le_antisymm (newest' object ((same object).mpr member)) (newest other (known other member'))
      rw [second]
      exact .some ⟨version,agreeing.equal member (known other member') version⟩

end Merge

private def arrivals : List StateObject :=
  [⟨lit "doc",lit "1",2,lit "15"⟩,⟨lit "doc",lit "1",1,lit "null"⟩,⟨lit "doc",lit "1",2,lit "1.50e1"⟩]

private theorem arrivals_agreeing : Agreeing defaultLimits ⟨lit "doc",lit "1"⟩ arrivals where
  valid := by
    have checked : arrivals.all (fun object => decide (validateStateObject object defaultLimits = .ok () ∧
        object.identity = ⟨lit "doc",lit "1"⟩)) = true := by decide +kernel
    exact fun object member => of_decide_eq_true (List.all_eq_true.mp checked object member)
  agree := by
    have checked : arrivals.all (fun left => arrivals.all (fun right => decide (left ≠ right →
        left.version = right.version → equalStateData left.data right.data = .ok true))) = true := by decide +kernel
    intro left first right second
    exact of_decide_eq_true (List.all_eq_true.mp (List.all_eq_true.mp checked left first) right second)

theorem mergeStates_converges_spellings :
    Agreeing defaultLimits ⟨lit "doc",lit "1"⟩ arrivals ∧
      Option.Rel StateObject.Same (mergeStates defaultLimits arrivals) (mergeStates defaultLimits arrivals.reverse) :=
  ⟨arrivals_agreeing,(mergeStates_converges arrivals_agreeing).2.2.2 _ (fun _ => List.mem_reverse)⟩

end Kmtproto
