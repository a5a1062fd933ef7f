import Kmtproto.Json.Spelling
import Kmtproto.ServerHandlers

/-! Size accounting of State snapshots. The accumulator's running count is the length
of the payload it would marshal, and the limit derived from the rest of a frame
makes room for exactly that payload. -/
namespace Kmtproto
open Json

section Lengths

private theorem commaJoin_snoc (texts : List Bytes) (text : Bytes) :
    (commaJoin (texts++[text])).length = (commaJoin texts).length + (if texts.isEmpty then 0 else 1) + text.length := by
  induction texts with
  | nil => simp [commaJoin]
  | cons first texts ih =>
    cases texts with
    | nil =>
      simp [commaJoin]
      omega
    | cons second texts =>
      simp only [List.cons_append,commaJoin,List.length_append,List.length_cons,List.isEmpty_cons] at ih ⊢
      omega

private theorem snapshot_length (texts : List Bytes) :
    (encodeObject [(lit "states",encodeArray texts)]).length = emptySnapshot.length + (commaJoin texts).length := by
  have empty : emptySnapshot.length = 13 := by decide
  have name : (lit "states").length = 6 := by decide
  rw [empty]
  simp only [encodeObject,encodeArray,encodeMember,List.map_cons,List.map_nil,commaJoin,List.length_cons,
    List.length_append,List.length_nil,name]
  omega

private theorem encodeObject_last (fields : List (Bytes × Bytes)) (name value other : Bytes) :
    (encodeObject (fields++[(name,value)])).length + other.length =
      (encodeObject (fields++[(name,other)])).length + value.length := by
  simp only [encodeObject,List.map_append,List.map_cons,List.map_nil,List.length_cons,List.length_append,commaJoin_snoc,
    encodeMember]
  omega

end Lengths

section Payload

private theorem mapM_snoc {states : List StateObject} {texts : List Bytes} (marshaled : states.mapM StateObject.marshal = some texts)
    {object : StateObject} {text : Bytes} (last : object.marshal = some text) :
    (states++[object]).mapM StateObject.marshal = some (texts++[text]) := by
  rw [List.mapM_append,marshaled]
  simp [last]

private theorem marshal_compacted {object : StateObject} {text : Bytes} (marshaled : object.marshal = some text) :
    Compacted (maxNestingDepth+1) text := by
  obtain ⟨data,raw,same⟩ := Option.bind_eq_some_iff.mp marshaled
  cases same
  have compacted : Compacted maxNestingDepth data := by
    unfold marshalRaw at raw
    split at raw
    · exact compact_compacted nullText _ (by rw [← raw]; decide +kernel)
    · exact compact_compacted _ _ raw
  refine compacted_object maxNestingDepth _ (fun entry member => ?_)
  simp only [List.mem_cons,List.not_mem_nil,or_false] at member
  rcases member with rfl | rfl | rfl | rfl
  · exact ⟨compacted_quote _ _,rfl,rfl⟩
  · exact ⟨compacted_quote _ _,rfl,rfl⟩
  · exact ⟨compacted_decimal _ _,rfl,rfl⟩
  · exact ⟨compacted,rfl,rfl⟩

private theorem snapshot_compact {states : List StateObject} {payload result : Bytes}
    (marshaled : marshalSnapshot states = some payload) (compacted : compact payload = some result) : result = payload := by
  obtain ⟨texts,mapped,same⟩ := Option.bind_eq_some_iff.mp marshaled
  cases same
  have each : ∀ text ∈ texts, Compacted (maxNestingDepth+1) text := fun text member => by
    obtain ⟨object,_,form⟩ := mapM_member _ _ _ mapped text member
    exact marshal_compacted form
  have whole := compacted_object _ [(lit "states",encodeArray texts)]
    (by simpa using ⟨compacted_array _ texts each,(rfl : Passes (lit "states")),by decide⟩)
  exact whole.compact_eq compacted

end Payload

namespace StateSnapshotAccumulator
variable {accumulator next : StateSnapshotAccumulator} {object : StateObject}

/-- The count is the length of the payload so far, and that payload fits. -/
structure Accounted (accumulator : StateSnapshotAccumulator) : Prop where
  counted : ∃ payload, marshalSnapshot accumulator.states = some payload ∧ accumulator.encodedBytes = payload.length
  fits : accumulator.encodedBytes ≤ accumulator.snapshotLimits.maxBytes

theorem accounted_new {protocolLimits : Limits} {snapshotLimits : StateSnapshotLimits}
    (created : newStateSnapshotAccumulator protocolLimits snapshotLimits = .ok accumulator) :
    accumulator.Accounted ∧ accumulator.states = [] ∧ accumulator.snapshotLimits = snapshotLimits ∧
      accumulator.protocolLimits = normalizeLimits protocolLimits := by
  unfold newStateSnapshotAccumulator at created
  split at created
  · cases created
  split at created
  · cases created
  · rename_i fits
    cases created
    exact ⟨⟨⟨emptySnapshot,rfl,rfl⟩,by simp only; omega⟩,rfl,rfl,rfl⟩

/-- What adding a valid object does while there is room for its number. -/
theorem add_eq (accounted : accumulator.Accounted) (room : (accumulator.states.length : Int) < accumulator.snapshotLimits.maxObjects)
    (valid : validateStateObject object accumulator.protocolLimits = .ok ()) :
    ∃ payload : Bytes, marshalSnapshot (accumulator.states++[object]) = some payload ∧
      accumulator.add object =
        if (payload.length : Int) > accumulator.snapshotLimits.maxBytes then .error (.sentinel .stateSnapshotLimitExceeded)
        else .ok {accumulator with encodedBytes := payload.length, states := accumulator.states++[object]} := by
  obtain ⟨before,marshaled,counted⟩ := accounted.counted
  obtain ⟨texts,mapped,same⟩ := Option.bind_eq_some_iff.mp marshaled
  cases same
  have encodes : ∃ text, object.marshal = some text := by
    unfold validateStateObject at valid
    obtain ⟨_,_,valid⟩ := bind_ok valid
    obtain ⟨_,valid⟩ := reject_bind_ok valid
    obtain ⟨_,valid⟩ := reject_bind_ok valid
    obtain ⟨_,valid⟩ := reject_bind_ok valid
    cases form : object.marshal with
    | none => rw [form] at valid; cases valid
    | some text => exact ⟨text,rfl⟩
  obtain ⟨text,form⟩ := encodes
  have larger := mapM_snoc mapped form
  have empty : texts.isEmpty = accumulator.states.isEmpty := by
    cases states : accumulator.states with
    | nil => rw [states] at mapped; cases mapped; rfl
    | cons first rest =>
      rw [states,List.mapM_cons] at mapped
      obtain ⟨_,_,mapped⟩ := Option.bind_eq_some_iff.mp mapped
      obtain ⟨_,_,mapped⟩ := Option.bind_eq_some_iff.mp mapped
      cases mapped
      rfl
  refine ⟨_,by rw [marshalSnapshot,larger]; rfl,?_⟩
  rw [snapshot_length] at counted ⊢
  rw [commaJoin_snoc,empty]
  unfold add
  rw [if_neg (by omega),valid]
  simp only [bind,Except.bind,form]
  cases accumulator.states.isEmpty with
  | true =>
    simp only [if_true]
    split
    · rw [if_pos (by omega)]
    · rw [if_neg (by omega)]
      congr 2
      omega
  | false =>
    simp only [Bool.false_eq_true,if_false]
    split
    · rw [if_pos (by omega)]
    · rw [if_neg (by omega)]
      congr 2
      omega

private theorem add_checks (added : accumulator.add object = .ok next) :
    (accumulator.states.length : Int) < accumulator.snapshotLimits.maxObjects ∧
      validateStateObject object accumulator.protocolLimits = .ok () := by
  unfold add at added
  split at added
  · cases added
  · rename_i room
    obtain ⟨_,valid,_⟩ := bind_ok added
    exact ⟨by omega,valid⟩

theorem Accounted.add (accounted : accumulator.Accounted) (added : accumulator.add object = .ok next) :
    next.Accounted ∧ next.states = accumulator.states++[object] ∧ next.snapshotLimits = accumulator.snapshotLimits ∧
      next.protocolLimits = accumulator.protocolLimits := by
  obtain ⟨room,valid⟩ := add_checks added
  obtain ⟨payload,marshaled,same⟩ := add_eq accounted room valid
  rw [same] at added
  split at added
  · cases added
  · rename_i fits
    cases added
    exact ⟨⟨⟨payload,marshaled,rfl⟩,by simp only; omega⟩,rfl,rfl,rfl⟩

theorem Accounted.adds {objects : List StateObject} (accounted : accumulator.Accounted)
    (added : objects.foldlM StateSnapshotAccumulator.add accumulator = .ok next) :
    next.Accounted ∧ next.states = accumulator.states++objects ∧ next.snapshotLimits = accumulator.snapshotLimits ∧
      next.protocolLimits = accumulator.protocolLimits := by
  induction objects generalizing accumulator with
  | nil =>
    cases added
    exact ⟨accounted,by simp,rfl,rfl⟩
  | cons object objects ih =>
    obtain ⟨middle,first,added⟩ := bind_ok added
    obtain ⟨kept,states,limits,protocol⟩ := accounted.add first
    obtain ⟨result,all,limits',protocol'⟩ := ih kept added
    exact ⟨result,by rw [all,states,List.append_assoc]; rfl,limits'.trans limits,protocol'.trans protocol⟩

end StateSnapshotAccumulator

private theorem marshal_overhead {frame : Envelope} {payload encoded probe : Bytes} (nonempty : payload ≠ [])
    (fixed : ∀ result, compact payload = some result → result = payload)
    (measured : Envelope.marshal {frame with payload := lit "\x7b\x7d"} = some probe)
    (marshaled : Envelope.marshal {frame with payload := payload} = some encoded) :
    encoded.length + 2 = probe.length + payload.length := by
  have braces : compact (lit "\x7b\x7d") = some (lit "\x7b\x7d") := by decide +kernel
  have shown : (lit "\x7b\x7d").isEmpty = false := by decide
  unfold Envelope.marshal at measured marshaled
  simp only [braces,shown,Bool.false_eq_true,if_false,Option.map_some,bind,Option.bind_some,Option.some.injEq] at measured
  rw [if_neg (by simpa using nonempty)] at marshaled
  obtain ⟨members,mapped,same⟩ := Option.bind_eq_some_iff.mp marshaled
  obtain ⟨text,compacted,rfl⟩ := Option.map_eq_some_iff.mp mapped
  rw [fixed text compacted] at same
  cases same
  rw [← measured]
  exact encodeObject_last _ (lit "payload") payload (lit "\x7b\x7d")

/-- The accumulator's count is exact after any successful additions, decides each
refusal for size, and with the limit of a frame keeps that frame within its limits. -/
theorem snapshot_accounting {protocolLimits : Limits} {snapshotLimits : StateSnapshotLimits}
    {initial accumulator : StateSnapshotAccumulator} {objects : List StateObject}
    (created : newStateSnapshotAccumulator protocolLimits snapshotLimits = .ok initial)
    (added : objects.foldlM StateSnapshotAccumulator.add initial = .ok accumulator) :
    accumulator.states = objects ∧
    ∃ payload : Bytes, marshalSnapshot objects = some payload ∧ accumulator.encodedBytes = payload.length ∧
      accumulator.payload = .ok payload ∧
      (∀ object, (objects.length : Int) < snapshotLimits.maxObjects →
        validateStateObject object (normalizeLimits protocolLimits) = .ok () →
        ∃ larger : Bytes, marshalSnapshot (objects++[object]) = some larger ∧
          (accumulator.add object = .error (.sentinel .stateSnapshotLimitExceeded) ↔
            (larger.length : Int) > snapshotLimits.maxBytes)) ∧
      ∀ (config : ServerConfig) (frame : Envelope), stateSnapshotLimits config frame = .ok snapshotLimits →
        (payload.length : Int) ≤ config.limits.maxPayloadSize ∧
        (payload.length : Int) ≤ config.limits.maxStateSnapshotBytes ∧
        ∀ encoded, Envelope.marshal {frame with payload := payload} = some encoded →
          (encoded.length : Int) ≤ config.limits.maxFrameSize := by
  obtain ⟨start,nothing,limits,protocol⟩ := StateSnapshotAccumulator.accounted_new created
  obtain ⟨accounted,states,limits',protocol'⟩ := start.adds added
  rw [nothing,List.nil_append] at states
  obtain ⟨payload,marshaled,counted⟩ := accounted.counted
  have fits := accounted.fits
  rw [limits',limits,counted] at fits
  refine ⟨states,payload,states ▸ marshaled,counted,?_,?_,?_⟩
  · rw [StateSnapshotAccumulator.payload,marshaled]
    simp only [limits',limits]
    rw [if_neg (by omega)]
  · intro object room valid
    obtain ⟨larger,form,same⟩ := StateSnapshotAccumulator.add_eq accounted (by rw [states,limits',limits]; exact room)
      (by rw [protocol',protocol]; exact valid)
    refine ⟨larger,states ▸ form,?_⟩
    rw [same,limits',limits]
    split
    · rename_i exceeds
      exact ⟨fun _ => exceeds,fun _ => rfl⟩
    · rename_i within
      exact ⟨fun wrong => (by cases wrong),fun exceeds => absurd exceeds within⟩
  · intro config frame measured
    unfold stateSnapshotLimits at measured
    split at measured
    · cases measured
    rename_i probe encodes
    simp only at measured
    split at measured
    · cases measured
    cases measured
    simp only [le_min_iff] at fits
    refine ⟨fits.1.2,fits.1.1,fun encoded shown => ?_⟩
    have nonempty : payload ≠ [] := by
      obtain ⟨texts,_,same⟩ := Option.bind_eq_some_iff.mp marshaled
      cases same
      simp [encodeObject]
    have overhead := marshal_overhead nonempty (fun _ => snapshot_compact marshaled) encodes shown
    omega

private def escapedObject : StateObject := ⟨lit "doc",lit "a&b",1,lit "[\"<\"]"⟩

private def oneSnapshot : StateSnapshotLimits := ⟨2,100⟩

theorem snapshot_accounting_escaped :
    ∃ payload : Bytes, marshalSnapshot [escapedObject] = some payload ∧
      (⟨defaultLimits,oneSnapshot,[escapedObject],85⟩ : StateSnapshotAccumulator).encodedBytes = payload.length := by
  have created : newStateSnapshotAccumulator defaultLimits oneSnapshot = .ok ⟨defaultLimits,oneSnapshot,[],13⟩ := by
    decide +kernel
  have added : [escapedObject].foldlM StateSnapshotAccumulator.add ⟨defaultLimits,oneSnapshot,[],13⟩ =
      .ok ⟨defaultLimits,oneSnapshot,[escapedObject],85⟩ := by decide +kernel
  obtain ⟨_,payload,marshaled,counted,_⟩ := snapshot_accounting created added
  exact ⟨payload,marshaled,counted⟩

end Kmtproto
