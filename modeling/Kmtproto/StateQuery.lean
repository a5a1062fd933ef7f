import Kmtproto.ErrorReports
import Kmtproto.ResumeBatch
import Kmtproto.SnapshotSize
import Kmtproto.Respelling

/-! Answers to STATE_QUERY. A State Object is validated as the store returns it and a
second time as the snapshot spells it; it passes the second time when the spelling of
its data is within the limit and leaves room for the nesting of the snapshot. -/
namespace Kmtproto
open Json Interaction

/-- The data of the object keeps within its limit when it is written, and within a nesting budget. -/
def StateObject.Portable (object : StateObject) (limits : Limits) (depth : Nat) : Prop :=
  ∃ data, compactAt depth object.data = some data ∧ (data.length : Int) ≤ limits.maxStateDataSize

def StateObject.members (object : StateObject) : List (Bytes × Bytes) :=
  [(lit "namespace",quote object.namespace_),(lit "object_id",quote object.objectID),
   (lit "version",decimal object.version.toNat),(lit "data",object.data)]

def StateObject.text (object : StateObject) : Bytes := encodeObject object.rewritten.members

def snapshotText (found : List StateObject) : Bytes :=
  encodeObject [(lit "states",encodeArray (found.map StateObject.text))]

section Snapshot
variable {object : StateObject} {limits : Limits} {strict : Bool} {found : List StateObject} {depth : Nat}

theorem marshal_text (valid : validateStateObject object limits = .ok ()) : object.marshal = some object.text := by
  rw [StateObject.marshal,marshalRaw,compact_present (rewritten_compact valid),if_neg Bool.false_ne_true,rewritten_compact valid]
  rfl

theorem marshalSnapshot_text (storable : Storable limits found) : marshalSnapshot found = some (snapshotText found) := by
  have texts : found.mapM StateObject.marshal = some (found.map StateObject.text) := by
    induction found with
    | nil => rfl
    | cons object found ih =>
      rw [List.mapM_cons,marshal_text (storable object (by simp)),ih (fun other member => storable other (by simp [member]))]
      rfl
  rw [marshalSnapshot,texts]
  rfl

private theorem members_settled (settled : Compacted depth object.data) :
    ∀ entry ∈ object.members, Compacted depth entry.2 ∧ Passes entry.1 ∧ escapeChars entry.1 = entry.1 := by
  simp only [StateObject.members,List.mem_cons,List.not_mem_nil,or_false,forall_eq_or_imp,forall_eq]
  exact ⟨⟨compacted_quote _ _,rfl,rfl⟩,⟨compacted_quote _ _,rfl,rfl⟩,⟨compacted_decimal _ _,rfl,rfl⟩,settled,rfl,rfl⟩

private theorem text_compacted (settled : Compacted depth object.rewritten.data) : Compacted (depth+1) object.text :=
  compacted_object depth _ (members_settled settled)

theorem snapshotText_compacted (settled : ∀ object ∈ found, Compacted depth object.rewritten.data) :
    Compacted (depth+1+1+1) (snapshotText found) := by
  have array := compacted_array (depth+1) (found.map StateObject.text) (fun text member => by
    obtain ⟨object,inside,rfl⟩ := List.mem_map.mp member
    exact text_compacted (settled object inside))
  have name : Passes (lit "states") := rfl
  exact compacted_object _ _ (by simpa using ⟨array,name,by decide⟩)

private theorem compacted_object_reads {members : List (Bytes × Bytes)}
    (each : ∀ entry ∈ members, Compacted depth entry.2 ∧ Passes entry.1 ∧ escapeChars entry.1 = entry.1) :
    Reads (depth+1) (encodeObject members) (.obj members) :=
  reads_object depth members (fun entry member => (each entry member).2.1) (fun entry member => (each entry member).1.reads)

/-- A snapshot that is read within the nesting limit leaves its objects what it does not use. -/
theorem snapshotText_deep {node : Node} (storable : Storable limits found)
    (reads : Reads maxNestingDepth (snapshotText found) node) :
    ∀ object ∈ found, ∃ node, Reads 9997 object.rewritten.data node := by
  intro object member
  have settled (object : StateObject) (inside : object ∈ found) : Compacted maxNestingDepth object.rewritten.data :=
    compact_compacted _ _ (rewritten_compact (storable object inside))
  have texts : ∀ text ∈ found.map StateObject.text, ∃ node, Reads (maxNestingDepth+1) text node := fun text among => by
    obtain ⟨object,inside,rfl⟩ := List.mem_map.mp among
    exact (text_compacted (settled object inside)).reads
  have array := reads_array _ _ texts
  have name : Passes (lit "states") := rfl
  have whole := reads_object _ [(lit "states",encodeArray (found.map StateObject.text))] (by simpa using name)
    (by simpa using ⟨_,array⟩)
  obtain ⟨_,second⟩ := whole.object_values reads (lit "states",encodeArray (found.map StateObject.text)) (by simp)
  obtain ⟨_,third⟩ := array.array_items second object.text (List.mem_map.mpr ⟨object,member,rfl⟩)
  exact (compacted_object_reads (members_settled (settled object member))).object_values third
    (lit "data",object.rewritten.data) (by simp [StateObject.members])

private theorem scalar_walkable {text : Bytes} (settled : Compacted 0 text) : Walkable payloadOpaqueFields text := by
  obtain ⟨node,reads⟩ := settled.reads
  exact .scalar text node (scalar_plain _ _ _ (reads [] delimited_nil)) (by simpa using reads.mono maxNestingDepth)

private theorem text_walkable (settled : Compacted 9997 object.rewritten.data) : Walkable payloadOpaqueFields object.text := by
  have each := members_settled settled
  refine .object _ id (fun entry member => ?_) ?_ (fun entry member => ?_) (fun entry member transparent => ?_)
  · refine ⟨(each entry member).2.1,?_⟩
    simp only [StateObject.members,List.mem_cons,List.not_mem_nil,or_false] at member
    rcases member with rfl | rfl | rfl | rfl <;> rfl
  · change [lit "namespace",lit "object_id",lit "version",lit "data"].Nodup
    decide
  · obtain ⟨node,reads⟩ := (each entry member).1.reads
    exact ⟨node,reads.mono 3⟩
  · simp only [StateObject.members,List.mem_cons,List.not_mem_nil,or_false] at member
    rcases member with rfl | rfl | rfl | rfl
    · exact scalar_walkable (compacted_quote 0 _)
    · exact scalar_walkable (compacted_quote 0 _)
    · exact scalar_walkable (compacted_decimal 0 _)
    · exact absurd (show lit "data" ∈ payloadOpaqueFields by decide) transparent

theorem readObject_text (valid : validateStateObject object limits = .ok ())
    (shallow : ∃ node, Reads 9999 object.rewritten.data node) : readObject strict {} object.text = some object.rewritten := by
  obtain ⟨namespace_,id⟩ := validateStateObject_names valid
  have reads : Reads maxNestingDepth object.text (.obj object.rewritten.members) := by
    refine reads_object 9999 _ ?_ ?_ <;>
      simp only [StateObject.members,List.mem_cons,List.not_mem_nil,or_false,forall_eq_or_imp,forall_eq]
    · exact ⟨rfl,rfl,rfl,rfl⟩
    · exact ⟨⟨_,reads_quote _ _⟩,⟨_,reads_quote _ _⟩,⟨_,reads_decimal _ _⟩,shallow⟩
  rw [readObject,readStruct,reads.view (le_refl _)]
  simp only [StateObject.members]
  rw [readMembers_cons _ (by decide) rfl (by simp only [field,readText_quote,Option.map_some]; rfl),
    readMembers_cons _ (by decide) rfl (by simp only [field,readText_quote,Option.map_some]; rfl),
    readMembers_cons _ (by decide) rfl (by simp only [field,readUInt64_decimal,Option.map_some]; rfl),
    readMembers_cons _ (by decide) rfl (by simp only [field,readRaw,Option.map_some]; rfl)]
  simp only [StateObject.rewritten,toValid_of_valid _ namespace_,toValid_of_valid _ id]
  rfl

private theorem snapshotText_reads (settled : ∀ object ∈ found, Compacted 9997 object.rewritten.data) :
    Reads 9999 (encodeArray (found.map StateObject.text)) (.arr (found.map StateObject.text)) ∧
      Reads maxNestingDepth (snapshotText found) (.obj [(lit "states",encodeArray (found.map StateObject.text))]) := by
  have array := reads_array 9998 (found.map StateObject.text) (fun text among => by
    obtain ⟨object,inside,rfl⟩ := List.mem_map.mp among
    exact (text_compacted (settled object inside)).reads)
  have name : Passes (lit "states") := rfl
  exact ⟨array,reads_object 9999 _ (by simpa using name) (by simpa using ⟨_,array⟩)⟩

/-- A snapshot of readable objects is decoded to the objects as they are written. -/
theorem decodePayload_snapshot (storable : Storable limits found)
    (settled : ∀ object ∈ found, Compacted 9997 object.rewritten.data) :
    decodePayload readSnapshot {} (snapshotText found) strict = .ok {states := found.map StateObject.rewritten} := by
  obtain ⟨array,reads⟩ := snapshotText_reads settled
  have name : Passes (lit "states") := rfl
  have walkable : Walkable payloadOpaqueFields (snapshotText found) := by
    refine .object _ id ?_ (by simp) ?_ ?_
    · simpa using ⟨name,(by decide : unquote (lit "states") = some (lit "states"))⟩
    · simpa using ⟨_,array.mono 1⟩
    · simp only [List.mem_cons,List.not_mem_nil,or_false,forall_eq]
      refine fun _ => .array _ (fun text among => ?_) (fun text among => ?_)
      · obtain ⟨object,inside,rfl⟩ := List.mem_map.mp among
        exact text_walkable (settled object inside)
      · obtain ⟨object,inside,rfl⟩ := List.mem_map.mp among
        obtain ⟨node,reads⟩ := (text_compacted (settled object inside)).reads
        exact ⟨node,reads.mono 2⟩
  have listed : readSlice (readObject strict) {} {} (encodeArray (found.map StateObject.text)) =
      some {items := found.map StateObject.rewritten} := by
    refine readSlice_encodeArray StateObject.text (readObject strict) {} found _ 9998 (by decide) (fun object inside => ?_) ?_
    · exact (text_compacted (settled object inside)).reads
    · refine List.forall₂_map_right_iff.mpr (List.forall₂_same.mpr (fun object inside => ?_))
      obtain ⟨node,reads⟩ := (settled object inside).reads
      exact readObject_text (storable object inside) ⟨node,reads.mono 2⟩
  refine decodePayload_encodeObject readSnapshot {} _ strict _ _ reads walkable ?_
  rw [readSnapshot,readNew,readStruct,show view (encodeObject _) = _ from reads.view (le_refl _)]
  simp only
  rw [readMembers_cons _ (by decide) rfl (by simp only [field,listed,Option.map_some]; rfl)]
  rfl

theorem snapshotText_states (settled : ∀ object ∈ found, Compacted 9997 object.rewritten.data) :
    jsonFieldPresentAndNonNull (snapshotText found) (lit "states") = .ok true := by
  have fields : rawFields (snapshotText found) = some [(lit "states",encodeArray (found.map StateObject.text))] := by
    rw [rawFields,(snapshotText_reads settled).2.view (le_refl _)]
    simp only [List.mapM_cons,List.mapM_nil,show unquote (lit "states") = some (lit "states") by decide]
    rfl
  have null : isNullText (encodeArray (found.map StateObject.text)) = false := isNullText_opening (.inr rfl) _
  simp only [jsonFieldPresentAndNonNull,payloadFields,fields,bind,Except.bind,lastField,List.reverse_cons,List.reverse_nil,
    List.nil_append,List.find?_cons,beq_self_eq_true,Option.map_some,null,pure,Except.pure,Bool.not_false]

private theorem rewritten_portable_iff (valid : validateStateObject object limits = .ok ()) (bound : depth ≤ maxNestingDepth) :
    object.Portable limits depth ↔ (∃ node, Reads depth object.rewritten.data node) ∧
      (object.rewritten.data.length : Int) ≤ limits.maxStateDataSize := by
  have compacted := rewritten_compact valid
  constructor
  · rintro ⟨data,lower,fits⟩
    cases (compactAt_mono bound lower).symm.trans compacted
    exact ⟨(compactAt_compacted _ _ _ lower).reads,fits⟩
  · rintro ⟨⟨node,reads⟩,fits⟩
    exact ⟨_,compactAt_lower compacted reads,fits⟩

private theorem portable_settled (valid : validateStateObject object limits = .ok ()) (portable : object.Portable limits 9997) :
    Compacted 9997 object.rewritten.data := by
  obtain ⟨data,lower,_⟩ := portable
  cases (compactAt_mono (by decide : 9997 ≤ maxNestingDepth) lower).symm.trans (rewritten_compact valid)
  exact compactAt_compacted _ _ _ lower

private theorem bounded_named {value : Bytes} (valid : validBoundedProtocolString value 128 false = true) :
    value.isEmpty = false ∧ validBoundedProtocolString value 128 true = true ∧ value.length ≤ 128 := by
  simp only [validBoundedProtocolString,Bool.not_false,Bool.true_and,Bool.and_eq_true,Bool.not_eq_true',Bool.or_eq_false_iff,
    decide_eq_false_iff_not,not_lt,Bool.not_true,Bool.false_and] at valid ⊢
  obtain ⟨⟨⟨nonempty,short⟩,text⟩,free⟩ := valid
  exact ⟨nonempty,⟨⟨⟨trivial,short⟩,text⟩,free⟩,by exact_mod_cast short⟩

/-- A snapshot of valid objects that fits is a valid frame when every object is portable. -/
theorem snapshotFrame_valid_iff {sessionID id : Bytes} {timestamp : Int64}
    (session : validBoundedProtocolString sessionID 128 false = true) (named : validBoundedProtocolString id 128 false = true)
    (storable : Storable defaultLimits found) (distinct : (found.map StateObject.identity).Nodup)
    (count : found.length ≤ 128) (size : (snapshotText found).length ≤ 786432) :
    validateFrame {snapshotFrame sessionID id timestamp with payload := snapshotText found} defaultLimits strict = .ok () ↔
      ∀ object ∈ found, object.Portable defaultLimits 9997 := by
  have portable (object : StateObject) (member : object ∈ found) :=
    rewritten_portable_iff (storable object member) (by decide : 9997 ≤ maxNestingDepth)
  by_cases nested : ∀ object ∈ found, ∃ node, Reads 9997 object.rewritten.data node
  · have settled (object : StateObject) (member : object ∈ found) : Compacted 9997 object.rewritten.data := by
      obtain ⟨node,reads⟩ := nested object member
      exact compactAt_compacted _ _ _ (compactAt_lower (rewritten_compact (storable object member)) reads)
    have fixed : compact (snapshotText found) = some (snapshotText found) := (snapshotText_compacted settled).fixed
    have envelope : validateEnvelope {snapshotFrame sessionID id timestamp with payload := snapshotText found} defaultLimits =
        .ok () :=
      (validateEnvelope_settled rfl (show FrameType.stateSnapshot.name.isEmpty = false by decide)
        (show FrameType.stateSnapshot.name.length ≤ 14 by decide) (bounded_named named).2.2 (bounded_named session).2.2 size
        fixed).mpr ⟨(bounded_named named).2.1,(bounded_named session).2.1⟩
    have typed : validateTyped {snapshotFrame sessionID id timestamp with payload := snapshotText found} defaultLimits strict =
        .ok () ↔ ∀ object ∈ found, (object.rewritten.data.length : Int) ≤ defaultLimits.maxStateDataSize := by
      have first : ¬((snapshotText found).length : Int) > defaultLimits.maxStateSnapshotBytes := by
        change ¬_ > (786432 : Int)
        omega
      have second : ¬((found.map StateObject.rewritten).length : Int) > defaultLimits.maxStateSnapshotObjects := by
        rw [List.length_map]
        change ¬_ > (128 : Int)
        omega
      simp only [validateTyped,snapshotFrame,validateStateSnapshot,requireSession,requireZeroSeq,requireEnvelopeID,reject,
        (bounded_named named).1,(bounded_named session).1,ne_eq,not_true_eq_false,if_false,first,second,Bool.false_eq_true,
        snapshotText_states settled,decodePayload_snapshot storable settled,Bool.not_true,bind,Except.bind]
      exact checkStates_rewritten storable distinct [] (by simp)
    have frame : validateFrame {snapshotFrame sessionID id timestamp with payload := snapshotText found} defaultLimits strict =
        validateTyped {snapshotFrame sessionID id timestamp with payload := snapshotText found} defaultLimits strict := by
      change (validateEnvelope _ defaultLimits >>= fun _ => validateTyped _ defaultLimits strict) = _
      rw [envelope]
      rfl
    rw [frame,typed]
    exact forall₂_congr (fun object member => ((portable object member).trans (and_iff_right (nested object member))).symm)
  · refine ⟨fun valid => absurd ?_ nested,
      fun all => absurd (fun object member => ((portable object member).mp (all object member)).1) nested⟩
    obtain ⟨_,_,payload,written,_⟩ := validateFrame_written valid
    have compacted : compact (snapshotText found) = some payload := by
      simpa [writtenPayload,snapshotText,encodeObject] using written
    have deep := snapshotText_compacted (fun object member =>
      compact_compacted _ _ (rewritten_compact (storable object member)))
    cases deep.compact_eq compacted
    obtain ⟨node,reads⟩ := (compact_compacted _ _ compacted).reads
    exact snapshotText_deep storable reads

end Snapshot

def statesFound (trace : List (Event Op Answer)) : List StateObject :=
  trace.filterMap (fun event => match event with
    | ⟨.getState _ _,.ok (some object)⟩ => some object
    | _ => none)

def statesAsked (trace : List (Event Op Answer)) : List StateIdentity :=
  trace.filterMap (fun event => match event with
    | ⟨.getState namespace_ objectID,_⟩ => some ⟨namespace_,objectID⟩
    | _ => none)

/-- Answers to a query: a live session with state-sync, a free lane, an open queue, and a
store that returns nothing or a valid object of the requested identity. -/
def Obliging (config : ServerConfig) : Event Op Answer → Prop
  | ⟨.lookup _ _,answer⟩ => ∃ session, answer = .ok (some session) ∧ stateSyncEnabled session.capabilities = true
  | ⟨.joinLane _,answer⟩ => answer ≠ none
  | ⟨.beginLaneCallback _,answer⟩ => answer = true
  | ⟨.getState namespace_ objectID,answer⟩ => answer = .ok none ∨ ∃ object, answer = .ok (some object) ∧
      object.identity = ⟨namespace_,objectID⟩ ∧ validateStateObject object config.limits = .ok ()
  | ⟨.enqueueBatch _ _,answer⟩ => answer = .ok ()
  | _ => True

section Collection
variable {config : ServerConfig} {sessionID namespace_ : Bytes} {α β : Type}

private theorem callback_runs {callback : Server (Except Err α)} {following : Except Err α → Server β}
    {trace : List (Event Op Answer)} {value : β} (runs : Runs (invokeCallback sessionID callback >>= following) trace value)
    (obliging : ∀ event ∈ trace, Obliging config event) :
    ∃ result first rest, trace = ⟨.beginLaneCallback sessionID,true⟩::(first ++ ⟨.endLaneCallback sessionID,()⟩::rest) ∧
      Runs callback first result ∧ Runs (following result) rest value := by
  obtain ⟨result,called,rest,rfl,invoked,after⟩ := runs.bind_split
  unfold invokeCallback at invoked
  obtain ⟨active,later,rfl,inside⟩ := invoked.ask_split
  have free : active = true := obliging ⟨.beginLaneCallback sessionID,active⟩ (by simp)
  rw [free,if_pos rfl] at inside
  obtain ⟨inner,first,last,rfl,ran,ending⟩ := inside.bind_split
  obtain ⟨_,past,rfl,ended⟩ := ending.ask_split
  obtain ⟨rfl,rfl⟩ := ended.pure_inv
  refine ⟨_,first,rest,?_,ran,after⟩
  rw [free]
  simp

private theorem ask_event {op : Op} {trace : List (Event Op Answer)} {answer : Answer op} (runs : Runs (ask op) trace answer) :
    trace = [⟨op,answer⟩] := by
  cases runs with
  | call _ _ given trace _ rest =>
    cases rest
    rfl

private structure Collected (namespace_ : Bytes) (objectIDs : List Bytes) (trace : List (Event Op Answer)) : Prop where
  quiet : batchesSent trace = []
  storable : Storable defaultLimits (statesFound trace)
  ordered : ((statesFound trace).map StateObject.identity).Sublist (objectIDs.map (⟨namespace_,·⟩))

private structure Filling (accumulator : StateSnapshotAccumulator) (objectIDs : List Bytes) : Prop where
  accounted : accumulator.Accounted
  protocol : accumulator.protocolLimits = defaultLimits
  limits : accumulator.snapshotLimits = ⟨128,786432⟩
  room : accumulator.states.length + objectIDs.length ≤ 128
  storable : Storable defaultLimits accumulator.states

private theorem Filling.add {accumulator : StateSnapshotAccumulator} {objectID : Bytes} {objectIDs : List Bytes} {object : StateObject}
    (filling : Filling accumulator (objectID::objectIDs)) (valid : validateStateObject object defaultLimits = .ok ()) :
    (accumulator.add object = .error (.sentinel .stateSnapshotLimitExceeded) ∧
      786432 < (snapshotText (accumulator.states++[object])).length) ∨
    ∃ next, accumulator.add object = .ok next ∧ next.states = accumulator.states++[object] ∧ Filling next objectIDs := by
  have room := filling.room
  rw [List.length_cons] at room
  have storable : Storable defaultLimits (accumulator.states++[object]) :=
    List.forall_mem_append.mpr ⟨filling.storable,by simpa using valid⟩
  obtain ⟨payload,marshaled,added⟩ := StateSnapshotAccumulator.add_eq filling.accounted
    (by rw [filling.limits]; simp only; omega) (by rw [filling.protocol]; exact valid)
  cases marshaled.symm.trans (marshalSnapshot_text storable)
  rw [filling.limits] at added
  simp only at added
  split at added
  · rename_i exceeds
    exact Or.inl ⟨added,by omega⟩
  · obtain ⟨accounted,states,limits,protocol⟩ := filling.accounted.add added
    refine Or.inr ⟨_,added,states,⟨accounted,protocol.trans filling.protocol,limits.trans filling.limits,?_,?_⟩⟩
    · rw [states,List.length_append,List.length_singleton]
      omega
    · rw [states]
      exact storable

private theorem collected_nil {objectIDs : List Bytes} : Collected namespace_ objectIDs [] :=
  ⟨rfl,by simp [Storable,statesFound],List.nil_sublist _⟩

private theorem Collected.skip {objectID : Bytes} {objectIDs : List Bytes} {trace : List (Event Op Answer)}
    (collected : Collected namespace_ objectIDs trace) :
    Collected namespace_ (objectID::objectIDs) (⟨.beginLaneCallback sessionID,true⟩::⟨.getState namespace_ objectID,.ok none⟩::
      ⟨.endLaneCallback sessionID,()⟩::trace) :=
  ⟨collected.quiet,collected.storable,collected.ordered.cons _⟩

private theorem Collected.take {objectID : Bytes} {objectIDs : List Bytes} {trace : List (Event Op Answer)} {object : StateObject}
    (collected : Collected namespace_ objectIDs trace) (valid : validateStateObject object defaultLimits = .ok ())
    (named : object.identity = ⟨namespace_,objectID⟩) :
    Collected namespace_ (objectID::objectIDs) (⟨.beginLaneCallback sessionID,true⟩::
      ⟨.getState namespace_ objectID,.ok (some object)⟩::⟨.endLaneCallback sessionID,()⟩::trace) := by
  refine ⟨collected.quiet,List.forall_mem_cons.mpr ⟨valid,collected.storable⟩,?_⟩
  change (object.identity::(statesFound trace).map StateObject.identity).Sublist _
  rw [named]
  exact collected.ordered.cons_cons _

private theorem collect_runs (defaults : config.limits = defaultLimits) {objectIDs : List Bytes}
    {accumulator : StateSnapshotAccumulator} {trace : List (Event Op Answer)}
    {result : Except Err (Option StateSnapshotAccumulator)}
    (runs : Runs (collectStates config sessionID namespace_ objectIDs accumulator) trace result)
    (obliging : ∀ event ∈ trace, Obliging config event) (filling : Filling accumulator objectIDs) :
    Collected namespace_ objectIDs trace ∧ (∀ objectID ∈ objectIDs.head?, ⟨namespace_,objectID⟩ ∈ statesAsked trace) ∧
      ((∃ next, result = .ok (some next) ∧ next.states = accumulator.states++statesFound trace ∧ Filling next [] ∧
        statesAsked trace = objectIDs.map (⟨namespace_,·⟩)) ∨
      result = .ok none ∧ 786432 < (snapshotText (accumulator.states++statesFound trace)).length) := by
  induction objectIDs generalizing accumulator trace with
  | nil =>
    obtain ⟨rfl,rfl⟩ := runs.pure_inv
    exact ⟨collected_nil,by simp,Or.inl ⟨accumulator,rfl,(List.append_nil _).symm,filling,rfl⟩⟩
  | cons objectID objectIDs ih =>
    unfold collectStates at runs
    obtain ⟨answer,first,rest,rfl,asked,after⟩ := callback_runs runs obliging
    obtain rfl := ask_event asked
    have later : ∀ event ∈ rest, Obliging config event := fun event member => obliging event (by simp [member])
    have room := filling.room
    rw [List.length_cons] at room
    rcases obliging ⟨.getState namespace_ objectID,answer⟩ (by simp) with rfl | ⟨object,rfl,named,valid⟩
    · obtain ⟨collected,_,outcome⟩ := ih after later ⟨filling.accounted,filling.protocol,filling.limits,by omega,filling.storable⟩
      refine ⟨collected.skip,by simp [statesAsked],outcome.imp ?_ id⟩
      rintro ⟨next,same,states,full,asked⟩
      exact ⟨next,same,states,full,congrArg (List.cons (⟨namespace_,objectID⟩ : StateIdentity)) asked⟩
    · rw [defaults] at valid
      have identity : ¬(object.namespace_ ≠ namespace_ ∨ object.objectID ≠ objectID) := by
        rw [not_or,not_not,not_not]
        exact ⟨congrArg StateIdentity.namespace_ named,congrArg StateIdentity.objectID named⟩
      simp only [if_neg identity,defaults,valid] at after
      rcases filling.add valid with ⟨added,exceeds⟩ | ⟨next,added,states,full⟩
      · rw [added] at after
        obtain ⟨rfl,rfl⟩ := after.pure_inv
        exact ⟨collected_nil.take valid named,by simp [statesAsked],Or.inr ⟨rfl,exceeds⟩⟩
      · rw [added] at after
        obtain ⟨collected,_,outcome⟩ := ih after later full
        rw [states,List.append_assoc] at outcome
        refine ⟨collected.take valid named,by simp [statesAsked],outcome.imp ?_ id⟩
        rintro ⟨next,same,states,full,asked⟩
        exact ⟨next,same,states,full,congrArg (List.cons (⟨namespace_,objectID⟩ : StateIdentity)) asked⟩

end Collection

/-- The snapshot that answers a query: the objects found, as they are written and in
ascending order of their ids, among all the query asks for. -/
structure Snapshots (config : ServerConfig) (frame : Envelope) (trace : List (Event Op Answer)) (answer : Envelope) : Prop where
  type : answer.type = .stateSnapshot
  id : answer.id = frame.id
  sessionID : answer.sessionID = frame.sessionID
  states : decodePayload readSnapshot {} answer.payload config.strictValidation =
    .ok {states := (statesFound trace).map StateObject.rewritten}
  ascending : ((statesFound trace).map StateObject.objectID).Pairwise (· < ·)
  asked : ∃ query, decodePayload readQuery {} frame.payload config.strictValidation = .ok query ∧
    (statesAsked trace).Perm (query.objectIDs.map (⟨query.namespace_,·⟩))

/-- One frame is sent, a snapshot or an ERROR, and the call succeeds. -/
def Answered (config : ServerConfig) (frame : Envelope) (outbound : Nat) (trace : List (Event Op Answer)) (reply : Reply) : Prop :=
  reply.2 = .ok () ∧ ∃ answer, batchesSent trace = [(outbound,[answer])] ∧ config.validates answer = .ok () ∧
    (answer.type = .error ∨ Snapshots config frame trace answer)

section Query
variable {config : ServerConfig} {frame : Envelope} {outbound : Nat} {trace : List (Event Op Answer)} {reply : Reply}

private theorem checkObjectIDs_distinct {limits : Limits} {namespace_ : Bytes} {seen objectIDs : List Bytes}
    (checked : checkObjectIDs limits namespace_ seen objectIDs = .ok ()) :
    objectIDs.Nodup ∧ ∀ objectID ∈ objectIDs, objectID ∉ seen := by
  induction objectIDs generalizing seen with
  | nil => simp
  | cons objectID objectIDs ih =>
    unfold checkObjectIDs at checked
    obtain ⟨_,_,checked⟩ := bind_ok checked
    obtain ⟨fresh,checked⟩ := reject_bind_ok checked
    obtain ⟨distinct,apart⟩ := ih checked
    refine ⟨List.nodup_cons.mpr ⟨fun member => apart _ member (by simp),distinct⟩,List.forall_mem_cons.mpr ⟨fresh,?_⟩⟩
    intro other member before
    exact apart other member (List.mem_cons_of_mem _ before)

private structure Queries (config : ServerConfig) (frame : Envelope) (query : StateQueryPayload) : Prop where
  session : validBoundedProtocolString frame.sessionID 128 false = true
  named : validBoundedProtocolString frame.id 128 false = true
  decodes : decodePayload readQuery {} frame.payload config.strictValidation = .ok query
  count : query.objectIDs.length ≤ 128
  distinct : query.objectIDs.Nodup

private theorem bounded_nonempty {value : Bytes} {limit : Int} (valid : validBoundedProtocolString value limit true = true)
    (nonempty : ¬value.isEmpty = true) : validBoundedProtocolString value limit false = true := by
  simp only [validBoundedProtocolString,Bool.not_true,Bool.false_and,Bool.not_false,Bool.true_and] at valid ⊢
  rw [Bool.not_eq_true] at nonempty
  rw [nonempty]
  exact valid

private theorem queries_of_valid (defaults : config.limits = defaultLimits) (type : frame.type = .stateQuery)
    (valid : config.validates frame = .ok ()) : ∃ query, Queries config frame query := by
  rw [ServerConfig.validates,validateOutboundFrame_eq,defaults] at valid
  obtain ⟨id,session,_,_⟩ := validateFrame_bounded valid
  have typed := (validateFrame_parts valid).2
  unfold validateTyped at typed
  rw [type] at typed
  unfold validateStateQuery requireSession requireEnvelopeID at typed
  obtain ⟨supplied,typed⟩ := reject_bind_ok typed
  obtain ⟨_,_,typed⟩ := bind_ok typed
  obtain ⟨present,typed⟩ := reject_bind_ok typed
  obtain ⟨query,decodes,typed⟩ := bind_ok typed
  obtain ⟨few,checked⟩ := reject_bind_ok typed
  simp only [Bool.or_eq_true,not_or,decide_eq_true_eq,not_lt] at few
  have count : (query.objectIDs.length : Int) ≤ 128 := few.2
  exact ⟨query,bounded_nonempty session supplied,bounded_nonempty id present,decodes,by omega,(checkObjectIDs_distinct checked).1⟩

private theorem stateSnapshotLimits_default (defaults : config.limits = defaultLimits) {sessionID id : Bytes} (timestamp : Int64)
    (session : validBoundedProtocolString sessionID 128 false = true) (named : validBoundedProtocolString id 128 false = true) :
    stateSnapshotLimits config (snapshotFrame sessionID id timestamp) = .ok ⟨128,786432⟩ := by
  have small := written_length {snapshotFrame sessionID id timestamp with payload := lit "\x7b\x7d"} (lit "\x7b\x7d")
    (bounded_named named).2.2 (bounded_named session).2.2 (show FrameType.stateSnapshot.name.length ≤ 14 by decide)
  have empty : (lit "\x7b\x7d").length = 2 := rfl
  have written : writtenPayload (lit "\x7b\x7d") = some (lit "\x7b\x7d") := by decide
  unfold stateSnapshotLimits
  rw [Envelope.marshal_written,written,defaults]
  simp only [Option.map_some]
  dsimp only at small
  generalize List.length (encodeObject _) = total at small ⊢
  have room : min (min defaultLimits.maxStateSnapshotBytes defaultLimits.maxPayloadSize)
      (defaultLimits.maxFrameSize-((total : Int)-2)) = 786432 := by
    change min (min 786432 786432) (1048576-((total : Int)-2)) = 786432
    omega
  rw [room,if_neg (by decide)]
  rfl

private theorem enqueue_runs {sent : Envelope} {result : Except Err Unit} (runs : Runs (enqueueFrame config outbound sent) trace result)
    (obliging : ∀ event ∈ trace, Obliging config event) :
    (config.validates sent = .ok () ∧ result = .ok () ∧ trace = [⟨.enqueueBatch outbound [sent],.ok ()⟩]) ∨
      config.validates sent ≠ .ok () ∧ result ≠ .ok () ∧ trace = [] := by
  unfold enqueueFrame at runs
  cases checked : config.validates sent with
  | error error =>
    rw [checked] at runs
    obtain ⟨rfl,rfl⟩ := runs.pure_inv
    exact Or.inr ⟨by simp,by simp,rfl⟩
  | ok done =>
    rw [checked] at runs
    obtain rfl := ask_event runs
    have taken : result = .ok () := obliging ⟨.enqueueBatch outbound [sent],result⟩ (by simp)
    subst taken
    exact Or.inl ⟨rfl,rfl,rfl⟩

private theorem refusal_runs (defaults : config.limits = defaultLimits) {query : StateQueryPayload}
    (queries : Queries config frame query) {code : ErrorCode} {message : Bytes} {retryable : Bool} {timestamp : Int64}
    {result : Except Err Unit} (text : validString message = true) (flag : code.Agrees retryable)
    (unclosed : code.behavior.closeConnection = false)
    (runs : Runs (enqueueErrorAt config outbound frame.sessionID frame.id code message retryable timestamp) trace result)
    (obliging : ∀ event ∈ trace, Obliging config event) :
    result = .ok () ∧ ∃ answer, trace = [⟨.enqueueBatch outbound [answer],.ok ()⟩] ∧ config.validates answer = .ok () ∧
      answer.type = .error := by
  have quotable {value : Bytes} (valid : validBoundedProtocolString value 128 false = true) (limit : Int) : Quotable value limit :=
    fun _ _ => (validBoundedProtocolString_parts valid).2
  have valid := (errorFrameAt_valid_iff defaults
    (⟨text,flag⟩ : ProtocolError.Reportable {code := code, message := message, retryable := retryable}) timestamp).mpr
    ⟨quotable queries.named _,quotable queries.session _⟩
  unfold enqueueErrorAt at runs
  obtain ⟨sent,first,rest,rfl,enqueued,after⟩ := runs.bind_split
  rcases enqueue_runs enqueued (fun event member => obliging event (by simp [member])) with ⟨_,rfl,rfl⟩ | ⟨invalid,_⟩
  · simp only [unclosed,Bool.false_eq_true,if_false] at after
    obtain ⟨rfl,rfl⟩ := after.pure_inv
    exact ⟨rfl,_,rfl,valid,rfl⟩
  · exact absurd valid invalid

private theorem sortStrings_ascending {values : List Bytes} (distinct : values.Nodup) :
    (sortStrings values).Pairwise (· < ·) := by
  have sorted : (sortStrings values).Pairwise (· ≤ ·) := List.pairwise_insertionSort _ _
  have apart : (sortStrings values).Nodup := (List.perm_insertionSort _ _).nodup_iff.mpr distinct
  exact (sorted.and apart).imp (fun both => (List.le_iff_lt_or_eq.mp both.1).resolve_right both.2)

private theorem Collected.ascending {namespace_ : Bytes} {objectIDs : List Bytes}
    (collected : Collected namespace_ (sortStrings objectIDs) trace) (distinct : objectIDs.Nodup) :
    ((statesFound trace).map StateObject.objectID).Pairwise (· < ·) := by
  have ids := collected.ordered.map StateIdentity.objectID
  rw [List.map_map,List.map_map] at ids
  change ((statesFound trace).map StateObject.objectID).Sublist ((sortStrings objectIDs).map id) at ids
  rw [List.map_id] at ids
  exact (sortStrings_ascending distinct).sublist ids

private theorem Collected.distinct {namespace_ : Bytes} {objectIDs : List Bytes}
    (collected : Collected namespace_ (sortStrings objectIDs) trace) (distinct : objectIDs.Nodup) :
    ((statesFound trace).map StateObject.identity).Nodup := by
  refine List.pairwise_map.mpr ((List.pairwise_map.mp (collected.ascending distinct)).imp ?_)
  intro one other less same
  rw [show one.objectID = other.objectID from congrArg StateIdentity.objectID same] at less
  exact List.lt_irrefl _ less

private theorem sent_last {answer : Envelope} :
    batchesSent (trace++[⟨.enqueueBatch outbound [answer],.ok ()⟩]) = batchesSent trace++[(outbound,[answer])] ∧
      statesFound (trace++[⟨.enqueueBatch outbound [answer],.ok ()⟩]) = statesFound trace ∧
      statesAsked (trace++[⟨.enqueueBatch outbound [answer],.ok ()⟩]) = statesAsked trace := by
  simp [batchesSent,statesFound,statesAsked]

private def Reading (query : StateQueryPayload) (trace : List (Event Op Answer)) : Prop :=
  ((statesFound trace).map StateObject.identity).Sublist ((sortStrings query.objectIDs).map (⟨query.namespace_,·⟩)) ∧
    ∀ objectID ∈ (sortStrings query.objectIDs).head?, ⟨query.namespace_,objectID⟩ ∈ statesAsked trace

private theorem answer_runs (defaults : config.limits = defaultLimits) {query : StateQueryPayload}
    (queries : Queries config frame query) {timestamp : Int64}
    (runs : Runs (answerQuery config frame outbound timestamp) trace reply)
    (obliging : ∀ event ∈ trace, Obliging config event) :
    Reading query trace ∧ (Answered config frame outbound trace reply ↔
      ((snapshotText (statesFound trace)).length ≤ 786432 → ∀ object ∈ statesFound trace, object.Portable defaultLimits 9997)) := by
  have created : newStateSnapshotAccumulator defaultLimits ⟨128,786432⟩ = .ok ⟨defaultLimits,⟨128,786432⟩,[],13⟩ := by decide
  unfold answerQuery at runs
  simp only [queries.decodes,stateSnapshotLimits_default defaults timestamp queries.session queries.named,defaults,
    created] at runs
  have filling : Filling ⟨defaultLimits,⟨128,786432⟩,[],13⟩ (sortStrings query.objectIDs) := by
    refine ⟨(StateSnapshotAccumulator.accounted_new created).1,rfl,rfl,?_,by simp [Storable]⟩
    rw [sortStrings,List.length_insertionSort,List.length_nil,Nat.zero_add]
    exact queries.count
  obtain ⟨result,first,rest,rfl,collecting,after⟩ := runs.bind_split
  obtain ⟨collected,begun,outcome⟩ := collect_runs defaults collecting (fun event member => obliging event (by simp [member])) filling
  have later : ∀ event ∈ rest, Obliging config event := fun event member => obliging event (by simp [member])
  rcases outcome with ⟨next,rfl,states,full,asked⟩ | ⟨rfl,exceeds⟩
  · rw [List.nil_append] at states
    obtain ⟨payload,marshaled,counted⟩ := full.accounted.counted
    rw [states,marshalSnapshot_text collected.storable] at marshaled
    cases marshaled
    have fits := full.accounted.fits
    rw [counted,full.limits] at fits
    have size : (snapshotText (statesFound first)).length ≤ 786432 := by
      exact_mod_cast (show _ ≤ (786432 : Int) from fits)
    have count : (statesFound first).length ≤ 128 := by
      have room := full.room
      rwa [states,List.length_nil,Nat.add_zero] at room
    have built : next.payload = .ok (snapshotText (statesFound first)) := by
      rw [StateSnapshotAccumulator.payload,states,marshalSnapshot_text collected.storable,full.limits]
      exact if_neg (not_lt.mpr fits)
    simp only [built] at after
    obtain ⟨sent,last,past,rfl,enqueued,ended⟩ := after.bind_split
    obtain ⟨rfl,rfl⟩ := ended.pure_inv
    have valid : config.validates {snapshotFrame frame.sessionID frame.id timestamp with
        payload := snapshotText (statesFound first)} = .ok () ↔ ∀ object ∈ statesFound first, object.Portable defaultLimits 9997 := by
      rw [ServerConfig.validates,validateOutboundFrame_eq,defaults]
      exact snapshotFrame_valid_iff queries.session queries.named collected.storable (collected.distinct queries.distinct) count size
    rw [List.append_nil]
    rcases enqueue_runs enqueued (fun event member => later event (by simp [member])) with ⟨checked,rfl,rfl⟩ | ⟨invalid,failed,rfl⟩
    · obtain ⟨batches,found,ids⟩ := @sent_last outbound first
        {snapshotFrame frame.sessionID frame.id timestamp with payload := snapshotText (statesFound first)}
      rw [collected.quiet] at batches
      refine ⟨by rw [Reading,found,ids]; exact ⟨collected.ordered,begun⟩,?_⟩
      have portable := valid.mp checked
      have settled (object : StateObject) (member : object ∈ statesFound first) : Compacted 9997 object.rewritten.data :=
        portable_settled (collected.storable object member) (portable object member)
      refine iff_of_true ⟨rfl,_,batches,checked,Or.inr ⟨rfl,rfl,rfl,?_,?_,query,queries.decodes,?_⟩⟩ (fun _ => by rwa [found])
      · rw [found]
        exact decodePayload_snapshot collected.storable settled
      · rw [found]
        exact collected.ascending queries.distinct
      · rw [ids,asked]
        exact (List.perm_insertionSort _ _).map _
    · rw [List.append_nil]
      exact ⟨⟨collected.ordered,begun⟩,iff_of_false (fun answered => failed answered.1) (fun portable => invalid (valid.mpr (portable size)))⟩
  · obtain ⟨sent,last,past,rfl,refused,ended⟩ := after.bind_split
    obtain ⟨rfl,rfl⟩ := ended.pure_inv
    obtain ⟨rfl,answer,rfl,valid,type⟩ := refusal_runs defaults queries (by decide) (by decide) rfl refused
      (fun event member => later event (by simp [member]))
    rw [List.append_nil]
    obtain ⟨sent,found,ids⟩ := @sent_last outbound first answer
    rw [collected.quiet] at sent
    refine ⟨by rw [Reading,found,ids]; exact ⟨collected.ordered,begun⟩,?_⟩
    rw [found]
    exact iff_of_true ⟨rfl,answer,sent,valid,Or.inl type⟩ (fun fits => absurd fits (not_le.mpr exceeds))

private theorem lane_runs {sessionID : Bytes} {idle : HandleResult} {request : Server Reply}
    (runs : Runs (runStream sessionID idle request) trace reply) (obliging : ∀ event ∈ trace, Obliging config event) :
    ∃ ticket inner answer, trace = ⟨.joinLane sessionID,some ticket⟩::⟨.awaitLane sessionID ticket,()⟩::
        (inner++[⟨.leaveLane sessionID ticket,()⟩]) ∧
      Runs request inner answer ∧ (reply.2 = .ok () ↔ answer.2 = .ok ()) := by
  unfold runStream at runs
  obtain ⟨joined,rest,rfl,waiting⟩ := runs.ask_split
  have turn : joined ≠ none := obliging ⟨.joinLane sessionID,joined⟩ (by simp)
  cases joined with
  | none => exact absurd rfl turn
  | some ticket =>
    obtain ⟨_,later,rfl,running⟩ := waiting.ask_split
    obtain ⟨answer,inner,last,rfl,ran,leaving⟩ := running.bind_split
    obtain ⟨_,past,rfl,ended⟩ := leaving.ask_split
    refine ⟨ticket,inner,answer,?_,ran,?_⟩
    · split at ended <;> obtain ⟨rfl,rfl⟩ := ended.pure_inv <;> rfl
    · split at ended <;> obtain ⟨rfl,rfl⟩ := ended.pure_inv
      · exact iff_of_false (by simp) (by simp)
      · exact Iff.rfl

private def framed (sessionID : Bytes) (now : Int) (ticket : Nat) (session : SessionState) (inner : List (Event Op Answer)) :
    List (Event Op Answer) :=
  ⟨.now,now⟩::⟨.joinLane sessionID,some ticket⟩::⟨.awaitLane sessionID ticket,()⟩::⟨.beginLaneCallback sessionID,true⟩::
    ⟨.lookup sessionID now,.ok (some session)⟩::⟨.endLaneCallback sessionID,()⟩::(inner++[⟨.leaveLane sessionID ticket,()⟩])

private theorem framed_same {sessionID : Bytes} {now : Int} {ticket : Nat} {session : SessionState} :
    batchesSent (framed sessionID now ticket session trace) = batchesSent trace ∧
      statesFound (framed sessionID now ticket session trace) = statesFound trace ∧
      statesAsked (framed sessionID now ticket session trace) = statesAsked trace := by
  simp [framed,batchesSent,statesFound,statesAsked]

private theorem answered_framed {sessionID : Bytes} {now : Int} {ticket : Nat} {session : SessionState} {answer : Reply}
    (same : reply.2 = .ok () ↔ answer.2 = .ok ()) :
    Answered config frame outbound (framed sessionID now ticket session trace) reply ↔
      Answered config frame outbound trace answer := by
  obtain ⟨batches,found,asked⟩ := @framed_same trace sessionID now ticket session
  have snapshots (sent : Envelope) : Snapshots config frame (framed sessionID now ticket session trace) sent ↔
      Snapshots config frame trace sent := by
    constructor
    · rintro ⟨type,id,session,states,ascending,all⟩
      rw [found] at states ascending
      rw [asked] at all
      exact ⟨type,id,session,states,ascending,all⟩
    · rintro ⟨type,id,session,states,ascending,all⟩
      rw [← found] at states ascending
      rw [← asked] at all
      exact ⟨type,id,session,states,ascending,all⟩
  unfold Answered
  simp only [same,batches,snapshots]

private theorem query_runs (defaults : config.limits = defaultLimits) {query : StateQueryPayload}
    (queries : Queries config frame query) (runs : Runs (handleStateQuery config frame outbound) trace reply)
    (obliging : ∀ event ∈ trace, Obliging config event) :
    (config.stateStore = true → Reading query trace) ∧ (Answered config frame outbound trace reply ↔
      ((snapshotText (statesFound trace)).length ≤ 786432 → ∀ object ∈ statesFound trace, object.Portable defaultLimits 9997)) := by
  unfold handleStateQuery at runs
  obtain ⟨now,laned,rfl,running⟩ := runs.ask_split
  obtain ⟨ticket,inner,answer,rfl,ran,same⟩ := lane_runs running (fun event member => obliging event (by simp [member]))
  obtain ⟨found,first,rest,rfl,looked,after⟩ := callback_runs ran (fun event member => obliging event (by simp [member]))
  obtain rfl := ask_event looked
  obtain ⟨session,rfl,synced⟩ := obliging ⟨.lookup frame.sessionID now,found⟩ (by simp)
  have later : ∀ event ∈ rest, Obliging config event := fun event member => obliging event (by simp [member])
  have form : (⟨.now,now⟩::⟨.joinLane frame.sessionID,some ticket⟩::⟨.awaitLane frame.sessionID ticket,()⟩::
      (⟨.beginLaneCallback frame.sessionID,true⟩::([⟨.lookup frame.sessionID now,.ok (some session)⟩]++
        ⟨.endLaneCallback frame.sessionID,()⟩::rest)++[⟨.leaveLane frame.sessionID ticket,()⟩]) : List (Event Op Answer)) =
      framed frame.sessionID now ticket session rest := by simp [framed]
  obtain ⟨_,found,asked⟩ := @framed_same rest frame.sessionID now ticket session
  rw [form,answered_framed same,Reading,found,asked]
  simp only [synced,Bool.not_true,Bool.false_eq_true,if_false] at after
  cases stored : config.stateStore with
  | true =>
    simp only [stored,Bool.not_true,Bool.false_eq_true,if_false] at after
    obtain ⟨reading,answered⟩ := answer_runs defaults queries after later
    exact ⟨fun _ => reading,answered⟩
  | false =>
    simp only [stored,Bool.not_false,if_true] at after
    obtain ⟨sent,last,past,rfl,refused,ended⟩ := after.bind_split
    obtain ⟨rfl,rfl⟩ := ended.pure_inv
    obtain ⟨rfl,answer,rfl,valid,type⟩ := refusal_runs defaults queries (by decide) (by decide) rfl refused
      (fun event member => later event (by simp [member]))
    refine ⟨by simp,iff_of_true ⟨rfl,answer,rfl,valid,Or.inl type⟩ ?_⟩
    intro _ object member
    cases member

private theorem object_again {object : StateObject} {text : Bytes} {strict : Bool}
    (valid : validateStateObject object defaultLimits = .ok ()) (written : object.marshal = some text) :
    (∃ back, readObject strict {} text = some back ∧ validateStateObject back defaultLimits = .ok ()) ↔
      object.Portable defaultLimits 9999 := by
  cases written.symm.trans (marshal_text valid)
  have compacted := rewritten_compact valid
  have again := validateStateObject_rewritten valid
  rw [rewritten_portable_iff valid (by decide)]
  constructor
  · rintro ⟨back,read,accepted⟩
    have viewed : ∃ node, viewAt maxNestingDepth object.text = some node := by
      rw [readObject,readStruct] at read
      split at read
      · exact ⟨_,by assumption⟩
      · exact ⟨_,by assumption⟩
      · cases read
    obtain ⟨node,viewed⟩ := viewed
    have wide := compacted_object_reads (members_settled (compact_compacted _ _ compacted))
    have shallow := wide.object_values (wide.lower viewed) (lit "data",object.rewritten.data) (by simp [StateObject.members])
    cases read.symm.trans (readObject_text valid shallow)
    exact ⟨shallow,again.mp accepted⟩
  · rintro ⟨shallow,fits⟩
    exact ⟨object.rewritten,readObject_text valid shallow,again.mpr fits⟩

end Query

/-- A valid query gets one frame as its answer, unless an object found is not portable and
the snapshot would fit; and an object survives being written and read when it is portable. -/
theorem state_query_answered (config : ServerConfig) (defaults : config.limits = defaultLimits) :
    (∀ frame outbound trace reply, frame.type = .stateQuery →
      validateFrame frame config.limits config.strictValidation = .ok () →
      Runs (handleStateQuery config frame outbound) trace reply → (∀ event ∈ trace, Obliging config event) →
      (Answered config frame outbound trace reply ↔
        ((snapshotText (statesFound trace)).length ≤ 786432 →
          ∀ object ∈ statesFound trace, object.Portable defaultLimits 9997))) ∧
    ∀ object text strict, validateStateObject object config.limits = .ok () → object.marshal = some text →
      ((∃ back, readObject strict {} text = some back ∧ validateStateObject back config.limits = .ok ()) ↔
        object.Portable defaultLimits 9999) := by
  constructor
  · intro frame outbound trace reply type valid runs obliging
    rw [← validateOutboundFrame_eq] at valid
    obtain ⟨query,queries⟩ := queries_of_valid defaults type valid
    exact (query_runs defaults queries runs obliging).2
  · intro object text strict valid written
    rw [defaults] at valid ⊢
    exact object_again valid written

def syncedSession : SessionState :=
  ⟨lit "s",1,⟨[⟨capabilityStateSync,capabilityStateSyncVersion⟩],List.pairwise_singleton _ _⟩⟩

def storing (object : StateObject) : (op : Op) → Answer op
  | .lookup _ _ => .ok (some syncedSession)
  | .joinLane _ => some 0
  | .beginLaneCallback _ => true
  | .getState namespace_ objectID => .ok (if object.identity = ⟨namespace_,objectID⟩ then some object else none)
  | op => working (lit "s") (lit "f") op

def storeConfig : ServerConfig := {stateStore := true}

/-- A query for the object `a` of the namespace `doc`. -/
def queryFrame : Envelope :=
  {type := .stateQuery, id := lit "q", sessionID := lit "s", payload := lit "\x7b\"namespace\":\"doc\",\"object_ids\":[\"a\"]\x7d"}

section Stored
variable {object : StateObject}

private theorem storing_obliging (valid : validateStateObject object defaultLimits = .ok ()) (program : Server Reply) :
    ∀ event ∈ (program.offered (storing object)).1, Obliging storeConfig event := by
  intro event member
  rw [Program.mem_offered member]
  cases event.1 with
  | lookup sessionID now => exact ⟨syncedSession,rfl,by decide⟩
  | joinLane sessionID =>
    intro empty
    cases empty
  | beginLaneCallback sessionID => rfl
  | enqueueBatch outbound frames => rfl
  | getState namespace_ objectID =>
    by_cases named : object.identity = ⟨namespace_,objectID⟩
    · exact Or.inr ⟨object,by simp only [storing,if_pos named],named,valid⟩
    · exact Or.inl (by simp only [storing,if_neg named])
  | _ => trivial

private theorem storing_asked {trace : List (Event Op Answer)} {identity : StateIdentity} (named : object.identity = identity)
    (given : ∀ {event}, event ∈ trace → event = ⟨event.1,storing object event.1⟩) (asked : identity ∈ statesAsked trace) :
    object ∈ statesFound trace := by
  obtain ⟨event,member,same⟩ := List.mem_filterMap.mp asked
  refine List.mem_filterMap.mpr ⟨event,member,?_⟩
  rw [given member] at same ⊢
  generalize event.1 = op at same ⊢
  cases op with
  | getState namespace_ objectID =>
    cases same
    simp only [storing,if_pos named]
  | _ => cases same

private theorem storing_found (valid : validateStateObject object defaultLimits = .ok ())
    (named : object.identity = ⟨lit "doc",lit "a"⟩) :
    statesFound ((handleStateQuery storeConfig queryFrame 0).offered (storing object)).1 = [object] := by
  obtain ⟨query,queries⟩ := @queries_of_valid storeConfig queryFrame rfl rfl (by decide +kernel)
  have known : decodePayload readQuery {} queryFrame.payload storeConfig.strictValidation =
      .ok {namespace_ := lit "doc", objectIDs := [lit "a"]} := by decide +kernel
  cases known.symm.trans queries.decodes
  obtain ⟨reading,_⟩ := query_runs rfl queries (Program.runs_offered _ (storing object)) (storing_obliging valid _)
  obtain ⟨sublist,begun⟩ := reading rfl
  have found := storing_asked named Program.mem_offered (begun (lit "a") rfl)
  change List.Sublist _ [(⟨lit "doc",lit "a"⟩ : StateIdentity)] at sublist
  have few := sublist.length_le
  rw [List.length_map,List.length_singleton] at few
  obtain ⟨other,single⟩ := List.length_eq_one_iff.mp (le_antisymm few (List.length_pos_of_mem found))
  rw [single] at found ⊢
  rw [List.mem_singleton.mp found]

end Stored

/-- An object whose data is a string of characters that are written as six. -/
def angled (count : Nat) : StateObject := ⟨lit "doc",lit "a",1,0x22::(List.replicate count 0x3C++[0x22])⟩

section Angled
variable {count : Nat}

private theorem passes_angles : Passes (List.replicate count 0x3C) := by
  induction count with
  | zero => rfl
  | succ count ih => exact ih

private theorem escapeChars_angles : (escapeChars (List.replicate count 0x3C)).length = 6*count := by
  induction count with
  | zero => rfl
  | succ count ih =>
    rw [List.replicate_succ,escapeChars,escapeFrom,if_pos (Or.inl rfl),List.length_append]
    rw [escapeChars] at ih
    rw [ih,show (escapeByte 0x3C).length = 6 by decide]
    omega

private theorem compactAt_angled (depth : Nat) :
    compactAt (depth+1) (angled count).data = some (0x22::(escapeChars (List.replicate count 0x3C)++[0x22])) := by
  have viewed := (reads_chars (depth+1) _ (@passes_angles count)).viewAt
  rw [compactAt,show viewAt (depth+1) (angled count).data = _ from viewed]
  rfl

private theorem compact_angled : compact (angled count).data = some (0x22::(escapeChars (List.replicate count 0x3C)++[0x22])) :=
  compactAt_angled 9999

private theorem angled_length : (0x22::(escapeChars (List.replicate count 0x3C)++[0x22])).length = 6*count+2 := by
  rw [List.length_cons,List.length_append,List.length_singleton,escapeChars_angles]

private theorem angled_rewritten : (angled count).rewritten.data.length = 6*count+2 := by
  rw [StateObject.rewritten,compact_angled]
  exact angled_length

private theorem angled_text : (angled count).text.length ≤ 6*count+100 := by
  have bound := encodeObject_length_le (angled count).rewritten.members
  rw [← StateObject.text] at bound
  simp only [StateObject.members,List.map_cons,List.map_nil,List.sum_cons,List.sum_nil,angled_rewritten] at bound
  have parts : (lit "namespace").length = 9 ∧ (quote (angled count).rewritten.namespace_).length = 5 ∧
      (lit "object_id").length = 9 ∧ (quote (angled count).rewritten.objectID).length = 3 ∧ (lit "version").length = 7 ∧
      (decimal (angled count).rewritten.version.toNat).length = 1 ∧ (lit "data").length = 4 := by
    refine ⟨rfl,?_,rfl,?_,rfl,?_,rfl⟩
    · exact (by decide : (quote (lit "doc")).length = 5)
    · exact (by decide : (quote (lit "a")).length = 3)
    · exact (by decide : (decimal 1).length = 1)
  omega

theorem angled_valid (fits : count ≤ 109000) : validateStateObject (angled count) defaultLimits = .ok () := by
  have identity : validateStateIdentity (lit "doc") (lit "a") (normalizeLimits defaultLimits) = .ok () := by decide +kernel
  have marshaled : (angled count).marshal = some (angled count).text := by
    rw [StateObject.marshal,marshalRaw,if_neg (by simp [angled]),StateObject.text,StateObject.rewritten,compact_angled]
    rfl
  have small := @angled_text count
  have readable : Json.valid (angled count).data = true := by
    rw [Json.valid,view,show viewAt maxNestingDepth (angled count).data = _ from
      (reads_chars maxNestingDepth _ (@passes_angles count)).viewAt]
    rfl
  have length : (angled count).data.length = count+2 := by
    simp only [angled,List.length_cons,List.length_append,List.length_replicate,List.length_nil]
  unfold validateStateObject
  change (validateStateIdentity (lit "doc") (lit "a") (normalizeLimits defaultLimits) >>= _) = _
  rw [identity]
  have within : ¬((count+2 : Nat) : Int) > (normalizeLimits defaultLimits).maxStateDataSize := by
    change ¬((count+2 : Nat) : Int) > 524288
    omega
  have whole : ¬(((angled count).text.length : Int) > (normalizeLimits defaultLimits).maxStateObjectSize ∨
      ((angled count).text.length : Int) > (normalizeLimits defaultLimits).maxPayloadSize) := by
    change ¬(((angled count).text.length : Int) > 655360 ∨ ((angled count).text.length : Int) > 786432)
    omega
  have version : ¬((angled count).version = 0 ∨ (angled count).version = 0xFFFFFFFFFFFFFFFF) := by
    exact (by decide : ¬((1 : UInt64) = 0 ∨ (1 : UInt64) = 0xFFFFFFFFFFFFFFFF))
  have nonempty : (angled count).data.isEmpty = false := rfl
  simp only [bind,Except.bind,marshaled,readable,length,reject,if_neg version,nonempty,Bool.not_true,Bool.or_false,
    Bool.false_eq_true,if_false,if_neg within,if_neg whole]

private theorem angled_stays (exceeds : 87381 < count) : ¬(angled count).Portable defaultLimits 9997 := by
  rintro ⟨data,compacted,fits⟩
  rw [compactAt_angled] at compacted
  cases compacted
  rw [angled_length] at fits
  change ((6*count+2 : Nat) : Int) ≤ 524288 at fits
  omega

private theorem angled_unanswered (exceeds : 87381 < count) (fits : count ≤ 109000) :
    ¬Answered storeConfig queryFrame 0 ((handleStateQuery storeConfig queryFrame 0).offered (storing (angled count))).1
      ((handleStateQuery storeConfig queryFrame 0).offered (storing (angled count))).2 := by
  have valid := angled_valid fits
  obtain ⟨query,queries⟩ := @queries_of_valid storeConfig queryFrame rfl rfl (by decide +kernel)
  rw [(query_runs rfl queries (Program.runs_offered _ (storing (angled count))) (storing_obliging valid _)).2,
    storing_found valid rfl]
  intro portable
  refine angled_stays exceeds (portable ?_ _ (by simp))
  have small := @angled_text count
  have whole := encodeObject_length_le [(lit "states",encodeArray [(angled count).text])]
  have array : (encodeArray [(angled count).text]).length = (angled count).text.length+2 := by simp [encodeArray,commaJoin]
  have name : (lit "states").length = 6 := rfl
  simp only [List.map_cons,List.map_nil,List.sum_cons,List.sum_nil,array,name] at whole
  change (encodeObject [(lit "states",encodeArray [(angled count).text])]).length ≤ 786432
  omega

end Angled

/-- An object whose data is a string of 100000 angle brackets is valid, and a query for it ends
without an answer. -/
theorem angled_query_unanswered : validateStateObject (angled 100000) defaultLimits = .ok () ∧
    ¬Answered storeConfig queryFrame 0 ((handleStateQuery storeConfig queryFrame 0).offered (storing (angled 100000))).1
      ((handleStateQuery storeConfig queryFrame 0).offered (storing (angled 100000))).2 :=
  ⟨angled_valid (by decide),angled_unanswered (by decide) (by decide)⟩

theorem state_query_answered_one :
    Answered storeConfig queryFrame 0 ((handleStateQuery storeConfig queryFrame 0).offered (storing (angled 1))).1
      ((handleStateQuery storeConfig queryFrame 0).offered (storing (angled 1))).2 := by
  have valid : validateStateObject (angled 1) defaultLimits = .ok () := angled_valid (by decide)
  refine ((state_query_answered storeConfig rfl).1 queryFrame 0 _ _ rfl (by decide +kernel) (Program.runs_offered _ _)
    (storing_obliging valid _)).mpr ?_
  rw [storing_found valid rfl]
  intro _ object member
  rw [List.mem_singleton.mp member]
  exact ⟨_,compactAt_angled 9996,by decide⟩

end Kmtproto
