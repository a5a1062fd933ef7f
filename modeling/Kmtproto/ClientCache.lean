import Kmtproto.ClientInvariant
import Kmtproto.Wire

/-! The State cache of a client. What is cached is valid and accounted for, a
session only ever raises the version of an object, a snapshot is merged whole or
not at all, and the changes reported are the changes made. -/
namespace Kmtproto
open Json

abbrev StateObjects := AList (fun _ : StateIdentity => StateObject)

def cacheBytes (objects : StateObjects) : Int := (objects.entries.map (fun entry => stateObjectBytes entry.2)).sum

structure CacheSound (config : ClientConfig) (objects : StateObjects) (bytes : Int) : Prop where
  keyed : ∀ id object, objects.lookup id = some object → object.identity = id
  valid : ∀ id object, objects.lookup id = some object → validateStateObject object config.limits = .ok ()
  accounted : bytes = cacheBytes objects
  size : bytes ≤ config.maxStateBytes
  count : (objects.entries.length : Int) ≤ config.maxStateObjects

def newer (objects : StateObjects) (incoming : StateObject) : Bool :=
  (objects.lookup incoming.identity).all (fun current => current.version < incoming.version)

/-- The cache holds the object, or an equal one of the same version that came first. -/
def Cached (objects : StateObjects) (object : StateObject) : Prop :=
  ∃ current, objects.lookup object.identity = some current ∧ current.version = object.version ∧
    (current = object ∨ equalStateData current.data object.data = .ok true)

section Accounting
variable (objects : StateObjects) (id : StateIdentity) (object : StateObject)

private theorem insert_fresh (absent : objects.lookup id = none) :
    (objects.insert id object).entries = ⟨id,object⟩::objects.entries :=
  AList.entries_insert_of_notMem (AList.lookup_eq_none.mp absent)

private theorem insert_replaces {current : StateObject} (found : objects.lookup id = some current) :
    ∃ before after, objects.entries = before++⟨id,current⟩::after ∧
      (objects.insert id object).entries = ⟨id,object⟩::(before++after) := by
  have known : id ∈ objects.entries.keys := by
    have present := AList.lookup_isSome.mp (by rw [found]; rfl : (objects.lookup id).isSome)
    exact AList.mem_keys.mp present
  obtain ⟨other,before,after,_,split,erased⟩ := List.exists_of_kerase known
  have same : other = current := by
    have inside : (⟨id,other⟩ : Sigma fun _ : StateIdentity => StateObject) ∈ objects.entries := by
      rw [split]
      simp
    have looked := AList.mem_lookup_iff.mpr inside
    rw [found] at looked
    exact (Option.some.inj looked).symm
  subst same
  refine ⟨before,after,split,?_⟩
  rw [AList.entries_insert,erased]

theorem cacheBytes_insert :
    cacheBytes (objects.insert id object) =
      cacheBytes objects - (match objects.lookup id with | some current => stateObjectBytes current | none => 0) +
        stateObjectBytes object := by
  cases found : objects.lookup id with
  | none =>
    simp only [cacheBytes,insert_fresh objects id object found,List.map_cons,List.sum_cons]
    omega
  | some current =>
    obtain ⟨before,after,split,inserted⟩ := insert_replaces objects id object found
    simp only [cacheBytes,split,inserted,List.map_cons,List.map_append,List.sum_cons,List.sum_append]
    omega

theorem insert_length :
    (objects.insert id object).entries.length =
      objects.entries.length + if (objects.lookup id).isNone then 1 else 0 := by
  cases found : objects.lookup id with
  | none =>
    rw [insert_fresh objects id object found]
    rfl
  | some current =>
    obtain ⟨before,after,split,inserted⟩ := insert_replaces objects id object found
    rw [split,inserted]
    simp
    omega

end Accounting

section Merge
variable {config : ClientConfig} {cache next : StateCache} {incoming : StateObject}

inductive Merges (config : ClientConfig) (cache : StateCache) (incoming : StateObject) : StateCache → Prop
  | duplicate (current : StateObject) (found : cache.objects.lookup incoming.identity = some current)
      (version : current.version = incoming.version)
      (equal : equalStateData current.data incoming.data = .ok true) : Merges config cache incoming cache
  | stored (bytes : Int) (replaces : newer cache.objects incoming = true)
      (valid : validateStateObject incoming config.limits = .ok ())
      (room : cache.objects.lookup incoming.identity = none →
        (cache.objects.entries.length : Int)+1 ≤ config.maxStateObjects)
      (accounted : bytes = cache.bytes -
        (match cache.objects.lookup incoming.identity with | some object => stateObjectBytes object | none => 0) +
        stateObjectBytes incoming)
      (size : bytes ≤ config.maxStateBytes) :
      Merges config cache incoming
        ⟨cache.objects.insert incoming.identity incoming,bytes,cache.actions++[.stateChanged incoming .applied]⟩

private theorem applyStateObject_cases {current : Option StateObject} {limits : Limits} {committed : StateObject}
    {result : StateApplyResult} (applied : applyStateObject current incoming limits = .ok (committed,result)) :
    validateStateObject incoming limits = .ok () ∧
      (result = .applied ∧ committed = incoming ∧ current.all (fun current => current.version < incoming.version) ∨
        result = .duplicate ∧ ∃ old, current = some old ∧ old.version = incoming.version ∧
          equalStateData old.data incoming.data = .ok true) := by
  unfold applyStateObject at applied
  obtain ⟨_,valid,applied⟩ := bind_ok applied
  refine ⟨valid,?_⟩
  cases current with
  | none =>
    cases applied
    exact .inl ⟨rfl,rfl,rfl⟩
  | some old =>
    obtain ⟨_,_,applied⟩ := bind_ok applied
    split at applied
    · cases applied
    split at applied
    · rename_i later
      cases applied
      exact .inl ⟨rfl,rfl,by simpa using later⟩
    split at applied
    · cases applied
    rename_i upper lower
    obtain ⟨equal,compared,applied⟩ := bind_ok applied
    cases equal with
    | false => cases applied
    | true =>
      cases applied
      exact .inr ⟨rfl,_,rfl,UInt64.le_antisymm (UInt64.not_lt.mp lower) (UInt64.not_lt.mp upper),compared⟩

theorem StateCache.apply_merges (applied : StateCache.apply config cache incoming = .ok next) :
    Merges config cache incoming next := by
  unfold StateCache.apply at applied
  simp only [] at applied
  split at applied
  · split at applied <;> cases applied
  rename_i committed result merged
  obtain ⟨valid,⟨rfl,rfl,later⟩ | ⟨rfl,old,found,version,equal⟩⟩ := applyStateObject_cases merged
  · rw [if_neg (by decide)] at applied
    split at applied
    · cases applied
    rename_i room
    generalize accounted : cache.bytes - _ + stateObjectBytes committed = bytes at applied
    split at applied
    · cases applied
    rename_i size
    cases applied
    refine .stored bytes later valid (fun absent => ?_) accounted.symm (by omega)
    rw [absent] at room
    simp only [Option.isNone_none,true_and] at room
    omega
  · rw [if_pos rfl] at applied
    cases applied
    exact .duplicate old found version equal

theorem Merges.sound (merges : Merges config cache incoming next)
    (sound : CacheSound config cache.objects cache.bytes) : CacheSound config next.objects next.bytes := by
  cases merges with
  | duplicate => exact sound
  | stored bytes replaces valid room accounted size =>
    refine ⟨fun id object found => ?_,fun id object found => ?_,?_,size,?_⟩
    · by_cases same : id = incoming.identity
      · subst same
        rw [AList.lookup_insert] at found
        cases found
        rfl
      · rw [AList.lookup_insert_ne same] at found
        exact sound.keyed id object found
    · by_cases same : id = incoming.identity
      · subst same
        rw [AList.lookup_insert] at found
        cases found
        exact valid
      · rw [AList.lookup_insert_ne same] at found
        exact sound.valid id object found
    · rw [accounted,sound.accounted,cacheBytes_insert]
    · have counted := sound.count
      rw [insert_length]
      cases found : cache.objects.lookup incoming.identity with
      | none =>
        have fits := room found
        simpa using fits
      | some current => simpa using counted

structure Merged (before after : StateObjects) (objects stored : List StateObject) : Prop where
  found : ∀ id, after.lookup id = (stored.find? (fun object => object.identity = id)).or (before.lookup id)
  replaced : ∀ object ∈ stored, object ∈ objects ∧ newer before object = true
  duplicates : ∀ object ∈ objects, object ∉ stored → Cached before object
  distinct : (stored.map StateObject.identity).Nodup

private theorem newer_congr {before middle : StateObjects} {object : StateObject}
    (same : middle.lookup object.identity = before.lookup object.identity) :
    newer middle object = newer before object := by
  rw [newer,newer,same]

private theorem Cached.congr {before middle : StateObjects} {object : StateObject}
    (same : middle.lookup object.identity = before.lookup object.identity) (cached : Cached middle object) :
    Cached before object := by
  rw [Cached,same] at cached
  exact cached

/-- A stored object ahead of objects with other identities. -/
private theorem Merged.cons {before after : StateObjects} {objects stored : List StateObject}
    (replaces : newer before incoming = true) (others : ∀ object ∈ objects, object.identity ≠ incoming.identity)
    (merged : Merged (before.insert incoming.identity incoming) after objects stored) :
    Merged before after (incoming::objects) (incoming::stored) := by
  have untouched : ∀ object ∈ objects,
      (before.insert incoming.identity incoming).lookup object.identity = before.lookup object.identity :=
    fun object member => AList.lookup_insert_ne (others object member)
  refine ⟨fun id => ?_,fun object member => ?_,fun object member skipped => ?_,?_⟩
  · rw [merged.found]
    by_cases same : incoming.identity = id
    · subst same
      have absent : stored.find? (fun object => object.identity = incoming.identity) = none := by
        rw [List.find?_eq_none]
        intro object member
        simpa using others object (merged.replaced object member).1
      rw [absent,List.find?_cons_of_pos (by simp),AList.lookup_insert]
      rfl
    · rw [List.find?_cons_of_neg (by simpa using same),AList.lookup_insert_ne (Ne.symm same)]
  · rcases List.mem_cons.mp member with rfl | member
    · exact ⟨List.mem_cons_self,replaces⟩
    · obtain ⟨listed,later⟩ := merged.replaced object member
      rw [newer_congr (untouched object listed)] at later
      exact ⟨List.mem_cons_of_mem _ listed,later⟩
  · rw [List.mem_cons,not_or] at skipped
    have listed := (List.mem_cons.mp member).resolve_left skipped.1
    exact (merged.duplicates object listed skipped.2).congr (untouched object listed)
  · rw [List.map_cons,List.nodup_cons]
    refine ⟨fun again => ?_,merged.distinct⟩
    obtain ⟨object,member,same⟩ := List.mem_map.mp again
    exact others object (merged.replaced object member).1 same

/-- The objects of a list are merged independently of each other when no identity comes twice. -/
theorem foldlM_merged {objects : List StateObject} (distinct : (objects.map StateObject.identity).Nodup)
    (sound : CacheSound config cache.objects cache.bytes)
    (applied : objects.foldlM (StateCache.apply config) cache = .ok next) :
    CacheSound config next.objects next.bytes ∧
      ∃ stored, Merged cache.objects next.objects objects stored ∧
        next.actions = cache.actions ++ stored.map (fun object => .stateChanged object .applied) := by
  induction objects generalizing cache with
  | nil =>
    cases applied
    exact ⟨sound,[],⟨by simp,by simp,by simp,by simp⟩,by simp⟩
  | cons incoming objects ih =>
    rw [List.foldlM_cons] at applied
    obtain ⟨middle,first,applied⟩ := bind_ok applied
    have merges := StateCache.apply_merges first
    rw [List.map_cons,List.nodup_cons] at distinct
    have others : ∀ object ∈ objects, object.identity ≠ incoming.identity := fun object member same =>
      distinct.1 (List.mem_map.mpr ⟨object,member,same⟩)
    obtain ⟨kept,stored,merged,actions⟩ := ih distinct.2 (merges.sound sound) applied
    refine ⟨kept,?_⟩
    cases merges with
    | duplicate current found version equal =>
      refine ⟨stored,⟨merged.found,fun object member => ?_,fun object member skipped => ?_,merged.distinct⟩,actions⟩
      · obtain ⟨listed,later⟩ := merged.replaced object member
        exact ⟨List.mem_cons_of_mem _ listed,later⟩
      · rcases List.mem_cons.mp member with rfl | listed
        · exact ⟨current,found,version,.inr equal⟩
        · exact merged.duplicates object listed skipped
    | stored bytes replaces valid room accounted size =>
      exact ⟨incoming::stored,merged.cons replaces others,by simp [actions]⟩

end Merge

def stateChanges (actions : List Action) : List StateObject :=
  actions.filterMap (fun | .stateChanged object _ => some object | _ => none)

structure CacheStep (c : Client) (call : Call) (next : Client) (actions : List Action) : Prop where
  changed : ∀ id, next.stateObjects.lookup id ≠ c.stateObjects.lookup id ↔
    ∃ object ∈ stateChanges actions, object.identity = id
  current : ∀ object ∈ stateChanges actions, next.stateObjects.lookup object.identity = some object
  once : ((stateChanges actions).map StateObject.identity).Nodup
  grows : ∀ id old, c.stateObjects.lookup id = some old →
    ∃ new, next.stateObjects.lookup id = some new ∧ (new = old ∨ old.version < new.version)
  whole : ∀ generation frame payload, call = .handleIncoming generation frame → frame.type = .stateSnapshot →
    decodePayload readSnapshot {} frame.payload c.config.strictValidation = .ok payload →
    next.stateObjects = c.stateObjects ∨ ∀ object ∈ payload.states, Cached next.stateObjects object

section Steps
variable {c next : Client} {call : Call} {actions : List Action}

private theorem CacheStep.unchanged (same : next.stateObjects = c.stateObjects) (silent : stateChanges actions = []) :
    CacheStep c call next actions := by
  refine ⟨fun id => ?_,?_,?_,fun id old found => ?_,fun _ _ _ _ _ _ => .inl same⟩
  · rw [same,silent]
    simp
  · simp [silent]
  · simp [silent]
  · exact ⟨old,by rw [same,found],.inl rfl⟩

private theorem Merged.find {before after : StateObjects} {objects stored : List StateObject}
    (merged : Merged before after objects stored) {object : StateObject} (member : object ∈ stored) :
    after.lookup object.identity = some object := by
  have first : stored.find? (fun other => other.identity = object.identity) = some object := by
    cases found : stored.find? (fun other => other.identity = object.identity) with
    | none => simpa using List.find?_eq_none.mp found object member
    | some other =>
      have same : other.identity = object.identity := by simpa using List.find?_some found
      rw [List.inj_on_of_nodup_map merged.distinct (List.mem_of_find?_eq_some found) member same]
  rw [merged.found,first]
  rfl

private theorem CacheStep.merged {objects : List StateObject} (distinct : (objects.map StateObject.identity).Nodup)
    (merged : Merged c.stateObjects next.stateObjects objects (stateChanges actions))
    (whole : ∀ generation frame payload, call = .handleIncoming generation frame → frame.type = .stateSnapshot →
      decodePayload readSnapshot {} frame.payload c.config.strictValidation = .ok payload → payload.states = objects) :
    CacheStep c call next actions := by
  have later : ∀ object ∈ stateChanges actions, ∀ old, c.stateObjects.lookup object.identity = some old →
      old.version < object.version := by
    intro object member old found
    have replaced := (merged.replaced object member).2
    rw [newer,found] at replaced
    simpa using replaced
  refine ⟨fun id => ⟨fun differs => ?_,?_⟩,fun object member => merged.find member,merged.distinct,
    fun id old found => ?_,fun generation frame payload made snapshot decoded => .inr (fun object member => ?_)⟩
  · by_contra unreported
    apply differs
    have absent : (stateChanges actions).find? (fun object => object.identity = id) = none := by
      rw [List.find?_eq_none]
      intro object member same
      exact unreported ⟨object,member,by simpa using same⟩
    rw [merged.found,absent]
    rfl
  · rintro ⟨object,member,rfl⟩ same
    rw [merged.find member] at same
    exact absurd (later object member object same.symm) (UInt64.lt_irrefl _)
  · rw [merged.found]
    cases first : (stateChanges actions).find? (fun object => object.identity = id) with
    | none => exact ⟨old,by rw [found]; rfl,.inl rfl⟩
    | some object =>
      have same : object.identity = id := by simpa using List.find?_some first
      exact ⟨object,rfl,.inr (later object (List.mem_of_find?_eq_some first) old (by rw [same,found]))⟩
  · rw [whole generation frame payload made snapshot decoded] at member
    by_cases stored : object ∈ stateChanges actions
    · exact ⟨object,merged.find stored,rfl,.inl rfl⟩
    · obtain ⟨current,found,version,equal⟩ := merged.duplicates object member stored
      refine ⟨current,?_,version,equal⟩
      have absent : (stateChanges actions).find? (fun other => other.identity = object.identity) = none := by
        rw [List.find?_eq_none]
        intro other changed same
        have one := List.inj_on_of_nodup_map distinct (merged.replaced other changed).1 member (by simpa using same)
        exact stored (one ▸ changed)
      rw [merged.found,absent,found]
      rfl

omit next call actions in
private theorem stateChanges_stored (stored : List StateObject) :
    stateChanges (stored.map (fun object => .stateChanged object .applied)) = stored := by
  induction stored with
  | nil => rfl
  | cons object stored ih => exact congrArg (object::·) ih

omit c next call actions in
private theorem stateChanges_append (first second : List Action) :
    stateChanges (first++second) = stateChanges first ++ stateChanges second := List.filterMap_append ..

omit c next call actions in
private theorem stateChanges_delivered (events : List Envelope) : stateChanges (events.map Action.deliverEvent) = [] := by
  simp [stateChanges,List.filterMap_map]

private theorem applyStateObjects_merged {objects : List StateObject}
    (distinct : (objects.map StateObject.identity).Nodup) (sound : CacheSound c.config c.stateObjects c.stateBytes)
    (applied : c.applyStateObjects objects = .ok (next,actions)) :
    CacheSound c.config next.stateObjects next.stateBytes ∧
      Merged c.stateObjects next.stateObjects objects (stateChanges actions) := by
  unfold Client.applyStateObjects at applied
  obtain ⟨cache,folded,same⟩ := bind_ok applied
  cases same
  obtain ⟨kept,stored,merged,reported⟩ := foldlM_merged distinct sound folded
  refine ⟨kept,?_⟩
  rw [reported,List.nil_append,stateChanges_stored]
  exact merged

omit next call actions in
private theorem CacheSound.empty (sound : CacheSound c.config c.stateObjects c.stateBytes) :
    CacheSound c.config ∅ 0 := by
  have positive : 0 ≤ cacheBytes c.stateObjects := by
    apply List.sum_nonneg
    intro size member
    obtain ⟨entry,_,rfl⟩ := List.mem_map.mp member
    unfold stateObjectBytes
    omega
  have size := sound.size
  have count := sound.count
  rw [sound.accounted] at size
  exact ⟨by simp,by simp,rfl,by omega,by simp only [AList.empty_entries,List.length_nil]; omega⟩

omit next call actions in
private theorem snapshot_objects {generation : ConnectionGeneration} {frame : Envelope} {payload : StateSnapshotPayload}
    (decoded : decodePayload readSnapshot {} frame.payload c.config.strictValidation = .ok payload) :
    ∀ other again read, Call.handleIncoming generation frame = .handleIncoming other again →
      again.type = .stateSnapshot →
      decodePayload readSnapshot {} again.payload c.config.strictValidation = .ok read →
      read.states = payload.states := by
  rintro _ _ read ⟨⟩ _ again
  rw [Except.ok.inj (again.symm.trans decoded)]

private theorem Transition.cache {now : Int} {result : Except Err (List Action)} (formed : c.WellFormed)
    (sound : CacheSound c.config c.stateObjects c.stateBytes) (transition : Transition c now call next result) :
    CacheSound next.config next.stateObjects next.stateBytes ∧
      ((c.sessionID ≠ [] → next.sessionID ≠ []) → CacheStep c call next (resultActions result)) := by
  cases transition with
  | retried ready =>
    refine ⟨sound,fun _ => .unchanged rfl ?_⟩
    simp only [stateChanges,resultActions,List.filterMap_filterMap,List.filterMap_eq_nil_iff]
    intro id _
    cases c.outbox.lookup id <;> rfl
  | replayed generation frame accepts continues last plain =>
    obtain ⟨lastSeq,eventIDs,same⟩ := commitEvents_frame (c.bufferEvent frame) (c.bufferEvent frame).replayBuffer
    rw [Client.completeRecovery,Client.commitReplay,same]
    refine ⟨sound,fun _ => .unchanged rfl ?_⟩
    simp only [resultActions,stateChanges_append,stateChanges_delivered]
    rfl
  | snapshotCompleted generation frame payload merged actions accepts completes applied =>
    obtain ⟨read,decoded,distinct⟩ := validateFrame_snapshot accepts.valid completes.snapshot
    obtain rfl : read = payload := Except.ok.inj (decoded.symm.trans completes.decoded)
    obtain ⟨kept,stored⟩ := applyStateObjects_merged distinct sound applied
    obtain ⟨objects,size,rfl⟩ := applyStateObjects_frame c _ _ _ applied
    obtain ⟨lastSeq,eventIDs,same⟩ := commitEvents_frame
      {c with stateObjects := objects, stateBytes := size} c.replayBuffer
    rw [Client.completeRecovery,Client.commitReplay,same]
    refine ⟨kept,fun _ => .merged distinct ?_ (snapshot_objects completes.decoded)⟩
    have reported : stateChanges (c.replayBuffer.map Action.deliverEvent ++ actions ++ [.sessionReady c.sessionID]) =
        stateChanges actions := by
      rw [stateChanges_append,stateChanges_append,stateChanges_delivered]
      exact List.append_nil _
    rw [resultActions,reported]
    exact stored
  | snapshotApplied generation frame payload merged actions accepts snapshot ready applied decoded =>
    obtain ⟨read,again,distinct⟩ := validateFrame_snapshot accepts.valid snapshot
    obtain rfl : read = payload := Except.ok.inj (again.symm.trans decoded)
    obtain ⟨kept,stored⟩ := applyStateObjects_merged distinct sound applied
    obtain ⟨objects,size,rfl⟩ := applyStateObjects_frame c _ _ _ applied
    exact ⟨kept,fun _ => .merged distinct stored (snapshot_objects decoded)⟩
  | updated generation frame payload merged actions accepts update ready applied =>
    have distinct : ([payload.state].map StateObject.identity).Nodup := List.nodup_singleton _
    obtain ⟨kept,stored⟩ := applyStateObjects_merged distinct sound applied
    obtain ⟨objects,size,rfl⟩ := applyStateObjects_frame c _ _ _ applied
    refine ⟨kept,fun _ => .merged distinct stored ?_⟩
    rintro _ _ _ ⟨⟩ snapshot
    rw [update] at snapshot
    cases snapshot
  | errorKept generation frame payload =>
    unfold Client.forgetQuery
    split
    · exact ⟨sound,fun _ => .unchanged rfl rfl⟩
    · exact ⟨sound,fun _ => .unchanged rfl rfl⟩
  | errorAbandoned generation frame payload tail accepts error decoded code reported =>
    refine ⟨sound.empty,fun kept => .unchanged ?_ ?_⟩
    · have unnamed : c.sessionID = [] := by
        by_contra held
        exact kept held rfl
      exact (formed.fresh unnamed).2.2.2.2.1.symm
    · cases reported <;> rfl
  | errorDropped generation frame payload tail accepts error reported =>
    refine ⟨sound,fun _ => .unchanged rfl ?_⟩
    cases reported <;> rfl
  | _ => exact ⟨sound,fun _ => .unchanged rfl rfl⟩

end Steps

private structure Client.CacheKept (c : Client) : Prop where
  formed : c.WellFormed
  replay : 0 ≤ c.config.maxReplayBytes
  sound : CacheSound c.config c.stateObjects c.stateBytes

private theorem Client.CacheKept.next {c next : Client} {now : Int} {call : Call} {result : Except Err (List Action)}
    (held : c.CacheKept) (transition : Transition c now call next result) : next.CacheKept where
  formed := transition.wellFormed held.formed held.replay
  replay := by rw [transition.config]; exact held.replay
  sound := (transition.cache held.formed held.sound).1

private theorem newClientProtocol_cache {config : ClientConfig} {initial : Client}
    (created : newClientProtocol config = .ok initial) : initial.CacheKept := by
  obtain ⟨same,replay,objects,bytes⟩ := newClientProtocol_fresh config initial created
  refine ⟨newClientProtocol_wellFormed config initial created,replay,?_⟩
  rw [same] at objects bytes ⊢
  exact ⟨by simp,by simp,rfl,bytes,objects⟩

private theorem Client.CacheKept.grows {c : Client} (held : c.CacheKept) (later : List (Int × Call))
    (session : ∀ front, front <+: later → (c.run front).sessionID = c.sessionID) (id : StateIdentity) (old : StateObject)
    (found : c.stateObjects.lookup id = some old) :
    ∃ new, (c.run later).stateObjects.lookup id = some new ∧ (new = old ∨ old.version < new.version) := by
  induction later generalizing c old with
  | nil => exact ⟨old,found,.inl rfl⟩
  | cons call later ih =>
    have transition := c.step_transition call.1 call.2
    have same : (c.step call.1 call.2).1.sessionID = c.sessionID :=
      session [call] (List.prefix_cons_inj call |>.mpr List.nil_prefix)
    have step := (transition.cache held.formed held.sound).2 (fun named => by rw [same]; exact named)
    obtain ⟨middle,kept,first⟩ := step.grows id old found
    obtain ⟨new,last,second⟩ := ih (held.next transition)
      (fun front fits => (session (call::front) ((List.prefix_cons_inj call).mpr fits)).trans same.symm) middle kept
    refine ⟨new,last,?_⟩
    rcases first with rfl | first
    · exact second
    · rcases second with rfl | second
      · exact .inr first
      · exact .inr (UInt64.lt_trans first second)

/-- The cache of a reachable client is sound, each call that keeps the session is a cache step, and while the
session lasts versions do not decrease and an object does not change at its version. -/
theorem Client.run_cache (config : ClientConfig) (initial : Client) (calls : List (Int × Call))
    (created : newClientProtocol config = .ok initial) (c : Client) (reached : c = initial.run calls) :
    CacheSound c.config c.stateObjects c.stateBytes ∧
      (∀ now call, (c.sessionID ≠ [] → (c.step now call).1.sessionID ≠ []) →
        CacheStep c call (c.step now call).1 (resultActions (c.step now call).2)) ∧
      ∀ later, (∀ front, front <+: later → (c.run front).sessionID = c.sessionID) →
        ∀ id old, c.stateObjects.lookup id = some old →
          ∃ new, (c.run later).stateObjects.lookup id = some new ∧ old.version ≤ new.version ∧
            (new.version = old.version → new = old) := by
  subst reached
  have held : (initial.run calls).CacheKept :=
    Client.run_induction Client.CacheKept (fun _ _ _ _ _ held transition => held.next transition) initial calls
      (newClientProtocol_cache created)
  refine ⟨held.sound,fun now call kept => ?_,fun later session id old found => ?_⟩
  · exact ((Client.step_transition _ now call).cache held.formed held.sound).2 kept
  · obtain ⟨new,last,rfl | above⟩ := held.grows later session id old found
    · exact ⟨new,last,UInt64.le_refl _,fun _ => rfl⟩
    · exact ⟨new,last,UInt64.le_of_lt above,fun same => absurd above (by rw [same]; exact UInt64.lt_irrefl _)⟩

def stateSyncOffer : List CapabilityOffer := [{name := capabilityStateSync, versions := [capabilityStateSyncVersion]}]

def stateUpdate (version : UInt64) : Int × Call :=
  let object : StateObject := {namespace_ := lit "n", objectID := lit "o", version := version, data := lit "[1]"}
  (0,.handleIncoming 1 {type := .stateUpdate, id := lit "u", sessionID := lit "s",
                        payload := (StateUpdatePayload.marshal {state := object}).getD []})

def stateSyncCalls : List (Int × Call) :=
  let accepted : List NegotiatedCapability := [{name := capabilityStateSync, version := capabilityStateSyncVersion}]
  [(0,.beginConnect),(0,.transportConnected 1),(0,.startSession 1 (lit "app")),
   (0,.handleIncoming 1 {type := .welcome, sessionID := lit "s",
                         payload := WelcomePayload.marshal {mode := welcomeModeNew, acceptedCapabilities := accepted}})]

theorem Client.run_cache_update :
    newClientProtocol {capabilities := stateSyncOffer} = .ok {config := {capabilities := stateSyncOffer}} ∧
      ∃ c : Client, c = Client.run {config := {capabilities := stateSyncOffer}} (stateSyncCalls++[stateUpdate 3]) ∧
        c.stateObjects.entries.length = 1 ∧
        CacheStep c (stateUpdate 4).2 (c.step 0 (stateUpdate 4).2).1
          (resultActions (c.step 0 (stateUpdate 4).2).2) ∧
        (stateChanges (resultActions (c.step 0 (stateUpdate 4).2).2)).length = 1 := by
  refine ⟨rfl,_,rfl,by decide +kernel,?_,by decide +kernel⟩
  refine (Client.run_cache {capabilities := stateSyncOffer} _ _ rfl _ rfl).2.1 0 (stateUpdate 4).2 (fun _ => ?_)
  decide +kernel

end Kmtproto
