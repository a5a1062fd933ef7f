import Kmtproto.ClientCache

/-! The order of a snapshot. Limits are checked against running totals, so whether a
batch that fits is accepted in every order depends on how far its growth alone,
without what smaller replacements free, would take the cache. -/
namespace Kmtproto
open Json

section Sums
variable {α : Type} (weight : α → Int)

private theorem sum_le_positive (items : List α) : (items.map weight).sum ≤ (items.map (fun item => max 0 (weight item))).sum := by
  induction items with
  | nil => simp
  | cons item items ih =>
    simp only [List.map_cons,List.sum_cons]
    omega

private theorem positive_nonneg (items : List α) : 0 ≤ (items.map (fun item => max 0 (weight item))).sum := by
  apply List.sum_nonneg
  intro size member
  obtain ⟨item,_,rfl⟩ := List.mem_map.mp member
  exact le_max_left _ _

private theorem sum_filter_positive (items : List α) :
    ((items.filter (fun item => 0 < weight item)).map weight).sum = (items.map (fun item => max 0 (weight item))).sum := by
  induction items with
  | nil => rfl
  | cons item items ih =>
    by_cases grows : 0 < weight item
    · rw [List.filter_cons_of_pos (by simpa using grows)]
      simp only [List.map_cons,List.sum_cons,ih]
      omega
    · rw [List.filter_cons_of_neg (by simpa using grows)]
      simp only [List.map_cons,List.sum_cons,ih]
      omega

/-- The running totals of all orders stay below a bound exactly when the positive weights alone do. -/
theorem running_totals (items : List α) (start bound : Int) :
    (∀ order, order.Perm items → ∀ early, early <+: order → start + (early.map weight).sum ≤ bound) ↔
      start + (items.map (fun item => max 0 (weight item))).sum ≤ bound := by
  constructor
  · intro every
    -- the items that grow come first
    have order := List.filter_append_perm (fun item => decide (0 < weight item)) items
    have total := every _ order _ (List.prefix_append _ _)
    rw [sum_filter_positive] at total
    exact total
  · intro fits order same early begins
    obtain ⟨late,rfl⟩ := begins
    have whole : ((early++late).map (fun item => max 0 (weight item))).sum =
        (items.map (fun item => max 0 (weight item))).sum := (same.map _).sum_eq
    rw [List.map_append,List.sum_append] at whole
    have first := sum_le_positive weight early
    have rest := positive_nonneg weight late
    omega

end Sums

def growth (objects : StateObjects) (object : StateObject) : Int :=
  if newer objects object then
    stateObjectBytes object - (match objects.lookup object.identity with | some current => stateObjectBytes current | none => 0)
  else 0

def added (objects : StateObjects) (object : StateObject) : Int :=
  if (objects.lookup object.identity).isNone then 1 else 0

def store (objects : StateObjects) (object : StateObject) : StateObjects :=
  if newer objects object then objects.insert object.identity object else objects

def resulting (objects : StateObjects) (incoming : List StateObject) : StateObjects := incoming.foldl store objects

structure FitsCache (config : ClientConfig) (objects : StateObjects) : Prop where
  count : (objects.entries.length : Int) ≤ config.maxStateObjects
  size : cacheBytes objects ≤ config.maxStateBytes

/-- Valid objects of distinct identities, none of them stale or in conflict with the cache. -/
structure Mergeable (config : ClientConfig) (objects : StateObjects) (incoming : List StateObject) : Prop where
  valid : ∀ object ∈ incoming, validateStateObject object config.limits = .ok ()
  distinct : (incoming.map StateObject.identity).Nodup
  compatible : ∀ object ∈ incoming, newer objects object = true ∨
    ∃ current, objects.lookup object.identity = some current ∧ current.version = object.version ∧
      equalStateData current.data object.data = .ok true

section Store
variable {config : ClientConfig} {objects : StateObjects} {object other : StateObject} {incoming : List StateObject}

private theorem newer_absent (absent : objects.lookup object.identity = none) : newer objects object = true := by
  rw [newer,absent]
  rfl

private theorem store_lookup (apart : other.identity ≠ object.identity) :
    (store objects object).lookup other.identity = objects.lookup other.identity := by
  unfold store
  split
  · exact AList.lookup_insert_ne apart
  · rfl

private theorem store_own : (store objects object).lookup object.identity =
    if newer objects object then some object else objects.lookup object.identity := by
  unfold store
  split
  · exact AList.lookup_insert _
  · rfl

private theorem store_newer (apart : other.identity ≠ object.identity) :
    newer (store objects object) other = newer objects other := by rw [newer,newer,store_lookup apart]

private theorem store_growth (apart : other.identity ≠ object.identity) :
    growth (store objects object) other = growth objects other := by
  rw [growth,growth,store_newer apart,store_lookup apart]

private theorem store_added (apart : other.identity ≠ object.identity) :
    added (store objects object) other = added objects other := by rw [added,added,store_lookup apart]

private theorem store_size : cacheBytes (store objects object) = cacheBytes objects + growth objects object := by
  unfold store growth
  split
  · rw [cacheBytes_insert]
    cases objects.lookup object.identity <;> simp only [] <;> omega
  · omega

private theorem store_count : ((store objects object).entries.length : Int) = objects.entries.length + added objects object := by
  unfold store added
  split
  · rw [insert_length]
    split <;> simp
  · rename_i older
    cases found : objects.lookup object.identity with
    | none => exact absurd (newer_absent found) older
    | some current => simp

private theorem added_nonneg (objects : StateObjects) (object : StateObject) : 0 ≤ added objects object := by
  unfold added
  split <;> omega

private theorem apart_of_distinct (distinct : ((object::incoming).map StateObject.identity).Nodup) :
    ∀ other ∈ incoming, other.identity ≠ object.identity := by
  intro other member same
  exact (List.nodup_cons.mp distinct).1 (List.mem_map.mpr ⟨other,member,same⟩)

private theorem Mergeable.later (mergeable : Mergeable config objects (object::incoming)) :
    Mergeable config (store objects object) incoming := by
  have apart := apart_of_distinct mergeable.distinct
  refine ⟨fun other member => mergeable.valid other (by simp [member]),(List.nodup_cons.mp mergeable.distinct).2,?_⟩
  intro other member
  rw [store_newer (apart other member),store_lookup (apart other member)]
  exact mergeable.compatible other (by simp [member])

private theorem sums_later (objects : StateObjects) (distinct : ((object::incoming).map StateObject.identity).Nodup) {early : List StateObject}
    (known : ∀ other ∈ early, other ∈ incoming) :
    early.map (growth (store objects object)) = early.map (growth objects) ∧
      early.map (added (store objects object)) = early.map (added objects) := by
  have apart := apart_of_distinct distinct
  exact ⟨List.map_congr_left (fun other member => store_growth (apart other (known other member))),
    List.map_congr_left (fun other member => store_added (apart other (known other member)))⟩

private theorem resulting_totals (objects : StateObjects) (distinct : (incoming.map StateObject.identity).Nodup) :
    cacheBytes (resulting objects incoming) = cacheBytes objects + (incoming.map (growth objects)).sum ∧
      ((resulting objects incoming).entries.length : Int) = objects.entries.length + (incoming.map (added objects)).sum := by
  induction incoming generalizing objects with
  | nil => simp [resulting]
  | cons object incoming ih =>
    have same := sums_later objects distinct (fun _ member => member)
    obtain ⟨size,count⟩ := ih (store objects object) (List.nodup_cons.mp distinct).2
    rw [same.1,store_size] at size
    rw [same.2,store_count] at count
    simp only [resulting,List.foldl_cons,List.map_cons,List.sum_cons] at size count ⊢
    omega

private theorem resulting_other (objects : StateObjects) (id : StateIdentity) (absent : id ∉ incoming.map StateObject.identity) :
    (resulting objects incoming).lookup id = objects.lookup id := by
  induction incoming generalizing objects with
  | nil => rfl
  | cons object incoming ih =>
    simp only [List.map_cons,List.mem_cons,not_or] at absent
    have rest := ih (store objects object) absent.2
    rw [resulting,List.foldl_cons,← resulting,rest]
    unfold store
    split
    · exact AList.lookup_insert_ne absent.1
    · rfl

private theorem resulting_member (objects : StateObjects) (distinct : (incoming.map StateObject.identity).Nodup)
    (member : object ∈ incoming) :
    (resulting objects incoming).lookup object.identity = (store objects object).lookup object.identity := by
  induction incoming generalizing objects with
  | nil => cases member
  | cons first incoming ih =>
    rw [resulting,List.foldl_cons,← resulting]
    rcases List.mem_cons.mp member with rfl | later
    · exact resulting_other _ _ (List.nodup_cons.mp distinct).1
    · have apart := apart_of_distinct distinct object later
      rw [ih (store objects first) (List.nodup_cons.mp distinct).2 later,store_own,store_own,store_newer apart,
        store_lookup apart]

private theorem resulting_perm {order : List StateObject} (distinct : (incoming.map StateObject.identity).Nodup)
    (same : order.Perm incoming) (id : StateIdentity) :
    (resulting objects order).lookup id = (resulting objects incoming).lookup id := by
  have distinct' : (order.map StateObject.identity).Nodup := (same.map _).nodup_iff.mpr distinct
  by_cases known : id ∈ incoming.map StateObject.identity
  · obtain ⟨object,member,rfl⟩ := List.mem_map.mp known
    rw [resulting_member objects distinct member,resulting_member objects distinct' (same.mem_iff.mpr member)]
  · rw [resulting_other objects id known,resulting_other objects id (fun found => known ((same.map _).mem_iff.mp found))]

end Store

section Accept
variable {config : ClientConfig} {cache : StateCache} {object : StateObject} {incoming : List StateObject}

private theorem apply_accepts (sound : CacheSound config cache.objects cache.bytes)
    (valid : validateStateObject object config.limits = .ok ())
    (compatible : newer cache.objects object = true ∨
      ∃ current, cache.objects.lookup object.identity = some current ∧ current.version = object.version ∧
        equalStateData current.data object.data = .ok true) :
    if (cache.objects.entries.length : Int) + added cache.objects object ≤ config.maxStateObjects ∧
        cache.bytes + growth cache.objects object ≤ config.maxStateBytes then
      ∃ next, StateCache.apply config cache object = .ok next ∧ next.objects = store cache.objects object ∧
        next.bytes = cache.bytes + growth cache.objects object
    else ∃ error, StateCache.apply config cache object = .error error := by
  have count := sound.count
  have size := sound.size
  cases found : cache.objects.lookup object.identity with
  | none =>
    have replaces := newer_absent found
    have applied : applyStateObject none object config.limits = .ok (object,.applied) := by
      simp only [applyStateObject,valid,bind,Except.bind]
      rfl
    simp only [StateCache.apply,added,growth,store,replaces,found,applied,Option.isNone_none,if_true,true_and,
      reduceCtorEq,if_false]
    split
    · rename_i fits
      rw [if_neg (by omega),if_neg (by omega)]
      exact ⟨_,rfl,rfl,by simp only []; omega⟩
    · rename_i exceeds
      split
      · exact ⟨_,rfl⟩
      · rw [if_pos (by omega)]
        exact ⟨_,rfl⟩
  | some current =>
    have keyed := sound.keyed _ _ found
    have valid' := sound.valid _ _ found
    rcases compatible with replaces | ⟨other,again,version,equal⟩
    · have later : object.version > current.version := by simpa [newer,found] using replaces
      have applied : applyStateObject (some current) object config.limits = .ok (object,.applied) := by
        simp only [applyStateObject,valid,valid',keyed,later,bind,Except.bind,ne_eq,not_true,if_false,if_true]
        rfl
      simp only [StateCache.apply,added,growth,store,replaces,found,applied,Option.isNone_some,if_true,
        Bool.false_eq_true,false_and,reduceCtorEq,if_false]
      split
      · rename_i fits
        rw [if_neg (by omega)]
        exact ⟨_,rfl,rfl,by simp only []; omega⟩
      · rename_i exceeds
        rw [if_pos (by omega)]
        exact ⟨_,rfl⟩
    · obtain rfl : current = other := Option.some.inj (found.symm.trans again)
      have kept : newer cache.objects object = false := by simp [newer,found,version]
      have applied : applyStateObject (some current) object config.limits = .ok (current,.duplicate) := by
        simp only [applyStateObject,valid,valid',keyed,version,equal,bind,Except.bind,ne_eq,not_true,if_false,gt_iff_lt,
          UInt64.lt_irrefl]
        rfl
      simp only [StateCache.apply,added,growth,store,kept,found,applied,Option.isNone_some,Bool.false_eq_true,if_false,
        if_true]
      rw [if_pos ⟨by omega,by omega⟩]
      exact ⟨cache,rfl,rfl,by omega⟩

private theorem foldlM_accepts (cache : StateCache) (sound : CacheSound config cache.objects cache.bytes)
    (mergeable : Mergeable config cache.objects incoming) :
    (∃ next, incoming.foldlM (StateCache.apply config) cache = .ok next) ↔
      (cache.objects.entries.length : Int) + (incoming.map (added cache.objects)).sum ≤ config.maxStateObjects ∧
      ∀ early, early <+: incoming → cache.bytes + (early.map (growth cache.objects)).sum ≤ config.maxStateBytes := by
  have count := sound.count
  have size := sound.size
  induction incoming generalizing cache with
  | nil =>
    refine ⟨fun _ => ⟨by simpa using count,?_⟩,fun _ => ⟨cache,rfl⟩⟩
    intro early begins
    rw [List.prefix_nil.mp begins]
    simpa using size
  | cons object incoming ih =>
    have step := apply_accepts sound (mergeable.valid object (by simp)) (mergeable.compatible object (by simp))
    have later : 0 ≤ (incoming.map (added cache.objects)).sum := by
      apply List.sum_nonneg
      intro one member
      obtain ⟨other,_,rfl⟩ := List.mem_map.mp member
      exact added_nonneg _ _
    split at step
    · rename_i fits
      obtain ⟨next,applied,stored,bytes⟩ := step
      have kept := (StateCache.apply_merges applied).sound sound
      have rest := ih next kept (stored ▸ mergeable.later) kept.count kept.size
      rw [List.foldlM_cons,applied]
      refine rest.trans ?_
      rw [stored,store_count,bytes,(sums_later cache.objects mergeable.distinct (fun _ member => member)).2]
      simp only [List.map_cons,List.sum_cons]
      refine and_congr (by omega) ⟨fun all early begins => ?_,fun all early begins => ?_⟩
      · rcases early with _ | ⟨first,early⟩
        · simpa using size
        obtain ⟨rfl,shorter⟩ := List.cons_prefix_cons.mp begins
        have total := all early shorter
        rw [(sums_later cache.objects mergeable.distinct (fun _ member => shorter.subset member)).1] at total
        simp only [List.map_cons,List.sum_cons]
        omega
      · have total := all (object::early) (List.cons_prefix_cons.mpr ⟨rfl,begins⟩)
        rw [(sums_later cache.objects mergeable.distinct (fun _ member => begins.subset member)).1]
        simp only [List.map_cons,List.sum_cons] at total
        omega
    · rename_i exceeds
      obtain ⟨error,refused⟩ := step
      rw [List.foldlM_cons,refused]
      constructor
      · rintro ⟨_,ok⟩
        cases ok
      · rintro ⟨total,all⟩
        have first := all [object] (List.cons_prefix_cons.mpr ⟨rfl,List.nil_prefix⟩)
        simp only [List.map_cons,List.map_nil,List.sum_cons,List.sum_nil] at first total
        exact absurd ⟨by omega,by omega⟩ exceeds

private theorem foldlM_resulting {next : StateCache} (sound : CacheSound config cache.objects cache.bytes)
    (mergeable : Mergeable config cache.objects incoming)
    (accepted : incoming.foldlM (StateCache.apply config) cache = .ok next) :
    next.objects = resulting cache.objects incoming := by
  induction incoming generalizing cache with
  | nil =>
    cases accepted
    rfl
  | cons object incoming ih =>
    obtain ⟨middle,first,accepted⟩ := bind_ok accepted
    have step := apply_accepts sound (mergeable.valid object (by simp)) (mergeable.compatible object (by simp))
    split at step
    · obtain ⟨stored,applied,objects,_⟩ := step
      obtain rfl : middle = stored := Except.ok.inj (first.symm.trans applied)
      rw [ih ((StateCache.apply_merges applied).sound sound) (objects ▸ mergeable.later) accepted,objects]
      rfl
    · obtain ⟨error,refused⟩ := step
      rw [refused] at first
      cases first

end Accept

section Order
variable {c : Client} {objects order : List StateObject}

private theorem Mergeable.perm {config : ClientConfig} {cached : StateObjects} (mergeable : Mergeable config cached objects)
    (same : order.Perm objects) : Mergeable config cached order :=
  ⟨fun object member => mergeable.valid object (same.mem_iff.mp member),
    (same.map _).nodup_iff.mpr mergeable.distinct,
    fun object member => mergeable.compatible object (same.mem_iff.mp member)⟩

private theorem applyStateObjects_accepts (sound : CacheSound c.config c.stateObjects c.stateBytes)
    (mergeable : Mergeable c.config c.stateObjects objects) :
    (∃ outcome, c.applyStateObjects objects = .ok outcome) ↔
      ((resulting c.stateObjects objects).entries.length : Int) ≤ c.config.maxStateObjects ∧
      ∀ early, early <+: objects → c.stateBytes + (early.map (growth c.stateObjects)).sum ≤ c.config.maxStateBytes := by
  rw [(resulting_totals c.stateObjects mergeable.distinct).2]
  refine Iff.trans ?_ (foldlM_accepts ⟨c.stateObjects,c.stateBytes,[]⟩ sound mergeable)
  unfold Client.applyStateObjects
  constructor
  · rintro ⟨outcome,ok⟩
    obtain ⟨next,folded,_⟩ := bind_ok ok
    exact ⟨next,folded⟩
  · rintro ⟨next,folded⟩
    rw [folded]
    exact ⟨_,rfl⟩

/-- A batch is accepted in every order exactly as far as it fits, if and only if it does
not fit or its growth alone stays within the byte limit; the cache it leaves does not
depend on the order. -/
theorem acceptance_of_every_order (sound : CacheSound c.config c.stateObjects c.stateBytes)
    (mergeable : Mergeable c.config c.stateObjects objects) :
    ((∀ order, order.Perm objects → ((∃ outcome, c.applyStateObjects order = .ok outcome) ↔
        FitsCache c.config (resulting c.stateObjects objects))) ↔
      (¬ FitsCache c.config (resulting c.stateObjects objects) ∨
        c.stateBytes + (objects.map (fun object => max 0 (growth c.stateObjects object))).sum ≤
          c.config.maxStateBytes)) ∧
    ∀ order next actions, order.Perm objects → c.applyStateObjects order = .ok (next,actions) →
      FitsCache c.config (resulting c.stateObjects objects) ∧
      (∀ id, next.stateObjects.lookup id = (resulting c.stateObjects objects).lookup id) ∧
      next.stateBytes = cacheBytes (resulting c.stateObjects objects) := by
  have totals := resulting_totals c.stateObjects mergeable.distinct
  have counts (order : List StateObject) (same : order.Perm objects) :
      ((resulting c.stateObjects order).entries.length : Int) = (resulting c.stateObjects objects).entries.length ∧
      cacheBytes (resulting c.stateObjects order) = cacheBytes (resulting c.stateObjects objects) := by
    have others := resulting_totals c.stateObjects (mergeable.perm same).distinct
    rw [others.1,others.2,totals.1,totals.2,(same.map _).sum_eq,(same.map _).sum_eq]
    exact ⟨rfl,rfl⟩
  have accepts (order : List StateObject) (same : order.Perm objects) := applyStateObjects_accepts sound (mergeable.perm same)
  have sufficient (order : List StateObject) (same : order.Perm objects)
      (accepted : ∃ outcome, c.applyStateObjects order = .ok outcome) :
      FitsCache c.config (resulting c.stateObjects objects) := by
    obtain ⟨count,size⟩ := (accepts order same).mp accepted
    have whole := size order List.prefix_rfl
    rw [(counts order same).1] at count
    refine ⟨count,?_⟩
    rw [totals.1,← sound.accounted,← (same.map _).sum_eq]
    exact whole
  refine ⟨?_,?_⟩
  · rw [← running_totals (growth c.stateObjects) objects]
    constructor
    · intro every
      by_cases fits : FitsCache c.config (resulting c.stateObjects objects)
      · exact .inr (fun order same => ((accepts order same).mp ((every order same).mpr fits)).2)
      · exact .inl fits
    · rintro (exceeds | bounded) order same
      · exact ⟨fun accepted => absurd (sufficient order same accepted) exceeds,fun fits => absurd fits exceeds⟩
      · refine ⟨sufficient order same,fun fits => (accepts order same).mpr ⟨?_,bounded order same⟩⟩
        rw [(counts order same).1]
        exact fits.count
  · intro order next actions same applied
    have fits := sufficient order same ⟨_,applied⟩
    unfold Client.applyStateObjects at applied
    obtain ⟨cache,folded,made⟩ := bind_ok applied
    cases made
    have left := foldlM_resulting sound (mergeable.perm same) folded
    have kept := (foldlM_merged (mergeable.perm same).distinct sound folded).1
    refine ⟨fits,fun id => ?_,?_⟩
    · rw [left]
      exact resulting_perm mergeable.distinct same id
    · rw [kept.accounted,left]
      exact (counts order same).2

end Order

private def cell (id : String) (version : UInt64) (data : String) : StateObject :=
  ⟨lit "a",lit id,version,lit data⟩

private def fullClient : Client where
  config := {maxStateObjects := 2, maxStateBytes := 23}
  state := .ready
  stateObjects := ((∅ : StateObjects).insert (cell "y" 1 "11").identity (cell "y" 1 "11")).insert
    (cell "x" 1 "1").identity (cell "x" 1 "1")
  stateBytes := 23

private theorem fullClient_sound : CacheSound fullClient.config fullClient.stateObjects fullClient.stateBytes := by
  have entries : fullClient.stateObjects.entries =
      [⟨(cell "x" 1 "1").identity,cell "x" 1 "1"⟩,⟨(cell "y" 1 "11").identity,cell "y" 1 "11"⟩] := by decide +kernel
  have cases (id : StateIdentity) (object : StateObject) (found : fullClient.stateObjects.lookup id = some object) :
      (id = object.identity) ∧ (object = cell "x" 1 "1" ∨ object = cell "y" 1 "11") := by
    have member := AList.mem_lookup_iff.mp found
    rw [entries] at member
    rcases List.mem_cons.mp member with same | member
    · cases same
      exact ⟨rfl,.inl rfl⟩
    · cases List.mem_singleton.mp member
      exact ⟨rfl,.inr rfl⟩
  refine ⟨fun id object found => (cases id object found).1.symm,fun id object found => ?_,by decide +kernel,by decide,
    by decide +kernel⟩
  rcases (cases id object found).2 with rfl | rfl <;> decide +kernel

private def exchange : List StateObject := [cell "x" 2 "11",cell "y" 2 "1"]

private theorem mergeable_of_newer {config : ClientConfig} {cached : StateObjects} {objects : List StateObject}
    (distinct : (objects.map StateObject.identity).Nodup)
    (checked : objects.all (fun object => decide (validateStateObject object config.limits = .ok ()) && newer cached object) = true) :
    Mergeable config cached objects := by
  have each := List.all_eq_true.mp checked
  simp only [Bool.and_eq_true,decide_eq_true_eq] at each
  exact ⟨fun object member => (each object member).1,distinct,fun object member => .inl (each object member).2⟩

/-- A batch that fits is refused in one order and accepted in the other. -/
theorem exchange_depends_on_order :
    CacheSound fullClient.config fullClient.stateObjects fullClient.stateBytes ∧
    Mergeable fullClient.config fullClient.stateObjects exchange ∧
    FitsCache fullClient.config (resulting fullClient.stateObjects exchange) ∧
    (¬ ∃ outcome, fullClient.applyStateObjects exchange = .ok outcome) ∧
    ∃ outcome, fullClient.applyStateObjects exchange.reverse = .ok outcome := by
  have distinct : (exchange.map StateObject.identity).Nodup := by decide
  refine ⟨fullClient_sound,mergeable_of_newer distinct (by decide +kernel),⟨by decide +kernel,by decide +kernel⟩,?_,?_⟩
  · rintro ⟨outcome,ok⟩
    have refused : (fullClient.applyStateObjects exchange).isOk = false := by decide +kernel
    rw [ok] at refused
    cases refused
  · have accepted : (fullClient.applyStateObjects exchange.reverse).isOk = true := by decide +kernel
    cases ok : fullClient.applyStateObjects exchange.reverse with
    | error error => rw [ok] at accepted; cases accepted
    | ok outcome => exact ⟨outcome,rfl⟩

/-- Two objects of a full cache replaced by objects of their size. -/
theorem acceptance_of_every_order_replaced :
    (∃ outcome, fullClient.applyStateObjects [cell "y" 2 "22",cell "x" 2 "2"] = .ok outcome) ↔
      FitsCache fullClient.config (resulting fullClient.stateObjects [cell "x" 2 "2",cell "y" 2 "22"]) :=
  (acceptance_of_every_order fullClient_sound (mergeable_of_newer (by decide) (by decide +kernel))).1.mpr
    (.inr (by decide +kernel)) _ (.swap _ _ _)

end Kmtproto
