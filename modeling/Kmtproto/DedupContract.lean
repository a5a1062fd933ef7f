import Kmtproto.Store
import Kmtproto.Interaction.Pool

/-! The contract of the deduplication store. Each SEND identity is a timed state
machine of its own: a claim binds it until it is aborted or its completion has
expired, and a refused claim returns what the identity is bound to. -/
namespace Kmtproto
open Json Interaction

structure SendIdentity where
  sessionID : Bytes
  msgID : Bytes
  deriving DecidableEq, Repr

def SendIdentity.key (id : SendIdentity) : Bytes := dedupKey id.sessionID id.msgID

/-- Neither part of the identity has a NUL byte. -/
def SendIdentity.Plain (id : SendIdentity) : Prop := 0 ∉ id.sessionID ∧ 0 ∉ id.msgID

theorem SendIdentity.key_inj {id other : SendIdentity} (plain : id.Plain) (plainOther : other.Plain)
    (same : id.key = other.key) : id = other := by
  obtain ⟨sessionID,msgID⟩ := dedupKey_inj plain.1 plainOther.1 same
  cases id
  cases other
  subst sessionID msgID
  rfl

inductive DedupOp where
  | claim (fingerprint : SendFingerprint) (now : Int)
  | complete (ack : Envelope) (now : Int)
  | abort
  deriving DecidableEq, Repr

inductive DedupOutcome where
  | claimed
  | refused (record : DedupRecord)
  | completed
  | failed (error : Err)
  | aborted
  deriving DecidableEq

def MemoryDedupStore.perform (store : MemoryDedupStore) (id : SendIdentity) : DedupOp → MemoryDedupStore × DedupOutcome
  | .claim fingerprint now =>
    match store.claim id.sessionID id.msgID fingerprint now with
    | ((_,some record),next) => (next,.refused record)
    | ((_,none),next) => (next,.claimed)
  | .complete ack now =>
    match store.complete id.sessionID id.msgID ack now with
    | .ok next => (next,.completed)
    | .error error => (store,.failed error)
  | .abort => (store.abort id.sessionID id.msgID,.aborted)

def MemoryDedupStore.entry (store : MemoryDedupStore) (id : SendIdentity) : Option MemoryDedupEntry :=
  store.records.lookup id.key

structure DedupStep where
  before : MemoryDedupStore
  id : SendIdentity
  op : DedupOp
  outcome : DedupOutcome

def MemoryDedupStore.after (store : MemoryDedupStore) (ops : List (SendIdentity × DedupOp)) : MemoryDedupStore :=
  ops.foldl (fun store call => (store.perform call.1 call.2).1) store

def MemoryDedupStore.steps (store : MemoryDedupStore) : List (SendIdentity × DedupOp) → List DedupStep
  | [] => []
  | call::calls =>
    ⟨store,call.1,call.2,(store.perform call.1 call.2).2⟩::steps (store.perform call.1 call.2).1 calls

def DedupStep.Claims (step : DedupStep) (id : SendIdentity) (fingerprint : SendFingerprint) (now : Int) : Prop :=
  step.id = id ∧ step.op = .claim fingerprint now ∧ step.outcome = .claimed

def DedupStep.Completes (step : DedupStep) (id : SendIdentity) (ack : Envelope) (now : Int) : Prop :=
  step.id = id ∧ step.op = .complete ack now ∧ step.outcome = .completed

/-- An abort of the identity while it was PROCESSING. -/
def DedupStep.Aborts (step : DedupStep) (id : SendIdentity) : Prop :=
  step.id = id ∧ step.op = .abort ∧ ∃ entry, step.before.entry id = some entry ∧ entry.record.state = .processing

@[simp] theorem MemoryDedupStore.entry_insert (ttl : Int) (records : AList (fun _ : Bytes => MemoryDedupEntry))
    (id : SendIdentity) (entry : MemoryDedupEntry) :
    MemoryDedupStore.entry ⟨ttl,records.insert (dedupKey id.sessionID id.msgID) entry⟩ id = some entry :=
  AList.lookup_insert _

@[simp] theorem MemoryDedupStore.entry_erase (ttl : Int) (records : AList (fun _ : Bytes => MemoryDedupEntry))
    (id : SendIdentity) : MemoryDedupStore.entry ⟨ttl,records.erase (dedupKey id.sessionID id.msgID)⟩ id = none :=
  AList.lookup_erase _ _

section Calls
variable (store : MemoryDedupStore) (id : SendIdentity)

inductive Rebinds (ttl : Int) (found : Option MemoryDedupEntry) : DedupOp → Option MemoryDedupEntry → DedupOutcome → Prop
  | claimed (fingerprint : SendFingerprint) (now : Int)
      (free : ∀ entry ∈ found, entry.record.state = .completed ∧ entry.expiresAt ≤ now) :
      Rebinds ttl found (.claim fingerprint now)
        (some ⟨{state := .processing, fingerprint := fingerprint},now+ttl⟩) .claimed
  | refused (fingerprint : SendFingerprint) (now : Int) (entry : MemoryDedupEntry) (held : found = some entry)
      (holds : entry.holds now = true) :
      Rebinds ttl found (.claim fingerprint now) found (.refused entry.record)
  | completed (ack : Envelope) (now : Int) (entry : MemoryDedupEntry) (held : found = some entry)
      (processing : entry.record.state = .processing) :
      Rebinds ttl found (.complete ack now)
        (some ⟨{state := .completed, fingerprint := entry.record.fingerprint, ack := some ack},now+ttl⟩) .completed
  | failed (ack : Envelope) (now : Int) (error : Err)
      (other : ∀ entry ∈ found, entry.record.state ≠ .processing) :
      Rebinds ttl found (.complete ack now) found (.failed error)
  | aborted (entry : MemoryDedupEntry) (held : found = some entry) (processing : entry.record.state = .processing) :
      Rebinds ttl found .abort none .aborted
  | spared (other : ∀ entry ∈ found, entry.record.state ≠ .processing) : Rebinds ttl found .abort found .aborted

structure Performed (next : MemoryDedupStore) (op : DedupOp) (outcome : DedupOutcome) : Prop where
  rebinds : Rebinds store.ttl (store.entry id) op (next.entry id) outcome
  ttl : next.ttl = store.ttl
  others : ∀ other : SendIdentity, other.key ≠ id.key → next.entry other = store.entry other

private theorem claim_performed (fingerprint : SendFingerprint) (now : Int) :
    Performed store id (store.perform id (.claim fingerprint now)).1 (.claim fingerprint now)
      (store.perform id (.claim fingerprint now)).2 := by
  rcases store.claim_cases id.sessionID id.msgID fingerprint now with ⟨done,free⟩ | ⟨entry,found,done⟩
  · simp only [MemoryDedupStore.perform,done]
    refine ⟨?_,rfl,fun other different => AList.lookup_insert_ne different⟩
    rw [MemoryDedupStore.entry_insert]
    exact .claimed fingerprint now free
  · have holds : entry.holds now = true := by
      by_contra expired
      unfold MemoryDedupStore.claim at done
      simp only [found] at done
      rw [if_neg expired] at done
      cases done
    simp only [MemoryDedupStore.perform,done]
    exact ⟨.refused fingerprint now entry found holds,rfl,fun _ _ => rfl⟩

private theorem complete_performed (ack : Envelope) (now : Int) :
    Performed store id (store.perform id (.complete ack now)).1 (.complete ack now)
      (store.perform id (.complete ack now)).2 := by
  cases done : store.complete id.sessionID id.msgID ack now with
  | ok next =>
    obtain ⟨entry,found,processing,rfl⟩ := MemoryDedupStore.complete_cases done
    simp only [MemoryDedupStore.perform,done]
    refine ⟨?_,rfl,fun other different => AList.lookup_insert_ne different⟩
    rw [MemoryDedupStore.entry_insert]
    exact .completed ack now entry found processing
  | error error =>
    have other : ∀ entry ∈ store.entry id, entry.record.state ≠ .processing := by
      intro entry found processing
      have known : store.records.lookup (dedupKey id.sessionID id.msgID) = some entry := found
      simp only [MemoryDedupStore.complete,known,processing] at done
      cases done
    simp only [MemoryDedupStore.perform,done]
    exact ⟨.failed ack now error other,rfl,fun _ _ => rfl⟩

private theorem abort_performed :
    Performed store id (store.perform id .abort).1 .abort (store.perform id .abort).2 := by
  simp only [MemoryDedupStore.perform,MemoryDedupStore.abort]
  split
  · rename_i entry found
    split
    · rename_i processing
      refine ⟨?_,rfl,fun other different => AList.lookup_erase_ne different⟩
      rw [MemoryDedupStore.entry_erase]
      exact .aborted entry found processing
    · rename_i completed
      refine ⟨.spared (fun other held => ?_),rfl,fun _ _ => rfl⟩
      rw [show store.entry id = some entry from found] at held
      cases held
      exact completed
  · rename_i absent
    refine ⟨.spared (fun other held => ?_),rfl,fun _ _ => rfl⟩
    rw [show store.entry id = none from absent] at held
    cases held

theorem MemoryDedupStore.perform_performed (op : DedupOp) :
    Performed store id (store.perform id op).1 op (store.perform id op).2 := by
  cases op with
  | claim fingerprint now => exact claim_performed store id fingerprint now
  | complete ack now => exact complete_performed store id ack now
  | abort => exact abort_performed store id

end Calls

/-- What the calls so far say about the record of an identity: the last claim that succeeded made it, and the
completion since then, if there was one, gave it its ACK. -/
inductive BoundBy (ttl : Int) (id : SendIdentity) (past : List DedupStep) : Option MemoryDedupEntry → Prop
  | free (given : ∀ earlier step later fingerprint now, past = earlier++step::later →
      step.Claims id fingerprint now → ∃ abort ∈ later, abort.Aborts id) : BoundBy ttl id past none
  | processing (earlier later : List DedupStep) (step : DedupStep) (entry : MemoryDedupEntry) (now : Int)
      (split : past = earlier++step::later) (claimed : step.Claims id entry.record.fingerprint now)
      (last : ∀ other ∈ later, ∀ fingerprint now, ¬ other.Claims id fingerprint now)
      (uncompleted : ∀ other ∈ later, ∀ ack now, ¬ other.Completes id ack now)
      (state : entry.record.state = .processing) (unset : entry.record.ack = none) : BoundBy ttl id past (some entry)
  | completed (earlier later : List DedupStep) (step done : DedupStep) (entry : MemoryDedupEntry) (now doneAt : Int)
      (ack : Envelope) (split : past = earlier++step::later) (claimed : step.Claims id entry.record.fingerprint now)
      (last : ∀ other ∈ later, ∀ fingerprint now, ¬ other.Claims id fingerprint now)
      (inside : done ∈ later) (completes : done.Completes id ack doneAt)
      (once : ∀ other ∈ later, ∀ given now, other.Completes id given now → given = ack)
      (state : entry.record.state = .completed) (stored : entry.record.ack = some ack)
      (expires : entry.expiresAt = doneAt+ttl) : BoundBy ttl id past (some entry)

section Runs
variable {ttl : Int} {id : SendIdentity} {past : List DedupStep} {found left : Option MemoryDedupEntry} {step : DedupStep}

private theorem BoundBy.skip (bound : BoundBy ttl id past found)
    (unclaimed : ∀ fingerprint now, ¬ step.Claims id fingerprint now)
    (uncompleted : ∀ ack now, ¬ step.Completes id ack now) : BoundBy ttl id (past++[step]) found := by
  cases bound with
  | free given =>
    refine .free (fun earlier claim later fingerprint now split claims => ?_)
    rcases snoc_split split with ⟨_,_,rfl⟩ | ⟨init,rfl,before⟩
    · exact absurd claims (unclaimed fingerprint now)
    · obtain ⟨abort,inside,aborts⟩ := given earlier claim init fingerprint now before claims
      exact ⟨abort,List.mem_append_left _ inside,aborts⟩
  | processing earlier later claim entry now split claimed last quiet state unset =>
    subst split
    refine .processing earlier (later++[step]) claim entry now (by simp) claimed ?_ ?_ state unset
    · exact List.forall_mem_append.mpr ⟨last,by simpa using unclaimed⟩
    · exact List.forall_mem_append.mpr ⟨quiet,by simpa using uncompleted⟩
  | completed earlier later claim done entry now doneAt ack split claimed last inside completes once state stored expires =>
    subst split
    refine .completed earlier (later++[step]) claim done entry now doneAt ack (by simp) claimed ?_
      (List.mem_append_left _ inside) completes ?_ state stored expires
    · exact List.forall_mem_append.mpr ⟨last,by simpa using unclaimed⟩
    · refine List.forall_mem_append.mpr ⟨once,?_⟩
      rintro other member given now again
      cases List.mem_singleton.mp member
      exact absurd again (uncompleted given now)

private theorem BoundBy.next (bound : BoundBy ttl id past found) (same : step.id = id)
    (before : step.before.entry id = found) (rebinds : Rebinds ttl found step.op left step.outcome) :
    BoundBy ttl id (past++[step]) left := by
  obtain ⟨store,owner,op,outcome⟩ := step
  simp only at same before rebinds
  subst same
  cases rebinds with
  | claimed fingerprint now free =>
    exact .processing past [] _ _ now rfl ⟨rfl,rfl,rfl⟩ (by simp) (by simp) rfl rfl
  | refused fingerprint now entry held holds =>
    refine bound.skip ?_ ?_
    · rintro _ _ ⟨_,_,claimed⟩
      cases claimed
    · rintro _ _ ⟨_,other,_⟩
      cases other
  | completed ack now entry held processing =>
    rw [held] at bound
    cases bound with
    | processing earlier later claim _ claimedAt split claimed last quiet state unset =>
      subst split
      refine .completed earlier (later++[_]) claim _ _ claimedAt now ack (List.append_assoc ..) claimed ?_
        (List.mem_append_right _ List.mem_cons_self) ⟨rfl,rfl,rfl⟩ ?_ rfl rfl rfl
      · refine List.forall_mem_append.mpr ⟨last,?_⟩
        rintro other member _ _ ⟨_,claim,_⟩
        cases List.mem_singleton.mp member
        cases claim
      · refine List.forall_mem_append.mpr ⟨fun other member given instant again => absurd again (quiet other member given instant),?_⟩
        rintro other member given _ ⟨_,again,_⟩
        cases List.mem_singleton.mp member
        cases again
        rfl
    | completed _ _ _ _ _ _ _ _ _ _ _ _ _ _ state => simp [processing] at state
  | failed ack now error other =>
    refine bound.skip ?_ ?_
    · rintro _ _ ⟨_,claim,_⟩
      cases claim
    · rintro _ _ ⟨_,_,completed⟩
      cases completed
  | aborted entry held processing =>
    refine .free (fun earlier claim later fingerprint now split claims => ?_)
    rcases snoc_split split with ⟨_,_,rfl⟩ | ⟨init,rfl,_⟩
    · obtain ⟨_,claim,_⟩ := claims
      cases claim
    · exact ⟨_,List.mem_append_right _ List.mem_cons_self,rfl,rfl,entry,by rw [before,held],processing⟩
  | spared other =>
    refine bound.skip ?_ ?_
    · rintro _ _ ⟨_,claim,_⟩
      cases claim
    · rintro _ _ ⟨_,complete,_⟩
      cases complete

private theorem steps_snoc (store : MemoryDedupStore) (calls : List (SendIdentity × DedupOp)) (call : SendIdentity × DedupOp) :
    store.steps (calls++[call]) = store.steps calls ++
      [⟨store.after calls,call.1,call.2,((store.after calls).perform call.1 call.2).2⟩] := by
  induction calls generalizing store with
  | nil => rfl
  | cons first calls ih => exact congrArg (_::·) (ih _)

private theorem after_snoc (store : MemoryDedupStore) (calls : List (SendIdentity × DedupOp)) (call : SendIdentity × DedupOp) :
    store.after (calls++[call]) = ((store.after calls).perform call.1 call.2).1 := by
  simp [MemoryDedupStore.after]

private theorem steps_split {store : MemoryDedupStore} {calls : List (SendIdentity × DedupOp)}
    {front rest : List DedupStep} {step : DedupStep} (split : store.steps calls = front++step::rest) :
    ∃ first, first <+: calls ∧ store.steps first = front ∧ step.before = store.after first ∧
      step.outcome = (step.before.perform step.id step.op).2 ∧ (step.id,step.op) ∈ calls := by
  induction calls generalizing store front with
  | nil => simp [MemoryDedupStore.steps] at split
  | cons call calls ih =>
    cases front with
    | nil =>
      rw [MemoryDedupStore.steps,List.nil_append,List.cons.injEq] at split
      obtain ⟨rfl,_⟩ := split
      exact ⟨[],List.nil_prefix,rfl,rfl,rfl,List.mem_cons_self⟩
    | cons head front =>
      rw [MemoryDedupStore.steps,List.cons_append,List.cons.injEq] at split
      obtain ⟨rfl,split⟩ := split
      obtain ⟨first,fits,same,before,outcome,member⟩ := ih split
      refine ⟨call::first,(List.prefix_cons_inj call).mpr fits,?_,before,outcome,List.mem_cons_of_mem _ member⟩
      rw [MemoryDedupStore.steps,same]

private theorem after_ttl (store : MemoryDedupStore) (calls : List (SendIdentity × DedupOp)) :
    (store.after calls).ttl = store.ttl := by
  induction calls using List.reverseRecOn with
  | nil => rfl
  | append_singleton calls call ih =>
    rw [after_snoc,((store.after calls).perform_performed call.1 call.2).ttl,ih]

private theorem steps_bound (plainID : id.Plain) (calls : List (SendIdentity × DedupOp))
    (plain : ∀ call ∈ calls, call.1.Plain) :
    BoundBy ttl id (MemoryDedupStore.steps {ttl := ttl} calls)
      ((MemoryDedupStore.after {ttl := ttl} calls).entry id) := by
  induction calls using List.reverseRecOn with
  | nil =>
    refine .free (fun earlier step later fingerprint now split => ?_)
    simp [MemoryDedupStore.steps] at split
  | append_singleton calls call ih =>
    have bound := ih (fun other member => plain other (List.mem_append_left _ member))
    have performed := (MemoryDedupStore.after {ttl := ttl} calls).perform_performed call.1 call.2
    rw [steps_snoc,after_snoc]
    by_cases same : call.1 = id
    · have rebinds := performed.rebinds
      rw [after_ttl,same] at rebinds
      rw [same]
      exact bound.next rfl rfl rebinds
    · have different : id.key ≠ call.1.key := fun equal =>
        same (SendIdentity.key_inj (plain call (by simp)) plainID equal.symm)
      rw [performed.others id different]
      exact bound.skip (fun _ _ claims => same claims.1) (fun _ _ completes => same completes.1)

private theorem last_claim {front middle earlier later : List DedupStep} {first step : DedupStep}
    (split : front++first::middle = earlier++step::later) {fingerprint : SendFingerprint} {now : Int}
    (claims : first.Claims id fingerprint now)
    (last : ∀ other ∈ later, ∀ fingerprint now, ¬ other.Claims id fingerprint now) : later <:+ middle := by
  rcases List.append_eq_append_iff.mp split with ⟨gap,rfl,rest⟩ | ⟨gap,rfl,rest⟩
  · cases gap with
    | nil =>
      cases rest
      exact List.suffix_refl _
    | cons other gap =>
      rw [List.cons_append,List.cons.injEq] at rest
      obtain ⟨rfl,rfl⟩ := rest
      exact ⟨gap++[step],by simp⟩
  · cases gap with
    | nil =>
      cases rest
      exact List.suffix_refl _
    | cons other gap =>
      rw [List.cons_append,List.cons.injEq] at rest
      obtain ⟨rfl,rfl⟩ := rest
      exact absurd claims (last first (by simp) fingerprint now)

section At
variable {calls : List (SendIdentity × DedupOp)} (plain : ∀ call ∈ calls, call.1.Plain) (plainID : id.Plain)
  {front rest : List DedupStep} (split : MemoryDedupStore.steps {ttl := ttl} calls = front++step::rest)

include plain plainID split in
private theorem steps_before : BoundBy ttl id front (step.before.entry id) := by
  obtain ⟨prior,fits,same,before,_⟩ := steps_split split
  rw [← same,before]
  exact steps_bound plainID prior (fun call member => plain call (fits.subset member))

include split in
private theorem steps_rebinds (same : step.id = id) :
    ∃ left, (step.before.perform id step.op).1.entry id = left ∧
      Rebinds ttl (step.before.entry id) step.op left step.outcome := by
  obtain ⟨prior,_,_,before,outcome,_⟩ := steps_split split
  have rebinds := (step.before.perform_performed step.id step.op).rebinds
  rw [← outcome,same,show step.before.ttl = ttl by rw [before,after_ttl]] at rebinds
  exact ⟨_,rfl,rebinds⟩

end At

/-- A claim succeeds again only after an abort or an expired completion. -/
private theorem BoundBy.claimed_again (bound : BoundBy ttl id past found) {front middle : List DedupStep}
    {first : DedupStep} (split : past = front++first::middle) {fingerprint : SendFingerprint} {now later : Int}
    (claims : first.Claims id fingerprint now)
    (free : ∀ entry ∈ found, entry.record.state = .completed ∧ entry.expiresAt ≤ later) :
    (∃ step ∈ middle, step.Aborts id) ∨
      ∃ step ∈ middle, ∃ ack done, step.Completes id ack done ∧ done+ttl ≤ later := by
  cases bound with
  | free given => exact .inl (given front first middle fingerprint now split claims)
  | processing earlier rest step entry _ _ _ _ _ state =>
    have completed := (free entry rfl).1
    rw [state] at completed
    cases completed
  | completed earlier rest step done entry _ doneAt ack again _ last inside completes _ _ _ expires =>
    have expired := (free entry rfl).2
    rw [expires] at expired
    have within := last_claim (split.symm.trans again) claims last
    exact .inr ⟨done,within.subset inside,ack,doneAt,completes,expired⟩

private theorem BoundBy.recorded {entry : MemoryDedupEntry} (bound : BoundBy ttl id past (some entry)) :
    ∃ earlier claim later claimedAt, past = earlier++claim::later ∧ claim.Claims id entry.record.fingerprint claimedAt ∧
      (∀ other ∈ later, ∀ fingerprint now, ¬ other.Claims id fingerprint now) ∧
      (∀ other ∈ later, ∀ ack now, other.Completes id ack now → entry.record.ack = some ack) ∧
      ((∀ other ∈ later, ∀ ack now, ¬ other.Completes id ack now) →
        entry.record.state = .processing ∧ entry.record.ack = none) := by
  cases bound with
  | processing earlier later claim _ now split claimed last uncompleted state unset =>
    exact ⟨earlier,claim,later,now,split,claimed,last,fun other member ack instant done =>
      absurd done (uncompleted other member ack instant),fun _ => ⟨state,unset⟩⟩
  | completed earlier later claim done _ now doneAt ack split claimed last inside completes once state stored expires =>
    refine ⟨earlier,claim,later,now,split,claimed,last,fun other member given instant again => ?_,fun unset' => ?_⟩
    · rw [stored,once other member given instant again]
    · exact absurd completes (unset' done inside ack doneAt)

end Runs

/-- Over any calls for identities without NUL bytes: between two claims that succeed lies an abort while PROCESSING
or a completion at least the retention earlier; a refused claim returns the fingerprint of the last one that
succeeded and the ACK of its completion; completing needs a PROCESSING record, aborting spares a COMPLETED one;
and no call touches another identity. -/
theorem dedup_store_contract (ttl : Int) (calls : List (SendIdentity × DedupOp))
    (plain : ∀ call ∈ calls, call.1.Plain) (id : SendIdentity) (plainID : id.Plain) (trace : List DedupStep)
    (ran : trace = MemoryDedupStore.steps {ttl := ttl} calls) :
    (∀ front first middle second rest fingerprint fingerprint' now now',
      trace = front++first::(middle++second::rest) → first.Claims id fingerprint now →
      second.Claims id fingerprint' now' →
        (∃ step ∈ middle, step.Aborts id) ∨
          ∃ step ∈ middle, ∃ ack done, step.Completes id ack done ∧ done+ttl ≤ now') ∧
    (∀ front step rest fingerprint now record,
      trace = front++step::rest → step.id = id → step.op = .claim fingerprint now → step.outcome = .refused record →
        ∃ earlier claim later claimedAt, front = earlier++claim::later ∧ claim.Claims id record.fingerprint claimedAt ∧
          (∀ other ∈ later, ∀ fingerprint now, ¬ other.Claims id fingerprint now) ∧
          (∀ other ∈ later, ∀ ack now, other.Completes id ack now → record.ack = some ack) ∧
          ((∀ other ∈ later, ∀ ack now, ¬ other.Completes id ack now) →
            record.state = .processing ∧ record.ack = none)) ∧
    (∀ step ∈ trace, step.id = id → ∀ ack now, step.op = .complete ack now →
      (step.outcome = .completed ↔ ∃ entry, step.before.entry id = some entry ∧ entry.record.state = .processing)) ∧
    (∀ step ∈ trace, step.id = id → step.op = .abort → ∀ entry, step.before.entry id = some entry →
      entry.record.state = .completed → (step.before.perform id .abort).1.entry id = some entry) ∧
    ∀ step ∈ trace, step.id ≠ id → (step.before.perform step.id step.op).1.entry id = step.before.entry id := by
  subst ran
  refine ⟨?_,?_,?_,?_,?_⟩
  · intro front first middle second rest fingerprint fingerprint' now now' split claims again
    have whole : MemoryDedupStore.steps {ttl := ttl} calls = (front++first::middle)++second::rest := by
      rw [split]
      simp
    obtain ⟨_,_,rebinds⟩ := steps_rebinds whole again.1
    rw [again.2.1,again.2.2] at rebinds
    cases rebinds with
    | claimed _ _ free => exact (steps_before plain plainID whole).claimed_again rfl claims free
  · intro front step rest fingerprint now record split same claim refused
    obtain ⟨_,_,rebinds⟩ := steps_rebinds split same
    rw [claim,refused] at rebinds
    cases rebinds with
    | refused _ _ entry held =>
      have bound := steps_before plain plainID split
      rw [held] at bound
      exact bound.recorded
  · intro step member same ack now complete
    obtain ⟨front,rest,split⟩ := List.append_of_mem member
    obtain ⟨_,_,rebinds⟩ := steps_rebinds split same
    rw [complete] at rebinds
    generalize outcome : step.outcome = result at rebinds
    cases rebinds with
    | completed _ _ entry held processing => exact ⟨fun _ => ⟨entry,held,processing⟩,fun _ => rfl⟩
    | failed _ _ _ other =>
      refine ⟨fun completed => ?_,fun ⟨entry,held,processing⟩ => absurd processing (other entry held)⟩
      cases completed
  · intro step member same abort entry found completed
    obtain ⟨front,rest,split⟩ := List.append_of_mem member
    obtain ⟨left,kept,rebinds⟩ := steps_rebinds split same
    rw [abort] at kept
    rw [abort,found] at rebinds
    rw [kept]
    generalize step.outcome = result at rebinds
    cases rebinds with
    | aborted other held processing =>
      cases held
      rw [completed] at processing
      cases processing
    | spared => rfl
  · intro step member different
    obtain ⟨front,rest,split⟩ := List.append_of_mem member
    obtain ⟨_,_,_,_,_,listed⟩ := steps_split split
    refine (step.before.perform_performed step.id step.op).others id (fun equal => different ?_)
    exact SendIdentity.key_inj (plain _ listed) plainID equal.symm

/-- A claim, its retry while PROCESSING, the completion, a retry and, a retention later, a new claim. -/
def retriedCalls : List (SendIdentity × DedupOp) :=
  let id : SendIdentity := ⟨lit "s",lit "m"⟩
  [(id,.claim (lit "f") 0),(id,.claim (lit "g") 5),(id,.complete {type := .ack} 6),(id,.claim (lit "g") 7),
   (id,.claim (lit "g") 16)]

theorem dedup_store_contract_retried :
    (MemoryDedupStore.steps {ttl := 10} retriedCalls).map (·.outcome) =
      [.claimed,.refused {state := .processing, fingerprint := lit "f"},.completed,
       .refused {state := .completed, fingerprint := lit "f", ack := some {type := .ack}},.claimed] ∧
      ∀ step ∈ MemoryDedupStore.steps {ttl := 10} retriedCalls, step.id ≠ ⟨lit "t",lit "m"⟩ →
        (step.before.perform step.id step.op).1.entry ⟨lit "t",lit "m"⟩ = step.before.entry ⟨lit "t",lit "m"⟩ := by
  refine ⟨by decide +kernel,?_⟩
  have plain : ∀ call ∈ retriedCalls, call.1.Plain := by
    intro call member
    have same : call.1 = ⟨lit "s",lit "m"⟩ := by
      simp only [retriedCalls,List.mem_cons,List.not_mem_nil,or_false] at member
      rcases member with rfl | rfl | rfl | rfl | rfl <;> rfl
    rw [same]
    exact ⟨by decide +kernel,by decide +kernel⟩
  exact (dedup_store_contract 10 retriedCalls plain ⟨lit "t",lit "m"⟩ ⟨by decide +kernel,by decide +kernel⟩ _ rfl).2.2.2.2

end Kmtproto
