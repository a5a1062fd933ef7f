import Kmtproto.ServerCompliance
import Kmtproto.ServerWorld

/-! The batch that answers a RESUME: its WELCOME, one EVENT for each number of the
replayed range and the snapshot that was asked for. What the replay store and the
snapshot provider return goes out only if it is that. -/
namespace Kmtproto
open Json Interaction

/-- The frame is a STATE_SNAPSHOT of the session with objects of the namespaces only, sorted
and none twice. -/
structure ConformingSnapshot (config : ServerConfig) (sessionID : Bytes) (namespaces : List Bytes)
    (snapshot : Envelope) : Prop where
  valid : config.validates snapshot = .ok ()
  type : snapshot.type = .stateSnapshot
  session : snapshot.sessionID = sessionID
  states : ∃ payload, decodePayload readSnapshot {} snapshot.payload config.strictValidation = .ok payload ∧
    (payload.states.map StateObject.identity).Nodup ∧ payload.states.Pairwise StateObject.before ∧
    ∀ object ∈ payload.states, object.namespace_ ∈ namespaces

/-- The frames that resume a session up to the boundary `replayTo`. -/
structure ResumeBatch (config : ServerConfig) (frame : Envelope) (replayTo : UInt64) (resume : ResumePayload)
    (welcome : Envelope) (events : List Envelope) (snapshot : Option Envelope) : Prop where
  asked : decodePayload readResume {} frame.payload config.strictValidation = .ok resume
  bounded : resume.lastSeq.toNat ≤ replayTo.toNat ∧ resume.lastSeq.toNat + 1 < 2^64
  valid : config.validates welcome = .ok ()
  type : welcome.type = .welcome
  session : welcome.sessionID = frame.sessionID
  payload : ∃ serverTime, decodePayload readWelcome {} welcome.payload config.strictValidation =
    .ok {mode := welcomeModeResumed, serverTime := serverTime, resumeFrom := resume.lastSeq+1, replayTo := replayTo,
         stateSync := resume.stateSync}
  replayed : ∀ event ∈ events, config.validates event = .ok () ∧ event.type = .event ∧ event.sessionID = frame.sessionID
  numbered : events.map (fun event => event.seq.toNat) =
    List.range' (resume.lastSeq.toNat+1) (replayTo.toNat - resume.lastSeq.toNat)
  snapshot : Option.Rel (fun sync state => ConformingSnapshot config frame.sessionID sync.namespaces state)
    resume.stateSync snapshot

section Events
variable {config : ServerConfig} {sessionID : Bytes}

theorem validates_event {event : Envelope} (valid : config.validates event = .ok ()) (type : event.type = .event) :
    event.seq ≠ 0 := by
  have typed := (validateFrame_parts ((validateOutboundFrame_eq ..).symm.trans valid)).2
  simp only [validateTyped,type,validateEvent] at typed
  obtain ⟨_,_,typed⟩ := bind_ok typed
  obtain ⟨positive,_⟩ := reject_bind_ok typed
  exact fun zero => positive (.inr zero)

/-- A checked replay counts up without wrapping around, since no EVENT has the number zero. -/
theorem checkReplay_numbered {expected last : UInt64} {events : List Envelope}
    (checked : checkReplay config sessionID expected events = .ok last) (start : 0 < expected.toNat) :
    events.map (fun event => event.seq.toNat) = List.range' expected.toNat events.length ∧
      (expected.toNat + events.length ≤ 2^64) ∧ (expected.toNat + events.length) % 2^64 = last.toNat := by
  induction events generalizing expected with
  | nil =>
    cases checked
    have bound := last.toNat_lt
    exact ⟨rfl,bound.le,Nat.mod_eq_of_lt bound⟩
  | cons event events ih =>
    rw [checkReplay] at checked
    split at checked
    · cases checked
    rename_i valid
    split at checked
    · cases checked
    rename_i fits
    simp only [not_or,ne_eq,not_not] at fits
    have bound := expected.toNat_lt
    have next : (expected+1).toNat = (expected.toNat+1) % 2^64 := by rw [UInt64.toNat_add]; rfl
    cases events with
    | nil =>
      cases checked
      rw [next]
      refine ⟨by simp [fits.2.2],by simp; omega,by simp⟩
    | cons second events =>
      -- the event after this one is valid too, so its number is not zero
      have room : expected.toNat + 1 < 2^64 := by
        by_contra wraps
        rw [checkReplay] at checked
        split at checked
        · cases checked
        rename_i later
        split at checked
        · cases checked
        rename_i follows
        simp only [not_or,ne_eq,not_not] at follows
        refine validates_event (not_not.mp later) follows.1 ?_
        rw [follows.2.2,← UInt64.toNat_inj,next]
        have top : expected.toNat + 1 = 2^64 := by omega
        rw [top]
        rfl
      have rest := ih checked (by omega)
      rw [next,Nat.mod_eq_of_lt room] at rest
      obtain ⟨numbers,inside,count⟩ := rest
      refine ⟨?_,by simp only [List.length_cons] at inside ⊢; omega,?_⟩
      · rw [List.map_cons,numbers,fits.2.2]
        rfl
      · rw [← count,List.length_cons]
        congr 1
        simp only [List.length_cons]
        omega

end Events

section Snapshots
variable {config : ServerConfig}

theorem StateObject.before_total (a b : StateObject) : a.before b ∨ b.before a := by
  unfold StateObject.before
  by_cases same : a.namespace_ = b.namespace_
  · simpa [same] using List.le_total a.objectID b.objectID
  · rw [if_pos same,if_pos (Ne.symm same)]
    by_contra neither
    rw [not_or,List.not_lt,List.not_lt] at neither
    exact same (List.le_antisymm neither.2 neither.1)

theorem StateObject.before_trans (a b c : StateObject) (first : a.before b) (second : b.before c) : a.before c := by
  unfold StateObject.before at *
  split at first
  · split at second
    · have less := List.lt_trans first second
      have apart : a.namespace_ ≠ c.namespace_ := by
        intro same
        rw [same] at less
        exact List.lt_irrefl _ less
      rw [if_pos apart]
      exact less
    · rename_i same
      rw [not_not] at same
      rw [← same,if_pos (by assumption)]
      exact first
  · rename_i same
    rw [not_not] at same
    rw [same]
    split at second
    · rw [if_pos (by assumption)]
      exact second
    · rename_i other
      rw [if_neg other]
      exact List.le_trans first second

theorem sortStates_sorted (states : List StateObject) : (sortStates states).Pairwise StateObject.before := by
  have total : Std.Total StateObject.before := ⟨StateObject.before_total⟩
  have trans : IsTrans StateObject StateObject.before := ⟨StateObject.before_trans⟩
  exact List.pairwise_insertionSort StateObject.before states

theorem validateStateObject_names {object : StateObject} {limits : Limits}
    (valid : validateStateObject object limits = .ok ()) :
    validString object.namespace_ = true ∧ validString object.objectID = true := by
  unfold validateStateObject at valid
  obtain ⟨_,identity,_⟩ := bind_ok valid
  unfold validateStateIdentity at identity
  obtain ⟨_,named,identity⟩ := bind_ok identity
  obtain ⟨id,_⟩ := reject_bind_ok identity
  refine ⟨?_,by simp only [Bool.or_eq_true,Bool.not_eq_true',not_or,Bool.not_eq_false] at id; exact id.2⟩
  unfold validateStateNamespace at named
  split at named
  · cases named
  · rename_i name
    simp only [Bool.or_eq_true,Bool.not_eq_true',not_or,Bool.not_eq_false] at name
    exact name.2

theorem checkSnapshotStates_each {namespaces : List Bytes} {seen : List StateIdentity} {states : List StateObject}
    (checked : checkSnapshotStates config namespaces seen states = .ok ()) :
    ∀ object ∈ states, validateStateObject object config.limits = .ok () ∧ object.namespace_ ∈ namespaces := by
  induction states generalizing seen with
  | nil => simp
  | cons object states ih =>
    unfold checkSnapshotStates at checked
    obtain ⟨_,valid,checked⟩ := bind_ok checked
    obtain ⟨_,requested,checked⟩ := bind_ok checked
    obtain ⟨_,_,checked⟩ := bind_ok checked
    exact List.forall_mem_cons.mpr ⟨⟨valid,of_decide_eq_true (refuseUnless_ok requested)⟩,ih checked⟩

theorem StateSnapshotAccumulator.add_states {accumulator next : StateSnapshotAccumulator} {object : StateObject}
    (added : accumulator.add object = .ok next) : next.states = accumulator.states++[object] := by
  unfold StateSnapshotAccumulator.add at added
  split at added
  · cases added
  obtain ⟨_,_,added⟩ := bind_ok added
  split at added
  · cases added
  · simp only [gt_iff_lt] at added
    repeat' split at added
    all_goals cases added; try rfl

theorem foldlM_add_states {accumulator last : StateSnapshotAccumulator} {states : List StateObject}
    (added : states.foldlM StateSnapshotAccumulator.add accumulator = .ok last) :
    last.states = accumulator.states++states := by
  induction states generalizing accumulator with
  | nil =>
    cases added
    exact (List.append_nil _).symm
  | cons object states ih =>
    rw [List.foldlM_cons] at added
    obtain ⟨next,first,rest⟩ := bind_ok added
    rw [ih rest,StateSnapshotAccumulator.add_states first]
    simp

theorem newStateSnapshotAccumulator_empty {limits : Limits} {snapshotLimits : StateSnapshotLimits}
    {accumulator : StateSnapshotAccumulator} (new : newStateSnapshotAccumulator limits snapshotLimits = .ok accumulator) :
    accumulator.states = [] := by
  unfold newStateSnapshotAccumulator at new
  split at new
  · cases new
  split at new
  · cases new
  · cases new
    rfl

theorem StateSnapshotAccumulator.payload_marshal {accumulator : StateSnapshotAccumulator} {payload : Bytes}
    (built : accumulator.payload = .ok payload) : marshalSnapshot accumulator.states = some payload := by
  unfold StateSnapshotAccumulator.payload at built
  split at built
  · cases built
  rename_i text encoded
  split at built
  · cases built
  · cases built
    exact encoded

theorem validates_snapshot {snapshot : Envelope} (valid : config.validates snapshot = .ok ())
    (type : snapshot.type = .stateSnapshot) :
    ∃ payload, decodePayload readSnapshot {} snapshot.payload config.strictValidation = .ok payload ∧
      (payload.states.map StateObject.identity).Nodup :=
  validateFrame_snapshot ((validateOutboundFrame_eq ..).symm.trans valid) type

theorem pairwise_written {states read : List StateObject} (written : List.Forall₂ StateObject.Written states read)
    (sorted : states.Pairwise StateObject.before) : read.Pairwise StateObject.before := by
  have names : ∀ {states read : List StateObject}, List.Forall₂ StateObject.Written states read →
      states.map StateObject.identity = read.map StateObject.identity := by
    intro states read written
    induction written with
    | nil => rfl
    | cons head _ ih =>
      obtain ⟨data,_,rfl⟩ := head
      rw [List.map_cons,List.map_cons,ih]
      rfl
  let before (a b : StateIdentity) : Prop :=
    if a.namespace_ ≠ b.namespace_ then a.namespace_ < b.namespace_ else a.objectID ≤ b.objectID
  have same : (read.map StateObject.identity).Pairwise before := by
    rw [← names written]
    exact List.pairwise_map.mpr sorted
  have back := List.pairwise_map.mp same
  exact back

/-- What the provider returned goes out only as a snapshot of what was asked for. -/
theorem assembleSnapshot_conforms {sessionID frameID : Bytes} {timestamp : Int64} {built : Envelope}
    {limits : StateSnapshotLimits} {namespaces : List Bytes} {states : List StateObject}
    (ok : assembleSnapshot config (snapshotFrame sessionID frameID timestamp) limits namespaces states = .ok built) :
    ConformingSnapshot config sessionID namespaces built := by
  unfold assembleSnapshot at ok
  split at ok
  · cases ok
  obtain ⟨_,checked,ok⟩ := bind_ok ok
  obtain ⟨empty,new,ok⟩ := bind_ok ok
  obtain ⟨accumulator,added,ok⟩ := bind_ok ok
  obtain ⟨payload,marshaled,ok⟩ := bind_ok ok
  obtain ⟨_,valid,ok⟩ := bind_ok ok
  cases ok
  obtain ⟨read,decoded,distinct⟩ := validates_snapshot valid rfl
  refine ⟨valid,rfl,rfl,read,decoded,distinct,?_⟩
  have each := checkSnapshotStates_each checked
  have kept : ∀ object ∈ sortStates states, object ∈ states := fun object member =>
    (List.perm_insertionSort StateObject.before states).mem_iff.mp member
  have encoded : marshalSnapshot (sortStates states) = some payload := by
    rw [← StateSnapshotAccumulator.payload_marshal marshaled,foldlM_add_states added,newStateSnapshotAccumulator_empty new]
    rfl
  have written := readSnapshot_written encoded
    (fun object member => validateStateObject_names (each object (kept object member)).1)
    (decodePayload_written (snapshot_reads encoded).choose_spec decoded)
  refine ⟨pairwise_written written (sortStates_sorted states),fun object member => ?_⟩
  obtain ⟨source,inside,data,_,rfl⟩ := written_source written member
  exact (each source (kept source inside)).2

end Snapshots

inductive LaneTurn where
  | outside
  | queued (ticket : Nat)
  | running (ticket : Nat)
  | left
  deriving DecidableEq

def LaneTurn.isRunning : LaneTurn → Bool
  | .running _ => true
  | _ => false

/-- How far a RESUME has come: its turn, the boundary it read, whether it answered and
whether that was the batch, and everything it read and sent so far. -/
structure ResumeProgress where
  turn : LaneTurn := .outside
  boundary : Option (Except Err UInt64) := none
  answered : Bool := false
  resumed : Bool := false
  reads : List (Except Err UInt64) := []
  sent : List (Nat × List Envelope) := []

def IsResumeBatch (config : ServerConfig) (frame : Envelope) (replayTo : UInt64) (frames : List Envelope) : Prop :=
  ∃ resume welcome events snapshot, frames = welcome::(events++snapshot.toList) ∧
    ResumeBatch config frame replayTo resume welcome events snapshot

namespace ResumeProgress
variable (config : ServerConfig) (frame : Envelope) (outbound : Nat)

def allowed (progress : ResumeProgress) : Op → Prop
  | .now | .newFrameID | .lookup _ _ | .beginLaneCallback _ | .endLaneCallback _ | .snapshot _ _ => True
  | .closeQueue target => target = outbound
  | .joinLane sessionID => sessionID = frame.sessionID ∧ progress.turn = .outside
  | .awaitLane sessionID ticket => sessionID = frame.sessionID ∧ progress.turn = .queued ticket
  | .leaveLane sessionID ticket => sessionID = frame.sessionID ∧ progress.turn = .running ticket
  | .currentSeq sessionID => sessionID = frame.sessionID ∧ progress.turn.isRunning = true ∧ progress.boundary = none
  | .replay sessionID _ _ _ => sessionID = frame.sessionID ∧ progress.turn.isRunning = true
  | .enqueueBatch target frames => target = outbound ∧ progress.answered = false ∧
      ((∃ refusal : Envelope, frames = [refusal] ∧ refusal.type = .error) ∨
        (progress.turn.isRunning = true ∧ ∃ replayTo, progress.boundary = some (.ok replayTo) ∧
          IsResumeBatch config frame replayTo frames))
  | _ => False

def next (progress : ResumeProgress) : (op : Op) → Answer op → ResumeProgress
  | .joinLane _, some ticket => {progress with turn := .queued ticket}
  | .awaitLane _ ticket, _ => {progress with turn := .running ticket}
  | .leaveLane _ _, _ => {progress with turn := .left}
  | .currentSeq _, answer => {progress with boundary := some answer, reads := progress.reads++[answer]}
  | .enqueueBatch target frames, .ok () => {progress with
      answered := true
      resumed := frames.head?.any (fun frame => frame.type == .welcome)
      sent := progress.sent++[(target,frames)]}
  | .enqueueBatch _ _, .error _ => {progress with answered := true, resumed := false}
  | _, _ => progress

end ResumeProgress

def resumeRules (config : ServerConfig) (frame : Envelope) (outbound : Nat) : Monitor Op Answer ResumeProgress where
  allowed := ResumeProgress.allowed config frame outbound
  next := ResumeProgress.next

/-- A reply names a ready session only after the batch went out. -/
def ResumeReply (progress : ResumeProgress) (reply : Reply) : Prop :=
  reply.1.readySessionID ≠ [] → progress.resumed = true

/-- A reply while the request still has its turn. -/
def InTurn (progress after : ResumeProgress) (reply : Reply) : Prop :=
  after.turn = progress.turn ∧ ResumeReply after reply

section Handlers
variable {config : ServerConfig} {frame : Envelope} {outbound : Nat} {progress : ResumeProgress} {timestamp : Int64}
  {idle : HandleResult} {α β : Type}

def Refused (progress after : ResumeProgress) : Prop := after.turn = progress.turn ∧ after.resumed = false

theorem resume_errorAt {refID : Bytes} {code : ErrorCode} {message : Bytes} {retryable : Bool}
    (silent : progress.answered = false) (fresh : progress.resumed = false) :
    Meets (resumeRules config frame outbound) (fun after _ => Refused progress after) progress
      (enqueueErrorAt config outbound frame.sessionID refID code message retryable timestamp) := by
  unfold enqueueErrorAt
  rw [meets_bind]
  unfold enqueueFrame
  cases config.validates (errorFrameAt config frame.sessionID refID code message retryable timestamp) with
  | error error => exact ⟨rfl,fresh⟩
  | ok valid =>
    refine ⟨⟨rfl,silent,.inl ⟨_,rfl,rfl⟩⟩,fun answer => ?_⟩
    cases answer with
    | error error => exact ⟨rfl,rfl⟩
    | ok done =>
      change Meets _ _ _ (ite _ _ _)
      split
      · exact ⟨rfl,fun _ => ⟨rfl,rfl⟩⟩
      · exact ⟨rfl,rfl⟩

theorem resume_refuse {result : HandleResult} {code : ErrorCode} {message : Bytes} {retryable : Bool}
    (silent : progress.answered = false) (fresh : progress.resumed = false) (empty : result.readySessionID = []) :
    Meets (resumeRules config frame outbound) (InTurn progress) progress
      (refuseResume config frame outbound timestamp result code message retryable) := by
  unfold refuseResume
  rw [meets_bind]
  exact (resume_errorAt silent fresh).mono (fun _ _ kept => ⟨kept.1,fun ready => absurd empty ready⟩)

theorem resume_fail {code : ErrorCode} {message : Bytes} {error : Err} (silent : progress.answered = false)
    (fresh : progress.resumed = false) (empty : idle.readySessionID = []) :
    Meets (resumeRules config frame outbound) (InTurn progress) progress
      (failResume config frame outbound timestamp idle code message error) := by
  unfold failResume
  split
  · exact ⟨rfl,fun ready => absurd empty ready⟩
  · exact resume_refuse silent fresh empty

theorem resume_laneCallback {sessionID : Bytes} {callback : Server (Except Err α)} {next : Except Err α → Server β}
    {post : ResumeProgress → β → Prop}
    (busy : ∀ error, Meets (resumeRules config frame outbound) post progress (next (.error error)))
    (runs : Meets (resumeRules config frame outbound)
      (fun after result => Meets (resumeRules config frame outbound) post after (next result)) progress callback) :
    Meets (resumeRules config frame outbound) post progress (invokeCallback sessionID callback >>= next) := by
  rw [meets_bind]
  unfold invokeCallback
  rw [meets_bind]
  refine ⟨trivial,fun active => ?_⟩
  cases active with
  | false => exact busy _
  | true =>
    change Meets _ _ progress (callback >>= _)
    rw [meets_bind]
    exact runs.mono (fun after result ended => ⟨trivial,fun _ => ended⟩)

theorem resumedWelcome_payload {resume : ResumePayload} {replayTo : UInt64}
    (asked : decodePayload readResume {} frame.payload config.strictValidation = .ok resume)
    (valid : config.validates (resumedWelcome frame resume replayTo timestamp) = .ok ()) :
    decodePayload readWelcome {} (resumedWelcome frame resume replayTo timestamp).payload config.strictValidation =
      .ok {mode := welcomeModeResumed, serverTime := timestamp, resumeFrom := resume.lastSeq+1, replayTo := replayTo,
           stateSync := resume.stateSync} := by
  have typed := (validateFrame_parts ((validateOutboundFrame_eq ..).symm.trans valid)).2
  simp only [validateTyped,resumedWelcome,validateWelcome] at typed
  obtain ⟨_,_,typed⟩ := bind_ok typed
  obtain ⟨_,_,typed⟩ := bind_ok typed
  obtain ⟨_,_,typed⟩ := bind_ok typed
  obtain ⟨payload,decoded,_⟩ := bind_ok typed
  obtain ⟨_,_,_,read⟩ := decodePayload_read asked
  have back := decodePayload_written (reads_welcome _) decoded
  rw [readWelcome_resumed _ _ rfl rfl (readResume_valid read)] at back
  rw [resumedWelcome,decoded,← Option.some.inj back]

/-- A validated boundary, a checked replay and the snapshot asked for make the batch. -/
theorem resume_send {resume : ResumePayload} {replayTo : UInt64} {events : List Envelope} {snapshot : Option Envelope}
    (silent : progress.answered = false) (empty : idle.readySessionID = []) (running : progress.turn.isRunning = true)
    (read : progress.boundary = some (.ok replayTo))
    (asked : decodePayload readResume {} frame.payload config.strictValidation = .ok resume)
    (bounded : resume.lastSeq.toNat ≤ replayTo.toNat ∧ resume.lastSeq.toNat + 1 < 2^64)
    (checked : checkReplay config frame.sessionID (resume.lastSeq+1) events = .ok (replayTo+1))
    (built : Option.Rel (fun sync state => ConformingSnapshot config frame.sessionID sync.namespaces state)
      resume.stateSync snapshot) :
    Meets (resumeRules config frame outbound) (InTurn progress) progress
      (sendResume config frame outbound resume replayTo timestamp idle events snapshot) := by
  unfold sendResume
  simp only []
  split
  · exact ⟨rfl,fun ready => absurd empty ready⟩
  rename_i valid
  have first : (resume.lastSeq+1).toNat = resume.lastSeq.toNat+1 := by
    rw [UInt64.toNat_add]
    exact Nat.mod_eq_of_lt bounded.2
  obtain ⟨numbers,inside,count⟩ := checkReplay_numbered checked (by omega)
  rw [first] at numbers inside count
  -- both ends lie below 2^64, so the counter that met the boundary has not wrapped around
  have length : events.length = replayTo.toNat - resume.lastSeq.toNat := by
    have top := replayTo.toNat_lt
    have last : (replayTo+1).toNat = (replayTo.toNat+1) % 2^64 := by rw [UInt64.toNat_add]; rfl
    rw [last] at count
    omega
  rw [length] at numbers
  have batch : ResumeBatch config frame replayTo resume (resumedWelcome frame resume replayTo timestamp) events snapshot :=
    ⟨asked,bounded,valid,rfl,rfl,⟨timestamp,resumedWelcome_payload asked valid⟩,(checkReplay_range checked).valid,numbers,built⟩
  refine ⟨⟨rfl,silent,.inr ⟨running,replayTo,read,resume,_,events,snapshot,rfl,batch⟩⟩,fun answer => ?_⟩
  cases answer with
  | error error => exact ⟨rfl,fun ready => absurd empty ready⟩
  | ok done => exact ⟨rfl,fun _ => rfl⟩

theorem resume_state {resume : ResumePayload} {snapshotID : Bytes} {replayTo : UInt64} {events : List Envelope}
    (silent : progress.answered = false) (fresh : progress.resumed = false) (empty : idle.readySessionID = [])
    (running : progress.turn.isRunning = true) (read : progress.boundary = some (.ok replayTo))
    (asked : decodePayload readResume {} frame.payload config.strictValidation = .ok resume)
    (bounded : resume.lastSeq.toNat ≤ replayTo.toNat ∧ resume.lastSeq.toNat + 1 < 2^64)
    (checked : checkReplay config frame.sessionID (resume.lastSeq+1) events = .ok (replayTo+1)) :
    Meets (resumeRules config frame outbound) (InTurn progress) progress
      (resumeState config frame outbound resume snapshotID replayTo timestamp idle events) := by
  unfold resumeState
  split
  · rename_i unasked
    exact resume_send silent empty running read asked bounded checked (by rw [unasked]; exact .none)
  rename_i sync synced
  have failed (error : Err) : Meets (resumeRules config frame outbound) (InTurn progress) progress
      (failResume config frame outbound timestamp idle .stateUnavailable (lit "State snapshot could not be produced")
        error) := resume_fail silent fresh empty
  rw [meets_bind]
  unfold buildResumeStateSnapshot
  simp only []
  split
  · exact failed _
  rename_i limits _
  refine resume_laneCallback failed ⟨trivial,fun found => ?_⟩
  cases found with
  | error error => exact failed error
  | ok states =>
    refine (meets_pure _).mpr ?_
    cases ok : assembleSnapshot config (snapshotFrame frame.sessionID snapshotID timestamp) limits sync.namespaces states with
    | error error =>
      dsimp only
      rw [ok]
      exact failed error
    | ok state =>
      dsimp only
      rw [ok]
      refine resume_send silent empty running read asked bounded checked ?_
      rw [synced]
      exact .some (assembleSnapshot_conforms ok)

theorem resume_events {resume : ResumePayload} {snapshotID : Bytes} {replayTo : UInt64}
    (silent : progress.answered = false) (fresh : progress.resumed = false) (empty : idle.readySessionID = [])
    (running : progress.turn.isRunning = true) (read : progress.boundary = some (.ok replayTo))
    (asked : decodePayload readResume {} frame.payload config.strictValidation = .ok resume)
    (bounded : resume.lastSeq.toNat ≤ replayTo.toNat ∧ resume.lastSeq.toNat + 1 < 2^64) :
    Meets (resumeRules config frame outbound) (InTurn progress) progress
      (resumeEvents config frame outbound resume snapshotID replayTo timestamp idle) := by
  have failed (error : Err) : Meets (resumeRules config frame outbound) (InTurn progress) progress
      (refuseReplay config frame outbound timestamp idle error) := by
    unfold refuseReplay
    split
    · exact resume_refuse silent fresh empty
    split
    · exact resume_refuse silent fresh empty
    · exact resume_fail silent fresh empty
  unfold resumeEvents
  refine resume_laneCallback failed ⟨⟨rfl,running⟩,fun replayed => ?_⟩
  cases replayed with
  | error error => exact failed error
  | ok events =>
    refine (meets_pure _).mpr ?_
    dsimp only
    split
    · exact resume_refuse silent fresh empty
    rename_i expected checked
    split
    · exact resume_refuse silent fresh empty
    · rename_i reached
      rw [not_not.mp reached] at checked
      exact resume_state silent fresh empty running read asked bounded checked

theorem resume_stream {resume : ResumePayload} {snapshotID : Bytes} (silent : progress.answered = false)
    (fresh : progress.resumed = false) (empty : idle.readySessionID = []) (running : progress.turn.isRunning = true)
    (unread : progress.boundary = none)
    (asked : decodePayload readResume {} frame.payload config.strictValidation = .ok resume) :
    Meets (resumeRules config frame outbound) (InTurn progress) progress
      (resumeStream config frame outbound resume snapshotID timestamp idle) := by
  unfold resumeStream
  refine resume_laneCallback (fun _ => resume_fail silent fresh empty) ⟨⟨rfl,running,unread⟩,fun current => ?_⟩
  have refused {result : HandleResult} {code : ErrorCode} {message : Bytes} {retryable : Bool}
      (unnamed : result.readySessionID = []) : Meets (resumeRules config frame outbound) (InTurn progress)
        {progress with boundary := some current, reads := progress.reads++[current]}
        (refuseResume config frame outbound timestamp result code message retryable) :=
    (resume_refuse (by exact silent) (by exact fresh) unnamed).mono (fun _ _ kept => kept)
  cases current with
  | error error => exact (resume_fail (by exact silent) (by exact fresh) empty).mono (fun _ _ kept => kept)
  | ok replayTo =>
    change Meets _ _ {progress with boundary := some (.ok replayTo), reads := progress.reads++[Except.ok replayTo]} (ite _ _ _)
    split
    · exact refused empty
    rename_i behind
    split
    · exact refused empty
    rename_i last
    split
    · exact refused empty
    · refine (resume_events (by exact silent) (by exact fresh) empty (by exact running) rfl asked ⟨?_,?_⟩).mono (fun _ _ kept => kept)
      · simpa [UInt64.le_iff_toNat_le] using behind
      · have top := resume.lastSeq.toNat_lt
        have below : resume.lastSeq.toNat ≠ 18446744073709551615 := fun same => last (UInt64.toNat_inj.mp same)
        omega

theorem resume_snapshotID {resume : ResumePayload} {state : SessionState} (silent : progress.answered = false)
    (fresh : progress.resumed = false) :
    Meets (resumeRules config frame outbound)
      (fun after outcome => match outcome with
        | .error reply => InTurn progress after reply
        | .ok _ => after = progress) progress
      (resumeSnapshotID config frame outbound resume state timestamp) := by
  have refused {code : ErrorCode} {message : Bytes} {retryable : Bool} :
      Meets (resumeRules config frame outbound)
        (fun after (outcome : Except Reply Bytes) => match outcome with
          | .error reply => InTurn progress after reply
          | .ok _ => after = progress) progress
        (do return .error (← refuseResume config frame outbound timestamp {close := true} code message retryable)) :=
    (meets_bind _ _ _).mpr (resume_refuse silent fresh rfl)
  unfold resumeSnapshotID
  split
  · exact rfl
  split
  · exact refused
  split
  · exact refused
  refine ⟨trivial,fun identified => ?_⟩
  cases identified with
  | error error =>
    cases error <;> first
      | exact ⟨rfl,fun ready => absurd rfl ready⟩
      | exact refused
  | ok id =>
    change Meets _ _ progress (ite _ _ _)
    split
    · exact refused
    · exact rfl

/-- A RESUME keeps to its rules, and ends outside the lane. -/
theorem resume_handle :
    Meets (resumeRules config frame outbound)
      (fun after reply => (after.turn = .outside ∨ after.turn = .left) ∧ ResumeReply after reply) {}
      (handleResume config frame outbound) := by
  have outside {after : ResumeProgress} {reply : Reply} (kept : InTurn {} after reply) :
      (after.turn = .outside ∨ after.turn = .left) ∧ ResumeReply after reply := ⟨.inl kept.1,kept.2⟩
  unfold handleResume
  refine ⟨trivial,fun now => ?_⟩
  simp only []
  split
  · exact ⟨.inl rfl,fun ready => absurd rfl ready⟩
  rename_i resume asked
  refine ⟨trivial,fun found => ?_⟩
  match found with
  | .error error => exact ⟨.inl rfl,fun ready => absurd rfl ready⟩
  | .ok none => exact (resume_refuse rfl rfl rfl).mono (fun _ _ => outside)
  | .ok (some state) =>
    change Meets _ _ ({} : ResumeProgress) (resumeSnapshotID _ _ _ _ _ _ >>= _)
    rw [meets_bind]
    refine (resume_snapshotID rfl rfl).mono (fun after outcome kept => ?_)
    cases outcome with
    | error reply => exact outside kept
    | ok snapshotID =>
      obtain rfl : after = {} := kept
      refine ⟨⟨rfl,rfl⟩,fun joined => ?_⟩
      cases joined with
      | none => exact ⟨.inl rfl,fun ready => absurd rfl ready⟩
      | some ticket =>
        refine ⟨⟨rfl,rfl⟩,fun _ => ?_⟩
        change Meets _ _ ({turn := .running ticket} : ResumeProgress) (resumeStream _ _ _ _ _ _ _ >>= _)
        rw [meets_bind]
        refine (resume_stream rfl rfl rfl rfl rfl asked).mono (fun after reply ended => ?_)
        refine ⟨⟨rfl,ended.1⟩,fun _ => ?_⟩
        obtain ⟨result,outcome⟩ := reply
        cases outcome with
        | ok done => exact ⟨.inr rfl,ended.2⟩
        | error error => cases error <;> exact ⟨.inr rfl,ended.2⟩

end Handlers

def boundariesRead (trace : List (Event Op Answer)) : List (Except Err UInt64) :=
  trace.filterMap (fun event => match event with
    | ⟨.currentSeq _,answer⟩ => some answer
    | _ => none)

def batchesSent (trace : List (Event Op Answer)) : List (Nat × List Envelope) :=
  trace.filterMap (fun event => match event with
    | ⟨.enqueueBatch outbound frames,.ok ()⟩ => some (outbound,frames)
    | _ => none)

section Runs
variable {config : ServerConfig} {frame : Envelope} {outbound : Nat}

/-- The progress of a RESUME records what its trace does. -/
theorem resumeRules_after (config : ServerConfig) (frame : Envelope) (outbound : Nat) (progress : ResumeProgress)
    (trace : List (Event Op Answer)) :
    ((resumeRules config frame outbound).after progress trace).reads = progress.reads ++ boundariesRead trace ∧
      ((resumeRules config frame outbound).after progress trace).sent = progress.sent ++ batchesSent trace := by
  induction trace generalizing progress with
  | nil => simp [Monitor.after,boundariesRead,batchesSent]
  | cons event trace ih =>
    obtain ⟨op,answer⟩ := event
    obtain ⟨reads,sent⟩ := ih (progress.next op answer)
    have step : (resumeRules config frame outbound).after progress (⟨op,answer⟩::trace) =
        (resumeRules config frame outbound).after (progress.next op answer) trace := rfl
    rw [step,reads,sent]
    cases op with
    | currentSeq sessionID => simp [ResumeProgress.next,boundariesRead,batchesSent]
    | enqueueBatch target frames =>
      cases answer <;> simp [ResumeProgress.next,boundariesRead,batchesSent]
    | joinLane sessionID =>
      cases answer <;> simp [ResumeProgress.next,boundariesRead,batchesSent]
    | _ => simp [ResumeProgress.next,boundariesRead,batchesSent]

/-- What a RESUME has done so far: nothing, one refusal, or the batch up to the one boundary
it read. -/
structure Atomic (config : ServerConfig) (frame : Envelope) (outbound : Nat) (progress : ResumeProgress) : Prop where
  reads : progress.reads = progress.boundary.toList
  silent : progress.answered = false → progress.sent = []
  outcome : (progress.resumed = false ∧ ∀ batch ∈ progress.sent, ∀ sent ∈ batch.2, sent.type = .error) ∨
    ∃ replayTo batch, progress.boundary = some (.ok replayTo) ∧ IsResumeBatch config frame replayTo batch ∧
      progress.sent = [(outbound,batch)]

theorem Atomic.step {progress : ResumeProgress} (atomic : Atomic config frame outbound progress) {op : Op}
    (allowed : progress.allowed config frame outbound op) (answer : Answer op) :
    Atomic config frame outbound (progress.next op answer) := by
  obtain ⟨reads,silent,outcome⟩ := atomic
  cases op with
  | currentSeq sessionID =>
    obtain ⟨_,_,unread⟩ := allowed
    rw [unread] at reads
    refine ⟨by simp [ResumeProgress.next,reads],silent,?_⟩
    rcases outcome with refused | ⟨replayTo,batch,read,_⟩
    · exact .inl refused
    · rw [unread] at read
      cases read
  | enqueueBatch target frames =>
    obtain ⟨rfl,unanswered,kind⟩ := allowed
    have empty := silent unanswered
    cases answer with
    | error error => exact ⟨reads,(fun answered => by cases answered),.inl ⟨rfl,by simp [ResumeProgress.next,empty]⟩⟩
    | ok done =>
      refine ⟨reads,(fun answered => by cases answered),?_⟩
      simp only [ResumeProgress.next,empty,List.nil_append]
      rcases kind with ⟨refusal,rfl,type⟩ | ⟨_,replayTo,read,batch⟩
      · refine .inl ⟨by simp [type],?_⟩
        simp [type]
      · exact .inr ⟨replayTo,frames,read,batch,rfl⟩
  | joinLane sessionID => cases answer <;> exact ⟨reads,silent,outcome⟩
  | _ => exact ⟨reads,silent,outcome⟩

end Runs

/-- Whatever the stores and the provider answer, a RESUME puts on its queue either the one
batch that resumes the session up to the one boundary it read, or no WELCOME, EVENT or
STATE_SNAPSHOT at all and reports no ready session. -/
theorem resume_atomic (config : ServerConfig) (frame : Envelope) (outbound : Nat) (trace : List (Event Op Answer))
    (reply : Reply) (runs : Runs (handleResume config frame outbound) trace reply) :
    (∃ replayTo resume welcome events snapshot, boundariesRead trace = [.ok replayTo] ∧
      batchesSent trace = [(outbound,welcome::(events++snapshot.toList))] ∧
      ResumeBatch config frame replayTo resume welcome events snapshot) ∨
    ((∀ batch ∈ batchesSent trace, ∀ sent ∈ batch.2,
        sent.type ≠ .welcome ∧ sent.type ≠ .event ∧ sent.type ≠ .stateSnapshot) ∧
      reply.1.readySessionID = []) := by
  have start : Atomic config frame outbound {} := ⟨rfl,fun _ => rfl,.inl ⟨rfl,by simp⟩⟩
  have kept : Meets (resumeRules config frame outbound) (fun after reply =>
      ((after.turn = .outside ∨ after.turn = .left) ∧ ResumeReply after reply) ∧ Atomic config frame outbound after) {}
      (handleResume config frame outbound) :=
    resume_handle.transfer rfl (fun _ _ atomic allowed => ⟨allowed,fun answer => atomic.step allowed answer⟩) start
  obtain ⟨⟨_,ready⟩,reads,_,outcome⟩ := kept.runs runs
  obtain ⟨marks,batches⟩ := resumeRules_after config frame outbound {} trace
  rw [List.nil_append] at marks batches
  rw [marks] at reads
  rw [batches] at outcome
  rcases outcome with ⟨fresh,refused⟩ | ⟨replayTo,batch,read,⟨resume,welcome,events,snapshot,rfl,conforms⟩,one⟩
  · refine .inr ⟨fun batch member sent inside => ?_,?_⟩
    · rw [refused batch member sent inside]
      simp
    · by_contra named
      rw [ready named] at fresh
      cases fresh
  · rw [read] at reads
    exact .inl ⟨replayTo,resume,welcome,events,snapshot,reads,one,conforms⟩

def replayedEvent : Envelope :=
  {type := .event, id := lit "e", sessionID := lit "s", seq := 1,
   payload := (EventPayload.marshal {content := lit "1"}).getD []}

def replaying : (op : Op) → Answer op
  | .lookup _ _ => .ok (some ⟨lit "s",1,.empty⟩)
  | .joinLane _ => some 0
  | .beginLaneCallback _ => true
  | .currentSeq _ => .ok 1
  | .replay _ _ _ _ => .ok [replayedEvent]
  | op => working (lit "s") (lit "f") op

theorem resume_atomic_one_event :
    batchesSent ((handleResume {} resumeFrame 0).offered replaying).1 =
      [(0,[resumedWelcome resumeFrame {} 1 0,replayedEvent])] ∧
    ((∃ replayTo resume welcome events snapshot,
      boundariesRead ((handleResume {} resumeFrame 0).offered replaying).1 = [.ok replayTo] ∧
      batchesSent ((handleResume {} resumeFrame 0).offered replaying).1 = [(0,welcome::(events++snapshot.toList))] ∧
      ResumeBatch {} resumeFrame replayTo resume welcome events snapshot) ∨
    ((∀ batch ∈ batchesSent ((handleResume {} resumeFrame 0).offered replaying).1, ∀ sent ∈ batch.2,
        sent.type ≠ .welcome ∧ sent.type ≠ .event ∧ sent.type ≠ .stateSnapshot) ∧
      ((handleResume {} resumeFrame 0).offered replaying).2.1.readySessionID = [])) :=
  ⟨by decide +kernel,resume_atomic _ _ _ _ _ (Program.runs_offered ..)⟩

end Kmtproto
