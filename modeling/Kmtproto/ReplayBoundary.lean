import Kmtproto.Delivery
import Kmtproto.ClientErrors
import Kmtproto.ClientGap

/-! The boundary of a replay. Once a RESUMED WELCOME has fixed it, every frame of the
attempt extends the replay, changes nothing, completes the recovery there or ends it,
with one exception: another WELCOME the client acknowledges starts the replay anew. -/
namespace Kmtproto
open Json

structure Client.AcceptsWelcome (c : Client) (generation : ConnectionGeneration) (frame : Envelope)
    (payload : WelcomePayload) : Prop where
  accepts : c.Accepts generation frame
  welcome : frame.type = .welcome
  acknowledges : c.Acknowledges frame payload
  count : payload.replayTo - c.lastSeq ≤ c.config.maxReplayEvents

def Client.Reacknowledges (c : Client) (call : Call) : Prop :=
  ∃ generation frame payload, call = .handleIncoming generation frame ∧ c.AcceptsWelcome generation frame payload

inductive Client.KeepsReplay (c : Client) (generation : ConnectionGeneration) (frame : Envelope) (outcome : Outcome) : Prop
  | stale (old : generation ≠ c.generation) (same : outcome.1 = c)
  | appended (continues : c.Continues frame) (unfinished : outcome.1.state = .resuming)
      (boundary : outcome.1.replayTo = c.replayTo) (buffer : outcome.1.replayBuffer = c.replayBuffer++[frame])
  | ignored (event : frame.type = .event) (known : c.eventIDs.lookup frame.seq = some frame.id)
      (same : outcome = (c,.ok []))
  | completed (ready : outcome.1.state = .ready) (reached : outcome.1.lastSeq = c.replayTo)
      (handed : c.replayBuffer <+: deliveries (resultActions outcome.2))
  | terminated (left : outcome.1.state = .disconnected)

/-- A RESUMED WELCOME has fixed the boundary of the attempt and it is not reached yet. -/
structure Client.Bounded (c : Client) : Prop where
  resuming : c.state = .resuming
  settled : c.gapResume = false
  ahead : c.resumeStateNamespaces = [] → c.lastSeq ≠ c.replayTo

section Frame
variable {c : Client} {frame : Envelope} {now : Int}

private theorem dispatch_silent (resuming : c.state = .resuming) (accepts : c.Accepts c.generation frame)
    (silent : c.handleIncoming c.generation frame now = (c,.ok [])) :
    c.dispatch c.generation frame now = (c,.ok []) := by
  unfold Client.handleIncoming at silent
  rw [if_neg (not_not_intro rfl),accepts.valid] at silent
  simp only [accepts.correlated] at silent
  cases dispatched : c.dispatch c.generation frame now with
  | mk next result =>
    rw [dispatched] at silent
    cases result with
    | error error =>
      have same := Client.dispatch_refused c now c.generation frame accepts (by rw [dispatched])
      rw [dispatched] at same
      cases same
      have stays : c.handleIncomingFailure error = (c,.ok []) := silent
      have closes := (failure_closes resuming error).1
      rw [stays,resuming] at closes
      cases closes
    | ok actions => exact silent

private theorem handleReplayEvent_visible (fixed : c.replayTo ≠ 0)
    (next : ¬ (frame.seq ≠ c.lastSeq + UInt64.ofNat c.replayBuffer.length + 1 ∨ frame.seq > c.replayTo)) :
    c.handleReplayEvent frame ≠ (c,.ok []) := by
  unfold Client.handleReplayEvent
  rw [if_neg fixed,if_neg next]
  split
  · exact fun same => nomatch Except.ok.inj (Prod.mk.inj same).2
  simp only
  split
  · intro same
    have buffer := congrArg Client.replayBuffer (Prod.mk.inj same).1
    simp at buffer
  split
  · intro same
    have buffer := congrArg Client.replayBuffer (Prod.mk.inj same).1
    simp at buffer
  · intro same
    have actions := Except.ok.inj (Prod.mk.inj same).2
    simp at actions

private theorem handleResumeStateSnapshot_visible : c.handleResumeStateSnapshot frame ≠ (c,.ok []) := by
  unfold Client.handleResumeStateSnapshot
  repeat' split
  all_goals exact fun same => absurd (Prod.mk.inj same).2 (by simp)

private theorem handleError_visible : c.handleError frame ≠ (c,.ok []) := by
  unfold Client.handleError
  split
  · exact fun same => nomatch Except.ok.inj (Prod.mk.inj same).2
  · unfold Client.applyError
    intro same
    have actions := Except.ok.inj (Prod.mk.inj same).2
    simp at actions

private theorem silent_obeys (resuming : c.state = .resuming)
    (silent : c.handleIncoming c.generation frame now = (c,.ok [])) : ¬ c.Violates frame := by
  intro violates
  have closes : Closes (c.handleIncoming c.generation frame now) := violates.closes resuming
  rw [silent] at closes
  exact absurd (closes.1.symm.trans resuming) (by decide)

private theorem silent_accepts (resuming : c.state = .resuming)
    (silent : c.handleIncoming c.generation frame now = (c,.ok [])) : c.Accepts c.generation frame := by
  refine ⟨rfl,?_,?_⟩
  · cases valid : validateFrame frame c.config.limits c.config.strictValidation with
    | error error => exact (silent_obeys resuming silent (.invalid error valid)).elim
    | ok => rfl
  · cases correlated : c.correlates frame with
    | error error => exact (silent_obeys resuming silent (.foreign error correlated)).elim
    | ok => rfl

private theorem silent_welcome (resuming : c.state = .resuming) (welcome : frame.type = .welcome)
    (silent : c.handleIncoming c.generation frame now = (c,.ok [])) :
    c.Reacknowledges (.handleIncoming c.generation frame) := by
  have accepts := silent_accepts resuming silent
  have dispatched := dispatch_silent resuming accepts silent
  simp only [Client.dispatch,welcome,Client.handleWelcome,resuming] at dispatched
  split at dispatched
  · exact absurd (Prod.mk.inj dispatched).2 (by simp)
  rename_i payload decoded
  unfold Client.handleResumedWelcome at dispatched
  split at dispatched
  · exact absurd (Prod.mk.inj dispatched).2 (by simp)
  rename_i named
  simp only [not_or,not_not,UInt64.not_lt] at named
  split at dispatched
  · exact absurd (Prod.mk.inj dispatched).2 (by simp)
  rename_i sync
  simp only at dispatched
  split at dispatched
  · cases Except.ok.inj (Prod.mk.inj dispatched).2
  rename_i count
  exact ⟨_,frame,payload,rfl,accepts,welcome,
    ⟨resuming,decoded,named.1,named.2.1,named.2.2.1,named.2.2.2,sync⟩,UInt64.not_lt.mp count⟩

private theorem silent_known (bounded : c.Bounded) (welcome : frame.type ≠ .welcome)
    (silent : c.handleIncoming c.generation frame now = (c,.ok [])) :
    frame.type = .event ∧ c.eventIDs.lookup frame.seq = some frame.id := by
  have resuming := bounded.resuming
  have obeys := silent_obeys resuming silent
  have dispatched := dispatch_silent resuming (silent_accepts resuming silent) silent
  by_cases event : frame.type = .event
  · refine ⟨event,?_⟩
    by_contra unknown
    rcases Nat.lt_or_ge c.lastSeq.toNat frame.seq.toNat with later | old
    · rw [← UInt64.lt_iff_toNat_lt] at later
      by_cases unfixed : c.replayTo = 0
      · exact obeys (.early event later unfixed bounded.settled)
      by_cases other : frame.seq ≠ c.lastSeq + UInt64.ofNat c.replayBuffer.length + 1 ∨ c.replayTo < frame.seq
      · exact obeys (.sequence event later unfixed other)
      have handled : c.dispatch c.generation frame now = c.handleReplayEvent frame := by
        simp [Client.dispatch,event,Client.handleEvent,resuming,UInt64.not_le.mpr later]
      exact handleReplayEvent_visible unfixed other (handled.symm.trans dispatched)
    · exact obeys (.identity event (UInt64.le_iff_toNat_le.mpr old) unknown)
  by_cases snapshot : frame.type = .stateSnapshot
  · have handled : c.dispatch c.generation frame now = c.handleResumeStateSnapshot frame := by
      simp [Client.dispatch,snapshot,Client.handleStateSnapshot,resuming]
    exact (handleResumeStateSnapshot_visible (handled.symm.trans dispatched)).elim
  by_cases error : frame.type = .error
  · have handled : c.dispatch c.generation frame now = c.handleError frame := by simp [Client.dispatch,error]
    exact (handleError_visible (handled.symm.trans dispatched)).elim
  · exact (obeys (.unexpected (by simp [recoveryFrames,welcome,event,snapshot,error]))).elim

private theorem reacknowledged_outcome (bounded : c.Bounded) (generation : ConnectionGeneration)
    (again : c.Reacknowledges (.handleIncoming generation frame)) :
    ¬ c.KeepsReplay generation frame (c.step now (.handleIncoming generation frame)) := by
  obtain ⟨_,_,payload,⟨⟩,⟨accepts,welcome,acknowledges,count⟩⟩ := again
  rw [Client.step_welcome now payload accepts welcome acknowledges count]
  intro keeps
  cases keeps with
  | stale old => exact old accepts.current
  | appended continues => exact absurd (welcome.symm.trans continues.event) (by decide)
  | ignored event => exact absurd (welcome.symm.trans event) (by decide)
  | completed ready reached =>
    split at reached
    · rename_i level
      exact bounded.ahead level.2 reached
    · rename_i level
      rw [if_neg level] at ready
      exact absurd (ready.symm.trans bounded.resuming) (by decide)
  | terminated left =>
    split at left
    · cases left
    · exact absurd (left.symm.trans bounded.resuming) (by decide)

private theorem handleIncoming_keeps (bounded : c.Bounded) (formed : c.WellFormed) (generation : ConnectionGeneration)
    (once : ¬ c.Reacknowledges (.handleIncoming generation frame)) :
    c.KeepsReplay generation frame (c.step now (.handleIncoming generation frame)) := by
  have resuming := bounded.resuming
  by_cases current : generation = c.generation
  swap
  · refine .stale current ?_
    change (c.handleIncoming generation frame now).1 = c
    rw [Client.handleIncoming,if_pos current]
    rfl
  subst current
  have transition := c.step_transition now (.handleIncoming c.generation frame)
  have succeeds : ∃ actions, (c.step now (.handleIncoming c.generation frame)).2 = .ok actions := incoming_succeeds resuming
  have recovering : c.Recovering c.resumeStateNamespaces c := ⟨resuming,rfl,rfl⟩
  have ended (ready : (c.step now (.handleIncoming c.generation frame)).1.state = .ready) (later : frame.type ≠ .welcome) :
      (c.step now (.handleIncoming c.generation frame)).1.lastSeq = c.replayTo := by
    obtain ⟨_,_,_,⟨⟩,_,completed⟩ := transition.completes formed recovering ready
    obtain ⟨_,_,_,boundary,_,_,_,_,_,reached⟩ := completed.handed
    cases boundary with
    | fixed => exact reached
    | welcomed _ welcome => exact absurd welcome later
  generalize stepped : c.step now (.handleIncoming c.generation frame) = outcome at transition succeeds ended
  obtain ⟨next,result⟩ := outcome
  cases transition with
  | refused =>
    obtain ⟨_,wrong⟩ := succeeds
    cases wrong
  | silent =>
    by_cases welcome : frame.type = .welcome
    · exact absurd (silent_welcome resuming welcome stepped) once
    · obtain ⟨event,known⟩ := silent_known bounded welcome stepped
      exact .ignored event known rfl
  | welcomed _ _ payload accepts welcome acknowledges count =>
    exact absurd ⟨_,frame,payload,rfl,accepts,welcome,acknowledges,count⟩ once
  | caughtUp _ _ payload accepts welcome acknowledges level =>
    refine absurd ⟨_,frame,payload,rfl,accepts,welcome,acknowledges,?_⟩ once
    rw [level,UInt64.sub_self]
    exact UInt64.zero_le
  | buffered _ _ _ continues => exact .appended continues resuming rfl rfl
  | replayedForState _ _ _ continues => exact .appended continues resuming rfl rfl
  | replayed _ _ _ continues =>
    refine .completed rfl (ended rfl (by simp [continues.event])) ?_
    rw [resultActions,deliveries_append,deliveries_map,List.append_assoc]
    exact List.prefix_append _ _
  | snapshotCompleted _ _ payload merged actions _ completes =>
    refine .completed rfl (ended rfl (by simp [completes.snapshot])) ?_
    rw [resultActions,deliveries_append,deliveries_append,deliveries_map,List.append_assoc]
    exact List.prefix_append _ _
  | stopped | invalidError | errorDropped | errorAbandoned => exact .terminated rfl
  | established _ _ _ _ _ _ starts => simp [resuming] at starts
  | ponged _ _ _ _ _ _ starts | acked _ _ _ _ _ _ starts => simp [resuming] at starts
  | delivered _ _ _ _ ready | gapped _ _ _ _ ready | snapshotApplied _ _ _ _ _ _ _ ready
  | updated _ _ _ _ _ _ _ ready => simp [resuming] at ready
  | errorKept _ _ _ _ _ steady => exact absurd resuming steady
  | resumed _ _ starts => simp [resuming] at starts

end Frame

section Attempt
variable {c : Client}

private theorem Client.Bounded.welcomed {payload : WelcomePayload} (resuming : c.state = .resuming)
    (unfinished : ¬ (payload.replayTo = c.lastSeq ∧ c.resumeStateNamespaces = [])) : (c.fixReplay payload.replayTo).Bounded where
  resuming := resuming
  settled := rfl
  ahead := fun plain level => unfinished ⟨level.symm,plain⟩

private theorem Transition.bounded {next : Client} {now : Int} {call : Call} {result : Except Err (List Action)}
    (transition : Transition c now call next result) (bounded : c.Bounded) (once : ¬ c.Reacknowledges call)
    (lasts : next.state = .resuming) :
    next.Bounded ∧ next.replayTo = c.replayTo ∧ c.replayBuffer <+: next.replayBuffer := by
  have resuming := bounded.resuming
  cases transition with
  | refused | silent => exact ⟨bounded,rfl,List.prefix_rfl⟩
  | welcomed _ frame payload accepts welcome acknowledges count =>
    exact absurd ⟨_,frame,payload,rfl,accepts,welcome,acknowledges,count⟩ once
  | buffered | replayedForState =>
    exact ⟨⟨resuming,bounded.settled,bounded.ahead⟩,rfl,List.prefix_append _ _⟩
  | retried ready | queried _ _ _ _ _ ready | enqueued _ _ _ _ ready | pinged _ _ ready | delivered _ _ _ _ ready
  | gapped _ _ _ _ ready | snapshotApplied _ _ _ _ _ _ _ ready | updated _ _ _ _ _ _ _ ready =>
    simp [resuming] at ready
  | ponged _ _ _ _ _ _ starts | acked _ _ _ _ _ _ starts => simp [resuming] at starts
  | errorKept _ _ _ _ _ steady => exact absurd resuming steady
  | resumed _ _ starts => simp [resuming] at starts
  | _ => cases lasts

/-- The calls `later` are made while the attempt lasts, none of them hands over another acknowledged WELCOME. -/
structure Client.Continued (c : Client) (later : List (Int × Call)) : Prop where
  lasts : ∀ first, first <+: later → (c.run first).state = .resuming
  once : ∀ first call, first++[call] <+: later → ¬ (c.run first).Reacknowledges call.2

private theorem Client.Bounded.run (bounded : c.Bounded) (later : List (Int × Call)) (continued : c.Continued later) :
    (c.run later).Bounded ∧ (c.run later).replayTo = c.replayTo ∧
      ∀ first, first <+: later → (c.run first).replayBuffer <+: (c.run later).replayBuffer := by
  induction later using List.reverseRecOn with
  | nil =>
    refine ⟨bounded,rfl,fun first begins => ?_⟩
    rw [List.prefix_nil.mp begins]
  | append_singleton later call ih =>
    have before : c.Continued later :=
      ⟨fun first begins => continued.lasts first (begins.trans (List.prefix_append _ _)),
        fun first call begins => continued.once first call (begins.trans (List.prefix_append _ _))⟩
    obtain ⟨held,boundary,grows⟩ := ih before
    have transition := (c.run later).step_transition call.1 call.2
    have stays := continued.lasts (later++[call]) List.prefix_rfl
    rw [Client.run_append] at stays ⊢
    obtain ⟨next,same,longer⟩ := transition.bounded held (continued.once later call List.prefix_rfl) stays
    refine ⟨next,same.trans boundary,fun first begins => ?_⟩
    rcases List.prefix_concat_iff.mp begins with whole | shorter
    · rw [whole,Client.run_append]
    · exact (grows first shorter).trans longer

end Attempt

/-- After a RESUMED WELCOME was accepted, and as long as no other one is acknowledged in
the attempt, the boundary stays and the replay only grows; a frame keeps to that exactly
when it is not another WELCOME the client acknowledges. -/
theorem replay_boundary_fixed (config : ClientConfig) (initial : Client) (before later : List (Int × Call))
    (generation : ConnectionGeneration) (welcome : Envelope) (payload : WelcomePayload) (now : Int)
    (created : newClientProtocol config = .ok initial)
    (accepted : (initial.run before).AcceptsWelcome generation welcome payload)
    (resumes : ((initial.run before).step now (.handleIncoming generation welcome)).1.state = .resuming)
    (continued : ((initial.run before).step now (.handleIncoming generation welcome)).1.Continued later) :
    let start := ((initial.run before).step now (.handleIncoming generation welcome)).1
    let c := start.run later
    c.replayTo = payload.replayTo ∧
    (∀ first, first <+: later → (start.run first).replayBuffer <+: c.replayBuffer) ∧
    ∀ now generation frame, c.KeepsReplay generation frame (c.step now (.handleIncoming generation frame)) ↔
      ¬ c.Reacknowledges (.handleIncoming generation frame) := by
  intro start c
  have stepped := Client.step_welcome now payload accepted.accepts accepted.welcome accepted.acknowledges accepted.count
  have unfinished : ¬ (payload.replayTo = (initial.run before).lastSeq ∧ (initial.run before).resumeStateNamespaces = []) := by
    intro level
    rw [stepped,if_pos level] at resumes
    cases resumes
  have fixed : start = (initial.run before).fixReplay payload.replayTo := by
    change ((initial.run before).step now (.handleIncoming generation welcome)).1 = _
    rw [stepped,if_neg unfinished]
  have bounded : start.Bounded := fixed ▸ .welcomed accepted.acknowledges.resuming unfinished
  obtain ⟨held,boundary,grows⟩ := bounded.run later continued
  have formed : c.WellFormed := by
    obtain ⟨_,bytes,_⟩ := newClientProtocol_fresh config initial created
    have whole := (newClientProtocol_wellFormed config initial created).run bytes
      (before++(now,.handleIncoming generation welcome)::later)
    rw [Client.run_append] at whole
    exact whole
  refine ⟨boundary.trans (by rw [fixed]; rfl),grows,fun now generation frame => ⟨fun keeps again => ?_,fun once => ?_⟩⟩
  · exact reacknowledged_outcome held generation again keeps
  · exact handleIncoming_keeps held formed generation once

def secondWelcome (replayTo : UInt64) : Envelope :=
  {type := .welcome, sessionID := lit "s",
   payload := WelcomePayload.marshal {mode := welcomeModeResumed, resumeFrom := 1, replayTo := replayTo}}

/-- A second WELCOME in the middle of a replay moves its boundary and discards the EVENT collected. -/
theorem second_welcome_restarts_replay :
    let c := Client.run {config := {}} gapCalls
    c.state = .resuming ∧ c.replayTo = 3 ∧ c.replayBuffer.length = 1 ∧
      ((c.step 0 (.handleIncoming 1 (secondWelcome 2))).1.state = .resuming ∧
        (c.step 0 (.handleIncoming 1 (secondWelcome 2))).1.replayTo = 2 ∧
        (c.step 0 (.handleIncoming 1 (secondWelcome 2))).1.replayBuffer = []) ∧
      ¬ c.KeepsReplay 1 (secondWelcome 2) (c.step 0 (.handleIncoming 1 (secondWelcome 2))) := by
  intro c
  have unfinished : (c.step 0 (.handleIncoming 1 (secondWelcome 2))).1.state = .resuming := by decide +kernel
  refine ⟨by decide +kernel,by decide +kernel,by decide +kernel,⟨unfinished,by decide +kernel,by decide +kernel⟩,?_⟩
  intro keeps
  cases keeps with
  | stale old => exact absurd (by decide +kernel) old
  | appended continues => exact absurd continues.event (by decide)
  | ignored event => exact absurd event (by decide)
  | completed ready => exact absurd (ready.symm.trans unfinished) (by decide)
  | terminated left => exact absurd (left.symm.trans unfinished) (by decide)

theorem replay_boundary_fixed_gap :
    let start := ((Client.run {config := {}} (gapCalls.take 5)).step 0 (.handleIncoming 1 (secondWelcome 3))).1
    let c := start.run [(0,.handleIncoming 1 (laterEvent (lit "e1") 1))]
    c.replayTo = 3 ∧ c.replayBuffer.length = 1 ∧
      c.KeepsReplay 1 (laterEvent (lit "e2") 2) (c.step 0 (.handleIncoming 1 (laterEvent (lit "e2") 2))) := by
  intro start c
  have accepted : (Client.run {config := {}} (gapCalls.take 5)).AcceptsWelcome 1 (secondWelcome 3)
      {mode := welcomeModeResumed, resumeFrom := 1, replayTo := 3} :=
    ⟨⟨by decide +kernel,by decide +kernel,by decide +kernel⟩,rfl,
      ⟨by decide +kernel,by decide +kernel,rfl,by decide +kernel,by decide +kernel,by decide +kernel,by decide +kernel⟩,
      by decide +kernel⟩
  have continued : start.Continued [(0,.handleIncoming 1 (laterEvent (lit "e1") 1))] := by
    refine ⟨fun first begins => ?_,fun first call begins again => ?_⟩
    · rcases List.prefix_cons_iff.mp begins with rfl | ⟨rest,rfl,none⟩
      · decide +kernel
      · rw [List.prefix_nil.mp none]
        decide +kernel
    · obtain ⟨_,rfl⟩ : first = [] ∧ call = (0,.handleIncoming 1 (laterEvent (lit "e1") 1)) := by
        rcases List.prefix_cons_iff.mp begins with none | ⟨rest,whole,none⟩
        · simp at none
        · rw [List.prefix_nil.mp none] at whole
          cases first with
          | nil => simpa using whole
          | cons _ _ => simp at whole
      obtain ⟨_,_,_,⟨⟩,accepted⟩ := again
      exact absurd accepted.welcome (by decide)
  obtain ⟨boundary,_,frames⟩ := replay_boundary_fixed {} {config := {}} (gapCalls.take 5)
    [(0,.handleIncoming 1 (laterEvent (lit "e1") 1))] 1 (secondWelcome 3)
    {mode := welcomeModeResumed, resumeFrom := 1, replayTo := 3} 0 rfl accepted (by decide +kernel) continued
  have one : c.replayBuffer.length = 1 := by decide +kernel
  have next := frames 0 1 (laterEvent (lit "e2") 2)
  refine ⟨boundary,one,next.mpr ?_⟩
  rintro ⟨_,_,_,⟨⟩,accepted⟩
  exact absurd accepted.welcome (by decide)

end Kmtproto
