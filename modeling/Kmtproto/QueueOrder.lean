import Kmtproto.StreamRules

/-! What one queue shows of the stream of one session: the EVENTs since the last RESUMED
WELCOME rise from where it resumes, and those left out have a reason. -/
namespace Kmtproto
open Json Interaction

def eventNumber (sessionID : Bytes) (frame : Envelope) : Option Nat :=
  if frame.type = .event ∧ frame.sessionID = sessionID then some frame.seq.toNat else none

def eventNumbers (sessionID : Bytes) (frames : List Envelope) : List Nat := frames.filterMap (eventNumber sessionID)

/-- The last RESUMED WELCOME of the session, with the numbers of the EVENTs after it. -/
def segmentStep (strict : Bool) (sessionID : Bytes) (segment : Option (WelcomePayload × List Nat)) (frame : Envelope) :
    Option (WelcomePayload × List Nat) :=
  match resumption strict sessionID frame with
  | some payload => some (payload,[])
  | none => segment.map (fun current => (current.1,current.2++(eventNumber sessionID frame).toList))

def segment (strict : Bool) (sessionID : Bytes) (frames : List Envelope) : Option (WelcomePayload × List Nat) :=
  frames.foldl (segmentStep strict sessionID) none

section Segments
variable {strict : Bool} {sessionID : Bytes}

theorem eventNumber_some {frame : Envelope} {number : Nat} (found : eventNumber sessionID frame = some number) :
    frame.type = .event ∧ frame.sessionID = sessionID ∧ frame.seq.toNat = number := by
  unfold eventNumber at found
  split at found
  · rename_i both
    exact ⟨both.1,both.2,Option.some.inj found⟩
  · cases found

theorem segment_others (start : Option (WelcomePayload × List Nat)) (frames : List Envelope)
    (others : ∀ frame ∈ frames, resumption strict sessionID frame = none ∧ eventNumber sessionID frame = none) :
    frames.foldl (segmentStep strict sessionID) start = start := by
  induction frames generalizing start with
  | nil => rfl
  | cons frame frames ih =>
    obtain ⟨resumed,numbered⟩ := others frame (List.mem_cons_self ..)
    have same : segmentStep strict sessionID start frame = start := by
      simp [segmentStep,resumed,numbered]
    rw [List.foldl_cons,same]
    exact ih start (fun other member => others other (List.mem_cons_of_mem _ member))

theorem segment_middle (payload : WelcomePayload) (numbers : List Nat) (frames : List Envelope)
    (plain : ∀ frame ∈ frames, resumption strict sessionID frame = none) :
    frames.foldl (segmentStep strict sessionID) (some (payload,numbers)) =
      some (payload,numbers++eventNumbers sessionID frames) := by
  induction frames generalizing numbers with
  | nil => simp [eventNumbers]
  | cons frame frames ih =>
    have step : segmentStep strict sessionID (some (payload,numbers)) frame =
        some (payload,numbers++(eventNumber sessionID frame).toList) := by
      simp [segmentStep,plain frame (List.mem_cons_self ..)]
    rw [List.foldl_cons,step,ih _ (fun other member => plain other (List.mem_cons_of_mem _ member))]
    simp only [eventNumbers,List.filterMap_cons]
    cases eventNumber sessionID frame <;> simp

theorem segment_mem {frames : List Envelope} {payload : WelcomePayload} {numbers : List Nat} {number : Nat}
    (current : segment strict sessionID frames = some (payload,numbers)) (member : number ∈ numbers) :
    ∃ frame ∈ frames, eventNumber sessionID frame = some number := by
  induction frames using List.reverseRecOn generalizing payload numbers with
  | nil => cases current
  | append_singleton frames frame ih =>
    rw [segment,List.foldl_append,List.foldl_cons,List.foldl_nil,segmentStep] at current
    split at current
    · cases current
      cases member
    · obtain ⟨⟨_,before⟩,was,same⟩ := Option.map_eq_some_iff.mp current
      cases same
      rcases List.mem_append.mp member with old | new
      · obtain ⟨other,inside,numbered⟩ := ih was old
        exact ⟨other,List.mem_append_left _ inside,numbered⟩
      · exact ⟨frame,by simp,Option.mem_toList.mp new⟩


def Foreign (strict : Bool) (sessionID : Bytes) (frames : List Envelope) : Prop :=
  ∀ frame ∈ frames, resumption strict sessionID frame = none ∧ eventNumber sessionID frame = none

variable {log frames : List Envelope}

theorem Foreign.part {part : List Envelope} (foreign : Foreign strict sessionID frames) (inside : part <+: frames) :
    Foreign strict sessionID part :=
  fun frame member => foreign frame (inside.subset member)

theorem segment_foreign (foreign : Foreign strict sessionID frames) :
    segment strict sessionID (log++frames) = segment strict sessionID log := by
  rw [segment,List.foldl_append]
  exact segment_others _ frames foreign

theorem segment_event {event : Envelope} (silent : resumption strict sessionID event = none) :
    segment strict sessionID (log++[event]) = (segment strict sessionID log).map
      (fun current => (current.1,current.2++(eventNumber sessionID event).toList)) := by
  rw [segment,List.foldl_append,List.foldl_cons,List.foldl_nil,segmentStep,silent]
  rfl

/-- A RESUMED WELCOME starts the segment anew. -/
theorem segment_resumed {welcome : Envelope} {payload : WelcomePayload}
    (opens : resumption strict sessionID welcome = some payload)
    (silent : ∀ frame ∈ frames, resumption strict sessionID frame = none) :
    segment strict sessionID (log ++ welcome::frames) = some (payload,eventNumbers sessionID frames) := by
  have step (before : Option (WelcomePayload × List Nat)) :
      segmentStep strict sessionID before welcome = some (payload,[]) := by
    rw [segmentStep,opens]
  rw [segment,List.foldl_append,List.foldl_cons,step]
  exact segment_middle payload [] frames silent

end Segments

theorem Envelope.Unstreamed.foreign {strict : Bool} {frames : List Envelope}
    (plain : ∀ frame ∈ frames, frame.Unstreamed strict) (sessionID : Bytes) : Foreign strict sessionID frames :=
  fun frame member => ⟨(plain frame member).2 sessionID,if_neg (fun both => (plain frame member).1 both.1)⟩

/-- Numbers that rise from a first one, each number left out having a reason. -/
structure Rising (first : Nat) (numbers : List Nat) (reason : Nat → Prop) : Prop where
  sorted : numbers.Pairwise (· < ·)
  above : ∀ number ∈ numbers, first ≤ number
  skipped : ∀ last ∈ numbers, ∀ number, first ≤ number → number < last → number ∈ numbers ∨ reason number

theorem Rising.mono {first : Nat} {numbers : List Nat} {reason weaker : Nat → Prop} (rising : Rising first numbers reason)
    (implies : ∀ number, reason number → weaker number) : Rising first numbers weaker :=
  ⟨rising.sorted,rising.above,fun last member number low high =>
    (rising.skipped last member number low high).imp_right (implies number)⟩

/-- A larger number joins when those it skips have their reasons. -/
theorem Rising.snoc {first last : Nat} {numbers : List Nat} {reason : Nat → Prop} (rising : Rising first numbers reason)
    (less : ∀ number ∈ numbers, number < last) (low : first ≤ last)
    (skipped : ∀ number, first ≤ number → number < last → number ∈ numbers ∨ reason number) :
    Rising first (numbers++[last]) reason := by
  refine ⟨?_,?_,?_⟩
  · refine List.pairwise_append.mpr ⟨rising.sorted,List.pairwise_singleton _ _,fun number member other equal => ?_⟩
    rw [List.mem_singleton.mp equal]
    exact less number member
  · intro number member
    rcases List.mem_append.mp member with old | new
    · exact rising.above number old
    · rw [List.mem_singleton.mp new]
      exact low
  · intro top member number above below
    have shorter : number < last := by
      rcases List.mem_append.mp member with old | new
      · exact below.trans (less top old)
      · rwa [← List.mem_singleton.mp new]
    exact (skipped number above shorter).imp_left (List.mem_append_left _)

theorem rising_range {first count : Nat} {numbers : List Nat} (part : numbers <+: List.range' first count)
    (reason : Nat → Prop) : Rising first numbers reason := by
  have same : numbers = List.range' first numbers.length := by
    refine List.ext_getElem (by simp) (fun index low high => ?_)
    rw [part.getElem low,List.getElem_range',List.getElem_range']
  rw [same]
  refine ⟨List.pairwise_lt_range' ..,fun number member => (List.mem_range'_1.mp member).1,?_⟩
  intro last member number low high
  rw [List.mem_range'_1] at member ⊢
  exact .inl ⟨low,by omega⟩

section Batch
variable {config : ServerConfig} {frame : Envelope} {replayTo : UInt64} {resume : ResumePayload} {welcome : Envelope}
  {events : List Envelope} {snapshot : Option Envelope}

theorem ResumeBatch.opens (batch : ResumeBatch config frame replayTo resume welcome events snapshot) :
    ∃ payload : WelcomePayload, payload.resumeFrom.toNat = resume.lastSeq.toNat + 1 ∧ payload.replayTo = replayTo ∧
      ∀ sessionID, resumption config.strictValidation sessionID welcome =
        if frame.sessionID = sessionID then some payload else none := by
  obtain ⟨serverTime,decoded⟩ := batch.payload
  refine ⟨{mode := welcomeModeResumed, serverTime := serverTime, resumeFrom := resume.lastSeq+1, replayTo := replayTo,
            stateSync := resume.stateSync},?_,rfl,fun sessionID => ?_⟩
  · have room := batch.bounded.2
    rw [UInt64.toNat_add,UInt64.toNat_one,Nat.mod_eq_of_lt room]
  · unfold resumption
    simp only [batch.type,batch.session,true_and,decoded,if_pos]

theorem ResumeBatch.snapshot_type (batch : ResumeBatch config frame replayTo resume welcome events snapshot)
    {sent : Envelope} (member : sent ∈ snapshot.toList) : sent.type = .stateSnapshot := by
  have state := batch.snapshot
  rw [Option.mem_toList.mp member] at state
  generalize resume.stateSync = asked at state
  cases state with
  | some conforms => exact conforms.type

theorem ResumeBatch.follows (batch : ResumeBatch config frame replayTo resume welcome events snapshot)
    {sent : Envelope} (member : sent ∈ events++snapshot.toList) (sessionID : Bytes) :
    resumption config.strictValidation sessionID sent = none ∧
      (frame.sessionID ≠ sessionID → eventNumber sessionID sent = none) := by
  rcases List.mem_append.mp member with event | state
  · obtain ⟨_,type,session⟩ := batch.replayed sent event
    exact ⟨resumption_other (by rw [type]; simp),fun other => if_neg (fun both => other (session.symm.trans both.2))⟩
  · have type := batch.snapshot_type state
    exact ⟨resumption_other (by rw [type]; simp),fun _ => if_neg (by rw [type]; simp)⟩

theorem ResumeBatch.foreign (batch : ResumeBatch config frame replayTo resume welcome events snapshot) {sessionID : Bytes}
    (other : frame.sessionID ≠ sessionID) :
    Foreign config.strictValidation sessionID (welcome::(events++snapshot.toList)) := by
  intro sent member
  rcases List.mem_cons.mp member with rfl | rest
  · obtain ⟨_,_,_,opens⟩ := batch.opens
    rw [opens,if_neg other]
    exact ⟨rfl,if_neg (by rw [batch.type]; simp)⟩
  · exact ⟨(batch.follows rest sessionID).1,(batch.follows rest sessionID).2 other⟩

/-- The EVENTs of a resume batch are numbered up to the boundary. -/
theorem ResumeBatch.counts (batch : ResumeBatch config frame replayTo resume welcome events snapshot) :
    eventNumbers frame.sessionID (events++snapshot.toList) =
      List.range' (resume.lastSeq.toNat+1) (replayTo.toNat - resume.lastSeq.toNat) := by
  have states : eventNumbers frame.sessionID snapshot.toList = [] :=
    List.filterMap_eq_nil_iff.mpr (fun sent member => if_neg (by rw [batch.snapshot_type member]; simp))
  have replayed : eventNumbers frame.sessionID events = events.map (fun event => event.seq.toNat) := by
    rw [eventNumbers,← List.filterMap_eq_map]
    refine List.filterMap_congr (fun event member => ?_)
    obtain ⟨_,type,session⟩ := batch.replayed event member
    exact if_pos ⟨type,session⟩
  rw [eventNumbers,List.filterMap_append,← eventNumbers,← eventNumbers,states,List.append_nil,replayed,batch.numbered]

end Batch

theorem prefix_append {α : Type} {front log frames : List α} (first : front <+: log++frames) :
    front <+: log ∨ ∃ part, part <+: frames ∧ front = log++part := by
  rcases List.prefix_or_prefix_of_prefix first (List.prefix_append log frames) with short | ⟨rest,rfl⟩
  · exact .inl short
  · exact .inr ⟨rest,(List.prefix_append_right_inj log).mp first,rfl⟩

theorem append_cases {α : Type} {log frames before rest : List α} {entry : α}
    (same : log++frames = before ++ entry::rest) :
    (∃ middle, log = before ++ entry::middle ∧ rest = middle++frames) ∨
    (∃ middle, before = log++middle ∧ frames = middle ++ entry::rest) := by
  rcases List.append_eq_append_iff.mp same with ⟨middle,rfl,form⟩ | ⟨middle,rfl,form⟩
  · exact .inr ⟨middle,rfl,form⟩
  · cases middle with
    | nil =>
      rw [List.nil_append] at form
      exact .inr ⟨[],by simp,by simpa using form.symm⟩
    | cons head tail =>
      rw [List.cons_append] at form
      obtain ⟨rfl,rfl⟩ := List.cons.inj form
      exact .inl ⟨tail,rfl,rfl⟩


structure Ahead (strict : Bool) (sessionID : Bytes) (top : Nat) (log : List Envelope) : Prop where
  unused : ∀ frame ∈ log, ∀ number, eventNumber sessionID frame = some number → number < top
  started : ∀ payload numbers, segment strict sessionID log = some (payload,numbers) → payload.resumeFrom.toNat ≤ top

/-- What the queue shows of a stream with so many events: in the segment of the last RESUMED
WELCOME only absent events are left out, and before a later one of the segment only those
that are gone. -/
structure Ordered (config : ServerConfig) (sessionID : Bytes) (water : Nat) (absent gone : Nat → Prop)
    (log : List Envelope) : Prop where
  ahead : Ahead config.strictValidation sessionID (water+1) log
  current : ∀ payload numbers, segment config.strictValidation sessionID log = some (payload,numbers) →
    ∀ number, payload.resumeFrom.toNat ≤ number → number ≤ water → number ∈ numbers ∨ absent number
  settled : ∀ front payload numbers, front <+: log →
    segment config.strictValidation sessionID front = some (payload,numbers) →
    Rising payload.resumeFrom.toNat numbers gone
  batches : ∀ before welcome rest payload, log = before ++ welcome::rest →
    resumption config.strictValidation sessionID welcome = some payload →
    ∃ frame resume events snapshot after, rest = events ++ snapshot.toList ++ after ∧
      ResumeBatch config frame payload.replayTo resume welcome events snapshot

section Queue
variable {config : ServerConfig} {strict : Bool} {sessionID : Bytes} {water : Nat} {absent gone : Nat → Prop}
  {log frames : List Envelope} {event : Envelope}

theorem Ahead.foreign {top : Nat} (ahead : Ahead strict sessionID top log) (foreign : Foreign strict sessionID frames) :
    Ahead strict sessionID top (log++frames) where
  unused frame member number numbered := by
    rcases List.mem_append.mp member with old | new
    · exact ahead.unused frame old number numbered
    · rw [(foreign frame new).2] at numbered
      cases numbered
  started payload numbers now := by
    rw [segment_foreign foreign] at now
    exact ahead.started payload numbers now

theorem Ordered.empty (config : ServerConfig) (sessionID : Bytes) (water : Nat) (absent gone : Nat → Prop) :
    Ordered config sessionID water absent gone [] where
  ahead := ⟨by simp,by simp [segment]⟩
  current := by simp [segment]
  settled front payload numbers part now := by
    rw [List.prefix_nil.mp part] at now
    cases now
  batches := by simp

theorem Ordered.mono {weaker lost : Nat → Prop} (ordered : Ordered config sessionID water absent gone log)
    (absents : ∀ number, absent number → weaker number) (losses : ∀ number, gone number → lost number) :
    Ordered config sessionID water weaker lost log where
  ahead := ordered.ahead
  current payload numbers now number low high :=
    (ordered.current payload numbers now number low high).imp_right (absents number)
  settled front payload numbers part now := (ordered.settled front payload numbers part now).mono losses
  batches := ordered.batches

theorem Ordered.batches_append (ordered : Ordered config sessionID water absent gone log)
    (silent : ∀ frame ∈ frames, resumption config.strictValidation sessionID frame = none)
    {before rest : List Envelope} {welcome : Envelope} {payload : WelcomePayload}
    (form : log++frames = before ++ welcome::rest)
    (resumed : resumption config.strictValidation sessionID welcome = some payload) :
    ∃ frame resume events snapshot after, rest = events ++ snapshot.toList ++ after ∧
      ResumeBatch config frame payload.replayTo resume welcome events snapshot := by
  rcases append_cases form with ⟨middle,old,rfl⟩ | ⟨middle,_,inside⟩
  · obtain ⟨frame,resume,events,snapshot,after,rfl,batch⟩ := ordered.batches before welcome middle payload old resumed
    exact ⟨frame,resume,events,snapshot,after++frames,by simp,batch⟩
  · rw [silent welcome (by rw [inside]; simp)] at resumed
    cases resumed

theorem Ordered.foreign (ordered : Ordered config sessionID water absent gone log)
    (foreign : Foreign config.strictValidation sessionID frames) :
    Ordered config sessionID water absent gone (log++frames) where
  ahead := ordered.ahead.foreign foreign
  current payload numbers now := by
    rw [segment_foreign foreign] at now
    exact ordered.current payload numbers now
  settled front payload numbers part now := by
    rcases prefix_append part with old | ⟨more,inside,rfl⟩
    · exact ordered.settled front payload numbers old now
    · rw [segment_foreign (foreign.part inside)] at now
      exact ordered.settled log payload numbers (List.prefix_refl _) now
  batches _ _ _ _ form resumed := ordered.batches_append (fun frame member => (foreign frame member).1) form resumed

theorem Ordered.raise (ordered : Ordered config sessionID water absent gone log) (top : absent (water+1)) :
    Ordered config sessionID (water+1) absent gone log where
  ahead :=
    ⟨fun frame member number numbered => Nat.lt_succ_of_lt (ordered.ahead.unused frame member number numbered),
      fun payload numbers now => Nat.le_succ_of_le (ordered.ahead.started payload numbers now)⟩
  current payload numbers now number low high := by
    rcases Nat.le_succ_iff.mp high with old | rfl
    · exact ordered.current payload numbers now number low old
    · exact .inr top
  settled := ordered.settled
  batches := ordered.batches

section Event
variable (ordered : Ordered config sessionID water absent gone log)
  (numbered : eventNumber sessionID event = some water)
  (silent : resumption config.strictValidation sessionID event = none)
include ordered numbered silent

private theorem Ordered.ahead_event : Ahead config.strictValidation sessionID (water+1) (log++[event]) where
  unused frame member number equal := by
    rcases List.mem_append.mp member with old | new
    · exact ordered.ahead.unused frame old number equal
    · rw [List.mem_singleton.mp new,numbered] at equal
      cases equal
      exact Nat.lt_succ_self _
  started payload numbers now := by
    rw [segment_event silent] at now
    obtain ⟨⟨start,before⟩,was,same⟩ := Option.map_eq_some_iff.mp now
    cases same
    exact ordered.ahead.started start before was

private theorem Ordered.current_event {payload : WelcomePayload} {numbers : List Nat}
    (now : segment config.strictValidation sessionID (log++[event]) = some (payload,numbers)) {number : Nat}
    (low : payload.resumeFrom.toNat ≤ number) (high : number ≤ water) :
    number ∈ numbers ∨ absent number ∧ number ≠ water := by
  rw [segment_event silent,numbered] at now
  obtain ⟨⟨start,before⟩,was,same⟩ := Option.map_eq_some_iff.mp now
  cases same
  by_cases last : number = water
  · exact .inl (List.mem_append_right _ (by simp [last]))
  · exact (ordered.current start before was number low high).imp (List.mem_append_left _) (fun away => ⟨away,last⟩)

-- the event is the last of its stream, so it may join the segment
private theorem Ordered.settled_event (ahead : Ahead config.strictValidation sessionID water log)
    (lost : ∀ number < water, absent number → gone number) {payload : WelcomePayload} {numbers : List Nat}
    (now : segment config.strictValidation sessionID (log++[event]) = some (payload,numbers)) :
    Rising payload.resumeFrom.toNat numbers gone := by
  rw [segment_event silent,numbered] at now
  obtain ⟨⟨start,before⟩,was,same⟩ := Option.map_eq_some_iff.mp now
  cases same
  refine (ordered.settled log start before (List.prefix_refl _) was).snoc (fun number member => ?_)
    (ahead.started start before was) (fun number low high => ?_)
  · obtain ⟨frame,inside,equal⟩ := segment_mem was member
    exact ahead.unused frame inside number equal
  · exact (ordered.current start before was number low (Nat.le_of_lt high)).imp_right (lost number high)

/-- The last event of the stream is appended to the queue. -/
theorem Ordered.sent (ahead : Ahead config.strictValidation sessionID water log)
    (lost : ∀ number < water, absent number → gone number) :
    Ordered config sessionID water (fun number => absent number ∧ number ≠ water) gone (log++[event]) where
  ahead := ordered.ahead_event numbered silent
  current _ _ now _ low high := ordered.current_event numbered silent now low high
  settled front payload numbers part now := by
    rcases List.prefix_concat_iff.mp part with rfl | old
    · exact ordered.settled_event numbered silent ahead lost now
    · exact ordered.settled front payload numbers old now
  batches _ _ _ _ form resumed :=
    ordered.batches_append (fun frame member => by rw [List.mem_singleton.mp member]; exact silent) form resumed

end Event

section Resume
variable (ordered : Ordered config sessionID water absent gone log) {frame : Envelope} {replayTo : UInt64}
  {resume : ResumePayload} {welcome : Envelope} {events : List Envelope} {snapshot : Option Envelope}
  (batch : ResumeBatch config frame replayTo resume welcome events snapshot) (own : frame.sessionID = sessionID)
include batch own

/-- A part of the batch that has the WELCOME is a segment of its own. -/
private theorem segment_batch (log : List Envelope) : ∃ start : WelcomePayload,
    start.resumeFrom.toNat = resume.lastSeq.toNat + 1 ∧ start.replayTo = replayTo ∧
    resumption config.strictValidation sessionID welcome = some start ∧
    ∀ rest, rest <+: events++snapshot.toList →
      segment config.strictValidation sessionID (log ++ welcome::rest) = some (start,eventNumbers sessionID rest) := by
  obtain ⟨start,first,last,opens⟩ := batch.opens
  have resumed : resumption config.strictValidation sessionID welcome = some start := by rw [opens,if_pos own]
  exact ⟨start,first,last,resumed,fun rest part =>
    segment_resumed resumed (fun sent member => (batch.follows (part.subset member) sessionID).1)⟩

private theorem counts_batch : eventNumbers sessionID (events++snapshot.toList) =
    List.range' (resume.lastSeq.toNat+1) (replayTo.toNat - resume.lastSeq.toNat) := by
  rw [← own]
  exact batch.counts

include ordered

private theorem Ordered.ahead_batch (level : replayTo.toNat = water) :
    Ahead config.strictValidation sessionID (water+1) (log ++ welcome::(events++snapshot.toList)) where
  unused sent member number equal := by
    rcases List.mem_append.mp member with old | new
    · exact ordered.ahead.unused sent old number equal
    rcases List.mem_cons.mp new with rfl | rest
    · have type := (eventNumber_some equal).1
      rw [batch.type] at type
      cases type
    · have counted : number ∈ eventNumbers sessionID (events++snapshot.toList) := List.mem_filterMap.mpr ⟨sent,rest,equal⟩
      rw [counts_batch batch own,List.mem_range'_1] at counted
      omega
  started payload numbers now := by
    obtain ⟨start,first,_,_,anew⟩ := segment_batch batch own log
    rw [anew _ (List.prefix_refl _)] at now
    cases now
    have bounds := batch.bounded
    omega

private theorem Ordered.settled_batch {front : List Envelope} {payload : WelcomePayload} {numbers : List Nat}
    (part : front <+: log ++ welcome::(events++snapshot.toList))
    (now : segment config.strictValidation sessionID front = some (payload,numbers)) :
    Rising payload.resumeFrom.toNat numbers gone := by
  rcases prefix_append part with old | ⟨more,inside,rfl⟩
  · exact ordered.settled front payload numbers old now
  rcases List.prefix_cons_iff.mp inside with rfl | ⟨rest,rfl,shares⟩
  · rw [List.append_nil] at now
    exact ordered.settled log payload numbers (List.prefix_refl _) now
  · obtain ⟨start,first,_,_,anew⟩ := segment_batch batch own log
    rw [anew rest shares] at now
    cases now
    have shorter : eventNumbers sessionID rest <+: _ := List.IsPrefix.filterMap _ shares
    rw [← eventNumbers,counts_batch batch own,← first] at shorter
    exact rising_range shorter _

private theorem Ordered.batches_batch {before rest : List Envelope} {sent : Envelope} {payload : WelcomePayload}
    (form : log ++ welcome::(events++snapshot.toList) = before ++ sent::rest)
    (resumed : resumption config.strictValidation sessionID sent = some payload) :
    ∃ frame resume events snapshot after, rest = events ++ snapshot.toList ++ after ∧
      ResumeBatch config frame payload.replayTo resume sent events snapshot := by
  rcases append_cases form with ⟨middle,old,rfl⟩ | ⟨middle,_,inside⟩
  · obtain ⟨frame,resume,events,snapshot,behind,rfl,batch⟩ := ordered.batches before sent middle payload old resumed
    exact ⟨frame,resume,events,snapshot,_,List.append_assoc ..,batch⟩
  cases middle with
  | nil =>
    obtain ⟨rfl,rfl⟩ := List.cons.inj inside
    obtain ⟨start,_,last,opens,_⟩ := segment_batch batch own log
    cases opens.symm.trans resumed
    exact ⟨frame,resume,events,snapshot,[],by simp,by rw [last]; exact batch⟩
  | cons head middle =>
    obtain ⟨_,inside⟩ := List.cons.inj inside
    rw [(batch.follows (by rw [inside]; simp) sessionID).1] at resumed
    cases resumed

/-- A batch that replays the stream to its end is appended to the queue. -/
theorem Ordered.resumed (level : replayTo.toNat = water) :
    Ordered config sessionID water absent gone (log ++ welcome::(events++snapshot.toList)) where
  ahead := ordered.ahead_batch batch own level
  current payload numbers now number low high := by
    obtain ⟨start,first,_,_,anew⟩ := segment_batch batch own log
    rw [anew _ (List.prefix_refl _),counts_batch batch own] at now
    cases now
    refine .inl (List.mem_range'_1.mpr ?_)
    omega
  settled _ _ _ part now := ordered.settled_batch batch own part now
  batches _ _ _ _ form resumed := ordered.batches_batch batch own form resumed

end Resume

end Queue

end Kmtproto
