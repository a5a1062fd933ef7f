import Kmtproto.ServerEffects
import Kmtproto.ServerCompliance

/-! The admission gate along a run. The gate is a function of what the calls did to it,
its capabilities are the ones stored for its session, and while it waits for a resume
some call still owes it the result. -/
namespace Kmtproto
open Json Interaction

/-- What one recorded request does to the gate. -/
def gateStep (gate : ServerAdmission) : Event Op Answer → ServerAdmission
  | ⟨.replaceConnection,(generation,outbound)⟩ =>
    {generation := generation, outbound := some outbound, state := .awaitingHandshake}
  | ⟨.admitFrame generation frame valid,_⟩ => (gate.admitFrame generation frame valid).2
  | ⟨.applyResult generation outbound result,_⟩ => gate.applyResult generation outbound result
  | _ => gate

def gateOf (trace : List (Nat × Event Op Answer)) : ServerAdmission :=
  trace.foldl (fun gate entry => gateStep gate entry.2) {}

@[simp] theorem gateOf_nil : gateOf [] = {} := rfl

@[simp] theorem gateOf_snoc (trace : List (Nat × Event Op Answer)) (entry : Nat × Event Op Answer) :
    gateOf (trace++[entry]) = gateStep (gateOf trace) entry.2 := by
  simp [gateOf]

def World.stores (world : World) (sessionID : Bytes) (capabilities : SessionCapabilities) : Prop :=
  ∃ state, world.sessions.lookup sessionID = some state ∧ state.capabilities = capabilities

structure Gated (world : World) (trace : List (Nat × Event Op Answer)) (states : List Knowledge) : Prop where
  gate : world.gate = gateOf trace
  decided : ∀ before thread generation frame valid answer after,
    trace = before ++ (thread,⟨.admitFrame generation frame valid,answer⟩)::after →
    answer = ((gateOf before).admitFrame generation frame valid).1
  sessions : ∀ known ∈ states, ∀ entry ∈ known.sessions, world.stores entry.1 entry.2
  capabilities : world.gate.state = .ready ∨ world.gate.state = .resuming →
    world.stores world.gate.sessionID world.gate.capabilities
  owed : world.gate.state = .resuming → ∃ known ∈ states, ∃ outbound, world.gate.outbound = some outbound ∧
    known.owes = some (world.gate.generation,outbound)

section Steps
variable {config : ServerConfig} {reference : Op → Bool} {world next : World} {trace : List (Nat × Event Op Answer)}
  {states : List Knowledge} {index : Nat} {known : Knowledge} {op : Op} {offered answer : Answer op}

theorem perform_stores (performed : (serverMachine config reference).perform op offered world = some (answer,next))
    {sessionID : Bytes} {capabilities : SessionCapabilities} (stored : world.stores sessionID capabilities) :
    next.stores sessionID capabilities := by
  obtain ⟨state,found,same⟩ := stored
  exact ⟨state,perform_sessions performed found,same⟩

/-- The gate of the world moves as its record says. -/
theorem perform_gateStep (performed : (serverMachine config reference).perform op offered world = some (answer,next)) :
    next.gate = gateStep world.gate ⟨op,answer⟩ := by
  rw [perform_gate performed]
  cases op with
  | replaceConnection =>
    cases performed
    rfl
  | _ => rfl

def Op.session : Op → Bool
  | .lookup _ _ | .create _ => true
  | _ => false

theorem Knowledge.next_sessions (other : op.session = false) : (known.next op answer).sessions = known.sessions := by
  unfold Knowledge.next
  split <;> first
    | rfl
    | cases other
  rename_i outbound frames
  obtain ⟨welcomed,same⟩ := known.sent_frame frames
  rw [same]

theorem learned_stores (performed : (serverMachine config reference).perform op offered world = some (answer,next))
    (repository : ∀ op, op.session = true → reference op = true) {entry : Bytes × SessionCapabilities}
    (inside : entry ∈ (known.next op answer).sessions) : entry ∈ known.sessions ∨ next.stores entry.1 entry.2 := by
  cases op with
  | lookup sessionID now =>
    match answer with
    | .error error => exact .inl inside
    | .ok none => exact .inl inside
    | .ok (some state) =>
      rcases List.mem_cons.mp inside with rfl | old
      · exact .inr ⟨state,(perform_lookup performed (repository _ rfl)).1,rfl⟩
      · exact .inl old
  | create state =>
    match answer with
    | .error error => exact .inl inside
    | .ok () =>
      rcases List.mem_cons.mp inside with rfl | old
      · exact .inr ⟨state,perform_create performed (repository _ rfl),rfl⟩
      · exact .inl old
  | _ =>
    rw [Knowledge.next_sessions rfl] at inside
    exact .inl inside

theorem Gated.request (holds : Gated world trace states) (found : states[index]? = some known)
    (repository : ∀ op, op.session = true → reference op = true)
    (performed : (serverMachine config reference).perform op offered world = some (answer,next))
    (capabilities : next.gate.state = .ready ∨ next.gate.state = .resuming →
      next.stores next.gate.sessionID next.gate.capabilities)
    (owed : next.gate.state = .resuming → ∃ other ∈ states.set index (known.next op answer), ∃ outbound,
      next.gate.outbound = some outbound ∧ other.owes = some (next.gate.generation,outbound)) :
    Gated next (trace++[(index,⟨op,answer⟩)]) (states.set index (known.next op answer)) := by
  refine ⟨?_,?_,?_,capabilities,owed⟩
  · rw [gateOf_snoc,← holds.gate]
    exact perform_gateStep performed
  · intro before thread generation frame valid decision after same
    rcases snoc_split same with ⟨_,rfl,entry⟩ | ⟨init,_,rest⟩
    · cases entry
      rw [← holds.gate]
      exact perform_admitFrame performed
    · exact holds.decided before thread generation frame valid decision init rest
  · intro other inside entry learned
    rcases List.mem_or_eq_of_mem_set inside with old | rfl
    · exact perform_stores performed (holds.sessions other old entry learned)
    · rcases learned_stores performed repository learned with before | new
      · exact perform_stores performed (holds.sessions known (List.mem_of_getElem? found) entry before)
      · exact new

/-- A gate that is open for the session it had before. -/
theorem Gated.capabilities_kept (holds : Gated world trace states)
    (performed : (serverMachine config reference).perform op offered world = some (answer,next))
    (sessions : next.gate.sessionID = world.gate.sessionID) (same : next.gate.capabilities = world.gate.capabilities)
    (opened : world.gate.state = .ready ∨ world.gate.state = .resuming) :
    next.stores next.gate.sessionID next.gate.capabilities := by
  rw [sessions,same]
  exact perform_stores performed (holds.capabilities opened)

theorem Gated.admitFrame {generation : ConnectionGeneration} {frame : Envelope} {valid : Bool}
    {offered answer : Answer (.admitFrame generation frame valid)} (holds : Gated world trace states)
    (found : states[index]? = some known) (repository : ∀ op, op.session = true → reference op = true)
    (free : known.owes = none)
    (performed : (serverMachine config reference).perform (.admitFrame generation frame valid) offered world =
      some (answer,next)) :
    Gated next (trace++[(index,⟨.admitFrame generation frame valid,answer⟩)])
      (states.set index (known.next (.admitFrame generation frame valid) answer)) := by
  have bound := (List.getElem?_eq_some_iff.mp found).1
  have decided := admitFrame_cases world.gate generation frame valid
  rw [← perform_admitFrame performed] at decided
  have gate : (world.gate.admitFrame generation frame valid).2 = next.gate := (perform_gate performed).symm
  rw [gate] at decided
  have capabilities := holds.capabilities_kept performed
  -- a call that owes nothing is not the one the gate waits for
  have others (waiting : world.gate.state = .resuming) (new : Knowledge) :
      ∃ other ∈ states.set index new, ∃ outbound, world.gate.outbound = some outbound ∧
        other.owes = some (world.gate.generation,outbound) :=
    exists_mem_set found (holds.owed waiting) (fun ⟨outbound,_,owes⟩ => by rw [free] at owes; cases owes)
  refine holds.request found repository performed ?_ ?_
  · generalize next.gate = after at decided capabilities
    cases decided with
    | stale | invalidState | unvalidated => exact capabilities rfl rfl
    | rejected => simp
    | admitted outbound current same live allowed session alone =>
      intro opened
      refine capabilities rfl rfl ?_
      simp only [] at opened
      split at opened
      · rename_i resumed
        exact .inl resumed.1
      · exact opened
  · generalize next.gate = after at decided
    cases decided with
    | stale | invalidState | unvalidated => exact fun waiting => others waiting _
    | rejected => simp
    | admitted outbound current same live allowed session alone =>
      intro waiting
      simp only [] at waiting
      split at waiting
      · refine ⟨_,List.mem_set bound _,outbound,current,?_⟩
        rw [← same]
        rfl
      · exact others waiting _

theorem Gated.applied {generation : ConnectionGeneration} {outbound : Nat} {result : HandleResult}
    {offered answer : Answer (.applyResult generation outbound result)} (holds : Gated world trace states)
    (found : states[index]? = some known) (repository : ∀ op, op.session = true → reference op = true)
    (owes : known.owes = some (generation,outbound)) (may : known.mayApply outbound result)
    (performed : (serverMachine config reference).perform (.applyResult generation outbound result) offered world =
      some (answer,next)) :
    Gated next (trace++[(index,⟨.applyResult generation outbound result,answer⟩)])
      (states.set index (known.next (.applyResult generation outbound result) answer)) := by
  have effect := applyResult_cases world.gate generation outbound result
  rw [show world.gate.applyResult generation outbound result = next.gate from (perform_gate performed).symm] at effect
  have capabilities := holds.capabilities_kept performed
  refine holds.request found repository performed ?_ ?_
  · generalize next.gate = after at effect capabilities
    cases effect with
    | stale => exact capabilities rfl rfl
    | closed state => simp [state]
    | close | abandon | lost => simp
    | ready current same live named =>
      exact fun _ => perform_stores performed (holds.sessions known (List.mem_of_getElem? found) _ (may named).2)
    | kept => exact capabilities rfl rfl
  · generalize next.gate = after at effect
    cases effect with
    | stale other =>
      -- the result is about another connection than the one the gate waits on
      refine fun waiting => exists_mem_set found (holds.owed waiting) (fun ⟨target,current,mine⟩ => ?_)
      cases owes.symm.trans mine
      rcases other with other | other
      · exact absurd rfl other
      · exact absurd current.symm other
    | closed state => simp [state]
    | close | abandon | lost | ready => simp
    | kept live settled => exact fun waiting => absurd waiting settled

end Steps

theorem Knowledge.callAllowed_other {strict : Bool} {known : Knowledge} {op : Op}
    (allowed : known.callAllowed strict op) :
    op = .replaceConnection ∨ (∃ generation frame valid, op = .admitFrame generation frame valid) ∨
    (∃ generation outbound result, op = .applyResult generation outbound result) ∨
    (known.allowed strict op ∧ ∀ world : World, world.gateAfter op = world.gate) := by
  cases op with
  | replaceConnection => exact .inl rfl
  | admitFrame generation frame valid => exact .inr (.inl ⟨_,_,_,rfl⟩)
  | applyResult generation outbound result => exact .inr (.inr (.inl ⟨_,_,_,rfl⟩))
  | _ => exact .inr (.inr (.inr ⟨allowed,fun _ => rfl⟩))

theorem gated_keeps (config : ServerConfig) (reference : Op → Bool)
    (repository : ∀ op, op.session = true → reference op = true) :
    Keeps (serverMachine config reference) (callRules config.strictValidation) (fun known _ => known.owes = none)
      ServerCall.start (fun _ => True) Gated where
  programs call _ := call.complies config
  spawn call world trace states _ holds := by
    refine {holds with sessions := ?_, owed := ?_}
    · intro known member entry learned
      rcases List.mem_append.mp member with old | new
      · exact holds.sessions known old entry learned
      · cases List.mem_singleton.mp new
        cases call <;> cases learned
    · intro waiting
      obtain ⟨known,member,owes⟩ := holds.owed waiting
      exact ⟨known,List.mem_append_left _ member,owes⟩
  env elapsed world next trace states holds moved := by
    change World.tick elapsed world = some next at moved
    unfold World.tick at moved
    split at moved
    · cases moved
      exact {holds with}
    · cases moved
  request world next trace states index known op offered answer holds found allowed performed := by
    rcases Knowledge.callAllowed_other allowed with rfl | ⟨generation,frame,valid,rfl⟩ |
      ⟨generation,outbound,result,rfl⟩ | ⟨inner,quiet⟩
    · have gate : next.gate = world.replaceConnection.2.gate := perform_gate performed
      refine holds.request found repository performed ?_ ?_ <;> simp [gate,World.replaceConnection]
    · exact holds.admitFrame found repository allowed.2 performed
    · exact holds.applied found repository allowed.1 allowed.2 performed
    · have same : next.gate = world.gate := (perform_gate performed).trans (quiet world)
      refine holds.request found repository performed ?_ ?_
      · rw [same]
        exact fun opened => perform_stores performed (holds.capabilities opened)
      · rw [same]
        refine fun waiting => exists_mem_set found (holds.owed waiting) ?_
        rintro ⟨outbound,current,owes⟩
        exact ⟨outbound,current,(Knowledge.next_owes inner answer).trans owes⟩

def resultsFor (generation : ConnectionGeneration) (outbound : Nat) (trace : List (Nat × Event Op Answer)) :
    List HandleResult :=
  trace.filterMap (fun entry => match entry.2 with
    | ⟨.applyResult other target result,_⟩ => if other = generation ∧ target = outbound then some result else none
    | _ => none)

def rejectedFor (generation : ConnectionGeneration) (trace : List (Nat × Event Op Answer)) : List Envelope :=
  trace.filterMap (fun entry => match entry.2 with
    | ⟨.admitFrame other frame _,.rejected _⟩ => if other = generation then some frame else none
    | _ => none)

def replaced (trace : List (Nat × Event Op Answer)) : Bool :=
  trace.any (fun entry => match entry.2 with
    | ⟨.replaceConnection,_⟩ => true
    | _ => false)

structure Open (generation : ConnectionGeneration) (outbound : Nat) (sessionID : Bytes) (gate : ServerAdmission) :
    Prop where
  generation : gate.generation = generation
  outbound : gate.outbound = some outbound
  state : gate.state = .ready ∨ gate.state = .resuming
  session : gate.sessionID = sessionID

/-- After `start`, a result applied while the gate waits for a resume names a session, and a
named session is the one the open gate already has. -/
def UndisturbedGate (generation : ConnectionGeneration) (outbound : Nat) (start after : List (Nat × Event Op Answer)) : Prop :=
  ∀ before thread result rest, after = before ++ (thread,⟨.applyResult generation outbound result,()⟩)::rest →
    ((gateOf (start++before)).state = .resuming → result.readySessionID ≠ []) ∧
    (result.readySessionID ≠ [] → result.readySessionID = (gateOf (start++before)).sessionID)

section Open
variable {generation : ConnectionGeneration} {outbound : Nat} {sessionID : Bytes}

/-- One recorded request leaves an open gate open. -/
theorem Open.step {gate : ServerAdmission} {thread : Nat} {event : Event Op Answer} (opened : Open generation outbound sessionID gate)
    (stays : replaced [(thread,event)] = false) (accepted : rejectedFor generation [(thread,event)] = [])
    (decided : ∀ other frame valid answer, event = ⟨.admitFrame other frame valid,answer⟩ →
      answer = (gate.admitFrame other frame valid).1)
    (quiet : ∀ result ∈ resultsFor generation outbound [(thread,event)],
      result.close = false ∧ result.abandonSession = false ∧ (gate.state = .resuming → result.readySessionID ≠ []) ∧
      (result.readySessionID ≠ [] → result.readySessionID = gate.sessionID)) :
    Open generation outbound sessionID (gateStep gate event) := by
  obtain ⟨op,answer⟩ := event
  cases op with
  | replaceConnection => simp [replaced] at stays
  | admitFrame other frame valid =>
    have answered := decided other frame valid answer rfl
    have effect := admitFrame_cases gate other frame valid
    rw [← answered] at effect
    change Open generation outbound sessionID (gate.admitFrame other frame valid).2
    generalize (gate.admitFrame other frame valid).2 = next at effect
    cases effect with
    | stale | invalidState | unvalidated => exact opened
    | rejected target current same =>
      simp [rejectedFor,same,opened.generation] at accepted
    | admitted target current same live allowed session alone =>
      refine ⟨opened.generation,opened.outbound,?_,opened.session⟩
      simp only []
      split
      · exact .inr rfl
      · exact opened.state
  | applyResult other target result =>
    have effect := applyResult_cases gate other target result
    change Open generation outbound sessionID (gate.applyResult other target result)
    have about (current : gate.outbound = some target) (same : other = gate.generation) :
        result ∈ resultsFor generation outbound [(thread,⟨.applyResult other target result,answer⟩)] := by
      have here : target = outbound := Option.some.inj (current.symm.trans opened.outbound)
      simp [resultsFor,here,same,opened.generation]
    generalize gate.applyResult other target result = next at effect
    cases effect with
    | stale => exact opened
    | closed state => rcases opened.state with ready | waiting <;> simp_all
    | close current same asked => exact absurd asked (by simp [(quiet result (about current same)).1])
    | abandon current same asked => exact absurd asked (by simp [(quiet result (about current same)).2.1])
    | lost current same waiting unnamed => exact absurd unnamed ((quiet result (about current same)).2.2.1 waiting)
    | ready current same live named =>
      have agrees := (quiet result (about current same)).2.2.2 named
      exact ⟨opened.generation,opened.outbound,.inl rfl,agrees.trans opened.session⟩
    | kept => exact ⟨opened.generation,opened.outbound,opened.state,opened.session⟩
  | _ => exact opened

theorem resultsFor_single {thread : Nat} {event : Event Op Answer} {result : HandleResult}
    (member : result ∈ resultsFor generation outbound [(thread,event)]) :
    event = ⟨.applyResult generation outbound result,()⟩ := by
  obtain ⟨op,answer⟩ := event
  cases op with
  | applyResult other target result' =>
    simp only [resultsFor,List.filterMap_cons,List.filterMap_nil] at member
    by_cases same : other = generation ∧ target = outbound
    · simp only [same,and_self,if_true,List.mem_singleton] at member
      rw [member,same.1,same.2]
    · simp [same] at member
  | _ => cases member

/-- A gate stays open while nobody replaces the connection, is rejected, closes it or
abandons its session, and results come undisturbed. -/
theorem Open.run {start after : List (Nat × Event Op Answer)} (opened : Open generation outbound sessionID (gateOf start))
    (stays : replaced after = false) (accepted : rejectedFor generation after = [])
    (quiet : ∀ result ∈ resultsFor generation outbound after, result.close = false ∧ result.abandonSession = false)
    (decided : ∀ before thread other frame valid answer rest,
      after = before ++ (thread,⟨.admitFrame other frame valid,answer⟩)::rest →
      answer = ((gateOf (start++before)).admitFrame other frame valid).1)
    (undisturbed : UndisturbedGate generation outbound start after) :
    ∀ first rest, after = first++rest → Open generation outbound sessionID (gateOf (start++first)) := by
  induction after generalizing start with
  | nil =>
    intro first rest same
    simpa [(List.append_eq_nil_iff.mp same.symm).1] using opened
  | cons entry after ih =>
    intro first rest same
    cases first with
    | nil => simpa using opened
    | cons head first =>
    obtain ⟨rfl,tail⟩ := List.cons.inj same
    obtain ⟨thread,event⟩ := entry
    have shift (more : List (Nat × Event Op Answer)) : start ++ (thread,event)::more = (start++[(thread,event)])++more := by
      simp
    have parts : replaced [(thread,event)] = false ∧ replaced after = false := by
      simpa [replaced] using stays
    have rejects : rejectedFor generation [(thread,event)] = [] ∧ rejectedFor generation after = [] := by
      rw [rejectedFor,← List.singleton_append,List.filterMap_append] at accepted
      exact List.append_eq_nil_iff.mp accepted
    have results : resultsFor generation outbound ((thread,event)::after) =
        resultsFor generation outbound [(thread,event)] ++ resultsFor generation outbound after := by
      rw [resultsFor,← List.singleton_append,List.filterMap_append]
      rfl
    rw [results] at quiet
    rw [shift]
    refine ih ?_ parts.2 rejects.2 (fun result member => quiet result (List.mem_append_right _ member)) ?_ ?_ first rest
      tail
    · rw [gateOf_snoc]
      refine opened.step parts.1 rejects.1 (fun other frame valid answer same => ?_) (fun result member => ?_)
      · obtain rfl : event = _ := same
        simpa using decided [] thread other frame valid answer after rfl
      · obtain ⟨close,abandon⟩ := quiet result (List.mem_append_left _ member)
        obtain rfl := resultsFor_single member
        have first := undisturbed [] thread result after rfl
        rw [List.append_nil] at first
        exact ⟨close,abandon,first⟩
    · intro before thread other frame valid answer rest same
      rw [← shift]
      exact decided _ thread other frame valid answer rest (by rw [same]; rfl)
    · intro before thread result rest same
      rw [← shift]
      exact undisturbed _ thread result rest (by rw [same]; rfl)

end Open

/-- A RESUME of the connection's session was admitted at the end of `start` and succeeded in
`after`; there, no call of the connection asked to close it or abandon its session, no frame
was rejected, and every call has ended. -/
structure ResumeSucceeds (pool : ServerPool) (start after : List (Nat × Event Op Answer))
    (generation : ConnectionGeneration) (outbound : Nat) (resume : Envelope) (result : HandleResult) : Prop where
  recorded : pool.trace = start++after
  admitted : ∃ before thread valid,
    start = before++[(thread,⟨.admitFrame generation resume valid,.admitted outbound .ready⟩)] ∧
    (thread,⟨.applyResult generation outbound result,()⟩) ∈ after
  kind : resume.type = .resume
  named : result.readySessionID ≠ []
  kept : replaced after = false
  quiet : ∀ other ∈ resultsFor generation outbound after, other.close = false ∧ other.abandonSession = false
  accepted : rejectedFor generation after = []
  ended : ∀ program ∈ pool.threads, program.ended = true

/-- A successful RESUME leaves the gate READY for its session, with the capabilities stored
for it, if nothing else is taken for its result. -/
theorem resume_ends_ready (config : ServerConfig) (reference : Op → Bool)
    (repository : ∀ op, op.session = true → reference op = true) {world : World} (fresh : world.Fresh)
    {moves : List ServerMove} {pool : ServerPool}
    (ran : (serverMachine config reference).run {world := world} moves = some pool)
    {start after : List (Nat × Event Op Answer)} {generation : ConnectionGeneration} {outbound : Nat} {resume : Envelope}
    {result : HandleResult} (succeeds : ResumeSucceeds pool start after generation outbound resume result)
    (undisturbed : UndisturbedGate generation outbound start after) :
    pool.world.gate.state = .ready ∧ pool.world.gate.sessionID = result.readySessionID ∧
    pool.world.stores result.readySessionID pool.world.gate.capabilities := by
  have initial : Gated world [] [] := by
    refine ⟨fresh.gate,by simp,by simp,?_,?_⟩ <;> simp [fresh.gate]
  obtain ⟨states,aligned,holds⟩ := (gated_keeps config reference repository).run_empty initial (fun _ _ => trivial) ran
  obtain ⟨before,thread,valid,rfl,applied⟩ := succeeds.admitted
  have decided := holds.decided
  rw [succeeds.recorded] at decided
  have answered := decided before thread generation resume valid (.admitted outbound .ready) after (by simp)
  have effect := admitFrame_cases (gateOf before) generation resume valid
  rw [← answered] at effect
  have opened : Open generation outbound resume.sessionID
      (gateOf (before++[(thread,⟨.admitFrame generation resume valid,.admitted outbound .ready⟩)])) := by
    rw [gateOf_snoc]
    change Open generation outbound resume.sessionID ((gateOf before).admitFrame generation resume valid).2
    generalize state : ServerAdmissionState.ready = entered at effect
    generalize ((gateOf before).admitFrame generation resume valid).2 = next at effect
    cases effect with
    | admitted _ current same live allowed session alone =>
      refine ⟨same.symm,current,?_,(session state.symm).symm⟩
      simp [← state,succeeds.kind]
  have along := opened.run succeeds.kept succeeds.accepted succeeds.quiet
    (fun first other generation frame valid answer rest same => decided _ other generation frame valid answer rest
      (by simp [same])) undisturbed
  have final := along after [] (List.append_nil _).symm
  rw [← succeeds.recorded,← holds.gate] at final
  have session : result.readySessionID = resume.sessionID := by
    obtain ⟨first,rest,split⟩ := List.append_of_mem applied
    have agrees := (undisturbed first thread result rest split).2 succeeds.named
    exact agrees.trans (along first _ split).session
  have ready : pool.world.gate.state = .ready := by
    rcases final.state with ready | waiting
    · exact ready
    · obtain ⟨known,member,target,_,owes⟩ := holds.owed waiting
      obtain ⟨_,none⟩ := aligned.ended succeeds.ended known member
      rw [none] at owes
      cases owes
  have same : pool.world.gate.sessionID = result.readySessionID := final.session.trans session.symm
  exact ⟨ready,same,same ▸ holds.capabilities (.inl ready)⟩

section Scenario

def pingFrame : Envelope :=
  {type := .ping, sessionID := lit "s", payload := PingPayload.marshal {pingID := lit "p"}}

/-- A PING is handled up to its result, a RESUME is admitted, `middle` happens, and the rest
of the RESUME is handled. -/
def resumeMoves (middle : List ServerMove) : List ServerMove :=
  connectMoves ++ .spawn (.handle 1 pingFrame)::turns 2 7 (working (lit "s") (lit "f")) ++
  .spawn (.handle 1 resumeFrame)::turns 3 1 (working (lit "s") (lit "f")) ++ middle ++
  turns 3 14 (working (lit "s") (lit "f"))

def pingEnds : List ServerMove := turns 2 1 (working (lit "s") (lit "f"))

def resumed : HandleResult := {readySessionID := lit "s"}

private theorem succeeds_of_record {pool : ServerPool} {n : Nat}
    (admitted : pool.trace[n]? = some (3,⟨.admitFrame 1 resumeFrame true,.admitted 0 .ready⟩))
    (applied : (3,⟨.applyResult 1 0 resumed,()⟩) ∈ pool.trace.drop (n+1)) (kept : replaced (pool.trace.drop (n+1)) = false)
    (quiet : ∀ other ∈ resultsFor 1 0 (pool.trace.drop (n+1)), other.close = false ∧ other.abandonSession = false)
    (accepted : rejectedFor 1 (pool.trace.drop (n+1)) = []) (ended : ∀ program ∈ pool.threads, program.ended = true) :
    ResumeSucceeds pool (pool.trace.take (n+1)) (pool.trace.drop (n+1)) 1 0 resumeFrame resumed where
  recorded := (List.take_append_drop _ _).symm
  admitted := ⟨pool.trace.take n,3,true,by rw [List.take_add_one,admitted]; rfl,applied⟩
  kind := rfl
  named := by decide
  kept := kept
  quiet := quiet
  accepted := accepted
  ended := ended

/-- The PING that was admitted before the RESUME ends after it, and the gate takes its result
for the failure of the RESUME. -/
theorem resume_lost_to_ping : ∃ pool : ServerPool,
    (serverMachine {} (fun _ => true)).run {world := {dedup := {ttl := 1}}} (resumeMoves pingEnds) = some pool ∧
    ResumeSucceeds pool (pool.trace.take 18) (pool.trace.drop 18) 1 0 resumeFrame resumed ∧
    pool.world.gate.state = .closed := by
  have facts : ∃ pool ∈ (serverMachine {} (fun _ => true)).run {world := {dedup := {ttl := 1}}} (resumeMoves pingEnds),
      pool.trace[17]? = some (3,⟨.admitFrame 1 resumeFrame true,.admitted 0 .ready⟩) ∧
      (3,⟨.applyResult 1 0 resumed,()⟩) ∈ pool.trace.drop 18 ∧ replaced (pool.trace.drop 18) = false ∧
      (∀ other ∈ resultsFor 1 0 (pool.trace.drop 18), other.close = false ∧ other.abandonSession = false) ∧
      rejectedFor 1 (pool.trace.drop 18) = [] ∧ (∀ program ∈ pool.threads, program.ended = true) ∧
      pool.world.gate.state = .closed := by decide +kernel
  obtain ⟨pool,ran,admitted,applied,kept,quiet,accepted,ended,closed⟩ := facts
  exact ⟨pool,ran,succeeds_of_record admitted applied kept quiet accepted ended,closed⟩

private theorem undisturbed_of_places {generation : ConnectionGeneration} {outbound : Nat}
    {start after : List (Nat × Event Op Answer)}
    (each : ∀ index < after.length, ∀ result ∈ resultsFor generation outbound (after[index]?).toList,
      ((gateOf (start++after.take index)).state = .resuming → result.readySessionID ≠ []) ∧
      (result.readySessionID ≠ [] → result.readySessionID = (gateOf (start++after.take index)).sessionID)) :
    UndisturbedGate generation outbound start after := by
  intro before thread result rest same
  have here := each before.length (by simp [same]) result (by simp [same,resultsFor])
  simpa [same] using here

/-- The PING ends after the RESUME. -/
theorem resume_ends_ready_before_ping : ∃ pool : ServerPool,
    (serverMachine {} (fun _ => true)).run {world := {dedup := {ttl := 1}}} (resumeMoves [] ++ pingEnds) = some pool ∧
    ResumeSucceeds pool (pool.trace.take 18) (pool.trace.drop 18) 1 0 resumeFrame resumed ∧
    UndisturbedGate 1 0 (pool.trace.take 18) (pool.trace.drop 18) ∧ pool.world.gate.state = .ready := by
  have facts : ∃ pool ∈ (serverMachine {} (fun _ => true)).run {world := {dedup := {ttl := 1}}} (resumeMoves []++pingEnds),
      (pool.trace[17]? = some (3,⟨.admitFrame 1 resumeFrame true,.admitted 0 .ready⟩) ∧
      (3,⟨.applyResult 1 0 resumed,()⟩) ∈ pool.trace.drop 18 ∧ replaced (pool.trace.drop 18) = false ∧
      (∀ other ∈ resultsFor 1 0 (pool.trace.drop 18), other.close = false ∧ other.abandonSession = false) ∧
      rejectedFor 1 (pool.trace.drop 18) = [] ∧ ∀ program ∈ pool.threads, program.ended = true) ∧
      ∀ index < (pool.trace.drop 18).length, ∀ result ∈ resultsFor 1 0 ((pool.trace.drop 18)[index]?).toList,
        ((gateOf (pool.trace.take 18++(pool.trace.drop 18).take index)).state = .resuming → result.readySessionID ≠ []) ∧
        (result.readySessionID ≠ [] →
          result.readySessionID = (gateOf (pool.trace.take 18++(pool.trace.drop 18).take index)).sessionID) := by
    decide +kernel
  obtain ⟨pool,ran,⟨admitted,applied,kept,quiet,accepted,ended⟩,places⟩ := facts
  have succeeds := succeeds_of_record admitted applied kept quiet accepted ended
  have undisturbed := undisturbed_of_places places
  exact ⟨pool,ran,succeeds,undisturbed,
    (resume_ends_ready {} _ (fun _ _ => rfl) ⟨rfl,rfl⟩ ran succeeds undisturbed).1⟩

end Scenario

end Kmtproto
