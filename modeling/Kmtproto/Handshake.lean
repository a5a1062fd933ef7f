import Kmtproto.ServerEffects
import Kmtproto.ServerCompliance

/-! The handshake comes first on every connection. Whatever the calls on a connection
do and however they interleave, its queue welcomes a session before it carries any
other frame of that session, and frames are handled for welcomed sessions only. -/
namespace Kmtproto
open Json Interaction

def Welcomed (log : List Envelope) (sessionID : Bytes) : Prop :=
  ∃ frame ∈ log, frame.type = .welcome ∧ frame.sessionID = sessionID

theorem Welcomed.append {log : List Envelope} {sessionID : Bytes} (welcomed : Welcomed log sessionID)
    (more : List Envelope) : Welcomed (log++more) sessionID := by
  obtain ⟨frame,member,about⟩ := welcomed
  exact ⟨frame,List.mem_append_left _ member,about⟩

def Follows (before : List Envelope) (frame : Envelope) : Prop :=
  frame.type = .error ∨ frame.type = .welcome ∨ Welcomed before frame.sessionID

def HandshakeFirst (log : List Envelope) : Prop :=
  ∀ before frame after, log = before ++ frame::after → Follows before frame

section Logs
variable {log : List Envelope} {known : Knowledge} {outbound : Nat}

theorem HandshakeFirst.append (first : HandshakeFirst log) {frame : Envelope} (follows : Follows log frame) :
    HandshakeFirst (log++[frame]) := by
  intro before other after same
  rcases snoc_split same with ⟨_,rfl,rfl⟩ | ⟨init,_,rest⟩
  · exact follows
  · exact first before other init rest

/-- A frame a call of the connection may send follows the frames on its queue. -/
theorem Knowledge.maySend_follows {frame : Envelope} (gated : known.gated = true)
    (welcomed : ∀ sessionID, (outbound,sessionID) ∈ known.welcomed → Welcomed log sessionID)
    (may : known.maySend outbound frame) : Follows log frame := by
  unfold Knowledge.maySend at may
  split at may
  · exact .inl (by assumption)
  · exact .inr (.inl (by assumption))
  · exact .inr (.inr (welcomed _ (may.2 gated)))
  · exact .inr (.inr (welcomed _ (may.2 gated)))
  · exact .inr (.inr (welcomed _ (may gated)))
  · exact .inr (.inr (welcomed _ (may gated)))
  · exact absurd (gated.symm.trans may) (by simp)
  · exact may.elim

/-- Sending a batch keeps the order, and what the call learns is on the queue. -/
theorem HandshakeFirst.sendAll {frames : List Envelope} (first : HandshakeFirst log) (gated : known.gated = true)
    (welcomed : ∀ sessionID, (outbound,sessionID) ∈ known.welcomed → Welcomed log sessionID)
    (may : Knowledge.maySendAll outbound known frames) :
    HandshakeFirst (log++frames) ∧
      ∀ entry ∈ (frames.foldl (fun known frame => known.sent outbound frame) known).welcomed,
        entry ∈ known.welcomed ∨ (entry.1 = outbound ∧ Welcomed (log++frames) entry.2) := by
  induction frames generalizing log known with
  | nil => exact ⟨by simpa using first,fun entry member => .inl member⟩
  | cons frame frames ih =>
    obtain ⟨head,tail⟩ := may
    have follows := Knowledge.maySend_follows gated welcomed head
    have learned (entry : Nat × Bytes) (member : entry ∈ (known.sent outbound frame).welcomed) :
        entry ∈ known.welcomed ∨ (entry.1 = outbound ∧ Welcomed (log++[frame]) entry.2) := by
      unfold Knowledge.sent at member
      split at member
      · rename_i kind
        rcases List.mem_cons.mp member with rfl | member
        · exact .inr ⟨rfl,frame,by simp,kind,rfl⟩
        · exact .inl member
      · exact .inl member
    have still : (known.sent outbound frame).gated = true := by
      unfold Knowledge.sent
      split <;> exact gated
    obtain ⟨ordered,later⟩ := ih (first.append follows) still (fun sessionID member => by
      rcases learned _ member with old | ⟨_,new⟩
      · exact (welcomed sessionID old).append _
      · exact new) tail
    rw [List.append_assoc] at ordered later
    refine ⟨ordered,fun entry member => ?_⟩
    rcases later entry member with early | late
    · rcases learned entry early with old | ⟨same,new⟩
      · exact .inl old
      · have more := new.append frames
        rw [List.append_assoc] at more
        exact .inr ⟨same,more⟩
    · exact .inr late

end Logs

section Learned
variable {known : Knowledge}

theorem Knowledge.next_gated (op : Op) (answer : Answer op) : (known.next op answer).gated = known.gated := by
  unfold Knowledge.next
  split <;> try rfl
  rename_i outbound frames
  obtain ⟨welcomed,same⟩ := known.sent_frame frames
  rw [same]

def Op.connects : Op → Bool
  | .enqueueBatch _ _ | .admitFrame _ _ _ | .applyResult _ _ _ | .replaceConnection | .handled _ _ => true
  | _ => false

/-- Other requests teach nothing about WELCOMEs, put nothing on a queue and leave the gate alone. -/
theorem Knowledge.next_welcomed {op : Op} (other : op.connects = false) (answer : Answer op) :
    (known.next op answer).welcomed = known.welcomed := by
  unfold Knowledge.next
  split <;> first
    | rfl
    | cases other

theorem appended_other {op : Op} (other : op.connects = false) (answer : Answer op) (outbound : Nat) :
    appended outbound op answer = [] := by
  unfold appended
  split
  · cases other
  · rfl

theorem gateAfter_other {op : Op} (other : op.connects = false) (world : World) : world.gateAfter op = world.gate := by
  unfold World.gateAfter
  split <;> first
    | rfl
    | cases other

end Learned

structure Connected (world : World) (trace : List (Nat × Event Op Answer)) (states : List Knowledge) : Prop where
  gated : ∀ known ∈ states, known.gated = true
  welcomed : ∀ known ∈ states, ∀ entry ∈ known.welcomed, Welcomed (world.log entry.1) entry.2
  gate : world.gate.state = .ready ∨ world.gate.state = .resuming →
    ∀ outbound ∈ world.gate.outbound, Welcomed (world.log outbound) world.gate.sessionID
  logs : ∀ outbound, HandshakeFirst (world.log outbound)
  traced : ∀ outbound, enqueued trace outbound = world.log outbound
  handled : ∀ before thread outbound frame after, trace = before ++ (thread,⟨.handled outbound frame,()⟩)::after →
    frame.asksSession → Welcomed (enqueued before outbound) frame.sessionID

section Steps
variable {config : ServerConfig} {reference : Op → Bool} {world next : World} {trace : List (Nat × Event Op Answer)}
  {states : List Knowledge} {index : Nat} {known : Knowledge} {op : Op} {offered answer : Answer op}

theorem Connected.request (holds : Connected world trace states) (found : states[index]? = some known)
    (performed : (serverMachine config reference).perform op offered world = some (answer,next))
    (learned : ∀ entry ∈ (known.next op answer).welcomed, entry ∈ known.welcomed ∨ Welcomed (next.log entry.1) entry.2)
    (gate : next.gate.state = .ready ∨ next.gate.state = .resuming →
      ∀ outbound ∈ next.gate.outbound, Welcomed (next.log outbound) next.gate.sessionID)
    (logs : ∀ outbound, HandshakeFirst (next.log outbound))
    (handled : ∀ outbound frame, (⟨op,answer⟩ : Event Op Answer) = ⟨.handled outbound frame,()⟩ → frame.asksSession →
      Welcomed (world.log outbound) frame.sessionID) :
    Connected next (trace++[(index,⟨op,answer⟩)]) (states.set index (known.next op answer)) := by
  have member := List.mem_of_getElem? found
  refine ⟨?_,?_,gate,logs,?_,?_⟩
  · intro other inside
    rcases List.mem_or_eq_of_mem_set inside with old | rfl
    · exact holds.gated other old
    · rw [Knowledge.next_gated]
      exact holds.gated known member
  · intro other inside entry known'
    have grown (entry : Nat × Bytes) (welcomed : Welcomed (world.log entry.1) entry.2) :
        Welcomed (next.log entry.1) entry.2 := by
      rw [perform_log performed]
      exact welcomed.append _
    rcases List.mem_or_eq_of_mem_set inside with old | rfl
    · exact grown entry (holds.welcomed other old entry known')
    · rcases learned entry known' with before | new
      · exact grown entry (holds.welcomed known member entry before)
      · exact new
  · intro outbound
    have one : enqueued (trace++[(index,⟨op,answer⟩)]) outbound =
        enqueued trace outbound ++ appended outbound op answer := by simp [enqueued]
    rw [one,holds.traced,perform_log performed]
  · intro before thread outbound frame after same asks
    rcases snoc_split same with ⟨_,rfl,entry⟩ | ⟨init,_,rest⟩
    · rw [holds.traced]
      exact handled outbound frame (Prod.mk.inj entry).2.symm asks
    · exact holds.handled before thread outbound frame init rest asks

/-- Logs only grow, so a gate that stays open for its session keeps its WELCOME. -/
theorem Connected.gate_kept (holds : Connected world trace states)
    (performed : (serverMachine config reference).perform op offered world = some (answer,next))
    (outbounds : next.gate.outbound = world.gate.outbound) (sessions : next.gate.sessionID = world.gate.sessionID)
    (opened : next.gate.state = .ready ∨ next.gate.state = .resuming →
      world.gate.state = .ready ∨ world.gate.state = .resuming) :
    next.gate.state = .ready ∨ next.gate.state = .resuming →
      ∀ outbound ∈ next.gate.outbound, Welcomed (next.log outbound) next.gate.sessionID := by
  intro live outbound current
  rw [outbounds] at current
  rw [perform_log performed,sessions]
  exact (holds.gate (opened live) outbound current).append _

theorem log_quiet (performed : (serverMachine config reference).perform op offered world = some (answer,next))
    (quiet : ∀ outbound, appended outbound op answer = []) (outbound : Nat) : next.log outbound = world.log outbound := by
  rw [perform_log performed,quiet,List.append_nil]

theorem Connected.enqueue {outbound : Nat} {frames : List Envelope} {offered answer : Answer (.enqueueBatch outbound frames)}
    (holds : Connected world trace states) (found : states[index]? = some known)
    (may : Knowledge.maySendAll outbound known frames)
    (performed : (serverMachine config reference).perform (.enqueueBatch outbound frames) offered world =
      some (answer,next)) :
    Connected next (trace++[(index,⟨.enqueueBatch outbound frames,answer⟩)])
      (states.set index (known.next (.enqueueBatch outbound frames) answer)) := by
  have member := List.mem_of_getElem? found
  have same : next.gate = world.gate := perform_gate performed
  have kept := holds.gate_kept performed (by rw [same]) (by rw [same]) (by rw [same]; exact id)
  have grown := perform_log performed
  obtain ⟨ordered,learned⟩ := (holds.logs outbound).sendAll (holds.gated known member)
    (fun sessionID inside => holds.welcomed known member _ inside) may
  cases answer with
  | error error =>
    refine holds.request found performed (fun entry inside => .inl inside) kept (fun other => ?_) (by simp)
    rw [grown]
    simpa [appended] using holds.logs other
  | ok done =>
    refine holds.request found performed (fun entry inside => ?_) kept (fun other => ?_) (by simp)
    · rcases learned entry inside with old | ⟨same,new⟩
      · exact .inl old
      · rw [grown,same]
        simpa [appended] using .inr new
    · rw [grown]
      by_cases same : outbound = other
      · subst same
        simpa [appended] using ordered
      · simpa [appended,same] using holds.logs other

theorem Connected.admitFrame {generation : ConnectionGeneration} {frame : Envelope} {valid : Bool}
    {offered answer : Answer (.admitFrame generation frame valid)} (holds : Connected world trace states)
    (found : states[index]? = some known)
    (performed : (serverMachine config reference).perform (.admitFrame generation frame valid) offered world =
      some (answer,next)) :
    Connected next (trace++[(index,⟨.admitFrame generation frame valid,answer⟩)])
      (states.set index (known.next (.admitFrame generation frame valid) answer)) := by
  have quiet := log_quiet performed (fun _ => rfl)
  have decided := admitFrame_cases world.gate generation frame valid
  rw [← perform_admitFrame performed] at decided
  have gate : (world.gate.admitFrame generation frame valid).2 = next.gate := (perform_gate performed).symm
  rw [gate] at decided
  have frames : next.gate.outbound = world.gate.outbound ∧ next.gate.sessionID = world.gate.sessionID ∧
      (next.gate.state = .ready ∨ next.gate.state = .resuming →
        world.gate.state = .ready ∨ world.gate.state = .resuming) := by
    generalize next.gate = after at decided
    cases decided with
    | stale | invalidState | unvalidated => exact ⟨rfl,rfl,id⟩
    | rejected => exact ⟨rfl,rfl,by simp⟩
    | admitted =>
      refine ⟨rfl,rfl,fun live => ?_⟩
      simp only [] at live
      split at live
      · rename_i resumed
        exact .inl resumed.1
      · exact live
  refine holds.request found performed (fun entry inside => ?_) (holds.gate_kept performed frames.1 frames.2.1 frames.2.2)
    (fun other => by rw [quiet]; exact holds.logs other) (by simp)
  -- only an admitted frame of a READY session teaches the call something
  generalize next.gate = after at decided
  cases decided with
  | stale | invalidState | rejected => exact .inl inside
  | unvalidated outbound current same invalid =>
    subst invalid
    exact .inl inside
  | admitted outbound current same live allowed session alone =>
    change entry ∈ ite _ _ _ at inside
    split at inside
    · rename_i asks
      rcases List.mem_cons.mp inside with rfl | old
      · have ready : world.gate.state = .ready := by
          rcases asks with kind | kind | kind <;> simpa [allowedFrame,kind] using allowed
        rw [quiet,session ready]
        exact .inr (holds.gate (.inl ready) outbound current)
      · exact .inl old
    · exact .inl inside

theorem Connected.applied {generation : ConnectionGeneration} {outbound : Nat} {result : HandleResult}
    {offered answer : Answer (.applyResult generation outbound result)} (holds : Connected world trace states)
    (found : states[index]? = some known) (may : known.mayApply outbound result)
    (performed : (serverMachine config reference).perform (.applyResult generation outbound result) offered world =
      some (answer,next)) :
    Connected next (trace++[(index,⟨.applyResult generation outbound result,answer⟩)])
      (states.set index (known.next (.applyResult generation outbound result) answer)) := by
  have member := List.mem_of_getElem? found
  have quiet := log_quiet performed (fun _ => rfl)
  have effect := applyResult_cases world.gate generation outbound result
  rw [show world.gate.applyResult generation outbound result = next.gate from (perform_gate performed).symm] at effect
  refine holds.request found performed (fun entry inside => .inl inside) ?_
    (fun other => by rw [quiet]; exact holds.logs other) (by simp)
  intro live target current
  rw [quiet]
  generalize next.gate = after at effect live current ⊢
  cases effect with
  | stale => exact holds.gate live target current
  | closed state => simp [state] at live
  | close | abandon | lost => simp at live
  | ready now same unclosed named =>
    cases now.symm.trans current
    exact holds.welcomed known member _ (may named).1
  | kept => exact holds.gate live target current

end Steps

def ServerCall.connection : ServerCall → Prop
  | .handle _ _ | .replaceConnection => True
  | _ => False

theorem connected_keeps (config : ServerConfig) (reference : Op → Bool) :
    Keeps (serverMachine config reference) (callRules config.strictValidation) (fun known _ => known.owes = none)
      ServerCall.start ServerCall.connection Connected where
  programs call _ := call.complies config
  spawn call world trace states admission holds := by
    have start : call.start.gated = true ∧ call.start.welcomed = [] := by
      cases call <;> first
        | exact ⟨rfl,rfl⟩
        | exact admission.elim
    refine {holds with gated := ?_, welcomed := ?_}
    · intro known member
      rcases List.mem_append.mp member with old | new
      · exact holds.gated known old
      · cases List.mem_singleton.mp new
        exact start.1
    · intro known member entry inside
      rcases List.mem_append.mp member with old | new
      · exact holds.welcomed known old entry inside
      · cases List.mem_singleton.mp new
        rw [start.2] at inside
        cases inside
  env elapsed world next trace states holds moved := by
    change World.tick elapsed world = some next at moved
    unfold World.tick at moved
    split at moved
    · cases moved
      exact {holds with}
    · cases moved
  request world next trace states index known op offered answer holds found allowed performed := by
    cases kind : op.connects with
    | false =>
      have quiet := log_quiet performed (appended_other kind answer)
      have same : next.gate = world.gate := (perform_gate performed).trans (gateAfter_other kind world)
      refine holds.request found performed (fun entry inside => ?_)
        (holds.gate_kept performed (by rw [same]) (by rw [same]) (by rw [same]; exact id))
        (fun other => by rw [quiet]; exact holds.logs other) ?_
      · exact .inl (Knowledge.next_welcomed kind answer ▸ inside)
      · intro outbound frame event
        cases event
        cases kind
    | true =>
      cases op with
      | enqueueBatch outbound frames => exact holds.enqueue found allowed performed
      | admitFrame generation frame valid => exact holds.admitFrame found performed
      | applyResult generation outbound result => exact holds.applied found allowed.2 performed
      | replaceConnection =>
        have quiet := log_quiet performed (fun _ => rfl)
        have gate : next.gate = world.replaceConnection.2.gate := perform_gate performed
        refine holds.request found performed (fun entry inside => .inl inside) ?_
          (fun other => by rw [quiet]; exact holds.logs other) (by simp)
        rw [gate]
        simp [World.replaceConnection]
      | handled outbound frame =>
        have member := List.mem_of_getElem? found
        have quiet := log_quiet performed (fun _ => rfl)
        have same : next.gate = world.gate := perform_gate performed
        refine holds.request found performed (fun entry inside => .inl inside)
          (holds.gate_kept performed (by rw [same]) (by rw [same]) (by rw [same]; exact id))
          (fun other => by rw [quiet]; exact holds.logs other) ?_
        intro _ _ event asks
        cases event
        exact holds.welcomed known member _ (allowed asks (holds.gated known member))
      | _ => cases kind

/-- Handshake first: in every run of a connection's calls, whatever the dependencies
answer, a frame is handled for a session only after its WELCOME was enqueued on the
connection's queue, every PONG, ACK and STATE_SNAPSHOT on a queue comes after the WELCOME
of its session, and before the first WELCOME there are only ERRORs. -/
theorem handshake_first (config : ServerConfig) (reference : Op → Bool) {world : World} (fresh : world.Fresh)
    {moves : List ServerMove} {pool : ServerPool} (calls : ∀ call, .spawn call ∈ moves → call.connection)
    (ran : (serverMachine config reference).run {world := world} moves = some pool) :
    (∀ before thread outbound frame after, pool.trace = before ++ (thread,⟨.handled outbound frame,()⟩)::after →
      frame.type = .ping ∨ frame.type = .send ∨ frame.type = .stateQuery →
      Welcomed (enqueued before outbound) frame.sessionID) ∧
    (∀ outbound before frame after, pool.world.log outbound = before ++ frame::after →
      frame.type = .pong ∨ frame.type = .ack ∨ frame.type = .stateSnapshot → Welcomed before frame.sessionID) ∧
    (∀ outbound before frame after, pool.world.log outbound = before ++ frame::after →
      (∀ earlier ∈ before, earlier.type ≠ .welcome) → frame.type = .error ∨ frame.type = .welcome) := by
  have empty (outbound : Nat) : world.log outbound = [] := by simp [World.log,fresh.queues]
  have start : Connected world [] [] := by
    refine ⟨by simp,by simp,by simp [fresh.gate],fun outbound => ?_,fun outbound => (empty outbound).symm,by simp⟩
    rw [empty]
    intro before frame after same
    simp at same
  obtain ⟨states,_,holds⟩ := (connected_keeps config reference).run_empty start calls ran
  refine ⟨holds.handled,fun outbound before frame after split kind => ?_,fun outbound before frame after split first => ?_⟩
  · rcases holds.logs outbound before frame after split with failed | welcome | welcomed
    · rcases kind with kind | kind | kind <;> simp [kind] at failed
    · rcases kind with kind | kind | kind <;> simp [kind] at welcome
    · exact welcomed
  · rcases holds.logs outbound before frame after split with failed | welcome | ⟨earlier,member,kind,_⟩
    · exact .inl failed
    · exact .inr welcome
    · exact absurd kind (first earlier member)

def pingMoves : List ServerMove :=
  connectMoves ++ .spawn (.handle 1 {type := .ping, sessionID := lit "s", payload := PingPayload.marshal {pingID := lit "p"}})::
  turns 2 8 (working (lit "s") (lit "f"))

theorem handshake_first_ping : ∃ pool : ServerPool,
    (serverMachine {} (fun _ => true)).run {world := {dedup := {ttl := 1}}} pingMoves = some pool ∧
    (pool.world.log 0).map (·.type) = [.welcome,.pong] ∧
    ∀ before frame after, pool.world.log 0 = before ++ frame::after →
      frame.type = .pong ∨ frame.type = .ack ∨ frame.type = .stateSnapshot → Welcomed before frame.sessionID := by
  have types : ((serverMachine {} (fun _ => true)).run {world := {dedup := {ttl := 1}}} pingMoves).map
      (fun pool => (pool.world.log 0).map (·.type)) = some [.welcome,.pong] := by decide +kernel
  have calls : ∀ call, .spawn call ∈ pingMoves → call.connection := by
    simp [pingMoves,connectMoves,ServerCall.connection]
  obtain ⟨pool,ran,types⟩ := Option.map_eq_some_iff.mp types
  exact ⟨pool,ran,types,(handshake_first {} _ ⟨rfl,rfl⟩ calls ran).2.1 0⟩

end Kmtproto
