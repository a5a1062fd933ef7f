import Kmtproto.EventLog
import Kmtproto.Link
import Kmtproto.ClientRecovery
import Kmtproto.ClientCache

/-! Ordered delivery, exactly once. Whatever the link does to frames and however often
the client reconnects, the events it has handed over since its session was established
are the first ones the store appended to that session. -/
namespace Kmtproto
open Json Interaction

section Deliveries

@[simp] theorem deliveries_append (first second : List Action) :
    deliveries (first++second) = deliveries first ++ deliveries second := List.filterMap_append ..

@[simp] theorem deliveries_map (events : List Envelope) : deliveries (events.map Action.deliverEvent) = events := by
  simp [deliveries,List.filterMap_map]

theorem deliveries_none {actions : List Action} (nothing : ∀ action ∈ actions, ∀ event, action ≠ .deliverEvent event) :
    deliveries actions = [] := by
  refine List.filterMap_eq_nil_iff.mpr (fun action member => ?_)
  cases action with
  | deliverEvent event => exact absurd rfl (nothing _ member event)
  | _ => rfl

theorem deliveries_state {actions : List Action}
    (changes : ∀ action ∈ actions, ∃ object result, action = .stateChanged object result) : deliveries actions = [] := by
  refine deliveries_none (fun action member event same => ?_)
  obtain ⟨object,result,rfl⟩ := changes action member
  cases same

end Deliveries

structure Advances (c : Client) (call : Call) (next : Client) (result : Except Err (List Action)) : Prop where
  within : next.sessionID = c.sessionID → Consecutive c.lastSeq (deliveries (resultActions result)) ∧
    next.lastSeq.toNat = c.lastSeq.toNat + (deliveries (resultActions result)).length
  source : ∀ event ∈ deliveries (resultActions result) ++ next.replayBuffer, event ∈ c.replayBuffer ∨
    ∃ generation, call = .handleIncoming generation event ∧ event.type = .event ∧ event.sessionID = c.sessionID
  renewed : next.sessionID ≠ c.sessionID → next.lastSeq = 0 ∧ next.replayBuffer = []

section Steps
variable {c next : Client} {now : Int} {call : Call} {result : Except Err (List Action)}

theorem Client.Accepts.session {generation : ConnectionGeneration} {frame : Envelope} (accepts : c.Accepts generation frame)
    (welcome : frame.type ≠ .welcome) (error : frame.type ≠ .error) : frame.sessionID = c.sessionID := by
  have correlated := accepts.correlated
  unfold Client.correlates reject at correlated
  split at correlated
  · contradiction
  · contradiction
  · split at correlated
    · cases correlated
    · rename_i same
      simpa using same

theorem Advances.quiet (nothing : deliveries (resultActions result) = []) (session : next.sessionID = c.sessionID)
    (lastSeq : next.lastSeq = c.lastSeq) (buffer : next.replayBuffer ⊆ c.replayBuffer) : Advances c call next result where
  within := fun _ => by simp [nothing,lastSeq,Consecutive]
  source := fun event member => .inl (buffer (by simpa [nothing] using member))
  renewed := fun other => absurd session other

theorem Advances.leave (nothing : deliveries (resultActions result) = []) (lastSeq : next.lastSeq = 0)
    (fresh : next.sessionID = c.sessionID → c.lastSeq = 0) (buffer : next.replayBuffer = []) :
    Advances c call next result where
  within := fun same => by simp [nothing,lastSeq,fresh same,Consecutive]
  source := by simp [nothing,buffer]
  renewed := fun _ => ⟨lastSeq,buffer⟩

/-- A recovery that completes hands over the replay. -/
theorem Advances.complete {merged : Client} {actions changes : List Action} (ordered : merged.ReplayOrdered)
    (session : merged.sessionID = c.sessionID) (lastSeq : merged.lastSeq = c.lastSeq)
    (silent : deliveries changes = [])
    (source : ∀ event ∈ merged.replayBuffer, event ∈ c.replayBuffer ∨
      ∃ generation, call = .handleIncoming generation event ∧ event.type = .event ∧ event.sessionID = c.sessionID)
    (same : actions = merged.replayBuffer.map Action.deliverEvent ++ changes) :
    Advances c call merged.completeRecovery (.ok actions) := by
  have handed : deliveries (resultActions (.ok actions)) = merged.replayBuffer := by
    rw [same]
    change deliveries (merged.replayBuffer.map Action.deliverEvent ++ changes) = _
    rw [deliveries_append,deliveries_map,silent,List.append_nil]
  obtain ⟨last,eventIDs,committed⟩ := commitEvents_frame merged merged.replayBuffer
  have kept : merged.completeRecovery.sessionID = merged.sessionID := by
    rw [Client.completeRecovery,Client.commitReplay,committed]
    rfl
  refine ⟨fun _ => ?_,?_,fun other => absurd (kept.trans session) other⟩
  · rw [handed,← lastSeq]
    exact ⟨ordered.consecutive,commitEvents_lastSeq merged merged.replayBuffer ordered.consecutive⟩
  · rw [handed]
    intro event member
    exact source event (by simpa [Client.completeRecovery,Client.resetConnectionTransient] using member)

theorem Transition.advances (transition : Transition c now call next result) (formed : c.WellFormed) :
    Advances c call next result := by
  have incoming {generation : ConnectionGeneration} {frame : Envelope} (accepts : c.Accepts generation frame)
      (event : frame.type = .event) : frame.sessionID = c.sessionID :=
    accepts.session (by simp [event]) (by simp [event])
  have errors {payload : ErrorPayload} {tail : List Action} (reported : ErrorTail c payload tail) :
      deliveries (.protocolError payload::tail) = [] := by cases reported <;> rfl
  have buffering {generation : ConnectionGeneration} {frame : Envelope} (accepts : c.Accepts generation frame)
      (event : frame.type = .event) : ∀ other ∈ c.replayBuffer++[frame], other ∈ c.replayBuffer ∨
        ∃ g, Call.handleIncoming generation frame = .handleIncoming g other ∧ other.type = .event ∧
          other.sessionID = c.sessionID := by
    intro other member
    rcases List.mem_append.mp member with old | last
    · exact .inl old
    · cases List.mem_singleton.mp last
      exact .inr ⟨generation,rfl,event,incoming accepts event⟩
  cases transition with
  | retried ready =>
    refine .quiet (deliveries_none (fun action member event same => ?_)) rfl rfl (List.Subset.refl _)
    subst same
    obtain ⟨id,_,found⟩ := List.mem_filterMap.mp member
    cases looked : c.outbox.lookup id <;> simp [looked] at found
  | established generation frame payload capabilities accepts welcome starts =>
    have empty := formed.handshake starts
    have cleared := formed.cleared (by simp [starts])
    exact .leave rfl (formed.fresh empty).1 (fun _ => (formed.fresh empty).1) cleared.1
  | errorAbandoned generation frame payload tail accepts error decoded code reported =>
    exact .leave (errors reported) rfl (fun same => (formed.fresh same.symm).1) rfl
  | delivered generation frame accepts event ready later next =>
    have cleared := formed.cleared (by simp [ready])
    have seq : frame.seq.toNat = c.lastSeq.toNat + 1 := by
      have lower := UInt64.lt_iff_toNat_lt.mp later
      have upper := UInt64.le_iff_toNat_le.mp next
      have bound := frame.seq.toNat_lt
      rw [UInt64.toNat_add,show (1 : UInt64).toNat = 1 from rfl,Nat.mod_eq_of_lt (by omega)] at upper
      omega
    refine ⟨fun _ => ⟨?_,seq⟩,?_,fun other => absurd rfl other⟩
    · intro i inside
      have first : i = 0 := by simpa [resultActions,deliveries] using inside
      subst first
      exact seq
    · intro other member
      change other ∈ frame::c.replayBuffer at member
      rw [cleared.1] at member
      cases List.mem_singleton.mp member
      exact .inr ⟨generation,rfl,event,incoming accepts event⟩
  | buffered generation frame accepts continues | replayedForState generation frame accepts continues =>
    exact ⟨fun _ => ⟨by simp [resultActions,deliveries,Consecutive],rfl⟩,buffering accepts continues.event,
      fun other => absurd rfl other⟩
  | replayed generation frame accepts continues last plain =>
    have ordered := (continues.keeps (formed.replay continues.resuming)).1
    exact .complete ordered rfl rfl rfl (buffering accepts continues.event) rfl
  | snapshotCompleted generation frame payload merged actions accepts completes applied =>
    have changes := applyStateObjects_actions c merged payload.states actions applied
    have ordered := formed.replay completes.resuming
    obtain ⟨objects,size,rfl⟩ := applyStateObjects_frame c _ _ _ applied
    have silent : deliveries (actions ++ [.sessionReady c.sessionID]) = [] := by
      rw [deliveries_append,deliveries_state changes]
      rfl
    exact .complete {ordered with} rfl rfl silent (fun event member => .inl member) (List.append_assoc ..)
  | snapshotApplied generation frame payload merged actions accepts snapshot ready applied
  | updated generation frame payload merged actions accepts snapshot ready applied =>
    have changes := applyStateObjects_actions _ _ _ _ applied
    obtain ⟨objects,size,rfl⟩ := applyStateObjects_frame c _ _ _ applied
    exact .quiet (deliveries_state changes) rfl rfl (List.Subset.refl _)
  | errorKept generation frame payload =>
    unfold Client.forgetQuery
    split <;> exact .quiet rfl rfl rfl (List.Subset.refl _)
  | errorDropped generation frame payload tail accepts error reported =>
    exact .quiet (errors reported) rfl rfl (List.nil_subset _)
  | _ =>
    first
      | exact .quiet rfl rfl rfl (List.Subset.refl _)
      | exact .quiet rfl rfl rfl (List.nil_subset _)

end Steps

section Log
variable {log events : List Envelope} {start : UInt64}

/-- Events of a numbered log that follow each other are a stretch of it. -/
theorem Consecutive.stretch (consecutive : Consecutive start events)
    (numbered : ∀ i event, log[i]? = some event → event.seq.toNat = i+1) (inside : events ⊆ log) :
    (log.drop start.toNat).take events.length = events := by
  have found (i : Nat) (bound : i < events.length) : log[start.toNat + i]? = some events[i] := by
    obtain ⟨j,placed⟩ := List.mem_iff_getElem?.mp (inside (List.getElem_mem bound))
    have place := numbered j _ placed
    have seq := consecutive i bound
    rw [show start.toNat + i = j by omega]
    exact placed
  refine List.ext_getElem? (fun i => ?_)
  rw [List.getElem?_take]
  split
  · rename_i bound
    rw [List.getElem?_drop,found i bound,List.getElem?_eq_getElem bound]
  · rename_i bound
    exact (List.getElem?_eq_none (by omega)).symm

theorem Consecutive.extend (consecutive : Consecutive start events)
    (numbered : ∀ i event, log[i]? = some event → event.seq.toNat = i+1) (inside : events ⊆ log)
    (reached : start.toNat ≤ log.length) :
    log.take start.toNat ++ events = log.take (start.toNat + events.length) ∧
      start.toNat + events.length ≤ log.length := by
  have stretch := consecutive.stretch numbered inside
  refine ⟨by rw [List.take_add,stretch],?_⟩
  have length := congrArg List.length stretch
  rw [List.length_take,List.length_drop] at length
  omega

end Log

/-- The client has handed over the first events of its session, and what it buffers are
events of its session. -/
structure Link.Ordered (link : Link) : Prop where
  formed : link.client.WellFormed
  bytes : 0 ≤ link.client.config.maxReplayBytes
  reached : link.client.lastSeq.toNat ≤ (eventLog link.client.sessionID link.server.trace).length
  delivered : link.delivered = (eventLog link.client.sessionID link.server.trace).take link.client.lastSeq.toNat
  buffered : link.client.replayBuffer ⊆ eventLog link.client.sessionID link.server.trace

section Link
variable {config : ServerConfig} {reference : Op → Bool} {link : Link}

theorem Link.Ordered.grow (ordered : link.Ordered) {server : ServerPool} {entries : List (Nat × Event Op Answer)}
    (grown : server.trace = link.server.trace ++ entries) : ({link with server := server} : Link).Ordered := by
  have split : eventLog link.client.sessionID server.trace =
      eventLog link.client.sessionID link.server.trace ++ eventLog link.client.sessionID entries := by
    rw [grown]
    exact List.filterMap_append ..
  refine ⟨ordered.formed,ordered.bytes,?_,?_,?_⟩
  · rw [split,List.length_append]
    exact Nat.le_add_right_of_le ordered.reached
  · rw [split,List.take_append_of_le_length ordered.reached]
    exact ordered.delivered
  · rw [split]
    exact List.Subset.trans ordered.buffered (List.subset_append_left ..)

theorem Link.Ordered.call {states : List Knowledge} (ordered : link.Ordered)
    (logged : Logged link.server.world link.server.trace states) {now : Int} {call : Call}
    (supplied : link.Supplies call) : (link.call now call).Ordered := by
  have transition := Client.step_transition link.client now call
  have advances := transition.advances ordered.formed
  have source : ∀ event ∈ deliveries (resultActions (link.client.step now call).2) ++
      (link.client.step now call).1.replayBuffer, event ∈ eventLog link.client.sessionID link.server.trace := by
    intro event member
    rcases advances.source event member with old | ⟨generation,incoming,type,session⟩
    · exact ordered.buffered old
    · obtain ⟨outbound,queued⟩ := supplied generation event incoming
      exact session ▸ logged.queued outbound event queued type
  have formed := transition.wellFormed ordered.formed ordered.bytes
  have bytes : 0 ≤ (link.client.step now call).1.config.maxReplayBytes := by
    rw [transition.config]
    exact ordered.bytes
  by_cases same : (link.client.step now call).1.sessionID = link.client.sessionID
  · obtain ⟨consecutive,last⟩ := advances.within same
    obtain ⟨taken,reached⟩ := consecutive.extend (fun i event placed => (logged.numbered _ i event placed).2)
      (fun event member => source event (List.mem_append_left _ member)) ordered.reached
    refine ⟨formed,bytes,?_,?_,?_⟩
    · change (link.client.step now call).1.lastSeq.toNat ≤
        (eventLog (link.client.step now call).1.sessionID link.server.trace).length
      rw [same,last]
      exact reached
    · change (if _ then _ else _) = (eventLog (link.client.step now call).1.sessionID link.server.trace).take
        (link.client.step now call).1.lastSeq.toNat
      rw [if_pos same,same,last,ordered.delivered]
      exact taken
    · change (link.client.step now call).1.replayBuffer ⊆
        eventLog (link.client.step now call).1.sessionID link.server.trace
      rw [same]
      exact fun event member => source event (List.mem_append_right _ member)
  · obtain ⟨lastSeq,buffer⟩ := advances.renewed same
    refine ⟨formed,bytes,?_,?_,?_⟩
    · change (link.client.step now call).1.lastSeq.toNat ≤ _
      simp [lastSeq]
    · change (if _ then _ else _) = List.take (link.client.step now call).1.lastSeq.toNat _
      rw [if_neg same,lastSeq]
      rfl
    · change (link.client.step now call).1.replayBuffer ⊆ _
      simp [buffer]

end Link

theorem Link.ordered_start {config : ClientConfig} {client : Client} (created : newClientProtocol config = .ok client)
    (server : ServerPool) : ({server := server, client := client} : Link).Ordered := by
  obtain ⟨same,bytes,_⟩ := newClientProtocol_fresh config client created
  have formed := newClientProtocol_wellFormed config client created
  have lastSeq : client.lastSeq = 0 := by rw [same]
  have buffer : client.replayBuffer = [] := by rw [same]
  exact ⟨formed,bytes,by simp [lastSeq],by simp [lastSeq],by simp [buffer]⟩

theorem logged_start {world : World} (replay : world.replay = ∅) (queues : world.queues = []) : Logged world [] [] := by
  have empty (sessionID : Bytes) : world.replay.stream sessionID = {} := by simp [MemoryReplayStore.stream,replay]
  refine ⟨fun sessionID => ?_,fun sessionID => ?_,by simp [eventLog],by simp,by simp [World.log,queues]⟩
  · rw [empty]
    rfl
  · rw [empty]
    exact List.nil_subset _

/-- A frame that leaves the delivered sequence alone: `next` is the client after it. A snapshot
that completes a recovery is not one, for it commits the replay the recovery collected. -/
def Unsequenced (c next : Client) (frame : Envelope) : Prop :=
  frame.type = .pong ∨ frame.type = .ack ∨ frame.type = .stateUpdate ∨
  (frame.type = .error ∧ next.sessionID = c.sessionID) ∨
  (frame.type = .stateSnapshot ∧ ¬ (c.state = .resuming ∧ next.state = .ready))

theorem Transition.unsequenced {c next : Client} {now : Int} {generation : ConnectionGeneration} {frame : Envelope}
    {result : Except Err (List Action)} (transition : Transition c now (.handleIncoming generation frame) next result)
    (formed : c.WellFormed) (unsequenced : Unsequenced c next frame) : next.lastSeq = c.lastSeq := by
  cases transition with
  | refused | silent | welcomed | caughtUp | ponged | acked | gapped | buffered | replayedForState | stopped | invalidError
  | errorDropped => rfl
  | resumed _ _ _ _ asked => rcases asked with ⟨other,_⟩ | ⟨_,other,_⟩ <;> cases other
  | established _ _ _ _ _ welcome => simp [Unsequenced,welcome] at unsequenced
  | delivered _ _ _ event => simp [Unsequenced,event] at unsequenced
  | replayed _ _ _ continues => simp [Unsequenced,continues.event] at unsequenced
  | snapshotCompleted _ _ _ _ _ _ completes =>
    simp [Unsequenced,completes.snapshot,completes.resuming,Client.completeRecovery] at unsequenced
  | snapshotApplied _ _ _ _ _ _ _ _ applied | updated _ _ _ _ _ _ _ _ applied =>
    obtain ⟨objects,size,rfl⟩ := applyStateObjects_frame c _ _ _ applied
    rfl
  | errorKept =>
    unfold Client.forgetQuery
    split <;> rfl
  | errorAbandoned _ _ _ _ _ error =>
    have same : [] = c.sessionID := by simpa [Unsequenced,error,Client.abandonSession] using unsequenced
    exact (formed.fresh same.symm).1.symm

/-- Ordered delivery, exactly once: after every run of a client and a server over a link that
drops, repeats, delays and reorders frames, the events handed over since the session was
established are the first `lastSeq` events the store appended to it, and only EVENTs, a new
session and a snapshot that completes a recovery move `lastSeq`. -/
theorem link_delivers_log (config : ServerConfig) (reference : Op → Bool)
    (store : ∀ op, op.replays = true → reference op = true) {settings : ClientConfig} {client : Client}
    (created : newClientProtocol settings = .ok client) {world : World} (replay : world.replay = ∅)
    (queues : world.queues = []) {moves : List LinkMove} {link : Link}
    (ran : Link.run config reference {server := {world := world}, client := client} moves = some link) :
    link.delivered = (eventLog link.client.sessionID link.server.trace).take link.client.lastSeq.toNat ∧
    link.delivered.length = link.client.lastSeq.toNat ∧
    (∀ i event, link.delivered[i]? = some event →
      event.sessionID = link.client.sessionID ∧ event.seq.toNat = i+1) ∧
    ∀ now generation frame,
      Unsequenced link.client (link.client.step now (.handleIncoming generation frame)).1 frame →
      (link.client.step now (.handleIncoming generation frame)).1.lastSeq = link.client.lastSeq := by
  obtain ⟨ordered,states,logged⟩ := Link.run_keeps (logged_keeps config reference store)
    (fun link server entries ordered grown => ordered.grow grown)
    (fun link states now call ordered logged supplied => ordered.call logged supplied)
    (logged_start replay queues) (Link.ordered_start created _) (fun _ _ => trivial) ran
  refine ⟨ordered.delivered,?_,?_,?_⟩
  · rw [ordered.delivered,List.length_take]
    exact Nat.min_eq_left ordered.reached
  · intro i event placed
    rw [ordered.delivered,List.getElem?_take] at placed
    split at placed
    · exact logged.numbered _ i event placed
    · cases placed
  · intro now generation frame unsequenced
    exact (Client.step_transition _ now _).unsequenced ordered.formed unsequenced

section Scenario

def stateSyncServer : ServerConfig :=
  {capabilities := AList.singleton capabilityStateSync [capabilityStateSyncVersion], stateSnapshots := true}

def stateSyncLink : Link :=
  {server := {world := {dedup := {ttl := 86400000000000}}}, client := {config := {capabilities := stateSyncOffer}}}

def serve (index : Nat) (call : ServerCall) (count : Nat) : List LinkMove :=
  .server (.spawn call)::(turns index count (working (lit "s") (lit "f"))).map .server

def lastSnapshot : Envelope :=
  {type := .stateSnapshot, id := lit "f", sessionID := lit "s", payload := encodeObject [(lit "states",lit "[]")]}

/-- A session is established, its first EVENT is lost, and the client resumes with State; the
frames of the resume reach the client up to the snapshot. -/
def resumeWithStateMoves : List LinkMove :=
  let hello : Envelope := {type := .hello, payload := HelloPayload.marshal {capabilities := stateSyncOffer}}
  let welcome (payload : WelcomePayload) : Envelope :=
    {type := .welcome, sessionID := lit "s", payload := WelcomePayload.marshal payload}
  let event : Envelope := {type := .event, id := lit "e", sessionID := lit "s", seq := 1,
                           payload := encodeObject [(lit "event_type",quote (lit "t")),(lit "content",lit "1")]}
  let resume : Envelope := {type := .resume, sessionID := lit "s",
                            payload := ResumePayload.marshal {lastSeq := 0, stateSync := some ⟨[lit "n"]⟩}}
  [.client 0 .beginConnect,.client 0 (.transportConnected 1),.client 0 (.startSession 1 [])] ++
  serve 0 .replaceConnection 1 ++ serve 1 (.handle 1 hello) 9 ++
  [.client 0 (.handleIncoming 1 (welcome {mode := welcomeModeNew, acceptedCapabilities := [⟨capabilityStateSync,1⟩]}))] ++
  serve 2 (.publishEvent (lit "s") (lit "e") (lit "t") (lit "1") 0) 11 ++
  [.client 0 (.disconnect 1),.client 0 .beginConnect,.client 0 (.transportConnected 2),
   .client 0 (.resumeWithState 2 [lit "n"])] ++
  serve 3 .replaceConnection 1 ++ serve 4 (.handle 2 resume) 19 ++
  [.client 0 (.handleIncoming 2 (welcome {mode := welcomeModeResumed, resumeFrom := 1, replayTo := 1,
                                          stateSync := some ⟨[lit "n"]⟩})),
   .client 0 (.handleIncoming 2 event)]

/-- A STATE_SNAPSHOT that completes a recovery does move `lastSeq`. -/
theorem snapshot_moves_lastSeq :
    newServerProtocol stateSyncServer {} = .ok stateSyncServer ∧
    newClientProtocol {capabilities := stateSyncOffer} = .ok stateSyncLink.client ∧ ∃ link : Link,
    stateSyncLink.run stateSyncServer (fun _ => true) resumeWithStateMoves = some link ∧
    link.server.world.sent lastSnapshot = true ∧ link.client.lastSeq = 0 ∧
    (link.client.step 0 (.handleIncoming 2 lastSnapshot)).1.lastSeq = 1 := by
  have facts : ∃ link ∈ stateSyncLink.run stateSyncServer (fun _ => true) resumeWithStateMoves,
      link.server.world.sent lastSnapshot = true ∧ link.client.lastSeq = 0 ∧
      (link.client.step 0 (.handleIncoming 2 lastSnapshot)).1.lastSeq = 1 := by decide +kernel
  exact ⟨rfl,rfl,facts⟩

theorem link_delivers_log_resumed : ∃ link : Link,
    stateSyncLink.run stateSyncServer (fun _ => true)
      (resumeWithStateMoves++[.client 0 (.handleIncoming 2 lastSnapshot)]) = some link ∧
    link.client.state = .ready ∧ link.client.lastSeq = 1 ∧ link.delivered.map (·.id) = [lit "e"] ∧
    link.delivered = (eventLog link.client.sessionID link.server.trace).take link.client.lastSeq.toNat := by
  have facts : ∃ link ∈ stateSyncLink.run stateSyncServer (fun _ => true)
      (resumeWithStateMoves++[.client 0 (.handleIncoming 2 lastSnapshot)]),
      link.client.state = .ready ∧ link.client.lastSeq = 1 ∧ link.delivered.map (·.id) = [lit "e"] := by decide +kernel
  obtain ⟨link,ran,ready,lastSeq,handed⟩ := facts
  have created : newClientProtocol {capabilities := stateSyncOffer} = .ok stateSyncLink.client := rfl
  exact ⟨link,ran,ready,lastSeq,handed,
    (link_delivers_log stateSyncServer (fun _ => true) (fun _ _ => rfl) created rfl rfl ran).1⟩

end Scenario

end Kmtproto
