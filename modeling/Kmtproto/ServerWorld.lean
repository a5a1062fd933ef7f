import Kmtproto.ServerHandlers
import Kmtproto.Interaction.Pool

/-! What the calls of one server share: the clock, the reference stores, the SEND
flights, the stream lanes, the outbound queues and one admission gate. A request is
performed on it as the section of source it stands for. -/
namespace Kmtproto
open Json Interaction

structure Flight where
  fingerprint : SendFingerprint
  callbackActive : Bool := false
  ack : Option Envelope := none
  finished : Bool := false

/-- A stream lane: the requests queued, the first of them running. -/
structure Lane where
  queue : List Nat := []
  issued : Nat := 0
  callbackActive : Bool := false

structure ServerAdmission where
  generation : ConnectionGeneration := 0
  outbound : Option Nat := none
  state : ServerAdmissionState := .closed
  sessionID : Bytes := []
  capabilities : SessionCapabilities := .empty
  handshake : Bool := false

structure World where
  clock : Int := 0
  sessions : MemorySessionRepository := ∅
  dedup : MemoryDedupStore
  flights : AList (fun _ : Bytes => Nat) := ∅
  flightTable : List Flight := []
  lanes : AList (fun _ : Bytes => Lane) := ∅
  replay : MemoryReplayStore := ∅
  queues : List OutboundQueue := []
  gate : ServerAdmission := {}

section Flights
variable (world : World)

def World.acquireFlight (key : Bytes) (fingerprint : SendFingerprint) : FlightTicket × World :=
  match world.flights.lookup key with
  | some flight =>
    match world.flightTable[flight]? with
    | some existing => (⟨flight,false,existing.fingerprint != fingerprint,existing.callbackActive⟩,world)
    | none => (⟨flight,false,false,false⟩,world)
  | none =>
    let flight := world.flightTable.length
    (⟨flight,true,false,false⟩,{world with
      flights := world.flights.insert key flight
      flightTable := world.flightTable++[{fingerprint := fingerprint}]})

def World.editFlight (flight : Nat) (edit : Flight → Flight) : World :=
  {world with flightTable := world.flightTable.modify flight edit}

def World.finishFlight (key : Bytes) (flight : Nat) : World :=
  if world.flights.lookup key = some flight then
    World.editFlight {world with flights := world.flights.erase key} flight (fun entry => {entry with finished := true})
  else world

/-- A callback starts only for the flight that is registered, and one at a time. -/
def World.beginSendCallback (key : Bytes) (flight : Nat) : Bool × World :=
  match world.flightTable[flight]? with
  | some entry =>
    if world.flights.lookup key ≠ some flight ∨ entry.callbackActive then (false,world)
    else (true,world.editFlight flight (fun entry => {entry with callbackActive := true}))
  | none => (false,world)

end Flights

section Lanes
variable (world : World) (sessionID : Bytes)

def World.lane : Lane := (world.lanes.lookup sessionID).getD {}

def World.setLane (lane : Lane) : World := {world with lanes := world.lanes.insert sessionID lane}

def World.joinLane : Option Nat × World :=
  let lane := world.lane sessionID
  if lane.callbackActive then (none,world)
  else (some lane.issued,world.setLane sessionID {lane with queue := lane.queue++[lane.issued], issued := lane.issued+1})

def World.leaveLane (ticket : Nat) : World :=
  let lane := world.lane sessionID
  world.setLane sessionID {lane with queue := lane.queue.erase ticket}

def World.beginLaneCallback : Bool × World :=
  let lane := world.lane sessionID
  if lane.callbackActive then (false,world)
  else (true,world.setLane sessionID {lane with callbackActive := true})

def World.endLaneCallback : World :=
  world.setLane sessionID {world.lane sessionID with callbackActive := false}

end Lanes

section Gate
variable (world : World)

/-- `Replace`: the old queue is closed and a new generation waits for its handshake. -/
def World.replaceConnection : (ConnectionGeneration × Nat) × World :=
  let queues := match world.gate.outbound with
    | some old => world.queues.modify old (fun queue => {queue with closed := true})
    | none => world.queues
  let generation := world.gate.generation + 1
  ((generation,queues.length),{world with
    queues := queues++[{}]
    gate := {generation := generation, outbound := some queues.length, state := .awaitingHandshake}})

def allowedFrame (state : ServerAdmissionState) (type : FrameType) : Bool :=
  type == .error ||
  (state == .awaitingHandshake && (type == .hello || type == .resume)) ||
  (state == .ready && (type == .ping || type == .send || type == .stateQuery || type == .resume))

/-- The locked section of `Handle`. -/
def ServerAdmission.admitFrame (gate : ServerAdmission) (generation : ConnectionGeneration) (frame : Envelope)
    (valid : Bool) : Admission × ServerAdmission :=
  match gate.outbound with
  | none => (.stale,gate)
  | some outbound =>
    if generation ≠ gate.generation then (.stale,gate)
    else if gate.state = .closed then (.invalidState,gate)
    else if !valid then (.unvalidated outbound,gate)
    else if !allowedFrame gate.state frame.type || (gate.state == .ready && frame.sessionID != gate.sessionID) ||
        (gate.state == .awaitingHandshake && gate.handshake) then
      (.rejected outbound,{gate with state := .closed, capabilities := .empty, handshake := false})
    else
      (.admitted outbound gate.state,{gate with
        handshake := gate.handshake || (gate.state == .awaitingHandshake && frame.type != .error)
        state := if gate.state = .ready ∧ frame.type = .resume then .resuming else gate.state})

def ServerAdmission.applyResult (gate : ServerAdmission) (generation : ConnectionGeneration) (outbound : Nat)
    (result : HandleResult) : ServerAdmission :=
  if generation ≠ gate.generation ∨ some outbound ≠ gate.outbound then gate
  else if gate.state = .closed then {gate with handshake := false}
  else if result.close then {gate with handshake := false, state := .closed, capabilities := .empty}
  else if result.abandonSession then
    {gate with handshake := false, state := .awaitingHandshake, sessionID := [], capabilities := .empty}
  else if result.readySessionID ≠ [] then
    {gate with handshake := false, state := .ready, sessionID := result.readySessionID,
               capabilities := result.capabilities}
  else if gate.state = .resuming then
    -- a resume succeeds only with an explicit session; anything else leaves the connection unusable
    {gate with handshake := false, state := .closed, capabilities := .empty}
  else {gate with handshake := false}

end Gate

/-- One request performed on the world. Requests to code outside the server take the
offered answer, and a store may fail with an offered error before it does anything. -/
def World.perform (world : World) : (op : Op) → Answer op → Option (Answer op × World)
  | .now, _ => some (world.clock,world)
  | .newSessionID, offered => some (offered,world)
  | .newFrameID, offered => some (offered,world)
  | .lookup sessionID now, offered =>
    match offered with
    | .error error => some (.error error,world)
    | .ok _ => some (.ok (world.sessions.live sessionID now),world)
  | .create state, _ =>
    match world.sessions.create state with
    | .error error => some (.error error,world)
    | .ok sessions => some (.ok (),{world with sessions := sessions})
  | .acquireFlight key fingerprint, _ => some (world.acquireFlight key fingerprint)
  | .finishFlight key flight, _ => some ((),world.finishFlight key flight)
  | .beginSendCallback key flight, _ => some (world.beginSendCallback key flight)
  | .endSendCallback flight, _ =>
    some ((),world.editFlight flight (fun entry => {entry with callbackActive := false}))
  | .setFlightACK flight ack, _ => some ((),world.editFlight flight (fun entry => {entry with ack := some ack}))
  | .flightACK flight, _ => some ((world.flightTable[flight]?).bind Flight.ack,world)
  | .awaitFlight flight, offered =>
    -- the wait ends when the flight is done, or when the caller's context is
    if offered = false ∨ ((world.flightTable[flight]?).map Flight.finished) = some true then some (offered,world) else none
  | .claim sessionID msgID fingerprint now, offered =>
    match offered with
    | .error error => some (.error error,world)
    | .ok _ =>
      let claimed := world.dedup.claim sessionID msgID fingerprint now
      some (.ok claimed.1,{world with dedup := claimed.2})
  | .complete sessionID msgID ack now, offered =>
    match offered with
    | .error error => some (.error error,world)
    | .ok () =>
      match world.dedup.complete sessionID msgID ack now with
      | .error error => some (.error error,world)
      | .ok dedup => some (.ok (),{world with dedup := dedup})
  | .handleSend _ _ _, _ => some ((),world)
  | .handleSendReturn _ _ _, offered => some (offered,world)
  | .inject _, offered => some (offered,world)
  | .joinLane sessionID, _ => some (world.joinLane sessionID)
  | .awaitLane sessionID ticket, _ =>
    if (world.lane sessionID).queue.head? = some ticket then some ((),world) else none
  | .leaveLane sessionID ticket, _ => some ((),world.leaveLane sessionID ticket)
  | .beginLaneCallback sessionID, _ => some (world.beginLaneCallback sessionID)
  | .endLaneCallback sessionID, _ => some ((),world.endLaneCallback sessionID)
  | .currentSeq sessionID, _ => some (.ok (world.replay.currentSeq sessionID),world)
  | .replay sessionID afterSeq throughSeq limits, _ =>
    some (world.replay.replay sessionID afterSeq throughSeq limits,world)
  | .append sessionID eventID eventType content timestamp, _ =>
    let (result,replay) := world.replay.append sessionID eventID eventType content timestamp
    some (result,{world with replay := replay})
  | .pruneBefore sessionID firstAvailableSeq, _ =>
    some ((),{world with replay := world.replay.pruneBefore sessionID firstAvailableSeq})
  | .getState _ _, offered => some (offered,world)
  | .snapshot _ _, offered => some (offered,world)
  | .enqueueBatch outbound frames, _ =>
    match world.queues[outbound]? with
    | none => none
    | some queue =>
      match queue.enqueueBatch frames with
      | .error error => some (.error error,world)
      | .ok queue => some (.ok (),{world with queues := world.queues.set outbound queue})
  | .closeQueue outbound, _ =>
    some ((),{world with queues := world.queues.modify outbound (fun queue => {queue with closed := true})})
  | .handled _ _, _ => some ((),world)
  | .replaceConnection, _ => some world.replaceConnection
  | .admitFrame generation frame valid, _ =>
    let admitted := world.gate.admitFrame generation frame valid
    some (admitted.1,{world with gate := admitted.2})
  | .applyResult generation outbound result, _ =>
    some ((),{world with gate := world.gate.applyResult generation outbound result})

def World.tick (elapsed : Int) (world : World) : Option World :=
  if 0 ≤ elapsed then some {world with clock := world.clock + elapsed} else none

abbrev ServerPool := Pool Op Answer World (Except Err Unit)

abbrev ServerMove := Move Op Answer Int ServerCall

/-- Requests to what a server is given: its clock, identifiers, stores and callbacks. -/
def Op.external : Op → Bool
  | .now | .newSessionID | .newFrameID | .lookup _ _ | .create _ | .claim _ _ _ _ | .complete _ _ _ _
  | .handleSend _ _ _ | .handleSendReturn _ _ _ | .inject _ | .currentSeq _ | .replay _ _ _ _ | .append _ _ _ _ _
  | .pruneBefore _ _ | .getState _ _ | .snapshot _ _ => true
  | _ => false

/-- A server whose dependencies are the reference ones for the requests `reference` selects;
to any other request outside the server the answer is arbitrary. -/
def serverMachine (config : ServerConfig) (reference : Op → Bool) :
    Machine Op Answer World Int ServerCall (Except Err Unit) where
  perform op offered world := if op.external && !reference op then some (offered,world) else world.perform op offered
  move := World.tick
  program := ServerCall.program config

structure World.Fresh (world : World) : Prop where
  queues : world.queues = []
  gate : world.gate = {}

/-- Answers of dependencies that work: what the world does not answer succeeds. -/
def working (sessionID frameID : Bytes) : (op : Op) → Answer op
  | .now => 0
  | .newSessionID => .ok sessionID
  | .newFrameID => .ok frameID
  | .lookup _ _ => .ok none
  | .create _ => .ok ()
  | .acquireFlight _ _ => ⟨0,false,false,false⟩
  | .finishFlight _ _ => ()
  | .beginSendCallback _ _ => false
  | .endSendCallback _ => ()
  | .setFlightACK _ _ => ()
  | .flightACK _ => none
  | .awaitFlight _ => true
  | .claim _ _ _ _ => .ok (false,none)
  | .complete _ _ _ _ => .ok ()
  | .handleSend _ _ _ => ()
  | .handleSendReturn _ _ _ => .ok ()
  | .inject _ => .ok ()
  | .joinLane _ => none
  | .awaitLane _ _ => ()
  | .leaveLane _ _ => ()
  | .beginLaneCallback _ => false
  | .endLaneCallback _ => ()
  | .currentSeq _ => .ok 0
  | .replay _ _ _ _ => .ok []
  | .append _ _ _ _ _ => .error .panic
  | .pruneBefore _ _ => ()
  | .getState _ _ => .ok none
  | .snapshot _ _ => .ok []
  | .enqueueBatch _ _ => .ok ()
  | .closeQueue _ => ()
  | .handled _ _ => ()
  | .replaceConnection => (0,0)
  | .admitFrame _ _ _ => .stale
  | .applyResult _ _ _ => ()

def turns (index count : Nat) (offered : (op : Op) → Answer op) : List ServerMove :=
  List.replicate count (.thread index offered)

@[simp] theorem spawn_mem_turns {call : ServerCall} {index count : Nat} {offered : (op : Op) → Answer op} :
    .spawn call ∈ turns index count offered ↔ False := by simp [turns]

def helloFrame : Envelope := {type := .hello, payload := HelloPayload.marshal {}}

def resumeFrame : Envelope :=
  {type := .resume, sessionID := lit "s", payload := ResumePayload.marshal {lastSeq := 0}}

def connectMoves : List ServerMove :=
  .spawn .replaceConnection::turns 0 1 (working (lit "s") (lit "f")) ++
  .spawn (.handle 1 helloFrame)::turns 1 9 (working (lit "s") (lit "f"))

end Kmtproto
