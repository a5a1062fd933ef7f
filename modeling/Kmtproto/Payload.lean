import Kmtproto.State

/-! The typed payloads of every frame: how each is written by `json.Marshal` and
which fields its decoder reads. -/
namespace Kmtproto
open Json

/-- A member that `omitempty` leaves out. -/
def optional (present : Bool) (name text : Bytes) : List (Bytes × Bytes) :=
  if present then [(name,text)] else []

/-- A slice of texts; a nil slice is written as null. -/
def encodeSlice (texts : List Bytes) : Bytes := if texts.isEmpty then nullText else encodeArray texts

structure HelloPayload where
  clientName : Bytes := []
  capabilities : List CapabilityOffer := []
  deriving DecidableEq, Repr

def CapabilityOffer.marshal (offer : CapabilityOffer) : Bytes :=
  encodeObject ([(lit "name",quote offer.name),
    (lit "versions",encodeSlice (offer.versions.map (fun version => decimal version.toNat)))] ++
    optional offer.required (lit "required") (encodeBool offer.required))

def HelloPayload.marshal (payload : HelloPayload) : Bytes :=
  encodeObject (optional (!payload.clientName.isEmpty) (lit "client_name") (quote payload.clientName) ++
    optional (!payload.capabilities.isEmpty) (lit "capabilities")
      (encodeArray (payload.capabilities.map CapabilityOffer.marshal)))

/-- An offer while it is decoded. -/
structure OfferCell where
  name : Bytes := []
  versions : Slice UInt16 := {}
  required : Bool := false

def OfferCell.offer (cell : OfferCell) : CapabilityOffer :=
  {name := cell.name, versions := cell.versions.items, required := cell.required}

def offerFields : List (JsonField OfferCell) :=
  [field (lit "name") (·.name) (fun offer name => {offer with name := name}) readText,
   field (lit "versions") (·.versions) (fun offer versions => {offer with versions := versions})
     (readSlice readUInt16 0),
   field (lit "required") (·.required) (fun offer required => {offer with required := required}) readFlag]

def readOffer (strict : Bool) : Reader OfferCell := readStruct offerFields strict

structure HelloCell where
  clientName : Bytes := []
  capabilities : Slice OfferCell := {}

def HelloCell.payload (cell : HelloCell) : HelloPayload :=
  {clientName := cell.clientName, capabilities := cell.capabilities.items.map OfferCell.offer}

def helloFields (strict : Bool) : List (JsonField HelloCell) :=
  [field (lit "client_name") (·.clientName) (fun payload name => {payload with clientName := name}) readText,
   field (lit "capabilities") (·.capabilities) (fun payload offers => {payload with capabilities := offers})
     (readSlice (readOffer strict) {})]

def readHello (strict : Bool) : Reader HelloPayload := readNew {} HelloCell.payload (readStruct (helloFields strict) strict)

structure ResumeStateSync where
  namespaces : List Bytes := []
  deriving DecidableEq, Repr

def ResumeStateSync.marshal (sync : ResumeStateSync) : Bytes :=
  encodeObject [(lit "namespaces",encodeSlice (sync.namespaces.map quote))]

structure SyncCell where
  namespaces : Slice Bytes := {}

def SyncCell.sync (cell : SyncCell) : ResumeStateSync := {namespaces := cell.namespaces.items}

def syncFields : List (JsonField SyncCell) :=
  [field (lit "namespaces") (·.namespaces) (fun sync namespaces => {sync with namespaces := namespaces})
     (readSlice readText [])]

def readSync (strict : Bool) : Reader SyncCell := readStruct syncFields strict

def welcomeModeNew : Bytes := lit "NEW"

def welcomeModeResumed : Bytes := lit "RESUMED"

structure WelcomePayload where
  mode : Bytes := []
  serverTime : Int64 := 0
  resumeFrom : UInt64 := 0
  replayTo : UInt64 := 0
  stateSync : Option ResumeStateSync := none
  acceptedCapabilities : List NegotiatedCapability := []
  deriving DecidableEq, Repr

def NegotiatedCapability.marshal (capability : NegotiatedCapability) : Bytes :=
  encodeObject [(lit "name",quote capability.name),(lit "version",decimal capability.version.toNat)]

/-- Replay bounds are written out for RESUMED, and left out for any other mode. -/
def WelcomePayload.members (payload : WelcomePayload) : List (Bytes × Bytes) :=
  [(lit "mode",quote payload.mode),(lit "server_time",decimalInt payload.serverTime.toInt)] ++
  if payload.mode = welcomeModeResumed then
    [(lit "resume_from",decimal payload.resumeFrom.toNat),(lit "replay_to",decimal payload.replayTo.toNat)] ++
    (match payload.stateSync with
     | none => []
     | some sync => [(lit "state_sync",sync.marshal)])
  else
    optional (!payload.acceptedCapabilities.isEmpty) (lit "accepted_capabilities")
      (encodeArray (payload.acceptedCapabilities.map NegotiatedCapability.marshal))

def WelcomePayload.marshal (payload : WelcomePayload) : Bytes := encodeObject payload.members

def negotiatedFields : List (JsonField NegotiatedCapability) :=
  [field (lit "name") (·.name) (fun capability name => {capability with name := name}) readText,
   field (lit "version") (·.version) (fun capability version => {capability with version := version}) readUInt16]

def readNegotiated (strict : Bool) : Reader NegotiatedCapability := readStruct negotiatedFields strict

structure WelcomeCell where
  mode : Bytes := []
  serverTime : Int64 := 0
  resumeFrom : UInt64 := 0
  replayTo : UInt64 := 0
  stateSync : Option SyncCell := none
  acceptedCapabilities : Slice NegotiatedCapability := {}

def WelcomeCell.payload (cell : WelcomeCell) : WelcomePayload :=
  {mode := cell.mode, serverTime := cell.serverTime, resumeFrom := cell.resumeFrom, replayTo := cell.replayTo,
   stateSync := cell.stateSync.map SyncCell.sync, acceptedCapabilities := cell.acceptedCapabilities.items}

def welcomeFields (strict : Bool) : List (JsonField WelcomeCell) :=
  [field (lit "mode") (·.mode) (fun payload mode => {payload with mode := mode}) readText,
   field (lit "server_time") (·.serverTime) (fun payload time => {payload with serverTime := time}) readInt64,
   field (lit "resume_from") (·.resumeFrom) (fun payload seq => {payload with resumeFrom := seq}) readUInt64,
   field (lit "replay_to") (·.replayTo) (fun payload seq => {payload with replayTo := seq}) readUInt64,
   field (lit "state_sync") (·.stateSync) (fun payload sync => {payload with stateSync := sync})
     (readPointer (readSync strict) {}),
   field (lit "accepted_capabilities") (·.acceptedCapabilities)
     (fun payload capabilities => {payload with acceptedCapabilities := capabilities})
     (readSlice (readNegotiated strict) {})]

def readWelcome (strict : Bool) : Reader WelcomePayload :=
  readNew {} WelcomeCell.payload (readStruct (welcomeFields strict) strict)

structure PingPayload where
  pingID : Bytes := []
  clientTime : Int64 := 0
  deriving DecidableEq, Repr

def PingPayload.marshal (payload : PingPayload) : Bytes :=
  encodeObject [(lit "ping_id",quote payload.pingID),(lit "client_time",decimalInt payload.clientTime.toInt)]

def pingFields : List (JsonField PingPayload) :=
  [field (lit "ping_id") (·.pingID) (fun payload id => {payload with pingID := id}) readText,
   field (lit "client_time") (·.clientTime) (fun payload time => {payload with clientTime := time}) readInt64]

def readPing (strict : Bool) : Reader PingPayload := readStruct pingFields strict

structure PongPayload where
  pingID : Bytes := []
  clientTime : Int64 := 0
  serverTime : Int64 := 0
  deriving DecidableEq, Repr

def PongPayload.marshal (payload : PongPayload) : Bytes :=
  encodeObject [(lit "ping_id",quote payload.pingID),(lit "client_time",decimalInt payload.clientTime.toInt),
    (lit "server_time",decimalInt payload.serverTime.toInt)]

def pongFields : List (JsonField PongPayload) :=
  [field (lit "ping_id") (·.pingID) (fun payload id => {payload with pingID := id}) readText,
   field (lit "client_time") (·.clientTime) (fun payload time => {payload with clientTime := time}) readInt64,
   field (lit "server_time") (·.serverTime) (fun payload time => {payload with serverTime := time}) readInt64]

def readPong (strict : Bool) : Reader PongPayload := readStruct pongFields strict

structure SendPayload where
  content : Bytes := []
  deriving DecidableEq, Repr

def SendPayload.marshal (payload : SendPayload) : Option Bytes := do
  let content ← marshalRaw payload.content
  some (encodeObject [(lit "content",content)])

def sendFields : List (JsonField SendPayload) :=
  [field (lit "content") (·.content) (fun payload content => {payload with content := content}) readRaw]

def readSend (strict : Bool) : Reader SendPayload := readStruct sendFields strict

structure AckPayload where
  refID : Bytes := []
  deriving DecidableEq, Repr

def AckPayload.marshal (payload : AckPayload) : Bytes := encodeObject [(lit "ref_id",quote payload.refID)]

def ackFields : List (JsonField AckPayload) :=
  [field (lit "ref_id") (·.refID) (fun payload id => {payload with refID := id}) readText]

def readAck (strict : Bool) : Reader AckPayload := readStruct ackFields strict

structure EventPayload where
  eventType : Bytes := []
  content : Bytes := []
  deriving DecidableEq, Repr

def EventPayload.marshal (payload : EventPayload) : Option Bytes := do
  let content ← marshalRaw payload.content
  some (encodeObject (optional (!payload.eventType.isEmpty) (lit "event_type") (quote payload.eventType) ++
    [(lit "content",content)]))

def eventFields : List (JsonField EventPayload) :=
  [field (lit "event_type") (·.eventType) (fun payload type => {payload with eventType := type}) readText,
   field (lit "content") (·.content) (fun payload content => {payload with content := content}) readRaw]

def readEvent (strict : Bool) : Reader EventPayload := readStruct eventFields strict

structure ResumePayload where
  lastSeq : UInt64 := 0
  stateSync : Option ResumeStateSync := none
  deriving DecidableEq, Repr

def ResumePayload.members (payload : ResumePayload) : List (Bytes × Bytes) :=
  (lit "last_seq",decimal payload.lastSeq.toNat)::
    (match payload.stateSync with
     | none => []
     | some sync => [(lit "state_sync",sync.marshal)])

def ResumePayload.marshal (payload : ResumePayload) : Bytes := encodeObject payload.members

structure ResumeCell where
  lastSeq : UInt64 := 0
  stateSync : Option SyncCell := none

def ResumeCell.payload (cell : ResumeCell) : ResumePayload :=
  {lastSeq := cell.lastSeq, stateSync := cell.stateSync.map SyncCell.sync}

def resumeFields (strict : Bool) : List (JsonField ResumeCell) :=
  [field (lit "last_seq") (·.lastSeq) (fun payload seq => {payload with lastSeq := seq}) readUInt64,
   field (lit "state_sync") (·.stateSync) (fun payload sync => {payload with stateSync := sync})
     (readPointer (readSync strict) {})]

def readResume (strict : Bool) : Reader ResumePayload := readNew {} ResumeCell.payload (readStruct (resumeFields strict) strict)

structure StateQueryPayload where
  namespace_ : Bytes := []
  objectIDs : List Bytes := []
  deriving DecidableEq, Repr

def StateQueryPayload.marshal (payload : StateQueryPayload) : Bytes :=
  encodeObject [(lit "namespace",quote payload.namespace_),
    (lit "object_ids",encodeSlice (payload.objectIDs.map quote))]

structure QueryCell where
  namespace_ : Bytes := []
  objectIDs : Slice Bytes := {}

def QueryCell.payload (cell : QueryCell) : StateQueryPayload :=
  {namespace_ := cell.namespace_, objectIDs := cell.objectIDs.items}

def queryFields : List (JsonField QueryCell) :=
  [field (lit "namespace") (·.namespace_) (fun payload name => {payload with namespace_ := name}) readText,
   field (lit "object_ids") (·.objectIDs) (fun payload ids => {payload with objectIDs := ids})
     (readSlice readText [])]

def readQuery (strict : Bool) : Reader StateQueryPayload := readNew {} QueryCell.payload (readStruct queryFields strict)

def objectFields : List (JsonField StateObject) :=
  [field (lit "namespace") (·.namespace_) (fun object name => {object with namespace_ := name}) readText,
   field (lit "object_id") (·.objectID) (fun object id => {object with objectID := id}) readText,
   field (lit "version") (·.version) (fun object version => {object with version := version}) readUInt64,
   field (lit "data") (·.data) (fun object data => {object with data := data}) readRaw]

def readObject (strict : Bool) : Reader StateObject := readStruct objectFields strict

structure StateSnapshotPayload where
  states : List StateObject := []
  deriving DecidableEq, Repr

structure SnapshotCell where
  states : Slice StateObject := {}

def SnapshotCell.payload (cell : SnapshotCell) : StateSnapshotPayload := {states := cell.states.items}

def snapshotFields (strict : Bool) : List (JsonField SnapshotCell) :=
  [field (lit "states") (·.states) (fun payload states => {payload with states := states})
     (readSlice (readObject strict) {})]

def readSnapshot (strict : Bool) : Reader StateSnapshotPayload :=
  readNew {} SnapshotCell.payload (readStruct (snapshotFields strict) strict)

structure StateUpdatePayload where
  state : StateObject := {}
  deriving DecidableEq, Repr

def StateUpdatePayload.marshal (payload : StateUpdatePayload) : Option Bytes := do
  let state ← payload.state.marshal
  some (encodeObject [(lit "state",state)])

def updateFields (strict : Bool) : List (JsonField StateUpdatePayload) :=
  [field (lit "state") (·.state) (fun payload state => {payload with state := state}) (readObject strict)]

def readUpdate (strict : Bool) : Reader StateUpdatePayload := readStruct (updateFields strict) strict

structure ErrorPayload where
  code : Bytes := []
  message : Bytes := []
  refID : Bytes := []
  retryable : Bool := false
  deriving DecidableEq, Repr

def ErrorPayload.marshal (payload : ErrorPayload) : Bytes :=
  encodeObject ([(lit "code",quote payload.code)] ++
    optional (!payload.message.isEmpty) (lit "message") (quote payload.message) ++
    optional (!payload.refID.isEmpty) (lit "ref_id") (quote payload.refID) ++
    [(lit "retryable",encodeBool payload.retryable)])

def errorFields : List (JsonField ErrorPayload) :=
  [field (lit "code") (·.code) (fun payload code => {payload with code := code}) readText,
   field (lit "message") (·.message) (fun payload message => {payload with message := message}) readText,
   field (lit "ref_id") (·.refID) (fun payload id => {payload with refID := id}) readText,
   field (lit "retryable") (·.retryable) (fun payload flag => {payload with retryable := flag}) readFlag]

def readError (strict : Bool) : Reader ErrorPayload := readStruct errorFields strict

/-- `json.Marshal` of an envelope; none when its payload is not a JSON value. -/
def Envelope.marshal (frame : Envelope) : Option Bytes := do
  let payload ← if frame.payload.isEmpty then some [] else (compact frame.payload).map (fun text => [(lit "payload",text)])
  some (encodeObject ([(lit "v",decimal frame.v.toNat),(lit "type",quote frame.type.name)] ++
    optional (!frame.id.isEmpty) (lit "id") (quote frame.id) ++
    optional (!frame.sessionID.isEmpty) (lit "session_id") (quote frame.sessionID) ++
    optional (frame.seq != 0) (lit "seq") (decimal frame.seq.toNat) ++
    optional (frame.timestamp != 0) (lit "timestamp") (decimalInt frame.timestamp.toInt) ++
    payload))

end Kmtproto
