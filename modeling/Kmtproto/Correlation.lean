import Kmtproto.JsonCodec
import Kmtproto.Heartbeat
import Kmtproto.Json.Nesting

/-! What the client remembers of the frames it sends. The record of a ping, a query, a
resume and a message is compared with what a peer reads from the encoded frame, and the
answer built from the latter with what the client recognises. -/
namespace Kmtproto
open Json

inductive Correlation where
  | ping (id : Bytes)
  | query (id : Bytes) (query : StateQueryPayload)
  | resume (namespaces : List Bytes)
  | send (frame : Envelope)

def Client.recorded (c : Client) : Call → Option Correlation
  | .sendPing _ _ => c.pendingPing.map (fun ping => .ping ping.id)
  | .queryState queryID _ _ => (c.stateQueries.lookup queryID).map (.query queryID)
  | .resumeWithState _ _ => some (.resume c.resumeStateNamespaces)
  | .enqueueSend messageID _ => (c.outbox.lookup messageID).map .send
  | _ => none

def Envelope.correlation (strict : Bool) (frame : Envelope) : Option Correlation :=
  match frame.type with
  | .ping => (decodePayload readPing {} frame.payload strict).toOption.map (fun payload => .ping payload.pingID)
  | .stateQuery => (decodePayload readQuery {} frame.payload strict).toOption.map (.query frame.id)
  | .resume =>
    (decodePayload readResume {} frame.payload strict).toOption.bind
      (fun payload => payload.stateSync.map (fun sync => .resume sync.namespaces))
  | .send => some (.send frame)
  | _ => none

/-- The answer an honest server builds from what it read. -/
inductive HonestAnswer (strict : Bool) : Correlation → Envelope → Prop
  | pong (id : Bytes) (frame : Envelope) (payload : PongPayload) (pong : frame.type = .pong)
      (decoded : decodePayload readPong {} frame.payload strict = .ok payload) (echoes : payload.pingID = id) :
      HonestAnswer strict (.ping id) frame
  | snapshot (id : Bytes) (query : StateQueryPayload) (frame : Envelope) (payload : StateSnapshotPayload)
      (snapshot : frame.type = .stateSnapshot) (echoes : frame.id = id)
      (decoded : decodePayload readSnapshot {} frame.payload strict = .ok payload)
      (asked : ∀ object ∈ payload.states, object.namespace_ = query.namespace_ ∧ object.objectID ∈ query.objectIDs) :
      HonestAnswer strict (.query id query) frame
  | welcome (namespaces : List Bytes) (frame : Envelope) (payload : WelcomePayload) (welcome : frame.type = .welcome)
      (decoded : decodePayload readWelcome {} frame.payload strict = .ok payload)
      (echoes : payload.stateSync = some ⟨namespaces⟩) : HonestAnswer strict (.resume namespaces) frame
  | ack (sent frame : Envelope) (payload : AckPayload) (ack : frame.type = .ack)
      (decoded : decodePayload readAck {} frame.payload strict = .ok payload) (echoes : payload.refID = sent.id) :
      HonestAnswer strict (.send sent) frame

def Client.mergeSnapshot (c : Client) (id : Bytes) (states : List StateObject) : Outcome :=
  match c.applyStateObjects states with
  | .error error => c.refuse error
  | .ok (merged,actions) => Client.reply {merged with stateQueries := merged.stateQueries.erase id} actions

def Client.Matches (c : Client) (frame : Envelope) : Correlation → Prop
  | .ping _ => ∀ now, (c.step now (.handleIncoming c.generation frame)).1.pendingPing = none
  | .query id _ => ∀ now payload, decodePayload readSnapshot {} frame.payload c.config.strictValidation = .ok payload →
      c.dispatch c.generation frame now = c.mergeSnapshot id payload.states
  | .resume _ => ∀ payload, decodePayload readWelcome {} frame.payload c.config.strictValidation = .ok payload →
      c.checkStateSync payload.stateSync = .ok ()
  | .send sent => ∀ now, (c.step now (.handleIncoming c.generation frame)).2 = .ok [.acked sent.id]

def Client.codec (c : Client) : JSONCodec := ⟨c.config.limits,c.config.strictValidation⟩

/-- The client's record of a call is what a peer obtains from the frame, and it recognises
the honest answer to that. -/
structure Client.Recalls (c : Client) (call : Call) (frame : Envelope) : Prop where
  agrees : ∃ encoded wire correlation, frame.marshal = some encoded ∧ c.codec.decode encoded = .ok wire ∧
    (∀ (peer : JSONCodec) other, peer.decode encoded = .ok other → other = wire) ∧
    wire.correlation c.config.strictValidation = some correlation ∧ c.recorded call = some correlation ∧
    ∀ answer, c.Accepts c.generation answer → HonestAnswer c.config.strictValidation correlation answer →
      c.Matches answer correlation

inductive Call.Correlated : Call → Prop
  | ping (generation : ConnectionGeneration) (pingID : Bytes) : Correlated (.sendPing generation pingID)
  | query (queryID namespace_ : Bytes) (objectIDs : List Bytes) : Correlated (.queryState queryID namespace_ objectIDs)
  | resume (generation : ConnectionGeneration) (namespaces : List Bytes) :
      Correlated (.resumeWithState generation namespaces)
  | send (messageID content : Bytes) : Correlated (.enqueueSend messageID content)

/-- Strings of a call are UTF-8, and its content leaves room for the two objects around it. -/
def Call.Faithful : Call → Prop
  | .sendPing _ pingID => validString pingID = true
  | .queryState _ namespace_ objectIDs => validString namespace_ = true ∧ ∀ id ∈ objectIDs, validString id = true
  | .enqueueSend _ content => (compactAt 9998 content).isSome
  | _ => True

theorem toValid_eq_iff (text : Bytes) : toValid text = text ↔ validString text = true := by
  constructor
  · intro same
    have valid := unquote_valid _ _ (unquote_quoteChars text)
    rwa [same] at valid
  · exact toValid_of_valid text

private theorem map_toValid_iff (texts : List Bytes) :
    texts.map toValid = texts ↔ ∀ text ∈ texts, validString text = true := by
  have each := List.map_inj_left (f := toValid) (g := id) (l := texts)
  simpa only [List.map_id,id,toValid_eq_iff] using each

section Written
variable {strict : Bool}

private theorem compacted_slice (depth : Nat) (texts : List Bytes) :
    Compacted (depth+1) (encodeSlice (texts.map quote)) := by
  unfold encodeSlice
  split
  · exact compacted_null (depth+1)
  · refine compacted_array depth _ (fun text found => ?_)
    obtain ⟨source,_,rfl⟩ := List.mem_map.mp found
    exact compacted_quote depth source

private theorem compacted_ping (payload : PingPayload) : Compacted 1 payload.marshal := by
  refine compacted_object 0 _ ?_
  simp only [List.mem_cons,List.not_mem_nil,or_false,forall_eq_or_imp,forall_eq]
  exact ⟨⟨compacted_quote 0 _,rfl,rfl⟩,compacted_decimalInt 0 _,rfl,rfl⟩

private theorem readPing_marshal (payload : PingPayload) :
    readPing strict {} payload.marshal = some {payload with pingID := toValid payload.pingID} := by
  unfold readPing PingPayload.marshal
  rw [readStruct_encodeObject pingFields strict {} _ 0 (by decide)
    (by simpa using ⟨(rfl : Passes (lit "ping_id")),(rfl : Passes (lit "client_time"))⟩)
    (by simpa using ⟨⟨_,reads_quote 0 _⟩,⟨_,reads_decimalInt 0 _⟩⟩)]
  rw [readMembers_cons _ (by decide) rfl (by simp only [field,readText_quote,Option.map_some]; rfl),
    readMembers_cons _ (by decide) rfl (by simp only [field,readInt64_decimalInt,Option.map_some]; rfl)]
  rfl

private theorem compacted_query (payload : StateQueryPayload) : Compacted 2 payload.marshal := by
  refine compacted_object 1 _ ?_
  simp only [List.mem_cons,List.not_mem_nil,or_false,forall_eq_or_imp,forall_eq]
  exact ⟨⟨compacted_quote 1 _,rfl,rfl⟩,compacted_slice 0 _,rfl,rfl⟩

private theorem readSlice_toValid (texts : List Bytes) :
    readSlice readText [] {} (encodeSlice (texts.map quote)) = some {items := texts.map toValid} := by
  unfold encodeSlice
  split
  · rename_i empty
    simp only [List.isEmpty_iff,List.map_eq_nil_iff] at empty
    rw [readSlice,show view nullText = some .null from (reads_null 0).view (by decide),empty]
    rfl
  · refine readSlice_encodeArray quote readText [] texts _ 0 (by decide) (fun text _ => ⟨_,reads_quote 0 text⟩) ?_
    refine List.forall₂_map_right_iff.mpr (List.forall₂_same.mpr (fun text _ => ?_))
    exact readText_quote [] text

private theorem readQuery_marshal (payload : StateQueryPayload) :
    readQuery strict {} payload.marshal =
      some {namespace_ := toValid payload.namespace_, objectIDs := payload.objectIDs.map toValid} := by
  have slice := (compacted_slice 0 payload.objectIDs).reads
  unfold readQuery readNew StateQueryPayload.marshal
  rw [readStruct_encodeObject queryFields strict {} _ 1 (by decide)
    (by simpa using ⟨(rfl : Passes (lit "namespace")),(rfl : Passes (lit "object_ids"))⟩)
    (by simpa using ⟨⟨_,reads_quote 1 _⟩,slice⟩)]
  rw [readMembers_cons _ (by decide) rfl (by simp only [field,readText_quote,Option.map_some]; rfl),
    readMembers_cons _ (by decide) rfl (by simp only [field,readSlice_toValid,Option.map_some]; rfl)]
  rfl

private theorem compacted_resume (payload : ResumePayload) : Compacted 3 payload.marshal := by
  have sync (sync : ResumeStateSync) : Compacted 2 sync.marshal := by
    refine compacted_object 1 _ ?_
    simp only [List.mem_cons,List.not_mem_nil,or_false,forall_eq]
    exact ⟨compacted_slice 0 _,rfl,rfl⟩
  refine compacted_object 2 _ ?_
  obtain ⟨lastSeq,stateSync⟩ := payload
  cases stateSync with
  | none =>
    simp only [ResumePayload.members,List.mem_cons,List.not_mem_nil,or_false,forall_eq]
    exact ⟨compacted_decimal 2 _,rfl,rfl⟩
  | some wanted =>
    simp only [ResumePayload.members,List.mem_cons,List.not_mem_nil,or_false,forall_eq_or_imp,forall_eq]
    exact ⟨⟨compacted_decimal 2 _,rfl,rfl⟩,sync wanted,rfl,rfl⟩

private theorem readResume_marshal (lastSeq : UInt64) (sync : ResumeStateSync)
    (valid : ∀ text ∈ sync.namespaces, validString text = true) :
    readResume strict {} (ResumePayload.marshal {lastSeq := lastSeq, stateSync := some sync}) =
      some {lastSeq := lastSeq, stateSync := some sync} := by
  unfold readResume readNew ResumePayload.marshal ResumePayload.members
  rw [readStruct_encodeObject (resumeFields strict) strict {} _ 2 (by decide)
    (by simpa using ⟨(rfl : Passes (lit "last_seq")),(rfl : Passes (lit "state_sync"))⟩)
    (by simpa using ⟨⟨_,reads_decimal 2 _⟩,reads_sync sync⟩)]
  rw [readMembers_cons _ (by decide) rfl (by simp only [field,readUInt64_decimal,Option.map_some]; rfl),
    readMembers_cons _ (by decide) rfl (by simp only [field,readSync_marshal strict sync valid,Option.map_some]; rfl)]
  rfl

end Written

section Wire
variable {frame : Envelope} {limits : Limits} {strict : Bool}

private theorem decode_sent {depth : Nat} (valid : validateFrame frame limits strict = .ok ())
    (known : validString frame.type.name = true) (compacted : Compacted depth frame.payload) (shallow : depth ≤ 9999) :
    ∃ encoded, frame.marshal = some encoded ∧ (⟨limits,strict⟩ : JSONCodec).decode encoded = .ok frame ∧
      ∀ (peer : JSONCodec) other, peer.decode encoded = .ok other → other = frame := by
  obtain ⟨id,session,payload,written,marshalled,size⟩ := validateFrame_written valid
  obtain ⟨node,reads⟩ := compacted.reads
  have deep : Reads 9999 frame.payload node := by
    have wide := reads.mono (9999-depth)
    rwa [Nat.add_sub_cancel' shallow] at wide
  obtain ⟨c,tail,form,_⟩ := reads.head
  have same : payload = frame.payload := by
    unfold writtenPayload at written
    rw [if_neg (by simp [form])] at written
    exact compacted.compact_eq written
  cases same
  refine ⟨_,marshalled,JSONCodec.decode_written id session known size (fun _ => ⟨node,deep⟩) valid,fun peer other decoded => ?_⟩
  exact (JSONCodec.decode_inverts id session known (fun _ => ⟨node,deep.mono 1⟩) decoded).1

private theorem decoded_payload {α : Type} {read : Bool → Reader α} {zero payload other : α} {depth : Nat} {text : Bytes}
    (compacted : Compacted depth text) (written : read strict zero text = some payload)
    (decoded : decodePayload read zero text strict = .ok other) : decodePayload read zero text strict = .ok payload := by
  obtain ⟨node,reads⟩ := compacted.reads
  rw [decoded,Option.some.inj (written.symm.trans (decodePayload_written reads decoded))]

end Wire

section Calls
variable {c next : Client} {now : Int} {frame : Envelope} {actions : List Action}

private theorem remembers_iff (next : Client) (call : Call) (stored : Correlation) {received : Correlation}
    (travels : ∃ encoded, frame.marshal = some encoded ∧ next.codec.decode encoded = .ok frame ∧
      ∀ (peer : JSONCodec) other, peer.decode encoded = .ok other → other = frame)
    (reads : frame.correlation next.config.strictValidation = some received) (records : next.recorded call = some stored)
    (matching : ∀ answer, next.Accepts next.generation answer →
      HonestAnswer next.config.strictValidation stored answer → next.Matches answer stored) :
    next.Recalls call frame ↔ stored = received := by
  obtain ⟨encoded,marshalled,decoded,unique⟩ := travels
  constructor
  · rintro ⟨_,wire,correlation,again,got,_,read,recorded,_⟩
    cases marshalled.symm.trans again
    cases decoded.symm.trans got
    cases reads.symm.trans read
    cases records.symm.trans recorded
    rfl
  · rintro rfl
    exact ⟨encoded,frame,stored,marshalled,decoded,unique,reads,records,matching⟩

private theorem sendPing_sent {generation : ConnectionGeneration} {pingID : Bytes}
    (sent : c.sendPing generation pingID now = (next,.ok actions)) :
    ∃ frame, actions = [.sendFrame frame] ∧
      (next.Recalls (.sendPing generation pingID) frame ↔ validString pingID = true) := by
  unfold Client.sendPing at sent
  split at sent
  · cases sent
  rename_i current
  split at sent
  · cases sent
  rename_i state
  obtain ⟨ready,_,_⟩ : c.state = .ready ∧ c.pendingPing = none ∧ pingID ≠ [] := by simpa using state
  obtain rfl : generation = c.generation := by simpa using current
  simp only at sent
  split at sent
  · cases sent
  rename_i valid
  rw [Client.validates,validateOutboundFrame_eq] at valid
  cases sent
  have compacted := compacted_ping {pingID := pingID, clientTime := unixMilli now}
  have typed := (validateFrame_parts valid).2
  simp only [validateTyped,validatePing] at typed
  obtain ⟨_,_,typed⟩ := bind_ok typed
  obtain ⟨_,_,typed⟩ := bind_ok typed
  obtain ⟨_,_,typed⟩ := bind_ok typed
  obtain ⟨other,decodes,_⟩ := bind_ok typed
  have payload := decoded_payload compacted (readPing_marshal _) decodes
  refine ⟨_,rfl,(remembers_iff {c with pendingPing := some ⟨pingID,now,c.generation⟩} (.sendPing c.generation pingID) (.ping pingID)
    (decode_sent valid rfl compacted (by decide)) (by simp only [Envelope.correlation,payload]; rfl) rfl ?_).trans ?_⟩
  · intro answer accepts honest now'
    cases honest with
    | pong _ _ payload pong decoded echoes =>
      have handles : Client.HandlesPong {c with pendingPing := some ⟨pingID,now,c.generation⟩}
          (.handleIncoming c.generation answer) (⟨pingID,now,c.generation⟩ : PendingPing).id :=
        ⟨_,_,payload,rfl,accepts,pong,decoded,echoes⟩
      exact (handles.answers rfl ⟨Or.inl ready,rfl⟩).2
  · simp only [Correlation.ping.injEq]
    rw [eq_comm,toValid_eq_iff]

private theorem snapshot_answers {answer : Envelope} {generation : ConnectionGeneration} {query : StateQueryPayload}
    {payload : StateSnapshotPayload} (ready : c.state = .ready) (enabled : stateSyncEnabled c.capabilities = true)
    (pending : c.stateQueries.lookup answer.id = some query) (snapshot : answer.type = .stateSnapshot)
    (decoded : decodePayload readSnapshot {} answer.payload c.config.strictValidation = .ok payload)
    (asked : ∀ object ∈ payload.states, object.namespace_ = query.namespace_ ∧ object.objectID ∈ query.objectIDs) :
    c.dispatch generation answer now = c.mergeSnapshot answer.id payload.states := by
  have found : payload.states.find? (fun object =>
      object.namespace_ != query.namespace_ || object.objectID ∉ query.objectIDs) = none := by
    rw [List.find?_eq_none]
    intro object member
    simp [asked object member]
  simp only [Client.dispatch,snapshot]
  unfold Client.handleStateSnapshot
  rw [if_neg (by simp [ready]),if_neg (by simp [ready]),if_neg (by simp [enabled]),pending]
  simp only [decoded,found]
  cases applied : c.applyStateObjects payload.states with
  | error error => simp only [Client.mergeSnapshot,applied]
  | ok merged => simp only [Client.mergeSnapshot,applied]

private theorem queryState_sent {queryID namespace_ : Bytes} {objectIDs : List Bytes}
    (sent : c.queryState queryID namespace_ objectIDs now = (next,.ok actions)) :
    ∃ frame, actions = [.sendFrame frame] ∧ (next.Recalls (.queryState queryID namespace_ objectIDs) frame ↔
      validString namespace_ = true ∧ ∀ id ∈ objectIDs, validString id = true) := by
  unfold Client.queryState at sent
  split at sent
  · cases sent
  rename_i state
  obtain ⟨ready,_⟩ : c.state = .ready ∧ c.sessionID ≠ [] := by simpa using state
  split at sent
  · cases sent
  rename_i enabled
  simp only at sent
  split at sent
  · cases sent
  rename_i valid
  rw [Client.validates,validateOutboundFrame_eq] at valid
  split at sent
  · cases sent
  cases sent
  have compacted := compacted_query {namespace_ := namespace_, objectIDs := sortStrings objectIDs}
  have typed := (validateFrame_parts valid).2
  simp only [validateTyped,validateStateQuery] at typed
  obtain ⟨_,_,typed⟩ := bind_ok typed
  obtain ⟨_,_,typed⟩ := bind_ok typed
  obtain ⟨_,_,typed⟩ := bind_ok typed
  obtain ⟨other,decodes,_⟩ := bind_ok typed
  have payload := decoded_payload compacted (readQuery_marshal _) decodes
  refine ⟨_,rfl,(remembers_iff
    {c with stateQueries := c.stateQueries.insert queryID {namespace_ := namespace_, objectIDs := sortStrings objectIDs}}
    (.queryState queryID namespace_ objectIDs)
    (.query queryID {namespace_ := namespace_, objectIDs := sortStrings objectIDs})
    (decode_sent valid rfl compacted (by decide)) (by simp only [Envelope.correlation,payload]; rfl)
    (by simp [Client.recorded]) ?_).trans ?_⟩
  · intro answer accepts honest
    cases honest with
    | snapshot _ _ _ payload snapshot echoes decoded asked =>
      intro now' other again
      cases decoded.symm.trans again
      rw [← echoes]
      exact snapshot_answers ready (by simpa using enabled) (by rw [echoes]; exact AList.lookup_insert _) snapshot decoded asked
  · simp only [Correlation.query.injEq,true_and,StateQueryPayload.mk.injEq]
    rw [@eq_comm _ namespace_,@eq_comm _ (sortStrings objectIDs),toValid_eq_iff,map_toValid_iff]
    simp only [sortStrings,List.mem_insertionSort]

private theorem checkNamespaces_valid {maxLength : Int} {last : Option Bytes} {namespaces : List Bytes}
    (checked : checkNamespaces maxLength last namespaces = .ok ()) : ∀ text ∈ namespaces, validString text = true := by
  induction namespaces generalizing last with
  | nil => simp
  | cons namespace_ namespaces ih =>
    unfold checkNamespaces at checked
    obtain ⟨_,named,checked⟩ := bind_ok checked
    obtain ⟨_,checked⟩ := reject_bind_ok checked
    refine List.forall_mem_cons.mpr ⟨?_,ih checked⟩
    unfold validateStateNamespace at named
    split at named
    · cases named
    · rename_i form
      simp only [Bool.or_eq_true,not_or,Bool.not_eq_true,Bool.not_eq_false'] at form
      exact form.2

private theorem resumeWithState_sent {generation : ConnectionGeneration} {namespaces : List Bytes}
    (sent : c.resumeWithState generation namespaces now = (next,.ok actions)) :
    ∃ frame, actions = [.sendFrame frame] ∧ next.Recalls (.resumeWithState generation namespaces) frame := by
  unfold Client.resumeWithState at sent
  split at sent
  · cases sent
  split at sent
  · cases sent
  simp only at sent
  split at sent
  · cases sent
  rename_i synced
  unfold validateResumeStateSync at synced
  obtain ⟨required,checked⟩ := reject_bind_ok synced
  have named := checkNamespaces_valid checked
  have nonempty : (sortStrings namespaces).isEmpty = false := by
    simp only [Bool.or_eq_true,not_or,Bool.not_eq_true] at required
    exact required.1
  unfold Client.startResume at sent
  split at sent
  · cases sent
  split at sent
  · cases sent
  simp only at sent
  split at sent
  · cases sent
  rename_i valid
  rw [Client.validates,validateOutboundFrame_eq] at valid
  cases sent
  have form : (c.resumeFrame (sortStrings namespaces) now).payload =
      ResumePayload.marshal {lastSeq := c.lastSeq, stateSync := some ⟨sortStrings namespaces⟩} := by
    simp only [Client.resumeFrame,nonempty]
    rfl
  have compacted : Compacted 3 (c.resumeFrame (sortStrings namespaces) now).payload := compacted_resume _
  have typed := (validateFrame_parts valid).2
  simp only [validateTyped,Client.resumeFrame,validateResume] at typed
  obtain ⟨_,_,typed⟩ := bind_ok typed
  obtain ⟨_,_,typed⟩ := bind_ok typed
  obtain ⟨_,_,typed⟩ := bind_ok typed
  obtain ⟨other,decodes,_⟩ := bind_ok typed
  have payload := decoded_payload compacted (by rw [form]; exact readResume_marshal _ _ named) decodes
  refine ⟨_,rfl,(remembers_iff (c.beginRecovery (sortStrings namespaces) false) _ (.resume (sortStrings namespaces))
    (decode_sent valid rfl compacted (by decide)) ?_ rfl ?_).mpr rfl⟩
  · change ((decodePayload readResume {} (c.resumeFrame (sortStrings namespaces) now).payload
      c.config.strictValidation).toOption.bind _) = _
    rw [payload]
    rfl
  intro answer accepts honest
  cases honest with
  | welcome _ _ payload welcome decoded echoes =>
    intro other again
    cases decoded.symm.trans again
    have asked : (c.beginRecovery (sortStrings namespaces) false).resumeStateNamespaces = sortStrings namespaces := rfl
    rw [Client.checkStateSync,asked,nonempty,echoes]
    simp [reject]

private theorem ack_answers {answer sent : Envelope} {generation : ConnectionGeneration} {payload : AckPayload}
    (accepts : c.Accepts generation answer) (steady : c.state = .ready ∨ c.state = .suspect) (ack : answer.type = .ack)
    (decoded : decodePayload readAck {} answer.payload c.config.strictValidation = .ok payload)
    (pending : c.outbox.lookup payload.refID = some sent) :
    (c.step now (.handleIncoming generation answer)).2 = .ok [.acked payload.refID] := by
  have handled : c.dispatch generation answer now =
      ({c with outbox := c.outbox.erase payload.refID},.ok [.acked payload.refID]) := by
    simp only [Client.dispatch,ack]
    unfold Client.handleAck
    rw [if_neg (by tauto),decoded]
    simp only [pending]
    rfl
  rw [Client.step_accepted accepts _ _ handled]

private theorem enqueueSend_sent {messageID content : Bytes}
    (sent : c.enqueueSend messageID content now = (next,.ok actions)) :
    ∃ frame, actions = [.sendFrame frame] ∧
      (next.Recalls (.enqueueSend messageID content) frame ↔ (compactAt 9998 content).isSome) := by
  unfold Client.enqueueSend at sent
  split at sent
  · cases sent
  rename_i state
  obtain ⟨ready,_⟩ : c.state = .ready ∧ c.sessionID ≠ [] := by simpa using state
  split at sent
  · cases sent
  rename_i wellFormed
  split at sent
  · cases sent
  split at sent
  · cases sent
  split at sent
  · cases sent
  rename_i payload encoded
  simp only at sent
  split at sent
  · cases sent
  rename_i valid
  rw [Client.validates,validateOutboundFrame_eq] at valid
  cases sent
  have nonempty : content.isEmpty = false := by
    simp only [not_or] at wellFormed
    cases content with
    | nil => exact absurd (by decide) wellFormed.2.2
    | cons _ _ => rfl
  obtain ⟨text,raw,rfl⟩ : ∃ text, marshalRaw content = some text ∧ encodeObject [(lit "content",text)] = payload := by
    simpa [SendPayload.marshal,Option.bind_eq_some_iff] using encoded
  have compacted : compact content = some text := by
    simpa [marshalRaw,nonempty] using raw
  have object (depth : Nat) (settled : Compacted depth text) :
      Compacted (depth+1) (encodeObject [(lit "content",text)]) := by
    refine compacted_object depth _ ?_
    simp only [List.mem_cons,List.not_mem_nil,or_false,forall_eq]
    exact ⟨settled,rfl,rfl⟩
  refine ⟨_,rfl,?_,?_⟩
  · rintro ⟨_,wire,_,marshalled,decoded,_⟩
    obtain ⟨id,session,payload,written,again,_⟩ := validateFrame_written valid
    have within := compact_compacted _ _ (show compact (encodeObject [(lit "content",text)]) = some payload from written)
    cases (object _ (compact_compacted _ _ compacted)).compact_eq written
    cases marshalled.symm.trans again
    obtain ⟨_,deep,_⟩ := JSONCodec.decode_inverts id session rfl (fun _ => within.reads) decoded
    obtain ⟨node,reads⟩ := deep (by simp [encodeObject])
    have name : Passes (lit "content") := rfl
    have whole := reads_object maxNestingDepth [(lit "content",text)] (by simpa using name)
      (by simpa using (compact_compacted _ _ compacted).reads)
    obtain ⟨_,inner⟩ := whole.object_values reads (lit "content",text) (by simp)
    rw [compactAt_lower compacted inner]
    rfl
  · intro nested
    obtain ⟨other,lower⟩ := Option.isSome_iff_exists.mp nested
    cases (compactAt_mono (by decide : 9998 ≤ maxNestingDepth) lower).symm.trans compacted
    have settled := object 9998 (compactAt_compacted 9998 content text lower)
    refine (remembers_iff {c with outbox := c.outbox.insert messageID _} (.enqueueSend messageID content) (.send _)
      (decode_sent valid rfl settled (by decide)) rfl (by simp [Client.recorded]) ?_).mpr rfl
    intro answer accepts honest
    cases honest with
    | ack _ _ payload ack decoded echoes =>
      intro now'
      rw [ack_answers accepts (Or.inl ready) ack decoded (by rw [echoes]; exact AList.lookup_insert _),echoes]

end Calls

/-- A successful call remembers what it sent exactly when its strings are UTF-8 and the
content of a message leaves room for the objects around it. -/
theorem client_remembers_sent (c next : Client) (now : Int) (call : Call) (actions : List Action)
    (correlated : call.Correlated) (sent : c.step now call = (next,.ok actions)) :
    ∃ frame, actions = [.sendFrame frame] ∧ (next.Recalls call frame ↔ call.Faithful) := by
  cases correlated with
  | ping generation pingID => exact sendPing_sent sent
  | query queryID namespace_ objectIDs => exact queryState_sent sent
  | resume generation namespaces =>
    obtain ⟨frame,same,remembers⟩ := resumeWithState_sent sent
    exact ⟨frame,same,iff_of_true remembers trivial⟩
  | send messageID content => exact enqueueSend_sent sent

def pingedClient (pingID : Bytes) : Outcome := (Client.run {config := {}} (gapCalls.take 4)).step 0 (.sendPing 1 pingID)

def sentPing (pingID : Bytes) : Envelope :=
  {type := .ping, sessionID := lit "s", payload := PingPayload.marshal {pingID := pingID, clientTime := 0}}

/-- A ping id that is no UTF-8 is replaced in the frame but not in the record, and the PONG misses it. -/
theorem ping_id_replaced :
    (pingedClient [0xFF]).2 = .ok [.sendFrame (sentPing [0xFF])] ∧
      (pingedClient [0xFF]).1.pendingPing = some ⟨[0xFF],0,1⟩ ∧
      decodePayload readPing {} (sentPing [0xFF]).payload true = .ok {pingID := replacement, clientTime := 0} ∧
      ((pingedClient [0xFF]).1.step 0 (.handleIncoming 1 (pongFrame replacement))).1.pendingPing = some ⟨[0xFF],0,1⟩ ∧
      ¬ (pingedClient [0xFF]).1.Recalls (.sendPing 1 [0xFF]) (sentPing [0xFF]) := by
  have sent : (pingedClient [0xFF]).2 = .ok [.sendFrame (sentPing [0xFF])] := by decide +kernel
  refine ⟨sent,by decide +kernel,by decide +kernel,by decide +kernel,fun remembers => ?_⟩
  obtain ⟨frame,same,iff⟩ := sendPing_sent (Prod.ext rfl sent :
    (Client.run {config := {}} (gapCalls.take 4)).sendPing 1 [0xFF] 0 = ((pingedClient [0xFF]).1,.ok [.sendFrame (sentPing [0xFF])]))
  cases same
  exact absurd (iff.mp remembers) (by decide +kernel)

theorem client_remembers_sent_ping :
    (pingedClient (lit "p")).1.Recalls (.sendPing 1 (lit "p")) (sentPing (lit "p")) := by
  have sent : (pingedClient (lit "p")).2 = .ok [.sendFrame (sentPing (lit "p"))] := by decide +kernel
  obtain ⟨frame,same,iff⟩ := client_remembers_sent (Client.run {config := {}} (gapCalls.take 4)) (pingedClient (lit "p")).1 0
    (.sendPing 1 (lit "p")) [.sendFrame (sentPing (lit "p"))] (.ping 1 (lit "p")) (Prod.ext rfl sent)
  cases same
  exact iff.mpr (by decide +kernel : validString (lit "p") = true)

end Kmtproto
