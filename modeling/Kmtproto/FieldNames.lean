import Kmtproto.RoundTrip

/-! Member names and fields. The walk compares decoded names, a presence test looks a name up
as it is, and the decoder binds a name without regard to case when no field has it; the three
agree where a frame spells its fields in one way. -/
namespace Kmtproto
open Json

/-- The field of a record that a name is bound to. -/
def boundTo (record : List Bytes) (name : Bytes) : Option Bytes :=
  (record.find? (fun field => field == name)).or (record.find? (fun field => foldName field == foldName name))

def binding (record : List Bytes) (entry : Bytes × Bytes) : Option Bytes := (unquote entry.1).bind (boundTo record)

def Bound (record : List Bytes) (members : List (Bytes × Bytes)) (name : Bytes) : Prop :=
  ∃ entry ∈ members, binding record entry = some name

def Named (members : List (Bytes × Bytes)) (name : Bytes) : Prop := ∃ entry ∈ members, unquote entry.1 = some name

/-- No two members are bound to one field. -/
def Unambiguous (record : List Bytes) (members : List (Bytes × Bytes)) : Prop :=
  (members.filterMap (binding record)).Nodup

/-- The members bound to one field have one name. -/
def SpelledAlike (record : List Bytes) (members : List (Bytes × Bytes)) : Prop :=
  ∀ entry ∈ members, ∀ other ∈ members, ∀ field, binding record entry = some field → binding record other = some field →
    unquote entry.1 = unquote other.1

/-- The fields of the payload of a frame. -/
def FrameType.record : FrameType → List Bytes
  | .hello => (helloFields true).map (·.name)
  | .welcome => (welcomeFields true).map (·.name)
  | .ping => pingFields.map (·.name)
  | .pong => pongFields.map (·.name)
  | .send => sendFields.map (·.name)
  | .ack => ackFields.map (·.name)
  | .event => eventFields.map (·.name)
  | .resume => (resumeFields true).map (·.name)
  | .stateQuery => queryFields.map (·.name)
  | .stateSnapshot => (snapshotFields true).map (·.name)
  | .stateUpdate => (updateFields true).map (·.name)
  | .error => errorFields.map (·.name)
  | .other _ _ => []

/-- The fields whose presence `ValidateFrame` asks for. -/
def FrameType.tested : FrameType → List Bytes
  | .welcome => [lit "resume_from",lit "replay_to",lit "accepted_capabilities",lit "state_sync"]
  | .resume => [lit "last_seq",lit "state_sync"]
  | .stateSnapshot => [lit "states"]
  | .error => [lit "retryable"]
  | _ => []

/-- Those of them that must not be null. -/
def FrameType.testedNonNull : FrameType → List Bytes
  | .welcome => [lit "state_sync"]
  | .stateSnapshot => [lit "states"]
  | _ => []

/-- An object of the envelope, or one of the payload outside of what the application owns. -/
inductive Reached (data : Bytes) (frame : Envelope) (members : List (Bytes × Bytes)) : Prop
  | envelope (node : Node) (viewed : view data = some node) (within : Within envelopeOpaqueFields node (.obj members))
  | payload (node : Node) (viewed : view frame.payload = some node) (within : Within payloadOpaqueFields node (.obj members))

section Names
variable {record : List Bytes} {members : List (Bytes × Bytes)} {name : Bytes}

theorem findField_boundTo {α : Type} (fields : List (JsonField α)) (name : Bytes) :
    (findField fields name).map (·.name) = boundTo (fields.map (·.name)) name := by
  unfold findField boundTo
  rw [List.find?_map,List.find?_map,Option.map_or]
  rfl

/-- Where the names differ, a field is bound twice when it is spelled in two ways. -/
theorem unambiguous_iff (distinct : (members.map (fun entry => unquote entry.1)).Nodup) :
    Unambiguous record members ↔ SpelledAlike record members := by
  unfold Unambiguous List.Nodup
  rw [List.pairwise_filterMap]
  constructor
  · intro apart entry inside other among field first second
    by_contra different
    have turned : Std.Symm (fun entry other : Bytes × Bytes => ∀ field, binding record entry = some field →
        ∀ again, binding record other = some again → field ≠ again) :=
      ⟨fun _ _ apart field found again bound same => apart again bound field found same.symm⟩
    have here : entry ≠ other := fun same => different (by rw [same])
    exact apart.forall inside among here field first field second rfl
  · intro alike
    refine (List.pairwise_map.mp distinct).imp_of_mem (fun {entry other} inside among different field first again second same => ?_)
    exact different (alike entry inside other among field first (same ▸ second))

theorem boundTo_self (known : name ∈ record) : boundTo record name = some name := by
  unfold boundTo
  have known : (record.find? (fun field => field == name)).isSome := List.find?_isSome.mpr ⟨name,known,beq_self_eq_true name⟩
  obtain ⟨field,found⟩ := Option.isSome_iff_exists.mp known
  have same : field = name := by simpa using List.find?_some found
  rw [found,same]
  rfl

theorem Named.bound (named : Named members name) (known : name ∈ record) : Bound record members name := by
  obtain ⟨entry,inside,spelled⟩ := named
  refine ⟨entry,inside,?_⟩
  rw [binding,spelled,Option.bind_some,boundTo_self known]

end Names

section Presence
variable {raw : Bytes} {members : List (Bytes × Bytes)} {name : Bytes}

theorem rawFields_obj (viewed : view raw = some (.obj members)) :
    ∃ fields, rawFields raw = some fields ∧ ∀ name, (lastField name fields).isSome = true ↔ Named members name := by
  have passes : ∀ entry ∈ members, Passes entry.1 := by
    cases viewAt_children viewed with
    | plain plain => cases plain
    | obj _ names _ => exact names
  unfold rawFields
  rw [viewed]
  clear viewed
  induction members with
  | nil => exact ⟨[],rfl,by simp [lastField,Named]⟩
  | cons entry members ih =>
    obtain ⟨fields,read,last⟩ := ih (fun other inside => passes other (by simp [inside]))
    obtain ⟨name,spelled⟩ := unquote_passes (passes entry (by simp))
    refine ⟨(name,entry.2)::fields,?_,fun wanted => ?_⟩
    · simp only [List.mapM_cons,spelled,Option.map_some,bind,Option.bind,read]
      rfl
    · have later := last wanted
      simp only [lastField,Option.isSome_map,List.find?_isSome,List.mem_reverse] at later ⊢
      simp only [Named,List.exists_mem_cons_iff,spelled,later]
      simp

theorem jsonFieldPresent_named (viewed : view raw = some (.obj members)) (name : Bytes) :
    ∃ present, jsonFieldPresent raw name = .ok present ∧ (present = true ↔ Named members name) := by
  obtain ⟨fields,read,last⟩ := rawFields_obj viewed
  refine ⟨(lastField name fields).isSome,?_,last name⟩
  rw [jsonFieldPresent,payloadFields,read]
  rfl

theorem jsonFieldPresentAndNonNull_present (tested : jsonFieldPresentAndNonNull raw name = .ok true) :
    jsonFieldPresent raw name = .ok true := by
  unfold jsonFieldPresentAndNonNull at tested
  obtain ⟨fields,read,tested⟩ := bind_ok tested
  rw [jsonFieldPresent,read]
  cases found : lastField name fields with
  | none =>
    rw [found] at tested
    cases tested
  | some value =>
    change Except.ok (lastField name fields).isSome = _
    rw [found]
    rfl

end Presence

section Typed
variable {e : Envelope} {limits : Limits} {α : Type}

def ReadsObjects (read : Reader α) : Prop :=
  ∀ current raw value, read current raw = some value → view raw = some .null ∨ ∃ members, view raw = some (.obj members)

theorem readsObjects_struct {fields : List (JsonField α)} {strict : Bool} : ReadsObjects (readStruct fields strict) := by
  intro current raw value read
  unfold readStruct at read
  split at read
  · exact .inl ‹_›
  · exact .inr ⟨_,‹_›⟩
  · cases read

theorem readsObjects_new {β : Type} {zero : β} {take : β → α} {read : Reader β} (objects : ReadsObjects read) :
    ReadsObjects (readNew zero take read) := by
  intro current raw value got
  obtain ⟨inner,got,_⟩ := Option.map_eq_some_iff.mp got
  exact objects zero raw inner got

structure Examined (raw : Bytes) : Prop where
  unique : rejectDuplicateJSONFields raw payloadOpaqueFields = .ok ()
  object : ∃ members, view raw = some (.obj members)

theorem Examined.of_decoded {raw : Bytes} {read : Bool → Reader α} {zero payload : α} (objects : ReadsObjects (read true))
    (decoded : decodePayload read zero raw true = .ok payload) : Examined raw := by
  obtain ⟨present,unique,value,same,got⟩ := decodePayload_parts decoded
  refine ⟨unique rfl,?_⟩
  rw [← same]
  rcases objects zero value payload got with null | object
  · rw [same] at null
    rw [(isNullText_iff null).mpr rfl] at present
    cases present
  · exact object

theorem validateTyped_examined (valid : validateTyped e limits true = .ok ()) : Examined e.payload := by
  obtain ⟨v,type,id,sessionID,seq,timestamp,payload⟩ := e
  have session {α : Type} {read : Bool → Reader α} {zero : α} {check : α → Except Err Unit} (objects : ReadsObjects (read true))
      (found : ∃ value, decodePayload read zero payload true = .ok value ∧ check value = .ok ()) : Examined payload := by
    obtain ⟨value,decoded,_⟩ := found
    exact .of_decoded objects decoded
  cases type with
  | hello =>
    obtain ⟨_,_,valid⟩ := bind_ok valid
    exact session (readsObjects_new readsObjects_struct) (bind_ok valid)
  | welcome => exact session (readsObjects_new readsObjects_struct) (session_payload valid)
  | ping => exact session readsObjects_struct (session_payload valid)
  | pong => exact session readsObjects_struct (session_payload valid)
  | send => exact session readsObjects_struct (session_payload valid)
  | ack => exact session readsObjects_struct (session_payload valid)
  | event =>
    obtain ⟨_,_,valid⟩ := bind_ok valid
    obtain ⟨_,_,valid⟩ := bind_ok valid
    exact session readsObjects_struct (bind_ok valid)
  | resume => exact session (readsObjects_new readsObjects_struct) (session_payload valid)
  | stateQuery => exact session (readsObjects_new readsObjects_struct) (session_payload valid)
  | stateSnapshot =>
    obtain ⟨_,_,valid⟩ := bind_ok valid
    obtain ⟨_,_,valid⟩ := bind_ok valid
    obtain ⟨_,_,valid⟩ := bind_ok valid
    obtain ⟨_,_,valid⟩ := bind_ok valid
    obtain ⟨_,_,valid⟩ := bind_ok valid
    obtain ⟨_,_,valid⟩ := bind_ok valid
    exact session (readsObjects_new readsObjects_struct) (bind_ok valid)
  | stateUpdate => exact session readsObjects_struct (session_payload valid)
  | error =>
    obtain ⟨_,_,valid⟩ := bind_ok valid
    obtain ⟨_,_,valid⟩ := bind_ok valid
    exact session readsObjects_struct (bind_ok valid)
  | other => cases valid

end Typed

section Unbound
variable {α : Type} {fields : List (JsonField α)} {strict : Bool} {name : Bytes} {P : α → Prop}

/-- A field that no member is bound to stays as it is. -/
theorem readMembers_unbound {members : List (Bytes × Bytes)} {current value : α}
    (others : ∀ field ∈ fields, field.name ≠ name → Preserves P field.read)
    (unbound : ¬Bound (fields.map (·.name)) members name) (before : P current)
    (read : members.foldlM (readMember fields strict) current = some value) : P value := by
  refine readMembers_keeps (fun entry inside spelled field current next decoded found => ?_) before read
  refine others field (findField_mem found) (fun same => unbound ⟨entry,inside,?_⟩) _ _ _
  rw [binding,decoded,Option.bind_some,← findField_boundTo,found,← same]
  rfl

theorem preserves_field {β γ : Type} {get : α → β} {set : α → β → α} {read : Reader β} (value : α → γ) (start : γ)
    (apart : ∀ current part, value (set current part) = value current) :
    Preserves (fun current => value current = start) (field name get set read).read := by
  intro current raw next before got
  obtain ⟨part,_,rfl⟩ := Option.map_eq_some_iff.mp got
  exact (apart current part).trans before

end Unbound

section Welcome
variable {e : Envelope} {limits : Limits} {members : List (Bytes × Bytes)}

theorem welcome_read {payload : WelcomePayload} (viewed : view e.payload = some (.obj members))
    (decoded : decodePayload readWelcome {} e.payload true = .ok payload) :
    ∃ cell, members.foldlM (readMember (welcomeFields true) true) {} = some cell ∧ cell.payload = payload := by
  obtain ⟨_,_,value,same,got⟩ := decodePayload_parts decoded
  obtain ⟨cell,read,taken⟩ := Option.map_eq_some_iff.mp got
  unfold readStruct at read
  rw [same,viewed] at read
  exact ⟨cell,read,taken⟩

structure WelcomeTests (e : Envelope) (mode : Bytes)
    (hasResumeFrom hasReplayTo hasAcceptedCapabilities hasStateSync hasNonNullStateSync : Bool) : Prop where
  resumeFrom : jsonFieldPresent e.payload (lit "resume_from") = .ok hasResumeFrom
  replayTo : jsonFieldPresent e.payload (lit "replay_to") = .ok hasReplayTo
  accepted : jsonFieldPresent e.payload (lit "accepted_capabilities") = .ok hasAcceptedCapabilities
  stateSync : jsonFieldPresent e.payload (lit "state_sync") = .ok hasStateSync
  nonNull : jsonFieldPresentAndNonNull e.payload (lit "state_sync") = .ok hasNonNullStateSync
  shown : hasStateSync = true → hasNonNullStateSync = true
  new : mode = welcomeModeNew → hasResumeFrom = false ∧ hasReplayTo = false ∧ hasStateSync = false
  resumed : mode = welcomeModeResumed → hasAcceptedCapabilities = false

theorem validateWelcome_tests (valid : validateWelcome e limits true = .ok ()) :
    ∃ payload, decodePayload readWelcome {} e.payload true = .ok payload ∧
      ∃ resumeFrom replayTo accepted stateSync nonNull,
        WelcomeTests e payload.mode resumeFrom replayTo accepted stateSync nonNull := by
  obtain ⟨payload,decoded,valid⟩ := session_payload valid
  obtain ⟨_,valid⟩ := reject_bind_ok valid
  obtain ⟨_,tests,_⟩ := bind_ok valid
  unfold validateWelcomeMembers at tests
  obtain ⟨_,resumeFrom,tests⟩ := bind_ok tests
  obtain ⟨_,replayTo,tests⟩ := bind_ok tests
  obtain ⟨_,accepted,tests⟩ := bind_ok tests
  obtain ⟨_,stateSync,tests⟩ := bind_ok tests
  obtain ⟨_,nonNull,tests⟩ := bind_ok tests
  obtain ⟨shown,tests⟩ := reject_bind_ok tests
  obtain ⟨bounds,tests⟩ := reject_bind_ok tests
  obtain ⟨sync,tests⟩ := reject_bind_ok tests
  obtain ⟨renegotiates,_⟩ := reject_bind_ok tests
  simp only [Bool.or_eq_true,Bool.and_eq_true,Bool.not_eq_true',not_and,not_or,Bool.not_eq_true,Bool.not_eq_false] at shown bounds sync renegotiates
  exact ⟨payload,decoded,_,_,_,_,_,resumeFrom,replayTo,accepted,stateSync,nonNull,shown,
    fun mode => ⟨(bounds mode).1,(bounds mode).2,sync mode⟩,renegotiates⟩

theorem welcome_exact (viewed : view e.payload = some (.obj members)) (valid : validateWelcome e limits true = .ok ())
    (spelled : ∀ name ∈ FrameType.welcome.tested, Bound FrameType.welcome.record members name → Named members name) :
    ∃ payload, decodePayload readWelcome {} e.payload true = .ok payload ∧
      (payload.mode = welcomeModeNew → payload.resumeFrom = 0 ∧ payload.replayTo = 0 ∧ payload.stateSync = none) ∧
      (payload.mode = welcomeModeResumed → payload.acceptedCapabilities = []) := by
  obtain ⟨payload,decoded,_,_,_,_,_,tests⟩ := validateWelcome_tests valid
  obtain ⟨cell,read,rfl⟩ := welcome_read viewed decoded
  have absent {name : Bytes} {present : Bool} (known : name ∈ FrameType.welcome.tested)
      (tested : jsonFieldPresent e.payload name = .ok present) (no : present = false) :
      ¬Bound ((welcomeFields true).map (·.name)) members name := by
    obtain ⟨answer,asked,named⟩ := jsonFieldPresent_named viewed name
    cases asked.symm.trans (no ▸ tested)
    exact fun bound => Bool.noConfusion (named.mpr (spelled name known bound))
  have keeps {γ : Type} (value : WelcomeCell → γ) {name : Bytes} (unbound : ¬Bound ((welcomeFields true).map (·.name)) members name)
      (others : ∀ field ∈ welcomeFields true, field.name ≠ name → Preserves (fun cell => value cell = value {}) field.read) :
      value cell = value {} :=
    @readMembers_unbound _ _ _ _ (fun cell => value cell = value {}) _ _ _ others unbound rfl read
  refine ⟨_,decoded,fun mode => ⟨keeps (·.resumeFrom) (absent (by decide) tests.resumeFrom (tests.new mode).1) ?_,
    keeps (·.replayTo) (absent (by decide) tests.replayTo (tests.new mode).2.1) ?_,
    congrArg (Option.map SyncCell.sync) (keeps (·.stateSync) (absent (by decide) tests.stateSync (tests.new mode).2.2) ?_)⟩,
    fun mode => congrArg Slice.items
      (keeps (·.acceptedCapabilities) (absent (by decide) tests.accepted (tests.resumed mode)) ?_)⟩
  -- a field other than the one in question is set apart from it
  all_goals
    simp only [welcomeFields,List.forall_mem_cons]
    refine ⟨?_,?_,?_,?_,?_,?_,by simp⟩
    all_goals
      intro different
      first
        | exact absurd rfl different
        | exact preserves_field _ _ (fun _ _ => rfl)

end Welcome

private theorem names_distinct {raw : Bytes} {opaqueFields : List Bytes} {node : Node} {members : List (Bytes × Bytes)}
    (unique : rejectDuplicateJSONFields raw opaqueFields = .ok ()) (viewed : view raw = some node)
    (within : Within opaqueFields node (.obj members)) : (members.map (fun entry => unquote entry.1)).Nodup := by
  obtain ⟨depth,seen,again,clean⟩ := (accepts_iff raw opaqueFields).mp unique
  cases viewAt_agree again viewed
  exact (clean members within).names

private theorem testedNonNull_present {frame : Envelope} {limits : Limits} (valid : validateTyped frame limits true = .ok ())
    {name : Bytes} (tested : name ∈ frame.type.testedNonNull) :
    jsonFieldPresentAndNonNull frame.payload name = jsonFieldPresent frame.payload name := by
  obtain ⟨v,type,id,sessionID,seq,timestamp,payload⟩ := frame
  cases type with
  | welcome =>
    obtain rfl := List.mem_singleton.mp tested
    obtain ⟨_,_,_,_,_,present,nonNull,tests⟩ := validateWelcome_tests valid
    cases nonNull with
    | true => exact tests.nonNull.trans (jsonFieldPresentAndNonNull_present tests.nonNull).symm
    | false =>
      cases present with
      | true => cases tests.shown rfl
      | false => exact tests.nonNull.trans tests.stateSync.symm
  | stateSnapshot =>
    obtain rfl := List.mem_singleton.mp tested
    obtain ⟨_,_,valid⟩ := bind_ok valid
    obtain ⟨_,_,valid⟩ := bind_ok valid
    obtain ⟨_,_,valid⟩ := bind_ok valid
    obtain ⟨_,_,valid⟩ := bind_ok valid
    obtain ⟨has,asked,valid⟩ := bind_ok valid
    obtain ⟨present,_⟩ := reject_bind_ok valid
    cases has with
    | true => exact asked.trans (jsonFieldPresentAndNonNull_present asked).symm
    | false => exact absurd rfl present
  | _ => exact absurd tested List.not_mem_nil

theorem tested_record (type : FrameType) : ∀ name ∈ type.tested, name ∈ type.record := by
  cases type with
  | other => exact fun _ member => absurd member List.not_mem_nil
  | _ => decide

/-- In a frame a strict decoder accepts, no two members of an object are bound to one field
exactly when no field is spelled in two ways there; a presence test tells what is bound
exactly when the field, if bound, is spelled as it is; and then NEW WELCOMEs have no replay
bounds and no state_sync, and RESUMED ones no capabilities. -/
theorem strict_decoding_exact {codec : JSONCodec} {data : Bytes} {frame : Envelope} (strict : codec.strict = true)
    (decoded : codec.decode data = .ok frame) :
    (∀ record members, Reached data frame members → (Unambiguous record members ↔ SpelledAlike record members)) ∧
    ∃ members, view frame.payload = some (.obj members) ∧
      (∀ name ∈ frame.type.tested, ∃ present, jsonFieldPresent frame.payload name = .ok present ∧
        ((present = true ↔ Bound frame.type.record members name) ↔
          (Bound frame.type.record members name → Named members name))) ∧
      (∀ name ∈ frame.type.testedNonNull, jsonFieldPresentAndNonNull frame.payload name = jsonFieldPresent frame.payload name) ∧
      (frame.type = .welcome → (∀ name ∈ frame.type.tested, Bound frame.type.record members name → Named members name) →
        ∃ payload, decodePayload readWelcome {} frame.payload true = .ok payload ∧
          (payload.mode = welcomeModeNew → payload.resumeFrom = 0 ∧ payload.replayTo = 0 ∧ payload.stateSync = none) ∧
          (payload.mode = welcomeModeResumed → payload.acceptedCapabilities = [])) := by
  obtain ⟨walked,_,valid⟩ := JSONCodec.decode_parts decoded
  have typed := (validateFrame_parts valid).2
  rw [strict] at typed
  obtain ⟨unique,members,viewed⟩ := validateTyped_examined typed
  refine ⟨fun record others reached => unambiguous_iff ?_,members,viewed,fun name tested => ?_,
    fun name tested => testedNonNull_present typed tested,fun type spelled => ?_⟩
  · cases reached with
    | envelope node seen within => exact names_distinct (walked strict) seen within
    | payload node seen within => exact names_distinct unique seen within
  · obtain ⟨present,asked,named⟩ := jsonFieldPresent_named viewed name
    refine ⟨present,asked,?_⟩
    rw [named]
    exact ⟨fun same => same.mpr,fun spelled => ⟨fun named => named.bound (tested_record _ name tested),spelled⟩⟩
  · rw [type] at spelled
    simp only [validateTyped,type] at typed
    exact welcome_exact viewed typed spelled

def newWelcome (bound : Bytes) : Envelope :=
  {type := .welcome, sessionID := lit "s", payload := lit "\x7b\"mode\":\"NEW\",\"server_time\":7" ++ bound ++ lit "\x7d"}

def welcomeText (bound : Bytes) : Bytes :=
  lit "\x7b\"v\":2,\"type\":\"WELCOME\",\"session_id\":\"s\",\"payload\":" ++ (newWelcome bound).payload ++ lit "\x7d"

theorem strict_decoding_exact_new : ({} : JSONCodec).decode (welcomeText []) = .ok (newWelcome []) ∧
    ∃ payload, decodePayload readWelcome {} (newWelcome []).payload true = .ok payload ∧
      (payload.mode = welcomeModeNew → payload.resumeFrom = 0 ∧ payload.replayTo = 0 ∧ payload.stateSync = none) := by
  have decoded : ({} : JSONCodec).decode (welcomeText []) = .ok (newWelcome []) := by decide +kernel
  have seen : view (newWelcome []).payload = some (.obj [(lit "mode",lit "\"NEW\""),(lit "server_time",lit "7")]) := by
    decide +kernel
  obtain ⟨_,members,viewed,_,_,welcome⟩ := strict_decoding_exact rfl decoded
  cases viewed.symm.trans seen
  have unbound : ∀ name ∈ FrameType.welcome.tested,
      ¬∃ entry ∈ [(lit "mode",lit "\"NEW\""),(lit "server_time",lit "7")], binding FrameType.welcome.record entry = some name := by
    decide +kernel
  obtain ⟨payload,read,new,_⟩ := welcome rfl (fun name tested bound => absurd bound (unbound name tested))
  exact ⟨decoded,payload,read,new⟩

def twoContents : Envelope :=
  {type := .send, id := lit "m", sessionID := lit "s", payload := lit "\x7b\"content\":1,\"Content\":2\x7d"}

def sendText : Bytes :=
  lit "\x7b\"v\":2,\"type\":\"SEND\",\"id\":\"m\",\"session_id\":\"s\",\"payload\":" ++ twoContents.payload ++ lit "\x7d"

/-- A SEND with two contents is accepted, and so is a NEW WELCOME with a replay bound that the
presence test does not see. -/
theorem case_variants_accepted :
    (({} : JSONCodec).decode sendText = .ok twoContents ∧
      ∃ members, Reached sendText twoContents members ∧ ¬Unambiguous twoContents.type.record members) ∧
    ∃ frame payload, ({} : JSONCodec).decode (welcomeText (lit ",\"Resume_From\":5")) = .ok frame ∧
      jsonFieldPresent frame.payload (lit "resume_from") = .ok false ∧
      decodePayload readWelcome {} frame.payload true = .ok payload ∧
      payload.mode = welcomeModeNew ∧ payload.resumeFrom = 5 := by
  have seen : view twoContents.payload = some (.obj [(lit "content",lit "1"),(lit "Content",lit "2")]) := by decide +kernel
  have twice : ¬([(lit "content",lit "1"),(lit "Content",lit "2")].filterMap (binding twoContents.type.record)).Nodup := by
    decide +kernel
  refine ⟨⟨by decide +kernel,_,.payload _ seen (.here _),twice⟩,newWelcome (lit ",\"Resume_From\":5"),
    {mode := welcomeModeNew, serverTime := 7, resumeFrom := 5},?_⟩
  decide +kernel

end Kmtproto
