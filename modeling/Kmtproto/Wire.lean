import Kmtproto.Validate
import Kmtproto.Json.Local

/-! Payloads read back as they were written, and what a validated frame is known to
carry. -/
namespace Kmtproto
open Json

section Sizes

private theorem decimalDigits_length (fuel n : Nat) (tail : Bytes) (room : n < fuel) :
    tail.length+1 ≤ (decimalDigits fuel n tail).length := by
  induction fuel generalizing n tail with
  | zero => omega
  | succ fuel ih =>
    unfold decimalDigits
    split
    · simp
    · have longer := ih (n/10) (UInt8.ofNat (0x30 + n % 10)::tail) (by omega)
      simp only [List.length_cons] at longer
      omega

private theorem decimalDigits_length_mono (fuel other n m : Nat) (tail last : Bytes) (room : n < fuel) (more : m < other)
    (order : n ≤ m) (tails : tail.length ≤ last.length) :
    (decimalDigits fuel n tail).length ≤ (decimalDigits other m last).length := by
  induction fuel generalizing other n m tail last with
  | zero => omega
  | succ fuel ih =>
    obtain ⟨other,rfl⟩ : ∃ rest, other = rest+1 := ⟨other-1,by omega⟩
    unfold decimalDigits
    by_cases small : n < 10
    · rw [if_pos small]
      split
      · simpa using tails
      · have longer := decimalDigits_length other (m/10) (UInt8.ofNat (0x30 + m % 10)::last) (by omega)
        simp only [List.length_cons] at longer ⊢
        omega
    · rw [if_neg small,if_neg (by omega)]
      exact ih other (n/10) (m/10) _ _ (by omega) (by omega) (by omega) (by simpa using tails)

theorem decimal_length_mono {n m : Nat} (order : n ≤ m) : (decimal n).length ≤ (decimal m).length :=
  decimalDigits_length_mono (n+1) (m+1) n m [] [] (by omega) (by omega) order (by simp)

theorem encodeObject_length_mono {left right : List (Bytes × Bytes)}
    (each : List.Forall₂ (fun a b => a.1.length ≤ b.1.length ∧ a.2.length ≤ b.2.length) left right) :
    (encodeObject left).length ≤ (encodeObject right).length := by
  have joined : (commaJoin (left.map encodeMember)).length ≤ (commaJoin (right.map encodeMember)).length := by
    induction each with
    | nil => simp
    | @cons a b left right head tail ih =>
      have member : (encodeMember a).length ≤ (encodeMember b).length := by
        simp only [encodeMember,List.length_cons,List.length_append]
        omega
      cases tail with
      | nil => simpa [commaJoin] using member
      | cons next rest =>
        simp only [List.map_cons,commaJoin,List.length_append,List.length_cons] at ih ⊢
        omega
  simp only [encodeObject,List.length_cons,List.length_append]
  omega

theorem encodeObject_length_member {members : List (Bytes × Bytes)} {entry : Bytes × Bytes} (member : entry ∈ members) :
    entry.2.length ≤ (encodeObject members).length := by
  have joined : entry.2.length ≤ (commaJoin (members.map encodeMember)).length := by
    induction members with
    | nil => cases member
    | cons first members ih =>
      have size : first.2.length ≤ (encodeMember first).length := by
        simp only [encodeMember,List.length_cons,List.length_append]
        omega
      cases members with
      | nil =>
        cases List.mem_singleton.mp member
        exact size
      | cons next rest =>
        simp only [List.map_cons,commaJoin,List.length_append,List.length_cons] at ih ⊢
        rcases List.mem_cons.mp member with rfl | member
        · omega
        · have inside := ih member
          omega
  simp only [encodeObject,List.length_cons,List.length_append]
  omega

theorem encodeObject_length_le (members : List (Bytes × Bytes)) :
    (encodeObject members).length ≤ (members.map (fun entry => entry.1.length+entry.2.length+4)).sum+2 := by
  have joined : (commaJoin (members.map encodeMember)).length ≤
      (members.map (fun entry => entry.1.length+entry.2.length+4)).sum := by
    induction members with
    | nil => simp [commaJoin]
    | cons entry members ih =>
      have size : (encodeMember entry).length = entry.1.length+entry.2.length+3 := by
        simp only [encodeMember,List.length_cons,List.length_append]
        omega
      cases members with
      | nil =>
        simp only [List.map_cons,List.map_nil,commaJoin,List.sum_cons,List.sum_nil]
        omega
      | cons next rest =>
        simp only [List.map_cons,commaJoin,List.length_append,List.length_cons,List.sum_cons] at ih ⊢
        omega
  simp only [encodeObject,List.length_cons,List.length_append,List.length_nil]
  omega

end Sizes

def Envelope.header (frame : Envelope) : List (Bytes × Bytes) :=
  [(lit "v",decimal frame.v.toNat),(lit "type",quote frame.type.name)] ++
    optional (!frame.id.isEmpty) (lit "id") (quote frame.id) ++
    optional (!frame.sessionID.isEmpty) (lit "session_id") (quote frame.sessionID) ++
    optional (frame.seq != 0) (lit "seq") (decimal frame.seq.toNat) ++
    optional (frame.timestamp != 0) (lit "timestamp") (decimalInt frame.timestamp.toInt)

def payloadMembers (payload : Bytes) : Option (List (Bytes × Bytes)) :=
  if payload.isEmpty then some [] else (compact payload).map (fun text => [(lit "payload",text)])

theorem Envelope.marshal_eq (frame : Envelope) :
    frame.marshal = (payloadMembers frame.payload).map (fun payload => encodeObject (frame.header ++ payload)) := by
  unfold Envelope.marshal payloadMembers
  split
  · rfl
  · cases compact frame.payload <;> rfl

section Optional

theorem optional_member {present : Bool} {name text : Bytes} {entry : Bytes × Bytes}
    (member : entry ∈ optional present name text) : entry = (name,text) := by
  unfold optional at member
  split at member
  · exact List.mem_singleton.mp member
  · cases member

theorem optional_names (present : Bool) (name text : Bytes) :
    ((optional present name text).map Prod.fst).Sublist [name] := by
  unfold optional
  split
  · exact List.Sublist.refl _
  · exact List.nil_sublist _

end Optional

section Validated
variable {e : Envelope} {limits : Limits} {strict : Bool}

theorem validateFrame_parts (valid : validateFrame e limits strict = .ok ()) :
    validateEnvelope e (normalizeLimits limits) = .ok () ∧ validateTyped e (normalizeLimits limits) strict = .ok () := by
  unfold validateFrame at valid
  obtain ⟨_,envelope,typed⟩ := bind_ok valid
  exact ⟨envelope,typed⟩

theorem hasControl_nul {value : Bytes} (free : hasControl value = false) : 0 ∉ value := by
  intro member
  rw [← runes_flatten value] at member
  obtain ⟨rune,piece,inside⟩ := List.mem_flatten.mp member
  have plain : isControl rune = false := by simpa using List.any_eq_false.mp free rune piece
  obtain ⟨nonempty,shape⟩ := runes_isRune value rune piece
  match rune with
  | [] => exact nonempty rfl
  | [b] =>
    cases List.mem_singleton.mp inside
    exact absurd plain (by decide)
  | a::b::tail =>
    have whole : runeSize (a::b::tail) = (a::b::tail).length := shape.resolve_right (by simp)
    exact absurd (rune_high _ (by simp) whole 0 inside) (by decide)

theorem validBoundedProtocolString_parts {value : Bytes} {maxLength : Int} {allowEmpty : Bool}
    (accepted : validBoundedProtocolString value maxLength allowEmpty = true) :
    validString value = true ∧ hasControl value = false := by
  simp only [validBoundedProtocolString,Bool.and_eq_true,Bool.not_eq_true',Bool.or_eq_false_iff,
    Bool.not_eq_false'] at accepted
  exact ⟨accepted.1.2,accepted.2⟩

/-- What a valid frame keeps to, whatever its type. -/
structure Envelope.Bounded (e : Envelope) (limits : Limits) : Prop where
  id : validBoundedProtocolString e.id limits.maxIDLength true = true
  session : validBoundedProtocolString e.sessionID limits.maxSessionIDLength true = true
  payload : (e.payload.length : Int) ≤ limits.maxPayloadSize
  encoded : ∃ encoded, e.marshal = some encoded ∧ (encoded.length : Int) ≤ limits.maxFrameSize

theorem validateFrame_bounded (valid : validateFrame e limits strict = .ok ()) : e.Bounded (normalizeLimits limits) := by
  have envelope := (validateFrame_parts valid).1
  unfold validateEnvelope at envelope
  simp only [normalizeLimits_idem] at envelope
  split at envelope
  · cases envelope
  split at envelope
  · cases envelope
  obtain ⟨_,envelope⟩ := reject_bind_ok envelope
  obtain ⟨id,envelope⟩ := reject_bind_ok envelope
  obtain ⟨session,envelope⟩ := reject_bind_ok envelope
  obtain ⟨payload,envelope⟩ := reject_bind_ok envelope
  simp only [Bool.not_eq_true,Bool.not_eq_false'] at id session
  refine ⟨id,session,not_lt.mp payload,?_⟩
  cases encoded : e.marshal with
  | none => rw [encoded] at envelope; cases envelope
  | some text =>
    rw [encoded] at envelope
    exact ⟨text,rfl,not_lt.mp ((reject_ok _ _ _ _).mp envelope)⟩

theorem validateFrame_envelope (valid : validateFrame e limits strict = .ok ()) :
    validString e.id = true ∧ 0 ∉ e.sessionID ∧ ∃ encoded, e.marshal = some encoded := by
  obtain ⟨id,session,_,text,encoded,_⟩ := validateFrame_bounded valid
  exact ⟨(validBoundedProtocolString_parts id).1,hasControl_nul (validBoundedProtocolString_parts session).2,text,encoded⟩

theorem checkStates_nodup {limits : Limits} {seen : List StateIdentity} {states : List StateObject}
    (checked : checkStates limits seen states = .ok ()) :
    (states.map StateObject.identity).Nodup ∧ ∀ object ∈ states, object.identity ∉ seen := by
  induction states generalizing seen with
  | nil => simp
  | cons object states ih =>
    unfold checkStates at checked
    obtain ⟨_,_,checked⟩ := bind_ok checked
    obtain ⟨fresh,checked⟩ := reject_bind_ok checked
    obtain ⟨distinct,others⟩ := ih checked
    refine ⟨?_,List.forall_mem_cons.mpr ⟨fresh,fun other member => ?_⟩⟩
    · rw [List.map_cons,List.nodup_cons]
      refine ⟨fun again => ?_,distinct⟩
      obtain ⟨other,member,same⟩ := List.mem_map.mp again
      exact others other member (by simp [same])
    · exact fun known => others other member (List.mem_cons_of_mem _ known)

/-- A valid STATE_SNAPSHOT decodes, and no object comes twice. -/
theorem validateFrame_snapshot (valid : validateFrame e limits strict = .ok ()) (type : e.type = .stateSnapshot) :
    ∃ payload, decodePayload readSnapshot {} e.payload strict = .ok payload ∧
      (payload.states.map StateObject.identity).Nodup := by
  have typed := (validateFrame_parts valid).2
  simp only [validateTyped,type,validateStateSnapshot] at typed
  obtain ⟨_,_,typed⟩ := bind_ok typed
  obtain ⟨_,_,typed⟩ := bind_ok typed
  obtain ⟨_,_,typed⟩ := bind_ok typed
  obtain ⟨_,typed⟩ := reject_bind_ok typed
  obtain ⟨_,_,typed⟩ := bind_ok typed
  obtain ⟨_,typed⟩ := reject_bind_ok typed
  obtain ⟨payload,decoded,typed⟩ := bind_ok typed
  obtain ⟨_,checked⟩ := reject_bind_ok typed
  exact ⟨payload,decoded,(checkStates_nodup checked).1⟩

end Validated

section Payload
variable {α : Type} {read : Bool → Reader α} {zero payload : α} {strict : Bool}

theorem decodePayload_read {raw : Bytes} (decoded : decodePayload read zero raw strict = .ok payload) :
    ∃ value dec, Decoder.decode {input := raw} = .ok (value,dec) ∧ read strict zero value = some payload := by
  unfold decodePayload at decoded
  split at decoded
  · cases decoded
  extract_lets following at decoded
  have parsed : following () = .ok payload := by
    split at decoded
    · exact (bind_ok decoded).choose_spec.2
    · exact decoded
  dsimp only [following] at parsed
  split at parsed
  · cases parsed
  · rename_i value dec found
    split at parsed
    · cases parsed
    · rename_i got
      split at parsed
      · cases parsed
      · cases parsed
        exact ⟨value,dec,found,got⟩

theorem decodePayload_written {depth : Nat} {text : Bytes} {node : Node} (reads : Reads depth text node)
    (decoded : decodePayload read zero text strict = .ok payload) : read strict zero text = some payload := by
  obtain ⟨value,dec,found,got⟩ := decodePayload_read decoded
  rw [← (Decoder.decode_whole reads found).1]
  exact got

end Payload

section Ack

theorem readAck_marshal (strict : Bool) (refID : Bytes) (valid : validString refID = true) :
    readAck strict {} (AckPayload.marshal {refID := refID}) = some {refID := refID} := by
  have name : Passes (lit "ref_id") := rfl
  unfold readAck AckPayload.marshal
  rw [readStruct_encodeObject ackFields strict {} _ 0 (by decide) (by simpa using name)
    (by simpa using ⟨_,reads_quote 0 refID⟩)]
  simp only [List.foldlM_cons,List.foldlM_nil]
  rw [readMember_field ackFields strict {} (lit "ref_id") _ _ (by decide) rfl]
  simp only [field,readText_quote,toValid_of_valid _ valid]
  rfl

theorem decodePayload_ack (strict : Bool) (refID : Bytes) (valid : validString refID = true) :
    decodePayload readAck {} (AckPayload.marshal {refID := refID}) strict = .ok {refID := refID} := by
  have name : Passes (lit "ref_id") := rfl
  have plain : unquote (lit "ref_id") = some (lit "ref_id") := by decide
  have reads := reads_quote maxNestingDepth refID
  have object := reads_object 9999 [(lit "ref_id",quote refID)] (by simpa using name) (by simpa using ⟨_,reads_quote 9999 refID⟩)
  refine decodePayload_encodeObject readAck {} _ strict _ _ object ?_ (readAck_marshal strict refID valid)
  refine .object _ id ?_ ?_ ?_ ?_
  · simpa using ⟨name,plain⟩
  · simp
  · simpa using ⟨_,reads⟩
  · simpa using fun _ => .scalar _ _ (.str _ (passes_quoteChars refID)) reads

end Ack

section Struct
variable {α : Type} {fields : List (JsonField α)} {strict : Bool}

theorem readMembers_cons {name text : Bytes} {rest : List (Bytes × Bytes)} (target : JsonField α)
    (plain : unquote name = some name) (found : findField fields name = some target) {current value : α}
    (read : target.read current text = some value) :
    ((name,text)::rest).foldlM (readMember fields strict) current = rest.foldlM (readMember fields strict) value := by
  rw [List.foldlM_cons,readMember_field fields strict current name text target plain found,read]
  rfl

/-- A member that may be left out goes to its field, or the field has its value already. -/
theorem readMembers_optional {present : Bool} {name text : Bytes} {rest : List (Bytes × Bytes)} {target : JsonField α}
    {current : α} (value : α) (plain : unquote name = some name) (found : findField fields name = some target)
    (read : present = true → target.read current text = some value) (absent : present = false → current = value) :
    (optional present name text ++ rest).foldlM (readMember fields strict) current =
      rest.foldlM (readMember fields strict) value := by
  cases present with
  | true => exact readMembers_cons target plain found (read rfl)
  | false => rw [← absent rfl]; rfl

theorem reads_slice {depth : Nat} {texts : List Bytes} (each : ∀ text ∈ texts, ∃ node, Reads depth text node) :
    ∃ node, Reads (depth+1) (encodeSlice texts) node := by
  unfold encodeSlice
  split
  · exact ⟨_,reads_null (depth+1)⟩
  · exact ⟨_,reads_array depth texts each⟩

theorem readSlice_texts (texts : List Bytes) (valid : ∀ text ∈ texts, validString text = true) :
    readSlice readText [] {} (encodeSlice (texts.map quote)) = some {items := texts} := by
  unfold encodeSlice
  split
  · rename_i empty
    simp only [List.isEmpty_iff,List.map_eq_nil_iff] at empty
    rw [readSlice,show view nullText = some .null from (reads_null 0).view (by decide),empty]
  · refine readSlice_encodeArray quote readText [] texts texts 0 (by decide) (fun text _ => ⟨_,reads_quote 0 text⟩) ?_
    refine List.forall₂_same.mpr (fun text member => ?_)
    rw [readText_quote,toValid_of_valid _ (valid text member)]

end Struct

theorem readResume_valid {strict : Bool} {raw : Bytes} {resume : ResumePayload}
    (read : readResume strict {} raw = some resume) :
    ∀ sync ∈ resume.stateSync, ∀ text ∈ sync.namespaces, validString text = true := by
  have sync : Preserves (fun sync : SyncCell => ∀ text ∈ sync.namespaces.items++sync.namespaces.spare, validString text = true)
      (readSync strict) := by
    refine preserves_readStruct ?_
    simp only [syncFields,List.mem_singleton,forall_eq]
    intro current raw value before read
    obtain ⟨texts,got,rfl⟩ := Option.map_eq_some_iff.mp read
    exact preserves_readSlice preserves_readText rfl _ _ _ before got
  have whole : Preserves (fun resume : ResumeCell => ∀ sync ∈ resume.stateSync,
      ∀ text ∈ sync.namespaces.items++sync.namespaces.spare, validString text = true) (readStruct (resumeFields strict) strict) := by
    refine preserves_readStruct ?_
    simp only [resumeFields,List.mem_cons,List.not_mem_nil,or_false,forall_eq_or_imp,forall_eq]
    refine ⟨fun current raw value before read => ?_,fun current raw value before read => ?_⟩
    · obtain ⟨seq,_,rfl⟩ := Option.map_eq_some_iff.mp read
      exact before
    · obtain ⟨pointer,got,rfl⟩ := Option.map_eq_some_iff.mp read
      exact preserves_readPointer sync (by simp) _ _ _ before got
  obtain ⟨cell,got,rfl⟩ := Option.map_eq_some_iff.mp read
  intro found member text inside
  obtain ⟨wanted,there,rfl⟩ := Option.map_eq_some_iff.mp member
  exact whole _ _ _ (by simp) got wanted there text (List.mem_append_left _ inside)

section Welcome
variable (strict : Bool)

theorem reads_sync (sync : ResumeStateSync) : ∃ node, Reads 2 sync.marshal node := by
  have name : Passes (lit "namespaces") := rfl
  obtain ⟨node,slice⟩ : ∃ node, Reads 1 (encodeSlice (sync.namespaces.map quote)) node :=
    reads_slice (by simpa using fun text _ => ⟨_,reads_quote 0 text⟩)
  exact ⟨_,reads_object 1 _ (by simpa using name) (by simpa using ⟨node,slice⟩)⟩

theorem readSync_marshal (sync : ResumeStateSync) (valid : ∀ text ∈ sync.namespaces, validString text = true) :
    readPointer (readSync strict) {} none sync.marshal = some (some {namespaces := {items := sync.namespaces}}) := by
  have name : Passes (lit "namespaces") := rfl
  have slice : ∃ node, Reads 1 (encodeSlice (sync.namespaces.map quote)) node :=
    reads_slice (by simpa using fun text _ => ⟨_,reads_quote 0 text⟩)
  have object := reads_object 1 [(lit "namespaces",encodeSlice (sync.namespaces.map quote))] (by simpa using name)
    (by simpa using slice)
  have read : readSync strict {} sync.marshal = some {namespaces := {items := sync.namespaces}} := by
    unfold readSync ResumeStateSync.marshal
    rw [readStruct_encodeObject syncFields strict {} _ 1 (by decide) (by simpa using name) (by simpa using slice)]
    refine readMembers_cons _ (by decide) rfl ?_
    simp only [field,readSlice_texts sync.namespaces valid]
    rfl
  rw [readPointer,show view sync.marshal = _ from object.view (by decide)]
  simp only [Option.getD_none,read]
  rfl

theorem reads_negotiated (capability : NegotiatedCapability) : ∃ node, Reads 1 capability.marshal node := by
  refine ⟨_,reads_object 0 _ ?_ ?_⟩
  · simpa using ⟨(rfl : Passes (lit "name")),(rfl : Passes (lit "version"))⟩
  · simpa using ⟨⟨_,reads_quote 0 capability.name⟩,⟨_,reads_decimal 0 capability.version.toNat⟩⟩

theorem readNegotiated_marshal (capability : NegotiatedCapability) :
    readNegotiated strict {} capability.marshal = some {capability with name := toValid capability.name} := by
  unfold readNegotiated NegotiatedCapability.marshal
  rw [readStruct_encodeObject negotiatedFields strict {} _ 0 (by decide)
    (by simpa using ⟨(rfl : Passes (lit "name")),(rfl : Passes (lit "version"))⟩)
    (by simpa using ⟨⟨_,reads_quote 0 capability.name⟩,⟨_,reads_decimal 0 capability.version.toNat⟩⟩)]
  refine (readMembers_cons _ (by decide) rfl (by simp only [field,readText_quote,Option.map_some]; rfl)).trans ?_
  exact readMembers_cons _ (by decide) rfl (by simp only [field,readUInt16_decimal,Option.map_some])

theorem welcome_members (payload : WelcomePayload) :
    (∀ entry ∈ payload.members, Passes entry.1) ∧ ∀ entry ∈ payload.members, ∃ node, Reads 2 entry.2 node := by
  have listed : ∃ node, Reads 2 (encodeArray (payload.acceptedCapabilities.map NegotiatedCapability.marshal)) node :=
    ⟨_,reads_array 1 _ (by simpa using fun capability _ => reads_negotiated capability)⟩
  have written : ∀ entry ∈ payload.members, Passes entry.1 ∧ ∃ node, Reads 2 entry.2 node := by
    unfold WelcomePayload.members
    intro entry member
    rcases List.mem_append.mp member with head | tail
    · simp only [List.mem_cons,List.not_mem_nil,or_false] at head
      rcases head with rfl | rfl
      · exact ⟨rfl,_,reads_quote 2 payload.mode⟩
      · exact ⟨rfl,_,reads_decimalInt 2 payload.serverTime.toInt⟩
    · split at tail
      · rcases List.mem_append.mp tail with bounds | sync
        · simp only [List.mem_cons,List.not_mem_nil,or_false] at bounds
          rcases bounds with rfl | rfl
          · exact ⟨rfl,_,reads_decimal 2 payload.resumeFrom.toNat⟩
          · exact ⟨rfl,_,reads_decimal 2 payload.replayTo.toNat⟩
        · split at sync
          · cases sync
          · rw [List.mem_singleton.mp sync]
            exact ⟨rfl,reads_sync _⟩
      · unfold optional at tail
        split at tail
        · rw [List.mem_singleton.mp tail]
          exact ⟨rfl,listed⟩
        · cases tail
  exact ⟨fun entry member => (written entry member).1,fun entry member => (written entry member).2⟩

theorem reads_welcome (payload : WelcomePayload) : Reads 3 payload.marshal (.obj payload.members) :=
  reads_object 2 payload.members (welcome_members payload).1 (welcome_members payload).2

theorem readWelcome_members (payload : WelcomePayload) :
    readWelcome strict {} payload.marshal =
      (payload.members.foldlM (readMember (welcomeFields strict) strict) {}).map WelcomeCell.payload :=
  congrArg (Option.map _) (readStruct_encodeObject (welcomeFields strict) strict {} payload.members 2 (by decide)
    (welcome_members payload).1 (welcome_members payload).2)

/-- A RESUMED WELCOME is read back as it was written. -/
theorem readWelcome_resumed (payload : WelcomePayload) (mode : payload.mode = welcomeModeResumed)
    (bare : payload.acceptedCapabilities = [])
    (valid : ∀ sync ∈ payload.stateSync, ∀ text ∈ sync.namespaces, validString text = true) :
    readWelcome strict {} payload.marshal = some payload := by
  obtain ⟨name,serverTime,resumeFrom,replayTo,sync,accepted⟩ := payload
  obtain rfl : name = welcomeModeResumed := mode
  obtain rfl : accepted = [] := bare
  have plain : toValid welcomeModeResumed = welcomeModeResumed := by decide
  rw [readWelcome_members]
  simp only [WelcomePayload.members,if_true,List.cons_append,List.nil_append]
  rw [readMembers_cons _ (by decide) rfl (by simp only [field,readText_quote,plain,Option.map_some]; rfl),
    readMembers_cons _ (by decide) rfl (by simp only [field,readInt64_decimalInt,Option.map_some]; rfl),
    readMembers_cons _ (by decide) rfl (by simp only [field,readUInt64_decimal,Option.map_some]; rfl),
    readMembers_cons _ (by decide) rfl (by simp only [field,readUInt64_decimal,Option.map_some]; rfl)]
  cases sync with
  | none => rfl
  | some sync =>
    rw [readMembers_cons _ (by decide) rfl
      (by simp only [field,readSync_marshal strict sync (valid sync rfl),Option.map_some]; rfl)]
    rfl

theorem readWelcome_new (payload : WelcomePayload) (mode : payload.mode = welcomeModeNew) :
    ∃ read, readWelcome strict {} payload.marshal = some read ∧ read.mode = welcomeModeNew := by
  have other : ¬welcomeModeNew = welcomeModeResumed := by decide
  have plain : toValid welcomeModeNew = welcomeModeNew := by decide
  rw [readWelcome_members]
  simp only [WelcomePayload.members,mode,if_neg other,List.cons_append,List.nil_append]
  rw [readMembers_cons _ (by decide) rfl (by simp only [field,readText_quote,plain,Option.map_some]; rfl),
    readMembers_cons _ (by decide) rfl (by simp only [field,readInt64_decimalInt,Option.map_some]; rfl)]
  unfold optional
  split
  · have listed := readSlice_encodeArray NegotiatedCapability.marshal (readNegotiated strict) {}
      payload.acceptedCapabilities (payload.acceptedCapabilities.map (fun capability => {capability with name := toValid capability.name}))
      1 (by decide) (fun capability _ => reads_negotiated capability)
      (List.forall₂_map_right_iff.mpr (List.forall₂_same.mpr (fun capability _ => readNegotiated_marshal strict capability)))
    rw [readMembers_cons _ (by decide) rfl (by simp only [field,listed,Option.map_some]; rfl)]
    exact ⟨_,rfl,rfl⟩
  · exact ⟨_,rfl,rfl⟩

end Welcome

section Written
variable {α : Type} {strict : Bool}

/-- Members a struct was read from, however deep they are. -/
theorem readStruct_written (depth : Nat) {fields : List (JsonField α)} {current value : α}
    {members : List (Bytes × Bytes)} (names : ∀ entry ∈ members, Passes entry.1)
    (values : ∀ entry ∈ members, ∃ node, Reads depth entry.2 node)
    (read : readStruct fields strict current (encodeObject members) = some value) :
    members.foldlM (readMember fields strict) current = some value := by
  have object := reads_object depth members names values
  unfold readStruct at read
  split at read
  · rename_i seen
    cases object.view_eq seen
  · rename_i seen
    cases object.view_eq seen
    exact read
  · cases read

theorem readSlice_written {item : Reader α} {zero : α} {depth : Nat} {texts : List Bytes} {slice : Slice α}
    (each : ∀ text ∈ texts, ∃ node, Reads depth text node)
    (read : readSlice item zero {} (encodeArray texts) = some slice) :
    List.Forall₂ (fun text value => item zero text = some value) texts slice.items := by
  have array := reads_array depth texts each
  have items : readItems item zero [] texts = some slice.items := by
    unfold readSlice at read
    split at read
    · rename_i seen
      cases array.view_eq seen
    · rename_i seen
      cases array.view_eq seen
      obtain ⟨values,got,rfl⟩ := Option.map_eq_some_iff.mp read
      exact got
    · cases read
  generalize slice.items = values at items ⊢
  clear array read each
  induction texts generalizing values with
  | nil =>
    cases items
    exact .nil
  | cons text texts ih =>
    simp only [readItems,List.head?_nil,Option.getD_none,List.tail_nil,bind,Option.bind_eq_some_iff,
      Option.some.injEq] at items
    obtain ⟨first,head,others,tail,rfl⟩ := items
    exact .cons head (ih _ tail)

theorem marshalRaw_reads {raw text : Bytes} (encoded : marshalRaw raw = some text) :
    ∃ node, Reads maxNestingDepth text node := by
  unfold marshalRaw at encoded
  split at encoded
  · cases encoded
    exact ⟨_,reads_null _⟩
  · exact (compact_compacted raw text encoded).reads

def StateObject.Written (object read : StateObject) : Prop :=
  ∃ data, marshalRaw object.data = some data ∧ read = {object with data := data}

theorem object_members {object : StateObject} {data : Bytes} (encoded : marshalRaw object.data = some data) :
    ∀ entry ∈ [(lit "namespace",quote object.namespace_),(lit "object_id",quote object.objectID),
      (lit "version",decimal object.version.toNat),(lit "data",data)],
      Passes entry.1 ∧ ∃ node, Reads maxNestingDepth entry.2 node := by
  simp only [List.mem_cons,List.not_mem_nil,or_false,forall_eq_or_imp,forall_eq]
  exact ⟨⟨rfl,_,reads_quote _ _⟩,⟨rfl,_,reads_quote _ _⟩,⟨rfl,_,reads_decimal _ _⟩,rfl,marshalRaw_reads encoded⟩

theorem object_reads {object : StateObject} {text : Bytes} (encoded : object.marshal = some text) :
    ∃ node, Reads (maxNestingDepth+1) text node := by
  obtain ⟨data,raw,rfl⟩ : ∃ data, marshalRaw object.data = some data ∧ _ = text := by
    simpa [StateObject.marshal,Option.bind_eq_some_iff] using encoded
  exact ⟨_,reads_object maxNestingDepth _ (fun entry member => (object_members raw entry member).1)
    (fun entry member => (object_members raw entry member).2)⟩

theorem readObject_written {object value : StateObject} {text : Bytes} (encoded : object.marshal = some text)
    (namespace_ : validString object.namespace_ = true) (id : validString object.objectID = true)
    (read : readObject strict {} text = some value) : object.Written value := by
  obtain ⟨data,raw,rfl⟩ : ∃ data, marshalRaw object.data = some data ∧ _ = text := by
    simpa [StateObject.marshal,Option.bind_eq_some_iff] using encoded
  have members := readStruct_written _ (fun entry member => (object_members raw entry member).1)
    (fun entry member => (object_members raw entry member).2) read
  rw [readMembers_cons _ (by decide) rfl (by simp only [field,readText_quote,toValid_of_valid _ namespace_,Option.map_some]; rfl),
    readMembers_cons _ (by decide) rfl (by simp only [field,readText_quote,toValid_of_valid _ id,Option.map_some]; rfl),
    readMembers_cons _ (by decide) rfl (by simp only [field,readUInt64_decimal,Option.map_some]; rfl),
    readMembers_cons _ (by decide) rfl (by simp only [field,readRaw,Option.map_some]; rfl)] at members
  cases members
  exact ⟨data,raw,rfl⟩

theorem marshal_each {states : List StateObject} {texts : List Bytes}
    (encoded : states.mapM StateObject.marshal = some texts) :
    List.Forall₂ (fun object text => object.marshal = some text) states texts := by
  induction states generalizing texts with
  | nil =>
    cases encoded
    exact .nil
  | cons object states ih =>
    simp only [List.mapM_cons,bind,pure,Option.bind_eq_some_iff,Option.some.injEq] at encoded
    obtain ⟨text,head,others,tail,rfl⟩ := encoded
    exact .cons head (ih tail)

private theorem snapshot_texts {states : List StateObject} {texts : List Bytes}
    (each : List.Forall₂ (fun object text => object.marshal = some text) states texts) :
    ∀ text ∈ texts, ∃ node, Reads (maxNestingDepth+1) text node := by
  induction each with
  | nil => simp
  | cons head _ ih => exact List.forall_mem_cons.mpr ⟨object_reads head,ih⟩

theorem snapshot_reads {states : List StateObject} {text : Bytes} (encoded : marshalSnapshot states = some text) :
    ∃ node, Reads (maxNestingDepth+1+1+1) text node := by
  have name : Passes (lit "states") := rfl
  obtain ⟨texts,mapped,rfl⟩ : ∃ texts, states.mapM StateObject.marshal = some texts ∧ _ = text := by
    simpa [marshalSnapshot,Option.bind_eq_some_iff] using encoded
  exact ⟨_,reads_object _ _ (by simpa using name)
    (by simpa using ⟨_,reads_array _ texts (snapshot_texts (marshal_each mapped))⟩)⟩

/-- Every object that is read was written. -/
theorem written_source {states read : List StateObject} (written : List.Forall₂ StateObject.Written states read)
    {object : StateObject} (member : object ∈ read) : ∃ source ∈ states, source.Written object := by
  induction written with
  | nil => cases member
  | @cons source value _ _ head _ ih =>
    rcases List.mem_cons.mp member with rfl | later
    · exact ⟨source,List.mem_cons_self ..,head⟩
    · obtain ⟨found,inside,wrote⟩ := ih later
      exact ⟨found,List.mem_cons_of_mem _ inside,wrote⟩

theorem readSnapshot_written {states : List StateObject} {payload : StateSnapshotPayload} {text : Bytes}
    (encoded : marshalSnapshot states = some text)
    (names : ∀ object ∈ states, validString object.namespace_ = true ∧ validString object.objectID = true)
    (read : readSnapshot strict {} text = some payload) :
    List.Forall₂ StateObject.Written states payload.states := by
  obtain ⟨texts,mapped,rfl⟩ : ∃ texts, states.mapM StateObject.marshal = some texts ∧ _ = text := by
    simpa [marshalSnapshot,Option.bind_eq_some_iff] using encoded
  have name : Passes (lit "states") := rfl
  have each := marshal_each mapped
  have readable := snapshot_texts each
  obtain ⟨cell,got,rfl⟩ := Option.map_eq_some_iff.mp read
  have members := readStruct_written (maxNestingDepth+1+1) (by simpa using name)
    (by simpa using ⟨_,reads_array _ texts readable⟩) got
  simp only [List.foldlM_cons,List.foldlM_nil,bind_pure] at members
  rw [readMember_field (snapshotFields strict) strict {} (lit "states") _ _ (by decide) rfl] at members
  obtain ⟨slice,listed,rfl⟩ := Option.map_eq_some_iff.mp members
  have items := readSlice_written readable listed
  change List.Forall₂ StateObject.Written states slice.items
  generalize slice.items = values at items
  clear members listed readable mapped got read encoded
  induction each generalizing values with
  | nil =>
    cases items
    exact .nil
  | cons head _ ih =>
    cases items with
    | cons first rest =>
      have own := names _ (List.mem_cons_self ..)
      exact .cons (readObject_written head own.1 own.2 first)
        (ih (fun object member => names object (List.mem_cons_of_mem _ member)) _ rest)

theorem event_reads {event : EventPayload} {text : Bytes} (encoded : event.marshal = some text) :
    ∃ node, Reads (maxNestingDepth+1) text node := by
  obtain ⟨content,raw,rfl⟩ : ∃ content, marshalRaw event.content = some content ∧ _ = text := by
    simpa [EventPayload.marshal,Option.bind_eq_some_iff] using encoded
  have members : ∀ entry ∈ optional (!event.eventType.isEmpty) (lit "event_type") (quote event.eventType) ++
      [(lit "content",content)], Passes entry.1 ∧ ∃ node, Reads maxNestingDepth entry.2 node := by
    intro entry member
    rcases List.mem_append.mp member with member | member
    · unfold optional at member
      split at member
      · cases List.mem_singleton.mp member
        exact ⟨rfl,_,reads_quote _ _⟩
      · cases member
    · cases List.mem_singleton.mp member
      exact ⟨rfl,marshalRaw_reads raw⟩
  exact ⟨_,reads_object maxNestingDepth _ (fun entry member => (members entry member).1)
    (fun entry member => (members entry member).2)⟩

theorem readEvent_written {event payload : EventPayload} {text : Bytes} (encoded : event.marshal = some text)
    (type : validString event.eventType = true) (read : readEvent strict {} text = some payload) :
    ∃ content, marshalRaw event.content = some content ∧ payload = {event with content := content} := by
  obtain ⟨content,raw,rfl⟩ : ∃ content, marshalRaw event.content = some content ∧ _ = text := by
    simpa [EventPayload.marshal,Option.bind_eq_some_iff] using encoded
  have name : Passes (lit "content") := rfl
  obtain ⟨node,reads⟩ := marshalRaw_reads raw
  refine ⟨content,raw,?_⟩
  unfold optional at read
  split at read
  · have members := readStruct_written maxNestingDepth
      (by simpa using ⟨(rfl : Passes (lit "event_type")),name⟩)
      (by simpa using ⟨⟨_,reads_quote _ _⟩,node,reads⟩) read
    rw [List.singleton_append,readMembers_cons _ (by decide) rfl
        (by simp only [field,readText_quote,toValid_of_valid _ type,Option.map_some]; rfl),
      readMembers_cons _ (by decide) rfl (by simp only [field,readRaw,Option.map_some]; rfl)] at members
    cases members
    rfl
  · rename_i empty
    have members := readStruct_written maxNestingDepth (by simpa using name)
      (by simpa using ⟨node,reads⟩) read
    rw [List.nil_append,readMembers_cons _ (by decide) rfl (by simp only [field,readRaw,Option.map_some]; rfl)] at members
    cases members
    obtain ⟨kind,_⟩ := event
    obtain rfl : kind = [] := by simpa using empty
    rfl

end Written

end Kmtproto
