import Kmtproto.JsonCodec
import Kmtproto.Refusals
import Kmtproto.Server
import Kmtproto.Json.Spelling

/-! The ERROR frames the server builds. Their message is cut at a rune, and an
identifier that is too long or not UTF-8 is left out; a built frame then passes its own
validation exactly when the identifiers it copied have no control character. -/
namespace Kmtproto
open Json

structure Flat (members : List (Bytes × Bytes)) : Prop where
  each : ∀ entry ∈ members, Compacted 0 entry.2 ∧ Passes entry.1 ∧ escapeChars entry.1 = entry.1 ∧
    unquote entry.1 = some entry.1
  distinct : (members.map Prod.fst).Nodup

namespace Flat
variable {members : List (Bytes × Bytes)}

theorem compact (flat : Flat members) : Json.compact (encodeObject members) = some (encodeObject members) := by
  have fixed := (compacted_object 0 members (fun entry member => by
    obtain ⟨compacted,passes,escaped,_⟩ := flat.each entry member
    exact ⟨compacted,passes,escaped⟩)).fixed
  exact compactAt_mono (by decide) fixed

theorem reads (flat : Flat members) (depth : Nat) : Reads (depth+1) (encodeObject members) (.obj members) := by
  refine reads_object depth members (fun entry member => (flat.each entry member).2.1) (fun entry member => ?_)
  obtain ⟨node,reads⟩ := (flat.each entry member).1.reads
  exact ⟨node,by simpa using reads.mono depth⟩

private theorem walkable (flat : Flat members) : Walkable payloadOpaqueFields (encodeObject members) := by
  have scalar (entry : Bytes × Bytes) (member : entry ∈ members) :
      ∃ node, Plain node ∧ Reads maxNestingDepth entry.2 node := by
    obtain ⟨node,reads⟩ := (flat.each entry member).1.reads
    exact ⟨node,scalar_plain _ _ _ (reads [] delimited_nil),by simpa using reads.mono maxNestingDepth⟩
  refine .object members id (fun entry member => ?_) flat.distinct (fun entry member => ?_) (fun entry member _ => ?_)
  · obtain ⟨_,passes,_,plain⟩ := flat.each entry member
    exact ⟨passes,plain⟩
  · obtain ⟨node,_,reads⟩ := scalar entry member
    exact ⟨node,reads⟩
  · obtain ⟨node,plain,reads⟩ := scalar entry member
    exact .scalar _ node plain reads

theorem decodePayload {α : Type} {fields : List (JsonField α)} {zero payload : α} {strict : Bool} (flat : Flat members)
    (read : members.foldlM (readMember fields strict) zero = some payload) :
    Kmtproto.decodePayload (readStruct fields) zero (encodeObject members) strict = .ok payload := by
  refine decodePayload_encodeObject _ zero payload strict members _ (flat.reads 9999) flat.walkable ?_
  rw [readStruct,(flat.reads 9999).view (by decide)]
  exact read

theorem present (flat : Flat members) {name : Bytes} (member : name ∈ members.map Prod.fst) :
    jsonFieldPresent (encodeObject members) name = .ok true := by
  have fields : members.mapM (fun entry => (unquote entry.1).map (fun name => (name,entry.2))) = some members := by
    refine mapM_fixed _ members (fun entry found => ?_)
    rw [(flat.each entry found).2.2.2]
    rfl
  have found : (lastField name members).isSome = true := by
    obtain ⟨entry,inside,rfl⟩ := List.mem_map.mp member
    simp only [lastField,Option.isSome_map,List.find?_isSome,List.mem_reverse]
    exact ⟨entry,inside,by simp⟩
  simp only [jsonFieldPresent,payloadFields,rawFields,(flat.reads 9999).view (by decide),fields,bind,Except.bind,found,
    pure,Except.pure]

end Flat

section Truncation

private theorem runeCut_spec (value : Bytes) (cut : Nat) :
    runeCut value cut ≤ cut ∧ (runeCut value cut = 0 ∨ isRuneStart (value.getD (runeCut value cut) 0) = true) := by
  induction cut with
  | zero => exact ⟨Nat.le_refl 0,.inl rfl⟩
  | succ cut ih =>
    unfold runeCut
    split
    · rename_i starts
      exact ⟨Nat.le_refl _,.inr starts⟩
    · exact ⟨by omega,ih.2⟩

/-- A truncated message is a prefix within the limit, and it is not cut inside a rune. -/
theorem truncateUTF8_spec {value : Bytes} (valid : validString value = true) (limit : Int) :
    (truncateUTF8 value limit).IsPrefix value ∧ validString (truncateUTF8 value limit) = true ∧
      (0 ≤ limit → ((truncateUTF8 value limit).length : Int) ≤ limit) := by
  unfold truncateUTF8
  split
  · exact ⟨List.nil_prefix,rfl,fun enough => by simpa using enough⟩
  split
  · rename_i fits
    exact ⟨List.prefix_refl _,valid,fun _ => fits⟩
  obtain ⟨below,starts⟩ := runeCut_spec value limit.toNat
  refine ⟨List.take_prefix _ _,validString_take valid _ ?_,fun enough => ?_⟩
  · rcases starts with zero | starts
    · exact .inl zero
    · exact .inr (.inr (by simpa [isRuneStart] using starts))
  · rw [List.length_take]
    omega

end Truncation

def ErrorPayload.members (payload : ErrorPayload) : List (Bytes × Bytes) :=
  [(lit "code",quote payload.code)] ++
    optional (!payload.message.isEmpty) (lit "message") (quote payload.message) ++
    optional (!payload.refID.isEmpty) (lit "ref_id") (quote payload.refID) ++
    [(lit "retryable",encodeBool payload.retryable)]

section Payload
variable {payload : ErrorPayload}

theorem ErrorPayload.flat (payload : ErrorPayload) : Flat payload.members := by
  refine ⟨fun entry member => ?_,?_⟩
  · simp only [members,List.mem_append,List.mem_singleton] at member
    rcases member with ((rfl | member) | member) | rfl
    · exact ⟨compacted_quote 0 _,rfl,rfl,rfl⟩
    · cases optional_member member
      exact ⟨compacted_quote 0 _,rfl,rfl,rfl⟩
    · cases optional_member member
      exact ⟨compacted_quote 0 _,rfl,rfl,rfl⟩
    · exact ⟨compacted_bool 0 _,rfl,rfl,rfl⟩
  · have names : (payload.members.map Prod.fst).Sublist ([lit "code"]++[lit "message"]++[lit "ref_id"]++[lit "retryable"]) := by
      simp only [members,List.map_append]
      exact ((List.Sublist.refl _).append (optional_names _ _ _)).append (optional_names _ _ _) |>.append (List.Sublist.refl _)
    exact names.nodup (by decide)

/-- An ERROR payload of valid texts is read back as it was written. -/
theorem decodePayload_error (strict : Bool) (code : validString payload.code = true)
    (message : validString payload.message = true) (refID : validString payload.refID = true) :
    decodePayload readError {} payload.marshal strict = .ok payload := by
  refine payload.flat.decodePayload ?_
  obtain ⟨code',message',refID',retryable'⟩ := payload
  simp only [ErrorPayload.members,List.append_assoc,List.cons_append,List.nil_append] at *
  rw [readMembers_cons _ (by decide) rfl (by simp only [field,readText_quote,toValid_of_valid _ code,Option.map_some]; rfl),
    readMembers_optional {code := code', message := message'} (by decide) rfl
      (fun _ => by simp only [field,readText_quote,toValid_of_valid _ message,Option.map_some])
      (fun empty => by rw [show message' = [] by simpa using empty]),
    readMembers_optional {code := code', message := message', refID := refID'} (by decide) rfl
      (fun _ => by simp only [field,readText_quote,toValid_of_valid _ refID,Option.map_some])
      (fun empty => by rw [show refID' = [] by simpa using empty])]
  exact readMembers_cons _ (by decide) rfl (by simp only [field,readFlag_encodeBool,Option.map_some])

end Payload

/-- An identifier as an ERROR copies it. -/
def copied (value : Bytes) (limit : Int) : Bytes := if (value.length : Int) > limit ∨ !validString value then [] else value

theorem copied_valid (value : Bytes) (limit : Int) : validString (copied value limit) = true := by
  unfold copied
  split
  · rfl
  · simp_all

theorem copied_length (value : Bytes) {limit : Int} (enough : 0 ≤ limit) : ((copied value limit).length : Int) ≤ limit := by
  unfold copied
  split
  · simpa using enough
  · simp_all

theorem ErrorCode.name_valid (code : ErrorCode) : validString code.name = true := by
  cases code <;> decide

section Frame
variable {sessionID : Bytes} {payload : ErrorPayload} {code : ErrorCode} {strict : Bool} {timestamp : Int64}

private theorem payload_length (coded : payload.code = code.name) (message : payload.message.length ≤ 1024)
    (refID : payload.refID.length ≤ 128) : payload.marshal.length ≤ 8000 := by
  refine (encodeObject_length_le payload.members).trans ?_
  have first := quote_length_le payload.code
  have second := quote_length_le payload.message
  have third := quote_length_le payload.refID
  have flag : (encodeBool payload.retryable).length ≤ 5 := by cases payload.retryable <;> decide
  have name : payload.code.length ≤ 21 := by
    rw [coded]
    cases code <;> decide
  have one := optional_length (!payload.message.isEmpty) (lit "message") (quote payload.message)
  have two := optional_length (!payload.refID.isEmpty) (lit "ref_id") (quote payload.refID)
  simp only [ErrorPayload.members,List.map_append,List.sum_append,List.map_cons,List.map_nil,List.sum_cons,List.sum_nil,
    show (lit "message").length = 7 from rfl,show (lit "ref_id").length = 6 from rfl,show (lit "code").length = 4 from rfl,
    show (lit "retryable").length = 9 from rfl] at one two ⊢
  omega

private theorem bounded_iff {value : Bytes} {limit : Int} (valid : validString value = true) (fits : (value.length : Int) ≤ limit) :
    validBoundedProtocolString value limit true = true ↔ hasControl value = false := by
  have short : ¬(value.length : Int) > limit := not_lt.mpr fits
  simp [validBoundedProtocolString,valid,short]

private theorem envelope_error_iff (session : validString sessionID = true ∧ sessionID.length ≤ 128)
    (coded : payload.code = code.name) (message : payload.message.length ≤ 1024) (refID : payload.refID.length ≤ 128) :
    validateEnvelope {type := .error, sessionID := sessionID, timestamp := timestamp, payload := payload.marshal}
      defaultLimits = .ok () ↔ hasControl sessionID = false := by
  have small := payload_length coded message refID
  rw [validateEnvelope_settled rfl (show FrameType.error.name.isEmpty = false by decide)
    (show FrameType.error.name.length ≤ 14 by decide) (by simp) session.2 (by simp only; omega) payload.flat.compact,
    ← bounded_iff session.1 (show (sessionID.length : Int) ≤ 128 by omega)]
  exact and_iff_right (show validBoundedProtocolString [] 128 true = true by decide)

/-- An ERROR of bounded and valid texts is valid when its identifiers have no control character. -/
theorem validateFrame_error_iff (session : validString sessionID = true ∧ sessionID.length ≤ 128)
    (coded : payload.code = code.name) (flag : code.Agrees payload.retryable)
    (message : validString payload.message = true ∧ payload.message.length ≤ 1024)
    (refID : validString payload.refID = true ∧ payload.refID.length ≤ 128) :
    validateFrame {type := .error, sessionID := sessionID, timestamp := timestamp, payload := payload.marshal}
      defaultLimits strict = .ok () ↔ hasControl sessionID = false ∧ hasControl payload.refID = false := by
  have text : validString payload.code = true := by
    rw [coded]
    exact code.name_valid
  have typed : validateTyped {type := .error, sessionID := sessionID, timestamp := timestamp, payload := payload.marshal}
      defaultLimits strict = .ok () ↔ hasControl payload.refID = false := by
    have within := bounded_iff refID.1 (show (payload.refID.length : Int) ≤ defaultLimits.maxIDLength by
      change (payload.refID.length : Int) ≤ 128
      omega)
    have named : (payload.code.isEmpty || ((payload.message.length : Int) > defaultLimits.maxErrorMessageLength)) = false := by
      have nonempty : payload.code.isEmpty = false := by
        rw [coded]
        cases code <;> rfl
      simpa [nonempty,defaultLimits] using message.2
    have present : jsonFieldPresent payload.marshal (lit "retryable") = .ok true :=
      payload.flat.present (by simp [ErrorPayload.members])
    have known : behaviorForErrorCode payload.code = some code.behavior := by
      rw [coded,behaviorForErrorCode,ErrorCode.ofName_name]
      rfl
    have consistent : (code.behavior.retryabilityFixed && payload.retryable != code.behavior.retryable) = false := by
      cases fixed : code.behavior.retryabilityFixed with
      | false => rfl
      | true => simpa using flag fixed
    simp only [validateTyped,validateError,requireZeroSeq,requireNoEnvelopeID,reject,ne_eq,not_true_eq_false,if_false,
      List.isEmpty_nil,Bool.not_true,Bool.false_eq_true,decodePayload_error strict text message.1 refID.1,named,present,known,
      consistent,bind,Except.bind]
    rw [← within]
    cases validBoundedProtocolString payload.refID defaultLimits.maxIDLength true <;> simp [fail]
  rw [← envelope_error_iff session coded message.2 refID.2,← typed]
  unfold validateFrame
  change (validateEnvelope _ defaultLimits >>= fun _ => validateTyped _ defaultLimits strict) = .ok () ↔ _
  cases validateEnvelope _ defaultLimits <;> simp [bind,Except.bind]

end Frame

section Reports
variable {config : ServerConfig} {sessionID refID message : Bytes} {code : ErrorCode} {retryable : Bool} {timestamp : Int64}

theorem errorFrameAt_eq : errorFrameAt config sessionID refID code message retryable timestamp =
    {type := .error, sessionID := copied sessionID config.limits.maxSessionIDLength, timestamp := timestamp,
     payload := ErrorPayload.marshal
       {code := code.name, message := truncateUTF8 message config.limits.maxErrorMessageLength,
        refID := copied refID config.limits.maxIDLength, retryable := retryable}} := rfl

/-- An ERROR built from a code and a message: it has a flag the code allows and shows a
prefix of the message within the limit, in valid UTF-8. -/
def ErrorReport (config : ServerConfig) (frame : Envelope) : Prop :=
  ∃ sessionID refID code message retryable timestamp payload,
    frame = errorFrameAt config sessionID refID code message retryable timestamp ∧
    decodePayload readError {} frame.payload config.strictValidation = .ok payload ∧
    payload.code = code.name ∧ code.Agrees payload.retryable ∧
    payload.message.IsPrefix message ∧ validString payload.message = true ∧
    (0 ≤ config.limits.maxErrorMessageLength → (payload.message.length : Int) ≤ config.limits.maxErrorMessageLength)

theorem decodePayload_errorFrameAt (strict : Bool) (text : validString message = true) :
    decodePayload readError {} (errorFrameAt config sessionID refID code message retryable timestamp).payload strict =
      .ok {code := code.name, message := truncateUTF8 message config.limits.maxErrorMessageLength,
           refID := copied refID config.limits.maxIDLength, retryable := retryable} :=
  decodePayload_error strict code.name_valid (truncateUTF8_spec text _).2.1 (copied_valid _ _)

theorem errorFrameAt_report (text : validString message = true) (flag : code.Agrees retryable) :
    ErrorReport config (errorFrameAt config sessionID refID code message retryable timestamp) := by
  obtain ⟨shown,valid,short⟩ := truncateUTF8_spec text config.limits.maxErrorMessageLength
  exact ⟨sessionID,refID,code,message,retryable,timestamp,_,rfl,decodePayload_errorFrameAt _ text,rfl,flag,shown,valid,short⟩

/-- An ERROR that is sent reports a code and a message. -/
def Reported (config : ServerConfig) : Op → Prop
  | .enqueueBatch _ frames => ∀ frame ∈ frames, frame.type = .error → ErrorReport config frame
  | _ => True

end Reports

end Kmtproto
