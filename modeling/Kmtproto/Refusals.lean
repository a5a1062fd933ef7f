import Kmtproto.Validate
import Kmtproto.Json.Utf8

/-! What a refused frame is told. Every failure of validation and of negotiation is a
protocol error whose text is valid UTF-8, whatever bytes the frame has, and whose
retryable flag is the one its code has. -/
namespace Kmtproto
open Json

def ErrorCode.Agrees (code : ErrorCode) (retryable : Bool) : Prop :=
  code.behavior.retryabilityFixed = true → retryable = code.behavior.retryable

instance (code : ErrorCode) (retryable : Bool) : Decidable (code.Agrees retryable) :=
  inferInstanceAs (Decidable (_ → _))

structure ProtocolError.Reportable (error : ProtocolError) : Prop where
  text : validString error.message = true
  flag : error.code.Agrees error.retryable

/-- A failure is a protocol error an ERROR frame can report. -/
def Refuses {α : Type} (result : Except Err α) : Prop :=
  ∀ error, result = .error error → ∃ refusal, error.asProtocol = some refusal ∧ refusal.Reportable

namespace Refuses
variable {α β : Type}

theorem ok (value : α) : Refuses (.ok value : Except Err α) := nofun

theorem fail {code : ErrorCode} {message : Bytes} (text : validString message = true) :
    Refuses (Kmtproto.fail code message : Except Err α) := by
  rintro error ⟨⟩
  exact ⟨_,rfl,text,fun _ => rfl⟩

theorem bind {first : Except Err α} {next : α → Except Err β} (one : Refuses first)
    (rest : ∀ value, first = .ok value → Refuses (next value)) : Refuses (first >>= next) := by
  cases first with
  | error error =>
    rintro other ⟨⟩
    exact one error rfl
  | ok value => exact rest value rfl

theorem reject {condition : Prop} [Decidable condition] {code : ErrorCode} {message : Bytes}
    (text : condition → validString message = true) : Refuses (Kmtproto.reject condition code message) := by
  unfold Kmtproto.reject
  split
  · rename_i failed
    exact .fail (text failed)
  · exact .ok ()

theorem guard {condition : Prop} [Decidable condition] {code : ErrorCode} {message : Bytes} {next : Unit → Except Err β}
    (text : validString message = true) (rest : ¬condition → Refuses (next ())) :
    Refuses (Kmtproto.reject condition code message >>= next) :=
  .bind (.reject (fun _ => text)) (fun value passed => rest ((reject_ok _ _ _ value).mp passed))

theorem wrap {name : Bytes} {result : Except Err α} (refuses : Refuses result) : Refuses (capabilityError name result) := by
  cases result with
  | ok value => exact .ok value
  | error other =>
    rintro error ⟨⟩
    exact refuses other rfl

theorem reportable {result : Except Err α} {error : Err} {refusal : ProtocolError} (refuses : Refuses result)
    (failed : result = .error error) (found : error.asProtocol = some refusal) : refusal.Reportable := by
  obtain ⟨other,same,report⟩ := refuses error failed
  cases found.symm.trans same
  exact report

end Refuses

section Json

theorem validString_decimal (n : Nat) : validString (decimal n) = true := by
  refine validString_ascii (fun c member => ?_)
  have digits := (decimal_integer n).digit c member
  grind [isDigit]

private theorem streamErrorText_valid (error : StreamError) : validString (streamErrorText error) = true := by
  cases error <;> decide

private theorem validString_goQuote (text : Bytes) : validString (goQuote text) = true := by
  have rune (rune : Bytes) (piece : IsRune rune) : validString (goQuoteRune rune) = true := by
    unfold goQuoteRune
    split
    · rename_i b
      have digits := hexDigits_ascii b
      split
      · rename_i mark
        rcases mark with rfl | rfl <;> decide
      split
      · rename_i named
        have letter : [0x61,0x62,0x74,0x6E,0x76,0x66,0x72].getD (b.toNat-7) b < 0x80 := by
          rw [List.getD_eq_getElem?_getD]
          cases entry : ([0x61,0x62,0x74,0x6E,0x76,0x66,0x72] : List UInt8)[b.toNat-7]? with
          | none => exact UInt8.lt_of_le_of_lt named.2 (by decide)
          | some c =>
            rw [Option.getD_some]
            have member := List.mem_of_getElem? entry
            simp only [List.mem_cons,List.not_mem_nil,or_false] at member
            rcases member with rfl | rfl | rfl | rfl | rfl | rfl | rfl <;> decide
        refine validString_ascii ?_
        simp only [List.mem_cons,List.not_mem_nil,or_false,forall_eq_or_imp,forall_eq]
        exact ⟨by decide,letter⟩
      split
      · refine validString_ascii ?_
        simp only [List.mem_cons,List.not_mem_nil,or_false,forall_eq_or_imp,forall_eq]
        exact ⟨by decide,by decide,digits⟩
      · rename_i shown
        exact validString_ascii (by simp only [List.mem_singleton,forall_eq]; grind)
    · rename_i b
      split
      · refine validString_ascii ?_
        simp only [List.mem_cons,List.not_mem_nil,or_false,forall_eq_or_imp,forall_eq]
        exact ⟨by decide,by decide,by decide,by decide,hexDigits_ascii b⟩
      · exact validString_rune piece (by simp)
    · rename_i other _
      refine validString_rune piece (fun one => ?_)
      obtain ⟨b,rfl⟩ := List.length_eq_one_iff.mp one
      exact other b rfl
  have chars : validString ((runes text).flatMap goQuoteRune) = true :=
    validString_flatMap (fun piece member => rune piece (runes_isRune text piece member))
  change validString ([0x22]++((runes text).flatMap goQuoteRune++[0x22])) = true
  exact validString_append (by decide) (validString_append chars (by decide))

private theorem walk_valid (opaqueFields : List Bytes) (fuel : Nat) :
    (∀ dec text, walkStrictJSONValue opaqueFields fuel dec = .error (.failed text) → validString text = true) ∧
    (∀ dec seen text, walkMembers opaqueFields fuel dec seen = .error (.failed text) → validString text = true) ∧
    ∀ dec text, walkElements opaqueFields fuel dec = .error (.failed text) → validString text = true := by
  have known (error : StreamError) (text : Bytes)
      (same : (.error (.failed (streamErrorText error)) : Except WalkError Decoder) = .error (.failed text)) : validString text = true := by
    cases same
    exact streamErrorText_valid error
  induction fuel with
  | zero => exact ⟨fun _ _ failed => (by cases failed),fun _ _ _ failed => (by cases failed),fun _ _ failed => by cases failed⟩
  | succ fuel ih =>
    obtain ⟨value,members,elements⟩ := ih
    refine ⟨fun dec text failed => ?_,fun dec seen text failed => ?_,fun dec text failed => ?_⟩
    · unfold walkStrictJSONValue at failed
      split at failed
      · exact known _ _ failed
      · split at failed
        · exact members _ _ _ failed
        split at failed
        · exact elements _ _ failed
        · cases failed
          decide
      · cases failed
    · unfold walkMembers at failed
      split at failed
      · split at failed
        · exact known _ _ failed
        · split at failed
          · cases failed
            exact validString_append (by decide) (validString_goQuote _)
          split at failed
          · split at failed
            · exact known _ _ failed
            · exact members _ _ _ failed
          · split at failed
            · rename_i inner
              cases failed
              exact value _ _ inner
            · exact members _ _ _ failed
        · cases failed
          decide
      · split at failed
        · exact known _ _ failed
        · split at failed
          · cases failed
          · cases failed
            decide
    · unfold walkElements at failed
      split at failed
      · split at failed
        · rename_i inner
          cases failed
          exact value _ _ inner
        · exact elements _ _ failed
      · split at failed
        · exact known _ _ failed
        · split at failed
          · cases failed
          · cases failed
            decide

private theorem ensureJSONEOF_valid {dec : Decoder} {text : Bytes} (failed : ensureJSONEOF dec = .error text) :
    validString text = true := by
  unfold ensureJSONEOF at failed
  split at failed
  · cases failed
  · cases failed
    exact validString_append (by decide) (streamErrorText_valid _)
  · cases failed
    decide

theorem refuses_duplicates (raw : Bytes) (opaqueFields : List Bytes) :
    Refuses (rejectDuplicateJSONFields raw opaqueFields) := by
  unfold rejectDuplicateJSONFields
  split
  · rename_i text failed
    exact .fail (validString_append (by decide) ((walk_valid _ _).1 _ _ failed))
  · exact .fail (by decide)
  · split
    · rename_i text failed
      exact .fail (ensureJSONEOF_valid failed)
    · exact .ok ()

theorem refuses_decodePayload {α : Type} (read : Bool → Reader α) (zero : α) (raw : Bytes) (strict : Bool) :
    Refuses (decodePayload read zero raw strict) := by
  unfold decodePayload
  split
  · exact .fail (by decide)
  extract_lets decoded
  have reads (walked : Unit) : Refuses (decoded walked) := by
    simp only [decoded]
    split
    · exact .fail (validString_append (by decide) (streamErrorText_valid _))
    split
    · exact .fail (by decide)
    split
    · rename_i text failed
      exact .fail (ensureJSONEOF_valid failed)
    · exact .ok _
  split
  · exact .bind (refuses_duplicates _ _) (fun walked _ => reads walked)
  · exact reads ()

private theorem refuses_payloadFields (raw : Bytes) : Refuses (payloadFields raw) := by
  unfold payloadFields
  split
  · exact .fail (by decide)
  · exact .ok _

theorem refuses_present (raw field : Bytes) : Refuses (jsonFieldPresent raw field) :=
  .bind (refuses_payloadFields raw) (fun _ _ => .ok _)

theorem refuses_nonNull (raw field : Bytes) : Refuses (jsonFieldPresentAndNonNull raw field) := by
  refine .bind (refuses_payloadFields raw) (fun _ _ => ?_)
  split <;> exact .ok _

end Json

section Capabilities

/-- A capability name is put into an error's text only after its encoding was checked. -/
private theorem validateCapabilityName_refuses (name : Bytes) (limits : Limits) :
    Refuses (validateCapabilityName name limits) := by
  unfold validateCapabilityName
  split
  · exact .fail (by decide)
  rename_i encoded
  have text : validString name = true := by simp_all
  split
  · exact .fail (validString_append (by decide) text)
  split
  · split
    · exact .fail (by decide)
    · exact .ok ()
  · exact .ok ()

private theorem validateCapabilityName_text {name : Bytes} {limits : Limits} {done : Unit}
    (ok : validateCapabilityName name limits = .ok done) : validString name = true := by
  unfold validateCapabilityName at ok
  split at ok
  · cases ok
  · simp_all

private theorem checkVersions_refuses (previous : Option UInt16) (versions : List UInt16) :
    Refuses (checkVersions previous versions) := by
  induction versions generalizing previous with
  | nil => exact .ok ()
  | cons version versions ih =>
    unfold checkVersions
    split
    · exact .fail (by decide)
    split
    · exact .fail (by decide)
    · exact ih _

private theorem validateVersions_refuses (versions : List UInt16) (limits : Limits) :
    Refuses (validateAndSortCapabilityVersions versions limits) := by
  unfold validateAndSortCapabilityVersions
  split
  · exact .fail (by decide)
  · exact .bind (checkVersions_refuses _ _) (fun _ _ => .ok _)

private theorem copyOffers_refuses (limits : Limits) (seen : List Bytes) (offers : List CapabilityOffer) :
    Refuses (copyOffers limits seen offers) := by
  induction offers generalizing seen with
  | nil => exact .ok []
  | cons offer offers ih =>
    unfold copyOffers
    refine .bind (validateCapabilityName_refuses _ _) (fun _ named => ?_)
    refine .guard (validString_append (by decide) (validateCapabilityName_text named)) (fun _ => ?_)
    exact .bind (.wrap (validateVersions_refuses _ _)) (fun _ _ => .bind (ih _) (fun _ _ => .ok _))

private theorem copyOffers_text {limits : Limits} {seen : List Bytes} {offers copied : List CapabilityOffer}
    (ok : copyOffers limits seen offers = .ok copied) : ∀ offer ∈ copied, validString offer.name = true := by
  induction offers generalizing seen copied with
  | nil =>
    cases ok
    simp
  | cons offer offers ih =>
    unfold copyOffers at ok
    obtain ⟨_,named,ok⟩ := bind_ok ok
    obtain ⟨_,ok⟩ := reject_bind_ok ok
    obtain ⟨versions,_,ok⟩ := bind_ok ok
    obtain ⟨others,rest,same⟩ := bind_ok ok
    cases same
    simpa using ⟨validateCapabilityName_text named,ih rest⟩

theorem refuses_offers (offers : List CapabilityOffer) (limits : Limits) :
    Refuses (validateAndCopyCapabilityOffers offers limits) := by
  unfold validateAndCopyCapabilityOffers
  simp only []
  split
  · exact .fail (by decide)
  · exact copyOffers_refuses _ _ _

private theorem checkNegotiated_refuses (limits : Limits) (previous : Option Bytes) (seen : List Bytes)
    (capabilities : List NegotiatedCapability) : Refuses (checkNegotiated limits previous seen capabilities) := by
  induction capabilities generalizing previous seen with
  | nil => exact .ok ()
  | cons capability capabilities ih =>
    unfold checkNegotiated
    refine .bind (validateCapabilityName_refuses _ _) (fun _ named => ?_)
    refine .guard (by decide) (fun _ => ?_)
    refine .guard (validString_append (by decide) (validateCapabilityName_text named)) (fun _ => ?_)
    exact .guard (by decide) (fun _ => ih _ _)

theorem refuses_negotiated (capabilities : List NegotiatedCapability) (limits : Limits) :
    Refuses (validateNegotiatedCapabilities capabilities limits) := by
  unfold validateNegotiatedCapabilities
  simp only []
  split
  · exact .fail (by decide)
  · exact checkNegotiated_refuses _ _ _ _

private theorem acceptOffers_refuses (registry : CapabilityRegistry) {offers : List CapabilityOffer}
    (named : ∀ offer ∈ offers, validString offer.name = true) : Refuses (acceptOffers registry offers) := by
  induction offers with
  | nil => exact .ok []
  | cons offer offers ih =>
    have rest := ih (fun other member => named other (by simp [member]))
    unfold acceptOffers
    split
    · split
      · exact .fail (validString_append (by decide) (named offer (by simp)))
      · exact rest
    · exact .bind rest (fun _ _ => .ok _)

theorem refuses_negotiate (registry : CapabilityRegistry) (offers : List CapabilityOffer) (limits : Limits) :
    Refuses (registry.negotiate offers limits) := by
  unfold CapabilityRegistry.negotiate
  refine .bind (refuses_offers _ _) (fun validated copied => .bind (acceptOffers_refuses _ ?_) (fun accepted _ => ?_))
  · unfold validateAndCopyCapabilityOffers at copied
    simp only [] at copied
    split at copied
    · cases copied
    · exact copyOffers_text copied
  · intro error failed
    unfold newSessionCapabilities at failed
    split at failed
    · rename_i other invalid
      cases failed
      exact refuses_negotiated _ _ error invalid
    · cases failed

end Capabilities

section State

private theorem validateStateNamespace_refuses (namespace_ : Bytes) (maxLength : Int) :
    Refuses (validateStateNamespace namespace_ maxLength) := by
  unfold validateStateNamespace
  split
  · exact .fail (by decide)
  rename_i encoded
  split
  · exact .fail (validString_append (by decide) (by simp_all))
  · exact .ok ()

private theorem validateStateIdentity_refuses (namespace_ objectID : Bytes) (limits : Limits) :
    Refuses (validateStateIdentity namespace_ objectID limits) :=
  .bind (validateStateNamespace_refuses _ _) (fun _ _ => .guard (by decide) (fun _ => .reject (fun _ => by decide)))

theorem refuses_stateObject (object : StateObject) (limits : Limits) : Refuses (validateStateObject object limits) := by
  unfold validateStateObject
  refine .bind (validateStateIdentity_refuses _ _ _) (fun _ _ => .guard (by decide) (fun _ => .guard (by decide)
    (fun _ => .guard (by decide) (fun _ => ?_))))
  split
  · exact .fail (by decide)
  · exact .reject (fun _ => by decide)

private theorem checkNamespaces_refuses (maxLength : Int) (previous : Option Bytes) (namespaces : List Bytes) :
    Refuses (checkNamespaces maxLength previous namespaces) := by
  induction namespaces generalizing previous with
  | nil => exact .ok ()
  | cons namespace_ namespaces ih =>
    exact .bind (validateStateNamespace_refuses _ _) (fun _ _ => .guard (by decide) (fun _ => ih _))

private theorem validateResumeStateSync_refuses (sync : ResumeStateSync) (limits : Limits) :
    Refuses (validateResumeStateSync sync limits) :=
  .guard (by decide) (fun _ => checkNamespaces_refuses _ _ _)

private theorem checkObjectIDs_refuses (limits : Limits) (namespace_ : Bytes) (seen objectIDs : List Bytes) :
    Refuses (checkObjectIDs limits namespace_ seen objectIDs) := by
  induction objectIDs generalizing seen with
  | nil => exact .ok ()
  | cons objectID objectIDs ih =>
    exact .bind (validateStateIdentity_refuses _ _ _) (fun _ _ => .guard (by decide) (fun _ => ih _))

private theorem checkStates_refuses (limits : Limits) (seen : List StateIdentity) (objects : List StateObject) :
    Refuses (checkStates limits seen objects) := by
  induction objects generalizing seen with
  | nil => exact .ok ()
  | cons object objects ih =>
    exact .bind (refuses_stateObject _ _) (fun _ _ => .guard (by decide) (fun _ => ih _))

end State

section Frames
variable {e : Envelope} {limits : Limits} {strict : Bool} {α : Type}

private theorem refuses_envelope (e : Envelope) (limits : Limits) : Refuses (validateEnvelope e limits) := by
  unfold validateEnvelope
  simp only []
  split
  · rename_i error failed
    unfold validateLimits at failed
    split at failed
    · cases failed
    · cases failed
      exact .fail (by decide +kernel)
  split
  · rintro error ⟨⟩
    exact ⟨_,rfl,validString_append (by decide) (validString_decimal _),fun _ => rfl⟩
  refine .guard (by decide) (fun _ => .guard (by decide) (fun _ => .guard (by decide) (fun _ => .guard (by decide) (fun _ => ?_))))
  split
  · exact .fail (by decide)
  · exact .reject (fun _ => by decide)

private theorem refuses_named {condition : Prop} [Decidable condition] {code : ErrorCode} {ending : Bytes}
    {next : Unit → Except Err α} (known : validString e.type.name = true) (text : validString ending = true)
    (rest : Refuses (next ())) : Refuses (reject condition code (e.type.name ++ ending) >>= next) :=
  .guard (validString_append known text) (fun _ => rest)

private theorem refuses_content (raw : Bytes) : Refuses (validateContent raw) := .reject (fun _ => by decide)

private theorem refuses_members (p : WelcomePayload) : Refuses (validateWelcomeMembers e p) := by
  unfold validateWelcomeMembers
  refine .bind (refuses_present _ _) (fun _ _ => .bind (refuses_present _ _) (fun _ _ => .bind (refuses_present _ _)
    (fun _ _ => .bind (refuses_present _ _) (fun _ _ => .bind (refuses_nonNull _ _) (fun _ _ => ?_)))))
  exact .guard (by decide) (fun _ => .guard (by decide) (fun _ => .guard (by decide) (fun _ => .guard (by decide)
    (fun _ => .guard (by decide) (fun _ => .reject (fun _ => by decide))))))

private theorem refuses_welcome (known : validString e.type.name = true) : Refuses (validateWelcome e limits strict) := by
  unfold validateWelcome
  refine refuses_named known (by decide) (refuses_named known (by decide) (refuses_named known (by decide)
    (.bind (refuses_decodePayload _ _ _ _) (fun p _ => .guard (by decide) (fun _ => .bind (refuses_members p) (fun _ _ => ?_))))))
  split
  · split
    · exact .bind (validateResumeStateSync_refuses _ _) (fun _ _ => refuses_negotiated _ _)
    · exact refuses_negotiated _ _
  · exact refuses_negotiated _ _

private theorem refuses_resume (known : validString e.type.name = true) : Refuses (validateResume e limits strict) := by
  unfold validateResume
  refine refuses_named known (by decide) (refuses_named known (by decide) (refuses_named known (by decide)
    (.bind (refuses_decodePayload _ _ _ _) (fun p _ => .bind (refuses_present _ _) (fun _ _ => .guard (by decide)
      (fun _ => .bind (refuses_present _ _) (fun _ _ => .guard (by decide) (fun _ => ?_))))))))
  split
  · exact validateResumeStateSync_refuses _ _
  · exact .ok ()

private theorem refuses_error (known : validString e.type.name = true) : Refuses (validateError e limits strict) := by
  unfold validateError
  refine refuses_named known (by decide) (refuses_named known (by decide) (.bind (refuses_decodePayload _ _ _ _)
    (fun p _ => .guard (by decide) (fun _ => .bind (refuses_present _ _) (fun _ _ => .guard (by decide) (fun _ => ?_))))))
  split
  · exact .fail (by decide)
  · exact .guard (by decide) (fun _ => .reject (fun _ => by decide))

private theorem refuses_typed (e : Envelope) (limits : Limits) (strict : Bool) : Refuses (validateTyped e limits strict) := by
  have named (name : e.type.name ∈ frameNames) : validString e.type.name = true :=
    (by decide +kernel : ∀ name ∈ frameNames, validString name = true) _ name
  have decoded {α β : Type} {read : Bool → Reader α} {zero : α} {next : α → Except Err β}
      (rest : ∀ p, Refuses (next p)) : Refuses (decodePayload read zero e.payload strict >>= next) :=
    .bind (refuses_decodePayload _ _ _ _) (fun p _ => rest p)
  unfold validateTyped
  split <;> rename_i type
  case h_1 =>
    exact .guard (by decide) (fun _ => decoded (fun p => .guard (by decide)
      (fun _ => .bind (refuses_offers _ _) (fun _ _ => .ok _))))
  case h_13 => exact .fail (by decide)
  all_goals have known := named (by rw [type]; decide)
  case h_2 => exact refuses_welcome known
  case h_3 | h_4 | h_6 =>
    exact refuses_named known (by decide) (refuses_named known (by decide) (refuses_named known (by decide)
      (decoded (fun p => .reject (fun _ => by decide)))))
  case h_5 =>
    exact refuses_named known (by decide) (refuses_named known (by decide) (.guard (by decide)
      (fun _ => decoded (fun p => refuses_content _))))
  case h_7 =>
    exact refuses_named known (by decide) (.guard (by decide) (fun _ => decoded (fun p => .guard (by decide)
      (fun _ => refuses_content _))))
  case h_8 => exact refuses_resume known
  case h_9 =>
    exact refuses_named known (by decide) (refuses_named known (by decide) (refuses_named known (by decide)
      (decoded (fun p => .guard (by decide) (fun _ => checkObjectIDs_refuses _ _ _ _)))))
  case h_10 =>
    exact refuses_named known (by decide) (refuses_named known (by decide) (refuses_named known (by decide)
      (.guard (by decide) (fun _ => .bind (refuses_nonNull _ _) (fun _ _ => .guard (by decide)
        (fun _ => decoded (fun p => .guard (by decide) (fun _ => checkStates_refuses _ _ _))))))))
  case h_11 =>
    exact refuses_named known (by decide) (refuses_named known (by decide) (refuses_named known (by decide)
      (decoded (fun p => refuses_stateObject _ _))))
  case h_12 => exact refuses_error known

/-- A frame fails validation with an error an ERROR frame can report. -/
theorem refuses_frame (e : Envelope) (limits : Limits) (strict : Bool) : Refuses (validateFrame e limits strict) :=
  .bind (refuses_envelope _ _) (fun _ _ => refuses_typed _ _ _)

end Frames

end Kmtproto
