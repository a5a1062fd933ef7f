import Kmtproto.Respelling

/-! The codec is an inverse of itself up to spelling. What arrives is the frame that was sent
with its payload in compact form, unless that form is beyond a limit; the frame that
arrived is written as the same bytes, and whatever is decoded can be encoded again. -/
namespace Kmtproto
open Json

/-- The payload leaves room for the envelope around it. -/
def Envelope.Shallow (frame : Envelope) : Prop := ∃ node, viewAt 9999 frame.payload = some node

section Nesting
variable {frame : Envelope} {limits : Limits} {strict : Bool}

/-- The nesting of a payload is that of its written form. -/
theorem shallow_iff {result : Bytes} (compacted : compact frame.payload = some result) :
    frame.Shallow ↔ ∃ node, Reads 9999 result node := by
  constructor
  · rintro ⟨node,viewed⟩
    obtain ⟨text,lower⟩ := viewAt_compactAt viewed
    cases (compactAt_mono (by decide : 9999 ≤ maxNestingDepth) lower).symm.trans compacted
    exact (compactAt_compacted _ _ _ lower).reads
  · rintro ⟨node,reads⟩
    exact viewAt_of_compact compacted reads

theorem validateTyped_type (valid : validateTyped frame limits strict = .ok ()) : validString frame.type.name = true := by
  unfold validateTyped at valid
  cases type : frame.type with
  | other =>
    rw [type] at valid
    cases valid
  | _ => decide

private theorem readEnvelope_payload {members : List (Bytes × Bytes)} (each : ∀ entry ∈ members, ∃ node, Reads 9999 entry.2 node)
    {current : Envelope} (start : current.payload = [] ∨ ∃ node, Reads 9999 current.payload node)
    (read : members.foldlM (readMember envelopeFields strict) current = some frame) :
    frame.payload = [] ∨ ∃ node, Reads 9999 frame.payload node := by
  refine @readMembers_keeps _ (fun frame => frame.payload = [] ∨ ∃ node, Reads 9999 frame.payload node) _ _ _ _ _
    (fun entry inside name target current next _ found kept first => ?_) start read
  have member := findField_mem found
  simp only [envelopeFields,List.mem_cons,List.not_mem_nil,or_false] at member
  rcases member with rfl | rfl | rfl | rfl | rfl | rfl | rfl <;> simp only [field,Option.map_eq_some_iff] at first <;>
    obtain ⟨value,got,rfl⟩ := first
  case inr.inr.inr.inr.inr.inr =>
    cases got
    exact Or.inr (each entry inside)
  all_goals exact kept

end Nesting

namespace JSONCodec
variable {codec : JSONCodec} {frame wire : Envelope} {data : Bytes}

theorem encode_ok_iff : codec.encode frame = .ok data ↔
    validateFrame frame codec.limits codec.strict = .ok () ∧ frame.marshal = some data := by
  unfold encode
  rw [validateOutboundFrame_eq]
  have settle : validateFrame frame (normalizeLimits codec.limits) codec.strict = validateFrame frame codec.limits codec.strict := by
    simp [validateFrame]
  rw [settle]
  cases validateFrame frame codec.limits codec.strict with
  | error error => exact ⟨fun wrong => (by cases wrong),fun both => by cases both.1⟩
  | ok done =>
    cases frame.marshal with
    | none => exact ⟨fun wrong => (by cases wrong),fun both => by cases both.2⟩
    | some text => exact ⟨fun same => (by cases same; exact ⟨rfl,rfl⟩),fun both => by cases both.2; rfl⟩

theorem decode_encoded (encoded : codec.encode frame = .ok data) : codec.decode data = .ok wire ↔
    wire = frame.rewritten ∧ frame.Shallow ∧ frame.Fits (normalizeLimits codec.limits) codec.strict := by
  obtain ⟨valid,written⟩ := encode_ok_iff.mp encoded
  have compacted := rewritten_payload valid
  have type := validateTyped_type (validateFrame_parts valid).2
  obtain ⟨id,session,payload,form,marshalled,size⟩ := validateFrame_written valid
  have same : frame.rewritten = {frame with payload := payload} := by rw [Envelope.rewritten,form]; rfl
  cases written.symm.trans marshalled
  rw [same] at compacted ⊢
  rw [shallow_iff compacted,← validateFrame_rewritten valid,same]
  constructor
  · intro decoded
    obtain ⟨node,reads⟩ := (compact_compacted _ _ compacted).reads
    obtain ⟨rfl,shallow,again⟩ := decode_inverts id session type (fun _ => ⟨node,reads⟩) decoded
    obtain ⟨c,tail,visible,_⟩ := reads.head
    exact ⟨rfl,shallow (by rw [visible]; simp),again⟩
  · rintro ⟨rfl,shallow,again⟩
    exact decode_written id session type size (fun _ => shallow) again

/-- A frame that is decoded is valid, and its payload was inside an envelope. -/
theorem decode_valid (decoded : codec.decode data = .ok frame) :
    validateFrame frame codec.limits codec.strict = .ok () ∧ frame.Shallow := by
  obtain ⟨_,⟨value,dec,_,got⟩,valid⟩ := decode_parts decoded
  refine ⟨valid,?_⟩
  have present : frame.payload ≠ [] := by simpa using compact_present (rewritten_payload valid)
  unfold readEnvelope readStruct at got
  cases viewed : view value with
  | none =>
    rw [viewed] at got
    cases got
  | some node =>
    rw [viewed] at got
    cases node with
    | null =>
      cases got
      exact absurd rfl present
    | obj members =>
      cases viewAt_children viewed with
      | plain plain => cases plain
      | obj _ _ each =>
        rcases readEnvelope_payload each (Or.inl rfl) got with empty | ⟨node,reads⟩
        · exact absurd empty present
        · exact ⟨node,reads.viewAt⟩
    | bool | num | str | arr => cases got

end JSONCodec

section Rewritten
variable {frame : Envelope}

theorem rewritten_self (settled : compact frame.payload = some frame.payload) : frame.rewritten = frame := by
  rw [Envelope.rewritten,writtenPayload,compact_present settled,if_neg Bool.false_ne_true,settled]
  rfl

end Rewritten

/-- The round trip of every codec: what an encoded frame is decoded to, and when; that it is
encoded to the same bytes; that a frame with its payload in compact form comes back as it
is; and that every decoded frame can be encoded and nests no deeper than the envelope
allows. -/
theorem codec_round_trip (codec : JSONCodec) :
    (∀ frame data wire, codec.encode frame = .ok data →
      (codec.decode data = .ok wire ↔
        wire = frame.rewritten ∧ frame.Shallow ∧ frame.Fits (normalizeLimits codec.limits) codec.strict) ∧
      (codec.decode data = .ok wire → codec.encode wire = .ok data) ∧
      (compact frame.payload = some frame.payload → (codec.decode data = .ok frame ↔ frame.Shallow))) ∧
    ∀ data frame, codec.decode data = .ok frame → frame.Shallow ∧ ∃ again, codec.encode frame = .ok again := by
  refine ⟨fun frame data wire encoded => ⟨JSONCodec.decode_encoded encoded,fun decoded => ?_,fun settled => ?_⟩,
    fun data frame decoded => ?_⟩
  · obtain ⟨valid,written⟩ := JSONCodec.encode_ok_iff.mp encoded
    have compacted := rewritten_payload valid
    obtain ⟨rfl,_,fits⟩ := (JSONCodec.decode_encoded encoded).mp decoded
    exact JSONCodec.encode_ok_iff.mpr ⟨(validateFrame_rewritten valid).mpr fits,(marshal_compact compacted).trans written⟩
  · have valid := (JSONCodec.encode_ok_iff.mp encoded).1
    have same := rewritten_self settled
    rw [JSONCodec.decode_encoded encoded,same,← validateFrame_rewritten valid,same]
    exact ⟨fun both => both.2.1,fun shallow => ⟨rfl,shallow,valid⟩⟩
  · obtain ⟨valid,shallow⟩ := JSONCodec.decode_valid decoded
    obtain ⟨_,_,payload,_,marshalled,_⟩ := validateFrame_written valid
    exact ⟨shallow,_,JSONCodec.encode_ok_iff.mpr ⟨valid,marshalled⟩⟩

def spacedPing : Envelope :=
  {type := .ping, sessionID := lit "s", payload := lit "\x7b \"ping_id\" : \"p\" , \"client_time\" : 7 \x7d"}

theorem spacedPing_fits : (∃ data, ({} : JSONCodec).encode spacedPing = .ok data) ∧ spacedPing.Shallow ∧
    spacedPing.Fits (normalizeLimits defaultLimits) true := by
  refine ⟨?_,?_,⟨by decide +kernel,fun wrong => (by cases wrong),fun _ member => absurd member List.not_mem_nil⟩⟩
  · have ok : (({} : JSONCodec).encode spacedPing).toOption.isSome = true := by decide +kernel
    cases encoded : ({} : JSONCodec).encode spacedPing with
    | ok data => exact ⟨data,rfl⟩
    | error error =>
      rw [encoded] at ok
      cases ok
  · exact Option.isSome_iff_exists.mp (by decide +kernel : (viewAt 9999 spacedPing.payload).isSome = true)

theorem codec_round_trip_spaced : ∃ data, ({} : JSONCodec).encode spacedPing = .ok data ∧
    ({} : JSONCodec).decode data = .ok {spacedPing with payload := lit "\x7b\"ping_id\":\"p\",\"client_time\":7\x7d"} := by
  obtain ⟨⟨data,encoded⟩,shallow,fits⟩ := spacedPing_fits
  have settled : spacedPing.rewritten = {spacedPing with payload := lit "\x7b\"ping_id\":\"p\",\"client_time\":7\x7d"} := by
    decide +kernel
  refine ⟨data,encoded,?_⟩
  rw [← settled]
  exact (((codec_round_trip {}).1 spacedPing data spacedPing.rewritten encoded).1).mpr ⟨rfl,shallow,fits⟩

def tightCodec : JSONCodec := {limits := {defaultLimits with maxPayloadSize := 15}}

def angledSend : Envelope :=
  {type := .send, id := lit "m", sessionID := lit "s", payload := lit "\x7b\"content\":\"<\"\x7d"}

/-- A payload of as many bytes as are allowed is longer once it is written, and the frame is
encoded and cannot be decoded. -/
theorem angled_send_undecoded : validateLimits tightCodec.limits = .ok () ∧
    ∃ data, tightCodec.encode angledSend = .ok data ∧ ∀ wire, tightCodec.decode data ≠ .ok wire := by
  have facts : ∃ data ∈ (tightCodec.encode angledSend).toOption, (tightCodec.decode data).toOption = none := by decide +kernel
  obtain ⟨data,encoded,refused⟩ := facts
  refine ⟨rfl,data,?_,fun wire decoded => ?_⟩
  · cases result : tightCodec.encode angledSend with
    | ok bytes =>
      rw [result] at encoded
      cases encoded
      rfl
    | error error =>
      rw [result] at encoded
      cases encoded
  · rw [decoded] at refused
    cases refused

end Kmtproto
