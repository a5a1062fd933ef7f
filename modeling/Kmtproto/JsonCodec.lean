import Kmtproto.Wire
import Kmtproto.Json.Utf8

/-! The JSON codec of whole frames. A frame is validated before it is written and
after it is read; what is read back from an encoded frame is the frame with its
payload in compact form, provided the envelope does not nest it too deep. -/
namespace Kmtproto
open Json

def knownTypes : List FrameType :=
  [.hello,.welcome,.ping,.pong,.send,.ack,.event,.resume,.error,.stateQuery,.stateSnapshot,.stateUpdate]

theorem frameNames_known : frameNames = knownTypes.map FrameType.name := rfl

def FrameType.ofName (text : Bytes) : FrameType :=
  match found : knownTypes.find? (fun type => type.name == text) with
  | some type => type
  | none => .other text (by
      rw [frameNames_known,List.mem_map]
      rintro ⟨type,known,rfl⟩
      have differs := List.find?_eq_none.mp found type known
      simp at differs)

theorem FrameType.ofName_name (type : FrameType) : ofName type.name = type := by
  unfold ofName
  split
  · rename_i other found
    have same := List.find?_some found
    have known := List.mem_of_find?_eq_some found
    have all : ∀ first ∈ knownTypes, ∀ second ∈ knownTypes, first.name = second.name → first = second := by decide
    by_cases listed : type ∈ knownTypes
    · exact all other known type listed (by simpa using same)
    · cases type with
      | other text unknown =>
        refine absurd ?_ unknown
        rw [frameNames_known]
        exact List.mem_map.mpr ⟨other,known,eq_of_beq same⟩
      | _ => exact absurd (by decide) listed
  · rename_i missing
    cases type with
    | other text unknown => rfl
    | _ => exact absurd missing (by decide)

structure JSONCodec where
  limits : Limits := defaultLimits
  strict : Bool := true

def envelopeFields : List (JsonField Envelope) :=
  [field (lit "v") (·.v) (fun frame v => {frame with v := v}) readUInt16,
   field (lit "type") (·.type.name) (fun frame name => {frame with type := .ofName name}) readText,
   field (lit "id") (·.id) (fun frame id => {frame with id := id}) readText,
   field (lit "session_id") (·.sessionID) (fun frame id => {frame with sessionID := id}) readText,
   field (lit "seq") (·.seq) (fun frame seq => {frame with seq := seq}) readUInt64,
   field (lit "timestamp") (·.timestamp) (fun frame time => {frame with timestamp := time}) readInt64,
   field (lit "payload") (·.payload) (fun frame payload => {frame with payload := payload}) readRaw]

def readEnvelope (strict : Bool) : Reader Envelope := readStruct envelopeFields strict

def zeroEnvelope : Envelope := {v := 0, type := .other [] (by decide)}

def envelopeOpaqueFields : List Bytes := [lit "payload"]

namespace JSONCodec
variable (codec : JSONCodec)

def encode (frame : Envelope) : Except Err Bytes := do
  validateOutboundFrame frame (normalizeLimits codec.limits) codec.strict
  match frame.marshal with
  | none => .error (.wrap (lit "encode frame") (.plain (lit "json: error calling MarshalJSON")))
  | some data => .ok data

def decode (data : Bytes) : Except Err Envelope := do
  reject data.isEmpty .badRequest (lit "empty frame")
  reject ((data.length : Int) > (normalizeLimits codec.limits).maxFrameSize) .badRequest (lit "frame exceeds maximum size")
  (if codec.strict then rejectDuplicateJSONFields data envelopeOpaqueFields else .ok () : Except Err Unit)
  match ({input := data} : Decoder).decode with
  | .error error => fail .badRequest (lit "invalid envelope JSON: " ++ streamErrorText error)
  | .ok (value,dec) =>
    match readEnvelope codec.strict zeroEnvelope value with
    | none => fail .badRequest (lit "invalid envelope JSON: json: cannot unmarshal")
    | some frame =>
      match ensureJSONEOF dec with
      | .error text => fail .badRequest text
      | .ok () => do
        validateFrame frame (normalizeLimits codec.limits) codec.strict
        return frame

end JSONCodec

def writtenPayload (payload : Bytes) : Option Bytes := if payload.isEmpty then some [] else compact payload

def Envelope.written (frame : Envelope) (payload : Bytes) : List (Bytes × Bytes) :=
  frame.header ++ optional (!payload.isEmpty) (lit "payload") payload

section Sizes

private theorem decimal_small {n : Nat} (small : n ≤ 9223372036854775808) : (decimal n).length ≤ 19 :=
  (decimal_length_mono small).trans (by decide)

private theorem decimalInt_small (timestamp : Int64) : (decimalInt timestamp.toInt).length ≤ 20 := by
  have low := timestamp.le_toInt
  have high := timestamp.toInt_lt
  generalize timestamp.toInt = value at low high
  cases value with
  | ofNat n =>
    have small := decimal_small (n := n) (by simp only [Int.ofNat_eq_natCast] at high; omega)
    simp only [decimalInt]
    omega
  | negSucc n =>
    have small := decimal_small (n := n+1) (by omega)
    simp only [decimalInt,List.length_cons]
    omega

theorem optional_length (present : Bool) (name text : Bytes) :
    ((optional present name text).map (fun entry => entry.1.length+entry.2.length+4)).sum ≤ name.length+text.length+4 := by
  unfold optional
  split <;> simp

theorem written_length (frame : Envelope) (text : Bytes) (id : frame.id.length ≤ 128) (session : frame.sessionID.length ≤ 128)
    (type : frame.type.name.length ≤ 14) : (encodeObject (frame.written text)).length ≤ text.length+2000 := by
  refine (encodeObject_length_le _).trans ?_
  have version : (decimal frame.v.toNat).length ≤ 5 :=
    (decimal_length_mono (Nat.le_of_lt_succ frame.v.toNat_lt)).trans (by decide)
  have kind := quote_length_le frame.type.name
  have one := optional_length (!frame.id.isEmpty) (lit "id") (quote frame.id)
  have first := quote_length_le frame.id
  have two := optional_length (!frame.sessionID.isEmpty) (lit "session_id") (quote frame.sessionID)
  have second := quote_length_le frame.sessionID
  have three := optional_length (frame.seq != 0) (lit "seq") (decimal frame.seq.toNat)
  have third : (decimal frame.seq.toNat).length ≤ 20 :=
    (decimal_length_mono (Nat.le_of_lt_succ frame.seq.toNat_lt)).trans (by decide)
  have four := optional_length (frame.timestamp != 0) (lit "timestamp") (decimalInt frame.timestamp.toInt)
  have fourth := decimalInt_small frame.timestamp
  have five := optional_length (!text.isEmpty) (lit "payload") text
  simp only [Envelope.written,Envelope.header,List.map_append,List.sum_append,List.map_cons,List.map_nil,List.sum_cons,
    List.sum_nil,show (lit "v").length = 1 from rfl,show (lit "type").length = 4 from rfl,show (lit "id").length = 2 from rfl,
    show (lit "session_id").length = 10 from rfl,show (lit "seq").length = 3 from rfl,
    show (lit "timestamp").length = 9 from rfl,show (lit "payload").length = 7 from rfl] at one two three four five ⊢
  omega

end Sizes

section Members
variable {frame : Envelope} {payload : Bytes}

theorem Envelope.marshal_written (frame : Envelope) :
    frame.marshal = (writtenPayload frame.payload).map (fun payload => encodeObject (frame.written payload)) := by
  rw [Envelope.marshal_eq]
  unfold payloadMembers writtenPayload
  split
  · rfl
  · cases compacted : compact frame.payload with
    | none => rfl
    | some text =>
      obtain ⟨node,reads⟩ := (compact_compacted _ _ compacted).reads
      obtain ⟨c,tail,rfl,_⟩ := reads.head
      rfl

private theorem header_members {entry : Bytes × Bytes} (member : entry ∈ frame.header) (depth : Nat) :
    Passes entry.1 ∧ unquote entry.1 = some entry.1 ∧ ∃ node, Plain node ∧ Reads depth entry.2 node := by
  have plain {text number : Bytes} (reads : Reads depth text (.num number)) : ∃ node, Plain node ∧ Reads depth text node := by
    cases viewAt_shaped depth text _ reads.viewAt with
    | plain _ plain => exact ⟨_,plain,reads⟩
  have texts (value : Bytes) : ∃ node, Plain node ∧ Reads depth (quote value) node :=
    ⟨_,.str _ (passes_quoteChars value),reads_quote depth value⟩
  simp only [Envelope.header,List.mem_append,List.mem_cons,List.not_mem_nil,or_false] at member
  rcases member with (((((rfl | rfl) | member) | member) | member) | member)
  · exact ⟨rfl,rfl,plain (reads_decimal depth _)⟩
  · exact ⟨rfl,rfl,texts _⟩
  · cases optional_member member
    exact ⟨rfl,rfl,texts _⟩
  · cases optional_member member
    exact ⟨rfl,rfl,texts _⟩
  · cases optional_member member
    exact ⟨rfl,rfl,plain (reads_decimal depth _)⟩
  · cases optional_member member
    exact ⟨rfl,rfl,plain (reads_decimalInt depth _)⟩

private theorem written_distinct (frame : Envelope) (payload : Bytes) :
    ((frame.written payload).map Prod.fst).Nodup := by
  have names : ((frame.written payload).map Prod.fst).Sublist
      ([lit "v",lit "type"]++[lit "id"]++[lit "session_id"]++[lit "seq"]++[lit "timestamp"]++[lit "payload"]) := by
    simp only [Envelope.written,Envelope.header,List.map_append]
    repeat refine List.Sublist.append ?_ (optional_names _ _ _)
    exact List.Sublist.refl _
  exact names.nodup (by decide)

private theorem written_members {entry : Bytes × Bytes} (member : entry ∈ frame.written payload) (depth : Nat)
    (shallow : payload ≠ [] → ∃ node, Reads depth payload node) :
    Passes entry.1 ∧ unquote entry.1 = some entry.1 ∧ ∃ node, Reads depth entry.2 node := by
  rcases List.mem_append.mp member with member | member
  · obtain ⟨passes,plain,node,_,reads⟩ := header_members member depth
    exact ⟨passes,plain,node,reads⟩
  · unfold optional at member
    split at member
    · rename_i present
      cases List.mem_singleton.mp member
      exact ⟨rfl,rfl,shallow (by simpa using present)⟩
    · cases member

theorem written_reads (frame : Envelope) (payload : Bytes) (depth : Nat)
    (shallow : payload ≠ [] → ∃ node, Reads depth payload node) :
    Reads (depth+1) (encodeObject (frame.written payload)) (.obj (frame.written payload)) :=
  reads_object depth _ (fun _ member => (written_members member depth shallow).1)
    (fun _ member => (written_members member depth shallow).2.2)

private theorem written_walkable (frame : Envelope) (payload : Bytes)
    (shallow : payload ≠ [] → ∃ node, Reads maxNestingDepth payload node) :
    Walkable envelopeOpaqueFields (encodeObject (frame.written payload)) := by
  refine .object _ id (fun entry member => ?_) ?_ (fun entry member => ?_) (fun entry member transparent => ?_)
  · obtain ⟨passes,plain,_⟩ := written_members member maxNestingDepth shallow
    exact ⟨passes,plain⟩
  · exact written_distinct frame payload
  · exact (written_members member maxNestingDepth shallow).2.2
  · rcases List.mem_append.mp member with member | member
    · obtain ⟨_,_,node,plain,reads⟩ := header_members member maxNestingDepth
      exact .scalar _ node plain reads
    · cases optional_member member
      exact absurd (by simp [envelopeOpaqueFields]) transparent

/-- An encoded envelope is read back with the payload it was written with. -/
theorem readEnvelope_written (payload : Bytes) (strict : Bool) (id : validString frame.id = true)
    (session : validString frame.sessionID = true) (type : validString frame.type.name = true) :
    (frame.written payload).foldlM (readMember envelopeFields strict) zeroEnvelope = some {frame with payload := payload} := by
  obtain ⟨v,kind,id',sessionID,seq,timestamp,_⟩ := frame
  simp only [Envelope.written,Envelope.header,List.append_assoc,List.cons_append,List.nil_append] at *
  rw [readMembers_cons _ (by decide) rfl (by simp only [field,readUInt16_decimal,Option.map_some]; rfl),
    readMembers_cons _ (by decide) rfl
      (by simp only [field,readText_quote,toValid_of_valid _ type,Option.map_some,FrameType.ofName_name]; rfl),
    readMembers_optional {zeroEnvelope with v := v, type := kind, id := id'} (by decide) rfl
      (fun _ => by simp only [field,readText_quote,toValid_of_valid _ id,Option.map_some])
      (fun empty => by rw [show id' = [] by simpa using empty]; rfl),
    readMembers_optional {zeroEnvelope with v := v, type := kind, id := id', sessionID := sessionID} (by decide) rfl
      (fun _ => by simp only [field,readText_quote,toValid_of_valid _ session,Option.map_some])
      (fun empty => by rw [show sessionID = [] by simpa using empty]; rfl),
    readMembers_optional {zeroEnvelope with v := v, type := kind, id := id', sessionID := sessionID, seq := seq}
      (by decide) rfl (fun _ => by simp only [field,readUInt64_decimal,Option.map_some])
      (fun empty => by rw [show seq = 0 by simpa using empty]; rfl),
    readMembers_optional
      {zeroEnvelope with v := v, type := kind, id := id', sessionID := sessionID, seq := seq, timestamp := timestamp}
      (by decide) rfl (fun _ => by simp only [field,readInt64_decimalInt,Option.map_some])
      (fun empty => by rw [show timestamp = 0 by simpa using empty]; rfl)]
  unfold optional
  split
  · exact readMembers_cons _ (by decide) rfl rfl
  · rename_i empty
    rw [show payload = [] by simpa using empty]
    rfl

end Members

/-- An envelope around a compact payload of bounded size is valid when its identifiers are. -/
theorem validateEnvelope_settled {frame : Envelope} (version : frame.v = wireVersionV2)
    (kind : frame.type.name.isEmpty = false) (type : frame.type.name.length ≤ 14) (id : frame.id.length ≤ 128)
    (session : frame.sessionID.length ≤ 128) (size : frame.payload.length ≤ 786432)
    (settled : compact frame.payload = some frame.payload) :
    validateEnvelope frame defaultLimits = .ok () ↔ validBoundedProtocolString frame.id 128 true = true ∧
      validBoundedProtocolString frame.sessionID 128 true = true := by
  have nonempty : frame.payload.isEmpty = false := by
    obtain ⟨_,reads⟩ := (compact_compacted _ _ settled).reads
    obtain ⟨c,tail,form,_⟩ := reads.head
    rw [form]
    rfl
  have encoded : frame.marshal = some (encodeObject (frame.written frame.payload)) := by
    rw [Envelope.marshal_written,writtenPayload,nonempty,if_neg Bool.false_ne_true,settled]
    rfl
  have whole := written_length frame frame.payload id session type
  have first : ¬(frame.payload.length : Int) > defaultLimits.maxPayloadSize := by
    change ¬(frame.payload.length : Int) > 786432
    omega
  have second : ¬((encodeObject (frame.written frame.payload)).length : Int) > defaultLimits.maxFrameSize := by
    change ¬_ > (1048576 : Int)
    omega
  have limits : normalizeLimits defaultLimits = defaultLimits := rfl
  have positive : validateLimits defaultLimits = .ok () := rfl
  unfold validateEnvelope
  simp only [limits,positive,version,ne_eq,not_true_eq_false,if_false,encoded,reject,kind,Bool.false_eq_true,first,second,
    bind,Except.bind]
  change _ ↔ validBoundedProtocolString frame.id defaultLimits.maxIDLength true = true ∧
    validBoundedProtocolString frame.sessionID defaultLimits.maxSessionIDLength true = true
  cases validBoundedProtocolString frame.id defaultLimits.maxIDLength true <;>
    cases validBoundedProtocolString frame.sessionID defaultLimits.maxSessionIDLength true <;> simp [fail]

theorem validateFrame_written {e : Envelope} {limits : Limits} {strict : Bool}
    (valid : validateFrame e limits strict = .ok ()) :
    validString e.id = true ∧ validString e.sessionID = true ∧
      ∃ payload, writtenPayload e.payload = some payload ∧ e.marshal = some (encodeObject (e.written payload)) ∧
        ((encodeObject (e.written payload)).length : Int) ≤ (normalizeLimits limits).maxFrameSize := by
  obtain ⟨id,session,_,text,encoded,size⟩ := validateFrame_bounded valid
  refine ⟨(validBoundedProtocolString_parts id).1,(validBoundedProtocolString_parts session).1,?_⟩
  rw [Envelope.marshal_written] at encoded ⊢
  obtain ⟨payload,written,rfl⟩ := Option.map_eq_some_iff.mp encoded
  exact ⟨payload,written,by rw [written]; rfl,size⟩

namespace JSONCodec
variable {codec : JSONCodec} {frame : Envelope} {payload data : Bytes}

theorem decode_parts (decoded : codec.decode data = .ok frame) :
    (codec.strict = true → rejectDuplicateJSONFields data envelopeOpaqueFields = .ok ()) ∧
      (∃ value dec, Decoder.decode {input := data} = .ok (value,dec) ∧ readEnvelope codec.strict zeroEnvelope value = some frame) ∧
      validateFrame frame codec.limits codec.strict = .ok () := by
  unfold decode at decoded
  obtain ⟨_,decoded⟩ := reject_bind_ok decoded
  obtain ⟨_,decoded⟩ := reject_bind_ok decoded
  obtain ⟨_,unique,decoded⟩ := bind_ok decoded
  split at decoded
  · cases decoded
  rename_i value dec found
  split at decoded
  · cases decoded
  rename_i read got
  split at decoded
  · cases decoded
  obtain ⟨_,valid,same⟩ := bind_ok decoded
  cases same
  refine ⟨fun strict => ?_,⟨value,dec,found,got⟩,by simpa [validateFrame] using valid⟩
  rwa [if_pos strict] at unique

/-- What a decoder makes of an encoded frame that nests no deeper than it allows. -/
theorem decode_written (id : validString frame.id = true) (session : validString frame.sessionID = true)
    (type : validString frame.type.name = true)
    (size : ((encodeObject (frame.written payload)).length : Int) ≤ (normalizeLimits codec.limits).maxFrameSize)
    (shallow : payload ≠ [] → ∃ node, Reads 9999 payload node)
    (valid : validateFrame {frame with payload := payload} codec.limits codec.strict = .ok ()) :
    codec.decode (encodeObject (frame.written payload)) = .ok {frame with payload := payload} := by
  have reads := written_reads frame payload 9999 shallow
  have walk := rejectDuplicateJSONFields_walkable _ _ (written_walkable frame payload (fun present => by
    obtain ⟨node,reads⟩ := shallow present
    exact ⟨node,reads.mono 1⟩))
  have value := Decoder.decode_reads {input := encodeObject (frame.written payload)} _ [] _ reads delimited_nil (by simp) rfl
  have read : readEnvelope codec.strict zeroEnvelope (encodeObject (frame.written payload)) =
      some {frame with payload := payload} := by
    rw [readEnvelope,readStruct,reads.view (by decide)]
    exact readEnvelope_written payload codec.strict id session type
  have valid : validateFrame {frame with payload := payload} (normalizeLimits codec.limits) codec.strict = .ok () := by
    simpa [validateFrame] using valid
  have nonempty : (encodeObject (frame.written payload)).isEmpty = false := rfl
  simp only [decode,nonempty,reject,Bool.false_eq_true,if_false,if_neg (not_lt.mpr size),walk,ite_self,value,read,
    TokenState.valueEnd,ensureJSONEOF_nil [] .topValue rfl,valid,bind,Except.bind,pure,Except.pure]

/-- A frame that is decoded from an encoded one is that frame, and the envelope did not nest it too deep. -/
theorem decode_inverts {wire : Envelope} (id : validString frame.id = true) (session : validString frame.sessionID = true)
    (type : validString frame.type.name = true) (form : payload ≠ [] → ∃ node, Reads maxNestingDepth payload node)
    (decoded : codec.decode (encodeObject (frame.written payload)) = .ok wire) :
    wire = {frame with payload := payload} ∧ (payload ≠ [] → ∃ node, Reads 9999 payload node) ∧
      validateFrame wire codec.limits codec.strict = .ok () := by
  obtain ⟨_,⟨value,dec,found,got⟩,valid⟩ := decode_parts decoded
  obtain ⟨rfl,within⟩ := Decoder.decode_whole (written_reads frame payload maxNestingDepth form) found
  rw [readEnvelope,readStruct,within.view (le_refl _)] at got
  have read' := readEnvelope_written payload codec.strict id session type
  refine ⟨Option.some.inj (got.symm.trans read'),fun present => ?_,valid⟩
  have alone := within [] delimited_nil
  cases parseValue_children alone with
  | plain plain => cases plain
  | obj _ _ each =>
    refine each (lit "payload",payload) (List.mem_append_right _ ?_)
    simp [optional,present]

end JSONCodec

end Kmtproto
