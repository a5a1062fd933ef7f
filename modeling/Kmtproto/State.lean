import Kmtproto.Capability
import Kmtproto.Codec

/-! State Objects: their identity, validation, equality of their JSON data, the
monotonic merge of a complete replacement, and the bounded snapshot payload. -/
namespace Kmtproto
open Json

structure StateObject where
  namespace_ : Bytes := []
  objectID : Bytes := []
  version : UInt64 := 0
  data : Bytes := []
  deriving DecidableEq, Repr

def sortStrings (values : List Bytes) : List Bytes := values.insertionSort (· ≤ ·)

structure StateIdentity where
  namespace_ : Bytes
  objectID : Bytes
  deriving DecidableEq, Repr

def StateObject.identity (object : StateObject) : StateIdentity := ⟨object.namespace_,object.objectID⟩

/-- `unicode.IsControl` on one rune. -/
def isControl : Bytes → Bool
  | [b] => b < 0x20 || b == 0x7F
  | [a,b] => a == 0xC2 && b < 0xA0
  | _ => false

def hasControl (value : Bytes) : Bool := (runes value).any isControl

/-- A raw message as the marshaler writes it: compact, a nil message as null. -/
def marshalRaw (raw : Bytes) : Option Bytes := if raw.isEmpty then some nullText else compact raw

/-- `json.Marshal` of a State Object. -/
def StateObject.marshal (object : StateObject) : Option Bytes := do
  let data ← marshalRaw object.data
  some (encodeObject [(lit "namespace",quote object.namespace_),(lit "object_id",quote object.objectID),
    (lit "version",decimal object.version.toNat),(lit "data",data)])

def validateStateNamespace (namespace_ : Bytes) (maxLength : Int) : Except Err Unit :=
  if namespace_.isEmpty || (namespace_.length : Int) > maxLength || !validString namespace_ then
    fail .badRequest (lit "invalid or oversized state namespace")
  else if !(namespace_.head?.any isLowerLetter && wellSeparated false namespace_.tail) then
    fail .badRequest (lit "invalid state namespace: " ++ namespace_)
  else .ok ()

def validateStateIdentity (namespace_ objectID : Bytes) (limits : Limits) : Except Err Unit := do
  let limits := normalizeLimits limits
  validateStateNamespace namespace_ limits.maxStateNamespaceLength
  reject (objectID.isEmpty || (objectID.length : Int) > limits.maxStateObjectIDLength || !validString objectID)
    .badRequest (lit "invalid or oversized state object_id")
  reject (hasControl objectID) .badRequest (lit "state object_id must not contain control characters")

def validateStateObject (object : StateObject) (limits : Limits) : Except Err Unit := do
  let limits := normalizeLimits limits
  validateStateIdentity object.namespace_ object.objectID limits
  reject (object.version = 0 ∨ object.version = 0xFFFFFFFFFFFFFFFF) .invalidStateVersion
    (lit "state version must be positive and non-exhausted")
  reject (object.data.isEmpty || !valid object.data) .badRequest
    (lit "state data must contain one valid JSON value")
  reject ((object.data.length : Int) > limits.maxStateDataSize) .badRequest
    (lit "state data exceeds maximum size")
  match object.marshal with
  | none => fail .badRequest (lit "state object cannot be encoded: invalid character")
  | some encoded =>
    reject ((encoded.length : Int) > limits.maxStateObjectSize ∨ (encoded.length : Int) > limits.maxPayloadSize)
      .badRequest (lit "state object exceeds maximum size")

structure NormalizedStateJSONNumber where
  negative : Bool := false
  coefficient : Bytes
  exponent : Int
  deriving DecidableEq, Repr

/-- `big.Int.SetString` with base ten: digits with an optional sign. -/
def parseSigned : Bytes → Option Int
  | 0x2D::digits => (parseDecimal digits).map (fun n => -(n : Int))
  | 0x2B::digits => (parseDecimal digits).map (fun n => (n : Int))
  | digits => (parseDecimal digits).map (fun n => (n : Int))

def isExponentMark (c : UInt8) : Bool := c == 0x65 || c == 0x45

/-- A literal's coefficient without redundant zeros and its decimal exponent. -/
def normalizeStateJSONNumber (number : Bytes) : Option NormalizedStateJSONNumber := do
  let negative := number.head? == some 0x2D
  let text := if negative then number.drop 1 else number
  let exponentText := if text.any isExponentMark then (text.dropWhile (fun c => !isExponentMark c)).drop 1 else lit "0"
  let text := text.takeWhile (fun c => !isExponentMark c)
  let exponent ← parseSigned exponentText
  let fraction := (text.dropWhile (fun c => c != 0x2E)).drop 1
  let digits := (text.filter (fun c => c != 0x2E)).dropWhile (fun c => c == 0x30)
  if digits.isEmpty then some {coefficient := lit "0", exponent := 0}
  else
    let trailing := (digits.reverse.takeWhile (fun c => c == 0x30)).length
    some {negative := negative, coefficient := digits.take (digits.length-trailing),
          exponent := exponent - fraction.length + trailing}

mutual
/-- `equalStateJSONValue`: objects as maps, numbers by value. -/
def equalStateJSONValue : Value → Value → Bool
  | .null, .null => true
  | .bool left, .bool right => left == right
  | .text left, .text right => left == right
  | .number left, .number right =>
    match normalizeStateJSONNumber left, normalizeStateJSONNumber right with
    | some leftNumber, some rightNumber => leftNumber == rightNumber
    | _, _ => false
  | .array left, .array right => equalItems left right
  | .object left, .object right => left.length == right.length && equalMembers left right
  | _, _ => false

def equalItems : List Value → List Value → Bool
  | [], [] => true
  | left::lefts, right::rights => equalStateJSONValue left right && equalItems lefts rights
  | _, _ => false

def equalMembers : List (Bytes × Value) → List (Bytes × Value) → Bool
  | [], _ => true
  | (key,value)::members, right =>
    match right.find? (fun entry => entry.1 == key) with
    | none => false
    | some entry => equalStateJSONValue value entry.2 && equalMembers members right
end

def decodeStateData (data : Bytes) : Except Err Value :=
  match decodeValue data with
  | none => fail .badRequest (lit "invalid state data: invalid character")
  | some value => .ok value

def equalStateData (left right : Bytes) : Except Err Bool := do
  let leftValue ← decodeStateData left
  let rightValue ← decodeStateData right
  return equalStateJSONValue leftValue rightValue

inductive StateApplyResult where
  | applied
  | duplicate
  | stale
  | conflict
  deriving DecidableEq, Repr

/-- The monotonic merge of one complete replacement; an error leaves the current object. -/
def applyStateObject (current : Option StateObject) (incoming : StateObject) (limits : Limits) :
    Except Err (StateObject × StateApplyResult) := do
  validateStateObject incoming limits
  match current with
  | none => return (incoming,.applied)
  | some current =>
    validateStateObject current limits
    if current.identity ≠ incoming.identity then .error (.sentinel .stateIdentityMismatch)
    else if incoming.version > current.version then return (incoming,.applied)
    else if incoming.version < current.version then .error (.sentinel .stateStale)
    else do
      let equal ← equalStateData current.data incoming.data
      if equal then return (current,.duplicate) else .error (.sentinel .stateConflict)

structure StateSnapshotLimits where
  maxObjects : Int
  maxBytes : Int
  deriving DecidableEq, Repr

structure StateSnapshotAccumulator where
  protocolLimits : Limits
  snapshotLimits : StateSnapshotLimits
  states : List StateObject
  encodedBytes : Int
  deriving DecidableEq, Repr

/-- `{"states":[]}`, the payload before the first object. -/
def emptySnapshot : Bytes := encodeObject [(lit "states",encodeArray [])]

def newStateSnapshotAccumulator (protocolLimits : Limits) (snapshotLimits : StateSnapshotLimits) :
    Except Err StateSnapshotAccumulator :=
  if snapshotLimits.maxObjects ≤ 0 ∨ snapshotLimits.maxBytes ≤ 0 then
    .error (.sentinel .stateSnapshotLimitExceeded)
  else if (emptySnapshot.length : Int) > snapshotLimits.maxBytes then
    .error (.sentinel .stateSnapshotLimitExceeded)
  else .ok ⟨normalizeLimits protocolLimits,snapshotLimits,[],emptySnapshot.length⟩

def StateSnapshotAccumulator.add (accumulator : StateSnapshotAccumulator) (object : StateObject) :
    Except Err StateSnapshotAccumulator :=
  if (accumulator.states.length : Int) ≥ accumulator.snapshotLimits.maxObjects then
    .error (.sentinel .stateSnapshotLimitExceeded)
  else do
    validateStateObject object accumulator.protocolLimits
    match object.marshal with
    | none => fail .badRequest (lit "state object cannot be encoded: invalid character")
    | some encoded =>
      let additional : Int := if accumulator.states.isEmpty then encoded.length else encoded.length+1
      if additional > accumulator.snapshotLimits.maxBytes-accumulator.encodedBytes then
        .error (.sentinel .stateSnapshotLimitExceeded)
      else .ok {accumulator with
        encodedBytes := accumulator.encodedBytes+additional, states := accumulator.states++[object]}

/-- `json.Marshal` of a snapshot payload. -/
def marshalSnapshot (states : List StateObject) : Option Bytes := do
  let texts ← states.mapM StateObject.marshal
  some (encodeObject [(lit "states",encodeArray texts)])

def StateSnapshotAccumulator.payload (accumulator : StateSnapshotAccumulator) : Except Err Bytes :=
  match marshalSnapshot accumulator.states with
  | none => fail .badRequest (lit "State snapshot cannot be encoded: invalid character")
  | some payload =>
    if (payload.length : Int) > accumulator.snapshotLimits.maxBytes then
      .error (.sentinel .stateSnapshotLimitExceeded)
    else .ok payload

example : equalStateData (lit "\x7b\"a\":1.50e1,\"b\":[true]\x7d") (lit "\x7b\"b\":[true],\"a\":15\x7d") = .ok true := by
  decide +kernel

end Kmtproto
