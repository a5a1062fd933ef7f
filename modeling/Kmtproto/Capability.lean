import Mathlib
import Kmtproto.Types

/-! Capability names, offers and negotiation. A Session's capability set carries
the canonical name order that every accepted list has. -/
namespace Kmtproto
open Json

structure CapabilityOffer where
  name : Bytes := []
  versions : List UInt16 := []
  required : Bool := false
  deriving DecidableEq, Repr

structure NegotiatedCapability where
  name : Bytes := []
  version : UInt16 := 0
  deriving DecidableEq, Repr

structure SessionCapabilities where
  selections : List NegotiatedCapability
  ordered : selections.Pairwise (fun a b => a.name < b.name)
  deriving DecidableEq, Repr

def SessionCapabilities.empty : SessionCapabilities := ⟨[],.nil⟩

def SessionCapabilities.version (capabilities : SessionCapabilities) (name : Bytes) : Option UInt16 :=
  (capabilities.selections.find? (fun capability => capability.name == name)).map (·.version)

def isLowerLetter (ch : UInt8) : Bool := 0x61 ≤ ch && ch ≤ 0x7A

def isSeparator (ch : UInt8) : Bool := ch == 0x2E || ch == 0x2D

/-- The characters of a dotted or dashed name after its first letter; the flag says
that the previous character was a separator. -/
def wellSeparated : Bool → Bytes → Bool
  | separator, [] => !separator
  | separator, ch::rest =>
    if isLowerLetter ch || isDigit ch then wellSeparated false rest
    else if isSeparator ch then !separator && wellSeparated true rest
    else false

/-- The last of the parts `strings.FieldsFunc` cuts a well-separated name into. -/
def lastSegment (name : Bytes) : Bytes := (name.reverse.takeWhile (fun ch => !isSeparator ch)).reverse

def allASCIIDigits (value : Bytes) : Bool := !value.isEmpty && value.all isDigit

def validateCapabilityName (name : Bytes) (limits : Limits) : Except Err Unit :=
  if name.isEmpty || (name.length : Int) > limits.maxCapabilityNameLength || !validString name then
    fail .invalidCapability (lit "invalid or oversized capability name")
  else if !(name.head?.any isLowerLetter && wellSeparated false name.tail) then
    fail .invalidCapability (lit "invalid capability name: " ++ name)
  else
    match lastSegment name with
    | 0x76::digits =>
      if allASCIIDigits digits then
        fail .invalidCapability (lit "capability version must use the numeric version field")
      else .ok ()
    | _ => .ok ()

def checkVersions : Option UInt16 → List UInt16 → Except Err Unit
  | _, [] => .ok ()
  | previous, version::versions =>
    if version = 0 then fail .invalidCapability (lit "capability version must be positive")
    else if previous = some version then fail .invalidCapability (lit "duplicate capability version")
    else checkVersions (some version) versions

def validateAndSortCapabilityVersions (versions : List UInt16) (limits : Limits) : Except Err (List UInt16) :=
  if versions.isEmpty || (versions.length : Int) > limits.maxCapabilityVersions then
    fail .invalidCapability (lit "capability requires a bounded non-empty version list")
  else do
    let result := versions.insertionSort (· ≤ ·)
    checkVersions none result
    return result

/-- `fmt.Errorf("kmtproto: capability %s: %w", name, err)`. -/
def capabilityError {α : Type} (name : Bytes) : Except Err α → Except Err α
  | .ok value => .ok value
  | .error error => .error (.wrap (lit "kmtproto: capability " ++ name) error)

def copyOffers (limits : Limits) : List Bytes → List CapabilityOffer → Except Err (List CapabilityOffer)
  | _, [] => .ok []
  | seen, offer::offers => do
    validateCapabilityName offer.name limits
    reject (offer.name ∈ seen) .invalidCapability (lit "duplicate capability offer: " ++ offer.name)
    let versions ← capabilityError offer.name (validateAndSortCapabilityVersions offer.versions limits)
    let others ← copyOffers limits (offer.name::seen) offers
    return {name := offer.name, versions := versions, required := offer.required}::others

def validateAndCopyCapabilityOffers (offers : List CapabilityOffer) (limits : Limits) :
    Except Err (List CapabilityOffer) :=
  let limits := normalizeLimits limits
  if (offers.length : Int) > limits.maxCapabilities then
    fail .invalidCapability (lit "too many capability offers")
  else copyOffers limits [] offers

def checkNegotiated (limits : Limits) : Option Bytes → List Bytes → List NegotiatedCapability → Except Err Unit
  | _, _, [] => .ok ()
  | previous, seen, capability::capabilities => do
    validateCapabilityName capability.name limits
    reject (capability.version = 0) .invalidCapability (lit "capability version must be positive")
    reject (capability.name ∈ seen) .invalidCapability
      (lit "duplicate negotiated capability: " ++ capability.name)
    reject (previous.any (fun last => capability.name ≤ last)) .invalidCapability
      (lit "negotiated capabilities must use canonical name order")
    checkNegotiated limits (some capability.name) (capability.name::seen) capabilities

def validateNegotiatedCapabilities (capabilities : List NegotiatedCapability) (limits : Limits) : Except Err Unit :=
  let limits := normalizeLimits limits
  if (capabilities.length : Int) > limits.maxCapabilities then
    fail .invalidCapability (lit "too many negotiated capabilities")
  else checkNegotiated limits none [] capabilities

private theorem checkNegotiated_ordered (limits : Limits) (previous : Option Bytes) (seen : List Bytes)
    (capabilities : List NegotiatedCapability) (ok : checkNegotiated limits previous seen capabilities = .ok ()) :
    capabilities.Pairwise (fun a b => a.name < b.name) ∧
      ∀ last ∈ previous, ∀ capability ∈ capabilities, last < capability.name := by
  induction capabilities generalizing previous seen with
  | nil => exact ⟨.nil,by simp⟩
  | cons capability capabilities ih =>
    rw [checkNegotiated] at ok
    obtain ⟨_,_,ok⟩ := bind_ok ok
    obtain ⟨_,ok⟩ := reject_bind_ok ok
    obtain ⟨_,ok⟩ := reject_bind_ok ok
    obtain ⟨order,ok⟩ := reject_bind_ok ok
    obtain ⟨later,after⟩ := ih (some capability.name) _ ok
    have head (last : Bytes) (found : last ∈ previous) : last < capability.name := by
      cases found
      simpa [List.not_le] using order
    refine ⟨List.pairwise_cons.mpr ⟨after capability.name rfl,later⟩,?_⟩
    intro last found other member
    rcases List.mem_cons.mp member with rfl | member
    · exact head last found
    · exact List.lt_trans (head last found) (after capability.name rfl other member)

theorem validateNegotiatedCapabilities_ordered (capabilities : List NegotiatedCapability) (limits : Limits)
    (ok : validateNegotiatedCapabilities capabilities limits = .ok ()) :
    capabilities.Pairwise (fun a b => a.name < b.name) := by
  unfold validateNegotiatedCapabilities at ok
  simp only [] at ok
  split at ok
  · cases ok
  · exact (checkNegotiated_ordered _ _ _ _ ok).1

def newSessionCapabilities (capabilities : List NegotiatedCapability) (limits : Limits) :
    Except Err SessionCapabilities :=
  match ok : validateNegotiatedCapabilities capabilities limits with
  | .error error => .error error
  | .ok () => .ok ⟨capabilities,validateNegotiatedCapabilities_ordered capabilities limits ok⟩

/-- `highestCommonCapabilityVersion` on descending lists; the fuel bounds the comparisons. -/
def highestCommonFrom : Nat → List UInt16 → List UInt16 → Option UInt16
  | 0, _, _ => none
  | fuel+1, client::clients, server::servers =>
    if client = server then some client
    else if client > server then highestCommonFrom fuel clients (server::servers)
    else highestCommonFrom fuel (client::clients) servers
  | _+1, _, _ => none

def highestCommonCapabilityVersion (client server : List UInt16) : Option UInt16 :=
  highestCommonFrom (client.length+server.length) client.reverse server.reverse

/-- The bisection loop of `sort.Search` on the indices from `i` to `j`; the fuel bounds its rounds. -/
def searchFrom (holds : Nat → Bool) : Nat → Nat → Nat → Nat
  | 0, i, _ => i
  | fuel+1, i, j =>
    if i < j then
      let middle := (i+j)/2
      if !holds middle then searchFrom holds fuel (middle+1) j else searchFrom holds fuel i middle
    else i

def sortSearch (n : Nat) (holds : Nat → Bool) : Nat := searchFrom holds n 0 n

def containsCapabilityVersion (versions : List UInt16) (target : UInt16) : Bool :=
  let i := sortSearch versions.length (fun i => versions[i]?.any (fun version => target ≤ version))
  versions[i]? == some target

structure CapabilitySpec where
  name : Bytes
  versions : List UInt16
  deriving DecidableEq, Repr

abbrev CapabilityRegistry := AList (fun _ : Bytes => List UInt16)

def registerSpecs (limits : Limits) : CapabilityRegistry → List CapabilitySpec → Except Err CapabilityRegistry
  | registry, [] => .ok registry
  | registry, spec::specs => do
    validateCapabilityName spec.name limits
    reject (registry.lookup spec.name).isSome .invalidCapability
      (lit "duplicate capability specification: " ++ spec.name)
    let versions ← capabilityError spec.name (validateAndSortCapabilityVersions spec.versions limits)
    registerSpecs limits (registry.insert spec.name versions) specs

def newCapabilityRegistry (specs : List CapabilitySpec) (limits : Limits) : Except Err CapabilityRegistry := do
  let limits := normalizeLimits limits
  validateLimits limits
  reject ((specs.length : Int) > limits.maxCapabilities) .invalidCapability
    (lit "too many capability specifications")
  registerSpecs limits ∅ specs

def acceptOffers (registry : CapabilityRegistry) : List CapabilityOffer → Except Err (List NegotiatedCapability)
  | [] => .ok []
  | offer::offers =>
    match highestCommonCapabilityVersion offer.versions ((registry.lookup offer.name).getD []) with
    | none =>
      if offer.required then
        fail .unsupportedFeature (lit "required capability is unsupported: " ++ offer.name)
      else acceptOffers registry offers
    | some version => do
      let others ← acceptOffers registry offers
      return {name := offer.name, version := version}::others

def CapabilityRegistry.negotiate (registry : CapabilityRegistry) (offers : List CapabilityOffer) (limits : Limits) :
    Except Err SessionCapabilities := do
  let limits := normalizeLimits limits
  let validated ← validateAndCopyCapabilityOffers offers limits
  let accepted ← acceptOffers registry validated
  newSessionCapabilities (accepted.insertionSort (fun a b => a.name ≤ b.name)) limits

def checkAccepted (offers : List CapabilityOffer) : List NegotiatedCapability → Except Err Unit
  | [] => .ok ()
  | capability::capabilities =>
    match offers.find? (fun offer => offer.name == capability.name) with
    | none => fail .protocolViolation (lit "server accepted an unoffered capability version")
    | some offer =>
      if !containsCapabilityVersion offer.versions capability.version then
        fail .protocolViolation (lit "server accepted an unoffered capability version")
      else checkAccepted offers capabilities

def checkRequired (accepted : List NegotiatedCapability) : List CapabilityOffer → Except Err Unit
  | [] => .ok ()
  | offer::offers =>
    if offer.required && !accepted.any (fun capability => capability.name == offer.name) then
      fail .protocolViolation (lit "server omitted a required capability: " ++ offer.name)
    else checkRequired accepted offers

def validateNegotiatedAgainstOffers (offers : List CapabilityOffer) (accepted : List NegotiatedCapability)
    (limits : Limits) : Except Err Unit := do
  let validated ← validateAndCopyCapabilityOffers offers limits
  validateNegotiatedCapabilities accepted limits
  checkAccepted validated accepted
  checkRequired accepted validated

def capabilityStateSync : Bytes := lit "state-sync"

def capabilityStateSyncVersion : UInt16 := 1

def stateSyncEnabled (capabilities : SessionCapabilities) : Bool :=
  capabilities.version capabilityStateSync == some capabilityStateSyncVersion

def validateImplementedCapabilityOffers : List CapabilityOffer → Except Err Unit
  | [] => .ok ()
  | offer::offers =>
    if offer.name = capabilityStateSync ∧ offer.versions ≠ [capabilityStateSyncVersion] then
      fail .invalidCapability (lit "state-sync must use its implemented numeric version")
    else validateImplementedCapabilityOffers offers

def checkSpecs (limits : Limits) : List (Bytes × List UInt16) → Except Err Unit
  | [] => .ok ()
  | (name,versions)::specs => do
    validateCapabilityName name limits
    reject (versions.isEmpty ∨ (versions.length : Int) > limits.maxCapabilityVersions) .invalidCapability
      (lit "capability registry version list exceeds configured limits")
    checkSpecs limits specs

def CapabilityRegistry.validate (registry : CapabilityRegistry) (limits : Limits) : Except Err Unit := do
  let limits := normalizeLimits limits
  reject ((registry.entries.length : Int) > limits.maxCapabilities) .invalidCapability
    (lit "capability registry exceeds configured limits")
  checkSpecs limits (registry.entries.map (fun entry => (entry.1,entry.2)))

def validateImplementedCapabilityRegistry (registry : CapabilityRegistry) : Except Err Unit :=
  match registry.lookup capabilityStateSync with
  | none => .ok ()
  | some versions => reject (versions ≠ [capabilityStateSyncVersion]) .invalidCapability
      (lit "state-sync must use its implemented numeric version")

end Kmtproto
