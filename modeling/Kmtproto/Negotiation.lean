import Kmtproto.Capability

/-! Capability negotiation. The server selects the largest common version of every
offered name, fails only on a required offer without one, and what it selects is
what the client's checks accept, in whatever order either side listed things. -/
namespace Kmtproto
open Json

section Search
variable {holds : Nat → Bool} {n : Nat}

/-- The bisection keeps every index below `i` failing and every index from `j` on holding. -/
private theorem searchFrom_spec (monotone : ∀ a b, a ≤ b → b < n → holds a = true → holds b = true) (fuel i j : Nat)
    (order : i ≤ j) (bound : j ≤ n) (rounds : j ≤ i+fuel) (below : ∀ k, k < i → holds k = false)
    (above : ∀ k, j ≤ k → k < n → holds k = true) :
    (∀ k, k < searchFrom holds fuel i j → holds k = false) ∧
      ∀ k, searchFrom holds fuel i j ≤ k → k < n → holds k = true := by
  induction fuel generalizing i j with
  | zero =>
    obtain rfl : i = j := by omega
    exact ⟨below,above⟩
  | succ fuel ih =>
    unfold searchFrom
    split
    · rename_i allowed
      simp only []
      cases middle : holds ((i+j)/2) with
      | false =>
        refine ih ((i+j)/2+1) j (by omega) bound (by omega) (fun k early => ?_) above
        cases value : holds k with
        | false => rfl
        | true =>
          rw [monotone k ((i+j)/2) (by omega) (by omega) value] at middle
          cases middle
      | true =>
        refine ih i ((i+j)/2) (by omega) (by omega) (by omega) below (fun k late inside => ?_)
        exact monotone _ k late inside middle
    · obtain rfl : i = j := by omega
      exact ⟨below,above⟩

theorem sortSearch_spec (holds : Nat → Bool) (n : Nat)
    (monotone : ∀ a b, a ≤ b → b < n → holds a = true → holds b = true) :
    (∀ k, k < sortSearch n holds → holds k = false) ∧ ∀ k, sortSearch n holds ≤ k → k < n → holds k = true :=
  searchFrom_spec monotone n 0 n (Nat.zero_le n) (Nat.le_refl n) (by omega) (by simp) (fun k late inside => by omega)

end Search

section Versions
variable {limits : Limits} {versions sorted : List UInt16}

theorem containsCapabilityVersion_iff (ascending : versions.Pairwise (· < ·)) (target : UInt16) :
    containsCapabilityVersion versions target = true ↔ target ∈ versions := by
  have weak : ∀ a b (inside : b < versions.length) (order : a ≤ b), versions[a] ≤ versions[b] := by
    intro a b inside order
    rcases Nat.lt_or_eq_of_le order with early | rfl
    · exact UInt16.le_of_lt (List.pairwise_iff_getElem.mp ascending a b (by omega) inside early)
    · exact UInt16.le_refl _
  have monotone : ∀ a b, a ≤ b → b < versions.length →
      versions[a]?.any (fun version => target ≤ version) = true →
      versions[b]?.any (fun version => target ≤ version) = true := by
    intro a b order inside reached
    rw [List.getElem?_eq_getElem (by omega)] at reached
    rw [List.getElem?_eq_getElem inside]
    simp only [Option.any_some,decide_eq_true_eq] at reached ⊢
    exact UInt16.le_trans reached (weak a b inside order)
  obtain ⟨below,above⟩ := sortSearch_spec _ versions.length monotone
  unfold containsCapabilityVersion
  simp only [] at below above ⊢
  generalize sortSearch versions.length _ = i at below above ⊢
  constructor
  · intro found
    exact List.mem_of_getElem? (beq_iff_eq.mp found)
  · intro member
    obtain ⟨k,inside,placed⟩ := List.getElem_of_mem member
    have early : i ≤ k := by
      by_contra late
      have failed := below k (by omega)
      rw [List.getElem?_eq_getElem inside] at failed
      simp only [Option.any_some,decide_eq_false_iff_not] at failed
      exact failed (by rw [placed]; exact UInt16.le_refl _)
    have reached := above i (Nat.le_refl i) (by omega)
    rw [List.getElem?_eq_getElem (by omega)] at reached
    simp only [Option.any_some,decide_eq_true_eq] at reached
    have bounded := weak i k inside early
    rw [placed] at bounded
    rw [List.getElem?_eq_getElem (by omega),UInt16.le_antisymm bounded reached]
    exact beq_self_eq_true _

private theorem checkVersions_strict {previous : Option UInt16} (ascending : versions.Pairwise (· ≤ ·))
    (after : ∀ last ∈ previous, ∀ version ∈ versions, last ≤ version)
    (checked : checkVersions previous versions = .ok ()) :
    versions.Pairwise (· < ·) ∧ (∀ last ∈ previous, ∀ version ∈ versions, last < version) ∧
      ∀ version ∈ versions, version ≠ 0 := by
  induction versions generalizing previous with
  | nil => simp
  | cons version versions ih =>
    unfold checkVersions at checked
    split at checked
    · cases checked
    rename_i positive
    split at checked
    · cases checked
    rename_i fresh
    rw [List.pairwise_cons] at ascending
    obtain ⟨strict,later,others⟩ := ih ascending.2 (by simpa using ascending.1) checked
    have next : ∀ last ∈ previous, last < version := by
      intro last found
      have bounded := after last found version List.mem_cons_self
      exact UInt16.lt_of_le_of_ne bounded (fun same => fresh (by rw [← same]; exact found))
    refine ⟨List.pairwise_cons.mpr ⟨fun other member => later version rfl other member,strict⟩,?_,?_⟩
    · intro last found other member
      rcases List.mem_cons.mp member with rfl | member
      · exact next last found
      · exact UInt16.lt_trans (next last found) (later version rfl other member)
    · exact List.forall_mem_cons.mpr ⟨positive,others⟩

theorem validateAndSortCapabilityVersions_sorted
    (validated : validateAndSortCapabilityVersions versions limits = .ok sorted) :
    sorted.Perm versions ∧ sorted.Pairwise (· < ·) ∧ ∀ version ∈ sorted, version ≠ 0 := by
  unfold validateAndSortCapabilityVersions at validated
  split at validated
  · cases validated
  simp only [] at validated
  obtain ⟨_,checked,same⟩ := bind_ok validated
  cases same
  have total : Std.Total (α := UInt16) (· ≤ ·) := ⟨UInt16.le_total⟩
  have trans : IsTrans UInt16 (· ≤ ·) := ⟨fun _ _ _ => UInt16.le_trans⟩
  obtain ⟨strict,_,positive⟩ := checkVersions_strict (List.pairwise_insertionSort _ _) (by simp) checked
  exact ⟨List.perm_insertionSort _ _,strict,positive⟩

/-- The order of a version list does not matter. -/
theorem validateAndSortCapabilityVersions_perm {others : List UInt16} (same : versions.Perm others) :
    validateAndSortCapabilityVersions versions limits = validateAndSortCapabilityVersions others limits := by
  have total : Std.Total (α := UInt16) (· ≤ ·) := ⟨UInt16.le_total⟩
  have trans : IsTrans UInt16 (· ≤ ·) := ⟨fun _ _ _ => UInt16.le_trans⟩
  have antisymm : Std.Antisymm (α := UInt16) (· ≤ ·) := ⟨fun _ _ => UInt16.le_antisymm⟩
  have sorted : versions.insertionSort (· ≤ ·) = others.insertionSort (· ≤ ·) :=
    List.Perm.eq_of_pairwise' (List.pairwise_insertionSort _ _) (List.pairwise_insertionSort _ _)
      ((List.perm_insertionSort _ _).trans (same.trans (List.perm_insertionSort _ _).symm))
  have empty : versions.isEmpty = others.isEmpty := by
    rw [Bool.eq_iff_iff,List.isEmpty_iff_length_eq_zero,List.isEmpty_iff_length_eq_zero,same.length_eq]
  unfold validateAndSortCapabilityVersions
  rw [sorted,empty,same.length_eq]

/-- The version is in both lists and no larger one is. -/
def LargestCommon (client server : List UInt16) (version : UInt16) : Prop :=
  version ∈ client ∧ version ∈ server ∧ ∀ other ∈ client, other ∈ server → other ≤ version

private theorem above_absent {head : UInt16} {largest : UInt16} {tail : List UInt16} (above : head > largest)
    (descending : (largest::tail).Pairwise (· > ·)) : head ∉ largest::tail := by
  intro member
  rcases List.mem_cons.mp member with rfl | member
  · exact UInt16.lt_irrefl _ above
  · exact UInt16.lt_irrefl _ (UInt16.lt_trans above ((List.pairwise_cons.mp descending).1 head member))

/-- Two descending lists meet first at their largest common version. -/
private theorem highestCommonFrom_spec (fuel : Nat) (client server : List UInt16)
    (rounds : client.length+server.length ≤ fuel) (clients : client.Pairwise (· > ·)) (servers : server.Pairwise (· > ·)) :
    (∀ version, highestCommonFrom fuel client server = some version → LargestCommon client server version) ∧
      (highestCommonFrom fuel client server = none → ∀ other ∈ client, other ∉ server) := by
  fun_induction highestCommonFrom fuel client server with
  | case1 client server =>
    obtain rfl : client = [] := List.length_eq_zero_iff.mp (by omega)
    simp
  | case2 fuel rest version others =>
    refine ⟨fun selected found => ?_,by simp⟩
    cases found
    refine ⟨List.mem_cons_self,List.mem_cons_self,fun other member _ => ?_⟩
    rcases List.mem_cons.mp member with rfl | member
    · exact UInt16.le_refl _
    · exact UInt16.le_of_lt ((List.pairwise_cons.mp clients).1 other member)
  | case3 fuel client rest server others different above ih =>
    obtain ⟨found,missing⟩ := ih (by simp only [List.length_cons] at rounds ⊢; omega)
      (List.pairwise_cons.mp clients).2 servers
    have absent := above_absent above servers
    refine ⟨fun version same => ?_,fun unselected other member => ?_⟩
    · obtain ⟨offered,known,largest⟩ := found version same
      refine ⟨List.mem_cons_of_mem _ offered,known,fun other member => ?_⟩
      rcases List.mem_cons.mp member with rfl | member
      · exact fun again => absurd again absent
      · exact largest other member
    · rcases List.mem_cons.mp member with rfl | member
      · exact absent
      · exact missing unselected other member
  | case4 fuel client rest server others different below ih =>
    obtain ⟨found,missing⟩ := ih (by simp only [List.length_cons] at rounds ⊢; omega)
      clients (List.pairwise_cons.mp servers).2
    have above : server > client := UInt16.lt_of_le_of_ne (UInt16.not_lt.mp below) different
    have absent := above_absent above clients
    refine ⟨fun version same => ?_,fun unselected other member again => ?_⟩
    · obtain ⟨offered,known,largest⟩ := found version same
      refine ⟨offered,List.mem_cons_of_mem _ known,fun other member again => ?_⟩
      rcases List.mem_cons.mp again with rfl | again
      · exact absurd member absent
      · exact largest other member again
    · rcases List.mem_cons.mp again with rfl | again
      · exact absent member
      · exact missing unselected other member again
  | case5 fuel client server ended =>
    refine ⟨by simp,fun _ other member again => ?_⟩
    cases client with
    | nil => cases member
    | cons first rest =>
      cases server with
      | nil => cases again
      | cons second others => exact ended first rest second others rfl rfl

theorem highestCommonCapabilityVersion_spec {client server : List UInt16} (clients : client.Pairwise (· < ·))
    (servers : server.Pairwise (· < ·)) :
    (∀ version, highestCommonCapabilityVersion client server = some version → LargestCommon client server version) ∧
      (highestCommonCapabilityVersion client server = none → ∀ other ∈ client, other ∉ server) := by
  have spec := highestCommonFrom_spec (client.length+server.length) client.reverse server.reverse (by simp)
    (List.pairwise_reverse.mpr clients) (List.pairwise_reverse.mpr servers)
  simpa [LargestCommon,highestCommonCapabilityVersion] using spec

end Versions

section Offers
variable {limits : Limits}

/-- A validated offer: the name and the flag as they were, the versions ascending. -/
structure Copied (limits : Limits) (offer copy : CapabilityOffer) : Prop where
  name : copy.name = offer.name
  required : copy.required = offer.required
  named : validateCapabilityName offer.name limits = .ok ()
  versions : validateAndSortCapabilityVersions offer.versions limits = .ok copy.versions

private theorem capabilityError_ok {α : Type} {name : Bytes} {result : Except Err α} {value : α} :
    capabilityError name result = .ok value ↔ result = .ok value := by
  cases result <;> simp [capabilityError]

theorem copyOffers_iff {seen : List Bytes} {offers copies : List CapabilityOffer} :
    copyOffers limits seen offers = .ok copies ↔
      (offers.map (·.name)).Nodup ∧ (∀ offer ∈ offers, offer.name ∉ seen) ∧ List.Forall₂ (Copied limits) offers copies := by
  induction offers generalizing seen copies with
  | nil =>
    simp only [copyOffers,List.map_nil,List.nodup_nil,List.forall₂_nil_left_iff]
    constructor
    · intro same
      cases same
      simp
    · rintro ⟨_,_,rfl⟩
      rfl
  | cons offer offers ih =>
    constructor
    · intro copied
      unfold copyOffers at copied
      obtain ⟨_,named,copied⟩ := bind_ok copied
      obtain ⟨fresh,copied⟩ := reject_bind_ok copied
      obtain ⟨versions,sorted,copied⟩ := bind_ok copied
      obtain ⟨others,rest,same⟩ := bind_ok copied
      cases same
      obtain ⟨distinct,unseen,each⟩ := ih.mp rest
      refine ⟨?_,?_,.cons ⟨rfl,rfl,named,capabilityError_ok.mp sorted⟩ each⟩
      · rw [List.map_cons,List.nodup_cons]
        refine ⟨fun again => ?_,distinct⟩
        obtain ⟨other,member,same⟩ := List.mem_map.mp again
        exact unseen other member (by simp [same])
      · exact List.forall_mem_cons.mpr ⟨fresh,fun other member known => unseen other member (List.mem_cons_of_mem _ known)⟩
    · rintro ⟨distinct,unseen,each⟩
      cases each with
      | @cons _ copy _ others head tail =>
      rw [List.map_cons,List.nodup_cons] at distinct
      have rest : copyOffers limits (offer.name::seen) offers = .ok others := by
        refine ih.mpr ⟨distinct.2,fun other member known => ?_,tail⟩
        rcases List.mem_cons.mp known with same | known
        · exact distinct.1 (List.mem_map.mpr ⟨other,member,same⟩)
        · exact unseen other (List.mem_cons_of_mem _ member) known
      have fresh := unseen offer List.mem_cons_self
      unfold copyOffers
      rw [head.named,reject,if_neg fresh,capabilityError_ok.mpr head.versions,rest]
      obtain ⟨name,versions,required⟩ := copy
      obtain ⟨rfl,rfl⟩ : name = offer.name ∧ required = offer.required := ⟨head.name,head.required⟩
      rfl

theorem validateAndCopyCapabilityOffers_iff {offers copies : List CapabilityOffer} :
    validateAndCopyCapabilityOffers offers limits = .ok copies ↔
      (offers.length : Int) ≤ (normalizeLimits limits).maxCapabilities ∧ (offers.map (·.name)).Nodup ∧
        List.Forall₂ (Copied (normalizeLimits limits)) offers copies := by
  unfold validateAndCopyCapabilityOffers
  simp only []
  split
  · rename_i many
    constructor
    · intro copied
      cases copied
    · rintro ⟨few,_⟩
      omega
  · rename_i few
    rw [copyOffers_iff]
    simp only [List.not_mem_nil,not_false_eq_true,implies_true,true_and]
    exact ⟨fun ⟨distinct,each⟩ => ⟨by omega,distinct,each⟩,fun ⟨_,distinct,each⟩ => ⟨distinct,each⟩⟩

end Offers

section Registry
variable {limits : Limits}

/-- What a registry holds of the specifications it was made from. -/
structure Registered (limits : Limits) (specs : List CapabilitySpec) (registry : CapabilityRegistry) : Prop where
  distinct : (specs.map (·.name)).Nodup
  each : ∀ spec ∈ specs, validateCapabilityName spec.name limits = .ok () ∧
    ∃ versions, validateAndSortCapabilityVersions spec.versions limits = .ok versions ∧
      registry.lookup spec.name = some versions
  only : ∀ name, name ∉ specs.map (·.name) → registry.lookup name = none

private theorem registerSpecs_registered {before registry : CapabilityRegistry} {specs : List CapabilitySpec}
    (registered : registerSpecs limits before specs = .ok registry) :
    (specs.map (·.name)).Nodup ∧
      (∀ spec ∈ specs, before.lookup spec.name = none ∧ validateCapabilityName spec.name limits = .ok () ∧
        ∃ versions, validateAndSortCapabilityVersions spec.versions limits = .ok versions ∧
          registry.lookup spec.name = some versions) ∧
      ∀ name, name ∉ specs.map (·.name) → registry.lookup name = before.lookup name := by
  induction specs generalizing before with
  | nil =>
    cases registered
    simp
  | cons spec specs ih =>
    unfold registerSpecs at registered
    obtain ⟨_,named,registered⟩ := bind_ok registered
    obtain ⟨fresh,registered⟩ := reject_bind_ok registered
    obtain ⟨versions,sorted,registered⟩ := bind_ok registered
    obtain ⟨distinct,each,only⟩ := ih registered
    have absent : spec.name ∉ specs.map (·.name) := by
      intro again
      obtain ⟨other,member,same⟩ := List.mem_map.mp again
      have unset := (each other member).1
      rw [same,AList.lookup_insert] at unset
      cases unset
    refine ⟨List.nodup_cons.mpr ⟨absent,distinct⟩,List.forall_mem_cons.mpr ⟨?_,fun other member => ?_⟩,
      fun name outside => ?_⟩
    · refine ⟨by simpa using fresh,named,versions,capabilityError_ok.mp sorted,?_⟩
      rw [only spec.name absent,AList.lookup_insert]
    · obtain ⟨unset,rest⟩ := each other member
      have different : other.name ≠ spec.name := fun same => absent (List.mem_map.mpr ⟨other,member,same⟩)
      rw [AList.lookup_insert_ne different] at unset
      exact ⟨unset,rest⟩
    · rw [List.map_cons,List.mem_cons,not_or] at outside
      rw [only name outside.2,AList.lookup_insert_ne outside.1]

private theorem registerSpecs_accepts {before : CapabilityRegistry} {specs : List CapabilitySpec}
    (distinct : (specs.map (·.name)).Nodup)
    (each : ∀ spec ∈ specs, before.lookup spec.name = none ∧ validateCapabilityName spec.name limits = .ok () ∧
      ∃ versions, validateAndSortCapabilityVersions spec.versions limits = .ok versions) :
    ∃ registry, registerSpecs limits before specs = .ok registry := by
  induction specs generalizing before with
  | nil => exact ⟨before,rfl⟩
  | cons spec specs ih =>
    obtain ⟨fresh,named,versions,sorted⟩ := each spec List.mem_cons_self
    rw [List.map_cons,List.nodup_cons] at distinct
    have rest : ∃ registry, registerSpecs limits (before.insert spec.name versions) specs = .ok registry := by
      refine ih distinct.2 (fun other member => ?_)
      have different : other.name ≠ spec.name := fun same => distinct.1 (List.mem_map.mpr ⟨other,member,same⟩)
      rw [AList.lookup_insert_ne different]
      exact each other (List.mem_cons_of_mem _ member)
    unfold registerSpecs
    rw [named,reject,if_neg (by simp [fresh]),capabilityError_ok.mpr sorted]
    exact rest

theorem newCapabilityRegistry_registered {specs : List CapabilitySpec} {registry : CapabilityRegistry}
    (created : newCapabilityRegistry specs limits = .ok registry) :
    Registered (normalizeLimits limits) specs registry := by
  unfold newCapabilityRegistry at created
  obtain ⟨_,_,created⟩ := bind_ok created
  obtain ⟨_,created⟩ := reject_bind_ok created
  obtain ⟨distinct,each,only⟩ := registerSpecs_registered created
  refine ⟨distinct,fun spec member => (each spec member).2,fun name outside => ?_⟩
  rw [only name outside]
  rfl

end Registry

section Selection
variable {limits : Limits} {specs : List CapabilitySpec} {registry : CapabilityRegistry}

def CommonVersion (specs : List CapabilitySpec) (offer : CapabilityOffer) (version : UInt16) : Prop :=
  version ∈ offer.versions ∧ ∃ spec ∈ specs, spec.name = offer.name ∧ version ∈ spec.versions

def Selected (specs : List CapabilitySpec) (offers : List CapabilityOffer) (capability : NegotiatedCapability) : Prop :=
  ∃ offer ∈ offers, offer.name = capability.name ∧ CommonVersion specs offer capability.version ∧
    ∀ version, CommonVersion specs offer version → version ≤ capability.version

/-- A required offer has no common version. -/
def Unsupported (specs : List CapabilitySpec) (offers : List CapabilityOffer) : Prop :=
  ∃ offer ∈ offers, offer.required = true ∧ ∀ version, ¬ CommonVersion specs offer version

def selectOffer (registry : CapabilityRegistry) (offer : CapabilityOffer) : Option NegotiatedCapability :=
  (highestCommonCapabilityVersion offer.versions ((registry.lookup offer.name).getD [])).map
    (fun version => {name := offer.name, version := version})

private theorem Registered.known (registered : Registered limits specs registry) (name : Bytes) :
    ((registry.lookup name).getD []).Pairwise (· < ·) ∧
      ∀ version, version ∈ (registry.lookup name).getD [] ↔ ∃ spec ∈ specs, spec.name = name ∧ version ∈ spec.versions := by
  by_cases listed : name ∈ specs.map (·.name)
  · obtain ⟨spec,member,rfl⟩ := List.mem_map.mp listed
    obtain ⟨_,versions,sorted,found⟩ := registered.each spec member
    obtain ⟨same,ascending,_⟩ := validateAndSortCapabilityVersions_sorted sorted
    rw [found]
    refine ⟨ascending,fun version => ⟨fun inside => ⟨spec,member,rfl,same.mem_iff.mp inside⟩,?_⟩⟩
    rintro ⟨other,again,named,inside⟩
    rw [List.inj_on_of_nodup_map registered.distinct again member named] at inside
    exact same.mem_iff.mpr inside
  · rw [registered.only name listed]
    refine ⟨.nil,fun version => ⟨fun inside => absurd inside List.not_mem_nil,?_⟩⟩
    rintro ⟨spec,member,named,_⟩
    exact absurd (List.mem_map.mpr ⟨spec,member,named⟩) listed

variable (registered : Registered limits specs registry) {offer copy : CapabilityOffer} (copied : Copied limits offer copy)
include registered copied

private theorem common_iff (version : UInt16) :
    version ∈ copy.versions ∧ version ∈ (registry.lookup copy.name).getD [] ↔ CommonVersion specs offer version := by
  rw [(registered.known copy.name).2,copied.name,
    (validateAndSortCapabilityVersions_sorted copied.versions).1.mem_iff]
  rfl

private theorem selectOffer_largest :
    (∀ capability, selectOffer registry copy = some capability →
      offer.name = capability.name ∧ CommonVersion specs offer capability.version ∧
        ∀ version, CommonVersion specs offer version → version ≤ capability.version) ∧
      (selectOffer registry copy = none → ∀ version, ¬ CommonVersion specs offer version) := by
  obtain ⟨found,missing⟩ := highestCommonCapabilityVersion_spec
    (validateAndSortCapabilityVersions_sorted copied.versions).2.1 (registered.known copy.name).1
  have common := common_iff registered copied
  constructor
  · intro capability selected
    obtain ⟨version,highest,rfl⟩ := Option.map_eq_some_iff.mp selected
    obtain ⟨offered,known,largest⟩ := found version highest
    refine ⟨copied.name.symm,(common version).mp ⟨offered,known⟩,fun other shared => ?_⟩
    obtain ⟨offered,known⟩ := (common other).mpr shared
    exact largest other offered known
  · intro selected version shared
    obtain ⟨offered,known⟩ := (common version).mpr shared
    exact missing (Option.map_eq_none_iff.mp selected) version offered known

private theorem selectOffer_none_iff :
    selectOffer registry copy = none ↔ ∀ version, ¬ CommonVersion specs offer version := by
  obtain ⟨largest,missing⟩ := selectOffer_largest registered copied
  refine ⟨missing,fun unselected => ?_⟩
  cases selected : selectOffer registry copy with
  | none => rfl
  | some capability => exact absurd (largest capability selected).2.1 (unselected _)

private theorem selectOffer_some_iff (capability : NegotiatedCapability) :
    selectOffer registry copy = some capability ↔
      offer.name = capability.name ∧ CommonVersion specs offer capability.version ∧
        ∀ version, CommonVersion specs offer version → version ≤ capability.version := by
  obtain ⟨largest,missing⟩ := selectOffer_largest registered copied
  refine ⟨largest capability,fun ⟨named,shared,bound⟩ => ?_⟩
  cases selected : selectOffer registry copy with
  | none => exact absurd shared (missing selected _)
  | some other =>
    obtain ⟨sameName,sharedOther,boundOther⟩ := largest other selected
    have version : other.version = capability.version :=
      UInt16.le_antisymm (bound _ sharedOther) (boundOther _ shared)
    obtain ⟨name,chosen⟩ := other
    obtain ⟨rfl,rfl⟩ : name = capability.name ∧ chosen = capability.version := ⟨sameName.symm.trans named,version⟩
    rfl

end Selection

section Acceptance
variable {limits : Limits} {registry : CapabilityRegistry}

private theorem acceptOffers_missing {offers : List CapabilityOffer}
    (missing : ∃ offer ∈ offers, offer.required = true ∧ selectOffer registry offer = none) :
    ∃ error, acceptOffers registry offers = .error error := by
  induction offers with
  | nil => simp at missing
  | cons offer offers ih =>
    obtain ⟨lost,member,required,unselected⟩ := missing
    unfold acceptOffers
    rcases List.mem_cons.mp member with rfl | member
    · rw [Option.map_eq_none_iff.mp unselected,required]
      exact ⟨_,rfl⟩
    · obtain ⟨error,failed⟩ := ih ⟨lost,member,required,unselected⟩
      split
      · split
        · exact ⟨_,rfl⟩
        · exact ⟨error,failed⟩
      · rw [failed]
        exact ⟨error,rfl⟩

private theorem acceptOffers_selected {offers : List CapabilityOffer}
    (supported : ∀ offer ∈ offers, offer.required = true → selectOffer registry offer ≠ none) :
    acceptOffers registry offers = .ok (offers.filterMap (selectOffer registry)) := by
  induction offers with
  | nil => rfl
  | cons offer offers ih =>
    have rest := ih (fun other member => supported other (List.mem_cons_of_mem _ member))
    unfold acceptOffers
    split
    · rename_i absent
      have unselected : selectOffer registry offer = none := Option.map_eq_none_iff.mpr absent
      rw [if_neg (fun required => supported offer List.mem_cons_self required unselected),rest,
        List.filterMap_cons_none unselected]
    · rename_i version highest
      have selected : selectOffer registry offer = some {name := offer.name, version := version} :=
        Option.map_eq_some_iff.mpr ⟨version,highest,rfl⟩
      rw [rest,List.filterMap_cons_some selected]
      rfl

private theorem checkNegotiated_accepts {previous : Option Bytes} {seen : List Bytes}
    {capabilities : List NegotiatedCapability} (ordered : capabilities.Pairwise (fun a b => a.name < b.name))
    (after : ∀ last ∈ previous, ∀ capability ∈ capabilities, last < capability.name)
    (unseen : ∀ capability ∈ capabilities, capability.name ∉ seen)
    (valid : ∀ capability ∈ capabilities, validateCapabilityName capability.name limits = .ok () ∧ capability.version ≠ 0) :
    checkNegotiated limits previous seen capabilities = .ok () := by
  induction capabilities generalizing previous seen with
  | nil => rfl
  | cons capability capabilities ih =>
    obtain ⟨named,positive⟩ := valid capability List.mem_cons_self
    rw [List.pairwise_cons] at ordered
    have rest : checkNegotiated limits (some capability.name) (capability.name::seen) capabilities = .ok () := by
      refine ih ordered.2 (fun last found => ?_) (fun other member known => ?_)
        (fun other member => valid other (List.mem_cons_of_mem _ member))
      · cases found
        exact ordered.1
      · rcases List.mem_cons.mp known with same | known
        · exact List.lt_irrefl _ (same ▸ ordered.1 other member)
        · exact unseen other (List.mem_cons_of_mem _ member) known
    have later : ¬ previous.any (fun last => capability.name ≤ last) = true := by
      cases previous with
      | none => simp
      | some last => simpa [List.not_le] using after last rfl capability List.mem_cons_self
    unfold checkNegotiated
    rw [named,reject,if_neg positive,reject,if_neg (unseen capability List.mem_cons_self),reject,if_neg later]
    exact rest

theorem newSessionCapabilities_accepts {capabilities : List NegotiatedCapability}
    (few : (capabilities.length : Int) ≤ (normalizeLimits limits).maxCapabilities)
    (ordered : capabilities.Pairwise (fun a b => a.name < b.name))
    (valid : ∀ capability ∈ capabilities,
      validateCapabilityName capability.name (normalizeLimits limits) = .ok () ∧ capability.version ≠ 0) :
    newSessionCapabilities capabilities limits = .ok ⟨capabilities,ordered⟩ := by
  have validated : validateNegotiatedCapabilities capabilities limits = .ok () := by
    unfold validateNegotiatedCapabilities
    simp only []
    rw [if_neg (by omega)]
    exact checkNegotiated_accepts ordered (by simp) (by simp) valid
  unfold newSessionCapabilities
  split
  · rename_i failed
    rw [validated] at failed
    cases failed
  · rfl

private theorem checkAccepted_accepts {offers : List CapabilityOffer} {capabilities : List NegotiatedCapability}
    (each : ∀ capability ∈ capabilities, ∃ offer, offers.find? (fun offer => offer.name == capability.name) = some offer ∧
      containsCapabilityVersion offer.versions capability.version = true) :
    checkAccepted offers capabilities = .ok () := by
  induction capabilities with
  | nil => rfl
  | cons capability capabilities ih =>
    obtain ⟨offer,found,contains⟩ := each capability List.mem_cons_self
    unfold checkAccepted
    rw [found]
    simp only [contains]
    exact ih (fun other member => each other (List.mem_cons_of_mem _ member))

private theorem checkRequired_accepts {accepted : List NegotiatedCapability} {offers : List CapabilityOffer}
    (each : ∀ offer ∈ offers, offer.required = true → ∃ capability ∈ accepted, capability.name = offer.name) :
    checkRequired accepted offers = .ok () := by
  induction offers with
  | nil => rfl
  | cons offer offers ih =>
    have met : ¬ (offer.required && !accepted.any (fun capability => capability.name == offer.name)) = true := by
      intro unmet
      rw [Bool.and_eq_true,Bool.not_eq_true'] at unmet
      obtain ⟨capability,member,same⟩ := each offer List.mem_cons_self unmet.1
      have differs := List.any_eq_false.mp unmet.2 capability member
      exact differs (by simpa using same)
    unfold checkRequired
    rw [if_neg met]
    exact ih (fun other member => each other (List.mem_cons_of_mem _ member))

end Acceptance

section Negotiated
variable {limits : Limits} {specs : List CapabilitySpec} {registry : CapabilityRegistry}
  {offers copies : List CapabilityOffer}

private theorem copied_from (each : List.Forall₂ (Copied limits) offers copies) :
    (∀ offer ∈ offers, ∃ copy ∈ copies, Copied limits offer copy) ∧
      (∀ copy ∈ copies, ∃ offer ∈ offers, Copied limits offer copy) ∧ copies.map (·.name) = offers.map (·.name) := by
  induction each with
  | nil => simp
  | @cons offer copy offers copies head _ ih =>
    obtain ⟨left,right,names⟩ := ih
    refine ⟨List.forall_mem_cons.mpr ⟨⟨copy,List.mem_cons_self,head⟩,fun other member => ?_⟩,
      List.forall_mem_cons.mpr ⟨⟨offer,List.mem_cons_self,head⟩,fun other member => ?_⟩,
      by rw [List.map_cons,List.map_cons,names,head.name]⟩
    · obtain ⟨found,inside,copied⟩ := left other member
      exact ⟨found,List.mem_cons_of_mem _ inside,copied⟩
    · obtain ⟨found,inside,copied⟩ := right other member
      exact ⟨found,List.mem_cons_of_mem _ inside,copied⟩

omit offers in
private theorem find_named (distinct : (copies.map (·.name)).Nodup) {copy : CapabilityOffer} (listed : copy ∈ copies)
    {name : Bytes} (named : copy.name = name) : copies.find? (fun offer => offer.name == name) = some copy := by
  cases found : copies.find? (fun offer => offer.name == name) with
  | none => simpa [named] using List.find?_eq_none.mp found copy listed
  | some other =>
    have same : other.name = name := by simpa using List.find?_some found
    rw [List.inj_on_of_nodup_map distinct (List.mem_of_find?_eq_some found) listed (same.trans named.symm)]

omit offers in
private theorem selectOffer_names (copies : List CapabilityOffer) :
    ((copies.filterMap (selectOffer registry)).map (·.name)).Sublist (copies.map (·.name)) := by
  induction copies with
  | nil => exact .slnil
  | cons copy copies ih =>
    cases selected : selectOffer registry copy with
    | none =>
      rw [List.filterMap_cons_none selected]
      exact ih.trans (List.sublist_cons_self _ _)
    | some capability =>
      obtain ⟨version,_,rfl⟩ := Option.map_eq_some_iff.mp selected
      rw [List.filterMap_cons_some selected]
      exact ih.cons_cons _

variable (registered : Registered (normalizeLimits limits) specs registry)
  (copied : validateAndCopyCapabilityOffers offers limits = .ok copies)
include registered copied

private theorem unsupported_iff :
    (∃ copy ∈ copies, copy.required = true ∧ selectOffer registry copy = none) ↔ Unsupported specs offers := by
  obtain ⟨_,_,each⟩ := validateAndCopyCapabilityOffers_iff.mp copied
  obtain ⟨left,right,_⟩ := copied_from each
  constructor
  · rintro ⟨copy,member,required,unselected⟩
    obtain ⟨offer,inside,copied⟩ := right copy member
    exact ⟨offer,inside,by rw [← copied.required]; exact required,(selectOffer_none_iff registered copied).mp unselected⟩
  · rintro ⟨offer,member,required,unselected⟩
    obtain ⟨copy,inside,copied⟩ := left offer member
    exact ⟨copy,inside,by rw [copied.required]; exact required,(selectOffer_none_iff registered copied).mpr unselected⟩

private theorem selected_iff (capability : NegotiatedCapability) :
    capability ∈ copies.filterMap (selectOffer registry) ↔ Selected specs offers capability := by
  obtain ⟨_,_,each⟩ := validateAndCopyCapabilityOffers_iff.mp copied
  obtain ⟨left,right,_⟩ := copied_from each
  rw [List.mem_filterMap]
  constructor
  · rintro ⟨copy,member,selected⟩
    obtain ⟨offer,inside,copied⟩ := right copy member
    exact ⟨offer,inside,(selectOffer_some_iff registered copied capability).mp selected⟩
  · rintro ⟨offer,member,selected⟩
    obtain ⟨copy,inside,copied⟩ := left offer member
    exact ⟨copy,inside,(selectOffer_some_iff registered copied capability).mpr selected⟩

omit registered in
private theorem selected_distinct : ((copies.filterMap (selectOffer registry)).map (·.name)).Nodup := by
  obtain ⟨_,distinct,each⟩ := validateAndCopyCapabilityOffers_iff.mp copied
  rw [← (copied_from each).2.2] at distinct
  exact distinct.sublist (selectOffer_names copies)

omit registered in
private theorem negotiate_eq :
    registry.negotiate offers limits = (acceptOffers registry copies >>= fun accepted =>
      newSessionCapabilities (accepted.insertionSort (fun a b => a.name ≤ b.name)) (normalizeLimits limits)) := by
  have again : validateAndCopyCapabilityOffers offers (normalizeLimits limits) = .ok copies := by
    rw [validateAndCopyCapabilityOffers_iff] at copied ⊢
    rw [normalizeLimits_idem]
    exact copied
  unfold CapabilityRegistry.negotiate
  simp only [again]
  rfl

private theorem negotiate_unsupported (missing : Unsupported specs offers) :
    ∃ error, registry.negotiate offers limits = .error error := by
  obtain ⟨error,failed⟩ := acceptOffers_missing ((unsupported_iff registered copied).mpr missing)
  rw [negotiate_eq copied,failed]
  exact ⟨error,rfl⟩

omit registered in
private theorem selected_ordered :
    ((copies.filterMap (selectOffer registry)).insertionSort (fun a b => a.name ≤ b.name)).Pairwise
      (fun a b => a.name < b.name) := by
  have total : Std.Total (fun a b : NegotiatedCapability => a.name ≤ b.name) := ⟨fun a b => List.le_total a.name b.name⟩
  have trans : IsTrans NegotiatedCapability (fun a b => a.name ≤ b.name) := ⟨fun _ _ _ => List.le_trans⟩
  have sorted := List.pairwise_insertionSort (fun a b : NegotiatedCapability => a.name ≤ b.name)
    (copies.filterMap (selectOffer registry))
  have distinct := ((List.perm_insertionSort (fun a b : NegotiatedCapability => a.name ≤ b.name)
    (copies.filterMap (selectOffer registry))).map (·.name)).nodup_iff.mpr (selected_distinct copied)
  rw [List.Nodup,List.pairwise_map] at distinct
  refine (sorted.and distinct).imp (fun {a b} both => ?_)
  by_contra later
  exact both.2 (List.le_antisymm both.1 (List.not_lt.mp later))

private theorem negotiate_selects (supported : ¬ Unsupported specs offers) :
    ∃ capabilities, registry.negotiate offers limits = .ok capabilities ∧
      (∀ capability, capability ∈ capabilities.selections ↔ Selected specs offers capability) ∧
      newSessionCapabilities capabilities.selections limits = .ok capabilities := by
  have accepted : acceptOffers registry copies = .ok (copies.filterMap (selectOffer registry)) := by
    refine acceptOffers_selected (fun copy member required unselected => supported ?_)
    exact (unsupported_iff registered copied).mp ⟨copy,member,required,unselected⟩
  have member : ∀ capability,
      capability ∈ (copies.filterMap (selectOffer registry)).insertionSort (fun a b => a.name ≤ b.name) ↔
        Selected specs offers capability := fun capability => by
    rw [List.mem_insertionSort,selected_iff registered copied]
  obtain ⟨few,_,each⟩ := validateAndCopyCapabilityOffers_iff.mp copied
  have valid : ∀ capability ∈ (copies.filterMap (selectOffer registry)).insertionSort (fun a b => a.name ≤ b.name),
      validateCapabilityName capability.name (normalizeLimits limits) = .ok () ∧ capability.version ≠ 0 := by
    intro capability inside
    obtain ⟨offer,offered,named,shared,_⟩ := (member capability).mp inside
    obtain ⟨copy,_,copied⟩ := (copied_from each).1 offer offered
    obtain ⟨same,_,positive⟩ := validateAndSortCapabilityVersions_sorted copied.versions
    exact ⟨named ▸ copied.named,positive _ (same.mem_iff.mpr shared.1)⟩
  have bounded : (((copies.filterMap (selectOffer registry)).insertionSort (fun a b => a.name ≤ b.name)).length : Int) ≤
      (normalizeLimits limits).maxCapabilities := by
    have short := List.length_filterMap_le (selectOffer registry) copies
    have same := each.length_eq
    rw [List.length_insertionSort]
    omega
  refine ⟨⟨_,selected_ordered copied⟩,?_,member,newSessionCapabilities_accepts bounded _ valid⟩
  rw [negotiate_eq copied,accepted]
  exact newSessionCapabilities_accepts (by rw [normalizeLimits_idem]; exact bounded) _
    (by rw [normalizeLimits_idem]; exact valid)

private theorem negotiated_accepted {capabilities : SessionCapabilities} (supported : ¬ Unsupported specs offers)
    (member : ∀ capability, capability ∈ capabilities.selections ↔ Selected specs offers capability)
    (created : newSessionCapabilities capabilities.selections limits = .ok capabilities) :
    validateNegotiatedAgainstOffers offers capabilities.selections limits = .ok () := by
  obtain ⟨_,distinct,each⟩ := validateAndCopyCapabilityOffers_iff.mp copied
  obtain ⟨left,right,names⟩ := copied_from each
  have validated : validateNegotiatedCapabilities capabilities.selections limits = .ok () := by
    unfold newSessionCapabilities at created
    split at created
    · cases created
    · assumption
  have accepted : checkAccepted copies capabilities.selections = .ok () := by
    refine checkAccepted_accepts (fun capability inside => ?_)
    obtain ⟨offer,offered,named,shared,_⟩ := (member capability).mp inside
    obtain ⟨copy,listed,copied⟩ := left offer offered
    obtain ⟨same,ascending,_⟩ := validateAndSortCapabilityVersions_sorted copied.versions
    refine ⟨copy,?_,(containsCapabilityVersion_iff ascending _).mpr (same.mem_iff.mpr shared.1)⟩
    rw [← names] at distinct
    exact find_named distinct listed (copied.name.trans named)
  have required : checkRequired capabilities.selections copies = .ok () := by
    refine checkRequired_accepts (fun copy listed required => ?_)
    cases selected : selectOffer registry copy with
    | none => exact absurd ((unsupported_iff registered copied).mp ⟨copy,listed,required,selected⟩) supported
    | some capability =>
      have inside := (selected_iff registered copied capability).mp (List.mem_filterMap.mpr ⟨copy,listed,selected⟩)
      obtain ⟨version,_,rfl⟩ := Option.map_eq_some_iff.mp selected
      exact ⟨_,(member _).mpr inside,rfl⟩
  unfold validateNegotiatedAgainstOffers
  rw [copied]
  show (validateNegotiatedCapabilities _ _ >>= fun _ => _) = _
  rw [validated]
  show (checkAccepted _ _ >>= fun _ => _) = _
  rw [accepted]
  exact required

end Negotiated

section Rearrangement

/-- A capability set is determined by its members. -/
theorem SessionCapabilities.ext_mem {left right : SessionCapabilities}
    (same : ∀ capability, capability ∈ left.selections ↔ capability ∈ right.selections) : left = right := by
  obtain ⟨left,leftOrdered⟩ := left
  obtain ⟨right,rightOrdered⟩ := right
  have distinct : ∀ selections : List NegotiatedCapability,
      selections.Pairwise (fun a b => a.name < b.name) → selections.Nodup := by
    intro selections ordered
    refine List.Pairwise.imp (fun {a b} before => ?_) ordered
    rintro rfl
    exact List.lt_irrefl _ before
  have perm : left.Perm right := (List.perm_ext_iff_of_nodup (distinct _ leftOrdered) (distinct _ rightOrdered)).mpr same
  have equal : left = right := perm.eq_of_pairwise
    (fun a b _ _ before after => absurd (List.lt_trans before after) (List.lt_irrefl _)) leftOrdered rightOrdered
  subst equal
  rfl

/-- The lists agree up to their order and a relation of their members. -/
def Rearranged {α : Type} (same : α → α → Prop) (left right : List α) : Prop :=
  ∃ middle, List.Forall₂ same left middle ∧ middle.Perm right

def SameOffer (a b : CapabilityOffer) : Prop :=
  a.name = b.name ∧ a.required = b.required ∧ a.versions.Perm b.versions

def SameSpec (a b : CapabilitySpec) : Prop := a.name = b.name ∧ a.versions.Perm b.versions

theorem Rearranged.exists_iff {α : Type} {same : α → α → Prop} {left right : List α}
    (rearranged : Rearranged same left right) {Left Right : α → Prop}
    (respects : ∀ a b, same a b → (Left a ↔ Right b)) :
    (∃ a ∈ left, Left a) ↔ ∃ b ∈ right, Right b := by
  obtain ⟨middle,each,perm⟩ := rearranged
  simp only [← perm.mem_iff]
  clear perm
  induction each with
  | nil => simp
  | cons head _ ih =>
    rw [List.exists_mem_cons_iff,List.exists_mem_cons_iff]
    exact or_congr (respects _ _ head) ih

theorem Rearranged.map_perm {α β : Type} {same : α → α → Prop} {left right : List α}
    (rearranged : Rearranged same left right) {f : α → β} (respects : ∀ a b, same a b → f a = f b) :
    (left.map f).Perm (right.map f) := by
  obtain ⟨middle,each,perm⟩ := rearranged
  have equal : left.map f = middle.map f := by
    clear perm
    induction each with
    | nil => rfl
    | cons head _ ih => rw [List.map_cons,List.map_cons,respects _ _ head,ih]
  rw [equal]
  exact perm.map f

variable {limits : Limits} {specs others : List CapabilitySpec} {offers copies given : List CapabilityOffer}

private theorem CommonVersion.rearranged (sameSpecs : Rearranged SameSpec specs others) {a b : CapabilityOffer}
    (same : SameOffer a b) (version : UInt16) : CommonVersion specs a version ↔ CommonVersion others b version := by
  unfold CommonVersion
  rw [same.2.2.mem_iff,same.1]
  refine and_congr_right (fun _ => sameSpecs.exists_iff (fun left right alike => ?_))
  rw [alike.1,alike.2.mem_iff]

private theorem Selected.rearranged (sameSpecs : Rearranged SameSpec specs others)
    (sameOffers : Rearranged SameOffer offers given) (capability : NegotiatedCapability) :
    Selected specs offers capability ↔ Selected others given capability := by
  refine sameOffers.exists_iff (fun a b same => ?_)
  simp only [same.1,CommonVersion.rearranged sameSpecs same]

private theorem Unsupported.rearranged (sameSpecs : Rearranged SameSpec specs others)
    (sameOffers : Rearranged SameOffer offers given) : Unsupported specs offers ↔ Unsupported others given := by
  refine sameOffers.exists_iff (fun a b same => ?_)
  simp only [same.2.1,CommonVersion.rearranged sameSpecs same]

private theorem copied_rearranged (sameOffers : Rearranged SameOffer offers given)
    (copied : validateAndCopyCapabilityOffers offers limits = .ok copies) :
    ∃ copies, validateAndCopyCapabilityOffers given limits = .ok copies := by
  obtain ⟨few,distinct,each⟩ := validateAndCopyCapabilityOffers_iff.mp copied
  have names := sameOffers.map_perm (f := (·.name)) (fun _ _ same => same.1)
  obtain ⟨middle,alike,perm⟩ := sameOffers
  have copiedMiddle : List.Forall₂ (Copied (normalizeLimits limits)) middle copies := by
    clear few distinct names perm copied
    induction alike generalizing copies with
    | nil => exact each
    | cons head _ ih =>
      cases each with
      | cons copy rest =>
        refine .cons ⟨copy.name.trans head.1,copy.required.trans head.2.1,head.1 ▸ copy.named,?_⟩ (ih rest)
        rw [← validateAndSortCapabilityVersions_perm head.2.2]
        exact copy.versions
  obtain ⟨moved,copiedGiven,_⟩ := List.perm_comp_forall₂ perm.symm copiedMiddle
  refine ⟨moved,validateAndCopyCapabilityOffers_iff.mpr ⟨?_,names.nodup_iff.mp distinct,copiedGiven⟩⟩
  have length := names.length_eq
  rw [List.length_map,List.length_map] at length
  omega

private theorem registry_rearranged {registry : CapabilityRegistry} (sameSpecs : Rearranged SameSpec specs others)
    (created : newCapabilityRegistry specs limits = .ok registry) :
    ∃ registry, newCapabilityRegistry others limits = .ok registry := by
  have registered := newCapabilityRegistry_registered created
  have names := sameSpecs.map_perm (f := (·.name)) (fun _ _ same => same.1)
  unfold newCapabilityRegistry at created ⊢
  obtain ⟨_,limited,created⟩ := bind_ok created
  obtain ⟨few,created⟩ := reject_bind_ok created
  have length := names.length_eq
  rw [List.length_map,List.length_map] at length
  simp only [limited,reject]
  rw [if_neg (by omega)]
  let Valid (spec : CapabilitySpec) : Prop := validateCapabilityName spec.name (normalizeLimits limits) = .ok () ∧
    ∃ versions, validateAndSortCapabilityVersions spec.versions (normalizeLimits limits) = .ok versions
  have moved : (∃ spec ∈ specs, ¬ Valid spec) ↔ ∃ spec ∈ others, ¬ Valid spec := by
    refine sameSpecs.exists_iff (fun a b same => ?_)
    simp only [Valid,same.1,validateAndSortCapabilityVersions_perm same.2]
  refine registerSpecs_accepts (names.nodup_iff.mp registered.distinct) (fun spec member => ⟨rfl,?_⟩)
  by_contra invalid
  obtain ⟨other,inside,refused⟩ := moved.mpr ⟨spec,member,invalid⟩
  obtain ⟨named,versions,sorted,_⟩ := registered.each other inside
  exact refused ⟨named,versions,sorted⟩

end Rearrangement

/-- Negotiation fails exactly on a required offer without a common version; otherwise it selects the largest
common version of every offered name, in name order, both sides accept the selection, and no order of the
specifications, of the offers or of their versions changes it. -/
theorem negotiate_correct (limits : Limits) (specs : List CapabilitySpec) (registry : CapabilityRegistry)
    (offers copies : List CapabilityOffer) (created : newCapabilityRegistry specs limits = .ok registry)
    (copied : validateAndCopyCapabilityOffers offers limits = .ok copies) :
    ((∃ error, registry.negotiate offers limits = .error error) ↔ Unsupported specs offers) ∧
      (∀ capabilities, registry.negotiate offers limits = .ok capabilities →
        capabilities.selections.Pairwise (fun a b => a.name < b.name) ∧
          (∀ capability, capability ∈ capabilities.selections ↔ Selected specs offers capability) ∧
          validateNegotiatedAgainstOffers offers capabilities.selections limits = .ok () ∧
          newSessionCapabilities capabilities.selections limits = .ok capabilities) ∧
      ∀ others given, Rearranged SameSpec specs others → Rearranged SameOffer offers given →
        ∃ another, newCapabilityRegistry others limits = .ok another ∧
          ∀ capabilities, another.negotiate given limits = .ok capabilities ↔
            registry.negotiate offers limits = .ok capabilities := by
  have registered := newCapabilityRegistry_registered created
  refine ⟨⟨fun ⟨error,failed⟩ => ?_,negotiate_unsupported registered copied⟩,fun capabilities negotiated => ?_,
    fun others given sameSpecs sameOffers => ?_⟩
  · by_contra supported
    obtain ⟨_,negotiated,_⟩ := negotiate_selects registered copied supported
    rw [failed] at negotiated
    cases negotiated
  · have supported : ¬ Unsupported specs offers := by
      intro missing
      obtain ⟨_,failed⟩ := negotiate_unsupported registered copied missing
      rw [failed] at negotiated
      cases negotiated
    obtain ⟨_,same,member,accepted⟩ := negotiate_selects registered copied supported
    cases same.symm.trans negotiated
    exact ⟨capabilities.ordered,member,negotiated_accepted registered copied supported member accepted,accepted⟩
  · obtain ⟨another,accepted⟩ := registry_rearranged sameSpecs created
    obtain ⟨moved,copiedGiven⟩ := copied_rearranged sameOffers copied
    refine ⟨another,accepted,fun capabilities => ?_⟩
    have registeredOthers := newCapabilityRegistry_registered accepted
    by_cases missing : Unsupported specs offers
    · obtain ⟨_,failed⟩ := negotiate_unsupported registered copied missing
      obtain ⟨_,failedGiven⟩ := negotiate_unsupported registeredOthers copiedGiven
        ((Unsupported.rearranged sameSpecs sameOffers).mp missing)
      rw [failed,failedGiven]
      simp
    · obtain ⟨left,negotiated,member,_⟩ := negotiate_selects registered copied missing
      obtain ⟨right,negotiatedGiven,memberGiven,_⟩ := negotiate_selects registeredOthers copiedGiven
        (fun again => missing ((Unsupported.rearranged sameSpecs sameOffers).mpr again))
      have same : left = right := SessionCapabilities.ext_mem (fun capability => by
        rw [member,memberGiven,Selected.rearranged sameSpecs sameOffers])
      rw [negotiated,negotiatedGiven,same]

theorem negotiate_correct_unsorted :
    ∃ registry copies, newCapabilityRegistry [⟨lit "b",[3,1,2]⟩,⟨lit "a",[5]⟩] defaultLimits = .ok registry ∧
      validateAndCopyCapabilityOffers [⟨lit "a",[6,5],true⟩,⟨lit "b",[2,4,1],false⟩] defaultLimits = .ok copies ∧
      ∃ capabilities, registry.negotiate [⟨lit "a",[6,5],true⟩,⟨lit "b",[2,4,1],false⟩] defaultLimits = .ok capabilities ∧
        capabilities.selections = [⟨lit "a",5⟩,⟨lit "b",2⟩] ∧
        validateNegotiatedAgainstOffers [⟨lit "a",[6,5],true⟩,⟨lit "b",[2,4,1],false⟩] capabilities.selections
          defaultLimits = .ok () := by
  have created : newCapabilityRegistry [⟨lit "b",[3,1,2]⟩,⟨lit "a",[5]⟩] defaultLimits =
      .ok (AList.insert (lit "a") [5] (AList.insert (lit "b") [1,2,3] ∅)) := by rfl
  have copied : validateAndCopyCapabilityOffers [⟨lit "a",[6,5],true⟩,⟨lit "b",[2,4,1],false⟩] defaultLimits =
      .ok [⟨lit "a",[5,6],true⟩,⟨lit "b",[1,2,4],false⟩] := by decide +kernel
  have negotiated : CapabilityRegistry.negotiate (AList.insert (lit "a") [5] (AList.insert (lit "b") [1,2,3] ∅))
      [⟨lit "a",[6,5],true⟩,⟨lit "b",[2,4,1],false⟩] defaultLimits =
      .ok ⟨[⟨lit "a",5⟩,⟨lit "b",2⟩],by decide +kernel⟩ := by decide +kernel
  refine ⟨_,_,created,copied,_,negotiated,rfl,?_⟩
  exact ((negotiate_correct _ _ _ _ _ created copied).2.1 _ negotiated).2.2.1

end Kmtproto
