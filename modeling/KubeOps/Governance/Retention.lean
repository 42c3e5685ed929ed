import Mathlib.Algebra.Ring.Nat
import KubeOps.Foundation.Listing
import KubeOps.Foundation.Program
import KubeOps.Foundation.Segments
import KubeOps.Models.JsonTree

/-! The plan of what may be deleted. Resources are reported by an id that is put together from their
type and id, and the bytes to be won are summed over those whose id is listed. Instants are
microseconds from 1970-01-01T00:00 UTC. -/
namespace KubeOps.Governance

open KubeOps.Foundation KubeOps.Models

structure RetentionPolicy where
  policyId : String
  artifactRetentionDays : Nat := 90
  auditRetentionDays : Nat := 365
  snapshotRetentionDays : Nat := 30
  incidentRetentionDays : Nat := 365
  operationRetentionDays : Nat := 365
  preserveFailedOperations : Bool := true
  preserveCertificates : Bool := true
  legalHoldLabels : Dict String String := ∅
  valid_artifact : 1 ≤ artifactRetentionDays
  valid_audit : 1 ≤ auditRetentionDays
  valid_snapshot : 1 ≤ snapshotRetentionDays
  valid_incident : 1 ≤ incidentRetentionDays
  valid_operation : 1 ≤ operationRetentionDays

structure RetentionCandidate where
  candidateId : String
  resourceType : String
  resourceId : String
  createdAtIso : String
  expiresAtIso : String
  sizeBytes : Nat := 0
  isProtected : Bool := false
  protectionReasons : List String := []
  metadata : JsonObject := ∅

structure RetentionPlan where
  planId : String
  policyId : String
  generatedAtIso : String
  candidates : List RetentionCandidate := []
  eligibleCandidateIds : List String := []
  protectedCandidateIds : List String := []
  totalReclaimableBytes : Nat := 0
  dryRun : Bool := true

section Library

/-- 0001-01-01T00:00, the first instant a `datetime` may have. -/
def earliest : Int := -62135596800000000

/-- 9999-12-31T23:59:59.999999 -/
def latest : Int := 253402300799999999

def checkRange (instant : Int) : Except PyError Int :=
  if earliest ≤ instant ∧ instant ≤ latest then .ok instant else .error
    (.overflowError "date value out of range")

/-- `replace(tzinfo=timezone.utc)` of a naive time, `astimezone(timezone.utc)` of another one. -/
def toUtc (datetime : Datetime) : Except PyError Int :=
  match datetime.utcOffset with
  | none => .ok datetime.wallMicroseconds
  | some _ => checkRange datetime.instant

/-- `instant + timedelta(days=days)` -/
def addDays (instant : Int) (days : Nat) : Except PyError Int :=
  if 2147483647 < days then .error (.overflowError "Python int too large to convert to C int")
  else if 999999999 < days then .error (.overflowError s!"days={days}; must have magnitude <= 999999999")
  else checkRange (instant + days * 86400000000)

/-- One element of the sequence that `dict` is made from. -/
def pairOf (element : Json × Nat) : Except PyError (Json × Json) :=
  match element.1.iterate with
  | .error _ =>
      .error (.typeError s!"cannot convert dictionary update sequence element #{element.2} to a sequence")
  | .ok [key, value] => do
    let key ← key.hashed
    return (key, value)
  | .ok items => .error (.valueError
      s!"dictionary update sequence element #{element.2} has length {items.length}; 2 is required")

def textKeyed : Json × Json → Option (String × Json)
  | (.str key, value) => some (key, value)
  | _ => none

/-- `dict(value)`, without the keys that are not texts: no label is looked up by them. -/
def toDict (value : Json) : Except PyError JsonObject :=
  match value with
  | .dict entries => .ok (Dict.ofList entries)
  | value => do
    let elements ← value.iterate
    let pairs ← elements.zipIdx.mapM pairOf
    return Dict.ofList (pairs.filterMap textKeyed)

end Library

section Planning

variable (python : Python)

/-- `getattr(policy, _FIELD_BY_TYPE.get(resource_type, "artifact_retention_days"))` -/
def RetentionPolicy.retentionDays (policy : RetentionPolicy) (resourceType : String) : Nat :=
  if resourceType = "audit" then policy.auditRetentionDays
  else if resourceType = "snapshot" then policy.snapshotRetentionDays
  else if resourceType = "incident" then policy.incidentRetentionDays
  else if resourceType = "operation" then policy.operationRetentionDays
  else policy.artifactRetentionDays

def createdAt (resource : JsonObject) : Except PyError Int := do
  let text := Text.replaceChar (python.str (← subscript python resource "created_at_iso")) 'Z' "+00:00"
  match python.fromIsoFormat text with
  | some datetime => toUtc datetime
  | none => .error (.valueError s!"Invalid isoformat string: {python.repr (.str text)}")

def holdLabelsOf (resource : JsonObject) : Except PyError JsonObject :=
  toDict ((resource.get? "labels").getD (.dict []))

def sizeBytesOf (resource : JsonObject) : Except PyError Int :=
  Json.toInt python ((resource.get? "size_bytes").getD (.int 0))

def RetentionPolicy.keepsFailed (policy : RetentionPolicy) (resourceType : String)
    (resource : JsonObject) : Bool :=
  policy.preserveFailedOperations && resourceType = "operation" && resource.get? "status" = some (.str "failed")

def RetentionPolicy.keepsCertificate (policy : RetentionPolicy) (resource : JsonObject) : Bool :=
  policy.preserveCertificates && (resource.get? "has_certificate").any Json.truthy

def RetentionPolicy.holds (policy : RetentionPolicy) (labels : JsonObject) : Bool :=
  ¬ policy.legalHoldLabels.entries.isEmpty &&
    policy.legalHoldLabels.entries.all fun hold => labels.get? hold.1 = some (.str hold.2)

/-- What the loop body appends for one resource. -/
def RetentionPlanner.candidate (policy : RetentionPolicy) (now : Int) (resource : JsonObject) :
    Except PyError RetentionCandidate := do
  let resourceType := python.str (← subscript python resource "resource_type")
  let created ← createdAt python resource
  let expiry ← addDays created (policy.retentionDays resourceType)
  let labels ← holdLabelsOf resource
  let reasons :=
    (if policy.keepsFailed resourceType resource then ["failed operation preservation policy"] else []) ++
    (if policy.keepsCertificate resource then ["certificate preservation policy"] else []) ++
    (if policy.holds labels then ["legal hold label match"] else [])
  let resourceId := python.str (← subscript python resource "resource_id")
  let size ← sizeBytesOf python resource
  if size < 0 then .error (.validationError "size_bytes: Input should be greater than or equal to 0")
  else return {
    candidateId := s!"retention:{resourceType}:{resourceId}"
    resourceType
    resourceId
    createdAtIso := python.isoFormat created
    expiresAtIso := python.isoFormat expiry
    sizeBytes := size.toNat
    isProtected := ¬ reasons.isEmpty
    protectionReasons := reasons
    metadata := Dict.ofList [("expired", .bool (expiry ≤ now))] }

def RetentionCandidate.expired (candidate : RetentionCandidate) : Bool :=
  (candidate.metadata.get? "expired").any Json.truthy

def RetentionCandidate.eligible (candidate : RetentionCandidate) : Bool :=
  !candidate.isProtected && candidate.expired

/-- The instant of the plan: `at` in UTC, or the clock's. -/
def RetentionPlanner.now (at? : Option Datetime) (clock : Int) : Except PyError Int :=
  match at? with
  | some datetime => toUtc datetime
  | none => .ok clock

def RetentionPlanner.plan (policy : RetentionPolicy) (resources : List JsonObject) (at? : Option Datetime)
    (clock : Int) (uuid : String) : Except PyError RetentionPlan := do
  let now ← RetentionPlanner.now at? clock
  let candidates ← resources.mapM (RetentionPlanner.candidate python policy now)
  let eligible := (candidates.filter RetentionCandidate.eligible).map RetentionCandidate.candidateId
  let kept := (candidates.filter RetentionCandidate.isProtected).map RetentionCandidate.candidateId
  let reclaimable :=
    ((candidates.filter fun item => item.candidateId ∈ eligible).map RetentionCandidate.sizeBytes).sum
  return {
    planId := s!"retention-plan:{uuid}"
    policyId := policy.policyId
    generatedAtIso := python.isoFormat now
    candidates
    eligibleCandidateIds := eligible
    protectedCandidateIds := kept
    totalReclaimableBytes := reclaimable
    dryRun := true }

end Planning

section Meaning

variable (python : Python)

def typeOf (resource : JsonObject) : String := python.str ((resource.get? "resource_type").getD .null)

def idOf (resource : JsonObject) : String := python.str ((resource.get? "resource_id").getD .null)

def candidateIdOf (resource : JsonObject) : String :=
  s!"retention:{typeOf python resource}:{idOf python resource}"

def expired (policy : RetentionPolicy) (now : Int) (resource : JsonObject) : Bool :=
  (createdAt python resource).toOption.any fun created =>
    created + policy.retentionDays (typeOf python resource) * 86400000000 ≤ now

def keeps (policy : RetentionPolicy) (resource : JsonObject) : Bool :=
  policy.keepsFailed (typeOf python resource) resource || policy.keepsCertificate resource ||
    (holdLabelsOf resource).toOption.any policy.holds

def reclaims (policy : RetentionPolicy) (now : Int) (resource : JsonObject) : Bool :=
  !keeps python policy resource && expired python policy now resource

def bytesOf (resource : JsonObject) : Nat := ((sizeBytesOf python resource).toOption.getD 0).toNat

/-- Everything that is read of a resource is there, and its last day is a date. -/
structure Readable (policy : RetentionPolicy) (resource : JsonObject) : Prop where
  typed : ∃ value, subscript python resource "resource_type" = .ok value
  dated : ∃ created, createdAt python resource = .ok created ∧
    ∃ expiry, addDays created (policy.retentionDays (typeOf python resource)) = .ok expiry
  labelled : ∃ labels, holdLabelsOf resource = .ok labels
  identified : ∃ value, subscript python resource "resource_id" = .ok value
  sized : ∃ size, sizeBytesOf python resource = .ok size ∧ 0 ≤ size

variable {python} {policy : RetentionPolicy} {now : Int} {resource : JsonObject}

theorem candidateIdOf_eq (python : Python) (resource : JsonObject) : candidateIdOf python resource =
    "retention:" ++ (typeOf python resource ++ String.singleton ':' ++ idOf python resource) := by
  apply String.toList_injective
  simp [candidateIdOf, ToString.toString]

/-- The texts `type:id` of the resources are the same: the types and ids are, or the type of one of them goes
on into the id of the other. -/
def Shares (python : Python) (one two : JsonObject) : Prop :=
  typeOf python one = typeOf python two ∧ idOf python one = idOf python two ∨
    (∃ middle, typeOf python two = typeOf python one ++ String.singleton ':' ++ middle ∧
      idOf python one = middle ++ String.singleton ':' ++ idOf python two) ∨
    ∃ middle, typeOf python one = typeOf python two ++ String.singleton ':' ++ middle ∧
      idOf python two = middle ++ String.singleton ':' ++ idOf python one

theorem candidateIdOf_inj_iff {one two : JsonObject} :
    candidateIdOf python one = candidateIdOf python two ↔ Shares python one two := by
  have hfront : ∀ left right : String, "retention:" ++ left = "retention:" ++ right ↔ left = right := by
    intro left right
    rw [← String.toList_inj, String.toList_append, String.toList_append, List.append_cancel_left_eq,
      String.toList_inj]
  rw [candidateIdOf_eq, candidateIdOf_eq, hfront]
  exact join_eq_join ':'

theorem addDays_eq {instant expiry : Int} {days : Nat} (h : addDays instant days = .ok expiry) :
    expiry = instant + days * 86400000000 := by
  unfold addDays checkRange at h
  split at h
  · cases h
  · split at h
    · cases h
    · split at h
      · exact (Except.ok.inj h).symm
      · cases h

/-- What the plan reads of a candidate. -/
structure Standing where
  candidateId : String
  sizeBytes : Nat
  eligible : Bool
  isProtected : Bool

def RetentionCandidate.standing (candidate : RetentionCandidate) : Standing :=
  ⟨candidate.candidateId, candidate.sizeBytes, candidate.eligible, candidate.isProtected⟩

def standingOf (python : Python) (policy : RetentionPolicy) (now : Int) (resource : JsonObject) : Standing :=
  ⟨candidateIdOf python resource, bytesOf python resource, reclaims python policy now resource,
    keeps python policy resource⟩

theorem standing_of_candidate {candidate : RetentionCandidate}
    (h : RetentionPlanner.candidate python policy now resource = .ok candidate) :
    candidate.standing = standingOf python policy now resource ∧ Readable python policy resource := by
  unfold RetentionPlanner.candidate at h
  obtain ⟨resourceType, htype, h⟩ := except_bind_eq_ok h
  obtain ⟨created, hcreated, h⟩ := except_bind_eq_ok h
  obtain ⟨expiry, hexpiry, h⟩ := except_bind_eq_ok h
  obtain ⟨labels, hlabels, h⟩ := except_bind_eq_ok h
  obtain ⟨resourceId, hid, h⟩ := except_bind_eq_ok h
  obtain ⟨size, hsize, h⟩ := except_bind_eq_ok h
  split at h
  · cases h
  · next hnegative =>
    obtain rfl := Except.ok.inj h
    have htypeOf : typeOf python resource = python.str resourceType := by
      rw [typeOf, getD_of_subscript htype]
    have hdate : (Dict.ofList [("expired", Json.bool (decide (expiry ≤ now)))]).get? "expired" =
        some (.bool (decide (expiry ≤ now))) := rfl
    constructor
    · unfold standingOf RetentionCandidate.standing RetentionCandidate.eligible
        RetentionCandidate.expired reclaims
      simp only [candidateIdOf, idOf, htypeOf, getD_of_subscript hid, bytesOf, hsize, keeps, expired,
        hcreated, hlabels,
        Except.toOption, Option.any_some, Option.getD_some, hdate, Json.truthy, ← addDays_eq hexpiry]
      cases policy.keepsFailed (python.str resourceType) resource <;> cases policy.keepsCertificate resource <;>
        cases policy.holds labels <;> rfl
    · constructor
      · exact ⟨resourceType, htype⟩
      · rw [htypeOf]
        exact ⟨created, hcreated, expiry, hexpiry⟩
      · exact ⟨labels, hlabels⟩
      · exact ⟨resourceId, hid⟩
      · exact ⟨size, hsize, by omega⟩

theorem exists_candidate (h : Readable python policy resource) :
    ∃ candidate, RetentionPlanner.candidate python policy now resource = .ok candidate := by
  obtain ⟨resourceType, htype⟩ := h.typed
  obtain ⟨created, hcreated, expiry, hexpiry⟩ := h.dated
  obtain ⟨labels, hlabels⟩ := h.labelled
  obtain ⟨resourceId, hid⟩ := h.identified
  obtain ⟨size, hsize, hsigned⟩ := h.sized
  rw [typeOf, getD_of_subscript htype] at hexpiry
  unfold RetentionPlanner.candidate
  simp only [htype, hcreated, hexpiry, hlabels, hid, hsize, bind, Except.bind, pure, Except.pure,
    if_neg (not_lt.mpr hsigned)]
  exact ⟨_, rfl⟩

end Meaning

section Plans

variable {python : Python} {policy : RetentionPolicy} {resources : List JsonObject} {at? : Option Datetime}
variable {clock now : Int} {uuid : String} {plan : RetentionPlan}

theorem planned (hnow : RetentionPlanner.now at? clock = .ok now)
    (hplan : RetentionPlanner.plan python policy resources at? clock uuid = .ok plan) :
    plan.eligibleCandidateIds = listedKeys (candidateIdOf python) (reclaims python policy now) resources ∧
    plan.protectedCandidateIds = listedKeys (candidateIdOf python) (keeps python policy) resources ∧
    plan.totalReclaimableBytes = ((resources.filter fun resource =>
      candidateIdOf python resource ∈ plan.eligibleCandidateIds).map (bytesOf python)).sum ∧
    ∀ resource ∈ resources, Readable python policy resource := by
  unfold RetentionPlanner.plan at hplan
  obtain ⟨instant, hinstant, hplan⟩ := except_bind_eq_ok hplan
  obtain rfl : now = instant := Except.ok.inj (hnow.symm.trans hinstant)
  obtain ⟨candidates, hcandidates, hplan⟩ := except_bind_eq_ok hplan
  obtain rfl := Except.ok.inj hplan
  have hentries : candidates.map RetentionCandidate.standing = resources.map (standingOf python policy now) :=
    map_eq_of_mapM hcandidates fun resource candidate h => (standing_of_candidate h).1
  -- each list of the plan is read off the entries, which are those of the resources
  have hread : ∀ {β : Type} (chosen : Standing → Bool) (value : Standing → β),
      (candidates.filter fun item => chosen item.standing).map (fun item => value item.standing) =
        (resources.filter fun item => chosen (standingOf python policy now item)).map
          (fun item => value (standingOf python policy now item)) := by
    intro β chosen value
    have hboth := congrArg (fun entries => (entries.filter chosen).map value) hentries
    simpa [List.filter_map, Function.comp_def] using hboth
  refine ⟨hread Standing.eligible Standing.candidateId, hread Standing.isProtected Standing.candidateId, ?_, ?_⟩
  · exact congrArg List.sum (hread (fun item => decide (item.candidateId ∈
      (candidates.filter RetentionCandidate.eligible).map RetentionCandidate.candidateId)) Standing.sizeBytes)
  · intro resource hresource
    obtain ⟨candidate, -, hcandidate⟩ := exists_mem_of_mapM hcandidates hresource
    exact (standing_of_candidate hcandidate).2

structure Honest (python : Python) (policy : RetentionPolicy) (now : Int) (resources : List JsonObject)
    (plan : RetentionPlan) : Prop where
  eligible_iff : ∀ resource ∈ resources, candidateIdOf python resource ∈ plan.eligibleCandidateIds ↔
    expired python policy now resource = true ∧ keeps python policy resource = false
  disjoint : ∀ name ∈ plan.eligibleCandidateIds, name ∉ plan.protectedCandidateIds
  unique : ∀ name ∈ plan.eligibleCandidateIds ++ plan.protectedCandidateIds,
    (resources.map (candidateIdOf python)).count name = 1
  total : plan.totalReclaimableBytes = ((resources.filter fun resource =>
    expired python policy now resource && !keeps python policy resource).map (bytesOf python)).sum

/-- What one of the two lists is about. -/
def listable (python : Python) (policy : RetentionPolicy) (now : Int) (resource : JsonObject) : Bool :=
  expired python policy now resource || keeps python policy resource

theorem mem_listable {name : String} :
    name ∈ listedKeys (candidateIdOf python) (reclaims python policy now) resources ++
        listedKeys (candidateIdOf python) (keeps python policy) resources ↔
      name ∈ listedKeys (candidateIdOf python) (listable python policy now) resources := by
  rw [List.mem_append, mem_listedKeys, mem_listedKeys, mem_listedKeys, ← exists_or]
  apply exists_congr
  intro resource
  rw [← and_or_left]
  apply and_congr_right
  intro _
  rw [← or_and_right]
  apply and_congr_left
  intro _
  simp only [reclaims, listable]
  cases keeps python policy resource <;> simp

theorem honest_iff (hnow : RetentionPlanner.now at? clock = .ok now)
    (hplan : RetentionPlanner.plan python policy resources at? clock uuid = .ok plan) :
    Honest python policy now resources plan ↔
      KeyedApart (candidateIdOf python) (listable python policy now) resources := by
  obtain ⟨heligible, hkept, htotal, -⟩ := planned hnow hplan
  constructor
  · intro hhonest
    rw [keyedApart_iff_count]
    intro name hname
    apply hhonest.unique
    rw [heligible, hkept]
    exact mem_listable.mpr hname
  · intro hapart
    have hreclaims : ∀ resource, reclaims python policy now resource = true ↔
        expired python policy now resource = true ∧ keeps python policy resource = false := by
      intro resource
      simp [reclaims, and_comm]
    have hmarked : ∀ resource, reclaims python policy now resource = true →
        listable python policy now resource = true := by
      intro resource hresource
      simp [listable, ((hreclaims resource).mp hresource).1]
    have hlisted : ∀ resource ∈ resources, candidateIdOf python resource ∈ plan.eligibleCandidateIds ↔
        reclaims python policy now resource = true := by
      intro resource hresource
      rw [heligible]
      exact hapart.mem_listedKeys_iff hmarked hresource
    constructor
    · intro resource hresource
      rw [hlisted resource hresource, hreclaims]
    · intro name hname
      rw [heligible] at hname
      rw [hkept]
      exact hapart.disjoint hmarked (fun resource h => ((hreclaims resource).mp h).2) hname
    · intro name hname
      rw [heligible, hkept] at hname
      exact keyedApart_iff_count.mp hapart name (mem_listable.mp hname)
    · rw [htotal]
      congr 2
      apply List.filter_congr
      intro resource hresource
      rw [Bool.eq_iff_iff, decide_eq_true_iff, hlisted resource hresource, hreclaims]
      simp

/-- A plan is returned and honest exactly when everything can be read and no resource that is expired or
protected shares its text `type:id` with another one. -/
theorem plan_honest_iff (python : Python) (policy : RetentionPolicy) (resources : List JsonObject)
    (at? : Option Datetime) (clock : Int) (uuid : String) :
    (∃ now plan, RetentionPlanner.now at? clock = .ok now ∧
      RetentionPlanner.plan python policy resources at? clock uuid = .ok plan ∧
      Honest python policy now resources plan) ↔
    ∃ now, RetentionPlanner.now at? clock = .ok now ∧
      (∀ resource ∈ resources, Readable python policy resource) ∧
      resources.Pairwise fun one two =>
        (listable python policy now one || listable python policy now two) = true →
          ¬ Shares python one two := by
  have hshares : ∀ now, (resources.Pairwise fun one two =>
      (listable python policy now one || listable python policy now two) = true → ¬ Shares python one two) ↔
        KeyedApart (candidateIdOf python) (listable python policy now) resources := by
    intro now
    simp only [KeyedApart, Ne, candidateIdOf_inj_iff]
  constructor
  · rintro ⟨now, plan, hnow, hplan, hhonest⟩
    refine ⟨now, hnow, (planned hnow hplan).2.2.2, ?_⟩
    rw [hshares]
    exact (honest_iff hnow hplan).mp hhonest
  · rintro ⟨now, hnow, hreadable, hpairwise⟩
    obtain ⟨candidates, hcandidates⟩ := exists_mapM_ok (f := RetentionPlanner.candidate python policy now)
      fun resource hresource => exists_candidate (hreadable resource hresource)
    have hplan : ∃ plan, RetentionPlanner.plan python policy resources at? clock uuid = .ok plan := by
      unfold RetentionPlanner.plan
      rw [hnow]
      simp only [bind, Except.bind] at hcandidates ⊢
      rw [hcandidates]
      exact ⟨_, rfl⟩
    obtain ⟨plan, hplan⟩ := hplan
    refine ⟨now, plan, hnow, hplan, ?_⟩
    rw [honest_iff hnow hplan, ← hshares]
    exact hpairwise

section Sharing

/-- The library on the one date that the resources below have. -/
def newYearPython : Python :=
  { Python.plain with
    fromIsoFormat := fun text => if text = "2026-01-01T00:00:00+00:00" then some
      ⟨1767225600000000, some 0⟩ else none }

def defaultRetention : RetentionPolicy where
  policyId := "default"
  valid_artifact := by decide
  valid_audit := by decide
  valid_snapshot := by decide
  valid_incident := by decide
  valid_operation := by decide

/-- A certified artifact, and one of another type whose id goes on as the first type does. -/
def sharedInventory : List JsonObject :=
  [Dict.ofList [("resource_type", .str "artifact"), ("resource_id", .str "log:1"),
      ("created_at_iso", .str "2026-01-01T00:00:00Z"), ("size_bytes", .int 20),
        ("has_certificate", .bool true)],
    Dict.ofList [("resource_type", .str "artifact:log"), ("resource_id", .str "1"),
      ("created_at_iso", .str "2026-01-01T00:00:00Z"), ("size_bytes", .int 10)]]

/-- A year later the protected artifact is listed as eligible too, and its bytes are counted; and with a
retention that ends after the year 9999 there is no plan at all. -/
theorem sharedInventory_not_honest :
    (RetentionPlanner.plan newYearPython defaultRetention sharedInventory none 1798761600000000 "").map
      (fun plan => (plan.eligibleCandidateIds, plan.protectedCandidateIds, plan.totalReclaimableBytes)) =
        .ok (["retention:artifact:log:1"], ["retention:artifact:log:1"], 30) ∧
    (RetentionPlanner.plan newYearPython
      { defaultRetention with artifactRetentionDays := 3000000, valid_artifact := by decide }
      sharedInventory none 1798761600000000 "").map (fun plan => plan.totalReclaimableBytes) =
        .error (.overflowError "date value out of range") := by
  decide

end Sharing

end Plans

end KubeOps.Governance
