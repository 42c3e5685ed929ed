import KubeOps.Foundation.Digests
import KubeOps.Foundation.Program
import KubeOps.Models.JsonText
import Mathlib.Data.List.TakeWhile

/-! The audit chain: events that carry the hash of the event before them, the two
writers of a chain and its verification. -/
namespace KubeOps.Governance

open KubeOps.Foundation KubeOps.Models

@[ext] structure AuditEvent where
  schemaVersion : String := "kubeops.io/v1"
  eventId : String
  sequence : Nat
  organizationId : String
  workspaceId : String
  principalId : String
  action : String
  resourceType : String
  resourceId : String
  outcome : String
  occurredAtIso : String
  requestId : Option String := none
  sourceIp : Option String := none
  userAgent : Option String := none
  details : JsonObject := ∅
  previousHash : Option String := none
  eventHash : String

/-- `None` or a text. -/
def optional : Option String → Json
  | none => .null
  | some text => .str text

namespace AuditEvent

/-- `model_dump(mode="json", exclude={"event_hash"})` -/
def body (event : AuditEvent) : List (String × Json) := [
  ("schema_version", .str event.schemaVersion),
  ("event_id", .str event.eventId),
  ("sequence", .int event.sequence),
  ("organization_id", .str event.organizationId),
  ("workspace_id", .str event.workspaceId),
  ("principal_id", .str event.principalId),
  ("action", .str event.action),
  ("resource_type", .str event.resourceType),
  ("resource_id", .str event.resourceId),
  ("outcome", .str event.outcome),
  ("occurred_at_iso", .str event.occurredAtIso),
  ("request_id", optional event.requestId),
  ("source_ip", optional event.sourceIp),
  ("user_agent", optional event.userAgent),
  ("details", .dict event.details.entries),
  ("previous_hash", optional event.previousHash)]

/-- `model_dump(mode="json")` -/
def modelDump (event : AuditEvent) : List (String × Json) :=
  event.body ++ [("event_hash", .str event.eventHash)]

def fieldNames : List String := [
  "schema_version", "event_id", "sequence", "organization_id", "workspace_id", "principal_id",
  "action", "resource_type", "resource_id", "outcome", "occurred_at_iso", "request_id", "source_ip",
  "user_agent", "details", "previous_hash", "event_hash"]

def readText (payload : Json) (key : String) : Except PyError String :=
  match Json.entry? key payload with
  | some (.str text) => .ok text
  | some _ => .error (.validationError s!"{key}: Input should be a valid string")
  | none => .error (.validationError s!"{key}: Field required")

def readOptional (payload : Json) (key : String) : Except PyError (Option String) :=
  match Json.entry? key payload with
  | none => .ok none
  | some .null => .ok none
  | some (.str text) => .ok (some text)
  | some _ => .error (.validationError s!"{key}: Input should be a valid string")

/-- What passes for an integer: also truth values, whole floats and numerals. -/
def lenientInt (python : Python) : Json → Option Int
  | .int value => some value
  | .bool value => some (if value then 1 else 0)
  | .float value => if value.den = 1 then some value.num else none
  | .str text => python.parseInt text
  | _ => none

def readSequence (python : Python) (payload : Json) : Except PyError Nat :=
  match Json.entry? "sequence" payload with
  | none => .error (.validationError "sequence: Field required")
  | some value =>
    match lenientInt python value with
    | none => .error (.validationError "sequence: Input should be a valid integer")
    | some number =>
      if 0 ≤ number then .ok number.toNat
      else .error (.validationError "sequence: Input should be greater than or equal to 0")

def readDetails (payload : Json) : Except PyError JsonObject :=
  match Json.entry? "details" payload with
  | none => .ok ∅
  | some (.dict entries) => .ok (Dict.ofList entries)
  | some _ => .error (.validationError "details: Input should be a valid dictionary")

def readVersion (payload : Json) : Except PyError String :=
  match Json.entry? "schema_version" payload with
  | none => .ok "kubeops.io/v1"
  | some (.str text) => .ok text
  | some _ => .error (.validationError "schema_version: Input should be a valid string")

/-- `AuditEvent.model_validate`, which forbids other fields. -/
def modelValidate (python : Python) (payload : Json) : Except PyError AuditEvent :=
  match payload with
  | .dict entries =>
    match entries.find? fun entry => entry.1 ∉ fieldNames with
    | some entry => .error (.validationError s!"{entry.1}: Extra inputs are not permitted")
    | none => do
      let schemaVersion ← readVersion payload
      let eventId ← readText payload "event_id"
      let sequence ← readSequence python payload
      let organizationId ← readText payload "organization_id"
      let workspaceId ← readText payload "workspace_id"
      let principalId ← readText payload "principal_id"
      let action ← readText payload "action"
      let resourceType ← readText payload "resource_type"
      let resourceId ← readText payload "resource_id"
      let outcome ← readText payload "outcome"
      let occurredAtIso ← readText payload "occurred_at_iso"
      let requestId ← readOptional payload "request_id"
      let sourceIp ← readOptional payload "source_ip"
      let userAgent ← readOptional payload "user_agent"
      let details ← readDetails payload
      let previousHash ← readOptional payload "previous_hash"
      let eventHash ← readText payload "event_hash"
      return { schemaVersion, eventId, sequence, organizationId, workspaceId, principalId, action,
               resourceType, resourceId, outcome, occurredAtIso, requestId, sourceIp, userAgent,
               details, previousHash, eventHash }
  | _ => .error (.validationError "Input should be a valid dictionary or instance of AuditEvent")

section Reading

variable {python : Python} {payload : Json} {key : String}

theorem readText_eq {text : String} (h : Json.entry? key payload = some (.str text)) :
    readText payload key = .ok text := by
  simp [readText, h]

theorem readOptional_eq {text : Option String} (h : Json.entry? key payload = some (optional text)) :
    readOptional payload key = .ok text := by
  cases text with
  | none => simp [readOptional, h, optional]
  | some text => simp [readOptional, h, optional]

theorem readSequence_eq {sequence : Nat} (h : Json.entry? "sequence" payload = some (.int sequence)) :
    readSequence python payload = .ok sequence := by
  simp [readSequence, h, lenientInt]

theorem readDetails_eq {details : JsonObject} (h : Json.entry? "details" payload =
    some (.dict details.entries)) :
    readDetails payload = .ok details := by
  have hdetails : Dict.ofList details.entries = details :=
    Dict.ext_entries (Dict.entries_ofList details.nodup)
  simp [readDetails, h, hdetails]

theorem readVersion_eq {text : String} (h : Json.entry? "schema_version" payload = some (.str text)) :
    readVersion payload = .ok text := by
  simp [readVersion, h]

theorem keys_modelDump (event : AuditEvent) : event.modelDump.map Prod.fst = fieldNames := rfl

theorem modelValidate_modelDump (python : Python) (event : AuditEvent) :
    modelValidate python (.dict event.modelDump) = .ok event := by
  have hknown : event.modelDump.find? (fun entry => entry.1 ∉ fieldNames) = none := by
    rw [List.find?_eq_none]
    intro entry hentry
    have hname : entry.1 ∈ fieldNames := by
      rw [← keys_modelDump event]
      exact List.mem_map_of_mem hentry
    simp [hname]
  have htext : ∀ key text, Json.entry? key (.dict event.modelDump) = some (.str text) →
      readText (.dict event.modelDump) key = .ok text := fun _ _ => readText_eq
  have hoptional : ∀ key text, Json.entry? key (.dict event.modelDump) = some (optional text) →
      readOptional (.dict event.modelDump) key = .ok text := fun _ _ => readOptional_eq
  have hversion : readVersion (.dict event.modelDump) = .ok event.schemaVersion := readVersion_eq rfl
  have hsequence : readSequence python (.dict event.modelDump) = .ok event.sequence := readSequence_eq rfl
  have hdetails : readDetails (.dict event.modelDump) = .ok event.details := readDetails_eq rfl
  rw [modelValidate, hknown]
  dsimp only
  rw [hversion, hsequence, hdetails,
    htext "event_id" event.eventId rfl, htext "organization_id" event.organizationId rfl,
    htext "workspace_id" event.workspaceId rfl, htext "principal_id" event.principalId rfl,
    htext "action" event.action rfl, htext "resource_type" event.resourceType rfl,
    htext "resource_id" event.resourceId rfl, htext "outcome" event.outcome rfl,
    htext "occurred_at_iso" event.occurredAtIso rfl, htext "event_hash" event.eventHash rfl,
    hoptional "request_id" event.requestId rfl, hoptional "source_ip" event.sourceIp rfl,
    hoptional "user_agent" event.userAgent rfl, hoptional "previous_hash" event.previousHash rfl]
  rfl

end Reading

end AuditEvent

structure AuditChainVerification where
  valid : Bool
  eventCount : Nat
  firstSequence : Option Nat
  lastSequence : Option Nat
  headHash : Option String
  errors : List String
  verifiedAtIso : String

namespace AuditChain

/-- `AuditChain._hash` -/
def hash (python : Python) (payload : List (String × Json)) : String :=
  python.sha256 (python.dumps (.dict payload))

/-- The arguments of `append`, with the identifier and the time it draws. -/
structure Entry where
  uuid : String
  nowIso : String
  organizationId : String
  workspaceId : String
  principalId : String
  action : String
  resourceType : String
  resourceId : String
  outcome : String
  requestId : Option String := none
  sourceIp : Option String := none
  userAgent : Option String := none
  details : Option JsonObject := none
  occurredAtIso : Option String := none

namespace Entry

/-- `occurred_at_iso or utc_now_iso()` -/
def occurred (entry : Entry) : String :=
  (entry.occurredAtIso.filter fun text => text ≠ "").getD entry.nowIso

/-- The dictionary `base`. -/
def base (entry : Entry) (sequence : Nat) (previousHash : Option String) : List (String × Json) := [
  ("event_id", .str s!"audit:{entry.uuid}"),
  ("sequence", .int sequence),
  ("organization_id", .str entry.organizationId),
  ("workspace_id", .str entry.workspaceId),
  ("principal_id", .str entry.principalId),
  ("action", .str entry.action),
  ("resource_type", .str entry.resourceType),
  ("resource_id", .str entry.resourceId),
  ("outcome", .str entry.outcome),
  ("occurred_at_iso", .str entry.occurred),
  ("request_id", optional entry.requestId),
  ("source_ip", optional entry.sourceIp),
  ("user_agent", optional entry.userAgent),
  ("details", .dict (entry.details.getD ∅).entries),
  ("previous_hash", optional previousHash)]

/-- `AuditEvent(**base, event_hash=event_hash)` -/
def event (entry : Entry) (sequence : Nat) (previousHash : Option String) (eventHash : String) :
    AuditEvent where
  eventId := s!"audit:{entry.uuid}"
  sequence := sequence
  organizationId := entry.organizationId
  workspaceId := entry.workspaceId
  principalId := entry.principalId
  action := entry.action
  resourceType := entry.resourceType
  resourceId := entry.resourceId
  outcome := entry.outcome
  occurredAtIso := entry.occurred
  requestId := entry.requestId
  sourceIp := entry.sourceIp
  userAgent := entry.userAgent
  details := entry.details.getD ∅
  previousHash := previousHash
  eventHash := eventHash

end Entry

/-- `AuditChain.append`; the events of the chain afterwards. -/
def append (python : Python) (events : List AuditEvent) (entry : Entry) : List AuditEvent :=
  let previousHash := events.getLast?.map AuditEvent.eventHash
  let base := entry.base events.length previousHash
  let eventHash := hash python (("schema_version", .str "kubeops.io/v1") :: base)
  events ++ [entry.event events.length previousHash eventHash]

/-- What the loop of `verify` finds at one event. -/
def findings (python : Python) (index : Nat) (previous : Option String) (event : AuditEvent) :
    List String :=
  (if event.sequence ≠ index then
    [s!"event {event.eventId} sequence {event.sequence} expected {index}"] else []) ++
  (if event.previousHash ≠ previous then [s!"event {event.eventId} previous hash mismatch"] else []) ++
  (if hash python event.body ≠ event.eventHash then [s!"event {event.eventId} hash mismatch"] else [])

/-- The loop of `verify`: its errors and the last hash. -/
def inspect (python : Python) : Nat → Option String → List AuditEvent → List String × Option String
  | _, previous, [] => ([], previous)
  | index, previous, event :: rest =>
    let rest := inspect python (index + 1) (some event.eventHash) rest
    (findings python index previous event ++ rest.1, rest.2)

def verify (python : Python) (nowIso : String) (events : List AuditEvent) : AuditChainVerification :=
  let inspected := inspect python 0 none events
  { valid := inspected.1 = []
    eventCount := events.length
    firstSequence := events.head?.map AuditEvent.sequence
    lastSequence := events.getLast?.map AuditEvent.sequence
    headHash := inspected.2
    errors := inspected.1
    verifiedAtIso := nowIso }

def links : HashLinks AuditEvent String := ⟨AuditEvent.previousHash, AuditEvent.eventHash⟩

/-- A chain nothing is wrong with. -/
structure Intact (python : Python) (events : List AuditEvent) : Prop where
  linked : links.Linked events
  numbered : events.map AuditEvent.sequence = List.range events.length
  hashed : ∀ event ∈ events, hash python event.body = event.eventHash

section Verification

variable {python : Python} {nowIso : String} {events : List AuditEvent} {index : Nat}
  {previous : Option String} {entry : Entry}

theorem findings_eq_nil {event : AuditEvent} : findings python index previous event = [] ↔
    event.sequence = index ∧ event.previousHash = previous ∧ hash python event.body = event.eventHash := by
  simp [findings]

theorem head_inspect : (inspect python index previous events).2 = (links.head events).or previous := by
  induction events generalizing index previous with
  | nil => rfl
  | cons event events ih =>
    rw [inspect, ih, HashLinks.head, HashLinks.head, List.getLast?_cons]
    cases events.getLast? with
    | none => rfl
    | some last => rfl

theorem inspect_eq_nil : (inspect python index previous events).1 = [] ↔
    links.LinkedFrom previous events ∧
      events.map AuditEvent.sequence = List.range' index events.length ∧
      ∀ event ∈ events, hash python event.body = event.eventHash := by
  induction events generalizing index previous with
  | nil => simp [inspect, HashLinks.LinkedFrom]
  | cons event events ih =>
    rw [inspect, List.append_eq_nil_iff, findings_eq_nil, ih, HashLinks.LinkedFrom, List.map_cons,
      List.length_cons, List.range'_succ, List.cons.injEq, List.forall_mem_cons]
    constructor
    · rintro ⟨⟨hsequence, hprevious, hhash⟩, hlinked, hnumbered, hhashed⟩
      exact ⟨⟨hprevious, hlinked⟩, ⟨hsequence, hnumbered⟩, hhash, hhashed⟩
    · rintro ⟨⟨hprevious, hlinked⟩, ⟨hsequence, hnumbered⟩, hhash, hhashed⟩
      exact ⟨⟨hsequence, hprevious, hhash⟩, hlinked, hnumbered, hhashed⟩

theorem verify_valid : (verify python nowIso events).valid = true ↔ Intact python events := by
  rw [verify, decide_eq_true_eq, inspect_eq_nil, ← List.range_eq_range']
  exact ⟨fun ⟨hlinked, hnumbered, hhashed⟩ => ⟨hlinked, hnumbered, hhashed⟩,
    fun ⟨hlinked, hnumbered, hhashed⟩ => ⟨hlinked, hnumbered, hhashed⟩⟩

theorem verify_headHash : (verify python nowIso events).headHash = links.head events := by
  rw [verify, head_inspect, Option.or_none]

theorem Intact.nil : Intact python [] := ⟨trivial, rfl, by simp⟩

theorem Intact.concat (h : Intact python events) {event : AuditEvent}
    (hsequence : event.sequence = events.length) (hprevious : event.previousHash = links.head events)
    (hhash : hash python event.body = event.eventHash) : Intact python (events ++ [event]) where
  linked := HashLinks.linked_concat.mpr ⟨h.linked, hprevious⟩
  numbered := by
    rw [List.map_append, h.numbered, List.length_append, List.length_singleton, List.range_succ,
      List.map_singleton, hsequence]
  hashed := by
    intro item hitem
    rcases List.mem_append.mp hitem with hitem | hitem
    · exact h.hashed item hitem
    · rw [List.mem_singleton.mp hitem]
      exact hhash

theorem body_event (sequence : Nat) (previousHash : Option String) (eventHash : String) :
    (entry.event sequence previousHash eventHash).body =
      ("schema_version", .str "kubeops.io/v1") :: entry.base sequence previousHash := rfl

theorem Intact.append (h : Intact python events) : Intact python (append python events entry) :=
  h.concat rfl rfl (by rw [body_event]; rfl)

end Verification

end AuditChain

structure AuditEventRecord where
  eventId : String
  organizationId : String
  workspaceId : String
  sequence : Nat
  principalId : String
  action : String
  resourceType : String
  resourceId : String
  outcome : String
  previousHash : Option String
  eventHash : String
  occurredAt : Int
  payload : Json

/-- The arguments of `append_audit_event`, with the identifier and the time it draws. -/
structure AuditCall where
  uuid : String
  occurredAt : Int
  organizationId : String
  workspaceId : String
  principalId : String
  action : String
  resourceType : String
  resourceId : String
  outcome : String
  details : Option JsonObject := none
  requestId : Option String := none
  sourceIp : Option String := none
  userAgent : Option String := none

namespace AuditCall

open AuditChain

/-- The dictionary `base`. -/
def base (python : Python) (call : AuditCall) (sequence : Nat) (previousHash : Option String) :
    List (String × Json) := [
  ("schema_version", .str "kubeops.io/v1"),
  ("event_id", .str s!"audit:{call.uuid}"),
  ("sequence", .int sequence),
  ("organization_id", .str call.organizationId),
  ("workspace_id", .str call.workspaceId),
  ("principal_id", .str call.principalId),
  ("action", .str call.action),
  ("resource_type", .str call.resourceType),
  ("resource_id", .str call.resourceId),
  ("outcome", .str call.outcome),
  ("occurred_at_iso", .str (python.isoFormat call.occurredAt)),
  ("request_id", optional call.requestId),
  ("source_ip", optional call.sourceIp),
  ("user_agent", optional call.userAgent),
  ("details", .dict (call.details.getD ∅).entries),
  ("previous_hash", optional previousHash)]

/-- `AuditEvent(**base, event_hash=event_hash)` -/
def event (python : Python) (call : AuditCall) (sequence : Nat) (previousHash : Option String)
    (eventHash : String) : AuditEvent where
  schemaVersion := "kubeops.io/v1"
  eventId := s!"audit:{call.uuid}"
  sequence := sequence
  organizationId := call.organizationId
  workspaceId := call.workspaceId
  principalId := call.principalId
  action := call.action
  resourceType := call.resourceType
  resourceId := call.resourceId
  outcome := call.outcome
  occurredAtIso := python.isoFormat call.occurredAt
  requestId := call.requestId
  sourceIp := call.sourceIp
  userAgent := call.userAgent
  details := call.details.getD ∅
  previousHash := previousHash
  eventHash := eventHash

/-- `AuditEventRecord.objects.create`, with the event as payload. -/
def record (call : AuditCall) (event : AuditEvent) : AuditEventRecord where
  eventId := event.eventId
  organizationId := call.organizationId
  workspaceId := call.workspaceId
  sequence := event.sequence
  principalId := call.principalId
  action := call.action
  resourceType := call.resourceType
  resourceId := call.resourceId
  outcome := call.outcome
  previousHash := event.previousHash
  eventHash := event.eventHash
  occurredAt := call.occurredAt
  payload := .dict event.modelDump

end AuditCall

def rowsOf (workspaceId : String) (records : List AuditEventRecord) : List AuditEventRecord :=
  records.filter fun row => row.workspaceId = workspaceId

/-- `.order_by("-sequence").first()` -/
def lastOf (rows : List AuditEventRecord) : Option AuditEventRecord :=
  (rows.insertionSort fun one other => other.sequence ≤ one.sequence).head?

/-- `append_audit_event`, which holds the row of the workspace. -/
def appendAuditEvent (python : Python) (records : List AuditEventRecord) (call : AuditCall) :
    Except PyError (List AuditEventRecord) :=
  let last := lastOf (rowsOf call.workspaceId records)
  let sequence := (last.map fun row => row.sequence + 1).getD 0
  let previousHash := last.map AuditEventRecord.eventHash
  let eventHash := AuditChain.hash python (call.base python sequence previousHash)
  let event := call.event python sequence previousHash eventHash
  if ∃ row ∈ records, row.eventId = event.eventId ∨
      (row.workspaceId = call.workspaceId ∧ row.sequence = sequence) then
    .error .integrityError
  else .ok (records ++ [call.record event])

/-- A call that fails leaves the rows as they were. -/
def appendAuditEvents (python : Python) (calls : List AuditCall) : List AuditEventRecord :=
  calls.foldl (fun records call => ((appendAuditEvent python records call).toOption).getD records) []

/-- The events of a workspace as `AuditVerifyView` reads them. -/
def storedEvents (python : Python) (workspaceId : String) (records : List AuditEventRecord) :
    Except PyError (List AuditEvent) :=
  ((rowsOf workspaceId records).insertionSort fun one other => one.sequence ≤ other.sequence).mapM
    fun row => AuditEvent.modelValidate python row.payload

namespace AuditChain

section Storage

variable {python : Python} {rows records : List AuditEventRecord} {events : List AuditEvent}
  {workspaceId : String} {call : AuditCall}

structure Holds (row : AuditEventRecord) (event : AuditEvent) : Prop where
  sequence : row.sequence = event.sequence
  eventHash : row.eventHash = event.eventHash
  payload : row.payload = .dict event.modelDump

theorem sequences_of_holds (h : List.Forall₂ Holds rows events) :
    rows.map AuditEventRecord.sequence = events.map AuditEvent.sequence := by
  induction h with
  | nil => rfl
  | cons hholds _ ih => rw [List.map_cons, List.map_cons, ih, hholds.sequence]

theorem ascending_of_holds (h : List.Forall₂ Holds rows events) (hintact : Intact python events) :
    rows.Pairwise fun one other => one.sequence < other.sequence := by
  have hsequences := (sequences_of_holds h).trans hintact.numbered
  rw [← List.pairwise_map (f := AuditEventRecord.sequence) (R := fun one other => one < other), hsequences]
  exact List.pairwise_lt_range

theorem lastOf_ascending (h : rows.Pairwise fun one other => one.sequence < other.sequence) :
    lastOf rows = rows.getLast? := by
  have hsorted : rows.insertionSort (fun one other => other.sequence ≤ one.sequence) = rows.reverse := by
    induction rows with
    | nil => rfl
    | cons row rows ih =>
      obtain ⟨hrow, hrows⟩ := List.pairwise_cons.mp h
      have hlater : ∀ other ∈ rows.reverse, ¬ other.sequence ≤ row.sequence :=
        fun other hother => Nat.not_le.mpr (hrow other (List.mem_reverse.mp hother))
      rw [List.insertionSort_cons_eq_take_drop, ih hrows,
        List.takeWhile_eq_self_iff.mpr (by simpa using hlater),
        List.dropWhile_eq_nil_iff.mpr (by simpa using hlater), List.reverse_cons]
  rw [lastOf, hsorted, List.head?_reverse]

theorem storedEvents_ascending (h : (rowsOf workspaceId records).Pairwise fun one other =>
    one.sequence < other.sequence) :
    storedEvents python workspaceId records =
      (rowsOf workspaceId records).mapM fun row => AuditEvent.modelValidate python row.payload := by
  rw [storedEvents, List.Pairwise.insertionSort_eq]
  exact h.imp fun hlt => hlt.le

theorem mapM_modelValidate (h : List.Forall₂ Holds rows events) :
    rows.mapM (fun row => AuditEvent.modelValidate python row.payload) = .ok events := by
  induction h with
  | nil => rfl
  | cons hholds _ ih =>
    rw [List.mapM_cons, hholds.payload, AuditEvent.modelValidate_modelDump, ih]
    rfl

/-- The rows of every workspace hold an intact chain. -/
def Recorded (python : Python) (records : List AuditEventRecord) : Prop :=
  ∀ workspaceId, ∃ events, List.Forall₂ Holds (rowsOf workspaceId records) events ∧ Intact python events

theorem Recorded.stored (h : Recorded python records) (workspaceId : String) :
    ∃ events, storedEvents python workspaceId records = .ok events ∧ Intact python events := by
  obtain ⟨events, hholds, hintact⟩ := h workspaceId
  refine ⟨events, ?_, hintact⟩
  rw [storedEvents_ascending (ascending_of_holds hholds hintact), mapM_modelValidate hholds]

theorem rowsOf_concat (row : AuditEventRecord) : rowsOf workspaceId (records ++ [row]) =
    if row.workspaceId = workspaceId then rowsOf workspaceId records ++ [row]
    else rowsOf workspaceId records := by
  rw [rowsOf, List.filter_append]
  split
  · rename_i hworkspace
    simp [rowsOf, hworkspace]
  · rename_i hworkspace
    simp [rowsOf, hworkspace]

theorem getLast?_of_holds (h : List.Forall₂ Holds rows events) :
    rows.getLast?.map AuditEventRecord.eventHash = links.head events := by
  have hhashes : rows.map AuditEventRecord.eventHash = events.map AuditEvent.eventHash := by
    induction h with
    | nil => rfl
    | cons hholds _ ih => rw [List.map_cons, List.map_cons, ih, hholds.eventHash]
  rw [HashLinks.head, ← List.getLast?_map, hhashes, List.getLast?_map]
  rfl

theorem nextSequence_of_holds (h : List.Forall₂ Holds rows events) (hintact : Intact python events) :
    (rows.getLast?.map fun row => row.sequence + 1).getD 0 = events.length := by
  have hsequences := (sequences_of_holds h).trans hintact.numbered
  cases rows using List.reverseRecOn with
  | nil =>
    cases h
    rfl
  | append_singleton rows row =>
    rw [← h.length_eq] at hsequences ⊢
    simp only [List.map_append, List.map_cons, List.map_nil, List.length_append, List.length_singleton,
      List.range_succ] at hsequences
    have hlast : row.sequence = rows.length := by
      simpa using congrArg List.getLast? hsequences
    simp [hlast]

theorem body_auditCall (sequence : Nat) (previousHash : Option String) (eventHash : String) :
    (call.event python sequence previousHash eventHash).body =
      call.base python sequence previousHash := rfl

theorem holds_record (event : AuditEvent) : Holds (call.record event) event := ⟨rfl, rfl, rfl⟩

theorem Recorded.append (h : Recorded python records) {added : List AuditEventRecord}
    (hadded : appendAuditEvent python records call = .ok added) : Recorded python added := by
  obtain ⟨events, hholds, hintact⟩ := h call.workspaceId
  rw [appendAuditEvent, lastOf_ascending (ascending_of_holds hholds hintact),
    nextSequence_of_holds hholds hintact, getLast?_of_holds hholds] at hadded
  split at hadded
  · cases hadded
  · rw [Except.ok.injEq] at hadded
    rw [← hadded]
    intro workspaceId
    rw [rowsOf_concat]
    split
    · rename_i hworkspace
      rw [← show call.workspaceId = workspaceId from hworkspace]
      refine ⟨events ++ [call.event python events.length (links.head events) _],
        List.rel_append hholds (.cons (holds_record _) .nil), hintact.concat rfl rfl ?_⟩
      rw [body_auditCall]
      rfl
    · exact h workspaceId

theorem recorded_appendAuditEvents (calls : List AuditCall) :
    Recorded python (appendAuditEvents python calls) := by
  induction calls using List.reverseRecOn with
  | nil => exact fun workspaceId => ⟨[], .nil, .nil⟩
  | append_singleton calls call ih =>
    rw [appendAuditEvents, List.foldl_append, List.foldl_cons, List.foldl_nil, ← appendAuditEvents]
    cases hadded : appendAuditEvent python (appendAuditEvents python calls) call with
    | error error => exact ih
    | ok added => exact ih.append hadded

end Storage

/-- Equal but for the order of the keys in the details, which canonical JSON sorts. -/
structure SameEvent (left right : AuditEvent) : Prop where
  fields : { left with details := right.details } = right
  details : Json.Same (.dict left.details.entries) (.dict right.details.entries)

/-- SHA-256 of the canonical JSON tells dictionaries apart. -/
def CollisionFree (python : Python) : Prop :=
  ∀ left right, hash python left = hash python right → Json.Same (.dict left) (.dict right)

/-- What is appended verifies, and what verifies is determined by its head. -/
structure TamperEvident (python : Python) : Prop where
  appended : ∀ (entries : List Entry) nowIso,
    (verify python nowIso (entries.foldl (append python) [])).valid = true
  recorded : ∀ calls workspaceId nowIso, ∃ events,
    storedEvents python workspaceId (appendAuditEvents python calls) = .ok events ∧
      (verify python nowIso events).valid = true
  determined : ∀ left right nowIso laterIso, (verify python nowIso left).valid = true →
    (verify python laterIso right).valid = true → left.length = right.length →
    (verify python nowIso left).headHash = (verify python laterIso right).headHash →
    List.Forall₂ SameEvent left right

section Evidence

variable {python : Python} {left right : AuditEvent}

theorem optional_inj {one other : Option String} (h : Json.Same (optional one) (optional other)) :
    one = other := by
  cases one with
  | none =>
    cases other with
    | none => rfl
    | some other => simp [optional, Json.Same, Json.canonical] at h
  | some one =>
    cases other with
    | none => simp [optional, Json.Same, Json.canonical] at h
    | some other => rw [Json.same_str.mp h]

theorem sameEvent_of_hash (hcollisionFree : CollisionFree python)
    (hleft : hash python left.body = left.eventHash) (hright : hash python right.body = right.eventHash)
    (h : left.eventHash = right.eventHash) : SameEvent left right := by
  have hbody : Json.Same (.dict left.body) (.dict right.body) := by
    apply hcollisionFree
    rw [hleft, hright, h]
  have hnodup : (right.body.map Prod.fst).Nodup := by
    have hnames : right.body.map Prod.fst = AuditEvent.fieldNames.take 16 := rfl
    rw [hnames]
    decide
  have hvalues := hbody.values rfl hnodup
  simp only [AuditEvent.body, List.forall₂_cons, Json.same_str, Json.same_int, List.forall₂_nil_left_iff,
    Int.natCast_inj, and_true] at hvalues
  obtain ⟨hversion, hid, hsequence, horganization, hworkspace, hprincipal, haction, htype, hresource,
    houtcome, hoccurred, hrequest, hip, hagent, hdetails, hprevious⟩ := hvalues
  exact ⟨AuditEvent.ext hversion hid hsequence horganization hworkspace hprincipal haction htype hresource
    houtcome hoccurred (optional_inj hrequest) (optional_inj hip) (optional_inj hagent) rfl
    (optional_inj hprevious) h, hdetails⟩

def operationCreated : Entry where
  uuid := "2f1f4a8e-6c1b-4d0a-9a53-0b7f5d3f6c11"
  nowIso := "2026-07-22T12:00:00+00:00"
  organizationId := "default"
  workspaceId := "default"
  principalId := "7"
  action := "POST:/api/v1/operations"
  resourceType := "api_request"
  resourceId := "/api/v1/operations"
  outcome := "success"
  details := some (Dict.ofList [("phase", .str "request_completed"), ("status_code", .int 201)])

def createdBase : List (String × Json) :=
  ("schema_version", .str "kubeops.io/v1") :: operationCreated.base 0 none

/-- The SHA-256 of its event. -/
def createdHash : String := "d9cb7b7aea8343a0389331dc82a5810c7a247728671178e10e4e49ad4447ac59"

def digests : List (String × String) := [((Json.dict createdBase).text, createdHash)]

def auditPython : Python := { Python.plain with dumps := Json.text, sha256 := tabled digests }

theorem hash_auditPython (payload : List (String × Json)) :
    hash auditPython payload = tabled digests (Json.dict payload).text := by
  rw [hash, auditPython]

theorem digests_snd : digests.map Prod.snd = [createdHash] := rfl

theorem text_not_digest (entries : List (String × Json)) :
    (Json.dict entries).text ∉ digests.map Prod.snd := by
  rw [digests_snd, List.mem_singleton]
  intro hdigest
  obtain ⟨c, written, hwritten, hkind⟩ := Json.written_head (Json.dict entries).canonical []
  have hbegins := congrArg (fun text => text.toList.head?.bind Json.kindOf) hdigest
  rw [Json.text, String.toList_ofList, hwritten, List.head?_cons, Option.bind_some, hkind,
    Json.canonical, Json.kind] at hbegins
  exact absurd hbegins (by decide)

theorem auditPython_collisionFree : CollisionFree auditPython := by
  intro left right h
  rw [hash_auditPython, hash_auditPython] at h
  have hnodup : (digests.map Prod.snd).Nodup := by
    rw [digests_snd]
    exact List.nodup_singleton _
  exact Json.same_of_text (tabled_inj hnodup (text_not_digest left) (text_not_digest right) h)

theorem first_eventHash (entry : Entry) : (append python [] entry).map AuditEvent.eventHash =
    [hash python (("schema_version", .str "kubeops.io/v1") :: entry.base 0 none)] := rfl

end Evidence

end AuditChain

end KubeOps.Governance
