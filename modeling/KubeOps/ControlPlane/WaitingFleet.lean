import KubeOps.ControlPlane.Completion
import KubeOps.ControlPlane.DockerFleet
import KubeOps.Foundation.Digests

/-! An executor agent that waits for conditions: an operation with two waits, the
second after the first, and the turns in which the first of them fails. -/
namespace KubeOps.ControlPlane.WaitingFleet

open KubeOps.Foundation KubeOps.Models KubeOps.Execution
open DockerFleet (Worker turn midnight midnightIso)

def agent : ExecutorAgentRecord where
  agentId := "executor-1"
  capabilities := ["observe"]
  supportedExecutorIds := ["builtin.wait"]

def waitForDb (isOptional : Bool) : ActionInstance :=
  { DockerHost.waitFor "db" false with isOptional }

def waitForCache : ActionInstance :=
  { DockerHost.waitFor "cache" true with dependsOnActionIds := ["action:wait:db"] }

def operation (isOptional : Bool) : OperationRun :=
  DockerHost.createdRun [waitForDb isOptional, waitForCache]

def request : DispatchRequest where
  policy := .ok DockerHost.policy
  runtimeContext _ := .ok DockerHost.liveContext
  organizationId := "default"
  workspaceId := some "default"
  environmentId := "local"
  environmentKey := 1
  timeoutSeconds _ := 30
  dumpAction action := .dict [("action_id", .str action.actionId)]
  dumpDefinition definition := .dict [("action_type_id", .str definition.actionTypeId)]
  nowIso := midnightIso

def receiptId : String := "receipt:operation:local:startup:action:wait:db:1"

section Hashing

def projectionText (receiptIds currentActionIds : List String) (status : OperationStatus) : String :=
  Python.plain.dumps (.dict [
    ("receipt_ids", Json.strings receiptIds),
    ("current_action_ids", Json.strings currentActionIds),
    ("status", .str status.text)])

def payloadText (action : ActionInstance) : String :=
  Python.plain.dumps (.dict (request.executionPayload action DockerHost.waitForCondition).entries)

/-- The SHA-256 of the texts hashed here. -/
def digests : List (String × String) := [
  (projectionText [] [] .running,
    "9c2c807d726bf6893d77f844ac195a7d90c307d553c157fd6955e3fcb2e2830a"),
  (projectionText [] ["action:wait:db"] .running,
    "3dda7e7b4d1ebf933b74adcc512eaf8b709d177eb51c2bbc6258427e83d19dc7"),
  (projectionText [receiptId] [] .failed,
    "bc321b6083992c8673ee21ceb78220e36a56ce5957d829099c82b2fdca19a8fa"),
  (projectionText [receiptId] [] .running,
    "1d88bc12332b3137bdadadc4f47e56aabac0ab74d9f177201b23e57c97c2772e"),
  (payloadText (waitForDb false),
    "c090ac22b5cbf776407d8ebfb42116fb2313f9dc1d3a5c5dbd712450b7508da2"),
  (payloadText waitForCache,
    "aae12cc6b71d7a3b42263fc2231c4dccac33e51b7e16fd8b821d884bb9c6f515"),
  ("nonce", "78377b525757b494427f89014f97d79928f3938d14eb51e20fb5dec9834eb304")]

def python : Python := { DockerFleet.python with sha256 := tabled digests }

theorem dumps_projection (merged current : Json) (status : String) : ∃ front,
    python.dumps (.dict [("receipt_ids", merged), ("current_action_ids", current),
        ("status", .str status)]) =
      front ++ String.singleton '"' ++ status ++ String.singleton '"' ++ "\x7d" := by
  have hsorted : (Json.dict [("receipt_ids", merged), ("current_action_ids", current),
      ("status", .str status)]).sorted =
        .dict [("current_action_ids", current), ("receipt_ids", merged), ("status", .str status)] := by
    have hreceipts : ¬ "receipt_ids" ≤ "current_action_ids" := by decide
    have hcurrent : "current_action_ids" ≤ "status" := by decide
    have hstatus : "receipt_ids" ≤ "status" := by decide
    simp [Json.sorted, List.insertionSort, List.orderedInsert, hreceipts, hcurrent, hstatus]
  refine ⟨"\x7b" ++ ("\"" ++ "current_action_ids" ++ "\":" ++ current.compact) ++ "," ++
    ("\"" ++ "receipt_ids" ++ "\":" ++ merged.compact) ++ ",\"status\":", ?_⟩
  change (Json.sorted _).compact = _
  rw [hsorted]
  apply String.toList_injective
  simp [Json.compact, Json.compactEntries, String.intercalate_cons_cons]

theorem braced_not_digest (front : String) : front ++ "\x7d" ∉ digests.map Prod.snd := by
  have hunbraced : (digests.map Prod.snd).all (fun digest =>
      digest.toByteArray.data.toList.getLast? ≠ some 125) = true := by
    decide
  intro hmem
  have hlast := of_decide_eq_true (List.all_eq_true.mp hunbraced _ hmem)
  rw [String.toByteArray_append, ByteArray.data_append, Array.toList_append] at hlast
  exact hlast List.getLast?_concat

theorem status_unquoted (status : OperationStatus) : Unbroken '"' status.text := by
  cases status <;> decide

theorem status_text_inj {left right : OperationStatus} (h : left.text = right.text) :
    left = right := by
  revert h
  cases left <;> cases right <;> decide

theorem separatesStatuses (runtime : OperationRuntime) :
    SeparatesStatuses { runtime with python := python } := by
  intro merged current status merged' current' status' h
  obtain ⟨front, hfront⟩ := dumps_projection
    (Json.strings (merged.map ActionReceipt.receiptId)) (Json.strings current) status.text
  obtain ⟨other, hother⟩ := dumps_projection
    (Json.strings (merged'.map ActionReceipt.receiptId)) (Json.strings current') status'.text
  have htext := tabled_inj (by decide) (hfront ▸ braced_not_digest _) (hother ▸ braced_not_digest _) h
  rw [hfront, hother] at htext
  obtain ⟨hfront, -⟩ := last_segment_inj '"' (by decide) (by decide) htext
  exact status_text_inj (last_segment_inj '"' (status_unquoted _) (status_unquoted _) hfront).2

end Hashing

section Turns

def runtime : OperationRuntime := { DockerHost.waitingRuntime with python := python }

def created (isOptional : Bool) : Database where
  tasks := .empty
  leases := .empty
  receipts := .empty
  operations := Table.empty.put (operation isOptional)

def dispatched (isOptional : Bool) : Except Refusal Database :=
  dispatch runtime request (created isOptional) (operation isOptional).operationId (Trace.start _)

def plane (isOptional : Bool) : Plane Worker where
  database := match dispatched isOptional with
    | .ok database => database
    | .error refusal => refusal.database
  processes _ := ⟨agent, .stopped⟩

/-- What the agent reports where the condition does not hold. -/
def receipt : ActionReceipt where
  receiptId := receiptId
  operationId := (operation false).operationId
  actionId := (waitForDb false).actionId
  actionTypeId := DockerHost.waitForCondition.actionTypeId
  executorId := "builtin.wait"
  status := .failed
  startedAtIso := midnightIso
  completedAtIso := midnightIso

/-- The agent takes the first wait, which fails, and reads what it has reported. -/
def failing : List Statement :=
  [.register agent, .expireStaleLeases [] midnight, .countLeases, .listQueued, .cancelBlocked midnight,
    .cancelBlocked midnight, .claim [] midnight "1" "nonce"] ++ reconcileOperation (Trace.start _) ++
  [.execute (.ok receipt) midnightIso midnight, .releaseLease midnight, .finishTask midnight,
    .refreshOperation, .readReceipts, .reconcile (Trace.start _), .listPending]

/-- The wait was required: the operation fails and its other task is cancelled. -/
def abandoning : List Statement := failing ++ [.cancelPending midnight, .persist]

/-- The wait was optional: the operation runs on, and the agent cancels the other task. -/
def stalling : List Statement :=
  failing ++ [.persist, .expireStaleLeases [] midnight, .countLeases, .listQueued,
    .cancelBlocked midnight, .claim [] midnight "2" "nonce"]

def performed (isOptional : Bool) (statements : List Statement) :
    List (Transition (Plane Worker) (Worker × Statement)) :=
  (history (step runtime) (plane isOptional) (turn .first statements)).getD []

theorem run_performed (isOptional : Bool) (statements : List Statement)
    (check : List (Transition (Plane Worker) (Worker × Statement)) → Bool)
    (h : (history (step runtime) (plane isOptional) (turn .first statements)).any check = true) :
    ∃ reached, Run (step runtime) (plane isOptional) (performed isOptional statements) reached ∧
      check (performed isOptional statements) = true :=
  Run.of_any h

end Turns

section Ends

theorem dispatched_ok (isOptional : Bool) :
    dispatched isOptional = .ok (plane isOptional).database := by
  have hok : (dispatched isOptional).isOk = true := by
    cases isOptional <;> decide
  unfold plane
  cases hdispatched : dispatched isOptional with
  | ok database => rfl
  | error refusal =>
    rw [hdispatched] at hok
    cases hok

/-- The operation with a required wait that fails comes to its end. -/
theorem abandoning_concludes : ∃ reached,
    Run (step runtime) (plane false) (performed false abandoning) reached ∧
      Concludes runtime (operation false).plan (operation false).operationId reached.database := by
  obtain ⟨reached, hrun, hreliable⟩ := run_performed false abandoning (fun past => past.all fun transition =>
    reliably runtime (operation false).plan (operation false).operationId transition) (by decide +kernel)
  refine ⟨reached, hrun, ?_⟩
  have hgiven : (created false).operations.get? (operation false).operationId =
      some (operation false) := by rfl
  apply dispatched_concludes (dispatched_ok false) hgiven
  · exact ⟨rfl, rfl⟩
  · rfl
  · exact fun _ => ⟨List.forall_mem_nil _, List.forall_mem_nil _⟩
  · exact separatesStatuses _
  · exact hrun
  · intro transition hmem
    exact of_decide_eq_true (List.all_eq_true.mp hreliable transition hmem)

/-- The operation with an optional wait that fails runs on with all its tasks terminal. -/
theorem stalling_runs_on : dispatched true = .ok (plane true).database ∧ ∃ reached,
    Run (step runtime) (plane true) (performed true stalling) reached ∧
    AllTerminal (operation true).operationId reached.database ∧
    (perform runtime agent (reconcileOperation (Trace.start _)) reached.database
      (.reconciling (operation true).operationId .idle)).bind (fun settled =>
        (settled.1.operations.get? (operation true).operationId).map OperationRun.status) =
      some .running := by
  obtain ⟨reached, hrun, hlast⟩ := run_performed true stalling (fun past =>
    ((plane true :: past.map Transition.after).getLast?).all fun plane =>
      decide (AllTerminal (operation true).operationId plane.database ∧
        (perform runtime agent (reconcileOperation (Trace.start _)) plane.database
          (.reconciling (operation true).operationId .idle)).bind (fun settled =>
            (settled.1.operations.get? (operation true).operationId).map OperationRun.status) =
          some .running)) (by decide +kernel)
  refine ⟨dispatched_ok true, reached, hrun, ?_⟩
  rw [hrun.getLast?_states] at hlast
  exact of_decide_eq_true hlast

end Ends

end KubeOps.ControlPlane.WaitingFleet
