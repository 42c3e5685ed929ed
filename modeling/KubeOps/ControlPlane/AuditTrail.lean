import KubeOps.Foundation.Interleaving
import KubeOps.Governance.AuditChain

/-! `AuditMiddleware`: what changes something is recorded before and after it is served, by any
number of requests at a time. -/
namespace KubeOps.ControlPlane

open KubeOps.Foundation KubeOps.Models KubeOps.Governance

/-- What is read of a request. The id is drawn for a request that brings none. -/
structure ApiRequest where
  method : String
  path : String
  drawnId : String
  requestId : Option String := none
  organizationId : Option String := none
  workspaceId : Option String := none
  principal : Option String := none
  remoteAddr : Option String := none
  userAgent : Option String := none

structure ApiResponse where
  statusCode : Nat
  headers : Dict String String := ∅
  body : Json := .null

structure AuditSettings where
  auditRequired : Bool
  defaultOrganizationId : String
  defaultWorkspaceId : String

/-- The organizations, and the workspaces with the organization of each. -/
structure Tenants where
  organizations : List String
  workspaces : List (String × String)

structure AuditScope where
  organizationId : String
  workspaceId : String

/-- What one call of `append_audit_event` draws. -/
structure AuditDraw where
  uuid : String
  occurredAt : Int

namespace ApiRequest

variable (request : ApiRequest)

def isMutation : Bool :=
  "/api/v1/".toList.isPrefixOf request.path.toList && request.method ∉ ["GET", "HEAD", "OPTIONS"]

/-- `request.headers.get("X-Request-Id") or f"request:{uuid4()}"` -/
def identifier : String := (request.requestId.filter (· ≠ "")).getD s!"request:{request.drawnId}"

/-- `_scope`, which nobody asks for where nothing is changed. -/
def scope (settings : AuditSettings) (tenants : Tenants) : Option AuditScope :=
  let organizationId := request.organizationId.getD settings.defaultOrganizationId
  let workspaceId := request.workspaceId.getD settings.defaultWorkspaceId
  if request.isMutation ∧ organizationId ∈ tenants.organizations ∧
      (organizationId, workspaceId) ∈ tenants.workspaces then
    some ⟨organizationId, workspaceId⟩
  else none

def auditCall (scope : AuditScope) (draw : AuditDraw) (outcome : String) (details : JsonObject) :
    AuditCall where
  uuid := draw.uuid
  occurredAt := draw.occurredAt
  organizationId := scope.organizationId
  workspaceId := scope.workspaceId
  principalId := request.principal.getD "anonymous"
  action := s!"{request.method}:{request.path}"
  resourceType := "api_request"
  resourceId := request.path
  outcome := outcome
  details := some details
  requestId := some request.identifier
  sourceIp := request.remoteAddr
  userAgent := request.userAgent

def started (scope : AuditScope) (draw : AuditDraw) : AuditCall :=
  request.auditCall scope draw "started" ((∅ : JsonObject).set "phase" (.str "request_started"))

def completed (scope : AuditScope) (draw : AuditDraw) (response : ApiResponse) : AuditCall :=
  request.auditCall scope draw (if response.statusCode < 400 then "success" else "failure")
    (((∅ : JsonObject).set "phase" (.str "request_completed")).set "status_code"
      (.int response.statusCode))

/-- The answer to a request that was not executed. -/
def refusal (errorType : String) : ApiResponse where
  statusCode := 503
  body := .dict [
    ("detail", .str "audit chain unavailable; mutating request was not executed"),
    ("error_type", .str errorType),
    ("request_id", .str request.identifier)]

end ApiRequest

def completionHeader : String := "X-KubeOps-Audit-Completion"

inductive ApiStage where
  | admitted
  | refused (answer : ApiResponse)
  | served (response : ApiResponse)
  | answered (response answer : ApiResponse)

structure ApiThread where
  request : ApiRequest
  scope : Option AuditScope
  stage : ApiStage

/-- The rows of the audit table, and the requests under way. -/
structure AuditedServer where
  records : List AuditEventRecord
  threads : Dict Nat ApiThread

def AuditedServer.idle : AuditedServer := ⟨[], ∅⟩

/-- A move of one request, or a row from elsewhere. The database may fail with an exception. -/
inductive ApiMove where
  | arrive (number : Nat) (request : ApiRequest) (tenants : Tenants) (draw : AuditDraw)
      (failure : Option String)
  | serve (number : Nat) (response : ApiResponse) (principal : Option String)
  | finish (number : Nat) (draw : AuditDraw) (failure : Option String)
  | elsewhere (call : AuditCall)

namespace AuditedServer

variable (python : Python) (settings : AuditSettings) (server : AuditedServer)

def recordedRows (call : AuditCall) (failure : Option String) : Except String (List AuditEventRecord) :=
  match failure with
  | some errorType => .error errorType
  | none => (appendAuditEvent python server.records call).mapError fun _ => "IntegrityError"

def enter (number : Nat) (thread : ApiThread) : AuditedServer :=
  { server with threads := server.threads.set number thread }

def arrive (number : Nat) (request : ApiRequest) (tenants : Tenants) (draw : AuditDraw)
    (failure : Option String) : AuditedServer :=
  match request.scope settings tenants with
  | none => server.enter number ⟨request, none, .admitted⟩
  | some scope =>
    match server.recordedRows python (request.started scope draw) failure with
    | .ok records => { server with records }.enter number ⟨request, some scope, .admitted⟩
    | .error errorType =>
      server.enter number ⟨request, some scope,
        if settings.auditRequired then .refused (request.refusal errorType) else .admitted⟩

/-- The request is answered, under its id if it changes something. -/
def finish (number : Nat) (thread : ApiThread) (response : ApiResponse) (draw : AuditDraw)
    (failure : Option String) : AuditedServer :=
  if thread.request.isMutation then
    let answer := { response with
      headers := response.headers.set "X-Request-Id" thread.request.identifier }
    match thread.scope with
    | none => server.enter number { thread with stage := .answered response answer }
    | some scope =>
      match server.recordedRows python (thread.request.completed scope draw response) failure with
      | .ok records =>
        { server with records }.enter number { thread with stage := .answered response answer }
      | .error _ =>
        server.enter number { thread with
          stage := .answered response { answer with
            headers := answer.headers.set completionHeader "failed" } }
  else server.enter number { thread with stage := .answered response response }

/-- `request.user` may be known only once the request has been served. -/
def step : ApiMove → AuditedServer → Option AuditedServer
  | .arrive number request tenants draw failure, server =>
    if (server.threads.get? number).isSome then none
    else some (server.arrive python settings number request tenants draw failure)
  | .serve number response principal, server =>
    match server.threads.get? number with
    | some ⟨request, scope, .admitted⟩ =>
      some (server.enter number ⟨{ request with principal }, scope, .served response⟩)
    | _ => none
  | .finish number draw failure, server =>
    match server.threads.get? number with
    | some ⟨request, scope, .served response⟩ =>
      some (server.finish python number ⟨request, scope, .served response⟩ response draw failure)
    | _ => none
  | .elsewhere call, server =>
    (appendAuditEvent python server.records call).toOption.map fun records => { server with records }

end AuditedServer

section Trail

variable {python : Python} {settings : AuditSettings} {server next reached : AuditedServer}
  {past : List (Transition AuditedServer ApiMove)} {records added : List AuditEventRecord}
  {call : AuditCall}

def Written (call : AuditCall) (records : List AuditEventRecord) : Prop :=
  ∃ event, call.record event ∈ records

theorem Written.append (h : Written call records) (row : AuditEventRecord) :
    Written call (records ++ [row]) := by
  obtain ⟨event, hmem⟩ := h
  exact ⟨event, List.mem_append_left _ hmem⟩

theorem appendAuditEvent_eq (h : appendAuditEvent python records call = .ok added) :
    ∃ event, added = records ++ [call.record event] := by
  unfold appendAuditEvent at h
  dsimp only at h
  split at h
  · cases h
  · exact ⟨_, (Except.ok.inj h).symm⟩

theorem recordedRows_ok {failure : Option String}
    (h : server.recordedRows python call failure = .ok added) :
    appendAuditEvent python server.records call = .ok added := by
  unfold AuditedServer.recordedRows at h
  cases failure with
  | some errorType => cases h
  | none =>
    cases hadded : appendAuditEvent python server.records call with
    | error error =>
      simp only [hadded, Except.mapError] at h
      cases h
    | ok rows =>
      simp only [hadded, Except.mapError] at h
      rw [Except.ok.inj h]

structure ApiThread.Accounted (settings : AuditSettings) (records : List AuditEventRecord)
    (thread : ApiThread) : Prop where
  opened : settings.auditRequired = true → thread.stage = .admitted → ∀ scope, thread.scope = some scope →
    ∃ draw, Written (thread.request.started scope draw) records
  closed : ∀ response answer, thread.stage = .answered response answer →
    ∀ scope, thread.scope = some scope → answer.headers.get? completionHeader ≠ some "failed" →
      ∃ draw, Written (thread.request.completed scope draw response) records
  mutation : thread.scope.isSome = true → thread.request.isMutation = true

theorem ApiThread.Accounted.append {thread : ApiThread} (h : thread.Accounted settings records)
    (row : AuditEventRecord) : thread.Accounted settings (records ++ [row]) where
  opened hrequired hstage scope hscope := by
    obtain ⟨draw, hwritten⟩ := h.opened hrequired hstage scope hscope
    exact ⟨draw, hwritten.append row⟩
  closed response answer hstage scope hscope hheader := by
    obtain ⟨draw, hwritten⟩ := h.closed response answer hstage scope hscope hheader
    exact ⟨draw, hwritten.append row⟩
  mutation := h.mutation

structure AuditedServer.Sound (python : Python) (settings : AuditSettings) (server : AuditedServer) :
    Prop where
  recorded : AuditChain.Recorded python server.records
  accounted : ∀ number thread, server.threads.get? number = some thread →
    thread.Accounted settings server.records

namespace AuditedServer.Sound

theorem enter (h : server.Sound python settings) {number : Nat} {thread : ApiThread}
    (hthread : thread.Accounted settings server.records) :
    (server.enter number thread).Sound python settings where
  recorded := h.recorded
  accounted other found hfound := by
    rw [AuditedServer.enter, Dict.get?_set] at hfound
    split at hfound
    · rw [← Option.some.inj hfound]
      exact hthread
    · exact h.accounted other found hfound

theorem append (h : server.Sound python settings)
    (hadded : appendAuditEvent python server.records call = .ok added) :
    { server with records := added }.Sound python settings ∧ Written call added := by
  have hrecorded := h.recorded.append hadded
  obtain ⟨event, rfl⟩ := appendAuditEvent_eq hadded
  refine ⟨⟨hrecorded, ?_⟩, event, List.mem_append_right _ (List.mem_singleton_self _)⟩
  intro number thread hthread
  exact (h.accounted number thread hthread).append _

end AuditedServer.Sound

theorem isMutation_of_scope {request : ApiRequest} {tenants : Tenants}
    (h : (request.scope settings tenants).isSome = true) : request.isMutation = true := by
  unfold ApiRequest.scope at h
  dsimp only at h
  split at h
  · rename_i hfound
    exact hfound.1
  · cases h

theorem sound_arrive (h : server.Sound python settings) (number : Nat) (request : ApiRequest)
    (tenants : Tenants) (draw : AuditDraw) (failure : Option String) :
    (server.arrive python settings number request tenants draw failure).Sound python settings := by
  unfold AuditedServer.arrive
  cases hscope : request.scope settings tenants with
  | none =>
    refine h.enter ⟨?_, ?_, ?_⟩
    · intro _ _ scope hnone
      cases hnone
    · intro response answer hstage
      cases hstage
    · intro hnone
      cases hnone
  | some scope =>
    have hmutation : request.isMutation = true := isMutation_of_scope (by rw [hscope, Option.isSome_some])
    dsimp only
    cases hrecorded : server.recordedRows python (request.started scope draw) failure with
    | ok records =>
      obtain ⟨hsound, hwritten⟩ := h.append (recordedRows_ok hrecorded)
      refine hsound.enter ⟨?_, ?_, fun _ => hmutation⟩
      · intro _ _ place hplace
        rw [← Option.some.inj hplace]
        exact ⟨draw, hwritten⟩
      · intro response answer hstage
        cases hstage
    | error errorType =>
      refine h.enter ⟨?_, ?_, fun _ => hmutation⟩
      · intro hrequired hstage
        rw [if_pos hrequired] at hstage
        cases hstage
      · intro response answer hstage
        dsimp only at hstage
        split at hstage
        · cases hstage
        · cases hstage

theorem sound_finish (h : server.Sound python settings) {number : Nat} {thread : ApiThread}
    (hthread : thread.Accounted settings server.records) (response : ApiResponse) (draw : AuditDraw)
    (failure : Option String) :
    (server.finish python number thread response draw failure).Sound python settings := by
  obtain ⟨request, scope, stage⟩ := thread
  have hopened : ∀ response answer, ApiStage.answered response answer ≠ .admitted := by
    intro response answer hstage
    cases hstage
  unfold AuditedServer.finish
  split
  · cases scope with
    | none =>
      refine h.enter ⟨fun _ hstage => absurd hstage (hopened _ _), ?_, hthread.mutation⟩
      intro _ _ _ scope hnone
      cases hnone
    | some scope =>
      dsimp only
      cases hrecorded : server.recordedRows python (request.completed scope draw response) failure with
      | ok records =>
        obtain ⟨hsound, hwritten⟩ := h.append (recordedRows_ok hrecorded)
        refine hsound.enter ⟨fun _ hstage => absurd hstage (hopened _ _), ?_, hthread.mutation⟩
        intro other answer hstage place hplace _
        obtain ⟨rfl, -⟩ := ApiStage.answered.inj hstage
        rw [← Option.some.inj hplace]
        exact ⟨draw, hwritten⟩
      | error errorType =>
        refine h.enter ⟨fun _ hstage => absurd hstage (hopened _ _), ?_, hthread.mutation⟩
        intro other answer hstage place _ hheader
        obtain ⟨-, rfl⟩ := ApiStage.answered.inj hstage
        exact absurd (Dict.get?_set_self _ _ _) hheader
  · rename_i hmutation
    refine h.enter ⟨fun _ hstage => absurd hstage (hopened _ _), ?_, hthread.mutation⟩
    intro other answer _ place hplace
    exact absurd (hthread.mutation (Option.isSome_of_eq_some hplace)) hmutation

inductive Moves (python : Python) (settings : AuditSettings) (server : AuditedServer) :
    ApiMove → AuditedServer → Prop where
  | arrive {number : Nat} {request : ApiRequest} {tenants : Tenants} {draw : AuditDraw}
      {failure : Option String} (hnew : server.threads.get? number = none) :
    Moves python settings server (.arrive number request tenants draw failure)
      (server.arrive python settings number request tenants draw failure)
  | serve {number : Nat} {request : ApiRequest} {scope : Option AuditScope} {response : ApiResponse}
      {principal : Option String}
      (hthread : server.threads.get? number = some ⟨request, scope, .admitted⟩) :
    Moves python settings server (.serve number response principal)
      (server.enter number ⟨{ request with principal }, scope, .served response⟩)
  | finish {number : Nat} {request : ApiRequest} {scope : Option AuditScope} {response : ApiResponse}
      {draw : AuditDraw} {failure : Option String}
      (hthread : server.threads.get? number = some ⟨request, scope, .served response⟩) :
    Moves python settings server (.finish number draw failure)
      (server.finish python number ⟨request, scope, .served response⟩ response draw failure)
  | elsewhere {other : AuditCall} {rows : List AuditEventRecord}
      (hadded : appendAuditEvent python server.records other = .ok rows) :
    Moves python settings server (.elsewhere other) { server with records := rows }

theorem moves_of_step {move : ApiMove} (h : AuditedServer.step python settings move server = some next) :
    Moves python settings server move next := by
  cases move with
  | arrive number request tenants draw failure =>
    simp only [AuditedServer.step] at h
    split at h
    · cases h
    · rename_i hnew
      rw [← Option.some.inj h]
      exact .arrive (Option.not_isSome_iff_eq_none.mp hnew)
  | serve number response principal =>
    simp only [AuditedServer.step] at h
    split at h
    · rename_i request scope hthread
      rw [← Option.some.inj h]
      exact .serve hthread
    · cases h
  | finish number draw failure =>
    simp only [AuditedServer.step] at h
    split at h
    · rename_i request scope response hthread
      rw [← Option.some.inj h]
      exact .finish hthread
    · cases h
  | elsewhere call =>
    obtain ⟨added, hadded, rfl⟩ := Option.map_eq_some_iff.mp h
    exact .elsewhere (except_toOption_eq_some.mp hadded)

theorem Moves.sound {move : ApiMove} (hmove : Moves python settings server move next)
    (h : server.Sound python settings) : next.Sound python settings := by
  cases hmove with
  | arrive _ => exact sound_arrive h _ _ _ _ _
  | serve hthread =>
    refine h.enter ⟨?_, ?_, (h.accounted _ _ hthread).mutation⟩
    · intro _ hstage
      cases hstage
    · intro response answer hstage
      cases hstage
  | finish hthread =>
    exact sound_finish h (h.accounted _ _ hthread) _ _ _
  | elsewhere hadded => exact (h.append hadded).1

def ApiStage.runs : ApiStage → Nat
  | .admitted | .refused _ => 0
  | .served _ | .answered _ _ => 1

def AuditedServer.runs (server : AuditedServer) (number : Nat) : Nat :=
  (server.threads.get? number).elim 0 fun thread => thread.stage.runs

def ApiMove.serves (number : Nat) : ApiMove → Bool
  | .serve other _ _ => other = number
  | _ => false

theorem runs_enter (number other : Nat) (thread : ApiThread) : (server.enter number thread).runs other =
    if other = number then thread.stage.runs else server.runs other := by
  unfold AuditedServer.runs AuditedServer.enter
  rw [Dict.get?_set]
  split
  · rfl
  · rfl

theorem Moves.runs {move : ApiMove} (hmove : Moves python settings server move next) (number : Nat) :
    next.runs number = server.runs number + if move.serves number then 1 else 0 := by
  cases hmove with
  | @arrive other request tenants draw failure hnew =>
    have hidle : server.runs other = 0 := by rw [AuditedServer.runs, hnew, Option.elim_none]
    have henter : ∀ (records : List AuditEventRecord) (thread : ApiThread), thread.stage.runs = 0 →
        ({ server with records }.enter other thread).runs number = server.runs number := by
      intro records thread hthread
      rw [runs_enter, hthread]
      split
      · rename_i hnumber
        rw [hnumber, hidle]
      · rfl
    have harrive : (server.arrive python settings other request tenants draw failure).runs number =
        server.runs number := by
      unfold AuditedServer.arrive
      split
      · exact henter server.records _ rfl
      · split
        · exact henter _ _ rfl
        · apply henter server.records
          split
          · rfl
          · rfl
    rw [harrive]
    rfl
  | @serve other request scope response principal hthread =>
    have hbefore : server.runs other = 0 := by rw [AuditedServer.runs, hthread, Option.elim_some]; rfl
    rw [runs_enter]
    by_cases hnumber : number = other
    · rw [if_pos hnumber, hnumber, hbefore]
      simp [ApiMove.serves, ApiStage.runs]
    · rw [if_neg hnumber]
      simp [ApiMove.serves, Ne.symm hnumber]
  | @finish other request scope response draw failure hthread =>
    have hbefore : server.runs other = 1 := by rw [AuditedServer.runs, hthread, Option.elim_some]; rfl
    have henter : ∀ (records : List AuditEventRecord) (thread : ApiThread), thread.stage.runs = 1 →
        ({ server with records }.enter other thread).runs number = server.runs number := by
      intro records thread hthread
      rw [runs_enter, hthread]
      split
      · rename_i hnumber
        rw [hnumber, hbefore]
      · rfl
    have hfinish : (server.finish python other ⟨request, scope, .served response⟩ response draw
        failure).runs number = server.runs number := by
      unfold AuditedServer.finish
      dsimp only
      split
      · split
        · exact henter server.records _ rfl
        · split
          · exact henter _ _ rfl
          · exact henter server.records _ rfl
      · exact henter server.records _ rfl
    rw [hfinish]
    rfl
  | elsewhere hadded => rfl

theorem Moves.kept {move : ApiMove} (hmove : Moves python settings server move next) :
    server.records <+: next.records := by
  have hrecorded : ∀ {call : AuditCall} {failure : Option String} {added : List AuditEventRecord},
      server.recordedRows python call failure = .ok added → server.records <+: added := by
    intro call failure added hadded
    obtain ⟨event, rfl⟩ := appendAuditEvent_eq (recordedRows_ok hadded)
    exact List.prefix_append _ _
  cases hmove with
  | arrive _ =>
    unfold AuditedServer.arrive
    split
    · exact List.prefix_rfl
    · split
      · rename_i hadded
        exact hrecorded hadded
      · exact List.prefix_rfl
  | serve _ => exact List.prefix_rfl
  | finish _ =>
    unfold AuditedServer.finish
    dsimp only
    split
    · split
      · exact List.prefix_rfl
      · split
        · rename_i hadded
          exact hrecorded hadded
        · exact List.prefix_rfl
    · exact List.prefix_rfl
  | elsewhere hadded =>
    obtain ⟨event, rfl⟩ := appendAuditEvent_eq hadded
    exact List.prefix_append _ _

/-- What the audit trail says of a run, whatever is interleaved and whatever fails. -/
structure Audited (python : Python) (settings : AuditSettings)
    (past : List (Transition AuditedServer ApiMove)) (reached : AuditedServer) : Prop where
  verified : ∀ workspaceId nowIso, ∃ events, storedEvents python workspaceId reached.records = .ok events ∧
    (AuditChain.verify python nowIso events).valid = true
  kept : ∀ transition ∈ past, transition.before.records <+: reached.records
  preceded : settings.auditRequired = true → ∀ transition ∈ past, ∀ number response principal,
    transition.label = .serve number response principal →
      ∃ request scope, transition.before.threads.get? number = some ⟨request, scope, .admitted⟩ ∧
        ∀ place, scope = some place →
          ∃ draw, Written (request.started place draw) transition.before.records
  concluded : ∀ number request scope response answer,
    reached.threads.get? number = some ⟨request, some scope, .answered response answer⟩ →
      answer.headers.get? completionHeader ≠ some "failed" →
        ∃ draw, Written (request.completed scope draw response) reached.records
  served : ∀ number, (past.countP fun transition => transition.label.serves number) = reached.runs number

theorem AuditedServer.Sound.idle : AuditedServer.idle.Sound python settings where
  recorded _ := ⟨[], .nil, .nil⟩
  accounted number thread hthread := by cases hthread

theorem sound_of_run (h : Run (AuditedServer.step python settings) .idle past reached) :
    reached.Sound python settings :=
  h.invariant .idle fun _ _ hstep => (moves_of_step hstep).sound

/-- Whatever is interleaved: the chain of every workspace verifies and is only added to. Where an
audit is required, the view of a request that changes something in a workspace is run only once its
start is on record, at most once and never if the request is refused, and an answer that does not
say otherwise comes with a record of the outcome. -/
theorem run_audited (h : Run (AuditedServer.step python settings) .idle past reached) :
    Audited python settings past reached where
  verified workspaceId nowIso := by
    obtain ⟨events, hstored, hintact⟩ := (sound_of_run h).recorded.stored workspaceId
    exact ⟨events, hstored, AuditChain.verify_valid.mpr hintact⟩
  kept := by
    intro transition hmem
    refine h.kept (p := fun server => transition.before.records <+: server.records) ?_ transition hmem
      List.prefix_rfl
    intro other _ hstep hprefix
    exact hprefix.trans (moves_of_step hstep).kept
  preceded := by
    intro hrequired transition hmem number response principal hlabel
    obtain ⟨earlier, hrun, -, hstep⟩ := h.step_of_mem hmem
    have hsound := sound_of_run hrun
    have hmoves := moves_of_step hstep
    rw [hlabel] at hmoves
    generalize transition.after = after at hmoves
    cases hmoves with
    | serve hthread =>
      exact ⟨_, _, hthread, (hsound.accounted _ _ hthread).opened hrequired rfl⟩
  concluded := by
    intro number request scope response answer hthread hheader
    exact ((sound_of_run h).accounted _ _ hthread).closed response answer rfl scope rfl hheader
  served := by
    intro number
    induction h with
    | start => rfl
    | step _ hstep ih =>
      rw [List.countP_append, ih, (moves_of_step hstep).runs number]
      simp [List.countP_cons]

end Trail

section Example

def defaultTenant : AuditSettings := ⟨true, "default", "default"⟩

def createOperation : ApiRequest where
  method := "POST"
  path := "/api/v1/operations"
  drawnId := "1"

/-- Two requests of which the second finds the database down, and is refused. -/
def createTwice : List ApiMove := [
  .arrive 0 createOperation ⟨["default"], [("default", "default")]⟩ ⟨"a", 0⟩ none,
  .arrive 1 createOperation ⟨["default"], [("default", "default")]⟩ ⟨"b", 1⟩ (some "OperationalError"),
  .serve 0 ⟨201, ∅, .null⟩ (some "7"),
  .finish 0 ⟨"c", 2⟩ none]

theorem createTwice_audited : ∃ past reached,
    past.map (fun transition => transition.label.serves 0) = [false, false, true, false] ∧
      Audited .plain defaultTenant past reached := by
  have hruns : (history (AuditedServer.step .plain defaultTenant) .idle createTwice).any fun past =>
      past.map (fun transition => transition.label.serves 0) = [false, false, true, false] := by
    decide
  obtain ⟨reached, hrun, hserved⟩ := Run.of_any hruns
  exact ⟨_, reached, of_decide_eq_true hserved, run_audited hrun⟩

end Example

end KubeOps.ControlPlane
