import KubeOps.ControlPlane.Pairing

/-! Documents are stored as they are written and read back as models that take no
other fields. What some writers add beside the fields keeps a row from being read. -/
namespace KubeOps.ControlPlane

open KubeOps.Foundation KubeOps.Models KubeOps.Execution

section Documents

/-- No agent document has entries beside its fields. -/
def CleanAgents (agents : AgentTable) : Prop :=
  ∀ agentId row, agents.get? agentId = some row → row.payload.extra.keys = []

def CleanTasks (database : Database) : Prop :=
  ∀ taskId task, database.tasks.get? taskId = some task → task.payload.extra.keys = []

variable {agents : AgentTable} {database reached : Database}

theorem CleanAgents.put (h : CleanAgents agents) (row : AgentRow) (hclean : row.payload.extra.keys = []) :
    CleanAgents (agents.put row) := by
  intro agentId found hfound
  rw [Table.get?_put] at hfound
  split at hfound
  · cases hfound
    exact hclean
  · exact h agentId found hfound

theorem CleanAgents.save (h : CleanAgents agents) (row : AgentRow) (hclean : row.payload.extra.keys = []) :
    CleanAgents (agents.save row) := by
  intro agentId found hfound
  rw [AgentTable.get?_save] at hfound
  split at hfound
  · obtain ⟨stored, -, rfl⟩ := Option.map_eq_some_iff.mp hfound
    exact hclean
  · exact h agentId found hfound

theorem CleanTasks.congr (h : CleanTasks database) (htasks : reached.tasks = database.tasks) :
    CleanTasks reached := by
  intro taskId task htask
  rw [htasks] at htask
  exact h taskId task htask

theorem CleanTasks.saved (h : CleanTasks database) {task : ExecutionTaskRecord}
    (hclean : task.payload.extra.keys = []) : CleanTasks (database.saveTask task) := by
  intro taskId found hfound
  rw [get?_saveTask] at hfound
  split at hfound
  · obtain ⟨stored, -, rfl⟩ := Option.map_eq_some_iff.mp hfound
    exact hclean
  · exact h taskId found hfound

theorem CleanTasks.assigned (h : CleanTasks database) {task : ExecutionTaskRecord}
    (htasks : reached.tasks = (database.saveAssignedTask task).tasks)
    (hclean : task.payload.extra.keys = []) : CleanTasks reached := by
  intro taskId found hfound
  rw [htasks, get?_saveAssignedTask] at hfound
  split at hfound
  · obtain ⟨stored, -, rfl⟩ := Option.map_eq_some_iff.mp hfound
    exact hclean
  · exact h taskId found hfound

theorem CleanTasks.unsaved (h : CleanTasks database) {task : ExecutionTaskRecord}
    (hnone : database.tasks.get? task.taskId = none) : CleanTasks (database.saveTask task) := by
  intro taskId found hfound
  rw [get?_saveTask, hnone] at hfound
  split at hfound
  · cases hfound
  · exact h taskId found hfound

theorem not_cleanTasks_of_saved (task : ExecutionTaskRecord) {stored : ExecutionTaskRecord}
    (hstored : database.tasks.get? task.taskId = some stored) (hextra : task.payload.extra.keys ≠ []) :
    ¬ CleanTasks (database.saveTask task) := by
  intro hclean
  apply hextra
  exact hclean task.taskId { stored with
    status := task.status, payload := task.payload, updatedAt := task.updatedAt }
    (by rw [get?_saveTask, if_pos rfl, hstored, Option.map_some])

theorem CleanTasks.sweeps (python : Python) (h : CleanTasks database) (locked : List String) (now : Int) :
    ∃ reached affected, expireStaleLeases python database locked now = .ok (reached, affected) ∧
      CleanTasks reached := by
  let affected := ((dueLeases database locked now).map fun entry => entry.2.operationId).dedup
  have hturn : ∀ entry ∈ dueLeases database locked now, ∀ current, ∃ next written,
      expireLease python current now entry.1 entry.2 = .ok next ∧
        next.tasks = (current.saveAssignedTask written).tasks ∧ written.payload.extra.keys = [] := by
    intro entry hentry current
    obtain ⟨model, hmodel⟩ := entry.2.payload.validates_iff.mpr (h _ _ (mem_dueLeases hentry).2)
    obtain ⟨next, written, hnext, -, htasks, -, -, hclean⟩ :=
      expireLease_writes python current now entry.1 hmodel
    exact ⟨next, written, hnext, htasks, hclean⟩
  obtain ⟨reached, hreached⟩ : ∃ reached, (dueLeases database locked now).foldlM
      (fun database entry => expireLease python database now entry.1 entry.2) database = .ok reached := by
    apply exists_foldlM_ok
    intro entry hentry current
    obtain ⟨next, -, hnext, -⟩ := hturn entry hentry current
    exact ⟨next, hnext⟩
  have hexpire : expireStaleLeases python database locked now = .ok (reached, affected) := by
    rw [expireStaleLeases, hreached]
    rfl
  refine ⟨reached, affected, hexpire, foldlM_ok hreached h fun entry hentry current next hcurrent hnext => ?_⟩
  obtain ⟨found, written, hfound, htasks, hclean⟩ := hturn entry hentry current
  rw [hnext] at hfound
  cases hfound
  exact hcurrent.assigned htasks hclean

end Documents

section Decoding

variable {ι : Type}

/-- Every stored document validates, and no sweep fails on one. -/
structure Decodable (python : Python) (deployment : Deployment ι) : Prop where
  agents : ∀ row ∈ deployment.agents.rows, ∃ definition, row.payload.modelValidate = .ok definition
  tasks : ∀ task ∈ deployment.plane.database.tasks.rows, ∃ model, task.payload.modelValidate = .ok model
  sweeps : ∀ locked now, ∃ reached,
    expireStaleLeases python deployment.plane.database locked now = .ok reached

theorem decodable_iff {python : Python} {deployment : Deployment ι} : Decodable python deployment ↔
    CleanAgents deployment.agents ∧ CleanTasks deployment.plane.database := by
  constructor
  · intro h
    constructor
    · intro agentId row hrow
      exact row.payload.validates_iff.mp (h.agents row (Table.mem_rows_of_get? hrow))
    · intro taskId task htask
      exact task.payload.validates_iff.mp (h.tasks task (Table.mem_rows_of_get? htask))
  · rintro ⟨hagents, htasks⟩
    constructor
    · intro row hrow
      exact row.payload.validates_iff.mpr (hagents _ row (Table.mem_rows.mp hrow))
    · intro task htask
      exact task.payload.validates_iff.mpr (htasks _ task (Table.mem_rows.mp htask))
    · intro locked now
      obtain ⟨reached, affected, hexpire, -⟩ := htasks.sweeps python locked now
      exact ⟨(reached, affected), hexpire⟩

/-- The task whose document a statement writes with an entry beside its fields. -/
def marks (database : Database) : Statement → Phase → Option String
  | .finishTask _, .released assignment _ => some assignment.task.taskId
  | statement, phase => (cancels database statement phase).map ExecutionTaskRecord.taskId

/-- The event writes a stored document with an entry beside the fields of its model. -/
def Event.disfigures (python : Python) : Event ι → Deployment ι → Bool
  | .heartbeat i _, deployment =>
    (deployment.kept i).any fun row => (deployment.agents.get? row.agentId).isSome
  | .postHeartbeat beat, deployment =>
    (deployment.agents.get? beat.agentId).isSome && (python.parseIso beat.occurredAtIso).isOk
  | .work i statement, deployment =>
    (marks deployment.plane.database statement (deployment.plane.processes i).phase).any fun taskId =>
      (deployment.plane.database.tasks.get? taskId).isSome
  | .writeBack i _, deployment =>
    match (deployment.plane.processes i).phase with
    | .executed assignment _ => (deployment.plane.database.tasks.get? assignment.task.taskId).isSome
    | _ => false
  | _, _ => false

variable {runtime : OperationRuntime} {database reached : Database} {agent : ExecutorAgentRecord}
  {statement : Statement} {phase next : Phase}

theorem marks_of_cancels {task : ExecutionTaskRecord} (h : cancels database statement phase = some task) :
    marks database statement phase = some task.taskId := by
  unfold marks
  split
  · cases h
  · rw [h, Option.map_some]

theorem cancelled_extra (python : Python) (task : ExecutionTaskRecord) (now : Int) (reason : String) :
    (cancelledTask python task now reason).payload.extra.keys ≠ [] :=
  Dict.keys_set_ne_nil _ _

theorem finished_extra (python : Python) (assignment : Assignment) (success : Bool) (now : Int) :
    (finishedTask python assignment success now).payload.extra.keys ≠ [] :=
  Dict.keys_set_ne_nil _ _

theorem cancelIfBlocked_marks {python : Python} {task : ExecutionTaskRecord}
    {status : Option OperationStatus} {now : Int}
    (hblocked : dependencyFailed database task ∨ operationTerminal status) :
    ∃ reason, cancelIfBlocked python database task status now =
      database.saveTask (cancelledTask python task now reason) := by
  unfold cancelIfBlocked
  split
  · exact ⟨_, rfl⟩
  · rename_i hfailed
    rw [if_pos (hblocked.resolve_left hfailed)]
    exact ⟨_, rfl⟩

theorem run_marks {taskId : String} (h : statement.run runtime database agent phase = some (reached, next))
    (hmarks : marks database statement phase = some taskId) :
    ∃ task, task.taskId = taskId ∧ task.payload.extra.keys ≠ [] ∧ reached = database.saveTask task := by
  unfold marks at hmarks
  split at hmarks
  · rename_i now assignment success
    cases hmarks
    cases h
    exact ⟨finishedTask runtime.python assignment success now, rfl, finished_extra _ _ _ _, rfl⟩
  · obtain ⟨task, hcancels, rfl⟩ := Option.map_eq_some_iff.mp hmarks
    unfold cancels at hcancels
    split at hcancels
    · obtain ⟨hblocked, hsame⟩ := Option.ite_none_right_eq_some.mp hcancels
      cases hsame
      cases h
      obtain ⟨reason, hreached⟩ := cancelIfBlocked_marks hblocked
      refine ⟨_, ?_, ?_, hreached⟩
      · rfl
      · exact cancelled_extra _ _ _ _
    · cases hcancels
      cases h
      refine ⟨_, ?_, ?_, rfl⟩
      · rfl
      · exact cancelled_extra _ _ _ _
    · cases hcancels

theorem CleanTasks.acts {python : Python} (h : CleanTasks database)
    (hacts : Acts python statement database phase reached next)
    (hmarks : ∀ taskId, marks database statement phase = some taskId → database.tasks.get? taskId = none) :
    CleanTasks reached := by
  cases hacts with
  | quiet htasks => exact h.congr htasks
  | @swept locked affected now hexpire =>
    obtain ⟨found, ids, hfound, hclean⟩ := h.sweeps python locked now
    rw [hexpire] at hfound
    cases hfound
    exact hclean
  | @cancelled task now reason hcancels hreached =>
    have hnone : database.tasks.get? task.taskId = none := hmarks _ (marks_of_cancels hcancels)
    rw [hreached]
    exact h.unsaved hnone
  | claimed hqueued hrunning hextra hclaimed =>
    apply h.assigned hclaimed.tasks
    rw [hextra]
    exact h _ _ hclaimed.stored
  | released hphase hstatement hreached =>
    rw [hreached]
    exact h
  | @finished assignment success now hphase hstatement hreached =>
    subst hphase hstatement
    have hnone : database.tasks.get? assignment.task.taskId = none := hmarks _ rfl
    rw [hreached]
    exact h.unsaved hnone

end Decoding

section Runs

variable {ι : Type} [DecidableEq ι] {runtime : OperationRuntime} {before after : Deployment ι}

/-- Every document is clean, and so is the row each command keeps, which is stored. -/
structure Presentable (deployment : Deployment ι) : Prop where
  agents : CleanAgents deployment.agents
  tasks : CleanTasks deployment.plane.database
  kept : ∀ i row, deployment.kept i = some row →
    row.payload.extra.keys = [] ∧ ∃ stored, deployment.agents.get? row.agentId = some stored

theorem Presentable.perform {i : ι} {statement : Statement} (h : Presentable before)
    (hperform : before.perform runtime i statement = some after)
    (hmarks : ∀ taskId, marks before.plane.database statement (before.plane.processes i).phase =
      some taskId → before.plane.database.tasks.get? taskId = none) : Presentable after := by
  have hcases := Deployment.perform_cases hperform
  obtain ⟨plane, -, rfl⟩ := Option.map_eq_some_iff.mp hperform
  refine ⟨h.agents, ?_, h.kept⟩
  rcases hcases with ⟨agent, -, hplane⟩ | ⟨database, next, hacts, hplane⟩
  · rw [hplane]
    exact h.tasks
  · rw [hplane]
    exact h.tasks.acts hacts hmarks

theorem Presentable.keep (h : Presentable before) {agents : AgentTable} (hagents : CleanAgents agents)
    (hstored : ∀ agentId row, before.agents.get? agentId = some row → ∃ row, agents.get? agentId = some row)
    (i : ι) (row : AgentRow) (hclean : row.payload.extra.keys = [])
    (hrow : ∃ stored, agents.get? row.agentId = some stored) :
    Presentable ({ before with agents := agents }.keep i row) where
  agents := hagents
  tasks := h.tasks
  kept := by
    intro j found hfound
    change Function.update before.kept i (some row) j = some found at hfound
    by_cases hji : j = i
    · rw [hji, Function.update_self] at hfound
      cases hfound
      exact ⟨hclean, hrow⟩
    · rw [Function.update_of_ne hji] at hfound
      obtain ⟨hextra, stored, hbefore⟩ := h.kept j found hfound
      exact ⟨hextra, hstored _ _ hbefore⟩

omit [DecidableEq ι] in
theorem Presentable.withAgents (h : Presentable before) {agents : AgentTable} (hagents : CleanAgents agents)
    (hstored : ∀ agentId row, before.agents.get? agentId = some row → ∃ row, agents.get? agentId = some row) :
    Presentable { before with agents := agents } where
  agents := hagents
  tasks := h.tasks
  kept := by
    intro i row hrow
    obtain ⟨hextra, stored, hbefore⟩ := h.kept i row hrow
    exact ⟨hextra, hstored _ _ hbefore⟩

omit [DecidableEq ι] in
theorem Presentable.withDatabase (h : Presentable before) {database : Database} (htasks : CleanTasks database) :
    Presentable (before.withDatabase database) := ⟨h.agents, htasks, h.kept⟩

theorem Presentable.step {event : Event ι} (h : Presentable before)
    (hstep : Deployment.step runtime event before = some after)
    (hclean : event.disfigures runtime.python before = false) : Presentable after := by
  cases Deployment.step_occurs hstep with
  | refused => exact h
  | @started i options nowIso now row agents _ hregister hperform =>
    obtain ⟨rfl, rfl⟩ := register_eq hregister
    let row := options.row nowIso now
    have hrow : ∃ stored, (before.agents.put row).get? row.agentId = some stored :=
      ⟨row, by rw [Table.get?_put, if_pos rfl]⟩
    have hkept := h.keep (h.agents.put row rfl) (AgentTable.put_stored row) i row rfl hrow
    exact hkept.perform hperform fun taskId hmarks => nomatch hmarks
  | @beaten i now row hkept =>
    obtain ⟨-, stored, hstored⟩ := h.kept i row hkept
    simp [Event.disfigures, hkept, hstored] at hclean
  | worked _ hperform =>
    refine h.perform hperform fun taskId hmarks => ?_
    simpa [Event.disfigures, hmarks] using hclean
  | writtenBack hrelease hfinish =>
    obtain ⟨assignment, success, hphase, hdatabase⟩ := Deployment.writeBack_cases hrelease hfinish
    obtain ⟨middle, -, rfl⟩ := Option.map_eq_some_iff.mp hrelease
    obtain ⟨last, -, rfl⟩ := Option.map_eq_some_iff.mp hfinish
    refine ⟨h.agents, ?_, h.kept⟩
    rw [hdatabase]
    simp only [Event.disfigures, hphase, Option.isSome_eq_false_iff, Option.isNone_iff_eq_none] at hclean
    exact CleanTasks.unsaved h.tasks hclean
  | @ended i nowIso now row _ hrow hperform =>
    obtain ⟨hextra, stored, hstored⟩ := h.kept i row hrow
    let last := row.offline nowIso now
    have hlast := AgentTable.save_stored last row.agentId stored hstored
    have hkept := h.keep (h.agents.save last hextra) (AgentTable.save_stored last) i last hextra hlast
    exact hkept.perform hperform fun taskId hmarks => nomatch hmarks
  | agentPosted request =>
    rcases request.post_cases with hsame | ⟨lastHeartbeatAt, hput⟩
    · rw [hsame]
      exact h
    · rw [hput]
      exact h.withAgents (h.agents.put _ rfl) (AgentTable.put_stored _)
  | heartbeatPosted beat =>
    rcases postHeartbeat_cases runtime.python before.agents beat with ⟨-, hsame⟩ | ⟨heffective, -⟩
    · rw [hsame]
      exact h
    · rw [Event.disfigures, heffective] at hclean
      cases hclean
  | claimPosted request generated now =>
    rcases request.post_cases generated now with
      hsame | ⟨task, agentId, leased, row, updatedAt, -, -, hclaimed⟩
    · rw [hsame]
      exact h
    · exact h.withDatabase (h.tasks.assigned hclaimed.tasks rfl)
  | completionPosted taskId data now =>
    rcases postCompletion_cases taskId data now with
      hsame | ⟨lease, task, nonce, hhead, -, -, ⟨-, hreached⟩ | ⟨-, success, hreached⟩⟩
    · rw [hsame]
      exact h
    · rw [hreached]
      exact h.withDatabase h.tasks
    · rw [hreached]
      obtain ⟨-, htask⟩ := mem_activeLeases.mp (List.mem_of_mem_head? hhead)
      have hextra : task.payload.extra.keys = [] := h.tasks _ _ htask
      exact h.withDatabase (CleanTasks.saved h.tasks hextra)

theorem beat_extra (python : Python) (database : Database) (row : AgentRow) (now : Int) :
    (row.beat python database now).payload.extra.keys ≠ [] :=
  Dict.keys_set_ne_nil _ _

theorem not_cleanAgents_of_save {agents : AgentTable} (row : AgentRow) {stored : AgentRow}
    (hstored : agents.get? row.agentId = some stored) (hextra : row.payload.extra.keys ≠ []) :
    ¬ CleanAgents (agents.save row) := by
  intro hclean
  apply hextra
  exact hclean row.agentId { stored with
    status := row.status, lastHeartbeatAt := row.lastHeartbeatAt, payload := row.payload }
    (by rw [AgentTable.get?_save, if_pos rfl, hstored, Option.map_some])

theorem not_decodable_of_disfigures {event : Event ι} {python : Python}
    (hstep : Deployment.step runtime event before = some after)
    (h : event.disfigures runtime.python before = true) : ¬ Decodable python after := by
  intro hdecodable
  obtain ⟨hagents, htasks⟩ := decodable_iff.mp hdecodable
  cases Deployment.step_occurs hstep with
  | @beaten i now row hkept =>
    simp only [Event.disfigures, hkept, Option.any_some] at h
    obtain ⟨stored, hstored⟩ := Option.isSome_iff_exists.mp h
    exact not_cleanAgents_of_save (row.beat runtime.python before.plane.database now) hstored
      (beat_extra _ _ _ _) hagents
  | @worked i statement _ hstatement hperform =>
    obtain ⟨taskId, hmarks, hsome⟩ := (Option.any_eq_true _ _).mp h
    obtain ⟨stored, hstored⟩ := Option.isSome_iff_exists.mp hsome
    obtain ⟨plane, hplane, rfl⟩ := Option.map_eq_some_iff.mp hperform
    rcases step_cases hplane with ⟨agent, hregister, -⟩ | ⟨database, next, hrun, rfl⟩
    · exact hstatement agent hregister
    · obtain ⟨task, rfl, hextra, hreached⟩ := run_marks hrun hmarks
      rw [hreached] at htasks
      exact not_cleanTasks_of_saved task hstored hextra htasks
  | writtenBack hrelease hfinish =>
    obtain ⟨assignment, success, hphase, hdatabase⟩ := Deployment.writeBack_cases hrelease hfinish
    simp only [Event.disfigures, hphase] at h
    obtain ⟨stored, hstored⟩ := Option.isSome_iff_exists.mp h
    rw [hdatabase] at htasks
    exact not_cleanTasks_of_saved (finishedTask runtime.python _ success _) hstored
      (finished_extra _ _ _ _) htasks
  | heartbeatPosted beat =>
    rcases postHeartbeat_cases runtime.python before.agents beat with
      ⟨hignored, -⟩ | ⟨-, row, hextra, hput⟩
    · rw [Event.disfigures, hignored] at h
      cases h
    · rw [hput] at hagents
      exact hextra (hagents row.agentId row (by rw [Table.get?_put, if_pos rfl]))
  | refused => cases h
  | started => cases h
  | ended => cases h
  | agentPosted => cases h
  | claimPosted => cases h
  | completionPosted => cases h

/-- Stored documents can be read in every state of a run exactly when no event of it
disfigures one: no heartbeat, no cancellation and no task written back by its agent. -/
theorem decodable_iff_undisfigured {start reached : Deployment ι}
    {past : List (Transition (Deployment ι) (Event ι))}
    (h : Run (Deployment.step runtime) start past reached) (hstart : Decodable runtime.python start)
    (hkept : ∀ i, start.kept i = none) :
    (∀ deployment ∈ start :: past.map Transition.after, Decodable runtime.python deployment) ↔
      ∀ transition ∈ past,
        transition.label.disfigures runtime.python transition.before = false := by
  constructor
  · intro hall transition hmem
    obtain ⟨earlier, -, -, hstep⟩ := h.step_of_mem hmem
    have hafter := hall transition.after (List.mem_cons_of_mem _ (List.mem_map_of_mem hmem))
    cases hdisfigures : transition.label.disfigures runtime.python transition.before with
    | false => rfl
    | true => exact absurd hafter (not_decodable_of_disfigures hstep hdisfigures)
  · intro hclean deployment hmem
    rcases List.mem_cons.mp hmem with rfl | hafter
    · exact hstart
    · obtain ⟨transition, htransition, rfl⟩ := List.mem_map.mp hafter
      obtain ⟨earlier, hearlier, hsub, hstep⟩ := h.step_of_mem htransition
      obtain ⟨hagents, htasks⟩ := decodable_iff.mp hstart
      have hpresentable : Presentable start := by
        refine ⟨hagents, htasks, fun i row hrow => ?_⟩
        rw [hkept i] at hrow
        cases hrow
      have hbefore : Presentable transition.before :=
        hearlier.invariant hpresentable fun passed hpassed hpass hprevious =>
          hprevious.step hpass (hclean passed (hsub hpassed))
      have hnext := hbefore.step hstep (hclean transition htransition)
      exact decodable_iff.mpr ⟨hnext.agents, hnext.tasks⟩

end Runs

section Samples

namespace DockerFleet

theorem deployment_decodable : Decodable clockRuntime.python deployment := by
  refine decodable_iff.mpr ⟨?_, ?_⟩
  · intro agentId row hrow
    cases hrow
  · intro taskId task htask
    have hall : ∀ task ∈ deployment.plane.database.tasks.rows, task.payload.extra.keys = [] := by decide
    exact hall task (Table.mem_rows_of_get? htask)

/-- An agent registers, and the task is claimed and completed by requests. -/
def requested : List (Event Worker) :=
  [.start .first options midnightIso midnight,
    .postClaim ⟨"task:db", Dict.ofList [("agent_id", .str "executor-1")], "default", "default"⟩
      ⟨"decision", "lease", "nonce"⟩ midnight,
    .postCompletion "task:db" (Dict.ofList [("nonce", .str "nonce"), ("success", .bool true)]) midnight,
    .work .first (.expireStaleLeases [] midnight)]

theorem requested_decodable : ∃ reached,
    Run (Deployment.step clockRuntime) deployment (occurred requested) reached ∧
      ∀ passed ∈ deployment :: (occurred requested).map Transition.after,
        Decodable clockRuntime.python passed := by
  obtain ⟨reached, hrun, hall⟩ := run_occurred requested (fun past => past.all fun transition =>
    ! transition.label.disfigures clockRuntime.python transition.before) (by decide)
  refine ⟨reached, hrun, (decodable_iff_undisfigured hrun deployment_decodable fun _ => rfl).mpr ?_⟩
  intro transition hmem
  simpa using List.all_eq_true.mp hall transition hmem

/-- An agent registers and sends a heartbeat. -/
def beating : List (Event Worker) :=
  [.start .first options midnightIso midnight,
    .postHeartbeat { agentId := "executor-1", occurredAtIso := midnightIso, status := .online }]

theorem beating_undecodable : ¬ ∀ past reached,
    Run (Deployment.step clockRuntime) deployment past reached →
      Decodable clockRuntime.python reached := by
  intro hall
  obtain ⟨reached, hrun, hlast⟩ := run_occurred beating (fun past =>
    (deployment :: past.map Transition.after).getLast?.all fun deployment =>
      deployment.agents.rows.any fun row => row.payload.extra.keys ≠ []) (by decide)
  rw [hrun.getLast?_states, Option.all_some] at hlast
  obtain ⟨row, hrow, hextra⟩ := List.any_eq_true.mp hlast
  exact of_decide_eq_true hextra (row.payload.validates_iff.mp ((hall _ _ hrun).agents row hrow))

end DockerFleet

end Samples

end KubeOps.ControlPlane
