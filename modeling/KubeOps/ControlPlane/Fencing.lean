import KubeOps.ControlPlane.DockerFleet

/-! Worker fencing. An agent writes its task back without looking at its lease
again, so the write-backs are fenced in exactly the runs in which every agent
still has its lease when it comes to release it. -/
namespace KubeOps.ControlPlane

open KubeOps.Foundation KubeOps.Models KubeOps.Execution

variable {ι : Type}

section Leases

/-- The lease an agent works under, and whether it has released it. -/
def Phase.holding : Phase → Option (String × Bool)
  | .assigned assignment | .executed assignment _ => some (assignment.lease.leaseId, false)
  | .released assignment _ => some (assignment.lease.leaseId, true)
  | .reconciling _ next | .refreshed _ next | .gathered _ _ next | .projected _ next
  | .cancelling _ _ next => next.holding
  | .stopped | .idle | .sweeping _ | .admitted | .culling _ => none

def Plane.holding (plane : Plane ι) (i : ι) : Option (String × Bool) :=
  (plane.processes i).phase.holding

/-- A sweep leaves a lease alone, or it was active and is expired now. -/
def Swept (before after : Option TaskLeaseRecord) : Prop :=
  after = before ∨
    before.map TaskLeaseRecord.status = some .active ∧ after.map TaskLeaseRecord.status = some .expired

def releasedAt (now : Int) (lease : TaskLeaseRecord) : TaskLeaseRecord :=
  { lease with status := .released, heartbeatAt := now }

inductive Leased (statement : Statement) (database : Database) (phase : Phase) (reached : Database)
    (next : Phase) : Prop where
  | quiet (hleases : reached.leases = database.leases)
      (hholding : next.holding = phase.holding ∨ next.holding = none)
  | swept (hleases : ∀ leaseId, Swept (database.leases.get? leaseId) (reached.leases.get? leaseId))
      (hholding : next.holding = none)
  | claimed (lease : TaskLeaseRecord) (hfresh : database.leases.get? lease.leaseId = none)
      (hactive : lease.status = .active) (hleases : reached.leases = database.leases.put lease)
      (hholding : next.holding = some (lease.leaseId, false))
  | released (assignment : Assignment) (success : Bool) (now : Int)
      (hstatement : statement = .releaseLease now) (hphase : phase = .executed assignment success)
      (hleases : reached = database.saveLease (releasedAt now assignment.lease))
      (hnext : next.holding = some (assignment.lease.leaseId, true))

theorem expireLease_leases {database reached : Database} {python : Python} {now : Int}
    {lease : TaskLeaseRecord} {task : ExecutionTaskRecord}
    (h : expireLease python database now lease task = .ok reached) :
    reached.leases = (database.saveLease { lease with status := .expired, heartbeatAt := now }).leases := by
  obtain ⟨model, -, ⟨_, rfl⟩ | ⟨-, rfl⟩⟩ := expireLease_cases h
  · rfl
  · rfl

theorem get?_saveLease (database : Database) (lease : TaskLeaseRecord) (leaseId : String) :
    (database.saveLease lease).leases.get? leaseId =
      if leaseId = lease.leaseId then (database.leases.get? lease.leaseId).map fun row =>
        { row with status := lease.status, heartbeatAt := lease.heartbeatAt }
      else database.leases.get? leaseId := by
  simp only [Database.saveLease, Table.get?_update]

theorem expireLease_swept {python : Python} {now : Int} {database current reached : Database}
    {entry : TaskLeaseRecord × ExecutionTaskRecord}
    (hstored : database.leases.get? entry.1.leaseId = some entry.1)
    (hactive : entry.1.status = .active)
    (hswept : ∀ leaseId, Swept (database.leases.get? leaseId) (current.leases.get? leaseId))
    (h : expireLease python current now entry.1 entry.2 = .ok reached) :
    ∀ leaseId, Swept (database.leases.get? leaseId) (reached.leases.get? leaseId) := by
  intro leaseId
  rw [expireLease_leases h, get?_saveLease]
  split
  · rename_i heq
    rw [heq]
    refine .inr ⟨by simp [hstored, hactive], ?_⟩
    rcases hswept entry.1.leaseId with hsame | ⟨-, hexpired⟩
    · simp [hsame, hstored]
    · obtain ⟨row, hrow, -⟩ := Option.map_eq_some_iff.mp hexpired
      simp [hrow]
  · exact hswept leaseId

theorem expireStaleLeases_swept {python : Python} {database reached : Database}
    {locked affected : List String} {now : Int}
    (h : expireStaleLeases python database locked now = .ok (reached, affected)) :
    ∀ leaseId, Swept (database.leases.get? leaseId) (reached.leases.get? leaseId) := by
  refine foldlM_ok (p := fun current => ∀ leaseId,
    Swept (database.leases.get? leaseId) (current.leases.get? leaseId)) (expireStaleLeases_ok h)
    (fun _ => .inl rfl) fun entry hmem current next hcurrent hnext => ?_
  obtain ⟨⟨hstored, hactive⟩, -⟩ := mem_dueLeases hmem
  exact expireLease_swept hstored hactive hcurrent hnext

theorem claim_claimed {database reached : Database} {agent : ExecutorAgentRecord} {python : Python}
    {locked : List String} {now : Int} {random nonce : String} {assignment : Assignment}
    (h : claim database agent python locked now random nonce = .ok (some (reached, assignment))) :
    database.leases.get? assignment.lease.leaseId = none ∧ assignment.lease.status = .active ∧
      reached.leases = database.leases.put assignment.lease := by
  obtain ⟨task, timeoutSeconds, -, -, -, -, hfresh, rfl, rfl⟩ := claim_eq_some h
  exact ⟨hfresh, rfl, rfl⟩

theorem persistOperation_rows {python : Python} {database reached : Database}
    {operation : OperationRun} (h : persistOperation python database operation = some reached) :
    reached.tasks = database.tasks ∧ reached.leases = database.leases := by
  unfold persistOperation at h
  simp only [bind, Option.bind_eq_some_iff] at h
  obtain ⟨created, -, receipts, -, hreached⟩ := h
  cases hreached
  exact ⟨rfl, rfl⟩

theorem cancelIfBlocked_leases (python : Python) (database : Database) (task : ExecutionTaskRecord)
    (status : Option OperationStatus) (now : Int) :
    (cancelIfBlocked python database task status now).leases = database.leases := by
  unfold cancelIfBlocked
  split
  · rfl
  · split <;> rfl

theorem run_leased {runtime : OperationRuntime} {database reached : Database} {agent : ExecutorAgentRecord}
    {statement : Statement}
    {phase next : Phase} (h : statement.run runtime database agent phase = some (reached, next)) :
    Leased statement database phase reached next := by
  unfold Statement.run at h
  split at h
  · -- expireStaleLeases
    split at h
    · rename_i hexpire
      cases h
      exact .swept (expireStaleLeases_swept hexpire) rfl
    · cases h
      exact .quiet rfl (.inr rfl)
  · -- nextAffected
    split at h
    · cases h
      exact .quiet rfl (.inr rfl)
    · cases h
  · -- countLeases
    cases h
    refine .quiet rfl (.inr ?_)
    split <;> rfl
  · -- listQueued
    cases h
    exact .quiet rfl (.inr rfl)
  · -- cancelBlocked
    cases h
    exact .quiet (cancelIfBlocked_leases ..) (.inr rfl)
  · -- claim
    split at h
    · rename_i hclaim
      cases h
      obtain ⟨hfresh, hactive, hleases⟩ := claim_claimed hclaim
      exact .claimed _ hfresh hactive hleases rfl
    · cases h
      exact .quiet rfl (.inr rfl)
    · cases h
      exact .quiet rfl (.inr rfl)
  · -- execute
    rename_i answer nowIso now assignment
    obtain ⟨row, executed, success, heq, -, -, hlease, -⟩ :=
      executeTask_cases assignment answer nowIso now
    rw [heq] at h
    cases h
    exact .quiet rfl (.inl (by rw [Phase.holding, Phase.holding, hlease]))
  · -- releaseLease
    rename_i now assignment success
    cases h
    exact .released assignment success now rfl rfl rfl rfl
  · -- finishTask
    cases h
    exact .quiet rfl (.inr rfl)
  · -- refreshOperation
    split at h
    · cases h
      exact .quiet rfl (.inr rfl)
    · split at h
      · cases h
        exact .quiet rfl (.inl rfl)
      · cases h
        exact .quiet rfl (.inr rfl)
  · -- readReceipts
    cases h
    exact .quiet rfl (.inl rfl)
  · -- reconcile
    dsimp only at h
    split at h
    · cases h
      exact .quiet rfl (.inl rfl)
    · cases h
      exact .quiet rfl (.inr rfl)
  · -- listPending
    cases h
    exact .quiet rfl (.inl rfl)
  · -- cancelPending
    cases h
    exact .quiet rfl (.inl rfl)
  · -- persist
    split at h
    · rename_i hpersist
      cases h
      exact .quiet (persistOperation_rows hpersist).2 (.inl rfl)
    · cases h
      exact .quiet rfl (.inr rfl)
  · -- stop
    cases h
    exact .quiet rfl (.inr rfl)
  · cases h

end Leases

section Ownership

variable {before after : Plane ι}

def Plane.leaseStatus (plane : Plane ι) (leaseId : String) : Option LeaseStatus :=
  (plane.database.leases.get? leaseId).map TaskLeaseRecord.status

/-- Every agent works under a stored lease of its own, which is active or
expired until the agent releases it. -/
structure Ownership (plane : Plane ι) : Prop where
  held : ∀ i leaseId, plane.holding i = some (leaseId, false) →
    plane.leaseStatus leaseId = some .active ∨ plane.leaseStatus leaseId = some .expired
  released : ∀ i leaseId, plane.holding i = some (leaseId, true) →
    plane.leaseStatus leaseId = some .released
  distinct : ∀ i j leaseId own other, plane.holding i = some (leaseId, own) →
    plane.holding j = some (leaseId, other) → i = j

theorem Ownership.start {plane : Plane ι} (h : ∀ i, (plane.processes i).phase = .stopped) :
    Ownership plane := by
  have hnone : ∀ i, plane.holding i = none := by
    intro i
    rw [Plane.holding, h i]
    rfl
  constructor
  · intro i leaseId hholding
    rw [hnone i] at hholding
    cases hholding
  · intro i leaseId hholding
    rw [hnone i] at hholding
    cases hholding
  · intro i j leaseId own other hholding
    rw [hnone i] at hholding
    cases hholding

theorem Ownership.stored {plane : Plane ι} (h : Ownership plane) {i : ι} {leaseId : String}
    {released : Bool} (hholding : plane.holding i = some (leaseId, released)) :
    plane.database.leases.get? leaseId ≠ none := by
  intro hnone
  have hstatus : plane.leaseStatus leaseId = none := by simp [Plane.leaseStatus, hnone]
  cases released with
  | false =>
    have hheld := h.held i leaseId hholding
    simp [hstatus] at hheld
  | true =>
    have hreleased := h.released i leaseId hholding
    simp [hstatus] at hreleased

theorem Ownership.mono (h : Ownership before)
    (hholding : ∀ i held, after.holding i = some held → before.holding i = some held)
    (hheld : ∀ i leaseId, before.holding i = some (leaseId, false) →
      after.leaseStatus leaseId = before.leaseStatus leaseId ∨
        after.leaseStatus leaseId = some .expired)
    (hreleased : ∀ i leaseId, before.holding i = some (leaseId, true) →
      after.leaseStatus leaseId = before.leaseStatus leaseId) : Ownership after := by
  constructor
  · intro i leaseId hafter
    have hbefore := hholding i _ hafter
    rcases hheld i leaseId hbefore with hsame | hexpired
    · rw [hsame]
      exact h.held i leaseId hbefore
    · exact .inr hexpired
  · intro i leaseId hafter
    have hbefore := hholding i _ hafter
    rw [hreleased i leaseId hbefore]
    exact h.released i leaseId hbefore
  · intro i j leaseId own other hi hj
    exact h.distinct i j leaseId own other (hholding i _ hi) (hholding j _ hj)

end Ownership

section Steps

variable [DecidableEq ι] {runtime : OperationRuntime} {before after : Plane ι}
  {label : ι × Statement}

theorem step_leased (h : step runtime label before = some after) :
    Leased label.2 before.database (before.processes label.1).phase after.database
        (after.processes label.1).phase ∧
      ∀ j, j ≠ label.1 → after.holding j = before.holding j := by
  unfold step at h
  dsimp only at h
  split at h
  · cases h
    rename_i hphase
    refine ⟨.quiet rfl (.inr ?_), fun j hne => by simp [Plane.holding, Function.update_of_ne hne]⟩
    simp [Phase.holding]
  · obtain ⟨⟨reached, next⟩, hrun, rfl⟩ := Option.map_eq_some_iff.mp h
    refine ⟨?_, fun j hne => by simp [Plane.holding, Function.update_of_ne hne]⟩
    simp only [Function.update_self]
    exact run_leased hrun

theorem Ownership.replaced (h : Ownership before) {i : ι} {leaseId : String} {released : Bool}
    (hnext : after.holding i = some (leaseId, released))
    (hown : after.leaseStatus leaseId = some (if released then .released else .active))
    (hother : ∀ j other own, j ≠ i → after.holding j = some (other, own) →
      before.holding j = some (other, own) ∧ other ≠ leaseId ∧
        after.leaseStatus other = before.leaseStatus other) : Ownership after := by
  constructor
  · intro j other hj
    by_cases hji : j = i
    · rw [hji, hnext] at hj
      cases hj
      exact .inl hown
    · obtain ⟨hbefore, -, hsame⟩ := hother j other false hji hj
      rw [hsame]
      exact h.held j other hbefore
  · intro j other hj
    by_cases hji : j = i
    · rw [hji, hnext] at hj
      cases hj
      exact hown
    · obtain ⟨hbefore, -, hsame⟩ := hother j other true hji hj
      rw [hsame]
      exact h.released j other hbefore
  · intro j k other own held hj hk
    by_cases hji : j = i <;> by_cases hki : k = i
    · rw [hji, hki]
    · rw [hji, hnext] at hj
      cases hj
      exact absurd rfl (hother k _ _ hki hk).2.1
    · rw [hki, hnext] at hk
      cases hk
      exact absurd rfl (hother j _ _ hji hj).2.1
    · exact h.distinct j k other own held (hother j _ _ hji hj).1 (hother k _ _ hki hk).1

theorem Ownership.claimed (h : Ownership before) {i : ι} {lease : TaskLeaseRecord}
    (hothers : ∀ j, j ≠ i → after.holding j = before.holding j)
    (hholding : after.holding i = some (lease.leaseId, false))
    (hfresh : before.database.leases.get? lease.leaseId = none) (hactive : lease.status = .active)
    (hleases : after.database.leases = before.database.leases.put lease) : Ownership after := by
  refine h.replaced hholding ?_ fun j other own hne hj => ?_
  · simp [Plane.leaseStatus, hleases, Table.get?_put, hactive]
  · rw [hothers j hne] at hj
    have hid : other ≠ lease.leaseId := by
      rintro rfl
      exact h.stored hj hfresh
    exact ⟨hj, hid, by simp [Plane.leaseStatus, hleases, Table.get?_put, hid]⟩

theorem Ownership.release (h : Ownership before) {i : ι} {lease : TaskLeaseRecord} {now : Int}
    (hothers : ∀ j, j ≠ i → after.holding j = before.holding j)
    (hholding : before.holding i = some (lease.leaseId, false))
    (hnext : after.holding i = some (lease.leaseId, true))
    (hdatabase : after.database = before.database.saveLease (releasedAt now lease)) :
    Ownership after := by
  refine h.replaced hnext ?_ fun j other own hne hj => ?_
  · obtain ⟨row, hrow⟩ := Option.ne_none_iff_exists'.mp (h.stored hholding)
    simp [Plane.leaseStatus, hdatabase, get?_saveLease, releasedAt, hrow]
  · rw [hothers j hne] at hj
    have hid : other ≠ lease.leaseId := by
      rintro rfl
      exact hne (h.distinct j i lease.leaseId own false hj hholding)
    exact ⟨hj, hid, by simp [Plane.leaseStatus, hdatabase, get?_saveLease, releasedAt, hid]⟩

theorem Ownership.step (h : Ownership before) (hstep : step runtime label before = some after) :
    Ownership after := by
  obtain ⟨hleased, hothers⟩ := step_leased hstep
  have hshrinks : after.holding label.1 = before.holding label.1 ∨ after.holding label.1 = none →
      ∀ i held, after.holding i = some held → before.holding i = some held := by
    intro hown i held hi
    by_cases heq : i = label.1
    · rw [heq] at hi ⊢
      rcases hown with hsame | hnone
      · rwa [← hsame]
      · rw [hnone] at hi
        cases hi
    · rwa [← hothers i heq]
  cases hleased with
  | quiet hleases hholding =>
    have hsame : ∀ leaseId, after.leaseStatus leaseId = before.leaseStatus leaseId := fun leaseId => by
      rw [Plane.leaseStatus, hleases, Plane.leaseStatus]
    exact h.mono (hshrinks hholding) (fun _ _ _ => .inl (hsame _)) fun _ _ _ => hsame _
  | swept hleases hholding =>
    refine h.mono (hshrinks (.inr hholding)) (fun i leaseId hi => ?_) fun i leaseId hi => ?_
    · rcases hleases leaseId with hsame | ⟨-, hexpired⟩
      · exact .inl (by rw [Plane.leaseStatus, hsame, Plane.leaseStatus])
      · exact .inr hexpired
    · rcases hleases leaseId with hsame | ⟨hactive, -⟩
      · rw [Plane.leaseStatus, hsame, Plane.leaseStatus]
      · have hreleased := h.released i leaseId hi
        rw [Plane.leaseStatus, hactive] at hreleased
        cases hreleased
  | claimed lease hfresh hactive hleases hholding =>
    exact h.claimed hothers hholding hfresh hactive hleases
  | released assignment success now hstatement hphase hleases hnext =>
    refine h.release hothers ?_ hnext hleases
    rw [Plane.holding, hphase]
    rfl

end Steps

section Fencing

/-- The lease and task an agent writes back, where the step is a write-back. -/
def writesBack (transition : Transition (Plane ι) (ι × Statement)) : Option Assignment :=
  match transition.label.2, (transition.before.processes transition.label.1).phase with
  | .releaseLease _, .executed assignment _ => some assignment
  | .finishTask _, .released assignment _ => some assignment
  | _, _ => none

/-- The task of a step that marks it completed or failed. -/
def finishes (transition : Transition (Plane ι) (ι × Statement)) : Option Assignment :=
  match transition.label.2, (transition.before.processes transition.label.1).phase with
  | .finishTask _, .released assignment _ => some assignment
  | _, _ => none

def Plane.taskStatus (plane : Plane ι) (taskId : String) : Option TaskStatus :=
  (plane.database.tasks.get? taskId).map ExecutionTaskRecord.status

def MarkedExpired (past : List (Transition (Plane ι) (ι × Statement))) (now : Plane ι)
    (leaseId : String) : Prop :=
  now.leaseStatus leaseId = some .expired ∨
    ∃ transition ∈ past, transition.before.leaseStatus leaseId = some .expired

/-- A write-back under a lease marked expired leaves the task its status and the
leases as they are, and no task is finished by an agent whose lease was. -/
structure FencedStep (past : List (Transition (Plane ι) (ι × Statement)))
    (transition : Transition (Plane ι) (ι × Statement)) : Prop where
  inert : ∀ assignment, writesBack transition = some assignment →
    MarkedExpired past transition.before assignment.lease.leaseId →
      transition.after.taskStatus assignment.task.taskId =
          transition.before.taskStatus assignment.task.taskId ∧
        (∀ leaseId, leaseId ≠ assignment.lease.leaseId →
          transition.after.database.leases.get? leaseId =
            transition.before.database.leases.get? leaseId) ∧
        transition.after.leaseStatus assignment.lease.leaseId =
          transition.before.leaseStatus assignment.lease.leaseId
  holder : ∀ assignment, finishes transition = some assignment →
    ¬ MarkedExpired past transition.before assignment.lease.leaseId

def Fenced (past : List (Transition (Plane ι) (ι × Statement))) : Prop := Monitored FencedStep past

/-- An agent that comes to release its lease finds it active. -/
def stillLeased (transition : Transition (Plane ι) (ι × Statement)) : Bool :=
  match transition.label.2, (transition.before.processes transition.label.1).phase with
  | .releaseLease _, .executed assignment _ =>
    transition.before.leaseStatus assignment.lease.leaseId = some .active
  | _, _ => true

theorem writesBack_cases {transition : Transition (Plane ι) (ι × Statement)}
    {assignment : Assignment} (h : writesBack transition = some assignment) :
    (∃ now success, transition.label.2 = .releaseLease now ∧
        (transition.before.processes transition.label.1).phase = .executed assignment success) ∨
      ∃ now success, transition.label.2 = .finishTask now ∧
        (transition.before.processes transition.label.1).phase = .released assignment success := by
  unfold writesBack at h
  split at h
  · cases h
    exact .inl ⟨_, _, by assumption, by assumption⟩
  · cases h
    exact .inr ⟨_, _, by assumption, by assumption⟩
  · cases h

theorem finishes_eq_some {transition : Transition (Plane ι) (ι × Statement)}
    {assignment : Assignment} (h : finishes transition = some assignment) :
    ∃ success, (transition.before.processes transition.label.1).phase = .released assignment success := by
  unfold finishes at h
  split at h
  · cases h
    exact ⟨_, by assumption⟩
  · cases h

theorem stillLeased_eq {transition : Transition (Plane ι) (ι × Statement)} {assignment : Assignment}
    {now : Int} {success : Bool} (hstatement : transition.label.2 = .releaseLease now)
    (hphase : (transition.before.processes transition.label.1).phase = .executed assignment success) :
    stillLeased transition = true ↔
      transition.before.leaseStatus assignment.lease.leaseId = some .active := by
  simp [stillLeased, hstatement, hphase]

variable [DecidableEq ι] {runtime : OperationRuntime} {start reached : Plane ι}
  {past : List (Transition (Plane ι) (ι × Statement))}

theorem ownership_of_run (h : Run (step runtime) start past reached)
    (hstart : ∀ i, (start.processes i).phase = .stopped) : Ownership reached :=
  h.invariant (Ownership.start hstart) fun _ _ hstep hbefore => hbefore.step hstep

theorem expired_kept {transition : Transition (Plane ι) (ι × Statement)}
    (hstep : step runtime transition.label transition.before = some transition.after)
    (hleased : stillLeased transition = true) {leaseId : String}
    (hexpired : transition.before.leaseStatus leaseId = some .expired) :
    transition.after.leaseStatus leaseId = some .expired := by
  obtain ⟨hcase, -⟩ := step_leased hstep
  unfold Plane.leaseStatus at hexpired ⊢
  cases hcase with
  | quiet hleases => rwa [hleases]
  | swept hleases =>
    rcases hleases leaseId with hsame | ⟨-, hdone⟩
    · rwa [hsame]
    · exact hdone
  | claimed lease hfresh _ hleases =>
    have hne : leaseId ≠ lease.leaseId := by
      rintro rfl
      simp [hfresh] at hexpired
    rwa [hleases, Table.get?_put, if_neg hne]
  | released assignment success now hstatement hphase hleases =>
    have hne : leaseId ≠ assignment.lease.leaseId := by
      rintro rfl
      have hactive := (stillLeased_eq hstatement hphase).mp hleased
      rw [Plane.leaseStatus, hexpired] at hactive
      cases hactive
    rwa [hleases, get?_saveLease, releasedAt, if_neg hne]

theorem leaseStatus_releaseLease {before after : Plane ι} {i : ι} {now : Int}
    {assignment : Assignment} {success : Bool}
    (hphase : (before.processes i).phase = .executed assignment success)
    (hstep : step runtime (i, .releaseLease now) before = some after)
    (hstored : before.database.leases.get? assignment.lease.leaseId ≠ none) :
    after.leaseStatus assignment.lease.leaseId = some .released := by
  obtain ⟨row, hrow⟩ := Option.ne_none_iff_exists'.mp hstored
  unfold step Statement.run at hstep
  simp only [hphase, Option.map_some, Option.some.injEq] at hstep
  rw [← hstep]
  simp [Plane.leaseStatus, get?_saveLease, hrow]

/-- The write-backs of a run are fenced exactly when every agent that comes to
release its lease finds it active. -/
theorem fenced_iff_stillLeased (h : Run (step runtime) start past reached)
    (hstart : ∀ i, (start.processes i).phase = .stopped) :
    Fenced past ↔ ∀ transition ∈ past, stillLeased transition = true := by
  constructor
  · intro hfenced transition hmem
    obtain ⟨earlier, later, heq⟩ := List.append_of_mem hmem
    obtain ⟨hrun, hstep⟩ := h.split heq
    have hown := ownership_of_run hrun hstart
    have hpermits := hfenced earlier transition later heq
    unfold stillLeased
    split
    · rename_i now assignment success hstatement hphase
      have hholding : transition.before.holding transition.label.1 =
          some (assignment.lease.leaseId, false) := by
        rw [Plane.holding, hphase]
        rfl
      rcases hown.held _ _ hholding with hactive | hexpired
      · simp [hactive]
      · have hwrites : writesBack transition = some assignment := by
          simp [writesBack, hstatement, hphase]
        obtain ⟨-, -, hsame⟩ := hpermits.inert assignment hwrites (.inl hexpired)
        have hrelease : step runtime (transition.label.1, .releaseLease now) transition.before =
            some transition.after := by
          rw [← hstatement]
          exact hstep
        rw [leaseStatus_releaseLease hphase hrelease (hown.stored hholding), hexpired] at hsame
        cases hsame
    · rfl
  · intro hleased earlier transition later heq
    obtain ⟨hrun, -⟩ := h.split heq
    have hown := ownership_of_run hrun hstart
    have hsub : ∀ passed ∈ earlier, passed ∈ past := fun passed hmem => by simp [heq, hmem]
    -- A lease once expired still is when the step is taken.
    have hexpired : ∀ leaseId, MarkedExpired earlier transition.before leaseId →
        transition.before.leaseStatus leaseId = some .expired := by
      rintro leaseId (hnow | ⟨passed, hpassed, hearlier⟩)
      · exact hnow
      · exact hrun.kept (p := fun plane => plane.leaseStatus leaseId = some .expired)
          (fun passed hmem hstep => expired_kept hstep (hleased passed (hsub passed hmem)))
          passed hpassed hearlier
    have hnotReleased : ∀ assignment success,
        (transition.before.processes transition.label.1).phase = .released assignment success →
        ¬ MarkedExpired earlier transition.before assignment.lease.leaseId := by
      intro assignment success hphase hmarked
      have hreleased := hown.released transition.label.1 assignment.lease.leaseId
        (by rw [Plane.holding, hphase]; rfl)
      rw [hexpired _ hmarked] at hreleased
      cases hreleased
    constructor
    · intro assignment hwrites hmarked
      rcases writesBack_cases hwrites with ⟨now, success, hstatement, hphase⟩ | ⟨now, success, -, hphase⟩
      · have hactive := (stillLeased_eq hstatement hphase).mp (hleased transition (by simp [heq]))
        rw [hexpired _ hmarked] at hactive
        cases hactive
      · exact absurd hmarked (hnotReleased assignment success hphase)
    · intro assignment hfinishes
      obtain ⟨success, hphase⟩ := finishes_eq_some hfinishes
      exact hnotReleased assignment success hphase

end Fencing

section Agents

open DockerFleet

/-- One agent claims the task, starts the container and writes back in time. -/
def DockerFleet.punctual : List (Worker × Statement) :=
  turn .first (claiming .first 1 midnight ++
    [.execute (.ok (receipt ["db"] "db")) midnightIso midnight] ++ writingBack midnight ++
    reconciliation)

theorem DockerFleet.punctual_fenced : Fenced (performed ["db"] punctual) := by
  obtain ⟨reached, hrun, hleased⟩ := run_performed ["db"] punctual (fun past => past.all stillLeased)
    (by decide +kernel)
  exact (fenced_iff_stillLeased hrun (plane_stopped ["db"])).mpr (List.all_eq_true.mp hleased)

/-- A second agent expires the lease of the first, which writes back all the same. -/
def DockerFleet.overdue : List (Worker × Statement) :=
  let late := midnight + 600000000
  turn .first (claiming .first 1 midnight) ++
    turn .second [.register Worker.second.agent, .expireStaleLeases [] late] ++
    turn .first ([.execute (.ok (receipt ["db"] "db")) midnightIso late] ++ writingBack late)

/-- The requeued task is completed by the agent that lost its lease. -/
theorem DockerFleet.overdue_not_fenced : ¬ Fenced (performed ["db"] overdue) := by
  intro hfenced
  have hlast : (performed ["db"] overdue)[15]?.map (fun transition =>
      ((writesBack transition).map fun assignment =>
          (assignment.task.taskId, assignment.lease.leaseId),
        transition.before.taskStatus "task:db", transition.after.taskStatus "task:db")) =
      some (some ("task:db", "lease:task:db:executor-1"), some .queued, some .completed) := by
    decide
  obtain ⟨transition, htransition, hfacts⟩ := Option.map_eq_some_iff.mp hlast
  obtain ⟨hwrites, hstatuses⟩ := Prod.mk.inj hfacts
  obtain ⟨hqueued, hcompleted⟩ := Prod.mk.inj hstatuses
  obtain ⟨assignment, hassignment, hids⟩ := Option.map_eq_some_iff.mp hwrites
  obtain ⟨htask, hlease⟩ := Prod.mk.inj hids
  have hexpired : ((performed ["db"] overdue).take 15).any (fun transition =>
      transition.before.leaseStatus "lease:task:db:executor-1" = some .expired) = true := by
    decide
  obtain ⟨passed, hpassed, hstatus⟩ := List.any_eq_true.mp hexpired
  obtain ⟨hsame, -⟩ := (hfenced.permits_getElem htransition).inert assignment hassignment
    (.inr ⟨passed, hpassed, by simpa [hlease] using hstatus⟩)
  rw [htask, hqueued, hcompleted] at hsame
  cases hsame

end Agents

end KubeOps.ControlPlane
