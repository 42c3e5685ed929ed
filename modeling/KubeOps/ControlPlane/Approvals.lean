import KubeOps.Execution.Invariant
import KubeOps.Execution.DockerHost
import KubeOps.Foundation.Table
import Mathlib.Combinatorics.Enumerative.DoubleCounting

/-! Approvals, as the API records them. The engine counts approver ids, and the id
of an approver is a field of the request body. -/
namespace KubeOps.ControlPlane

open KubeOps.Foundation KubeOps.Models KubeOps.Policy KubeOps.Execution
open OperationRuntime (Creation)

theorem card_toFinset_map_le {α β γ : Type} [DecidableEq β] [DecidableEq γ] {items : List α}
    {f : α → β} {g : α → γ}
    (h : ∀ left ∈ items, ∀ right ∈ items, g left = g right → f left = f right) :
    (items.map f).toFinset.card ≤ (items.map g).toFinset.card := by
  apply Finset.card_le_card_of_forall_subsingleton fun b c => ∃ item ∈ items, f item = b ∧ g item = c
  · intro b hb
    obtain ⟨item, hitem, rfl⟩ := List.mem_map.mp (List.mem_toFinset.mp hb)
    exact ⟨g item, List.mem_toFinset.mpr (List.mem_map_of_mem hitem), item, hitem, rfl, rfl⟩
  · rintro c - b ⟨-, left, hleft, rfl, hc⟩ b' ⟨-, right, hright, rfl, hc'⟩
    exact h left hleft right hright (hc.trans hc'.symm)

section Request

variable (data : JsonObject)

/-- `data.get(key, default)` for a field of type `str`. -/
def textField (key default : String) : Except PyError String :=
  match data.get? key with
  | none => .ok default
  | some (.str text) => .ok text
  | some _ => .error (.validationError s!"{key}: Input should be a valid string")

/-- `data.get(key)` for a field of type `str | None`. -/
def optionalTextField (key : String) : Except PyError (Option String) :=
  match data.get? key with
  | none | some .null => .ok none
  | some (.str text) => .ok (some text)
  | some _ => .error (.validationError s!"{key}: Input should be a valid string")

def decisionField : Except PyError ApprovalVerdict :=
  match data.get? "decision" with
  | none => .ok .approve
  | some (.str text) =>
    if text = "approve" then .ok .approve
    else if text = "reject" then .ok .reject
    else .error (.validationError "decision: Input should be 'approve' or 'reject'")
  | some _ => .error (.validationError "decision: Input should be 'approve' or 'reject'")

/-- The record `OperationApprovalView.post` builds from the request. -/
def approvalRecord (operationId : String) (operation : OperationRun) (grantedAtIso : String) :
    Except PyError ApprovalRecord := do
  let approvalId ← textField data "approval_id" s!"approval:{operationId}:{operation.approvals.length}"
  let actionId ← optionalTextField data "action_id"
  let approverId ← textField data "approver_id" "api-operator"
  let decision ← decisionField data
  let _ ← textField data "reason" ""
  return { approvalId, operationId, actionId, approverId, decision, grantedAtIso }

end Request

/-- Who is signed in, and what the body says. -/
structure ApprovalRequest where
  principal : String
  data : JsonObject

/-- An approval that was recorded, and who asked for it. -/
structure Posting where
  principal : String
  operationId : String
  approval : ApprovalRecord

/-- The stored operations. The postings are observations only; nothing reads them. -/
structure Desk where
  operations : Table String OperationRun OperationRun.operationId
  trace : Trace Effect
  postings : List Posting

def Desk.empty : Desk := ⟨Table.empty, Trace.start Effect, []⟩

/-- A request, and whether the database then accepts the rows of the operation. -/
inductive ApprovalStep where
  | create (creation : Creation) (accepted : Bool)
  | approve (operationId : String) (request : ApprovalRequest) (accepted : Bool)
  | authorize (operationId : String) (policy : ExecutionPolicy) (context : RuntimeContext)
      (accepted : Bool)

section View

variable (runtime : OperationRuntime)

/-- What `OperationApprovalView.post` does to the operation. -/
def approve (operationId : String) (operation : OperationRun) (data : JsonObject) :
    Runtime (ApprovalRecord × OperationRun) := do
  let grantedAtIso ← runtime.utcNowIso
  let approval ← Program.attempt (approvalRecord data operationId operation grantedAtIso)
  let operation ← runtime.addApproval operation approval
  return (approval, operation)

def Desk.persist (desk : Desk) (accepted : Bool) (operation : OperationRun) : Desk :=
  if accepted then { desk with operations := desk.operations.put operation } else desk

def Desk.step (desk : Desk) : ApprovalStep → Desk
  | .create creation accepted =>
    match (runtime.create creation.environmentId creation.plan creation.mode
        creation.approvals).exec desk.trace with
    | (.ok operation, trace) => { desk with trace }.persist accepted operation
    | (.error _, trace) => { desk with trace }
  | .approve operationId request accepted =>
    match desk.operations.get? operationId with
    | none => desk
    | some operation =>
      match (approve runtime operationId operation request.data).exec desk.trace with
      | (.ok (approval, operation), trace) =>
        let posting : Posting := ⟨request.principal, operationId, approval⟩
        { desk with trace, postings := desk.postings ++ [posting] }.persist accepted operation
      | (.error _, trace) => { desk with trace }
  | .authorize operationId policy context accepted =>
    match desk.operations.get? operationId with
    | none => desk
    | some operation =>
      match (runtime.authorize operation policy context).exec desk.trace with
      | (.ok operation, trace) => { desk with trace }.persist accepted operation
      | (.error _, trace) => { desk with trace }

def Desk.after (steps : List ApprovalStep) : Desk := steps.foldl (Desk.step runtime) Desk.empty

end View

def Desk.endorsements (desk : Desk) (operationId : String) : List Posting :=
  desk.postings.filter fun posting =>
    posting.operationId = operationId ∧ posting.approval.decision = .approve

def Desk.principals (desk : Desk) (operationId : String) : Finset String :=
  ((desk.endorsements operationId).map Posting.principal).toFinset

/-- Only approvals of this operation are counted, and no more than principals have approved it. -/
structure Provenance (python : Python) (desk : Desk) (operation : OperationRun) : Prop where
  own : ∀ action now, ∀ approval ∈ operation.approvals, Applicable action approval →
    validity python now approval = .active → approval.decision = .approve →
      approval.operationId = operation.operationId
  counted : ∀ action now, (distinctApprovers python now action operation.approvals).card ≤
    (desk.principals operation.operationId).card

structure ApprovedByPrincipals (runtime : OperationRuntime) (steps : List ApprovalStep) : Prop where
  provenance : ∀ done rest, steps = done ++ rest →
    ∀ operation ∈ (Desk.after runtime done).operations.rows,
      Provenance runtime.python (Desk.after runtime done) operation
  quorum : ∀ done operationId policy context accepted rest,
    steps = done ++ .authorize operationId policy context accepted :: rest →
    ∀ given, (Desk.after runtime done).operations.get? operationId = some given →
    ∀ operation reached, (runtime.authorize given policy context).exec
        (Desk.after runtime done).trace = (.ok operation, reached) →
      operation.status = .authorized → ∀ action ∈ operation.plan.actions,
        requiredApprovals action policy ≤ ((Desk.after runtime done).principals operationId).card

/-- Nobody approves an operation under a second id, and it is not created with
approvals that count. -/
def ApprovalStep.Accountable (desk : Desk) : ApprovalStep → Prop
  | .create creation _ =>
    ∀ approval ∈ creation.approvals, approval.decision = .approve → approval.operationId = ""
  | .approve operationId request _ =>
    decisionField request.data = .ok .approve →
      ∀ posting ∈ desk.endorsements operationId, posting.principal = request.principal →
        textField request.data "approver_id" "api-operator" = .ok posting.approval.approverId
  | .authorize .. => True

instance (step : ApprovalStep) (desk : Desk) : Decidable (step.Accountable desk) := by
  cases step <;> unfold ApprovalStep.Accountable <;> infer_instance

section Records

variable {runtime : OperationRuntime} {operation given : OperationRun} {data : JsonObject}
  {operationId : String}

structure RecordedFor (data : JsonObject) (operationId : String) (approval : ApprovalRecord) :
    Prop where
  operationId : approval.operationId = operationId
  approverId : textField data "approver_id" "api-operator" = .ok approval.approverId
  decision : decisionField data = .ok approval.decision

theorem recordedFor_of_approvalRecord {grantedAtIso : String} {approval : ApprovalRecord}
    (h : approvalRecord data operationId operation grantedAtIso = .ok approval) :
    RecordedFor data operationId approval := by
  unfold approvalRecord at h
  obtain ⟨approvalId, -, h⟩ := except_bind_eq_ok h
  obtain ⟨actionId, -, h⟩ := except_bind_eq_ok h
  obtain ⟨approverId, hid, h⟩ := except_bind_eq_ok h
  obtain ⟨decision, hdecision, h⟩ := except_bind_eq_ok h
  obtain ⟨reason, -, h⟩ := except_bind_eq_ok h
  obtain rfl := Except.ok.inj h
  exact ⟨rfl, hid, hdecision⟩

theorem approve_recorded : Returns (approve runtime operationId operation data) fun result =>
    RecordedFor data operationId result.1 ∧ result.2.operationId = operation.operationId ∧
      result.2.approvals = operation.approvals ++ [result.1] := by
  unfold approve OperationRuntime.utcNowIso
  apply Returns.bind_any
  intro grantedAtIso
  apply Returns.bind (m := RecordedFor data operationId)
  · exact Returns.attempt fun approval happroval => recordedFor_of_approvalRecord happroval
  intro approval hrecorded
  apply Returns.bind (m := fun later => later.operationId = operation.operationId ∧
    later.approvals = operation.approvals ++ [approval])
  · unfold OperationRuntime.addApproval
    refine Returns.ite (fun _ => Returns.raise _) fun _ => ?_
    refine OperationRuntime.bind_noted_eq fun updatedAtIso event => ?_
    exact Returns.bind_any fun _ => Returns.pure ⟨rfl, rfl⟩
  · intro later hlater
    exact Returns.pure ⟨hrecorded, hlater⟩

theorem create_approvals (creation : Creation) :
    Returns (runtime.create creation.environmentId creation.plan creation.mode creation.approvals)
      fun operation => operation.approvals = creation.approvals := by
  unfold OperationRuntime.create
  refine Returns.bind_any fun _ => Returns.bind_any fun now => ?_
  refine Returns.bind_any fun event => Returns.bind_any fun _ => ?_
  exact Returns.bind_any fun _ => Returns.pure rfl

variable {policy : ExecutionPolicy} {context : RuntimeContext} {trace reached : Trace Effect}

theorem authorize_kept
    (h : (runtime.authorize given policy context).exec trace = (.ok operation, reached)) :
    operation.operationId = given.operationId ∧ operation.approvals = given.approvals := by
  have hout := authorize_rule runtime given policy context trace.log trace rfl
  rw [h] at hout
  obtain ⟨segment, -, hauthorized⟩ := hout
  obtain ⟨event, hextends⟩ := hauthorized.continues
  exact ⟨hextends.operationId, hextends.approvals⟩

theorem authorize_quorum
    (h : (runtime.authorize given policy context).exec trace = (.ok operation, reached))
    (hstatus : operation.status = .authorized) {action : ActionInstance}
    (hmem : action ∈ operation.plan.actions) :
    ∃ evaluated now, requiredApprovals action policy ≤
      (distinctApprovers runtime.python now evaluated given.approvals).card := by
  have hout := authorize_rule runtime given policy context trace.log trace rfl
  rw [h] at hout
  obtain ⟨segment, -, hauthorized⟩ := hout
  obtain ⟨evaluated, definition, decision, hentry, hsame, houtcome⟩ :=
    hauthorized.allowed hstatus action hmem
  obtain ⟨before, -, hpermits⟩ := hauthorized.monitored.permits_of_mem hentry
  obtain ⟨-, now, evaluatedAtIso, hdecision⟩ := hpermits.2.2.2.2
  rw [eq_issue_of_evaluate _ _ _ _ _ _ _ _ hdecision] at houtcome
  have hrisk : evaluated.risk = action.risk := (congrArg ActionInstance.risk hsame :)
  have hcount := (judge_allow_iff.mp houtcome).2
  unfold requiredApprovals at hcount
  rw [hrisk] at hcount
  exact ⟨evaluated, now, hcount⟩

end Records

/-- Every approval that could count was posted for this operation by a principal. -/
def Desk.Attests (desk : Desk) (operation : OperationRun) : Prop :=
  ∀ approval ∈ operation.approvals, approval.decision = .approve → approval.operationId ≠ "" →
    approval.operationId = operation.operationId ∧
      ∃ posting ∈ desk.endorsements operation.operationId, posting.approval = approval

structure Desk.Sound (desk : Desk) : Prop where
  attested : ∀ operation ∈ desk.operations.rows, desk.Attests operation
  /-- No principal has approved an operation under two ids. -/
  identified : ∀ operationId, ∀ left ∈ desk.endorsements operationId,
    ∀ right ∈ desk.endorsements operationId, left.principal = right.principal →
      left.approval.approverId = right.approval.approverId

namespace Desk

variable {desk : Desk} {operation : OperationRun} {operationId : String} {posting : Posting}
  {accepted : Bool}

theorem mem_endorsements : posting ∈ desk.endorsements operationId ↔ posting ∈ desk.postings ∧
    posting.operationId = operationId ∧ posting.approval.decision = .approve := by
  unfold endorsements
  rw [List.mem_filter, decide_eq_true_eq]

theorem Sound.provenance {python : Python} (h : desk.Sound) (hattests : desk.Attests operation) :
    Provenance python desk operation where
  own := fun action now approval hmem happlies _ hdecision =>
    (hattests approval hmem hdecision happlies.1).1
  counted := by
    intro action now
    refine le_trans (Finset.card_le_card ?_)
      (card_toFinset_map_le (h.identified operation.operationId))
    intro approver happrover
    obtain ⟨approval, hcounted, rfl⟩ := List.mem_map.mp (List.mem_toFinset.mp happrover)
    obtain ⟨hmem, hcounts⟩ := List.mem_filter.mp hcounted
    obtain ⟨happlies, -, hdecision⟩ := of_decide_eq_true hcounts
    obtain ⟨-, posting, hposting, rfl⟩ := hattests approval hmem hdecision happlies.1
    exact List.mem_toFinset.mpr (List.mem_map_of_mem hposting)

theorem Sound.traced (h : desk.Sound) (trace : Trace Effect) : { desk with trace }.Sound :=
  ⟨h.attested, h.identified⟩

theorem Sound.persist (h : desk.Sound) (hattests : desk.Attests operation) :
    (desk.persist accepted operation).Sound := by
  unfold Desk.persist
  split
  · refine ⟨fun stored hstored => ?_, h.identified⟩
    rw [Table.mem_rows, Table.get?_put] at hstored
    split at hstored
    · obtain rfl := Option.some.inj hstored
      exact hattests
    · exact h.attested stored (Table.mem_rows.mpr hstored)
  · exact h

theorem endorsements_concat {trace : Trace Effect} :
    ({ desk with trace, postings := desk.postings ++ [posting] } : Desk).endorsements operationId =
      desk.endorsements operationId ++
        if posting.operationId = operationId ∧ posting.approval.decision = .approve then [posting]
        else [] := by
  unfold endorsements
  rw [List.filter_append]
  congr 1
  split
  · exact List.filter_cons_of_pos (decide_eq_true ‹_›)
  · rename_i hother
    rw [List.filter_cons_of_neg (by rwa [decide_eq_true_eq]), List.filter_nil]

theorem Attests.posted (h : desk.Attests operation) (trace : Trace Effect) (posting : Posting) :
    ({ desk with trace, postings := desk.postings ++ [posting] } : Desk).Attests operation := by
  intro approval hmem hdecision hnamed
  obtain ⟨hown, found, hfound, hrecord⟩ := h approval hmem hdecision hnamed
  refine ⟨hown, found, ?_, hrecord⟩
  rw [endorsements_concat]
  exact List.mem_append_left _ hfound

theorem Sound.posted (h : desk.Sound) (trace : Trace Effect) (posting : Posting)
    (hsame : posting.approval.decision = .approve →
      ∀ earlier ∈ desk.endorsements posting.operationId, earlier.principal = posting.principal →
        earlier.approval.approverId = posting.approval.approverId) :
    ({ desk with trace, postings := desk.postings ++ [posting] } : Desk).Sound where
  attested := fun operation hmem => (h.attested operation hmem).posted trace posting
  identified := by
    intro operationId left hleft right hright hprincipal
    rw [endorsements_concat] at hleft hright
    split at hleft
    · rename_i hnew
      obtain ⟨rfl, hdecision⟩ := hnew
      rw [if_pos ⟨rfl, hdecision⟩] at hright
      rcases List.mem_append.mp hleft with hleft | hleft <;>
        rcases List.mem_append.mp hright with hright | hright
      · exact h.identified _ left hleft right hright hprincipal
      · rw [List.mem_singleton.mp hright] at hprincipal ⊢
        exact hsame hdecision left hleft hprincipal
      · rw [List.mem_singleton.mp hleft] at hprincipal ⊢
        exact (hsame hdecision right hright hprincipal.symm).symm
      · rw [List.mem_singleton.mp hleft, List.mem_singleton.mp hright]
    · rename_i hother
      rw [if_neg hother] at hright
      rw [List.append_nil] at hleft hright
      exact h.identified _ left hleft right hright hprincipal

theorem sound_empty : Desk.empty.Sound where
  attested := by
    intro operation hmem
    rw [Table.mem_rows] at hmem
    cases hmem
  identified := fun _ left hleft => absurd hleft List.not_mem_nil

theorem step_sound {runtime : OperationRuntime} {step : ApprovalStep} (h : desk.Sound)
    (hstep : step.Accountable desk) : (desk.step runtime step).Sound := by
  cases step with
  | create creation accepted =>
    simp only [Desk.step]
    split
    · rename_i operation trace hexec
      refine (h.traced trace).persist fun approval hmem hdecision hnamed => ?_
      rw [(create_approvals creation).apply hexec] at hmem
      exact absurd (hstep approval hmem hdecision) hnamed
    · exact h.traced _
  | approve operationId request accepted =>
    simp only [Desk.step]
    split
    · exact h
    rename_i operation hfound
    split
    · rename_i approval later trace hexec
      obtain ⟨hrecorded, hid, happrovals⟩ := approve_recorded.apply hexec
      have hown : operation.operationId = operationId := Table.key_of_get? hfound
      have hattests : desk.Attests operation :=
        h.attested operation (Table.mem_rows.mpr (hown ▸ hfound))
      refine (h.posted trace ⟨request.principal, operationId, approval⟩ ?_).persist ?_
      · intro hdecision earlier hearlier hprincipal
        have hsame := hstep (hrecorded.decision.trans (congrArg _ hdecision)) earlier hearlier hprincipal
        exact Except.ok.inj (hsame.symm.trans hrecorded.approverId)
      · intro found hmem hdecision hnamed
        rw [happrovals] at hmem
        rw [hid]
        rcases List.mem_append.mp hmem with hold | hnew
        · exact hattests.posted trace _ found hold hdecision hnamed
        · rw [List.mem_singleton.mp hnew] at hdecision ⊢
          refine ⟨hrecorded.operationId.trans hown.symm, _, mem_endorsements.mpr
            ⟨List.mem_append_right _ (List.mem_singleton_self _), hown.symm, hdecision⟩, rfl⟩
    · exact h.traced _
  | authorize operationId policy context accepted =>
    simp only [Desk.step]
    split
    · exact h
    rename_i operation hfound
    split
    · rename_i later trace hexec
      obtain ⟨hid, happrovals⟩ := authorize_kept hexec
      refine (h.traced trace).persist ?_
      intro approval hmem hdecision hnamed
      rw [happrovals] at hmem
      rw [hid]
      have hkey : operation.operationId = operationId := Table.key_of_get? hfound
      exact h.attested operation (Table.mem_rows.mpr (hkey ▸ hfound)) approval hmem hdecision hnamed
    · exact h.traced _

end Desk

/-- Every request is answerable in the state it finds. -/
def AccountableThroughout (runtime : OperationRuntime) (steps : List ApprovalStep) : Prop :=
  ∀ done step rest, steps = done ++ step :: rest → step.Accountable (Desk.after runtime done)

theorem AccountableThroughout.concat {runtime : OperationRuntime} {steps : List ApprovalStep}
    (h : AccountableThroughout runtime steps) (step : ApprovalStep)
    (hstep : step.Accountable (Desk.after runtime steps)) :
    AccountableThroughout runtime (steps ++ [step]) := by
  intro done found rest hsplit
  rcases List.eq_nil_or_concat rest with rfl | ⟨front, last, rfl⟩
  · obtain ⟨rfl, hsame⟩ := List.append_inj' hsplit rfl
    obtain rfl := List.singleton_inj.mp hsame
    exact hstep
  · rw [List.concat_eq_append, ← List.cons_append, ← List.append_assoc] at hsplit
    exact h done found front (List.append_inj' hsplit rfl).1

theorem after_sound {runtime : OperationRuntime} {steps : List ApprovalStep}
    (hsteps : AccountableThroughout runtime steps) : (Desk.after runtime steps).Sound := by
  induction steps using List.reverseRecOn with
  | nil => exact Desk.sound_empty
  | append_singleton steps step ih =>
    unfold Desk.after
    rw [List.foldl_concat]
    apply Desk.step_sound
    · apply ih
      intro done earlier rest hsplit
      exact hsteps done earlier (rest ++ [step]) (by rw [hsplit, List.append_assoc, List.cons_append])
    · exact hsteps steps step [] rfl

/-- Where principals answer to one id each, their number is not exceeded. -/
theorem approvedByPrincipals (runtime : OperationRuntime) {steps : List ApprovalStep}
    (hsteps : AccountableThroughout runtime steps) : ApprovedByPrincipals runtime steps := by
  have hsound : ∀ done rest, steps = done ++ rest → (Desk.after runtime done).Sound := by
    intro done rest hsplit
    apply after_sound
    intro earlier step between hdone
    exact hsteps earlier step (between ++ rest) (by rw [hsplit, hdone, List.append_assoc, List.cons_append])
  constructor
  · intro done rest hsplit operation hmem
    exact (hsound done rest hsplit).provenance ((hsound done rest hsplit).attested operation hmem)
  · intro done operationId policy context accepted rest hsplit given hgiven operation reached hexec
      hstatus action haction
    have hown : given.operationId = operationId := Table.key_of_get? hgiven
    have hdesk := hsound done _ hsplit
    have hprovenance : Provenance runtime.python (Desk.after runtime done) given :=
      hdesk.provenance (hdesk.attested given (Table.mem_rows.mpr (hown ▸ hgiven)))
    obtain ⟨evaluated, now, hcount⟩ := authorize_quorum hexec hstatus haction
    have hbound := hprovenance.counted evaluated now
    rw [hown] at hbound
    omega

section Examples

open DockerHost

def cautiousPolicy : ExecutionPolicy :=
  { DockerHost.policy with requiredApprovalsByRisk := Dict.ofList [(.r1, 2)] }

def approval (principal approver : String) : ApprovalStep :=
  .approve (createdRun []).operationId
    ⟨principal, Dict.ofList [("approver_id", .str approver)]⟩ true

def approvedTwice (first second : ApprovalStep) : List ApprovalStep :=
  [.create (creation [startContainer "db"]) true] ++ [first] ++ [second]

def authorization : ApprovalStep :=
  .authorize (createdRun []).operationId cautiousPolicy context true

/-- Two principals, each under a name of their own. -/
theorem approvedByPrincipals_two : ApprovedByPrincipals runtime
    (approvedTwice (approval "1" "alice") (approval "2" "bob") ++ [authorization]) := by
  have hnone : AccountableThroughout runtime [] := fun done step rest hsplit => by simp at hsplit
  have hcreated := hnone.concat (.create (creation [startContainer "db"]) true) (by decide)
  have hfirst := hcreated.concat (approval "1" "alice") (by decide)
  have hsecond := hfirst.concat (approval "2" "bob") (by decide)
  exact approvedByPrincipals runtime (hsecond.concat authorization trivial)

def doubled : List ApprovalStep := approvedTwice (approval "1" "alice") (approval "1" "bob")

theorem doubled_not_approvedByPrincipals :
    ¬ ApprovedByPrincipals runtime (doubled ++ [authorization]) := by
  intro h
  have hauthorized : ((Desk.after runtime doubled).operations.get?
      (createdRun []).operationId).any (fun given =>
        (runtime.authorize given cautiousPolicy context).returns (Desk.after runtime doubled).trace
          fun operation => operation.status = .authorized ∧ operation.plan.actions.any fun action =>
            2 ≤ requiredApprovals action cautiousPolicy) = true := by
    decide +kernel
  obtain ⟨given, hgiven, hreturns⟩ := (Option.any_eq_true _ _).mp hauthorized
  obtain ⟨operation, reached, hexec, hcheck⟩ := Program.exists_of_returns hreturns
  rw [decide_eq_true_eq, List.any_eq_true] at hcheck
  obtain ⟨hstatus, action, haction, hrequired⟩ := hcheck
  have hprincipals : ((Desk.after runtime doubled).principals (createdRun []).operationId).card = 1 := by
    decide
  have hquorum := h.quorum doubled _ cautiousPolicy context true [] rfl given hgiven operation reached
    hexec hstatus action haction
  have htwo := of_decide_eq_true hrequired
  omega

end Examples

end KubeOps.ControlPlane
