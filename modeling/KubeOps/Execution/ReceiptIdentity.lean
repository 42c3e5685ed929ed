import KubeOps.Execution.Invariant
import KubeOps.Execution.DockerHost

/-! Which receipts a call adds, and when their ids are new. Attempts are counted
from one again by every run, so a run may make up an id that is recorded already. -/
namespace KubeOps.Execution

open KubeOps.Foundation KubeOps.Models KubeOps.Policy KubeOps.Actions
open OperationRuntime (Creation)

def compensationIds (actionIds : List String) : List String :=
  actionIds.map fun actionId => s!"rollback:{actionId}"

/-- `operation` is `given` with receipts for the actions in `ids`, at most one each. -/
structure Added (given : OperationRun) (context : ExecutionContext) (ids : List String)
    (operation : OperationRun) : Prop where
  operationId : operation.operationId = given.operationId
  receipts : ∃ receipts, operation.actionReceipts = given.actionReceipts ++ receipts ∧
    List.Sublist (receipts.map ActionReceipt.actionId) ids ∧
    ∀ receipt ∈ receipts, Mints given.operationId context receipt.actionId receipt.receiptId

/-- `operation` has receipts for the actions in `ids` and then, where the call may
roll back, for compensations of what was completed. -/
def Written (given : OperationRun) (context : ExecutionContext) (mayRollBack : Bool)
    (ids : List String) (operation : OperationRun) : Prop :=
  ∃ found done, Added given context ids found ∧ done <+: completedReceipts found ∧
    (done ≠ [] → mayRollBack = true) ∧
      Added found context (compensationIds (done.map ActionReceipt.actionId)) operation

/-- What is known of `operation` in a phase. -/
def Standing (given : OperationRun) (context : ExecutionContext) (mayRollBack : Bool)
    (segment : Log) : Phase → OperationRun → Prop
  | .idle, operation => Added given context (startedIds segment) operation
  | .performing action, operation => ∃ ids, startedIds segment = ids ++ [action.actionId] ∧
      Added given context ids operation
  | .rolling found done, operation => mayRollBack = true ∧ done <+: completedReceipts found ∧
      Added given context (startedIds segment) found ∧
      Added found context (compensationIds (done.map ActionReceipt.actionId)) operation
  | .ended _, operation => Written given context mayRollBack (startedIds segment) operation

/-- Whatever is saved has only receipts that the call has added for what it started. -/
def Accountable (given : OperationRun) (context : ExecutionContext) (mayRollBack : Bool) :
    Log → Effect → Prop
  | before, .saved operation => Written given context mayRollBack (startedIds before) operation
  | _, _ => True

/-- The receipts of a call so far. -/
def Accounting (given : OperationRun) (context : ExecutionContext) (mayRollBack : Bool) (base : Log)
    (phase : Phase) (operation : OperationRun) : Log → Prop :=
  After base fun segment => Monitored (Accountable given context mayRollBack) segment ∧
    Standing given context mayRollBack segment phase operation

section Receipts

variable {given found operation later : OperationRun} {context : ExecutionContext}
  {ids : List String} {mayRollBack : Bool} {segment : Log} {phase : Phase}
  {checkpoints : List ExecutionCheckpoint} {receipt : ActionReceipt}

theorem Added.refl (given : OperationRun) (context : ExecutionContext) (ids : List String) :
    Added given context ids given where
  operationId := rfl
  receipts := ⟨[], (List.append_nil _).symm, List.nil_sublist _, fun _ hmem => absurd hmem List.not_mem_nil⟩

theorem Added.mono (h : Added given context ids operation) {more : List String}
    (hids : List.Sublist ids more) : Added given context more operation where
  operationId := h.operationId
  receipts := by
    obtain ⟨receipts, hreceipts, hsublist, hminted⟩ := h.receipts
    exact ⟨receipts, hreceipts, hsublist.trans hids, hminted⟩

theorem Added.congr (h : Added given context ids operation)
    (hoperationId : later.operationId = operation.operationId)
    (hreceipts : later.actionReceipts = operation.actionReceipts) :
    Added given context ids later where
  operationId := hoperationId.trans h.operationId
  receipts := by
    rw [hreceipts]
    exact h.receipts

theorem Added.grows (h : Added given context ids operation)
    (hnext : Grows operation later [] checkpoints) : Added given context ids later :=
  h.congr hnext.operationId (by rw [hnext.receipted, List.append_nil])

theorem Added.concat (h : Added given context ids operation) {actionId : String}
    (hnext : Grows operation later [receipt] checkpoints) (hid : receipt.actionId = actionId)
    (hminted : Mints operation.operationId context actionId receipt.receiptId) :
    Added given context (ids ++ [actionId]) later where
  operationId := hnext.operationId.trans h.operationId
  receipts := by
    subst hid
    obtain ⟨receipts, hreceipts, hsublist, hall⟩ := h.receipts
    refine ⟨receipts ++ [receipt], ?_, ?_, ?_⟩
    · rw [hnext.receipted, hreceipts, List.append_assoc]
    · rw [List.map_append, List.map_singleton]
      exact hsublist.append (List.Sublist.refl _)
    · intro other hmem
      rcases List.mem_append.mp hmem with hold | hnew
      · exact hall other hold
      · rw [List.mem_singleton.mp hnew, ← h.operationId]
        exact hminted

theorem Added.written (h : Added given context ids operation) (mayRollBack : Bool) :
    Written given context mayRollBack ids operation :=
  ⟨operation, [], h, List.nil_prefix, fun hnil => absurd rfl hnil, Added.refl _ _ _⟩

theorem Written.congr (h : Written given context mayRollBack ids operation)
    (hoperationId : later.operationId = operation.operationId)
    (hreceipts : later.actionReceipts = operation.actionReceipts) :
    Written given context mayRollBack ids later := by
  obtain ⟨found, done, hfound, hdone, hmay, hadded⟩ := h
  exact ⟨found, done, hfound, hdone, hmay, hadded.congr hoperationId hreceipts⟩

theorem Standing.written (h : Standing given context mayRollBack segment phase operation) :
    Written given context mayRollBack (startedIds segment) operation := by
  cases phase with
  | idle => exact Added.written h mayRollBack
  | performing action =>
    obtain ⟨ids, hids, hadded⟩ := h
    rw [hids]
    exact (hadded.mono (List.sublist_append_left _ _)).written mayRollBack
  | rolling found done =>
    obtain ⟨hmay, hdone, hfound, hadded⟩ := h
    exact ⟨found, done, hfound, hdone, fun _ => hmay, hadded⟩
  | ended found => exact h

theorem Standing.congr (h : Standing given context mayRollBack segment phase operation)
    (hoperationId : later.operationId = operation.operationId)
    (hreceipts : later.actionReceipts = operation.actionReceipts) :
    Standing given context mayRollBack segment phase later := by
  cases phase with
  | idle => exact Added.congr h hoperationId hreceipts
  | performing action =>
    obtain ⟨ids, hids, hadded⟩ := h
    exact ⟨ids, hids, hadded.congr hoperationId hreceipts⟩
  | rolling found done =>
    obtain ⟨hmay, hdone, hfound, hadded⟩ := h
    exact ⟨hmay, hdone, hfound, hadded.congr hoperationId hreceipts⟩
  | ended found => exact Written.congr h hoperationId hreceipts

theorem Standing.of_startedIds {more : Log} (h : Standing given context mayRollBack segment phase operation)
    (hsame : startedIds more = startedIds segment) :
    Standing given context mayRollBack more phase operation := by
  cases phase <;> simpa only [Standing, hsame] using h

theorem Effect.startedId_of_isPlain {effect : Effect} (h : effect.isPlain = true) :
    effect.startedId = none := by
  cases effect with
  | started => cases h
  | _ => rfl

end Receipts

section Accounts

variable {runtime : OperationRuntime} {given : OperationRun} {context : RuntimeContext}
  {mayRollBack : Bool} {base : Log}

theorem accounting_invariant : RunInvariant runtime.actions context mayRollBack
    (Accounting given context.executionContext mayRollBack base) where
  quiet := by
    intro phase operation later log hnext hi
    refine hi.mono fun segment hsegment => ⟨hsegment.1, hsegment.2.congr hnext.operationId ?_⟩
    rw [hnext.receipted, List.append_nil]
  plain := by
    intro phase operation log effect hplain hsaved hi
    refine hi.concat fun segment hsegment => ⟨hsegment.1.concat ?_, ?_⟩
    · cases effect with
      | saved found =>
        rcases hsaved with hnone | hsame
        · cases hnone
        · rw [Effect.saved.inj hsame]
          exact hsegment.2.written
      | _ => trivial
    · exact hsegment.2.of_startedIds
        (startedIds_concat_other (Effect.startedId_of_isPlain hplain))
  started := by
    intro operation log action hi
    refine hi.concat fun segment hsegment => ⟨hsegment.1.concat trivial, startedIds segment, ?_, hsegment.2⟩
    rw [startedIds_concat]
    rfl
  checkpointed := by
    intro action operation later checkpoint log _ hnext hi
    refine hi.mono fun segment hsegment => ⟨hsegment.1, hsegment.2.congr hnext.operationId ?_⟩
    rw [hnext.receipted, List.append_nil]
  received := by
    intro action operation later receipt log hstamped hnext hi
    refine hi.concat fun segment hsegment => ?_
    obtain ⟨hmonitored, ids, hids, hadded⟩ := hsegment
    have hlater := hadded.concat hnext hstamped.actionId hstamped.minted
    rw [← hids] at hlater
    have hidle : Standing given context.executionContext mayRollBack segment .idle later := hlater
    exact ⟨hmonitored.concat hidle.written, hidle.of_startedIds (startedIds_concat_other rfl)⟩
  rolling := by
    intro operation log hmay hi
    refine hi.concat fun segment hsegment => ⟨hsegment.1.concat trivial, hmay, List.nil_prefix, ?_,
      Added.refl _ _ _⟩
    rw [startedIds_concat_other rfl]
    exact hsegment.2
  passed := by
    intro found done receipt operation log hdone hi
    refine hi.mono fun segment hsegment => ⟨hsegment.1, ?_⟩
    obtain ⟨hmay, -, hfound, hadded⟩ := hsegment.2
    refine ⟨hmay, hdone, hfound, hadded.mono ?_⟩
    rw [compensationIds, compensationIds, List.map_append, List.map_append]
    exact List.sublist_append_left _ _
  compensated := by
    intro found done receipt compensation operation later log hdone hcompensation hnext hi
    refine hi.concat fun segment hsegment => ?_
    obtain ⟨hmonitored, hmay, -, hfound, hadded⟩ := hsegment
    have hminted := hcompensation.minted
    rw [hcompensation.actionId] at hminted
    have hlater := hadded.concat hnext hcompensation.actionId hminted
    have hdealt : compensationIds (done.map ActionReceipt.actionId) ++ [s!"rollback:{receipt.actionId}"] =
        compensationIds ((done ++ [receipt]).map ActionReceipt.actionId) := by
      rw [compensationIds, compensationIds, List.map_append, List.map_append]
      rfl
    rw [hdealt] at hlater
    refine ⟨hmonitored.concat ⟨found, _, hfound, hdone, fun _ => hmay, hlater⟩, hmay, hdone, ?_, hlater⟩
    rw [startedIds_concat_other rfl]
    exact hfound
  rolledBack := by
    intro found operation later log hseals _ hi
    refine hi.mono fun segment hsegment => ⟨hsegment.1, ?_⟩
    exact hsegment.2.written.congr hseals.operationId hseals.receipted
  sealed := by
    intro operation later log hseals hi
    refine hi.mono fun segment hsegment => ⟨hsegment.1, ?_⟩
    exact hsegment.2.written.congr hseals.operationId hseals.receipted

theorem perform_accountable (hexecutors : runtime.executors.Conventional)
    (hlatest : latest base = some given) {call : Call}
    (hexecution : call.execution = some (context, mayRollBack)) :
    Triple (fun log => log = base) (call.perform runtime given)
      (fun _ => After base (Monitored (Accountable given context.executionContext mayRollBack)))
      (fun _ => After base (Monitored (Accountable given context.executionContext mayRollBack))) := by
  have hended : ∀ {log : Log}, Somewhere (Accounting given context.executionContext mayRollBack base) log →
      After base (Monitored (Accountable given context.executionContext mayRollBack)) log := by
    rintro log ⟨phase, operation, hi⟩
    exact hi.mono fun _ => And.left
  refine Triple.weaken (accounting_invariant.perform_rule hexecutors hlatest hexecution ?_)
    (fun _ h => h) (fun _ _ => hended) fun _ _ => hended
  exact After.start ⟨Monitored.nil, Added.refl _ _ _⟩

end Accounts

/-- No two receipts share an id. -/
def DistinctReceipts (operation : OperationRun) : Prop :=
  (operation.actionReceipts.map ActionReceipt.receiptId).Nodup

instance (operation : OperationRun) : Decidable (DistinctReceipts operation) := by
  unfold DistinctReceipts
  infer_instance

/-- The actions for which a call may add receipts, when it may start those in `pending`. -/
def mayAdd (operation : OperationRun) (pending : List String) (mayRollBack : Bool) : List String :=
  pending ++ if mayRollBack then compensationIds pending ++
    compensationIds ((completedReceipts operation).map ActionReceipt.actionId) else []

/-- The actions of the plan that have not succeeded. -/
def pendingIds (operation : OperationRun) : List String :=
  operation.plan.actionIds.filter (· ∉ successfulIds operation.actionReceipts)

def Call.mayStart (operation : OperationRun) : Call → List String
  | .run .. | .resume .. => pendingIds operation
  | _ => []

/-- The ids a call may make up are new: no two of the actions it may add receipts for
are the same, and no recorded receipt has an id that could be made up for one of them. -/
def Call.Unclaimed (operation : OperationRun) (call : Call) : Prop :=
  ∀ context mayRollBack, call.execution = some (context, mayRollBack) →
    (mayAdd operation (call.mayStart operation) mayRollBack).Nodup ∧
      ∀ actionId ∈ mayAdd operation (call.mayStart operation) mayRollBack,
        ∀ receipt ∈ operation.actionReceipts,
          ¬ Mints operation.operationId context.executionContext actionId receipt.receiptId

section Distinctness

variable {runtime : OperationRuntime} {creation : Creation} {given found operation later : OperationRun}
  {context : ExecutionContext} {ids pending : List String} {mayRollBack : Bool} {base segment : Log}
  {call : Call}

theorem nodup_of_subperm {α : Type} {left right : List α} (h : left.Subperm right)
    (hright : right.Nodup) : left.Nodup := by
  obtain ⟨middle, hperm, hsublist⟩ := h
  exact hperm.nodup_iff.mp (hright.sublist hsublist)

theorem compensationIds_subperm {left right : List String} (h : left.Subperm right) :
    (compensationIds left).Subperm (compensationIds right) := by
  refine (List.map_subperm_map_iff ?_).mpr h
  exact fun left right heq => (String.append_right_inj "rollback:").mp heq

theorem Written.exists_receipts (h : Written given context mayRollBack ids operation)
    (hids : ids.Subperm pending) : ∃ receipts,
      operation.actionReceipts = given.actionReceipts ++ receipts ∧
      (receipts.map ActionReceipt.actionId).Subperm (mayAdd given pending mayRollBack) ∧
      ∀ receipt ∈ receipts, Mints given.operationId context receipt.actionId receipt.receiptId := by
  obtain ⟨found, done, hfound, hdone, hmay, hadded⟩ := h
  obtain ⟨forward, hforward, hstarted, hminted⟩ := hfound.receipts
  obtain ⟨backward, hbackward, hundone, hremade⟩ := hadded.receipts
  refine ⟨forward ++ backward, ?_, ?_, ?_⟩
  · rw [hbackward, hforward, List.append_assoc]
  · rw [List.map_append, mayAdd]
    refine List.Subperm.append (hstarted.subperm.trans hids) ?_
    cases mayRollBack with
    | false =>
      have hnone : done = [] := by
        by_contra hsome
        exact absurd (hmay hsome) Bool.false_ne_true
      rw [hnone] at hundone
      exact hundone.subperm
    | true =>
      -- what is compensated was completed by this call or before it
      have hcompleted : completedReceipts found =
          (forward.filter fun receipt => receipt.status = .completed).reverse ++
            completedReceipts given := by
        rw [completedReceipts, completedReceipts, hforward, List.filter_append, List.reverse_append]
      have hlatest : ((forward.filter fun receipt => receipt.status = .completed).reverse.map
          ActionReceipt.actionId).Subperm pending := by
        rw [List.map_reverse]
        refine (List.reverse_perm _).subperm.trans ?_
        exact ((List.filter_sublist.map _).trans hstarted).subperm.trans hids
      have hall := (hdone.sublist.map ActionReceipt.actionId).subperm
      rw [hcompleted, List.map_append] at hall
      refine (hundone.subperm.trans (compensationIds_subperm hall)).trans ?_
      rw [compensationIds, List.map_append, if_pos rfl]
      exact List.Subperm.append (compensationIds_subperm hlatest) (List.Subperm.refl _)
  · intro receipt hmem
    rcases List.mem_append.mp hmem with hold | hnew
    · exact hminted receipt hold
    · exact hfound.operationId ▸ hremade receipt hnew

theorem receiptIds_nodup {operationId : String} {receipts : List ActionReceipt}
    (hactions : (receipts.map ActionReceipt.actionId).Nodup)
    (hminted : ∀ receipt ∈ receipts, Mints operationId context receipt.actionId receipt.receiptId) :
    (receipts.map ActionReceipt.receiptId).Nodup := by
  refine List.Nodup.map_on (fun left hleft right hright heq => ?_) hactions.of_map
  have hsame := (hminted left hleft).actionId_inj (heq ▸ hminted right hright)
  exact List.inj_on_of_nodup_map hactions hleft hright hsame

theorem Written.distinct (h : Written given context mayRollBack ids operation)
    (hids : ids.Subperm pending) (hgiven : DistinctReceipts given)
    (hdistinct : (mayAdd given pending mayRollBack).Nodup)
    (hfresh : ∀ actionId ∈ mayAdd given pending mayRollBack, ∀ receipt ∈ given.actionReceipts,
      ¬ Mints given.operationId context actionId receipt.receiptId) : DistinctReceipts operation := by
  obtain ⟨receipts, hreceipts, hactions, hminted⟩ := h.exists_receipts hids
  unfold DistinctReceipts
  rw [hreceipts, List.map_append, List.nodup_append]
  refine ⟨hgiven, receiptIds_nodup (nodup_of_subperm hactions hdistinct) hminted, ?_⟩
  intro left hleft right hright heq
  obtain ⟨old, hold, rfl⟩ := List.mem_map.mp hleft
  obtain ⟨new, hnew, rfl⟩ := List.mem_map.mp hright
  have hmay := hactions.subset (List.mem_map_of_mem hnew)
  exact hfresh new.actionId hmay old hold (heq ▸ hminted new hnew)

theorem CallSegment.startedIds_subperm (h : CallSegment runtime base given call segment)
    (hcall : ∀ policy context, call ≠ .authorize policy context) :
    (startedIds segment).Subperm (call.mayStart given) := by
  cases h with
  | idle => exact List.nil_subperm
  | updates => exact List.nil_subperm
  | reconciles => exact List.nil_subperm
  | runs _ policy context _ hauthority hmonitored =>
    have hpending : (startedIds segment).Subperm (pendingIds given) :=
      List.subperm_of_subset (startedIds_nodup hmonitored) fun actionId hmem => by
        obtain ⟨hplanned, hunsuccessful⟩ := mem_startedIds hmonitored hmem
        exact List.mem_filter.mpr ⟨hplanned, decide_eq_true hunsuccessful⟩
    cases call with
    | authorize policy context => exact absurd rfl (hcall policy context)
    | run => exact hpending
    | resume => exact hpending
    | _ => cases hauthority
  | resumes policy context conditions started event rest hstarted hmonitored =>
    change (startedIds rest).Subperm (pendingIds given)
    refine List.subperm_of_subset (startedIds_nodup hmonitored) fun actionId hmem => ?_
    obtain ⟨hplanned, hunsuccessful⟩ := mem_startedIds hmonitored hmem
    rw [hstarted.actionIds_eq] at hplanned
    rw [hstarted.updates.receipted] at hunsuccessful
    exact List.mem_filter.mpr ⟨hplanned, decide_eq_true hunsuccessful⟩
  | rollsBack context _ hmonitored =>
    have hnone : startedIds segment = [] := by
      refine List.filterMap_eq_nil_iff.mpr fun effect hmem => ?_
      obtain ⟨before, -, hpermits⟩ := hmonitored.permits_of_mem hmem
      cases effect with
      | started => exact hpermits.elim
      | _ => rfl
    rw [hnone]
    exact List.nil_subperm

theorem mergeReceipts_nodup (own external : List ActionReceipt) :
    ((OperationRuntime.mergeReceipts own external).map ActionReceipt.receiptId).Nodup := by
  unfold OperationRuntime.mergeReceipts
  refine ((List.perm_insertionSort _ _).map _).nodup_iff.mpr ?_
  have hkeys : (Dict.ofList ((own ++ external).map fun receipt =>
      (receipt.receiptId, receipt))).values.map ActionReceipt.receiptId =
      (Dict.ofList ((own ++ external).map fun receipt => (receipt.receiptId, receipt))).keys := by
    unfold Dict.values Dict.keys
    rw [List.map_map]
    refine List.map_congr_left fun entry hentry => ?_
    obtain ⟨receipt, -, rfl⟩ := List.mem_map.mp (Dict.mem_of_mem_ofList hentry)
    rfl
  rw [hkeys]
  exact Dict.keys_nodup _

theorem mem_mergeReceipts_of_distinct {own external : List ActionReceipt} {receipt : ActionReceipt}
    (hdistinct : (own.map ActionReceipt.receiptId).Nodup) (hown : receipt ∈ own)
    (hexternal : receipt.receiptId ∉ external.map ActionReceipt.receiptId) :
    receipt ∈ OperationRuntime.mergeReceipts own external := by
  unfold OperationRuntime.mergeReceipts
  rw [List.mem_insertionSort, Dict.mem_values]
  have hkey : receipt.receiptId ∈ (Dict.ofList ((own ++ external).map fun receipt =>
      (receipt.receiptId, receipt))).keys := by
    rw [Dict.mem_keys_ofList, List.map_map]
    exact List.mem_map.mpr ⟨receipt, List.mem_append_left _ hown, rfl⟩
  obtain ⟨found, hentry⟩ := Dict.mem_keys.mp hkey
  obtain ⟨other, hother, heq⟩ := List.mem_map.mp (Dict.mem_of_mem_ofList hentry)
  obtain ⟨hid, rfl⟩ := Prod.mk.inj heq
  rcases List.mem_append.mp hother with hmem | hmem
  · rw [← List.inj_on_of_nodup_map hdistinct hmem hown hid]
    rw [← hid] at hentry
    exact ⟨_, hentry⟩
  · exact absurd (hid ▸ List.mem_map_of_mem hmem) hexternal

theorem CallSegment.distinct (h : CallSegment runtime base given call segment)
    (haccountable : ∀ context mayRollBack, call.execution = some (context, mayRollBack) →
      Monitored (Accountable given context.executionContext mayRollBack) segment)
    (hcall : ∀ policy context, call ≠ .authorize policy context)
    (hgiven : DistinctReceipts given) (hunclaimed : call.Unclaimed given)
    (hmem : .saved later ∈ segment) : DistinctReceipts later := by
  cases hexecution : call.execution with
  | some execution =>
    obtain ⟨context, mayRollBack⟩ := execution
    obtain ⟨before, hbefore, hwritten⟩ :=
      (haccountable context mayRollBack hexecution).permits_of_mem hmem
    obtain ⟨hdistinct, hfresh⟩ := hunclaimed context mayRollBack hexecution
    refine Written.distinct hwritten ?_ hgiven hdistinct hfresh
    exact (hbefore.sublist.filterMap _).subperm.trans (h.startedIds_subperm hcall)
  | none =>
    cases h with
    | idle => cases hmem
    | updates _ _ hauthority hupdates =>
      obtain rfl := Effect.saved.inj (List.mem_singleton.mp hmem)
      unfold DistinctReceipts
      rw [hupdates.receipted]
      exact hgiven
    | reconciles receipts currentActionIds _ hreconciles =>
      obtain rfl := Effect.saved.inj (List.mem_singleton.mp hmem)
      unfold DistinctReceipts
      rw [hreconciles.receipted]
      exact mergeReceipts_nodup _ _
    | runs _ policy context _ hauthority =>
      cases call with
      | authorize policy context => exact absurd rfl (hcall policy context)
      | run | resume => cases hexecution
      | _ => cases hauthority
    | resumes => cases hexecution
    | rollsBack => cases hexecution

/-- No id is borne twice, so that a merge loses no receipt unless an external one
bears its id. -/
structure ReceiptsKept (operation : OperationRun) : Prop where
  distinct : DistinctReceipts operation
  kept : ∀ external, ∀ receipt ∈ operation.actionReceipts,
    receipt.receiptId ∉ external.map ActionReceipt.receiptId →
      receipt ∈ OperationRuntime.mergeReceipts operation.actionReceipts external

/-- Every call that executes actions finds only receipts whose ids it will not make up. -/
def UnclaimedThroughout (runtime : OperationRuntime) (creation : Creation) (calls : List Call) :
    Prop :=
  ∀ done call rest, calls = done ++ call :: rest → ∀ given,
    latest (runtime.session creation done).log = some given → call.Unclaimed given

theorem session_distinct (hplan : creation.plan.Accepted runtime.python)
    (hexecutors : runtime.executors.Conventional) (calls : List Call)
    (hcalls : ∀ policy context, .authorize policy context ∉ calls)
    (hunclaimed : UnclaimedThroughout runtime creation calls) :
    ∀ operation, .saved operation ∈ (runtime.session creation calls).log →
      DistinctReceipts operation := by
  induction calls using List.reverseRecOn with
  | nil =>
    intro operation hmem
    change _ ∈ (runtime.created creation).log at hmem
    rcases created_log runtime creation with hlog | ⟨begun, hbegun, hlog⟩ <;> rw [hlog] at hmem
    · cases hmem
    · obtain rfl := Effect.saved.inj (List.mem_singleton.mp hmem)
      unfold DistinctReceipts
      rw [hbegun.unreceipted]
      exact List.nodup_nil
  | append_singleton calls call ih =>
    have hearlier := ih (fun policy context hmem => hcalls policy context (List.mem_append_left _ hmem))
      fun done found rest hsplit => hunclaimed done found (rest ++ [call]) (by simp [hsplit])
    obtain ⟨segment, hlog, hsegment⟩ := session_advances hplan calls call
    rw [hlog]
    intro operation hmem
    rcases List.mem_append.mp hmem with hold | hnew
    · exact hearlier operation hold
    rcases hsegment with rfl | ⟨given, hlatest, -, hcall⟩
    · cases hnew
    have hnot : ∀ policy context, call ≠ .authorize policy context := by
      rintro policy context rfl
      exact hcalls policy context (List.mem_append_right _ (List.mem_singleton_self _))
    refine hcall.distinct (fun context mayRollBack hexecution => ?_) hnot
      (hearlier given (mem_of_latest hlatest)) (hunclaimed calls call [] rfl given hlatest) hnew
    exact holds_of_perform hlatest hlog (perform_accountable hexecutors hlatest hexecution)

end Distinctness

section Examples

open DockerHost

theorem dockerHost_conventional : runtime.executors.Conventional := by
  intro executor hmem
  obtain ⟨key, hentry⟩ := Dict.mem_values.mp hmem
  have hlisted := Dict.mem_of_mem_ofList hentry
  simp only [List.map_cons, List.map_nil, List.mem_cons, Prod.mk.injEq, List.not_mem_nil,
    or_false] at hlisted
  rcases hlisted with ⟨-, rfl⟩ | ⟨-, rfl⟩ | ⟨-, rfl⟩
  · exact simulationExecutor_conventional _
  · exact dryRunExecutor_conventional _
  · exact waitExecutor_conventional _

def Effect.isRepetitive : Effect → Bool
  | .saved operation => ¬ DistinctReceipts operation
  | _ => false

end Examples

end KubeOps.Execution
