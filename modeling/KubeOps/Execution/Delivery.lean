import KubeOps.Execution.DockerHost
import KubeOps.Execution.Projection
import KubeOps.Foundation.Digests
import KubeOps.Foundation.Quoting

/-! Receipts of one operation that are reconciled a few at a time. The merge looks at
nothing but which receipt stands under which id, so neither the order nor the batches
show in it, and the statuses follow the merge. -/
namespace KubeOps.Execution

open KubeOps.Foundation KubeOps.Models
open OperationRuntime (mergeReceipts receiptOrder projectedStatus reconciledStatus)

section Merge

variable {own external left right : List ActionReceipt} {receipt : ActionReceipt}

/-- The receipts under their ids, a later one in the place of an earlier one. -/
def receiptById (receipts : List ActionReceipt) : Dict String ActionReceipt :=
  Dict.ofList (receipts.map fun receipt => (receipt.receiptId, receipt))

instance : Std.Total receiptOrder where
  total left right := by
    unfold receiptOrder
    rcases lt_trichotomy left.startedAtIso right.startedAtIso with h | h | h
    · exact .inl (.inl h)
    · exact (le_total left.receiptId right.receiptId).imp (fun hid => .inr ⟨h, hid⟩)
        fun hid => .inr ⟨h.symm, hid⟩
    · exact .inr (.inl h)

instance : IsTrans ActionReceipt receiptOrder where
  trans first second third := by
    unfold receiptOrder
    rintro (h | ⟨h, hid⟩) (hnext | ⟨hnext, hlater⟩)
    · exact .inl (h.trans hnext)
    · exact .inl (hnext ▸ h)
    · exact .inl (h ▸ hnext)
    · exact .inr ⟨h.trans hnext, hid.trans hlater⟩

theorem receiptId_of_receiptOrder {first second : ActionReceipt} (h : receiptOrder first second)
    (hback : receiptOrder second first) : first.receiptId = second.receiptId := by
  rcases h with h | ⟨heq, hid⟩
  · rcases hback with hback | ⟨hback, -⟩
    · exact absurd hback (lt_asymm h)
    · exact absurd hback (ne_of_gt h)
  · rcases hback with hback | ⟨-, hlater⟩
    · exact absurd heq (ne_of_gt hback)
    · exact le_antisymm hid hlater

theorem receiptId_of_get? {receipts : List ActionReceipt} {receiptId : String}
    (h : (receiptById receipts).get? receiptId = some receipt) : receipt.receiptId = receiptId := by
  obtain ⟨found, -, heq⟩ := List.mem_map.mp (Dict.mem_of_mem_ofList (Dict.get?_eq_some.mp h))
  obtain ⟨hid, rfl⟩ := Prod.mk.inj heq
  exact hid

theorem mem_values_receiptById {receipts : List ActionReceipt} :
    receipt ∈ (receiptById receipts).values ↔
      (receiptById receipts).get? receipt.receiptId = some receipt := by
  rw [Dict.mem_values_iff]
  constructor
  · rintro ⟨receiptId, h⟩
    rwa [receiptId_of_get? h]
  · exact fun h => ⟨_, h⟩

theorem mem_mergeReceipts_iff : receipt ∈ mergeReceipts own external ↔
    (receiptById (own ++ external)).get? receipt.receiptId = some receipt := by
  rw [← mem_values_receiptById, mergeReceipts, List.mem_insertionSort]
  rfl

theorem sorted_eq_of_get? {receipts others : List ActionReceipt}
    (h : ∀ receiptId, (receiptById receipts).get? receiptId = (receiptById others).get? receiptId) :
    (receiptById receipts).values.insertionSort receiptOrder =
      (receiptById others).values.insertionSort receiptOrder := by
  have hperm := (Dict.perm_entries h).map Prod.snd
  refine List.Perm.eq_of_pairwise ?_ (List.pairwise_insertionSort receiptOrder _)
    (List.pairwise_insertionSort receiptOrder _)
    ((List.perm_insertionSort ..).trans (hperm.trans (List.perm_insertionSort ..).symm))
  intro first second hfirst hsecond hle hge
  rw [List.mem_insertionSort, mem_values_receiptById] at hfirst hsecond
  rw [← h, ← receiptId_of_receiptOrder hle hge, hfirst] at hsecond
  exact Option.some.inj hsecond

theorem receiptById_append (left right : List ActionReceipt) (receiptId : String) :
    (receiptById (left ++ right)).get? receiptId =
      ((receiptById right).get? receiptId).or ((receiptById left).get? receiptId) := by
  rw [receiptById, List.map_append, Dict.get?_ofList_append]
  rfl

theorem mergeReceipts_ids_nodup :
    ((mergeReceipts own external).map ActionReceipt.receiptId).Nodup := by
  have hkeys : (receiptById (own ++ external)).values.map ActionReceipt.receiptId =
      (receiptById (own ++ external)).keys := by
    rw [Dict.values, List.map_map]
    apply List.map_congr_left
    intro entry hentry
    exact receiptId_of_get? (Dict.get?_eq_some.mpr hentry)
  have hperm : (mergeReceipts own external).Perm (receiptById (own ++ external)).values :=
    List.perm_insertionSort ..
  rw [(hperm.map ActionReceipt.receiptId).nodup_iff, hkeys]
  exact Dict.nodup _

theorem receiptById_of_nodup {receipts : List ActionReceipt}
    (h : (receipts.map ActionReceipt.receiptId).Nodup) {receiptId : String} :
    (receiptById receipts).get? receiptId = some receipt ↔
      receipt ∈ receipts ∧ receipt.receiptId = receiptId := by
  rw [receiptById, Dict.get?_ofList_eq_some (by rwa [List.map_map]), List.mem_map]
  constructor
  · rintro ⟨found, hfound, heq⟩
    obtain ⟨hid, rfl⟩ := Prod.mk.inj heq
    exact ⟨hfound, hid⟩
  · rintro ⟨hmem, rfl⟩
    exact ⟨receipt, hmem, rfl⟩

theorem receiptById_mergeReceipts (receiptId : String) :
    (receiptById (mergeReceipts own external)).get? receiptId =
      (receiptById (own ++ external)).get? receiptId := by
  apply Option.ext
  intro receipt
  rw [receiptById_of_nodup mergeReceipts_ids_nodup, mem_mergeReceipts_iff]
  constructor
  · rintro ⟨hfound, rfl⟩
    exact hfound
  · intro hfound
    obtain rfl := receiptId_of_get? hfound
    exact ⟨hfound, rfl⟩

theorem mergeReceipts_mergeReceipts :
    mergeReceipts (mergeReceipts own left) right = mergeReceipts own (left ++ right) := by
  apply sorted_eq_of_get?
  intro receiptId
  rw [receiptById_append, receiptById_mergeReceipts, ← receiptById_append, List.append_assoc]

theorem mergeReceipts_repeated :
    mergeReceipts own (left ++ right ++ right) = mergeReceipts own (left ++ right) := by
  apply sorted_eq_of_get?
  intro receiptId
  rw [← List.append_assoc, ← List.append_assoc, receiptById_append, receiptById_append,
    ← Option.or_assoc, Option.or_self]

theorem mergeReceipts_reordered (hperm : left.Perm right)
    (hnodup : (left.map ActionReceipt.receiptId).Nodup) :
    mergeReceipts own left = mergeReceipts own right := by
  apply sorted_eq_of_get?
  intro receiptId
  rw [receiptById_append, receiptById_append]
  congr 1
  apply Option.ext
  intro receipt
  rw [receiptById_of_nodup hnodup, receiptById_of_nodup ((hperm.map _).nodup_iff.mp hnodup),
    hperm.mem_iff]

end Merge

section Statuses

variable {operation later : OperationRun} {receipts more : List ActionReceipt}
  {currentActionIds : Option (List String)}

theorem projectedStatus_projectedStatus {action : ActionInstance} {current : List String}
    {found latest : Option ActionReceipt} (h : latest = none → found = none) :
    projectedStatus { action with status := projectedStatus action current found } current latest =
      projectedStatus action current latest := by
  cases latest with
  | some receipt =>
    unfold projectedStatus
    dsimp only [Option.map_some]
    split
    · rfl
    · cases receipt.status <;> rfl
  | none =>
    rw [h rfl]
    by_cases hcurrent : action.actionId ∈ current
    · simp only [projectedStatus, if_pos hcurrent]
    · simp only [projectedStatus, if_neg hcurrent, Option.map_none]
      by_cases hwaits : action.status = .approvalRequired ∨ action.status = .blocked
      · simp only [if_pos hwaits]
      · simp [if_neg hwaits]

theorem latestReceipt_eq_none {receipts others : List ActionReceipt} {actionId : String}
    (hkept : others ⊆ receipts) (h : latestReceipt receipts actionId = none) :
    latestReceipt others actionId = none := by
  rw [← Option.not_isSome_iff_eq_none, latestReceipt_isSome] at h ⊢
  exact fun hmem => h (List.map_subset _ hkept hmem)

/-- The run has these receipts merged in, and the statuses and the hash they stand for. -/
structure Delivered (runtime : OperationRuntime) (operation : OperationRun)
    (receipts : List ActionReceipt) (currentActionIds : Option (List String)) (later : OperationRun) :
    Prop where
  receipted : later.actionReceipts = mergeReceipts operation.actionReceipts receipts
  actions : later.plan.actions = projection operation receipts currentActionIds
  status : later.status = reconciledStatus (projection operation receipts currentActionIds)
  recorded : later.metadata.get? "external_projection_hash" = some (.str
    (runtime.projectionHash later.actionReceipts (sortedSet (currentActionIds.getD [])) later.status))

theorem Delivered.projection {runtime : OperationRuntime}
    (h : Delivered runtime operation receipts currentActionIds later)
    (hkept : mergeReceipts operation.actionReceipts receipts ⊆
      mergeReceipts operation.actionReceipts (receipts ++ more)) :
    projection later more currentActionIds = projection operation (receipts ++ more) currentActionIds := by
  unfold Execution.projection
  rw [h.receipted, mergeReceipts_mergeReceipts, h.actions, Execution.projection, List.map_map]
  apply List.map_congr_left
  intro action _
  exact congrArg (fun status => { action with status })
    (projectedStatus_projectedStatus (latestReceipt_eq_none hkept))

end Statuses

section Deliveries

def deliver (runtime : OperationRuntime) (currentActionIds : Option (List String))
    (operation : OperationRun) (batches : List (List ActionReceipt)) : Runtime OperationRun :=
  batches.foldlM (fun operation receipts =>
    runtime.reconcileExternalReceipts operation receipts currentActionIds) operation

/-- Projections that list different receipts have different hashes. -/
def SeparatesReceipts (runtime : OperationRuntime) : Prop :=
  ∀ merged current status merged' current' status',
    runtime.projectionHash merged current status = runtime.projectionHash merged' current' status' →
      merged.map ActionReceipt.receiptId = merged'.map ActionReceipt.receiptId

/-- The operation records no projection that lists a receipt it lacks. -/
def RecordsOwn (runtime : OperationRuntime) (operation : OperationRun) : Prop :=
  ∀ merged current status, operation.metadata.get? "external_projection_hash" =
      some (.str (runtime.projectionHash merged current status)) →
    ∀ receipt ∈ merged, receipt.receiptId ∈ operation.actionReceipts.map ActionReceipt.receiptId

structure NewTo (operation : OperationRun) (receipts : List ActionReceipt) : Prop where
  nodup : (receipts.map ActionReceipt.receiptId).Nodup
  unseen : ∀ receipt ∈ receipts,
    receipt.receiptId ∉ operation.actionReceipts.map ActionReceipt.receiptId

variable {runtime : OperationRuntime} {operation later next : OperationRun}
  {receipts done more : List ActionReceipt} {currentActionIds : Option (List String)}
  {trace reached : Trace Effect}

theorem NewTo.perm {others : List ActionReceipt} (h : NewTo operation receipts)
    (hperm : receipts.Perm others) : NewTo operation others :=
  ⟨(hperm.map _).nodup_iff.mp h.nodup, fun receipt hmem => h.unseen receipt (hperm.mem_iff.mpr hmem)⟩

theorem NewTo.left (h : NewTo operation (done ++ more)) : NewTo operation done :=
  ⟨(List.nodup_append.mp (List.map_append ▸ h.nodup)).1,
    fun receipt hmem => h.unseen receipt (List.mem_append_left _ hmem)⟩

theorem NewTo.kept (h : NewTo operation (done ++ more)) : mergeReceipts operation.actionReceipts done ⊆
    mergeReceipts operation.actionReceipts (done ++ more) := by
  intro receipt hmem
  have hseen : receipt.receiptId ∈ (operation.actionReceipts ++ done).map ActionReceipt.receiptId := by
    rw [List.map_append, List.mem_append]
    exact receiptIds_mergeReceipts.mp (List.mem_map_of_mem hmem)
  have hnew : (receiptById more).get? receipt.receiptId = none := by
    rw [Dict.get?_eq_none, receiptById, Dict.mem_keys_ofList, List.map_map]
    intro hagain
    obtain ⟨other, hother, hid⟩ := List.mem_map.mp hagain
    replace hid : other.receiptId = receipt.receiptId := hid
    rw [List.map_append, List.mem_append] at hseen
    rcases hseen with hown | hdone
    · exact h.unseen other (List.mem_append_right _ hother) (hid ▸ hown)
    · have hnodup := h.nodup
      rw [List.map_append, List.nodup_append] at hnodup
      exact hnodup.2.2 _ hdone _ (List.mem_map_of_mem hother) hid.symm
  rw [mem_mergeReceipts_iff] at hmem ⊢
  rw [← List.append_assoc, receiptById_append, hnew, Option.none_or, hmem]

theorem AlreadyProjected.eq_nil (hrecords : RecordsOwn runtime operation)
    (hfresh : NewTo operation receipts)
    (h : AlreadyProjected runtime operation receipts currentActionIds) : receipts = [] := by
  rw [List.eq_nil_iff_forall_not_mem]
  intro receipt hmem
  obtain ⟨merged, hmerged, hid⟩ := List.mem_map.mp (receiptIds_mergeReceipts.mpr
    (.inr (List.mem_map_of_mem hmem)) : receipt.receiptId ∈
      (mergeReceipts operation.actionReceipts receipts).map ActionReceipt.receiptId)
  have hown := hrecords _ _ _ h merged hmerged
  rw [hid] at hown
  exact hfresh.unseen receipt hmem hown

theorem reconcile_already (h : AlreadyProjected runtime operation receipts currentActionIds) :
    (runtime.reconcileExternalReceipts operation receipts currentActionIds).exec trace =
      (.ok operation, trace) := by
  unfold OperationRuntime.reconcileExternalReceipts
  dsimp only
  rw [AlreadyProjected] at h
  split
  · rename_i recorded hrecorded
    rw [hrecorded] at h
    rw [if_pos (Json.str.inj (Option.some.inj h))]
    rfl
  · rename_i hnone
    exact absurd h (hnone _)

structure Reached (runtime : OperationRuntime) (operation : OperationRun) (receipts : List ActionReceipt)
    (currentActionIds : Option (List String)) (later : OperationRun) : Prop where
  idle : AlreadyProjected runtime operation receipts currentActionIds → later = operation
  delivered : ¬ AlreadyProjected runtime operation receipts currentActionIds →
    Delivered runtime operation receipts currentActionIds later

theorem Projected.delivered (h : Projected runtime operation receipts currentActionIds later) :
    Delivered runtime operation receipts currentActionIds later :=
  ⟨h.receipted, h.actions, h.status, by rw [h.recorded, Dict.get?_set_self]⟩

theorem reached_first
    (hexec : (runtime.reconcileExternalReceipts operation receipts currentActionIds).exec trace =
      (.ok next, reached)) : Reached runtime operation receipts currentActionIds next := by
  constructor
  · intro halready
    rw [reconcile_already halready] at hexec
    exact (Except.ok.inj (Prod.mk.inj hexec).1).symm
  · intro hnew
    rcases reconcile_cases.apply hexec with ⟨-, halready⟩ | hprojected
    · exact absurd halready hnew
    · exact hprojected.delivered

theorem Delivered.step (hseparates : SeparatesReceipts runtime)
    (hfresh : NewTo operation (done ++ more))
    (h : Delivered runtime operation done currentActionIds later)
    (hexec : (runtime.reconcileExternalReceipts later more currentActionIds).exec trace =
      (.ok next, reached)) :
    Delivered runtime operation (done ++ more) currentActionIds next := by
  have hprojection := h.projection hfresh.kept
  rcases reconcile_cases.apply hexec with ⟨rfl, halready⟩ | hprojected
  · have hnone : more = [] := by
      rw [List.eq_nil_iff_forall_not_mem]
      intro receipt hmem
      -- The hash is that of the receipts there are, so the batch adds none.
      have hids := hseparates _ _ _ _ _ _ (Json.str.inj (Option.some.inj (h.recorded.symm.trans halready)))
      have hseen : receipt.receiptId ∈ next.actionReceipts.map ActionReceipt.receiptId := by
        rw [hids]
        exact receiptIds_mergeReceipts.mpr (.inr (List.mem_map_of_mem hmem))
      rw [h.receipted, receiptIds_mergeReceipts] at hseen
      rcases hseen with hown | hdone
      · exact hfresh.unseen receipt (List.mem_append_right _ hmem) hown
      · have hnodup := hfresh.nodup
        rw [List.map_append, List.nodup_append] at hnodup
        exact hnodup.2.2 _ hdone _ (List.mem_map_of_mem hmem) rfl
    rw [hnone, List.append_nil]
    exact h
  · have hreceipted : next.actionReceipts =
        mergeReceipts operation.actionReceipts (done ++ more) := by
      rw [hprojected.receipted, h.receipted, mergeReceipts_mergeReceipts]
    refine ⟨hreceipted, ?_, ?_, ?_⟩
    · rw [hprojected.actions, hprojection]
    · rw [hprojected.status, hprojection]
    · rw [hprojected.recorded, Dict.get?_set_self]

theorem Reached.step (hseparates : SeparatesReceipts runtime) (hrecords : RecordsOwn runtime operation)
    (hfresh : NewTo operation (done ++ more))
    (h : Reached runtime operation done currentActionIds later)
    (hexec : (runtime.reconcileExternalReceipts later more currentActionIds).exec trace =
      (.ok next, reached)) :
    Reached runtime operation (done ++ more) currentActionIds next := by
  by_cases halready : AlreadyProjected runtime operation done currentActionIds
  · obtain rfl := h.idle halready
    obtain rfl := halready.eq_nil hrecords hfresh.left
    exact reached_first hexec
  · refine ⟨fun hagain => absurd ?_ halready, fun _ => (h.delivered halready).step hseparates hfresh hexec⟩
    have hnone := hagain.eq_nil hrecords hfresh
    obtain ⟨rfl, rfl⟩ := List.append_eq_nil_iff.mp hnone
    exact hagain

theorem deliver_reached (hseparates : SeparatesReceipts runtime) (hrecords : RecordsOwn runtime operation)
    {batches : List (List ActionReceipt)} (hfresh : NewTo operation (done ++ batches.flatten))
    (h : Reached runtime operation done currentActionIds later) (trace : Trace Effect) :
    ∃ many reached, (deliver runtime currentActionIds later batches).exec trace = (.ok many, reached) ∧
      Reached runtime operation (done ++ batches.flatten) currentActionIds many := by
  induction batches generalizing done later trace with
  | nil => exact ⟨later, trace, rfl, by rwa [List.flatten_nil, List.append_nil]⟩
  | cons batch batches ih =>
    rw [List.flatten_cons, ← List.append_assoc] at hfresh ⊢
    obtain ⟨next, between, hexec⟩ := reconcile_total runtime later batch currentActionIds trace
    obtain ⟨many, reached, hrest, hreached⟩ :=
      ih hfresh (h.step hseparates hrecords hfresh.left hexec) between
    refine ⟨many, reached, ?_, hreached⟩
    rw [deliver, List.foldlM_cons, Program.exec_bind, hexec]
    exact hrest

theorem Reached.repeated (hrecords : RecordsOwn runtime operation) (hfresh : NewTo operation (done ++ more))
    (h : Reached runtime operation (done ++ more) currentActionIds later) :
    AlreadyProjected runtime later more currentActionIds := by
  by_cases halready : AlreadyProjected runtime operation (done ++ more) currentActionIds
  · obtain rfl := h.idle halready
    obtain ⟨rfl, rfl⟩ := List.append_eq_nil_iff.mp (halready.eq_nil hrecords hfresh)
    exact halready
  · have hdelivered := h.delivered halready
    have hmerge : mergeReceipts later.actionReceipts more = later.actionReceipts := by
      rw [hdelivered.receipted, mergeReceipts_mergeReceipts, mergeReceipts_repeated]
    have hprojection : projection later more currentActionIds =
        projection operation (done ++ more) currentActionIds := by
      rw [hdelivered.projection (by rw [mergeReceipts_repeated]; exact List.Subset.refl _)]
      unfold Execution.projection
      rw [mergeReceipts_repeated]
    change later.metadata.get? _ = some (.str (runtime.projectionHash
      (mergeReceipts later.actionReceipts more) _ (reconciledStatus (projection later more _))))
    rw [hdelivered.recorded, hmerge, hprojection, hdelivered.status]

structure SameProjection (left right : OperationRun) : Prop where
  receipted : left.actionReceipts = right.actionReceipts
  actions : left.plan.actions = right.plan.actions
  status : left.status = right.status

theorem Reached.agree (hrecords : RecordsOwn runtime operation) (hfresh : NewTo operation receipts)
    (hperm : done.Perm receipts) (h : Reached runtime operation done currentActionIds later)
    (hother : Reached runtime operation receipts currentActionIds next) : SameProjection later next := by
  by_cases halready : AlreadyProjected runtime operation receipts currentActionIds
  · obtain rfl := halready.eq_nil hrecords hfresh
    obtain rfl := hperm.eq_nil
    rw [h.idle halready, hother.idle halready]
    exact ⟨rfl, rfl, rfl⟩
  · have hnew : ¬ AlreadyProjected runtime operation done currentActionIds := by
      intro hdone
      obtain rfl := hdone.eq_nil hrecords (hfresh.perm hperm.symm)
      obtain rfl := hperm.symm.eq_nil
      exact halready hdone
    have hmerge : mergeReceipts operation.actionReceipts done =
        mergeReceipts operation.actionReceipts receipts :=
      mergeReceipts_reordered hperm (hfresh.perm hperm.symm).nodup
    have hprojection : projection operation done currentActionIds =
        projection operation receipts currentActionIds := by
      unfold Execution.projection
      rw [hmerge]
    have hleft := h.delivered hnew
    have hright := hother.delivered halready
    constructor
    · rw [hleft.receipted, hright.receipted, hmerge]
    · rw [hleft.actions, hright.actions, hprojection]
    · rw [hleft.status, hright.status, hprojection]

/-- New receipts can be delivered in any order and in any batches: the run agrees with the
one that got all of them at once, and getting the last batch again leaves it as it is. -/
theorem deliveries_agree (hseparates : SeparatesReceipts runtime) (hrecords : RecordsOwn runtime operation)
    (hfresh : NewTo operation receipts) {batches : List (List ActionReceipt)} {last : List ActionReceipt}
    (hperm : (batches ++ [last]).flatten.Perm receipts) (trace start : Trace Effect) :
    ∃ one ended many reached,
      (runtime.reconcileExternalReceipts operation receipts currentActionIds).exec start =
        (.ok one, ended) ∧
      (deliver runtime currentActionIds operation (batches ++ [last])).exec trace = (.ok many, reached) ∧
      SameProjection many one ∧
      ∀ later, (runtime.reconcileExternalReceipts many last currentActionIds).exec later =
        (.ok many, later) := by
  obtain ⟨one, ended, hone⟩ := reconcile_total runtime operation receipts currentActionIds start
  have hall := hfresh.perm hperm.symm
  have hmany : ∃ many reached,
      (deliver runtime currentActionIds operation (batches ++ [last])).exec trace = (.ok many, reached) ∧
        Reached runtime operation (batches ++ [last]).flatten currentActionIds many := by
    obtain ⟨first, rest, hsplit⟩ := List.exists_cons_of_ne_nil
      (List.append_ne_nil_of_right_ne_nil batches (List.cons_ne_nil last []))
    rw [hsplit] at hall ⊢
    obtain ⟨next, between, hexec⟩ := reconcile_total runtime operation first currentActionIds trace
    obtain ⟨many, reached, hrest, hreached⟩ :=
      deliver_reached hseparates hrecords hall (reached_first hexec) between
    refine ⟨many, reached, ?_, hreached⟩
    rw [deliver, List.foldlM_cons, Program.exec_bind, hexec]
    exact hrest
  obtain ⟨many, reached, hdeliver, hreached⟩ := hmany
  refine ⟨one, ended, many, reached, hone, hdeliver,
    hreached.agree hrecords hfresh hperm (reached_first hone), fun later => reconcile_already ?_⟩
  rw [List.flatten_concat] at hall hreached
  exact hreached.repeated hrecords hall

end Deliveries

namespace DockerHost

/-- What stands in front of the values of a projection. -/
def beforeCurrent : List Char := "\"current_action_ids\":".toList

def beforeReceipts : List Char := ",\"receipt_ids\":".toList

def beforeStatus : List Char := ",\"status\":\"".toList

def projectionJson (receiptIds current : List String) (status : String) : String :=
  String.ofList ('\x7b' :: (beforeCurrent ++ listed (current.map String.toList)
    (beforeReceipts ++ listed (receiptIds.map String.toList)
      (beforeStatus ++ status.toList ++ ['"', '\x7d']))))

def dumps : Json → String
  | .dict [(_, receiptIds), (_, current), (_, .str status)] =>
    projectionJson receiptIds.stringItems current.stringItems status
  | value => value.sorted.compact

def completed (container : String) : ActionReceipt where
  receiptId := s!"receipt:operation:local:startup:action:start:{container}:1"
  operationId := "operation:local:startup"
  actionId := (startContainer container).actionId
  actionTypeId := containerStart.actionTypeId
  executorId := "docker.cli"
  status := .completed
  startedAtIso := clock.utcNowIso 0
  completedAtIso := clock.utcNowIso 0

def projectionText (containers : List String) (status : OperationStatus) : String :=
  projectionJson (containers.map fun container => (completed container).receiptId) [] status.text

/-- The SHA-256 of the projections of two containers that are started. -/
def digests : List (String × String) := [
  (projectionText ["db"] .running,
    "fb59bff9c3a916580e48100745edfcd21d2a1e9199546d6d958f23c8a78cedd8"),
  (projectionText ["cache"] .running,
    "a9773d2ed1ba332ba78f7e184576aa84977e5ce14c33743b7d58c6c32a71cec4"),
  (projectionText ["cache", "db"] .verifying,
    "fefec5809fcb03b74ff61dfe1aa7c0dad2fcba3a017e39e24ed1bdccbc1abe68")]

def hashingRuntime : OperationRuntime :=
  { runtime with python := { Python.plain with dumps := dumps, sha256 := tabled digests } }

theorem projectionHash_eq (merged : List ActionReceipt) (current : List String)
    (status : OperationStatus) : hashingRuntime.projectionHash merged current status =
      tabled digests (projectionJson (merged.map ActionReceipt.receiptId) current status.text) := by
  change tabled digests (projectionJson (Json.strings (merged.map ActionReceipt.receiptId)).stringItems
    (Json.strings current).stringItems status.text) = _
  rw [Json.stringItems_strings, Json.stringItems_strings]

theorem projectionJson_not_digest (receiptIds current : List String) (status : String) :
    projectionJson receiptIds current status ∉ digests.map Prod.snd := by
  have hunbraced : (digests.map Prod.snd).all (fun digest => digest.toList.head? ≠ some '\x7b') = true := by
    decide
  have hbraced : (projectionJson receiptIds current status).toList.head? = some '\x7b' := by
    unfold projectionJson
    rw [String.toList_ofList]
    exact List.head?_cons
  intro hmem
  exact of_decide_eq_true (List.all_eq_true.mp hunbraced _ hmem) hbraced

theorem separatesReceipts : SeparatesReceipts hashingRuntime := by
  intro merged current status merged' current' status' h
  rw [projectionHash_eq, projectionHash_eq] at h
  have hnodup : (digests.map Prod.snd).Nodup := by decide
  have htext := congrArg String.toList
    (tabled_inj hnodup (projectionJson_not_digest _ _ _) (projectionJson_not_digest _ _ _) h)
  unfold projectionJson at htext
  rw [String.toList_ofList, String.toList_ofList] at htext
  obtain ⟨-, hrest⟩ := listed_inj (List.append_cancel_left (List.cons.inj htext).2)
  obtain ⟨hids, -⟩ := listed_inj (List.append_cancel_left hrest)
  exact List.map_injective_iff.mpr (fun _ _ heq => String.toList_injective heq) hids

def operation : OperationRun := createdRun [startContainer "db", startContainer "cache"]

/-- A run that records the projection of receipts it was never given. -/
def forged : OperationRun :=
  { operation with metadata := Dict.ofList [("external_projection_hash",
    .str "fefec5809fcb03b74ff61dfe1aa7c0dad2fcba3a017e39e24ed1bdccbc1abe68")] }

def receiptIdsOf (result : Except PyError OperationRun) : Option (List String) :=
  result.toOption.map fun later => later.actionReceipts.map ActionReceipt.receiptId

/-- Two containers started one after the other, and reported one after the other. -/
theorem deliveries_agree_started : ∃ one ended many reached,
    (hashingRuntime.reconcileExternalReceipts operation [completed "cache", completed "db"] none).exec
      (Trace.start _) = (.ok one, ended) ∧
    (deliver hashingRuntime none operation ([[completed "db"]] ++ [[completed "cache"]])).exec
      (Trace.start _) = (.ok many, reached) ∧ SameProjection many one ∧
    ∀ later, (hashingRuntime.reconcileExternalReceipts many [completed "cache"] none).exec later =
      (.ok many, later) := by
  have hrecords : RecordsOwn hashingRuntime operation := fun _ _ _ h => by cases h
  have hfresh : NewTo operation [completed "cache", completed "db"] :=
    ⟨by decide, fun _ _ => List.not_mem_nil⟩
  have hperm : ([[completed "db"]] ++ [[completed "cache"]]).flatten.Perm
      [completed "cache", completed "db"] := List.Perm.swap _ _ _
  exact deliveries_agree separatesReceipts hrecords hfresh hperm _ _

/-- All at once the receipts pass for known and are dropped, one after the other they are merged. -/
theorem deliveries_disagree_forged : NewTo forged [completed "cache", completed "db"] ∧
    receiptIdsOf ((hashingRuntime.reconcileExternalReceipts forged
      [completed "cache", completed "db"] none).exec (Trace.start _)).1 = some [] ∧
    receiptIdsOf ((deliver hashingRuntime none forged [[completed "db"], [completed "cache"]]).exec
      (Trace.start _)).1 =
        some ["receipt:operation:local:startup:action:start:cache:1",
          "receipt:operation:local:startup:action:start:db:1"] := by
  refine ⟨⟨by decide, fun _ _ => List.not_mem_nil⟩, ?_, ?_⟩
  · decide +kernel
  · decide +kernel

end DockerHost

end KubeOps.Execution
