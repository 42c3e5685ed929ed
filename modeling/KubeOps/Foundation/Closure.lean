import Mathlib.Data.List.Basic
import Mathlib.Logic.Relation

/-! What can be reached along a list of edges, computed by passes over the list
until one of them finds nothing new. -/
namespace KubeOps.Foundation

variable {α : Type} [DecidableEq α]

/-- Along an edge, if it leads from something seen to something new. -/
def follow (seen : List α) (edge : α × α) : List α :=
  if edge.1 ∈ seen ∧ edge.2 ∉ seen then seen ++ [edge.2] else seen

def pass (edges : List (α × α)) (seen : List α) : List α := edges.foldl follow seen

def saturate (edges : List (α × α)) : Nat → List α → List α
  | 0, seen => seen
  | fuel + 1, seen =>
    if (pass edges seen).length = seen.length then seen else saturate edges fuel (pass edges seen)

/-- Every pass but the last one reaches the end of an edge for the first time. -/
def closure (edges : List (α × α)) (seeds : List α) : List α :=
  saturate edges (edges.length + 1) seeds

def Linked (edges : List (α × α)) (source target : α) : Prop := (source, target) ∈ edges

def ReachedFrom (edges : List (α × α)) (seeds : List α) (item : α) : Prop :=
  ∃ seed ∈ seeds, Relation.ReflTransGen (Linked edges) seed item

variable {edges rest : List (α × α)} {edge : α × α} {seeds seen : List α} {item : α}

theorem subset_follow (seen : List α) (edge : α × α) : seen ⊆ follow seen edge := by
  unfold follow
  split
  · exact List.subset_append_left ..
  · exact List.Subset.refl _

theorem mem_follow (h : item ∈ follow seen edge) :
    item ∈ seen ∨ edge.1 ∈ seen ∧ edge.2 = item := by
  unfold follow at h
  split at h
  · rename_i hedge
    rcases List.mem_append.mp h with hseen | hnew
    · exact .inl hseen
    · exact .inr ⟨hedge.1, (List.mem_singleton.mp hnew).symm⟩
  · exact .inl h

theorem target_mem_follow (h : edge.1 ∈ seen) : edge.2 ∈ follow seen edge := by
  unfold follow
  by_cases hknown : edge.2 ∈ seen
  · rw [if_neg fun hedge => hedge.2 hknown]
    exact hknown
  · rw [if_pos ⟨h, hknown⟩]
    exact List.mem_append_right _ (List.mem_singleton_self _)

theorem length_follow_le (seen : List α) (edge : α × α) :
    seen.length ≤ (follow seen edge).length := by
  unfold follow
  split
  · simp
  · exact Nat.le_refl _

theorem subset_pass (edges : List (α × α)) (seen : List α) : seen ⊆ pass edges seen := by
  induction edges generalizing seen with
  | nil => exact List.Subset.refl _
  | cons edge edges ih => exact List.Subset.trans (subset_follow seen edge) (ih _)

theorem length_pass_le (edges : List (α × α)) (seen : List α) :
    seen.length ≤ (pass edges seen).length := by
  induction edges generalizing seen with
  | nil => exact Nat.le_refl _
  | cons edge edges ih => exact Nat.le_trans (length_follow_le seen edge) (ih _)

theorem target_mem_pass (hedge : edge ∈ edges) (h : edge.1 ∈ seen) : edge.2 ∈ pass edges seen := by
  induction edges generalizing seen with
  | nil => exact absurd hedge List.not_mem_nil
  | cons first edges ih =>
    rcases List.mem_cons.mp hedge with rfl | hrest
    · exact subset_pass edges _ (target_mem_follow h)
    · exact ih hrest (subset_follow seen first h)

theorem pass_eq_self (h : (pass edges seen).length = seen.length) : pass edges seen = seen := by
  induction edges generalizing seen with
  | nil => rfl
  | cons edge edges ih =>
    have hfirst := length_follow_le seen edge
    have hrest := length_pass_le edges (follow seen edge)
    have hsplit : pass (edge :: edges) seen = pass edges (follow seen edge) := rfl
    rw [hsplit] at h ⊢
    have hsame : follow seen edge = seen := by
      unfold follow at hfirst hrest ⊢
      split
      · rename_i hedge
        rw [follow, if_pos hedge] at h
        rw [if_pos hedge, List.length_append, List.length_singleton] at hrest
        omega
      · rfl
    rw [hsame] at h ⊢
    exact ih h

theorem exists_new (h : (pass edges seen).length ≠ seen.length) :
    ∃ edge ∈ edges, edge.2 ∉ seen ∧ edge.2 ∈ pass edges seen := by
  induction edges generalizing seen with
  | nil => exact absurd rfl h
  | cons edge edges ih =>
    have hsplit : pass (edge :: edges) seen = pass edges (follow seen edge) := rfl
    by_cases hedge : edge.1 ∈ seen ∧ edge.2 ∉ seen
    · exact ⟨edge, List.mem_cons_self .., hedge.2, target_mem_pass (List.mem_cons_self ..) hedge.1⟩
    · rw [hsplit, follow, if_neg hedge] at h ⊢
      obtain ⟨found, hmem, hnew⟩ := ih h
      exact ⟨found, List.mem_cons_of_mem _ hmem, hnew⟩

def unreached (edges : List (α × α)) (seen : List α) : List (α × α) :=
  edges.filter fun edge => edge.2 ∉ seen

theorem length_unreached_pass (h : (pass edges seen).length ≠ seen.length) :
    (unreached edges (pass edges seen)).length < (unreached edges seen).length := by
  obtain ⟨edge, hedge, hnew, hreached⟩ := exists_new h
  have hsplit : unreached edges (pass edges seen) =
      (unreached edges seen).filter fun edge => edge.2 ∉ pass edges seen := by
    rw [unreached, unreached, List.filter_filter]
    apply List.filter_congr
    intro other _
    have hkept : other.2 ∉ pass edges seen → other.2 ∉ seen := mt fun hseen => subset_pass edges seen hseen
    by_cases hother : other.2 ∈ pass edges seen
    · simp [hother]
    · simp [hother, hkept hother]
  rw [hsplit]
  apply List.length_filter_lt_length_iff_exists.mpr
  exact ⟨edge, List.mem_filter.mpr ⟨hedge, by simpa using hnew⟩, by simpa using hreached⟩

theorem saturate_closed {fuel : Nat} (hfuel : (unreached edges seen).length < fuel)
    (hedge : edge ∈ edges) (h : edge.1 ∈ saturate edges fuel seen) :
    edge.2 ∈ saturate edges fuel seen := by
  induction fuel generalizing seen with
  | zero => exact absurd hfuel (Nat.not_lt_zero _)
  | succ fuel ih =>
    rw [saturate] at h ⊢
    split
    · rename_i hsame
      rw [if_pos hsame] at h
      have htarget := target_mem_pass hedge h
      rwa [pass_eq_self hsame] at htarget
    · rename_i hmore
      rw [if_neg hmore] at h
      have hless := length_unreached_pass hmore
      exact ih (by omega) h

theorem subset_saturate (edges : List (α × α)) (fuel : Nat) (seen : List α) :
    seen ⊆ saturate edges fuel seen := by
  induction fuel generalizing seen with
  | zero => exact List.Subset.refl _
  | succ fuel ih =>
    rw [saturate]
    split
    · exact List.Subset.refl _
    · exact List.Subset.trans (subset_pass edges seen) (ih _)

theorem pass_reached (hsub : rest ⊆ edges) (hseen : ∀ item ∈ seen, ReachedFrom edges seeds item) :
    ∀ item ∈ pass rest seen, ReachedFrom edges seeds item := by
  induction rest generalizing seen with
  | nil => exact hseen
  | cons edge rest ih =>
    apply ih (List.subset_of_cons_subset hsub)
    intro item hitem
    rcases mem_follow hitem with hold | ⟨hsource, rfl⟩
    · exact hseen item hold
    · obtain ⟨seed, hseed, hpath⟩ := hseen _ hsource
      exact ⟨seed, hseed, hpath.tail (hsub (List.mem_cons_self ..))⟩

theorem saturate_reached {fuel : Nat} (hseen : ∀ item ∈ seen, ReachedFrom edges seeds item) :
    ∀ item ∈ saturate edges fuel seen, ReachedFrom edges seeds item := by
  induction fuel generalizing seen with
  | zero => exact hseen
  | succ fuel ih =>
    rw [saturate]
    split
    · exact hseen
    · exact ih (pass_reached (List.Subset.refl _) hseen)

theorem mem_closure : item ∈ closure edges seeds ↔ ReachedFrom edges seeds item := by
  constructor
  · exact saturate_reached (fun seed hseed => ⟨seed, hseed, .refl⟩) item
  · rintro ⟨seed, hseed, hpath⟩
    induction hpath with
    | refl => exact subset_saturate _ _ _ hseed
    | tail _ hedge ih =>
      have hfuel : (unreached edges seeds).length < edges.length + 1 :=
        Nat.lt_succ_of_le (List.length_filter_le ..)
      exact saturate_closed hfuel hedge ih

theorem pass_of_closed (h : ∀ edge ∈ edges, edge.1 ∈ seen → edge.2 ∈ seen) : pass edges seen = seen := by
  induction edges with
  | nil => rfl
  | cons edge edges ih =>
    have hidle : follow seen edge = seen := by
      rw [follow, if_neg]
      intro hnew
      exact hnew.2 (h edge (List.mem_cons_self ..) hnew.1)
    have hsplit : pass (edge :: edges) seen = pass edges (follow seen edge) := rfl
    rw [hsplit, hidle]
    exact ih fun other hother => h other (List.mem_cons_of_mem _ hother)

theorem pass_closure (edges : List (α × α)) (seeds : List α) :
    pass edges (closure edges seeds) = closure edges seeds := by
  apply pass_of_closed
  intro edge hedge h
  exact saturate_closed (Nat.lt_succ_of_le (List.length_filter_le ..)) hedge h

theorem saturate_eq {fuel more : Nat} (hfuel : (unreached edges seen).length < fuel) (hmore : fuel ≤ more) :
    saturate edges more seen = saturate edges fuel seen := by
  induction fuel generalizing seen more with
  | zero => exact absurd hfuel (Nat.not_lt_zero _)
  | succ fuel ih =>
    obtain ⟨more, rfl⟩ := Nat.exists_eq_add_of_le' (Nat.le_trans (Nat.le_add_left 1 fuel) hmore)
    rw [saturate, saturate]
    by_cases hsame : (pass edges seen).length = seen.length
    · rw [if_pos hsame, if_pos hsame]
    · have hless := length_unreached_pass hsame
      rw [if_neg hsame, if_neg hsame]
      exact ih (by omega) (by omega)

end KubeOps.Foundation
