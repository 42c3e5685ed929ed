import Mathlib.Data.List.Forall2
import Mathlib.Data.List.Induction
import Mathlib.Data.List.Nodup

/-! A function on texts that is known for a few of them, and chains of entries in which each one carries
the hash of the entry before it. -/
namespace KubeOps.Foundation

section Tables

/-- What is not in the table stands for itself. On texts that are no value of the table the function is
injective if the table is. -/
def tabled (table : List (String × String)) (text : String) : String :=
  ((table.find? fun entry => entry.1 = text).map Prod.snd).getD text

variable {table : List (String × String)} {left right : String}

theorem tabled_cases (table : List (String × String)) (text : String) :
    tabled table text = text ∨ (text, tabled table text) ∈ table := by
  cases hfound : table.find? fun entry => entry.1 = text with
  | none =>
    left
    rw [tabled, hfound]
    rfl
  | some entry =>
    right
    have hkey := List.find?_some hfound
    rw [decide_eq_true_eq] at hkey
    rw [tabled, hfound, ← hkey]
    exact List.mem_of_find?_eq_some hfound

theorem tabled_inj (hnodup : (table.map Prod.snd).Nodup) (hleft : left ∉ table.map Prod.snd)
    (hright : right ∉ table.map Prod.snd) (h : tabled table left = tabled table right) :
    left = right := by
  rcases tabled_cases table left with hown | hlisted
  · rcases tabled_cases table right with hother | hother
    · rw [hown, hother] at h
      exact h
    · rw [← h, hown] at hother
      exact absurd (List.mem_map_of_mem hother) hleft
  · rcases tabled_cases table right with hother | hother
    · rw [h, hother] at hlisted
      exact absurd (List.mem_map_of_mem hlisted) hright
    · exact congrArg Prod.fst (List.inj_on_of_nodup_map hnodup hlisted hother h)

end Tables

/-- Where an entry keeps the hash before it and its own. -/
structure HashLinks (α η : Type) where
  previous : α → Option η
  own : α → η

namespace HashLinks

variable {α η : Type} (links : HashLinks α η)

/-- The hash a further entry would have to carry. -/
def head (entries : List α) : Option η := entries.getLast?.map links.own

/-- Every entry carries the hash that precedes it, the first one this hash. -/
def LinkedFrom : Option η → List α → Prop
  | _, [] => True
  | before, entry :: rest =>
    links.previous entry = before ∧ LinkedFrom (some (links.own entry)) rest

def Linked (entries : List α) : Prop := links.LinkedFrom none entries

variable {links} {entry : α} {entries : List α} {before : Option η}

@[simp] theorem head_nil : links.head [] = none := rfl

@[simp] theorem head_concat : links.head (entries ++ [entry]) = some (links.own entry) := by
  simp [head]

theorem linkedFrom_concat : links.LinkedFrom before (entries ++ [entry]) ↔
    links.LinkedFrom before entries ∧
      links.previous entry = (links.head entries).or before := by
  induction entries generalizing before with
  | nil => simp [LinkedFrom]
  | cons first entries ih =>
    have hhead : (links.head (first :: entries)).or before =
        (links.head entries).or (some (links.own first)) := by
      rw [head, head, List.getLast?_cons]
      cases entries.getLast? with
      | none => rfl
      | some last => rfl
    rw [List.cons_append, LinkedFrom, LinkedFrom, ih, hhead, and_assoc]

theorem linked_concat : links.Linked (entries ++ [entry]) ↔
    links.Linked entries ∧ links.previous entry = links.head entries := by
  rw [Linked, Linked, linkedFrom_concat, Option.or_none]

theorem agree_of_head {same : α → α → Prop} {left right : List α}
    (hdetermined : ∀ one ∈ left, ∀ other ∈ right, links.own one = links.own other → same one other)
    (hprevious : ∀ one other, same one other → links.previous one = links.previous other)
    (hleft : links.Linked left) (hright : links.Linked right)
    (hhead : links.head left = links.head right) : List.Forall₂ same left right := by
  induction left using List.reverseRecOn generalizing right with
  | nil =>
    cases right using List.reverseRecOn with
    | nil => exact .nil
    | append_singleton right other => simp at hhead
  | append_singleton left one ih =>
    cases right using List.reverseRecOn with
    | nil => simp at hhead
    | append_singleton right other =>
      rw [linked_concat] at hleft hright
      rw [head_concat, head_concat, Option.some.injEq] at hhead
      have hsame : same one other := hdetermined one (by simp) other (by simp) hhead
      have hbefore : links.head left = links.head right := by
        rw [← hleft.2, ← hright.2]
        exact hprevious one other hsame
      have hrest : List.Forall₂ same left right :=
        ih (fun item hitem item' hitem' => hdetermined item (by simp [hitem]) item' (by simp [hitem']))
          hleft.1 hright.1 hbefore
      exact List.rel_append hrest (.cons hsame .nil)

end HashLinks

end KubeOps.Foundation
