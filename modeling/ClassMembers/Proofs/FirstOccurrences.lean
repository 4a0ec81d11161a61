/-
This file holds what lists are without what occurs again. Of equal elements the first one
stays, so the elements keep the order in which they first occur. That is what becomes of a
list which takes in one element after the other, each unless it is there, as the indexes and
sets of this library do.
-/

import Mathlib

namespace ClassMembers

theorem eraseDups_concat {α : Type} [DecidableEq α] (list : List α) (last : α) :
    (list ++ [last]).eraseDups = list.eraseDups ++ if last ∈ list then [] else [last] := by
  rw [List.eraseDups_append]
  by_cases known : last ∈ list <;> simp [List.removeAll, List.eraseDups_cons, known]

theorem removeAll_concat {α : Type} [DecidableEq α] (list known : List α) (last : α) :
    (list ++ [last]).removeAll known =
      list.removeAll known ++ if last ∈ known then [] else [last] := by
  rw [List.removeAll, List.filter_append]
  by_cases met : last ∈ known <;> simp [List.removeAll, met]

/-- Elements that occur already make no difference. -/
theorem eraseDups_append_of_subset {α : Type} [DecidableEq α] {list again : List α}
    (known : ∀ element ∈ again, element ∈ list) :
    (list ++ again).eraseDups = list.eraseDups := by
  have nothing : again.removeAll list = [] := by
    simpa [List.removeAll, List.filter_eq_nil_iff] using known
  rw [List.eraseDups_append, nothing, List.eraseDups_nil, List.append_nil]

/-- What occurs again may be left out before a view is taken as well as after it. -/
theorem eraseDups_map_eraseDups {α β : Type} [DecidableEq α] [DecidableEq β] (view : α → β)
    (list : List α) : (list.eraseDups.map view).eraseDups = (list.map view).eraseDups := by
  induction list using List.reverseRecOn with
  | nil => rfl
  | append_singleton list last hypothesis =>
    rw [List.map_append, List.map_singleton, eraseDups_concat, eraseDups_concat, ← hypothesis]
    by_cases known : last ∈ list
    · rw [if_pos known, if_pos (List.mem_map_of_mem known), List.append_nil, List.append_nil]
    · have same : view last ∈ list.eraseDups.map view ↔ view last ∈ list.map view := by
        simp only [List.mem_map, List.mem_eraseDups]
      rw [if_neg known, List.map_append, List.map_singleton, eraseDups_concat]
      simp only [same]

/-! ### Lists that grow by what is new -/

section Growing

variable {σ ε α : Type} [DecidableEq α] {view : σ → List α} {key : ε → α} {step : σ → ε → σ}

/-- If each step puts its key behind a list unless it is there, the list begins as it was, and
new keys stand behind it in the order in which they first occur. -/
theorem view_foldl
    (grows : ∀ state element, view (step state element) =
      if key element ∈ view state then view state else view state ++ [key element])
    (start : σ) (list : List ε) :
    view (list.foldl step start) =
      view start ++ ((list.map key).removeAll (view start)).eraseDups := by
  induction list using List.reverseRecOn with
  | nil => exact (List.append_nil _).symm
  | append_singleton list last hypothesis =>
    rw [List.foldl_append, List.foldl_cons, List.foldl_nil, grows, hypothesis, List.map_append,
      List.map_singleton, removeAll_concat]
    by_cases known : key last ∈ view start
    · rw [if_pos (List.mem_append_left _ known), if_pos known, List.append_nil]
    · have new : key last ∈ view start ++ ((list.map key).removeAll (view start)).eraseDups ↔
          key last ∈ (list.map key).removeAll (view start) := by
        rw [List.mem_append, List.mem_eraseDups, or_iff_right known]
      rw [if_neg known, eraseDups_concat]
      by_cases met : key last ∈ (list.map key).removeAll (view start)
      · rw [if_pos (new.mpr met), if_pos met, List.append_nil]
      · rw [if_neg (mt new.mp met), if_neg met, List.append_assoc]

/-- From the empty list, these are all keys. -/
theorem view_foldl_of_nil
    (grows : ∀ state element, view (step state element) =
      if key element ∈ view state then view state else view state ++ [key element])
    {start : σ} (empty : view start = []) (list : List ε) :
    view (list.foldl step start) = (list.map key).eraseDups := by
  rw [view_foldl grows, empty, List.nil_append]
  simp [List.removeAll]

end Growing

end ClassMembers
