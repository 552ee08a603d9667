import Mathlib.Data.List.Nodup

/-!
# Rows with a key

In a list whose elements have different keys, a key picks out one element. Rows that are added at
the end are picked out, or not, as a whole.
-/

namespace List

variable {α β : Type*} [DecidableEq β] {key : α → β} {l : List α} {x : α}

/-- Looking for the key of an element finds that element only. -/
theorem filter_key_eq (h : (l.map key).Nodup) (hx : x ∈ l) :
    (l.filter fun y => key y = key x) = [x] := by
  induction l with
  | nil => cases hx
  | cons first l ih =>
    obtain ⟨hfirst, hrest⟩ := List.nodup_cons.mp h
    rcases List.mem_cons.mp hx with rfl | hx
    · rw [List.filter_cons_of_pos (by simp), List.filter_eq_nil_iff.mpr]
      intro y hy hkey
      exact hfirst (of_decide_eq_true hkey ▸ List.mem_map_of_mem hy)
    · have hne : key first ≠ key x := by
        intro hkey
        exact hfirst (hkey ▸ List.mem_map_of_mem hx)
      rw [List.filter_cons_of_neg (by simpa using hne)]
      exact ih hrest hx

theorem find?_key_eq (h : (l.map key).Nodup) (hx : x ∈ l) :
    (l.find? fun y => key y = key x) = some x := by
  rw [← List.head?_filter, filter_key_eq h hx]
  rfl

/-- Rows that are all picked out, after rows none of which is. -/
theorem filter_append_eq_right {p : α → Bool} {l' : List α} (hold : ∀ x ∈ l, ¬p x)
    (hnew : ∀ x ∈ l', p x) : (l ++ l').filter p = l' := by
  rw [List.filter_append, List.filter_eq_nil_iff.mpr hold, List.filter_eq_self.mpr hnew,
    List.nil_append]

/-- Rows of which none is picked out. -/
theorem filter_append_eq_left {p : α → Bool} {l' : List α} (hnew : ∀ x ∈ l', ¬p x) :
    (l ++ l').filter p = l.filter p := by
  rw [List.filter_append, List.filter_eq_nil_iff.mpr hnew, List.append_nil]

end List
