import Mathlib.Data.List.Basic

/-!
# Since

In a history, `Since opens closes` is that something has been opened and not been closed after that.
One more event either opens it, or leaves it as it was unless the event closes it.
-/

namespace List

variable {α : Type*} {opens closes : α → Prop} {l : List α} {a : α}

/-- Some element `opens`, and none after it `closes`. -/
def Since (opens closes : α → Prop) (l : List α) : Prop :=
  ∃ before a after, l = before ++ a :: after ∧ opens a ∧ ∀ b ∈ after, ¬closes b

theorem not_since_nil : ¬Since opens closes [] := by
  rintro ⟨before, a, after, hl, -, -⟩
  exact List.append_ne_nil_of_right_ne_nil before (List.cons_ne_nil a after) hl.symm

/-- **One more event.** -/
theorem since_concat :
    Since opens closes (l ++ [a]) ↔ opens a ∨ Since opens closes l ∧ ¬closes a := by
  constructor
  · rintro ⟨before, b, after, hl, hb, hafter⟩
    rcases List.eq_nil_or_concat after with rfl | ⟨after, c, rfl⟩
    · have hba := (List.append_inj' hl rfl).2
      rw [List.cons.injEq] at hba
      exact .inl (hba.1 ▸ hb)
    · rw [List.concat_eq_append, ← List.cons_append, ← List.append_assoc] at hl
      obtain ⟨hl, hac⟩ := List.append_inj' hl rfl
      rw [List.cons.injEq] at hac
      refine .inr ⟨⟨before, b, after, hl, hb, fun d hd => ?_⟩, ?_⟩
      · exact hafter d (by simp [hd])
      · exact hac.1 ▸ hafter c (by simp)
  · rintro (ha | ⟨⟨before, b, after, rfl, hb, hafter⟩, ha⟩)
    · exact ⟨l, a, [], rfl, ha, fun _ hb => absurd hb List.not_mem_nil⟩
    · refine ⟨before, b, after ++ [a], by simp, hb, fun d hd => ?_⟩
      rcases List.mem_append.mp hd with hd | hd
      · exact hafter d hd
      · rwa [List.mem_singleton.mp hd]

end List
