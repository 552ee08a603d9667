import ItsBedalyo.Lib.Since
import Mathlib.Data.List.Induction
import Mathlib.Data.List.Pairwise

/-!
# Journals

A journal lists what has been done, by whom, the oldest first. `Throughout` asks something of every
entry and the entries before it, `own` is what one party has done, and `Lasting` is what held at
first or has been opened, and has not been closed after that.
-/

namespace Journal

variable {α β ι ε : Type*}

/-! ### Every entry -/

section Throughout

variable {P Q : List α → α → Prop} {l : List α} {a : α}

/-- Every entry stands in this relation to the ones before it. -/
def Throughout (P : List α → α → Prop) (l : List α) : Prop :=
  ∀ before a after, l = before ++ a :: after → P before a

theorem throughout_nil : Throughout P [] := fun before a after h =>
  absurd h.symm (List.append_ne_nil_of_right_ne_nil before (List.cons_ne_nil a after))

/-- **One more entry.** -/
theorem throughout_concat : Throughout P (l ++ [a]) ↔ Throughout P l ∧ P l a := by
  constructor
  · intro h
    refine ⟨fun before b after hl => ?_, h l a [] rfl⟩
    exact h before b (after ++ [a]) (by rw [hl, List.append_assoc, List.cons_append])
  · rintro ⟨h, ha⟩ before b after hl
    rcases List.eq_nil_or_concat after with rfl | ⟨after, c, rfl⟩
    · obtain ⟨rfl, hab⟩ := List.append_inj' hl rfl
      rw [List.cons.injEq] at hab
      exact hab.1 ▸ ha
    · rw [List.concat_eq_append, ← List.cons_append, ← List.append_assoc] at hl
      exact h before b after (List.append_inj' hl rfl).1

/-- What holds of an entry, wherever it stands. -/
theorem Throughout.of_mem {R : α → Prop} (hPR : ∀ before a, P before a → R a)
    (h : Throughout P l) (ha : a ∈ l) : R a := by
  obtain ⟨before, after, rfl⟩ := List.append_of_mem ha
  exact hPR before a (h before a after rfl)

/-- The beginning of a journal. -/
theorem Throughout.of_append {before after : List α} (h : Throughout P l)
    (hl : l = before ++ after) : Throughout P before := by
  rintro earlier b later rfl
  exact h earlier b (later ++ after) (by rw [hl, List.append_assoc, List.cons_append])

/-- Any two entries, the earlier one first. -/
theorem Throughout.pairwise {R : α → α → Prop} (h : Throughout P l)
    (hPR : ∀ before b, P before b → ∀ a ∈ before, R a b) : l.Pairwise R := by
  induction l using List.reverseRecOn with
  | nil => exact .nil
  | append_singleton l b ih =>
    obtain ⟨hl, hb⟩ := throughout_concat.mp h
    refine List.pairwise_append.mpr ⟨ih hl, List.pairwise_singleton R b, fun a ha c hc => ?_⟩
    rw [List.mem_singleton.mp hc]
    exact hPR l b hb a ha

/-- Entries of a kind that no entry may be of after another one are the same. -/
theorem Throughout.eq_of_mem {S : α → α → Prop} (h : Throughout P l)
    (hsymm : ∀ a b, S a b → S b a) (hP : ∀ before b, P before b → ∀ a ∈ before, ¬S a b) {a b : α}
    (ha : a ∈ l) (hb : b ∈ l) (hab : S a b) : a = b := by
  by_contra hne
  have : Std.Symm fun a b => ¬S a b := ⟨fun a b hnot h => hnot (hsymm b a h)⟩
  exact (h.pairwise hP).forall ha hb hne hab

end Throughout

/-! ### What one party has done -/

section Own

variable [DecidableEq ι] {log log' : List (ι × ε)} {t u : ι} {event : ε}

/-- What `t` has done. -/
def own (log : List (ι × ε)) (t : ι) : List ε :=
  log.filterMap fun entry => if entry.1 = t then some entry.2 else none

@[simp] theorem own_nil : own ([] : List (ι × ε)) t = [] := rfl

@[simp] theorem own_append : own (log ++ log') t = own log t ++ own log' t :=
  List.filterMap_append

@[simp] theorem own_self (events : List ε) : own (events.map fun e => (t, e)) t = events := by
  rw [own, List.filterMap_map]
  exact (List.filterMap_congr fun e _ => if_pos rfl).trans List.filterMap_some

theorem own_other (h : t ≠ u) (events : List ε) : own (events.map fun e => (t, e)) u = [] := by
  rw [own, List.filterMap_map, List.filterMap_eq_nil_iff]
  exact fun e _ => if_neg h

theorem mem_own : event ∈ own log t ↔ (t, event) ∈ log := by
  simp only [own, List.mem_filterMap, Option.ite_none_right_eq_some, Option.some.injEq]
  constructor
  · rintro ⟨entry, hmem, rfl, rfl⟩
    exact hmem
  · intro hmem
    exact ⟨_, hmem, rfl, rfl⟩

/-- **Who has done more.** -/
theorem own_concat (events : List ε) : own (log ++ events.map fun e => (t, e)) =
    Function.update (own log) t (own log t ++ events) := by
  funext u
  rw [own_append]
  rcases eq_or_ne u t with rfl | hne
  · rw [own_self, Function.update_self]
  · rw [own_other hne.symm, List.append_nil, Function.update_of_ne hne]

end Own

/-! ### What lasts -/

section Lasting

variable {first : Prop} {opens closes : α → Prop} {l : List α} {a : α}

/-- It held at first, or has been opened, and has not been closed after that. -/
def Lasting (first : Prop) (opens closes : α → Prop) (l : List α) : Prop :=
  first ∧ (∀ a ∈ l, ¬closes a) ∨ l.Since opens closes

theorem lasting_nil : Lasting first opens closes [] ↔ first := by
  simp [Lasting, List.not_since_nil]

/-- **One more entry.** -/
theorem lasting_concat : Lasting first opens closes (l ++ [a]) ↔
    opens a ∨ Lasting first opens closes l ∧ ¬closes a := by
  simp only [Lasting, List.since_concat, List.forall_mem_append, List.forall_mem_singleton]
  tauto

end Lasting

end Journal
