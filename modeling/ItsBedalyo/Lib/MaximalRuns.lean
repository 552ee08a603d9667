import Mathlib.Data.List.TakeWhile
import Mathlib.Data.Nat.Digits.Defs

/-!
# Maximal runs

The runs of a list are its longest stretches of elements that have a property: each is as long as
it can be. Splitting at the elements without the property finds exactly these (`mem_splitOnP_iff`).
Runs of decimal digits are read as numbers.
-/

namespace MaximalRuns

variable {α : Type*} (p : α → Bool)

/-- A stretch of elements with the property, and none with it on either side. -/
structure Delimited (before run after : List α) : Prop where
  ne_nil : run ≠ []
  all : ∀ a ∈ run, p a = true
  last : ∀ a ∈ before.getLast?, p a = false
  head : ∀ a ∈ after.head?, p a = false

/-- `run` is a run of `l`. -/
def IsRun (run l : List α) : Prop :=
  ∃ before after, Delimited p before run after ∧ l = before ++ run ++ after

variable {p} {run l : List α}

/-- The run at the beginning. -/
theorem delimited_nil_iff : (∃ after, Delimited p [] run after ∧ l = run ++ after) ↔
    run ≠ [] ∧ run = l.takeWhile p := by
  constructor
  · rintro ⟨after, h, rfl⟩
    refine ⟨h.ne_nil, ?_⟩
    have hafter : after.takeWhile p = [] := by
      cases after with
      | nil => rfl
      | cons a after => exact List.takeWhile_cons_of_neg (by simp [h.head a rfl])
    rw [List.takeWhile_append_of_pos h.all, hafter, List.append_nil]
  · rintro ⟨hne, hrun⟩
    refine ⟨l.dropWhile p, ⟨hne, fun a ha => ?_, fun a ha => ?_, fun a ha => ?_⟩, ?_⟩
    · rw [hrun] at ha
      exact List.mem_takeWhile_imp ha
    · cases ha
    · have hhead := List.head?_dropWhile_not p l
      rw [Option.mem_def.mp ha] at hhead
      simpa using hhead
    · rw [hrun, List.takeWhile_append_dropWhile]

theorem splitOnP_eq_cons (l : List α) :
    l.splitOnP (fun a => !p a) = l.takeWhile p :: (l.splitOnP fun a => !p a).tail := by
  induction l with
  | nil => rfl
  | cons a l ih =>
    rw [List.splitOnP_cons_eq_if_modifyHead]
    cases hp : p a with
    | false => rw [List.takeWhile_cons_of_neg (by simp [hp])]; rfl
    | true =>
      rw [List.takeWhile_cons_of_pos hp]
      rw [ih]
      rfl

/-- The runs behind the first piece. -/
theorem mem_tail_splitOnP_iff (hne : run ≠ []) : run ∈ (l.splitOnP fun a => !p a).tail ↔
    ∃ before after, before ≠ [] ∧ Delimited p before run after ∧ l = before ++ run ++ after := by
  induction l with
  | nil =>
    refine iff_of_false List.not_mem_nil ?_
    rintro ⟨before, after, hbefore, -, heq⟩
    exact hbefore (List.append_eq_nil_iff.mp (List.append_eq_nil_iff.mp heq.symm).1).1
  | cons a l ih =>
    rw [List.splitOnP_cons_eq_if_modifyHead]
    cases hp : p a with
    | false =>
      have hsplit : run ∈ l.splitOnP (fun a => !p a) ↔
          (∃ after, Delimited p [] run after ∧ l = run ++ after) ∨
            run ∈ (l.splitOnP fun a => !p a).tail := by
        rw [delimited_nil_iff, and_iff_right hne, splitOnP_eq_cons, List.mem_cons]
        rfl
      show run ∈ l.splitOnP (fun a => !p a) ↔ _
      rw [hsplit, ih]
      constructor
      · rintro (⟨after, h, rfl⟩ | ⟨before, after, hbefore, h, rfl⟩)
        · refine ⟨[a], after, List.cons_ne_nil a [], ⟨hne, h.all, fun b hb => ?_, h.head⟩, rfl⟩
          rw [← Option.some.inj hb]
          exact hp
        · refine ⟨a :: before, after, List.cons_ne_nil _ _, ⟨hne, h.all, fun b hb => ?_, h.head⟩,
            rfl⟩
          rw [List.getLast?_cons_of_ne_nil hbefore] at hb
          exact h.last b hb
      · rintro ⟨before, after, hbefore, h, heq⟩
        obtain ⟨b, before, rfl⟩ := List.exists_cons_of_ne_nil hbefore
        obtain ⟨rfl, rfl⟩ := List.cons.inj heq
        by_cases hnil : before = []
        · subst hnil
          have hlast : ∀ b ∈ ([] : List α).getLast?, p b = false :=
            fun b hb => absurd hb (Option.not_mem_none b)
          exact .inl ⟨after, ⟨hne, h.all, hlast, h.head⟩, rfl⟩
        · refine .inr ⟨before, after, hnil, ⟨hne, h.all, fun b hb => h.last b ?_, h.head⟩, rfl⟩
          rwa [List.getLast?_cons_of_ne_nil hnil]
    | true =>
      have htail : ((l.splitOnP fun a => !p a).modifyHead (List.cons a)).tail =
          (l.splitOnP fun a => !p a).tail := by
        rw [splitOnP_eq_cons]
        rfl
      show run ∈ ((l.splitOnP fun a => !p a).modifyHead (List.cons a)).tail ↔ _
      rw [htail, ih]
      constructor
      · rintro ⟨before, after, hbefore, h, rfl⟩
        refine ⟨a :: before, after, List.cons_ne_nil _ _, ⟨hne, h.all, fun b hb => ?_, h.head⟩, rfl⟩
        rw [List.getLast?_cons_of_ne_nil hbefore] at hb
        exact h.last b hb
      · rintro ⟨before, after, hbefore, h, heq⟩
        obtain ⟨b, before, rfl⟩ := List.exists_cons_of_ne_nil hbefore
        obtain ⟨rfl, rfl⟩ := List.cons.inj heq
        -- the element before the run does not have the property, so it is not this one
        have hnil : before ≠ [] := by
          rintro rfl
          rw [h.last a rfl] at hp
          cases hp
        refine ⟨before, after, hnil, ⟨hne, h.all, fun b hb => h.last b ?_, h.head⟩, rfl⟩
        rwa [List.getLast?_cons_of_ne_nil hnil]

/-- **Splitting finds the runs.** -/
theorem mem_splitOnP_iff :
    run ∈ (l.splitOnP fun a => !p a).filter (· ≠ []) ↔ IsRun p run l := by
  rw [List.mem_filter, decide_eq_true_eq, splitOnP_eq_cons, List.mem_cons]
  constructor
  · rintro ⟨hrun | hrun, hne⟩
    · obtain ⟨after, h, heq⟩ := delimited_nil_iff.mpr ⟨hne, hrun⟩
      exact ⟨[], after, h, heq⟩
    · obtain ⟨before, after, -, h, heq⟩ := (mem_tail_splitOnP_iff hne).mp hrun
      exact ⟨before, after, h, heq⟩
  · rintro ⟨before, after, h, heq⟩
    refine ⟨?_, h.ne_nil⟩
    by_cases hnil : before = []
    · subst hnil
      exact .inl (delimited_nil_iff.mp ⟨after, h, heq⟩).2
    · exact .inr ((mem_tail_splitOnP_iff h.ne_nil).mpr ⟨before, after, hnil, h, heq⟩)

/-- A run of a beginning that ends before an element without the property. -/
theorem IsRun.of_takeWhile {q : α → Bool} (hq : ∀ a, q a = false → p a = false)
    (h : IsRun p run (l.takeWhile q)) : IsRun p run l := by
  obtain ⟨before, after, hrun, heq⟩ := h
  refine ⟨before, after ++ l.dropWhile q, ⟨hrun.ne_nil, hrun.all, hrun.last, fun a ha => ?_⟩, ?_⟩
  · cases after with
    | nil =>
      have hhead := List.head?_dropWhile_not q l
      rw [List.nil_append, Option.mem_def] at ha
      rw [ha] at hhead
      exact hq a hhead
    | cons b after => exact hrun.head a ha
  · rw [← List.append_assoc, ← heq, List.takeWhile_append_dropWhile]

/-! ### Numbers -/

/-- The number that decimal digits stand for. -/
def decimal (digits : List Char) : ℕ :=
  Nat.ofDigits 10 (digits.map fun c => c.toNat - '0'.toNat).reverse

theorem decimal_eq_foldl (digits : List Char) :
    decimal digits = digits.foldl (fun n c => 10 * n + (c.toNat - '0'.toNat)) 0 := by
  rw [decimal, Nat.ofDigits_eq_foldr, List.foldr_reverse, List.foldl_map]
  congr 1
  funext n c
  exact Nat.add_comm _ _

/-- A number in a text: a run of digits. -/
def HasNumber (s : String) (n : ℕ) : Prop :=
  ∃ run, IsRun Char.isDigit run s.toList ∧ decimal run = n

/-- The largest number in a text. -/
def IsLargest (s : String) (n : ℕ) : Prop := HasNumber s n ∧ ∀ m, HasNumber s m → m ≤ n

/-- The largest number in a text, and 0 if there is none. -/
def largest (s : String) : ℕ :=
  ((s.toList.splitOnP fun c => !c.isDigit).filter (· ≠ [])).foldl
    (fun m run => max m (decimal run)) 0

theorem hasNumber_iff {s : String} {n : ℕ} : HasNumber s n ↔
    ∃ run ∈ (s.toList.splitOnP fun c => !c.isDigit).filter (· ≠ []), decimal run = n := by
  simp only [HasNumber, mem_splitOnP_iff]

theorem foldl_max_eq {f : α → ℕ} {n m : ℕ} (hle : ∀ a ∈ l, f a ≤ n) (hm : m ≤ n)
    (h : m = n ∨ ∃ a ∈ l, f a = n) : l.foldl (fun m a => max m (f a)) m = n := by
  induction l generalizing m with
  | nil =>
    obtain rfl | ⟨a, ha, -⟩ := h
    · rfl
    · cases ha
  | cons a l ih =>
    have hrest : ∀ b ∈ l, f b ≤ n := fun b hb => hle b (List.mem_cons_of_mem a hb)
    have ha : f a ≤ n := hle a List.mem_cons_self
    refine ih hrest (max_le hm ha) ?_
    obtain rfl | ⟨b, hb, hfb⟩ := h
    · exact .inl (max_eq_left ha)
    · rcases List.mem_cons.mp hb with rfl | hb
      · exact .inl ((congrArg (max m) hfb).trans (max_eq_right hm))
      · exact .inr ⟨b, hb, hfb⟩

theorem IsLargest.largest_eq {s : String} {n : ℕ} (h : IsLargest s n) : largest s = n := by
  refine foldl_max_eq (fun run hrun => h.2 _ (hasNumber_iff.mpr ⟨run, hrun, rfl⟩)) (Nat.zero_le n)
    (.inr ?_)
  exact hasNumber_iff.mp h.1

end MaximalRuns
