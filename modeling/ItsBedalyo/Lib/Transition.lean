import Mathlib.Data.List.Induction

/-!
# Runs of a partial step function

A system is a partial step function `step : σ → α → Option σ`: a label `α` records who moves
and what the environment answers, so that a step is a function of state and label, and
`none` says that the label is not enabled. A run is a list of labels.

`Along step P s l` asks `P` of every state and label that the run `l` from `s` executes,
*before* the step is taken; `Always step I s l` asks `I` of every state the run visits. The
rules of this file move between the two: an inductive invariant holds always
(`always_of_forall`), a condition on the steps carries an invariant
(`always_of_along`), and a condition that is exact step by step is exact on runs
(`always_iff_along`).
-/

namespace Transition

variable {σ α : Type*} (step : σ → α → Option σ)

/-- The state after a list of labels, `none` as soon as a label is not enabled. -/
def run : σ → List α → Option σ
  | s, [] => some s
  | s, a :: l => (step s a).bind fun s' => run s' l

/-- Every step executed by the run `l` from `s` meets `P` in the state before it. -/
def Along (P : σ → α → Prop) : σ → List α → Prop
  | _, [] => True
  | s, a :: l => ∀ s', step s a = some s' → P s a ∧ Along P s' l

/-- Every state visited by the run `l` from `s`, the first included, satisfies `I`. -/
def Always (I : σ → Prop) : σ → List α → Prop
  | s, [] => I s
  | s, a :: l => I s ∧ ∀ s', step s a = some s' → Always I s' l

variable {step}

@[simp] theorem run_nil (s : σ) : run step s [] = some s := rfl

theorem run_cons_eq_some {s s' : σ} {a : α} {l : List α} :
    run step s (a :: l) = some s' ↔ ∃ s₁, step s a = some s₁ ∧ run step s₁ l = some s' :=
  Option.bind_eq_some_iff

theorem run_append (s : σ) (l l' : List α) :
    run step s (l ++ l') = (run step s l).bind fun s' => run step s' l' := by
  induction l generalizing s with
  | nil => rfl
  | cons a l ih =>
    simp only [List.cons_append, run]
    cases step s a with
    | none => rfl
    | some s₁ => exact ih s₁

theorem run_concat_eq_some {s s' : σ} {a : α} {l : List α} :
    run step s (l ++ [a]) = some s' ↔ ∃ s₁, run step s l = some s₁ ∧ step s₁ a = some s' := by
  rw [run_append, Option.bind_eq_some_iff]
  simp only [run, Option.bind_fun_some]

/-- **History rule.** What holds of the empty run and survives one more step, as a relation
between the labels so far and the state, holds of every run. -/
theorem run_history {I : List α → σ → Prop} {s₀ : σ} (hinit : I [] s₀)
    (hstep : ∀ l s a s', I l s → step s a = some s' → I (l ++ [a]) s') :
    ∀ {l : List α} {s : σ}, run step s₀ l = some s → I l s := by
  intro l
  induction l using List.reverseRecOn with
  | nil =>
    rintro s ⟨⟩
    exact hinit
  | append_singleton l a ih =>
    intro s hr
    obtain ⟨s₁, hr₁, hs⟩ := run_concat_eq_some.mp hr
    exact hstep l s₁ a s (ih hr₁) hs

/-- Two runs in a row. -/
theorem run_append_of_eq_some {s s₁ s₂ : σ} {l l' : List α} (h : run step s l = some s₁)
    (h' : run step s₁ l' = some s₂) : run step s (l ++ l') = some s₂ := by
  rw [run_append, h]
  exact h'

/-- One state can be reached from another. -/
def Reaches (step : σ → α → Option σ) (s s' : σ) : Prop := ∃ l, run step s l = some s'

theorem Reaches.refl (s : σ) : Reaches step s s := ⟨[], rfl⟩

theorem Reaches.of_step {s s' : σ} {a : α} (h : step s a = some s') : Reaches step s s' :=
  ⟨[a], run_cons_eq_some.mpr ⟨s', h, rfl⟩⟩

theorem Reaches.trans {s s₁ s₂ : σ} (h : Reaches step s s₁) (h' : Reaches step s₁ s₂) :
    Reaches step s s₂ := by
  obtain ⟨l, hl⟩ := h
  obtain ⟨l', hl'⟩ := h'
  exact ⟨l ++ l', run_append_of_eq_some hl hl'⟩

/-- What one system reaches, a system that simulates its steps reaches too. -/
theorem Reaches.map {τ β : Type*} {step' : τ → β → Option τ} (f : σ → τ) (g : α → β)
    (hsim : ∀ s a s', step s a = some s' → step' (f s) (g a) = some (f s')) {s s' : σ}
    (h : Reaches step s s') : Reaches step' (f s) (f s') := by
  obtain ⟨l, hl⟩ := h
  induction l generalizing s with
  | nil =>
    obtain rfl := Option.some.inj hl
    exact .refl _
  | cons a l ih =>
    obtain ⟨s₁, hs, hr⟩ := run_cons_eq_some.mp hl
    exact (Reaches.of_step (hsim s a s₁ hs)).trans (ih hr)

theorem Along.mono {P Q : σ → α → Prop} (hPQ : ∀ s a, P s a → Q s a) :
    ∀ {l : List α} {s : σ}, Along step P s l → Along step Q s l
  | [], _, _ => trivial
  | a :: _, s, h => fun s' hs => ⟨hPQ s a (h s' hs).1, (h s' hs).2.mono hPQ⟩

theorem along_of_forall {P : σ → α → Prop} (h : ∀ s a, P s a) :
    ∀ {l : List α} {s : σ}, Along step P s l
  | [], _ => trivial
  | a :: _, s => fun _ _ => ⟨h s a, along_of_forall h⟩

/-- The steps of a run are taken in the states that its prefixes reach. -/
theorem along_visited :
    ∀ {l : List α} {s : σ},
      Along step (fun s' _ => ∃ l₁, l₁ <+: l ∧ run step s l₁ = some s') s l
  | [], _ => trivial
  | a :: _, s => fun s' hs => by
    refine ⟨⟨[], List.nil_prefix, rfl⟩, along_visited.mono fun s'' _ ⟨l₁, hprefix, hr⟩ => ?_⟩
    exact ⟨a :: l₁, List.prefix_cons_inj a |>.mpr hprefix, run_cons_eq_some.mpr ⟨s', hs, hr⟩⟩

/-- Two conditions on the steps of a run. -/
theorem Along.and {P Q : σ → α → Prop} :
    ∀ {l : List α} {s : σ}, Along step P s l → Along step Q s l →
      Along step (fun s a => P s a ∧ Q s a) s l
  | [], _, _, _ => trivial
  | _ :: _, _, h, h' => fun s' hs =>
    ⟨⟨(h s' hs).1, (h' s' hs).1⟩, (h s' hs).2.and (h' s' hs).2⟩

theorem Always.mono {I J : σ → Prop} (hIJ : ∀ s, I s → J s) :
    ∀ {l : List α} {s : σ}, Always step I s l → Always step J s l
  | [], s, h => hIJ s h
  | _ :: _, s, h => ⟨hIJ s h.1, fun s' hs => (h.2 s' hs).mono hIJ⟩

/-- What holds always holds at the end of the run. -/
theorem Always.and {I J : σ → Prop} :
    ∀ {l : List α} {s : σ}, Always step I s l → Always step J s l →
      Always step (fun s => I s ∧ J s) s l
  | [], _, h, h' => ⟨h, h'⟩
  | _ :: _, _, h, h' => ⟨⟨h.1, h'.1⟩, fun s' hs => (h.2 s' hs).and (h'.2 s' hs)⟩

/-- What a condition entails on the steps out of the states a run visits it entails on the run. -/
theorem Always.along_mono {J : σ → Prop} {P Q : σ → α → Prop}
    (hPQ : ∀ s a s', J s → step s a = some s' → P s a → Q s a) :
    ∀ {l : List α} {s : σ}, Always step J s l → Along step P s l → Along step Q s l
  | [], _, _, _ => trivial
  | a :: _, s, h, hP => fun s' hs =>
    ⟨hPQ s a s' h.1 hs (hP s' hs).1, (h.2 s' hs).along_mono hPQ (hP s' hs).2⟩

/-- Two conditions that agree on the steps out of the states a run visits agree on the run. -/
theorem Always.along_congr {J : σ → Prop} {P Q : σ → α → Prop}
    (hPQ : ∀ s a s', J s → step s a = some s' → (P s a ↔ Q s a)) {l : List α} {s : σ}
    (h : Always step J s l) : Along step P s l ↔ Along step Q s l :=
  ⟨h.along_mono fun s a s' hj hs => (hPQ s a s' hj hs).mp,
   h.along_mono fun s a s' hj hs => (hPQ s a s' hj hs).mpr⟩

/-- The steps of the second part of a run. -/
theorem Along.of_append {P : σ → α → Prop} {l' : List α} :
    ∀ {l : List α} {s s₁ : σ}, Along step P s (l ++ l') → run step s l = some s₁ →
      Along step P s₁ l'
  | [], s, s₁, h, hr => by
    obtain rfl := Option.some.inj hr
    exact h
  | a :: l, s, s₁, h, hr => by
    obtain ⟨s₂, hs, hr'⟩ := run_cons_eq_some.mp hr
    exact (h s₂ hs).2.of_append hr'

theorem Always.first {I : σ → Prop} {l : List α} {s : σ} (h : Always step I s l) : I s := by
  cases l with
  | nil => exact h
  | cons a l => exact h.1

theorem Always.last {I : σ → Prop} :
    ∀ {l : List α} {s s' : σ}, Always step I s l → run step s l = some s' → I s'
  | [], s, s', h, hr => by
    cases hr
    exact h
  | a :: l, s, s', h, hr => by
    obtain ⟨s₁, hs, hr'⟩ := run_cons_eq_some.mp hr
    exact (h.2 s₁ hs).last hr'

/-- **Step rule.** A condition on the steps under which `I` is preserved carries `I` along
every run whose steps meet it. -/
theorem always_of_along {I : σ → Prop} {P : σ → α → Prop}
    (hstep : ∀ s a s', I s → P s a → step s a = some s' → I s') :
    ∀ {l : List α} {s : σ}, I s → Along step P s l → Always step I s l
  | [], _, hI, _ => hI
  | _ :: _, _, hI, hP =>
    ⟨hI, fun s' hs => always_of_along hstep (hstep _ _ s' hI (hP s' hs).1 hs) (hP s' hs).2⟩

/-- **Invariant rule.** An inductive invariant holds in every state of every run. -/
theorem always_of_forall {I : σ → Prop} (hstep : ∀ s a s', I s → step s a = some s' → I s')
    {l : List α} {s : σ} (hI : I s) : Always step I s l := by
  induction l generalizing s with
  | nil => exact hI
  | cons a l ih => exact ⟨hI, fun s' hs => ih (hstep s a s' hI hs)⟩

/-- An inductive invariant survives a run. -/
theorem invariant_run {I : σ → Prop} (hstep : ∀ s a s', I s → step s a = some s' → I s')
    {l : List α} {s s' : σ} (hI : I s) (hr : run step s l = some s') : I s' :=
  (always_of_forall hstep hI).last hr

/-- **Exact step rule, along a guard.** Under an auxiliary invariant `J`, and as long as the steps
meet `G`, if a step out of an `I`-state ends in an `I`-state exactly when `P` held before it, then
the runs that stay in `I` are exactly the runs whose steps meet `P`. -/
theorem always_iff_along_of_along {I J : σ → Prop} {G P : σ → α → Prop}
    (hJ : ∀ s a s', J s → G s a → step s a = some s' → J s')
    (hstep : ∀ s a s', J s → I s → G s a → step s a = some s' → (I s' ↔ P s a)) :
    ∀ {l : List α} {s : σ}, J s → I s → Along step G s l →
      (Always step I s l ↔ Along step P s l)
  | [], _, _, hI, _ => iff_of_true hI trivial
  | a :: l, s, hj, hI, hG => by
    constructor
    · rintro ⟨-, h⟩ s' hs
      obtain ⟨hg, hG'⟩ := hG s' hs
      have hj' : J s' := hJ s a s' hj hg hs
      have hI' : I s' := (h s' hs).first
      refine ⟨(hstep s a s' hj hI hg hs).mp hI', ?_⟩
      exact (always_iff_along_of_along hJ hstep hj' hI' hG').mp (h s' hs)
    · intro h
      refine ⟨hI, fun s' hs => ?_⟩
      obtain ⟨hg, hG'⟩ := hG s' hs
      have hj' : J s' := hJ s a s' hj hg hs
      have hI' : I s' := (hstep s a s' hj hI hg hs).mpr (h s' hs).1
      exact (always_iff_along_of_along hJ hstep hj' hI' hG').mpr (h s' hs).2

/-- **Exact step rule.** The rule without a guard. -/
theorem always_iff_along {I J : σ → Prop} {P : σ → α → Prop}
    (hJ : ∀ s a s', J s → step s a = some s' → J s')
    (hstep : ∀ s a s', J s → I s → step s a = some s' → (I s' ↔ P s a)) {l : List α} {s : σ}
    (hj : J s) (hI : I s) : Always step I s l ↔ Along step P s l :=
  always_iff_along_of_along (G := fun _ _ => True) (fun s a s' hj _ => hJ s a s' hj)
    (fun s a s' hj hI _ => hstep s a s' hj hI) hj hI (along_of_forall fun _ _ => trivial)

/-- The same rule, with the first state on the right. -/
theorem always_iff_and_along {I J : σ → Prop} {P : σ → α → Prop}
    (hJ : ∀ s a s', J s → step s a = some s' → J s')
    (hstep : ∀ s a s', J s → I s → step s a = some s' → (I s' ↔ P s a)) {l : List α} {s : σ}
    (hj : J s) : Always step I s l ↔ I s ∧ Along step P s l := by
  constructor
  · intro h
    exact ⟨h.first, (always_iff_along hJ hstep hj h.first).mp h⟩
  · rintro ⟨hI, halong⟩
    exact (always_iff_along hJ hstep hj hI).mpr halong

end Transition
