import ItsBedalyo.Lib.Transition
import Mathlib.Order.BooleanAlgebra.Set
import Mathlib.Logic.Function.Basic
import Mathlib.Logic.Relation

/-!
# Lock order

Threads run code that acquires and releases mutexes `M` and works on a shared state `σ`; a thread
that has come to the end of one operation may begin any other. Acquisition and release are
steps of their own, and waiting on a condition variable gives the mutex up until the thread is
woken, by a notification or without one.

`Ordered rank H c` is the discipline: the code `c`, run by a thread that holds the mutexes `H`,
acquires only mutexes of a rank above all it holds, releases only what it holds, and ends with
nothing. If every operation keeps to it, no thread ever waits for itself through others
(`always_acyclic`): along `WaitsFor` the rank of the mutex waited for grows.
-/

namespace LockOrder

open Transition

variable {M σ Op τ R : Type*}

/-- What a thread still has to do. -/
inductive Code (M σ : Type*)
  | done
  /-- a step on the shared state; what follows depends on the state it reads -/
  | act (f : σ → σ) (k : σ → Code M σ)
  | lock (m : M) (k : Code M σ)
  | unlock (m : M) (k : Code M σ)
  /-- `wait(lock, p)` of a condition variable, about to evaluate `p` -/
  | await (m : M) (p : σ → Bool) (k : Code M σ)
  /-- asleep in that `wait` -/
  | asleep (m : M) (p : σ → Bool) (k : Code M σ)

/-- The mutex the code is about to acquire. -/
def Code.wanted : Code M σ → Option M
  | lock m _ => some m
  | _ => none

/-- A `lock_guard` around one step. -/
def Code.guarded (m : M) (f : σ → σ) (k : Code M σ) : Code M σ :=
  .lock m (.act f fun _ => .unlock m k)

/-- The shared state, who holds each mutex, and where each thread is. -/
structure State (M σ τ : Type*) where
  shared : σ
  owner : M → Option τ
  thread : τ → Code M σ

/-- Nothing held, nothing begun. -/
def init (s₀ : σ) : State M σ τ := ⟨s₀, fun _ => none, fun _ => .done⟩

namespace State

variable (s : State M σ τ)

/-- The mutexes a thread holds. -/
def held (t : τ) : Set M := {m | s.owner m = some t}

/-- `t` waits for a mutex that `u` holds. -/
def WaitsFor (t u : τ) : Prop := ∃ m, (s.thread t).wanted = some m ∧ s.owner m = some u

/-- No thread waits for itself, directly or through others. -/
def Acyclic : Prop := ∀ t, ¬Relation.TransGen s.WaitsFor t t

theorem mem_held {t : τ} {m : M} : m ∈ s.held t ↔ s.owner m = some t := Iff.rfl

/-- A thread goes on with `c`. -/
def goto [DecidableEq τ] (t : τ) (c : Code M σ) : State M σ τ :=
  { s with thread := Function.update s.thread t c }

variable [DecidableEq M]

/-- A mutex changes hands. -/
def pass (m : M) (o : Option τ) : State M σ τ :=
  { s with owner := Function.update s.owner m o }

theorem pass_owner_of_ne {m m' : M} (h : m' ≠ m) (o : Option τ) :
    (s.pass m o).owner m' = s.owner m' := Function.update_of_ne h _ _

@[simp] theorem pass_owner_self (m : M) (o : Option τ) : (s.pass m o).owner m = o :=
  Function.update_self ..

/-- A free mutex, acquired. -/
theorem held_acquire {t : τ} {m : M} : (s.pass m (some t)).held t = insert m (s.held t) := by
  ext m'
  rw [Set.mem_insert_iff, mem_held, mem_held]
  by_cases hm : m' = m
  · subst hm
    simp
  · rw [pass_owner_of_ne s hm]
    simp [hm]

/-- A mutex, released. -/
theorem held_release {t : τ} {m : M} : (s.pass m none).held t = s.held t \ {m} := by
  ext m'
  rw [Set.mem_sdiff, Set.mem_singleton_iff, mem_held, mem_held]
  by_cases hm : m' = m
  · subst hm
    simp
  · rw [pass_owner_of_ne s hm]
    simp [hm]

/-- What the others hold stays as it is while a mutex changes hands between nobody and `t`. -/
theorem held_pass_of_ne {t u : τ} {m : M} {o : Option τ} (hut : u ≠ t)
    (hm : s.owner m = none ∨ s.owner m = some t) (ho : o = none ∨ o = some t) :
    (s.pass m o).held u = s.held u := by
  have hne : ∀ x : Option τ, x = none ∨ x = some t → x ≠ some u := by
    rintro x (rfl | rfl)
    · exact nofun
    · exact fun h => hut (Option.some.inj h).symm
  ext m'
  rw [mem_held, mem_held]
  by_cases hm' : m' = m
  · subst hm'
    rw [pass_owner_self]
    exact iff_of_false (hne o ho) (hne _ hm)
  · rw [pass_owner_of_ne s hm']

end State

variable [Preorder R]

/-- The code keeps to the order `rank` when it is run with the mutexes `H` held. -/
def Ordered (rank : M → R) : Set M → Code M σ → Prop
  | H, .done => H = ∅
  | H, .act _ k => ∀ s, Ordered rank H (k s)
  | H, .lock m k => (∀ h ∈ H, rank h < rank m) ∧ Ordered rank (insert m H) k
  | H, .unlock m k => m ∈ H ∧ Ordered rank (H \ {m}) k
  | H, .await m _ k => m ∈ H ∧ (∀ h ∈ H \ {m}, rank h < rank m) ∧ Ordered rank H k
  | H, .asleep m _ k => (∀ h ∈ H, rank h < rank m) ∧ Ordered rank (insert m H) k

/-- Every thread keeps to the order from where it is. -/
def Disciplined (rank : M → R) (s : State M σ τ) : Prop :=
  ∀ t, Ordered rank (s.held t) (s.thread t)

variable {rank : M → R}

theorem disciplined_init (s₀ : σ) : Disciplined rank (init s₀ : State M σ τ) := fun _ =>
  Set.eq_empty_of_forall_notMem fun _ => nofun

/-- Releasing the mutex acquired last. -/
theorem Ordered.release {H : Set M} {m : M} {k : Code M σ} (hm : ∀ h ∈ H, rank h < rank m)
    (hk : Ordered rank H k) : Ordered rank (insert m H) (.unlock m k) := by
  have hnot : m ∉ H := fun hmem => lt_irrefl _ (hm m hmem)
  refine ⟨Set.mem_insert .., ?_⟩
  rwa [Set.insert_sdiff_self_of_notMem hnot]

theorem Ordered.guarded {H : Set M} {m : M} {f : σ → σ} {k : Code M σ}
    (hm : ∀ h ∈ H, rank h < rank m) (hk : Ordered rank H k) :
    Ordered rank H (.guarded m f k) :=
  ⟨hm, fun _ => .release hm hk⟩

/-- Acquiring again what one has just given up changes nothing. -/
theorem Ordered.of_asleep {H : Set M} {m : M} {p : σ → Bool} {k : Code M σ}
    (h : Ordered rank H (.asleep m p k)) : Ordered rank H (.lock m (.await m p k)) := by
  refine ⟨h.1, Set.mem_insert .., fun m' hm' => h.1 m' ?_, h.2⟩
  exact hm'.1.resolve_left hm'.2

theorem Ordered.of_await {H : Set M} {m : M} {p : σ → Bool} {k : Code M σ}
    (h : Ordered rank H (.await m p k)) : Ordered rank (H \ {m}) (.asleep m p k) := by
  obtain ⟨hmem, hlt, hk⟩ := h
  refine ⟨hlt, ?_⟩
  rwa [Set.insert_sdiff_singleton, Set.insert_eq_of_mem hmem]

/-- What a thread waits for ranks above all it holds. -/
theorem Disciplined.rank_lt {s : State M σ τ} (h : Disciplined rank s) {t : τ} {m m' : M}
    (hwant : (s.thread t).wanted = some m) (hheld : s.owner m' = some t) : rank m' < rank m := by
  have ht := h t
  cases hc : s.thread t with
  | lock m₁ k =>
    rw [hc] at ht hwant
    obtain rfl := Option.some.inj hwant
    exact ht.1 m' hheld
  | _ => simp [hc, Code.wanted] at hwant

/-- Along a chain of waiting threads the rank grows. -/
theorem Disciplined.rank_lt_of_transGen {s : State M σ τ} (h : Disciplined rank s) {t u : τ}
    (hchain : Relation.TransGen s.WaitsFor t u) :
    ∃ m, (s.thread t).wanted = some m ∧
      ∀ m', (s.thread u).wanted = some m' → rank m < rank m' := by
  induction hchain with
  | single hwait =>
    obtain ⟨m, hwant, howner⟩ := hwait
    exact ⟨m, hwant, fun m' hwant' => h.rank_lt hwant' howner⟩
  | tail _ hwait ih =>
    obtain ⟨m, hwant, hrank⟩ := ih
    obtain ⟨m₁, hwant₁, howner₁⟩ := hwait
    refine ⟨m, hwant, fun m' hwant' => ?_⟩
    calc
      rank m < rank m₁ := hrank m₁ hwant₁
      _ < rank m' := h.rank_lt hwant' howner₁

theorem Disciplined.acyclic {s : State M σ τ} (h : Disciplined rank s) : s.Acyclic := by
  intro t hcycle
  obtain ⟨m, hwant, hrank⟩ := h.rank_lt_of_transGen hcycle
  exact lt_irrefl _ (hrank m hwant)

/-! ### Steps -/

variable [DecidableEq M] [DecidableEq τ]

/-- One step: a thread begins an operation, or goes on. -/
def step (code : Op → Code M σ) (s : State M σ τ) : τ × Option Op → Option (State M σ τ)
  | (t, some op) =>
    match s.thread t with
    | .done => some (s.goto t (code op))
    | _ => none
  | (t, none) =>
    match s.thread t with
    | .done => none
    | .act f k => some { s.goto t (k s.shared) with shared := f s.shared }
    | .lock m k => if s.owner m = none then some ((s.pass m (some t)).goto t k) else none
    | .unlock m k => some ((s.pass m none).goto t k)
    | .await m p k =>
      if p s.shared then some (s.goto t k)
      else some ((s.pass m none).goto t (.asleep m p k))
    -- woken up: the mutex is acquired again before `p` is
    | .asleep m p k => some (s.goto t (.lock m (.await m p k)))

omit [DecidableEq M] in
/-- A step of `t` is fine if `t` keeps to the order afterwards and nothing has changed for the
others. -/
theorem Disciplined.of_goto {s s' : State M σ τ} {t : τ} {c : Code M σ} (h : Disciplined rank s)
    (hthread : s'.thread = Function.update s.thread t c) (hself : Ordered rank (s'.held t) c)
    (hother : ∀ u, u ≠ t → s'.held u = s.held u) : Disciplined rank s' := by
  intro u
  by_cases hut : u = t
  · subst hut
    rwa [hthread, Function.update_self]
  · rw [hthread, Function.update_of_ne hut, hother u hut]
    exact h u

/-- **Step rule.** If every operation keeps to the order, so does every thread after a step. -/
theorem Disciplined.step {code : Op → Code M σ} (hcode : ∀ op, Ordered rank ∅ (code op))
    {s s' : State M σ τ} {a : τ × Option Op} (h : Disciplined rank s)
    (hs : LockOrder.step code s a = some s') : Disciplined rank s' := by
  obtain ⟨t, _ | op⟩ := a
  · have ht := h t
    simp only [LockOrder.step] at hs
    split at hs
    · cases hs
    · next f k hc =>
      rw [hc] at ht
      cases hs
      exact h.of_goto rfl (ht s.shared) fun _ _ => rfl
    · next m k hc =>
      rw [hc] at ht
      obtain ⟨hfree, hs⟩ := Option.ite_none_right_eq_some.mp hs
      cases hs
      refine h.of_goto rfl ?_ fun u hu => s.held_pass_of_ne hu (.inl hfree) (.inr rfl)
      exact s.held_acquire (t := t) (m := m) ▸ ht.2
    · next m k hc =>
      rw [hc] at ht
      cases hs
      refine h.of_goto rfl ?_ fun u hu => s.held_pass_of_ne hu (.inr ht.1) (.inl rfl)
      exact s.held_release (t := t) (m := m) ▸ ht.2
    · next m p k hc =>
      rw [hc] at ht
      split_ifs at hs
      · cases hs
        exact h.of_goto rfl ht.2.2 fun _ _ => rfl
      · cases hs
        refine h.of_goto rfl ?_ fun u hu => s.held_pass_of_ne hu (.inr ht.1) (.inl rfl)
        exact s.held_release (t := t) (m := m) ▸ ht.of_await
    · next m p k hc =>
      rw [hc] at ht
      cases hs
      exact h.of_goto rfl ht.of_asleep fun _ _ => rfl
  · have ht := h t
    simp only [LockOrder.step] at hs
    split at hs
    · next hc =>
      rw [hc] at ht
      cases hs
      refine h.of_goto rfl ?_ fun _ _ => rfl
      exact (ht : s.held t = ∅) ▸ hcode op
    · cases hs

/-- **Run rule.** If every operation keeps to the order, no run reaches a cycle. -/
theorem always_acyclic {code : Op → Code M σ} (hcode : ∀ op, Ordered rank ∅ (code op)) (s₀ : σ)
    (l : List (τ × Option Op)) : Always (step code) State.Acyclic (init s₀) l := by
  have hall : Always (step code) (Disciplined rank) (init s₀) l :=
    always_of_forall (fun _ _ _ h hs => h.step hcode hs) (disciplined_init s₀)
  exact hall.mono fun _ => Disciplined.acyclic

end LockOrder
