import ItsBedalyo.Lib.Transition
import Mathlib.Logic.Function.Basic

/-!
# Programs that call fallible operations

`Prog Res ε α` is the free monad over operations `o : Op` that answer an `Except ε (Res o)`: an
operation either returns or throws, and `try … catch` sees what it throws. Code written in it
stays what it is in the source, one operation after another, while whoever runs it decides how
long to wait between two operations and what each of them answers.

An `Interface` says what an operation asks of a local state and what it may do to it; `wp` is
the weakest precondition computed from it by recursion on the program. `Threads` runs one
program per thread over a shared world, one operation at a time, and `Safe.step` is the rule
for them: if every operation keeps the world's invariant and does to the caller's local state
what the interface says, then every thread keeps meeting the `wp` of what is left of it. Each
program is checked once and alone, whatever the other threads do.
-/

/-- A program: it returns, throws, or calls an operation and goes on with the answer. -/
inductive Prog {Op : Type} (Res : Op → Type) (ε : Type) (α : Type)
  | ret (a : α)
  | fail (e : ε)
  | call (o : Op) (k : Except ε (Res o) → Prog Res ε α)

/-- What operations ask of a local state and what they do to it. -/
structure Interface {Op : Type} (Res : Op → Type) (ε : Type) (γ : Type*) where
  pre : γ → Op → Prop
  post : γ → (o : Op) → Except ε (Res o) → γ → Prop

namespace Prog

variable {Op : Type} {Res : Op → Type} {ε α β : Type} {γ : Type*}

/-- The program that calls one operation and passes its answer on. -/
def op (o : Op) : Prog Res ε (Res o) :=
  call o fun
    | .ok a => ret a
    | .error e => fail e

/-- Sequencing: what the first program throws ends both. -/
def bind : Prog Res ε α → (α → Prog Res ε β) → Prog Res ε β
  | ret a, f => f a
  | fail e, _ => fail e
  | call o k, f => call o fun r => (k r).bind f

/-- Catching what a program throws. -/
def catching : Prog Res ε α → (ε → Prog Res ε α) → Prog Res ε α
  | ret a, _ => ret a
  | fail e, h => h e
  | call o k, h => call o fun r => (k r).catching h

/-- The program with other names for its operations, among those of a larger set. -/
def embed {Op' : Type} {Res' : Op' → Type} (f : Op → Op') :
    Prog (fun o => Res' (f o)) ε α → Prog Res' ε α
  | ret a => ret a
  | fail e => fail e
  | call o k => call (f o) fun r => (k r).embed f

/-- A value computed without any operation, or the exception it threw. -/
def ofExcept : Except ε α → Prog Res ε α
  | .ok a => ret a
  | .error e => fail e

instance : Monad (Prog Res ε) where
  pure := ret
  bind := bind

instance : MonadExcept ε (Prog Res ε) where
  throw := fail
  tryCatch := catching

end Prog

namespace Interface

open Prog

variable {Op : Type} {Res : Op → Type} {ε α β : Type} {γ : Type*}

/-- The weakest precondition for a program to end in `Q`, with the operations as `I` says. -/
def wp (I : Interface Res ε γ) : Prog Res ε α → (Except ε α → γ → Prop) → γ → Prop
  | ret a, Q, g => Q (.ok a) g
  | fail e, Q, g => Q (.error e) g
  | call o k, Q, g => I.pre g o ∧ ∀ r g', I.post g o r g' → I.wp (k r) Q g'

variable {I : Interface Res ε γ} {g : γ}

@[simp] theorem wp_pure {Q : Except ε α → γ → Prop} (a : α) :
    I.wp (pure a : Prog Res ε α) Q g ↔ Q (.ok a) g :=
  Iff.rfl

@[simp] theorem wp_throw {Q : Except ε α → γ → Prop} (e : ε) :
    I.wp (throw e : Prog Res ε α) Q g ↔ Q (.error e) g :=
  Iff.rfl

@[simp] theorem wp_ofExcept {Q : Except ε α → γ → Prop} (x : Except ε α) :
    I.wp (Prog.ofExcept x : Prog Res ε α) Q g ↔ Q x g := by
  cases x <;> exact Iff.rfl

theorem wp_op {o : Op} {Q : Except ε (Res o) → γ → Prop} :
    I.wp (op o) Q g ↔ I.pre g o ∧ ∀ r g', I.post g o r g' → Q r g' := by
  refine and_congr_right fun _ => forall_congr' fun r => forall₂_congr fun g' _ => ?_
  cases r <;> exact Iff.rfl

/-- An operation that always answers `r₀` and takes the local state to `g₀`. -/
theorem wp_op_eq {o : Op} {Q : Except ε (Res o) → γ → Prop} {r₀ : Except ε (Res o)} {g₀ : γ}
    (hpost : ∀ r g', I.post g o r g' ↔ r = r₀ ∧ g' = g₀) :
    I.wp (op o) Q g ↔ I.pre g o ∧ Q r₀ g₀ := by
  refine wp_op.trans (and_congr_right fun _ => ⟨fun h => ?_, fun h r g' hr => ?_⟩)
  · exact h r₀ g₀ ((hpost r₀ g₀).mpr ⟨rfl, rfl⟩)
  · obtain ⟨rfl, rfl⟩ := (hpost r g').mp hr
    exact h

/-- An operation that may return or throw anything and leaves the local state alone. -/
theorem wp_op_unchanged {o : Op} {Q : Except ε (Res o) → γ → Prop}
    (hpost : ∀ r g', I.post g o r g' ↔ g' = g) :
    I.wp (op o) Q g ↔ I.pre g o ∧ (∀ a, Q (.ok a) g) ∧ ∀ e, Q (.error e) g := by
  refine wp_op.trans (and_congr_right fun _ => ⟨fun h => ?_, fun h r g' hr => ?_⟩)
  · exact ⟨fun a => h (.ok a) g ((hpost _ g).mpr rfl),
      fun e => h (.error e) g ((hpost _ g).mpr rfl)⟩
  · obtain rfl := (hpost r g').mp hr
    cases r with
    | ok a => exact h.1 a
    | error e => exact h.2 e

/-- An operation that takes the local state to `f a` when it returns `a`, and to `g₁` when it
throws. -/
theorem wp_op_cases {o : Op} {Q : Except ε (Res o) → γ → Prop} {f : Res o → γ} {g₁ : γ}
    (hpre : I.pre g o) (hok : ∀ a g', I.post g o (.ok a) g' ↔ g' = f a)
    (herror : ∀ e g', I.post g o (.error e) g' ↔ g' = g₁) :
    I.wp (op o) Q g ↔ (∀ a, Q (.ok a) (f a)) ∧ ∀ e, Q (.error e) g₁ := by
  refine (wp_op.trans (and_iff_right hpre)).trans ⟨fun h => ⟨fun a => ?_, fun e => ?_⟩, fun h => ?_⟩
  · exact h (.ok a) (f a) ((hok a _).mpr rfl)
  · exact h (.error e) g₁ ((herror e _).mpr rfl)
  · intro r g' hr
    cases r with
    | ok a =>
      obtain rfl := (hok a g').mp hr
      exact h.1 a
    | error e =>
      obtain rfl := (herror e g').mp hr
      exact h.2 e

@[simp] theorem wp_ite {p : Prop} [Decidable p] {x y : Prog Res ε α}
    {Q : Except ε α → γ → Prop} :
    I.wp (if p then x else y) Q g ↔ (p → I.wp x Q g) ∧ (¬p → I.wp y Q g) := by
  split
  · next hp => exact ⟨fun h => ⟨fun _ => h, fun hn => absurd hp hn⟩, fun h => h.1 hp⟩
  · next hp => exact ⟨fun h => ⟨fun hn => absurd hn hp, fun _ => h⟩, fun h => h.2 hp⟩

/-- **Sequencing rule.** -/
@[simp] theorem wp_bind (x : Prog Res ε α) (f : α → Prog Res ε β) {Q : Except ε β → γ → Prop} :
    I.wp (x >>= f) Q g ↔
      I.wp x (fun r g' => match r with
        | .ok a => I.wp (f a) Q g'
        | .error e => Q (.error e) g') g := by
  induction x generalizing g with
  | ret a => exact Iff.rfl
  | fail e => exact Iff.rfl
  | call o k ih =>
    refine and_congr_right fun _ => forall_congr' fun r => forall₂_congr fun g' _ => ?_
    exact ih r

/-- **Exception rule.** -/
@[simp] theorem wp_tryCatch (x : Prog Res ε α) (h : ε → Prog Res ε α)
    {Q : Except ε α → γ → Prop} :
    I.wp (tryCatch x h) Q g ↔
      I.wp x (fun r g' => match r with
        | .ok a => Q (.ok a) g'
        | .error e => I.wp (h e) Q g') g := by
  induction x generalizing g with
  | ret a => exact Iff.rfl
  | fail e => exact Iff.rfl
  | call o k ih =>
    refine and_congr_right fun _ => forall_congr' fun r => forall₂_congr fun g' _ => ?_
    exact ih r

/-- What a larger set of operations makes of a smaller one. -/
def comap {Op' : Type} {Res' : Op' → Type} (f : Op → Op') (I : Interface Res' ε γ) :
    Interface (fun o => Res' (f o)) ε γ where
  pre g o := I.pre g (f o)
  post g o r g' := I.post g (f o) r g'

/-- **Embedding rule.** -/
@[simp] theorem wp_embed {Op' : Type} {Res' : Op' → Type} {f : Op → Op'} {I : Interface Res' ε γ}
    {p : Prog (fun o => Res' (f o)) ε α} {Q : Except ε α → γ → Prop} :
    I.wp (p.embed f) Q g ↔ (I.comap f).wp p Q g := by
  induction p generalizing g with
  | ret a => exact Iff.rfl
  | fail e => exact Iff.rfl
  | call o k ih =>
    refine and_congr_right fun _ => forall_congr' fun r => forall₂_congr fun g' _ => ?_
    exact ih r

/-- **Consequence rule.** -/
theorem wp_mono {x : Prog Res ε α} {Q R : Except ε α → γ → Prop}
    (hQR : ∀ r g, Q r g → R r g) (h : I.wp x Q g) : I.wp x R g := by
  induction x generalizing g with
  | ret a => exact hQR _ _ h
  | fail e => exact hQR _ _ h
  | call o k ih =>
    obtain ⟨hpre, hk⟩ := h
    exact ⟨hpre, fun r g' hpost => ih r (hk r g' hpost)⟩

/-- **Invariant rule.** What every operation keeps, every program keeps. -/
theorem wp_invariant {J : γ → Prop} (hpre : ∀ g o, J g → I.pre g o)
    (hpost : ∀ g o r g', J g → I.post g o r g' → J g') (x : Prog Res ε α) (h : J g) :
    I.wp x (fun _ g' => J g') g := by
  induction x generalizing g with
  | ret a => exact h
  | fail e => exact h
  | call o k ih => exact ⟨hpre g o h, fun r g' hr => ih r (hpost g o r g' h hr)⟩

end Interface

/-! ### Operations that are still to come -/

namespace Prog

variable {Op : Type} {Res : Op → Type} {ε α : Type} {γ : Type*}

/-- Whatever the operations return, the program will call one of these. -/
def WillCall (q : Op → Prop) : Prog Res ε α → Prop
  | ret _ => False
  | fail _ => False
  | call o k => q o ∨ ∀ a, (k (.ok a)).WillCall q

/-- A debt of the local state that is paid by certain calls only, and has to be paid before the
end. -/
theorem willCall_of_wp {I : Interface Res ε γ} {q : Op → Prop} (due : γ → Prop)
    (hpost : ∀ g o a, I.pre g o → ∃ g', I.post g o (.ok a) g')
    (hdue : ∀ g o a g', due g → I.pre g o → ¬q o → I.post g o (.ok a) g' → due g')
    {p : Prog Res ε α} {Q : Except ε α → γ → Prop} (hQ : ∀ r g, Q r g → ¬due g) {g : γ}
    (hwp : I.wp p Q g) (hg : due g) : p.WillCall q := by
  induction p generalizing g with
  | ret a => exact absurd hg (hQ _ _ hwp)
  | fail e => exact absurd hg (hQ _ _ hwp)
  | call o k ih =>
    by_cases hq : q o
    · exact .inl hq
    · refine .inr fun a => ?_
      obtain ⟨g', hg'⟩ := hpost g o a hwp.1
      exact ih (.ok a) (hwp.2 _ g' hg') (hdue g o a g' hg hwp.1 hq hg')

end Prog

/-! ### Programs that catch everything -/

namespace Prog

variable {Op : Type} {Res : Op → Type} {ε α β : Type} {γ : Type*}

/-- Whatever the operations answer, the program returns. -/
def Returns : Prog Res ε α → Prop
  | ret _ => True
  | fail _ => False
  | call _ k => ∀ r, (k r).Returns

theorem returns_tryCatch (x : Prog Res ε α) {h : ε → Prog Res ε α} (hh : ∀ e, (h e).Returns) :
    (tryCatch x h).Returns := by
  induction x with
  | ret a => trivial
  | fail e => exact hh e
  | call o k ih => exact ih

/-- What a program that catches everything ends in, it ends in by returning. -/
theorem Returns.wp {I : Interface Res ε γ} {x : Prog Res ε α} (hx : x.Returns)
    {Q : Except ε α → γ → Prop} {g : γ} (h : I.wp x Q g) :
    I.wp x (fun r g' => (∃ a, r = .ok a) ∧ Q r g') g := by
  induction x generalizing g with
  | ret a => exact ⟨⟨a, rfl⟩, h⟩
  | fail e => exact hx.elim
  | call o k ih => exact ⟨h.1, fun r g' hpost => ih r (hx r) (h.2 r g' hpost)⟩

end Prog

/-! ### Threads over a shared world -/

/-- What is left of each thread's program, and the world they share. -/
structure Threads (τ : Type*) {Op : Type} (Res : Op → Type) (ε : Type) (W : Type*) where
  todo : τ → Prog Res ε Unit
  world : W

namespace Threads

open Prog

variable {τ : Type*} [DecidableEq τ] {Op : Type} {Res : Op → Type} {ε : Type} {W Env : Type*}

/-- One thread calls its next operation, and the environment answers. -/
def step (exec : τ → (o : Op) → Env → W → Option (Except ε (Res o) × W))
    (s : Threads τ Res ε W) (a : τ × Env) : Option (Threads τ Res ε W) :=
  match s.todo a.1 with
  | call o k => (exec a.1 o a.2 s.world).map fun rw =>
      ⟨Function.update s.todo a.1 (k rw.1), rw.2⟩
  | _ => none

variable {exec : τ → (o : Op) → Env → W → Option (Except ε (Res o) × W)}
  {s s' : Threads τ Res ε W}

/-- What a step consists of. -/
theorem step_eq_some {a : τ × Env} (h : step exec s a = some s') :
    ∃ o k r w, s.todo a.1 = call o k ∧ exec a.1 o a.2 s.world = some (r, w) ∧
      s' = ⟨Function.update s.todo a.1 (k r), w⟩ := by
  unfold step at h
  split at h
  · next o k htodo =>
    obtain ⟨⟨r, w⟩, hexec, rfl⟩ := Option.map_eq_some_iff.mp h
    exact ⟨o, k, r, w, htodo, hexec, rfl⟩
  · cases h

/-- A thread that has nothing left to do. -/
def Finished (s : Threads τ Res ε W) (t : τ) : Prop :=
  ∀ o k, s.todo t ≠ call o k

/-- A state in which the world's invariant `J` holds with some local states, and every thread
meets the `wp` of what is left of its program. -/
def Safe {γ : Type*} (I : τ → Interface Res ε γ) (J : W → (τ → γ) → Prop)
    (Q : τ → Except ε Unit → γ → Prop) (s : Threads τ Res ε W) : Prop :=
  ∃ g, J s.world g ∧ ∀ t, (I t).wp (s.todo t) (Q t) (g t)

variable {γ : Type*} {I : τ → Interface Res ε γ} {J : W → (τ → γ) → Prop}
  {Q : τ → Except ε Unit → γ → Prop}

/-- The next operation of a thread of a safe state is called where its interface allows. -/
theorem Safe.next (h : Safe I J Q s) {a : τ × Env} (hs : step exec s a = some s') :
    ∃ g o k r w, J s.world g ∧ s.todo a.1 = call o k ∧ (I a.1).pre (g a.1) o ∧
      exec a.1 o a.2 s.world = some (r, w) ∧ s'.world = w := by
  obtain ⟨g, hJ, hwp⟩ := h
  obtain ⟨o, k, r, w, htodo, hexec, rfl⟩ := step_eq_some hs
  have hnext := hwp a.1
  rw [htodo] at hnext
  exact ⟨g, o, k, r, w, hJ, htodo, hnext.1, hexec, rfl⟩

/-- **Thread rule, for one step of threads that are known to be safe.** An operation that keeps
`J` and does what the interface says keeps every thread safe. -/
theorem Safe.step_of_wp {a : τ × Env}
    (hexec : ∀ g o k r w, J s.world g → (∀ t, (I t).wp (s.todo t) (Q t) (g t)) →
      s.todo a.1 = call o k → exec a.1 o a.2 s.world = some (r, w) →
        ∃ c, (I a.1).post (g a.1) o r c ∧ J w (Function.update g a.1 c))
    (h : Safe I J Q s) (hs : step exec s a = some s') : Safe I J Q s' := by
  obtain ⟨g, hJ, hwp⟩ := h
  obtain ⟨o, k, r, w, htodo, he, rfl⟩ := step_eq_some hs
  have hnext := hwp a.1
  rw [htodo] at hnext
  obtain ⟨c, hpost, hJ'⟩ := hexec g o k r w hJ hwp htodo he
  -- the caller goes on in the state the interface allows, the others have not moved
  refine ⟨Function.update g a.1 c, hJ', fun t => ?_⟩
  rcases eq_or_ne t a.1 with rfl | ht
  · simpa only [Function.update_self] using hnext.2 r c hpost
  · simpa only [Function.update_of_ne ht] using hwp t

/-- **Thread rule, for one step.** The same, where what the interface asks of the call is all that
is needed. -/
theorem Safe.step_of_exec {a : τ × Env}
    (hexec : ∀ g o k r w, J s.world g → s.todo a.1 = call o k → (I a.1).pre (g a.1) o →
      exec a.1 o a.2 s.world = some (r, w) →
        ∃ c, (I a.1).post (g a.1) o r c ∧ J w (Function.update g a.1 c))
    (h : Safe I J Q s) (hs : step exec s a = some s') : Safe I J Q s' := by
  refine h.step_of_wp (fun g o k r w hJ hwp htodo he => ?_) hs
  have hnext := hwp a.1
  rw [htodo] at hnext
  exact hexec g o k r w hJ htodo hnext.1 he

/-- **Thread rule.** Operations that keep `J` and do what the interface says keep every thread
safe. -/
theorem Safe.step
    (hexec : ∀ w g t o e r w', J w g → (I t).pre (g t) o → exec t o e w = some (r, w') →
      ∃ c, (I t).post (g t) o r c ∧ J w' (Function.update g t c))
    (h : Safe I J Q s) {a : τ × Env} (hs : step exec s a = some s') : Safe I J Q s' :=
  h.step_of_exec (fun g o _ r w hJ _ hpre he => hexec s.world g a.1 o a.2 r w hJ hpre he) hs

omit [DecidableEq τ] in
/-- A finished thread that meets its `wp` has its postcondition. -/
theorem Finished.post {t : τ} {c : γ} (ht : s.Finished t) (h : (I t).wp (s.todo t) (Q t) c) :
    ∃ r, Q t r c := by
  match htodo : s.todo t with
  | ret a => exact ⟨.ok a, by rwa [htodo] at h⟩
  | fail e => exact ⟨.error e, by rwa [htodo] at h⟩
  | call o k => exact absurd htodo (ht o k)

omit [DecidableEq τ] in
/-- A finished thread of a safe state has its postcondition. -/
theorem Safe.finished (h : Safe I J Q s) {t : τ} (ht : s.Finished t) :
    ∃ g r, J s.world g ∧ Q t r (g t) := by
  obtain ⟨g, hJ, hwp⟩ := h
  obtain ⟨r, hQ⟩ := ht.post (hwp t)
  exact ⟨g, r, hJ, hQ⟩

/-- When every operation can be answered, a thread can always run to its end. -/
theorem reaches_finished (hexec : ∀ t o w, ∃ e r w', exec t o e w = some (r, w'))
    (s : Threads τ Res ε W) (t : τ) :
    ∃ s', Transition.Reaches (Threads.step exec) s s' ∧ s'.Finished t := by
  generalize hp : s.todo t = p
  induction p generalizing s with
  | ret a => exact ⟨s, .refl _, fun o k h => by rw [hp] at h; cases h⟩
  | fail e => exact ⟨s, .refl _, fun o k h => by rw [hp] at h; cases h⟩
  | call o k ih =>
    obtain ⟨e, r, w, he⟩ := hexec t o s.world
    have hs : Threads.step exec s (t, e) = some ⟨Function.update s.todo t (k r), w⟩ := by
      unfold Threads.step
      rw [hp]
      simp only [he, Option.map_some]
    obtain ⟨s', hreach, hfin⟩ := ih r ⟨Function.update s.todo t (k r), w⟩
      (Function.update_self t (k r) s.todo)
    exact ⟨s', (Transition.Reaches.of_step hs).trans hreach, hfin⟩

/-- The operations, with the labels of the steps so far beside the world. -/
def recorded (exec : τ → (o : Op) → Env → W → Option (Except ε (Res o) × W)) (t : τ) (o : Op)
    (e : Env) (w : W × List (τ × Env)) : Option (Except ε (Res o) × (W × List (τ × Env))) :=
  (exec t o e w.1).map fun rw => (rw.1, (rw.2, w.2 ++ [(t, e)]))

/-- A run is a run of the recorded operations. -/
theorem run_recorded {l : List (τ × Env)} (past : List (τ × Env))
    (h : Transition.run (Threads.step exec) s l = some s') :
    Transition.run (Threads.step (recorded exec)) ⟨s.todo, (s.world, past)⟩ l =
      some ⟨s'.todo, (s'.world, past ++ l)⟩ := by
  induction l generalizing s past with
  | nil =>
    obtain rfl := Option.some.inj h
    rw [List.append_nil]
    rfl
  | cons a l ih =>
    obtain ⟨s₁, hs, hrest⟩ := Transition.run_cons_eq_some.mp h
    obtain ⟨o, k, r, w, htodo, he, rfl⟩ := step_eq_some hs
    refine Transition.run_cons_eq_some.mpr ⟨_, ?_, (ih (past ++ [a]) hrest).trans ?_⟩
    · simp only [Threads.step, htodo, recorded, he, Option.map_some]
    · rw [List.append_assoc, List.singleton_append]

end Threads
