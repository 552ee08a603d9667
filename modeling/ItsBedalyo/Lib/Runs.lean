import ItsBedalyo.Lib.Prog

/-!
# One program on its own

`Prog.run` executes a program with nobody else around: `exec` performs an operation on a world,
and a list holds what the environment answers, one answer for each operation. `Prog.saw` asks
whether some operation of such a run was answered in a given way.

`Interface.Runs` is the same for an interface, as a relation. Its `wp` is about exactly these
runs (`wp_iff_forall_runs`), and `Interface.ofExec` reads an `exec` as an interface, so that the
rules of `wp` apply to `Prog.run` (`run_wp`), also where a postcondition depends on what the run saw
(`run_watch`) or on the answers (`run_recorded`). `wp_simulate` moves a `wp` from an abstract
interface to a concrete one along a relation between their states.
-/

variable {Op : Type} {Res : Op → Type} {ε α β : Type} {γ δ : Type*}

namespace Prog

variable {W Env : Type*} (exec : (o : Op) → Env → W → Option (Except ε (Res o) × W))

/-- What the program returns or throws, and the world afterwards; `none` when an operation
cannot be answered so, or there are too few answers or too many. -/
def run : Prog Res ε α → List Env → W → Option (Except ε α × W)
  | ret a, [], w => some (.ok a, w)
  | fail e, [], w => some (.error e, w)
  | call o k, e :: es, w => (exec o e w).bind fun rw => run (k rw.1) es rw.2
  | _, _, _ => none

/-- Some operation of the run was answered as `f` says. -/
def saw (f : (o : Op) → Except ε (Res o) → Bool) : Prog Res ε α → List Env → W → Bool
  | call o k, e :: es, w =>
    match exec o e w with
    | some (r, w') => f o r || saw f (k r) es w'
    | none => false
  | _, _, _ => false

/-- When every operation can be answered, a program can be run. -/
theorem exists_run {exec : (o : Op) → Env → W → Option (Except ε (Res o) × W)}
    (hexec : ∀ o w, ∃ e r w', exec o e w = some (r, w')) (p : Prog Res ε α) (w : W) :
    ∃ es r w', p.run exec es w = some (r, w') := by
  induction p generalizing w with
  | ret a => exact ⟨[], _, w, rfl⟩
  | fail e => exact ⟨[], _, w, rfl⟩
  | call o k ih =>
    obtain ⟨e, r, w₁, he⟩ := hexec o w
    obtain ⟨es, r', w', hr⟩ := ih r w₁
    refine ⟨e :: es, r', w', ?_⟩
    rw [run, he]
    exact hr

end Prog

namespace Interface

open Prog

/-- `I.Runs p g r g'`: the program, begun in the local state `g`, can end with `r` in `g'`. -/
def Runs (I : Interface Res ε γ) : Prog Res ε α → γ → Except ε α → γ → Prop
  | ret a, g, r, g' => r = .ok a ∧ g' = g
  | fail e, g, r, g' => r = .error e ∧ g' = g
  | call o k, g, r, g' => ∃ x g₁, I.post g o x g₁ ∧ I.Runs (k x) g₁ r g'

/-- **Soundness and completeness.** Where every operation is allowed, the weakest precondition
says that every run ends in the postcondition. -/
theorem wp_iff_forall_runs {I : Interface Res ε γ} (hpre : ∀ g o, I.pre g o) {p : Prog Res ε α}
    {Q : Except ε α → γ → Prop} {g : γ} :
    I.wp p Q g ↔ ∀ r g', I.Runs p g r g' → Q r g' := by
  induction p generalizing g with
  | ret a =>
    refine ⟨?_, fun h => h _ _ ⟨rfl, rfl⟩⟩
    rintro h r g' ⟨rfl, rfl⟩
    exact h
  | fail e =>
    refine ⟨?_, fun h => h _ _ ⟨rfl, rfl⟩⟩
    rintro h r g' ⟨rfl, rfl⟩
    exact h
  | call o k ih =>
    constructor
    · rintro ⟨-, h⟩ r g' ⟨x, g₁, hpost, hruns⟩
      exact (ih x).mp (h x g₁ hpost) r g' hruns
    · intro h
      refine ⟨hpre g o, fun x g₁ hpost => (ih x).mpr fun r g' hruns => ?_⟩
      exact h r g' ⟨x, g₁, hpost, hruns⟩

/-! ### Simulation -/

/-- **Simulation rule.** A concrete interface whose operations do, under `R`, what an abstract
one says inherits its weakest preconditions. -/
theorem wp_simulate {I : Interface Res ε γ} {J : Interface Res ε δ} {R : γ → δ → Prop}
    (hpre : ∀ g d o, R g d → J.pre d o → I.pre g o)
    (hpost : ∀ g d o r g', R g d → I.post g o r g' → ∃ d', J.post d o r d' ∧ R g' d')
    {p : Prog Res ε α} {Q : Except ε α → δ → Prop} {g : γ} {d : δ} (hR : R g d)
    (h : J.wp p Q d) : I.wp p (fun r g' => ∃ d', R g' d' ∧ Q r d') g := by
  induction p generalizing g d with
  | ret a => exact ⟨d, hR, h⟩
  | fail e => exact ⟨d, hR, h⟩
  | call o k ih =>
    refine ⟨hpre g d o hR h.1, fun r g' hpost' => ?_⟩
    obtain ⟨d', hd', hR'⟩ := hpost g d o r g' hR hpost'
    exact ih r hR' (h.2 r d' hd')

/-! ### A run of an executable world -/

section Exec

variable {W Env : Type*} {exec : (o : Op) → Env → W → Option (Except ε (Res o) × W)}

/-- An executable world as an interface: anything may be called, and what comes of it is what
some answer of the environment makes of it. -/
def ofExec (exec : (o : Op) → Env → W → Option (Except ε (Res o) × W)) : Interface Res ε W where
  pre _ _ := True
  post w o r w' := ∃ e, exec o e w = some (r, w')

/-- The interface with a flag that goes up when an operation is answered as `f` says. -/
def watch (I : Interface Res ε γ) (f : (o : Op) → Except ε (Res o) → Bool) :
    Interface Res ε (γ × Bool) where
  pre g o := I.pre g.1 o
  post g o r g' := I.post g.1 o r g'.1 ∧ g'.2 = (g.2 || f o r)

/-- **Run rule, with a flag.** What the `wp` of the watched interface says of the flag holds of
what the run saw. -/
theorem run_watch {f : (o : Op) → Except ε (Res o) → Bool} {p : Prog Res ε α} {es : List Env}
    {Q : Except ε α → W × Bool → Prop} {w w' : W} {b : Bool} {r : Except ε α}
    (h : ((ofExec exec).watch f).wp p Q (w, b)) (hr : p.run exec es w = some (r, w')) :
    Q r (w', b || p.saw exec f es w) := by
  induction p generalizing es w b with
  | ret a =>
    cases es with
    | nil =>
      obtain ⟨rfl, rfl⟩ := Prod.mk.inj (Option.some.inj hr)
      show Q _ (w, b || false)
      rwa [Bool.or_false]
    | cons e es => cases hr
  | fail e =>
    cases es with
    | nil =>
      obtain ⟨rfl, rfl⟩ := Prod.mk.inj (Option.some.inj hr)
      show Q _ (w, b || false)
      rwa [Bool.or_false]
    | cons e' es => cases hr
  | call o k ih =>
    cases es with
    | nil => cases hr
    | cons e es =>
      obtain ⟨⟨x, w₁⟩, hexec, hr⟩ := Option.bind_eq_some_iff.mp hr
      have hrest := ih x (h.2 x (w₁, b || f o x) ⟨⟨e, hexec⟩, rfl⟩) hr
      simp only [saw, hexec]
      rwa [Bool.or_assoc] at hrest

/-- **Run rule.** -/
theorem run_wp {p : Prog Res ε α} {es : List Env} {Q : Except ε α → W → Prop} {w w' : W}
    {r : Except ε α} (h : (ofExec exec).wp p Q w) (hr : p.run exec es w = some (r, w')) :
    Q r w' := by
  have hwatch : ((ofExec exec).watch fun _ _ => false).wp p
      (fun r g => ∃ w, g.1 = w ∧ Q r w) (w, false) :=
    wp_simulate (R := fun (g : W × Bool) w => g.1 = w) (fun _ _ _ _ _ => trivial)
      (fun g d o r g' hR hpost => ⟨g'.1, by subst hR; exact hpost.1, rfl⟩) rfl h
  obtain ⟨w₁, rfl, hQ⟩ := run_watch hwatch hr
  exact hQ

/-- The interface of an executable world, with the answers of the environment so far. -/
def recorded (exec : (o : Op) → Env → W → Option (Except ε (Res o) × W)) :
    Interface Res ε (W × List Env) where
  pre _ _ := True
  post g o r g' := ∃ e, exec o e g.1 = some (r, g'.1) ∧ g'.2 = g.2 ++ [e]

/-- **Run rule, with the answers.** -/
theorem run_recorded {p : Prog Res ε α} {es es' : List Env} {Q : Except ε α → W × List Env → Prop}
    {w w' : W} {r : Except ε α} (h : (recorded exec).wp p Q (w, es))
    (hr : p.run exec es' w = some (r, w')) : Q r (w', es ++ es') := by
  induction p generalizing es es' w with
  | ret a =>
    cases es' with
    | nil =>
      obtain ⟨rfl, rfl⟩ := Prod.mk.inj (Option.some.inj hr)
      rwa [List.append_nil]
    | cons e es' => cases hr
  | fail e =>
    cases es' with
    | nil =>
      obtain ⟨rfl, rfl⟩ := Prod.mk.inj (Option.some.inj hr)
      rwa [List.append_nil]
    | cons e' es' => cases hr
  | call o k ih =>
    cases es' with
    | nil => cases hr
    | cons e es' =>
      obtain ⟨⟨x, w₁⟩, hexec, hr⟩ := Option.bind_eq_some_iff.mp hr
      have hrest := ih x (h.2 x (w₁, es ++ [e]) ⟨e, hexec, rfl⟩) hr
      rwa [List.append_assoc] at hrest

end Exec

end Interface
