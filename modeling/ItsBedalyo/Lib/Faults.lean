import ItsBedalyo.Lib.Runs

/-!
# Programs whose calls may fail

The operations of a program return what `answer` says or throw what they may throw, each at any
time. `perform` keeps a `Trace` of what has been called and whether it has returned, and `faulty` is
the interface of that. It only ever appends to the trace (`wp_append`), so that a specification is
stated for the empty trace and used after any other.

`Prog.eval` is the run in which nothing throws, which is what a run comes to that has not
failed (`run_eval`). Code without a `catch` throws exactly when one of its calls has
(`Propagates.wp`).
-/

variable {Op : Type} {Res : Op → Type} {ε α β : Type}

/-- What the program ends in and what it calls when every call returns. -/
def Prog.eval (answer : (o : Op) → Res o) : Prog Res ε α → Except ε α × List Op
  | ret a => (.ok a, [])
  | fail e => (.error e, [])
  | call o k => ((k (.ok (answer o))).eval answer).map id (o :: ·)

namespace Prog

section Eval

variable (answer : (o : Op) → Res o)

@[simp] theorem eval_pure (a : α) :
    (Pure.pure a : Prog Res ε α).eval answer = (.ok a, []) := rfl

@[simp] theorem eval_throw (e : ε) :
    (throw e : Prog Res ε α).eval answer = (.error e, []) := rfl

@[simp] theorem eval_op (o : Op) :
    (Prog.op o : Prog Res ε (Res o)).eval answer = (.ok (answer o), [o]) := rfl

@[simp] theorem eval_ofExcept (x : Except ε α) :
    (Prog.ofExcept x : Prog Res ε α).eval answer = (x, []) := by
  cases x <;> rfl

@[simp] theorem eval_bind (x : Prog Res ε α) (f : α → Prog Res ε β) :
    (x >>= f).eval answer = match x.eval answer with
      | (.ok a, ops) => ((f a).eval answer).map id (ops ++ ·)
      | (.error e, ops) => (.error e, ops) := by
  induction x with
  | ret a => rfl
  | fail e => rfl
  | call o k ih =>
    show ((k (.ok (answer o)) >>= f).eval answer).map id (o :: ·) = _
    rw [ih, eval]
    rcases (k (.ok (answer o))).eval answer with ⟨a | e, ops⟩ <;> rfl

@[simp] theorem eval_tryCatch (x : Prog Res ε α) (h : ε → Prog Res ε α) :
    (tryCatch x h).eval answer = match x.eval answer with
      | (.ok a, ops) => (.ok a, ops)
      | (.error e, ops) => ((h e).eval answer).map id (ops ++ ·) := by
  induction x with
  | ret a => rfl
  | fail e => rfl
  | call o k ih =>
    show ((tryCatch (k (.ok (answer o))) h).eval answer).map id (o :: ·) = _
    rw [ih, eval]
    rcases (k (.ok (answer o))).eval answer with ⟨a | e, ops⟩ <;> rfl

end Eval

end Prog

/-- A program that passes on what its calls throw. -/
def Prog.Propagates : Prog Res ε α → Prop
  | ret _ => True
  | fail _ => False
  | call _ k => (∀ e, k (.error e) = fail e) ∧ ∀ a, (k (.ok a)).Propagates

namespace Faults

/-- What has been called, and whether it has returned. -/
abbrev Trace (Op : Type) := List (Op × Bool)

/-- Some call has thrown. -/
def Failed (tr : Trace Op) : Prop := ∃ entry ∈ tr, entry.2 = false

@[simp] theorem failed_nil : ¬Failed ([] : Trace Op) := fun ⟨_, hmem, _⟩ => List.not_mem_nil hmem

@[simp] theorem failed_append {tr tr' : Trace Op} :
    Failed (tr ++ tr') ↔ Failed tr ∨ Failed tr' := by
  simp only [Failed, List.mem_append, or_and_right, exists_or]

@[simp] theorem failed_cons {o : Op} {b : Bool} {tr : Trace Op} :
    Failed ((o, b) :: tr) ↔ b = false ∨ Failed tr := by
  simp only [Failed, List.mem_cons, or_and_right, exists_or, exists_eq_left]

/-- The trace of calls that are named otherwise. -/
theorem failed_map {Op' : Type} {f : Op → Op'} {tr : Trace Op} :
    Failed (tr.map (Prod.map f id)) ↔ Failed tr := by
  constructor
  · rintro ⟨entry', hmem, hb⟩
    obtain ⟨entry, hentry, rfl⟩ := List.mem_map.mp hmem
    exact ⟨entry, hentry, hb⟩
  · rintro ⟨entry, hmem, hb⟩
    exact ⟨_, List.mem_map_of_mem hmem, hb⟩

/-- A call returns what `answer` says, or throws what it may. -/
def perform (answer : (o : Op) → Res o) (mayThrow : Op → ε → Bool) (o : Op) (e : Option ε)
    (tr : Trace Op) : Option (Except ε (Res o) × Trace Op) :=
  match e with
  | none => some (.ok (answer o), tr ++ [(o, true)])
  | some err => if mayThrow o err then some (.error err, tr ++ [(o, false)]) else none

variable {answer : (o : Op) → Res o} {mayThrow : Op → ε → Bool} {tr : Trace Op}

/-- The calls as an interface. -/
abbrev faulty (answer : (o : Op) → Res o) (mayThrow : Op → ε → Bool) :
    Interface Res ε (Trace Op) := .ofExec (perform answer mayThrow)

theorem post_iff {o : Op} {r : Except ε (Res o)} {tr' : Trace Op} :
    (faulty answer mayThrow).post tr o r tr' ↔
      (r = .ok (answer o) ∧ tr' = tr ++ [(o, true)]) ∨
        ∃ err, mayThrow o err = true ∧ r = .error err ∧ tr' = tr ++ [(o, false)] := by
  constructor
  · rintro ⟨e, he⟩
    cases e with
    | none =>
      obtain ⟨rfl, rfl⟩ := Prod.mk.inj (Option.some.inj he)
      exact .inl ⟨rfl, rfl⟩
    | some err =>
      by_cases hthrow : mayThrow o err = true
      · rw [perform, if_pos hthrow] at he
        obtain ⟨rfl, rfl⟩ := Prod.mk.inj (Option.some.inj he)
        exact .inr ⟨err, hthrow, rfl, rfl⟩
      · rw [perform, if_neg hthrow] at he
        cases he
  · rintro (⟨rfl, rfl⟩ | ⟨err, hthrow, rfl, rfl⟩)
    · exact ⟨none, rfl⟩
    · exact ⟨some err, if_pos hthrow⟩

/-- A call returns or throws. -/
theorem wp_call {o : Op} {k : Except ε (Res o) → Prog Res ε α}
    {Q : Except ε α → Trace Op → Prop} :
    (faulty answer mayThrow).wp (.call o k) Q tr ↔
      (faulty answer mayThrow).wp (k (.ok (answer o))) Q (tr ++ [(o, true)]) ∧
        ∀ err, mayThrow o err = true →
          (faulty answer mayThrow).wp (k (.error err)) Q (tr ++ [(o, false)]) := by
  constructor
  · rintro ⟨-, h⟩
    exact ⟨h _ _ (post_iff.mpr (.inl ⟨rfl, rfl⟩)), fun err hthrow =>
      h _ _ (post_iff.mpr (.inr ⟨err, hthrow, rfl, rfl⟩))⟩
  · rintro ⟨hok, herror⟩
    refine ⟨trivial, fun r tr' hpost => ?_⟩
    obtain ⟨rfl, rfl⟩ | ⟨err, hthrow, rfl, rfl⟩ := post_iff.mp hpost
    · exact hok
    · exact herror err hthrow

/-- The trace so far is of no account. -/
theorem wp_append {p : Prog Res ε α} {Q : Except ε α → Trace Op → Prop} {tr' : Trace Op} :
    (faulty answer mayThrow).wp p Q (tr ++ tr') ↔
      (faulty answer mayThrow).wp p (fun r seg => Q r (tr ++ seg)) tr' := by
  induction p generalizing tr' with
  | ret a => exact Iff.rfl
  | fail e => exact Iff.rfl
  | call o k ih => rw [wp_call, wp_call, List.append_assoc, List.append_assoc, ih]; simp only [ih]

theorem wp_iff_nil {p : Prog Res ε α} {Q : Except ε α → Trace Op → Prop} :
    (faulty answer mayThrow).wp p Q tr ↔
      (faulty answer mayThrow).wp p (fun r seg => Q r (tr ++ seg)) [] := by
  rw [← wp_append, List.append_nil]

@[simp] theorem wp_op {o : Op} {Q : Except ε (Res o) → Trace Op → Prop} :
    (faulty answer mayThrow).wp (.op o) Q tr ↔
      Q (.ok (answer o)) (tr ++ [(o, true)]) ∧
        ∀ err, mayThrow o err = true → Q (.error err) (tr ++ [(o, false)]) :=
  wp_call

/-- What has failed stays failed. -/
theorem wp_failed (p : Prog Res ε α) (h : Failed tr) :
    (faulty answer mayThrow).wp p (fun _ tr' => Failed tr') tr := by
  refine Interface.wp_invariant (fun _ _ _ => trivial) (fun tr o r tr' h hpost => ?_) p h
  obtain ⟨-, rfl⟩ | ⟨-, -, -, rfl⟩ := post_iff.mp hpost
  · exact failed_append.mpr (.inl h)
  · exact failed_append.mpr (.inl h)

/-! ### Without faults -/

/-- **A run that has not failed** is the run in which nothing throws. -/
theorem run_eval {p : Prog Res ε α} {es : List (Option ε)} {r : Except ε α} {tr' : Trace Op}
    (h : p.run (perform answer mayThrow) es tr = some (r, tr')) (hok : ¬Failed tr') :
    r = (p.eval answer).1 ∧ tr' = tr ++ (p.eval answer).2.map (·, true) := by
  refine Interface.run_wp (Q := fun r tr' => ¬Failed tr' → r = (p.eval answer).1 ∧
    tr' = tr ++ (p.eval answer).2.map (·, true)) ?_ h hok
  clear h
  induction p generalizing tr with
  | ret a => exact fun _ => ⟨rfl, (List.append_nil tr).symm⟩
  | fail e => exact fun _ => ⟨rfl, (List.append_nil tr).symm⟩
  | call o k ih =>
    refine wp_call.mpr ⟨?_, fun err _ => ?_⟩
    · refine Interface.wp_mono (fun r tr' hr hok => ?_) (ih (.ok (answer o)))
      obtain ⟨rfl, rfl⟩ := hr hok
      exact ⟨rfl, List.append_assoc ..⟩
    · have hfailed : Failed (tr ++ [(o, false)]) := by simp
      exact Interface.wp_mono (fun _ _ h hok => absurd h hok) (wp_failed _ hfailed)

/-- The run in which nothing throws. -/
theorem runs_eval {answer : (o : Op) → Res o} {mayThrow : Op → ε → Bool} (p : Prog Res ε α)
    (tr : Trace Op) : (faulty answer mayThrow).Runs p tr (p.eval answer).1
      (tr ++ (p.eval answer).2.map (·, true)) := by
  induction p generalizing tr with
  | ret a => exact ⟨rfl, List.append_nil tr⟩
  | fail e => exact ⟨rfl, List.append_nil tr⟩
  | call o k ih =>
    refine ⟨_, _, post_iff.mpr (.inl ⟨rfl, rfl⟩), ?_⟩
    have hrest := ih (.ok (answer o)) (tr ++ [(o, true)])
    rwa [List.append_assoc] at hrest

end Faults

namespace Prog

theorem Propagates.pure (a : α) : (Pure.pure a : Prog Res ε α).Propagates := trivial

theorem Propagates.op (o : Op) : (Prog.op o : Prog Res ε (Res o)).Propagates :=
  ⟨fun _ => rfl, fun _ => trivial⟩

theorem Propagates.bind {x : Prog Res ε α} {f : α → Prog Res ε β} (hx : x.Propagates)
    (hf : ∀ a, (f a).Propagates) : (x >>= f).Propagates := by
  induction x with
  | ret a => exact hf a
  | fail e => exact hx.elim
  | call o k ih =>
    refine ⟨fun e => ?_, fun a => ih _ (hx.2 a)⟩
    show (k (.error e)).bind f = fail e
    rw [hx.1 e]
    rfl

theorem Propagates.ite {c : Prop} [Decidable c] {x y : Prog Res ε α} (hx : x.Propagates)
    (hy : y.Propagates) : (if c then x else y).Propagates := by
  split
  · exact hx
  · exact hy

open Faults in
/-- Such code throws exactly when one of its calls has. -/
theorem Propagates.wp {answer : (o : Op) → Res o} {mayThrow : Op → ε → Bool}
    {p : Prog Res ε α} (hp : p.Propagates) :
    (faulty answer mayThrow).wp p (fun r seg => Failed seg ↔ ∃ e, r = .error e) [] := by
  induction p with
  | ret a => exact iff_of_false failed_nil fun ⟨_, h⟩ => (nomatch h)
  | fail e => exact hp.elim
  | call o k ih =>
    refine wp_call.mpr ⟨?_, fun err _ => ?_⟩
    · refine wp_iff_nil.mpr (Interface.wp_mono (fun r seg h => ?_) (ih _ (hp.2 _)))
      simpa using h
    · rw [hp.1 err]
      exact iff_of_true (by simp) ⟨err, rfl⟩

open Faults in
/-- It throws, or ends in what it comes to when nothing throws. -/
theorem Propagates.wp_eval {answer : (o : Op) → Res o} {mayThrow : Op → ε → Bool}
    {p : Prog Res ε α} (hp : p.Propagates) {tr : Trace Op} :
    (faulty answer mayThrow).wp p (fun r _ => r = (p.eval answer).1 ∨ ∃ e, r = .error e) tr := by
  induction p generalizing tr with
  | ret a => exact .inl rfl
  | fail e => exact hp.elim
  | call o k ih =>
    refine wp_call.mpr ⟨ih _ (hp.2 _), fun err _ => ?_⟩
    rw [hp.1 err]
    exact .inr ⟨err, rfl⟩

end Prog
