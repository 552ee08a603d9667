import ItsBedalyo.Lib.Prog

/-!
# Programs that read memory

`Prog.play` is the run of a program among calls that are determined: each has its answer in the
state in which it is made. Some calls read memory that nobody has written, and `Memory.remember`
answers them from whatever it holds there, so that two runs with different memory show what a
program makes of it. Code that never reads is played the same with any memory
(`Avoids.play_remember`).
-/

variable {Op : Type} {Res : Op → Type} {ε α β σ : Type}

namespace Prog

/-- What the program ends in, the state then and what it has called. -/
def play (answer : σ → (o : Op) → Except ε (Res o) × σ) :
    Prog Res ε α → σ → Except ε α × σ × List Op
  | ret a, s => (.ok a, s, [])
  | fail e, s => (.error e, s, [])
  | call o k, s =>
    ((k (answer s o).1).play answer (answer s o).2).map id (Prod.map id (o :: ·))

section Play

variable {answer : σ → (o : Op) → Except ε (Res o) × σ} {s : σ}

@[simp] theorem play_pure (a : α) : (pure a : Prog Res ε α).play answer s = (.ok a, s, []) := rfl

@[simp] theorem play_throw (e : ε) :
    (throw e : Prog Res ε α).play answer s = (.error e, s, []) := rfl

@[simp] theorem play_ofExcept (x : Except ε α) :
    (Prog.ofExcept x : Prog Res ε α).play answer s = (x, s, []) := by
  cases x <;> rfl

@[simp] theorem play_op (o : Op) : (Prog.op o : Prog Res ε (Res o)).play answer s =
    ((answer s o).1, (answer s o).2, [o]) := by
  rw [Prog.op, play]
  cases (answer s o).1 <;> rfl

@[simp] theorem play_bind (x : Prog Res ε α) (f : α → Prog Res ε β) :
    (x >>= f).play answer s = match x.play answer s with
      | (.ok a, s', ops) => ((f a).play answer s').map id (Prod.map id (ops ++ ·))
      | (.error e, s', ops) => (.error e, s', ops) := by
  induction x generalizing s with
  | ret a => rfl
  | fail e => rfl
  | call o k ih =>
    show ((k (answer s o).1 >>= f).play answer (answer s o).2).map id _ = _
    rw [ih, play]
    rcases (k (answer s o).1).play answer (answer s o).2 with ⟨a | e, s', ops⟩ <;> rfl

@[simp] theorem play_tryCatch (x : Prog Res ε α) (h : ε → Prog Res ε α) :
    (tryCatch x h).play answer s = match x.play answer s with
      | (.ok a, s', ops) => (.ok a, s', ops)
      | (.error e, s', ops) => ((h e).play answer s').map id (Prod.map id (ops ++ ·)) := by
  induction x generalizing s with
  | ret a => rfl
  | fail e => rfl
  | call o k ih =>
    show ((tryCatch (k (answer s o).1) h).play answer (answer s o).2).map id _ = _
    rw [ih, play]
    rcases (k (answer s o).1).play answer (answer s o).2 with ⟨a | e, s', ops⟩ <;> rfl

end Play

theorem bind_assoc {γ : Type} (x : Prog Res ε α) (f : α → Prog Res ε β) (g : β → Prog Res ε γ) :
    x >>= f >>= g = x >>= fun a => f a >>= g := by
  induction x with
  | ret a => rfl
  | fail e => rfl
  | call o k ih => exact congrArg (call o) (funext fun r => ih r)

theorem ret_bind (a : α) (f : α → Prog Res ε β) : (pure a : Prog Res ε α) >>= f = f a := rfl

theorem throw_bind (e : ε) (f : α → Prog Res ε β) :
    (throw e : Prog Res ε α) >>= f = throw e := rfl

/-- No call is one that `reads`. -/
def Avoids (reads : Op → Bool) : Prog Res ε α → Prop
  | ret _ => True
  | fail _ => True
  | call o k => reads o = false ∧ ∀ r, (k r).Avoids reads

namespace Avoids

variable {reads : Op → Bool} {x : Prog Res ε α}

protected theorem pure (a : α) : (pure a : Prog Res ε α).Avoids reads := trivial

theorem throw (e : ε) : (throw e : Prog Res ε α).Avoids reads := trivial

theorem ofExcept (x : Except ε α) : (Prog.ofExcept x : Prog Res ε α).Avoids reads := by
  cases x <;> trivial

theorem op {o : Op} (ho : reads o = false) : (Prog.op o : Prog Res ε (Res o)).Avoids reads :=
  ⟨ho, fun r => by cases r <;> trivial⟩

theorem bind {f : α → Prog Res ε β} (hx : x.Avoids reads) (hf : ∀ a, (f a).Avoids reads) :
    (x >>= f).Avoids reads := by
  induction x with
  | ret a => exact hf a
  | fail e => trivial
  | call o k ih => exact ⟨hx.1, fun r => ih r (hx.2 r)⟩

theorem tryCatch {h : ε → Prog Res ε α} (hx : x.Avoids reads) (hh : ∀ e, (h e).Avoids reads) :
    (tryCatch x h).Avoids reads := by
  induction x with
  | ret a => trivial
  | fail e => exact hh e
  | call o k ih => exact ⟨hx.1, fun r => ih r (hx.2 r)⟩

theorem ite {c : Prop} [Decidable c] {y : Prog Res ε α} (hx : x.Avoids reads)
    (hy : y.Avoids reads) : (if c then x else y).Avoids reads := by
  split
  · exact hx
  · exact hy

/-- A program over calls that do not read. -/
theorem embed {Op' : Type} {f : Op' → Op} (hf : ∀ o, reads (f o) = false)
    (p : Prog (fun o => Res (f o)) ε α) : (p.embed f).Avoids reads := by
  induction p with
  | ret a => trivial
  | fail e => trivial
  | call o k ih => exact ⟨hf o, ih⟩

/-- No call reads. -/
theorem of_forall (h : ∀ o, reads o = false) (x : Prog Res ε α) : x.Avoids reads := by
  induction x with
  | ret a => trivial
  | fail e => trivial
  | call o k ih => exact ⟨h o, ih⟩

section State

variable {answer : σ → (o : Op) → Except ε (Res o) × σ} {s : σ}
  (hanswer : ∀ s o, reads o = false → (answer s o).2 = s)

include hanswer

/-- A program without the calls that change the state. -/
theorem play_state (hx : x.Avoids reads) : (x.play answer s).2.1 = s := by
  induction x with
  | ret a => rfl
  | fail e => rfl
  | call o k ih =>
    rw [play]
    exact (congrArg (fun s' => ((k (answer s o).1).play answer s').2.1) (hanswer s o hx.1)).trans
      (ih _ (hx.2 _))

/-- What follows, or handles an exception, leaves the state as it is. -/
theorem play_state_tryCatch {f : α → Prog Res ε β} {h : ε → Prog Res ε β}
    (hf : ∀ a, (f a).Avoids reads) (hh : ∀ e, (h e).Avoids reads) :
    ((MonadExcept.tryCatch (x >>= f) h).play answer s).2.1 = (x.play answer s).2.1 := by
  rw [play_tryCatch, play_bind]
  rcases x.play answer s with ⟨e | a, s', ops⟩
  · exact (hh e).play_state hanswer
  · dsimp only
    have hstate : ((f a).play answer s').2.1 = s' := (hf a).play_state hanswer
    cases hplay : (f a).play answer s' with
    | mk r rest =>
      rw [hplay] at hstate
      cases r with
      | error e => exact ((hh e).play_state hanswer).trans hstate
      | ok b => exact hstate

end State

end Avoids

end Prog

/-- What the calls that read find, one after another. -/
abbrev Memory (Res : Op → Type) (reads : Op → Bool) := ℕ → (o : Op) → reads o = true → Res o

namespace Memory

variable {reads : Op → Bool}

/-- The calls that read are answered from the memory, the others as before. -/
def remember (reads : Op → Bool) (answer : σ → (o : Op) → Except ε (Res o) × σ)
    (s : σ × Memory Res reads) (o : Op) : Except ε (Res o) × σ × Memory Res reads :=
  if h : reads o = true then (.ok (s.2 0 o h), s.1, fun n => s.2 (n + 1))
  else ((answer s.1 o).1, (answer s.1 o).2, s.2)

variable {answer : σ → (o : Op) → Except ε (Res o) × σ}

theorem remember_of_reads {s : σ × Memory Res reads} {o : Op} (h : reads o = true) :
    remember reads answer s o = (.ok (s.2 0 o h), s.1, fun n => s.2 (n + 1)) := dif_pos h

theorem remember_of_not {s : σ × Memory Res reads} {o : Op} (h : reads o = false) :
    remember reads answer s o = ((answer s.1 o).1, (answer s.1 o).2, s.2) :=
  dif_neg (by simp [h])

end Memory

/-- **Code that does not read** is played as if there were no memory. -/
theorem Prog.Avoids.play_remember {reads : Op → Bool}
    {answer : σ → (o : Op) → Except ε (Res o) × σ} {p : Prog Res ε α} (hp : p.Avoids reads)
    (s : σ) (m : Memory Res reads) :
    p.play (Memory.remember reads answer) (s, m) =
      ((p.play answer s).1, ((p.play answer s).2.1, m), (p.play answer s).2.2) := by
  induction p generalizing s with
  | ret a => rfl
  | fail e => rfl
  | call o k ih =>
    rw [Prog.play, Prog.play, Memory.remember_of_not hp.1, ih _ (hp.2 _)]
    rfl

/-! ### What a run makes of the memory -/

/-- Whatever the memory holds, the program ends in the same way and calls the same. -/
def Prog.Steady (reads : Op → Bool) (answer : σ → (o : Op) → Except ε (Res o) × σ)
    (p : Prog Res ε α) (s : σ) : Prop :=
  ∃ r s' ops, ∀ m : Memory Res reads, ∃ m',
    p.play (Memory.remember reads answer) (s, m) = (r, (s', m'), ops)

namespace Prog.Steady

variable {reads : Op → Bool} {answer : σ → (o : Op) → Except ε (Res o) × σ} {s : σ}
  {p : Prog Res ε α}

theorem of_avoids (hp : p.Avoids reads) : p.Steady reads answer s :=
  ⟨_, _, _, fun m => ⟨m, hp.play_remember s m⟩⟩

theorem tryCatch {h : ε → Prog Res ε α} (hp : p.Steady reads answer s)
    (hh : ∀ e s', (h e).Steady reads answer s') : (tryCatch p h).Steady reads answer s := by
  obtain ⟨r, s', ops, hplay⟩ := hp
  cases r with
  | ok a =>
    refine ⟨.ok a, s', ops, fun m => ?_⟩
    obtain ⟨m', hm⟩ := hplay m
    exact ⟨m', by rw [play_tryCatch, hm]⟩
  | error e =>
    obtain ⟨r', s'', ops', hplay'⟩ := hh e s'
    refine ⟨r', s'', ops ++ ops', fun m => ?_⟩
    obtain ⟨m', hm⟩ := hplay m
    obtain ⟨m'', hm'⟩ := hplay' m'
    refine ⟨m'', ?_⟩
    rw [play_tryCatch, hm]
    show ((h e).play _ (s', m')).map id (Prod.map id (ops ++ ·)) = _
    rw [hm']
    rfl

/-- A `try` that returns. -/
theorem tryCatch_of_ok {h : ε → Prog Res ε α} (hp : p.Avoids reads)
    (hok : ∃ a, (p.play answer s).1 = .ok a) :
    (MonadExcept.tryCatch p h).Steady reads answer s := by
  obtain ⟨a, ha⟩ := hok
  refine ⟨.ok a, (p.play answer s).2.1, (p.play answer s).2.2, fun m => ⟨m, ?_⟩⟩
  rw [play_tryCatch, hp.play_remember, ha]

/-- The calls are those with any other memory. -/
theorem calls_eq (hp : p.Steady reads answer s) (m m' : Memory Res reads) :
    (p.play (Memory.remember reads answer) (s, m)).2.2 =
      (p.play (Memory.remember reads answer) (s, m')).2.2 := by
  obtain ⟨r, s', ops, hplay⟩ := hp
  obtain ⟨_, hm⟩ := hplay m
  obtain ⟨_, hm'⟩ := hplay m'
  rw [hm, hm']

end Prog.Steady
