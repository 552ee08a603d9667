import ItsBedalyo.Lib.Runs
import ItsBedalyo.Thread.ThreadPool

/-!
# What the tasks of the pool do

`ThreadPool` says which worker runs which task; here the tasks are programs over a shared world,
and a worker that runs one performs its operations one at a time. `HandledInOrder` is the
sequential reading: one task after the other, in the order in which they were enqueued.

An `Observation` is the part of the world to compare: a `shared` part that some tasks only read, and
a log of each task. If a task that changes the shared part runs only while no other task does, the
pool shows what the sequential reading shows (`inOrder_of_along`).
-/

namespace ItsBedalyo

namespace ThreadPool

variable {n : ℕ} {α : Type*}

/-! ### The order of the pool -/

/-- What a step does to the queue and to the tasks that run. -/
inductive Moved (s s' : State n α) : Action n α → Prop
  | pushed (task : α) (htasks : s'.tasks = s.tasks ++ [task])
    (henqueued : s'.enqueued = s.enqueued ++ [task]) (hstarted : s'.started = s.started)
    (hworkers : s'.workers = s.workers) : Moved s s' (.push task)
  | taken (w : Fin n) (task : α) (hready : s.workers w = .ready)
    (htasks : s.tasks = task :: s'.tasks) (henqueued : s'.enqueued = s.enqueued)
    (hstarted : s'.started = s.started ++ [task])
    (hworkers : s'.workers = Function.update s.workers w (.running s.started.length)) :
    Moved s s' (.lock w)
  | finished (w : Fin n) (i : ℕ) (hrunning : s.workers w = .running i)
    (htasks : s'.tasks = s.tasks) (henqueued : s'.enqueued = s.enqueued)
    (hstarted : s'.started = s.started)
    (hworkers : s'.workers = Function.update s.workers w .ready) : Moved s s' (.finish w)
  | other (a : Action n α) (hpush : ∀ task, a ≠ .push task) (htasks : s'.tasks = s.tasks)
    (henqueued : s'.enqueued = s.enqueued) (hstarted : s'.started = s.started)
    (hworkers : ∀ w i, s'.workers w = .running i ↔ s.workers w = .running i) : Moved s s' a

/-- A worker that runs nothing goes where it runs nothing. -/
theorem running_goto_iff {s : State n α} {w : Fin n} {phase : Phase}
    (hw : ∀ i, s.workers w ≠ .running i) (hphase : ∀ i, phase ≠ .running i) (w' : Fin n) (i : ℕ) :
    (s.goto w phase).workers w' = .running i ↔ s.workers w' = .running i := by
  show Function.update s.workers w phase w' = .running i ↔ _
  rcases eq_or_ne w' w with rfl | hne
  · rw [Function.update_self]
    exact iff_of_false (hphase i) (hw i)
  · rw [Function.update_of_ne hne]

theorem moved_of_step {s s' : State n α} {a : Action n α} (hs : step s a = some s') :
    Moved s s' a := by
  cases a with
  | push task =>
    obtain ⟨-, heq⟩ := Option.ite_none_left_eq_some.mp hs
    cases heq
    -- only `push`, `lock` and `finish` move a task
    exact .pushed task rfl rfl rfl rfl
  | notifyOne woken =>
    cases woken with
    | some w =>
      obtain ⟨⟨-, hw⟩, heq⟩ := Option.ite_none_right_eq_some.mp hs
      cases heq
      exact .other _ (fun _ h => by cases h) rfl rfl rfl (running_goto_iff (by simp [hw]) (by simp))
    | none =>
      obtain ⟨-, heq⟩ := Option.ite_none_right_eq_some.mp hs
      cases heq
      exact .other _ (fun _ h => by cases h) rfl rfl rfl fun _ _ => Iff.rfl
  | lock w =>
    obtain ⟨hw, heq⟩ := Option.ite_none_right_eq_some.mp hs
    cases heq
    -- asleep again, gone, or with the first task of the queue
    unfold State.critical
    split
    · exact .other _ (fun _ h => by cases h) rfl rfl rfl (running_goto_iff (by simp [hw]) (by simp))
    · exact .other _ (fun _ h => by cases h) rfl rfl rfl (running_goto_iff (by simp [hw]) (by simp))
    · next task rest htasks => exact .taken w task hw htasks rfl rfl rfl
  | spurious w =>
    obtain ⟨hw, heq⟩ := Option.ite_none_right_eq_some.mp hs
    cases heq
    exact .other _ (fun _ h => by cases h) rfl rfl rfl (running_goto_iff (by simp [hw]) (by simp))
  | finish w =>
    simp only [step] at hs
    split at hs
    · next i hw =>
      cases hs
      exact .finished w i hw rfl rfl rfl rfl
    · cases hs
  | close =>
    obtain ⟨-, heq⟩ := Option.ite_none_right_eq_some.mp hs
    cases heq
    exact .other _ (fun _ h => by cases h) rfl rfl rfl fun _ _ => Iff.rfl
  | notifyAll =>
    obtain ⟨-, heq⟩ := Option.ite_none_right_eq_some.mp hs
    cases heq
    exact .other _ (fun _ h => by cases h) rfl rfl rfl s.roused_eq_running_iff
  | join =>
    simp only [step] at hs
    split at hs
    · split_ifs at hs
      cases hs
      exact .other _ (fun _ h => by cases h) rfl rfl rfl fun _ _ => Iff.rfl
    · cases hs

/-- The tasks that run have been started, each is run by one worker, and those started come before
those that wait. -/
structure Placed (s : State n α) : Prop where
  order : s.started ++ s.tasks = s.enqueued
  lt : ∀ w i, s.workers w = .running i → i < s.started.length
  inj : ∀ w w' i, s.workers w = .running i → s.workers w' = .running i → w = w'

theorem Placed.init : Placed (State.init n α) := ⟨rfl, nofun, nofun⟩

theorem Placed.of_moved {s s' : State n α} {a : Action n α} (h : Placed s) (hm : Moved s s' a) :
    Placed s' := by
  cases hm with
  | pushed task htasks henqueued hstarted hworkers =>
    refine ⟨?_, ?_, ?_⟩
    · rw [hstarted, htasks, henqueued, ← h.order, List.append_assoc]
    · simpa only [hworkers, hstarted] using h.lt
    · simpa only [hworkers] using h.inj
  | taken w task hready htasks henqueued hstarted hworkers =>
    have hothers : ∀ w' ≠ w, s'.workers w' = s.workers w' := fun w' hne => by
      rw [hworkers, Function.update_of_ne hne]
    have hself : s'.workers w = .running s.started.length := by
      rw [hworkers, Function.update_self]
    refine ⟨?_, fun w' i hi => ?_, fun w₁ w₂ i h₁ h₂ => ?_⟩
    · rw [hstarted, henqueued, ← h.order, htasks, List.append_assoc]
      rfl
    · rw [hstarted, List.length_append, List.length_singleton]
      rcases eq_or_ne w' w with rfl | hne
      · cases hself.symm.trans hi
        exact Nat.lt_succ_self _
      · exact Nat.lt_succ_of_lt (h.lt w' i ((hothers w' hne).symm.trans hi))
    · -- the new position is larger than those that run
      rcases eq_or_ne w₁ w with rfl | hne₁
      · rcases eq_or_ne w₂ w₁ with rfl | hne₂
        · rfl
        · cases hself.symm.trans h₁
          exact absurd (h.lt w₂ _ ((hothers w₂ hne₂).symm.trans h₂)) (Nat.lt_irrefl _)
      · rcases eq_or_ne w₂ w with rfl | hne₂
        · cases hself.symm.trans h₂
          exact absurd (h.lt w₁ _ ((hothers w₁ hne₁).symm.trans h₁)) (Nat.lt_irrefl _)
        · exact h.inj w₁ w₂ i ((hothers w₁ hne₁).symm.trans h₁) ((hothers w₂ hne₂).symm.trans h₂)
  | finished w i hrunning htasks henqueued hstarted hworkers =>
    have hbefore : ∀ w' i', s'.workers w' = .running i' → s.workers w' = .running i' := by
      intro w' i' hi
      rw [hworkers, Function.update_apply] at hi
      split_ifs at hi
      exact hi
    refine ⟨?_, fun w' i' hi => ?_, fun w₁ w₂ i' h₁ h₂ => ?_⟩
    · rw [hstarted, htasks, henqueued, h.order]
    · rw [hstarted]
      exact h.lt w' i' (hbefore w' i' hi)
    · exact h.inj w₁ w₂ i' (hbefore w₁ i' h₁) (hbefore w₂ i' h₂)
  | other _ _ htasks henqueued hstarted hworkers =>
    refine ⟨?_, ?_, ?_⟩
    · rw [hstarted, htasks, henqueued, h.order]
    · simpa only [hworkers, hstarted] using h.lt
    · simpa only [hworkers] using h.inj

end ThreadPool

/-! ### Tasks -/

/-- What the tasks do: the program of each, and what an operation does for the task at a
position. -/
structure PoolTasks (α : Type*) {Op : Type} (Res : Op → Type) (ε : Type) (W Env : Type*) where
  program : α → Prog Res ε Unit
  exec : ℕ → (o : Op) → Env → W → Option (Except ε (Res o) × W)

namespace PoolTasks

open ThreadPool Prog

variable {n : ℕ} {α : Type*} {Op : Type} {Res : Op → Type} {ε : Type} {W Env : Type*}
  (T : PoolTasks α Res ε W Env)

/-- The pool, what is left of the task at each position, and the world. -/
structure State (n : ℕ) (α : Type*) {Op : Type} (Res : Op → Type) (ε : Type) (W : Type*) where
  pool : ThreadPool.State n α
  threads : Threads ℕ Res ε W

/-- The pool after its constructor. -/
def start (n : ℕ) (w : W) : State n α Res ε W := ⟨.init n α, ⟨fun _ => .ret (), w⟩⟩

/-- Who moves: the pool, or the task that a worker runs. -/
inductive Action (n : ℕ) (α Env : Type*)
  | pool (a : ThreadPool.Action n α)
  | work (w : Fin n) (e : Env)

/-- One step. A task is a program from its `enqueue` on; it returns when nothing is left. -/
def step (s : State n α Res ε W) : Action n α Env → Option (State n α Res ε W)
  | .pool (.push task) =>
    (ThreadPool.step s.pool (.push task)).map fun pool =>
      ⟨pool, { s.threads with
        todo := Function.update s.threads.todo s.pool.enqueued.length (T.program task) }⟩
  | .pool (.finish w) =>
    match s.pool.workers w with
    | .running i =>
      match s.threads.todo i with
      | call _ _ => none
      | _ => (ThreadPool.step s.pool (.finish w)).map fun pool => { s with pool := pool }
    | _ => none
  | .pool a => (ThreadPool.step s.pool a).map fun pool => { s with pool := pool }
  | .work w e =>
    match s.pool.workers w with
    | .running i => (Threads.step T.exec s.threads (i, e)).map fun threads =>
        { s with threads := threads }
    | _ => none

/-- What a step consists of. -/
inductive Moved (s s' : State n α Res ε W) : Action n α Env → Prop
  | push (task : α) (hpool : ThreadPool.Moved s.pool s'.pool (.push task))
    (hthreads : s'.threads = { s.threads with
      todo := Function.update s.threads.todo s.pool.enqueued.length (T.program task) }) :
    Moved s s' (.pool (.push task))
  | pool (a : ThreadPool.Action n α) (hpush : ∀ task, a ≠ .push task)
    (hpool : ThreadPool.Moved s.pool s'.pool a) (hthreads : s'.threads = s.threads)
    (hreturned : ∀ w i, a = .finish w → s.pool.workers w = .running i → s.threads.Finished i) :
    Moved s s' (.pool a)
  | work (w : Fin n) (e : Env) (i : ℕ) (hrunning : s.pool.workers w = .running i)
    (hpool : s'.pool = s.pool) (hstep : Threads.step T.exec s.threads (i, e) = some s'.threads) :
    Moved s s' (.work w e)

theorem moved_of_step {s s' : State n α Res ε W} {a : Action n α Env} (hs : T.step s a = some s') :
    T.Moved s s' a := by
  cases a with
  | work w e =>
    simp only [step] at hs
    split at hs
    · next i hrunning =>
      obtain ⟨threads, hstep, rfl⟩ := Option.map_eq_some_iff.mp hs
      exact .work w e i hrunning rfl hstep
    · cases hs
  | pool a =>
    cases a with
    | push task =>
      obtain ⟨pool, hpool, rfl⟩ := Option.map_eq_some_iff.mp hs
      exact .push task (ThreadPool.moved_of_step hpool) rfl
    | finish w =>
      simp only [step] at hs
      split at hs
      · next i hrunning =>
        split at hs
        · cases hs
        · next htodo =>
          obtain ⟨pool, hpool, rfl⟩ := Option.map_eq_some_iff.mp hs
          refine .pool _ nofun (ThreadPool.moved_of_step hpool) rfl ?_
          rintro _ i' ⟨⟩ hrunning'
          obtain rfl := Phase.running.inj (hrunning.symm.trans hrunning')
          exact htodo
      · cases hs
    | _ =>
      obtain ⟨pool, hpool, rfl⟩ := Option.map_eq_some_iff.mp hs
      exact .pool _ nofun (ThreadPool.moved_of_step hpool) rfl nofun

/-- The tasks are handled one after the other, the first at this position. -/
def HandledInOrder : ℕ → List α → W → W → Prop
  | _, [], w, w' => w' = w
  | i, task :: rest, w, w' => ∃ es r w₁,
      (T.program task).run (T.exec i) es w = some (r, w₁) ∧ HandledInOrder (i + 1) rest w₁ w'

/-- What there is to compare: a part of the world that the tasks share, and a log of each. The
effect of a task on the shared part and its log depend on the shared part alone, and some tasks
only read it. -/
structure Observation (σ Λ : Type*) where
  shared : W → σ
  log : W → ℕ → List Λ
  /-- what a task may call, and what this does to the shared part and to its log -/
  interface : ℕ → α → Interface Res ε (σ × List Λ)
  effect : ℕ → α → σ → σ × List Λ
  Reads : α → Prop
  exec_post : ∀ i a o e w r w', T.exec i o e w = some (r, w') →
    (interface i a).post (shared w, log w i) o r (shared w', log w' i)
  exec_log : ∀ i o e w r w' j, T.exec i o e w = some (r, w') → j ≠ i → log w' j = log w j
  program_wp : ∀ i a s, (interface i a).wp (T.program a) (fun _ g => g = effect i a s) (s, [])
  post_of_reads : ∀ i a g o r g', Reads a → (interface i a).pre g o →
    (interface i a).post g o r g' → g'.1 = g.1
  effect_of_reads : ∀ i a s, Reads a → (effect i a s).1 = s

namespace Observation

variable {T} {σ Λ : Type*} (O : T.Observation σ Λ)

/-- The shared part before the task at a position, when they are handled in order. -/
def before (s₀ : σ) (tasks : List α) : ℕ → σ
  | 0 => s₀
  | k + 1 =>
    match tasks[k]? with
    | some task => (O.effect k task (before s₀ tasks k)).1
    | none => before s₀ tasks k

/-- The log of the task at a position. -/
def logs (s₀ : σ) (tasks : List α) (k : ℕ) : List Λ :=
  match tasks[k]? with
  | some task => (O.effect k task (O.before s₀ tasks k)).2
  | none => []

variable {O} {s₀ : σ} {tasks : List α}

theorem before_succ {k : ℕ} {task : α} (htask : tasks[k]? = some task) :
    O.before s₀ tasks (k + 1) = (O.effect k task (O.before s₀ tasks k)).1 := by
  rw [before, htask]

theorem logs_of_some {k : ℕ} {task : α} (htask : tasks[k]? = some task) :
    O.logs s₀ tasks k = (O.effect k task (O.before s₀ tasks k)).2 := by
  rw [logs, htask]

theorem logs_of_le {k : ℕ} (hk : tasks.length ≤ k) : O.logs s₀ tasks k = [] := by
  rw [logs, List.getElem?_eq_none hk]

/-- A later task changes nothing before it. -/
theorem before_append (task : α) {k : ℕ} (hk : k ≤ tasks.length) :
    O.before s₀ (tasks ++ [task]) k = O.before s₀ tasks k := by
  induction k with
  | zero => rfl
  | succ k ih =>
    rw [before, before, List.getElem?_append_left hk, ih (Nat.le_of_succ_le hk)]

theorem logs_append_of_ne (task : α) {k : ℕ} (hk : k ≠ tasks.length) :
    O.logs s₀ (tasks ++ [task]) k = O.logs s₀ tasks k := by
  rcases Nat.lt_or_gt_of_ne hk with hlt | hgt
  · rw [logs, logs, List.getElem?_append_left hlt, before_append task hlt.le]
  · rw [logs_of_le hgt.le, logs_of_le]
    rw [List.length_append, List.length_singleton]
    exact hgt

/-- A task on its own. -/
theorem run_task {i : ℕ} {task : α} {es : List Env} {w w' : W} {r : Except ε Unit}
    (hlog : O.log w i = []) (hr : (T.program task).run (T.exec i) es w = some (r, w')) :
    (O.shared w', O.log w' i) = O.effect i task (O.shared w) ∧ ∀ j ≠ i, O.log w' j = O.log w j := by
  have hwp := O.program_wp i task (O.shared w)
  rw [← hlog] at hwp
  have halone := Interface.wp_simulate (I := Interface.ofExec (T.exec i))
    (R := fun w₁ g => g = (O.shared w₁, O.log w₁ i) ∧ ∀ j ≠ i, O.log w₁ j = O.log w j)
    (fun _ _ _ _ _ => trivial) ?_ ⟨rfl, fun _ _ => rfl⟩ hwp
  · obtain ⟨g, ⟨rfl, hothers⟩, heffect⟩ := Interface.run_wp halone hr
    exact ⟨heffect, hothers⟩
  · rintro w₁ _ o x w₂ ⟨rfl, hothers⟩ ⟨e, hexec⟩
    refine ⟨_, O.exec_post i task o e w₁ x w₂ hexec, rfl, fun j hj => ?_⟩
    rw [O.exec_log i o e w₁ x w₂ j hexec hj, hothers j hj]

/-- **The sequential reading** is `before` and `logs`. -/
theorem view_of_handledInOrder {l : List α} {i : ℕ} {w w' : W} (h : T.HandledInOrder i l w w')
    (hl : ∀ k, tasks[i + k]? = l[k]?) (hshared : O.shared w = O.before s₀ tasks i)
    (hbefore : ∀ k < i, O.log w k = O.logs s₀ tasks k) (hafter : ∀ k, i ≤ k → O.log w k = []) :
    O.shared w' = O.before s₀ tasks (i + l.length) ∧ ∀ k, O.log w' k = O.logs s₀ tasks k := by
  induction l generalizing i w with
  | nil =>
    obtain rfl := h
    refine ⟨hshared, fun k => ?_⟩
    rcases Nat.lt_or_ge k i with hlt | hge
    · exact hbefore k hlt
    · have hnone := hl (k - i)
      rw [Nat.add_sub_cancel' hge, List.getElem?_nil] at hnone
      rw [hafter k hge, logs, hnone]
  | cons task l ih =>
    obtain ⟨es, r, w₁, hr, hrest⟩ := h
    obtain ⟨heffect, hothers⟩ := run_task (hafter i le_rfl) hr
    have htask : tasks[i]? = some task := hl 0
    rw [hshared] at heffect
    rw [List.length_cons, Nat.add_comm l.length, ← Nat.add_assoc]
    refine ih hrest (fun k => ?_) ?_ (fun k hk => ?_) fun k hk => ?_
    · rw [Nat.add_assoc, Nat.add_comm 1 k]
      exact hl (k + 1)
    · rw [before_succ htask, ← heffect]
    · rcases Nat.lt_succ_iff_lt_or_eq.mp hk with hlt | rfl
      · rw [hothers k hlt.ne, hbefore k hlt]
      · rw [logs_of_some htask, ← heffect]
    · rw [hothers k (Nat.ne_of_gt hk), hafter k (Nat.le_of_succ_le hk)]

/-! ### Tasks that do not get in each other's way -/

/-- A worker takes up a task that only reads while all that run do, or any task while none runs. -/
def Exclusive (O : T.Observation σ Λ) (s : State n α Res ε W) : Action n α Env → Prop
  | .pool (.lock w) => ∀ task rest, s.pool.workers w = .ready → s.pool.tasks = task :: rest →
      ∀ w' i task', s.pool.workers w' = .running i → s.pool.started[i]? = some task' →
        O.Reads task ∧ O.Reads task'
  | _ => True

/-- With one worker that is always so. -/
theorem exclusive_of_one (s : State 1 α Res ε W) (a : Action 1 α Env) : Exclusive O s a := by
  cases a with
  | work w e => trivial
  | pool a =>
    cases a with
    | lock w =>
      intro task rest hready _ w' i task' hrunning
      rw [Subsingleton.elim w' w, hready] at hrunning
      cases hrunning
    | _ => trivial

/-- The tasks that have returned and those that run show what the sequential reading shows. -/
structure Ordered (O : T.Observation σ Λ) (s₀ : σ) (s : State n α Res ε W) : Prop where
  placed : ThreadPool.Placed s.pool
  waiting : ∀ k task, s.pool.started.length ≤ k → s.pool.enqueued[k]? = some task →
    s.threads.todo k = T.program task
  running : ∀ w i task, s.pool.workers w = .running i → s.pool.started[i]? = some task →
    (O.interface i task).wp (s.threads.todo i)
      (fun _ g => g = O.effect i task (O.before s₀ s.pool.started i))
      (O.shared s.threads.world, O.log s.threads.world i)
  logs : ∀ k, (∀ w, s.pool.workers w ≠ .running k) →
    O.log s.threads.world k = O.logs s₀ s.pool.started k
  quiet : (∀ w i task, s.pool.workers w = .running i → s.pool.started[i]? = some task →
    O.Reads task) → O.shared s.threads.world = O.before s₀ s.pool.started s.pool.started.length
  alone : ∀ w i task, s.pool.workers w = .running i → s.pool.started[i]? = some task →
    ¬O.Reads task → i + 1 = s.pool.started.length ∧
      ∀ w' i', s.pool.workers w' = .running i' → w' = w

theorem Ordered.start {w : W} (hlog : ∀ k, O.log w k = []) :
    Ordered O (O.shared w) (PoolTasks.start n w : State n α Res ε W) where
  placed := .init
  waiting _ _ _ htask := nomatch htask
  running _ _ _ hw := nomatch hw
  logs k _ := hlog k
  quiet _ := rfl
  alone _ _ _ hw := nomatch hw

section Steps

variable {s s' : State n α Res ε W} (h : Ordered O s₀ s)

include h

/-- A step of the pool in which no task is taken up: some that ran may have returned. -/
theorem Ordered.of_kept (hplaced : ThreadPool.Placed s'.pool)
    (hstarted : s'.pool.started = s.pool.started)
    (hworld : s'.threads.world = s.threads.world)
    (htodo : ∀ i < s.pool.started.length, s'.threads.todo i = s.threads.todo i)
    (hwaiting : ∀ k task, s.pool.started.length ≤ k → s'.pool.enqueued[k]? = some task →
      s'.threads.todo k = T.program task)
    (hruns : ∀ w i, s'.pool.workers w = .running i → s.pool.workers w = .running i)
    (hreturned : ∀ w i task, s.pool.workers w = .running i → s'.pool.workers w ≠ .running i →
      s.pool.started[i]? = some task →
        (O.shared s.threads.world, O.log s.threads.world i) =
          O.effect i task (O.before s₀ s.pool.started i)) : Ordered O s₀ s' := by
  refine ⟨hplaced, ?_, ?_, ?_, ?_, ?_⟩
  · rw [hstarted]
    exact hwaiting
  · intro w i task hi htask
    have hi' := hruns w i hi
    rw [hstarted] at htask ⊢
    rw [hworld, htodo i (h.placed.lt w i hi')]
    exact h.running w i task hi' htask
  · intro k hk
    rw [hworld, hstarted]
    by_cases hnobody : ∀ w, s.pool.workers w ≠ .running k
    · exact h.logs k hnobody
    · -- the task has just returned
      push Not at hnobody
      obtain ⟨w, hw⟩ := hnobody
      have htask := List.getElem?_eq_getElem (h.placed.lt w k hw)
      have heffect := hreturned w k _ hw (hk w) htask
      rw [logs_of_some htask, ← heffect]
  · intro hreads
    rw [hworld, hstarted]
    rw [hstarted] at hreads
    by_cases hall : ∀ w i task, s.pool.workers w = .running i →
        s.pool.started[i]? = some task → O.Reads task
    · exact h.quiet hall
    · -- the one that did not only read has just returned
      push Not at hall
      obtain ⟨w, i, task, hw, htask, hwrites⟩ := hall
      have hreturn := hreturned w i task hw (fun hi => hwrites (hreads w i task hi htask)) htask
      rw [← (h.alone w i task hw htask hwrites).1, before_succ htask, ← hreturn]
  · intro w i task hi htask hwrites
    rw [hstarted] at htask ⊢
    obtain ⟨hlast, halone⟩ := h.alone w i task (hruns w i hi) htask hwrites
    exact ⟨hlast, fun w' i' hi' => halone w' i' (hruns w' i' hi')⟩

theorem Ordered.push {task : α} (hpool : ThreadPool.Moved s.pool s'.pool (.push task))
    (hthreads : s'.threads = { s.threads with
      todo := Function.update s.threads.todo s.pool.enqueued.length (T.program task) }) :
    Ordered O s₀ s' := by
  have hplaced := h.placed.of_moved hpool
  cases hpool with
  | other _ hpush => exact absurd rfl (hpush task)
  | pushed _ htasks henqueued hstarted hworkers =>
    have hle : s.pool.started.length ≤ s.pool.enqueued.length := by
      rw [← h.placed.order, List.length_append]
      exact Nat.le_add_right _ _
    refine h.of_kept hplaced hstarted (by rw [hthreads]) (fun i hi => ?_) (fun k a hk ha => ?_)
      (fun w i hi => hworkers ▸ hi) fun w i a hi hi' => absurd (hworkers ▸ hi) hi'
    · rw [hthreads]
      exact Function.update_of_ne (hi.trans_le hle).ne _ _
    · rw [hthreads]
      rw [henqueued] at ha
      rcases eq_or_ne k s.pool.enqueued.length with rfl | hne
      · rw [List.getElem?_concat_length] at ha
        cases ha
        exact Function.update_self ..
      · refine (Function.update_of_ne hne _ _).trans (h.waiting k a hk ?_)
        rcases Nat.lt_or_gt_of_ne hne with hlt | hgt
        · rwa [List.getElem?_append_left hlt] at ha
        · rw [List.getElem?_eq_none (by rw [List.length_append]; exact hgt)] at ha
          cases ha

/-- The next task is taken up. -/
theorem Ordered.take {w : Fin n} {task : α} (hplaced : ThreadPool.Placed s'.pool)
    (hready : s.pool.workers w = .ready) (htasks : s.pool.tasks = task :: s'.pool.tasks)
    (henqueued : s'.pool.enqueued = s.pool.enqueued)
    (hstarted : s'.pool.started = s.pool.started ++ [task])
    (hworkers : s'.pool.workers =
      Function.update s.pool.workers w (.running s.pool.started.length))
    (hthreads : s'.threads = s.threads)
    (hexclusive : ∀ w' i task', s.pool.workers w' = .running i →
      s.pool.started[i]? = some task' → O.Reads task ∧ O.Reads task') : Ordered O s₀ s' := by
  set k := s.pool.started.length with hk
  have hnew : s'.pool.started[k]? = some task := by
    rw [hstarted, List.getElem?_concat_length]
  have hself : s'.pool.workers w = .running k := by
    rw [hworkers, Function.update_self]
  have hothers : ∀ w' ≠ w, s'.pool.workers w' = s.pool.workers w' := fun w' hne => by
    rw [hworkers, Function.update_of_ne hne]
  have hold : ∀ i < k, s'.pool.started[i]? = s.pool.started[i]? := fun i hi => by
    rw [hstarted, List.getElem?_append_left hi]
  have hbefore : ∀ i ≤ k, O.before s₀ s'.pool.started i = O.before s₀ s.pool.started i :=
    fun i hi => by rw [hstarted, before_append task hi]
  -- whoever ran before this step only reads
  have hnobody : ∀ w', s.pool.workers w' ≠ .running k := fun w' hw' =>
    absurd (h.placed.lt w' k hw') (Nat.lt_irrefl _)
  have hshared : O.shared s.threads.world = O.before s₀ s.pool.started k :=
    h.quiet fun w' i task' hi htask' => (hexclusive w' i task' hi htask').2
  have hlog : O.log s.threads.world k = [] := by
    rw [h.logs k hnobody, logs_of_le le_rfl]
  refine ⟨hplaced, ?_, ?_, ?_, ?_, ?_⟩
  · intro j a hj ha
    rw [hstarted, List.length_append] at hj
    rw [henqueued] at ha
    rw [hthreads]
    exact h.waiting j a (Nat.le_of_succ_le hj) ha
  · intro w' i a hi ha
    rw [hthreads]
    rcases eq_or_ne w' w with rfl | hne
    · obtain rfl := Phase.running.inj (hself.symm.trans hi)
      obtain rfl := Option.some.inj (hnew.symm.trans ha)
      have hnext : s.pool.enqueued[k]? = some task := by
        rw [← h.placed.order, htasks, List.getElem?_append_right le_rfl, Nat.sub_self]
        rfl
      rw [h.waiting k task le_rfl hnext, hlog, hshared, hbefore k le_rfl]
      exact O.program_wp k task _
    · rw [hothers w' hne] at hi
      have hlt := h.placed.lt w' i hi
      rw [hold i hlt] at ha
      rw [hbefore i hlt.le]
      exact h.running w' i a hi ha
  · intro j hj
    have hne : j ≠ k := by
      rintro rfl
      exact hj w hself
    rw [hthreads, hstarted, logs_append_of_ne task hne]
    refine h.logs j fun w' hw' => hj w' ?_
    rw [hothers w' (by rintro rfl; rw [hready] at hw'; cases hw')]
    exact hw'
  · intro hreads
    have hread := hreads w k task hself hnew
    rw [hthreads, hshared, hstarted, List.length_append, List.length_singleton, ← hk, ← hstarted,
      before_succ hnew, hbefore k le_rfl, O.effect_of_reads k task _ hread]
  · intro w' i a hi ha hwrites
    rcases eq_or_ne w' w with rfl | hne
    · obtain rfl := Phase.running.inj (hself.symm.trans hi)
      obtain rfl := Option.some.inj (hnew.symm.trans ha)
      refine ⟨by rw [hstarted, List.length_append, List.length_singleton], fun w₂ i₂ hi₂ => ?_⟩
      -- a task that does not only read is alone
      by_contra hne
      rw [hothers w₂ hne] at hi₂
      have htask₂ := List.getElem?_eq_getElem (h.placed.lt w₂ i₂ hi₂)
      exact hwrites (hexclusive w₂ i₂ _ hi₂ htask₂).1
    · rw [hothers w' hne] at hi
      rw [hold i (h.placed.lt w' i hi)] at ha
      exact absurd (hexclusive w' i a hi ha).2 hwrites

/-- A step of a task that a worker runs. -/
theorem Ordered.work {w : Fin n} {e : Env} {i : ℕ} (hrunning : s.pool.workers w = .running i)
    (hpool : s'.pool = s.pool) (hstep : Threads.step T.exec s.threads (i, e) = some s'.threads) :
    Ordered O s₀ s' := by
  obtain ⟨o, k, r, w₁, htodo, hexec, hthreads⟩ := Threads.step_eq_some hstep
  have hlt := h.placed.lt w i hrunning
  have htask := List.getElem?_eq_getElem hlt
  set task := s.pool.started[i] with htaskeq
  have hwp := h.running w i task hrunning htask
  rw [htodo] at hwp
  have hpost := O.exec_post i task o e _ r w₁ hexec
  have hworld : s'.threads.world = w₁ := by rw [hthreads]
  have hlogs : ∀ j ≠ i, O.log s'.threads.world j = O.log s.threads.world j := fun j hj => by
    rw [hworld, O.exec_log i o e _ r w₁ j hexec hj]
  have htodos : ∀ j ≠ i, s'.threads.todo j = s.threads.todo j := fun j hj => by
    rw [hthreads]
    exact Function.update_of_ne hj _ _
  have hself : s'.threads.todo i = k r := by
    rw [hthreads]
    exact Function.update_self ..
  -- a task that only reads leaves the shared part as it is, and any other runs alone
  have hshared : O.Reads task → O.shared s'.threads.world = O.shared s.threads.world := by
    intro hreads
    rw [hworld]
    exact O.post_of_reads i task _ o r _ hreads hwp.1 hpost
  have hothers : ∀ w' j, s.pool.workers w' = .running j → j ≠ i → O.Reads task := by
    intro w' j hj hne
    by_contra hwrites
    obtain rfl := (h.alone w i task hrunning htask hwrites).2 w' j hj
    exact hne (Phase.running.inj (hj.symm.trans hrunning))
  refine ⟨by rw [hpool]; exact h.placed, ?_, ?_, ?_, ?_, by rw [hpool]; exact h.alone⟩
  · rw [hpool]
    intro j a hj ha
    rw [htodos j (hlt.trans_le hj).ne']
    exact h.waiting j a hj ha
  · rw [hpool]
    intro w' j a hj ha
    rcases eq_or_ne j i with rfl | hne
    · obtain rfl := Option.some.inj (htask.symm.trans ha)
      rw [hself, hworld]
      exact hwp.2 r _ hpost
    · rw [htodos j hne, hlogs j hne, hshared (hothers w' j hj hne)]
      exact h.running w' j a hj ha
  · rw [hpool]
    intro j hj
    rw [hlogs j (by rintro rfl; exact hj w hrunning)]
    exact h.logs j hj
  · rw [hpool]
    intro hreads
    rw [hshared (hreads w i task hrunning htask)]
    exact h.quiet hreads

/-- A task returns. -/
theorem Ordered.finish {w : Fin n} {i : ℕ} (hplaced : ThreadPool.Placed s'.pool)
    (hrunning : s.pool.workers w = .running i) (henqueued : s'.pool.enqueued = s.pool.enqueued)
    (hstarted : s'.pool.started = s.pool.started)
    (hworkers : s'.pool.workers = Function.update s.pool.workers w .ready)
    (hthreads : s'.threads = s.threads) (hfinished : s.threads.Finished i) : Ordered O s₀ s' := by
  refine h.of_kept hplaced hstarted (by rw [hthreads]) (fun _ _ => by rw [hthreads]) ?_ ?_ ?_
  · rw [henqueued, hthreads]
    exact h.waiting
  · intro w' j hj
    rw [hworkers, Function.update_apply] at hj
    split_ifs at hj
    exact hj
  · intro w' j task hj hj' htask
    have hw : w' = w := by
      by_contra hne
      rw [hworkers, Function.update_of_ne hne] at hj'
      exact hj' hj
    rw [hw] at hj
    obtain rfl := Phase.running.inj (hrunning.symm.trans hj)
    obtain ⟨_, heffect⟩ := hfinished.post (I := fun j => O.interface j task)
      (Q := fun j _ g => g = O.effect j task (O.before s₀ s.pool.started j))
      (h.running w i task hrunning htask)
    exact heffect

/-- **Step lemma.** -/
theorem Ordered.step {a : Action n α Env} (hexclusive : Exclusive O s a)
    (hs : T.step s a = some s') : Ordered O s₀ s' := by
  cases T.moved_of_step hs with
  | work w e i hrunning hpool hstep => exact h.work hrunning hpool hstep
  | push task hpool hthreads => exact h.push hpool hthreads
  | pool a hpush hpool hthreads hreturned =>
    have hplaced := h.placed.of_moved hpool
    cases hpool with
    | pushed task => exact absurd rfl (hpush task)
    | taken w task hready htasks henqueued hstarted hworkers =>
      exact h.take hplaced hready htasks henqueued hstarted hworkers hthreads
        (hexclusive task _ hready htasks)
    | finished w i hrunning htasks henqueued hstarted hworkers =>
      exact h.finish hplaced hrunning henqueued hstarted hworkers hthreads
        (hreturned w i rfl hrunning)
    | other _ _ htasks henqueued hstarted hworkers =>
      refine h.of_kept hplaced hstarted (by rw [hthreads]) (fun _ _ => by rw [hthreads]) ?_
        (fun w i => (hworkers w i).mp) fun w i task hi hi' => absurd ((hworkers w i).mpr hi) hi'
      rw [henqueued, hthreads]
      exact h.waiting

end Steps

/-- Whenever no task runs, those that have been taken up have left what they leave when they are
handled in order. -/
def InOrder (O : T.Observation σ Λ) (w₀ : W) (s : State n α Res ε W) : Prop :=
  (∀ w i, s.pool.workers w ≠ .running i) →
    ∀ w', T.HandledInOrder 0 s.pool.started w₀ w' →
      O.shared s.threads.world = O.shared w' ∧ O.log s.threads.world = O.log w'

theorem Ordered.inOrder {w₀ : W} {s : State n α Res ε W} (hlog : ∀ k, O.log w₀ k = [])
    (h : Ordered O (O.shared w₀) s) : InOrder O w₀ s := by
  intro hidle w' hhandled
  obtain ⟨hshared, hlogs⟩ := view_of_handledInOrder hhandled
    (fun k => show s.pool.started[0 + k]? = s.pool.started[k]? by rw [Nat.zero_add]) rfl
    (fun k hk => absurd hk (Nat.not_lt_zero k))
    (fun k _ => hlog k)
  rw [Nat.zero_add] at hshared
  refine ⟨?_, funext fun k => ?_⟩
  · rw [hshared]
    exact h.quiet fun w i _ hi => absurd hi (hidle w i)
  · rw [hlogs k]
    exact h.logs k fun w => hidle w k

/-- **Run lemma.** -/
theorem inOrder_of_along {w₀ : W} (hlog : ∀ k, O.log w₀ k = []) {l : List (Action n α Env)}
    (h : Transition.Along T.step (Exclusive O) (PoolTasks.start n w₀) l) :
    Transition.Always T.step (InOrder O w₀) (PoolTasks.start n w₀) l := by
  have hordered : Transition.Always T.step (Ordered O (O.shared w₀)) (PoolTasks.start n w₀) l :=
    Transition.always_of_along (fun _ _ _ h hx hs => h.step hx hs) (Ordered.start hlog) h
  exact hordered.mono fun _ h => h.inOrder hlog

end Observation

/-- Tasks are taken up in the order in which they are enqueued, and each once. -/
theorem started_prefix (w : W) (l : List (Action n α Env)) :
    Transition.Always T.step (fun s => s.pool.started <+: s.pool.enqueued)
      (start n w) l := by
  have hplaced : Transition.Always T.step (fun s => ThreadPool.Placed s.pool) (start n w) l := by
    refine Transition.always_of_forall (fun s a s' h hs => ?_) ThreadPool.Placed.init
    cases T.moved_of_step hs with
    | push task hpool => exact h.of_moved hpool
    | pool a _ hpool => exact h.of_moved hpool
    | work w e i _ hpool =>
      rw [hpool]
      exact h
  exact hplaced.mono fun s h => ⟨s.pool.tasks, h.order⟩

/-- Where no operation waits, the tasks can be handled in order. -/
theorem exists_handledInOrder (hexec : ∀ i o w, ∃ e r w', T.exec i o e w = some (r, w')) (i : ℕ)
    (l : List α) (w : W) : ∃ w', T.HandledInOrder i l w w' := by
  induction l generalizing i w with
  | nil => exact ⟨w, rfl⟩
  | cons task l ih =>
    obtain ⟨es, r, w₁, hr⟩ := Prog.exists_run (hexec i) (T.program task) w
    obtain ⟨w', hrest⟩ := ih (i + 1) w₁
    exact ⟨w', es, r, w₁, hr, hrest⟩

end PoolTasks

end ItsBedalyo
