import ItsBedalyo.Lib.Transition
import Mathlib.Data.Fintype.Basic

/-!
# The worker pool: `ThreadPool.cpp`

`State` is the pool with its `n` workers, the `enqueue` calls that have pushed their task and
still have to notify, and the destructor. What happens while `queue_mutex` is held is one step;
`wait` gives the mutex up, so a worker that finds nothing to do is `waiting` until it is notified
or wakes up by itself, and then evaluates the condition of `wait` again. The destructor is called
once, and nothing is enqueued after it.

The order of the tasks needs no argument beyond the queue. That no task is forgotten rests on
`Inv.awake`: somebody who will look at the queue again is left whenever it is not empty, a worker
that does not sleep or a notification on its way.
-/

namespace ItsBedalyo

namespace ThreadPool

/-- Where a worker is. -/
inductive Phase
  /-- about to lock `queue_mutex`, at the top of the loop or woken up -/
  | ready
  /-- asleep in `condition.wait` -/
  | waiting
  /-- in `task()`, the task that was started as number `position` -/
  | running (position : ℕ)
  /-- returned -/
  | exited
  deriving DecidableEq

/-- Where the destructor is. -/
inductive Closer
  /-- not called -/
  | idle
  /-- `stop` is set, `notify_all` has not been called -/
  | stopped
  /-- in the loop of `join`s: the first `joined` workers have been joined -/
  | joining (joined : ℕ)
  deriving DecidableEq

/-- The pool. The last three components are history. -/
structure State (n : ℕ) (α : Type*) where
  tasks : List α
  stop : Bool
  workers : Fin n → Phase
  /-- `enqueue` calls before their `notify_one` -/
  notifiers : ℕ
  closer : Closer
  enqueued : List α
  started : List α
  /-- which of the started tasks have returned -/
  finished : List ℕ

/-- Who moves. -/
inductive Action (n : ℕ) (α : Type*)
  /-- `enqueue` pushes a task -/
  | push (task : α)
  /-- `enqueue` notifies: which of those asleep wakes up, if there is one -/
  | notifyOne (woken : Option (Fin n))
  /-- a worker locks the mutex and evaluates the condition of `wait` -/
  | lock (w : Fin n)
  /-- a worker wakes up without being notified -/
  | spurious (w : Fin n)
  /-- the task of a worker returns -/
  | finish (w : Fin n)
  /-- the destructor sets `stop` -/
  | close
  | notifyAll
  /-- the destructor's next `join` returns -/
  | join

variable {n : ℕ} {α : Type*}

namespace State

/-- The pool after its constructor. -/
def init (n : ℕ) (α : Type*) : State n α := ⟨[], false, fun _ => .ready, 0, .idle, [], [], []⟩

/-- The destructor has returned. -/
def Closed (s : State n α) : Prop := s.closer = .joining n

/-- A worker takes the next step of its loop. -/
def goto (s : State n α) (w : Fin n) (phase : Phase) : State n α :=
  { s with workers := Function.update s.workers w phase }

/-- Where a worker is after `notify_all`. -/
def roused (s : State n α) (w : Fin n) : Phase :=
  if s.workers w = .waiting then .ready else s.workers w

theorem roused_ne_waiting (s : State n α) (w : Fin n) : s.roused w ≠ .waiting := by
  unfold roused
  split_ifs with hw
  · exact nofun
  · exact hw

/-- Whoever does not sleep stays where it is. -/
theorem roused_eq_exited_iff (s : State n α) (w : Fin n) :
    s.roused w = .exited ↔ s.workers w = .exited := by
  unfold roused
  split_ifs with hw
  · rw [hw]
    exact iff_of_false nofun nofun
  · exact Iff.rfl

theorem roused_eq_running_iff (s : State n α) (w : Fin n) (i : ℕ) :
    s.roused w = .running i ↔ s.workers w = .running i := by
  unfold roused
  split_ifs with hw
  · rw [hw]
    exact iff_of_false nofun nofun
  · exact Iff.rfl

/-- What a worker does while it holds the mutex. -/
def critical (s : State n α) (w : Fin n) : State n α :=
  match s.tasks, s.stop with
  | [], false => s.goto w .waiting
  | [], true => s.goto w .exited
  | task :: rest, _ =>
    { s.goto w (.running s.started.length) with tasks := rest, started := s.started ++ [task] }

end State

/-- One step. -/
def step (s : State n α) : Action n α → Option (State n α)
  | .push task =>
    if s.stop then none
    else some { s with
      tasks := s.tasks ++ [task]
      notifiers := s.notifiers + 1
      enqueued := s.enqueued ++ [task] }
  | .notifyOne (some w) =>
    if 0 < s.notifiers ∧ s.workers w = .waiting then
      some { s.goto w .ready with notifiers := s.notifiers - 1 }
    else none
  | .notifyOne none =>
    if 0 < s.notifiers ∧ ∀ w, s.workers w ≠ .waiting then
      some { s with notifiers := s.notifiers - 1 }
    else none
  | .lock w => if s.workers w = .ready then some (s.critical w) else none
  | .spurious w => if s.workers w = .waiting then some (s.goto w .ready) else none
  | .finish w =>
    match s.workers w with
    | .running position => some { s.goto w .ready with finished := s.finished ++ [position] }
    | _ => none
  | .close =>
    if s.closer = .idle then some { s with stop := true, closer := .stopped } else none
  | .notifyAll =>
    if s.closer = .stopped then
      some { s with workers := s.roused, closer := .joining 0 }
    else none
  | .join =>
    match s.closer with
    | .joining joined =>
      if h : joined < n then
        if s.workers ⟨joined, h⟩ = .exited then some { s with closer := .joining (joined + 1) }
        else none
      else none
    | _ => none

/-- The pool loses and repeats nothing. -/
structure Sound (s : State n α) : Prop where
  /-- Tasks are started in the order in which they were enqueued, each once. -/
  order : s.started ++ s.tasks = s.enqueued
  /-- Nobody sleeps over a task: if no worker is about to look at the queue, a notification is on
  its way. -/
  awake : s.tasks ≠ [] → (∀ w, s.workers w = .waiting ∨ s.workers w = .exited) →
    0 < s.notifiers ∨ s.closer = .stopped
  /-- When the destructor has returned, all the tasks have been started and have returned. -/
  closed : s.Closed → s.started = s.enqueued ∧ ∀ i < s.enqueued.length, i ∈ s.finished

/-- What the workers, the notifications and the destructor have to do with each other. -/
structure Inv (s : State n α) : Prop where
  order : s.started ++ s.tasks = s.enqueued
  awake : s.tasks ≠ [] → (∀ w, s.workers w = .waiting ∨ s.workers w = .exited) →
    0 < s.notifiers ∨ s.closer = .stopped
  stop : s.stop = true ↔ s.closer ≠ .idle
  exited : ∀ w, s.workers w = .exited → s.stop = true ∧ s.tasks = []
  notified : ∀ joined, s.closer = .joining joined → ∀ w, s.workers w ≠ .waiting
  joined : ∀ joined, s.closer = .joining joined → ∀ w : Fin n, w < joined → s.workers w = .exited
  ran : ∀ i < s.started.length, i ∈ s.finished ∨ ∃ w, s.workers w = .running i

namespace Inv

variable {s s' : State n α} {w : Fin n}

theorem init : Inv (State.init n α) where
  order := rfl
  awake h := absurd rfl h
  stop := ⟨nofun, fun h => absurd rfl h⟩
  exited _ h := nomatch h
  notified _ h := nomatch h
  joined _ h := nomatch h
  ran i h := absurd h (Nat.not_lt_zero i)

theorem push (h : Inv s) (hstop : s.stop = false) (task : α) :
    Inv { s with
      tasks := s.tasks ++ [task]
      notifiers := s.notifiers + 1
      enqueued := s.enqueued ++ [task] } where
  order := by rw [← h.order, List.append_assoc]
  awake _ _ := .inl (Nat.succ_pos _)
  stop := h.stop
  exited w hw := by
    have hstopped := (h.exited w hw).1
    rw [hstop] at hstopped
    cases hstopped
  notified := h.notified
  joined := h.joined
  ran := h.ran

/-- The other workers go on running what they run. -/
theorem ran_of_ne (h : Inv s) (hw : ∀ i, s.workers w ≠ .running i) {i : ℕ}
    (hi : i < s.started.length) : i ∈ s.finished ∨ ∃ w' ≠ w, s.workers w' = .running i := by
  refine (h.ran i hi).imp_right fun ⟨w', hw'⟩ => ⟨w', ?_, hw'⟩
  rintro rfl
  exact hw i hw'

/-- A step of one worker: if it goes to sleep or returns there is no task left, it returns only
after `stop` and sleeps only before. -/
theorem move (h : Inv s) (phase : Phase)
    (hworkers : s'.workers = Function.update s.workers w phase) (hstop : s'.stop = s.stop)
    (hcloser : s'.closer = s.closer) (hw : s.workers w ≠ .exited)
    (horder : s'.started ++ s'.tasks = s'.enqueued) (htasks : s.tasks = [] → s'.tasks = [])
    (hsleep : phase = .waiting → s.stop = false ∧ s'.tasks = [])
    (hexit : phase = .exited → s.stop = true ∧ s'.tasks = [])
    (hran : ∀ i < s'.started.length, i ∈ s'.finished ∨ phase = .running i ∨
      ∃ w' ≠ w, s.workers w' = .running i) : Inv s' := by
  have hself : s'.workers w = phase := by rw [hworkers, Function.update_self]
  have hothers : ∀ w' ≠ w, s'.workers w' = s.workers w' := fun w' hne => by
    rw [hworkers, Function.update_of_ne hne]
  refine ⟨horder, fun hne hall => ?_, ?_, fun w' hw' => ?_, fun joined hjoined w' hw' => ?_,
    fun joined hjoined w' hlt => ?_, fun i hi => ?_⟩
  · rcases hall w with hwaiting | hexited
    · exact absurd (hsleep (hself.symm.trans hwaiting)).2 hne
    · exact absurd (hexit (hself.symm.trans hexited)).2 hne
  · rw [hstop, hcloser]
    exact h.stop
  · rcases eq_or_ne w' w with rfl | hne
    · rw [hstop]
      exact hexit (hself.symm.trans hw')
    · obtain ⟨hstopped, hempty⟩ := h.exited w' ((hothers w' hne).symm.trans hw')
      exact ⟨hstop.trans hstopped, htasks hempty⟩
  · rw [hcloser] at hjoined
    rcases eq_or_ne w' w with rfl | hne
    · have hrunning := (hsleep (hself.symm.trans hw')).1
      have hstopped := h.stop.mpr fun hidle => by rw [hjoined] at hidle; cases hidle
      rw [hrunning] at hstopped
      cases hstopped
    · exact h.notified joined hjoined w' ((hothers w' hne).symm.trans hw')
  · rw [hcloser] at hjoined
    have hexited := h.joined joined hjoined w' hlt
    rcases eq_or_ne w' w with rfl | hne
    · exact absurd hexited hw
    · exact (hothers w' hne).trans hexited
  · rcases hran i hi with hfinished | hphase | ⟨w', hne, hw'⟩
    · exact .inl hfinished
    · exact .inr ⟨w, hself.trans hphase⟩
    · exact .inr ⟨w', (hothers w' hne).trans hw'⟩

/-- Somebody wakes up. -/
theorem wake (h : Inv s) (hw : s.workers w = .waiting) (notifiers : ℕ) :
    Inv { s.goto w .ready with notifiers := notifiers } := by
  refine h.move .ready rfl rfl rfl ?_ h.order id nofun nofun fun i hi => ?_
  · rw [hw]
    exact nofun
  · exact (h.ran_of_ne (fun i => by rw [hw]; exact nofun) hi).imp_right .inr

/-- A notification when nobody sleeps: a worker that has returned has left no task, any other will
look at the queue. -/
theorem notify_nobody (h : Inv s) (hn : 0 < n) (hnobody : ∀ w, s.workers w ≠ .waiting) :
    Inv { s with notifiers := s.notifiers - 1 } where
  order := h.order
  awake htasks hall := by
    have hexited := (hall ⟨0, hn⟩).resolve_left (hnobody _)
    exact absurd (h.exited _ hexited).2 htasks
  stop := h.stop
  exited := h.exited
  notified := h.notified
  joined := h.joined
  ran := h.ran

/-- The critical section of a worker. -/
theorem critical (h : Inv s) (hw : s.workers w = .ready) : Inv (s.critical w) := by
  have hexited : s.workers w ≠ .exited := by
    rw [hw]
    exact nofun
  have hran {i : ℕ} (hi : i < s.started.length) :
      i ∈ s.finished ∨ ∃ w' ≠ w, s.workers w' = .running i :=
    h.ran_of_ne (fun i => by rw [hw]; exact nofun) hi
  unfold State.critical
  split
  · next htasks hstop =>
    exact h.move .waiting rfl rfl rfl hexited h.order id (fun _ => ⟨hstop, htasks⟩)
      nofun fun i hi => (hran hi).imp_right .inr
  · next htasks hstop =>
    exact h.move .exited rfl rfl rfl hexited h.order id nofun
      (fun _ => ⟨hstop, htasks⟩) fun i hi => (hran hi).imp_right .inr
  · next task rest htasks =>
    refine h.move (.running s.started.length) rfl rfl rfl hexited ?_ ?_ nofun nofun
      fun i hi => ?_
    · show s.started ++ [task] ++ rest = s.enqueued
      rw [← h.order, htasks, List.append_assoc]
      rfl
    · intro hempty
      rw [htasks] at hempty
      cases hempty
    · have hlt : i < s.started.length + 1 := by simpa using hi
      rcases Nat.lt_succ_iff_lt_or_eq.mp hlt with hlt | rfl
      · exact (hran hlt).imp_right .inr
      · exact .inr (.inl rfl)

/-- A task returns. -/
theorem finish (h : Inv s) {position : ℕ} (hw : s.workers w = .running position) :
    Inv { s.goto w .ready with finished := s.finished ++ [position] } := by
  refine h.move .ready rfl rfl rfl ?_ h.order id nofun nofun fun i hi => ?_
  · rw [hw]
    exact nofun
  · show i ∈ s.finished ++ [position] ∨ _
    rw [List.mem_append, List.mem_singleton]
    rcases h.ran i hi with hfinished | ⟨w', hw'⟩
    · exact .inl (.inl hfinished)
    · rcases eq_or_ne w' w with rfl | hne
      · rw [hw] at hw'
        cases hw'
        exact .inl (.inr rfl)
      · exact .inr (.inr ⟨w', hne, hw'⟩)

/-- The destructor sets `stop`. -/
theorem close (h : Inv s) :
    Inv { s with stop := true, closer := .stopped } where
  order := h.order
  awake _ _ := .inr rfl
  stop := ⟨fun _ => nofun, fun _ => rfl⟩
  exited w hw := ⟨rfl, (h.exited w hw).2⟩
  notified _ hjoined := nomatch hjoined
  joined _ hjoined := nomatch hjoined
  ran := h.ran

/-- The destructor wakes everybody up. -/
theorem notifyAll (h : Inv s) (hn : 0 < n) (hstopped : s.closer = .stopped) :
    Inv { s with workers := s.roused, closer := .joining 0 } where
  order := h.order
  awake htasks hall := by
    have hexited := (hall ⟨0, hn⟩).resolve_left (s.roused_ne_waiting _)
    exact absurd (h.exited _ ((s.roused_eq_exited_iff _).mp hexited)).2 htasks
  stop := ⟨fun _ => nofun, fun _ => h.stop.mpr (by rw [hstopped]; exact nofun)⟩
  exited w hw := h.exited w ((s.roused_eq_exited_iff w).mp hw)
  notified _ _ := s.roused_ne_waiting
  joined joined hjoined w hlt := by
    cases hjoined
    exact absurd hlt (Nat.not_lt_zero _)
  ran i hi := by
    refine (h.ran i hi).imp_right fun ⟨w, hw⟩ => ⟨w, ?_⟩
    exact (s.roused_eq_running_iff w i).mpr hw

/-- The destructor joins a worker. -/
theorem join (h : Inv s) {joined : ℕ} (hcloser : s.closer = .joining joined) (hlt : joined < n)
    (hexited : s.workers ⟨joined, hlt⟩ = .exited) :
    Inv { s with closer := .joining (joined + 1) } where
  order := h.order
  awake htasks hall := by
    rcases h.awake htasks hall with hpending | hstopped
    · exact .inl hpending
    · rw [hcloser] at hstopped
      cases hstopped
  stop := ⟨fun _ => nofun, fun _ => h.stop.mpr (by rw [hcloser]; exact nofun)⟩
  exited := h.exited
  notified _ _ := h.notified joined hcloser
  joined joined' hjoined w hw := by
    cases hjoined
    rcases Nat.lt_succ_iff_lt_or_eq.mp hw with hbefore | hnow
    · exact h.joined joined hcloser w hbefore
    · rwa [show w = ⟨joined, hlt⟩ from Fin.ext hnow]
  ran := h.ran

/-- Every step keeps the invariant. -/
theorem step (h : Inv s) (hn : 0 < n) {a : Action n α} (hs : ThreadPool.step s a = some s') :
    Inv s' := by
  cases a with
  | push task =>
    obtain ⟨hstop, heq⟩ := Option.ite_none_left_eq_some.mp hs
    cases heq
    exact h.push (Bool.eq_false_of_not_eq_true hstop) task
  | notifyOne woken =>
    cases woken with
    | some w =>
      obtain ⟨⟨-, hw⟩, heq⟩ := Option.ite_none_right_eq_some.mp hs
      cases heq
      exact h.wake hw _
    | none =>
      obtain ⟨⟨-, hnobody⟩, heq⟩ := Option.ite_none_right_eq_some.mp hs
      cases heq
      exact h.notify_nobody hn hnobody
  | lock w =>
    obtain ⟨hw, heq⟩ := Option.ite_none_right_eq_some.mp hs
    cases heq
    exact h.critical hw
  | spurious w =>
    obtain ⟨hw, heq⟩ := Option.ite_none_right_eq_some.mp hs
    cases heq
    exact h.wake hw _
  | finish w =>
    simp only [ThreadPool.step] at hs
    split at hs
    · next position hw =>
      cases hs
      exact h.finish hw
    · cases hs
  | close =>
    obtain ⟨-, heq⟩ := Option.ite_none_right_eq_some.mp hs
    cases heq
    exact h.close
  | notifyAll =>
    obtain ⟨hstopped, heq⟩ := Option.ite_none_right_eq_some.mp hs
    cases heq
    exact h.notifyAll hn hstopped
  | join =>
    simp only [ThreadPool.step] at hs
    split at hs
    · next joined hcloser =>
      split_ifs at hs with hlt hexited
      cases hs
      exact h.join hcloser hlt hexited
    · cases hs

/-- When all workers have been joined, everything has been done. -/
theorem sound (h : Inv s) (hn : 0 < n) : Sound s := by
  refine ⟨h.order, h.awake, fun hclosed => ?_⟩
  have hexited (w : Fin n) : s.workers w = .exited := h.joined n hclosed w w.isLt
  have htasks : s.tasks = [] := (h.exited ⟨0, hn⟩ (hexited _)).2
  have hall : s.started = s.enqueued := by
    rw [← h.order, htasks, List.append_nil]
  refine ⟨hall, fun i hi => (h.ran i (hall ▸ hi)).resolve_right ?_⟩
  rintro ⟨w, hw⟩
  rw [hexited w] at hw
  cases hw

end Inv

/-- **The pool loses and repeats nothing**, with any number of workers, in any run. -/
theorem nothing_lost (hn : 0 < n) (l : List (Action n α)) :
    Transition.Always step Sound (State.init n α) l :=
  Transition.Always.mono (fun _ h => Inv.sound h hn)
    (Transition.always_of_forall (fun _ _ _ h hs => h.step hn hs) Inv.init)

/-- The workers of `closingRun`. -/
def first : Fin 2 := ⟨0, Nat.zero_lt_two⟩

def second : Fin 2 := ⟨1, Nat.one_lt_two⟩

/-- Two workers, one of them asleep, share two tasks; then the pool is closed. -/
def closingRun : List (Action 2 Bool) :=
  [.lock first, .push true, .notifyOne (some first), .lock second, .push false, .notifyOne none,
   .lock first, .finish second, .lock second, .close, .finish first, .notifyAll, .lock first,
   .lock second, .join, .join]

theorem nothing_lost_closingRun :
    Transition.Always step Sound (State.init 2 Bool) closingRun :=
  nothing_lost (by decide) closingRun

end ThreadPool

end ItsBedalyo
