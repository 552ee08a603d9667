import ItsBedalyo.Lib.Transition
import Mathlib.Algebra.BigOperators.Group.Finset.Basic
import Mathlib.Data.Fintype.Basic

/-!
# Borrowing from a pool, at most twice at a time

A pool holds a number of equal resources. A thread borrows in *scopes*: it takes a resource,
makes some further borrows one after the other while it keeps the first, and gives it back.
A list of numbers describes what a thread still has to do, one number per scope for the borrows
nested in it; an exception skips the rest and gives back what is held.

A thread that finds the pool empty waits. `Deadlocked` says that somebody waits and that
everybody who holds a resource waits too. The counting rule `card_stuck_of_deadlocked` says what
that takes: as many threads as there are resources, each between its first and its second
borrow. `reaches_finish` and `reaches_stuck` are the two ways to drive a thread that has not
begun.
-/

namespace Borrowing

open Transition

/-- Where a thread is, with the number of borrows still nested in its current scope and the
scopes after that. -/
inductive Phase
  | running (scopes : List ℕ)
  | holding (nested : ℕ) (scopes : List ℕ)
  | nesting (nested : ℕ) (scopes : List ℕ)
  deriving DecidableEq

namespace Phase

/-- How many resources the thread holds. -/
def held : Phase → ℕ
  | running _ => 0
  | holding _ _ => 1
  | nesting _ _ => 2

/-- The thread's next move is to borrow. -/
def wants : Phase → Bool
  | running (_ :: _) | holding (_ + 1) _ => true
  | _ => false

/-- The thread still has a nested borrow ahead of it. -/
def nests : Phase → Bool
  | running scopes => scopes.any (0 < ·)
  | holding nested scopes | nesting nested scopes => 0 < nested || scopes.any (0 < ·)

/-- The thread holds a resource and its next move is to borrow another. -/
def stuck : Phase → Bool
  | holding (_ + 1) _ => true
  | _ => false

/-- Borrow. -/
def get : Phase → Option Phase
  | running (nested :: scopes) => some (holding nested scopes)
  | holding (nested + 1) scopes => some (nesting nested scopes)
  | _ => none

/-- Give the resource borrowed last back. -/
def put : Phase → Option Phase
  | holding 0 scopes => some (running scopes)
  | nesting nested scopes => some (holding nested scopes)
  | _ => none

/-- An exception outside of nested borrows: the rest is skipped. -/
def throw : Phase → Option Phase
  | running _ | holding _ _ => some (running [])
  | nesting _ _ => none

theorem held_get {ph ph' : Phase} (h : ph.get = some ph') : ph'.held = ph.held + 1 := by
  unfold get at h
  split at h <;> cases h <;> rfl

theorem held_put {ph ph' : Phase} (h : ph.put = some ph') : ph'.held + 1 = ph.held := by
  unfold put at h
  split at h <;> cases h <;> rfl

theorem held_throw {ph ph' : Phase} (h : ph.throw = some ph') : ph'.held = 0 := by
  unfold throw at h
  split at h <;> cases h <;> rfl

theorem nests_get {ph ph' : Phase} (h : ph.get = some ph') (hn : ph'.nests) : ph.nests := by
  unfold get at h
  split at h <;> cases h
  · simpa [nests] using hn
  · simp [nests]

theorem nests_put {ph ph' : Phase} (h : ph.put = some ph') (hn : ph'.nests) : ph.nests := by
  unfold put at h
  split at h <;> cases h
  · simpa [nests] using hn
  · simpa [nests] using hn

theorem nests_throw {ph ph' : Phase} (h : ph.throw = some ph') : ph'.nests = false := by
  unfold throw at h
  split at h <;> cases h <;> rfl

theorem nests_of_stuck {ph : Phase} (h : ph.stuck) : ph.nests := by
  unfold stuck at h
  split at h
  · simp [nests]
  · cases h

theorem wants_of_stuck {ph : Phase} (h : ph.stuck) : ph.wants := by
  unfold stuck at h
  split at h
  · rfl
  · cases h

/-- A thread that holds a resource and wants another one holds exactly one. -/
theorem stuck_of_wants {ph : Phase} (hheld : 0 < ph.held) (h : ph.wants) : ph.stuck := by
  unfold wants at h
  split at h
  · simp [held] at hheld
  · rfl
  · cases h

theorem held_of_stuck {ph : Phase} (h : ph.stuck) : ph.held = 1 := by
  unfold stuck at h
  split at h
  · rfl
  · cases h

end Phase

/-- The resources left in the pool, and the threads. -/
structure Pool (ι : Type*) where
  free : ℕ
  phase : ι → Phase

/-- What a thread can do to the pool. -/
inductive Move
  | get
  | put
  | throw
  deriving DecidableEq

variable {ι : Type*} [DecidableEq ι]

namespace Pool

/-- The pool after a move of thread `t`: its phase, and what is left. -/
def set (p : Pool ι) (t : ι) (phase : Phase) (free : ℕ) : Pool ι :=
  ⟨free, Function.update p.phase t phase⟩

@[simp] theorem set_free (p : Pool ι) (t : ι) (ph : Phase) (k : ℕ) : (p.set t ph k).free = k := rfl

@[simp] theorem set_phase_self (p : Pool ι) (t : ι) (ph : Phase) (k : ℕ) :
    (p.set t ph k).phase t = ph := Function.update_self ..

theorem set_phase_of_ne (p : Pool ι) {t u : ι} (h : u ≠ t) (ph : Phase) (k : ℕ) :
    (p.set t ph k).phase u = p.phase u := Function.update_of_ne h ..

@[simp] theorem set_set (p : Pool ι) (t : ι) (ph ph' : Phase) (k k' : ℕ) :
    (p.set t ph k).set t ph' k' = p.set t ph' k' := by
  simp [set]

end Pool

/-- A move of thread `t`. To borrow, there must be a resource in the pool. -/
def step (p : Pool ι) (t : ι) : Move → Option (Pool ι)
  | .get => if 0 < p.free then (p.phase t).get.map fun ph => p.set t ph (p.free - 1) else none
  | .put => (p.phase t).put.map fun ph => p.set t ph (p.free + 1)
  | .throw => (p.phase t).throw.map fun ph => p.set t ph (p.free + (p.phase t).held)

/-- A move changes the thread's own phase only, and its nested borrows do not increase. -/
theorem step_cases {p p' : Pool ι} {t : ι} {m : Move} (h : step p t m = some p') :
    ∃ ph free, p' = p.set t ph free ∧
      free + ph.held = p.free + (p.phase t).held ∧ (ph.nests → (p.phase t).nests) := by
  cases m with
  | get =>
    simp only [step, Option.ite_none_right_eq_some, Option.map_eq_some_iff] at h
    obtain ⟨hfree, ph, hph, rfl⟩ := h
    have hheld := Phase.held_get hph
    exact ⟨ph, p.free - 1, rfl, by omega, Phase.nests_get hph⟩
  | put =>
    simp only [step, Option.map_eq_some_iff] at h
    obtain ⟨ph, hph, rfl⟩ := h
    have hheld := Phase.held_put hph
    exact ⟨ph, p.free + 1, rfl, by omega, Phase.nests_put hph⟩
  | throw =>
    simp only [step, Option.map_eq_some_iff] at h
    obtain ⟨ph, hph, rfl⟩ := h
    have hheld := Phase.held_throw hph
    refine ⟨ph, _, rfl, by omega, ?_⟩
    simp [Phase.nests_throw hph]

/-! ### Counting -/

section Counting

variable [Fintype ι]

/-- A sum over all threads when one of them changes its phase. -/
theorem sum_set (p : Pool ι) (t : ι) (ph : Phase) (k : ℕ) (w : Phase → ℕ) :
    (∑ u, w ((p.set t ph k).phase u)) + w (p.phase t) = (∑ u, w (p.phase u)) + w ph := by
  have hmem : t ∈ Finset.univ := Finset.mem_univ t
  rw [← Finset.add_sum_erase _ _ hmem, ← Finset.add_sum_erase _ (fun u => w (p.phase u)) hmem]
  have hrest : ∀ u ∈ Finset.univ.erase t, w ((p.set t ph k).phase u) = w (p.phase u) :=
    fun u hu => by rw [Pool.set_phase_of_ne p (Finset.ne_of_mem_erase hu)]
  rw [Finset.sum_congr rfl hrest, Pool.set_phase_self]
  omega

/-- Everything that is not in the pool is held by a thread. -/
def Conserved (n : ℕ) (p : Pool ι) : Prop := p.free + ∑ t, (p.phase t).held = n

theorem Conserved.step {n : ℕ} {p p' : Pool ι} (h : Conserved n p) {t : ι} {m : Move}
    (hs : Borrowing.step p t m = some p') : Conserved n p' := by
  obtain ⟨ph, free, rfl, hfree, -⟩ := step_cases hs
  have hsum := sum_set p t ph free Phase.held
  simp only [Conserved, Pool.set_free] at h ⊢
  omega

/-- The thread waits for a resource: it wants one and there is none. -/
def Blocked (p : Pool ι) (t : ι) : Prop := p.free = 0 ∧ (p.phase t).wants = true

instance (p : Pool ι) (t : ι) : Decidable (Blocked p t) :=
  inferInstanceAs (Decidable (_ ∧ _))

/-- Somebody waits, and so does everybody who holds a resource. -/
def Deadlocked (p : Pool ι) : Prop :=
  (∃ t, Blocked p t) ∧ ∀ t, 0 < (p.phase t).held → Blocked p t

instance (p : Pool ι) : Decidable (Deadlocked p) := inferInstanceAs (Decidable (_ ∧ _))

omit [DecidableEq ι] in
/-- **Counting rule.** In a deadlock there are as many threads between their first and their
second borrow as there are resources. -/
theorem card_stuck_of_deadlocked {n : ℕ} {p : Pool ι} (h : Conserved n p) (hd : Deadlocked p) :
    ∑ t, (if (p.phase t).stuck then 1 else 0) = n := by
  obtain ⟨⟨t₀, hfree, -⟩, hall⟩ := hd
  -- nobody holds two resources, since such a thread does not wait
  have hheld : ∀ t ∈ Finset.univ, (p.phase t).held = if (p.phase t).stuck then 1 else 0 := by
    intro t _
    by_cases hpos : 0 < (p.phase t).held
    · have hstuck := Phase.stuck_of_wants hpos (hall t hpos).2
      rw [if_pos hstuck, Phase.held_of_stuck hstuck]
    · have hnot : ¬ (p.phase t).stuck := by
        intro hstuck
        rw [Phase.held_of_stuck hstuck] at hpos
        omega
      rw [if_neg hnot]
      omega
  rw [← Finset.sum_congr rfl hheld, ← h, hfree, Nat.zero_add]

end Counting

/-! ### Driving one thread -/

/-- The moves of all threads as one step function. -/
def stepAny (p : Pool ι) (a : ι × Move) : Option (Pool ι) := step p a.1 a.2

theorem step_get_set (p : Pool ι) (t : ι) {ph ph' : Phase} (h : ph.get = some ph') (k : ℕ) :
    Reaches stepAny (p.set t ph (k + 1)) (p.set t ph' k) :=
  .of_step (a := (t, .get)) (by simp [stepAny, step, h])

theorem step_put_set (p : Pool ι) (t : ι) {ph ph' : Phase} (h : ph.put = some ph') (k : ℕ) :
    Reaches stepAny (p.set t ph k) (p.set t ph' (k + 1)) :=
  .of_step (a := (t, .put)) (by simp [stepAny, step, h])

/-- A thread in a scope can make its nested borrows and leave the scope, if there is another
resource for them. -/
theorem reaches_leave (p : Pool ι) (t : ι) (free nested : ℕ) (scopes : List ℕ)
    (hfree : 0 < nested → 0 < free) :
    Reaches stepAny (p.set t (.holding nested scopes) free)
      (p.set t (.running scopes) (free + 1)) := by
  induction nested with
  | zero => exact step_put_set p t rfl free
  | succ nested ih =>
    have hpos : 0 < free := hfree (Nat.succ_pos _)
    obtain ⟨k, rfl⟩ : ∃ k, free = k + 1 := ⟨free - 1, by omega⟩
    have hget : Reaches stepAny (p.set t (.holding (nested + 1) scopes) (k + 1))
        (p.set t (.nesting nested scopes) k) := step_get_set p t rfl k
    have hput : Reaches stepAny (p.set t (.nesting nested scopes) k)
        (p.set t (.holding nested scopes) (k + 1)) := step_put_set p t rfl k
    exact (hget.trans hput).trans (ih fun _ => Nat.succ_pos k)

/-- A thread can work through all its scopes, if there is a resource for it, and another one
where borrows are nested. -/
theorem reaches_finish (p : Pool ι) (t : ι) (free : ℕ) (scopes : List ℕ)
    (hfree : (Phase.running scopes).nests → 0 < free) :
    Reaches stepAny (p.set t (.running scopes) (free + 1))
      (p.set t (.running []) (free + 1)) := by
  induction scopes with
  | nil => exact .refl _
  | cons nested scopes ih =>
    have hget : Reaches stepAny (p.set t (.running (nested :: scopes)) (free + 1))
        (p.set t (.holding nested scopes) free) := step_get_set p t rfl free
    have hleave := reaches_leave p t free nested scopes fun hn => hfree (by simp [Phase.nests, hn])
    refine (hget.trans hleave).trans (ih fun hn => hfree ?_)
    simp only [Phase.nests, List.any_cons, Bool.or_eq_true] at hn ⊢
    exact .inr hn

/-- A thread with a nested borrow ahead can be driven to where it holds one resource and wants
another, with a single resource from the pool. -/
theorem reaches_stuck (p : Pool ι) (t : ι) (free : ℕ) (scopes : List ℕ)
    (hn : (Phase.running scopes).nests) :
    ∃ ph : Phase, ph.stuck ∧
      Reaches stepAny (p.set t (.running scopes) (free + 1)) (p.set t ph free) := by
  induction scopes with
  | nil => cases hn
  | cons nested scopes ih =>
    have hget : Reaches stepAny (p.set t (.running (nested :: scopes)) (free + 1))
        (p.set t (.holding nested scopes) free) := step_get_set p t rfl free
    cases nested with
    | succ k => exact ⟨.holding (k + 1) scopes, rfl, hget⟩
    | zero =>
      -- nothing is nested in this scope: leave it and look further
      obtain ⟨ph, hstuck, hreach⟩ := ih (by simpa [Phase.nests] using hn)
      have hleave := reaches_leave p t free 0 scopes (by simp)
      exact ⟨ph, hstuck, (hget.trans hleave).trans hreach⟩

end Borrowing
