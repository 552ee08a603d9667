import ItsBedalyo.Lib.Transition
import Mathlib.Data.List.Nodup
import Mathlib.Data.List.Range
import Mathlib.Logic.Function.Basic

/-!
# Lending connections: `DBManager::getConnection`

`connectionPool` is a queue of `unique_ptr`s behind `poolMutex`. A borrower waits for the queue
to be non-empty, takes the front, has it checked and, if it is dead, replaced by a new
connection, all with the mutex held; a `connect` that throws is caught, and the dead connection
is lent as it is. The deleter of the returned `shared_ptr` pushes the connection back.

The pool is filled with `poolSize` pointers. A `Slot` is such a pointer with its place in that
count, which the program does not store: it follows the pointer from the queue to the borrower
and back, while the connection behind it may be replaced. Connections are numbered in the order
in which `driver->connect` has made them.

`owner` is the abstract view: who has each slot, the pool or one borrower. `Refines` ties it to
queue and borrowers, and every step keeps it up (`Refines.step`).
-/

namespace ItsBedalyo

namespace DBManager

open Transition

/-- One of the `poolSize` pointers; `none` is `nullptr`. -/
structure Slot where
  index : ℕ
  conn : Option ℕ
  deriving DecidableEq

/-- Where a borrower is. -/
inductive Phase
  | idle
  /-- in `getConnection`, with the mutex -/
  | entered
  /-- in `poolCondVar.wait`, without it -/
  | waiting
  /-- the front of the queue moved out and popped -/
  | popped (slot : Slot)
  /-- found to be `nullptr` or dead, before `connect` -/
  | dead (slot : Slot)
  /-- returned to the caller -/
  | lent (slot : Slot)
  /-- in the deleter, with the mutex -/
  | returning (slot : Slot)
  deriving DecidableEq

/-- The slot a borrower has taken out of the queue. -/
def Phase.slot : Phase → Option Slot
  | idle | entered | waiting => none
  | popped slot | dead slot | lent slot | returning slot => some slot

/-- The borrower is in a section that `poolMutex` guards. -/
def Phase.critical : Phase → Bool
  | entered | popped _ | dead _ | returning _ => true
  | idle | waiting | lent _ => false

/-- The pool, the mutex, the borrowers, and how many connections have been made. -/
structure State (τ : Type*) where
  connectionPool : List Slot
  poolMutex : Option τ
  phase : τ → Phase
  made : ℕ

/-- What a borrower does next, and what the driver answers. -/
inductive Action
  | lock
  | wait
  | wake
  | pop
  | isNull
  | isValid (valid : Bool)
  | isValidThrows
  | connect
  | connectThrows
  | lockDeleter
  | push
  deriving DecidableEq

variable {τ : Type*}

/-- `init`, when no `connect` throws: `poolSize` new connections. A `connect` that throws ends
the process. -/
def init (poolSize : ℕ) : State τ :=
  ⟨(List.range poolSize).map fun i => ⟨i, some i⟩, none, fun _ => .idle, poolSize⟩

variable [DecidableEq τ]

namespace State

/-- The borrower goes on with the mutex. -/
def enter (s : State τ) (t : τ) (phase : Phase) : State τ :=
  { s with poolMutex := some t, phase := Function.update s.phase t phase }

/-- The borrower goes on and gives the mutex back. -/
def leave (s : State τ) (t : τ) (phase : Phase) : State τ :=
  { s with poolMutex := none, phase := Function.update s.phase t phase }

end State

/-- One step of a borrower, `none` where it cannot make it. -/
def step (s : State τ) (a : τ × Action) : Option (State τ) :=
  match s.phase a.1, a.2 with
  | .idle, .lock => if s.poolMutex = none then some (s.enter a.1 .entered) else none
  | .entered, .wait => if s.connectionPool = [] then some (s.leave a.1 .waiting) else none
  -- notified or not: the predicate is checked again
  | .waiting, .wake => if s.poolMutex = none then some (s.enter a.1 .entered) else none
  | .entered, .pop =>
    match s.connectionPool with
    | [] => none
    | slot :: rest => some { s.enter a.1 (.popped slot) with connectionPool := rest }
  | .popped slot, .isNull =>
    if slot.conn = none then some (s.enter a.1 (.dead slot)) else none
  | .popped slot, .isValid valid =>
    if slot.conn = none then none
    else if valid then some (s.leave a.1 (.lent slot))
    else some (s.enter a.1 (.dead slot))
  | .popped slot, .isValidThrows =>
    if slot.conn = none then none else some (s.leave a.1 (.lent slot))
  | .dead slot, .connect =>
    some { s.leave a.1 (.lent { slot with conn := some s.made }) with made := s.made + 1 }
  -- caught: the pointer is returned as it is
  | .dead slot, .connectThrows => some (s.leave a.1 (.lent slot))
  | .lent slot, .lockDeleter =>
    if s.poolMutex = none then some (s.enter a.1 (.returning slot)) else none
  | .returning slot, .push =>
    some { s.leave a.1 .idle with connectionPool := s.connectionPool ++ [slot] }
  | _, _ => none

/-- What a step does to the slots. -/
inductive Effect (s : State τ) (t : τ) : Phase → State τ → Prop
  | stay {ph : Phase} {s' : State τ} : ph.slot = (s.phase t).slot →
      s'.connectionPool = s.connectionPool → s'.made = s.made → Effect s t ph s'
  | take {ph : Phase} {s' : State τ} {slot : Slot} : (s.phase t).slot = none →
      ph.slot = some slot → s.connectionPool = slot :: s'.connectionPool →
      s'.made = s.made → Effect s t ph s'
  | replace {ph : Phase} {s' : State τ} {slot : Slot} : (s.phase t).slot = some slot →
      ph.slot = some { slot with conn := some s.made } →
      s'.connectionPool = s.connectionPool → s'.made = s.made + 1 → Effect s t ph s'
  | put {ph : Phase} {s' : State τ} {slot : Slot} : (s.phase t).slot = some slot →
      ph.slot = none → s'.connectionPool = s.connectionPool ++ [slot] →
      s'.made = s.made → Effect s t ph s'

/-- A step changes the phase of one borrower, and leaves the slots, takes the front of the
queue, replaces the connection of the borrower's slot, or puts its slot back. -/
theorem step_cases {s s' : State τ} {a : τ × Action} (h : step s a = some s') :
    ∃ ph, s'.phase = Function.update s.phase a.1 ph ∧ Effect s a.1 ph s' := by
  obtain ⟨t, act⟩ := a
  simp only [step] at h
  split at h
  · next hph =>
    obtain ⟨-, heq⟩ := Option.ite_none_right_eq_some.mp h
    cases heq
    exact ⟨_, rfl, .stay (by rw [hph]; rfl) rfl rfl⟩
  · next hph =>
    obtain ⟨-, heq⟩ := Option.ite_none_right_eq_some.mp h
    cases heq
    exact ⟨_, rfl, .stay (by rw [hph]; rfl) rfl rfl⟩
  · next hph =>
    obtain ⟨-, heq⟩ := Option.ite_none_right_eq_some.mp h
    cases heq
    exact ⟨_, rfl, .stay (by rw [hph]; rfl) rfl rfl⟩
  · next hph =>
    split at h
    · cases h
    · next slot rest hpool =>
      cases h
      exact ⟨_, rfl, .take (by rw [hph]; rfl) rfl hpool rfl⟩
  · next hph =>
    obtain ⟨-, heq⟩ := Option.ite_none_right_eq_some.mp h
    cases heq
    exact ⟨_, rfl, .stay (by rw [hph]; rfl) rfl rfl⟩
  · next hph =>
    split_ifs at h
    all_goals
      cases h
      exact ⟨_, rfl, .stay (by rw [hph]; rfl) rfl rfl⟩
  · next hph =>
    obtain ⟨-, heq⟩ := Option.ite_none_left_eq_some.mp h
    cases heq
    exact ⟨_, rfl, .stay (by rw [hph]; rfl) rfl rfl⟩
  · next hph =>
    cases h
    exact ⟨_, rfl, .replace (by rw [hph]; rfl) rfl rfl rfl⟩
  · next hph =>
    cases h
    exact ⟨_, rfl, .stay (by rw [hph]; rfl) rfl rfl⟩
  · next hph =>
    obtain ⟨-, heq⟩ := Option.ite_none_right_eq_some.mp h
    cases heq
    exact ⟨_, rfl, .stay (by rw [hph]; rfl) rfl rfl⟩
  · next hph =>
    cases h
    exact ⟨_, rfl, .put (by rw [hph]; rfl) rfl rfl rfl⟩
  · cases h

/-! ### Who has each slot -/

/-- Queue and borrowers are as the owners say: the pool's slots are in the queue, once each,
and every other slot is with its one borrower. -/
structure Refines (poolSize : ℕ) (s : State τ) (owner : ℕ → Option τ) : Prop where
  nodup : (s.connectionPool.map Slot.index).Nodup
  queued : ∀ i, i ∈ s.connectionPool.map Slot.index ↔ i < poolSize ∧ owner i = none
  held : ∀ i t, (∃ x, (s.phase t).slot = some x ∧ x.index = i) ↔ i < poolSize ∧ owner i = some t

omit [DecidableEq τ] in
theorem Refines.init (poolSize : ℕ) :
    Refines poolSize (DBManager.init poolSize : State τ) fun _ => none := by
  have hindex : (DBManager.init poolSize : State τ).connectionPool.map Slot.index =
      List.range poolSize := by
    simp only [DBManager.init, List.map_map, Function.comp_def, List.map_id']
  refine ⟨hindex ▸ List.nodup_range, fun i => ?_, fun i t => ?_⟩
  · rw [hindex, List.mem_range]
    exact (and_iff_left rfl).symm
  · constructor
    · rintro ⟨x, hx, -⟩
      cases hx
    · rintro ⟨-, h⟩
      cases h

/-- A borrower that goes on with the slot it has changes no owner. -/
theorem Refines.stay {poolSize : ℕ} {s s' : State τ} {owner : ℕ → Option τ} {t : τ} {ph : Phase}
    (h : Refines poolSize s owner) (hph : s'.phase = Function.update s.phase t ph)
    (hslot : ph.slot.map Slot.index = (s.phase t).slot.map Slot.index)
    (hpool : s'.connectionPool = s.connectionPool) : Refines poolSize s' owner := by
  refine ⟨hpool ▸ h.nodup, hpool ▸ h.queued, fun i u => ?_⟩
  rw [← h.held i u, hph]
  rcases eq_or_ne u t with rfl | hu
  · simp only [Function.update_self, ← Option.map_eq_some_iff, hslot]
  · rw [Function.update_of_ne hu]

/-- A borrower that takes the front of the queue becomes its owner. -/
theorem Refines.take {poolSize : ℕ} {s s' : State τ} {owner : ℕ → Option τ} {t : τ} {ph : Phase}
    {slot : Slot} (h : Refines poolSize s owner)
    (hph : s'.phase = Function.update s.phase t ph) (hnone : (s.phase t).slot = none)
    (hslot : ph.slot = some slot) (hpool : s.connectionPool = slot :: s'.connectionPool) :
    Refines poolSize s' (Function.update owner slot.index (some t)) := by
  have hnodup := h.nodup
  rw [hpool, List.map_cons, List.nodup_cons] at hnodup
  have hqueued := fun i => (h.queued i).symm
  simp only [hpool, List.map_cons, List.mem_cons] at hqueued
  obtain ⟨hlt, hfree⟩ := (hqueued slot.index).mpr (.inl rfl)
  refine ⟨hnodup.2, fun i => ?_, fun i u => ?_⟩
  · rcases eq_or_ne i slot.index with rfl | hi
    · simp [hnodup.1]
    · rw [Function.update_of_ne hi, hqueued i, or_iff_right hi]
  · rcases eq_or_ne i slot.index with rfl | hi
    · -- nobody has had the slot before
      rw [Function.update_self, and_iff_right hlt, hph]
      rcases eq_or_ne u t with rfl | hu
      · simp [hslot]
      · rw [Function.update_of_ne hu, h.held, hfree]
        simp [hu.symm]
    · rw [Function.update_of_ne hi, ← h.held i u, hph]
      rcases eq_or_ne u t with rfl | hu
      · simp [hslot, hnone, hi.symm]
      · rw [Function.update_of_ne hu]

/-- A slot that its borrower puts back belongs to the pool again. -/
theorem Refines.put {poolSize : ℕ} {s s' : State τ} {owner : ℕ → Option τ} {t : τ} {ph : Phase}
    {slot : Slot} (h : Refines poolSize s owner)
    (hph : s'.phase = Function.update s.phase t ph) (hslot : (s.phase t).slot = some slot)
    (hnone : ph.slot = none) (hpool : s'.connectionPool = s.connectionPool ++ [slot]) :
    Refines poolSize s' (Function.update owner slot.index none) := by
  obtain ⟨hlt, howner⟩ := (h.held slot.index t).mp ⟨slot, hslot, rfl⟩
  have hnotMem : slot.index ∉ s.connectionPool.map Slot.index := by
    rw [h.queued, howner]
    simp
  have hindex : s'.connectionPool.map Slot.index =
      s.connectionPool.map Slot.index ++ [slot.index] := by
    rw [hpool, List.map_append, List.map_singleton]
  refine ⟨?_, fun i => ?_, fun i u => ?_⟩
  · rw [hindex, ← List.concat_eq_append]
    exact h.nodup.concat hnotMem
  · rw [hindex, List.mem_append, List.mem_singleton, h.queued i]
    rcases eq_or_ne i slot.index with rfl | hi
    · simp [hlt]
    · rw [Function.update_of_ne hi, or_iff_left hi]
  · rw [hph]
    rcases eq_or_ne i slot.index with rfl | hi
    · -- its only owner has let it go
      rw [Function.update_self]
      rcases eq_or_ne u t with rfl | hu
      · simp [hnone]
      · rw [Function.update_of_ne hu, h.held, howner]
        simp [hu.symm]
    · rw [Function.update_of_ne hi, ← h.held i u]
      rcases eq_or_ne u t with rfl | hu
      · simp [hnone, hslot, hi.symm]
      · rw [Function.update_of_ne hu]

/-- **Refinement.** A step leaves the owners alone, gives a slot of the pool to the borrower, or
gives the borrower's slot back to the pool. -/
theorem Refines.step {poolSize : ℕ} {s s' : State τ} {owner : ℕ → Option τ} {a : τ × Action}
    (h : Refines poolSize s owner) (hs : DBManager.step s a = some s') :
    ∃ owner', Refines poolSize s' owner' := by
  obtain ⟨ph, hph, heffect⟩ := step_cases hs
  cases heffect with
  | stay hslot hpool _ => exact ⟨owner, h.stay hph (congrArg _ hslot) hpool⟩
  | replace hslot hslot' hpool _ =>
    exact ⟨owner, h.stay hph (by rw [hslot, hslot']; rfl) hpool⟩
  | take hnone hslot hpool _ => exact ⟨_, h.take hph hnone hslot hpool⟩
  | put hslot hnone hpool _ => exact ⟨_, h.put hph hslot hnone hpool⟩

/-! ### The connections behind the slots -/

/-- The slot is in the queue or with a borrower. -/
def State.Has (s : State τ) (x : Slot) : Prop :=
  x ∈ s.connectionPool ∨ ∃ t, (s.phase t).slot = some x

/-- Every slot has a connection, and no two slots have the same. -/
structure Live (s : State τ) : Prop where
  made : ∀ x, s.Has x → ∃ c < s.made, x.conn = some c
  inj : ∀ x y, s.Has x → s.Has y → x.conn = y.conn → x.index = y.index

omit [DecidableEq τ] in
theorem live_init (poolSize : ℕ) : Live (init poolSize : State τ) := by
  have hhas : ∀ x, (init poolSize : State τ).Has x → ∃ i < poolSize, x = ⟨i, some i⟩ := by
    rintro x (hx | ⟨t, ht⟩)
    · obtain ⟨i, hi, rfl⟩ := List.mem_map.mp hx
      exact ⟨i, List.mem_range.mp hi, rfl⟩
    · cases ht
  refine ⟨fun x hx => ?_, fun x y hx hy h => ?_⟩
  · obtain ⟨i, hi, rfl⟩ := hhas x hx
    exact ⟨i, hi, rfl⟩
  · obtain ⟨i, -, rfl⟩ := hhas x hx
    obtain ⟨j, -, rfl⟩ := hhas y hy
    exact Option.some.inj h

omit [DecidableEq τ] in
/-- Slots that were there before keep their connections apart. -/
theorem Live.mono {s s' : State τ} (h : Live s) (hhas : ∀ x, s'.Has x → s.Has x)
    (hmade : s'.made = s.made) : Live s' :=
  ⟨fun x hx => hmade ▸ h.made x (hhas x hx), fun x y hx hy => h.inj x y (hhas x hx) (hhas y hy)⟩

/-- A slot is where it was, or with the borrower that has moved. -/
theorem has_of_update {s s' : State τ} {t : τ} {ph : Phase} {x : Slot}
    (hph : s'.phase = Function.update s.phase t ph) (h : ∃ u, (s'.phase u).slot = some x) :
    ph.slot = some x ∨ s.Has x := by
  obtain ⟨u, hu⟩ := h
  rw [hph] at hu
  rcases eq_or_ne u t with rfl | hne
  · rw [Function.update_self] at hu
    exact .inl hu
  · rw [Function.update_of_ne hne] at hu
    exact .inr (.inr ⟨u, hu⟩)

/-- Every step keeps the connections apart: the only new one has never been made before. -/
theorem Live.step {s s' : State τ} {a : τ × Action} (h : Live s)
    (hs : DBManager.step s a = some s') : Live s' := by
  obtain ⟨ph, hph, heffect⟩ := step_cases hs
  cases heffect with
  | stay hslot hpool hmade =>
    refine h.mono (fun x hx => ?_) hmade
    rcases hx with hx | hx
    · exact .inl (hpool ▸ hx)
    · rcases has_of_update hph hx with hx | hx
      · exact .inr ⟨a.1, hslot ▸ hx⟩
      · exact hx
  | @take slot hnone hslot hpool hmade =>
    refine h.mono (fun x hx => ?_) hmade
    rcases hx with hx | hx
    · exact .inl (hpool ▸ List.mem_cons_of_mem slot hx)
    · rcases has_of_update hph hx with hx | hx
      · obtain rfl := Option.some.inj (hslot.symm.trans hx)
        exact .inl (hpool ▸ List.mem_cons_self)
      · exact hx
  | @put slot hslot hnone hpool hmade =>
    refine h.mono (fun x hx => ?_) hmade
    rcases hx with hx | hx
    · rw [hpool, List.mem_append, List.mem_singleton] at hx
      rcases hx with hx | rfl
      · exact .inl hx
      · exact .inr ⟨a.1, hslot⟩
    · rcases has_of_update hph hx with hx | hx
      · rw [hnone] at hx
        cases hx
      · exact hx
  | @replace slot hslot hslot' hpool hmade =>
    have hhas : ∀ x, s'.Has x → x = { slot with conn := some s.made } ∨ s.Has x := by
      rintro x (hx | hx)
      · exact .inr (.inl (hpool ▸ hx))
      · rcases has_of_update hph hx with hx | hx
        · exact .inl (Option.some.inj (hx.symm.trans hslot'))
        · exact .inr hx
    -- the new connection has a number that none of the others has
    have hnew : ∀ x, s.Has x → x.conn ≠ some s.made := by
      intro x hx hconn
      obtain ⟨c, hc, hxc⟩ := h.made x hx
      obtain rfl := Option.some.inj (hxc.symm.trans hconn)
      exact absurd hc (Nat.lt_irrefl _)
    refine ⟨fun x hx => ?_, fun x y hx hy hconn => ?_⟩
    · rw [hmade]
      rcases hhas x hx with rfl | hx
      · exact ⟨s.made, Nat.lt_succ_self _, rfl⟩
      · obtain ⟨c, hc, hxc⟩ := h.made x hx
        exact ⟨c, Nat.lt_succ_of_lt hc, hxc⟩
    · rcases hhas x hx with rfl | hx
      · rcases hhas y hy with rfl | hy
        · rfl
        · exact absurd hconn.symm (hnew y hy)
      · rcases hhas y hy with rfl | hy
        · exact absurd hconn (hnew x hx)
        · exact h.inj x y hx hy hconn

/-! ### Conservation -/

/-- The borrower has the slot: it is lent to it, or on its way to it or back. -/
def State.Borrows (s : State τ) (t : τ) (i : ℕ) : Prop :=
  ∃ x, (s.phase t).slot = some x ∧ x.index = i

/-- The connection `conn` is lent to the borrower. -/
def State.Lends (s : State τ) (t : τ) (conn : Option ℕ) : Prop :=
  ∃ slot, s.phase t = .lent slot ∧ slot.conn = conn

/-- Each of the `poolSize` slots is in the queue exactly once or with exactly one borrower,
there are no others, no connection is lent twice, and `nullptr` is never lent. -/
structure Conserved (poolSize : ℕ) (s : State τ) : Prop where
  slots : ∀ i < poolSize,
    ((s.connectionPool.map Slot.index).count i = 1 ∧ ∀ t, ¬ s.Borrows t i) ∨
      (i ∉ s.connectionPool.map Slot.index ∧ ∃! t, s.Borrows t i)
  others : ∀ x, s.Has x → x.index < poolSize
  once : ∀ t t' conn, s.Lends t conn → s.Lends t' conn → t = t'
  notPooled : ∀ t conn, s.Lends t conn → conn ∉ s.connectionPool.map Slot.conn
  nonNull : ∀ t, ¬ s.Lends t none

omit [DecidableEq τ] in
/-- What the owners and the numbers of the connections say together. -/
theorem conserved_of_refines {poolSize : ℕ} {s : State τ} {owner : ℕ → Option τ}
    (h : Refines poolSize s owner) (hlive : Live s) : Conserved poolSize s := by
  -- a connection that is lent has an owner, through the slot that holds it
  have hlent : ∀ t conn, s.Lends t conn →
      ∃ x, (s.phase t).slot = some x ∧ x.conn = conn ∧ x.index < poolSize ∧
        owner x.index = some t := by
    rintro t conn ⟨x, hx, hconn⟩
    have hslot : (s.phase t).slot = some x := by rw [hx]; rfl
    exact ⟨x, hslot, hconn, (h.held x.index t).mp ⟨x, hslot, rfl⟩⟩
  refine ⟨fun i hi => ?_, ?_, ?_, ?_, ?_⟩
  · cases howner : owner i with
    | none =>
      refine .inl ⟨List.count_eq_one_of_mem h.nodup ((h.queued i).mpr ⟨hi, howner⟩), ?_⟩
      intro t ht
      rw [((h.held i t).mp ht).2] at howner
      cases howner
    | some t =>
      refine .inr ⟨fun hmem => ?_, t, (h.held i t).mpr ⟨hi, howner⟩, fun u hu => ?_⟩
      · rw [((h.queued i).mp hmem).2] at howner
        cases howner
      · rw [((h.held i u).mp hu).2] at howner
        exact Option.some.inj howner
  · rintro x (hx | ⟨t, ht⟩)
    · exact ((h.queued _).mp (List.mem_map_of_mem hx)).1
    · exact ((h.held _ t).mp ⟨x, ht, rfl⟩).1
  · intro t t' conn ht ht'
    obtain ⟨x, hx, hxc, -, howner⟩ := hlent t conn ht
    obtain ⟨y, hy, hyc, -, howner'⟩ := hlent t' conn ht'
    have hindex := hlive.inj x y (.inr ⟨t, hx⟩) (.inr ⟨t', hy⟩) (hxc.trans hyc.symm)
    rw [hindex, howner'] at howner
    exact (Option.some.inj howner).symm
  · intro t conn ht hmem
    obtain ⟨x, hx, hxc, -, howner⟩ := hlent t conn ht
    obtain ⟨y, hy, hyc⟩ := List.mem_map.mp hmem
    -- no two live slots share a connection, so the owner would be none and `t`
    have hindex := hlive.inj x y (.inr ⟨t, hx⟩) (.inl hy) (hxc.trans hyc.symm)
    have hfree := ((h.queued y.index).mp (List.mem_map_of_mem hy)).2
    rw [← hindex, howner] at hfree
    cases hfree
  · intro t ht
    obtain ⟨x, hx, hxc, -, -⟩ := hlent t none ht
    obtain ⟨c, -, hc⟩ := hlive.made x (.inr ⟨t, hx⟩)
    rw [hxc] at hc
    cases hc

/-- **Pool conservation.** Whatever borrowers do and the driver answers, in every state each
slot is in the queue once or with one borrower, no connection is lent twice and no `nullptr` is
lent. -/
theorem conserved (poolSize : ℕ) {l : List (τ × Action)} {s : State τ}
    (hr : run step (init poolSize) l = some s) : Conserved poolSize s := by
  have hrefines : ∃ owner, Refines poolSize s owner :=
    invariant_run (I := fun s => ∃ owner, Refines poolSize s owner)
      (fun _ _ _ ⟨_, h⟩ hs => h.step hs) ⟨_, .init poolSize⟩ hr
  have hlive : Live s := invariant_run (fun _ _ _ h hs => h.step hs) (live_init poolSize) hr
  obtain ⟨owner, hrefines⟩ := hrefines
  exact conserved_of_refines hrefines hlive

/-- Two slots: one borrower gets a replaced connection, one keeps a dead one because `connect`
throws, and one waits until the first has given its slot back. -/
def busy : List (ℕ × Action) :=
  [(0, .lock), (0, .pop), (0, .isValid false), (0, .connect), (1, .lock), (1, .pop),
    (1, .isValidThrows), (2, .lock), (2, .wait), (0, .lockDeleter), (0, .push), (2, .wake),
    (2, .pop), (2, .isValid false), (2, .connectThrows)]

theorem conserved_busy :
    ∃ s, run step (init 2) busy = some s ∧ s.phase 2 = .lent ⟨0, some 2⟩ ∧ Conserved 2 s := by
  obtain ⟨s, hs⟩ := Option.isSome_iff_exists.mp
    (show (run step (init 2 : State ℕ) busy).isSome by decide)
  refine ⟨s, hs, ?_, conserved 2 hs⟩
  have hphase : (run step (init 2 : State ℕ) busy).map (fun s => s.phase 2) =
      some (.lent ⟨0, some 2⟩) := by decide
  rw [hs] at hphase
  exact Option.some.inj hphase

/-! ### The mutex -/

/-- `poolMutex` is held by whoever is in one of the sections it guards. -/
def Guarded (s : State τ) : Prop := ∀ t, (s.phase t).critical = true ↔ s.poolMutex = some t

theorem guarded_enter {s : State τ} (h : Guarded s) {t : τ} {ph : Phase}
    (hph : ph.critical = true) (hfree : s.poolMutex = none ∨ s.poolMutex = some t) :
    Guarded (s.enter t ph) := by
  intro u
  rcases eq_or_ne u t with rfl | hu
  · simp [State.enter, hph]
  · have hnot : s.poolMutex ≠ some u := by
      rcases hfree with hfree | hfree <;> rw [hfree]
      · exact nofun
      · exact fun heq => hu (Option.some.inj heq).symm
    simp only [State.enter, Function.update_of_ne hu, h u, hnot, Option.some.injEq, false_iff]
    exact hu.symm

theorem guarded_leave {s : State τ} (h : Guarded s) {t : τ} {ph : Phase}
    (hph : ph.critical = false) (hheld : s.poolMutex = some t) : Guarded (s.leave t ph) := by
  intro u
  rcases eq_or_ne u t with rfl | hu
  · simp [State.leave, hph]
  · have hnot : s.poolMutex ≠ some u := hheld ▸ fun heq => hu (Option.some.inj heq).symm
    simp [State.leave, Function.update_of_ne hu, h u, hnot]

/-- The queue is only touched by the holder of the mutex, and every borrower in a section that
the mutex guards holds it. -/
theorem guarded_step {s s' : State τ} {a : τ × Action} (h : Guarded s)
    (hs : step s a = some s') : Guarded s' := by
  obtain ⟨t, act⟩ := a
  have hheld : ∀ {ph : Phase}, s.phase t = ph → ph.critical = true → s.poolMutex = some t :=
    fun hph hcrit => (h t).mp (hph ▸ hcrit)
  simp only [step] at hs
  split at hs
  · obtain ⟨hfree, heq⟩ := Option.ite_none_right_eq_some.mp hs
    cases heq
    exact guarded_enter h rfl (.inl hfree)
  · next hph =>
    obtain ⟨-, heq⟩ := Option.ite_none_right_eq_some.mp hs
    cases heq
    exact guarded_leave h rfl (hheld hph rfl)
  · obtain ⟨hfree, heq⟩ := Option.ite_none_right_eq_some.mp hs
    cases heq
    exact guarded_enter h rfl (.inl hfree)
  · next hph =>
    split at hs
    · cases hs
    · cases hs
      exact guarded_enter h rfl (.inr (hheld hph rfl))
  · next hph =>
    obtain ⟨-, heq⟩ := Option.ite_none_right_eq_some.mp hs
    cases heq
    exact guarded_enter h rfl (.inr (hheld hph rfl))
  · next hph =>
    split_ifs at hs
    · cases hs
      exact guarded_leave h rfl (hheld hph rfl)
    · cases hs
      exact guarded_enter h rfl (.inr (hheld hph rfl))
  · next hph =>
    obtain ⟨-, heq⟩ := Option.ite_none_left_eq_some.mp hs
    cases heq
    exact guarded_leave h rfl (hheld hph rfl)
  · next hph =>
    cases hs
    exact guarded_leave h rfl (hheld hph rfl)
  · next hph =>
    cases hs
    exact guarded_leave h rfl (hheld hph rfl)
  · obtain ⟨hfree, heq⟩ := Option.ite_none_right_eq_some.mp hs
    cases heq
    exact guarded_enter h rfl (.inl hfree)
  · next hph =>
    cases hs
    exact guarded_leave h rfl (hheld hph rfl)
  · cases hs

/-- **Mutual exclusion.** Never are two borrowers in sections that the mutex guards. -/
theorem exclusive (poolSize : ℕ) {l : List (τ × Action)} {s : State τ}
    (hr : run step (init poolSize) l = some s) {t t' : τ} (ht : (s.phase t).critical = true)
    (ht' : (s.phase t').critical = true) : t = t' := by
  have hinit : Guarded (init poolSize : State τ) := fun _ => ⟨nofun, nofun⟩
  have hguarded : Guarded s := invariant_run (fun _ _ _ => guarded_step) hinit hr
  have hheld := (hguarded t).mp ht
  rw [(hguarded t').mp ht'] at hheld
  exact (Option.some.inj hheld).symm

end DBManager

end ItsBedalyo
