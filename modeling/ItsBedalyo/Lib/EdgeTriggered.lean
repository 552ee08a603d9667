import ItsBedalyo.Lib.Transition
import Mathlib.Algebra.BigOperators.Group.Finset.Basic
import Mathlib.Algebra.GroupWithZero.Nat
import Mathlib.Algebra.Order.BigOperators.Group.Finset
import Mathlib.Algebra.Order.BigOperators.Group.List

/-!
# Edge-triggered notification

Sources of work report *edges*: when something arrives at a source, the source is marked, and
collecting the marks clears them. A consumer that has collected a mark is not told again about
what was already there, so it has to take everything before it turns to the next source. `level`
is how much is pending at a source, `edges` the sources marked, `batch` the marks collected and
not yet looked at, `current` the source being emptied, and `abandoned` the sources the consumer
turned away from before they were empty.

Nothing is forgotten except at an abandoned source: whatever is pending is behind a mark, a
collected mark or the source at hand (`Inv.covered`), so a consumer at rest has left nothing
behind (`Inv.level_eq_zero`). And without arrivals it does come to rest: `work` decreases with
every step of the consumer (`work_lt_of_own`).
-/

namespace EdgeTriggered

variable {ι : Type*}

/-- The sources, and where the consumer is. -/
@[ext]
structure State (ι : Type*) where
  level : ι → ℕ
  edges : Finset ι
  abandoned : Finset ι
  batch : List ι
  current : Option ι

/-- An arrival, or a step of the consumer. -/
inductive Label (ι : Type*)
  | arrive (i : ι) (n : ℕ)
  | collect (batch : List ι)
  | next
  | take (n : ℕ)
  | drained
  | abandon
  | drop

namespace State

/-- Nothing has arrived. -/
def init : State ι :=
  { level := fun _ => 0, edges := ∅, abandoned := ∅, batch := [], current := none }

/-- The consumer has nothing to look at. -/
structure AtRest (s : State ι) : Prop where
  edges_eq : s.edges = ∅
  batch_eq : s.batch = []
  current_eq : s.current = none

end State

/-- The steps of the consumer. -/
def Label.Own : Label ι → Prop
  | .arrive _ _ => False
  | _ => True

variable [DecidableEq ι]

namespace State

/-- `n` more arrive at `i`. -/
def arrive (s : State ι) (i : ι) (n : ℕ) : State ι :=
  { s with
    level := Function.update s.level i (s.level i + n)
    edges := insert i s.edges
    abandoned := s.abandoned.erase i }

/-- The marks of `batch` are collected. -/
def collect (s : State ι) (batch : List ι) : State ι :=
  { s with edges := s.edges \ batch.toFinset, batch := batch }

/-- `n` are taken from `i`. -/
def take (s : State ι) (i : ι) (n : ℕ) : State ι :=
  { s with level := Function.update s.level i (s.level i - n) }

/-- The consumer turns away from `i`. -/
def abandon (s : State ι) (i : ι) : State ι :=
  { s with current := none, abandoned := insert i s.abandoned }

/-- The source `i` goes, with its mark and all that is pending there. -/
def drop (s : State ι) (i : ι) : State ι :=
  { s with current := none, level := Function.update s.level i 0, edges := s.edges.erase i }

/-! The levels after a move, beside the definitions. -/

section Level

variable (s : State ι) {i j : ι} (n : ℕ)

@[simp] theorem arrive_level_self : (s.arrive i n).level i = s.level i + n :=
  Function.update_self ..

theorem arrive_level_of_ne (h : j ≠ i) : (s.arrive i n).level j = s.level j :=
  Function.update_of_ne h ..

@[simp] theorem take_level_self : (s.take i n).level i = s.level i - n := Function.update_self ..

theorem take_level_of_ne (h : j ≠ i) : (s.take i n).level j = s.level j :=
  Function.update_of_ne h ..

theorem take_level_le (j : ι) : (s.take i n).level j ≤ s.level j := by
  by_cases hji : j = i
  · rw [hji, take_level_self]
    exact Nat.sub_le _ _
  · rw [take_level_of_ne s n hji]

@[simp] theorem drop_level_self : (s.drop i).level i = 0 := Function.update_self ..

theorem drop_level_of_ne (h : j ≠ i) : (s.drop i).level j = s.level j :=
  Function.update_of_ne h ..

theorem drop_level_le (j : ι) : (s.drop i).level j ≤ s.level j := by
  by_cases hji : j = i
  · rw [hji, drop_level_self]
    exact Nat.zero_le _
  · rw [drop_level_of_ne s hji]

end Level

end State

/-- The step function. -/
def step (s : State ι) : Label ι → Option (State ι)
  | .arrive i n => if 0 < n then some (s.arrive i n) else none
  | .collect batch =>
    if s.current = none ∧ s.batch = [] ∧ batch ≠ [] ∧ batch.Nodup ∧ ∀ i ∈ batch, i ∈ s.edges then
      some (s.collect batch)
    else none
  | .next =>
    match s.current, s.batch with
    | none, i :: batch => some { s with batch := batch, current := some i }
    | _, _ => none
  | .take n => s.current.bind fun i =>
    if 0 < n ∧ n ≤ s.level i then some (s.take i n) else none
  | .drained => s.current.bind fun i =>
    if s.level i = 0 then some { s with current := none } else none
  | .abandon => s.current.map s.abandon
  | .drop => s.current.map s.drop

/-- What each step needs and does. -/
inductive Effect (s : State ι) : Label ι → State ι → Prop
  | arrive {i : ι} {n : ℕ} : 0 < n → Effect s (.arrive i n) (s.arrive i n)
  | collect {batch : List ι} : s.current = none → s.batch = [] → batch ≠ [] → batch.Nodup →
      (∀ i ∈ batch, i ∈ s.edges) → Effect s (.collect batch) (s.collect batch)
  | next {i : ι} {batch : List ι} : s.current = none → s.batch = i :: batch →
      Effect s .next { s with batch := batch, current := some i }
  | take {i : ι} {n : ℕ} : s.current = some i → 0 < n → n ≤ s.level i →
      Effect s (.take n) (s.take i n)
  | drained {i : ι} : s.current = some i → s.level i = 0 →
      Effect s .drained { s with current := none }
  | abandon {i : ι} : s.current = some i → Effect s .abandon (s.abandon i)
  | drop {i : ι} : s.current = some i → Effect s .drop (s.drop i)

variable {s s' : State ι} {a : Label ι}

/-- **Inversion.** The steps are exactly the effects. -/
theorem step_eq_some_iff : step s a = some s' ↔ Effect s a s' := by
  constructor
  · intro h
    cases a with
    | arrive i n =>
      obtain ⟨hn, hs⟩ := Option.ite_none_right_eq_some.mp h
      obtain rfl := Option.some.inj hs
      exact .arrive hn
    | collect batch =>
      obtain ⟨⟨hcurrent, hbatch, hne, hnodup, hsub⟩, hs⟩ := Option.ite_none_right_eq_some.mp h
      obtain rfl := Option.some.inj hs
      exact .collect hcurrent hbatch hne hnodup hsub
    | next =>
      simp only [step] at h
      split at h
      · next i batch hcurrent hbatch =>
        obtain rfl := Option.some.inj h
        exact .next hcurrent hbatch
      · cases h
    | take n =>
      obtain ⟨i, hcurrent, h⟩ := Option.bind_eq_some_iff.mp h
      obtain ⟨⟨hn, hle⟩, hs⟩ := Option.ite_none_right_eq_some.mp h
      obtain rfl := Option.some.inj hs
      exact .take hcurrent hn hle
    | drained =>
      obtain ⟨i, hcurrent, h⟩ := Option.bind_eq_some_iff.mp h
      obtain ⟨hlevel, hs⟩ := Option.ite_none_right_eq_some.mp h
      obtain rfl := Option.some.inj hs
      exact .drained hcurrent hlevel
    | abandon =>
      obtain ⟨i, hcurrent, rfl⟩ := Option.map_eq_some_iff.mp h
      exact .abandon hcurrent
    | drop =>
      obtain ⟨i, hcurrent, rfl⟩ := Option.map_eq_some_iff.mp h
      exact .drop hcurrent
  · intro h
    cases h with
    | arrive hn => simp [step, hn]
    | collect hcurrent hbatch hne hnodup hsub =>
      simp only [step]
      rw [if_pos ⟨hcurrent, hbatch, hne, hnodup, hsub⟩]
    | next hcurrent hbatch => simp [step, hcurrent, hbatch]
    | take hcurrent hn hle => simp [step, hcurrent, hn, hle]
    | drained hcurrent hlevel => simp [step, hcurrent, hlevel]
    | abandon hcurrent => simp [step, hcurrent]
    | drop hcurrent => simp [step, hcurrent]

/-! ### Nothing is forgotten -/

omit [DecidableEq ι] in
/-- Whatever is pending at a source that was not abandoned will be looked at. -/
structure Inv (s : State ι) : Prop where
  covered : ∀ i, 0 < s.level i →
    i ∈ s.edges ∨ i ∈ s.batch ∨ s.current = some i ∨ i ∈ s.abandoned
  nodup : s.batch.Nodup
  current_notMem : ∀ i, s.current = some i → i ∉ s.batch

omit [DecidableEq ι] in
theorem Inv.init : Inv (.init : State ι) := by
  constructor <;> simp [State.init]

theorem Inv.step (h : Inv s) (hs : EdgeTriggered.step s a = some s') : Inv s' := by
  cases step_eq_some_iff.mp hs with
  | @arrive i n _ =>
    refine ⟨fun j hj => ?_, h.nodup, h.current_notMem⟩
    simp only [State.arrive, Finset.mem_insert, Finset.mem_erase]
    by_cases hji : j = i
    · exact .inl (.inl hji)
    · rw [s.arrive_level_of_ne n hji] at hj
      rcases h.covered j hj with hedge | hbatch | hcurrent | habandoned
      · exact .inl (.inr hedge)
      · exact .inr (.inl hbatch)
      · exact .inr (.inr (.inl hcurrent))
      · exact .inr (.inr (.inr ⟨hji, habandoned⟩))
  | @collect batch hcurrent hbatch _ hnodup _ =>
    refine ⟨fun j hj => ?_, hnodup, fun j hj => ?_⟩
    · simp only [State.collect, Finset.mem_sdiff, List.mem_toFinset]
      by_cases hmem : j ∈ batch
      · exact .inr (.inl hmem)
      · rcases h.covered j hj with hedge | hold | hcurrent' | habandoned
        · exact .inl ⟨hedge, hmem⟩
        · rw [hbatch] at hold
          cases hold
        · exact .inr (.inr (.inl hcurrent'))
        · exact .inr (.inr (.inr habandoned))
    · rw [State.collect, hcurrent] at hj
      cases hj
  | @next i batch hcurrent hbatch =>
    have hnodup := h.nodup
    rw [hbatch, List.nodup_cons] at hnodup
    refine ⟨fun j hj => ?_, hnodup.2, fun j hj => ?_⟩
    · rcases h.covered j hj with hedge | hold | hcurrent' | habandoned
      · exact .inl hedge
      · rw [hbatch, List.mem_cons] at hold
        rcases hold with rfl | hold
        · exact .inr (.inr (.inl rfl))
        · exact .inr (.inl hold)
      · rw [hcurrent] at hcurrent'
        cases hcurrent'
      · exact .inr (.inr (.inr habandoned))
    · obtain rfl := Option.some.inj hj
      exact hnodup.1
  | @take i n hcurrent hn hle =>
    refine ⟨fun j hj => ?_, h.nodup, h.current_notMem⟩
    by_cases hji : j = i
    · exact .inr (.inr (.inl (hji ▸ hcurrent)))
    · rw [s.take_level_of_ne n hji] at hj
      exact h.covered j hj
  | @drained i hcurrent hlevel =>
    refine ⟨fun j hj => ?_, h.nodup, fun j hj => ?_⟩
    · rcases h.covered j hj with hedge | hbatch | hcurrent' | habandoned
      · exact .inl hedge
      · exact .inr (.inl hbatch)
      · -- the source at hand was empty
        obtain rfl := Option.some.inj (hcurrent.symm.trans hcurrent')
        exact absurd hlevel (Nat.ne_of_gt hj)
      · exact .inr (.inr (.inr habandoned))
    · cases hj
  | @abandon i hcurrent =>
    refine ⟨fun j hj => ?_, h.nodup, fun j hj => ?_⟩
    · simp only [State.abandon, Finset.mem_insert]
      rcases h.covered j hj with hedge | hbatch | hcurrent' | habandoned
      · exact .inl hedge
      · exact .inr (.inl hbatch)
      · obtain rfl := Option.some.inj (hcurrent.symm.trans hcurrent')
        exact .inr (.inr (.inr (.inl rfl)))
      · exact .inr (.inr (.inr (.inr habandoned)))
    · cases hj
  | @drop i hcurrent =>
    refine ⟨fun j hj => ?_, h.nodup, fun j hj => ?_⟩
    · have hji : j ≠ i := by
        rintro rfl
        simp at hj
      rw [s.drop_level_of_ne hji] at hj
      simp only [State.drop, Finset.mem_erase]
      rcases h.covered j hj with hedge | hbatch | hcurrent' | habandoned
      · exact .inl ⟨hji, hedge⟩
      · exact .inr (.inl hbatch)
      · exact absurd (Option.some.inj (hcurrent'.symm.trans hcurrent)) hji
      · exact .inr (.inr (.inr habandoned))
    · cases hj

omit [DecidableEq ι] in
/-- **Nothing is left behind.** A consumer at rest has emptied every source it did not abandon. -/
theorem Inv.level_eq_zero (h : Inv s) (hrest : s.AtRest) {i : ι} (hi : i ∉ s.abandoned) :
    s.level i = 0 := by
  by_contra hne
  rcases h.covered i (Nat.pos_of_ne_zero hne) with hedge | hbatch | hcurrent | habandoned
  · simp [hrest.edges_eq] at hedge
  · simp [hrest.batch_eq] at hbatch
  · simp [hrest.current_eq] at hcurrent
  · exact hi habandoned

/-! ### The consumer comes to rest -/

omit [DecidableEq ι] in
/-- How much there is left to do: what is pending, and the moves from a mark to the end. -/
def State.work (s : State ι) : ℕ :=
  ∑ i ∈ s.edges, (s.level i + 3) + (s.batch.map fun i => s.level i + 2).sum +
    s.current.elim 0 fun i => s.level i + 1

omit [DecidableEq ι] in
theorem sum_map_mono {l l' : ι → ℕ} (hle : ∀ i, l i ≤ l' i) (k : ℕ) (batch : List ι) :
    (batch.map fun i => l i + k).sum ≤ (batch.map fun i => l' i + k).sum :=
  List.sum_le_sum fun i _ => Nat.add_le_add_right (hle i) k

omit [DecidableEq ι] in
theorem sum_edges_mono {l l' : ι → ℕ} (hle : ∀ i, l i ≤ l' i) (k : ℕ) (edges : Finset ι) :
    ∑ i ∈ edges, (l i + k) ≤ ∑ i ∈ edges, (l' i + k) :=
  Finset.sum_le_sum fun i _ => Nat.add_le_add_right (hle i) k

/-- Collecting marks trades each for less. -/
theorem work_collect {batch : List ι} (hbatch : s.batch = []) (hne : batch ≠ [])
    (hnodup : batch.Nodup) (hsub : ∀ i ∈ batch, i ∈ s.edges) :
    (s.collect batch).work < s.work := by
  have hsubset : batch.toFinset ⊆ s.edges := fun i hi => hsub i (List.mem_toFinset.mp hi)
  have hsplit := Finset.sum_sdiff hsubset (f := fun i => s.level i + 3)
  have hmarks := List.sum_toFinset (fun i => s.level i + 3) hnodup
  have hless : (batch.map fun i => s.level i + 2).sum < (batch.map fun i => s.level i + 3).sum :=
    List.sum_lt_sum_of_ne_nil hne _ _ fun i _ => Nat.lt_succ_self _
  simp only [State.work, State.collect, hbatch, List.map_nil, List.sum_nil]
  omega

/-- **Every step of the consumer is progress.** -/
theorem work_lt_of_own (hs : step s a = some s') (hown : a.Own) : s'.work < s.work := by
  cases step_eq_some_iff.mp hs with
  | arrive _ => exact hown.elim
  | collect _ hbatch hne hnodup hsub => exact work_collect hbatch hne hnodup hsub
  | next hcurrent hbatch =>
    simp only [State.work, hcurrent, hbatch, Option.elim_none, Option.elim_some, List.map_cons,
      List.sum_cons]
    omega
  | @take i n hcurrent hn hle =>
    have hedges := sum_edges_mono (s.take_level_le n (i := i)) 3 s.edges
    have hbatch := sum_map_mono (s.take_level_le n (i := i)) 2 s.batch
    have hcurrent' : (s.take i n).current = some i := hcurrent
    have hedges' : (s.take i n).edges = s.edges := rfl
    have hbatch' : (s.take i n).batch = s.batch := rfl
    simp only [State.work, hcurrent, hcurrent', hedges', hbatch', Option.elim_some,
      State.take_level_self]
    omega
  | drained hcurrent hlevel =>
    simp only [State.work, hcurrent, Option.elim_none, Option.elim_some]
    omega
  | abandon hcurrent =>
    simp only [State.work, State.abandon, hcurrent, Option.elim_none, Option.elim_some]
    omega
  | @drop i hcurrent =>
    have hedges := sum_edges_mono (s.drop_level_le (i := i)) 3 (s.edges.erase i)
    have herase : ∑ j ∈ s.edges.erase i, (s.level j + 3) ≤ ∑ j ∈ s.edges, (s.level j + 3) :=
      Finset.sum_le_sum_of_subset (Finset.erase_subset _ _)
    have hbatch := sum_map_mono (s.drop_level_le (i := i)) 2 s.batch
    have hcurrent' : (s.drop i).current = none := rfl
    have hedges' : (s.drop i).edges = s.edges.erase i := rfl
    have hbatch' : (s.drop i).batch = s.batch := rfl
    simp only [State.work, hcurrent, hcurrent', hedges', hbatch', Option.elim_none,
      Option.elim_some]
    omega

/-- An arrival at a source nobody is about to look at. -/
theorem work_arrive {i : ι} {n : ℕ} (hedge : i ∉ s.edges) (hbatch : i ∉ s.batch)
    (hcurrent : s.current ≠ some i) : (s.arrive i n).work = s.work + (s.level i + n + 3) := by
  have hedges : ∑ j ∈ insert i s.edges, ((s.arrive i n).level j + 3) =
      (s.level i + n + 3) + ∑ j ∈ s.edges, (s.level j + 3) := by
    rw [Finset.sum_insert hedge, State.arrive_level_self]
    refine congrArg _ (Finset.sum_congr rfl fun j hj => ?_)
    rw [s.arrive_level_of_ne n (ne_of_mem_of_not_mem hj hedge)]
  have hmap : (s.batch.map fun j => (s.arrive i n).level j + 2) =
      s.batch.map fun j => s.level j + 2 := by
    refine List.map_congr_left fun j hj => ?_
    rw [s.arrive_level_of_ne n (ne_of_mem_of_not_mem hj hbatch)]
  have hat : (s.current.elim 0 fun j => (s.arrive i n).level j + 1) =
      s.current.elim 0 fun j => s.level j + 1 := by
    cases hc : s.current with
    | none => rfl
    | some j =>
      have hji : j ≠ i := fun hji => hcurrent (hji ▸ hc)
      simp only [Option.elim_some, s.arrive_level_of_ne n hji]
  have hedges' : (s.arrive i n).edges = insert i s.edges := rfl
  have hbatch' : (s.arrive i n).batch = s.batch := rfl
  have hcurrent' : (s.arrive i n).current = s.current := rfl
  simp only [State.work, hedges', hbatch', hcurrent', hmap, hat, hedges]
  omega

end EdgeTriggered
