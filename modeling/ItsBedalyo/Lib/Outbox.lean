import Mathlib.Data.List.Basic
import Mathlib.Data.List.Nodup
import Mathlib.Logic.Function.Basic

/-!
# Values that are written first and announced later

Several writers write values to a log and announce each of them afterwards, in a step of its
own. `Outbox` has both sequences; `rest` is what has been written and not announced. `Owing` says
that the announcements so far are the first values written, and what each writer owes: at most one
announcement, that of a value in `rest`. Writing and announcing keep it, if a writer writes only
when it owes nothing and announces only when its turn has come (`Owing.write`,
`Owing.announce`). When nobody owes anything, all that was written has been announced, in order.
-/

/-- The values written, each with its writer, and the values announced. -/
structure Outbox (τ ν : Type*) where
  written : List (τ × ν)
  announced : List ν

namespace Outbox

variable {τ ν : Type*}

/-- What has been written and not yet been announced. -/
def rest (b : Outbox τ ν) : List (τ × ν) := b.written.drop b.announced.length

/-- It is the turn of writer `t`. -/
def Next (b : Outbox τ ν) (t : τ) : Prop := ∃ v, b.rest.head? = some (t, v)

/-- The announcements are the first values written, and each writer owes its value in the rest. -/
structure Owing (b : Outbox τ ν) (owed : τ → Option ν) : Prop where
  announced : b.announced = (b.written.take b.announced.length).map Prod.snd
  owed : ∀ t v, owed t = some v ↔ (t, v) ∈ b.rest
  nodup : (b.rest.map Prod.fst).Nodup

variable {b : Outbox τ ν} {owed : τ → Option ν} {t : τ} {v : ν}

theorem Owing.length_le (h : b.Owing owed) : b.announced.length ≤ b.written.length := by
  have hlength := congrArg List.length h.announced
  rw [List.length_map, List.length_take] at hlength
  omega

/-- The announcements are a prefix of the values written. -/
theorem Owing.isPrefix (h : b.Owing owed) : b.announced <+: b.written.map Prod.snd := by
  rw [h.announced]
  exact (List.take_prefix _ _).map Prod.snd

/-- When nobody owes anything, everything has been announced. -/
theorem Owing.announced_eq (h : b.Owing owed) (hnone : ∀ t, owed t = none) :
    b.announced = b.written.map Prod.snd := by
  have hrest : b.rest = [] := by
    refine List.eq_nil_iff_forall_not_mem.mpr fun entry hentry => ?_
    have howed := (h.owed entry.1 entry.2).mpr hentry
    rw [hnone] at howed
    cases howed
  have hall : b.written.take b.announced.length = b.written :=
    List.take_of_length_le (List.drop_eq_nil_iff.mp hrest)
  rw [h.announced, hall]

theorem owing_init : Owing (⟨[], []⟩ : Outbox τ ν) fun _ => none :=
  ⟨rfl, fun _ _ => ⟨nofun, nofun⟩, List.nodup_nil⟩

variable [DecidableEq τ]

/-- A writer that owes nothing writes a value, and owes it. -/
theorem Owing.write (h : b.Owing owed) (ht : owed t = none) :
    Owing { b with written := b.written ++ [(t, v)] } (Function.update owed t (some v)) := by
  have hrest : rest { b with written := b.written ++ [(t, v)] } = b.rest ++ [(t, v)] :=
    List.drop_append_of_le_length h.length_le
  have hnew (v' : ν) : (t, v') ∉ b.rest := by
    intro hmem
    have howed := (h.owed t v').mpr hmem
    rw [ht] at howed
    cases howed
  refine ⟨?_, fun t' v' => ?_, ?_⟩
  · rw [List.take_append_of_le_length h.length_le]
    exact h.announced
  · rw [hrest, List.mem_append, List.mem_singleton, Prod.mk.injEq]
    rcases eq_or_ne t' t with rfl | hne
    · rw [Function.update_self]
      constructor
      · rintro ⟨⟩
        exact .inr ⟨rfl, rfl⟩
      · rintro (hold | ⟨-, rfl⟩)
        · exact absurd hold (hnew v')
        · rfl
    · rw [Function.update_of_ne hne, h.owed]
      exact ⟨.inl, fun hmem => hmem.resolve_right fun heq => hne heq.1⟩
  · rw [hrest, List.map_append, List.map_singleton]
    refine h.nodup.append (List.nodup_singleton t) ?_
    rw [List.disjoint_singleton]
    intro hmem
    obtain ⟨⟨t', v'⟩, hentry, rfl⟩ := List.mem_map.mp hmem
    exact hnew v' hentry

/-- A writer whose turn has come announces what it owes. -/
theorem Owing.announce (h : b.Owing owed) (hnext : b.Next t) (hv : ∀ v' ∈ owed t, v' = v) :
    Owing { b with announced := b.announced ++ [v] } (Function.update owed t none) := by
  obtain ⟨v', hhead⟩ := hnext
  obtain ⟨rest', hrest⟩ : ∃ rest', b.rest = (t, v') :: rest' := by
    obtain ⟨rest', hrest⟩ := List.head?_eq_some_iff.mp hhead
    exact ⟨rest', hrest⟩
  obtain rfl : v' = v := hv v' ((h.owed t v').mpr (by rw [hrest]; exact .head _))
  have hwritten : b.written =
      b.written.take b.announced.length ++ (t, v') :: rest' := by
    rw [← hrest]
    exact (List.take_append_drop _ _).symm
  have hlength : (b.written.take b.announced.length).length = b.announced.length :=
    List.length_take_of_le h.length_le
  have hnew : rest { b with announced := b.announced ++ [v'] } = rest' := by
    show b.written.drop (b.announced ++ [v']).length = rest'
    rw [List.length_append, List.length_singleton, ← List.drop_drop]
    show b.rest.drop 1 = rest'
    rw [hrest]
    rfl
  have hnodup := h.nodup
  rw [hrest, List.map_cons, List.nodup_cons] at hnodup
  have hgone (v : ν) : (t, v) ∉ rest' := fun hmem => hnodup.1 (List.mem_map.mpr ⟨_, hmem, rfl⟩)
  refine ⟨?_, fun t' v => ?_, ?_⟩
  · have htake : b.written.take (b.announced.length + 1) =
        b.written.take b.announced.length ++ [(t, v')] := by
      conv_lhs => rw [hwritten]
      rw [List.take_append, hlength]
      simp [List.take_take]
    show b.announced ++ [v'] = (b.written.take (b.announced ++ [v']).length).map Prod.snd
    rw [List.length_append, List.length_singleton, htake, List.map_append, ← h.announced]
    rfl
  · rw [hnew]
    rcases eq_or_ne t' t with rfl | hne
    · rw [Function.update_self]
      exact ⟨nofun, fun hmem => absurd hmem (hgone v)⟩
    · rw [Function.update_of_ne hne, h.owed, hrest, List.mem_cons, Prod.mk.injEq]
      exact ⟨fun hmem => hmem.resolve_left fun heq => hne heq.1, .inr⟩
  · rw [hnew]
    exact hnodup.2

end Outbox
