import ItsBedalyo.Lib.Journal
import Mathlib.Data.List.Dedup

/-!
# Operations that seem to be done one after another

Parties do one operation each, at the same time, and a journal lists what they do. Some entries
answer. A journal is linearized by a history of the operations, one after another, each with its
answer, that leaves the same state, in which who has answered before another has done anything comes
first (`Linearizes`).

Where the first entry of a party is all it does to the state, and its answer fits this entry, such a
history exists (`exists_linearizes`): the parties take their turns in the order of their first
entries. Who has not answered yet may have got a turn.
-/

namespace Linearization

open Journal

variable {ι σ ρ ε : Type*}

/-! ### Histories -/

section Histories

variable (spec : ι → σ → ρ → σ → Prop) (first : σ)

/-- A history of operations, one after another, with their answers. `spec t s r s'` is that `t`,
done at once in `s`, may answer `r` and leave `s'`. -/
inductive Legal : List (ι × ρ) → σ → Prop
  | nil : Legal [] first
  | concat {history : List (ι × ρ)} {s s' : σ} {t : ι} {r : ρ} :
    Legal history s → spec t s r s' → Legal (history ++ [(t, r)]) s'

variable [DecidableEq ι] (answered : ε → Option ρ) (log : List (ι × ε))

/-- `t` has answered before `u` has done anything. -/
def Precedes (t u : ι) : Prop :=
  ∃ before after, log = before ++ after ∧ (∃ e ∈ own before t, answered e ≠ none) ∧
    own before u = []

/-- The operations of a journal, as if they were done one after another. -/
structure Linearizes (s : σ) (history : List (ι × ρ)) : Prop where
  legal : Legal spec first history s
  nodup : (history.map Prod.fst).Nodup
  /-- Who has a turn has begun, -/
  begun : ∀ t ∈ history.map Prod.fst, own log t ≠ []
  /-- who has answered has had a turn with this answer, -/
  answers : ∀ t e r, (t, e) ∈ log → answered e = some r → (t, r) ∈ history
  /-- and has answered once. -/
  once : ∀ t e e' r r', (t, e) ∈ log → (t, e') ∈ log → answered e = some r →
    answered e' = some r' → e = e'
  order : history.Pairwise fun a b => ¬Precedes answered log b.1 a.1

end Histories

/-! ### Turns -/

section Turns

variable [DecidableEq ι] {log before after : List (ι × ε)} {t u : ι} {e : ε}

/-- Who has begun, in this order. -/
def turns (log : List (ι × ε)) : List ι := (log.map Prod.fst).reverse.dedup.reverse

theorem nodup_turns : (turns log).Nodup := List.nodup_reverse.mpr (List.nodup_dedup _)

theorem mem_turns : t ∈ turns log ↔ own log t ≠ [] := by
  rw [turns, List.mem_reverse, List.mem_dedup, List.mem_reverse, List.mem_map]
  constructor
  · rintro ⟨⟨t, e⟩, hmem, rfl⟩
    exact List.ne_nil_of_mem (mem_own.mpr hmem)
  · intro hne
    obtain ⟨e, he⟩ := List.exists_mem_of_ne_nil _ hne
    exact ⟨(t, e), mem_own.mp he, rfl⟩

/-- **One more entry.** -/
theorem turns_concat : turns (log ++ [(t, e)]) =
    if own log t = [] then turns log ++ [t] else turns log := by
  have hreverse : ((log ++ [(t, e)]).map Prod.fst).reverse = t :: (log.map Prod.fst).reverse := by
    rw [List.map_append, List.reverse_append]
    rfl
  have hmem : t ∈ (log.map Prod.fst).reverse ↔ own log t ≠ [] :=
    (List.mem_dedup.symm.trans List.mem_reverse.symm).trans mem_turns
  rw [turns, hreverse]
  split
  · next hnone =>
    rw [List.dedup_cons_of_notMem (hmem.not.mpr (not_not_intro hnone)), List.reverse_cons]
    rfl
  · next hsome =>
    rw [List.dedup_cons_of_mem (hmem.mpr hsome)]
    rfl

/-- Turns are never taken back. -/
theorem turns_isPrefix (before after : List (ι × ε)) :
    turns before <+: turns (before ++ after) := by
  induction after using List.reverseRecOn with
  | nil => exact (List.append_nil before).symm ▸ List.prefix_refl _
  | append_singleton after entry ih =>
    rw [← List.append_assoc, show entry = (entry.1, entry.2) from rfl, turns_concat]
    split
    · exact ih.trans (List.prefix_append _ _)
    · exact ih

/-- Who has begun before another comes first. -/
theorem pairwise_turns (answered : ε → Option ρ) :
    (turns log).Pairwise fun t u => ¬Precedes answered log u t := by
  refine List.pairwise_iff_forall_sublist.mpr fun {t u} hsub => ?_
  rintro ⟨before, after, rfl, ⟨e, he, -⟩, hnone⟩
  have hu : u ∈ turns before := mem_turns.mpr (List.ne_nil_of_mem he)
  have ht : t ∉ turns before := fun hmem => mem_turns.mp hmem hnone
  obtain ⟨rest, hrest⟩ := turns_isPrefix before after
  have hnodup : (turns before ++ rest).Nodup := hrest ▸ nodup_turns
  rw [← hrest] at hsub
  obtain ⟨l, l', heq, hl, hl'⟩ := List.sublist_append_iff.mp hsub
  cases l with
  | nil =>
    -- both would come after who has begun before
    obtain rfl : [t, u] = l' := heq
    have hmem : u ∈ rest := hl'.subset (List.mem_cons_of_mem _ List.mem_cons_self)
    exact List.disjoint_of_nodup_append hnodup hu hmem
  | cons t' l =>
    obtain rfl : t = t' := (List.cons.inj heq).1
    exact ht (hl.subset List.mem_cons_self)

end Turns

/-! ### Journals of operations that take effect at once -/

section Journals

variable [DecidableEq ι] (spec : ι → σ → ρ → σ → Prop) (first : σ) (answered : ε → Option ρ)
  (effect : ε → σ → σ) (allows : ι → ε → ρ → Prop)

/-- The state that a journal tells. -/
def replay (log : List (ι × ε)) : σ := log.foldl (fun s entry => effect entry.2 s) first

omit [DecidableEq ι] in
@[simp] theorem replay_concat (log : List (ι × ε)) (entry : ι × ε) :
    replay first effect (log ++ [entry]) = effect entry.2 (replay first effect log) := by
  rw [replay, List.foldl_append]
  rfl

/-- What is asked of an entry and the ones before it, where `allows t e` are the answers that fit
`e` as the first entry of `t`. -/
structure AtOnce (before : List (ι × ε)) (entry : ι × ε) : Prop where
  answer : own before entry.1 = [] → ∃ r, allows entry.1 entry.2 r
  legal : own before entry.1 = [] → ∀ r, allows entry.1 entry.2 r →
    spec entry.1 (replay first effect before) r (effect entry.2 (replay first effect before))
  later : own before entry.1 ≠ [] →
    effect entry.2 (replay first effect before) = replay first effect before
  fits : ∀ r, answered entry.2 = some r → allows entry.1 ((own before entry.1).headD entry.2) r
  once : answered entry.2 ≠ none → ∀ e ∈ own before entry.1, answered e = none

variable {spec first answered effect allows} {log : List (ι × ε)}
  (h : Throughout (AtOnce spec first answered effect allows) log)

include h

theorem eq_of_answered {t : ι} {e e' : ε} (he : (t, e) ∈ log) (he' : (t, e') ∈ log)
    (ha : answered e ≠ none) (ha' : answered e' ≠ none) : e = e' := by
  have heq := h.eq_of_mem
    (S := fun a b => a.1 = b.1 ∧ answered a.2 ≠ none ∧ answered b.2 ≠ none)
    (fun a b hab => ⟨hab.1.symm, hab.2.2, hab.2.1⟩) (fun before b hb a hmem hab => ?_) he he'
    ⟨rfl, ha, ha'⟩
  · exact (Prod.mk.inj heq).2
  · exact hab.2.1 (hb.once hab.2.2 a.2 (mem_own.mpr (hab.1 ▸ hmem)))

/-- The first entry of a party allows what it answers at last. -/
theorem exists_answer {before after : List (ι × ε)} {t : ι} {e : ε}
    (hlog : log = before ++ (t, e) :: after) (hfirst : own before t = []) :
    ∃ r, allows t e r ∧ ∀ e' r', (t, e') ∈ log → answered e' = some r' → r' = r := by
  by_cases hanswered : ∃ e' r', (t, e') ∈ log ∧ answered e' = some r'
  · obtain ⟨e', r', hmem, hr'⟩ := hanswered
    refine ⟨r', ?_, fun e'' r'' hmem'' hr'' => ?_⟩
    · obtain ⟨before', after', hlog'⟩ := List.append_of_mem hmem
      have hfits := (h before' _ after' hlog').fits r' hr'
      have hown : own log t = e :: own after t := by
        rw [hlog, own_append, hfirst]
        simp [own]
      have hown' : own log t = own before' t ++ e' :: own after' t := by
        rw [hlog', own_append]
        simp [own]
      have hhead : (own before' t).headD e' = e := by
        rw [hown'] at hown
        cases hbefore : own before' t with
        | nil =>
          rw [hbefore] at hown
          exact (List.cons.inj hown).1
        | cons _ _ =>
          rw [hbefore] at hown
          exact (List.cons.inj hown).1
      rwa [hhead] at hfits
    · obtain rfl := eq_of_answered h hmem hmem'' (by simp [hr']) (by simp [hr''])
      exact Option.some.inj (hr''.symm.trans hr')
  · obtain ⟨r, hr⟩ := (h before _ after hlog).answer hfirst
    exact ⟨r, hr, fun e' r' hmem hr' => absurd ⟨e', r', hmem, hr'⟩ hanswered⟩

/-- The beginning of a journal is done in turns, which have the answers that are given at last. -/
theorem exists_legal {before after : List (ι × ε)} (hlog : log = before ++ after) :
    ∃ history : List (ι × ρ), history.map Prod.fst = turns before ∧
      Legal spec first history (replay first effect before) ∧
      ∀ t r, (t, r) ∈ history → ∀ e r', (t, e) ∈ log → answered e = some r' → r' = r := by
  induction before using List.reverseRecOn generalizing after with
  | nil => exact ⟨[], rfl, .nil, fun t r hmem => absurd hmem List.not_mem_nil⟩
  | append_singleton before entry ih =>
    obtain ⟨t, e⟩ := entry
    rw [List.append_assoc, List.singleton_append] at hlog
    obtain ⟨history, hturns, hlegal, hanswers⟩ := ih hlog
    have hentry := h before _ after hlog
    rw [replay_concat, turns_concat]
    split
    · next hfirst =>
      obtain ⟨r, hr, hlast⟩ := exists_answer h hlog hfirst
      refine ⟨history ++ [(t, r)], ?_, hlegal.concat (hentry.legal hfirst r hr), ?_⟩
      · rw [List.map_append, hturns]
        rfl
      · intro u r' hmem
        rcases List.mem_append.mp hmem with hmem | hmem
        · exact hanswers u r' hmem
        · obtain ⟨rfl, rfl⟩ := Prod.mk.inj (List.mem_singleton.mp hmem)
          exact hlast
    · next hlater => exact ⟨history, hturns, (hentry.later hlater).symm ▸ hlegal, hanswers⟩

/-- **Such a journal is linearized** by the turns of its parties. -/
theorem exists_linearizes :
    ∃ history, Linearizes spec first answered log (replay first effect log) history := by
  obtain ⟨history, hturns, hlegal, hanswers⟩ := exists_legal h (List.append_nil log).symm
  refine ⟨history, hlegal, hturns ▸ nodup_turns, fun t ht => ?_, fun t e r hmem hr => ?_, ?_, ?_⟩
  · rw [hturns] at ht
    exact mem_turns.mp ht
  · have ht : t ∈ history.map Prod.fst :=
      hturns ▸ mem_turns.mpr (List.ne_nil_of_mem (mem_own.mpr hmem))
    obtain ⟨⟨t', r'⟩, hmem', rfl⟩ := List.mem_map.mp ht
    rwa [hanswers _ r' hmem' e r hmem hr]
  · intro t e e' r r' hmem hmem' hr hr'
    exact eq_of_answered h hmem hmem' (by simp [hr]) (by simp [hr'])
  · rw [← List.pairwise_map (f := Prod.fst) (R := fun t u => ¬Precedes answered log u t), hturns]
    exact pairwise_turns answered

end Journals

end Linearization
