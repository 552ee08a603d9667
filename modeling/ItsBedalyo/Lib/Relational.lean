import Mathlib.Data.List.Nodup
import Mathlib.Data.List.Sort
import Mathlib.Data.List.Flatten

/-!
# Queries over lists of rows

A table is the list of its rows. `join` is the inner join, which repeats a row of the left table for
each row of the right one that fits it, and `orderByDesc` sorts, rows of equal rank in the order in
which they come. What `LIMIT` leaves of rows in no order is up to the database (`LimitOne`).
-/

namespace Relational

variable {α β κ : Type*}

/-- `left JOIN right ON …` -/
def join (on : α → β → Bool) (left : List α) (right : List β) : List (α × β) :=
  left.flatMap fun a => (right.filter (on a)).map fun b => (a, b)

section Join

variable {on : α → β → Bool} {left : List α} {right : List β}

theorem mem_join {a : α} {b : β} :
    (a, b) ∈ join on left right ↔ a ∈ left ∧ b ∈ right ∧ on a b = true := by
  simp only [join, List.mem_flatMap, List.mem_map, List.mem_filter, Prod.mk.injEq]
  constructor
  · rintro ⟨a', ha, b', ⟨hb, hon⟩, rfl, rfl⟩
    exact ⟨ha, hb, hon⟩
  · rintro ⟨ha, hb, hon⟩
    exact ⟨a, ha, b, ⟨hb, hon⟩, rfl, rfl⟩

/-- The left rows of a join, each as often as it fits. -/
theorem map_fst_join : (join on left right).map Prod.fst =
    left.flatMap fun a => List.replicate (right.countP (on a)) a := by
  rw [join, List.map_flatMap]
  congr 1
  funext a
  rw [List.map_map, List.countP_eq_length_filter, ← List.map_const']
  rfl

theorem mem_map_fst_join {a : α} :
    a ∈ (join on left right).map Prod.fst ↔ a ∈ left ∧ ∃ b ∈ right, on a b = true := by
  rw [List.mem_map]
  constructor
  · rintro ⟨⟨a', b⟩, hmem, rfl⟩
    obtain ⟨ha, hb, hon⟩ := mem_join.mp hmem
    exact ⟨ha, b, hb, hon⟩
  · rintro ⟨ha, b, hb, hon⟩
    exact ⟨(a, b), mem_join.mpr ⟨ha, hb, hon⟩, rfl⟩

/-- A left row is repeated exactly if it fits twice. -/
theorem nodup_map_fst_join (h : left.Nodup) :
    ((join on left right).map Prod.fst).Nodup ↔ ∀ a ∈ left, right.countP (on a) ≤ 1 := by
  rw [map_fst_join, List.nodup_flatMap]
  constructor
  · intro hnodup a ha
    exact List.nodup_replicate.mp (hnodup.1 a ha)
  · intro hone
    refine ⟨fun a ha => List.nodup_replicate.mpr (hone a ha), h.imp fun hne => ?_⟩
    refine List.disjoint_left.mpr fun c hc hc' => ?_
    exact hne ((List.eq_of_mem_replicate hc).symm.trans (List.eq_of_mem_replicate hc'))

/-- Rows with a unique key fit at most once. -/
theorem countP_key_le_one [DecidableEq κ] {f : β → κ} (h : (right.map f).Nodup) (k : κ) :
    right.countP (fun b => k = f b) ≤ 1 := by
  have hcount := List.nodup_iff_count_le_one.mp h k
  rw [List.count, List.countP_map] at hcount
  refine le_of_eq_of_le (List.countP_congr fun b _ => ?_) hcount
  rw [decide_eq_true_eq, Function.comp_apply, beq_iff_eq]
  exact eq_comm

end Join

/-- `left LEFT JOIN right ON …`; a row that nothing fits gets `absent`. -/
def leftJoin (on : α → β → Bool) (absent : β) (left : List α) (right : List β) : List (α × β) :=
  left.flatMap fun a =>
    (if right.any (on a) then right.filter (on a) else [absent]).map fun b => (a, b)

theorem mem_of_mem_leftJoin {on : α → β → Bool} {absent : β} {left : List α} {right : List β}
    {p : α × β} (h : p ∈ leftJoin on absent left right) :
    p.1 ∈ left ∧
      (p.2 ∈ right ∧ on p.1 p.2 = true ∨ p.2 = absent ∧ ∀ b ∈ right, on p.1 b = false) := by
  obtain ⟨a, ha, hp⟩ := List.mem_flatMap.mp h
  obtain ⟨b, hb, rfl⟩ := List.mem_map.mp hp
  refine ⟨ha, ?_⟩
  split at hb
  · exact .inl (List.mem_filter.mp hb)
  · next hnone =>
    refine .inr ⟨List.mem_singleton.mp hb, fun b hb => ?_⟩
    exact Bool.eq_false_iff.mpr fun hon => hnone (List.any_eq_true.mpr ⟨b, hb, hon⟩)

/-- `ORDER BY rank DESC` -/
def orderByDesc [LinearOrder κ] (rank : α → κ) (rows : List α) : List α :=
  rows.mergeSort fun a b => rank b ≤ rank a

section Order

variable [LinearOrder κ] {rank : α → κ} {rows : List α}

theorem orderByDesc_perm : (orderByDesc rank rows).Perm rows := List.mergeSort_perm ..

@[simp] theorem mem_orderByDesc {a : α} : a ∈ orderByDesc rank rows ↔ a ∈ rows :=
  List.mem_mergeSort

@[simp] theorem nodup_orderByDesc : (orderByDesc rank rows).Nodup ↔ rows.Nodup :=
  orderByDesc_perm.nodup_iff

theorem pairwise_orderByDesc : (orderByDesc rank rows).Pairwise fun a b => rank b ≤ rank a := by
  have hpairwise : (orderByDesc rank rows).Pairwise fun a b => decide (rank b ≤ rank a) = true := by
    refine List.pairwise_mergeSort (fun a b c hab hbc => ?_) (fun a b => ?_) rows
    · exact decide_eq_true ((of_decide_eq_true hbc).trans (of_decide_eq_true hab))
    · simpa using le_total (rank b) (rank a)
  exact hpairwise.imp fun h => of_decide_eq_true h

end Order

/-! ### `LIMIT` -/

/-- What `LIMIT 1` leaves. -/
structure LimitOne (α : Type*) where
  choose : List α → Option α
  choose_mem : ∀ {rows a}, choose rows = some a → a ∈ rows
  choose_cons : ∀ a rows, ∃ b, choose (a :: rows) = some b

/-- The first row. -/
def LimitOne.first : LimitOne α where
  choose rows := rows.head?
  choose_mem h := List.mem_of_mem_head? h
  choose_cons a _ := ⟨a, rfl⟩

/-- Wanted rows, each once, and all of them unless `limit` is reached. -/
structure Exactly (wanted : α → Prop) (limit : Option ℕ) (found : List α) : Prop where
  nodup : found.Nodup
  sound : ∀ a ∈ found, wanted a
  complete : ∀ a, wanted a → a ∈ found ∨ limit = some found.length

section Exactly

variable {wanted : α → Prop} {found : List α}

theorem exactly_all (hnodup : found.Nodup) (hmem : ∀ a, a ∈ found ↔ wanted a) :
    Exactly wanted none found :=
  ⟨hnodup, fun a => (hmem a).mp, fun a ha => .inl ((hmem a).mpr ha)⟩

theorem exactly_take (hnodup : found.Nodup) (hmem : ∀ a, a ∈ found ↔ wanted a) (limit : ℕ) :
    Exactly wanted (some limit) (found.take limit) := by
  refine ⟨hnodup.sublist (List.take_sublist limit found), fun a ha => ?_, fun a ha => ?_⟩
  · exact (hmem a).mp (List.mem_of_mem_take ha)
  · rcases le_total found.length limit with hle | hle
    · rw [List.take_of_length_le hle]
      exact .inl ((hmem a).mpr ha)
    · rw [List.length_take_of_le hle]
      exact .inr rfl

end Exactly

end Relational
