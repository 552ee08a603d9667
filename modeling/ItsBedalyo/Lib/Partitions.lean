import ItsBedalyo.Lib.Relational
import Mathlib.Data.List.Dedup

/-!
# One row of each part, and the best rows

`ROW_NUMBER() OVER (PARTITION BY … ORDER BY … DESC) = 1` leaves one row of each part, a best one;
which, if several are best, is up to the database. `DISTINCT` leaves one of the values that the
collation takes for equal: there all rows are as good. `ORDER BY … DESC LIMIT …` leaves the best rows
in order, rows of equal rank in any order (`Ranking`).
-/

namespace Relational

variable {α ι κ : Type*}

/-- What the database leaves of rows in parts, some better than others. -/
structure FirstOfEach [LE κ] (part : α → ι) (rank : α → κ) where
  choose : List α → List α
  choose_mem : ∀ {rows a}, a ∈ choose rows → a ∈ rows
  choose_best : ∀ {rows a b}, a ∈ choose rows → b ∈ rows → part b = part a → rank b ≤ rank a
  choose_nodup : ∀ rows, ((choose rows).map part).Nodup
  choose_complete : ∀ {rows b}, b ∈ rows → ∃ a ∈ choose rows, part a = part b

namespace FirstOfEach

variable {part : α → ι} {rank : α → κ}

section Choice

variable [LE κ] (first : FirstOfEach part rank) {rows : List α}

/-- Two chosen rows of one part are the same. -/
theorem unique {a b : α} (ha : a ∈ first.choose rows) (hb : b ∈ first.choose rows)
    (hpart : part a = part b) : a = b :=
  List.inj_on_of_nodup_map (first.choose_nodup rows) ha hb hpart

theorem nodup : (first.choose rows).Nodup := (first.choose_nodup rows).of_map part

end Choice

variable [DecidableEq ι]

/-- The rows that come before all others of their part. -/
def leading (part : α → ι) : List α → List α
  | [] => []
  | a :: rows => a :: (leading part rows).filter fun b => part b ≠ part a

theorem mem_of_mem_leading {rows : List α} {a : α} (h : a ∈ leading part rows) : a ∈ rows := by
  induction rows with
  | nil => cases h
  | cons b rows ih =>
    rcases List.mem_cons.mp h with rfl | h
    · exact List.mem_cons_self
    · exact List.mem_cons_of_mem b (ih (List.mem_of_mem_filter h))

theorem nodup_leading (rows : List α) : ((leading part rows).map part).Nodup := by
  induction rows with
  | nil => exact List.nodup_nil
  | cons a rows ih =>
    rw [leading, List.map_cons, List.nodup_cons]
    refine ⟨fun hmem => ?_, ih.sublist (List.filter_sublist.map part)⟩
    obtain ⟨b, hb, hpart⟩ := List.mem_map.mp hmem
    exact absurd hpart (of_decide_eq_true (List.mem_filter.mp hb).2)

theorem exists_mem_leading {rows : List α} {b : α} (h : b ∈ rows) :
    ∃ a ∈ leading part rows, part a = part b := by
  induction rows with
  | nil => cases h
  | cons c rows ih =>
    rw [leading]
    by_cases hpart : part b = part c
    · exact ⟨c, List.mem_cons_self, hpart.symm⟩
    · have hmem : b ∈ rows := (List.mem_cons.mp h).resolve_left fun heq => hpart (heq ▸ rfl)
      obtain ⟨a, ha, hab⟩ := ih hmem
      refine ⟨a, List.mem_cons_of_mem c (List.mem_filter.mpr ⟨ha, ?_⟩), hab⟩
      exact decide_eq_true (hab ▸ hpart)

/-- In a sorted list the leading rows are the best. -/
theorem leading_best [LinearOrder κ] {rows : List α}
    (hsorted : rows.Pairwise fun a b => rank b ≤ rank a) {a b : α} (ha : a ∈ leading part rows)
    (hb : b ∈ rows) (hpart : part b = part a) : rank b ≤ rank a := by
  induction rows with
  | nil => cases hb
  | cons c rows ih =>
    obtain ⟨hfirst, hrest⟩ := List.pairwise_cons.mp hsorted
    rcases List.mem_cons.mp ha with rfl | ha
    · rcases List.mem_cons.mp hb with rfl | hb
      · exact le_rfl
      · exact hfirst b hb
    · obtain ⟨ha, hne⟩ := List.mem_filter.mp ha
      rcases List.mem_cons.mp hb with rfl | hb
      · exact absurd hpart.symm (of_decide_eq_true hne)
      · exact ih hrest ha hb

/-- A database that goes through the rows in the order of the query. -/
def sorted [LinearOrder κ] (part : α → ι) (rank : α → κ) : FirstOfEach part rank where
  choose rows := leading part (orderByDesc rank rows)
  choose_mem h := mem_orderByDesc.mp (mem_of_mem_leading h)
  choose_best ha hb hpart := leading_best pairwise_orderByDesc ha (mem_orderByDesc.mpr hb) hpart
  choose_nodup rows := nodup_leading (orderByDesc rank rows)
  choose_complete h := exists_mem_leading (mem_orderByDesc.mpr h)

end FirstOfEach

/-! ### `ORDER BY … DESC LIMIT …` -/

section Ranking

variable [LinearOrder κ] {rank : α → κ} {limit : ℕ} {rows order found : List α}

/-- The rows from the best to the worst. -/
structure Ordered (rank : α → κ) (rows order : List α) : Prop where
  perm : order.Perm rows
  sorted : order.Pairwise fun a b => rank b ≤ rank a

instance [DecidableEq α] : Decidable (Ordered rank rows order) :=
  decidable_of_iff (order.Perm rows ∧ order.Pairwise fun a b => rank b ≤ rank a)
    ⟨fun h => ⟨h.1, h.2⟩, fun h => ⟨h.1, h.2⟩⟩

/-- The first rows in such an order. -/
def Ranking (rank : α → κ) (limit : ℕ) (rows found : List α) : Prop :=
  ∃ order, Ordered rank rows order ∧ found = order.take limit

/-- Wanted rows in order, as many as there may be, and none that is left out is better. -/
structure Best (wanted : α → Prop) (rank : α → κ) (limit : ℕ) (found : List α) : Prop
    extends Exactly wanted (some limit) found where
  sorted : found.Pairwise fun a b => rank b ≤ rank a
  best : ∀ a ∈ found, ∀ b, wanted b → b ∉ found → rank b ≤ rank a

/-- **The best of distinct rows.** -/
theorem Ranking.best (h : Ranking rank limit rows found) (hnodup : rows.Nodup)
    {wanted : α → Prop} (hwanted : ∀ a, a ∈ rows ↔ wanted a) :
    Best wanted rank limit found := by
  obtain ⟨order, ⟨hperm, hsorted⟩, rfl⟩ := h
  have hmem (a : α) : a ∈ order ↔ wanted a := hperm.mem_iff.trans (hwanted a)
  refine ⟨exactly_take (hperm.nodup_iff.mpr hnodup) hmem limit, hsorted.take, ?_⟩
  intro a ha b hb hnot
  -- what is left out comes after what is taken
  have hsplit := hsorted
  rw [← List.take_append_drop limit order, List.pairwise_append] at hsplit
  refine hsplit.2.2 a ha b ?_
  have hb' : b ∈ order.take limit ++ order.drop limit := by
    rw [List.take_append_drop]
    exact (hmem b).mpr hb
  exact (List.mem_append.mp hb').resolve_left hnot

end Ranking

end Relational
