import Mathlib.Algebra.BigOperators.Group.List.Basic
import Mathlib.Algebra.Ring.Int.Defs

/-!
# Sums in wrapping arithmetic

A loop that adds up machine integers wraps each addend and each sum. What it ends with is the sum
of the integers, wrapped once.
-/

namespace Wrapping

/-- The integers added one after another, modulo `m`. -/
def sum (m : ℕ) (xs : List ℤ) : ℤ :=
  xs.foldl (fun total x => Int.bmod (total + Int.bmod x m) m) 0

theorem sum_eq (m : ℕ) (xs : List ℤ) : sum m xs = Int.bmod xs.sum m := by
  have hfold (total : ℤ) : xs.foldl (fun total x => Int.bmod (total + Int.bmod x m) m)
      (Int.bmod total m) = Int.bmod (total + xs.sum) m := by
    induction xs generalizing total with
    | nil => simp
    | cons x xs ih =>
      rw [List.foldl_cons, Int.add_bmod_bmod, Int.bmod_add_bmod, ih, Int.add_assoc, List.sum_cons]
  have hall := hfold 0
  rwa [Int.zero_bmod, Int.zero_add] at hall

/-- What an addend changes nothing in is a multiple of the modulus. -/
theorem bmod_add_eq_iff {m : ℕ} (a b : ℤ) : Int.bmod (a + b) m = Int.bmod a m ↔ (m : ℤ) ∣ b := by
  rw [Int.bmod_eq_bmod_iff_bmod_sub_eq_zero, add_sub_cancel_left]
  exact ⟨fun h => Int.dvd_of_bmod_eq_zero h, fun h => Int.bmod_eq_zero_of_dvd h⟩

end Wrapping
