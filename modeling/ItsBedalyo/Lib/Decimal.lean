import Mathlib.Data.Int.Notation
import Mathlib.Data.Nat.Notation
import Mathlib.Data.String.Basic

/-!
# Decimals of a fixed width

`padded w n` is `n` in decimals, filled up with zeros to `w` digits as `%0wd` prints it. A number
that fits is printed with exactly `w` digits, and the digits tell the number.
-/

namespace Decimal

/-- The decimals of `n`, with zeros in front up to `w` digits. -/
def padded (w n : ℕ) : List Char :=
  List.replicate (w - (Nat.toDigits 10 n).length) '0' ++ Nat.toDigits 10 n

theorem length_padded {w n : ℕ} (hw : 0 < w) (hn : n < 10 ^ w) : (padded w n).length = w := by
  have hle := (Nat.length_toDigits_le_iff (by decide) hw).mpr hn
  rw [padded, List.length_append, List.length_replicate]
  omega

/-- The number can be read back. -/
theorem ofDigitChars_padded (w n : ℕ) : Nat.ofDigitChars 10 (padded w n) 0 = n := by
  rw [padded, Nat.ofDigitChars_append, Nat.ofDigitChars_replicate_zero, Nat.mul_zero,
    Nat.ofDigitChars_ten_toDigits]

theorem padded_inj {w w' n n' : ℕ} (h : padded w n = padded w' n') : n = n' := by
  rw [← ofDigitChars_padded w n, h, ofDigitChars_padded]

theorem isDigit_of_mem_padded {w n : ℕ} {c : Char} (h : c ∈ padded w n) : c.isDigit = true := by
  rcases List.mem_append.mp h with h | h
  · rw [List.eq_of_mem_replicate h]
    rfl
  · exact Nat.isDigit_of_mem_toDigits (by decide) (by decide) h

/-- Numbers of the same widths, one after the other. -/
theorem padded_append_inj {w n n' : ℕ} {s s' : List Char} (hw : 0 < w) (hn : n < 10 ^ w)
    (hn' : n' < 10 ^ w) (h : padded w n ++ s = padded w n' ++ s') : n = n' ∧ s = s' := by
  have hlength : (padded w n).length = (padded w n').length := by
    rw [length_padded hw hn, length_padded hw hn']
  obtain ⟨hdigits, hrest⟩ := List.append_inj h hlength
  exact ⟨padded_inj hdigits, hrest⟩

/-- A number is printed with digits and perhaps a sign. -/
theorem isDigit_of_mem_toString {n : ℤ} {c : Char} (h : c ∈ (toString n).toList) (hc : c ≠ '-') :
    c.isDigit = true := by
  cases n with
  | ofNat m =>
    have hlist : (toString (Int.ofNat m)).toList = Nat.toDigits 10 m := Nat.toList_repr
    rw [hlist] at h
    exact Nat.isDigit_of_mem_toDigits (by decide) (by decide) h
  | negSucc m =>
    have htext : toString (Int.negSucc m) = "-" ++ (m + 1).repr := rfl
    rw [htext, String.toList_append, Nat.toList_repr] at h
    rcases List.mem_append.mp h with h | h
    · exact absurd (List.mem_singleton.mp h) hc
    · exact Nat.isDigit_of_mem_toDigits (by decide) (by decide) h

theorem toDigits_inj {m n : ℕ} (h : Nat.toDigits 10 m = Nat.toDigits 10 n) : m = n := by
  rw [← Nat.ofDigitChars_ten_toDigits (n := m), h, Nat.ofDigitChars_ten_toDigits]

/-- The digits and the sign tell the number. -/
theorem toString_inj {a b : ℤ} : toString a = toString b ↔ a = b := by
  have hnat (m : ℕ) : (toString (Int.ofNat m)).toList = Nat.toDigits 10 m := Nat.toList_repr
  have hneg (m : ℕ) : (toString (Int.negSucc m)).toList = '-' :: Nat.toDigits 10 (m + 1) := by
    rw [show toString (Int.negSucc m) = "-" ++ (m + 1).repr from rfl, String.toList_append,
      Nat.toList_repr]
    rfl
  have hsign (m n : ℕ) : Nat.toDigits 10 m ≠ '-' :: Nat.toDigits 10 (n + 1) := by
    intro heq
    have hdigit := Nat.isDigit_of_mem_toDigits (b := 10) (by decide) (by decide)
      (heq ▸ List.mem_cons_self)
    exact absurd hdigit (by decide)
  refine ⟨fun h => ?_, fun h => h ▸ rfl⟩
  rw [← String.toList_inj] at h
  cases a with
  | ofNat m =>
    cases b with
    | ofNat n =>
      rw [hnat, hnat] at h
      rw [toDigits_inj h]
    | negSucc n =>
      rw [hnat, hneg] at h
      exact absurd h (hsign m n)
  | negSucc m =>
    cases b with
    | ofNat n =>
      rw [hnat, hneg] at h
      exact absurd h.symm (hsign n m)
    | negSucc n =>
      rw [hneg, hneg] at h
      rw [Nat.succ.inj (toDigits_inj (List.cons.inj h).2)]

end Decimal
