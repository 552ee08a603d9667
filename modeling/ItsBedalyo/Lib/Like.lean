import Mathlib.Data.List.Infix

/-!
# `LIKE`

The patterns of `LIKE`: `%` stands for any text, `_` for any one character, and a character after a
backslash for itself. Code that looks for a text puts it between two `%`s. `containing_iff` says for
which texts that finds the texts that contain it: for those in which no character means anything
else than itself.
-/

namespace Like

/-- What a pattern consists of. -/
inductive Piece
  | run
  | one
  | char (c : Char)
  deriving DecidableEq

/-- A character of a pattern that is not escaped. -/
def ordinary (c : Char) : Piece :=
  if c = '%' then .run else if c = '_' then .one else .char c

/-- The pieces of a pattern; a backslash at the end is one itself. -/
def pieces : List Char → List Piece
  | [] => []
  | [c] => [ordinary c]
  | c :: d :: cs => if c = '\\' then .char d :: pieces cs else ordinary c :: pieces (d :: cs)

/-- The characters fit the pieces. -/
def fits : List Piece → List Char → Bool
  | [], s => s.isEmpty
  | .run :: ps, s => s.tails.any fun t => fits ps t
  | .one :: ps, s =>
    match s with
    | [] => false
    | _ :: s => fits ps s
  | .char c :: ps, s =>
    match s with
    | [] => false
    | d :: s => decide (c = d) && fits ps s

/-- `s LIKE pattern` -/
def like (pattern s : String) : Bool := fits (pieces pattern.toList) s.toList

/-- The pattern that is to find what contains the text. -/
def containing (keyword : String) : String := "%" ++ keyword ++ "%"

/-- The text contains the keyword, character by character. -/
abbrev Contains (keyword s : String) : Prop := keyword.toList <:+: s.toList

/-- Every character means itself. -/
def PlainChars (cs : List Char) : Prop := ∀ c ∈ cs, c ≠ '%' ∧ c ≠ '_' ∧ c ≠ '\\'

/-- No `%`, no `_` and no backslash. -/
def Plain (keyword : String) : Prop := PlainChars keyword.toList

instance (cs : List Char) : Decidable (PlainChars cs) := List.decidableBAll _ cs

instance (keyword : String) : Decidable (Plain keyword) :=
  inferInstanceAs (Decidable (PlainChars _))

/-! ### The pieces -/

section Pieces

variable {c : Char} {cs s : List Char} {ps : List Piece}

theorem pieces_cons (hc : c ≠ '\\') : pieces (c :: cs) = ordinary c :: pieces cs := by
  cases cs with
  | nil => rfl
  | cons d cs => rw [pieces, if_neg hc]

theorem ordinary_of_plain (hpercent : c ≠ '%') (hunderscore : c ≠ '_') : ordinary c = .char c := by
  rw [ordinary, if_neg hpercent, if_neg hunderscore]

theorem fits_run : fits (.run :: ps) s = true ↔ ∃ t, t <:+ s ∧ fits ps t = true := by
  rw [fits, List.any_eq_true]
  simp only [List.mem_tails]

theorem fits_char : fits (.char c :: ps) s = true ↔ ∃ t, s = c :: t ∧ fits ps t = true := by
  cases s with
  | nil => simp [fits]
  | cons d s =>
    rw [fits, Bool.and_eq_true, decide_eq_true_eq]
    constructor
    · rintro ⟨rfl, hfits⟩
      exact ⟨s, rfl, hfits⟩
    · rintro ⟨t, heq, hfits⟩
      obtain ⟨rfl, rfl⟩ := List.cons.inj heq
      exact ⟨rfl, hfits⟩

/-- A `%` at the end takes what is left. -/
theorem fits_last : fits [.run] s = true :=
  fits_run.mpr ⟨[], List.nil_suffix, rfl⟩

/-- Plain characters before the rest of a pattern. -/
theorem fits_plain_append {keyword : List Char} (h : PlainChars keyword) :
    fits (pieces (keyword ++ cs)) s = true ↔ ∃ t, s = keyword ++ t ∧ fits (pieces cs) t = true := by
  induction keyword generalizing s with
  | nil =>
    constructor
    · intro hfits
      exact ⟨s, rfl, hfits⟩
    · rintro ⟨t, rfl, hfits⟩
      exact hfits
  | cons c keyword ih =>
    obtain ⟨hpercent, hunderscore, hbackslash⟩ := h c List.mem_cons_self
    have hrest : PlainChars keyword := fun d hd => h d (List.mem_cons_of_mem c hd)
    rw [List.cons_append, pieces_cons hbackslash, ordinary_of_plain hpercent hunderscore, fits_char]
    constructor
    · rintro ⟨t, rfl, hfits⟩
      obtain ⟨t', rfl, hfits'⟩ := (ih hrest).mp hfits
      exact ⟨t', rfl, hfits'⟩
    · rintro ⟨t, rfl, hfits⟩
      exact ⟨keyword ++ t, rfl, (ih hrest).mpr ⟨t, rfl, hfits⟩⟩

theorem fits_containing {keyword : List Char} :
    fits (pieces ('%' :: (keyword ++ ['%']))) s = true ↔
      ∃ t, t <:+ s ∧ fits (pieces (keyword ++ ['%'])) t = true := by
  have hpercent : ordinary '%' = .run := rfl
  rw [pieces_cons (by decide), hpercent, fits_run]

end Pieces

theorem toList_containing (keyword : String) :
    (containing keyword).toList = '%' :: (keyword.toList ++ ['%']) := by
  rw [containing, String.toList_append, String.toList_append]
  rfl

/-- A plain keyword is looked for as it is. -/
theorem like_containing {keyword : String} (h : Plain keyword) (s : String) :
    like (containing keyword) s = true ↔ Contains keyword s := by
  rw [like, toList_containing, fits_containing]
  constructor
  · rintro ⟨t, ⟨before, hbefore⟩, hfits⟩
    obtain ⟨after, rfl, -⟩ := (fits_plain_append h).mp hfits
    exact ⟨before, after, (List.append_assoc ..).trans hbefore⟩
  · rintro ⟨before, after, hs⟩
    refine ⟨keyword.toList ++ after, ⟨before, (List.append_assoc ..).symm.trans hs⟩, ?_⟩
    exact (fits_plain_append h).mpr ⟨after, rfl, fits_last⟩

/-! ### A keyword that is not plain -/

/-- A short text for a character. -/
def sample (c : Char) : List Char :=
  if c = '%' then [] else if c = '_' then ['a'] else [c]

/-- A short text that the pattern for a keyword fits. A backslash at the end of the keyword escapes
the `%` after it. -/
def literal : List Char → List Char
  | [] => []
  | [c] => if c = '\\' then ['%'] else sample c
  | c :: d :: cs => if c = '\\' then d :: literal cs else sample c ++ literal (d :: cs)

section Literal

variable {c : Char} {s : List Char} {ps : List Piece}

theorem fits_sample (h : fits ps s = true) : fits (ordinary c :: ps) (sample c ++ s) = true := by
  rw [ordinary, sample]
  split
  · exact fits_run.mpr ⟨s, List.suffix_refl s, h⟩
  · split
    · exact h
    · exact fits_char.mpr ⟨s, rfl, h⟩

theorem fits_literal (keyword : List Char) :
    fits (pieces (keyword ++ ['%'])) (literal keyword) = true := by
  induction keyword using literal.induct with
  | case1 => exact fits_last
  | case2 => rfl
  | case3 c hc =>
    have hfits : fits (ordinary c :: pieces ['%']) (sample c ++ []) = true := fits_sample fits_last
    rw [literal, if_neg hc, List.singleton_append, pieces_cons hc]
    rwa [List.append_nil] at hfits
  | case4 d cs ih =>
    rw [literal, if_pos rfl]
    exact fits_char.mpr ⟨literal cs, rfl, ih⟩
  | case5 c d cs hc ih =>
    rw [literal, if_neg hc, List.cons_append, pieces_cons hc]
    exact fits_sample ih

theorem length_sample_le : (sample c).length ≤ 1 := by
  rw [sample]
  split
  · exact Nat.zero_le 1
  · split
    · exact le_refl 1
    · exact le_refl 1

theorem length_literal_le (keyword : List Char) : (literal keyword).length ≤ keyword.length := by
  induction keyword using literal.induct with
  | case1 => exact le_refl 0
  | case2 => exact le_refl 1
  | case3 c hc =>
    rw [literal, if_neg hc]
    exact length_sample_le
  | case4 d cs ih =>
    rw [literal, if_pos rfl, List.length_cons, List.length_cons, List.length_cons]
    omega
  | case5 c d cs hc ih =>
    have hsample : (sample c).length ≤ 1 := length_sample_le
    rw [literal, if_neg hc, List.length_append, List.length_cons]
    omega

/-- A character that stands for itself, before a text of the same length. -/
theorem sample_append_eq {cs : List Char} (hlength : s.length ≤ cs.length)
    (h : sample c ++ s = c :: cs) : (c ≠ '%' ∧ c ≠ '_') ∧ s = cs := by
  rw [sample] at h
  split at h
  · rw [List.nil_append] at h
    rw [h, List.length_cons] at hlength
    omega
  · next hpercent =>
    split at h
    · next hunderscore =>
      rw [hunderscore, List.singleton_append] at h
      exact absurd (List.cons.inj h).1 (by decide)
    · next hunderscore => exact ⟨⟨hpercent, hunderscore⟩, (List.cons.inj h).2⟩

theorem plain_of_literal_eq {keyword : List Char} (h : literal keyword = keyword) :
    PlainChars keyword := by
  induction keyword using literal.induct with
  | case1 => exact fun c hc => absurd hc List.not_mem_nil
  | case2 =>
    rw [literal, if_pos rfl] at h
    exact absurd (List.cons.inj h).1 (by decide)
  | case3 c hc =>
    rw [literal, if_neg hc, ← List.append_nil (sample c)] at h
    obtain ⟨⟨hpercent, hunderscore⟩, -⟩ := sample_append_eq (le_refl 0) h
    intro d hd
    rw [List.mem_singleton.mp hd]
    exact ⟨hpercent, hunderscore, hc⟩
  | case4 d cs ih =>
    have hlength := length_literal_le cs
    rw [literal, if_pos rfl] at h
    rw [(List.cons.inj h).2, List.length_cons] at hlength
    omega
  | case5 c d cs hc ih =>
    rw [literal, if_neg hc] at h
    obtain ⟨⟨hpercent, hunderscore⟩, hrest⟩ := sample_append_eq (length_literal_le _) h
    intro e he
    rcases List.mem_cons.mp he with rfl | he
    · exact ⟨hpercent, hunderscore, hc⟩
    · exact ih hrest e he

end Literal

/-- A keyword that is not plain finds a text that does not contain it. -/
theorem exists_like_not_contains {keyword : String} (h : ¬Plain keyword) :
    ∃ s, like (containing keyword) s = true ∧ ¬Contains keyword s := by
  refine ⟨String.ofList (literal keyword.toList), ?_, fun hcontains => h ?_⟩
  · rw [like, toList_containing, fits_containing, String.toList_ofList]
    exact ⟨_, List.suffix_refl _, fits_literal keyword.toList⟩
  · rw [Contains, String.toList_ofList] at hcontains
    have hlength : keyword.toList.length = (literal keyword.toList).length :=
      le_antisymm hcontains.length_le (length_literal_le _)
    exact plain_of_literal_eq (hcontains.eq_of_length hlength).symm

/-- **A search by `LIKE`** finds what contains the keyword exactly if no character of the keyword
means anything else than itself. -/
theorem containing_iff (keyword : String) :
    (∀ s, like (containing keyword) s = true ↔ Contains keyword s) ↔ Plain keyword := by
  constructor
  · intro hsearch
    by_contra hplain
    obtain ⟨s, hlike, hnot⟩ := exists_like_not_contains hplain
    exact hnot ((hsearch s).mp hlike)
  · intro hplain s
    exact like_containing hplain s

example : like "%50\\%%" "50% off" = true ∧ like "%50\\%%" "500 off" = false := by decide

end Like
