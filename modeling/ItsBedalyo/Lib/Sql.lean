import Mathlib.Data.List.Basic
import Mathlib.Data.Int.Notation

/-!
# Texts of prepared statements

A prepared statement is a text with a `?` for each value that is bound to it, from left to right.
`lex` reads a text as words and symbols, and `Update.parse` reads from these an `UPDATE` of some
columns of the rows that have a key. `Update.text` writes such a statement, and `Update.parse_text`
says that it is read as it was meant.
-/

namespace Sql

/-- What a text consists of. -/
inductive Token
  | word (w : String)
  | symbol (c : Char)
  deriving DecidableEq

/-- The characters of names and key words; a column may be qualified. -/
def isWordChar (c : Char) : Bool := c.isAlphanum || c = '_' || c = '.'

/-- A word that has been read to its first character, before the tokens after it. -/
def flush (read : List Char × List Token) : List Token :=
  if read.1 = [] then read.2 else .word (String.ofList read.1) :: read.2

/-- The word that has begun, and the tokens after it. -/
def scan : List Char → List Char × List Token
  | [] => ([], [])
  | c :: cs =>
    if isWordChar c then (c :: (scan cs).1, (scan cs).2)
    else ([], if c = ' ' then flush (scan cs) else .symbol c :: flush (scan cs))

/-- The tokens of some characters. -/
def lexChars (cs : List Char) : List Token := flush (scan cs)

/-- The tokens of a text. -/
def lex (text : String) : List Token := lexChars text.toList

/-- A name, or a key word. -/
def IsName (s : String) : Prop := s ≠ "" ∧ ∀ c ∈ s.toList, isWordChar c = true

instance (s : String) : Decidable (IsName s) :=
  @instDecidableAnd _ _ _ (List.decidableBAll _ s.toList)

/-! ### The tokens of a text, piece by piece -/

section Lexing

variable {c : Char} {cs : List Char}

@[simp] theorem lexChars_nil : lexChars [] = [] := rfl

theorem lexChars_blank : lexChars (' ' :: cs) = lexChars cs := by
  have hblank : isWordChar ' ' = false := by decide
  simp [lexChars, scan, hblank, flush]

theorem lexChars_symbol (hword : isWordChar c = false) (hblank : c ≠ ' ') :
    lexChars (c :: cs) = .symbol c :: lexChars cs := by
  simp [lexChars, scan, hword, hblank, flush]

theorem scan_append {w : List Char} (hw : ∀ c ∈ w, isWordChar c = true) :
    scan (w ++ cs) = (w ++ (scan cs).1, (scan cs).2) := by
  induction w with
  | nil => rfl
  | cons c w ih =>
    have hc : isWordChar c = true := hw c List.mem_cons_self
    rw [List.cons_append, scan, if_pos hc, ih fun d hd => hw d (List.mem_cons_of_mem c hd)]
    rfl

/-- A name ends where something else begins. -/
theorem lexChars_name {s : String} (hs : IsName s) (hc : isWordChar c = false) :
    lexChars (s.toList ++ c :: cs) = .word s :: lexChars (c :: cs) := by
  have hne : s.toList ≠ [] := fun h => hs.1 (String.toList_eq_nil_iff.mp h)
  simp [lexChars, scan_append hs.2, scan, hc, hne, flush]

end Lexing

/-! ### Placeholders -/

/-- The number of values that a statement takes. -/
def placeholders (text : String) : ℕ := text.toList.count '?'

theorem count_flush (read : List Char × List Token) :
    (flush read).count (.symbol '?') = read.2.count (.symbol '?') := by
  rw [flush]
  split
  · rfl
  · rw [List.count_cons_of_ne (by simp)]

/-- Each of them is a symbol of its own. -/
theorem count_lex (text : String) : (lex text).count (.symbol '?') = placeholders text := by
  have hmark : isWordChar '?' = false := by decide
  have hscan (cs : List Char) : (scan cs).2.count (.symbol '?') = cs.count '?' := by
    induction cs with
    | nil => rfl
    | cons c cs ih =>
      rw [scan]
      split
      · next hword =>
        have hc : c ≠ '?' := by
          rintro rfl
          rw [hmark] at hword
          cases hword
        rw [List.count_cons_of_ne hc, ih]
      · split
        · next hblank =>
          subst hblank
          rw [count_flush, ih, List.count_cons_of_ne (by decide)]
        · rw [List.count_cons, List.count_cons, count_flush, ih]
          simp
  rw [lex, lexChars, count_flush, hscan, placeholders]

/-- What the `?`s of a condition are compared with, and how. -/
def comparisons : List Token → List (String × String)
  | .word column :: .symbol '=' :: .symbol '?' :: ts => (column, "=") :: comparisons ts
  | .word column :: .word "LIKE" :: .symbol '?' :: ts => (column, "LIKE") :: comparisons ts
  | _ :: ts => comparisons ts
  | [] => []

/-- How many `?`s a text has, and what they are compared with. -/
def summary (text : String) : ℕ × List (String × String) :=
  (text.toList.count '?', comparisons (lexChars text.toList))

section Binding

variable {α : Type}

/-- The `?`s are given their values under the indexes from 1 on, each the value that is wanted for
its own condition. -/
structure Binds (wanted : String × String → Option α) (text : String) (bindings : List (ℕ × α)) :
    Prop where
  indexes : bindings.map Prod.fst = List.range' 1 (placeholders text)
  values : (comparisons (lex text)).map wanted = bindings.map fun b => some b.2

/-- A value for a `?` that is not there, or a `?` without a value. -/
def BindingError (text : String) (bindings : List (ℕ × α)) : Prop :=
  ∃ i, ¬(i ∈ bindings.map Prod.fst ↔ 1 ≤ i ∧ i ≤ placeholders text)

theorem Binds.of_summary {wanted : String × String → Option α} {text : String}
    {bindings : List (ℕ × α)} {conditions : List (String × String)}
    (h : summary text = (bindings.length, conditions))
    (hindexes : bindings.map Prod.fst = List.range' 1 bindings.length)
    (hvalues : conditions.map wanted = bindings.map fun b => some b.2) :
    Binds wanted text bindings := by
  obtain ⟨hcount, hconditions⟩ := Prod.mk.inj h
  refine ⟨hindexes.trans ?_, ?_⟩
  · rw [placeholders, hcount]
  · rw [lex, hconditions, hvalues]

theorem Binds.not_bindingError {wanted : String × String → Option α} {text : String}
    {bindings : List (ℕ × α)} (h : Binds wanted text bindings) : ¬BindingError text bindings := by
  rintro ⟨i, hi⟩
  rw [h.indexes, List.mem_range'_1] at hi
  omega

end Binding

/-! ### Updates -/

/-- `UPDATE table SET column=?, … WHERE keyColumn=?` -/
@[ext] structure Update where
  table : String
  columns : List String
  keyColumn : String
  deriving DecidableEq

namespace Update

def text (u : Update) : String :=
  "UPDATE " ++ u.table ++ " SET " ++ ", ".intercalate (u.columns.map (· ++ "=?")) ++ " WHERE " ++
    u.keyColumn ++ "=?"

/-- `column=?, …`, and what follows. -/
def assignments : List Token → Option (List String × List Token)
  | .word c :: .symbol '=' :: .symbol '?' :: .symbol ',' :: ts =>
    (assignments ts).map fun read => (c :: read.1, read.2)
  | .word c :: .symbol '=' :: .symbol '?' :: ts => some ([c], ts)
  | _ => none

/-- The update that a text says. -/
def parse (text : String) : Option Update :=
  match lex text with
  | .word "UPDATE" :: .word table :: .word "SET" :: ts =>
    match assignments ts with
    | some (columns, [.word "WHERE", .word keyColumn, .symbol '=', .symbol '?']) =>
      some { table, columns, keyColumn }
    | _ => none
  | _ => none

/-- Its names are names, and it sets something. -/
structure Formed (u : Update) : Prop where
  table : IsName u.table
  columns : ∀ c ∈ u.columns, IsName c
  keyColumn : IsName u.keyColumn
  sets : u.columns ≠ []

/-- The tokens of `column=?, …`. -/
def tokens : List String → List Token
  | [] => []
  | [c] => [.word c, .symbol '=', .symbol '?']
  | c :: cs => .word c :: .symbol '=' :: .symbol '?' :: .symbol ',' :: tokens cs

theorem assignments_tokens {columns : List String} (h : columns ≠ []) {ts : List Token}
    {w : String} :
    assignments (tokens columns ++ .word w :: ts) = some (columns, .word w :: ts) := by
  induction columns with
  | nil => exact absurd rfl h
  | cons c columns ih =>
    cases columns with
    | nil => rfl
    | cons d columns =>
      have hrest := ih (List.cons_ne_nil d columns)
      simp [tokens, assignments] at hrest ⊢
      simp [hrest]

/-- `column=?`, and what follows. -/
theorem lexChars_assignment {c : String} (hc : IsName c) (cs : List Char) :
    lexChars ((c ++ "=?").toList ++ cs) =
      .word c :: .symbol '=' :: .symbol '?' :: lexChars cs := by
  have htext : (c ++ "=?").toList ++ cs = c.toList ++ '=' :: '?' :: cs := by simp
  rw [htext, lexChars_name hc (by decide), lexChars_symbol (by decide) (by decide),
    lexChars_symbol (by decide) (by decide)]

theorem lexChars_assignments {columns : List String} (h : ∀ c ∈ columns, IsName c)
    (cs : List Char) :
    lexChars ((", ".intercalate (columns.map (· ++ "=?"))).toList ++ ' ' :: cs) =
      tokens columns ++ lexChars cs := by
  induction columns with
  | nil => exact lexChars_blank
  | cons c columns ih =>
    have hc := h c List.mem_cons_self
    cases columns with
    | nil =>
      rw [List.map_singleton, String.intercalate_singleton, lexChars_assignment hc, lexChars_blank]
      rfl
    | cons d columns =>
      have hrest := ih fun e he => h e (List.mem_cons_of_mem c he)
      rw [List.map_cons, List.map_cons, String.intercalate_cons_cons, String.append_assoc,
        String.toList_append, List.append_assoc, lexChars_assignment hc, String.toList_append,
        List.append_assoc]
      have hcomma : (", ".toList ++ ((", ".intercalate ((d ++ "=?") ::
          columns.map (· ++ "=?"))).toList ++ ' ' :: cs)) =
          ',' :: ' ' :: ((", ".intercalate ((d :: columns).map (· ++ "=?"))).toList ++ ' ' :: cs) :=
        rfl
      rw [hcomma, lexChars_symbol (by decide) (by decide), lexChars_blank, hrest]
      rfl

/-- A key word, and what follows. -/
theorem lexChars_word {w : String} (hw : IsName w) (cs : List Char) :
    lexChars (w.toList ++ ' ' :: cs) = .word w :: lexChars cs := by
  rw [lexChars_name hw (by decide), lexChars_blank]

/-- **What is written is read as it was meant.** -/
theorem parse_text {u : Update} (h : u.Formed) : parse u.text = some u := by
  have hkey : lexChars ((u.keyColumn ++ "=?").toList) =
      [.word u.keyColumn, .symbol '=', .symbol '?'] := by
    have hend := lexChars_assignment h.keyColumn []
    rwa [List.append_nil] at hend
  have hlex : lex u.text = .word "UPDATE" :: .word u.table :: .word "SET" :: (tokens u.columns ++
      [.word "WHERE", .word u.keyColumn, .symbol '=', .symbol '?']) := by
    have htext : u.text.toList = "UPDATE".toList ++ ' ' :: (u.table.toList ++ ' ' ::
        ("SET".toList ++ ' ' :: ((", ".intercalate (u.columns.map (· ++ "=?"))).toList ++ ' ' ::
          ("WHERE".toList ++ ' ' :: (u.keyColumn ++ "=?").toList)))) := by
      simp [text]
    rw [lex, htext, lexChars_word (by decide), lexChars_word h.table, lexChars_word (by decide),
      lexChars_assignments h.columns, lexChars_word (by decide), hkey]
  rw [parse, hlex]
  simp only [assignments_tokens h.sets]

theorem length_of_assignments {ts rest : List Token} {columns : List String}
    (h : assignments ts = some (columns, rest)) :
    ts.count (.symbol '?') = columns.length + rest.count (.symbol '?') := by
  induction ts using assignments.induct generalizing columns with
  | case1 c ts ih =>
    rw [assignments] at h
    obtain ⟨⟨columns', rest'⟩, hread, heq⟩ := Option.map_eq_some_iff.mp h
    cases heq
    have hcount := ih hread
    simp [hcount]
    omega
  | case2 c ts hcomma =>
    rw [assignments] at h
    · cases h
      simp
      omega
    · exact hcomma
  | case3 ts _ _ =>
    rw [assignments] at h
    · cases h
    all_goals assumption

/-- A statement that can be read takes a value for each column and the key. -/
theorem placeholders_of_parse {query : String} {u : Update} (h : parse query = some u) :
    placeholders query = u.columns.length + 1 := by
  rw [← count_lex]
  unfold parse at h
  split at h
  · next table ts hlex =>
    rw [hlex]
    split at h
    · next columns keyColumn hsets =>
      cases h
      have hcount := length_of_assignments hsets
      simpa using hcount
    · cases h
  · cases h

end Update

end Sql
