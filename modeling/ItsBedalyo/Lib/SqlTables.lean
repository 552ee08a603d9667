import ItsBedalyo.Lib.Sql
import Mathlib.Data.List.Forall2
import Mathlib.Logic.Function.Basic

/-!
# Tables and what updates make of them

A table is the list of its rows, and a row says what it holds in each column. `Change.parse` reads
an `UPDATE` with one or more conditions. It assigns values to its columns in the rows that it hits;
the other columns, the other rows and the other tables stay as they are (`assign_of_not_mem`,
`run_of_ne`). Which texts are equal is up to the collation.
-/

namespace Sql

/-- What a row holds in each column. -/
abbrev Row (V : Type*) := String → V

/-- The rows of each table. -/
abbrev Tables (V : Type*) := String → List (Row V)

/-- An equality of texts. -/
structure Collation where
  same : String → String → Bool
  equivalence : Equivalence fun s t => same s t = true

namespace Collation

/-- Texts are equal when `f` makes the same of them. -/
def upTo (f : String → String) : Collation where
  same s t := f s == f t
  equivalence := by
    refine ⟨fun s => beq_self_eq_true (f s), fun h => ?_, fun h h' => ?_⟩
    · exact beq_iff_eq.mpr (beq_iff_eq.mp h).symm
    · exact beq_iff_eq.mpr ((beq_iff_eq.mp h).trans (beq_iff_eq.mp h'))

theorem same_self (c : Collation) (s : String) : c.same s s = true := c.equivalence.refl s

end Collation

/-! ### Changes -/

/-- `UPDATE table SET column = ?, … WHERE key = ? AND …` -/
structure Change where
  table : String
  columns : List String
  keys : List String
  deriving DecidableEq

namespace Change

/-- `key = ? AND …` -/
def conditions : List Token → Option (List String)
  | [.word key, .symbol '=', .symbol '?'] => some [key]
  | .word key :: .symbol '=' :: .symbol '?' :: .word "AND" :: ts =>
    (conditions ts).map (key :: ·)
  | _ => none

/-- The change that some tokens say. -/
def read : List Token → Option Change
  | .word "UPDATE" :: .word table :: .word "SET" :: ts =>
    match Update.assignments ts with
    | some (columns, .word "WHERE" :: ts) =>
      (conditions ts).map fun keys => { table, columns, keys }
    | _ => none
  | _ => none

/-- The change that a text says. -/
def parse (text : String) : Option Change := read (lex text)

/-- An update with one key. -/
theorem parse_of_update {text : String} {u : Update} (h : Update.parse text = some u) :
    parse text = some ⟨u.table, u.columns, [u.keyColumn]⟩ := by
  rw [parse]
  unfold Update.parse at h
  split at h
  · next table ts hlex =>
    rw [hlex, read]
    split at h
    · next columns keyColumn hsets =>
      cases h
      rw [hsets]
      rfl
    · cases h
  · cases h

variable {V : Type*} (u : Change) (hits : Row V → Bool) (values : List V)

/-- A row with the values in the columns of the change. -/
def assign (row : Row V) : Row V :=
  fun column => ((u.columns.zip values).lookup column).getD (row column)

/-- A row after the change. -/
def onRow (row : Row V) : Row V := if hits row then u.assign values row else row

/-- The tables after the change. -/
def run (db : Tables V) : Tables V :=
  Function.update db u.table ((db u.table).map (u.onRow hits values))

variable {u hits values} {row : Row V} {db : Tables V} {column table : String}

/-- A column that the change does not name. -/
theorem assign_of_not_mem (h : column ∉ u.columns) : u.assign values row column = row column := by
  have hnone : (u.columns.zip values).lookup column = none := by
    rw [List.lookup_eq_none_iff (k := column)]
    intro pair hpair
    have hmem : pair.1 ∈ u.columns := (List.of_mem_zip hpair).1
    exact bne_iff_ne.mpr fun heq => h (heq ▸ hmem)
  rw [assign, hnone, Option.getD_none]

theorem onRow_of_not_mem (h : column ∉ u.columns) :
    u.onRow hits values row column = row column := by
  rw [onRow]
  split
  · exact assign_of_not_mem h
  · rfl

theorem run_self : run u hits values db u.table = (db u.table).map (u.onRow hits values) :=
  Function.update_self ..

theorem run_of_ne (h : table ≠ u.table) : run u hits values db table = db table :=
  Function.update_of_ne h ..

/-- The tables stay as they are exactly if the rows that are hit hold the values already. -/
theorem run_eq_self_iff : run u hits values db = db ↔
    ∀ row ∈ db u.table, hits row = true → u.assign values row = row := by
  have hsame : run u hits values db = db ↔ (db u.table).map (u.onRow hits values) = db u.table := by
    rw [run, Function.update_eq_self_iff]
  have hrows : (db u.table).map (u.onRow hits values) = db u.table ↔
      ∀ row ∈ db u.table, u.onRow hits values row = row := by
    conv_lhs => rhs; rw [← List.map_id (db u.table)]
    exact List.map_inj_left
  rw [hsame, hrows]
  refine forall₂_congr fun row _ => ?_
  rw [onRow]
  split <;> simp_all

/-- A column of the change holds the value given for it. -/
theorem assign_of_forall₂ {β : Type*} {key : β → String} {given : β → V → Prop} {settings : List β}
    (hcolumns : u.columns = settings.map key) (hnodup : u.columns.Nodup)
    (h : List.Forall₂ given settings values) {s : β} (hs : s ∈ settings) :
    given s (u.assign values row (key s)) := by
  rw [assign, hcolumns]
  rw [hcolumns] at hnodup
  clear hcolumns
  induction h with
  | nil => exact absurd hs List.not_mem_nil
  | @cons t value rest _ hgiven _ ih =>
    rw [List.map_cons, List.nodup_cons] at hnodup
    rw [List.map_cons, List.zip_cons_cons]
    rcases List.mem_cons.mp hs with rfl | hmem
    · rw [List.lookup_cons_self, Option.getD_some]
      exact hgiven
    · have hne : key s ≠ key t := fun heq => hnodup.1 (heq ▸ List.mem_map_of_mem hmem)
      rw [List.lookup_cons, beq_eq_false_iff_ne.mpr hne]
      exact ih hnodup.2 hmem

end Change

/-! ### Counts -/

/-- `SELECT COUNT(*) FROM table WHERE key = ? AND …` -/
structure Count where
  table : String
  keys : List String
  deriving DecidableEq

/-- The count that a text asks for. -/
def Count.parse (text : String) : Option Count :=
  match lex text with
  | .word "SELECT" :: .word "COUNT" :: .symbol '(' :: .symbol '*' :: .symbol ')' ::
      .word "FROM" :: .word table :: .word "WHERE" :: ts =>
    (Change.conditions ts).map fun keys => { table, keys }
  | _ => none

/-! ### What is left alone -/

section Kept

variable {V : Type*} {touched touched' : String → String → Prop} {db db' db'' : Tables V}

/-- The tables have the rows that they had, with other values in touched columns at most. -/
def Kept (touched : String → String → Prop) (db db' : Tables V) : Prop :=
  ∀ table, List.Forall₂ (fun row row' => ∀ column, ¬touched table column → row' column = row column)
    (db table) (db' table)

theorem Kept.refl (db : Tables V) : Kept touched db db :=
  fun _ => List.forall₂_same.mpr fun _ _ _ _ => rfl

theorem Kept.trans (h : Kept touched db db') (h' : Kept touched db' db'') :
    Kept touched db db'' := by
  intro table
  refine List.forall₂_iff_get.mpr ⟨(h table).length_eq.trans (h' table).length_eq, ?_⟩
  intro i hi hi'' column hcolumn
  have hi' : i < (db' table).length := (h table).length_eq ▸ hi
  exact ((h' table).get hi' hi'' column hcolumn).trans ((h table).get hi hi' column hcolumn)

/-- A change leaves alone what it assigns the value that is there. -/
theorem kept_run_iff {u : Change} {hits : Row V → Bool} {values : List V} :
    Kept touched db (u.run hits values db) ↔ ∀ row ∈ db u.table, hits row = true →
      ∀ column ∈ u.columns, ¬touched u.table column → u.assign values row column = row column := by
  have htable : Kept touched db (u.run hits values db) ↔ ∀ row ∈ db u.table, ∀ column,
      ¬touched u.table column → u.onRow hits values row column = row column := by
    constructor
    · intro h row hrow
      have hrows := h u.table
      rw [Change.run_self, List.forall₂_map_right_iff, List.forall₂_same] at hrows
      exact hrows row hrow
    · intro h table
      by_cases htable : table = u.table
      · rw [htable, Change.run_self, List.forall₂_map_right_iff, List.forall₂_same]
        exact h
      · rw [Change.run_of_ne htable]
        exact Kept.refl db table
  rw [htable]
  refine forall₂_congr fun row _ => ⟨fun h hhits column _ => ?_, fun h column hcolumn => ?_⟩
  · have hkept := h column
    rwa [Change.onRow, if_pos hhits] at hkept
  · rw [Change.onRow]
    split
    · next hhits =>
      by_cases hmem : column ∈ u.columns
      · exact h hhits column hmem hcolumn
      · exact Change.assign_of_not_mem hmem
    · rfl

end Kept

end Sql
