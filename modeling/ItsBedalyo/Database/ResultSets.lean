import ItsBedalyo.Database.Queries
import ItsBedalyo.Lib.Faults

/-!
# Result sets of stored rows

What the connector returns for the cells of a row, and a database that is only read: it answers a
query with rows and throws nothing. A column of a number holds a number or `NULL`, and a column of
a text a text or `NULL`.
-/

namespace ItsBedalyo

variable {D α : Type}

namespace Cell

def isNull : Cell D → Bool
  | null => true
  | _ => false

/-- `getInt`, of `NULL` 0. -/
def toInt : Cell D → Int32
  | int n => n
  | _ => 0

/-- `getString`, of `NULL` the empty text. -/
def toText : Cell D → String
  | string s => s
  | _ => ""

/-- `isNull(…) ? otherwise : getInt(…)` -/
def intOr (cell : Cell D) (otherwise : Int32) : Int32 :=
  if cell.isNull then otherwise else cell.toInt

/-- `isNull(…) ? otherwise : getString(…)` -/
def textOr (cell : Cell D) (otherwise : String) : String :=
  if cell.isNull then otherwise else cell.toText

/-- `isNull(…) ? otherwise : getString(…).c_str()` -/
def cTextOr (cell : Cell D) (otherwise : String) : String :=
  if cell.isNull then otherwise else cStr cell.toText

/-- A number, or `NULL`. -/
def ofInt? (n : Option Int32) : Cell D := (n.map .int).getD .null

/-- A text, or `NULL`. -/
def ofText? (s : Option String) : Cell D := (s.map .string).getD .null

/-- `getDouble`, of `NULL` 0. -/
def toDouble [Double D] : Cell D → D
  | double x => x
  | _ => Double.zero

/-- A floating-point number, or `NULL`. -/
def ofDouble? (x : Option D) : Cell D := (x.map .double).getD .null

@[simp] theorem toInt_int (n : Int32) : (int n : Cell D).toInt = n := rfl

@[simp] theorem toText_string (s : String) : (string s : Cell D).toText = s := rfl

@[simp] theorem toInt_ofInt? (n : Option Int32) : (ofInt? n : Cell D).toInt = n.getD 0 := by
  cases n <;> rfl

@[simp] theorem toText_ofText? (s : Option String) : (ofText? s : Cell D).toText = s.getD "" := by
  cases s <;> rfl

@[simp] theorem intOr_ofInt? (n : Option Int32) (otherwise : Int32) :
    (ofInt? n : Cell D).intOr otherwise = n.getD otherwise := by
  cases n <;> rfl

@[simp] theorem textOr_ofText? (s : Option String) (otherwise : String) :
    (ofText? s : Cell D).textOr otherwise = s.getD otherwise := by
  cases s <;> rfl

@[simp] theorem cTextOr_string (s otherwise : String) :
    (string s : Cell D).cTextOr otherwise = cStr s := rfl

@[simp] theorem cTextOr_ofText? (s : Option String) (otherwise : String) :
    (ofText? s : Cell D).cTextOr otherwise = (s.map cStr).getD otherwise := by
  cases s <;> rfl

@[simp] theorem toDouble_ofDouble? [Double D] (x : Option D) :
    (ofDouble? x : Cell D).toDouble = x.getD Double.zero := by
  cases x <;> rfl

end Cell

/-- A row with these columns. -/
def ResultRow.of (columns : List (String × Cell D)) : ResultRow D :=
  fun column => (columns.lookup column).getD .null

/-- A database that finds `rows`. -/
def readOnly [Double D] (rows : String → List SqlParam → List (ResultRow D)) :
    (o : DbOp D) → o.Res
  | .executeQuery query params => rows query params
  | .executeUpdate _ _ => (0 : ℕ)
  | .isNull row column => (row column).isNull
  | .getInt row column => (row column).toInt
  | .getString row column => (row column).toText
  | .getDouble row column => (row column).toDouble
  | .getBoolean row column => match row column with | .boolean b => b | _ => false
  | .prepareStatement _ | .next => ()

namespace DbProg

variable [Double D] (rows : String → List SqlParam → List (ResultRow D))

/-- What code returns that only reads. -/
def read (p : DbProg D α) : Except SqlException α := (p.eval (readOnly rows)).1

@[simp] theorem read_pure (a : α) : read rows (pure a) = .ok a := rfl

@[simp] theorem read_bind {β : Type} (p : DbProg D α) (f : α → DbProg D β) :
    read rows (p >>= f) = match read rows p with
      | .ok a => read rows (f a)
      | .error e => .error e := by
  rw [read, read, Prog.eval_bind]
  rcases p.eval (readOnly rows) with ⟨_ | a, ops⟩ <;> rfl

@[simp] theorem read_catchSql (p : DbProg D α) (otherwise : α) :
    read rows (catchSql p otherwise) = .ok ((read rows p).toOption.getD otherwise) := by
  rw [read, read, catchSql, Prog.eval_tryCatch]
  rcases p.eval (readOnly rows) with ⟨_ | a, ops⟩ <;> rfl

@[simp] theorem read_select (query : String) (params : List SqlParam) :
    read rows (select query params) = .ok (rows query params) := rfl

@[simp] theorem read_first (found : List (ResultRow D)) :
    read rows (first found) = .ok found.head? := rfl

variable (row : ResultRow D) (column : String)

@[simp] theorem read_getInt : read rows (getInt row column) = .ok (row column).toInt := rfl

@[simp] theorem read_getString : read rows (getString row column) = .ok (row column).toText := rfl

@[simp] theorem read_getDouble : read rows (getDouble row column) = .ok (row column).toDouble := rfl

@[simp] theorem read_doubleOr_zero :
    read rows (doubleOr row column Double.zero) = .ok (row column).toDouble := by
  rw [doubleOr, read_bind]
  show read rows (if (row column).isNull then _ else _) = _
  cases hcell : row column <;> simp [Cell.isNull, Cell.toDouble, hcell]

@[simp] theorem read_stringOr (otherwise : String) :
    read rows (stringOr row column otherwise) = .ok ((row column).textOr otherwise) := by
  rw [stringOr, read_bind]
  show read rows (if (row column).isNull then _ else _) =
    .ok (if (row column).isNull then _ else _)
  split <;> rfl

@[simp] theorem read_cString : read rows (cString row column) = .ok (cStr (row column).toText) :=
  rfl

@[simp] theorem read_cStringOr (otherwise : String) :
    read rows (cStringOr row column otherwise) = .ok ((row column).cTextOr otherwise) := by
  rw [cStringOr, read_bind]
  show read rows (if (row column).isNull then _ else _) =
    .ok (if (row column).isNull then _ else _)
  split <;> rfl

@[simp] theorem read_intOr (otherwise : Int32) :
    read rows (intOr row column otherwise) = .ok ((row column).intOr otherwise) := by
  rw [intOr, read_bind]
  show read rows (if (row column).isNull then _ else _) =
    .ok (if (row column).isNull then _ else _)
  split <;> rfl

/-! ### Loops over a result set -/

variable {rows} {row column} {β σ : Type} {body : ℕ → ResultRow D → DbProg D β} {f : α → β}
  {rowOf : α → ResultRow D}

/-- The rows of what has been found, one after another, by a body that looks at their number. -/
theorem read_forEach_zipIdx {f : ℕ → α → β}
    (h : ∀ i a, read rows (body i (rowOf a)) = .ok (f i a)) (i : ℕ) (found : List α) :
    read rows (forEach body i (found.map rowOf)) =
      .ok ((found.zipIdx i).map fun entry => f entry.2 entry.1) := by
  induction found generalizing i with
  | nil => rfl
  | cons a found ih =>
    have hnext : read rows next = .ok () := rfl
    simp only [List.map_cons, List.zipIdx_cons, forEach, read_bind, hnext, h, ih, read_pure]

/-- The rows of what has been found, one after another. -/
theorem read_forEach (h : ∀ i a, read rows (body i (rowOf a)) = .ok (f a)) (i : ℕ)
    (found : List α) :
    read rows (forEach body i (found.map rowOf)) = .ok (found.map f) := by
  have hfst : ((found.zipIdx i).map Prod.fst).map f = found.map f := by rw [List.zipIdx_map_fst]
  rw [read_forEach_zipIdx (f := fun _ => f) h, ← hfst, List.map_map]
  rfl

/-- A block goes on with what its code has read. -/
theorem read_catchFrom_db {p : DbProg D α} {k : α → TryBlock D σ Unit} {s : σ} {a : α}
    (h : read rows p = .ok a) : read rows (TryBlock.catchFrom (TryBlock.db p >>= k) s) =
      read rows (TryBlock.catchFrom (k a) s) := by
  induction p with
  | ret b =>
    obtain rfl := Except.ok.inj h
    rfl
  | fail e => cases h
  | call o k' ih => exact ih _ h

theorem read_pushEach (h : ∀ i a, read rows (body i (rowOf a)) = .ok (f a)) (i : ℕ) (found : List α)
    (before : List β) :
    read rows (TryBlock.catchFrom (TryBlock.pushEach body i (found.map rowOf)) before) =
      .ok (before ++ found.map f) := by
  induction found generalizing i before with
  | nil =>
    rw [List.map_nil, List.map_nil, List.append_nil]
    rfl
  | cons a found ih =>
    have hnext : read rows next = .ok () := rfl
    rw [List.map_cons, TryBlock.pushEach, read_catchFrom_db hnext, read_catchFrom_db (h i a),
      TryBlock.catchFrom_assign, ih, List.append_assoc]
    rfl

theorem read_selectEach {query : String} {params : List SqlParam} {found : List α}
    (hfound : rows query params = found.map rowOf)
    (h : ∀ i a, read rows (body i (rowOf a)) = .ok (f a)) :
    read rows (selectEach query params body) = .ok (found.map f) := by
  have hselect : read rows (select query params) = .ok (found.map rowOf) := by
    rw [read_select, hfound]
  exact (read_catchFrom_db hselect).trans (read_pushEach h 0 found [])

end DbProg

end ItsBedalyo
