import ItsBedalyo.Lib.Json
import ItsBedalyo.Lib.Runs
import Mathlib.Data.List.TakeWhile

/-!
# Queries by their text

Code that sends a query as a text with values for its `?`s, and reads the result set column by
column. What a query finds and what a column holds comes from whoever runs the program; every call
may throw a `sql::SQLException`, also in the middle of a result set, and nothing else is thrown.
`DBManager::getConnection` waits for a connection and throws nothing, and has no operation here.

A row of a result set is a function of the column's name, with the columns that are read by their
number under that number.
-/

namespace ItsBedalyo

/-- `sql::SQLException`. -/
structure SqlException where
  what : String
  deriving DecidableEq

/-- A value for a `?`. -/
inductive SqlParam
  | int (n : Int32)
  | string (s : String)
  | boolean (b : Bool)
  deriving DecidableEq

/-- What a row holds in a column. -/
inductive Cell (D : Type)
  | null
  | int (n : Int32)
  | double (x : D)
  | string (s : String)
  | boolean (b : Bool)

/-- A row of a result set. -/
abbrev ResultRow (D : Type) := String → Cell D

/-- The calls. -/
inductive DbOp (D : Type)
  | prepareStatement (query : String)
  | executeQuery (query : String) (params : List SqlParam)
  | executeUpdate (query : String) (params : List SqlParam)
  | next
  | isNull (row : ResultRow D) (column : String)
  | getInt (row : ResultRow D) (column : String)
  | getDouble (row : ResultRow D) (column : String)
  | getString (row : ResultRow D) (column : String)
  | getBoolean (row : ResultRow D) (column : String)

variable {D α : Type}

/-- What a call returns: a query its rows, an update how many rows it has changed. -/
abbrev DbOp.Res : DbOp D → Type
  | executeQuery .. => List (ResultRow D)
  | executeUpdate .. => ℕ
  | isNull .. | getBoolean .. => Bool
  | getInt .. => Int32
  | getDouble .. => D
  | getString .. => String
  | _ => Unit

/-- Code that calls nothing else. -/
abbrev DbProg (D : Type) := Prog (@DbOp.Res D) SqlException

/-- `.c_str()`, as a text again: what is before the first NUL. -/
def cStr (s : String) : String := String.ofList (s.toList.takeWhile (· ≠ '\x00'))

theorem cStr_eq_self {s : String} : cStr s = s ↔ '\x00' ∉ s.toList := by
  rw [cStr, ← String.toList_inj, String.toList_ofList, List.takeWhile_eq_self_iff]
  simp only [decide_eq_true_eq]
  exact ⟨fun h hmem => h _ hmem rfl, fun h c hc => ne_of_mem_of_not_mem hc h⟩

theorem length_cStr_le (s : String) : (cStr s).length ≤ s.length := by
  rw [← String.length_toList, ← String.length_toList, cStr, String.toList_ofList]
  exact (List.takeWhile_sublist _).length_le

/-- Only a NUL cuts anything off. -/
theorem length_cStr_eq_iff {s : String} : (cStr s).length = s.length ↔ '\x00' ∉ s.toList := by
  rw [← cStr_eq_self, ← String.length_toList, ← String.length_toList, ← String.toList_inj, cStr,
    String.toList_ofList]
  exact ⟨(List.takeWhile_sublist _).eq_of_length, congrArg List.length⟩

namespace DbProg

def prepareStatement (query : String) : DbProg D Unit := Prog.op (DbOp.prepareStatement query)

def executeQuery (query : String) (params : List SqlParam) : DbProg D (List (ResultRow D)) :=
  Prog.op (DbOp.executeQuery query params)

def executeUpdate (query : String) (params : List SqlParam) : DbProg D ℕ :=
  Prog.op (DbOp.executeUpdate query params)

def next : DbProg D Unit := Prog.op DbOp.next

def isNull (row : ResultRow D) (column : String) : DbProg D Bool :=
  Prog.op (DbOp.isNull row column)

def getInt (row : ResultRow D) (column : String) : DbProg D Int32 :=
  Prog.op (DbOp.getInt row column)

def getDouble (row : ResultRow D) (column : String) : DbProg D D :=
  Prog.op (DbOp.getDouble row column)

def getString (row : ResultRow D) (column : String) : DbProg D String :=
  Prog.op (DbOp.getString row column)

def getBoolean (row : ResultRow D) (column : String) : DbProg D Bool :=
  Prog.op (DbOp.getBoolean row column)

/-- A `SELECT`. -/
def select (query : String) (params : List SqlParam) : DbProg D (List (ResultRow D)) := do
  prepareStatement query
  executeQuery query params

/-- An `INSERT`, `UPDATE` or `DELETE`. -/
def update (query : String) (params : List SqlParam) : DbProg D ℕ := do
  prepareStatement query
  executeUpdate query params

/-- `rs->isNull(column) ? otherwise : rs->getString(column)`. -/
def stringOr (row : ResultRow D) (column otherwise : String) : DbProg D String := do
  if ← isNull row column then pure otherwise else getString row column

/-- `rs->getString(column).c_str()`. -/
def cString (row : ResultRow D) (column : String) : DbProg D String := do
  let s ← getString row column
  pure (cStr s)

/-- `rs->isNull(column) ? otherwise : rs->getString(column).c_str()`. -/
def cStringOr (row : ResultRow D) (column otherwise : String) : DbProg D String := do
  if ← isNull row column then pure otherwise else cString row column

/-- `rs->isNull(column) ? otherwise : rs->getInt(column)`. -/
def intOr (row : ResultRow D) (column : String) (otherwise : Int32) : DbProg D Int32 := do
  if ← isNull row column then pure otherwise else getInt row column

/-- `rs->isNull(column) ? otherwise : rs->getDouble(column)`. -/
def doubleOr (row : ResultRow D) (column : String) (otherwise : D) : DbProg D D := do
  if ← isNull row column then pure otherwise else getDouble row column

/-- `try { … } catch (sql::SQLException &e) { }`, with the value when something has thrown. -/
def catchSql (body : DbProg D α) (otherwise : α) : DbProg D α :=
  tryCatch body fun _ => pure otherwise

/-- `if (rs->next())`. -/
def first (rows : List (ResultRow D)) : DbProg D (Option (ResultRow D)) := do
  next
  pure rows.head?

/-- `while (rs->next())`, where the body knows how many rows came before. -/
def forEach (body : ℕ → ResultRow D → DbProg D α) (i : ℕ) :
    List (ResultRow D) → DbProg D (List α)
  | [] => do
    next
    pure []
  | row :: rows => do
    next
    let a ← body i row
    let rest ← forEach body (i + 1) rows
    pure (a :: rest)

end DbProg

/-! ### Variables that outlive a `try` -/

/-- What code in a `try` does: it calls the database, and assigns to variables that were declared
before the `try`. -/
inductive TryOp (D σ : Type)
  | db (o : DbOp D)
  | assign (f : σ → σ)

/-- What it gets back. -/
abbrev TryOp.Res {σ : Type} : TryOp D σ → Type
  | db o => o.Res
  | assign _ => Unit

/-- Code in a `try`. -/
abbrev TryBlock (D σ : Type) := Prog (@TryOp.Res D σ) SqlException

namespace TryBlock

variable {σ : Type}

def db (p : DbProg D α) : TryBlock D σ α := Prog.embed TryOp.db p

def assign (f : σ → σ) : TryBlock D σ Unit := Prog.op (TryOp.assign f)

/-- `try { … } catch (sql::SQLException &e) { }` and the variables afterwards. What was assigned
before something has thrown stays. -/
def catchFrom : TryBlock D σ Unit → σ → DbProg D σ
  | .ret _, s => .ret s
  | .fail _, s => .ret s
  | .call (.db o) k, s => .call o fun r => catchFrom (k r) s
  | .call (.assign f) k, s => catchFrom (k (.ok ())) (f s)

/-- `while (rs->next())` around a `push_back`. -/
def pushEach (body : ℕ → ResultRow D → DbProg D α) (i : ℕ) :
    List (ResultRow D) → TryBlock D (List α) Unit
  | [] => db .next
  | row :: rows => do
    db .next
    let a ← db (body i row)
    assign (· ++ [a])
    pushEach body (i + 1) rows

section Rules

variable {γ : Type*} {I : Interface (@DbOp.Res D) SqlException γ}
  {Q : Except SqlException σ → γ → Prop}
  {g : γ} {s : σ}

/-- What a call throws leaves the variables as they are. -/
theorem wp_catchFrom_db (p : DbProg D α) (f : α → TryBlock D σ Unit) :
    I.wp (catchFrom (db p >>= f) s) Q g ↔
      I.wp p (fun r g' => match r with
        | .ok a => I.wp (catchFrom (f a) s) Q g'
        | .error _ => Q (.ok s) g') g := by
  induction p generalizing g with
  | ret a => exact Iff.rfl
  | fail e => exact Iff.rfl
  | call o k ih =>
    exact and_congr_right fun _ => forall_congr' fun r => forall₂_congr fun _ _ => ih r

theorem wp_catchFrom_last (p : DbProg D Unit) :
    I.wp (catchFrom (db p) s) Q g ↔ I.wp p (fun _ g' => Q (.ok s) g') g := by
  induction p generalizing g with
  | ret a => exact Iff.rfl
  | fail e => exact Iff.rfl
  | call o k ih =>
    exact and_congr_right fun _ => forall_congr' fun r => forall₂_congr fun _ _ => ih r

theorem catchFrom_assign (f : σ → σ) (k : Unit → TryBlock D σ Unit) :
    catchFrom (assign f >>= k) s = catchFrom (k ()) (f s) := rfl

/-- Every assignment of the block keeps `P`. -/
def Keeps (P : σ → Prop) : TryBlock D σ α → Prop
  | .ret _ => True
  | .fail _ => True
  | .call (.db _) k => ∀ r, Keeps P (k r)
  | .call (.assign f) k => (∀ s, P s → P (f s)) ∧ ∀ r, Keeps P (k r)

variable {P : σ → Prop}

theorem keeps_db (p : DbProg D α) : Keeps P (db p) := by
  induction p with
  | ret a => trivial
  | fail e => trivial
  | call o k ih => exact ih

theorem keeps_assign {f : σ → σ} (h : ∀ s, P s → P (f s)) :
    Keeps P (assign f : TryBlock D σ Unit) :=
  ⟨h, fun r => by cases r <;> trivial⟩

theorem Keeps.bind {β : Type} {x : TryBlock D σ α} {f : α → TryBlock D σ β} (hx : Keeps P x)
    (hf : ∀ a, Keeps P (f a)) : Keeps P (x >>= f) := by
  induction x with
  | ret a => exact hf a
  | fail e => trivial
  | call o k ih =>
    cases o with
    | db o => exact fun r => ih r (hx r)
    | assign g => exact ⟨hx.1, fun r => ih r (hx.2 r)⟩

/-- The variables afterwards, wherever the block has ended. -/
theorem Keeps.wp {x : TryBlock D σ Unit} (hx : Keeps P x) (hs : P s)
    (hpre : ∀ g o, I.pre g o) : I.wp (catchFrom x s) (fun r _ => ∃ s', r = .ok s' ∧ P s') g := by
  induction x generalizing s g with
  | ret a => exact ⟨s, rfl, hs⟩
  | fail e => exact ⟨s, rfl, hs⟩
  | call o k ih =>
    cases o with
    | db o => exact ⟨hpre g o, fun r _ _ => ih r (hx r) hs⟩
    | assign f => exact ih (.ok ()) (hx.2 _) (hx.1 s hs)

end Rules

end TryBlock

/-- A `SELECT` whose rows are pushed to a list. -/
def DbProg.selectEach (query : String) (params : List SqlParam)
    (body : ℕ → ResultRow D → DbProg D α) : DbProg D (List α) :=
  TryBlock.catchFrom
    (do
      let rows ← TryBlock.db (select query params)
      TryBlock.pushEach body 0 rows)
    []

end ItsBedalyo
