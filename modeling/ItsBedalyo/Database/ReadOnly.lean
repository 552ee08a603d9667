import ItsBedalyo.Database.Queries
import ItsBedalyo.Lib.Memory

/-!
# Code that sends no update

`ReadOnly` code prepares and runs queries and reads what they find, whatever it finds and wherever
a call throws.
-/

namespace ItsBedalyo

variable {D α β : Type}

/-- The calls that write. -/
def DbOp.isUpdate : DbOp D → Bool
  | executeUpdate .. => true
  | _ => false

namespace TryBlock

variable {σ : Type}

/-- The calls of a block that write. -/
def isUpdate : TryOp D σ → Bool
  | .db o => o.isUpdate
  | .assign _ => false

theorem avoids_db {p : DbProg D α} (hp : p.Avoids DbOp.isUpdate) :
    (db p : TryBlock D σ α).Avoids isUpdate := by
  induction p with
  | ret a => trivial
  | fail e => trivial
  | call o k ih => exact ⟨hp.1, fun r => ih r (hp.2 r)⟩

theorem avoids_assign (f : σ → σ) : (assign f : TryBlock D σ Unit).Avoids isUpdate := .op rfl

/-- A block that does not write. -/
theorem avoids_catchFrom {x : TryBlock D σ Unit} (hx : x.Avoids isUpdate) (s : σ) :
    (catchFrom x s).Avoids DbOp.isUpdate := by
  induction x generalizing s with
  | ret a => trivial
  | fail e => trivial
  | call o k ih =>
    cases o with
    | db o => exact ⟨hx.1, fun r => ih r (hx.2 r) s⟩
    | assign f => exact ih (.ok ()) (hx.2 (.ok ())) (f s)

end TryBlock

namespace DbProg

/-- Code that sends no update. -/
def ReadOnly (p : DbProg D α) : Prop := p.Avoids DbOp.isUpdate

namespace ReadOnly

open Prog

protected theorem pure (a : α) : ReadOnly (pure a : DbProg D α) := trivial

theorem op {o : DbOp D} (ho : o.isUpdate = false) : ReadOnly (Prog.op o) := Avoids.op ho

theorem bind {p : DbProg D α} {f : α → DbProg D β} (hp : ReadOnly p) (hf : ∀ a, ReadOnly (f a)) :
    ReadOnly (p >>= f) := Avoids.bind hp hf

section Calls

variable (row : ResultRow D) (column : String)

theorem select (query : String) (params : List SqlParam) :
    ReadOnly (DbProg.select query params : DbProg D _) := (op rfl).bind fun _ => op rfl

theorem getInt : ReadOnly (DbProg.getInt row column) := op rfl

theorem cString : ReadOnly (DbProg.cString row column) := (op rfl).bind fun _ => .pure _

/-- `isNull(…) ? … : …` -/
theorem unlessNull {p q : DbProg D α} (hp : ReadOnly p) (hq : ReadOnly q) :
    ReadOnly (do if ← DbProg.isNull row column then p else q) :=
  (op rfl).bind fun _ => Avoids.ite hp hq

theorem cStringOr (otherwise : String) : ReadOnly (DbProg.cStringOr row column otherwise) :=
  unlessNull row column (.pure _) (cString row column)

theorem intOr (otherwise : Int32) : ReadOnly (DbProg.intOr row column otherwise) :=
  unlessNull row column (.pure _) (op rfl)

theorem doubleOr (otherwise : D) : ReadOnly (DbProg.doubleOr row column otherwise) :=
  unlessNull row column (.pure _) (op rfl)

end Calls

/-! ### Loops -/

variable {body : ℕ → ResultRow D → DbProg D α} (hbody : ∀ i row, ReadOnly (body i row))

include hbody

theorem pushEach (i : ℕ) (rows : List (ResultRow D)) :
    (TryBlock.pushEach body i rows).Avoids TryBlock.isUpdate := by
  induction rows generalizing i with
  | nil => exact TryBlock.avoids_db (op rfl)
  | cons row rows ih =>
    refine Avoids.bind (TryBlock.avoids_db (op rfl)) fun _ => ?_
    refine Avoids.bind (TryBlock.avoids_db (hbody i row)) fun a => ?_
    exact Avoids.bind (TryBlock.avoids_assign _) fun _ => ih (i + 1)

theorem selectEach (query : String) (params : List SqlParam) :
    ReadOnly (DbProg.selectEach query params body) :=
  TryBlock.avoids_catchFrom (Avoids.bind (TryBlock.avoids_db (select query params)) fun rows =>
    pushEach hbody 0 rows) []

end ReadOnly

end DbProg

end ItsBedalyo
