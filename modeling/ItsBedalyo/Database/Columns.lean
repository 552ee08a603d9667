import ItsBedalyo.Database.ResultSets

/-!
# Code that reads columns

`Columns` code goes from one column of a row to the next and stops at the first call that throws. So
it returns what the row has, or throws.
-/

namespace ItsBedalyo

variable {D α β : Type}

/-- The calls that neither write nor look for rows. -/
def DbOp.isColumn : DbOp D → Bool
  | executeQuery .. | executeUpdate .. => false
  | _ => true

namespace DbProg

/-- Code that makes no other calls, and stops where one of them throws. -/
def Columns : DbProg D α → Prop
  | .ret _ => True
  | .fail _ => False
  | .call o k => o.isColumn = true ∧ (∀ e, k (.error e) = .fail e) ∧ ∀ a, Columns (k (.ok a))

namespace Columns

protected theorem pure (a : α) : Columns (pure a : DbProg D α) := trivial

theorem op {o : DbOp D} (ho : o.isColumn = true) : Columns (Prog.op o) :=
  ⟨ho, fun _ => rfl, fun _ => trivial⟩

theorem bind {p : DbProg D α} {f : α → DbProg D β} (hp : Columns p) (hf : ∀ a, Columns (f a)) :
    Columns (p >>= f) := by
  induction p with
  | ret a => exact hf a
  | fail e => exact hp.elim
  | call o k ih =>
    obtain ⟨ho, herror, hok⟩ := hp
    refine ⟨ho, fun e => ?_, fun a => ih _ (hok a)⟩
    show (k (.error e)).bind f = _
    rw [herror]
    rfl

section Calls

variable (row : ResultRow D) (column : String)

theorem getInt : Columns (DbProg.getInt row column) := op rfl

theorem getString : Columns (DbProg.getString row column) := op rfl

theorem getBoolean : Columns (DbProg.getBoolean row column) := op rfl

theorem cString : Columns (DbProg.cString row column) := (op rfl).bind fun _ => .pure _

/-- `isNull(…) ? … : …` -/
theorem unlessNull {p q : DbProg D α} (hp : Columns p) (hq : Columns q) :
    Columns (do if ← DbProg.isNull row column then p else q) := by
  refine (op rfl).bind fun isNull => ?_
  cases isNull with
  | false => exact hq
  | true => exact hp

theorem stringOr (otherwise : String) : Columns (DbProg.stringOr row column otherwise) :=
  unlessNull row column (.pure _) (op rfl)

theorem cStringOr (otherwise : String) : Columns (DbProg.cStringOr row column otherwise) :=
  unlessNull row column (.pure _) (cString row column)

end Calls

end Columns

variable [Double D]

@[simp] theorem read_getBoolean (rows : String → List SqlParam → List (ResultRow D))
    {row : ResultRow D} {column : String} {b : Bool} (h : row column = .boolean b) :
    read rows (getBoolean row column) = .ok b := by
  have hread : read rows (getBoolean row column) =
      .ok (readOnly rows (.getBoolean row column)) := rfl
  rw [hread, readOnly, h]

end DbProg

end ItsBedalyo
