import ItsBedalyo.Database.Tables
import Mathlib.Data.List.Basic

/-!
# Row-locking transactions

The database server as the connections see it. Each call of a handler holds a connection of
its own. With autocommit on, a statement takes effect at once; with autocommit off, the row
images it writes stay with the transaction, the rows are locked for it, and `commit` publishes
them while `rollback` drops them; both release the locks. A statement waits (is not enabled)
while another transaction has locked one of its rows, and it works on the committed tables
with the transaction's own writes on top, so an `UPDATE` reads what it is about to overwrite.

Only rows that a transaction writes are locked for it. A server that locks more, the rows an
`UPDATE` has looked at in vain or the parent rows of an `INSERT`, admits fewer runs. Switching
autocommit on commits an open transaction, as the server does.

`commits` and `moves` are history: the calls whose `commit()` has succeeded, and every image of
an existing order that was published, with the one it replaced.
-/

namespace ItsBedalyo

/-- A connection: its autocommit mode, and the writes of its open transaction. -/
structure Connection (κ : Type*) where
  autoCommit : Bool
  pending : List (Write κ)

/-- A published change of an existing order. -/
structure OrderMove (τ κ : Type*) where
  caller : τ
  order : κ
  before : OrderRow
  after : OrderRow
  deriving DecidableEq

/-- The database server; the connections are named by the calls that hold them. -/
structure DbServer (τ κ : Type*) where
  tables : Tables κ
  conns : τ → Connection κ
  locks : Row κ → Option τ
  commits : List τ
  moves : List (OrderMove τ κ)

namespace DbServer

variable {τ κ : Type*}

/-- The server before the first statement: every connection comes from the pool in autocommit
mode. -/
def init (tables : Tables κ) : DbServer τ κ :=
  ⟨tables, fun _ => ⟨true, []⟩, fun _ => none, [], []⟩

variable [DecidableEq τ] [DecidableEq κ]

/-- The tables as a statement of `t` finds them. -/
def view (s : DbServer τ κ) (t : τ) : Tables κ :=
  s.tables.writes (s.conns t).pending

/-- `t` does not have to wait for a row. -/
def free (s : DbServer τ κ) (t : τ) (x : Row κ) : Bool :=
  s.locks x = none ∨ s.locks x = some t

/-- The existing orders a list of writes changes. -/
def movesOf (t : τ) (db : Tables κ) (ws : List (Write κ)) : List (OrderMove τ κ) :=
  ws.filterMap fun
    | .order k after => (db.orders k).map fun before => ⟨t, k, before, after⟩
    | _ => none

/-- Make writes of `t` visible to everyone. -/
def publish (s : DbServer τ κ) (t : τ) (ws : List (Write κ)) : DbServer τ κ :=
  { s with tables := s.tables.writes ws, moves := s.moves ++ movesOf t s.tables ws }

/-- Keep writes of `t` in its transaction and lock their rows. -/
def enqueue (s : DbServer τ κ) (t : τ) (ws : List (Write κ)) : DbServer τ κ :=
  { s with
    conns := Function.update s.conns t ⟨(s.conns t).autoCommit, (s.conns t).pending ++ ws⟩
    locks := fun x => if x ∈ ws.filterMap Write.row? then some t else s.locks x }

/-- `rollback()`: forget the open transaction's writes and release its locks. -/
def rollback (s : DbServer τ κ) (t : τ) : DbServer τ κ :=
  { s with
    conns := Function.update s.conns t ⟨(s.conns t).autoCommit, []⟩
    locks := fun x => if s.locks x = some t then none else s.locks x }

/-- `commit()`, when it does not throw. -/
def commit (s : DbServer τ κ) (t : τ) : DbServer τ κ :=
  { (s.publish t (s.conns t).pending).rollback t with commits := s.commits ++ [t] }

/-- `setAutoCommit(on)`. -/
def setAutoCommit (s : DbServer τ κ) (t : τ) : Bool → DbServer τ κ
  | true =>
    let s' := (s.publish t (s.conns t).pending).rollback t
    { s' with conns := Function.update s'.conns t ⟨true, []⟩ }
  | false => { s with conns := Function.update s.conns t ⟨false, (s.conns t).pending⟩ }

/-- `executeUpdate()`, when it does not throw: the row count and the server afterwards. -/
def executeUpdate (key : String → κ) (s : DbServer τ κ) (t : τ) (stmt : Statement) :
    Option (ℕ × DbServer τ κ) :=
  if (stmt.rows key (s.view t)).all (s.free t) then
    (stmt.effect key (s.view t)).map fun (n, ws) =>
      (n, if (s.conns t).autoCommit then s.publish t ws else s.enqueue t ws)
  else none

/-- A statement that is executed has found its rows free. -/
theorem executeUpdate_eq_some {key : String → κ} {s s' : DbServer τ κ} {t : τ}
    {stmt : Statement} {n : ℕ} (h : s.executeUpdate key t stmt = some (n, s')) :
    ∃ ws, stmt.effect key (s.view t) = some (n, ws) ∧
      (∀ x ∈ stmt.rows key (s.view t), s.locks x = none ∨ s.locks x = some t) ∧
      s' = if (s.conns t).autoCommit then s.publish t ws else s.enqueue t ws := by
  unfold executeUpdate at h
  split at h
  · next hfree =>
    obtain ⟨⟨m, ws⟩, heffect, heq⟩ := Option.map_eq_some_iff.mp h
    obtain ⟨rfl, rfl⟩ := Prod.mk.inj heq
    refine ⟨ws, heffect, fun x hx => ?_, rfl⟩
    exact of_decide_eq_true (List.all_eq_true.mp hfree x hx)
  · cases h

omit [DecidableEq κ] in
/-- A statement writes only rows that it locks. -/
theorem row_mem_rows {key : String → κ} {db : Tables κ} {stmt : Statement} {n : ℕ}
    {ws : List (Write κ)} (h : stmt.effect key db = some (n, ws)) :
    ∀ w ∈ ws, ∀ x, w.row? = some x → x ∈ stmt.rows key db := by
  intro w hw x hx
  cases stmt with
  | acceptOrder orderId =>
    simp only [Statement.effect] at h
    split at h
    · split at h
      · obtain ⟨-, rfl⟩ := Prod.mk.inj (Option.some.inj h)
        obtain rfl := List.mem_singleton.mp hw
        obtain rfl := Option.some.inj hx
        exact .head _
      · obtain ⟨-, rfl⟩ := Prod.mk.inj (Option.some.inj h)
        cases hw
    · obtain ⟨-, rfl⟩ := Prod.mk.inj (Option.some.inj h)
      cases hw
  | addSales orderId =>
    simp only [Statement.effect] at h
    split at h
    · next row hrow =>
      split at h
      · obtain ⟨-, rfl⟩ := Prod.mk.inj (Option.some.inj h)
        obtain rfl := List.mem_singleton.mp hw
        obtain rfl := Option.some.inj hx
        rw [Statement.rows, hrow]
        exact .tail _ (.head _)
      · obtain ⟨-, rfl⟩ := Prod.mk.inj (Option.some.inj h)
        cases hw
    · obtain ⟨-, rfl⟩ := Prod.mk.inj (Option.some.inj h)
      cases hw
  | setOrderStatus orderId m =>
    simp only [Statement.effect] at h
    split at h
    · obtain ⟨-, rfl⟩ := Prod.mk.inj (Option.some.inj h)
      obtain rfl := List.mem_singleton.mp hw
      obtain rfl := Option.some.inj hx
      exact .head _
    · obtain ⟨-, rfl⟩ := Prod.mk.inj (Option.some.inj h)
      cases hw
  | insertOrder orderId row =>
    simp only [Statement.effect] at h
    split at h
    · cases h
    · obtain ⟨-, rfl⟩ := Prod.mk.inj (Option.some.inj h)
      obtain rfl := List.mem_singleton.mp hw
      obtain rfl := Option.some.inj hx
      exact .head _
  | insertDetail row =>
    obtain ⟨-, rfl⟩ := Prod.mk.inj (Option.some.inj h)
    obtain rfl := List.mem_singleton.mp hw
    cases hx

end DbServer

end ItsBedalyo
