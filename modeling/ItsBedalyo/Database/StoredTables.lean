import ItsBedalyo.Handler.PageFaults
import ItsBedalyo.Lib.Memory
import ItsBedalyo.Lib.SqlTables

/-!
# A database with tables

`SqlServer` answers the calls of the handlers from tables, which an update changes as its text says.
A value is stored as its column has it, and any call may be refused, by a constraint or because
the connection is lost; a statement that is refused changes nothing.
-/

namespace ItsBedalyo

variable {D : Type}

/-- `=` of two cells. A number is equal to the text that writes it. -/
def Cell.equal (c : Sql.Collation) : Cell D → Cell D → Bool
  | string s, string t => c.same s t
  | int n, int m => n == m
  | int n, string t | string t, int n => toString n.toInt == t
  | _, _ => false

/-- A value as a cell. -/
def SqlParam.cell : SqlParam → Cell D
  | int n => .int n
  | string s => .string s
  | boolean b => .boolean b

/-- A database. `stored` is what a column of a table holds after a value has been assigned to it,
`finds` and `others` are the queries and the statements that are not updates of one table. -/
structure SqlServer (D : Type) where
  collation : Sql.Collation
  stored : String → String → SqlParam → Cell D
  refuses : DbOp D → Option SqlException
  finds : Sql.Tables (Cell D) → String → List SqlParam → List (ResultRow D)
  others : Sql.Tables (Cell D) → String → List SqlParam → ℕ × Sql.Tables (Cell D)

namespace SqlServer

variable (server : SqlServer D)

/-- The values of a change, as they are stored. -/
def values (u : Sql.Change) (params : List SqlParam) : List (Cell D) :=
  (u.columns.zip params).map fun assigned => server.stored u.table assigned.1 assigned.2

/-- What holds of the values that are given holds of what is stored. -/
theorem forall₂_stored {β : Type} {column : β → String} {given : β → SqlParam → Prop}
    {fields : List β} {params : List SqlParam} (h : List.Forall₂ given fields params)
    (table : String) (rest : List SqlParam) :
    List.Forall₂ (fun f cell => ∃ p, given f p ∧ cell = server.stored table (column f) p) fields
      (((fields.map column).zip (params ++ rest)).map fun assigned =>
        server.stored table assigned.1 assigned.2) := by
  induction h with
  | nil => exact .nil
  | cons hgiven _ ih => exact .cons ⟨_, hgiven, rfl⟩ ih

/-- The rows that have the keys. -/
def hits (u : Sql.Change) (keys : List SqlParam) (row : Sql.Row (Cell D)) : Bool :=
  (u.keys.zip keys).all fun key => (row key.1).equal server.collation key.2.cell

/-- A change, whose last values are the keys. -/
def change (u : Sql.Change) (params : List SqlParam) (db : Sql.Tables (Cell D)) :
    Sql.Tables (Cell D) :=
  u.run (server.hits u (params.drop u.columns.length)) (server.values u params) db

/-- How many rows a statement affects, and the tables afterwards. -/
def update (db : Sql.Tables (Cell D)) (query : String) (params : List SqlParam) :
    ℕ × Sql.Tables (Cell D) :=
  match Sql.Change.parse query with
  | some u =>
    ((db u.table).countP (server.hits u (params.drop u.columns.length)),
      server.change u params db)
  | none => server.others db query params

/-- What an accepted call returns, and the tables afterwards. -/
def perform [Double D] (db : Sql.Tables (Cell D)) : (o : DbOp D) → o.Res × Sql.Tables (Cell D)
  | .executeUpdate query params => server.update db query params
  | o => (readOnly (server.finds db) o, db)

/-- What comes of a call, and the tables afterwards. -/
def answer [Double D] (db : Sql.Tables (Cell D)) (o : DbOp D) :
    Except SqlException o.Res × Sql.Tables (Cell D) :=
  match server.refuses o with
  | some e => (.error e, db)
  | none => (server.perform db o).map .ok id

/-- A statement is refused, or its preparation. -/
def refused (query : String) (params : List SqlParam) : Bool :=
  (server.refuses (.prepareStatement query)).isSome ||
    (server.refuses (.executeUpdate query params)).isSome

/-- The tables after a statement. -/
def after (query : String) (params : List SqlParam) (db : Sql.Tables (Cell D)) :
    Sql.Tables (Cell D) :=
  if server.refused query params then db else (server.update db query params).2

/-- The calls of a page, whose user is `userId`. -/
def pageAnswer [Double D] (others : (o : PageOp D) → o.Res) (db : Sql.Tables (Cell D))
    (o : PageOp D) : Except Exn o.Res × Sql.Tables (Cell D) :=
  match o with
  | .db o => (server.answer db o).map (Except.mapError fun e => .sql e.what) id
  | o => (.ok (others o), db)

section Play

open Pages

variable [Double D] (others : (o : PageOp D) → o.Res) {db : Sql.Tables (Cell D)}

/-- The calls of the database are those of a page. -/
@[simp] theorem play_db {α : Type} (p : DbProg D α) :
    (Page.db p).play (server.pageAnswer others) db =
      (p.play server.answer db).map (Except.mapError fun e => .sql e.what)
        (Prod.map id (List.map PageOp.db)) := by
  induction p generalizing db with
  | ret a => rfl
  | fail e => rfl
  | call o k ih =>
    rw [Page.db, Prog.play, Prog.play]
    cases hcall : server.answer db o with
    | mk r db' =>
      have hpage : server.pageAnswer others db (.db o) =
          (r.mapError fun e => .sql e.what, db') := by
        rw [pageAnswer, hcall]
        rfl
      rw [hpage]
      cases r with
      | ok a =>
        rw [Except.mapError, ih]
        rfl
      | error e =>
        rw [Except.mapError, ih]
        rfl

variable (query : String) (params : List SqlParam) (db)

/-- A statement throws exactly if it is refused. -/
theorem play_update : ∃ r ops, (DbProg.update query params).play server.answer db =
    (r, server.after query params db, ops) ∧ r.isOk = !server.refused query params := by
  rw [DbProg.update, DbProg.prepareStatement, DbProg.executeUpdate, after, refused, Prog.play_bind,
    Prog.play_op, answer]
  cases server.refuses (.prepareStatement query) with
  | some e => exact ⟨_, _, rfl, rfl⟩
  | none =>
    have hprepared : (server.perform db (.prepareStatement query)).map Except.ok id =
        ((.ok () : Except SqlException Unit), db) := rfl
    rw [hprepared]
    dsimp only
    rw [Prog.play_op, answer]
    cases server.refuses (.executeUpdate query params) with
    | some e => exact ⟨_, _, rfl, rfl⟩
    | none => exact ⟨_, _, rfl, rfl⟩

/-- `executeUpdate` of the DAO classes answers whether the statement was accepted. -/
theorem play_executeUpdate (params : List String) : ∃ ops,
    (executeUpdate query params).play server.answer db =
      (.ok (!server.refused query (params.map .string)),
        server.after query (params.map .string) db, ops) := by
  obtain ⟨r, ops, hplay, hok⟩ := server.play_update db query (params.map .string)
  refine ⟨ops, ?_⟩
  rw [executeUpdate, DbProg.catchSql, Prog.play_tryCatch, Prog.play_bind, hplay, ← hok]
  cases r <;> simp [Except.isOk, Except.toBool]

end Play

end SqlServer

end ItsBedalyo
