import ItsBedalyo.Lib.RowLocking
import ItsBedalyo.Lib.Runs
import Mathlib.Data.Int.Notation

/-!
# What the DAO classes call

The operations of code that uses one connection: statements, queries and transactions, and
`ClientSession::sendPacket` where the code is a handler's. They are the same for every set of
tables, so the types of statements, queries and replies are parameters; `DaoSchema` says what
they mean.

Some functions catch every `std::exception`, others `sql::SQLException` only, so what is thrown
is one of the two (`Exn`). `prepareStatement`, `executeUpdate`, `executeQuery` and `commit` may
throw a `sql::SQLException`. One that throws has had no effect on the tables and has not
committed, but a statement that throws may have had its transaction rolled back by the server.
`rollback` and `setAutoCommit` succeed, and `sendPacket` lets nothing out.
-/

namespace ItsBedalyo

open RowLocking

/-- What is thrown: a `sql::SQLException` or another `std::exception`. -/
inductive Exn
  | sql (what : String)
  | std (what : String)
  deriving DecidableEq

/-- `e.what()`. -/
def Exn.what : Exn → String
  | sql what | std what => what

/-- The operations. -/
inductive DaoOp (Stmt Query Reply : Type)
  | setAutoCommit (on : Bool)
  | prepareStatement
  | executeUpdate (stmt : Stmt)
  | executeQuery (query : Query)
  | commit
  | rollback
  | sendPacket (reply : Reply)

section Code

variable {Stmt Query Reply : Type} {Answer : Query → Type} {α : Type}

/-- What an operation returns. -/
abbrev DaoOp.Res (Answer : Query → Type) : DaoOp Stmt Query Reply → Type
  | executeUpdate _ => ℕ
  | executeQuery query => Answer query
  | _ => Unit

/-- Code on one connection. -/
abbrev Dao (Stmt : Type) {Query : Type} (Answer : Query → Type) (Reply : Type) :=
  Prog (@DaoOp.Res Stmt Query Reply Answer) Exn

namespace Dao

def setAutoCommit (on : Bool) : Dao Stmt Answer Reply Unit := Prog.op (DaoOp.setAutoCommit on)

def prepareStatement : Dao Stmt Answer Reply Unit := Prog.op DaoOp.prepareStatement

def executeUpdate (stmt : Stmt) : Dao Stmt Answer Reply ℕ := Prog.op (DaoOp.executeUpdate stmt)

def executeQuery (query : Query) : Dao Stmt Answer Reply (Answer query) :=
  Prog.op (DaoOp.executeQuery query)

def commit : Dao Stmt Answer Reply Unit := Prog.op DaoOp.commit

def rollback : Dao Stmt Answer Reply Unit := Prog.op DaoOp.rollback

def sendPacket (reply : Reply) : Dao Stmt Answer Reply Unit := Prog.op (DaoOp.sendPacket reply)

/-- `catch (sql::SQLException &e)`: anything else goes through. -/
def catchSql (body : Dao Stmt Answer Reply α) (handler : String → Dao Stmt Answer Reply α) :
    Dao Stmt Answer Reply α :=
  tryCatch body fun
    | .sql what => handler what
    | .std what => throw (.std what)

/-- `catch (const std::exception &e)`. -/
def catchStd (body : Dao Stmt Answer Reply α) (handler : String → Dao Stmt Answer Reply α) :
    Dao Stmt Answer Reply α :=
  tryCatch body fun e => handler e.what

/-- The code with other replies. -/
def mapReply {Reply' : Type} (f : Reply → Reply') : Dao Stmt Answer Reply α →
    Dao Stmt Answer Reply' α
  | .ret a => .ret a
  | .fail e => .fail e
  | .call (.setAutoCommit on) k => .call (.setAutoCommit on) fun r => mapReply f (k r)
  | .call .prepareStatement k => .call .prepareStatement fun r => mapReply f (k r)
  | .call (.executeUpdate stmt) k => .call (.executeUpdate stmt) fun r => mapReply f (k r)
  | .call (.executeQuery query) k => .call (.executeQuery query) fun r => mapReply f (k r)
  | .call .commit k => .call .commit fun r => mapReply f (k r)
  | .call .rollback k => .call .rollback fun r => mapReply f (k r)
  | .call (.sendPacket reply) k => .call (.sendPacket (f reply)) fun r => mapReply f (k r)

end Dao

/-! ### Rules for the exceptions -/

section Exceptions

open Interface

variable {γ : Type*} {I : Interface (@DaoOp.Res Stmt Query Reply Answer) Exn γ} {g : γ}
  {Q : Except Exn α → γ → Prop}

@[simp] theorem Dao.wp_catchSql (body : Dao Stmt Answer Reply α)
    (handler : String → Dao Stmt Answer Reply α) :
    I.wp (Dao.catchSql body handler) Q g ↔
      I.wp body (fun r g' => match r with
        | .ok a => Q (.ok a) g'
        | .error (.sql what) => I.wp (handler what) Q g'
        | .error (.std what) => Q (.error (.std what)) g') g := by
  refine (wp_tryCatch _ _).trans (iff_of_eq (congrArg (fun R => I.wp body R g) ?_))
  funext r g'
  rcases r with (what | what) | a <;> rfl

@[simp] theorem Dao.wp_catchStd (body : Dao Stmt Answer Reply α)
    (handler : String → Dao Stmt Answer Reply α) :
    I.wp (Dao.catchStd body handler) Q g ↔
      I.wp body (fun r g' => match r with
        | .ok a => Q (.ok a) g'
        | .error e => I.wp (handler e.what) Q g') g := by
  refine (wp_tryCatch _ _).trans (iff_of_eq (congrArg (fun R => I.wp body R g) ?_))
  funext r g'
  cases r <;> rfl

end Exceptions

/-! ### What the operations do to whoever calls them -/

/-- What an operation may throw: `setAutoCommit` and `rollback` succeed, the others throw
`sql::SQLException` and nothing else, and what `sendPacket` throws is left open. -/
def DaoOp.MayThrow : DaoOp Stmt Query Reply → Exn → Prop
  | setAutoCommit _, _ => False
  | rollback, _ => False
  | sendPacket _, _ => True
  | _, .sql _ => True
  | _, .std _ => False

/-- What operations ask of the caller's local state and what they do to it when they return and
when they throw. -/
structure DaoSpec (Stmt Query Reply : Type) (Answer : Query → Type) (γ : Type*) where
  pre : γ → DaoOp Stmt Query Reply → Prop
  returns : γ → (o : DaoOp Stmt Query Reply) → o.Res Answer → γ → Prop
  throws : γ → DaoOp Stmt Query Reply → γ → Prop

/-- The answers that `sel` selects, by whether the operation has returned. -/
def DaoOp.noted (sel : DaoOp Stmt Query Reply → Bool → Bool) (o : DaoOp Stmt Query Reply) :
    Except Exn (o.Res Answer) → Bool
  | .ok _ => sel o true
  | .error _ => sel o false

namespace DaoSpec

variable {γ : Type*}

/-- The specification with a flag that goes up at a selected answer. -/
def watch (spec : DaoSpec Stmt Query Reply Answer γ) (sel : DaoOp Stmt Query Reply → Bool → Bool) :
    DaoSpec Stmt Query Reply Answer (γ × Bool) where
  pre g o := spec.pre g.1 o
  returns g o a g' := ∃ c, spec.returns g.1 o a c ∧ g' = (c, g.2 || sel o true)
  throws g o g' := ∃ c, spec.throws g.1 o c ∧ g' = (c, g.2 || sel o false)

/-- The specification with a list that says of every operation whether it has returned. -/
def traced (spec : DaoSpec Stmt Query Reply Answer γ) :
    DaoSpec Stmt Query Reply Answer (γ × List Bool) where
  pre g o := spec.pre g.1 o
  returns g o a g' := ∃ c, spec.returns g.1 o a c ∧ g' = (c, g.2 ++ [true])
  throws g o g' := ∃ c, spec.throws g.1 o c ∧ g' = (c, g.2 ++ [false])

/-- The interface that is specified. -/
def interface (spec : DaoSpec Stmt Query Reply Answer γ) :
    Interface (@DaoOp.Res Stmt Query Reply Answer) Exn γ where
  pre := spec.pre
  post c
    | o, .ok a, c' => spec.returns c o a c'
    | o, .error e, c' => o.MayThrow e ∧ spec.throws c o c'

open Interface Dao

variable {spec : DaoSpec Stmt Query Reply Answer γ} {c : γ}

theorem wp_op {o : DaoOp Stmt Query Reply} {Q : Except Exn (o.Res Answer) → γ → Prop} :
    spec.interface.wp (Prog.op o) Q c ↔
      spec.pre c o ∧ (∀ a c', spec.returns c o a c' → Q (.ok a) c') ∧
        ∀ e, o.MayThrow e → ∀ c', spec.throws c o c' → Q (.error e) c' := by
  refine Interface.wp_op.trans (and_congr_right fun _ => ⟨fun h => ?_, ?_⟩)
  · exact ⟨fun a c' => h (.ok a) c', fun e he c' hthrows => h (.error e) c' ⟨he, hthrows⟩⟩
  · rintro ⟨hok, herror⟩ (e | a) c' hpost
    · exact herror e hpost.1 c' hpost.2
    · exact hok a c' hpost

/-- An operation that throws nothing but `sql::SQLException`. -/
theorem wp_op_sql {o : DaoOp Stmt Query Reply} (ho : ∀ e, o.MayThrow e ↔ ∃ what, e = .sql what)
    {Q : Except Exn (o.Res Answer) → γ → Prop} :
    spec.interface.wp (Prog.op o) Q c ↔
      spec.pre c o ∧ (∀ a c', spec.returns c o a c' → Q (.ok a) c') ∧
        ∀ what c', spec.throws c o c' → Q (.error (.sql what)) c' := by
  refine wp_op.trans (and_congr_right fun _ => and_congr_right fun _ => ⟨fun h what => ?_, ?_⟩)
  · exact h _ ((ho _).mpr ⟨what, rfl⟩)
  · intro h e he
    obtain ⟨what, rfl⟩ := (ho e).mp he
    exact h what

@[simp] theorem wp_setAutoCommit {on : Bool} {Q : Except Exn Unit → γ → Prop} :
    spec.interface.wp (setAutoCommit on) Q c ↔ spec.pre c (.setAutoCommit on) ∧
      ∀ c', spec.returns c (.setAutoCommit on) () c' → Q (.ok ()) c' :=
  wp_op.trans (and_congr_right' ⟨fun h => h.1 (), fun h => ⟨fun _ => h, fun _ => False.elim⟩⟩)

@[simp] theorem wp_rollback {Q : Except Exn Unit → γ → Prop} :
    spec.interface.wp rollback Q c ↔ spec.pre c .rollback ∧
      ∀ c', spec.returns c .rollback () c' → Q (.ok ()) c' :=
  wp_op.trans (and_congr_right' ⟨fun h => h.1 (), fun h => ⟨fun _ => h, fun _ => False.elim⟩⟩)

@[simp] theorem wp_sendPacket {reply : Reply} {Q : Except Exn Unit → γ → Prop} :
    spec.interface.wp (sendPacket reply) Q c ↔ spec.pre c (.sendPacket reply) ∧
      (∀ c', spec.returns c (.sendPacket reply) () c' → Q (.ok ()) c') ∧
        ∀ e c', spec.throws c (.sendPacket reply) c' → Q (.error e) c' :=
  wp_op.trans (and_congr_right' ⟨fun h => ⟨h.1 (), fun e => h.2 e trivial⟩,
    fun h => ⟨fun _ => h.1, fun e _ => h.2 e⟩⟩)

@[simp] theorem wp_prepareStatement {Q : Except Exn Unit → γ → Prop} :
    spec.interface.wp prepareStatement Q c ↔ spec.pre c .prepareStatement ∧
      (∀ c', spec.returns c .prepareStatement () c' → Q (.ok ()) c') ∧
        ∀ what c', spec.throws c .prepareStatement c' → Q (.error (.sql what)) c' := by
  refine (wp_op_sql fun e => ?_).trans
    (and_congr_right' (and_congr_left' ⟨fun h => h (), fun h _ => h⟩))
  cases e <;> simp [DaoOp.MayThrow]

@[simp] theorem wp_commit {Q : Except Exn Unit → γ → Prop} :
    spec.interface.wp commit Q c ↔ spec.pre c .commit ∧
      (∀ c', spec.returns c .commit () c' → Q (.ok ()) c') ∧
        ∀ what c', spec.throws c .commit c' → Q (.error (.sql what)) c' := by
  refine (wp_op_sql fun e => ?_).trans
    (and_congr_right' (and_congr_left' ⟨fun h => h (), fun h _ => h⟩))
  cases e <;> simp [DaoOp.MayThrow]

@[simp] theorem wp_executeUpdate {stmt : Stmt} {Q : Except Exn ℕ → γ → Prop} :
    spec.interface.wp (executeUpdate stmt) Q c ↔ spec.pre c (.executeUpdate stmt) ∧
      (∀ (n : ℕ) c', spec.returns c (.executeUpdate stmt) n c' → Q (.ok n) c') ∧
        ∀ what c', spec.throws c (.executeUpdate stmt) c' → Q (.error (.sql what)) c' := by
  refine wp_op_sql fun e => ?_
  cases e <;> simp [DaoOp.MayThrow]

@[simp] theorem wp_executeQuery {query : Query} {Q : Except Exn (Answer query) → γ → Prop} :
    spec.interface.wp (executeQuery query) Q c ↔ spec.pre c (.executeQuery query) ∧
      (∀ (a : Answer query) c', spec.returns c (.executeQuery query) a c' → Q (.ok a) c') ∧
        ∀ what c', spec.throws c (.executeQuery query) c' → Q (.error (.sql what)) c' := by
  refine wp_op_sql fun e => ?_
  cases e <;> simp [DaoOp.MayThrow]

end DaoSpec

end Code

/-! ### What the operations do -/

/-- The tables behind a DAO class: how statements write them and what queries find. An `INSERT`
into a table with `AUTO_INCREMENT` gets its number from the environment; the connection
remembers it for `LAST_INSERT_ID()`. -/
structure DaoSchema (Db Write Row : Type*) (Stmt : Type) {Query : Type} (Answer : Query → Type)
    where
  storage : Storage Db Write Row
  statement : Stmt → ℤ → RowLocking.Statement storage
  numbers : Stmt → Bool
  answer : Db → ℤ → (query : Query) → Answer query

/-- What the environment of a call answers: success, with the next `AUTO_INCREMENT` value where
one is needed, an exception, or an exception of a statement whose transaction was rolled
back. -/
inductive DaoEnv
  | ok
  | next (id : ℤ)
  | fault (what : String)
  | deadlock (what : String)
  deriving DecidableEq

/-- An operation that is answered so does not throw. -/
def DaoEnv.returns : DaoEnv → Bool
  | ok | next _ => true
  | fault _ | deadlock _ => false

/-- The database server, `LAST_INSERT_ID()` of every connection, and the replies sent. -/
structure DaoWorld (τ Db Write Row : Type*) (Reply : Type) where
  server : Server τ Db Write Row
  lastInsertId : τ → ℤ
  sent : List (τ × Reply)

section Semantics

variable {τ Db Write Row : Type*} {Stmt Query Reply : Type} {Answer : Query → Type}

/-- The world before the first call: every connection fresh from the pool. -/
def DaoWorld.init (db : Db) : DaoWorld τ Db Write Row Reply :=
  ⟨.init db, fun _ => 0, []⟩

variable [DecidableEq τ] [DecidableEq Row] (schema : DaoSchema Db Write Row Stmt Answer)

namespace DaoSchema

/-- An operation of call `t`: its result and the world afterwards, `none` when it has to wait
or the environment cannot answer so. -/
def exec (t : τ) : (o : DaoOp Stmt Query Reply) → DaoEnv → DaoWorld τ Db Write Row Reply →
    Option (Except Exn (o.Res Answer) × DaoWorld τ Db Write Row Reply)
  | .setAutoCommit on, .ok, w =>
    some (.ok (), { w with server := w.server.setAutoCommit schema.storage t on })
  | .prepareStatement, .ok, w => some (.ok (), w)
  | .prepareStatement, .fault what, w => some (.error (.sql what), w)
  | .executeUpdate stmt, .next id, w =>
    (w.server.execute schema.storage t (schema.statement stmt id)).map fun (n, server) =>
      (.ok n, { w with
        server := server
        lastInsertId :=
          if schema.numbers stmt then Function.update w.lastInsertId t id else w.lastInsertId })
  | .executeUpdate _, .fault what, w => some (.error (.sql what), w)
  | .executeUpdate _, .deadlock what, w =>
    some (.error (.sql what), { w with server := w.server.rollback t })
  | .executeQuery query, .ok, w =>
    some (.ok (schema.answer (w.server.view schema.storage t) (w.lastInsertId t) query), w)
  | .executeQuery _, .fault what, w => some (.error (.sql what), w)
  | .commit, .ok, w => some (.ok (), { w with server := w.server.commit schema.storage t })
  | .commit, .fault what, w => some (.error (.sql what), w)
  | .rollback, .ok, w => some (.ok (), { w with server := w.server.rollback t })
  | .sendPacket reply, .ok, w => some (.ok (), { w with sent := w.sent ++ [(t, reply)] })
  | _, _, _ => none

variable {schema} {t t' : τ} {w w' : DaoWorld τ Db Write Row Reply} {o : DaoOp Stmt Query Reply}
  {e : DaoEnv} {r : Except Exn (o.Res Answer)}

/-- **Frame rule.** An operation of another call leaves alone what a connection relies on. -/
theorem holds_exec {conn : RowLocking.Connection Write} {P : Db → Prop}
    (h : Holds schema.storage w.server t' conn P) (hstable : Stable schema.storage conn.pending P)
    (ht : t' ≠ t)
    (hlocked : ∀ u ∈ (w.server.conns t).pending, ∀ x, schema.storage.row? u = some x →
      w.server.locks x = some t)
    (he : schema.exec t o e w = some (r, w')) :
    Holds schema.storage w'.server t' conn P := by
  cases o with
  | setAutoCommit on =>
    cases e <;> cases he
    exact h.setAutoCommit hstable ht hlocked on
  | executeUpdate stmt =>
    cases e with
    | ok => cases he
    | next id =>
      obtain ⟨⟨n, server⟩, hs, heq⟩ := Option.map_eq_some_iff.mp he
      cases heq
      obtain ⟨ws, -, hfree, rfl⟩ := Server.execute_eq_some hs
      cases (w.server.conns t).autoCommit with
      | true => exact h.publish hstable ht hfree
      | false => exact h.enqueue ht hfree
    | fault what =>
      cases he
      exact h
    | deadlock what =>
      cases he
      exact h.rollback ht
  | commit =>
    cases e <;> cases he
    · exact h.commit hstable ht hlocked
    · exact h
  | rollback =>
    cases e <;> cases he
    exact h.rollback ht
  | prepareStatement | executeQuery | sendPacket =>
    cases e <;> cases he
    all_goals exact h

/-- Only the environment makes an operation throw. -/
theorem exec_error {err : Exn} (he : schema.exec t o e w = some (.error err, w')) :
    ∃ what, e = .fault what ∨ e = .deadlock what := by
  cases e with
  | ok =>
    cases o <;> cases he
  | next id =>
    cases o with
    | executeUpdate stmt =>
      obtain ⟨_, -, heq⟩ := Option.map_eq_some_iff.mp he
      cases heq
    | _ => cases he
  | fault what => exact ⟨what, .inl rfl⟩
  | deadlock what => exact ⟨what, .inr rfl⟩

/-- An operation throws what it may throw. -/
theorem mayThrow_of_exec {err : Exn} (he : schema.exec t o e w = some (.error err, w')) :
    o.MayThrow err := by
  cases o with
  | executeUpdate stmt =>
    cases e with
    | ok => cases he
    | next id =>
      obtain ⟨_, -, heq⟩ := Option.map_eq_some_iff.mp he
      cases heq
    | fault what | deadlock what =>
      cases he
      trivial
  | setAutoCommit | prepareStatement | executeQuery | commit | rollback | sendPacket =>
    cases e <;> cases he
    all_goals trivial

/-- Whether an operation returns is what the environment says. -/
theorem returns_of_exec (he : schema.exec t o e w = some (r, w')) :
    e.returns = DaoOp.noted (fun _ returned => returned) o r := by
  cases r with
  | error err =>
    obtain ⟨what, rfl | rfl⟩ := exec_error he <;> rfl
  | ok a =>
    cases e with
    | ok | next => rfl
    | fault what | deadlock what => cases o <;> cases he

/-- An operation leaves the mode and the writes of other connections alone. -/
theorem exec_conns_of_ne (ht : t' ≠ t) (he : schema.exec t o e w = some (r, w')) :
    w'.server.conns t' = w.server.conns t' := by
  cases o with
  | setAutoCommit on =>
    cases e <;> cases he
    cases on with
    | true => exact (Function.update_of_ne ht ..).trans (Function.update_of_ne ht ..)
    | false => exact Function.update_of_ne ht ..
  | executeUpdate stmt =>
    cases e with
    | ok => cases he
    | next id =>
      obtain ⟨⟨n, server⟩, hs, heq⟩ := Option.map_eq_some_iff.mp he
      cases heq
      obtain ⟨ws, -, -, rfl⟩ := Server.execute_eq_some hs
      cases (w.server.conns t).autoCommit with
      | true => rfl
      | false => exact Function.update_of_ne ht ..
    | fault what =>
      cases he
      rfl
    | deadlock what =>
      cases he
      exact Function.update_of_ne ht ..
  | commit =>
    cases e <;> cases he
    · exact Function.update_of_ne ht ..
    · rfl
  | rollback =>
    cases e <;> cases he
    exact Function.update_of_ne ht ..
  | prepareStatement | executeQuery | sendPacket =>
    cases e <;> cases he
    all_goals rfl

/-- An operation leaves `LAST_INSERT_ID()` of other connections alone. -/
theorem exec_lastInsertId_of_ne (ht : t' ≠ t) (he : schema.exec t o e w = some (r, w')) :
    w'.lastInsertId t' = w.lastInsertId t' := by
  cases o with
  | executeUpdate stmt =>
    cases e with
    | ok => cases he
    | next id =>
      obtain ⟨⟨n, server⟩, hs, heq⟩ := Option.map_eq_some_iff.mp he
      cases heq
      cases hnumbers : schema.numbers stmt with
      | true => exact Function.update_of_ne ht ..
      | false => rfl
    | fault what | deadlock what =>
      cases he
      rfl
  | setAutoCommit | prepareStatement | executeQuery | commit | rollback | sendPacket =>
    cases e <;> cases he
    all_goals rfl

/-- What an operation publishes. -/
inductive Publishes (schema : DaoSchema Db Write Row Stmt Answer) (t : τ)
    (server : Server τ Db Write Row) : DaoOp Stmt Query Reply → DaoEnv → List Write → Prop
  | nothing {o : DaoOp Stmt Query Reply} {e : DaoEnv} : Publishes schema t server o e []
  | statement {stmt : Stmt} {id : ℤ} {n : ℕ} {ws : List Write} :
      (server.conns t).autoCommit = true →
      (schema.statement stmt id).effect (server.view schema.storage t) = some (n, ws) →
      Publishes schema t server (.executeUpdate stmt) (.next id) ws
  | commit : Publishes schema t server .commit .ok (server.conns t).pending
  | setAutoCommit : Publishes schema t server (.setAutoCommit true) .ok (server.conns t).pending

/-- The store changes by what is published, and the log says so. -/
theorem exec_publishes (he : schema.exec t o e w = some (r, w')) :
    ∃ ws, Publishes schema t w.server o e ws ∧
      w'.server.tables = schema.storage.writes w.server.tables ws ∧
      w'.server.log = w.server.log ++ ws.map fun u => (t, u) := by
  cases o with
  | setAutoCommit on =>
    cases e <;> cases he
    cases on with
    | true => exact ⟨_, .setAutoCommit, rfl, rfl⟩
    | false => exact ⟨[], .nothing, rfl, (List.append_nil _).symm⟩
  | executeUpdate stmt =>
    cases e with
    | ok => cases he
    | next id =>
      obtain ⟨⟨n, server⟩, hs, heq⟩ := Option.map_eq_some_iff.mp he
      cases heq
      obtain ⟨ws, heffect, -, rfl⟩ := Server.execute_eq_some hs
      cases hmode : (w.server.conns t).autoCommit with
      | true => exact ⟨ws, .statement hmode heffect, rfl, rfl⟩
      | false => exact ⟨[], .nothing, rfl, (List.append_nil _).symm⟩
    | fault what | deadlock what =>
      cases he
      exact ⟨[], .nothing, rfl, (List.append_nil _).symm⟩
  | commit =>
    cases e <;> cases he
    · exact ⟨_, .commit, rfl, rfl⟩
    · exact ⟨[], .nothing, rfl, (List.append_nil _).symm⟩
  | prepareStatement | executeQuery | rollback | sendPacket =>
    cases e <;> cases he
    all_goals exact ⟨[], .nothing, rfl, (List.append_nil _).symm⟩

/-- What is pending after an operation was pending before, or is a write of the statement. -/
theorem exec_pending (he : schema.exec t o e w = some (r, w')) :
    ∀ u ∈ (w'.server.conns t).pending, u ∈ (w.server.conns t).pending ∨
      ∃ stmt id n ws, o = .executeUpdate stmt ∧
        (schema.statement stmt id).effect (w.server.view schema.storage t) = some (n, ws) ∧
        u ∈ ws := by
  intro u hu
  cases o with
  | setAutoCommit on =>
    cases e <;> cases he
    rw [Server.setAutoCommit_conns_self] at hu
    cases on with
    | true => cases hu
    | false => exact .inl hu
  | executeUpdate stmt =>
    cases e with
    | ok => cases he
    | next id =>
      obtain ⟨⟨n, server⟩, hs, heq⟩ := Option.map_eq_some_iff.mp he
      cases heq
      obtain ⟨ws, heffect, -, rfl⟩ := Server.execute_eq_some hs
      cases hmode : (w.server.conns t).autoCommit with
      -- published at once, so nothing is added
      | true =>
        rw [hmode, if_pos rfl] at hu
        exact .inl hu
      | false =>
        rw [hmode, if_neg Bool.false_ne_true, Server.enqueue_conns_self] at hu
        exact (List.mem_append.mp hu).imp_right fun hws => ⟨stmt, id, n, ws, rfl, heffect, hws⟩
    -- the connection stays as it was
    | fault what =>
      cases he
      exact .inl hu
    | deadlock what =>
      cases he
      rw [Server.rollback_conns_self] at hu
      cases hu
  | commit =>
    cases e <;> cases he
    · rw [Server.commit_conns_self] at hu
      cases hu
    · exact .inl hu
  | rollback =>
    cases e <;> cases he
    rw [Server.rollback_conns_self] at hu
    cases hu
  | prepareStatement | executeQuery | sendPacket =>
    cases e <;> cases he
    all_goals exact .inl hu

/-- The replies sent so far stay, and a reply is one of `sendPacket`. -/
theorem exec_sent (he : schema.exec t o e w = some (r, w')) :
    w'.sent = w.sent ∨ ∃ reply, o = .sendPacket reply ∧ w'.sent = w.sent ++ [(t, reply)] := by
  cases o with
  | sendPacket reply =>
    cases e <;> cases he
    exact .inr ⟨reply, rfl, rfl⟩
  | executeUpdate stmt =>
    cases e with
    | next id =>
      obtain ⟨_, -, heq⟩ := Option.map_eq_some_iff.mp he
      cases heq
      exact .inl rfl
    | ok | fault | deadlock =>
      cases he
      all_goals exact .inl rfl
  | setAutoCommit | prepareStatement | executeQuery | commit | rollback =>
    cases e <;> cases he
    all_goals exact .inl rfl

end DaoSchema

end Semantics

/-! ### A call alone -/

/-- What a call that nobody disturbs sees: its session, `LAST_INSERT_ID()` and its replies. -/
structure DaoState (Db : Type*) (Reply : Type) where
  session : Session Db
  lastInsertId : ℤ
  sent : List Reply

section Solo

variable {Db Write Row : Type*} {Stmt Query Reply : Type} {Answer : Query → Type} {α : Type}

/-- A call on a connection fresh from the pool. -/
def DaoState.fresh (db : Db) : DaoState Db Reply := ⟨.fresh db, 0, []⟩

namespace DaoSchema

variable (schema : DaoSchema Db Write Row Stmt Answer)

/-- The state after a statement that has made the writes `ws`. -/
def executed (c : DaoState Db Reply) (stmt : Stmt) (id : ℤ) (ws : List Write) :
    DaoState Db Reply :=
  { c with
    session := c.session.execute (schema.storage.writes c.session.working ws)
    lastInsertId := if schema.numbers stmt then id else c.lastInsertId }

/-- What the operations do to a call that nobody disturbs. -/
def aloneSpec : DaoSpec Stmt Query Reply Answer (DaoState Db Reply) where
  pre _ _ := True
  returns c
    | .setAutoCommit on, _, c' => c' = { c with session := c.session.setAutoCommit on }
    | .prepareStatement, _, c' => c' = c
    | .executeUpdate stmt, n, c' =>
      ∃ id ws, (schema.statement stmt id).effect c.session.working = some (n, ws) ∧
        c' = schema.executed c stmt id ws
    | .executeQuery query, a, c' =>
      a = schema.answer c.session.working c.lastInsertId query ∧ c' = c
    | .commit, _, c' => c' = { c with session := c.session.commit }
    | .rollback, _, c' => c' = { c with session := c.session.rollback }
    | .sendPacket reply, _, c' => c' = { c with sent := c.sent ++ [reply] }
  throws c
    | .executeUpdate _, c' => c' = c ∨ c' = { c with session := c.session.rollback }
    | .sendPacket _, _ => False
    | _, c' => c' = c

/-- The interface of a call that nobody disturbs. -/
abbrev alone : Interface (@DaoOp.Res Stmt Query Reply Answer) Exn (DaoState Db Reply) :=
  schema.aloneSpec.interface

/-- The world of the only call as that call sees it. -/
structure Sees (w : DaoWorld Unit Db Write Row Reply) (c : DaoState Db Reply) : Prop where
  session : Alone schema.storage w.server c.session
  lastInsertId : w.lastInsertId () = c.lastInsertId
  sent : w.sent = c.sent.map fun reply => ((), reply)

theorem sees_init (db : Db) :
    Sees schema (.init db : DaoWorld Unit Db Write Row Reply) (.fresh db) :=
  ⟨.init db, rfl, rfl⟩

/-- Every operation does to the world what it does to the call. -/
theorem sees_exec [DecidableEq Row] {w w' : DaoWorld Unit Db Write Row Reply}
    {c : DaoState Db Reply} (h : Sees schema w c) {o : DaoOp Stmt Query Reply} {e : DaoEnv}
    {r : Except Exn (o.Res Answer)} (he : schema.exec () o e w = some (r, w')) :
    ∃ c', schema.alone.post c o r c' ∧ Sees schema w' c' := by
  obtain ⟨hsession, hid, hsent⟩ := h
  cases o with
  | setAutoCommit on =>
    cases e <;> cases he
    exact ⟨_, rfl, hsession.setAutoCommit on, hid, hsent⟩
  | prepareStatement =>
    cases e <;> cases he
    · exact ⟨_, rfl, hsession, hid, hsent⟩
    · exact ⟨_, ⟨trivial, rfl⟩, hsession, hid, hsent⟩
  | executeUpdate stmt =>
    cases e with
    | ok => cases he
    | next id =>
      obtain ⟨⟨n, server⟩, hs, heq⟩ := Option.map_eq_some_iff.mp he
      cases heq
      obtain ⟨ws, heffect, halone⟩ := hsession.execute hs
      refine ⟨_, ⟨id, ws, heffect, rfl⟩, halone, ?_, hsent⟩
      simp only [executed]
      split
      · exact Function.update_self ..
      · exact hid
    | fault what =>
      cases he
      exact ⟨_, ⟨trivial, .inl rfl⟩, hsession, hid, hsent⟩
    | deadlock what =>
      cases he
      exact ⟨_, ⟨trivial, .inr rfl⟩, hsession.rollback, hid, hsent⟩
  | executeQuery query =>
    cases e <;> cases he
    · refine ⟨_, ⟨?_, rfl⟩, hsession, hid, hsent⟩
      rw [hsession.working, hid]
    · exact ⟨_, ⟨trivial, rfl⟩, hsession, hid, hsent⟩
  | commit =>
    cases e <;> cases he
    · exact ⟨_, rfl, hsession.commit, hid, hsent⟩
    · exact ⟨_, ⟨trivial, rfl⟩, hsession, hid, hsent⟩
  | rollback =>
    cases e <;> cases he
    exact ⟨_, rfl, hsession.rollback, hid, hsent⟩
  | sendPacket reply =>
    cases e <;> cases he
    refine ⟨_, rfl, hsession, hid, ?_⟩
    simp [hsent]

/-- **A call alone**, with a flag for answers that have been seen. -/
theorem run_alone_watch [DecidableEq Row] (sel : DaoOp Stmt Query Reply → Bool → Bool)
    {p : Dao Stmt Answer Reply α} {es : List DaoEnv} {db : Db}
    {Q : Except Exn α → DaoState Db Reply × Bool → Prop} {w : DaoWorld Unit Db Write Row Reply}
    {r : Except Exn α} (h : (schema.aloneSpec.watch sel).interface.wp p Q (.fresh db, false))
    (hr : p.run (schema.exec ()) es (.init db) = some (r, w)) :
    ∃ c, Sees schema w c ∧ Q r (c, p.saw (schema.exec ()) (DaoOp.noted sel) es (.init db)) := by
  have hwp : ((Interface.ofExec (schema.exec ())).watch (DaoOp.noted sel)).wp p
      (fun r g => ∃ c, (Sees schema g.1 c.1 ∧ g.2 = c.2) ∧ Q r c) (.init db, false) := by
    refine Interface.wp_simulate
      (R := fun (g : DaoWorld Unit Db Write Row Reply × Bool) (c : DaoState Db Reply × Bool) =>
        Sees schema g.1 c.1 ∧ g.2 = c.2)
      (fun _ _ _ _ _ => trivial) ?_ ⟨schema.sees_init db, rfl⟩ h
    rintro ⟨w, b⟩ ⟨c, b'⟩ o r ⟨w', b₁⟩ ⟨hsees, hb⟩ ⟨⟨e, he⟩, hb₁⟩
    obtain rfl : b = b' := hb
    obtain ⟨c', hpost, hsees'⟩ := schema.sees_exec hsees he
    cases r with
    | ok a => exact ⟨(c', b || sel o true), ⟨c', hpost, rfl⟩, hsees', hb₁⟩
    | error err =>
      exact ⟨(c', b || sel o false), ⟨hpost.1, c', hpost.2, rfl⟩, hsees', hb₁⟩
  obtain ⟨⟨c, b⟩, ⟨hsees, hb⟩, hQ⟩ := Interface.run_watch hwp hr
  refine ⟨c, hsees, ?_⟩
  have hb' : p.saw (schema.exec ()) (DaoOp.noted sel) es (.init db) = b :=
    (Bool.false_or _).symm.trans hb
  rwa [hb']

/-- **A call alone.** What the `wp` of `alone` says of a call holds of every run of it by
itself. -/
theorem run_alone [DecidableEq Row] {p : Dao Stmt Answer Reply α} {es : List DaoEnv} {db : Db}
    {Q : Except Exn α → DaoState Db Reply → Prop} {w : DaoWorld Unit Db Write Row Reply}
    {r : Except Exn α} (h : schema.alone.wp p Q (.fresh db))
    (hr : p.run (schema.exec ()) es (.init db) = some (r, w)) :
    ∃ c, Sees schema w c ∧ Q r c := by
  have hwp : (Interface.ofExec (schema.exec ())).wp p (fun r w => ∃ c, Sees schema w c ∧ Q r c)
      (.init db) := by
    refine Interface.wp_simulate (R := Sees schema) (fun _ _ _ _ _ => trivial) ?_
      (schema.sees_init db) h
    rintro w c o r w' hsees ⟨e, he⟩
    exact schema.sees_exec hsees he
  exact Interface.run_wp hwp hr

/-- **A call alone**, with the list of what has returned. -/
theorem run_alone_traced [DecidableEq Row] {p : Dao Stmt Answer Reply α} {es : List DaoEnv}
    {db : Db} {Q : Except Exn α → DaoState Db Reply × List Bool → Prop}
    {w : DaoWorld Unit Db Write Row Reply} {r : Except Exn α}
    (h : schema.aloneSpec.traced.interface.wp p Q (.fresh db, []))
    (hr : p.run (schema.exec ()) es (.init db) = some (r, w)) :
    ∃ c, Sees schema w c ∧ Q r (c, es.map DaoEnv.returns) := by
  have hwp : (Interface.recorded (schema.exec ())).wp p
      (fun r g => ∃ c, (Sees schema g.1 c.1 ∧ c.2 = g.2.map DaoEnv.returns) ∧ Q r c)
      (.init db, []) := by
    refine Interface.wp_simulate
      (R := fun (g : DaoWorld Unit Db Write Row Reply × List DaoEnv)
        (c : DaoState Db Reply × List Bool) => Sees schema g.1 c.1 ∧ c.2 = g.2.map DaoEnv.returns)
      (fun _ _ _ _ _ => trivial) ?_ ⟨schema.sees_init db, rfl⟩ h
    rintro ⟨w, es⟩ ⟨c, returned⟩ o r ⟨w', es'⟩ ⟨hsees, rfl⟩ ⟨e, he, rfl⟩
    obtain ⟨c', hpost, hsees'⟩ := schema.sees_exec hsees he
    have hreturns := returns_of_exec he
    cases r with
    | ok a =>
      refine ⟨(c', es.map DaoEnv.returns ++ [true]), ⟨c', hpost, rfl⟩, hsees', ?_⟩
      rw [List.map_append, List.map_singleton, hreturns]
      rfl
    | error err =>
      refine ⟨(c', es.map DaoEnv.returns ++ [false]), ⟨hpost.1, c', hpost.2, rfl⟩, hsees', ?_⟩
      rw [List.map_append, List.map_singleton, hreturns]
      rfl
  obtain ⟨⟨c, returned⟩, ⟨hsees, rfl⟩, hQ⟩ := Interface.run_recorded hwp hr
  exact ⟨c, hsees, hQ⟩

end DaoSchema

end Solo

end ItsBedalyo
