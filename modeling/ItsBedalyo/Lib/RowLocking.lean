import Mathlib.Data.List.Basic
import Mathlib.Logic.Function.Basic

/-!
# Transactions with row locks

A store is changed by *writes*, each the new image of at most one lockable row
(`Storage`). A statement looks at the store, names the rows it has to lock and answers with the
writes it makes; that it writes no other rows is part of it (`Statement.covers`).

`Server` runs the statements of any number of connections. With autocommit on, a statement's
writes are published at once; with autocommit off they stay with the connection, which sees
them on top of the store, and their rows are locked until `commit` publishes or `rollback`
drops them. A statement waits while somebody else has locked one of its rows. Switching
autocommit on commits. `log` is history: every write that was published, and by whom.

`Holds` is what a connection may rely on: the mode and writes of its transaction, the locks on
their rows, and any property of the store that only writes to those rows can break (`Stable`).
The moves of other connections keep it. `Session` is what all this comes to for a connection
that nobody disturbs: a committed and a working copy of the store (`Alone`).
-/

namespace RowLocking

/-- How a store is written, and which row a write replaces, if it is one that can be locked. -/
structure Storage (Db Write Row : Type*) where
  write : Db → Write → Db
  row? : Write → Option Row

variable {Db Write Row : Type*}

/-- The store after a list of writes. -/
def Storage.writes (S : Storage Db Write Row) (db : Db) (ws : List Write) : Db :=
  ws.foldl S.write db

/-- A statement: the rows it has to lock, and the row count and writes it answers with, `none`
when the store can only refuse it. -/
structure Statement (S : Storage Db Write Row) where
  rows : Db → List Row
  effect : Db → Option (ℕ × List Write)
  covers : ∀ db n ws, effect db = some (n, ws) → ∀ u ∈ ws, ∀ x, S.row? u = some x → x ∈ rows db

/-- A connection: its autocommit mode, and the writes of its open transaction. -/
structure Connection (Write : Type*) where
  autoCommit : Bool
  pending : List Write

/-- The server; connections are named by who holds them. -/
structure Server (τ Db Write Row : Type*) where
  tables : Db
  conns : τ → Connection Write
  locks : Row → Option τ
  log : List (τ × Write)

namespace Storage

variable (S : Storage Db Write Row)

@[simp] theorem writes_nil (db : Db) : S.writes db [] = db := rfl

@[simp] theorem writes_cons (db : Db) (u : Write) (ws : List Write) :
    S.writes db (u :: ws) = S.writes (S.write db u) ws := rfl

theorem writes_append (db : Db) (ws ws' : List Write) :
    S.writes db (ws ++ ws') = S.writes (S.writes db ws) ws' :=
  List.foldl_append

end Storage

namespace Server

variable {τ : Type*}

/-- The server before the first statement: every connection in autocommit mode. -/
def init (tables : Db) : Server τ Db Write Row :=
  ⟨tables, fun _ => ⟨true, []⟩, fun _ => none, []⟩

variable (S : Storage Db Write Row)

/-- The store as a statement of `t` finds it. -/
def view (s : Server τ Db Write Row) (t : τ) : Db :=
  S.writes s.tables (s.conns t).pending

/-- Make writes of `t` visible to everyone. -/
def publish (s : Server τ Db Write Row) (t : τ) (ws : List Write) : Server τ Db Write Row :=
  { s with tables := S.writes s.tables ws, log := s.log ++ ws.map fun u => (t, u) }

variable [DecidableEq τ] [DecidableEq Row]

/-- `t` does not have to wait for a row. -/
def free (s : Server τ Db Write Row) (t : τ) (x : Row) : Bool :=
  s.locks x = none ∨ s.locks x = some t

/-- Keep writes of `t` in its transaction and lock their rows. -/
def enqueue (s : Server τ Db Write Row) (t : τ) (ws : List Write) : Server τ Db Write Row :=
  { s with
    conns := Function.update s.conns t ⟨(s.conns t).autoCommit, (s.conns t).pending ++ ws⟩
    locks := fun x => if x ∈ ws.filterMap S.row? then some t else s.locks x }

omit [DecidableEq Row] in
/-- `rollback()`: forget the open transaction's writes and release its locks. -/
def rollback (s : Server τ Db Write Row) (t : τ) : Server τ Db Write Row :=
  { s with
    conns := Function.update s.conns t ⟨(s.conns t).autoCommit, []⟩
    locks := fun x => if s.locks x = some t then none else s.locks x }

omit [DecidableEq Row] in
/-- `commit()`, when it does not throw. -/
def commit (s : Server τ Db Write Row) (t : τ) : Server τ Db Write Row :=
  (s.publish S t (s.conns t).pending).rollback t

omit [DecidableEq Row] in
/-- `setAutoCommit(on)`. -/
def setAutoCommit (s : Server τ Db Write Row) (t : τ) : Bool → Server τ Db Write Row
  | true =>
    let s' := s.commit S t
    { s' with conns := Function.update s'.conns t ⟨true, []⟩ }
  | false => { s with conns := Function.update s.conns t ⟨false, (s.conns t).pending⟩ }

/-- A statement of `t`, when it does not throw: the row count and the server afterwards. -/
def execute (s : Server τ Db Write Row) (t : τ) (stmt : Statement S) :
    Option (ℕ × Server τ Db Write Row) :=
  if (stmt.rows (s.view S t)).all (s.free t) then
    (stmt.effect (s.view S t)).map fun (n, ws) =>
      (n, if (s.conns t).autoCommit then s.publish S t ws else s.enqueue S t ws)
  else none

variable {S}

/-- A statement that is executed has found the rows it writes free. -/
theorem execute_eq_some {s s' : Server τ Db Write Row} {t : τ} {stmt : Statement S} {n : ℕ}
    (h : s.execute S t stmt = some (n, s')) :
    ∃ ws, stmt.effect (s.view S t) = some (n, ws) ∧
      (∀ u ∈ ws, ∀ x, S.row? u = some x → s.locks x = none ∨ s.locks x = some t) ∧
      s' = if (s.conns t).autoCommit then s.publish S t ws else s.enqueue S t ws := by
  unfold execute at h
  split at h
  · next hfree =>
    obtain ⟨⟨m, ws⟩, heffect, heq⟩ := Option.map_eq_some_iff.mp h
    obtain ⟨rfl, rfl⟩ := Prod.mk.inj heq
    refine ⟨ws, heffect, fun u hu x hx => ?_, rfl⟩
    exact of_decide_eq_true
      (List.all_eq_true.mp hfree x (stmt.covers _ _ _ heffect u hu x hx))
  · cases h

/-- All the rows that a statement names are free when it is executed. -/
theorem free_of_execute {s s' : Server τ Db Write Row} {t : τ} {stmt : Statement S} {n : ℕ}
    (h : s.execute S t stmt = some (n, s')) :
    ∀ x ∈ stmt.rows (s.view S t), s.locks x = none ∨ s.locks x = some t := by
  unfold execute at h
  split at h
  · next hfree => exact fun x hx => of_decide_eq_true (List.all_eq_true.mp hfree x hx)
  · cases h

omit [DecidableEq τ] [DecidableEq Row] in
@[simp] theorem publish_conns (s : Server τ Db Write Row) (t : τ) (ws : List Write) :
    (s.publish S t ws).conns = s.conns := rfl

omit [DecidableEq τ] [DecidableEq Row] in
@[simp] theorem publish_locks (s : Server τ Db Write Row) (t : τ) (ws : List Write) :
    (s.publish S t ws).locks = s.locks := rfl

omit [DecidableEq τ] [DecidableEq Row] in
@[simp] theorem publish_tables (s : Server τ Db Write Row) (t : τ) (ws : List Write) :
    (s.publish S t ws).tables = S.writes s.tables ws := rfl

@[simp] theorem enqueue_tables (s : Server τ Db Write Row) (t : τ) (ws : List Write) :
    (s.enqueue S t ws).tables = s.tables := rfl

@[simp] theorem enqueue_log (s : Server τ Db Write Row) (t : τ) (ws : List Write) :
    (s.enqueue S t ws).log = s.log := rfl

@[simp] theorem enqueue_conns_self (s : Server τ Db Write Row) (t : τ) (ws : List Write) :
    (s.enqueue S t ws).conns t = ⟨(s.conns t).autoCommit, (s.conns t).pending ++ ws⟩ :=
  Function.update_self ..

omit [DecidableEq Row] in
@[simp] theorem rollback_tables (s : Server τ Db Write Row) (t : τ) :
    (s.rollback t).tables = s.tables := rfl

omit [DecidableEq Row] in
@[simp] theorem rollback_log (s : Server τ Db Write Row) (t : τ) :
    (s.rollback t).log = s.log := rfl

omit [DecidableEq Row] in
@[simp] theorem rollback_conns_self (s : Server τ Db Write Row) (t : τ) :
    (s.rollback t).conns t = ⟨(s.conns t).autoCommit, []⟩ := Function.update_self ..

omit [DecidableEq Row] in
@[simp] theorem commit_tables (s : Server τ Db Write Row) (t : τ) :
    (s.commit S t).tables = S.writes s.tables (s.conns t).pending := rfl

omit [DecidableEq Row] in
@[simp] theorem commit_conns_self (s : Server τ Db Write Row) (t : τ) :
    (s.commit S t).conns t = ⟨(s.conns t).autoCommit, []⟩ := Function.update_self ..

omit [DecidableEq Row] in
@[simp] theorem setAutoCommit_conns_self (s : Server τ Db Write Row) (t : τ) (on : Bool) :
    (s.setAutoCommit S t on).conns t = ⟨on, if on then [] else (s.conns t).pending⟩ := by
  cases on <;> exact Function.update_self ..

end Server

/-! ### What a connection may rely on -/

/-- A property of the store that only writes to the rows of `pending` can break. -/
def Stable (S : Storage Db Write Row) (pending : List Write) (P : Db → Prop) : Prop :=
  ∀ db u, (∀ v ∈ pending, ∀ x, S.row? v = some x → S.row? u ≠ some x) → P db → P (S.write db u)

theorem Stable.writes {S : Storage Db Write Row} {pending : List Write} {P : Db → Prop}
    (h : Stable S pending P) {ws : List Write}
    (hws : ∀ u ∈ ws, ∀ v ∈ pending, ∀ x, S.row? v = some x → S.row? u ≠ some x) {db : Db}
    (hdb : P db) : P (S.writes db ws) := by
  induction ws generalizing db with
  | nil => exact hdb
  | cons u ws ih =>
    exact ih (fun u' hu' => hws u' (.tail _ hu')) (h db u (hws u (.head _)) hdb)

/-- Connection `t` is in the given mode with the given writes, their rows are locked for it, and
the store has the property `P`. -/
structure Holds {τ : Type*} (S : Storage Db Write Row) (s : Server τ Db Write Row) (t : τ)
    (conn : Connection Write) (P : Db → Prop) : Prop where
  conns : s.conns t = conn
  locked : ∀ u ∈ conn.pending, ∀ x, S.row? u = some x → s.locks x = some t
  fits : P s.tables

namespace Holds

variable {τ : Type*} {S : Storage Db Write Row} {s : Server τ Db Write Row} {t t' : τ}
  {conn : Connection Write} {P Q : Db → Prop}

/-- Without writes there is nothing to lock. -/
theorem of_clean {autoCommit : Bool} (hconn : s.conns t = ⟨autoCommit, []⟩) (hP : P s.tables) :
    Holds S s t ⟨autoCommit, []⟩ P :=
  ⟨hconn, fun _ hu => (nomatch hu), hP⟩

/-- Rows that are free for `t` are not among those locked for another connection. -/
theorem notMem_of_free (h : Holds S s t' conn P) (ht : t' ≠ t) {u : Write}
    (hfree : ∀ x, S.row? u = some x → s.locks x = none ∨ s.locks x = some t) :
    ∀ v ∈ conn.pending, ∀ x, S.row? v = some x → S.row? u ≠ some x := by
  intro v hv x hvx hux
  have hlock := h.locked v hv x hvx
  rcases hfree x hux with hnone | hsome
  · rw [hlock] at hnone
    cases hnone
  · rw [hlock] at hsome
    exact ht (Option.some.inj hsome)

/-- Writes to rows that are free for their author leave the other connections alone. -/
theorem publish (h : Holds S s t' conn P) (hstable : Stable S conn.pending P) (ht : t' ≠ t)
    {ws : List Write}
    (hfree : ∀ u ∈ ws, ∀ x, S.row? u = some x → s.locks x = none ∨ s.locks x = some t) :
    Holds S (s.publish S t ws) t' conn P :=
  ⟨h.conns, h.locked,
    hstable.writes (fun u hu => h.notMem_of_free ht (hfree u hu)) h.fits⟩

variable [DecidableEq τ]

/-- The end of a transaction leaves the other connections alone. -/
theorem rollback (h : Holds S s t' conn P) (ht : t' ≠ t) : Holds S (s.rollback t) t' conn P := by
  refine ⟨(Function.update_of_ne ht _ _).trans h.conns, fun u hu x hx => ?_, h.fits⟩
  have hlock := h.locked u hu x hx
  have hne : s.locks x ≠ some t := by
    rw [hlock]
    exact fun heq => ht (Option.some.inj heq)
  exact (if_neg hne).trans hlock

/-- A commit leaves the other connections alone. -/
theorem commit (h : Holds S s t' conn P) (hstable : Stable S conn.pending P) (ht : t' ≠ t)
    (hlocked : ∀ u ∈ (s.conns t).pending, ∀ x, S.row? u = some x → s.locks x = some t) :
    Holds S (s.commit S t) t' conn P :=
  (h.publish hstable ht fun u hu x hx => .inr (hlocked u hu x hx)).rollback ht

/-- A change of mode leaves the other connections alone. -/
theorem setAutoCommit (h : Holds S s t' conn P) (hstable : Stable S conn.pending P) (ht : t' ≠ t)
    (hlocked : ∀ u ∈ (s.conns t).pending, ∀ x, S.row? u = some x → s.locks x = some t)
    (on : Bool) : Holds S (s.setAutoCommit S t on) t' conn P := by
  cases on with
  | true =>
    have hcommit := h.commit hstable ht hlocked
    exact ⟨(Function.update_of_ne ht _ _).trans hcommit.conns, hcommit.locked, hcommit.fits⟩
  | false => exact ⟨(Function.update_of_ne ht _ _).trans h.conns, h.locked, h.fits⟩

variable [DecidableEq Row]

/-- Locking free rows leaves the other connections alone. -/
theorem enqueue (h : Holds S s t' conn P) (ht : t' ≠ t) {ws : List Write}
    (hfree : ∀ u ∈ ws, ∀ x, S.row? u = some x → s.locks x = none ∨ s.locks x = some t) :
    Holds S (s.enqueue S t ws) t' conn P := by
  refine ⟨(Function.update_of_ne ht _ _).trans h.conns, fun u hu x hx => ?_, h.fits⟩
  have hx' : x ∉ ws.filterMap S.row? := by
    intro hmem
    obtain ⟨v, hv, hvx⟩ := List.mem_filterMap.mp hmem
    exact h.notMem_of_free ht (hfree v hv) u hu x hx hvx
  exact (if_neg hx').trans (h.locked u hu x hx)

/-- A connection's own writes are added to its transaction and locked. -/
theorem enqueue_self {pending : List Write} (h : Holds S s t ⟨false, pending⟩ P)
    {ws : List Write} (hP : Q s.tables) :
    Holds S (s.enqueue S t ws) t ⟨false, pending ++ ws⟩ Q := by
  refine ⟨?_, fun u hu x hx => ?_, hP⟩
  · rw [Server.enqueue_conns_self, h.conns]
  · by_cases hmem : x ∈ ws.filterMap S.row?
    · exact if_pos hmem
    · refine (if_neg hmem).trans ?_
      rcases List.mem_append.mp hu with hu | hu
      · exact h.locked u hu x hx
      · exact absurd (List.mem_filterMap.mpr ⟨u, hu, hx⟩) hmem

end Holds

/-! ### A connection alone -/

/-- What a connection sees when there is no other: the store that is committed, the store with
its own writes, and its mode. -/
structure Session (Db : Type*) where
  committed : Db
  working : Db
  autoCommit : Bool

namespace Session

/-- A connection fresh from the pool. -/
def fresh (db : Db) : Session Db := ⟨db, db, true⟩

/-- A statement that takes the store the connection sees to `db`. -/
def execute (c : Session Db) (db : Db) : Session Db :=
  if c.autoCommit then ⟨db, db, true⟩ else ⟨c.committed, db, false⟩

/-- `commit()`. -/
def commit (c : Session Db) : Session Db := ⟨c.working, c.working, c.autoCommit⟩

/-- `rollback()`. -/
def rollback (c : Session Db) : Session Db := ⟨c.committed, c.committed, c.autoCommit⟩

/-- `setAutoCommit(on)`. -/
def setAutoCommit (c : Session Db) (on : Bool) : Session Db :=
  if on then ⟨c.working, c.working, true⟩ else ⟨c.committed, c.working, false⟩

end Session

/-- The server as a session, for the only connection there is. -/
structure Alone (S : Storage Db Write Row) (s : Server Unit Db Write Row) (c : Session Db) :
    Prop where
  committed : s.tables = c.committed
  working : s.view S () = c.working
  mode : (s.conns ()).autoCommit = c.autoCommit
  published : c.autoCommit = true → (s.conns ()).pending = []

namespace Alone

variable {S : Storage Db Write Row} {s s' : Server Unit Db Write Row} {c : Session Db}

theorem init (db : Db) : Alone S (Server.init db) (.fresh db) :=
  ⟨rfl, rfl, rfl, fun _ => rfl⟩

theorem commit (h : Alone S s c) : Alone S (s.commit S ()) c.commit := by
  refine ⟨h.working, h.working, h.mode, fun _ => ?_⟩
  rw [Server.commit_conns_self]

theorem rollback (h : Alone S s c) : Alone S (s.rollback ()) c.rollback := by
  refine ⟨h.committed, h.committed, h.mode, fun _ => ?_⟩
  rw [Server.rollback_conns_self]

theorem setAutoCommit (h : Alone S s c) (on : Bool) :
    Alone S (s.setAutoCommit S () on) (c.setAutoCommit on) := by
  cases on with
  | true => exact ⟨h.working, h.working, rfl, fun _ => rfl⟩
  | false => exact ⟨h.committed, h.working, rfl, nofun⟩

/-- Nobody else has locked anything, so a statement of the only connection runs on what the
session shows. -/
theorem execute [DecidableEq Row] (h : Alone S s c) {stmt : Statement S} {n : ℕ}
    (hs : s.execute S () stmt = some (n, s')) :
    ∃ ws, stmt.effect c.working = some (n, ws) ∧
      Alone S s' (c.execute (S.writes c.working ws)) := by
  obtain ⟨ws, heffect, -, rfl⟩ := Server.execute_eq_some hs
  rw [h.working] at heffect
  refine ⟨ws, heffect, ?_⟩
  rw [h.mode, Session.execute]
  cases hmode : c.autoCommit with
  | true =>
    -- nothing is pending, so the committed store is what the statement has seen
    have hpending := h.published hmode
    have hworking : c.committed = c.working := by
      rw [← h.committed, ← h.working, Server.view, hpending, Storage.writes_nil]
    refine ⟨?_, ?_, h.mode.trans hmode, fun _ => hpending⟩
    · rw [if_pos rfl, if_pos rfl, Server.publish_tables, h.committed, hworking]
    · rw [if_pos rfl, if_pos rfl, Server.view, Server.publish_conns, hpending,
        Storage.writes_nil, Server.publish_tables, h.committed, hworking]
  | false =>
    refine ⟨h.committed, ?_, h.mode.trans hmode, nofun⟩
    rw [if_neg Bool.false_ne_true, if_neg Bool.false_ne_true, Server.view,
      Server.enqueue_conns_self, Storage.writes_append, ← h.working]
    rfl

end Alone

end RowLocking
