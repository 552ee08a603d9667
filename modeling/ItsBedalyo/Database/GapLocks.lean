import ItsBedalyo.Database.Dao

/-!
# Rows that are not there

A statement that names a row by its key and does not find it locks the gap where the row would
be: others may look for it too, but nobody else can insert it before the transaction has ended.
`GapWorld` adds these locks to the world of `DaoSchema.exec`, and `gapExec` performs the same
operations with them: a statement waits while a row it writes is in a gap that somebody else
has locked, and otherwise does what `exec` says.

`Keeps` is what a connection may rely on now: its transaction, the locks on the rows it has
written, the gaps it has locked, and any property of the store that only writes to those rows
can break. Everyone else's operations keep it (`keeps_gapExec`).
-/

namespace ItsBedalyo

open RowLocking

variable {τ Db Write Row : Type*} {Stmt Query Reply : Type} {Answer : Query → Type}

/-- The world of code on one connection, and who has locked the gap of which row. -/
structure GapWorld (τ Db Write Row : Type*) (Reply : Type) where
  dao : DaoWorld τ Db Write Row Reply
  gaps : List (τ × Row)

/-- The committed tables. -/
abbrev GapWorld.tables (w : GapWorld τ Db Write Row Reply) : Db := w.dao.server.tables

/-- The world before the first call. -/
def GapWorld.init (db : Db) : GapWorld τ Db Write Row Reply := ⟨.init db, []⟩

variable [DecidableEq τ] [DecidableEq Row] (schema : DaoSchema Db Write Row Stmt Answer)

namespace DaoSchema

omit [DecidableEq τ] [DecidableEq Row] in
/-- The rows that a statement writes. -/
def written (w : DaoWorld τ Db Write Row Reply) (t : τ) (stmt : Stmt) (id : ℤ) : List Row :=
  match (schema.statement stmt id).effect (w.server.view schema.storage t) with
  | some (_, ws) => ws.filterMap schema.storage.row?
  | none => []

omit [DecidableEq τ] in
/-- The rows that a statement names and does not write: it has not found them. -/
def missed (w : DaoWorld τ Db Write Row Reply) (t : τ) (stmt : Stmt) (id : ℤ) : List Row :=
  ((schema.statement stmt id).rows (w.server.view schema.storage t)).filter fun x =>
    x ∉ schema.written w t stmt id

/-- Somebody else has locked the gap of a row that the operation writes. -/
def blocked (t : τ) : DaoOp Stmt Query Reply → DaoEnv → GapWorld τ Db Write Row Reply → Bool
  | .executeUpdate stmt, .next id, w =>
    (schema.written w.dao t stmt id).any fun x => w.gaps.any fun gap => gap.1 ≠ t ∧ gap.2 = x
  | _, _, _ => false

/-- The gaps locked after an operation: those of the rows that a transaction's statement has
missed are added, and the end of the transaction releases its own. -/
def gapsAfter (t : τ) : DaoOp Stmt Query Reply → DaoEnv → GapWorld τ Db Write Row Reply →
    List (τ × Row)
  | .executeUpdate stmt, .next id, w =>
    if (w.dao.server.conns t).autoCommit then w.gaps
    else w.gaps ++ (schema.missed w.dao t stmt id).map fun x => (t, x)
  | .executeUpdate _, .deadlock _, w | .commit, .ok, w | .rollback, .ok, w
  | .setAutoCommit true, .ok, w => w.gaps.filter fun gap => gap.1 ≠ t
  | _, _, w => w.gaps

/-- An operation of call `t`. -/
def gapExec (t : τ) (o : DaoOp Stmt Query Reply) (e : DaoEnv)
    (w : GapWorld τ Db Write Row Reply) :
    Option (Except Exn (o.Res Answer) × GapWorld τ Db Write Row Reply) :=
  if schema.blocked t o e w then none
  else (schema.exec t o e w.dao).map fun (r, dao) => (r, ⟨dao, schema.gapsAfter t o e w⟩)

variable {schema} {t t' : τ} {w w' : GapWorld τ Db Write Row Reply} {o : DaoOp Stmt Query Reply}
  {e : DaoEnv} {r : Except Exn (o.Res Answer)}

/-- An operation does what it does without gap locks, unless it has to wait. -/
theorem gapExec_eq_some (he : schema.gapExec t o e w = some (r, w')) :
    schema.blocked t o e w = false ∧ schema.exec t o e w.dao = some (r, w'.dao) ∧
      w'.gaps = schema.gapsAfter t o e w := by
  unfold gapExec at he
  split at he
  · cases he
  · next hblocked =>
    obtain ⟨⟨r', dao⟩, hexec, heq⟩ := Option.map_eq_some_iff.mp he
    cases heq
    exact ⟨eq_false_of_ne_true hblocked, hexec, rfl⟩

/-- Nobody else has locked the gap of a row that a statement writes. -/
theorem eq_of_mem_gaps {stmt : Stmt} {id : ℤ} {n : ℕ} {ws : List Write}
    (hblocked : schema.blocked t (.executeUpdate stmt) (.next id) w = false)
    (heffect : (schema.statement stmt id).effect (w.dao.server.view schema.storage t) =
      some (n, ws)) {u : Write} (hu : u ∈ ws) {x : Row} (hx : schema.storage.row? u = some x)
    (hgap : (t', x) ∈ w.gaps) : t' = t := by
  by_contra hne
  have hwritten : x ∈ schema.written w.dao t stmt id := by
    rw [written, heffect]
    exact List.mem_filterMap.mpr ⟨u, hu, hx⟩
  refine Bool.false_ne_true (hblocked.symm.trans ?_)
  refine List.any_eq_true.mpr ⟨x, hwritten, List.any_eq_true.mpr ⟨_, hgap, ?_⟩⟩
  exact decide_eq_true ⟨hne, rfl⟩

/-- The gaps that others have locked stay locked. -/
theorem mem_gapsAfter_of_ne {x : Row} (ht : t' ≠ t) (hgap : (t', x) ∈ w.gaps) :
    (t', x) ∈ schema.gapsAfter t o e w := by
  have hfilter : (t', x) ∈ w.gaps.filter fun gap => gap.1 ≠ t :=
    List.mem_filter.mpr ⟨hgap, decide_eq_true ht⟩
  unfold gapsAfter
  split
  · split_ifs
    · exact hgap
    · exact List.mem_append_left _ hgap
  all_goals first | exact hfilter | exact hgap

end DaoSchema

/-- A gap and its row are not locked by two. -/
def GapWorld.Exclusive (w : GapWorld τ Db Write Row Reply) : Prop :=
  ∀ t x, (t, x) ∈ w.gaps → w.dao.server.locks x = none ∨ w.dao.server.locks x = some t

/-- A property of the store that only writes to the given rows can break. -/
def StableOutside (S : Storage Db Write Row) (rows : List Row) (P : Db → Prop) : Prop :=
  ∀ db u, (∀ x, S.row? u = some x → x ∉ rows) → P db → P (S.write db u)

omit [DecidableEq Row] in
theorem StableOutside.writes {S : Storage Db Write Row} {rows : List Row} {P : Db → Prop}
    (h : StableOutside S rows P) {ws : List Write}
    (hws : ∀ u ∈ ws, ∀ x, S.row? u = some x → x ∉ rows) {db : Db} (hdb : P db) :
    P (S.writes db ws) := by
  induction ws generalizing db with
  | nil => exact hdb
  | cons u ws ih =>
    exact ih (fun u' hu' => hws u' (.tail _ hu')) (h db u (hws u (.head _)) hdb)

/-- Connection `t` is in the given mode with the given writes, their rows and the gaps of
`missing` are locked for it, and the store has the property `P`. -/
structure Keeps (S : Storage Db Write Row) (w : GapWorld τ Db Write Row Reply) (t : τ)
    (conn : RowLocking.Connection Write) (missing : List Row) (P : Db → Prop) : Prop where
  holds : Holds S w.dao.server t conn fun _ => True
  gaps : ∀ x ∈ missing, (t, x) ∈ w.gaps
  fits : P w.tables

omit [DecidableEq τ] [DecidableEq Row] in
/-- Without writes and gaps there is nothing to lock. -/
theorem Keeps.of_clean {S : Storage Db Write Row} {w : GapWorld τ Db Write Row Reply} {t : τ}
    {autoCommit : Bool} {P : Db → Prop} (hconn : w.dao.server.conns t = ⟨autoCommit, []⟩)
    (hP : P w.tables) : Keeps S w t ⟨autoCommit, []⟩ [] P :=
  ⟨.of_clean hconn trivial, fun _ hx => (nomatch hx), hP⟩

omit [DecidableEq τ] [DecidableEq Row] in
/-- Where the server and the gaps stay, so does what a connection relies on. -/
theorem Keeps.congr {S : Storage Db Write Row} {w w' : GapWorld τ Db Write Row Reply} {t : τ}
    {conn : RowLocking.Connection Write} {missing : List Row} {P : Db → Prop}
    (h : Keeps S w t conn missing P) (hserver : w'.dao.server = w.dao.server)
    (hgaps : w'.gaps = w.gaps) : Keeps S w' t conn missing P := by
  refine ⟨?_, fun x hx => hgaps ▸ h.gaps x hx, ?_⟩
  · rw [hserver]
    exact h.holds
  · rw [GapWorld.tables, hserver]
    exact h.fits

namespace DaoSchema

variable {schema} {t t' : τ} {w w' : GapWorld τ Db Write Row Reply} {o : DaoOp Stmt Query Reply}
  {e : DaoEnv} {r : Except Exn (o.Res Answer)}

/-- What an operation of `t` publishes is in no row that another connection has locked, and in no
gap. -/
theorem publishes_free {conn : RowLocking.Connection Write}
    (hexcl : w.Exclusive)
    (hlocked : ∀ u ∈ (w.dao.server.conns t).pending, ∀ x, schema.storage.row? u = some x →
      w.dao.server.locks x = some t)
    (h : Holds schema.storage w.dao.server t' conn fun _ => True) (ht : t' ≠ t)
    (he : schema.gapExec t o e w = some (r, w')) {ws : List Write}
    (hpub : Publishes schema t w.dao.server o e ws) :
    ∀ u ∈ ws, ∀ x, schema.storage.row? u = some x →
      x ∉ conn.pending.filterMap schema.storage.row? ∧ (t', x) ∉ w.gaps := by
  obtain ⟨hblocked, hexec, -⟩ := gapExec_eq_some he
  -- the rows of the caller's own transaction are locked for it
  have hpending : ∀ u ∈ (w.dao.server.conns t).pending, ∀ x, schema.storage.row? u = some x →
      x ∉ conn.pending.filterMap schema.storage.row? ∧ (t', x) ∉ w.gaps := by
    intro u hu x hx
    have hlock := hlocked u hu x hx
    refine ⟨fun hmem => ?_, fun hgap => ?_⟩
    · obtain ⟨v, hv, hvx⟩ := List.mem_filterMap.mp hmem
      rw [h.locked v hv x hvx] at hlock
      exact ht (Option.some.inj hlock)
    · rcases hexcl t' x hgap with hnone | hsome
      · rw [hlock] at hnone
        cases hnone
      · rw [hlock] at hsome
        exact ht (Option.some.inj hsome).symm
  cases hpub with
  | nothing => exact fun u hu => (nomatch hu)
  | commit => exact hpending
  | setAutoCommit => exact hpending
  | @statement stmt id n ws hmode heffect =>
    obtain ⟨⟨m, server⟩, hs, -⟩ := Option.map_eq_some_iff.mp hexec
    obtain ⟨ws', heffect', hfree, -⟩ := Server.execute_eq_some hs
    obtain ⟨-, rfl⟩ := Prod.mk.inj (Option.some.inj (heffect.symm.trans heffect'))
    intro u hu x hx
    refine ⟨fun hmem => ?_, fun hgap => ht (eq_of_mem_gaps hblocked heffect hu hx hgap)⟩
    obtain ⟨v, hv, hvx⟩ := List.mem_filterMap.mp hmem
    exact h.notMem_of_free ht (hfree u hu) v hv x hvx hx

/-- **Frame rule.** An operation of another call leaves alone what a connection relies on. -/
theorem keeps_gapExec {conn : RowLocking.Connection Write} {missing : List Row} {P : Db → Prop}
    (h : Keeps schema.storage w t' conn missing P)
    (hstable : StableOutside schema.storage
      (conn.pending.filterMap schema.storage.row? ++ missing) P)
    (hexcl : w.Exclusive) (ht : t' ≠ t)
    (hlocked : ∀ u ∈ (w.dao.server.conns t).pending, ∀ x, schema.storage.row? u = some x →
      w.dao.server.locks x = some t)
    (he : schema.gapExec t o e w = some (r, w')) :
    Keeps schema.storage w' t' conn missing P := by
  obtain ⟨-, hexec, hgaps⟩ := gapExec_eq_some he
  obtain ⟨ws, hpub, htables, -⟩ := exec_publishes hexec
  refine ⟨?_, fun x hx => ?_, ?_⟩
  · exact holds_exec h.holds (fun _ _ _ _ => trivial) ht hlocked hexec
  · rw [hgaps]
    exact mem_gapsAfter_of_ne ht (h.gaps x hx)
  · rw [GapWorld.tables, htables]
    refine hstable.writes (fun u hu x hx hmem => ?_) h.fits
    have hfree := publishes_free hexcl hlocked h.holds ht he hpub u hu x hx
    rcases List.mem_append.mp hmem with hmem | hmem
    · exact hfree.1 hmem
    · exact hfree.2 (h.gaps x hmem)

/-- **A statement of an open transaction.** The connection keeps what it had, and has locked what
the statement writes and what it has missed. -/
theorem keeps_execute {pending : List Write} {missing : List Row} {P : Db → Prop} {stmt : Stmt}
    {id : ℤ} {n : ℕ} (h : Keeps schema.storage w t ⟨false, pending⟩ missing P)
    (he : schema.gapExec t (.executeUpdate stmt) (.next id) w = some (.ok n, w')) :
    ∃ ws, (schema.statement stmt id).effect (schema.storage.writes w.tables pending) =
        some (n, ws) ∧
      ∀ (missing' : List Row) (Q : Db → Prop), Q w.tables →
        (∀ x ∈ missing', x ∈ missing ∨
          x ∈ (schema.statement stmt id).rows (schema.storage.writes w.tables pending) ∧
            x ∉ ws.filterMap schema.storage.row?) →
        Keeps schema.storage w' t ⟨false, pending ++ ws⟩ missing' Q := by
  obtain ⟨-, hexec, hgaps⟩ := gapExec_eq_some he
  obtain ⟨⟨m, server⟩, hs, heq⟩ := Option.map_eq_some_iff.mp hexec
  obtain ⟨ws, heffect, -, rfl⟩ := Server.execute_eq_some hs
  have hview : w.dao.server.view schema.storage t = schema.storage.writes w.tables pending := by
    rw [Server.view, h.holds.conns]
  have hmode : (w.dao.server.conns t).autoCommit = false := by rw [h.holds.conns]
  have hserver : w'.dao.server = w.dao.server.enqueue schema.storage t ws := by
    rw [← (Prod.mk.inj heq).2, hmode, if_neg Bool.false_ne_true]
  obtain rfl : m = n := Except.ok.inj (Prod.mk.inj heq).1
  rw [hview] at heffect
  refine ⟨ws, heffect, fun missing' Q hQ hmissing => ⟨?_, fun x hx => ?_, ?_⟩⟩
  · rw [hserver]
    exact h.holds.enqueue_self trivial
  · simp only [hgaps, gapsAfter, hmode, Bool.false_eq_true, if_false, List.mem_append,
      List.mem_map, missed, List.mem_filter, written, hview, heffect, Prod.mk.injEq, true_and,
      exists_eq_right, decide_eq_true_eq]
    exact (hmissing x hx).imp_left (h.gaps x)
  · rw [GapWorld.tables, hserver]
    exact hQ

omit [DecidableEq Row] in
/-- Locks that are released and gaps that are released with them stay exclusive. -/
theorem exclusive_of_release {server : Server τ Db Write Row}
    (h : w.Exclusive)
    (hlocks : ∀ x, server.locks x =
      if w.dao.server.locks x = some t then none else w.dao.server.locks x)
    {dao : DaoWorld τ Db Write Row Reply} (hdao : dao.server = server) :
    (⟨dao, w.gaps.filter fun gap => gap.1 ≠ t⟩ : GapWorld τ Db Write Row Reply).Exclusive := by
  intro t' x hgap
  obtain ⟨hmem, -⟩ := List.mem_filter.mp hgap
  show dao.server.locks x = none ∨ dao.server.locks x = some t'
  rw [hdao, hlocks]
  split_ifs
  · exact .inl rfl
  · exact h t' x hmem

/-- **An operation keeps locks and gaps apart.** -/
theorem exclusive_gapExec (h : w.Exclusive) (he : schema.gapExec t o e w = some (r, w')) :
    w'.Exclusive := by
  obtain ⟨hblocked, hexec, hgaps⟩ := gapExec_eq_some he
  obtain ⟨dao, gaps⟩ := w'
  obtain rfl : gaps = schema.gapsAfter t o e w := hgaps
  have hexec : schema.exec t o e w.dao = some (r, dao) := hexec
  cases o with
  | setAutoCommit on =>
    cases e <;> cases hexec
    cases on with
    | true => exact exclusive_of_release h (fun _ => rfl) rfl
    | false => exact h
  | prepareStatement | executeQuery | sendPacket =>
    cases e <;> cases hexec
    all_goals exact h
  | commit =>
    cases e <;> cases hexec
    · exact exclusive_of_release h (fun _ => rfl) rfl
    · exact h
  | rollback =>
    cases e <;> cases hexec
    exact exclusive_of_release h (fun _ => rfl) rfl
  | executeUpdate stmt =>
    cases e with
    | ok => cases hexec
    | fault what =>
      cases hexec
      exact h
    | deadlock what =>
      cases hexec
      exact exclusive_of_release h (fun _ => rfl) rfl
    | next id =>
      obtain ⟨⟨n, server⟩, hs, heq⟩ := Option.map_eq_some_iff.mp hexec
      cases heq
      obtain ⟨ws, heffect, hfree, rfl⟩ := Server.execute_eq_some hs
      intro t' x hgap
      cases hmode : (w.dao.server.conns t).autoCommit with
      | true =>
        simp only [gapsAfter, hmode, if_true] at hgap
        simpa [hmode] using h t' x hgap
      | false =>
        simp only [gapsAfter, hmode, Bool.false_eq_true, if_false, List.mem_append,
          List.mem_map, Prod.mk.injEq] at hgap
        simp only [hmode, Bool.false_eq_true, if_false, Server.enqueue]
        by_cases hx : x ∈ ws.filterMap schema.storage.row?
        · -- a row that is written is in nobody else's gap, and is not missed
          obtain ⟨u, hu, hux⟩ := List.mem_filterMap.mp hx
          rw [if_pos hx]
          rcases hgap with hold | ⟨y, hmissed, rfl, rfl⟩
          · exact .inr (congrArg some (eq_of_mem_gaps hblocked heffect hu hux hold).symm)
          · exact .inr rfl
        · rw [if_neg hx]
          rcases hgap with hold | ⟨y, hmissed, rfl, rfl⟩
          · exact h t' x hold
          · exact Server.free_of_execute hs y (List.mem_of_mem_filter hmissed)

end DaoSchema

end ItsBedalyo
