import ItsBedalyo.Handler.OrderTransactions

/-!
# What one step can do to the orders

`Invariant` ties the stage of every call to the database: the connection is the stage's, the
rows its transaction has written are locked for it, and the committed rows are still those the
transaction has read. `Invariant.of_exec` shows that every operation keeps it and does what
`orderInterface` says, so that every call of every run stays safe (`always_safe`).

`Safe.effect` draws the conclusion, once for everything that follows: a step either leaves
tables and history alone, or sets one order's status in autocommit mode as its request asks,
or commits one order that was waiting, moved to 1 and added to its store's sales, or commits
one new order with status 0.
-/

namespace ItsBedalyo

variable {τ κ : Type*}

namespace Stage

variable {key : String → κ} {q : OrderRequest} {stage : Stage κ} {stmt : Statement}

/-- The connection of a call carries the writes of its stage. -/
theorem conn_eq (stage : Stage κ) : stage.conn = ⟨stage.conn.autoCommit, stage.pending⟩ := by
  cases stage <;> rfl

/-- In autocommit mode, the handlers only set the status their request asks for. -/
theorem Ready.auto (h : stage.Ready key q stmt) (hmode : stage.conn.autoCommit = true) :
    ∃ orderId m, stmt = .setOrderStatus orderId m ∧ stage = .auto ∧
      q.statusUpdate = some (orderId, m) := by
  cases h with
  | setOrderStatus hq => exact ⟨_, _, rfl, rfl, hq⟩
  | acceptOrder | addSales | insertOrder | insertDetail => cases hmode

/-- A statement takes a request's handler to one of its stages. -/
theorem Ready.of {n : ℕ} {stage' : Stage κ} (h : stage.Ready key q stmt)
    (hafter : stage.After key stmt n stage') (hof : stage.Of q) : stage'.Of q := by
  cases h with
  | acceptOrder hq =>
    cases hafter with
    | unmatched => trivial
    | acceptOrder => exact hq
  | addSales =>
    cases hafter
    exact hof
  | setOrderStatus =>
    cases hafter
    trivial
  | insertOrder hq =>
    cases hafter
    exact hq
  | insertDetail =>
    cases hafter
    exact hof

/-- In a transaction, a statement takes the call to a stage that has its writes added and fits
the same tables. -/
theorem Ready.transaction [DecidableEq κ] {db : Tables κ} {n : ℕ} {ws : List (Write κ)}
    (h : stage.Ready key q stmt) (hmode : stage.conn.autoCommit = false) (hfits : stage.Fits db)
    (heffect : stmt.effect key (db.writes stage.pending) = some (n, ws)) :
    ∃ stage', stage.After key stmt n stage' ∧ stage'.Fits db ∧
      stage'.pending = stage.pending ++ ws ∧ stage'.conn.autoCommit = false := by
  cases h with
  | setOrderStatus => cases hmode
  | @acceptOrder orderId _ =>
    -- the `WHERE` matches a waiting order or nothing
    simp only [pending, Tables.writes_nil, Statement.effect] at heffect
    cases horder : db.orders (key orderId) with
    | none =>
      simp only [horder, Option.some.injEq, Prod.mk.injEq] at heffect
      obtain ⟨rfl, rfl⟩ := heffect
      exact ⟨.opened, .unmatched, trivial, rfl, rfl⟩
    | some row =>
      by_cases hwaiting : row.orderStatus = 0
      · simp only [horder, hwaiting, if_true, Option.some.injEq, Prod.mk.injEq] at heffect
        obtain ⟨rfl, rfl⟩ := heffect
        exact ⟨.moved (key orderId) row, .acceptOrder, ⟨horder, hwaiting⟩, rfl, rfl⟩
      · simp only [horder, hwaiting, if_false, Option.some.injEq, Prod.mk.injEq] at heffect
        obtain ⟨rfl, rfl⟩ := heffect
        exact ⟨.opened, .unmatched, trivial, rfl, rfl⟩
  | @addSales orderId row =>
    -- the statement reads the order through the transaction's own write
    obtain ⟨hrow, hwaiting⟩ := hfits
    simp only [pending, Tables.writes_cons, Tables.writes_nil, Statement.effect,
      Tables.write_order_orders, Function.update_self, Tables.write_order_stores,
      OrderRow.accepted] at heffect
    cases hstore : db.stores row.storeId with
    | none =>
      simp only [hstore, Option.some.injEq, Prod.mk.injEq] at heffect
      obtain ⟨rfl, rfl⟩ := heffect
      exact ⟨.counted (key orderId) row none, .addSales, ⟨hrow, hwaiting, hstore⟩, rfl, rfl⟩
    | some store =>
      simp only [hstore, Option.some.injEq, Prod.mk.injEq] at heffect
      obtain ⟨rfl, rfl⟩ := heffect
      exact ⟨.counted (key orderId) row (some store), .addSales, ⟨hrow, hwaiting, hstore⟩, rfl,
        rfl⟩
  | @insertOrder orderId row _ hnew =>
    simp only [pending, Tables.writes_nil, Statement.effect] at heffect
    cases horder : db.orders (key orderId) with
    | none =>
      simp only [horder, Option.some.injEq, Prod.mk.injEq] at heffect
      obtain ⟨rfl, rfl⟩ := heffect
      exact ⟨.created (key orderId) row [], .insertOrder, ⟨horder, hnew⟩, rfl, rfl⟩
    | some old => simp only [horder, reduceCtorEq] at heffect
  | @insertDetail k row details d =>
    simp only [Statement.effect, Option.some.injEq, Prod.mk.injEq] at heffect
    obtain ⟨rfl, rfl⟩ := heffect
    refine ⟨.created k row (details ++ [d]), .insertDetail, hfits, ?_, rfl⟩
    simp [pending]

end Stage

namespace DbServer

/-- The database is as the stage of call `t` says. -/
structure Holds (s : DbServer τ κ) (t : τ) (stage : Stage κ) : Prop where
  conn : s.conns t = stage.conn
  locked : ∀ u ∈ stage.pending, ∀ x, u.row? = some x → s.locks x = some t
  fits : stage.Fits s.tables

variable [DecidableEq τ] [DecidableEq κ] {s s' : DbServer τ κ} {t t' : τ} {stage : Stage κ}

omit [DecidableEq τ] in
/-- Writes to rows that are locked for nobody else leave the stage of another call alone. -/
theorem Holds.publish (h : s.Holds t' stage) (ht : t' ≠ t) {ws : List (Write κ)}
    (hfree : ∀ u ∈ ws, ∀ x, u.row? = some x → s.locks x = none ∨ s.locks x = some t)
    (hstores : ∀ u ∈ ws, ∀ id, u.row? = some (.store id) → s.tables.stores id ≠ none) :
    (s.publish t ws).Holds t' stage := by
  obtain ⟨hconn, hlocked, hfits⟩ := h
  -- the rows of `t'` are locked for `t'`, so `ws` writes none of them
  have hmine : ∀ u ∈ stage.pending, ∀ x, u.row? = some x → ∀ v ∈ ws, v.row? ≠ some x := by
    intro u hu x hx v hv hvx
    have hlock := hlocked u hu x hx
    rcases hfree v hv x hvx with hnone | hsome
    · rw [hlock] at hnone
      cases hnone
    · rw [hlock] at hsome
      exact ht (Option.some.inj hsome)
  obtain ⟨horders, hstores'⟩ := @Tables.writes_of_notMem κ _ s.tables ws
  refine ⟨hconn, hlocked, ?_⟩
  cases stage with
  | auto => trivial
  | opened => trivial
  | created k row details =>
    exact ⟨(horders k (hmine _ (.head _) _ rfl)).trans hfits.1, hfits.2⟩
  | moved k row =>
    exact ⟨(horders k (hmine _ (.head _) _ rfl)).trans hfits.1, hfits.2⟩
  | counted k row store =>
    obtain ⟨hrow, hwaiting, hstore⟩ := hfits
    refine ⟨(horders k (hmine _ (.head _) _ rfl)).trans hrow, hwaiting, ?_⟩
    refine (hstores' row.storeId fun u hu hx => ?_).trans hstore
    cases store with
    | none => exact hstores u hu _ hx hstore -- nobody writes a store that does not exist
    | some st => exact hmine _ (.tail _ (.head _)) _ rfl u hu hx

/-- Locking free rows leaves the stage of another call alone. -/
theorem Holds.enqueue (h : s.Holds t' stage) (ht : t' ≠ t) {ws : List (Write κ)}
    (hfree : ∀ u ∈ ws, ∀ x, u.row? = some x → s.locks x = none ∨ s.locks x = some t) :
    (s.enqueue t ws).Holds t' stage := by
  refine ⟨(Function.update_of_ne ht _ _).trans h.conn, fun u hu x hx => ?_, h.fits⟩
  have hlock := h.locked u hu x hx
  have hx' : x ∉ ws.filterMap Write.row? := by
    intro hmem
    obtain ⟨v, hv, hvx⟩ := List.mem_filterMap.mp hmem
    rcases hfree v hv x hvx with hnone | hsome
    · rw [hlock] at hnone
      cases hnone
    · rw [hlock] at hsome
      exact ht (Option.some.inj hsome)
  exact (if_neg hx').trans hlock

omit [DecidableEq κ] in
/-- The end of a transaction leaves the stage of another call alone. -/
theorem Holds.rollback (h : s.Holds t' stage) (ht : t' ≠ t) : (s.rollback t).Holds t' stage := by
  refine ⟨(Function.update_of_ne ht _ _).trans h.conn, fun u hu x hx => ?_, h.fits⟩
  have hlock := h.locked u hu x hx
  have hne : s.locks x ≠ some t := by
    rw [hlock]
    exact fun e => ht (Option.some.inj e)
  exact (if_neg hne).trans hlock

omit [DecidableEq κ] in
/-- A call after its own rollback. -/
theorem Holds.rolledBack (h : s.Holds t stage) : (s.rollback t).Holds t stage.rolledBack := by
  have hconn : (s.rollback t).conns t = ⟨(s.conns t).autoCommit, []⟩ :=
    Function.update_self t _ s.conns
  rw [h.conn] at hconn
  cases stage <;> exact ⟨hconn, by simp [Stage.rolledBack, Stage.pending], trivial⟩

omit [DecidableEq τ] [DecidableEq κ] in
/-- A stage without writes only says which mode the connection is in. -/
theorem holds_of_clean {autoCommit : Bool} (h : s.conns t = ⟨autoCommit, []⟩) :
    s.Holds t (if autoCommit then .auto else .opened) := by
  cases autoCommit <;> exact ⟨h, by simp [Stage.pending], trivial⟩

omit [DecidableEq τ] [DecidableEq κ] in
/-- What a transaction has written is locked for it, and the store rows exist. -/
theorem Holds.pending_rows (h : s.Holds t stage) :
    (∀ u ∈ stage.pending, ∀ x, u.row? = some x → s.locks x = none ∨ s.locks x = some t) ∧
      ∀ u ∈ stage.pending, ∀ id, u.row? = some (.store id) → s.tables.stores id ≠ none := by
  refine ⟨fun u hu x hx => .inr (h.locked u hu x hx), fun u hu id hx => ?_⟩
  have hfits := h.fits
  cases stage with
  | auto => cases hu
  | opened => cases hu
  | created k row details =>
    rcases List.mem_cons.mp hu with rfl | hu
    · cases hx
    · obtain ⟨d, -, rfl⟩ := List.mem_map.mp hu
      cases hx
  | moved k row =>
    obtain rfl := List.mem_singleton.mp hu
    cases hx
  | counted k row store =>
    rcases List.mem_cons.mp hu with rfl | hu
    · cases hx
    · cases store with
      | none => cases hu
      | some st =>
        obtain rfl := List.mem_singleton.mp hu
        obtain rfl : row.storeId = id := by simpa [Write.row?] using hx
        rw [hfits.2.2]
        exact Option.some_ne_none st

omit [DecidableEq τ] [DecidableEq κ] in
/-- The writes of a transaction are those of its stage. -/
theorem Holds.pending_eq (h : s.Holds t stage) : (s.conns t).pending = stage.pending := by
  rw [h.conn, stage.conn_eq]

/-- The connection of a call whose transaction has just been published. -/
theorem Holds.conns_published (h : s.Holds t stage) :
    ((s.publish t (s.conns t).pending).rollback t).conns t = ⟨stage.conn.autoCommit, []⟩ := by
  rw [← h.conn]
  exact Function.update_self t _ s.conns

/-- Publishing a transaction leaves the stage of another call alone. -/
theorem Holds.published_of_ne (h : s.Holds t stage) {stage' : Stage κ} (ht : t' ≠ t)
    (h' : s.Holds t' stage') :
    ((s.publish t (s.conns t).pending).rollback t).Holds t' stage' := by
  rw [h.pending_eq]
  obtain ⟨hfree, hstores⟩ := h.pending_rows
  exact (h'.publish ht hfree hstores).rollback ht

/-! ### Statements -/

variable {key : String → κ} {q : OrderRequest} {stmt : Statement} {n : ℕ}

/-- A call after a statement in its transaction. -/
theorem Holds.enqueued (h : s.Holds t stage) {stage' : Stage κ} {ws : List (Write κ)}
    (hmode : stage.conn.autoCommit = false) (hmode' : stage'.conn.autoCommit = false)
    (hpending : stage'.pending = stage.pending ++ ws) (hfits : stage'.Fits s.tables) :
    (s.enqueue t ws).Holds t stage' := by
  refine ⟨?_, fun u hu x hx => ?_, hfits⟩
  · rw [stage'.conn_eq, hmode', hpending, ← h.pending_eq, ← hmode, ← h.conn]
    exact Function.update_self t _ s.conns
  · show (if x ∈ ws.filterMap Write.row? then some t else s.locks x) = some t
    rw [hpending, List.mem_append] at hu
    split
    · rfl
    · next hx' =>
      refine h.locked u (hu.resolve_right fun hws => hx' ?_) x hx
      exact List.mem_filterMap.mpr ⟨u, hws, hx⟩

/-- A statement does to its own call what the interface says. -/
theorem Holds.executeUpdate (h : s.Holds t stage) (hready : stage.Ready key q stmt)
    (hexec : s.executeUpdate key t stmt = some (n, s')) :
    ∃ stage', stage.After key stmt n stage' ∧ s'.Holds t stage' := by
  obtain ⟨ws, heffect, -, rfl⟩ := executeUpdate_eq_some hexec
  have hview : s.view t = s.tables.writes stage.pending := by rw [view, h.pending_eq]
  rw [hview] at heffect
  rw [h.conn]
  cases hmode : stage.conn.autoCommit with
  | true =>
    obtain ⟨orderId, m, rfl, rfl, -⟩ := hready.auto hmode
    exact ⟨.auto, .setOrderStatus, h.conn, h.locked, trivial⟩
  | false =>
    obtain ⟨stage', hafter, hfits, hpending, hmode'⟩ := hready.transaction hmode h.fits heffect
    exact ⟨stage', hafter, h.enqueued hmode hmode' hpending hfits⟩

omit [DecidableEq τ] [DecidableEq κ] in
/-- Setting a status writes no row of `STORES`. -/
theorem setOrderStatus_stores {orderId : String} {m : ℤ} {db : Tables κ} {ws : List (Write κ)}
    (heffect : (Statement.setOrderStatus orderId m).effect key db = some (n, ws)) :
    ∀ u ∈ ws, ∀ id, u.row? ≠ some (.store id) := by
  intro u hu id
  cases horder : db.orders (key orderId) with
  | none =>
    simp only [Statement.effect, horder, Option.some.injEq, Prod.mk.injEq] at heffect
    obtain ⟨-, rfl⟩ := heffect
    cases hu
  | some row =>
    simp only [Statement.effect, horder, Option.some.injEq, Prod.mk.injEq] at heffect
    obtain ⟨-, rfl⟩ := heffect
    obtain rfl := List.mem_singleton.mp hu
    simp [Write.row?]

/-- A statement leaves the stages of the other calls alone. -/
theorem Holds.executeUpdate_of_ne (h : s.Holds t stage) (hready : stage.Ready key q stmt)
    (hexec : s.executeUpdate key t stmt = some (n, s')) {stage' : Stage κ} (ht : t' ≠ t)
    (h' : s.Holds t' stage') : s'.Holds t' stage' := by
  obtain ⟨ws, heffect, hrows, rfl⟩ := executeUpdate_eq_some hexec
  have hfree : ∀ u ∈ ws, ∀ x, u.row? = some x → s.locks x = none ∨ s.locks x = some t :=
    fun u hu x hx => hrows x (row_mem_rows heffect u hu x hx)
  rw [h.conn]
  cases hmode : stage.conn.autoCommit with
  | true =>
    obtain ⟨orderId, m, rfl, -, -⟩ := hready.auto hmode
    exact h'.publish ht hfree fun u hu id hx => absurd hx (setOrderStatus_stores heffect u hu id)
  | false => exact h'.enqueue ht hfree

end DbServer

/-! ### The invariant of the system -/

/-- Call `t` has answered an accept request with 200. -/
def World.Answered (w : World τ κ) (t : τ) : Prop :=
  ∃ response, (t, response) ∈ w.sent ∧ response.isAccepted = true

/-- The world is as the state of call `t` says. -/
structure CallHolds (request : τ → OrderRequest) (w : World τ κ) (t : τ) (c : CallState κ) :
    Prop where
  holds : w.db.Holds t c.stage
  of : c.stage.Of (request t)
  commits : t ∈ w.db.commits ↔ c.committed = true
  answers : w.Answered t ↔ c.answered = true
  honest : c.answered = true → c.committed = true

/-- The world is as the states of the calls say. -/
def Invariant (request : τ → OrderRequest) (w : World τ κ) (g : τ → CallState κ) : Prop :=
  ∀ t, CallHolds request w t (g t)

namespace Invariant

variable [DecidableEq τ] {request : τ → OrderRequest} {w w' : World τ κ} {g : τ → CallState κ}
  {t : τ} {c : CallState κ}

/-- An operation has to establish the state of its own call and leave the others alone. -/
theorem update (h : Invariant request w g) (hself : CallHolds request w' t c)
    (hholds : ∀ t' ≠ t, ∀ stage, w.db.Holds t' stage → w'.db.Holds t' stage)
    (hcommits : ∀ t' ≠ t, (t' ∈ w'.db.commits ↔ t' ∈ w.db.commits))
    (hanswers : ∀ t' ≠ t, (w'.Answered t' ↔ w.Answered t')) :
    Invariant request w' (Function.update g t c) := by
  intro t'
  rcases eq_or_ne t' t with rfl | ht
  · rw [Function.update_self]
    exact hself
  · rw [Function.update_of_ne ht]
    obtain ⟨hh, hof, hc, ha, hhonest⟩ := h t'
    exact ⟨hholds t' ht _ hh, hof, (hcommits t' ht).trans hc, (hanswers t' ht).trans ha, hhonest⟩

/-- An operation that changes the database, but no history, and the stage of its own call. -/
theorem setStage (h : Invariant request w g) {db : DbServer τ κ} {stage : Stage κ}
    (hself : db.Holds t stage) (hof : stage.Of (request t))
    (hothers : ∀ t' ≠ t, ∀ stage', w.db.Holds t' stage' → db.Holds t' stage')
    (hcommits : db.commits = w.db.commits) :
    Invariant request { w with db := db }
      (Function.update g t { g t with stage := stage }) := by
  obtain ⟨-, -, hc, ha, hhonest⟩ := h t
  refine h.update ⟨hself, hof, ?_, ha, hhonest⟩ hothers (fun t' _ => ?_) fun t' _ => Iff.rfl
  · rw [hcommits]
    exact hc
  · rw [hcommits]

/-- An operation that changes neither the database nor what was answered. -/
theorem unchanged (h : Invariant request w g) (hdb : w'.db = w.db) (hsent : w'.sent = w.sent) :
    Invariant request w' (Function.update g t (g t)) := by
  rw [Function.update_eq_self]
  intro t'
  obtain ⟨hh, hof, hc, ha, hhonest⟩ := h t'
  refine ⟨hdb ▸ hh, hof, hdb ▸ hc, ?_, hhonest⟩
  rwa [World.Answered, hsent]

/-- Sending a response. -/
theorem sendPacket (h : Invariant request w g) {response : Response}
    (hpre : response.isAccepted = true → (g t).committed = true) :
    Invariant request { w with sent := w.sent ++ [(t, response)] }
      (Function.update g t { g t with answered := (g t).answered || response.isAccepted }) := by
  obtain ⟨hh, hof, hc, ha, hhonest⟩ := h t
  refine h.update ⟨hh, hof, hc, ?_, ?_⟩ (fun _ _ _ h => h) (fun _ _ => Iff.rfl) fun t' ht => ?_
  · simp only [World.Answered, List.mem_append, List.mem_singleton, Prod.mk.injEq, true_and,
      or_and_right, exists_or, exists_eq_left, Bool.or_eq_true]
    exact or_congr_left ha
  · intro hanswered
    rcases Bool.or_eq_true_iff.mp hanswered with hold | hnew
    · exact hhonest hold
    · exact hpre hnew
  · simp only [World.Answered, List.mem_append, List.mem_singleton, Prod.mk.injEq, ht, false_and,
      or_false]

/-- Rolling a transaction back. -/
theorem rollback (h : Invariant request w g) :
    Invariant request { w with db := w.db.rollback t }
      (Function.update g t { g t with stage := (g t).stage.rolledBack }) :=
  h.setStage (h t).holds.rolledBack (by cases (g t).stage <;> trivial)
    (fun _ ht _ h' => h'.rollback ht) rfl

variable [DecidableEq κ] {key : String → κ}

/-- Committing a complete transaction. -/
theorem commit (h : Invariant request w g) (hcomplete : (g t).stage.Complete) :
    Invariant request { w with db := w.db.commit t }
      (Function.update g t { g t with stage := .opened, committed := true }) := by
  obtain ⟨hh, -, -, ha, -⟩ := h t
  have hmode : (g t).stage.conn.autoCommit = false := by
    cases hstage : (g t).stage <;> simp_all [Stage.Complete, Stage.conn]
  have hconn := hh.conns_published
  rw [hmode] at hconn
  obtain ⟨hconn, hlocked, hfits⟩ := DbServer.holds_of_clean hconn
  refine h.update ⟨⟨hconn, hlocked, hfits⟩, trivial, ?_, ha, fun _ => rfl⟩ ?_ ?_ fun _ _ => Iff.rfl
  · exact iff_of_true (List.mem_append_right _ (List.mem_singleton_self t)) rfl
  · intro t' ht stage' h'
    obtain ⟨hconn', hlocked', hfits'⟩ := hh.published_of_ne ht h'
    exact ⟨hconn', hlocked', hfits'⟩
  · intro t' ht
    simp only [DbServer.commit, List.mem_append, List.mem_singleton, ht, or_false]

/-- Switching autocommit on or off between transactions. -/
theorem setAutoCommit (h : Invariant request w g) (on : Bool) (hclean : (g t).stage.Clean) :
    Invariant request { w with db := w.db.setAutoCommit t on }
      (Function.update g t { g t with stage := if on then .auto else .opened }) := by
  have hh := (h t).holds
  have hpending : (w.db.conns t).pending = [] := by
    rw [hh.pending_eq]
    cases hstage : (g t).stage <;> simp_all [Stage.Clean, Stage.pending]
  refine h.setStage (DbServer.holds_of_clean ?_) (by cases on <;> trivial) ?_ (by cases on <;> rfl)
  · cases on with
    | true => exact Function.update_self t _ _
    | false =>
      rw [← hpending]
      exact Function.update_self t _ _
  · intro t' ht stage' h'
    cases on with
    | true =>
      obtain ⟨hconn, hlocked, hfits⟩ := hh.published_of_ne ht h'
      exact ⟨(Function.update_of_ne ht _ _).trans hconn, hlocked, hfits⟩
    | false => exact ⟨(Function.update_of_ne ht _ _).trans h'.conn, h'.locked, h'.fits⟩

/-- Executing a statement. -/
theorem executeUpdate (h : Invariant request w g) {stmt : Statement} {n : ℕ}
    {db : DbServer τ κ} (hready : (g t).stage.Ready key (request t) stmt)
    (hexec : w.db.executeUpdate key t stmt = some (n, db)) :
    ∃ stage, (g t).stage.After key stmt n stage ∧ Invariant request { w with db := db }
      (Function.update g t { g t with stage := stage }) := by
  obtain ⟨stage, hafter, hholds⟩ := (h t).holds.executeUpdate hready hexec
  refine ⟨stage, hafter, h.setStage hholds (hready.of hafter (h t).of) ?_ ?_⟩
  · intro t' ht stage' h'
    exact (h t).holds.executeUpdate_of_ne hready hexec ht h'
  · obtain ⟨ws, -, -, rfl⟩ := DbServer.executeUpdate_eq_some hexec
    split <;> rfl

/-- **Every operation keeps the invariant and does what the interface says.** -/
theorem of_exec (h : Invariant request w g) {o : Op} {e : Env} {r : Except String o.Res}
    (hpre : (orderInterface key (request t)).pre (g t) o)
    (hexec : exec key t o e w = some (r, w')) :
    ∃ c, (orderInterface key (request t)).post (g t) o r c ∧
      Invariant request w' (Function.update g t c) := by
  cases o with
  | setAutoCommit on =>
    cases e with
    | ok =>
      obtain ⟨rfl, rfl⟩ := Prod.mk.inj (Option.some.inj hexec)
      exact ⟨_, rfl, h.setAutoCommit on hpre⟩
    | _ => cases hexec
  | prepareStatement =>
    cases e with
    | ok | fault =>
      obtain ⟨rfl, rfl⟩ := Prod.mk.inj (Option.some.inj hexec)
      exact ⟨_, rfl, h.unchanged rfl rfl⟩
    | _ => cases hexec
  | executeUpdate stmt =>
    cases e with
    | ok =>
      obtain ⟨⟨n, db⟩, hstmt, heq⟩ := Option.map_eq_some_iff.mp hexec
      obtain ⟨rfl, rfl⟩ := Prod.mk.inj heq
      obtain ⟨stage, hafter, h'⟩ := h.executeUpdate hpre hstmt
      exact ⟨_, ⟨stage, hafter, rfl⟩, h'⟩
    | fault =>
      obtain ⟨rfl, rfl⟩ := Prod.mk.inj (Option.some.inj hexec)
      exact ⟨_, .inl rfl, h.unchanged rfl rfl⟩
    | deadlock =>
      obtain ⟨rfl, rfl⟩ := Prod.mk.inj (Option.some.inj hexec)
      exact ⟨_, .inr rfl, h.rollback⟩
    | _ => cases hexec
  | commit =>
    cases e with
    | ok =>
      obtain ⟨rfl, rfl⟩ := Prod.mk.inj (Option.some.inj hexec)
      exact ⟨_, rfl, h.commit hpre⟩
    | fault =>
      obtain ⟨rfl, rfl⟩ := Prod.mk.inj (Option.some.inj hexec)
      exact ⟨_, rfl, h.unchanged rfl rfl⟩
    | _ => cases hexec
  | rollback =>
    cases e with
    | ok =>
      obtain ⟨rfl, rfl⟩ := Prod.mk.inj (Option.some.inj hexec)
      exact ⟨_, rfl, h.rollback⟩
    | _ => cases hexec
  | query q =>
    obtain ⟨answer, -, heq⟩ := Option.map_eq_some_iff.mp hexec
    obtain ⟨rfl, rfl⟩ := Prod.mk.inj heq
    refine ⟨g t, ?_, h.unchanged rfl rfl⟩
    cases answer <;> rfl
  | localtime =>
    cases e with
    | time now =>
      obtain ⟨rfl, rfl⟩ := Prod.mk.inj (Option.some.inj hexec)
      exact ⟨_, rfl, h.unchanged rfl rfl⟩
    | _ => cases hexec
  | rand =>
    cases e with
    | number n =>
      obtain ⟨rfl, rfl⟩ := Prod.mk.inj (Option.some.inj hexec)
      exact ⟨_, rfl, h.unchanged rfl rfl⟩
    | _ => cases hexec
  | sendPacket response =>
    cases e with
    | ok =>
      obtain ⟨rfl, rfl⟩ := Prod.mk.inj (Option.some.inj hexec)
      exact ⟨_, rfl, h.sendPacket hpre⟩
    | _ => cases hexec
  | sendToUser userId notice =>
    cases e with
    | ok =>
      obtain ⟨rfl, rfl⟩ := Prod.mk.inj (Option.some.inj hexec)
      exact ⟨_, rfl, h.unchanged rfl rfl⟩
    | _ => cases hexec

end Invariant

/-! ### The effect of a step -/

/-- What operation `o` of call `t`, whose request is `q`, does to the orders. -/
inductive Effect [DecidableEq κ] (key : String → κ) (q : OrderRequest) (t : τ) (o : Op) (e : Env)
    (s s' : DbServer τ κ) : Prop
  /-- Nothing; a status update that is executed has found no order. -/
  | quiet (hmissing : ∀ orderId m, o = .executeUpdate (.setOrderStatus orderId m) → e = .ok →
        s.tables.orders (key orderId) = none)
      (htables : s'.tables = s.tables) (hmoves : s'.moves = s.moves)
      (hcommits : s'.commits = s.commits)
  /-- The status update the request asks for. -/
  | status {orderId : String} {m : ℤ} {row : OrderRow}
      (hop : o = .executeUpdate (.setOrderStatus orderId m)) (henv : e = .ok)
      (hq : q.statusUpdate = some (orderId, m))
      (hrow : s.tables.orders (key orderId) = some row)
      (htables : s'.tables =
        s.tables.write (.order (key orderId) { row with orderStatus := m }))
      (hmoves : s'.moves = s.moves ++ [⟨t, key orderId, row, { row with orderStatus := m }⟩])
      (hcommits : s'.commits = s.commits)
  /-- The commit of an accepted order. -/
  | accept {k : κ} {row : OrderRow} {store : Option StoreRow} (hop : o = .commit)
      (hq : q.isAccept = true) (hrow : s.tables.orders k = some row)
      (hwaiting : row.orderStatus = 0) (hstore : s.tables.stores row.storeId = store)
      (htables : s'.tables = s.tables.writes (Stage.counted k row store).pending)
      (hmoves : s'.moves = s.moves ++ [⟨t, k, row, row.accepted⟩])
      (hcommits : s'.commits = s.commits ++ [t])
  /-- The commit of a new order. -/
  | create {k : κ} {row : OrderRow} {details : List DetailRow} (hop : o = .commit)
      (hq : q.isAccept = false) (hmissing : s.tables.orders k = none)
      (hwaiting : row.orderStatus = 0)
      (htables : s'.tables = s.tables.writes (Stage.created k row details).pending)
      (hmoves : s'.moves = s.moves) (hcommits : s'.commits = s.commits ++ [t])

section Effect

variable [DecidableEq τ] [DecidableEq κ] {key : String → κ} {request : τ → OrderRequest}
  {w w' : World τ κ} {g : τ → CallState κ} {t : τ} {o : Op} {e : Env}

omit [DecidableEq τ] [DecidableEq κ] in
/-- The moves of a new order's transaction: none. -/
theorem movesOf_created {db : Tables κ} {k : κ} {row : OrderRow} {details : List DetailRow}
    (h : db.orders k = none) :
    DbServer.movesOf t db (Stage.created k row details).pending = [] := by
  simp [DbServer.movesOf, Stage.pending, h, List.filterMap_map]

omit [DecidableEq τ] [DecidableEq κ] in
/-- The moves of an accepted order's transaction: the order. -/
theorem movesOf_counted {db : Tables κ} {k : κ} {row : OrderRow} {store : Option StoreRow}
    (h : db.orders k = some row) :
    DbServer.movesOf t db (Stage.counted k row store).pending = [⟨t, k, row, row.accepted⟩] := by
  cases store <;> simp [DbServer.movesOf, Stage.pending, h]

/-- A statement touches the tables only when it is the status update of its request. -/
theorem Invariant.effect_executeUpdate (h : Invariant request w g) {stmt : Statement} {n : ℕ}
    {db : DbServer τ κ} (hready : (g t).stage.Ready key (request t) stmt)
    (hexec : w.db.executeUpdate key t stmt = some (n, db)) :
    Effect key (request t) t (.executeUpdate stmt) .ok w.db db := by
  obtain ⟨ws, heffect, -, rfl⟩ := DbServer.executeUpdate_eq_some hexec
  have hh := (h t).holds
  rw [hh.conn]
  cases hmode : (g t).stage.conn.autoCommit with
  | false =>
    -- no handler sets a status inside a transaction
    refine .quiet (fun orderId m hop _ => ?_) rfl rfl rfl
    obtain rfl := Op.executeUpdate.inj hop
    generalize (g t).stage = stage at hready hmode
    cases hready
    cases hmode
  | true =>
    obtain ⟨orderId, m, rfl, hauto, hq⟩ := hready.auto hmode
    have hview : w.db.view t = w.db.tables := by
      rw [DbServer.view, hh.pending_eq, hauto]
      rfl
    rw [hview] at heffect
    cases hrow : w.db.tables.orders (key orderId) with
    | none =>
      simp only [Statement.effect, hrow, Option.some.injEq, Prod.mk.injEq] at heffect
      obtain ⟨-, rfl⟩ := heffect
      refine .quiet (fun orderId' m' hop _ => ?_) rfl (List.append_nil _) rfl
      cases hop
      exact hrow
    | some row =>
      simp only [Statement.effect, hrow, Option.some.injEq, Prod.mk.injEq] at heffect
      obtain ⟨-, rfl⟩ := heffect
      refine .status rfl rfl hq hrow rfl ?_ rfl
      simp [DbServer.publish, DbServer.movesOf, hrow]

/-- A commit publishes an accepted or a created order. -/
theorem Invariant.effect_commit (h : Invariant request w g) (hcomplete : (g t).stage.Complete) :
    Effect key (request t) t .commit e w.db (w.db.commit t) := by
  obtain ⟨hh, hof, -, -, -⟩ := h t
  have htables : (w.db.commit t).tables = w.db.tables.writes (g t).stage.pending := by
    rw [← hh.pending_eq]
    rfl
  have hmoves : (w.db.commit t).moves =
      w.db.moves ++ DbServer.movesOf t w.db.tables (g t).stage.pending := by
    rw [← hh.pending_eq]
    rfl
  have hfits := hh.fits
  generalize (g t).stage = stage at *
  cases stage with
  | created k row details =>
    rw [movesOf_created hfits.1, List.append_nil] at hmoves
    exact .create rfl hof hfits.1 hfits.2 htables hmoves rfl
  | counted k row store =>
    rw [movesOf_counted hfits.1] at hmoves
    exact .accept rfl hof hfits.1 hfits.2.1 hfits.2.2 htables hmoves rfl
  | auto | opened | moved => exact hcomplete.elim

/-- Switching autocommit between transactions publishes nothing. -/
theorem Invariant.effect_setAutoCommit (h : Invariant request w g) (on : Bool)
    (hclean : (g t).stage.Clean) :
    Effect key (request t) t (.setAutoCommit on) e w.db (w.db.setAutoCommit t on) := by
  have hpending : (w.db.conns t).pending = [] := by
    rw [(h t).holds.pending_eq]
    cases hstage : (g t).stage <;> simp_all [Stage.Clean, Stage.pending]
  refine .quiet (fun _ _ hop => nomatch hop) ?_ ?_ (by cases on <;> rfl)
  · cases on with
    | true => simp [DbServer.setAutoCommit, DbServer.publish, DbServer.rollback, hpending]
    | false => rfl
  · cases on with
    | true =>
      simp [DbServer.setAutoCommit, DbServer.publish, DbServer.rollback, hpending,
        DbServer.movesOf]
    | false => rfl

/-- The effect of an operation. -/
theorem Invariant.effect (h : Invariant request w g) {r : Except String o.Res}
    (hpre : (orderInterface key (request t)).pre (g t) o)
    (hexec : exec key t o e w = some (r, w')) : Effect key (request t) t o e w.db w'.db := by
  cases o with
  | setAutoCommit on =>
    cases e with
    | ok =>
      obtain ⟨-, rfl⟩ := Prod.mk.inj (Option.some.inj hexec)
      exact h.effect_setAutoCommit on hpre
    | _ => cases hexec
  | executeUpdate stmt =>
    cases e with
    | ok =>
      obtain ⟨⟨n, db⟩, hstmt, heq⟩ := Option.map_eq_some_iff.mp hexec
      obtain ⟨-, rfl⟩ := Prod.mk.inj heq
      exact h.effect_executeUpdate hpre hstmt
    | fault | deadlock =>
      obtain ⟨-, rfl⟩ := Prod.mk.inj (Option.some.inj hexec)
      exact .quiet (fun _ _ _ henv => nomatch henv) rfl rfl rfl
    | _ => cases hexec
  | commit =>
    cases e with
    | ok =>
      obtain ⟨-, rfl⟩ := Prod.mk.inj (Option.some.inj hexec)
      exact h.effect_commit hpre
    | fault =>
      obtain ⟨-, rfl⟩ := Prod.mk.inj (Option.some.inj hexec)
      exact .quiet (fun _ _ hop => nomatch hop) rfl rfl rfl
    | _ => cases hexec
  | query q =>
    obtain ⟨answer, -, heq⟩ := Option.map_eq_some_iff.mp hexec
    obtain ⟨-, rfl⟩ := Prod.mk.inj heq
    exact .quiet (fun _ _ hop => nomatch hop) rfl rfl rfl
  | prepareStatement | rollback | localtime | rand | sendPacket | sendToUser =>
    cases e <;> first
      | cases hexec; done
      | obtain ⟨-, rfl⟩ := Prod.mk.inj (Option.some.inj hexec)
        exact .quiet (fun _ _ hop => nomatch hop) rfl rfl rfl

end Effect

/-! ### The tables after a step -/

section Tables

variable [DecidableEq κ] {key : String → κ} {db : Tables κ}

/-- The stores after an accepted order has been committed. -/
theorem stores_counted {k : κ} {row : OrderRow} {store : Option StoreRow}
    (hstore : db.stores row.storeId = store) (id : ℤ) :
    (db.writes (Stage.counted k row store).pending).stores id =
      (db.stores id).map fun st => st.sold (if row.storeId = id then row.totalPrice else 0) := by
  by_cases hid : row.storeId = id
  · subst hid
    cases store with
    | none => simp [Stage.pending, hstore]
    | some st => simp [Stage.pending, hstore]
  · have hsame : (db.writes (Stage.counted k row store).pending).stores id = db.stores id := by
      cases store with
      | none => rfl
      | some st => exact Function.update_of_ne (Ne.symm hid) _ _
    simp [hsame, hid]

/-- The orders after an accepted order has been committed. -/
theorem orders_counted {k : κ} {row : OrderRow} {store : Option StoreRow} :
    (db.writes (Stage.counted k row store).pending).orders =
      Function.update db.orders k (some row.accepted) := by
  cases store <;> rfl

/-- The orders and the stores after a new order has been committed. -/
theorem tables_created {k : κ} {row : OrderRow} {details : List DetailRow} :
    (db.writes (Stage.created k row details).pending).orders =
        Function.update db.orders k (some row) ∧
      (db.writes (Stage.created k row details).pending).stores = db.stores :=
  (db.write (.order k row)).writes_details details

/-- Orders are never deleted, and keep their store and their price. -/
theorem Effect.persists {q : OrderRequest} {t : τ} {o : Op} {e : Env} {db db' : DbServer τ κ}
    (h : Effect key q t o e db db') {k : κ} {row : OrderRow}
    (hrow : db.tables.orders k = some row) :
    ∃ row', db'.tables.orders k = some row' ∧ row'.storeId = row.storeId ∧
      row'.totalPrice = row.totalPrice := by
  cases h with
  | quiet _ htables _ _ => exact ⟨row, htables ▸ hrow, rfl, rfl⟩
  | @status orderId m old _ _ _ hold htables _ _ =>
    rw [htables, Tables.write_order_orders]
    rcases eq_or_ne k (key orderId) with rfl | hk
    · obtain rfl := Option.some.inj (hrow.symm.trans hold)
      exact ⟨_, Function.update_self _ _ _, rfl, rfl⟩
    · exact ⟨row, (Function.update_of_ne hk _ _).trans hrow, rfl, rfl⟩
  | @accept k' old _ _ _ hold _ _ htables _ _ =>
    rw [htables, orders_counted]
    rcases eq_or_ne k k' with rfl | hk
    · obtain rfl := Option.some.inj (hrow.symm.trans hold)
      exact ⟨_, Function.update_self _ _ _, rfl, rfl⟩
    · exact ⟨row, (Function.update_of_ne hk _ _).trans hrow, rfl, rfl⟩
  | @create k' _ _ _ _ hmissing _ htables _ _ =>
    rw [htables, tables_created.1]
    have hk : k ≠ k' := by
      rintro rfl
      rw [hmissing] at hrow
      cases hrow
    exact ⟨row, (Function.update_of_ne hk _ _).trans hrow, rfl, rfl⟩

end Tables

/-! ### Runs -/

namespace OrderSystem

variable [DecidableEq τ] [DecidableEq κ] {key : String → κ} {request : τ → OrderRequest}
  {s s' : OrderSystem τ κ} {tables : Tables κ}

/-- The states in which every call is where the interface says. -/
def Safe (key : String → κ) (request : τ → OrderRequest) (s : OrderSystem τ κ) : Prop :=
  Threads.Safe (fun t => orderInterface key (request t)) (Invariant request)
    (fun t => Outcome (request t)) s

omit [DecidableEq τ] [DecidableEq κ] in
/-- The first state is safe. -/
theorem safe_init : Safe key request (init request tables) := by
  refine ⟨fun _ => ⟨.auto, false, false⟩, fun t => ?_, fun t => wp_handle (request t)⟩
  have hnone : ∀ u ∈ (.auto : Stage κ).pending, ∀ x, u.row? = some x → none = some t :=
    fun u hu => nomatch hu
  refine ⟨⟨rfl, hnone, trivial⟩, trivial, ?_, ?_, fun h => nomatch h⟩
  · exact iff_of_false List.not_mem_nil Bool.false_ne_true
  · refine iff_of_false ?_ Bool.false_ne_true
    rintro ⟨response, hmem, -⟩
    exact List.not_mem_nil hmem

/-- Steps keep every call safe. -/
theorem Safe.step (h : Safe key request s) {a : τ × Env}
    (hs : OrderSystem.step key s a = some s') : Safe key request s' :=
  Threads.Safe.step (fun _ _ _ _ _ _ _ hinv hpre hexec => Invariant.of_exec hinv hpre hexec) h hs

/-- **The effect of a step.** -/
theorem Safe.effect (h : Safe key request s) {a : τ × Env}
    (hs : OrderSystem.step key s a = some s') :
    ∃ o k, s.todo a.1 = .call o k ∧
      Effect key (request a.1) a.1 o a.2 s.world.db s'.world.db := by
  obtain ⟨g, o, k, r, w, hinv, htodo, hpre, hexec, rfl⟩ := Threads.Safe.next h hs
  exact ⟨o, k, htodo, hinv.effect hpre hexec⟩

omit [DecidableEq τ] [DecidableEq κ] in
/-- A finished call leaves its connection the way the pool hands it out, so it does not matter
which calls have used a connection before. -/
theorem Safe.conn_of_finished (h : Safe key request s) {t : τ} (ht : s.Finished t) :
    s.world.db.conns t = ⟨true, []⟩ := by
  obtain ⟨g, r, hinv, hauto, -⟩ := Threads.Safe.finished h ht
  rw [(hinv t).holds.conn, hauto]
  rfl

/-- Every state of every run is safe. -/
theorem always_safe {l : List (τ × Env)} :
    Transition.Always (step key) (Safe key request) (init request tables) l :=
  Transition.always_of_forall (fun _ _ _ h hs => h.step hs) safe_init

end OrderSystem

end ItsBedalyo
