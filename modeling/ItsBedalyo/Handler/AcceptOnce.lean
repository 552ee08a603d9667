import ItsBedalyo.Handler.Sales

/-!
# Accepting an order exactly once

Any number of concurrent `handleOrderAccept` calls, on any orders of any stores, with any
statement or commit failing. `ExactlyOnce` describes every state they can get to: no order has
been moved twice, the tables are the first ones with the moved orders at 1 and their prices
added to their stores, each committed call has moved one order, and 200 goes to committed calls
only. A finished call has answered 200 if and only if it has committed, and a committed call
gets to its answer.
-/

namespace ItsBedalyo

open Transition OrderSystem

variable {τ κ : Type*} [DecidableEq τ] [DecidableEq κ] {key : String → κ}

/-! ### Calls that run to their end -/

/-- The environment can answer every operation: those that can wait can also fail. -/
theorem exec_enabled (t : τ) (o : Op) (w : World τ κ) :
    ∃ e r w', exec key t o e w = some (r, w') := by
  cases o with
  | executeUpdate stmt => exact ⟨.fault "", .error "", w, rfl⟩
  | query q =>
    cases q with
    | getMenuName | getOptionName => exact ⟨.text "", _, _, rfl⟩
    | _ => exact ⟨.ok, _, _, rfl⟩
  | localtime => exact ⟨.time ⟨"", "", by decide⟩, _, _, rfl⟩
  | rand => exact ⟨.number 0, _, _, rfl⟩
  | _ => exact ⟨.ok, _, _, rfl⟩

variable {request : τ → OrderRequest} {tables : Tables κ} {s s' : OrderSystem τ κ}

/-- A call that has committed stays committed. -/
theorem mem_commits_of_reaches (hsafe : Safe key request s) {t : τ}
    (ht : t ∈ s.world.db.commits) (hreach : Reaches (step key) s s') :
    Safe key request s' ∧ t ∈ s'.world.db.commits := by
  obtain ⟨l, hl⟩ := hreach
  refine invariant_run (I := fun s => Safe key request s ∧ t ∈ s.world.db.commits) ?_
    ⟨hsafe, ht⟩ hl
  rintro s a s' ⟨hsafe, ht⟩ hs
  refine ⟨hsafe.step hs, ?_⟩
  obtain ⟨o, k, -, heffect⟩ := hsafe.effect hs
  cases heffect with
  | quiet _ _ _ hcommits | status _ _ _ _ _ _ hcommits => exact hcommits ▸ ht
  | accept _ _ _ _ _ _ _ hcommits | create _ _ _ _ _ _ hcommits =>
    exact hcommits ▸ List.mem_append_left _ ht

omit [DecidableEq τ] [DecidableEq κ] in
/-- A finished accept call has answered 200 if and only if it has committed. -/
theorem answered_iff_of_finished (hsafe : Safe key request s) {t : τ}
    (hq : (request t).isAccept = true) (ht : s.Finished t) :
    s.world.Answered t ↔ t ∈ s.world.db.commits := by
  obtain ⟨g, r, hinv, houtcome⟩ := Threads.Safe.finished hsafe ht
  exact (hinv t).answers.trans ((houtcome.2 hq).symm.trans (hinv t).commits.symm)

/-! ### Exactly once -/

/-- The state of the accepts that have been committed so far. -/
structure ExactlyOnce (key : String → κ) (tables : Tables κ) (s : OrderSystem τ κ) : Prop where
  /-- No order has been moved twice. -/
  moved_once : (s.world.db.moves.map OrderMove.order).Nodup
  /-- Each move took an order that was waiting at first from 0 to 1. -/
  moved : ∀ m ∈ s.world.db.moves, tables.orders m.order = some m.before ∧
    m.before.orderStatus = 0 ∧ s.world.db.tables.orders m.order = some m.before.accepted
  /-- The other orders are as they were. -/
  unmoved : ∀ k, k ∉ s.world.db.moves.map OrderMove.order →
    s.world.db.tables.orders k = tables.orders k
  /-- Each store has sold what its moved orders cost. -/
  sales : ∀ id, s.world.db.tables.stores id =
    (tables.stores id).map fun store => store.sold (salesOf id s.world.db.moves)
  /-- Each committed call has moved one order, and nobody else has. -/
  commits : s.world.db.moves.map OrderMove.caller = s.world.db.commits
  /-- Only committed calls answer 200, -/
  honest : ∀ t, s.world.Answered t → t ∈ s.world.db.commits
  /-- those that are finished all have, -/
  answered : ∀ t, s.Finished t → (s.world.Answered t ↔ t ∈ s.world.db.commits)
  /-- and the others can go on to their answer. -/
  answers : ∀ t ∈ s.world.db.commits, ∃ s', Reaches (step key) s s' ∧ s'.world.Answered t

/-- The moves and the commits of accept calls, relative to the first tables. -/
structure Moved (tables : Tables κ) (db : DbServer τ κ) : Prop where
  nodup : (db.moves.map OrderMove.order).Nodup
  moved : ∀ m ∈ db.moves, tables.orders m.order = some m.before ∧
    m.before.orderStatus = 0 ∧ db.tables.orders m.order = some m.before.accepted
  unmoved : ∀ k, k ∉ db.moves.map OrderMove.order → db.tables.orders k = tables.orders k
  commits : db.moves.map OrderMove.caller = db.commits

omit [DecidableEq τ] in
/-- A step of an accept call keeps them so. -/
theorem Moved.effect {db db' : DbServer τ κ} (h : Moved tables db) {q : OrderRequest} {t : τ}
    {o : Op} {e : Env} (hq : q.isAccept = true) (heffect : Effect key q t o e db db') :
    Moved tables db' := by
  cases heffect with
  | quiet _ htables hmoves hcommits =>
    obtain ⟨hnodup, hmoved, hunmoved, hcallers⟩ := h
    constructor
    · rwa [hmoves]
    · rwa [hmoves, htables]
    · rwa [hmoves, htables]
    · rwa [hmoves, hcommits]
  | status _ _ hupdate _ _ _ _ =>
    rw [OrderRequest.isAccept_eq_false hupdate] at hq
    cases hq
  | create _ hnot _ _ _ _ _ =>
    rw [hnot] at hq
    cases hq
  | @accept k row _ _ _ hrow hwaiting _ htables hmoves hcommits =>
    -- a moved order is at 1, so the order that is moved now is another one
    have hnew : k ∉ db.moves.map OrderMove.order := by
      intro hmem
      obtain ⟨m, hm, rfl⟩ := List.mem_map.mp hmem
      rw [(h.moved m hm).2.2] at hrow
      obtain rfl := Option.some.inj hrow
      exact one_ne_zero hwaiting
    have horders : db'.tables.orders = Function.update db.tables.orders k (some row.accepted) := by
      rw [htables, orders_counted]
    constructor
    · rw [hmoves, List.map_append, List.map_singleton]
      exact List.Nodup.append h.nodup (List.nodup_singleton _) (List.disjoint_singleton.mpr hnew)
    · intro m hm
      rw [hmoves, List.mem_append, List.mem_singleton] at hm
      rcases hm with hm | rfl
      · have hk : m.order ≠ k := fun hk => hnew (hk ▸ List.mem_map_of_mem hm)
        rw [horders, Function.update_of_ne hk]
        exact h.moved m hm
      · rw [horders, Function.update_self]
        exact ⟨(h.unmoved k hnew).symm.trans hrow, hwaiting, rfl⟩
    · intro k' hk'
      rw [hmoves, List.map_append, List.map_singleton, List.mem_append, List.mem_singleton,
        not_or] at hk'
      rw [horders, Function.update_of_ne hk'.2]
      exact h.unmoved k' hk'.1
    · rw [hmoves, hcommits, List.map_append, List.map_singleton, h.commits]

omit [DecidableEq τ] [DecidableEq κ] in
/-- Before the first commit. -/
theorem moved_init : Moved tables (DbServer.init tables : DbServer τ κ) :=
  ⟨List.nodup_nil, fun _ hm => absurd hm List.not_mem_nil, fun _ _ => rfl, rfl⟩

/-- **Exactly once.** Whatever the calls accept and however their operations are interleaved
and fail, every state they visit is as `ExactlyOnce` says. -/
theorem accept_exactly_once (key : String → κ) (body : τ → Except String OrderAcceptReqDTO)
    (tables : Tables κ) (l : List (τ × Env)) :
    Always (step key) (ExactlyOnce key tables)
      (init (fun t => .orderAccept (body t)) tables) l := by
  have h : Always (step key)
      (fun s => (Safe key (fun t => .orderAccept (body t)) s ∧
        Accounts (fun t => .orderAccept (body t)) tables s) ∧ Moved tables s.world.db)
      (init (fun t => .orderAccept (body t)) tables) l := by
    refine always_of_forall (fun s a s' h hs => ?_) ⟨⟨safe_init, accounts_init⟩, moved_init⟩
    obtain ⟨⟨hsafe, haccounts⟩, hmoved⟩ := h
    obtain ⟨o, k, -, heffect⟩ := hsafe.effect hs
    exact ⟨⟨hsafe.step hs, haccounts.step hsafe hs⟩, hmoved.effect rfl heffect⟩
  refine h.mono fun s hs => ?_
  obtain ⟨⟨hsafe, haccounts⟩, hnodup, hmoved, hunmoved, hcommits⟩ := hs
  refine ⟨hnodup, hmoved, hunmoved, fun id => ?_, hcommits, fun t ht => ?_, fun t ht => ?_,
    fun t ht => ?_⟩
  · -- all requests are accepts, so all moves count
    have hall : acceptMoves (fun t => .orderAccept (body t)) s.world.db.moves =
        s.world.db.moves := List.filter_eq_self.mpr fun _ _ => rfl
    rw [haccounts.sales id, hall]
  · obtain ⟨g, hinv, -⟩ := hsafe
    exact (hinv t).commits.mpr ((hinv t).honest ((hinv t).answers.mp ht))
  · exact answered_iff_of_finished hsafe rfl ht
  · -- let the call run to its end: it stays committed, so it has answered then
    obtain ⟨s', hreach, hfin⟩ := Threads.reaches_finished exec_enabled s t
    obtain ⟨hsafe', ht'⟩ := mem_commits_of_reaches hsafe ht hreach
    exact ⟨s', hreach, (answered_iff_of_finished hsafe' rfl hfin).mpr ht'⟩

/-- Two calls race for one order of store 7 worth 500. The second one has to wait until the
first one has committed, and finds the order taken. -/
example :
    (run (step id)
      (init (fun _ : Fin 2 => .orderAccept (.ok ⟨"A ", 20⟩))
        ⟨fun k => if k = "A" then some ⟨"kim", 7, 500, 0, "", "", ""⟩ else none,
          fun id => if id = 7 then some ⟨"owner", 0, 100⟩ else none, []⟩)
      ([(0, .ok), (1, .ok), (1, .ok)] ++ List.replicate 7 (0, .ok) ++
        List.replicate 4 (1, .ok))).map
      (fun s => (s.world.sent.map fun p => (p.1, p.2.status),
        (s.world.db.tables.stores 7).map StoreRow.totalSales)) =
    some ([(0, 200), (1, 500)], some 600) := by
  decide +kernel

end ItsBedalyo
