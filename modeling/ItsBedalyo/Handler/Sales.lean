import ItsBedalyo.Handler.OrderEffects
import Mathlib.Algebra.BigOperators.Group.Finset.Basic

/-!
# Sales accounting

`total_sales` under every order request. Only `handleOrderAccept` touches it, so what a store
has sold is what its accepted orders cost: `sales_exact` shows that each store's total is its
first value plus one summand for each move from 0 to 1 that a committed accept has made on one
of its orders, whatever happens to the orders later. An order is accepted once as long as
nobody puts it back to 0.

The status does not tell what was counted: `rejected_still_counted` runs one order through
create, accept and reject.
-/

namespace ItsBedalyo

open Transition

variable {τ κ : Type*}

/-- The moves that accept requests have made. -/
def acceptMoves (request : τ → OrderRequest) (moves : List (OrderMove τ κ)) :
    List (OrderMove τ κ) :=
  moves.filter fun m => (request m.caller).isAccept

/-- What the moved orders of a store cost. -/
def salesOf (id : ℤ) (moves : List (OrderMove τ κ)) : ℤ :=
  ((moves.filter fun m => m.before.storeId = id).map fun m => m.before.totalPrice).sum

@[simp] theorem salesOf_nil (id : ℤ) : salesOf id ([] : List (OrderMove τ κ)) = 0 := rfl

theorem salesOf_concat (id : ℤ) (moves : List (OrderMove τ κ)) (m : OrderMove τ κ) :
    salesOf id (moves ++ [m]) =
      salesOf id moves + if m.before.storeId = id then m.before.totalPrice else 0 := by
  unfold salesOf
  rw [List.filter_append, List.map_append, List.sum_append]
  by_cases h : m.before.storeId = id <;> simp [h]

theorem acceptMoves_concat (request : τ → OrderRequest) (moves : List (OrderMove τ κ))
    (m : OrderMove τ κ) :
    acceptMoves request (moves ++ [m]) =
      acceptMoves request moves ++ if (request m.caller).isAccept then [m] else [] := by
  unfold acceptMoves
  rw [List.filter_append]
  cases h : (request m.caller).isAccept <;> simp [h]

variable [DecidableEq τ] [DecidableEq κ] {key : String → κ} {request : τ → OrderRequest}
  {tables : Tables κ} {s s' : OrderSystem τ κ}

/-- Every store has sold what its accepted orders cost. -/
def SalesExact (request : τ → OrderRequest) (tables : Tables κ) (s : OrderSystem τ κ) : Prop :=
  ∀ id, s.world.db.tables.stores id =
    (tables.stores id).map fun store =>
      store.sold (salesOf id (acceptMoves request s.world.db.moves))

/-- A step adds the price of an order to its store exactly when it commits its acceptance. -/
theorem SalesExact.step (h : SalesExact request tables s) (hsafe : OrderSystem.Safe key request s)
    {a : τ × Env} (hs : OrderSystem.step key s a = some s') : SalesExact request tables s' := by
  intro id
  obtain ⟨o, k, -, heffect⟩ := hsafe.effect hs
  cases heffect with
  | quiet _ htables hmoves _ =>
    rw [htables, hmoves]
    exact h id
  | status _ _ hq _ htables hmoves _ =>
    rw [htables, hmoves, acceptMoves_concat, OrderRequest.isAccept_eq_false hq]
    simpa using h id
  | accept _ hq _ _ hstore htables hmoves _ =>
    rw [htables, hmoves, acceptMoves_concat, hq, if_pos rfl, salesOf_concat, stores_counted hstore,
      h id, Option.map_map]
    congr 1
    funext store
    exact store.sold_sold _ _
  | create _ _ _ _ htables hmoves _ =>
    rw [htables, hmoves, tables_created.2]
    exact h id

/-- A recorded move of an accept: from 0 to 1, and the order is still there with the store and
the price that were counted. -/
def Accepted (db : Tables κ) (m : OrderMove τ κ) : Prop :=
  m.before.orderStatus = 0 ∧ m.after = m.before.accepted ∧
    ∃ row, db.orders m.order = some row ∧ row.storeId = m.before.storeId ∧
      row.totalPrice = m.before.totalPrice

/-- The accounts of a state: every store has sold what its accepted orders cost, and every
order counted was waiting when it was accepted and is still in the table. -/
structure Accounts (request : τ → OrderRequest) (tables : Tables κ) (s : OrderSystem τ κ) :
    Prop where
  sales : SalesExact request tables s
  accepted : ∀ m ∈ acceptMoves request s.world.db.moves, Accepted s.world.db.tables m

/-- A step keeps the accounts. -/
theorem Accounts.step (h : Accounts request tables s) (hsafe : OrderSystem.Safe key request s)
    {a : τ × Env} (hs : OrderSystem.step key s a = some s') : Accounts request tables s' := by
  refine ⟨h.sales.step hsafe hs, ?_⟩
  obtain ⟨o, k, -, heffect⟩ := hsafe.effect hs
  have hold : ∀ m ∈ acceptMoves request s.world.db.moves, Accepted s'.world.db.tables m := by
    intro m hm
    obtain ⟨hwaiting, hafter, row, hrow, hstore, hprice⟩ := h.accepted m hm
    obtain ⟨row', hrow', hstore', hprice'⟩ := heffect.persists hrow
    exact ⟨hwaiting, hafter, row', hrow', hstore'.trans hstore, hprice'.trans hprice⟩
  intro m hm
  cases heffect with
  | quiet _ _ hmoves _ => exact hold m (hmoves ▸ hm)
  | status _ _ hq _ _ hmoves _ =>
    rw [hmoves, acceptMoves_concat, OrderRequest.isAccept_eq_false hq] at hm
    exact hold m (by simpa using hm)
  | @accept k row _ _ hq hrow hwaiting _ htables hmoves _ =>
    rw [hmoves, acceptMoves_concat, hq, if_pos rfl, List.mem_append] at hm
    rcases hm with hm | hm
    · exact hold m hm
    · obtain rfl := List.mem_singleton.mp hm
      refine ⟨hwaiting, rfl, row.accepted, ?_, rfl, rfl⟩
      rw [htables, orders_counted]
      exact Function.update_self k _ _
  | create _ _ _ _ _ hmoves _ => exact hold m (hmoves ▸ hm)

omit [DecidableEq τ] [DecidableEq κ] in
/-- The first accounts. -/
theorem accounts_init : Accounts request tables (OrderSystem.init request tables) := by
  refine ⟨fun id => ?_, fun m hm => nomatch hm⟩
  show tables.stores id = _
  cases tables.stores id with
  | none => rfl
  | some store => exact congrArg some store.sold_zero.symm

/-! ### Counting an order once -/

/-- No status update that is executed puts an order back to 0. -/
def NotReset (key : String → κ) (s : OrderSystem τ κ) (a : τ × Env) : Prop :=
  ∀ orderId k, s.todo a.1 = .call (.executeUpdate (.setOrderStatus orderId 0)) k → a.2 = .ok →
    ∀ row, s.world.db.tables.orders (key orderId) = some row → row.orderStatus = 0

/-- Every accepted order is counted once, and has left 0. -/
structure CountedOnce (request : τ → OrderRequest) (s : OrderSystem τ κ) : Prop where
  nodup : ((acceptMoves request s.world.db.moves).map OrderMove.order).Nodup
  left : ∀ m ∈ acceptMoves request s.world.db.moves, ∀ row,
    s.world.db.tables.orders m.order = some row → row.orderStatus ≠ 0

/-- A step that does not put an order back to 0 counts no order twice. -/
theorem CountedOnce.step (h : CountedOnce request s) (hsafe : OrderSystem.Safe key request s)
    (haccounts : Accounts request tables s) {a : τ × Env} (hreset : NotReset key s a)
    (hs : OrderSystem.step key s a = some s') : CountedOnce request s' := by
  obtain ⟨o, k, htodo, heffect⟩ := hsafe.effect hs
  cases heffect with
  | quiet _ htables hmoves _ =>
    refine ⟨?_, ?_⟩
    · rw [hmoves]
      exact h.nodup
    · rw [hmoves, htables]
      exact h.left
  | @status orderId n row hop henv hq hrow htables hmoves _ =>
    have hmoves' : acceptMoves request s'.world.db.moves =
        acceptMoves request s.world.db.moves := by
      rw [hmoves, acceptMoves_concat, OrderRequest.isAccept_eq_false hq]
      exact List.append_nil _
    refine ⟨?_, fun m hm row' hrow' => ?_⟩
    · rw [hmoves']
      exact h.nodup
    · rw [hmoves'] at hm
      rw [htables, Tables.write_order_orders] at hrow'
      rcases eq_or_ne m.order (key orderId) with hk | hk
      · -- the order that is updated: to 0 only if it was at 0
        rw [hk, Function.update_self] at hrow'
        obtain rfl := Option.some.inj hrow'
        rintro rfl
        subst hop
        exact h.left m hm row (hk ▸ hrow) (hreset _ _ htodo henv row hrow)
      · rw [Function.update_of_ne hk] at hrow'
        exact h.left m hm row' hrow'
  | @accept k row _ _ hq hrow hwaiting _ htables hmoves _ =>
    have hmoves' : acceptMoves request s'.world.db.moves =
        acceptMoves request s.world.db.moves ++ [⟨a.1, k, row, row.accepted⟩] := by
      rw [hmoves, acceptMoves_concat, hq, if_pos rfl]
    -- an order that was counted before is no longer at 0
    have hnew : k ∉ (acceptMoves request s.world.db.moves).map OrderMove.order := by
      intro hmem
      obtain ⟨m, hm, rfl⟩ := List.mem_map.mp hmem
      exact h.left m hm row hrow hwaiting
    refine ⟨?_, fun m hm row' hrow' => ?_⟩
    · rw [hmoves', List.map_append, List.map_singleton]
      refine List.Nodup.append h.nodup (List.nodup_singleton _) ?_
      exact List.disjoint_singleton.mpr hnew
    · rw [htables, orders_counted] at hrow'
      rw [hmoves', List.mem_append, List.mem_singleton] at hm
      rcases eq_or_ne m.order k with hk | hk
      · rw [hk, Function.update_self] at hrow'
        obtain rfl := Option.some.inj hrow'
        exact one_ne_zero
      · rw [Function.update_of_ne hk] at hrow'
        refine h.left m (hm.resolve_right ?_) row' hrow'
        rintro rfl
        exact hk rfl
  | @create k row _ _ _ hmissing _ htables hmoves _ =>
    refine ⟨?_, fun m hm row' hrow' => ?_⟩
    · rw [hmoves]
      exact h.nodup
    · -- a counted order is still in the table, so the new one is another
      rw [hmoves] at hm
      obtain ⟨-, -, old, hold, -, -⟩ := haccounts.accepted m hm
      have hk : m.order ≠ k := by
        rintro rfl
        rw [hmissing] at hold
        cases hold
      rw [htables, tables_created.1, Function.update_of_ne hk] at hrow'
      exact h.left m hm row' hrow'

/-- **Sales accounting.** In every state of every run, each store's `total_sales` is its first
value plus the price of one of its orders for each move from 0 to 1 that a committed accept has
made; and in the runs in which no status update puts an order back to 0, no order is counted
twice. -/
theorem sales_accounting (key : String → κ) (request : τ → OrderRequest) (tables : Tables κ)
    (l : List (τ × Env)) :
    Always (OrderSystem.step key) (Accounts request tables) (OrderSystem.init request tables) l ∧
      (Along (OrderSystem.step key) (NotReset key) (OrderSystem.init request tables) l →
        Always (OrderSystem.step key) (CountedOnce request) (OrderSystem.init request tables)
          l) := by
  constructor
  · have h : Always (OrderSystem.step key)
        (fun s => OrderSystem.Safe key request s ∧ Accounts request tables s)
        (OrderSystem.init request tables) l :=
      always_of_forall (fun s a s' h hs => ⟨h.1.step hs, h.2.step h.1 hs⟩)
        ⟨OrderSystem.safe_init, accounts_init⟩
    exact h.mono fun _ h => h.2
  · intro hreset
    have h : Always (OrderSystem.step key)
        (fun s => (OrderSystem.Safe key request s ∧ Accounts request tables s) ∧
          CountedOnce request s)
        (OrderSystem.init request tables) l := by
      refine always_of_along (fun s a s' h hreset hs => ?_) ?_ hreset
      · obtain ⟨⟨hsafe, haccounts⟩, honce⟩ := h
        exact ⟨⟨hsafe.step hs, haccounts.step hsafe hs⟩,
          honce.step hsafe haccounts hreset hs⟩
      · exact ⟨⟨OrderSystem.safe_init, accounts_init⟩, List.nodup_nil, fun m hm => nomatch hm⟩
    exact h.mono fun _ h => h.2

/-! ### The status does not tell what was counted -/

/-- What an order adds to a store's sales if its status decides: its price in status 1 to 4. -/
def priceIfAccepted (id : ℤ) : Option OrderRow → ℤ
  | some row =>
    if row.storeId = id ∧ 1 ≤ row.orderStatus ∧ row.orderStatus ≤ 4 then row.totalPrice else 0
  | none => 0

/-- Each store's total is its first value plus the prices of its orders in status 1 to 4; `ks`
is any finite set with all the orders in it. -/
def SalesByStatus (tables : Tables κ) (s : OrderSystem τ κ) : Prop :=
  ∀ id before now, tables.stores id = some before → s.world.db.tables.stores id = some now →
    ∀ ks : Finset κ, (∀ k, s.world.db.tables.orders k ≠ none → k ∈ ks) →
      now.totalSales =
        before.totalSales + ∑ k ∈ ks, priceIfAccepted id (s.world.db.tables.orders k)

/-- One store, and no orders yet. -/
def oneStore : Tables String :=
  ⟨fun _ => none, fun id => if id = 7 then some ⟨"owner", 3000, 0⟩ else none, []⟩

/-- An order is created, accepted and rejected. -/
def rejectedOrder : Fin 3 → OrderRequest
  | 0 => .createOrder (.ok ⟨"kim", 7, 18000, "Seoul", [], "", ""⟩)
  | 1 => .orderAccept (.ok ⟨"ORD-20260401120000-007-kim", 30⟩)
  | 2 => .orderReject (.ok "ORD-20260401120000-007-kim")

/-- The three handlers, one after the other. -/
def rejectedRun : List (Fin 3 × Env) :=
  [(0, .ok), (0, .ok), (0, .time ⟨"20260401120000", "2026-04-01 12:00:00", by decide⟩),
   (0, .number 7)] ++
    List.replicate 5 (0, .ok) ++ List.replicate 6 (1, .ok) ++ List.replicate 2 (2, .ok)

/-- The order's row with a status. -/
def rejectedRow (status : ℤ) : OrderRow := ⟨"kim", 7, 18000, status, "Seoul", "", ""⟩

/-- A rejected order still counts. -/
theorem rejected_still_counted :
    ∃ s, run (OrderSystem.step id) (OrderSystem.init rejectedOrder oneStore) rejectedRun = some s ∧
      ¬SalesByStatus oneStore s := by
  have hrun : (run (OrderSystem.step id) (OrderSystem.init rejectedOrder oneStore)
      rejectedRun).map (fun s => (s.world.db.tables.orders, s.world.db.tables.stores 7)) =
        some (Function.update (Function.update (Function.update (fun _ => none)
          "ORD-20260401120000-007-kim" (some (rejectedRow 0)))
          "ORD-20260401120000-007-kim" (some (rejectedRow 1)))
          "ORD-20260401120000-007-kim" (some (rejectedRow 9)),
          some ⟨"owner", 3000, 18000⟩) := rfl
  obtain ⟨s, hs, hend⟩ := Option.map_eq_some_iff.mp hrun
  obtain ⟨horders, hstore⟩ := Prod.mk.inj hend
  refine ⟨s, hs, fun h => ?_⟩
  have hsum := h 7 ⟨"owner", 3000, 0⟩ _ rfl hstore {"ORD-20260401120000-007-kim"} fun k hk => by
    rw [horders] at hk
    by_contra hne
    rw [Finset.mem_singleton] at hne
    simp only [Function.update_of_ne hne, ne_eq, not_true_eq_false] at hk
  simp [horders, priceIfAccepted, rejectedRow] at hsum

end ItsBedalyo
