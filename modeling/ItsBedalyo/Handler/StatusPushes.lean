import ItsBedalyo.Handler.CookTimeSet
import ItsBedalyo.Handler.OperationRules
import ItsBedalyo.Lib.Outbox

/-!
# What a customer is told of an order's status

The handlers write the status of an order and push it to the customer in steps of their own.
`outbox` has the two sequences: the statuses that were committed for an order, each by its call,
and the states that its customer has been sent.
-/

namespace ItsBedalyo

open Interface

/-! ### What the handlers do -/

/-- What a call keeps track of with regard to one order: its mode, the status that its open
transaction gives the order, and the status that it has written and not yet announced. -/
structure PushState where
  autoCommit : Bool
  pending : Option ℤ
  owed : Option ℤ

namespace PushState

def fresh : PushState := ⟨true, none, none⟩

end PushState

section Spec

variable {κ : Type*} [DecidableEq κ] (key : String → κ) (k : κ) (c : String)

/-- What the operations do with regard to order `k` of customer `c`. A call that owes an
announcement has its lookups answered. -/
def pushSpec : HandlerSpec PushState where
  pre g
    | .setAutoCommit _ => g.pending = none
    | .executeUpdate (.acceptOrder _) => g.autoCommit = false ∧ g.pending = none
    | .executeUpdate (.addSales _) => g.autoCommit = false
    | .executeUpdate (.setOrderStatus _ _) =>
      g.autoCommit = true ∧ g.pending = none ∧ g.owed = none
    | .executeUpdate _ => False
    | .commit => g.owed = none
    | .sendToUser userId (.orderState orderId state _) =>
      userId = c → key orderId = k → ∀ n ∈ g.owed, n = state
    | _ => True
  returns g
    | .setAutoCommit on, _, g' => g' = { g with autoCommit := on }
    | .executeUpdate (.acceptOrder orderId), n, g' =>
      n = 0 ∧ g' = g ∨ n = 1 ∧ g' = { g with pending := if key orderId = k then some 1 else none }
    | .executeUpdate (.setOrderStatus orderId state), n, g' =>
      if key orderId = k then n = 1 ∧ g' = { g with owed := some state } else g' = g
    | .commit, _, g' => g' = { g with pending := none, owed := g.pending }
    | .rollback, _, g' => g' = { g with pending := none }
    | .query (.getCustomerIdByOrderId orderId), userId, g' =>
      (g.owed ≠ none → key orderId = k → userId = c) ∧ g' = g
    | .sendToUser userId (.orderState orderId _ _), _, g' =>
      g' = if userId = c ∧ key orderId = k then { g with owed := none } else g
    | _, _, g' => g' = g
  throws g
    | .prepareStatement, g' => g' = g
    | .executeUpdate _, g' => g' = g ∨ g' = { g with pending := none }
    | .commit, g' => g' = g
    | .query (.getCustomerIdByOrderId _), _ => False
    | .query _, g' => g.owed = none ∧ g' = g
    | _, _ => False

variable {key k c}

theorem handleOrderAccept_pushes (hc : c ≠ "") (body : Except String OrderAcceptReqDTO) :
    (pushSpec key k c).interface.wp (OrderHandler.handleOrderAccept body)
      (fun _ g => g.owed = none) .fresh := by
  cases body with
  | error what => simp [OrderHandler.handleOrderAccept, pushSpec, PushState.fresh]
  | ok req =>
    by_cases hk : key (OrderHandler.trim req.orderId) = k
    · simp [OrderHandler.handleOrderAccept, pushSpec, PushState.fresh, hk]
      rintro - n g (⟨rfl, rfl⟩ | ⟨rfl, rfl⟩) <;> simp [hc]
    · simp [OrderHandler.handleOrderAccept, pushSpec, PushState.fresh, hk]
      rintro - n g (⟨rfl, rfl⟩ | ⟨rfl, rfl⟩) <;> simp

theorem handleChangeOrderState_pushes (hc : c ≠ "") (body : Except String ReqChangeOrderStateDTO) :
    (pushSpec key k c).interface.wp (OrderHandler.handleChangeOrderState body)
      (fun _ g => g.owed = none) .fresh := by
  cases body with
  | error what => simp [OrderHandler.handleChangeOrderState, pushSpec, PushState.fresh]
  | ok req =>
    by_cases hk : key req.orderId = k <;>
      simp [OrderHandler.handleChangeOrderState, pushSpec, PushState.fresh, hk, hc]

theorem handleOrderReject_pushes (hc : c ≠ "") (body : Except String String) :
    (pushSpec key k c).interface.wp (OrderHandler.handleOrderReject body)
      (fun _ g => g.owed = none) .fresh := by
  cases body with
  | error what => simp [OrderHandler.handleOrderReject, pushSpec, PushState.fresh]
  | ok orderId =>
    by_cases hk : key orderId = k <;>
      simp [OrderHandler.handleOrderReject, pushSpec, PushState.fresh, hk, hc]

theorem handleCancel_pushes (hc : c ≠ "") (body : Except String String) :
    (pushSpec key k c).interface.wp (OrderHandler.handleCancel body)
      (fun _ g => g.owed = none) .fresh := by
  cases body with
  | error what => simp [OrderHandler.handleCancel, pushSpec, PushState.fresh]
  | ok orderId =>
    by_cases hk : key orderId = k <;>
      simp [OrderHandler.handleCancel, pushSpec, PushState.fresh, hk, hc]

theorem handlePickup_pushes (hc : c ≠ "") (body : Except String String) :
    (pushSpec key k c).interface.wp (RiderHandler.handlePickup body)
      (fun _ g => g.owed = none) .fresh := by
  cases body with
  | error what => simp [RiderHandler.handlePickup, pushSpec, PushState.fresh]
  | ok orderId =>
    by_cases hk : key orderId = k
    · simp [RiderHandler.handlePickup, pushSpec, PushState.fresh, hk]
      intro ownerId
      -- the owner may be the customer
      by_cases howner : ownerId = c <;> simp [howner, hc]
    · simp [RiderHandler.handlePickup, pushSpec, PushState.fresh, hk]

theorem handleDeliveryComplete_pushes (hc : c ≠ "") (body : Except String String) :
    (pushSpec key k c).interface.wp (RiderHandler.handleDeliveryComplete body)
      (fun _ g => g.owed = none) .fresh := by
  cases body with
  | error what =>
    simp [RiderHandler.handleDeliveryComplete, RiderHandler.deliveryCompleteFailed, pushSpec,
      PushState.fresh]
  | ok orderId =>
    by_cases hk : key orderId = k <;>
      simp [RiderHandler.handleDeliveryComplete, RiderHandler.deliveryCompleteFailed, pushSpec,
        PushState.fresh, hk, hc]

/-- The interface of all the handlers. Only the calls of an order handler touch the state. -/
def pushInterface (key : String → κ) (k : κ) (c : String) :
    Interface StatusOp.Res String PushState where
  pre g
    | .base o => (pushSpec key k c).pre g o
    | _ => True
  post g
    | .base o, r, g' => (pushSpec key k c).interface.post g o r g'
    | _, _, g' => g' = g

theorem wp_lift {α : Type} {p : Handler α} {Q : Except String α → PushState → Prop}
    {g : PushState} :
    (pushInterface key k c).wp p.lift Q g ↔ (pushSpec key k c).interface.wp p Q g :=
  wp_embed

/-! The calls that no order handler makes leave the state alone. -/

@[simp] theorem wp_selectTimes {orderId : String} {g : PushState}
    {Q : Except String (Option TimesRow) → PushState → Prop} :
    (pushInterface key k c).wp (StatusHandler.selectTimes orderId) Q g ↔
      (∀ row, Q (.ok row) g) ∧ ∀ what, Q (.error what) g :=
  (wp_op_unchanged fun _ _ => Iff.rfl).trans (and_iff_right trivial)

@[simp] theorem wp_getDeliveryAddressByOrderId {orderId : String} {g : PushState}
    {Q : Except String String → PushState → Prop} :
    (pushInterface key k c).wp (StatusHandler.getDeliveryAddressByOrderId orderId) Q g ↔
      (∀ address, Q (.ok address) g) ∧ ∀ what, Q (.error what) g :=
  (wp_op_unchanged fun _ _ => Iff.rfl).trans (and_iff_right trivial)

@[simp] theorem wp_uninitialised {g : PushState} {Q : Except String ℤ → PushState → Prop} :
    (pushInterface key k c).wp StatusHandler.uninitialised Q g ↔
      (∀ n, Q (.ok n) g) ∧ ∀ what, Q (.error what) g :=
  (wp_op_unchanged fun _ _ => Iff.rfl).trans (and_iff_right trivial)

@[simp] theorem wp_broadcastToRole {role : ℤ} {notice : NotifyDeliveryCallDTO} {g : PushState}
    {Q : Except String Unit → PushState → Prop} :
    (pushInterface key k c).wp (StatusHandler.broadcastToRole role notice) Q g ↔
      Q (.ok ()) g ∧ ∀ what, Q (.error what) g := by
  refine (wp_op_unchanged fun _ _ => Iff.rfl).trans ⟨fun h => ⟨h.2.1 (), h.2.2⟩, fun h => ?_⟩
  exact ⟨trivial, fun _ => h.1, h.2⟩

theorem handleCookTimeSet_pushes (body : Except String ReqCookTimeSetDTO) :
    (pushInterface key k c).wp (OrderHandler.handleCookTimeSet body)
      (fun _ g => g.owed = none) .fresh := by
  cases body with
  | error what => simp [OrderHandler.handleCookTimeSet, wp_lift, pushSpec, PushState.fresh]
  | ok req =>
    simp [OrderHandler.handleCookTimeSet, wp_lift, pushSpec, PushState.fresh]
    intro row
    cases OrderHandler.netDeliveryTime row <;> simp

/-- **Every handler keeps to the interface**, and owes nothing in the end. -/
theorem handle_pushes (hc : c ≠ "") (q : StatusRequest) :
    (pushInterface key k c).wp q.handle (fun _ g => g.owed = none) .fresh := by
  cases q with
  | orderAccept body => exact wp_lift.mpr (handleOrderAccept_pushes hc body)
  | changeOrderState body => exact wp_lift.mpr (handleChangeOrderState_pushes hc body)
  | cookTimeSet body => exact handleCookTimeSet_pushes body
  | orderReject body => exact wp_lift.mpr (handleOrderReject_pushes hc body)
  | cancel body => exact wp_lift.mpr (handleCancel_pushes hc body)
  | pickup body => exact wp_lift.mpr (handlePickup_pushes hc body)
  | deliveryComplete body => exact wp_lift.mpr (handleDeliveryComplete_pushes hc body)

end Spec

/-! ### What the world has of an order -/

section Images

variable {τ κ : Type*} [DecidableEq κ]

/-- The images of order `k` among some writes. -/
def imagesOf (k : κ) (ws : List (Write κ)) : List OrderRow :=
  ws.filterMap fun
    | .order k' row => if k' = k then some row else none
    | _ => none

theorem imagesOf_append (k : κ) (ws ws' : List (Write κ)) :
    imagesOf k (ws ++ ws') = imagesOf k ws ++ imagesOf k ws' :=
  List.filterMap_append

theorem orders_writes (k : κ) (db : Tables κ) (ws : List (Write κ)) :
    (db.writes ws).orders k = (imagesOf k ws).getLast?.or (db.orders k) := by
  induction ws generalizing db with
  | nil => rfl
  | cons u ws ih =>
    rw [Tables.writes_cons, ih]
    cases u with
    | order k' row =>
      rcases eq_or_ne k' k with rfl | hk
      · have himages : imagesOf k' (.order k' row :: ws) = row :: imagesOf k' ws := by
          simp [imagesOf]
        rw [himages, List.getLast?_cons, Tables.write_order_orders, Function.update_self]
        cases (imagesOf k' ws).getLast? <;> rfl
      · have himages : imagesOf k (.order k' row :: ws) = imagesOf k ws := by
          simp [imagesOf, hk]
        rw [himages, Tables.write_order_orders, Function.update_of_ne hk.symm]
    | store | detail => rfl

/-- The statuses that were committed for order `k`, and the states that user `c` was sent for
it. -/
def World.outbox (key : String → κ) (k : κ) (c : String) (w : World τ κ) : Outbox τ ℤ where
  written := (w.db.moves.filter fun move => move.order = k).map fun move =>
    (move.caller, move.after.orderStatus)
  announced := w.pushed.filterMap fun
    | (userId, .orderState orderId state _) =>
      if userId = c ∧ key orderId = k then some state else none
    | _ => none

/-- The changes that a list of writes makes to an existing order. -/
theorem written_movesOf {t : τ} {k : κ} {db : Tables κ} {before : OrderRow}
    (hrow : db.orders k = some before) (ws : List (Write κ)) :
    ((DbServer.movesOf t db ws).filter fun move => move.order = k).map
        (fun move => (move.caller, move.after.orderStatus)) =
      (imagesOf k ws).map fun row => (t, row.orderStatus) := by
  induction ws with
  | nil => rfl
  | cons u ws ih =>
    cases u with
    | order k' row =>
      rcases eq_or_ne k' k with rfl | hk
      · simpa [DbServer.movesOf, imagesOf, hrow] using ih
      · cases hother : db.orders k' with
        | none => simpa [DbServer.movesOf, imagesOf, hother, hk] using ih
        | some other => simpa [DbServer.movesOf, imagesOf, hother, hk] using ih
    | store | detail => simpa [DbServer.movesOf, imagesOf] using ih

end Images

/-! ### The invariant -/

section Invariant

variable {τ κ : Type*} [DecidableEq κ]

/-- The order is customer `c`'s, and its status is the last one written. -/
def World.OrderOf (key : String → κ) (k : κ) (c : String) (w : World τ κ) : Prop :=
  ∃ row, w.db.tables.orders k = some row ∧ row.userId = c ∧
    ∀ entry ∈ (w.outbox key k c).written.getLast?, row.orderStatus = entry.2

/-- The connection of a call as the call's state says. -/
structure PushState.Describes (g : PushState) (k : κ) (c : String) (conn : Connection κ) :
    Prop where
  mode : conn.autoCommit = g.autoCommit
  pending : (imagesOf k conn.pending).map OrderRow.orderStatus = g.pending.toList
  owner : ∀ row ∈ imagesOf k conn.pending, row.userId = c

/-- The world is as the states of the calls say. -/
structure PushInvariant (key : String → κ) (k : κ) (c : String) (w : World τ κ)
    (g : τ → PushState) : Prop where
  order : w.OrderOf key k c
  calls : ∀ t, (g t).Describes k c (w.db.conns t)
  owing : (w.outbox key k c).Owing fun t => (g t).owed

namespace PushInvariant

variable {key : String → κ} {k : κ} {c : String} {w w' : World τ κ} {g : τ → PushState} {t : τ}

/-- A transaction without an image of the order. -/
theorem images_nil (h : PushInvariant key k c w g) (hpending : (g t).pending = none) :
    imagesOf k (w.db.conns t).pending = [] := by
  have himages := (h.calls t).pending
  rwa [hpending, Option.toList_none, List.map_eq_nil_iff] at himages

/-- Its call sees the committed order. -/
theorem view_orders (h : PushInvariant key k c w g) (hpending : (g t).pending = none) :
    (w.db.view t).orders k = w.db.tables.orders k := by
  rw [DbServer.view, orders_writes, h.images_nil hpending]
  rfl

variable [DecidableEq τ]

/-- An operation has to establish the state of its own call and leave the other connections
alone. -/
theorem update (h : PushInvariant key k c w g) {g' : PushState} (horder : w'.OrderOf key k c)
    (hself : g'.Describes k c (w'.db.conns t))
    (hconns : ∀ t' ≠ t, w'.db.conns t' = w.db.conns t')
    (howing : (w'.outbox key k c).Owing
      (Function.update (fun t => (g t).owed) t g'.owed)) :
    PushInvariant key k c w' (Function.update g t g') := by
  refine ⟨horder, fun t' => ?_, ?_⟩
  · rcases eq_or_ne t' t with rfl | ht
    · rwa [Function.update_self]
    · rw [Function.update_of_ne ht, hconns t' ht]
      exact h.calls t'
  · have howed : (fun t' => (Function.update g t g' t').owed) =
        Function.update (fun t => (g t).owed) t g'.owed := by
      funext t'
      rcases eq_or_ne t' t with rfl | ht
      · rw [Function.update_self, Function.update_self]
      · rw [Function.update_of_ne ht, Function.update_of_ne ht]
    rwa [howed]

/-- An operation that changes no more than its own connection. -/
theorem update_conn (h : PushInvariant key k c w g) {g' : PushState}
    (htables : w'.db.tables = w.db.tables) (hmoves : w'.db.moves = w.db.moves)
    (hpushed : w'.pushed = w.pushed) (hself : g'.Describes k c (w'.db.conns t))
    (hconns : ∀ t' ≠ t, w'.db.conns t' = w.db.conns t') (howed : g'.owed = (g t).owed) :
    PushInvariant key k c w' (Function.update g t g') := by
  have houtbox : w'.outbox key k c = w.outbox key k c := by
    rw [World.outbox, World.outbox, hmoves, hpushed]
  refine h.update ?_ hself hconns ?_
  · obtain ⟨row, hrow, hcustomer, hlast⟩ := h.order
    exact ⟨row, by rw [htables, hrow], hcustomer, by rwa [houtbox]⟩
  · rw [houtbox, howed, Function.update_eq_self]
    exact h.owing

/-- An operation that changes nothing of this. -/
theorem same (h : PushInvariant key k c w g) (hdb : w'.db = w.db) (hpushed : w'.pushed = w.pushed) :
    PushInvariant key k c w' (Function.update g t (g t)) :=
  h.update_conn (by rw [hdb]) (by rw [hdb]) hpushed (by rw [hdb]; exact h.calls t)
    (fun _ _ => by rw [hdb]) rfl

omit [DecidableEq τ] in
/-- The order after writes of a call have been published. -/
theorem outbox_publish (h : PushInvariant key k c w g) {ws : List (Write κ)}
    (hmoves : w'.db.moves = w.db.moves ++ DbServer.movesOf t w.db.tables ws)
    (hpushed : w'.pushed = w.pushed) :
    w'.outbox key k c = { w.outbox key k c with
      written := (w.outbox key k c).written ++
        (imagesOf k ws).map fun row => (t, row.orderStatus) } := by
  obtain ⟨row, hrow, -, -⟩ := h.order
  rw [← written_movesOf hrow]
  simp only [World.outbox, hmoves, hpushed, List.filter_append, List.map_append]

/-- An operation that publishes no image of the order. -/
theorem publish_nil (h : PushInvariant key k c w g) {g' : PushState} {ws : List (Write κ)}
    (himages : imagesOf k ws = []) (htables : w'.db.tables = w.db.tables.writes ws)
    (hmoves : w'.db.moves = w.db.moves ++ DbServer.movesOf t w.db.tables ws)
    (hpushed : w'.pushed = w.pushed) (hself : g'.Describes k c (w'.db.conns t))
    (hconns : ∀ t' ≠ t, w'.db.conns t' = w.db.conns t') (howed : g'.owed = (g t).owed) :
    PushInvariant key k c w' (Function.update g t g') := by
  obtain ⟨row, hrow, hcustomer, hlast⟩ := h.order
  have houtbox := h.outbox_publish hmoves hpushed
  rw [himages, List.map_nil, List.append_nil] at houtbox
  refine h.update ⟨row, ?_, hcustomer, by rwa [houtbox]⟩ hself hconns ?_
  · rw [htables, orders_writes, himages, hrow]
    rfl
  · rw [houtbox, howed, Function.update_eq_self]
    exact h.owing

/-- An operation that publishes the writes of a call that owes nothing. -/
theorem publish (h : PushInvariant key k c w g) {g' : PushState} {ws : List (Write κ)}
    (himage : (imagesOf k ws).map OrderRow.orderStatus = g'.owed.toList)
    (howner : ∀ row ∈ imagesOf k ws, row.userId = c)
    (htables : w'.db.tables = w.db.tables.writes ws)
    (hmoves : w'.db.moves = w.db.moves ++ DbServer.movesOf t w.db.tables ws)
    (hpushed : w'.pushed = w.pushed) (hself : g'.Describes k c (w'.db.conns t))
    (hconns : ∀ t' ≠ t, w'.db.conns t' = w.db.conns t') (howed : (g t).owed = none) :
    PushInvariant key k c w' (Function.update g t g') := by
  cases hn : g'.owed with
  | none =>
    rw [hn] at himage
    exact h.publish_nil (List.map_eq_nil_iff.mp himage) htables hmoves hpushed hself hconns
      (hn.trans howed.symm)
  | some n =>
    rw [hn] at himage
    obtain ⟨after, himages, rfl⟩ : ∃ after, imagesOf k ws = [after] ∧ after.orderStatus = n :=
      List.map_eq_singleton_iff.mp himage
    have houtbox := h.outbox_publish hmoves hpushed
    rw [himages, List.map_singleton] at houtbox
    refine h.update ⟨after, ?_, howner after (by rw [himages]; exact .head _), ?_⟩ hself hconns ?_
    · rw [htables, orders_writes, himages]
      rfl
    · rw [houtbox]
      intro entry hentry
      rw [List.getLast?_concat] at hentry
      cases hentry
      rfl
    · rw [houtbox, hn]
      exact h.owing.write howed

/-! ### The operations keep it -/

omit [DecidableEq τ] in
/-- A call in whose turn it is not owes nothing when its lookup fails. -/
theorem owed_eq_none (h : PushInvariant key k c w g)
    (hrest : ∀ n, (t, n) ∉ (w.outbox key k c).rest) : (g t).owed = none := by
  cases howed : (g t).owed with
  | none => rfl
  | some n => exact absurd ((h.owing.owed t n).mp howed) (hrest n)

/-- The connection after a rollback. -/
theorem describes_rollback (h : PushInvariant key k c w g) :
    ({ g t with pending := none } : PushState).Describes k c ((w.db.rollback t).conns t) := by
  have hconn : (w.db.rollback t).conns t = ⟨(w.db.conns t).autoCommit, []⟩ :=
    Function.update_self ..
  rw [hconn]
  exact ⟨(h.calls t).mode, rfl, nofun⟩

theorem rollback (h : PushInvariant key k c w g) :
    PushInvariant key k c { w with db := w.db.rollback t }
      (Function.update g t { g t with pending := none }) :=
  h.update_conn rfl rfl rfl h.describes_rollback (fun _ ht => Function.update_of_ne ht ..) rfl

/-- `setAutoCommit`, when there is no image of the order to publish. -/
theorem setAutoCommit (h : PushInvariant key k c w g) (hpending : (g t).pending = none)
    (on : Bool) :
    PushInvariant key k c { w with db := w.db.setAutoCommit t on }
      (Function.update g t { g t with autoCommit := on }) := by
  have himages := h.images_nil hpending
  cases on with
  | true =>
    have hconn : (w.db.setAutoCommit t true).conns t = ⟨true, []⟩ := Function.update_self ..
    refine h.publish_nil himages rfl rfl rfl ?_ (fun t' ht => ?_) rfl
    · show PushState.Describes ⟨true, (g t).pending, (g t).owed⟩ k c
        ((w.db.setAutoCommit t true).conns t)
      rw [hconn, hpending]
      exact ⟨rfl, rfl, nofun⟩
    · exact (Function.update_of_ne ht ..).trans (Function.update_of_ne ht ..)
  | false =>
    have hconn : (w.db.setAutoCommit t false).conns t = ⟨false, (w.db.conns t).pending⟩ :=
      Function.update_self ..
    refine h.update_conn rfl rfl rfl ?_ (fun _ ht => Function.update_of_ne ht ..) rfl
    show PushState.Describes _ k c ((w.db.setAutoCommit t false).conns t)
    rw [hconn]
    exact ⟨rfl, (h.calls t).pending, (h.calls t).owner⟩

/-- `commit`, by a call that owes nothing. -/
theorem commit (h : PushInvariant key k c w g) (howed : (g t).owed = none) :
    PushInvariant key k c { w with db := w.db.commit t }
      (Function.update g t { g t with pending := none, owed := (g t).pending }) := by
  have hconn : (w.db.commit t).conns t = ⟨(w.db.conns t).autoCommit, []⟩ :=
    Function.update_self ..
  refine h.publish (h.calls t).pending (h.calls t).owner rfl rfl rfl ?_
    (fun _ ht => Function.update_of_ne ht ..) howed
  show PushState.Describes _ k c ((w.db.commit t).conns t)
  rw [hconn]
  exact ⟨(h.calls t).mode, rfl, nofun⟩

omit [DecidableEq τ] in
/-- A lookup. -/
theorem query (h : PushInvariant key k c w g) (hwhole : '\x00' ∉ c.toList) {q : Query} {e : Env}
    {r : Except String q.Res}
    (hlookups : ∀ q' what, Op.query q = .query q' → e = .fault what →
      ∀ n, (t, n) ∉ (w.outbox key k c).rest)
    (hanswer : q.answer key w.db.tables e = some r) :
    (pushSpec key k c).interface.post (g t) (.query q) r (g t) := by
  obtain ⟨row, hrow, hcustomer, -⟩ := h.order
  have hfault (what : String) (he : e = .fault what) : (g t).owed = none :=
    h.owed_eq_none (hlookups q what rfl he)
  cases q with
  | getCustomerIdByOrderId orderId =>
    cases e <;> cases hanswer
    · refine ⟨fun _ hk => ?_, rfl⟩
      rw [hk, hrow]
      show cStr row.userId = c
      rw [hcustomer]
      exact cStr_eq_self.mpr hwhole
    · exact ⟨fun howed => absurd (hfault _ rfl) howed, rfl⟩
  | getStoreIdByOrderId | getOwnerIdByStoreId =>
    cases e <;> cases hanswer
    · rfl
    · exact ⟨hfault _ rfl, rfl⟩
  | getDeliveryFee | getMenuName | getOptionName =>
    cases e <;> cases hanswer
    all_goals rfl

/-- A statement in a transaction. -/
theorem enqueue (h : PushInvariant key k c w g) {g' : PushState} {ws : List (Write κ)}
    (hmode : g'.autoCommit = (g t).autoCommit) (howed : g'.owed = (g t).owed)
    (hpending : (g t).pending.toList ++ (imagesOf k ws).map OrderRow.orderStatus =
      g'.pending.toList)
    (howner : ∀ row ∈ imagesOf k ws, row.userId = c) :
    PushInvariant key k c { w with db := w.db.enqueue t ws } (Function.update g t g') := by
  have hself := h.calls t
  have hconn : (w.db.enqueue t ws).conns t =
      ⟨(w.db.conns t).autoCommit, (w.db.conns t).pending ++ ws⟩ := Function.update_self ..
  refine h.update_conn rfl rfl rfl ?_ (fun _ ht => Function.update_of_ne ht ..) howed
  show g'.Describes k c ((w.db.enqueue t ws).conns t)
  rw [hconn]
  refine ⟨hself.mode.trans hmode.symm, ?_, fun row hmem => ?_⟩
  · rw [imagesOf_append, List.map_append, hself.pending, hpending]
  · rw [imagesOf_append, List.mem_append] at hmem
    exact hmem.elim (hself.owner row) (howner row)

/-- A statement in autocommit mode. -/
theorem publishAtOnce (h : PushInvariant key k c w g) {g' : PushState} {ws : List (Write κ)}
    (hmode : g'.autoCommit = (g t).autoCommit) (hpending : g'.pending = (g t).pending)
    (himage : (imagesOf k ws).map OrderRow.orderStatus = g'.owed.toList)
    (howner : ∀ row ∈ imagesOf k ws, row.userId = c) (howed : (g t).owed = none) :
    PushInvariant key k c { w with db := w.db.publish t ws } (Function.update g t g') := by
  have hself := h.calls t
  refine h.publish himage howner rfl rfl rfl ?_ (fun _ _ => rfl) howed
  exact ⟨hself.mode.trans hmode.symm, by rw [hpending]; exact hself.pending, hself.owner⟩

/-- A statement. -/
theorem executeUpdate (h : PushInvariant key k c w g) {stmt : Statement} {n : ℕ}
    {db : DbServer τ κ} (hpre : (pushSpec key k c).pre (g t) (.executeUpdate stmt))
    (hs : w.db.executeUpdate key t stmt = some (n, db)) :
    ∃ g', (pushSpec key k c).returns (g t) (.executeUpdate stmt) n g' ∧
      PushInvariant key k c { w with db := db } (Function.update g t g') := by
  obtain ⟨ws, heffect, -, rfl⟩ := DbServer.executeUpdate_eq_some hs
  obtain ⟨row, hrow, hcustomer, -⟩ := h.order
  rw [(h.calls t).mode]
  cases stmt with
  | acceptOrder orderId =>
    obtain ⟨hmode, hpending⟩ := hpre
    rw [hmode, if_neg Bool.false_ne_true]
    have hnothing : PushInvariant key k c { w with db := w.db.enqueue t [] }
        (Function.update g t (g t)) :=
      h.enqueue rfl rfl (List.append_nil _) (List.forall_mem_nil _)
    simp only [Statement.effect] at heffect
    split at heffect
    · next before hbefore =>
      split at heffect
      · obtain ⟨rfl, rfl⟩ := Prod.mk.inj (Option.some.inj heffect)
        refine ⟨_, .inr ⟨rfl, rfl⟩, ?_⟩
        -- accepted: an image of the order that is followed, or of another one
        by_cases hk : key orderId = k
        · subst hk
          rw [h.view_orders hpending, hrow] at hbefore
          cases hbefore
          refine h.enqueue rfl rfl ?_ ?_
          · simp [imagesOf, hpending]
          · simp [imagesOf, hcustomer]
        · refine h.enqueue rfl rfl ?_ ?_
          · simp [imagesOf, hpending, hk]
          · simp [imagesOf, hk]
      · obtain ⟨rfl, rfl⟩ := Prod.mk.inj (Option.some.inj heffect)
        exact ⟨_, .inl ⟨rfl, rfl⟩, hnothing⟩
    · obtain ⟨rfl, rfl⟩ := Prod.mk.inj (Option.some.inj heffect)
      exact ⟨_, .inl ⟨rfl, rfl⟩, hnothing⟩
  | addSales orderId =>
    rw [show (g t).autoCommit = false from hpre, if_neg Bool.false_ne_true]
    -- sales have no image of the order
    have himages : imagesOf k ws = [] := by
      simp only [Statement.effect] at heffect
      split at heffect
      · split at heffect
        · obtain ⟨-, rfl⟩ := Prod.mk.inj (Option.some.inj heffect)
          rfl
        · obtain ⟨-, rfl⟩ := Prod.mk.inj (Option.some.inj heffect)
          rfl
      · obtain ⟨-, rfl⟩ := Prod.mk.inj (Option.some.inj heffect)
        rfl
    refine ⟨_, rfl, h.enqueue rfl rfl ?_ ?_⟩
    · rw [himages, List.map_nil, List.append_nil]
    · rw [himages]
      exact List.forall_mem_nil _
  | setOrderStatus orderId state =>
    obtain ⟨hmode, hpending, howed⟩ := hpre
    rw [hmode, if_pos rfl]
    simp only [Statement.effect] at heffect
    by_cases hk : key orderId = k
    · subst hk
      rw [h.view_orders hpending, hrow] at heffect
      obtain ⟨rfl, rfl⟩ := Prod.mk.inj (Option.some.inj heffect)
      -- the status is published, and the call owes its notice
      refine ⟨{ g t with owed := some state }, ?_, h.publishAtOnce rfl rfl ?_ ?_ howed⟩
      · simp [pushSpec]
      · simp [imagesOf]
      · simp [imagesOf, hcustomer]
    · have himages : imagesOf k ws = [] := by
        split at heffect
        · obtain ⟨-, rfl⟩ := Prod.mk.inj (Option.some.inj heffect)
          simp [imagesOf, hk]
        · obtain ⟨-, rfl⟩ := Prod.mk.inj (Option.some.inj heffect)
          rfl
      refine ⟨g t, ?_, h.publishAtOnce rfl rfl ?_ ?_ howed⟩
      · simp [pushSpec, hk]
      · rw [himages, howed]
        rfl
      · rw [himages]
        exact List.forall_mem_nil _
  | insertOrder | insertDetail => exact hpre.elim

/-- A push. -/
theorem sendToUser (h : PushInvariant key k c w g) {userId : String} {notice : Notice}
    (hpre : (pushSpec key k c).pre (g t) (.sendToUser userId notice))
    (hturn : ∀ orderId state message, userId = c → notice = .orderState orderId state message →
      key orderId = k → (w.outbox key k c).Next t) :
    ∃ g', (pushSpec key k c).returns (g t) (.sendToUser userId notice) () g' ∧
      PushInvariant key k c { w with pushed := w.pushed ++ [(userId, notice)] }
        (Function.update g t g') := by
  cases notice with
  | newOrder =>
    refine ⟨g t, rfl, h.update h.order (h.calls t) (fun _ _ => rfl) ?_⟩
    rw [Function.update_eq_self]
    simpa [World.outbox] using h.owing
  | orderState orderId state message =>
    by_cases hk : userId = c ∧ key orderId = k
    · obtain ⟨rfl, rfl⟩ := hk
      have houtbox : World.outbox key (key orderId) userId
          { w with pushed := w.pushed ++ [(userId, .orderState orderId state message)] } =
            { w.outbox key (key orderId) userId with
              announced := (w.outbox key (key orderId) userId).announced ++ [state] } := by
        simp [World.outbox]
      -- the notice that is owed, in its turn
      refine ⟨{ g t with owed := none }, by simp [pushSpec], h.update ?_ ?_ (fun _ _ => rfl) ?_⟩
      · rw [World.OrderOf, houtbox]
        exact h.order
      · exact ⟨(h.calls t).mode, (h.calls t).pending, (h.calls t).owner⟩
      · rw [houtbox]
        exact h.owing.announce (hturn orderId state message rfl rfl rfl) (hpre rfl rfl)
    · have houtbox : World.outbox key k c
          { w with pushed := w.pushed ++ [(userId, .orderState orderId state message)] } =
            w.outbox key k c := by
        simp [World.outbox, hk]
      refine ⟨g t, by simp [pushSpec, hk], h.update ?_ (h.calls t) (fun _ _ => rfl) ?_⟩
      · rw [World.OrderOf, houtbox]
        exact h.order
      · rw [houtbox, Function.update_eq_self]
        exact h.owing

/-- **Every operation of a call in its turn keeps the invariant** and does what `pushSpec`
says. -/
theorem exec (h : PushInvariant key k c w g) (hwhole : '\x00' ∉ c.toList) {o : Op} {e : Env}
    {r : Except String o.Res}
    (hpre : (pushSpec key k c).pre (g t) o)
    (hturn : ∀ orderId state message, o = .sendToUser c (.orderState orderId state message) →
      key orderId = k → (w.outbox key k c).Next t)
    (hlookups : ∀ q what, o = .query q → e = .fault what → ∀ n, (t, n) ∉ (w.outbox key k c).rest)
    (he : ItsBedalyo.exec key t o e w = some (r, w')) :
    ∃ g', (pushSpec key k c).interface.post (g t) o r g' ∧
      PushInvariant key k c w' (Function.update g t g') := by
  cases o with
  | setAutoCommit on =>
    cases e <;> cases he
    exact ⟨_, rfl, h.setAutoCommit hpre on⟩
  | prepareStatement =>
    cases e <;> cases he
    all_goals exact ⟨g t, rfl, h.same rfl rfl⟩
  | executeUpdate stmt =>
    cases e with
    | ok =>
      obtain ⟨⟨n, db⟩, hs, heq⟩ := Option.map_eq_some_iff.mp he
      cases heq
      exact h.executeUpdate hpre hs
    -- a fault executes nothing, a deadlock takes the transaction with it
    | fault what =>
      cases he
      exact ⟨g t, .inl rfl, h.same rfl rfl⟩
    | deadlock what =>
      cases he
      exact ⟨_, .inr rfl, h.rollback⟩
    | text | time | number => cases he
  | commit =>
    cases e <;> cases he
    · exact ⟨_, rfl, h.commit hpre⟩
    · exact ⟨g t, rfl, h.same rfl rfl⟩
  | rollback =>
    cases e <;> cases he
    exact ⟨_, rfl, h.rollback⟩
  | query q =>
    obtain ⟨x, hanswer, heq⟩ := Option.map_eq_some_iff.mp he
    cases heq
    exact ⟨g t, h.query hwhole hlookups hanswer, h.same rfl rfl⟩
  | localtime | rand | sendPacket =>
    cases e <;> cases he
    exact ⟨g t, rfl, h.same rfl rfl⟩
  | sendToUser userId notice =>
    cases e <;> cases he
    refine h.sendToUser hpre fun orderId state message huser hnotice => ?_
    subst huser hnotice
    exact hturn orderId state message rfl

end PushInvariant

end Invariant

/-! ### Runs -/

namespace StatusSystem

variable {τ κ : Type*} [DecidableEq κ] (key : String → κ) (k : κ) (c : String)

/-- What customer `c` has been sent for order `k` mirrors the database. -/
structure Mirrors (s : StatusSystem τ κ) : Prop where
  /-- The states announced are the first of those written. -/
  announced : (s.world.base.outbox key k c).announced <+:
    (s.world.base.outbox key k c).written.map Prod.snd
  /-- When the calls that have written are finished, they are all of them, -/
  finished : (∀ entry ∈ (s.world.base.outbox key k c).written, s.Finished entry.1) →
    (s.world.base.outbox key k c).announced =
      (s.world.base.outbox key k c).written.map Prod.snd
  /-- and the last one announced is the one stored. -/
  last : (∀ entry ∈ (s.world.base.outbox key k c).written, s.Finished entry.1) →
    ∀ row n, s.world.base.db.tables.orders k = some row →
      (s.world.base.outbox key k c).announced.getLast? = some n → row.orderStatus = n

/-- What has to be the case when a call takes its next step. -/
structure InTurn (s : StatusSystem τ κ) (a : τ × StatusEnv) : Prop where
  /-- The call whose state is sent to the customer has written the first status that has not been
  announced yet; -/
  pushes : ∀ orderId state message next,
    s.todo a.1 = .call (.base (.sendToUser c (.orderState orderId state message))) next →
      key orderId = k → (s.world.base.outbox key k c).Next a.1
  /-- a call whose status has not been announced has its lookups answered. -/
  lookups : ∀ q what next, s.todo a.1 = .call (.base (.query q)) next →
    a.2 = .base (.fault what) → ∀ n, (a.1, n) ∉ (s.world.base.outbox key k c).rest

/-- The states in which every call is where the interface says. -/
def Safe (s : StatusSystem τ κ) : Prop :=
  Threads.Safe (fun _ => pushInterface key k c) (fun w g => PushInvariant key k c w.base g)
    (fun _ _ g => g.owed = none) s

variable {key k c} {s s' : StatusSystem τ κ}

/-- In safe states the customer has been told the truth. -/
theorem Safe.mirrors (h : Safe key k c s) : Mirrors key k c s := by
  obtain ⟨g, hinv, hwp⟩ := h
  have hfinished (hdone : ∀ entry ∈ (s.world.base.outbox key k c).written, s.Finished entry.1) :
      (s.world.base.outbox key k c).announced =
        (s.world.base.outbox key k c).written.map Prod.snd := by
    refine hinv.owing.announced_eq fun t => ?_
    cases howed : (g t).owed with
    | none => rfl
    | some n =>
      have hentry : (t, n) ∈ (s.world.base.outbox key k c).written :=
        List.mem_of_mem_drop ((hinv.owing.owed t n).mp howed)
      have hdone' : s.Finished t := hdone _ hentry
      obtain ⟨r, hnone⟩ := hdone'.post (I := fun _ => pushInterface key k c)
        (Q := fun _ _ g => g.owed = none) (hwp t)
      exact howed.symm.trans hnone
  refine ⟨hinv.owing.isPrefix, hfinished, fun hdone row n hrow hn => ?_⟩
  obtain ⟨row', hrow', -, hlast⟩ := hinv.order
  obtain rfl := Option.some.inj (hrow'.symm.trans hrow)
  rw [hfinished hdone, List.getLast?_map] at hn
  obtain ⟨entry, hentry, rfl⟩ := Option.map_eq_some_iff.mp hn
  exact hlast entry hentry

theorem safe_init {request : τ → StatusRequest} {tables : Tables κ} {row : OrderRow}
    (hrow : tables.orders k = some row) (hcustomer : row.userId ≠ "") :
    Safe key k row.userId (init request tables) := by
  refine ⟨fun _ => .fresh, ⟨⟨row, hrow, rfl, nofun⟩, fun _ => ⟨rfl, rfl, nofun⟩, ?_⟩,
    fun t => handle_pushes hcustomer (request t)⟩
  exact Outbox.owing_init

variable [DecidableEq τ]

/-- The calls that no order handler makes leave tables and pushes alone. -/
theorem base_of_statusExec {t : τ} {o : StatusOp} {e : StatusEnv} {w w' : StatusWorld τ κ}
    {r : Except String o.Res} (ho : ∀ o', o ≠ .base o')
    (he : statusExec key t o e w = some (r, w')) : w'.base = w.base := by
  cases o with
  | base o => exact absurd rfl (ho o)
  | selectTimes orderId =>
    cases e with
    | times row =>
      obtain ⟨-, heq⟩ := Option.ite_none_right_eq_some.mp he
      cases heq
      rfl
    | base e =>
      cases e with
      | ok =>
        obtain ⟨-, heq⟩ := Option.ite_none_left_eq_some.mp he
        cases heq
        rfl
      | fault what =>
        cases he
        rfl
      | deadlock | text | time | number => cases he
    | memory n => cases he
  | uninitialised =>
    cases e with
    | memory n =>
      cases he
      rfl
    | base | times => cases he
  | getDeliveryAddressByOrderId | broadcastToRole =>
    cases e with
    | times | memory => cases he
    | base e =>
      cases e <;> cases he
      all_goals rfl

/-- **A step in turn keeps the system safe.** -/
theorem Safe.step (hwhole : '\x00' ∉ c.toList) (h : Safe key k c s) {a : τ × StatusEnv}
    (hturn : InTurn key k c s a) (hs : StatusSystem.step key s a = some s') : Safe key k c s' := by
  refine Threads.Safe.step_of_exec (fun g o next r w hinv htodo hpre he => ?_) h hs
  cases o with
  | base o =>
    obtain ⟨t, e⟩ := a
    cases e with
    | base e =>
      obtain ⟨⟨r', w'⟩, he', heq⟩ := Option.map_eq_some_iff.mp he
      cases heq
      refine hinv.exec hwhole hpre (fun orderId state message ho hk => ?_)
        (fun q what ho hwhat n => ?_) he'
      · subst ho
        exact hturn.pushes orderId state message next htodo hk
      · subst ho hwhat
        exact hturn.lookups q what next htodo rfl n
    | times | memory => cases he
  | selectTimes | getDeliveryAddressByOrderId | uninitialised | broadcastToRole =>
    have hbase := base_of_statusExec (by rintro o' ⟨⟩) he
    exact ⟨g a.1, rfl, hinv.same (congrArg World.db hbase) (congrArg World.pushed hbase)⟩

/-- **Status pushes mirror the database** in every run whose steps are in turn. -/
theorem mirrors_of_inTurn {request : τ → StatusRequest} {tables : Tables κ} {row : OrderRow}
    (hrow : tables.orders k = some row) (hcustomer : row.userId ≠ "")
    (hwhole : '\x00' ∉ row.userId.toList) {l : List (τ × StatusEnv)}
    (hl : Transition.Along (step key) (InTurn key k row.userId) (init request tables) l) :
    Transition.Always (step key) (Mirrors key k row.userId) (init request tables) l := by
  have hsafe : Transition.Always (step key) (Safe key k row.userId) (init request tables) l :=
    Transition.always_of_along (fun _ _ _ h hturn hs => h.step hwhole hturn hs)
      (safe_init hrow hcustomer) hl
  exact hsafe.mono fun _ h => h.mirrors

/-! ### One order -/

/-- The order of customer `kim`. -/
def kimsOrder : OrderRow := ⟨"kim", 7, 18000, 1, "Seoul", "", ""⟩

/-- An accepted order. -/
def kimsTables : Tables String :=
  ⟨fun k => if k = "ORD-1" then some kimsOrder else none, fun _ => some ⟨"lee", 3000, 0⟩, []⟩

/-- The owner reports it cooked. -/
def cooked (_ : Unit) : StatusRequest := .changeOrderState (.ok ⟨"ORD-1", 2⟩)

/-- The whole call. -/
def cookedRun : List (Unit × StatusEnv) := List.replicate 5 ((), .base .ok)

theorem inTurn_cooked : Transition.Along (step id) (InTurn id "ORD-1" kimsOrder.userId)
    (init cooked kimsTables) cookedRun := by
  rintro s ⟨⟩
  refine ⟨⟨nofun, nofun⟩, ?_⟩
  rintro s ⟨⟩
  refine ⟨⟨nofun, nofun⟩, ?_⟩
  rintro s ⟨⟩
  refine ⟨⟨nofun, nofun⟩, ?_⟩
  rintro s ⟨⟩
  refine ⟨⟨nofun, nofun⟩, ?_⟩
  rintro s ⟨⟩
  exact ⟨⟨fun _ _ _ _ _ _ => ⟨2, rfl⟩, nofun⟩, trivial⟩

theorem mirrors_of_inTurn_cooked : Transition.Always (step id) (Mirrors id "ORD-1" kimsOrder.userId)
    (init cooked kimsTables) cookedRun :=
  mirrors_of_inTurn rfl (by decide) (by decide) inTurn_cooked

/-- The owner sets the time that the cooking takes. -/
def cooking (_ : Unit) : StatusRequest := .cookTimeSet (.ok ⟨"ORD-1", 20⟩)

/-- The call until it has pushed the state. -/
def cookingRun : List (Unit × StatusEnv) :=
  [((), .base .ok), ((), .times (some "30~45분", some 25)), ((), .base .ok), ((), .base .ok),
   ((), .base .ok)]

/-- The customer is told a state that nobody has written. -/
theorem cooking_not_mirrors :
    ¬∀ (request : Unit → StatusRequest) (tables : Tables String) (k : String) (row : OrderRow)
      (l : List (Unit × StatusEnv)), tables.orders k = some row → row.userId ≠ "" →
        Transition.Always (step id) (Mirrors id k row.userId) (init request tables) l := by
  intro h
  have hmirrors := h cooking kimsTables "ORD-1" kimsOrder cookingRun rfl (by decide)
  obtain ⟨s, hs, hannounced, hwritten⟩ : ∃ s,
      Transition.run (step id) (init cooking kimsTables) cookingRun = some s ∧
        (s.world.base.outbox id "ORD-1" "kim").announced = [1] ∧
          (s.world.base.outbox id "ORD-1" "kim").written = [] :=
    ⟨_, rfl, rfl, rfl⟩
  have hprefix := (hmirrors.last hs).announced
  rw [show kimsOrder.userId = "kim" from rfl, hannounced, hwritten] at hprefix
  exact absurd hprefix (by decide)

end StatusSystem

end ItsBedalyo
