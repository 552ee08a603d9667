import ItsBedalyo.Handler.OrderSystem

/-!
# The transactions of the order handlers

A call's transaction is always in one of five stages (`Stage`), which determine its connection.
`orderInterface` says which operations the handlers call in which stage, and what comes of
them. The rules below are its weakest preconditions, and `wp_handle` checks with them, once for
each handler, that the handler keeps to the interface: the sales are added in the transaction
that has moved the order, nothing is committed in between, a call that has failed leaves no
transaction open, and 200 answers an accept exactly when it has been committed.
-/

namespace ItsBedalyo

/-- An accepted order's row. -/
def OrderRow.accepted (row : OrderRow) : OrderRow := { row with orderStatus := 1 }

/-- A store's row after a sale. -/
def StoreRow.sold (row : StoreRow) (price : ℤ) : StoreRow :=
  { row with totalSales := row.totalSales + price }

@[simp] theorem StoreRow.sold_zero (store : StoreRow) : store.sold 0 = store := by
  simp [StoreRow.sold]

theorem StoreRow.sold_sold (store : StoreRow) (a b : ℤ) :
    (store.sold a).sold b = store.sold (a + b) := by
  simp [StoreRow.sold, add_assoc]

/-- Where a call is with its transaction. -/
inductive Stage (κ : Type*)
  /-- autocommit mode -/
  | auto
  /-- a transaction that has written nothing -/
  | opened
  /-- a new order inserted, with some of its details -/
  | created (k : κ) (row : OrderRow) (details : List DetailRow)
  /-- an order moved from 0 to 1; `row` is the one before -/
  | moved (k : κ) (row : OrderRow)
  /-- an order moved and its price added to its store, if there is one -/
  | counted (k : κ) (row : OrderRow) (store : Option StoreRow)

namespace Stage

variable {κ : Type*}

/-- What the transaction has written. -/
def pending : Stage κ → List (Write κ)
  | auto | opened => []
  | created k row details => .order k row :: details.map .detail
  | moved k row => [.order k row.accepted]
  | counted k row store =>
    .order k row.accepted ::
      store.toList.map fun st => .store row.storeId (st.sold row.totalPrice)

/-- The connection of a call in this stage. -/
def conn : Stage κ → Connection κ
  | auto => ⟨true, []⟩
  | stage => ⟨false, stage.pending⟩

/-- What the stage says about the committed tables. -/
def Fits (db : Tables κ) : Stage κ → Prop
  | auto | opened => True
  | created k row _ => db.orders k = none ∧ row.orderStatus = 0
  | moved k row => db.orders k = some row ∧ row.orderStatus = 0
  | counted k row store =>
    db.orders k = some row ∧ row.orderStatus = 0 ∧ db.stores row.storeId = store

/-- The stages a request's handler gets into. -/
def Of (q : OrderRequest) : Stage κ → Prop
  | auto | opened => True
  | created _ _ _ => q.isAccept = false
  | moved _ _ | counted _ _ _ => q.isAccept = true

/-- The stages in which a request's handler executes a statement. -/
inductive Ready (key : String → κ) (q : OrderRequest) : Stage κ → Statement → Prop
  | acceptOrder {orderId} : q.isAccept = true → Ready key q opened (.acceptOrder orderId)
  | addSales {orderId row} : Ready key q (moved (key orderId) row) (.addSales orderId)
  | setOrderStatus {orderId n} : q.statusUpdate = some (orderId, n) →
      Ready key q auto (.setOrderStatus orderId n)
  | insertOrder {orderId row} : q.isAccept = false → row.orderStatus = 0 →
      Ready key q opened (.insertOrder orderId row)
  | insertDetail {k row details d} : Ready key q (created k row details) (.insertDetail d)

/-- The stage after a statement that returned a row count. -/
inductive After (key : String → κ) : Stage κ → Statement → ℕ → Stage κ → Prop
  | unmatched {orderId} : After key opened (.acceptOrder orderId) 0 opened
  | acceptOrder {orderId row} :
      After key opened (.acceptOrder orderId) 1 (moved (key orderId) row)
  | addSales {k row orderId n store} :
      After key (moved k row) (.addSales orderId) n (counted k row store)
  | setOrderStatus {orderId m n} : After key auto (.setOrderStatus orderId m) n auto
  | insertOrder {orderId row n} :
      After key opened (.insertOrder orderId row) n (created (key orderId) row [])
  | insertDetail {k row details d n} :
      After key (created k row details) (.insertDetail d) n (created k row (details ++ [d]))

/-- The stages whose transaction a handler commits. -/
def Complete : Stage κ → Prop
  | created _ _ _ | counted _ _ _ => True
  | _ => False

/-- The stages without writes. -/
def Clean : Stage κ → Prop
  | auto | opened => True
  | _ => False

/-- The stage after a rollback. -/
def rolledBack : Stage κ → Stage κ
  | auto => auto
  | _ => opened

end Stage

/-- What a call keeps track of: its stage, whether its transaction has been committed, whether
it has answered an accept request with 200. -/
structure CallState (κ : Type*) where
  stage : Stage κ
  committed : Bool
  answered : Bool

/-- The response of a successful accept. -/
def Response.isAccepted (response : Response) : Bool :=
  response.cmdId = CmdID.RES_ORDER_ACCEPT && response.status = 200

section Interface

variable {κ : Type*} (key : String → κ)

/-- What the handler of `q` calls in which state, and what comes of it. -/
def orderInterface (q : OrderRequest) : Interface Op.Res String (CallState κ) where
  pre c
    | .executeUpdate stmt => c.stage.Ready key q stmt
    | .commit => c.stage.Complete
    | .setAutoCommit _ => c.stage.Clean
    | .sendPacket response => response.isAccepted = true → c.committed = true
    | _ => True
  post c
    | .executeUpdate stmt, .ok n, c' =>
      ∃ stage, c.stage.After key stmt n stage ∧ c' = { c with stage := stage }
    | .executeUpdate _, .error _, c' => c' = c ∨ c' = { c with stage := c.stage.rolledBack }
    | .commit, .ok _, c' => c' = { c with stage := .opened, committed := true }
    | .rollback, .ok _, c' => c' = { c with stage := c.stage.rolledBack }
    | .rollback, .error _, _ => False
    | .setAutoCommit on, .ok _, c' => c' = { c with stage := if on then .auto else .opened }
    | .setAutoCommit _, .error _, _ => False
    | .sendPacket response, .ok _, c' =>
      c' = { c with answered := c.answered || response.isAccepted }
    | .sendPacket _, .error _, _ => False
    | .sendToUser _ _, .error _, _ => False
    | _, _, c' => c' = c

end Interface

namespace Stage

variable {κ : Type*} {key : String → κ} {q : OrderRequest}

@[simp] theorem clean_auto : (auto : Stage κ).Clean := trivial

@[simp] theorem clean_opened : (opened : Stage κ).Clean := trivial

@[simp] theorem rolledBack_auto : (auto : Stage κ).rolledBack = auto := rfl

@[simp] theorem clean_rolledBack (stage : Stage κ) : stage.rolledBack.Clean := by
  cases stage <;> trivial

@[simp] theorem complete_created (k : κ) (row : OrderRow) (details : List DetailRow) :
    (created k row details).Complete := trivial

@[simp] theorem complete_counted (k : κ) (row : OrderRow) (store : Option StoreRow) :
    (counted k row store).Complete := trivial

@[simp] theorem ready_acceptOrder {orderId : String} :
    Ready key q opened (.acceptOrder orderId) ↔ q.isAccept = true :=
  ⟨fun h => by cases h; assumption, .acceptOrder⟩

@[simp] theorem ready_addSales {orderId : String} {row : OrderRow} :
    Ready key q (moved (key orderId) row) (.addSales orderId) :=
  .addSales

@[simp] theorem ready_setOrderStatus {orderId : String} {n : ℤ} :
    Ready key q auto (.setOrderStatus orderId n) ↔ q.statusUpdate = some (orderId, n) :=
  ⟨fun h => by cases h; assumption, .setOrderStatus⟩

@[simp] theorem ready_insertOrder {orderId : String} {row : OrderRow} :
    Ready key q opened (.insertOrder orderId row) ↔ q.isAccept = false ∧ row.orderStatus = 0 :=
  ⟨fun h => by cases h; exact ⟨‹_›, ‹_›⟩, fun h => .insertOrder h.1 h.2⟩

@[simp] theorem forall_after_acceptOrder {orderId : String} {P : ℕ → Stage κ → Prop} :
    (∀ n stage, After key opened (.acceptOrder orderId) n stage → P n stage) ↔
      P 0 opened ∧ ∀ row, P 1 (moved (key orderId) row) := by
  refine ⟨fun h => ⟨h _ _ .unmatched, fun row => h _ _ .acceptOrder⟩, ?_⟩
  rintro ⟨hnone, hone⟩ n stage ⟨⟩
  · exact hnone
  · exact hone _

@[simp] theorem forall_after_addSales {orderId : String} {k : κ} {row : OrderRow}
    {P : ℕ → Stage κ → Prop} :
    (∀ n stage, After key (moved k row) (.addSales orderId) n stage → P n stage) ↔
      ∀ n store, P n (counted k row store) := by
  refine ⟨fun h n store => h _ _ .addSales, ?_⟩
  rintro h n stage ⟨⟩
  exact h _ _

@[simp] theorem forall_after_setOrderStatus {orderId : String} {m : ℤ}
    {P : ℕ → Stage κ → Prop} :
    (∀ n stage, After key auto (.setOrderStatus orderId m) n stage → P n stage) ↔
      ∀ n, P n auto := by
  refine ⟨fun h n => h _ _ .setOrderStatus, ?_⟩
  rintro h n stage ⟨⟩
  exact h _

@[simp] theorem forall_after_insertOrder {orderId : String} {row : OrderRow}
    {P : ℕ → Stage κ → Prop} :
    (∀ n stage, After key opened (.insertOrder orderId row) n stage → P n stage) ↔
      ∀ n, P n (created (key orderId) row []) := by
  refine ⟨fun h n => h _ _ .insertOrder, ?_⟩
  rintro h n stage ⟨⟩
  exact h _

end Stage

section Interface

/-! ### Rules for the operations -/

open Interface Handler

variable {κ : Type*}

variable {key : String → κ} {q : OrderRequest} {c : CallState κ}

@[simp] theorem wp_setAutoCommit {on : Bool} {Q : Except String Unit → CallState κ → Prop} :
    (orderInterface key q).wp (setAutoCommit on) Q c ↔
      c.stage.Clean ∧ Q (.ok ()) { c with stage := if on then .auto else .opened } :=
  wp_op_eq (by rintro (what | ⟨⟩) c' <;> simp [orderInterface])

@[simp] theorem wp_prepareStatement {Q : Except String Unit → CallState κ → Prop} :
    (orderInterface key q).wp prepareStatement Q c ↔
      Q (.ok ()) c ∧ ∀ what, Q (.error what) c := by
  refine (wp_op_unchanged fun _ _ => Iff.rfl).trans ⟨fun h => ⟨h.2.1 (), h.2.2⟩, fun h => ?_⟩
  exact ⟨trivial, fun _ => h.1, h.2⟩

@[simp] theorem wp_executeUpdate {stmt : Statement} {Q : Except String ℕ → CallState κ → Prop} :
    (orderInterface key q).wp (executeUpdate stmt) Q c ↔ c.stage.Ready key q stmt ∧
      (∀ n stage, c.stage.After key stmt n stage → Q (.ok n) { c with stage := stage }) ∧
      ∀ what, Q (.error what) c ∧ Q (.error what) { c with stage := c.stage.rolledBack } := by
  refine wp_op.trans (and_congr_right fun _ => ?_)
  constructor
  · exact fun h => ⟨fun n stage hafter => h (.ok n) _ ⟨stage, hafter, rfl⟩,
      fun what => ⟨h (.error what) _ (.inl rfl), h (.error what) _ (.inr rfl)⟩⟩
  · rintro ⟨hok, herror⟩ (what | n) c' hpost
    · rcases hpost with rfl | rfl
      · exact (herror what).1
      · exact (herror what).2
    · obtain ⟨stage, hafter, rfl⟩ := hpost
      exact hok n stage hafter

@[simp] theorem wp_commit {Q : Except String Unit → CallState κ → Prop} :
    (orderInterface key q).wp commit Q c ↔ c.stage.Complete ∧
      Q (.ok ()) { c with stage := .opened, committed := true } ∧ ∀ what, Q (.error what) c := by
  refine wp_op.trans (and_congr_right fun _ => ?_)
  constructor
  · exact fun h => ⟨h (.ok ()) _ rfl, fun what => h (.error what) _ rfl⟩
  · rintro ⟨hok, herror⟩ (what | ⟨⟩) c' hpost
    · exact hpost ▸ herror what
    · exact hpost ▸ hok

@[simp] theorem wp_rollback {Q : Except String Unit → CallState κ → Prop} :
    (orderInterface key q).wp rollback Q c ↔
      Q (.ok ()) { c with stage := c.stage.rolledBack } := by
  refine (wp_op_eq ?_).trans (and_iff_right trivial)
  rintro (what | ⟨⟩) c' <;> simp [orderInterface]

theorem wp_query {query : Query}
    {Q : Except String (Op.Res (.query query)) → CallState κ → Prop} :
    (orderInterface key q).wp (Prog.op (.query query)) Q c ↔
      (∀ a, Q (.ok a) c) ∧ ∀ what, Q (.error what) c :=
  (wp_op_unchanged fun _ _ => Iff.rfl).trans (and_iff_right trivial)

@[simp] theorem wp_getCustomerIdByOrderId {orderId : String}
    {Q : Except String String → CallState κ → Prop} :
    (orderInterface key q).wp (getCustomerIdByOrderId orderId) Q c ↔
      (∀ a, Q (.ok a) c) ∧ ∀ what, Q (.error what) c :=
  wp_query

@[simp] theorem wp_getStoreIdByOrderId {orderId : String}
    {Q : Except String ℤ → CallState κ → Prop} :
    (orderInterface key q).wp (getStoreIdByOrderId orderId) Q c ↔
      (∀ a, Q (.ok a) c) ∧ ∀ what, Q (.error what) c :=
  wp_query

@[simp] theorem wp_getOwnerIdByStoreId {storeId : ℤ}
    {Q : Except String String → CallState κ → Prop} :
    (orderInterface key q).wp (getOwnerIdByStoreId storeId) Q c ↔
      (∀ a, Q (.ok a) c) ∧ ∀ what, Q (.error what) c :=
  wp_query

@[simp] theorem wp_getDeliveryFee {storeId : ℤ}
    {Q : Except String ℤ → CallState κ → Prop} :
    (orderInterface key q).wp (getDeliveryFee storeId) Q c ↔
      (∀ a, Q (.ok a) c) ∧ ∀ what, Q (.error what) c :=
  wp_query

@[simp] theorem wp_getMenuName {menuId : ℤ}
    {Q : Except String String → CallState κ → Prop} :
    (orderInterface key q).wp (getMenuName menuId) Q c ↔
      (∀ a, Q (.ok a) c) ∧ ∀ what, Q (.error what) c :=
  wp_query

@[simp] theorem wp_getOptionName {menuId optionId : ℤ}
    {Q : Except String String → CallState κ → Prop} :
    (orderInterface key q).wp (getOptionName menuId optionId) Q c ↔
      (∀ a, Q (.ok a) c) ∧ ∀ what, Q (.error what) c :=
  wp_query

@[simp] theorem wp_localtime {Q : Except String LocalTime → CallState κ → Prop} :
    (orderInterface key q).wp localtime Q c ↔
      (∀ now, Q (.ok now) c) ∧ ∀ what, Q (.error what) c :=
  (wp_op_unchanged fun _ _ => Iff.rfl).trans (and_iff_right trivial)

@[simp] theorem wp_rand {Q : Except String ℕ → CallState κ → Prop} :
    (orderInterface key q).wp rand Q c ↔ (∀ n, Q (.ok n) c) ∧ ∀ what, Q (.error what) c :=
  (wp_op_unchanged fun _ _ => Iff.rfl).trans (and_iff_right trivial)

@[simp] theorem wp_sendPacket {response : Response}
    {Q : Except String Unit → CallState κ → Prop} :
    (orderInterface key q).wp (sendPacket response) Q c ↔
      (response.isAccepted = true → c.committed = true) ∧
        Q (.ok ()) { c with answered := c.answered || response.isAccepted } :=
  wp_op_eq (by rintro (what | ⟨⟩) c' <;> simp [orderInterface])

@[simp] theorem wp_notify {userId : String} {notice : Notice}
    {Q : Except String Unit → CallState κ → Prop} :
    (orderInterface key q).wp (notify userId notice) Q c ↔ Q (.ok ()) c := by
  unfold notify
  split
  · refine (wp_op_eq ?_).trans (and_iff_right trivial)
    rintro (what | ⟨⟩) c' <;> simp [orderInterface]
  · exact Iff.rfl

@[simp] theorem wp_throwIf {p : Prop} [Decidable p] {what : String}
    {Q : Except String Unit → CallState κ → Prop} :
    (orderInterface key q).wp (throwIf p what) Q c ↔
      (p → Q (.error what) c) ∧ (¬p → Q (.ok ()) c) :=
  wp_ite

/-! ### The handlers keep to the interface -/

/-- Looking up option names changes nothing. -/
theorem wp_optionNames (menuId : ℤ) (opts : List (Option ℤ))
    {Q : Except String (List String) → CallState κ → Prop} (h : ∀ r, Q r c) :
    (orderInterface key q).wp (OrderHandler.optionNames menuId opts) Q c := by
  induction opts generalizing Q with
  | nil => exact h _
  | cons opt opts ih =>
    cases opt with
    | none => exact ih h
    | some optId =>
      simp only [OrderHandler.optionNames, wp_bind, wp_getOptionName]
      refine ⟨fun optName => ih fun r => ?_, fun what => h _⟩
      cases r <;> exact h _

/-- The loop over the items only adds details to the created order. -/
theorem wp_insertItems (orderId : String) (items : List OrderItemDTO) {k : κ} {row : OrderRow}
    {details : List DetailRow} {a b : Bool}
    {Q : Except String (List PushItem) → CallState κ → Prop}
    (hok : ∀ pushItems details, Q (.ok pushItems) ⟨.created k row details, a, b⟩)
    (herror : ∀ what stage, Q (.error what) ⟨stage, a, b⟩) :
    (orderInterface key q).wp (OrderHandler.insertItems orderId items) Q
      ⟨.created k row details, a, b⟩ := by
  induction items generalizing details Q with
  | nil => exact hok _ _
  | cons item items ih =>
    simp only [OrderHandler.insertItems, wp_bind, wp_getMenuName]
    refine ⟨fun name => wp_optionNames _ _ ?_, fun what => herror _ _⟩
    rintro (what | options)
    · exact herror _ _
    simp only [wp_executeUpdate]
    refine ⟨.insertDetail, ?_, fun what => ⟨herror _ _, herror _ _⟩⟩
    rintro n stage ⟨⟩
    exact ih (fun pushItems details => hok _ _) fun what stage => herror _ _

/-- `handleCreateOrder` inserts the order and its details in one transaction. -/
theorem wp_handleCreateOrder (body : Except String OrderCreateReqDTO) :
    (orderInterface key (.createOrder body)).wp (OrderHandler.handleCreateOrder body)
      (fun _ c => c.stage = .auto) ⟨.auto, false, false⟩ := by
  have hres (status : ℤ) (message orderId : String) :
      (⟨CmdID.RES_ORDER_CREATE, status, some message, some orderId⟩ : Response).isAccepted =
        false := rfl
  cases body with
  | error what => simp [OrderHandler.handleCreateOrder, hres]
  | ok req =>
    simp only [OrderHandler.handleCreateOrder, wp_tryCatch, wp_bind, wp_ofExcept]
    simp [hres, OrderRequest.isAccept]
    intro now n
    exact wp_insertItems _ _ (fun pushItems details => trivial) fun what stage => trivial

/-- `handleOrderAccept` moves the order and adds its price in one transaction, and answers 200
exactly when that has been committed. -/
theorem wp_handleOrderAccept (body : Except String OrderAcceptReqDTO) :
    (orderInterface key (.orderAccept body)).wp (OrderHandler.handleOrderAccept body)
      (fun _ c => c.stage = .auto ∧ (c.committed = true ↔ c.answered = true))
      ⟨.auto, false, false⟩ := by
  have hfailed (what : String) :
      (⟨CmdID.RES_ORDER_ACCEPT, 500, some what, some ""⟩ : Response).isAccepted = false := rfl
  have haccepted (message orderId : String) :
      (⟨CmdID.RES_ORDER_ACCEPT, 200, some message, some orderId⟩ : Response).isAccepted = true :=
    rfl
  cases body with
  | error what => simp [OrderHandler.handleOrderAccept, hfailed]
  | ok req => simp [OrderHandler.handleOrderAccept, hfailed, haccepted, OrderRequest.isAccept]

/-- `handleChangeOrderState` only runs the update it is asked for. -/
theorem wp_handleChangeOrderState (body : Except String ReqChangeOrderStateDTO) :
    (orderInterface key (.changeOrderState body)).wp (OrderHandler.handleChangeOrderState body)
      (fun _ c => c.stage = .auto) ⟨.auto, false, false⟩ := by
  have hres (status : ℤ) (message : String) :
      (⟨CmdID.RES_CHANGE_ORDER_STATE, status, some message, none⟩ : Response).isAccepted = false :=
    rfl
  cases body with
  | error what => simp [OrderHandler.handleChangeOrderState, hres]
  | ok req => simp [OrderHandler.handleChangeOrderState, hres, OrderRequest.statusUpdate]

/-- `handleOrderReject` only cancels the order. -/
theorem wp_handleOrderReject (body : Except String String) :
    (orderInterface key (.orderReject body)).wp (OrderHandler.handleOrderReject body)
      (fun _ c => c.stage = .auto) ⟨.auto, false, false⟩ := by
  have hres (status : ℤ) (message orderId : String) :
      (⟨CmdID.RES_ORDER_REJECT, status, some message, some orderId⟩ : Response).isAccepted =
        false := rfl
  cases body with
  | error what => simp [OrderHandler.handleOrderReject, hres]
  | ok orderId => simp [OrderHandler.handleOrderReject, hres, OrderRequest.statusUpdate]

/-- `handleCancel` only cancels the order. -/
theorem wp_handleCancel (body : Except String String) :
    (orderInterface key (.cancel body)).wp (OrderHandler.handleCancel body)
      (fun _ c => c.stage = .auto) ⟨.auto, false, false⟩ := by
  have hres (status : ℤ) (message orderId : Option String) :
      (⟨CmdID.RES_CANCEL, status, message, orderId⟩ : Response).isAccepted = false := rfl
  cases body with
  | error what => simp [OrderHandler.handleCancel, hres]
  | ok orderId => simp [OrderHandler.handleCancel, hres, OrderRequest.statusUpdate]

/-- `handlePickup` only sets the order's status to 2. -/
theorem wp_handlePickup (body : Except String String) :
    (orderInterface key (.pickup body)).wp (RiderHandler.handlePickup body)
      (fun _ c => c.stage = .auto) ⟨.auto, false, false⟩ := by
  have hres (status : ℤ) (orderId : String) :
      (⟨CmdID.RES_PICKUP, status, none, some orderId⟩ : Response).isAccepted = false := rfl
  cases body with
  | error what => simp [RiderHandler.handlePickup]
  | ok orderId => simp [RiderHandler.handlePickup, hres, OrderRequest.statusUpdate]

/-- `handleDeliveryComplete` only sets the order's status to 3. -/
theorem wp_handleDeliveryComplete (body : Except String String) :
    (orderInterface key (.deliveryComplete body)).wp (RiderHandler.handleDeliveryComplete body)
      (fun _ c => c.stage = .auto) ⟨.auto, false, false⟩ := by
  have hres (status : ℤ) (message orderId : Option String) :
      (⟨CmdID.RES_DELIVERY_COMPLETE, status, message, orderId⟩ : Response).isAccepted = false :=
    rfl
  cases body with
  | error what =>
    simp [RiderHandler.handleDeliveryComplete, RiderHandler.deliveryCompleteFailed, hres]
  | ok orderId =>
    simp [RiderHandler.handleDeliveryComplete, RiderHandler.deliveryCompleteFailed, hres,
      OrderRequest.statusUpdate]

/-- What a finished call has to show: its connection is back in autocommit mode, with no
transaction open, and an accept was answered with 200 if and only if it was committed. -/
def Outcome (q : OrderRequest) (_ : Except String Unit) (c : CallState κ) : Prop :=
  c.stage = .auto ∧ (q.isAccept = true → (c.committed = true ↔ c.answered = true))

/-- **Every handler keeps to the interface.** -/
theorem wp_handle (q : OrderRequest) :
    (orderInterface key q).wp q.handle (Outcome q) ⟨.auto, false, false⟩ := by
  cases q with
  | orderAccept body => exact wp_mono (fun _ _ h => ⟨h.1, fun _ => h.2⟩) (wp_handleOrderAccept body)
  | createOrder body =>
    exact wp_mono (fun _ _ h => ⟨h, fun hq => nomatch hq⟩) (wp_handleCreateOrder body)
  | changeOrderState body =>
    exact wp_mono (fun _ _ h => ⟨h, fun hq => nomatch hq⟩) (wp_handleChangeOrderState body)
  | pickup body => exact wp_mono (fun _ _ h => ⟨h, fun hq => nomatch hq⟩) (wp_handlePickup body)
  | deliveryComplete body =>
    exact wp_mono (fun _ _ h => ⟨h, fun hq => nomatch hq⟩) (wp_handleDeliveryComplete body)
  | orderReject body =>
    exact wp_mono (fun _ _ h => ⟨h, fun hq => nomatch hq⟩) (wp_handleOrderReject body)
  | cancel body => exact wp_mono (fun _ _ h => ⟨h, fun hq => nomatch hq⟩) (wp_handleCancel body)

end Interface

end ItsBedalyo
