import ItsBedalyo.Database.ResultSets
import ItsBedalyo.Database.StoreReaders
import ItsBedalyo.Handler.CookTimeSet
import ItsBedalyo.Lib.Keys
import ItsBedalyo.Lib.MaximalRuns
import ItsBedalyo.Lib.Relational
import ItsBedalyo.Lib.Sql

/-!
# The call for a rider

`handleCookTimeSet` with its lookups query by query. The address where the rider is to fetch the
order is taken from what `getStoreDetail` returns: from its member `storeAddress`, which nothing
fills, instead of that of its `storeData`. The `totalPrice` of the call is not set, and neither the
status of the order nor whether there is such an order is looked at.

`CookTimeSet.lean` has the handler among those that write or announce a status, with its lookups as
single operations; `same_sent` says that it sends the same.
-/

namespace ItsBedalyo.DeliveryCall

open Pages Relational MaximalRuns

variable {D α : Type}

/-! ### The lookups -/

/-- `getCustomerIdByOrderId` -/
def getCustomerIdByOrderId (orderId : String) : DbProg D String :=
  DbProg.catchSql
    (do
      let rows ← DbProg.select "SELECT user_id FROM ORDERS WHERE order_id = ?" [.string orderId]
      match ← DbProg.first rows with
      | some row =>
        let userId ← DbProg.getString row "user_id"
        pure (cStr userId)
      | none => pure "")
    ""

/-- `getStoreIdByOrderId` -/
def getStoreIdByOrderId (orderId : String) : DbProg D Int32 := do
  let rows ← DbProg.select "SELECT store_id FROM ORDERS WHERE order_id = ?" [.string orderId]
  match ← DbProg.first rows with
  | some row => DbProg.getInt row "store_id"
  | none => pure (-1)

/-- `getDeliveryAddressByOrderId` -/
def getDeliveryAddressByOrderId (orderId : String) : DbProg D String := do
  let rows ← DbProg.select "SELECT delivery_address FROM ORDERS WHERE order_id = ?"
    [.string orderId]
  match ← DbProg.first rows with
  | some row =>
    let address ← DbProg.getString row "delivery_address"
    pure (cStr address)
  | none => pure ""

/-- The range and the cook time of the order's store, with the values for `NULL`. -/
def selectTimes (orderId : String) : DbProg D (Option TimesRow) := do
  let rows ← DbProg.select
    ("SELECT S.delivery_time_range, S.cook_time FROM STORES S " ++
     "JOIN ORDERS O ON S.store_id = O.store_id WHERE O.order_id = ?") [.string orderId]
  match ← DbProg.first rows with
  | some row =>
    let timeRange ← DbProg.stringOr row "delivery_time_range" ""
    let defaultCookTime ← DbProg.intOr row "cook_time" 30
    pure (some (some (cStr timeRange), some defaultCookTime.toInt))
  | none => pure none

/-! ### The handler -/

/-- The calls of the handler. -/
inductive CallOp (D : Type)
  | db (o : DbOp D)
  | sendPacket (response : Response)
  | sendToUser (userId : String) (notice : Notice)
  /-- an `int` that nothing was assigned to -/
  | uninitialised
  | broadcastToRole (role : ℤ) (notice : NotifyDeliveryCallDTO)

/-- What they return. -/
abbrev CallOp.Res : CallOp D → Type
  | db o => o.Res
  | uninitialised => Int32
  | _ => Unit

/-- Code of the handler. -/
abbrev CallProg (D : Type) := Prog (@CallOp.Res D) String

/-- Code that calls the database. -/
def db : DbProg D α → CallProg D α
  | .ret a => .ret a
  | .fail e => .fail e.what
  | .call o k => .call (.db o) fun r => db (k (r.mapError fun what => ⟨what⟩))

variable [Double D]

/-- `handleCookTimeSet` on its parsed body; `storeData` is what the member of that name holds when
`getStoreDetail` declares its result. -/
def handleCookTimeSet (text : JsonText D) (storeData : Dto.StoreDataDTO D)
    (body : Except String ReqCookTimeSetDTO) : CallProg D Unit := do
  try
    let req ← Prog.ofExcept body
    let row ← db (selectTimes req.orderId)
    let netDeliveryTime ← Prog.ofExcept (OrderHandler.netDeliveryTime row)
    let totalEstimatedTime := req.cookTime + netDeliveryTime
    Prog.op (CallOp.sendPacket
      { cmdId := CmdID.RES_COOK_TIME_SET, status := 200,
        message := "조리 시간이 성공적으로 설정되었습니다." })
    let customerId ← db (getCustomerIdByOrderId req.orderId)
    if customerId ≠ "" then
      Prog.op (CallOp.sendToUser customerId (.orderState req.orderId 1
        ("사장님이 조리를 시작했습니다! (약 " ++ toString totalEstimatedTime ++ "분 내 도착 예정 🛵)")))
    let storeId ← db (getStoreIdByOrderId req.orderId)
    let detail ← db (Pages.StoreDAO.getStoreDetail text storeData storeId)
    let deliveryAddress ← db (getDeliveryAddressByOrderId req.orderId)
    let totalPrice ← Prog.op CallOp.uninitialised
    Prog.op (CallOp.broadcastToRole 2
      { orderId := req.orderId, pickupAddress := detail.storeAddress,
        deliveryAddress := deliveryAddress, deliveryFee := 3500,
        menuSummary := "조리 완료까지 " ++ toString req.cookTime ++ "분 남음",
        totalPrice := totalPrice.toInt })
  catch _ =>
    Prog.op (CallOp.sendPacket
      { cmdId := CmdID.RES_COOK_TIME_SET, status := 500,
        message := "서버 내부 오류로 설정에 실패했습니다." })

/-- What the calls send to users. -/
def pushed (ops : List (CallOp D)) : List (String × Notice) :=
  ops.filterMap fun
    | .sendToUser userId notice => some (userId, notice)
    | _ => none

/-- What the calls send to roles. -/
def broadcast (ops : List (CallOp D)) : List (ℤ × NotifyDeliveryCallDTO) :=
  ops.filterMap fun
    | .broadcastToRole role notice => some (role, notice)
    | _ => none

section Sent

variable (ops ops' : List (CallOp D)) (dbOps : List (DbOp D))

omit [Double D]

@[simp] theorem pushed_append : pushed (ops ++ ops') = pushed ops ++ pushed ops' :=
  List.filterMap_append ..

@[simp] theorem broadcast_append : broadcast (ops ++ ops') = broadcast ops ++ broadcast ops' :=
  List.filterMap_append ..

@[simp] theorem pushed_db : pushed (dbOps.map CallOp.db) = [] := by
  rw [pushed, List.filterMap_map]
  exact List.filterMap_eq_nil_iff.mpr fun _ _ => rfl

@[simp] theorem broadcast_db : broadcast (dbOps.map CallOp.db) = [] := by
  rw [broadcast, List.filterMap_map]
  exact List.filterMap_eq_nil_iff.mpr fun _ _ => rfl

end Sent

/-! ### The member of the detail that nothing fills -/

/-- A result whose own `storeAddress` is as it was. -/
def NoAddress (result : Dto.ResStoreDetailDTO D) : Prop := result.storeAddress = ""

omit [Double D] in
theorem keeps_fill {α : Type} {read : DbProg D α}
    {set : α → Dto.ResStoreDetailDTO D → Dto.ResStoreDetailDTO D}
    (h : ∀ a result, (set a result).storeAddress = result.storeAddress) :
    TryBlock.Keeps NoAddress (StoreDAO.fill read set) :=
  (TryBlock.keeps_db read).bind fun a =>
    TryBlock.keeps_assign fun result hresult => (h a result).trans hresult

omit [Double D] in
theorem keeps_fillEach {α : Type} {read : ResultRow D → DbProg D α}
    {push : α → Dto.ResStoreDetailDTO D → Dto.ResStoreDetailDTO D}
    (h : ∀ a result, (push a result).storeAddress = result.storeAddress)
    (rows : List (ResultRow D)) : TryBlock.Keeps NoAddress (StoreDAO.fillEach read push rows) := by
  induction rows with
  | nil => exact TryBlock.keeps_db _
  | cons row rows ih => exact (TryBlock.keeps_db _).bind fun _ => (keeps_fill h).bind fun _ => ih

theorem keeps_readStore (row : ResultRow D) :
    TryBlock.Keeps NoAddress (StoreDAO.readStore row) := by
  unfold StoreDAO.readStore StoreDAO.fillStore
  repeat
    refine TryBlock.Keeps.bind (keeps_fill fun _ _ => rfl) fun _ => ?_
  exact keeps_fill fun _ _ => rfl

omit [Double D] in
/-- What a block keeps holds of the variables afterwards. -/
theorem eval_catchFrom {σ : Type} {P : σ → Prop} {block : TryBlock D σ Unit}
    (hblock : TryBlock.Keeps P block) {s : σ} (hs : P s) (answer : (o : DbOp D) → o.Res) :
    ∃ s' ops, (TryBlock.catchFrom block s).eval answer = (.ok s', ops) ∧ P s' := by
  induction block generalizing s with
  | ret a => exact ⟨s, [], rfl, hs⟩
  | fail e => exact ⟨s, [], rfl, hs⟩
  | call o k ih =>
    cases o with
    | db o =>
      obtain ⟨s', ops, heval, hs'⟩ := ih (.ok (answer o)) (hblock _) hs
      refine ⟨s', o :: ops, ?_, hs'⟩
      rw [TryBlock.catchFrom, Prog.eval, heval]
      rfl
    | assign f => exact ih (.ok ()) (hblock.2 _) (hblock.1 s hs)

theorem keeps_readDetail (text : JsonText D) (storeId : Int32) :
    TryBlock.Keeps NoAddress (StoreDAO.readDetail text storeId) := by
  refine (TryBlock.keeps_db _).bind fun found => (TryBlock.keeps_db _).bind fun first => ?_
  cases first with
  | none => trivial
  | some row =>
    have hstatus : TryBlock.Keeps NoAddress (TryBlock.assign fun result =>
        { result with status := 200 } : TryBlock D (Dto.ResStoreDetailDTO D) Unit) :=
      TryBlock.keeps_assign fun _ h => h
    refine hstatus.bind fun _ => (keeps_readStore row).bind fun _ => ?_
    have hmenus (menus : List (ResultRow D)) : TryBlock.Keeps NoAddress
        (StoreDAO.fillEach (StoreDAO.menuOfStore text storeId)
          (fun a result => { result with menuList := result.menuList ++ [a] }) menus) := by
      refine keeps_fillEach (fun a result => ?_) menus
      rfl
    refine (TryBlock.keeps_db _).bind fun menus => (hmenus menus).bind fun _ => ?_
    refine (TryBlock.keeps_db _).bind fun reviews => keeps_fillEach (fun a result => ?_) reviews
    rfl

/-- **The address that the call takes is empty**, whatever the database holds. -/
theorem read_getStoreDetail (rows : String → List SqlParam → List (ResultRow D))
    (text : JsonText D) (storeData : Dto.StoreDataDTO D) (storeId : Int32) :
    ∃ detail, (Pages.StoreDAO.getStoreDetail text storeData storeId).read rows = .ok detail ∧
      detail.storeAddress = "" := by
  obtain ⟨detail, ops, heval, hdetail⟩ := eval_catchFrom (keeps_readDetail text storeId)
    (s := { status := 404, storeData, menuList := [], reviewList := [], storeAddress := "" }) rfl
    (readOnly rows)
  exact ⟨detail, congrArg Prod.fst heval, hdetail⟩

/-! ### The tables -/

/-- A row of `ORDERS`. -/
structure CalledOrder where
  orderId : String
  userId : String
  storeId : Int32
  deliveryAddress : String
  totalPrice : Int32
  orderStatus : Option Int32

/-- A row of `STORES`. -/
structure CalledStore where
  storeId : Int32
  storeAddress : Option String
  deliveryTimeRange : Option String
  cookTime : Option Int32

/-- The tables. `details` is what the queries of `getStoreDetail` find for a store: its other
columns, its menus and its reviews. -/
structure CallTables (D : Type) where
  orders : List CalledOrder
  stores : List CalledStore
  details : String → Int32 → List (ResultRow D)
  orderKey : (orders.map (·.orderId)).Nodup
  storeKey : (stores.map (·.storeId)).Nodup

def orderRow (order : CalledOrder) : ResultRow D := .of
  [("user_id", .string order.userId), ("store_id", .int order.storeId),
   ("delivery_address", .string order.deliveryAddress)]

def timesRow (found : CalledStore × CalledOrder) : ResultRow D := .of
  [("delivery_time_range", .ofText? found.1.deliveryTimeRange),
   ("cook_time", .ofInt? found.1.cookTime)]

namespace CallTables

variable (tables : CallTables D)

/-- What the queries find, told from one another by their conditions. -/
def rows (query : String) (params : List SqlParam) : List (ResultRow D) :=
  match params with
  | [.string orderId] =>
    let orders := tables.orders.filter (·.orderId = orderId)
    if (Sql.summary query).2 = [("O.order_id", "=")] then
      (join (fun store order => store.storeId = order.storeId) tables.stores orders).map timesRow
    else orders.map orderRow
  | [.int storeId] => tables.details query storeId
  | _ => []

def order? (orderId : String) : Option CalledOrder :=
  tables.orders.find? (·.orderId = orderId)

def store? (storeId : Int32) : Option CalledStore :=
  tables.stores.find? (·.storeId = storeId)

/-- What `handleCookTimeSet` reads of the order's store. -/
def times (orderId : String) : Option TimesRow :=
  (tables.order? orderId).bind fun order =>
    (tables.store? order.storeId).map fun store =>
      (some (cStr (store.deliveryTimeRange.getD "")), some (store.cookTime.getD 30).toInt)

/-- The customer who is told. -/
def customer (orderId : String) : String :=
  ((tables.order? orderId).map fun order => cStr order.userId).getD ""

/-- The address in the call. -/
def address (orderId : String) : String :=
  ((tables.order? orderId).map fun order => cStr order.deliveryAddress).getD ""

/-- What the calls return, where `memory` is what the number holds that is not set. -/
def answer (memory : Int32) : (o : CallOp D) → o.Res
  | .db o => readOnly tables.rows o
  | .uninitialised => memory
  | .sendPacket _ | .sendToUser _ _ | .broadcastToRole _ _ => ()

end CallTables

section Reading

variable (tables : CallTables D) (orderId : String)

theorem summary_timesQuery : (Sql.summary
    ("SELECT S.delivery_time_range, S.cook_time FROM STORES S " ++
     "JOIN ORDERS O ON S.store_id = O.store_id WHERE O.order_id = ?")).2 =
      [("O.order_id", "=")] := by
  rw [Sql.summary, String.toList_append, String.toList_ofList, String.toList_ofList]
  decide +kernel

omit [Double D] in
theorem rows_times : tables.rows
    ("SELECT S.delivery_time_range, S.cook_time FROM STORES S " ++
     "JOIN ORDERS O ON S.store_id = O.store_id WHERE O.order_id = ?") [.string orderId] =
      (join (fun store order => store.storeId = order.storeId) tables.stores
        (tables.orders.filter (·.orderId = orderId))).map timesRow := by
  rw [CallTables.rows, if_pos summary_timesQuery]

omit [Double D] in
theorem rows_order {query : String} (h : (Sql.summary query).2 = [("order_id", "=")]) :
    tables.rows query [.string orderId] =
      (tables.orders.filter (·.orderId = orderId)).map orderRow := by
  rw [CallTables.rows, if_neg]
  rw [h]
  decide

omit [Double D] in
/-- The first row of an order. -/
theorem head?_orders : ((tables.orders.filter (·.orderId = orderId)).map
    (orderRow : CalledOrder → ResultRow D)).head? = (tables.order? orderId).map orderRow := by
  rw [List.head?_map, List.head?_filter]
  rfl

theorem read_getCustomerIdByOrderId : (getCustomerIdByOrderId orderId).read tables.rows =
    .ok (tables.customer orderId) := by
  have hsummary : (Sql.summary "SELECT user_id FROM ORDERS WHERE order_id = ?").2 =
      [("order_id", "=")] := by
    rw [Sql.summary, String.toList_ofList]
    decide +kernel
  rw [getCustomerIdByOrderId, DbProg.read_catchSql, DbProg.read_bind, DbProg.read_select,
    rows_order tables orderId hsummary]
  simp only [DbProg.read_bind, DbProg.read_first, head?_orders, CallTables.customer]
  cases tables.order? orderId with
  | none => rfl
  | some order => rfl

theorem read_getStoreIdByOrderId : (getStoreIdByOrderId orderId).read tables.rows =
    .ok (((tables.order? orderId).map (·.storeId)).getD (-1)) := by
  have hsummary : (Sql.summary "SELECT store_id FROM ORDERS WHERE order_id = ?").2 =
      [("order_id", "=")] := by
    rw [Sql.summary, String.toList_ofList]
    decide +kernel
  rw [getStoreIdByOrderId, DbProg.read_bind, DbProg.read_select,
    rows_order tables orderId hsummary]
  simp only [DbProg.read_bind, DbProg.read_first, head?_orders]
  cases tables.order? orderId with
  | none => rfl
  | some order => rfl

theorem read_getDeliveryAddressByOrderId :
    (getDeliveryAddressByOrderId orderId).read tables.rows = .ok (tables.address orderId) := by
  have hsummary : (Sql.summary "SELECT delivery_address FROM ORDERS WHERE order_id = ?").2 =
      [("order_id", "=")] := by
    rw [Sql.summary, String.toList_ofList]
    decide +kernel
  rw [getDeliveryAddressByOrderId, DbProg.read_bind, DbProg.read_select,
    rows_order tables orderId hsummary]
  simp only [DbProg.read_bind, DbProg.read_first, head?_orders, CallTables.address]
  cases tables.order? orderId with
  | none => rfl
  | some order => rfl

omit [Double D] in
/-- The first store of an order that is there. -/
theorem head?_join (stores : List CalledStore) (order : CalledOrder) :
    (join (fun store order => store.storeId = order.storeId) stores [order]).head? =
      (stores.find? (·.storeId = order.storeId)).map (·, order) := by
  induction stores with
  | nil => rfl
  | cons store stores ih =>
    rw [join, List.flatMap_cons]
    by_cases hstore : store.storeId = order.storeId
    · rw [List.find?_cons_of_pos (by simpa using hstore), List.filter_singleton,
        decide_eq_true hstore]
      rfl
    · rw [List.find?_cons_of_neg (by simpa using hstore), List.filter_singleton,
        decide_eq_false hstore]
      exact ih

theorem read_selectTimes : (selectTimes orderId).read tables.rows =
    .ok (tables.times orderId) := by
  rw [selectTimes, DbProg.read_bind, DbProg.read_select, rows_times]
  simp only [DbProg.read_bind, DbProg.read_first, List.head?_map]
  cases horder : tables.order? orderId with
  | none =>
    have hnone : tables.orders.filter (·.orderId = orderId) = [] := by
      rw [List.filter_eq_nil_iff]
      exact List.find?_eq_none.mp horder
    have hjoin : join (fun (store : CalledStore) order => store.storeId = order.storeId)
        tables.stores ([] : List CalledOrder) = [] := by
      simp [join]
    rw [hnone, hjoin, CallTables.times, horder]
    rfl
  | some order =>
    have hid : order.orderId = orderId := by simpa using List.find?_some horder
    have hone : tables.orders.filter (·.orderId = orderId) = [order] := by
      rw [← hid]
      exact List.filter_key_eq tables.orderKey (List.mem_of_find?_eq_some horder)
    rw [hone, head?_join, CallTables.times, horder, Option.bind_some, CallTables.store?]
    cases tables.stores.find? (·.storeId = order.storeId) with
    | none => rfl
    | some store => simp [timesRow, ResultRow.of, List.lookup_cons]

end Reading

/-! ### What the handler sends -/

section Sends

variable (tables : CallTables D) (memory : Int32) (text : JsonText D)
  (storeData : Dto.StoreDataDTO D) (req : ReqCookTimeSetDTO)

/-- The call. -/
def call : NotifyDeliveryCallDTO where
  orderId := req.orderId
  pickupAddress := ""
  deliveryAddress := tables.address req.orderId
  deliveryFee := 3500
  menuSummary := "조리 완료까지 " ++ toString req.cookTime ++ "분 남음"
  totalPrice := memory.toInt

/-- What the customer is told, where there is one. -/
def announcement (totalEstimatedTime : ℤ) : List (String × Notice) :=
  if tables.customer req.orderId ≠ "" then
    [(tables.customer req.orderId, .orderState req.orderId 1
      ("사장님이 조리를 시작했습니다! (약 " ++ toString totalEstimatedTime ++ "분 내 도착 예정 🛵)"))]
  else []

omit [Double D] in
theorem eval_db (p : DbProg D α) (answer : (o : CallOp D) → o.Res) :
    (db p).eval answer = (p.eval fun o => answer (.db o)).map (Except.mapError fun e => e.what)
      (List.map CallOp.db) := by
  induction p with
  | ret a => rfl
  | fail e => rfl
  | call o k ih =>
    rw [db, Prog.eval, Prog.eval, ih]
    rfl

theorem eval_db_read {p : DbProg D α} {a : α} (h : p.read tables.rows = .ok a) :
    ∃ ops : List (DbOp D), (db p).eval (tables.answer memory) = (.ok a, ops.map CallOp.db) := by
  refine ⟨(p.eval (readOnly tables.rows)).2, ?_⟩
  rw [eval_db]
  show Prod.map _ _ (p.eval (readOnly tables.rows)) = _
  rw [show p.eval (readOnly tables.rows) = (.ok a, (p.eval (readOnly tables.rows)).2) from
    Prod.ext h rfl]
  rfl

theorem eval_handleCookTimeSet_ok {net : ℤ}
    (hnet : OrderHandler.netDeliveryTime (tables.times req.orderId) = .ok net) :
    ∃ ops, (handleCookTimeSet text storeData (.ok req)).eval (tables.answer memory) =
        (.ok (), ops) ∧
      pushed ops = announcement tables req (req.cookTime + net) ∧
      broadcast ops = [(2, call tables memory req)] := by
  obtain ⟨times, htimes⟩ := eval_db_read tables memory (read_selectTimes tables req.orderId)
  obtain ⟨customer, hcustomer⟩ :=
    eval_db_read tables memory (read_getCustomerIdByOrderId tables req.orderId)
  obtain ⟨store, hstore⟩ :=
    eval_db_read tables memory (read_getStoreIdByOrderId tables req.orderId)
  obtain ⟨detail, hread, hdetail⟩ := read_getStoreDetail tables.rows text storeData
    (((tables.order? req.orderId).map (·.storeId)).getD (-1))
  obtain ⟨details, hdetails⟩ := eval_db_read tables memory hread
  obtain ⟨address, haddress⟩ :=
    eval_db_read tables memory (read_getDeliveryAddressByOrderId tables req.orderId)
  rw [handleCookTimeSet, announcement]
  by_cases hempty : tables.customer req.orderId = ""
  · simp only [Prog.eval_tryCatch, Prog.eval_bind, Prog.eval_ofExcept, htimes, hnet, Prog.eval_op,
      hcustomer, hempty, ne_eq, not_true_eq_false, if_false, hstore, hdetails,
      haddress]
    refine ⟨_, rfl, ?_, ?_⟩
    · simp only [pushed_append, pushed_db]
      rfl
    · simp only [broadcast_append, broadcast_db, hdetail]
      rfl
  · simp only [Prog.eval_tryCatch, Prog.eval_bind, Prog.eval_ofExcept, htimes, hnet, Prog.eval_op,
      hcustomer, hempty, ne_eq, not_false_eq_true, if_true, hstore, hdetails,
      haddress]
    refine ⟨_, rfl, ?_, ?_⟩
    · simp only [pushed_append, pushed_db]
      rfl
    · simp only [broadcast_append, broadcast_db, hdetail]
      rfl

theorem eval_handleCookTimeSet_error {what : String}
    (hnet : OrderHandler.netDeliveryTime (tables.times req.orderId) = .error what) :
    ∃ ops, (handleCookTimeSet text storeData (.ok req)).eval (tables.answer memory) =
        (.ok (), ops) ∧
      pushed ops = [] ∧ broadcast ops = [] := by
  obtain ⟨times, htimes⟩ := eval_db_read tables memory (read_selectTimes tables req.orderId)
  rw [handleCookTimeSet]
  simp only [Prog.eval_tryCatch, Prog.eval_bind, Prog.eval_ofExcept, htimes, hnet, Prog.eval_op]
  refine ⟨_, rfl, ?_, ?_⟩
  · simp only [pushed_append, pushed_db]
    rfl
  · simp only [broadcast_append, broadcast_db]
    rfl

end Sends

/-! ### The handler with its lookups as single operations -/

section Abstract

variable (tables : CallTables D) (memory : Int32)

/-- What the lookups return as operations. -/
def statusAnswer : (o : StatusOp) → o.Res
  | .base (.query (.getCustomerIdByOrderId orderId)) => tables.customer orderId
  | .base (.query (.getStoreIdByOrderId orderId)) =>
    (((tables.order? orderId).map (·.storeId)).getD (-1)).toInt
  | .base (.query (.getOwnerIdByStoreId _)) | .base (.query (.getMenuName _))
  | .base (.query (.getOptionName _ _)) => ""
  | .base (.query (.getDeliveryFee _)) => (0 : ℤ)
  | .base (.executeUpdate _) | .base .rand => (0 : ℕ)
  | .base .localtime => ⟨"", "", by decide⟩
  | .base (.setAutoCommit _) | .base .prepareStatement | .base .commit | .base .rollback
  | .base (.sendPacket _) | .base (.sendToUser _ _) => ()
  | .selectTimes orderId => tables.times orderId
  | .getDeliveryAddressByOrderId orderId => tables.address orderId
  | .uninitialised => memory.toInt
  | .broadcastToRole _ _ => ()

/-- What the operations send, to users and to roles. -/
def statusSent (ops : List StatusOp) :
    List (String × Notice) × List (ℤ × NotifyDeliveryCallDTO) :=
  (ops.filterMap fun
    | .base (.sendToUser userId notice) => some (userId, notice)
    | _ => none,
   ops.filterMap fun
    | .broadcastToRole role notice => some (role, notice)
    | _ => none)

omit [Double D] in
theorem eval_lift (p : Handler α) (answer : (o : StatusOp) → o.Res) : p.lift.eval answer =
    (p.eval fun o => answer (.base o)).map id (List.map StatusOp.base) := by
  induction p with
  | ret a => rfl
  | fail e => rfl
  | call o k ih =>
    show ((Handler.lift (k (.ok (answer (.base o))))).eval answer).map id (.base o :: ·) = _
    rw [ih, Prog.eval]
    rfl

omit [Double D] in
theorem eval_status_error {req : ReqCookTimeSetDTO} {what : String}
    (hnet : OrderHandler.netDeliveryTime (tables.times req.orderId) = .error what) :
    ∃ ops, (OrderHandler.handleCookTimeSet (.ok req)).eval (statusAnswer tables memory) =
      (.ok (), ops) ∧ statusSent ops = ([], []) := by
  have htimes : statusAnswer tables memory (.selectTimes req.orderId) =
      tables.times req.orderId := rfl
  rw [OrderHandler.handleCookTimeSet]
  simp only [Prog.eval_tryCatch, Prog.eval_bind, Prog.eval_ofExcept, eval_lift,
    Handler.prepareStatement, StatusHandler.selectTimes, Handler.sendPacket, Prog.eval_op, htimes,
    hnet]
  exact ⟨_, rfl, rfl⟩

omit [Double D] in
theorem eval_status_ok {req : ReqCookTimeSetDTO} {net : ℤ}
    (hnet : OrderHandler.netDeliveryTime (tables.times req.orderId) = .ok net) :
    ∃ ops, (OrderHandler.handleCookTimeSet (.ok req)).eval (statusAnswer tables memory) =
      (.ok (), ops) ∧
      statusSent ops =
        (announcement tables req (req.cookTime + net), [(2, call tables memory req)]) := by
  have htimes : statusAnswer tables memory (.selectTimes req.orderId) =
      tables.times req.orderId := rfl
  have hcustomer : statusAnswer tables memory
      (.base (.query (.getCustomerIdByOrderId req.orderId))) = tables.customer req.orderId := rfl
  rw [OrderHandler.handleCookTimeSet, announcement]
  simp only [Prog.eval_tryCatch, Prog.eval_bind, Prog.eval_ofExcept, eval_lift,
    Handler.prepareStatement, StatusHandler.selectTimes, Handler.sendPacket, Prog.eval_op, htimes,
    hnet, Handler.getCustomerIdByOrderId, hcustomer, Handler.getStoreIdByOrderId, Handler.notify,
    Prod.map_apply, id_eq]
  by_cases hempty : tables.customer req.orderId = ""
  · simp only [hempty, ne_eq, not_true_eq_false, if_false]
    exact ⟨_, rfl, rfl⟩
  · simp only [hempty, ne_eq, not_false_eq_true, if_true]
    refine ⟨_, rfl, ?_⟩
    rfl

/-- **The two handlers send the same** to users and to roles. -/
theorem same_sent (text : JsonText D) (storeData : Dto.StoreDataDTO D)
    (req : ReqCookTimeSetDTO) :
    ∃ ops ops', (handleCookTimeSet text storeData (.ok req)).eval (tables.answer memory) =
        (.ok (), ops) ∧
      (OrderHandler.handleCookTimeSet (.ok req)).eval (statusAnswer tables memory) =
        (.ok (), ops') ∧
      statusSent ops' = (pushed ops, broadcast ops) := by
  cases hnet : OrderHandler.netDeliveryTime (tables.times req.orderId) with
  | error what =>
    obtain ⟨ops, heval, hpushed, hcalls⟩ :=
      eval_handleCookTimeSet_error tables memory text storeData req hnet
    obtain ⟨ops', heval', hsent⟩ := eval_status_error tables memory hnet
    exact ⟨ops, ops', heval, heval', by rw [hsent, hpushed, hcalls]⟩
  | ok net =>
    obtain ⟨ops, heval, hpushed, hcalls⟩ :=
      eval_handleCookTimeSet_ok tables memory text storeData req hnet
    obtain ⟨ops', heval', hsent⟩ := eval_status_ok tables memory hnet
    exact ⟨ops, ops', heval, heval', by rw [hsent, hpushed, hcalls]⟩

end Abstract

/-! ### The time on the way -/

/-- Every number is an `int`. -/
def Fits (s : String) : Prop := ∀ n, HasNumber s n → n ≤ 2147483647

theorem stoi_eq (digits : List Char) : OrderHandler.stoi digits =
    if decimal digits ≤ 2147483647 then .ok (decimal digits : ℤ) else .error "stoi" := by
  rw [OrderHandler.stoi, decimal_eq_foldl]

theorem foldlM_stoi (runs : List (List Char)) (m : ℕ) :
    runs.foldlM (fun maxTotalTime digits => do
      let val ← OrderHandler.stoi digits
      pure (if val > maxTotalTime then val else maxTotalTime)) (m : ℤ) =
      if ∀ run ∈ runs, decimal run ≤ 2147483647 then
        .ok ((runs.foldl (fun m run => max m (decimal run)) m : ℕ) : ℤ)
      else .error "stoi" := by
  induction runs generalizing m with
  | nil => exact (if_pos fun run hrun => absurd hrun List.not_mem_nil).symm
  | cons run runs ih =>
    rw [List.foldlM_cons, stoi_eq]
    by_cases hrun : decimal run ≤ 2147483647
    · have hmax : (if (decimal run : ℤ) > m then (decimal run : ℤ) else m) =
          ((max m (decimal run) : ℕ) : ℤ) := by
        rw [Nat.cast_max]
        omega
      rw [if_pos hrun]
      show runs.foldlM _ (if (decimal run : ℤ) > m then (decimal run : ℤ) else m) = _
      rw [hmax, ih]
      simp [hrun]
    · rw [if_neg hrun, if_neg]
      · rfl
      · exact fun h => hrun (h run List.mem_cons_self)

theorem maxTotalTime_of_fits {s : String} (h : Fits s) :
    OrderHandler.maxTotalTime s = .ok (largest s : ℤ) := by
  have hall : ∀ run ∈ OrderHandler.digitRuns s, decimal run ≤ 2147483647 :=
    fun run hrun => h _ (hasNumber_iff.mpr ⟨run, hrun, rfl⟩)
  exact (foldlM_stoi (OrderHandler.digitRuns s) 0).trans (if_pos hall)

theorem maxTotalTime_of_not_fits {s : String} (h : ¬Fits s) :
    OrderHandler.maxTotalTime s = .error "stoi" := by
  have hsome : ¬∀ run ∈ OrderHandler.digitRuns s, decimal run ≤ 2147483647 := by
    intro hall
    refine h fun n hn => ?_
    obtain ⟨run, hrun, rfl⟩ := hasNumber_iff.mp hn
    exact hall run hrun
  exact (foldlM_stoi (OrderHandler.digitRuns s) 0).trans (if_neg hsome)

/-- `netDeliveryTime` from the largest number of the range. -/
def net (cookTime : ℤ) (n : ℕ) : ℤ :=
  let netDeliveryTime := if (n : ℤ) > 0 then n - cookTime else 15
  if netDeliveryTime < 10 then 15 else netDeliveryTime

theorem netDeliveryTime_of_fits {s : String} (h : Fits s) (cookTime : ℤ) :
    OrderHandler.netDeliveryTime (some (some s, some cookTime)) =
      .ok (net cookTime (largest s)) := by
  rw [OrderHandler.netDeliveryTime, Option.getD_some, maxTotalTime_of_fits h]
  rfl

theorem netDeliveryTime_of_not_fits {s : String} (h : ¬Fits s) (cookTime : ℤ) :
    OrderHandler.netDeliveryTime (some (some s, some cookTime)) = .error "stoi" := by
  rw [OrderHandler.netDeliveryTime, Option.getD_some, maxTotalTime_of_not_fits h]
  rfl

/-! ### Calls that describe the order -/

section Describes

variable (tables : CallTables D) (orderId : String)

/-- The store of an order. -/
def CallTables.storeOf : Option CalledStore :=
  (tables.order? orderId).bind fun order => tables.store? order.storeId

/-- The range of the order's store, as it is read. -/
def CallTables.timeRange : String :=
  ((tables.storeOf orderId).map fun store => cStr (store.deliveryTimeRange.getD "")).getD ""

/-- The order is done or cancelled. -/
def CalledOrder.Finished (order : CalledOrder) : Prop :=
  order.orderStatus = some 4 ∨ order.orderStatus = some 9

/-- For an order that is under way there is one call to the riders, with the address of the store
and the address and the price of the order. For any other there is none. -/
def Describes (calls : List (ℤ × NotifyDeliveryCallDTO)) : Prop :=
  (∀ order, tables.order? orderId = some order → ¬order.Finished → ∃ call, calls = [(2, call)] ∧
    call.pickupAddress = ((tables.storeOf orderId).bind (·.storeAddress)).getD "" ∧
    call.deliveryAddress = order.deliveryAddress ∧ call.totalPrice = order.totalPrice.toInt) ∧
  ((∀ order, tables.order? orderId = some order → order.Finished) → calls = [])

/-- There is the order, and either it is finished and its store's range has a number that is no
`int`, or it is under way, the range has no such number, the address of the store is empty, that of
the order has no NUL, and the number that is not set happens to be the price. -/
def CallsRight (memory : Int32) : Prop :=
  ∃ order, tables.order? orderId = some order ∧
    ((order.Finished ∧ ¬Fits (tables.timeRange orderId)) ∨
      (¬order.Finished ∧ Fits (tables.timeRange orderId) ∧
        ((tables.storeOf orderId).bind (·.storeAddress)).getD "" = "" ∧
        '\x00' ∉ order.deliveryAddress.toList ∧ memory = order.totalPrice))

omit [Double D] in
theorem fits_empty : Fits "" := by
  intro n hn
  obtain ⟨run, hrun, -⟩ := hasNumber_iff.mp hn
  have hnone : ((("" : String).toList.splitOnP fun c => !c.isDigit).filter (· ≠ [])) = [] := rfl
  rw [hnone] at hrun
  cases hrun

omit [Double D] in
/-- The handler gets past the range if its numbers fit. -/
theorem netDeliveryTime_times :
    (Fits (tables.timeRange orderId) →
      ∃ net, OrderHandler.netDeliveryTime (tables.times orderId) = .ok net) ∧
    (¬Fits (tables.timeRange orderId) →
      OrderHandler.netDeliveryTime (tables.times orderId) = .error "stoi") := by
  have htimes : tables.times orderId = (tables.storeOf orderId).map fun store =>
      (some (cStr (store.deliveryTimeRange.getD "")), some (store.cookTime.getD 30).toInt) := by
    rw [CallTables.times, CallTables.storeOf, Option.map_bind]
    rfl
  rw [htimes, CallTables.timeRange]
  cases tables.storeOf orderId with
  | none => exact ⟨fun _ => ⟨15, rfl⟩, fun h => absurd fits_empty h⟩
  | some store =>
    exact ⟨fun h => ⟨_, netDeliveryTime_of_fits h _⟩, fun h => netDeliveryTime_of_not_fits h _⟩

variable {tables orderId} {memory : Int32} {req : ReqCookTimeSetDTO}

omit [Double D] in
/-- A request that goes through calls the riders, whatever it names. -/
theorem describes_call_iff (hfits : Fits (tables.timeRange req.orderId)) :
    Describes tables req.orderId [(2, call tables memory req)] ↔
      CallsRight tables req.orderId memory := by
  constructor
  · rintro ⟨hopen, hnone⟩
    obtain ⟨order, horder, hunfinished⟩ :
        ∃ order, tables.order? req.orderId = some order ∧ ¬order.Finished := by
      by_contra hall
      refine List.cons_ne_nil _ _ (hnone fun order horder => ?_)
      by_contra hunfinished
      exact hall ⟨order, horder, hunfinished⟩
    obtain ⟨call', hcall, hpickup, haddress, hprice⟩ := hopen order horder hunfinished
    obtain rfl := (Prod.mk.inj (List.cons.inj hcall).1).2
    have hread : (call tables memory req).deliveryAddress = cStr order.deliveryAddress := by
      rw [call, CallTables.address, horder]
      rfl
    refine ⟨order, horder, .inr ⟨hunfinished, hfits, hpickup.symm, ?_, Int32.toInt_inj.mp hprice⟩⟩
    exact cStr_eq_self.mp (hread.symm.trans haddress)
  · rintro ⟨order, horder, ⟨-, hnot⟩ | ⟨hunfinished, -, hpickup, hnul, hprice⟩⟩
    · exact absurd hfits hnot
    · refine ⟨fun order' horder' _ => ?_, fun hall => absurd (hall order horder) hunfinished⟩
      obtain rfl := Option.some.inj (horder.symm.trans horder')
      refine ⟨_, rfl, hpickup.symm, ?_, congrArg Int32.toInt hprice⟩
      have hread : (call tables memory req).deliveryAddress = cStr order.deliveryAddress := by
        rw [call, CallTables.address, horder]
        rfl
      rw [hread, cStr_eq_self.mpr hnul]

omit [Double D] in
/-- A request that does not get past the range calls nobody. -/
theorem describes_nil_iff (hfits : ¬Fits (tables.timeRange req.orderId)) :
    Describes tables req.orderId [] ↔ CallsRight tables req.orderId memory := by
  constructor
  · rintro ⟨hopen, -⟩
    cases horder : tables.order? req.orderId with
    | none =>
      refine absurd ?_ hfits
      rw [CallTables.timeRange, CallTables.storeOf, horder]
      exact fits_empty
    | some order =>
      refine ⟨order, horder, .inl ⟨?_, hfits⟩⟩
      by_contra hunfinished
      obtain ⟨call', hcalls, -⟩ := hopen order horder hunfinished
      exact List.cons_ne_nil _ _ hcalls.symm
  · rintro ⟨order, horder, ⟨hfinished, -⟩ | ⟨-, hfits', -⟩⟩
    · refine ⟨fun order' horder' hunfinished => absurd hfinished ?_, fun _ => rfl⟩
      rwa [Option.some.inj (horder.symm.trans horder')]
    · exact absurd hfits' hfits

/-- **Delivery calls.** The call of a cook time request describes the order, and there is none for
an order that is not there or finished, exactly under `CallsRight`. -/
theorem describes_iff (tables : CallTables D) (memory : Int32) (text : JsonText D)
    (storeData : Dto.StoreDataDTO D) (req : ReqCookTimeSetDTO) :
    ∃ ops, (handleCookTimeSet text storeData (.ok req)).eval (tables.answer memory) =
        (.ok (), ops) ∧
      (Describes tables req.orderId (broadcast ops) ↔ CallsRight tables req.orderId memory) := by
  obtain ⟨hok, herror⟩ := netDeliveryTime_times tables req.orderId
  by_cases hfits : Fits (tables.timeRange req.orderId)
  · obtain ⟨net, hnet⟩ := hok hfits
    obtain ⟨ops, heval, -, hcalls⟩ :=
      eval_handleCookTimeSet_ok tables memory text storeData req hnet
    refine ⟨ops, heval, ?_⟩
    rw [hcalls]
    exact describes_call_iff hfits
  · obtain ⟨ops, heval, -, hcalls⟩ :=
      eval_handleCookTimeSet_error tables memory text storeData req (herror hfits)
    refine ⟨ops, heval, ?_⟩
    rw [hcalls]
    exact describes_nil_iff hfits

end Describes

/-! ### Two calls -/

/-- An order that is being cooked. -/
def cookedOrder : CallTables Float where
  orders := [⟨"ORD-7", "minsu", 3, "광주 북구 용봉동 1", 18000, some 1⟩]
  stores := [⟨3, some "광주 동구 충장로 5", some "20~40분", some 15⟩]
  details := fun _ _ => []
  orderKey := List.nodup_singleton _
  storeKey := List.nodup_singleton _

/-- A JSON library that knows the empty array. -/
def emptyArrays : JsonText Float where
  parse s := if s = "[]" then some (.array []) else none
  dump _ := ""
  parse_brackets := rfl
  nul_not_mem_dump := JsonText.nul_not_mem_empty

/-- The rider is called to no address, and an order that does not exist is called out as well. -/
theorem not_describes_cooked :
    ∃ ops ops', (handleCookTimeSet emptyArrays .fresh (.ok ⟨"ORD-7", 10⟩)).eval
        (cookedOrder.answer 0) = (.ok (), ops) ∧
      ¬Describes cookedOrder "ORD-7" (broadcast ops) ∧
      (handleCookTimeSet emptyArrays .fresh (.ok ⟨"ORD-8", 10⟩)).eval (cookedOrder.answer 0) =
        (.ok (), ops') ∧
      ¬Describes cookedOrder "ORD-8" (broadcast ops') := by
  have hnet : OrderHandler.netDeliveryTime (cookedOrder.times "ORD-7") = .ok 25 := rfl
  have hnet' : OrderHandler.netDeliveryTime (cookedOrder.times "ORD-8") = .ok 15 := rfl
  obtain ⟨ops, heval, -, hcalls⟩ :=
    eval_handleCookTimeSet_ok cookedOrder 0 emptyArrays .fresh ⟨"ORD-7", 10⟩ hnet
  obtain ⟨ops', heval', -, hcalls'⟩ :=
    eval_handleCookTimeSet_ok cookedOrder 0 emptyArrays .fresh ⟨"ORD-8", 10⟩ hnet'
  refine ⟨ops, ops', heval, ?_, heval', ?_⟩
  · rintro ⟨hopen, -⟩
    have hunfinished : ¬CalledOrder.Finished
        ⟨"ORD-7", "minsu", 3, "광주 북구 용봉동 1", 18000, some 1⟩ := by
      rintro (h | h) <;> exact absurd h (by decide)
    obtain ⟨call', hcall, hpickup, -⟩ := hopen _ rfl hunfinished
    rw [hcalls] at hcall
    obtain rfl := (Prod.mk.inj (List.cons.inj hcall).1).2
    exact absurd hpickup (by decide)
  · rintro ⟨-, hnone⟩
    have hmissing : cookedOrder.order? "ORD-8" = none := rfl
    rw [hcalls'] at hnone
    refine List.cons_ne_nil _ _ (hnone fun order horder => ?_)
    exact absurd (hmissing.symm.trans horder) (Option.some_ne_none order).symm

end ItsBedalyo.DeliveryCall
