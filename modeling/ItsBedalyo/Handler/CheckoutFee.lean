import ItsBedalyo.Database.ResultSets
import ItsBedalyo.Handler.CheckedOrders
import ItsBedalyo.Handler.OrderPages
import ItsBedalyo.Handler.PageFaults

/-!
# The fee at the checkout and the fee of the order

`handleCheckoutInfo` delivers free to 와우 members. `handleCreateOrder` checks the total against the
fee of the store, whoever orders.
-/

namespace ItsBedalyo

open Pages

variable {κ D : Type} [DecidableEq κ] [Double D]

/-! ### The two tables -/

/-- A row of `CUSTOMERS`. -/
structure CheckoutCustomer where
  customerGrade : Option String
  cardNumber : Option String
  accountNumber : Option String
  point : Option Int32
  address : Option String

/-- A row of `STORES`. -/
structure CheckoutStore where
  minOrderAmount : Option Int32
  deliveryFee : Option Int32
  storeAddress : Option String
  pickupTime : Option String

def CheckoutCustomer.row (customer : CheckoutCustomer) : ResultRow D := .of
  [("customer_grade", .ofText? customer.customerGrade),
   ("card_number", .ofText? customer.cardNumber),
   ("account_number", .ofText? customer.accountNumber), ("point", .ofInt? customer.point),
   ("address", .ofText? customer.address)]

def CheckoutStore.row (store : CheckoutStore) : ResultRow D := .of
  [("min_order_amount", .ofInt? store.minOrderAmount), ("delivery_fee", .ofInt? store.deliveryFee),
   ("store_address", .ofText? store.storeAddress), ("pickup_time", .ofText? store.pickupTime)]

/-- What the customer's row sets. -/
def CheckoutCustomer.fill (customer : CheckoutCustomer) (res : Dto.ResCheckoutInfoDTO) :
    Dto.ResCheckoutInfoDTO :=
  { res with
    customerGrade := customer.customerGrade.getD "일반"
    cardNumber := customer.cardNumber.getD ""
    accountNumber := customer.accountNumber.getD ""
    userPoint := customer.point.getD 0
    userAddress := customer.address.getD "주소 미상" }

/-- What the store's row sets. -/
def CheckoutStore.fill (store : CheckoutStore) (res : Dto.ResCheckoutInfoDTO) :
    Dto.ResCheckoutInfoDTO :=
  { res with
    minOrderAmount := store.minOrderAmount.getD 0
    deliveryFee := store.deliveryFee.getD 0
    storeAddress := store.storeAddress.getD ""
    pickupTime := store.pickupTime.getD "" }

/-- The tables; `key` is what a user id is under its collation. -/
structure CheckoutTables (key : String → κ) where
  customers : κ → Option CheckoutCustomer
  stores : Int32 → Option CheckoutStore

namespace CheckoutTables

def customerQuery : String :=
  "SELECT customer_grade, card_number, account_number, point, address " ++
    "FROM CUSTOMERS WHERE user_id = ?"

def storeQuery : String :=
  "SELECT min_order_amount, delivery_fee, store_address, pickup_time " ++
    "FROM STORES WHERE store_id = ?"

def feeQuery : String := "SELECT delivery_fee FROM STORES WHERE store_id = ?"

variable {key : String → κ} (db : CheckoutTables key)

/-- What the three queries find. -/
def rows (query : String) (params : List SqlParam) : List (ResultRow D) :=
  match params with
  | [.string userId] =>
    if query = customerQuery then (db.customers (key userId)).toList.map CheckoutCustomer.row
    else []
  | [.int storeId] =>
    if query = storeQuery ∨ query = feeQuery then (db.stores storeId).toList.map CheckoutStore.row
    else []
  | _ => []

/-- `getInt` of the store's fee, 0 where there is none. -/
def deliveryFee (storeId : Int32) : Int32 := ((db.stores storeId).bind (·.deliveryFee)).getD 0

/-- The customer is a member. -/
def IsWow (userId : String) : Prop :=
  (db.customers (key userId)).bind (·.customerGrade) = some "와우"

omit [DecidableEq κ] [Double D]

theorem rows_customer (userId : String) : (db.rows customerQuery [.string userId] :
    List (ResultRow D)) = (db.customers (key userId)).toList.map CheckoutCustomer.row := by
  rw [rows, if_pos rfl]

theorem rows_store (storeId : Int32) : (db.rows storeQuery [.int storeId] :
    List (ResultRow D)) = (db.stores storeId).toList.map CheckoutStore.row := by
  rw [rows, if_pos (.inl rfl)]

theorem rows_fee (storeId : Int32) : (db.rows feeQuery [.int storeId] :
    List (ResultRow D)) = (db.stores storeId).toList.map CheckoutStore.row := by
  rw [rows, if_pos (.inr rfl)]

end CheckoutTables

/-! ### The two handlers -/

namespace Pages.OrderHandler

variable {key : String → κ} (db : CheckoutTables key)

/-- `handleCreateOrder` up to its comparison: whether it warns. -/
def warnsOfTotal (req : OrderCreateReqDTO) : DbProg D Bool := do
  let deliveryFee ← StoreDAO.getDeliveryFee (Int32.ofInt req.storeId)
  pure (ItsBedalyo.OrderHandler.suspected req deliveryFee.toInt)

omit [DecidableEq κ]

theorem read_checkoutUser (userId : String) (res : Dto.ResCheckoutInfoDTO) :
    (checkoutUser userId res : DbProg D _).read db.rows =
      .ok (((db.customers (key userId)).map (CheckoutCustomer.fill · res)).getD res) := by
  have hquery : (checkoutUser userId res : DbProg D _) =
      (DbProg.select CheckoutTables.customerQuery [.string userId] >>= _) := rfl
  rw [hquery, DbProg.read_bind, DbProg.read_select, db.rows_customer]
  cases db.customers (key userId) with
  | none => rfl
  | some customer =>
    simp [CheckoutCustomer.row, CheckoutCustomer.fill, ResultRow.of, List.lookup_cons]

theorem read_checkoutStore (storeId : Int32) (res : Dto.ResCheckoutInfoDTO) :
    (checkoutStore storeId res : DbProg D _).read db.rows =
      .ok (((db.stores storeId).map (CheckoutStore.fill · res)).getD res) := by
  have hquery : (checkoutStore storeId res : DbProg D _) =
      (DbProg.select CheckoutTables.storeQuery [.int storeId] >>= _) := rfl
  rw [hquery, DbProg.read_bind, DbProg.read_select, db.rows_store]
  cases db.stores storeId with
  | none => rfl
  | some store => simp [CheckoutStore.row, CheckoutStore.fill, ResultRow.of, List.lookup_cons]

theorem read_warnsOfTotal (req : OrderCreateReqDTO) :
    (warnsOfTotal req : DbProg D _).read db.rows =
      .ok (ItsBedalyo.OrderHandler.suspected req
        (db.deliveryFee (Int32.ofInt req.storeId)).toInt) := by
  rw [warnsOfTotal, StoreDAO.getDeliveryFee, ← CheckoutTables.feeQuery, DbProg.read_bind,
    DbProg.read_catchSql, DbProg.read_bind, DbProg.read_select, db.rows_fee,
    CheckoutTables.deliveryFee]
  cases db.stores (Int32.ofInt req.storeId) with
  | none => rfl
  | some store =>
    simp [CheckoutStore.row, ResultRow.of, List.lookup_cons]
    rfl

/-- What `handleCheckoutInfo` replies. -/
def quote (userId : String) (storeId : Int32) : Dto.ResCheckoutInfoDTO :=
  let user : Dto.ResCheckoutInfoDTO :=
    ((db.customers (key userId)).map (CheckoutCustomer.fill · { status := 200 })).getD
      { status := 200 }
  let res := ((db.stores storeId).map (CheckoutStore.fill · user)).getD user
  { res with appliedDeliveryFee := if res.customerGrade = "와우" then 0 else res.deliveryFee }

/-- It is the fee of the store, but for members. -/
theorem appliedDeliveryFee_quote (userId : String) (storeId : Int32) [Decidable (db.IsWow userId)] :
    (quote db userId storeId).appliedDeliveryFee =
      if db.IsWow userId then 0 else db.deliveryFee storeId := by
  have hgrade : (quote db userId storeId).customerGrade = "와우" ↔ db.IsWow userId := by
    rw [quote, CheckoutTables.IsWow]
    rcases db.customers (key userId) with _ | ⟨_ | grade, _, _, _, _⟩ <;>
      rcases db.stores storeId with _ | store <;>
      simp [CheckoutCustomer.fill, CheckoutStore.fill]
  have hfee : (quote db userId storeId).deliveryFee = db.deliveryFee storeId := by
    rw [quote, CheckoutTables.deliveryFee]
    rcases db.customers (key userId) with _ | customer <;>
      rcases db.stores storeId with _ | store <;>
      simp [CheckoutCustomer.fill, CheckoutStore.fill]
  calc (quote db userId storeId).appliedDeliveryFee
      = if (quote db userId storeId).customerGrade = "와우" then 0
        else (quote db userId storeId).deliveryFee := rfl
    _ = if db.IsWow userId then 0 else db.deliveryFee storeId := by
      rw [hfee]
      exact if_congr hgrade rfl rfl

variable (others : (o : PageOp D) → o.Res) {text : JsonParser D} {jsonBody : String}

variable (text jsonBody) in
/-- The body of a request for the checkout of a user at a store. -/
def Requests (userId : String) (storeId : Int32) : Prop :=
  ∃ req, text.read jsonBody = .ok req ∧ Dto.fieldWithDefault req "userId" "" = .ok userId ∧
    Dto.fieldWithDefault req "storeId" 0 = .ok storeId

theorem eval_handleCheckoutInfo {userId : String} {storeId : Int32}
    (h : Requests text jsonBody userId storeId) : ∃ ops : List (DbOp D),
    (handleCheckoutInfo text jsonBody).eval (reading db.rows others) =
      (.ok (), ops.map PageOp.db ++ [.sendPacket CmdID.RES_CHECKOUT_INFO
        (some (quote db userId storeId).toJson)]) := by
  obtain ⟨req, hread, huser, hstore⟩ := h
  obtain ⟨ops, hops⟩ := eval_db_reading db.rows others
    (read_checkoutUser db userId { status := 200 })
  obtain ⟨ops', hops'⟩ := eval_db_reading db.rows others (read_checkoutStore db storeId
    (((db.customers (key userId)).map (CheckoutCustomer.fill · { status := 200 })).getD
      { status := 200 }))
  refine ⟨ops ++ ops', ?_⟩
  rw [handleCheckoutInfo]
  simp only [Prog.eval_tryCatch, Prog.eval_bind, eval_parse, hread, Page.getOr, eval_convert, huser,
    hstore, hops, hops', Except.mapError]
  rw [List.map_append, List.append_assoc]
  rfl

theorem bmod_toInt (n : Int32) : Int.bmod n.toInt (2 ^ 32) = n.toInt := n.toInt_bmod

/-- Who pays the sum and `fee` at a store is not suspected exactly if that is the fee of the
store. -/
theorem suspected_paid {req : OrderCreateReqDTO} {fee : Int32}
    (hpaid : req.totalPrice =
      Int.bmod (priceOf (req.items.map OrderItemDTO.priced) + fee.toInt) (2 ^ 32)) :
    ItsBedalyo.OrderHandler.suspected req
        (db.deliveryFee (Int32.ofInt req.storeId)).toInt = false ↔
      db.deliveryFee (Int32.ofInt req.storeId) = fee := by
  rw [ItsBedalyo.OrderHandler.suspected, decide_eq_false_iff_not, not_not,
    ItsBedalyo.OrderHandler.itemSum_eq, Int.bmod_add_bmod, hpaid, Int.bmod_add_cancel_left,
    bmod_toInt, bmod_toInt, Int32.toInt_inj]

/-- A member, a customer who is none, and a store. -/
def lunchTables : CheckoutTables (id : String → String) where
  customers k :=
    if k = "wow" then some ⟨some "와우", none, none, none, none⟩
    else if k = "kim" then some ⟨some "일반", none, none, none, none⟩ else none
  stores k := if k = 3 then some ⟨some 10000, some 3000, none, none⟩ else none

/-- The checkout of a user at the store. -/
def lunchText (userId : String) : JsonParser Float := .knowing "checkout"
  (.object [("userId", .string userId), ("storeId", .numberInteger 3)])

/-- One meal for 12000. -/
def lunchOrder (userId : String) (totalPrice : ℤ) : OrderCreateReqDTO :=
  ⟨userId, 3, totalPrice, "", [⟨5, 1, 12000, none⟩], "", ""⟩

theorem lunchRequests (userId : String) : Requests (lunchText userId) "checkout" userId 3 :=
  ⟨_, JsonParser.read_knowing _ (by decide), rfl, rfl⟩

end Pages.OrderHandler

end ItsBedalyo
