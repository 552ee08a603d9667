import ItsBedalyo.Database.Dao
import ItsBedalyo.Database.Tables

/-!
# The other way to create an order: `OrderDAO::createOrder`

No handler calls it. It checks the quantities, writes `ORDERS` and `ORDER_ITEMS` in one
transaction and catches `sql::SQLException` only. `item.selectedOptions` is JSON of any kind
(`J`), and `dump()` turns it into a text or throws a `nlohmann` exception, on a string that is
not valid UTF-8.
-/

namespace ItsBedalyo

open RowLocking

/-- A row of `ORDER_ITEMS`. -/
structure ItemRow where
  orderId : String
  menuId : ℤ
  quantity : ℤ
  unitPrice : ℤ
  selectedOptions : String
  deriving DecidableEq

/-- The order tables, with `ORDER_ITEMS`. -/
structure OrderBook (κ : Type) where
  tables : Tables κ
  items : List ItemRow

/-- The statements of `createOrder`. -/
inductive OrderStatement
  /-- `INSERT INTO ORDERS (order_id, user_id, store_id, total_price, order_status,
  delivery_address) …` -/
  | insertOrder (orderId userId : String) (storeId totalPrice : ℤ) (deliveryAddress : String)
  /-- `INSERT INTO ORDER_ITEMS (order_id, menu_id, quantity, unit_price, selected_options) …` -/
  | insertItem (row : ItemRow)
  deriving DecidableEq

/-- The rows written. -/
inductive OrderWrite (κ : Type)
  | order (k : κ) (row : OrderRow)
  | item (row : ItemRow)

/-- The order a write inserts. -/
def OrderWrite.row? {κ : Type} : OrderWrite κ → Option κ
  | order k _ => some k
  | item _ => none

namespace OrderBook

variable {κ : Type} [DecidableEq κ]

/-- The tables after one write. -/
def write (db : OrderBook κ) : OrderWrite κ → OrderBook κ
  | .order k row => { db with tables := db.tables.write (.order k row) }
  | .item row => { db with items := db.items ++ [row] }

/-- How the tables are written. -/
def storage : Storage (OrderBook κ) (OrderWrite κ) κ where
  write := write
  row? := OrderWrite.row?

end OrderBook

namespace OrderStatement

variable {κ : Type} [DecidableEq κ] (key : String → κ)

/-- What a statement locks. -/
def rows : OrderStatement → List κ
  | insertOrder orderId _ _ _ _ => [key orderId]
  | insertItem _ => []

/-- The number of rows inserted, and the rows. The two request texts of an order get their
default. -/
def effect (db : OrderBook κ) : OrderStatement → Option (ℕ × List (OrderWrite κ))
  | insertOrder orderId userId storeId totalPrice deliveryAddress =>
    match db.tables.orders (key orderId) with
    | some _ => none
    | none =>
      some (1, [.order (key orderId) ⟨userId, storeId, totalPrice, 0, deliveryAddress, "", ""⟩])
  | insertItem row => some (1, [.item row])

/-- The statement as the server executes it. -/
def statement (stmt : OrderStatement) :
    RowLocking.Statement (OrderBook.storage : Storage (OrderBook κ) (OrderWrite κ) κ) where
  rows _ := stmt.rows key
  effect db := stmt.effect key db
  covers := by
    intro db n ws h u hu x hx
    cases stmt with
    | insertOrder =>
      simp only [effect] at h
      split at h
      · cases h
      · cases h
        obtain rfl := List.mem_singleton.mp hu
        cases hx
        exact .head _
    | insertItem =>
      cases h
      obtain rfl := List.mem_singleton.mp hu
      cases hx

end OrderStatement

/-- The order tables behind `OrderDAO`; `createOrder` makes no query. -/
def orderSchema {κ : Type} [DecidableEq κ] (key : String → κ) :
    DaoSchema (OrderBook κ) (OrderWrite κ) κ OrderStatement (fun query : Empty => nomatch query)
    where
  storage := OrderBook.storage
  statement stmt _ := stmt.statement key
  numbers _ := false
  answer _ _ query := nomatch query

/-- Code on the order tables. -/
abbrev OrderDao := @Dao OrderStatement Empty fun query => nomatch query

/-- An item of `OrderCreateReqDTO`, with its options as JSON. -/
structure OrderLine (J : Type) where
  menuId : ℤ
  quantity : ℤ
  unitPrice : ℤ
  selectedOptions : J

/-- What `createOrder` reads of `OrderCreateReqDTO`. -/
structure OrderDraft (J : Type) where
  userId : String
  storeId : ℤ
  totalPrice : ℤ
  deliveryAddress : String
  items : List (OrderLine J)

/-- `OrderResult`. -/
structure OrderResult where
  isSuccess : Bool
  message : String
  orderId : String
  deriving DecidableEq

namespace OrderDAO

open Dao OrderStatement

variable {J Query Reply : Type} {Answer : Query → Type} (dump : J → Except String String)

/-- `generateOrderId`, `ms` milliseconds after the epoch. -/
def generateOrderId (ms : ℕ) : String := "ORD-" ++ toString ms

/-- The quantity `createOrder` refuses. -/
def badQuantity (item : OrderLine J) : Bool := item.quantity > 99 || item.quantity ≤ 0

/-- `item.selectedOptions.dump()`. -/
def dumped (item : OrderLine J) : Dao OrderStatement Answer Reply String :=
  match dump item.selectedOptions with
  | .ok text => pure text
  | .error what => throw (.std what)

/-- The loop over the items. -/
def insertItems (newOrderId : String) :
    List (OrderLine J) → Dao OrderStatement Answer Reply Unit
  | [] => pure ()
  | item :: items => do
    let options ← dumped dump item
    let _ ← executeUpdate
      (insertItem ⟨newOrderId, item.menuId, item.quantity, item.unitPrice, options⟩)
    insertItems newOrderId items

/-- `createOrder`. -/
def createOrder (ms : ℕ) (req : OrderDraft J) : Dao OrderStatement Answer Reply OrderResult :=
  catchSql
    (do
      if req.items.any badQuantity then
        pure ⟨false, "메뉴 수량은 1개 이상 99개 이하만 가능합니다.", ""⟩
      else
        let newOrderId := generateOrderId ms
        setAutoCommit false
        prepareStatement
        let _ ← executeUpdate
          (insertOrder newOrderId req.userId req.storeId req.totalPrice req.deliveryAddress)
        prepareStatement
        insertItems dump newOrderId req.items
        commit
        setAutoCommit true
        pure ⟨true, "주문이 성공적으로 생성되었습니다.", newOrderId⟩)
    fun _ => do
      rollback
      setAutoCommit true
      pure ⟨false, "서버 오류로 주문에 실패했습니다.", ""⟩

end OrderDAO

end ItsBedalyo
