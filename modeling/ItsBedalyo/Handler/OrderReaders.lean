import ItsBedalyo.Database.OrderDAO
import ItsBedalyo.Database.Queries
import ItsBedalyo.Handler.OrderCreation
import ItsBedalyo.Lib.Wrapping

/-!
# The readers of orders

`handleOrderList` reads an order's items from `ORDER_DETAILS`; `handleOrderDetail`,
`OrderDAO::getOrderHistory` and `handleRiderOrderList` read them from `ORDER_ITEMS`, joined with
`MENUS`. The readers are functions of the tables here, with what they return when no query
throws; a query without `ORDER BY` answers in the order of the table.

`handleCreateOrder` writes `ORDER_DETAILS` only, so of these readers the first shows a new order's
items and the others none (`readsBack_iff`).
-/

namespace ItsBedalyo

/-- The columns of `ORDERS` that only readers use. -/
structure OrderColumns where
  createdAt : String
  deliveryFee : ℤ
  wowDiscount : ℤ
  rejectReason : Option String

/-- What the readers find. -/
structure ReaderTables {κ : Type} (key : String → κ) where
  book : OrderBook κ
  columns : κ → OrderColumns
  /-- The column `order_id`, latest order first. -/
  orderIds : List String
  /-- `STORES.store_name`, -/
  storeName : ℤ → String
  /-- `MENUS.menu_name` -/
  menuName : ℤ → Option String
  /-- and `CUSTOMERS.card_number`, where there is such a row. -/
  cardNumber : κ → Option (Option String)
  listed : ∀ k, (book.tables.orders k).isSome = true ↔ k ∈ orderIds.map key

/-- An item of `ResOrderDetailDTO`. -/
structure DetailItem (J : Type) where
  menuId : ℤ
  menuName : String
  quantity : ℤ
  unitPrice : ℤ
  selectedOptions : J

/-- `ResOrderDetailDTO`. -/
structure ResOrderDetailDTO (J : Type) where
  status : ℤ
  orderId : String
  storeName : String
  createdAt : String
  paymentMethod : String
  deliveryAddress : String
  totalMenuPrice : ℤ
  deliveryFee : ℤ
  couponDiscount : ℤ
  wowDiscount : ℤ
  totalPrice : ℤ
  items : List (DetailItem J)

/-- `OrderHistoryItemDTO`. -/
structure OrderHistoryItemDTO where
  orderId : String
  storeId : ℤ
  storeName : String
  menuName : String
  totalPrice : ℤ
  status : ℤ
  menuSummary : String
  createdAt : String
  deliveryPhotoUrl : String

/-- An order in the list of calls for the riders. -/
structure RiderOrder where
  orderId : String
  totalPrice : ℤ
  deliveryAddress : String
  createdAt : String
  menuSummary : String

/-- An item in the list of a store's orders. -/
structure ListedItem where
  menuId : ℤ
  menuName : String
  quantity : ℤ
  unitPrice : ℤ
  options : List String

/-- An order in the list of a store's orders. -/
structure ListedOrder where
  orderId : String
  totalPrice : ℤ
  state : ℤ
  deliveryAddress : String
  createdAt : String
  storeRequest : String
  riderRequest : String
  rejectReason : String
  menuSummary : String
  items : List ListedItem

section Readers

variable {κ : Type} [DecidableEq κ] {key : String → κ} (db : ReaderTables key)

namespace ReaderTables

/-- The rows of `ORDER_ITEMS` of an order. -/
def itemsOf (orderId : String) : List ItemRow :=
  db.book.items.filter fun row => key row.orderId = key orderId

/-- The rows of `ORDER_DETAILS` of an order. -/
def detailsOf (orderId : String) : List DetailRow :=
  db.book.tables.details.filter fun row => key row.orderId = key orderId

/-- `SELECT M.menu_name FROM ORDER_ITEMS OI JOIN MENUS M …` -/
def menuNamesOf (orderId : String) : List String :=
  (db.itemsOf orderId).filterMap fun row => db.menuName row.menuId

end ReaderTables

/-- `first + " 외 " + std::to_string(more) + "건"`, if there are more. -/
def summaryOf (first : String) (more : ℕ) : String :=
  if 0 < more then first ++ " 외 " ++ toString more ++ "건" else first

namespace OrderHandler

/-- `res.paymentMethod`; the digits of a card number are one byte each. -/
def paymentMethod (cardNum : String) : String :=
  if 4 ≤ cardNum.length then
    "신용카드(" ++ String.ofList (cardNum.toList.drop (cardNum.length - 4)) ++ ")"
  else "신용카드 결제"

/-- `json::parse(optsStr)`, and the empty array where it throws. -/
def parsedOptions {J : Type} (parse : String → Option J) (emptyArray : J) (optsStr : String) : J :=
  (parse optsStr).getD emptyArray

/-- `calculatedTotalMenuPrice`, an `int`. -/
def calculatedTotalMenuPrice {J : Type} (items : List (DetailItem J)) : ℤ :=
  Wrapping.sum (2 ^ 32) (items.map fun item => item.unitPrice * item.quantity)

/-- `handleOrderDetail`, on the `orderId` of the body; `none` is the reply with status 1, of which
nothing else is set. -/
def handleOrderDetail {J : Type} (parse : String → Option J) (emptyArray : J)
    (body : Except String String) : Option (ResOrderDetailDTO J) :=
  match body with
  | .error _ => none
  | .ok orderId =>
    if orderId = "" then none
    else
      match db.book.tables.orders (key orderId) with
      | none => none
      | some order =>
        -- the two joins
        match db.book.tables.stores order.storeId, db.cardNumber (key order.userId) with
        | some _, some card =>
          let items := (db.itemsOf orderId).filterMap fun row =>
            (db.menuName row.menuId).map fun name =>
              ⟨row.menuId, name, row.quantity, row.unitPrice,
                parsedOptions parse emptyArray row.selectedOptions⟩
          some
            { status := 0
              orderId := orderId
              storeName := db.storeName order.storeId
              createdAt := (db.columns (key orderId)).createdAt
              paymentMethod := paymentMethod (card.getD "")
              deliveryAddress := order.deliveryAddress
              totalMenuPrice := calculatedTotalMenuPrice items
              deliveryFee := (db.columns (key orderId)).deliveryFee
              couponDiscount := 0
              wowDiscount := (db.columns (key orderId)).wowDiscount
              totalPrice := order.totalPrice
              items := items }
        | _, _ => none

/-- An order of `handleOrderList`; the texts are cut at a NUL, also the id that the items are looked
up with. -/
def listedOrder (orderId : String) (order : OrderRow) : ListedOrder :=
  let items := (db.detailsOf (cStr orderId)).map fun row =>
    ListedItem.mk row.menuId (cStr row.menuName) row.quantity row.price row.selectedOptions
  { orderId := cStr orderId
    totalPrice := order.totalPrice
    state := order.orderStatus
    deliveryAddress := cStr order.deliveryAddress
    createdAt := cStr (db.columns (key orderId)).createdAt
    storeRequest := cStr order.storeRequest
    riderRequest := cStr order.riderRequest
    rejectReason := ((db.columns (key orderId)).rejectReason.map cStr).getD ""
    menuSummary := summaryOf ((items.head?.map ListedItem.menuName).getD "") (items.length - 1)
    items := items }

/-- `handleOrderList`; `none` is the reply with status 400. -/
def handleOrderList (storeId : ℤ) : Option (List ListedOrder) :=
  if storeId = 0 then none
  else some <| db.orderIds.filterMap fun orderId =>
    (db.book.tables.orders (key orderId)).bind fun order =>
      if order.storeId = storeId ∧ order.orderStatus ∈ [0, 1, 2, 3, 4, 9] then
        some (listedOrder db orderId order)
      else none

end OrderHandler

namespace OrderDAO

/-- An order of `getOrderHistory`, whose menus are looked up with the id that it shows. -/
def historyItem (orderId : String) (order : OrderRow) : OrderHistoryItemDTO :=
  let names := db.menuNamesOf (cStr orderId)
  let firstMenu := names.head?.getD ""
  { orderId := cStr orderId
    storeId := order.storeId
    storeName := cStr (db.storeName order.storeId)
    menuName := if firstMenu = "" then "메뉴 정보 없음" else firstMenu
    totalPrice := order.totalPrice
    status := order.orderStatus
    menuSummary :=
      match names with
      | [] => "메뉴 정보 없음"
      | first :: rest => summaryOf first rest.length
    createdAt := cStr (db.columns (key orderId)).createdAt
    deliveryPhotoUrl := "" }

/-- `getOrderHistory`; `like name keyword` is `name LIKE %keyword%`. -/
def getOrderHistory (like : String → String → Bool) (userId keyword : String) :
    List OrderHistoryItemDTO :=
  db.orderIds.filterMap fun orderId =>
    (db.book.tables.orders (key orderId)).bind fun order =>
      if key order.userId = key userId ∧ (db.book.tables.stores order.storeId).isSome ∧
          (keyword ≠ "" → like (db.storeName order.storeId) keyword = true) then
        some (historyItem db orderId order)
      else none

end OrderDAO

namespace RiderHandler

/-- An order of `handleRiderOrderList`: the first name of the join, and the count of all rows, for
the id that it shows. -/
def riderOrder (orderId : String) (order : OrderRow) : RiderOrder :=
  { orderId := cStr orderId
    totalPrice := order.totalPrice
    deliveryAddress := cStr order.deliveryAddress
    createdAt := cStr (db.columns (key orderId)).createdAt
    menuSummary :=
      match (db.menuNamesOf (cStr orderId)).head? with
      | some first => summaryOf (cStr first) ((db.itemsOf (cStr orderId)).length - 1)
      | none => "메뉴" }

/-- `handleRiderOrderList`. -/
def handleRiderOrderList : List RiderOrder :=
  db.orderIds.filterMap fun orderId =>
    (db.book.tables.orders (key orderId)).bind fun order =>
      if order.orderStatus = 1 then some (riderOrder db orderId order) else none

end RiderHandler

end Readers

end ItsBedalyo
