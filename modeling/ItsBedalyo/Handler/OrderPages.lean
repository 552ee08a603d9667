import ItsBedalyo.Handler.Page

/-!
# Pages of orders, reviews and sales: `OrderHandler.cpp`, `ReviewHandler.cpp`, …

The lists of orders for a store, for riders and for a customer, the checkout and the receipt, the
reviews and the sales of a store. `handleOrderList` and the handlers of reviews and sales parse the
body before their `try`.
-/

namespace ItsBedalyo

namespace CmdID

def RES_REVIEW_LIST : CmdID := 2015
def RES_MENU_REVIEW_LIST : CmdID := 2017
def RES_CHECKOUT_INFO : CmdID := 2027
def RES_ORDER_LIST : CmdID := 2051
def RES_ORDER_HISTORY : CmdID := 2081
def RES_ORDER_HISTORY_SEARCH : CmdID := 2083
def RES_ORDER_DETAIL : CmdID := 2087
def RES_REVIEW_REPLY : CmdID := 3071
def RES_SALES_STAT : CmdID := 3091
def RES_RIDER_ORDER_LIST : CmdID := 4021

end CmdID

namespace Pages

open Page CmdID Dto

variable {D : Type} [Double D] (text : JsonParser D) (jsonBody : String)

/-- `firstMenuName`, and `" 외 n건"` where there are more menus. -/
def menuSummary (firstMenuName : String) (itemCount : ℕ) : String :=
  if itemCount > 1 then firstMenuName ++ " 외 " ++ toString (itemCount - 1) ++ "건"
  else firstMenuName

namespace OrderHandler

/-! ### The list of a store -/

/-- The stored options, if they are an array. -/
def optionsOf (text : JsonText D) (optStr : String) : Json D :=
  let options := parseOr text optStr
  if options.isArray then options else .array []

/-- An item, and the name of the first menu if it is the first. -/
def orderItem (text : JsonText D) (itemCount : ℕ) (row : ResultRow D) :
    DbProg D (Json D × String) := do
  let menuId ← DbProg.getInt row "menu_id"
  let menuName ← DbProg.cString row "menu_name"
  let quantity ← DbProg.getInt row "quantity"
  let unitPrice ← DbProg.getInt row "unit_price"
  let optStr ← DbProg.cStringOr row "selected_options" "[]"
  let firstMenuName ← if itemCount = 0 then DbProg.cString row "menu_name" else pure ""
  let item := .object
    [("menuId", encode menuId), ("menuName", encode menuName), ("quantity", encode quantity),
     ("unitPrice", encode unitPrice), ("options", optionsOf text optStr)]
  pure (item, firstMenuName)

def listedOrder (text : JsonText D) (row : ResultRow D) : DbProg D (Json D) := do
  let orderId ← DbProg.cString row "order_id"
  let totalPrice ← DbProg.getInt row "total_price"
  let state ← DbProg.getInt row "order_status"
  let deliveryAddress ← DbProg.cString row "delivery_address"
  let createdAt ← DbProg.cString row "created_at"
  let storeRequest ← DbProg.cStringOr row "store_request" ""
  let riderRequest ← DbProg.cStringOr row "rider_request" ""
  let rejectReason ← DbProg.cStringOr row "reject_reason" ""
  let rows ← DbProg.select
    ("SELECT menu_id, menu_name, quantity, price AS unit_price, selected_options " ++
     "FROM ORDER_DETAILS WHERE order_id = ?") [.string orderId]
  let items ← DbProg.forEach (orderItem text) 0 rows
  pure (.object
    [("orderId", encode orderId), ("totalPrice", encode totalPrice), ("state", encode state),
     ("deliveryAddress", encode deliveryAddress), ("createdAt", encode createdAt),
     ("storeRequest", encode storeRequest), ("riderRequest", encode riderRequest),
     ("rejectReason", encode rejectReason),
     ("menuSummary", encode (menuSummary ((items.map Prod.snd).headD "") items.length)),
     ("items", .array (items.map Prod.fst))])

def ordersOfStore (text : JsonText D) (storeId : Int32) : DbProg D (List (Json D)) := do
  let rows ← DbProg.select
    ("SELECT order_id, total_price, order_status, " ++
     "delivery_address, created_at, store_request, rider_request, reject_reason " ++
     "FROM ORDERS WHERE store_id = ? AND order_status IN (0, 1, 2, 3, 4, 9) " ++
     "ORDER BY created_at DESC") [.int storeId]
  DbProg.forEach (fun _ row => listedOrder text row) 0 rows

def handleOrderList : Page D Unit := do
  let req ← parse text jsonBody
  try
    let storeId ← value text req "storeId" (0 : Int32)
    if storeId = 0 then
      reply RES_ORDER_LIST (statusMessage 400 "storeId가 없습니다.")
    else
      let orders ← db (ordersOfStore text.toJsonText storeId)
      reply RES_ORDER_LIST (.object
        [("status", encode (200 : Int32)), ("message", encode "조회 성공"),
         ("orders", .array orders)])
  catch _ => reply RES_ORDER_LIST (statusMessage 500 "서버 내부 오류")

/-! ### The history of a customer -/

/-- `ResOrderHistoryDTO`. -/
def orderHistory (status : Int32) (historyList : List Dto.OrderHistoryItemDTO) : Json D := .object
  [("status", encode status), ("historyList", arrayOf Dto.OrderHistoryItemDTO.toJson historyList)]

def handleOrderHistory : Page D Unit := do
  try
    let req ← parse text jsonBody
    let userId ← getOr text req "userId" ""
    let historyList ← db (OrderDAO.getOrderHistory userId "")
    reply RES_ORDER_HISTORY (orderHistory 0 historyList)
  catch _ => reply RES_ORDER_HISTORY (orderHistory 1 [])

def handleOrderHistorySearch : Page D Unit := do
  try
    let req ← parse text jsonBody
    let userId ← getOr text req "userId" ""
    let keyword ← getOr text req "keyword" ""
    let historyList ← db (OrderDAO.getOrderHistory userId keyword)
    reply RES_ORDER_HISTORY_SEARCH (orderHistory 0 historyList)
  catch _ => reply RES_ORDER_HISTORY_SEARCH (orderHistory 500 [])

/-! ### The checkout -/

/-- What the customer's row sets. -/
def checkoutUser (userId : String) (res : ResCheckoutInfoDTO) : DbProg D ResCheckoutInfoDTO := do
  let rows ← DbProg.select
    ("SELECT customer_grade, card_number, account_number, point, address " ++
     "FROM CUSTOMERS WHERE user_id = ?") [.string userId]
  match ← DbProg.first rows with
  | some row =>
    let customerGrade ← DbProg.stringOr row "customer_grade" "일반"
    let cardNumber ← DbProg.stringOr row "card_number" ""
    let accountNumber ← DbProg.stringOr row "account_number" ""
    let userPoint ← DbProg.intOr row "point" 0
    let userAddress ← DbProg.stringOr row "address" "주소 미상"
    pure { res with customerGrade, cardNumber, accountNumber, userPoint, userAddress }
  | none => pure res

/-- What the store's row sets. -/
def checkoutStore (storeId : Int32) (res : ResCheckoutInfoDTO) : DbProg D ResCheckoutInfoDTO := do
  let rows ← DbProg.select
    ("SELECT min_order_amount, delivery_fee, store_address, pickup_time " ++
     "FROM STORES WHERE store_id = ?") [.int storeId]
  match ← DbProg.first rows with
  | some row =>
    let minOrderAmount ← DbProg.getInt row "min_order_amount"
    let deliveryFee ← DbProg.getInt row "delivery_fee"
    let storeAddress ← DbProg.stringOr row "store_address" ""
    let pickupTime ← DbProg.stringOr row "pickup_time" ""
    pure { res with minOrderAmount, deliveryFee, storeAddress, pickupTime }
  | none => pure res

/-- `errRes` of the checkout, where five numbers are not set. -/
def checkoutFailed : Page D Unit := do
  let userPoint ← uninitialised
  let appliedDeliveryFee ← uninitialised
  let minOrderAmount ← uninitialised
  let deliveryFee ← uninitialised
  let totalPrice ← uninitialised
  reply RES_CHECKOUT_INFO (ResCheckoutInfoDTO.toJson
    { status := 500, userPoint, appliedDeliveryFee, minOrderAmount, deliveryFee, totalPrice })

def handleCheckoutInfo : Page D Unit := do
  try
    let req ← parse text jsonBody
    let userId ← getOr text req "userId" ""
    let storeId ← getOr text req "storeId" (0 : Int32)
    let res ← db (checkoutUser userId { status := 200 })
    let res ← db (checkoutStore storeId res)
    let appliedDeliveryFee := if res.customerGrade = "와우" then 0 else res.deliveryFee
    reply RES_CHECKOUT_INFO (ResCheckoutInfoDTO.toJson { res with appliedDeliveryFee })
  catch _ => checkoutFailed

/-! ### The receipt -/

/-- The last four bytes, if they are UTF-8. -/
def lastFour (s : String) : Option String :=
  String.fromUTF8? (s.toUTF8.extract (s.utf8ByteSize - 4) s.utf8ByteSize)

/-- `res.paymentMethod`, if it is UTF-8. -/
def paymentMethod (cardNum : String) : Option String :=
  if cardNum.utf8ByteSize ≥ 4 then (lastFour cardNum).map fun digits => "신용카드(" ++ digits ++ ")"
  else some "신용카드 결제"

/-- What the order's row sets. -/
structure Receipt where
  storeName : String
  createdAt : String
  deliveryAddress : String
  totalPrice : Int32
  deliveryFee : Int32
  wowDiscount : Int32
  cardNum : String

def receiptOf (row : ResultRow D) : DbProg D Receipt := do
  let storeName ← DbProg.getString row "store_name"
  let createdAt ← DbProg.getString row "created_at"
  let deliveryAddress ← DbProg.getString row "delivery_address"
  let totalPrice ← DbProg.getInt row "total_price"
  let deliveryFee ← DbProg.getInt row "delivery_fee"
  let wowDiscount ← DbProg.getInt row "wow_discount"
  let cardNum ← DbProg.stringOr row "card_number" ""
  pure { storeName, createdAt, deliveryAddress, totalPrice, deliveryFee, wowDiscount, cardNum }

/-- The receipt of an order, if there is the order. -/
def findReceipt (orderId : String) : DbProg D (Option Receipt) := do
  let rows ← DbProg.select
    ("SELECT S.store_name, O.created_at, O.delivery_address, O.total_price, " ++
     "O.delivery_fee, O.wow_discount, C.card_number FROM ORDERS O " ++
     "JOIN STORES S ON O.store_id = S.store_id JOIN CUSTOMERS C ON O.user_id = C.user_id " ++
     "WHERE O.order_id = ?") [.string orderId]
  match ← DbProg.first rows with
  | some row =>
    let receipt ← receiptOf row
    pure (some receipt)
  | none => pure none

def receiptItem (text : JsonText D) (row : ResultRow D) : DbProg D (Dto.OrderItemDTO D) := do
  let menuId ← DbProg.getInt row "menu_id"
  let menuName ← DbProg.getString row "menu_name"
  let quantity ← DbProg.getInt row "quantity"
  let unitPrice ← DbProg.getInt row "unit_price"
  let optsStr ← DbProg.stringOr row "selected_options" "[]"
  pure { menuId, menuName, quantity, unitPrice, selectedOptions := parseOr text optsStr,
         options := [] }

def receiptItems (text : JsonText D) (orderId : String) : DbProg D (List (Dto.OrderItemDTO D)) := do
  let rows ← DbProg.select
    ("SELECT OI.menu_id, M.menu_name, OI.quantity, OI.unit_price, OI.selected_options " ++
     "FROM ORDER_ITEMS OI JOIN MENUS M ON OI.menu_id = M.menu_id WHERE OI.order_id = ?")
    [.string orderId]
  DbProg.forEach (fun _ row => receiptItem text row) 0 rows

/-- `calculatedTotalMenuPrice`. -/
def totalMenuPrice (items : List (Dto.OrderItemDTO D)) : Int32 :=
  items.foldl (fun total item => total + item.unitPrice * item.quantity) 0

/-- `ResOrderDetailDTO`, unless its `paymentMethod` is not UTF-8. -/
def orderDetail (orderId : String) (receipt : Receipt) (items : List (Dto.OrderItemDTO D)) :
    Option (Json D) :=
  (paymentMethod receipt.cardNum).map fun paymentMethod => .object
    [("status", encode (0 : Int32)), ("orderId", encode orderId),
     ("storeName", encode receipt.storeName), ("createdAt", encode receipt.createdAt),
     ("paymentMethod", encode paymentMethod), ("deliveryAddress", encode receipt.deliveryAddress),
     ("totalMenuPrice", encode (totalMenuPrice items)),
     ("deliveryFee", encode receipt.deliveryFee), ("couponDiscount", encode (0 : Int32)),
     ("wowDiscount", encode receipt.wowDiscount), ("totalPrice", encode receipt.totalPrice),
     ("items", encode items)]

/-- `errRes` of the receipt, where five numbers are not set. -/
def detailFailed : Page D Unit := do
  let totalMenuPrice ← uninitialised
  let deliveryFee ← uninitialised
  let couponDiscount ← uninitialised
  let wowDiscount ← uninitialised
  let totalPrice ← uninitialised
  reply RES_ORDER_DETAIL (.object
    [("status", encode (1 : Int32)), ("orderId", encode ""), ("storeName", encode ""),
     ("createdAt", encode ""), ("paymentMethod", encode ""), ("deliveryAddress", encode ""),
     ("totalMenuPrice", encode totalMenuPrice), ("deliveryFee", encode deliveryFee),
     ("couponDiscount", encode couponDiscount), ("wowDiscount", encode wowDiscount),
     ("totalPrice", encode totalPrice), ("items", .array [])])

def handleOrderDetail : Page D Unit := do
  try
    let req ← parse text jsonBody
    let orderId ← value text req "orderId" ""
    if orderId = "" then
      throw (.std "주문 번호가 누락되었습니다.")
    else
      match ← db (findReceipt orderId) with
      | none => throw (.std "해당 주문을 찾을 수 없습니다.")
      | some receipt =>
        let items ← db (receiptItems text.toJsonText orderId)
        sendPacket RES_ORDER_DETAIL (orderDetail orderId receipt items)
  catch _ => detailFailed

end OrderHandler

/-! ### The list of the riders -/

namespace RiderHandler

/-- The first menu of an order and how many more there are. -/
def riderSummary (orderId : String) : DbProg D String := do
  let items ← DbProg.select
    ("SELECT M.menu_name FROM ORDER_ITEMS OI JOIN MENUS M ON OI.menu_id = M.menu_id " ++
     "WHERE OI.order_id = ? LIMIT 1") [.string orderId]
  let counts ← DbProg.select "SELECT COUNT(*) as cnt FROM ORDER_ITEMS WHERE order_id = ?"
    [.string orderId]
  match ← DbProg.first items with
  | none => pure "메뉴"
  | some item =>
    let menuName ← DbProg.cString item "menu_name"
    match ← DbProg.first counts with
    | none => pure menuName
    | some row =>
      let cnt ← DbProg.getInt row "cnt"
      pure (if cnt > 1 then menuName ++ " 외 " ++ toString (cnt - 1).toInt ++ "건" else menuName)

def riderOrder (row : ResultRow D) : DbProg D (Json D) := do
  let orderId ← DbProg.cString row "order_id"
  let totalPrice ← DbProg.getInt row "total_price"
  let deliveryAddress ← DbProg.cString row "delivery_address"
  let createdAt ← DbProg.cString row "created_at"
  let summary ← riderSummary orderId
  pure (.object
    [("orderId", encode orderId), ("totalPrice", encode totalPrice),
     ("deliveryAddress", encode deliveryAddress), ("createdAt", encode createdAt),
     ("menuSummary", encode summary)])

def ordersForRiders : DbProg D (List (Json D)) := do
  let rows ← DbProg.select
    ("SELECT order_id, total_price, delivery_address, created_at " ++
     "FROM ORDERS WHERE order_status = 1 ORDER BY created_at DESC") []
  DbProg.forEach (fun _ row => riderOrder row) 0 rows

/-- `handleRiderOrderList`: the body is not read. -/
def handleRiderOrderList : Page D Unit := do
  try
    let orders ← db ordersForRiders
    reply RES_RIDER_ORDER_LIST (.object
      [("status", encode (200 : Int32)), ("message", encode "조회 성공"),
       ("orders", .array orders)])
  catch _ => reply RES_RIDER_ORDER_LIST (statusMessage 500 "서버 내부 오류")

end RiderHandler

/-! ### Reviews and sales -/

namespace ReviewHandler

/-- One of the lists takes its texts by `.c_str()`, the other as a `std::string`. -/
def listedReview (ofText : String → String) (row : ResultRow D) : DbProg D (Json D) := do
  let reviewId ← DbProg.getInt row "review_id"
  let userId ← DbProg.getString row "user_id"
  let rating ← DbProg.getInt row "rating"
  let content ← DbProg.getString row "content"
  let ownerReply ← DbProg.stringOr row "owner_reply" ""
  let createdAt ← DbProg.getString row "created_at"
  pure (.object
    [("reviewId", encode reviewId), ("userId", encode (ofText userId)), ("rating", encode rating),
     ("content", encode (ofText content)), ("ownerReply", encode (ofText ownerReply)),
     ("createdAt", encode (ofText createdAt))])

def reviews (ofText : String → String) (query : String) (params : List SqlParam) :
    DbProg D (List (Json D)) := do
  let rows ← DbProg.select query params
  DbProg.forEach (fun _ row => listedReview ofText row) 0 rows

/-- The query of `handleReviewList`. -/
def reviewListQuery (storeId menuId : Int32) : String :=
  "SELECT R.review_id, R.user_id, R.rating, R.content, R.owner_reply, R.created_at " ++
  "FROM REVIEWS R " ++
  (if menuId > 0 then "JOIN ORDER_ITEMS OI ON R.order_id = OI.order_id " else "") ++
  "WHERE 1=1 " ++
  (if storeId > 0 ∧ menuId = 0 then "AND R.store_id = ? " else "") ++
  (if menuId > 0 then "AND OI.menu_id = ? " else "") ++ "ORDER BY R.created_at DESC"

/-- The values for its `?`s. -/
def reviewListParams (storeId menuId : Int32) : List SqlParam :=
  (if storeId > 0 ∧ menuId = 0 then [.int storeId] else []) ++
    if menuId > 0 then [.int menuId] else []

def handleReviewList : Page D Unit := do
  let req ← parse text jsonBody
  try
    let storeId ← value text req "storeId" (0 : Int32)
    let menuId ← value text req "menuId" (0 : Int32)
    if storeId = 0 ∧ menuId = 0 then
      reply RES_REVIEW_LIST (statusMessage 400 "storeId 또는 menuId가 필요합니다.")
    else
      let reviews ← db
        (reviews cStr (reviewListQuery storeId menuId) (reviewListParams storeId menuId))
      reply RES_REVIEW_LIST (.object
        [("status", encode (200 : Int32)), ("message", encode "조회 성공"),
         ("storeId", encode storeId), ("menuId", encode menuId), ("reviews", .array reviews)])
  catch _ => reply RES_REVIEW_LIST (statusMessage 500 "서버 내부 오류")

def handleReviewReply : Page D Unit := do
  let req ← parse text jsonBody
  try
    let reviewId ← value text req "reviewId" (0 : Int32)
    let storeId ← value text req "storeId" (0 : Int32)
    let ownerReply ← value text req "ownerReply" ""
    if reviewId = 0 ∨ storeId = 0 ∨ ownerReply = "" then
      reply RES_REVIEW_REPLY
        (statusMessage 400 "reviewId, storeId, ownerReply 중 누락된 값이 있습니다.")
    else
      let affected ← db (DbProg.update
        "UPDATE REVIEWS SET owner_reply = ? WHERE review_id = ? AND store_id = ?"
        [.string ownerReply, .int reviewId, .int storeId])
      reply RES_REVIEW_REPLY
        (if affected > 0 then statusMessage 200 "답글 등록 완료"
        else statusMessage 404 "해당 리뷰를 찾을 수 없거나 권한이 없습니다.")
  catch _ => reply RES_REVIEW_REPLY (statusMessage 500 "서버 내부 오류")

/-- The query of `handleMenuReviewList`. -/
def menuReviewListQuery : String :=
  "SELECT R.review_id, R.user_id, R.rating, R.content, R.owner_reply, R.created_at " ++
  "FROM REVIEWS R JOIN ORDER_ITEMS OI ON R.order_id = OI.order_id WHERE OI.menu_id = ? " ++
  "ORDER BY R.created_at DESC"

def handleMenuReviewList : Page D Unit := do
  let req ← parse text jsonBody
  try
    let menuId ← value text req "menuId" (0 : Int32)
    if menuId = 0 then
      reply RES_MENU_REVIEW_LIST (statusMessage 400 "정확한 menuId를 입력해주세요.")
    else
      let reviews ← db (reviews id menuReviewListQuery [.int menuId])
      reply RES_MENU_REVIEW_LIST (.object
        [("status", encode (200 : Int32)), ("message", encode "조회 성공"),
         ("menuId", encode menuId), ("reviews", .array reviews)])
  catch _ => reply RES_MENU_REVIEW_LIST (statusOnly 500)

end ReviewHandler

namespace SalesHandler

/-- The sales of a store, if there is the store. -/
def salesOf (storeId : Int32) : DbProg D (Option Int32) := do
  let rows ← DbProg.select "SELECT total_sales FROM STORES WHERE store_id = ?" [.int storeId]
  match ← DbProg.first rows with
  | some row =>
    let totalSales ← DbProg.getInt row "total_sales"
    pure (some totalSales)
  | none => pure none

def handleSalesStat : Page D Unit := do
  let req ← parse text jsonBody
  try
    let storeId ← value text req "storeId" (0 : Int32)
    if storeId = 0 then
      reply RES_SALES_STAT (statusMessage 400 "storeId가 없습니다.")
    else
      match ← db (salesOf storeId) with
      | some totalSales =>
        reply RES_SALES_STAT (.object
          [("status", encode (200 : Int32)), ("message", encode "조회 성공"),
           ("totalSales", encode totalSales)])
      | none => reply RES_SALES_STAT (statusMessage 404 "해당 매장을 찾을 수 없습니다.")
  catch _ => reply RES_SALES_STAT (statusMessage 500 "서버 내부 오류")

end SalesHandler

end Pages

end ItsBedalyo
