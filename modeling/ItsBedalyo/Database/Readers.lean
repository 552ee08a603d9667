import ItsBedalyo.Database.Queries
import ItsBedalyo.Dto.ReplyDTO
import ItsBedalyo.Handler.MenuHandler

/-!
# What the pages call: `UserDAO.cpp`, `AddressDAO.cpp`, `OrderDAO.cpp`, `AdminDAO.cpp`, …

The functions of the DAO classes behind the handlers that answer from the tables, call by call, so
that each of their calls may throw. All of them catch it: those that collect rows return what they
have, the others `false`. Those that write a row and answer a `bool` are here too.

The queries have the words of the source, but not all of its white space; `createStatement` is
taken for a `prepareStatement` of what is executed.
-/

namespace ItsBedalyo.Pages

open DbProg Dto

variable {D : Type} [Double D]

/-! ### Duplicate checks, and updates from a list of values -/

/-- `SELECT COUNT(*)`, and whether it is positive. -/
def countIsPositive (query : String) (params : List SqlParam) : DbProg D Bool :=
  catchSql
    (do
      let rows ← select query params
      match ← first rows with
      | some row =>
        let count ← getInt row "1"
        pure (count > 0)
      | none => pure false)
    false

/-- `executeUpdate` of `StoreDAO` and of `UserDAO`. -/
def executeUpdate (query : String) (params : List String) : DbProg D Bool :=
  catchSql
    (do
      let _ ← update query (params.map .string)
      pure true)
    false

namespace UserDAO

def existsById (userId : String) : DbProg D Bool :=
  countIsPositive "SELECT COUNT(*) FROM USERS WHERE user_id = ?" [.string userId]

def existsByPhoneAndRole (phoneNumber : String) (role : Int32) : DbProg D Bool :=
  countIsPositive "SELECT COUNT(*) FROM USERS WHERE phone_number = ? AND role = ?"
    [.string phoneNumber, .int role]

def existsByBizNum (businessNum : String) : DbProg D Bool :=
  countIsPositive "SELECT COUNT(*) FROM OWNERS WHERE business_number = ?" [.string businessNum]

end UserDAO

/-! ### Addresses -/

namespace AddressDAO

def addressItem (row : ResultRow D) : DbProg D AddressItemDTO := do
  let addressId ← getInt row "address_id"
  let address ← cString row "address"
  let detail ← cString row "detail"
  let guide ← cString row "guide"
  let label ← cString row "label"
  let isDefault ← getInt row "is_default"
  pure { addressId, address, detail, guide, label, isDefault := isDefault = 1 }

def getAddressList (userId : String) : DbProg D (List AddressItemDTO) :=
  selectEach
    ("SELECT address_id, address, detail, guide, label, is_default " ++
     "FROM USER_ADDRESSES WHERE user_id = ? ORDER BY is_default DESC, address_id DESC")
    [.string userId] fun _ row => addressItem row

end AddressDAO

/-! ### Orders -/

namespace OrderDAO

/-- The query of `getOrderHistory`. -/
def orderHistoryQuery (keyword : String) : String :=
  "SELECT O.order_id, O.store_id, S.store_name, O.total_price, O.order_status, O.created_at " ++
  "FROM ORDERS O JOIN STORES S ON O.store_id = S.store_id WHERE O.user_id = ? " ++
  (if keyword ≠ "" then "AND S.store_name LIKE ? " else "") ++ "ORDER BY O.created_at DESC"

/-- The name of the first menu, and how many there are. -/
def menusOfOrder (orderId : String) : DbProg D (String × ℕ) := do
  let rows ← select
    ("SELECT M.menu_name FROM ORDER_ITEMS OI JOIN MENUS M ON OI.menu_id = M.menu_id " ++
     "WHERE OI.order_id = ?") [.string orderId]
  let names ← forEach (fun i row => if i = 0 then getString row "menu_name" else pure "") 0 rows
  pure (names.headD "", names.length)

/-- The three ways to sum up the menus of an order. -/
def historySummary (firstMenu : String) (menuCount : ℕ) : String :=
  if menuCount > 1 then firstMenu ++ " 외 " ++ toString (menuCount - 1) ++ "건"
  else if menuCount = 1 then firstMenu
  else "메뉴 정보 없음"

def historyItem (row : ResultRow D) : DbProg D Dto.OrderHistoryItemDTO := do
  let orderId ← cString row "order_id"
  let storeId ← getInt row "store_id"
  let storeName ← cString row "store_name"
  let totalPrice ← getInt row "total_price"
  let status ← getInt row "order_status"
  let createdAt ← cString row "created_at"
  let (firstMenu, menuCount) ← menusOfOrder orderId
  pure { orderId, storeId, storeName, totalPrice, status, createdAt, deliveryPhotoUrl := "",
         menuName := if firstMenu = "" then "메뉴 정보 없음" else firstMenu,
         menuSummary := historySummary firstMenu menuCount }

def getOrderHistory (userId keyword : String) : DbProg D (List Dto.OrderHistoryItemDTO) :=
  selectEach (orderHistoryQuery keyword)
    (.string userId :: if keyword ≠ "" then [.string ("%" ++ keyword ++ "%")] else [])
    fun _ row => historyItem row

end OrderDAO

namespace AdminDAO

/-- The query of `searchOrders`. -/
def searchOrdersQuery (searchType keyword : String) : String :=
  "SELECT order_id, user_id, total_price, order_status, created_at FROM ORDERS " ++
  (if keyword ≠ "" then
    if searchType = "orderId" then "WHERE order_id LIKE ? "
    else if searchType = "userId" then "WHERE user_id LIKE ? "
    else ""
  else "") ++ "ORDER BY created_at DESC LIMIT 100"

def adminOrder (row : ResultRow D) : DbProg D AdminOrderDTO := do
  let orderId ← cString row "order_id"
  let userId ← cString row "user_id"
  let totalPrice ← getInt row "total_price"
  let orderStatus ← getInt row "order_status"
  let createdAt ← cString row "created_at"
  pure { orderId, userId, totalPrice, orderStatus, createdAt }

def searchOrders (searchType keyword : String) : DbProg D (List AdminOrderDTO) :=
  selectEach (searchOrdersQuery searchType keyword)
    (if keyword ≠ "" then [.string ("%" ++ keyword ++ "%")] else [])
    fun _ row => adminOrder row

end AdminDAO

/-! ### Searches -/

namespace SearchDAO

def getPopularCategories (limit : Int32) : DbProg D (List PopularKeyword) :=
  selectEach
    ("SELECT name AS category_name, popularity_score FROM CATEGORIES " ++
     "ORDER BY popularity_score DESC LIMIT ?") [.int limit] fun i row => do
      let keyword ← cString row "category_name"
      pure { rank := .ofNat (i + 1), keyword }

def getRecentSearches (userId : String) : DbProg D (List RecentSearch) :=
  selectEach
    ("SELECT history_id, keyword, DATE_FORMAT(search_date, '%m.%d') as formatted_date " ++
     "FROM SEARCH_HISTORY WHERE user_id = ? AND is_visible = 1 " ++
     "ORDER BY search_date DESC LIMIT 10") [.string userId] fun _ row => do
      let historyId ← getInt row "history_id"
      let keyword ← cString row "keyword"
      let searchDate ← cString row "formatted_date"
      pure { historyId, keyword, searchDate }

/-- An update that answers `true` unless it throws. -/
def succeeds (query : String) (params : List SqlParam) : DbProg D Bool :=
  catchSql
    (do
      let _ ← update query params
      pure true)
    false

def insertSearchHistory (userId keyword : String) : DbProg D Bool :=
  succeeds "INSERT INTO SEARCH_HISTORY (user_id, keyword, is_visible) VALUES (?, ?, 1)"
    [.string userId, .string keyword]

/-- A category of that name gets the point, else a store, else the category of a store with such a
menu. -/
def applySearchScore (keyword : String) : DbProg D Bool :=
  catchSql
    (do
      let directCatUpdated ← update
        "UPDATE CATEGORIES SET popularity_score = popularity_score + 1 WHERE name = ?"
        [.string keyword]
      if directCatUpdated > 0 then pure true
      else
        let rowsUpdated ← update
          "UPDATE STORES SET popularity_score = popularity_score + 1 WHERE store_name = ?"
          [.string keyword]
        if rowsUpdated > 0 then pure true
        else
          let _ ← update
            ("UPDATE CATEGORIES SET popularity_score = popularity_score + 1 " ++
             "WHERE name = ( SELECT S.category FROM MENUS M " ++
             "JOIN STORES S ON M.store_id = S.store_id WHERE M.menu_name LIKE ? LIMIT 1)")
            [.string ("%" ++ keyword ++ "%")]
          pure true)
    false

def foundStore (row : ResultRow D) : DbProg D (TopStoreInfo D) := do
  let storeId ← getInt row "store_id"
  let storeName ← cString row "store_name"
  let category ← cString row "category"
  let rating ← doubleOr row "rating" Double.zero
  let reviewCount ← intOr row "review_count" 0
  let minOrderPrice ← intOr row "min_order_amount" 0
  let deliveryTime ← cStringOr row "delivery_time_range" ""
  let deliveryFee ← intOr row "delivery_fee" 0
  let iconPath ← cStringOr row "image_url" ""
  pure { storeId, storeName, category, rating, reviewCount, minOrderPrice, deliveryTime,
         deliveryFee, iconPath }

def searchStoresByKeyword (keyword : String) : DbProg D (List (TopStoreInfo D)) :=
  selectEach
    ("SELECT store_id, store_name, category, rating, review_count, min_order_amount, " ++
     "delivery_time_range, delivery_fee, image_url FROM STORES " ++
     "WHERE store_name LIKE ? OR category LIKE ?")
    [.string ("%" ++ keyword ++ "%"), .string ("%" ++ keyword ++ "%")]
    fun _ row => foundStore row

def deleteRecentSearch (userId : String) (historyId : Int32) : DbProg D Bool :=
  succeeds "UPDATE SEARCH_HISTORY SET is_visible = 0 WHERE user_id = ? AND history_id = ?"
    [.string userId, .int historyId]

def deleteAllRecentSearches (userId : String) : DbProg D Bool :=
  succeeds "UPDATE SEARCH_HISTORY SET is_visible = 0 WHERE user_id = ?" [.string userId]

end SearchDAO

end ItsBedalyo.Pages
