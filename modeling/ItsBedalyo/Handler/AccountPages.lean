import ItsBedalyo.Handler.Page

/-!
# Pages of the account: `SystemHandler.cpp`, `UserHandler.cpp`, `AddressHandler.cpp`, …

The heartbeat, the duplicate checks, the addresses, the searches, and the administrator's requests.
-/

namespace ItsBedalyo

namespace CmdID

def RES_HEARTBEAT : CmdID := 1001
def RES_AUTH_CHECK : CmdID := 1041
def RES_PHONE_CHECK : CmdID := 1043
def RES_BUISNESS_NUM_CHECK : CmdID := 2007
def RES_ADDRESS_SAVE : CmdID := 2071
def RES_ADDRESS_LIST : CmdID := 2073
def RES_ADDRESS_DELETE : CmdID := 2075
def RES_ADDRESS_UPDATE : CmdID := 2077
def RES_ADDRESS_DEFAULT : CmdID := 2079
def RES_RESEARCH_WIDGET : CmdID := 2109
def RES_RESEARCH_DELETE : CmdID := 2111
def RES_RESEARCH_ADD : CmdID := 2113
def RES_RESEARCH_DEL_ALL : CmdID := 2115
def RES_SEARCH_STORE : CmdID := 2117
def RES_ADMIN_ORDER_LIST : CmdID := 5021
def RES_ADMIN_INIT : CmdID := 5091

end CmdID

namespace Pages

open Page CmdID Dto

variable {D : Type} [Double D] (text : JsonParser D) (jsonBody : String)

/-! ### Heartbeat -/

namespace SystemHandler

def topStore (row : ResultRow D) : DbProg D (Json D) := do
  let storeId ← DbProg.getInt row "store_id"
  let storeName ← DbProg.getString row "store_name"
  let categoryName ← DbProg.getString row "category"
  let totalSales ← DbProg.getInt row "total_sales"
  let rating ← DbProg.getDouble row "rating"
  let deliveryFee ← DbProg.getInt row "delivery_fee"
  let minOrderAmount ← DbProg.getInt row "min_order_amount"
  let reviewCount ← DbProg.getInt row "review_count"
  let deliveryTimeRange ← DbProg.getString row "delivery_time_range"
  let iconName ← DbProg.getString row "icon_name"
  pure (.object
    [("storeId", encode storeId), ("storeName", encode storeName),
     ("categoryName", encode categoryName), ("totalSales", encode totalSales),
     ("rating", encode rating), ("deliveryFee", encode deliveryFee),
     ("minOrderAmount", encode minOrderAmount), ("reviewCount", encode reviewCount),
     ("deliveryTimeRange", encode deliveryTimeRange), ("iconName", encode iconName)])

def topStores : DbProg D (List (Json D)) := do
  let rows ← DbProg.select
    ("SELECT store_id, store_name, category, total_sales, rating, delivery_fee, " ++
     "min_order_amount, review_count, delivery_time_range, icon_name " ++
     "FROM STORES ORDER BY total_sales DESC LIMIT 10") []
  DbProg.forEach (fun _ row => topStore row) 0 rows

/-- `handleHeartbeat`: the body is not read. -/
def handleHeartbeat : Page D Unit := do
  try
    let stores ← db topStores
    reply RES_HEARTBEAT (.object
      [("status", encode (0 : Int32)), ("message", encode "Pong & Refresh Top Stores Only"),
       ("topStores", .array stores)])
  catch _ => reply RES_HEARTBEAT (statusMessage 1 "Pong (Data Error)")

end SystemHandler

/-! ### Duplicate checks -/

namespace UserHandler

/-- A duplicate check: `exists` answers whether the value is taken. -/
def check (cmdId : CmdID) (isTaken : Page D Bool) (taken free malformed : String) :
    Page D Unit := do
  let res : CheckResDTO ←
    try
      if ← isTaken then pure ⟨409, false, taken⟩ else pure ⟨200, true, free⟩
    catch _ => pure ⟨400, false, malformed⟩
  reply cmdId res.toJson

def handleAuthCheck : Page D Unit :=
  check RES_AUTH_CHECK
    (do
      let req ← parse text jsonBody
      let userId ← get text req "userId"
      db (UserDAO.existsById userId))
    "이미 사용 중인 아이디입니다." "사용 가능한 아이디입니다." "잘못된 요청입니다."

def handlePhoneCheck : Page D Unit :=
  check RES_PHONE_CHECK
    (do
      let req ← parse text jsonBody
      let phoneNumber ← get text req "phoneNumber"
      let role ← get text req "role"
      db (UserDAO.existsByPhoneAndRole phoneNumber role))
    "해당 역할로 이미 가입된 번호입니다." "사용 가능한 번호입니다." "잘못된 요청입니다."

def handleBizNumCheck : Page D Unit :=
  check RES_BUISNESS_NUM_CHECK
    (do
      let req ← parse text jsonBody
      let businessNum ← get text req "businessNum"
      db (UserDAO.existsByBizNum businessNum))
    "이미 등록된 사업자 번호입니다." "사용 가능한 사업자 번호입니다." "잘못된 요청 형식입니다."

end UserHandler

/-! ### Addresses -/

namespace AddressHandler

/-- `ResAddressListDTO`. -/
def addressList (status : Int32) (addresses : List AddressItemDTO) : Json D :=
  .object [("status", encode status), ("addresses", arrayOf AddressItemDTO.toJson addresses)]

/-- `ResAddressSaveDTO`. -/
def addressSaved (status addressId : Int32) : Json D :=
  .object [("status", encode status), ("addressId", encode addressId)]

/-- The list that follows a change. -/
def refresh (userId : String) : Page D Unit := do
  let addresses ← db (AddressDAO.getAddressList userId)
  reply RES_ADDRESS_LIST (addressList 200 addresses)

def handleAddressSave : Page D Unit := do
  try
    let req ← parse text jsonBody
    let userId ← get text req "userId"
    let address ← get text req "address"
    let detail ← get text req "detail"
    let guide ← get text req "guide"
    let label ← get text req "label"
    let newAddressId ← account (AddressDAO.saveAddress ⟨userId, address, detail, guide, label⟩)
    if newAddressId > 0 then
      reply RES_ADDRESS_SAVE (addressSaved 200 (.ofInt newAddressId))
      refresh userId
    else
      reply RES_ADDRESS_SAVE (addressSaved 500 0)
  catch _ => reply RES_ADDRESS_SAVE (addressSaved 500 0)

def handleAddressList : Page D Unit := do
  try
    let req ← parse text jsonBody
    let userId ← get text req "userId"
    let addresses ← db (AddressDAO.getAddressList userId)
    reply RES_ADDRESS_LIST (addressList 200 addresses)
  catch _ => reply RES_ADDRESS_LIST (addressList 500 [])

/-- A change that answers whether it has been made, with the user it is for. -/
def change (cmdId : CmdID) (changed : Page D (String × Bool)) : Page D Unit := do
  try
    let (userId, success) ← changed
    reply cmdId (statusOnly (if success then 200 else 400))
    if success then refresh userId else pure ()
  catch _ => reply cmdId (statusOnly 500)

def handleAddressDelete : Page D Unit :=
  change RES_ADDRESS_DELETE do
    let req ← parse text jsonBody
    let userId ← get text req "userId"
    let addressId : Int32 ← get text req "addressId"
    let success ← account (AddressDAO.deleteAddress userId addressId.toInt)
    pure (userId, success)

def handleAddressUpdate : Page D Unit :=
  change RES_ADDRESS_UPDATE do
    let req ← parse text jsonBody
    let userId ← get text req "userId"
    let addressId : Int32 ← get text req "addressId"
    let detail ← get text req "detail"
    let guide ← get text req "guide"
    let label ← get text req "label"
    let success ← account
      (AddressDAO.updateAddress ⟨userId, addressId.toInt, detail, guide, label⟩)
    pure (userId, success)

def handleAddressDefault : Page D Unit :=
  change RES_ADDRESS_DEFAULT do
    let req ← parse text jsonBody
    let userId ← get text req "userId"
    let addressId : Int32 ← get text req "addressId"
    let success ← account (AddressDAO.setDefaultAddress userId addressId.toInt)
    pure (userId, success)

end AddressHandler

/-! ### Searches -/

namespace SearchHandler

def handleSearchWidgetReq : Page D Unit := do
  try
    let req ← parse text jsonBody
    let userId ← get text req "userId"
    let searchDate ← getCurrentDate
    let popularKeywords ← db (SearchDAO.getPopularCategories 10)
    let recentSearches ← db (SearchDAO.getRecentSearches userId)
    reply RES_RESEARCH_WIDGET (.object
      [("status", encode (200 : Int32)),
       ("popularKeywords", arrayOf PopularKeyword.toJson popularKeywords),
       ("recentSearches", arrayOf RecentSearch.toJson recentSearches),
       ("searchDate", encode searchDate)])
  catch _ => pure ()

def handleSearchAddReq : Page D Unit := do
  try
    let req ← parse text jsonBody
    let userId ← get text req "userId"
    let keyword ← get text req "keyword"
    let _ ← db (SearchDAO.insertSearchHistory userId keyword)
    let _ ← db (SearchDAO.applySearchScore keyword)
    reply RES_RESEARCH_ADD (statusOnly 200)
  catch _ => pure ()

def handleSearchDeleteReq : Page D Unit := do
  try
    let req ← parse text jsonBody
    let userId ← get text req "userId"
    let historyId ← get text req "historyId"
    let _ ← db (SearchDAO.deleteRecentSearch userId historyId)
    reply RES_RESEARCH_DELETE (statusOnly 200)
  catch _ => pure ()

def handleSearchDelAllReq : Page D Unit := do
  try
    let req ← parse text jsonBody
    let userId ← get text req "userId"
    let _ ← db (SearchDAO.deleteAllRecentSearches userId)
    reply RES_RESEARCH_DEL_ALL (statusOnly 200)
  catch _ => pure ()

def handleSearchStoreReq : Page D Unit := do
  try
    let req ← parse text jsonBody
    let keyword ← get text req "keyword"
    let storeList ← db (SearchDAO.searchStoresByKeyword keyword)
    reply RES_SEARCH_STORE (.object
      [("status", encode (if storeList.isEmpty then 404 else 200 : Int32)),
       ("storeList", arrayOf TopStoreInfo.toJson storeList)])
  catch _ => pure ()

end SearchHandler

/-! ### The administrator -/

namespace AdminHandler

/-- `handleAdminInit`: whoever asks is given the role. -/
def handleAdminInit : Page D Unit := do
  try
    let req ← parse text jsonBody
    let adminId ← value text req "adminId" "admin"
    let role ← value text req "role" (3 : Int32)
    authenticate adminId role
    registerUser adminId role
    reply RES_ADMIN_INIT (statusMessage 200 "관리자 권한이 부여되었습니다.")
  catch _ => pure ()

/-- `ResAdminOrderListDTO`. -/
def adminOrderList (status : Int32) (orders : List AdminOrderDTO) : Json D :=
  .object [("status", encode status), ("orders", arrayOf AdminOrderDTO.toJson orders)]

def handleAdminOrderList : Page D Unit := do
  try
    let req ← parse text jsonBody
    let keyword ← getOr text req "keyword" ""
    let searchType ← getOr text req "searchType" ""
    let orders ← db (AdminDAO.searchOrders searchType keyword)
    reply RES_ADMIN_ORDER_LIST (adminOrderList 200 orders)
  catch _ => reply RES_ADMIN_ORDER_LIST (adminOrderList 500 [])

end AdminHandler

end Pages

end ItsBedalyo
