import ItsBedalyo.Handler.Page

/-!
# Pages of stores and menus: `StoreHandler.cpp`, `CategoryHandler.cpp`, `MenuHandler.cpp`

`handleStoreInfoUpdateReq` puts its statements together from the members that the body has.
`handleMenuListRequest`, `handleMenuEdit` and `handleMenuSoldOut` parse the body before their `try`.
-/

namespace ItsBedalyo

namespace CmdID

def RES_STORE_LIST : CmdID := 2001
def RES_STORE_DETAIL : CmdID := 2003
def RES_MENU_LIST : CmdID := 2011
def RES_MENU_OPTION : CmdID := 2013
def RES_STORE_INFO_UPDATE : CmdID := 2103
def RES_STORE_STATUS_SET : CmdID := 3031
def RES_MENU_SOLD_OUT : CmdID := 3051
def RES_MENU_EDIT : CmdID := 3061

end CmdID

namespace Pages

open Page CmdID Dto

variable {D : Type} [Double D] (text : JsonParser D) (jsonBody : String)

namespace StoreHandler

/-- `StoreListResDTO`. -/
def storeList (status : Int32) (stores : List (TopStoreInfo D)) : Json D := .object
  [("status", encode status), ("message", encode ""),
   ("stores", arrayOf TopStoreInfo.toJson stores)]

def handleStoreListRequest : Page D Unit := do
  try
    let req ← parse text jsonBody
    let categoryId ← getOr text req "categoryId" (0 : Int32)
    let brandName ← getOr text req "brandName" ""
    let stores ←
      if categoryId = 0 ∧ brandName = "" then db StoreDAO.getAllStores
      else db (StoreDAO.getStoresByCategory categoryId brandName)
    reply RES_STORE_LIST (storeList 200 stores)
  catch _ => reply RES_STORE_LIST (storeList 500 [])

/-- `result.storeData` of `getStoreDetail`, where five members are not set. -/
def declaredStore : Page D (StoreDataDTO D) := do
  let storeId ← uninitialised
  let isOpen ← uninitialisedBool
  let minOrderAmount ← uninitialised
  let rating ← uninitialisedDouble
  let reviewCount ← uninitialised
  let fresh : StoreDataDTO D := .fresh
  pure { fresh with storeId, isOpen, minOrderAmount, rating, reviewCount }

def handleStoreDetailReq : Page D Unit := do
  try
    let req ← parse text jsonBody
    let req ← ofExcept (text.convert (ReqStoreDetailDTO.fromJson req))
    if req.storeId = 0 then
      reply RES_STORE_DETAIL (statusMessage 400 "storeId가 누락되었습니다.")
    else
      let storeData ← declaredStore
      let storeDetailRes ← db (StoreDAO.getStoreDetail text.toJsonText storeData req.storeId)
      reply RES_STORE_DETAIL storeDetailRes.toJson
  catch _ => reply RES_STORE_DETAIL (statusMessage 500 "서버 내부 오류")

/-! ### The update of a store -/

/-- The clauses of an update, and the values for their `?`s. -/
structure Clauses where
  text : String := ""
  values : List String := []

/-- `clauses += "column=?, "` and `values.push_back(value)`. -/
def Clauses.add (clauses : Clauses) (column value : String) : Clauses :=
  ⟨clauses.text ++ column ++ "=?, ", clauses.values ++ [value]⟩

/-- `clauses.substr(0, clauses.size() - 2)`. -/
def Clauses.trimmed (clauses : Clauses) : String :=
  String.ofList clauses.text.toList.dropLast.dropLast

/-- A member that is there is read as its column wants it. -/
def addField (req : Json D) (key column : String) (read : Json D → Except JsonError String)
    (clauses : Clauses) : Except JsonError Clauses :=
  match req.find key with
  | some field => (read field).map (clauses.add column)
  | none => .ok clauses

/-- `get<std::string>()`. -/
def readText (field : Json D) : Except JsonError String := decode field

/-- `std::to_string(get<int>())`. -/
def readNumber (field : Json D) : Except JsonError String :=
  (decode field : Except JsonError Int32).map fun n => toString n.toInt

/-- `is_number()`. -/
def isNumber : Json D → Bool
  | .numberInteger _ | .numberUnsigned _ | .numberFloat _ => true
  | _ => false

/-- A number or a text. -/
def readNumberOrText (field : Json D) : Except JsonError String :=
  if isNumber field then readNumber field else readText field

def storeClauses (req : Json D) : Except JsonError Clauses :=
  addField req "storeName" "store_name" readText {}
    >>= addField req "category" "category" readText
    >>= addField req "storeAddress" "store_address" readText
    >>= addField req "cookTime" "cook_time" readText
    >>= addField req "deliveryFee" "delivery_fee" readNumber
    >>= addField req "minOrderAmount" "min_order_amount" readNumberOrText
    >>= addField req "openTime" "open_time" readText
    >>= addField req "closeTime" "close_time" readText

def userClauses (req : Json D) : Except JsonError Clauses :=
  addField req "ownerName" "user_name" readText {}
    >>= addField req "ownerPhone" "phone_number" readText

def ownerClauses (req : Json D) : Except JsonError Clauses :=
  addField req "accountNumber" "account_number" readText {}

/-- The update of a table, unless an earlier one has failed or there are no clauses. -/
def updateTable (success : Bool) (table idColumn : String) (clauses : Clauses)
    (id : Page D String) : Page D Bool := do
  if success ∧ clauses.text ≠ "" then
    let id ← id
    db (executeUpdate ("UPDATE " ++ table ++ " SET " ++ clauses.trimmed ++ " WHERE " ++ idColumn ++
      "=?") (clauses.values ++ [id]))
  else
    pure success

def handleStoreInfoUpdateReq : Page D Unit := do
  try
    let req ← parse text jsonBody
    let storeId ← value text req "storeId" (0 : Int32)
    if storeId = 0 then
      reply RES_STORE_INFO_UPDATE (statusMessage 400 "storeId가 없습니다.")
    else
      let store ← ofExcept (text.convert (storeClauses req))
      let user ← ofExcept (text.convert (userClauses req))
      let owner ← ofExcept (text.convert (ownerClauses req))
      if store.text = "" ∧ user.text = "" ∧ owner.text = "" then
        reply RES_STORE_INFO_UPDATE (statusMessage 400 "변경된 항목이 없습니다.")
      else
        let success ← updateTable true "STORES" "store_id" store (pure (toString storeId.toInt))
        let success ← updateTable success "USERS" "user_id" user getUserId
        let success ← updateTable success "OWNERS" "user_id" owner getUserId
        reply RES_STORE_INFO_UPDATE
          (if success then statusMessage 200 "저장 완료"
          else statusMessage 500 "DB 오류가 발생했습니다.")
  catch _ => reply RES_STORE_INFO_UPDATE (statusMessage 500 "서버 내부 오류")

def handleStoreStatusSet : Page D Unit := do
  try
    let req ← parse text jsonBody
    let storeId ← value text req "storeId" (0 : Int32)
    let status ← value text req "status" (-1 : Int32)
    if storeId = 0 ∨ status = -1 then
      reply RES_STORE_STATUS_SET (statusMessage 400 "storeId 또는 status가 없습니다.")
    else
      let success ← db (executeUpdate "UPDATE STORES SET status=? WHERE store_id=?"
        [toString status.toInt, toString storeId.toInt])
      reply RES_STORE_STATUS_SET
        (if success then statusMessage 200 "영업 상태가 변경되었습니다."
        else statusMessage 500 "DB 오류가 발생했습니다.")
  catch _ => reply RES_STORE_STATUS_SET (statusMessage 500 "서버 내부 오류")

end StoreHandler

/-! ### The main page -/

namespace CategoryHandler

/-- `CategoryItem`. -/
structure CategoryItem where
  id : Int32
  name : String
  iconPath : String

def CategoryItem.toJson (dto : CategoryItem) : Json D := .object
  [("id", encode dto.id), ("name", encode dto.name), ("iconPath", encode dto.iconPath)]

/-- `MainHomeResDTO`. -/
def mainHome (status : Int32) (categories : List CategoryItem) (brandCategories : List String)
    (topStores : List (TopStoreInfo D)) : Json D := .object
  [("status", encode status), ("categories", arrayOf CategoryItem.toJson categories),
   ("brandCategories", arrayOf (fun brandName => .object [("brandName", encode brandName)])
     brandCategories),
   ("topStores", arrayOf TopStoreInfo.toJson topStores)]

def foodCategories : DbProg D (List CategoryItem) := do
  let rows ← DbProg.select
    ("SELECT category_id, name, icon_name FROM CATEGORIES " ++
     "WHERE name NOT IN ('편의점', '마트') ORDER BY category_id ASC") []
  DbProg.forEach
    (fun _ row => do
      let id ← DbProg.getInt row "category_id"
      let name ← DbProg.stringOr row "name" ""
      let iconPath ← DbProg.stringOr row "icon_name" ""
      pure { id, name, iconPath })
    0 rows

def brandCategories : DbProg D (List String) := do
  let rows ← DbProg.select
    ("SELECT DISTINCT brand_name FROM STORES WHERE category IN ('편의점', '마트') " ++
     "AND brand_name IS NOT NULL") []
  DbProg.forEach (fun _ row => DbProg.getString row "brand_name") 0 rows

/-- `handleCategoryRequest`, which the network thread calls for each connection. -/
def handleCategoryRequest : Page D Unit := do
  try
    let categories ← db foodCategories
    let brandCategories ← db brandCategories
    let topStores ← db StoreDAO.getTopStoresByCategory
    reply RES_CATEGORY (mainHome 200 categories brandCategories topStores)
  catch _ => reply RES_CATEGORY (mainHome 500 [] [] [])

end CategoryHandler

/-! ### Menus -/

namespace MenuHandler

def menuEntry (text : JsonText D) (row : ResultRow D) : DbProg D (Json D) := do
  let menuId ← DbProg.getInt row "menu_id"
  let menuName ← DbProg.cString row "menu_name"
  let basePrice ← DbProg.getInt row "base_price"
  let isSoldOut ← DbProg.getBoolean row "is_sold_out"
  let menuCategory ← DbProg.cString row "menu_category"
  let isPopular ← DbProg.getBoolean row "is_popular"
  let description ← DbProg.cStringOr row "description" ""
  let imageUrl ← DbProg.cStringOr row "image_url" ""
  let menuOptionsStr ← DbProg.cStringOr row "menu_options" "[]"
  pure (.object
    [("menuId", encode menuId), ("menuName", encode menuName), ("basePrice", encode basePrice),
     ("isSoldOut", encode isSoldOut), ("menuCategory", encode menuCategory),
     ("isPopular", encode isPopular), ("description", encode description),
     ("imageUrl", encode imageUrl), ("optionGroups", parseOr text menuOptionsStr)])

def menusOfStore (text : JsonText D) (storeId : Int32) : DbProg D (List (Json D)) := do
  let rows ← DbProg.select
    ("SELECT menu_id, menu_name, base_price, is_sold_out, " ++
     "menu_category, is_popular, description, image_url, menu_options " ++
     "FROM MENUS WHERE store_id = ?") [.int storeId]
  DbProg.forEach (fun _ row => menuEntry text row) 0 rows

def handleMenuListRequest : Page D Unit := do
  let req ← parse text jsonBody
  try
    let storeId ← value text req "storeId" (0 : Int32)
    let menus ← db (menusOfStore text.toJsonText storeId)
    reply RES_MENU_LIST (.object
      [("status", encode (200 : Int32)), ("message", encode "조회 성공"),
       ("storeId", encode storeId), ("menus", .array menus)])
  catch _ => reply RES_MENU_LIST (statusMessage 500 "서버 내부 오류")

def insertMenu : String :=
  "INSERT INTO MENUS (store_id, menu_name, base_price, " ++
  "menu_category, is_popular, description, is_sold_out, menu_options) " ++
  "VALUES (?, ?, ?, ?, ?, ?, 0, ?)"

def updateMenu : String :=
  "UPDATE MENUS SET menu_name=?, base_price=?, " ++
  "menu_category=?, is_popular=?, description=?, is_sold_out=?, menu_options=? " ++
  "WHERE menu_id=? AND store_id=?"

/-- What each kind of edit does, and whether it is one. -/
def edit (req : Json D) (storeId actionType : Int32) : Page D Bool := do
  let menuData := MenuEdit.menuData req
  if actionType = 0 then
    db (DbProg.prepareStatement insertMenu)
    let data ← ofExcept (text.convert (MenuEdit.readData text.toJsonText menuData))
    let _ ← db (DbProg.executeUpdate insertMenu
      [.int storeId, .string data.menuName, .int data.basePrice, .string data.menuCategory,
       .boolean data.isPopular, .string data.description, .string data.menuOptions])
    pure true
  else if actionType = 1 then
    let menuId ← value text menuData "menuId" (0 : Int32)
    db (DbProg.prepareStatement updateMenu)
    let data ← ofExcept (text.convert (MenuEdit.readData text.toJsonText menuData))
    let isSoldOut ← value text menuData "isSoldOut" false
    let _ ← db (DbProg.executeUpdate updateMenu
      [.string data.menuName, .int data.basePrice, .string data.menuCategory,
       .boolean data.isPopular, .string data.description, .boolean isSoldOut,
       .string data.menuOptions, .int menuId, .int storeId])
    pure true
  else if actionType = 2 then
    let menuId ← value text menuData "menuId" (0 : Int32)
    let _ ← db (DbProg.update "DELETE FROM MENUS WHERE menu_id=? AND store_id=?"
      [.int menuId, .int storeId])
    pure true
  else
    pure false

def handleMenuEdit : Page D Unit := do
  let req ← parse text jsonBody
  try
    let storeId ← value text req "storeId" (0 : Int32)
    let actionType ← value text req "actionType" (-1 : Int32)
    let ok ← edit text req storeId actionType
    reply RES_MENU_EDIT
      (if ok then statusMessage 200 "메뉴 변경 완료" else statusMessage 400 "잘못된 actionType")
  catch _ => reply RES_MENU_EDIT (statusMessage 500 "서버 내부 오류")

def handleMenuSoldOut : Page D Unit := do
  let req ← parse text jsonBody
  try
    let menuId ← value text req "menuId" (0 : Int32)
    let isSoldOut ← value text req "isSoldOut" false
    let ok ← db (executeUpdate "UPDATE MENUS SET is_sold_out=? WHERE menu_id=?"
      [if isSoldOut then "1" else "0", toString menuId.toInt])
    reply RES_MENU_SOLD_OUT
      (if ok then statusMessage 200 "품절 상태 변경 완료" else statusMessage 500 "DB 오류")
  catch _ => reply RES_MENU_SOLD_OUT (statusMessage 500 "서버 내부 오류")

def handleMenuOption : Page D Unit := do
  try
    let req ← parse text jsonBody
    let req ← ofExcept (text.convert (ReqMenuOptionDTO.fromJson req))
    let optionGroups ← db (MenuDAO.getMenuOptionsParsed text.toJsonText req.menuId)
    reply RES_MENU_OPTION (ResMenuOptionDTO.toJson ⟨200, req.menuId, optionGroups⟩)
  catch _ => reply RES_MENU_OPTION (ResMenuOptionDTO.toJson ⟨500, 0, []⟩)

end MenuHandler

end Pages

end ItsBedalyo
