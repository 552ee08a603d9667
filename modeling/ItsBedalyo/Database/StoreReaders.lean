import ItsBedalyo.Database.Readers

/-!
# What the pages of stores and menus call: `StoreDAO.cpp`, `MenuDAO.cpp`

`getStoreDetail` fills one object in a single `try`, so that it returns whatever has been filled in
when a call throws. `MenuHandler.lean` has `getStoreDetail` and `getMenuOptionsParsed` as functions
of the tables, for calls that all succeed.
-/

namespace ItsBedalyo.Pages

open DbProg Dto

variable {D : Type} [Double D]

/-- `json::parse` of a stored text, with the empty array where it does not parse. -/
def parseOr (text : JsonText D) (stored : String) : Json D :=
  (text.parse stored).getD (.array [])

namespace StoreDAO

def storeOfCategory (row : ResultRow D) : DbProg D (TopStoreInfo D) := do
  let storeId ← getInt row "store_id"
  let storeName ← cString row "store_name"
  let category ← cString row "category"
  let brandName ← cStringOr row "brand_name" ""
  let iconPath ← cStringOr row "icon_name" ""
  let deliveryTimeRange ← cStringOr row "delivery_time_range" "20~30분"
  let rating ← doubleOr row "rating" Double.zero
  let reviewCount ← intOr row "review_count" 0
  let minOrderAmount ← intOr row "min_order_amount" 0
  let deliveryFee ← intOr row "delivery_fee" 0
  pure { storeId, storeName, category, brandName, iconPath, deliveryTimeRange, rating,
         reviewCount, minOrderAmount, deliveryFee }

/-- `getStoresByCategory`; `brandName` is not used. -/
def getStoresByCategory (categoryId : Int32) (_brandName : String) :
    DbProg D (List (TopStoreInfo D)) :=
  selectEach
    ("SELECT S.store_id, S.store_name, S.category, S.brand_name, C.icon_name, " ++
     "S.delivery_time_range, S.rating, S.review_count, S.min_order_amount, S.delivery_fee " ++
     "FROM STORES S JOIN CATEGORIES C ON S.category = C.name " ++
     "WHERE C.category_id = ? AND S.status = 1 ORDER BY S.total_sales DESC")
    [.int categoryId] fun _ row => storeOfCategory row

def anyStore (row : ResultRow D) : DbProg D (TopStoreInfo D) := do
  let storeId ← getInt row "store_id"
  let storeName ← getString row "store_name"
  let category ← getString row "category"
  let iconPath ← getString row "icon_name"
  let deliveryTimeRange ← getString row "delivery_time_range"
  let rating ← getDouble row "rating"
  let reviewCount ← getInt row "review_count"
  let minOrderAmount ← getInt row "min_order_amount"
  let deliveryFee ← getInt row "delivery_fee"
  pure { storeId, storeName, category, iconPath, deliveryTimeRange, rating, reviewCount,
         minOrderAmount, deliveryFee }

def getAllStores : DbProg D (List (TopStoreInfo D)) :=
  selectEach
    ("SELECT S.store_id, S.store_name, S.category, C.icon_name, " ++
     "S.delivery_time_range, S.rating, S.review_count, S.min_order_amount, S.delivery_fee " ++
     "FROM STORES S JOIN CATEGORIES C ON S.category = C.name ORDER BY S.total_sales DESC")
    [] fun _ row => anyStore row

/-- `getTopStoresByCategory`: the store of each category that has sold the most. -/
def getTopStoresByCategory : DbProg D (List (TopStoreInfo D)) :=
  selectEach
    ("SELECT S.store_id, S.store_name, S.category, C.icon_name, " ++
     "S.delivery_time_range, S.rating, S.review_count, S.min_order_amount, S.delivery_fee " ++
     "FROM (SELECT store_id, store_name, category, total_sales, " ++
     "delivery_time_range, rating, review_count, min_order_amount, delivery_fee, " ++
     "ROW_NUMBER() OVER (PARTITION BY category ORDER BY total_sales DESC) as rnk " ++
     "FROM STORES) as S JOIN CATEGORIES C ON S.category = C.name " ++
     "WHERE S.rnk = 1 ORDER BY S.total_sales DESC")
    [] fun _ row => anyStore row

/-! ### One store -/

/-- A value read into a field of `result`. -/
def fill {α : Type} (read : DbProg D α) (set : α → ResStoreDetailDTO D → ResStoreDetailDTO D) :
    TryBlock D (ResStoreDetailDTO D) Unit := do
  let a ← TryBlock.db read
  TryBlock.assign (set a)

/-- A value read into a field of `result.storeData`. -/
def fillStore {α : Type} (read : DbProg D α) (set : α → StoreDataDTO D → StoreDataDTO D) :
    TryBlock D (ResStoreDetailDTO D) Unit :=
  fill read fun a result => { result with storeData := set a result.storeData }

def readStore (row : ResultRow D) : TryBlock D (ResStoreDetailDTO D) Unit := do
  fillStore (getInt row "store_id") fun a d => { d with storeId := a }
  fillStore (cString row "store_name") fun a d => { d with storeName := a }
  fillStore (cStringOr row "category" "") fun a d => { d with category := a }
  fillStore (cStringOr row "brand_name" "") fun a d => { d with brandName := a }
  fillStore (cStringOr row "pickup_time" "10~15분") fun a d => { d with pickupTime := a }
  fillStore (cStringOr row "store_address" "") fun a d => { d with storeAddress := a }
  fillStore
    (do
      let openTime ← cString row "open_time"
      let closeTime ← cString row "close_time"
      pure (openTime ++ " ~ " ++ closeTime))
    fun a d => { d with operatingHours := a }
  fillStore (getInt row "delivery_fee") fun a d =>
    { d with deliveryFees := toString a.toInt ++ "원", isOpen := true }
  fillStore (cStringOr row "image_url" "") fun a d => { d with imageUrl := a }
  fillStore (getInt row "min_order_amount") fun a d => { d with minOrderAmount := a }
  fillStore (doubleOr row "rating" Double.zero) fun a d => { d with rating := a }
  fillStore (getInt row "review_count") fun a d => { d with reviewCount := a }
  fillStore (cStringOr row "delivery_time_range" "30~45분") fun a d =>
    { d with deliveryTimeRange := a }
  fillStore (cStringOr row "phone_number" "정보 없음") fun a d => { d with phoneNumber := a }
  fillStore (cStringOr row "representative_name" "정보 없음") fun a d =>
    { d with representativeName := a }
  fillStore (cStringOr row "business_number" "정보 없음") fun a d =>
    { d with businessNumber := a }

def menuOfStore (text : JsonText D) (storeId : Int32) (row : ResultRow D) :
    DbProg D (MenuDataDTO D) := do
  let menuId ← getInt row "menu_id"
  let menuName ← cString row "menu_name"
  let basePrice ← getInt row "base_price"
  let isSoldOut ← getBoolean row "is_sold_out"
  let description ← cStringOr row "description" ""
  let imageUrl ← cStringOr row "image_url" ""
  let menuCategory ← cStringOr row "menu_category" "기본 메뉴"
  let isPopular ← getBoolean row "is_popular"
  let optionsStr ← cStringOr row "menu_options" "[]"
  pure { menuId, storeId, menuName, basePrice, isSoldOut, description, imageUrl, menuCategory,
         isPopular, optionGroups := parseOr text optionsStr, reviewContent := "" }

def reviewOfStore (row : ResultRow D) : DbProg D ReviewDTO := do
  let reviewId ← getInt row "review_id"
  let orderId ← cString row "order_id"
  let userId ← cString row "user_id"
  let storeId ← getInt row "store_id"
  let rating ← getInt row "rating"
  let content ← cString row "content"
  let imageUrl ← cStringOr row "image_url" ""
  let ownerReply ← cStringOr row "owner_reply" ""
  let createdAt ← cString row "created_at"
  let menuId ← getInt row "menu_id"
  let menuName ← cStringOr row "menu_name" "삭제된 메뉴"
  pure { reviewId, orderId, userId, storeId, menuId, menuName, rating, content, imageUrl,
         ownerReply, createdAt }

/-- `while (rs->next())` around a `push_back` to a list of `result`. -/
def fillEach {α : Type} (read : ResultRow D → DbProg D α)
    (push : α → ResStoreDetailDTO D → ResStoreDetailDTO D) :
    List (ResultRow D) → TryBlock D (ResStoreDetailDTO D) Unit
  | [] => TryBlock.db next
  | row :: rows => do
    TryBlock.db next
    fill (read row) push
    fillEach read push rows

/-- What happens inside the `try` of `getStoreDetail`. -/
def readDetail (text : JsonText D) (storeId : Int32) : TryBlock D (ResStoreDetailDTO D) Unit := do
  let found ← TryBlock.db
    (select
      ("SELECT S.store_id, S.store_name, S.category, S.brand_name, S.store_address, S.open_time, " ++
       "S.close_time, S.delivery_fee, S.min_order_amount, S.rating, S.review_count, S.image_url, " ++
       "S.delivery_time_range, S.pickup_time, " ++
       "U.phone_number, U.user_name AS representative_name, O.business_number FROM STORES S " ++
       "LEFT JOIN USERS U ON S.owner_id = U.user_id LEFT JOIN OWNERS O ON S.owner_id = O.user_id " ++
       "WHERE S.store_id = ?") [.int storeId])
  match ← TryBlock.db (first found) with
  | none => pure ()
  | some row =>
    TryBlock.assign fun result => { result with status := 200 }
    readStore row
    let menus ← TryBlock.db
      (select
        ("SELECT menu_id, menu_name, base_price, description, image_url, menu_category, " ++
         "is_sold_out, is_popular, menu_options FROM MENUS WHERE store_id = ?") [.int storeId])
    fillEach (menuOfStore text storeId)
      (fun a result => { result with menuList := result.menuList ++ [a] }) menus
    let reviews ← TryBlock.db
      (select
        ("SELECT R.review_id, R.order_id, R.user_id, R.store_id, R.menu_id, R.rating, " ++
         "R.content, R.image_url, R.owner_reply, R.created_at, M.menu_name FROM REVIEWS R " ++
         "LEFT JOIN MENUS M ON R.menu_id = M.menu_id WHERE R.store_id = ? " ++
         "ORDER BY R.created_at DESC") [.int storeId])
    fillEach reviewOfStore
      (fun a result => { result with reviewList := result.reviewList ++ [a] }) reviews

/-- `getStoreDetail`, where `storeData` is what the member of `result` holds when that is
declared. -/
def getStoreDetail (text : JsonText D) (storeData : StoreDataDTO D) (storeId : Int32) :
    DbProg D (ResStoreDetailDTO D) :=
  TryBlock.catchFrom (readDetail text storeId)
    { status := 404, storeData, menuList := [], reviewList := [], storeAddress := "" }

/-- `getDeliveryFee`, which is 0 for a store that is not found, and when a call throws. -/
def getDeliveryFee (storeId : Int32) : DbProg D Int32 :=
  catchSql
    (do
      let rows ← select "SELECT delivery_fee FROM STORES WHERE store_id = ?" [.int storeId]
      match ← first rows with
      | some row => getInt row "delivery_fee"
      | none => pure 0)
    0

end StoreDAO

/-! ### The options of a menu -/

/-- `json::parse` and `get_to`, which leave the groups empty when they throw. -/
def groupsOf (text : JsonText D) (optionsStr : String) : List OptionGroup :=
  match (text.parse optionsStr).map fun j => (decode j : Except JsonError (List OptionGroup)) with
  | some (.ok groups) => groups
  | _ => []

def MenuDAO.getMenuOptionsParsed (text : JsonText D) (menuId : Int32) :
    DbProg D (List OptionGroup) :=
  catchSql
    (do
      let rows ← select "SELECT menu_options FROM MENUS WHERE menu_id = ?" [.int menuId]
      match ← first rows with
      | some row =>
        let optionsStr ← cStringOr row "menu_options" "[]"
        pure (groupsOf text optionsStr)
      | none => pure [])
    []

end ItsBedalyo.Pages
