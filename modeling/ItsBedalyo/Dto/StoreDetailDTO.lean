import ItsBedalyo.Lib.Json

/-!
# Store details on the wire: `StoreDetailDTO.h`

Every conversion here is written by hand. The readers accept a key in camel or in snake case and
have a default for every field. `StoreDataDTO::to_json` writes a `category` that
`StoreDataDTO::from_json` does not read, so what comes back has none.
-/

namespace ItsBedalyo.Dto

variable {D : Type} [Double D]

/-- `StoreDataDTO`. -/
structure StoreDataDTO (D : Type) where
  storeId : Int32
  storeName : String
  storeAddress : String
  operatingHours : String
  deliveryFees : String
  isOpen : Bool
  imageUrl : String
  minOrderAmount : Int32
  rating : D
  reviewCount : Int32
  deliveryTimeRange : String
  pickupTime : String
  brandName : String
  category : String
  phoneNumber : String
  representativeName : String
  businessNumber : String

namespace StoreDataDTO

def toJson (dto : StoreDataDTO D) : Json D := .object
  [("storeId", encode dto.storeId),
   ("storeName", encode dto.storeName),
   ("storeAddress", encode dto.storeAddress),
   ("operatingHours", encode dto.operatingHours),
   ("deliveryFees", encode dto.deliveryFees),
   ("isOpen", encode dto.isOpen),
   ("imageUrl", encode dto.imageUrl),
   ("minOrderAmount", encode dto.minOrderAmount),
   ("rating", encode dto.rating),
   ("reviewCount", encode dto.reviewCount),
   ("deliveryTimeRange", encode dto.deliveryTimeRange),
   ("pickupTime", encode dto.pickupTime),
   ("brandName", encode dto.brandName),
   ("category", encode dto.category),
   ("phoneNumber", encode dto.phoneNumber),
   ("representativeName", encode dto.representativeName),
   ("businessNumber", encode dto.businessNumber)]

def fromJson (j : Json D) : Except JsonError (StoreDataDTO D) := do
  let storeId ← j.value₂ "storeId" "store_id" 0
  let storeName ← j.value₂ "storeName" "store_name" ""
  let storeAddress ← j.value₂ "storeAddress" "store_address" ""
  let operatingHours ← j.value₂ "operatingHours" "operating_hours" ""
  let deliveryFees ← j.value₂ "deliveryFees" "delivery_fees" ""
  let isOpen ← j.value₂ "isOpen" "is_open" false
  let imageUrl ← j.value₂ "imageUrl" "image_url" ""
  let minOrderAmount ← j.value₂ "minOrderAmount" "min_order_amount" 0
  let rating ← j.value "rating" (Double.zero : D)
  let reviewCount ← j.value₂ "reviewCount" "review_count" 0
  let deliveryTimeRange ← j.value₂ "deliveryTimeRange" "delivery_time_range" ""
  let pickupTime ← j.value₂ "pickupTime" "pickup_time" ""
  let brandName ← j.value₂ "brandName" "brand_name" "정보 없음"
  let phoneNumber ← j.value₂ "phoneNumber" "phone_number" "정보 없음"
  let representativeName ← j.value₂ "representativeName" "representative_name" "정보 없음"
  let businessNumber ← j.value₂ "businessNumber" "business_number" "정보 없음"
  -- `category` keeps the value of a fresh object
  pure { storeId, storeName, storeAddress, operatingHours, deliveryFees, isOpen, imageUrl,
         minOrderAmount, rating, reviewCount, deliveryTimeRange, pickupTime, brandName,
         category := "", phoneNumber, representativeName, businessNumber }

instance : JsonCodec D (StoreDataDTO D) := ⟨toJson, fromJson⟩

/-- Everything comes back but the category. -/
theorem fromJson_toJson (v : StoreDataDTO D) :
    fromJson (toJson v) = .ok { v with category := "" } := by
  simp [fromJson, toJson, Json.value₂, List.lookup_cons]

theorem decode_encode (v : StoreDataDTO D) :
    decode (encode v : Json D) = .ok { v with category := "" } := fromJson_toJson v

end StoreDataDTO

/-- `MenuDataDTO`. -/
structure MenuDataDTO (D : Type) where
  menuId : Int32
  storeId : Int32
  menuName : String
  basePrice : Int32
  isSoldOut : Bool
  description : String
  imageUrl : String
  menuCategory : String
  isPopular : Bool
  optionGroups : Json D
  reviewContent : String

namespace MenuDataDTO

def toJson (dto : MenuDataDTO D) : Json D := .object
  [("menuId", encode dto.menuId),
   ("storeId", encode dto.storeId),
   ("menuName", encode dto.menuName),
   ("basePrice", encode dto.basePrice),
   ("isSoldOut", encode dto.isSoldOut),
   ("description", encode dto.description),
   ("imageUrl", encode dto.imageUrl),
   ("menuCategory", encode dto.menuCategory),
   ("isPopular", encode dto.isPopular),
   ("optionGroups", encode dto.optionGroups),
   ("reviewContent", encode dto.reviewContent)]

def fromJson (j : Json D) : Except JsonError (MenuDataDTO D) := do
  let menuId ← j.value₂ "menuId" "menu_id" 0
  let storeId ← j.value₂ "storeId" "store_id" 0
  let menuName ← j.value₂ "menuName" "menu_name" ""
  let basePrice ← j.value₂ "basePrice" "base_price" 0
  let isSoldOut ← j.value₂ "isSoldOut" "is_sold_out" false
  let description ← j.value "description" ""
  let imageUrl ← j.value₂ "imageUrl" "image_url" ""
  let menuCategory ← j.value₂ "menuCategory" "menu_category" "기본 메뉴"
  let isPopular ← j.value₂ "isPopular" "is_popular" false
  let optionGroups ← j.value₂ "optionGroups" "option_groups" (.array [] : Json D)
  let reviewContent ← j.value₂ "reviewContent" "review_content" ""
  pure { menuId, storeId, menuName, basePrice, isSoldOut, description, imageUrl, menuCategory,
         isPopular, optionGroups, reviewContent }

instance : JsonCodec D (MenuDataDTO D) := ⟨toJson, fromJson⟩

theorem fromJson_toJson (v : MenuDataDTO D) : fromJson (toJson v) = .ok v := by
  simp [fromJson, toJson, Json.value₂, List.lookup_cons]

instance : LawfulCodec D (MenuDataDTO D) := ⟨fromJson_toJson⟩

end MenuDataDTO

/-- `ReviewDTO`. -/
structure ReviewDTO where
  reviewId : Int32
  orderId : String
  userId : String
  storeId : Int32
  menuId : Int32
  menuName : String
  rating : Int32
  content : String
  imageUrl : String
  ownerReply : String
  createdAt : String

namespace ReviewDTO

def toJson (dto : ReviewDTO) : Json D := .object
  [("reviewId", encode dto.reviewId),
   ("orderId", encode dto.orderId),
   ("userId", encode dto.userId),
   ("storeId", encode dto.storeId),
   ("menuId", encode dto.menuId),
   ("menuName", encode dto.menuName),
   ("rating", encode dto.rating),
   ("content", encode dto.content),
   ("imageUrl", encode dto.imageUrl),
   ("ownerReply", encode dto.ownerReply),
   ("createdAt", encode dto.createdAt)]

def fromJson (j : Json D) : Except JsonError ReviewDTO := do
  let reviewId ← j.value₂ "reviewId" "review_id" 0
  let orderId ← j.value₂ "orderId" "order_id" ""
  let userId ← j.value₂ "userId" "user_id" ""
  let storeId ← j.value₂ "storeId" "store_id" 0
  let menuId ← j.value₂ "menuId" "menu_id" 0
  let menuName ← j.value₂ "menuName" "menu_name" ""
  let rating ← j.value "rating" 0
  let content ← j.value "content" ""
  let imageUrl ← j.value₂ "imageUrl" "image_url" ""
  let ownerReply ← j.value₂ "ownerReply" "owner_reply" ""
  let createdAt ← j.value₂ "createdAt" "created_at" ""
  pure { reviewId, orderId, userId, storeId, menuId, menuName, rating, content, imageUrl,
         ownerReply, createdAt }

instance : JsonCodec D ReviewDTO := ⟨toJson, fromJson⟩

theorem fromJson_toJson (v : ReviewDTO) : fromJson (toJson v : Json D) = .ok v := by
  simp [fromJson, toJson, Json.value₂, List.lookup_cons]

instance : LawfulCodec D ReviewDTO := ⟨fromJson_toJson⟩

end ReviewDTO

/-- `ResStoreDetailDTO`. -/
structure ResStoreDetailDTO (D : Type) where
  status : Int32
  storeData : StoreDataDTO D
  menuList : List (MenuDataDTO D)
  reviewList : List ReviewDTO
  storeAddress : String

/-- `StoreDataDTO` as a member of a fresh object. -/
def StoreDataDTO.fresh : StoreDataDTO D :=
  { storeId := 0, storeName := "", storeAddress := "", operatingHours := "", deliveryFees := "",
    isOpen := false, imageUrl := "", minOrderAmount := 0, rating := Double.zero, reviewCount := 0,
    deliveryTimeRange := "", pickupTime := "", brandName := "", category := "",
    phoneNumber := "", representativeName := "", businessNumber := "" }

namespace ResStoreDetailDTO

def toJson (dto : ResStoreDetailDTO D) : Json D := .object
  [("status", encode dto.status),
   ("storeData", encode dto.storeData),
   ("menuList", encode dto.menuList),
   ("reviewList", encode dto.reviewList),
   ("storeAddress", encode dto.storeAddress)]

def fromJson (j : Json D) : Except JsonError (ResStoreDetailDTO D) := do
  let status ← j.value "status" 0
  let storeData ← if j.contains "storeData" then j.get "storeData" else pure .fresh
  let menuList ← if j.contains "menuList" then j.get "menuList" else pure []
  let reviewList ← if j.contains "reviewList" then j.get "reviewList" else pure []
  let storeAddress ← j.value₂ "storeAddress" "store_address" ""
  pure { status, storeData, menuList, reviewList, storeAddress }

instance : JsonCodec D (ResStoreDetailDTO D) := ⟨toJson, fromJson⟩

/-- Everything comes back but the category of the store. -/
theorem fromJson_toJson (v : ResStoreDetailDTO D) : fromJson (toJson v) =
    .ok { v with storeData := { v.storeData with category := "" } } := by
  simp [fromJson, toJson, Json.value₂, List.lookup_cons, StoreDataDTO.decode_encode]

end ResStoreDetailDTO

/-- `ReqStoreDetailDTO`. -/
structure ReqStoreDetailDTO where
  storeId : Int32
  deriving DecidableEq

namespace ReqStoreDetailDTO

def toJson (dto : ReqStoreDetailDTO) : Json D := .object [("storeId", encode dto.storeId)]

def fromJson (j : Json D) : Except JsonError ReqStoreDetailDTO := do
  let storeId ← j.value₂ "storeId" "store_id" 0
  pure { storeId }

instance : JsonCodec D ReqStoreDetailDTO := ⟨toJson, fromJson⟩

theorem fromJson_toJson (v : ReqStoreDetailDTO) : fromJson (toJson v : Json D) = .ok v := by
  simp [fromJson, toJson, Json.value₂, List.lookup_cons]

instance : LawfulCodec D ReqStoreDetailDTO := ⟨fromJson_toJson⟩

end ReqStoreDetailDTO

end ItsBedalyo.Dto
