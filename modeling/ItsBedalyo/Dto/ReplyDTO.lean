import ItsBedalyo.Dto.RequestDTO
import ItsBedalyo.Dto.StoreDTO

/-!
# Replies of the pages: `AddressDTO.h`, `ResearchDTO.h`, `AdminDTO.h`, `OrderDTO.h`, `BaseDTO.h`

What the handlers that answer with lists and records write, in the one direction in which the
server converts them. Fields that nobody sets before a reply goes out are left out of it.
-/

namespace ItsBedalyo.Dto

variable {D : Type} [Double D]

/-- A vector of values that `to_json` converts. -/
def arrayOf {α : Type} (toJson : α → Json D) (l : List α) : Json D := .array (l.map toJson)

/-- `TopStoreInfo`. -/
structure TopStoreInfo (D : Type) where
  storeId : Int32 := 0
  storeName : String := ""
  category : String := ""
  brandName : String := ""
  minOrderPrice : Int32 := 0
  deliveryTime : String := ""
  deliveryFee : Int32 := 0
  iconPath : String := ""
  deliveryTimeRange : String := ""
  pickupTime : String := ""
  rating : D
  reviewCount : Int32 := 0
  minOrderAmount : Int32 := 0
  grade : String := ""

def TopStoreInfo.toJson (dto : TopStoreInfo D) : Json D := .object
  [("storeId", encode dto.storeId),
   ("storeName", encode dto.storeName),
   ("category", encode dto.category),
   ("brandName", encode dto.brandName),
   ("minOrderPrice", encode dto.minOrderPrice),
   ("deliveryTime", encode dto.deliveryTime),
   ("deliveryFee", encode dto.deliveryFee),
   ("iconPath", encode dto.iconPath),
   ("deliveryTimeRange", encode dto.deliveryTimeRange),
   ("pickupTime", encode dto.pickupTime),
   ("rating", encode dto.rating),
   ("reviewCount", encode dto.reviewCount),
   ("minOrderAmount", encode dto.minOrderAmount),
   ("grade", encode dto.grade)]

/-- `AddressItemDTO`. -/
structure AddressItemDTO where
  addressId : Int32
  address : String
  detail : String
  guide : String
  label : String
  isDefault : Bool

def AddressItemDTO.toJson (dto : AddressItemDTO) : Json D := .object
  [("addressId", encode dto.addressId),
   ("address", encode dto.address),
   ("detail", encode dto.detail),
   ("guide", encode dto.guide),
   ("label", encode dto.label),
   ("isDefault", encode dto.isDefault)]

/-- `PopularKeyword`. -/
structure PopularKeyword where
  rank : Int32
  keyword : String

def PopularKeyword.toJson (dto : PopularKeyword) : Json D := .object
  [("rank", encode dto.rank), ("keyword", encode dto.keyword)]

/-- `RecentSearch`. -/
structure RecentSearch where
  historyId : Int32
  keyword : String
  searchDate : String

def RecentSearch.toJson (dto : RecentSearch) : Json D := .object
  [("historyId", encode dto.historyId),
   ("keyword", encode dto.keyword),
   ("searchDate", encode dto.searchDate)]

/-- `OrderHistoryItemDTO`. -/
structure OrderHistoryItemDTO where
  orderId : String
  storeId : Int32
  storeName : String
  menuName : String
  totalPrice : Int32
  status : Int32
  menuSummary : String
  createdAt : String
  deliveryPhotoUrl : String

def OrderHistoryItemDTO.toJson (dto : OrderHistoryItemDTO) : Json D := .object
  [("orderId", encode dto.orderId),
   ("storeId", encode dto.storeId),
   ("storeName", encode dto.storeName),
   ("menuName", encode dto.menuName),
   ("totalPrice", encode dto.totalPrice),
   ("status", encode dto.status),
   ("menuSummary", encode dto.menuSummary),
   ("createdAt", encode dto.createdAt),
   ("deliveryPhotoUrl", encode dto.deliveryPhotoUrl)]

/-- `AdminOrderDTO`. -/
structure AdminOrderDTO where
  orderId : String
  userId : String
  totalPrice : Int32
  orderStatus : Int32
  createdAt : String

def AdminOrderDTO.toJson (dto : AdminOrderDTO) : Json D := .object
  [("orderId", encode dto.orderId),
   ("userId", encode dto.userId),
   ("totalPrice", encode dto.totalPrice),
   ("orderStatus", encode dto.orderStatus),
   ("createdAt", encode dto.createdAt)]

/-- `ResCheckoutInfoDTO`, which the handler value-initialises. -/
structure ResCheckoutInfoDTO where
  status : Int32
  customerGrade : String := ""
  cardNumber : String := ""
  accountNumber : String := ""
  userPoint : Int32 := 0
  userAddress : String := ""
  appliedDeliveryFee : Int32 := 0
  minOrderAmount : Int32 := 0
  deliveryFee : Int32 := 0
  storeAddress : String := ""
  pickupTime : String := ""
  totalPrice : Int32 := 0

def ResCheckoutInfoDTO.toJson (dto : ResCheckoutInfoDTO) : Json D := .object
  [("status", encode dto.status),
   ("customerGrade", encode dto.customerGrade),
   ("cardNumber", encode dto.cardNumber),
   ("accountNumber", encode dto.accountNumber),
   ("userPoint", encode dto.userPoint),
   ("userAddress", encode dto.userAddress),
   ("appliedDeliveryFee", encode dto.appliedDeliveryFee),
   ("minOrderAmount", encode dto.minOrderAmount),
   ("deliveryFee", encode dto.deliveryFee),
   ("storeAddress", encode dto.storeAddress),
   ("pickupTime", encode dto.pickupTime),
   ("totalPrice", encode dto.totalPrice)]

/-- `AuthCheckResDTO`, `PhoneCheckResDTO` and `BizNumCheckResDTO`, which have the same fields. -/
structure CheckResDTO where
  status : Int32
  isAvailable : Bool
  message : String

def CheckResDTO.toJson (dto : CheckResDTO) : Json D := .object
  [("status", encode dto.status),
   ("isAvailable", encode dto.isAvailable),
   ("message", encode dto.message)]

def ResMenuOptionDTO.toJson (dto : ResMenuOptionDTO) : Json D := .object
  [("status", encode dto.status),
   ("menuId", encode dto.menuId),
   ("optionGroups", encode dto.optionGroups)]

/-- The DTOs whose only field is a status. -/
def statusOnly (status : Int32) : Json D := .object [("status", encode status)]

/-- `res["status"]` and `res["message"]`. -/
def statusMessage (status : Int32) (message : String) : Json D := .object
  [("status", encode status), ("message", encode message)]

end ItsBedalyo.Dto
