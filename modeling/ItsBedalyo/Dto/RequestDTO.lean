import ItsBedalyo.Lib.Json

/-!
# Sign-up and order requests on the wire: `AccountDTO.h`, `OrderDTO.h`

`SignupReqDTO` is converted by hand. The two of an order use
`NLOHMANN_DEFINE_TYPE_INTRUSIVE_WITH_DEFAULT`, which takes a field that is missing from a
value-initialised object, and takes all of them from it when the JSON value is `null`. The list of
fields given to the macro for `OrderCreateReqDTO` lacks `couponId`, which is neither written nor
read.
-/

namespace ItsBedalyo.Dto

variable {D : Type} [Double D]

/-- `NLOHMANN_JSON_FROM_WITH_DEFAULT`. -/
def fieldWithDefault {α : Type} [JsonCodec D α] (j : Json D) (key : String) (default : α) :
    Except JsonError α :=
  match j with
  | .null => .ok default
  | j => j.value key default

/-- `SignupReqDTO`. -/
structure SignupReqDTO where
  userId : String
  password : String
  userName : String
  phoneNumber : String
  role : Int32
  address : String
  businessNumber : String
  accountNumber : String
  storeName : String
  category : String
  storeAddress : String
  deriving DecidableEq

namespace SignupReqDTO

def toJson (dto : SignupReqDTO) : Json D := .object
  [("userId", encode dto.userId),
   ("password", encode dto.password),
   ("userName", encode dto.userName),
   ("phoneNumber", encode dto.phoneNumber),
   ("role", encode dto.role),
   ("address", encode dto.address),
   ("businessNumber", encode dto.businessNumber),
   ("accountNumber", encode dto.accountNumber),
   ("storeName", encode dto.storeName),
   ("category", encode dto.category),
   ("storeAddress", encode dto.storeAddress)]

def fromJson (j : Json D) : Except JsonError SignupReqDTO := do
  let userId ← j.get "userId"
  let password ← j.get "password"
  let userName ← j.get "userName"
  let phoneNumber ← j.get "phoneNumber"
  let role ← j.get "role"
  let address ← j.value "address" ""
  let businessNumber ← j.value "businessNumber" ""
  let accountNumber ← j.value "accountNumber" ""
  let storeName ← j.value "storeName" ""
  let category ← j.value "category" ""
  let storeAddress ← j.value "storeAddress" ""
  pure { userId, password, userName, phoneNumber, role, address, businessNumber, accountNumber,
         storeName, category, storeAddress }

instance : JsonCodec D SignupReqDTO := ⟨toJson, fromJson⟩

theorem fromJson_toJson (v : SignupReqDTO) : fromJson (toJson v : Json D) = .ok v := by
  simp [fromJson, toJson, List.lookup_cons]

instance : LawfulCodec D SignupReqDTO := ⟨fromJson_toJson⟩

end SignupReqDTO

/-- `OrderItemDTO`. -/
structure OrderItemDTO (D : Type) where
  menuId : Int32
  quantity : Int32
  unitPrice : Int32
  selectedOptions : Json D
  menuName : String
  options : List String

namespace OrderItemDTO

def toJson (dto : OrderItemDTO D) : Json D := .object
  [("menuId", encode dto.menuId),
   ("quantity", encode dto.quantity),
   ("unitPrice", encode dto.unitPrice),
   ("selectedOptions", encode dto.selectedOptions),
   ("menuName", encode dto.menuName),
   ("options", encode dto.options)]

def fromJson (j : Json D) : Except JsonError (OrderItemDTO D) := do
  let menuId ← fieldWithDefault j "menuId" 0
  let quantity ← fieldWithDefault j "quantity" 0
  let unitPrice ← fieldWithDefault j "unitPrice" 0
  let selectedOptions ← fieldWithDefault j "selectedOptions" .null
  let menuName ← fieldWithDefault j "menuName" ""
  let options ← fieldWithDefault j "options" []
  pure { menuId, quantity, unitPrice, selectedOptions, menuName, options }

instance : JsonCodec D (OrderItemDTO D) := ⟨toJson, fromJson⟩

theorem fromJson_toJson (v : OrderItemDTO D) : fromJson (toJson v) = .ok v := by
  simp [fromJson, toJson, fieldWithDefault, List.lookup_cons]

instance : LawfulCodec D (OrderItemDTO D) := ⟨fromJson_toJson⟩

end OrderItemDTO

/-- `OrderCreateReqDTO`. -/
structure OrderCreateReqDTO (D : Type) where
  userId : String
  storeId : Int32
  totalPrice : Int32
  deliveryAddress : String
  couponId : Int32
  items : List (OrderItemDTO D)
  storeRequest : String
  riderRequest : String

namespace OrderCreateReqDTO

def toJson (dto : OrderCreateReqDTO D) : Json D := .object
  [("userId", encode dto.userId),
   ("storeId", encode dto.storeId),
   ("totalPrice", encode dto.totalPrice),
   ("deliveryAddress", encode dto.deliveryAddress),
   ("storeRequest", encode dto.storeRequest),
   ("riderRequest", encode dto.riderRequest),
   ("items", encode dto.items)]

def fromJson (j : Json D) : Except JsonError (OrderCreateReqDTO D) := do
  let userId ← fieldWithDefault j "userId" ""
  let storeId ← fieldWithDefault j "storeId" 0
  let totalPrice ← fieldWithDefault j "totalPrice" 0
  let deliveryAddress ← fieldWithDefault j "deliveryAddress" ""
  let storeRequest ← fieldWithDefault j "storeRequest" ""
  let riderRequest ← fieldWithDefault j "riderRequest" ""
  let items ← fieldWithDefault j "items" []
  -- `couponId` keeps the value of a fresh object
  pure { userId, storeId, totalPrice, deliveryAddress, couponId := 0, items, storeRequest,
         riderRequest }

instance : JsonCodec D (OrderCreateReqDTO D) := ⟨toJson, fromJson⟩

/-- Everything comes back but the coupon. -/
theorem fromJson_toJson (v : OrderCreateReqDTO D) :
    fromJson (toJson v) = .ok { v with couponId := 0 } := by
  simp [fromJson, toJson, fieldWithDefault, List.lookup_cons]

end OrderCreateReqDTO

end ItsBedalyo.Dto
