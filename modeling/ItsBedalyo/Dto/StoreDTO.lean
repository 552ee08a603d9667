import ItsBedalyo.Lib.Json

/-!
# Menus and their options on the wire: `StoreDTO.h`

`OptionItem`, `OptionGroup` and `MenuDTO` with their conversions from and to JSON. An option is
converted by `NLOHMANN_DEFINE_TYPE_INTRUSIVE`, which asks for every field; the other two
conversions are written by hand.
-/

namespace ItsBedalyo.Dto

variable {D : Type} [Double D]

/-! ### Options -/

/-- `OptionItem`. -/
structure OptionItem where
  optionId : Int32
  optionName : String
  additionalPrice : Int32
  displayOrder : Int32
  deriving DecidableEq

namespace OptionItem

def toJson (dto : OptionItem) : Json D := .object
  [("optionId", encode dto.optionId),
   ("optionName", encode dto.optionName),
   ("additionalPrice", encode dto.additionalPrice),
   ("displayOrder", encode dto.displayOrder)]

def fromJson (j : Json D) : Except JsonError OptionItem := do
  let optionId ← j.get "optionId"
  let optionName ← j.get "optionName"
  let additionalPrice ← j.get "additionalPrice"
  let displayOrder ← j.get "displayOrder"
  pure { optionId, optionName, additionalPrice, displayOrder }

instance : JsonCodec D OptionItem := ⟨toJson, fromJson⟩

theorem fromJson_toJson (v : OptionItem) : fromJson (toJson v : Json D) = .ok v := by
  simp [fromJson, toJson, List.lookup_cons]

instance : LawfulCodec D OptionItem := ⟨fromJson_toJson⟩

end OptionItem

/-- `OptionGroup`. -/
structure OptionGroup where
  groupId : Int32
  groupName : String
  isRequired : Bool
  maxCount : Int32
  displayOrder : Int32
  options : List OptionItem
  deriving DecidableEq

namespace OptionGroup

def toJson (dto : OptionGroup) : Json D := .object
  [("groupId", encode dto.groupId),
   ("groupName", encode dto.groupName),
   ("isRequired", encode dto.isRequired),
   ("maxCount", encode dto.maxCount),
   ("displayOrder", encode dto.displayOrder),
   ("options", encode dto.options)]

def fromJson (j : Json D) : Except JsonError OptionGroup := do
  let groupId ← j.get "groupId"
  let groupName ← j.get "groupName"
  let isRequired ← j.value "isRequired" false
  let maxCount ← j.value "maxCount" 1
  let displayOrder ← j.value "displayOrder" 99
  let options ← j.get "options"
  pure { groupId, groupName, isRequired, maxCount, displayOrder, options }

instance : JsonCodec D OptionGroup := ⟨toJson, fromJson⟩

theorem fromJson_toJson (v : OptionGroup) : fromJson (toJson v : Json D) = .ok v := by
  simp [fromJson, toJson, List.lookup_cons]

instance : LawfulCodec D OptionGroup := ⟨fromJson_toJson⟩

end OptionGroup

/-! ### The options of a menu -/

/-- `ReqMenuOptionDTO`. -/
structure ReqMenuOptionDTO where
  menuId : Int32
  deriving DecidableEq

namespace ReqMenuOptionDTO

def fromJson (j : Json D) : Except JsonError ReqMenuOptionDTO := do
  let menuId ← j.get "menuId"
  pure { menuId }

end ReqMenuOptionDTO

/-- `ResMenuOptionDTO`. -/
structure ResMenuOptionDTO where
  status : Int32
  menuId : Int32
  optionGroups : List OptionGroup
  deriving DecidableEq

/-! ### Menus -/

/-- `MenuDTO`. -/
structure MenuDTO where
  menuId : Int32
  menuName : String
  basePrice : Int32
  isSoldOut : Bool
  description : String
  imageUrl : String
  menuCategory : String
  isPopular : Bool
  optionGroups : List OptionGroup
  deriving DecidableEq

namespace MenuDTO

def toJson (dto : MenuDTO) : Json D := .object
  [("menuId", encode dto.menuId),
   ("menuName", encode dto.menuName),
   ("basePrice", encode dto.basePrice),
   ("isSoldOut", encode dto.isSoldOut),
   ("isPopular", encode dto.isPopular),
   ("description", encode dto.description),
   ("imageUrl", encode dto.imageUrl),
   ("menuCategory", encode dto.menuCategory),
   ("optionGroups", encode dto.optionGroups)]

/-- Options that are missing, or no array, are none. -/
def optionGroupsOf (j : Json D) : Except JsonError (List OptionGroup) :=
  match j.find "optionGroups" with
  | some groups => if groups.isArray then decode groups else .ok []
  | none => .ok []

def fromJson (j : Json D) : Except JsonError MenuDTO := do
  let menuId ← j.value "menuId" 0
  let menuName ← j.value "menuName" ""
  let basePrice ← j.value "basePrice" 0
  let isSoldOut ← j.value "isSoldOut" false
  let isPopular ← j.value "isPopular" false
  let description ← j.value "description" ""
  let imageUrl ← j.value "imageUrl" ""
  let menuCategory ← j.value "menuCategory" "기본 메뉴"
  let optionGroups ← optionGroupsOf j
  pure { menuId, menuName, basePrice, isSoldOut, description, imageUrl, menuCategory, isPopular,
         optionGroups }

instance : JsonCodec D MenuDTO := ⟨toJson, fromJson⟩

theorem fromJson_toJson (v : MenuDTO) : fromJson (toJson v : Json D) = .ok v := by
  have hgroups : optionGroupsOf (toJson v : Json D) = .ok v.optionGroups :=
    decode_encode v.optionGroups
  rw [fromJson, hgroups]
  simp [toJson, List.lookup_cons]

instance : LawfulCodec D MenuDTO := ⟨fromJson_toJson⟩

end MenuDTO

end ItsBedalyo.Dto
