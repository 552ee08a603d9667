import ItsBedalyo.Database.Queries
import ItsBedalyo.Dto.StoreDTO
import ItsBedalyo.Dto.StoreDetailDTO
import Mathlib.Data.List.Nodup

/-!
# Menus and their options: `MenuHandler.cpp`, `MenuDAO.cpp`, `StoreDAO.cpp`

A row of `MENUS` keeps the options of the menu as a text. `handleMenuEdit` writes there whatever
the request has under `optionGroups`, without a look at it; `handleMenuListRequest` and
`getStoreDetail` answer with what the text parses to, and `getMenuOptionsParsed` converts that to
`OptionGroup`s.

The parser of JSON and its inverse are a parameter, `JsonText`. Statements that raise no
exception of their own are functions of the tables; for those that write, a flag says whether
the server refuses them.
-/

namespace ItsBedalyo

open Dto

variable {D : Type} [Double D]

/-- `json::parse`, which throws where there is no value here, and `dump`, which escapes a NUL. -/
structure JsonText (D : Type) where
  parse : String → Option (Json D)
  dump : Json D → String
  parse_brackets : parse "[]" = some (.array [])
  nul_not_mem_dump : ∀ j, '\x00' ∉ (dump j).toList

omit [Double D] in
/-- For a `dump` whose text is of no account. -/
theorem JsonText.nul_not_mem_empty (_ : Json D) : '\x00' ∉ "".toList := List.not_mem_nil

/-! ### Tables -/

/-- A row of `MENUS`. -/
structure MenuRow where
  menuId : Int32
  storeId : Int32
  menuName : String
  basePrice : Int32
  menuOptions : Option String
  isSoldOut : Bool
  description : Option String
  imageUrl : Option String
  menuCategory : Option String
  isPopular : Bool
  deriving DecidableEq

/-- `MENUS`, with its primary key. -/
structure MenuTable where
  rows : List MenuRow
  nodup : (rows.map (·.menuId)).Nodup

/-- What the query for a store finds: its row in `STORES`, with what `USERS` and `OWNERS` have of
its owner. -/
structure StoreDetailRow (D : Type) where
  storeId : Int32
  storeName : String
  category : Option String
  brandName : Option String
  storeAddress : Option String
  openTime : String
  closeTime : String
  deliveryFee : Int32
  minOrderAmount : Int32
  rating : Option D
  reviewCount : Int32
  imageUrl : Option String
  deliveryTimeRange : Option String
  pickupTime : Option String
  phoneNumber : Option String
  representativeName : Option String
  businessNumber : Option String

/-- A row of `REVIEWS`. -/
structure ReviewRow where
  reviewId : Int32
  orderId : String
  userId : String
  storeId : Int32
  menuId : Int32
  rating : Int32
  content : String
  imageUrl : Option String
  ownerReply : Option String
  createdAt : String

structure MenuDb (D : Type) where
  menus : MenuTable
  stores : List (StoreDetailRow D)
  reviews : List ReviewRow

namespace MenuTable

variable (t : MenuTable)

/-- `INSERT INTO MENUS`, unless the key is taken. -/
def insert (row : MenuRow) : Option MenuTable :=
  if h : row.menuId ∈ t.rows.map (·.menuId) then none
  else some ⟨row :: t.rows, List.nodup_cons.mpr ⟨h, t.nodup⟩⟩

/-- `UPDATE MENUS` where the condition holds; no statement sets the key. -/
def update (cond : MenuRow → Bool) (set : MenuRow → MenuRow)
    (hkey : ∀ row, (set row).menuId = row.menuId) : MenuTable where
  rows := t.rows.map fun row => if cond row then set row else row
  nodup := by
    have hsame : (t.rows.map fun row => if cond row then set row else row).map (·.menuId) =
        t.rows.map (·.menuId) := by
      rw [List.map_map]
      refine List.map_congr_left fun row _ => ?_
      simp only [Function.comp]
      split
      · exact hkey row
      · rfl
    rw [hsame]
    exact t.nodup

/-- `DELETE FROM MENUS` where the condition holds. -/
def delete (cond : MenuRow → Bool) : MenuTable where
  rows := t.rows.filter fun row => !cond row
  nodup := t.nodup.sublist (List.filter_sublist.map _)

end MenuTable

/-! ### Writers -/

/-- What an edit sets in a row. -/
structure MenuData where
  menuName : String
  basePrice : Int32
  menuCategory : String
  isPopular : Bool
  description : String
  menuOptions : String

/-- What a request for an edit asks for, by its `actionType`. -/
inductive MenuEdit
  | add (storeId : Int32) (data : MenuData)
  | modify (storeId menuId : Int32) (data : MenuData) (isSoldOut : Bool)
  | delete (storeId menuId : Int32)
  | invalid

namespace MenuEdit

/-- The text that is stored for the options. -/
def menuOptionsStr (text : JsonText D) (menuData : Json D) : String :=
  match menuData.find "optionGroups" with
  | some optionGroups => text.dump optionGroups
  | none => "[]"

def readData (text : JsonText D) (menuData : Json D) : Except JsonError MenuData := do
  let menuName ← menuData.value "menuName" ""
  let basePrice ← menuData.value "basePrice" 0
  let menuCategory ← menuData.value "menuCategory" "기본 메뉴"
  let isPopular ← menuData.value "isPopular" false
  let description ← menuData.value "description" ""
  pure { menuName, basePrice, menuCategory, isPopular, description,
         menuOptions := menuOptionsStr text menuData }

/-- `req["menuData"]`. -/
def menuData (req : Json D) : Json D := (req.find "menuData").getD .null

def read (text : JsonText D) (req : Json D) : Except JsonError MenuEdit := do
  let storeId ← req.value "storeId" (0 : Int32)
  let actionType ← req.value "actionType" (-1 : Int32)
  if actionType = 0 then
    let data ← readData text (menuData req)
    pure (.add storeId data)
  else if actionType = 1 then
    let menuId ← (menuData req).value "menuId" 0
    let data ← readData text (menuData req)
    let isSoldOut ← (menuData req).value "isSoldOut" false
    pure (.modify storeId menuId data isSoldOut)
  else if actionType = 2 then
    let menuId ← (menuData req).value "menuId" 0
    pure (.delete storeId menuId)
  else
    pure .invalid

/-- The row that an `INSERT` adds. -/
def newRow (storeId newId : Int32) (data : MenuData) : MenuRow where
  menuId := newId
  storeId := storeId
  menuName := data.menuName
  basePrice := data.basePrice
  menuOptions := some data.menuOptions
  isSoldOut := false
  description := some data.description
  imageUrl := none
  menuCategory := some data.menuCategory
  isPopular := data.isPopular

/-- What an `UPDATE` makes of a row. -/
def setRow (data : MenuData) (isSoldOut : Bool) (row : MenuRow) : MenuRow :=
  { row with
    menuName := data.menuName
    basePrice := data.basePrice
    menuCategory := some data.menuCategory
    isPopular := data.isPopular
    description := some data.description
    isSoldOut := isSoldOut
    menuOptions := some data.menuOptions }

/-- The statement of an edit; `newId` is the key that the server gives a new row. -/
def execute (newId : Int32) (t : MenuTable) : MenuEdit → Option MenuTable
  | add storeId data => t.insert (newRow storeId newId data)
  | modify storeId menuId data isSoldOut =>
    some (t.update (fun row => row.menuId = menuId ∧ row.storeId = storeId)
      (setRow data isSoldOut) fun _ => rfl)
  | delete storeId menuId =>
    some (t.delete fun row => row.menuId = menuId ∧ row.storeId = storeId)
  | invalid => some t

end MenuEdit

namespace MenuHandler

/-- `handleMenuEdit`: the status of the reply, none where the exception leaves the handler, and
the menus afterwards. -/
def handleMenuEdit (text : JsonText D) (refused : Bool) (newId : Int32) (jsonBody : String)
    (t : MenuTable) : Option Int32 × MenuTable :=
  match text.parse jsonBody with
  | none => (none, t)
  | some req =>
    match MenuEdit.read text req with
    | .error _ => (some 500, t)
    | .ok .invalid => (some 400, t)
    | .ok edit =>
      if refused then (some 500, t)
      else
        match edit.execute newId t with
        | some t' => (some 200, t')
        | none => (some 500, t)

/-- `handleMenuSoldOut`. -/
def handleMenuSoldOut (text : JsonText D) (refused : Bool) (jsonBody : String) (t : MenuTable) :
    Option Int32 × MenuTable :=
  match text.parse jsonBody with
  | none => (none, t)
  | some req =>
    let sent : Except JsonError (Int32 × Bool) := do
      let menuId ← req.value "menuId" 0
      let isSoldOut ← req.value "isSoldOut" false
      pure (menuId, isSoldOut)
    match sent with
    | .error _ => (some 500, t)
    | .ok (menuId, isSoldOut) =>
      if refused then (some 500, t)
      else (some 200, t.update (fun row => row.menuId = menuId)
        (fun row => { row with isSoldOut := isSoldOut }) fun _ => rfl)

/-! ### Readers -/

/-- An element of `menus`. -/
structure MenuEntry (D : Type) where
  menuId : Int32
  menuName : String
  basePrice : Int32
  isSoldOut : Bool
  menuCategory : String
  isPopular : Bool
  description : String
  imageUrl : String
  optionGroups : Json D

/-- The reply to a request for the menus; one with an error has no `storeId` and no `menus`. -/
structure ResMenuList (D : Type) where
  status : Int32
  message : String
  storeId : Int32 := 0
  menus : List (MenuEntry D) := []

/-- `json::parse` of the options, with the empty array where there are none or they do not
parse. -/
def parsedOptions (text : JsonText D) (row : MenuRow) : Json D :=
  (text.parse ((row.menuOptions.map cStr).getD "[]")).getD (.array [])

def menuEntry (text : JsonText D) (row : MenuRow) : MenuEntry D where
  menuId := row.menuId
  menuName := cStr row.menuName
  basePrice := row.basePrice
  isSoldOut := row.isSoldOut
  menuCategory := (row.menuCategory.map cStr).getD ""
  isPopular := row.isPopular
  description := (row.description.map cStr).getD ""
  imageUrl := (row.imageUrl.map cStr).getD ""
  optionGroups := parsedOptions text row

/-- `handleMenuListRequest`. -/
def handleMenuListRequest (text : JsonText D) (jsonBody : String) (db : MenuDb D) :
    Option (ResMenuList D) :=
  (text.parse jsonBody).map fun req =>
    match req.value "storeId" 0 with
    | .error _ => { status := 500, message := "서버 내부 오류" }
    | .ok storeId =>
      { status := 200
        message := "조회 성공"
        storeId := storeId
        menus := (db.menus.rows.filter (·.storeId = storeId)).map (menuEntry text) }

end MenuHandler

namespace StoreDAO

open MenuHandler (parsedOptions)

def storeData (row : StoreDetailRow D) : StoreDataDTO D where
  storeId := row.storeId
  storeName := cStr row.storeName
  storeAddress := (row.storeAddress.map cStr).getD ""
  operatingHours := cStr row.openTime ++ " ~ " ++ cStr row.closeTime
  deliveryFees := toString row.deliveryFee.toInt ++ "원"
  isOpen := true
  imageUrl := (row.imageUrl.map cStr).getD ""
  minOrderAmount := row.minOrderAmount
  rating := row.rating.getD Double.zero
  reviewCount := row.reviewCount
  deliveryTimeRange := (row.deliveryTimeRange.map cStr).getD "30~45분"
  pickupTime := (row.pickupTime.map cStr).getD "10~15분"
  brandName := (row.brandName.map cStr).getD ""
  category := (row.category.map cStr).getD ""
  phoneNumber := (row.phoneNumber.map cStr).getD "정보 없음"
  representativeName := (row.representativeName.map cStr).getD "정보 없음"
  businessNumber := (row.businessNumber.map cStr).getD "정보 없음"

def menuData (text : JsonText D) (storeId : Int32) (row : MenuRow) : MenuDataDTO D where
  menuId := row.menuId
  storeId := storeId
  menuName := cStr row.menuName
  basePrice := row.basePrice
  isSoldOut := row.isSoldOut
  description := (row.description.map cStr).getD ""
  imageUrl := (row.imageUrl.map cStr).getD ""
  menuCategory := (row.menuCategory.map cStr).getD "기본 메뉴"
  isPopular := row.isPopular
  optionGroups := parsedOptions text row
  reviewContent := ""

/-- The name of a reviewed menu comes from `MENUS`, which may no longer have it. -/
def review (menus : List MenuRow) (row : ReviewRow) : ReviewDTO where
  reviewId := row.reviewId
  orderId := cStr row.orderId
  userId := cStr row.userId
  storeId := row.storeId
  menuId := row.menuId
  menuName := ((menus.find? (·.menuId = row.menuId)).map fun menu => cStr menu.menuName).getD
    "삭제된 메뉴"
  rating := row.rating
  content := cStr row.content
  imageUrl := (row.imageUrl.map cStr).getD ""
  ownerReply := (row.ownerReply.map cStr).getD ""
  createdAt := cStr row.createdAt

/-- `getStoreDetail`. -/
def getStoreDetail (text : JsonText D) (storeId : Int32) (db : MenuDb D) : ResStoreDetailDTO D :=
  match db.stores.find? (·.storeId = storeId) with
  | none =>
    { status := 404, storeData := .fresh, menuList := [], reviewList := [], storeAddress := "" }
  | some row =>
    { status := 200
      storeData := storeData row
      menuList := (db.menus.rows.filter (·.storeId = storeId)).map (menuData text storeId)
      reviewList := ((db.reviews.filter (·.storeId = storeId)).mergeSort
        fun r r' => r'.createdAt ≤ r.createdAt).map (review db.menus.rows)
      storeAddress := "" }

end StoreDAO

namespace MenuDAO

/-- `getMenuOptionsParsed`: whatever goes wrong, there are no options. -/
def getMenuOptionsParsed (text : JsonText D) (menuId : Int32) (t : MenuTable) :
    List OptionGroup :=
  match t.rows.find? (·.menuId = menuId) with
  | none => []
  | some row =>
    match text.parse ((row.menuOptions.map cStr).getD "[]") with
    | none => []
    | some j =>
      match (decode j : Except JsonError (List OptionGroup)) with
      | .ok groups => groups
      | .error _ => []

end MenuDAO

namespace MenuHandler

/-- `handleMenuOption`. -/
def handleMenuOption (text : JsonText D) (jsonBody : String) (db : MenuDb D) : ResMenuOptionDTO :=
  match (text.parse jsonBody).map ReqMenuOptionDTO.fromJson with
  | some (.ok req) =>
    { status := 200
      menuId := req.menuId
      optionGroups := MenuDAO.getMenuOptionsParsed text req.menuId db.menus }
  | _ => { status := 500, menuId := 0, optionGroups := [] }

end MenuHandler

end ItsBedalyo
