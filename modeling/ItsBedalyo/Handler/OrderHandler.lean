import ItsBedalyo.Handler.Operations
import Mathlib.Data.String.Basic

/-!
# The order handlers: `OrderHandler.cpp`

The handlers that write orders, on the parsed body of their request: `.error what` stands for a
body that `json::parse` or the DTO's `get` rejects, which throws inside the handler's `try`.
The JSON library itself is not modelled, nor what the handlers print.

`handleOrderAccept` and `handleCreateOrder` open a transaction; the others run their `UPDATE`
in autocommit mode.
-/

namespace ItsBedalyo

/-- `OrderAcceptReqDTO`. -/
structure OrderAcceptReqDTO where
  orderId : String
  estimatedTime : ℤ

/-- `ReqChangeOrderStateDTO`. -/
structure ReqChangeOrderStateDTO where
  orderId : String
  newState : ℤ

/-- `OrderItemDTO`. `selectedOptions` is arbitrary JSON: its elements if it is an array, with
`none` for those that are no integers. -/
structure OrderItemDTO where
  menuId : ℤ
  quantity : ℤ
  unitPrice : ℤ
  selectedOptions : Option (List (Option ℤ))

/-- `OrderCreateReqDTO`. -/
structure OrderCreateReqDTO where
  userId : String
  storeId : ℤ
  totalPrice : ℤ
  deliveryAddress : String
  items : List OrderItemDTO
  storeRequest : String
  riderRequest : String

namespace OrderHandler

open Handler Statement

/-- The characters trimmed from an order id. -/
def isBlank (c : Char) : Bool :=
  c = ' ' || c = '\t' || c = '\r' || c = '\n'

/-- `erase` up to `find_first_not_of(" \t\r\n")` and from `find_last_not_of(" \t\r\n") + 1`. -/
def trim (s : String) : String :=
  String.ofList ((s.toList.dropWhile isBlank).reverse.dropWhile isBlank).reverse

/-- `sprintf("%03d", n)`. -/
def pad3 (n : ℕ) : String :=
  String.ofList (List.replicate (3 - (Nat.toDigits 10 n).length) '0' ++ Nat.toDigits 10 n)

/-- `handleOrderAccept`. -/
def handleOrderAccept (body : Except String OrderAcceptReqDTO) : Handler Unit := do
  try
    let req ← Prog.ofExcept body
    throwIf (req.orderId = "") "주문 번호가 누락되었습니다."
    let orderId := trim req.orderId
    setAutoCommit false
    prepareStatement
    let affected ← executeUpdate (acceptOrder orderId)
    throwIf (affected = 0) "이미 처리되었거나 존재하지 않는 주문입니다."
    -- 매출 누적
    prepareStatement
    let _ ← executeUpdate (addSales orderId)
    commit
    setAutoCommit true
    sendPacket { cmdId := CmdID.RES_ORDER_ACCEPT, status := 200,
                 message := "주문 수락이 완료되었습니다.", orderId := orderId }
    let customerId ← getCustomerIdByOrderId orderId
    notify customerId (.orderState orderId 1
      ("사장님이 조리를 시작했습니다! (" ++ toString req.estimatedTime ++ "분 소요 예정)"))
  catch what =>
    rollback
    setAutoCommit true
    sendPacket { cmdId := CmdID.RES_ORDER_ACCEPT, status := 500, message := what, orderId := "" }

/-- The text a customer reads when the order's state changes. -/
def stateMessage (newState : ℤ) : String :=
  if newState = 2 then "주문하신 음식의 조리가 완료되었습니다! 🍳"
  else if newState = 3 then "라이더님이 음식을 픽업하여 배달을 시작했습니다! 🛵💨"
  else if newState = 4 then "배달이 완료되었습니다. 맛있게 드세요! 😋"
  else "주문 상태가 변경되었습니다."

/-- `handleChangeOrderState`. -/
def handleChangeOrderState (body : Except String ReqChangeOrderStateDTO) : Handler Unit := do
  try
    let req ← Prog.ofExcept body
    prepareStatement
    let affected ← executeUpdate (setOrderStatus req.orderId req.newState)
    if affected > 0 then
      sendPacket { cmdId := CmdID.RES_CHANGE_ORDER_STATE, status := 200,
                   message := "주문 상태가 성공적으로 변경되었습니다." }
      let customerId ← getCustomerIdByOrderId req.orderId
      notify customerId (.orderState req.orderId req.newState (stateMessage req.newState))
    else
      throw "주문을 찾을 수 없거나 DB 업데이트에 실패했습니다."
  catch _ =>
    sendPacket { cmdId := CmdID.RES_CHANGE_ORDER_STATE, status := 500,
                 message := "상태 변경 중 서버 오류가 발생했습니다." }

/-- The names of an item's options that are integers and have a name. -/
def optionNames (menuId : ℤ) : List (Option ℤ) → Handler (List String)
  | [] => pure []
  | none :: opts => optionNames menuId opts
  | some optId :: opts => do
    let optName ← getOptionName menuId optId
    let names ← optionNames menuId opts
    pure (if optName ≠ "" then optName :: names else names)

/-- The loop over the items: a row of `ORDER_DETAILS` and an entry of the push for each. -/
def insertItems (newOrderId : String) : List OrderItemDTO → Handler (List PushItem)
  | [] => pure []
  | item :: items => do
    let name ← getMenuName item.menuId
    let menuName := if name = "" then "메뉴 #" ++ toString item.menuId else name
    let options ← optionNames item.menuId (item.selectedOptions.getD [])
    let _ ← executeUpdate (insertDetail
      ⟨newOrderId, item.menuId, menuName, item.quantity, item.unitPrice, options⟩)
    let pushItems ← insertItems newOrderId items
    pure (⟨item.menuId, menuName, item.quantity, item.unitPrice, options⟩ :: pushItems)

/-- The first menu's name, and how many more there are. -/
def menuSummary (items : List PushItem) : String :=
  (items.head?.map PushItem.menuName).getD "" ++
    if items.length > 1 then " 외 " ++ toString (items.length - 1) ++ "건" else ""

/-- `handleCreateOrder`. -/
def handleCreateOrder (body : Except String OrderCreateReqDTO) : Handler Unit := do
  try
    let req ← Prog.ofExcept body
    -- the fee goes into a sum that is compared with `totalPrice` for a warning on stderr
    let _ ← getDeliveryFee req.storeId
    setAutoCommit false
    let now ← localtime
    let randomNum ← rand
    let newOrderId := "ORD-" ++ now.compact ++ "-" ++ pad3 (randomNum % 1000) ++ "-" ++ req.userId
    prepareStatement
    let _ ← executeUpdate (insertOrder newOrderId
      ⟨req.userId, req.storeId, req.totalPrice, 0, req.deliveryAddress, req.storeRequest,
       req.riderRequest⟩)
    prepareStatement
    let pushItems ← insertItems newOrderId req.items
    commit
    setAutoCommit true
    sendPacket { cmdId := CmdID.RES_ORDER_CREATE, status := 0,
                 message := "주문이 성공적으로 생성되었습니다.", orderId := newOrderId }
    let ownerId ← getOwnerIdByStoreId req.storeId
    notify ownerId (.newOrder newOrderId req.deliveryAddress req.totalPrice 0 now.display
      req.storeRequest req.riderRequest (menuSummary pushItems) pushItems)
  catch what =>
    rollback
    setAutoCommit true
    sendPacket { cmdId := CmdID.RES_ORDER_CREATE, status := 1, message := what, orderId := "" }

/-- `handleOrderReject`, on the `orderId` of the body. -/
def handleOrderReject (body : Except String String) : Handler Unit := do
  try
    let orderId ← Prog.ofExcept body
    throwIf (orderId = "") "주문 번호가 누락되었습니다."
    prepareStatement
    let _ ← executeUpdate (setOrderStatus orderId 9)
    sendPacket { cmdId := CmdID.RES_ORDER_REJECT, status := 0, message := "주문 거절 완료",
                 orderId := orderId }
    let customerId ← getCustomerIdByOrderId orderId
    notify customerId (.orderState orderId 9 "죄송합니다. 사장님이 주문을 거절하였습니다.")
  catch _ =>
    sendPacket { cmdId := CmdID.RES_ORDER_REJECT, status := 1, message := "서버 오류",
                 orderId := "" }

/-- `handleCancel`, on the `orderId` of the body. -/
def handleCancel (body : Except String String) : Handler Unit := do
  try
    let orderId ← Prog.ofExcept body
    throwIf (orderId = "") "주문 번호 누락"
    prepareStatement
    let affected ← executeUpdate (setOrderStatus orderId 9)
    if affected > 0 then
      sendPacket { cmdId := CmdID.RES_CANCEL, status := 200, orderId := orderId }
      let customerId ← getCustomerIdByOrderId orderId
      notify customerId (.orderState orderId 9 "관리자에 의해 주문이 취소/환불되었습니다.")
      let storeId ← getStoreIdByOrderId orderId
      let ownerId ← getOwnerIdByStoreId storeId
      notify ownerId (.orderState orderId 9 "관리자가 주문을 취소 처리했습니다.")
  catch _ =>
    sendPacket { cmdId := CmdID.RES_CANCEL, status := 500, message := "취소 처리 중 서버 오류" }

end OrderHandler

end ItsBedalyo
