import ItsBedalyo.Handler.Operations

/-!
# The rider handlers: `RiderHandler.cpp`

The two rider handlers that write orders, on the `orderId` of their request's body, `.error`
for a body that does not parse. The dispatcher sends `REQ_DELIVERY_COMPLETE` here; the handler
of the same name in `OrderHandler.cpp` is not registered.
-/

namespace ItsBedalyo

namespace RiderHandler

open Handler Statement

/-- The response of `handleDeliveryComplete` when it has caught an exception; `orderId` is
still in it if it had been set. -/
def deliveryCompleteFailed (orderId : Option String) : Handler Unit :=
  sendPacket { cmdId := CmdID.RES_DELIVERY_COMPLETE, status := 500, message := "서버 내부 오류",
               orderId := orderId }

/-- `handleDeliveryComplete`. The response `res` is declared before the `try`, so what follows
the assignment of `res["orderId"]` has its exceptions caught with that field set. -/
def handleDeliveryComplete (body : Except String String) : Handler Unit := do
  try
    let orderId ← Prog.ofExcept body
    if orderId = "" then
      sendPacket { cmdId := CmdID.RES_DELIVERY_COMPLETE, status := 400,
                   message := "orderId가 없습니다." }
    else
      prepareStatement
      let affected ← executeUpdate (setOrderStatus orderId 3)
      if affected > 0 then
        try
          let customerId ← getCustomerIdByOrderId orderId
          notify customerId (.orderState orderId 3 "배달이 완료되었습니다. 맛있게 드세요! 😋")
          let storeId ← getStoreIdByOrderId orderId
          let ownerId ← getOwnerIdByStoreId storeId
          notify ownerId (.orderState orderId 3 "주문하신 상품의 배달이 완료되었습니다!")
          sendPacket { cmdId := CmdID.RES_DELIVERY_COMPLETE, status := 200, orderId := orderId }
        catch _ =>
          deliveryCompleteFailed orderId
      else
        sendPacket { cmdId := CmdID.RES_DELIVERY_COMPLETE, status := 404,
                     message := "해당 주문을 찾을 수 없습니다." }
  catch _ =>
    deliveryCompleteFailed none

/-- `handlePickup`: an exception is only printed. -/
def handlePickup (body : Except String String) : Handler Unit := do
  try
    let orderId ← Prog.ofExcept body
    prepareStatement
    let _ ← executeUpdate (setOrderStatus orderId 2)
    sendPacket { cmdId := CmdID.RES_PICKUP, status := 200, orderId := orderId }
    let storeId ← getStoreIdByOrderId orderId
    let ownerId ← getOwnerIdByStoreId storeId
    notify ownerId (.orderState orderId 2 "라이더가 음식을 픽업했습니다. 배달을 시작합니다!")
    let customerId ← getCustomerIdByOrderId orderId
    notify customerId
      (.orderState orderId 2 "라이더님이 음식을 픽업하여 배달을 시작했습니다! 🛵💨")
  catch _ =>
    pure ()

end RiderHandler

end ItsBedalyo
