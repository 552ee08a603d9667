import ItsBedalyo.Handler.OrderHandler
import ItsBedalyo.Handler.RiderHandler

/-!
# The handlers that write or announce an order's status

`handleCookTimeSet` announces the status 1 without writing it. It makes calls that the other order
handlers do not make, so `StatusOp` has them besides those of `Op`: its query, a lookup and the
broadcast to the riders. The columns that the query reads are not modelled, the environment
supplies them.

`StatusSystem` runs any number of requests to the handlers that write or announce the status of an
order, each on its own connection, in any interleaving.
-/

namespace ItsBedalyo

/-- `ReqCookTimeSetDTO`. -/
structure ReqCookTimeSetDTO where
  orderId : String
  cookTime : ℤ

/-- `NotifyDeliveryCallDTO`. -/
structure NotifyDeliveryCallDTO where
  orderId : String
  pickupAddress : String
  deliveryAddress : String
  deliveryFee : ℤ
  menuSummary : String
  totalPrice : ℤ
  createdAt : String := ""
  deriving DecidableEq

/-- The operations of the handlers. -/
inductive StatusOp
  | base (o : Op)
  /-- `SELECT S.delivery_time_range, S.cook_time FROM STORES S
  JOIN ORDERS O ON S.store_id = O.store_id WHERE O.order_id = ?` -/
  | selectTimes (orderId : String)
  | getDeliveryAddressByOrderId (orderId : String)
  /-- an `int` that nothing was assigned to -/
  | uninitialised
  /-- `broadcastToRole` of a `NOTIFY_DELIVERY_CALL` -/
  | broadcastToRole (role : ℤ) (notice : NotifyDeliveryCallDTO)

/-- The row of `selectTimes`, with `none` for `NULL`. -/
abbrev TimesRow := Option String × Option ℤ

/-- What an operation returns. -/
abbrev StatusOp.Res : StatusOp → Type
  | base o => o.Res
  | selectTimes _ => Option TimesRow
  | getDeliveryAddressByOrderId _ => String
  | uninitialised => ℤ
  | broadcastToRole _ _ => Unit

/-- Code of these handlers. -/
abbrev StatusHandler := Prog StatusOp.Res String

/-- What the environment answers: as to the order handlers, the columns of a row, or what memory
holds. -/
inductive StatusEnv
  | base (e : Env)
  | times (row : TimesRow)
  | memory (n : ℤ)
  deriving DecidableEq

/-- The world, and the calls sent to a role. -/
structure StatusWorld (τ κ : Type*) where
  base : World τ κ
  calls : List (ℤ × NotifyDeliveryCallDTO)

section Semantics

variable {τ κ : Type*} [DecidableEq τ] [DecidableEq κ] (key : String → κ)

/-- The world before the first call. -/
def StatusWorld.init (tables : Tables κ) : StatusWorld τ κ := ⟨⟨.init tables, [], []⟩, []⟩

/-- An operation of call `t`. -/
def statusExec (t : τ) : (o : StatusOp) → StatusEnv → StatusWorld τ κ →
    Option (Except String o.Res × StatusWorld τ κ)
  | .base o, .base e, w => (exec key t o e w.base).map fun rw => (rw.1, { w with base := rw.2 })
  | .selectTimes orderId, .times row, w =>
    if ((w.base.db.tables.orders (key orderId)).bind fun order =>
      w.base.db.tables.stores order.storeId).isSome then some (.ok (some row), w) else none
  | .selectTimes orderId, .base .ok, w =>
    if ((w.base.db.tables.orders (key orderId)).bind fun order =>
      w.base.db.tables.stores order.storeId).isSome then none else some (.ok none, w)
  | .selectTimes _, .base (.fault what), w => some (.error what, w)
  | .getDeliveryAddressByOrderId orderId, .base .ok, w =>
    some (.ok (((w.base.db.tables.orders (key orderId)).map OrderRow.deliveryAddress).getD ""), w)
  | .getDeliveryAddressByOrderId _, .base (.fault what), w => some (.error what, w)
  | .uninitialised, .memory n, w => some (.ok n, w)
  | .broadcastToRole role notice, .base .ok, w =>
    some (.ok (), { w with calls := w.calls ++ [(role, notice)] })
  | _, _, _ => none

end Semantics

/-- The code of an order handler among these. -/
def Handler.lift {α : Type} (p : Handler α) : StatusHandler α := Prog.embed StatusOp.base p

namespace StatusHandler

def selectTimes (orderId : String) : StatusHandler (Option TimesRow) :=
  Prog.op (StatusOp.selectTimes orderId)

def getDeliveryAddressByOrderId (orderId : String) : StatusHandler String :=
  Prog.op (StatusOp.getDeliveryAddressByOrderId orderId)

def uninitialised : StatusHandler ℤ := Prog.op StatusOp.uninitialised

def broadcastToRole (role : ℤ) (notice : NotifyDeliveryCallDTO) : StatusHandler Unit :=
  Prog.op (StatusOp.broadcastToRole role notice)

end StatusHandler

/-- `RES_COOK_TIME_SET`. -/
def CmdID.RES_COOK_TIME_SET : CmdID := 3021

namespace OrderHandler

open Handler StatusHandler

/-- The matches of `\d+`. -/
def digitRuns (s : String) : List (List Char) :=
  (s.toList.splitOnP fun c => !c.isDigit).filter (· ≠ [])

/-- `std::stoi` of digits: it throws for what is no `int`. -/
def stoi (digits : List Char) : Except String ℤ :=
  let n := digits.foldl (fun n c => 10 * n + (c.toNat - '0'.toNat)) 0
  if n ≤ 2147483647 then .ok n else .error "stoi"

/-- `maxTotalTime` after the loop. -/
def maxTotalTime (timeRange : String) : Except String ℤ :=
  (digitRuns timeRange).foldlM (fun maxTotalTime digits => do
    let val ← stoi digits
    pure (if val > maxTotalTime then val else maxTotalTime)) 0

/-- `netDeliveryTime`. -/
def netDeliveryTime : Option TimesRow → Except String ℤ
  | none => .ok 15
  | some (timeRange, cookTime) => do
    let maxTotalTime ← maxTotalTime (timeRange.getD "")
    let net := if maxTotalTime > 0 then maxTotalTime - cookTime.getD 30 else 15
    pure (if net < 10 then 15 else net)

/-- `handleCookTimeSet`. `getStoreDetail` catches what it throws and leaves the field `storeAddress`
of its result empty, which is the one that is read. The `totalPrice` of the call is never set. -/
def handleCookTimeSet (body : Except String ReqCookTimeSetDTO) : StatusHandler Unit := do
  try
    let req ← Prog.ofExcept body
    prepareStatement.lift
    let row ← selectTimes req.orderId
    let net ← Prog.ofExcept (netDeliveryTime row)
    let totalEstimatedTime := req.cookTime + net
    (sendPacket { cmdId := CmdID.RES_COOK_TIME_SET, status := 200,
                  message := "조리 시간이 성공적으로 설정되었습니다." }).lift
    let customerId ← (getCustomerIdByOrderId req.orderId).lift
    (notify customerId (.orderState req.orderId 1
      ("사장님이 조리를 시작했습니다! (약 " ++ toString totalEstimatedTime ++ "분 내 도착 예정 🛵)"))).lift
    let _ ← (getStoreIdByOrderId req.orderId).lift
    let deliveryAddress ← StatusHandler.getDeliveryAddressByOrderId req.orderId
    let totalPrice ← StatusHandler.uninitialised
    broadcastToRole 2
      { orderId := req.orderId, pickupAddress := "", deliveryAddress := deliveryAddress,
        deliveryFee := 3500, menuSummary := "조리 완료까지 " ++ toString req.cookTime ++ "분 남음",
        totalPrice }
  catch _ =>
    (sendPacket { cmdId := CmdID.RES_COOK_TIME_SET, status := 500,
                  message := "서버 내부 오류로 설정에 실패했습니다." }).lift

end OrderHandler

/-! ### Concurrent requests -/

/-- The requests that write or announce the status of an order, with their parsed bodies. -/
inductive StatusRequest
  | orderAccept (body : Except String OrderAcceptReqDTO)
  | changeOrderState (body : Except String ReqChangeOrderStateDTO)
  | cookTimeSet (body : Except String ReqCookTimeSetDTO)
  | orderReject (body : Except String String)
  | cancel (body : Except String String)
  | pickup (body : Except String String)
  | deliveryComplete (body : Except String String)

/-- The handler `Dispatcher` has registered for the request. -/
def StatusRequest.handle : StatusRequest → StatusHandler Unit
  | orderAccept body => (OrderHandler.handleOrderAccept body).lift
  | changeOrderState body => (OrderHandler.handleChangeOrderState body).lift
  | cookTimeSet body => OrderHandler.handleCookTimeSet body
  | orderReject body => (OrderHandler.handleOrderReject body).lift
  | cancel body => (OrderHandler.handleCancel body).lift
  | pickup body => (RiderHandler.handlePickup body).lift
  | deliveryComplete body => (RiderHandler.handleDeliveryComplete body).lift

/-- The requests being handled, and the world. -/
abbrev StatusSystem (τ κ : Type*) := Threads τ StatusOp.Res String (StatusWorld τ κ)

namespace StatusSystem

variable {τ κ : Type*} [DecidableEq τ] [DecidableEq κ] (key : String → κ)

/-- Every call is at the beginning of its handler. -/
def init (request : τ → StatusRequest) (tables : Tables κ) : StatusSystem τ κ :=
  ⟨fun t => (request t).handle, .init tables⟩

/-- One call performs its next operation. -/
def step (s : StatusSystem τ κ) (a : τ × StatusEnv) : Option (StatusSystem τ κ) :=
  Threads.step (statusExec key) s a

end StatusSystem

end ItsBedalyo
