import ItsBedalyo.Handler.OrderHandler
import ItsBedalyo.Handler.RiderHandler

/-!
# Concurrent order requests

Any number of order requests, each run by its handler on its own connection, one operation at
a time and in any interleaving. `τ` names the calls; nothing limits how many there are, and
requests that come one after the other are one of the interleavings.
-/

namespace ItsBedalyo

/-- The requests that write orders, with their parsed bodies. -/
inductive OrderRequest
  | createOrder (body : Except String OrderCreateReqDTO)
  | orderAccept (body : Except String OrderAcceptReqDTO)
  | changeOrderState (body : Except String ReqChangeOrderStateDTO)
  | pickup (body : Except String String)
  | deliveryComplete (body : Except String String)
  | orderReject (body : Except String String)
  | cancel (body : Except String String)

namespace OrderRequest

/-- The handler `Dispatcher` has registered for the request. -/
def handle : OrderRequest → Handler Unit
  | createOrder body => OrderHandler.handleCreateOrder body
  | orderAccept body => OrderHandler.handleOrderAccept body
  | changeOrderState body => OrderHandler.handleChangeOrderState body
  | pickup body => RiderHandler.handlePickup body
  | deliveryComplete body => RiderHandler.handleDeliveryComplete body
  | orderReject body => OrderHandler.handleOrderReject body
  | cancel body => OrderHandler.handleCancel body

/-- An accept request. -/
def isAccept : OrderRequest → Bool
  | orderAccept _ => true
  | _ => false

/-- The unconditional status update a request asks for: the order's id and the status. -/
def statusUpdate : OrderRequest → Option (String × ℤ)
  | changeOrderState (.ok req) => some (req.orderId, req.newState)
  | pickup (.ok orderId) => some (orderId, 2)
  | deliveryComplete (.ok orderId) => some (orderId, 3)
  | orderReject (.ok orderId) => some (orderId, 9)
  | cancel (.ok orderId) => some (orderId, 9)
  | _ => none

/-- An accept request asks for no unconditional update. -/
theorem isAccept_eq_false {q : OrderRequest} {u : String × ℤ} (h : q.statusUpdate = some u) :
    q.isAccept = false := by
  cases q <;> simp_all [statusUpdate, isAccept]

end OrderRequest

/-- The requests being handled, and the world. -/
abbrev OrderSystem (τ κ : Type*) := Threads τ Op.Res String (World τ κ)

namespace OrderSystem

variable {τ κ : Type*} [DecidableEq τ] [DecidableEq κ] (key : String → κ)

/-- Every call is at the beginning of its handler. -/
def init (request : τ → OrderRequest) (tables : Tables κ) : OrderSystem τ κ :=
  ⟨fun t => (request t).handle, .init tables, [], []⟩

/-- One call performs its next operation. -/
def step (s : OrderSystem τ κ) (a : τ × Env) : Option (OrderSystem τ κ) :=
  Threads.step (exec key) s a

end OrderSystem

end ItsBedalyo
