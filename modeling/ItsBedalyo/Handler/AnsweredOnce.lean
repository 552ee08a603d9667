import ItsBedalyo.Handler.AnsweredPages
import ItsBedalyo.Handler.AnsweredRequests

/-!
# Which requests are answered once: `Dispatcher.cpp`

`Command` has the commands of `_handlerMap` that the protocol pairs with a response, and
`Command.task` the handler registered for each, on a body as it arrives, within the `try` of
`dispatch`, which drops what the handler throws.

A request may end without a response, and it may be answered twice. `Answerable` says when neither
happens, command by command, in terms of the body and of how the calls came out.
-/

namespace ItsBedalyo

open CmdID

variable {D : Type} [Double D]

/-! ### The bodies -/

namespace Dispatcher

/-- `orderId` of a body, `""` if it is missing. -/
def orderIdOf (j : Json D) : Except JsonError String := j.value "orderId" ""

/-- `LoginReqDTO`. -/
def loginReq (j : Json D) : Except JsonError LoginReqDTO := do
  let userId ← j.get "userId"
  let password ← j.get "password"
  let role : Int32 ← j.get "role"
  pure ⟨userId, password, role.toInt⟩

/-- `SignupReqDTO`. -/
def signupReq (j : Json D) : Except JsonError SignupReqDTO := do
  let dto ← Dto.SignupReqDTO.fromJson j
  pure
    { userId := dto.userId, password := dto.password, userName := dto.userName,
      phoneNumber := dto.phoneNumber, role := dto.role.toInt, address := dto.address,
      businessNumber := dto.businessNumber, accountNumber := dto.accountNumber,
      storeName := dto.storeName, category := dto.category, storeAddress := dto.storeAddress }

/-- `ReqGradeUpdateDTO`. -/
def gradeUpdateReq (j : Json D) : Except JsonError ReqGradeUpdateDTO := do
  let userId ← j.get "userId"
  let grade ← j.get "grade"
  let action : Int32 ← j.get "action"
  pure ⟨userId, grade, action.toInt⟩

/-- `OrderAcceptReqDTO`. -/
def orderAcceptReq (j : Json D) : Except JsonError OrderAcceptReqDTO := do
  let orderId ← Dto.fieldWithDefault j "orderId" ""
  let estimatedTime ← Dto.fieldWithDefault j "estimatedTime" (0 : Int32)
  pure ⟨orderId, estimatedTime.toInt⟩

/-- `ReqChangeOrderStateDTO`. -/
def changeOrderStateReq (j : Json D) : Except JsonError ReqChangeOrderStateDTO := do
  let orderId ← Dto.fieldWithDefault j "orderId" ""
  let newState ← Dto.fieldWithDefault j "newState" (0 : Int32)
  pure ⟨orderId, newState.toInt⟩

/-- `ReqCookTimeSetDTO`. -/
def cookTimeSetReq (j : Json D) : Except JsonError ReqCookTimeSetDTO := do
  let orderId ← j.get "orderId"
  let cookTime : Int32 ← j.get "cookTime"
  pure ⟨orderId, cookTime.toInt⟩

/-- `is_number_integer()` and `get<int>()`. -/
def integerOf : Json D → Option ℤ
  | .numberInteger n => some n.toInt32.toInt
  | .numberUnsigned n => some n.toInt64.toInt32.toInt
  | _ => none

/-- The elements of `selectedOptions`, if it is an array. -/
def selectedOptions : Json D → Option (List (Option ℤ))
  | .array elems => some (elems.map integerOf)
  | _ => none

/-- `OrderCreateReqDTO`. -/
def orderCreateReq (j : Json D) : Except JsonError OrderCreateReqDTO := do
  let dto ← Dto.OrderCreateReqDTO.fromJson j
  pure
    { userId := dto.userId, storeId := dto.storeId.toInt, totalPrice := dto.totalPrice.toInt,
      deliveryAddress := dto.deliveryAddress,
      items := dto.items.map fun item =>
        ⟨item.menuId.toInt, item.quantity.toInt, item.unitPrice.toInt,
          selectedOptions item.selectedOptions⟩,
      storeRequest := dto.storeRequest, riderRequest := dto.riderRequest }

/-- `ReqChatConnectDTO`. -/
def chatConnectReq (j : Json D) : Except JsonError ReqChatConnectDTO := do
  let userId ← j.get "userId"
  let storeId : Int32 ← j.get "storeId"
  pure ⟨userId, storeId.toInt⟩

/-- `ReqChatSendDTO`. -/
def chatSendReq (j : Json D) : Except JsonError ReqChatSendDTO := do
  let roomId : Int32 ← j.get "roomId"
  let senderId ← j.get "senderId"
  let content ← j.get "content"
  pure ⟨roomId.toInt, senderId, content⟩

variable (text : JsonParser D) (jsonBody : String)

/-- A body for the account handlers. -/
def accountBody {α : Type} (decode : Json D → Except JsonError α) : Except Exn α :=
  (text.readAs decode jsonBody).mapError .std

omit [Double D] in
/-- The `what()` of a body that does not parse, where it quotes bytes that are not UTF-8. -/
def garbled : Option String :=
  if text.parse jsonBody = none ∧ text.quotesUtf8 jsonBody = false then
    some (text.parseError jsonBody)
  else none

end Dispatcher

/-! ### The handlers -/

/-- A handler with what its calls may do. -/
structure DispatchTask where
  {Op : Type}
  {Res : Op → Type}
  {ε : Type}
  interface : Interface Res ε Tally
  handler : Prog Res ε Unit

namespace DispatchTask

def page (p : Page D Unit) : DispatchTask := ⟨pageTally, p⟩

def status (garbled : Option String) (p : StatusHandler Unit) : DispatchTask :=
  ⟨statusTally garbled, p⟩

def account {Reply : Type} (cmdId : CmdID) (p : AccountDao Reply Unit) : DispatchTask :=
  ⟨accountTally cmdId, p⟩

def conn (p : ConnProg Unit) : DispatchTask := ⟨connTally, p⟩

/-- `dispatch` can end so: `try { handler(session, jsonBody); } catch (const std::exception &e)`. -/
def Ends (task : DispatchTask) (t : Tally) : Prop :=
  ∃ r, task.interface.Runs (tryCatch task.handler fun _ => pure ()) {} r t

/-- What the `try` of `dispatch` drops has no part in it. -/
theorem Ends.count_iff {task : DispatchTask} {cmdId : CmdID} {p : Outcomes → Prop} {t : Tally}
    (hends : task.Ends t) (hpre : ∀ g o, task.interface.pre g o)
    (h : AnsweredIff task.interface task.handler cmdId p) :
    t.sent.count cmdId = 1 ↔ p t.outcomes := by
  obtain ⟨r, hruns⟩ := hends
  have hwp : task.interface.wp (tryCatch task.handler fun _ => pure ())
      (fun _ t => t.sent.count cmdId = 1 ↔ p t.outcomes) {} := by
    refine (Interface.wp_tryCatch _ _).mpr (Interface.wp_mono (fun r t hr => ?_) h)
    cases r <;> exact hr
  exact (Interface.wp_iff_forall_runs hpre).mp hwp r t hruns

end DispatchTask

/-- The commands of `_handlerMap` with a response of their own. -/
inductive Command
  | heartbeat
  | signup
  | login
  | logout
  | authCheck
  | phoneCheck
  | bizNumCheck
  | orderList
  | storeList
  | storeDetail
  | menuList
  | storeInfoUpdate
  | storeStatusSet
  | menuEdit
  | menuSoldOut
  | orderReject
  | checkoutInfo
  | orderCreate
  | orderAccept
  | menuOption
  | changeOrderState
  | orderHistory
  | orderHistorySearch
  | cookTimeSet
  | pickup
  | orderDetail
  | reviewList
  | reviewReply
  | salesStat
  | menuReviewList
  | addressSave
  | addressList
  | addressDelete
  | addressUpdate
  | addressDefault
  | researchWidget
  | researchAdd
  | researchDelete
  | researchDelAll
  | searchStore
  | gradeUpdate
  | chatConnect
  | chatSend
  | riderOrderList
  | deliveryComplete
  | adminInit
  | adminOrderList
  | cancel
  deriving DecidableEq

namespace Command

/-- `RES_…`. -/
def resId : Command → CmdID
  | heartbeat => RES_HEARTBEAT
  | signup => RES_SIGNUP
  | login => RES_LOGIN
  | logout => RES_LOGOUT
  | authCheck => RES_AUTH_CHECK
  | phoneCheck => RES_PHONE_CHECK
  | bizNumCheck => RES_BUISNESS_NUM_CHECK
  | orderList => RES_ORDER_LIST
  | storeList => RES_STORE_LIST
  | storeDetail => RES_STORE_DETAIL
  | menuList => RES_MENU_LIST
  | storeInfoUpdate => RES_STORE_INFO_UPDATE
  | storeStatusSet => RES_STORE_STATUS_SET
  | menuEdit => RES_MENU_EDIT
  | menuSoldOut => RES_MENU_SOLD_OUT
  | orderReject => RES_ORDER_REJECT
  | checkoutInfo => RES_CHECKOUT_INFO
  | orderCreate => RES_ORDER_CREATE
  | orderAccept => RES_ORDER_ACCEPT
  | menuOption => RES_MENU_OPTION
  | changeOrderState => RES_CHANGE_ORDER_STATE
  | orderHistory => RES_ORDER_HISTORY
  | orderHistorySearch => RES_ORDER_HISTORY_SEARCH
  | cookTimeSet => RES_COOK_TIME_SET
  | pickup => RES_PICKUP
  | orderDetail => RES_ORDER_DETAIL
  | reviewList => RES_REVIEW_LIST
  | reviewReply => RES_REVIEW_REPLY
  | salesStat => RES_SALES_STAT
  | menuReviewList => RES_MENU_REVIEW_LIST
  | addressSave => RES_ADDRESS_SAVE
  | addressList => RES_ADDRESS_LIST
  | addressDelete => RES_ADDRESS_DELETE
  | addressUpdate => RES_ADDRESS_UPDATE
  | addressDefault => RES_ADDRESS_DEFAULT
  | researchWidget => RES_RESEARCH_WIDGET
  | researchAdd => RES_RESEARCH_ADD
  | researchDelete => RES_RESEARCH_DELETE
  | researchDelAll => RES_RESEARCH_DEL_ALL
  | searchStore => RES_SEARCH_STORE
  | gradeUpdate => RES_GRADE_UPDATE
  | chatConnect => RES_CHAT_CONNECT
  | chatSend => RES_CHAT_SEND
  | riderOrderList => RES_RIDER_ORDER_LIST
  | deliveryComplete => RES_DELIVERY_COMPLETE
  | adminInit => RES_ADMIN_INIT
  | adminOrderList => RES_ADMIN_ORDER_LIST
  | cancel => RES_CANCEL

open Dispatcher

variable (text : JsonParser D) (jsonBody : String)

/-- The handler in `_handlerMap`, with the body. -/
def task : Command → DispatchTask
  | heartbeat => .page (Pages.SystemHandler.handleHeartbeat : Page D Unit)
  | signup => .account RES_SIGNUP (UserHandler.handleSignup (accountBody text jsonBody signupReq))
  | login => .conn (UserHandler.handleLogin (text.readAs loginReq jsonBody))
  | logout => .conn UserHandler.handleLogout
  | authCheck => .page (Pages.UserHandler.handleAuthCheck text jsonBody)
  | phoneCheck => .page (Pages.UserHandler.handlePhoneCheck text jsonBody)
  | bizNumCheck => .page (Pages.UserHandler.handleBizNumCheck text jsonBody)
  | orderList => .page (Pages.OrderHandler.handleOrderList text jsonBody)
  | storeList => .page (Pages.StoreHandler.handleStoreListRequest text jsonBody)
  | storeDetail => .page (Pages.StoreHandler.handleStoreDetailReq text jsonBody)
  | menuList => .page (Pages.MenuHandler.handleMenuListRequest text jsonBody)
  | storeInfoUpdate => .page (Pages.StoreHandler.handleStoreInfoUpdateReq text jsonBody)
  | storeStatusSet => .page (Pages.StoreHandler.handleStoreStatusSet text jsonBody)
  | menuEdit => .page (Pages.MenuHandler.handleMenuEdit text jsonBody)
  | menuSoldOut => .page (Pages.MenuHandler.handleMenuSoldOut text jsonBody)
  | orderReject =>
    .status none (OrderHandler.handleOrderReject (text.readAs orderIdOf jsonBody)).lift
  | checkoutInfo => .page (Pages.OrderHandler.handleCheckoutInfo text jsonBody)
  | orderCreate =>
    .status (garbled text jsonBody)
      (OrderHandler.handleCreateOrder (text.readAs orderCreateReq jsonBody)).lift
  | orderAccept =>
    .status (garbled text jsonBody)
      (OrderHandler.handleOrderAccept (text.readAs orderAcceptReq jsonBody)).lift
  | menuOption => .page (Pages.MenuHandler.handleMenuOption text jsonBody)
  | changeOrderState =>
    .status none
      (OrderHandler.handleChangeOrderState (text.readAs changeOrderStateReq jsonBody)).lift
  | orderHistory => .page (Pages.OrderHandler.handleOrderHistory text jsonBody)
  | orderHistorySearch => .page (Pages.OrderHandler.handleOrderHistorySearch text jsonBody)
  | cookTimeSet =>
    .status none (OrderHandler.handleCookTimeSet (text.readAs cookTimeSetReq jsonBody))
  | pickup => .status none (RiderHandler.handlePickup (text.readAs orderIdOf jsonBody)).lift
  | orderDetail => .page (Pages.OrderHandler.handleOrderDetail text jsonBody)
  | reviewList => .page (Pages.ReviewHandler.handleReviewList text jsonBody)
  | reviewReply => .page (Pages.ReviewHandler.handleReviewReply text jsonBody)
  | salesStat => .page (Pages.SalesHandler.handleSalesStat text jsonBody)
  | menuReviewList => .page (Pages.ReviewHandler.handleMenuReviewList text jsonBody)
  | addressSave => .page (Pages.AddressHandler.handleAddressSave text jsonBody)
  | addressList => .page (Pages.AddressHandler.handleAddressList text jsonBody)
  | addressDelete => .page (Pages.AddressHandler.handleAddressDelete text jsonBody)
  | addressUpdate => .page (Pages.AddressHandler.handleAddressUpdate text jsonBody)
  | addressDefault => .page (Pages.AddressHandler.handleAddressDefault text jsonBody)
  | researchWidget => .page (Pages.SearchHandler.handleSearchWidgetReq text jsonBody)
  | researchAdd => .page (Pages.SearchHandler.handleSearchAddReq text jsonBody)
  | researchDelete => .page (Pages.SearchHandler.handleSearchDeleteReq text jsonBody)
  | researchDelAll => .page (Pages.SearchHandler.handleSearchDelAllReq text jsonBody)
  | searchStore => .page (Pages.SearchHandler.handleSearchStoreReq text jsonBody)
  | gradeUpdate =>
    .account RES_GRADE_UPDATE
      (UserHandler.handleGradeUpdate (accountBody text jsonBody gradeUpdateReq))
  | chatConnect =>
    .conn (ConnProg.chat
      (ChatHandler.handleChatRequest (text.readAs chatConnectReq jsonBody)))
  | chatSend =>
    .conn (ConnProg.chat (ChatHandler.handleChatSend (text.readAs chatSendReq jsonBody)))
  | riderOrderList => .page (Pages.RiderHandler.handleRiderOrderList : Page D Unit)
  | deliveryComplete =>
    .status none (RiderHandler.handleDeliveryComplete (text.readAs orderIdOf jsonBody)).lift
  | adminInit => .page (Pages.AdminHandler.handleAdminInit text jsonBody)
  | adminOrderList => .page (Pages.AdminHandler.handleAdminOrderList text jsonBody)
  | cancel => .status none (OrderHandler.handleCancel (text.readAs orderIdOf jsonBody)).lift

/-- When a request of the command is answered once. -/
def Answerable (command : Command) (o : Outcomes) : Prop :=
  match command with
  | login => IsOk (text.readAs loginReq jsonBody)
  | orderList | menuList | menuEdit | menuSoldOut | reviewList | reviewReply | salesStat
  | menuReviewList => IsOk (text.read jsonBody)
  | orderCreate => garbled text jsonBody = none ∧ o.lookupFailed = o.unrecovered
  | orderAccept => garbled text jsonBody = none ∧ o.unrecovered = false
  | cookTimeSet => o.lookupFailed = false
  | pickup => IsOk (text.readAs orderIdOf jsonBody) ∧ o.failed = false
  | orderDetail => ¬(o.splitText = true ∧ o.failed = false)
  | researchWidget | researchDelAll => IsOk (text.readAs Pages.SearchHandler.readUserId jsonBody)
  | researchAdd => IsOk (text.readAs Pages.SearchHandler.readSearch jsonBody)
  | researchDelete => IsOk (text.readAs Pages.SearchHandler.readHistory jsonBody)
  | searchStore => IsOk (text.readAs Pages.SearchHandler.readKeyword jsonBody)
  | gradeUpdate => o.unrecovered = false
  | chatConnect => IsOk (text.readAs chatConnectReq jsonBody) ∧ o.nobody = false
  | chatSend => IsOk (text.readAs chatSendReq jsonBody) ∧ o.noRoom = false
  | adminInit => IsOk (text.readAs Pages.AdminHandler.readAdmin jsonBody)
  | cancel => o.noRows = false ∧ o.lookupFailed = false
  | _ => True

/-! ### Answering once -/

/-- Nothing is asked of any call. -/
theorem task_pre (command : Command) (t : Tally) (o : (command.task text jsonBody).Op) :
    (command.task text jsonBody).interface.pre t o := by
  cases command <;> exact True.intro

omit [Double D] in
theorem garbled_readAs {α : Type} (decode : Json D → Except JsonError α) :
    ∀ what ∈ garbled text jsonBody, text.readAs decode jsonBody = .error what := by
  intro what hwhat
  unfold garbled at hwhat
  split at hwhat
  · next h =>
    obtain rfl := Option.some.inj hwhat
    simp only [JsonParser.readAs, JsonParser.read, h.1]
    rfl
  · cases hwhat

theorem task_answered (command : Command) :
    AnsweredIff (command.task text jsonBody).interface (command.task text jsonBody).handler
      command.resId (command.Answerable text jsonBody) := by
  cases command with
  | heartbeat => exact Pages.SystemHandler.handleHeartbeat_answers.answeredIff
  | signup => exact handleSignup_answers _
  | login => exact handleLogin_answers _
  | logout => exact handleLogout_answers
  | authCheck => exact (Pages.UserHandler.handleAuthCheck_answers text jsonBody).answeredIff
  | phoneCheck => exact (Pages.UserHandler.handlePhoneCheck_answers text jsonBody).answeredIff
  | bizNumCheck => exact (Pages.UserHandler.handleBizNumCheck_answers text jsonBody).answeredIff
  | orderList => exact Pages.OrderHandler.handleOrderList_answers text jsonBody
  | storeList => exact (Pages.StoreHandler.handleStoreListRequest_answers text jsonBody).answeredIff
  | storeDetail => exact (Pages.StoreHandler.handleStoreDetailReq_answers text jsonBody).answeredIff
  | menuList => exact Pages.MenuHandler.handleMenuListRequest_answers text jsonBody
  | storeInfoUpdate =>
    exact (Pages.StoreHandler.handleStoreInfoUpdateReq_answers text jsonBody).answeredIff
  | storeStatusSet =>
    exact (Pages.StoreHandler.handleStoreStatusSet_answers text jsonBody).answeredIff
  | menuEdit => exact Pages.MenuHandler.handleMenuEdit_answers text jsonBody
  | menuSoldOut => exact Pages.MenuHandler.handleMenuSoldOut_answers text jsonBody
  | orderReject => exact handleOrderReject_answers _
  | checkoutInfo => exact (Pages.OrderHandler.handleCheckoutInfo_answers text jsonBody).answeredIff
  | orderCreate => exact handleCreateOrder_answers _ (garbled_readAs text jsonBody _)
  | orderAccept => exact handleOrderAccept_answers _ (garbled_readAs text jsonBody _)
  | menuOption => exact (Pages.MenuHandler.handleMenuOption_answers text jsonBody).answeredIff
  | changeOrderState => exact handleChangeOrderState_answers _
  | orderHistory => exact (Pages.OrderHandler.handleOrderHistory_answers text jsonBody).answeredIff
  | orderHistorySearch =>
    exact (Pages.OrderHandler.handleOrderHistorySearch_answers text jsonBody).answeredIff
  | cookTimeSet => exact handleCookTimeSet_answers _
  | pickup => exact handlePickup_answers _
  | orderDetail => exact Pages.OrderHandler.handleOrderDetail_answers text jsonBody
  | reviewList => exact Pages.ReviewHandler.handleReviewList_answers text jsonBody
  | reviewReply => exact Pages.ReviewHandler.handleReviewReply_answers text jsonBody
  | salesStat => exact Pages.SalesHandler.handleSalesStat_answers text jsonBody
  | menuReviewList => exact Pages.ReviewHandler.handleMenuReviewList_answers text jsonBody
  | addressSave => exact (Pages.AddressHandler.handleAddressSave_answers text jsonBody).answeredIff
  | addressList => exact (Pages.AddressHandler.handleAddressList_answers text jsonBody).answeredIff
  | addressDelete =>
    exact (Pages.AddressHandler.handleAddressDelete_answers text jsonBody).answeredIff
  | addressUpdate =>
    exact (Pages.AddressHandler.handleAddressUpdate_answers text jsonBody).answeredIff
  | addressDefault =>
    exact (Pages.AddressHandler.handleAddressDefault_answers text jsonBody).answeredIff
  | researchWidget => exact Pages.SearchHandler.handleSearchWidgetReq_answers text jsonBody
  | researchAdd => exact Pages.SearchHandler.handleSearchAddReq_answers text jsonBody
  | researchDelete => exact Pages.SearchHandler.handleSearchDeleteReq_answers text jsonBody
  | researchDelAll => exact Pages.SearchHandler.handleSearchDelAllReq_answers text jsonBody
  | searchStore => exact Pages.SearchHandler.handleSearchStoreReq_answers text jsonBody
  | gradeUpdate => exact handleGradeUpdate_answers _
  | chatConnect => exact handleChatRequest_answers _
  | chatSend => exact handleChatSend_answers _
  | riderOrderList => exact Pages.RiderHandler.handleRiderOrderList_answers.answeredIff
  | deliveryComplete => exact handleDeliveryComplete_answers _
  | adminInit => exact Pages.AdminHandler.handleAdminInit_answers text jsonBody
  | adminOrderList =>
    exact (Pages.AdminHandler.handleAdminOrderList_answers text jsonBody).answeredIff
  | cancel => exact handleCancel_answers _

/-! ### An order that is not there, and a lookup that fails -/

/-- A body that names an order. -/
def sampleBody : String := "\x7b\"orderId\":\"ORD-1\",\"cookTime\":20\x7d"

/-- A JSON library that knows two texts. -/
def sampleText : JsonParser Float where
  parse s :=
    if s = "[]" then some (.array [])
    else if s = sampleBody then
      some (.object [("orderId", .string "ORD-1"), ("cookTime", .numberInteger 20)])
    else none
  dump _ := ""
  parse_brackets := rfl
  nul_not_mem_dump := JsonText.nul_not_mem_empty
  parseError _ := "parse error"
  quotesUtf8 _ := true
  conversionError _ := "type error"

/-- The cancellation of an order that is not there. -/
theorem cancel_ends_sample :
    (cancel.task sampleText sampleBody).Ends { outcomes := { noRows := true } } :=
  ⟨.ok (), .ok (), {}, rfl, .ok (0 : ℕ), _, rfl, rfl, rfl⟩

/-- A cooking time, where the store of the order cannot be looked up. -/
theorem cookTimeSet_ends_sample :
    (cookTimeSet.task sampleText sampleBody).Ends
      ⟨[RES_COOK_TIME_SET, RES_COOK_TIME_SET], { lookupFailed := true }⟩ :=
  ⟨.ok (), .ok (), {}, rfl, .ok none, {}, rfl, .ok (), _, rfl, .ok "", _, rfl,
    .error "Lost connection to server during query", _, rfl, .ok (), _, rfl, rfl, rfl⟩

end Command

end ItsBedalyo
