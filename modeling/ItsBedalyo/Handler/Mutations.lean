import ItsBedalyo.Handler.AnsweredOnce
import ItsBedalyo.Handler.ReadPaths

/-!
# Does success mean that a row was hit?

Nine handlers change or delete the row that their request names, and each treats the number of rows
that its statement has matched in its own way. `honest` handlers report a failure when there is no
such row, `mute` ones do not answer then, and `blind` ones report success all the same: some drop
the number themselves, some call a DAO function that does.

`Mutation.effects` is what a request comes to when no call throws, as its handler computes it, and
`Mutation.comes` what that is by the kind of the handler.
-/

namespace ItsBedalyo

open Dispatcher

variable {D : Type}

/-- What a request comes to: for each reply whether it reports success, and how many rows each
update has matched. -/
structure Effects where
  verdicts : List Bool
  rows : List ℕ

/-- There is one reply, and it reports success exactly if a row was hit. -/
def Effects.Fits (e : Effects) : Prop := e.verdicts = [decide (∃ n ∈ e.rows, 0 < n)]

/-- What a handler does with the number of rows. -/
inductive Policy
  | honest
  | mute
  | blind
  deriving DecidableEq

/-- The replies, where a statement has matched `rows` rows. -/
def Policy.verdicts (rows : ℕ) : Policy → List Bool
  | honest => [decide (0 < rows)]
  | mute => if 0 < rows then [true] else []
  | blind => [true]

theorem Policy.fits_iff {policy : Policy} {rows : ℕ} :
    Effects.Fits ⟨policy.verdicts rows, [rows]⟩ ↔ policy = honest ∨ 0 < rows := by
  rcases Nat.eq_zero_or_pos rows with rfl | hrows
  · cases policy <;> simp [Effects.Fits, verdicts]
  · cases policy <;> simp [Effects.Fits, verdicts, hrows]

/-! ### What a run without exceptions comes to -/

/-- A reply of a handler of orders. -/
@[simp] def Op.verdict (success : ℤ) : Op → Option Bool
  | .sendPacket response => some (decide (response.status = success))
  | _ => none

/-- The rows that an update of a handler of orders matches. -/
@[simp] def Op.matched (answer : (o : Op) → o.Res) : Op → Option ℕ
  | .executeUpdate stmt => some (answer (.executeUpdate stmt))
  | _ => none

/-- A handler of orders, whose success is the status `success`. -/
def orderEffects (success : ℤ) (answer : (o : Op) → o.Res) (p : Handler Unit) : Effects where
  verdicts := (p.eval answer).2.filterMap (Op.verdict success)
  rows := (p.eval answer).2.filterMap (Op.matched answer)

/-- A body with status 200. -/
def reportsOk [Double D] (body : Json D) : Bool :=
  match (body.get "status" : Except JsonError Int32) with
  | .ok status => status = 200
  | .error _ => false

/-- A reply of a page. -/
@[simp] def PageOp.verdict [Double D] : PageOp D → Option Bool
  | .sendPacket _ (some body) => some (reportsOk body)
  | _ => none

/-- The rows that an update of a page matches. -/
@[simp] def PageOp.matched (answer : (o : PageOp D) → o.Res) : PageOp D → Option ℕ
  | .db (.executeUpdate query params) => some (answer (.db (.executeUpdate query params)))
  | _ => none

/-- A page. -/
def pageEffects [Double D] (answer : (o : PageOp D) → o.Res) (p : Page D Unit) : Effects where
  verdicts := (p.eval answer).2.filterMap PageOp.verdict
  rows := (p.eval answer).2.filterMap (PageOp.matched answer)

/-! ### The requests -/

/-- The requests that change one row. A menu is changed or deleted through the same handler, which
also inserts menus. -/
inductive Mutation
  | orderReject
  | cancel
  | changeOrderState
  | pickup
  | deliveryComplete
  | menuEdit
  | menuSoldOut
  | storeStatusSet
  | reviewReply
  deriving DecidableEq

/-- What the calls answer; the updates how many rows their conditions match. -/
structure MutationDb (D : Type) where
  order : (o : Op) → o.Res
  page : (o : PageOp D) → o.Res

/-- The statement of an edit. -/
def MenuEdit.statement : MenuEdit → Option (String × List SqlParam)
  | add storeId data => some (Pages.MenuHandler.insertMenu,
      [.int storeId, .string data.menuName, .int data.basePrice, .string data.menuCategory,
       .boolean data.isPopular, .string data.description, .string data.menuOptions])
  | modify storeId menuId data isSoldOut => some (Pages.MenuHandler.updateMenu,
      [.string data.menuName, .int data.basePrice, .string data.menuCategory,
       .boolean data.isPopular, .string data.description, .boolean isSoldOut,
       .string data.menuOptions, .int menuId, .int storeId])
  | delete storeId menuId =>
    some ("DELETE FROM MENUS WHERE menu_id=? AND store_id=?", [.int menuId, .int storeId])
  | invalid => none

namespace Mutation

variable [Double D]

/-- A body of `handleMenuSoldOut`, as its statement. -/
def soldOutStatement (req : Json D) : Except JsonError (Option (String × List SqlParam)) := do
  let menuId ← req.value "menuId" (0 : Int32)
  let isSoldOut ← req.value "isSoldOut" false
  pure (some ("UPDATE MENUS SET is_sold_out=? WHERE menu_id=?",
    [.string (if isSoldOut then "1" else "0"), .string (toString menuId.toInt)]))

/-- A body of `handleStoreStatusSet`. -/
def statusStatement (req : Json D) : Except JsonError (Option (String × List SqlParam)) := do
  let storeId ← req.value "storeId" (0 : Int32)
  let status ← req.value "status" (-1 : Int32)
  pure (if storeId = 0 ∨ status = -1 then none
    else some ("UPDATE STORES SET status=? WHERE store_id=?",
      [.string (toString status.toInt), .string (toString storeId.toInt)]))

/-- A body of `handleReviewReply`. -/
def replyStatement (req : Json D) : Except JsonError (Option (String × List SqlParam)) := do
  let reviewId ← req.value "reviewId" (0 : Int32)
  let storeId ← req.value "storeId" (0 : Int32)
  let ownerReply ← req.value "ownerReply" ""
  pure (if reviewId = 0 ∨ storeId = 0 ∨ ownerReply = "" then none
    else some ("UPDATE REVIEWS SET owner_reply = ? WHERE review_id = ? AND store_id = ?",
      [.string ownerReply, .int reviewId, .int storeId]))

/-- The rows that an order's statement matches; handlers that check it refuse an empty `orderId`. -/
def orderRows (answer : (o : Op) → o.Res) (status : ℤ) (checked : Bool) (orderId : String) :
    Option ℕ :=
  if checked = true ∧ orderId = "" then none
  else some (answer (.executeUpdate (.setOrderStatus orderId status)))

/-- The rows that the statement of a page matches. -/
def pageRows (answer : (o : PageOp D) → o.Res) (stmt : Option (String × List SqlParam)) :
    Option ℕ :=
  stmt.map fun stmt => answer (.db (.executeUpdate stmt.1 stmt.2))

variable (text : JsonParser D) (jsonBody : String) (db : MutationDb D)

def effects : Mutation → Effects
  | orderReject =>
    orderEffects 0 db.order (OrderHandler.handleOrderReject (text.readAs orderIdOf jsonBody))
  | cancel => orderEffects 200 db.order (OrderHandler.handleCancel (text.readAs orderIdOf jsonBody))
  | changeOrderState =>
    orderEffects 200 db.order
      (OrderHandler.handleChangeOrderState (text.readAs changeOrderStateReq jsonBody))
  | pickup => orderEffects 200 db.order (RiderHandler.handlePickup (text.readAs orderIdOf jsonBody))
  | deliveryComplete =>
    orderEffects 200 db.order
      (RiderHandler.handleDeliveryComplete (text.readAs orderIdOf jsonBody))
  | menuEdit => pageEffects db.page (Pages.MenuHandler.handleMenuEdit text jsonBody)
  | menuSoldOut => pageEffects db.page (Pages.MenuHandler.handleMenuSoldOut text jsonBody)
  | storeStatusSet => pageEffects db.page (Pages.StoreHandler.handleStoreStatusSet text jsonBody)
  | reviewReply => pageEffects db.page (Pages.ReviewHandler.handleReviewReply text jsonBody)

/-- How many rows the condition of the request's statement matches, if it comes to one. -/
def matched : Mutation → Option ℕ
  | orderReject | cancel =>
    (text.readAs orderIdOf jsonBody).toOption.bind (orderRows db.order 9 true)
  | changeOrderState => (text.readAs changeOrderStateReq jsonBody).toOption.bind fun req =>
      orderRows db.order req.newState false req.orderId
  | pickup => (text.readAs orderIdOf jsonBody).toOption.bind (orderRows db.order 2 false)
  | deliveryComplete => (text.readAs orderIdOf jsonBody).toOption.bind (orderRows db.order 3 true)
  | menuEdit => (text.readAs (MenuEdit.read text.toJsonText) jsonBody).toOption.bind fun edit =>
      pageRows db.page edit.statement
  | menuSoldOut => (text.readAs soldOutStatement jsonBody).toOption.bind (pageRows db.page)
  | storeStatusSet => (text.readAs statusStatement jsonBody).toOption.bind (pageRows db.page)
  | reviewReply => (text.readAs replyStatement jsonBody).toOption.bind (pageRows db.page)

/-- A body that is not answered: a `try` that begins after `json::parse`, or a `catch` that only
prints. -/
def Unanswered : Mutation → Prop
  | pickup => ¬IsOk (text.readAs orderIdOf jsonBody)
  | menuEdit | menuSoldOut | reviewReply => ¬IsOk (text.read jsonBody)
  | _ => False

def policy : Mutation → Policy
  | changeOrderState | deliveryComplete | reviewReply => .honest
  | cancel => .mute
  | orderReject | pickup | menuEdit | menuSoldOut | storeStatusSet => .blind

end Mutation

/-- What a request comes to, by the kind of its handler. -/
inductive Policy.Comes (policy : Policy) (unanswered : Prop) : Option ℕ → Effects → Prop
  | executed (rows : ℕ) :
    ¬unanswered → policy.Comes unanswered (some rows) ⟨policy.verdicts rows, [rows]⟩
  | refused : ¬unanswered → policy.Comes unanswered none ⟨[false], []⟩
  | dropped : unanswered → policy.Comes unanswered none ⟨[], []⟩

theorem Policy.Comes.fits_iff {policy : Policy} {unanswered : Prop} {matched : Option ℕ}
    {e : Effects} (h : policy.Comes unanswered matched e) :
    e.Fits ↔ ¬unanswered ∧ ∀ rows ∈ matched, policy = honest ∨ 0 < rows := by
  cases h with
  | executed rows hanswered =>
    simp [Policy.fits_iff, hanswered]
  | refused hanswered => simp [Effects.Fits, hanswered]
  | dropped hunanswered => simp [Effects.Fits, hunanswered]

theorem Policy.Comes.of_none {policy : Policy} {unanswered : Prop} {matched : Option ℕ}
    {e : Effects} (hanswered : ¬unanswered) (hmatched : matched = none)
    (hverdicts : e.verdicts = [false]) (hrows : e.rows = []) :
    policy.Comes unanswered matched e := by
  obtain ⟨verdicts, matchedRows⟩ := e
  obtain rfl : verdicts = [false] := hverdicts
  obtain rfl : matchedRows = [] := hrows
  rw [hmatched]
  exact .refused hanswered

theorem Policy.Comes.of_dropped {policy : Policy} {unanswered : Prop} {matched : Option ℕ}
    {e : Effects} (hunanswered : unanswered) (hmatched : matched = none)
    (hverdicts : e.verdicts = []) (hrows : e.rows = []) :
    policy.Comes unanswered matched e := by
  obtain ⟨verdicts, matchedRows⟩ := e
  obtain rfl : verdicts = [] := hverdicts
  obtain rfl : matchedRows = [] := hrows
  rw [hmatched]
  exact .dropped hunanswered

theorem Policy.Comes.of_some {policy : Policy} {unanswered : Prop} {matched : Option ℕ}
    {e : Effects} (rows : ℕ) (hanswered : ¬unanswered) (hmatched : matched = some rows)
    (hverdicts : e.verdicts = policy.verdicts rows) (hrows : e.rows = [rows]) :
    policy.Comes unanswered matched e := by
  obtain ⟨verdicts, matchedRows⟩ := e
  obtain rfl : verdicts = policy.verdicts rows := hverdicts
  obtain rfl : matchedRows = [rows] := hrows
  rw [hmatched]
  exact .executed rows hanswered

/-! ### The handlers of orders -/

section Notify

variable (answer : (o : Op) → o.Res)

@[simp] theorem eval_notify (userId : String) (notice : Notice) :
    (Handler.notify userId notice).eval answer =
      (.ok (), if userId = "" then [] else [.sendToUser userId notice]) := by
  unfold Handler.notify
  split_ifs <;> simp_all [Handler.sendToUser]

/-- A push is no reply. -/
@[simp] theorem verdict_notify (success : ℤ) (userId : String) (notice : Notice) :
    (if userId = "" then [] else [.sendToUser userId notice]).filterMap (Op.verdict success) =
      [] := by
  split_ifs <;> rfl

/-- A push changes no row. -/
@[simp] theorem matched_notify (userId : String) (notice : Notice) :
    (if userId = "" then [] else [.sendToUser userId notice]).filterMap (Op.matched answer) =
      [] := by
  split_ifs <;> rfl

end Notify

section Orders

open Handler

variable (answer : (o : Op) → o.Res) (body : Except String String)

theorem handleOrderReject_comes :
    Policy.blind.Comes False (body.toOption.bind (Mutation.orderRows answer 9 true))
      (orderEffects 0 answer (OrderHandler.handleOrderReject body)) := by
  rcases body with what | orderId
  · exact .refused id
  · by_cases horder : orderId = ""
    · subst horder
      exact .refused id
    · refine .of_some (answer (.executeUpdate (.setOrderStatus orderId 9))) id ?_ ?_ ?_
      · simp [Except.toOption, Mutation.orderRows, horder]
      all_goals
        simp [orderEffects, OrderHandler.handleOrderReject, Policy.verdicts, horder, sendPacket,
          throwIf, prepareStatement, executeUpdate, getCustomerIdByOrderId, List.filterMap_cons]

theorem handleCancel_comes :
    Policy.mute.Comes False (body.toOption.bind (Mutation.orderRows answer 9 true))
      (orderEffects 200 answer (OrderHandler.handleCancel body)) := by
  rcases body with what | orderId
  · exact .refused id
  · by_cases horder : orderId = ""
    · subst horder
      exact .refused id
    · refine .of_some (answer (.executeUpdate (.setOrderStatus orderId 9))) id ?_ ?_ ?_
      · simp [Except.toOption, Mutation.orderRows, horder]
      all_goals
        by_cases hrows : 0 < answer (.executeUpdate (.setOrderStatus orderId 9)) <;>
        simp [orderEffects, OrderHandler.handleCancel, Policy.verdicts, horder, hrows, sendPacket,
          throwIf, prepareStatement, executeUpdate, getCustomerIdByOrderId, getStoreIdByOrderId,
          getOwnerIdByStoreId, List.filterMap_cons]

theorem handleChangeOrderState_comes (body : Except String ReqChangeOrderStateDTO) :
    Policy.honest.Comes False
      (body.toOption.bind fun req => Mutation.orderRows answer req.newState false req.orderId)
      (orderEffects 200 answer (OrderHandler.handleChangeOrderState body)) := by
  rcases body with what | req
  · exact .refused id
  · refine .of_some (answer (.executeUpdate (.setOrderStatus req.orderId req.newState)))
      id ?_ ?_ ?_
    · simp [Except.toOption, Mutation.orderRows]
    all_goals
      by_cases hrows : 0 < answer (.executeUpdate (.setOrderStatus req.orderId req.newState)) <;>
      simp [orderEffects, OrderHandler.handleChangeOrderState, Policy.verdicts, hrows, sendPacket,
        prepareStatement, executeUpdate, getCustomerIdByOrderId, List.filterMap_cons]

theorem handlePickup_comes :
    Policy.blind.Comes (¬IsOk body) (body.toOption.bind (Mutation.orderRows answer 2 false))
      (orderEffects 200 answer (RiderHandler.handlePickup body)) := by
  rcases body with what | orderId
  · exact .dropped fun ⟨_, hok⟩ => nomatch hok
  · refine .of_some (answer (.executeUpdate (.setOrderStatus orderId 2)))
      (not_not_intro ⟨_, rfl⟩) ?_ ?_ ?_
    · simp [Except.toOption, Mutation.orderRows]
    all_goals
      simp [orderEffects, RiderHandler.handlePickup, Policy.verdicts, sendPacket, prepareStatement,
        executeUpdate, getCustomerIdByOrderId, getStoreIdByOrderId, getOwnerIdByStoreId,
        List.filterMap_cons]

theorem handleDeliveryComplete_comes :
    Policy.honest.Comes False (body.toOption.bind (Mutation.orderRows answer 3 true))
      (orderEffects 200 answer (RiderHandler.handleDeliveryComplete body)) := by
  rcases body with what | orderId
  · exact .refused id
  · by_cases horder : orderId = ""
    · subst horder
      exact .refused id
    · refine .of_some (answer (.executeUpdate (.setOrderStatus orderId 3))) id ?_ ?_ ?_
      · simp [Except.toOption, Mutation.orderRows, horder]
      all_goals
        by_cases hrows : 0 < answer (.executeUpdate (.setOrderStatus orderId 3)) <;>
        simp [orderEffects, RiderHandler.handleDeliveryComplete, Policy.verdicts, horder, hrows,
          sendPacket, prepareStatement, executeUpdate, getCustomerIdByOrderId, getStoreIdByOrderId,
          getOwnerIdByStoreId, List.filterMap_cons]

end Orders

/-! ### The pages -/

section Pages

open Pages

@[simp] theorem reportsOk_statusMessage [Double D] (status : Int32) (message : String) :
    reportsOk (Dto.statusMessage status message : Json D) = decide (status = 200) := by
  simp [reportsOk, Dto.statusMessage]

variable [Double D] (answer : (o : PageOp D) → o.Res) (text : JsonParser D) (jsonBody : String)

theorem handleStoreStatusSet_comes :
    Policy.blind.Comes False
      ((text.readAs Mutation.statusStatement jsonBody).toOption.bind (Mutation.pageRows answer))
      (pageEffects answer (StoreHandler.handleStoreStatusSet text jsonBody)) := by
  rcases hread : text.read jsonBody with what | req
  · rw [toOption_readAs_of_error text jsonBody hread]
    refine .of_none id rfl ?_ ?_ <;>
    simp [pageEffects, StoreHandler.handleStoreStatusSet, hread, Except.mapError]
  rw [toOption_readAs text jsonBody hread]
  rcases hstore : (req.value "storeId" (0 : Int32) : Except JsonError Int32) with err | storeId
  · refine .of_none id ?_ ?_ ?_ <;>
    simp [Mutation.statusStatement, Except.toOption, pageEffects, StoreHandler.handleStoreStatusSet,
      hread, hstore, Except.mapError]
  rcases hstatus : (req.value "status" (-1 : Int32) : Except JsonError Int32) with err | status
  · refine .of_none id ?_ ?_ ?_ <;>
    simp [Mutation.statusStatement, Except.toOption, pageEffects, StoreHandler.handleStoreStatusSet,
      hread, hstore, hstatus, Except.mapError]
  by_cases hmissing : storeId = 0 ∨ status = -1
  · refine .of_none id ?_ ?_ ?_ <;>
    simp [Mutation.statusStatement, Mutation.pageRows, Except.toOption, pageEffects,
      StoreHandler.handleStoreStatusSet, hread, hstore, hstatus, hmissing, Except.mapError]
  · refine .of_some (answer (.db (.executeUpdate
      "UPDATE STORES SET status=? WHERE store_id=?"
      [.string (toString status.toInt), .string (toString storeId.toInt)]))) id ?_ ?_ ?_ <;>
    simp [Mutation.statusStatement, Mutation.pageRows, Except.toOption, pageEffects,
      StoreHandler.handleStoreStatusSet, hread, hstore, hstatus, hmissing, Except.mapError,
      List.filterMap_cons, Policy.verdicts, -Int.toString_eq_repr]

theorem handleMenuSoldOut_comes :
    Policy.blind.Comes (¬IsOk (text.read jsonBody))
      ((text.readAs Mutation.soldOutStatement jsonBody).toOption.bind (Mutation.pageRows answer))
      (pageEffects answer (Pages.MenuHandler.handleMenuSoldOut text jsonBody)) := by
  rcases hread : text.read jsonBody with what | req
  · rw [toOption_readAs_of_error text jsonBody hread]
    refine .of_dropped (fun ⟨_, hok⟩ => nomatch hok) rfl ?_ ?_ <;>
    simp [pageEffects, Pages.MenuHandler.handleMenuSoldOut, hread, Except.mapError]
  rw [toOption_readAs text jsonBody hread]
  have hok : ¬¬IsOk (Except.ok req : Except String (Json D)) := not_not_intro ⟨req, rfl⟩
  rcases hmenu : (req.value "menuId" (0 : Int32) : Except JsonError Int32) with err | menuId
  · refine .of_none hok ?_ ?_ ?_ <;>
    simp [Mutation.soldOutStatement, Except.toOption, pageEffects,
      Pages.MenuHandler.handleMenuSoldOut, hread, hmenu, Except.mapError]
  rcases hsold : (req.value "isSoldOut" false : Except JsonError Bool) with err | isSoldOut
  · refine .of_none hok ?_ ?_ ?_ <;>
    simp [Mutation.soldOutStatement, Except.toOption, pageEffects,
      Pages.MenuHandler.handleMenuSoldOut, hread, hmenu, hsold, Except.mapError]
  · refine .of_some (answer (.db (.executeUpdate
      "UPDATE MENUS SET is_sold_out=? WHERE menu_id=?"
      [.string (if isSoldOut then "1" else "0"), .string (toString menuId.toInt)]))) hok ?_ ?_ ?_ <;>
    simp [Mutation.soldOutStatement, Mutation.pageRows, Except.toOption, pageEffects,
      Pages.MenuHandler.handleMenuSoldOut, hread, hmenu, hsold, Except.mapError,
      List.filterMap_cons, Policy.verdicts, -Int.toString_eq_repr]

/-- An edit, which prepares its statement before it looks at most of its values. -/
theorem eval_edit (req : Json D) (storeId actionType : Int32)
    (hstore : req.value "storeId" (0 : Int32) = .ok storeId)
    (haction : req.value "actionType" (-1 : Int32) = .ok actionType) :
    let ran := (Pages.MenuHandler.edit text req storeId actionType).eval answer
    let rows := ran.2.filterMap (PageOp.matched answer)
    ran.2.filterMap PageOp.verdict = [] ∧
      match MenuEdit.read text.toJsonText req with
      | .error err => ran.1 = .error (.std (text.conversionError err)) ∧ rows = []
      | .ok edit => ran.1 = .ok edit.statement.isSome ∧
        rows = (Mutation.pageRows answer edit.statement).toList := by
  simp only [MenuEdit.read, hstore, haction, ok_bind, Pages.MenuHandler.edit]
  split_ifs with hadd hmodify hdelete
  · rcases MenuEdit.readData text.toJsonText (MenuEdit.menuData req) with err | data <;>
    simp [DbProg.prepareStatement, DbProg.executeUpdate, Except.mapError, List.filterMap_cons,
      MenuEdit.statement, Mutation.pageRows]
  · rcases hmenu : ((MenuEdit.menuData req).value "menuId" 0 : Except JsonError Int32)
      with err | menuId
    · simp [hmenu, Except.mapError]
    rcases MenuEdit.readData text.toJsonText (MenuEdit.menuData req) with err | data
    · simp [hmenu, DbProg.prepareStatement, Except.mapError, List.filterMap_cons]
    rcases hsold : ((MenuEdit.menuData req).value "isSoldOut" false : Except JsonError Bool)
      with err | isSoldOut <;>
    simp [hmenu, hsold, DbProg.prepareStatement, DbProg.executeUpdate, Except.mapError,
      List.filterMap_cons, MenuEdit.statement, Mutation.pageRows]
  · rcases hmenu : ((MenuEdit.menuData req).value "menuId" 0 : Except JsonError Int32)
      with err | menuId <;>
    simp [hmenu, Except.mapError, List.filterMap_cons, MenuEdit.statement, Mutation.pageRows]
  · simp [MenuEdit.statement, Mutation.pageRows]

theorem handleMenuEdit_comes :
    Policy.blind.Comes (¬IsOk (text.read jsonBody))
      ((text.readAs (MenuEdit.read text.toJsonText) jsonBody).toOption.bind fun edit =>
        Mutation.pageRows answer edit.statement)
      (pageEffects answer (Pages.MenuHandler.handleMenuEdit text jsonBody)) := by
  rcases hread : text.read jsonBody with what | req
  · rw [toOption_readAs_of_error text jsonBody hread]
    refine .of_dropped (fun ⟨_, hok⟩ => nomatch hok) rfl ?_ ?_ <;>
    simp [pageEffects, Pages.MenuHandler.handleMenuEdit, hread, Except.mapError]
  rw [toOption_readAs text jsonBody hread]
  have hok : ¬¬IsOk (Except.ok req : Except String (Json D)) := not_not_intro ⟨req, rfl⟩
  rcases hstore : (req.value "storeId" (0 : Int32) : Except JsonError Int32) with err | storeId
  · refine .of_none hok ?_ ?_ ?_ <;>
    simp [MenuEdit.read, Except.toOption, pageEffects, Pages.MenuHandler.handleMenuEdit,
      hread, hstore, Except.mapError]
  rcases haction : (req.value "actionType" (-1 : Int32) : Except JsonError Int32)
    with err | actionType
  · refine .of_none hok ?_ ?_ ?_ <;>
    simp [MenuEdit.read, Except.toOption, pageEffects, Pages.MenuHandler.handleMenuEdit,
      hread, hstore, haction, Except.mapError]
  obtain ⟨hverdicts, hedit⟩ := eval_edit answer text req storeId actionType hstore haction
  rcases heval : (Pages.MenuHandler.edit text req storeId actionType).eval answer
    with ⟨result, ops⟩
  rw [heval] at hverdicts hedit
  rcases hdecode : MenuEdit.read text.toJsonText req with err | edit
  · rw [hdecode] at hedit
    obtain ⟨rfl, hrows⟩ : result = _ ∧ _ := hedit
    refine .of_none hok rfl ?_ ?_ <;>
    simp [pageEffects, Pages.MenuHandler.handleMenuEdit, hread, hstore, haction, heval,
      Except.mapError, List.filterMap_append, hverdicts, hrows]
  · rw [hdecode] at hedit
    obtain ⟨rfl, hrows⟩ : result = _ ∧ _ := hedit
    rcases hstatement : edit.statement with _ | ⟨query, params⟩
    · rw [hstatement] at hrows heval
      refine .of_none hok (by simp [Except.toOption, hstatement, Mutation.pageRows]) ?_ ?_ <;>
      simp [pageEffects, Pages.MenuHandler.handleMenuEdit, hread, hstore, haction, heval,
        Except.mapError, List.filterMap_append, hverdicts, hrows, Mutation.pageRows]
    · rw [hstatement] at hrows heval
      refine .of_some (answer (.db (.executeUpdate query params))) hok
        (by simp [Except.toOption, hstatement, Mutation.pageRows]) ?_ ?_ <;>
      simp [pageEffects, Pages.MenuHandler.handleMenuEdit, hread, hstore, haction, heval,
        Except.mapError, List.filterMap_append, hverdicts, hrows, Mutation.pageRows,
        Policy.verdicts]

theorem handleReviewReply_comes :
    Policy.honest.Comes (¬IsOk (text.read jsonBody))
      ((text.readAs Mutation.replyStatement jsonBody).toOption.bind (Mutation.pageRows answer))
      (pageEffects answer (ReviewHandler.handleReviewReply text jsonBody)) := by
  rcases hread : text.read jsonBody with what | req
  · rw [toOption_readAs_of_error text jsonBody hread]
    refine .of_dropped (fun ⟨_, hok⟩ => nomatch hok) rfl ?_ ?_ <;>
    simp [pageEffects, ReviewHandler.handleReviewReply, hread, Except.mapError]
  rw [toOption_readAs text jsonBody hread]
  have hok : ¬¬IsOk (Except.ok req : Except String (Json D)) := not_not_intro ⟨req, rfl⟩
  rcases hreview : (req.value "reviewId" (0 : Int32) : Except JsonError Int32) with err | reviewId
  · refine .of_none hok ?_ ?_ ?_ <;>
    simp [Mutation.replyStatement, Except.toOption, pageEffects, ReviewHandler.handleReviewReply,
      hread, hreview, Except.mapError]
  rcases hstore : (req.value "storeId" (0 : Int32) : Except JsonError Int32) with err | storeId
  · refine .of_none hok ?_ ?_ ?_ <;>
    simp [Mutation.replyStatement, Except.toOption, pageEffects, ReviewHandler.handleReviewReply,
      hread, hreview, hstore, Except.mapError]
  rcases hreply : (req.value "ownerReply" "" : Except JsonError String) with err | ownerReply
  · refine .of_none hok ?_ ?_ ?_ <;>
    simp [Mutation.replyStatement, Except.toOption, pageEffects, ReviewHandler.handleReviewReply,
      hread, hreview, hstore, hreply, Except.mapError]
  by_cases hmissing : reviewId = 0 ∨ storeId = 0 ∨ ownerReply = ""
  · refine .of_none hok ?_ ?_ ?_ <;>
    simp [Mutation.replyStatement, Mutation.pageRows, Except.toOption, pageEffects,
      ReviewHandler.handleReviewReply, hread, hreview, hstore, hreply, hmissing, Except.mapError]
  · have hrows := Nat.eq_zero_or_pos (answer (.db (.executeUpdate
      "UPDATE REVIEWS SET owner_reply = ? WHERE review_id = ? AND store_id = ?"
      [.string ownerReply, .int reviewId, .int storeId])))
    refine .of_some (answer (.db (.executeUpdate
      "UPDATE REVIEWS SET owner_reply = ? WHERE review_id = ? AND store_id = ?"
      [.string ownerReply, .int reviewId, .int storeId]))) hok ?_ ?_ ?_ <;>
    rcases hrows with hrows | hrows <;>
    simp [Mutation.replyStatement, Mutation.pageRows, Except.toOption, pageEffects,
      ReviewHandler.handleReviewReply, hread, hreview, hstore, hreply, hmissing, Except.mapError,
      List.filterMap_cons, Policy.verdicts, hrows]

end Pages

/-! ### All requests -/

namespace Mutation

variable [Double D] (text : JsonParser D) (jsonBody : String) (db : MutationDb D)

/-- What a request comes to. -/
theorem comes (m : Mutation) : m.policy.Comes (m.Unanswered text jsonBody)
    (m.matched text jsonBody db) (m.effects text jsonBody db) := by
  cases m with
  | orderReject => exact handleOrderReject_comes db.order _
  | cancel => exact handleCancel_comes db.order _
  | changeOrderState => exact handleChangeOrderState_comes db.order _
  | pickup => exact handlePickup_comes db.order _
  | deliveryComplete => exact handleDeliveryComplete_comes db.order _
  | menuEdit => exact handleMenuEdit_comes db.page text jsonBody
  | menuSoldOut => exact handleMenuSoldOut_comes db.page text jsonBody
  | storeStatusSet => exact handleStoreStatusSet_comes db.page text jsonBody
  | reviewReply => exact handleReviewReply_comes db.page text jsonBody

/-- Success means that a row was hit, unless the request is not answered at all or its handler
disregards that no row was. -/
theorem effects_fit_iff (m : Mutation) : (m.effects text jsonBody db).Fits ↔
    ¬m.Unanswered text jsonBody ∧
      ∀ rows ∈ m.matched text jsonBody db, m.policy = .honest ∨ 0 < rows :=
  (m.comes text jsonBody db).fits_iff

/-- A database without the orders that are named. -/
def noOrders : MutationDb Float where
  order
    | .executeUpdate _ => (0 : ℕ)
    | .query (.getStoreIdByOrderId _) | .query (.getDeliveryFee _) => (0 : ℤ)
    | .query (.getCustomerIdByOrderId _) | .query (.getOwnerIdByStoreId _)
    | .query (.getMenuName _) | .query (.getOptionName _ _) => ""
    | .localtime => ⟨"20260317120000", "2026-03-17 12:00:00", by decide⟩
    | .rand => (0 : ℕ)
    | .setAutoCommit _ | .prepareStatement | .commit | .rollback | .sendPacket _
    | .sendToUser _ _ => ()
  page := Pages.oneRow

/-- A rider is told that such an order has been picked up. -/
theorem not_fits_pickup :
    ¬(pickup.effects Command.sampleText Command.sampleBody noOrders).Fits := by
  rw [show pickup.effects Command.sampleText Command.sampleBody noOrders = ⟨[true], [0]⟩ from rfl,
    Effects.Fits]
  decide

end Mutation

end ItsBedalyo
