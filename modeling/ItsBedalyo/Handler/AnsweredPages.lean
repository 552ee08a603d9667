import ItsBedalyo.Handler.PageReplies

/-!
# How often each page answers

A handler whose `try` spans all of it and whose `catch` answers does so once. One that parses the
body before its `try` answers if the body parses, and one whose `catch` does not answer does if its
body can be read. The receipt, which may not be sent, is told with the text that was read for it.
-/

namespace ItsBedalyo.Pages

open Interface Prog CmdID Dto

variable {D : Type} [Double D] {cmdId : CmdID} (text : JsonParser D) (jsonBody : String)

/-! ### A `try` that spans the handler -/

namespace SystemHandler

theorem handleHeartbeat_answers : Answers RES_HEARTBEAT 1 (handleHeartbeat : Page D Unit) :=
  .tryCatch (.bind (.db _) fun _ => .reply _ _) fun _ => .reply _ _

end SystemHandler

namespace UserHandler

theorem check_answers {isTaken : Page D Bool} (h : Sends cmdId 0 isTaken)
    (taken free malformed : String) :
    Answers cmdId 1 (check cmdId isTaken taken free malformed) := by
  refine .bind (.tryCatch (.bind h fun b => ?_) fun _ => .pure _) fun res => .reply _ _
  cases b <;> exact .pure _

theorem handleAuthCheck_answers : Answers RES_AUTH_CHECK 1 (handleAuthCheck text jsonBody) :=
  check_answers (.bind (.ofExcept _) fun _ => .bind (.ofExcept _) fun _ => .db _) _ _ _

theorem handlePhoneCheck_answers : Answers RES_PHONE_CHECK 1 (handlePhoneCheck text jsonBody) :=
  check_answers
    (.bind (.ofExcept _) fun _ => .bind (.ofExcept _) fun _ => .bind (.ofExcept _) fun _ => .db _)
    _ _ _

theorem handleBizNumCheck_answers :
    Answers RES_BUISNESS_NUM_CHECK 1 (handleBizNumCheck text jsonBody) :=
  check_answers (.bind (.ofExcept _) fun _ => .bind (.ofExcept _) fun _ => .db _) _ _ _

end UserHandler

namespace AddressHandler

/-- The list that follows a change is of another command. -/
theorem refresh_answers (hc : RES_ADDRESS_LIST ≠ cmdId) (userId : String) :
    Answers cmdId 0 (refresh userId : Page D Unit) :=
  .bind (.db (selectEach_returns _ _ _)) fun _ => .other hc _

theorem handleAddressSave_answers :
    Answers RES_ADDRESS_SAVE 1 (handleAddressSave text jsonBody) := by
  refine .tryCatch ?_ fun _ => .reply _ _
  refine .bind (.ofExcept _) fun req => .bind (.ofExcept _) fun userId => ?_
  refine .bind (.ofExcept _) fun address => .bind (.ofExcept _) fun detail => ?_
  refine .bind (.ofExcept _) fun guide => .bind (.ofExcept _) fun label => ?_
  refine .bind (.account _) fun newAddressId => ?_
  split
  · exact .andThen (.reply _ _) fun _ => refresh_answers (by decide) userId
  · exact .reply _ _

theorem handleAddressList_answers :
    Answers RES_ADDRESS_LIST 1 (handleAddressList text jsonBody) :=
  .tryCatch
    (.bind (.ofExcept _) fun _ => .bind (.ofExcept _) fun _ => .bind (.db _) fun _ => .reply _ _)
    fun _ => .reply _ _

theorem change_answers (hc : RES_ADDRESS_LIST ≠ cmdId) {changed : Page D (String × Bool)}
    (h : Sends cmdId 0 changed) : Answers cmdId 1 (change cmdId changed) := by
  refine .tryCatch (.bind h fun ⟨userId, success⟩ => ?_) fun _ => .reply _ _
  refine .andThen (.reply _ _) fun _ => ?_
  cases success
  · exact .pure _
  · exact refresh_answers hc userId

theorem handleAddressDelete_answers :
    Answers RES_ADDRESS_DELETE 1 (handleAddressDelete text jsonBody) := by
  refine change_answers (by decide) ?_
  refine .bind (.ofExcept _) fun req => .bind (.ofExcept _) fun userId => ?_
  refine .bind (.ofExcept _) fun addressId => .bind (.account _) fun success => .pure _

theorem handleAddressUpdate_answers :
    Answers RES_ADDRESS_UPDATE 1 (handleAddressUpdate text jsonBody) := by
  refine change_answers (by decide) ?_
  refine .bind (.ofExcept _) fun req => .bind (.ofExcept _) fun userId => ?_
  refine .bind (.ofExcept _) fun addressId => .bind (.ofExcept _) fun detail => ?_
  refine .bind (.ofExcept _) fun guide => .bind (.ofExcept _) fun label => ?_
  exact .bind (.account _) fun success => .pure _

theorem handleAddressDefault_answers :
    Answers RES_ADDRESS_DEFAULT 1 (handleAddressDefault text jsonBody) := by
  refine change_answers (by decide) ?_
  refine .bind (.ofExcept _) fun req => .bind (.ofExcept _) fun userId => ?_
  exact .bind (.ofExcept _) fun addressId => .bind (.account _) fun success => .pure _

end AddressHandler

namespace AdminHandler

theorem handleAdminOrderList_answers :
    Answers RES_ADMIN_ORDER_LIST 1 (handleAdminOrderList text jsonBody) := by
  refine .tryCatch ?_ fun _ => .reply _ _
  refine .bind (.ofExcept _) fun req => .bind (.ofExcept _) fun keyword => ?_
  exact .bind (.ofExcept _) fun searchType => .bind (.db _) fun orders => .reply _ _

end AdminHandler

namespace StoreHandler

theorem handleStoreListRequest_answers :
    Answers RES_STORE_LIST 1 (handleStoreListRequest text jsonBody) := by
  refine .tryCatch ?_ fun _ => .reply _ _
  refine .bind (.ofExcept _) fun req => .bind (.ofExcept _) fun categoryId => ?_
  refine .bind (.ofExcept _) fun brandName => ?_
  split <;> exact .bind (.db _) fun stores => .reply _ _

theorem declaredStore_answers :
    Answers RES_STORE_DETAIL 0 (declaredStore : Page D (Dto.StoreDataDTO D)) := by
  refine .bind .uninitialised fun _ => .bind .uninitialisedBool fun _ => ?_
  refine .bind .uninitialised fun _ => .bind .uninitialisedDouble fun _ => ?_
  exact .bind .uninitialised fun _ => .pure _

theorem handleStoreDetailReq_answers :
    Answers RES_STORE_DETAIL 1 (handleStoreDetailReq text jsonBody) := by
  refine .tryCatch ?_ fun _ => .reply _ _
  refine .bind (.ofExcept _) fun j => .bind (.ofExcept _) fun req => ?_
  split
  · exact .reply _ _
  · exact .bind declaredStore_answers.sends fun storeData => .bind (.db _) fun detail => .reply _ _

omit [Double D] in
theorem updateTable_sends (success : Bool) (table idColumn : String) (clauses : Clauses)
    {id : Page D String} (hid : Sends cmdId 0 id) :
    Sends cmdId 0 (updateTable success table idColumn clauses id) := by
  unfold updateTable
  split
  · exact .bind hid fun _ => .db _
  · exact .pure _

theorem handleStoreInfoUpdateReq_answers :
    Answers RES_STORE_INFO_UPDATE 1 (handleStoreInfoUpdateReq text jsonBody) := by
  refine .tryCatch ?_ fun _ => .reply _ _
  refine .bind (.ofExcept _) fun req => .bind (.ofExcept _) fun storeId => ?_
  split
  · exact .reply _ _
  refine .bind (.ofExcept _) fun store => .bind (.ofExcept _) fun user => ?_
  refine .bind (.ofExcept _) fun owner => ?_
  split
  · exact .reply _ _
  refine .bind (updateTable_sends _ _ _ _ (.pure _)) fun _ => ?_
  refine .bind (updateTable_sends _ _ _ _ Answers.getUserId.sends) fun _ => ?_
  exact .bind (updateTable_sends _ _ _ _ Answers.getUserId.sends) fun _ => .reply _ _

theorem handleStoreStatusSet_answers :
    Answers RES_STORE_STATUS_SET 1 (handleStoreStatusSet text jsonBody) := by
  refine .tryCatch ?_ fun _ => .reply _ _
  refine .bind (.ofExcept _) fun req => .bind (.ofExcept _) fun storeId => ?_
  refine .bind (.ofExcept _) fun status => ?_
  split
  · exact .reply _ _
  · exact .bind (.db _) fun success => .reply _ _

end StoreHandler

namespace MenuHandler

theorem handleMenuOption_answers : Answers RES_MENU_OPTION 1 (handleMenuOption text jsonBody) := by
  refine .tryCatch ?_ fun _ => .reply _ _
  refine .bind (.ofExcept _) fun j => .bind (.ofExcept _) fun req => ?_
  exact .bind (.db _) fun optionGroups => .reply _ _

end MenuHandler

namespace OrderHandler

theorem handleOrderHistory_answers :
    Answers RES_ORDER_HISTORY 1 (handleOrderHistory text jsonBody) := by
  refine .tryCatch ?_ fun _ => .reply _ _
  refine .bind (.ofExcept _) fun req => .bind (.ofExcept _) fun userId => ?_
  exact .bind (.db _) fun historyList => .reply _ _

theorem handleOrderHistorySearch_answers :
    Answers RES_ORDER_HISTORY_SEARCH 1 (handleOrderHistorySearch text jsonBody) := by
  refine .tryCatch ?_ fun _ => .reply _ _
  refine .bind (.ofExcept _) fun req => .bind (.ofExcept _) fun userId => ?_
  exact .bind (.ofExcept _) fun keyword => .bind (.db _) fun historyList => .reply _ _

theorem checkoutFailed_answers : Answers RES_CHECKOUT_INFO 1 (checkoutFailed : Page D Unit) := by
  refine .bind .uninitialised fun _ => .bind .uninitialised fun _ => ?_
  refine .bind .uninitialised fun _ => .bind .uninitialised fun _ => ?_
  exact .bind .uninitialised fun _ => .reply _ _

theorem handleCheckoutInfo_answers :
    Answers RES_CHECKOUT_INFO 1 (handleCheckoutInfo text jsonBody) := by
  refine .tryCatch ?_ fun _ => checkoutFailed_answers
  refine .bind (.ofExcept _) fun req => .bind (.ofExcept _) fun userId => ?_
  refine .bind (.ofExcept _) fun storeId => .bind (.db _) fun user => ?_
  exact .bind (.db _) fun res => .reply _ _

end OrderHandler

namespace RiderHandler

theorem handleRiderOrderList_answers :
    Answers RES_RIDER_ORDER_LIST 1 (handleRiderOrderList : Page D Unit) :=
  .tryCatch (.bind (.db _) fun _ => .reply _ _) fun _ => .reply _ _

end RiderHandler

/-! ### A `try` after the parsing -/

namespace MenuHandler

theorem handleMenuListRequest_answers :
    AnsweredIff pageTally (handleMenuListRequest text jsonBody) RES_MENU_LIST
      fun _ => IsOk (text.read jsonBody) := by
  refine parse_answeredIff _ _ fun req => .tryCatch ?_ fun _ => .reply _ _
  exact .bind (.ofExcept _) fun storeId => .bind (.db _) fun menus => .reply _ _

theorem edit_sends (req : Json D) (storeId actionType : Int32) :
    Sends cmdId 0 (edit text req storeId actionType) := by
  unfold edit
  split
  · refine .bind (.db _) fun _ => .bind (.ofExcept _) fun data => ?_
    exact .bind (.db _) fun _ => .pure _
  split
  · refine .bind (.ofExcept _) fun menuId => .bind (.db _) fun _ => ?_
    refine .bind (.ofExcept _) fun data => .bind (.ofExcept _) fun isSoldOut => ?_
    exact .bind (.db _) fun _ => .pure _
  split
  · exact .bind (.ofExcept _) fun menuId => .bind (.db _) fun _ => .pure _
  · exact .pure _

theorem handleMenuEdit_answers :
    AnsweredIff pageTally (handleMenuEdit text jsonBody) RES_MENU_EDIT
      fun _ => IsOk (text.read jsonBody) := by
  refine parse_answeredIff _ _ fun req => .tryCatch ?_ fun _ => .reply _ _
  refine .bind (.ofExcept _) fun storeId => .bind (.ofExcept _) fun actionType => ?_
  exact .bind (edit_sends text req storeId actionType) fun ok => .reply _ _

theorem handleMenuSoldOut_answers :
    AnsweredIff pageTally (handleMenuSoldOut text jsonBody) RES_MENU_SOLD_OUT
      fun _ => IsOk (text.read jsonBody) := by
  refine parse_answeredIff _ _ fun req => .tryCatch ?_ fun _ => .reply _ _
  refine .bind (.ofExcept _) fun menuId => .bind (.ofExcept _) fun isSoldOut => ?_
  exact .bind (.db _) fun ok => .reply _ _

end MenuHandler

namespace OrderHandler

theorem handleOrderList_answers :
    AnsweredIff pageTally (handleOrderList text jsonBody) RES_ORDER_LIST
      fun _ => IsOk (text.read jsonBody) := by
  refine parse_answeredIff _ _ fun req => .tryCatch ?_ fun _ => .reply _ _
  refine .bind (.ofExcept _) fun storeId => ?_
  split
  · exact .reply _ _
  · exact .bind (.db _) fun orders => .reply _ _

end OrderHandler

namespace ReviewHandler

theorem handleReviewList_answers :
    AnsweredIff pageTally (handleReviewList text jsonBody) RES_REVIEW_LIST
      fun _ => IsOk (text.read jsonBody) := by
  refine parse_answeredIff _ _ fun req => .tryCatch ?_ fun _ => .reply _ _
  refine .bind (.ofExcept _) fun storeId => .bind (.ofExcept _) fun menuId => ?_
  split
  · exact .reply _ _
  · exact .bind (.db _) fun reviews => .reply _ _

theorem handleReviewReply_answers :
    AnsweredIff pageTally (handleReviewReply text jsonBody) RES_REVIEW_REPLY
      fun _ => IsOk (text.read jsonBody) := by
  refine parse_answeredIff _ _ fun req => .tryCatch ?_ fun _ => .reply _ _
  refine .bind (.ofExcept _) fun reviewId => .bind (.ofExcept _) fun storeId => ?_
  refine .bind (.ofExcept _) fun ownerReply => ?_
  split
  · exact .reply _ _
  · exact .bind (.db _) fun affected => .reply _ _

theorem handleMenuReviewList_answers :
    AnsweredIff pageTally (handleMenuReviewList text jsonBody) RES_MENU_REVIEW_LIST
      fun _ => IsOk (text.read jsonBody) := by
  refine parse_answeredIff _ _ fun req => .tryCatch ?_ fun _ => .reply _ _
  refine .bind (.ofExcept _) fun menuId => ?_
  split
  · exact .reply _ _
  · exact .bind (.db _) fun reviews => .reply _ _

end ReviewHandler

namespace SalesHandler

theorem handleSalesStat_answers :
    AnsweredIff pageTally (handleSalesStat text jsonBody) RES_SALES_STAT
      fun _ => IsOk (text.read jsonBody) := by
  refine parse_answeredIff _ _ fun req => .tryCatch ?_ fun _ => .reply _ _
  refine .bind (.ofExcept _) fun storeId => ?_
  split
  · exact .reply _ _
  · refine .bind (.db _) fun found => ?_
    cases found <;> exact .reply _ _

end SalesHandler

/-! ### A `catch` that does not answer -/

namespace SearchHandler

/-- `ReqResearchWidgetDTO`, `ReqResearchDelAllDTO`. -/
def readUserId (j : Json D) : Except JsonError String := j.get "userId"

/-- `ReqResearchAddDTO`. -/
def readSearch (j : Json D) : Except JsonError (String × String) := do
  let userId ← j.get "userId"
  let keyword ← j.get "keyword"
  pure (userId, keyword)

/-- `ReqResearchDeleteDTO`. -/
def readHistory (j : Json D) : Except JsonError (String × Int32) := do
  let userId ← j.get "userId"
  let historyId ← j.get "historyId"
  pure (userId, historyId)

/-- `ReqSearchStoreDTO`. -/
def readKeyword (j : Json D) : Except JsonError String := j.get "keyword"

theorem handleSearchWidgetReq_answers :
    AnsweredIff pageTally (handleSearchWidgetReq text jsonBody) RES_RESEARCH_WIDGET
      fun _ => IsOk (text.readAs readUserId jsonBody) := by
  refine AnswersIf.answeredIff (.bind fun req => .last fun userId => ?_)
  refine .bind .getCurrentDate fun _ => .bind (.db (selectEach_returns _ _ _)) fun _ => ?_
  exact .bind (.db (selectEach_returns _ _ _)) fun _ => .reply _ _

theorem handleSearchAddReq_answers :
    AnsweredIff pageTally (handleSearchAddReq text jsonBody) RES_RESEARCH_ADD
      fun _ => IsOk (text.readAs readSearch jsonBody) := by
  refine AnswersIf.answeredIff (.bind fun req => .two _ fun userId keyword => ?_)
  refine .bind (.db (catchSql_returns _ _)) fun _ => ?_
  exact .bind (.db (catchSql_returns _ _)) fun _ => .reply _ _

theorem handleSearchDeleteReq_answers :
    AnsweredIff pageTally (handleSearchDeleteReq text jsonBody) RES_RESEARCH_DELETE
      fun _ => IsOk (text.readAs readHistory jsonBody) := by
  refine AnswersIf.answeredIff (.bind fun req => .two _ fun userId historyId => ?_)
  exact .bind (.db (catchSql_returns _ _)) fun _ => .reply _ _

theorem handleSearchDelAllReq_answers :
    AnsweredIff pageTally (handleSearchDelAllReq text jsonBody) RES_RESEARCH_DEL_ALL
      fun _ => IsOk (text.readAs readUserId jsonBody) := by
  refine AnswersIf.answeredIff (.bind fun req => .last fun userId => ?_)
  exact .bind (.db (catchSql_returns _ _)) fun _ => .reply _ _

theorem handleSearchStoreReq_answers :
    AnsweredIff pageTally (handleSearchStoreReq text jsonBody) RES_SEARCH_STORE
      fun _ => IsOk (text.readAs readKeyword jsonBody) := by
  refine AnswersIf.answeredIff (.bind fun req => .last fun keyword => ?_)
  exact .bind (.db (selectEach_returns _ _ _)) fun _ => .reply _ _

end SearchHandler

namespace AdminHandler

/-- The two members that `handleAdminInit` reads. -/
def readAdmin (j : Json D) : Except JsonError (String × Int32) := do
  let adminId ← j.value "adminId" "admin"
  let role ← j.value "role" 3
  pure (adminId, role)

theorem handleAdminInit_answers :
    AnsweredIff pageTally (handleAdminInit text jsonBody) RES_ADMIN_INIT
      fun _ => IsOk (text.readAs readAdmin jsonBody) := by
  refine AnswersIf.answeredIff (.bind fun req => .two _ fun adminId role => ?_)
  exact .bind (.authenticate _ _) fun _ => .bind (.registerUser _ _) fun _ => .reply _ _

end AdminHandler

/-! ### The receipt -/

namespace OrderHandler

omit [Double D] in
theorem receiptItems_plain (text : JsonText D) (orderId : String) :
    Plain (receiptItems text orderId) := by
  refine .bind (.select _ _) fun rows => .forEach (fun _ row => ?_) _ _
  refine .bind (.getInt _ _) fun menuId => .bind (.getString _ (by decide)) fun menuName => ?_
  refine .bind (.getInt _ _) fun quantity => .bind (.getInt _ _) fun unitPrice => ?_
  exact .bind (.stringOr _ _ (by decide)) fun optsStr => .pure _

omit [Double D] in
/-- What has been read of the number of the card is what `res.paymentMethod` is made from. -/
theorem findReceipt_reads (orderId : String) (t : Tally) :
    dbTally.wp (findReceipt orderId : DbProg D _) (fun r t' => t' = match r with
      | .ok (some receipt) => t.readText "card_number" receipt.cardNum
      | .ok none => t
      | .error _ => t.fail) t := by
  refine wp_plain_bind (.select _ _) (fun _ => rfl) fun rows => ?_
  refine wp_plain_bind (.first _) (fun _ => rfl) fun found => ?_
  cases found with
  | none => rfl
  | some row =>
    refine (wp_bind _ _).mpr ?_
    refine wp_plain_bind (.getString _ (by decide)) (fun _ => rfl) fun storeName => ?_
    refine wp_plain_bind (.getString _ (by decide)) (fun _ => rfl) fun createdAt => ?_
    refine wp_plain_bind (.getString _ (by decide)) (fun _ => rfl) fun deliveryAddress => ?_
    refine wp_plain_bind (.getInt _ _) (fun _ => rfl) fun totalPrice => ?_
    refine wp_plain_bind (.getInt _ _) (fun _ => rfl) fun deliveryFee => ?_
    refine wp_plain_bind (.getInt _ _) (fun _ => rfl) fun wowDiscount => ?_
    refine (wp_bind _ _).mpr (wp_plain_bind (.isNull _ _) (fun _ => rfl) fun null => ?_)
    cases null with
    | true =>
      -- the text for `NULL` is no number of a card
      have hnone : (paymentMethod "").isNone = false := by decide
      exact (if_neg fun h => absurd (h.2.symm.trans hnone) (by decide)).symm
    | false =>
      refine wp_op.mpr ⟨trivial, fun r t' hr => ?_⟩
      cases r <;> exact hr

/-- The error response goes out, and nothing else happens. -/
theorem wp_detailFailed {Q : Except Exn Unit → Tally → Prop} {t : Tally}
    (h : Q (.ok ()) (t.send RES_ORDER_DETAIL)) :
    pageTally.wp (detailFailed : Page D Unit) Q t := by
  have hany : ∀ {t : Tally} {R : Except Exn Int32 → Tally → Prop}, (∀ n, R (.ok n) t) →
      pageTally.wp (Page.uninitialised : Page D Int32) R t := by
    intro t R hR
    refine wp_op.mpr ⟨trivial, fun r t' hr => ?_⟩
    obtain ⟨⟨n, rfl⟩, rfl⟩ := hr
    exact hR n
  refine (wp_bind _ _).mpr (hany fun _ => (wp_bind _ _).mpr (hany fun _ => ?_))
  refine (wp_bind _ _).mpr (hany fun _ => (wp_bind _ _).mpr (hany fun _ => ?_))
  refine (wp_bind _ _).mpr (hany fun _ => wp_op.mpr ⟨trivial, fun r t' hr => ?_⟩)
  obtain ⟨rfl, rfl⟩ := hr
  exact h

/-- Once the order has been found. -/
theorem receipt_answers (text : JsonText D) (orderId : String) (receipt : Receipt) :
    pageTally.wp
      (do
        let items ← Page.db (receiptItems text orderId)
        Page.sendPacket RES_ORDER_DETAIL (orderDetail orderId receipt items))
      (fun r t => match r with
        | .ok _ => t.sent.count RES_ORDER_DETAIL = 1 ↔
            ¬(t.outcomes.splitText = true ∧ t.outcomes.failed = false)
        | .error _ => pageTally.wp (detailFailed : Page D Unit) (fun _ t =>
            t.sent.count RES_ORDER_DETAIL = 1 ↔
              ¬(t.outcomes.splitText = true ∧ t.outcomes.failed = false)) t)
      (({} : Tally).readText "card_number" receipt.cardNum) := by
  refine (wp_bind _ _).mpr (wp_db.mpr
    (wp_mono (fun r t hr => ?_) (receiptItems_plain text orderId _)))
  rcases hmethod : paymentMethod receipt.cardNum with _ | method
  · have hread : ({} : Tally).readText "card_number" receipt.cardNum =
        { outcomes := { splitText := true } } := if_pos ⟨rfl, Option.isNone_iff_eq_none.mpr hmethod⟩
    rw [hread] at hr
    cases r with
    | error e =>
      obtain rfl : t = ({ outcomes := { splitText := true } } : Tally).fail := hr
      exact wp_detailFailed (by decide)
    | ok items =>
      obtain rfl : t = { outcomes := { splitText := true } } := hr
      have hnone : orderDetail orderId receipt items = none := by simp [orderDetail, hmethod]
      refine wp_op.mpr ⟨trivial, fun r t' hpost => ?_⟩
      rw [hnone] at hpost
      obtain ⟨rfl, rfl⟩ := hpost
      exact iff_of_false (by decide) (by decide)
  · have hread : ({} : Tally).readText "card_number" receipt.cardNum = {} :=
      if_neg fun h => by simp [hmethod] at h
    rw [hread] at hr
    cases r with
    | error e =>
      obtain rfl : t = ({} : Tally).fail := hr
      exact wp_detailFailed (by decide)
    | ok items =>
      obtain rfl : t = {} := hr
      obtain ⟨body, hbody⟩ : ∃ body, orderDetail orderId receipt items = some body :=
        ⟨_, by simp only [orderDetail, hmethod, Option.map_some]; rfl⟩
      refine wp_op.mpr ⟨trivial, fun r t' hpost => ?_⟩
      rw [hbody] at hpost
      obtain ⟨rfl, rfl⟩ := hpost
      exact iff_of_true (by decide) (by decide)

/-- The receipt is lost if the end of the number is not UTF-8 and nothing has failed. -/
theorem handleOrderDetail_answers :
    AnsweredIff pageTally (handleOrderDetail text jsonBody) RES_ORDER_DETAIL
      fun o => ¬(o.splitText = true ∧ o.failed = false) := by
  refine (wp_tryCatch _ _).mpr ((wp_bind _ _).mpr ((wp_ofExcept _).mpr ?_))
  cases text.read jsonBody with
  | error what => exact wp_detailFailed (by decide)
  | ok req =>
    refine (wp_bind _ _).mpr ((wp_ofExcept _).mpr ?_)
    cases text.convert (req.value "orderId" "") with
    | error what => exact wp_detailFailed (by decide)
    | ok orderId =>
      refine wp_ite.mpr ⟨fun _ => ?_, fun _ => ?_⟩
      · exact wp_detailFailed (by decide)
      refine (wp_bind _ _).mpr (wp_db.mpr
        (wp_mono (fun r t hr => ?_) (findReceipt_reads orderId {})))
      match r, hr with
      | .error e, hr =>
        obtain rfl : t = ({} : Tally).fail := hr
        exact wp_detailFailed (by decide)
      | .ok none, hr =>
        obtain rfl : t = {} := hr
        exact wp_detailFailed (by decide)
      | .ok (some receipt), hr =>
        obtain rfl : t = ({} : Tally).readText "card_number" receipt.cardNum := hr
        refine wp_mono (fun r t hr => ?_) (receipt_answers text.toJsonText orderId receipt)
        cases r <;> exact hr

end OrderHandler

end ItsBedalyo.Pages
