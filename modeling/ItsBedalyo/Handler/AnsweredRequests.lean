import ItsBedalyo.Handler.Tally

/-!
# How often the other handlers answer

The handlers of orders, of the account and of the connection, each with what has to come out of its
calls for one answer.
-/

namespace ItsBedalyo

open Interface CmdID

namespace CmdID

def RES_SIGNUP : CmdID := 1021
def RES_GRADE_UPDATE : CmdID := 2095

end CmdID

/-! ### Orders -/

section Orders

variable {garbled : Option String}

theorem statusTally_wp_lift {α : Type} {p : Handler α} {Q : Except String α → Tally → Prop}
    {t : Tally} :
    (statusTally garbled).wp p.lift Q t ↔ (orderTally garbled).interface.wp p Q t :=
  wp_embed

@[simp] theorem statusTally_wp_selectTimes {orderId : String} {t : Tally}
    {Q : Except String (Option TimesRow) → Tally → Prop} :
    (statusTally garbled).wp (StatusHandler.selectTimes orderId) Q t ↔
      (∀ row, Q (.ok row) t) ∧ ∀ what, Q (.error what) t.fail :=
  wp_op_cases trivial (fun _ _ => Iff.rfl) fun _ _ => Iff.rfl

@[simp] theorem statusTally_wp_getDeliveryAddressByOrderId {orderId : String} {t : Tally}
    {Q : Except String String → Tally → Prop} :
    (statusTally garbled).wp (StatusHandler.getDeliveryAddressByOrderId orderId) Q t ↔
      (∀ address, Q (.ok address) t) ∧ ∀ what, Q (.error what) t.failLookup :=
  wp_op_cases trivial (fun _ _ => Iff.rfl) fun _ _ => Iff.rfl

@[simp] theorem statusTally_wp_uninitialised {t : Tally} {Q : Except String ℤ → Tally → Prop} :
    (statusTally garbled).wp StatusHandler.uninitialised Q t ↔ ∀ n, Q (.ok n) t := by
  refine wp_op.trans ((and_iff_right trivial).trans ⟨fun h n => h _ _ ⟨⟨n, rfl⟩, rfl⟩, ?_⟩)
  rintro h r t' ⟨⟨n, rfl⟩, rfl⟩
  exact h n

@[simp] theorem statusTally_wp_broadcastToRole {role : ℤ} {notice : NotifyDeliveryCallDTO}
    {t : Tally} {Q : Except String Unit → Tally → Prop} :
    (statusTally garbled).wp (StatusHandler.broadcastToRole role notice) Q t ↔ Q (.ok ()) t :=
  (wp_op_eq fun _ _ => Iff.rfl).trans (and_iff_right trivial)

attribute [local simp] orderReturns orderThrows Tally.respond Tally.send Tally.fail
  Tally.failLookup Tally.updated Tally.rollBack Tally.failRollback Tally.failAutoCommit

theorem handleCancel_answers (body : Except String String) :
    AnsweredIff (statusTally none) (OrderHandler.handleCancel body).lift RES_CANCEL
      fun o => o.noRows = false ∧ o.lookupFailed = false := by
  refine statusTally_wp_lift.mpr ?_
  cases body with
  | error what => simp [OrderHandler.handleCancel]
  | ok orderId =>
    simp [OrderHandler.handleCancel]
    rintro - (_ | rows) <;> simp

theorem handleOrderReject_answers (body : Except String String) :
    AnsweredIff (statusTally none) (OrderHandler.handleOrderReject body).lift RES_ORDER_REJECT
      fun _ => True := by
  refine statusTally_wp_lift.mpr ?_
  cases body with
  | error what => simp [OrderHandler.handleOrderReject]
  | ok orderId =>
    simp [OrderHandler.handleOrderReject]
    rintro - (_ | rows) <;> simp

theorem handleChangeOrderState_answers (body : Except String ReqChangeOrderStateDTO) :
    AnsweredIff (statusTally none) (OrderHandler.handleChangeOrderState body).lift
      RES_CHANGE_ORDER_STATE fun _ => True := by
  refine statusTally_wp_lift.mpr ?_
  cases body with
  | error what => simp [OrderHandler.handleChangeOrderState]
  | ok req =>
    simp [OrderHandler.handleChangeOrderState]
    rintro (_ | rows) <;> simp

theorem handlePickup_answers (body : Except String String) :
    AnsweredIff (statusTally none) (RiderHandler.handlePickup body).lift RES_PICKUP
      fun o => IsOk body ∧ o.failed = false := by
  refine statusTally_wp_lift.mpr ?_
  cases body with
  | error what => simp [RiderHandler.handlePickup]
  | ok orderId =>
    simp [RiderHandler.handlePickup]
    rintro (_ | rows) <;> simp

theorem handleDeliveryComplete_answers (body : Except String String) :
    AnsweredIff (statusTally none) (RiderHandler.handleDeliveryComplete body).lift
      RES_DELIVERY_COMPLETE fun _ => True := by
  refine statusTally_wp_lift.mpr ?_
  cases body with
  | error what =>
    simp [RiderHandler.handleDeliveryComplete, RiderHandler.deliveryCompleteFailed]
  | ok orderId =>
    simp [RiderHandler.handleDeliveryComplete, RiderHandler.deliveryCompleteFailed]
    rintro - (_ | rows) <;> simp

/-- The message of the exception is in the response, which is lost if it is not UTF-8. -/
theorem handleOrderAccept_answers (body : Except String OrderAcceptReqDTO)
    (hgarbled : ∀ what ∈ garbled, body = .error what) :
    AnsweredIff (statusTally garbled) (OrderHandler.handleOrderAccept body).lift RES_ORDER_ACCEPT
      fun o => garbled = none ∧ o.unrecovered = false := by
  refine statusTally_wp_lift.mpr ?_
  cases body with
  | error what =>
    rcases garbled with _ | text
    · simp [OrderHandler.handleOrderAccept]
    · obtain rfl : what = text := Except.error.inj (hgarbled text rfl)
      simp [OrderHandler.handleOrderAccept]
  | ok req =>
    obtain rfl : garbled = none := Option.eq_none_iff_forall_not_mem.mpr fun what hwhat =>
      nomatch hgarbled what hwhat
    simp [OrderHandler.handleOrderAccept]
    rintro - (_ | rows) <;> simp
    rintro (_ | rows) <;> simp

/-- Whether something has failed, and whether an update has matched no row. -/
def Tally.noting (t : Tally) (failed noRows : Bool) : Tally :=
  { t with outcomes := { t.outcomes with failed := failed, noRows := noRows } }

theorem optionNames_tally {menuId : ℤ} {opts : List (Option ℤ)} {t : Tally}
    {Q : Except String (List String) → Tally → Prop} (h : ∀ names, Q (.ok names) t) :
    (orderTally garbled).interface.wp (OrderHandler.optionNames menuId opts) Q t := by
  induction opts generalizing Q with
  | nil => exact h []
  | cons opt opts ih =>
    cases opt with
    | none => exact ih h
    | some optId =>
      simp only [OrderHandler.optionNames, wp_bind, HandlerSpec.wp_getOptionName]
      refine ⟨trivial, fun optName t' ht' => ?_, fun _ _ hthrows => hthrows.elim⟩
      obtain rfl : t' = t := ht'
      exact ih fun names => h _

theorem insertItems_tally {newOrderId : String} {items : List OrderItemDTO} {t : Tally}
    {Q : Except String (List PushItem) → Tally → Prop}
    (h : ∀ r failed noRows, Q r (t.noting failed noRows)) :
    (orderTally garbled).interface.wp (OrderHandler.insertItems newOrderId items) Q t := by
  induction items generalizing t Q with
  | nil => exact h _ t.outcomes.failed t.outcomes.noRows
  | cons item items ih =>
    simp only [OrderHandler.insertItems, wp_bind, HandlerSpec.wp_getMenuName]
    refine ⟨trivial, fun name t' ht' => ?_, fun _ _ hthrows => hthrows.elim⟩
    obtain rfl : t' = t := ht'
    refine optionNames_tally fun options => ?_
    simp only [HandlerSpec.wp_executeUpdate]
    refine ⟨trivial, fun rows t₁ ht₁ => ?_, fun what t₁ ht₁ => ?_⟩
    · obtain ⟨noRows, rfl⟩ : ∃ noRows, t₁ = t'.noting t'.outcomes.failed noRows := by
        obtain rfl : t₁ = t'.updated rows := ht₁
        by_cases hrows : rows = 0
        · exact ⟨true, if_pos hrows⟩
        · exact ⟨t'.outcomes.noRows, if_neg hrows⟩
      refine ih fun r failed noRows => ?_
      cases r <;> exact h _ failed noRows
    · obtain rfl : t₁ = t'.fail := ht₁
      exact h _ true t'.outcomes.noRows

/-- A lookup that throws after the response makes for a second one, unless the rollback throws as
well. -/
theorem handleCreateOrder_answers (body : Except String OrderCreateReqDTO)
    (hgarbled : ∀ what ∈ garbled, body = .error what) :
    AnsweredIff (statusTally garbled) (OrderHandler.handleCreateOrder body).lift RES_ORDER_CREATE
      fun o => garbled = none ∧ o.lookupFailed = o.unrecovered := by
  refine statusTally_wp_lift.mpr ?_
  cases body with
  | error what =>
    rcases garbled with _ | text
    · simp [OrderHandler.handleCreateOrder]
    · obtain rfl : what = text := Except.error.inj (hgarbled text rfl)
      simp [OrderHandler.handleCreateOrder]
  | ok req =>
    obtain rfl : garbled = none := Option.eq_none_iff_forall_not_mem.mpr fun what hwhat =>
      nomatch hgarbled what hwhat
    simp [OrderHandler.handleCreateOrder]
    rintro now randomNum (_ | rows)
    · simp
      refine insertItems_tally fun r failed noRows => ?_
      cases r <;> simp [Tally.noting]
    · simp
      refine insertItems_tally fun r failed noRows => ?_
      cases r <;> simp [Tally.noting]

/-- A lookup that throws after the response makes for a second one. -/
theorem handleCookTimeSet_answers (body : Except String ReqCookTimeSetDTO) :
    AnsweredIff (statusTally none) (OrderHandler.handleCookTimeSet body) RES_COOK_TIME_SET
      fun o => o.lookupFailed = false := by
  unfold AnsweredIff
  cases body with
  | error what =>
    simp [OrderHandler.handleCookTimeSet, statusTally_wp_lift]
  | ok req =>
    simp [OrderHandler.handleCookTimeSet, statusTally_wp_lift]
    intro row
    cases OrderHandler.netDeliveryTime row <;> simp

end Orders

/-! ### The account -/

section Account

variable {Reply : Type} {cmdId : CmdID} {t : Tally}

@[simp] theorem accountTally_wp_setAutoCommit {on : Bool} {Q : Except Exn Unit → Tally → Prop} :
    (accountTally cmdId).wp (Dao.setAutoCommit on : AccountDao Reply Unit) Q t ↔
      Q (.ok ()) t ∧ ∀ e, Q (.error e) t.failAutoCommit :=
  (wp_op_cases trivial (fun _ _ => Iff.rfl) fun _ _ => Iff.rfl).trans
    (and_congr_left' ⟨fun h => h (), fun h _ => h⟩)

@[simp] theorem accountTally_wp_prepareStatement {Q : Except Exn Unit → Tally → Prop} :
    (accountTally cmdId).wp (Dao.prepareStatement : AccountDao Reply Unit) Q t ↔
      Q (.ok ()) t ∧ ∀ e, Q (.error e) t.fail :=
  (wp_op_cases trivial (fun _ _ => Iff.rfl) fun _ _ => Iff.rfl).trans
    (and_congr_left' ⟨fun h => h (), fun h _ => h⟩)

@[simp] theorem accountTally_wp_commit {Q : Except Exn Unit → Tally → Prop} :
    (accountTally cmdId).wp (Dao.commit : AccountDao Reply Unit) Q t ↔
      Q (.ok ()) t ∧ ∀ e, Q (.error e) t.fail :=
  (wp_op_cases trivial (fun _ _ => Iff.rfl) fun _ _ => Iff.rfl).trans
    (and_congr_left' ⟨fun h => h (), fun h _ => h⟩)

@[simp] theorem accountTally_wp_rollback {Q : Except Exn Unit → Tally → Prop} :
    (accountTally cmdId).wp (Dao.rollback : AccountDao Reply Unit) Q t ↔
      Q (.ok ()) t.rollBack ∧ ∀ e, Q (.error e) t.failRollback :=
  (wp_op_cases trivial (fun _ _ => Iff.rfl) fun _ _ => Iff.rfl).trans
    (and_congr_left' ⟨fun h => h (), fun h _ => h⟩)

@[simp] theorem accountTally_wp_executeUpdate {stmt : AccountStatement}
    {Q : Except Exn ℕ → Tally → Prop} :
    (accountTally cmdId).wp (Dao.executeUpdate stmt : AccountDao Reply ℕ) Q t ↔
      (∀ rows, Q (.ok rows) (t.updated rows)) ∧ ∀ e, Q (.error e) t.fail :=
  wp_op_cases trivial (fun _ _ => Iff.rfl) fun _ _ => Iff.rfl

theorem accountTally_wp_executeQuery {query : AccountQuery}
    {Q : Except Exn query.Answer → Tally → Prop} :
    (accountTally cmdId).wp (Dao.executeQuery query : AccountDao Reply query.Answer) Q t ↔
      (∀ a, Q (.ok a) t) ∧ ∀ e, Q (.error e) t.fail :=
  wp_op_cases trivial (fun _ _ => Iff.rfl) fun _ _ => Iff.rfl

@[simp] theorem accountTally_wp_sendPacket {reply : Reply} {Q : Except Exn Unit → Tally → Prop} :
    (accountTally cmdId).wp (Dao.sendPacket reply) Q t ↔ Q (.ok ()) (t.send cmdId) :=
  (wp_op_eq fun _ _ => Iff.rfl).trans (and_iff_right trivial)

theorem forall_exn {p : Exn → Prop} :
    (∀ e, p e) ↔ (∀ what, p (.sql what)) ∧ ∀ what, p (.std what) := by
  refine ⟨fun h => ⟨fun _ => h _, fun _ => h _⟩, fun h e => ?_⟩
  cases e with
  | sql what => exact h.1 what
  | std what => exact h.2 what

/-- Whatever becomes of the sign-up, and of its transaction, there is a response. -/
theorem handleSignup_answers (body : Except Exn SignupReqDTO) :
    AnsweredIff (accountTally RES_SIGNUP) (UserHandler.handleSignup body) RES_SIGNUP
      fun _ => True := by
  unfold AnsweredIff
  cases body with
  | error e => simp [UserHandler.handleSignup, Tally.send]
  | ok req =>
    simp [UserHandler.handleSignup, UserDAO.insertUser, UserDAO.insertRows, UserDAO.insertRole,
      Tally.send, Tally.rollBack, Tally.failRollback, Tally.failAutoCommit, Tally.fail, forall_exn]
    -- the two counts
    refine accountTally_wp_executeQuery.mpr ⟨fun ids => ⟨fun _ => rfl, fun _ => ⟨?_, rfl⟩⟩, ?_⟩
    · refine accountTally_wp_executeQuery.mpr ⟨fun phones => ⟨fun _ => rfl, fun _ => rfl⟩, ?_⟩
      rintro (what | what) <;> rfl
    · rintro (what | what) <;> rfl

theorem handleGradeUpdate_answers (body : Except Exn ReqGradeUpdateDTO) :
    AnsweredIff (accountTally RES_GRADE_UPDATE) (UserHandler.handleGradeUpdate body)
      RES_GRADE_UPDATE fun o => o.unrecovered = false := by
  unfold AnsweredIff
  cases body with
  | error e =>
    simp [UserHandler.handleGradeUpdate, Tally.send, Tally.rollBack, Tally.failRollback,
      Tally.failAutoCommit]
  | ok req =>
    by_cases huser : req.userId = ""
    · simp [UserHandler.handleGradeUpdate, huser, Tally.send, Tally.rollBack, Tally.failRollback,
        Tally.failAutoCommit]
    · simp [UserHandler.handleGradeUpdate, huser, Tally.send, Tally.rollBack, Tally.failRollback,
        Tally.failAutoCommit, Tally.fail]


end Account

/-! ### The connection -/

section Connection

variable {t : Tally}

/-- A call that throws nothing and notes nothing. -/
theorem connTally_wp_op {o : ConnOp} {Q : Except String o.Res → Tally → Prop}
    (hpost : ∀ r t', connTally.post t o r t' ↔ (∃ a, r = .ok a) ∧ t' = t) :
    connTally.wp (Prog.op o) Q t ↔ ∀ a, Q (.ok a) t := by
  refine (wp_op.trans (and_iff_right trivial)).trans ⟨fun h a => ?_, fun h r t' hr => ?_⟩
  · exact h (.ok a) t ((hpost _ _).mpr ⟨⟨a, rfl⟩, rfl⟩)
  · obtain ⟨⟨a, rfl⟩, rfl⟩ := (hpost r t').mp hr
    exact h a

@[simp] theorem connTally_wp_validateLogin {userId password : String} {role : ℤ}
    {Q : Except String (LoginResult × UserInfo) → Tally → Prop} :
    connTally.wp (ConnProg.validateLogin userId password role) Q t ↔ ∀ a, Q (.ok a) t :=
  connTally_wp_op fun _ _ => Iff.rfl

@[simp] theorem connTally_wp_authenticate {userId : String} {role : ℤ}
    {Q : Except String Unit → Tally → Prop} :
    connTally.wp (ConnProg.authenticate userId role) Q t ↔ Q (.ok ()) t :=
  (connTally_wp_op fun _ _ => Iff.rfl).trans ⟨fun h => h (), fun h _ => h⟩

@[simp] theorem connTally_wp_registerUser {userId : String} {role : ℤ}
    {Q : Except String Unit → Tally → Prop} :
    connTally.wp (ConnProg.registerUser userId role) Q t ↔ Q (.ok ()) t :=
  (connTally_wp_op fun _ _ => Iff.rfl).trans ⟨fun h => h (), fun h _ => h⟩

@[simp] theorem connTally_wp_removeUser {userId : String} {Q : Except String Unit → Tally → Prop} :
    connTally.wp (ConnProg.removeUser userId) Q t ↔ Q (.ok ()) t :=
  (connTally_wp_op fun _ _ => Iff.rfl).trans ⟨fun h => h (), fun h _ => h⟩

@[simp] theorem connTally_wp_clearAuth {Q : Except String Unit → Tally → Prop} :
    connTally.wp ConnProg.clearAuth Q t ↔ Q (.ok ()) t :=
  (connTally_wp_op fun _ _ => Iff.rfl).trans ⟨fun h => h (), fun h _ => h⟩

@[simp] theorem connTally_wp_sendLogin {res : LoginAuthResDTO}
    {Q : Except String Unit → Tally → Prop} :
    connTally.wp (ConnProg.sendLogin res) Q t ↔ Q (.ok ()) (t.send RES_LOGIN) :=
  (wp_op_eq fun _ _ => Iff.rfl).trans (and_iff_right trivial)

@[simp] theorem connTally_wp_sendLogout {status : ℤ} {message : String}
    {Q : Except String Unit → Tally → Prop} :
    connTally.wp (ConnProg.sendLogout status message) Q t ↔ Q (.ok ()) (t.send RES_LOGOUT) :=
  (wp_op_eq fun _ _ => Iff.rfl).trans (and_iff_right trivial)

/-! What the chat calls. -/

/-- The calls of the chat among those of a connection. -/
abbrev chatTally : Interface ChatOp.Res String Tally := connTally.comap ConnOp.chat

theorem chatTally_wp_op {o : ChatOp} {Q : Except String o.Res → Tally → Prop}
    (hpost : ∀ r t', chatTally.post t o r t' ↔ (∃ a, r = .ok a) ∧ t' = t) :
    chatTally.wp (Prog.op o) Q t ↔ ∀ a, Q (.ok a) t := by
  refine (wp_op.trans (and_iff_right trivial)).trans ⟨fun h a => ?_, fun h r t' hr => ?_⟩
  · exact h (.ok a) t ((hpost _ _).mpr ⟨⟨a, rfl⟩, rfl⟩)
  · obtain ⟨⟨a, rfl⟩, rfl⟩ := (hpost r t').mp hr
    exact h a

@[simp] theorem chatTally_wp_getUserId {Q : Except String String → Tally → Prop} :
    chatTally.wp ChatProg.getUserId Q t ↔ ∀ userId, Q (.ok userId) (t.asked userId) := by
  refine (wp_op.trans (and_iff_right trivial)).trans ⟨fun h userId => ?_, fun h r t' hr => ?_⟩
  · exact h (.ok userId) _ ⟨userId, rfl, rfl⟩
  · obtain ⟨userId, rfl, rfl⟩ := hr
    exact h userId

@[simp] theorem chatTally_wp_getRoom {roomId : ℤ}
    {Q : Except String (Option ChatRoom) → Tally → Prop} :
    chatTally.wp (ChatProg.getRoom roomId) Q t ↔ ∀ room, Q (.ok room) (t.found room) := by
  refine (wp_op.trans (and_iff_right trivial)).trans ⟨fun h room => ?_, fun h r t' hr => ?_⟩
  · exact h (.ok room) _ ⟨room, rfl, rfl⟩
  · obtain ⟨room, rfl, rfl⟩ := hr
    exact h room

@[simp] theorem chatTally_wp_getRole {Q : Except String ℤ → Tally → Prop} :
    chatTally.wp ChatProg.getRole Q t ↔ ∀ role, Q (.ok role) t :=
  chatTally_wp_op fun _ _ => Iff.rfl

@[simp] theorem chatTally_wp_localtime {Q : Except String String → Tally → Prop} :
    chatTally.wp ChatProg.localtime Q t ↔ ∀ now, Q (.ok now) t :=
  chatTally_wp_op fun _ _ => Iff.rfl

@[simp] theorem chatTally_wp_broadcastToRole {targetRole : ℤ} {packet : ChatPacket}
    {Q : Except String Unit → Tally → Prop} :
    chatTally.wp (ChatProg.broadcastToRole targetRole packet) Q t ↔ Q (.ok ()) t :=
  (chatTally_wp_op (o := .broadcastToRole targetRole packet) fun _ _ => Iff.rfl).trans
    ⟨fun h => h (), fun h _ => h⟩

@[simp] theorem chatTally_wp_sendToUser {userId : String} {packet : ChatPacket}
    {Q : Except String Bool → Tally → Prop} :
    chatTally.wp (ChatProg.sendToUser userId packet) Q t ↔ ∀ reached, Q (.ok reached) t :=
  chatTally_wp_op fun _ _ => Iff.rfl

@[simp] theorem chatTally_wp_sendPacket {packet : ChatPacket}
    {Q : Except String Unit → Tally → Prop} :
    chatTally.wp (ChatProg.sendPacket packet) Q t ↔ Q (.ok ()) (t.send packet.cmdId) :=
  (wp_op_eq fun _ _ => Iff.rfl).trans (and_iff_right trivial)

/-- An exception of a login is only printed; `validateLogin` throws none. -/
theorem handleLogin_answers (body : Except String LoginReqDTO) :
    AnsweredIff connTally (UserHandler.handleLogin body) RES_LOGIN fun _ => IsOk body := by
  unfold AnsweredIff
  cases body with
  | error what => simp [UserHandler.handleLogin]
  | ok req =>
    simp [UserHandler.handleLogin]
    intro result userJson
    cases result <;> simp [Tally.send]

theorem handleLogout_answers :
    AnsweredIff connTally UserHandler.handleLogout RES_LOGOUT fun _ => True := by
  simp [AnsweredIff, UserHandler.handleLogout, Tally.send, Tally.asked]
  intro userId
  split <;> rfl

theorem handleChatRequest_answers (body : Except String ReqChatConnectDTO) :
    AnsweredIff connTally (ConnProg.chat (ChatHandler.handleChatRequest body)) RES_CHAT_CONNECT
      fun o => IsOk body ∧ o.nobody = false := by
  unfold AnsweredIff
  cases body with
  | error what => simp [ChatHandler.handleChatRequest]
  | ok req =>
    simp [ChatHandler.handleChatRequest, Tally.send, Tally.asked]
    intro userId
    by_cases huser : userId = "" <;> simp [huser]

theorem handleChatSend_answers (body : Except String ReqChatSendDTO) :
    AnsweredIff connTally (ConnProg.chat (ChatHandler.handleChatSend body)) RES_CHAT_SEND
      fun o => IsOk body ∧ o.noRoom = false := by
  unfold AnsweredIff
  cases body with
  | error what => simp [ChatHandler.handleChatSend]
  | ok req =>
    simp [ChatHandler.handleChatSend, Tally.found]
    intro room
    cases room <;> simp [Tally.send]

end Connection

end ItsBedalyo
