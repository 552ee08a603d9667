import ItsBedalyo.Database.StoredTables
import ItsBedalyo.Handler.AnsweredOnce
import ItsBedalyo.Handler.DeliveryCall
import ItsBedalyo.Handler.SettingsSaved

/-!
# The columns that an update touches

A change of the order's state, an edit of a menu and its sold-out mark write every column that the
request can name, those that it does not name with a default; the change of a store's settings
writes what is named. A column that is not named keeps its value exactly if the default that is
written in its place is what the column holds (`keepsUnnamed_iff`).
-/

namespace ItsBedalyo.UpdatedColumns

open Pages Dispatcher

variable {D α : Type}

/-! ### The change of a state, query by query -/

namespace OrderHandler

open DeliveryCall (CallProg CallOp)

def updateState : String := "UPDATE ORDERS SET order_status = ? WHERE order_id = ?"

/-- What follows the update. -/
def announce (req : ReqChangeOrderStateDTO) (affected : ℕ) : CallProg D Unit := do
  if affected > 0 then
    Prog.op (CallOp.sendPacket
      { cmdId := CmdID.RES_CHANGE_ORDER_STATE, status := 200,
        message := "주문 상태가 성공적으로 변경되었습니다." })
    let customerId ← DeliveryCall.db (DeliveryCall.getCustomerIdByOrderId req.orderId)
    if customerId ≠ "" then
      Prog.op (CallOp.sendToUser customerId (.orderState req.orderId req.newState
        (ItsBedalyo.OrderHandler.stateMessage req.newState)))
    else
      pure ()
  else
    throw "주문을 찾을 수 없거나 DB 업데이트에 실패했습니다."

/-- The reply after an exception. -/
def refuse : CallProg D Unit :=
  Prog.op (CallOp.sendPacket
    { cmdId := CmdID.RES_CHANGE_ORDER_STATE, status := 500,
      message := "상태 변경 중 서버 오류가 발생했습니다." })

/-- `handleChangeOrderState` -/
def handleChangeOrderState (body : Except String ReqChangeOrderStateDTO) : CallProg D Unit := do
  try
    let req ← Prog.ofExcept body
    let affected ← DeliveryCall.db
      (DbProg.update updateState [.int (.ofInt req.newState), .string req.orderId])
    announce req affected
  catch _ => refuse

end OrderHandler

/-! ### The requests -/

/-- A column of a table, with the key that it comes from. -/
structure Field where
  table : String
  key : String
  column : String
  deriving DecidableEq

/-- The requests that write all columns they can name. -/
inductive WholeUpdate
  | changeState
  /-- `handleMenuEdit` with the `actionType` 1 -/
  | menuEdit
  | menuSoldOut
  deriving DecidableEq

namespace WholeUpdate

/-- The fields, with what is written for one that is missing. -/
def fields : WholeUpdate → List (Field × SqlParam)
  | changeState => [(⟨"ORDERS", "newState", "order_status"⟩, .int 0)]
  | menuEdit =>
    [(⟨"MENUS", "menuName", "menu_name"⟩, .string ""),
     (⟨"MENUS", "basePrice", "base_price"⟩, .int 0),
     (⟨"MENUS", "menuCategory", "menu_category"⟩, .string "기본 메뉴"),
     (⟨"MENUS", "isPopular", "is_popular"⟩, .boolean false),
     (⟨"MENUS", "description", "description"⟩, .string ""),
     (⟨"MENUS", "isSoldOut", "is_sold_out"⟩, .boolean false),
     (⟨"MENUS", "optionGroups", "menu_options"⟩, .string "[]")]
  | menuSoldOut => [(⟨"MENUS", "isSoldOut", "is_sold_out"⟩, .string "0")]

/-- The object that has the fields. -/
def object (req : Json D) : WholeUpdate → Json D
  | menuEdit => MenuEdit.menuData req
  | changeState | menuSoldOut => req

variable [Double D] (text : JsonParser D) (req : Json D)

/-- The statement of a request, and its values. -/
def sent : WholeUpdate → Except JsonError (String × List SqlParam)
  | changeState => do
    let dto ← changeOrderStateReq req
    pure (OrderHandler.updateState, [.int (.ofInt dto.newState), .string dto.orderId])
  | menuEdit => do
    let storeId ← req.value "storeId" (0 : Int32)
    let menuId ← (MenuEdit.menuData req).value "menuId" (0 : Int32)
    let data ← MenuEdit.readData text.toJsonText (MenuEdit.menuData req)
    let isSoldOut ← (MenuEdit.menuData req).value "isSoldOut" false
    pure (Pages.MenuHandler.updateMenu,
      [.string data.menuName, .int data.basePrice, .string data.menuCategory,
       .boolean data.isPopular, .string data.description, .boolean isSoldOut,
       .string data.menuOptions, .int menuId, .int storeId])
  | menuSoldOut => do
    let menuId ← req.value "menuId" (0 : Int32)
    let isSoldOut ← req.value "isSoldOut" false
    pure ("UPDATE MENUS SET is_sold_out=? WHERE menu_id=?",
      [.string (if isSoldOut then "1" else "0"), .string (toString menuId.toInt)])

/-- What the statement changes, and where. -/
def change : WholeUpdate → Sql.Change
  | changeState => ⟨"ORDERS", ["order_status"], ["order_id"]⟩
  | menuEdit =>
    ⟨"MENUS", ["menu_name", "base_price", "menu_category", "is_popular", "description",
      "is_sold_out", "menu_options"], ["menu_id", "store_id"]⟩
  | menuSoldOut => ⟨"MENUS", ["is_sold_out"], ["menu_id"]⟩

end WholeUpdate

/-- The requests. -/
inductive UpdateRequest
  | whole (update : WholeUpdate)
  | storeInfo
  deriving DecidableEq

namespace UpdateRequest

/-- The fields that a request can name. -/
def fields (D : Type) [Double D] : UpdateRequest → List Field
  | whole update => update.fields.map Prod.fst
  | storeInfo => Pages.StoreHandler.SettingsTable.all.flatMap fun t =>
    (t.settings : List (Pages.StoreHandler.Setting D)).map fun setting =>
      ⟨t.name, setting.key, setting.column⟩

/-- The object that has the fields. -/
def object (req : Json D) : UpdateRequest → Json D
  | whole update => update.object req
  | storeInfo => req

/-- The request names the column. -/
def Names [Double D] (request : UpdateRequest) (req : Json D) (table column : String) : Prop :=
  ∃ field ∈ request.fields D, field.table = table ∧ field.column = column ∧
    (request.object req).contains field.key = true

end UpdateRequest

/-! ### The tables afterwards -/

section Tables

variable [Double D] (server : SqlServer D) (others : (o : PageOp D) → o.Res) (memory : Int32)
  (text : JsonParser D) (jsonBody : String) (db : Sql.Tables (Cell D))

/-- The calls of the change of a state. -/
def callAnswer (db : Sql.Tables (Cell D)) (o : DeliveryCall.CallOp D) :
    Except String o.Res × Sql.Tables (Cell D) :=
  match o with
  | .db o => (server.answer db o).map (Except.mapError fun e => e.what) id
  | .uninitialised => (.ok memory, db)
  | .sendPacket _ | .sendToUser _ _ | .broadcastToRole _ _ => (.ok (), db)

/-- The tables after a request. -/
def tablesAfter : UpdateRequest → Sql.Tables (Cell D)
  | .whole .changeState =>
    ((OrderHandler.handleChangeOrderState (text.readAs changeOrderStateReq jsonBody)).play
      (callAnswer server memory) db).2.1
  | .whole .menuEdit =>
    ((Pages.MenuHandler.handleMenuEdit text jsonBody).play (server.pageAnswer others) db).2.1
  | .whole .menuSoldOut =>
    ((Pages.MenuHandler.handleMenuSoldOut text jsonBody).play (server.pageAnswer others) db).2.1
  | .storeInfo =>
    ((Pages.StoreHandler.handleStoreInfoUpdateReq text jsonBody).play
      (server.pageAnswer others) db).2.1

/-- Calls that change tables. -/
def isUpdate : DbOp D → Bool
  | .executeUpdate _ _ => true
  | _ => false

theorem answer_state (db : Sql.Tables (Cell D)) (o : DbOp D) (h : isUpdate o = false) :
    (server.answer db o).2 = db := by
  rw [SqlServer.answer]
  cases server.refuses o with
  | some e => rfl
  | none =>
    cases o with
    | executeUpdate query params => exact absurd h.symm Bool.false_ne_true
    | _ => rfl

/-- Calls of a page that change tables. -/
def isPageUpdate : PageOp D → Bool
  | .db o => isUpdate o
  | _ => false

theorem pageAnswer_state (db : Sql.Tables (Cell D)) (o : PageOp D) (h : isPageUpdate o = false) :
    (server.pageAnswer others db o).2 = db := by
  cases o with
  | db o => exact answer_state server db o h
  | _ => rfl

/-- Calls of the change of a state that change tables. -/
def isCallUpdate : DeliveryCall.CallOp D → Bool
  | .db o => isUpdate o
  | _ => false

theorem callAnswer_state (db : Sql.Tables (Cell D)) (o : DeliveryCall.CallOp D)
    (h : isCallUpdate o = false) : (callAnswer server memory db o).2 = db := by
  cases o with
  | db o => exact answer_state server db o h
  | _ => rfl

/-- The calls of the database are those of the handler. -/
theorem play_db (p : DbProg D α) : (DeliveryCall.db p).play (callAnswer server memory) db =
    (p.play server.answer db).map (Except.mapError fun e => e.what)
      (Prod.map id (List.map DeliveryCall.CallOp.db)) := by
  induction p generalizing db with
  | ret a => rfl
  | fail e => rfl
  | call o k ih =>
    rw [DeliveryCall.db, Prog.play, Prog.play]
    have hcall : callAnswer server memory db (.db o) =
        ((server.answer db o).1.mapError fun e => e.what, (server.answer db o).2) := rfl
    rw [hcall]
    rcases server.answer db o with ⟨e | a, db'⟩
    · rw [ih]
      rfl
    · rw [ih]
      rfl

omit [Double D] in
theorem avoids_db {p : DbProg D α} (h : p.Avoids isUpdate) :
    (DeliveryCall.db p).Avoids isCallUpdate := by
  induction p with
  | ret a => trivial
  | fail e => trivial
  | call o k ih => exact ⟨h.1, fun r => ih _ (h.2 _)⟩

omit [Double D] in
theorem avoids_getCustomerIdByOrderId (orderId : String) :
    (DeliveryCall.getCustomerIdByOrderId orderId : DbProg D String).Avoids isUpdate := by
  refine .tryCatch (.bind (.bind (.op rfl) fun _ => .op rfl) fun rows => ?_) fun _ => .pure _
  refine .bind (.bind (.op rfl) fun _ => .pure _) fun found => ?_
  cases found with
  | none => exact .pure _
  | some row => exact .bind (.op rfl) fun _ => .pure _

omit [Double D] in
theorem avoids_announce (req : ReqChangeOrderStateDTO) (affected : ℕ) :
    (OrderHandler.announce req affected : DeliveryCall.CallProg D Unit).Avoids isCallUpdate := by
  refine .ite (.bind (.op rfl) fun _ => ?_) (.throw _)
  refine .bind (avoids_db (avoids_getCustomerIdByOrderId req.orderId)) fun _ => ?_
  exact .ite (.op rfl) (.pure _)

/-- The statement that a request comes to. -/
def statementOf (update : WholeUpdate) : Option (String × List SqlParam) :=
  (text.read jsonBody).toOption.bind fun req => (update.sent text req).toOption

/-- The tables after a statement, if there is one. -/
def afterStatement (statement : Option (String × List SqlParam)) : Sql.Tables (Cell D) :=
  match statement with
  | some (query, params) => server.after query params db
  | none => db

theorem tablesAfter_changeState :
    tablesAfter server others memory text jsonBody db (.whole .changeState) =
      afterStatement server db (statementOf text jsonBody .changeState) := by
  rw [tablesAfter]
  have hstatement : statementOf text jsonBody .changeState =
      (text.readAs changeOrderStateReq jsonBody).toOption.map fun dto =>
        (OrderHandler.updateState, [.int (.ofInt dto.newState), .string dto.orderId]) := by
    rw [statementOf, JsonParser.readAs]
    cases text.read jsonBody with
    | error what => rfl
    | ok req =>
      show (WholeUpdate.sent text req .changeState).toOption = _
      rw [WholeUpdate.sent, ok_bind, JsonParser.convert]
      cases (changeOrderStateReq req : Except JsonError ReqChangeOrderStateDTO) <;> rfl
  rw [hstatement]
  cases text.readAs changeOrderStateReq jsonBody with
  | error what => rfl
  | ok dto =>
    obtain ⟨r, ops, hplay, -⟩ := server.play_update db OrderHandler.updateState
      [.int (.ofInt dto.newState), .string dto.orderId]
    have hcode : OrderHandler.handleChangeOrderState (D := D) (.ok dto) =
        tryCatch (DeliveryCall.db (DbProg.update OrderHandler.updateState
          [.int (.ofInt dto.newState), .string dto.orderId]) >>= OrderHandler.announce dto)
          fun _ => OrderHandler.refuse := rfl
    rw [hcode, Prog.Avoids.play_state_tryCatch (callAnswer_state server memory)
      (avoids_announce dto) fun _ => .op rfl, play_db, hplay]
    rfl

omit [Double D] in
/-- A body that has been read. -/
theorem parse_of_read {req : Json D} (h : text.read jsonBody = .ok req) :
    Page.parse text jsonBody = (pure req : Page D (Json D)) := by
  rw [Page.parse, h]
  rfl

omit [Double D] in
theorem convert_of_ok {x : Except JsonError α} {a : α} (h : x = .ok a) :
    Page.ofExcept (text.convert x) = (pure a : Page D α) := by
  rw [h]
  rfl

omit [Double D] in
theorem convert_of_error {x : Except JsonError α} {e : JsonError} (h : x = .error e) :
    Page.ofExcept (text.convert x) = (throw (.std (text.conversionError e)) : Page D α) := by
  rw [h]
  rfl

omit [Double D] in
theorem avoids_pageDb {p : DbProg D α} (h : p.Avoids isUpdate) :
    (Page.db p).Avoids isPageUpdate := by
  induction p with
  | ret a => trivial
  | fail e => trivial
  | call o k ih =>
    rw [Page.db]
    refine ⟨h.1, fun r => ?_⟩
    rcases r with (what | what) | a
    · exact ih _ (h.2 _)
    · trivial
    · exact ih _ (h.2 _)

omit [Double D] in
theorem avoids_reply (cmdId : CmdID) (body : Json D) :
    (Page.reply cmdId body).Avoids isPageUpdate := .op rfl

theorem tablesAfter_menuSoldOut :
    tablesAfter server others memory text jsonBody db (.whole .menuSoldOut) =
      afterStatement server db (statementOf text jsonBody .menuSoldOut) := by
  rw [tablesAfter, statementOf]
  cases hread : text.read jsonBody with
  | error what =>
    rw [Pages.MenuHandler.handleMenuSoldOut, Page.parse, hread]
    rfl
  | ok req =>
    show _ = afterStatement server db (WholeUpdate.sent text req .menuSoldOut).toOption
    rw [Pages.MenuHandler.handleMenuSoldOut, parse_of_read text jsonBody hread, WholeUpdate.sent]
    rw [Prog.ret_bind]
    simp only [Page.value]
    cases hmenu : req.value "menuId" (0 : Int32) with
    | error e =>
      rw [convert_of_error text rfl]
      rfl
    | ok menuId =>
      cases hsold : req.value "isSoldOut" false with
      | error e =>
        rw [convert_of_ok text rfl, convert_of_error text rfl]
        rfl
      | ok isSoldOut =>
        obtain ⟨ops, hplay⟩ := server.play_executeUpdate db
          "UPDATE MENUS SET is_sold_out=? WHERE menu_id=?"
          [if isSoldOut then "1" else "0", toString menuId.toInt]
        rw [convert_of_ok text rfl, convert_of_ok text rfl, Prog.ret_bind, Prog.ret_bind]
        refine (Prog.Avoids.play_state_tryCatch (pageAnswer_state server others)
          (fun _ => avoids_reply _ _) fun _ => avoids_reply _ _).trans ?_
        rw [SqlServer.play_db, hplay]
        rfl

theorem tablesAfter_menuEdit (haction : ∀ req, text.read jsonBody = .ok req →
      req.value "actionType" (-1 : Int32) = .ok 1) :
    tablesAfter server others memory text jsonBody db (.whole .menuEdit) =
      afterStatement server db (statementOf text jsonBody .menuEdit) := by
  rw [tablesAfter, statementOf]
  cases hread : text.read jsonBody with
  | error what =>
    rw [Pages.MenuHandler.handleMenuEdit, Page.parse, hread]
    rfl
  | ok req =>
    show _ = afterStatement server db (WholeUpdate.sent text req .menuEdit).toOption
    -- each member of the body in turn, as the handler reads them
    have haction := haction req hread
    rw [Pages.MenuHandler.handleMenuEdit, parse_of_read text jsonBody hread, WholeUpdate.sent,
      Prog.ret_bind]
    simp only [Page.value]
    rw [convert_of_ok text haction]
    cases hstore : req.value "storeId" (0 : Int32) with
    | error e =>
      rw [convert_of_error text rfl]
      rfl
    | ok storeId =>
      rw [convert_of_ok text rfl, Prog.ret_bind, Prog.ret_bind, Pages.MenuHandler.edit]
      have hone : ¬(1 : Int32) = 0 := by decide
      simp only [if_neg hone, if_true, Page.value]
      cases hmenu : (MenuEdit.menuData req).value "menuId" (0 : Int32) with
      | error e =>
        rw [convert_of_error text rfl]
        rfl
      | ok menuId =>
        rw [convert_of_ok text rfl, Prog.ret_bind]
        -- from here on the statement is prepared, which changes no table
        have hprepare : (Page.db (DbProg.prepareStatement Pages.MenuHandler.updateMenu) :
            Page D Unit).Avoids isPageUpdate := avoids_pageDb (.op rfl)
        cases hdata : MenuEdit.readData text.toJsonText (MenuEdit.menuData req) with
        | error e =>
          rw [convert_of_error text rfl, Prog.throw_bind]
          exact (Prog.Avoids.tryCatch (.bind (.bind hprepare fun _ => .throw _) fun _ =>
            avoids_reply _ _) fun _ => avoids_reply _ _).play_state (pageAnswer_state server others)
        | ok data =>
          rw [convert_of_ok text rfl, Prog.ret_bind]
          cases hsold : (MenuEdit.menuData req).value "isSoldOut" false with
          | error e =>
            rw [convert_of_error text rfl, Prog.throw_bind]
            exact (Prog.Avoids.tryCatch (.bind (.bind hprepare fun _ => .throw _) fun _ =>
              avoids_reply _ _) fun _ => avoids_reply _ _).play_state
                (pageAnswer_state server others)
          | ok isSoldOut =>
            rw [convert_of_ok text rfl, Prog.ret_bind]
            set params : List SqlParam := [.string data.menuName, .int data.basePrice,
              .string data.menuCategory, .boolean data.isPopular, .string data.description,
              .boolean isSoldOut, .string data.menuOptions, .int menuId, .int storeId] with hparams
            obtain ⟨r, ops, hplay, -⟩ := server.play_update db Pages.MenuHandler.updateMenu params
            -- preparing and executing is what `DbProg.update` does
            have hupdate : (Page.db (DbProg.prepareStatement Pages.MenuHandler.updateMenu) >>=
                fun _ => Page.db (DbProg.executeUpdate Pages.MenuHandler.updateMenu params) >>=
                  fun _ => (pure true : Page D Bool)) =
                Page.db (DbProg.update Pages.MenuHandler.updateMenu params) >>=
                  fun _ => pure true := by
              rw [DbProg.update, db_bind, Prog.bind_assoc]
            rw [hupdate, Prog.bind_assoc]
            refine (Prog.Avoids.play_state_tryCatch (pageAnswer_state server others)
              (fun _ => .bind (.pure _) fun _ => avoids_reply _ _)
              fun _ => avoids_reply _ _).trans ?_
            rw [SqlServer.play_db, hplay]
            rfl

end Tables

/-! ### What a statement writes -/

theorem parse_updateState : Sql.Change.parse OrderHandler.updateState =
    some (WholeUpdate.change .changeState) := by
  unfold OrderHandler.updateState Sql.Change.parse
  decide +kernel

theorem parse_updateMenu : Sql.Change.parse Pages.MenuHandler.updateMenu =
    some (WholeUpdate.change .menuEdit) := by
  unfold Pages.MenuHandler.updateMenu Sql.Change.parse
  decide +kernel

theorem parse_soldOut : Sql.Change.parse "UPDATE MENUS SET is_sold_out=? WHERE menu_id=?" =
    some (WholeUpdate.change .menuSoldOut) := by
  unfold Sql.Change.parse
  decide +kernel

namespace WholeUpdate

/-- The columns of the statement are those of the fields. -/
theorem columns_eq (update : WholeUpdate) :
    update.change.columns = update.fields.map fun f => f.1.column := by
  cases update <;> rfl

theorem columns_nodup (update : WholeUpdate) : update.change.columns.Nodup := by
  cases update <;> decide

theorem table_eq {update : WholeUpdate} {f : Field × SqlParam} (hf : f ∈ update.fields) :
    f.1.table = update.change.table := by
  have hall : ∀ update : WholeUpdate, ∀ f ∈ update.fields, f.1.table = update.change.table := by
    intro update
    cases update <;> decide
  exact hall update f hf

section Sent

variable {text : JsonParser D} {req : Json D} {update : WholeUpdate}

/-- What is written for a field that is missing. -/
def Given (j : Json D) (f : Field × SqlParam) (param : SqlParam) : Prop :=
  j.find f.1.key = none → param = f.2

/-- A value that is missing is the default. -/
theorem value_of_find_eq_none {α : Type} [JsonCodec D α] {j : Json D} {key : String} {d a : α}
    (h : j.value key d = .ok a) (hnone : j.find key = none) : a = d := by
  cases j with
  | object members =>
    have hlookup : members.lookup key = none := hnone
    rw [Json.value_object, hlookup] at h
    exact (Except.ok.inj h).symm
  | _ => cases h

theorem fieldWithDefault_of_find_eq_none {α : Type} [JsonCodec D α] {j : Json D} {key : String}
    {d a : α} (h : Dto.fieldWithDefault j key d = .ok a) (hnone : j.find key = none) : a = d := by
  unfold Dto.fieldWithDefault at h
  split at h
  · exact (Except.ok.inj h).symm
  · exact value_of_find_eq_none h hnone

variable [Double D] {query : String} {params : List SqlParam}

/-- The values of the keys. -/
def keys (req : Json D) : WholeUpdate → Except JsonError (List SqlParam)
  | changeState => do
    let orderId ← Dto.fieldWithDefault req "orderId" ""
    pure [.string orderId]
  | menuEdit => do
    let storeId ← req.value "storeId" (0 : Int32)
    let menuId ← (MenuEdit.menuData req).value "menuId" (0 : Int32)
    pure [.int menuId, .int storeId]
  | menuSoldOut => do
    let menuId ← req.value "menuId" (0 : Int32)
    pure [.string (toString menuId.toInt)]

/-- A statement has what is given for each field, and then the keys. -/
theorem sent_eq_ok (h : update.sent text req = .ok (query, params)) :
    Sql.Change.parse query = some update.change ∧ ∃ given row, params = given ++ row ∧
      update.keys req = .ok row ∧ List.Forall₂ (Given (update.object req)) update.fields given := by
  cases update with
  | changeState =>
    obtain ⟨dto, hdto, hsent⟩ := Json.bind_eq_ok.mp h
    obtain ⟨orderId, horder, hdto⟩ := Json.bind_eq_ok.mp hdto
    obtain ⟨newState, hstate, hdto⟩ := Json.bind_eq_ok.mp hdto
    cases hdto
    cases hsent
    refine ⟨parse_updateState, [_], [_], rfl, Json.bind_eq_ok.mpr ⟨_, horder, rfl⟩, ?_⟩
    refine .cons (fun hnone => ?_) .nil
    rw [fieldWithDefault_of_find_eq_none hstate hnone]
    rfl
  | menuEdit =>
    obtain ⟨storeId, hstore, h⟩ := Json.bind_eq_ok.mp h
    obtain ⟨menuId, hmenu, h⟩ := Json.bind_eq_ok.mp h
    obtain ⟨data, hdata, h⟩ := Json.bind_eq_ok.mp h
    obtain ⟨isSoldOut, hsold, hsent⟩ := Json.bind_eq_ok.mp h
    obtain ⟨menuName, hname, hdata⟩ := Json.bind_eq_ok.mp hdata
    obtain ⟨basePrice, hprice, hdata⟩ := Json.bind_eq_ok.mp hdata
    obtain ⟨menuCategory, hcategory, hdata⟩ := Json.bind_eq_ok.mp hdata
    obtain ⟨isPopular, hpopular, hdata⟩ := Json.bind_eq_ok.mp hdata
    obtain ⟨description, hdescription, hdata⟩ := Json.bind_eq_ok.mp hdata
    cases hdata
    cases hsent
    refine ⟨parse_updateMenu, [_, _, _, _, _, _, _], [_, _], rfl,
      Json.bind_eq_ok.mpr ⟨_, hstore, Json.bind_eq_ok.mpr ⟨_, hmenu, rfl⟩⟩, ?_⟩
    -- a member that is missing is read as the default of its field
    refine .cons (fun hnone => ?_) (.cons (fun hnone => ?_) (.cons (fun hnone => ?_)
      (.cons (fun hnone => ?_) (.cons (fun hnone => ?_) (.cons (fun hnone => ?_)
        (.cons (fun hnone => ?_) .nil))))))
    · rw [value_of_find_eq_none hname hnone]
    · rw [value_of_find_eq_none hprice hnone]
    · rw [value_of_find_eq_none hcategory hnone]
    · rw [value_of_find_eq_none hpopular hnone]
    · rw [value_of_find_eq_none hdescription hnone]
    · rw [value_of_find_eq_none hsold hnone]
    · have hoptions : (MenuEdit.menuData req).find "optionGroups" = none := hnone
      rw [MenuEdit.menuOptionsStr, hoptions]
  | menuSoldOut =>
    obtain ⟨menuId, hmenu, h⟩ := Json.bind_eq_ok.mp h
    obtain ⟨isSoldOut, hsold, hsent⟩ := Json.bind_eq_ok.mp h
    cases hsent
    refine ⟨parse_soldOut, [_], [_], rfl, Json.bind_eq_ok.mpr ⟨_, hmenu, rfl⟩, ?_⟩
    refine .cons (fun hnone => ?_) .nil
    rw [value_of_find_eq_none hsold hnone]
    rfl

end Sent

end WholeUpdate

/-! ### Columns that keep their values -/

section Kept

variable [Double D] {server : SqlServer D} {others : (o : PageOp D) → o.Res} {memory : Int32}
  {text : JsonParser D} {jsonBody : String} {db : Sql.Tables (Cell D)} {req : Json D}

/-- **What the request does not name stays as it is**, in all rows of all tables. -/
def KeepsUnnamed (server : SqlServer D) (others : (o : PageOp D) → o.Res) (memory : Int32)
    (text : JsonParser D) (jsonBody : String) (db : Sql.Tables (Cell D)) (req : Json D)
    (request : UpdateRequest) : Prop :=
  Sql.Kept (request.Names req) db (tablesAfter server others memory text jsonBody db request)

/-- The request is read, and the database accepts its statement. -/
def WholeUpdate.Accepted (server : SqlServer D) (text : JsonParser D) (req : Json D)
    (update : WholeUpdate) : Prop :=
  ∃ query params, update.sent text req = .ok (query, params) ∧ server.refused query params = false

/-- The rows that an accepted request is for hold the defaults where it names nothing. -/
def WholeUpdate.HoldsDefaults (server : SqlServer D) (text : JsonParser D)
    (db : Sql.Tables (Cell D)) (req : Json D) (update : WholeUpdate) : Prop :=
  update.Accepted server text req → ∀ row, update.keys req = .ok row →
    ∀ stored ∈ db update.change.table, server.hits update.change row stored = true →
      ∀ f ∈ update.fields, (update.object req).contains f.1.key = false →
        stored f.1.column = server.stored update.change.table f.1.column f.2

/-! The requests that write whole rows. -/

theorem names_whole_iff {update : WholeUpdate} {column : String} :
    (UpdateRequest.whole update).Names req update.change.table column ↔
      ∃ f ∈ update.fields, f.1.column = column ∧
        (update.object req).contains f.1.key = true := by
  constructor
  · rintro ⟨_, hfield, -, hcolumn, hnamed⟩
    obtain ⟨f, hf, rfl⟩ := List.mem_map.mp hfield
    exact ⟨f, hf, hcolumn, hnamed⟩
  · rintro ⟨f, hf, hcolumn, hnamed⟩
    exact ⟨f.1, List.mem_map_of_mem hf, WholeUpdate.table_eq hf, hcolumn, hnamed⟩

/-- A statement that is run keeps what is not named exactly if that holds the defaults. -/
theorem kept_update_iff {update : WholeUpdate} {given row : List SqlParam}
    (hgiven : List.Forall₂ (WholeUpdate.Given (update.object req)) update.fields given) :
    Sql.Kept ((UpdateRequest.whole update).Names req) db
        (server.change update.change (given ++ row) db) ↔
      ∀ stored ∈ db update.change.table, server.hits update.change row stored = true →
        ∀ f ∈ update.fields, (update.object req).contains f.1.key = false →
          stored f.1.column = server.stored update.change.table f.1.column f.2 := by
  have hlength : update.change.columns.length = given.length := by
    rw [update.columns_eq, List.length_map, hgiven.length_eq]
  rw [SqlServer.change, hlength, List.drop_left, Sql.kept_run_iff]
  have hvalues : List.Forall₂ (fun f cell => ∃ p, WholeUpdate.Given (update.object req) f p ∧
      cell = server.stored update.change.table f.1.column p) update.fields
      (server.values update.change (given ++ row)) := by
    rw [SqlServer.values, update.columns_eq]
    exact server.forall₂_stored hgiven update.change.table row
  -- a column whose member is missing gets the default
  have hassign (stored : Sql.Row (Cell D)) (f) (hf : f ∈ update.fields)
      (hmissing : (update.object req).contains f.1.key = false) :
      update.change.assign (server.values update.change (given ++ row)) stored f.1.column =
        server.stored update.change.table f.1.column f.2 := by
    obtain ⟨p, hp, hcell⟩ : ∃ p, WholeUpdate.Given (update.object req) f p ∧
        update.change.assign (server.values update.change (given ++ row)) stored f.1.column =
          server.stored update.change.table f.1.column p :=
      Sql.Change.assign_of_forall₂ update.columns_eq update.columns_nodup hvalues hf
    rw [hcell, hp (Option.isSome_eq_false_iff.mp hmissing |> Option.isNone_iff_eq_none.mp)]
  refine forall₃_congr fun stored _ _ =>
    ⟨fun h f hf hmissing => ?_, fun h column hcolumn hnot => ?_⟩
  · have hcolumn : f.1.column ∈ update.change.columns :=
      update.columns_eq ▸ List.mem_map_of_mem hf
    rw [← hassign stored f hf hmissing]
    refine (h f.1.column hcolumn fun hnamed => ?_).symm
    -- each column belongs to one field
    obtain ⟨f', hf', heq, hkey⟩ := names_whole_iff.mp hnamed
    have hnodup := update.columns_nodup
    rw [update.columns_eq] at hnodup
    obtain rfl := List.inj_on_of_nodup_map hnodup hf' hf heq
    rw [hmissing] at hkey
    exact Bool.false_ne_true hkey
  · rw [update.columns_eq] at hcolumn
    obtain ⟨f, hf, rfl⟩ := List.mem_map.mp hcolumn
    have hmissing : (update.object req).contains f.1.key = false :=
      Bool.eq_false_iff.mpr fun hnamed => hnot (names_whole_iff.mpr ⟨f, hf, rfl, hnamed⟩)
    rw [hassign stored f hf hmissing, h f hf hmissing]

theorem keepsUnnamed_whole_iff {update : WholeUpdate} (hread : text.read jsonBody = .ok req)
    (haction : update = .menuEdit → req.value "actionType" (-1 : Int32) = .ok 1) :
    KeepsUnnamed server others memory text jsonBody db req (.whole update) ↔
      update.HoldsDefaults server text db req := by
  have hafter : tablesAfter server others memory text jsonBody db (.whole update) =
      afterStatement server db (update.sent text req).toOption := by
    have hstatement : statementOf text jsonBody update = (update.sent text req).toOption := by
      rw [statementOf, hread]
      rfl
    rw [← hstatement]
    cases update with
    | changeState => exact tablesAfter_changeState server others memory text jsonBody db
    | menuEdit =>
      refine tablesAfter_menuEdit server others memory text jsonBody db fun req' hread' => ?_
      obtain rfl := Except.ok.inj (hread.symm.trans hread')
      exact haction rfl
    | menuSoldOut => exact tablesAfter_menuSoldOut server others memory text jsonBody db
  rw [KeepsUnnamed, hafter]
  cases hsent : update.sent text req with
  | error e =>
    -- not sent: no table changes, and no default has to be held
    refine iff_of_true (Sql.Kept.refl db) fun haccepted => ?_
    obtain ⟨query, params, hok, -⟩ := haccepted
    rw [hsent] at hok
    cases hok
  | ok statement =>
    obtain ⟨query, params⟩ := statement
    obtain ⟨hparse, given, row, rfl, hkeys, hgiven⟩ := WholeUpdate.sent_eq_ok hsent
    show Sql.Kept _ db (server.after query (given ++ row) db) ↔ _
    rw [SqlServer.after]
    cases hrefused : server.refused query (given ++ row) with
    | true =>
      -- sent, but refused by the server
      refine iff_of_true (Sql.Kept.refl db) fun haccepted => ?_
      obtain ⟨query', params', hok, haccepts⟩ := haccepted
      rw [hsent] at hok
      cases hok
      rw [hrefused] at haccepts
      cases haccepts
    | false =>
      rw [if_neg Bool.false_ne_true, SqlServer.update, hparse]
      refine (kept_update_iff hgiven).trans ⟨fun h _ row' hrow' => ?_, fun h => ?_⟩
      · obtain rfl := Except.ok.inj (hkeys.symm.trans hrow')
        exact h
      · exact h ⟨query, _, hsent, hrefused⟩ row hkeys

/-! The request that writes what it names. -/

open Pages.StoreHandler (SettingsTable Reaches)

theorem names_of_mem_named {t : SettingsTable} {column : String}
    (h : column ∈ (Pages.StoreHandler.named req t).map (·.column)) :
    UpdateRequest.storeInfo.Names req t.name column := by
  obtain ⟨setting, hsetting, rfl⟩ := List.mem_map.mp h
  obtain ⟨hmem, hcontains⟩ := List.mem_filter.mp hsetting
  have ht : t ∈ SettingsTable.all := by cases t <;> decide
  exact ⟨_, List.mem_flatMap.mpr ⟨t, ht, List.mem_map_of_mem hmem⟩, rfl, rfl, hcontains⟩

/-- A stage keeps what is not named. -/
theorem kept_stage (h : Pages.StoreHandler.Accepted req) (rowKey : SettingsTable → String)
    (t : SettingsTable) (s : Bool × Sql.Tables (Cell D)) :
    Sql.Kept (UpdateRequest.storeInfo.Names req) s.2
      (Pages.StoreHandler.stage server req rowKey t s).2 := by
  rw [Pages.StoreHandler.stage]
  split
  · next hstage =>
    cases hrefuses : Pages.StoreHandler.refusesStage server req rowKey t with
    | true =>
      have hsame : Pages.StoreHandler.afterStage server req rowKey t s.2 = s.2 :=
        Pages.StoreHandler.afterStage_of_refuses server hrefuses
      show Sql.Kept _ s.2 (Pages.StoreHandler.afterStage server req rowKey t s.2)
      rw [hsame]
      exact Sql.Kept.refl s.2
    | false =>
      obtain ⟨values, -, hrun⟩ :=
        Pages.StoreHandler.exists_afterStage server rowKey h hstage.2
      show Sql.Kept _ s.2 (Pages.StoreHandler.afterStage server req rowKey t s.2)
      rw [hrun s.2 hrefuses, Sql.kept_run_iff]
      exact fun _ _ _ column hcolumn hnot => absurd (names_of_mem_named hcolumn) hnot
  · exact Sql.Kept.refl s.2

theorem kept_saved (h : Pages.StoreHandler.Accepted req) (rowKey : SettingsTable → String) :
    Sql.Kept (UpdateRequest.storeInfo.Names req) db
      (Pages.StoreHandler.saved server req rowKey db).2 := by
  have hstages (tables : List SettingsTable) (s : Bool × Sql.Tables (Cell D)) :
      Sql.Kept (UpdateRequest.storeInfo.Names req) s.2
        (tables.foldl (fun s t => Pages.StoreHandler.stage server req rowKey t s) s).2 := by
    induction tables generalizing s with
    | nil => exact Sql.Kept.refl s.2
    | cons t tables ih => exact (kept_stage h rowKey t s).trans (ih _)
  exact hstages SettingsTable.all (true, db)

theorem keepsUnnamed_storeInfo (hread : text.read jsonBody = .ok req) :
    KeepsUnnamed server others memory text jsonBody db req .storeInfo := by
  rw [KeepsUnnamed, tablesAfter]
  by_cases hreaches : ∃ req storeId, Reaches text jsonBody req storeId
  · obtain ⟨req', storeId, h⟩ := hreaches
    obtain rfl := Except.ok.inj (hread.symm.trans h.read)
    obtain ⟨ops, hplay, -⟩ := Pages.StoreHandler.play_of_reaches server others db h
    rw [hplay]
    exact kept_saved h.accepted _
  · obtain ⟨ops, status, message, hplay, -⟩ :=
      Pages.StoreHandler.play_of_not_reaches server others db
        fun req storeId h => hreaches ⟨req, storeId, h⟩
    rw [hplay]
    exact Sql.Kept.refl db

/-- **Columns that a request does not name keep their values exactly if** the rows that it is for
hold what it writes in their place; a change of settings writes nothing there. -/
theorem keepsUnnamed_iff (request : UpdateRequest) (hread : text.read jsonBody = .ok req)
    (haction : request = .whole .menuEdit → req.value "actionType" (-1 : Int32) = .ok 1) :
    KeepsUnnamed server others memory text jsonBody db req request ↔
      ∀ update, request = .whole update → update.HoldsDefaults server text db req := by
  cases request with
  | whole update =>
    rw [keepsUnnamed_whole_iff hread fun hedit => haction (congrArg _ hedit)]
    refine ⟨fun h update' heq => ?_, fun h => h update rfl⟩
    obtain rfl := UpdateRequest.whole.inj heq
    exact h
  | storeInfo =>
    refine iff_of_true (keepsUnnamed_storeInfo hread) fun update heq => ?_
    cases heq

end Kept

/-! ### A change without a state -/

/-- A database that stores values as they are and refuses nothing. -/
def storesAll : SqlServer Float where
  collation := .upTo id
  stored _ _ value := value.cell
  refuses _ := none
  finds _ _ _ := []
  others db _ _ := (0, db)

/-- An order that is cooked. -/
def cookedOrder : Sql.Tables (Cell Float) := fun table =>
  if table = "ORDERS" then
    [fun column => if column = "order_id" then .string "ORD-1" else .int 2]
  else []

/-- The order, and no state. -/
def noState : Json Float := .object [("orderId", .string "ORD-1")]

/-- A new price, and no name. -/
def priceOnly : Json Float := .object
  [("storeId", .numberInteger 3), ("actionType", .numberInteger 1),
   ("menuData", .object [("menuId", .numberInteger 7), ("basePrice", .numberInteger 9000)])]

theorem keepsUnnamed_iff_priceOnly :
    KeepsUnnamed storesAll idle 0 (.knowing "edit" priceOnly) "edit" cookedOrder priceOnly
        (.whole .menuEdit) ↔
      ∀ update, UpdateRequest.whole .menuEdit = .whole update →
        update.HoldsDefaults storesAll (.knowing "edit" priceOnly) cookedOrder priceOnly :=
  keepsUnnamed_iff (.whole .menuEdit) (JsonParser.read_knowing _ (by decide)) fun _ => rfl

/-- **The order is pending again.** -/
theorem not_keepsUnnamed_noState :
    ¬KeepsUnnamed storesAll idle 0 (.knowing "state" noState) "state" cookedOrder noState
      (.whole .changeState) := by
  have hread : (JsonParser.knowing "state" noState).read "state" = .ok noState :=
    JsonParser.read_knowing _ (by decide)
  intro h
  have hholds := (keepsUnnamed_whole_iff hread fun hedit => by cases hedit).mp h
  have hstate := hholds ⟨_, _, rfl, rfl⟩ [.string "ORD-1"] rfl _ List.mem_cons_self rfl _
    List.mem_cons_self rfl
  exact absurd (Cell.int.inj hstate) (by decide)

end ItsBedalyo.UpdatedColumns
