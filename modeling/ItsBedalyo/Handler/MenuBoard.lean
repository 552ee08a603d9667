import ItsBedalyo.Handler.LinearPages
import ItsBedalyo.Handler.MenuHandler
import ItsBedalyo.Handler.StorePages
import ItsBedalyo.Lib.Decimal

/-!
# Menus, edited and looked at at the same time

The requests of `MenuHandler.cpp` are handled at the same time, one call at a time, in any order,
and any call of the database may throw. Each sends one statement or query for `MENUS`, so that it
is as good as done at once there (`board_of_run`): the packets and the table are those of the
handlers of `MenuHandler.lean`, one after another.

A query without `ORDER BY` finds rows in any order. The column `menu_id` is compared with the text
that `handleMenuSoldOut` gives for it.
-/

namespace ItsBedalyo.Pages.MenuBoard

open Dto Ledger OneStep Transition

variable {ι D : Type} [Double D]

/-! ### The statements -/

/-- The statements that write `MENUS`. -/
inductive Statement
  | edit (edit : MenuEdit)
  | soldOut (isSoldOut menuId : String)

def deleteMenu : String := "DELETE FROM MENUS WHERE menu_id=? AND store_id=?"

def soldOutMenu : String := "UPDATE MENUS SET is_sold_out=? WHERE menu_id=?"

/-- The statement with this text and these values. -/
def Statement.of (query : String) : List SqlParam → Option Statement
  | [.int storeId, .string menuName, .int basePrice, .string menuCategory, .boolean isPopular,
     .string description, .string menuOptions] =>
    if query = MenuHandler.insertMenu then some (.edit (.add storeId
      ⟨menuName, basePrice, menuCategory, isPopular, description, menuOptions⟩)) else none
  | [.string menuName, .int basePrice, .string menuCategory, .boolean isPopular,
     .string description, .boolean isSoldOut, .string menuOptions, .int menuId, .int storeId] =>
    if query = MenuHandler.updateMenu then some (.edit (.modify storeId menuId
      ⟨menuName, basePrice, menuCategory, isPopular, description, menuOptions⟩ isSoldOut)) else none
  | [.int menuId, .int storeId] =>
    if query = deleteMenu then some (.edit (.delete storeId menuId)) else none
  | [.string isSoldOut, .string menuId] =>
    if query = soldOutMenu then some (.soldOut isSoldOut menuId) else none
  | _ => none

/-- The queries for `MENUS`. -/
inductive Query
  | ofStore (storeId : Int32)
  | options (menuId : Int32)

def storeQuery : String :=
  "SELECT menu_id, menu_name, base_price, is_sold_out, " ++
  "menu_category, is_popular, description, image_url, menu_options " ++
  "FROM MENUS WHERE store_id = ?"

def optionsQuery : String := "SELECT menu_options FROM MENUS WHERE menu_id = ?"

/-- The query with this text and these values. -/
def Query.of (query : String) : List SqlParam → Option Query
  | [.int n] =>
    if query = storeQuery then some (.ofStore n)
    else if query = optionsQuery then some (.options n)
    else none
  | _ => none

/-- The two texts are different. -/
theorem optionsQuery_ne : optionsQuery ≠ storeQuery := by
  decide +kernel

/-! ### What the calls do -/

/-- What a call has done: it has edited a menu, or marked one, or found menus, or sent a packet, or
thrown. -/
inductive Event (D : Type)
  | edited (edit : MenuEdit) (newId : Int32)
  | marked (isSoldOut menuId : String)
  | listed (storeId : Int32) (found : List MenuRow)
  | looked (menuId : Int32) (found : Option MenuRow)
  | replied (packet : Packet D)
  | failed

/-- What is up to the database: the next `AUTO_INCREMENT` value, how many rows it says have been
changed, and the order of the rows that are found. -/
structure Choice where
  newId : Int32
  changed : ℕ
  found : List MenuRow

/-- The rows of a store. -/
def menusOf (t : MenuTable) (storeId : Int32) : List MenuRow := t.rows.filter (·.storeId = storeId)

/-- The row of a menu. -/
def menuOf (t : MenuTable) (menuId : Int32) : Option MenuRow := t.rows.find? (·.menuId = menuId)

/-- `SET is_sold_out=? WHERE menu_id=?` -/
def markSoldOut (isSoldOut menuId : String) (t : MenuTable) : MenuTable :=
  t.update (fun row => toString row.menuId.toInt = menuId)
    (fun row => { row with isSoldOut := isSoldOut = "1" }) fun _ => rfl

def storeRow (row : MenuRow) : ResultRow D := .of
  [("menu_id", .int row.menuId), ("menu_name", .string row.menuName),
   ("base_price", .int row.basePrice), ("is_sold_out", .boolean row.isSoldOut),
   ("menu_category", .ofText? row.menuCategory), ("is_popular", .boolean row.isPopular),
   ("description", .ofText? row.description), ("image_url", .ofText? row.imageUrl),
   ("menu_options", .ofText? row.menuOptions)]

def optionsRow (row : MenuRow) : ResultRow D := .of [("menu_options", .ofText? row.menuOptions)]

namespace Event

/-- What an event does to the menus. -/
def effect : Event D → MenuTable → MenuTable
  | edited edit newId, t => (edit.execute newId t).getD t
  | marked isSoldOut menuId, t => markSoldOut isSoldOut menuId t
  | _, t => t

/-- What holds where it happens. -/
def Holds (t : MenuTable) : Event D → Prop
  | edited edit newId => edit.execute newId t ≠ none
  | listed storeId found => found.Perm (menusOf t storeId)
  | looked menuId found => found = menuOf t menuId
  | _ => True

def packet : Event D → Option (Packet D)
  | replied packet => some packet
  | _ => none

end Event

/-- What the calls do. No other statement or query is sent. -/
def ledger : Ledger D MenuTable Choice (Event D) where
  write t choice query params :=
    match Statement.of query params with
    | some (.edit edit) =>
      if (edit.execute choice.newId t).isSome then
        some (choice.changed, some (.edited edit choice.newId))
      else none
    | some (.soldOut isSoldOut menuId) => some (choice.changed, some (.marked isSoldOut menuId))
    | none => none
  find t choice query params :=
    match Query.of query params with
    | some (.ofStore storeId) =>
      if choice.found.Perm (menusOf t storeId) then
        some (choice.found.map storeRow, some (.listed storeId choice.found))
      else none
    | some (.options menuId) =>
      some ((menuOf t menuId).toList.map optionsRow, some (.looked menuId (menuOf t menuId)))
    | none => none
  after t _ event := event.effect t
  sent cmdId body := .replied (cmdId, body)
  failed := .failed

/-! ### The requests -/

/-- The requests. -/
inductive Kind
  | list
  | edit
  | soldOut
  | option
  deriving DecidableEq

structure Request where
  kind : Kind
  jsonBody : String

section Requests

variable (text : JsonParser D) (request : Request)

/-- Its handler. -/
def Request.handle : Page D Unit :=
  match request.kind with
  | .list => MenuHandler.handleMenuListRequest text request.jsonBody
  | .edit => MenuHandler.handleMenuEdit text request.jsonBody
  | .soldOut => MenuHandler.handleMenuSoldOut text request.jsonBody
  | .option => MenuHandler.handleMenuOption text request.jsonBody

/-- An element of `menus`. -/
def entryJson (entry : ItsBedalyo.MenuHandler.MenuEntry D) : Json D := .object
  [("menuId", encode entry.menuId), ("menuName", encode entry.menuName),
   ("basePrice", encode entry.basePrice), ("isSoldOut", encode entry.isSoldOut),
   ("menuCategory", encode entry.menuCategory), ("isPopular", encode entry.isPopular),
   ("description", encode entry.description), ("imageUrl", encode entry.imageUrl),
   ("optionGroups", entry.optionGroups)]

/-- The reply to a request for the menus. -/
def listJson (res : ItsBedalyo.MenuHandler.ResMenuList D) : Json D :=
  if res.status = 200 then .object
    [("status", encode res.status), ("message", encode res.message),
     ("storeId", encode res.storeId), ("menus", .array (res.menus.map entryJson))]
  else statusMessage res.status res.message

/-- The message of a reply to an edit. -/
def editMessage (status : Int32) : String :=
  if status = 200 then "메뉴 변경 완료"
  else if status = 400 then "잘못된 actionType"
  else "서버 내부 오류"

/-- The messages of a reply to a mark. -/
def soldOutMessages (status : Int32) : List String :=
  if status = 200 then ["품절 상태 변경 완료"] else ["DB 오류", "서버 내부 오류"]

/-- An edit cannot be made with this key. -/
def Request.Clashes (newId : Int32) (t : MenuTable) : Prop :=
  ∃ req edit, text.parse request.jsonBody = some req ∧
    MenuEdit.read text.toJsonText req = .ok edit ∧ edit.execute newId t = none

/-- A request that is done at once by its handler of `MenuHandler.lean`. Only where a call has
failed may the server have refused its statement, or a page say that there is nothing to see. -/
def Request.done : Spec D MenuTable := fun failed t packet t' =>
  match request.kind with
  | .list => t' = t ∧
    ∃ res, ItsBedalyo.MenuHandler.handleMenuListRequest text.toJsonText request.jsonBody
      ⟨t, [], []⟩ = some res ∧
    ((∃ menus, menus.Perm res.menus ∧
      packet = (CmdID.RES_MENU_LIST, some (listJson { res with menus }))) ∨
    failed ∧ packet = (CmdID.RES_MENU_LIST, some (statusMessage 500 "서버 내부 오류")))
  | .edit => ∃ refused newId status, (refused = true ∨ request.Clashes text newId t → failed) ∧
    ItsBedalyo.MenuHandler.handleMenuEdit text.toJsonText refused newId request.jsonBody t =
      (some status, t') ∧
    packet = (CmdID.RES_MENU_EDIT, some (statusMessage status (editMessage status)))
  | .soldOut => ∃ refused status, ∃ message ∈ soldOutMessages status, (refused = true → failed) ∧
    ItsBedalyo.MenuHandler.handleMenuSoldOut text.toJsonText refused request.jsonBody t =
      (some status, t') ∧
    packet = (CmdID.RES_MENU_SOLD_OUT, some (statusMessage status message))
  | .option => t' = t ∧ ∃ res : ResMenuOptionDTO,
    packet = (CmdID.RES_MENU_OPTION, some res.toJson) ∧
    (res = ItsBedalyo.MenuHandler.handleMenuOption text.toJsonText request.jsonBody ⟨t, [], []⟩ ∨
    failed ∧ res = { ItsBedalyo.MenuHandler.handleMenuOption text.toJsonText request.jsonBody
      ⟨t, [], []⟩ with optionGroups := [] })

end Requests

/-! ### One step -/

section Board

variable {text : JsonParser D} {request : Request}

omit [Double D] in
/-- What the statements and the queries do. -/
def board : OneStep (ledger : Ledger D MenuTable Choice (Event D)) where
  effect := Event.effect
  holds := Event.Holds
  packet := Event.packet
  write {t choice query params n event} h := by
    cases hof : Statement.of query params with
    | none => simp only [ledger, hof, reduceCtorEq] at h
    | some statement =>
      cases statement with
      | edit edit =>
        simp only [ledger, hof] at h
        obtain ⟨hsome, heq⟩ := Option.ite_none_right_eq_some.mp h
        cases heq
        exact Option.isSome_iff_ne_none.mp hsome
      | soldOut isSoldOut menuId =>
        simp only [ledger, hof] at h
        cases h
        trivial
  find {t choice query params rows event} h := by
    cases hof : Query.of query params with
    | none => simp only [ledger, hof, reduceCtorEq] at h
    | some asked =>
      cases asked with
      | ofStore storeId =>
        simp only [ledger, hof] at h
        obtain ⟨hperm, heq⟩ := Option.ite_none_right_eq_some.mp h
        cases heq
        exact hperm
      | options menuId =>
        simp only [ledger, hof] at h
        cases h
        rfl
  sent _ _ _ := ⟨trivial, rfl⟩
  failed _ := ⟨trivial, rfl⟩
  after _ _ _ := rfl
  packet_sent _ _ := rfl
  packet_failed := rfl

theorem widens_done : Widens (request.done text) := by
  intro p q t packet t' hpq hdone
  rw [Request.done] at hdone ⊢
  cases hkind : request.kind with
  | list =>
    simp only [hkind] at hdone ⊢
    obtain ⟨ht, res, hres, hpacket⟩ := hdone
    exact ⟨ht, res, hres, hpacket.imp_right (And.imp_left hpq)⟩
  | edit =>
    simp only [hkind] at hdone ⊢
    obtain ⟨refused, newId, status, hfailed, hstatus⟩ := hdone
    exact ⟨refused, newId, status, fun h => hpq (hfailed h), hstatus⟩
  | soldOut =>
    simp only [hkind] at hdone ⊢
    obtain ⟨refused, status, message, hmessage, hfailed, hstatus⟩ := hdone
    exact ⟨refused, status, message, hmessage, fun h => hpq (hfailed h), hstatus⟩
  | option =>
    simp only [hkind] at hdone ⊢
    obtain ⟨ht, res, hpacket, hres⟩ := hdone
    exact ⟨ht, res, hpacket, hres.imp_right (And.imp_left hpq)⟩

variable (text) in
/-- The calls of a request that does what it may. -/
abbrev boarding (request : Request) : Interface (@PageOp.Res D) Exn (List (Event D)) :=
  (ledger : Ledger D _ _ _).permits (board.May (request.done text))

/-! #### The menus of a store -/

section List

variable {req : Json D} {storeId : Int32}

theorem handleMenuListRequest_eq (hread : text.read request.jsonBody = .ok req) (t : MenuTable) :
    ItsBedalyo.MenuHandler.handleMenuListRequest text.toJsonText request.jsonBody ⟨t, [], []⟩ =
      some (match req.value "storeId" (0 : Int32) with
        | .error _ => { status := 500, message := "서버 내부 오류" }
        | .ok storeId =>
          { status := 200
            message := "조회 성공"
            storeId := storeId
            menus := (menusOf t storeId).map
              (ItsBedalyo.MenuHandler.menuEntry text.toJsonText) }) := by
  rw [ItsBedalyo.MenuHandler.handleMenuListRequest, parse_eq hread]
  rfl

variable (hkind : request.kind = .list) (hread : text.read request.jsonBody = .ok req)

include hkind hread

/-- Without a store there is an error. -/
theorem fits_list_error {what : String}
    (hstore : text.convert (req.value "storeId" (0 : Int32)) = .error what) (failed : Prop)
    (packet : Packet D) :
    board.Fits (request.done text) failed (.replied packet)
      (CmdID.RES_MENU_LIST, some (statusMessage 500 "서버 내부 오류")) := by
  intro t _
  obtain ⟨e, he⟩ := eq_error hstore
  have hdone := handleMenuListRequest_eq hread t
  rw [he] at hdone
  simp only [Request.done, hkind]
  exact ⟨rfl, _, hdone, .inl ⟨[], .nil, rfl⟩⟩

theorem fits_list (hstore : text.convert (req.value "storeId" (0 : Int32)) = .ok storeId)
    (failed : Prop) (found : List MenuRow) :
    board.Fits (request.done text) failed (.listed storeId found)
      (CmdID.RES_MENU_LIST, some (.object
        [("status", encode (200 : Int32)), ("message", encode "조회 성공"),
         ("storeId", encode storeId), ("menus", .array (found.map fun row =>
           entryJson (ItsBedalyo.MenuHandler.menuEntry text.toJsonText row)))])) := by
  intro t hfound
  have hdone := handleMenuListRequest_eq hread t
  rw [eq_ok hstore] at hdone
  simp only [Request.done, hkind]
  refine ⟨rfl, _, hdone, .inl ⟨_, List.Perm.map _ hfound, ?_⟩⟩
  rw [listJson, if_pos rfl, List.map_map]
  rfl

/-- Where a call has failed, the page has nothing to show. -/
theorem fits_list_failed {failed : Prop} (hfailed : failed) {event : Event D}
    (hevent : ∀ t, event.effect t = t) :
    board.Fits (request.done text) failed event
      (CmdID.RES_MENU_LIST, some (statusMessage 500 "서버 내부 오류")) := by
  intro t _
  simp only [Request.done, hkind]
  exact ⟨hevent t, _, handleMenuListRequest_eq hread t, .inr ⟨hfailed, trivial⟩⟩

omit hkind hread [Double D] in
theorem store_found (storeId : Int32) (t : MenuTable) (choice : Choice) (rows : List (ResultRow D))
    (event : Option (Event D))
    (h : (ledger : Ledger D _ _ _).find t choice storeQuery [.int storeId] = some (rows, event)) :
    ∃ found, rows = found.map storeRow ∧ event = some (.listed storeId found) := by
  have hof : Query.of storeQuery [.int storeId] = some (.ofStore storeId) := by simp [Query.of]
  simp only [ledger, hof] at h
  obtain ⟨-, heq⟩ := Option.ite_none_right_eq_some.mp h
  cases heq
  exact ⟨_, rfl, rfl⟩

omit hkind hread in
theorem reads_menuEntry {may : List (Event D) → Event D → Prop}
    (hfailed : ∀ done, may done (ledger : Ledger D _ _ _).failed) :
    (ledger : Ledger D _ _ _).Reads may
      (fun _ row => MenuHandler.menuEntry text.toJsonText row)
      (fun _ row => entryJson (ItsBedalyo.MenuHandler.menuEntry text.toJsonText row)) storeRow := by
  open DbProg.Columns in
  refine reads_of_columns hfailed (fun _ row => ?_) fun _ row => ?_
  · exact (getInt row _).bind fun _ => (cString row _).bind fun _ => (getInt row _).bind fun _ =>
      (getBoolean row _).bind fun _ => (cString row _).bind fun _ => (getBoolean row _).bind fun _ =>
      (cStringOr row _ _).bind fun _ => (cStringOr row _ _).bind fun _ =>
      (cStringOr row _ _).bind fun _ => .pure _
  · have hsoldOut : (storeRow row : ResultRow D) "is_sold_out" = .boolean row.isSoldOut := rfl
    have hpopular : (storeRow row : ResultRow D) "is_popular" = .boolean row.isPopular := rfl
    have hcategory : cStr (row.menuCategory.getD "") = (row.menuCategory.map cStr).getD "" := by
      cases row.menuCategory <;> rfl
    simp [MenuHandler.menuEntry, storeRow, ResultRow.of, List.lookup_cons, hcategory, entryJson,
      ItsBedalyo.MenuHandler.menuEntry, ItsBedalyo.MenuHandler.parsedOptions, parseOr]

omit hkind hread in
theorem wp_handleMenuListRequest (hkind : request.kind = .list) :
    (boarding text request).wp (MenuHandler.handleMenuListRequest text request.jsonBody)
      (fun _ _ => True) [] := by
  refine wp_ofExcept_bind (fun _ _ => trivial) fun req hread => ?_
  refine (Interface.wp_tryCatch _ _).mpr (wp_ofExcept_bind (fun what hstore => ?_)
    fun storeId hstore => ?_)
  · exact wp_send widens_done (by simp) (fits_list_error hkind hread hstore _ _)
      fun _ => trivial
  have hfailed (done : List (Event D)) : board.May (request.done text) done .failed :=
    may_failed (fits_list_failed hkind hread trivial fun _ => rfl) done
  have hthrown {done : List (Event D)} (hquiet : ∀ e ∈ done, board.Quiet e) :=
    wp_send_failed widens_done hquiet (fun _ => fits_list_failed hkind hread trivial)
      (Q := fun _ _ => True) fun _ => trivial
  refine (Interface.wp_bind _ _).mpr (wp_db (wp_selectForEach hfailed (reads_menuEntry hfailed)
    (store_found storeId) (fun found => ?_) (fun found => ?_) (fun _ => hthrown (by simp)) ?_))
  · exact .first widens_done rfl (fits_list hkind hread hstore False found)
  · have honce : ∀ e ∈ [(.listed storeId found : Event D)], board.packet e = none :=
      List.forall_mem_singleton.mpr rfl
    have hshown : (found.zipIdx.map fun entry => entryJson
        (ItsBedalyo.MenuHandler.menuEntry text.toJsonText entry.1)) = found.map fun row =>
          entryJson (ItsBedalyo.MenuHandler.menuEntry text.toJsonText row) := by
      conv_rhs => rw [← List.zipIdx_map_fst 0 found, List.map_map]
      rfl
    refine wp_send widens_done honce ?_ fun _ => trivial
    rw [hshown]
    exact fits_list hkind hread hstore _ found
  · have hquiet (found : List MenuRow) : ∀ e ∈ [(.listed storeId found : Event D)],
        board.Quiet e := List.forall_mem_singleton.mpr ⟨rfl, fun _ => rfl⟩
    exact fun found _ => hthrown (hquiet found)

end List

/-! #### The options of a menu -/

section Option

/-- The options that are found. -/
def groupsIn (text : JsonText D) (found : Option MenuRow) : List OptionGroup :=
  found.elim [] fun row => groupsOf text ((row.menuOptions.map cStr).getD "[]")

theorem getMenuOptionsParsed_eq (menuId : Int32) (t : MenuTable) :
    ItsBedalyo.MenuDAO.getMenuOptionsParsed text.toJsonText menuId t =
      groupsIn text.toJsonText (menuOf t menuId) := by
  rw [ItsBedalyo.MenuDAO.getMenuOptionsParsed, ← menuOf]
  cases menuOf t menuId with
  | none => rfl
  | some row =>
    simp only [groupsIn, Option.elim_some, groupsOf]
    cases text.parse ((row.menuOptions.map cStr).getD "[]") with
    | none => rfl
    | some j => cases hgroups : (decode j : Except JsonError (List OptionGroup)) <;> simp [hgroups]

omit [Double D] in
theorem options_found (menuId : Int32) (t : MenuTable) (choice : Choice) (rows : List (ResultRow D))
    (event : Option (Event D))
    (h : (ledger : Ledger D _ _ _).find t choice optionsQuery [.int menuId] = some (rows, event)) :
    ∃ found, rows = found.toList.map optionsRow ∧ event = some (.looked menuId found) := by
  have hof : Query.of optionsQuery [.int menuId] = some (.options menuId) := by
    simp [Query.of, optionsQuery_ne]
  simp only [ledger, hof] at h
  cases h
  exact ⟨_, rfl, rfl⟩

theorem wp_getMenuOptionsParsed {may : List (Event D) → Event D → Prop} {menuId : Int32}
    (hfailed : ∀ done, may done (ledger : Ledger D _ _ _).failed)
    (hmay : ∀ found, may [] (.looked menuId found))
    {Q : Except SqlException (List OptionGroup) → List (Event D) → Prop}
    (hok : ∀ found, Q (.ok (groupsIn text.toJsonText found)) [.looked menuId found])
    (herror : Q (.ok []) [.failed]) (hlater : ∀ found, Q (.ok []) [.looked menuId found, .failed]) :
    ((ledger : Ledger D _ _ _).dbPermits may).wp
      (MenuDAO.getMenuOptionsParsed text.toJsonText menuId) Q [] := by
  have hlooks (t : MenuTable) (choice : Choice) (rows : List (ResultRow D)) (event : Event D)
      (h : (ledger : Ledger D _ _ _).find t choice optionsQuery [.int menuId] =
        some (rows, some event)) : may [] event := by
    obtain ⟨found, -, he⟩ := options_found menuId t choice rows _ h
    exact Option.some.inj he ▸ hmay found
  refine (Interface.wp_tryCatch _ _).mpr ((Interface.wp_bind _ _).mpr
    (wp_select hfailed hlooks (fun _ => herror) fun t choice rows event h => ?_))
  obtain ⟨found, rfl, rfl⟩ := options_found menuId t choice rows event h
  have hfirst (rows : List (ResultRow D)) : (DbProg.first rows).Columns :=
    (DbProg.Columns.op rfl).bind fun _ => .pure _
  refine wp_columns hfailed (a := groupsIn text.toJsonText found)
    ((hfirst _).bind fun row => ?_) ?_ (hok found) fun _ => hlater found
  · cases row with
    | none => exact .pure _
    | some row => exact (DbProg.Columns.cStringOr row _ _).bind fun _ => .pure _
  · cases found with
    | none => rfl
    | some row => simp [groupsIn, optionsRow, ResultRow.of]

theorem handleMenuOption_error {t : MenuTable}
    (h : ∀ req, text.parse request.jsonBody = some req →
      ∃ e, (ReqMenuOptionDTO.fromJson req : Except JsonError _) = .error e) :
    ItsBedalyo.MenuHandler.handleMenuOption text.toJsonText request.jsonBody ⟨t, [], []⟩ =
      ⟨500, 0, []⟩ := by
  rw [ItsBedalyo.MenuHandler.handleMenuOption]
  cases hparse : text.parse request.jsonBody with
  | none => rfl
  | some req =>
    obtain ⟨e, he⟩ := h req hparse
    rw [Option.map_some, he]

theorem handleMenuOption_eq {req : Json D} {asked : ReqMenuOptionDTO} {t : MenuTable}
    (hread : text.read request.jsonBody = .ok req)
    (hasked : text.convert (ReqMenuOptionDTO.fromJson req) = .ok asked) :
    ItsBedalyo.MenuHandler.handleMenuOption text.toJsonText request.jsonBody ⟨t, [], []⟩ =
      ⟨200, asked.menuId, groupsIn text.toJsonText (menuOf t asked.menuId)⟩ := by
  rw [ItsBedalyo.MenuHandler.handleMenuOption, parse_eq hread, Option.map_some, eq_ok hasked]
  simp only [getMenuOptionsParsed_eq]

theorem wp_handleMenuOption (hkind : request.kind = .option) :
    (boarding text request).wp (MenuHandler.handleMenuOption text request.jsonBody)
      (fun _ _ => True) [] := by
  have hwrong (h : ∀ req, text.parse request.jsonBody = some req →
      ∃ e, (ReqMenuOptionDTO.fromJson req : Except JsonError _) = .error e) :
      (boarding text request).wp
        (Page.reply CmdID.RES_MENU_OPTION (ResMenuOptionDTO.toJson ⟨500, 0, []⟩))
        (fun _ _ => True) [] := by
    refine wp_send widens_done (by simp) (fun t _ => ?_) fun _ => trivial
    simp only [Request.done, hkind]
    exact ⟨rfl, _, rfl, .inl (handleMenuOption_error h).symm⟩
  refine (Interface.wp_tryCatch _ _).mpr (wp_ofExcept_bind (fun what hread => ?_)
    fun req hread => wp_ofExcept_bind (fun what hasked => ?_) fun asked hasked => ?_)
  · refine hwrong fun req hparse => ?_
    rw [parse_none hread] at hparse
    cases hparse
  · refine hwrong fun req' hparse => ?_
    obtain rfl := Option.some.inj ((parse_eq hread).symm.trans hparse)
    exact eq_error hasked
  have hfits (failed : Prop) (found : Option MenuRow) : board.Fits (request.done text) failed
      (.looked asked.menuId found) (CmdID.RES_MENU_OPTION, some (ResMenuOptionDTO.toJson
        ⟨200, asked.menuId, groupsIn text.toJsonText found⟩)) := by
    rintro t rfl
    simp only [Request.done, hkind]
    exact ⟨rfl, _, rfl, .inl (handleMenuOption_eq hread hasked).symm⟩
  have hnothing (event : Event D) (hevent : ∀ t, event.effect t = t) :
      board.Fits (request.done text) True event (CmdID.RES_MENU_OPTION,
        some (ResMenuOptionDTO.toJson ⟨200, asked.menuId, []⟩)) := by
    intro t _
    simp only [Request.done, hkind]
    refine ⟨hevent t, _, rfl, .inr ⟨trivial, ?_⟩⟩
    rw [handleMenuOption_eq hread hasked]
  have hfailed (done : List (Event D)) : board.May (request.done text) done .failed :=
    may_failed (hnothing _ fun _ => rfl) done
  refine (Interface.wp_bind _ _).mpr (wp_db (wp_getMenuOptionsParsed hfailed (fun found => ?_)
    (fun found => ?_) ?_ fun found => ?_))
  · exact .first widens_done rfl (hfits False found)
  · have honce : ∀ e ∈ [(.looked asked.menuId found : Event D)], board.packet e = none :=
      List.forall_mem_singleton.mpr rfl
    exact wp_send widens_done honce (hfits _ found) fun _ => trivial
  · have hnone : ∀ e ∈ ([] : List (Event D)), board.Quiet e := by simp
    exact wp_send_failed widens_done hnone hnothing fun _ => trivial
  · have hquiet : ∀ e ∈ [(.looked asked.menuId found : Event D)],
        board.Quiet e := List.forall_mem_singleton.mpr ⟨rfl, fun _ => rfl⟩
    exact wp_send_failed widens_done hquiet hnothing fun _ => trivial

end Option

/-! #### Marks -/

section SoldOut

omit [Double D] in
@[simp] theorem of_soldOut (isSoldOut menuId : String) :
    Statement.of soldOutMenu [.string isSoldOut, .string menuId] =
      some (.soldOut isSoldOut menuId) := by
  simp [Statement.of]

omit [Double D] in
theorem soldOut_written {isSoldOut menuId : String} {t : MenuTable} {choice : Choice} {n : ℕ}
    {event : Option (Event D)} (h : (ledger : Ledger D _ _ _).write t choice soldOutMenu
      [.string isSoldOut, .string menuId] = some (n, event)) :
    event = some (.marked isSoldOut menuId) := by
  simp only [ledger, of_soldOut] at h
  cases h
  rfl

omit [Double D] in
/-- The text of a number is compared as the number. -/
theorem markSoldOut_eq (isSoldOut : Bool) (menuId : Int32) (t : MenuTable) :
    markSoldOut (if isSoldOut then "1" else "0") (toString menuId.toInt) t =
      t.update (fun row => row.menuId = menuId)
        (fun row => { row with isSoldOut := isSoldOut }) fun _ => rfl := by
  have hid (row : MenuRow) :
      decide (toString row.menuId.toInt = toString menuId.toInt) = decide (row.menuId = menuId) := by
    rw [decide_eq_decide, Decimal.toString_inj, Int32.toInt_inj]
  have hflag : decide ((if isSoldOut then "1" else "0") = "1") = isSoldOut := by
    cases isSoldOut <;> decide
  simp only [markSoldOut, hid, hflag]

variable {req : Json D}

theorem handleMenuSoldOut_eq (hread : text.read request.jsonBody = .ok req) {menuId : Int32}
    {isSoldOut : Bool} (hmenu : text.convert (req.value "menuId" (0 : Int32)) = .ok menuId)
    (hflag : text.convert (req.value "isSoldOut" false) = .ok isSoldOut) (refused : Bool)
    (t : MenuTable) :
    ItsBedalyo.MenuHandler.handleMenuSoldOut text.toJsonText refused request.jsonBody t =
      if refused then (some 500, t)
      else (some 200, markSoldOut (if isSoldOut then "1" else "0") (toString menuId.toInt) t) := by
  rw [ItsBedalyo.MenuHandler.handleMenuSoldOut, parse_eq hread, markSoldOut_eq]
  simp only [eq_ok hmenu, eq_ok hflag]
  rfl

theorem handleMenuSoldOut_error (hread : text.read request.jsonBody = .ok req)
    (herror : ∃ e, (do
      let menuId ← req.value "menuId" (0 : Int32)
      let isSoldOut ← req.value "isSoldOut" false
      pure (menuId, isSoldOut) : Except JsonError (Int32 × Bool)) = .error e) (refused : Bool)
    (t : MenuTable) :
    ItsBedalyo.MenuHandler.handleMenuSoldOut text.toJsonText refused request.jsonBody t =
      (some 500, t) := by
  obtain ⟨e, he⟩ := herror
  rw [ItsBedalyo.MenuHandler.handleMenuSoldOut, parse_eq hread]
  simp only [he]

theorem wp_handleMenuSoldOut (hkind : request.kind = .soldOut) :
    (boarding text request).wp (MenuHandler.handleMenuSoldOut text request.jsonBody)
      (fun _ _ => True) [] := by
  refine wp_ofExcept_bind (fun _ _ => trivial) fun req hread => ?_
  have hwrong (herror : ∃ e, (do
      let menuId ← req.value "menuId" (0 : Int32)
      let isSoldOut ← req.value "isSoldOut" false
      pure (menuId, isSoldOut) : Except JsonError (Int32 × Bool)) = .error e) :
      (boarding text request).wp
        (Page.reply CmdID.RES_MENU_SOLD_OUT (statusMessage 500 "서버 내부 오류"))
        (fun _ _ => True) [] := by
    refine wp_send widens_done (by simp) (fun t _ => ?_) fun _ => trivial
    simp only [Request.done, hkind]
    exact ⟨false, 500, _, List.mem_cons_of_mem _ List.mem_cons_self, fun h => absurd h (by decide),
      handleMenuSoldOut_error hread herror false t, rfl⟩
  refine (Interface.wp_tryCatch _ _).mpr (wp_ofExcept_bind (fun what hmenu => ?_)
    fun menuId hmenu => wp_ofExcept_bind (fun what hflag => ?_) fun isSoldOut hflag => ?_)
  · obtain ⟨e, he⟩ := eq_error hmenu
    exact hwrong ⟨e, by rw [he]; rfl⟩
  · obtain ⟨e, he⟩ := eq_error hflag
    exact hwrong ⟨e, by rw [eq_ok hmenu, he]; rfl⟩
  have hfits (failed : Prop) : board.Fits (request.done text) failed
      (.marked (if isSoldOut then "1" else "0") (toString menuId.toInt))
      (CmdID.RES_MENU_SOLD_OUT, some (statusMessage 200 "품절 상태 변경 완료")) := by
    intro t _
    simp only [Request.done, hkind]
    exact ⟨false, 200, _, List.mem_cons_self, fun h => absurd h (by decide),
      handleMenuSoldOut_eq hread hmenu hflag false t, rfl⟩
  have hrefused (event : Event D) (hevent : ∀ t, event.effect t = t) :
      board.Fits (request.done text) True event
        (CmdID.RES_MENU_SOLD_OUT, some (statusMessage 500 "DB 오류")) := by
    intro t _
    simp only [Request.done, hkind]
    refine ⟨true, 500, _, List.mem_cons_self, fun _ => trivial, ?_, rfl⟩
    rw [handleMenuSoldOut_eq hread hmenu hflag true t, if_pos rfl]
    exact congrArg _ (hevent t).symm
  have hfailed (done : List (Event D)) : board.May (request.done text) done .failed :=
    may_failed (hrefused _ fun _ => rfl) done
  refine (Interface.wp_bind _ _).mpr (wp_db ((Interface.wp_tryCatch _ _).mpr
    ((Interface.wp_bind _ _).mpr (wp_update hfailed (fun t choice n event h => ?_) (fun _ => ?_)
      fun t choice n event h => ?_))))
  · obtain rfl := Option.some.inj (soldOut_written h)
    exact .first widens_done rfl (hfits False)
  · have hnone : ∀ e ∈ ([] : List (Event D)), board.Quiet e := by simp
    exact wp_send_failed widens_done hnone hrefused fun _ => trivial
  · obtain rfl := soldOut_written h
    exact wp_send widens_done (List.forall_mem_singleton.mpr rfl) (hfits _) fun _ => trivial

end SoldOut

/-! #### Edits -/

section Edit

variable {req : Json D}

section AtOnce

variable (hread : text.read request.jsonBody = .ok req) {t : MenuTable}

include hread

theorem handleMenuEdit_error (herror : ∃ e, MenuEdit.read text.toJsonText req = .error e)
    (refused : Bool) (newId : Int32) :
    ItsBedalyo.MenuHandler.handleMenuEdit text.toJsonText refused newId request.jsonBody t =
      (some 500, t) := by
  obtain ⟨e, he⟩ := herror
  rw [ItsBedalyo.MenuHandler.handleMenuEdit, parse_eq hread]
  simp only [he]

theorem handleMenuEdit_invalid (hinvalid : MenuEdit.read text.toJsonText req = .ok .invalid)
    (refused : Bool) (newId : Int32) :
    ItsBedalyo.MenuHandler.handleMenuEdit text.toJsonText refused newId request.jsonBody t =
      (some 400, t) := by
  rw [ItsBedalyo.MenuHandler.handleMenuEdit, parse_eq hread]
  simp only [hinvalid]

theorem handleMenuEdit_refused (hvalid : MenuEdit.read text.toJsonText req ≠ .ok .invalid)
    (newId : Int32) :
    ItsBedalyo.MenuHandler.handleMenuEdit text.toJsonText true newId request.jsonBody t =
      (some 500, t) := by
  cases hedit : MenuEdit.read text.toJsonText req with
  | error e => exact handleMenuEdit_error hread ⟨e, hedit⟩ true newId
  | ok edit =>
    rw [ItsBedalyo.MenuHandler.handleMenuEdit, parse_eq hread]
    cases edit with
    | invalid => exact absurd hedit hvalid
    | _ => simp only [hedit, if_true]

theorem handleMenuEdit_ok {edit : MenuEdit} (hedit : MenuEdit.read text.toJsonText req = .ok edit)
    (hne : edit ≠ .invalid) {newId : Int32} (hexecute : edit.execute newId t ≠ none) :
    ItsBedalyo.MenuHandler.handleMenuEdit text.toJsonText false newId request.jsonBody t =
      (some 200, (edit.execute newId t).getD t) := by
  obtain ⟨t', ht'⟩ := Option.ne_none_iff_exists'.mp hexecute
  rw [ItsBedalyo.MenuHandler.handleMenuEdit, parse_eq hread, ht']
  cases edit with
  | invalid => exact absurd rfl hne
  | _ => simp [hedit, ht']

theorem not_clashes {newId : Int32} (h : ∀ edit, MenuEdit.read text.toJsonText req = .ok edit →
    edit.execute newId t ≠ none) : ¬request.Clashes text newId t := by
  rintro ⟨req', edit, hparse, hedit, hnone⟩
  obtain rfl := Option.some.inj ((parse_eq hread).symm.trans hparse)
  exact h edit hedit hnone

end AtOnce

section Fits

variable (hkind : request.kind = .edit) (hread : text.read request.jsonBody = .ok req)

include hkind hread

theorem fits_edit_error (herror : ∃ e, MenuEdit.read text.toJsonText req = .error e)
    (failed : Prop) (packet : Packet D) :
    board.Fits (request.done text) failed (.replied packet)
      (CmdID.RES_MENU_EDIT, some (statusMessage 500 "서버 내부 오류")) := by
  intro t _
  obtain ⟨e, he⟩ := herror
  simp only [Request.done, hkind]
  refine ⟨false, 0, 500, fun h => ?_, handleMenuEdit_error hread ⟨e, he⟩ false 0, rfl⟩
  refine absurd (h.resolve_left (by decide)) (not_clashes hread fun edit hedit => ?_)
  rw [he] at hedit
  cases hedit

theorem fits_edit_invalid (hinvalid : MenuEdit.read text.toJsonText req = .ok .invalid)
    (failed : Prop) (packet : Packet D) :
    board.Fits (request.done text) failed (.replied packet)
      (CmdID.RES_MENU_EDIT, some (statusMessage 400 "잘못된 actionType")) := by
  intro t _
  simp only [Request.done, hkind]
  refine ⟨false, 0, 400, fun h => ?_, handleMenuEdit_invalid hread hinvalid false 0, rfl⟩
  refine absurd (h.resolve_left (by decide)) (not_clashes hread fun edit hedit => ?_)
  obtain rfl := Except.ok.inj (hinvalid.symm.trans hedit)
  exact Option.some_ne_none t

theorem fits_edit_refused (hvalid : MenuEdit.read text.toJsonText req ≠ .ok .invalid)
    (event : Event D) (hevent : ∀ t, event.effect t = t) :
    board.Fits (request.done text) True event
      (CmdID.RES_MENU_EDIT, some (statusMessage 500 "서버 내부 오류")) := by
  intro t _
  simp only [Request.done, hkind]
  refine ⟨true, 0, 500, fun _ => trivial, ?_, rfl⟩
  rw [handleMenuEdit_refused hread hvalid 0]
  exact congrArg _ (hevent t).symm

theorem fits_edit {edit : MenuEdit} (hedit : MenuEdit.read text.toJsonText req = .ok edit)
    (hne : edit ≠ .invalid) (failed : Prop) (newId : Int32) :
    board.Fits (request.done text) failed (.edited edit newId)
      (CmdID.RES_MENU_EDIT, some (statusMessage 200 "메뉴 변경 완료")) := by
  intro t hexecute
  simp only [Request.done, hkind]
  refine ⟨false, newId, 200, fun h => ?_, handleMenuEdit_ok hread hedit hne hexecute, rfl⟩
  refine absurd (h.resolve_left (by decide)) (not_clashes hread fun edit' hedit' => ?_)
  obtain rfl := Except.ok.inj (hedit.symm.trans hedit')
  exact hexecute

end Fits

section Calls

omit [Double D] in
@[simp] theorem of_insert (storeId : Int32) (data : MenuData) :
    Statement.of MenuHandler.insertMenu [.int storeId, .string data.menuName, .int data.basePrice,
      .string data.menuCategory, .boolean data.isPopular, .string data.description,
      .string data.menuOptions] = some (.edit (.add storeId data)) := by
  simp [Statement.of]

omit [Double D] in
@[simp] theorem of_update (storeId menuId : Int32) (data : MenuData) (isSoldOut : Bool) :
    Statement.of MenuHandler.updateMenu [.string data.menuName, .int data.basePrice,
      .string data.menuCategory, .boolean data.isPopular, .string data.description,
      .boolean isSoldOut, .string data.menuOptions, .int menuId, .int storeId] =
      some (.edit (.modify storeId menuId data isSoldOut)) := by
  simp [Statement.of]

omit [Double D] in
@[simp] theorem of_delete (storeId menuId : Int32) :
    Statement.of deleteMenu [.int menuId, .int storeId] = some (.edit (.delete storeId menuId)) := by
  simp [Statement.of]

omit [Double D] in
theorem edit_written {query : String} {params : List SqlParam} {edit : MenuEdit}
    (hof : Statement.of query params = some (.edit edit)) {t : MenuTable} {choice : Choice} {n : ℕ}
    {event : Option (Event D)}
    (h : (ledger : Ledger D _ _ _).write t choice query params = some (n, event)) :
    event = some (.edited edit choice.newId) := by
  simp only [ledger, hof] at h
  obtain ⟨-, heq⟩ := Option.ite_none_right_eq_some.mp h
  cases heq
  rfl

variable (text req) in
/-- What `edit` returns or throws, after what. -/
inductive Edited : Except Exn Bool → List (Event D) → Prop
  | done {edit : MenuEdit} (newId : Int32) (h : MenuEdit.read text.toJsonText req = .ok edit)
    (hne : edit ≠ .invalid) : Edited (.ok true) [.edited edit newId]
  | invalid (h : MenuEdit.read text.toJsonText req = .ok .invalid) : Edited (.ok false) []
  | wrong (e : Exn) (h : ∃ e, MenuEdit.read text.toJsonText req = .error e) : Edited (.error e) []
  | failed (e : Exn) (h : MenuEdit.read text.toJsonText req ≠ .ok .invalid) :
    Edited (.error e) [.failed]

/-- A statement that is sent where the edit can be read. -/
theorem wp_sendEdit (hkind : request.kind = .edit) (hread : text.read request.jsonBody = .ok req)
    {edit : MenuEdit} (hedit : MenuEdit.read text.toJsonText req = .ok edit) (hne : edit ≠ .invalid)
    {query : String} {params : List SqlParam}
    (hof : Statement.of query params = some (.edit edit)) {p : DbProg D ℕ}
    (hp : p = DbProg.executeUpdate query params ∨ p = DbProg.update query params) :
    (boarding text request).wp (Page.db p >>= fun _ => pure true) (Edited text req) [] := by
  have hvalid : MenuEdit.read text.toJsonText req ≠ .ok .invalid := by
    rw [hedit]
    exact fun h => hne (Except.ok.inj h)
  have hfailed (done : List (Event D)) : board.May (request.done text) done .failed :=
    may_failed (fits_edit_refused hkind hread hvalid _ fun _ => rfl) done
  have hmay (t : MenuTable) (choice : Choice) (n : ℕ) (event : Event D)
      (h : (ledger : Ledger D _ _ _).write t choice query params = some (n, some event)) :
      board.May (request.done text) [] event := by
    obtain rfl := Option.some.inj (edit_written hof h)
    exact .first widens_done rfl (fits_edit hkind hread hedit hne False choice.newId)
  refine (Interface.wp_bind _ _).mpr (wp_db ?_)
  rcases hp with rfl | rfl
  · refine Ledger.wp_executeUpdate hfailed hmay (fun e => .failed _ hvalid)
      fun t choice n event h => ?_
    obtain rfl := edit_written hof h
    exact .done choice.newId hedit hne
  · refine wp_update hfailed hmay (fun e => .failed _ hvalid) fun t choice n event h => ?_
    obtain rfl := edit_written hof h
    exact .done choice.newId hedit hne

/-- Preparing a statement changes nothing. -/
theorem wp_prepare (hkind : request.kind = .edit) (hread : text.read request.jsonBody = .ok req)
    (hvalid : MenuEdit.read text.toJsonText req ≠ .ok .invalid) {query : String}
    {f : Unit → Page D Bool} (h : (boarding text request).wp (f ()) (Edited text req) []) :
    (boarding text request).wp (Page.db (DbProg.prepareStatement query) >>= f)
      (Edited text req) [] := by
  have hfailed (done : List (Event D)) : board.May (request.done text) done .failed :=
    may_failed (fits_edit_refused hkind hread hvalid _ fun _ => rfl) done
  exact (Interface.wp_bind _ _).mpr (wp_db (wp_column hfailed rfl h fun e => .failed _ hvalid))

/-- **The statement of an edit** is sent if the edit can be read. -/
theorem wp_edit (hkind : request.kind = .edit) (hread : text.read request.jsonBody = .ok req)
    {storeId actionType : Int32} (hstore : req.value "storeId" (0 : Int32) = .ok storeId)
    (haction : req.value "actionType" (-1 : Int32) = .ok actionType) :
    (boarding text request).wp (MenuHandler.edit text req storeId actionType)
      (Edited text req) [] := by
  refine Interface.wp_ite.mpr ⟨fun hadd => ?_, fun hadd => Interface.wp_ite.mpr
    ⟨fun hmodify => ?_, fun hmodify => Interface.wp_ite.mpr ⟨fun hdelete => ?_, fun hdelete => ?_⟩⟩⟩
  · subst hadd
    have hvalid : MenuEdit.read text.toJsonText req ≠ .ok .invalid := by
      cases hdata : MenuEdit.readData text.toJsonText (MenuEdit.menuData req) <;>
        simp [MenuEdit.read, hstore, haction, hdata, bind, Except.bind, pure, Except.pure]
    refine wp_prepare hkind hread hvalid (wp_ofExcept_bind (fun what hdata => ?_)
      fun data hdata => ?_)
    · obtain ⟨e, he⟩ := eq_error hdata
      refine .wrong _ ⟨e, ?_⟩
      simp [MenuEdit.read, hstore, haction, he, bind, Except.bind]
    · refine wp_sendEdit hkind hread ?_ (by simp) (of_insert storeId data) (.inl rfl)
      simp [MenuEdit.read, hstore, haction, eq_ok hdata, bind, Except.bind, pure, Except.pure]
  · subst hmodify
    refine wp_ofExcept_bind (fun what hmenu => ?_) fun menuId hmenu => ?_
    · obtain ⟨e, he⟩ := eq_error hmenu
      refine .wrong _ ⟨e, ?_⟩
      simp [MenuEdit.read, hstore, haction, he, bind, Except.bind]
    have hvalid : MenuEdit.read text.toJsonText req ≠ .ok .invalid := by
      cases hdata : MenuEdit.readData text.toJsonText (MenuEdit.menuData req) <;>
        cases hflag : (MenuEdit.menuData req).value "isSoldOut" false <;>
        simp [MenuEdit.read, hstore, haction, eq_ok hmenu, hdata, hflag, bind, Except.bind, pure,
          Except.pure]
    refine wp_prepare hkind hread hvalid (wp_ofExcept_bind (fun what hdata => ?_) fun data hdata =>
      wp_ofExcept_bind (fun what hflag => ?_) fun isSoldOut hflag => ?_)
    · obtain ⟨e, he⟩ := eq_error hdata
      refine .wrong _ ⟨e, ?_⟩
      simp [MenuEdit.read, hstore, haction, eq_ok hmenu, he, bind, Except.bind]
    · obtain ⟨e, he⟩ := eq_error hflag
      refine .wrong _ ⟨e, ?_⟩
      simp [MenuEdit.read, hstore, haction, eq_ok hmenu, eq_ok hdata, he, bind, Except.bind]
    · refine wp_sendEdit hkind hread ?_ (by simp) (of_update storeId menuId data isSoldOut)
        (.inl rfl)
      simp [MenuEdit.read, hstore, haction, eq_ok hmenu, eq_ok hdata, eq_ok hflag, bind,
        Except.bind, pure, Except.pure]
  · subst hdelete
    refine wp_ofExcept_bind (fun what hmenu => ?_) fun menuId hmenu => ?_
    · obtain ⟨e, he⟩ := eq_error hmenu
      refine .wrong _ ⟨e, ?_⟩
      simp [MenuEdit.read, hstore, haction, he, bind, Except.bind]
    · refine wp_sendEdit hkind hread ?_ (by simp) (of_delete storeId menuId) (.inr rfl)
      simp [MenuEdit.read, hstore, haction, eq_ok hmenu, bind, Except.bind, pure, Except.pure]
  · refine .invalid ?_
    simp [MenuEdit.read, hstore, haction, hadd, hmodify, hdelete, bind, Except.bind, pure,
      Except.pure]

theorem wp_handleMenuEdit (hkind : request.kind = .edit) :
    (boarding text request).wp (MenuHandler.handleMenuEdit text request.jsonBody)
      (fun _ _ => True) [] := by
  refine wp_ofExcept_bind (fun _ _ => trivial) fun req hread => ?_
  have hwrong (herror : ∃ e, MenuEdit.read text.toJsonText req = .error e) :
      (boarding text request).wp
        (Page.reply CmdID.RES_MENU_EDIT (statusMessage 500 "서버 내부 오류")) (fun _ _ => True) [] :=
    wp_send widens_done (by simp) (fits_edit_error hkind hread herror _ _) fun _ => trivial
  refine (Interface.wp_tryCatch _ _).mpr (wp_ofExcept_bind (fun what hstore => ?_)
    fun storeId hstore => wp_ofExcept_bind (fun what haction => ?_) fun actionType haction => ?_)
  · obtain ⟨e, he⟩ := eq_error hstore
    refine hwrong ⟨e, ?_⟩
    rw [MenuEdit.read, he]
    rfl
  · obtain ⟨e, he⟩ := eq_error haction
    refine hwrong ⟨e, ?_⟩
    rw [MenuEdit.read, eq_ok hstore, he]
    rfl
  refine (Interface.wp_bind _ _).mpr (Interface.wp_mono (fun r done hedited => ?_)
    (wp_edit hkind hread (eq_ok hstore) (eq_ok haction)))
  cases hedited with
  | done newId h hne =>
    exact wp_send widens_done (List.forall_mem_singleton.mpr rfl)
      (fits_edit hkind hread h hne _ newId) fun _ => trivial
  | invalid h =>
    exact wp_send widens_done (by simp) (fits_edit_invalid hkind hread h _ _) fun _ => trivial
  | wrong e h => exact hwrong h
  | failed e h =>
    have hnone : ∀ e ∈ ([] : List (Event D)), board.Quiet e := by simp
    exact wp_send_failed widens_done hnone (fits_edit_refused hkind hread h) fun _ => trivial

end Calls

end Edit

end Board

/-! ### Runs -/

/-- The requests, before their first call. -/
def start (text : JsonParser D) (requests : ι → Request) (first : MenuTable) :
    Threads ι (@PageOp.Res D) Exn (Ledger.World ι MenuTable (Event D)) :=
  ⟨fun t => (requests t).handle text, ⟨first, []⟩⟩

variable [DecidableEq ι]

/-- **The menus.** Whatever the requests are and however their calls are interleaved and throw, the
packets and the menus are as if the requests had been done at once, one after another, by the
handlers of `MenuHandler.lean`. -/
theorem board_of_run (text : JsonParser D) (requests : ι → Request) (first : MenuTable)
    (l : List (ι × Reply D Choice)) :
    Always (Threads.step (ledger : Ledger D MenuTable Choice (Event D)).exec)
      (fun s => ∃ history, Linearization.Linearizes
        (fun t => (requests t).done text ((t, .failed) ∈ s.world.log)) first Event.packet
        s.world.log s.world.tables history)
      (start text requests first) l := by
  refine linearizes_of_run board (fun t => (requests t).done text)
    (fun t => widens_done) (fun t => ?_) l
  rw [Request.handle]
  cases hkind : (requests t).kind with
  | list => exact wp_handleMenuListRequest hkind
  | edit => exact wp_handleMenuEdit hkind
  | soldOut => exact wp_handleMenuSoldOut hkind
  | option => exact wp_handleMenuOption hkind

end ItsBedalyo.Pages.MenuBoard
