import ItsBedalyo.Handler.OrderPages
import ItsBedalyo.Handler.OwnerPushes
import ItsBedalyo.Handler.PageFaults
import ItsBedalyo.Handler.ReadBack
import ItsBedalyo.Lib.Keys

/-!
# What the owner sees of an order

The owner sees a new order twice: in the push, which `handleCreateOrder` builds from the request,
and in the list, which `handleOrderList` builds from the rows. The list takes its texts by
`.c_str()` and the options through their JSON text. Both show the same order unless a text of the
request has a NUL, where the list stops and the push does not.
-/

namespace ItsBedalyo.OwnerViews

open Pages Page

variable {κ D : Type} [DecidableEq κ] [Double D]

/-! ### The push -/

/-- An `int` of the code. -/
def int (n : ℤ) : Json D := encode (Int32.ofInt n)

/-- `pushItem`. -/
def pushItem (item : PushItem) : Json D := .object
  [("menuId", int item.menuId), ("menuName", encode item.menuName),
   ("quantity", int item.quantity), ("unitPrice", int item.unitPrice),
   ("options", encode item.options)]

/-- `pushData`, or `NotifyOrderStateDTO`. -/
def pushData : Notice → Json D
  | .newOrder orderId deliveryAddress totalPrice state createdAt storeRequest riderRequest
      menuSummary items => .object
    [("orderId", encode orderId), ("deliveryAddress", encode deliveryAddress),
     ("totalPrice", int totalPrice), ("state", int state), ("createdAt", encode createdAt),
     ("storeRequest", encode storeRequest), ("riderRequest", encode riderRequest),
     ("menuSummary", encode menuSummary), ("items", .array (items.map pushItem))]
  | .orderState orderId state message => .object
    [("orderId", encode orderId), ("state", int state), ("message", encode message)]

/-! ### The list -/

/-- The query of `handleOrderList`. -/
def ordersQuery : String :=
  "SELECT order_id, total_price, order_status, " ++
  "delivery_address, created_at, store_request, rider_request, reject_reason " ++
  "FROM ORDERS WHERE store_id = ? AND order_status IN (0, 1, 2, 3, 4, 9) " ++
  "ORDER BY created_at DESC"

/-- The query for the items of an order. -/
def detailsQuery : String :=
  "SELECT menu_id, menu_name, quantity, price AS unit_price, selected_options " ++
  "FROM ORDER_DETAILS WHERE order_id = ?"

section List

variable {key : String → κ} (text : JsonText D) (db : ReaderTables key)

/-- What the first query finds. -/
def ordersOf (storeId : Int32) : List (String × OrderRow) :=
  db.orderIds.filterMap fun orderId =>
    (db.book.tables.orders (key orderId)).bind fun order =>
      if order.storeId = storeId.toInt ∧ order.orderStatus ∈ [0, 1, 2, 3, 4, 9] then
        some (orderId, order)
      else none

/-- A row of `ORDERS`. -/
def orderRow (found : String × OrderRow) : ResultRow D := .of
  [("order_id", .string found.1), ("total_price", .int (.ofInt found.2.totalPrice)),
   ("order_status", .int (.ofInt found.2.orderStatus)),
   ("delivery_address", .string found.2.deliveryAddress),
   ("created_at", .string (db.columns (key found.1)).createdAt),
   ("store_request", .string found.2.storeRequest),
   ("rider_request", .string found.2.riderRequest),
   ("reject_reason", .ofText? (db.columns (key found.1)).rejectReason)]

/-- A row of `ORDER_DETAILS`. -/
def detailRow (row : DetailRow) : ResultRow D := .of
  [("menu_id", .int (.ofInt row.menuId)), ("menu_name", .string row.menuName),
   ("quantity", .int (.ofInt row.quantity)), ("unit_price", .int (.ofInt row.price)),
   ("selected_options", .string (text.dump (encode row.selectedOptions)))]

/-- What the queries find. -/
def rows (query : String) : List SqlParam → List (ResultRow D)
  | [.int storeId] => if query = ordersQuery then (ordersOf db storeId).map (orderRow db) else []
  | [.string orderId] =>
    if query = detailsQuery then (db.detailsOf orderId).map (detailRow text) else []
  | _ => []

/-- An item of the list. -/
def listedItem (row : DetailRow) : Json D := .object
  [("menuId", int row.menuId), ("menuName", encode (cStr row.menuName)),
   ("quantity", int row.quantity), ("unitPrice", int row.price),
   ("options",
    Pages.OrderHandler.optionsOf text (cStr (text.dump (encode row.selectedOptions))))]

/-- An order of the list. -/
def listed (found : String × OrderRow) : Json D :=
  let details := db.detailsOf (cStr found.1)
  .object
    [("orderId", encode (cStr found.1)), ("totalPrice", int found.2.totalPrice),
     ("state", int found.2.orderStatus),
     ("deliveryAddress", encode (cStr found.2.deliveryAddress)),
     ("createdAt", encode (cStr (db.columns (key found.1)).createdAt)),
     ("storeRequest", encode (cStr found.2.storeRequest)),
     ("riderRequest", encode (cStr found.2.riderRequest)),
     ("rejectReason", encode (cStr ((db.columns (key found.1)).rejectReason.getD ""))),
     ("menuSummary", encode (menuSummary
       ((details.head?.map fun row => cStr row.menuName).getD "") details.length)),
     ("items", .array (details.map (listedItem text)))]

/-- What `handleOrderList` replies. -/
def orderListReply (found : List (String × OrderRow)) : Json D := .object
  [("status", encode (200 : Int32)), ("message", encode "조회 성공"),
   ("orders", .array (found.map (listed text db)))]

/-! ### Reading the list -/

theorem read_orderItem (i : ℕ) (row : DetailRow) :
    (Pages.OrderHandler.orderItem text i (detailRow text row)).read (rows text db) =
      .ok (listedItem text row, if i = 0 then cStr row.menuName else "") := by
  rw [Pages.OrderHandler.orderItem]
  split <;> simp [detailRow, listedItem, int, ResultRow.of, List.lookup_cons]

/-- The loop over the items, which keeps the name of the first. -/
theorem read_items (details : List DetailRow) :
    ∃ items, (DbProg.forEach (Pages.OrderHandler.orderItem text) 0
        (details.map (detailRow text))).read (rows text db) = .ok items ∧
      items.map Prod.fst = details.map (listedItem text) ∧
        (items.map Prod.snd).headD "" = (details.head?.map fun row => cStr row.menuName).getD "" ∧
          items.length = details.length := by
  refine ⟨_, DbProg.read_forEach_zipIdx (fun i row => read_orderItem text db i row) 0 details,
    ?_, ?_, ?_⟩
  · have hfst : (details.zipIdx.map Prod.fst).map (listedItem (D := D) text) =
        details.map (listedItem text) := by
      rw [List.zipIdx_map_fst]
    rw [← hfst, List.map_map, List.map_map]
    rfl
  · cases details <;> rfl
  · rw [List.length_map, List.length_zipIdx]

/-- A text that may be missing. -/
theorem getD_map_cStr (s : Option String) : (s.map cStr).getD "" = cStr (s.getD "") := by
  cases s <;> rfl

omit [Double D] in
theorem rows_details (orderId : String) : rows text db detailsQuery [.string orderId] =
    (db.detailsOf orderId).map (detailRow text) := by
  rw [rows, if_pos rfl]

omit [Double D] in
theorem rows_orders (storeId : Int32) : rows text db ordersQuery [.int storeId] =
    (ordersOf db storeId).map (orderRow db) := by
  rw [rows, if_pos rfl]

theorem read_listedOrder (found : String × OrderRow) :
    (Pages.OrderHandler.listedOrder text (orderRow db found)).read (rows text db) =
      .ok (listed text db found) := by
  obtain ⟨items, hitems, hfst, hsnd, hlength⟩ := read_items text db (db.detailsOf (cStr found.1))
  have hselect := rows_details text db (cStr found.1)
  unfold detailsQuery at hselect
  have hid : (orderRow db found "order_id" : Cell D) = .string found.1 := rfl
  rw [Pages.OrderHandler.listedOrder]
  simp only [DbProg.read_bind, DbProg.read_cString, DbProg.read_getInt, DbProg.read_cStringOr,
    DbProg.read_select, DbProg.read_pure, hid, Cell.toText_string, hselect, hitems, hfst, hsnd,
    hlength]
  have hreject : (orderRow db found "reject_reason" : Cell D) =
      .ofText? (db.columns (key found.1)).rejectReason := rfl
  simp only [hreject, Cell.cTextOr_ofText?, getD_map_cStr]
  rfl

theorem read_ordersOfStore (storeId : Int32) :
    (Pages.OrderHandler.ordersOfStore text storeId).read (rows text db) =
      .ok ((ordersOf db storeId).map (listed text db)) := by
  show (DbProg.select ordersQuery [.int storeId] >>= fun found => DbProg.forEach
    (fun _ row => Pages.OrderHandler.listedOrder text row) 0 found).read (rows text db) = _
  rw [DbProg.read_bind, DbProg.read_select, rows_orders]
  exact DbProg.read_forEach (fun _ found => read_listedOrder text db found) 0 _

end List

/-! ### The two views -/

/-- What the push and an order of the list both show, but `createdAt`. -/
def sharedFields : List String :=
  ["orderId", "totalPrice", "state", "deliveryAddress", "storeRequest", "riderRequest",
   "menuSummary", "items"]

/-- Both show the same. -/
def SameView (push order : Json D) : Prop :=
  ∀ field ∈ sharedFields, push.find field = order.find field

/-- No text of the request has a NUL that is shown. -/
def NulFree (req : OrderCreateReqDTO) : Prop :=
  ∀ s ∈ [req.userId, req.deliveryAddress, req.storeRequest, req.riderRequest], '\x00' ∉ s.toList

instance (req : OrderCreateReqDTO) : Decidable (NulFree req) := List.decidableBAll _ _

/-- `parse` undoes `dump`. -/
def Restores (text : JsonText D) (j : Json D) : Prop := text.parse (text.dump j) = some j

section Agreement

variable {key : String → κ} {text : JsonText D} {db : ReaderTables key}

/-- The summaries are made in the same way. -/
theorem menuSummary_eq (items : List PushItem) : ItsBedalyo.OrderHandler.menuSummary items =
    Pages.menuSummary ((items.head?.map PushItem.menuName).getD "") items.length := by
  rw [ItsBedalyo.OrderHandler.menuSummary, Pages.menuSummary]
  split
  · simp only [String.append_assoc]
  · exact String.append_empty

omit [Double D] in
/-- The options of an item come back. -/
theorem optionsOf_dump {options : List String} (h : Restores text (encode options)) :
    Pages.OrderHandler.optionsOf text (cStr (text.dump (encode options))) = encode options := by
  have hparse : text.parse (text.dump (encode options)) = some (encode options) := h
  rw [cStr_eq_self.mpr (text.nul_not_mem_dump _), Pages.OrderHandler.optionsOf, parseOr, hparse]
  rfl

/-- A row shows the item that it was written for. -/
theorem listedItem_row {orderId : String} {item : PushItem} (hname : '\x00' ∉ item.menuName.toList)
    (htext : Restores text (encode item.options)) :
    listedItem text (item.row orderId) = pushItem item := by
  simp only [listedItem, PushItem.row, pushItem, cStr_eq_self.mpr hname, optionsOf_dump htext]

/-- The fields that can differ. -/
theorem sameView_fields {req : OrderCreateReqDTO} {orderId createdAt summary : String}
    {items : List PushItem} :
    SameView (pushData (.newOrder orderId req.deliveryAddress req.totalPrice 0 createdAt
        req.storeRequest req.riderRequest summary items)) (listed text db (orderId, req.row)) ↔
      orderId = cStr orderId ∧ req.deliveryAddress = cStr req.deliveryAddress ∧
        req.storeRequest = cStr req.storeRequest ∧ req.riderRequest = cStr req.riderRequest ∧
          summary = Pages.menuSummary (((db.detailsOf (cStr orderId)).head?.map fun row =>
            cStr row.menuName).getD "") (db.detailsOf (cStr orderId)).length ∧
            items.map pushItem = (db.detailsOf (cStr orderId)).map (listedItem text) := by
  simp [SameView, sharedFields, pushData, listed, Json.find, List.lookup_cons,
    OrderCreateReqDTO.row, LawfulCodec.encode_inj]

/-- **The two views of an order** whose items have been stored. -/
theorem sameView_iff {req : OrderCreateReqDTO} {orderId createdAt : String} {items : List PushItem}
    (hnames : ∀ item ∈ items, '\x00' ∉ item.menuName.toList)
    (htext : ∀ item ∈ items, Restores text (encode item.options))
    (hdetails : db.detailsOf orderId = items.map (PushItem.row orderId)) :
    SameView (pushData (.newOrder orderId req.deliveryAddress req.totalPrice 0 createdAt
        req.storeRequest req.riderRequest (ItsBedalyo.OrderHandler.menuSummary items) items))
      (listed text db (orderId, req.row)) ↔ '\x00' ∉ orderId.toList ∧
        '\x00' ∉ req.deliveryAddress.toList ∧ '\x00' ∉ req.storeRequest.toList ∧
          '\x00' ∉ req.riderRequest.toList := by
  simp only [sameView_fields, ← cStr_eq_self, @eq_comm _ _ (cStr _)]
  refine and_congr_right fun hid => and_congr_right fun _ => and_congr_right fun _ => ?_
  rw [hid, hdetails]
  refine and_iff_left ⟨?_, ?_⟩
  · -- the name of the first item is whole
    rw [menuSummary_eq, List.length_map]
    cases items with
    | nil => rfl
    | cons item items =>
      have hname : cStr item.menuName = item.menuName := cStr_eq_self.mpr (hnames item (.head _))
      simp only [List.map_cons, List.head?_cons, Option.map_some, Option.getD_some, PushItem.row,
        hname]
  · rw [List.map_map]
    exact List.map_congr_left fun item hitem =>
      (listedItem_row (hnames item hitem) (htext item hitem)).symm

end Agreement

/-! ### A new order in the list -/

section NewOrder

variable {key : String → κ} {tables tables' : Tables κ} {db : ReaderTables key}
  {req : OrderCreateReqDTO} {orderId ownerId : String} {notice : Notice} {storeId : Int32}

/-- Nothing about the order has changed since `tables`, not its status either. What has been stored
comes back as it was, the rows in the order in which they were inserted. -/
structure StillStored (orderId : String) (tables : Tables κ) (db : ReaderTables key) : Prop where
  named : orderId ∈ db.orderIds
  order : db.book.tables.orders (key orderId) = tables.orders (key orderId)
  details : db.detailsOf orderId = tables.details.filter fun row => key row.orderId = key orderId

/-- The rows of a new order. -/
theorem rows_of_announced (h : Announced key req tables tables' notice)
    (hbook : ∀ row ∈ tables.details, tables.orders (key row.orderId) ≠ none) :
    tables'.orders (key notice.orderId) = some req.row ∧
      (tables'.details.filter fun row => key row.orderId = key notice.orderId) =
        notice.items.map (PushItem.row notice.orderId) := by
  cases h with
  | @intro now n items hmissing _ htables =>
    have hwrites := htables.trans (Tables.writes_cons ..)
    refine ⟨?_, ?_⟩
    · rw [hwrites, (Tables.writes_details _ _).1]
      exact Function.update_self ..
    · have hdetails := (congrArg Tables.details hwrites).trans (writes_details_details _ _)
      rw [hdetails]
      refine List.filter_append_eq_right (fun row hrow hkey => hbook row hrow ?_) fun row hrow => ?_
      · rw [of_decide_eq_true hkey]
        exact hmissing
      · obtain ⟨item, -, rfl⟩ := List.mem_map.mp hrow
        exact decide_eq_true rfl

/-- A new order is in the list of its store, with its row. -/
theorem mem_ordersOf (hdb : StillStored orderId tables db)
    (horder : tables.orders (key orderId) = some req.row) (hstore : storeId.toInt = req.storeId) :
    (orderId, req.row) ∈ ordersOf db storeId := by
  refine List.mem_filterMap.mpr ⟨orderId, hdb.named, ?_⟩
  rw [hdb.order, horder]
  exact if_pos ⟨hstore.symm, .head _⟩

theorem eq_of_mem_ordersOf (hdb : StillStored orderId tables db)
    (horder : tables.orders (key orderId) = some req.row) {order : OrderRow}
    (hmem : (orderId, order) ∈ ordersOf db storeId) : order = req.row := by
  obtain ⟨id, -, hfound⟩ := List.mem_filterMap.mp hmem
  obtain ⟨row, hrow, hlisted⟩ := Option.bind_eq_some_iff.mp hfound
  split at hlisted
  · cases hlisted
    rw [hdb.order, horder] at hrow
    exact (Option.some.inj hrow).symm
  · cases hlisted

theorem eval_handleOrderList (db : ReaderTables key) (others : (o : PageOp D) → o.Res)
    {text : JsonParser D} {jsonBody : String} {body : Json D}
    (hread : text.read jsonBody = .ok body)
    (hstore : body.value "storeId" (0 : Int32) = .ok storeId) (hne : storeId ≠ 0) :
    ∃ ops : List (DbOp D), (Pages.OrderHandler.handleOrderList text jsonBody).eval
      (reading (rows text.toJsonText db) others) = (.ok (), ops.map PageOp.db ++
        [.sendPacket CmdID.RES_ORDER_LIST
          (some (orderListReply text.toJsonText db (ordersOf db storeId)))]) := by
  obtain ⟨ops, hops⟩ := eval_db_reading (rows text.toJsonText db) others
    (read_ordersOfStore text.toJsonText db storeId)
  refine ⟨ops, ?_⟩
  rw [Pages.OrderHandler.handleOrderList]
  simp only [Prog.eval_tryCatch, Prog.eval_bind, eval_parse, hread, eval_value, hstore, if_neg hne,
    hops, Except.mapError]
  rfl

/-- **The push and the list.** A later list of the store has the order that was pushed, and shows it
as the push did exactly if the request has no NUL. -/
theorem pushed_same_iff (text : JsonParser D) {jsonBody : String} {body : Json D}
    (others : (o : PageOp D) → o.Res) {es : List Env} {r : Except String Unit} {w : World Unit κ}
    (hr : (ItsBedalyo.OrderHandler.handleCreateOrder (.ok req)).run (exec key ()) es
      (.init tables) = some (r, w)) (hpushed : (ownerId, notice) ∈ w.pushed)
    (hbook : ∀ row ∈ tables.details, tables.orders (key row.orderId) ≠ none)
    (hdb : StillStored notice.orderId w.db.tables db)
    (htext : ∀ item ∈ notice.items, Restores text.toJsonText (encode item.options))
    (hread : text.read jsonBody = .ok body)
    (hasked : body.value "storeId" (0 : Int32) = .ok storeId) (hne : storeId ≠ 0)
    (hstore : storeId.toInt = req.storeId) :
    ∃ ops : List (DbOp D),
      (Pages.OrderHandler.handleOrderList text jsonBody).eval
        (reading (rows text.toJsonText db) others) = (.ok (), ops.map PageOp.db ++
          [.sendPacket CmdID.RES_ORDER_LIST
            (some (orderListReply text.toJsonText db (ordersOf db storeId)))]) ∧
      (∃ order, (notice.orderId, order) ∈ ordersOf db storeId) ∧
      ∀ order, (notice.orderId, order) ∈ ordersOf db storeId →
        (SameView (pushData notice) (listed text.toJsonText db (notice.orderId, order)) ↔
          NulFree req) := by
  have hannounced := OwnerPushes.announced_of_run hr hpushed
  obtain ⟨horder, hdetails⟩ := rows_of_announced hannounced hbook
  obtain ⟨ops, heval⟩ := eval_handleOrderList db others hread hasked hne
  refine ⟨ops, heval, ⟨req.row, mem_ordersOf hdb horder hstore⟩, fun order hmem => ?_⟩
  obtain rfl := eq_of_mem_ordersOf hdb horder hmem
  rw [← hdb.details] at hdetails
  cases hannounced with
  | @intro now n items hmissing hnames htables =>
    refine (sameView_iff hnames htext hdetails).trans ?_
    simp [NulFree, Notice.orderId, OwnerPushes.nul_mem_newOrderId]

end NewOrder

/-! ### An order with a large portion -/

/-- One 짜장면 곱빼기. -/
def largeLunch (deliveryAddress : String) : OrderCreateReqDTO :=
  ⟨"hong", 1, 10000, deliveryAddress, [⟨5, 1, 7000, some [some 1]⟩], "", ""⟩

/-- The id that it gets. -/
def largeLunchId : String :=
  "ORD-" ++ "20260103000000" ++ "-" ++ ItsBedalyo.OrderHandler.pad3 (7 % 1000) ++ "-" ++ "hong"

/-- Every call succeeds. -/
def largeLunchAnswers : List Env :=
  [.ok, .ok, .time ⟨"20260103000000", "2026-01-03 00:00:00", by decide⟩, .number 7, .ok, .ok, .ok,
   .text "짜장면", .text "곱빼기", .ok, .ok, .ok, .ok, .ok, .ok]

/-- What the owner is told. -/
def largeLunchNotice (deliveryAddress : String) : Notice :=
  .newOrder largeLunchId deliveryAddress 10000 0 "2026-01-03 00:00:00" "" "" "짜장면"
    [⟨5, "짜장면", 1, 7000, ["곱빼기"]⟩]

/-- The tables after it, as the list finds them. -/
def largeLunchReaders (deliveryAddress : String) : ReaderTables (id : String → String) where
  book := ⟨lunchTables.writes [.order largeLunchId (largeLunch deliveryAddress).row,
    .detail ⟨largeLunchId, 5, "짜장면", 1, 7000, ["곱빼기"]⟩], []⟩
  columns _ := ⟨"2026-01-03 00:00:00", 0, 0, none⟩
  orderIds := [largeLunchId]
  storeName _ := "황궁"
  menuName _ := some "짜장면"
  cardNumber _ := some none
  listed k := by
    show (Function.update (fun _ => none) largeLunchId _ k).isSome = true ↔ k ∈ [largeLunchId]
    rcases eq_or_ne k largeLunchId with rfl | hk
    · simp
    · simp [hk]

theorem largeLunch_pushed (deliveryAddress : String) : ∃ r w,
    (ItsBedalyo.OrderHandler.handleCreateOrder (.ok (largeLunch deliveryAddress))).run
      (exec id ()) largeLunchAnswers (.init lunchTables) = some (r, w) ∧
    ("kim", largeLunchNotice deliveryAddress) ∈ w.pushed ∧
      w.db.tables = (largeLunchReaders deliveryAddress).book.tables :=
  ⟨_, _, rfl, .head _, rfl⟩

theorem largeLunch_stillStored {deliveryAddress : String} {tables : Tables String}
    (h : tables = (largeLunchReaders deliveryAddress).book.tables) :
    StillStored largeLunchId tables (largeLunchReaders deliveryAddress) := by
  subst h
  exact ⟨.head _, rfl, rfl⟩

/-- A JSON library that knows the options and the request for the list. -/
def largeLunchText : JsonParser Float where
  parse s :=
    if s = "[]" then some (.array [])
    else if s = "[\"곱빼기\"]" then some (.array [.string "곱빼기"])
    else if s = "\x7b\"storeId\":1\x7d" then some (.object [("storeId", .numberUnsigned 1)])
    else none
  dump
    | .array [.string "곱빼기"] => "[\"곱빼기\"]"
    | _ => "[]"
  parse_brackets := rfl
  nul_not_mem_dump j := by
    split <;> decide
  parseError _ := "parse error"
  quotesUtf8 _ := true
  conversionError _ := "type error"

theorem largeLunch_restores : Restores largeLunchText.toJsonText (encode ["곱빼기"]) := rfl

theorem pushed_same_iff_seoul :
    ∃ order, (largeLunchId, order) ∈ ordersOf (largeLunchReaders "Seoul") 1 ∧
      SameView (pushData (largeLunchNotice "Seoul"))
        (listed largeLunchText.toJsonText (largeLunchReaders "Seoul") (largeLunchId, order)) := by
  obtain ⟨r, w, hr, hpushed, htables⟩ := largeLunch_pushed "Seoul"
  have hread : largeLunchText.read "\x7b\"storeId\":1\x7d" =
      .ok (.object [("storeId", .numberUnsigned 1)]) := rfl
  obtain ⟨-, -, ⟨order, horder⟩, hsame⟩ := pushed_same_iff largeLunchText idle hr hpushed
    (fun row hrow => absurd hrow List.not_mem_nil) (largeLunch_stillStored htables)
    (fun item hitem => List.mem_singleton.mp hitem ▸ largeLunch_restores) hread rfl (by decide) rfl
  exact ⟨order, horder, (hsame order horder).mpr (by decide)⟩

/-- A NUL in the address: the push has the whole address, the list only what is before it. -/
theorem not_same_cutAddress :
    ¬∀ (req : OrderCreateReqDTO) (tables : Tables String) (es : List Env)
      (r : Except String Unit) (w : World Unit String) (ownerId : String) (notice : Notice)
      (db : ReaderTables (id : String → String)) (storeId : Int32) (order : OrderRow),
      (ItsBedalyo.OrderHandler.handleCreateOrder (.ok req)).run (exec id ()) es (.init tables) =
          some (r, w) → (ownerId, notice) ∈ w.pushed →
        (∀ row ∈ tables.details, tables.orders row.orderId ≠ none) →
        StillStored notice.orderId w.db.tables db →
        (∀ item ∈ notice.items, Restores largeLunchText.toJsonText (encode item.options)) →
        (notice.orderId, order) ∈ ordersOf db storeId →
          SameView (pushData notice)
            (listed largeLunchText.toJsonText db (notice.orderId, order)) := by
  intro h
  obtain ⟨r, w, hr, hpushed, htables⟩ := largeLunch_pushed "Seoul\x00 5"
  have hstored := largeLunch_stillStored htables
  have hrow : w.db.tables.orders largeLunchId = some (largeLunch "Seoul\x00 5").row := by
    rw [htables]
    rfl
  have hsame := h _ _ _ r w _ _ _ 1 _ hr hpushed (fun row hrow => absurd hrow List.not_mem_nil)
    hstored (fun item hitem => List.mem_singleton.mp hitem ▸ largeLunch_restores)
    (mem_ordersOf hstored hrow rfl)
  have haddress : (some (.string "Seoul\x00 5") : Option (Json Float)) =
      some (.string (cStr "Seoul\x00 5")) := hsame "deliveryAddress" (by decide)
  exact absurd (cStr_eq_self.mp (Json.string.inj (Option.some.inj haddress)).symm) (by decide)

end ItsBedalyo.OwnerViews
