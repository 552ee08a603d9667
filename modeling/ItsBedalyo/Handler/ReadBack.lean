import ItsBedalyo.Handler.OrderReaders
import ItsBedalyo.Lib.Keys

/-!
# Reading a created order back

`Shows` says that the four readers show the items of a request: the lines themselves, or the name
of the first and the count of the others. `handleCreateOrder` writes the items to `ORDER_DETAILS`
and three of the readers look for them in `ORDER_ITEMS`, so they show them only if there are none
(`shows_iff`). `handleOrderList` looks in `ORDER_DETAILS`, but for the id up to a NUL; it shows the
items where no other order is stored under that (`Stored.list`).
-/

namespace ItsBedalyo

open RowLocking Interface

section

variable {κ : Type} [DecidableEq κ] {key : String → κ}

/-- `(menuId, quantity, unitPrice)`. -/
abbrev ItemLine := ℤ × ℤ × ℤ

def OrderItemDTO.line (item : OrderItemDTO) : ItemLine :=
  (item.menuId, item.quantity, item.unitPrice)

def DetailItem.line {J : Type} (item : DetailItem J) : ItemLine :=
  (item.menuId, item.quantity, item.unitPrice)

def ListedItem.line (item : ListedItem) : ItemLine := (item.menuId, item.quantity, item.unitPrice)

/-- The rows of `ORDER_ITEMS` and `ORDER_DETAILS` belong to orders. -/
structure OrderBook.Referential (key : String → κ) (book : OrderBook κ) : Prop where
  items : ∀ row ∈ book.items, book.tables.orders (key row.orderId) ≠ none
  details : ∀ row ∈ book.tables.details, book.tables.orders (key row.orderId) ≠ none

/-- Since `book` nothing about the order has changed but its status. -/
structure Unchanged (orderId : String) (book : OrderBook κ) (db : ReaderTables key) : Prop where
  order : ∀ row, book.tables.orders (key orderId) = some row → ∃ status,
    db.book.tables.orders (key orderId) = some { row with orderStatus := status }
  items : db.itemsOf orderId = book.items.filter fun row => key row.orderId = key orderId
  details : db.detailsOf orderId =
    book.tables.details.filter fun row => key row.orderId = key orderId
  listed : orderId ∈ db.orderIds

/-- A summary has the name of the first item's menu and the count of the other items. -/
def FirstAndCount (menuName : ℤ → Option String) (items : List OrderItemDTO) (summary : String) :
    Prop :=
  ∀ first rest, items = first :: rest → ∀ name, menuName first.menuId = some name →
    summary = summaryOf name rest.length

/-- The readers show the items of the request, where they show the id of the order. -/
structure Shows {J : Type} (parse : String → Option J) (emptyArray : J)
    (like : String → String → Bool) (req : OrderCreateReqDTO) (orderId : String)
    (db : ReaderTables key) : Prop where
  detail : ∃ res, OrderHandler.handleOrderDetail db parse emptyArray (.ok orderId) = some res ∧
    (res.items.map DetailItem.line).Perm (req.items.map OrderItemDTO.line)
  history : ∃ item ∈ OrderDAO.getOrderHistory db like req.userId "",
    item.orderId = cStr orderId ∧ FirstAndCount db.menuName req.items item.menuSummary
  rider : ∀ row, db.book.tables.orders (key orderId) = some row → row.orderStatus = 1 →
    ∃ order ∈ RiderHandler.handleRiderOrderList db,
      order.orderId = cStr orderId ∧ FirstAndCount db.menuName req.items order.menuSummary
  list : ∀ row, db.book.tables.orders (key orderId) = some row → req.storeId ≠ 0 →
    row.orderStatus ∈ [0, 1, 2, 3, 4, 9] →
    ∃ orders, OrderHandler.handleOrderList db req.storeId = some orders ∧ ∃ order ∈ orders,
      order.orderId = cStr orderId ∧
        (order.items.map ListedItem.line).Perm (req.items.map OrderItemDTO.line) ∧
        ∀ first rest, order.items = first :: rest →
          order.menuSummary = summaryOf first.menuName rest.length

/-- The order is in the list of its store, which finds items under the id up to a NUL. -/
structure ListsOthers (req : OrderCreateReqDTO) (orderId : String) (db : ReaderTables key) :
    Prop where
  store : req.storeId ≠ 0
  order : ∃ row, db.book.tables.orders (key orderId) = some row ∧
    row.orderStatus ∈ [0, 1, 2, 3, 4, 9]
  details : db.detailsOf (cStr orderId) ≠ []

/-! ### What is stored -/

/-- The order as the readers find it. -/
structure Stored (req : OrderCreateReqDTO) (orderId : String) (db : ReaderTables key) : Prop where
  named : orderId ≠ ""
  order : ∃ status,
    db.book.tables.orders (key orderId) = some { req.row with orderStatus := status }
  items : db.itemsOf orderId = []
  details : List.Forall₂ (OrderItemDTO.StoredAs orderId) req.items (db.detailsOf orderId)
  listed : orderId ∈ db.orderIds

theorem writes_details_details (tables : Tables κ) (details : List DetailRow) :
    (tables.writes (details.map .detail)).details = tables.details ++ details := by
  induction details generalizing tables with
  | nil => exact (List.append_nil _).symm
  | cons row details ih =>
    refine (ih (tables.write (.detail row))).trans ?_
    show (tables.details ++ [row]) ++ details = _
    rw [List.append_assoc]
    rfl

/-- The rows written for the items are rows of the order. -/
theorem orderId_of_stored {orderId : String} {items : List OrderItemDTO}
    {details : List DetailRow} (h : List.Forall₂ (OrderItemDTO.StoredAs orderId) items details) :
    ∀ row ∈ details, row.orderId = orderId := by
  induction h with
  | nil => exact fun _ hrow => (nomatch hrow)
  | cons hitem _ ih =>
    intro row hrow
    rcases List.mem_cons.mp hrow with rfl | hrow
    · exact hitem.orderId
    · exact ih row hrow

/-- The rows written for the items have their lines. -/
theorem lines_of_stored {orderId : String} {items : List OrderItemDTO}
    {details : List DetailRow} (h : List.Forall₂ (OrderItemDTO.StoredAs orderId) items details) :
    details.map (fun row => (row.menuId, row.quantity, row.price)) =
      items.map OrderItemDTO.line := by
  induction h with
  | nil => rfl
  | cons hitem _ ih =>
    rw [List.map_cons, List.map_cons, ih, hitem.menuId, hitem.quantity, hitem.price]
    rfl

/-- What has been created is stored, and nothing else under its id. -/
theorem Created.readable {req : OrderCreateReqDTO} {orderId : String} {details : List DetailRow}
    {tables tables' : Tables κ} {items : List ItemRow} {db : ReaderTables key}
    (h : Created key req orderId details tables tables')
    (hbook : OrderBook.Referential key ⟨tables, items⟩)
    (hdb : Unchanged orderId ⟨tables', items⟩ db) : Stored req orderId db := by
  have htables' := h.tables
  rw [Tables.writes_cons] at htables'
  have horder : tables'.orders (key orderId) = some req.row := by
    rw [htables', (Tables.writes_details _ details).1]
    exact Function.update_self ..
  refine ⟨h.named, hdb.order req.row horder, ?_, ?_, hdb.listed⟩
  · rw [hdb.items]
    refine List.filter_eq_nil_iff.mpr fun row hrow hid => hbook.items row hrow ?_
    rw [of_decide_eq_true hid]
    exact h.missing
  · have hdetails : tables'.details = tables.details ++ details := by
      rw [htables', writes_details_details]
      rfl
    have hown : tables'.details.filter (fun row => key row.orderId = key orderId) = details := by
      rw [hdetails]
      refine List.filter_append_eq_right (fun row hrow hid => ?_) fun row hrow => ?_
      · refine hbook.details row hrow ?_
        rw [of_decide_eq_true hid]
        exact h.missing
      · exact decide_eq_true (congrArg key (orderId_of_stored h.stored row hrow))
    rw [hdb.details]
    show List.Forall₂ _ _ (tables'.details.filter _)
    rw [hown]
    exact h.stored

/-! ### What is shown -/

section Shown

variable {J : Type} {parse : String → Option J} {emptyArray : J} {like : String → String → Bool}
  {req : OrderCreateReqDTO} {orderId : String} {db : ReaderTables key}

/-- `handleOrderDetail` needs the order's store and customer, and finds no items. -/
theorem Stored.detail (h : Stored req orderId db) {res : ResOrderDetailDTO J}
    (hres : OrderHandler.handleOrderDetail db parse emptyArray (.ok orderId) = some res) :
    (db.book.tables.stores req.storeId).isSome ∧ (db.cardNumber (key req.userId)).isSome ∧
      res.items = [] := by
  obtain ⟨status, horder⟩ := h.order
  simp only [OrderHandler.handleOrderDetail, if_neg h.named, horder, h.items,
    List.filterMap_nil] at hres
  split at hres
  · next store card hstore hcard =>
    cases hres
    have hstore' : db.book.tables.stores req.storeId = some store := hstore
    have hcard' : db.cardNumber (key req.userId) = some card := hcard
    exact ⟨by rw [hstore']; rfl, by rw [hcard']; rfl, rfl⟩
  · cases hres

/-- With store and customer it answers. -/
theorem Stored.detail_isSome (h : Stored req orderId db)
    (hstore : (db.book.tables.stores req.storeId).isSome)
    (hcard : (db.cardNumber (key req.userId)).isSome) :
    (OrderHandler.handleOrderDetail db parse emptyArray (.ok orderId)).isSome := by
  obtain ⟨status, horder⟩ := h.order
  obtain ⟨store, hstore⟩ := Option.isSome_iff_exists.mp hstore
  obtain ⟨card, hcard⟩ := Option.isSome_iff_exists.mp hcard
  simp [OrderHandler.handleOrderDetail, if_neg h.named, horder, OrderCreateReqDTO.row, hstore,
    hcard]

/-- The order's store lets `getOrderHistory` show the order. -/
theorem Stored.history (h : Stored req orderId db)
    (hstore : (db.book.tables.stores req.storeId).isSome) :
    ∃ item ∈ OrderDAO.getOrderHistory db like req.userId "", item.orderId = cStr orderId := by
  obtain ⟨status, horder⟩ := h.order
  refine ⟨OrderDAO.historyItem db orderId { req.row with orderStatus := status }, ?_, rfl⟩
  refine List.mem_filterMap.mpr ⟨orderId, h.listed, ?_⟩
  rw [horder]
  exact if_pos ⟨rfl, hstore, fun h => absurd rfl h⟩

/-- `handleRiderOrderList` shows the orders that have been accepted. -/
theorem Stored.rider (h : Stored req orderId db) {row : OrderRow}
    (hrow : db.book.tables.orders (key orderId) = some row) (hstatus : row.orderStatus = 1) :
    ∃ order ∈ RiderHandler.handleRiderOrderList db, order.orderId = cStr orderId := by
  refine ⟨RiderHandler.riderOrder db orderId row,
    List.mem_filterMap.mpr ⟨orderId, h.listed, ?_⟩, rfl⟩
  rw [hrow]
  exact if_pos hstatus

/-- `handleOrderList` shows the items, if it finds the same under the id up to a NUL. -/
theorem Stored.list (h : Stored req orderId db)
    (hcut : db.detailsOf (cStr orderId) = db.detailsOf orderId) {row : OrderRow}
    (hrow : db.book.tables.orders (key orderId) = some row) (hstore : req.storeId ≠ 0)
    (hstatus : row.orderStatus ∈ [0, 1, 2, 3, 4, 9]) :
    ∃ orders, OrderHandler.handleOrderList db req.storeId = some orders ∧ ∃ order ∈ orders,
      order.orderId = cStr orderId ∧
        (order.items.map ListedItem.line).Perm (req.items.map OrderItemDTO.line) ∧
        ∀ first rest, order.items = first :: rest →
          order.menuSummary = summaryOf first.menuName rest.length := by
  obtain ⟨status, horder⟩ := h.order
  have hrow' : row.storeId = req.storeId := by
    rw [horder] at hrow
    cases hrow
    rfl
  refine ⟨_, if_neg hstore, OrderHandler.listedOrder db orderId row, ?_, rfl, ?_, ?_⟩
  · refine List.mem_filterMap.mpr ⟨orderId, h.listed, ?_⟩
    rw [hrow]
    exact if_pos ⟨hrow', hstatus⟩
  · rw [OrderHandler.listedOrder, hcut, List.map_map]
    exact List.Perm.of_eq (lines_of_stored h.details)
  · intro first rest hitems
    show summaryOf (((OrderHandler.listedOrder db orderId row).items.head?.map _).getD "")
      ((OrderHandler.listedOrder db orderId row).items.length - 1) = _
    rw [hitems]
    rfl

/-- Without items in the request, what the list shows is found under another id. -/
theorem not_listsOthers (hshows : Shows parse emptyArray like req orderId db)
    (hitems : req.items = []) : ¬ListsOthers req orderId db := by
  rintro ⟨hstore, ⟨row, hrow, hstatus⟩, hdetails⟩
  obtain ⟨orders, horders, order, horder, hid, hperm, -⟩ := hshows.list row hrow hstore hstatus
  obtain rfl := Option.some.inj ((if_neg hstore).symm.trans horders)
  obtain ⟨id, -, hfound⟩ := List.mem_filterMap.mp horder
  obtain ⟨row', -, hlisted⟩ := Option.bind_eq_some_iff.mp hfound
  obtain ⟨-, hlisted⟩ := Option.ite_none_right_eq_some.mp hlisted
  obtain rfl := Option.some.inj hlisted
  have hcut : cStr id = cStr orderId := hid
  rw [hitems, OrderHandler.listedOrder, hcut, List.map_map] at hperm
  exact hdetails (List.map_eq_nil_iff.mp hperm.eq_nil)

/-- **What the readers show of a stored order.** -/
theorem Stored.shows_iff (h : Stored req orderId db) :
    Shows parse emptyArray like req orderId db ↔ req.items = [] ∧
      (db.book.tables.stores req.storeId).isSome ∧ (db.cardNumber (key req.userId)).isSome ∧
        ¬ListsOthers req orderId db := by
  constructor
  · intro hshows
    obtain ⟨res, hres, hperm⟩ := hshows.detail
    obtain ⟨hstore, hcard, hitems⟩ := h.detail hres
    rw [hitems, List.map_nil] at hperm
    have hnone : req.items = [] := List.map_eq_nil_iff.mp hperm.nil_eq.symm
    exact ⟨hnone, hstore, hcard, not_listsOthers hshows hnone⟩
  · rintro ⟨hitems, hstore, hcard, hothers⟩
    have hnothing (menuName : ℤ → Option String) (summary : String) :
        FirstAndCount menuName req.items summary := by
      rintro first rest hcons
      rw [hitems] at hcons
      cases hcons
    constructor
    · have hsome : (OrderHandler.handleOrderDetail db parse emptyArray (.ok orderId)).isSome =
          true := h.detail_isSome hstore hcard
      obtain ⟨res, hres⟩ := Option.isSome_iff_exists.mp hsome
      refine ⟨res, hres, ?_⟩
      rw [(h.detail hres).2.2, hitems]
      exact List.Perm.nil
    · obtain ⟨item, hitem, hkey⟩ := h.history hstore
      exact ⟨item, hitem, hkey, hnothing _ _⟩
    · intro row hrow hstatus
      obtain ⟨order, horder, hkey⟩ := h.rider hrow hstatus
      exact ⟨order, horder, hkey, hnothing _ _⟩
    · intro row hrow hid hstatus
      have hnone : db.detailsOf orderId = [] := by
        have hdetails := h.details
        rw [hitems] at hdetails
        exact List.forall₂_nil_left_iff.mp hdetails
      have hcut : db.detailsOf (cStr orderId) = [] :=
        not_not.mp fun hne => hothers ⟨hid, ⟨row, hrow, hstatus⟩, hne⟩
      exact h.list (hcut.trans hnone.symm) hrow hid hstatus

/-- **Reading back.** After a `handleCreateOrder` that has answered with success, and as long as
nothing about the order changes but its status, the readers show the items of the request exactly
if it has none, its store and customer exist and the list of the store does not find those of
another order, for which the id has to have a NUL. -/
theorem readsBack_iff {tables : Tables κ} {items : List ItemRow} {es : List Env}
    {r : Except String Unit} {w : World Unit κ}
    (hr : (OrderHandler.handleCreateOrder (.ok req)).run (exec key ()) es (.init tables) =
      some (r, w))
    (hsuccess : ((), OrderHandler.created orderId) ∈ w.sent)
    (hbook : OrderBook.Referential key ⟨tables, items⟩)
    (hdb : Unchanged orderId ⟨w.db.tables, items⟩ db) :
    Shows parse emptyArray like req orderId db ↔ req.items = [] ∧
      (db.book.tables.stores req.storeId).isSome ∧ (db.cardNumber (key req.userId)).isSome ∧
        ¬ListsOthers req orderId db := by
  obtain ⟨c, hsees, houtcome⟩ := OrderState.run_alone_watch (noteLate false false)
    (handleCreateOrder_alone (.ok req)) hr
  generalize (OrderHandler.handleCreateOrder (.ok req)).saw _ _ _ _ = seen at houtcome
  rw [hsees.sent] at hsuccess
  have hstored : ∃ details, Created key req orderId details tables w.db.tables := by
    cases houtcome with
    | refused => simp [OrderHandler.created, OrderHandler.notCreated] at hsuccess
    | @created req' orderId' details tables' hbody hcreated =>
      cases hbody
      obtain rfl : orderId = orderId' := by
        simpa [OrderHandler.created] using hsuccess
      exact ⟨details, hsees.committed ▸ hcreated⟩
    | @contradicted req' orderId' what details tables' hbody hcreated =>
      cases hbody
      obtain rfl : orderId = orderId' := by
        simpa [OrderHandler.created, OrderHandler.notCreated] using hsuccess
      exact ⟨details, hsees.committed ▸ hcreated⟩
  obtain ⟨details, hcreated⟩ := hstored
  exact (hcreated.readable hbook hdb).shows_iff

end Shown

end

/-! ### An order of one item -/

/-- One 짜장면. -/
def lunch : OrderCreateReqDTO :=
  ⟨"hong", 1, 10000, "Seoul", [⟨5, 1, 7000, none⟩], "", ""⟩

/-- The id that it gets. -/
def lunchId : String :=
  "ORD-" ++ "20260101000000" ++ "-" ++ OrderHandler.pad3 (7 % 1000) ++ "-" ++ "hong"

/-- The tables before it. -/
def lunchTables : Tables String := ⟨fun _ => none, fun _ => some ⟨"kim", 3000, 0⟩, []⟩

/-- Every call succeeds. -/
def lunchAnswers : List Env :=
  [.ok, .ok, .time ⟨"20260101000000", "2026-01-01 00:00:00", by decide⟩, .number 7, .ok, .ok, .ok,
   .text "짜장면", .ok, .ok, .ok, .ok, .ok, .ok]

/-- The tables after it, as the readers find them. -/
def lunchReaders : ReaderTables (id : String → String) where
  book := ⟨lunchTables.writes
    [.order lunchId lunch.row, .detail ⟨lunchId, 5, "짜장면", 1, 7000, []⟩], []⟩
  columns _ := ⟨"2026-01-01 00:00:00", 0, 0, none⟩
  orderIds := [lunchId]
  storeName _ := "황궁"
  menuName _ := some "짜장면"
  cardNumber _ := some none
  listed k := by
    show (Function.update (fun _ => none) lunchId (some lunch.row) k).isSome = true ↔
      k ∈ [lunchId]
    rcases eq_or_ne k lunchId with rfl | hk
    · simp
    · simp [hk]

theorem lunch_created : ∃ r w, (OrderHandler.handleCreateOrder (.ok lunch)).run (exec id ())
    lunchAnswers (.init lunchTables) = some (r, w) ∧
      ((), OrderHandler.created lunchId) ∈ w.sent ∧ w.db.tables = lunchReaders.book.tables :=
  ⟨_, _, rfl, .head _, rfl⟩

theorem lunch_unchanged {tables : Tables String} (h : tables = lunchReaders.book.tables) :
    Unchanged lunchId ⟨tables, []⟩ lunchReaders := by
  subst h
  exact ⟨fun row hrow => ⟨row.orderStatus, hrow⟩, rfl, rfl, .head _⟩

theorem lunch_referential : OrderBook.Referential (id : String → String) ⟨lunchTables, []⟩ :=
  ⟨fun _ hrow => (nomatch hrow), fun _ hrow => (nomatch hrow)⟩

theorem readsBack_iff_lunch :
    Shows some "[]" (fun _ _ => true) lunch lunchId lunchReaders ↔ lunch.items = [] ∧
      (lunchReaders.book.tables.stores lunch.storeId).isSome ∧
        (lunchReaders.cardNumber lunch.userId).isSome ∧
          ¬ListsOthers lunch lunchId lunchReaders := by
  obtain ⟨r, w, hr, hsuccess, htables⟩ := lunch_created
  exact readsBack_iff hr hsuccess lunch_referential (lunch_unchanged htables)

/-- The receipt of an order of one item shows none. -/
theorem lunch_not_shown :
    ¬∀ (req : OrderCreateReqDTO) (tables : Tables String) (items : List ItemRow) (es : List Env)
      (r : Except String Unit) (w : World Unit String) (orderId : String)
      (db : ReaderTables (id : String → String)),
      (OrderHandler.handleCreateOrder (.ok req)).run (exec id ()) es (.init tables) =
          some (r, w) →
        ((), OrderHandler.created orderId) ∈ w.sent →
          OrderBook.Referential id ⟨tables, items⟩ → Unchanged orderId ⟨w.db.tables, items⟩ db →
            (db.book.tables.stores req.storeId).isSome → (db.cardNumber req.userId).isSome →
              Shows some "[]" (fun _ _ => true) req orderId db := by
  intro h
  obtain ⟨r, w, hr, hsuccess, htables⟩ := lunch_created
  have hshows := h lunch lunchTables [] lunchAnswers r w lunchId lunchReaders hr hsuccess
    lunch_referential (lunch_unchanged htables) rfl rfl
  obtain ⟨res, hres, hperm⟩ := hshows.detail
  have hitems : res.items = [] := by
    cases hres
    rfl
  rw [hitems] at hperm
  exact absurd hperm.length_eq (by decide)

end ItsBedalyo
