import ItsBedalyo.Handler.CheckedOrders

/-!
# The receipt of an order

The receipt shows the total that was stored with the order beside amounts that come from elsewhere:
the lines of `ORDER_ITEMS` whose menu still exists, and two columns of `ORDERS` that neither of the
functions which create orders writes. They stay at their default 0, so the delivery fee is never on
the receipt, and neither are the lines of `handleCreateOrder`, which go to `ORDER_DETAILS`.

`Shop` is what the receipt reads. `ShopStep` is what happens to it: orders are created, their status
changes, and so does everything about stores, menus and customers.
-/

namespace ItsBedalyo

open RowLocking Interface

variable {κ J : Type} [DecidableEq κ]

/-- `totalMenuPrice + deliveryFee - 할인가`. -/
def ResOrderDetailDTO.AddsUp (res : ResOrderDetailDTO J) : Prop :=
  res.totalPrice = res.totalMenuPrice + res.deliveryFee - res.couponDiscount - res.wowDiscount

/-! ### Requests to create orders -/

namespace CreateRequest

variable (key : String → κ) (dump : J → Except String String)

/-- The tables after a request that runs by itself. A transaction that it leaves open is not in
them. -/
def outcome (book : OrderBook κ) : CreateRequest J → Option (OrderBook κ)
  | handleCreateOrder body es =>
    ((OrderHandler.handleCreateOrder body).run (exec key ()) es (.init book.tables)).map
      fun rw => { book with tables := rw.2.db.tables }
  | createOrder ms req es =>
    ((OrderDAO.createOrder dump ms req : OrderDao Empty OrderResult).run
      ((orderSchema key).exec ()) es (.init book)).map fun rw => rw.2.server.tables
  | settle _ _ => none

/-- The lines that go to `ORDER_ITEMS`. -/
def itemLines : CreateRequest J → List ItemLine
  | createOrder _ req _ => req.items.map OrderLine.line
  | _ => []

/-- The comparison that `handleCreateOrder` makes, in `int`. -/
def PassesCheck (tables : Tables κ) (a : CreateRequest J) : Prop :=
  ∀ o ∈ a.order?, Int.bmod (Wrapping.sum (2 ^ 32) (o.2.map fun line => line.1 * line.2) +
    a.deliveryFee key tables) (2 ^ 32) = o.1

/-- The lines that a receipt does not list: those of `handleCreateOrder`, and those whose menu is
gone. -/
def unlisted (menuName : ℤ → Option String) : CreateRequest J → List PricedLine
  | handleCreateOrder (.ok req) _ => req.items.map OrderItemDTO.priced
  | createOrder _ req _ =>
    (req.items.filter fun item => (menuName item.menuId).isNone).map OrderLine.priced
  | _ => []

/-- The delivery and the lines that the receipt does not list are free. -/
def Unburdened (tables : Tables κ) (menuName : ℤ → Option String) (a : CreateRequest J) : Prop :=
  (2 ^ 32 : ℤ) ∣ a.deliveryFee key tables + priceOf (a.unlisted menuName)

variable {key dump} {a : CreateRequest J} {book book' : OrderBook κ}

/-- A request leaves the tables alone, or it places its order. -/
theorem outcome_cases (h : a.outcome key dump book = some book') :
    (a.commits key dump book = false ∧ book' = book) ∨
      (a.commits key dump book = true ∧ ∃ orderId row details items lines,
        Placed key orderId row details items book book' ∧
        a.order? = some (row.totalPrice, lines) ∧ items.map ItemRow.line = a.itemLines) := by
  cases a with
  | handleCreateOrder body es =>
    obtain ⟨⟨r, w⟩, hr, rfl⟩ := Option.map_eq_some_iff.mp h
    obtain ⟨c, hsees, houtcome⟩ := OrderState.run_alone_watch (noteLate true false)
      (handleCreateOrder_alone body) hr
    generalize hseen : (OrderHandler.handleCreateOrder body).saw _ _ _ _ = seen at houtcome
    have hplaces {req : OrderCreateReqDTO} {orderId : String} {details : List DetailRow}
        {tables' : Tables κ} (htables : w.db.tables = tables')
        (hcreated : Created key req orderId details book.tables tables') :
        Placed key orderId req.row details [] book { book with tables := w.db.tables } :=
      htables ▸ hcreated.placed
    cases houtcome with
    | refused =>
      have htables : w.db.tables = book.tables := hsees.committed
      exact .inl ⟨hseen, by rw [htables]⟩
    | created hbody hcreated | contradicted hbody hcreated =>
      subst hbody
      exact .inr ⟨hseen, _, _, _, _, _, hplaces hsees.committed hcreated, rfl, rfl⟩
  | createOrder ms req es =>
    obtain ⟨⟨r, w⟩, hr, rfl⟩ := Option.map_eq_some_iff.mp h
    obtain ⟨c, hsees, houtcome⟩ := (orderSchema key).run_alone_watch noteCommit
      (createOrder_alone ms req) hr
    generalize hseen : (OrderDAO.createOrder dump ms req).saw _ _ _ _ = seen at houtcome
    cases houtcome with
    | refused => exact .inl ⟨hseen, hsees.session.committed⟩
    | thrown => exact .inl ⟨hseen, hsees.session.committed⟩
    | @placed orderId items book' hqty hplaced hlines =>
      have htables : w.server.tables = book' := hsees.session.committed
      subst htables
      exact .inr ⟨hseen, orderId, req.row, [], items, _, hplaced, rfl, hlines⟩
  | settle i publish => cases h

end CreateRequest

/-! ### What the receipt reads -/

/-- The tables of the receipt. -/
structure Shop (κ : Type) where
  book : OrderBook κ
  columns : κ → OrderColumns
  storeName : ℤ → String
  menuName : ℤ → Option String
  cardNumber : κ → Option (Option String)

/-- A step of the server. `publish` is the commit, by whoever uses the connection next, of a
transaction that a `createOrder` has left open; until then its row is locked and nobody sees it. -/
inductive ShopStep (κ J : Type)
  | create (a : CreateRequest J) (now : String)
  | publish (orderId : String) (row : OrderRow) (items : List ItemRow) (now : String)
  | setOrder (k : κ) (orderStatus : ℤ) (rejectReason : Option String)
  | setStore (storeId : ℤ) (row : StoreRow) (storeName : String)
  | setMenu (menuId : ℤ) (menuName : Option String)
  | setCustomer (k : κ) (cardNumber : Option (Option String))

namespace Shop

/-- `handleOrderDetail` reads these tables. -/
structure ReadBy {key : String → κ} (s : Shop κ) (db : ReaderTables key) : Prop where
  book : db.book = s.book
  columns : db.columns = s.columns
  menuName : db.menuName = s.menuName

/-- A new order has the defaults in the columns that its `INSERT` does not name. -/
def next (s : Shop κ) (now : String) (book : OrderBook κ) : Shop κ :=
  { s with
    book,
    columns := fun k => if s.book.tables.orders k = none then ⟨now, 0, 0, none⟩ else s.columns k }

variable (key : String → κ) (dump : J → Except String String)

def step (s : Shop κ) : ShopStep κ J → Option (Shop κ)
  | .create a now => (a.outcome key dump s.book).map (s.next now)
  | .publish orderId row items now =>
    if s.book.tables.orders (key orderId) = none ∧ ∀ item ∈ items, item.orderId = orderId then
      some (s.next now
        ⟨s.book.tables.write (.order (key orderId) row), s.book.items ++ items⟩)
    else none
  | .setOrder k orderStatus rejectReason =>
    (s.book.tables.orders k).map fun row =>
      { s with
        book := { s.book with
          tables := s.book.tables.write (.order k { row with orderStatus := orderStatus }) },
        columns := Function.update s.columns k { s.columns k with rejectReason := rejectReason } }
  | .setStore storeId row storeName =>
    some { s with
      book := { s.book with tables := s.book.tables.write (.store storeId row) },
      storeName := Function.update s.storeName storeId storeName }
  | .setMenu menuId menuName =>
    some { s with menuName := Function.update s.menuName menuId menuName }
  | .setCustomer k cardNumber =>
    some { s with cardNumber := Function.update s.cardNumber k cardNumber }

variable {key dump} {s s' : Shop κ} {a : ShopStep κ J}

/-- No order is new, and none has changed but in its status. -/
structure SameOrders (s s' : Shop κ) : Prop where
  items : s'.book.items = s.book.items
  details : s'.book.tables.details = s.book.tables.details
  missing : ∀ k, s.book.tables.orders k = none → s'.book.tables.orders k = none
  stored : ∀ k row, s.book.tables.orders k = some row →
    (∃ status, s'.book.tables.orders k = some { row with orderStatus := status }) ∧
      (s'.columns k).deliveryFee = (s.columns k).deliveryFee ∧
      (s'.columns k).wowDiscount = (s.columns k).wowDiscount

omit [DecidableEq κ] in
theorem SameOrders.of_orders (hbook : s'.book.items = s.book.items)
    (hdetails : s'.book.tables.details = s.book.tables.details)
    (horders : s'.book.tables.orders = s.book.tables.orders)
    (hcolumns : ∀ k row, s.book.tables.orders k = some row → s'.columns k = s.columns k) :
    SameOrders s s' where
  items := hbook
  details := hdetails
  missing k h := by rw [horders, h]
  stored k row h := by
    rw [hcolumns k row h, horders, h]
    exact ⟨⟨row.orderStatus, rfl⟩, rfl, rfl⟩

omit [DecidableEq κ] in
theorem sameOrders_next (now : String) : SameOrders s (s.next now s.book) :=
  .of_orders rfl rfl rfl fun k row hrow => if_neg (by simp [hrow])

/-- The reason of a rejection is no amount. -/
theorem amounts_update (columns : κ → OrderColumns) (k k' : κ) (rejectReason : Option String) :
    (Function.update columns k { columns k with rejectReason } k').deliveryFee =
        (columns k').deliveryFee ∧
      (Function.update columns k { columns k with rejectReason } k').wowDiscount =
        (columns k').wowDiscount := by
  rcases eq_or_ne k' k with rfl | hne
  · rw [Function.update_self]
    exact ⟨rfl, rfl⟩
  · rw [Function.update_of_ne hne]
    exact ⟨rfl, rfl⟩

/-- **What a step does to the orders**: nothing but to their status, or it places one. -/
theorem step_cases (h : step key dump s a = some s') :
    SameOrders s s' ∨ ∃ orderId row details items now,
      Placed key orderId row details items s.book s'.book ∧ s' = s.next now s'.book := by
  cases a with
  | create a now =>
    obtain ⟨book', hbook', rfl⟩ := Option.map_eq_some_iff.mp h
    rcases a.outcome_cases hbook' with ⟨-, rfl⟩ | ⟨-, orderId, row, details, items, -, hplaced, -⟩
    · exact .inl (sameOrders_next now)
    · exact .inr ⟨orderId, row, details, items, now, hplaced, rfl⟩
  | publish orderId row items now =>
    rw [step] at h
    split at h
    · next hnew =>
      cases h
      exact .inr ⟨orderId, row, [], items, now,
        ⟨hnew.1, List.forall_mem_nil _, hnew.2, rfl, rfl⟩, rfl⟩
    · cases h
  | setOrder k orderStatus rejectReason =>
    obtain ⟨row, hrow, rfl⟩ := Option.map_eq_some_iff.mp h
    refine .inl ⟨rfl, rfl, fun k' hk' => ?_, fun k' row' hk' => ?_⟩
    · have hne : k' ≠ k := by
        rintro rfl
        rw [hrow] at hk'
        cases hk'
      exact (Function.update_of_ne hne ..).trans hk'
    · rcases eq_or_ne k' k with rfl | hne
      · rw [hrow] at hk'
        cases hk'
        exact ⟨⟨orderStatus, Function.update_self ..⟩, amounts_update ..⟩
      · exact ⟨⟨row'.orderStatus, (Function.update_of_ne hne ..).trans hk'⟩, amounts_update ..⟩
  | setStore | setMenu | setCustomer =>
    cases h
    exact .inl (.of_orders rfl rfl rfl fun _ _ _ => rfl)

omit [DecidableEq κ] in
theorem SameOrders.referential (h : SameOrders s s') (hs : s.book.Referential key) :
    s'.book.Referential key := by
  have hthere (k : κ) (hk : s.book.tables.orders k ≠ none) : s'.book.tables.orders k ≠ none := by
    obtain ⟨row, hrow⟩ := Option.ne_none_iff_exists'.mp hk
    obtain ⟨⟨status, hstatus⟩, -⟩ := h.stored k row hrow
    rw [hstatus]
    exact Option.some_ne_none _
  constructor
  · rw [h.items]
    exact fun item hitem => hthere _ (hs.items item hitem)
  · rw [h.details]
    exact fun detail hdetail => hthere _ (hs.details detail hdetail)

theorem referential_step (hs : s.book.Referential key) (h : step key dump s a = some s') :
    s'.book.Referential key := by
  rcases step_cases h with hsame | ⟨_, _, _, _, _, hplaced, -⟩
  · exact hsame.referential hs
  · exact hplaced.referential hs

/-- The order is as it was stored, but for its status. -/
structure Snapshot (key : String → κ) (k : κ) (row : OrderRow) (items : List ItemRow)
    (s : Shop κ) : Prop where
  order : ∃ status, s.book.tables.orders k = some { row with orderStatus := status }
  items : (s.book.items.filter fun item => key item.orderId = k) = items
  deliveryFee : (s.columns k).deliveryFee = 0
  wowDiscount : (s.columns k).wowDiscount = 0

variable {k : κ} {row : OrderRow} {items : List ItemRow}

theorem Snapshot.step (h : Snapshot key k row items s) (hs : Shop.step key dump s a = some s') :
    Snapshot key k row items s' := by
  obtain ⟨status, horder⟩ := h.order
  rcases step_cases hs with hsame | ⟨orderId, row', details, items', now, hplaced, hnext⟩
  · obtain ⟨⟨status', horder'⟩, hfee, hwow⟩ := hsame.stored k _ horder
    refine ⟨⟨status', horder'⟩, ?_, hfee.trans h.deliveryFee, hwow.trans h.wowDiscount⟩
    rw [hsame.items]
    exact h.items
  · have hk : k ≠ key orderId := by
      rintro rfl
      rw [hplaced.missing] at horder
      cases horder
    have hcolumns : s'.columns k = s.columns k := by
      rw [hnext]
      exact if_neg (by simp [horder])
    refine ⟨⟨status, ?_⟩, ?_, ?_, ?_⟩
    · rw [hplaced.orders, Function.update_of_ne hk, horder]
    · rw [hplaced.items_of_ne hk, h.items]
    · rw [hcolumns, h.deliveryFee]
    · rw [hcolumns, h.wowDiscount]

/-- An order is stored so. -/
theorem snapshot_of_placed {orderId now : String} {details : List DetailRow} {book' : OrderBook κ}
    (hplaced : Placed key orderId row details items s.book book')
    (hs : s.book.Referential key) : Snapshot key (key orderId) row items (s.next now book') := by
  have hcolumns : (s.next now book').columns (key orderId) = ⟨now, 0, 0, none⟩ :=
    if_pos hplaced.missing
  refine ⟨⟨row.orderStatus, ?_⟩, hplaced.items_self hs, ?_, ?_⟩
  · show book'.tables.orders (key orderId) = _
    rw [hplaced.orders, Function.update_self]
  · rw [hcolumns]
  · rw [hcolumns]

/-! ### What the receipt shows -/

/-- The lines whose menu is there. -/
def listed (menuName : ℤ → Option String) (lines : List ItemLine) : List ItemLine :=
  lines.filter fun line => (menuName line.1).isSome

/-- The receipt adds up the lines whose menu is there. -/
theorem totalMenuPrice_eq {menuName : ℤ → Option String} (parse : String → Option J)
    (emptyArray : J) (rows : List ItemRow) :
    OrderHandler.calculatedTotalMenuPrice (rows.filterMap fun row =>
      (menuName row.menuId).map fun name =>
        ⟨row.menuId, name, row.quantity, row.unitPrice,
          OrderHandler.parsedOptions parse emptyArray row.selectedOptions⟩) =
      Int.bmod (priceOf ((listed menuName (rows.map ItemRow.line)).map ItemLine.priced))
        (2 ^ 32) := by
  rw [OrderHandler.calculatedTotalMenuPrice, Wrapping.sum_eq]
  refine congrArg (fun xs : List ℤ => Int.bmod xs.sum (2 ^ 32)) ?_
  induction rows with
  | nil => rfl
  | cons row rows ih =>
    cases hname : menuName row.menuId with
    | none => simpa [listed, ItemRow.line, hname] using ih
    | some name => simpa [listed, ItemRow.line, hname, ItemLine.priced] using ih

/-- The lines of a request are those that the receipt lists and those that it does not. -/
theorem priceOf_order {a : CreateRequest J} {total : ℤ} {lines : List PricedLine}
    (menuName : ℤ → Option String) (h : a.order? = some (total, lines)) :
    priceOf lines = priceOf ((listed menuName a.itemLines).map ItemLine.priced) +
      priceOf (a.unlisted menuName) := by
  cases a with
  | handleCreateOrder body es =>
    cases body with
    | error what => cases h
    | ok req =>
      cases h
      exact (zero_add _).symm
  | createOrder ms req es =>
    cases h
    show priceOf (req.items.map OrderLine.priced) =
      priceOf ((listed menuName (req.items.map OrderLine.line)).map ItemLine.priced) +
        priceOf ((req.items.filter fun item => (menuName item.menuId).isNone).map OrderLine.priced)
    induction req.items with
    | nil => rfl
    | cons item items ih =>
      cases hname : menuName item.menuId with
      | none =>
        simp [listed, OrderLine.line, hname, priceOf] at ih ⊢
        omega
      | some name =>
        simp [listed, OrderLine.line, hname, priceOf, ItemLine.priced, OrderLine.priced] at ih ⊢
        omega
  | settle i publish => cases h

/-- What a creation stores. -/
theorem snapshot_of_create {a : CreateRequest J} {now orderId : String}
    (hs : s.book.Referential key) (hcreate : step key dump s (.create a now) = some s')
    (hnew : s.book.tables.orders (key orderId) = none)
    (hcreated : s'.book.tables.orders (key orderId) ≠ none) :
    ∃ row items lines, Snapshot key (key orderId) row items s' ∧
      a.order? = some (row.totalPrice, lines) ∧ items.map ItemRow.line = a.itemLines := by
  obtain ⟨book', hbook', rfl⟩ := Option.map_eq_some_iff.mp hcreate
  rcases a.outcome_cases hbook' with
    ⟨-, rfl⟩ | ⟨-, orderId', row, details, items, lines, hplaced, horder, hlines⟩
  · exact absurd hnew hcreated
  · have hk : key orderId = key orderId' := by
      by_contra hne
      refine hcreated ?_
      show book'.tables.orders (key orderId) = none
      rw [hplaced.orders, Function.update_of_ne hne, hnew]
    rw [hk]
    exact ⟨row, items, lines, snapshot_of_placed hplaced hs, horder, hlines⟩

variable {s₀ s₁ s₂ : Shop κ} {a : CreateRequest J} {now orderId : String}
  {later : List (ShopStep κ J)} {db : ReaderTables key} {parse : String → Option J}
  {emptyArray : J} {res : ResOrderDetailDTO J}

/-- The amounts of the receipt of a stored order. -/
theorem Snapshot.amounts {row : OrderRow} {items : List ItemRow}
    (h : Snapshot key (key orderId) row items s) (hdb : s.ReadBy db)
    (hres : OrderHandler.handleOrderDetail db parse emptyArray (.ok orderId) = some res) :
    res.totalPrice = row.totalPrice ∧ res.deliveryFee = 0 ∧ res.couponDiscount = 0 ∧
      res.wowDiscount = 0 ∧ res.totalMenuPrice = Int.bmod
        (priceOf ((listed s.menuName (items.map ItemRow.line)).map ItemLine.priced)) (2 ^ 32) := by
  obtain ⟨status, horder⟩ := h.order
  have hitems : db.itemsOf orderId = items := by
    rw [ReaderTables.itemsOf, hdb.book, h.items]
  simp only [OrderHandler.handleOrderDetail, hdb.book, horder, hitems, hdb.columns, hdb.menuName,
    totalMenuPrice_eq] at hres
  split at hres
  · cases hres
  · split at hres
    · cases hres
      exact ⟨rfl, h.deliveryFee, rfl, h.wowDiscount, rfl⟩
    · cases hres

/-- **The receipt adds up** after a creation whose price has passed the check, and whatever happens
later, exactly if the delivery and the lines that it does not list are free. -/
theorem addsUp_iff {init : Shop κ} {before : List (ShopStep κ J)}
    (hinit : init.book.items = [] ∧ init.book.tables.details = [])
    (hbefore : Transition.run (step key dump) init before = some s₀)
    (hcreate : step key dump s₀ (.create a now) = some s₁)
    (hnew : s₀.book.tables.orders (key orderId) = none)
    (hcreated : s₁.book.tables.orders (key orderId) ≠ none)
    (hpasses : a.PassesCheck key s₀.book.tables)
    (hlater : Transition.run (step key dump) s₁ later = some s₂) (hdb : s₂.ReadBy db)
    (hres : OrderHandler.handleOrderDetail db parse emptyArray (.ok orderId) = some res) :
    res.AddsUp ↔ a.Unburdened key s₀.book.tables s₂.menuName := by
  have hempty : init.book.Referential key := by
    constructor
    · rw [hinit.1]
      exact List.forall_mem_nil _
    · rw [hinit.2]
      exact List.forall_mem_nil _
  have hs₀ : s₀.book.Referential key :=
    Transition.invariant_run (fun _ _ _ hs h => referential_step hs h) hempty hbefore
  obtain ⟨row, items, lines, hstored, horder, hlines⟩ :=
    snapshot_of_create hs₀ hcreate hnew hcreated
  have hkept : Snapshot key (key orderId) row items s₂ :=
    Transition.invariant_run (fun _ _ _ h hs => h.step hs) hstored hlater
  obtain ⟨htotal, hfee, hcoupon, hwow, hmenus⟩ := hkept.amounts hdb hres
  have hchecked : row.totalPrice =
      Int.bmod (priceOf ((listed s₂.menuName a.itemLines).map ItemLine.priced) +
        (a.deliveryFee key s₀.book.tables + priceOf (a.unlisted s₂.menuName))) (2 ^ 32) := by
    have hpassed := hpasses _ horder
    rw [Wrapping.sum_eq, Int.bmod_add_bmod] at hpassed
    refine hpassed.symm.trans (congrArg (Int.bmod · (2 ^ 32)) ?_)
    have hsplit := priceOf_order s₂.menuName horder
    rw [priceOf] at hsplit
    show (lines.map fun line => line.1 * line.2).sum + _ = _
    omega
  rw [ResOrderDetailDTO.AddsUp, htotal, hfee, hcoupon, hwow, hmenus, hlines, hchecked, add_zero,
    sub_zero, sub_zero]
  exact Wrapping.bmod_add_eq_iff _ _

/-! ### The receipt of one 짜장면 -/

/-- The store delivers for 3000. -/
def lunchShop : Shop String :=
  ⟨⟨lunchTables, []⟩, fun _ => ⟨"", 0, 0, none⟩, fun _ => "황궁", fun _ => some "짜장면",
    fun _ => some none⟩

/-- It costs 7000. -/
abbrev createLunch : CreateRequest String := .handleCreateOrder (.ok lunch) lunchAnswers

theorem createLunch_step : ∃ s₁, step id .ok lunchShop
    (.create createLunch "2026-01-01 00:00:00") = some s₁ ∧ s₁.ReadBy lunchReaders := by
  obtain ⟨r, w, hr, -, htables⟩ := lunch_created
  have hbook : createLunch.outcome id .ok lunchShop.book = some lunchReaders.book := by
    show ((OrderHandler.handleCreateOrder (.ok lunch)).run (exec id ()) lunchAnswers
      (.init lunchTables)).map (fun rw => OrderBook.mk rw.2.db.tables []) = _
    rw [hr, Option.map_some, htables]
    rfl
  exact ⟨_, congrArg (Option.map _) hbook, rfl, rfl, rfl⟩

theorem createLunch_passesCheck : createLunch.PassesCheck id lunchTables := by
  rintro o ⟨⟩
  decide

theorem lunchReaders_orders : lunchReaders.book.tables.orders (id lunchId) = some lunch.row :=
  (Function.update_self .. :
    Function.update lunchTables.orders lunchId (some lunch.row) lunchId = _)

theorem addsUp_iff_lunch : ∃ res : ResOrderDetailDTO String,
    OrderHandler.handleOrderDetail lunchReaders some "[]" (.ok lunchId) = some res ∧
      (res.AddsUp ↔ createLunch.Unburdened id lunchTables lunchShop.menuName) := by
  obtain ⟨s₁, hstep, hread⟩ := createLunch_step
  have hthere : s₁.book.tables.orders (id lunchId) ≠ none := by
    rw [← hread.book, lunchReaders_orders]
    exact Option.some_ne_none _
  refine ⟨_, rfl, ?_⟩
  rw [show lunchShop.menuName = s₁.menuName from hread.menuName]
  exact addsUp_iff ⟨rfl, rfl⟩ (Transition.run_nil _) hstep rfl hthere createLunch_passesCheck
    (Transition.run_nil _) hread rfl

/-- Its receipt shows 10000, and nothing that it is for. -/
theorem not_addsUp_lunch : ∃ s₁ res,
    step id .ok lunchShop (.create createLunch "2026-01-01 00:00:00") = some s₁ ∧
      createLunch.PassesCheck id lunchTables ∧ s₁.ReadBy lunchReaders ∧
      OrderHandler.handleOrderDetail lunchReaders some "[]" (.ok lunchId) = some res ∧
      ¬res.AddsUp := by
  obtain ⟨s₁, hstep, hread⟩ := createLunch_step
  refine ⟨s₁, _, hstep, createLunch_passesCheck, hread, rfl, fun hadds => ?_⟩
  have hamounts : (10000 : ℤ) = 0 + 0 - 0 - 0 := hadds
  exact absurd hamounts (by decide)

end Shop

end ItsBedalyo
