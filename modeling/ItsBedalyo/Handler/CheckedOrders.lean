import ItsBedalyo.Handler.CleanConnections
import ItsBedalyo.Handler.ReadBack
import ItsBedalyo.Lib.Keys
import Mathlib.Algebra.BigOperators.Group.List.Basic

/-!
# Which orders are stored

Two functions store orders. `OrderDAO::createOrder` refuses a quantity outside `1..99` and does
not look at the price. `handleCreateOrder` compares the price with the items and the delivery
fee, in `int`, only to print a warning, and does not look at the quantities. `Checked` is what
both checks together ask of an order, over the integers.

`Creations` runs any sequence of requests to the two. Each request gets a connection in
autocommit mode, as `CleanConnections` shows they are left. The exception is `createOrder` when
`dump()` throws: its open transaction is set aside in `left`, and whoever uses the connection
next publishes it or drops it (`settle`).
-/

namespace ItsBedalyo

open RowLocking Interface

/-! ### The checks -/

/-- `(unitPrice, quantity)`. -/
abbrev PricedLine := ℤ × ℤ

def OrderItemDTO.priced (item : OrderItemDTO) : PricedLine := (item.unitPrice, item.quantity)

def OrderLine.priced {J : Type} (item : OrderLine J) : PricedLine := (item.unitPrice, item.quantity)

def DetailRow.priced (row : DetailRow) : PricedLine := (row.price, row.quantity)

def ItemRow.priced (row : ItemRow) : PricedLine := (row.unitPrice, row.quantity)

def OrderLine.line {J : Type} (item : OrderLine J) : ItemLine :=
  (item.menuId, item.quantity, item.unitPrice)

def ItemRow.line (row : ItemRow) : ItemLine := (row.menuId, row.quantity, row.unitPrice)

/-- The price and the quantity of a line. -/
def ItemLine.priced (line : ItemLine) : PricedLine := (line.2.2, line.2.1)

/-- The price of all lines. -/
def priceOf (lines : List PricedLine) : ℤ := (lines.map fun line => line.1 * line.2).sum

/-- The guard of `createOrder`. -/
def InRange (lines : List PricedLine) : Prop := ∀ line ∈ lines, 1 ≤ line.2 ∧ line.2 ≤ 99

/-- What `handleCreateOrder` compares, over the integers. -/
def TotalMatches (fee totalPrice : ℤ) (lines : List PricedLine) : Prop :=
  totalPrice = priceOf lines + fee

/-- An order meets both checks. -/
structure Checked (fee totalPrice : ℤ) (lines : List PricedLine) : Prop where
  quantities : InRange lines
  total : TotalMatches fee totalPrice lines

theorem OrderDAO.any_badQuantity_eq_false_iff {J : Type} {items : List (OrderLine J)} :
    items.any OrderDAO.badQuantity = false ↔ InRange (items.map OrderLine.priced) := by
  simp only [List.any_eq_false, InRange, List.forall_mem_map, OrderDAO.badQuantity,
    OrderLine.priced, Bool.or_eq_true, decide_eq_true_eq]
  refine forall₂_congr fun item _ => ?_
  omega

namespace OrderHandler

/-- The sum as `int` arithmetic computes it, modulo `2 ^ 32`. -/
def itemSum (items : List OrderItemDTO) : ℤ :=
  items.foldl (fun sum item => Int.bmod (sum + Int.bmod (item.unitPrice * item.quantity) (2 ^ 32))
    (2 ^ 32)) 0

theorem itemSum_eq (items : List OrderItemDTO) :
    itemSum items = Int.bmod (priceOf (items.map OrderItemDTO.priced)) (2 ^ 32) := by
  have hsum := Wrapping.sum_eq (2 ^ 32) (items.map fun item => item.unitPrice * item.quantity)
  rw [Wrapping.sum, List.foldl_map] at hsum
  rw [priceOf, List.map_map]
  exact hsum

/-- `itemSum + deliveryFee != req.totalPrice`: the warning is printed. -/
def suspected (req : OrderCreateReqDTO) (deliveryFee : ℤ) : Bool :=
  Int.bmod (itemSum req.items + deliveryFee) (2 ^ 32) ≠ req.totalPrice

/-- A price that is right modulo `2 ^ 32` raises no warning. -/
theorem suspected_eq_false_iff {req : OrderCreateReqDTO} {deliveryFee : ℤ}
    (hint : Int.bmod req.totalPrice (2 ^ 32) = req.totalPrice) :
    suspected req deliveryFee = false ↔
      (2 ^ 32 : ℤ) ∣
        priceOf (req.items.map OrderItemDTO.priced) + deliveryFee - req.totalPrice := by
  rw [suspected, decide_eq_false_iff_not, not_not, itemSum_eq, Int.bmod_add_bmod]
  nth_rewrite 1 [← hint]
  rw [Int.bmod_eq_bmod_iff_bmod_sub_eq_zero]
  exact ⟨fun h => Int.dvd_of_bmod_eq_zero h, fun h => Int.bmod_eq_zero_of_dvd h⟩

end OrderHandler

/-! ### An order and its lines in the tables -/

section Placed

variable {κ : Type} [DecidableEq κ] {key : String → κ}

/-- What the two detail tables hold of an order. -/
def OrderBook.lines (key : String → κ) (book : OrderBook κ) (k : κ) : List PricedLine :=
  (book.tables.details.filter fun row => key row.orderId = k).map DetailRow.priced ++
    (book.items.filter fun row => key row.orderId = k).map ItemRow.priced

/-- Rows with the lines of a request have its prices and quantities. -/
theorem priced_of_lines {J : Type} {rows : List ItemRow} {items : List (OrderLine J)}
    (h : rows.map ItemRow.line = items.map OrderLine.line) :
    rows.map ItemRow.priced = items.map OrderLine.priced := by
  have hpriced := congrArg (List.map ItemLine.priced) h
  rwa [List.map_map, List.map_map] at hpriced

/-- The order has been added with its rows in the two detail tables. -/
structure Placed (key : String → κ) (orderId : String) (row : OrderRow)
    (details : List DetailRow) (items : List ItemRow) (book book' : OrderBook κ) : Prop where
  missing : book.tables.orders (key orderId) = none
  ofDetails : ∀ detail ∈ details, detail.orderId = orderId
  ofItems : ∀ item ∈ items, item.orderId = orderId
  tables : book'.tables =
    book.tables.writes (.order (key orderId) row :: details.map .detail)
  stored : book'.items = book.items ++ items

namespace Placed

variable {orderId : String} {row : OrderRow} {details : List DetailRow} {items : List ItemRow}
  {book book' : OrderBook κ}

theorem orders (h : Placed key orderId row details items book book') :
    book'.tables.orders = Function.update book.tables.orders (key orderId) (some row) := by
  rw [h.tables, Tables.writes_cons, (Tables.writes_details _ details).1,
    Tables.write_order_orders]

theorem tables_details (h : Placed key orderId row details items book book') :
    book'.tables.details = book.tables.details ++ details := by
  rw [h.tables, Tables.writes_cons, writes_details_details]
  rfl

/-- No order disappears. -/
theorem orders_ne_none (h : Placed key orderId row details items book book')
    {k : κ} (hk : book.tables.orders k ≠ none) :
    book'.tables.orders k ≠ none := by
  rw [h.orders]
  rcases eq_or_ne k (key orderId) with rfl | hne
  · rw [Function.update_self]
    exact Option.some_ne_none row
  · rwa [Function.update_of_ne hne]

theorem orders_self (h : Placed key orderId row details items book book') :
    book'.tables.orders (key orderId) ≠ none := by
  rw [h.orders, Function.update_self]
  exact Option.some_ne_none row

theorem referential (h : Placed key orderId row details items book book')
    (hbook : book.Referential key) : book'.Referential key := by
  constructor
  · intro item hitem
    rw [h.stored] at hitem
    rcases List.mem_append.mp hitem with hold | hnew
    · exact h.orders_ne_none (hbook.items item hold)
    · rw [h.ofItems item hnew]
      exact h.orders_self
  · intro detail hdetail
    rw [h.tables_details] at hdetail
    rcases List.mem_append.mp hdetail with hold | hnew
    · exact h.orders_ne_none (hbook.details detail hold)
    · rw [h.ofDetails detail hnew]
      exact h.orders_self

/-- The rows of the other orders are what they were, -/
theorem items_of_ne (h : Placed key orderId row details items book book') {k : κ}
    (hk : k ≠ key orderId) :
    (book'.items.filter fun item => key item.orderId = k) =
      book.items.filter fun item => key item.orderId = k := by
  rw [h.stored]
  refine List.filter_append_eq_left fun item hitem heq => hk ?_
  rw [← of_decide_eq_true heq, h.ofItems item hitem]

theorem details_of_ne (h : Placed key orderId row details items book book') {k : κ}
    (hk : k ≠ key orderId) :
    (book'.tables.details.filter fun detail => key detail.orderId = k) =
      book.tables.details.filter fun detail => key detail.orderId = k := by
  rw [h.tables_details]
  refine List.filter_append_eq_left fun detail hdetail heq => hk ?_
  rw [← of_decide_eq_true heq, h.ofDetails detail hdetail]

/-- and those of the order are the ones that were added. -/
theorem items_self (h : Placed key orderId row details items book book')
    (hbook : book.Referential key) :
    (book'.items.filter fun item => key item.orderId = key orderId) = items := by
  rw [h.stored]
  refine List.filter_append_eq_right (fun item hitem heq => hbook.items item hitem ?_)
    fun item hitem => decide_eq_true (congrArg key (h.ofItems item hitem))
  rw [of_decide_eq_true heq]
  exact h.missing

theorem details_self (h : Placed key orderId row details items book book')
    (hbook : book.Referential key) :
    (book'.tables.details.filter fun detail => key detail.orderId = key orderId) = details := by
  rw [h.tables_details]
  refine List.filter_append_eq_right (fun detail hdetail heq => hbook.details detail hdetail ?_)
    fun detail hdetail => decide_eq_true (congrArg key (h.ofDetails detail hdetail))
  rw [of_decide_eq_true heq]
  exact h.missing

/-- The lines of the other orders are what they were. -/
theorem lines_of_ne (h : Placed key orderId row details items book book')
    {k : κ} (hk : k ≠ key orderId) : book'.lines key k = book.lines key k := by
  rw [OrderBook.lines, h.details_of_ne hk, h.items_of_ne hk]
  rfl

/-- The lines of the order are those of the request. -/
theorem lines_self (h : Placed key orderId row details items book book')
    (hbook : book.Referential key) :
    book'.lines key (key orderId) =
      details.map DetailRow.priced ++ items.map ItemRow.priced := by
  rw [OrderBook.lines, h.details_self hbook, h.items_self hbook]

end Placed

end Placed

/-! ### What the two functions do -/

section Calls

open OrderDAO OrderStatement

variable {κ : Type} [DecidableEq κ] {key : String → κ} {J Reply : Type}
  {dump : J → Except String String}

/-- Selects a commit that returns. -/
def noteCommit {Stmt Query Reply : Type} : DaoOp Stmt Query Reply → Bool → Bool
  | .commit, true => true
  | _, _ => false

/-- `createOrder` alone, with the flag for its commit. -/
abbrev placeAlone (key : String → κ) (Reply : Type) :
    Interface (@DaoOp.Res OrderStatement Empty Reply fun query => nomatch query) Exn
      (DaoState (OrderBook κ) Reply × Bool) :=
  ((orderSchema key).aloneSpec.watch noteCommit).interface

/-- The row of `ORDERS` for a draft. -/
def OrderDraft.row (req : OrderDraft J) : OrderRow :=
  ⟨req.userId, req.storeId, req.totalPrice, 0, req.deliveryAddress, "", ""⟩

/-- How a call of `createOrder` can end, and whether it has committed. -/
inductive PlaceOutcome (key : String → κ) (dump : J → Except String String) (req : OrderDraft J)
    (book : OrderBook κ) : DaoState (OrderBook κ) Reply → Bool → Prop
  | refused : PlaceOutcome key dump req book ⟨⟨book, book, true⟩, 0, []⟩ false
  | placed {orderId : String} {items : List ItemRow} {book' : OrderBook κ} :
      InRange (req.items.map OrderLine.priced) →
      Placed key orderId req.row [] items book book' →
      items.map ItemRow.line = req.items.map OrderLine.line →
      PlaceOutcome key dump req book ⟨⟨book', book', true⟩, 0, []⟩ true
  | thrown {working : OrderBook κ} : Undumpable dump req →
      PlaceOutcome key dump req book ⟨⟨book, working, false⟩, 0, []⟩ false

/-- The loop over the items adds a row for each of them to the transaction. -/
theorem insertItems_placeAlone {orderId : String} {items : List (OrderLine J)}
    {book working : OrderBook κ} {b : Bool}
    {Q : Except Exn Unit → DaoState (OrderBook κ) Reply × Bool → Prop}
    (hok : ∀ rows : List ItemRow, (∀ row ∈ rows, row.orderId = orderId) →
      rows.map ItemRow.line = items.map OrderLine.line →
      Q (.ok ()) (⟨⟨book, { working with items := working.items ++ rows }, false⟩, 0, []⟩, b))
    (hsql : ∀ what working, Q (.error (.sql what)) (⟨⟨book, working, false⟩, 0, []⟩, b))
    (hstd : ∀ what working, (∃ item ∈ items, ∃ what, dump item.selectedOptions = .error what) →
      Q (.error (.std what)) (⟨⟨book, working, false⟩, 0, []⟩, b)) :
    (placeAlone key Reply).wp (insertItems dump orderId items) Q
      (⟨⟨book, working, false⟩, 0, []⟩, b) := by
  induction items generalizing working Q with
  | nil =>
    have hrows := hok [] (fun _ hrow => (nomatch hrow)) rfl
    rwa [List.append_nil] at hrows
  | cons item items ih =>
    simp only [insertItems, dumped, wp_bind]
    split
    · next text _ =>
      simp only [wp_pure, DaoSpec.wp_executeUpdate]
      refine ⟨trivial, ?_, ?_⟩
      · rintro n g ⟨c, ⟨id, ws, heffect, rfl⟩, rfl⟩
        cases heffect
        simp only [noteCommit, Bool.or_false]
        refine ih (fun rows hrows hlines => ?_) (fun what working => hsql what working)
          fun what working hdump => ?_
        · have hall := hok
            (⟨orderId, item.menuId, item.quantity, item.unitPrice, text⟩ :: rows)
            (List.forall_mem_cons.mpr ⟨rfl, hrows⟩) (congrArg (item.line :: ·) hlines)
          rwa [List.append_cons] at hall
        · obtain ⟨item', hitem', hwhat⟩ := hdump
          exact hstd what working ⟨item', .tail _ hitem', hwhat⟩
      · rintro what g ⟨c, rfl | rfl, rfl⟩
        · simp only [noteCommit, Bool.or_false]
          exact hsql _ _
        · simp only [noteCommit, Bool.or_false]
          exact hsql _ _
    · next what hwhat => exact hstd what working ⟨item, .head _, what, hwhat⟩

/-- The inserts of a transaction place the order. -/
theorem placed_of_effect {orderId : String} {req : OrderDraft J} {id : ℤ} {n : ℕ}
    {ws : List (OrderWrite κ)} {items : List ItemRow} {book : OrderBook κ}
    (heffect : ((orderSchema key).statement (insertOrder orderId req.userId req.storeId
      req.totalPrice req.deliveryAddress) id).effect book = some (n, ws))
    (hitems : ∀ row ∈ items, row.orderId = orderId) :
    Placed key orderId req.row [] items book
      { (orderSchema key).storage.writes book ws with
        items := ((orderSchema key).storage.writes book ws).items ++ items } := by
  change (insertOrder orderId req.userId req.storeId req.totalPrice req.deliveryAddress).effect
    key book = some (n, ws) at heffect
  simp only [effect] at heffect
  split at heffect
  · cases heffect
  · next hmissing =>
    cases heffect
    exact ⟨hmissing, List.forall_mem_nil _, hitems, rfl, rfl⟩

/-- **How `createOrder` ends by itself.** -/
theorem createOrder_alone (ms : ℕ) (req : OrderDraft J) {book : OrderBook κ} :
    (placeAlone key Reply).wp (createOrder dump ms req)
      (fun _ g => PlaceOutcome key dump req book g.1 g.2) (.fresh book, false) := by
  by_cases hqty : req.items.any badQuantity = false
  · simp [createOrder, hqty, DaoSpec.watch, DaoSchema.aloneSpec, DaoState.fresh, noteCommit,
      Session.fresh, Session.setAutoCommit, Session.execute, Session.commit, Session.rollback,
      DaoSchema.executed]
    refine ⟨?_, .refused⟩
    rintro n c id ws heffect rfl
    refine ⟨insertItems_placeAlone ?_ (fun what working => .refused)
      fun what working hdump => .thrown ⟨hqty, hdump⟩, .refused⟩
    intro items hitems hlines
    have hplaced := placed_of_effect heffect hitems
    exact ⟨.placed (any_badQuantity_eq_false_iff.mp hqty) hplaced hlines, .refused⟩
  · simp only [createOrder, hqty]
    exact .refused

/-- `handleCreateOrder` places the order. -/
theorem Created.placed {req : OrderCreateReqDTO} {orderId : String} {details : List DetailRow}
    {tables tables' : Tables κ} {items : List ItemRow}
    (h : Created key req orderId details tables tables') :
    Placed key orderId req.row details [] ⟨tables, items⟩ ⟨tables', items⟩ where
  missing := h.missing
  ofDetails := orderId_of_stored h.stored
  ofItems _ hitem := nomatch hitem
  tables := h.tables
  stored := (List.append_nil items).symm

/-- The rows written for the items have their prices and quantities. -/
theorem priced_of_stored {orderId : String} {items : List OrderItemDTO}
    {details : List DetailRow} (h : List.Forall₂ (OrderItemDTO.StoredAs orderId) items details) :
    details.map DetailRow.priced = items.map OrderItemDTO.priced := by
  have hlines := congrArg (List.map fun line : ItemLine => (line.2.2, line.2.1))
    (lines_of_stored h)
  rwa [List.map_map, List.map_map] at hlines

end Calls

/-! ### Sequences of requests -/

/-- A request to one of the two functions with what its calls are answered, or the fate of the
`i`-th transaction that a `createOrder` has left open. -/
inductive CreateRequest (J : Type)
  | handleCreateOrder (body : Except String OrderCreateReqDTO) (es : List Env)
  | createOrder (ms : ℕ) (req : OrderDraft J) (es : List DaoEnv)
  | settle (i : ℕ) (publish : Bool)

/-- The tables, the delivery fee with which each order had to be checked, and the transactions
that were left open, each with its fee. -/
structure Creations (κ : Type) where
  book : OrderBook κ
  fee : κ → ℤ
  left : List (ℤ × List (OrderWrite κ))

namespace CreateRequest

variable {κ J : Type} [DecidableEq κ]

/-- The price and the lines that are asked for. -/
def order? : CreateRequest J → Option (ℤ × List PricedLine)
  | handleCreateOrder (.ok req) _ => some (req.totalPrice, req.items.map OrderItemDTO.priced)
  | createOrder _ req _ => some (req.totalPrice, req.items.map OrderLine.priced)
  | _ => none

/-- The delivery fee of the tamper check: what `getDeliveryFee` answers. -/
def deliveryFee (key : String → κ) (tables : Tables κ) : CreateRequest J → ℤ
  | handleCreateOrder (.ok req) (e :: _) =>
    match (Query.getDeliveryFee req.storeId).answer key tables e with
    | some (.ok fee) => fee
    | _ => 0
  | createOrder _ req _ => ((tables.stores req.storeId).map StoreRow.deliveryFee).getD 0
  | _ => 0

/-- The request meets both checks. -/
def Passes (key : String → κ) (tables : Tables κ) (a : CreateRequest J) : Prop :=
  ∀ o ∈ a.order?, Checked (a.deliveryFee key tables) o.1 o.2

/-- The request meets the checks that the function it goes to does not enforce. -/
def PassesUnenforced (key : String → κ) (tables : Tables κ) (a : CreateRequest J) : Prop :=
  match a with
  | createOrder _ _ _ => ∀ o ∈ a.order?, TotalMatches (a.deliveryFee key tables) o.1 o.2
  | _ => a.Passes key tables

/-- The request's commit succeeds. -/
def commits (key : String → κ) (dump : J → Except String String) (book : OrderBook κ) :
    CreateRequest J → Bool
  | handleCreateOrder body es => (OrderHandler.handleCreateOrder body).saw (exec key ())
      (noted (noteLate true false)) es (.init book.tables)
  | createOrder ms req es =>
    (OrderDAO.createOrder dump ms req : OrderDao Empty OrderResult).saw ((orderSchema key).exec ())
      (DaoOp.noted noteCommit) es (.init book)
  | settle _ _ => false

/-- No `createOrder` ends with an exception of `dump()`. -/
def Dumpable (dump : J → Except String String) : CreateRequest J → Prop
  | createOrder _ req _ => ¬Undumpable dump req
  | _ => True

end CreateRequest

namespace Creations

variable {κ J : Type} [DecidableEq κ] (key : String → κ) (dump : J → Except String String)

/-- Orders that did not exist were to be checked with the fee given. -/
def next (s : Creations κ) (fee : ℤ) (book : OrderBook κ)
    (left : List (ℤ × List (OrderWrite κ))) : Creations κ :=
  ⟨book, fun k => if (s.book.tables.orders k).isSome then s.fee k else fee, left⟩

/-- A request runs by itself, to its end. -/
def step (s : Creations κ) (a : CreateRequest J) : Option (Creations κ) :=
  match a with
  | .handleCreateOrder body es =>
    ((OrderHandler.handleCreateOrder body).run (exec key ()) es (.init s.book.tables)).map
      fun rw => s.next (a.deliveryFee key s.book.tables)
        { s.book with tables := rw.2.db.tables } s.left
  | .createOrder ms req es =>
    ((OrderDAO.createOrder dump ms req : OrderDao Empty OrderResult).run
        ((orderSchema key).exec ()) es (.init s.book)).map
      fun rw => s.next (a.deliveryFee key s.book.tables) rw.2.server.tables
        (if (rw.2.server.conns ()).autoCommit then s.left
          else (a.deliveryFee key s.book.tables, (rw.2.server.conns ()).pending) :: s.left)
  | .settle i publish =>
    s.left[i]?.map fun feews => s.next feews.1
      (if publish then (OrderBook.storage : Storage _ _ κ).writes s.book feews.2 else s.book)
      (s.left.eraseIdx i)

/-- Every stored order meets both checks. -/
def AllChecked (s : Creations κ) : Prop :=
  ∀ k row, s.book.tables.orders k = some row →
    Checked (s.fee k) row.totalPrice (s.book.lines key k)

/-- A request that fails a check persists nothing. -/
def Refuses (s : Creations κ) (a : CreateRequest J) : Prop :=
  ¬a.Passes key s.book.tables → ∀ s', step key dump s a = some s' → s'.book = s.book

/-- A request that commits meets the checks that are not enforced. -/
def Honest (s : Creations κ) (a : CreateRequest J) : Prop :=
  a.commits key dump s.book = true → a.PassesUnenforced key s.book.tables

/-- The tables are sound and no transaction has been left open. -/
structure Clean (s : Creations κ) : Prop where
  referential : s.book.Referential key
  settled : s.left = []

variable {key dump}

/-- What a request can do: it leaves the tables alone, or it commits and places its order. -/
inductive Effect (key : String → κ) (dump : J → Except String String) (s : Creations κ)
    (a : CreateRequest J) (book' : OrderBook κ) : Prop
  | refused : a.commits key dump s.book = false → book' = s.book → Effect key dump s a book'
  | stored {orderId : String} {row : OrderRow} {details : List DetailRow} {items : List ItemRow} :
      a.commits key dump s.book = true → Placed key orderId row details items s.book book' →
      (a.Passes key s.book.tables ↔ Checked (a.deliveryFee key s.book.tables) row.totalPrice
        (details.map DetailRow.priced ++ items.map ItemRow.priced)) →
      (a.PassesUnenforced key s.book.tables ↔ a.Passes key s.book.tables) →
      Effect key dump s a book'

theorem effect_handleCreateOrder {s : Creations κ} {body : Except String OrderCreateReqDTO}
    {es : List Env} {r : Except String Unit} {w : World Unit κ}
    (hr : (OrderHandler.handleCreateOrder body).run (exec key ()) es (.init s.book.tables) =
      some (r, w)) :
    Effect key dump s (.handleCreateOrder body es) { s.book with tables := w.db.tables } := by
  obtain ⟨c, hsees, houtcome⟩ := OrderState.run_alone_watch (noteLate true false)
    (handleCreateOrder_alone body) hr
  generalize hseen : (OrderHandler.handleCreateOrder body).saw _ _ _ _ = seen at houtcome
  have hstored {req : OrderCreateReqDTO} {orderId : String} {details : List DetailRow}
      {tables' : Tables κ} (hseen : (OrderHandler.handleCreateOrder (.ok req)).saw (exec key ())
        (noted (noteLate true false)) es (.init s.book.tables) = true)
      (htables : w.db.tables = tables')
      (hcreated : Created key req orderId details s.book.tables tables') :
      Effect key dump s (.handleCreateOrder (.ok req) es)
        { s.book with tables := w.db.tables } := by
    subst htables
    refine .stored hseen hcreated.placed ?_ Iff.rfl
    rw [List.map_nil, List.append_nil, priced_of_stored hcreated.stored]
    simp [CreateRequest.Passes, CreateRequest.order?, OrderCreateReqDTO.row]
  cases houtcome with
  | refused =>
    have htables : w.db.tables = s.book.tables := hsees.committed
    exact .refused hseen (by rw [htables])
  | created hbody hcreated =>
    subst hbody
    exact hstored hseen hsees.committed hcreated
  | contradicted hbody hcreated =>
    subst hbody
    exact hstored hseen hsees.committed hcreated

theorem effect_createOrder {s : Creations κ} {ms : ℕ} {req : OrderDraft J} {es : List DaoEnv}
    {r : Except Exn OrderResult}
    {w : DaoWorld Unit (OrderBook κ) (OrderWrite κ) κ Empty} (hdump : ¬Undumpable dump req)
    (hr : (OrderDAO.createOrder dump ms req : OrderDao Empty OrderResult).run
      ((orderSchema key).exec ()) es (.init s.book) = some (r, w)) :
    Effect key dump s (.createOrder ms req es) w.server.tables ∧
      (w.server.conns ()).autoCommit = true := by
  obtain ⟨c, hsees, houtcome⟩ := (orderSchema key).run_alone_watch noteCommit
    (createOrder_alone ms req) hr
  generalize hseen : (OrderDAO.createOrder dump ms req).saw _ _ _ _ = seen at houtcome
  cases houtcome with
  | refused => exact ⟨.refused hseen hsees.session.committed, hsees.session.mode⟩
  | @placed orderId items book' hqty hplaced hlines =>
    have htables : w.server.tables = book' := hsees.session.committed
    subst htables
    refine ⟨.stored hseen hplaced ?_ ?_, hsees.session.mode⟩
    · rw [List.map_nil, List.nil_append, priced_of_lines hlines]
      simp [CreateRequest.Passes, CreateRequest.order?, OrderDraft.row]
    · -- the guard has checked the quantities
      refine ⟨fun h o ho => ⟨?_, h o ho⟩, fun h o ho => (h o ho).total⟩
      cases ho
      exact hqty
  | thrown hundumpable => exact absurd hundumpable hdump

/-- **What a step does**, when no transaction has been left open and `dump()` does not throw. -/
theorem effect_of_step {s s' : Creations κ} {a : CreateRequest J} (hclean : s.left = [])
    (hdump : a.Dumpable dump) (hs : step key dump s a = some s') :
    Effect key dump s a s'.book ∧
      s' = s.next (a.deliveryFee key s.book.tables) s'.book [] := by
  cases a with
  | handleCreateOrder body es =>
    obtain ⟨⟨r, w⟩, hr, rfl⟩ := Option.map_eq_some_iff.mp hs
    refine ⟨effect_handleCreateOrder hr, ?_⟩
    rw [hclean]
    rfl
  | createOrder ms req es =>
    obtain ⟨⟨r, w⟩, hr, rfl⟩ := Option.map_eq_some_iff.mp hs
    obtain ⟨heffect, hmode⟩ := effect_createOrder hdump hr
    refine ⟨heffect, ?_⟩
    simp only [hmode, hclean]
    rfl
  | settle i publish =>
    obtain ⟨feews, hi, rfl⟩ := Option.map_eq_some_iff.mp hs
    rw [hclean] at hi
    cases hi

theorem Clean.step {s s' : Creations κ} {a : CreateRequest J} (h : s.Clean key)
    (hdump : a.Dumpable dump) (hs : Creations.step key dump s a = some s') : s'.Clean key := by
  obtain ⟨heffect, hnext⟩ := effect_of_step h.settled hdump hs
  refine ⟨?_, by rw [hnext]; rfl⟩
  cases heffect with
  | refused _ hbook => exact hbook ▸ h.referential
  | stored _ hplaced => exact hplaced.referential h.referential

/-- The orders stay checked exactly if the request is honest. -/
theorem allChecked_step_iff {s s' : Creations κ} {a : CreateRequest J} (h : s.Clean key)
    (hall : s.AllChecked key) (hdump : a.Dumpable dump)
    (hs : Creations.step key dump s a = some s') :
    s'.AllChecked key ↔ s.Honest key dump a := by
  obtain ⟨heffect, hnext⟩ := effect_of_step h.settled hdump hs
  have hfee (k : κ) : s'.fee k = if (s.book.tables.orders k).isSome then s.fee k
      else a.deliveryFee key s.book.tables := by rw [hnext]; rfl
  cases heffect with
  | refused hcommits hbook =>
    refine iff_of_true (fun k row hrow => ?_) fun h => absurd (hcommits.symm.trans h) nofun
    rw [hbook] at hrow ⊢
    rw [hfee, hrow]
    exact hall k row hrow
  | @stored orderId row details items hcommits hplaced hpasses hunenforced =>
    have hnew : s'.fee (key orderId) = a.deliveryFee key s.book.tables := by
      rw [hfee, hplaced.missing]
      rfl
    have hhonest : s.Honest key dump a ↔ Checked (s'.fee (key orderId)) row.totalPrice
        (s'.book.lines key (key orderId)) := by
      rw [hplaced.lines_self h.referential, hnew, ← hpasses, ← hunenforced]
      exact ⟨fun hhonest => hhonest hcommits, fun hpasses _ => hpasses⟩
    rw [hhonest]
    constructor
    · intro hall'
      exact hall' (key orderId) row (by rw [hplaced.orders, Function.update_self])
    · intro hchecked k row' hrow'
      rw [hplaced.orders] at hrow'
      rcases eq_or_ne k (key orderId) with rfl | hk
      · rw [Function.update_self] at hrow'
        cases hrow'
        exact hchecked
      · rw [Function.update_of_ne hk] at hrow'
        rw [hplaced.lines_of_ne hk, hfee, hrow']
        exact hall k row' hrow'

/-- An honest request that fails a check persists nothing. -/
theorem refuses_of_honest {s : Creations κ} {a : CreateRequest J} (h : s.Clean key)
    (hdump : a.Dumpable dump) (hhonest : s.Honest key dump a) : s.Refuses key dump a := by
  intro hfails s₁ hs₁
  obtain ⟨heffect, -⟩ := effect_of_step h.settled hdump hs₁
  cases heffect with
  | refused _ hbook => exact hbook
  | stored hcommits _ _ hunenforced =>
    exact absurd (hunenforced.mp (hhonest hcommits)) hfails

variable {s : Creations κ} {l : List (CreateRequest J)}

/-- **Only checked orders are stored, exactly when the requests are honest.** -/
theorem allChecked_iff_honest (hclean : s.Clean key)
    (hdump : Transition.Along (step key dump) (fun _ a => a.Dumpable dump) s l) :
    (Transition.Always (step key dump) (AllChecked key) s l ∧
        Transition.Along (step key dump) (Refuses key dump) s l) ↔
      AllChecked key s ∧ Transition.Along (step key dump) (Honest key dump) s l := by
  have hexact (hall : AllChecked key s) :
      Transition.Always (step key dump) (AllChecked key) s l ↔
        Transition.Along (step key dump) (Honest key dump) s l :=
    Transition.always_iff_along_of_along (I := AllChecked key) (J := Clean key)
      (P := Honest key dump) (fun _ _ _ h hdump hs => h.step hdump hs)
      (fun _ _ _ h hall hdump hs => allChecked_step_iff h hall hdump hs) hclean hall hdump
  constructor
  · rintro ⟨hall, -⟩
    exact ⟨hall.first, (hexact hall.first).mp hall⟩
  · rintro ⟨hall, hhonest⟩
    refine ⟨(hexact hall).mpr hhonest, ?_⟩
    have halways : Transition.Always (step key dump) (Clean key) s l :=
      Transition.always_of_along (fun _ _ _ h hdump hs => h.step hdump hs) hclean hdump
    have hrefuses (s : Creations κ) (a : CreateRequest J) (h : s.Clean key)
        (hP : a.Dumpable dump ∧ Honest key dump s a) : Refuses key dump s a :=
      refuses_of_honest h hP.1 hP.2
    exact halways.along_mono (fun s a _ h _ hP => hrefuses s a h hP) (hdump.and hhonest)

/-- No order has been stored, and the store delivers for 3000. -/
def beforeLunch : Creations String := ⟨⟨lunchTables, []⟩, fun _ => 0, []⟩

theorem beforeLunch_clean : beforeLunch.Clean id := ⟨lunch_referential, rfl⟩

/-- It gets one request, and the database does everything that is asked of it. -/
def requested (req : OrderCreateReqDTO) : List (CreateRequest String) :=
  [.handleCreateOrder (.ok req) lunchAnswers]

theorem allChecked_iff_honest_lunch :
    (Transition.Always (step id .ok) (AllChecked id) beforeLunch (requested lunch) ∧
        Transition.Along (step id .ok) (Refuses id .ok) beforeLunch (requested lunch)) ↔
      AllChecked id beforeLunch ∧
        Transition.Along (step id .ok) (Honest id .ok) beforeLunch (requested lunch) :=
  allChecked_iff_honest beforeLunch_clean fun _ _ => ⟨trivial, trivial⟩

/-- One 짜장면 of 7000 and its delivery, for 1. -/
def cheapLunch : OrderCreateReqDTO := { lunch with totalPrice := 1 }

theorem cheapLunch_step : ∃ s', step id .ok beforeLunch
    (.handleCreateOrder (.ok cheapLunch) lunchAnswers : CreateRequest String) = some s' ∧
      s'.book = ⟨lunchTables.writes
        [.order lunchId cheapLunch.row, .detail ⟨lunchId, 5, "짜장면", 1, 7000, []⟩], []⟩ ∧
      s'.fee lunchId = 3000 :=
  ⟨_, rfl, rfl, rfl⟩

/-- It is stored. -/
theorem not_allChecked_cheapLunch :
    ¬∀ (s : Creations String) (l : List (CreateRequest String)), s.Clean id →
      Transition.Along (step id .ok) (fun _ a => a.Dumpable .ok) s l → AllChecked id s →
        Transition.Always (step id .ok) (AllChecked id) s l ∧
          Transition.Along (step id .ok) (Refuses id .ok) s l := by
  intro h
  obtain ⟨hall, -⟩ := h beforeLunch (requested cheapLunch) beforeLunch_clean
    (fun _ _ => ⟨trivial, trivial⟩) fun k row hrow => (nomatch hrow)
  obtain ⟨s', hs, hbook, hfee⟩ := cheapLunch_step
  have hstored : s'.book.tables.orders lunchId = some cheapLunch.row := by
    rw [hbook]
    show Function.update lunchTables.orders lunchId (some cheapLunch.row) lunchId = _
    rw [Function.update_self]
  have hlines : s'.book.lines id lunchId = [(7000, 1)] := by
    rw [hbook]
    rfl
  have htotal : TotalMatches (s'.fee lunchId) cheapLunch.row.totalPrice
      (s'.book.lines id lunchId) := ((hall.2 s' hs) lunchId cheapLunch.row hstored).total
  rw [hfee, hlines] at htotal
  have hprice : (1 : ℤ) = 10000 := htotal
  exact absurd hprice (by decide)

end Creations

end ItsBedalyo
