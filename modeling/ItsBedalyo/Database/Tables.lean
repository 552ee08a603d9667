import Mathlib.Data.Option.Basic
import Mathlib.Data.Int.Notation
import Mathlib.Data.Nat.Notation
import Mathlib.Logic.Function.Basic

/-!
# The order tables and the statements on them

The rows of `ORDERS`, `STORES` and `ORDER_DETAILS` with the columns the order handlers read and
write, and the statements of those handlers. `ORDERS` is keyed by what the database takes an
order id to be: `key` maps the text of an id to its value under the column's collation, so
that ids the database compares equal name one row.

`Statement.effect` is a statement's effect on a view of the tables: how many rows its `WHERE`
matches, which is what `executeUpdate` returns (the connector asks for found rows), and the
row images it writes. A statement that violates the primary key has no effect to return, it
can only throw. `Statement.rows` lists the rows a statement has to lock.
-/

namespace ItsBedalyo

/-- A row of `ORDERS`. -/
structure OrderRow where
  userId : String
  storeId : ℤ
  totalPrice : ℤ
  orderStatus : ℤ
  deliveryAddress : String
  storeRequest : String
  riderRequest : String
  deriving DecidableEq

/-- A row of `STORES`. -/
structure StoreRow where
  ownerId : String
  deliveryFee : ℤ
  totalSales : ℤ
  deriving DecidableEq

/-- A row of `ORDER_DETAILS`; `selected_options` holds the text of a JSON array of names. -/
structure DetailRow where
  orderId : String
  menuId : ℤ
  menuName : String
  quantity : ℤ
  price : ℤ
  selectedOptions : List String
  deriving DecidableEq

/-- The contents of the three tables. -/
structure Tables (κ : Type*) where
  orders : κ → Option OrderRow
  stores : ℤ → Option StoreRow
  details : List DetailRow

/-- A row that can be locked. -/
inductive Row (κ : Type*)
  | order (k : κ)
  | store (storeId : ℤ)
  deriving DecidableEq

/-- The image of a row, written by a statement. -/
inductive Write (κ : Type*)
  | order (k : κ) (row : OrderRow)
  | store (storeId : ℤ) (row : StoreRow)
  | detail (row : DetailRow)
  deriving DecidableEq

/-- The row a write replaces, if it is one that can be locked. -/
def Write.row? {κ : Type*} : Write κ → Option (Row κ)
  | .order k _ => some (.order k)
  | .store id _ => some (.store id)
  | .detail _ => none

/-- The statements of the order handlers. -/
inductive Statement
  /-- `UPDATE ORDERS SET order_status = 1 WHERE order_id = ? AND order_status = 0` -/
  | acceptOrder (orderId : String)
  /-- `UPDATE STORES S JOIN ORDERS O ON O.store_id = S.store_id
  SET S.total_sales = S.total_sales + O.total_price WHERE O.order_id = ?` -/
  | addSales (orderId : String)
  /-- `UPDATE ORDERS SET order_status = n WHERE order_id = ?` -/
  | setOrderStatus (orderId : String) (n : ℤ)
  /-- `INSERT INTO ORDERS (order_id, …) VALUES (?, …)` -/
  | insertOrder (orderId : String) (row : OrderRow)
  /-- `INSERT INTO ORDER_DETAILS (…) VALUES (…)` -/
  | insertDetail (row : DetailRow)
  deriving DecidableEq

namespace Tables

variable {κ : Type*} [DecidableEq κ]

/-- The tables after one write. -/
def write (db : Tables κ) : Write κ → Tables κ
  | .order k row => { db with orders := Function.update db.orders k (some row) }
  | .store id row => { db with stores := Function.update db.stores id (some row) }
  | .detail row => { db with details := db.details ++ [row] }

/-- The tables after a list of writes. -/
def writes (db : Tables κ) (ws : List (Write κ)) : Tables κ :=
  ws.foldl write db

@[simp] theorem writes_nil (db : Tables κ) : db.writes [] = db := rfl

@[simp] theorem writes_cons (db : Tables κ) (w : Write κ) (ws : List (Write κ)) :
    db.writes (w :: ws) = (db.write w).writes ws := rfl

@[simp] theorem write_order_orders (db : Tables κ) (k : κ) (row : OrderRow) :
    (db.write (.order k row)).orders = Function.update db.orders k (some row) := rfl

@[simp] theorem write_order_stores (db : Tables κ) (k : κ) (row : OrderRow) :
    (db.write (.order k row)).stores = db.stores := rfl

@[simp] theorem write_store_orders (db : Tables κ) (id : ℤ) (row : StoreRow) :
    (db.write (.store id row)).orders = db.orders := rfl

@[simp] theorem write_store_stores (db : Tables κ) (id : ℤ) (row : StoreRow) :
    (db.write (.store id row)).stores = Function.update db.stores id (some row) := rfl

/-- Order details are no rows of the other two tables. -/
theorem writes_details (db : Tables κ) (rows : List DetailRow) :
    (db.writes (rows.map .detail)).orders = db.orders ∧
      (db.writes (rows.map .detail)).stores = db.stores := by
  induction rows generalizing db with
  | nil => exact ⟨rfl, rfl⟩
  | cons row rows ih => exact ih _

/-- Rows that are not written stay as they are. -/
theorem writes_of_notMem {db : Tables κ} {ws : List (Write κ)} :
    (∀ k, (∀ w ∈ ws, w.row? ≠ some (.order k)) → (db.writes ws).orders k = db.orders k) ∧
      ∀ id, (∀ w ∈ ws, w.row? ≠ some (.store id)) → (db.writes ws).stores id = db.stores id := by
  induction ws generalizing db with
  | nil => exact ⟨fun _ _ => rfl, fun _ _ => rfl⟩
  | cons w ws ih =>
    obtain ⟨horders, hstores⟩ := @ih (db.write w)
    constructor
    · intro k h
      rw [writes_cons, horders k fun w' hw' => h w' (.tail _ hw')]
      have hw := h w (.head _)
      cases w with
      | order k' row =>
        exact Function.update_of_ne
          (fun e => hw (congrArg (fun k => some (Row.order k)) e.symm)) _ _
      | store id row => rfl
      | detail row => rfl
    · intro id h
      rw [writes_cons, hstores id fun w' hw' => h w' (.tail _ hw')]
      have hw := h w (.head _)
      cases w with
      | order k row => rfl
      | store id' row =>
        exact Function.update_of_ne
          (fun e => hw (congrArg (fun i => some (Row.store i)) e.symm)) _ _
      | detail row => rfl

end Tables

namespace Statement

variable {κ : Type*} (key : String → κ)

/-- The rows a statement has to lock before it can go on. -/
def rows (db : Tables κ) : Statement → List (Row κ)
  | acceptOrder orderId => [.order (key orderId)]
  | addSales orderId =>
    .order (key orderId) :: (db.orders (key orderId)).toList.map fun row => .store row.storeId
  | setOrderStatus orderId _ => [.order (key orderId)]
  | insertOrder orderId _ => [.order (key orderId)]
  | insertDetail _ => []

/-- The number of rows matched and the row images written, on the tables as the statement
finds them. -/
def effect (db : Tables κ) : Statement → Option (ℕ × List (Write κ))
  | acceptOrder orderId =>
    match db.orders (key orderId) with
    | some row =>
      if row.orderStatus = 0 then
        some (1, [.order (key orderId) { row with orderStatus := 1 }])
      else some (0, [])
    | none => some (0, [])
  | addSales orderId =>
    match db.orders (key orderId) with
    | some row =>
      match db.stores row.storeId with
      | some store =>
        some (1, [.store row.storeId
          { store with totalSales := store.totalSales + row.totalPrice }])
      | none => some (0, [])
    | none => some (0, [])
  | setOrderStatus orderId n =>
    match db.orders (key orderId) with
    | some row => some (1, [.order (key orderId) { row with orderStatus := n }])
    | none => some (0, [])
  | insertOrder orderId row =>
    match db.orders (key orderId) with
    | some _ => none
    | none => some (1, [.order (key orderId) row])
  | insertDetail row => some (1, [.detail row])

end Statement

end ItsBedalyo
