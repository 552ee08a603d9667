import ItsBedalyo.Database.Queries
import ItsBedalyo.Database.Transaction
import ItsBedalyo.Lib.Prog
import ItsBedalyo.Protocol

/-!
# What the order handlers call

The operations of the order handlers: statements and transactions on the connection the
handler holds, the lookups of the DAO classes (each on a connection of its own, so each sees
the committed tables), the clock and `rand`, `ClientSession::sendPacket` to the client and
`SessionManager::sendToUser` to others. A handler is a `Prog` over them, and throws texts:
the `what()` of a `std::exception`.

The environment answers each operation. `prepareStatement`, `executeUpdate` and `commit` may
throw; a `commit` that throws has not committed, and a statement that throws has had no effect
on the tables, but the server may have rolled the whole transaction back to resolve a deadlock.
`rollback` and `setAutoCommit` succeed. A packet is handed to a session or not without the
handler learning of it, so `sent` and `pushed` record what the handlers send.
-/

namespace ItsBedalyo

/-- A JSON response to the client that sent the request. -/
structure Response where
  cmdId : CmdID
  status : ℤ
  message : Option String := none
  orderId : Option String := none
  deriving DecidableEq

/-- An item of the new order push. -/
structure PushItem where
  menuId : ℤ
  menuName : String
  quantity : ℤ
  unitPrice : ℤ
  options : List String
  deriving DecidableEq

/-- A push to a user. -/
inductive Notice
  /-- `NOTIFY_ORDER_STATE` -/
  | orderState (orderId : String) (state : ℤ) (message : String)
  /-- `NOTIFY_NEW_ORDER` -/
  | newOrder (orderId : String) (deliveryAddress : String) (totalPrice : ℤ) (state : ℤ)
      (createdAt storeRequest riderRequest menuSummary : String) (items : List PushItem)
  deriving DecidableEq

/-- The lookups of `OrderDAO`, `StoreDAO` and `MenuDAO`. -/
inductive Query
  | getCustomerIdByOrderId (orderId : String)
  | getStoreIdByOrderId (orderId : String)
  | getOwnerIdByStoreId (storeId : ℤ)
  | getDeliveryFee (storeId : ℤ)
  | getMenuName (menuId : ℤ)
  | getOptionName (menuId optionId : ℤ)

/-- What a lookup returns. -/
abbrev Query.Res : Query → Type
  | getCustomerIdByOrderId _ | getOwnerIdByStoreId _ | getMenuName _ | getOptionName _ _ => String
  | getStoreIdByOrderId _ | getDeliveryFee _ => ℤ

/-- The operations. -/
inductive Op
  | setAutoCommit (on : Bool)
  | prepareStatement
  | executeUpdate (stmt : Statement)
  | commit
  | rollback
  | query (q : Query)
  | localtime
  | rand
  | sendPacket (response : Response)
  | sendToUser (userId : String) (notice : Notice)

/-- The current time as `strftime` prints it, as `%Y%m%d%H%M%S` and as `%Y-%m-%d %H:%M:%S`. -/
structure LocalTime where
  compact : String
  display : String
  digits : compact.toList.all Char.isDigit = true := by decide
  deriving DecidableEq

/-- What an operation returns. -/
abbrev Op.Res : Op → Type
  | executeUpdate _ => ℕ
  | query q => q.Res
  | localtime => LocalTime
  | rand => ℕ
  | _ => Unit

/-- Handler code. -/
abbrev Handler := Prog Op.Res String

/-- What the environment of a call answers: success, an exception, an exception of a statement
whose transaction was rolled back, or a value that comes from outside the model. -/
inductive Env
  | ok
  | fault (what : String)
  | deadlock (what : String)
  | text (s : String)
  | time (now : LocalTime)
  | number (n : ℕ)
  deriving DecidableEq

/-- The database server, and the packets that were sent. -/
structure World (τ κ : Type*) where
  db : DbServer τ κ
  sent : List (τ × Response)
  pushed : List (String × Notice)

section Semantics

variable {τ κ : Type*} (key : String → κ)

/-- The answer of a lookup. `getCustomerIdByOrderId`, `getDeliveryFee` and those of `MenuDAO`
catch what the database throws and return their default. The table `MENUS` is not modelled: what it
holds comes from the environment, and `getMenuName` returns it up to the first NUL. -/
def Query.answer (tables : Tables κ) : (q : Query) → Env → Option (Except String q.Res)
  | getCustomerIdByOrderId orderId, .ok =>
    some (.ok (((tables.orders (key orderId)).map fun row => cStr row.userId).getD ""))
  | getCustomerIdByOrderId _, .fault _ => some (.ok "")
  | getStoreIdByOrderId orderId, .ok =>
    some (.ok (((tables.orders (key orderId)).map OrderRow.storeId).getD (-1)))
  | getStoreIdByOrderId _, .fault what => some (.error what)
  | getOwnerIdByStoreId storeId, .ok =>
    some (.ok (((tables.stores storeId).map fun row => cStr row.ownerId).getD ""))
  | getOwnerIdByStoreId _, .fault what => some (.error what)
  | getDeliveryFee storeId, .ok =>
    some (.ok (((tables.stores storeId).map StoreRow.deliveryFee).getD 0))
  | getDeliveryFee _, .fault _ => some (.ok 0)
  | getMenuName _, .text name => some (.ok (cStr name))
  | getMenuName _, .fault _ => some (.ok "")
  | getOptionName _ _, .text name => some (.ok name)
  | getOptionName _ _, .fault _ => some (.ok "")
  | _, _ => none

variable [DecidableEq τ] [DecidableEq κ]

/-- An operation of call `t`: its result and the world afterwards, `none` when it has to wait
or the environment cannot answer so. -/
def exec (t : τ) : (o : Op) → Env → World τ κ → Option (Except String o.Res × World τ κ)
  | .setAutoCommit on, .ok, w => some (.ok (), { w with db := w.db.setAutoCommit t on })
  | .prepareStatement, .ok, w => some (.ok (), w)
  | .prepareStatement, .fault what, w => some (.error what, w)
  | .executeUpdate stmt, .ok, w =>
    (w.db.executeUpdate key t stmt).map fun (n, db) => (.ok n, { w with db := db })
  | .executeUpdate _, .fault what, w => some (.error what, w)
  | .executeUpdate _, .deadlock what, w => some (.error what, { w with db := w.db.rollback t })
  | .commit, .ok, w => some (.ok (), { w with db := w.db.commit t })
  | .commit, .fault what, w => some (.error what, w)
  | .rollback, .ok, w => some (.ok (), { w with db := w.db.rollback t })
  | .query q, e, w => (q.answer key w.db.tables e).map fun r => (r, w)
  | .localtime, .time now, w => some (.ok now, w)
  | .rand, .number n, w => some (.ok n, w)
  | .sendPacket response, .ok, w => some (.ok (), { w with sent := w.sent ++ [(t, response)] })
  | .sendToUser userId notice, .ok, w =>
    some (.ok (), { w with pushed := w.pushed ++ [(userId, notice)] })
  | _, _, _ => none

end Semantics

/-! ### The operations as handler code calls them -/

namespace Handler

def setAutoCommit (on : Bool) : Handler Unit := Prog.op (Op.setAutoCommit on)

def prepareStatement : Handler Unit := Prog.op Op.prepareStatement

def executeUpdate (stmt : Statement) : Handler ℕ := Prog.op (Op.executeUpdate stmt)

def commit : Handler Unit := Prog.op Op.commit

def rollback : Handler Unit := Prog.op Op.rollback

def getCustomerIdByOrderId (orderId : String) : Handler String :=
  Prog.op (Op.query (.getCustomerIdByOrderId orderId))

def getStoreIdByOrderId (orderId : String) : Handler ℤ :=
  Prog.op (Op.query (.getStoreIdByOrderId orderId))

def getOwnerIdByStoreId (storeId : ℤ) : Handler String :=
  Prog.op (Op.query (.getOwnerIdByStoreId storeId))

def getDeliveryFee (storeId : ℤ) : Handler ℤ := Prog.op (Op.query (.getDeliveryFee storeId))

def getMenuName (menuId : ℤ) : Handler String := Prog.op (Op.query (.getMenuName menuId))

def getOptionName (menuId optionId : ℤ) : Handler String :=
  Prog.op (Op.query (.getOptionName menuId optionId))

def localtime : Handler LocalTime := Prog.op Op.localtime

def rand : Handler ℕ := Prog.op Op.rand

def sendPacket (response : Response) : Handler Unit := Prog.op (Op.sendPacket response)

def sendToUser (userId : String) (notice : Notice) : Handler Unit :=
  Prog.op (Op.sendToUser userId notice)

/-- `if (c) throw std::runtime_error(what);` -/
def throwIf (c : Prop) [Decidable c] (what : String) : Handler Unit :=
  if c then throw what else pure ()

/-- `if (!userId.empty()) SessionManager::getInstance().sendToUser(userId, …);` -/
def notify (userId : String) (notice : Notice) : Handler Unit :=
  if userId ≠ "" then sendToUser userId notice else pure ()

end Handler

end ItsBedalyo
