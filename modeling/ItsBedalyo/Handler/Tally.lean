import ItsBedalyo.Handler.AccountPages
import ItsBedalyo.Handler.CookTimeSet
import ItsBedalyo.Handler.OperationRules
import ItsBedalyo.Handler.OrderPages
import ItsBedalyo.Handler.RequestOrder
import ItsBedalyo.Handler.StorePages

/-!
# What a request has sent, and how its calls came out

The handlers are written over different sets of calls: those of the order handlers, those of the
account DAO classes, those on the registry and the chat rooms, and those of the pages. A `Tally` is
what is common to them: the commands of the packets that have gone to the session that asked, and
how the calls came out. Each set of calls has an interface over tallies, in which every call may
come out in every way, `rollback` and `setAutoCommit` included.
-/

namespace ItsBedalyo

/-- How the calls of a request have come out. -/
structure Outcomes where
  /-- a statement, a transaction or the reading of a result set has thrown -/
  failed : Bool := false
  /-- a lookup by the id of an order or a store has thrown -/
  lookupFailed : Bool := false
  /-- an update has matched no row -/
  noRows : Bool := false
  /-- the transaction was rolled back -/
  rolledBack : Bool := false
  /-- the rollback has thrown, or `setAutoCommit` after it -/
  unrecovered : Bool := false
  /-- nobody was logged in -/
  nobody : Bool := false
  /-- the chat room was not there -/
  noRoom : Bool := false
  /-- a card number was read whose last four bytes are not UTF-8 -/
  splitText : Bool := false
  deriving DecidableEq

/-- What has been sent to the session, and how the calls have come out. -/
structure Tally where
  sent : List CmdID := []
  outcomes : Outcomes := {}
  deriving DecidableEq

namespace Tally

variable (t : Tally)

def send (cmdId : CmdID) : Tally := { t with sent := t.sent ++ [cmdId] }

def fail : Tally := { t with outcomes := { t.outcomes with failed := true } }

def failLookup : Tally := { t with outcomes := { t.outcomes with lookupFailed := true } }

def updated (rows : ℕ) : Tally :=
  if rows = 0 then { t with outcomes := { t.outcomes with noRows := true } } else t

def rollBack : Tally := { t with outcomes := { t.outcomes with rolledBack := true } }

def failRollback : Tally := { t with outcomes := { t.outcomes with unrecovered := true } }

/-- `setAutoCommit` throws. -/
def failAutoCommit : Tally :=
  { t with outcomes :=
      { t.outcomes with
        failed := true, unrecovered := t.outcomes.unrecovered || t.outcomes.rolledBack } }

def asked (userId : String) : Tally :=
  if userId = "" then { t with outcomes := { t.outcomes with nobody := true } } else t

def found (room : Option ChatRoom) : Tally :=
  if room.isNone then { t with outcomes := { t.outcomes with noRoom := true } } else t

/-- A text is read from a column. -/
def readText (column text : String) : Tally :=
  if column = "card_number" ∧ (Pages.OrderHandler.paymentMethod text).isNone then
    { t with outcomes := { t.outcomes with splitText := true } }
  else t

end Tally

/-! An update notes nothing but that it has matched no row. -/

section Updated

variable (t : Tally) (rows : ℕ)

@[simp] theorem updated_sent : (t.updated rows).sent = t.sent := by
  unfold Tally.updated
  split <;> rfl

@[simp] theorem updated_lookupFailed :
    (t.updated rows).outcomes.lookupFailed = t.outcomes.lookupFailed := by
  unfold Tally.updated
  split <;> rfl

@[simp] theorem updated_rolledBack :
    (t.updated rows).outcomes.rolledBack = t.outcomes.rolledBack := by
  unfold Tally.updated
  split <;> rfl

@[simp] theorem updated_unrecovered :
    (t.updated rows).outcomes.unrecovered = t.outcomes.unrecovered := by
  unfold Tally.updated
  split <;> rfl

end Updated

/-! ### The calls of the order handlers -/

/-- A response goes out unless its message is a text that is not UTF-8. -/
def Tally.respond (t : Tally) (garbled : Option String) (response : Response) : Tally :=
  if garbled.isSome ∧ response.message = garbled then t else t.send response.cmdId

/-- What a call of `OrderHandler.cpp` or `RiderHandler.cpp` that returns does to the tally. -/
def orderReturns (garbled : Option String) (t : Tally) : (o : Op) → o.Res → Tally → Prop
  | .executeUpdate _, rows, t' => t' = t.updated rows
  | .rollback, _, t' => t' = t.rollBack
  | .sendPacket response, _, t' => t' = t.respond garbled response
  | _, _, t' => t' = t

/-- What one that throws does. The lookups of `OrderDAO` and `StoreDAO` that catch nothing may
throw. -/
def orderThrows (t : Tally) : Op → Tally → Prop
  | .setAutoCommit _, t' => t' = t.failAutoCommit
  | .prepareStatement, t' => t' = t.fail
  | .executeUpdate _, t' => t' = t.fail
  | .commit, t' => t' = t.fail
  | .rollback, t' => t' = t.failRollback
  | .query (.getStoreIdByOrderId _), t' => t' = t.failLookup
  | .query (.getOwnerIdByStoreId _), t' => t' = t.failLookup
  | _, _ => False

/-- The calls of `OrderHandler.cpp` and `RiderHandler.cpp`. -/
def orderTally (garbled : Option String) : HandlerSpec Tally where
  pre _ _ := True
  returns := orderReturns garbled
  throws := orderThrows

section OrderTally

variable {garbled : Option String} {t : Tally} {o : Op}

@[simp] theorem orderTally_pre : (orderTally garbled).pre t o ↔ True := Iff.rfl

@[simp] theorem orderTally_returns : (orderTally garbled).returns = orderReturns garbled := rfl

@[simp] theorem orderTally_throws : (orderTally garbled).throws = orderThrows := rfl

end OrderTally

/-- The same with the calls of `handleCookTimeSet`. -/
def statusTally (garbled : Option String) : Interface StatusOp.Res String Tally where
  pre _ _ := True
  post t
    | .base o, r, t' => (orderTally garbled).interface.post t o r t'
    | .selectTimes _, .ok _, t' => t' = t
    | .selectTimes _, .error _, t' => t' = t.fail
    | .getDeliveryAddressByOrderId _, .ok _, t' => t' = t
    | .getDeliveryAddressByOrderId _, .error _, t' => t' = t.failLookup
    | .uninitialised, r, t' => (∃ n, r = .ok n) ∧ t' = t
    | .broadcastToRole _ _, r, t' => r = .ok () ∧ t' = t

/-! ### The calls of the account DAO classes -/

/-- What `sendPacket` sends has the command `cmdId`. -/
def accountTally {Reply : Type} (cmdId : CmdID) :
    Interface (@DaoOp.Res AccountStatement AccountQuery Reply AccountQuery.Answer) Exn Tally where
  pre _ _ := True
  post t
    | .sendPacket _, r, t' => r = .ok () ∧ t' = t.send cmdId
    | .rollback, .ok _, t' => t' = t.rollBack
    | .rollback, .error _, t' => t' = t.failRollback
    | .setAutoCommit _, .error _, t' => t' = t.failAutoCommit
    | .executeUpdate _, .ok rows, t' => t' = t.updated rows
    | _, .ok _, t' => t' = t
    | _, .error _, t' => t' = t.fail

/-! ### The calls on the registry and the chat rooms -/

/-- `validateLogin` catches what the database throws, and nothing else here throws. -/
def connTally : Interface ConnOp.Res String Tally where
  pre _ _ := True
  post t
    | .chat .getUserId, r, t' => ∃ userId, r = .ok userId ∧ t' = t.asked userId
    | .chat (.getRoom _), r, t' => ∃ room, r = .ok room ∧ t' = t.found room
    | .chat (.sendPacket packet), r, t' => r = .ok () ∧ t' = t.send packet.cmdId
    | .sendLogin _, r, t' => r = .ok () ∧ t' = t.send CmdID.RES_LOGIN
    | .sendLogout _ _, r, t' => r = .ok () ∧ t' = t.send CmdID.RES_LOGOUT
    | _, r, t' => (∃ a, r = .ok a) ∧ t' = t

/-! ### The calls of the pages -/

/-- The calls of the database. -/
def dbTally {D : Type} : Interface (@DbOp.Res D) SqlException Tally where
  pre _ _ := True
  post t
    | .getString _ column, .ok text, t' => t' = t.readText column text
    | .executeUpdate _ _, .ok rows, t' => t' = t.updated rows
    | _, .ok _, t' => t' = t
    | _, .error _, t' => t' = t.fail

/-- Nothing but `sql::SQLException` comes from the database. -/
def pageTally {D : Type} : Interface (@PageOp.Res D) Exn Tally where
  pre _ _ := True
  post t
    | .db o, .ok a, t' => dbTally.post t o (.ok a) t'
    | .db o, .error (.sql what), t' => dbTally.post t o (.error ⟨what⟩) t'
    | .db _, .error (.std _), _ => False
    | .account o, r, t' => (accountTally 0).post t o r t'
    | .sendPacket cmdId (some _), r, t' => r = .ok () ∧ t' = t.send cmdId
    | .sendPacket _ none, r, t' => r = .ok () ∧ t' = t
    | _, r, t' => (∃ a, r = .ok a) ∧ t' = t

/-! ### Answering once -/

/-- Handler code that begins with nothing sent sends one packet `cmdId`, however it ends, exactly if
its calls have come out as `p` says. -/
def AnsweredIff {Op : Type} {Res : Op → Type} {ε : Type} (I : Interface Res ε Tally)
    (code : Prog Res ε Unit) (cmdId : CmdID) (p : Outcomes → Prop) : Prop :=
  I.wp code (fun _ t => t.sent.count cmdId = 1 ↔ p t.outcomes) {}

/-- There is a value, nothing was thrown in its place. -/
def IsOk {ε α : Type} (x : Except ε α) : Prop := ∃ a, x = .ok a

@[simp] theorem isOk_ok {ε α : Type} (a : α) : IsOk (.ok a : Except ε α) := ⟨a, rfl⟩

@[simp] theorem not_isOk_error {ε α : Type} (e : ε) : ¬IsOk (.error e : Except ε α) :=
  fun ⟨_, h⟩ => nomatch h

end ItsBedalyo
