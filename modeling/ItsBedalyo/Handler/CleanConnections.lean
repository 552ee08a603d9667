import ItsBedalyo.Database.OrderDAO
import ItsBedalyo.Handler.OperationRules
import ItsBedalyo.Handler.OrderHandler
import ItsBedalyo.Handler.UserHandler

/-!
# Connections go back to the pool clean

What matters of a connection when it goes back to the pool is its mode and whether a
transaction is open on it (`ConnState`). `daoConn` and `handlerConn` say what each operation does
to that, whatever the tables hold, whatever a statement or query answers and whatever throws:
every operation but `setAutoCommit` and `rollback` may. `daoConn_exec` and `handlerConn_exec`
show that the connection of a call in the database server behaves so, also while others use the
server.

Six of the seven functions that switch autocommit off leave their connection clean. `createOrder`
catches `sql::SQLException` only, and `dump()` throws something else
(`leaves_clean_iff`).
-/

namespace ItsBedalyo

open Interface RowLocking

/-- The mode of a connection, and whether a transaction is open on it. -/
structure ConnState where
  autoCommit : Bool
  inTransaction : Bool
  deriving DecidableEq

namespace ConnState

/-- In autocommit mode, with nothing open. -/
def clean : ConnState := ⟨true, false⟩

/-- `setAutoCommit(on)`; switching it on commits. -/
def setAutoCommit (c : ConnState) (on : Bool) : ConnState :=
  if on then clean else { c with autoCommit := false }

/-- A statement opens a transaction unless it is one by itself. -/
def execute (c : ConnState) : ConnState :=
  { c with inTransaction := c.inTransaction || !c.autoCommit }

/-- `commit()` and `rollback()`. -/
def finish (c : ConnState) : ConnState := { c with inTransaction := false }

@[simp] theorem setAutoCommit_true (c : ConnState) : c.setAutoCommit true = clean := rfl

@[simp] theorem setAutoCommit_false (c : ConnState) :
    c.setAutoCommit false = ⟨false, c.inTransaction⟩ := rfl

@[simp] theorem execute_clean : clean.execute = clean := rfl

@[simp] theorem execute_autoCommit (c : ConnState) : c.execute.autoCommit = c.autoCommit := rfl

@[simp] theorem finish_autoCommit (c : ConnState) : c.finish.autoCommit = c.autoCommit := rfl

/-- What is known of the connection is true of it. -/
structure Describes {Write : Type*} (c : ConnState) (conn : RowLocking.Connection Write) :
    Prop where
  autoCommit : conn.autoCommit = c.autoCommit
  pending : c.inTransaction = false → conn.pending = []

end ConnState

/-! ### What the operations of a DAO do to the connection -/

section Dao

variable {Stmt Query Reply : Type} {Answer : Query → Type}

/-- The operations of code on one connection. A reply is made with `dump()`. -/
def daoConnSpec : DaoSpec Stmt Query Reply Answer ConnState where
  pre _ _ := True
  returns c
    | .setAutoCommit on, _, c' => c' = c.setAutoCommit on
    | .executeUpdate _, _, c' => c' = c.execute
    | .executeQuery _, _, c' => c' = c.execute
    | .commit, _, c' => c' = c.finish
    | .rollback, _, c' => c' = c.finish
    | _, _, c' => c' = c
  throws c
    | .executeUpdate _, c' => c' = c ∨ c' = c.finish
    | _, c' => c' = c

/-- The interface of the connection. -/
abbrev daoConn : Interface (@DaoOp.Res Stmt Query Reply Answer) Exn ConnState :=
  daoConnSpec.interface

section Functions

open Dao

variable {c : ConnState}

theorem daoConn_executeUpdate {stmt : Stmt} {Q : Except Exn ℕ → ConnState → Prop} :
    daoConn.wp (executeUpdate stmt : Dao Stmt Answer Reply ℕ) Q c ↔
      (∀ n, Q (.ok n) c.execute) ∧
        ∀ what, Q (.error (.sql what)) c ∧ Q (.error (.sql what)) c.finish := by
  simp [daoConnSpec, or_imp, forall_and]

/-- `handleGradeUpdate` leaves its connection clean. -/
theorem handleGradeUpdate_clean (body : Except Exn ReqGradeUpdateDTO) :
    daoConn.wp (UserHandler.handleGradeUpdate body) (fun _ c => c = .clean) .clean := by
  cases body with
  | error e => simp [UserHandler.handleGradeUpdate, daoConnSpec]
  | ok req => simp [UserHandler.handleGradeUpdate, daoConnSpec]

/-- `saveAddress` leaves its connection clean. -/
theorem saveAddress_clean (dto : ReqAddressSaveDTO) :
    daoConn.wp (AddressDAO.saveAddress dto : AccountDao Reply ℤ) (fun _ c => c = .clean)
      .clean := by
  simp [AddressDAO.saveAddress, daoConnSpec]

/-- `insertUser` leaves its connection clean. -/
theorem insertUser_clean (dto : SignupReqDTO) :
    daoConn.wp (UserDAO.insertUser dto : AccountDao Reply SignupResult) (fun _ c => c = .clean)
      .clean := by
  simp [UserDAO.insertUser, UserDAO.insertRows, UserDAO.insertRole, daoConnSpec]

/-- `updateMembershipGrade` leaves its connection clean. -/
theorem updateMembershipGrade_clean (userId targetGrade : String) (action : ℤ) :
    daoConn.wp (MembershipDAO.updateMembershipGrade userId targetGrade action :
      AccountDao Reply Bool) (fun _ c => c = .clean) .clean := by
  simp [MembershipDAO.updateMembershipGrade, daoConnSpec]

section CreateOrder

open OrderDAO

variable {J : Type} {dump : J → Except String String}

/-- The loop over the items throws nothing but `sql::SQLException` when every `dump()`
succeeds. -/
theorem insertItems_of_dumpable {orderId : String} {items : List (OrderLine J)}
    (hdump : ∀ item ∈ items, ∀ what, dump item.selectedOptions ≠ .error what) {c : ConnState}
    {Q : Except Exn Unit → ConnState → Prop} (hok : ∀ c', Q (.ok ()) c')
    (herror : ∀ what c', Q (.error (.sql what)) c') :
    daoConn.wp (insertItems dump orderId items : Dao OrderStatement Answer Reply Unit) Q c := by
  induction items generalizing c Q with
  | nil => exact hok c
  | cons item items ih =>
    simp only [insertItems, dumped, wp_bind]
    split
    · next text _ =>
      simp only [wp_pure, daoConn_executeUpdate]
      refine ⟨fun n => ?_, fun what => ⟨herror _ _, herror _ _⟩⟩
      exact ih (fun item' hitem' => hdump item' (.tail _ hitem')) hok herror
    · next what hwhat => exact absurd hwhat (hdump item (.head _) what)

/-- A `dump()` that throws ends the loop over the items inside the transaction. -/
theorem exists_error_of_insertItems {orderId : String} {items : List (OrderLine J)}
    (hdump : ∃ item ∈ items, ∃ what, dump item.selectedOptions = .error what) {c : ConnState}
    (hc : c.autoCommit = false) {Q : Except Exn Unit → ConnState → Prop}
    (h : daoConn.wp (insertItems dump orderId items : Dao OrderStatement Answer Reply Unit) Q c) :
    ∃ what c', c'.autoCommit = false ∧ Q (.error (.std what)) c' := by
  induction items generalizing c with
  | nil =>
    obtain ⟨item, hitem, -⟩ := hdump
    cases hitem
  | cons item items ih =>
    simp only [insertItems, dumped, wp_bind] at h
    split at h
    · next text htext =>
      obtain ⟨item', hitem', what, hwhat⟩ := hdump
      rcases List.mem_cons.mp hitem' with rfl | hitem'
      · rw [htext] at hwhat
        cases hwhat
      · simp only [wp_pure, daoConn_executeUpdate] at h
        have hc' : c.execute.autoCommit = false := hc
        exact ih ⟨item', hitem', what, hwhat⟩ hc' (h.1 1)
    · next what _ => exact ⟨what, c, hc, h⟩

/-- A request that `createOrder` does not refuse and one of whose items `dump()` throws on. -/
def Undumpable (dump : J → Except String String) (req : OrderDraft J) : Prop :=
  req.items.any badQuantity = false ∧
    ∃ item ∈ req.items, ∃ what, dump item.selectedOptions = .error what

/-- `createOrder` leaves its connection clean unless a `dump()` in it throws. -/
theorem createOrder_clean_iff (ms : ℕ) (req : OrderDraft J) :
    daoConn.wp (createOrder dump ms req : Dao OrderStatement Answer Reply OrderResult)
      (fun _ c => c = .clean) .clean ↔ ¬Undumpable dump req := by
  constructor
  · rintro h ⟨hqty, hdump⟩
    simp [createOrder, hqty, daoConnSpec] at h
    obtain ⟨what, c', hc', hclean⟩ := exists_error_of_insertItems hdump (by simp) h
    rw [hclean] at hc'
    cases hc'
  · intro h
    simp only [createOrder, Dao.wp_catchSql, wp_ite]
    refine ⟨fun _ => rfl, fun hqty => ?_⟩
    have hdump : ∀ item ∈ req.items, ∀ what, dump item.selectedOptions ≠ .error what :=
      fun item hitem what hwhat =>
        h ⟨Bool.eq_false_iff.mpr hqty, item, hitem, what, hwhat⟩
    simp [daoConnSpec]
    exact insertItems_of_dumpable hdump (by simp) (by simp)

end CreateOrder

end Functions

/-- **The connection of a call in the database server** behaves as `daoConn` says. -/
theorem daoConn_exec {τ Db Write Row : Type*} [DecidableEq τ] [DecidableEq Row]
    (schema : DaoSchema Db Write Row Stmt Answer) {t : τ} {w w' : DaoWorld τ Db Write Row Reply}
    {c : ConnState} (h : c.Describes (w.server.conns t)) {o : DaoOp Stmt Query Reply} {e : DaoEnv}
    {r : Except Exn (o.Res Answer)} (he : schema.exec t o e w = some (r, w')) :
    ∃ c', daoConn.post c o r c' ∧ c'.Describes (w'.server.conns t) := by
  cases o with
  | setAutoCommit on =>
    cases e <;> cases he
    refine ⟨_, rfl, ?_⟩
    rw [Server.setAutoCommit_conns_self]
    cases on with
    | true => exact ⟨rfl, fun _ => rfl⟩
    | false => exact ⟨rfl, h.pending⟩
  | prepareStatement =>
    cases e <;> cases he
    · exact ⟨c, rfl, h⟩
    · exact ⟨c, ⟨trivial, rfl⟩, h⟩
  | executeUpdate stmt =>
    cases e with
    | ok => cases he
    | next id =>
      obtain ⟨⟨n, server⟩, hs, heq⟩ := Option.map_eq_some_iff.mp he
      cases heq
      obtain ⟨ws, -, -, rfl⟩ := Server.execute_eq_some hs
      refine ⟨c.execute, rfl, ?_⟩
      rw [h.autoCommit]
      cases hmode : c.autoCommit with
      | true =>
        refine ⟨h.autoCommit, fun hc => h.pending ?_⟩
        simpa [ConnState.execute, hmode] using hc
      | false =>
        rw [if_neg Bool.false_ne_true, Server.enqueue_conns_self]
        refine ⟨h.autoCommit, fun hc => ?_⟩
        simp [ConnState.execute, hmode] at hc
    | fault what =>
      cases he
      exact ⟨c, ⟨trivial, .inl rfl⟩, h⟩
    | deadlock what =>
      cases he
      refine ⟨c.finish, ⟨trivial, .inr rfl⟩, ?_⟩
      rw [Server.rollback_conns_self]
      exact ⟨h.autoCommit, fun _ => rfl⟩
  | executeQuery query =>
    cases e <;> cases he
    · refine ⟨c.execute, rfl, h.autoCommit, fun hc => h.pending ?_⟩
      exact (Bool.or_eq_false_iff.mp hc).1
    · exact ⟨c, ⟨trivial, rfl⟩, h⟩
  | commit =>
    cases e <;> cases he
    · refine ⟨c.finish, rfl, ?_⟩
      rw [Server.commit_conns_self]
      exact ⟨h.autoCommit, fun _ => rfl⟩
    · exact ⟨c, ⟨trivial, rfl⟩, h⟩
  | rollback =>
    cases e <;> cases he
    refine ⟨c.finish, rfl, ?_⟩
    rw [Server.rollback_conns_self]
    exact ⟨h.autoCommit, fun _ => rfl⟩
  | sendPacket reply =>
    cases e <;> cases he
    exact ⟨c, rfl, h⟩

end Dao

/-! ### What the operations of an order handler do to the connection -/

section Handler

open Handler

/-- The operations of an order handler. Lookups use connections of their own; a reply and a push
are made with `dump()`. -/
def handlerConnSpec : HandlerSpec ConnState where
  pre _ _ := True
  returns c
    | .setAutoCommit on, _, c' => c' = c.setAutoCommit on
    | .executeUpdate _, _, c' => c' = c.execute
    | .commit, _, c' => c' = c.finish
    | .rollback, _, c' => c' = c.finish
    | _, _, c' => c' = c
  throws c
    | .setAutoCommit _, _ => False
    | .rollback, _ => False
    | .executeUpdate _, c' => c' = c ∨ c' = c.finish
    | _, c' => c' = c

/-- The interface of the connection. -/
abbrev handlerConn : Interface Op.Res String ConnState := handlerConnSpec.interface

/-- **The connection of an order handler's call in the database server** behaves as
`handlerConn` says. -/
theorem handlerConn_exec {τ κ : Type*} [DecidableEq τ] [DecidableEq κ] {key : String → κ} {t : τ}
    {w w' : World τ κ} {c : ConnState} (hauto : (w.db.conns t).autoCommit = c.autoCommit)
    (hpending : c.inTransaction = false → (w.db.conns t).pending = []) {o : Op} {e : Env}
    {r : Except String o.Res} (he : exec key t o e w = some (r, w')) :
    ∃ c', handlerConn.post c o r c' ∧ (w'.db.conns t).autoCommit = c'.autoCommit ∧
      (c'.inTransaction = false → (w'.db.conns t).pending = []) := by
  have hend (db : DbServer τ κ) : (db.rollback t).conns t = ⟨(db.conns t).autoCommit, []⟩ :=
    Function.update_self ..
  have hcommit (db : DbServer τ κ) : (db.commit t).conns t = ⟨(db.conns t).autoCommit, []⟩ :=
    Function.update_self ..
  cases o with
  | setAutoCommit on =>
    cases e <;> cases he
    refine ⟨_, rfl, ?_⟩
    cases on with
    | true =>
      have hconn : (w.db.setAutoCommit t true).conns t = ⟨true, []⟩ := Function.update_self ..
      simp [hconn, ConnState.clean]
    | false =>
      have hconn : (w.db.setAutoCommit t false).conns t = ⟨false, (w.db.conns t).pending⟩ :=
        Function.update_self ..
      simpa [hconn] using hpending
  | executeUpdate stmt =>
    cases e with
    | ok =>
      obtain ⟨⟨n, db⟩, hs, heq⟩ := Option.map_eq_some_iff.mp he
      cases heq
      obtain ⟨ws, -, -, rfl⟩ := DbServer.executeUpdate_eq_some hs
      refine ⟨c.execute, rfl, ?_⟩
      rw [hauto]
      cases hmode : c.autoCommit with
      | true =>
        refine ⟨hauto, fun hc => hpending ?_⟩
        simpa [ConnState.execute, hmode] using hc
      | false =>
        have hconn : (w.db.enqueue t ws).conns t =
            ⟨(w.db.conns t).autoCommit, (w.db.conns t).pending ++ ws⟩ := Function.update_self ..
        rw [if_neg Bool.false_ne_true, hconn]
        refine ⟨hauto, fun hc => ?_⟩
        simp [ConnState.execute, hmode] at hc
    | fault what =>
      cases he
      exact ⟨c, .inl rfl, hauto, hpending⟩
    | deadlock what =>
      cases he
      refine ⟨c.finish, .inr rfl, ?_⟩
      simp [hend, hauto]
    | text | time | number => cases he
  | commit =>
    cases e <;> cases he
    · refine ⟨c.finish, rfl, ?_⟩
      simp [hcommit, hauto]
    · exact ⟨c, rfl, hauto, hpending⟩
  | rollback =>
    cases e <;> cases he
    refine ⟨c.finish, rfl, ?_⟩
    simp [hend, hauto]
  | query q =>
    obtain ⟨x, -, heq⟩ := Option.map_eq_some_iff.mp he
    cases heq
    exact ⟨c, by cases r <;> rfl, hauto, hpending⟩
  | prepareStatement | localtime | rand | sendPacket | sendToUser =>
    cases e <;> cases he
    all_goals exact ⟨c, rfl, hauto, hpending⟩

/-- `handleOrderAccept` leaves its connection clean. -/
theorem handleOrderAccept_clean (body : Except String OrderAcceptReqDTO) :
    handlerConn.wp (OrderHandler.handleOrderAccept body) (fun _ c => c = .clean) .clean := by
  cases body with
  | error what => simp [OrderHandler.handleOrderAccept, handlerConnSpec]
  | ok req => simp [OrderHandler.handleOrderAccept, handlerConnSpec]

/-- Looking up option names does not touch the connection. -/
theorem optionNames_conn (menuId : ℤ) (opts : List (Option ℤ)) {c : ConnState}
    {Q : Except String (List String) → ConnState → Prop} (h : ∀ r, Q r c) :
    handlerConn.wp (OrderHandler.optionNames menuId opts) Q c := by
  induction opts generalizing Q with
  | nil => exact h _
  | cons opt opts ih =>
    cases opt with
    | none => exact ih h
    | some optId =>
      simp only [OrderHandler.optionNames, wp_bind, HandlerSpec.wp_getOptionName]
      refine ⟨trivial, ?_, ?_⟩
      · rintro optName c' rfl
        refine ih fun r => ?_
        cases r <;> exact h _
      · rintro what c' rfl
        exact h _

/-- The loop over the items may throw anywhere. -/
theorem insertItems_conn (orderId : String) (items : List OrderItemDTO) {c : ConnState}
    {Q : Except String (List PushItem) → ConnState → Prop} (h : ∀ r c', Q r c') :
    handlerConn.wp (OrderHandler.insertItems orderId items) Q c := by
  induction items generalizing c Q with
  | nil => exact h _ _
  | cons item items ih =>
    simp only [OrderHandler.insertItems, wp_bind, HandlerSpec.wp_getMenuName]
    refine ⟨trivial, fun name c' _ => optionNames_conn _ _ ?_, fun what c' _ => h _ _⟩
    rintro (what | options)
    · exact h _ _
    simp only [HandlerSpec.wp_executeUpdate]
    refine ⟨trivial, fun n c' _ => ih fun r c' => ?_, fun what c' _ => h _ _⟩
    cases r <;> exact h _ _

/-- `handleCreateOrder` leaves its connection clean. -/
theorem handleCreateOrder_clean (body : Except String OrderCreateReqDTO) :
    handlerConn.wp (OrderHandler.handleCreateOrder body) (fun _ c => c = .clean) .clean := by
  cases body with
  | error what => simp [OrderHandler.handleCreateOrder, handlerConnSpec]
  | ok req =>
    simp [OrderHandler.handleCreateOrder, handlerConnSpec]
    intro now n
    refine insertItems_conn _ _ fun r c' => ?_
    cases r <;> simp

end Handler

/-! ### The seven functions -/

/-- A call of a function that switches autocommit off. -/
inductive TransactionalCall (J : Type)
  | handleOrderAccept (body : Except String OrderAcceptReqDTO)
  | handleCreateOrder (body : Except String OrderCreateReqDTO)
  | handleGradeUpdate (body : Except Exn ReqGradeUpdateDTO)
  | saveAddress (dto : ReqAddressSaveDTO)
  | createOrder (ms : ℕ) (req : OrderDraft J)
  | insertUser (dto : SignupReqDTO)
  | updateMembershipGrade (userId targetGrade : String) (action : ℤ)

namespace TransactionalCall

variable {J : Type} (dump : J → Except String String)

/-- Begun on a clean connection, the call can return or throw with its connection in state
`c`. -/
def Leaves : TransactionalCall J → ConnState → Prop
  | handleOrderAccept body, c =>
    ∃ r, handlerConn.Runs (OrderHandler.handleOrderAccept body) .clean r c
  | handleCreateOrder body, c =>
    ∃ r, handlerConn.Runs (OrderHandler.handleCreateOrder body) .clean r c
  | handleGradeUpdate body, c =>
    ∃ r, daoConn.Runs (UserHandler.handleGradeUpdate body) .clean r c
  | saveAddress dto, c =>
    ∃ r, daoConn.Runs (AddressDAO.saveAddress dto : AccountDao Empty ℤ) .clean r c
  | createOrder ms req, c =>
    ∃ r, daoConn.Runs (OrderDAO.createOrder dump ms req : OrderDao Empty OrderResult) .clean r c
  | insertUser dto, c =>
    ∃ r, daoConn.Runs (UserDAO.insertUser dto : AccountDao Empty SignupResult) .clean r c
  | updateMembershipGrade userId targetGrade action, c =>
    ∃ r, daoConn.Runs (MembershipDAO.updateMembershipGrade userId targetGrade action :
      AccountDao Empty Bool) .clean r c

/-- The calls of `createOrder` in which a `dump()` throws. -/
def DumpThrows : TransactionalCall J → Prop
  | createOrder _ req => Undumpable dump req
  | _ => False

/-- What a call can leave behind, by its `wp`. -/
theorem forall_runs_iff {Op : Type} {Res : Op → Type} {ε α : Type} {γ : Type*}
    {I : Interface Res ε γ} (hpre : ∀ g o, I.pre g o) {p : Prog Res ε α} {g g' : γ} :
    (∀ c, (∃ r, I.Runs p g r c) → c = g') ↔ I.wp p (fun _ c => c = g') g := by
  refine Iff.trans ?_ (wp_iff_forall_runs hpre).symm
  exact ⟨fun h r c hruns => h c ⟨r, hruns⟩, fun h c ⟨r, hruns⟩ => h r c hruns⟩

/-- **Connections go back clean, exactly when no `dump()` of `createOrder` throws.** -/
theorem leaves_clean_iff (call : TransactionalCall J) :
    (∀ c, call.Leaves dump c → c = .clean) ↔ ¬call.DumpThrows dump := by
  have hdao : ∀ {p : Prop}, p → (p ↔ ¬False) := fun h => ⟨fun _ => not_false, fun _ => h⟩
  cases call with
  | handleOrderAccept body =>
    exact hdao ((forall_runs_iff fun _ _ => trivial).mpr (handleOrderAccept_clean body))
  | handleCreateOrder body =>
    exact hdao ((forall_runs_iff fun _ _ => trivial).mpr (handleCreateOrder_clean body))
  | handleGradeUpdate body =>
    exact hdao ((forall_runs_iff fun _ _ => trivial).mpr (handleGradeUpdate_clean body))
  | saveAddress dto =>
    exact hdao ((forall_runs_iff fun _ _ => trivial).mpr (saveAddress_clean dto))
  | createOrder ms req =>
    exact (forall_runs_iff fun _ _ => trivial).trans (createOrder_clean_iff ms req)
  | insertUser dto =>
    exact hdao ((forall_runs_iff fun _ _ => trivial).mpr (insertUser_clean dto))
  | updateMembershipGrade userId targetGrade action =>
    exact hdao ((forall_runs_iff fun _ _ => trivial).mpr
      (updateMembershipGrade_clean userId targetGrade action))

end TransactionalCall

/-- JSON text of one byte per character, where `dump()` knows ASCII only. -/
def dumpAscii (text : List UInt8) : Except String String :=
  if text.all (· < 128) then .ok (String.ofList (text.map fun b => Char.ofNat b.toNat))
  else .error "[json.exception.type_error.316] invalid UTF-8 byte"

/-- An order with one item whose options are the byte `0xFF`. -/
def undumpableOrder : OrderDraft (List UInt8) :=
  ⟨"hong", 1, 9000, "Seoul", [⟨1, 1, 9000, [255]⟩]⟩

/-- Such an order leaves its connection with autocommit off and a transaction open. -/
theorem createOrder_leaves_open :
    ¬∀ c, (TransactionalCall.createOrder 0 undumpableOrder).Leaves dumpAscii c → c = .clean := by
  intro h
  have hwp := (TransactionalCall.forall_runs_iff fun _ _ => trivial).mp h
  refine (createOrder_clean_iff 0 undumpableOrder).mp hwp ⟨rfl, _, .head _, ?_⟩
  exact ⟨_, rfl⟩

end ItsBedalyo
