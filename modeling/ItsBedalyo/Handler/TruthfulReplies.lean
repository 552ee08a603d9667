import ItsBedalyo.Handler.OrderCreation
import ItsBedalyo.Handler.UserHandler

/-!
# What the replies of transactional handlers are worth

`handleOrderAccept`, `handleCreateOrder` and `handleGradeUpdate` run a transaction and tell the
requester how it went. A call by itself is `Truthful` if it replies once, a success means that
all its rows are committed and a failure that the tables are as they were. Any call in a handler
may throw.

`handleOrderAccept` and `handleGradeUpdate` always tell the truth: what they call after the
commit throws nothing. `handleCreateOrder` calls `getOwnerIdByStoreId` after it has committed and
replied, inside the same `try`, so that it replies again, with a failure, when this lookup throws
(`truthful_iff`).
-/

namespace ItsBedalyo

open RowLocking Interface

section Orders

variable {κ : Type*} [DecidableEq κ] {key : String → κ} {tables : Tables κ}

/-- The order is accepted, and its price added to the sales of its store. -/
def OrderAccepted (key : String → κ) (orderId : String) (tables tables' : Tables κ) : Prop :=
  ∃ row n ws, tables.orders (key orderId) = some row ∧ row.orderStatus = 0 ∧
    (Statement.addSales orderId).effect key
        (tables.write (.order (key orderId) { row with orderStatus := 1 })) = some (n, ws) ∧
      tables' = (tables.write (.order (key orderId) { row with orderStatus := 1 })).writes ws

/-- How an accept can end. -/
inductive AcceptOutcome (key : String → κ) (body : Except String OrderAcceptReqDTO)
    (tables : Tables κ) : OrderState κ → Prop
  | refused {response : Response} : response.status = 500 →
      AcceptOutcome key body tables ⟨⟨tables, tables, true⟩, [response]⟩
  | accepted {req : OrderAcceptReqDTO} {response : Response} {tables' : Tables κ} :
      response.status = 200 → body = .ok req →
      OrderAccepted key (OrderHandler.trim req.orderId) tables tables' →
      AcceptOutcome key body tables ⟨⟨tables', tables', true⟩, [response]⟩

omit [DecidableEq κ] in
/-- An accept that matches a row. -/
theorem effect_acceptOrder {orderId : String} {n : ℕ} {ws : List (Write κ)}
    (h : (Statement.acceptOrder orderId).effect key tables = some (n, ws)) (hn : n ≠ 0) :
    ∃ row, tables.orders (key orderId) = some row ∧ row.orderStatus = 0 ∧
      ws = [.order (key orderId) { row with orderStatus := 1 }] := by
  simp only [Statement.effect] at h
  split at h
  · next row hrow =>
    split at h
    · next hwaiting =>
      cases h
      exact ⟨row, hrow, hwaiting, rfl⟩
    · cases h
      exact absurd rfl hn
  · cases h
    exact absurd rfl hn

/-- **How `handleOrderAccept` ends by itself.** -/
theorem handleOrderAccept_alone (body : Except String OrderAcceptReqDTO) :
    (orderAloneSpec key).interface.wp (OrderHandler.handleOrderAccept body)
      (fun _ c => AcceptOutcome key body tables c) (.fresh tables) := by
  cases body with
  | error what =>
    simp [OrderHandler.handleOrderAccept, orderAloneSpec, OrderState.fresh, Session.fresh,
      Session.setAutoCommit, Session.rollback]
    exact .refused rfl
  | ok req =>
    simp [OrderHandler.handleOrderAccept, orderAloneSpec, OrderState.fresh, Session.fresh,
      Session.setAutoCommit, Session.execute, Session.commit, Session.rollback, Query.mayThrow]
    refine ⟨fun _ => .refused rfl, fun _ => ⟨?_, fun what => .refused rfl⟩⟩
    rintro m c ws heffect rfl
    refine ⟨fun _ => .refused rfl, fun hm => ⟨?_, fun what => .refused rfl⟩⟩
    rintro n c ws' hsales rfl
    have haccepted : OrderAccepted key (OrderHandler.trim req.orderId) tables
        ((tables.writes ws).writes ws') := by
      obtain ⟨row, hrow, hwaiting, rfl⟩ := effect_acceptOrder heffect hm
      exact ⟨row, n, ws', hrow, hwaiting, hsales, rfl⟩
    refine ⟨?_, fun what => .refused rfl⟩
    rintro customerId c env - rfl
    exact ⟨fun _ => .accepted rfl rfl haccepted, fun _ => .accepted rfl rfl haccepted⟩

end Orders

section Grades

open AccountStatement

variable {κ : Type} [DecidableEq κ] {key : String → κ} {tables : AccountTables κ}

/-- Both rows have the grade, where they exist. -/
def GradeUpdated (key : String → κ) (grade userId : String) (tables tables' : AccountTables κ) :
    Prop :=
  ∃ id n ws id' n' ws', (setUserGrade grade userId).effect key tables id = some (n, ws) ∧
    (setCustomerGrade grade userId).effect key ((AccountTables.storage key).writes tables ws) id' =
      some (n', ws') ∧
    tables' = (AccountTables.storage key).writes ((AccountTables.storage key).writes tables ws) ws'

/-- How a grade update can end. -/
inductive GradeOutcome (key : String → κ) (body : Except Exn ReqGradeUpdateDTO)
    (tables : AccountTables κ) : DaoState (AccountTables κ) ResGradeUpdateDTO → Prop
  | refused {response : ResGradeUpdateDTO} {id : ℤ} : response.status = 500 →
      GradeOutcome key body tables ⟨⟨tables, tables, true⟩, id, [response]⟩
  | updated {req : ReqGradeUpdateDTO} {response : ResGradeUpdateDTO} {id : ℤ}
      {tables' : AccountTables κ} :
      response.status = 200 → body = .ok req →
      GradeUpdated key (UserHandler.targetGrade req.action) req.userId tables tables' →
      GradeOutcome key body tables ⟨⟨tables', tables', true⟩, id, [response]⟩

/-- **How `handleGradeUpdate` ends by itself.** -/
theorem handleGradeUpdate_alone (body : Except Exn ReqGradeUpdateDTO) :
    (accountSchema key).alone.wp (UserHandler.handleGradeUpdate body)
      (fun _ c => GradeOutcome key body tables c) (.fresh tables) := by
  cases body with
  | error e =>
    simp [UserHandler.handleGradeUpdate, DaoSchema.aloneSpec, DaoState.fresh, Session.fresh,
      Session.setAutoCommit, Session.rollback]
    exact .refused rfl
  | ok req =>
    simp [UserHandler.handleGradeUpdate, DaoSchema.aloneSpec, DaoState.fresh, Session.fresh,
      Session.setAutoCommit, Session.execute, Session.commit, Session.rollback,
      DaoSchema.executed]
    refine ⟨fun _ => .refused rfl, fun _ => ⟨?_, .refused rfl⟩⟩
    rintro n c id ws heffect rfl
    refine ⟨?_, .refused rfl⟩
    rintro n' c id' ws' heffect' rfl
    exact ⟨.updated rfl rfl ⟨id, n, ws, id', n', ws', heffect, heffect', rfl⟩, .refused rfl⟩

end Grades

/-! ### The three handlers -/

/-- A request to one of the three handlers, with its parsed body. -/
inductive TransactionalRequest
  | orderAccept (body : Except String OrderAcceptReqDTO)
  | createOrder (body : Except String OrderCreateReqDTO)
  | gradeUpdate (body : Except Exn ReqGradeUpdateDTO)

/-- What the requester and the database have seen of a call: for each reply whether it reports
success, and whether the rows of the transaction are committed, or the tables as they were. -/
structure Verdict where
  replies : List Bool
  committed : Prop
  unchanged : Prop

/-- One reply, and what it says is so. -/
def Verdict.Truthful (v : Verdict) : Prop :=
  ∃ success, v.replies = [success] ∧ if success then v.committed else v.unchanged

variable {κ : Type} [DecidableEq κ]

/-- The call runs by itself from its first operation to its end, and `failed` says whether
`getOwnerIdByStoreId` has thrown in a `handleCreateOrder`. -/
inductive Handled (key : String → κ) : TransactionalRequest → Verdict → Bool → Prop
  | orderAccept {body : Except String OrderAcceptReqDTO} {es : List Env} {tables : Tables κ}
      {r : Except String Unit} {w : World Unit κ} :
      (OrderHandler.handleOrderAccept body).run (exec key ()) es (.init tables) = some (r, w) →
      Handled key (.orderAccept body)
        { replies := w.sent.map fun reply => reply.2.status = 200
          committed := ∃ req, body = .ok req ∧
            OrderAccepted key (OrderHandler.trim req.orderId) tables w.db.tables
          unchanged := w.db.tables = tables }
        false
  | createOrder {body : Except String OrderCreateReqDTO} {es : List Env} {tables : Tables κ}
      {r : Except String Unit} {w : World Unit κ} :
      (OrderHandler.handleCreateOrder body).run (exec key ()) es (.init tables) = some (r, w) →
      Handled key (.createOrder body)
        { replies := w.sent.map fun reply => reply.2.status = 0
          committed := ∃ req orderId details, body = .ok req ∧
            Created key req orderId details tables w.db.tables
          unchanged := w.db.tables = tables }
        ((OrderHandler.handleCreateOrder body).saw (exec key ()) (noted (noteLate false true)) es
          (.init tables))
  | gradeUpdate {body : Except Exn ReqGradeUpdateDTO} {es : List DaoEnv}
      {tables : AccountTables κ} {r : Except Exn Unit}
      {w : DaoWorld Unit (AccountTables κ) (AccountWrite κ) (AccountRow κ) ResGradeUpdateDTO} :
      (UserHandler.handleGradeUpdate body).run ((accountSchema key).exec ()) es (.init tables) =
        some (r, w) →
      Handled key (.gradeUpdate body)
        { replies := w.sent.map fun reply => reply.2.status = 200
          committed := ∃ req, body = .ok req ∧
            GradeUpdated key (UserHandler.targetGrade req.action) req.userId tables
              w.server.tables
          unchanged := w.server.tables = tables }
        false

/-- **Transactional replies, exactly.** A call tells the truth if and only if it is not a
`handleCreateOrder` whose lookup of the store's owner has thrown. -/
theorem truthful_iff {key : String → κ} {q : TransactionalRequest} {v : Verdict} {failed : Bool}
    (h : Handled key q v failed) : v.Truthful ↔ failed = false := by
  cases h with
  | @orderAccept body es tables r w hr =>
    obtain ⟨c, hsees, houtcome⟩ := OrderState.run_alone (handleOrderAccept_alone body) hr
    refine iff_of_true ?_ rfl
    cases houtcome with
    | refused hstatus =>
      refine ⟨false, ?_, hsees.committed⟩
      simp [hsees.sent, hstatus]
    | @accepted req response tables' hstatus hbody haccepted =>
      have htables : w.db.tables = tables' := hsees.committed
      refine ⟨true, ?_, req, hbody, htables ▸ haccepted⟩
      simp [hsees.sent, hstatus]
  | @createOrder body es tables r w hr =>
    obtain ⟨c, hsees, houtcome⟩ := OrderState.run_alone_watch _ (handleCreateOrder_alone body) hr
    generalize (OrderHandler.handleCreateOrder body).saw _ _ _ _ = failed at houtcome ⊢
    cases houtcome with
    | refused =>
      refine iff_of_true ⟨false, ?_, hsees.committed⟩ rfl
      simp [hsees.sent, OrderHandler.notCreated]
    | @created req orderId details tables' hbody hcreated =>
      have htables : w.db.tables = tables' := hsees.committed
      refine iff_of_true ⟨true, ?_, req, orderId, details, hbody, htables ▸ hcreated⟩ rfl
      simp [hsees.sent, OrderHandler.created]
    | contradicted hbody hcreated =>
      refine iff_of_false ?_ Bool.noConfusion
      rintro ⟨success, hreplies, -⟩
      simp [hsees.sent] at hreplies
  | @gradeUpdate body es tables r w hr =>
    obtain ⟨c, hsees, houtcome⟩ := (accountSchema key).run_alone (handleGradeUpdate_alone body) hr
    refine iff_of_true ?_ rfl
    cases houtcome with
    | refused hstatus =>
      refine ⟨false, ?_, hsees.session.committed⟩
      simp [hsees.sent, hstatus]
    | @updated req response id tables' hstatus hbody hupdated =>
      have htables : w.server.tables = tables' := hsees.session.committed
      refine ⟨true, ?_, req, hbody, htables ▸ hupdated⟩
      simp [hsees.sent, hstatus]

/-- An order without items. -/
def emptyOrder : Except String OrderCreateReqDTO :=
  .ok ⟨"hong", 1, 3000, "Seoul", [], "", ""⟩

/-- The lookup of the owner fails after the commit. -/
def ownerGone : List Env :=
  [.ok, .ok, .time ⟨"20260102000000", "2026-01-02 00:00:00", by decide⟩, .number 7, .ok, .ok, .ok,
   .ok, .ok, .ok, .fault "gone", .ok, .ok, .ok]

/-- What comes of it. -/
theorem handled_ownerGone : ∃ v, Handled (id : String → String) (.createOrder emptyOrder) v true ∧
    v.replies = [true, false] :=
  ⟨_, @Handled.createOrder _ _ id emptyOrder ownerGone ⟨fun _ => none, fun _ => none, []⟩ _ _ rfl,
    rfl⟩

theorem truthful_iff_ownerGone :
    ∃ v, Handled (id : String → String) (.createOrder emptyOrder) v true ∧
      (v.Truthful ↔ true = false) := by
  obtain ⟨v, hhandled, -⟩ := handled_ownerGone
  exact ⟨v, hhandled, truthful_iff hhandled⟩

/-- The requester is told that the order has been created and that it has not. -/
theorem handleCreateOrder_not_truthful :
    ¬∀ (q : TransactionalRequest) (v : Verdict) (failed : Bool),
      Handled (id : String → String) q v failed → v.Truthful := by
  intro h
  obtain ⟨v, hhandled, hreplies⟩ := handled_ownerGone
  obtain ⟨success, hone, -⟩ := h _ v true hhandled
  rw [hreplies] at hone
  cases hone

end ItsBedalyo
