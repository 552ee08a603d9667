import ItsBedalyo.Handler.OrderAlone
import ItsBedalyo.Handler.OrderHandler

/-!
# What `handleCreateOrder` does by itself

A `handleCreateOrder` that nobody disturbs ends in one of three ways (`CreateOutcome`): it has
changed nothing and answered with a failure, it has committed the order with one row of
`ORDER_DETAILS` for each item and answered with success, or it has committed, answered with
success and then, because `getOwnerIdByStoreId` has thrown, with a failure as well.
-/

namespace ItsBedalyo

open RowLocking Interface

/-- The row of `ORDERS` for a request. -/
def OrderCreateReqDTO.row (req : OrderCreateReqDTO) : OrderRow :=
  ⟨req.userId, req.storeId, req.totalPrice, 0, req.deliveryAddress, req.storeRequest,
   req.riderRequest⟩

/-- A row of `ORDER_DETAILS` is that of an item. -/
structure OrderItemDTO.StoredAs (orderId : String) (item : OrderItemDTO) (row : DetailRow) :
    Prop where
  orderId : row.orderId = orderId
  menuId : row.menuId = item.menuId
  quantity : row.quantity = item.quantity
  price : row.price = item.unitPrice

/-- The order has been stored with its items. -/
structure Created {κ : Type*} [DecidableEq κ] (key : String → κ) (req : OrderCreateReqDTO)
    (orderId : String) (details : List DetailRow) (tables tables' : Tables κ) : Prop where
  named : orderId ≠ ""
  missing : tables.orders (key orderId) = none
  stored : List.Forall₂ (OrderItemDTO.StoredAs orderId) req.items details
  tables : tables' = tables.writes (.order (key orderId) req.row :: details.map .detail)

namespace OrderHandler

/-- The answer to a request whose order has been stored. -/
def created (orderId : String) : Response :=
  { cmdId := CmdID.RES_ORDER_CREATE, status := 0, message := "주문이 성공적으로 생성되었습니다.",
    orderId := orderId }

/-- The answer to a request that has failed. -/
def notCreated (what : String) : Response :=
  { cmdId := CmdID.RES_ORDER_CREATE, status := 1, message := what, orderId := "" }

end OrderHandler

open OrderHandler

section

variable {κ : Type*} [DecidableEq κ] {key : String → κ}

/-- Selects a commit that returns, if `commit`, and a lookup of the owner that throws, if
`owner`. -/
def noteLate (commit owner : Bool) : Op → Bool → Bool
  | .commit, true => commit
  | .query (.getOwnerIdByStoreId _), false => owner
  | _, _ => false

/-- How a call can end, and whether one of the selected answers has been seen. -/
inductive CreateOutcome (key : String → κ) (commit owner : Bool)
    (body : Except String OrderCreateReqDTO) (tables : Tables κ) : OrderState κ → Bool → Prop
  | refused {what : String} :
      CreateOutcome key commit owner body tables ⟨⟨tables, tables, true⟩, [notCreated what]⟩ false
  | created {req : OrderCreateReqDTO} {orderId : String} {details : List DetailRow}
      {tables' : Tables κ} :
      body = .ok req → Created key req orderId details tables tables' →
      CreateOutcome key commit owner body tables ⟨⟨tables', tables', true⟩, [created orderId]⟩
        commit
  | contradicted {req : OrderCreateReqDTO} {orderId what : String} {details : List DetailRow}
      {tables' : Tables κ} :
      body = .ok req → Created key req orderId details tables tables' →
      CreateOutcome key commit owner body tables
        ⟨⟨tables', tables', true⟩, [created orderId, notCreated what]⟩ (commit || owner)

/-- A handler alone, with the flag for the selected answers. -/
abbrev lateAlone (key : String → κ) (commit owner : Bool) :
    Interface Op.Res String (OrderState κ × Bool) :=
  ((orderAloneSpec key).watch (noteLate commit owner)).interface

variable {commit owner : Bool} {tables working : Tables κ} {sent : List Response} {b : Bool}

/-- Looking up option names never throws. -/
theorem optionNames_alone (menuId : ℤ) (opts : List (Option ℤ)) {c : OrderState κ}
    {Q : Except String (List String) → OrderState κ × Bool → Prop}
    (h : ∀ names, Q (.ok names) (c, b)) :
    (lateAlone key commit owner).wp (optionNames menuId opts) Q (c, b) := by
  induction opts generalizing Q with
  | nil => exact h _
  | cons opt opts ih =>
    cases opt with
    | none => exact ih h
    | some optId =>
      simp only [optionNames, wp_bind, HandlerSpec.wp_getOptionName]
      refine ⟨trivial, ?_, ?_⟩
      · rintro name g ⟨c', ⟨-, rfl⟩, rfl⟩
        simp only [noteLate, Bool.or_false]
        exact ih fun names => h _
      · rintro what g ⟨c', ⟨hthrow, -⟩, -⟩
        cases hthrow

/-- The loop over the items adds a row for each of them to the transaction. -/
theorem insertItems_alone (orderId : String) (items : List OrderItemDTO)
    {Q : Except String (List PushItem) → OrderState κ × Bool → Prop}
    (hok : ∀ pushItems details, List.Forall₂ (OrderItemDTO.StoredAs orderId) items details →
      Q (.ok pushItems) (⟨⟨tables, working.writes (details.map .detail), false⟩, sent⟩, b))
    (herror : ∀ what working, Q (.error what) (⟨⟨tables, working, false⟩, sent⟩, b)) :
    (lateAlone key commit owner).wp (insertItems orderId items) Q
      (⟨⟨tables, working, false⟩, sent⟩, b) := by
  induction items generalizing working Q with
  | nil => exact hok [] [] .nil
  | cons item items ih =>
    simp only [insertItems, wp_bind, HandlerSpec.wp_getMenuName]
    refine ⟨trivial, ?_, ?_⟩
    · rintro name g ⟨c', ⟨-, rfl⟩, rfl⟩
      simp only [noteLate, Bool.or_false]
      refine optionNames_alone _ _ fun options => ?_
      simp only [HandlerSpec.wp_executeUpdate]
      refine ⟨trivial, ?_, ?_⟩
      · rintro n g ⟨c', ⟨ws, heffect, rfl⟩, rfl⟩
        cases heffect
        simp only [noteLate, Bool.or_false]
        refine ih (fun pushItems details hdetails => ?_) fun what working => herror what working
        exact hok _ (_ :: details) (.cons ⟨rfl, rfl, rfl, rfl⟩ hdetails)
      · rintro what g ⟨c', rfl | rfl, rfl⟩
        · simp only [noteLate, Bool.or_false]
          exact herror _ _
        · simp only [noteLate, Bool.or_false]
          exact herror _ _
    · rintro what g ⟨c', ⟨hthrow, -⟩, -⟩
      cases hthrow

/-- The inserts of a transaction store the order. -/
theorem created_of_effect {req : OrderCreateReqDTO} {orderId : String} {n : ℕ}
    {ws : List (Write κ)} {details : List DetailRow} (hnamed : orderId ≠ "")
    (heffect : (Statement.insertOrder orderId req.row).effect key tables = some (n, ws))
    (hdetails : List.Forall₂ (OrderItemDTO.StoredAs orderId) req.items details) :
    Created key req orderId details tables ((tables.writes ws).writes (details.map .detail)) := by
  simp only [Statement.effect] at heffect
  split at heffect
  · cases heffect
  · next hmissing =>
    cases heffect
    exact ⟨hnamed, hmissing, hdetails, rfl⟩

/-- **How `handleCreateOrder` ends by itself.** -/
theorem handleCreateOrder_alone (body : Except String OrderCreateReqDTO) :
    (lateAlone key commit owner).wp (handleCreateOrder body)
      (fun _ g => CreateOutcome key commit owner body tables g.1 g.2) (.fresh tables, false) := by
  cases body with
  | error what =>
    simp [handleCreateOrder, HandlerSpec.watch, orderAloneSpec, OrderState.fresh, noteLate,
      Session.fresh, Session.setAutoCommit, Session.rollback]
    exact .refused
  | ok req =>
    simp [handleCreateOrder, HandlerSpec.watch, orderAloneSpec, OrderState.fresh, noteLate,
      Session.fresh, Session.setAutoCommit, Session.execute, Session.commit, Session.rollback,
      Query.mayThrow]
    rintro fee c env - rfl now n
    refine ⟨?_, fun what => .refused⟩
    rintro m c' ws heffect rfl
    refine ⟨insertItems_alone _ _ ?_ fun what working => .refused, fun what => .refused⟩
    intro pushItems details hdetails
    have hcreated := created_of_effect (by simp) heffect hdetails
    refine ⟨⟨fun ownerId c => ⟨?_, ?_⟩, fun what => .contradicted rfl hcreated⟩,
      fun what => .refused⟩
    · rintro env - rfl - rfl
      exact ⟨fun _ => .created rfl hcreated, fun _ => .created rfl hcreated⟩
    · rintro env - rfl (hnew | rfl)
      · cases hnew
      · exact ⟨fun _ => .created rfl hcreated, fun _ => .created rfl hcreated⟩

end

end ItsBedalyo
