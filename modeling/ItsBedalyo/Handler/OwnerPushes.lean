import ItsBedalyo.Handler.OrderCreation
import ItsBedalyo.Handler.OrderIds

/-!
# The push to the owner

`handleCreateOrder` tells the owner what it has just stored: the push is built from the request and
from the names that went into the rows (`Announced`). It comes last, after the commit, so that
whatever has been pushed is stored.
-/

namespace ItsBedalyo

open RowLocking Interface OrderHandler

/-- The row of `ORDER_DETAILS` for an item of the push. -/
def PushItem.row (orderId : String) (item : PushItem) : DetailRow :=
  ⟨orderId, item.menuId, item.menuName, item.quantity, item.unitPrice, item.options⟩

/-- What a call pushes. -/
def Op.pushes : Op → List (String × Notice)
  | .sendToUser userId notice => [(userId, notice)]
  | _ => []

/-- A push, with the tables before the call and after it. -/
inductive Announced {κ : Type*} [DecidableEq κ] (key : String → κ) (req : OrderCreateReqDTO)
    (tables tables' : Tables κ) : Notice → Prop
  | intro {now : LocalTime} {n : ℕ} {items : List PushItem} :
      tables.orders (key (newOrderId now n req.userId)) = none →
      (∀ item ∈ items, '\x00' ∉ item.menuName.toList) →
      tables' = tables.writes (.order (key (newOrderId now n req.userId)) req.row ::
        (items.map (PushItem.row (newOrderId now n req.userId))).map .detail) →
      Announced key req tables tables' (.newOrder (newOrderId now n req.userId)
        req.deliveryAddress req.totalPrice 0 now.display req.storeRequest req.riderRequest
        (menuSummary items) items)

/-- The order that a push is about. -/
def Notice.orderId : Notice → String
  | .orderState orderId .. | .newOrder orderId .. => orderId

/-- The items that a push lists. -/
def Notice.items : Notice → List PushItem
  | .newOrder _ _ _ _ _ _ _ _ items => items
  | .orderState .. => []

namespace OwnerPushes

/-! ### Texts without NUL -/

theorem nul_not_mem_cStr (s : String) : '\x00' ∉ (cStr s).toList := by
  rw [cStr, String.toList_ofList]
  intro hmem
  exact of_decide_eq_true (List.mem_takeWhile_imp (p := fun c => decide (c ≠ '\x00')) hmem) rfl

/-- A number has no NUL. -/
theorem nul_not_mem_toString (n : ℤ) : '\x00' ∉ (toString n).toList := by
  intro hmem
  exact absurd (Decimal.isDigit_of_mem_toString hmem (by decide)) (by decide)

/-- An id has one where the user's id has. -/
theorem nul_mem_newOrderId {now : LocalTime} {n : ℕ} {userId : String} :
    '\x00' ∈ (newOrderId now n userId).toList ↔ '\x00' ∈ userId.toList := by
  have hnow : '\x00' ∉ now.compact.toList := fun hmem =>
    absurd (List.all_eq_true.mp now.digits _ hmem) (by decide)
  have hrandom : '\x00' ∉ Decimal.padded 3 (n % 1000) := fun hmem =>
    absurd (Decimal.isDigit_of_mem_padded hmem) (by decide)
  rw [toList_newOrderId]
  simp [hnow, hrandom]

/-- Nor has the name of a menu. -/
theorem nul_not_mem_of_answer {κ : Type*} {key : String → κ} {tables : Tables κ} {menuId : ℤ}
    {e : Env} {name : String} (h : (Query.getMenuName menuId).answer key tables e =
      some (.ok name)) : '\x00' ∉ name.toList := by
  cases e with
  | text s =>
    cases h
    exact nul_not_mem_cStr s
  | fault what =>
    cases h
    exact List.not_mem_nil
  | ok | deadlock | time | number => cases h

/-- Nor the one that stands in for it. -/
theorem nul_not_mem_menuName {name : String} (h : '\x00' ∉ name.toList) (menuId : ℤ) :
    '\x00' ∉ (if name = "" then "메뉴 #" ++ toString menuId else name).toList := by
  split
  · rw [String.toList_append, List.mem_append, not_or]
    exact ⟨by decide, nul_not_mem_toString menuId⟩
  · exact h

/-! ### What is pushed has been stored -/

section Alone

variable {κ : Type*} [DecidableEq κ] (key : String → κ)

/-- A handler alone, with what it has pushed. -/
def pushSpec : HandlerSpec (OrderState κ × List (String × Notice)) where
  pre g o := (orderAloneSpec key).pre g.1 o
  returns g o a g' := ∃ c, (orderAloneSpec key).returns g.1 o a c ∧ g' = (c, g.2 ++ o.pushes)
  throws g o g' := ∃ c, (orderAloneSpec key).throws g.1 o c ∧ g' = (c, g.2)

variable {key} {tables working : Tables κ} {sent : List Response}
  {pushed : List (String × Notice)}

section Rules

variable {g g' : OrderState κ × List (String × Notice)} {o : Op}

@[simp] theorem pushSpec_pre : (pushSpec key).pre g o ↔ True := Iff.rfl

@[simp] theorem pushSpec_returns {a : o.Res} : (pushSpec key).returns g o a g' ↔
    ∃ c, (orderAloneSpec key).returns g.1 o a c ∧ g' = (c, g.2 ++ o.pushes) := Iff.rfl

@[simp] theorem pushSpec_throws : (pushSpec key).throws g o g' ↔
    ∃ c, (orderAloneSpec key).throws g.1 o c ∧ g' = (c, g.2) := Iff.rfl

end Rules

/-- Looking up option names changes nothing. -/
theorem wp_optionNames (menuId : ℤ) (opts : List (Option ℤ)) {c : OrderState κ}
    {Q : Except String (List String) → OrderState κ × List (String × Notice) → Prop}
    (h : ∀ names, Q (.ok names) (c, pushed)) :
    (pushSpec key).interface.wp (optionNames menuId opts) Q (c, pushed) := by
  induction opts generalizing Q with
  | nil => exact h _
  | cons opt opts ih =>
    cases opt with
    | none => exact ih h
    | some optId =>
      simp only [optionNames, wp_bind, HandlerSpec.wp_getOptionName]
      refine ⟨trivial, ?_, ?_⟩
      · rintro name g ⟨c', ⟨-, rfl⟩, rfl⟩
        simp only [Op.pushes, List.append_nil]
        exact ih fun names => h _
      · rintro what g ⟨c', ⟨hthrow, -⟩, -⟩
        cases hthrow

/-- The loop over the items adds the row of each item of the push to the transaction. -/
theorem wp_insertItems (orderId : String) (items : List OrderItemDTO)
    {Q : Except String (List PushItem) → OrderState κ × List (String × Notice) → Prop}
    (hok : ∀ pushItems, (∀ item ∈ pushItems, '\x00' ∉ item.menuName.toList) →
      Q (.ok pushItems) (⟨⟨tables,
        working.writes ((pushItems.map (PushItem.row orderId)).map .detail), false⟩, sent⟩, pushed))
    (herror : ∀ what working, Q (.error what) (⟨⟨tables, working, false⟩, sent⟩, pushed)) :
    (pushSpec key).interface.wp (insertItems orderId items) Q
      (⟨⟨tables, working, false⟩, sent⟩, pushed) := by
  induction items generalizing working Q with
  | nil => exact hok [] fun _ hmem => absurd hmem List.not_mem_nil
  | cons item items ih =>
    simp only [insertItems, wp_bind, HandlerSpec.wp_getMenuName]
    refine ⟨trivial, ?_, ?_⟩
    · rintro name g ⟨c', ⟨⟨e, hanswer⟩, rfl⟩, rfl⟩
      simp only [Op.pushes, List.append_nil]
      refine wp_optionNames _ _ fun options => ?_
      simp only [HandlerSpec.wp_executeUpdate]
      refine ⟨trivial, ?_, ?_⟩
      · rintro n g ⟨c', ⟨ws, heffect, rfl⟩, rfl⟩
        cases heffect
        simp only [Op.pushes, List.append_nil]
        refine ih (fun pushItems hnames => ?_) fun what working => herror what working
        refine hok (_ :: pushItems) fun item' hmem => ?_
        rcases List.mem_cons.mp hmem with rfl | hmem
        · exact nul_not_mem_menuName (nul_not_mem_of_answer hanswer) item.menuId
        · exact hnames item' hmem
      · rintro what g ⟨c', rfl | rfl, rfl⟩
        · exact herror _ _
        · exact herror _ _
    · rintro what g ⟨c', ⟨hthrow, -⟩, -⟩
      cases hthrow

/-- The inserts of a transaction store what the push announces. -/
theorem announced_of_effect {req : OrderCreateReqDTO} {now : LocalTime} {n m : ℕ}
    {ws : List (Write κ)} {items : List PushItem}
    (heffect : (Statement.insertOrder (newOrderId now n req.userId) req.row).effect key tables =
      some (m, ws)) (hnames : ∀ item ∈ items, '\x00' ∉ item.menuName.toList) :
    Announced key req tables ((tables.writes ws).writes
      ((items.map (PushItem.row (newOrderId now n req.userId))).map .detail))
      (.newOrder (newOrderId now n req.userId) req.deliveryAddress req.totalPrice 0 now.display
        req.storeRequest req.riderRequest (menuSummary items) items) := by
  simp only [Statement.effect] at heffect
  split at heffect
  · cases heffect
  · next hmissing =>
    cases heffect
    exact .intro hmissing hnames rfl

/-- **What `handleCreateOrder` pushes by itself.** -/
theorem wp_handleCreateOrder (req : OrderCreateReqDTO) :
    (pushSpec key).interface.wp (handleCreateOrder (.ok req))
      (fun _ g => ∀ entry ∈ g.2, Announced key req tables g.1.session.committed entry.2)
      (.fresh tables, []) := by
  simp [handleCreateOrder, orderAloneSpec, OrderState.fresh, Op.pushes,
    Session.fresh, Session.setAutoCommit, Session.execute, Session.commit, Session.rollback,
    Query.mayThrow]
  have hnone {tables' : Tables κ} (ownerId : String) (notice : Notice)
      (hmem : (ownerId, notice) ∈ ([] : List (String × Notice))) :
      Announced key req tables tables' notice := absurd hmem List.not_mem_nil
  rintro fee c pushed env - rfl rfl now n
  refine ⟨?_, hnone⟩
  rintro m c' pushed' ws heffect rfl rfl
  refine ⟨wp_insertItems _ _ (fun items hnames => ?_) fun what working => hnone, hnone⟩
  have hannounced := announced_of_effect heffect hnames
  refine ⟨⟨?_, hnone⟩, hnone⟩
  rintro ownerId c pushed env - rfl rfl
  refine ⟨fun _ userId notice hmem => ?_, fun _ => hnone⟩
  rcases hmem with hmem | ⟨-, rfl⟩
  · exact hnone userId notice hmem
  · exact hannounced

/-! ### A run by itself -/

/-- A call pushes when it returns. -/
theorem pushed_exec {w w' : World Unit κ} {o : Op} {e : Env} {r : Except String o.Res}
    (he : exec key () o e w = some (r, w')) :
    w'.pushed = w.pushed ++ if r.isOk then o.pushes else [] := by
  have hnone (b : Bool) (hpushes : o.pushes = []) :
      w.pushed = w.pushed ++ if b then o.pushes else [] := by
    rw [hpushes, ite_self, List.append_nil]
  cases o with
  | executeUpdate stmt =>
    cases e with
    | ok =>
      obtain ⟨⟨n, db⟩, -, heq⟩ := Option.map_eq_some_iff.mp he
      cases heq
      exact hnone _ rfl
    | fault | deadlock =>
      cases he
      exact hnone _ rfl
    | text | time | number => cases he
  | query q =>
    obtain ⟨x, -, heq⟩ := Option.map_eq_some_iff.mp he
    cases heq
    exact hnone _ rfl
  | sendToUser userId notice =>
    cases e <;> cases he
    rfl
  | setAutoCommit | prepareStatement | commit | rollback | localtime | rand | sendPacket =>
    cases e <;> cases he
    all_goals exact hnone _ rfl

/-- **A handler alone**, with what it has pushed. -/
theorem run_alone_pushed {α : Type} {p : Handler α} {es : List Env} {r : Except String α}
    {w : World Unit κ} {Q : Except String α → OrderState κ × List (String × Notice) → Prop}
    (h : (pushSpec key).interface.wp p Q (.fresh tables, []))
    (hr : p.run (exec key ()) es (.init tables) = some (r, w)) :
    ∃ c, OrderState.Sees w c ∧ Q r (c, w.pushed) := by
  refine run_wp (Q := fun r w => ∃ c, OrderState.Sees w c ∧ Q r (c, w.pushed)) ?_ hr
  have hwp : (ofExec (exec key ())).wp p (fun r w => ∃ g : OrderState κ × List (String × Notice),
      (OrderState.Sees w g.1 ∧ w.pushed = g.2) ∧ Q r g) (.init tables) := by
    refine wp_simulate (R := fun (w : World Unit κ) (g : OrderState κ × List (String × Notice)) =>
      OrderState.Sees w g.1 ∧ w.pushed = g.2) (fun _ _ _ _ _ => trivial) ?_
      ⟨OrderState.sees_init tables, rfl⟩ h
    rintro w ⟨c, pushed⟩ o r w' ⟨hsees, rfl⟩ ⟨e, he⟩
    obtain ⟨c', hpost, hsees'⟩ := hsees.exec he
    have hpushed := pushed_exec he
    cases r with
    | ok a => exact ⟨(c', w.pushed ++ o.pushes), ⟨c', hpost, rfl⟩, hsees', hpushed⟩
    | error what =>
      exact ⟨(c', w.pushed), ⟨c', hpost, rfl⟩, hsees', hpushed.trans (List.append_nil _)⟩
  refine wp_mono ?_ hwp
  rintro r w ⟨⟨c, pushed⟩, ⟨hsees, rfl⟩, hQ⟩
  exact ⟨c, hsees, hQ⟩

/-- **What `handleCreateOrder` has pushed, it has stored.** -/
theorem announced_of_run {req : OrderCreateReqDTO} {es : List Env} {r : Except String Unit}
    {w : World Unit κ} {ownerId : String} {notice : Notice}
    (hr : (handleCreateOrder (.ok req)).run (exec key ()) es (.init tables) = some (r, w))
    (hpushed : (ownerId, notice) ∈ w.pushed) : Announced key req tables w.db.tables notice := by
  obtain ⟨c, hsees, hannounced⟩ := run_alone_pushed (wp_handleCreateOrder req) hr
  rw [hsees.committed]
  exact hannounced _ hpushed

end Alone

end OwnerPushes

end ItsBedalyo
