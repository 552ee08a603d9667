import ItsBedalyo.Handler.OrderEffects

/-!
# The life cycle of an order

The schema numbers an order's life: 0 waiting, 1 accepted, 2 cooking, 3 delivering, 4 done, and
9 cancelled. `handleCreateOrder` and `handleOrderAccept` respect it under any interleaving; the
other handlers set their status whatever the order's status is. `lifeCycle_iff_guarded` says
exactly when a run respects it: each status update that is executed has found its order where
`MayUpdate` allows it.
-/

namespace ItsBedalyo

open Transition OrderSystem

/-! ### Statuses -/

/-- The status codes of the schema. -/
def statusCodes : List ℤ := [0, 1, 2, 3, 4, 9]

/-- A status stays as it is, goes forward along 0 < 1 < 2 < 3 < 4, or goes from an unfinished
status to 9. -/
def Forward (a b : ℤ) : Prop :=
  a = b ∨ (0 ≤ a ∧ a < b ∧ b ≤ 4) ∨ (0 ≤ a ∧ a < 4 ∧ b = 9)

instance (a b : ℤ) : Decidable (Forward a b) :=
  inferInstanceAs (Decidable (a = b ∨ (0 ≤ a ∧ a < b ∧ b ≤ 4) ∨ (0 ≤ a ∧ a < 4 ∧ b = 9)))

theorem Forward.refl (a : ℤ) : Forward a a := .inl rfl

theorem Forward.trans {a b c : ℤ} (h : Forward a b) (h' : Forward b c) : Forward a c := by
  unfold Forward at *
  omega

/-- A finished order stays finished. -/
theorem Forward.eq_of_finished {a b : ℤ} (h : Forward a b) (ha : a = 4 ∨ a = 9) : b = a := by
  unfold Forward at h
  omega

/-- Going forward leads from codes to codes. -/
theorem Forward.mem_statusCodes {a b : ℤ} (h : Forward a b) (ha : a ∈ statusCodes) :
    b ∈ statusCodes := by
  simp only [statusCodes, List.mem_cons, List.not_mem_nil, or_false] at ha ⊢
  unfold Forward at h
  omega

/-- The statuses at which a request's update respects the life cycle. -/
def MayUpdate : OrderRequest → ℤ → Prop
  | .changeOrderState (.ok req), status =>
    status = req.newState ∨ (status < req.newState ∧ req.newState ≤ 4) ∨
      (status < 4 ∧ req.newState = 9)
  | .pickup _, status => status ≤ 2
  | .deliveryComplete _, status => status ≤ 3
  | .orderReject _, status => status ≠ 4
  | .cancel _, status => status ≠ 4
  | _, _ => True

/-- What `MayUpdate` allows is what the life cycle allows. -/
theorem mayUpdate_iff_forward {q : OrderRequest} {orderId : String} {n status : ℤ}
    (hq : q.statusUpdate = some (orderId, n)) (hstatus : status ∈ statusCodes) :
    MayUpdate q status ↔ Forward status n := by
  simp only [statusCodes, List.mem_cons, List.not_mem_nil, or_false] at hstatus
  unfold Forward
  cases q with
  | createOrder | orderAccept => cases hq
  | changeOrderState body | pickup body | deliveryComplete body | orderReject body
  | cancel body =>
    cases body with
    | error => cases hq
    | ok req =>
      obtain ⟨-, rfl⟩ := Prod.mk.inj (Option.some.inj hq)
      simp only [MayUpdate, and_true]
      omega

variable {τ κ : Type*}

/-- Every order has a status of the schema. -/
def ValidOrders (tables : Tables κ) : Prop :=
  ∀ k row, tables.orders k = some row → row.orderStatus ∈ statusCodes

/-- Every order is still there, and its status has only gone forward. -/
def OrdersForward (tables tables' : Tables κ) : Prop :=
  ∀ k row, tables.orders k = some row →
    ∃ row', tables'.orders k = some row' ∧ Forward row.orderStatus row'.orderStatus

theorem OrdersForward.refl (tables : Tables κ) : OrdersForward tables tables :=
  fun _ row hrow => ⟨row, hrow, .refl _⟩

theorem OrdersForward.trans {tables₁ tables₂ tables₃ : Tables κ}
    (h : OrdersForward tables₁ tables₂) (h' : OrdersForward tables₂ tables₃) :
    OrdersForward tables₁ tables₃ := by
  intro k row hrow
  obtain ⟨row', hrow', hf⟩ := h k row hrow
  obtain ⟨row'', hrow'', hf'⟩ := h' k row' hrow'
  exact ⟨row'', hrow'', hf.trans hf'⟩

/-- Writing one order moves it forward and leaves the others. -/
theorem ordersForward_update [DecidableEq κ] {tables tables' : Tables κ} {k : κ}
    {row row' : OrderRow} (hrow : tables.orders k = some row)
    (htables : tables'.orders = Function.update tables.orders k (some row')) :
    OrdersForward tables tables' ↔ Forward row.orderStatus row'.orderStatus := by
  constructor
  · intro h
    obtain ⟨row₁, hrow₁, hf⟩ := h k row hrow
    rw [htables, Function.update_self] at hrow₁
    obtain rfl := Option.some.inj hrow₁
    exact hf
  · intro hf k₁ row₁ hrow₁
    rw [htables]
    rcases eq_or_ne k₁ k with rfl | hk
    · obtain rfl := Option.some.inj (hrow₁.symm.trans hrow)
      exact ⟨row', Function.update_self _ _ _, hf⟩
    · exact ⟨row₁, (Function.update_of_ne hk _ _).trans hrow₁, .refl _⟩

/-! ### Runs -/

variable [DecidableEq τ] [DecidableEq κ] {key : String → κ} {request : τ → OrderRequest}
  {s s' : OrderSystem τ κ} {tables : Tables κ} {l : List (τ × Env)}

/-- A run that respects the life cycle: in all its states the statuses are codes of the schema,
and each of its steps only takes orders forward. -/
def LifeCycle (key : String → κ) (s : OrderSystem τ κ) (l : List (τ × Env)) : Prop :=
  Always (step key) (fun s => ValidOrders s.world.db.tables) s l ∧
    Along (step key)
      (fun s a => ∀ s', step key s a = some s' →
        OrdersForward s.world.db.tables s'.world.db.tables) s l

/-- A status update that is executed finds its order where it may be updated. -/
def Guarded (key : String → κ) (request : τ → OrderRequest) (s : OrderSystem τ κ)
    (a : τ × Env) : Prop :=
  ∀ orderId n k, s.todo a.1 = .call (.executeUpdate (.setOrderStatus orderId n)) k → a.2 = .ok →
    ∀ row, s.world.db.tables.orders (key orderId) = some row →
      MayUpdate (request a.1) row.orderStatus

/-- A step takes orders forward exactly when it is guarded. -/
theorem ordersForward_iff_guarded (hsafe : Safe key request s)
    (hvalid : ValidOrders s.world.db.tables) {a : τ × Env} (hs : step key s a = some s') :
    OrdersForward s.world.db.tables s'.world.db.tables ↔ Guarded key request s a := by
  obtain ⟨o, k, htodo, heffect⟩ := hsafe.effect hs
  cases heffect with
  | quiet hmissing htables _ _ =>
    refine iff_of_true (htables ▸ .refl _) fun orderId n k' htodo' henv row hrow => ?_
    obtain ⟨rfl, -⟩ := Prog.call.inj (htodo.symm.trans htodo')
    rw [hmissing orderId n rfl henv] at hrow
    cases hrow
  | @status orderId n row hop henv hq hrow htables _ _ =>
    subst hop
    rw [ordersForward_update hrow (by rw [htables, Tables.write_order_orders]),
      ← mayUpdate_iff_forward hq (hvalid _ _ hrow)]
    refine ⟨fun h orderId' n' k' htodo' _ row' hrow' => ?_, fun h => h _ _ _ htodo henv row hrow⟩
    obtain ⟨heq, -⟩ := Prog.call.inj (htodo.symm.trans htodo')
    cases heq
    obtain rfl := Option.some.inj (hrow.symm.trans hrow')
    exact h
  | @accept k' row store hop _ hrow hwaiting _ htables _ _ =>
    -- from 0 to 1; a commit is no status update
    subst hop
    refine iff_of_true ?_ fun orderId n k' htodo' _ _ _ => ?_
    · refine (ordersForward_update hrow (by rw [htables]; cases store <;> rfl)).mpr ?_
      rw [hwaiting]
      exact (by decide : Forward 0 1)
    · obtain ⟨heq, -⟩ := Prog.call.inj (htodo.symm.trans htodo')
      cases heq
  | @create k' row details hop _ hmissing _ htables _ _ =>
    -- a new order has a key of its own
    subst hop
    refine iff_of_true (fun k₁ row₁ hrow₁ => ⟨row₁, ?_, .refl _⟩)
      fun orderId n k'' htodo' _ _ _ => ?_
    · have hk : k₁ ≠ k' := by
        rintro rfl
        rw [hmissing] at hrow₁
        cases hrow₁
      rw [htables, tables_created.1, Function.update_of_ne hk]
      exact hrow₁
    · obtain ⟨heq, -⟩ := Prog.call.inj (htodo.symm.trans htodo')
      cases heq

/-- A row that a step adds to the table is waiting. -/
theorem orderStatus_of_new (hsafe : Safe key request s) {a : τ × Env}
    (hs : step key s a = some s') {k : κ} {row : OrderRow}
    (hnone : s.world.db.tables.orders k = none)
    (hrow : s'.world.db.tables.orders k = some row) : row.orderStatus = 0 := by
  obtain ⟨o, k', -, heffect⟩ := hsafe.effect hs
  cases heffect with
  | quiet _ htables _ _ =>
    rw [htables, hnone] at hrow
    cases hrow
  | @status orderId _ _ _ _ _ hold htables _ _ =>
    have hk : k ≠ key orderId := by
      rintro rfl
      rw [hnone] at hold
      cases hold
    rw [htables, Tables.write_order_orders, Function.update_of_ne hk, hnone] at hrow
    cases hrow
  | @accept k' _ _ _ _ hold _ _ htables _ _ =>
    have hk : k ≠ k' := by
      rintro rfl
      rw [hnone] at hold
      cases hold
    rw [htables, orders_counted, Function.update_of_ne hk, hnone] at hrow
    cases hrow
  | @create k' row' _ _ _ _ hwaiting htables _ _ =>
    rw [htables, tables_created.1] at hrow
    rcases eq_or_ne k k' with rfl | hk
    · rw [Function.update_self] at hrow
      obtain rfl := Option.some.inj hrow
      exact hwaiting
    · rw [Function.update_of_ne hk, hnone] at hrow
      cases hrow

/-- A step that takes orders forward keeps the statuses valid. -/
theorem ValidOrders.step (hvalid : ValidOrders s.world.db.tables) (hsafe : Safe key request s)
    {a : τ × Env} (hs : OrderSystem.step key s a = some s')
    (hforward : OrdersForward s.world.db.tables s'.world.db.tables) :
    ValidOrders s'.world.db.tables := by
  intro k row' hrow'
  cases hrow : s.world.db.tables.orders k with
  | none =>
    rw [orderStatus_of_new hsafe hs hrow hrow']
    decide
  | some row =>
    obtain ⟨row'', hrow'', hf⟩ := hforward k row hrow
    obtain rfl := Option.some.inj (hrow'.symm.trans hrow'')
    exact hf.mem_statusCodes (hvalid k row hrow)

/-- Between two states of a run that respects the life cycle, orders only go forward. -/
theorem LifeCycle.ordersForward {l' : List (τ × Env)} (h : LifeCycle key s (l ++ l'))
    {s₁ s₂ : OrderSystem τ κ} (hl : run (step key) s l = some s₁)
    (hl' : run (step key) s₁ l' = some s₂) :
    OrdersForward s₁.world.db.tables s₂.world.db.tables := by
  have hsteps := h.2.of_append hl
  clear h hl
  induction l' generalizing s₁ with
  | nil =>
    obtain rfl := Option.some.inj hl'
    exact .refl _
  | cons a l' ih =>
    obtain ⟨s', hs, hr⟩ := run_cons_eq_some.mp hl'
    obtain ⟨hstep, hrest⟩ := hsteps s' hs
    exact (hstep s' hs).trans (ih hr hrest)

/-- In a run that respects the life cycle, a finished order keeps its status. -/
theorem LifeCycle.finished {l' : List (τ × Env)} (h : LifeCycle key s (l ++ l'))
    {s₁ s₂ : OrderSystem τ κ} (hl : run (step key) s l = some s₁)
    (hl' : run (step key) s₁ l' = some s₂) {k : κ} {row : OrderRow}
    (hrow : s₁.world.db.tables.orders k = some row)
    (hfinished : row.orderStatus = 4 ∨ row.orderStatus = 9) :
    ∃ row', s₂.world.db.tables.orders k = some row' ∧ row'.orderStatus = row.orderStatus := by
  obtain ⟨row', hrow', hf⟩ := h.ordersForward hl hl' k row hrow
  exact ⟨row', hrow', hf.eq_of_finished hfinished⟩

/-- **Life cycle.** From valid statuses, a run of any requests respects the life cycle if and
only if each status update that is executed finds its order where it may be updated. -/
theorem lifeCycle_iff_guarded (key : String → κ) (request : τ → OrderRequest)
    {tables : Tables κ} (hvalid : ValidOrders tables) (l : List (τ × Env)) :
    LifeCycle key (init request tables) l ↔
      Along (step key) (Guarded key request) (init request tables) l := by
  have hcongr : ∀ s a s', Safe key request s ∧ ValidOrders s.world.db.tables →
      step key s a = some s' →
      ((∀ s', step key s a = some s' → OrdersForward s.world.db.tables s'.world.db.tables) ↔
        Guarded key request s a) := by
    rintro s a s' ⟨hsafe, hvalid⟩ hs
    rw [← ordersForward_iff_guarded hsafe hvalid hs]
    refine ⟨fun h => h s' hs, fun h s'' hs' => ?_⟩
    obtain rfl := Option.some.inj (hs.symm.trans hs')
    exact h
  constructor
  · rintro ⟨hcodes, hforward⟩
    exact ((always_safe.and hcodes).along_congr hcongr).mp hforward
  · intro hguarded
    have h : Always (step key) (fun s => Safe key request s ∧ ValidOrders s.world.db.tables)
        (init request tables) l := by
      refine always_of_along (fun s a s' h hg hs => ?_) ⟨safe_init, hvalid⟩ hguarded
      exact ⟨h.1.step hs, h.2.step h.1 hs ((ordersForward_iff_guarded h.1 h.2 hs).mpr hg)⟩
    exact ⟨h.mono fun _ h => h.2, (h.along_congr hcongr).mpr hguarded⟩

/-! ### A finished order that is cancelled -/

/-- A waiting order. -/
def waitingOrder : Tables String :=
  ⟨fun k => if k = "ORD-1" then some ⟨"kim", 7, 18000, 0, "Seoul", "", ""⟩ else none,
    fun _ => none, []⟩

/-- The order is set to done and then cancelled. -/
def doneThenCancelled : Fin 2 → OrderRequest
  | 0 => .changeOrderState (.ok ⟨"ORD-1", 4⟩)
  | 1 => .cancel (.ok "ORD-1")

theorem validOrders_waitingOrder : ValidOrders waitingOrder := by
  intro k row hrow
  obtain ⟨-, hrow⟩ := Option.ite_none_right_eq_some.mp hrow
  obtain rfl := Option.some.inj hrow
  decide

/-- The condition for one order. -/
theorem lifeCycle_iff_guarded_waitingOrder :
    LifeCycle id (init doneThenCancelled waitingOrder) [(0, .ok), (0, .ok)] ↔
      Along (step id) (Guarded id doneThenCancelled) (init doneThenCancelled waitingOrder)
        [(0, .ok), (0, .ok)] :=
  lifeCycle_iff_guarded id doneThenCancelled validOrders_waitingOrder _

/-- Cancelling a finished order takes it from 4 to 9. -/
theorem doneThenCancelled_not_lifeCycle :
    ValidOrders waitingOrder ∧
      ¬LifeCycle id (init doneThenCancelled waitingOrder)
        ([(0, .ok), (0, .ok)] ++ [(1, .ok), (1, .ok)]) := by
  refine ⟨validOrders_waitingOrder, fun h => ?_⟩
  have hdone : (run (step id) (init doneThenCancelled waitingOrder) [(0, .ok), (0, .ok)]).map
      (fun s => s.world.db.tables.orders "ORD-1") =
        some (some ⟨"kim", 7, 18000, 4, "Seoul", "", ""⟩) := rfl
  obtain ⟨s₁, hs₁, hrow₁⟩ := Option.map_eq_some_iff.mp hdone
  have hcancelled : (run (step id) s₁ [(1, .ok), (1, .ok)]).map
      (fun s => s.world.db.tables.orders "ORD-1") =
        some (some ⟨"kim", 7, 18000, 9, "Seoul", "", ""⟩) := by
    obtain rfl := Option.some.inj hs₁
    rfl
  obtain ⟨s₂, hs₂, hrow₂⟩ := Option.map_eq_some_iff.mp hcancelled
  obtain ⟨row, hrow, hstatus⟩ := h.finished hs₁ hs₂ hrow₁ (.inl rfl)
  obtain rfl := Option.some.inj (hrow₂.symm.trans hrow)
  exact absurd hstatus (by decide)

end ItsBedalyo
