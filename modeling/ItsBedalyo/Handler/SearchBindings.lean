import ItsBedalyo.Handler.PageFaults
import ItsBedalyo.Handler.OrderPages
import ItsBedalyo.Lib.Sql

/-!
# The values of the searches

Three functions put a query together from the conditions that their request asks for, and bind the
values afterwards under the same conditions, written a second time. `Search` is such a request.
`searchOrders` binds its keyword whenever there is one, but has a condition for it only if it knows
the `searchType`.
-/

namespace ItsBedalyo.Pages

variable {D : Type} [Double D]

/-! ### What is bound -/

/-- `pstmt->setString(1, …)` -/
def AdminDAO.searchOrdersBindings (keyword : String) : List (ℕ × SqlParam) :=
  if keyword ≠ "" then [(1, .string ("%" ++ keyword ++ "%"))] else []

/-- `pstmt->setString(1, …)`, `pstmt->setString(2, …)` -/
def OrderDAO.orderHistoryBindings (userId keyword : String) : List (ℕ × SqlParam) :=
  (1, .string userId) :: if keyword ≠ "" then [(2, .string ("%" ++ keyword ++ "%"))] else []

/-- `pstmt->setInt(paramIndex++, …)`, twice -/
def ReviewHandler.reviewListBindings (storeId menuId : Int32) : List (ℕ × SqlParam) :=
  let paramIndex := 1
  let (paramIndex, store) :=
    if storeId > 0 ∧ menuId = 0 then (paramIndex + 1, [(paramIndex, .int storeId)])
    else (paramIndex, [])
  let menu := if menuId > 0 then [(paramIndex, .int menuId)] else []
  store ++ menu

/-- A request for one of the searches. -/
inductive Search
  | orders (searchType keyword : String)
  | history (userId keyword : String)
  | reviews (storeId menuId : Int32)

namespace Search

/-- The text that is prepared. -/
def query : Search → String
  | orders searchType keyword => AdminDAO.searchOrdersQuery searchType keyword
  | history _ keyword => OrderDAO.orderHistoryQuery keyword
  | reviews storeId menuId => ReviewHandler.reviewListQuery storeId menuId

/-- What is bound. -/
def bindings : Search → List (ℕ × SqlParam)
  | orders _ keyword => AdminDAO.searchOrdersBindings keyword
  | history userId keyword => OrderDAO.orderHistoryBindings userId keyword
  | reviews storeId menuId => ReviewHandler.reviewListBindings storeId menuId

/-- The value of a condition: a pattern for the names and ids that are searched, and the user, the
store or the menu of the request. -/
def valueOf : Search → String × String → Option SqlParam
  | orders _ keyword, ("order_id", "LIKE") | orders _ keyword, ("user_id", "LIKE")
  | history _ keyword, ("S.store_name", "LIKE") => some (.string ("%" ++ keyword ++ "%"))
  | history userId _, ("O.user_id", "=") => some (.string userId)
  | reviews storeId _, ("R.store_id", "=") => some (.int storeId)
  | reviews _ menuId, ("OI.menu_id", "=") => some (.int menuId)
  | _, _ => none

/-- Where there is a keyword, `searchOrders` has a condition for it. -/
def Known : Search → Prop
  | orders searchType keyword => keyword = "" ∨ searchType = "orderId" ∨ searchType = "userId"
  | _ => True

omit [Double D] in
/-- The values reach the database in this order. -/
theorem searchOrders_eq (searchType keyword : String) :
    (AdminDAO.searchOrders searchType keyword : DbProg D _) =
      DbProg.selectEach (query (.orders searchType keyword))
        ((bindings (.orders searchType keyword)).map Prod.snd)
        fun _ row => AdminDAO.adminOrder row := by
  rw [AdminDAO.searchOrders, bindings, AdminDAO.searchOrdersBindings]
  split <;> rfl

omit [Double D] in
theorem getOrderHistory_eq (userId keyword : String) :
    (OrderDAO.getOrderHistory userId keyword : DbProg D _) =
      DbProg.selectEach (query (.history userId keyword))
        ((bindings (.history userId keyword)).map Prod.snd)
        fun _ row => OrderDAO.historyItem row := by
  rw [OrderDAO.getOrderHistory, bindings, OrderDAO.orderHistoryBindings]
  split <;> rfl

theorem reviewListParams_eq (storeId menuId : Int32) :
    ReviewHandler.reviewListParams storeId menuId =
      (bindings (.reviews storeId menuId)).map Prod.snd := by
  rw [ReviewHandler.reviewListParams, bindings, ReviewHandler.reviewListBindings]
  split <;> split <;> rfl

/-! ### The texts -/

theorem summary_searchOrdersQuery {searchType keyword : String}
    (h : keyword = "" ∨ searchType ≠ "orderId" ∧ searchType ≠ "userId") :
    Sql.summary (AdminDAO.searchOrdersQuery searchType keyword) = (0, []) := by
  unfold AdminDAO.searchOrdersQuery
  have hnone : (if keyword ≠ "" then
      if searchType = "orderId" then "WHERE order_id LIKE ? "
      else if searchType = "userId" then "WHERE user_id LIKE ? " else "" else "") = "" := by
    obtain hkeyword | ⟨horder, huser⟩ := h
    · rw [if_neg (not_not_intro hkeyword)]
    · rw [if_neg horder, if_neg huser, ite_self]
  rw [hnone, Sql.summary, String.toList_append, String.toList_append, String.toList_ofList,
    String.toList_ofList, String.toList_ofList]
  decide +kernel

theorem summary_searchOrdersQuery_orderId {keyword : String} (h : keyword ≠ "") :
    Sql.summary (AdminDAO.searchOrdersQuery "orderId" keyword) = (1, [("order_id", "LIKE")]) := by
  unfold AdminDAO.searchOrdersQuery
  rw [if_pos h, if_pos rfl, Sql.summary, String.toList_append, String.toList_append,
    String.toList_ofList, String.toList_ofList, String.toList_ofList]
  decide +kernel

theorem summary_searchOrdersQuery_userId {keyword : String} (h : keyword ≠ "") :
    Sql.summary (AdminDAO.searchOrdersQuery "userId" keyword) = (1, [("user_id", "LIKE")]) := by
  have horder : "userId" ≠ "orderId" := by decide
  unfold AdminDAO.searchOrdersQuery
  rw [if_pos h, if_neg horder, if_pos rfl, Sql.summary, String.toList_append, String.toList_append,
    String.toList_ofList, String.toList_ofList, String.toList_ofList]
  decide +kernel

theorem summary_orderHistoryQuery (keyword : String) :
    Sql.summary (OrderDAO.orderHistoryQuery keyword) =
      if keyword = "" then (1, [("O.user_id", "=")])
      else (2, [("O.user_id", "="), ("S.store_name", "LIKE")]) := by
  unfold OrderDAO.orderHistoryQuery
  by_cases hkeyword : keyword = ""
  · rw [if_neg (not_not_intro hkeyword), if_pos hkeyword, Sql.summary, String.toList_append,
      String.toList_append, String.toList_append, String.toList_ofList, String.toList_ofList,
      String.toList_ofList, String.toList_ofList]
    decide +kernel
  · rw [if_pos hkeyword, if_neg hkeyword, Sql.summary, String.toList_append,
      String.toList_append, String.toList_append, String.toList_ofList, String.toList_ofList,
      String.toList_ofList, String.toList_ofList]
    decide +kernel

/-- The review list: of a menu, of a store, and of neither. -/
theorem summary_reviewListQuery (storeId menuId : Int32) :
    Sql.summary (ReviewHandler.reviewListQuery storeId menuId) =
      if menuId > 0 then (1, [("OI.menu_id", "=")])
      else if storeId > 0 ∧ menuId = 0 then (1, [("R.store_id", "=")])
      else (0, []) := by
  unfold ReviewHandler.reviewListQuery
  by_cases hmenu : menuId > 0
  · have hstore : ¬(storeId > 0 ∧ menuId = 0) := by
      rintro ⟨-, rfl⟩
      exact absurd hmenu (by decide)
    rw [if_pos hmenu, if_neg hstore, if_pos hmenu, if_pos hmenu, Sql.summary, String.toList_append,
      String.toList_append, String.toList_append, String.toList_append, String.toList_append,
      String.toList_append, String.toList_ofList, String.toList_ofList, String.toList_ofList,
      String.toList_ofList, String.toList_ofList, String.toList_ofList, String.toList_ofList]
    decide +kernel
  · by_cases hstore : storeId > 0 ∧ menuId = 0
    · rw [if_neg hmenu, if_pos hstore, if_neg hmenu, if_neg hmenu, if_pos hstore, Sql.summary,
        String.toList_append, String.toList_append, String.toList_append, String.toList_append,
        String.toList_append, String.toList_append, String.toList_ofList, String.toList_ofList,
        String.toList_ofList, String.toList_ofList, String.toList_ofList, String.toList_ofList]
      decide +kernel
    · rw [if_neg hmenu, if_neg hstore, if_neg hmenu, if_neg hmenu, if_neg hstore, Sql.summary,
        String.toList_append, String.toList_append, String.toList_append, String.toList_append,
        String.toList_append, String.toList_append, String.toList_ofList, String.toList_ofList,
        String.toList_ofList, String.toList_ofList, String.toList_ofList]
      decide +kernel

/-! ### The values -/

theorem binds_orders {searchType keyword : String} (h : Known (.orders searchType keyword)) :
    Sql.Binds (valueOf (.orders searchType keyword)) (query (.orders searchType keyword))
      (bindings (.orders searchType keyword)) := by
  by_cases hkeyword : keyword = ""
  · subst hkeyword
    exact .of_summary (summary_searchOrdersQuery (.inl rfl)) rfl rfl
  · have hbindings : bindings (.orders searchType keyword) =
        [(1, .string ("%" ++ keyword ++ "%"))] := if_pos hkeyword
    rw [hbindings]
    obtain rfl | rfl := h.resolve_left hkeyword
    · exact .of_summary (summary_searchOrdersQuery_orderId hkeyword) rfl rfl
    · exact .of_summary (summary_searchOrdersQuery_userId hkeyword) rfl rfl

theorem binds_history (userId keyword : String) :
    Sql.Binds (valueOf (.history userId keyword)) (query (.history userId keyword))
      (bindings (.history userId keyword)) := by
  have hsummary := summary_orderHistoryQuery keyword
  by_cases hkeyword : keyword = ""
  · subst hkeyword
    exact .of_summary hsummary rfl rfl
  · have hbindings : bindings (.history userId keyword) =
        [(1, .string userId), (2, .string ("%" ++ keyword ++ "%"))] := by
      rw [bindings, OrderDAO.orderHistoryBindings, if_pos hkeyword]
    rw [if_neg hkeyword] at hsummary
    rw [hbindings]
    exact .of_summary hsummary rfl rfl

theorem binds_reviews (storeId menuId : Int32) :
    Sql.Binds (valueOf (.reviews storeId menuId)) (query (.reviews storeId menuId))
      (bindings (.reviews storeId menuId)) := by
  have hsummary := summary_reviewListQuery storeId menuId
  by_cases hmenu : menuId > 0
  · have hstore : ¬(storeId > 0 ∧ menuId = 0) := by
      rintro ⟨-, rfl⟩
      exact absurd hmenu (by decide)
    have hbindings : bindings (.reviews storeId menuId) = [(1, .int menuId)] := by
      simp only [bindings, ReviewHandler.reviewListBindings, if_neg hstore, if_pos hmenu,
        List.nil_append]
    rw [if_pos hmenu] at hsummary
    rw [hbindings]
    exact .of_summary hsummary rfl rfl
  · rw [if_neg hmenu] at hsummary
    by_cases hstore : storeId > 0 ∧ menuId = 0
    · have hbindings : bindings (.reviews storeId menuId) = [(1, .int storeId)] := by
        simp only [bindings, ReviewHandler.reviewListBindings, if_pos hstore, if_neg hmenu,
          List.append_nil]
      rw [if_pos hstore] at hsummary
      rw [hbindings]
      exact .of_summary hsummary rfl rfl
    · have hbindings : bindings (.reviews storeId menuId) = [] := by
        simp only [bindings, ReviewHandler.reviewListBindings, if_neg hstore, if_neg hmenu,
          List.append_nil]
      rw [if_neg hstore] at hsummary
      rw [hbindings]
      exact .of_summary hsummary rfl rfl

/-- A keyword without a condition is a value for a `?` that is not there. -/
theorem bindingError_orders {searchType keyword : String}
    (h : ¬Known (.orders searchType keyword)) :
    Sql.BindingError (query (.orders searchType keyword))
      (bindings (.orders searchType keyword)) := by
  obtain ⟨hkeyword, hunknown⟩ := not_or.mp h
  have hcount : Sql.placeholders (query (.orders searchType keyword)) = 0 :=
    congrArg Prod.fst (summary_searchOrdersQuery (.inr (not_or.mp hunknown)))
  have hbindings : bindings (.orders searchType keyword) =
      [(1, .string ("%" ++ keyword ++ "%"))] := if_pos hkeyword
  refine ⟨1, fun hiff => ?_⟩
  rw [hbindings, hcount] at hiff
  have hbound := hiff.mp List.mem_cons_self
  omega

/-- **The searches bind their placeholders.** A request binds exactly the `?`s of its query, each to
the value of its own condition, unless it asks `searchOrders` for a keyword with a `searchType` that
it does not know: that is a binding error, and there is no other. -/
theorem binds_iff (search : Search) :
    (Sql.Binds search.valueOf search.query search.bindings ↔ search.Known) ∧
      (Sql.BindingError search.query search.bindings ↔ ¬search.Known) := by
  have hbinds : search.Known → Sql.Binds search.valueOf search.query search.bindings := by
    intro hknown
    cases search with
    | orders searchType keyword => exact binds_orders hknown
    | history userId keyword => exact binds_history userId keyword
    | reviews storeId menuId => exact binds_reviews storeId menuId
  have herror : ¬search.Known → Sql.BindingError search.query search.bindings := by
    intro hunknown
    cases search with
    | orders searchType keyword => exact bindingError_orders hunknown
    | history userId keyword => exact absurd trivial hunknown
    | reviews storeId menuId => exact absurd trivial hunknown
  constructor
  · refine ⟨fun h => ?_, hbinds⟩
    by_contra hunknown
    exact h.not_bindingError (herror hunknown)
  · exact ⟨fun h hknown => (hbinds hknown).not_bindingError h, herror⟩

/-- An administrator looks for `kim` without a `searchType`: one value is bound, there is no `?` for
it, and what the connector throws is taken for an empty list. -/
theorem not_binds_kim :
    ¬Sql.Binds (valueOf (.orders "" "kim")) (query (.orders "" "kim"))
        (bindings (.orders "" "kim")) ∧
      (AdminDAO.searchOrders "" "kim" : DbProg Float _).run
        (Faults.perform (fun o => idle (.db o)) fun _ _ => true)
        [none, some ⟨"No such parameter: 1"⟩] [] =
          some (.ok [], [(.prepareStatement (query (.orders "" "kim")), true),
            (.executeQuery (query (.orders "" "kim")) [.string "%kim%"], false)]) := by
  constructor
  · intro h
    have hunknown : ¬Known (.orders "" "kim") := by
      rintro (h | h | h) <;> exact absurd h (by decide)
    exact h.not_bindingError (bindingError_orders hunknown)
  · rfl

end Search

end ItsBedalyo.Pages
