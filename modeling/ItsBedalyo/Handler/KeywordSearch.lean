import ItsBedalyo.Handler.SearchBindings
import ItsBedalyo.Lib.Like
import ItsBedalyo.Lib.Memory
import ItsBedalyo.Lib.Relational
import Mathlib.Data.String.Basic

/-!
# What a keyword finds

Four functions look for a keyword with `LIKE`. They put it between two `%`s and leave its own
characters as they are, so that a `%`, a `_` or a backslash means in a keyword what it means in a
pattern. Texts are compared character by character here, and a score has no bound.
-/

namespace ItsBedalyo.Pages.KeywordSearch

open Like Relational

variable {D : Type} [Double D]

/-- A row of `STORES`. -/
structure SearchedStore (D : Type) where
  storeId : Int32
  storeName : String
  category : String
  rating : Option D
  reviewCount : Option Int32
  minOrderAmount : Option Int32
  deliveryTimeRange : Option String
  deliveryFee : Option Int32
  imageUrl : Option String
  popularityScore : Option ℤ

/-- A row of `ORDERS`. -/
structure SearchedOrder where
  orderId : String
  userId : String
  storeId : Int32
  totalPrice : Int32
  orderStatus : Option Int32
  createdAt : String

/-- A row of `MENUS`. -/
structure SearchedMenu where
  menuId : Int32
  storeId : Int32
  menuName : String

/-- A row of `CATEGORIES`. -/
structure ScoredCategory where
  name : String
  popularityScore : Option ℤ

/-- The tables; an item of an order is its order and its menu. -/
structure SearchTables (D : Type) where
  stores : List (SearchedStore D)
  orders : List SearchedOrder
  menus : List SearchedMenu
  orderItems : List (String × Int32)
  categories : List ScoredCategory
  storeKey : (stores.map (·.storeId)).Nodup
  orderKey : (orders.map (·.orderId)).Nodup

/-- What an administrator searches in. -/
inductive OrderColumn
  | orderId
  | userId

namespace OrderColumn

/-- The `searchType` for it. -/
def searchType : OrderColumn → String
  | orderId => "orderId"
  | userId => "userId"

def of : OrderColumn → SearchedOrder → String
  | orderId, order => order.orderId
  | userId, order => order.userId

end OrderColumn

def storeRow (store : SearchedStore D) : ResultRow D := .of
  [("store_id", .int store.storeId), ("store_name", .string store.storeName),
   ("category", .string store.category), ("rating", .ofDouble? store.rating),
   ("review_count", .ofInt? store.reviewCount), ("min_order_amount", .ofInt? store.minOrderAmount),
   ("delivery_time_range", .ofText? store.deliveryTimeRange),
   ("delivery_fee", .ofInt? store.deliveryFee), ("image_url", .ofText? store.imageUrl)]

def historyRow (found : SearchedOrder × SearchedStore D) : ResultRow D := .of
  [("order_id", .string found.1.orderId), ("store_id", .int found.1.storeId),
   ("store_name", .string found.2.storeName), ("total_price", .int found.1.totalPrice),
   ("order_status", .ofInt? found.1.orderStatus), ("created_at", .string found.1.createdAt)]

def orderRow (order : SearchedOrder) : ResultRow D := .of
  [("order_id", .string order.orderId), ("user_id", .string order.userId),
   ("total_price", .int order.totalPrice), ("order_status", .ofInt? order.orderStatus),
   ("created_at", .string order.createdAt)]

def menuRow (menu : SearchedMenu) : ResultRow D := .of [("menu_name", .string menu.menuName)]

namespace SearchTables

variable (db : SearchTables D)

/-- The stores whose name or category is like these patterns. -/
def storesLike (name category : String) : List (SearchedStore D) :=
  db.stores.filter fun store => like name store.storeName || like category store.category

/-- The orders with their stores. -/
def ordersWithStores : List (SearchedOrder × SearchedStore D) :=
  join (fun order store => order.storeId = store.storeId) db.orders db.stores

/-- The orders of a user from stores with such a name, the latest first. -/
def historyOf (userId : String) (named : String → Bool) : List (SearchedOrder × SearchedStore D) :=
  orderByDesc (fun found => found.1.createdAt)
    (db.ordersWithStores.filter fun found => found.1.userId = userId ∧ named found.2.storeName)

/-- The latest of such orders, a hundred at most. -/
def latest (such : SearchedOrder → Bool) : List SearchedOrder :=
  (orderByDesc (·.createdAt) (db.orders.filter such)).take 100

/-- The menus of an order. -/
def menusOf (orderId : String) : List SearchedMenu :=
  (join (fun item menu => item.2 = menu.menuId) (db.orderItems.filter (·.1 = orderId))
    db.menus).map Prod.snd

/-- What the query with these conditions finds. -/
def rowsWhere (conditions : List (String × String)) (params : List SqlParam) :
    List (ResultRow D) :=
  match conditions, params with
  | [("store_name", "LIKE"), ("category", "LIKE")], [.string name, .string category] =>
    (db.storesLike name category).map storeRow
  | [("O.user_id", "=")], [.string userId] =>
    (db.historyOf userId fun _ => true).map historyRow
  | [("O.user_id", "="), ("S.store_name", "LIKE")], [.string userId, .string pattern] =>
    (db.historyOf userId (like pattern)).map historyRow
  | [("OI.order_id", "=")], [.string orderId] => (db.menusOf orderId).map menuRow
  | [], [] => (db.latest fun _ => true).map orderRow
  | [("order_id", "LIKE")], [.string pattern] =>
    (db.latest fun order => like pattern order.orderId).map orderRow
  | [("user_id", "LIKE")], [.string pattern] =>
    (db.latest fun order => like pattern order.userId).map orderRow
  | _, _ => []

/-- What the queries find, told from one another by their conditions. -/
def rows (query : String) (params : List SqlParam) : List (ResultRow D) :=
  db.rowsWhere (Sql.summary query).2 params

end SearchTables

/-! ### What is shown of a row -/

def shownStore (store : SearchedStore D) : Dto.TopStoreInfo D where
  storeId := store.storeId
  storeName := cStr store.storeName
  category := cStr store.category
  rating := store.rating.getD Double.zero
  reviewCount := store.reviewCount.getD 0
  minOrderPrice := store.minOrderAmount.getD 0
  deliveryTime := (store.deliveryTimeRange.map cStr).getD ""
  deliveryFee := store.deliveryFee.getD 0
  iconPath := (store.imageUrl.map cStr).getD ""

def shownOrder (order : SearchedOrder) : Dto.AdminOrderDTO where
  orderId := cStr order.orderId
  userId := cStr order.userId
  totalPrice := order.totalPrice
  orderStatus := order.orderStatus.getD 0
  createdAt := cStr order.createdAt

/-- An order of the history, whose menus are looked up. -/
def shownHistory (db : SearchTables D) (found : SearchedOrder × SearchedStore D) :
    Dto.OrderHistoryItemDTO :=
  let names := (db.menusOf (cStr found.1.orderId)).map (·.menuName)
  let firstMenu := names.headD ""
  { orderId := cStr found.1.orderId
    storeId := found.1.storeId
    storeName := cStr found.2.storeName
    totalPrice := found.1.totalPrice
    status := found.1.orderStatus.getD 0
    createdAt := cStr found.1.createdAt
    deliveryPhotoUrl := ""
    menuName := if firstMenu = "" then "메뉴 정보 없음" else firstMenu
    menuSummary := OrderDAO.historySummary firstMenu names.length }

/-! ### The queries -/

theorem summary_storesQuery : Sql.summary
    ("SELECT store_id, store_name, category, rating, review_count, min_order_amount, " ++
     "delivery_time_range, delivery_fee, image_url FROM STORES " ++
     "WHERE store_name LIKE ? OR category LIKE ?") =
    (2, [("store_name", "LIKE"), ("category", "LIKE")]) := by
  rw [Sql.summary, String.toList_append, String.toList_append, String.toList_ofList,
    String.toList_ofList, String.toList_ofList]
  decide +kernel

theorem summary_menusQuery : Sql.summary
    ("SELECT M.menu_name FROM ORDER_ITEMS OI JOIN MENUS M ON OI.menu_id = M.menu_id " ++
     "WHERE OI.order_id = ?") = (1, [("OI.order_id", "=")]) := by
  rw [Sql.summary, String.toList_append, String.toList_ofList, String.toList_ofList]
  decide +kernel

/-- Every text has the empty text in it. -/
theorem like_empty : like (containing "") = fun _ => true := by
  funext s
  exact (like_containing (by decide) s).mpr (List.nil_infix)

section Reading

variable (db : SearchTables D)

theorem read_foundStore (store : SearchedStore D) :
    (SearchDAO.foundStore (storeRow store)).read db.rows = .ok (shownStore store) := by
  simp [SearchDAO.foundStore, storeRow, shownStore, ResultRow.of, List.lookup_cons]

theorem read_searchStoresByKeyword (keyword : String) :
    (SearchDAO.searchStoresByKeyword keyword).read db.rows =
      .ok ((db.storesLike (containing keyword) (containing keyword)).map shownStore) := by
  refine DbProg.read_selectEach ?_ fun _ store => read_foundStore db store
  rw [SearchTables.rows, summary_storesQuery]
  rfl

theorem read_adminOrder (order : SearchedOrder) :
    (AdminDAO.adminOrder (orderRow order)).read db.rows = .ok (shownOrder order) := by
  simp [AdminDAO.adminOrder, orderRow, shownOrder, ResultRow.of, List.lookup_cons]

/-- The latest orders whose column is like the pattern. -/
theorem read_searchOrders (column : OrderColumn) (keyword : String) :
    (AdminDAO.searchOrders column.searchType keyword : DbProg D _).read db.rows =
      .ok ((db.latest fun order =>
        like (containing keyword) (column.of order)).map shownOrder) := by
  rw [Search.searchOrders_eq]
  refine DbProg.read_selectEach ?_ fun _ order => read_adminOrder db order
  by_cases hkeyword : keyword = ""
  · subst hkeyword
    rw [SearchTables.rows, Search.query, Search.summary_searchOrdersQuery (.inl rfl)]
    simp only [like_empty]
    rfl
  · have hbindings : (Search.orders column.searchType keyword).bindings =
        [(1, .string (containing keyword))] := if_pos hkeyword
    rw [hbindings, SearchTables.rows, Search.query]
    cases column with
    | orderId =>
      rw [OrderColumn.searchType, Search.summary_searchOrdersQuery_orderId hkeyword]
      rfl
    | userId =>
      rw [OrderColumn.searchType, Search.summary_searchOrdersQuery_userId hkeyword]
      rfl

/-- Behind the first menu the names are not read. -/
theorem read_laterMenus (i : ℕ) (menus : List SearchedMenu) :
    (DbProg.forEach (fun i row => if i = 0 then DbProg.getString row "menu_name" else pure "")
      (i + 1) (menus.map menuRow)).read db.rows = .ok (menus.map fun _ => "") := by
  induction menus generalizing i with
  | nil => rfl
  | cons menu menus ih =>
    have hnext : (DbProg.next : DbProg D _).read db.rows = .ok () := rfl
    simp only [List.map_cons, DbProg.forEach, DbProg.read_bind, hnext, if_neg (Nat.succ_ne_zero i),
      DbProg.read_pure, ih]

theorem read_menusOfOrder (orderId : String) :
    (OrderDAO.menusOfOrder orderId : DbProg D _).read db.rows =
      .ok (((db.menusOf orderId).map (·.menuName)).headD "", (db.menusOf orderId).length) := by
  have hrows : db.rows
      ("SELECT M.menu_name FROM ORDER_ITEMS OI JOIN MENUS M ON OI.menu_id = M.menu_id " ++
       "WHERE OI.order_id = ?") [.string orderId] = (db.menusOf orderId).map menuRow := by
    rw [SearchTables.rows, summary_menusQuery]
    rfl
  have hnext : (DbProg.next : DbProg D _).read db.rows = .ok () := rfl
  rw [OrderDAO.menusOfOrder, DbProg.read_bind, DbProg.read_select, hrows]
  cases db.menusOf orderId with
  | nil => rfl
  | cons menu menus =>
    simp only [List.map_cons, DbProg.forEach, DbProg.read_bind, hnext, if_pos,
      DbProg.read_getString, read_laterMenus, DbProg.read_pure, List.headD_cons,
      List.length_cons, List.length_map]
    rfl

theorem read_historyItem (found : SearchedOrder × SearchedStore D) :
    (OrderDAO.historyItem (historyRow found)).read db.rows = .ok (shownHistory db found) := by
  simp [OrderDAO.historyItem, historyRow, shownHistory, ResultRow.of, List.lookup_cons,
    read_menusOfOrder]

/-- The orders of a user from stores whose name is like the pattern, which without a keyword is not
asked for. -/
theorem read_getOrderHistory (userId keyword : String) :
    (OrderDAO.getOrderHistory userId keyword : DbProg D _).read db.rows =
      .ok ((db.historyOf userId (like (containing keyword))).map (shownHistory db)) := by
  rw [Search.getOrderHistory_eq]
  refine DbProg.read_selectEach ?_ fun _ found => read_historyItem db found
  have hsummary := Search.summary_orderHistoryQuery keyword
  rw [SearchTables.rows, Search.query, hsummary]
  by_cases hkeyword : keyword = ""
  · subst hkeyword
    simp only [like_empty]
    rfl
  · rw [if_neg hkeyword, Search.bindings, OrderDAO.orderHistoryBindings, if_pos hkeyword]
    rfl

end Reading

/-! ### The score of a keyword -/

/-- `popularity_score = popularity_score + 1`, where `NULL` stays `NULL`. -/
def ScoredCategory.credit (category : ScoredCategory) : ScoredCategory :=
  { category with popularityScore := category.popularityScore.map (· + 1) }

def SearchedStore.credit (store : SearchedStore D) : SearchedStore D :=
  { store with popularityScore := store.popularityScore.map (· + 1) }

namespace SearchTables

variable (db : SearchTables D)

/-- `UPDATE CATEGORIES … WHERE name = ?` -/
def creditCategory (name : String) : SearchTables D :=
  { db with categories := db.categories.map fun category =>
      if category.name = name then category.credit else category }

/-- `UPDATE STORES … WHERE store_name = ?` -/
def creditStore (name : String) : SearchTables D :=
  { db with
    stores := db.stores.map fun store => if store.storeName = name then store.credit else store
    storeKey := by
      have hkeys : (fun store : SearchedStore D => store.storeId) ∘ (fun store =>
          if store.storeName = name then store.credit else store) = (·.storeId) := by
        funext store
        rw [Function.comp_apply]
        split <;> rfl
      rw [List.map_map, hkeys]
      exact db.storeKey }

/-- The menus like the pattern, with their stores. -/
def menusLike (pattern : String) : List (SearchedMenu × SearchedStore D) :=
  (join (fun menu store => menu.storeId = store.storeId) db.menus db.stores).filter
    fun found => like pattern found.1.menuName

/-- `UPDATE CATEGORIES … WHERE name = (SELECT S.category … LIMIT 1)`; without a menu the name is
`NULL`. -/
def creditByMenu (limitOne : LimitOne (SearchedMenu × SearchedStore D)) (pattern : String) :
    SearchTables D :=
  match limitOne.choose (db.menusLike pattern) with
  | some found => db.creditCategory found.2.category
  | none => db

/-- How many rows the update with these conditions changes, and the tables then. -/
def updateWhere (limitOne : LimitOne (SearchedMenu × SearchedStore D))
    (conditions : List (String × String)) (params : List SqlParam) : ℕ × SearchTables D :=
  match conditions, params with
  | [("name", "=")], [.string name] =>
    (db.categories.countP fun c => c.name = name ∧ c.popularityScore ≠ none, db.creditCategory name)
  | [("store_name", "=")], [.string name] =>
    (db.stores.countP fun s => s.storeName = name ∧ s.popularityScore ≠ none, db.creditStore name)
  | [("M.menu_name", "LIKE")], [.string pattern] =>
    (match limitOne.choose (db.menusLike pattern) with
      | some found => db.categories.countP fun c =>
        c.name = found.2.category ∧ c.popularityScore ≠ none
      | none => 0, db.creditByMenu limitOne pattern)
  | _, _ => (0, db)

/-- A call to a database whose tables are these. -/
def answer (limitOne : LimitOne (SearchedMenu × SearchedStore D)) (db : SearchTables D) :
    (o : DbOp D) → Except SqlException o.Res × SearchTables D
  | .executeUpdate query params =>
    (.ok (db.updateWhere limitOne (Sql.summary query).2 params).1,
      (db.updateWhere limitOne (Sql.summary query).2 params).2)
  | o => (.ok (readOnly db.rows o), db)

/-- The tables after `applySearchScore`. -/
def scored (limitOne : LimitOne (SearchedMenu × SearchedStore D)) (keyword : String) :
    SearchTables D :=
  ((SearchDAO.applySearchScore keyword).play (answer limitOne) db).2.1

end SearchTables

section Scores

variable (db : SearchTables D) (limitOne : LimitOne (SearchedMenu × SearchedStore D))

theorem play_update {query : String} {conditions : List (String × String)}
    (hsummary : (Sql.summary query).2 = conditions) (params : List SqlParam) :
    (DbProg.update query params : DbProg D ℕ).play (SearchTables.answer limitOne) db =
      (.ok (db.updateWhere limitOne conditions params).1,
        (db.updateWhere limitOne conditions params).2,
        [.prepareStatement query, .executeUpdate query params]) := by
  subst hsummary
  rfl

theorem summary_directQuery : (Sql.summary
    "UPDATE CATEGORIES SET popularity_score = popularity_score + 1 WHERE name = ?").2 =
      [("name", "=")] := by
  rw [Sql.summary, String.toList_ofList]
  decide +kernel

theorem summary_storeScoreQuery : (Sql.summary
    "UPDATE STORES SET popularity_score = popularity_score + 1 WHERE store_name = ?").2 =
      [("store_name", "=")] := by
  rw [Sql.summary, String.toList_ofList]
  decide +kernel

theorem summary_menuScoreQuery : (Sql.summary
    ("UPDATE CATEGORIES SET popularity_score = popularity_score + 1 " ++
     "WHERE name = ( SELECT S.category FROM MENUS M " ++
     "JOIN STORES S ON M.store_id = S.store_id WHERE M.menu_name LIKE ? LIMIT 1)")).2 =
      [("M.menu_name", "LIKE")] := by
  rw [Sql.summary, String.toList_append, String.toList_append, String.toList_ofList,
    String.toList_ofList, String.toList_ofList]
  decide +kernel

/-- The three steps, each made if the one before has changed nothing. -/
theorem scored_eq (keyword : String) : db.scored limitOne keyword =
    if 0 < (db.updateWhere limitOne [("name", "=")] [.string keyword]).1 then
      db.creditCategory keyword
    else if 0 < ((db.creditCategory keyword).updateWhere limitOne [("store_name", "=")]
        [.string keyword]).1 then
      (db.creditCategory keyword).creditStore keyword
    else ((db.creditCategory keyword).creditStore keyword).creditByMenu limitOne
      (containing keyword) := by
  have hcategories : (db.updateWhere limitOne [("name", "=")] [.string keyword]).2 =
      db.creditCategory keyword := rfl
  rw [SearchTables.scored, SearchDAO.applySearchScore, DbProg.catchSql, Prog.play_tryCatch,
    Prog.play_bind, play_update db limitOne summary_directQuery]
  by_cases hdirect : 0 < (db.updateWhere limitOne [("name", "=")] [.string keyword]).1
  · simp only [hdirect, gt_iff_lt, if_true]
    rfl
  · simp only [hdirect, gt_iff_lt, if_false, hcategories, Prog.play_bind,
      play_update _ limitOne summary_storeScoreQuery]
    by_cases hstore : 0 < ((db.creditCategory keyword).updateWhere limitOne [("store_name", "=")]
        [.string keyword]).1
    · simp only [hstore, if_true]
      rfl
    · simp only [hstore, if_false, Prog.play_bind, play_update _ limitOne summary_menuScoreQuery]
      rfl

/-! ### Whom a keyword credits -/

/-- A category with a new score has the keyword for its name, or it is the category of a store with
a menu that contains the keyword. -/
def CreditsMenus (keyword : String) : Prop :=
  ∀ category ∈ (db.scored limitOne keyword).categories, category ∉ db.categories →
    category.name = keyword ∨
      ∃ store ∈ db.stores, store.category = category.name ∧
        ∃ menu ∈ db.menus, menu.storeId = store.storeId ∧ Contains keyword menu.menuName

omit [Double D] in
/-- A category after an update of those with this name. -/
theorem mem_creditCategory {name : String} {category : ScoredCategory}
    (h : category ∈ (db.creditCategory name).categories) :
    category.name = name ∨ category ∈ db.categories := by
  obtain ⟨before, hmem, rfl⟩ := List.mem_map.mp h
  by_cases hname : before.name = name
  · rw [if_pos hname]
    exact .inl hname
  · rw [if_neg hname]
    exact .inr hmem

omit [Double D] in
/-- The update of stores keeps who they are. -/
theorem mem_creditStore {name : String} {store : SearchedStore D}
    (h : store ∈ (db.creditStore name).stores) :
    ∃ before ∈ db.stores, before.storeId = store.storeId ∧ before.category = store.category := by
  obtain ⟨before, hmem, rfl⟩ := List.mem_map.mp h
  refine ⟨before, hmem, ?_⟩
  split
  · exact ⟨rfl, rfl⟩
  · exact ⟨rfl, rfl⟩

omit [Double D] in
/-- The menu step. -/
theorem mem_creditByMenu {pattern : String} {category : ScoredCategory}
    (h : category ∈ (db.creditByMenu limitOne pattern).categories) :
    category ∈ db.categories ∨ ∃ store ∈ db.stores, store.category = category.name ∧
      ∃ menu ∈ db.menus, menu.storeId = store.storeId ∧ like pattern menu.menuName = true := by
  rw [SearchTables.creditByMenu] at h
  split at h
  · next found hfound =>
    rcases mem_creditCategory db h with hname | hmem
    · obtain ⟨hjoin, hlike⟩ := List.mem_filter.mp (limitOne.choose_mem hfound)
      obtain ⟨hmenu, hstore, hid⟩ := mem_join.mp (show (found.1, found.2) ∈ _ from hjoin)
      exact .inr ⟨found.2, hstore, hname.symm, found.1, hmenu, of_decide_eq_true hid, hlike⟩
    · exact .inl hmem
  · exact .inl h

theorem creditsMenus_of_plain {keyword : String} (h : Plain keyword) :
    CreditsMenus db limitOne keyword := by
  intro category hafter hnew
  have hdirect (hmem : category ∈ (db.creditCategory keyword).categories) :
      category.name = keyword := (mem_creditCategory db hmem).resolve_right hnew
  rw [scored_eq] at hafter
  split at hafter
  · exact .inl (hdirect hafter)
  · split at hafter
    · exact .inl (hdirect hafter)
    · rcases mem_creditByMenu _ limitOne hafter with hmem | ⟨store, hstore, hcategory, menu, hmenu,
        hid, hlike⟩
      · exact .inl (hdirect hmem)
      · obtain ⟨before, hmem, hstoreId, hbefore⟩ := mem_creditStore _ hstore
        exact .inr ⟨before, hmem, hbefore.trans hcategory, menu, hmenu, hid.trans hstoreId.symm,
          (like_containing h menu.menuName).mp hlike⟩

end Scores

/-! ### What a keyword is to find -/

section Finds

variable (db : SearchTables D) (keyword : String)

/-- `searchStoresByKeyword` shows the stores whose name or category contains the keyword. -/
def FindsStores : Prop :=
  ∃ found : List (SearchedStore D),
    (SearchDAO.searchStoresByKeyword keyword).read db.rows = .ok (found.map shownStore) ∧
    Exactly (fun store => store ∈ db.stores ∧
      (Contains keyword store.storeName ∨ Contains keyword store.category)) none found

/-- `getOrderHistory` shows the orders of the user from stores whose name contains the keyword. -/
def FindsHistory (userId : String) : Prop :=
  ∃ found : List (SearchedOrder × SearchedStore D),
    (OrderDAO.getOrderHistory userId keyword : DbProg D _).read db.rows =
      .ok (found.map (shownHistory db)) ∧
    Exactly (fun found => (found.1 ∈ db.orders ∧ found.2 ∈ db.stores ∧
        found.1.storeId = found.2.storeId) ∧
      found.1.userId = userId ∧ Contains keyword found.2.storeName) none found

/-- `searchOrders` shows the orders whose column contains the keyword, a hundred at most. -/
def FindsOrders (column : OrderColumn) : Prop :=
  ∃ found : List SearchedOrder,
    (AdminDAO.searchOrders column.searchType keyword : DbProg D _).read db.rows =
      .ok (found.map shownOrder) ∧
    Exactly (fun order => order ∈ db.orders ∧ Contains keyword (column.of order)) (some 100) found

variable {keyword}

theorem findsStores_of_plain (h : Plain keyword) : FindsStores db keyword := by
  refine ⟨_, read_searchStoresByKeyword db keyword, exactly_all ?_ fun store => ?_⟩
  · exact (db.storeKey.of_map _).filter _
  · rw [SearchTables.storesLike, List.mem_filter, Bool.or_eq_true, like_containing h,
      like_containing h]

theorem findsHistory_of_plain (h : Plain keyword) (userId : String) :
    FindsHistory db keyword userId := by
  have hone (order : SearchedOrder) :
      db.stores.countP (fun store => order.storeId = store.storeId) ≤ 1 :=
    countP_key_le_one db.storeKey order.storeId
  refine ⟨_, read_getOrderHistory db userId keyword, exactly_all ?_ fun found => ?_⟩
  · rw [SearchTables.historyOf, nodup_orderByDesc]
    have hjoin : db.ordersWithStores.Nodup :=
      ((nodup_map_fst_join (db.orderKey.of_map _)).mpr fun order _ => hone order).of_map _
    exact hjoin.filter _
  · rw [SearchTables.historyOf, mem_orderByDesc, List.mem_filter, SearchTables.ordersWithStores,
      decide_eq_true_eq, like_containing h]
    obtain ⟨order, store⟩ := found
    rw [mem_join, decide_eq_true_eq]

theorem findsOrders_of_plain (h : Plain keyword) (column : OrderColumn) :
    FindsOrders db keyword column := by
  refine ⟨_, read_searchOrders db column keyword, exactly_take ?_ (fun order => ?_) 100⟩
  · rw [nodup_orderByDesc]
    exact (db.orderKey.of_map _).filter _
  · rw [mem_orderByDesc, List.mem_filter, like_containing h]

end Finds

/-! ### A text that is found and does not contain the keyword -/

/-- A store, its only menu, an order and its user, all with one name. -/
def sampleTables (name : String) : SearchTables D where
  stores := [⟨1, name, "", none, none, none, none, none, none, none⟩]
  orders := [⟨name, name, 1, 9000, none, ""⟩]
  menus := [⟨1, 1, name⟩]
  orderItems := []
  categories := [⟨"", some 0⟩]
  storeKey := List.nodup_singleton _
  orderKey := List.nodup_singleton _

/-- What shows a row has found one. -/
theorem exists_found {α β : Type} {shown : α → β} {rows found : List α} {a : α} (ha : a ∈ rows)
    (h : (Except.ok (rows.map shown) : Except SqlException _) = .ok (found.map shown)) :
    ∃ b, b ∈ found := by
  have hmem : shown a ∈ found.map shown := Except.ok.inj h ▸ List.mem_map_of_mem ha
  obtain ⟨b, hb, -⟩ := List.mem_map.mp hmem
  exact ⟨b, hb⟩

section Sample

variable {keyword name : String} (hlike : like (containing keyword) name = true)
  (hnot : ¬Contains keyword name)

include hlike hnot

theorem not_findsStores : ¬FindsStores (sampleTables name : SearchTables D) keyword := by
  rintro ⟨found, hread, hexact⟩
  rw [read_searchStoresByKeyword] at hread
  have hrow : ⟨1, name, "", none, none, none, none, none, none, none⟩ ∈
      (sampleTables name : SearchTables D).storesLike (containing keyword) (containing keyword) :=
    List.mem_filter.mpr ⟨List.mem_cons_self, Bool.or_eq_true_iff.mpr (.inl hlike)⟩
  obtain ⟨store, hstore⟩ := exists_found hrow hread
  obtain ⟨hmem, hcontains⟩ := hexact.sound store hstore
  obtain rfl := List.mem_singleton.mp hmem
  rcases hcontains with hname | hcategory
  · exact hnot hname
  · have hempty : keyword.toList = [] := List.infix_nil.mp hcategory
    exact hnot (by rw [Contains, hempty]; exact List.nil_infix)

theorem not_findsHistory : ¬FindsHistory (sampleTables name : SearchTables D) keyword name := by
  rintro ⟨found, hread, hexact⟩
  rw [read_getOrderHistory] at hread
  have hrow : (⟨name, name, 1, 9000, none, ""⟩,
      ⟨1, name, "", none, none, none, none, none, none, none⟩) ∈
        (sampleTables name : SearchTables D).historyOf name (like (containing keyword)) := by
    exact mem_orderByDesc.mpr (List.mem_filter.mpr ⟨mem_join.mpr ⟨List.mem_cons_self,
      List.mem_cons_self, rfl⟩, decide_eq_true ⟨rfl, hlike⟩⟩)
  obtain ⟨row, hfound⟩ := exists_found hrow hread
  obtain ⟨⟨-, hmem, -⟩, -, hcontains⟩ := hexact.sound row hfound
  rw [List.mem_singleton.mp hmem] at hcontains
  exact hnot hcontains

theorem not_findsOrders (column : OrderColumn) :
    ¬FindsOrders (sampleTables name : SearchTables D) keyword column := by
  rintro ⟨found, hread, hexact⟩
  rw [read_searchOrders] at hread
  have hcolumn : column.of ⟨name, name, 1, 9000, none, ""⟩ = name := by
    cases column with
    | orderId => rfl
    | userId => rfl
  have hfilter : (sampleTables name : SearchTables D).orders.filter
      (fun order => like (containing keyword) (column.of order)) =
        [⟨name, name, 1, 9000, none, ""⟩] := by
    rw [sampleTables, List.filter_singleton, hcolumn, hlike]
    rfl
  have hrow : ⟨name, name, 1, 9000, none, ""⟩ ∈ (sampleTables name : SearchTables D).latest
      (fun order => like (containing keyword) (column.of order)) := by
    rw [SearchTables.latest, hfilter, orderByDesc, List.mergeSort_singleton]
    exact List.mem_cons_self
  obtain ⟨order, horder⟩ := exists_found hrow hread
  obtain ⟨hmem, hcontains⟩ := hexact.sound order horder
  rw [List.mem_singleton.mp hmem, hcolumn] at hcontains
  exact hnot hcontains

/-- Neither the category nor the store has the keyword for its name, so that the menu step comes. -/
theorem not_creditsMenus (limitOne : LimitOne (SearchedMenu × SearchedStore D)) :
    ¬CreditsMenus (sampleTables name) limitOne keyword := by
  have hempty : "" ≠ keyword := by
    rintro rfl
    exact hnot List.nil_infix
  have hname : name ≠ keyword := by
    rintro rfl
    exact hnot List.infix_rfl
  have hcategory : (sampleTables name : SearchTables D).creditCategory keyword =
      sampleTables name := by
    simp [SearchTables.creditCategory, sampleTables, hempty]
  have hstore : (sampleTables name : SearchTables D).creditStore keyword = sampleTables name := by
    simp [SearchTables.creditStore, sampleTables, hname]
  have hmenus : (sampleTables name : SearchTables D).menusLike (containing keyword) =
      [(⟨1, 1, name⟩, ⟨1, name, "", none, none, none, none, none, none, none⟩)] := by
    simp [SearchTables.menusLike, sampleTables, join, hlike]
  have hscored : (sampleTables name : SearchTables D).scored limitOne keyword =
      (sampleTables name : SearchTables D).creditByMenu limitOne (containing keyword) := by
    rw [scored_eq, hcategory, hstore, if_neg, if_neg]
    · simp [SearchTables.updateWhere, sampleTables, hname]
    · simp [SearchTables.updateWhere, sampleTables, hempty]
  obtain ⟨found, hfound⟩ := limitOne.choose_cons
    (⟨1, 1, name⟩, ⟨1, name, "", none, none, none, none, none, none, none⟩) []
  have hmenu := List.mem_singleton.mp (limitOne.choose_mem hfound)
  have hnew : ⟨"", some 1⟩ ∈
      ((sampleTables name : SearchTables D).scored limitOne keyword).categories := by
    rw [hscored, SearchTables.creditByMenu, hmenus, hfound, hmenu]
    exact List.mem_cons_self
  intro hcredits
  have hold : (⟨"", some 1⟩ : ScoredCategory) ∉
      (sampleTables name : SearchTables D).categories := by
    intro hmem
    cases List.mem_singleton.mp hmem
  rcases hcredits _ hnew hold with hkeyword | ⟨-, -, -, menu, hmem, -, hcontains⟩
  · exact hempty hkeyword
  · rw [List.mem_singleton.mp hmem] at hcontains
    exact hnot hcontains

end Sample

/-- **Keyword search.** A keyword finds, in every database, exactly what contains it, and credits
only the categories of stores with a menu that contains it, if and only if there is no `%`, no `_`
and no backslash in it. -/
theorem substring_search_iff (keyword : String) :
    ((∀ db : SearchTables D, FindsStores db keyword) ↔ Plain keyword) ∧
    ((∀ (db : SearchTables D) (userId : String), FindsHistory db keyword userId) ↔
      Plain keyword) ∧
    (∀ column : OrderColumn, (∀ db : SearchTables D, FindsOrders db keyword column) ↔
      Plain keyword) ∧
    ((∀ (db : SearchTables D) (limitOne : LimitOne (SearchedMenu × SearchedStore D)),
      CreditsMenus db limitOne keyword) ↔ Plain keyword) := by
  have hsample (hplain : ¬Plain keyword) : ∃ name, like (containing keyword) name = true ∧
      ¬Contains keyword name := exists_like_not_contains hplain
  refine ⟨⟨fun h => ?_, fun h db => findsStores_of_plain db h⟩,
    ⟨fun h => ?_, fun h db userId => findsHistory_of_plain db h userId⟩,
    fun column => ⟨fun h => ?_, fun h db => findsOrders_of_plain db h column⟩,
    ⟨fun h => ?_, fun h db limitOne => creditsMenus_of_plain db limitOne h⟩⟩
  · by_contra hplain
    obtain ⟨name, hlike, hnot⟩ := hsample hplain
    exact not_findsStores hlike hnot (h _)
  · by_contra hplain
    obtain ⟨name, hlike, hnot⟩ := hsample hplain
    exact not_findsHistory hlike hnot (h _ name)
  · by_contra hplain
    obtain ⟨name, hlike, hnot⟩ := hsample hplain
    exact not_findsOrders hlike hnot column (h _)
  · by_contra hplain
    obtain ⟨name, hlike, hnot⟩ := hsample hplain
    exact not_creditsMenus hlike hnot .first (h _ _)

/-- `50%` finds the store, the orders and the menu `500원 김밥`. -/
theorem not_substring_search_percent :
    ¬FindsStores (sampleTables "500원 김밥" : SearchTables Float) "50%" ∧
    ¬FindsHistory (sampleTables "500원 김밥" : SearchTables Float) "50%" "500원 김밥" ∧
    ¬FindsOrders (sampleTables "500원 김밥" : SearchTables Float) "50%" .orderId ∧
    ¬CreditsMenus (sampleTables "500원 김밥" : SearchTables Float) .first "50%" := by
  have hlike : like (containing "50%") "500원 김밥" = true := by decide
  have hnot : ¬Contains "50%" "500원 김밥" := by decide
  exact ⟨not_findsStores hlike hnot, not_findsHistory hlike hnot, not_findsOrders hlike hnot _,
    not_creditsMenus hlike hnot _⟩

end ItsBedalyo.Pages.KeywordSearch
