import ItsBedalyo.Handler.PageFaults
import ItsBedalyo.Handler.StorePages
import ItsBedalyo.Lib.Relational
import ItsBedalyo.Lib.Sql
import Mathlib.Data.Int.ConditionallyCompleteOrder
import Mathlib.Order.ConditionallyCompleteLattice.Basic
import Mathlib.Order.WithBot

/-!
# The lists of stores

`handleStoreListRequest` has two queries to choose from: one for a category, which asks for open
stores and is given the brand but does not look at it, and one for all stores, whether they are open
or not.
-/

namespace ItsBedalyo.Pages.StoreHandler

open Page Relational

variable {κ D : Type} [DecidableEq κ] [Double D]

/-- A row of `STORES`. -/
structure StoredStore (D : Type) where
  storeId : Int32
  storeName : String
  category : String
  brandName : Option String
  status : Option Int32
  totalSales : Option Int32
  deliveryTimeRange : Option String
  rating : Option D
  reviewCount : Option Int32
  minOrderAmount : Option Int32
  deliveryFee : Option Int32

/-- A row of `CATEGORIES`. -/
structure StoredCategory where
  categoryId : Int32
  name : String
  iconName : Option String

/-- `S.total_sales`, of which `NULL` is the least. -/
def StoredStore.rank (store : StoredStore D) : WithBot ℤ :=
  store.totalSales.map fun n => n.toInt

/-- A row of the join. -/
def listRow (found : StoredStore D × StoredCategory) : ResultRow D := .of
  [("store_id", .int found.1.storeId), ("store_name", .string found.1.storeName),
   ("category", .string found.1.category), ("brand_name", .ofText? found.1.brandName),
   ("icon_name", .ofText? found.2.iconName),
   ("delivery_time_range", .ofText? found.1.deliveryTimeRange),
   ("rating", .ofDouble? found.1.rating), ("review_count", .ofInt? found.1.reviewCount),
   ("min_order_amount", .ofInt? found.1.minOrderAmount),
   ("delivery_fee", .ofInt? found.1.deliveryFee)]

/-- The tables; `key` is what the name of a category is under its collation. -/
structure StoreTables (D : Type) (key : String → κ) where
  stores : List (StoredStore D)
  categories : List StoredCategory
  primaryKey : (stores.map (·.storeId)).Nodup
  uniqueNames : (categories.map fun category => key category.name).Nodup

namespace StoreTables

variable {key : String → κ} (db : StoreTables D key)

variable (key) in
/-- `S.category = C.name` -/
def inCategory (store : StoredStore D) (category : StoredCategory) : Bool :=
  key store.category = key category.name

/-- The stores with their categories. -/
def joined : List (StoredStore D × StoredCategory) :=
  join (inCategory key) db.stores db.categories

/-- The query of `getStoresByCategory`. -/
def categoryQuery : String :=
  "SELECT S.store_id, S.store_name, S.category, S.brand_name, C.icon_name, " ++
  "S.delivery_time_range, S.rating, S.review_count, S.min_order_amount, S.delivery_fee " ++
  "FROM STORES S JOIN CATEGORIES C ON S.category = C.name " ++
  "WHERE C.category_id = ? AND S.status = 1 ORDER BY S.total_sales DESC"

/-- The query of `getAllStores`. -/
def allQuery : String :=
  "SELECT S.store_id, S.store_name, S.category, C.icon_name, " ++
  "S.delivery_time_range, S.rating, S.review_count, S.min_order_amount, S.delivery_fee " ++
  "FROM STORES S JOIN CATEGORIES C ON S.category = C.name ORDER BY S.total_sales DESC"

/-- The open stores of a category. -/
def ofCategory (categoryId : Int32) : List (StoredStore D × StoredCategory) :=
  db.joined.filter fun found => found.2.categoryId = categoryId ∧ found.1.status = some 1

/-- What the queries find. -/
def rows (query : String) (params : List SqlParam) : List (ResultRow D) :=
  let found :=
    match params with
    | [.int categoryId] => if query = categoryQuery then db.ofCategory categoryId else []
    | _ => if query = allQuery then db.joined else []
  (orderByDesc (fun found => found.1.rank) found).map listRow

omit [Double D]

theorem mem_joined {store : StoredStore D} {category : StoredCategory} :
    (store, category) ∈ db.joined ↔
      store ∈ db.stores ∧ category ∈ db.categories ∧ key store.category = key category.name := by
  rw [joined, mem_join, inCategory, decide_eq_true_eq]

/-- A store has one category. -/
theorem category_unique {store : StoredStore D} {category category' : StoredCategory}
    (h : (store, category) ∈ db.joined) (h' : (store, category') ∈ db.joined) :
    category = category' := by
  obtain ⟨-, hmem, hkey⟩ := db.mem_joined.mp h
  obtain ⟨-, hmem', hkey'⟩ := db.mem_joined.mp h'
  exact List.inj_on_of_nodup_map db.uniqueNames hmem hmem' (hkey.symm.trans hkey')

theorem nodup_stores : (db.joined.map Prod.fst).Nodup := by
  rw [joined, nodup_map_fst_join (db.primaryKey.of_map _)]
  exact fun store _ => countP_key_le_one db.uniqueNames (key store.category)

end StoreTables

/-! ### What is wanted and what is found -/

section Filters

variable {key : String → κ} (db : StoreTables D key) (categoryId : Int32) (brandName : String)

/-- The stores that a request asks for. -/
def WantedStore (store : StoredStore D) : Prop :=
  store ∈ db.stores ∧ store.status = some 1 ∧
    ∃ category ∈ db.categories, key store.category = key category.name ∧
      (categoryId ≠ 0 → category.categoryId = categoryId) ∧
      (brandName ≠ "" → store.brandName = some brandName)

/-- Every wanted store once and no other, the best-selling first. -/
structure ExactStores (found : List (StoredStore D)) : Prop where
  nodup : found.Nodup
  mem_iff : ∀ store, store ∈ found ↔ WantedStore db categoryId brandName store
  sorted : found.Pairwise fun a b => b.rank ≤ a.rank

/-- Without a brand: the request is for a category, or all stores that have one are open. With a
brand, which is not looked at: the open stores of the category have it, and those that have it are
in the category with the number 0 where the request is for all. -/
def Honoured : Prop :=
  if brandName = "" then
    categoryId ≠ 0 ∨ ∀ found ∈ db.joined, found.1.status = some 1
  else ∀ found ∈ db.joined, found.1.status = some 1 →
    if categoryId = 0 then found.2.categoryId = 0 ↔ found.1.brandName = some brandName
    else found.2.categoryId = categoryId → found.1.brandName = some brandName

/-- The stores of `handleStoreListRequest`, with their categories. -/
def listedStores : List (StoredStore D × StoredCategory) :=
  orderByDesc (fun found => found.1.rank)
    (if categoryId = 0 ∧ brandName = "" then db.joined else db.ofCategory categoryId)

omit [Double D]

/-- A row of the join that is listed. -/
theorem mem_listedStores {found : StoredStore D × StoredCategory} :
    found ∈ listedStores db categoryId brandName ↔ found ∈ db.joined ∧
      (¬(categoryId = 0 ∧ brandName = "") →
        found.2.categoryId = categoryId ∧ found.1.status = some 1) := by
  rw [listedStores, mem_orderByDesc]
  by_cases hall : categoryId = 0 ∧ brandName = ""
  · rw [if_pos hall]
    exact (and_iff_left fun hnot => absurd hall hnot).symm
  · rw [if_neg hall, StoreTables.ofCategory, List.mem_filter, decide_eq_true_eq]
    exact and_congr_right fun _ => (imp_iff_right hall).symm

theorem nodup_listedStores : ((listedStores db categoryId brandName).map Prod.fst).Nodup := by
  have hperm : ((listedStores db categoryId brandName).map Prod.fst).Perm
      ((if categoryId = 0 ∧ brandName = "" then db.joined
        else db.ofCategory categoryId).map Prod.fst) := orderByDesc_perm.map _
  refine hperm.nodup_iff.mpr ?_
  split
  · exact db.nodup_stores
  · exact db.nodup_stores.sublist (List.filter_sublist.map _)

theorem sorted_listedStores : ((listedStores db categoryId brandName).map Prod.fst).Pairwise
    fun a b => b.rank ≤ a.rank :=
  List.pairwise_map.mpr pairwise_orderByDesc

/-- A row of the join that is wanted. -/
theorem wantedStore_iff {store : StoredStore D} {category : StoredCategory}
    (h : (store, category) ∈ db.joined) : WantedStore db categoryId brandName store ↔
      store.status = some 1 ∧ (categoryId ≠ 0 → category.categoryId = categoryId) ∧
        (brandName ≠ "" → store.brandName = some brandName) := by
  obtain ⟨hstore, hcategory, hkey⟩ := db.mem_joined.mp h
  constructor
  · rintro ⟨-, hopen, category', hcategory', hkey', hfilters⟩
    obtain rfl := db.category_unique h (db.mem_joined.mpr ⟨hstore, hcategory', hkey'⟩)
    exact ⟨hopen, hfilters⟩
  · rintro ⟨hopen, hfilters⟩
    exact ⟨hstore, hopen, category, hcategory, hkey, hfilters⟩

/-- The list is exact where it lists the wanted rows of the join. -/
theorem exactStores_iff_forall :
    ExactStores db categoryId brandName ((listedStores db categoryId brandName).map Prod.fst) ↔
      ∀ found ∈ db.joined, ((¬(categoryId = 0 ∧ brandName = "") →
          found.2.categoryId = categoryId ∧ found.1.status = some 1) ↔
        found.1.status = some 1 ∧ (categoryId ≠ 0 → found.2.categoryId = categoryId) ∧
          (brandName ≠ "" → found.1.brandName = some brandName)) := by
  constructor
  · rintro ⟨-, hmem, -⟩ ⟨store, category⟩ hfound
    rw [← wantedStore_iff db categoryId brandName hfound, ← hmem, List.mem_map]
    constructor
    · exact fun hlisted =>
        ⟨_, (mem_listedStores db categoryId brandName).mpr ⟨hfound, hlisted⟩, rfl⟩
    · rintro ⟨⟨store', category'⟩, hmem', rfl⟩
      obtain ⟨hfound', hlisted⟩ := (mem_listedStores db categoryId brandName).mp hmem'
      obtain rfl := db.category_unique hfound hfound'
      exact hlisted
  · intro h
    refine ⟨nodup_listedStores db categoryId brandName, fun store => ?_,
      sorted_listedStores db categoryId brandName⟩
    rw [List.mem_map]
    constructor
    · rintro ⟨⟨store', category⟩, hmem, rfl⟩
      obtain ⟨hfound, hlisted⟩ := (mem_listedStores db categoryId brandName).mp hmem
      exact (wantedStore_iff db categoryId brandName hfound).mpr ((h _ hfound).mp hlisted)
    · intro hwanted
      obtain ⟨hstore, -, category, hcategory, hkey, -⟩ := id hwanted
      have hfound : (store, category) ∈ db.joined := db.mem_joined.mpr ⟨hstore, hcategory, hkey⟩
      exact ⟨_, (mem_listedStores db categoryId brandName).mpr ⟨hfound,
        (h _ hfound).mpr ((wantedStore_iff db categoryId brandName hfound).mp hwanted)⟩, rfl⟩

theorem exactStores_iff :
    ExactStores db categoryId brandName ((listedStores db categoryId brandName).map Prod.fst) ↔
      Honoured db categoryId brandName := by
  rw [exactStores_iff_forall, Honoured]
  by_cases hbrand : brandName = ""
  · rw [if_pos hbrand]
    by_cases hcategory : categoryId = 0
    · simp [hbrand, hcategory]
    · simp [hbrand, hcategory, and_comm]
  · rw [if_neg hbrand]
    refine forall₂_congr fun found _ => ?_
    by_cases hcategory : categoryId = 0
    · simp only [hbrand, hcategory, ne_eq, not_true_eq_false, false_implies, true_and, and_false,
        not_false_eq_true, true_implies, if_true]
      tauto
    · simp only [hbrand, hcategory, ne_eq, not_false_eq_true, true_implies, false_and, if_false]
      tauto

omit [DecidableEq κ] in
/-- The list of all stores is to be the union of the lists of the categories. -/
theorem wantedStore_all_iff (store : StoredStore D) :
    WantedStore db 0 "" store ↔
      ∃ category ∈ db.categories, WantedStore db category.categoryId "" store := by
  constructor
  · rintro ⟨hstore, hopen, category, hcategory, hkey, -⟩
    exact ⟨category, hcategory, hstore, hopen, category, hcategory, hkey, fun _ => rfl,
      fun hne => absurd rfl hne⟩
  · rintro ⟨-, -, hstore, hopen, category, hcategory, hkey, -⟩
    exact ⟨hstore, hopen, category, hcategory, hkey, fun hne => absurd rfl hne,
      fun hne => absurd rfl hne⟩

end Filters

/-! ### The handler -/

section Handler

variable {key : String → κ} (db : StoreTables D key)

/-- What a list shows of a store of a category. -/
def shownOfCategory (found : StoredStore D × StoredCategory) : Dto.TopStoreInfo D where
  storeId := found.1.storeId
  storeName := cStr found.1.storeName
  category := cStr found.1.category
  brandName := (found.1.brandName.map cStr).getD ""
  iconPath := (found.2.iconName.map cStr).getD ""
  deliveryTimeRange := (found.1.deliveryTimeRange.map cStr).getD "20~30분"
  rating := found.1.rating.getD Double.zero
  reviewCount := found.1.reviewCount.getD 0
  minOrderAmount := found.1.minOrderAmount.getD 0
  deliveryFee := found.1.deliveryFee.getD 0

/-- What the list of all stores shows of a store. -/
def shownOfAll (found : StoredStore D × StoredCategory) : Dto.TopStoreInfo D where
  storeId := found.1.storeId
  storeName := found.1.storeName
  category := found.1.category
  iconPath := found.2.iconName.getD ""
  deliveryTimeRange := found.1.deliveryTimeRange.getD ""
  rating := found.1.rating.getD Double.zero
  reviewCount := found.1.reviewCount.getD 0
  minOrderAmount := found.1.minOrderAmount.getD 0
  deliveryFee := found.1.deliveryFee.getD 0

/-- What the list for a request shows. -/
def shownFor (categoryId : Int32) (brandName : String) :
    StoredStore D × StoredCategory → Dto.TopStoreInfo D :=
  if categoryId = 0 ∧ brandName = "" then shownOfAll else shownOfCategory

theorem read_storeOfCategory (found : StoredStore D × StoredCategory) :
    (StoreDAO.storeOfCategory (listRow found)).read db.rows = .ok (shownOfCategory found) := by
  simp [StoreDAO.storeOfCategory, listRow, shownOfCategory, ResultRow.of, List.lookup_cons]

theorem read_anyStore (found : StoredStore D × StoredCategory) :
    (StoreDAO.anyStore (listRow found)).read db.rows = .ok (shownOfAll found) := by
  simp [StoreDAO.anyStore, listRow, shownOfAll, ResultRow.of, List.lookup_cons]

theorem read_getAllStores : (StoreDAO.getAllStores : DbProg D _).read db.rows =
    .ok ((orderByDesc (fun found => found.1.rank) db.joined).map shownOfAll) := by
  refine DbProg.read_selectEach ?_ fun _ found => read_anyStore db found
  change (orderByDesc _ (if StoreTables.allQuery = StoreTables.allQuery then db.joined else [])).map
    listRow = _
  rw [if_pos rfl]

theorem read_getStoresByCategory (categoryId : Int32) (brandName : String) :
    (StoreDAO.getStoresByCategory categoryId brandName).read db.rows =
      .ok ((orderByDesc (fun found => found.1.rank) (db.ofCategory categoryId)).map
        shownOfCategory) := by
  refine DbProg.read_selectEach ?_ fun _ found => read_storeOfCategory db found
  change (orderByDesc _ (if StoreTables.categoryQuery = StoreTables.categoryQuery then
    db.ofCategory categoryId else [])).map listRow = _
  rw [if_pos rfl]

variable (others : (o : PageOp D) → o.Res) {text : JsonParser D} {jsonBody : String} {req : Json D}
  {categoryId : Int32} {brandName : String}

theorem eval_handleStoreListRequest (hread : text.read jsonBody = .ok req)
    (hcategory : Dto.fieldWithDefault req "categoryId" (0 : Int32) = .ok categoryId)
    (hbrand : Dto.fieldWithDefault req "brandName" "" = .ok brandName) :
    ∃ ops : List (DbOp D), (handleStoreListRequest text jsonBody).eval (reading db.rows others) =
      (.ok (), ops.map PageOp.db ++ [.sendPacket CmdID.RES_STORE_LIST
        (some (storeList 200 ((listedStores db categoryId brandName).map
          (shownFor categoryId brandName))))]) := by
  rw [handleStoreListRequest, listedStores, shownFor]
  by_cases hall : categoryId = 0 ∧ brandName = ""
  · obtain ⟨ops, hops⟩ := eval_db_reading db.rows others (read_getAllStores db)
    refine ⟨ops, ?_⟩
    simp only [Prog.eval_tryCatch, Prog.eval_bind, eval_parse, hread, getOr, eval_convert,
      hcategory, hbrand, if_pos hall, hops, Except.mapError]
    rfl
  · obtain ⟨ops, hops⟩ := eval_db_reading db.rows others
      (read_getStoresByCategory db categoryId brandName)
    refine ⟨ops, ?_⟩
    simp only [Prog.eval_tryCatch, Prog.eval_bind, eval_parse, hread, getOr, eval_convert,
      hcategory, hbrand, if_neg hall, hops, Except.mapError]
    rfl

end Handler

/-! ### A closed store -/

/-- A store that is closed. -/
def closedStore : StoredStore Float :=
  ⟨7, "쟁반짜장", "중식", none, some 0, some 120, none, none, none, none, none⟩

def closedTables : StoreTables Float (id : String → String) where
  stores := [closedStore]
  categories := [⟨2, "중식", none⟩]
  primaryKey := by decide
  uniqueNames := by decide

def allStores : Json Float := .object [("categoryId", .numberInteger 0)]

end ItsBedalyo.Pages.StoreHandler
