import ItsBedalyo.Handler.StoreLists
import ItsBedalyo.Lib.Partitions

/-!
# The main page

`handleCategoryRequest` sends every client that connects the food categories, the brands of the
convenience stores and marts, and for each category the store that has sold the most, found with
`ROW_NUMBER() OVER (PARTITION BY category ORDER BY total_sales DESC)`.

The query for the best stores does not ask whether a store is open, which that of the list of a
category does. So the two pages agree on who is best, but what the main page shows may be missing
from the list (`home_top_listed_iff`).
-/

namespace ItsBedalyo.Pages.CategoryHandler

open Page Relational StoreHandler

variable {κ D : Type} [DecidableEq κ] [Double D]

/-- The tables, and how the database chooses among best-selling stores and spellings of a brand. -/
structure HomeTables (D : Type) (key : String → κ) extends StoreTables D key where
  categoryKey : (categories.map (·.categoryId)).Nodup
  topOfEach : FirstOfEach (fun store : StoredStore D => key store.category) StoredStore.rank
  distinct : FirstOfEach key fun _ => (0 : ℕ)

section Queries

/-- The query of `foodCategories`. -/
def foodQuery : String :=
  "SELECT category_id, name, icon_name FROM CATEGORIES " ++
  "WHERE name NOT IN ('편의점', '마트') ORDER BY category_id ASC"

/-- The query of `brandCategories`. -/
def brandQuery : String :=
  "SELECT DISTINCT brand_name FROM STORES WHERE category IN ('편의점', '마트') " ++
  "AND brand_name IS NOT NULL"

/-- The query of `getTopStoresByCategory`. -/
def topQuery : String :=
  "SELECT S.store_id, S.store_name, S.category, C.icon_name, " ++
  "S.delivery_time_range, S.rating, S.review_count, S.min_order_amount, S.delivery_fee " ++
  "FROM (SELECT store_id, store_name, category, total_sales, " ++
  "delivery_time_range, rating, review_count, min_order_amount, delivery_fee, " ++
  "ROW_NUMBER() OVER (PARTITION BY category ORDER BY total_sales DESC) as rnk " ++
  "FROM STORES) as S JOIN CATEGORIES C ON S.category = C.name " ++
  "WHERE S.rnk = 1 ORDER BY S.total_sales DESC"

end Queries

namespace HomeTables

variable {key : String → κ} (db : HomeTables D key)

variable (key) in
/-- `… IN ('편의점', '마트')` -/
def isShop (name : String) : Bool := key name = key "편의점" ∨ key name = key "마트"

/-- The categories of food, in the order of their numbers. -/
def food : List StoredCategory :=
  orderByDesc (fun category => OrderDual.toDual category.categoryId.toInt)
    (db.categories.filter fun category => !isShop key category.name)

/-- The brands of the shops. -/
def shopBrands : List String :=
  (db.stores.filter fun store => isShop key store.category).filterMap (·.brandName)

/-- The stores of rank 1, with their categories. -/
def topStores : List (StoredStore D × StoredCategory) :=
  orderByDesc (fun found => found.1.rank)
    (join (StoreTables.inCategory key) (db.topOfEach.choose db.stores) db.categories)

/-- A row of the food categories. -/
def foodRow (category : StoredCategory) : ResultRow D := .of
  [("category_id", .int category.categoryId), ("name", .string category.name),
   ("icon_name", .ofText? category.iconName)]

/-- What the queries find. -/
def rows (query : String) (params : List SqlParam) : List (ResultRow D) :=
  if query = foodQuery then db.food.map foodRow
  else if query = brandQuery then
    (db.distinct.choose db.shopBrands).map fun brandName => .of [("brand_name", .string brandName)]
  else if query = topQuery then db.topStores.map listRow
  else db.toStoreTables.rows query params

end HomeTables

/-! ### What the page shows -/

section Shown

variable {key : String → κ} (db : HomeTables D key)

/-- What the page shows of a category. -/
def shownCategory (category : StoredCategory) : CategoryItem where
  id := category.categoryId
  name := category.name
  iconPath := category.iconName.getD ""

omit [Double D] in
theorem textOr_string (s otherwise : String) : (.string s : Cell D).textOr otherwise = s := rfl

theorem read_foodCategories :
    (foodCategories : DbProg D _).read db.rows = .ok (db.food.map shownCategory) := by
  have hrows : db.rows foodQuery [] = db.food.map HomeTables.foodRow := if_pos rfl
  have hread : (foodCategories : DbProg D _).read db.rows =
      (DbProg.forEach (fun _ row => do
        let id ← DbProg.getInt row "category_id"
        let name ← DbProg.stringOr row "name" ""
        let iconPath ← DbProg.stringOr row "icon_name" ""
        pure { id, name, iconPath : CategoryItem }) 0 (db.rows foodQuery [])).read db.rows := rfl
  rw [hread, hrows]
  refine DbProg.read_forEach (fun _ category => ?_) 0 db.food
  simp [HomeTables.foodRow, shownCategory, ResultRow.of, List.lookup_cons, textOr_string]

/-- The three queries of the page and that of a category's list are different texts. -/
theorem queries_ne : brandQuery ≠ foodQuery ∧ topQuery ≠ foodQuery ∧ topQuery ≠ brandQuery ∧
    StoreTables.categoryQuery ≠ foodQuery ∧ StoreTables.categoryQuery ≠ brandQuery ∧
    StoreTables.categoryQuery ≠ topQuery := by
  decide +kernel

theorem read_brandCategories : (brandCategories : DbProg D _).read db.rows =
    .ok (db.distinct.choose db.shopBrands) := by
  have hrows : db.rows brandQuery [] = (db.distinct.choose db.shopBrands).map fun brandName =>
      .of [("brand_name", .string brandName)] := (if_neg queries_ne.1).trans (if_pos rfl)
  have hread : (brandCategories : DbProg D _).read db.rows =
      (DbProg.forEach (fun _ row => DbProg.getString row "brand_name") 0
        (db.rows brandQuery [])).read db.rows := rfl
  rw [hread, hrows, ← List.map_id (db.distinct.choose db.shopBrands), List.map_map]
  exact DbProg.read_forEach (fun _ _ => rfl) 0 (db.distinct.choose db.shopBrands)

theorem read_topStore (found : StoredStore D × StoredCategory) :
    (StoreDAO.anyStore (listRow found)).read db.rows = .ok (shownOfAll found) := by
  simp [StoreDAO.anyStore, listRow, shownOfAll, ResultRow.of, List.lookup_cons]

theorem read_getTopStoresByCategory : (StoreDAO.getTopStoresByCategory : DbProg D _).read db.rows =
    .ok (db.topStores.map shownOfAll) := by
  obtain ⟨-, hfood, hbrand, -⟩ := queries_ne
  have hrows : db.rows topQuery [] = db.topStores.map listRow :=
    (if_neg hfood).trans ((if_neg hbrand).trans (if_pos rfl))
  exact DbProg.read_selectEach hrows fun _ found => read_topStore db found

theorem read_storeOfList (found : StoredStore D × StoredCategory) :
    (StoreDAO.storeOfCategory (listRow found)).read db.rows = .ok (shownOfCategory found) := by
  simp [StoreDAO.storeOfCategory, listRow, shownOfCategory, ResultRow.of, List.lookup_cons]

/-- The list of a category is read from the same tables. -/
theorem read_listOfCategory {categoryId : Int32} (hne : categoryId ≠ 0) (brandName : String) :
    (StoreDAO.getStoresByCategory categoryId brandName).read db.rows =
      .ok ((listedStores db.toStoreTables categoryId brandName).map shownOfCategory) := by
  obtain ⟨-, -, -, hfood, hbrand, htop⟩ := queries_ne
  have hlisted : db.toStoreTables.rows StoreTables.categoryQuery [.int categoryId] =
      (orderByDesc (fun found => found.1.rank) (db.ofCategory categoryId)).map listRow := by
    simp only [StoreTables.rows, if_true]
  have hrows : db.rows StoreTables.categoryQuery [.int categoryId] =
      (listedStores db.toStoreTables categoryId brandName).map listRow := by
    rw [listedStores, if_neg fun h => hne h.1, ← hlisted]
    exact (if_neg hfood).trans ((if_neg hbrand).trans (if_neg htop))
  exact DbProg.read_selectEach hrows fun _ found => read_storeOfList db found

variable (others : (o : PageOp D) → o.Res)

theorem eval_handleCategoryRequest : ∃ ops : List (DbOp D),
    (handleCategoryRequest : Page D Unit).eval (reading db.rows others) =
      (.ok (), ops.map PageOp.db ++ [.sendPacket CmdID.RES_CATEGORY
        (some (mainHome 200 (db.food.map shownCategory) (db.distinct.choose db.shopBrands)
          (db.topStores.map shownOfAll)))]) := by
  obtain ⟨ops, hops⟩ := eval_db_reading db.rows others (read_foodCategories db)
  obtain ⟨ops', hops'⟩ := eval_db_reading db.rows others (read_brandCategories db)
  obtain ⟨ops'', hops''⟩ := eval_db_reading db.rows others (read_getTopStoresByCategory db)
  refine ⟨ops ++ (ops' ++ ops''), ?_⟩
  rw [handleCategoryRequest]
  simp only [Prog.eval_tryCatch, Prog.eval_bind, hops, hops', hops'', List.map_append,
    List.append_assoc]
  rfl

end Shown

/-! ### What is wanted -/

section Wanted

variable {key : String → κ} (db : HomeTables D key)

/-- Each category of food once, in the order of their numbers; each brand of a shop in one
spelling; for each category that has a store one of its stores, that no other store of the category
outsells, the best-selling first. -/
structure ExactHome (categories : List StoredCategory) (brands : List String)
    (tops : List (StoredStore D × StoredCategory)) : Prop where
  mem_categories : ∀ category, category ∈ categories ↔ category ∈ db.categories ∧
    ¬(key category.name = key "편의점" ∨ key category.name = key "마트")
  sorted_categories : categories.Pairwise fun a b => a.categoryId.toInt < b.categoryId.toInt
  nodup_brands : (brands.map key).Nodup
  mem_brands : ∀ k, k ∈ brands.map key ↔ ∃ store ∈ db.stores,
    (key store.category = key "편의점" ∨ key store.category = key "마트") ∧
      store.brandName.map key = some k
  mem_tops : ∀ found ∈ tops, found.1 ∈ db.stores ∧ found.2 ∈ db.categories ∧
    key found.1.category = key found.2.name
  best : ∀ found ∈ tops, ∀ store ∈ db.stores, key store.category = key found.2.name →
    store.rank ≤ found.1.rank
  nodup_tops : (tops.map Prod.snd).Nodup
  complete : ∀ category ∈ db.categories, (∃ store ∈ db.stores,
    key store.category = key category.name) → category ∈ tops.map Prod.snd
  sorted_tops : tops.Pairwise fun a b => b.1.rank ≤ a.1.rank

omit [Double D]

theorem isShop_iff {name : String} : HomeTables.isShop key name = true ↔
    key name = key "편의점" ∨ key name = key "마트" := decide_eq_true_iff

theorem mem_topStores {found : StoredStore D × StoredCategory} :
    found ∈ db.topStores ↔ found.1 ∈ db.topOfEach.choose db.stores ∧ found.2 ∈ db.categories ∧
      key found.1.category = key found.2.name := by
  rw [HomeTables.topStores, mem_orderByDesc, mem_join, StoreTables.inCategory, decide_eq_true_eq]

theorem sorted_food : db.food.Pairwise fun a b => a.categoryId.toInt < b.categoryId.toInt := by
  have hnodup : (db.food.map (·.categoryId)).Nodup := by
    have hperm : (db.food.map (·.categoryId)).Perm _ := orderByDesc_perm.map _
    exact hperm.nodup_iff.mpr (db.categoryKey.sublist (List.filter_sublist.map _))
  have hle : db.food.Pairwise fun a b => OrderDual.toDual b.categoryId.toInt ≤
      OrderDual.toDual a.categoryId.toInt := pairwise_orderByDesc
  refine (hle.and (List.pairwise_map.mp hnodup)).imp fun {a b} h => ?_
  exact lt_of_le_of_ne h.1 fun heq => h.2 (Int32.toInt_inj.mp heq)

theorem mem_shopBrands {brandName : String} : brandName ∈ db.shopBrands ↔ ∃ store ∈ db.stores,
    (key store.category = key "편의점" ∨ key store.category = key "마트") ∧
      store.brandName = some brandName := by
  rw [HomeTables.shopBrands, List.mem_filterMap]
  constructor
  · rintro ⟨store, hmem, hbrand⟩
    obtain ⟨hstore, hshop⟩ := List.mem_filter.mp hmem
    exact ⟨store, hstore, isShop_iff.mp hshop, hbrand⟩
  · rintro ⟨store, hstore, hshop, hbrand⟩
    exact ⟨store, List.mem_filter.mpr ⟨hstore, isShop_iff.mpr hshop⟩, hbrand⟩

/-- No category is shown with two stores. -/
theorem nodup_topStores : (db.topStores.map Prod.snd).Nodup := by
  have hnodup : db.topStores.Nodup := by
    refine nodup_orderByDesc.mpr (List.Nodup.of_map Prod.fst ?_)
    refine (nodup_map_fst_join db.topOfEach.nodup).mpr fun store _ => ?_
    exact countP_key_le_one db.uniqueNames (key store.category)
  refine hnodup.map_on fun found hfound found' hfound' hcategory => Prod.ext ?_ hcategory
  obtain ⟨hchosen, -, hkey⟩ := (mem_topStores db).mp hfound
  obtain ⟨hchosen', -, hkey'⟩ := (mem_topStores db).mp hfound'
  refine db.topOfEach.unique hchosen hchosen' ?_
  rw [hkey, hkey', hcategory]

theorem exactHome : ExactHome db db.food (db.distinct.choose db.shopBrands) db.topStores := by
  refine ⟨fun category => ?_, sorted_food db, db.distinct.choose_nodup _, fun k => ?_,
    fun found hfound => ?_, fun found hfound store hstore hkey => ?_, nodup_topStores db,
    fun category hcategory hsome => ?_, pairwise_orderByDesc⟩
  · rw [HomeTables.food, mem_orderByDesc, List.mem_filter, ← isShop_iff]
    simp
  · rw [List.mem_map]
    constructor
    · rintro ⟨brandName, hbrand, rfl⟩
      obtain ⟨store, hstore, hshop, hname⟩ :=
        (mem_shopBrands db).mp (db.distinct.choose_mem hbrand)
      exact ⟨store, hstore, hshop, by rw [hname, Option.map_some]⟩
    · rintro ⟨store, hstore, hshop, hname⟩
      obtain ⟨brandName, hbrand, rfl⟩ := Option.map_eq_some_iff.mp hname
      exact db.distinct.choose_complete ((mem_shopBrands db).mpr ⟨store, hstore, hshop, hbrand⟩)
  · obtain ⟨hchosen, hcategory, hkey⟩ := (mem_topStores db).mp hfound
    exact ⟨db.topOfEach.choose_mem hchosen, hcategory, hkey⟩
  · obtain ⟨hchosen, -, hkey'⟩ := (mem_topStores db).mp hfound
    exact db.topOfEach.choose_best hchosen hstore (hkey.trans hkey'.symm)
  · obtain ⟨store, hstore, hkey⟩ := hsome
    obtain ⟨top, htop, hpart⟩ := db.topOfEach.choose_complete hstore
    refine List.mem_map.mpr ⟨(top, category), (mem_topStores db).mpr ?_, rfl⟩
    exact ⟨htop, hcategory, hpart.trans hkey⟩

/-- The store of the main page on the list of its category. -/
theorem mem_listed_iff {categoryId : Int32} (brandName : String) (hne : categoryId ≠ 0)
    {found : StoredStore D × StoredCategory} (hfound : found ∈ db.topStores)
    (hcategory : found.2.categoryId = categoryId) :
    found ∈ listedStores db.toStoreTables categoryId brandName ↔ found.1.status = some 1 := by
  obtain ⟨hchosen, hmem, hkey⟩ := (mem_topStores db).mp hfound
  have hjoined : found ∈ db.joined :=
    db.mem_joined.mpr ⟨db.topOfEach.choose_mem hchosen, hmem, hkey⟩
  rw [mem_listedStores, and_iff_right hjoined, imp_iff_right fun h => hne h.1]
  exact and_iff_right hcategory

/-- Whoever is on the list of a category has not sold more. -/
theorem rank_le_of_listed {categoryId : Int32} {brandName : String} (hne : categoryId ≠ 0)
    {found other : StoredStore D × StoredCategory} (hfound : found ∈ db.topStores)
    (hcategory : found.2.categoryId = categoryId)
    (hother : other ∈ listedStores db.toStoreTables categoryId brandName) :
    other.1.rank ≤ found.1.rank := by
  obtain ⟨hjoined, hlisted⟩ := (mem_listedStores db.toStoreTables categoryId brandName).mp hother
  obtain ⟨hstore, hmem, hkey⟩ := db.mem_joined.mp hjoined
  obtain ⟨-, hmem', -⟩ := (mem_topStores db).mp hfound
  obtain ⟨hcategory', -⟩ := hlisted fun h => hne h.1
  have hsame : other.2 = found.2 :=
    List.inj_on_of_nodup_map db.categoryKey hmem hmem' (hcategory'.trans hcategory.symm)
  exact (exactHome db).best found hfound other.1 hstore (hsame ▸ hkey)

end Wanted

/-! ### The two pages -/

section Pages

variable {key : String → κ} (db : HomeTables D key) (others : (o : PageOp D) → o.Res)

/-- A closed store that has sold the most, and an open one. -/
def lunchTables : HomeTables Float (id : String → String) where
  stores := [closedStore, { closedStore with storeId := 8, status := some 1, totalSales := some 9 }]
  categories := [⟨2, "중식", none⟩, ⟨5, "마트", none⟩]
  primaryKey := by decide
  uniqueNames := by decide
  categoryKey := by decide
  topOfEach := .sorted _ _
  distinct := .sorted _ _

def chinese : Json Float := .object [("categoryId", .numberInteger 2)]

end Pages

end ItsBedalyo.Pages.CategoryHandler
