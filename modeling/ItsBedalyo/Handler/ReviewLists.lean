import ItsBedalyo.Handler.PageFaults
import ItsBedalyo.Handler.SearchBindings
import ItsBedalyo.Lib.Relational
import Mathlib.Data.String.Basic

/-!
# The lists of reviews

`handleReviewList` tests the signs of its two numbers, and rejects a request only if both are zero:
a negative number is no filter. The list of a menu is a join with the lines of the orders, and has a
review once for each line. `handleMenuReviewList` makes the same join for every menu but zero, and
takes the texts as they are, where the other list cuts them at a NUL.
-/

namespace ItsBedalyo.Pages.ReviewHandler

open Page Relational

variable {κ D : Type} [DecidableEq κ] [Double D]

/-- A row of `REVIEWS`. -/
structure StoredReview where
  reviewId : Int32
  orderId : String
  userId : String
  storeId : Int32
  rating : Int32
  content : String
  ownerReply : Option String
  createdAt : String
  deriving DecidableEq

def StoredReview.row (review : StoredReview) : ResultRow D := .of
  [("review_id", .int review.reviewId), ("user_id", .string review.userId),
   ("rating", .int review.rating), ("content", .string review.content),
   ("owner_reply", .ofText? review.ownerReply), ("created_at", .string review.createdAt)]

/-- What a list shows of it. -/
def StoredReview.shown (ofText : String → String) (review : StoredReview) : Json D := .object
  [("reviewId", encode review.reviewId), ("userId", encode (ofText review.userId)),
   ("rating", encode review.rating), ("content", encode (ofText review.content)),
   ("ownerReply", encode (ofText (review.ownerReply.getD ""))),
   ("createdAt", encode (ofText review.createdAt))]

/-- None of its texts has a NUL. -/
def StoredReview.NulFree (review : StoredReview) : Prop :=
  ∀ s ∈ [review.userId, review.content, review.ownerReply.getD "", review.createdAt],
    '\x00' ∉ s.toList

/-- The tables; `key` is what an order id is under its collation. A line of `ORDER_ITEMS` is an
order and a menu. -/
structure ReviewTables (key : String → κ) where
  reviews : List StoredReview
  items : List (String × Int32)
  primaryKey : (reviews.map (·.reviewId)).Nodup

namespace ReviewTables

variable {key : String → κ} (db : ReviewTables key)

variable (key) in
/-- `R.order_id = OI.order_id`, and the menu. -/
def onMenu (menuId : Int32) (review : StoredReview) (item : String × Int32) : Bool :=
  key review.orderId = key item.1 ∧ item.2 = menuId

/-- The reviews of a menu, one for each line. -/
def reviewsOfMenu (menuId : Int32) : List StoredReview :=
  (join (onMenu key menuId) db.reviews db.items).map Prod.fst

/-- What the queries find. -/
def rows (query : String) (params : List SqlParam) : List (ResultRow D) :=
  let found :=
    match params with
    | [.int id] =>
      if query = reviewListQuery 1 0 then db.reviews.filter (·.storeId = id)
      else if query = reviewListQuery 0 1 ∨ query = menuReviewListQuery then db.reviewsOfMenu id
      else []
    | _ => if query = reviewListQuery 0 0 then db.reviews else []
  (orderByDesc (·.createdAt) found).map StoredReview.row

end ReviewTables

/-! ### The texts -/

theorem reviewListQuery_of_menu {storeId menuId : Int32} (h : menuId > 0) :
    reviewListQuery storeId menuId = reviewListQuery 0 1 := by
  have hmenu : ¬(storeId > 0 ∧ menuId = 0) := by
    rintro ⟨-, rfl⟩
    exact absurd h (by decide)
  have hone : (1 : Int32) > 0 := by decide
  have hstore : ¬((0 : Int32) > 0 ∧ (1 : Int32) = 0) := by decide
  unfold reviewListQuery
  rw [if_pos h, if_neg hmenu, if_pos h, if_pos hone, if_neg hstore, if_pos hone]

theorem reviewListQuery_of_store {storeId : Int32} (h : storeId > 0) :
    reviewListQuery storeId 0 = reviewListQuery 1 0 := by
  have hzero : ¬(0 : Int32) > 0 := by decide
  have hstore : storeId > 0 ∧ (0 : Int32) = 0 := ⟨h, rfl⟩
  have hone : (1 : Int32) > 0 ∧ (0 : Int32) = 0 := by decide
  unfold reviewListQuery
  rw [if_neg hzero, if_pos hstore, if_neg hzero, if_pos hone]

theorem reviewListQuery_of_neither {storeId menuId : Int32} (hmenu : ¬menuId > 0)
    (hstore : ¬(storeId > 0 ∧ menuId = 0)) :
    reviewListQuery storeId menuId = reviewListQuery 0 0 := by
  have hzero : ¬(0 : Int32) > 0 := by decide
  have hnone : ¬((0 : Int32) > 0 ∧ (0 : Int32) = 0) := by decide
  unfold reviewListQuery
  rw [if_neg hmenu, if_neg hstore, if_neg hmenu, if_neg hzero, if_neg hnone, if_neg hzero]

/-- The lists of a menu and of a store are asked for in different words. -/
theorem reviewListQuery_ne : reviewListQuery 0 1 ≠ reviewListQuery 1 0 := by
  intro h
  have hsummaries := congrArg Sql.summary h
  rw [Search.summary_reviewListQuery, Search.summary_reviewListQuery] at hsummaries
  exact absurd hsummaries (by decide)

theorem summary_menuReviewListQuery :
    Sql.summary menuReviewListQuery = (1, [("OI.menu_id", "=")]) := by
  unfold menuReviewListQuery
  rw [Sql.summary, String.toList_append, String.toList_append, String.toList_ofList,
    String.toList_ofList, String.toList_ofList]
  decide +kernel

theorem menuReviewListQuery_ne : menuReviewListQuery ≠ reviewListQuery 1 0 := by
  intro h
  have hsummaries := congrArg Sql.summary h
  rw [summary_menuReviewListQuery, Search.summary_reviewListQuery] at hsummaries
  exact absurd hsummaries (by decide)

/-! ### What the handlers find and show -/

section Lists

variable {key : String → κ} (db : ReviewTables key)

/-- The reviews of `handleReviewList`. -/
def listed (storeId menuId : Int32) : List StoredReview :=
  orderByDesc (·.createdAt)
    (if menuId > 0 then db.reviewsOfMenu menuId
    else if storeId > 0 ∧ menuId = 0 then db.reviews.filter (·.storeId = storeId)
    else db.reviews)

/-- The reviews of `handleMenuReviewList`. -/
def listedOfMenu (menuId : Int32) : List StoredReview :=
  orderByDesc (·.createdAt) (db.reviewsOfMenu menuId)

omit [Double D]

theorem rows_reviewList (storeId menuId : Int32) :
    db.rows (reviewListQuery storeId menuId) (reviewListParams storeId menuId) =
      (listed db storeId menuId).map (StoredReview.row (D := D)) := by
  by_cases hmenu : menuId > 0
  · have hstore : ¬(storeId > 0 ∧ menuId = 0) := by
      rintro ⟨-, rfl⟩
      exact absurd hmenu (by decide)
    rw [reviewListParams, if_neg hstore, if_pos hmenu, reviewListQuery_of_menu hmenu, listed,
      if_pos hmenu, List.nil_append]
    simp only [ReviewTables.rows, if_neg reviewListQuery_ne, true_or, if_true]
  · by_cases hstore : storeId > 0 ∧ menuId = 0
    · obtain ⟨hpos, rfl⟩ := hstore
      rw [reviewListParams, if_pos ⟨hpos, rfl⟩, if_neg hmenu, reviewListQuery_of_store hpos, listed,
        if_neg hmenu, if_pos ⟨hpos, rfl⟩, List.append_nil]
      simp only [ReviewTables.rows, if_true]
    · rw [reviewListParams, if_neg hstore, if_neg hmenu, reviewListQuery_of_neither hmenu hstore,
        listed, if_neg hmenu, if_neg hstore, List.append_nil]
      simp only [ReviewTables.rows, if_true]

theorem rows_menuReviewList (menuId : Int32) :
    db.rows menuReviewListQuery [.int menuId] =
      (listedOfMenu db menuId).map (StoredReview.row (D := D)) := by
  simp only [ReviewTables.rows, if_neg menuReviewListQuery_ne, or_true, if_true, listedOfMenu]

theorem read_listedReview [Double D] (ofText : String → String) (review : StoredReview) :
    (listedReview ofText review.row : DbProg D _).read db.rows = .ok (review.shown ofText) := by
  simp [listedReview, StoredReview.row, StoredReview.shown, ResultRow.of, List.lookup_cons]

theorem read_reviews [Double D] (ofText : String → String) {query : String}
    {params : List SqlParam} {found : List StoredReview}
    (h : db.rows query params = found.map (StoredReview.row (D := D))) :
    (reviews ofText query params).read db.rows =
      .ok (found.map (StoredReview.shown (D := D) ofText)) := by
  rw [reviews, DbProg.read_bind, DbProg.read_select, h]
  exact DbProg.read_forEach (fun _ review => read_listedReview db ofText review) 0 found

end Lists

/-! ### Exact lists -/

section Exact

variable {key : String → κ} (db : ReviewTables key) (storeId menuId : Int32)

/-- The reviews that a request asks for: of its store, or of the orders with its menu. -/
def Wanted (review : StoredReview) : Prop :=
  review ∈ db.reviews ∧
    if menuId = 0 then review.storeId = storeId
    else menuId > 0 ∧ ∃ item ∈ db.items, ReviewTables.onMenu key menuId review item = true

/-- Every wanted review once, and no other. -/
def Exact (found : List StoredReview) : Prop :=
  found.Nodup ∧ ∀ review, review ∈ found ↔ Wanted db storeId menuId review

/-- For a menu, no reviewed order has it on two lines, and no such review has a NUL. For a store,
its number is positive, or there are no reviews of other stores. For a negative menu, there are no
reviews at all. -/
def Listable : Prop :=
  if menuId > 0 then ∀ review ∈ db.reviews,
    db.items.countP (ReviewTables.onMenu key menuId review) ≤ 1 ∧
      ((∃ item ∈ db.items, ReviewTables.onMenu key menuId review item = true) →
        review.NulFree)
  else if menuId = 0 then storeId > 0 ∨ ∀ review ∈ db.reviews, review.storeId = storeId
  else db.reviews = []

omit [DecidableEq κ] in
theorem ReviewTables.nodup : db.reviews.Nodup := db.primaryKey.of_map _

theorem exact_of_menu (h : menuId > 0) :
    Exact db storeId menuId (listed db storeId menuId) ↔
      ∀ review ∈ db.reviews,
        db.items.countP (ReviewTables.onMenu key menuId review) ≤ 1 := by
  have hne : menuId ≠ 0 := by
    rintro rfl
    exact absurd h (by decide)
  rw [listed, if_pos h, Exact, nodup_orderByDesc, ReviewTables.reviewsOfMenu,
    nodup_map_fst_join db.nodup]
  refine and_iff_left fun review => ?_
  rw [mem_orderByDesc, mem_map_fst_join, Wanted, if_neg hne]
  exact and_congr_right fun _ => (and_iff_right h).symm

theorem exact_of_store : Exact db storeId 0 (listed db storeId 0) ↔
    storeId > 0 ∨ ∀ review ∈ db.reviews, review.storeId = storeId := by
  have hzero : ¬(0 : Int32) > 0 := by decide
  rw [listed, if_neg hzero, Exact, nodup_orderByDesc]
  simp only [mem_orderByDesc, Wanted, if_true, and_true]
  by_cases hstore : storeId > 0
  · rw [if_pos hstore]
    refine iff_of_true ⟨db.nodup.filter _, fun review => ?_⟩ (.inl hstore)
    rw [List.mem_filter, decide_eq_true_eq]
  · rw [if_neg hstore, or_iff_right hstore, and_iff_right db.nodup]
    exact ⟨fun h review hmem => ((h review).mp hmem).2,
      fun h review => ⟨fun hmem => ⟨hmem, h review hmem⟩, And.left⟩⟩

theorem exact_of_negative (hne : menuId ≠ 0) (h : ¬menuId > 0) :
    Exact db storeId menuId (listed db storeId menuId) ↔ db.reviews = [] := by
  have hstore : ¬(storeId > 0 ∧ menuId = 0) := fun hstore => hne hstore.2
  rw [listed, if_neg h, if_neg hstore, Exact, nodup_orderByDesc, and_iff_right db.nodup]
  simp only [mem_orderByDesc, Wanted, if_neg hne, h, false_and, and_false, iff_false]
  exact List.eq_nil_iff_forall_not_mem.symm

/-- A list that cuts texts shows the review as it is, unless there is something to cut. -/
theorem shown_cStr_eq {D : Type} [Double D] (review : StoredReview) :
    (review.shown cStr : Json D) = review.shown id ↔ review.NulFree := by
  simp [StoredReview.shown, StoredReview.NulFree, LawfulCodec.encode_inj, cStr_eq_self]

/-- **The lists of reviews.** They are exact, and those of a menu the same, exactly where they are
listable. -/
theorem exact_and_same_iff {D : Type} [Double D] :
    (Exact db storeId menuId (listed db storeId menuId) ∧ (menuId ≠ 0 →
      (listed db storeId menuId).map (StoredReview.shown (D := D) cStr) =
        (listedOfMenu db menuId).map (StoredReview.shown (D := D) id))) ↔
      Listable db storeId menuId := by
  by_cases hmenu : menuId > 0
  · have hne : menuId ≠ 0 := by
      rintro rfl
      exact absurd hmenu (by decide)
    have hlisted : listed db storeId menuId = listedOfMenu db menuId := by
      rw [listed, if_pos hmenu, listedOfMenu]
    rw [exact_of_menu db storeId menuId hmenu, Listable, if_pos hmenu, imp_iff_right hne, hlisted,
      List.map_inj_left]
    simp only [shown_cStr_eq, listedOfMenu, mem_orderByDesc, ReviewTables.reviewsOfMenu,
      mem_map_fst_join]
    constructor
    · rintro ⟨hone, hplain⟩ review hreview
      exact ⟨hone review hreview, fun hline => hplain review ⟨hreview, hline⟩⟩
    · intro h
      exact ⟨fun review hreview => (h review hreview).1,
        fun review hline => (h review hline.1).2 hline.2⟩
  · rw [Listable, if_neg hmenu]
    by_cases hzero : menuId = 0
    · subst hzero
      rw [if_pos rfl, exact_of_store]
      exact and_iff_left fun hne => absurd rfl hne
    · rw [if_neg hzero, exact_of_negative db storeId menuId hzero hmenu]
      refine and_iff_left_of_imp fun hnone _ => ?_
      have hstore : ¬(storeId > 0 ∧ menuId = 0) := fun hstore => hzero hstore.2
      rw [listed, if_neg hmenu, if_neg hstore, listedOfMenu, ReviewTables.reviewsOfMenu, hnone]
      simp [orderByDesc, join]

end Exact

/-! ### The two handlers -/

section Handlers

variable {key : String → κ} (db : ReviewTables key) (others : (o : PageOp D) → o.Res)
  {text : JsonParser D} {jsonBody : String} {req : Json D} {storeId menuId : Int32}

/-- What `handleReviewList` replies. -/
def reviewListReply (storeId menuId : Int32) (found : List StoredReview) : Json D := .object
  [("status", encode (200 : Int32)), ("message", encode "조회 성공"),
   ("storeId", encode storeId), ("menuId", encode menuId),
   ("reviews", .array (found.map (StoredReview.shown cStr)))]

/-- What `handleMenuReviewList` replies. -/
def menuReviewListReply (menuId : Int32) (found : List StoredReview) : Json D := .object
  [("status", encode (200 : Int32)), ("message", encode "조회 성공"),
   ("menuId", encode menuId), ("reviews", .array (found.map (StoredReview.shown id)))]

theorem eval_handleReviewList (hread : text.read jsonBody = .ok req)
    (hstore : req.value "storeId" (0 : Int32) = .ok storeId)
    (hmenu : req.value "menuId" (0 : Int32) = .ok menuId) (hasked : ¬(storeId = 0 ∧ menuId = 0)) :
    ∃ ops : List (DbOp D), (handleReviewList text jsonBody).eval (reading db.rows others) =
      (.ok (), ops.map PageOp.db ++ [.sendPacket CmdID.RES_REVIEW_LIST
        (some (reviewListReply storeId menuId (listed db storeId menuId)))]) := by
  obtain ⟨ops, hops⟩ := eval_db_reading db.rows others
    (read_reviews db cStr (rows_reviewList db storeId menuId))
  refine ⟨ops, ?_⟩
  rw [handleReviewList]
  simp only [Prog.eval_tryCatch, Prog.eval_bind, eval_parse, hread, eval_value, hstore, hmenu,
    if_neg hasked, hops, Except.mapError]
  rfl

theorem eval_handleMenuReviewList (hread : text.read jsonBody = .ok req)
    (hmenu : req.value "menuId" (0 : Int32) = .ok menuId) (hasked : menuId ≠ 0) :
    ∃ ops : List (DbOp D), (handleMenuReviewList text jsonBody).eval (reading db.rows others) =
      (.ok (), ops.map PageOp.db ++ [.sendPacket CmdID.RES_MENU_REVIEW_LIST
        (some (menuReviewListReply menuId (listedOfMenu db menuId)))]) := by
  obtain ⟨ops, hops⟩ := eval_db_reading db.rows others
    (read_reviews db id (rows_menuReviewList db menuId))
  refine ⟨ops, ?_⟩
  rw [handleMenuReviewList]
  simp only [Prog.eval_tryCatch, Prog.eval_bind, eval_parse, hread, eval_value, hmenu,
    if_neg hasked, hops, Except.mapError]
  rfl

end Handlers

/-! ### A menu on two lines of one order -/

/-- The order of the review has menu 5 twice, with different options. -/
def twoLines : ReviewTables (id : String → String) where
  reviews := [⟨1, "ORD-1", "hong", 3, 5, "맛있어요", none, "2026-03-17 12:00:00"⟩]
  items := [("ORD-1", 5), ("ORD-1", 5)]
  primaryKey := by decide

def menuRequest : Json Float :=
  .object [("storeId", .numberInteger 3), ("menuId", .numberInteger 5)]

end ItsBedalyo.Pages.ReviewHandler
