import ItsBedalyo.Handler.LinearPages
import ItsBedalyo.Handler.ReviewLists
import ItsBedalyo.Lib.Partitions

/-!
# Reviews, answered and looked at at the same time

The requests of `ReviewHandler.cpp` are handled at the same time, one call at a time, in any order,
and any call of the database may throw. Each sends one statement or query for `REVIEWS`, so that it
is as good as done at once (`reviews_of_run`): a list is the list of one moment, and an owner is
told that there is no such review exactly if there was none when the answer was to be stored.

Rows that are equally old come in any order. The driver counts the rows that an update has matched.
-/

namespace ItsBedalyo.Pages.ReviewBoard

open Dto Ledger OneStep Relational ReviewHandler Transition

variable {κ ι D : Type} [DecidableEq κ] [Double D] {key : String → κ}

/-! ### What the calls do -/

def replyQuery : String := "UPDATE REVIEWS SET owner_reply = ? WHERE review_id = ? AND store_id = ?"

/-- Such a row is updated. -/
def answers (reviewId storeId : Int32) (review : StoredReview) : Bool :=
  review.reviewId = reviewId ∧ review.storeId = storeId

/-- `SET owner_reply = ?` -/
def setReply (ownerReply : String) (reviewId storeId : Int32) (review : StoredReview) :
    StoredReview :=
  if answers reviewId storeId review then { review with ownerReply := some ownerReply } else review

theorem setReply_reviewId (ownerReply : String) (reviewId storeId : Int32)
    (review : StoredReview) : (setReply ownerReply reviewId storeId review).reviewId =
      review.reviewId := by
  rw [setReply]
  split <;> rfl

/-- `UPDATE REVIEWS …` -/
def answer (ownerReply : String) (reviewId storeId : Int32) (db : ReviewTables key) :
    ReviewTables key where
  reviews := db.reviews.map (setReply ownerReply reviewId storeId)
  items := db.items
  primaryKey := by
    have hsame : (db.reviews.map (setReply ownerReply reviewId storeId)).map (·.reviewId) =
        db.reviews.map (·.reviewId) := by
      rw [List.map_map]
      exact List.map_congr_left fun review _ => setReply_reviewId _ _ _ review
    rw [hsame]
    exact db.primaryKey

/-- The reviews of `handleReviewList`, in no order. -/
def reviewsFor (db : ReviewTables key) (storeId menuId : Int32) : List StoredReview :=
  if menuId > 0 then db.reviewsOfMenu menuId
  else if storeId > 0 ∧ menuId = 0 then db.reviews.filter (·.storeId = storeId)
  else db.reviews

/-- The reviews that a query asks for, in no order. -/
def asks (db : ReviewTables key) (query : String) : List SqlParam → Option (List StoredReview)
  | [.int id] =>
    if query = reviewListQuery 1 0 then some (db.reviews.filter (·.storeId = id))
    else if query = reviewListQuery 0 1 ∨ query = menuReviewListQuery then
      some (db.reviewsOfMenu id)
    else none
  | [] => if query = reviewListQuery 0 0 then some db.reviews else none
  | _ => none

/-- What a call has done: it has stored an answer where so many rows match, or found reviews, or sent
a packet, or thrown. -/
inductive Event (D : Type)
  | answered (ownerReply : String) (reviewId storeId : Int32) (matched : ℕ)
  | listed (query : String) (params : List SqlParam) (found : List StoredReview)
  | replied (packet : Packet D)
  | failed

namespace Event

/-- What an event does to the tables. -/
def effect : Event D → ReviewTables key → ReviewTables key
  | answered ownerReply reviewId storeId _, db => answer ownerReply reviewId storeId db
  | _, db => db

/-- What holds where it happens. -/
def Holds (db : ReviewTables key) : Event D → Prop
  | answered _ reviewId storeId matched => matched = db.reviews.countP (answers reviewId storeId)
  | listed query params found =>
    ∃ rows, asks db query params = some rows ∧ Ordered (·.createdAt) rows found
  | _ => True

def packet : Event D → Option (Packet D)
  | replied packet => some packet
  | _ => none

end Event

variable (key) in
/-- What the calls do; the order of the rows is up to the database. No other statement or query is
sent. -/
def ledger : Ledger D (ReviewTables key) (List StoredReview) (Event D) where
  write db _ query params :=
    match params with
    | [.string ownerReply, .int reviewId, .int storeId] =>
      if query = replyQuery then
        let matched := db.reviews.countP (answers reviewId storeId)
        some (matched, some (.answered ownerReply reviewId storeId matched))
      else none
    | _ => none
  find db order query params :=
    (asks db query params).bind fun rows =>
      if Ordered (·.createdAt) rows order then
        some (order.map StoredReview.row, some (.listed query params order))
      else none
  after db _ event := event.effect db
  sent cmdId body := .replied (cmdId, body)
  failed := .failed

/-! ### The requests -/

/-- The requests. -/
inductive Kind
  | list
  | menuList
  | reply
  deriving DecidableEq

/-- The number of the packet. -/
def Kind.cmdId : Kind → CmdID
  | list => .RES_REVIEW_LIST
  | menuList => .RES_MENU_REVIEW_LIST
  | reply => .RES_REVIEW_REPLY

/-- The reply to a body that lacks something. -/
def Kind.rejection : Kind → Json D
  | list => statusMessage 400 "storeId 또는 menuId가 필요합니다."
  | menuList => statusMessage 400 "정확한 menuId를 입력해주세요."
  | reply => statusMessage 400 "reviewId, storeId, ownerReply 중 누락된 값이 있습니다."

/-- The reply where something is thrown. -/
def Kind.failure : Kind → Json D
  | menuList => statusOnly 500
  | _ => statusMessage 500 "서버 내부 오류"

/-- What is asked for. -/
inductive Asked
  | list (storeId menuId : Int32)
  | menuList (menuId : Int32)
  | reply (reviewId storeId : Int32) (ownerReply : String)

/-- What a body asks for, unless it lacks something. -/
def Asked.read (req : Json D) : Kind → Except JsonError (Option Asked)
  | .list => do
    let storeId ← req.value "storeId" (0 : Int32)
    let menuId ← req.value "menuId" (0 : Int32)
    pure (if storeId = 0 ∧ menuId = 0 then none else some (.list storeId menuId))
  | .menuList => do
    let menuId ← req.value "menuId" (0 : Int32)
    pure (if menuId = 0 then none else some (.menuList menuId))
  | .reply => do
    let reviewId ← req.value "reviewId" (0 : Int32)
    let storeId ← req.value "storeId" (0 : Int32)
    let ownerReply ← req.value "ownerReply" ""
    pure (if reviewId = 0 ∨ storeId = 0 ∨ ownerReply = "" then none
      else some (.reply reviewId storeId ownerReply))

/-- What it gets, done at once. -/
def Asked.Done (db : ReviewTables key) (body : Json D) (db' : ReviewTables key) : Asked → Prop
  | list storeId menuId => db' = db ∧ ∃ found,
    Ordered (·.createdAt) (reviewsFor db storeId menuId) found ∧
      body = reviewListReply storeId menuId found
  | menuList menuId => db' = db ∧ ∃ found,
    Ordered (·.createdAt) (db.reviewsOfMenu menuId) found ∧ body = menuReviewListReply menuId found
  | reply reviewId storeId ownerReply => db' = answer ownerReply reviewId storeId db ∧
    body = if ∃ review ∈ db.reviews, answers reviewId storeId review then
      statusMessage 200 "답글 등록 완료"
    else statusMessage 404 "해당 리뷰를 찾을 수 없거나 권한이 없습니다."

structure Request where
  kind : Kind
  jsonBody : String

section Requests

variable (key) (text : JsonParser D) (request : Request)

/-- Its handler. -/
def Request.handle : Page D Unit :=
  match request.kind with
  | .list => handleReviewList text request.jsonBody
  | .menuList => handleMenuReviewList text request.jsonBody
  | .reply => handleReviewReply text request.jsonBody

/-- A request that is done at once. Only where a call has failed may there be nothing. -/
def Request.done : Spec D (ReviewTables key) := fun failed db packet db' =>
  ∃ req body, text.read request.jsonBody = .ok req ∧ packet = (request.kind.cmdId, some body) ∧
    match Asked.read req request.kind with
    | .error _ => db' = db ∧ body = request.kind.failure
    | .ok none => db' = db ∧ body = request.kind.rejection
    | .ok (some asked) =>
      asked.Done db body db' ∨ failed ∧ db' = db ∧ body = request.kind.failure

end Requests

/-! ### One step -/

section Board

variable {text : JsonParser D} {request : Request} {req : Json D}

variable (key) in
omit [Double D] in
/-- What the statements and the queries do. -/
def board : OneStep (ledger key : Ledger D _ _ (Event D)) where
  effect := Event.effect
  holds := Event.Holds
  packet := Event.packet
  write {db order query params n event} h := by
    simp only [ledger] at h
    split at h
    · obtain ⟨-, heq⟩ := Option.ite_none_right_eq_some.mp h
      cases heq
      rfl
    · cases h
  find {db order query params rows event} h := by
    obtain ⟨rows', hasks, h⟩ := Option.bind_eq_some_iff.mp h
    obtain ⟨hordered, heq⟩ := Option.ite_none_right_eq_some.mp h
    cases heq
    exact ⟨rows', hasks, hordered⟩
  sent _ _ _ := ⟨trivial, rfl⟩
  failed _ := ⟨trivial, rfl⟩
  after _ _ _ := rfl
  packet_sent _ _ := rfl
  packet_failed := rfl

theorem widens_done : Widens (request.done key text) := by
  rintro p q db packet db' hpq ⟨req, body, hread, hpacket, hdone⟩
  refine ⟨req, body, hread, hpacket, ?_⟩
  cases hasked : Asked.read req request.kind with
  | error e =>
    rw [hasked] at hdone
    exact hdone
  | ok asked =>
    rw [hasked] at hdone
    cases asked with
    | none => exact hdone
    | some asked => exact hdone.imp_right (And.imp_left hpq)

variable (text key) in
/-- The calls of a request that does what it may. -/
abbrev boarding (request : Request) : Interface (@PageOp.Res D) Exn (List (Event D)) :=
  (ledger key : Ledger D _ _ _).permits ((board key).May (request.done key text))

section Fits

variable (hread : text.read request.jsonBody = .ok req)

include hread

/-- A body that asks for nothing. -/
theorem fits_nothing {body : Json D} (packet : Packet D) (failed : Prop)
    (h : (∃ e, Asked.read req request.kind = .error e) ∧ body = request.kind.failure ∨
      Asked.read req request.kind = .ok none ∧ body = request.kind.rejection) :
    (board key).Fits (request.done key text) failed (.replied packet)
      (request.kind.cmdId, some body) := by
  intro db _
  refine ⟨req, body, hread, rfl, ?_⟩
  rcases h with ⟨⟨e, he⟩, hbody⟩ | ⟨hnone, hbody⟩
  · rw [he]
    exact ⟨rfl, hbody⟩
  · rw [hnone]
    exact ⟨rfl, hbody⟩

variable {asked : Asked} (hasked : Asked.read req request.kind = .ok (some asked))

include hasked

/-- Where a call has failed. -/
theorem fits_failed (event : Event D)
    (hevent : ∀ db : ReviewTables key, event.effect db = db) :
    (board key).Fits (request.done key text) True event
      (request.kind.cmdId, some request.kind.failure) := by
  intro db _
  refine ⟨req, _, hread, rfl, ?_⟩
  rw [hasked]
  exact .inr ⟨trivial, hevent db, rfl⟩

theorem fits {event : Event D} {body : Json D}
    (h : ∀ db : ReviewTables key, event.Holds db → asked.Done db body (event.effect db))
    (failed : Prop) :
    (board key).Fits (request.done key text) failed event (request.kind.cmdId, some body) := by
  intro db hholds
  refine ⟨req, body, hread, rfl, ?_⟩
  rw [hasked]
  exact .inl (h db hholds)

end Fits

/-! #### The lists -/

section Lists

omit [Double D] in
/-- Two equations, so that the long texts are compared by name and never letter by letter. -/
theorem asks_int (db : ReviewTables key) (query : String) (id : Int32) : asks db query [.int id] =
    if query = reviewListQuery 1 0 then some (db.reviews.filter (·.storeId = id))
    else if query = reviewListQuery 0 1 ∨ query = menuReviewListQuery then
      some (db.reviewsOfMenu id)
    else none := rfl

omit [Double D] in
theorem asks_nil (db : ReviewTables key) (query : String) : asks db query [] =
    if query = reviewListQuery 0 0 then some db.reviews else none := rfl

omit [Double D] in
theorem asks_reviewList (db : ReviewTables key) (storeId menuId : Int32) :
    asks db (reviewListQuery storeId menuId) (reviewListParams storeId menuId) =
      some (reviewsFor db storeId menuId) := by
  by_cases hmenu : menuId > 0
  · have hstore : ¬(storeId > 0 ∧ menuId = 0) := by
      rintro ⟨-, rfl⟩
      exact absurd hmenu (by decide)
    rw [reviewListParams, if_neg hstore, if_pos hmenu, reviewListQuery_of_menu hmenu, reviewsFor,
      if_pos hmenu, List.nil_append, asks_int, if_neg reviewListQuery_ne, if_pos (Or.inl rfl)]
  · by_cases hstore : storeId > 0 ∧ menuId = 0
    · obtain ⟨hpos, rfl⟩ := hstore
      rw [reviewListParams, if_pos ⟨hpos, rfl⟩, if_neg hmenu, reviewListQuery_of_store hpos,
        reviewsFor, if_neg hmenu, if_pos ⟨hpos, rfl⟩, List.append_nil, asks_int, if_pos rfl]
    · rw [reviewListParams, if_neg hstore, if_neg hmenu, reviewListQuery_of_neither hmenu hstore,
        reviewsFor, if_neg hmenu, if_neg hstore, List.append_nil, asks_nil, if_pos rfl]

omit [Double D] in
theorem asks_menuReviewList (db : ReviewTables key) (menuId : Int32) :
    asks db menuReviewListQuery [.int menuId] = some (db.reviewsOfMenu menuId) := by
  rw [asks_int, if_neg menuReviewListQuery_ne, if_pos (Or.inr rfl)]

omit [Double D] in
theorem listed_found {query : String} {params : List SqlParam} (db : ReviewTables key)
    (order : List StoredReview) (rows : List (ResultRow D)) (event : Option (Event D))
    (h : (ledger key : Ledger D _ _ _).find db order query params = some (rows, event)) :
    ∃ found, rows = found.map StoredReview.row ∧ event = some (.listed query params found) := by
  obtain ⟨rows', -, h⟩ := Option.bind_eq_some_iff.mp h
  obtain ⟨-, heq⟩ := Option.ite_none_right_eq_some.mp h
  cases heq
  exact ⟨_, rfl, rfl⟩

theorem reads_listedReview {may : List (Event D) → Event D → Prop} (ofText : String → String)
    (hfailed : ∀ done, may done (ledger key : Ledger D _ _ _).failed) :
    (ledger key : Ledger D _ _ _).Reads may (fun _ row => listedReview ofText row)
      (fun _ review => review.shown ofText) StoredReview.row := by
  refine reads_of_columns hfailed (fun _ row => ?_) fun _ review => ?_
  · open DbProg.Columns in
    exact (getInt row _).bind fun _ => (getString row _).bind fun _ => (getInt row _).bind fun _ =>
      (getString row _).bind fun _ => (stringOr row _ _).bind fun _ =>
      (getString row _).bind fun _ => .pure _
  · simp [listedReview, StoredReview.row, StoredReview.shown, ResultRow.of, List.lookup_cons]

/-- A list of reviews is found and sent, or something is thrown. -/
theorem wp_list (hread : text.read request.jsonBody = .ok req) {asked : Asked}
    (hasked : Asked.read req request.kind = .ok (some asked)) {ofText : String → String}
    {query : String} {params : List SqlParam} {f : List (Json D) → Json D}
    (hdone : ∀ (db : ReviewTables key) found, (Event.listed query params found : Event D).Holds db →
      asked.Done db (f (found.map (StoredReview.shown ofText))) db)
    {Q : Except Exn Unit → List (Event D) → Prop} (hQ : ∀ done', Q (.ok ()) done')
    (hthrown : ∀ e done, (∀ event ∈ done, (board key).Quiet event) →
      Q (.error e) (done ++ [.failed])) :
    (boarding key text request).wp (Page.db (reviews ofText query params) >>= fun reviews =>
      Page.reply request.kind.cmdId (f reviews)) Q [] := by
  have hfailed (done : List (Event D)) : (board key).May (request.done key text) done .failed :=
    may_failed (fits_failed hread hasked _ fun _ => rfl) done
  refine (Interface.wp_bind _ _).mpr (wp_db (wp_selectForEach hfailed
    (reads_listedReview ofText hfailed) listed_found (fun found => ?_) (fun found => ?_)
    (fun e => ?_) fun found e => ?_))
  · exact .first widens_done rfl (fits hread hasked (fun db hholds => hdone db found hholds) False)
  · have honce : ∀ e ∈ [(.listed query params found : Event D)], (board key).packet e = none :=
      List.forall_mem_singleton.mpr rfl
    have hshown : (found.zipIdx.map fun entry => entry.1.shown ofText) =
        found.map (StoredReview.shown (D := D) ofText) := by
      conv_rhs => rw [← List.zipIdx_map_fst 0 found, List.map_map]
      rfl
    refine wp_send widens_done honce ?_ hQ
    rw [hshown]
    exact fits hread hasked (fun db hholds => hdone db found hholds) _
  · exact hthrown _ [] (by simp)
  · exact hthrown _ [.listed query params found] (List.forall_mem_singleton.mpr
      ⟨rfl, fun _ => rfl⟩)

variable {jsonBody : String}

/-- What is thrown where calls have changed nothing is answered. -/
theorem wp_failure (hread : text.read request.jsonBody = .ok req) {asked : Asked}
    (hasked : Asked.read req request.kind = .ok (some asked)) {done : List (Event D)}
    (hquiet : ∀ event ∈ done, (board key).Quiet event) :
    (boarding key text request).wp (Page.reply request.kind.cmdId request.kind.failure)
      (fun _ _ => True) (done ++ [.failed]) :=
  wp_send_failed widens_done hquiet (fits_failed hread hasked) fun _ => trivial

/-- A value that cannot be read is answered. -/
theorem wp_error (hread : text.read request.jsonBody = .ok req)
    (herror : ∃ e, Asked.read req request.kind = .error e) :
    (boarding key text request).wp (Page.reply request.kind.cmdId request.kind.failure)
      (fun _ _ => True) [] :=
  wp_send widens_done (by simp) (fits_nothing hread _ _ (.inl ⟨herror, rfl⟩)) fun _ => trivial

/-- So is a body that lacks something. -/
theorem wp_rejection (hread : text.read request.jsonBody = .ok req)
    (hnone : Asked.read req request.kind = .ok none) {Q : Except Exn Unit → List (Event D) → Prop}
    (hQ : ∀ done', Q (.ok ()) done') :
    (boarding key text request).wp (Page.reply request.kind.cmdId request.kind.rejection) Q [] :=
  wp_send widens_done (by simp) (fits_nothing hread _ _ (.inr ⟨hnone, rfl⟩)) hQ

theorem wp_handleReviewList : (boarding key text ⟨.list, jsonBody⟩).wp
    (handleReviewList text jsonBody) (fun _ _ => True) [] := by
  refine wp_ofExcept_bind (fun _ _ => trivial) fun req hread => ?_
  refine (Interface.wp_tryCatch _ _).mpr (wp_ofExcept_bind (fun what hstore => ?_)
    fun storeId hstore => wp_ofExcept_bind (fun what hmenu => ?_) fun menuId hmenu => ?_)
  · obtain ⟨e, he⟩ := eq_error hstore
    refine wp_error hread ⟨e, ?_⟩
    simp [Asked.read, he, bind, Except.bind]
  · obtain ⟨e, he⟩ := eq_error hmenu
    refine wp_error hread ⟨e, ?_⟩
    simp [Asked.read, eq_ok hstore, he, bind, Except.bind]
  refine Interface.wp_ite.mpr ⟨fun hzero => ?_, fun hzero => ?_⟩
  · refine wp_rejection hread ?_ fun _ => trivial
    simp [Asked.read, eq_ok hstore, eq_ok hmenu, hzero, bind, Except.bind, pure, Except.pure]
  · have hasked : Asked.read req .list = .ok (some (.list storeId menuId)) := by
      simp [Asked.read, eq_ok hstore, eq_ok hmenu, hzero, bind, Except.bind, pure, Except.pure]
    refine wp_list hread hasked (fun db found hholds => ?_) (fun _ => trivial)
      fun e done hquiet => wp_failure hread hasked hquiet
    obtain ⟨rows, hrows, hordered⟩ := hholds
    obtain rfl := Option.some.inj ((asks_reviewList db storeId menuId).symm.trans hrows)
    exact ⟨rfl, found, hordered, rfl⟩

theorem wp_handleMenuReviewList : (boarding key text ⟨.menuList, jsonBody⟩).wp
    (handleMenuReviewList text jsonBody) (fun _ _ => True) [] := by
  refine wp_ofExcept_bind (fun _ _ => trivial) fun req hread => ?_
  refine (Interface.wp_tryCatch _ _).mpr (wp_ofExcept_bind (fun what hmenu => ?_)
    fun menuId hmenu => ?_)
  · obtain ⟨e, he⟩ := eq_error hmenu
    refine wp_error hread ⟨e, ?_⟩
    simp [Asked.read, he, bind, Except.bind]
  refine Interface.wp_ite.mpr ⟨fun hzero => ?_, fun hzero => ?_⟩
  · refine wp_rejection hread ?_ fun _ => trivial
    simp [Asked.read, eq_ok hmenu, hzero, bind, Except.bind, pure, Except.pure]
  · have hasked : Asked.read req .menuList = .ok (some (.menuList menuId)) := by
      simp [Asked.read, eq_ok hmenu, hzero, bind, Except.bind, pure, Except.pure]
    refine wp_list hread hasked (fun db found hholds => ?_) (fun _ => trivial)
      fun e done hquiet => wp_failure hread hasked hquiet
    obtain ⟨rows, hrows, hordered⟩ := hholds
    obtain rfl := Option.some.inj ((asks_menuReviewList db menuId).symm.trans hrows)
    exact ⟨rfl, found, hordered, rfl⟩

end Lists

/-! #### Answers -/

section Answers

variable {jsonBody : String}

omit [Double D] in
theorem answer_written {ownerReply : String} {reviewId storeId : Int32} {db : ReviewTables key}
    {order : List StoredReview} {n : ℕ} {event : Option (Event D)}
    (h : (ledger key : Ledger D _ _ _).write db order replyQuery
      [.string ownerReply, .int reviewId, .int storeId] = some (n, event)) :
    event = some (.answered ownerReply reviewId storeId n) := by
  simp only [ledger, if_true] at h
  cases h
  rfl

theorem wp_handleReviewReply : (boarding key text ⟨.reply, jsonBody⟩).wp
    (handleReviewReply text jsonBody) (fun _ _ => True) [] := by
  refine wp_ofExcept_bind (fun _ _ => trivial) fun req hread => ?_
  refine (Interface.wp_tryCatch _ _).mpr (wp_ofExcept_bind (fun what hreview => ?_)
    fun reviewId hreview => wp_ofExcept_bind (fun what hstore => ?_)
    fun storeId hstore => wp_ofExcept_bind (fun what hreply => ?_) fun ownerReply hreply => ?_)
  · obtain ⟨e, he⟩ := eq_error hreview
    refine wp_error hread ⟨e, ?_⟩
    simp [Asked.read, he, bind, Except.bind]
  · obtain ⟨e, he⟩ := eq_error hstore
    refine wp_error hread ⟨e, ?_⟩
    simp [Asked.read, eq_ok hreview, he, bind, Except.bind]
  · obtain ⟨e, he⟩ := eq_error hreply
    refine wp_error hread ⟨e, ?_⟩
    simp [Asked.read, eq_ok hreview, eq_ok hstore, he, bind, Except.bind]
  refine Interface.wp_ite.mpr ⟨fun hlacks => ?_, fun hlacks => ?_⟩
  · refine wp_rejection hread ?_ fun _ => trivial
    simp [Asked.read, eq_ok hreview, eq_ok hstore, eq_ok hreply, hlacks, bind, Except.bind, pure,
      Except.pure]
  have hasked : Asked.read req .reply = .ok (some (.reply reviewId storeId ownerReply)) := by
    simp [Asked.read, eq_ok hreview, eq_ok hstore, eq_ok hreply, hlacks, bind, Except.bind, pure,
      Except.pure]
  have hfailed (done : List (Event D)) :
      (board key).May (Request.done key text ⟨.reply, jsonBody⟩) done .failed :=
    may_failed (fits_failed hread hasked _ fun _ => rfl) done
  have hfits (failed : Prop) (matched : ℕ) : (board key).Fits
      (Request.done key text ⟨.reply, jsonBody⟩) failed
      (.answered ownerReply reviewId storeId matched) (CmdID.RES_REVIEW_REPLY,
        some (if matched > 0 then statusMessage 200 "답글 등록 완료"
          else statusMessage 404 "해당 리뷰를 찾을 수 없거나 권한이 없습니다.")) := by
    refine fits hread hasked (fun db hholds => ?_) failed
    obtain rfl := hholds
    refine ⟨rfl, ?_⟩
    simp only [gt_iff_lt, List.countP_pos_iff]
  refine (Interface.wp_bind _ _).mpr (wp_db (wp_update hfailed (fun db order n event h => ?_)
    (fun e => ?_) fun db order n event h => ?_))
  · obtain rfl := Option.some.inj (answer_written h)
    exact .first widens_done rfl (hfits False n)
  · have hnone : ∀ event ∈ ([] : List (Event D)), (board key).Quiet event := by simp
    exact wp_failure hread hasked hnone
  · obtain rfl := answer_written h
    exact wp_send widens_done (List.forall_mem_singleton.mpr rfl) (hfits _ n) fun _ => trivial

end Answers

end Board

/-! ### Runs -/

/-- The requests, before their first call. -/
def start (text : JsonParser D) (requests : ι → Request) (first : ReviewTables key) :
    Threads ι (@PageOp.Res D) Exn (Ledger.World ι (ReviewTables key) (Event D)) :=
  ⟨fun t => (requests t).handle text, ⟨first, []⟩⟩

variable [DecidableEq ι]

end ItsBedalyo.Pages.ReviewBoard
