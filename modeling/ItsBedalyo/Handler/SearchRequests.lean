import ItsBedalyo.Handler.AccountPages
import ItsBedalyo.Handler.KeywordSearch
import ItsBedalyo.Handler.Ledger
import ItsBedalyo.Lib.Partitions
import Mathlib.Order.WithBot

/-!
# Searches, added and deleted at the same time

The requests of `SearchHandler.cpp` are handled at the same time, one call at a time, in any order,
and any call of the database may throw. A request to add a keyword inserts a row of `SEARCH_HISTORY`
and gives a point to the category of that name, else to the stores of that name, else to the
category of a store with such a menu, each with a statement of its own. Searches are deleted by
hiding their rows.

What the calls have done is written down (`ledger`); what a request may have done there, after what
it has done before, is read off its handler (`Allowed`, `wp_handle`). Names of categories and stores
are compared character by character.
-/

namespace ItsBedalyo.Pages.SearchHistory

open KeywordSearch Ledger Like Relational

variable {κ D : Type} [DecidableEq κ] [Double D]

/-! ### The statements -/

/-- The statements that write `SEARCH_HISTORY` or a score. -/
inductive Statement
  | insert (userId keyword : String)
  | hide (userId : String) (historyId : Int32)
  | hideAll (userId : String)
  | scoreCategory (name : String)
  | scoreStore (name : String)
  | scoreMenu (pattern : String)
  deriving DecidableEq

def insertQuery : String :=
  "INSERT INTO SEARCH_HISTORY (user_id, keyword, is_visible) VALUES (?, ?, 1)"

def hideQuery : String :=
  "UPDATE SEARCH_HISTORY SET is_visible = 0 WHERE user_id = ? AND history_id = ?"

def hideAllQuery : String := "UPDATE SEARCH_HISTORY SET is_visible = 0 WHERE user_id = ?"

def directQuery : String :=
  "UPDATE CATEGORIES SET popularity_score = popularity_score + 1 WHERE name = ?"

def storeQuery : String :=
  "UPDATE STORES SET popularity_score = popularity_score + 1 WHERE store_name = ?"

def menuQuery : String :=
  "UPDATE CATEGORIES SET popularity_score = popularity_score + 1 " ++
  "WHERE name = ( SELECT S.category FROM MENUS M " ++
  "JOIN STORES S ON M.store_id = S.store_id WHERE M.menu_name LIKE ? LIMIT 1)"

/-- The statement with this text and these values. -/
def Statement.of (query : String) : List SqlParam → Option Statement
  | [.string userId, .string keyword] =>
    if query = insertQuery then some (.insert userId keyword) else none
  | [.string userId, .int historyId] =>
    if query = hideQuery then some (.hide userId historyId) else none
  | [.string s] =>
    if query = hideAllQuery then some (.hideAll s)
    else if query = directQuery then some (.scoreCategory s)
    else if query = storeQuery then some (.scoreStore s)
    else if query = menuQuery then some (.scoreMenu s)
    else none
  | _ => none

/-- The texts with one value are different. -/
theorem queries_ne : directQuery ≠ hideAllQuery ∧ storeQuery ≠ hideAllQuery ∧
    storeQuery ≠ directQuery ∧ menuQuery ≠ hideAllQuery ∧ menuQuery ≠ directQuery ∧
    menuQuery ≠ storeQuery := by
  decide +kernel

@[simp] theorem of_insert (userId keyword : String) :
    Statement.of insertQuery [.string userId, .string keyword] =
      some (.insert userId keyword) := by
  simp [Statement.of]

@[simp] theorem of_hide (userId : String) (historyId : Int32) :
    Statement.of hideQuery [.string userId, .int historyId] = some (.hide userId historyId) := by
  simp [Statement.of]

@[simp] theorem of_hideAll (userId : String) :
    Statement.of hideAllQuery [.string userId] = some (.hideAll userId) := by
  simp [Statement.of]

@[simp] theorem of_direct (name : String) :
    Statement.of directQuery [.string name] = some (.scoreCategory name) := by
  simp [Statement.of, queries_ne]

@[simp] theorem of_store (name : String) :
    Statement.of storeQuery [.string name] = some (.scoreStore name) := by
  simp [Statement.of, queries_ne]

@[simp] theorem of_menu (pattern : String) :
    Statement.of menuQuery [.string pattern] = some (.scoreMenu pattern) := by
  simp [Statement.of, queries_ne]

/-- The queries of the search page. -/
inductive Query
  | popular (limit : Int32)
  | recent (userId : String)
  deriving DecidableEq

def popularQuery : String :=
  "SELECT name AS category_name, popularity_score FROM CATEGORIES " ++
  "ORDER BY popularity_score DESC LIMIT ?"

def recentQuery : String :=
  "SELECT history_id, keyword, DATE_FORMAT(search_date, '%m.%d') as formatted_date " ++
  "FROM SEARCH_HISTORY WHERE user_id = ? AND is_visible = 1 " ++
  "ORDER BY search_date DESC LIMIT 10"

/-- The query with this text and these values. -/
def Query.of (query : String) : List SqlParam → Option Query
  | [.int limit] => if query = popularQuery then some (.popular limit) else none
  | [.string userId] => if query = recentQuery then some (.recent userId) else none
  | _ => none

@[simp] theorem of_popular (limit : Int32) :
    Query.of popularQuery [.int limit] = some (.popular limit) := by
  simp [Query.of]

@[simp] theorem of_recent (userId : String) :
    Query.of recentQuery [.string userId] = some (.recent userId) := by
  simp [Query.of]

/-! ### The tables -/

/-- A row of `SEARCH_HISTORY`. -/
structure SearchRow where
  historyId : Int32
  userId : String
  keyword : String
  searchDate : ℕ
  isVisible : Bool
  deriving DecidableEq

deriving instance DecidableEq for ScoredCategory

/-- `ORDER BY popularity_score DESC` has `NULL` last. -/
def ScoredCategory.rank (category : ScoredCategory) : WithBot ℤ := category.popularityScore

/-- The tables at the beginning. -/
structure Initial (D : Type) extends SearchTables D where
  history : List SearchRow
  historyKey : (history.map (·.historyId)).Nodup

/-- What a call has done: the row it has inserted, whose rows it has hidden, whose score it has
raised, of how many rows, what it has found, what it has sent, or that it has thrown. -/
inductive Event (D : Type)
  | inserted (row : SearchRow)
  | hid (userId : String) (historyId : Int32)
  | hidAll (userId : String)
  | scored (name : String) (changed : ℕ)
  | scoredStores (name : String) (changed : ℕ)
  | scoredByMenu (pattern : String) (name : Option String) (changed : ℕ)
  | popular (limit : Int32) (found : List ScoredCategory)
  | recent (userId : String) (found : List SearchRow)
  | replied (cmdId : CmdID) (body : Option (Json D))
  | failed

/-- The tables and the clock. -/
structure Tables (D : Type) where
  history : List SearchRow
  tables : SearchTables D
  clock : ℕ

/-- `is_visible = 0`, with the time of the update where that changes the row. -/
def SearchRow.hide (row : SearchRow) (now : ℕ) : SearchRow :=
  if row.isVisible then { row with isVisible := false, searchDate := now } else row

/-- What is up to the database: the time, the next `AUTO_INCREMENT` value, the row that `LIMIT 1`
leaves, and in which order rows are sorted. -/
structure Choice where
  now : ℕ
  historyId : Int32
  limitOne : ℕ
  categories : List ScoredCategory
  searches : List SearchRow

/-- The categories of that name whose score is a number. -/
def scorable (tables : SearchTables D) (name : String) : ℕ :=
  tables.categories.countP fun category => category.name = name ∧ category.popularityScore ≠ none

/-- The stores of that name whose score is a number. -/
def scorableStores (tables : SearchTables D) (name : String) : ℕ :=
  tables.stores.countP fun store => store.storeName = name ∧ store.popularityScore ≠ none

/-- An update hides this row. -/
def Event.hides (key : String → κ) (row : SearchRow) : Event D → Bool
  | .hid userId historyId => key row.userId = key userId ∧ row.historyId = historyId
  | .hidAll userId => key row.userId = key userId
  | _ => false

/-- A row of the recent searches. -/
def recentRow (dateFormat : ℕ → String) (row : SearchRow) : ResultRow D := .of
  [("history_id", .int row.historyId), ("keyword", .string row.keyword),
   ("formatted_date", .string (dateFormat row.searchDate))]

/-- A row of the popular categories; the score is not read. -/
def popularRow (category : ScoredCategory) : ResultRow D := .of
  [("category_name", .string category.name)]

namespace Tables

variable (key : String → κ) (dateFormat : ℕ → String) (s : Tables D) (choice : Choice)

/-- How many rows a statement changes, and what it does. -/
def outcome : Statement → Option (ℕ × Event D)
  | .insert userId keyword =>
    if choice.historyId ∉ s.history.map (·.historyId) then
      some (1, .inserted ⟨choice.historyId, userId, keyword, choice.now, true⟩)
    else none
  | .hide userId historyId =>
    let event : Event D := .hid userId historyId
    some (s.history.countP fun row => event.hides key row && row.isVisible, event)
  | .hideAll userId =>
    let event : Event D := .hidAll userId
    some (s.history.countP fun row => event.hides key row && row.isVisible, event)
  | .scoreCategory name => some (scorable s.tables name, .scored name (scorable s.tables name))
  | .scoreStore name =>
    some (scorableStores s.tables name, .scoredStores name (scorableStores s.tables name))
  | .scoreMenu pattern =>
    -- without such a menu the name is `NULL`, which no name is equal to
    match (s.tables.menusLike pattern)[choice.limitOne]? with
    | some found =>
      let changed := scorable s.tables found.2.category
      some (changed, .scoredByMenu pattern found.2.category changed)
    | none =>
      if s.tables.menusLike pattern = [] then some (0, .scoredByMenu pattern none 0) else none

/-- The visible searches of a user. -/
def searchesOf (userId : String) : List SearchRow :=
  s.history.filter fun row => key row.userId = key userId ∧ row.isVisible = true

/-- What a query finds, and the same as an event. -/
def find : Query → Option (List (ResultRow D) × Event D)
  | .popular limit =>
    if Ordered ScoredCategory.rank s.tables.categories choice.categories then
      let found := choice.categories.take limit.toInt.toNat
      some (found.map popularRow, .popular limit found)
    else none
  | .recent userId =>
    if Ordered (·.searchDate) (s.searchesOf key userId) choice.searches then
      let found := choice.searches.take 10
      some (found.map (recentRow dateFormat), .recent userId found)
    else none

/-- The rows are hidden. -/
def hide (such : SearchRow → Bool) : Tables D :=
  { s with
    history := s.history.map fun row => if such row then row.hide choice.now else row
    clock := choice.now }

/-- The tables after an event. -/
def after : Event D → Tables D
  | .inserted row => { s with history := s.history ++ [row], clock := choice.now }
  | .hid userId historyId => s.hide choice fun row =>
      key row.userId = key userId ∧ row.historyId = historyId
  | .hidAll userId => s.hide choice fun row => key row.userId = key userId
  | .scored name _ => { s with tables := s.tables.creditCategory name, clock := choice.now }
  | .scoredStores name _ => { s with tables := s.tables.creditStore name, clock := choice.now }
  | .scoredByMenu _ name _ =>
    { s with tables := name.elim s.tables s.tables.creditCategory, clock := choice.now }
  | _ => s

end Tables

/-- What the calls do. The list of the stores is found as it is; no other statement is sent. -/
def ledger (key : String → κ) (dateFormat : ℕ → String) :
    Ledger D (Tables D) Choice (Event D) where
  write s choice query params :=
    match Statement.of query params with
    | some statement =>
      if s.clock ≤ choice.now then (s.outcome key choice statement).map (Prod.map id some)
      else none
    | none => none
  find s choice query params :=
    match Query.of query params with
    | some asked => (s.find key dateFormat choice asked).map (Prod.map id some)
    | none => some (s.tables.rows query params, none)
  after s choice event := s.after key choice event
  sent := .replied
  failed := .failed

/-! ### The requests -/

/-- The requests. -/
inductive Kind
  | widget
  | add
  | delete
  | deleteAll
  | store
  deriving DecidableEq

structure Request where
  kind : Kind
  jsonBody : String

/-- Its handler. -/
def Request.handle (text : JsonParser D) (request : Request) : Page D Unit :=
  match request.kind with
  | .widget => SearchHandler.handleSearchWidgetReq text request.jsonBody
  | .add => SearchHandler.handleSearchAddReq text request.jsonBody
  | .delete => SearchHandler.handleSearchDeleteReq text request.jsonBody
  | .deleteAll => SearchHandler.handleSearchDelAllReq text request.jsonBody
  | .store => SearchHandler.handleSearchStoreReq text request.jsonBody

/-! ### What a request may do -/

section Allowed

variable (text : JsonParser D) (dateFormat : ℕ → String)

/-- The request names this user. -/
def Request.Names (request : Request) (userId : String) : Prop :=
  text.readAs (fun req => req.get "userId") request.jsonBody = .ok userId

/-- It asks for this keyword to be added. -/
def Request.Adds (request : Request) (userId keyword : String) : Prop :=
  request.kind = .add ∧ request.Names text userId ∧
    text.readAs (fun req => req.get "keyword") request.jsonBody = .ok keyword

/-- It asks for this search to be deleted. -/
def Request.Deletes (request : Request) (userId : String) (historyId : Int32) : Prop :=
  request.kind = .delete ∧ request.Names text userId ∧
    text.readAs (fun req => req.get "historyId") request.jsonBody = .ok historyId

/-- What the page shows of the categories. -/
def shownPopular (found : List ScoredCategory) : List Dto.PopularKeyword :=
  found.zipIdx.map fun entry => ⟨.ofNat (entry.2 + 1), cStr entry.1.name⟩

/-- What it shows of the searches. -/
def shownRecent (found : List SearchRow) : List Dto.RecentSearch :=
  found.map fun row => ⟨row.historyId, cStr row.keyword, cStr (dateFormat row.searchDate)⟩

/-- The body of the page. -/
def widget (searchDate : String) (popular : List Dto.PopularKeyword)
    (recent : List Dto.RecentSearch) : Json D := .object
  [("status", encode (200 : Int32)),
   ("popularKeywords", Dto.arrayOf Dto.PopularKeyword.toJson popular),
   ("recentSearches", Dto.arrayOf Dto.RecentSearch.toJson recent),
   ("searchDate", encode searchDate)]

/-- The page that a request with these calls behind it sends. -/
def Request.Shows (request : Request) (done : List (Event D)) (body : Option (Json D)) : Prop :=
  ∃ userId searchDate popular recent, request.Names text userId ∧
    body = some (widget searchDate popular recent) ∧
    Sends .failed done (.popular 10) shownPopular popular ∧
    Sends .failed done (.recent userId) (shownRecent dateFormat) recent

/-- How many scores an event has raised. -/
def Event.changed : Event D → ℕ
  | .scored _ n | .scoredStores _ n | .scoredByMenu _ _ n => n
  | _ => 0

/-- What a request may do after what it has done. -/
def Allowed (request : Request) (done : List (Event D)) : Event D → Prop
  | .inserted row => request.Adds text row.userId row.keyword ∧ done = []
  | .hid userId historyId => request.Deletes text userId historyId
  | .hidAll userId => request.kind = .deleteAll ∧ request.Names text userId
  | .scored name _ => (∃ userId, request.Adds text userId name) ∧
      ∀ event ∈ done, event.changed = 0
  | .scoredStores name _ => (∃ userId, request.Adds text userId name) ∧
      .scored name 0 ∈ done ∧ ∀ event ∈ done, event.changed = 0
  | .scoredByMenu pattern _ _ => ∃ userId keyword, request.Adds text userId keyword ∧
      pattern = containing keyword ∧ .scored keyword 0 ∈ done ∧ .scoredStores keyword 0 ∈ done ∧
      ∀ event ∈ done, event.changed = 0
  | .replied cmdId body => cmdId = CmdID.RES_RESEARCH_WIDGET →
      request.kind = .widget ∧ request.Shows text dateFormat done body
  | _ => True

/-- What a statement that has changed `n` rows has done. -/
def Statement.Does (n : ℕ) : Statement → Event D → Prop
  | .insert userId keyword, event => ∃ row : SearchRow, row.userId = userId ∧
      row.keyword = keyword ∧ event = .inserted row
  | .hide userId historyId, event => event = .hid userId historyId
  | .hideAll userId, event => event = .hidAll userId
  | .scoreCategory name, event => event = .scored name n
  | .scoreStore name, event => event = .scoredStores name n
  | .scoreMenu pattern, event => ∃ name, event = .scoredByMenu pattern name n

end Allowed

section Rules

open Interface

variable {text : JsonParser D} {key : String → κ} {dateFormat : ℕ → String} {request : Request}
  {done : List (Event D)} {α : Type}

variable (text key dateFormat request) in
/-- The calls of a request. -/
abbrev dbSearching : Interface (@DbOp.Res D) SqlException (List (Event D)) :=
  (ledger key dateFormat).dbPermits (Allowed text dateFormat request)

variable (text key dateFormat request) in
abbrev searching : Interface (@PageOp.Res D) Exn (List (Event D)) :=
  (ledger key dateFormat).permits (Allowed text dateFormat request)

theorem allowed_failed (done : List (Event D)) :
    Allowed text dateFormat request done ((ledger key dateFormat : Ledger D _ _ _).failed) := trivial

omit [Double D] in
theorem Tables.does_of_outcome {s : Tables D} {choice : Choice} {statement : Statement} {n : ℕ}
    {event : Event D} (h : s.outcome key choice statement = some (n, event)) :
    statement.Does n event := by
  cases statement with
  | insert userId keyword =>
    obtain ⟨-, heq⟩ := Option.ite_none_right_eq_some.mp h
    cases heq
    exact ⟨_, rfl, rfl, rfl⟩
  | scoreMenu pattern =>
    rw [Tables.outcome] at h
    split at h
    · cases h
      exact ⟨_, rfl⟩
    · obtain ⟨-, heq⟩ := Option.ite_none_right_eq_some.mp h
      cases heq
      exact ⟨_, rfl⟩
  | _ =>
    cases h
    exact rfl

omit [Double D] in
theorem outcome_of_write {query : String} {params : List SqlParam} {statement : Statement}
    (hof : Statement.of query params = some statement) {s : Tables D} {choice : Choice} {n : ℕ}
    {event : Option (Event D)}
    (h : (ledger key dateFormat).write s choice query params = some (n, event)) :
    ∃ e, event = some e ∧ s.outcome key choice statement = some (n, e) := by
  simp only [ledger, hof] at h
  obtain ⟨-, h⟩ := Option.ite_none_right_eq_some.mp h
  obtain ⟨⟨n, e⟩, hout, heq⟩ := Option.map_eq_some_iff.mp h
  cases heq
  exact ⟨e, rfl, hout⟩

omit [Double D] in
theorem find_of_find {query : String} {params : List SqlParam} {asked : Query}
    (hof : Query.of query params = some asked) {s : Tables D} {choice : Choice}
    {rows : List (ResultRow D)} {event : Option (Event D)}
    (h : (ledger key dateFormat).find s choice query params = some (rows, event)) :
    ∃ e, event = some e ∧ s.find key dateFormat choice asked = some (rows, e) := by
  simp only [ledger, hof] at h
  obtain ⟨⟨rows, e⟩, hfind, heq⟩ := Option.map_eq_some_iff.mp h
  cases heq
  exact ⟨e, rfl, hfind⟩

omit [Double D] in
theorem popular_found (limit : Int32) (s : Tables D) (choice : Choice) (rows : List (ResultRow D))
    (event : Option (Event D))
    (h : (ledger key dateFormat).find s choice popularQuery [.int limit] = some (rows, event)) :
    ∃ found, rows = found.map popularRow ∧ event = some (.popular limit found) := by
  obtain ⟨e, rfl, hfind⟩ := find_of_find (of_popular limit) h
  obtain ⟨-, heq⟩ := Option.ite_none_right_eq_some.mp hfind
  cases heq
  exact ⟨_, rfl, rfl⟩

omit [Double D] in
theorem recent_found (userId : String) (s : Tables D) (choice : Choice) (rows : List (ResultRow D))
    (event : Option (Event D))
    (h : (ledger key dateFormat).find s choice recentQuery [.string userId] = some (rows, event)) :
    ∃ found, rows = found.map (recentRow dateFormat) ∧ event = some (.recent userId found) := by
  obtain ⟨e, rfl, hfind⟩ := find_of_find (of_recent userId) h
  obtain ⟨-, heq⟩ := Option.ite_none_right_eq_some.mp hfind
  cases heq
  exact ⟨_, rfl, rfl⟩

/-- A statement. -/
theorem wp_statement {query : String} {params : List SqlParam} {statement : Statement}
    (hof : Statement.of query params = some statement)
    (hmay : ∀ n event, statement.Does n event → Allowed text dateFormat request done event)
    {Q : Except SqlException ℕ → List (Event D) → Prop}
    (herror : ∀ e, Q (.error e) (done ++ [.failed]))
    (hok : ∀ n event, statement.Does n event → Q (.ok n) (done ++ [event])) :
    (dbSearching text key dateFormat request).wp (DbProg.update query params) Q done := by
  refine wp_update allowed_failed (fun s choice n event hwrite => ?_) herror
    fun s choice n event hwrite => ?_
  · obtain ⟨e, he, hout⟩ := outcome_of_write hof hwrite
    obtain rfl := Option.some.inj he
    exact hmay n event (Tables.does_of_outcome hout)
  · obtain ⟨e, rfl, hout⟩ := outcome_of_write hof hwrite
    exact hok n e (Tables.does_of_outcome hout)

/-! ### The functions of the database -/

section Functions

theorem reads_popular : (ledger key dateFormat).Reads (Allowed text dateFormat request)
    (fun i row => do
      let keyword ← DbProg.cString row "category_name"
      pure { rank := .ofNat (i + 1), keyword : Dto.PopularKeyword })
    (fun i category => ⟨.ofNat (i + 1), cStr category.name⟩) popularRow := by
  refine reads_of_columns allowed_failed (fun i row => ?_) fun i category => ?_
  · exact (DbProg.Columns.cString row _).bind fun _ => .pure _
  · simp [popularRow, ResultRow.of]

theorem reads_recent : (ledger key dateFormat).Reads (Allowed text dateFormat request)
    (fun _ row => do
      let historyId ← DbProg.getInt row "history_id"
      let keyword ← DbProg.cString row "keyword"
      let searchDate ← DbProg.cString row "formatted_date"
      pure { historyId, keyword, searchDate : Dto.RecentSearch })
    (fun _ row => ⟨row.historyId, cStr row.keyword, cStr (dateFormat row.searchDate)⟩)
    (recentRow dateFormat) := by
  refine reads_of_columns allowed_failed (fun i row => ?_) fun i row => ?_
  · exact (DbProg.Columns.getInt row _).bind fun _ =>
      (DbProg.Columns.cString row _).bind fun _ =>
        (DbProg.Columns.cString row _).bind fun _ => .pure _
  · simp [recentRow, ResultRow.of, List.lookup_cons]

theorem wp_getPopularCategories {limit : Int32}
    {Q : Except SqlException (List Dto.PopularKeyword) → List (Event D) → Prop}
    (hQ : ∀ sent done', Sends .failed done' (.popular limit) shownPopular sent → done <+: done' →
      Q (.ok sent) done') :
    (dbSearching text key dateFormat request).wp (SearchDAO.getPopularCategories limit) Q done := by
  refine wp_selectEach allowed_failed reads_popular (popular_found limit) (fun _ => ?_)
    (fun _ => ?_) hQ
  · exact trivial
  · rfl

theorem wp_getRecentSearches {userId : String}
    {Q : Except SqlException (List Dto.RecentSearch) → List (Event D) → Prop}
    (hQ : ∀ sent done', Sends .failed done' (.recent userId) (shownRecent dateFormat) sent →
      done <+: done' → Q (.ok sent) done') :
    (dbSearching text key dateFormat request).wp (SearchDAO.getRecentSearches userId) Q done := by
  refine wp_selectEach allowed_failed reads_recent (recent_found userId) (fun _ => ?_)
    (fun found => ?_) hQ
  · exact trivial
  · have hfst : (found.zipIdx.map Prod.fst).map (fun row => (⟨row.historyId, cStr row.keyword,
        cStr (dateFormat row.searchDate)⟩ : Dto.RecentSearch)) = shownRecent dateFormat found := by
      rw [List.zipIdx_map_fst]
      rfl
    rw [← hfst, List.map_map]
    rfl

/-- An update whose exceptions are caught. -/
theorem wp_succeeds {query : String} {params : List SqlParam} {statement : Statement}
    (hof : Statement.of query params = some statement)
    (hmay : ∀ n event, statement.Does n event → Allowed text dateFormat request done event)
    {Q : Except SqlException Bool → List (Event D) → Prop}
    (hfailed : Q (.ok false) (done ++ [.failed]))
    (hok : ∀ n event, statement.Does n event → Q (.ok true) (done ++ [event])) :
    (dbSearching text key dateFormat request).wp (SearchDAO.succeeds query params) Q done := by
  refine (wp_tryCatch _ _).mpr ((wp_bind _ _).mpr (wp_statement hof hmay ?_ ?_))
  · exact fun _ => hfailed
  · exact hok

/-- The three steps, each made if the one before has raised no score. -/
theorem wp_applySearchScore {userId keyword : String} (hadds : request.Adds text userId keyword)
    (hunchanged : ∀ event ∈ done, event.changed = 0)
    {Q : Except SqlException Bool → List (Event D) → Prop} (hQ : ∀ b done', Q (.ok b) done') :
    (dbSearching text key dateFormat request).wp (SearchDAO.applySearchScore keyword) Q done := by
  have hafter {done : List (Event D)} (event : Event D) (h : ∀ event ∈ done, event.changed = 0)
      (hevent : event.changed = 0) : ∀ e ∈ done ++ [event], e.changed = 0 := by
    intro e he
    rcases List.mem_append.mp he with he | he
    · exact h e he
    · rwa [List.mem_singleton.mp he]
  refine (wp_tryCatch _ _).mpr ((wp_bind _ _).mpr (wp_statement (of_direct keyword) ?_ ?_ ?_))
  · rintro n _ rfl
    exact ⟨⟨userId, hadds⟩, hunchanged⟩
  · exact fun _ => hQ _ _
  rintro n _ rfl
  refine wp_ite.mpr ⟨fun _ => hQ _ _, fun hn => ?_⟩
  obtain rfl : n = 0 := Nat.eq_zero_of_not_pos hn
  have hdirect := hafter (.scored keyword 0) hunchanged rfl
  refine (wp_bind _ _).mpr (wp_statement (of_store keyword) ?_ ?_ ?_)
  · rintro n _ rfl
    exact ⟨⟨userId, hadds⟩, List.mem_append_right _ List.mem_cons_self, hdirect⟩
  · exact fun _ => hQ _ _
  rintro n _ rfl
  refine wp_ite.mpr ⟨fun _ => hQ _ _, fun hn => ?_⟩
  obtain rfl : n = 0 := Nat.eq_zero_of_not_pos hn
  refine (wp_bind _ _).mpr (wp_statement (of_menu (containing keyword)) ?_ ?_ ?_)
  · rintro n _ ⟨name, rfl⟩
    refine ⟨userId, keyword, hadds, rfl, ?_, List.mem_append_right _ List.mem_cons_self, ?_⟩
    · exact List.mem_append_left _ (List.mem_append_right _ List.mem_cons_self)
    · exact hafter (.scoredStores keyword 0) hdirect rfl
  · exact fun _ => hQ _ _
  · exact fun _ _ _ => hQ _ _

theorem foundStore_readOnly (row : ResultRow D) : (SearchDAO.foundStore row).ReadOnly := by
  open DbProg.ReadOnly in
  exact (getInt row _).bind fun _ => (cString row _).bind fun _ => (cString row _).bind fun _ =>
    (doubleOr row _ _).bind fun _ => (intOr row _ _).bind fun _ => (intOr row _ _).bind fun _ =>
    (cStringOr row _ _).bind fun _ => (intOr row _ _).bind fun _ =>
    (cStringOr row _ _).bind fun _ => .pure _

end Functions

/-! ### The handlers -/

section Handlers

theorem wp_handler {x : Page D Unit}
    (h : (searching text key dateFormat request).wp x (fun _ _ => True) done) :
    (searching text key dateFormat request).wp (tryCatch x fun _ => pure ())
      (fun _ _ => True) done := by
  refine (wp_tryCatch _ _).mpr (wp_mono (fun r done' _ => ?_) h)
  cases r <;> trivial

/-- A value of the body. -/
theorem wp_read {x : Except String α} {f : α → Page D Unit}
    (h : ∀ a, x = .ok a → (searching text key dateFormat request).wp (f a) (fun _ _ => True) done) :
    (searching text key dateFormat request).wp (Page.ofExcept x >>= f) (fun _ _ => True) done :=
  wp_ofExcept_bind (fun _ _ => trivial) h

/-- A packet that is not that of the page. -/
theorem wp_other {cmdId : CmdID} (hne : cmdId ≠ CmdID.RES_RESEARCH_WIDGET) (body : Json D) :
    (searching text key dateFormat request).wp (Page.reply cmdId body) (fun _ _ => True) done :=
  wp_reply (fun heq => absurd heq hne) fun _ => trivial

theorem wp_handleSearchWidgetReq (hkind : request.kind = .widget) :
    (searching text key dateFormat request).wp
      (SearchHandler.handleSearchWidgetReq text request.jsonBody) (fun _ _ => True) done := by
  refine wp_handler (wp_read fun req hread => wp_read fun userId hget => ?_)
  have hnames : request.Names text userId := readAs_eq hread hget
  refine (wp_bind _ _).mpr (wp_op.mpr ⟨fun r event hdoes => ?_, fun r done' _ => ?_⟩)
  · cases r with
    | ok a => cases hdoes
    | error e => cases hdoes.1
  cases r with
  | error e => trivial
  | ok searchDate =>
    refine (wp_bind _ _).mpr (wp_db (wp_getPopularCategories fun popular done₁ hpopular _ => ?_))
    refine (wp_bind _ _).mpr (wp_db (wp_getRecentSearches fun recent done₂ hrecent hbegin => ?_))
    refine wp_reply (fun _ => ?_) fun _ => trivial
    exact ⟨hkind, userId, searchDate, popular, recent, hnames, rfl, hpopular.mono hbegin, hrecent⟩

theorem wp_handleSearchAddReq (hkind : request.kind = .add) :
    (searching text key dateFormat request).wp
      (SearchHandler.handleSearchAddReq text request.jsonBody) (fun _ _ => True) [] := by
  refine wp_handler (wp_read fun req hread => wp_read fun userId huser =>
    wp_read fun keyword hkeyword => ?_)
  have hadds : request.Adds text userId keyword :=
    ⟨hkind, readAs_eq hread huser, readAs_eq hread hkeyword⟩
  have hscore (b : Bool) {done : List (Event D)} (hunchanged : ∀ event ∈ done, event.changed = 0) :
      (searching text key dateFormat request).wp
        (Page.db (SearchDAO.applySearchScore keyword) >>= fun _ =>
          Page.reply CmdID.RES_RESEARCH_ADD (Dto.statusOnly 200)) (fun _ _ => True) done :=
    (wp_bind _ _).mpr (wp_db (wp_applySearchScore hadds hunchanged fun _ _ =>
      wp_other (by decide) _))
  refine (wp_bind _ _).mpr (wp_db (wp_succeeds (of_insert userId keyword) ?_ ?_ ?_))
  · rintro n _ ⟨row, rfl, rfl, rfl⟩
    exact ⟨hadds, rfl⟩
  · exact hscore false fun event hevent => by rw [List.mem_singleton.mp hevent]; rfl
  · rintro n _ ⟨row, rfl, rfl, rfl⟩
    exact hscore true fun event hevent => by rw [List.mem_singleton.mp hevent]; rfl

theorem wp_handleSearchDeleteReq (hkind : request.kind = .delete) :
    (searching text key dateFormat request).wp
      (SearchHandler.handleSearchDeleteReq text request.jsonBody) (fun _ _ => True) done := by
  refine wp_handler (wp_read fun req hread => wp_read fun userId huser =>
    wp_read fun historyId hid => ?_)
  refine (wp_bind _ _).mpr (wp_db (wp_succeeds (of_hide userId historyId) ?_ ?_ ?_))
  · rintro n _ rfl
    exact ⟨hkind, readAs_eq hread huser, readAs_eq hread hid⟩
  · exact wp_other (by decide) _
  · exact fun _ _ _ => wp_other (by decide) _

theorem wp_handleSearchDelAllReq (hkind : request.kind = .deleteAll) :
    (searching text key dateFormat request).wp
      (SearchHandler.handleSearchDelAllReq text request.jsonBody) (fun _ _ => True) done := by
  refine wp_handler (wp_read fun req hread => wp_read fun userId huser => ?_)
  refine (wp_bind _ _).mpr (wp_db (wp_succeeds (of_hideAll userId) ?_ ?_ ?_))
  · rintro n _ rfl
    exact ⟨hkind, readAs_eq hread huser⟩
  · exact wp_other (by decide) _
  · exact fun _ _ _ => wp_other (by decide) _

/-- What is found may be. -/
theorem allowed_found {done : List (Event D)} {s : Tables D} {choice : Choice} {query : String}
    {params : List SqlParam} {rows : List (ResultRow D)} {event : Event D}
    (h : (ledger key dateFormat).find s choice query params = some (rows, some event)) :
    Allowed text dateFormat request done event := by
  cases hof : Query.of query params with
  | none =>
    simp only [ledger, hof, Option.some.injEq, Prod.mk.injEq, reduceCtorEq, and_false] at h
  | some asked =>
    obtain ⟨e, he, hfind⟩ := find_of_find hof h
    obtain rfl := Option.some.inj he
    cases asked with
    | popular limit | recent userId =>
      obtain ⟨-, heq⟩ := Option.ite_none_right_eq_some.mp hfind
      cases heq
      trivial

theorem wp_handleSearchStoreReq :
    (searching text key dateFormat request).wp
      (SearchHandler.handleSearchStoreReq text request.jsonBody) (fun _ _ => True) done := by
  refine wp_handler (wp_read fun req _ => wp_read fun keyword _ => ?_)
  have hreads : (SearchDAO.searchStoresByKeyword keyword : DbProg D _).ReadOnly :=
    .selectEach (fun _ row => foundStore_readOnly row) _ _
  refine (wp_bind _ _).mpr (wp_db (wp_readOnly allowed_failed
    (fun _ _ _ _ _ _ _ => allowed_found) hreads fun r done' => ?_))
  cases r with
  | error e => trivial
  | ok stores => exact wp_other (by decide) _

/-- **A request on its own** does what it may. -/
theorem wp_handle : (searching text key dateFormat request).wp (request.handle text)
    (fun _ _ => True) [] := by
  rw [Request.handle]
  cases hkind : request.kind with
  | widget => exact wp_handleSearchWidgetReq hkind
  | add => exact wp_handleSearchAddReq hkind
  | delete => exact wp_handleSearchDeleteReq hkind
  | deleteAll => exact wp_handleSearchDelAllReq hkind
  | store => exact wp_handleSearchStoreReq

end Handlers

end Rules

end ItsBedalyo.Pages.SearchHistory
