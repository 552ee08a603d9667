import ItsBedalyo.Handler.SearchRequests

/-!
# Searches over time

Which rows of `SEARCH_HISTORY` are visible, and the scores of the categories, are told by the
journal of what the requests have done (`Told`). So what the search page shows is what was added and
not deleted before it looked (`searches_of_run`), and a score counts the requests that have credited
its category, each of which credits nothing else (`scores_of_run`).
-/

namespace ItsBedalyo.Pages.SearchHistory

open Journal KeywordSearch Ledger Relational Like

variable {κ ι D : Type} [DecidableEq κ] [DecidableEq ι] [Double D]

/-! ### What the journal tells -/

section Journal

variable (key : String → κ) (initial : Initial D) (log : List (ι × Event D))

/-- The row was visible at first or has been inserted, and has not been hidden after that. -/
def Standing (row : SearchRow) : Prop :=
  Lasting (row ∈ initial.history ∧ row.isVisible = true) (fun entry => entry.2 = .inserted row)
    (fun entry => entry.2.hides key row = true) log

/-- The id that an event gives out. -/
def Event.insertedId : Event D → Option Int32
  | .inserted row => some row.historyId
  | _ => none

/-- The ids that have been given out. -/
def ids : List Int32 :=
  initial.history.map (·.historyId) ++ log.filterMap fun entry => entry.2.insertedId

/-- The category whose score an event has raised. -/
def Event.credited : Event D → Option String
  | .scored name _ => some name
  | .scoredByMenu _ name _ => name
  | _ => none

/-- Who has credited a category. -/
def creditors (name : String) : List ι :=
  (log.filter fun entry => entry.2.credited = some name).map Prod.fst

/-- The categories with the points that they have got. -/
def scores : List ScoredCategory :=
  initial.categories.map fun category =>
    let points : ℤ := (creditors log category.name).length
    { category with popularityScore := category.popularityScore.map (· + points) }

/-- What an event means, after the ones before it. -/
def Meant : Event D → Prop
  | .inserted row => row.isVisible = true ∧ row.historyId ∉ ids initial log
  | .scored name changed => changed = scorable initial.toSearchTables name
  | .scoredStores name changed => changed = scorableStores initial.toSearchTables name
  | .scoredByMenu pattern name changed =>
    changed = name.elim 0 (scorable initial.toSearchTables) ∧
      ∀ category ∈ name, ∃ menu ∈ initial.menus, ∃ store ∈ initial.stores,
        menu.storeId = store.storeId ∧ store.category = category ∧
          like pattern menu.menuName = true
  | .recent userId found => Best
      (fun row => Standing key initial log row ∧ key row.userId = key userId) (·.searchDate) 10 found
  | .popular limit found =>
    Ranking ScoredCategory.rank limit.toInt.toNat (scores initial log) found
  | _ => True

/-- What is kept of a store. -/
def identity (store : SearchedStore D) : Int32 × String × String × Bool :=
  (store.storeId, store.storeName, store.category, store.popularityScore.isSome)

/-- The tables are as the journal tells. -/
structure Told (s : Tables D) : Prop where
  visible : ∀ row, (row ∈ s.history ∧ row.isVisible = true) ↔ Standing key initial log row
  ids : s.history.map (·.historyId) = ids initial log
  nodup : (SearchHistory.ids initial log).Nodup
  categories : s.tables.categories = scores initial log
  stores : s.tables.stores.map identity = initial.stores.map identity
  menus : s.tables.menus = initial.menus

end Journal

section Steps

variable {key : String → κ} {initial : Initial D} {log : List (ι × Event D)} {s : Tables D}
  {choice : Choice} {t : ι} {event : Event D}

/-- The tables at first. -/
def Initial.start (initial : Initial D) : Tables D :=
  ⟨initial.history, initial.toSearchTables, 0⟩

omit [DecidableEq ι] [Double D] in
theorem told_start : Told key initial ([] : List (ι × Event D)) initial.start := by
  refine ⟨fun row => lasting_nil.symm, (List.append_nil _).symm, ?_, ?_, rfl, rfl⟩
  · rw [ids, List.filterMap_nil, List.append_nil]
    exact initial.historyKey
  · refine (List.map_id _).symm.trans (List.map_congr_left fun category _ => ?_)
    rw [creditors, List.filter_nil, List.map_nil, List.length_nil]
    cases category with
    | mk name score => cases score <;> simp

/-! #### One event -/

/-- What hiding makes of a row that is visible afterwards. -/
theorem hide_eq_iff {such : Bool} {row row' : SearchRow} {now : ℕ} :
    (if such then row'.hide now else row') = row ∧ row.isVisible = true ↔
      (row' = row ∧ row.isVisible = true) ∧ such = false := by
  cases such with
  | false => simp
  | true =>
    simp only [if_true, Bool.true_eq_false, and_false, iff_false]
    rintro ⟨rfl, hvisible⟩
    rw [SearchRow.hide] at hvisible
    split at hvisible
    · cases hvisible
    · next hnot => exact hnot hvisible

omit [DecidableEq ι] [Double D] in
/-- The rows that are visible after an event. -/
theorem mem_after_iff (row : SearchRow) :
    (row ∈ (s.after key choice event).history ∧ row.isVisible = true) ↔
      (event = .inserted row ∧ row.isVisible = true) ∨
        (row ∈ s.history ∧ row.isVisible = true) ∧ event.hides key row = false := by
  have hmap (such : SearchRow → Bool) :
      (row ∈ s.history.map (fun row => if such row then row.hide choice.now else row) ∧
        row.isVisible = true) ↔ (row ∈ s.history ∧ row.isVisible = true) ∧ such row = false := by
    rw [List.mem_map]
    constructor
    · rintro ⟨⟨row', hmem, heq⟩, hvisible⟩
      obtain ⟨⟨rfl, -⟩, hsuch⟩ := hide_eq_iff.mp ⟨heq, hvisible⟩
      exact ⟨⟨hmem, hvisible⟩, hsuch⟩
    · rintro ⟨⟨hmem, hvisible⟩, hsuch⟩
      exact ⟨⟨row, hmem, (hide_eq_iff.mpr ⟨⟨rfl, hvisible⟩, hsuch⟩).1⟩, hvisible⟩
  cases event with
  | inserted row' =>
    simp only [Tables.after, List.mem_append, List.mem_singleton, Event.inserted.injEq,
      Event.hides, and_true]
    constructor
    · rintro ⟨hmem | rfl, hvisible⟩
      · exact .inr ⟨hmem, hvisible⟩
      · exact .inl ⟨rfl, hvisible⟩
    · rintro (⟨rfl, hvisible⟩ | ⟨hmem, hvisible⟩)
      · exact ⟨.inr rfl, hvisible⟩
      · exact ⟨.inl hmem, hvisible⟩
  | hid userId historyId => exact (hmap _).trans (or_iff_right (by simp)).symm
  | hidAll userId => exact (hmap _).trans (or_iff_right (by simp)).symm
  | _ => simp [Tables.after, Event.hides]

omit [DecidableEq κ] [DecidableEq ι] [Double D] in
theorem ids_concat : ids initial (log ++ [(t, event)]) =
    ids initial log ++ event.insertedId.toList := by
  rw [ids, ids, List.filterMap_append, List.append_assoc]
  cases hid : event.insertedId <;> simp [hid]

omit [DecidableEq ι] [Double D] in
/-- Only an insertion gives out an id. -/
theorem ids_after : (s.after key choice event).history.map (·.historyId) =
    s.history.map (·.historyId) ++ event.insertedId.toList := by
  have hmap (such : SearchRow → Bool) : (s.history.map fun row =>
      if such row then row.hide choice.now else row).map (·.historyId) =
        s.history.map (·.historyId) ++ [] := by
    rw [List.map_map, List.append_nil]
    refine List.map_congr_left fun row _ => ?_
    simp only [Function.comp_apply, SearchRow.hide]
    split
    · split <;> rfl
    · rfl
  cases event with
  | inserted row => exact List.map_append
  | hid userId historyId | hidAll userId => exact hmap _
  | _ => exact (List.append_nil _).symm

omit [DecidableEq ι] [Double D] in
theorem creditors_concat (name : String) : creditors (log ++ [(t, event)]) name =
    creditors log name ++ if event.credited = some name then [t] else [] := by
  rw [creditors, List.filter_append, List.map_append]
  congr 1
  by_cases hcredited : event.credited = some name
  · simp [hcredited]
  · simp [hcredited]

omit [DecidableEq ι] [Double D] in
theorem scores_concat : scores initial (log ++ [(t, event)]) =
    (scores initial log).map fun category =>
      if event.credited = some category.name then category.credit else category := by
  rw [scores, scores, List.map_map]
  refine List.map_congr_left fun category _ => ?_
  rw [Function.comp_apply, creditors_concat]
  by_cases hcredited : event.credited = some category.name
  · simp only [hcredited, if_true, List.length_append, List.length_singleton, Nat.cast_add,
      Nat.cast_one, ScoredCategory.credit, Option.map_map]
    congr 2
    funext score
    exact (add_assoc score _ _).symm
  · simp only [hcredited, if_false, List.append_nil]

omit [DecidableEq ι] [Double D] in
/-- Only a point for a category changes the scores. -/
theorem categories_after : (s.after key choice event).tables.categories =
    s.tables.categories.map fun category =>
      if event.credited = some category.name then category.credit else category := by
  have hcredit (name : String) : (s.tables.creditCategory name).categories =
      s.tables.categories.map fun category =>
        if some name = some category.name then category.credit else category := by
    refine List.map_congr_left fun category _ => ?_
    simp only [Option.some.injEq, eq_comm]
  have hsame : s.tables.categories = s.tables.categories.map fun category =>
      if (none : Option String) = some category.name then category.credit else category := by
    simp
  cases event with
  | scored name n => exact hcredit name
  | scoredByMenu pattern name n =>
    cases name with
    | none => exact hsame
    | some name => exact hcredit name
  | _ => exact hsame

omit [DecidableEq ι] [Double D] in
theorem stores_after : (s.after key choice event).tables.stores.map identity =
    s.tables.stores.map identity := by
  cases event with
  | scoredStores name n =>
    refine List.map_map.trans (List.map_congr_left fun store _ => ?_)
    rw [Function.comp_apply]
    split
    · simp [identity, SearchedStore.credit]
    · rfl
  | scoredByMenu pattern name n => cases name <;> rfl
  | _ => rfl

omit [DecidableEq ι] [Double D] in
theorem menus_after : (s.after key choice event).tables.menus = s.tables.menus := by
  cases event with
  | scoredByMenu pattern name n => cases name <;> rfl
  | _ => rfl

omit [DecidableEq ι] [Double D] in
/-- **One more event** leaves the tables as the journal tells. -/
theorem Told.after (h : Told key initial log s) (hmeant : Meant key initial log event) :
    Told key initial (log ++ [(t, event)]) (s.after key choice event) where
  visible row := by
    rw [Standing, lasting_concat, ← Standing, ← h.visible row, mem_after_iff, Bool.not_eq_true]
    refine or_congr_left (and_iff_left_of_imp ?_)
    rintro rfl
    exact hmeant.1
  ids := by rw [ids_after, ids_concat, h.ids]
  nodup := by
    rw [ids_concat]
    refine h.nodup.append ?_ ?_
    · cases event.insertedId <;> simp
    · cases event with
      | inserted row => exact List.disjoint_singleton.mpr hmeant.2
      | _ => exact List.disjoint_nil_right _
  categories := by rw [categories_after, scores_concat, h.categories]
  stores := by rw [stores_after, h.stores]
  menus := by rw [menus_after, h.menus]

/-! #### What the calls do -/

omit [DecidableEq ι] [Double D] in
theorem Told.scorable_eq (h : Told key initial log s) (name : String) :
    scorable s.tables name = scorable initial.toSearchTables name := by
  rw [scorable, scorable, h.categories, scores, List.countP_map]
  refine List.countP_congr fun category _ => ?_
  simp

omit [DecidableEq ι] [Double D] in
theorem Told.scorableStores_eq (h : Told key initial log s) (name : String) :
    scorableStores s.tables name = scorableStores initial.toSearchTables name := by
  have hcount (stores : List (SearchedStore D)) : (stores.countP fun store =>
      decide (store.storeName = name ∧ store.popularityScore ≠ none)) =
        (stores.map identity).countP fun store => decide (store.2.1 = name) && store.2.2.2 := by
    rw [List.countP_map]
    refine List.countP_congr fun store _ => ?_
    rw [Function.comp_apply, identity, Bool.and_eq_true, decide_eq_true_eq, decide_eq_true_eq,
      Option.isSome_iff_ne_none]
  rw [scorableStores, scorableStores, hcount, hcount, h.stores]

omit [DecidableEq ι] [Double D] in
/-- A menu with its store was there at first. -/
theorem Told.menusLike (h : Told key initial log s) {pattern : String}
    {found : SearchedMenu × SearchedStore D} (hfound : found ∈ s.tables.menusLike pattern) :
    ∃ menu ∈ initial.menus, ∃ store ∈ initial.stores, menu.storeId = store.storeId ∧
      store.category = found.2.category ∧ like pattern menu.menuName = true := by
  obtain ⟨hjoin, hlike⟩ := List.mem_filter.mp hfound
  obtain ⟨hmenu, hstore, hid⟩ := mem_join.mp (show (found.1, found.2) ∈ _ from hjoin)
  have hidentity : identity found.2 ∈ initial.stores.map identity :=
    h.stores ▸ List.mem_map_of_mem hstore
  obtain ⟨store, hmem, heq⟩ := List.mem_map.mp hidentity
  simp only [identity, Prod.mk.injEq] at heq
  refine ⟨found.1, h.menus ▸ hmenu, store, hmem, ?_, heq.2.2.1, hlike⟩
  exact (of_decide_eq_true hid).trans heq.1.symm

omit [DecidableEq ι] [Double D] in
/-- A statement. -/
theorem Told.outcome (h : Told key initial log s) {statement : Statement} {n : ℕ}
    (hout : s.outcome key choice statement = some (n, event)) : Meant key initial log event := by
  cases statement with
  | insert userId keyword =>
    obtain ⟨hfresh, heq⟩ := Option.ite_none_right_eq_some.mp hout
    cases heq
    exact ⟨rfl, h.ids ▸ hfresh⟩
  | hide userId historyId | hideAll userId =>
    cases hout
    trivial
  | scoreCategory name =>
    cases hout
    exact h.scorable_eq name
  | scoreStore name =>
    cases hout
    exact h.scorableStores_eq name
  | scoreMenu pattern =>
    rw [Tables.outcome] at hout
    split at hout
    · next found hfound =>
      cases hout
      refine ⟨h.scorable_eq _, fun category hcategory => ?_⟩
      obtain rfl := Option.mem_some_iff.mp hcategory
      exact h.menusLike (List.mem_of_getElem? hfound)
    · obtain ⟨-, heq⟩ := Option.ite_none_right_eq_some.mp hout
      cases heq
      exact ⟨rfl, fun category hcategory => by cases hcategory⟩

omit [DecidableEq ι] [Double D] in
/-- The visible searches of a user. -/
theorem Told.mem_searchesOf (h : Told key initial log s) {userId : String} {row : SearchRow} :
    row ∈ s.searchesOf key userId ↔
      Standing key initial log row ∧ key row.userId = key userId := by
  rw [Tables.searchesOf, List.mem_filter, decide_eq_true_eq, ← h.visible row]
  tauto

omit [DecidableEq ι] [Double D] in
/-- A query. -/
theorem Told.find (h : Told key initial log s) {dateFormat : ℕ → String} {asked : Query}
    {rows : List (ResultRow D)}
    (hfind : s.find key dateFormat choice asked = some (rows, event)) :
    Meant key initial log event := by
  cases asked with
  | popular limit =>
    obtain ⟨hordered, heq⟩ := Option.ite_none_right_eq_some.mp hfind
    cases heq
    exact ⟨choice.categories, h.categories ▸ hordered, rfl⟩
  | recent userId =>
    obtain ⟨hordered, heq⟩ := Option.ite_none_right_eq_some.mp hfind
    cases heq
    have hranking : Ranking (fun row : SearchRow => row.searchDate) 10 (s.searchesOf key userId)
        (choice.searches.take 10) := ⟨choice.searches, hordered, rfl⟩
    have hnodup : s.history.Nodup := List.Nodup.of_map (·.historyId) (h.ids ▸ h.nodup)
    exact hranking.best (hnodup.filter _) fun row => h.mem_searchesOf

omit [DecidableEq ι] [Double D] in
/-- What the calls do, by the journal. -/
theorem tells (key : String → κ) (dateFormat : ℕ → String) (initial : Initial D) :
    Tells (ledger key dateFormat) (fun s (log : List (ι × Event D)) => Told key initial log s)
      (Meant key initial) where
  write {s log choice query params n event} h hwrite := by
    cases hof : Statement.of query params with
    | none => simp only [ledger, hof, reduceCtorEq] at hwrite
    | some statement =>
      obtain ⟨e, he, hout⟩ := outcome_of_write hof hwrite
      obtain rfl := Option.some.inj he
      exact h.outcome hout
  find {s log choice query params rows event} h hfind := by
    cases hof : Query.of query params with
    | none =>
      simp only [ledger, hof, Option.some.injEq, Prod.mk.injEq, reduceCtorEq, and_false] at hfind
    | some asked =>
      obtain ⟨e, he, hfound⟩ := find_of_find hof hfind
      obtain rfl := Option.some.inj he
      exact h.find hfound
  sent _ _ _ := trivial
  failed _ := trivial
  after _ _ _ h hmeant := h.after hmeant

end Steps

/-! ### Runs -/

section Runs

open Transition

variable {text : JsonParser D} {key : String → κ} {dateFormat : ℕ → String}
  {requests : ι → Request} {initial : Initial D}

variable (text dateFormat requests) in
/-- What the requests may do. -/
def mayDo (t : ι) (done : List (Event D)) (event : Event D) : Prop :=
  Allowed text dateFormat (requests t) done event

variable (text key dateFormat requests initial) in
/-- What is known of an entry and the ones before it. -/
abbrev Known : List (ι × Event D) → ι × Event D → Prop :=
  Entry (Meant key initial) (mayDo text dateFormat requests)

variable (text requests initial) in
/-- All requests before their first call. -/
def start : Threads ι (@PageOp.Res D) Exn (Ledger.World ι (Tables D) (Event D)) :=
  ⟨fun t => (requests t).handle text, ⟨initial.start, []⟩⟩

/-- **Every state of a run** is recorded. -/
theorem always_told (l : List (ι × Reply D Choice)) :
    Always (Threads.step (ledger key dateFormat).exec)
      (fun s => Told key initial s.world.log s.world.tables ∧
        Throughout (Known text key dateFormat requests initial) s.world.log)
      (start text requests initial) l :=
  always_recorded (tells key dateFormat initial) told_start (fun _ => wp_handle) l

end Runs

/-! ### What the search page shows -/

section Searches

open Transition

variable (text : JsonParser D) (key : String → κ) (dateFormat : ℕ → String)
  (requests : ι → Request) (initial : Initial D)

/-- Whose searches there are, and what the page shows of them. -/
structure Searches (log : List (ι × Event D)) : Prop where
  /-- A row comes from the request that has added it, -/
  added : ∀ t row, (t, .inserted row) ∈ log → (requests t).Adds text row.userId row.keyword
  /-- which adds no other row, -/
  once : ∀ t row row', (t, .inserted row) ∈ log → (t, .inserted row') ∈ log → row = row'
  /-- and has an id of its own. -/
  nodup : (ids initial log).Nodup
  /-- Rows are hidden by the requests that ask for it, -/
  hidden : ∀ t row event, (t, event) ∈ log → event.hides key row = true → ∃ userId,
    key row.userId = key userId ∧ ((requests t).Deletes text userId row.historyId ∨
      (requests t).kind = .deleteAll ∧ (requests t).Names text userId)
  /-- and a page shows the ten latest of the rows of its user that nobody had hidden when it looked,
  or, if one of its calls has thrown, the first of them. -/
  shown : ∀ before t body after, log = before ++ (t, .replied .RES_RESEARCH_WIDGET body) :: after →
    ∃ userId searchDate popular recent, (requests t).Names text userId ∧
      body = some (widget searchDate popular recent) ∧
      (recent = [] ∧ (t, .failed) ∈ before ∨ ∃ earlier found later,
        before = earlier ++ (t, .recent userId found) :: later ∧
        Best (fun row => Standing key initial earlier row ∧ key row.userId = key userId)
          (·.searchDate) 10 found ∧
        recent <+: shownRecent dateFormat found ∧
        (recent = shownRecent dateFormat found ∨ (t, .failed) ∈ before))

section Proofs

variable {text : JsonParser D} {key : String → κ} {dateFormat : ℕ → String}
  {requests : ι → Request} {initial : Initial D} {log before after : List (ι × Event D)} {t : ι}

theorem searches_of_entries (h : Throughout (Known text key dateFormat requests initial) log)
    (hnodup : (ids initial log).Nodup) :
    Searches text key dateFormat requests initial log where
  added t row hmem := by
    have hadds := h.of_mem (R := fun entry => ∀ row, entry.2 = .inserted row →
      (requests entry.1).Adds text row.userId row.keyword) (fun before entry hentry row hrow => by
        have hallowed := hentry.allowed
        rw [hrow] at hallowed
        exact hallowed.1) hmem
    exact hadds row rfl
  once t row row' hmem hmem' := by
    have heq := h.eq_of_mem (S := fun a b : ι × Event D => a.1 = b.1 ∧
      a.2.insertedId.isSome ∧ b.2.insertedId.isSome) (fun a b hab => ⟨hab.1.symm, hab.2.2, hab.2.1⟩)
      (fun before b hb a ha hab => ?_) hmem hmem' ⟨rfl, rfl, rfl⟩
    · exact Event.inserted.inj (Prod.mk.inj heq).2
    · -- an insertion is the first that its request does
      obtain ⟨u, event⟩ := a
      obtain ⟨u', event'⟩ := b
      obtain rfl : u = u' := hab.1
      cases event' with
      | inserted row =>
        have hnone : own before u = [] := hb.allowed.2
        exact absurd (mem_own.mpr ha) (hnone ▸ List.not_mem_nil)
      | _ => cases hab.2.2
  nodup := hnodup
  hidden t row event hmem hhides := by
    have hasked := h.of_mem (R := fun entry => entry.2.hides key row = true → ∃ userId,
      key row.userId = key userId ∧ ((requests entry.1).Deletes text userId row.historyId ∨
        (requests entry.1).kind = .deleteAll ∧ (requests entry.1).Names text userId))
      (fun before entry hentry hhides => ?_) hmem
    · exact hasked hhides
    · obtain ⟨u, event⟩ := entry
      have hallowed := hentry.allowed
      cases event with
      | hid userId historyId =>
        obtain ⟨hkey, rfl⟩ := of_decide_eq_true hhides
        exact ⟨userId, hkey, .inl hallowed⟩
      | hidAll userId => exact ⟨userId, of_decide_eq_true hhides, .inr hallowed⟩
      | _ => cases hhides
  shown before t body after hlog := by
    obtain ⟨-, userId, searchDate, popular, recent, hnames, hbody, -, hrecent⟩ :=
      (h before _ after hlog).allowed rfl
    refine ⟨userId, searchDate, popular, recent, hnames, hbody, ?_⟩
    exact found_earlier (h.of_append hlog) hrecent

/-- **The search page.** Whatever the requests are and however their calls are interleaved and
throw, the rows of `SEARCH_HISTORY` are as `Searches` says, and the page shows the latest of those
that were there when it looked. -/
theorem searches_of_run (text : JsonParser D) (key : String → κ) (dateFormat : ℕ → String)
    (requests : ι → Request) (initial : Initial D) (l : List (ι × Reply D Choice)) :
    Always (Threads.step (ledger key dateFormat).exec)
      (fun s => Searches text key dateFormat requests initial s.world.log ∧
        ∀ row, (row ∈ s.world.tables.history ∧ row.isVisible = true) ↔
          Standing key initial s.world.log row)
      (start text requests initial) l :=
  (always_told l).mono fun _ h => ⟨searches_of_entries h.2 h.1.nodup, h.1.visible⟩

end Proofs

end Searches

/-! ### Whom the searches credit -/

section Scores

open Transition

variable (text : JsonParser D) (requests : ι → Request) (initial : Initial D)

/-- A request adds the name of the category, or, if no category and no store has the keyword for its
name, a keyword that is found in a menu of a store of the category. -/
def Request.Credits (request : Request) (name : String) : Prop :=
  ∃ userId keyword, request.Adds text userId keyword ∧ (keyword = name ∨
    scorable initial.toSearchTables keyword = 0 ∧
    scorableStores initial.toSearchTables keyword = 0 ∧
    ∃ menu ∈ initial.menus, ∃ store ∈ initial.stores, menu.storeId = store.storeId ∧
      store.category = name ∧ like (containing keyword) menu.menuName = true)

/-- What the scores of the categories are, and what the page shows of them. -/
structure Scores (w : Ledger.World ι (Tables D) (Event D)) : Prop where
  /-- The score of a category has grown by one for each request that has credited it. -/
  scores : w.tables.tables.categories = scores initial w.log
  creditors : ∀ name, ∀ t ∈ creditors w.log name, (requests t).Credits text initial name
  /-- A request credits a category once, -/
  once : ∀ category ∈ initial.categories, category.popularityScore ≠ none →
    (SearchHistory.creditors w.log category.name).Nodup
  /-- and no other. -/
  exclusive : ∀ category ∈ initial.categories, ∀ other ∈ initial.categories,
    category.popularityScore ≠ none → other.popularityScore ≠ none → ∀ t,
      t ∈ SearchHistory.creditors w.log category.name →
        t ∈ SearchHistory.creditors w.log other.name → category.name = other.name
  /-- A page shows the ten best categories of the moment when it looked. -/
  shown : ∀ before t body after,
    w.log = before ++ (t, .replied .RES_RESEARCH_WIDGET body) :: after →
    ∃ searchDate popular recent, body = some (widget searchDate popular recent) ∧
      (popular = [] ∧ (t, .failed) ∈ before ∨ ∃ earlier found later,
        before = earlier ++ (t, .popular 10 found) :: later ∧
        Ranking ScoredCategory.rank 10 (SearchHistory.scores initial earlier) found ∧
        popular <+: shownPopular found ∧
        (popular = shownPopular found ∨ (t, .failed) ∈ before))

section Proofs

variable {text : JsonParser D} {key : String → κ} {dateFormat : ℕ → String}
  {requests : ι → Request} {initial : Initial D} {log : List (ι × Event D)} {t : ι}

omit [DecidableEq ι] [Double D] in
theorem mem_creditors {name : String} :
    t ∈ creditors log name ↔ ∃ event, (t, event) ∈ log ∧ event.credited = some name := by
  rw [creditors, List.mem_map]
  constructor
  · rintro ⟨entry, hmem, rfl⟩
    obtain ⟨hmem, hcredited⟩ := List.mem_filter.mp hmem
    exact ⟨entry.2, hmem, of_decide_eq_true hcredited⟩
  · rintro ⟨event, hmem, hcredited⟩
    exact ⟨_, List.mem_filter.mpr ⟨hmem, decide_eq_true hcredited⟩, rfl⟩

/-- Where a step raises a score, no step before has raised one. -/
theorem Known.unchanged {entry : ι × Event D}
    (h : Known text key dateFormat requests initial log entry) (hchanged : entry.2.changed ≠ 0) :
    ∀ event ∈ own log entry.1, event.changed = 0 := by
  obtain ⟨t, event⟩ := entry
  have hallowed := h.allowed
  cases event with
  | scored name n => exact hallowed.2
  | scoredStores name n => exact hallowed.2.2
  | scoredByMenu pattern name n =>
    obtain ⟨_, _, -, -, -, -, hunchanged⟩ := hallowed
    exact hunchanged
  | _ => exact absurd rfl hchanged

/-- A category with a score has got a point. -/
theorem Known.changed {entry : ι × Event D}
    (h : Known text key dateFormat requests initial log entry) {category : ScoredCategory}
    (hmem : category ∈ initial.categories) (hscore : category.popularityScore ≠ none)
    (hcredited : entry.2.credited = some category.name) : entry.2.changed ≠ 0 := by
  have hpos : 0 < scorable initial.toSearchTables category.name :=
    List.countP_pos_iff.mpr ⟨category, hmem, decide_eq_true ⟨rfl, hscore⟩⟩
  obtain ⟨t, event⟩ := entry
  have hmeant := h.meant
  cases event with
  | scored name n =>
    obtain rfl := Option.some.inj hcredited
    exact fun hzero => Nat.ne_of_gt hpos (hmeant.symm.trans hzero)
  | scoredByMenu pattern name n =>
    obtain rfl : name = some category.name := hcredited
    exact fun hzero => Nat.ne_of_gt hpos (hmeant.1.symm.trans hzero)
  | _ => cases hcredited

/-- A request raises scores in one step at most. -/
theorem Known.not_changed {a b : ι × Event D}
    (hb : Known text key dateFormat requests initial log b) (ha : a ∈ log) :
    ¬(a.1 = b.1 ∧ a.2.changed ≠ 0 ∧ b.2.changed ≠ 0) := by
  rintro ⟨hsame, hchanged, hchanged'⟩
  exact hchanged (hb.unchanged hchanged' a.2 (mem_own.mpr (hsame ▸ ha)))

theorem pairwise_changed (h : Throughout (Known text key dateFormat requests initial) log) :
    log.Pairwise fun a b => ¬(a.1 = b.1 ∧ a.2.changed ≠ 0 ∧ b.2.changed ≠ 0) :=
  h.pairwise fun _ _ hb _ ha => hb.not_changed ha

theorem credits_of_entry {entry : ι × Event D} {before : List (ι × Event D)} {name : String}
    (hlog : Throughout (Known text key dateFormat requests initial) before)
    (h : Known text key dateFormat requests initial before entry)
    (hcredited : entry.2.credited = some name) :
    (requests entry.1).Credits text initial name := by
  obtain ⟨t, event⟩ := entry
  have hallowed := h.allowed
  cases event with
  | scored name' n =>
    obtain rfl := Option.some.inj hcredited
    obtain ⟨⟨userId, hadds⟩, -⟩ := hallowed
    exact ⟨userId, name', hadds, .inl rfl⟩
  | scoredByMenu pattern name' n =>
    obtain rfl : name' = some name := hcredited
    obtain ⟨userId, keyword, hadds, rfl, hdirect, hstore, -⟩ := hallowed
    -- what the first two steps have changed is what they could have changed at first
    have hmeant {event : Event D} (hmem : event ∈ own before t) :
        ∃ earlier : List (ι × Event D), Meant key initial earlier event := by
      obtain ⟨earlier, later, heq⟩ := List.append_of_mem (mem_own.mp hmem)
      exact ⟨earlier, (hlog earlier _ later heq).meant⟩
    obtain ⟨_, hcategories⟩ := hmeant hdirect
    obtain ⟨_, hstores⟩ := hmeant hstore
    exact ⟨userId, keyword, hadds, .inr ⟨hcategories.symm, hstores.symm, h.meant.2 name rfl⟩⟩
  | _ => cases hcredited

theorem scores_of_told {w : Ledger.World ι (Tables D) (Event D)}
    (htold : Told key initial w.log w.tables)
    (h : Throughout (Known text key dateFormat requests initial) w.log) :
    Scores text requests initial w where
  scores := htold.categories
  creditors name t ht := by
    obtain ⟨event, hmem, hcredited⟩ := mem_creditors.mp ht
    obtain ⟨before, after, heq⟩ := List.append_of_mem hmem
    exact credits_of_entry (h.of_append heq) (h before _ after heq) hcredited
  once category hmem hscore := by
    rw [SearchHistory.creditors, List.nodup_iff_pairwise_ne, List.pairwise_map]
    refine ((pairwise_changed h).filter _).imp_of_mem fun {a b} ha hb hnot hsame => ?_
    have hchanged {entry : ι × Event D} (hentry : entry ∈ w.log.filter fun entry =>
        entry.2.credited = some category.name) : entry.2.changed ≠ 0 := by
      obtain ⟨hlog, hcredited⟩ := List.mem_filter.mp hentry
      obtain ⟨before, after, heq⟩ := List.append_of_mem hlog
      exact (h before _ after heq).changed hmem hscore (of_decide_eq_true hcredited)
    exact hnot ⟨hsame, hchanged ha, hchanged hb⟩
  exclusive category hmem other hother hscore hscore' t ht ht' := by
    obtain ⟨event, hevent, hcredited⟩ := mem_creditors.mp ht
    obtain ⟨event', hevent', hcredited'⟩ := mem_creditors.mp ht'
    have hchanged {category : ScoredCategory} {event : Event D}
        (hmem : category ∈ initial.categories) (hscore : category.popularityScore ≠ none)
        (hevent : (t, event) ∈ w.log)
        (hcredited : event.credited = some category.name) : event.changed ≠ 0 := by
      obtain ⟨before, after, heq⟩ := List.append_of_mem hevent
      exact (h before _ after heq).changed hmem hscore hcredited
    have heq := h.eq_of_mem
      (S := fun a b => a.1 = b.1 ∧ a.2.changed ≠ 0 ∧ b.2.changed ≠ 0)
      (fun a b hab => ⟨hab.1.symm, hab.2.2, hab.2.1⟩) (fun _ _ hb _ ha => hb.not_changed ha)
      hevent hevent' ⟨rfl, hchanged hmem hscore hevent hcredited,
        hchanged hother hscore' hevent' hcredited'⟩
    rw [← (Prod.mk.inj heq).2, hcredited] at hcredited'
    exact Option.some.inj hcredited'
  shown before t body after hlog := by
    obtain ⟨-, userId, searchDate, popular, recent, -, hbody, hpopular, -⟩ :=
      (h before _ after hlog).allowed rfl
    refine ⟨searchDate, popular, recent, hbody, ?_⟩
    exact found_earlier (h.of_append hlog) hpopular

/-- **The scores.** Whatever the requests are and however their calls are interleaved and throw, the
score of a category is what it was at first and a point for each request that credits it, and the
page shows the best categories of the moment when it looked. -/
theorem scores_of_run (text : JsonParser D) (key : String → κ) (dateFormat : ℕ → String)
    (requests : ι → Request) (initial : Initial D) (l : List (ι × Reply D Choice)) :
    Always (Threads.step (ledger key dateFormat).exec)
      (fun s => Scores text requests initial s.world)
      (start text requests initial) l :=
  (always_told l).mono fun _ h => scores_of_told h.1 h.2

end Proofs

/-- Two categories and an old search. -/
def noodles : Initial Float where
  stores := []
  orders := []
  menus := []
  orderItems := []
  categories := [⟨"치킨", some 3⟩, ⟨"분식", some 3⟩]
  storeKey := List.nodup_nil
  orderKey := List.nodup_nil
  history := [⟨1, "kim", "피자", 0, true⟩]
  historyKey := List.nodup_singleton _

/-- What the environment answers, where it is to say which rows are found. -/
def finding (categories : List ScoredCategory) (searches : List SearchRow) :
    Reply Float Choice :=
  ⟨none, idle, 7, 2, 0, categories, searches⟩

/-- The page is asked for while a search is added: it has the new search, and not its point. -/
example :
    (run (Threads.step (ledger id fun _ => "03.17").exec)
      (start (JsonParser.knowing "search"
          (.object [("userId", .string "kim"), ("keyword", .string "분식")]))
        (fun t : Bool => if t then ⟨.add, "search"⟩ else ⟨.widget, "search"⟩) noodles)
      ([(false, finding [] []), (false, finding [] []),
        (false, finding [⟨"분식", some 3⟩, ⟨"치킨", some 3⟩] [])] ++
        List.replicate 5 (true, finding [] []) ++ List.replicate 6 (false, finding [] []) ++
        [(false, finding [] [⟨2, "kim", "분식", 7, true⟩, ⟨1, "kim", "피자", 0, true⟩])])).map
      (fun s => (s.world.tables.tables.categories.map (·.popularityScore), s.world.log.filterMap
        fun entry => match entry.2 with
          | .popular _ found => some (found.map (·.name))
          | .recent _ found => some (found.map (·.keyword))
          | _ => none)) =
    some ([some 3, some 4], [["분식", "치킨"], ["분식", "피자"]]) := by
  decide +kernel

end Scores

end ItsBedalyo.Pages.SearchHistory
