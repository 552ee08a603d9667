import ItsBedalyo.Handler.PageFaults
import ItsBedalyo.Handler.StorePages
import ItsBedalyo.Lib.Sql

/-!
# The statements of a change of settings

`handleStoreInfoUpdateReq` builds the text and the values of up to three updates side by side, one
member of the request after another, and cuts the last separator off. `Setting` is what it does with
one member, and `Writes` what a statement has to be: it reads as the update of the columns whose
members are there, each placeholder gets the value of its own member, and the last one the key of
the row.
-/

namespace ItsBedalyo.Pages.StoreHandler

open Interface hiding wp_op
open Faults Page

variable {D : Type} [Double D]

/-! ### The settings -/

/-- A member of the request, the column that it sets and how it is read. -/
structure Setting (D : Type) where
  key : String
  column : String
  read : Json D → Except JsonError String

/-- The tables that hold the settings. -/
inductive SettingsTable
  | stores
  | users
  | owners
  deriving DecidableEq

namespace SettingsTable

def name : SettingsTable → String
  | stores => "STORES"
  | users => "USERS"
  | owners => "OWNERS"

def keyColumn : SettingsTable → String
  | stores => "store_id"
  | users | owners => "user_id"

def settings : SettingsTable → List (Setting D)
  | stores =>
    [⟨"storeName", "store_name", readText⟩, ⟨"category", "category", readText⟩,
     ⟨"storeAddress", "store_address", readText⟩, ⟨"cookTime", "cook_time", readText⟩,
     ⟨"deliveryFee", "delivery_fee", readNumber⟩,
     ⟨"minOrderAmount", "min_order_amount", readNumberOrText⟩,
     ⟨"openTime", "open_time", readText⟩, ⟨"closeTime", "close_time", readText⟩]
  | users => [⟨"ownerName", "user_name", readText⟩, ⟨"ownerPhone", "phone_number", readText⟩]
  | owners => [⟨"accountNumber", "account_number", readText⟩]

/-- The clauses that the handler builds for a table. -/
def clauses (req : Json D) : SettingsTable → Except JsonError Clauses
  | stores => storeClauses req
  | users => userClauses req
  | owners => ownerClauses req

/-- In the order of their statements. -/
def all : List SettingsTable := [stores, users, owners]

end SettingsTable

variable (req : Json D)

/-- The settings of a table that the request has. -/
def named (t : SettingsTable) : List (Setting D) :=
  t.settings.filter fun setting => req.contains setting.key

/-- A text as it is, a number as `get<int>()` has it, in decimals. -/
def Says (field : Json D) (value : String) : Prop :=
  field = .string value ∨ ∃ n : Int32, decode field = .ok n ∧ value = toString n.toInt

/-- The values of all settings that the request has are read. -/
def Accepted : Prop :=
  ∀ t, ∀ setting ∈ (SettingsTable.settings t : List (Setting D)), ∀ field,
    req.find setting.key = some field → ∃ value, setting.read field = .ok value

/-- **A correct statement.** It is read as the update of the columns of the settings that the
request has, takes as many values as it is given, gets for each column the value of its own member,
and then the key of the row. -/
structure Writes (rowKey : SettingsTable → String) (t : SettingsTable)
    (stmt : String × List SqlParam) : Prop where
  reads : Sql.Update.parse stmt.1 =
    some ⟨t.name, (named req t).map (·.column), t.keyColumn⟩
  placeholders : Sql.placeholders stmt.1 = stmt.2.length
  values : ∃ values : List String, stmt.2 = (values ++ [rowKey t]).map .string ∧
    List.Forall₂ (fun setting value => ∃ field, req.find setting.key = some field ∧ Says field value)
      (named req t) values

/-! ### What the clauses come to -/

/-- Columns with their values, as clauses. -/
def Clauses.of (assigned : List (String × String)) : Clauses :=
  ⟨String.join (assigned.map fun a => a.1 ++ "=?, "), assigned.map Prod.snd⟩

theorem Clauses.add_of (assigned : List (String × String)) (column value : String) :
    (Clauses.of assigned).add column value = Clauses.of (assigned ++ [(column, value)]) := by
  simp [Clauses.of, Clauses.add, String.append_assoc]

theorem Clauses.text_of_eq_empty {assigned : List (String × String)} :
    (Clauses.of assigned).text = "" ↔ assigned = [] := by
  cases assigned with
  | nil => exact iff_of_true rfl rfl
  | cons a assigned => simp [Clauses.of]

/-- Without the last separator, the others separate. -/
theorem Clauses.trimmed_of {assigned : List (String × String)} (h : assigned ≠ []) :
    (Clauses.of assigned).trimmed =
      ", ".intercalate ((assigned.map Prod.fst).map (· ++ "=?")) := by
  have htext : (Clauses.of assigned).text =
      ", ".intercalate ((assigned.map Prod.fst).map (· ++ "=?")) ++ ", " := by
    induction assigned with
    | nil => exact absurd rfl h
    | cons a assigned ih =>
      cases assigned with
      | nil => simp [Clauses.of, String.append_assoc]
      | cons b assigned =>
        have hrest := ih (List.cons_ne_nil b assigned)
        simp only [Clauses.of, List.map_cons, String.join_cons] at hrest ⊢
        rw [hrest, String.intercalate_cons_cons]
        simp only [String.append_assoc]
        rfl
  rw [Clauses.trimmed, htext]
  generalize ", ".intercalate _ = separated
  simp

theorem says_of_readText {field : Json D} {value : String} (h : readText field = .ok value) :
    Says field value := by
  cases field with
  | string s => exact .inl (congrArg Json.string (Except.ok.inj h))
  | _ => cases h

theorem says_of_readNumber {field : Json D} {value : String} (h : readNumber field = .ok value) :
    Says field value := by
  rw [readNumber] at h
  cases hn : (decode field : Except JsonError Int32) with
  | ok n =>
    rw [hn] at h
    exact .inr ⟨n, hn, (Except.ok.inj h).symm⟩
  | error e =>
    rw [hn] at h
    cases h

theorem SettingsTable.says {t : SettingsTable} {setting : Setting D} (hmem : setting ∈ t.settings)
    {field : Json D} {value : String} (h : setting.read field = .ok value) : Says field value := by
  have hreads : setting.read = readText ∨ setting.read = readNumber ∨
      setting.read = readNumberOrText := by
    cases t <;> simp only [settings, List.mem_cons, List.not_mem_nil, or_false] at hmem <;>
      rcases hmem with rfl | rfl | rfl | rfl | rfl | rfl | rfl | rfl <;> simp
  rcases hreads with hread | hread | hread <;> rw [hread] at h
  · exact says_of_readText h
  · exact says_of_readNumber h
  · rw [readNumberOrText] at h
    split at h
    · exact says_of_readNumber h
    · exact says_of_readText h

/-- The member of one setting after another. -/
def addFields (settings : List (Setting D)) (clauses : Clauses) : Except JsonError Clauses :=
  settings.foldlM (fun clauses setting =>
    addField req setting.key setting.column setting.read clauses) clauses

theorem SettingsTable.clauses_eq (t : SettingsTable) :
    t.clauses req = addFields req t.settings {} := by
  cases t <;> simp [clauses, addFields, settings, storeClauses, userClauses, ownerClauses,
    -JsonError.pure_eq_ok]

/-- What one setting that the request has is given. -/
def GivenBy (setting : Setting D) (value : String) : Prop :=
  ∃ field, req.find setting.key = some field ∧ setting.read field = .ok value

omit [Double D] in
theorem addFields_of {settings : List (Setting D)} (h : ∀ setting ∈ settings, ∀ field,
      req.find setting.key = some field → ∃ value, setting.read field = .ok value)
    (before : List (String × String)) : ∃ values : List String,
      List.Forall₂ (GivenBy req) (settings.filter fun setting => req.contains setting.key) values ∧
      addFields req settings (.of before) = .ok (.of (before ++
        ((settings.filter fun setting => req.contains setting.key).map (·.column)).zip values)) := by
  induction settings generalizing before with
  | nil => exact ⟨[], .nil, by simp [addFields]⟩
  | cons setting settings ih =>
    have hrest := fun s hs => h s (List.mem_cons_of_mem setting hs)
    cases hfield : req.find setting.key with
    | none =>
      obtain ⟨values, hvalues, hclauses⟩ := ih hrest before
      have hnamed : req.contains setting.key = false := by rw [Json.contains, hfield]; rfl
      refine ⟨values, by simpa [hnamed] using hvalues, ?_⟩
      simpa [addFields, addField, hfield, hnamed] using hclauses
    | some field =>
      obtain ⟨value, hvalue⟩ := h setting List.mem_cons_self field hfield
      obtain ⟨values, hvalues, hclauses⟩ := ih hrest (before ++ [(setting.column, value)])
      have hnamed : req.contains setting.key = true := by rw [Json.contains, hfield]; rfl
      refine ⟨value :: values, ?_, ?_⟩
      · simpa [hnamed] using ⟨⟨field, hfield, hvalue⟩, hvalues⟩
      · simpa [addFields, addField, hfield, hvalue, hnamed, Except.map, Clauses.add_of] using hclauses

/-- The statement of a table. -/
def statement (t : SettingsTable) (clauses : Clauses) (rowKey : String) :
    String × List SqlParam :=
  ("UPDATE " ++ t.name ++ " SET " ++ clauses.trimmed ++ " WHERE " ++ t.keyColumn ++ "=?",
    (clauses.values ++ [rowKey]).map .string)

theorem SettingsTable.isName_name (t : SettingsTable) : Sql.IsName t.name := by
  cases t <;> decide

theorem SettingsTable.isName_keyColumn (t : SettingsTable) : Sql.IsName t.keyColumn := by
  cases t <;> decide

theorem SettingsTable.isName_column {t : SettingsTable} {setting : Setting D}
    (h : setting ∈ t.settings) : Sql.IsName setting.column := by
  have hcolumns : ∀ column ∈ (t.settings : List (Setting D)).map (·.column),
      Sql.IsName column := by
    cases t <;> simp only [settings, List.map_cons, List.map_nil] <;> decide
  exact hcolumns _ (List.mem_map_of_mem h)

variable {req} in
/-- **The clauses of a table make a correct statement**, and there are some exactly if the request
has a setting of the table. -/
theorem clauses_correct (h : Accepted req) (t : SettingsTable) : ∃ clauses : Clauses,
    t.clauses req = .ok clauses ∧ (clauses.text = "" ↔ named req t = []) ∧
      ∀ rowKey : SettingsTable → String, named req t ≠ [] →
        Writes req rowKey t (statement t clauses (rowKey t)) := by
  obtain ⟨values, hvalues, hclauses⟩ := addFields_of req (h t) []
  rw [List.nil_append] at hclauses
  change List.Forall₂ (GivenBy req) (named req t) values at hvalues
  change _ = Except.ok (Clauses.of (((named req t).map (·.column)).zip values)) at hclauses
  have hlength : (named req t).length = values.length := hvalues.length_eq
  have hcolumns : (((named req t).map (·.column)).zip values).map Prod.fst =
      (named req t).map (·.column) := List.map_fst_zip (by simp [hlength])
  have hgiven : (((named req t).map (·.column)).zip values).map Prod.snd = values :=
    List.map_snd_zip (by simp [hlength])
  refine ⟨_, (t.clauses_eq req).trans hclauses, ?_, fun rowKey hnamed => ?_⟩
  · rw [Clauses.text_of_eq_empty]
    change ((named req t).map (·.column)).zip values = [] ↔ _
    rw [← List.map_eq_nil_iff (f := Prod.fst), hcolumns, List.map_eq_nil_iff]
  · -- the statement as an abstract update, whose text is the one built
    let update : Sql.Update := ⟨t.name, (named req t).map (·.column), t.keyColumn⟩
    have hsets : update.columns ≠ [] := by
      change (named req t).map (·.column) ≠ []
      rwa [ne_eq, List.map_eq_nil_iff]
    have hformed : update.Formed := by
      refine ⟨t.isName_name, fun column hcolumn => ?_, t.isName_keyColumn, hsets⟩
      obtain ⟨setting, hsetting, rfl⟩ := List.mem_map.mp hcolumn
      exact SettingsTable.isName_column (List.mem_of_mem_filter hsetting)
    have hne : ((named req t).map (·.column)).zip values ≠ [] := by
      intro hnil
      rw [hnil] at hcolumns
      exact hsets hcolumns.symm
    have hreads : Sql.Update.parse update.text = some update := Sql.Update.parse_text hformed
    have htext : (statement t (.of (((named req t).map (·.column)).zip values)) (rowKey t)).1 =
        update.text := by
      rw [statement, Clauses.trimmed_of hne, hcolumns]
      rfl
    have hparams : (statement t (.of (((named req t).map (·.column)).zip values)) (rowKey t)).2 =
        (values ++ [rowKey t]).map .string := by
      rw [statement, Clauses.of, hgiven]
    refine ⟨htext ▸ hreads, ?_, values, hparams, ?_⟩
    · rw [htext, hparams, Sql.Update.placeholders_of_parse hreads]
      simp [update, hlength]
    · have hmem : ∀ setting ∈ named req t, setting ∈ t.settings := fun _ => List.mem_of_mem_filter
      refine ((List.forall₂_and_left _ _).mpr ⟨hmem, hvalues⟩).imp ?_
      rintro setting value ⟨hsetting, field, hfield, hread⟩
      exact ⟨field, hfield, SettingsTable.says hsetting hread⟩

/-! ### The statements of a request -/

variable {answer : (o : PageOp D) → o.Res}

omit [Double D] in
/-- `executeUpdate` of the DAO classes: the statement is sent unless its preparation throws. -/
theorem wp_executeUpdate {query : String} {params : List String}
    {Q : Except SqlException Bool → Trace (DbOp D) → Prop}
    (hsent : Q (.ok true)
      [(.prepareStatement query, true), (.executeUpdate query (params.map .string), true)])
    (hunprepared : Q (.ok false) [(.prepareStatement query, false)])
    (hthrown : Q (.ok false)
      [(.prepareStatement query, true), (.executeUpdate query (params.map .string), false)]) :
    (dbFaults answer).wp (executeUpdate query params) Q [] := by
  exact wp_call.mpr ⟨wp_call.mpr ⟨hsent, fun _ _ => hthrown⟩, fun _ _ => hunprepared⟩

/-- The statements that have been sent to the database. -/
def sentUpdates (tr : Trace (PageOp D)) : List (String × List SqlParam) :=
  tr.filterMap fun
    | (.db (.executeUpdate query params), _) => some (query, params)
    | _ => none

omit [Double D] in
@[simp] theorem sentUpdates_append (tr tr' : Trace (PageOp D)) :
    sentUpdates (tr ++ tr') = sentUpdates tr ++ sentUpdates tr' := List.filterMap_append ..

/-- The tables of which the request has a setting, among some. -/
def namedAmong (tables : List SettingsTable) : List SettingsTable :=
  tables.filter fun t => named req t ≠ []

/-- After some tables: the statements sent are those of the first tables that have to be updated,
and of all of them unless a call has failed. -/
def Progress (rowKey : SettingsTable → String) (tables : List SettingsTable) (success : Bool)
    (tr : Trace (PageOp D)) : Prop :=
  ∃ done, done <+: namedAmong req tables ∧ List.Forall₂ (Writes req rowKey) done (sentUpdates tr) ∧
    (success = true → done = namedAmong req tables) ∧ (success = false → Failed tr)

/-- Every statement is a correct one for its table. There is one for each table of which the request
has a setting, in the order of the tables, as long as no call has failed, and no others. -/
def Issued (rowKey : SettingsTable → String) (tr : Trace (PageOp D)) : Prop :=
  ∃ done, done <+: namedAmong req SettingsTable.all ∧
    List.Forall₂ (Writes req rowKey) done (sentUpdates tr) ∧
    (¬Failed tr → done = namedAmong req SettingsTable.all)


variable {req} in
/-- What the update of a table adds. -/
theorem Progress.updateTable {rowKey : SettingsTable → String} {tables : List SettingsTable}
    {success : Bool} {tr : Trace (PageOp D)} (h : Progress req rowKey tables success tr)
    {t : SettingsTable} {clauses : Clauses} (hempty : clauses.text = "" ↔ named req t = [])
    (hwrites : named req t ≠ [] → Writes req rowKey t (statement t clauses (rowKey t)))
    {id : Page D String} (hid : ∀ {Q : Except Exn String → Trace (PageOp D) → Prop},
      (∀ tr', sentUpdates tr' = sentUpdates tr → (Failed tr → Failed tr') →
          Q (.ok (rowKey t)) tr') →
        (pageFaults answer).wp id Q tr) :
    (pageFaults answer).wp (StoreHandler.updateTable success t.name t.keyColumn clauses id)
      (fun r tr' => ∃ success', r = .ok success' ∧
        Progress req rowKey (tables ++ [t]) success' tr') tr := by
  obtain ⟨done, hprefix, hdone, hall, hfailed⟩ := h
  have hnamed : namedAmong req (tables ++ [t]) = namedAmong req tables ++ namedAmong req [t] :=
    List.filter_append ..
  rw [StoreHandler.updateTable, wp_ite]
  constructor
  · rintro ⟨hsuccess, htext⟩
    have hsome : named req t ≠ [] := fun hnil => htext (hempty.mpr hnil)
    have hone : namedAmong req [t] = [t] := by simp [namedAmong, hsome]
    obtain rfl := hall hsuccess
    rw [wp_bind]
    refine hid fun tr' hsent hfail => wp_db_faults.mpr (wp_executeUpdate ?_ ?_ ?_)
    · refine ⟨true, rfl, _, List.prefix_rfl, ?_, fun _ => rfl, fun h => Bool.noConfusion h⟩
      rw [hnamed, hone, sentUpdates_append, hsent]
      exact List.rel_append hdone (.cons (hwrites hsome) .nil)
    · refine ⟨false, rfl, namedAmong req tables, ?_, ?_, fun h => Bool.noConfusion h, fun _ => ?_⟩
      · rw [hnamed]
        exact List.prefix_append _ _
      · rw [sentUpdates_append, hsent]
        simpa [sentUpdates, lift] using hdone
      · simp [lift]
    · refine ⟨false, rfl, _, List.prefix_rfl, ?_, fun h => Bool.noConfusion h,
        fun _ => ?_⟩
      · rw [hnamed, hone, sentUpdates_append, hsent]
        exact List.rel_append hdone (.cons (hwrites hsome) .nil)
      · simp [lift]
  · intro hskip
    refine ⟨success, rfl, done, ?_, hdone, fun hsuccess => ?_, hfailed⟩
    · rw [hnamed]
      exact hprefix.trans (List.prefix_append _ _)
    · have hnone : named req t = [] := by
        by_contra hsome
        exact hskip ⟨hsuccess, fun htext => hsome (hempty.mp htext)⟩
      rw [hnamed, ← hall hsuccess]
      simp [namedAmong, hnone]

/-- The key of the row of each table. -/
def rowKeys (storeId : Int32) (userId : String) : SettingsTable → String
  | .stores => toString storeId.toInt
  | .users | .owners => userId

variable (answer) {text : JsonParser D} {jsonBody : String} {req}

omit [Double D] in
/-- A reply ends the request. -/
theorem wp_reply {cmdId : CmdID} {body : Json D} {tr : Trace (PageOp D)}
    {Q : Except Exn Unit → Trace (PageOp D) → Prop}
    (h : Q (.ok ()) (tr ++ [(.sendPacket cmdId (some body), true)])) :
    (pageFaults answer).wp (reply cmdId body) Q tr :=
  wp_op.mpr ⟨h, fun _ hthrow => Bool.noConfusion hthrow⟩

omit [Double D] in
theorem wp_getUserId {tr : Trace (PageOp D)} {Q : Except Exn String → Trace (PageOp D) → Prop}
    (h : ∀ tr', sentUpdates tr' = sentUpdates tr → (Failed tr → Failed tr') →
      Q (.ok (answer .getUserId)) tr') :
    (pageFaults answer).wp getUserId Q tr := by
  refine wp_op.mpr ⟨h _ ?_ fun hfailed => ?_, fun _ hthrow => Bool.noConfusion hthrow⟩
  · simp [sentUpdates]
  · exact failed_append.mpr (.inl hfailed)

/-- A new name, a new fee and a new phone number. -/
def sampleSettings : Json Float := .object
  [("storeId", .numberInteger 3), ("ownerPhone", .string "010-1234-5678"),
   ("deliveryFee", .numberInteger 3000), ("storeName", .string "쟁반짜장"), ("page", .null)]

theorem accepted_sampleSettings : Accepted sampleSettings := by
  intro t setting hmem field hfield
  cases t <;> simp only [SettingsTable.settings, List.mem_cons, List.not_mem_nil, or_false] at hmem <;>
    rcases hmem with rfl | rfl | rfl | rfl | rfl | rfl | rfl | rfl <;>
    simp [sampleSettings, Json.find, List.lookup_cons] at hfield <;>
    subst hfield <;> exact ⟨_, rfl⟩

end ItsBedalyo.Pages.StoreHandler
