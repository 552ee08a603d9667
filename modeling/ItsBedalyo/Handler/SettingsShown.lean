import ItsBedalyo.Handler.Logins
import ItsBedalyo.Handler.SettingsSaved

/-!
# Settings that are shown again

What an owner has saved comes back with the next login: through a column of one of three tables, a
join, and the fields of the reply. The fee of a delivery is saved and never read, a text is cut off
at a NUL, and a number is stored as what the conversions before it have left (`returns_iff`).
-/

namespace ItsBedalyo.SettingsShown

open Interface Pages
open Pages.StoreHandler (SettingsTable Reaches Keyed Holds Succeeds named namedAmong
  rowKeys replies written refusesStage)
open Pages.AuthDAO (LoginMatch loginMatches rows readFaults userInfoOf ownerOf)

variable {D : Type}

/-! ### What the reply shows -/

/-- A field of the reply. A `numeral` is a text that is a number. -/
inductive Shown
  | text (s : String)
  | number (n : ℤ)
  | numeral (s : String)

/-- The fields of the reply, by the keys of the settings. -/
def fields (res : LoginAuthResDTO) : List (String × Shown) :=
  [("storeName", .text res.storeName), ("category", .text res.category),
   ("storeAddress", .text res.storeAddress), ("cookTime", .numeral res.cookTime),
   ("deliveryFee", .number res.deliveryFee), ("minOrderAmount", .numeral res.minOrderAmount),
   ("openTime", .text res.openTime), ("closeTime", .text res.closeTime),
   ("ownerName", .text res.userName), ("ownerPhone", .text res.phoneNumber),
   ("accountNumber", .text res.accountNumber)]

section Agrees

variable [Double D] [BEq D] (integer : String → Option ℤ)

/-- A number, or a text that is one, says this number. -/
def Says (j : Json D) (n : Int32) : Prop :=
  (∃ s, j = .string s ∧ integer s = some n.toInt) ∨ Means j n

/-- A field shows what the request has. -/
def Shown.Agrees (j : Json D) : Shown → Prop
  | text s => j = .string s
  | number n => ∃ m : Int32, n = m.toInt ∧ Says integer j m
  | numeral s => ∃ m : Int32, integer s = some m.toInt ∧ Says integer j m

/-- **Everything comes back**: each field that the request has is in the reply, with its value. -/
def Returns (req : Json D) (res : LoginAuthResDTO) : Prop :=
  ∀ field ∈ fields res, ∀ j, req.find field.1 = some j → field.2.Agrees integer j

end Agrees

/-! ### Columns -/

/-- What the columns of the settings hold: a text as it is, and an integer where a text says one.
`integer` is the integer that a text says, if it does. -/
structure StoresSettings (server : SqlServer D) (integer : String → Option ℤ) : Prop where
  decimal : ∀ n : ℤ, integer (toString n) = some n
  text : ∀ t column s, (t, column) ∉ [("STORES", "cook_time"), ("STORES", "delivery_fee"),
      ("STORES", "min_order_amount")] → server.stored t column (.string s) = .string s
  int : ∀ column ∈ ["cook_time", "min_order_amount"], ∀ s, ∃ n : Int32,
    server.stored "STORES" column (.string s) = .int n ∧
      ∀ m : Int32, integer s = some m.toInt → n = m

/-- The user is an owner and has one store, which has this id. -/
structure OwnsOne (c : Sql.Collation) (db : Sql.Tables (Cell D)) (userId : String)
    (storeId : Int32) : Prop where
  users : ∀ row ∈ db "USERS", ∃ s, row "user_id" = .string s
  owners : ∀ row ∈ db "OWNERS", ∃ s, row "user_id" = .string s
  stores : ∀ row ∈ db "STORES", ∃ s, row "owner_id" = .string s
  role : ∀ row ∈ db "USERS", (row "user_id").equal c (.string userId) = true → row "role" = .int 1
  store : ∃ store, (db "STORES").filter (fun row => (row "owner_id").equal c (.string userId)) =
    [store] ∧ store "store_id" = .int storeId

/-! ### The tables after a reply with 200 -/

section Saved

variable [Double D] {server : SqlServer D} {others : (o : PageOp D) → o.Res}
  {text : JsonParser D} {jsonBody : String} {db : Sql.Tables (Cell D)} {req : Json D}
  {storeId : Int32}

/-- A reply with 200 comes after updates that are all accepted. -/
theorem written_of_succeeds (hread : text.read jsonBody = .ok req)
    (hstore : req.value "storeId" (0 : Int32) = .ok storeId)
    (h : Succeeds (replies ((Pages.StoreHandler.handleStoreInfoUpdateReq text jsonBody).play
      (server.pageAnswer others) db).2.2)) :
    Pages.StoreHandler.Accepted req ∧ (∀ t ∈ namedAmong req SettingsTable.all,
      refusesStage server req (rowKeys storeId (others .getUserId)) t = false) ∧
    ((Pages.StoreHandler.handleStoreInfoUpdateReq text jsonBody).play
      (server.pageAnswer others) db).2.1 = written server req
        (rowKeys storeId (others .getUserId)) (namedAmong req SettingsTable.all) db := by
  by_cases hreaches : ∃ req storeId, Reaches text jsonBody req storeId
  · obtain ⟨req', storeId', hreaches⟩ := hreaches
    obtain rfl := Except.ok.inj (hread.symm.trans hreaches.read)
    obtain rfl := Except.ok.inj (hstore.symm.trans hreaches.store)
    obtain ⟨ops, hplay, hreplies⟩ := Pages.StoreHandler.play_of_reaches server others db hreaches
    have hnamed := Pages.StoreHandler.namedAmong_ne_nil req
    generalize rowKeys storeId (others .getUserId) = rowKey at *
    have haccepts : ∀ t ∈ namedAmong req SettingsTable.all,
        refusesStage server req rowKey t = false := by
      by_contra hrefused
      obtain ⟨before, t, rest, hstages, hrefuses, hbefore⟩ :=
        Pages.StoreHandler.exists_first_refused (namedAmong req SettingsTable.all) hrefused
      rw [hstages] at hnamed
      have hsaved : (Pages.StoreHandler.saved server req rowKey db).1 = false := by
        rw [Pages.StoreHandler.saved_eq, hstages,
          Pages.StoreHandler.foldl_stage_of_refused hnamed hbefore hrefuses]
      rw [hplay, hreplies, hsaved, if_neg Bool.false_ne_true,
        Pages.StoreHandler.succeeds_singleton] at h
      exact absurd h (by decide)
    refine ⟨hreaches.accepted, haccepts, ?_⟩
    rw [hplay, Pages.StoreHandler.saved_eq,
      Pages.StoreHandler.foldl_stage_of_accepted hnamed haccepts]
  · obtain ⟨ops, status, message, hplay, hreplies, hstatus⟩ :=
      Pages.StoreHandler.play_of_not_reaches server others db
        fun req storeId h => hreaches ⟨req, storeId, h⟩
    rw [hplay, hreplies, Pages.StoreHandler.succeeds_singleton] at h
    exact absurd h hstatus

/-- The columns by which a login finds its rows. -/
def loginColumns : List String := ["user_id", "password_hash", "role", "store_id", "owner_id"]

/-- No setting is one of them. -/
theorem not_mem_columns (t : SettingsTable) : ∀ column ∈ loginColumns,
    column ∉ (SettingsTable.settings t : List (Pages.StoreHandler.Setting D)).map (·.column) := by
  cases t <;> simp only [SettingsTable.settings, List.map_cons, List.map_nil] <;> decide

/-- Each row of a table becomes one that is found as before and, with the key, holds what is
named. -/
theorem exists_row_map (db : Sql.Tables (Cell D)) (haccepted : Pages.StoreHandler.Accepted req)
    {rowKey : SettingsTable → String}
    (haccepts : ∀ t ∈ namedAmong req SettingsTable.all, refusesStage server req rowKey t = false)
    (t : SettingsTable) : ∃ f : Sql.Row (Cell D) → Sql.Row (Cell D),
      written server req rowKey (namedAmong req SettingsTable.all) db t.name =
        (db t.name).map f ∧
      (∀ row, ∀ column ∈ loginColumns, f row column = row column) ∧
      ∀ row, Keyed server rowKey t row → Holds server req t (f row) := by
  have hstages := Pages.StoreHandler.namedAmong_ne_nil req
  by_cases hnamed : named req t = []
  · refine ⟨id, ?_, fun _ _ _ => rfl, fun row _ setting hsetting => ?_⟩
    · rw [List.map_id]
      refine Pages.StoreHandler.written_of_not_mem haccepted hstages fun t' ht' hname => ?_
      exact hstages t' ht' (Pages.StoreHandler.SettingsTable.name_injective hname ▸ hnamed)
    · rw [hnamed] at hsetting
      exact absurd hsetting List.not_mem_nil
  · have ht : t ∈ namedAmong req SettingsTable.all := by
      refine List.mem_filter.mpr ⟨?_, by simpa using hnamed⟩
      cases t <;> decide
    obtain ⟨values, hvalues, hrun⟩ :=
      Pages.StoreHandler.exists_afterStage server rowKey haccepted hnamed
    have htable : t.name = (Pages.StoreHandler.stageChange req t).table := rfl
    refine ⟨(Pages.StoreHandler.stageChange req t).onRow (fun row =>
      (row t.keyColumn).equal server.collation (.string (rowKey t))) values, ?_, ?_, ?_⟩
    · rw [Pages.StoreHandler.written_of_mem haccepted hstages
        (Pages.StoreHandler.nodup_namedAmong req) ht, hrun db (haccepts t ht), htable,
        Sql.Change.run_self]
    · intro row column hcolumn
      refine Sql.Change.onRow_of_not_mem fun hmem => not_mem_columns (D := D) t column hcolumn ?_
      exact (List.filter_sublist.map _).mem hmem
    · intro row hkeyed
      have hhits : (row t.keyColumn).equal server.collation (.string (rowKey t)) = true := hkeyed
      rw [Sql.Change.onRow, if_pos hhits]
      exact Pages.StoreHandler.holds_assign hvalues row

end Saved

/-! ### The next login -/

section Login

variable [Double D] {server : SqlServer D} {others : (o : PageOp D) → o.Res}
  {text : JsonParser D} {jsonBody : String} {db : Sql.Tables (Cell D)} {req : Json D}
  {storeId : Int32} {limit : Relational.LimitOne (LoginMatch D)} {login : LoginReqDTO}
  {res : LoginAuthResDTO}

/-- A change of settings that is answered with 200, and then a login of the same owner that is, with
nothing written in between. -/
structure Relogin (server : SqlServer D) (others : (o : PageOp D) → o.Res) (text : JsonParser D)
    (jsonBody : String) (db : Sql.Tables (Cell D)) (req : Json D) (storeId : Int32)
    (limit : Relational.LimitOne (LoginMatch D)) (login : LoginReqDTO) (res : LoginAuthResDTO) :
    Prop where
  read : text.read jsonBody = .ok req
  store : req.value "storeId" (0 : Int32) = .ok storeId
  saved : Succeeds (replies ((Pages.StoreHandler.handleStoreInfoUpdateReq text jsonBody).play
    (server.pageAnswer others) db).2.2)
  owner : OwnsOne server.collation db (others .getUserId) storeId
  same : server.collation.same login.userId (others .getUserId) = true
  run : ∃ validated tr connOthers,
    (readFaults (rows server.collation
      ((Pages.StoreHandler.handleStoreInfoUpdateReq text jsonBody).play
        (server.pageAnswer others) db).2.1 limit)).Runs
      (Pages.AuthDAO.validateLogin login.userId login.password (.ofInt login.role)) []
      (.ok validated) tr ∧
    .sendLogin res ∈ Logins.calls connOthers validated login
  accepted : res.status = 200

/-- The rows that a login shows. -/
structure ShownRows (server : SqlServer D) (db : Sql.Tables (Cell D)) (req : Json D)
    (userId : String) (found : LoginMatch D) : Prop where
  role : found.user "role" = .int 1
  users : Holds server req .users found.user
  stores : Holds server req .stores found.store
  owners : (Holds server req .owners found.owner ∧
      ∃ row ∈ db "OWNERS", (row "user_id").equal server.collation (.string userId) = true) ∨
    found.owner = (fun _ => .null) ∧
      ¬∃ row ∈ db "OWNERS", (row "user_id").equal server.collation (.string userId) = true

omit [Double D] in
theorem equal_string_iff {c : Sql.Collation} {s t : String} :
    (Cell.string s : Cell D).equal c (.string t) = true ↔ c.same s t = true := Iff.rfl

/-- The rows that are found are those that have been written. -/
theorem shownRows_of_mem {found : LoginMatch D} {role : SqlParam}
    (haccepted : Pages.StoreHandler.Accepted req)
    (haccepts : ∀ t ∈ namedAmong req SettingsTable.all,
      refusesStage server req (rowKeys storeId (others .getUserId)) t = false)
    (howner : OwnsOne server.collation db (others .getUserId) storeId)
    (hsame : server.collation.same login.userId (others .getUserId) = true)
    (hfound : found ∈ loginMatches server.collation (written server req
      (rowKeys storeId (others .getUserId)) (namedAmong req SettingsTable.all) db)
      (.string login.userId) role) :
    ShownRows server db req (others .getUserId) found := by
  obtain ⟨⟨huser, hid⟩, howners, hstores⟩ := Pages.AuthDAO.of_mem_loginMatches hfound
  generalize others .getUserId = userId at *
  have hequiv := server.collation.equivalence
  obtain ⟨onUser, husers, husersElse, husersHold⟩ :=
    exists_row_map db haccepted haccepts .users
  obtain ⟨onOwner, hownersMap, hownersElse, hownersHold⟩ :=
    exists_row_map db haccepted haccepts .owners
  obtain ⟨onStore, hstoresMap, hstoresElse, hstoresHold⟩ :=
    exists_row_map db haccepted haccepts .stores
  simp only [SettingsTable.name] at husers hownersMap hstoresMap
  rw [husers] at huser
  rw [hownersMap] at howners
  rw [hstoresMap] at hstores
  obtain ⟨user, huserMem, huserEq⟩ := List.mem_map.mp huser
  -- the user's id as it is stored
  obtain ⟨stored, hstored⟩ := howner.users user huserMem
  have hfoundId : found.user "user_id" = .string stored := by
    rw [← huserEq, husersElse user "user_id" (by decide), hstored]
  have hkey : server.collation.same stored userId = true := by
    have htyped := (Bool.and_eq_true_iff.mp hid).1
    rw [hfoundId] at htyped
    exact hequiv.trans htyped hsame
  have hkeyed : (user "user_id").equal server.collation (.string userId) = true := by
    rw [hstored]
    exact hkey
  -- a joined row is one that has the user's id
  have hjoins {column : String} {row row' : Sql.Row (Cell D)} (hrow : row' column = row column)
      (htext : ∃ s, row column = .string s) : Pages.AuthDAO.joins server.collation column found.user
        row' = (row column).equal server.collation (.string userId) := by
    obtain ⟨s, hs⟩ := htext
    rw [Pages.AuthDAO.joins, hrow, hs, hfoundId, Bool.eq_iff_iff, equal_string_iff,
      equal_string_iff]
    exact ⟨fun h => hequiv.trans (hequiv.symm h) hkey, fun h => hequiv.trans hkey (hequiv.symm h)⟩
  refine ⟨?_, ?_, ?_, ?_⟩
  · rw [← huserEq, husersElse user "role" (by decide)]
    exact howner.role user huserMem hkeyed
  · rw [← huserEq]
    exact husersHold user hkeyed
  · obtain ⟨only, honly, hstoreId⟩ := howner.store
    rcases hstores with ⟨hstore, hjoin⟩ | ⟨-, hnone⟩
    · obtain ⟨store, hstoreMem, hstoreEq⟩ := List.mem_map.mp hstore
      rw [← hstoreEq, hjoins (hstoresElse store "owner_id" (by decide))
        (howner.stores store hstoreMem)] at hjoin
      have hmem : store ∈ [only] := honly ▸ List.mem_filter.mpr ⟨hstoreMem, hjoin⟩
      have hid : store "store_id" = .int storeId := List.mem_singleton.mp hmem ▸ hstoreId
      rw [← hstoreEq]
      refine hstoresHold store ?_
      rw [Keyed, SettingsTable.keyColumn, hid]
      exact beq_self_eq_true (toString storeId.toInt)
    · obtain ⟨hmem, howns⟩ := List.mem_filter.mp (honly ▸ List.mem_singleton_self only)
      have hjoin := hnone _ (List.mem_map_of_mem hmem)
      rw [hjoins (hstoresElse only "owner_id" (by decide)) (howner.stores only hmem)] at hjoin
      exact absurd (howns.symm.trans hjoin) (by decide)
  · rcases howners with ⟨howner', hjoin⟩ | ⟨hnull, hnone⟩
    · obtain ⟨row, hrow, hrowEq⟩ := List.mem_map.mp howner'
      rw [← hrowEq, hjoins (hownersElse row "user_id" (by decide))
        (howner.owners row hrow)] at hjoin
      exact .inl ⟨hrowEq ▸ hownersHold row hjoin, row, hrow, hjoin⟩
    · refine .inr ⟨hnull, ?_⟩
      rintro ⟨row, hrow, hkeyed⟩
      have hjoin := hnone _ (List.mem_map_of_mem hrow)
      rw [hjoins (hownersElse row "user_id" (by decide)) (howner.owners row hrow)] at hjoin
      exact absurd (hkeyed.symm.trans hjoin) (by decide)

end Login

/-! ### Field by field -/

section Fields

variable [Double D] [BEq D] {server : SqlServer D} {integer : String → Option ℤ} {req : Json D}
  {key column u : String} {t : SettingsTable} {row : Sql.Row (Cell D)} {j : Json D} {n : Int32}

omit [BEq D] in
/-- What a row holds for a setting that the request has. -/
theorem cell_of_holds (h : Holds server req t row) {setting : Pages.StoreHandler.Setting D}
    (hsetting : setting ∈ (SettingsTable.settings t : List (Pages.StoreHandler.Setting D)))
    (hj : req.find setting.key = some j) : ∃ value, setting.read j = .ok value ∧
      row setting.column = server.stored t.name setting.column (.string value) := by
  have hcontains : req.contains setting.key = true := by
    rw [Json.contains, hj]
    rfl
  obtain ⟨field, value, hfield, hread, hrow⟩ :=
    h setting (List.mem_filter.mpr ⟨hsetting, hcontains⟩)
  obtain rfl := Option.some.inj (hj.symm.trans hfield)
  exact ⟨value, hread, hrow⟩

omit [Double D] [BEq D] in
/-- Only a text is read as one. -/
theorem eq_string_of_readText {s : String} (h : Pages.StoreHandler.readText j = .ok s) :
    j = .string s := by
  cases j with
  | string s' =>
    cases h
    rfl
  | _ => cases h

/-- A text comes back exactly if it has no NUL. -/
theorem text_agrees_iff (h : ∀ j, req.find key = some j → ∃ s, j = .string s ∧ u = cStr s) :
    (∀ j, req.find key = some j → (Shown.text u).Agrees integer j) ↔
      ∀ s, req.find key = some (.string s) → '\x00' ∉ s.toList := by
  constructor
  · intro hall s hs
    obtain ⟨s', heq, hu⟩ := h _ hs
    obtain rfl := Json.string.inj heq
    have hagrees : Json.string s = .string u := hall _ hs
    exact cStr_eq_self.mp (hu.symm.trans (Json.string.inj hagrees).symm)
  · intro hall j hj
    obtain ⟨s, rfl, hu⟩ := h j hj
    have hsame : cStr s = s := cStr_eq_self.mpr (hall s hj)
    show Json.string s = .string u
    rw [hu, hsame]

/-- The numeral of a number shows it. -/
theorem numeral_agrees_iff (hdecimal : ∀ n : ℤ, integer (toString n) = some n) :
    (Shown.numeral (toString n.toInt)).Agrees integer j ↔ Says integer j n := by
  constructor
  · rintro ⟨m, hm, hsays⟩
    rw [hdecimal, Option.some.injEq, Int32.toInt_inj] at hm
    exact hm ▸ hsays
  · exact fun h => ⟨n, hdecimal n.toInt, h⟩

theorem says_string_iff {s : String} (h : ∀ m : Int32, integer s = some m.toInt → n = m) :
    Says integer (.string s : Json D) n ↔ ∃ m : Int32, integer s = some m.toInt := by
  constructor
  · rintro (⟨s', heq, hs⟩ | hmeans)
    · exact ⟨n, Json.string.inj heq ▸ hs⟩
    · exact absurd hmeans id
  · rintro ⟨m, hm⟩
    exact .inl ⟨s, rfl, h m hm ▸ hm⟩

/-- A number that has been read is what the request says exactly if the reading loses nothing. -/
theorem says_number_iff (hnumber : Pages.StoreHandler.isNumber j = true)
    (hread : decode j = .ok n) :
    Says integer j n ↔ Readable Int32 j := by
  have hreadable : Readable Int32 j ↔ ∃ m : Int32, decode j = .ok m ∧ Means j m := readable_iff j
  rw [hreadable]
  constructor
  · rintro (⟨s, rfl, -⟩ | hmeans)
    · cases hnumber
    · exact ⟨n, hread, hmeans⟩
  · rintro ⟨m, hm, hmeans⟩
    rw [hread] at hm
    exact .inr (Except.ok.inj hm ▸ hmeans)

/-- The settings that are texts, with their columns. -/
def textSettings : List (SettingsTable × String × String) :=
  [(.stores, "storeName", "store_name"), (.stores, "category", "category"),
   (.stores, "storeAddress", "store_address"), (.stores, "openTime", "open_time"),
   (.stores, "closeTime", "close_time"), (.users, "ownerName", "user_name"),
   (.users, "ownerPhone", "phone_number"), (.owners, "accountNumber", "account_number")]

omit [BEq D] in
/-- A row that holds a text shows it up to its first NUL. -/
theorem text_of_holds (hstores : StoresSettings server integer) (h : Holds server req t row)
    (hsetting : (t, key, column) ∈ textSettings) (hj : req.find key = some j) :
    ∃ s, j = .string s ∧ row column = .string s := by
  have hmem : (⟨key, column, Pages.StoreHandler.readText⟩ : Pages.StoreHandler.Setting D) ∈
      SettingsTable.settings t ∧ (t.name, column) ∉ [("STORES", "cook_time"),
        ("STORES", "delivery_fee"), ("STORES", "min_order_amount")] := by
    simp only [textSettings, List.mem_cons, Prod.mk.injEq, List.not_mem_nil, or_false] at hsetting
    rcases hsetting with ⟨rfl, rfl, rfl⟩ | ⟨rfl, rfl, rfl⟩ | ⟨rfl, rfl, rfl⟩ | ⟨rfl, rfl, rfl⟩ |
      ⟨rfl, rfl, rfl⟩ | ⟨rfl, rfl, rfl⟩ | ⟨rfl, rfl, rfl⟩ | ⟨rfl, rfl, rfl⟩ <;>
    exact ⟨by simp [SettingsTable.settings], by decide⟩
  obtain ⟨s, hread, hcell⟩ := cell_of_holds h hmem.1 hj
  exact ⟨s, eq_string_of_readText hread, hcell.trans (hstores.text t.name column s hmem.2)⟩

omit [Double D] [BEq D] in
theorem cTextOr_of_eq {s : String} (h : row column = .string s) :
    (row column).cTextOr "" = cStr s := by
  rw [h]
  rfl

omit [Double D] [BEq D] in
theorem decimalOr_of_eq (h : row column = .int n) :
    (row column).decimalOr "0" = toString n.toInt := by
  rw [h]
  rfl

end Fields

/-! ### What comes back -/

/-- **What the request has can come back**: its texts have no NUL, its numbers are integers that
are read as what they say, the fee is 0 and there is a row for an account number. -/
structure Returnable [Double D] [BEq D] (server : SqlServer D) (integer : String → Option ℤ)
    (db : Sql.Tables (Cell D)) (userId : String) (req : Json D) : Prop where
  texts : ∀ setting ∈ textSettings, ∀ s, req.find setting.2.1 = some (.string s) →
    '\x00' ∉ s.toList
  cookTime : ∀ s, req.find "cookTime" = some (.string s) → ∃ n : Int32, integer s = some n.toInt
  deliveryFee : ∀ j, req.find "deliveryFee" = some j → Means j (0 : Int32)
  minOrderAmount : ∀ j, req.find "minOrderAmount" = some j →
    (∃ s, j = .string s ∧ ∃ n : Int32, integer s = some n.toInt) ∨ Readable Int32 j
  accountNumber : ∀ s, req.find "accountNumber" = some (.string s) → s = "" ∨
    ∃ row ∈ db "OWNERS", (row "user_id").equal server.collation (.string userId) = true

section Returns

variable [Double D] [BEq D] {server : SqlServer D} {others : (o : PageOp D) → o.Res}
  {integer : String → Option ℤ} {text : JsonParser D} {jsonBody : String}
  {db : Sql.Tables (Cell D)} {req : Json D} {storeId : Int32}
  {limit : Relational.LimitOne (LoginMatch D)} {login : LoginReqDTO} {res : LoginAuthResDTO}
  {found : LoginMatch D} {userId : String}

omit [Double D] [BEq D] in
/-- The reply to an owner. -/
theorem fields_loginResponse (hrole : found.user "role" = .int 1) :
    fields (UserHandler.loginResponse (userInfoOf userId found.row)) =
      [("storeName", .text ((found.store "store_name").cTextOr "")),
       ("category", .text ((found.store "category").cTextOr "")),
       ("storeAddress", .text ((found.store "store_address").cTextOr "")),
       ("cookTime", .numeral ((found.store "cook_time").decimalOr "0")),
       ("deliveryFee", .number 0),
       ("minOrderAmount", .numeral ((found.store "min_order_amount").decimalOr "0")),
       ("openTime", .text ((found.store "open_time").cTextOr "")),
       ("closeTime", .text ((found.store "close_time").cTextOr "")),
       ("ownerName", .text (cStr (found.user "user_name").toText)),
       ("ownerPhone", .text ((found.user "phone_number").cTextOr "")),
       ("accountNumber", .text ((found.owner "account_number").cTextOr ""))] := by
  have hrow : found.row "role" = .int 1 := hrole
  have hone : (Cell.int 1 : Cell D).toInt = 1 := rfl
  rw [userInfoOf, hrow, hone, if_pos rfl]
  rfl

/-- A text of the request. -/
theorem text_iff {t : SettingsTable} {row : Sql.Row (Cell D)}
    (hstores : StoresSettings server integer) (h : Holds server req t row) {key column : String}
    (hsetting : (t, key, column) ∈ textSettings) :
    (∀ j, req.find key = some j → (Shown.text ((row column).cTextOr "")).Agrees integer j) ↔
      ∀ s, req.find key = some (.string s) → '\x00' ∉ s.toList := by
  refine text_agrees_iff fun j hj => ?_
  obtain ⟨s, rfl, hcell⟩ := text_of_holds hstores h hsetting hj
  exact ⟨s, rfl, cTextOr_of_eq hcell⟩

theorem ownerName_iff (hstores : StoresSettings server integer)
    (h : Holds server req .users found.user) : (∀ j, req.find "ownerName" = some j →
        (Shown.text (cStr (found.user "user_name").toText)).Agrees integer j) ↔
      ∀ s, req.find "ownerName" = some (.string s) → '\x00' ∉ s.toList := by
  have hsetting : (SettingsTable.users, "ownerName", "user_name") ∈ textSettings := by decide
  refine text_agrees_iff fun j hj => ?_
  obtain ⟨s, rfl, hcell⟩ := text_of_holds hstores h hsetting hj
  refine ⟨s, rfl, ?_⟩
  rw [hcell]
  rfl

/-- A text in a column of numbers comes back exactly if it says an integer that fits. -/
theorem numeral_string_iff (hstores : StoresSettings server integer) {row : Sql.Row (Cell D)}
    {column s : String} (hcolumn : column ∈ ["cook_time", "min_order_amount"])
    (hcell : row column = server.stored "STORES" column (.string s)) :
    (Shown.numeral ((row column).decimalOr "0")).Agrees integer (.string s : Json D) ↔
      ∃ n : Int32, integer s = some n.toInt := by
  obtain ⟨n, hstored, hn⟩ := hstores.int column hcolumn s
  rw [decimalOr_of_eq (hcell.trans hstored), numeral_agrees_iff hstores.decimal, says_string_iff hn]

theorem cookTime_iff (hstores : StoresSettings server integer)
    (h : Holds server req .stores found.store) : (∀ j, req.find "cookTime" = some j →
        (Shown.numeral ((found.store "cook_time").decimalOr "0")).Agrees integer j) ↔
      ∀ s, req.find "cookTime" = some (.string s) → ∃ n : Int32, integer s = some n.toInt := by
  have hsetting : (⟨"cookTime", "cook_time", Pages.StoreHandler.readText⟩ :
      Pages.StoreHandler.Setting D) ∈ SettingsTable.settings .stores := by
    simp [SettingsTable.settings]
  constructor
  · intro hall s hs
    obtain ⟨value, hread, hcell⟩ := cell_of_holds h hsetting hs
    obtain rfl := Json.string.inj (eq_string_of_readText hread)
    exact (numeral_string_iff hstores List.mem_cons_self hcell).mp (hall _ hs)
  · intro hall j hj
    obtain ⟨value, hread, hcell⟩ := cell_of_holds h hsetting hj
    obtain rfl := eq_string_of_readText hread
    exact (numeral_string_iff hstores List.mem_cons_self hcell).mpr (hall value hj)

theorem minOrderAmount_iff (hstores : StoresSettings server integer)
    (h : Holds server req .stores found.store) : (∀ j, req.find "minOrderAmount" = some j →
        (Shown.numeral ((found.store "min_order_amount").decimalOr "0")).Agrees integer j) ↔
      ∀ j, req.find "minOrderAmount" = some j →
        (∃ s, j = .string s ∧ ∃ n : Int32, integer s = some n.toInt) ∨ Readable Int32 j := by
  have hsetting : (⟨"minOrderAmount", "min_order_amount", Pages.StoreHandler.readNumberOrText⟩ :
      Pages.StoreHandler.Setting D) ∈ SettingsTable.settings .stores := by
    simp [SettingsTable.settings]
  refine forall₂_congr fun j hj => ?_
  obtain ⟨value, hread, hcell⟩ := cell_of_holds h hsetting hj
  change Pages.StoreHandler.readNumberOrText j = .ok value at hread
  rw [Pages.StoreHandler.readNumberOrText] at hread
  cases hnumber : Pages.StoreHandler.isNumber j with
  | true =>
    rw [hnumber, if_pos rfl, Pages.StoreHandler.readNumber] at hread
    cases hdecode : (decode j : Except JsonError Int32) with
    | error e =>
      rw [hdecode] at hread
      cases hread
    | ok n =>
      rw [hdecode] at hread
      obtain rfl := Except.ok.inj hread
      obtain ⟨m, hstored, hm⟩ := hstores.int "min_order_amount" (by decide) (toString n.toInt)
      obtain rfl := hm n (hstores.decimal n.toInt)
      rw [decimalOr_of_eq (hcell.trans hstored), numeral_agrees_iff hstores.decimal,
        says_number_iff hnumber hdecode]
      refine (or_iff_right ?_).symm
      rintro ⟨s, rfl, -⟩
      cases hnumber
  | false =>
    rw [hnumber, if_neg Bool.false_ne_true] at hread
    obtain rfl := eq_string_of_readText hread
    rw [numeral_string_iff hstores (List.mem_cons_of_mem _ List.mem_cons_self) hcell]
    constructor
    · exact fun hinteger => .inl ⟨value, rfl, hinteger⟩
    · rintro (⟨s, heq, hinteger⟩ | hreadable)
      · exact Json.string.inj heq ▸ hinteger
      · exact absurd hreadable id

theorem deliveryFee_iff (h : Holds server req .stores found.store) :
    (∀ j, req.find "deliveryFee" = some j → (Shown.number 0).Agrees integer j) ↔
      ∀ j, req.find "deliveryFee" = some j → Means j (0 : Int32) := by
  have hsetting : (⟨"deliveryFee", "delivery_fee", Pages.StoreHandler.readNumber⟩ :
      Pages.StoreHandler.Setting D) ∈ SettingsTable.settings .stores := by
    simp [SettingsTable.settings]
  refine forall₂_congr fun j hj => ?_
  obtain ⟨value, hread, -⟩ := cell_of_holds h hsetting hj
  constructor
  · rintro ⟨m, hm, ⟨s, rfl, -⟩ | hmeans⟩
    · cases hread
    · obtain rfl : 0 = m := Int32.toInt_inj.mp hm
      exact hmeans
  · exact fun hmeans => ⟨0, rfl, .inr hmeans⟩

/-- An account number comes back only to who has a row for it. -/
theorem accountNumber_iff (hstores : StoresSettings server integer)
    (haccepted : Pages.StoreHandler.Accepted req)
    (hfound : ShownRows server db req userId found) :
    (∀ j, req.find "accountNumber" = some j →
        (Shown.text ((found.owner "account_number").cTextOr "")).Agrees integer j) ↔
      (∀ s, req.find "accountNumber" = some (.string s) → '\x00' ∉ s.toList) ∧
        ∀ s, req.find "accountNumber" = some (.string s) → s = "" ∨
          ∃ row ∈ db "OWNERS", (row "user_id").equal server.collation (.string userId) = true := by
  rcases hfound.owners with ⟨hholds, hrow⟩ | ⟨hnull, hnone⟩
  · rw [text_iff hstores hholds (by decide)]
    exact ⟨fun h => ⟨h, fun _ _ => .inr hrow⟩, And.left⟩
  · have hshown : (found.owner "account_number").cTextOr "" = "" := by
      rw [hnull]
      rfl
    rw [hshown]
    constructor
    · intro hall
      have hempty (s : String) (hs : req.find "accountNumber" = some (.string s)) : s = "" :=
        Json.string.inj (hall _ hs)
      refine ⟨fun s hs => ?_, fun s hs => .inl (hempty s hs)⟩
      rw [hempty s hs]
      decide
    · rintro ⟨-, hall⟩ j hj
      have hsetting : (⟨"accountNumber", "account_number", Pages.StoreHandler.readText⟩ :
          Pages.StoreHandler.Setting D) ∈ SettingsTable.settings .owners := by
        simp [SettingsTable.settings]
      obtain ⟨value, hread⟩ := haccepted .owners _ hsetting j hj
      obtain rfl := eq_string_of_readText hread
      exact congrArg Json.string ((hall value hj).resolve_right hnone)

/-- **What is shown is what the request has exactly if that can come back.** -/
theorem returns_iff_of_rows (hstores : StoresSettings server integer)
    (haccepted : Pages.StoreHandler.Accepted req)
    (hfound : ShownRows server db req (others .getUserId) found) :
    Returns integer req (UserHandler.loginResponse (userInfoOf userId found.row)) ↔
      Returnable server integer db (others .getUserId) req := by
  have hstoreText {key column : String}
      (hsetting : (SettingsTable.stores, key, column) ∈ textSettings) :=
    text_iff hstores hfound.stores hsetting
  have hphoneSetting : (SettingsTable.users, "ownerPhone", "phone_number") ∈ textSettings := by
    decide
  have hphone := text_iff hstores hfound.users hphoneSetting
  rw [Returns, fields_loginResponse hfound.role]
  simp only [List.forall_mem_cons]
  rw [hstoreText (by decide), hstoreText (by decide), hstoreText (by decide),
    cookTime_iff hstores hfound.stores, deliveryFee_iff hfound.stores,
    minOrderAmount_iff hstores hfound.stores, hstoreText (by decide), hstoreText (by decide),
    ownerName_iff hstores hfound.users, hphone, accountNumber_iff hstores haccepted hfound]
  constructor
  · rintro ⟨hname, hcategory, haddress, hcook, hfee, hmin, hopen, hclose, hownerName, hownerPhone,
      ⟨haccount, hrow⟩, -⟩
    refine ⟨?_, hcook, hfee, hmin, hrow⟩
    simp only [textSettings, List.forall_mem_cons]
    exact ⟨hname, hcategory, haddress, hopen, hclose, hownerName, hownerPhone, haccount,
      List.forall_mem_nil _⟩
  · rintro ⟨htexts, hcook, hfee, hmin, hrow⟩
    simp only [textSettings, List.forall_mem_cons] at htexts
    obtain ⟨hname, hcategory, haddress, hopen, hclose, hownerName, hownerPhone, haccount, -⟩ :=
      htexts
    exact ⟨hname, hcategory, haddress, hcook, hfee, hmin, hopen, hclose, hownerName, hownerPhone,
      ⟨haccount, hrow⟩, List.forall_mem_nil _⟩

/-- **Settings survive a login exactly if** what the request has can come back. -/
theorem returns_iff (hstores : StoresSettings server integer)
    (h : Relogin server others text jsonBody db req storeId limit login res) :
    Returns integer req res ↔ Returnable server integer db (others .getUserId) req := by
  obtain ⟨haccepted, haccepts, hwritten⟩ := written_of_succeeds h.read h.store h.saved
  obtain ⟨validated, tr, connOthers, hrun, hsent⟩ := h.run
  obtain ⟨found, hchosen, rfl⟩ :=
    Logins.exists_match_of_accepted hrun ⟨res, hsent, h.accepted⟩
  rw [Logins.calls_of_success] at hsent
  obtain rfl : res = UserHandler.loginResponse (userInfoOf login.userId found.row) := by
    simpa using hsent
  have hfound := limit.choose_mem hchosen
  rw [hwritten] at hfound
  exact returns_iff_of_rows hstores haccepted
    (shownRows_of_mem haccepted haccepts h.owner h.same hfound)

omit [Double D] [BEq D] in
/-- A login that succeeds says so, and shows no fee. -/
theorem loginResponse_eq (userJson : UserInfo) :
    (UserHandler.loginResponse userJson).status = 200 ∧
      (UserHandler.loginResponse userJson).deliveryFee = 0 := by
  rw [UserHandler.loginResponse]
  split
  · split <;> exact ⟨rfl, rfl⟩
  · exact ⟨rfl, rfl⟩

omit [BEq D] in
/-- No login shows the fee. -/
theorem deliveryFee_eq_zero
    (h : Relogin server others text jsonBody db req storeId limit login res) :
    res.deliveryFee = 0 := by
  obtain ⟨validated, tr, connOthers, hrun, hsent⟩ := h.run
  obtain ⟨found, -, rfl⟩ := Logins.exists_match_of_accepted hrun ⟨res, hsent, h.accepted⟩
  rw [Logins.calls_of_success] at hsent
  obtain rfl : res = UserHandler.loginResponse (userInfoOf login.userId found.row) := by
    simpa using hsent
  exact (loginResponse_eq _).2

end Returns

/-! ### A new fee -/

/-- The number that digits write. -/
def natural (digits : List Char) : Option ℕ :=
  if digits ≠ [] ∧ digits.all Char.isDigit = true then some (Nat.ofDigitChars 10 digits 0) else none

/-- The integer that a decimal text says. -/
def decimal (s : String) : Option ℤ :=
  match s.toList with
  | '-' :: digits => (natural digits).map fun n : ℕ => -Int.ofNat n
  | digits => (natural digits).map Int.ofNat

theorem natural_toDigits (n : ℕ) : natural (Nat.toDigits 10 n) = some n := by
  have hdigits : (Nat.toDigits 10 n).all Char.isDigit = true :=
    List.all_eq_true.mpr fun c hc => Nat.isDigit_of_mem_toDigits (by decide) (by decide) hc
  rw [natural, if_pos ⟨Nat.toDigits_ne_nil, hdigits⟩, Nat.ofDigitChars_ten_toDigits]

theorem decimal_toString (n : ℤ) : decimal (toString n) = some n := by
  cases n with
  | ofNat m =>
    have hlist : (toString (Int.ofNat m)).toList = Nat.toDigits 10 m := Nat.toList_repr
    rw [decimal, hlist]
    split
    · next digits heq =>
      have hsign : '-' ∈ Nat.toDigits 10 m := heq ▸ List.mem_cons_self
      exact absurd (Nat.isDigit_of_mem_toDigits (by decide) (by decide) hsign) (by decide)
    · rw [natural_toDigits]
      rfl
  | negSucc m =>
    have hlist : (toString (Int.negSucc m)).toList = '-' :: Nat.toDigits 10 (m + 1) := by
      have htext : toString (Int.negSucc m) = "-" ++ (m + 1).repr := rfl
      rw [htext, String.toList_append, Nat.toList_repr]
      rfl
    rw [decimal, hlist]
    show (natural (Nat.toDigits 10 (m + 1))).map _ = _
    rw [natural_toDigits]
    rfl

/-- A database that stores texts as they are, and in the columns of numbers what the texts say. -/
def shop : SqlServer Float where
  collation := .upTo id
  stored table column value :=
    match value with
    | .string s =>
      if (table, column) ∈ [("STORES", "cook_time"), ("STORES", "delivery_fee"),
          ("STORES", "min_order_amount")] then
        .int (.ofInt ((decimal s).getD 0))
      else .string s
    | value => value.cell
  refuses _ := none
  finds _ _ _ := []
  others db _ _ := (0, db)

theorem storesSettings_shop : StoresSettings shop decimal where
  decimal := decimal_toString
  text t column s h := if_neg h
  int column hcolumn s := by
    have hmem : ("STORES", column) ∈ [("STORES", "cook_time"), ("STORES", "delivery_fee"),
        ("STORES", "min_order_amount")] := by
      rcases List.mem_cons.mp hcolumn with rfl | h
      · simp
      · rw [List.mem_singleton.mp h]
        simp
    refine ⟨_, if_pos hmem, fun m hm => ?_⟩
    rw [hm, Option.getD_some, Int32.ofInt_toInt]

/-- The owner is logged in. -/
def asOwner : (o : PageOp Float) → o.Res
  | .getUserId => "jin"
  | o => idle o

def ownerRow : Sql.Row (Cell Float) := fun column =>
  if column = "role" then .int 1
  else if column = "password_hash" then .string "1234"
  else .string "jin"

def storeRow : Sql.Row (Cell Float) := fun column =>
  if column = "store_id" then .int 3 else .string "jin"

/-- The owner with the store, without a row for an account. -/
def ownerTables : Sql.Tables (Cell Float) := fun table =>
  if table = "USERS" then [ownerRow] else if table = "STORES" then [storeRow] else []

def ownerLogin : LoginReqDTO := ⟨"jin", "1234", 1⟩

theorem ownsOne_ownerTables : OwnsOne shop.collation ownerTables "jin" 3 where
  users := by simp [ownerTables, ownerRow]
  owners := by simp [ownerTables]
  stores := by simp [ownerTables, storeRow]
  role := by simp [ownerTables, ownerRow]
  store := ⟨_, rfl, rfl⟩

/-- The tables after the change of settings. -/
abbrev savedTables : Sql.Tables (Cell Float) :=
  written shop Pages.StoreHandler.sampleSettings (rowKeys 3 "jin")
    (namedAmong Pages.StoreHandler.sampleSettings SettingsTable.all) ownerTables

/-- The owner is found again, with the same password. -/
theorem exists_loginMatches_savedTables : ∃ found,
    loginMatches shop.collation savedTables (.string "jin") (.int 1) = [found] ∧
      found.user "password_hash" = .string "1234" := by
  have haccepted := Pages.StoreHandler.accepted_sampleSettings
  have haccepts : ∀ t ∈ namedAmong Pages.StoreHandler.sampleSettings SettingsTable.all,
      refusesStage shop Pages.StoreHandler.sampleSettings (rowKeys 3 "jin") t = false :=
    fun _ _ => rfl
  obtain ⟨onUser, husers, husersElse, -⟩ :=
    exists_row_map ownerTables haccepted haccepts .users
  obtain ⟨onOwner, howners, -, -⟩ := exists_row_map ownerTables haccepted haccepts .owners
  obtain ⟨onStore, hstores, hstoresElse, -⟩ :=
    exists_row_map ownerTables haccepted haccepts .stores
  have haddresses : savedTables "USER_ADDRESSES" = [] := by
    refine Pages.StoreHandler.written_of_not_mem haccepted
      (Pages.StoreHandler.namedAmong_ne_nil _) fun t _ => ?_
    cases t <;> decide
  -- one user, whose store the only one is
  have husers : savedTables "USERS" = [onUser ownerRow] := husers
  have howners : savedTables "OWNERS" = [] := howners
  have hstores : savedTables "STORES" = [onStore storeRow] := hstores
  have huser : Pages.AuthDAO.IsUser shop.collation (.string "jin") (.int 1) (onUser ownerRow) =
      true := by
    rw [Pages.AuthDAO.IsUser, husersElse _ "user_id" (by decide), husersElse _ "role" (by decide)]
    rfl
  have hjoin : Pages.AuthDAO.joins shop.collation "owner_id" (onUser ownerRow) (onStore storeRow) =
      true := by
    rw [Pages.AuthDAO.joins, husersElse _ "user_id" (by decide),
      hstoresElse _ "owner_id" (by decide)]
    rfl
  refine ⟨⟨onUser ownerRow, fun _ => .null, fun _ => .null, onStore storeRow⟩, ?_,
    husersElse _ "password_hash" (by decide)⟩
  simp [loginMatches, Relational.leftJoin, husers, howners, hstores, haddresses, huser, hjoin]

/-- The change of settings and the next login. -/
theorem exists_relogin : ∃ res, Relogin shop asOwner
    (.knowing "settings" Pages.StoreHandler.sampleSettings) "settings" ownerTables
    Pages.StoreHandler.sampleSettings 3 .first ownerLogin res := by
  have hreaches := Pages.StoreHandler.reaches_sampleSettings
  have hnamed := Pages.StoreHandler.namedAmong_ne_nil Pages.StoreHandler.sampleSettings
  have haccepts : ∀ t ∈ namedAmong Pages.StoreHandler.sampleSettings SettingsTable.all,
      refusesStage shop Pages.StoreHandler.sampleSettings (rowKeys 3 "jin") t = false :=
    fun _ _ => rfl
  obtain ⟨ops, hplay, hreplies⟩ :=
    Pages.StoreHandler.play_of_reaches shop asOwner ownerTables hreaches
  have hsaved : Pages.StoreHandler.saved shop Pages.StoreHandler.sampleSettings
      (rowKeys 3 (asOwner .getUserId)) ownerTables = (true, savedTables) :=
    Pages.StoreHandler.saved_eq.trans
      (Pages.StoreHandler.foldl_stage_of_accepted hnamed haccepts)
  rw [hsaved] at hplay hreplies
  obtain ⟨found, hmatches, hpassword⟩ := exists_loginMatches_savedTables
  have hlogin : Pages.AuthDAO.loginOf "jin" "1234" (some found.row) =
      (.SUCCESS, userInfoOf "jin" found.row) := by
    have hrow : found.row "password_hash" = .string "1234" := hpassword
    rw [Pages.AuthDAO.loginOf, hrow]
    exact if_neg (not_not_intro (cStr_eq_self.mpr (by decide)))
  have hread := Pages.AuthDAO.read_validateLogin (rows shop.collation savedTables .first) "jin"
    "1234" 1
  rw [Pages.AuthDAO.head?_rows, hmatches] at hread
  obtain ⟨tr, hrun⟩ := Pages.AuthDAO.exists_runs_of_read (hread.trans (congrArg Except.ok hlogin))
  refine ⟨UserHandler.loginResponse (userInfoOf "jin" found.row), hreaches.read, hreaches.store, ?_,
    ownsOne_ownerTables, shop.collation.same_self "jin", ?_, ?_⟩
  · rw [hplay, hreplies, if_pos rfl, Pages.StoreHandler.succeeds_singleton]
  · refine ⟨(.SUCCESS, userInfoOf "jin" found.row), tr, Logins.idle, ?_, ?_⟩
    · rw [hplay]
      exact hrun
    · rw [Logins.calls_of_success]
      simp
  · exact (loginResponse_eq _).1

theorem returns_iff_sampleSettings : ∃ res, Relogin shop asOwner
    (.knowing "settings" Pages.StoreHandler.sampleSettings) "settings" ownerTables
    Pages.StoreHandler.sampleSettings 3 .first ownerLogin res ∧
    (Returns decimal Pages.StoreHandler.sampleSettings res ↔
      Returnable shop decimal ownerTables "jin" Pages.StoreHandler.sampleSettings) := by
  obtain ⟨res, h⟩ := exists_relogin
  exact ⟨res, h, returns_iff storesSettings_shop h⟩

/-- **The new fee is saved, and the next login shows 0.** -/
theorem not_returns_sampleSettings : ∃ res, Relogin shop asOwner
    (.knowing "settings" Pages.StoreHandler.sampleSettings) "settings" ownerTables
    Pages.StoreHandler.sampleSettings 3 .first ownerLogin res ∧
    ¬Returns decimal Pages.StoreHandler.sampleSettings res := by
  obtain ⟨res, h⟩ := exists_relogin
  refine ⟨res, h, fun hreturns => ?_⟩
  have hmem : ("deliveryFee", Shown.number res.deliveryFee) ∈ fields res := by simp [fields]
  obtain ⟨m, hm, hsays⟩ := hreturns _ hmem (.numberInteger 3000) rfl
  rw [deliveryFee_eq_zero h] at hm
  obtain rfl : 0 = m := Int32.toInt_inj.mp hm
  rcases hsays with ⟨s, heq, -⟩ | hmeans
  · cases heq
  · have hsame : (3000 : Int64) = (0 : Int32).toInt64 := hmeans
    exact absurd hsame (by decide)

end ItsBedalyo.SettingsShown
