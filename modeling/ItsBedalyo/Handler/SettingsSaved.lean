import ItsBedalyo.Database.StoredTables
import ItsBedalyo.Handler.UpdateBuilder
import ItsBedalyo.Lib.JsonMeaning

/-!
# What a change of settings leaves in the tables

`handleStoreInfoUpdateReq` runs up to three updates, each committed by itself, and answers 200 if
none of them is refused. An update that hits no row is not refused, and what the updates before a
refused one have written stays. `saves_iff` says when a request is saved as a whole or not at all.
-/

namespace ItsBedalyo.Pages.StoreHandler

open Page

variable {D : Type} [Double D]

/-! ### The stages of a request -/

section Stages

variable (server : SqlServer D) (req : Json D) (rowKey : SettingsTable → String)
  (t : SettingsTable) (db : Sql.Tables (Cell D))

/-- The clauses of a table, for a request whose values are read. -/
def clausesOf : Clauses := (t.clauses req).toOption.getD {}

/-- The statement of a table and its values. -/
def stageStatement : String × List SqlParam := statement t (clausesOf req t) (rowKey t)

def refusesStage : Bool :=
  server.refused (stageStatement req rowKey t).1 (stageStatement req rowKey t).2

/-- The update of a table, unless an earlier one was refused or nothing of it is named. -/
def stage (s : Bool × Sql.Tables (Cell D)) : Bool × Sql.Tables (Cell D) :=
  if s.1 = true ∧ named req t ≠ [] then
    (!refusesStage server req rowKey t,
      server.after (stageStatement req rowKey t).1 (stageStatement req rowKey t).2 s.2)
  else s

/-- Whether all updates were accepted, and the tables then. -/
def saved : Bool × Sql.Tables (Cell D) :=
  SettingsTable.all.foldl (fun s t => stage server req rowKey t s) (true, db)

/-- A row with the key of the table. -/
def Keyed (row : Sql.Row (Cell D)) : Prop :=
  (row t.keyColumn).equal server.collation (.string (rowKey t)) = true

/-- A row that holds what the request has for its table. -/
def Holds (row : Sql.Row (Cell D)) : Prop :=
  ∀ setting ∈ named req t, ∃ field value, req.find setting.key = some field ∧
    setting.read field = .ok value ∧
      row setting.column = server.stored t.name setting.column (.string value)

end Stages

/-- The request comes to the updates. -/
structure Reaches (text : JsonParser D) (jsonBody : String) (req : Json D) (storeId : Int32) :
    Prop where
  read : text.read jsonBody = .ok req
  store : req.value "storeId" (0 : Int32) = .ok storeId
  ne : storeId ≠ 0
  accepted : Accepted req
  named : namedAmong req SettingsTable.all ≠ []

/-- What is sent to the client. -/
def replies (ops : List (PageOp D)) : List (CmdID × Option (Json D)) :=
  ops.filterMap fun
    | .sendPacket cmdId body => some (cmdId, body)
    | _ => none

section Play

variable {server : SqlServer D} {others : (o : PageOp D) → o.Res} {db : Sql.Tables (Cell D)}
  {text : JsonParser D} {jsonBody : String} {req : Json D} {storeId : Int32}

/-- Reading the clauses of a table fails exactly if a value is not read. -/
theorem accepted_of_clauses (h : ∀ t : SettingsTable, ∃ clauses, t.clauses req = .ok clauses) :
    Accepted req := by
  intro t
  obtain ⟨clauses, hclauses⟩ := h t
  rw [t.clauses_eq] at hclauses
  generalize (SettingsTable.settings t : List (Setting D)) = settings at hclauses ⊢
  generalize ({} : Clauses) = before at hclauses
  induction settings generalizing before with
  | nil => exact fun setting hsetting => absurd hsetting List.not_mem_nil
  | cons setting settings ih =>
    rw [addFields, List.foldlM_cons] at hclauses
    obtain ⟨first, hfirst, hrest⟩ := Json.bind_eq_ok.mp hclauses
    intro s hs field hfield
    rcases List.mem_cons.mp hs with rfl | hmem
    · rw [addField, hfield] at hfirst
      change (s.read field).map _ = _ at hfirst
      cases hread : s.read field with
      | ok value => exact ⟨value, rfl⟩
      | error e =>
        rw [hread] at hfirst
        cases hfirst
    · exact ih first hrest s hmem field hfield

theorem clausesOf_eq (h : Accepted req) (t : SettingsTable) :
    t.clauses req = .ok (clausesOf req t) ∧ ((clausesOf req t).text = "" ↔ named req t = []) := by
  obtain ⟨clauses, hclauses, hempty, -⟩ := clauses_correct h t
  have hof : clausesOf req t = clauses := by rw [clausesOf, hclauses]; rfl
  rw [hof]
  exact ⟨hclauses, hempty⟩

theorem writes_stageStatement (h : Accepted req) (rowKey : SettingsTable → String)
    {t : SettingsTable} (hnamed : named req t ≠ []) :
    Writes req rowKey t (stageStatement req rowKey t) := by
  obtain ⟨clauses, hclauses, -, hwrites⟩ := clauses_correct h t
  have hof : clausesOf req t = clauses := by rw [clausesOf, hclauses]; rfl
  rw [stageStatement, hof]
  exact hwrites rowKey hnamed

omit [Double D] in
@[simp] theorem replies_append (ops ops' : List (PageOp D)) :
    replies (ops ++ ops') = replies ops ++ replies ops' := List.filterMap_append ..

omit [Double D] in
@[simp] theorem replies_db (ops : List (DbOp D)) : replies (ops.map PageOp.db) = [] := by
  rw [replies, List.filterMap_map]
  exact List.filterMap_eq_nil_iff.mpr fun _ _ => rfl

variable (server others)

/-- The update of one table. -/
theorem play_updateTable (h : Accepted req) (rowKey : SettingsTable → String) (t : SettingsTable)
    {id : Page D String} {idOps : List (PageOp D)}
    (hid : ∀ db, id.play (server.pageAnswer others) db = (.ok (rowKey t), db, idOps))
    (hops : replies idOps = []) (s : Bool × Sql.Tables (Cell D)) : ∃ ops,
    (updateTable s.1 t.name t.keyColumn (clausesOf req t) id).play (server.pageAnswer others) s.2 =
        (.ok (stage server req rowKey t s).1, (stage server req rowKey t s).2, ops) ∧
      replies ops = [] := by
  have hempty := (clausesOf_eq h t).2
  rw [updateTable, stage]
  by_cases hstage : s.1 = true ∧ named req t ≠ []
  · have hrun : s.1 = true ∧ (clausesOf req t).text ≠ "" :=
      ⟨hstage.1, fun htext => hstage.2 (hempty.mp htext)⟩
    obtain ⟨ops, hplay⟩ := server.play_executeUpdate s.2 (stageStatement req rowKey t).1
      ((clausesOf req t).values ++ [rowKey t])
    rw [if_pos hstage, if_pos hrun, Prog.play_bind, hid]
    dsimp only
    rw [SqlServer.play_db]
    change ∃ ops, ((((executeUpdate (stageStatement req rowKey t).1 _).play server.answer s.2).map
      _ _).map _ _) = _ ∧ _
    rw [hplay]
    refine ⟨_, rfl, ?_⟩
    simp [hops]
  · have hskip : ¬(s.1 = true ∧ (clausesOf req t).text ≠ "") :=
      fun hrun => hstage ⟨hrun.1, fun hnil => hrun.2 (hempty.mpr hnil)⟩
    rw [if_neg hstage, if_neg hskip]
    exact ⟨[], rfl, rfl⟩

variable (db)

/-- A request that comes to the updates. -/
theorem play_of_reaches (h : Reaches text jsonBody req storeId) : ∃ ops,
    (handleStoreInfoUpdateReq text jsonBody).play (server.pageAnswer others) db =
        (.ok (), (saved server req (rowKeys storeId (others .getUserId)) db).2, ops) ∧
      replies ops = [(CmdID.RES_STORE_INFO_UPDATE,
        some (if (saved server req (rowKeys storeId (others .getUserId)) db).1 = true
          then Dto.statusMessage 200 "저장 완료"
          else Dto.statusMessage 500 "DB 오류가 발생했습니다."))] := by
  set rowKey := rowKeys storeId (others .getUserId) with hrowKey
  have hparse : parse text jsonBody = (pure req : Page D (Json D)) := by
    rw [parse, h.read]
    rfl
  have hvalue : value text req "storeId" (0 : Int32) = (pure storeId : Page D Int32) := by
    rw [value, h.store]
    rfl
  have hclauses (t : SettingsTable) :
      Page.ofExcept (text.convert (t.clauses req)) = (pure (clausesOf req t) : Page D Clauses) := by
    rw [(clausesOf_eq h.accepted t).1]
    rfl
  have hstore := hclauses .stores
  have huser := hclauses .users
  have howner := hclauses .owners
  simp only [SettingsTable.clauses] at hstore huser howner
  have hsome : ¬((clausesOf req .stores).text = "" ∧ (clausesOf req .users).text = "" ∧
      (clausesOf req .owners).text = "") := by
    rintro ⟨hs, hu, ho⟩
    refine h.named ?_
    simp [namedAmong, SettingsTable.all, (clausesOf_eq h.accepted .stores).2.mp hs,
      (clausesOf_eq h.accepted .users).2.mp hu, (clausesOf_eq h.accepted .owners).2.mp ho]
  have hid (db : Sql.Tables (Cell D)) :
      (getUserId : Page D String).play (server.pageAnswer others) db =
      (.ok (others .getUserId), db, [.getUserId]) := Prog.play_op _
  have hstoreId (db : Sql.Tables (Cell D)) : (pure (toString storeId.toInt) : Page D String).play
      (server.pageAnswer others) db = (.ok (rowKey .stores), db, []) := rfl
  -- one table after another, each from where the one before has left off
  have hsaved : saved server req rowKey db = stage server req rowKey .owners
      (stage server req rowKey .users (stage server req rowKey .stores (true, db))) := rfl
  obtain ⟨opsStore, hplayStore, hrepliesStore⟩ :=
    play_updateTable server others h.accepted rowKey .stores hstoreId rfl (true, db)
  generalize stage server req rowKey .stores (true, db) = s₁ at *
  obtain ⟨opsUser, hplayUser, hrepliesUser⟩ :=
    play_updateTable server others h.accepted rowKey .users hid rfl s₁
  generalize stage server req rowKey .users s₁ = s₂ at *
  obtain ⟨opsOwner, hplayOwner, hrepliesOwner⟩ :=
    play_updateTable server others h.accepted rowKey .owners hid rfl s₂
  generalize stage server req rowKey .owners s₂ = s₃ at *
  simp only [SettingsTable.name, SettingsTable.keyColumn] at hplayStore hplayUser hplayOwner
  rw [hsaved]
  set body : Json D := if s₃.1 = true then Dto.statusMessage 200 "저장 완료"
    else Dto.statusMessage 500 "DB 오류가 발생했습니다." with hbody
  refine ⟨opsStore ++ (opsUser ++ (opsOwner ++
    [.sendPacket CmdID.RES_STORE_INFO_UPDATE (some body)])), ?_, ?_⟩
  · simp only [handleStoreInfoUpdateReq, hparse, hvalue, hstore, huser, howner,
      Prog.play_tryCatch, Prog.play_bind, Prog.play_pure, if_neg h.ne, if_neg hsome, hplayStore,
      hplayUser, hplayOwner]
    rfl
  · rw [replies_append, replies_append, replies_append, hrepliesStore, hrepliesUser, hrepliesOwner]
    rfl

/-- A request that does not come to the updates is refused. -/
theorem play_of_not_reaches (h : ∀ req storeId, ¬Reaches text jsonBody req storeId) :
    ∃ ops status message,
      (handleStoreInfoUpdateReq text jsonBody).play (server.pageAnswer others) db =
          (.ok (), db, ops) ∧
        replies ops = [(CmdID.RES_STORE_INFO_UPDATE, some (Dto.statusMessage status message))] ∧
        status ≠ 200 := by
  simp only [handleStoreInfoUpdateReq, parse, value, Page.ofExcept, Prog.play_tryCatch,
    Prog.play_bind, Prog.play_ofExcept]
  cases hread : text.read jsonBody with
  | error what => exact ⟨_, 500, "서버 내부 오류", rfl, rfl, by decide⟩
  | ok req =>
    simp only [Except.mapError]
    cases hvalue : req.value "storeId" (0 : Int32) with
    | error e => exact ⟨_, 500, "서버 내부 오류", rfl, rfl, by decide⟩
    | ok storeId =>
      simp only [JsonParser.convert, Except.mapError]
      by_cases hzero : storeId = 0
      · rw [if_pos hzero]
        exact ⟨_, 400, "storeId가 없습니다.", rfl, rfl, by decide⟩
      · rw [if_neg hzero]
        -- one table whose values are not read is enough
        simp only [Prog.play_bind, Prog.play_ofExcept]
        cases hstore : storeClauses req with
        | error e => exact ⟨_, 500, "서버 내부 오류", rfl, rfl, by decide⟩
        | ok store =>
          cases huser : userClauses req with
          | error e => exact ⟨_, 500, "서버 내부 오류", rfl, rfl, by decide⟩
          | ok user =>
            cases howner : ownerClauses req with
            | error e => exact ⟨_, 500, "서버 내부 오류", rfl, rfl, by decide⟩
            | ok owner =>
              have haccepted : Accepted req := by
                refine accepted_of_clauses fun t => ?_
                cases t
                · exact ⟨store, hstore⟩
                · exact ⟨user, huser⟩
                · exact ⟨owner, howner⟩
              have hnone : namedAmong req SettingsTable.all = [] := by
                by_contra hnamed
                exact h req storeId ⟨hread, hvalue, hzero, haccepted, hnamed⟩
              have hempty (t : SettingsTable) (ht : t ∈ SettingsTable.all) {clauses : Clauses}
                  (hclauses : t.clauses req = .ok clauses) : clauses.text = "" := by
                have hof : clausesOf req t = clauses := by rw [clausesOf, hclauses]; rfl
                rw [← hof, (clausesOf_eq haccepted t).2]
                by_contra hnamed
                have hmem : t ∈ namedAmong req SettingsTable.all :=
                  List.mem_filter.mpr ⟨ht, by simpa using hnamed⟩
                rw [hnone] at hmem
                exact List.not_mem_nil hmem
              simp only [hempty .stores (by decide) hstore, hempty .users (by decide) huser,
                hempty .owners (by decide) howner, and_self, if_true]
              exact ⟨_, 400, "변경된 항목이 없습니다.", rfl, rfl, by decide⟩

end Play

/-! ### What a stage does to the tables -/

section Effect

variable (server : SqlServer D) {req : Json D} {rowKey : SettingsTable → String}
  {t t' : SettingsTable} {db db' : Sql.Tables (Cell D)}

/-- The columns of a table that are named. -/
def stageChange (req : Json D) (t : SettingsTable) : Sql.Change :=
  ⟨t.name, (named req t).map (·.column), [t.keyColumn]⟩

theorem SettingsTable.name_injective : Function.Injective SettingsTable.name := by
  intro t t' h
  cases t <;> cases t' <;> first | rfl | exact absurd h (by decide)

/-- The tables after a stage. -/
abbrev afterStage (req : Json D) (rowKey : SettingsTable → String) (t : SettingsTable)
    (db : Sql.Tables (Cell D)) : Sql.Tables (Cell D) :=
  server.after (stageStatement req rowKey t).1 (stageStatement req rowKey t).2 db

/-- A value as its column stores it. -/
def StoredFor (req : Json D) (t : SettingsTable) (setting : Setting D) (cell : Cell D) : Prop :=
  ∃ field value, req.find setting.key = some field ∧ setting.read field = .ok value ∧
    cell = server.stored t.name setting.column (.string value)

theorem columns_nodup (req : Json D) (t : SettingsTable) :
    ((named req t).map (·.column)).Nodup := by
  have hall : ((SettingsTable.settings t : List (Setting D)).map (·.column)).Nodup := by
    cases t <;> simp only [SettingsTable.settings, List.map_cons, List.map_nil] <;> decide
  exact hall.sublist (List.filter_sublist.map _)

theorem keyColumn_not_mem (req : Json D) (t : SettingsTable) :
    t.keyColumn ∉ (named req t).map (·.column) := by
  have hall : t.keyColumn ∉ (SettingsTable.settings t : List (Setting D)).map (·.column) := by
    cases t <;> simp only [SettingsTable.settings, List.map_cons, List.map_nil] <;> decide
  exact fun hmem => hall ((List.filter_sublist.map _).mem hmem)

omit [Double D] in
/-- Values that are given are stored. -/
theorem forall₂_storedFor {settings : List (Setting D)} {values : List String}
    (h : List.Forall₂ (GivenBy req) settings values) (rest : List SqlParam) :
    List.Forall₂ (StoredFor server req t) settings
      (((settings.map (·.column)).zip (values.map .string ++ rest)).map fun assigned =>
        server.stored t.name assigned.1 assigned.2) := by
  have hgiven : List.Forall₂ (fun s p => ∃ value, GivenBy req s value ∧ p = SqlParam.string value)
      settings (values.map SqlParam.string) :=
    List.forall₂_map_right_iff.mpr (h.imp fun _ value hvalue => ⟨value, hvalue, rfl⟩)
  refine (server.forall₂_stored hgiven t.name rest).imp ?_
  rintro setting cell ⟨_, ⟨value, ⟨field, hfield, hread⟩, rfl⟩, hcell⟩
  exact ⟨field, value, hfield, hread, hcell⟩

/-- An accepted stage assigns what is named in the rows with the key. -/
theorem exists_afterStage (rowKey : SettingsTable → String) (h : Accepted req)
    (hnamed : named req t ≠ []) :
    ∃ values, List.Forall₂ (StoredFor server req t) (named req t) values ∧
      ∀ db, refusesStage server req rowKey t = false → afterStage server req rowKey t db =
        (stageChange req t).run
          (fun row => (row t.keyColumn).equal server.collation (.string (rowKey t))) values db := by
  obtain ⟨values, hvalues, hclauses⟩ := addFields_of req (h t) []
  change List.Forall₂ (GivenBy req) (named req t) values at hvalues
  have hlength : (named req t).length = values.length := hvalues.length_eq
  have hof : (clausesOf req t).values = values := by
    rw [clausesOf, t.clauses_eq, show ({} : Clauses) = Clauses.of [] from rfl, hclauses]
    refine List.map_snd_zip (le_of_eq ?_)
    rw [List.length_map]
    exact hlength.symm
  have hparams : (stageStatement req rowKey t).2 =
      values.map .string ++ [.string (rowKey t)] := by
    rw [stageStatement, statement, hof, List.map_append]
    rfl
  have hreads := Sql.Change.parse_of_update (writes_stageStatement h rowKey hnamed).reads
  refine ⟨_, forall₂_storedFor server hvalues [.string (rowKey t)], fun db hok => ?_⟩
  have hkey : (stageStatement req rowKey t).2.drop ((named req t).map (·.column)).length =
      [.string (rowKey t)] := by
    rw [hparams]
    exact List.drop_left' (by simp [hlength])
  have hhits (row : Sql.Row (Cell D)) : server.hits (stageChange req t) [.string (rowKey t)] row =
      (row t.keyColumn).equal server.collation (.string (rowKey t)) := Bool.and_true _
  rw [afterStage, SqlServer.after, ← refusesStage, hok, SqlServer.update, hreads]
  change (stageChange req t).run (server.hits (stageChange req t)
    ((stageStatement req rowKey t).2.drop ((named req t).map (·.column)).length)) _ db = _
  rw [hkey, funext hhits, SqlServer.values, hparams]

theorem afterStage_of_refuses (h : refusesStage server req rowKey t = true) :
    afterStage server req rowKey t db = db := if_pos h

/-- The other tables stay as they are. -/
theorem afterStage_of_ne (h : Accepted req) (hnamed : named req t ≠ []) {table : String}
    (hne : table ≠ t.name) : afterStage server req rowKey t db table = db table := by
  obtain ⟨values, -, hrun⟩ := exists_afterStage server rowKey h hnamed
  cases hrefuses : refusesStage server req rowKey t with
  | true => rw [afterStage_of_refuses server hrefuses]
  | false => rw [hrun db hrefuses, Sql.Change.run_of_ne hne]

/-- What a stage makes of its table depends on nothing else. -/
theorem afterStage_congr (h : Accepted req) (hnamed : named req t ≠ [])
    (hdb : db t.name = db' t.name) :
    afterStage server req rowKey t db t.name = afterStage server req rowKey t db' t.name := by
  obtain ⟨values, -, hrun⟩ := exists_afterStage server rowKey h hnamed
  cases hrefuses : refusesStage server req rowKey t with
  | true => rw [afterStage_of_refuses server hrefuses, afterStage_of_refuses server hrefuses, hdb]
  | false =>
    have htable : t.name = (stageChange req t).table := rfl
    rw [hrun db hrefuses, hrun db' hrefuses, htable, Sql.Change.run_self, Sql.Change.run_self,
      ← htable, hdb]

section Rows

variable {server} {values : List (Cell D)}
  (hvalues : List.Forall₂ (StoredFor server req t) (named req t) values)

include hvalues

theorem holds_assign (row : Sql.Row (Cell D)) :
    Holds server req t ((stageChange req t).assign values row) := by
  intro setting hsetting
  have hgiven : StoredFor server req t setting
      ((stageChange req t).assign values row setting.column) :=
    Sql.Change.assign_of_forall₂ rfl (columns_nodup req t) hvalues hsetting
  exact hgiven

/-- A row that holds what is named stays as it is. -/
theorem assign_eq_self_iff {row : Sql.Row (Cell D)} :
    (stageChange req t).assign values row = row ↔ Holds server req t row := by
  constructor
  · intro h
    have hholds := holds_assign hvalues row
    rwa [h] at hholds
  · intro h
    funext column
    by_cases hmem : column ∈ (stageChange req t).columns
    · obtain ⟨setting, hsetting, rfl⟩ := List.mem_map.mp hmem
      obtain ⟨field, value, hfield, hread, hrow⟩ := h setting hsetting
      obtain ⟨field', value', hfield', hread', hcell⟩ := holds_assign hvalues row setting hsetting
      obtain rfl := Option.some.inj (hfield.symm.trans hfield')
      obtain rfl := Except.ok.inj (hread.symm.trans hread')
      exact hcell.trans hrow.symm
    · exact Sql.Change.assign_of_not_mem hmem

omit hvalues in
/-- The key of a row is not changed. -/
theorem keyed_assign {row : Sql.Row (Cell D)} :
    Keyed server rowKey t ((stageChange req t).assign values row) ↔ Keyed server rowKey t row := by
  rw [Keyed, Keyed, Sql.Change.assign_of_not_mem (keyColumn_not_mem req t)]

end Rows

/-! ### One stage after another -/

variable {server} {stages before rest : List SettingsTable}

/-- The tables after some stages. -/
def written (server : SqlServer D) (req : Json D) (rowKey : SettingsTable → String)
    (stages : List SettingsTable) (db : Sql.Tables (Cell D)) : Sql.Tables (Cell D) :=
  stages.foldl (fun db t => afterStage server req rowKey t db) db

theorem written_of_not_mem (h : Accepted req) (hstages : ∀ t ∈ stages, named req t ≠ [])
    {table : String} (htable : ∀ t ∈ stages, table ≠ t.name) :
    written server req rowKey stages db table = db table := by
  induction stages generalizing db with
  | nil => rfl
  | cons t stages ih =>
    rw [List.forall_mem_cons] at hstages htable
    exact (ih hstages.2 htable.2).trans (afterStage_of_ne server h hstages.1 htable.1)

/-- The table of a stage is as this stage has left it. -/
theorem written_of_mem (h : Accepted req) (hstages : ∀ t ∈ stages, named req t ≠ [])
    (hnodup : stages.Nodup) (ht : t ∈ stages) : written server req rowKey stages db t.name =
      afterStage server req rowKey t db t.name := by
  induction stages generalizing db with
  | nil => exact absurd ht List.not_mem_nil
  | cons t₀ stages ih =>
    rw [List.forall_mem_cons] at hstages
    rw [List.nodup_cons] at hnodup
    rcases List.mem_cons.mp ht with rfl | hmem
    · refine written_of_not_mem h hstages.2 fun t' ht' hname => ?_
      exact hnodup.1 (SettingsTable.name_injective hname ▸ ht')
    · refine (ih hstages.2 hnodup.2 hmem).trans (afterStage_congr server h (hstages.2 t hmem) ?_)
      refine afterStage_of_ne server h hstages.1 fun hname => hnodup.1 ?_
      exact SettingsTable.name_injective hname ▸ hmem

/-- Stages that leave the tables as they are are those of which each does. -/
theorem written_eq_self_iff (h : Accepted req) (hstages : ∀ t ∈ stages, named req t ≠ [])
    (hnodup : stages.Nodup) : written server req rowKey stages db = db ↔
      ∀ t ∈ stages, afterStage server req rowKey t db = db := by
  constructor
  · intro hsame t ht
    funext table
    by_cases htable : table = t.name
    · rw [htable, ← written_of_mem h hstages hnodup ht, hsame]
    · exact afterStage_of_ne server h (hstages t ht) htable
  · intro hsame
    clear hnodup
    induction stages with
    | nil => rfl
    | cons t stages ih =>
      rw [List.forall_mem_cons] at hstages hsame
      have hfirst : written server req rowKey (t :: stages) db =
          written server req rowKey stages (afterStage server req rowKey t db) := rfl
      rw [hfirst, hsame.1]
      exact ih hstages.2 hsame.2

/-- The stages of the tables of which something is named. -/
theorem saved_eq : saved server req rowKey db =
    (namedAmong req SettingsTable.all).foldl (fun s t => stage server req rowKey t s)
      (true, db) := by
  rw [saved, namedAmong, List.foldl_filter]
  congr 1
  funext s t
  by_cases hnamed : named req t = []
  · simp [stage, hnamed]
  · simp [hnamed]

theorem foldl_stage_of_false (stages : List SettingsTable) :
    stages.foldl (fun s t => stage server req rowKey t s) (false, db) = (false, db) := by
  induction stages with
  | nil => rfl
  | cons t stages ih =>
    have hskip : stage server req rowKey t (false, db) = (false, db) :=
      if_neg fun h => Bool.false_ne_true h.1
    rw [List.foldl_cons, hskip, ih]

/-- Stages that are all accepted. -/
theorem foldl_stage_of_accepted (hstages : ∀ t ∈ stages, named req t ≠ [])
    (haccepts : ∀ t ∈ stages, refusesStage server req rowKey t = false) :
    stages.foldl (fun s t => stage server req rowKey t s) (true, db) =
      (true, written server req rowKey stages db) := by
  induction stages generalizing db with
  | nil => rfl
  | cons t stages ih =>
    rw [List.forall_mem_cons] at hstages haccepts
    have hfirst : stage server req rowKey t (true, db) =
        (true, afterStage server req rowKey t db) := by
      rw [stage, if_pos ⟨rfl, hstages.1⟩, haccepts.1]
      rfl
    rw [List.foldl_cons, hfirst, ih hstages.2 haccepts.2]
    rfl

/-- Stages up to one that is refused. -/
theorem foldl_stage_of_refused (hstages : ∀ t' ∈ before ++ t :: rest, named req t' ≠ [])
    (haccepts : ∀ t ∈ before, refusesStage server req rowKey t = false)
    (hrefuses : refusesStage server req rowKey t = true) :
    (before ++ t :: rest).foldl (fun s t => stage server req rowKey t s) (true, db) =
      (false, written server req rowKey before db) := by
  have hbefore : ∀ t ∈ before, named req t ≠ [] :=
    fun t ht => hstages t (List.mem_append_left _ ht)
  have hrefused : stage server req rowKey t (true, written server req rowKey before db) =
      (false, written server req rowKey before db) := by
    rw [stage, if_pos ⟨rfl, hstages t (by simp)⟩, hrefuses]
    exact Prod.ext rfl (afterStage_of_refuses server hrefuses)
  rw [List.foldl_append, foldl_stage_of_accepted hbefore haccepts, List.foldl_cons, hrefused,
    foldl_stage_of_false]

/-! ### Rows that hold what is named -/

theorem written_holds_iff (h : Accepted req) (hstages : ∀ t ∈ stages, named req t ≠ [])
    (hnodup : stages.Nodup) (haccepts : ∀ t ∈ stages, refusesStage server req rowKey t = false)
    (ht : t ∈ stages) :
    (∃ row ∈ written server req rowKey stages db t.name,
      Keyed server rowKey t row ∧ Holds server req t row) ↔
        ∃ row ∈ db t.name, Keyed server rowKey t row := by
  obtain ⟨values, hvalues, hrun⟩ :=
    exists_afterStage server rowKey h (hstages t ht)
  have htable : t.name = (stageChange req t).table := rfl
  rw [written_of_mem h hstages hnodup ht, hrun db (haccepts t ht), htable, Sql.Change.run_self]
  constructor
  · rintro ⟨row', hrow', hkeyed, -⟩
    obtain ⟨row, hrow, rfl⟩ := List.mem_map.mp hrow'
    refine ⟨row, hrow, ?_⟩
    rw [Sql.Change.onRow] at hkeyed
    split at hkeyed
    · next hhits => exact hhits
    · exact hkeyed
  · rintro ⟨row, hrow, hkeyed⟩
    refine ⟨_, List.mem_map_of_mem hrow, ?_⟩
    have hhits : (row t.keyColumn).equal server.collation (.string (rowKey t)) = true := hkeyed
    rw [Sql.Change.onRow, if_pos hhits]
    exact ⟨keyed_assign.mpr hkeyed, holds_assign hvalues row⟩

theorem afterStage_eq_self_iff (h : Accepted req) (hnamed : named req t ≠ [])
    (haccepts : refusesStage server req rowKey t = false) :
    afterStage server req rowKey t db = db ↔
      ∀ row ∈ db t.name, Keyed server rowKey t row → Holds server req t row := by
  obtain ⟨values, hvalues, hrun⟩ := exists_afterStage server rowKey h hnamed
  rw [hrun db haccepts, Sql.Change.run_eq_self_iff]
  exact forall₃_congr fun row _ _ => assign_eq_self_iff hvalues

end Effect

/-! ### All or nothing -/

section AllOrNothing

variable (server : SqlServer D) (others : (o : PageOp D) → o.Res) (text : JsonParser D)
  (jsonBody : String) (db : Sql.Tables (Cell D))

/-- The reply says that the settings are saved. -/
def Succeeds (sent : List (CmdID × Option (Json D))) : Prop :=
  ∃ message, (CmdID.RES_STORE_INFO_UPDATE, some (Dto.statusMessage 200 message)) ∈ sent

/-- **Saved as a whole or not at all**: after a reply with 200 each table of which something is
named has a row with the key that holds it, and after another reply the tables are as they were. -/
structure AllOrNothing : Prop where
  stored : Succeeds (replies ((handleStoreInfoUpdateReq text jsonBody).play
      (server.pageAnswer others) db).2.2) →
    ∀ req storeId, text.read jsonBody = .ok req → req.value "storeId" (0 : Int32) = .ok storeId →
      ∀ t ∈ namedAmong req SettingsTable.all,
        ∃ row ∈ ((handleStoreInfoUpdateReq text jsonBody).play (server.pageAnswer others) db).2.1
            t.name,
          Keyed server (rowKeys storeId (others .getUserId)) t row ∧ Holds server req t row
  unchanged : ¬Succeeds (replies ((handleStoreInfoUpdateReq text jsonBody).play
      (server.pageAnswer others) db).2.2) →
    ((handleStoreInfoUpdateReq text jsonBody).play (server.pageAnswer others) db).2.1 = db

/-- No update is refused and each finds its row, or those before the first that is refused find
rows only that hold what is named already. -/
def Whole (req : Json D) (rowKey : SettingsTable → String) : Prop :=
  (∀ t ∈ namedAmong req SettingsTable.all, refusesStage server req rowKey t = false ∧
    ∃ row ∈ db t.name, Keyed server rowKey t row) ∨
  ∃ before t rest, namedAmong req SettingsTable.all = before ++ t :: rest ∧
    refusesStage server req rowKey t = true ∧
    ∀ t' ∈ before, refusesStage server req rowKey t' = false ∧
      ∀ row ∈ db t'.name, Keyed server rowKey t' row → Holds server req t' row

variable {server others text jsonBody db}

theorem succeeds_singleton {status : Int32} {message : String} :
    Succeeds [(CmdID.RES_STORE_INFO_UPDATE, some (Dto.statusMessage status message : Json D))] ↔
      status = 200 := by
  constructor
  · rintro ⟨message', hmem⟩
    have hbody := Option.some.inj (Prod.mk.inj (List.mem_singleton.mp hmem)).2
    have hstatus := congrArg (fun j : Json D => j.value "status" (0 : Int32)) hbody
    simp only [Dto.statusMessage, Json.value_object, List.lookup_cons_self,
      decode_encode] at hstatus
    exact (Except.ok.inj hstatus).symm
  · rintro rfl
    exact ⟨message, List.mem_singleton_self _⟩

theorem namedAmong_ne_nil (req : Json D) : ∀ t ∈ namedAmong req SettingsTable.all,
    named req t ≠ [] := by
  intro t ht
  simpa using (List.mem_filter.mp ht).2

theorem nodup_namedAmong (req : Json D) : (namedAmong req SettingsTable.all).Nodup := by
  have hall : SettingsTable.all.Nodup := by decide
  exact hall.filter _

/-- The stages before the first that is refused. -/
theorem exists_first_refused {req : Json D} {rowKey : SettingsTable → String}
    (stages : List SettingsTable) (h : ¬∀ t ∈ stages, refusesStage server req rowKey t = false) :
    ∃ before t rest, stages = before ++ t :: rest ∧ refusesStage server req rowKey t = true ∧
      ∀ t' ∈ before, refusesStage server req rowKey t' = false := by
  induction stages with
  | nil => exact absurd (List.forall_mem_nil _) h
  | cons t stages ih =>
    cases hrefuses : refusesStage server req rowKey t with
    | true => exact ⟨[], t, stages, rfl, hrefuses, List.forall_mem_nil _⟩
    | false =>
      obtain ⟨before, t', rest, rfl, ht', hbefore⟩ :=
        ih fun hall => h (List.forall_mem_cons.mpr ⟨hrefuses, hall⟩)
      exact ⟨t :: before, t', rest, rfl, ht', List.forall_mem_cons.mpr ⟨hrefuses, hbefore⟩⟩

section Reached

variable {req : Json D} {storeId : Int32} (h : Reaches text jsonBody req storeId)

include h

/-- Where all updates are accepted, the rows have to be there. -/
theorem allOrNothing_of_accepted
    (haccepts : ∀ t ∈ namedAmong req SettingsTable.all,
      refusesStage server req (rowKeys storeId (others .getUserId)) t = false) :
    AllOrNothing server others text jsonBody db ↔ ∀ t ∈ namedAmong req SettingsTable.all,
      ∃ row ∈ db t.name, Keyed server (rowKeys storeId (others .getUserId)) t row := by
  have hnamed := namedAmong_ne_nil req
  have hnodup := nodup_namedAmong req
  obtain ⟨ops, hplay, hreplies⟩ := play_of_reaches server others db h
  generalize hkeys : rowKeys storeId (others .getUserId) = rowKey at *
  have hsaved : saved server req rowKey db =
      (true, written server req rowKey (namedAmong req SettingsTable.all) db) :=
    saved_eq.trans (foldl_stage_of_accepted hnamed haccepts)
  rw [hsaved] at hplay hreplies
  have hsucceeds : Succeeds (replies ops) := by rw [hreplies, if_pos rfl, succeeds_singleton]
  have hrows : (∀ t ∈ namedAmong req SettingsTable.all,
      ∃ row ∈ written server req rowKey (namedAmong req SettingsTable.all) db t.name,
        Keyed server rowKey t row ∧ Holds server req t row) ↔
      ∀ t ∈ namedAmong req SettingsTable.all, ∃ row ∈ db t.name, Keyed server rowKey t row :=
    forall₂_congr fun t ht => written_holds_iff h.accepted hnamed hnodup haccepts ht
  rw [← hrows]
  constructor
  · rintro ⟨hstored, -⟩
    rw [hplay, hkeys.symm] at hstored
    have hall := hstored hsucceeds req storeId h.read h.store
    rwa [hkeys] at hall
  · intro hall
    refine ⟨fun _ req' storeId' hread hstore => ?_, fun hnot => ?_⟩
    · obtain rfl := Except.ok.inj (h.read.symm.trans hread)
      obtain rfl := Except.ok.inj (h.store.symm.trans hstore)
      rw [hplay, hkeys]
      exact hall
    · rw [hplay] at hnot
      exact absurd hsucceeds hnot

/-- Where an update is refused, those before it have to change nothing. -/
theorem allOrNothing_of_refused {before rest : List SettingsTable} {t : SettingsTable}
    (hstages : namedAmong req SettingsTable.all = before ++ t :: rest)
    (hrefuses : refusesStage server req (rowKeys storeId (others .getUserId)) t = true)
    (hbefore : ∀ t' ∈ before,
      refusesStage server req (rowKeys storeId (others .getUserId)) t' = false) :
    AllOrNothing server others text jsonBody db ↔ ∀ t' ∈ before, ∀ row ∈ db t'.name,
      Keyed server (rowKeys storeId (others .getUserId)) t' row → Holds server req t' row := by
  have hnamed := namedAmong_ne_nil req
  have hnodup := nodup_namedAmong req
  obtain ⟨ops, hplay, hreplies⟩ := play_of_reaches server others db h
  generalize rowKeys storeId (others .getUserId) = rowKey at *
  rw [hstages] at hnamed hnodup
  have hsaved : saved server req rowKey db = (false, written server req rowKey before db) := by
    rw [saved_eq, hstages]
    exact foldl_stage_of_refused hnamed hbefore hrefuses
  rw [hsaved] at hplay hreplies
  have hfails : ¬Succeeds (replies ops) := by
    rw [hreplies, if_neg Bool.false_ne_true, succeeds_singleton]
    decide
  have hbeforeNamed : ∀ t' ∈ before, named req t' ≠ [] :=
    fun t' ht' => hnamed t' (List.mem_append_left _ ht')
  have hrows : written server req rowKey before db = db ↔ ∀ t' ∈ before, ∀ row ∈ db t'.name,
      Keyed server rowKey t' row → Holds server req t' row := by
    rw [written_eq_self_iff h.accepted hbeforeNamed (List.Nodup.of_append_left hnodup)]
    exact forall₂_congr fun t' ht' =>
      afterStage_eq_self_iff h.accepted (hbeforeNamed t' ht') (hbefore t' ht')
  rw [← hrows]
  constructor
  · rintro ⟨-, hunchanged⟩
    rw [hplay] at hunchanged
    exact hunchanged hfails
  · intro hsame
    refine ⟨fun hsucceeds => ?_, fun _ => ?_⟩
    · rw [hplay] at hsucceeds
      exact absurd hsucceeds hfails
    · rw [hplay]
      exact hsame

theorem allOrNothing_of_reaches : AllOrNothing server others text jsonBody db ↔
    Whole server db req (rowKeys storeId (others .getUserId)) := by
  by_cases haccepts : ∀ t ∈ namedAmong req SettingsTable.all,
      refusesStage server req (rowKeys storeId (others .getUserId)) t = false
  · rw [allOrNothing_of_accepted h haccepts]
    constructor
    · exact fun hkeyed => .inl fun t ht => ⟨haccepts t ht, hkeyed t ht⟩
    · rintro (hwhole | ⟨before, t, rest, hstages, hrefuses, -⟩)
      · exact fun t ht => (hwhole t ht).2
      · have ht : t ∈ namedAmong req SettingsTable.all := by simp [hstages]
        exact absurd (haccepts t ht) (by simp [hrefuses])
  · constructor
    · intro hwhole
      obtain ⟨before, t, rest, hstages, hrefuses, hbefore⟩ :=
        exists_first_refused (namedAmong req SettingsTable.all) haccepts
      have hrows := (allOrNothing_of_refused h hstages hrefuses hbefore).mp hwhole
      exact .inr ⟨before, t, rest, hstages, hrefuses, fun t' ht' => ⟨hbefore t' ht', hrows t' ht'⟩⟩
    · rintro (hwhole | ⟨before, t, rest, hstages, hrefuses, hbefore⟩)
      · exact absurd (fun t ht => (hwhole t ht).1) haccepts
      · exact (allOrNothing_of_refused h hstages hrefuses fun t' ht' => (hbefore t' ht').1).mpr
          fun t' ht' => (hbefore t' ht').2

end Reached

/-- **Settings are saved as a whole or not at all exactly if** all updates of a request are accepted
and find their rows, or the first refused one comes after updates that change nothing. -/
theorem allOrNothing_iff : AllOrNothing server others text jsonBody db ↔
    ∀ req storeId, Reaches text jsonBody req storeId →
      Whole server db req (rowKeys storeId (others .getUserId)) := by
  by_cases hreaches : ∃ req storeId, Reaches text jsonBody req storeId
  · obtain ⟨req, storeId, h⟩ := hreaches
    rw [allOrNothing_of_reaches h]
    refine ⟨fun hwhole req' storeId' h' => ?_, fun hall => hall req storeId h⟩
    obtain rfl := Except.ok.inj (h.read.symm.trans h'.read)
    obtain rfl := Except.ok.inj (h.store.symm.trans h'.store)
    exact hwhole
  · have hnone : ∀ req storeId, ¬Reaches text jsonBody req storeId :=
      fun req storeId h => hreaches ⟨req, storeId, h⟩
    obtain ⟨ops, status, message, hplay, hreplies, hstatus⟩ :=
      play_of_not_reaches server others db hnone
    refine iff_of_true ⟨fun hsucceeds => ?_, fun _ => ?_⟩ fun req storeId h => absurd h (hnone _ _)
    · rw [hplay, hreplies, succeeds_singleton] at hsucceeds
      exact absurd hsucceeds hstatus
    · rw [hplay]

end AllOrNothing

/-! ### A phone number that is taken -/

/-- A database that stores values as they are, where somebody has the new phone number. -/
def phoneTaken : SqlServer Float where
  collation := .upTo id
  stored _ _ value := value.cell
  refuses
    | .executeUpdate _ [.string phone, .string _] =>
      if phone = "010-1234-5678" then some ⟨"Duplicate entry"⟩ else none
    | _ => none
  finds _ _ _ := []
  others db _ _ := (0, db)

/-- The store whose name is changed. -/
def oneStore : Sql.Tables (Cell Float) := fun table =>
  if table = "STORES" then
    [fun column => if column = "store_id" then .int 3 else .string "옛날짜장"]
  else []

theorem namedAmong_sampleSettings :
    namedAmong sampleSettings SettingsTable.all = [.stores, .users] := by
  decide +kernel

theorem reaches_sampleSettings :
    Reaches (.knowing "settings" sampleSettings) "settings" sampleSettings 3 := by
  refine ⟨JsonParser.read_knowing _ (by decide), rfl, by decide, accepted_sampleSettings, ?_⟩
  rw [namedAmong_sampleSettings]
  exact List.cons_ne_nil _ _

/-- **The name of the store is saved, the phone number is not**, and the reply is an error. -/
theorem not_allOrNothing_phoneTaken :
    ¬AllOrNothing phoneTaken idle (.knowing "settings" sampleSettings) "settings" oneStore := by
  have hstages : namedAmong sampleSettings SettingsTable.all = [.stores] ++ .users :: [] :=
    namedAmong_sampleSettings
  have hstore : refusesStage phoneTaken sampleSettings (rowKeys 3 "") .stores = false := rfl
  have huser : refusesStage phoneTaken sampleSettings (rowKeys 3 "") .users = true := by
    decide +kernel
  intro h
  have hholds := (allOrNothing_of_refused reaches_sampleSettings hstages huser
    (List.forall_mem_singleton.mpr hstore)).mp h .stores List.mem_cons_self _ List.mem_cons_self rfl
  have hname : (⟨"storeName", "store_name", readText⟩ : Setting Float) ∈
      named sampleSettings .stores := List.mem_filter.mpr ⟨List.mem_cons_self, rfl⟩
  obtain ⟨field, value, hfield, hread, hrow⟩ := hholds _ hname
  obtain rfl := Option.some.inj hfield
  obtain rfl := Except.ok.inj hread
  exact absurd (Cell.string.inj hrow) (by decide)

end ItsBedalyo.Pages.StoreHandler
