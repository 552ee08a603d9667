import ItsBedalyo.Database.Columns
import ItsBedalyo.Database.ReadOnly
import ItsBedalyo.Handler.PageFaults
import ItsBedalyo.Lib.Journal

/-!
# Pages that are written down

Pages are handled at the same time, one call at a time, in any order, and any call of the database
may throw. A `Ledger` says what the statements and the queries do and find in the tables, and what
is written down of them. What a page may do, after what it has done before, is read off its handler
alone (`Ledger.permits`), and how the tables are off the journal (`Ledger.Tells`); both hold in
every state of every run (`always_recorded`).
-/

namespace ItsBedalyo.Pages

open Journal

variable {ι σ ρ D E α β : Type} [Double D]

/-- What the statements and the queries do, with tables `σ`, events `E`, and what is up to the
database in `ρ`. -/
structure Ledger (D σ ρ E : Type) where
  /-- How many rows a statement changes, and what it does. -/
  write : σ → ρ → String → List SqlParam → Option (ℕ × Option E)
  /-- What a query finds, and the same as an event. -/
  find : σ → ρ → String → List SqlParam → Option (List (ResultRow D) × Option E)
  /-- The tables after an event. -/
  after : σ → ρ → E → σ
  sent : CmdID → Option (Json D) → E
  failed : E

/-- The tables, and what the pages have done. -/
structure Ledger.World (ι σ E : Type) where
  tables : σ
  log : List (ι × E)

/-- What the environment answers a call: that it throws, or what it returns. -/
structure Ledger.Reply (D ρ : Type) where
  throws : Option Exn
  answer : (o : PageOp D) → o.Res
  choice : ρ

namespace Ledger

section Steps

variable (ledger : Ledger D σ ρ E)

/-- What a call has done is written down. -/
def happen (t : ι) (choice : ρ) (w : World ι σ E) : Option E → World ι σ E
  | none => w
  | some event => ⟨ledger.after w.tables choice event, w.log ++ [(t, event)]⟩

/-- A call of page `t`. -/
def exec (t : ι) (o : PageOp D) (reply : Reply D ρ) (w : World ι σ E) :
    Option (Except Exn o.Res × World ι σ E) :=
  match reply.throws with
  | some e =>
    if o.mayThrow e = true then
      some (.error e, ledger.happen t reply.choice w (some ledger.failed))
    else none
  | none =>
    match o with
    | .db (.executeUpdate query params) =>
      (ledger.write w.tables reply.choice query params).map fun done =>
        (.ok done.1, ledger.happen t reply.choice w done.2)
    | .db (.executeQuery query params) =>
      (ledger.find w.tables reply.choice query params).map fun found =>
        (.ok found.1, ledger.happen t reply.choice w found.2)
    | .db o => some (.ok (readOnly (fun _ _ => []) o), w)
    | .sendPacket cmdId body =>
      some (.ok (), ledger.happen t reply.choice w (some (ledger.sent cmdId body)))
    | o => some (.ok (reply.answer o), w)

/-- What a call of the database can do. -/
def DbDoes : (o : DbOp D) → Except SqlException o.Res → Option E → Prop
  | _, .error _, event => event = some ledger.failed
  | .executeUpdate query params, .ok n, event =>
    ∃ tables choice, ledger.write tables choice query params = some (n, event)
  | .executeQuery query params, .ok rows, event =>
    ∃ tables choice, ledger.find tables choice query params = some (rows, event)
  | o, .ok a, event => a = readOnly (fun _ _ => []) o ∧ event = none

/-- What a call can do. -/
def Does : (o : PageOp D) → Except Exn o.Res → Option E → Prop
  | .db o, .ok a, event => ledger.DbDoes o (.ok a) event
  | .db o, .error (.sql what), event => ledger.DbDoes o (.error ⟨what⟩) event
  | .db _, .error (.std _), _ => False
  | .sendPacket cmdId body, .ok _, event => event = some (ledger.sent cmdId body)
  | _, .ok _, event => event = none
  | o, .error e, event => o.mayThrow e = true ∧ event = some ledger.failed

variable (may : List E → E → Prop)

/-- Calls of the database that may do what they can, after what has been done. -/
def dbPermits : Interface (@DbOp.Res D) SqlException (List E) where
  pre done o := ∀ r event, ledger.DbDoes o r (some event) → may done event
  post done o r done' := ∃ event, ledger.DbDoes o r event ∧ done' = done ++ event.toList

/-- Calls that may. -/
def permits : Interface (@PageOp.Res D) Exn (List E) where
  pre done o := ∀ r event, ledger.Does o r (some event) → may done event
  post done o r done' := ∃ event, ledger.Does o r event ∧ done' = done ++ event.toList

end Steps

/-! ### Rules -/

section Rules

open Interface

variable {ledger : Ledger D σ ρ E} {may : List E → E → Prop} {done : List E}

/-- The calls of the database on their own. -/
theorem wp_db {p : DbProg D α} {Q : Except Exn α → List E → Prop}
    (h : (ledger.dbPermits may).wp p
      (fun r done' => Q (r.mapError fun e => .sql e.what) done') done) :
    (ledger.permits may).wp (Page.db p) Q done := by
  induction p generalizing done with
  | ret a => exact h
  | fail e => exact h
  | call o k ih =>
    rw [Page.db]
    refine ⟨fun r event hdoes => ?_, fun r done' hpost => ?_⟩
    · cases r with
      | ok a => exact h.1 (.ok a) event hdoes
      | error e =>
        cases e with
        | sql what => exact h.1 (.error ⟨what⟩) event hdoes
        | std what => exact hdoes.elim
    · obtain ⟨event, hdoes, rfl⟩ := hpost
      cases r with
      | ok a => exact ih _ (h.2 (.ok a) _ ⟨event, hdoes, rfl⟩)
      | error e =>
        cases e with
        | sql what => exact ih _ (h.2 (.error ⟨what⟩) _ ⟨event, hdoes, rfl⟩)
        | std what => exact hdoes.elim

/-- Nothing else is written down of a call that throws. -/
theorem dbDoes_error {o : DbOp D} {e : SqlException} {event : Option E} :
    ledger.DbDoes o (.error e) event ↔ event = some ledger.failed := by
  cases o <;> exact Iff.rfl

theorem does_error {o : PageOp D} {e : Exn} (h : o.mayThrow e = true) :
    ledger.Does o (.error e) (some ledger.failed) := by
  cases e with
  | sql what =>
    cases o with
    | db o =>
      show ledger.DbDoes o (.error ⟨what⟩) _
      exact dbDoes_error.mpr rfl
    | account o => exact ⟨rfl, rfl⟩
    | _ => cases h
  | std what => cases o <;> cases h

theorem dbDoes_column {o : DbOp D} (ho : o.isColumn = true) {a : o.Res} {event : Option E} :
    ledger.DbDoes o (.ok a) event ↔ a = readOnly (fun _ _ => []) o ∧ event = none := by
  cases o with
  | executeQuery query params => cases ho
  | executeUpdate query params => cases ho
  | _ => exact Iff.rfl

variable (hfailed : ∀ done, may done ledger.failed)

include hfailed

/-- A call of the database, by what it returns. -/
theorem wp_dbOp {o : DbOp D} {Q : Except SqlException o.Res → List E → Prop}
    (hmay : ∀ a event, ledger.DbDoes o (.ok a) (some event) → may done event)
    (herror : ∀ e, Q (.error e) (done ++ [ledger.failed]))
    (hok : ∀ a event, ledger.DbDoes o (.ok a) event → Q (.ok a) (done ++ event.toList)) :
    (ledger.dbPermits may).wp (Prog.op o) Q done := by
  refine wp_op.mpr ⟨fun r event hdoes => ?_, fun r done' hpost => ?_⟩
  · cases r with
    | ok a => exact hmay a event hdoes
    | error e =>
      obtain rfl := Option.some.inj (dbDoes_error.mp hdoes)
      exact hfailed done
  · obtain ⟨event, hdoes, rfl⟩ := hpost
    cases r with
    | ok a => exact hok a event hdoes
    | error e =>
      obtain rfl := dbDoes_error.mp hdoes
      exact herror e

theorem wp_column {o : DbOp D} (ho : o.isColumn = true)
    {Q : Except SqlException o.Res → List E → Prop}
    (hok : Q (.ok (readOnly (fun _ _ => []) o)) done)
    (herror : ∀ e, Q (.error e) (done ++ [ledger.failed])) :
    (ledger.dbPermits may).wp (Prog.op o) Q done := by
  refine wp_dbOp hfailed (fun a event hdoes => ?_) herror fun a event hdoes => ?_
  · cases ((dbDoes_column ho).mp hdoes).2
  · obtain ⟨rfl, rfl⟩ := (dbDoes_column ho).mp hdoes
    rwa [Option.toList_none, List.append_nil]

/-- A statement that is prepared. -/
theorem wp_executeUpdate {query : String} {params : List SqlParam}
    {Q : Except SqlException ℕ → List E → Prop}
    (hmay : ∀ tables choice n event,
      ledger.write tables choice query params = some (n, some event) → may done event)
    (herror : ∀ e, Q (.error e) (done ++ [ledger.failed]))
    (hok : ∀ tables choice n event, ledger.write tables choice query params = some (n, event) →
      Q (.ok n) (done ++ event.toList)) :
    (ledger.dbPermits may).wp (DbProg.executeUpdate query params) Q done := by
  refine wp_dbOp hfailed (fun n event hdoes => ?_) herror fun n event hdoes => ?_
  · obtain ⟨tables, choice, hwrite⟩ := hdoes
    exact hmay tables choice n event hwrite
  · obtain ⟨tables, choice, hwrite⟩ := hdoes
    exact hok tables choice n event hwrite

theorem wp_update {query : String} {params : List SqlParam}
    {Q : Except SqlException ℕ → List E → Prop}
    (hmay : ∀ tables choice n event,
      ledger.write tables choice query params = some (n, some event) → may done event)
    (herror : ∀ e, Q (.error e) (done ++ [ledger.failed]))
    (hok : ∀ tables choice n event, ledger.write tables choice query params = some (n, event) →
      Q (.ok n) (done ++ event.toList)) :
    (ledger.dbPermits may).wp (DbProg.update query params) Q done :=
  (wp_bind _ _).mpr (wp_column hfailed rfl (wp_executeUpdate hfailed hmay herror hok) herror)

theorem wp_select {query : String} {params : List SqlParam}
    {Q : Except SqlException (List (ResultRow D)) → List E → Prop}
    (hmay : ∀ tables choice rows event,
      ledger.find tables choice query params = some (rows, some event) → may done event)
    (herror : ∀ e, Q (.error e) (done ++ [ledger.failed]))
    (hok : ∀ tables choice rows event, ledger.find tables choice query params = some (rows, event) →
      Q (.ok rows) (done ++ event.toList)) :
    (ledger.dbPermits may).wp (DbProg.select query params) Q done := by
  refine (wp_bind _ _).mpr (wp_column hfailed rfl ?_ herror)
  refine wp_dbOp hfailed (fun rows event hdoes => ?_) herror fun rows event hdoes => ?_
  · obtain ⟨tables, choice, hfind⟩ := hdoes
    exact hmay tables choice rows event hfind
  · obtain ⟨tables, choice, hfind⟩ := hdoes
    exact hok tables choice rows event hfind

/-- Where everything that is found may be, code that sends no update may find anything. -/
theorem wp_readOnly (hfound : ∀ done tables choice query params rows event,
      ledger.find tables choice query params = some (rows, some event) → may done event)
    {p : DbProg D α} (hp : p.ReadOnly) {Q : Except SqlException α → List E → Prop}
    (hQ : ∀ r done', Q r done') : (ledger.dbPermits may).wp p Q done := by
  induction p generalizing done with
  | ret a => exact hQ _ _
  | fail e => exact hQ _ _
  | call o k ih =>
    refine ⟨fun r event hdoes => ?_, fun r done' _ => ih r (hp.2 r)⟩
    cases r with
    | error e =>
      obtain rfl := Option.some.inj (dbDoes_error.mp hdoes)
      exact hfailed done
    | ok a =>
      cases o with
      | executeUpdate query params => cases hp.1
      | executeQuery query params =>
        obtain ⟨tables, choice, hfind⟩ := hdoes
        exact hfound done tables choice query params a event hfind
      | _ => cases hdoes.2

/-! #### Loops over what is found -/

/-- Code that reads columns returns what they hold, or throws. -/
theorem wp_columns {p : DbProg D α} (hp : p.Columns) {a : α} (hread : p.read (fun _ _ => []) = .ok a)
    {Q : Except SqlException α → List E → Prop} (hok : Q (.ok a) done)
    (herror : ∀ e, Q (.error e) (done ++ [ledger.failed])) : (ledger.dbPermits may).wp p Q done := by
  induction p with
  | ret b =>
    obtain rfl := Except.ok.inj hread
    exact hok
  | fail e => exact hp.elim
  | call o k ih =>
    obtain ⟨ho, hstops, hcolumns⟩ := hp
    have hcall : (ledger.dbPermits may).wp (Prog.op o)
        (fun r done' => (ledger.dbPermits may).wp (k r) Q done') done := by
      refine wp_column hfailed ho (ih _ (hcolumns _) hread) fun e => ?_
      rw [hstops]
      exact herror e
    rw [wp_op] at hcall
    exact hcall

variable (ledger may) in
/-- A body that reads the columns of a row, or throws. -/
def Reads (body : ℕ → ResultRow D → DbProg D β) (f : ℕ → α → β) (rowOf : α → ResultRow D) : Prop :=
  ∀ i a done (Q : Except SqlException β → List E → Prop), Q (.ok (f i a)) done →
    (∀ e, Q (.error e) (done ++ [ledger.failed])) →
      (ledger.dbPermits may).wp (body i (rowOf a)) Q done

variable {body : ℕ → ResultRow D → DbProg D β} {f : ℕ → α → β} {rowOf : α → ResultRow D}

theorem reads_of_columns (hcolumns : ∀ i row, (body i row).Columns)
    (hread : ∀ i a, (body i (rowOf a)).read (fun _ _ => []) = .ok (f i a)) :
    ledger.Reads may body f rowOf :=
  fun i a _ _ hok herror => wp_columns hfailed (hcolumns i _) (hread i a) hok herror

variable (hbody : ledger.Reads may body f rowOf)

include hbody

theorem wp_forEach {rows : List α} {i : ℕ} {Q : Except SqlException (List β) → List E → Prop}
    (hall : Q (.ok ((rows.zipIdx i).map fun entry => f entry.2 entry.1)) done)
    (herror : ∀ e, Q (.error e) (done ++ [ledger.failed])) :
    (ledger.dbPermits may).wp (DbProg.forEach body i (rows.map rowOf)) Q done := by
  induction rows generalizing i Q with
  | nil => exact (wp_bind _ _).mpr (wp_column hfailed rfl hall herror)
  | cons a rows ih =>
    refine (wp_bind _ _).mpr (wp_column hfailed rfl ?_ herror)
    refine (wp_bind _ _).mpr (hbody i a done _ ?_ herror)
    exact (wp_bind _ _).mpr (ih hall herror)

/-- A query and its loop, outside of any `try`. -/
theorem wp_selectForEach {query : String} {params : List SqlParam} {event : List α → E}
    (hfind : ∀ tables choice rows e, ledger.find tables choice query params = some (rows, e) →
      ∃ found, rows = found.map rowOf ∧ e = some (event found))
    (hmay : ∀ found, may done (event found)) {Q : Except SqlException (List β) → List E → Prop}
    (hall : ∀ found, Q (.ok (found.zipIdx.map fun entry => f entry.2 entry.1))
      (done ++ [event found]))
    (herror : ∀ e, Q (.error e) (done ++ [ledger.failed]))
    (hlater : ∀ found e, Q (.error e) (done ++ [event found] ++ [ledger.failed])) :
    (ledger.dbPermits may).wp (DbProg.select query params >>= DbProg.forEach body 0) Q done := by
  refine (wp_bind _ _).mpr (wp_select hfailed ?_ herror ?_)
  · intro tables choice rows e h
    obtain ⟨found, -, he⟩ := hfind tables choice rows (some e) h
    exact Option.some.inj he ▸ hmay found
  · intro tables choice rows e h
    obtain ⟨found, rfl, rfl⟩ := hfind tables choice rows e h
    exact wp_forEach hfailed hbody (hall found) (hlater found)

/-- Where a call throws, what has been pushed stays. -/
theorem wp_pushEach {rows : List α} {i : ℕ} {before : List β}
    {Q : Except SqlException (List β) → List E → Prop}
    (hall : Q (.ok (before ++ (rows.zipIdx i).map fun entry => f entry.2 entry.1)) done)
    (hpart : ∀ l, l <+: before ++ ((rows.zipIdx i).map fun entry => f entry.2 entry.1) →
      Q (.ok l) (done ++ [ledger.failed])) :
    (ledger.dbPermits may).wp
      (TryBlock.catchFrom (TryBlock.pushEach body i (rows.map rowOf)) before) Q done := by
  induction rows generalizing i before with
  | nil =>
    rw [List.zipIdx_nil, List.map_nil, List.append_nil] at hall hpart
    exact (TryBlock.wp_catchFrom_last _).mpr
      (wp_column hfailed rfl hall fun _ => hpart before (List.prefix_refl before))
  | cons a rows ih =>
    have hstop : Q (.ok before) (done ++ [ledger.failed]) := hpart before (List.prefix_append _ _)
    rw [List.zipIdx_cons, List.map_cons, List.append_cons] at hall hpart
    refine (TryBlock.wp_catchFrom_db _ _).mpr (wp_column hfailed rfl ?_ fun _ => hstop)
    refine (TryBlock.wp_catchFrom_db _ _).mpr (hbody i a done _ ?_ fun _ => hstop)
    exact ih hall hpart

end Rules

/-- What is sent of a query: all that it has found, unless a call has thrown, and then the
beginning of it. -/
def Sends (failed : E) (done : List E) (event : List α → E) (shown : List α → List β)
    (sent : List β) : Prop :=
  (∃ found, event found ∈ done ∧ sent <+: shown found ∧ (sent = shown found ∨ failed ∈ done)) ∨
    sent = [] ∧ failed ∈ done

section Sends

variable {ledger : Ledger D σ ρ E} {may : List E → E → Prop} {failed : E} {done done' : List E}
  {event : List α → E} {shown : List α → List β} {sent : List β}

omit [Double D] in
theorem Sends.mono (h : Sends failed done event shown sent) (hbegin : done <+: done') :
    Sends failed done' event shown sent := by
  rcases h with ⟨found, hevent, hsent, hall⟩ | ⟨hsent, hfailed⟩
  · exact .inl ⟨found, hbegin.subset hevent, hsent, hall.imp_right (hbegin.subset ·)⟩
  · exact .inr ⟨hsent, hbegin.subset hfailed⟩

/-- A query and its loop. -/
theorem wp_selectEach (hfailed : ∀ done, may done ledger.failed)
    {body : ℕ → ResultRow D → DbProg D β} {f : ℕ → α → β} {rowOf : α → ResultRow D}
    (hbody : ledger.Reads may body f rowOf) {query : String} {params : List SqlParam}
    (hfind : ∀ tables choice rows e, ledger.find tables choice query params = some (rows, e) →
      ∃ found, rows = found.map rowOf ∧ e = some (event found))
    (hmay : ∀ found, may done (event found))
    (hshown : ∀ found, shown found = found.zipIdx.map fun entry => f entry.2 entry.1)
    {Q : Except SqlException (List β) → List E → Prop}
    (hQ : ∀ sent done', Sends ledger.failed done' event shown sent → done <+: done' →
      Q (.ok sent) done') :
    (ledger.dbPermits may).wp (DbProg.selectEach query params body) Q done := by
  have hnone : Q (.ok []) (done ++ [ledger.failed]) := hQ _ _
    (.inr ⟨rfl, List.mem_append_right _ List.mem_cons_self⟩) (List.prefix_append _ _)
  refine (TryBlock.wp_catchFrom_db _ _).mpr (wp_select hfailed ?_ (fun _ => hnone) ?_)
  · intro tables choice rows e h
    obtain ⟨found, -, he⟩ := hfind tables choice rows (some e) h
    exact Option.some.inj he ▸ hmay found
  · intro tables choice rows e h
    obtain ⟨found, rfl, rfl⟩ := hfind tables choice rows e h
    have hmem : event found ∈ done ++ [event found] := List.mem_append_right _ List.mem_cons_self
    refine wp_pushEach hfailed hbody ?_ fun l hl => ?_
    · rw [List.nil_append, ← hshown]
      exact hQ _ _ (.inl ⟨found, hmem, List.prefix_refl _, .inl rfl⟩) (List.prefix_append _ _)
    · rw [List.nil_append, ← hshown] at hl
      refine hQ _ _ (.inl ⟨found, List.mem_append_left _ hmem, hl, .inr ?_⟩) ?_
      · exact List.mem_append_right _ List.mem_cons_self
      · exact (List.prefix_append _ _).trans (List.prefix_append _ _)

end Sends

/-! #### Handlers -/

section Handlers

open Interface

variable {ledger : Ledger D σ ρ E} {may : List E → E → Prop} {done : List E}

/-- A value that is read off the body. -/
theorem wp_ofExcept_bind {x : Except String α} {f : α → Page D β}
    {Q : Except Exn β → List E → Prop}
    (herror : ∀ what, x = .error what → Q (.error (.std what)) done)
    (h : ∀ a, x = .ok a → (ledger.permits may).wp (f a) Q done) :
    (ledger.permits may).wp (Page.ofExcept x >>= f) Q done := by
  refine (wp_bind _ _).mpr ((wp_ofExcept _).mpr ?_)
  cases x with
  | ok a => exact h a rfl
  | error what => exact herror what rfl

/-- A packet; nothing is thrown. -/
theorem wp_reply {cmdId : CmdID} {body : Json D} (hmay : may done (ledger.sent cmdId (some body)))
    {Q : Except Exn Unit → List E → Prop} (hQ : ∀ done', Q (.ok ()) done') :
    (ledger.permits may).wp (Page.reply cmdId body) Q done := by
  refine wp_op.mpr ⟨fun r event hdoes => ?_, fun r done' hpost => ?_⟩
  · cases r with
    | ok a =>
      obtain rfl := Option.some.inj hdoes
      exact hmay
    | error e => cases hdoes.1
  · obtain ⟨event, hdoes, rfl⟩ := hpost
    cases r with
    | ok a => exact hQ _
    | error e => cases hdoes.1

section Bodies

variable {text : JsonParser D} {jsonBody : String}

omit [Double D] in
theorem parse_eq {req : Json D} (h : text.read jsonBody = .ok req) :
    text.parse jsonBody = some req := by
  rw [JsonParser.read] at h
  split at h
  · next j hparse => exact hparse.trans (congrArg some (Except.ok.inj h))
  · cases h

omit [Double D] in
theorem parse_none {what : String} (h : text.read jsonBody = .error what) :
    text.parse jsonBody = none := by
  rw [JsonParser.read] at h
  split at h
  · cases h
  · next hparse => exact hparse

omit [Double D] in
theorem eq_ok {x : Except JsonError α} {a : α} (h : text.convert x = .ok a) : x = .ok a := by
  cases x with
  | ok b => exact congrArg Except.ok (Except.ok.inj h)
  | error e => cases h

omit [Double D] in
theorem eq_error {x : Except JsonError α} {what : String} (h : text.convert x = .error what) :
    ∃ e, x = .error e := by
  cases x with
  | ok b => cases h
  | error e => exact ⟨e, rfl⟩

end Bodies

omit [Double D] in
theorem readAs_eq {text : JsonParser D} {decode : Json D → Except JsonError α} {jsonBody : String}
    {req : Json D} {a : α} (hread : text.read jsonBody = .ok req)
    (hdecode : text.convert (decode req) = .ok a) : text.readAs decode jsonBody = .ok a := by
  rw [JsonParser.readAs, hread]
  exact hdecode

end Handlers

/-! ### Runs -/

section Runs

open Transition

variable {ledger : Ledger D σ ρ E} {told : σ → List (ι × E) → Prop}
  {meant : List (ι × E) → E → Prop}

variable (ledger told meant) in
/-- What the journal tells of the tables, and what its events mean after the ones before them. -/
structure Tells : Prop where
  write : ∀ {tables log choice query params n event}, told tables log →
    ledger.write tables choice query params = some (n, some event) → meant log event
  find : ∀ {tables log choice query params rows event}, told tables log →
    ledger.find tables choice query params = some (rows, some event) → meant log event
  sent : ∀ log cmdId body, meant log (ledger.sent cmdId body)
  failed : ∀ log, meant log ledger.failed
  after : ∀ {tables log} choice t {event}, told tables log → meant log event →
    told (ledger.after tables choice event) (log ++ [(t, event)])

/-- A call does what it can, and means it. -/
theorem does_of_exec (h : Tells ledger told meant) {t : ι} {o : PageOp D} {reply : Reply D ρ}
    {w w' : World ι σ E} {r : Except Exn o.Res} (htold : told w.tables w.log)
    (hexec : ledger.exec t o reply w = some (r, w')) :
    ∃ event, ledger.Does o r event ∧ (∀ e ∈ event, meant w.log e) ∧
      w' = ledger.happen t reply.choice w event := by
  unfold exec at hexec
  cases hthrows : reply.throws with
  | some e =>
    simp only [hthrows] at hexec
    obtain ⟨hmay, heq⟩ := Option.ite_none_right_eq_some.mp hexec
    cases heq
    refine ⟨some ledger.failed, does_error hmay, fun e he => ?_, rfl⟩
    exact Option.mem_some_iff.mp he ▸ h.failed _
  | none =>
    simp only [hthrows] at hexec
    cases o with
    | db o =>
      cases o with
      | executeUpdate query params =>
        obtain ⟨⟨n, event⟩, hwrite, heq⟩ := Option.map_eq_some_iff.mp hexec
        cases heq
        refine ⟨event, ⟨_, _, hwrite⟩, fun e he => ?_, rfl⟩
        obtain rfl := Option.mem_def.mp he
        exact h.write htold hwrite
      | executeQuery query params =>
        obtain ⟨⟨rows, event⟩, hfind, heq⟩ := Option.map_eq_some_iff.mp hexec
        cases heq
        refine ⟨event, ⟨_, _, hfind⟩, fun e he => ?_, rfl⟩
        obtain rfl := Option.mem_def.mp he
        exact h.find htold hfind
      | _ =>
        cases hexec
        exact ⟨none, ⟨rfl, rfl⟩, fun e he => absurd he (Option.not_mem_none e), rfl⟩
    | sendPacket cmdId body =>
      cases hexec
      refine ⟨_, rfl, fun e he => ?_, rfl⟩
      exact Option.mem_some_iff.mp he ▸ h.sent _ _ _
    | _ =>
      cases hexec
      exact ⟨none, rfl, fun e he => absurd he (Option.not_mem_none e), rfl⟩

variable [DecidableEq ι] {may : ι → List E → E → Prop} {failed : E}

variable (meant may) in
/-- What is known of an entry and the ones before it: that its page may do this, and what it
means. -/
structure Entry (before : List (ι × E)) (entry : ι × E) : Prop where
  allowed : may entry.1 (own before entry.1) entry.2
  meant : meant before entry.2

/-- **Every state of a run** is as the journal tells, whose entries are what the pages may do. -/
theorem always_recorded (h : Tells ledger told meant) {todo : ι → Page D Unit} {tables : σ}
    (hstart : told tables [])
    (htodo : ∀ t, (ledger.permits (may t)).wp (todo t) (fun _ _ => True) [])
    (l : List (ι × Reply D ρ)) :
    Always (Threads.step ledger.exec)
      (fun s => told s.world.tables s.world.log ∧ Throughout (Entry meant may) s.world.log)
      ⟨todo, ⟨tables, []⟩⟩ l := by
  have hsafe : Always (Threads.step ledger.exec)
      (Threads.Safe (fun t => ledger.permits (may t))
        (fun w done => (told w.tables w.log ∧ Throughout (Entry meant may) w.log) ∧
          done = own w.log) fun _ _ _ => True)
      ⟨todo, ⟨tables, []⟩⟩ l := by
    refine always_of_forall (fun s a s' hs hstep => ?_)
      ⟨fun _ => [], ⟨⟨hstart, throughout_nil⟩, rfl⟩, htodo⟩
    refine Threads.Safe.step (fun w done t o reply r w' hJ hpre hexec => ?_) hs hstep
    obtain ⟨⟨htold, hentries⟩, rfl⟩ := hJ
    obtain ⟨event, hdoes, hmeant, rfl⟩ := does_of_exec h htold hexec
    refine ⟨_, ⟨event, hdoes, rfl⟩, ?_⟩
    cases event with
    | none =>
      refine ⟨⟨htold, hentries⟩, ?_⟩
      rw [Option.toList_none, List.append_nil, Function.update_eq_self]
      rfl
    | some event =>
      have hevent := hmeant event rfl
      refine ⟨⟨h.after reply.choice t htold hevent, ?_⟩, (own_concat [event]).symm⟩
      exact throughout_concat.mpr ⟨hentries, hpre r event hdoes, hevent⟩
  refine hsafe.mono ?_
  rintro s ⟨done, ⟨htold, -⟩, -⟩
  exact htold

/-- A list that a page has sent was found in an earlier state of the run. -/
theorem found_earlier {event : List α → E} {shown : List α → List β} {sent : List β} {t : ι}
    {before : List (ι × E)} (h : Throughout (Entry meant may) before)
    (hsends : Sends failed (own before t) event shown sent) :
    sent = [] ∧ (t, failed) ∈ before ∨ ∃ earlier found later,
      before = earlier ++ (t, event found) :: later ∧ meant earlier (event found) ∧
        sent <+: shown found ∧ (sent = shown found ∨ (t, failed) ∈ before) := by
  rcases hsends with ⟨found, hfound, hbegin, hall⟩ | ⟨hsent, hfailed⟩
  · obtain ⟨earlier, later, heq⟩ := List.append_of_mem (mem_own.mp hfound)
    exact .inr ⟨earlier, found, later, heq, (h earlier _ later heq).meant, hbegin,
      hall.imp_right mem_own.mp⟩
  · exact .inl ⟨hsent, mem_own.mp hfailed⟩

end Runs

end Ledger

end ItsBedalyo.Pages
