import ItsBedalyo.Database.ResultSets
import ItsBedalyo.Handler.Page

/-!
# Pages whose calls may throw

A page over calls that return what `answer` says or throw, and what it is when none throws. The
calls of the database come as a program of their own (`wp_db_faults`, `eval_db`), and the trace
tells what has been called there and what has been sent.
-/

namespace ItsBedalyo

open Interface hiding wp_op
open Faults

variable {D α : Type}

/-- The calls of the database and of the DAO classes may throw a `sql::SQLException`. -/
def PageOp.mayThrow : PageOp D → Exn → Bool
  | .db _, .sql _ => true
  | .account _, .sql _ => true
  | _, _ => false

namespace Pages

variable {answer : (o : PageOp D) → o.Res}

/-- A page, whose calls return what `answer` says or throw. -/
abbrev pageFaults (answer : (o : PageOp D) → o.Res) :
    Interface (@PageOp.Res D) Exn (Trace (PageOp D)) := faulty answer PageOp.mayThrow

/-- What it calls of the database. -/
abbrev dbFaults (answer : (o : PageOp D) → o.Res) :
    Interface (@DbOp.Res D) SqlException (Trace (DbOp D)) :=
  faulty (fun o => answer (.db o)) fun _ _ => true

/-- The calls of the database as calls of a page. -/
def lift (tr : Trace (DbOp D)) : Trace (PageOp D) := tr.map (Prod.map PageOp.db id)

@[simp] theorem failed_lift {tr : Trace (DbOp D)} : Failed (lift tr) ↔ Failed tr := failed_map

theorem wp_db_faults {p : DbProg D α} {Q : Except Exn α → Trace (PageOp D) → Prop}
    {tr : Trace (PageOp D)} : (pageFaults answer).wp (Page.db p) Q tr ↔
      (dbFaults answer).wp p (fun r seg => Q (r.mapError fun e => .sql e.what) (tr ++ lift seg))
        [] := by
  induction p generalizing tr with
  | ret a =>
    show Q _ tr ↔ Q _ (tr ++ [])
    rw [List.append_nil]
    exact Iff.rfl
  | fail e =>
    show Q _ tr ↔ Q _ (tr ++ [])
    rw [List.append_nil]
    exact Iff.rfl
  | call o k ih =>
    rw [Page.db, wp_call, wp_call]
    conv_rhs => lhs; rw [wp_iff_nil]
    rw [ih]
    refine and_congr ?_ ⟨fun h err _ => ?_, fun h err hthrow => ?_⟩
    · simp [lift]
    · rw [wp_iff_nil]
      simpa [lift] using (ih _).mp (h (.sql err.what) rfl)
    · cases err with
      | sql what =>
        have hfail := h ⟨what⟩ rfl
        rw [wp_iff_nil] at hfail
        exact (ih _).mpr (by simpa [lift] using hfail)
      | std what => cases hthrow

/-- The calls of the database. -/
def calls (tr : Trace (PageOp D)) : Trace (DbOp D) :=
  tr.filterMap fun
    | (.db o, b) => some (o, b)
    | _ => none

@[simp] theorem calls_append (tr tr' : Trace (PageOp D)) :
    calls (tr ++ tr') = calls tr ++ calls tr' := List.filterMap_append ..

@[simp] theorem calls_lift (tr : Trace (DbOp D)) : calls (lift tr) = tr := by
  rw [calls, lift, List.filterMap_map]
  exact List.filterMap_some

/-- What has been sent. -/
def sent (tr : Trace (PageOp D)) : List (CmdID × Option (Json D)) :=
  tr.filterMap fun
    | (.sendPacket cmdId body, _) => some (cmdId, body)
    | _ => none

@[simp] theorem sent_append (tr tr' : Trace (PageOp D)) : sent (tr ++ tr') = sent tr ++ sent tr' :=
  List.filterMap_append ..

@[simp] theorem sent_lift (tr : Trace (DbOp D)) : sent (lift tr) = [] := by
  rw [sent, lift, List.filterMap_map]
  exact List.filterMap_eq_nil_iff.mpr fun _ _ => rfl

section Reply

variable (tr : Trace (DbOp D)) (cmdId : CmdID) (body : Option (Json D))

@[simp] theorem sent_lift_reply :
    sent (lift tr ++ [(.sendPacket cmdId body, true)]) = [(cmdId, body)] := by
  rw [sent_append, sent_lift]
  rfl

@[simp] theorem calls_lift_reply : calls (lift tr ++ [(.sendPacket cmdId body, true)]) = tr := by
  rw [calls_append, calls_lift]
  exact List.append_nil tr

@[simp] theorem failed_lift_reply :
    Failed (lift tr ++ [(.sendPacket cmdId body, true)]) ↔ Failed tr := by
  simp

end Reply

/-! ### Without faults -/

/-- The calls of the database when none throws. -/
@[simp] theorem eval_db (p : DbProg D α) : (Page.db p).eval answer =
    (p.eval fun o => answer (.db o)).map (Except.mapError fun e => .sql e.what)
      (List.map PageOp.db) := by
  induction p with
  | ret a => rfl
  | fail e => rfl
  | call o k ih =>
    rw [Page.db, Prog.eval, Prog.eval, ih]
    rfl

/-- The calls of the database, one program after another. -/
theorem db_bind {β : Type} (p : DbProg D α) (f : α → DbProg D β) :
    Page.db (p >>= f) = Page.db p >>= fun a => Page.db (f a) := by
  induction p with
  | ret a => rfl
  | fail e => rfl
  | call o k ih =>
    show Page.db (.call o fun r => k r >>= f) = _
    rw [Page.db, Page.db]
    refine congrArg (Prog.call (PageOp.db o)) (funext fun r => ?_)
    rcases r with (what | what) | a
    · exact ih _
    · rfl
    · exact ih _

section Evaluation

open Page

@[simp] theorem ok_bind {ε α β : Type} (a : α) (f : α → Except ε β) : (.ok a >>= f) = f a := rfl

@[simp] theorem error_bind {ε α β : Type} (e : ε) (f : α → Except ε β) :
    (.error e >>= f) = .error e := rfl

variable (answer : (o : PageOp D) → o.Res) (text : JsonParser D) (jsonBody : String)

@[simp] theorem eval_parse :
    (parse text jsonBody).eval answer = ((text.read jsonBody).mapError .std, []) :=
  Prog.eval_ofExcept answer _

@[simp] theorem eval_convert (x : Except JsonError α) :
    (Page.ofExcept (text.convert x)).eval answer =
      (x.mapError fun e => .std (text.conversionError e), []) := by
  cases x <;> rfl

@[simp] theorem eval_value [JsonCodec D α] (req : Json D) (key : String) (default : α) :
    (value text req key default).eval answer =
      ((req.value key default).mapError fun e => .std (text.conversionError e), []) :=
  eval_convert answer text _

@[simp] theorem eval_sendPacket (cmdId : CmdID) (body : Option (Json D)) :
    (sendPacket cmdId body).eval answer = (.ok (), [.sendPacket cmdId body]) := rfl

@[simp] theorem eval_update (answer : (o : DbOp D) → o.Res) (query : String)
    (params : List SqlParam) : (DbProg.update query params).eval answer =
      (.ok (answer (.executeUpdate query params)),
        [.prepareStatement query, .executeUpdate query params]) := rfl

/-- `executeUpdate` of the DAO classes is `true` whatever the number of rows. -/
@[simp] theorem eval_executeUpdate (answer : (o : DbOp D) → o.Res) (query : String)
    (params : List String) : (executeUpdate query params).eval answer =
      (.ok true, [.prepareStatement query, .executeUpdate query (params.map .string)]) := rfl

/-- A body that parses is read as its JSON value is. -/
theorem toOption_readAs {decode : Json D → Except JsonError α} {req : Json D}
    (hread : text.read jsonBody = .ok req) :
    (text.readAs decode jsonBody).toOption = (decode req).toOption := by
  rw [JsonParser.readAs, hread, ok_bind, JsonParser.convert]
  cases decode req <;> rfl

theorem toOption_readAs_of_error {decode : Json D → Except JsonError α} {what : String}
    (hread : text.read jsonBody = .error what) :
    (text.readAs decode jsonBody).toOption = none := by
  rw [JsonParser.readAs, hread]
  rfl

end Evaluation

/-! ### Pages that read -/

section Reading

variable [Double D] (rows : String → List SqlParam → List (ResultRow D))
  (others : (o : PageOp D) → o.Res)

/-- Calls of which those of the database find `rows`. -/
def reading : (o : PageOp D) → o.Res
  | .db o => readOnly rows o
  | o => others o

theorem eval_db_reading {p : DbProg D α} {a : α} (h : p.read rows = .ok a) :
    ∃ ops : List (DbOp D), (Page.db p).eval (reading rows others) = (.ok a, ops.map PageOp.db) := by
  have hp : (p.eval fun o => reading rows others (.db o)).1 = .ok a := h
  exact ⟨_, (eval_db p).trans (Prod.ext (congrArg (Except.mapError _) hp) rfl)⟩

/-- Calls that return nothing in particular. -/
def idle : (o : PageOp D) → o.Res
  | .db o => readOnly (fun _ _ => []) o
  | .account (.executeQuery (.countUserId _)) | .account (.executeQuery (.countPhoneAndRole _ _)) =>
    (0 : ℕ)
  | .account (.executeQuery .lastInsertId) => (0 : ℤ)
  | .account (.executeQuery (.isDefault _ _)) => (none : Option ℤ)
  | .account (.executeQuery (.addressOf _)) => (none : Option String)
  | .account (.executeUpdate _) => (0 : ℕ)
  | .account (.setAutoCommit _) | .account .prepareStatement | .account .commit
  | .account .rollback | .account (.sendPacket _) => ()
  | .getUserId | .getCurrentDate => ""
  | .uninitialised .int => (0 : Int32)
  | .uninitialised .bool => false
  | .uninitialised .double => Double.zero
  | .authenticate _ _ | .registerUser _ _ | .sendPacket _ _ => ()

end Reading

end Pages

/-- A JSON library that knows one text. -/
def JsonParser.knowing (body : String) (j : Json Float) : JsonParser Float where
  parse s := if s = "[]" then some (.array []) else if s = body then some j else none
  dump _ := ""
  parse_brackets := rfl
  nul_not_mem_dump := JsonText.nul_not_mem_empty
  parseError _ := "parse error"
  quotesUtf8 _ := true
  conversionError _ := "type error"

theorem JsonParser.read_knowing {body : String} (j : Json Float) (h : body ≠ "[]") :
    (JsonParser.knowing body j).read body = .ok j := by
  simp [JsonParser.read, JsonParser.knowing, h]

end ItsBedalyo
