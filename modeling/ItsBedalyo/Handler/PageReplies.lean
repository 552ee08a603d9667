import ItsBedalyo.Handler.Tally

/-!
# How often a page answers

Code of a page `Sends` a number of packets of a command if it sends them unless it throws, and none
if it does; it `Answers` with them if it does not throw. What the database and the DAO classes
answer is of no account, since nothing is sent there.
-/

namespace ItsBedalyo

open Interface

variable {D α β : Type} {cmdId : CmdID} {n : ℕ} {t : Tally}

/-! ### The calls -/

/-- The calls of the database on their own. -/
theorem wp_db {p : DbProg D α} {Q : Except Exn α → Tally → Prop} :
    pageTally.wp (Page.db p) Q t ↔
      dbTally.wp p (fun r t' => Q (r.mapError fun e => .sql e.what) t') t := by
  induction p generalizing t with
  | ret a => exact Iff.rfl
  | fail e => exact Iff.rfl
  | call o k ih =>
    rw [Page.db]
    constructor
    · rintro ⟨-, h⟩
      refine ⟨trivial, fun r t' hpost => ?_⟩
      cases r with
      | ok a => exact (ih _).mp (h (.ok a) t' hpost)
      | error e => exact (ih _).mp (h (.error (.sql e.what)) t' hpost)
    · rintro ⟨-, h⟩
      refine ⟨trivial, fun r t' hpost => ?_⟩
      cases r with
      | ok a => exact (ih _).mpr (h (.ok a) t' hpost)
      | error e =>
        cases e with
        | sql what => exact (ih _).mpr (h (.error ⟨what⟩) t' hpost)
        | std what => exact hpost.elim

theorem readText_sent (t : Tally) (column text : String) :
    (t.readText column text).sent = t.sent := by
  unfold Tally.readText
  split <;> rfl

theorem dbTally_sent {o : DbOp D} {r : Except SqlException o.Res} {t t' : Tally}
    (h : dbTally.post t o r t') : t'.sent = t.sent := by
  cases r with
  | error e =>
    obtain rfl : t' = t.fail := by cases o <;> exact h
    rfl
  | ok a =>
    cases o with
    | getString row column =>
      obtain rfl : t' = t.readText column a := h
      exact readText_sent t column a
    | executeUpdate query params =>
      obtain rfl : t' = t.updated a := h
      exact updated_sent t a
    | _ =>
      obtain rfl : t' = t := h
      rfl

theorem accountTally_sent {o : DaoOp AccountStatement AccountQuery Empty}
    {r : Except Exn (o.Res AccountQuery.Answer)} {t t' : Tally}
    (h : (accountTally cmdId).post t o r t') : t'.sent = t.sent := by
  cases o with
  | sendPacket reply => exact reply.elim
  | executeUpdate stmt =>
    cases r with
    | ok rows =>
      obtain rfl : t' = t.updated rows := h
      exact updated_sent t rows
    | error e =>
      obtain rfl : t' = t.fail := h
      rfl
  | rollback =>
    cases r with
    | ok a =>
      obtain rfl : t' = t.rollBack := h
      rfl
    | error e =>
      obtain rfl : t' = t.failRollback := h
      rfl
  | setAutoCommit on =>
    cases r with
    | ok a =>
      obtain rfl : t' = t := h
      rfl
    | error e =>
      obtain rfl : t' = t.failAutoCommit := h
      rfl
  | _ =>
    cases r with
    | ok a =>
      obtain rfl : t' = t := h
      rfl
    | error e =>
      obtain rfl : t' = t.fail := h
      rfl

/-- The database is no reason to send anything. -/
theorem wp_db_sent (p : DbProg D α) :
    pageTally.wp (Page.db p) (fun _ t' => t'.sent = t.sent) t := by
  refine wp_db.mpr (wp_invariant (fun _ _ _ => trivial) (fun _ _ _ _ hsent hpost => ?_) p rfl)
  exact (dbTally_sent hpost).trans hsent

/-- Neither are the DAO classes. -/
theorem wp_account_sent (p : AccountDao Empty α) :
    pageTally.wp (Page.account p : Page D α) (fun _ t' => t'.sent = t.sent) t := by
  refine wp_embed.mpr (wp_invariant (fun _ _ _ => trivial) (fun _ _ _ _ hsent hpost => ?_) p rfl)
  exact (accountTally_sent hpost).trans hsent

/-! ### Counting -/

/-- The code sends `n` packets `cmdId` if it returns, and none if it throws. -/
def Sends (cmdId : CmdID) (n : ℕ) (p : Page D α) : Prop :=
  ∀ t, pageTally.wp p (fun r t' => t'.sent.count cmdId =
    t.sent.count cmdId + match r with | .ok _ => n | .error _ => 0) t

/-- The code returns, and sends `n` packets `cmdId`. -/
def Answers (cmdId : CmdID) (n : ℕ) (p : Page D α) : Prop :=
  ∀ t, pageTally.wp p (fun r t' =>
    (∃ a, r = .ok a) ∧ t'.sent.count cmdId = t.sent.count cmdId + n) t

namespace Answers

variable {p : Page D α} {f : α → Page D β}

protected theorem pure (a : α) : Answers cmdId 0 (pure a : Page D α) :=
  fun _ => ⟨⟨a, rfl⟩, rfl⟩

theorem sends (h : Answers cmdId n p) : Sends cmdId n p := by
  refine fun t => wp_mono (fun r t' hr => ?_) (h t)
  obtain ⟨⟨a, rfl⟩, hcount⟩ := hr
  exact hcount

theorem bind (hp : Answers cmdId 0 p) (hf : ∀ a, Answers cmdId n (f a)) :
    Answers cmdId n (p >>= f) := by
  refine fun t => (wp_bind _ _).mpr (wp_mono (fun r t' hr => ?_) (hp t))
  obtain ⟨⟨a, rfl⟩, hcount⟩ := hr
  refine wp_mono (fun r' t'' hr' => ⟨hr'.1, ?_⟩) (hf a t')
  rw [hr'.2, hcount, add_zero]

/-- `try { … } catch { … }`, where the `catch` sends what the `try` has not. -/
theorem tryCatch {h : Exn → Page D α} (hp : Sends cmdId n p) (hh : ∀ e, Answers cmdId n (h e)) :
    Answers cmdId n (tryCatch p h) := by
  refine fun t => (wp_tryCatch _ _).mpr (wp_mono (fun r t' hr => ?_) (hp t))
  cases r with
  | ok a => exact ⟨⟨a, rfl⟩, hr⟩
  | error e =>
    refine wp_mono (fun r' t'' hr' => ⟨hr'.1, ?_⟩) (hh e t')
    rw [hr'.2, hr, add_zero]

theorem answeredIff {p : Page D Unit} (hp : Answers cmdId 1 p) :
    AnsweredIff pageTally p cmdId fun _ => True := by
  refine wp_mono (fun r t hr => ?_) (hp {})
  simpa using hr.2

/-- A packet of another command. -/
theorem other {c : CmdID} (hc : c ≠ cmdId) (body : Json D) :
    Answers cmdId 0 (Page.reply c body) := by
  refine fun t => wp_op.mpr ⟨trivial, fun r t' hr => ?_⟩
  obtain ⟨rfl, rfl⟩ := hr
  refine ⟨⟨(), rfl⟩, ?_⟩
  simp [Tally.send, hc]

theorem reply (cmdId : CmdID) (body : Json D) : Answers cmdId 1 (Page.reply cmdId body) := by
  refine fun t => wp_op.mpr ⟨trivial, fun r t' hr => ?_⟩
  obtain ⟨rfl, rfl⟩ := hr
  refine ⟨⟨(), rfl⟩, ?_⟩
  simp [Tally.send]

/-- A DAO function that catches what it throws. -/
theorem db {p : DbProg D α} (hp : p.Returns) : Answers cmdId 0 (Page.db p) := by
  refine fun t => wp_db.mpr (wp_mono (fun r t' hr => ?_) (hp.wp (wp_db.mp (wp_db_sent p))))
  obtain ⟨⟨a, rfl⟩, hsent⟩ := hr
  exact ⟨⟨a, rfl⟩, congrArg (List.count cmdId) hsent⟩

/-- A call that is none of a DAO class and sends nothing. -/
theorem op {o : PageOp D} (ho : ∀ t r t', pageTally.post t o r t' → (∃ a, r = .ok a) ∧ t' = t) :
    Answers cmdId 0 (Prog.op o) := by
  refine fun t => wp_op.mpr ⟨trivial, fun r t' hr => ?_⟩
  obtain ⟨hok, rfl⟩ := ho t r t' hr
  exact ⟨hok, rfl⟩

theorem uninitialised : Answers cmdId 0 (Page.uninitialised : Page D Int32) :=
  op fun _ _ _ h => h

theorem uninitialisedBool : Answers cmdId 0 (Page.uninitialisedBool : Page D Bool) :=
  op fun _ _ _ h => h

theorem uninitialisedDouble : Answers cmdId 0 (Page.uninitialisedDouble : Page D D) :=
  op fun _ _ _ h => h

theorem getUserId : Answers cmdId 0 (Page.getUserId : Page D String) := op fun _ _ _ h => h

theorem getCurrentDate : Answers cmdId 0 (Page.getCurrentDate : Page D String) :=
  op fun _ _ _ h => h

theorem authenticate (userId : String) (role : Int32) :
    Answers cmdId 0 (Page.authenticate userId role : Page D Unit) :=
  op fun _ _ _ h => h

theorem registerUser (userId : String) (role : Int32) :
    Answers cmdId 0 (Page.registerUser userId role : Page D Unit) :=
  op fun _ _ _ h => h

end Answers

namespace Sends

variable {p : Page D α} {f : α → Page D β}

theorem bind (hp : Sends cmdId 0 p) (hf : ∀ a, Sends cmdId n (f a)) :
    Sends cmdId n (p >>= f) := by
  refine fun t => (wp_bind _ _).mpr (wp_mono (fun r t' hr => ?_) (hp t))
  cases r with
  | error e => exact hr
  | ok a =>
    refine wp_mono (fun r' t'' hr' => ?_) (hf a t')
    rw [hr', hr, add_zero]

/-- What follows a packet must not throw. -/
theorem andThen (hp : Sends cmdId n p) (hf : ∀ a, Answers cmdId 0 (f a)) :
    Sends cmdId n (p >>= f) := by
  refine fun t => (wp_bind _ _).mpr (wp_mono (fun r t' hr => ?_) (hp t))
  cases r with
  | error e => exact hr
  | ok a =>
    refine wp_mono (fun r' t'' hr' => ?_) (hf a t')
    obtain ⟨⟨b, rfl⟩, hcount⟩ := hr'
    rw [hcount, hr, add_zero]

protected theorem pure (a : α) : Sends cmdId 0 (pure a : Page D α) := (Answers.pure a).sends

theorem ofExcept (x : Except String α) : Sends cmdId 0 (Page.ofExcept x : Page D α) := by
  refine fun t => (wp_ofExcept _).mpr ?_
  cases x <;> rfl

theorem reply (cmdId : CmdID) (body : Json D) : Sends cmdId 1 (Page.reply cmdId body) :=
  (Answers.reply cmdId body).sends

theorem db (p : DbProg D α) : Sends cmdId 0 (Page.db p) := by
  refine fun t => wp_mono (fun r t' hsent => ?_) (wp_db_sent p)
  rw [hsent]
  cases r <;> rfl

theorem account (p : AccountDao Empty α) : Sends cmdId 0 (Page.account p : Page D α) := by
  refine fun t => wp_mono (fun r t' hsent => ?_) (wp_account_sent p)
  rw [hsent]
  cases r <;> rfl

end Sends

/-! ### DAO functions that catch what they throw -/

theorem catchSql_returns (body : DbProg D α) (otherwise : α) :
    (DbProg.catchSql body otherwise).Returns :=
  Prog.returns_tryCatch body fun _ => trivial

theorem catchFrom_returns {σ : Type} (body : TryBlock D σ Unit) (s : σ) :
    (TryBlock.catchFrom body s).Returns := by
  induction body generalizing s with
  | ret a => trivial
  | fail e => trivial
  | call o k ih =>
    cases o with
    | db o => exact fun r => ih r s
    | assign f => exact ih (.ok ()) (f s)

theorem selectEach_returns (query : String) (params : List SqlParam)
    (body : ℕ → ResultRow D → DbProg D α) : (DbProg.selectEach query params body).Returns :=
  catchFrom_returns _ _

/-! ### The parts of a body -/

/-- Nothing but the parsing is outside the `try`. -/
theorem parse_answeredIff (text : JsonParser D) (jsonBody : String) {f : Json D → Page D Unit}
    (hf : ∀ req, Answers cmdId 1 (f req)) :
    AnsweredIff pageTally (Page.parse text jsonBody >>= f) cmdId
      fun _ => IsOk (text.read jsonBody) := by
  refine (wp_bind _ _).mpr ((wp_ofExcept _).mpr ?_)
  cases text.read jsonBody with
  | error what => simp [Except.mapError]
  | ok req =>
    refine wp_mono (fun r t hr => ?_) (hf req {})
    simpa using hr.2

/-- The code answers if there is a value, and throws with nothing sent if there is none. -/
def AnswersIf {β : Type} (cmdId : CmdID) (read : Except String β) (p : Page D Unit) : Prop :=
  ∀ t, pageTally.wp p (fun _ t' => t'.sent.count cmdId =
    t.sent.count cmdId + match read with | .ok _ => 1 | .error _ => 0) t

theorem AnswersIf.last {x : Except String α} {f : α → Page D Unit}
    (hf : ∀ a, Answers cmdId 1 (f a)) : AnswersIf cmdId x (Page.ofExcept x >>= f) := by
  refine fun t => (wp_bind _ _).mpr ((wp_ofExcept _).mpr ?_)
  cases x with
  | error what => rfl
  | ok a => exact wp_mono (fun _ _ hr => hr.2) (hf a t)

theorem AnswersIf.bind {x : Except String α} {f : α → Page D Unit} {y : α → Except String β}
    (hf : ∀ a, AnswersIf cmdId (y a) (f a)) :
    AnswersIf cmdId (x >>= y) (Page.ofExcept x >>= f) := by
  refine fun t => (wp_bind _ _).mpr ((wp_ofExcept _).mpr ?_)
  cases x with
  | error what => rfl
  | ok a => exact hf a t

/-- Whatever was thrown is dropped. -/
theorem AnswersIf.answeredIff {read : Except String β} {p : Page D Unit}
    (hp : AnswersIf cmdId read p) :
    AnsweredIff pageTally (tryCatch p fun _ => pure ()) cmdId fun _ => IsOk read := by
  refine (wp_tryCatch _ _).mpr (wp_mono (fun r t hcount => ?_) (hp {}))
  have hread : t.sent.count cmdId = 1 ↔ IsOk read := by
    rw [hcount]
    cases read <;> simp
  cases r <;> exact hread

/-- Two fields are read one after the other. -/
theorem AnswersIf.two (text : JsonParser D) {x : Except JsonError α} {y : Except JsonError β}
    {f : α → β → Page D Unit} (hf : ∀ a b, Answers cmdId 1 (f a b)) :
    AnswersIf cmdId (text.convert (do let a ← x; let b ← y; pure (a, b)))
      (Page.ofExcept (text.convert x) >>= fun a => Page.ofExcept (text.convert y) >>= f a) := by
  cases x with
  | error e => exact fun t => rfl
  | ok a =>
    cases y with
    | error e => exact fun t => rfl
    | ok b => exact fun t => wp_mono (fun _ _ hr => hr.2) (hf a b t)

/-! ### Reading -/

/-- Code that reads: it may fail, and leaves no other trace. -/
def Plain (p : DbProg D α) : Prop :=
  ∀ t, dbTally.wp p (fun r t' => t' = match r with | .ok _ => t | .error _ => t.fail) t

namespace Plain

protected theorem pure (a : α) : Plain (pure a : DbProg D α) := fun _ => rfl

theorem bind {p : DbProg D α} {f : α → DbProg D β} (hp : Plain p) (hf : ∀ a, Plain (f a)) :
    Plain (p >>= f) := by
  refine fun t => (wp_bind _ _).mpr (wp_mono (fun r t' hr => ?_) (hp t))
  cases r with
  | error e => exact hr
  | ok a =>
    obtain rfl : t' = t := hr
    exact hf a t'

theorem op {o : DbOp D} (hok : ∀ t a t', dbTally.post t o (.ok a) t' → t' = t)
    (herror : ∀ t e t', dbTally.post t o (.error e) t' → t' = t.fail) : Plain (Prog.op o) := by
  refine fun t => wp_op.mpr ⟨trivial, fun r t' hr => ?_⟩
  cases r with
  | ok a => exact hok t a t' hr
  | error e => exact herror t e t' hr

theorem getInt (row : ResultRow D) (column : String) : Plain (DbProg.getInt row column) :=
  op (fun _ _ _ h => h) fun _ _ _ h => h

theorem next : Plain (DbProg.next : DbProg D Unit) := op (fun _ _ _ h => h) fun _ _ _ h => h

theorem isNull (row : ResultRow D) (column : String) : Plain (DbProg.isNull row column) :=
  op (fun _ _ _ h => h) fun _ _ _ h => h

/-- Only the number of a card is of interest. -/
theorem getString (row : ResultRow D) {column : String} (hcolumn : column ≠ "card_number") :
    Plain (DbProg.getString row column) :=
  op (fun _ _ _ h => h.trans (if_neg fun hread => hcolumn hread.1)) fun _ _ _ h => h

theorem select (query : String) (params : List SqlParam) :
    Plain (DbProg.select query params : DbProg D _) :=
  bind (op (fun _ _ _ h => h) fun _ _ _ h => h) fun _ => op (fun _ _ _ h => h) fun _ _ _ h => h

theorem first (rows : List (ResultRow D)) : Plain (DbProg.first rows) :=
  bind next fun _ => .pure _

theorem stringOr (row : ResultRow D) {column : String} (otherwise : String)
    (hcolumn : column ≠ "card_number") : Plain (DbProg.stringOr row column otherwise) := by
  refine bind (isNull row column) fun null => ?_
  cases null
  · exact getString row hcolumn
  · exact .pure _

theorem forEach {body : ℕ → ResultRow D → DbProg D α} (hbody : ∀ i row, Plain (body i row)) (i : ℕ)
    (rows : List (ResultRow D)) : Plain (DbProg.forEach body i rows) := by
  induction rows generalizing i with
  | nil => exact bind next fun _ => .pure _
  | cons row rows ih =>
    exact bind next fun _ => bind (hbody i row) fun _ => bind (ih (i + 1)) fun _ => .pure _

end Plain

/-- After code that leaves no trace. -/
theorem wp_plain_bind {p : DbProg D α} (hp : Plain p) {f : α → DbProg D β}
    {Q : Except SqlException β → Tally → Prop} {t : Tally} (herror : ∀ e, Q (.error e) t.fail)
    (hf : ∀ a, dbTally.wp (f a) Q t) : dbTally.wp (p >>= f) Q t := by
  refine (wp_bind _ _).mpr (wp_mono (fun r t' hr => ?_) (hp t))
  cases r with
  | error e =>
    obtain rfl : t' = t.fail := hr
    exact herror e
  | ok a =>
    obtain rfl : t' = t := hr
    exact hf a

end ItsBedalyo
