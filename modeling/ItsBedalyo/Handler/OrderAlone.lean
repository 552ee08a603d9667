import ItsBedalyo.Handler.OperationRules
import ItsBedalyo.Lib.RowLocking
import ItsBedalyo.Lib.Runs

/-!
# An order handler that nobody disturbs

A handler that runs by itself sees a committed and a working copy of the tables (`Session`) and
sends its replies (`OrderState`). `aloneSpec` says what the operations do to that;
`Sees.exec` shows that they do so in the database server when it has one caller only, and
`run_alone` draws the conclusion for whole runs, `run_alone_watch` with a flag for answers
that have been seen.
-/

namespace ItsBedalyo

open RowLocking Interface

/-- The answers that `sel` selects, by whether the operation has returned. -/
def noted (sel : Op → Bool → Bool) (o : Op) : Except String o.Res → Bool
  | .ok _ => sel o true
  | .error _ => sel o false

/-- The lookups that let an exception out. -/
def Query.mayThrow : Query → Bool
  | getStoreIdByOrderId _ | getOwnerIdByStoreId _ => true
  | _ => false

/-- What a handler that nobody disturbs sees: its session, and its replies. -/
structure OrderState (κ : Type*) where
  session : Session (Tables κ)
  sent : List Response

/-- A call on a connection fresh from the pool. -/
def OrderState.fresh {κ : Type*} (tables : Tables κ) : OrderState κ := ⟨.fresh tables, []⟩

/-- The world before the first call. -/
def World.init {τ κ : Type*} (tables : Tables κ) : World τ κ := ⟨.init tables, [], []⟩

namespace HandlerSpec

/-- The specification with a flag that goes up at a selected answer. -/
def watch {γ : Type*} (spec : HandlerSpec γ) (sel : Op → Bool → Bool) :
    HandlerSpec (γ × Bool) where
  pre g o := spec.pre g.1 o
  returns g o a g' := ∃ c, spec.returns g.1 o a c ∧ g' = (c, g.2 || sel o true)
  throws g o g' := ∃ c, spec.throws g.1 o c ∧ g' = (c, g.2 || sel o false)

end HandlerSpec

section Alone

variable {κ : Type*} [DecidableEq κ] (key : String → κ)

/-- What the operations do to a handler that nobody disturbs. -/
def orderAloneSpec : HandlerSpec (OrderState κ) where
  pre _ _ := True
  returns c
    | .setAutoCommit on, _, c' => c' = { c with session := c.session.setAutoCommit on }
    | .executeUpdate stmt, n, c' =>
      ∃ ws, stmt.effect key c.session.working = some (n, ws) ∧
        c' = { c with session := c.session.execute (c.session.working.writes ws) }
    | .commit, _, c' => c' = { c with session := c.session.commit }
    | .rollback, _, c' => c' = { c with session := c.session.rollback }
    | .query q, a, c' => (∃ e, q.answer key c.session.committed e = some (.ok a)) ∧ c' = c
    | .sendPacket response, _, c' => c' = { c with sent := c.sent ++ [response] }
    | _, _, c' => c' = c
  throws c
    | .prepareStatement, c' => c' = c
    | .executeUpdate _, c' => c' = c ∨ c' = { c with session := c.session.rollback }
    | .commit, c' => c' = c
    | .query q, c' => q.mayThrow = true ∧ c' = c
    | _, _ => False

/-- The world of the only call as that call sees it. -/
structure OrderState.Sees (w : World Unit κ) (c : OrderState κ) : Prop where
  committed : w.db.tables = c.session.committed
  working : w.db.view () = c.session.working
  mode : (w.db.conns ()).autoCommit = c.session.autoCommit
  published : c.session.autoCommit = true → (w.db.conns ()).pending = []
  sent : w.sent = c.sent.map fun response => ((), response)

namespace OrderState

theorem sees_init (tables : Tables κ) : Sees (.init tables) (.fresh tables) :=
  ⟨rfl, rfl, rfl, fun _ => rfl, rfl⟩

variable {key} {w w' : World Unit κ} {c : OrderState κ}

omit [DecidableEq κ] in
/-- A lookup that throws is one that lets an exception out. -/
theorem mayThrow_of_answer {tables : Tables κ} {q : Query} {e : Env} {what : String}
    (h : q.answer key tables e = some (.error what)) : q.mayThrow = true := by
  cases q <;> cases e <;> first | rfl | cases h

/-- A statement of the only connection. -/
theorem Sees.executeUpdate (h : Sees w c) {stmt : Statement} {n : ℕ} {db : DbServer Unit κ}
    (hs : w.db.executeUpdate key () stmt = some (n, db)) :
    ∃ ws, stmt.effect key c.session.working = some (n, ws) ∧
      Sees { w with db := db }
        { c with session := c.session.execute (c.session.working.writes ws) } := by
  obtain ⟨ws, heffect, -, rfl⟩ := DbServer.executeUpdate_eq_some hs
  obtain ⟨hcommitted, hworking, hmode, hpublished, hsent⟩ := h
  rw [hworking] at heffect
  refine ⟨ws, heffect, ?_⟩
  rw [hmode, Session.execute]
  cases hauto : c.session.autoCommit with
  | true =>
    -- nothing is pending, so the committed tables are what the statement has seen
    have hpending := hpublished hauto
    have hsame : c.session.committed = c.session.working := by
      rw [← hcommitted, ← hworking, DbServer.view, hpending, Tables.writes_nil]
    have htables : (w.db.publish () ws).tables = c.session.working.writes ws := by
      rw [DbServer.publish, hcommitted, hsame]
    have hview : (w.db.publish () ws).view () = c.session.working.writes ws := by
      rw [DbServer.view, htables]
      show (c.session.working.writes ws).writes (w.db.conns ()).pending = _
      rw [hpending, Tables.writes_nil]
    exact ⟨htables, hview, hmode.trans hauto, fun _ => hpending, hsent⟩
  | false =>
    refine ⟨hcommitted, ?_, hmode.trans hauto, fun hon => absurd hon Bool.false_ne_true, hsent⟩
    have hconn : ((w.db.enqueue () ws).conns ()).pending = (w.db.conns ()).pending ++ ws := rfl
    rw [if_neg Bool.false_ne_true, if_neg Bool.false_ne_true, DbServer.view, hconn,
      Tables.writes, List.foldl_append, ← hworking]
    rfl

/-- Every operation does to the world what it does to the call. -/
theorem Sees.exec (h : Sees w c) {o : Op} {e : Env} {r : Except String o.Res}
    (he : exec key () o e w = some (r, w')) :
    ∃ c', (orderAloneSpec key).interface.post c o r c' ∧ Sees w' c' := by
  have hall := h
  obtain ⟨hcommitted, hworking, hmode, hpublished, hsent⟩ := h
  cases o with
  | setAutoCommit on =>
    cases e <;> cases he
    refine ⟨_, rfl, ?_⟩
    cases on with
    | true => exact ⟨hworking, hworking, rfl, fun _ => rfl, hsent⟩
    | false => exact ⟨hcommitted, hworking, rfl, nofun, hsent⟩
  | prepareStatement =>
    cases e <;> cases he
    all_goals exact ⟨c, rfl, hall⟩
  | executeUpdate stmt =>
    cases e with
    | ok =>
      obtain ⟨⟨n, db⟩, hs, heq⟩ := Option.map_eq_some_iff.mp he
      cases heq
      obtain ⟨ws, heffect, hsees⟩ := hall.executeUpdate hs
      exact ⟨_, ⟨ws, heffect, rfl⟩, hsees⟩
    | fault what =>
      cases he
      exact ⟨c, .inl rfl, hall⟩
    | deadlock what =>
      cases he
      exact ⟨_, .inr rfl, hcommitted, hcommitted, hmode, fun _ => rfl, hsent⟩
    | text | time | number => cases he
  | commit =>
    cases e <;> cases he
    · exact ⟨_, rfl, hworking, hworking, hmode, fun _ => rfl, hsent⟩
    · exact ⟨c, rfl, hall⟩
  | rollback =>
    cases e <;> cases he
    exact ⟨_, rfl, hcommitted, hcommitted, hmode, fun _ => rfl, hsent⟩
  | query q =>
    obtain ⟨x, hanswer, heq⟩ := Option.map_eq_some_iff.mp he
    cases heq
    rw [hcommitted] at hanswer
    cases r with
    | ok a => exact ⟨c, ⟨⟨e, hanswer⟩, rfl⟩, hall⟩
    | error what => exact ⟨c, ⟨mayThrow_of_answer hanswer, rfl⟩, hall⟩
  | localtime | rand | sendToUser =>
    cases e <;> cases he
    exact ⟨c, rfl, hcommitted, hworking, hmode, hpublished, hsent⟩
  | sendPacket response =>
    cases e <;> cases he
    refine ⟨_, rfl, hcommitted, hworking, hmode, hpublished, ?_⟩
    simp [hsent]

variable {α : Type} {p : Prog Op.Res String α} {es : List Env} {tables : Tables κ}
  {r : Except String α}

/-- **A handler alone**, with a flag for answers that have been seen. -/
theorem run_alone_watch (sel : Op → Bool → Bool)
    {Q : Except String α → OrderState κ × Bool → Prop}
    (h : ((orderAloneSpec key).watch sel).interface.wp p Q (.fresh tables, false))
    (hr : p.run (ItsBedalyo.exec key ()) es (.init tables) = some (r, w)) :
    ∃ c, Sees w c ∧
      Q r (c, p.saw (ItsBedalyo.exec key ()) (noted sel) es (.init tables)) := by
  have hwp : ((ofExec (ItsBedalyo.exec key ())).watch (noted sel)).wp p
      (fun r g => ∃ c, (Sees g.1 c.1 ∧ g.2 = c.2) ∧ Q r c) (.init tables, false) := by
    refine wp_simulate
      (R := fun (g : World Unit κ × Bool) (c : OrderState κ × Bool) => Sees g.1 c.1 ∧ g.2 = c.2)
      (fun _ _ _ _ _ => trivial) ?_ ⟨sees_init tables, rfl⟩ h
    rintro ⟨w, b⟩ ⟨c, b'⟩ o r ⟨w', b₁⟩ ⟨hsees, hb⟩ ⟨⟨e, he⟩, hb₁⟩
    obtain rfl : b = b' := hb
    obtain ⟨c', hpost, hsees'⟩ := hsees.exec he
    cases r with
    | ok a => exact ⟨(c', b || sel o true), ⟨c', hpost, rfl⟩, hsees', hb₁⟩
    | error what => exact ⟨(c', b || sel o false), ⟨c', hpost, rfl⟩, hsees', hb₁⟩
  obtain ⟨⟨c, b⟩, ⟨hsees, hb⟩, hQ⟩ := run_watch hwp hr
  refine ⟨c, hsees, ?_⟩
  have hb' : p.saw (ItsBedalyo.exec key ()) (noted sel) es (.init tables) = b :=
    (Bool.false_or _).symm.trans hb
  rwa [hb']

/-- **A handler alone.** -/
theorem run_alone {Q : Except String α → OrderState κ → Prop}
    (h : (orderAloneSpec key).interface.wp p Q (.fresh tables))
    (hr : p.run (ItsBedalyo.exec key ()) es (.init tables) = some (r, w)) :
    ∃ c, Sees w c ∧ Q r c := by
  refine run_wp (Q := fun r w => ∃ c, Sees w c ∧ Q r c) ?_ hr
  refine wp_simulate (R := Sees) (fun _ _ _ _ _ => trivial) ?_ (sees_init tables) h
  rintro w c o r w' hsees ⟨e, he⟩
  exact hsees.exec he

end OrderState

end Alone

end ItsBedalyo
