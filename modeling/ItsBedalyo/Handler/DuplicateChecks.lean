import ItsBedalyo.Handler.AccountPages
import ItsBedalyo.Handler.PageFaults
import ItsBedalyo.Lib.Memory
import ItsBedalyo.Lib.Relational
import ItsBedalyo.Lib.SqlTables
import Mathlib.Algebra.Order.BigOperators.Group.List
import Mathlib.Algebra.Order.Group.Nat

/-!
# What the duplicate checks say of a sign-up

A client asks whether an id, a phone number in a role and a business number are taken, and then
signs up. `insertUser` makes the first two checks again, and leaves the rest to the constraints of
the tables: a phone number is unique among all roles, and nothing is unique about a business number.
So the checks predict what becomes of the sign-up exactly if `Foreseen` says so (`predicts_iff`).
-/

namespace ItsBedalyo.DuplicateChecks

open Pages

variable {κ D Reply : Type} [DecidableEq κ] (key : String → κ)

/-! ### A database with the constraints of the schema -/

/-- What `AUTO_INCREMENT` gives: a number that no store has. -/
structure AutoIncrement (κ : Type) where
  next : AccountTables κ → ℤ
  fresh : ∀ db, next db ∉ db.stores.map OwnedStoreRow.storeId

/-- A number above those of all stores. -/
def AutoIncrement.above : AutoIncrement κ where
  next db := (db.stores.map fun row => row.storeId.natAbs).sum + 1
  fresh db hmem := by
    obtain ⟨row, hrow, hid⟩ := List.mem_map.mp hmem
    have hle := List.le_sum_of_mem
      (List.mem_map_of_mem (f := fun row : OwnedStoreRow => row.storeId.natAbs) hrow)
    omega

/-- The keys of the phone numbers of all users. -/
def phones (db : AccountTables κ) : List κ :=
  db.users.entries.map fun entry => key entry.2.phoneNumber

/-- The `UNIQUE` of `phone_number` is in the way. -/
def violatesUnique (db : AccountTables κ) : AccountStatement → Bool
  | .insertUser _ _ _ phoneNumber _ => decide (key phoneNumber ∈ phones key db)
  | _ => false

/-- What a statement does, if no constraint is in the way. -/
def accepted (ids : AutoIncrement κ) (db : AccountTables κ) (stmt : AccountStatement) :
    Option (ℕ × List (AccountWrite κ)) :=
  if violatesUnique key db stmt then none else stmt.effect key db (ids.next db)

/-- What the calls of one connection return, with no other and no failure. -/
def answer (ids : AutoIncrement κ) (c : DaoState (AccountTables κ) Reply) :
    (o : DaoOp AccountStatement AccountQuery Reply) →
      Except Exn (o.Res AccountQuery.Answer) × DaoState (AccountTables κ) Reply
  | .setAutoCommit on => (.ok (), { c with session := c.session.setAutoCommit on })
  | .prepareStatement => (.ok (), c)
  | .executeUpdate stmt =>
    match accepted key ids c.session.working stmt with
    | some (n, ws) =>
      (.ok n, (accountSchema key).executed c stmt (ids.next c.session.working) ws)
    | none => (.error (.sql "Duplicate entry"), c)
  | .executeQuery query => (.ok (query.answer key c.session.working c.lastInsertId), c)
  | .commit => (.ok (), { c with session := c.session.commit })
  | .rollback => (.ok (), { c with session := c.session.rollback })
  | .sendPacket reply => (.ok (), { c with sent := c.sent ++ [reply] })

/-- These are answers that a connection may get. -/
theorem post_answer (ids : AutoIncrement κ) (c : DaoState (AccountTables κ) Reply)
    (o : DaoOp AccountStatement AccountQuery Reply) :
    (accountSchema key).alone.post c o (answer key ids c o).1 (answer key ids c o).2 := by
  cases o with
  | executeUpdate stmt =>
    rw [answer]
    cases haccepted : accepted key ids c.session.working stmt with
    | none => exact ⟨trivial, .inl rfl⟩
    | some done =>
      obtain ⟨n, ws⟩ := done
      rw [accepted] at haccepted
      split at haccepted
      · cases haccepted
      · exact ⟨_, ws, haccepted, rfl⟩
  | executeQuery query => exact ⟨rfl, rfl⟩
  | _ => exact rfl

/-! ### Code and its outcome -/

section Outcome

variable (ids : AutoIncrement κ) {α β : Type} (c : DaoState (AccountTables κ) Reply)

/-- What code returns, and the state afterwards. -/
def outcome (p : AccountDao Reply α) : Except Exn α × DaoState (AccountTables κ) Reply :=
  ((p.play (answer key ids) c).1, (p.play (answer key ids) c).2.1)

@[simp] theorem outcome_pure (a : α) :
    outcome key ids c (pure a : AccountDao Reply α) = (.ok a, c) := rfl

theorem outcome_op (o : DaoOp AccountStatement AccountQuery Reply) :
    outcome key ids c (Prog.op o) = answer key ids c o := by
  rw [outcome, Prog.play_op]

@[simp] theorem outcome_setAutoCommit (on : Bool) : outcome key ids c (Dao.setAutoCommit on) =
    (.ok (), { c with session := c.session.setAutoCommit on }) := outcome_op key ids c _

@[simp] theorem outcome_prepareStatement :
    outcome key ids c Dao.prepareStatement = (.ok (), c) := outcome_op key ids c _

@[simp] theorem outcome_executeUpdate (stmt : AccountStatement) :
    outcome key ids c (Dao.executeUpdate stmt) =
      match accepted key ids c.session.working stmt with
      | some (n, ws) =>
        (.ok n, (accountSchema key).executed c stmt (ids.next c.session.working) ws)
      | none => (.error (.sql "Duplicate entry"), c) := by
  rw [Dao.executeUpdate, outcome_op, answer]

@[simp] theorem outcome_executeQuery (query : AccountQuery) :
    outcome key ids c (Dao.executeQuery query) =
      (.ok (query.answer key c.session.working c.lastInsertId), c) := outcome_op key ids c _

@[simp] theorem outcome_commit : outcome key ids c Dao.commit =
    (.ok (), { c with session := c.session.commit }) := outcome_op key ids c _

@[simp] theorem outcome_rollback : outcome key ids c Dao.rollback =
    (.ok (), { c with session := c.session.rollback }) := outcome_op key ids c _

@[simp] theorem outcome_bind (p : AccountDao Reply α) (f : α → AccountDao Reply β) :
    outcome key ids c (p >>= f) = match outcome key ids c p with
      | (.ok a, c') => outcome key ids c' (f a)
      | (.error e, c') => (.error e, c') := by
  rw [outcome, outcome, Prog.play_bind]
  rcases p.play (answer key ids) c with ⟨_ | a, c', ops⟩ <;> rfl

@[simp] theorem outcome_catchSql (p : AccountDao Reply α) (handler : String → AccountDao Reply α) :
    outcome key ids c (Dao.catchSql p handler) = match outcome key ids c p with
      | (.error (.sql what), c') => outcome key ids c' (handler what)
      | other => other := by
  rw [outcome, outcome, Dao.catchSql, Prog.play_tryCatch]
  rcases p.play (answer key ids) c with ⟨(what | what) | a, c', ops⟩ <;> rfl

end Outcome

/-! ### A sign-up -/

section Signup

variable (ids : AutoIncrement κ) (db : AccountTables κ) (dto : SignupReqDTO)

/-- A row of the role is there although the user is not. -/
def RoleTaken : Prop :=
  (dto.role = 0 ∧ key dto.userId ∈ db.customers) ∨ (dto.role = 1 ∧ key dto.userId ∈ db.owners)

instance : Decidable (RoleTaken key db dto) := inferInstanceAs (Decidable (_ ∨ _))

/-- Something that `insertUser` does not look for is in the way. -/
def Obstructed : Prop := key dto.phoneNumber ∈ phones key db ∨ RoleTaken key db dto

instance : Decidable (Obstructed key db dto) := inferInstanceAs (Decidable (_ ∨ _))

/-- The number of users with the phone number in the role. -/
def phoneUsers : ℕ := AccountQuery.answer key db 0 (.countPhoneAndRole dto.phoneNumber dto.role)

/-- A sign-up on a connection fresh from the pool. -/
abbrev signup : Except Exn SignupResult × DaoState (AccountTables κ) Reply :=
  outcome key ids (.fresh db) (UserDAO.insertUser dto)

variable {key ids db dto} {c : DaoState (AccountTables κ) Reply}

theorem outcome_insert {stmt : AccountStatement} {ws : List (AccountWrite κ)} {n : ℕ}
    (h : accepted key ids c.session.working stmt = some (n, ws)) :
    outcome key ids c (Dao.executeUpdate stmt) =
      (.ok n, (accountSchema key).executed c stmt (ids.next c.session.working) ws) := by
  rw [outcome_executeUpdate, h]

theorem outcome_insert_of_none {stmt : AccountStatement}
    (h : accepted key ids c.session.working stmt = none) :
    outcome key ids c (Dao.executeUpdate stmt) = (.error (.sql "Duplicate entry"), c) := by
  rw [outcome_executeUpdate, h]

/-- A row that is there stops the statements of the role. -/
theorem outcome_insertRole_of_taken (h : RoleTaken key c.session.working dto) :
    outcome key ids c (UserDAO.insertRole dto) = (.error (.sql "Duplicate entry"), c) := by
  rw [UserDAO.insertRole]
  rcases h with ⟨hzero, hmem⟩ | ⟨hone, hmem⟩
  · obtain ⟨row, hrow⟩ := Option.isSome_iff_exists.mp (AList.lookup_isSome.mpr hmem)
    rw [if_pos hzero, outcome_bind, outcome_prepareStatement]
    dsimp only
    rw [outcome_bind, outcome_insert_of_none]
    simp [accepted, violatesUnique, AccountStatement.effect, hrow]
  · obtain ⟨row, hrow⟩ := Option.isSome_iff_exists.mp (AList.lookup_isSome.mpr hmem)
    have hzero : dto.role ≠ 0 := by omega
    rw [if_neg hzero, if_pos hone, outcome_bind, outcome_prepareStatement]
    dsimp only
    rw [outcome_bind, outcome_insert_of_none]
    simp [accepted, violatesUnique, AccountStatement.effect, hrow]

variable (ids) in
/-- Without one they succeed. -/
theorem outcome_insertRole_of_not_taken (h : ¬RoleTaken key c.session.working dto) :
    ∃ c', outcome key ids c (UserDAO.insertRole dto) = (.ok (), c') := by
  rw [UserDAO.insertRole]
  by_cases hzero : dto.role = 0
  · have hmem : key dto.userId ∉ c.session.working.customers := fun hmem => h (.inl ⟨hzero, hmem⟩)
    have hnone := AList.lookup_eq_none.mpr hmem
    rw [if_pos hzero, outcome_bind, outcome_prepareStatement]
    dsimp only
    rw [outcome_bind, outcome_insert]
    · exact ⟨_, rfl⟩
    · rw [accepted, AccountStatement.effect, hnone]
      rfl
  · rw [if_neg hzero]
    by_cases hone : dto.role = 1
    · have hmem : key dto.userId ∉ c.session.working.owners := fun hmem => h (.inr ⟨hone, hmem⟩)
      have hnone := AList.lookup_eq_none.mpr hmem
      rw [if_pos hone, outcome_bind, outcome_prepareStatement]
      dsimp only
      rw [outcome_bind, outcome_insert]
      · dsimp only
        rw [outcome_bind, outcome_prepareStatement]
        dsimp only
        rw [outcome_bind, outcome_insert]
        · exact ⟨_, rfl⟩
        · rw [accepted, AccountStatement.effect, if_neg (ids.fresh _)]
          rfl
      · rw [accepted, AccountStatement.effect, hnone]
        rfl
    · rw [if_neg hone]
      exact ⟨c, rfl⟩

/-- The row of the user is refused exactly for its phone number, if its id is free. -/
theorem accepted_insertUser (hid : key dto.userId ∉ db.users) : accepted key ids db
    (.insertUser dto.userId dto.password dto.userName dto.phoneNumber dto.role) =
      if key dto.phoneNumber ∈ phones key db then none
      else some (1, [.user (key dto.userId)
        ⟨dto.password, dto.userName, dto.phoneNumber, dto.role, defaultGrade⟩]) := by
  rw [accepted, violatesUnique, AccountStatement.effect, AList.lookup_eq_none.mpr hid]
  simp only [decide_eq_true_eq]

/-- The tables with the row of the user, in the transaction. -/
def withUser (key : String → κ) (ids : AutoIncrement κ) (db : AccountTables κ)
    (dto : SignupReqDTO) : DaoState (AccountTables κ) Reply :=
  (accountSchema key).executed ⟨⟨db, db, false⟩, 0, []⟩
    (.insertUser dto.userId dto.password dto.userName dto.phoneNumber dto.role) (ids.next db)
    [.user (key dto.userId)
      ⟨dto.password, dto.userName, dto.phoneNumber, dto.role, defaultGrade⟩]

theorem outcome_insertRows (hid : key dto.userId ∉ db.users)
    (hphone : key dto.phoneNumber ∉ phones key db) :
    outcome key ids (.fresh db : DaoState _ Reply) (UserDAO.insertRows dto) =
      outcome key ids (withUser key ids db dto) (do
        UserDAO.insertRole dto
        Dao.commit
        Dao.setAutoCommit true
        pure .SUCCESS) := by
  rw [UserDAO.insertRows, outcome_bind, outcome_setAutoCommit]
  dsimp only
  rw [outcome_bind, outcome_prepareStatement]
  dsimp only
  rw [outcome_bind, outcome_insert]
  · rfl
  · exact (accepted_insertUser hid).trans (if_neg hphone)

variable (Reply ids) in
/-- With the id free, the transaction succeeds if nothing else is in the way, -/
theorem outcome_insertRows_of_not_obstructed (hid : key dto.userId ∉ db.users)
    (h : ¬Obstructed key db dto) :
    ∃ c', outcome key ids (.fresh db : DaoState _ Reply) (UserDAO.insertRows dto) =
      (.ok .SUCCESS, c') := by
  obtain ⟨hphone, hrole⟩ := not_or.mp h
  rw [outcome_insertRows hid hphone, outcome_bind]
  have hrole' : ¬RoleTaken key (withUser key ids db dto : DaoState _ Reply).session.working dto :=
    hrole
  obtain ⟨c', hc'⟩ := outcome_insertRole_of_not_taken ids hrole'
  rw [hc']
  exact ⟨_, rfl⟩

variable (Reply ids) in
/-- and otherwise fails with nothing committed. -/
theorem outcome_insertRows_of_obstructed (hid : key dto.userId ∉ db.users)
    (h : Obstructed key db dto) :
    ∃ c', outcome key ids (.fresh db : DaoState _ Reply) (UserDAO.insertRows dto) =
      (.error (.sql "Duplicate entry"), c') ∧ c'.session.committed = db := by
  by_cases hphone : key dto.phoneNumber ∈ phones key db
  · rw [UserDAO.insertRows, outcome_bind, outcome_setAutoCommit]
    dsimp only
    rw [outcome_bind, outcome_prepareStatement]
    dsimp only
    rw [outcome_bind, outcome_insert_of_none]
    · exact ⟨_, rfl, rfl⟩
    · exact (accepted_insertUser hid).trans (if_pos hphone)
  · have hrole : RoleTaken key (withUser key ids db dto : DaoState _ Reply).session.working dto :=
      h.resolve_left hphone
    rw [outcome_insertRows hid hphone, outcome_bind, outcome_insertRole_of_taken hrole]
    exact ⟨_, rfl, rfl⟩

theorem outcome_query {β : Type} (query : AccountQuery)
    (f : query.Answer → AccountDao Reply β) :
    outcome key ids c (Dao.executeQuery query >>= f) =
      outcome key ids c (f (query.answer key c.session.working c.lastInsertId)) := by
  rw [outcome_bind, outcome_executeQuery]

/-- What is left of a sign-up after its two queries. -/
def afterQueries (key : String → κ) (db : AccountTables κ) (dto : SignupReqDTO) :
    AccountDao Reply SignupResult :=
  if (AccountQuery.answer key db 0 (.countUserId dto.userId) : ℕ) > 0 then pure .DUPLICATE_ID
  else if phoneUsers key db dto > 0 then pure .DUPLICATE_PHONE
  else UserDAO.insertRows dto

theorem signup_eq (ids : AutoIncrement κ) (db : AccountTables κ) (dto : SignupReqDTO) :
    (signup key ids db dto : _ × DaoState _ Reply) =
      outcome key ids (.fresh db) (Dao.catchSql (afterQueries key db dto) fun _ => do
        Dao.rollback
        Dao.setAutoCommit true
        pure .SERVER_ERROR) := by
  have hbody : outcome key ids (.fresh db : DaoState _ Reply) (do
      Dao.prepareStatement
      let ids ← Dao.executeQuery (.countUserId dto.userId)
      if ids > 0 then pure SignupResult.DUPLICATE_ID
      else
        Dao.prepareStatement
        let phones ← Dao.executeQuery (.countPhoneAndRole dto.phoneNumber dto.role)
        if phones > 0 then pure .DUPLICATE_PHONE else UserDAO.insertRows dto) =
      outcome key ids (.fresh db) (afterQueries key db dto) := by
    rw [outcome_bind, outcome_prepareStatement]
    refine (outcome_query (.countUserId dto.userId) _).trans ?_
    show outcome key ids (.fresh db)
      (if (AccountQuery.answer key db 0 (.countUserId dto.userId) : ℕ) > 0 then _ else _) = _
    rw [afterQueries]
    by_cases hids : (AccountQuery.answer key db 0 (.countUserId dto.userId) : ℕ) > 0
    · rw [if_pos hids, if_pos hids]
    · rw [if_neg hids, if_neg hids]
      refine (outcome_bind key ids _ _ _).trans ?_
      rw [outcome_prepareStatement]
      exact outcome_query (.countPhoneAndRole dto.phoneNumber dto.role) _
  rw [signup, UserDAO.insertUser, outcome_catchSql, outcome_catchSql, hbody]

theorem answer_countUserId (userId : String) :
    (AccountQuery.answer key db 0 (.countUserId userId) : ℕ) > 0 ↔ key userId ∈ db.users := by
  rw [← AList.lookup_isSome, AccountQuery.answer]
  cases db.users.lookup (key userId) <;> simp

variable (Reply ids) in
/-- An id that is taken is told. -/
theorem signup_of_id (h : key dto.userId ∈ db.users) :
    (signup key ids db dto : _ × DaoState _ Reply) = (.ok .DUPLICATE_ID, .fresh db) := by
  rw [signup_eq, afterQueries, if_pos ((answer_countUserId _).mpr h)]
  rfl

variable (Reply ids) in
/-- A phone number that is taken in the role is told. -/
theorem signup_of_phone (hid : key dto.userId ∉ db.users) (h : phoneUsers key db dto > 0) :
    (signup key ids db dto : _ × DaoState _ Reply) = (.ok .DUPLICATE_PHONE, .fresh db) := by
  rw [signup_eq, afterQueries, if_neg ((answer_countUserId _).not.mpr hid), if_pos h]
  rfl

variable (Reply ids) in
/-- What else is in the way is an error of the server. -/
theorem signup_of_obstructed (hid : key dto.userId ∉ db.users) (hphone : ¬phoneUsers key db dto > 0)
    (h : Obstructed key db dto) : ∃ c', (signup key ids db dto : _ × DaoState _ Reply) =
      (.ok .SERVER_ERROR, c') ∧ c'.session.committed = db := by
  obtain ⟨c', hc', hcommitted⟩ := outcome_insertRows_of_obstructed Reply ids hid h
  rw [signup_eq, afterQueries, if_neg ((answer_countUserId _).not.mpr hid), if_neg hphone,
    outcome_catchSql, hc']
  exact ⟨_, rfl, hcommitted⟩

variable (Reply ids) in
/-- Otherwise the user is there. -/
theorem signup_of_not_obstructed (hid : key dto.userId ∉ db.users)
    (hphone : ¬phoneUsers key db dto > 0) (h : ¬Obstructed key db dto) :
    ∃ c', (signup key ids db dto : _ × DaoState _ Reply) = (.ok .SUCCESS, c') := by
  obtain ⟨c', hc'⟩ := outcome_insertRows_of_not_obstructed Reply ids hid h
  rw [signup_eq, afterQueries, if_neg ((answer_countUserId _).not.mpr hid), if_neg hphone,
    outcome_catchSql, hc']
  exact ⟨_, rfl⟩

end Signup

/-! ### The checks -/

section Checks

variable [Double D] (db : AccountTables κ) (others : (o : PageOp D) → o.Res)

/-- The number of owners with a business number. -/
def ownersWith (businessNumber : String) : ℕ :=
  db.owners.entries.countP fun entry => entry.2.businessNumber.map key = some (key businessNumber)

/-- What the queries of the checks find. -/
def checkRows (query : String) (params : List SqlParam) : List (ResultRow D) :=
  let row (n : ℕ) : List (ResultRow D) := [.of [("1", .int (.ofNat n))]]
  match Sql.Count.parse query, params with
  | some ⟨"USERS", ["user_id"]⟩, [.string userId] =>
    row (AccountQuery.answer key db 0 (.countUserId userId))
  | some ⟨"USERS", ["phone_number", "role"]⟩, [.string phoneNumber, .int role] =>
    row (AccountQuery.answer key db 0 (.countPhoneAndRole phoneNumber role.toInt))
  | some ⟨"OWNERS", ["business_number"]⟩, [.string businessNumber] =>
    row (ownersWith key db businessNumber)
  | _, _ => []

/-- What a check tells the client of the value: whether it `isAvailable`. -/
def told (check : Page D Unit) : List Bool :=
  (check.eval (reading (checkRows key db) others)).2.filterMap fun
    | .sendPacket _ (some body) => (body.get "isAvailable" : Except JsonError Bool).toOption
    | _ => none

variable {key db others} {text : JsonParser D} {jsonBody : String}

/-- A check tells whether the value is taken. -/
theorem told_check {cmdId : CmdID} {isTaken : Page D Bool} {taken free malformed : String}
    {b : Bool} {ops : List (DbOp D)}
    (h : isTaken.eval (reading (checkRows key db) others) = (.ok b, ops.map PageOp.db)) :
    told key db others (Pages.UserHandler.check cmdId isTaken taken free malformed) = [!b] := by
  have hcalls : (ops.map PageOp.db).filterMap (fun
      | (.sendPacket _ (some body) : PageOp D) =>
        (body.get "isAvailable" : Except JsonError Bool).toOption
      | _ => none) = [] := by
    rw [List.filterMap_map]
    exact List.filterMap_eq_nil_iff.mpr fun _ _ => rfl
  cases b with
  | true =>
    simp only [told, Pages.UserHandler.check, Prog.eval_bind, Prog.eval_tryCatch, h]
    simp [hcalls]
    rfl
  | false =>
    simp only [told, Pages.UserHandler.check, Prog.eval_bind, Prog.eval_tryCatch, h]
    simp [hcalls]
    rfl

/-- A count in the range of `int` is positive for the code if it is. -/
theorem read_countIsPositive {rows : String → List SqlParam → List (ResultRow D)} {query : String}
    {params : List SqlParam} {n : ℕ} (hrows : rows query params = [.of [("1", .int (.ofNat n))]])
    (hn : n < 2 ^ 31) :
    (countIsPositive query params).read rows = .ok (decide (0 < n)) := by
  have hpos : (Int32.ofNat n > 0) ↔ 0 < n := by
    rw [gt_iff_lt, Int32.lt_iff_toInt_lt, Int32.toInt_ofNat_of_lt hn]
    exact Int.natCast_pos
  simp [countIsPositive, hrows, ResultRow.of, hpos]
  rfl

/-- A check of a value that was read and counted. -/
theorem told_count {cmdId : CmdID} {isTaken : Page D Bool} {taken free malformed : String}
    {query : String} {params : List SqlParam} {n : ℕ}
    (hisTaken : isTaken.eval (reading (checkRows key db) others) =
      (Page.db (countIsPositive query params)).eval (reading (checkRows key db) others))
    (hrows : checkRows (D := D) key db query params = [.of [("1", .int (.ofNat n))]])
    (hn : n < 2 ^ 31) :
    told key db others (Pages.UserHandler.check cmdId isTaken taken free malformed) =
      [!decide (0 < n)] := by
  obtain ⟨ops, hops⟩ := eval_db_reading _ others (read_countIsPositive hrows hn)
  exact told_check (hisTaken.trans hops)

omit [Double D] in
theorem checkRows_userId (userId : String) :
    checkRows (D := D) key db "SELECT COUNT(*) FROM USERS WHERE user_id = ?" [.string userId] =
      [.of [("1", .int (.ofNat (AccountQuery.answer key db 0 (.countUserId userId) : ℕ)))]] := by
  have hparse : Sql.Count.parse "SELECT COUNT(*) FROM USERS WHERE user_id = ?" =
      some ⟨"USERS", ["user_id"]⟩ := by decide +kernel
  unfold checkRows
  rw [hparse]
  rfl

omit [Double D] in
theorem checkRows_phone (phoneNumber : String) (role : Int32) :
    checkRows (D := D) key db "SELECT COUNT(*) FROM USERS WHERE phone_number = ? AND role = ?"
        [.string phoneNumber, .int role] =
      [.of [("1", .int (.ofNat
        (AccountQuery.answer key db 0 (.countPhoneAndRole phoneNumber role.toInt) : ℕ)))]] := by
  have hparse : Sql.Count.parse "SELECT COUNT(*) FROM USERS WHERE phone_number = ? AND role = ?" =
      some ⟨"USERS", ["phone_number", "role"]⟩ := by decide +kernel
  unfold checkRows
  rw [hparse]
  rfl

omit [Double D] in
theorem checkRows_businessNumber (businessNumber : String) :
    checkRows (D := D) key db "SELECT COUNT(*) FROM OWNERS WHERE business_number = ?"
        [.string businessNumber] =
      [.of [("1", .int (.ofNat (ownersWith key db businessNumber)))]] := by
  have hparse : Sql.Count.parse "SELECT COUNT(*) FROM OWNERS WHERE business_number = ?" =
      some ⟨"OWNERS", ["business_number"]⟩ := by decide +kernel
  unfold checkRows
  rw [hparse]
  rfl

variable (key db) in
theorem count_userId_le_one (userId : String) :
    (AccountQuery.answer key db 0 (.countUserId userId) : ℕ) ≤ 1 := by
  rw [AccountQuery.answer]
  cases db.users.lookup (key userId) with
  | none => exact Nat.zero_le 1
  | some row => exact le_refl 1

/-- The constraint of the schema: a number is of one user at most. -/
theorem count_phone_le_one (hunique : (phones key db).Nodup) (phoneNumber : String) (role : ℤ) :
    (AccountQuery.answer key db 0 (.countPhoneAndRole phoneNumber role) : ℕ) ≤ 1 := by
  refine le_trans (List.countP_mono_left fun entry _ h => ?_)
    (Relational.countP_key_le_one hunique (key phoneNumber))
  exact decide_eq_true (of_decide_eq_true h).1.symm

variable (key db others) in
theorem told_handleAuthCheck {req : Json D} {userId : String} (hread : text.read jsonBody = .ok req)
    (hid : req.get "userId" = .ok userId) :
    told key db others (Pages.UserHandler.handleAuthCheck text jsonBody) =
      [!decide (key userId ∈ db.users)] := by
  have hcount := (count_userId_le_one key db userId).trans_lt
    (by decide : 1 < 2 ^ 31)
  rw [Pages.UserHandler.handleAuthCheck]
  refine (told_count ?_ (checkRows_userId userId) hcount).trans ?_
  · simp only [Prog.eval_bind, eval_parse, hread, Page.get, eval_convert, hid, Except.mapError]
    rfl
  · exact congrArg (fun b => [!b]) (decide_eq_decide.mpr (answer_countUserId userId))

variable (others) in
theorem told_handlePhoneCheck (hunique : (phones key db).Nodup) {req : Json D}
    {phoneNumber : String} {role : Int32} (hread : text.read jsonBody = .ok req)
    (hphone : req.get "phoneNumber" = .ok phoneNumber) (hrole : req.get "role" = .ok role) :
    told key db others (Pages.UserHandler.handlePhoneCheck text jsonBody) =
      [!decide (0 < (AccountQuery.answer key db 0 (.countPhoneAndRole phoneNumber role.toInt) : ℕ))]
      := by
  have hcount := (count_phone_le_one hunique phoneNumber role.toInt).trans_lt
    (by decide : 1 < 2 ^ 31)
  rw [Pages.UserHandler.handlePhoneCheck]
  refine told_count ?_ (checkRows_phone phoneNumber role) hcount
  simp only [Prog.eval_bind, eval_parse, hread, Page.get, eval_convert, hphone, hrole,
    Except.mapError]
  rfl

variable (others) in
theorem told_handleBizNumCheck {req : Json D} {businessNumber : String}
    (hread : text.read jsonBody = .ok req)
    (hbusiness : req.get "businessNum" = .ok businessNumber)
    (hcount : ownersWith key db businessNumber < 2 ^ 31) :
    told key db others (Pages.UserHandler.handleBizNumCheck text jsonBody) =
      [!decide (0 < ownersWith key db businessNumber)] := by
  rw [Pages.UserHandler.handleBizNumCheck]
  refine told_count ?_ (checkRows_businessNumber businessNumber) hcount
  simp only [Prog.eval_bind, eval_parse, hread, Page.get, eval_convert, hbusiness, Except.mapError]
  rfl

end Checks

/-! ### The checks of a sign-up -/

section Prediction

variable [Double D] (text : JsonParser D) (others : (o : PageOp D) → o.Res)
  (ids : AutoIncrement κ) (db : AccountTables κ) (dto : SignupReqDTO)

/-- The bodies of the three checks. -/
structure Bodies where
  id : String
  phone : String
  business : String

/-- The bodies ask for the values of the sign-up. -/
structure Bodies.AskFor (bodies : Bodies) : Prop where
  id : ∃ req, text.read bodies.id = .ok req ∧ req.get "userId" = .ok dto.userId
  phone : ∃ req, ∃ role : Int32, text.read bodies.phone = .ok req ∧
    req.get "phoneNumber" = .ok dto.phoneNumber ∧ req.get "role" = .ok role ∧
    role.toInt = dto.role
  business : dto.role = 1 → ∃ req, text.read bodies.business = .ok req ∧
    req.get "businessNum" = .ok dto.businessNumber

/-- The checks of a sign-up; the one of the business number is for owners. -/
def checks (bodies : Bodies) : List (Page D Unit) :=
  [Pages.UserHandler.handleAuthCheck text bodies.id,
   Pages.UserHandler.handlePhoneCheck text bodies.phone] ++
  if dto.role = 1 then [Pages.UserHandler.handleBizNumCheck text bodies.business] else []

/-- The checks predict the sign-up: it succeeds if they all answer available, and is refused
without a change if one answers taken. -/
structure Predicts (bodies : Bodies) : Prop where
  success : (∀ check ∈ checks text dto bodies, told key db others check = [true]) →
    (signup key ids db dto : _ × DaoState _ Empty).1 = .ok .SUCCESS
  refusal : (∃ check ∈ checks text dto bodies, told key db others check = [false]) →
    (signup key ids db dto : _ × DaoState _ Empty).1 ≠ .ok .SUCCESS ∧
      (signup key ids db dto : _ × DaoState _ Empty).2.session.committed = db

/-- The business number of an owner is taken. -/
def BusinessTaken : Prop := dto.role = 1 ∧ 0 < ownersWith key db dto.businessNumber

instance : Decidable (BusinessTaken key db dto) := inferInstanceAs (Decidable (_ ∧ _))

/-- `insertUser` itself finds the id or the phone number taken, or what it does not look for is in
the way exactly if the business number is taken. -/
def Foreseen : Prop :=
  key dto.userId ∈ db.users ∨ 0 < phoneUsers key db dto ∨
    (Obstructed key db dto ↔ BusinessTaken key db dto)

variable {key text others ids db dto} {bodies : Bodies}

variable (others) in
/-- Some check answers taken exactly if one of the values is taken. -/
theorem told_checks (hunique : (phones key db).Nodup)
    (hcount : ownersWith key db dto.businessNumber < 2 ^ 31) (hbodies : bodies.AskFor text dto) :
    ((∀ check ∈ checks text dto bodies, told key db others check = [true]) ↔
      key dto.userId ∉ db.users ∧ ¬0 < phoneUsers key db dto ∧ ¬BusinessTaken key db dto) ∧
    ((∃ check ∈ checks text dto bodies, told key db others check = [false]) ↔
      key dto.userId ∈ db.users ∨ 0 < phoneUsers key db dto ∨ BusinessTaken key db dto) := by
  obtain ⟨idReq, hidRead, hid⟩ := hbodies.id
  obtain ⟨phoneReq, role, hphoneRead, hphone, hrole, htoInt⟩ := hbodies.phone
  have hidTold := told_handleAuthCheck key db others hidRead hid
  have hphoneTold := told_handlePhoneCheck others hunique hphoneRead hphone hrole
  rw [htoInt] at hphoneTold
  by_cases hone : dto.role = 1
  · obtain ⟨businessReq, hbusinessRead, hbusiness⟩ := hbodies.business hone
    have hbusinessTold := told_handleBizNumCheck others hbusinessRead hbusiness hcount
    simp [checks, hone, hidTold, hphoneTold, hbusinessTold, BusinessTaken, phoneUsers]
  · simp [checks, hone, hidTold, hphoneTold, BusinessTaken, phoneUsers]

/-- **What the checks predict.** For every population of the schema and every sign-up the checks
predict what becomes of it if and only if the case is `Foreseen`. -/
theorem predicts_iff (key : String → κ) (text : JsonParser D) (others : (o : PageOp D) → o.Res)
    (ids : AutoIncrement κ) (db : AccountTables κ) (dto : SignupReqDTO) (bodies : Bodies)
    (hunique : (phones key db).Nodup) (hcount : ownersWith key db dto.businessNumber < 2 ^ 31)
    (hbodies : bodies.AskFor text dto) :
    Predicts key text others ids db dto bodies ↔ Foreseen key db dto := by
  obtain ⟨hall, hsome⟩ := told_checks others hunique hcount hbodies
  by_cases hid : key dto.userId ∈ db.users
  · have hsignup := signup_of_id Empty ids hid
    refine iff_of_true ⟨fun h => absurd hid (hall.mp h).1, fun _ => ?_⟩ (.inl hid)
    rw [hsignup]
    exact ⟨nofun, rfl⟩
  by_cases hphone : 0 < phoneUsers key db dto
  · have hsignup := signup_of_phone Empty ids hid hphone
    refine iff_of_true ⟨fun h => absurd hphone (hall.mp h).2.1, fun _ => ?_⟩ (.inr (.inl hphone))
    rw [hsignup]
    exact ⟨nofun, rfl⟩
  by_cases hobstructed : Obstructed key db dto
  · obtain ⟨c, hsignup, hcommitted⟩ :=
      signup_of_obstructed Empty ids hid hphone hobstructed
    refine ⟨fun h => ?_, fun h => ⟨fun havailable => ?_, fun _ => ?_⟩⟩
    · by_contra hforeseen
      have hbusiness : ¬BusinessTaken key db dto := fun hbusiness =>
        hforeseen (.inr (.inr (iff_of_true hobstructed hbusiness)))
      have hsuccess := h.success (hall.mpr ⟨hid, hphone, hbusiness⟩)
      rw [hsignup] at hsuccess
      cases hsuccess
    · have hbusiness := ((h.resolve_left hid).resolve_left hphone).mp hobstructed
      exact absurd hbusiness (hall.mp havailable).2.2
    · rw [hsignup]
      exact ⟨nofun, hcommitted⟩
  · obtain ⟨c, hsignup⟩ :=
      signup_of_not_obstructed Empty ids hid hphone hobstructed
    refine ⟨fun h => ?_, fun h => ⟨fun _ => ?_, fun htaken => ?_⟩⟩
    · refine .inr (.inr (iff_of_false hobstructed fun hbusiness => ?_))
      have hrefusal := (h.refusal (hsome.mpr (.inr (.inr hbusiness)))).1
      rw [hsignup] at hrefusal
      exact hrefusal rfl
    · rw [hsignup]
    · have hbusiness := ((hsome.mp htaken).resolve_left hid).resolve_left hphone
      exact absurd (((h.resolve_left hid).resolve_left hphone).mpr hbusiness) hobstructed

/-- A customer with the number 010. -/
def sampleUsers : AccountTables String :=
  { users := AList.insert "lee" ⟨"pw", "Lee", "010", 0, defaultGrade⟩ ∅, customers := ∅,
    owners := ∅, stores := [], addresses := [] }

/-- A sign-up as a rider. -/
def sampleRider (phoneNumber : String) : SignupReqDTO :=
  ⟨"kim", "pw", "Kim", phoneNumber, 2, "", "", "", "", "", ""⟩

/-- One body for all checks. -/
def sampleBody (phoneNumber : String) : Json Float := .object
  [("userId", .string "kim"), ("phoneNumber", .string phoneNumber), ("role", .numberUnsigned 2)]

def sampleParser (phoneNumber : String) : JsonParser Float :=
  .knowing "body" (sampleBody phoneNumber)

theorem askFor_sampleRider (phoneNumber : String) :
    Bodies.AskFor (sampleParser phoneNumber) (sampleRider phoneNumber)
      ⟨"body", "body", "body"⟩ := by
  have hread : (sampleParser phoneNumber).read "body" = .ok (sampleBody phoneNumber) :=
    JsonParser.read_knowing _ (by decide)
  exact ⟨⟨_, hread, rfl⟩, ⟨_, 2, hread, rfl, rfl, rfl⟩, nofun⟩

/-- A rider with a number of its own is foreseen. -/
theorem predicts_iff_sampleRider : Predicts id (sampleParser "011") idle .above sampleUsers
    (sampleRider "011") ⟨"body", "body", "body"⟩ :=
  (predicts_iff id (sampleParser "011") idle .above sampleUsers (sampleRider "011")
    ⟨"body", "body", "body"⟩ (by decide) (by decide) (askFor_sampleRider "011")).mpr
    (.inr (.inr (iff_of_false (by decide) (by decide))))

/-- A rider with the number of the customer finds it available and cannot sign up. -/
theorem not_predicts_sampleRider : ¬Predicts id (sampleParser "010") idle .above sampleUsers
    (sampleRider "010") ⟨"body", "body", "body"⟩ := by
  intro h
  have hfree : "kim" ∉ sampleUsers.users := by decide
  have hphone : ¬0 < phoneUsers id sampleUsers (sampleRider "010") := by decide
  obtain ⟨c, hsignup, -⟩ := signup_of_obstructed Empty .above hfree hphone
    (.inl (by decide))
  have havailable := (told_checks idle (by decide) (by decide)
    (askFor_sampleRider "010")).1.mpr ⟨hfree, hphone, by decide⟩
  have hsuccess := h.success havailable
  rw [hsignup] at hsuccess
  cases hsuccess

end Prediction

end ItsBedalyo.DuplicateChecks
