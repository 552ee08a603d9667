import ItsBedalyo.Database.AuthDAO

/-!
# The key of a login

The database finds the user of a login by its own equality of texts, and the registry of sessions by
the equality of `std::string`. `handleLogin` registers a session under the id as it was typed, which
need not be the id as it is stored: they are the same exactly if the user has typed the id as it is
stored (`registersAs_iff`).
-/

namespace ItsBedalyo.Logins

open Interface Pages AuthDAO

variable {D : Type}

/-! ### What a login does -/

section Calls

variable (others : (o : ConnOp) → o.Res) (validated : LoginResult × UserInfo)

/-- What the calls of a login return. -/
def answers : (o : ConnOp) → o.Res
  | .validateLogin .. => validated
  | o => others o

/-- The calls of a login. -/
def calls (req : LoginReqDTO) : List ConnOp :=
  ((UserHandler.handleLogin (.ok req)).eval (answers others validated)).2

theorem calls_of_success (req : LoginReqDTO) (userInfo : UserInfo) :
    calls others (.SUCCESS, userInfo) req =
      [.validateLogin req.userId req.password req.role,
       .authenticate userInfo.userId userInfo.role, .registerUser userInfo.userId userInfo.role,
       .sendLogin (UserHandler.loginResponse userInfo)] := rfl

/-- The login is answered with 200. -/
def Accepted (calls : List ConnOp) : Prop :=
  ∃ res : LoginAuthResDTO, .sendLogin res ∈ calls ∧ res.status = 200

/-- Only what `validateLogin` has found is accepted. -/
theorem eq_success_of_accepted {validated : LoginResult × UserInfo} {req : LoginReqDTO}
    (h : Accepted (calls others validated req)) : validated.1 = .SUCCESS := by
  obtain ⟨res, hmem, hstatus⟩ := h
  rcases validated with ⟨_ | _ | _, userInfo⟩
  · rfl
  all_goals
    simp [calls, UserHandler.handleLogin, answers, UserHandler.loginError] at hmem
    subst hmem
    exact absurd hstatus (by decide)

end Calls

/-- The registry after some calls of a request. -/
def after (session : SessionRef) (m : SessionManager) (calls : List ConnOp) : SessionManager :=
  calls.foldl
    (fun m o => match o with
      | .authenticate userId role => m.authenticate session userId role
      | .registerUser userId role => m.registerUser userId role session
      | .removeUser userId => m.removeUser userId
      | .clearAuth => m.clearAuth session
      | _ => m)
    m

/-- **Registered under the stored id**: the key is the stored id, under which pushes reach the
session. -/
structure RegistersAs (session : SessionRef) (m : SessionManager) (calls : List ConnOp)
    (stored : Cell D) : Prop where
  key : ∀ userId role, .registerUser userId role ∈ calls → stored = .string userId
  reached : ∀ userId, stored = .string userId →
    (after session m calls).getSessionByUserId userId = some session

/-! ### The id of the row -/

section Rows

variable [Double D] {c : Sql.Collation} {db : Sql.Tables (Cell D)}
  {limit : Relational.LimitOne (LoginMatch D)} {req : LoginReqDTO}
  {validated : LoginResult × UserInfo} {tr : Faults.Trace (DbOp D)}
  {others : (o : ConnOp) → o.Res}

/-- A login that is accepted has found a row, with a user of this id. -/
theorem exists_match_of_accepted
    (hrun : (readFaults (rows c db limit)).Runs
      (validateLogin req.userId req.password (.ofInt req.role)) [] (.ok validated) tr)
    (haccepted : Accepted (calls others validated req)) :
    ∃ found, limit.choose (loginMatches c db (.string req.userId) (.int (.ofInt req.role))) =
        some found ∧ validated = (.SUCCESS, userInfoOf req.userId found.row) := by
  have hsuccess := eq_success_of_accepted others haccepted
  have hresult := runs_validateLogin hrun
  rw [head?_rows, Except.ok.injEq, Except.ok.injEq] at hresult
  rcases hresult with hlogin | herror
  · cases hfound : limit.choose (loginMatches c db (.string req.userId) (.int (.ofInt req.role)))
    with
    | none =>
      rw [hlogin, hfound] at hsuccess
      cases hsuccess
    | some found =>
      refine ⟨found, rfl, ?_⟩
      rw [hfound, Option.map_some, loginOf] at hlogin
      split at hlogin
      · rw [hlogin] at hsuccess
        cases hsuccess
      · exact hlogin
  · rw [herror] at hsuccess
    cases hsuccess

/-- **A login is registered under the stored id exactly if the id was typed as it is stored.** -/
theorem registersAs_iff (session : SessionRef) (m : SessionManager)
    (hrun : (readFaults (rows c db limit)).Runs
      (validateLogin req.userId req.password (.ofInt req.role)) [] (.ok validated) tr)
    (haccepted : Accepted (calls others validated req)) :
    ∃ found ∈ loginMatches c db (.string req.userId) (.int (.ofInt req.role)),
      limit.choose (loginMatches c db (.string req.userId) (.int (.ofInt req.role))) = some found ∧
      (RegistersAs session m (calls others validated req) (found.user "user_id") ↔
        found.user "user_id" = .string req.userId) := by
  obtain ⟨found, hfound, rfl⟩ := exists_match_of_accepted hrun haccepted
  refine ⟨found, limit.choose_mem hfound, hfound, ?_⟩
  have hcalls := calls_of_success others req (userInfoOf req.userId found.row)
  constructor
  · intro h
    refine h.key req.userId (userInfoOf req.userId found.row).role ?_
    rw [hcalls]
    simp [userInfoOf]
  · intro hstored
    refine ⟨fun userId role hmem => ?_, fun userId huserId => ?_⟩
    · rw [hcalls] at hmem
      have hkey : userId = (userInfoOf req.userId found.row).userId ∧
          role = (userInfoOf req.userId found.row).role := by simpa using hmem
      rw [hkey.1, hstored]
      rfl
    · obtain rfl : req.userId = userId := Cell.string.inj (hstored.symm.trans huserId)
      rw [hcalls]
      exact Function.update_self ..

end Rows

/-! ### A user who types capitals -/

/-- Texts are equal up to the case of their letters. -/
def ignoringCase : Sql.Collation := .upTo fun s => String.ofList (s.toList.map Char.toLower)

def minsu : Sql.Row (Cell Float) := fun column =>
  if column = "user_id" then .string "minsu"
  else if column = "password_hash" then .string "1234"
  else if column = "role" then .int 0
  else .null

/-- One user, without an address. -/
def users : Sql.Tables (Cell Float) := fun table => if table = "USERS" then [minsu] else []

/-- Answers to calls that no login makes. -/
def idle : (o : ConnOp) → o.Res
  | .chat .getUserId | .chat .localtime => ""
  | .chat .getRole | .chat (.createRoom _ _ _) => (0 : ℤ)
  | .chat (.sendToUser _ _) => false
  | .chat (.getRoom _) => (none : Option ChatRoom)
  | .chat (.sendPacket _) | .chat (.broadcastToRole _ _) | .chat (.removeRoom _)
  | .chat (.others _) => ()
  | .validateLogin .. => (.SERVER_ERROR, noInfo)
  | .authenticate _ _ | .registerUser _ _ | .removeUser _ | .clearAuth | .sendLogin _
  | .sendLogout _ _ => ()

/-- A login of the user. -/
def login (inputId : String) : LoginReqDTO := ⟨inputId, "1234", 0⟩

/-- The row that is found. -/
def found : LoginMatch Float := ⟨minsu, fun _ => .null, fun _ => .null, fun _ => .null⟩

section Capitals

variable (inputId : String)

/-- It is found whatever the case of the letters. -/
theorem loginMatches_users (h : ignoringCase.same "minsu" inputId = true) :
    loginMatches ignoringCase users (.string (login inputId).userId)
      (.int (.ofInt (login inputId).role)) = [found] := by
  have hrole : (Cell.int 0 : Cell Float).equal ignoringCase (.int 0) = true := rfl
  simp [loginMatches, users, IsUser, Relational.leftJoin, minsu, SqlParam.cell, Cell.equal, login,
    found, h]

theorem runs_users (h : ignoringCase.same "minsu" inputId = true) : ∃ tr,
    (readFaults (rows ignoringCase users .first)).Runs
      (validateLogin (login inputId).userId (login inputId).password
        (.ofInt (login inputId).role)) []
      (.ok (.SUCCESS, userInfoOf inputId found.row)) tr := by
  have hpassword : cStr "1234" = "1234" := cStr_eq_self.mpr (by decide)
  have hresult : loginOf inputId "1234" (some found.row) =
      (.SUCCESS, userInfoOf inputId found.row) := by
    rw [loginOf]
    exact if_neg (not_not_intro hpassword)
  have hread := read_validateLogin (rows ignoringCase users .first) (login inputId).userId
    (login inputId).password (.ofInt (login inputId).role)
  rw [head?_rows, loginMatches_users inputId h] at hread
  exact exists_runs_of_read (hread.trans (congrArg Except.ok hresult))

theorem accepted_users :
    Accepted (calls idle (.SUCCESS, userInfoOf inputId found.row) (login inputId)) := by
  rw [calls_of_success]
  exact ⟨UserHandler.loginResponse (userInfoOf inputId found.row), by simp, rfl⟩

end Capitals

theorem registersAs_iff_minsu : ∃ found ∈ loginMatches ignoringCase users
      (.string (login "minsu").userId) (.int (.ofInt (login "minsu").role)),
    Relational.LimitOne.first.choose (loginMatches ignoringCase users
      (.string (login "minsu").userId) (.int (.ofInt (login "minsu").role))) = some found ∧
    (RegistersAs 0 .init
        (calls idle (.SUCCESS, userInfoOf "minsu" Logins.found.row) (login "minsu"))
        (found.user "user_id") ↔
      found.user "user_id" = .string (login "minsu").userId) := by
  obtain ⟨tr, hrun⟩ := runs_users "minsu" (ignoringCase.same_self "minsu")
  exact registersAs_iff 0 .init hrun (accepted_users "minsu")

/-- **A user who types capitals**: the database finds `minsu` for `MinSu`, the session is registered
as `MinSu`, and what is pushed to `minsu` does not reach it. -/
theorem not_registersAs_capitals : ∃ validated tr,
    (readFaults (rows ignoringCase users .first)).Runs
      (validateLogin "MinSu" "1234" (.ofInt 0)) [] (.ok validated) tr ∧
    Accepted (calls idle validated (login "MinSu")) ∧
    ¬RegistersAs 0 .init (calls idle validated (login "MinSu")) (minsu "user_id") ∧
    (after 0 .init (calls idle validated (login "MinSu"))).getSessionByUserId "minsu" = none := by
  obtain ⟨tr, hrun⟩ := runs_users "MinSu" (by decide +kernel)
  have hcalls := calls_of_success idle (login "MinSu") (userInfoOf "MinSu" found.row)
  refine ⟨_, tr, hrun, accepted_users "MinSu", fun h => ?_, ?_⟩
  · have hkey := h.key "MinSu" (userInfoOf "MinSu" found.row).role (by
      rw [hcalls]
      simp [userInfoOf])
    exact absurd (Cell.string.inj hkey) (by decide)
  · rw [hcalls]
    rfl

end ItsBedalyo.Logins
