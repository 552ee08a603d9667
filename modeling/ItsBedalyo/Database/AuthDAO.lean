import ItsBedalyo.Database.StoredTables
import ItsBedalyo.Handler.RequestOrder
import ItsBedalyo.Lib.Relational

/-!
# The rows of a login: `AuthDAO.cpp`

`validateLogin` joins a user with the default address, the owner and the store, and takes one row of
that. The id that it reports is the one that it was given, and the rest comes from the row
(`userInfoOf`). Any of its calls may throw, and it catches that.
-/

namespace ItsBedalyo

variable {D : Type}

namespace Cell

/-- A number in decimals. -/
def decimalOr (cell : Cell D) (otherwise : String) : String :=
  if cell.isNull then otherwise else toString cell.toInt.toInt

end Cell

namespace Pages.AuthDAO

open DbProg

/-- A number in decimals. -/
def decimalOr (row : ResultRow D) (column otherwise : String) : DbProg D String := do
  if ← isNull row column then
    pure otherwise
  else
    let n ← getInt row column
    pure (toString n.toInt)

/-- `userInfo` of an owner. -/
def readOwner (row : ResultRow D) : DbProg D OwnerInfo := do
  let storeId ← intOr row "store_id" 0
  let storeName ← cStringOr row "store_name" ""
  let category ← cStringOr row "category" ""
  let storeAddress ← cStringOr row "store_address" ""
  let cookTime ← decimalOr row "cook_time" "0"
  let minOrderAmount ← decimalOr row "min_order_amount" "0"
  let openTime ← cStringOr row "open_time" ""
  let closeTime ← cStringOr row "close_time" ""
  let accountNumber ← cStringOr row "account_number" ""
  let businessNumber ← cStringOr row "business_number" ""
  let approvalStatus ← intOr row "approval_status" 0
  pure { storeId := storeId.toInt, storeName, category, storeAddress, cookTime, minOrderAmount,
         openTime, closeTime, accountNumber, businessNumber,
         approvalStatus := approvalStatus.toInt }

/-- The default address and its detail. -/
def fullAddress (mainAddr detailAddr : String) : String :=
  if mainAddr ≠ "" ∧ detailAddr ≠ "" then mainAddr ++ " " ++ detailAddr else mainAddr

/-- `userInfo["address"]`, for a customer only. -/
def readAddress (row : ResultRow D) : DbProg D String := do
  if (← getInt row "role") = 0 then
    let mainAddr ← cStringOr row "address" ""
    let detailAddr ← cStringOr row "detail" ""
    pure (fullAddress mainAddr detailAddr)
  else
    pure ""

/-- For an owner only. -/
def readOwner? (row : ResultRow D) : DbProg D (Option OwnerInfo) := do
  if (← getInt row "role") = 1 then
    let owner ← readOwner row
    pure (some owner)
  else
    pure none

/-- `userInfo` after the checks. -/
def readUserInfo (inputId : String) (row : ResultRow D) : DbProg D UserInfo := do
  let userName ← getString row "user_name"
  let phoneNumber ← cStringOr row "phone_number" ""
  let role ← getInt row "role"
  let grade ← cStringOr row "grade" "일반"
  let address ← readAddress row
  let owner ← readOwner? row
  pure { userId := inputId, userName := cStr userName, phoneNumber, role := role.toInt, grade,
         address, owner }

/-- `userInfo` where nobody reads it. -/
def noInfo : UserInfo :=
  { userId := "", userName := "", phoneNumber := "", role := 0, grade := "", address := "",
    owner := none }

def loginQuery : String :=
  "SELECT U.password_hash, U.user_name, U.phone_number, U.role, U.grade, " ++
  "UA.address, UA.detail, O.account_number, O.approval_status, O.business_number, " ++
  "S.store_id, S.store_name, S.category, S.store_address, " ++
  "S.cook_time, S.min_order_amount, S.open_time, S.close_time FROM USERS U " ++
  "LEFT JOIN USER_ADDRESSES UA ON U.user_id = UA.user_id AND UA.is_default = 1 " ++
  "LEFT JOIN OWNERS O ON U.user_id = O.user_id LEFT JOIN STORES S ON U.user_id = S.owner_id " ++
  "WHERE U.user_id = ? AND U.role = ? LIMIT 1"

/-- The code in the `try`. -/
def findLogin (inputId inputPw : String) (role : Int32) :
    DbProg D (LoginResult × UserInfo) := do
  let rows ← select loginQuery [.string inputId, .int role]
  match ← first rows with
  | none => pure (.ID_PASS_WRONG, noInfo)
  | some row =>
    let dbPassword ← getString row "password_hash"
    if cStr dbPassword ≠ inputPw then
      pure (.ID_PASS_WRONG, noInfo)
    else
      let userInfo ← readUserInfo inputId row
      pure (.SUCCESS, userInfo)

def validateLogin (inputId inputPw : String) (role : Int32) : DbProg D (LoginResult × UserInfo) :=
  catchSql (findLogin inputId inputPw role) (.SERVER_ERROR, noInfo)

/-! ### What a row says -/

/-- The owner of a row. -/
def ownerOf (row : ResultRow D) : OwnerInfo :=
  { storeId := ((row "store_id").intOr 0).toInt
    storeName := (row "store_name").cTextOr ""
    category := (row "category").cTextOr ""
    storeAddress := (row "store_address").cTextOr ""
    cookTime := (row "cook_time").decimalOr "0"
    minOrderAmount := (row "min_order_amount").decimalOr "0"
    openTime := (row "open_time").cTextOr ""
    closeTime := (row "close_time").cTextOr ""
    accountNumber := (row "account_number").cTextOr ""
    businessNumber := (row "business_number").cTextOr ""
    approvalStatus := ((row "approval_status").intOr 0).toInt }

/-- The user of a row, who is called `inputId`. -/
def userInfoOf (inputId : String) (row : ResultRow D) : UserInfo :=
  { userId := inputId
    userName := cStr (row "user_name").toText
    phoneNumber := (row "phone_number").cTextOr ""
    role := (row "role").toInt.toInt
    grade := (row "grade").cTextOr "일반"
    address :=
      if (row "role").toInt = 0 then
        fullAddress ((row "address").cTextOr "") ((row "detail").cTextOr "")
      else ""
    owner := if (row "role").toInt = 1 then some (ownerOf row) else none }

/-- What a login comes to, from the row that is found. -/
def loginOf (inputId inputPw : String) : Option (ResultRow D) → LoginResult × UserInfo
  | none => (.ID_PASS_WRONG, noInfo)
  | some row =>
    if cStr (row "password_hash").toText ≠ inputPw then (.ID_PASS_WRONG, noInfo)
    else (.SUCCESS, userInfoOf inputId row)

section Reading

variable [Double D] (rows : String → List SqlParam → List (ResultRow D)) (row : ResultRow D)
  (column otherwise inputId inputPw : String) (role : Int32)

@[simp] theorem read_decimalOr :
    read rows (decimalOr row column otherwise) = .ok ((row column).decimalOr otherwise) := by
  rw [decimalOr, read_bind]
  show read rows (if (row column).isNull then _ else _) =
    .ok (if (row column).isNull then _ else _)
  split <;> rfl

@[simp] theorem read_readOwner : read rows (readOwner row) = .ok (ownerOf row) := by
  simp only [readOwner, read_bind, read_intOr, read_cStringOr, read_decimalOr, read_pure]
  rfl

@[simp] theorem read_readUserInfo :
    read rows (readUserInfo inputId row) = .ok (userInfoOf inputId row) := by
  have haddress : read rows (readAddress row) = .ok (userInfoOf inputId row).address := by
    simp only [readAddress, userInfoOf, read_bind, read_getInt]
    split <;> simp
  have howner : read rows (readOwner? row) = .ok (userInfoOf inputId row).owner := by
    simp only [readOwner?, userInfoOf, read_bind, read_getInt]
    split <;> simp
  simp only [readUserInfo, read_bind, read_getString, read_cStringOr, read_getInt, haddress, howner,
    read_pure]
  rfl

@[simp] theorem read_findLogin : read rows (findLogin inputId inputPw role) =
    .ok (loginOf inputId inputPw (rows loginQuery [.string inputId, .int role]).head?) := by
  rw [findLogin, read_bind, read_select]
  simp only [read_bind, read_first]
  cases (rows loginQuery [.string inputId, .int role]).head? with
  | none => rfl
  | some row =>
    simp only [read_bind, read_getString, loginOf]
    split
    · rfl
    · simp

theorem read_validateLogin : read rows (validateLogin inputId inputPw role) =
    .ok (loginOf inputId inputPw (rows loginQuery [.string inputId, .int role]).head?) := by
  rw [validateLogin, read_catchSql, read_findLogin]
  rfl

end Reading

/-! ### The tables -/

/-- A user with the rows that are joined to it. -/
structure LoginMatch (D : Type) where
  user : Sql.Row (Cell D)
  address : Sql.Row (Cell D)
  owner : Sql.Row (Cell D)
  store : Sql.Row (Cell D)

/-- The columns of the query. -/
def LoginMatch.row (m : LoginMatch D) : ResultRow D := fun column =>
  if column ∈ ["password_hash", "user_name", "phone_number", "role", "grade"] then m.user column
  else if column ∈ ["address", "detail"] then m.address column
  else if column ∈ ["account_number", "approval_status", "business_number"] then m.owner column
  else m.store column

section Tables

variable (c : Sql.Collation) (db : Sql.Tables (Cell D))

/-- `U.user_id = ? AND U.role = ?` -/
def IsUser (id role : SqlParam) (user : Sql.Row (Cell D)) : Bool :=
  (user "user_id").equal c id.cell && (user "role").equal c role.cell

/-- `U.user_id = …` of a joined table. -/
def joins (column : String) (user row : Sql.Row (Cell D)) : Bool :=
  (user "user_id").equal c (row column)

/-- The rows that the conditions leave, before `LIMIT 1`. -/
def loginMatches (id role : SqlParam) : List (LoginMatch D) :=
  let users := (db "USERS").filter (IsUser c id role)
  let addresses := Relational.leftJoin
    (fun user ua => joins c "user_id" user ua && (ua "is_default").equal c (.int 1))
    (fun _ => .null) users (db "USER_ADDRESSES")
  let owners := Relational.leftJoin (fun m => joins c "user_id" m.1) (fun _ => .null) addresses
    (db "OWNERS")
  let stores := Relational.leftJoin (fun m => joins c "owner_id" m.1.1) (fun _ => .null) owners
    (db "STORES")
  stores.map fun m => ⟨m.1.1.1, m.1.1.2, m.1.2, m.2⟩

/-- What a query of a login finds, by its conditions. -/
def rowsWhere (limit : Relational.LimitOne (LoginMatch D)) :
    List (String × String) → List SqlParam → List (ResultRow D)
  | [("U.user_id", "="), ("U.role", "=")], [id, role] =>
    ((limit.choose (loginMatches c db id role)).map LoginMatch.row).toList
  | _, _ => []

def rows (limit : Relational.LimitOne (LoginMatch D)) (query : String) (params : List SqlParam) :
    List (ResultRow D) := rowsWhere c db limit (Sql.summary query).2 params

theorem summary_loginQuery :
    Sql.summary loginQuery = (2, [("U.user_id", "="), ("U.role", "=")]) := by
  unfold loginQuery Sql.summary
  simp only [String.toList_append]
  repeat rw [String.toList_ofList]
  decide +kernel

theorem head?_rows (limit : Relational.LimitOne (LoginMatch D)) (inputId : String) (role : Int32) :
    (rows c db limit loginQuery [.string inputId, .int role]).head? =
      (limit.choose (loginMatches c db (.string inputId) (.int role))).map LoginMatch.row := by
  rw [rows, summary_loginQuery]
  exact Option.head?_toList

variable {c db}

/-- The rows of a match are rows of their tables; where nothing fits the user, there is `NULL`. -/
theorem of_mem_loginMatches {id role : SqlParam} {m : LoginMatch D}
    (h : m ∈ loginMatches c db id role) :
    (m.user ∈ db "USERS" ∧ IsUser c id role m.user = true) ∧
      (m.owner ∈ db "OWNERS" ∧ joins c "user_id" m.user m.owner = true ∨
        m.owner = (fun _ => .null) ∧ ∀ row ∈ db "OWNERS", joins c "user_id" m.user row = false) ∧
      (m.store ∈ db "STORES" ∧ joins c "owner_id" m.user m.store = true ∨
        m.store = (fun _ => .null) ∧
          ∀ row ∈ db "STORES", joins c "owner_id" m.user row = false) := by
  obtain ⟨joined, hjoined, rfl⟩ := List.mem_map.mp h
  obtain ⟨howners, hstore⟩ := Relational.mem_of_mem_leftJoin hjoined
  obtain ⟨haddresses, howner⟩ := Relational.mem_of_mem_leftJoin howners
  have huser := (Relational.mem_of_mem_leftJoin haddresses).1
  exact ⟨List.mem_filter.mp huser, howner, hstore⟩

end Tables

/-! ### Calls that throw -/

section Faults

open Prog Faults Interface

/-- A database that finds `rows`, where every call may throw. -/
abbrev readFaults [Double D] (rows : String → List SqlParam → List (ResultRow D)) :
    Interface (@DbOp.Res D) SqlException (Trace (DbOp D)) := faulty (readOnly rows) fun _ _ => true

variable (row : ResultRow D) (column otherwise inputId inputPw : String) (role : Int32)

theorem propagates_intOr (otherwise : Int32) : (intOr row column otherwise).Propagates :=
  (Propagates.op _).bind fun _ => .ite (.pure _) (.op _)

theorem propagates_cStringOr : (cStringOr row column otherwise).Propagates :=
  (Propagates.op _).bind fun _ => .ite (.pure _) ((Propagates.op _).bind fun _ => .pure _)

theorem propagates_decimalOr : (decimalOr row column otherwise).Propagates :=
  (Propagates.op _).bind fun _ => .ite (.pure _) ((Propagates.op _).bind fun _ => .pure _)

theorem propagates_readOwner : (readOwner row).Propagates := by
  refine (propagates_intOr row ..).bind fun _ => ?_
  iterate 3 refine (propagates_cStringOr row ..).bind fun _ => ?_
  iterate 2 refine (propagates_decimalOr row ..).bind fun _ => ?_
  iterate 4 refine (propagates_cStringOr row ..).bind fun _ => ?_
  exact (propagates_intOr row ..).bind fun _ => .pure _

theorem propagates_readAddress : (readAddress row).Propagates := by
  refine (Propagates.op _).bind fun _ => .ite ?_ (.pure _)
  refine (propagates_cStringOr row ..).bind fun _ => ?_
  exact (propagates_cStringOr row ..).bind fun _ => .pure _

theorem propagates_readUserInfo : (readUserInfo inputId row).Propagates := by
  have howner : (readOwner? row).Propagates := by
    refine (Propagates.op _).bind fun _ => .ite ?_ (.pure _)
    exact (propagates_readOwner row).bind fun _ => .pure _
  refine (Propagates.op _).bind fun _ => (propagates_cStringOr row ..).bind fun _ => ?_
  refine (Propagates.op _).bind fun _ => (propagates_cStringOr row ..).bind fun _ => ?_
  exact (propagates_readAddress row).bind fun _ => howner.bind fun _ => .pure _

theorem propagates_findLogin :
    (findLogin inputId inputPw role : DbProg D (LoginResult × UserInfo)).Propagates := by
  refine ((Propagates.op _).bind fun _ => .op _).bind fun found => ?_
  refine ((Propagates.op _).bind fun _ => .pure _).bind fun found => ?_
  cases found with
  | none => exact .pure _
  | some row =>
    refine (Propagates.op _).bind fun _ => .ite (.pure _) ?_
    exact (propagates_readUserInfo row inputId).bind fun _ => .pure _

variable [Double D] {rows : String → List SqlParam → List (ResultRow D)}

/-- What code reads is what it may end in. -/
theorem exists_runs_of_read {α : Type} {p : DbProg D α} {a : α} (h : p.read rows = .ok a) :
    ∃ tr, (readFaults rows).Runs p [] (.ok a) tr := by
  have hruns : (readFaults rows).Runs p [] (p.read rows) _ := runs_eval p []
  rw [h] at hruns
  exact ⟨_, hruns⟩

variable {inputId inputPw role} {r : Except SqlException (LoginResult × UserInfo)}
  {tr : Trace (DbOp D)}

/-- **A login** comes to what the row says, or to an error of the server. -/
theorem runs_validateLogin
    (h : (readFaults rows).Runs (validateLogin inputId inputPw role) [] r tr) :
    r = .ok (loginOf inputId inputPw (rows loginQuery [.string inputId, .int role]).head?) ∨
      r = .ok (.SERVER_ERROR, noInfo) := by
  refine (wp_iff_forall_runs (I := readFaults rows) (Q := fun r _ => r = _ ∨ r = _)
    fun _ _ => trivial).mp ?_ r tr h
  rw [validateLogin, catchSql, wp_tryCatch]
  refine wp_mono (fun r _ hr => ?_) (propagates_findLogin inputId inputPw role).wp_eval
  rcases hr with rfl | ⟨e, rfl⟩
  · have hread := read_findLogin rows inputId inputPw role
    rw [DbProg.read] at hread
    rw [hread]
    exact .inl rfl
  · exact .inr rfl

end Faults

end Pages.AuthDAO

end ItsBedalyo
