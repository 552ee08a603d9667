import ItsBedalyo.Database.GapLocks
import ItsBedalyo.Database.Queries
import ItsBedalyo.Handler.Signup

/-!
# The two copies of a grade

A user's grade is kept in `USERS.grade` and in `CUSTOMERS.customer_grade`: log-in reports the
first, checkout takes the delivery fee from the second. `handleGradeUpdate` and
`updateMembershipGrade` write both, one statement each, and sign-up relies on the two columns
having the same default.

Any number of these calls run at once, one operation at a time. A call's transaction is always in
one of the stages of `GradeStage`; what a stage says of the tables (`Fits`) nobody else can change,
since the rows the transaction has written, and those it has looked for in vain, are locked. A
transaction that may be committed leaves the copies equal (`GradesInStep.writes`).

Log-in reads its copy with `c_str()`, checkout does not: for the fee to be the one of the reported
grade, no call of `updateMembershipGrade` may be given a grade with a NUL.
-/

namespace ItsBedalyo

open RowLocking Interface AccountStatement

/-! ### Who reads the grades -/

/-- The grade that `validateLogin` reports, if it lets the user in: `userInfo["grade"]`. -/
def AuthDAO.loginGrade {κ : Type} [DecidableEq κ] (key : String → κ) (db : AccountTables κ)
    (inputId inputPw : String) (role : ℤ) : Option String :=
  match db.users.lookup (key inputId) with
  | some row =>
    if row.role = role ∧ cStr row.passwordHash = inputPw then
      some ((row.grade.map cStr).getD "일반")
    else none
  | none => none

/-- The fields of `ResCheckoutInfoDTO` that depend on the grade. -/
structure CheckoutGrade where
  customerGrade : String
  appliedDeliveryFee : ℤ
  deriving DecidableEq

/-- What `handleCheckoutInfo` makes of the `CUSTOMERS` row, for a store's delivery fee. -/
def OrderHandler.checkoutGrade {κ : Type} [DecidableEq κ] (key : String → κ)
    (db : AccountTables κ) (userId : String) (deliveryFee : ℤ) : CheckoutGrade :=
  let customerGrade :=
    match db.customers.lookup (key userId) with
    | some row => row.customerGrade.getD "일반"
    | none => ""
  ⟨customerGrade, if customerGrade = "와우" then 0 else deliveryFee⟩

section Tables

variable {κ : Type} [DecidableEq κ]

/-- The copies agree, and no customer is without its user. -/
structure GradesInStep (db : AccountTables κ) : Prop where
  agree : ∀ k user customer, db.users.lookup k = some user → db.customers.lookup k = some customer →
    user.grade = customer.customerGrade
  hasUser : ∀ k ∈ db.customers, k ∈ db.users

/-- The grades of `USERS` all satisfy `ok`. -/
def AccountTables.Graded (ok : String → Prop) (db : AccountTables κ) : Prop :=
  ∀ k user, db.users.lookup k = some user → ∀ grade ∈ user.grade, ok grade

/-- Where copies agree, checkout goes by the grade that log-in reports, if it has no NUL. -/
theorem GradesInStep.checkout {db : AccountTables κ} (h : GradesInStep db)
    (hwhole : db.Graded fun grade => '\x00' ∉ grade.toList) {key : String → κ}
    {userId pw grade : String} {role : ℤ}
    (hlogin : AuthDAO.loginGrade key db userId pw role = some grade)
    (hcustomer : key userId ∈ db.customers) (deliveryFee : ℤ) :
    OrderHandler.checkoutGrade key db userId deliveryFee =
      ⟨grade, if grade = "와우" then 0 else deliveryFee⟩ := by
  unfold AuthDAO.loginGrade at hlogin
  split at hlogin
  · next user huser =>
    obtain ⟨-, hgrade⟩ := Option.ite_none_right_eq_some.mp hlogin
    obtain ⟨customer, hlookup⟩ := Option.isSome_iff_exists.mp (AList.lookup_isSome.mpr hcustomer)
    have hagree := h.agree _ user customer huser hlookup
    have hcut : user.grade.map cStr = user.grade := by
      refine (Option.map_congr fun stored hstored => ?_).trans Option.map_id'
      exact cStr_eq_self.mpr (hwhole _ user huser stored hstored)
    rw [hcut] at hgrade
    simp only [OrderHandler.checkoutGrade, hlookup, ← hagree]
    rw [Option.some.inj hgrade]
  · cases hlogin

/-- The writes of a sign-up after the one to `USERS`: a customer is its user's, with the default
grade. -/
def RoleRows (k : κ) (ws : List (AccountWrite κ)) : Prop :=
  ∀ u ∈ ws, match u with
    | .user _ _ => False
    | .customer k' customer => k' = k ∧ customer.customerGrade = defaultGrade
    | _ => True

omit [DecidableEq κ] in
theorem RoleRows.concat {k : κ} {ws : List (AccountWrite κ)} (h : RoleRows k ws)
    {u : AccountWrite κ} (hu : RoleRows k [u]) : RoleRows k (ws ++ [u]) := by
  intro u' hu'
  rcases List.mem_append.mp hu' with hold | hnew
  · exact h u' hold
  · exact hu u' hnew

/-- Where a call is with its transaction. -/
inductive GradeStage (κ : Type)
  /-- autocommit mode -/
  | auto
  /-- a transaction that has written nothing -/
  | opened
  /-- a user inserted, with some of the rows of its role -/
  | inserted (k : κ) (row : UserRow) (ws : List (AccountWrite κ))
  /-- a user's grade set; `row` is the one after -/
  | userSet (k : κ) (row : UserRow)
  /-- the user not found -/
  | userMissing (k : κ)
  /-- both grades set -/
  | bothSet (k : κ) (row : UserRow) (customer : CustomerRow)
  /-- a user's grade set, and no customer found -/
  | customerMissing (k : κ) (row : UserRow)
  /-- neither found -/
  | bothMissing (k : κ)

namespace GradeStage

/-- What the transaction has written. -/
def pending : GradeStage κ → List (AccountWrite κ)
  | auto | opened | userMissing _ | bothMissing _ => []
  | inserted k row ws => .user k row :: ws
  | userSet k row | customerMissing k row => [.user k row]
  | bothSet k row customer => [.user k row, .customer k customer]

/-- The rows it has looked for in vain. -/
def missing : GradeStage κ → List (AccountRow κ)
  | userMissing k => [.user k]
  | customerMissing k _ => [.customer k]
  | bothMissing k => [.user k, .customer k]
  | _ => []

/-- The connection of a call in this stage. -/
def conn : GradeStage κ → RowLocking.Connection (AccountWrite κ)
  | auto => ⟨true, []⟩
  | stage => ⟨false, stage.pending⟩

/-- What a stage says of its writes and of the committed tables, if `ok` holds of every grade that a
call sets. -/
def Fits (ok : String → Prop) (db : AccountTables κ) : GradeStage κ → Prop
  | auto | opened | bothMissing _ => True
  | userSet _ row => ∀ grade ∈ row.grade, ok grade
  | inserted k row ws => k ∉ db.users ∧ row.grade = defaultGrade ∧ RoleRows k ws
  | userMissing k => k ∉ db.users
  | bothSet _ row customer =>
    row.grade = customer.customerGrade ∧ ∀ grade ∈ row.grade, ok grade
  | customerMissing k row => k ∉ db.customers ∧ ∀ grade ∈ row.grade, ok grade

/-- No transaction is open, or it has written nothing and missed nothing. -/
def Clean : GradeStage κ → Prop
  | auto | opened => True
  | _ => False

/-- The transaction may be committed. -/
def Complete : GradeStage κ → Prop
  | auto | userSet _ _ => False
  | _ => True

/-- The stage after `rollback()`. -/
def rolledBack : GradeStage κ → GradeStage κ
  | auto => auto
  | _ => opened

end GradeStage

variable {key : String → κ} {ok : String → Prop}

/-- Inserting a user and a customer with one grade keeps the copies in step. -/
theorem GradesInStep.insert_both {db : AccountTables κ} (h : GradesInStep db) {k : κ}
    {row : UserRow} {customer : CustomerRow} (heq : row.grade = customer.customerGrade) :
    GradesInStep { db with
      users := db.users.insert k row, customers := db.customers.insert k customer } := by
  constructor
  · intro k' user customer' huser hcustomer
    rcases eq_or_ne k' k with rfl | hne
    · rw [AList.lookup_insert] at huser hcustomer
      rw [← Option.some.inj huser, ← Option.some.inj hcustomer]
      exact heq
    · rw [AList.lookup_insert_ne hne] at huser hcustomer
      exact h.agree k' user customer' huser hcustomer
  · intro k' hk'
    rw [AList.mem_insert] at hk' ⊢
    exact hk'.imp id (h.hasUser k')

/-- So does writing a user who has no customer. -/
theorem GradesInStep.insert_user {db : AccountTables κ} (h : GradesInStep db) {k : κ}
    {row : UserRow} (hk : k ∉ db.customers) :
    GradesInStep { db with users := db.users.insert k row } := by
  constructor
  · intro k' user customer huser hcustomer
    rcases eq_or_ne k' k with rfl | hne
    · rw [AList.lookup_eq_none.mpr hk] at hcustomer
      cases hcustomer
    · rw [AList.lookup_insert_ne hne] at huser
      exact h.agree k' user customer huser hcustomer
  · exact fun k' hk' => (AList.mem_insert _).mpr (.inr (h.hasUser k' hk'))

/-- And so does writing the customer of a user with that grade. -/
theorem GradesInStep.insert_customer {db : AccountTables κ} (h : GradesInStep db) {k : κ}
    {row : UserRow} {customer : CustomerRow} (hrow : db.users.lookup k = some row)
    (heq : row.grade = customer.customerGrade) :
    GradesInStep { db with customers := db.customers.insert k customer } := by
  constructor
  · intro k' user customer' huser hcustomer
    rcases eq_or_ne k' k with rfl | hne
    · rw [AList.lookup_insert] at hcustomer
      rw [← Option.some.inj (hrow.symm.trans huser), ← Option.some.inj hcustomer]
      exact heq
    · rw [AList.lookup_insert_ne hne] at hcustomer
      exact h.agree k' user customer' huser hcustomer
  · intro k' hk'
    rcases (AList.mem_insert _).mp hk' with rfl | hk'
    · exact AList.lookup_isSome.mp (Option.isSome_iff_exists.mpr ⟨row, hrow⟩)
    · exact h.hasUser k' hk'

/-- The rows of a role keep the copies in step once their user is there. -/
theorem GradesInStep.writes_role {k : κ} {row : UserRow} (hgrade : row.grade = defaultGrade)
    {ws : List (AccountWrite κ)} (hws : RoleRows k ws) {db : AccountTables κ}
    (h : GradesInStep db) (hrow : db.users.lookup k = some row) :
    GradesInStep ((AccountTables.storage key).writes db ws) := by
  induction ws generalizing db with
  | nil => exact h
  | cons u ws ih =>
    have hu := hws u (.head _)
    have hrest : RoleRows k ws := fun u' hu' => hws u' (.tail _ hu')
    cases u with
    | user => exact hu.elim
    | customer k' customer =>
      obtain ⟨rfl, hcustomer⟩ := hu
      exact ih hrest (h.insert_customer hrow (hgrade.trans hcustomer.symm)) hrow
    | owner | store | addresses => exact ih hrest ⟨h.agree, h.hasUser⟩ hrow

/-- **A complete transaction keeps the copies in step.** -/
theorem GradesInStep.writes {db : AccountTables κ} (h : GradesInStep db) {stage : GradeStage κ}
    (hcomplete : stage.Complete) (hfits : stage.Fits ok db) :
    GradesInStep ((AccountTables.storage key).writes db stage.pending) := by
  cases stage with
  | auto | userSet => exact hcomplete.elim
  | opened | userMissing | bothMissing => exact h
  | inserted k row ws =>
    obtain ⟨hnew, hgrade, hws⟩ := hfits
    have huser : GradesInStep (db.write key (.user k row)) :=
      h.insert_user fun hk => hnew (h.hasUser k hk)
    exact huser.writes_role hgrade hws (AList.lookup_insert _)
  | bothSet k row customer => exact h.insert_both hfits.1
  | customerMissing k row => exact h.insert_user hfits.1

/-- Writing a user with such a grade leaves all grades so. -/
theorem AccountTables.Graded.insert_user {db : AccountTables κ} (h : db.Graded ok) {k : κ}
    {row : UserRow} (hrow : ∀ grade ∈ row.grade, ok grade) :
    AccountTables.Graded ok { db with users := db.users.insert k row } := by
  intro k' user huser
  rcases eq_or_ne k' k with rfl | hne
  · rw [AList.lookup_insert] at huser
    rw [← Option.some.inj huser]
    exact hrow
  · rw [AList.lookup_insert_ne hne] at huser
    exact h k' user huser

/-- The rows of a role have nothing to do with the grades of `USERS`. -/
theorem AccountTables.Graded.writes_role {k : κ} {ws : List (AccountWrite κ)}
    (hws : RoleRows k ws) {db : AccountTables κ} (h : db.Graded ok) :
    ((AccountTables.storage key).writes db ws).Graded ok := by
  induction ws generalizing db with
  | nil => exact h
  | cons u ws ih =>
    have hu := hws u (.head _)
    have hrest : RoleRows k ws := fun u' hu' => hws u' (.tail _ hu')
    cases u with
    | user => exact hu.elim
    | customer | owner | store | addresses => exact ih hrest h

/-- A complete transaction writes only such grades. -/
theorem AccountTables.Graded.writes {db : AccountTables κ} (h : db.Graded ok)
    (hdefault : ∀ grade ∈ defaultGrade, ok grade) {stage : GradeStage κ}
    (hcomplete : stage.Complete) (hfits : stage.Fits ok db) :
    ((AccountTables.storage key).writes db stage.pending).Graded ok := by
  cases stage with
  | auto | userSet => exact hcomplete.elim
  | opened | userMissing | bothMissing => exact h
  | inserted k row ws =>
    obtain ⟨-, hgrade, hws⟩ := hfits
    exact AccountTables.Graded.writes_role hws (h.insert_user (hgrade ▸ hdefault))
  | bothSet k row customer => exact h.insert_user hfits.2
  | customerMissing k row => exact h.insert_user hfits.2

/-- Nobody else inserts the user whose row is locked. -/
theorem notMem_users_write {db : AccountTables κ} {k : κ} {u : AccountWrite κ}
    (hu : u.row? ≠ some (.user k)) (hk : k ∉ db.users) : k ∉ (db.write key u).users := by
  cases u with
  | user k' row =>
    have hne : k ≠ k' := fun h => hu (congrArg (fun k => some (AccountRow.user k)) h.symm)
    exact fun hmem => ((AList.mem_insert _).mp hmem).elim hne hk
  | customer | owner | store | addresses => exact hk

theorem notMem_customers_write {db : AccountTables κ} {k : κ} {u : AccountWrite κ}
    (hu : u.row? ≠ some (.customer k)) (hk : k ∉ db.customers) :
    k ∉ (db.write key u).customers := by
  cases u with
  | customer k' row =>
    have hne : k ≠ k' := fun h => hu (congrArg (fun k => some (AccountRow.customer k)) h.symm)
    exact fun hmem => ((AList.mem_insert _).mp hmem).elim hne hk
  | user | owner | store | addresses => exact hk

namespace GradeStage

/-- What a stage says is not changed by writes to other rows. -/
theorem stable (stage : GradeStage κ) : StableOutside (AccountTables.storage key)
    (stage.conn.pending.filterMap AccountWrite.row? ++ stage.missing)
    (fun db => stage.Fits ok db) := by
  intro db u hu hfits
  have hne : ∀ x ∈ stage.conn.pending.filterMap AccountWrite.row? ++ stage.missing,
      u.row? ≠ some x := fun x hx hux => hu x hux hx
  cases stage with
  | auto | opened | bothMissing => trivial
  | userSet | bothSet => exact hfits
  | inserted k row ws => exact ⟨notMem_users_write (hne _ (.head _)) hfits.1, hfits.2⟩
  | userMissing k => exact notMem_users_write (hne _ (.head _)) hfits
  | customerMissing k row =>
    exact ⟨notMem_customers_write (hne _ (.tail _ (.head _))) hfits.1, hfits.2⟩

end GradeStage

end Tables

/-! ### A call -/

section Call

variable {κ : Type} (key : String → κ) (ok : String → Prop)

/-- The statements a call runs, stage by stage. -/
inductive GradeStage.Ready : GradeStage κ → AccountStatement → Prop
  | insertUser {userId password userName phoneNumber : String} {role : ℤ} :
      Ready .opened (insertUser userId password userName phoneNumber role)
  | insertCustomer {row : UserRow} {ws : List (AccountWrite κ)} {userId address : String} :
      Ready (.inserted (key userId) row ws) (insertCustomer userId address)
  | insertOwner {k : κ} {row : UserRow} {ws : List (AccountWrite κ)}
      {userId businessNumber accountNumber : String} :
      Ready (.inserted k row ws) (insertOwner userId businessNumber accountNumber)
  | insertStore {k : κ} {row : UserRow} {ws : List (AccountWrite κ)}
      {ownerId storeName category storeAddress : String} :
      Ready (.inserted k row ws) (insertStore ownerId storeName category storeAddress)
  | setUserGrade {grade userId : String} : ok grade → Ready .opened (setUserGrade grade userId)
  | setCustomerGrade {row : UserRow} {grade userId : String} : row.grade = some grade →
      Ready (.userSet (key userId) row) (setCustomerGrade grade userId)
  | setMissingGrade {grade userId : String} :
      Ready (.userMissing (key userId)) (setCustomerGrade grade userId)

/-- What comes of a statement. -/
inductive GradeStage.After : GradeStage κ → AccountStatement → GradeStage κ → Prop
  | insertUser {userId password userName phoneNumber : String} {role : ℤ} :
      After .opened (insertUser userId password userName phoneNumber role)
        (.inserted (key userId) ⟨password, userName, phoneNumber, role, defaultGrade⟩ [])
  | insertRole {k : κ} {row : UserRow} {ws ws' : List (AccountWrite κ)}
      {stmt : AccountStatement} : After (.inserted k row ws) stmt (.inserted k row (ws ++ ws'))
  | userSet {grade userId : String} {row : UserRow} : row.grade = some grade →
      After .opened (setUserGrade grade userId) (.userSet (key userId) row)
  | userMissing {grade userId : String} :
      After .opened (setUserGrade grade userId) (.userMissing (key userId))
  | bothSet {k : κ} {row : UserRow} {customer : CustomerRow} {grade userId : String} :
      After (.userSet k row) (setCustomerGrade grade userId) (.bothSet k row customer)
  | customerMissing {k : κ} {row : UserRow} {grade userId : String} :
      After (.userSet k row) (setCustomerGrade grade userId) (.customerMissing k row)
  | bothMissing {k : κ} {grade userId : String} :
      After (.userMissing k) (setCustomerGrade grade userId) (.bothMissing k)

/-- The operations of the three kinds of calls: only a complete transaction is committed. -/
def gradeSpec (Reply : Type) :
    DaoSpec AccountStatement AccountQuery Reply AccountQuery.Answer (GradeStage κ) where
  pre stage
    | .setAutoCommit _ => stage.Clean
    | .executeUpdate stmt => stage.Ready key ok stmt
    | .commit => stage.Complete
    | _ => True
  returns stage
    | .setAutoCommit on, _, stage' => stage' = if on then .auto else .opened
    | .executeUpdate stmt, _, stage' => stage.After key stmt stage'
    | .commit, _, stage' => stage' = .opened
    | .rollback, _, stage' => stage' = stage.rolledBack
    | _, _, stage' => stage' = stage
  throws stage
    | .executeUpdate _, stage' => stage' = stage ∨ stage' = stage.rolledBack
    | .sendPacket _, _ => False
    | _, stage' => stage' = stage

namespace GradeStage

@[simp] theorem clean_auto : (auto : GradeStage κ).Clean := trivial

@[simp] theorem clean_opened : (opened : GradeStage κ).Clean := trivial

@[simp] theorem rolledBack_auto : (auto : GradeStage κ).rolledBack = auto := rfl

@[simp] theorem rolledBack_opened : (opened : GradeStage κ).rolledBack = opened := rfl

@[simp] theorem clean_rolledBack (stage : GradeStage κ) : stage.rolledBack.Clean := by
  cases stage <;> trivial

end GradeStage

variable {key ok} {Reply : Type} {stage : GradeStage κ}

section Rules

open Dao

@[simp high] theorem gradeSpec_setAutoCommit {on : Bool}
    {Q : Except Exn Unit → GradeStage κ → Prop} :
    (gradeSpec key ok Reply).interface.wp (setAutoCommit on) Q stage ↔
      stage.Clean ∧ Q (.ok ()) (if on then .auto else .opened) := by
  simp [gradeSpec]

@[simp high] theorem gradeSpec_prepareStatement {Q : Except Exn Unit → GradeStage κ → Prop} :
    (gradeSpec key ok Reply).interface.wp prepareStatement Q stage ↔
      Q (.ok ()) stage ∧ ∀ what, Q (.error (.sql what)) stage := by
  simp [gradeSpec]

@[simp high] theorem gradeSpec_executeUpdate {stmt : AccountStatement}
    {Q : Except Exn ℕ → GradeStage κ → Prop} :
    (gradeSpec key ok Reply).interface.wp (executeUpdate stmt) Q stage ↔ stage.Ready key ok stmt ∧
      (∀ (n : ℕ) stage', stage.After key stmt stage' → Q (.ok n) stage') ∧
      ∀ what, Q (.error (.sql what)) stage ∧ Q (.error (.sql what)) stage.rolledBack := by
  simp [gradeSpec]

@[simp] theorem gradeSpec_pre_executeQuery (query : AccountQuery) :
    (gradeSpec key ok Reply).pre stage (.executeQuery query) := trivial

@[simp] theorem gradeSpec_returns_executeQuery {query : AccountQuery} {stage' : GradeStage κ}
    (a : query.Answer) :
    (gradeSpec key ok Reply).returns stage (.executeQuery query) a stage' ↔ stage' = stage :=
  Iff.rfl

@[simp] theorem gradeSpec_throws_executeQuery {query : AccountQuery} {stage' : GradeStage κ} :
    (gradeSpec key ok Reply).throws stage (.executeQuery query) stage' ↔ stage' = stage := Iff.rfl

@[simp high] theorem gradeSpec_commit {Q : Except Exn Unit → GradeStage κ → Prop} :
    (gradeSpec key ok Reply).interface.wp commit Q stage ↔
      stage.Complete ∧ Q (.ok ()) .opened ∧ ∀ what, Q (.error (.sql what)) stage := by
  simp [gradeSpec]

@[simp high] theorem gradeSpec_rollback {Q : Except Exn Unit → GradeStage κ → Prop} :
    (gradeSpec key ok Reply).interface.wp rollback Q stage ↔ Q (.ok ()) stage.rolledBack := by
  simp [gradeSpec]

@[simp high] theorem gradeSpec_sendPacket {reply : Reply}
    {Q : Except Exn Unit → GradeStage κ → Prop} :
    (gradeSpec key ok Reply).interface.wp (sendPacket reply) Q stage ↔ Q (.ok ()) stage := by
  simp [gradeSpec]

end Rules

/-- The inserts of a role, after the user's, leave a sign-up that may be committed; a failure may
have lost the transaction. -/
theorem gradeSpec_insertRole (dto : SignupReqDTO) {row : UserRow}
    {Q : Except Exn Unit → GradeStage κ → Prop}
    (hok : ∀ ws, Q (.ok ()) (.inserted (key dto.userId) row ws))
    (herror : ∀ what stage, Q (.error (.sql what)) stage) :
    (gradeSpec key ok Reply).interface.wp (UserDAO.insertRole dto) Q
      (.inserted (key dto.userId) row []) := by
  simp only [UserDAO.insertRole, wp_ite]
  refine ⟨fun hzero => ?_, fun hzero => ⟨fun hone => ?_, fun hone => hok []⟩⟩
  · simp only [wp_bind, gradeSpec_prepareStatement, gradeSpec_executeUpdate, wp_pure]
    refine ⟨⟨.insertCustomer, ?_, fun what => ⟨herror _ _, herror _ _⟩⟩, fun what => herror _ _⟩
    rintro n stage ⟨⟩
    exact hok _
  · simp only [wp_bind, gradeSpec_prepareStatement, gradeSpec_executeUpdate, wp_pure]
    refine ⟨⟨.insertOwner, ?_, fun what => ⟨herror _ _, herror _ _⟩⟩, fun what => herror _ _⟩
    rintro n stage ⟨⟩
    refine ⟨⟨.insertStore, ?_, fun what => ⟨herror _ _, herror _ _⟩⟩, fun what => herror _ _⟩
    rintro n stage ⟨⟩
    exact hok _

/-- `insertUser` commits a complete sign-up or nothing. -/
theorem gradeSpec_insertUser (dto : SignupReqDTO) :
    (gradeSpec key ok Reply).interface.wp (UserDAO.insertUser dto)
      (fun r stage => ∃ result, r = .ok result ∧ stage = .auto) .auto := by
  simp [UserDAO.insertUser, UserDAO.insertRows]
  refine ⟨.insertUser, ?_⟩
  rintro stage ⟨⟩
  exact gradeSpec_insertRole dto (fun ws => by simp [GradeStage.Complete]) fun what stage => by simp

/-- The two `UPDATE`s lead from one complete stage to another. -/
theorem gradeSpec_updates {grade userId : String} (hgrade : ok grade) {α : Type}
    {k : AccountDao Reply α} {Q : Except Exn α → GradeStage κ → Prop}
    (hok : ∀ stage, GradeStage.Complete stage → (gradeSpec key ok Reply).interface.wp k Q stage)
    (herror : ∀ what stage, Q (.error (.sql what)) stage) :
    (gradeSpec key ok Reply).interface.wp
      (do
        Dao.prepareStatement
        let _ ← Dao.executeUpdate (setUserGrade grade userId)
        Dao.prepareStatement
        let _ ← Dao.executeUpdate (setCustomerGrade grade userId)
        k) Q .opened := by
  simp only [wp_bind, gradeSpec_prepareStatement, gradeSpec_executeUpdate]
  refine ⟨⟨.setUserGrade hgrade, ?_, fun what => ⟨herror _ _, herror _ _⟩⟩, fun what => herror _ _⟩
  rintro n stage (⟨⟩ | ⟨⟩ | hgrade | ⟨⟩)
  · refine ⟨⟨.setCustomerGrade hgrade, ?_, fun what => ⟨herror _ _, herror _ _⟩⟩,
      fun what => herror _ _⟩
    rintro n stage ⟨⟩
    · exact hok _ trivial
    · exact hok _ trivial
  · refine ⟨⟨.setMissingGrade, ?_, fun what => ⟨herror _ _, herror _ _⟩⟩, fun what => herror _ _⟩
    rintro n stage ⟨⟩
    exact hok _ trivial

/-- `handleSignup` keeps to the interface. -/
theorem gradeSpec_handleSignup (body : Except Exn SignupReqDTO) :
    (gradeSpec key ok AuthResDTO).interface.wp (UserHandler.handleSignup body)
      (fun _ stage => stage = .auto) .auto := by
  cases body with
  | error e => simp [UserHandler.handleSignup]
  | ok req =>
    simp only [UserHandler.handleSignup, wp_bind, Dao.wp_catchStd, wp_ofExcept]
    refine wp_mono ?_ (gradeSpec_insertUser req)
    rintro r stage ⟨result, rfl, rfl⟩
    simp

/-- `handleGradeUpdate` keeps to the interface. -/
theorem gradeSpec_handleGradeUpdate (htarget : ∀ action, ok (UserHandler.targetGrade action))
    (body : Except Exn ReqGradeUpdateDTO) :
    (gradeSpec key ok ResGradeUpdateDTO).interface.wp (UserHandler.handleGradeUpdate body)
      (fun _ stage => stage = .auto) .auto := by
  cases body with
  | error e => simp [UserHandler.handleGradeUpdate]
  | ok req =>
    simp only [UserHandler.handleGradeUpdate, Dao.wp_catchStd, wp_bind, wp_ofExcept]
    rw [wp_ite]
    refine ⟨fun _ => by simp, fun _ => ?_⟩
    refine (wp_bind _ _).mpr (gradeSpec_setAutoCommit.mpr ⟨trivial, ?_⟩)
    exact gradeSpec_updates (htarget _) (fun stage hstage => by simp [hstage])
      fun what stage => by simp

/-- `updateMembershipGrade` keeps to the interface. -/
theorem gradeSpec_updateMembershipGrade {targetGrade : String} (htarget : ok targetGrade)
    (userId : String) (action : ℤ) :
    (gradeSpec key ok Reply).interface.wp
      (MembershipDAO.updateMembershipGrade userId targetGrade action)
      (fun _ stage => stage = .auto) .auto := by
  simp only [MembershipDAO.updateMembershipGrade, Dao.wp_catchSql]
  refine (wp_bind _ _).mpr (gradeSpec_setAutoCommit.mpr ⟨trivial, ?_⟩)
  exact gradeSpec_updates htarget (fun stage hstage => by simp [hstage]) fun what stage => by simp

/-- Which replies there are does not matter. -/
theorem gradeSpec_mapReply {Reply' α : Type} {f : Reply → Reply'} {p : AccountDao Reply α}
    {Q : Except Exn α → GradeStage κ → Prop}
    (h : (gradeSpec key ok Reply).interface.wp p Q stage) :
    (gradeSpec key ok Reply').interface.wp (Dao.mapReply f p) Q stage := by
  induction p generalizing stage with
  | ret a => exact h
  | fail e => exact h
  | call o k ih =>
    cases o
    all_goals
      refine ⟨h.1, ?_⟩
      rintro ((what | what) | a) stage' hpost
      · exact ih _ (h.2 (.error (.sql what)) stage' hpost)
      · exact ih _ (h.2 (.error (.std what)) stage' hpost)
      · exact ih _ (h.2 (.ok a) stage' hpost)

end Call

/-! ### Any number of calls -/

/-- What the handlers reply. -/
abbrev GradeReply := AuthResDTO ⊕ ResGradeUpdateDTO

/-- The calls that write grades. -/
inductive GradeCall
  | signup (body : Except Exn SignupReqDTO)
  | gradeUpdate (body : Except Exn ReqGradeUpdateDTO)
  | updateMembershipGrade (userId targetGrade : String) (action : ℤ)

/-- What a call does. -/
def GradeCall.handle : GradeCall → AccountDao GradeReply Unit
  | signup body => (UserHandler.handleSignup body).mapReply .inl
  | gradeUpdate body => (UserHandler.handleGradeUpdate body).mapReply .inr
  | updateMembershipGrade userId targetGrade action => do
    let _ ← MembershipDAO.updateMembershipGrade userId targetGrade action

/-- The target grade, if the call is given one, satisfies `ok`. -/
def GradeCall.Targets (ok : String → Prop) : GradeCall → Prop
  | updateMembershipGrade _ targetGrade _ => ok targetGrade
  | _ => True

/-- The grades that the handlers and the tables' definition name satisfy `ok`. -/
structure NamedGrades (ok : String → Prop) : Prop where
  target : ∀ action, ok (UserHandler.targetGrade action)
  default : ∀ grade ∈ defaultGrade, ok grade

section Calls

variable {τ κ : Type} [DecidableEq τ] [DecidableEq κ] {key : String → κ} {ok : String → Prop}

omit [DecidableEq κ] in
theorem gradeSpec_handle (hnamed : NamedGrades ok) {call : GradeCall} (hcall : call.Targets ok) :
    (gradeSpec key ok GradeReply).interface.wp call.handle (fun _ stage => stage = .auto)
      .auto := by
  cases call with
  | signup body => exact gradeSpec_mapReply (gradeSpec_handleSignup body)
  | gradeUpdate body => exact gradeSpec_mapReply (gradeSpec_handleGradeUpdate hnamed.target body)
  | updateMembershipGrade userId targetGrade action =>
    refine (wp_bind _ _).mpr
      (wp_mono ?_ (gradeSpec_updateMembershipGrade hcall userId action))
    rintro (e | b) stage h
    · exact h
    · exact h

/-- The world of these calls. -/
abbrev GradeWorld (τ κ : Type) :=
  GapWorld τ (AccountTables κ) (AccountWrite κ) (AccountRow κ) GradeReply

/-- What the stage of a call says of the world. -/
abbrev GradeStage.Describes (key : String → κ) (ok : String → Prop) (w : GradeWorld τ κ) (t : τ)
    (stage : GradeStage κ) : Prop :=
  Keeps (AccountTables.storage key) w t stage.conn stage.missing fun db => stage.Fits ok db

variable {w w' : GradeWorld τ κ} {t : τ} {stage : GradeStage κ}
  {o : DaoOp AccountStatement AccountQuery GradeReply} {e : DaoEnv}
  {r : Except Exn (o.Res AccountQuery.Answer)}

/-- A statement of an open transaction, on the account tables. -/
theorem keeps_accountStatement {pending : List (AccountWrite κ)} {missing : List (AccountRow κ)}
    {P : AccountTables κ → Prop} {stmt : AccountStatement} {id : ℤ} {n : ℕ}
    (h : Keeps (AccountTables.storage key) w t ⟨false, pending⟩ missing P)
    (he : (accountSchema key).gapExec t (.executeUpdate stmt) (.next id) w = some (.ok n, w')) :
    ∃ ws, stmt.effect key ((AccountTables.storage key).writes w.tables pending) id =
        some (n, ws) ∧
      ∀ (missing' : List (AccountRow κ)) (Q : AccountTables κ → Prop), Q w.tables →
        (∀ x ∈ missing', x ∈ missing ∨ x ∈ stmt.rows key ∧ x ∉ ws.filterMap AccountWrite.row?) →
        Keeps (AccountTables.storage key) w' t ⟨false, pending ++ ws⟩ missing' Q :=
  DaoSchema.keeps_execute h he

/-- A statement leads to one of the stages after it. -/
theorem GradeStage.describes_execute {stmt : AccountStatement} (hready : stage.Ready key ok stmt)
    (h : stage.Describes key ok w t) (hstep : GradesInStep w.tables) {id : ℤ} {n : ℕ}
    (he : (accountSchema key).gapExec t (.executeUpdate stmt) (.next id) w = some (.ok n, w')) :
    ∃ stage', stage.After key stmt stage' ∧ stage'.Describes key ok w' t := by
  cases hready with
  | insertUser =>
    obtain ⟨ws, heffect, hkeeps⟩ := keeps_accountStatement h he
    obtain ⟨hnew, rfl⟩ := effect_insertUser heffect
    exact ⟨_, .insertUser, hkeeps _ _ ⟨hnew, rfl, fun _ hu => absurd hu List.not_mem_nil⟩
      fun _ hx => absurd hx List.not_mem_nil⟩
  | insertCustomer =>
    obtain ⟨ws, heffect, hkeeps⟩ := keeps_accountStatement h he
    obtain rfl := effect_insertCustomer heffect
    refine ⟨_, .insertRole,
      hkeeps _ _ ⟨h.fits.1, h.fits.2.1, ?_⟩ fun _ hx => absurd hx List.not_mem_nil⟩
    exact h.fits.2.2.concat (List.forall_mem_singleton.mpr ⟨rfl, rfl⟩)
  | insertOwner =>
    obtain ⟨ws, heffect, hkeeps⟩ := keeps_accountStatement h he
    obtain rfl := effect_insertOwner heffect
    refine ⟨_, .insertRole,
      hkeeps _ _ ⟨h.fits.1, h.fits.2.1, ?_⟩ fun _ hx => absurd hx List.not_mem_nil⟩
    exact h.fits.2.2.concat (List.forall_mem_singleton.mpr trivial)
  | insertStore =>
    obtain ⟨ws, heffect, hkeeps⟩ := keeps_accountStatement h he
    obtain rfl := effect_insertStore heffect
    refine ⟨_, .insertRole,
      hkeeps _ _ ⟨h.fits.1, h.fits.2.1, ?_⟩ fun _ hx => absurd hx List.not_mem_nil⟩
    exact h.fits.2.2.concat (List.forall_mem_singleton.mpr trivial)
  | setUserGrade hgrade =>
    obtain ⟨ws, heffect, hkeeps⟩ := keeps_accountStatement h he
    simp only [effect] at heffect
    split at heffect
    · cases heffect
      refine ⟨_, .userSet rfl, hkeeps _ _ ?_ fun _ hx => absurd hx List.not_mem_nil⟩
      rintro _ ⟨⟩
      exact hgrade
    · next hnone =>
      cases heffect
      -- no such user: the statement leaves the gap of the key locked
      refine ⟨_, .userMissing, hkeeps _ _ (AList.lookup_eq_none.mp hnone) fun x hx => .inr ?_⟩
      exact ⟨hx, fun hwritten => List.not_mem_nil hwritten⟩
  | setCustomerGrade hgrade =>
    obtain ⟨ws, heffect, hkeeps⟩ := keeps_accountStatement h he
    simp only [effect] at heffect
    split at heffect
    · cases heffect
      exact ⟨_, .bothSet, hkeeps _ _ ⟨hgrade, h.fits⟩ fun _ hx => absurd hx List.not_mem_nil⟩
    · next hnone =>
      cases heffect
      -- no such customer: the gap again
      refine ⟨_, .customerMissing,
        hkeeps _ _ ⟨AList.lookup_eq_none.mp hnone, h.fits⟩ fun x hx => .inr ?_⟩
      exact ⟨hx, fun hwritten => List.not_mem_nil hwritten⟩
  | @setMissingGrade grade userId =>
    obtain ⟨ws, heffect, hkeeps⟩ := keeps_accountStatement h he
    -- a customer would have a user, and there is none
    have hcustomer : key userId ∉ w.tables.customers := fun hk => h.fits (hstep.hasUser _ hk)
    simp only [effect, Storage.writes_nil, GradeStage.pending,
      AList.lookup_eq_none.mpr hcustomer] at heffect
    cases heffect
    refine ⟨_, .bothMissing, hkeeps _ _ trivial fun x hx => ?_⟩
    rcases List.mem_cons.mp hx with rfl | hx
    · exact .inl (.head _)
    · exact .inr ⟨hx, fun hwritten => List.not_mem_nil hwritten⟩

omit [DecidableEq τ] in
/-- A stage without writes and gaps. -/
theorem GradeStage.describes_of_clean {stage : GradeStage κ} (hclean : stage.Clean)
    (hconn : w.dao.server.conns t = ⟨stage.conn.autoCommit, []⟩) : stage.Describes key ok w t := by
  cases stage with
  | auto | opened => exact .of_clean hconn trivial
  | _ => exact hclean.elim

omit [DecidableEq τ] [DecidableEq κ] in
theorem GradeStage.conn_rolledBack (stage : GradeStage κ) :
    stage.rolledBack.conn = ⟨stage.conn.autoCommit, []⟩ := by
  cases stage <;> rfl

/-- A rollback, or a statement that has lost the transaction. -/
theorem GradeStage.Describes.rolledBack (h : stage.Describes key ok w t)
    (hserver : w'.dao.server = w.dao.server.rollback t) :
    stage.rolledBack.Describes key ok w' t := by
  refine describes_of_clean (clean_rolledBack stage) ?_
  rw [hserver, Server.rollback_conns_self, h.holds.conns, conn_rolledBack]

/-- An operation does to its own call what the interface says. -/
theorem GradeStage.describes_exec (h : stage.Describes key ok w t) (hstep : GradesInStep w.tables)
    (hpre : (gradeSpec key ok GradeReply).pre stage o)
    (he : (accountSchema key).gapExec t o e w = some (r, w')) :
    ∃ stage', (gradeSpec key ok GradeReply).interface.post stage o r stage' ∧
      stage'.Describes key ok w' t := by
  obtain ⟨-, hexec, hgaps⟩ := DaoSchema.gapExec_eq_some he
  have hconn := h.holds.conns
  obtain ⟨dao, gaps⟩ := w'
  cases o with
  | setAutoCommit on =>
    cases e <;> cases hexec
    refine ⟨if on then .auto else .opened, rfl, describes_of_clean (by cases on <;> trivial) ?_⟩
    refine (Server.setAutoCommit_conns_self ..).trans ?_
    rw [hconn]
    cases stage with
    | auto | opened => cases on <;> rfl
    | _ => exact hpre.elim
  | prepareStatement =>
    cases e <;> cases hexec
    · exact ⟨stage, rfl, h.congr rfl hgaps⟩
    · exact ⟨stage, ⟨trivial, rfl⟩, h.congr rfl hgaps⟩
  | executeUpdate stmt =>
    cases e with
    | ok => cases hexec
    | next id =>
      obtain ⟨⟨n, server⟩, -, heq⟩ := Option.map_eq_some_iff.mp hexec
      cases heq
      exact describes_execute hpre h hstep he
    | fault what =>
      cases hexec
      exact ⟨stage, ⟨trivial, .inl rfl⟩, h.congr rfl hgaps⟩
    | deadlock what =>
      cases hexec
      exact ⟨stage.rolledBack, ⟨trivial, .inr rfl⟩, h.rolledBack rfl⟩
  | executeQuery query =>
    cases e <;> cases hexec
    · exact ⟨stage, rfl, h.congr rfl hgaps⟩
    · exact ⟨stage, ⟨trivial, rfl⟩, h.congr rfl hgaps⟩
  | commit =>
    cases e <;> cases hexec
    · refine ⟨.opened, rfl, describes_of_clean trivial ?_⟩
      refine (Server.commit_conns_self ..).trans ?_
      rw [hconn]
      cases stage with
      | auto => exact hpre.elim
      | _ => rfl
    · exact ⟨stage, ⟨trivial, rfl⟩, h.congr rfl hgaps⟩
  | rollback =>
    cases e <;> cases hexec
    exact ⟨stage.rolledBack, rfl, h.rolledBack rfl⟩
  | sendPacket reply =>
    cases e <;> cases hexec
    exact ⟨stage, rfl, h.congr rfl hgaps⟩

omit [DecidableEq τ] in
/-- An operation publishes nothing, or commits a complete transaction. -/
theorem GradeStage.published (h : stage.Describes key ok w t)
    (hpre : (gradeSpec key ok GradeReply).pre stage o) {ws : List (AccountWrite κ)}
    (hpub : DaoSchema.Publishes (accountSchema key) t w.dao.server o e ws) :
    ws = [] ∨ ws = stage.pending ∧ stage.Complete := by
  have hconn := h.holds.conns
  cases hpub with
  | nothing => exact .inl rfl
  | statement hmode _ =>
    -- no statement runs in autocommit mode
    rw [hconn] at hmode
    cases hpre <;> cases hmode
  | commit =>
    rw [hconn]
    cases stage with
    | auto | userSet => exact hpre.elim
    | _ => exact .inr ⟨rfl, trivial⟩
  | setAutoCommit =>
    rw [hconn]
    cases stage with
    | auto | opened => exact .inl rfl
    | _ => exact hpre.elim

/-- An operation leaves the tables as they are, or adds the writes of a complete transaction. -/
theorem GradeStage.tables_gapExec (h : stage.Describes key ok w t)
    (hpre : (gradeSpec key ok GradeReply).pre stage o)
    (he : (accountSchema key).gapExec t o e w = some (r, w')) :
    w'.tables = w.tables ∨
      stage.Complete ∧ w'.tables = (AccountTables.storage key).writes w.tables stage.pending := by
  obtain ⟨-, hexec, -⟩ := DaoSchema.gapExec_eq_some he
  obtain ⟨ws, hpub, htables, -⟩ := DaoSchema.exec_publishes hexec
  rcases GradeStage.published h hpre hpub with rfl | ⟨rfl, hcomplete⟩
  · exact .inl htables
  · exact .inr ⟨hcomplete, htables⟩

/-- **An operation keeps the copies in step.** -/
theorem GradesInStep.gapExec (hstep : GradesInStep w.tables) (h : stage.Describes key ok w t)
    (hpre : (gradeSpec key ok GradeReply).pre stage o)
    (he : (accountSchema key).gapExec t o e w = some (r, w')) : GradesInStep w'.tables := by
  rcases GradeStage.tables_gapExec h hpre he with htables | ⟨hcomplete, htables⟩
  · rwa [htables]
  · rw [htables]
    exact hstep.writes hcomplete h.fits

/-- So does it keep the grades of `USERS`. -/
theorem AccountTables.Graded.gapExec (hgraded : w.tables.Graded ok)
    (hdefault : ∀ grade ∈ defaultGrade, ok grade) (h : stage.Describes key ok w t)
    (hpre : (gradeSpec key ok GradeReply).pre stage o)
    (he : (accountSchema key).gapExec t o e w = some (r, w')) : w'.tables.Graded ok := by
  rcases GradeStage.tables_gapExec h hpre he with htables | ⟨hcomplete, htables⟩
  · rwa [htables]
  · rw [htables]
    exact hgraded.writes hdefault hcomplete h.fits

/-- The calls being handled, and the world. -/
abbrev GradeCalls (τ κ : Type) := Threads τ (@DaoOp.Res AccountStatement AccountQuery GradeReply
  AccountQuery.Answer) Exn (GradeWorld τ κ)

namespace GradeCalls

/-- Every call is at its beginning. -/
def init (call : τ → GradeCall) (db : AccountTables κ) : GradeCalls τ κ :=
  ⟨fun t => (call t).handle, .init db⟩

/-- One call performs its next operation. -/
def step (key : String → κ) (s : GradeCalls τ κ) (a : τ × DaoEnv) : Option (GradeCalls τ κ) :=
  Threads.step (accountSchema key).gapExec s a

/-- The states in which every call is where the interface says. -/
def Safe (key : String → κ) (ok : String → Prop) (s : GradeCalls τ κ) : Prop :=
  Threads.Safe (fun _ => (gradeSpec key ok GradeReply).interface)
    (fun w g => (GradesInStep w.tables ∧ w.tables.Graded ok ∧ w.Exclusive) ∧
      ∀ t, (g t).Describes key ok w t)
    (fun _ _ _ => True) s

variable {call : τ → GradeCall} {db : AccountTables κ} {s s' : GradeCalls τ κ}

omit [DecidableEq τ] in
theorem safe_init (hnamed : NamedGrades ok) (hcall : ∀ t, (call t).Targets ok)
    (hdb : GradesInStep db) (hgraded : db.Graded ok) : Safe key ok (init call db) := by
  refine ⟨fun _ => .auto, ⟨⟨hdb, hgraded, fun _ _ hgap => (nomatch hgap)⟩, fun t => ?_⟩,
    fun t => ?_⟩
  · exact GradeStage.describes_of_clean trivial rfl
  · exact wp_mono (fun _ _ _ => trivial) (gradeSpec_handle hnamed (hcall t))

/-- Steps keep every call safe and the copies in step. -/
theorem Safe.step (hnamed : NamedGrades ok) (h : Safe key ok s) {a : τ × DaoEnv}
    (hs : GradeCalls.step key s a = some s') : Safe key ok s' := by
  refine Threads.Safe.step (fun w g t o e r w' hJ hpre he => ?_) h hs
  obtain ⟨⟨hstep, hgraded, hexcl⟩, hg⟩ := hJ
  obtain ⟨stage', hpost, hstage'⟩ := GradeStage.describes_exec (hg t) hstep hpre he
  refine ⟨stage', hpost, ⟨hstep.gapExec (hg t) hpre he,
    hgraded.gapExec hnamed.default (hg t) hpre he, DaoSchema.exclusive_gapExec hexcl he⟩,
    fun t' => ?_⟩
  rcases eq_or_ne t' t with rfl | ht
  · rwa [Function.update_self]
  · rw [Function.update_of_ne ht]
    refine DaoSchema.keeps_gapExec (hg t') (g t').stable hexcl ht (fun u hu x hx => ?_) he
    rw [(hg t).holds.conns] at hu
    exact (hg t).holds.locked u hu x hx

variable (key) in
/-- Whatever `ok` says of the grades that are named and given, all grades of `USERS` keep. -/
theorem always_inStep (hnamed : NamedGrades ok) (hcall : ∀ t, (call t).Targets ok)
    (hdb : GradesInStep db) (hgraded : db.Graded ok) (l : List (τ × DaoEnv)) :
    Transition.Always (step key)
      (fun s => GradesInStep s.world.tables ∧ s.world.tables.Graded ok) (init call db) l := by
  have hsafe : Transition.Always (step key) (Safe key ok) (init call db) l :=
    Transition.always_of_forall (fun _ _ _ h hs => h.step hnamed hs)
      (safe_init hnamed hcall hdb hgraded)
  refine hsafe.mono fun s h => ?_
  obtain ⟨g, ⟨⟨hstep, hkept, -⟩, -⟩, -⟩ := h
  exact ⟨hstep, hkept⟩

/-- No grade that the source names has a NUL. -/
theorem namedGrades_whole : NamedGrades fun grade => '\x00' ∉ grade.toList := by
  refine ⟨fun action => ?_, ?_⟩
  · unfold UserHandler.targetGrade
    split <;> decide
  · rintro _ ⟨⟩
    decide

/-- A sign-up, and a grade update for the same user. -/
def racingCall (update : Bool) : GradeCall :=
  if update then .gradeUpdate (.ok ⟨"hong", "wow", 1⟩)
  else .signup (.ok ⟨"hong", "pw", "Hong", "010", 0, "", "", "", "", "", ""⟩)

/-- The update looks for the user in vain before the sign-up inserts it. -/
def racingSteps : List (Bool × DaoEnv) :=
  List.replicate 6 (false, .ok) ++
    [(true, .ok), (true, .ok), (true, .next 0), (true, .ok), (true, .next 0), (true, .ok),
     (true, .ok), (true, .ok)] ++
    [(false, .next 0), (false, .ok), (false, .next 0), (false, .ok), (false, .ok), (false, .ok)]

/-- Without users there is nothing to agree. -/
theorem gradesInStep_empty : GradesInStep (⟨∅, ∅, ∅, [], []⟩ : AccountTables κ) := by
  refine ⟨fun k user customer huser => ?_, fun k hk => absurd hk (AList.notMem_empty k)⟩
  rw [AList.lookup_empty] at huser
  cases huser

/-- Neither call is given a grade. -/
theorem targets_racing {ok : String → Prop} (update : Bool) : (racingCall update).Targets ok := by
  cases update <;> trivial

theorem graded_empty {ok : String → Prop} :
    AccountTables.Graded ok (⟨∅, ∅, ∅, [], []⟩ : AccountTables κ) := by
  intro k user huser
  rw [AList.lookup_empty] at huser
  cases huser

/-- One call, which is given a grade with a NUL. -/
def cutCall (_ : Unit) : GradeCall := .updateMembershipGrade "hong" "와우\x00" 1

/-- A customer with the default grade. -/
def hongTables : AccountTables String :=
  ⟨AList.insert "hong" ⟨"pw", "Hong", "010", 0, defaultGrade⟩ ∅,
    AList.insert "hong" ⟨some "주소 미상", defaultGrade⟩ ∅, ∅, [], []⟩

/-- Every operation succeeds. -/
def cutRun : List (Unit × DaoEnv) :=
  [((), .ok), ((), .ok), ((), .next 0), ((), .ok), ((), .next 0), ((), .ok), ((), .ok)]

theorem gradesInStep_hong : GradesInStep hongTables := gradesInStep_empty.insert_both rfl

end GradeCalls

end Calls

end ItsBedalyo
