import ItsBedalyo.Database.Dao
import Mathlib.Data.List.AList

/-!
# The account tables

`USERS`, `CUSTOMERS`, `OWNERS`, `STORES` and `USER_ADDRESSES`, with the columns that sign-up,
log-in, membership and addresses read and write, and the statements and queries of `UserDAO`,
`MembershipDAO`, `AddressDAO` and `UserHandler` on them. The first three are keyed by
`user_id`, as the database compares texts: `key` maps a text to its value under the collation
of the columns.

A statement on a user's addresses locks all of them: the reset of `is_default` and the changes
of single rows conflict with each other. The number of an `INSERT` into `STORES` or
`USER_ADDRESSES` is whatever `AUTO_INCREMENT` gives, as long as no row has it.
-/

namespace ItsBedalyo

open RowLocking

/-- A row of `USERS`. -/
structure UserRow where
  passwordHash : String
  userName : String
  phoneNumber : String
  role : ℤ
  grade : Option String
  deriving DecidableEq

/-- A row of `CUSTOMERS`. -/
structure CustomerRow where
  address : Option String
  customerGrade : Option String
  deriving DecidableEq

/-- A row of `OWNERS`. -/
structure OwnerRow where
  businessNumber : Option String
  accountNumber : Option String
  deriving DecidableEq

/-- A row of `STORES`, as sign-up writes it. -/
structure OwnedStoreRow where
  storeId : ℤ
  ownerId : String
  storeName : String
  category : String
  storeAddress : Option String
  deriving DecidableEq

/-- A row of `USER_ADDRESSES`. -/
structure AddressRow where
  addressId : ℤ
  userId : String
  address : String
  detail : String
  guide : String
  label : String
  isDefault : ℤ
  deriving DecidableEq

/-- `DEFAULT '일반'` of `USERS.grade` and `CUSTOMERS.customer_grade`. -/
def defaultGrade : Option String := some "일반"

/-- The contents of the tables. -/
structure AccountTables (κ : Type) where
  users : AList fun _ : κ => UserRow
  customers : AList fun _ : κ => CustomerRow
  owners : AList fun _ : κ => OwnerRow
  stores : List OwnedStoreRow
  addresses : List AddressRow

/-- What can be locked: a row of one of the first three tables, or all the addresses of a
user. -/
inductive AccountRow (κ : Type)
  | user (k : κ)
  | customer (k : κ)
  | owner (k : κ)
  | addresses (k : κ)
  deriving DecidableEq

/-- The image of a row, or of the addresses of a user, written by a statement. -/
inductive AccountWrite (κ : Type)
  | user (k : κ) (row : UserRow)
  | customer (k : κ) (row : CustomerRow)
  | owner (k : κ) (row : OwnerRow)
  | store (row : OwnedStoreRow)
  | addresses (k : κ) (rows : List AddressRow)

/-- What a write replaces. -/
def AccountWrite.row? {κ : Type} : AccountWrite κ → Option (AccountRow κ)
  | user k _ => some (.user k)
  | customer k _ => some (.customer k)
  | owner k _ => some (.owner k)
  | store _ => none
  | addresses k _ => some (.addresses k)

/-- The statements. -/
inductive AccountStatement
  /-- `INSERT INTO USERS (user_id, password_hash, user_name, phone_number, role) …` -/
  | insertUser (userId password userName phoneNumber : String) (role : ℤ)
  /-- `INSERT INTO CUSTOMERS (user_id, address) …` -/
  | insertCustomer (userId address : String)
  /-- `INSERT INTO OWNERS (user_id, business_number, account_number) …` -/
  | insertOwner (userId businessNumber accountNumber : String)
  /-- `INSERT INTO STORES (owner_id, store_name, category, store_address) …` -/
  | insertStore (ownerId storeName category storeAddress : String)
  /-- `UPDATE USERS SET grade = ? WHERE user_id = ?` -/
  | setUserGrade (grade userId : String)
  /-- `UPDATE CUSTOMERS SET customer_grade = ? WHERE user_id = ?` -/
  | setCustomerGrade (grade userId : String)
  /-- `UPDATE USER_ADDRESSES SET is_default = 0 WHERE user_id = ?` -/
  | resetDefaults (userId : String)
  /-- `INSERT INTO USER_ADDRESSES (user_id, address, detail, guide, label, is_default) …` -/
  | insertAddress (userId address detail guide label : String) (isDefault : ℤ)
  /-- `UPDATE CUSTOMERS SET address = ? WHERE user_id = ?` -/
  | setCustomerAddress (address userId : String)
  /-- `DELETE FROM USER_ADDRESSES WHERE user_id = ? AND address_id = ?` -/
  | deleteAddress (userId : String) (addressId : ℤ)
  /-- `UPDATE USER_ADDRESSES SET is_default = 1 WHERE user_id = ? AND address_id = ?` -/
  | setDefault (userId : String) (addressId : ℤ)
  /-- `UPDATE USER_ADDRESSES SET detail = ?, guide = ?, label = ? WHERE user_id = ? AND
  address_id = ?` -/
  | updateAddress (detail guide label userId : String) (addressId : ℤ)
  deriving DecidableEq

/-- The queries. -/
inductive AccountQuery
  /-- `SELECT COUNT(*) FROM USERS WHERE user_id = ?` -/
  | countUserId (userId : String)
  /-- `SELECT COUNT(*) FROM USERS WHERE phone_number = ? AND role = ?` -/
  | countPhoneAndRole (phoneNumber : String) (role : ℤ)
  /-- `SELECT LAST_INSERT_ID()` -/
  | lastInsertId
  /-- `SELECT is_default FROM USER_ADDRESSES WHERE user_id = ? AND address_id = ?` -/
  | isDefault (userId : String) (addressId : ℤ)
  /-- `SELECT address FROM USER_ADDRESSES WHERE address_id = ?` -/
  | addressOf (addressId : ℤ)
  deriving DecidableEq

/-- The first row of an answer, or the count. -/
abbrev AccountQuery.Answer : AccountQuery → Type
  | countUserId _ | countPhoneAndRole _ _ => ℕ
  | lastInsertId => ℤ
  | isDefault _ _ => Option ℤ
  | addressOf _ => Option String

namespace AccountTables

variable {κ : Type} [DecidableEq κ] (key : String → κ)

/-- The addresses of a user. -/
def addressesOf (db : AccountTables κ) (k : κ) : List AddressRow :=
  db.addresses.filter fun row => key row.userId = k

/-- The tables after one write. -/
def write (db : AccountTables κ) : AccountWrite κ → AccountTables κ
  | .user k row => { db with users := db.users.insert k row }
  | .customer k row => { db with customers := db.customers.insert k row }
  | .owner k row => { db with owners := db.owners.insert k row }
  | .store row => { db with stores := db.stores ++ [row] }
  | .addresses k rows =>
    { db with addresses := (db.addresses.filter fun row => key row.userId ≠ k) ++ rows }

/-- How the tables are written. -/
def storage : Storage (AccountTables κ) (AccountWrite κ) (AccountRow κ) where
  write := write key
  row? := AccountWrite.row?

@[simp] theorem storage_row? (u : AccountWrite κ) : (storage key).row? u = u.row? := rfl

@[simp] theorem storage_write (db : AccountTables κ) (u : AccountWrite κ) :
    (storage key).write db u = db.write key u := rfl

/-- The addresses of a user after they have been written. -/
theorem addressesOf_write_self (db : AccountTables κ) {k : κ} {rows : List AddressRow}
    (h : ∀ row ∈ rows, key row.userId = k) :
    (db.write key (.addresses k rows)).addressesOf key k = rows := by
  rw [addressesOf, write, List.filter_append, List.filter_filter]
  have hold : (db.addresses.filter fun row =>
      decide (key row.userId = k) && decide (key row.userId ≠ k)) = [] := by
    refine List.filter_eq_nil_iff.mpr fun row _ => ?_
    simp
  rw [hold, List.nil_append]
  exact List.filter_eq_self.mpr fun row hrow => decide_eq_true (h row hrow)

/-- The addresses of another user are not touched. -/
theorem addressesOf_write_of_ne (db : AccountTables κ) {k k' : κ} (hk : k' ≠ k)
    {rows : List AddressRow} (h : ∀ row ∈ rows, key row.userId = k) :
    (db.write key (.addresses k rows)).addressesOf key k' = db.addressesOf key k' := by
  rw [addressesOf, write, List.filter_append, List.filter_filter]
  have hnew : (rows.filter fun row => decide (key row.userId = k')) = [] := by
    refine List.filter_eq_nil_iff.mpr fun row hrow => ?_
    simp [h row hrow, hk.symm]
  rw [hnew, List.append_nil]
  refine List.filter_congr fun row _ => ?_
  by_cases hrow : key row.userId = k'
  · simp [hrow, hk]
  · simp [hrow]

end AccountTables

namespace AccountStatement

variable {κ : Type} [DecidableEq κ] (key : String → κ)

/-- What a statement locks. -/
def rows : AccountStatement → List (AccountRow κ)
  | insertUser userId _ _ _ _ | setUserGrade _ userId => [.user (key userId)]
  | insertCustomer userId _ | setCustomerGrade _ userId | setCustomerAddress _ userId =>
    [.customer (key userId)]
  | insertOwner userId _ _ => [.owner (key userId)]
  | insertStore _ _ _ _ => []
  | resetDefaults userId | insertAddress userId _ _ _ _ _ | deleteAddress userId _
  | setDefault userId _ | updateAddress _ _ _ userId _ => [.addresses (key userId)]

/-- The number of rows matched and the writes made; `id` is what `AUTO_INCREMENT` gives. -/
def effect (db : AccountTables κ) (id : ℤ) : AccountStatement → Option (ℕ × List (AccountWrite κ))
  | insertUser userId password userName phoneNumber role =>
    match db.users.lookup (key userId) with
    | some _ => none
    | none => some (1, [.user (key userId) ⟨password, userName, phoneNumber, role, defaultGrade⟩])
  | insertCustomer userId address =>
    match db.customers.lookup (key userId) with
    | some _ => none
    | none => some (1, [.customer (key userId) ⟨some address, defaultGrade⟩])
  | insertOwner userId businessNumber accountNumber =>
    match db.owners.lookup (key userId) with
    | some _ => none
    | none => some (1, [.owner (key userId) ⟨some businessNumber, some accountNumber⟩])
  | insertStore ownerId storeName category storeAddress =>
    if id ∈ db.stores.map OwnedStoreRow.storeId then none
    else some (1, [.store ⟨id, ownerId, storeName, category, some storeAddress⟩])
  | setUserGrade grade userId =>
    match db.users.lookup (key userId) with
    | some row => some (1, [.user (key userId) { row with grade := some grade }])
    | none => some (0, [])
  | setCustomerGrade grade userId =>
    match db.customers.lookup (key userId) with
    | some row => some (1, [.customer (key userId) { row with customerGrade := some grade }])
    | none => some (0, [])
  | resetDefaults userId =>
    let rows := db.addressesOf key (key userId)
    some (rows.length,
      [.addresses (key userId) (rows.map fun row => { row with isDefault := 0 })])
  | insertAddress userId address detail guide label isDefault =>
    if id ∈ db.addresses.map AddressRow.addressId then none
    else some (1, [.addresses (key userId) (db.addressesOf key (key userId) ++
      [⟨id, userId, address, detail, guide, label, isDefault⟩])])
  | setCustomerAddress address userId =>
    match db.customers.lookup (key userId) with
    | some row => some (1, [.customer (key userId) { row with address := some address }])
    | none => some (0, [])
  | deleteAddress userId addressId =>
    let rows := db.addressesOf key (key userId)
    some ((rows.filter fun row => row.addressId = addressId).length,
      [.addresses (key userId) (rows.filter fun row => row.addressId ≠ addressId)])
  | setDefault userId addressId =>
    let rows := db.addressesOf key (key userId)
    some ((rows.filter fun row => row.addressId = addressId).length,
      [.addresses (key userId) (rows.map fun row =>
        if row.addressId = addressId then { row with isDefault := 1 } else row)])
  | updateAddress detail guide label userId addressId =>
    let rows := db.addressesOf key (key userId)
    some ((rows.filter fun row => row.addressId = addressId).length,
      [.addresses (key userId) (rows.map fun row =>
        if row.addressId = addressId then
          { row with detail := detail, guide := guide, label := label }
        else row)])

/-- A statement writes only what it locks. -/
theorem row_mem_rows {db : AccountTables κ} {id : ℤ} {stmt : AccountStatement} {n : ℕ}
    {ws : List (AccountWrite κ)} (h : stmt.effect key db id = some (n, ws)) :
    ∀ u ∈ ws, ∀ x, u.row? = some x → x ∈ stmt.rows key := by
  intro u hu x hx
  cases stmt with
  | insertUser | insertCustomer | insertOwner =>
    simp only [effect] at h
    split at h
    · cases h
    · cases h
      obtain rfl := List.mem_singleton.mp hu
      cases hx
      exact .head _
  | insertStore =>
    simp only [effect] at h
    split at h
    · cases h
    · cases h
      obtain rfl := List.mem_singleton.mp hu
      cases hx
  | setUserGrade | setCustomerGrade | setCustomerAddress =>
    simp only [effect] at h
    split at h
    · cases h
      obtain rfl := List.mem_singleton.mp hu
      cases hx
      exact .head _
    · cases h
      cases hu
  | insertAddress =>
    simp only [effect] at h
    split at h
    · cases h
    · cases h
      obtain rfl := List.mem_singleton.mp hu
      cases hx
      exact .head _
  | resetDefaults | deleteAddress | setDefault | updateAddress =>
    cases h
    obtain rfl := List.mem_singleton.mp hu
    cases hx
    exact .head _

/-- The statement as the server executes it. -/
def statement (stmt : AccountStatement) (id : ℤ) :
    RowLocking.Statement (AccountTables.storage key) where
  rows _ := stmt.rows key
  effect db := stmt.effect key db id
  covers _ _ _ h := row_mem_rows key h

/-- The statements that get a number. -/
def numbers : AccountStatement → Bool
  | insertStore _ _ _ _ | insertAddress _ _ _ _ _ _ => true
  | _ => false

end AccountStatement

/-- What a query finds. -/
def AccountQuery.answer {κ : Type} [DecidableEq κ] (key : String → κ) (db : AccountTables κ)
    (lastId : ℤ) : (query : AccountQuery) → query.Answer
  | countUserId userId => (db.users.lookup (key userId)).toList.length
  | countPhoneAndRole phoneNumber role =>
    db.users.entries.countP fun entry =>
      key entry.2.phoneNumber = key phoneNumber ∧ entry.2.role = role
  | lastInsertId => lastId
  | isDefault userId addressId =>
    ((db.addressesOf key (key userId)).find? fun row => row.addressId = addressId).map
      AddressRow.isDefault
  | addressOf addressId =>
    (db.addresses.find? fun row => row.addressId = addressId).map AddressRow.address

/-- The account tables behind the DAO classes. -/
def accountSchema {κ : Type} [DecidableEq κ] (key : String → κ) :
    DaoSchema (AccountTables κ) (AccountWrite κ) (AccountRow κ) AccountStatement
      AccountQuery.Answer where
  storage := AccountTables.storage key
  statement := AccountStatement.statement key
  numbers := AccountStatement.numbers
  answer := AccountQuery.answer key

/-- A statement that is executed has found its effect on the tables with the caller's own writes. -/
theorem accountSchema_execute {τ κ : Type} [DecidableEq τ] [DecidableEq κ] {key : String → κ}
    {s s' : Server τ (AccountTables κ) (AccountWrite κ) (AccountRow κ)} {t : τ}
    {stmt : AccountStatement} {id : ℤ} {n : ℕ}
    (h : s.execute (accountSchema key).storage t ((accountSchema key).statement stmt id) =
      some (n, s')) :
    ∃ ws, stmt.effect key ((AccountTables.storage key).writes s.tables (s.conns t).pending) id =
        some (n, ws) ∧
      s' = if (s.conns t).autoCommit then s.publish (AccountTables.storage key) t ws
        else s.enqueue (AccountTables.storage key) t ws := by
  obtain ⟨ws, heffect, -, hs⟩ := Server.execute_eq_some h
  exact ⟨ws, heffect, hs⟩

/-- Code on the account tables. -/
abbrev AccountDao := Dao AccountStatement AccountQuery.Answer

end ItsBedalyo
