import ItsBedalyo.Database.Accounts
import ItsBedalyo.Database.Queries

/-!
# The account DAO classes: `UserDAO.cpp`, `MembershipDAO.cpp`, `AddressDAO.cpp`

The functions that write the account tables. `insertUser`, `updateMembershipGrade` and
`saveAddress` open a transaction; the other address functions are sequences of statements in
autocommit mode. What the functions print is not modelled.
-/

namespace ItsBedalyo

open Dao AccountStatement AccountQuery

variable {Reply : Type}

/-- `SignupReqDTO`. -/
structure SignupReqDTO where
  userId : String
  password : String
  userName : String
  phoneNumber : String
  role : ℤ
  address : String
  businessNumber : String
  accountNumber : String
  storeName : String
  category : String
  storeAddress : String

/-- `SignupResult`. -/
inductive SignupResult
  | SUCCESS
  | DUPLICATE_ID
  | DUPLICATE_PHONE
  | SERVER_ERROR
  deriving DecidableEq

/-- `ReqAddressSaveDTO`. -/
structure ReqAddressSaveDTO where
  userId : String
  address : String
  detail : String
  guide : String
  label : String
  deriving DecidableEq

/-- `ReqAddressUpdateDTO`. -/
structure ReqAddressUpdateDTO where
  userId : String
  addressId : ℤ
  detail : String
  guide : String
  label : String
  deriving DecidableEq

/-- `text.empty() ? fallback : text`. -/
def orElse (text fallback : String) : String :=
  if text = "" then fallback else text

namespace UserDAO

/-- The `INSERT`s of `insertUser` after the one into `USERS`. -/
def insertRole (dto : SignupReqDTO) : AccountDao Reply Unit := do
  if dto.role = 0 then
    prepareStatement
    let _ ← executeUpdate (insertCustomer dto.userId (orElse dto.address "주소 미상"))
  else if dto.role = 1 then
    prepareStatement
    let _ ← executeUpdate (insertOwner dto.userId (orElse dto.businessNumber "미등록")
      (orElse dto.accountNumber "미등록"))
    prepareStatement
    let _ ← executeUpdate (insertStore dto.userId (orElse dto.storeName "가게명 미상")
      (orElse dto.category "기타") (orElse dto.storeAddress "주소 미상"))

/-- The transaction of `insertUser`. -/
def insertRows (dto : SignupReqDTO) : AccountDao Reply SignupResult := do
  setAutoCommit false
  prepareStatement
  let _ ← executeUpdate
    (insertUser dto.userId dto.password dto.userName dto.phoneNumber dto.role)
  insertRole dto
  commit
  setAutoCommit true
  pure .SUCCESS

/-- `insertUser`. -/
def insertUser (dto : SignupReqDTO) : AccountDao Reply SignupResult :=
  catchSql
    (do
      prepareStatement
      let ids ← executeQuery (countUserId dto.userId)
      if ids > 0 then pure .DUPLICATE_ID
      else
        prepareStatement
        let phones ← executeQuery (countPhoneAndRole dto.phoneNumber dto.role)
        if phones > 0 then pure .DUPLICATE_PHONE else insertRows dto)
    fun _ => do
      rollback
      setAutoCommit true
      pure .SERVER_ERROR

end UserDAO

namespace MembershipDAO

/-- `updateMembershipGrade`; `action` is not used. -/
def updateMembershipGrade (userId targetGrade : String) (_action : ℤ) : AccountDao Reply Bool :=
  catchSql
    (do
      setAutoCommit false
      prepareStatement
      let _ ← executeUpdate (setUserGrade targetGrade userId)
      prepareStatement
      let _ ← executeUpdate (setCustomerGrade targetGrade userId)
      commit
      setAutoCommit true
      pure true)
    fun _ => do
      rollback
      setAutoCommit true
      pure false

end MembershipDAO

namespace AddressDAO

/-- `saveAddress`. -/
def saveAddress (dto : ReqAddressSaveDTO) : AccountDao Reply ℤ :=
  catchStd
    (do
      setAutoCommit false
      prepareStatement
      let _ ← executeUpdate (resetDefaults dto.userId)
      prepareStatement
      let _ ← executeUpdate
        (insertAddress dto.userId dto.address dto.detail dto.guide dto.label 1)
      prepareStatement -- `createStatement`
      let newId : ℤ ← executeQuery lastInsertId
      let fullAddr := dto.address ++ " " ++ dto.detail
      prepareStatement
      let _ ← executeUpdate (setCustomerAddress fullAddr dto.userId)
      commit
      setAutoCommit true
      pure newId)
    fun _ => do
      rollback
      setAutoCommit true
      pure (-1)

/-- `deleteAddress`: the default address is not deleted. -/
def deleteAddress (userId : String) (addressId : ℤ) : AccountDao Reply Bool :=
  catchSql
    (do
      prepareStatement
      let found : Option ℤ ← executeQuery (AccountQuery.isDefault userId addressId)
      match found with
      | some 1 => pure false
      | some _ =>
        prepareStatement
        let rows ← executeUpdate (.deleteAddress userId addressId)
        pure (decide (rows > 0))
      | none => pure false)
    fun _ => pure false

/-- `setDefaultAddress`. -/
def setDefaultAddress (userId : String) (addressId : ℤ) : AccountDao Reply Bool :=
  catchSql
    (do
      prepareStatement
      let _ ← executeUpdate (resetDefaults userId)
      prepareStatement
      let rows ← executeUpdate (setDefault userId addressId)
      if rows > 0 then
        prepareStatement
        let found : Option String ← executeQuery (addressOf addressId)
        let newDefaultAddress := cStr (found.getD "")
        prepareStatement
        let _ ← executeUpdate (setCustomerAddress newDefaultAddress userId)
      pure (decide (rows > 0)))
    fun _ => pure false

/-- `updateAddress`. -/
def updateAddress (req : ReqAddressUpdateDTO) : AccountDao Reply Bool :=
  catchSql
    (do
      prepareStatement
      let rows ← executeUpdate
        (.updateAddress req.detail req.guide req.label req.userId req.addressId)
      pure (decide (rows > 0)))
    fun _ => pure false

end AddressDAO

end ItsBedalyo
