import ItsBedalyo.Database.AccountDAO

/-!
# The account handlers: `UserHandler.cpp`

`handleSignup` and `handleGradeUpdate`, on the parsed body of their request: `.error what` for
a body that `json::parse` or the DTO's `get` rejects inside the handler's `try`.
-/

namespace ItsBedalyo

/-- `AuthResDTO`, with the fields that sign-up fills. -/
structure AuthResDTO where
  status : ℤ
  message : String
  userName : String := ""
  deriving DecidableEq

/-- `ReqGradeUpdateDTO`. -/
structure ReqGradeUpdateDTO where
  userId : String
  grade : String
  action : ℤ
  deriving DecidableEq

/-- `ResGradeUpdateDTO`. -/
structure ResGradeUpdateDTO where
  status : ℤ
  message : String
  deriving DecidableEq

namespace UserHandler

open Dao AccountStatement

/-- The response to a sign-up. -/
def signupResponse (req : SignupReqDTO) : SignupResult → AuthResDTO
  | .SUCCESS => ⟨200, "회원가입 성공", req.userName⟩
  | .DUPLICATE_ID => ⟨409, "이미 사용 중인 아이디입니다.", ""⟩
  | .DUPLICATE_PHONE => ⟨410, "이미 등록된 전화번호입니다.", ""⟩
  | .SERVER_ERROR => ⟨500, "서버 내부 오류 (DB 혹은 데이터 규격 확인 필요)", ""⟩

/-- `handleSignup`. -/
def handleSignup (body : Except Exn SignupReqDTO) : AccountDao AuthResDTO Unit := do
  let res ← catchStd
    (do
      let req ← Prog.ofExcept body
      let result ← UserDAO.insertUser req
      pure (signupResponse req result))
    fun _ => pure ⟨400, "데이터 형식이 잘못되었습니다.", ""⟩
  sendPacket res

/-- The grade a grade update sets. -/
def targetGrade (action : ℤ) : String :=
  if action = 1 then "와우" else "일반"

/-- The text of the response to a grade update. -/
def displayMsg (action : ℤ) : String :=
  if action = 1 then "멤버십 가입이 완료되었습니다! 이제 배달비가 0원입니다. 🎉"
  else if action = 2 then
    "멤버십 해지가 예약되었습니다. 이용 기간 종료 후 일반 등급으로 변경됩니다."
  else ""

/-- `handleGradeUpdate`. -/
def handleGradeUpdate (body : Except Exn ReqGradeUpdateDTO) : AccountDao ResGradeUpdateDTO Unit :=
  catchStd
    (do
      let req ← Prog.ofExcept body
      if req.userId = "" then
        throw (.std "UserId가 비어있습니다. JSON 키값을 확인하세요.")
      setAutoCommit false
      prepareStatement
      let _ ← executeUpdate (setUserGrade (targetGrade req.action) req.userId)
      prepareStatement
      let _ ← executeUpdate (setCustomerGrade (targetGrade req.action) req.userId)
      commit
      setAutoCommit true
      sendPacket ⟨200, displayMsg req.action⟩)
    fun _ => do
      rollback
      setAutoCommit true
      sendPacket ⟨500, "서버 오류로 등급 변경에 실패했습니다."⟩

end UserHandler

end ItsBedalyo
