import ItsBedalyo.Database.DeliveryAddress
import ItsBedalyo.Handler.ChatHandler
import ItsBedalyo.Handler.UserHandler
import ItsBedalyo.Session.RegistryCompleteness
import ItsBedalyo.Thread.PoolTasks

/-!
# The requests of one connection, on the pool

`dispatch` enqueues a request and goes on to the next, so that the workers handle requests of one
connection at the same time. A login authenticates the session and then registers it, a logout
looks up its user, removes the entry and clears the session, and a chat request asks the session who
it is; the effects depend on how these steps interleave.

They are those of handling the requests in order as long as no login or logout runs while another
request of the connection does (`identity_inOrder`), as with one worker.
-/

namespace ItsBedalyo

/-! ### Login and logout -/

/-- What `validateLogin` reports of an owner and the store. -/
structure OwnerInfo where
  businessNumber : String
  accountNumber : String
  approvalStatus : ℤ
  storeId : ℤ
  storeName : String
  category : String
  storeAddress : String
  cookTime : String
  minOrderAmount : String
  openTime : String
  closeTime : String

/-- `userInfo`; `owner` is there for an owner only. -/
structure UserInfo where
  userId : String
  userName : String
  phoneNumber : String
  role : ℤ
  grade : String
  address : String
  owner : Option OwnerInfo

/-- `LoginReqDTO`. -/
structure LoginReqDTO where
  userId : String
  password : String
  role : ℤ

/-- `AuthResDTO`, with the fields that a login fills. -/
structure LoginAuthResDTO extends AuthResDTO where
  userId : String := ""
  address : String := ""
  phoneNumber : String := ""
  role : String := ""
  errorType : String := ""
  grade : String := ""
  storeId : ℤ := 0
  businessNumber : String := ""
  storeName : String := ""
  category : String := ""
  storeAddress : String := ""
  cookTime : String := ""
  minOrderAmount : String := ""
  openTime : String := ""
  closeTime : String := ""
  accountNumber : String := ""
  deliveryFee : ℤ := 0
  approvalStatus : ℤ := 0

/-- What a request of a connection calls: what the chat calls, and what a login or a logout does
to the registry. -/
inductive ConnOp
  | chat (o : ChatOp)
  | validateLogin (userId password : String) (role : ℤ)
  | authenticate (userId : String) (role : ℤ)
  | registerUser (userId : String) (role : ℤ)
  | removeUser (userId : String)
  | clearAuth
  | sendLogin (res : LoginAuthResDTO)
  | sendLogout (status : ℤ) (message : String)

/-- What an operation returns. -/
abbrev ConnOp.Res : ConnOp → Type
  | chat o => o.Res
  | validateLogin .. => LoginResult × UserInfo
  | _ => Unit

/-- Handler code. -/
abbrev ConnProg := Prog ConnOp.Res String

namespace ConnProg

abbrev chat {α : Type} (p : ChatProg α) : ConnProg α := p.embed ConnOp.chat

abbrev validateLogin (userId password : String) (role : ℤ) : ConnProg (LoginResult × UserInfo) :=
  Prog.op (ConnOp.validateLogin userId password role)

abbrev authenticate (userId : String) (role : ℤ) : ConnProg Unit :=
  Prog.op (ConnOp.authenticate userId role)

abbrev registerUser (userId : String) (role : ℤ) : ConnProg Unit :=
  Prog.op (ConnOp.registerUser userId role)

abbrev removeUser (userId : String) : ConnProg Unit := Prog.op (ConnOp.removeUser userId)

abbrev clearAuth : ConnProg Unit := Prog.op ConnOp.clearAuth

abbrev sendLogin (res : LoginAuthResDTO) : ConnProg Unit := Prog.op (ConnOp.sendLogin res)

abbrev sendLogout (status : ℤ) (message : String) : ConnProg Unit :=
  Prog.op (ConnOp.sendLogout status message)

end ConnProg

namespace UserHandler

open ConnProg

/-- The response to a login that succeeds. -/
def loginResponse (userJson : UserInfo) : LoginAuthResDTO :=
  let res : LoginAuthResDTO :=
    { status := 200, message := "로그인 성공", userName := userJson.userName,
      userId := userJson.userId, address := userJson.address,
      phoneNumber := userJson.phoneNumber, grade := userJson.grade,
      role := toString userJson.role }
  match userJson.owner with
  | some owner =>
    if userJson.role = 1 then
      { res with
        businessNumber := owner.businessNumber, accountNumber := owner.accountNumber,
        approvalStatus := owner.approvalStatus, storeId := owner.storeId,
        storeName := owner.storeName, category := owner.category,
        storeAddress := owner.storeAddress, cookTime := owner.cookTime,
        minOrderAmount := owner.minOrderAmount, openTime := owner.openTime,
        closeTime := owner.closeTime }
    else res
  | none => res

/-- `errRes` of a login. -/
def loginError (status : ℤ) (message : String) : LoginAuthResDTO :=
  { status := status, message := message }

/-- `handleLogin`. -/
def handleLogin (body : Except String LoginReqDTO) : ConnProg Unit := do
  try
    let req ← Prog.ofExcept body
    let validated ← validateLogin req.userId req.password req.role
    match validated with
    | (.SUCCESS, userJson) =>
      authenticate userJson.userId userJson.role
      registerUser userJson.userId userJson.role
      sendLogin (loginResponse userJson)
    | (.ID_PASS_WRONG, _) =>
      sendLogin (loginError 401 "아이디/비밀번호가 틀렸거나 권한이 맞지 않습니다.")
    | (.SERVER_ERROR, _) =>
      sendLogin (loginError 500 "로그인 처리 중 서버 오류가 발생했습니다.")
  catch _ => pure ()

/-- `handleLogout`. -/
def handleLogout : ConnProg Unit := do
  try
    let userId ← chat ChatProg.getUserId
    if userId = "" then
      sendLogout 200 "안전하게 로그아웃 되었습니다."
    else
      removeUser userId
      clearAuth
      sendLogout 200 "안전하게 로그아웃 되었습니다."
  catch _ => sendLogout 500 "서버 내부 오류"

end UserHandler

/-! ### Requests of a connection -/

/-- A login, logout or chat request, with what becomes of its body. -/
inductive ConnRequest
  | login (body : Except String LoginReqDTO)
  | logout
  | chatConnect (body : Except String ReqChatConnectDTO)
  | chatAccept (body : Except String ReqChatAcceptDTO)
  | chatSend (body : Except String ReqChatSendDTO)
  | chatClose (body : Except String ℤ)

namespace ConnRequest

open UserHandler ChatHandler ConnProg

/-- The handler of the request. -/
def handler : ConnRequest → ConnProg Unit
  | login body => handleLogin body
  | logout => handleLogout
  | chatConnect body => chat (handleChatRequest body)
  | chatAccept body => chat (handleChatAccept body)
  | chatSend body => chat (handleChatSend body)
  | chatClose body => chat (handleChatClose body)

/-- The task that `dispatch` enqueues. -/
def program (request : ConnRequest) : ConnProg Unit := do
  try request.handler
  catch _ => pure ()

/-- A chat request. -/
def IsChat : ConnRequest → Prop
  | login _ | logout => False
  | _ => True

end ConnRequest

/-- What a request learns of the identity of its session. -/
inductive Identity
  | userId (userId : String)
  | role (role : ℤ)
  deriving DecidableEq

/-- A response to a login or a logout. -/
inductive LoginReply
  | login (res : LoginAuthResDTO)
  | logout (status : ℤ) (message : String)

/-- What the requests act on; `served` is what each of them has learned. -/
structure ConnWorld where
  chat : ChatWorld
  replies : List LoginReply
  served : ℕ → List Identity

namespace ConnWorld

def withSessions (w : ConnWorld) (sessions : SessionManager) : ConnWorld :=
  { w with chat := { w.chat with sessions := sessions } }

/-- The request at a position learns something. -/
def learn (w : ConnWorld) (i : ℕ) (identity : Identity) : ConnWorld :=
  { w with served := Function.update w.served i (w.served i ++ [identity]) }

/-- A call of an operation for the request at a position; `validate` tells what `validateLogin`
finds for it. -/
def exec (session : SessionRef)
    (validate : ℕ → String → String → ℤ → Except String (LoginResult × UserInfo)) (i : ℕ)
    (o : ConnOp) (now : String) (w : ConnWorld) : Option (Except String o.Res × ConnWorld) :=
  match o with
  | .chat .getUserId =>
    let userId := (w.chat.sessions.object session).userId
    some (.ok userId, w.learn i (.userId userId))
  | .chat .getRole =>
    let role := (w.chat.sessions.object session).role
    some (.ok role, w.learn i (.role role))
  | .chat o => (ChatWorld.exec session o now w.chat).map fun rw => (rw.1, { w with chat := rw.2 })
  | .validateLogin userId password role => some (validate i userId password role, w)
  | .authenticate userId role =>
    some (.ok (), w.withSessions (w.chat.sessions.authenticate session userId role))
  | .registerUser userId role =>
    some (.ok (), w.withSessions (w.chat.sessions.registerUser userId role session))
  | .removeUser userId => some (.ok (), w.withSessions (w.chat.sessions.removeUser userId))
  | .clearAuth => some (.ok (), w.withSessions (w.chat.sessions.clearAuth session))
  | .sendLogin res => some (.ok (), { w with replies := w.replies ++ [.login res] })
  | .sendLogout status message =>
    some (.ok (), { w with replies := w.replies ++ [.logout status message] })

end ConnWorld

/-! ### What a request does to the registry, and what it learns -/

namespace RequestOrder

open Interface ConnProg ConnRequest

section Effects

variable (session : SessionRef)
  (validate : ℕ → String → String → ℤ → Except String (LoginResult × UserInfo)) (i : ℕ)

/-- The operations of the chat, on the registry and on what a request has learned. -/
def chatInterface : Interface ChatOp.Res String (SessionManager × List Identity) where
  pre _ o := ∀ f, o ≠ .others f
  post g
    | .getUserId, r, g' => r = .ok (g.1.object session).userId ∧
        g' = (g.1, g.2 ++ [.userId (g.1.object session).userId])
    | .getRole, r, g' => r = .ok (g.1.object session).role ∧
        g' = (g.1, g.2 ++ [.role (g.1.object session).role])
    | .others f, _, g' => g' = (f g.1, g.2)
    | _, r, g' => (∃ a, r = .ok a) ∧ g' = g

/-- All operations; a chat request calls those of the chat only. -/
def interface (request : ConnRequest) :
    Interface ConnOp.Res String (SessionManager × List Identity) where
  pre g
    | .chat o => (chatInterface session).pre g o
    | _ => ¬request.IsChat
  post g
    | .chat o, r, g' => (chatInterface session).post g o r g'
    | .validateLogin userId password role, r, g' =>
      r = validate i userId password role ∧ g' = g
    | .authenticate userId role, r, g' =>
      r = .ok () ∧ g' = (g.1.authenticate session userId role, g.2)
    | .registerUser userId role, r, g' =>
      r = .ok () ∧ g' = (g.1.registerUser userId role session, g.2)
    | .removeUser userId, r, g' => r = .ok () ∧ g' = (g.1.removeUser userId, g.2)
    | .clearAuth, r, g' => r = .ok () ∧ g' = (g.1.clearAuth session, g.2)
    | .sendLogin _, r, g' => r = .ok () ∧ g' = g
    | .sendLogout _ _, r, g' => r = .ok () ∧ g' = g

/-- The registry after a request, and what the request has learned. -/
def effect : ConnRequest → SessionManager → SessionManager × List Identity
  | .login (.ok req), m =>
    match validate i req.userId req.password req.role with
    | .ok (.SUCCESS, userJson) => (m.handleLogin session userJson.userId userJson.role, [])
    | _ => (m, [])
  | .logout, m => (m.handleLogout session, [.userId (m.object session).userId])
  | .chatConnect (.ok _), m =>
    (m, if (m.object session).userId = "" then [.userId (m.object session).userId]
      else [.userId (m.object session).userId, .role (m.object session).role])
  | .chatAccept (.ok _), m | .chatClose (.ok _), m =>
    (m, [.userId (m.object session).userId])
  | _, m => (m, [])

end Effects

section Rules

variable {session : SessionRef}
  {validate : ℕ → String → String → ℤ → Except String (LoginResult × UserInfo)} {i : ℕ}
  {request : ConnRequest} {g : SessionManager × List Identity}

@[simp] theorem wp_getUserId {Q : Except String String → SessionManager × List Identity → Prop} :
    (chatInterface session).wp ChatProg.getUserId Q g ↔
      Q (.ok (g.1.object session).userId)
        (g.1, g.2 ++ [.userId (g.1.object session).userId]) :=
  (wp_op_eq fun _ _ => Iff.rfl).trans (and_iff_right nofun)

@[simp] theorem wp_getRole {Q : Except String ℤ → SessionManager × List Identity → Prop} :
    (chatInterface session).wp ChatProg.getRole Q g ↔
      Q (.ok (g.1.object session).role) (g.1, g.2 ++ [.role (g.1.object session).role]) :=
  (wp_op_eq fun _ _ => Iff.rfl).trans (and_iff_right nofun)

/-- The other operations of the chat return and change nothing of this. -/
theorem wp_op_chat {o : ChatOp} {Q : Except String o.Res → SessionManager × List Identity → Prop}
    (hothers : ∀ f, o ≠ .others f)
    (hpost : ∀ r g', (chatInterface session).post g o r g' ↔ (∃ a, r = .ok a) ∧ g' = g) :
    (chatInterface session).wp (Prog.op o) Q g ↔ ∀ a, Q (.ok a) g := by
  refine wp_op.trans ((and_iff_right hothers).trans ⟨fun h a => ?_, fun h r g' hr => ?_⟩)
  · exact h (.ok a) g ((hpost _ _).mpr ⟨⟨a, rfl⟩, rfl⟩)
  · obtain ⟨⟨a, rfl⟩, rfl⟩ := (hpost r g').mp hr
    exact h a

@[simp] theorem wp_localtime {Q : Except String String → SessionManager × List Identity → Prop} :
    (chatInterface session).wp ChatProg.localtime Q g ↔ ∀ a, Q (.ok a) g :=
  wp_op_chat nofun fun _ _ => Iff.rfl

@[simp] theorem wp_sendPacket {packet : ChatPacket}
    {Q : Except String Unit → SessionManager × List Identity → Prop} :
    (chatInterface session).wp (ChatProg.sendPacket packet) Q g ↔ Q (.ok ()) g :=
  (wp_op_chat (o := ChatOp.sendPacket packet) nofun fun _ _ => Iff.rfl).trans
    ⟨fun h => h (), fun h _ => h⟩

@[simp] theorem wp_broadcastToRole {targetRole : ℤ} {packet : ChatPacket}
    {Q : Except String Unit → SessionManager × List Identity → Prop} :
    (chatInterface session).wp (ChatProg.broadcastToRole targetRole packet) Q g ↔ Q (.ok ()) g :=
  (wp_op_chat (o := ChatOp.broadcastToRole targetRole packet) nofun fun _ _ => Iff.rfl).trans
    ⟨fun h => h (), fun h _ => h⟩

@[simp] theorem wp_sendToUser {userId : String} {packet : ChatPacket}
    {Q : Except String Bool → SessionManager × List Identity → Prop} :
    (chatInterface session).wp (ChatProg.sendToUser userId packet) Q g ↔ ∀ a, Q (.ok a) g :=
  wp_op_chat nofun fun _ _ => Iff.rfl

@[simp] theorem wp_createRoom {customerId adminId : String} {orderId : ℕ}
    {Q : Except String ℤ → SessionManager × List Identity → Prop} :
    (chatInterface session).wp (ChatProg.createRoom customerId adminId orderId) Q g ↔
      ∀ a, Q (.ok a) g :=
  wp_op_chat nofun fun _ _ => Iff.rfl

@[simp] theorem wp_getRoom {roomId : ℤ}
    {Q : Except String (Option ChatRoom) → SessionManager × List Identity → Prop} :
    (chatInterface session).wp (ChatProg.getRoom roomId) Q g ↔ ∀ a, Q (.ok a) g :=
  wp_op_chat nofun fun _ _ => Iff.rfl

@[simp] theorem wp_removeRoom {roomId : ℤ}
    {Q : Except String Unit → SessionManager × List Identity → Prop} :
    (chatInterface session).wp (ChatProg.removeRoom roomId) Q g ↔ Q (.ok ()) g :=
  (wp_op_chat (o := ChatOp.removeRoom roomId) nofun fun _ _ => Iff.rfl).trans
    ⟨fun h => h (), fun h _ => h⟩

@[simp] theorem comap_chat :
    (interface session validate i request).comap ConnOp.chat = chatInterface session := rfl

@[simp] theorem wp_validateLogin {userId password : String} {role : ℤ}
    {Q : Except String (LoginResult × UserInfo) → SessionManager × List Identity → Prop} :
    (interface session validate i request).wp (validateLogin userId password role) Q g ↔
      ¬request.IsChat ∧ Q (validate i userId password role) g :=
  wp_op_eq fun _ _ => Iff.rfl

@[simp] theorem wp_authenticate {userId : String} {role : ℤ}
    {Q : Except String Unit → SessionManager × List Identity → Prop} :
    (interface session validate i request).wp (authenticate userId role) Q g ↔
      ¬request.IsChat ∧ Q (.ok ()) (g.1.authenticate session userId role, g.2) :=
  wp_op_eq fun _ _ => Iff.rfl

@[simp] theorem wp_registerUser {userId : String} {role : ℤ}
    {Q : Except String Unit → SessionManager × List Identity → Prop} :
    (interface session validate i request).wp (registerUser userId role) Q g ↔
      ¬request.IsChat ∧ Q (.ok ()) (g.1.registerUser userId role session, g.2) :=
  wp_op_eq fun _ _ => Iff.rfl

@[simp] theorem wp_removeUser {userId : String}
    {Q : Except String Unit → SessionManager × List Identity → Prop} :
    (interface session validate i request).wp (removeUser userId) Q g ↔
      ¬request.IsChat ∧ Q (.ok ()) (g.1.removeUser userId, g.2) :=
  wp_op_eq fun _ _ => Iff.rfl

@[simp] theorem wp_clearAuth {Q : Except String Unit → SessionManager × List Identity → Prop} :
    (interface session validate i request).wp clearAuth Q g ↔
      ¬request.IsChat ∧ Q (.ok ()) (g.1.clearAuth session, g.2) :=
  wp_op_eq fun _ _ => Iff.rfl

@[simp] theorem wp_sendLogin {res : LoginAuthResDTO}
    {Q : Except String Unit → SessionManager × List Identity → Prop} :
    (interface session validate i request).wp (sendLogin res) Q g ↔
      ¬request.IsChat ∧ Q (.ok ()) g :=
  wp_op_eq fun _ _ => Iff.rfl

@[simp] theorem wp_sendLogout {status : ℤ} {message : String}
    {Q : Except String Unit → SessionManager × List Identity → Prop} :
    (interface session validate i request).wp (sendLogout status message) Q g ↔
      ¬request.IsChat ∧ Q (.ok ()) g :=
  wp_op_eq fun _ _ => Iff.rfl

/-- What a request does on its own. -/
theorem wp_program (m : SessionManager) :
    (interface session validate i request).wp request.program
      (fun _ g => g = effect session validate i request m) (m, []) := by
  cases request with
  | login body =>
    cases body with
    | error what =>
      simp [program, ConnRequest.handler, UserHandler.handleLogin, effect]
    | ok req =>
      simp only [program, ConnRequest.handler, UserHandler.handleLogin, effect, wp_tryCatch,
        wp_bind, wp_ofExcept, wp_validateLogin, IsChat, not_false_eq_true, true_and]
      rcases hvalidate : validate i req.userId req.password req.role with what | ⟨result, userJson⟩
      · simp
      · cases result with
        | SUCCESS => simp [IsChat, SessionManager.handleLogin]
        | ID_PASS_WRONG => simp [IsChat]
        | SERVER_ERROR => simp [IsChat]
  | logout =>
    by_cases huser : (m.object session).userId = ""
    · simp [program, ConnRequest.handler, UserHandler.handleLogout, effect, IsChat,
        SessionManager.handleLogout, huser]
    · simp [program, ConnRequest.handler, UserHandler.handleLogout, effect, IsChat,
        SessionManager.handleLogout, huser]
  | chatConnect body =>
    cases body with
    | error what => simp [program, ConnRequest.handler, ChatHandler.handleChatRequest, effect]
    | ok req => simp [program, ConnRequest.handler, ChatHandler.handleChatRequest, effect]
  | chatAccept body =>
    cases body with
    | error what => simp [program, ConnRequest.handler, ChatHandler.handleChatAccept, effect]
    | ok req => simp [program, ConnRequest.handler, ChatHandler.handleChatAccept, effect]
  | chatSend body =>
    cases body with
    | error what => simp [program, ConnRequest.handler, ChatHandler.handleChatSend, effect]
    | ok req =>
      simp [program, ConnRequest.handler, ChatHandler.handleChatSend, effect, Option.forall]
  | chatClose body =>
    cases body with
    | error what => simp [program, ConnRequest.handler, ChatHandler.handleChatClose, effect]
    | ok roomId =>
      simp [program, ConnRequest.handler, ChatHandler.handleChatClose, effect, Option.forall]

end Rules

/-! ### Any number of workers -/

section Workers

open PoolTasks Transition

variable (session : SessionRef)
  (validate : ℕ → String → String → ℤ → Except String (LoginResult × UserInfo))

/-- The requests of the session as tasks of the pool. -/
def tasks : PoolTasks ConnRequest ConnOp.Res String ConnWorld String where
  program := ConnRequest.program
  exec := ConnWorld.exec session validate

theorem exec_post {i : ℕ} (request : ConnRequest) {o : ConnOp} {now : String} {w w' : ConnWorld}
    {r : Except String o.Res} (h : ConnWorld.exec session validate i o now w = some (r, w')) :
    (interface session validate i request).post (w.chat.sessions, w.served i) o r
      (w'.chat.sessions, w'.served i) := by
  cases o with
  | chat o =>
    cases o with
    | getUserId | getRole =>
      cases h
      exact ⟨rfl, Prod.ext rfl (Function.update_self ..)⟩
    | others f =>
      cases h
      rfl
    | _ =>
      cases h
      exact ⟨⟨_, rfl⟩, rfl⟩
  | _ =>
    cases h
    exact ⟨rfl, rfl⟩

/-- A request learns nothing for another one. -/
theorem exec_served {i j : ℕ} {o : ConnOp} {now : String} {w w' : ConnWorld}
    {r : Except String o.Res} (h : ConnWorld.exec session validate i o now w = some (r, w'))
    (hne : j ≠ i) : w'.served j = w.served j := by
  cases o with
  | chat o =>
    cases o with
    | getUserId | getRole =>
      cases h
      exact Function.update_of_ne hne _ _
    | _ =>
      cases h
      rfl
  | _ =>
    cases h
    rfl

/-- What there is to compare: the registry, and what each request has learned. A chat request only
reads. -/
def identities : (tasks session validate).Observation SessionManager Identity where
  shared w := w.chat.sessions
  log w := w.served
  interface := interface session validate
  effect := effect session validate
  Reads := ConnRequest.IsChat
  exec_post _ request _ _ _ _ _ h := exec_post session validate request h
  exec_log _ _ _ _ _ _ _ h hne := exec_served session validate h hne
  program_wp _ _ m := wp_program m
  post_of_reads := by
    rintro i request g o r g' hchat hpre hpost
    cases o with
    | chat o =>
      cases o with
      | getUserId | getRole =>
        obtain ⟨-, rfl⟩ := hpost
        rfl
      | others f => exact absurd rfl (hpre f)
      | _ =>
        obtain ⟨-, rfl⟩ := hpost
        rfl
    | _ => exact absurd hchat hpre
  effect_of_reads := by
    intro i request m hchat
    cases request with
    | login body => exact hchat.elim
    | logout => exact hchat.elim
    | chatSend body => rfl
    | _ body => cases body <;> rfl

/-- The world before the first request. -/
def init (sessions : SessionManager) (rooms : ChatRoomManager) : ConnWorld :=
  ⟨⟨sessions, rooms, [], []⟩, [], fun _ => []⟩

/-- **Requests take effect in order.** With any number of workers requests are taken up in the order
in which they were sent. In every run in which no login or logout runs while another request does,
the registry and what each request has learned are as when they are handled in order. -/
theorem identity_inOrder (n : ℕ) (sessions : SessionManager) (rooms : ChatRoomManager)
    (l : List (PoolTasks.Action n ConnRequest String))
    (hexclusive : Along (tasks session validate).step
      (Observation.Exclusive (identities session validate)) (start n (init sessions rooms)) l) :
    Always (tasks session validate).step
      (fun s => s.pool.started <+: s.pool.enqueued ∧
        (∃ w', (tasks session validate).HandledInOrder 0 s.pool.started (init sessions rooms) w') ∧
        Observation.InOrder (identities session validate) (init sessions rooms) s)
      (start n (init sessions rooms)) l := by
  have hexec : ∀ i o w, ∃ now r w', ConnWorld.exec session validate i o now w = some (r, w') := by
    intro i o w
    refine ⟨"", ?_⟩
    cases o with
    | chat o => cases o <;> exact ⟨_, _, rfl⟩
    | _ => exact ⟨_, _, rfl⟩
  have hstarted := started_prefix (T := tasks session validate) (init sessions rooms) l
  have hinOrder := Observation.inOrder_of_along (O := identities session validate)
    (fun _ => rfl) hexclusive
  refine (hstarted.and hinOrder).mono fun s h => ⟨h.1, ?_, h.2⟩
  exact exists_handledInOrder (T := tasks session validate) hexec 0 s.pool.started _

end Workers

/-! ### A login and a chat request -/

section Samples

open PoolTasks Transition

/-- A database that knows every customer. -/
def sampleValidate (_ : ℕ) (userId _ : String) (role : ℤ) :
    Except String (LoginResult × UserInfo) :=
  .ok (.SUCCESS, ⟨userId, userId, "", role, "일반", "", none⟩)

/-- One connection. -/
def sampleSessions : SessionManager := SessionManager.init.createSession 4

/-- `kim` logs in, and asks for a chat. -/
def sampleRequests : List (PoolTasks.Action n ConnRequest String) :=
  [.pool (.push (.login (.ok ⟨"kim", "pw", 0⟩))), .pool (.push (.chatConnect (.ok ⟨"kim", 0⟩)))]

/-- With one worker the chat is asked for by `kim`. -/
theorem identity_inOrder_sample :
    Always (tasks 0 sampleValidate).step
      (fun s => s.pool.started <+: s.pool.enqueued ∧
        (∃ w', (tasks 0 sampleValidate).HandledInOrder 0 s.pool.started
          (init sampleSessions .init) w') ∧
        Observation.InOrder (identities 0 sampleValidate) (init sampleSessions .init) s)
      (start 1 (init sampleSessions .init))
      (sampleRequests ++ [.pool (.lock 0), .work 0 "", .work 0 "", .work 0 "", .work 0 "",
        .pool (.finish 0), .pool (.lock 0), .work 0 "", .work 0 "", .work 0 "", .work 0 "",
        .pool (.finish 0)]) :=
  identity_inOrder 0 sampleValidate 1 sampleSessions .init _
    (along_of_forall Observation.exclusive_of_one)

/-- With two workers the chat request may come before the login, and find nobody logged in; and a
logout may, and leave the session logged in. -/
theorem not_inOrder_sample :
    (∃ s, run (tasks 0 sampleValidate).step (start 2 (init sampleSessions .init))
        (sampleRequests ++ [.pool (.lock 0), .pool (.lock 1), .work 1 "", .pool (.finish 1),
          .work 0 "", .work 0 "", .work 0 "", .work 0 "", .pool (.finish 0)]) = some s ∧
      ¬Observation.InOrder (identities 0 sampleValidate) (init sampleSessions .init) s) ∧
    ∃ s, run (tasks 0 sampleValidate).step (start 2 (init sampleSessions .init))
        [.pool (.push (.login (.ok ⟨"kim", "pw", 0⟩))), .pool (.push .logout), .pool (.lock 0),
          .pool (.lock 1), .work 1 "", .work 1 "", .pool (.finish 1),
          .work 0 "", .work 0 "", .work 0 "", .work 0 "", .pool (.finish 0)] = some s ∧
      ¬Observation.InOrder (identities 0 sampleValidate) (init sampleSessions .init) s := by
  refine ⟨⟨_, rfl, fun h => ?_⟩, ⟨_, rfl, fun h => ?_⟩⟩
  · have hhandled : (tasks 0 sampleValidate).HandledInOrder 0
        [.login (.ok ⟨"kim", "pw", 0⟩), .chatConnect (.ok ⟨"kim", 0⟩)]
        (init sampleSessions .init) _ :=
      ⟨["", "", "", ""], _, _, rfl, ["", "", "", ""], _, _, rfl, rfl⟩
    have hserved := congrFun (h (Fin.forall_fin_two.mpr ⟨nofun, nofun⟩) _ hhandled).2 1
    exact absurd hserved (by decide)
  · have hhandled : (tasks 0 sampleValidate).HandledInOrder 0
        [.login (.ok ⟨"kim", "pw", 0⟩), .logout] (init sampleSessions .init) _ :=
      ⟨["", "", "", ""], _, _, rfl, ["", "", "", ""], _, _, rfl, rfl⟩
    have hsessions := (h (Fin.forall_fin_two.mpr ⟨nofun, nofun⟩) _ hhandled).1
    have huser := congrArg (fun m : SessionManager => (m.object 0).userId) hsessions
    exact absurd huser (by decide)

end Samples

end RequestOrder

end ItsBedalyo
