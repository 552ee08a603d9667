import ItsBedalyo.Lib.Runs
import ItsBedalyo.Session.ChatRoomManager
import ItsBedalyo.Session.SessionManager

/-!
# The chat with the administrators: `ChatHandler.cpp`

The four handlers as programs over what they call: the identity of their own session, the chat
rooms, and the three ways to send a packet. Each operation is one critical section of its manager,
and none of them throws. A body arrives as what `json::parse` and the conversion to the DTO make of
it, or as the text of the exception.

`sent` records the packets in the order in which they are handed over, with the session that a
user was registered with at that moment; `opened` records what `createRoom` logs.
-/

namespace ItsBedalyo

namespace CmdID

def RES_CHAT_CONNECT : CmdID := 2091
def RES_CHAT_SEND : CmdID := 2093
def RES_REQUEST_OK : CmdID := 5000
def NOTIFY_CHAT_EXIT : CmdID := 5002
def NOTIFY_NEW_CHAT_REQUEST : CmdID := 9030
def NOTIFY_CHAT_ROOM_OPENED : CmdID := 9031
def NOTIFY_MSG_TO_USER : CmdID := 9032
def NOTIFY_MSG_TO_ADMIN : CmdID := 9033

end CmdID

/-! ### Requests and packets -/

/-- `ReqChatConnectDTO`. -/
structure ReqChatConnectDTO where
  userId : String
  storeId : ℤ

/-- `ReqChatAcceptDTO`. -/
structure ReqChatAcceptDTO where
  requesterId : String
  requesterType : String
  result : String

/-- `ReqChatSendDTO`. -/
structure ReqChatSendDTO where
  roomId : ℤ
  senderId : String
  content : String

/-- `ResChatConnectDTO`. -/
structure ResChatConnectDTO where
  status : ℤ
  roomId : ℤ
  message : String
  deriving DecidableEq

/-- `ResChatSendDTO`. -/
structure ResChatSendDTO where
  status : ℤ
  message : String
  deriving DecidableEq

/-- `NotifyChatRecvDTO`. -/
structure NotifyChatRecvDTO where
  roomId : ℤ
  senderId : String
  content : String
  sendTime : String
  deriving DecidableEq

/-- The payloads. -/
inductive ChatPayload
  /-- `adminNotify` -/
  | request (userId : String) (storeId role : ℤ) (message : String)
  | connect (dto : ResChatConnectDTO)
  /-- `requesterNotify` -/
  | opened (roomId : ℤ) (adminId message : String)
  | recv (dto : NotifyChatRecvDTO)
  | sent (dto : ResChatSendDTO)
  /-- the notice that a room was closed -/
  | exit (roomId : ℤ) (message : String)
  /-- `errRes` -/
  | exitError (status : ℤ) (message : String)
  deriving DecidableEq

/-- A packet with its command. -/
structure ChatPacket where
  cmdId : CmdID
  payload : ChatPayload
  deriving DecidableEq

/-- The room that a message or an exit notice is about. -/
def ChatPacket.inRoom (packet : ChatPacket) : Option ℤ :=
  match packet.payload with
  | .recv dto => some dto.roomId
  | .exit roomId _ => some roomId
  | _ => none

/-- A packet handed over: to the session of the request, to all users of a role, or to a user,
with the session it reached. -/
inductive ChatSent
  | reply (session : SessionRef) (packet : ChatPacket)
  | toRole (targetRole : ℤ) (packet : ChatPacket)
  | toUser (userId : String) (reached : Option SessionRef) (packet : ChatPacket)
  deriving DecidableEq

/-! ### Operations -/

/-- What the handlers call; `others` is what somebody else does to the sessions. -/
inductive ChatOp
  | getUserId
  | getRole
  | localtime
  | sendPacket (packet : ChatPacket)
  | broadcastToRole (targetRole : ℤ) (packet : ChatPacket)
  | sendToUser (userId : String) (packet : ChatPacket)
  | createRoom (customerId adminId : String) (orderId : ℕ)
  | getRoom (roomId : ℤ)
  | removeRoom (roomId : ℤ)
  | others (f : SessionManager → SessionManager)

/-- What an operation returns; `localtime` gives the time as `strftime` prints it. -/
abbrev ChatOp.Res : ChatOp → Type
  | getUserId | localtime => String
  | getRole | createRoom .. => ℤ
  | sendToUser .. => Bool
  | getRoom _ => Option ChatRoom
  | _ => Unit

/-- Handler code. -/
abbrev ChatProg := Prog ChatOp.Res String

/-- The sessions and the rooms, with what was logged and sent. -/
structure ChatWorld where
  sessions : SessionManager
  chatRooms : ChatRoomManager
  opened : List ChatRoom
  sent : List ChatSent

namespace ChatWorld

/-- A call of an operation for a session, at a time that reads `now`. -/
def exec (session : SessionRef) (o : ChatOp) (now : String) (w : ChatWorld) :
    Option (Except String o.Res × ChatWorld) :=
  match o with
  | .getUserId => some (.ok (w.sessions.object session).userId, w)
  | .getRole => some (.ok (w.sessions.object session).role, w)
  | .localtime => some (.ok now, w)
  | .sendPacket packet => some (.ok (), { w with sent := w.sent ++ [.reply session packet] })
  | .broadcastToRole targetRole packet =>
    some (.ok (), { w with sent := w.sent ++ [.toRole targetRole packet] })
  | .sendToUser userId packet =>
    let reached := w.sessions.userMap userId
    some (.ok reached.isSome, { w with sent := w.sent ++ [.toUser userId reached packet] })
  | .createRoom customerId adminId orderId =>
    let created := w.chatRooms.createRoom customerId adminId orderId
    some (.ok created.1,
      { w with
        chatRooms := created.2
        opened := w.opened ++ [⟨created.1, customerId, adminId, orderId⟩] })
  | .getRoom roomId => some (.ok (w.chatRooms.getRoom roomId), w)
  | .removeRoom roomId =>
    some (.ok (), { w with chatRooms := w.chatRooms.removeRoom roomId })
  | .others f => some (.ok (), { w with sessions := f w.sessions })

end ChatWorld

namespace ChatProg

abbrev getUserId : ChatProg String := Prog.op ChatOp.getUserId

abbrev getRole : ChatProg ℤ := Prog.op ChatOp.getRole

abbrev localtime : ChatProg String := Prog.op ChatOp.localtime

abbrev sendPacket (packet : ChatPacket) : ChatProg Unit := Prog.op (ChatOp.sendPacket packet)

abbrev broadcastToRole (targetRole : ℤ) (packet : ChatPacket) : ChatProg Unit :=
  Prog.op (ChatOp.broadcastToRole targetRole packet)

abbrev sendToUser (userId : String) (packet : ChatPacket) : ChatProg Bool :=
  Prog.op (ChatOp.sendToUser userId packet)

abbrev createRoom (customerId adminId : String) (orderId : ℕ) : ChatProg ℤ :=
  Prog.op (ChatOp.createRoom customerId adminId orderId)

abbrev getRoom (roomId : ℤ) : ChatProg (Option ChatRoom) := Prog.op (ChatOp.getRoom roomId)

abbrev removeRoom (roomId : ℤ) : ChatProg Unit := Prog.op (ChatOp.removeRoom roomId)

end ChatProg

/-! ### Handlers -/

namespace ChatHandler

open CmdID ChatProg

/-- `handleChatRequest`: the id in the request is not used. -/
def handleChatRequest (body : Except String ReqChatConnectDTO) : ChatProg Unit := do
  try
    let req ← Prog.ofExcept body
    let actualUserId ← getUserId
    if actualUserId = "" then
      throw "로그인되지 않은 세션입니다."
    else
      let role ← getRole
      let roleName := if role = 1 then "사장님" else "고객님"
      broadcastToRole 3 ⟨NOTIFY_NEW_CHAT_REQUEST, .request actualUserId req.storeId role
        (roleName ++ " [" ++ actualUserId ++ "] 님의 1:1 채팅 요청")⟩
      sendPacket ⟨RES_CHAT_CONNECT, .connect ⟨0, -1, "상담원 연결을 대기 중입니다..."⟩⟩
  catch _ => pure ()

/-- `handleChatAccept`. -/
def handleChatAccept (body : Except String ReqChatAcceptDTO) : ChatProg Unit := do
  try
    let req ← Prog.ofExcept body
    let userId ← getUserId
    let adminId := if userId = "" then "admin" else userId
    if req.result = "ACCEPT" then
      let roomId ← createRoom req.requesterId adminId 0
      sendPacket ⟨RES_REQUEST_OK, .connect ⟨0, roomId, "채팅방 생성 완료"⟩⟩
      let _ ← sendToUser req.requesterId
        ⟨NOTIFY_CHAT_ROOM_OPENED, .opened roomId adminId "상담원이 연결되었습니다."⟩
      pure ()
    else
      pure ()
  catch _ => pure ()

/-- The participant a message is sent to. -/
def targetUserId (room : ChatRoom) (senderId : String) : String :=
  if senderId = room.adminId then room.customerId else room.adminId

/-- The command of a message. -/
def notifyCmdId (room : ChatRoom) (senderId : String) : CmdID :=
  if targetUserId room senderId = room.adminId then NOTIFY_MSG_TO_ADMIN else NOTIFY_MSG_TO_USER

/-- `handleChatSend`: the sender is who the request says. -/
def handleChatSend (body : Except String ReqChatSendDTO) : ChatProg Unit := do
  try
    let req ← Prog.ofExcept body
    let found ← getRoom req.roomId
    match found with
    | none => throw "존재하지 않는 방입니다."
    | some room =>
      let now ← localtime
      let _ ← sendToUser (targetUserId room req.senderId) ⟨notifyCmdId room req.senderId,
        .recv ⟨req.roomId, req.senderId, req.content, now⟩⟩
      sendPacket ⟨RES_CHAT_SEND, .sent ⟨200, "전송 완료"⟩⟩
  catch _ => pure ()

/-- The notice that a room was closed by the user. -/
def exitNotice (room : ChatRoom) (roomId : ℤ) (requesterId : String) : ChatPacket :=
  ⟨NOTIFY_CHAT_EXIT, .exit roomId
    ((if requesterId = room.adminId then "관리자" else "고객님") ++ "이(가) 채팅을 종료하였습니다.")⟩

/-- `handleChatClose`, for the `roomId` of the request. -/
def handleChatClose (body : Except String ℤ) : ChatProg Unit := do
  try
    let roomId ← Prog.ofExcept body
    let requesterId ← getUserId
    let found ← getRoom roomId
    match found with
    | none => throw "이미 종료되었거나 존재하지 않는 방입니다."
    | some room =>
      let _ ← sendToUser room.customerId (exitNotice room roomId requesterId)
      let _ ← sendToUser room.adminId (exitNotice room roomId requesterId)
      removeRoom roomId
  catch _ =>
    sendPacket ⟨NOTIFY_CHAT_EXIT, .exitError 1 "종료 처리 중 오류가 발생했습니다."⟩

end ChatHandler

/-! ### A handler on its own -/

namespace ChatWorld

open Interface ChatProg

/-- The operations of a request of a session, with nobody else around. -/
abbrev alone (session : SessionRef) : Interface ChatOp.Res String ChatWorld :=
  .ofExec (exec session)

variable {session : SessionRef} {w : ChatWorld}

/-- An operation that does not depend on the time. -/
theorem wp_op_alone {o : ChatOp} {r : Except String o.Res} {w' : ChatWorld}
    {Q : Except String o.Res → ChatWorld → Prop} (h : ∀ now, exec session o now w = some (r, w')) :
    (alone session).wp (Prog.op o) Q w ↔ Q r w' := by
  refine (wp_op_eq fun r' w'' => ?_).trans (and_iff_right trivial)
  constructor
  · rintro ⟨now, hexec⟩
    rw [h now] at hexec
    cases hexec
    exact ⟨rfl, rfl⟩
  · rintro ⟨rfl, rfl⟩
    exact ⟨"", h ""⟩

@[simp] theorem wp_getUserId {Q : Except String String → ChatWorld → Prop} :
    (alone session).wp getUserId Q w ↔ Q (.ok (w.sessions.object session).userId) w :=
  wp_op_alone fun _ => rfl

@[simp] theorem wp_localtime {Q : Except String String → ChatWorld → Prop} :
    (alone session).wp localtime Q w ↔ ∀ now, Q (.ok now) w := by
  refine wp_op.trans ((and_iff_right trivial).trans ⟨fun h now => h _ _ ⟨now, rfl⟩, ?_⟩)
  rintro h r w' ⟨now, hexec⟩
  cases hexec
  exact h now

@[simp] theorem wp_sendPacket {packet : ChatPacket} {Q : Except String Unit → ChatWorld → Prop} :
    (alone session).wp (sendPacket packet) Q w ↔
      Q (.ok ()) { w with sent := w.sent ++ [.reply session packet] } :=
  wp_op_alone fun _ => rfl

@[simp] theorem wp_sendToUser {userId : String} {packet : ChatPacket}
    {Q : Except String Bool → ChatWorld → Prop} :
    (alone session).wp (sendToUser userId packet) Q w ↔
      Q (.ok (w.sessions.userMap userId).isSome)
        { w with sent := w.sent ++ [.toUser userId (w.sessions.userMap userId) packet] } :=
  wp_op_alone fun _ => rfl

@[simp] theorem wp_getRoom {roomId : ℤ} {Q : Except String (Option ChatRoom) → ChatWorld → Prop} :
    (alone session).wp (getRoom roomId) Q w ↔ Q (.ok (w.chatRooms.getRoom roomId)) w :=
  wp_op_alone fun _ => rfl

@[simp] theorem wp_removeRoom {roomId : ℤ} {Q : Except String Unit → ChatWorld → Prop} :
    (alone session).wp (removeRoom roomId) Q w ↔
      Q (.ok ()) { w with chatRooms := w.chatRooms.removeRoom roomId } :=
  wp_op_alone fun _ => rfl

end ChatWorld

/-! ### Local accounts of a call -/

/-- A local account of a call: what has to hold where an operation is called, and what becomes of
the account when it returns. -/
structure ChatAccount (γ : Type) where
  pre : γ → ChatOp → Prop
  next : γ → (o : ChatOp) → o.Res → γ

namespace ChatAccount

open Interface ChatProg

variable {γ : Type} (A : ChatAccount γ) {g : γ}

/-- The operations, none of which throws. -/
def interface : Interface ChatOp.Res String γ where
  pre := A.pre
  post g o r g' := ∃ a, r = .ok a ∧ g' = A.next g o a

theorem wp_op_account {o : ChatOp} {Q : Except String o.Res → γ → Prop} :
    A.interface.wp (Prog.op o) Q g ↔ A.pre g o ∧ ∀ a, Q (.ok a) (A.next g o a) := by
  refine wp_op.trans (and_congr_right fun _ => ⟨fun h a => h _ _ ⟨a, rfl, rfl⟩, ?_⟩)
  rintro h r g' ⟨a, rfl, rfl⟩
  exact h a

@[simp] theorem wp_getUserId {Q : Except String String → γ → Prop} :
    A.interface.wp getUserId Q g ↔
      A.pre g .getUserId ∧ ∀ a, Q (.ok a) (A.next g .getUserId a) :=
  A.wp_op_account

@[simp] theorem wp_getRole {Q : Except String ℤ → γ → Prop} :
    A.interface.wp getRole Q g ↔ A.pre g .getRole ∧ ∀ a, Q (.ok a) (A.next g .getRole a) :=
  A.wp_op_account

@[simp] theorem wp_localtime {Q : Except String String → γ → Prop} :
    A.interface.wp localtime Q g ↔
      A.pre g .localtime ∧ ∀ a, Q (.ok a) (A.next g .localtime a) :=
  A.wp_op_account

@[simp] theorem wp_sendPacket {packet : ChatPacket} {Q : Except String Unit → γ → Prop} :
    A.interface.wp (sendPacket packet) Q g ↔
      A.pre g (.sendPacket packet) ∧ Q (.ok ()) (A.next g (.sendPacket packet) ()) :=
  A.wp_op_account.trans (and_congr_right fun _ => ⟨fun h => h (), fun h _ => h⟩)

@[simp] theorem wp_broadcastToRole {targetRole : ℤ} {packet : ChatPacket}
    {Q : Except String Unit → γ → Prop} :
    A.interface.wp (broadcastToRole targetRole packet) Q g ↔
      A.pre g (.broadcastToRole targetRole packet) ∧
        Q (.ok ()) (A.next g (.broadcastToRole targetRole packet) ()) :=
  A.wp_op_account.trans (and_congr_right fun _ => ⟨fun h => h (), fun h _ => h⟩)

@[simp] theorem wp_sendToUser {userId : String} {packet : ChatPacket}
    {Q : Except String Bool → γ → Prop} :
    A.interface.wp (sendToUser userId packet) Q g ↔ A.pre g (.sendToUser userId packet) ∧
      ∀ a, Q (.ok a) (A.next g (.sendToUser userId packet) a) :=
  A.wp_op_account

@[simp] theorem wp_createRoom {customerId adminId : String} {orderId : ℕ}
    {Q : Except String ℤ → γ → Prop} :
    A.interface.wp (createRoom customerId adminId orderId) Q g ↔
      A.pre g (.createRoom customerId adminId orderId) ∧
        ∀ a, Q (.ok a) (A.next g (.createRoom customerId adminId orderId) a) :=
  A.wp_op_account

@[simp] theorem wp_getRoom {roomId : ℤ} {Q : Except String (Option ChatRoom) → γ → Prop} :
    A.interface.wp (getRoom roomId) Q g ↔
      A.pre g (.getRoom roomId) ∧ ∀ a, Q (.ok a) (A.next g (.getRoom roomId) a) :=
  A.wp_op_account

@[simp] theorem wp_removeRoom {roomId : ℤ} {Q : Except String Unit → γ → Prop} :
    A.interface.wp (removeRoom roomId) Q g ↔
      A.pre g (.removeRoom roomId) ∧ Q (.ok ()) (A.next g (.removeRoom roomId) ()) :=
  A.wp_op_account.trans (and_congr_right fun _ => ⟨fun h => h (), fun h _ => h⟩)

end ChatAccount

/-! ### Many requests at once -/

/-- What a worker does: a request to one of the handlers, or something else that changes the
sessions. -/
inductive ChatCall
  | connect (body : Except String ReqChatConnectDTO)
  | accept (body : Except String ReqChatAcceptDTO)
  | send (body : Except String ReqChatSendDTO)
  | close (body : Except String ℤ)
  | others (f : SessionManager → SessionManager)

namespace ChatCall

/-- The program of a call. -/
def program : ChatCall → ChatProg Unit
  | connect body => ChatHandler.handleChatRequest body
  | accept body => ChatHandler.handleChatAccept body
  | send body => ChatHandler.handleChatSend body
  | close body => ChatHandler.handleChatClose body
  | others f => Prog.op (ChatOp.others f)

end ChatCall

namespace ChatSystem

variable {τ : Type*}

/-- Calls, each with the session it came from, before the first step. -/
def start (calls : τ → SessionRef × ChatCall) (w : ChatWorld) :
    Threads τ ChatOp.Res String ChatWorld :=
  ⟨fun t => (calls t).2.program, w⟩

/-- A step of a call, at a time that reads as given. -/
abbrev step [DecidableEq τ] (calls : τ → SessionRef × ChatCall) :
    Threads τ ChatOp.Res String ChatWorld → τ × String →
      Option (Threads τ ChatOp.Res String ChatWorld) :=
  Threads.step fun t => ChatWorld.exec (calls t).1

/-- Three sessions that have logged in, and a room that the administrator has opened for `kim`. -/
def sampleWorld : ChatWorld where
  sessions :=
    ((((SessionManager.init.createSession 4).createSession 5).createSession 6).registerUser
      "kim" 0 0 |>.registerUser "admin" 3 1).registerUser "lee" 0 2
  chatRooms := (ChatRoomManager.init.createRoom "kim" "admin" 0).2
  opened := [⟨1, "kim", "admin", 0⟩]
  sent := []

end ChatSystem

end ItsBedalyo
