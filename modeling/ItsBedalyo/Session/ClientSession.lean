import ItsBedalyo.Protocol

/-!
# A client session: `ClientSession`

The session object keeps the descriptor it writes to, the bytes received and not yet framed,
and the identity the client logged in with. `sendBuffer` is the packet `sendPacket` builds
before it starts writing; the write loop itself is in `Session/SendPacket.lean`.
-/

namespace ItsBedalyo

/-- File descriptors. -/
abbrev Fd := ℕ

/-- `ClientSession`, without its mutexes. -/
structure ClientSession where
  clientFd : Fd
  readBuffer : List Byte
  isAuth : Bool
  userId : String
  role : ℤ
  deriving DecidableEq

namespace ClientSession

/-- `ClientSession(int fd)`. -/
def new (fd : Fd) : ClientSession :=
  { clientFd := fd, readBuffer := [], isAuth := false, userId := "", role := 0 }

/-- `appendToReadBuffer`. -/
def appendToReadBuffer (session : ClientSession) (data : List Byte) : ClientSession :=
  { session with readBuffer := session.readBuffer ++ data }

/-- `removeReadData`: a length beyond the end removes nothing. -/
def removeReadData (session : ClientSession) (len : ℕ) : ClientSession :=
  if len ≤ session.readBuffer.length then
    { session with readBuffer := session.readBuffer.drop len }
  else session

/-- `authenticate`. -/
def authenticate (session : ClientSession) (id : String) (userRole : ℤ) : ClientSession :=
  { session with userId := id, role := userRole, isAuth := true }

/-- `clearAuth`. -/
def clearAuth (session : ClientSession) : ClientSession :=
  { session with isAuth := false, userId := "", role := 0 }

@[simp] theorem authenticate_clientFd (s : ClientSession) (id : String) (r : ℤ) :
    (s.authenticate id r).clientFd = s.clientFd := rfl

@[simp] theorem authenticate_userId (s : ClientSession) (id : String) (r : ℤ) :
    (s.authenticate id r).userId = id := rfl

@[simp] theorem authenticate_isAuth (s : ClientSession) (id : String) (r : ℤ) :
    (s.authenticate id r).isAuth = true := rfl

@[simp] theorem clearAuth_clientFd (s : ClientSession) : s.clearAuth.clientFd = s.clientFd := rfl

@[simp] theorem clearAuth_userId (s : ClientSession) : s.clearAuth.userId = "" := rfl

@[simp] theorem clearAuth_isAuth (s : ClientSession) : s.clearAuth.isAuth = false := rfl

@[simp] theorem new_clientFd (fd : Fd) : (new fd).clientFd = fd := rfl

@[simp] theorem new_userId (fd : Fd) : (new fd).userId = "" := rfl

@[simp] theorem new_isAuth (fd : Fd) : (new fd).isAuth = false := rfl

/-- The header `sendPacket` puts in front of a body: the signature, the command and the size
of the body as a `uint32_t`. -/
def header (cmdId : CmdID) (jsonBody : List Byte) : PacketHeader :=
  ⟨PacketHeader.eatsConnect, cmdId, BitVec.ofNat 32 jsonBody.length⟩

/-- The bytes `sendPacket` builds and then writes: `sendBuffer`. -/
def sendBuffer (cmdId : CmdID) (jsonBody : List Byte) : List Byte :=
  (header cmdId jsonBody).toNetwork.toBytes ++ jsonBody

@[simp] theorem length_sendBuffer (cmdId : CmdID) (jsonBody : List Byte) :
    (sendBuffer cmdId jsonBody).length = PacketHeader.size + jsonBody.length := by
  simp [sendBuffer]

end ClientSession

end ItsBedalyo
