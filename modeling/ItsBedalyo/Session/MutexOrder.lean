import ItsBedalyo.Database.DbManager
import ItsBedalyo.Lib.LockOrder
import ItsBedalyo.Session.ChatRoomManager
import ItsBedalyo.Session.SessionManager

/-!
# The order of the mutexes

The operations of `SessionManager`, `ClientSession`, `ChatRoomManager` and `DBManager` as code that
acquires and releases their mutexes. The manager's `sessionMutex` is the only one under which
another is acquired: `registerUser` calls `authenticate`, and `sendToUser` and `broadcastToRole`
call `sendPacket`, one session after the other. Hence two ranks.

`setRole`, `getFd`, `getUserId`, `getRole`, `isAuthenticated` and `getReadBuffer` take no mutex,
and neither does `init`, which runs before the workers are there. Memory is not taken to run out:
a `shared_ptr` that cannot be allocated in `getConnection` would call its deleter at once.
-/

namespace ItsBedalyo

open LockOrder

/-- The mutexes; each session has two. -/
inductive Mutex
  /-- `SessionManager::sessionMutex` -/
  | managerMutex
  /-- `ClientSession::sessionMutex` -/
  | sessionMutex (session : SessionRef)
  | writeMutex (session : SessionRef)
  | roomMutex
  | poolMutex
  deriving DecidableEq

namespace Mutex

/-- The manager's mutex comes first. -/
def rank : Mutex → ℕ
  | managerMutex => 0
  | sessionMutex _ | writeMutex _ | roomMutex | poolMutex => 1

end Mutex

/-- What the mutexes guard. -/
structure SharedState where
  sessions : SessionManager
  chatRooms : ChatRoomManager
  connectionPool : List DBManager.Slot

namespace SharedState

/-- A step on the sessions. -/
def onSessions (f : SessionManager → SessionManager) (w : SharedState) : SharedState :=
  { w with sessions := f w.sessions }

/-- A step on one session object. -/
def onSession (session : SessionRef) (f : ClientSession → ClientSession) :
    SharedState → SharedState :=
  onSessions fun m => { m with object := Function.update m.object session (f (m.object session)) }

/-- A step on the chat rooms. -/
def onRooms (f : ChatRoomManager → ChatRoomManager) (w : SharedState) : SharedState :=
  { w with chatRooms := f w.chatRooms }

/-- A step on the pool. -/
def onPool (f : List DBManager.Slot → List DBManager.Slot) (w : SharedState) : SharedState :=
  { w with connectionPool := f w.connectionPool }

end SharedState

/-- The operations. An `unordered_map` is gone through in some order of its keys, `order`. -/
inductive LockingOp
  -- `SessionManager`
  | createSession (fd : Fd)
  | getSession (fd : Fd)
  | getSessionByUserId (userId : String)
  | removeSession (fd : Fd)
  | registerUser (userId : String) (role : ℤ) (session : SessionRef)
  | sendToUser (userId : String)
  | broadcastToRole (targetRole : ℤ) (order : List String)
  | removeUser (userId : String)
  | getAvailableAdminSession
  -- `ClientSession`
  | appendToReadBuffer (session : SessionRef) (data : List Byte)
  | removeReadData (session : SessionRef) (len : ℕ)
  | authenticate (session : SessionRef) (id : String) (userRole : ℤ)
  | sendPacket (session : SessionRef)
  | clearAuth (session : SessionRef)
  -- `ChatRoomManager`
  | createRoom (customerId adminId : String) (orderId : ℕ)
  | getRoom (roomId : ℤ)
  | getAllRooms
  | removeRoom (roomId : ℤ)
  -- `DBManager`
  | getConnection
  /-- the deleter of a connection lent -/
  | giveBack (conn : DBManager.Slot)
  /-- `~DBManager` -/
  | shutdown

namespace LockingOp

/-- Code over the mutexes. -/
abbrev LockCode := Code Mutex SharedState

/-- `authenticate`, and then `k`. -/
def authenticateThen (session : SessionRef) (id : String) (userRole : ℤ) (k : LockCode) :
    LockCode :=
  .guarded (.sessionMutex session) (SharedState.onSession session (·.authenticate id userRole)) k

/-- `sendPacket`, and then `k`: the packet is built before the mutex is taken, and the write loop
takes no other. -/
def sendPacketThen (session : SessionRef) (k : LockCode) : LockCode :=
  .guarded (.writeMutex session) id k

/-- The loop of `broadcastToRole`, and then `k`. -/
def broadcastLoop (targetRole : ℤ) : List String → LockCode → LockCode
  | [], k => k
  | userId :: order, k => .act id fun w =>
    match w.sessions.userMap userId with
    | some session =>
      if (w.sessions.object session).role = targetRole then
        sendPacketThen session (broadcastLoop targetRole order k)
      else broadcastLoop targetRole order k
    | none => broadcastLoop targetRole order k

/-- What an operation does. -/
def code : LockingOp → LockCode
  | createSession fd => .guarded .managerMutex (SharedState.onSessions (·.createSession fd)) .done
  -- the look-ups read only
  | getSession _ | getSessionByUserId _ | getAvailableAdminSession =>
    .guarded .managerMutex id .done
  | removeSession fd => .guarded .managerMutex (SharedState.onSessions (·.removeSession fd)) .done
  | registerUser userId role session =>
    .lock .managerMutex <| authenticateThen session userId role <|
      .act (SharedState.onSessions fun m =>
        { m with userMap := Function.update m.userMap userId (some session) }) fun _ =>
      .unlock .managerMutex .done
  | sendToUser userId =>
    .lock .managerMutex <| .act id fun w =>
      match w.sessions.userMap userId with
      | some session => sendPacketThen session (.unlock .managerMutex .done)
      | none => .unlock .managerMutex .done
  | broadcastToRole targetRole order =>
    .lock .managerMutex (broadcastLoop targetRole order (.unlock .managerMutex .done))
  | removeUser userId => .guarded .managerMutex (SharedState.onSessions (·.removeUser userId)) .done
  | appendToReadBuffer session data =>
    .guarded (.sessionMutex session)
      (SharedState.onSession session (·.appendToReadBuffer data)) .done
  | removeReadData session len =>
    .guarded (.sessionMutex session) (SharedState.onSession session (·.removeReadData len)) .done
  | authenticate session id userRole => authenticateThen session id userRole .done
  | sendPacket session => sendPacketThen session .done
  | clearAuth session =>
    .guarded (.sessionMutex session) (SharedState.onSession session (·.clearAuth)) .done
  | createRoom customerId adminId orderId =>
    .guarded .roomMutex (SharedState.onRooms (·.createRoom customerId adminId orderId |>.2)) .done
  | getRoom _ | getAllRooms => .guarded .roomMutex id .done
  | removeRoom roomId => .guarded .roomMutex (SharedState.onRooms (·.removeRoom roomId)) .done
  | getConnection =>
    .lock .poolMutex <| .await .poolMutex (fun w => decide (w.connectionPool ≠ [])) <|
      -- `isValid` and `connect` are called before the mutex is released
      .act (SharedState.onPool List.tail) fun _ =>
      .unlock .poolMutex .done
  | giveBack conn => .guarded .poolMutex (SharedState.onPool (· ++ [conn])) .done
  | shutdown => .guarded .poolMutex (SharedState.onPool fun _ => []) .done

/-! ### The order is kept -/

theorem lt_of_empty (m : Mutex) : ∀ h ∈ (∅ : Set Mutex), h.rank < m.rank := fun _ => nofun

/-- Under the manager's mutex, every other one may be acquired. -/
theorem lt_of_managerMutex {m : Mutex} (hm : m ≠ .managerMutex) :
    ∀ h ∈ (insert .managerMutex ∅ : Set Mutex), h.rank < m.rank := by
  rintro h (rfl | hmem)
  · cases m with
    | managerMutex => exact absurd rfl hm
    | _ => exact Nat.one_pos
  · cases hmem

theorem ordered_broadcastLoop {targetRole : ℤ} {k : LockCode}
    (hk : Ordered Mutex.rank (insert .managerMutex ∅) k) (order : List String) :
    Ordered Mutex.rank (insert .managerMutex ∅) (broadcastLoop targetRole order k) := by
  induction order with
  | nil => exact hk
  | cons userId order ih =>
    intro w
    beta_reduce
    split
    · next session _ =>
      split_ifs
      · exact .guarded (lt_of_managerMutex nofun) ih
      · exact ih
    · exact ih

/-- **Every operation keeps to the order.** -/
theorem ordered_code (op : LockingOp) : Ordered Mutex.rank ∅ op.code := by
  have hdone : Ordered Mutex.rank ∅ (.done : LockCode) := rfl
  have hend : ∀ m, Ordered Mutex.rank (insert m ∅) (.unlock m .done : LockCode) := fun m =>
    .release (lt_of_empty m) hdone
  cases op with
  | registerUser userId role session =>
    refine ⟨lt_of_empty _, .guarded (lt_of_managerMutex nofun) fun _ => hend _⟩
  | sendToUser userId =>
    refine ⟨lt_of_empty _, fun w => ?_⟩
    beta_reduce
    split
    · exact .guarded (lt_of_managerMutex nofun) (hend _)
    · exact hend _
  | broadcastToRole targetRole order =>
    exact ⟨lt_of_empty _, ordered_broadcastLoop (hend _) order⟩
  | getConnection =>
    refine ⟨lt_of_empty _, Set.mem_insert .., ?_, fun _ => hend _⟩
    rintro h ⟨hmem, hne⟩
    exact absurd (hmem.resolve_right nofun) hne
  | _ => exact .guarded (lt_of_empty _) hdone

/-- **No mutex cycle.** Whatever operations any number of threads run, and however their steps
interleave, no thread ever waits, directly or through others, for itself. -/
theorem no_mutex_cycle {τ : Type*} [DecidableEq τ] (w : SharedState)
    (l : List (τ × Option LockingOp)) :
    Transition.Always (LockOrder.step code) State.Acyclic (LockOrder.init w) l :=
  always_acyclic ordered_code w l

/-- Threads do wait: a `registerUser` for an `authenticate` of the same session. -/
example (w : SharedState) : ∃ s, Transition.run (LockOrder.step code) (LockOrder.init w)
    [(1, some (authenticate 0 "a" 0)), (1, none), (0, some (registerUser "a" 0 0)), (0, none)] =
      some s ∧ s.WaitsFor 0 1 :=
  ⟨_, rfl, .sessionMutex 0, rfl, rfl⟩

end LockingOp

end ItsBedalyo
