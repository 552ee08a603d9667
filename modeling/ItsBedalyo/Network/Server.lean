import ItsBedalyo.Lib.Transition
import ItsBedalyo.Session.SessionManager

/-!
# The running server

The network thread (`ItsServer::run`), the task queue and the workers of `ThreadPool`, the
registry, and the kernel's descriptor table, as one step function. The network thread accepts
connections, creates their sessions and welcomes them, reads requests and queues them with the
session's pointer, and disconnects: `removeSession`, then `close`. A worker takes a task and
runs its handler, one operation at a time; each `write` of a `sendPacket` is a step of its own.
`sendToUser` and `broadcastToRole` hold `sessionMutex` while they send.

A descriptor number names whatever connection the kernel has filed under it when `write` is
called. `connOf` is history: the connection for which `createSession` built a session object.
`log` records what was written through which object and where it went.
-/

namespace ItsBedalyo

namespace Server

open SessionManager

/-- TCP connections, numbered in the order in which they are accepted. -/
abbrev Conn := ℕ

/-- How a handler sends: to its own client, to one user, to all users of a role. -/
inductive Send
  | reply
  | push (userId : String)
  | broadcast (role : ℤ)
  deriving DecidableEq

/-- The operations of a handler that touch sessions. -/
inductive Op
  | authenticate (userId : String) (role : ℤ)
  | registerUser (userId : String) (role : ℤ)
  | readUserId
  | removeUser (userId : String)
  | clearAuth
  | send (send : Send)
  deriving DecidableEq

/-- A request, with what the handler learns about it from elsewhere: the identity that
`validateLogin` found, the admin id in the body, the packets any other handler sends. -/
inductive Request
  | login (result : Option (String × ℤ))
  | adminInit (adminId : String) (role : ℤ)
  | logout
  | other (sends : List Send)
  deriving DecidableEq

/-- The handlers `Dispatcher::dispatch` can hand a request to, as operations on sessions. -/
def handler : Request → List Op
  | .login (some (userId, role)) =>
    [.authenticate userId role, .registerUser userId role, .send .reply]
  | .login none => [.send .reply]
  | .adminInit adminId role =>
    [.authenticate adminId role, .registerUser adminId role, .send .reply]
  | .logout => [.readUserId, .send .reply]
  | .other sends => sends.map .send

/-- A worker thread, with what is left of the handler it runs. -/
inductive Worker
  | idle
  | running (session : SessionRef) (todo : List Op)
  deriving DecidableEq

/-- Where the network thread is. -/
inductive NetThread
  | idle
  | accepted (fd : Fd)
  | welcoming (session : SessionRef)
  | closing (fd : Fd)
  deriving DecidableEq

/-- Bytes written through a session object, and the connection they went to. -/
structure Delivery where
  session : SessionRef
  conn : Conn
  data : List Byte
  deriving DecidableEq

/-- The server and the kernel. -/
structure State (τ : Type*) where
  manager : SessionManager
  sessionMutex : Option τ
  fdTable : Fd → Option Conn
  conns : ℕ
  net : NetThread
  tasks : List (SessionRef × Request)
  workers : τ → Worker
  connOf : SessionRef → Conn
  log : List Delivery

/-- A step of the network thread or of worker `t`. -/
inductive Label (τ : Type*)
  | accept (fd : Fd)
  | createSession
  | welcome (data : List Byte)
  | welcomed
  | receive (fd : Fd) (request : Request)
  | removeSession (fd : Fd)
  | close
  | start (t : τ)
  | advance (t : τ)
  | lock (t : τ)
  | reply (t : τ) (data : List Byte)
  | push (t : τ) (userId : String) (data : List Byte)
  | done (t : τ)
  | finish (t : τ)
  deriving DecidableEq

namespace State

variable {τ : Type*}

/-- A server without clients. -/
def init : State τ :=
  { manager := .init, sessionMutex := none, fdTable := fun _ => none, conns := 0, net := .idle,
    tasks := [], workers := fun _ => .idle, connOf := fun _ => 0, log := [] }

/-- `accept` answers `fd` for the next connection. -/
def accept (s : State τ) (fd : Fd) : State τ :=
  { s with
    fdTable := Function.update s.fdTable fd (some s.conns)
    conns := s.conns + 1
    net := .accepted fd }

/-- `createSession(fd)` and `getSession(fd)` for the connection just accepted. -/
def createSession (s : State τ) (fd : Fd) : State τ :=
  { s with
    manager := s.manager.createSession fd
    net := .welcoming s.manager.created
    connOf := Function.update s.connOf s.manager.created ((s.fdTable fd).getD 0) }

/-- `write(clientFd, …)` through a session object: the bytes go to the connection the kernel
has under that descriptor now, and nowhere if there is none. -/
def deliver (s : State τ) (session : SessionRef) (data : List Byte) : State τ :=
  match s.fdTable (s.manager.object session).clientFd with
  | some conn => { s with log := s.log ++ [⟨session, conn, data⟩] }
  | none => s

/-- Worker `t` moves on. -/
def setWorker [DecidableEq τ] (s : State τ) (t : τ) (worker : Worker) : State τ :=
  { s with workers := Function.update s.workers t worker }

end State

/-- The operations that take `sessionMutex` for their duration. -/
def Op.locks : Op → Bool
  | .registerUser _ _ | .removeUser _ => true
  | _ => false

/-- An operation of a handler for `session` other than sending: the registry afterwards and the
operations it puts in front of the rest. -/
def exec (m : SessionManager) (session : SessionRef) : Op → Option (SessionManager × List Op)
  | .authenticate userId role => some (m.authenticate session userId role, [])
  | .registerUser userId role => some (m.registerUser userId role session, [])
  | .readUserId =>
    let userId := (m.object session).userId
    some (m, if userId = "" then [] else [.removeUser userId, .clearAuth])
  | .removeUser userId => some (m.removeUser userId, [])
  | .clearAuth => some (m.clearAuth session, [])
  | .send _ => none

/-- The session a push to `userId` writes to. -/
def target (m : SessionManager) : Send → String → Option SessionRef
  | .reply, _ => none
  | .push u, userId => if userId = u then m.userMap u else none
  | .broadcast role, userId => (m.userMap userId).filter fun s => (m.object s).role = role

variable {τ : Type*} [DecidableEq τ]

/-- The step function. -/
def step (s : State τ) : Label τ → Option (State τ)
  | .accept fd =>
    if s.net = .idle ∧ s.fdTable fd = none then some (s.accept fd) else none
  | .createSession =>
    match s.net with
    | .accepted fd => if s.sessionMutex = none then some (s.createSession fd) else none
    | _ => none
  | .welcome data =>
    match s.net with
    | .welcoming session => some (s.deliver session data)
    | _ => none
  | .welcomed =>
    match s.net with
    | .welcoming _ => some { s with net := .idle }
    | _ => none
  | .receive fd request =>
    match s.manager.getSession fd with
    | some session =>
      if s.net = .idle ∧ (s.fdTable fd).isSome ∧ s.sessionMutex = none then
        some { s with tasks := s.tasks ++ [(session, request)] }
      else none
    | none => none
  | .removeSession fd =>
    if s.net = .idle ∧ (s.fdTable fd).isSome ∧ s.sessionMutex = none then
      some { s with manager := s.manager.removeSession fd, net := .closing fd }
    else none
  | .close =>
    match s.net with
    | .closing fd => some { s with fdTable := Function.update s.fdTable fd none, net := .idle }
    | _ => none
  | .start t =>
    match s.workers t, s.tasks with
    | .idle, (session, request) :: tasks =>
      some { s.setWorker t (.running session (handler request)) with tasks }
    | _, _ => none
  | .advance t =>
    match s.workers t with
    | .running session (op :: todo) =>
      if op.locks ∧ s.sessionMutex ≠ none then none
      else (exec s.manager session op).map fun (manager, ops) =>
        { s.setWorker t (.running session (ops ++ todo)) with manager }
    | _ => none
  | .lock t =>
    match s.workers t with
    | .running _ (.send send :: _) =>
      if send ≠ .reply ∧ s.sessionMutex = none then some { s with sessionMutex := some t }
      else none
    | _ => none
  | .reply t data =>
    match s.workers t with
    | .running session (.send .reply :: _) => some (s.deliver session data)
    | _ => none
  | .push t userId data =>
    match s.workers t with
    | .running _ (.send send :: _) =>
      if s.sessionMutex = some t then
        (target s.manager send userId).map fun session => s.deliver session data
      else none
    | _ => none
  | .done t =>
    match s.workers t with
    | .running session (.send send :: todo) =>
      if send = .reply then some (s.setWorker t (.running session todo))
      else if s.sessionMutex = some t then
        some { s.setWorker t (.running session todo) with sessionMutex := none }
      else none
    | _ => none
  | .finish t =>
    match s.workers t with
    | .running _ [] => some (s.setWorker t .idle)
    | _ => none

/-- What each step needs and does. -/
inductive Effect (s : State τ) : Label τ → State τ → Prop
  | accept {fd : Fd} : s.net = .idle → s.fdTable fd = none → Effect s (.accept fd) (s.accept fd)
  | createSession {fd : Fd} : s.net = .accepted fd → s.sessionMutex = none →
      Effect s .createSession (s.createSession fd)
  | welcome {session : SessionRef} {data : List Byte} : s.net = .welcoming session →
      Effect s (.welcome data) (s.deliver session data)
  | welcomed {session : SessionRef} : s.net = .welcoming session →
      Effect s .welcomed { s with net := .idle }
  | receive {fd : Fd} {request : Request} {session : SessionRef} : s.net = .idle →
      s.manager.sessionMap fd = some session →
      Effect s (.receive fd request) { s with tasks := s.tasks ++ [(session, request)] }
  | removeSession {fd : Fd} : s.net = .idle → s.sessionMutex = none →
      Effect s (.removeSession fd)
        { s with manager := s.manager.removeSession fd, net := .closing fd }
  | close {fd : Fd} : s.net = .closing fd →
      Effect s .close { s with fdTable := Function.update s.fdTable fd none, net := .idle }
  | start {t : τ} {session : SessionRef} {request : Request}
      {tasks : List (SessionRef × Request)} : s.workers t = .idle →
      s.tasks = (session, request) :: tasks →
      Effect s (.start t) { s.setWorker t (.running session (handler request)) with tasks }
  | advance {t : τ} {session : SessionRef} {op : Op} {todo ops : List Op}
      {manager : SessionManager} : s.workers t = .running session (op :: todo) →
      (op.locks → s.sessionMutex = none) → exec s.manager session op = some (manager, ops) →
      Effect s (.advance t) { s.setWorker t (.running session (ops ++ todo)) with manager }
  | lock {t : τ} {session : SessionRef} {send : Send} {todo : List Op} :
      s.workers t = .running session (.send send :: todo) → s.sessionMutex = none →
      Effect s (.lock t) { s with sessionMutex := some t }
  | reply {t : τ} {session : SessionRef} {todo : List Op} {data : List Byte} :
      s.workers t = .running session (.send .reply :: todo) →
      Effect s (.reply t data) (s.deliver session data)
  | push {t : τ} {userId : String} {session : SessionRef} {data : List Byte} :
      s.sessionMutex = some t → s.manager.userMap userId = some session →
      Effect s (.push t userId data) (s.deliver session data)
  | done {t : τ} {session : SessionRef} {send : Send} {todo : List Op} {mutex : Option τ} :
      s.workers t = .running session (.send send :: todo) →
      Effect s (.done t) { s.setWorker t (.running session todo) with sessionMutex := mutex }
  | finish {t : τ} {session : SessionRef} : s.workers t = .running session [] →
      Effect s (.finish t) (s.setWorker t .idle)

theorem target_eq_some {m : SessionManager} {send : Send} {userId : String}
    {session : SessionRef} (h : target m send userId = some session) :
    m.userMap userId = some session := by
  cases send with
  | reply => cases h
  | push u =>
    simp only [target, Option.ite_none_right_eq_some] at h
    exact h.1 ▸ h.2
  | broadcast role => exact (Option.filter_eq_some_iff.mp h).1

/-- **Inversion.** Every step has one of the effects. -/
theorem effect_of_step {s s' : State τ} {a : Label τ} (h : step s a = some s') :
    Effect s a s' := by
  cases a with
  | accept fd =>
    simp only [step, Option.ite_none_right_eq_some, Option.some.injEq] at h
    obtain ⟨⟨hnet, hfd⟩, rfl⟩ := h
    exact .accept hnet hfd
  | createSession =>
    simp only [step] at h
    split at h
    · next fd hnet =>
      simp only [Option.ite_none_right_eq_some, Option.some.injEq] at h
      obtain ⟨hmutex, rfl⟩ := h
      exact .createSession hnet hmutex
    · cases h
  | welcome data =>
    simp only [step] at h
    split at h
    · next session hnet =>
      obtain rfl := Option.some.inj h
      exact .welcome hnet
    · cases h
  | welcomed =>
    simp only [step] at h
    split at h
    · next session hnet =>
      obtain rfl := Option.some.inj h
      exact .welcomed hnet
    · cases h
  | receive fd request =>
    simp only [step] at h
    split at h
    · next session hsession =>
      simp only [Option.ite_none_right_eq_some, Option.some.injEq] at h
      obtain ⟨⟨hnet, -, -⟩, rfl⟩ := h
      exact .receive hnet hsession
    · cases h
  | removeSession fd =>
    simp only [step, Option.ite_none_right_eq_some, Option.some.injEq] at h
    obtain ⟨⟨hnet, -, hmutex⟩, rfl⟩ := h
    exact .removeSession hnet hmutex
  | close =>
    simp only [step] at h
    split at h
    · next fd hnet =>
      obtain rfl := Option.some.inj h
      exact .close hnet
    · cases h
  | start t =>
    simp only [step] at h
    split at h
    · next session request tasks hidle htasks =>
      obtain rfl := Option.some.inj h
      exact .start hidle htasks
    · cases h
  | advance t =>
    simp only [step] at h
    split at h
    · next session op todo hrun =>
      simp only [Option.ite_none_left_eq_some, Option.map_eq_some_iff] at h
      obtain ⟨hmutex, ⟨manager, ops⟩, hexec, rfl⟩ := h
      exact .advance hrun (fun hlocks => by simpa [hlocks] using hmutex) hexec
    · cases h
  | lock t =>
    simp only [step] at h
    split at h
    · next session send todo hrun =>
      simp only [Option.ite_none_right_eq_some, Option.some.injEq] at h
      obtain ⟨⟨-, hmutex⟩, rfl⟩ := h
      exact .lock hrun hmutex
    · cases h
  | reply t data =>
    simp only [step] at h
    split at h
    · next session todo hrun =>
      obtain rfl := Option.some.inj h
      exact .reply hrun
    · cases h
  | push t userId data =>
    simp only [step] at h
    split at h
    · next session send todo hrun =>
      simp only [Option.ite_none_right_eq_some, Option.map_eq_some_iff] at h
      obtain ⟨hmutex, target, htarget, rfl⟩ := h
      exact .push hmutex (target_eq_some htarget)
    · cases h
  | done t =>
    simp only [step] at h
    split at h
    · next session send todo hrun =>
      split_ifs at h
      · obtain rfl := Option.some.inj h
        exact .done hrun
      · obtain rfl := Option.some.inj h
        exact .done hrun
    · cases h
  | finish t =>
    simp only [step] at h
    split at h
    · next session hrun =>
      obtain rfl := Option.some.inj h
      exact .finish hrun
    · cases h

/-! ### The invariant of the server -/

/-- The operations of a handler leave `sessionMap` and all descriptors alone. -/
theorem exec_frame {m m' : SessionManager} {session : SessionRef} {op : Op} {ops : List Op}
    (h : exec m session op = some (m', ops)) :
    m'.created = m.created ∧ m'.sessionMap = m.sessionMap ∧
      ∀ x, (m'.object x).clientFd = (m.object x).clientFd := by
  cases op <;> simp only [exec, Option.some.injEq, Prod.mk.injEq, reduceCtorEq] at h
  all_goals
    obtain ⟨rfl, -⟩ := h
    exact ⟨rfl, rfl, fun x => by simp⟩

theorem exec_wellFormed {m m' : SessionManager} {session : SessionRef} {op : Op} {ops : List Op}
    (h : exec m session op = some (m', ops)) (hm : m.WellFormed) (hs : session < m.created) :
    m'.WellFormed := by
  cases op with
  | authenticate userId role =>
    obtain ⟨rfl, -⟩ := Prod.mk.inj (Option.some.inj h)
    exact hm.authenticate session userId role
  | registerUser userId role =>
    obtain ⟨rfl, -⟩ := Prod.mk.inj (Option.some.inj h)
    exact hm.registerUser hs userId role
  | readUserId =>
    obtain ⟨rfl, -⟩ := Prod.mk.inj (Option.some.inj h)
    exact hm
  | removeUser userId =>
    obtain ⟨rfl, -⟩ := Prod.mk.inj (Option.some.inj h)
    exact hm.removeUser userId
  | clearAuth =>
    obtain ⟨rfl, -⟩ := Prod.mk.inj (Option.some.inj h)
    exact hm.clearAuth session
  | send send => cases h

/-- What holds in every state: the maps are well formed, a session in `sessionMap` was built for
the connection that has its descriptor, and tasks and handlers refer to sessions that exist. -/
structure Inv (s : State τ) : Prop where
  wellFormed : s.manager.WellFormed
  connected : ∀ fd x, s.manager.sessionMap fd = some x → s.fdTable fd = some (s.connOf x)
  accepted : ∀ fd, s.net = .accepted fd →
    s.manager.sessionMap fd = none ∧ (s.fdTable fd).isSome
  closing : ∀ fd, s.net = .closing fd → s.manager.sessionMap fd = none
  welcoming : ∀ x, s.net = .welcoming x → s.manager.Live x
  tasks_lt : ∀ x request, (x, request) ∈ s.tasks → x < s.manager.created
  workers_lt : ∀ t x todo, s.workers t = .running x todo → x < s.manager.created

omit [DecidableEq τ] in
theorem Inv.init : Inv (.init : State τ) := by
  constructor <;> simp [State.init, SessionManager.init]
  exact .init

section Deliver

omit [DecidableEq τ]

variable (s : State τ) (session : SessionRef) (data : List Byte)

@[simp] theorem deliver_manager : (s.deliver session data).manager = s.manager := by
  unfold State.deliver
  split <;> rfl

@[simp] theorem deliver_fdTable : (s.deliver session data).fdTable = s.fdTable := by
  unfold State.deliver
  split <;> rfl

@[simp] theorem deliver_net : (s.deliver session data).net = s.net := by
  unfold State.deliver
  split <;> rfl

@[simp] theorem deliver_tasks : (s.deliver session data).tasks = s.tasks := by
  unfold State.deliver
  split <;> rfl

@[simp] theorem deliver_workers : (s.deliver session data).workers = s.workers := by
  unfold State.deliver
  split <;> rfl

@[simp] theorem deliver_connOf : (s.deliver session data).connOf = s.connOf := by
  unfold State.deliver
  split <;> rfl

end Deliver

section Step

variable {s : State τ}

omit [DecidableEq τ] in
theorem Inv.deliver (h : Inv s) (session : SessionRef) (data : List Byte) :
    Inv (s.deliver session data) := by
  constructor <;> simp only [deliver_manager, deliver_fdTable, deliver_net, deliver_tasks,
    deliver_workers, deliver_connOf]
  exacts [h.wellFormed, h.connected, h.accepted, h.closing, h.welcoming, h.tasks_lt,
    h.workers_lt]

/-- A worker moves on within the handler it runs, or to a task for an existing session. -/
theorem setWorker_lt (h : Inv s) {t : τ} {session : SessionRef} (hlt : session < s.manager.created)
    (todo : List Op) (u : τ) (x : SessionRef) (ops : List Op)
    (hu : (s.setWorker t (.running session todo)).workers u = .running x ops) :
    x < s.manager.created := by
  simp only [State.setWorker, Function.update_apply] at hu
  split_ifs at hu
  · cases hu
    exact hlt
  · exact h.workers_lt u x ops hu

theorem Inv.step (h : Inv s) {a : Label τ} {s' : State τ} (hs : Server.step s a = some s') :
    Inv s' := by
  cases effect_of_step hs with
  | @accept fd hnet hfd =>
    -- a descriptor that is free has no session in the map
    have hnone : s.manager.sessionMap fd = none := by
      cases hx : s.manager.sessionMap fd with
      | none => rfl
      | some x => cases hfd.symm.trans (h.connected fd x hx)
    refine ⟨h.wellFormed, fun fd' x hx => ?_, fun fd' hfd' => ?_, ?_, ?_, h.tasks_lt,
      h.workers_lt⟩
    · have hne : fd' ≠ fd := by
        rintro rfl
        cases hnone.symm.trans hx
      simpa [State.accept, Function.update_of_ne hne] using h.connected fd' x hx
    · obtain rfl : fd = fd' := by simpa [State.accept] using hfd'
      exact ⟨hnone, by simp [State.accept]⟩
    · simp [State.accept]
    · simp [State.accept]
  | @createSession fd hnet _ =>
    obtain ⟨hnone, hopen⟩ := h.accepted fd hnet
    refine ⟨h.wellFormed.createSession fd, fun fd' x hx => ?_, ?_, ?_, fun x hx => ?_,
      fun x request hx => ?_, fun t x todo ht => ?_⟩
    · simp only [State.createSession, createSession_sessionMap, Function.update_apply] at hx ⊢
      split_ifs at hx with hfd
      · -- the new session is built for the connection that was accepted last
        obtain rfl := Option.some.inj hx
        obtain ⟨conn, hconn⟩ := Option.isSome_iff_exists.mp hopen
        simp [hfd, hconn]
      · have hlt := h.wellFormed.sessionMap_lt fd' x hx
        simpa [Nat.ne_of_lt hlt] using h.connected fd' x hx
    · simp [State.createSession]
    · simp [State.createSession]
    · obtain rfl : s.manager.created = x := by simpa [State.createSession] using hx
      have hmap : (s.manager.createSession fd).sessionMap fd = some s.manager.created := by simp
      exact (h.wellFormed.createSession fd).live hmap
    · exact Nat.lt_succ_of_lt (h.tasks_lt x request hx)
    · exact Nat.lt_succ_of_lt (h.workers_lt t x todo ht)
  | @welcome session data _ => exact h.deliver session data
  | welcomed _ =>
    exact ⟨h.wellFormed, h.connected, by simp, by simp, by simp, h.tasks_lt, h.workers_lt⟩
  | @receive fd request session _ hsession =>
    refine ⟨h.wellFormed, h.connected, h.accepted, h.closing, h.welcoming, fun x r hx => ?_,
      h.workers_lt⟩
    rcases List.mem_append.mp hx with hx | hx
    · exact h.tasks_lt x r hx
    · obtain ⟨rfl, rfl⟩ := Prod.mk.inj (List.mem_singleton.mp hx)
      exact h.wellFormed.sessionMap_lt fd x hsession
  | @removeSession fd _ _ =>
    refine ⟨h.wellFormed.removeSession fd, fun fd' x hx => ?_, by simp, fun fd' hfd' => ?_, by simp,
      by simpa using h.tasks_lt, by simpa using h.workers_lt⟩
    · rw [removeSession_sessionMap, Function.update_apply] at hx
      split_ifs at hx
      exact h.connected fd' x hx
    · obtain rfl : fd = fd' := by simpa using hfd'
      simp
  | @close fd hnet =>
    have hnone := h.closing fd hnet
    refine ⟨h.wellFormed, fun fd' x hx => ?_, by simp, by simp, by simp, h.tasks_lt, h.workers_lt⟩
    have hne : fd' ≠ fd := by
      rintro rfl
      cases hnone.symm.trans hx
    simpa [Function.update_of_ne hne] using h.connected fd' x hx
  | @start t session request tasks _ htasks =>
    have hlt : session < s.manager.created :=
      h.tasks_lt session request (by rw [htasks]; exact List.mem_cons_self)
    refine ⟨h.wellFormed, h.connected, h.accepted, h.closing, h.welcoming, fun x r hx => ?_,
      setWorker_lt h hlt _⟩
    exact h.tasks_lt x r (by rw [htasks]; exact List.mem_cons_of_mem _ hx)
  | @advance t session op todo ops manager hrun _ hexec =>
    have hlt := h.workers_lt t session _ hrun
    obtain ⟨hcreated, hmap, hfd⟩ := exec_frame hexec
    refine ⟨exec_wellFormed hexec h.wellFormed hlt, by rw [hmap]; exact h.connected,
      by rw [hmap]; exact h.accepted, by rw [hmap]; exact h.closing, fun x hx => ?_,
      by rw [hcreated]; exact h.tasks_lt, by rw [hcreated]; exact setWorker_lt h hlt _⟩
    rw [Live, hmap, hfd]
    exact h.welcoming x hx
  | lock _ _ =>
    exact ⟨h.wellFormed, h.connected, h.accepted, h.closing, h.welcoming, h.tasks_lt,
      h.workers_lt⟩
  | @reply t session todo data _ => exact h.deliver session data
  | @push t userId session data _ _ => exact h.deliver session data
  | @done t session send todo mutex hrun =>
    exact ⟨h.wellFormed, h.connected, h.accepted, h.closing, h.welcoming, h.tasks_lt,
      setWorker_lt h (h.workers_lt t session _ hrun) _⟩
  | @finish t session _ =>
    refine ⟨h.wellFormed, h.connected, h.accepted, h.closing, h.welcoming, h.tasks_lt,
      fun u x todo hu => ?_⟩
    simp only [State.setWorker, Function.update_apply] at hu
    split_ifs at hu
    exact h.workers_lt u x todo hu

end Step

end Server

end ItsBedalyo
