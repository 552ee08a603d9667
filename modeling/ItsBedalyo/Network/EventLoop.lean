import ItsBedalyo.Lib.EdgeTriggered
import ItsBedalyo.Network.PacketFramer
import ItsBedalyo.Network.Server

/-!
# The event loop: `ItsServer::run`

The network thread waits for events, and for each event either accepts until `accept` would
block or reads one client until `read` would block. Its sockets are registered edge-triggered:
an item of the interest list is put on the ready list when something arrives at its socket, and
`epoll_wait` takes it off. An event carries a descriptor number, and `read` reads whatever
connection the kernel has under that number.

The clients connect, send and hang up at any time, and the workers go on with their handlers
between the steps of the thread (`Server.exec`). What `handleCategoryRequest` writes to a new
client touches nothing of this state.
-/

namespace ItsBedalyo

namespace EventLoop

open SessionManager Server PacketFramer

/-- `MAX_EVENTS`. -/
def maxEvents : ℕ := 10000

/-- The size of the buffer in `readFromClient`. -/
def bufferSize : ℕ := 4096

/-- What the interest list holds: `serverFd`, or a connection. -/
abbrev Source := Option Conn

/-- What `events[i].data.fd` says: `serverFd`, or the descriptor of a client. -/
inductive Event
  | server
  | client (fd : Fd)
  deriving DecidableEq

/-- The other end of a connection. -/
inductive Peer
  | absent
  | sending
  | finished
  deriving DecidableEq

/-- The receiving side of a connection: what can be read, whether the peer may send more, and,
as history, all that has arrived. -/
structure Socket where
  unread : List Byte
  peer : Peer
  arrived : List Byte
  deriving DecidableEq

namespace Socket

/-- No connection yet. -/
def none : Socket := { unread := [], peer := .absent, arrived := [] }

/-- A new connection. -/
def new : Socket := { unread := [], peer := .sending, arrived := [] }

/-- The peer sends. -/
def receive (k : Socket) (data : List Byte) : Socket :=
  { k with unread := k.unread ++ data, arrived := k.arrived ++ data }

/-- The peer hangs up. -/
def finish (k : Socket) : Socket := { k with peer := .finished }

/-- `read` takes the first `n` bytes. -/
def take (k : Socket) (n : ℕ) : Socket := { k with unread := k.unread.drop n }

/-- `close`. -/
def close (k : Socket) : Socket := { k with unread := [], peer := .absent }

/-- How many times something is there to read: bytes, and the end of the stream. -/
def pending (k : Socket) : ℕ := k.unread.length + if k.peer = .finished then 1 else 0

theorem pending_receive (k : Socket) (data : List Byte) :
    (k.receive data).pending = k.pending + data.length := by
  have hpeer : (k.receive data).peer = k.peer := rfl
  have hlen : (k.receive data).unread.length = k.unread.length + data.length :=
    List.length_append
  rw [pending, pending, hpeer, hlen]
  omega

theorem pending_finish {k : Socket} (h : k.peer = .sending) :
    k.finish.pending = k.pending + 1 := by
  simp [pending, finish, h]

end Socket

/-- Where the network thread is, with the events of this round it has not looked at. It is in
`epoll_wait` when it handles none. -/
inductive Phase
  | handling (events : List Event)
  | accepting (events : List Event)
  | accepted (fd : Fd) (events : List Event)
  | reading (fd : Fd) (events : List Event)
  | stopped
  deriving DecidableEq

/-- The events not looked at. -/
def Phase.todo : Phase → List Event
  | .handling events | .accepting events | .accepted _ events | .reading _ events => events
  | .stopped => []

/-- The server, the kernel's tables, and as history: whether an `accept` has failed since the
last connection arrived, what has been read from each connection, the calls of
`Dispatcher::dispatch` with the session they were made for, and the connection each session was
created for. -/
structure State where
  manager : SessionManager
  phase : Phase
  fdTable : Fd → Option Conn
  socket : Conn → Socket
  interest : Conn → Option Fd
  ready : Finset Source
  backlog : List Conn
  conns : ℕ
  refused : Bool
  chunks : Conn → List (List Byte)
  dispatched : List (SessionRef × Dispatch)
  connOf : SessionRef → Conn

/-- A step of a client, of a worker, or of the network thread. -/
inductive Label
  | connect
  | arrive (conn : Conn) (data : List Byte)
  | hangup (conn : Conn)
  | worker (session : SessionRef) (op : Server.Op)
  | wait (sources : List Source)
  | waitFails
  | next
  | accept (fd : Fd)
  | register
  | acceptAgain
  | acceptFails
  | read (n fuel : ℕ)
  | readAgain
  | readEof
  | readFails
  deriving DecidableEq

namespace State

/-- The server after its constructor. -/
def init : State :=
  { manager := .init, phase := .handling [], fdTable := fun _ => none, socket := fun _ => .none,
    interest := fun _ => none, ready := ∅, backlog := [], conns := 0, refused := false,
    chunks := fun _ => [], dispatched := [], connOf := fun _ => 0 }

/-- A connection completes its handshake. -/
def connect (s : State) : State :=
  { s with
    socket := Function.update s.socket s.conns .new
    ready := insert none s.ready
    backlog := s.backlog ++ [s.conns]
    conns := s.conns + 1
    refused := false }

/-- Something arrives at a socket: its item, if it has one, becomes ready. -/
def notify (s : State) (conn : Conn) (socket : Socket) : State :=
  { s with
    socket := Function.update s.socket conn socket
    ready := if (s.interest conn).isSome then insert (some conn) s.ready else s.ready }

/-- The `data.fd` of an item. -/
def report (s : State) : Source → Event
  | none => .server
  | some conn => .client ((s.interest conn).getD 0)

/-- `epoll_wait` answers the items `sources`. -/
def wait (s : State) (sources : List Source) : State :=
  { s with
    phase := .handling (sources.map s.report)
    ready := s.ready \ sources.toFinset }

/-- `accept` answers `fd` for the connection that has waited longest. -/
def accept (s : State) (fd : Fd) (conn : Conn) (backlog : List Conn) (events : List Event) :
    State :=
  { s with
    phase := .accepted fd events
    fdTable := Function.update s.fdTable fd (some conn)
    backlog := backlog }

/-- `createSession(clientFd)` and `epoll_ctl(EPOLL_CTL_ADD)`: the item is ready at once if there
is something to read. -/
def register (s : State) (fd : Fd) (conn : Conn) (events : List Event) : State :=
  { s with
    manager := s.manager.createSession fd
    phase := .accepting events
    interest := Function.update s.interest conn (some fd)
    ready := if 0 < (s.socket conn).pending then insert (some conn) s.ready else s.ready
    connOf := Function.update s.connOf s.manager.created conn }

/-- `read` answers the first `n` bytes. -/
def take (s : State) (conn : Conn) (n : ℕ) : State :=
  { s with
    socket := Function.update s.socket conn ((s.socket conn).take n)
    chunks := Function.update s.chunks conn
      (s.chunks conn ++ [(s.socket conn).unread.take n]) }

/-- `onReceiveData` has made `calls` and left the session as `object`. -/
def dispatch (s : State) (session : SessionRef) (calls : List Dispatch) (object : ClientSession) :
    State :=
  { s with
    manager := { s.manager with object := Function.update s.manager.object session object }
    dispatched := s.dispatched ++ calls.map fun call => (session, call) }

/-- `disconnectClient(clientFd)`. -/
def disconnect (s : State) (fd : Fd) (conn : Conn) (events : List Event) : State :=
  { s with
    manager := s.manager.removeSession fd
    phase := .handling events
    fdTable := Function.update s.fdTable fd none
    socket := Function.update s.socket conn (s.socket conn).close
    interest := Function.update s.interest conn none
    ready := s.ready.erase (some conn) }

end State

/-- The step function. -/
def step (s : State) : Label → Option State
  | .connect => some s.connect
  | .arrive conn data =>
    if data ≠ [] ∧ (s.socket conn).peer = .sending then
      some (s.notify conn ((s.socket conn).receive data))
    else none
  | .hangup conn =>
    if (s.socket conn).peer = .sending then some (s.notify conn (s.socket conn).finish) else none
  | .worker session op =>
    if session < s.manager.created then
      (Server.exec s.manager session op).map fun (manager, _) => { s with manager }
    else none
  | .wait sources =>
    match s.phase with
    | .handling [] =>
      if sources ≠ [] ∧ sources.Nodup ∧ sources.length ≤ maxEvents ∧ ∀ i ∈ sources, i ∈ s.ready then
        some (s.wait sources)
      else none
    | _ => none
  | .waitFails =>
    match s.phase with
    | .handling [] => some { s with phase := .stopped }
    | _ => none
  | .next =>
    match s.phase with
    | .handling (.server :: events) => some { s with phase := .accepting events }
    | .handling (.client fd :: events) => some { s with phase := .reading fd events }
    | _ => none
  | .accept fd =>
    match s.phase, s.backlog with
    | .accepting events, conn :: backlog =>
      if s.fdTable fd = none then some (s.accept fd conn backlog events) else none
    | _, _ => none
  | .register =>
    match s.phase with
    | .accepted fd events => (s.fdTable fd).map fun conn => s.register fd conn events
    | _ => none
  | .acceptAgain =>
    match s.phase with
    | .accepting events =>
      if s.backlog = [] then some { s with phase := .handling events } else none
    | _ => none
  | .acceptFails =>
    match s.phase with
    | .accepting events => some { s with phase := .handling events, refused := true }
    | _ => none
  | .read n fuel =>
    match s.phase with
    | .reading fd _ => (s.fdTable fd).bind fun conn =>
      if 0 < n ∧ n ≤ bufferSize ∧ n ≤ (s.socket conn).unread.length then
        match s.manager.getSession fd with
        | none => some (s.take conn n)
        | some session =>
          (onReceiveData fuel (s.manager.object session) ((s.socket conn).unread.take n)).map
            fun (calls, object) => (s.take conn n).dispatch session calls object
      else none
    | _ => none
  | .readAgain =>
    match s.phase with
    | .reading fd events => (s.fdTable fd).bind fun conn =>
      if (s.socket conn).unread = [] ∧ (s.socket conn).peer ≠ .finished then
        some { s with phase := .handling events }
      else none
    | _ => none
  | .readEof =>
    match s.phase with
    | .reading fd events => (s.fdTable fd).bind fun conn =>
      if (s.socket conn).unread = [] ∧ (s.socket conn).peer = .finished then
        some (s.disconnect fd conn events)
      else none
    | _ => none
  | .readFails =>
    match s.phase with
    | .reading fd events => (s.fdTable fd).map fun conn => s.disconnect fd conn events
    | _ => none

/-- What each step needs and does. -/
inductive Effect (s : State) : Label → State → Prop
  | connect : Effect s .connect s.connect
  | arrive {conn : Conn} {data : List Byte} : data ≠ [] → (s.socket conn).peer = .sending →
      Effect s (.arrive conn data) (s.notify conn ((s.socket conn).receive data))
  | hangup {conn : Conn} : (s.socket conn).peer = .sending →
      Effect s (.hangup conn) (s.notify conn (s.socket conn).finish)
  | worker {session : SessionRef} {op : Server.Op} {manager : SessionManager}
      {ops : List Server.Op} :
      session < s.manager.created → Server.exec s.manager session op = some (manager, ops) →
      Effect s (.worker session op) { s with manager }
  | wait {sources : List Source} : s.phase = .handling [] → sources ≠ [] → sources.Nodup →
      sources.length ≤ maxEvents → (∀ i ∈ sources, i ∈ s.ready) →
      Effect s (.wait sources) (s.wait sources)
  | waitFails : s.phase = .handling [] → Effect s .waitFails { s with phase := .stopped }
  | nextServer {events : List Event} : s.phase = .handling (.server :: events) →
      Effect s .next { s with phase := .accepting events }
  | nextClient {fd : Fd} {events : List Event} : s.phase = .handling (.client fd :: events) →
      Effect s .next { s with phase := .reading fd events }
  | accept {fd : Fd} {conn : Conn} {backlog : List Conn} {events : List Event} :
      s.phase = .accepting events → s.backlog = conn :: backlog → s.fdTable fd = none →
      Effect s (.accept fd) (s.accept fd conn backlog events)
  | register {fd : Fd} {conn : Conn} {events : List Event} : s.phase = .accepted fd events →
      s.fdTable fd = some conn → Effect s .register (s.register fd conn events)
  | acceptAgain {events : List Event} : s.phase = .accepting events → s.backlog = [] →
      Effect s .acceptAgain { s with phase := .handling events }
  | acceptFails {events : List Event} : s.phase = .accepting events →
      Effect s .acceptFails { s with phase := .handling events, refused := true }
  | read {n fuel : ℕ} {fd : Fd} {conn : Conn} {events : List Event} {session : SessionRef}
      {calls : List Dispatch} {object : ClientSession} : s.phase = .reading fd events →
      s.fdTable fd = some conn → 0 < n → n ≤ bufferSize → n ≤ (s.socket conn).unread.length →
      s.manager.sessionMap fd = some session →
      onReceiveData fuel (s.manager.object session) ((s.socket conn).unread.take n) =
        some (calls, object) →
      Effect s (.read n fuel) ((s.take conn n).dispatch session calls object)
  | readLost {n fuel : ℕ} {fd : Fd} {conn : Conn} {events : List Event} :
      s.phase = .reading fd events → s.fdTable fd = some conn → 0 < n → n ≤ bufferSize →
      n ≤ (s.socket conn).unread.length → s.manager.sessionMap fd = none →
      Effect s (.read n fuel) (s.take conn n)
  | readAgain {fd : Fd} {conn : Conn} {events : List Event} : s.phase = .reading fd events →
      s.fdTable fd = some conn → (s.socket conn).unread = [] →
      (s.socket conn).peer ≠ .finished → Effect s .readAgain { s with phase := .handling events }
  | readEof {fd : Fd} {conn : Conn} {events : List Event} : s.phase = .reading fd events →
      s.fdTable fd = some conn → (s.socket conn).unread = [] →
      (s.socket conn).peer = .finished → Effect s .readEof (s.disconnect fd conn events)
  | readFails {fd : Fd} {conn : Conn} {events : List Event} : s.phase = .reading fd events →
      s.fdTable fd = some conn → Effect s .readFails (s.disconnect fd conn events)

/-- **Inversion.** Every step has one of the effects. -/
theorem effect_of_step {s s' : State} {a : Label} (h : step s a = some s') : Effect s a s' := by
  cases a with
  | connect =>
    obtain rfl := Option.some.inj h
    exact .connect
  | arrive conn data =>
    obtain ⟨⟨hne, hpeer⟩, hs⟩ := Option.ite_none_right_eq_some.mp h
    obtain rfl := Option.some.inj hs
    exact .arrive hne hpeer
  | hangup conn =>
    obtain ⟨hpeer, hs⟩ := Option.ite_none_right_eq_some.mp h
    obtain rfl := Option.some.inj hs
    exact .hangup hpeer
  | worker session op =>
    obtain ⟨hlt, hs⟩ := Option.ite_none_right_eq_some.mp h
    obtain ⟨⟨manager, ops⟩, hexec, rfl⟩ := Option.map_eq_some_iff.mp hs
    exact .worker hlt hexec
  | wait sources =>
    simp only [step] at h
    split at h
    · next hphase =>
      obtain ⟨⟨hne, hnodup, hle, hsub⟩, hs⟩ := Option.ite_none_right_eq_some.mp h
      obtain rfl := Option.some.inj hs
      exact .wait hphase hne hnodup hle hsub
    · cases h
  | waitFails =>
    simp only [step] at h
    split at h
    · next hphase =>
      obtain rfl := Option.some.inj h
      exact .waitFails hphase
    · cases h
  | next =>
    simp only [step] at h
    split at h
    · next events hphase =>
      obtain rfl := Option.some.inj h
      exact .nextServer hphase
    · next fd events hphase =>
      obtain rfl := Option.some.inj h
      exact .nextClient hphase
    · cases h
  | accept fd =>
    simp only [step] at h
    split at h
    · next events conn backlog hphase hbacklog =>
      obtain ⟨hfd, hs⟩ := Option.ite_none_right_eq_some.mp h
      obtain rfl := Option.some.inj hs
      exact .accept hphase hbacklog hfd
    · cases h
  | register =>
    simp only [step] at h
    split at h
    · next fd events hphase =>
      obtain ⟨conn, hfd, rfl⟩ := Option.map_eq_some_iff.mp h
      exact .register hphase hfd
    · cases h
  | acceptAgain =>
    simp only [step] at h
    split at h
    · next events hphase =>
      obtain ⟨hbacklog, hs⟩ := Option.ite_none_right_eq_some.mp h
      obtain rfl := Option.some.inj hs
      exact .acceptAgain hphase hbacklog
    · cases h
  | acceptFails =>
    simp only [step] at h
    split at h
    · next events hphase =>
      obtain rfl := Option.some.inj h
      exact .acceptFails hphase
    · cases h
  | read n fuel =>
    simp only [step] at h
    split at h
    · next fd events hphase =>
      obtain ⟨conn, hfd, h⟩ := Option.bind_eq_some_iff.mp h
      obtain ⟨⟨hn, hsize, hle⟩, h⟩ := Option.ite_none_right_eq_some.mp h
      split at h
      · next hsession =>
        obtain rfl := Option.some.inj h
        exact .readLost hphase hfd hn hsize hle hsession
      · next session hsession =>
        obtain ⟨⟨calls, object⟩, hcalls, rfl⟩ := Option.map_eq_some_iff.mp h
        exact .read hphase hfd hn hsize hle hsession hcalls
    · cases h
  | readAgain =>
    simp only [step] at h
    split at h
    · next fd events hphase =>
      obtain ⟨conn, hfd, h⟩ := Option.bind_eq_some_iff.mp h
      obtain ⟨⟨hunread, hpeer⟩, hs⟩ := Option.ite_none_right_eq_some.mp h
      obtain rfl := Option.some.inj hs
      exact .readAgain hphase hfd hunread hpeer
    · cases h
  | readEof =>
    simp only [step] at h
    split at h
    · next fd events hphase =>
      obtain ⟨conn, hfd, h⟩ := Option.bind_eq_some_iff.mp h
      obtain ⟨⟨hunread, hpeer⟩, hs⟩ := Option.ite_none_right_eq_some.mp h
      obtain rfl := Option.some.inj hs
      exact .readEof hphase hfd hunread hpeer
    · cases h
  | readFails =>
    simp only [step] at h
    split at h
    · next fd events hphase =>
      obtain ⟨conn, hfd, rfl⟩ := Option.map_eq_some_iff.mp h
      exact .readFails hphase hfd
    · cases h

end EventLoop

end ItsBedalyo
