import ItsBedalyo.Network.Framing
import ItsBedalyo.Network.Notification

/-!
# What the event loop hands to the dispatcher

Every session is created for one connection, and what is dispatched for it is what the framer
makes of the bytes read from that connection, whatever descriptor numbers are used again. With
what the notifications guarantee (`Network/Notification.lean`), a loop that waits for events has
passed on everything that has arrived (`delivered_at_rest`).
-/

namespace ItsBedalyo

open StreamDecoder

namespace PacketFramer

/-- The framer looks at the buffer alone, and changes nothing else. -/
theorem processBuffer_congr {fuel : ℕ} {session session' other : ClientSession}
    {calls : List Dispatch} (hbuffer : other.readBuffer = session.readBuffer)
    (h : processBuffer fuel session = some (calls, session')) :
    processBuffer fuel other = some (calls, withBuffer other session'.readBuffer) := by
  induction fuel generalizing session other calls with
  | zero => cases h
  | succ fuel ih =>
    simp only [processBuffer] at h ⊢
    rw [hbuffer]
    cases hpass : pass session.readBuffer with
    | wait =>
      rw [hpass] at h
      obtain ⟨rfl, rfl⟩ := Prod.mk.inj (Option.some.inj h)
      rw [withBuffer, ← hbuffer]
    | badSignature =>
      rw [hpass] at h
      obtain ⟨rfl, rfl⟩ := Prod.mk.inj (Option.some.inj h)
      have hlen : session.readBuffer.length ≤ other.readBuffer.length := by rw [hbuffer]
      rw [removeReadData_of_le hlen, removeReadData_of_le (Nat.le_refl _), hbuffer]
      rfl
    | dispatch call total =>
      rw [hpass] at h
      obtain ⟨⟨calls', session₁⟩, hrest, heq⟩ := Option.map_eq_some_iff.mp h
      obtain ⟨rfl, rfl⟩ := Prod.mk.inj heq
      have hlen := (pass_eq_dispatch_iff.mp hpass).2.2.1
      have hremoved : (other.removeReadData total.toNat).readBuffer =
          (session.removeReadData total.toNat).readBuffer := by
        rw [removeReadData_of_le hlen, removeReadData_of_le (hbuffer ▸ hlen), hbuffer]
        rfl
      simp only [ih hremoved hrest, Option.map_some]
      rw [removeReadData_of_le (hbuffer ▸ hlen)]
      rfl

theorem onReceiveData_eq {fuel : ℕ} {session session' : ClientSession} {chunk : List Byte}
    {calls : List Dispatch} (h : onReceiveData fuel session chunk = some (calls, session')) :
    session' = withBuffer session session'.readBuffer :=
  (Prod.mk.inj (Option.some.inj (h.symm.trans (processBuffer_congr rfl h)))).2

/-- What has been dispatched of a stream of packets is what has been received completely. -/
theorem splits_of_receives {msgs : List Message} (hfits : ∀ m ∈ msgs, m.Fits) {fd : Fd}
    {chunks : List (List Byte)} (hstream : chunks.flatten <+: msgs.flatMap Message.packet)
    {calls : List Dispatch} {session : ClientSession}
    (h : Receives (.new fd) chunks calls session) :
    ∃ n rest, Splits Message.packet msgs chunks.flatten n rest ∧
      calls = (msgs.take n).map Message.dispatched := by
  obtain ⟨n, rest, hsplit⟩ := exists_splits hstream
  obtain ⟨calls', rest', hfeeds⟩ := exists_feeds length_lt_of_peel chunks
  have hcalls := (hfeeds.drains peel_local peel_nil).unique (drains_of_splits hfits hsplit)
  have hsame := h.unique (receives_of_feeds hfits fd hfeeds hstream)
  exact ⟨n, rest, hsplit, hsame.1.trans hcalls.1⟩

end PacketFramer

namespace EventLoop

open SessionManager Server PacketFramer

/-- The calls made for a session. -/
def State.calls (s : State) (session : SessionRef) : List Dispatch :=
  s.dispatched.filterMap fun p => if p.1 = session then some p.2 else none

/-- The operations of a handler leave the read buffers alone. -/
theorem exec_readBuffer {m m' : SessionManager} {session : SessionRef} {op : Server.Op}
    {ops : List Server.Op}
    (h : Server.exec m session op = some (m', ops)) (x : SessionRef) :
    (m'.object x).readBuffer = (m.object x).readBuffer := by
  cases op <;> simp only [Server.exec, Option.some.injEq, Prod.mk.injEq, reduceCtorEq] at h
  all_goals
    obtain ⟨rfl, -⟩ := h
    by_cases hx : x = session <;>
      simp [authenticate, registerUser, removeUser, clearAuth, ClientSession.authenticate,
        ClientSession.clearAuth, hx]

section Calls

variable (s : State) (session x : SessionRef) (calls : List Dispatch) (object : ClientSession)

theorem calls_dispatch_self :
    (s.dispatch session calls object).calls session = s.calls session ++ calls := by
  simp [State.calls, State.dispatch, List.filterMap_append, List.filterMap_map]

theorem calls_dispatch_of_ne {session x : SessionRef} (h : x ≠ session) :
    (s.dispatch session calls object).calls x = s.calls x := by
  simp [State.calls, State.dispatch, List.filterMap_append, List.filterMap_map, h.symm]

end Calls

/-! ### The bytes of a connection -/

/-- What has been read of a connection and what has not is what has arrived, as long as the
server has not closed it. -/
structure Bytes (s : State) : Prop where
  append_unread : ∀ conn, (s.socket conn).peer ≠ .absent →
    (s.chunks conn).flatten ++ (s.socket conn).unread = (s.socket conn).arrived
  prefix_arrived : ∀ conn, (s.chunks conn).flatten <+: (s.socket conn).arrived
  chunk_size : ∀ conn, ∀ chunk ∈ s.chunks conn, chunk ≠ [] ∧ chunk.length ≤ bufferSize
  opened : ∀ fd conn, s.fdTable fd = some conn → (s.socket conn).peer ≠ .absent
  waiting : ∀ conn ∈ s.backlog, (s.socket conn).peer ≠ .absent ∧ s.chunks conn = []
  accepted : ∀ fd events conn, s.phase = .accepted fd events → s.fdTable fd = some conn →
    s.chunks conn = []
  fresh : ∀ conn, s.conns ≤ conn → s.socket conn = .none ∧ s.chunks conn = []

theorem Bytes.init : Bytes .init := by
  constructor <;> simp [State.init, Socket.none]

section Bytes

variable {s : State}

/-- What leaves the connections and their bytes alone. -/
theorem Bytes.frame {s' : State} (h : Bytes s) (hsocket : s'.socket = s.socket)
    (hchunks : s'.chunks = s.chunks) (hfd : s'.fdTable = s.fdTable)
    (hbacklog : s'.backlog = s.backlog) (hconns : s'.conns = s.conns)
    (haccepted : ∀ fd events, s'.phase = .accepted fd events → s.phase = .accepted fd events) :
    Bytes s' := by
  constructor
  all_goals simp only [hsocket, hchunks, hfd, hbacklog, hconns]
  exacts [h.append_unread, h.prefix_arrived, h.chunk_size, h.opened, h.waiting,
    fun fd events conn hphase => h.accepted fd events conn (haccepted fd events hphase), h.fresh]

theorem Bytes.connect (h : Bytes s) (htables : Tables s) : Bytes s.connect := by
  obtain ⟨-, hchunks⟩ := h.fresh s.conns (Nat.le_refl _)
  have hsocket : ∀ conn, conn ≠ s.conns → s.connect.socket conn = s.socket conn :=
    fun conn hc => Function.update_of_ne hc ..
  have hself : s.connect.socket s.conns = .new := Function.update_self ..
  refine ⟨fun conn hpeer => ?_, fun conn => ?_, h.chunk_size, fun fd conn hfd => ?_,
    fun conn hmem => ?_, h.accepted, fun conn hle => ?_⟩
  · by_cases hc : conn = s.conns
    · have hchunks' : s.connect.chunks s.conns = [] := hchunks
      rw [hc, hself, hchunks']
      rfl
    · rw [hsocket conn hc] at hpeer ⊢
      exact h.append_unread conn hpeer
  · by_cases hc : conn = s.conns
    · have hchunks' : s.connect.chunks s.conns = [] := hchunks
      rw [hc, hchunks']
      exact List.nil_prefix
    · rw [hsocket conn hc]
      exact h.prefix_arrived conn
  · rw [hsocket conn (Nat.ne_of_lt (htables.fdTable_lt fd conn hfd))]
    exact h.opened fd conn hfd
  · rcases List.mem_append.mp hmem with hmem | hmem
    · rw [hsocket conn (Nat.ne_of_lt (htables.backlog_lt conn hmem))]
      exact h.waiting conn hmem
    · obtain rfl := List.mem_singleton.mp hmem
      rw [hself]
      exact ⟨by simp [Socket.new], hchunks⟩
  · have hle' : s.conns + 1 ≤ conn := hle
    rw [hsocket conn (by omega)]
    exact h.fresh conn (by omega)

/-- What arrives at a socket whose peer sends. -/
theorem Bytes.notify (h : Bytes s) {conn : Conn} {socket : Socket} {data : List Byte}
    (hpeer : (s.socket conn).peer = .sending) (hpeer' : socket.peer ≠ .absent)
    (hunread : socket.unread = (s.socket conn).unread ++ data)
    (harrived : socket.arrived = (s.socket conn).arrived ++ data) :
    Bytes (s.notify conn socket) := by
  have hpresent : (s.socket conn).peer ≠ .absent := by simp [hpeer]
  have hsocket : ∀ c, c ≠ conn → (s.notify conn socket).socket c = s.socket c :=
    fun c hc => Function.update_of_ne hc ..
  have hself : (s.notify conn socket).socket conn = socket := Function.update_self ..
  have hpeers : ∀ c, (s.socket c).peer ≠ .absent →
      ((s.notify conn socket).socket c).peer ≠ .absent := by
    intro c hc
    by_cases hcc : c = conn
    · rw [hcc, hself]
      exact hpeer'
    · rw [hsocket c hcc]
      exact hc
  refine ⟨fun c hc => ?_, fun c => ?_, h.chunk_size, fun fd c hfd => hpeers c (h.opened fd c hfd),
    fun c hmem => ⟨hpeers c (h.waiting c hmem).1, (h.waiting c hmem).2⟩, h.accepted,
    fun c hle => ?_⟩
  · by_cases hcc : c = conn
    · rw [hcc, hself, hunread, harrived, ← List.append_assoc]
      exact congrArg (· ++ data) (h.append_unread conn hpresent)
    · rw [hsocket c hcc] at hc ⊢
      exact h.append_unread c hc
  · by_cases hcc : c = conn
    · rw [hcc, hself, harrived]
      exact (h.prefix_arrived conn).trans (List.prefix_append _ _)
    · rw [hsocket c hcc]
      exact h.prefix_arrived c
  · have hcc : c ≠ conn := by
      rintro rfl
      rw [(h.fresh c hle).1] at hpeer
      cases hpeer
    rw [hsocket c hcc]
    exact h.fresh c hle

theorem Bytes.accept (h : Bytes s) {fd : Fd} {conn : Conn} {backlog : List Conn}
    {events : List Event} (hbacklog : s.backlog = conn :: backlog) :
    Bytes (s.accept fd conn backlog events) := by
  have hwaiting := h.waiting conn (by rw [hbacklog]; exact List.mem_cons_self)
  refine ⟨h.append_unread, h.prefix_arrived, h.chunk_size, fun fd' c hfd => ?_, fun c hmem => ?_,
    fun fd' events' c hphase hfd => ?_, h.fresh⟩
  · simp only [State.accept, Function.update_apply] at hfd
    split_ifs at hfd
    · obtain rfl := Option.some.inj hfd
      exact hwaiting.1
    · exact h.opened fd' c hfd
  · exact h.waiting c (by rw [hbacklog]; exact List.mem_cons_of_mem _ hmem)
  · obtain ⟨rfl, -⟩ : fd = fd' ∧ events = events' := by simpa [State.accept] using hphase
    obtain rfl : conn = c := by simpa [State.accept] using hfd
    exact hwaiting.2

theorem Bytes.take (h : Bytes s) (htables : Tables s) {fd : Fd} {conn : Conn}
    {events : List Event} {n : ℕ} (hphase : s.phase = .reading fd events)
    (hfd : s.fdTable fd = some conn) (hn : 0 < n) (hsize : n ≤ bufferSize)
    (hle : n ≤ (s.socket conn).unread.length) : Bytes (s.take conn n) := by
  have hpresent := h.opened fd conn hfd
  have hsocket : ∀ c, c ≠ conn → (s.take conn n).socket c = s.socket c :=
    fun c hc => Function.update_of_ne hc ..
  have hself : (s.take conn n).socket conn = (s.socket conn).take n := Function.update_self ..
  have hchunks : ∀ c, c ≠ conn → (s.take conn n).chunks c = s.chunks c :=
    fun c hc => Function.update_of_ne hc ..
  have hchunk : (s.take conn n).chunks conn =
      s.chunks conn ++ [(s.socket conn).unread.take n] := Function.update_self ..
  have hflatten : ((s.take conn n).chunks conn).flatten ++ ((s.socket conn).take n).unread =
      (s.socket conn).arrived := by
    rw [hchunk, List.flatten_append, ← h.append_unread conn hpresent]
    simp [Socket.take]
  refine ⟨fun c hc => ?_, fun c => ?_, fun c => ?_, fun fd' c hfd' => ?_, fun c hmem => ?_,
    fun fd' events' c hphase' => ?_, fun c hle' => ?_⟩
  · by_cases hcc : c = conn
    · rw [hcc, hself]
      exact hflatten
    · rw [hsocket c hcc] at hc ⊢
      rw [hchunks c hcc]
      exact h.append_unread c hc
  · by_cases hcc : c = conn
    · rw [hcc, hself]
      exact ⟨_, hflatten⟩
    · rw [hsocket c hcc, hchunks c hcc]
      exact h.prefix_arrived c
  · by_cases hcc : c = conn
    · rw [hcc, hchunk]
      intro chunk hmem
      rcases List.mem_append.mp hmem with hmem | hmem
      · exact h.chunk_size conn chunk hmem
      · obtain rfl := List.mem_singleton.mp hmem
        have hlen : ((s.socket conn).unread.take n).length = n := List.length_take_of_le hle
        refine ⟨fun hnil => ?_, Nat.le_trans (Nat.le_of_eq hlen) hsize⟩
        rw [hnil] at hlen
        exact Nat.ne_of_lt hn hlen
    · rw [hchunks c hcc]
      exact h.chunk_size c
  · by_cases hcc : c = conn
    · rw [hcc, hself]
      exact hpresent
    · rw [hsocket c hcc]
      exact h.opened fd' c hfd'
  · have hcc : c ≠ conn := by
      rintro rfl
      exact htables.fdTable_backlog fd c hfd hmem
    rw [hsocket c hcc, hchunks c hcc]
    exact h.waiting c hmem
  · cases hphase.symm.trans hphase'
  · have hcc : c ≠ conn := by
      rintro rfl
      exact absurd (htables.fdTable_lt fd c hfd) (Nat.not_lt.mpr hle')
    rw [hsocket c hcc, hchunks c hcc]
    exact h.fresh c hle'

theorem Bytes.disconnect (h : Bytes s) (htables : Tables s) {fd : Fd} {conn : Conn}
    {events : List Event} (hfd : s.fdTable fd = some conn) :
    Bytes (s.disconnect fd conn events) := by
  have hsocket : ∀ c, c ≠ conn → (s.disconnect fd conn events).socket c = s.socket c :=
    fun c hc => Function.update_of_ne hc ..
  have hself : (s.disconnect fd conn events).socket conn = (s.socket conn).close :=
    Function.update_self ..
  refine ⟨fun c hc => ?_, fun c => ?_, h.chunk_size, fun fd' c hfd' => ?_, fun c hmem => ?_,
    fun fd' events' c hphase => ?_, fun c hle => ?_⟩
  · by_cases hcc : c = conn
    · rw [hcc, hself] at hc
      exact absurd rfl hc
    · rw [hsocket c hcc] at hc ⊢
      exact h.append_unread c hc
  · by_cases hcc : c = conn
    · rw [hcc, hself]
      exact h.prefix_arrived conn
    · rw [hsocket c hcc]
      exact h.prefix_arrived c
  · simp only [State.disconnect, Function.update_apply] at hfd'
    split_ifs at hfd' with hc
    have hcc : c ≠ conn := by
      rintro rfl
      exact hc (htables.injective fd' fd c hfd' hfd)
    rw [hsocket c hcc]
    exact h.opened fd' c hfd'
  · have hcc : c ≠ conn := by
      rintro rfl
      exact htables.fdTable_backlog fd c hfd hmem
    rw [hsocket c hcc]
    exact h.waiting c hmem
  · cases hphase
  · have hcc : c ≠ conn := by
      rintro rfl
      exact absurd (htables.fdTable_lt fd c hfd) (Nat.not_lt.mpr hle)
    rw [hsocket c hcc]
    exact h.fresh c hle

theorem Bytes.step {s' : State} {a : Label} (h : Bytes s) (htables : Tables s)
    (hs : EventLoop.step s a = some s') : Bytes s' := by
  cases effect_of_step hs with
  | connect => exact h.connect htables
  | arrive _ hpeer => exact h.notify hpeer (by simp [Socket.receive, hpeer]) rfl rfl
  | hangup hpeer =>
    exact h.notify hpeer (by simp [Socket.finish]) (List.append_nil _).symm
      (List.append_nil _).symm
  | worker _ _ => exact h.frame rfl rfl rfl rfl rfl fun _ _ hphase => hphase
  | wait _ _ _ _ _ => exact h.frame rfl rfl rfl rfl rfl (by simp [State.wait])
  | waitFails _ => exact h.frame rfl rfl rfl rfl rfl (by simp)
  | nextServer _ => exact h.frame rfl rfl rfl rfl rfl (by simp)
  | nextClient _ => exact h.frame rfl rfl rfl rfl rfl (by simp)
  | accept _ hbacklog _ => exact h.accept hbacklog
  | register _ _ => exact h.frame rfl rfl rfl rfl rfl (by simp [State.register])
  | acceptAgain _ _ => exact h.frame rfl rfl rfl rfl rfl (by simp)
  | acceptFails _ => exact h.frame rfl rfl rfl rfl rfl (by simp)
  | read hphase hfd hn hsize hle _ _ =>
    exact (h.take htables hphase hfd hn hsize hle).frame rfl rfl rfl rfl rfl fun _ _ heq => heq
  | readLost hphase hfd hn hsize hle _ => exact h.take htables hphase hfd hn hsize hle
  | readAgain _ _ _ _ => exact h.frame rfl rfl rfl rfl rfl (by simp)
  | readEof _ hfd _ _ => exact h.disconnect htables hfd
  | readFails _ hfd => exact h.disconnect htables hfd

end Bytes

/-! ### The sessions -/

/-- Every connection that has an item has a session of its own, and what has been dispatched for
a session is what the framer makes of the bytes read from its connection. -/
structure Sessions (s : State) : Prop where
  framed : ∀ x < s.manager.created, ∃ object,
    Receives (.new (s.manager.object x).clientFd) (s.chunks (s.connOf x)) (s.calls x) object ∧
      object.readBuffer = (s.manager.object x).readBuffer
  seated : ∀ conn fd, s.interest conn = some fd → ∃ x < s.manager.created,
    s.manager.sessionMap fd = some x ∧ s.connOf x = conn
  connOf_injective : ∀ x < s.manager.created, ∀ y < s.manager.created,
    s.connOf x = s.connOf y → x = y
  connOf_lt : ∀ x < s.manager.created, s.connOf x < s.conns
  connOf_backlog : ∀ x < s.manager.created, s.connOf x ∉ s.backlog
  connOf_accepted : ∀ x < s.manager.created, ∀ fd events, s.phase = .accepted fd events →
    s.fdTable fd ≠ some (s.connOf x)
  dispatched_lt : ∀ p ∈ s.dispatched, p.1 < s.manager.created

theorem Sessions.init : Sessions .init := by
  constructor <;> simp [State.init, SessionManager.init]

section Sessions

variable {s : State}

theorem calls_eq_nil {x : SessionRef} (h : ∀ p ∈ s.dispatched, p.1 ≠ x) : s.calls x = [] := by
  rw [State.calls, List.filterMap_eq_nil_iff]
  intro p hp
  rw [if_neg (h p hp)]

/-- The session of the connection that is being read. -/
theorem Sessions.of_reading (h : Sessions s) (htables : Tables s) {fd : Fd} {conn : Conn}
    {events : List Event} (hphase : s.phase = .reading fd events)
    (hfd : s.fdTable fd = some conn) :
    ∃ x < s.manager.created, s.manager.sessionMap fd = some x ∧ s.connOf x = conn :=
  h.seated conn fd (htables.interest_of_reading hphase hfd)

/-- What concerns neither sessions nor what has been read. -/
theorem Sessions.frame {s' : State} (h : Sessions s) (hmanager : s'.manager = s.manager)
    (hinterest : s'.interest = s.interest) (hchunks : s'.chunks = s.chunks)
    (hdispatched : s'.dispatched = s.dispatched) (hconnOf : s'.connOf = s.connOf)
    (hlt : s.conns ≤ s'.conns)
    (hbacklog : ∀ x < s.manager.created, s.connOf x ∉ s'.backlog)
    (haccepted : ∀ x < s.manager.created, ∀ fd events, s'.phase = .accepted fd events →
      s'.fdTable fd ≠ some (s.connOf x)) : Sessions s' := by
  have hcalls : ∀ x, s'.calls x = s.calls x := by
    intro x
    rw [State.calls, State.calls, hdispatched]
  constructor
  all_goals simp only [hmanager, hinterest, hchunks, hdispatched, hconnOf, hcalls]
  exacts [h.framed, h.seated, h.connOf_injective,
    fun x hx => Nat.lt_of_lt_of_le (h.connOf_lt x hx) hlt, hbacklog, haccepted, h.dispatched_lt]

theorem Sessions.worker (h : Sessions s) {session : SessionRef} {op : Server.Op}
    {manager : SessionManager} {ops : List Server.Op}
    (hexec : Server.exec s.manager session op = some (manager, ops)) :
    Sessions { s with manager } := by
  obtain ⟨hcreated, hmap, hfd⟩ := exec_frame hexec
  have hcalls : ∀ x, State.calls { s with manager } x = s.calls x := fun _ => rfl
  constructor
  all_goals simp only [hcreated, hmap, hfd, hcalls, exec_readBuffer hexec]
  exacts [h.framed, h.seated, h.connOf_injective, h.connOf_lt, h.connOf_backlog,
    h.connOf_accepted, h.dispatched_lt]

theorem Sessions.register (h : Sessions s) (htables : Tables s) (hbytes : Bytes s) {fd : Fd}
    {conn : Conn} {events : List Event} (hphase : s.phase = .accepted fd events)
    (hfd : s.fdTable fd = some conn) : Sessions (s.register fd conn events) := by
  have hnew : (s.register fd conn events).connOf s.manager.created = conn :=
    Function.update_self ..
  have hold : ∀ x < s.manager.created, (s.register fd conn events).connOf x = s.connOf x :=
    fun x hx => Function.update_of_ne (Nat.ne_of_lt hx) ..
  have hcases : ∀ x < (s.register fd conn events).manager.created,
      x = s.manager.created ∨ x < s.manager.created :=
    fun x hx => (Nat.lt_succ_iff_lt_or_eq.mp hx).symm
  have hother : ∀ x < s.manager.created, s.connOf x ≠ conn :=
    fun x hx heq => h.connOf_accepted x hx fd events hphase (heq ▸ hfd)
  refine ⟨fun x hx => ?_, fun conn' fd' hitem => ?_, fun x hx y hy heq => ?_, fun x hx => ?_,
    fun x hx => ?_, fun x hx fd' events' hphase' => ?_, fun p hp => ?_⟩
  · rcases hcases x hx with rfl | hlt
    · -- nothing has been read from the connection, and nothing dispatched for its session
      have hchunks : (s.register fd conn events).chunks conn = [] :=
        hbytes.accepted fd events conn hphase hfd
      have hcalls : (s.register fd conn events).calls s.manager.created = [] :=
        calls_eq_nil fun p hp => Nat.ne_of_lt (h.dispatched_lt p hp)
      have hobject : (s.register fd conn events).manager.object s.manager.created = .new fd :=
        createSession_object_self s.manager fd
      rw [hnew, hchunks, hcalls, hobject]
      exact ⟨_, .nil, rfl⟩
    · have hobject : (s.register fd conn events).manager.object x = s.manager.object x :=
        createSession_object_of_lt fd hlt
      rw [hold x hlt, hobject]
      exact h.framed x hlt
  · by_cases hc : conn' = conn
    · obtain rfl : fd = fd' := by simpa [State.register, hc] using hitem
      refine ⟨s.manager.created, Nat.lt_succ_self _, Function.update_self .., ?_⟩
      rw [hnew, hc]
    · have hitem' : s.interest conn' = some fd' := by
        simpa [State.register, Function.update_of_ne hc] using hitem
      obtain ⟨x, hlt, hmap, hconn⟩ := h.seated conn' fd' hitem'
      have hne : fd' ≠ fd := by
        rintro rfl
        exact hc (Option.some.inj ((htables.registered conn' fd' hitem').symm.trans hfd))
      refine ⟨x, Nat.lt_succ_of_lt hlt, ?_, ?_⟩
      · simpa [State.register, Function.update_of_ne hne] using hmap
      · rw [hold x hlt, hconn]
  · rcases hcases x hx with rfl | hlt
    · rcases hcases y hy with rfl | hlt'
      · rfl
      · rw [hnew, hold y hlt'] at heq
        exact absurd heq.symm (hother y hlt')
    · rcases hcases y hy with rfl | hlt'
      · rw [hnew, hold x hlt] at heq
        exact absurd heq (hother x hlt)
      · rw [hold x hlt, hold y hlt'] at heq
        exact h.connOf_injective x hlt y hlt' heq
  · rcases hcases x hx with rfl | hlt
    · rw [hnew]
      exact htables.fdTable_lt fd conn hfd
    · rw [hold x hlt]
      exact h.connOf_lt x hlt
  · rcases hcases x hx with rfl | hlt
    · rw [hnew]
      exact htables.fdTable_backlog fd conn hfd
    · rw [hold x hlt]
      exact h.connOf_backlog x hlt
  · cases hphase'
  · exact Nat.lt_succ_of_lt (h.dispatched_lt p hp)

theorem Sessions.read (h : Sessions s) {fd : Fd} {conn : Conn} {events : List Event}
    {n fuel : ℕ} {session : SessionRef} {calls : List Dispatch} {object : ClientSession}
    (hphase : s.phase = .reading fd events) (hlt : session < s.manager.created)
    (hconn : s.connOf session = conn)
    (hcalls : onReceiveData fuel (s.manager.object session) ((s.socket conn).unread.take n) =
      some (calls, object)) :
    Sessions ((s.take conn n).dispatch session calls object) := by
  have hclientFd : object.clientFd = (s.manager.object session).clientFd := by
    rw [onReceiveData_eq hcalls]
    rfl
  have hself : ((s.take conn n).dispatch session calls object).manager.object session = object :=
    Function.update_self ..
  have hother : ∀ x, x ≠ session →
      ((s.take conn n).dispatch session calls object).manager.object x = s.manager.object x :=
    fun x hx => Function.update_of_ne hx ..
  refine ⟨fun x hx => ?_, h.seated, h.connOf_injective, h.connOf_lt, h.connOf_backlog,
    fun x hx fd' events' hphase' => ?_, fun p hp => ?_⟩
  · by_cases hxs : x = session
    · -- one more chunk for the session at hand
      subst hxs
      obtain ⟨framed, hreceives, hbuffer⟩ := h.framed x hlt
      have hchunks : ((s.take conn n).dispatch x calls object).chunks (s.connOf x) =
          s.chunks (s.connOf x) ++ [(s.socket conn).unread.take n] := by
        rw [hconn]
        exact Function.update_self ..
      have happend : (framed.appendToReadBuffer ((s.socket conn).unread.take n)).readBuffer =
          ((s.manager.object x).appendToReadBuffer ((s.socket conn).unread.take n)).readBuffer :=
        congrArg (· ++ (s.socket conn).unread.take n) hbuffer
      have hlast := processBuffer_congr happend hcalls
      rw [hself, calls_dispatch_self, hclientFd]
      have hsnoc := hreceives.snoc hlast
      rw [← hchunks] at hsnoc
      exact ⟨_, hsnoc, rfl⟩
    · have hc : s.connOf x ≠ conn := fun heq =>
        hxs (h.connOf_injective x hx session hlt (heq.trans hconn.symm))
      have hchunks : ((s.take conn n).dispatch session calls object).chunks (s.connOf x) =
          s.chunks (s.connOf x) := Function.update_of_ne hc ..
      have hcallsx : ((s.take conn n).dispatch session calls object).calls x = s.calls x :=
        calls_dispatch_of_ne (s.take conn n) calls object hxs
      rw [hother x hxs, hcallsx]
      have hframed := h.framed x hx
      rw [← hchunks] at hframed
      exact hframed
  · cases hphase.symm.trans hphase'
  · rcases List.mem_append.mp hp with hp | hp
    · exact h.dispatched_lt p hp
    · obtain ⟨call, -, rfl⟩ := List.mem_map.mp hp
      exact hlt

theorem Sessions.disconnect (h : Sessions s) (htables : Tables s) {fd : Fd} {conn : Conn}
    {events : List Event} (hfd : s.fdTable fd = some conn) :
    Sessions (s.disconnect fd conn events) := by
  have hcalls : ∀ x, (s.disconnect fd conn events).calls x = s.calls x := fun _ => rfl
  have hcreated : (s.disconnect fd conn events).manager.created = s.manager.created :=
    removeSession_created s.manager fd
  have hobject : (s.disconnect fd conn events).manager.object = s.manager.object :=
    removeSession_object s.manager fd
  constructor
  case seated =>
    intro conn' fd' hitem
    have hc : conn' ≠ conn := by
      rintro rfl
      simp [State.disconnect] at hitem
    have hitem' : s.interest conn' = some fd' := by
      simpa [State.disconnect, Function.update_of_ne hc] using hitem
    obtain ⟨x, hlt, hmap, hconn⟩ := h.seated conn' fd' hitem'
    have hne : fd' ≠ fd := by
      rintro rfl
      exact hc (Option.some.inj ((htables.registered conn' fd' hitem').symm.trans hfd))
    refine ⟨x, hcreated ▸ hlt, ?_, hconn⟩
    rw [State.disconnect, removeSession_sessionMap, Function.update_of_ne hne]
    exact hmap
  case connOf_accepted =>
    intro x _ fd' events' hphase
    cases hphase
  all_goals simp only [hcreated, hobject, hcalls]
  exacts [h.framed, h.connOf_injective, h.connOf_lt, h.connOf_backlog, h.dispatched_lt]

theorem Sessions.step {s' : State} {a : Label} (h : Sessions s) (htables : Tables s)
    (hbytes : Bytes s) (hs : EventLoop.step s a = some s') : Sessions s' := by
  cases effect_of_step hs with
  | connect =>
    refine h.frame rfl rfl rfl rfl rfl (Nat.le_succ _) (fun x hx hmem => ?_) h.connOf_accepted
    rcases List.mem_append.mp hmem with hmem | hmem
    · exact h.connOf_backlog x hx hmem
    · exact Nat.ne_of_lt (h.connOf_lt x hx) (List.mem_singleton.mp hmem)
  | arrive _ _ =>
    exact h.frame rfl rfl rfl rfl rfl (Nat.le_refl _) h.connOf_backlog h.connOf_accepted
  | hangup _ =>
    exact h.frame rfl rfl rfl rfl rfl (Nat.le_refl _) h.connOf_backlog h.connOf_accepted
  | worker _ hexec => exact h.worker hexec
  | wait _ _ _ _ _ =>
    exact h.frame rfl rfl rfl rfl rfl (Nat.le_refl _) h.connOf_backlog (by simp [State.wait])
  | waitFails _ =>
    exact h.frame rfl rfl rfl rfl rfl (Nat.le_refl _) h.connOf_backlog (by simp)
  | nextServer _ =>
    exact h.frame rfl rfl rfl rfl rfl (Nat.le_refl _) h.connOf_backlog (by simp)
  | nextClient _ =>
    exact h.frame rfl rfl rfl rfl rfl (Nat.le_refl _) h.connOf_backlog (by simp)
  | @accept fd conn backlog events hphase hbacklog _ =>
    -- the connection that leaves the backlog has no session yet
    refine h.frame rfl rfl rfl rfl rfl (Nat.le_refl _) (fun x hx hmem => ?_)
      fun x hx fd' events' hphase' hfd => ?_
    · refine h.connOf_backlog x hx ?_
      rw [hbacklog]
      exact List.mem_cons_of_mem _ hmem
    · obtain ⟨rfl, -⟩ : fd = fd' ∧ events = events' := by simpa [State.accept] using hphase'
      obtain rfl : conn = s.connOf x := by simpa [State.accept] using hfd
      refine h.connOf_backlog x hx ?_
      rw [hbacklog]
      exact List.mem_cons_self
  | register hphase hfd => exact h.register htables hbytes hphase hfd
  | acceptAgain _ _ =>
    exact h.frame rfl rfl rfl rfl rfl (Nat.le_refl _) h.connOf_backlog (by simp)
  | acceptFails _ =>
    exact h.frame rfl rfl rfl rfl rfl (Nat.le_refl _) h.connOf_backlog (by simp)
  | read hphase hfd _ _ _ hsession hcalls =>
    obtain ⟨x, hlt, hmap, hconn⟩ := h.of_reading htables hphase hfd
    obtain rfl := Option.some.inj (hsession.symm.trans hmap)
    exact h.read hphase hlt hconn hcalls
  | readLost hphase hfd _ _ _ hsession =>
    obtain ⟨x, -, hmap, -⟩ := h.of_reading htables hphase hfd
    cases hsession.symm.trans hmap
  | readAgain _ _ _ _ =>
    exact h.frame rfl rfl rfl rfl rfl (Nat.le_refl _) h.connOf_backlog (by simp)
  | readEof _ hfd _ _ => exact h.disconnect htables hfd
  | readFails _ hfd => exact h.disconnect htables hfd

end Sessions

/-! ### Whole runs -/

/-- Everything that holds in every state. -/
theorem all_of_run {l : List Label} {s : State}
    (hr : Transition.run EventLoop.step .init l = some s) : Inv s ∧ Bytes s ∧ Sessions s := by
  refine Transition.invariant_run (I := fun s => Inv s ∧ Bytes s ∧ Sessions s)
    (fun s a s' h hs => ?_) ⟨.init, .init, .init⟩ hr
  obtain ⟨hinv, hbytes, hsessions⟩ := h
  exact ⟨hinv.step hs, hbytes.step hinv.tables hs, hsessions.step hinv.tables hbytes hs⟩

/-- The thread is in `epoll_wait`, and no item is ready. -/
structure Quiet (s : State) : Prop where
  phase_eq : s.phase = .handling []
  ready_eq : s.ready = ∅

theorem Quiet.atRest {s : State} (h : Quiet s) : s.consumer.AtRest :=
  ⟨h.ready_eq, by simp [State.consumer, h.phase_eq, Phase.todo],
    by simp [State.consumer, State.current, h.phase_eq]⟩

/-- A quiet loop has left nothing unread. -/
theorem pending_eq_zero {s : State} (h : Inv s) (hquiet : Quiet s) {fd : Fd} {conn : Conn}
    (hfd : s.fdTable fd = some conn) :
    s.interest conn = some fd ∧ (s.socket conn).pending = 0 := by
  have hitem : s.interest conn = some fd := by
    refine (h.tables.opened fd conn hfd).resolve_right ?_
    rintro ⟨events, hphase⟩
    cases hphase.symm.trans hquiet.phase_eq
  have hlevel := h.notify.level_eq_zero hquiet.atRest (notMem_abandoned s conn)
  refine ⟨hitem, ?_⟩
  simpa [State.consumer, State.level, hitem] using hlevel

theorem Socket.eq_of_pending {k : Socket} (h : k.pending = 0) :
    k.unread = [] ∧ k.peer ≠ .finished := by
  have hsum : k.unread.length = 0 ∧ (if k.peer = .finished then 1 else 0) = 0 :=
    Nat.add_eq_zero_iff.mp h
  refine ⟨List.length_eq_zero_iff.mp hsum.1, fun hpeer => ?_⟩
  rw [if_pos hpeer] at hsum
  cases hsum.2

/-- When the loop waits, what has arrived at a connection has been read. -/
theorem arrived_eq_of_quiet {l : List Label} {s : State}
    (hr : Transition.run EventLoop.step .init l = some s) (hquiet : Quiet s) {fd conn : ℕ}
    (hfd : s.fdTable fd = some conn) :
    (s.chunks conn).flatten = (s.socket conn).arrived := by
  obtain ⟨hinv, hbytes, -⟩ := all_of_run hr
  obtain ⟨-, hpending⟩ := pending_eq_zero hinv hquiet hfd
  have harrived := hbytes.append_unread conn (hbytes.opened fd conn hfd)
  rwa [(Socket.eq_of_pending hpending).1, List.append_nil] at harrived

/-- The connection has a session of its own then. -/
theorem session_of_quiet {l : List Label} {s : State}
    (hr : Transition.run EventLoop.step .init l = some s) (hquiet : Quiet s) {fd conn : ℕ}
    (hfd : s.fdTable fd = some conn) :
    ∃ x < s.manager.created, s.manager.sessionMap fd = some x ∧ s.connOf x = conn := by
  obtain ⟨hinv, -, hsessions⟩ := all_of_run hr
  exact hsessions.seated conn fd (pending_eq_zero hinv hquiet hfd).1

/-- **Nothing is left unread.** When the loop waits for events, every client that connected has
been accepted unless an `accept` has failed since the last one came, and whoever is connected has
a session of its own, for whose framer every byte that has arrived was read, once and in order,
in chunks of at most 4096. -/
theorem delivered_at_rest {l : List Label} {s : State}
    (hr : Transition.run EventLoop.step .init l = some s) (hquiet : Quiet s) :
    (s.backlog = [] ∨ s.refused = true) ∧
      ∀ fd conn, s.fdTable fd = some conn → (s.socket conn).peer = .sending ∧
        ∃ x < s.manager.created, s.manager.sessionMap fd = some x ∧ s.connOf x = conn ∧
          ∃ chunks object, chunks.flatten = (s.socket conn).arrived ∧
            (∀ chunk ∈ chunks, chunk ≠ [] ∧ chunk.length ≤ bufferSize) ∧
            Receives (.new (s.manager.object x).clientFd) chunks (s.calls x) object ∧
            object.readBuffer = (s.manager.object x).readBuffer := by
  obtain ⟨hinv, hbytes, hsessions⟩ := all_of_run hr
  refine ⟨?_, fun fd conn hfd => ?_⟩
  · by_contra hnot
    obtain ⟨hbacklog, hrefused⟩ := not_or.mp hnot
    have habandoned : none ∉ s.consumer.abandoned := by simp [State.consumer, hrefused]
    exact hbacklog
      (List.length_eq_zero_iff.mp (hinv.notify.level_eq_zero hquiet.atRest habandoned))
  · obtain ⟨-, hpending⟩ := pending_eq_zero hinv hquiet hfd
    have hpeer : (s.socket conn).peer = .sending := by
      cases hp : (s.socket conn).peer with
      | absent => exact absurd hp (hbytes.opened fd conn hfd)
      | sending => rfl
      | finished => exact absurd hp (Socket.eq_of_pending hpending).2
    obtain ⟨x, hlt, hmap, rfl⟩ := session_of_quiet hr hquiet hfd
    obtain ⟨object, hreceives, hbuffer⟩ := hsessions.framed x hlt
    exact ⟨hpeer, x, hlt, hmap, rfl, s.chunks (s.connOf x), object,
      arrived_eq_of_quiet hr hquiet hfd, hbytes.chunk_size _, hreceives, hbuffer⟩

/-- A client whose request comes in two pieces, the first before it is accepted. -/
def greeting : List Label :=
  [.connect, .arrive 0 [0x45, 0x43], .wait [none], .next, .accept 5, .register, .acceptAgain,
    .arrive 0 [0x04, 0x06, 0, 0, 0, 0], .wait [some 0], .next, .read 3 1, .read 5 2, .readAgain]

theorem exists_of_greeting : ∃ s, Transition.run EventLoop.step .init greeting = some s ∧
    Quiet s ∧ s.fdTable 5 = some 0 := by
  have heval : (Transition.run EventLoop.step .init greeting).map
      (fun s => (s.phase, s.ready, s.fdTable 5)) = some (.handling [], ∅, some 0) := by
    decide +kernel
  obtain ⟨s, hr, hs⟩ := Option.map_eq_some_iff.mp heval
  simp only [Prod.mk.injEq] at hs
  exact ⟨s, hr, ⟨hs.1, hs.2.1⟩, hs.2.2⟩

theorem greeting_delivered : ∃ s, Transition.run EventLoop.step .init greeting = some s ∧
    (s.backlog = [] ∨ s.refused = true) ∧ (s.socket 0).peer = .sending ∧
      ∃ x < s.manager.created, s.manager.sessionMap 5 = some x ∧ s.connOf x = 0 := by
  obtain ⟨s, hr, hquiet, hfd⟩ := exists_of_greeting
  obtain ⟨hbacklog, hall⟩ := delivered_at_rest hr hquiet
  obtain ⟨hpeer, x, hlt, hmap, hconn, -⟩ := hall 5 0 hfd
  exact ⟨s, hr, hbacklog, hpeer, x, hlt, hmap, hconn⟩

/-- What has been dispatched for a session is what lies completely in what was read. -/
theorem splits_of_run {l : List Label} {s : State}
    (hr : Transition.run EventLoop.step .init l = some s) {x : SessionRef}
    (hx : x < s.manager.created) {msgs : List Message} (hfits : ∀ m ∈ msgs, m.Fits)
    (hstream : (s.socket (s.connOf x)).arrived <+: msgs.flatMap Message.packet) :
    ∃ n rest, Splits Message.packet msgs (s.chunks (s.connOf x)).flatten n rest ∧
      s.calls x = (msgs.take n).map Message.dispatched := by
  obtain ⟨-, hbytes, hsessions⟩ := all_of_run hr
  obtain ⟨object, hreceives, -⟩ := hsessions.framed x hx
  exact splits_of_receives hfits ((hbytes.prefix_arrived (s.connOf x)).trans hstream) hreceives

/-- **No message is lost, doubled, or attributed to somebody else.** In every state and for
every session that was ever created: if what arrived at its connection is the beginning of a
stream of packets, then what has been dispatched for it are the first messages of that stream,
namely those that lie completely in what has been read; and when the loop waits for events and
the connection is still there, those that have arrived completely. -/
theorem dispatched_of_run {l : List Label} {s : State}
    (hr : Transition.run EventLoop.step .init l = some s) {x : SessionRef}
    (hx : x < s.manager.created) {msgs : List Message} (hfits : ∀ m ∈ msgs, m.Fits)
    (hstream : (s.socket (s.connOf x)).arrived <+: msgs.flatMap Message.packet) :
    ∃ n rest, Splits Message.packet msgs (s.chunks (s.connOf x)).flatten n rest ∧
      s.calls x = (msgs.take n).map Message.dispatched ∧
      (s.chunks (s.connOf x)).flatten <+: (s.socket (s.connOf x)).arrived ∧
      (Quiet s → (∃ fd, s.fdTable fd = some (s.connOf x)) →
        (s.chunks (s.connOf x)).flatten = (s.socket (s.connOf x)).arrived) := by
  obtain ⟨-, hbytes, -⟩ := all_of_run hr
  obtain ⟨n, rest, hsplit, hcalls⟩ := splits_of_run hr hx hfits hstream
  refine ⟨n, rest, hsplit, hcalls, hbytes.prefix_arrived (s.connOf x), ?_⟩
  rintro hquiet ⟨fd, hfd⟩
  exact arrived_eq_of_quiet hr hquiet hfd

/-- The request is dispatched once. -/
theorem greeting_dispatched : ∃ s, Transition.run EventLoop.step .init greeting = some s ∧
    ∃ n rest, Splits Message.packet [⟨1030, []⟩] (s.chunks (s.connOf 0)).flatten n rest ∧
      s.calls 0 = (([⟨1030, []⟩] : List Message).take n).map Message.dispatched := by
  have heval : (Transition.run EventLoop.step .init greeting).map
      (fun s => (s.manager.created, (s.socket (s.connOf 0)).arrived)) =
        some (1, Message.packet ⟨1030, []⟩) := by
    decide +kernel
  obtain ⟨s, hr, hs⟩ := Option.map_eq_some_iff.mp heval
  simp only [Prod.mk.injEq] at hs
  obtain ⟨n, rest, hsplit, hcalls, -⟩ :=
    dispatched_of_run hr (x := 0) (by rw [hs.1]; exact Nat.one_pos)
      (show ∀ m ∈ ([⟨1030, []⟩] : List Message), m.Fits by simp [Message.Fits, PacketHeader.size])
      (by rw [hs.2]; exact List.prefix_rfl)
  exact ⟨s, hr, n, rest, hsplit, hcalls⟩

end EventLoop

end ItsBedalyo
