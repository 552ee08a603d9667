import ItsBedalyo.Network.EventLoop

/-!
# The event loop is an edge-triggered consumer

The sources of the event loop are the listening socket and the registered connections, and the
steps of the thread are steps of a consumer of their edges (`refines`). So a loop that is back in
`epoll_wait` with nothing on the ready list has read every open connection to its end and, unless
an `accept` has failed, has accepted every client.
-/

namespace ItsBedalyo

namespace EventLoop

open SessionManager Server PacketFramer

namespace State

/-- The source an event is about: the connection that has its descriptor. -/
def source (s : State) : Event → Source
  | .server => none
  | .client fd => s.fdTable fd

/-- The source the thread is emptying. -/
def current (s : State) : Option Source :=
  match s.phase with
  | .accepting _ | .accepted _ _ => some none
  | .reading fd _ => some (s.fdTable fd)
  | .handling _ | .stopped => none

/-- What is pending at a source. -/
def level (s : State) : Source → ℕ
  | none => s.backlog.length
  | some conn => if (s.interest conn).isSome then (s.socket conn).pending else 0

/-- The loop as a consumer of edges. Only the listening socket is ever abandoned. -/
def consumer (s : State) : EdgeTriggered.State Source :=
  { level := s.level
    edges := s.ready
    abandoned := if s.refused then {none} else ∅
    batch := s.phase.todo.map s.source
    current := s.current }

end State

/-- A connection is never abandoned. -/
theorem notMem_abandoned (s : State) (conn : Conn) : some conn ∉ s.consumer.abandoned := by
  unfold State.consumer
  split_ifs <;> simp

/-- The tables of the kernel agree: an item reports the descriptor under which its connection is
filed, and everything that is about to be looked at has an item. -/
structure Tables (s : State) : Prop where
  registered : ∀ conn fd, s.interest conn = some fd → s.fdTable fd = some conn
  opened : ∀ fd conn, s.fdTable fd = some conn →
    s.interest conn = some fd ∨ ∃ events, s.phase = .accepted fd events
  accepted : ∀ fd events, s.phase = .accepted fd events →
    ∃ conn, s.fdTable fd = some conn ∧ s.interest conn = none
  injective : ∀ fd fd' conn, s.fdTable fd = some conn → s.fdTable fd' = some conn → fd = fd'
  fdTable_lt : ∀ fd conn, s.fdTable fd = some conn → conn < s.conns
  fdTable_backlog : ∀ fd conn, s.fdTable fd = some conn → conn ∉ s.backlog
  backlog_lt : ∀ conn ∈ s.backlog, conn < s.conns
  backlog_nodup : s.backlog.Nodup
  ready : ∀ conn, some conn ∈ s.ready → (s.interest conn).isSome
  events : ∀ fd, .client fd ∈ s.phase.todo → ∃ conn, s.interest conn = some fd
  reading : ∀ fd events, s.phase = .reading fd events → ∃ conn, s.interest conn = some fd

theorem Tables.init : Tables .init := by
  constructor <;> simp [State.init, Phase.todo]

section Tables

variable {s : State} (h : Tables s)

include h

theorem Tables.interest_of_le {conn : Conn} (hle : s.conns ≤ conn) : s.interest conn = none := by
  cases hi : s.interest conn with
  | none => rfl
  | some fd => exact absurd (h.fdTable_lt fd conn (h.registered conn fd hi)) (Nat.not_lt.mpr hle)

theorem Tables.interest_of_backlog {conn : Conn} (hmem : conn ∈ s.backlog) :
    s.interest conn = none := by
  cases hi : s.interest conn with
  | none => rfl
  | some fd => exact absurd hmem (h.fdTable_backlog fd conn (h.registered conn fd hi))

/-- The item a client's event came from. -/
theorem Tables.source_report {i : Source} (hi : i ∈ s.ready) : s.source (s.report i) = i := by
  cases i with
  | none => rfl
  | some conn =>
    obtain ⟨fd, hfd⟩ := Option.isSome_iff_exists.mp (h.ready conn hi)
    simp only [State.report, State.source, hfd, Option.getD_some]
    exact h.registered conn fd hfd

/-- The connection that is being read has an item. -/
theorem Tables.interest_of_reading {fd : Fd} {conn : Conn} {events : List Event}
    (hphase : s.phase = .reading fd events) (hfd : s.fdTable fd = some conn) :
    s.interest conn = some fd := by
  obtain ⟨conn', hi⟩ := h.reading fd events hphase
  obtain rfl := Option.some.inj (hfd.symm.trans (h.registered conn' fd hi))
  exact hi

/-- The connection just accepted has none. -/
theorem Tables.interest_of_accepted {fd : Fd} {conn : Conn} {events : List Event}
    (hphase : s.phase = .accepted fd events) (hfd : s.fdTable fd = some conn) :
    s.interest conn = none := by
  obtain ⟨conn', hfd', hi⟩ := h.accepted fd events hphase
  obtain rfl := Option.some.inj (hfd.symm.trans hfd')
  exact hi

/-- The descriptors of the events left are in use. -/
theorem Tables.ne_of_free {fd fd' : Fd} (hfree : s.fdTable fd = none)
    (hmem : .client fd' ∈ s.phase.todo) : fd' ≠ fd := by
  rintro rfl
  obtain ⟨conn, hi⟩ := h.events fd' hmem
  cases hfree.symm.trans (h.registered conn fd' hi)

end Tables

/-! ### Every step as a step of the consumer -/

section Consumer

variable {s : State}

theorem consumer_connect (h : Tables s) :
    s.connect.consumer = s.consumer.arrive none 1 := by
  refine EdgeTriggered.State.ext (funext fun i => ?_) rfl ?_ rfl rfl
  · cases i with
    | none =>
      rw [EdgeTriggered.State.arrive_level_self]
      simp [State.consumer, State.level, State.connect]
    | some conn =>
      rw [EdgeTriggered.State.arrive_level_of_ne _ _ (by simp)]
      simp only [State.consumer, State.level, State.connect]
      by_cases hconn : conn = s.conns
      · simp [hconn, h.interest_of_le (Nat.le_refl _)]
      · rw [Function.update_of_ne hconn]
  · -- a connection that arrives wakes the listening socket up again
    simp only [State.consumer, State.connect, EdgeTriggered.State.arrive]
    cases s.refused <;> simp

theorem consumer_notify {conn : Conn} {socket : Socket} {n : ℕ}
    (hitem : (s.interest conn).isSome) (hmore : socket.pending = (s.socket conn).pending + n) :
    (s.notify conn socket).consumer = s.consumer.arrive (some conn) n := by
  refine EdgeTriggered.State.ext (funext fun i => ?_) ?_ ?_ rfl rfl
  · by_cases hi : i = some conn
    · rw [hi, EdgeTriggered.State.arrive_level_self]
      simp [State.consumer, State.level, State.notify, hitem, hmore]
    · rw [EdgeTriggered.State.arrive_level_of_ne _ _ hi]
      cases i with
      | none => rfl
      | some conn' =>
        have hne : conn' ≠ conn := fun hc => hi (hc ▸ rfl)
        simp [State.consumer, State.level, State.notify, hne]
  · simp [State.consumer, State.notify, EdgeTriggered.State.arrive, hitem]
  · exact (Finset.erase_eq_of_notMem (notMem_abandoned s conn)).symm

theorem consumer_notify_of_none {conn : Conn} {socket : Socket} (hitem : s.interest conn = none) :
    (s.notify conn socket).consumer = s.consumer := by
  refine EdgeTriggered.State.ext (funext fun i => ?_) ?_ rfl rfl rfl
  · cases i with
    | none => rfl
    | some conn' =>
      by_cases hc : conn' = conn
      · simp [State.consumer, State.level, State.notify, hc, hitem]
      · simp [State.consumer, State.level, State.notify, hc]
  · simp [State.consumer, State.notify, hitem]

theorem consumer_wait (h : Tables s) (hphase : s.phase = .handling []) {sources : List Source}
    (hsub : ∀ i ∈ sources, i ∈ s.ready) :
    (s.wait sources).consumer = s.consumer.collect sources := by
  refine EdgeTriggered.State.ext rfl rfl rfl ?_ ?_
  · simp only [State.consumer, State.wait, Phase.todo, EdgeTriggered.State.collect, List.map_map]
    refine (List.map_congr_left fun i hi => ?_).trans (List.map_id _)
    exact h.source_report (hsub i hi)
  · simp [State.consumer, State.wait, State.current, EdgeTriggered.State.collect, hphase]

theorem consumer_accept (h : Tables s) {fd : Fd} {conn : Conn} {backlog : List Conn}
    {events : List Event} (hphase : s.phase = .accepting events)
    (hbacklog : s.backlog = conn :: backlog) (hfd : s.fdTable fd = none) :
    (s.accept fd conn backlog events).consumer = s.consumer.take none 1 := by
  refine EdgeTriggered.State.ext (funext fun i => ?_) rfl rfl ?_ ?_
  · cases i with
    | none =>
      rw [EdgeTriggered.State.take_level_self]
      simp [State.consumer, State.level, State.accept, hbacklog]
    | some conn' =>
      rw [EdgeTriggered.State.take_level_of_ne _ _ (by simp)]
      rfl
  · -- a free descriptor is in no event of this round
    simp only [State.consumer, State.accept, EdgeTriggered.State.take, hphase, Phase.todo]
    refine List.map_congr_left fun event hevent => ?_
    cases event with
    | server => rfl
    | client fd' =>
      have hne : fd' ≠ fd := h.ne_of_free hfd (by rw [hphase]; exact hevent)
      simp only [State.source, Function.update_of_ne hne]
  · simp [State.consumer, State.current, State.accept, EdgeTriggered.State.take, hphase]

theorem consumer_register (h : Tables s) {fd : Fd} {conn : Conn} {events : List Event}
    (hphase : s.phase = .accepted fd events) (hfd : s.fdTable fd = some conn)
    (hpending : 0 < (s.socket conn).pending) :
    (s.register fd conn events).consumer =
      s.consumer.arrive (some conn) (s.socket conn).pending := by
  have hnone := h.interest_of_accepted hphase hfd
  refine EdgeTriggered.State.ext (funext fun i => ?_) ?_ ?_ ?_ ?_
  · by_cases hi : i = some conn
    · rw [hi, EdgeTriggered.State.arrive_level_self]
      simp [State.consumer, State.level, State.register, hnone]
    · rw [EdgeTriggered.State.arrive_level_of_ne _ _ hi]
      cases i with
      | none => rfl
      | some conn' =>
        have hne : conn' ≠ conn := fun hc => hi (hc ▸ rfl)
        simp [State.consumer, State.level, State.register, hne]
  · simp [State.consumer, State.register, EdgeTriggered.State.arrive, hpending]
  · exact (Finset.erase_eq_of_notMem (notMem_abandoned s conn)).symm
  · simp only [State.consumer, State.register, EdgeTriggered.State.arrive, hphase]
    rfl
  · simp [State.consumer, State.current, State.register, EdgeTriggered.State.arrive, hphase]

theorem consumer_register_of_zero (h : Tables s) {fd : Fd} {conn : Conn} {events : List Event}
    (hphase : s.phase = .accepted fd events) (hfd : s.fdTable fd = some conn)
    (hpending : (s.socket conn).pending = 0) :
    (s.register fd conn events).consumer = s.consumer := by
  have hnone := h.interest_of_accepted hphase hfd
  refine EdgeTriggered.State.ext (funext fun i => ?_) ?_ rfl ?_ ?_
  · cases i with
    | none => rfl
    | some conn' =>
      by_cases hc : conn' = conn
      · simp [State.consumer, State.level, State.register, hc, hpending]
      · simp [State.consumer, State.level, State.register, hc]
  · simp [State.consumer, State.register, hpending]
  · simp only [State.consumer, State.register, hphase]
    rfl
  · simp [State.consumer, State.current, State.register, hphase]

/-- The thread turns to the next event. -/
theorem consumer_handling {events : List Event} (htodo : s.phase.todo = events) :
    State.consumer { s with phase := .handling events } = { s.consumer with current := none } := by
  refine EdgeTriggered.State.ext rfl rfl rfl ?_ rfl
  simp only [State.consumer, htodo]
  rfl

theorem consumer_stopped (hphase : s.phase = .handling []) :
    State.consumer { s with phase := .stopped } = s.consumer := by
  refine EdgeTriggered.State.ext rfl rfl rfl ?_ ?_
  · simp [State.consumer, hphase, Phase.todo]
  · simp [State.consumer, State.current, hphase]

theorem consumer_acceptFails {events : List Event} (hphase : s.phase = .accepting events) :
    State.consumer { s with phase := .handling events, refused := true } =
      s.consumer.abandon none := by
  refine EdgeTriggered.State.ext rfl rfl ?_ ?_ rfl
  · simp only [State.consumer, EdgeTriggered.State.abandon]
    cases s.refused <;> simp
  · simp only [State.consumer, EdgeTriggered.State.abandon, hphase]
    rfl

/-- What is read is taken from the source at hand, whatever the framer makes of it. -/
theorem consumer_take (h : Tables s) {fd : Fd} {conn : Conn} {events : List Event} {n : ℕ}
    (hphase : s.phase = .reading fd events) (hfd : s.fdTable fd = some conn)
    (hle : n ≤ (s.socket conn).unread.length) :
    (s.take conn n).consumer = s.consumer.take (some conn) n := by
  have hitem := h.interest_of_reading hphase hfd
  refine EdgeTriggered.State.ext (funext fun i => ?_) rfl rfl rfl rfl
  by_cases hi : i = some conn
  · rw [hi, EdgeTriggered.State.take_level_self]
    simp only [State.consumer, State.level, State.take, hitem, Option.isSome_some, if_true,
      Function.update_self, Socket.pending, Socket.take, List.length_drop]
    omega
  · rw [EdgeTriggered.State.take_level_of_ne _ _ hi]
    cases i with
    | none => rfl
    | some conn' =>
      have hne : conn' ≠ conn := fun hc => hi (hc ▸ rfl)
      simp [State.consumer, State.level, State.take, hne]

theorem consumer_disconnect (hnotify : EdgeTriggered.Inv s.consumer) {fd : Fd}
    {conn : Conn} {events : List Event} (hphase : s.phase = .reading fd events)
    (hfd : s.fdTable fd = some conn) :
    (s.disconnect fd conn events).consumer = s.consumer.drop (some conn) := by
  refine EdgeTriggered.State.ext (funext fun i => ?_) rfl rfl ?_ rfl
  · by_cases hi : i = some conn
    · rw [hi, EdgeTriggered.State.drop_level_self]
      simp [State.consumer, State.level, State.disconnect]
    · rw [EdgeTriggered.State.drop_level_of_ne _ hi]
      cases i with
      | none => rfl
      | some conn' =>
        have hne : conn' ≠ conn := fun hc => hi (hc ▸ rfl)
        simp [State.consumer, State.level, State.disconnect, hne]
  · -- the source at hand is not in the batch, so its descriptor is in no event left
    simp only [State.consumer, State.disconnect, EdgeTriggered.State.drop, hphase, Phase.todo]
    refine List.map_congr_left fun event hevent => ?_
    cases event with
    | server => rfl
    | client fd' =>
      have hne : fd' ≠ fd := by
        rintro rfl
        refine hnotify.current_notMem (some conn) ?_ ?_
        · simp [State.consumer, State.current, hphase, hfd]
        · simp only [State.consumer, hphase, Phase.todo, List.mem_map]
          exact ⟨.client fd', hevent, hfd⟩
      simp only [State.source, Function.update_of_ne hne]

end Consumer

/-! ### The invariant -/

/-- The tables agree, and whatever is pending will be looked at. -/
structure Inv (s : State) : Prop where
  tables : Tables s
  notify : EdgeTriggered.Inv s.consumer

theorem consumer_init : State.init.consumer = .init := by
  refine EdgeTriggered.State.ext (funext fun i => ?_) rfl rfl rfl rfl
  cases i <;> simp [State.consumer, State.level, State.init, EdgeTriggered.State.init]

theorem Inv.init : Inv .init := ⟨.init, consumer_init ▸ .init⟩

/-- The steps of the thread that are steps of the consumer. -/
def Label.Moves : Label → Prop
  | .wait _ | .next | .accept _ | .acceptAgain | .acceptFails | .read _ _ | .readAgain | .readEof
  | .readFails => True
  | _ => False

section Step

variable {s s' : State} {a : Label}

theorem exists_own_of_take (h : Inv s) {fd : Fd} {conn : Conn} {events : List Event} {n : ℕ}
    (hphase : s.phase = .reading fd events) (hfd : s.fdTable fd = some conn) (hn : 0 < n)
    (hle : n ≤ (s.socket conn).unread.length) : ∃ b : EdgeTriggered.Label Source, b.Own ∧
      EdgeTriggered.step s.consumer b = some (s.take conn n).consumer := by
  have hitem := h.tables.interest_of_reading hphase hfd
  refine ⟨.take n, trivial, ?_⟩
  rw [consumer_take h.tables hphase hfd hle]
  refine EdgeTriggered.step_eq_some_iff.mpr (.take ?_ hn ?_)
  · simp [State.consumer, State.current, hphase, hfd]
  · simp only [State.consumer, State.level, hitem, Option.isSome_some, if_true, Socket.pending]
    omega

theorem exists_own_of_disconnect (h : Inv s) {fd : Fd} {conn : Conn} {events : List Event}
    (hphase : s.phase = .reading fd events) (hfd : s.fdTable fd = some conn) :
    ∃ b : EdgeTriggered.Label Source, b.Own ∧
      EdgeTriggered.step s.consumer b = some (s.disconnect fd conn events).consumer := by
  refine ⟨.drop, trivial, ?_⟩
  rw [consumer_disconnect h.notify hphase hfd]
  refine EdgeTriggered.step_eq_some_iff.mpr (.drop ?_)
  simp [State.consumer, State.current, hphase, hfd]

theorem exists_own_of_moves (h : Inv s) (hs : step s a = some s') (ha : a.Moves) :
    ∃ b : EdgeTriggered.Label Source, b.Own ∧
      EdgeTriggered.step s.consumer b = some s'.consumer := by
  cases effect_of_step hs with
  | connect => exact ha.elim
  | arrive _ _ => exact ha.elim
  | hangup _ => exact ha.elim
  | worker _ _ => exact ha.elim
  | @wait sources hphase hne hnodup _ hsub =>
    refine ⟨.collect sources, trivial, ?_⟩
    rw [consumer_wait h.tables hphase hsub]
    refine EdgeTriggered.step_eq_some_iff.mpr (.collect ?_ ?_ hne hnodup hsub)
    · simp [State.consumer, State.current, hphase]
    · simp [State.consumer, hphase, Phase.todo]
  | waitFails _ => exact ha.elim
  | @nextServer events hphase =>
    refine ⟨.next, trivial, EdgeTriggered.step_eq_some_iff.mpr ?_⟩
    refine EdgeTriggered.Effect.next (i := none) ?_ ?_
    · simp [State.consumer, State.current, hphase]
    · simp [State.consumer, hphase, Phase.todo, State.source]
  | @nextClient fd events hphase =>
    refine ⟨.next, trivial, EdgeTriggered.step_eq_some_iff.mpr ?_⟩
    refine EdgeTriggered.Effect.next (i := s.fdTable fd) ?_ ?_
    · simp [State.consumer, State.current, hphase]
    · simp [State.consumer, hphase, Phase.todo, State.source]
  | accept hphase hbacklog hfd =>
    refine ⟨.take 1, trivial, ?_⟩
    rw [consumer_accept h.tables hphase hbacklog hfd]
    refine EdgeTriggered.step_eq_some_iff.mpr (.take ?_ Nat.one_pos ?_)
    · simp [State.consumer, State.current, hphase]
    · simp [State.consumer, State.level, hbacklog]
  | register _ _ => exact ha.elim
  | acceptAgain hphase hbacklog =>
    refine ⟨.drained, trivial, ?_⟩
    rw [consumer_handling (by rw [hphase]; rfl)]
    refine EdgeTriggered.step_eq_some_iff.mpr (.drained (i := none) ?_ ?_)
    · simp [State.consumer, State.current, hphase]
    · simp [State.consumer, State.level, hbacklog]
  | acceptFails hphase =>
    refine ⟨.abandon, trivial, ?_⟩
    rw [consumer_acceptFails hphase]
    refine EdgeTriggered.step_eq_some_iff.mpr (.abandon ?_)
    simp [State.consumer, State.current, hphase]
  | read hphase hfd hn _ hle _ _ =>
    exact exists_own_of_take h hphase hfd hn hle
  | readLost hphase hfd hn _ hle _ =>
    exact exists_own_of_take h hphase hfd hn hle
  | @readAgain fd conn events hphase hfd hunread hpeer =>
    refine ⟨.drained, trivial, ?_⟩
    rw [consumer_handling (by rw [hphase]; rfl)]
    refine EdgeTriggered.step_eq_some_iff.mpr (.drained (i := some conn) ?_ ?_)
    · simp [State.consumer, State.current, hphase, hfd]
    · simp [State.consumer, State.level, Socket.pending, hunread, hpeer]
  | readEof hphase hfd _ _ => exact exists_own_of_disconnect h hphase hfd
  | readFails hphase hfd => exact exists_own_of_disconnect h hphase hfd

/-- The other steps are arrivals, or none of the consumer's business. -/
theorem arrive_of_not_moves (h : Inv s) (hs : step s a = some s') (ha : ¬a.Moves) :
    s'.consumer = s.consumer ∨ ∃ i n, 0 < n ∧ s'.consumer = s.consumer.arrive i n := by
  cases effect_of_step hs with
  | connect => exact .inr ⟨none, 1, Nat.one_pos, consumer_connect h.tables⟩
  | @arrive conn data hne _ =>
    cases hitem : s.interest conn with
    | none => exact .inl (consumer_notify_of_none hitem)
    | some fd =>
      refine .inr ⟨some conn, data.length, List.length_pos_of_ne_nil hne, ?_⟩
      exact consumer_notify (by simp [hitem]) (Socket.pending_receive _ _)
  | @hangup conn hpeer =>
    cases hitem : s.interest conn with
    | none => exact .inl (consumer_notify_of_none hitem)
    | some fd =>
      refine .inr ⟨some conn, 1, Nat.one_pos, ?_⟩
      exact consumer_notify (by simp [hitem]) (Socket.pending_finish hpeer)
  | worker _ _ => exact .inl rfl
  | wait _ _ _ _ _ => exact (ha trivial).elim
  | waitFails hphase => exact .inl (consumer_stopped hphase)
  | nextServer _ => exact (ha trivial).elim
  | nextClient _ => exact (ha trivial).elim
  | accept _ _ _ => exact (ha trivial).elim
  | @register fd conn events hphase hfd =>
    rcases Nat.eq_zero_or_pos (s.socket conn).pending with hzero | hpos
    · exact .inl (consumer_register_of_zero h.tables hphase hfd hzero)
    · exact .inr ⟨some conn, _, hpos, consumer_register h.tables hphase hfd hpos⟩
  | acceptAgain _ _ => exact (ha trivial).elim
  | acceptFails _ => exact (ha trivial).elim
  | read _ _ _ _ _ _ _ => exact (ha trivial).elim
  | readLost _ _ _ _ _ _ => exact (ha trivial).elim
  | readAgain _ _ _ _ => exact (ha trivial).elim
  | readEof _ _ _ _ => exact (ha trivial).elim
  | readFails _ _ => exact (ha trivial).elim

/-- **Refinement.** A step of the server is a step of the consumer, or does not concern it. -/
theorem refines (h : Inv s) (hs : step s a = some s') : s'.consumer = s.consumer ∨
    ∃ b, EdgeTriggered.step s.consumer b = some s'.consumer := by
  by_cases ha : a.Moves
  · obtain ⟨b, -, hb⟩ := exists_own_of_moves h hs ha
    exact .inr ⟨b, hb⟩
  · rcases arrive_of_not_moves h hs ha with heq | ⟨i, n, hn, heq⟩
    · exact .inl heq
    · refine .inr ⟨.arrive i n, ?_⟩
      rw [heq]
      exact EdgeTriggered.step_eq_some_iff.mpr (.arrive hn)

end Step

/-- What leaves descriptors, items and the backlog alone keeps the tables in agreement. -/
theorem Tables.frame {s s' : State} (h : Tables s) (hfd : s'.fdTable = s.fdTable)
    (hinterest : s'.interest = s.interest) (hbacklog : s'.backlog = s.backlog)
    (hconns : s'.conns = s.conns)
    (hready : ∀ conn, some conn ∈ s'.ready → (s.interest conn).isSome)
    (haccepted : ∀ fd events, s'.phase = .accepted fd events ↔ s.phase = .accepted fd events)
    (hevents : ∀ fd, .client fd ∈ s'.phase.todo → ∃ conn, s.interest conn = some fd)
    (hreading : ∀ fd events, s'.phase = .reading fd events → ∃ conn, s.interest conn = some fd) :
    Tables s' := by
  constructor
  all_goals simp only [hfd, hinterest, hbacklog, hconns, haccepted]
  exacts [h.registered, h.opened, h.accepted, h.injective, h.fdTable_lt, h.fdTable_backlog,
    h.backlog_lt, h.backlog_nodup, hready, hevents, hreading]

section Step

variable {s s' : State} {a : Label}

theorem Tables.connect (h : Tables s) : Tables s.connect := by
  have hlt : ∀ fd conn, s.fdTable fd = some conn → conn ≠ s.conns :=
    fun fd conn hfd => Nat.ne_of_lt (h.fdTable_lt fd conn hfd)
  have hfresh : s.conns ∉ s.backlog := fun hmem => Nat.lt_irrefl _ (h.backlog_lt _ hmem)
  refine
    { h with
      fdTable_lt := fun fd conn hfd => Nat.lt_succ_of_lt (h.fdTable_lt fd conn hfd)
      fdTable_backlog := fun fd conn hfd => ?_
      backlog_lt := fun conn hmem => ?_
      backlog_nodup := List.nodup_append.mpr ⟨h.backlog_nodup, List.nodup_singleton _, ?_⟩
      ready := fun conn hmem => h.ready conn (by simpa [State.connect] using hmem) }
  · simp only [State.connect, List.mem_append, List.mem_singleton, not_or]
    exact ⟨h.fdTable_backlog fd conn hfd, hlt fd conn hfd⟩
  · rcases List.mem_append.mp hmem with hmem | hmem
    · exact Nat.lt_succ_of_lt (h.backlog_lt conn hmem)
    · obtain rfl := List.mem_singleton.mp hmem
      exact Nat.lt_succ_self _
  · rintro conn hmem conn' hmem' rfl
    obtain rfl := List.mem_singleton.mp hmem'
    exact hfresh hmem

theorem Tables.notify (h : Tables s) (conn : Conn) (socket : Socket) :
    Tables (s.notify conn socket) := by
  refine h.frame rfl rfl rfl rfl (fun conn' hmem => ?_) (fun _ _ => Iff.rfl) h.events h.reading
  by_cases hitem : (s.interest conn).isSome
  · simp only [State.notify, hitem, if_true, Finset.mem_insert, Option.some.injEq] at hmem
    rcases hmem with rfl | hmem
    · exact hitem
    · exact h.ready conn' hmem
  · simp only [State.notify, hitem] at hmem
    exact h.ready conn' hmem

/-- The thread goes from one place to another without accepting a connection. -/
theorem Tables.setPhase (h : Tables s) {phase : Phase} (refused : Bool)
    (hold : ∀ fd events, s.phase ≠ .accepted fd events)
    (hnew : ∀ fd events, phase ≠ .accepted fd events)
    (htodo : ∀ event ∈ phase.todo, event ∈ s.phase.todo)
    (hreading : ∀ fd events, phase = .reading fd events → .client fd ∈ s.phase.todo) :
    Tables { s with phase, refused } := by
  refine h.frame rfl rfl rfl rfl h.ready (fun fd events => ?_) (fun fd hmem => ?_)
    fun fd events hphase => ?_
  · exact iff_of_false (hnew fd events) (hold fd events)
  · exact h.events fd (htodo _ hmem)
  · exact h.events fd (hreading fd events hphase)

theorem Tables.wait (h : Tables s) (hphase : s.phase = .handling []) {sources : List Source}
    (hsub : ∀ i ∈ sources, i ∈ s.ready) : Tables (s.wait sources) := by
  refine h.frame rfl rfl rfl rfl (fun conn hmem => ?_) (fun fd events => ?_) (fun fd hmem => ?_)
    fun fd events heq => ?_
  · exact h.ready conn (Finset.mem_sdiff.mp hmem).1
  · simp [State.wait, hphase]
  · -- an event carries the descriptor its item reports
    obtain ⟨i, hi, heq⟩ := List.mem_map.mp hmem
    cases i with
    | none => cases heq
    | some conn =>
      obtain ⟨fd', hfd'⟩ := Option.isSome_iff_exists.mp (h.ready conn (hsub _ hi))
      refine ⟨conn, ?_⟩
      simp only [State.report, hfd', Option.getD_some, Event.client.injEq] at heq
      rw [hfd', heq]
  · cases heq

theorem Tables.accept (h : Tables s) {fd : Fd} {conn : Conn} {backlog : List Conn}
    {events : List Event} (hphase : s.phase = .accepting events)
    (hbacklog : s.backlog = conn :: backlog) (hfree : s.fdTable fd = none) :
    Tables (s.accept fd conn backlog events) := by
  have hmem : conn ∈ s.backlog := by
    rw [hbacklog]
    exact List.mem_cons_self
  have hnone := h.interest_of_backlog hmem
  have hnodup := h.backlog_nodup
  rw [hbacklog, List.nodup_cons] at hnodup
  -- who is filed under a descriptor now
  have hcases : ∀ fd' conn', (s.accept fd conn backlog events).fdTable fd' = some conn' →
      (fd' = fd ∧ conn' = conn) ∨ (fd' ≠ fd ∧ s.fdTable fd' = some conn') := by
    intro fd' conn' hfd'
    simp only [State.accept, Function.update_apply] at hfd'
    split_ifs at hfd' with hfd
    · exact .inl ⟨hfd, (Option.some.inj hfd').symm⟩
    · exact .inr ⟨hfd, hfd'⟩
  have hother : ∀ fd', s.fdTable fd' ≠ some conn :=
    fun fd' hfd' => h.fdTable_backlog fd' conn hfd' hmem
  refine
    { registered := fun conn' fd' hitem => ?_
      opened := fun fd' conn' hfd' => ?_
      accepted := fun fd' events' heq => ?_
      injective := fun fd' fd'' conn' hfd' hfd'' => ?_
      fdTable_lt := fun fd' conn' hfd' => ?_
      fdTable_backlog := fun fd' conn' hfd' => ?_
      backlog_lt := fun conn' hmem' => h.backlog_lt conn' ?_
      backlog_nodup := hnodup.2
      ready := h.ready
      events := fun fd' hmem' => h.events fd' ?_
      reading := fun fd' events' heq => ?_ }
  · have hfd' := h.registered conn' fd' hitem
    have hne : fd' ≠ fd := by
      rintro rfl
      cases hfree.symm.trans hfd'
    simpa [State.accept, Function.update_of_ne hne] using hfd'
  · rcases hcases fd' conn' hfd' with ⟨rfl, rfl⟩ | ⟨-, hold⟩
    · exact .inr ⟨events, rfl⟩
    · refine .inl ((h.opened fd' conn' hold).resolve_right ?_)
      rintro ⟨events', hphase'⟩
      cases hphase.symm.trans hphase'
  · obtain ⟨rfl, rfl⟩ : fd = fd' ∧ events = events' := by simpa [State.accept] using heq
    exact ⟨conn, by simp [State.accept], hnone⟩
  · rcases hcases fd' conn' hfd' with ⟨rfl, rfl⟩ | ⟨-, hold⟩
    · rcases hcases fd'' conn' hfd'' with ⟨rfl, -⟩ | ⟨-, hold'⟩
      · rfl
      · exact absurd hold' (hother fd'')
    · rcases hcases fd'' conn' hfd'' with ⟨rfl, rfl⟩ | ⟨-, hold'⟩
      · exact absurd hold (hother fd')
      · exact h.injective fd' fd'' conn' hold hold'
  · rcases hcases fd' conn' hfd' with ⟨rfl, rfl⟩ | ⟨-, hold⟩
    · exact h.backlog_lt conn' hmem
    · exact h.fdTable_lt fd' conn' hold
  · rcases hcases fd' conn' hfd' with ⟨rfl, rfl⟩ | ⟨-, hold⟩
    · exact hnodup.1
    · intro hmem'
      refine h.fdTable_backlog fd' conn' hold ?_
      rw [hbacklog]
      exact List.mem_cons_of_mem _ hmem'
  · rw [hbacklog]
    exact List.mem_cons_of_mem _ hmem'
  · rw [hphase]
    exact hmem'
  · cases heq

theorem Tables.register (h : Tables s) {fd : Fd} {conn : Conn} {events : List Event}
    (hphase : s.phase = .accepted fd events) (hfd : s.fdTable fd = some conn) :
    Tables (s.register fd conn events) := by
  have hnone := h.interest_of_accepted hphase hfd
  -- no item of the interest list is lost
  have hkeep : ∀ conn' fd', s.interest conn' = some fd' →
      (s.register fd conn events).interest conn' = some fd' := by
    intro conn' fd' hitem
    have hne : conn' ≠ conn := by
      rintro rfl
      cases hnone.symm.trans hitem
    simpa [State.register, Function.update_of_ne hne] using hitem
  have hself : (s.register fd conn events).interest conn = some fd := by simp [State.register]
  refine
    { h with
      registered := fun conn' fd' hitem => ?_
      opened := fun fd' conn' hfd' => ?_
      accepted := fun fd' events' heq => ?_
      ready := fun conn' hmem => ?_
      events := fun fd' hmem => ?_
      reading := fun fd' events' heq => ?_ }
  · simp only [State.register, Function.update_apply] at hitem
    split_ifs at hitem with hc
    · obtain rfl := Option.some.inj hitem
      exact hc ▸ hfd
    · exact h.registered conn' fd' hitem
  · rcases h.opened fd' conn' hfd' with hitem | ⟨events', hphase'⟩
    · exact .inl (hkeep conn' fd' hitem)
    · obtain ⟨rfl, rfl⟩ : fd = fd' ∧ events = events' := by simpa using hphase.symm.trans hphase'
      obtain rfl := Option.some.inj (hfd.symm.trans hfd')
      exact .inl hself
  · cases heq
  · by_cases hc : conn' = conn
    · rw [hc, hself]
      rfl
    · have hmem' : some conn' ∈ s.ready := by
        simp only [State.register] at hmem
        split_ifs at hmem
        · simpa [hc] using hmem
        · exact hmem
      obtain ⟨fd', hfd'⟩ := Option.isSome_iff_exists.mp (h.ready conn' hmem')
      rw [hkeep conn' fd' hfd']
      rfl
  · obtain ⟨conn', hitem⟩ := h.events fd' (by rw [hphase]; exact hmem)
    exact ⟨conn', hkeep conn' fd' hitem⟩
  · cases heq

theorem Tables.take (h : Tables s) (conn : Conn) (n : ℕ) : Tables (s.take conn n) :=
  h.frame rfl rfl rfl rfl h.ready (fun _ _ => Iff.rfl) h.events h.reading

theorem Tables.dispatch (h : Tables s) (session : SessionRef) (calls : List Dispatch)
    (object : ClientSession) : Tables (s.dispatch session calls object) :=
  h.frame rfl rfl rfl rfl h.ready (fun _ _ => Iff.rfl) h.events h.reading

theorem Tables.disconnect (h : Tables s) (hnotify : EdgeTriggered.Inv s.consumer) {fd : Fd}
    {conn : Conn} {events : List Event} (hphase : s.phase = .reading fd events)
    (hfd : s.fdTable fd = some conn) : Tables (s.disconnect fd conn events) := by
  have hitem := h.interest_of_reading hphase hfd
  have hcases : ∀ fd' conn', (s.disconnect fd conn events).fdTable fd' = some conn' →
      fd' ≠ fd ∧ s.fdTable fd' = some conn' := by
    intro fd' conn' hfd'
    simp only [State.disconnect, Function.update_apply] at hfd'
    split_ifs at hfd' with hc
    exact ⟨hc, hfd'⟩
  have hitems : ∀ conn' fd', (s.disconnect fd conn events).interest conn' = some fd' ↔
      conn' ≠ conn ∧ s.interest conn' = some fd' := by
    intro conn' fd'
    by_cases hc : conn' = conn
    · simp [State.disconnect, hc]
    · simp [State.disconnect, hc]
  refine
    { registered := fun conn' fd' hitem' => ?_
      opened := fun fd' conn' hfd' => ?_
      accepted := fun fd' events' heq => ?_
      injective := fun fd' fd'' conn' hfd' hfd'' =>
        h.injective fd' fd'' conn' (hcases fd' conn' hfd').2 (hcases fd'' conn' hfd'').2
      fdTable_lt := fun fd' conn' hfd' => h.fdTable_lt fd' conn' (hcases fd' conn' hfd').2
      fdTable_backlog := fun fd' conn' hfd' =>
        h.fdTable_backlog fd' conn' (hcases fd' conn' hfd').2
      backlog_lt := h.backlog_lt
      backlog_nodup := h.backlog_nodup
      ready := fun conn' hmem => ?_
      events := fun fd' hmem => ?_
      reading := fun fd' events' heq => ?_ }
  · obtain ⟨hc, hold⟩ := (hitems conn' fd').mp hitem'
    have hne : fd' ≠ fd := by
      rintro rfl
      exact hc (Option.some.inj ((h.registered conn' fd' hold).symm.trans hfd))
    simpa [State.disconnect, Function.update_of_ne hne] using h.registered conn' fd' hold
  · obtain ⟨hne, hold⟩ := hcases fd' conn' hfd'
    have hc : conn' ≠ conn := by
      rintro rfl
      exact hne (h.injective fd' fd conn' hold hfd)
    refine .inl ((hitems conn' fd').mpr ⟨hc, (h.opened fd' conn' hold).resolve_right ?_⟩)
    rintro ⟨events', hphase'⟩
    cases hphase.symm.trans hphase'
  · cases heq
  · obtain ⟨hc, hmem'⟩ := Finset.mem_erase.mp hmem
    obtain ⟨fd', hfd'⟩ := Option.isSome_iff_exists.mp (h.ready conn' hmem')
    rw [(hitems conn' fd').mpr ⟨fun heq => hc (heq ▸ rfl), hfd'⟩]
    rfl
  · -- no event that is left is about the connection that goes
    obtain ⟨conn', hitem'⟩ := h.events fd' (by rw [hphase]; exact hmem)
    refine ⟨conn', (hitems conn' fd').mpr ⟨?_, hitem'⟩⟩
    rintro rfl
    obtain rfl := Option.some.inj (hitem.symm.trans hitem')
    refine hnotify.current_notMem (some conn') ?_ ?_
    · simp [State.consumer, State.current, hphase, hfd]
    · simp only [State.consumer, hphase, Phase.todo, List.mem_map]
      exact ⟨.client fd, hmem, hfd⟩
  · cases heq

theorem Tables.step (h : Inv s) (hs : step s a = some s') : Tables s' := by
  cases effect_of_step hs with
  | connect => exact h.tables.connect
  | arrive _ _ => exact h.tables.notify _ _
  | hangup _ => exact h.tables.notify _ _
  | worker _ _ =>
    exact h.tables.frame rfl rfl rfl rfl h.tables.ready (fun _ _ => Iff.rfl) h.tables.events
      h.tables.reading
  | wait hphase _ _ _ hsub => exact h.tables.wait hphase hsub
  | waitFails hphase =>
    exact h.tables.setPhase s.refused (by simp [hphase]) (by simp) (by simp [Phase.todo])
      (by simp)
  | nextServer hphase =>
    exact h.tables.setPhase s.refused (by simp [hphase]) (by simp)
      (by simp +contextual [hphase, Phase.todo]) (by simp)
  | nextClient hphase =>
    exact h.tables.setPhase s.refused (by simp [hphase]) (by simp)
      (by simp +contextual [hphase, Phase.todo]) (by simp +contextual [hphase, Phase.todo])
  | accept hphase hbacklog hfree => exact h.tables.accept hphase hbacklog hfree
  | register hphase hfd => exact h.tables.register hphase hfd
  | acceptAgain hphase _ =>
    exact h.tables.setPhase s.refused (by simp [hphase]) (by simp) (by simp [hphase, Phase.todo])
      (by simp)
  | acceptFails hphase =>
    exact h.tables.setPhase true (by simp [hphase]) (by simp) (by simp [hphase, Phase.todo])
      (by simp)
  | read _ _ _ _ _ _ _ => exact (h.tables.take _ _).dispatch _ _ _
  | readLost _ _ _ _ _ _ => exact h.tables.take _ _
  | readAgain hphase _ _ _ =>
    exact h.tables.setPhase s.refused (by simp [hphase]) (by simp) (by simp [hphase, Phase.todo])
      (by simp)
  | readEof hphase hfd _ _ => exact h.tables.disconnect h.notify hphase hfd
  | readFails hphase hfd => exact h.tables.disconnect h.notify hphase hfd

theorem Inv.step (h : Inv s) (hs : EventLoop.step s a = some s') : Inv s' := by
  refine ⟨Tables.step h hs, ?_⟩
  rcases refines h hs with heq | ⟨b, hb⟩
  · rw [heq]
    exact h.notify
  · exact h.notify.step hb

theorem inv_of_run {l : List Label} (hr : Transition.run EventLoop.step .init l = some s) :
    Inv s :=
  Transition.invariant_run (fun _ _ _ h hs => h.step hs) .init hr

end Step

end EventLoop

end ItsBedalyo
