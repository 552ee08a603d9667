import ItsBedalyo.Network.EventDelivery
import Mathlib.Data.Set.Finite.Lattice

/-!
# The network thread comes back to `epoll_wait`

While no client connects, sends or hangs up, the thread has a bounded number of steps to take
(`remaining`), however the workers go on in between. It can stop only where it should, in
`epoll_wait` with nothing ready, or in a call of `onReceiveData` that never returns; and no such
call happens as long as the clients send packets (`settles`).
-/

namespace ItsBedalyo

open StreamDecoder

namespace PacketFramer

/-- The last chunk of a reception. -/
theorem Receives.of_concat {session s₂ : ClientSession} {chunks : List (List Byte)}
    {chunk : List Byte} {calls : List Dispatch}
    (h : Receives session (chunks ++ [chunk]) calls s₂) :
    ∃ calls₁ s₁ fuel calls₂, Receives session chunks calls₁ s₁ ∧
      onReceiveData fuel s₁ chunk = some (calls₂, s₂) := by
  induction chunks generalizing session calls with
  | nil =>
    cases h with
    | cons hd ht =>
      cases ht
      exact ⟨[], session, _, _, .nil, hd⟩
  | cons c chunks ih =>
    cases h with
    | cons hd ht =>
      obtain ⟨calls₁, s₁, fuel, calls₂, hr, hlast⟩ := ih ht
      exact ⟨_, s₁, fuel, calls₂, .cons hd hr, hlast⟩

/-- As long as packets arrive, the framer returns. -/
theorem returns_of_stream {msgs : List Message} (hfits : ∀ m ∈ msgs, m.Fits) {fd : Fd}
    {chunks : List (List Byte)} {chunk : List Byte}
    (hstream : (chunks ++ [chunk]).flatten <+: msgs.flatMap Message.packet)
    {calls : List Dispatch} {framed session : ClientSession}
    (h : Receives (.new fd) chunks calls framed)
    (hbuffer : framed.readBuffer = session.readBuffer) :
    ∃ fuel, (onReceiveData fuel session chunk).isSome := by
  obtain ⟨calls', rest, hfeeds⟩ := exists_feeds length_lt_of_peel (chunks ++ [chunk])
  obtain ⟨calls₁, s₁, fuel, calls₂, hr, hlast⟩ :=
    (receives_of_feeds hfits fd hfeeds hstream).of_concat
  obtain ⟨-, rfl⟩ := h.unique hr
  have happend : (session.appendToReadBuffer chunk).readBuffer =
      (framed.appendToReadBuffer chunk).readBuffer := congrArg (· ++ chunk) hbuffer.symm
  refine ⟨fuel, ?_⟩
  rw [onReceiveData, processBuffer_congr happend hlast]
  rfl

end PacketFramer

namespace EventLoop

open SessionManager Server PacketFramer

/-- The clients' steps. -/
def Label.fromClient : Label → Bool
  | .connect | .arrive _ _ | .hangup _ => true
  | _ => false

/-- The steps of the network thread. -/
def Label.ofThread : Label → Bool
  | .connect | .arrive _ _ | .hangup _ | .worker _ _ => false
  | _ => true

/-- A system call fails with an error of its own. -/
def Label.fails : Label → Bool
  | .waitFails | .acceptFails | .readFails => true
  | _ => false

/-! ### How much there is left to do -/

/-- What accepting the clients in the backlog will take. -/
def State.backlogWork (s : State) : ℕ :=
  (s.backlog.map fun conn => (s.socket conn).pending + 5).sum

/-- What registering the client just accepted will take. -/
def State.acceptedWork (s : State) : ℕ :=
  match s.phase with
  | .accepted fd _ => (s.fdTable fd).elim 0 fun conn => (s.socket conn).pending + 4
  | _ => 0

/-- How many steps the thread can still take. -/
def State.remaining (s : State) : ℕ :=
  s.consumer.work + s.backlogWork + s.acceptedWork + if s.phase = .stopped then 0 else 1

section Remaining

variable {s s' : State} {a : Label}

/-- What is read or closed is not in the backlog. -/
theorem backlogWork_congr (hbacklog : s'.backlog = s.backlog)
    (hsocket : ∀ conn ∈ s.backlog, s'.socket conn = s.socket conn) :
    s'.backlogWork = s.backlogWork := by
  rw [State.backlogWork, State.backlogWork, hbacklog]
  refine congrArg List.sum (List.map_congr_left fun conn hmem => ?_)
  rw [hsocket conn hmem]

theorem acceptedWork_eq_zero (h : ∀ fd events, s.phase ≠ .accepted fd events) :
    s.acceptedWork = 0 := by
  unfold State.acceptedWork
  split
  · next fd events hphase => exact absurd hphase (h fd events)
  · rfl

/-- A step of the consumer that leaves the backlog alone. -/
theorem remaining_lt_of_moves (h : Inv s) (hs : step s a = some s') (ha : a.Moves)
    (hbacklog : s'.backlog = s.backlog)
    (hsocket : ∀ conn ∈ s.backlog, s'.socket conn = s.socket conn)
    (haccepted : ∀ fd events, s'.phase ≠ .accepted fd events) (hrunning : s.phase ≠ .stopped) :
    s'.remaining < s.remaining := by
  obtain ⟨b, hown, hb⟩ := exists_own_of_moves h hs ha
  have hwork := EdgeTriggered.work_lt_of_own hb hown
  have hbacklogWork := backlogWork_congr hbacklog hsocket
  have hacceptedWork := acceptedWork_eq_zero haccepted
  rw [State.remaining, State.remaining, hbacklogWork, hacceptedWork, if_neg hrunning]
  have hlast : (if s'.phase = .stopped then 0 else 1) ≤ 1 := by split_ifs <;> omega
  omega

/-- A connection that is read is not in the backlog. -/
theorem ne_of_backlog (h : Tables s) {fd : Fd} {conn : Conn} (hfd : s.fdTable fd = some conn) :
    ∀ c ∈ s.backlog, c ≠ conn := by
  rintro c hmem rfl
  exact h.fdTable_backlog fd c hfd hmem

theorem remaining_accept (h : Inv s) {fd : Fd} {conn : Conn} {backlog : List Conn}
    {events : List Event} (hs : step s (.accept fd) = some (s.accept fd conn backlog events))
    (hphase : s.phase = .accepting events) (hbacklog : s.backlog = conn :: backlog) :
    (s.accept fd conn backlog events).remaining < s.remaining := by
  obtain ⟨b, hown, hb⟩ := exists_own_of_moves h hs trivial
  have hwork := EdgeTriggered.work_lt_of_own hb hown
  have hbefore : s.backlogWork = ((s.socket conn).pending + 5) +
      (s.accept fd conn backlog events).backlogWork := by
    rw [State.backlogWork, hbacklog]
    rfl
  have hafter : (s.accept fd conn backlog events).acceptedWork = (s.socket conn).pending + 4 := by
    simp [State.acceptedWork, State.accept]
  have hnone : s.acceptedWork = 0 := acceptedWork_eq_zero (by simp [hphase])
  rw [State.remaining, State.remaining, hbefore, hafter, hnone]
  simp only [hphase, reduceCtorEq, if_false, State.accept]
  simp only [State.accept] at hwork
  omega

theorem remaining_register (h : Inv s) {fd : Fd} {conn : Conn} {events : List Event}
    (hphase : s.phase = .accepted fd events) (hfd : s.fdTable fd = some conn) :
    (s.register fd conn events).remaining < s.remaining := by
  have hnone := h.tables.interest_of_accepted hphase hfd
  have hbefore : s.acceptedWork = (s.socket conn).pending + 4 := by
    simp [State.acceptedWork, hphase, hfd]
  have hafter : (s.register fd conn events).acceptedWork = 0 :=
    acceptedWork_eq_zero (by simp [State.register])
  have hbacklog : (s.register fd conn events).backlogWork = s.backlogWork := rfl
  have hwork : (s.register fd conn events).consumer.work ≤
      s.consumer.work + ((s.socket conn).pending + 3) := by
    rcases Nat.eq_zero_or_pos (s.socket conn).pending with hzero | hpos
    · rw [consumer_register_of_zero h.tables hphase hfd hzero]
      exact Nat.le_add_right _ _
    · -- nobody looks at a connection that has no item yet
      have hlevel : s.consumer.level (some conn) = 0 := by
        simp [State.consumer, State.level, hnone]
      rw [consumer_register h.tables hphase hfd hpos, EdgeTriggered.work_arrive, hlevel]
      · omega
      · intro hmem
        have hitem := h.tables.ready conn hmem
        rw [hnone] at hitem
        cases hitem
      · intro hmem
        obtain ⟨event, hevent, hsource⟩ := List.mem_map.mp hmem
        cases event with
        | server => cases hsource
        | client fd' =>
          obtain ⟨conn', hitem⟩ := h.tables.events fd' hevent
          have hfd' := h.tables.registered conn' fd' hitem
          obtain rfl : conn' = conn := Option.some.inj (hfd'.symm.trans hsource)
          cases hnone.symm.trans hitem
      · simp [State.consumer, State.current, hphase]
  rw [State.remaining, State.remaining, hbefore, hafter, hbacklog]
  simp only [hphase, reduceCtorEq, if_false, State.register]
  simp only [State.register] at hwork
  omega

/-- **Every step of the thread is progress.** -/
theorem remaining_lt (h : Inv s) (hs : step s a = some s') (ha : a.ofThread = true) :
    s'.remaining < s.remaining := by
  cases effect_of_step hs with
  | connect => cases ha
  | arrive _ _ => cases ha
  | hangup _ => cases ha
  | worker _ _ => cases ha
  | wait hphase _ _ _ _ =>
    exact remaining_lt_of_moves h hs trivial rfl (fun _ _ => rfl) (by simp [State.wait])
      (by simp [hphase])
  | waitFails hphase =>
    have hstopped : State.acceptedWork { s with phase := .stopped } = 0 := rfl
    have hbefore : s.acceptedWork = 0 := acceptedWork_eq_zero (by simp [hphase])
    rw [State.remaining, State.remaining, consumer_stopped hphase, hstopped, hbefore]
    simp [hphase, State.backlogWork]
  | nextServer hphase =>
    exact remaining_lt_of_moves h hs trivial rfl (fun _ _ => rfl) (by simp) (by simp [hphase])
  | nextClient hphase =>
    exact remaining_lt_of_moves h hs trivial rfl (fun _ _ => rfl) (by simp) (by simp [hphase])
  | accept hphase hbacklog _ => exact remaining_accept h hs hphase hbacklog
  | register hphase hfd => exact remaining_register h hphase hfd
  | acceptAgain hphase _ =>
    exact remaining_lt_of_moves h hs trivial rfl (fun _ _ => rfl) (by simp) (by simp [hphase])
  | acceptFails hphase =>
    exact remaining_lt_of_moves h hs trivial rfl (fun _ _ => rfl) (by simp) (by simp [hphase])
  | read hphase hfd _ _ _ _ _ =>
    refine remaining_lt_of_moves h hs trivial rfl (fun c hmem => ?_) ?_ (by simp [hphase])
    · exact Function.update_of_ne (ne_of_backlog h.tables hfd c hmem) ..
    · simp [State.dispatch, State.take, hphase]
  | readLost hphase hfd _ _ _ _ =>
    refine remaining_lt_of_moves h hs trivial rfl (fun c hmem => ?_) ?_ (by simp [hphase])
    · exact Function.update_of_ne (ne_of_backlog h.tables hfd c hmem) ..
    · simp [State.take, hphase]
  | readAgain hphase _ _ _ =>
    exact remaining_lt_of_moves h hs trivial rfl (fun _ _ => rfl) (by simp) (by simp [hphase])
  | readEof hphase hfd _ _ =>
    refine remaining_lt_of_moves h hs trivial rfl (fun c hmem => ?_) (by simp [State.disconnect])
      (by simp [hphase])
    exact Function.update_of_ne (ne_of_backlog h.tables hfd c hmem) ..
  | readFails hphase hfd =>
    refine remaining_lt_of_moves h hs trivial rfl (fun c hmem => ?_) (by simp [State.disconnect])
      (by simp [hphase])
    exact Function.update_of_ne (ne_of_backlog h.tables hfd c hmem) ..

/-- The workers do not add to it. -/
theorem remaining_eq (hs : step s a = some s') (hclient : a.fromClient = false)
    (ha : a.ofThread = false) : s'.remaining = s.remaining := by
  cases effect_of_step hs with
  | connect => cases hclient
  | arrive _ _ => cases hclient
  | hangup _ => cases hclient
  | worker _ _ => rfl
  | wait _ _ _ _ _ => cases ha
  | waitFails _ => cases ha
  | nextServer _ => cases ha
  | nextClient _ => cases ha
  | accept _ _ _ => cases ha
  | register _ _ => cases ha
  | acceptAgain _ _ => cases ha
  | acceptFails _ => cases ha
  | read _ _ _ _ _ _ _ => cases ha
  | readLost _ _ _ _ _ _ => cases ha
  | readAgain _ _ _ _ => cases ha
  | readEof _ _ _ _ => cases ha
  | readFails _ _ => cases ha

/-- **Bounded work.** While the clients are silent the thread takes no more steps than
`remaining` says. -/
theorem countP_ofThread_le {l : List Label} (h : Inv s)
    (hr : Transition.run step s l = some s') (hsilent : ∀ a ∈ l, a.fromClient = false) :
    l.countP Label.ofThread + s'.remaining ≤ s.remaining := by
  induction l generalizing s with
  | nil =>
    obtain rfl := Option.some.inj hr
    simp
  | cons a l ih =>
    obtain ⟨s₁, hs, hr⟩ := Transition.run_cons_eq_some.mp hr
    have hrest := ih (h.step hs) hr fun b hb => hsilent b (List.mem_cons_of_mem _ hb)
    cases ha : a.ofThread with
    | true =>
      have hlt := remaining_lt h hs ha
      rw [List.countP_cons_of_pos ha]
      omega
    | false =>
      have heq := remaining_eq hs (hsilent a List.mem_cons_self) ha
      rw [List.countP_cons_of_neg (by simp [ha])]
      omega

end Remaining

/-! ### Where the thread can stop -/

/-- The thread reads a client whose bytes it never gets back from. -/
def Diverging (s : State) : Prop :=
  ∃ fd events conn x, s.phase = .reading fd events ∧ s.fdTable fd = some conn ∧
    s.manager.sessionMap fd = some x ∧ (s.socket conn).unread ≠ [] ∧
      ∀ n fuel, 0 < n → n ≤ bufferSize → n ≤ (s.socket conn).unread.length →
        onReceiveData fuel (s.manager.object x) ((s.socket conn).unread.take n) = none

/-- The kernel always has a free descriptor. -/
theorem exists_free {s : State} (h : Tables s) : ∃ fd, s.fdTable fd = none := by
  by_contra hnone
  have hall : ∀ fd, ∃ conn, s.fdTable fd = some conn := fun fd =>
    Option.ne_none_iff_exists'.mp fun hfd => hnone ⟨fd, hfd⟩
  choose conn hconn using hall
  have hinjective : Function.Injective conn := fun fd fd' heq =>
    h.injective fd fd' (conn fd) (hconn fd) (heq ▸ hconn fd')
  have hlt : ∀ fd, conn fd ∈ {c | c < s.conns} := fun fd => h.fdTable_lt fd (conn fd) (hconn fd)
  exact Set.infinite_of_injective_forall_mem hinjective hlt (Set.finite_lt_nat s.conns)

/-- **Progress.** Unless the loop has ended, waits with nothing ready, or is in a call that never
returns, the thread has a step to take, and without any system call failing. -/
theorem exists_step {s : State} (htables : Tables s) (hsessions : Sessions s)
    (hquiet : ¬Quiet s) (hstopped : s.phase ≠ .stopped) (hdiverging : ¬Diverging s) :
    ∃ a s', a.ofThread = true ∧ a.fails = false ∧ step s a = some s' := by
  cases hphase : s.phase with
  | handling events =>
    cases events with
    | nil =>
      obtain ⟨i, hi⟩ := Finset.nonempty_iff_ne_empty.mpr fun hready => hquiet ⟨hphase, hready⟩
      refine ⟨.wait [i], s.wait [i], rfl, rfl, ?_⟩
      simp [step, hphase, hi, maxEvents]
    | cons event events =>
      cases event with
      | server =>
        refine ⟨.next, { s with phase := .accepting events }, rfl, rfl, ?_⟩
        simp [step, hphase]
      | client fd =>
        refine ⟨.next, { s with phase := .reading fd events }, rfl, rfl, ?_⟩
        simp [step, hphase]
  | accepting events =>
    cases hbacklog : s.backlog with
    | nil =>
      refine ⟨.acceptAgain, { s with phase := .handling events }, rfl, rfl, ?_⟩
      simp [step, hphase, hbacklog]
    | cons conn backlog =>
      obtain ⟨fd, hfd⟩ := exists_free htables
      refine ⟨.accept fd, s.accept fd conn backlog events, rfl, rfl, ?_⟩
      simp [step, hphase, hbacklog, hfd]
  | accepted fd events =>
    obtain ⟨conn, hfd, -⟩ := htables.accepted fd events hphase
    exact ⟨.register, s.register fd conn events, rfl, rfl, by simp [step, hphase, hfd]⟩
  | reading fd events =>
    obtain ⟨conn, hitem⟩ := htables.reading fd events hphase
    have hfd := htables.registered conn fd hitem
    obtain ⟨x, -, hmap, -⟩ := hsessions.seated conn fd hitem
    by_cases hunread : (s.socket conn).unread = []
    · by_cases hpeer : (s.socket conn).peer = .finished
      · refine ⟨.readEof, s.disconnect fd conn events, rfl, rfl, ?_⟩
        simp [step, hphase, hfd, hunread, hpeer]
      · refine ⟨.readAgain, { s with phase := .handling events }, rfl, rfl, ?_⟩
        simp [step, hphase, hfd, hunread, hpeer]
    · -- some read can be passed on, since the framer returns for some length
      by_contra hnot
      refine hdiverging ⟨fd, events, conn, x, hphase, hfd, hmap, hunread, ?_⟩
      intro n fuel hn hsize hle
      by_contra hsome
      obtain ⟨⟨calls, object⟩, hcalls⟩ := Option.ne_none_iff_exists'.mp hsome
      refine hnot ⟨.read n fuel, (s.take conn n).dispatch x calls object, rfl, rfl, ?_⟩
      simp [step, hphase, hfd, hn, hsize, hle, getSession, hmap, hcalls]
  | stopped => exact absurd hphase hstopped

/-- Clients that send packets do not get the thread stuck. -/
theorem not_diverging {s : State} (htables : Tables s) (hbytes : Bytes s) (hsessions : Sessions s)
    (hpackets : ∀ fd conn, s.fdTable fd = some conn → ∃ msgs : List Message,
      (∀ m ∈ msgs, m.Fits) ∧ (s.socket conn).arrived <+: msgs.flatMap Message.packet) :
    ¬Diverging s := by
  rintro ⟨fd, events, conn, x, hphase, hfd, hmap, hunread, hnone⟩
  obtain ⟨msgs, hfits, hstream⟩ := hpackets fd conn hfd
  obtain ⟨y, hlt, hmap', rfl⟩ := hsessions.of_reading htables hphase hfd
  obtain rfl := Option.some.inj (hmap.symm.trans hmap')
  obtain ⟨framed, hreceives, hbuffer⟩ := hsessions.framed x hlt
  have hpos : 0 < (s.socket (s.connOf x)).unread.length := List.length_pos_of_ne_nil hunread
  -- reading one byte already gives a chunk of the stream
  have hbegin : (s.chunks (s.connOf x) ++ [(s.socket (s.connOf x)).unread.take 1]).flatten <+:
      msgs.flatMap Message.packet := by
    refine List.IsPrefix.trans ?_ hstream
    rw [← hbytes.append_unread (s.connOf x) (hbytes.opened fd _ hfd), List.flatten_append,
      List.prefix_append_right_inj]
    simpa using List.take_prefix 1 (s.socket (s.connOf x)).unread
  obtain ⟨fuel, hfuel⟩ := returns_of_stream hfits hbegin hreceives hbuffer
  rw [hnone 1 fuel Nat.one_pos (by decide) hpos] at hfuel
  cases hfuel

/-- Where the thread cannot go on. -/
theorem stopped_or_quiet_or_diverging {l : List Label} {s : State}
    (hr : Transition.run EventLoop.step .init l = some s)
    (hstuck : ∀ a s', a.ofThread = true → a.fails = false → step s a ≠ some s') :
    s.phase = .stopped ∨ Quiet s ∨ Diverging s ∧
      ∃ fd conn, s.fdTable fd = some conn ∧ ∀ msgs : List Message,
        (∀ m ∈ msgs, m.Fits) → ¬(s.socket conn).arrived <+: msgs.flatMap Message.packet := by
  obtain ⟨hinv, hbytes, hsessions⟩ := all_of_run hr
  by_cases hstopped : s.phase = .stopped
  · exact .inl hstopped
  by_cases hquiet : Quiet s
  · exact .inr (.inl hquiet)
  by_cases hdiverging : Diverging s
  · refine .inr (.inr ⟨hdiverging, ?_⟩)
    by_contra hnot
    refine not_diverging hinv.tables hbytes hsessions (fun fd conn hfd => ?_) hdiverging
    by_contra hnone
    refine hnot ⟨fd, conn, hfd, fun msgs hfits hstream => hnone ⟨msgs, hfits, hstream⟩⟩
  · obtain ⟨a, s', hthread, hfails, hs⟩ :=
      exists_step hinv.tables hsessions hquiet hstopped hdiverging
    exact absurd hs (hstuck a s' hthread hfails)

/-- **The thread settles.** From every state of every run, while the clients are silent, the
thread takes at most `remaining` steps, in any order with the workers, and it comes to a stop
only where the loop has ended, where it waits for events and no item is ready, or in a call of
`onReceiveData` that never returns; the last does not happen if every client that is connected
sends packets. -/
theorem settles {l : List Label} {s : State}
    (hr : Transition.run EventLoop.step .init l = some s) {l' : List Label} {s' : State}
    (hr' : Transition.run EventLoop.step s l' = some s')
    (hsilent : ∀ a ∈ l', a.fromClient = false) :
    l'.countP Label.ofThread ≤ s.remaining ∧
      ((∀ a s'', a.ofThread = true → a.fails = false → step s' a ≠ some s'') →
        s'.phase = .stopped ∨ Quiet s' ∨ Diverging s' ∧
          ∃ fd conn, s'.fdTable fd = some conn ∧ ∀ msgs : List Message,
            (∀ m ∈ msgs, m.Fits) → ¬(s'.socket conn).arrived <+: msgs.flatMap Message.packet) := by
  have hbound := countP_ofThread_le (inv_of_run hr) hr' hsilent
  refine ⟨Nat.le_of_add_right_le hbound, fun hstuck => ?_⟩
  exact stopped_or_quiet_or_diverging (Transition.run_append_of_eq_some hr hr') hstuck

/-- Accepting the client of the greeting. -/
theorem greeting_settles : ∃ s s', Transition.run EventLoop.step .init (greeting.take 2) = some s ∧
    Transition.run EventLoop.step s ((greeting.drop 2).take 5) = some s' ∧ 5 ≤ s.remaining := by
  have heval : (Transition.run EventLoop.step .init
      (greeting.take 2 ++ (greeting.drop 2).take 5)).isSome := by
    decide +kernel
  obtain ⟨s', hr⟩ := Option.isSome_iff_exists.mp heval
  rw [Transition.run_append, Option.bind_eq_some_iff] at hr
  obtain ⟨s, hfirst, hrest⟩ := hr
  exact ⟨s, s', hfirst, hrest, (settles hfirst hrest (by decide)).1⟩

end EventLoop

end ItsBedalyo
