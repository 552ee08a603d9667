import ItsBedalyo.Handler.ChatHandler
import ItsBedalyo.Lib.Settling
import ItsBedalyo.Network.Quiescence
import ItsBedalyo.Thread.PoolTasks
import Mathlib.Algebra.BigOperators.Fin
import Mathlib.Data.Prod.Lex

/-!
# From the socket to the handler

The event loop, the framer, `Dispatcher::dispatch` and the thread pool together. A read may make
several calls of `dispatch`; each enqueues a task if the command has a handler, one after the
other, while the workers take tasks off the queue and run them. The pool is closed after
`ItsServer::run` has returned.

What holds of each part adds up to what a client may expect: the handlers are started for exactly
the requests of a connection, in the order in which they were sent (`started_of_run`), and the
server can stop only when every request that has arrived has been served (`served_of_stuck`).
-/

namespace ItsBedalyo

namespace CmdID

def REQ_HEARTBEAT : CmdID := 1000
def REQ_SIGNUP : CmdID := 1020
def REQ_AUTH_CHECK : CmdID := 1040
def REQ_PHONE_CHECK : CmdID := 1042
def REQ_BUISNESS_NUM_CHECK : CmdID := 2006
def REQ_ORDER_LIST : CmdID := 2050
def REQ_STORE_LIST : CmdID := 2000
def REQ_STORE_DETAIL : CmdID := 2002
def REQ_MENU_LIST : CmdID := 2010
def REQ_STORE_INFO_UPDATE : CmdID := 2102
def REQ_STORE_STATUS_SET : CmdID := 3030
def REQ_MENU_EDIT : CmdID := 3060
def REQ_MENU_SOLD_OUT : CmdID := 3050
def REQ_ORDER_REJECT : CmdID := 3010
def REQ_CHECKOUT_INFO : CmdID := 2026
def REQ_ORDER_CREATE : CmdID := 2020
def REQ_ORDER_ACCEPT : CmdID := 3000
def REQ_MENU_OPTION : CmdID := 2012
def REQ_CHANGE_ORDER_STATE : CmdID := 3022
def REQ_ORDER_HISTORY : CmdID := 2080
def REQ_ORDER_HISTORY_SEARCH : CmdID := 2082
def REQ_COOK_TIME_SET : CmdID := 3020
def REQ_PICKUP : CmdID := 4002
def REQ_ORDER_DETAIL : CmdID := 2086
def REQ_REVIEW_LIST : CmdID := 2014
def REQ_REVIEW_REPLY : CmdID := 3070
def REQ_SALES_STAT : CmdID := 3090
def REQ_MENU_REVIEW_LIST : CmdID := 2016
def REQ_ADDRESS_SAVE : CmdID := 2070
def REQ_ADDRESS_LIST : CmdID := 2072
def REQ_ADDRESS_DELETE : CmdID := 2074
def REQ_ADDRESS_UPDATE : CmdID := 2076
def REQ_ADDRESS_DEFAULT : CmdID := 2078
def REQ_RESEARCH_WIDGET : CmdID := 2108
def REQ_RESEARCH_ADD : CmdID := 2112
def REQ_RESEARCH_DELETE : CmdID := 2110
def REQ_RESEARCH_DEL_ALL : CmdID := 2114
def REQ_SEARCH_STORE : CmdID := 2116
def REQ_GRADE_UPDATE : CmdID := 2094
def REQ_CHAT_CONNECT : CmdID := 2090
def REQ_CHAT_SEND : CmdID := 2092
def REQ_CHAT_CLOSE : CmdID := 2098
def REQ_RIDER_ORDER_LIST : CmdID := 4020
def REQ_DELIVERY_COMPLETE : CmdID := 4010
def REQ_ADMIN_INIT : CmdID := 5090
def REQ_ADMIN_ORDER_LIST : CmdID := 5020
def REQ_CANCEL : CmdID := 5011

end CmdID

namespace Dispatcher

open CmdID

/-- The keys of `_handlerMap`. -/
def handlerKeys : List CmdID :=
  [REQ_HEARTBEAT, REQ_SIGNUP, REQ_LOGIN, REQ_LOGOUT, REQ_AUTH_CHECK, REQ_PHONE_CHECK,
   REQ_BUISNESS_NUM_CHECK, REQ_ORDER_LIST, REQ_STORE_LIST, REQ_STORE_DETAIL, REQ_MENU_LIST,
   REQ_STORE_INFO_UPDATE, REQ_STORE_STATUS_SET, REQ_MENU_EDIT, REQ_MENU_SOLD_OUT,
   REQ_ORDER_REJECT, REQ_CHECKOUT_INFO, REQ_ORDER_CREATE, REQ_ORDER_ACCEPT, REQ_MENU_OPTION,
   REQ_CHANGE_ORDER_STATE, REQ_ORDER_HISTORY, REQ_ORDER_HISTORY_SEARCH, REQ_COOK_TIME_SET,
   REQ_PICKUP, REQ_ORDER_DETAIL, REQ_REVIEW_LIST, REQ_REVIEW_REPLY, REQ_SALES_STAT,
   REQ_MENU_REVIEW_LIST, REQ_ADDRESS_SAVE, REQ_ADDRESS_LIST, REQ_ADDRESS_DELETE,
   REQ_ADDRESS_UPDATE, REQ_ADDRESS_DEFAULT, REQ_RESEARCH_WIDGET, REQ_RESEARCH_ADD,
   REQ_RESEARCH_DELETE, REQ_RESEARCH_DEL_ALL, REQ_SEARCH_STORE, REQ_GRADE_UPDATE,
   REQ_CHAT_CONNECT, REQ_CHAT_SEND, REQ_CHAT_CLOSE, REQ_RIDER_ORDER_LIST, REQ_DELIVERY_COMPLETE,
   REQ_ADMIN_INIT, REQ_ADMIN_ORDER_LIST, RES_REQUEST_OK, REQ_CANCEL]

end Dispatcher

namespace ThreadPool

variable {n : ℕ} {α : Type*}

/-! ### What the workers have left to do -/

/-- How many steps a worker can take on account of where it is. -/
def Phase.weight : Phase → ℕ
  | .ready => 1
  | .waiting => 0
  | .running _ => 2
  | .exited => 0

/-- How many steps the workers and the notifications can still take. -/
def State.weight (s : State n α) : ℕ :=
  3 * s.tasks.length + 3 * s.notifiers + ∑ w, (s.workers w).weight +
    if s.closer = .stopped then n + 1 else 0

/-- The actions of the workers, and the notifications. -/
def Action.works : Action n α → Bool
  | .notifyOne _ | .lock _ | .finish _ | .notifyAll => true
  | _ => false

section Weight

variable {s s' : State n α} {a : Action n α}

theorem sum_weight_update (workers : Fin n → Phase) (w : Fin n) (phase : Phase) :
    (∑ w', (Function.update workers w phase w').weight) + (workers w).weight =
      (∑ w', (workers w').weight) + phase.weight := by
  have hrest : ∀ w' ∈ Finset.univ.erase w,
      (Function.update workers w phase w').weight = (workers w').weight := by
    intro w' hw'
    rw [Function.update_of_ne (Finset.ne_of_mem_erase hw')]
  have hnew := Finset.add_sum_erase Finset.univ
    (fun w' => (Function.update workers w phase w').weight) (Finset.mem_univ w)
  have hold := Finset.add_sum_erase Finset.univ (fun w' => (workers w').weight)
    (Finset.mem_univ w)
  rw [Finset.sum_congr rfl hrest] at hnew
  simp only [Function.update_self] at hnew
  omega

theorem sum_weight_roused (s : State n α) :
    ∑ w, (s.roused w).weight ≤ (∑ w, (s.workers w).weight) + n := by
  have hle : ∀ w ∈ Finset.univ, (s.roused w).weight ≤ (s.workers w).weight + 1 := by
    intro w _
    unfold State.roused
    split_ifs with hw
    · rw [hw]
      exact Nat.le_refl _
    · exact Nat.le_succ _
  have hsum := Finset.sum_le_sum hle
  rw [Finset.sum_add_distrib] at hsum
  simpa using hsum

/-- A worker that moves on. -/
theorem weight_goto {s s' : State n α} {w : Fin n} {phase : Phase}
    (hworkers : s'.workers = Function.update s.workers w phase) (hcloser : s'.closer = s.closer)
    (hlt : 3 * s'.tasks.length + 3 * s'.notifiers + phase.weight <
      3 * s.tasks.length + 3 * s.notifiers + (s.workers w).weight) : s'.weight < s.weight := by
  have hsum := sum_weight_update s.workers w phase
  rw [State.weight, State.weight, hworkers, hcloser]
  omega

theorem weight_lt (hs : step s a = some s') (ha : a.works = true) : s'.weight < s.weight := by
  cases a with
  | push task => cases ha
  | notifyOne woken =>
    cases woken with
    | some w =>
      obtain ⟨⟨hpos, hw⟩, heq⟩ := Option.ite_none_right_eq_some.mp hs
      cases heq
      refine weight_goto rfl rfl ?_
      simp only [hw, Phase.weight, State.goto]
      omega
    | none =>
      obtain ⟨⟨hpos, -⟩, heq⟩ := Option.ite_none_right_eq_some.mp hs
      cases heq
      simp only [State.weight]
      omega
  | lock w =>
    obtain ⟨hw, heq⟩ := Option.ite_none_right_eq_some.mp hs
    cases heq
    unfold State.critical
    split
    · refine weight_goto rfl rfl ?_
      simp only [hw, Phase.weight, State.goto]
      omega
    · refine weight_goto rfl rfl ?_
      simp only [hw, Phase.weight, State.goto]
      omega
    · next task rest htasks =>
      refine weight_goto rfl rfl ?_
      simp only [hw, Phase.weight, State.goto, htasks, List.length_cons]
      omega
  | spurious w => cases ha
  | finish w =>
    simp only [step] at hs
    split at hs
    · next position hw =>
      cases hs
      refine weight_goto rfl rfl ?_
      simp only [hw, Phase.weight, State.goto]
      omega
    · cases hs
  | close => cases ha
  | notifyAll =>
    obtain ⟨hstopped, heq⟩ := Option.ite_none_right_eq_some.mp hs
    cases heq
    have hsum := sum_weight_roused s
    simp only [State.weight, hstopped, reduceCtorEq, if_true, if_false]
    omega
  | join => cases ha

theorem weight_join (hs : step s .join = some s') : s'.weight = s.weight := by
  simp only [step] at hs
  split at hs
  · next joined hcloser =>
    split_ifs at hs
    cases hs
    simp only [State.weight, hcloser, reduceCtorEq, if_false]
  · cases hs

/-- Only `close` sets `stop`. -/
theorem stop_of_step (hs : step s a = some s') (ha : a ≠ .close) : s'.stop = s.stop := by
  cases a with
  | push task =>
    obtain ⟨-, heq⟩ := Option.ite_none_left_eq_some.mp hs
    cases heq
    rfl
  | notifyOne woken =>
    cases woken with
    | some w =>
      obtain ⟨-, heq⟩ := Option.ite_none_right_eq_some.mp hs
      cases heq
      rfl
    | none =>
      obtain ⟨-, heq⟩ := Option.ite_none_right_eq_some.mp hs
      cases heq
      rfl
  | lock w =>
    obtain ⟨-, heq⟩ := Option.ite_none_right_eq_some.mp hs
    cases heq
    unfold State.critical
    split <;> rfl
  | spurious w =>
    obtain ⟨-, heq⟩ := Option.ite_none_right_eq_some.mp hs
    cases heq
    rfl
  | finish w =>
    simp only [step] at hs
    split at hs
    · cases hs
      rfl
    · cases hs
  | close => exact absurd rfl ha
  | notifyAll =>
    obtain ⟨-, heq⟩ := Option.ite_none_right_eq_some.mp hs
    cases heq
    rfl
  | join =>
    simp only [step] at hs
    split at hs
    · split_ifs at hs
      cases hs
      rfl
    · cases hs

/-- **A pool that is stuck is done.** -/
theorem drained_of_stuck (h : Inv s) (hstuck : ∀ a : Action n α, a.works = true → step s a = none) :
    s.started = s.enqueued ∧ ∀ i < s.enqueued.length, i ∈ s.finished := by
  have hready : ∀ w, s.workers w ≠ .ready := by
    intro w hw
    have hlock := hstuck (.lock w) rfl
    simp [step, hw] at hlock
  have hrunning : ∀ w i, s.workers w ≠ .running i := by
    intro w i hw
    have hfinish := hstuck (.finish w) rfl
    simp [step, hw] at hfinish
  have hall : ∀ w, s.workers w = .waiting ∨ s.workers w = .exited := by
    intro w
    cases hw : s.workers w with
    | ready => exact absurd hw (hready w)
    | waiting => exact .inl rfl
    | running i => exact absurd hw (hrunning w i)
    | exited => exact .inr rfl
  have hnotifiers : s.notifiers = 0 := by
    by_contra hpos
    have hpos : 0 < s.notifiers := Nat.pos_of_ne_zero hpos
    by_cases hsleeps : ∃ w, s.workers w = .waiting
    · obtain ⟨w, hw⟩ := hsleeps
      have hnotify := hstuck (.notifyOne (some w)) rfl
      simp [step, hpos, hw] at hnotify
    · have hnobody : ∀ w, s.workers w ≠ .waiting := fun w hw => hsleeps ⟨w, hw⟩
      have hnotify := hstuck (.notifyOne none) rfl
      simp [step, hpos, hnobody] at hnotify
  have hcloser : s.closer ≠ .stopped := by
    intro hstopped
    have hrouse := hstuck .notifyAll rfl
    simp [step, hstopped] at hrouse
  have htasks : s.tasks = [] := by
    by_contra hne
    rcases h.awake hne hall with hpending | hstopped
    · exact absurd hnotifiers (Nat.ne_of_gt hpending)
    · exact hcloser hstopped
  have horder : s.started = s.enqueued := by
    rw [← h.order, htasks, List.append_nil]
  refine ⟨horder, fun i hi => (h.ran i (horder ▸ hi)).resolve_right ?_⟩
  rintro ⟨w, hw⟩
  exact hrunning w i hw

end Weight

end ThreadPool

namespace Service

open Server EventLoop StreamDecoder

/-- What `dispatch` binds for the pool: the session, the key of the handler and the body. -/
structure Task where
  session : SessionRef
  cmdId : CmdID
  jsonBody : Option (List Byte)
  deriving DecidableEq

/-- The task of a call of `dispatch`, if the command has a handler. -/
def taskOf (call : SessionRef × Dispatch) : Option Task :=
  if call.2.header.cmdId ∈ Dispatcher.handlerKeys then
    some ⟨call.1, call.2.header.cmdId, call.2.jsonBody⟩
  else none

/-- The task of a message that has come in for a session. -/
def requestOf (session : SessionRef) (m : Message) : Option Task :=
  if m.cmdId ∈ Dispatcher.handlerKeys then some ⟨session, m.cmdId, some m.jsonBody⟩ else none

theorem taskOf_dispatched (session : SessionRef) (m : Message) :
    taskOf (session, m.dispatched) = requestOf session m := rfl

/-- The server; `calls` are the calls of `dispatch` that the framer still has to make of what has
been read. -/
structure State (n : ℕ) where
  loop : EventLoop.State
  pool : ThreadPool.State n Task
  calls : List (SessionRef × Dispatch)

/-- A step of the event loop or of its clients, a call of `dispatch`, or a step of the pool. -/
inductive Label (n : ℕ)
  | loop (a : EventLoop.Label)
  | dispatch
  | pool (a : ThreadPool.Action n Task)

/-- The actions of the pool that are not the network thread's. -/
def own {n : ℕ} : ThreadPool.Action n Task → Bool
  | .push _ => false
  | _ => true

variable {n : ℕ}

/-- The server after its constructors. -/
def State.init (n : ℕ) : State n := { loop := .init, pool := .init n Task, calls := [] }

/-- The step function. -/
def step (s : State n) : Label n → Option (State n)
  | .loop a =>
    -- the thread is in `processBuffer` until all calls have been made
    if a.ofThread = true ∧ s.calls ≠ [] then none
    else (EventLoop.step s.loop a).map fun loop =>
      { s with loop, calls := s.calls ++ loop.dispatched.drop s.loop.dispatched.length }
  | .dispatch =>
    match s.calls with
    | [] => none
    | call :: calls =>
      match taskOf call with
      | none => some { s with calls }
      | some task => (ThreadPool.step s.pool (.push task)).map fun pool => { s with pool, calls }
  | .pool .close =>
    if s.loop.phase = .stopped then
      (ThreadPool.step s.pool .close).map fun pool => { s with pool }
    else none
  | .pool a =>
    if own a then (ThreadPool.step s.pool a).map fun pool => { s with pool } else none

/-- What each step needs and does. -/
inductive Effect (s : State n) : Label n → State n → Prop
  | loop {a : EventLoop.Label} {loop : EventLoop.State} : (a.ofThread = true → s.calls = []) →
      EventLoop.step s.loop a = some loop →
      Effect s (.loop a)
        { s with loop, calls := s.calls ++ loop.dispatched.drop s.loop.dispatched.length }
  | unknown {call : SessionRef × Dispatch} {calls : List (SessionRef × Dispatch)} :
      s.calls = call :: calls → taskOf call = none → Effect s .dispatch { s with calls }
  | dispatch {call : SessionRef × Dispatch} {calls : List (SessionRef × Dispatch)} {task : Task}
      {pool : ThreadPool.State n Task} : s.calls = call :: calls → taskOf call = some task →
      ThreadPool.step s.pool (.push task) = some pool → Effect s .dispatch { s with pool, calls }
  | pool {a : ThreadPool.Action n Task} {pool : ThreadPool.State n Task} : own a = true →
      (a = .close → s.loop.phase = .stopped) → ThreadPool.step s.pool a = some pool →
      Effect s (.pool a) { s with pool }

theorem effect_of_step {s s' : State n} {a : Label n} (h : step s a = some s') :
    Effect s a s' := by
  cases a with
  | loop a =>
    obtain ⟨hcalls, hs⟩ := Option.ite_none_left_eq_some.mp h
    obtain ⟨loop, hloop, rfl⟩ := Option.map_eq_some_iff.mp hs
    refine .loop (fun ha => ?_) hloop
    by_contra hne
    exact hcalls ⟨ha, hne⟩
  | dispatch =>
    simp only [step] at h
    split at h
    · cases h
    · next call calls hcalls =>
      split at h
      · next hnone =>
        obtain rfl := Option.some.inj h
        exact .unknown hcalls hnone
      · next task htask =>
        obtain ⟨pool, hpool, rfl⟩ := Option.map_eq_some_iff.mp h
        exact .dispatch hcalls htask hpool
  | pool a =>
    cases a with
    | close =>
      obtain ⟨hstopped, hs⟩ := Option.ite_none_right_eq_some.mp h
      obtain ⟨pool, hpool, rfl⟩ := Option.map_eq_some_iff.mp hs
      exact .pool rfl (fun _ => hstopped) hpool
    | push task => cases h
    | _ =>
      obtain ⟨pool, hpool, rfl⟩ := Option.map_eq_some_iff.mp h
      exact .pool rfl (by simp) hpool

/-! ### The loop and the pool -/

/-- What has been dispatched stays dispatched, and only a read dispatches. -/
theorem dispatched_prefix {s s' : EventLoop.State} {a : EventLoop.Label}
    (hs : EventLoop.step s a = some s') : s.dispatched <+: s'.dispatched := by
  cases EventLoop.effect_of_step hs with
  | read _ _ _ _ _ _ _ => exact List.prefix_append _ _
  | readLost _ _ _ _ _ _ => exact List.prefix_rfl
  | connect => exact List.prefix_rfl
  | arrive _ _ => exact List.prefix_rfl
  | hangup _ => exact List.prefix_rfl
  | worker _ _ => exact List.prefix_rfl
  | wait _ _ _ _ _ => exact List.prefix_rfl
  | waitFails _ => exact List.prefix_rfl
  | nextServer _ => exact List.prefix_rfl
  | nextClient _ => exact List.prefix_rfl
  | accept _ _ _ => exact List.prefix_rfl
  | register _ _ => exact List.prefix_rfl
  | acceptAgain _ _ => exact List.prefix_rfl
  | acceptFails _ => exact List.prefix_rfl
  | readAgain _ _ _ _ => exact List.prefix_rfl
  | readEof _ _ _ _ => exact List.prefix_rfl
  | readFails _ _ => exact List.prefix_rfl

/-- A loop that has ended dispatches nothing more. -/
theorem stopped_of_step {s s' : EventLoop.State} {a : EventLoop.Label}
    (hs : EventLoop.step s a = some s') (hstopped : s.phase = .stopped) :
    s'.phase = .stopped ∧ s'.dispatched = s.dispatched := by
  cases EventLoop.effect_of_step hs with
  | connect => exact ⟨hstopped, rfl⟩
  | arrive _ _ => exact ⟨hstopped, rfl⟩
  | hangup _ => exact ⟨hstopped, rfl⟩
  | worker _ _ => exact ⟨hstopped, rfl⟩
  | wait hphase _ _ _ _ => cases hphase.symm.trans hstopped
  | waitFails hphase => cases hphase.symm.trans hstopped
  | nextServer hphase => cases hphase.symm.trans hstopped
  | nextClient hphase => cases hphase.symm.trans hstopped
  | accept hphase _ _ => cases hphase.symm.trans hstopped
  | register hphase _ => cases hphase.symm.trans hstopped
  | acceptAgain hphase _ => cases hphase.symm.trans hstopped
  | acceptFails hphase => cases hphase.symm.trans hstopped
  | read hphase _ _ _ _ _ _ => cases hphase.symm.trans hstopped
  | readLost hphase _ _ _ _ _ => cases hphase.symm.trans hstopped
  | readAgain hphase _ _ _ => cases hphase.symm.trans hstopped
  | readEof hphase _ _ _ => cases hphase.symm.trans hstopped
  | readFails hphase _ => cases hphase.symm.trans hstopped

/-- The loop ends in a step of the thread that dispatches nothing. -/
theorem ofThread_of_stopped {s s' : EventLoop.State} {a : EventLoop.Label}
    (hs : EventLoop.step s a = some s') (hstopped : s'.phase = .stopped)
    (hrunning : s.phase ≠ .stopped) : a.ofThread = true ∧ s'.dispatched = s.dispatched := by
  cases EventLoop.effect_of_step hs with
  | connect => exact absurd hstopped hrunning
  | arrive _ _ => exact absurd hstopped hrunning
  | hangup _ => exact absurd hstopped hrunning
  | worker _ _ => exact absurd hstopped hrunning
  | wait _ _ _ _ _ => cases hstopped
  | waitFails _ => exact ⟨rfl, rfl⟩
  | nextServer _ => cases hstopped
  | nextClient _ => cases hstopped
  | accept _ _ _ => cases hstopped
  | register _ _ => cases hstopped
  | acceptAgain _ _ => cases hstopped
  | acceptFails _ => cases hstopped
  | read hphase _ _ _ _ _ _ => cases hphase.symm.trans hstopped
  | readLost hphase _ _ _ _ _ => cases hphase.symm.trans hstopped
  | readAgain _ _ _ _ => cases hstopped
  | readEof _ _ _ _ => cases hstopped
  | readFails _ _ => cases hstopped

/-! ### What holds throughout -/

/-- The pool has been given what has been dispatched, except for the calls still to be made, and
is closed only after the loop has ended. -/
structure Inv (s : State n) : Prop where
  reached : ∃ l, Transition.run EventLoop.step .init l = some s.loop
  pool : ThreadPool.Inv s.pool
  flow : s.pool.enqueued ++ s.calls.filterMap taskOf = s.loop.dispatched.filterMap taskOf
  ended : s.loop.phase = .stopped → s.calls = []
  closed : s.pool.stop = true → s.loop.phase = .stopped

theorem Inv.init : Inv (.init n) :=
  ⟨⟨[], rfl⟩, .init, rfl, fun _ => rfl, fun h => by cases h⟩

section Steps

variable {s s' : State n}

theorem Inv.loop (h : Inv s) {a : EventLoop.Label} {loop : EventLoop.State}
    (hcalls : a.ofThread = true → s.calls = []) (hs : EventLoop.step s.loop a = some loop) :
    Inv { s with loop, calls := s.calls ++ loop.dispatched.drop s.loop.dispatched.length } := by
  obtain ⟨l, hl⟩ := h.reached
  obtain ⟨calls, hbegin⟩ := dispatched_prefix hs
  have hdrop : loop.dispatched.drop s.loop.dispatched.length = calls := by
    rw [← hbegin, List.drop_left]
  refine ⟨⟨l ++ [a], Transition.run_concat_eq_some.mpr ⟨s.loop, hl, hs⟩⟩, h.pool, ?_,
    fun hstopped => ?_, fun hstop => ?_⟩
  · show _ ++ List.filterMap taskOf (s.calls ++ _) = loop.dispatched.filterMap taskOf
    rw [hdrop, List.filterMap_append, ← List.append_assoc, h.flow, ← hbegin,
      List.filterMap_append]
  · -- nothing is dispatched in the step that ends the loop, and nothing after it
    have hbefore : s.calls = [] ∧ loop.dispatched = s.loop.dispatched := by
      by_cases hrunning : s.loop.phase = .stopped
      · exact ⟨h.ended hrunning, (stopped_of_step hs hrunning).2⟩
      · obtain ⟨hthread, hdispatched⟩ := ofThread_of_stopped hs hstopped hrunning
        exact ⟨hcalls hthread, hdispatched⟩
    rw [hbefore.1, hbefore.2, List.drop_length, List.append_nil]
  · exact (stopped_of_step hs (h.closed hstop)).1

theorem Inv.step (h : Inv s) (hn : 0 < n) {a : Label n} (hs : Service.step s a = some s') :
    Inv s' := by
  cases effect_of_step hs with
  | loop hcalls hloop => exact h.loop hcalls hloop
  | unknown hcalls hnone =>
    refine ⟨h.reached, h.pool, ?_, fun hstopped => ?_, h.closed⟩
    · have hflow := h.flow
      rwa [hcalls, List.filterMap_cons_none hnone] at hflow
    · cases hcalls.symm.trans (h.ended hstopped)
  | dispatch hcalls htask hpool =>
    have hstop := ThreadPool.stop_of_step hpool (fun heq => by cases heq)
    refine ⟨h.reached, h.pool.step hn hpool, ?_, fun hstopped => ?_, fun hstopped => ?_⟩
    · have hflow := h.flow
      rw [hcalls, List.filterMap_cons_some htask] at hflow
      cases ThreadPool.moved_of_step hpool with
      | pushed _ _ henqueued _ _ =>
        rw [henqueued, List.append_assoc]
        exact hflow
      | other _ hpush _ _ _ _ => exact absurd rfl (hpush _)
    · cases hcalls.symm.trans (h.ended hstopped)
    · exact h.closed (hstop ▸ hstopped)
  | @pool a pool hown hclose hpool =>
    have henqueued : pool.enqueued = s.pool.enqueued := by
      cases ThreadPool.moved_of_step hpool with
      | pushed _ _ _ _ _ => cases hown
      | taken _ _ _ _ henqueued _ _ => exact henqueued
      | finished _ _ _ _ henqueued _ _ => exact henqueued
      | other _ _ _ henqueued _ _ => exact henqueued
    refine ⟨h.reached, h.pool.step hn hpool, ?_, h.ended, fun hstopped => ?_⟩
    · rw [henqueued]
      exact h.flow
    · by_cases ha : a = .close
      · exact hclose ha
      · exact h.closed ((ThreadPool.stop_of_step hpool ha) ▸ hstopped)

end Steps

theorem inv_of_run (hn : 0 < n) {l : List (Label n)} {s : State n}
    (hr : Transition.run Service.step (.init n) l = some s) : Inv s :=
  Transition.invariant_run (fun _ _ _ h hs => h.step hn hs) .init hr

/-! ### What has been started -/

/-- The tasks of a session among those of all calls. -/
theorem filter_taskOf (loop : EventLoop.State) (x : SessionRef) :
    (loop.dispatched.filterMap taskOf).filter (fun task => task.session = x) =
      (loop.calls x).filterMap fun call => taskOf (x, call) := by
  rw [EventLoop.State.calls, List.filter_filterMap, List.filterMap_filterMap]
  refine List.filterMap_congr fun p _ => ?_
  obtain ⟨y, call⟩ := p
  unfold taskOf
  by_cases hy : y = x <;> by_cases hkey : call.header.cmdId ∈ Dispatcher.handlerKeys <;>
    simp [hy, hkey, Option.filter]

/-- Dispatched messages are requests. -/
theorem filterMap_dispatched (x : SessionRef) (msgs : List Message) :
    ((msgs.map Message.dispatched).filterMap fun call => taskOf (x, call)) =
      msgs.filterMap (requestOf x) := by
  rw [List.filterMap_map]
  exact List.filterMap_congr fun m _ => taskOf_dispatched x m

/-- **The requests of a connection are taken up in order.** In every state, what the workers have
been started with is the beginning of what has been dispatched; and if what has arrived at the
connection of a session is the beginning of a stream of packets, then what they have been started
with for this session is the beginning of the requests that have come in there completely: none
is left out, repeated, overtaken, or taken up for another session. -/
theorem started_of_run (hn : 0 < n) {l : List (Label n)} {s : State n}
    (hr : Transition.run Service.step (.init n) l = some s) :
    s.pool.started <+: s.loop.dispatched.filterMap taskOf ∧
      (∀ task ∈ s.pool.started, task.session < s.loop.manager.created) ∧
      ∀ x < s.loop.manager.created, ∀ msgs : List Message, (∀ m ∈ msgs, m.Fits) →
        (s.loop.socket (s.loop.connOf x)).arrived <+: msgs.flatMap Message.packet →
        ∃ k rest, Splits Message.packet msgs (s.loop.chunks (s.loop.connOf x)).flatten k rest ∧
          s.pool.started.filter (fun task => task.session = x) <+:
            (msgs.take k).filterMap (requestOf x) := by
  have h := inv_of_run hn hr
  obtain ⟨l', hl'⟩ := h.reached
  have hbegin : s.pool.started <+: s.loop.dispatched.filterMap taskOf :=
    ⟨s.pool.tasks ++ s.calls.filterMap taskOf, by rw [← List.append_assoc, h.pool.order, h.flow]⟩
  refine ⟨hbegin, fun task hmem => ?_, fun x hx msgs hfits hstream => ?_⟩
  · obtain ⟨p, hp, htask⟩ := List.mem_filterMap.mp (hbegin.subset hmem)
    have hlt := (EventLoop.all_of_run hl').2.2.dispatched_lt p hp
    obtain ⟨-, heq⟩ := Option.ite_none_right_eq_some.mp htask
    obtain rfl := Option.some.inj heq
    exact hlt
  · obtain ⟨k, rest, hsplit, hcalls⟩ := EventLoop.splits_of_run hl' hx hfits hstream
    refine ⟨k, rest, hsplit, ?_⟩
    have hfilter := hbegin.filter fun task => decide (task.session = x)
    rwa [filter_taskOf, hcalls, filterMap_dispatched] at hfilter

/-! ### What is served in the end -/

/-- The steps of the server's own: of the network thread, of the workers on the queue, and the
notifications. -/
def Label.serves : Label n → Bool
  | .loop a => a.ofThread
  | .dispatch => true
  | .pool a => a.works

/-- A system call of the network thread fails. -/
def Label.fails : Label n → Bool
  | .loop a => a.fails
  | _ => false

/-- What comes from elsewhere: the clients, a worker that wakes up without being notified, and
the end of `main`. -/
def Label.disturbs : Label n → Bool
  | .loop a => a.fromClient
  | .dispatch => false
  | .pool (.spurious _) | .pool .close => true
  | .pool _ => false

/-- The server has nothing to do, unless a system call fails. -/
def Stuck (s : State n) : Prop := ∀ a, a.serves = true → a.fails = false → step s a = none

/-- **Served.** The network thread has come to a stop where it may, all tasks have been taken up
and have returned, and if the thread waits for events, those of a connected client that sends
packets are the requests that have arrived completely. -/
structure Served (s : State n) : Prop where
  loop : s.loop.phase = .stopped ∨ Quiet s.loop ∨ Diverging s.loop ∧
    ∃ fd conn, s.loop.fdTable fd = some conn ∧ ∀ msgs : List Message, (∀ m ∈ msgs, m.Fits) →
      ¬(s.loop.socket conn).arrived <+: msgs.flatMap Message.packet
  started : s.pool.started = s.loop.dispatched.filterMap taskOf
  finished : ∀ i < s.pool.started.length, i ∈ s.pool.finished
  complete : Quiet s.loop → ∀ fd conn, s.loop.fdTable fd = some conn →
    ∃ x < s.loop.manager.created, s.loop.manager.sessionMap fd = some x ∧
      s.loop.connOf x = conn ∧ ∀ msgs : List Message, (∀ m ∈ msgs, m.Fits) →
        (s.loop.socket conn).arrived <+: msgs.flatMap Message.packet →
        ∃ k rest, Splits Message.packet msgs (s.loop.socket conn).arrived k rest ∧
          s.pool.started.filter (fun task => task.session = x) =
            (msgs.take k).filterMap (requestOf x)

/-- A server that is stuck has served everything. -/
theorem Inv.served {s : State n} (h : Inv s) (hstuck : Stuck s) : Served s := by
  obtain ⟨l, hl⟩ := h.reached
  have hpool : ∀ a : ThreadPool.Action n Task, a.works = true →
      ThreadPool.step s.pool a = none := by
    intro a ha
    have hnone := hstuck (.pool a) ha rfl
    cases a with
    | push task => cases ha
    | spurious w => cases ha
    | close => cases ha
    | join => cases ha
    | notifyOne woken => exact Option.map_eq_none_iff.mp hnone
    | lock w => exact Option.map_eq_none_iff.mp hnone
    | finish w => exact Option.map_eq_none_iff.mp hnone
    | notifyAll => exact Option.map_eq_none_iff.mp hnone
  have hcalls : s.calls = [] := by
    by_contra hne
    obtain ⟨call, calls, hcalls⟩ := List.exists_cons_of_ne_nil hne
    have hnone := hstuck .dispatch rfl rfl
    have hrunning : s.pool.stop = false := by
      refine Bool.eq_false_of_not_eq_true fun hstop => ?_
      exact hne (h.ended (h.closed hstop))
    cases htask : taskOf call <;>
      simp [Service.step, hcalls, htask, ThreadPool.step, hrunning] at hnone
  have hloop : ∀ a s'', a.ofThread = true → a.fails = false →
      EventLoop.step s.loop a ≠ some s'' := by
    intro a s'' hthread hfails hs
    have hnone := hstuck (.loop a) hthread hfails
    simp [Service.step, hcalls, hs] at hnone
  obtain ⟨hstarted, hfinished⟩ := ThreadPool.drained_of_stuck h.pool hpool
  have hall : s.pool.started = s.loop.dispatched.filterMap taskOf := by
    rw [hstarted, ← h.flow, hcalls, List.filterMap_nil, List.append_nil]
  refine ⟨stopped_or_quiet_or_diverging hl hloop, hall, hstarted ▸ hfinished,
    fun hquiet fd conn hfd => ?_⟩
  obtain ⟨x, hx, hmap, rfl⟩ := session_of_quiet hl hquiet hfd
  refine ⟨x, hx, hmap, rfl, fun msgs hfits hstream => ?_⟩
  obtain ⟨k, rest, hsplit, hdispatched⟩ := EventLoop.splits_of_run hl hx hfits hstream
  rw [arrived_eq_of_quiet hl hquiet hfd] at hsplit
  refine ⟨k, rest, hsplit, ?_⟩
  rw [hall, filter_taskOf, hdispatched, filterMap_dispatched]

/-- What there is left to do: first for the thread, then of the calls, then for the workers. -/
def State.measure (s : State n) : ℕ ×ₗ ℕ ×ₗ ℕ :=
  toLex (s.loop.remaining, toLex (s.calls.length, s.pool.weight))

theorem measure_lt {s s' : State n} {a : Label n} (h : Inv s) (ha : a.serves = true)
    (hs : step s a = some s') : s'.measure < s.measure := by
  obtain ⟨l, hl⟩ := h.reached
  cases effect_of_step hs with
  | loop _ hloop =>
    exact Prod.Lex.toLex_lt_toLex.mpr (.inl (remaining_lt (EventLoop.inv_of_run hl) hloop ha))
  | unknown hcalls _ =>
    refine Prod.Lex.toLex_lt_toLex.mpr (.inr ⟨rfl, Prod.Lex.toLex_lt_toLex.mpr (.inl ?_)⟩)
    rw [hcalls]
    exact Nat.lt_succ_self _
  | dispatch hcalls _ _ =>
    refine Prod.Lex.toLex_lt_toLex.mpr (.inr ⟨rfl, Prod.Lex.toLex_lt_toLex.mpr (.inl ?_)⟩)
    rw [hcalls]
    exact Nat.lt_succ_self _
  | pool _ _ hpool =>
    refine Prod.Lex.toLex_lt_toLex.mpr (.inr ⟨rfl, Prod.Lex.toLex_lt_toLex.mpr (.inr ⟨rfl, ?_⟩)⟩)
    exact ThreadPool.weight_lt hpool ha

/-- What the handlers do to the sessions leaves this as it is. -/
theorem measure_eq {s s' : State n} {a : Label n} (ha : a.serves = false)
    (hdisturbs : a.disturbs = false) (hs : step s a = some s') : s'.measure = s.measure := by
  cases effect_of_step hs with
  | @loop a loop _ hloop =>
    have hremaining := remaining_eq hloop hdisturbs ha
    have hdispatched : loop.dispatched = s.loop.dispatched := by
      cases a with
      | worker session op =>
        cases EventLoop.effect_of_step hloop with
        | worker _ _ => rfl
      | connect => cases hdisturbs
      | arrive conn data => cases hdisturbs
      | hangup conn => cases hdisturbs
      | _ => cases ha
    simp only [State.measure, hremaining, hdispatched, List.drop_length, List.append_nil]
  | unknown _ _ => cases ha
  | dispatch _ _ _ => cases ha
  | @pool a pool hown _ hpool =>
    cases a with
    | join => simp only [State.measure, ThreadPool.weight_join hpool]
    | push task => cases hown
    | spurious w => cases hdisturbs
    | close => cases hdisturbs
    | _ => cases ha

/-- **Everything is served in the end.** Whatever the server has been through, if from now on the
clients are silent and the destructor of the pool is not called, and the server goes on as long
as it can, in whatever order the network thread and the workers take their steps and whatever
the handlers do, then it comes to a point from which on everything is served. -/
theorem served_in_the_end (hn : 0 < n) {l : List (Label n)}
    (e : Settling.Execution (Service.step (n := n)))
    (hr : Transition.run Service.step (.init n) l = some (e.state 0))
    (hsilent : ∀ i a, e.label i = some a → a.disturbs = false)
    (hfair : e.Fair (fun a => a.serves = true) Stuck) :
    ∃ N, ∀ i ≥ N, Served (e.state i) := by
  have hinv : ∀ i, Inv (e.state i) :=
    e.invariant (fun _ _ _ h hs => h.step hn hs) (inv_of_run hn hr)
  have hle : ∀ i a s', e.label i = some a → Inv (e.state i) →
      Service.step (e.state i) a = some s' → s'.measure ≤ (e.state i).measure := by
    intro i a s' hlabel h hs
    cases ha : a.serves with
    | true => exact le_of_lt (measure_lt h ha hs)
    | false => exact le_of_eq (measure_eq ha (hsilent i a hlabel) hs)
  obtain ⟨N, hN⟩ := Settling.Execution.comes_to_rest State.measure hinv hle
    (fun s a s' h ha hs => measure_lt h ha hs) hfair
  exact ⟨N, fun i hi => (hinv i).served (hN i hi)⟩

/-- Where the thread waits for events and the workers sleep, there is nothing to do. -/
theorem stuck_of_idle {s : State n} (hquiet : Quiet s.loop) (hcalls : s.calls = [])
    (hworkers : ∀ w, s.pool.workers w = .waiting) (hnotifiers : s.pool.notifiers = 0)
    (hcloser : s.pool.closer = .idle) : Stuck s := by
  intro a ha hfails
  cases a with
  | loop a =>
    have hnone : EventLoop.step s.loop a = none := by
      cases a with
      | wait sources =>
        -- none of the items is ready
        simp only [EventLoop.step, hquiet.phase_eq, hquiet.ready_eq, Finset.notMem_empty]
        refine if_neg fun h => h.1 (List.eq_nil_iff_forall_not_mem.mpr h.2.2.2)
      | waitFails => cases hfails
      | connect => cases ha
      | arrive conn data => cases ha
      | hangup conn => cases ha
      | worker session op => cases ha
      | _ => simp [EventLoop.step, hquiet.phase_eq]
    simp [step, hnone, hcalls]
  | dispatch => simp [step, hcalls]
  | pool a =>
    cases a with
    | notifyOne woken => cases woken <;> simp [step, own, ThreadPool.step, hnotifiers]
    | lock w => simp [step, own, ThreadPool.step, hworkers w]
    | finish w => simp [step, own, ThreadPool.step, hworkers w]
    | notifyAll => simp [step, own, ThreadPool.step, hcloser]
    | push task => cases ha
    | spurious w => cases ha
    | close => cases ha
    | join => cases ha

/-- One worker, who sleeps when the request of `greeting` comes. -/
def servedGreeting : List (Label 1) :=
  [.pool (.lock 0)] ++ (greeting.take 12).map .loop ++
    [.dispatch, .pool (.notifyOne (some 0)), .loop .readAgain, .pool (.lock 0), .pool (.finish 0),
      .pool (.lock 0)]

theorem exists_of_servedGreeting : ∃ s, Transition.run Service.step (.init 1) servedGreeting =
      some s ∧ Stuck s ∧ 0 < s.loop.manager.created ∧
      (s.loop.socket (s.loop.connOf 0)).arrived = Message.packet ⟨1030, []⟩ := by
  have hloop : (Transition.run Service.step (.init 1) servedGreeting).map (fun s =>
      (s.loop.phase, s.loop.ready, s.loop.manager.created,
        (s.loop.socket (s.loop.connOf 0)).arrived)) =
      some (.handling [], ∅, 1, Message.packet ⟨1030, []⟩) := by
    decide +kernel
  have hpool : (Transition.run Service.step (.init 1) servedGreeting).map (fun s =>
      (s.calls.length, s.pool.workers 0, s.pool.notifiers, s.pool.closer)) =
      some (0, .waiting, 0, .idle) := by
    decide +kernel
  obtain ⟨s, hr, hs⟩ := Option.map_eq_some_iff.mp hloop
  rw [hr, Option.map_some] at hpool
  have hs' := Option.some.inj hpool
  simp only [Prod.mk.injEq] at hs hs'
  obtain ⟨hphase, hready, hcreated, harrived⟩ := hs
  obtain ⟨hcalls, hworker, hnotifiers, hcloser⟩ := hs'
  refine ⟨s, hr, ?_, by rw [hcreated]; exact Nat.one_pos, harrived⟩
  refine stuck_of_idle ⟨hphase, hready⟩ (List.length_eq_zero_iff.mp hcalls) (fun w => ?_)
    hnotifiers hcloser
  rwa [Subsingleton.elim w 0]

theorem servedGreeting_started : ∃ s,
    Transition.run Service.step (.init 1) servedGreeting = some s ∧ ∃ k rest,
      Splits Message.packet [⟨1030, []⟩] (s.loop.chunks (s.loop.connOf 0)).flatten k rest ∧
      s.pool.started.filter (fun task => task.session = 0) <+:
        (([⟨1030, []⟩] : List Message).take k).filterMap (requestOf 0) := by
  obtain ⟨s, hr, -, hcreated, harrived⟩ := exists_of_servedGreeting
  refine ⟨s, hr, (started_of_run Nat.one_pos hr).2.2 0 hcreated [⟨1030, []⟩] ?_ ?_⟩
  · simp [Message.Fits, PacketHeader.size]
  · rw [harrived]
    exact List.prefix_rfl

theorem servedGreeting_served : ∃ s,
    Transition.run Service.step (.init 1) servedGreeting = some s ∧ Served s := by
  obtain ⟨s, hr, hstuck, -, -⟩ := exists_of_servedGreeting
  obtain ⟨N, hN⟩ := served_in_the_end Nat.one_pos
    { state := fun _ => s, label := fun _ => none, next := fun _ => rfl } hr
    (fun _ _ hlabel => by cases hlabel) (fun _ hrest => absurd hstuck hrest)
  exact ⟨s, hr, hN N le_rfl⟩

end Service

end ItsBedalyo
