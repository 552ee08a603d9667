import ItsBedalyo.Lib.Borrowing
import Mathlib.Algebra.GroupWithZero.Nat
import Mathlib.Algebra.Order.BigOperators.Group.Finset
import Mathlib.Data.Fintype.BigOperators

/-!
# The connection pool: `DBManager`

`main` sets up as many connections as worker threads. A connection returned by `getConnection`
goes back to the pool when the last `shared_ptr` to it dies, that is at the end of the scope of
`conn` in a handler or DAO function. No DAO function calls another one, so borrows nest at most
twice: a handler that keeps its own connection while it calls DAO functions.

`Request.scopes` lists, for the handlers of the dispatcher, the borrows of a request: one number
for each scope, the DAO calls made inside it. What decides the path through a handler is part
of the request; a failing statement is the move `throw` of the pool.

The network thread borrows too: it runs `handleCategoryRequest` for every connection it accepts,
before it does anything else. `deadlockFree_iff_safe` says for which inputs a deadlock can be
reached.
-/

namespace ItsBedalyo

namespace ConnectionPool

open Borrowing Transition

/-! ### The borrows of the handlers -/

/-- `handleCreateOrder`: its own connection before the body is parsed; then `getDeliveryFee`,
for each item `getMenuName` and one `getOptionName` for each option id, and
`getOwnerIdByStoreId`. -/
def handleCreateOrder (parsed : Bool) (options : List ℕ) : List ℕ :=
  if parsed then [1 + (options.map fun n => 1 + n).sum + 1] else [0]

/-- `handleOrderAccept`: `getCustomerIdByOrderId` once the order has moved. -/
def handleOrderAccept (moved : Bool) : List ℕ := if moved then [1] else [0]

/-- `handleChangeOrderState`: `getCustomerIdByOrderId` if a row was affected. -/
def handleChangeOrderState (affected : Bool) : List ℕ := if affected then [1] else [0]

/-- `handleCookTimeSet`: `getCustomerIdByOrderId`, `getStoreIdByOrderId`, `getStoreDetail` and
`getDeliveryAddressByOrderId`. -/
def handleCookTimeSet (parsed : Bool) : List ℕ := if parsed then [4] else []

/-- `handleOrderReject`: `getCustomerIdByOrderId`. -/
def handleOrderReject (named : Bool) : List ℕ := if named then [1] else []

/-- `handleCancel`: `getCustomerIdByOrderId`, `getStoreIdByOrderId` and `getOwnerIdByStoreId` if
a row was affected. -/
def handleCancel (named affected : Bool) : List ℕ :=
  if named then (if affected then [3] else [0]) else []

/-- `RiderHandler::handleDeliveryComplete`: the same three. -/
def handleDeliveryComplete (named affected : Bool) : List ℕ :=
  if named then (if affected then [3] else [0]) else []

/-- `RiderHandler::handlePickup`: the same three, affected or not. -/
def handlePickup (parsed : Bool) : List ℕ := if parsed then [3] else []

/-- `handleCategoryRequest`: `getTopStoresByCategory` inside its own connection. -/
def handleCategoryRequest : List ℕ := [1]

/-- A request in the queue, with what decides the path of its handler. The last two stand for
all other handlers: those that use one connection of their own and call no DAO function
(`handleOrderList`, `handleCheckoutInfo`, `handleOrderDetail`, `handleGradeUpdate`,
`handleRiderOrderList`, `handleMenuListRequest`, `handleMenuEdit`, `handleReviewList`,
`handleReviewReply`, `handleMenuReviewList`, `handleSalesStat`, `handleHeartbeat`), and those
that only call DAO functions, if any. -/
inductive Request
  | createOrder (parsed : Bool) (options : List ℕ)
  | orderAccept (moved : Bool)
  | changeOrderState (affected : Bool)
  | cookTimeSet (parsed : Bool)
  | orderReject (named : Bool)
  | cancel (named affected : Bool)
  | pickup (parsed : Bool)
  | deliveryComplete (named affected : Bool)
  | ownConnection (reached : Bool)
  | daoCalls (calls : ℕ)
  deriving DecidableEq

/-- The borrows of a request. -/
def Request.scopes : Request → List ℕ
  | createOrder parsed options => handleCreateOrder parsed options
  | orderAccept moved => handleOrderAccept moved
  | changeOrderState affected => handleChangeOrderState affected
  | cookTimeSet parsed => handleCookTimeSet parsed
  | orderReject named => handleOrderReject named
  | cancel named affected => handleCancel named affected
  | pickup parsed => handlePickup parsed
  | deliveryComplete named affected => handleDeliveryComplete named affected
  | ownConnection reached => if reached then [0] else []
  | daoCalls calls => List.replicate calls 0

/-- The handler calls a DAO function while it keeps its own connection. -/
def Request.nests (r : Request) : Bool := (Phase.running r.scopes).nests

/-! ### Workers, queue and network thread -/

/-- What the network thread meets, in order: a connection to accept or a request to queue. -/
inductive Event
  | accept
  | request (r : Request)
  deriving DecidableEq

/-- The threads that borrow: the network thread (`none`) and the workers. -/
abbrev Thread (n : ℕ) := Option (Fin n)

/-- The pool and its threads, the task queue, and what the network thread has yet to meet. -/
structure State (n : ℕ) where
  pool : Pool (Thread n)
  queue : List Request
  events : List Event

/-- A step: the network thread takes the next event, a worker takes the next task, or a thread
makes a move on the pool. -/
inductive Label (n : ℕ)
  | event
  | start (worker : Fin n)
  | move (t : Thread n) (m : Move)
  deriving DecidableEq

/-- `main`: as many connections as workers, and nobody has begun. -/
def State.init (n : ℕ) (events : List Event) : State n :=
  ⟨⟨n, fun _ => .running []⟩, [], events⟩

/-- The step function. The network thread goes on when the welcome of the last connection is
over, a worker when its handler is. -/
def step {n : ℕ} (s : State n) : Label n → Option (State n)
  | .event =>
    match s.events, s.pool.phase none with
    | .accept :: events, .running [] =>
      some { s with
        pool := s.pool.set none (.running handleCategoryRequest) s.pool.free
        events }
    | .request r :: events, .running [] => some { s with queue := s.queue ++ [r], events }
    | _, _ => none
  | .start i =>
    match s.queue, s.pool.phase (some i) with
    | r :: queue, .running [] =>
      some { s with pool := s.pool.set (some i) (.running r.scopes) s.pool.free, queue }
    | _, _ => none
  | .move t m => (Borrowing.step s.pool t m).map fun pool => { s with pool }

/-- What a step needs and does. -/
theorem step_cases {n : ℕ} {s s' : State n} {a : Label n} (h : step s a = some s') :
    (∃ events, s.events = .accept :: events ∧ s.pool.phase none = .running [] ∧
      s' = { s with
        pool := s.pool.set none (.running handleCategoryRequest) s.pool.free, events }) ∨
    (∃ r events, s.events = .request r :: events ∧ s.pool.phase none = .running [] ∧
      s' = { s with queue := s.queue ++ [r], events }) ∨
    (∃ i r queue, s.queue = r :: queue ∧ s.pool.phase (some i) = .running [] ∧
      s' = { s with pool := s.pool.set (some i) (.running r.scopes) s.pool.free, queue }) ∨
    (∃ t m pool, Borrowing.step s.pool t m = some pool ∧ s' = { s with pool }) := by
  cases a with
  | event =>
    simp only [step] at h
    split at h
    · next events hevents hidle => exact .inl ⟨events, hevents, hidle, (Option.some.inj h).symm⟩
    · next r events hevents hidle =>
      exact .inr (.inl ⟨r, events, hevents, hidle, (Option.some.inj h).symm⟩)
    · cases h
  | start i =>
    simp only [step] at h
    split at h
    · next r queue hqueue hidle =>
      exact .inr (.inr (.inl ⟨i, r, queue, hqueue, hidle, (Option.some.inj h).symm⟩))
    · cases h
  | move t m =>
    simp only [step, Option.map_eq_some_iff] at h
    obtain ⟨pool, hpool, rfl⟩ := h
    exact .inr (.inr (.inr ⟨t, m, pool, hpool, rfl⟩))

/-! ### When the inputs are safe -/

/-- How many requests of the queue nest. -/
def nesting (queue : List Request) : ℕ := queue.countP Request.nests

/-- How many requests among the events nest. -/
def nestingEvents (events : List Event) : ℕ :=
  events.countP fun
    | .accept => false
    | .request r => r.nests

/-- Fewer nesting requests than connections, and at every accepted connection fewer than all but
one of them have come before. -/
def Safe (n : ℕ) (events : List Event) : Prop :=
  nestingEvents events < n ∧
    ∀ past rest, events = past ++ .accept :: rest → nestingEvents past + 1 < n

/-- How many workers have a nested borrow ahead. -/
def busy {n : ℕ} (pool : Pool (Thread n)) : ℕ :=
  ∑ i, if (pool.phase (some i)).nests then 1 else 0

@[simp] theorem nestingEvents_append (l l' : List Event) :
    nestingEvents (l ++ l') = nestingEvents l + nestingEvents l' := List.countP_append

@[simp] theorem nestingEvents_accept (l : List Event) :
    nestingEvents (.accept :: l) = nestingEvents l := by
  simp [nestingEvents]

theorem nestingEvents_request (r : Request) (l : List Event) :
    nestingEvents (.request r :: l) = nestingEvents l + if r.nests then 1 else 0 := by
  simp [nestingEvents, List.countP_cons]

theorem busy_set_none {n : ℕ} (pool : Pool (Thread n)) (ph : Phase) (k : ℕ) :
    busy (pool.set none ph k) = busy pool := by
  refine Finset.sum_congr rfl fun i _ => ?_
  rw [Pool.set_phase_of_ne pool (Option.some_ne_none i)]

theorem busy_set_some {n : ℕ} (pool : Pool (Thread n)) (i : Fin n) (ph : Phase) (k : ℕ) :
    busy (pool.set (some i) ph k) + (if (pool.phase (some i)).nests then 1 else 0) =
      busy pool + if ph.nests then 1 else 0 := by
  have hsum := sum_set pool (some i) ph k fun ph => if ph.nests then 1 else 0
  rw [Fintype.sum_option, Fintype.sum_option,
    Pool.set_phase_of_ne pool (Option.some_ne_none i).symm] at hsum
  simp only [busy]
  omega

/-- An idle worker that takes a request is busy if the request nests. -/
theorem busy_start {n : ℕ} {pool : Pool (Thread n)} {i : Fin n}
    (hidle : pool.phase (some i) = .running []) (r : Request) (k : ℕ) :
    busy (pool.set (some i) (.running r.scopes) k) = busy pool + if r.nests then 1 else 0 := by
  have hset := busy_set_some pool i (.running r.scopes) k
  rw [hidle] at hset
  exact hset

/-! ### Safe inputs never deadlock -/

/-- What holds in every state: nothing gets lost from the pool, and the nested borrows ahead of
the workers and in the queue come from requests that have been met. A welcome that still nests
is the last thing the network thread has met. -/
structure Inv {n : ℕ} (events : List Event) (s : State n) : Prop where
  conserved : Conserved n s.pool
  history : ∃ past, events = past ++ s.events ∧
    busy s.pool + nesting s.queue ≤ nestingEvents past ∧
    ((s.pool.phase none).nests → ∃ before, past = before ++ [.accept])

theorem Inv.init {n : ℕ} (events : List Event) : Inv events (State.init n events) where
  conserved := by simp [Conserved, State.init, Phase.held]
  history := ⟨[], rfl, by simp [busy, State.init, Phase.nests, nesting, nestingEvents],
    by simp [State.init, Phase.nests]⟩

/-- Setting out on a new task does not change what is held. -/
theorem conserved_set_running {n : ℕ} {pool : Pool (Thread n)} (h : Conserved n pool)
    {t : Thread n} (hidle : pool.phase t = .running []) (scopes : List ℕ) :
    Conserved n (pool.set t (.running scopes) pool.free) := by
  have hsum := sum_set pool t (.running scopes) pool.free Phase.held
  rw [hidle] at hsum
  simp only [Conserved, Pool.set_free, Phase.held] at h hsum ⊢
  omega

theorem Inv.step {n : ℕ} {events : List Event} {s s' : State n} {a : Label n} (h : Inv events s)
    (hs : ConnectionPool.step s a = some s') : Inv events s' := by
  obtain ⟨past, hpast, hle, hnet⟩ := h.history
  rcases step_cases hs with ⟨rest, hrest, hidle, rfl⟩ | ⟨r, rest, hrest, hidle, rfl⟩ |
    ⟨i, r, queue, hqueue, hidle, rfl⟩ | ⟨t, m, pool, hstep, rfl⟩
  · -- a client is accepted: its welcome is now the last thing that was met
    refine ⟨conserved_set_running h.conserved hidle _, past ++ [.accept], ?_, ?_,
      fun _ => ⟨past, rfl⟩⟩
    · rw [hpast, hrest, List.append_assoc, List.singleton_append]
    · rw [busy_set_none, nestingEvents_append, nestingEvents_accept]
      exact hle
  · refine ⟨h.conserved, past ++ [.request r], ?_, ?_, fun hn => ?_⟩
    · rw [hpast, hrest, List.append_assoc, List.singleton_append]
    · have hone : nestingEvents [.request r] = if r.nests then 1 else 0 := by
        rw [nestingEvents_request]
        simp [nestingEvents]
      have hqueue : nesting (s.queue ++ [r]) =
          nesting s.queue + if r.nests then 1 else 0 := by
        simp [nesting, List.countP_append, List.countP_singleton]
      simp only [hqueue, nestingEvents_append, hone]
      omega
    · -- the network thread is not in a welcome when it queues a request
      rw [hidle] at hn
      cases hn
  · -- a request goes from the queue to its worker and is counted there
    refine ⟨conserved_set_running h.conserved hidle _, past, hpast, ?_, fun hn => ?_⟩
    · have hnesting : nesting s.queue = nesting queue + if r.nests then 1 else 0 := by
        rw [hqueue]
        simp [nesting, List.countP_cons]
      show busy (s.pool.set _ _ _) + nesting queue ≤ _
      rw [busy_start hidle]
      omega
    · rw [Pool.set_phase_of_ne s.pool (Option.some_ne_none i).symm] at hn
      exact hnet hn
  · -- a move on the pool leaves no thread with more nested borrows than before
    obtain ⟨ph, free, rfl, -, hnests⟩ := Borrowing.step_cases hstep
    refine ⟨h.conserved.step hstep, past, hpast, ?_, fun hn => ?_⟩
    · cases t with
      | none =>
        rw [busy_set_none]
        exact hle
      | some i =>
        have hbusy := busy_set_some s.pool i ph free
        simp only
        split_ifs at hbusy with hold hnew
        · omega
        · omega
        · exact absurd (hnests ‹_›) hold
        · omega
    · cases t with
      | none =>
        rw [Pool.set_phase_self] at hn
        exact hnet (hnests hn)
      | some i =>
        rw [Pool.set_phase_of_ne s.pool (Option.some_ne_none i).symm] at hn
        exact hnet hn

/-- In a deadlock every connection is held by a thread with a nested borrow ahead, and there
are not enough of those. -/
theorem Inv.not_deadlocked {n : ℕ} {events : List Event} {s : State n} (h : Inv events s)
    (hsafe : Safe n events) : ¬ Deadlocked s.pool := by
  intro hd
  obtain ⟨past, hpast, hle, hnet⟩ := h.history
  have hcard := card_stuck_of_deadlocked h.conserved hd
  rw [Fintype.sum_option] at hcard
  have hbusy : (∑ i, if (s.pool.phase (some i)).stuck then 1 else 0) ≤ busy s.pool := by
    refine Finset.sum_le_sum fun i _ => ?_
    by_cases hstuck : (s.pool.phase (some i)).stuck
    · rw [if_pos hstuck, if_pos (Phase.nests_of_stuck hstuck)]
    · rw [if_neg hstuck]
      exact Nat.zero_le _
  by_cases hstuck : (s.pool.phase none).stuck
  · -- the welcome holds one connection, the requests that came before it the others
    rw [if_pos hstuck] at hcard
    obtain ⟨before, rfl⟩ := hnet (Phase.nests_of_stuck hstuck)
    have hbefore := hsafe.2 before s.events
      (by rw [hpast, List.append_assoc, List.singleton_append])
    simp only [nestingEvents_append, nestingEvents_accept] at hle
    have hnil : nestingEvents [] = 0 := rfl
    omega
  · rw [if_neg hstuck] at hcard
    have hall := hsafe.1
    rw [hpast, nestingEvents_append] at hall
    omega

/-! ### Other inputs can deadlock -/

/-- The first `j` workers hold a connection and want another, nobody else does anything. -/
structure Parked {n : ℕ} (j : ℕ) (s : State n) : Prop where
  free : s.pool.free + j = n
  net : s.pool.phase none = .running []
  parked : ∀ i : Fin n, i.val < j → (s.pool.phase (some i)).stuck
  idle : ∀ i : Fin n, j ≤ i.val → s.pool.phase (some i) = .running []
  queue : s.queue = []

/-- The events can fill the pool with nested borrows when `j` connections are gone already. -/
def Danger (n j : ℕ) (events : List Event) : Prop :=
  n ≤ j + nestingEvents events ∨
    ∃ past rest, events = past ++ .accept :: rest ∧ n ≤ j + nestingEvents past + 1

theorem danger_of_not_safe {n : ℕ} {events : List Event} (h : ¬ Safe n events) :
    Danger n 0 events := by
  simp only [Safe, not_and_or, not_forall, not_lt] at h
  rcases h with h | ⟨past, rest, hevents, h⟩
  · exact .inl (by omega)
  · exact .inr ⟨past, rest, hevents, by omega⟩

/-- Moves on the pool are steps of the server. -/
theorem reaches_pool {n : ℕ} (s : State n) {pool pool' : Pool (Thread n)}
    (h : Reaches stepAny pool pool') :
    Reaches step { s with pool } { s with pool := pool' } := by
  have hsim : ∀ (p : Pool (Thread n)) a p', stepAny p a = some p' →
      step { s with pool := p } (.move a.1 a.2) = some { s with pool := p' } := by
    intro p a p' hstep
    simp only [stepAny] at hstep
    simp only [step, hstep, Option.map_some]
  exact h.map (fun pool => { s with pool }) (fun a => Label.move a.1 a.2) hsim

section Driving

variable {n j : ℕ} {s : State n}

/-- All connections are taken by parked workers. -/
theorem Parked.deadlocked (h : Parked j s) (hn : 0 < n) (hj : j = n) : Deadlocked s.pool := by
  subst hj
  have hfree : s.pool.free = 0 := by have := h.free; omega
  refine ⟨⟨some ⟨0, hn⟩, hfree, Phase.wants_of_stuck (h.parked _ hn)⟩, fun t ht => ?_⟩
  cases t with
  | none =>
    rw [h.net] at ht
    exact absurd ht (by simp [Phase.held])
  | some i => exact ⟨hfree, Phase.wants_of_stuck (h.parked i i.isLt)⟩

/-- With one connection left, a welcome takes it and wants another. -/
theorem Parked.accept_deadlock (h : Parked j s) (hj : j + 1 = n) {rest : List Event}
    (hevents : s.events = .accept :: rest) :
    ∃ s', Reaches step s s' ∧ Deadlocked s'.pool := by
  have hfree : s.pool.free = 0 + 1 := by have := h.free; omega
  have hevent : step s .event = some
      { s with
        pool := s.pool.set none (.running handleCategoryRequest) (0 + 1)
        events := rest } := by
    simp only [step, hevents, h.net, hfree]
  obtain ⟨ph, hstuck, hreach⟩ := reaches_stuck s.pool none 0 handleCategoryRequest rfl
  refine ⟨_, (Reaches.of_step hevent).trans (reaches_pool { s with events := rest } hreach), ?_⟩
  refine ⟨⟨none, rfl, ?_⟩, fun t ht => ⟨rfl, ?_⟩⟩
  · simpa using Phase.wants_of_stuck hstuck
  · cases t with
    | none => simpa using Phase.wants_of_stuck hstuck
    | some i =>
      simp only [Pool.set_phase_of_ne s.pool (Option.some_ne_none i)] at ht ⊢
      by_cases hi : i.val < j
      · exact Phase.wants_of_stuck (h.parked i hi)
      · rw [h.idle i (Nat.le_of_not_lt hi)] at ht
        exact absurd ht (by simp [Phase.held])

/-- With two connections left, a welcome is done with at once. -/
theorem Parked.accept (h : Parked j s) (hj : j + 1 < n) {rest : List Event}
    (hevents : s.events = .accept :: rest) :
    ∃ s', Reaches step s s' ∧ Parked j s' ∧ s'.events = rest := by
  obtain ⟨k, hk⟩ : ∃ k, s.pool.free = k + 1 := ⟨s.pool.free - 1, by have := h.free; omega⟩
  have hevent : step s .event = some
      { s with
        pool := s.pool.set none (.running handleCategoryRequest) (k + 1)
        events := rest } := by
    simp only [step, hevents, h.net, hk]
  have hreach := reaches_finish s.pool none k handleCategoryRequest
    fun _ => by have := h.free; omega
  refine ⟨_, (Reaches.of_step hevent).trans (reaches_pool { s with events := rest } hreach), ?_,
    rfl⟩
  refine ⟨by have := h.free; simp only [Pool.set_free]; omega, by simp, fun i hi => ?_,
    fun i hi => ?_,
    h.queue⟩
  · simpa [Pool.set_phase_of_ne s.pool (Option.some_ne_none i)] using h.parked i hi
  · simpa [Pool.set_phase_of_ne s.pool (Option.some_ne_none i)] using h.idle i hi

/-- A request is queued and taken by the first idle worker. -/
theorem Parked.request (h : Parked j s) (hj : j < n) {r : Request} {rest : List Event}
    (hevents : s.events = .request r :: rest) (k : ℕ) (hk : s.pool.free = k + 1) :
    Reaches step s { s with
      pool := s.pool.set (some ⟨j, hj⟩) (.running r.scopes) (k + 1), events := rest } := by
  have hevent : step s .event = some { s with queue := [r], events := rest } := by
    simp only [step, hevents, h.net, h.queue, List.nil_append]
  have hstart : step { s with queue := [r], events := rest } (.start ⟨j, hj⟩) = some { s with
      pool := s.pool.set (some ⟨j, hj⟩) (.running r.scopes) (k + 1), events := rest } := by
    simp only [step, h.idle ⟨j, hj⟩ (Nat.le_refl j), hk, h.queue]
  exact (Reaches.of_step hevent).trans (Reaches.of_step hstart)

/-- A nesting request parks one more worker. -/
theorem Parked.request_nests (h : Parked j s) (hj : j < n) {r : Request} {rest : List Event}
    (hevents : s.events = .request r :: rest) (hr : r.nests) :
    ∃ s', Reaches step s s' ∧ Parked (j + 1) s' ∧ s'.events = rest := by
  obtain ⟨k, hk⟩ : ∃ k, s.pool.free = k + 1 := ⟨s.pool.free - 1, by have := h.free; omega⟩
  obtain ⟨ph, hstuck, hreach⟩ := reaches_stuck s.pool (some ⟨j, hj⟩) k r.scopes hr
  refine ⟨_, (h.request hj hevents k hk).trans (reaches_pool { s with events := rest } hreach),
    ⟨?_, ?_, fun i hi => ?_, fun i hi => ?_, h.queue⟩, rfl⟩
  · have := h.free
    simp only [Pool.set_free]
    omega
  · simpa [Pool.set_phase_of_ne s.pool (Option.some_ne_none _).symm] using h.net
  · by_cases hij : i = ⟨j, hj⟩
    · simpa [hij] using hstuck
    · have hlt : i.val < j := by
        have hne : i.val ≠ j := fun heq => hij (Fin.ext heq)
        omega
      simpa [Pool.set_phase_of_ne s.pool (Option.some_injective _ |>.ne hij)] using h.parked i hlt
  · have hij : i ≠ ⟨j, hj⟩ := by
      rintro rfl
      exact absurd hi (Nat.not_succ_le_self j)
    simpa [Pool.set_phase_of_ne s.pool (Option.some_injective _ |>.ne hij)] using
      h.idle i (by omega)

/-- A request that does not nest is done with at once. -/
theorem Parked.request_not_nests (h : Parked j s) (hj : j < n) {r : Request} {rest : List Event}
    (hevents : s.events = .request r :: rest) (hr : ¬ r.nests) :
    ∃ s', Reaches step s s' ∧ Parked j s' ∧ s'.events = rest := by
  obtain ⟨k, hk⟩ : ∃ k, s.pool.free = k + 1 := ⟨s.pool.free - 1, by have := h.free; omega⟩
  have hreach := reaches_finish s.pool (some ⟨j, hj⟩) k r.scopes fun hn => absurd hn hr
  refine ⟨_, (h.request hj hevents k hk).trans (reaches_pool { s with events := rest } hreach),
    ⟨?_, ?_, fun i hi => ?_, fun i hi => ?_, h.queue⟩, rfl⟩
  · have := h.free
    simp only [Pool.set_free]
    omega
  · simpa [Pool.set_phase_of_ne s.pool (Option.some_ne_none _).symm] using h.net
  · have hij : i ≠ ⟨j, hj⟩ := by
      rintro rfl
      simp at hi
    simpa [Pool.set_phase_of_ne s.pool (Option.some_injective _ |>.ne hij)] using h.parked i hi
  · by_cases hij : i = ⟨j, hj⟩
    · simp [hij]
    · simpa [Pool.set_phase_of_ne s.pool (Option.some_injective _ |>.ne hij)] using h.idle i hi

/-- Events that can fill the pool do so under the right schedule. -/
theorem Parked.exists_deadlock (hn : 0 < n) (events : List Event) :
    ∀ (j : ℕ) (s : State n), Parked j s → s.events = events → Danger n j events →
      ∃ s', Reaches step s s' ∧ Deadlocked s'.pool := by
  -- on the events ahead; `j` grows with every request that parks its worker
  induction events with
  | nil =>
    intro j s h _ hdanger
    have hfull : n ≤ j := by
      rcases hdanger with hle | ⟨past, rest, hnil, -⟩
      · simpa [nestingEvents] using hle
      · exact absurd hnil (by simp)
    have hj : j = n := by have := h.free; omega
    exact ⟨s, .refl s, h.deadlocked hn hj⟩
  | cons e rest ih =>
    intro j s h hevents hdanger
    have hfree := h.free
    by_cases hj : j = n
    · exact ⟨s, .refl s, h.deadlocked hn hj⟩
    have hlt : j < n := by omega
    cases e with
    | accept =>
      by_cases hlast : j + 1 = n
      · exact h.accept_deadlock hlast hevents
      obtain ⟨s₁, hreach, hparked, hrest⟩ := h.accept (by omega) hevents
      have hdanger' : Danger n j rest := by
        rcases hdanger with hle | ⟨past, rest', heq, hle⟩
        · exact .inl (by simpa using hle)
        · cases past with
          | nil =>
            have hnil : nestingEvents [] = 0 := rfl
            omega
          | cons e past =>
            obtain ⟨rfl, rfl⟩ : Event.accept = e ∧ rest = past ++ .accept :: rest' := by
              simpa using heq
            exact .inr ⟨past, rest', rfl, by simpa using hle⟩
      obtain ⟨s₂, hreach', hd⟩ := ih j s₁ hparked hrest hdanger'
      exact ⟨s₂, hreach.trans hreach', hd⟩
    | request r =>
      have hstep : ∃ j' s₁, Reaches step s s₁ ∧ Parked j' s₁ ∧ s₁.events = rest ∧
          j' = j + if r.nests then 1 else 0 := by
        by_cases hr : r.nests
        · obtain ⟨s₁, h₁, h₂, h₃⟩ := h.request_nests hlt hevents hr
          exact ⟨j + 1, s₁, h₁, h₂, h₃, by rw [if_pos hr]⟩
        · obtain ⟨s₁, h₁, h₂, h₃⟩ := h.request_not_nests hlt hevents hr
          exact ⟨j, s₁, h₁, h₂, h₃, by rw [if_neg hr]; rfl⟩
      obtain ⟨j', s₁, hreach, hparked, hrest, hj'⟩ := hstep
      have hdanger' : Danger n j' rest := by
        rcases hdanger with hle | ⟨past, rest', heq, hle⟩
        · rw [nestingEvents_request] at hle
          exact .inl (by omega)
        · cases past with
          | nil => simp at heq
          | cons e past =>
            obtain ⟨rfl, rfl⟩ : Event.request r = e ∧ rest = past ++ .accept :: rest' := by
              simpa using heq
            rw [nestingEvents_request] at hle
            exact .inr ⟨past, rest', rfl, by omega⟩
      obtain ⟨s₂, hreach', hd⟩ := ih j' s₁ hparked hrest hdanger'
      exact ⟨s₂, hreach.trans hreach', hd⟩

end Driving

/-! ### The result -/

/-- **No deadlock on the pool, exactly.** With `n` workers and `n` connections, no reachable
state is deadlocked if and only if the inputs are safe. -/
theorem deadlockFree_iff_safe {n : ℕ} (hn : 0 < n) (events : List Event) :
    (∀ l s, run step (State.init n events) l = some s → ¬ Deadlocked s.pool) ↔
      Safe n events := by
  constructor
  · intro h
    by_contra hunsafe
    have hparked : Parked 0 (State.init n events) := by
      refine ⟨rfl, rfl, fun i hi => absurd hi (Nat.not_lt_zero _), fun i _ => rfl, rfl⟩
    obtain ⟨s, ⟨l, hl⟩, hd⟩ :=
      Parked.exists_deadlock hn events 0 _ hparked rfl (danger_of_not_safe hunsafe)
    exact h l s hl hd
  · intro hsafe l s hl
    have hstep : ∀ (s : State n) a s', Inv events s → step s a = some s' → Inv events s' :=
      fun _ _ _ h hs => h.step hs
    exact (invariant_run hstep (Inv.init events) hl).not_deadlocked hsafe

/-- Two workers, two connections, two orders being created. -/
def twoOrders : List Event :=
  [.request (.createOrder true [0]), .request (.createOrder true [1, 0])]

/-- Both workers take their first connection for `twoOrders` and wait for a second one; and a
server with one worker waits in its first welcome. -/
theorem deadlock_reachable :
    (∃ s, run step (State.init 2 twoOrders)
        [.event, .event, .start 0, .start 1, .move (some 0) .get, .move (some 1) .get] = some s ∧
      Deadlocked s.pool) ∧
    (∃ s, run step (State.init 1 [.accept]) [.event, .move none .get] = some s ∧
      Deadlocked s.pool) :=
  ⟨⟨_, rfl, by decide⟩, ⟨_, rfl, by decide⟩⟩

/-- The rule for two workers that accept one client and create one order: the order must come
after the welcome. -/
theorem deadlockFree_iff_safe_two :
    (∀ l s, run step (State.init 2 [.accept, .request (.createOrder true [0])]) l = some s →
      ¬ Deadlocked s.pool) ↔ Safe 2 [.accept, .request (.createOrder true [0])] :=
  deadlockFree_iff_safe (by decide) _

end ConnectionPool

end ItsBedalyo
