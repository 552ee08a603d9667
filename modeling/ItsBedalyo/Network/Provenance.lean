import ItsBedalyo.Network.Server

/-!
# Where an identity comes from

A session becomes somebody by a login request: `validateLogin` finds the user, or the body of an
`adminInit` names the administrator. The identity then travels with the task into the pool, into a
worker, into the session object and into `userMap`, while other connections come and go and
descriptor numbers are used again. In every interleaving it belongs to the connection on which
the request came in (`identity_of_run`), so whatever is pushed to a user is written through a
session on whose own connection somebody logged in as that user (`pushed_of_run`).
-/

namespace ItsBedalyo

namespace Server

open SessionManager Transition

/-- Who the request makes of its session, and in which role. -/
def Request.identity : Request → Option (String × ℤ)
  | .login result => result
  | .adminInit adminId role => some (adminId, role)
  | .logout | .other _ => none

/-- The operations of a handler that set an identity. -/
def Op.identity : Op → Option (String × ℤ)
  | .authenticate userId role | .registerUser userId role => some (userId, role)
  | _ => none

/-- A handler sets the identity of its request and no other. -/
theorem identity_of_mem_handler {request : Request} {op : Op} {who : String × ℤ}
    (hop : op ∈ handler request) (hwho : op.identity = some who) : request.identity = some who := by
  cases request with
  | login result =>
    cases result with
    | none =>
      obtain rfl := List.mem_singleton.mp hop
      cases hwho
    | some user =>
      simp only [handler, List.mem_cons, List.not_mem_nil, or_false] at hop
      rcases hop with rfl | rfl | rfl
      · exact hwho
      · exact hwho
      · cases hwho
  | adminInit adminId role =>
    simp only [handler, List.mem_cons, List.not_mem_nil, or_false] at hop
    rcases hop with rfl | rfl | rfl
    · exact hwho
    · exact hwho
    · cases hwho
  | logout =>
    simp only [handler, List.mem_cons, List.not_mem_nil, or_false] at hop
    rcases hop with rfl | rfl <;> cases hwho
  | other sends =>
    obtain ⟨send, -, rfl⟩ := List.mem_map.mp hop
    cases hwho

/-- What an operation puts in front of the rest sets no identity. -/
theorem identity_of_exec {m m' : SessionManager} {session : SessionRef} {op op' : Op}
    {ops : List Op} (h : exec m session op = some (m', ops)) (hop : op' ∈ ops) :
    op'.identity = none := by
  cases op with
  | readUserId =>
    obtain ⟨-, rfl⟩ := Prod.mk.inj (Option.some.inj h)
    split_ifs at hop
    · cases hop
    · simp only [List.mem_cons, List.not_mem_nil, or_false] at hop
      rcases hop with rfl | rfl <;> rfl
  | authenticate userId role =>
    obtain ⟨-, rfl⟩ := Prod.mk.inj (Option.some.inj h)
    cases hop
  | registerUser userId role =>
    obtain ⟨-, rfl⟩ := Prod.mk.inj (Option.some.inj h)
    cases hop
  | removeUser userId =>
    obtain ⟨-, rfl⟩ := Prod.mk.inj (Option.some.inj h)
    cases hop
  | clearAuth =>
    obtain ⟨-, rfl⟩ := Prod.mk.inj (Option.some.inj h)
    cases hop
  | send send => cases h

/-- The identity an object has after an operation is the one it had or the one the operation
sets. -/
theorem object_of_exec {m m' : SessionManager} {session x : SessionRef} {op : Op} {ops : List Op}
    (h : exec m session op = some (m', ops)) (hauth : (m'.object x).isAuth = true) :
    m'.object x = m.object x ∨
      x = session ∧ op.identity = some ((m'.object x).userId, (m'.object x).role) := by
  by_cases hx : x = session
  · subst hx
    cases op with
    | readUserId =>
      obtain ⟨rfl, -⟩ := Prod.mk.inj (Option.some.inj h)
      exact .inl rfl
    | authenticate userId role =>
      obtain ⟨rfl, -⟩ := Prod.mk.inj (Option.some.inj h)
      refine .inr ⟨rfl, ?_⟩
      rw [authenticate_object_self]
      rfl
    | registerUser userId role =>
      obtain ⟨rfl, -⟩ := Prod.mk.inj (Option.some.inj h)
      refine .inr ⟨rfl, ?_⟩
      rw [registerUser_object, authenticate_object_self]
      rfl
    | removeUser userId =>
      obtain ⟨rfl, -⟩ := Prod.mk.inj (Option.some.inj h)
      exact .inl rfl
    | clearAuth =>
      obtain ⟨rfl, -⟩ := Prod.mk.inj (Option.some.inj h)
      rw [clearAuth_object_self] at hauth
      cases hauth
    | send send => cases h
  · refine .inl ?_
    cases op with
    | readUserId =>
      obtain ⟨rfl, -⟩ := Prod.mk.inj (Option.some.inj h)
      rfl
    | authenticate userId role =>
      obtain ⟨rfl, -⟩ := Prod.mk.inj (Option.some.inj h)
      exact authenticate_object_of_ne m userId role hx
    | registerUser userId role =>
      obtain ⟨rfl, -⟩ := Prod.mk.inj (Option.some.inj h)
      exact authenticate_object_of_ne m userId role hx
    | removeUser userId =>
      obtain ⟨rfl, -⟩ := Prod.mk.inj (Option.some.inj h)
      rfl
    | clearAuth =>
      obtain ⟨rfl, -⟩ := Prod.mk.inj (Option.some.inj h)
      exact clearAuth_object_of_ne m hx
    | send send => cases h

/-- The entry a user has after an operation is the one it had or the one the operation makes. -/
theorem userMap_of_exec {m m' : SessionManager} {session x : SessionRef} {op : Op}
    {ops : List Op} {userId : String} (h : exec m session op = some (m', ops))
    (hentry : m'.userMap userId = some x) : m.userMap userId = some x ∨
      x = session ∧ ∃ role, op.identity = some (userId, role) := by
  cases op with
  | readUserId =>
    obtain ⟨rfl, -⟩ := Prod.mk.inj (Option.some.inj h)
    exact .inl hentry
  | authenticate u role =>
    obtain ⟨rfl, -⟩ := Prod.mk.inj (Option.some.inj h)
    exact .inl hentry
  | registerUser u role =>
    obtain ⟨rfl, -⟩ := Prod.mk.inj (Option.some.inj h)
    rw [registerUser_userMap, Function.update_apply] at hentry
    split_ifs at hentry with hu
    · exact .inr ⟨(Option.some.inj hentry).symm, role, by rw [hu]; rfl⟩
    · exact .inl hentry
  | removeUser u =>
    obtain ⟨rfl, -⟩ := Prod.mk.inj (Option.some.inj h)
    rw [removeUser_userMap, Function.update_apply] at hentry
    split_ifs at hentry
    exact .inl hentry
  | clearAuth =>
    obtain ⟨rfl, -⟩ := Prod.mk.inj (Option.some.inj h)
    exact .inl hentry
  | send send => cases h

variable {τ : Type*} [DecidableEq τ]

/-- In the course of `history`, `request` was read from the connection `conn`, and queued for the
session `x` that this connection had then. -/
def Received (history : List (Label τ)) (x : SessionRef) (conn : Conn) (request : Request) : Prop :=
  ∃ l fd s, l ++ [.receive fd request] <+: history ∧ run step .init l = some s ∧
    s.fdTable fd = some conn ∧ s.manager.sessionMap fd = some x

/-- A request with that identity was read from the connection. -/
def Claimed (history : List (Label τ)) (x : SessionRef) (conn : Conn) (who : String × ℤ) : Prop :=
  ∃ request, Received history x conn request ∧ request.identity = some who

theorem Received.concat {history : List (Label τ)} {x : SessionRef} {conn : Conn}
    {request : Request} (h : Received history x conn request) (a : Label τ) :
    Received (history ++ [a]) x conn request := by
  obtain ⟨l, fd, s, hbegin, hr, hfd, hmap⟩ := h
  exact ⟨l, fd, s, hbegin.trans (List.prefix_append _ _), hr, hfd, hmap⟩

theorem Claimed.concat {history : List (Label τ)} {x : SessionRef} {conn : Conn}
    {who : String × ℤ} (h : Claimed history x conn who) (a : Label τ) :
    Claimed (history ++ [a]) x conn who := by
  obtain ⟨request, hreceived, hwho⟩ := h
  exact ⟨request, hreceived.concat a, hwho⟩

/-- What holds after a history: whoever is somebody, or is about to be, was asked to by a request
read from its own connection. -/
structure Attested (history : List (Label τ)) (s : State τ) : Prop where
  tasks : ∀ x request, (x, request) ∈ s.tasks → Received history x (s.connOf x) request
  workers : ∀ t x todo, s.workers t = .running x todo → ∀ op ∈ todo, ∀ who,
    op.identity = some who → Claimed history x (s.connOf x) who
  object : ∀ x < s.manager.created, (s.manager.object x).isAuth = true →
    Claimed history x (s.connOf x) ((s.manager.object x).userId, (s.manager.object x).role)
  userMap : ∀ userId x, s.manager.userMap userId = some x →
    ∃ role, Claimed history x (s.connOf x) (userId, role)

theorem Attested.init : Attested [] (.init : State τ) := by
  constructor <;> simp [State.init, SessionManager.init]

section Step

variable {history : List (Label τ)} {s s' : State τ} {a : Label τ}

/-- What leaves objects and entries alone, and gives nobody anything to do that was not there. -/
theorem Attested.frame (h : Attested history s) (hconnOf : s'.connOf = s.connOf)
    (hmanager : s'.manager = s.manager)
    (htasks : ∀ x request, (x, request) ∈ s'.tasks → (x, request) ∈ s.tasks)
    (hworkers : ∀ t x todo, s'.workers t = .running x todo →
      ∃ todo', s.workers t = .running x todo' ∧ ∀ op ∈ todo, op ∈ todo') :
    Attested (history ++ [a]) s' := by
  refine ⟨fun x request hx => ?_, fun t x todo ht op hop who hwho => ?_, fun x hx hauth => ?_,
    fun userId x hx => ?_⟩
  · rw [hconnOf]
    exact (h.tasks x request (htasks x request hx)).concat a
  · obtain ⟨todo', ht', hsub⟩ := hworkers t x todo ht
    rw [hconnOf]
    exact (h.workers t x todo' ht' op (hsub op hop) who hwho).concat a
  · rw [hmanager] at hx hauth ⊢
    rw [hconnOf]
    exact (h.object x hx hauth).concat a
  · rw [hmanager] at hx
    obtain ⟨role, hclaimed⟩ := h.userMap userId x hx
    rw [hconnOf]
    exact ⟨role, hclaimed.concat a⟩

/-- A worker that moves on within its handler. -/
theorem running_of_setWorker {t u : τ} {session x : SessionRef} {todo todo' ops : List Op}
    (hrun : s.workers t = .running session todo) (hsub : ∀ op ∈ todo', op ∈ todo)
    (hu : (s.setWorker t (.running session todo')).workers u = .running x ops) :
    ∃ ops', s.workers u = .running x ops' ∧ ∀ op ∈ ops, op ∈ ops' := by
  simp only [State.setWorker, Function.update_apply] at hu
  split_ifs at hu with hut
  · obtain ⟨rfl, rfl⟩ := Worker.running.inj hu
    exact ⟨todo, hut ▸ hrun, hsub⟩
  · exact ⟨ops, hu, fun _ hop => hop⟩

theorem Attested.deliver (h : Attested history s) (session : SessionRef) (data : List Byte) :
    Attested (history ++ [a]) (s.deliver session data) := by
  refine h.frame (by simp) (by simp) (by simp) fun t x todo ht => ?_
  rw [deliver_workers] at ht
  exact ⟨todo, ht, fun _ hop => hop⟩

theorem Attested.createSession (h : Attested history s) (hinv : Inv s) (fd : Fd) :
    Attested (history ++ [a]) (s.createSession fd) := by
  have hold : ∀ x < s.manager.created, (s.createSession fd).connOf x = s.connOf x :=
    fun x hx => Function.update_of_ne (Nat.ne_of_lt hx) ..
  refine ⟨fun x request hx => ?_, fun t x todo ht op hop who hwho => ?_, fun x hx hauth => ?_,
    fun userId x hx => ?_⟩
  · rw [hold x (hinv.tasks_lt x request hx)]
    exact (h.tasks x request hx).concat a
  · rw [hold x (hinv.workers_lt t x todo ht)]
    exact (h.workers t x todo ht op hop who hwho).concat a
  · rcases Nat.lt_succ_iff_lt_or_eq.mp hx with hlt | rfl
    · have hobject : (s.createSession fd).manager.object x = s.manager.object x :=
        createSession_object_of_lt fd hlt
      rw [hobject] at hauth ⊢
      rw [hold x hlt]
      exact (h.object x hlt hauth).concat a
    · -- a new session is nobody
      have hobject : (s.createSession fd).manager.object s.manager.created = .new fd :=
        createSession_object_self s.manager fd
      rw [hobject] at hauth
      cases hauth
  · have hx' : s.manager.userMap userId = some x := hx
    rw [hold x (hinv.wellFormed.userMap_lt userId x hx')]
    obtain ⟨role, hclaimed⟩ := h.userMap userId x hx'
    exact ⟨role, hclaimed.concat a⟩

theorem Attested.removeSession (h : Attested history s) (fd : Fd) (net : NetThread) :
    Attested (history ++ [a]) { s with manager := s.manager.removeSession fd, net } := by
  refine ⟨fun x request hx => (h.tasks x request hx).concat a,
    fun t x todo ht op hop who hwho => (h.workers t x todo ht op hop who hwho).concat a,
    fun x hx hauth => ?_, fun userId x hx => ?_⟩
  · simp only [removeSession_object, removeSession_created] at hx hauth ⊢
    exact (h.object x hx hauth).concat a
  · have hx' : s.manager.userMap userId = some x := by
      cases hmap : s.manager.sessionMap fd with
      | none => rwa [removeSession_of_none hmap] at hx
      | some session =>
        rw [removeSession_userMap_of_some hmap] at hx
        split_ifs at hx
        exact hx
    obtain ⟨role, hclaimed⟩ := h.userMap userId x hx'
    exact ⟨role, hclaimed.concat a⟩

theorem Attested.advance (h : Attested history s) {t : τ} {session : SessionRef}
    {op : Op} {todo ops : List Op} {manager : SessionManager}
    (hlt : session < s.manager.created)
    (hrun : s.workers t = .running session (op :: todo))
    (hexec : exec s.manager session op = some (manager, ops)) :
    Attested (history ++ [a]) { s.setWorker t (.running session (ops ++ todo)) with manager } := by
  have hcreated := (exec_frame hexec).1
  have hop : ∀ who, op.identity = some who → Claimed history session (s.connOf session) who :=
    fun who hwho => h.workers t session _ hrun op List.mem_cons_self who hwho
  refine ⟨fun x request hx => (h.tasks x request hx).concat a,
    fun u x todo' hu op' hop' who hwho => ?_, fun x hx hauth => ?_, fun userId x hx => ?_⟩
  · simp only [State.setWorker, Function.update_apply] at hu
    split_ifs at hu with hut
    · obtain ⟨rfl, rfl⟩ := Worker.running.inj hu
      rcases List.mem_append.mp hop' with hnew | hrest
      · cases (identity_of_exec hexec hnew).symm.trans hwho
      · exact (h.workers t session _ hrun op' (List.mem_cons_of_mem _ hrest) who hwho).concat a
    · exact (h.workers u x todo' hu op' hop' who hwho).concat a
  · rcases object_of_exec hexec hauth with hsame | ⟨rfl, hwho⟩
    · simp only [hsame] at hauth ⊢
      exact (h.object x (hcreated ▸ hx) hauth).concat a
    · exact (hop _ hwho).concat a
  · rcases userMap_of_exec hexec hx with hold | ⟨rfl, role, hwho⟩
    · obtain ⟨role, hclaimed⟩ := h.userMap userId x hold
      exact ⟨role, hclaimed.concat a⟩
    · exact ⟨role, (hop _ hwho).concat a⟩

/-- One more step. -/
theorem Attested.step (h : Attested history s) (hr : run Server.step .init history = some s)
    (hinv : Inv s) (hs : Server.step s a = some s') : Attested (history ++ [a]) s' := by
  cases effect_of_step hs with
  | accept _ _ =>
    exact h.frame rfl rfl (fun _ _ hx => hx) fun _ _ todo ht => ⟨todo, ht, fun _ hop => hop⟩
  | @createSession fd _ _ => exact h.createSession hinv fd
  | welcome _ => exact h.deliver _ _
  | welcomed _ =>
    exact h.frame rfl rfl (fun _ _ hx => hx) fun _ _ todo ht => ⟨todo, ht, fun _ hop => hop⟩
  | @receive fd request session _ hsession =>
    refine ⟨fun x r hx => ?_,
      fun t x todo ht op hop who hwho => (h.workers t x todo ht op hop who hwho).concat _,
      fun x hx hauth => (h.object x hx hauth).concat _, fun userId x hx => ?_⟩
    · rcases List.mem_append.mp hx with hx | hx
      · exact (h.tasks x r hx).concat _
      · -- the request that has just been read
        obtain ⟨rfl, rfl⟩ := Prod.mk.inj (List.mem_singleton.mp hx)
        exact ⟨history, fd, s, List.prefix_rfl, hr, hinv.connected fd x hsession, hsession⟩
    · obtain ⟨role, hclaimed⟩ := h.userMap userId x hx
      exact ⟨role, hclaimed.concat _⟩
  | @removeSession fd _ _ => exact h.removeSession fd _
  | close _ =>
    exact h.frame rfl rfl (fun _ _ hx => hx) fun _ _ todo ht => ⟨todo, ht, fun _ hop => hop⟩
  | @start t session request tasks _ htasks =>
    have hreceived := h.tasks session request (by rw [htasks]; exact List.mem_cons_self)
    refine ⟨fun x r hx => (h.tasks x r (by rw [htasks]; exact List.mem_cons_of_mem _ hx)).concat _,
      fun u x todo hu op hop who hwho => ?_, fun x hx hauth => (h.object x hx hauth).concat _,
      fun userId x hx => ?_⟩
    · simp only [State.setWorker, Function.update_apply] at hu
      split_ifs at hu
      · obtain ⟨rfl, rfl⟩ := Worker.running.inj hu
        exact Claimed.concat ⟨request, hreceived, identity_of_mem_handler hop hwho⟩ _
      · exact (h.workers u x todo hu op hop who hwho).concat _
    · obtain ⟨role, hclaimed⟩ := h.userMap userId x hx
      exact ⟨role, hclaimed.concat _⟩
  | @advance t session op todo ops manager hrun _ hexec =>
    exact h.advance (hinv.workers_lt t session _ hrun) hrun hexec
  | lock _ _ =>
    exact h.frame rfl rfl (fun _ _ hx => hx) fun _ _ todo ht => ⟨todo, ht, fun _ hop => hop⟩
  | reply _ => exact h.deliver _ _
  | push _ _ => exact h.deliver _ _
  | done hrun =>
    exact h.frame rfl rfl (fun _ _ hx => hx) fun _ _ _ hu =>
      running_of_setWorker hrun (fun _ hop => List.mem_cons_of_mem _ hop) hu
  | @finish t session hrun =>
    refine h.frame rfl rfl (fun _ _ hx => hx) fun u x todo hu => ?_
    simp only [State.setWorker, Function.update_apply] at hu
    split_ifs at hu
    exact ⟨todo, hu, fun _ hop => hop⟩

theorem attested_of_run (hr : run Server.step .init history = some s) : Attested history s := by
  have hinv : ∀ (l : List (Label τ)) s, run Server.step .init l = some s → Inv s := fun l s hr =>
    invariant_run (fun _ _ _ h hs => h.step hs) .init hr
  refine (run_history (I := fun l s => run Server.step .init l = some s ∧ Attested l s)
    ⟨rfl, .init⟩ (fun l s a s' h hs => ⟨?_, ?_⟩) hr).2
  · exact run_concat_eq_some.mpr ⟨s, h.1, hs⟩
  · exact h.2.step h.1 (hinv l s h.1) hs

end Step

/-- **An identity belongs to the connection it was claimed on.** In every interleaving, whenever
a session object is authenticated or an entry of `userMap` points to it, a login or `adminInit`
request for that very user was read from the connection the object was created for, while the
object was that connection's session. -/
theorem identity_of_run {history : List (Label τ)} {s : State τ}
    (hr : run step .init history = some s) :
    (∀ x < s.manager.created, (s.manager.object x).isAuth = true →
      Claimed history x (s.connOf x) ((s.manager.object x).userId, (s.manager.object x).role)) ∧
    ∀ userId x, s.manager.userMap userId = some x →
      ∃ role, Claimed history x (s.connOf x) (userId, role) :=
  ⟨(attested_of_run hr).object, (attested_of_run hr).userMap⟩

/-- A user logs in and is pushed something. -/
def pushedLogin : List (Label Unit) :=
  [.accept 5, .createSession, .welcomed, .receive 5 (.login (some ("kim", 1))), .start (),
    .advance (), .advance (), .done (), .finish (), .receive 5 (.other [.push "kim"]), .start (),
    .lock ()]

theorem pushedLogin_identity : ∃ s, run step .init pushedLogin = some s ∧
    ∃ role, Claimed pushedLogin 0 (s.connOf 0) ("kim", role) := by
  have heval : (run step .init pushedLogin).map (fun s => s.manager.userMap "kim") =
      some (some 0) := by
    decide +kernel
  obtain ⟨s, hr, hentry⟩ := Option.map_eq_some_iff.mp heval
  exact ⟨s, hr, (identity_of_run hr).2 "kim" 0 hentry⟩

/-- **Nobody is pushed somebody else's messages.** In every interleaving, a `sendPacket` that
pushes something to a user goes through a session on whose own connection a login for that user
had been read before. -/
theorem pushed_of_run {history : List (Label τ)} {s : State τ} {t : τ} {userId : String}
    {data : List Byte} (hr : run step .init (history ++ [.push t userId data]) = some s) :
    ∃ s₀ x role, run step .init history = some s₀ ∧ s = s₀.deliver x data ∧
      s₀.manager.userMap userId = some x ∧ Claimed history x (s₀.connOf x) (userId, role) := by
  obtain ⟨s₀, hr₀, hs⟩ := run_concat_eq_some.mp hr
  cases effect_of_step hs with
  | @push _ _ x _ _ hentry =>
    obtain ⟨role, hclaimed⟩ := (attested_of_run hr₀).userMap userId x hentry
    exact ⟨s₀, x, role, hr₀, rfl, hentry, hclaimed⟩

theorem pushedLogin_pushed : ∃ s₀ x role, run step .init pushedLogin = some s₀ ∧
    s₀.manager.userMap "kim" = some x ∧ Claimed pushedLogin x (s₀.connOf x) ("kim", role) := by
  have heval : (run step .init (pushedLogin ++ [.push () "kim" [1]])).isSome := by
    decide +kernel
  obtain ⟨s, hr⟩ := Option.isSome_iff_exists.mp heval
  obtain ⟨s₀, x, role, hr₀, -, hentry, hclaimed⟩ := pushed_of_run hr
  exact ⟨s₀, x, role, hr₀, hentry, hclaimed⟩

end Server

end ItsBedalyo
