import ItsBedalyo.Network.Server

/-!
# Connection confinement

What is written through a session object should reach the connection the object was built for.
The object only knows a descriptor number, and nothing ties the number to the connection:
`disconnectClient` closes the descriptor while queued tasks, running handlers and `userMap` may
still hold the object, and once the kernel hands the number out again, their writes go to
whoever has connected since.

`confined_of_fresh` is the rule under which this cannot happen: a descriptor is only handed out
again when no object built for it is held any more. `misdirected` is a run that breaks it.
-/

namespace ItsBedalyo

namespace Server

open SessionManager Transition

variable {τ : Type*} [DecidableEq τ]

/-- Everything that was written went to the connection its session was built for. -/
def Confined (s : State τ) : Prop :=
  ∀ d ∈ s.log, d.conn = s.connOf d.session

/-- A queued task, a running handler or a user entry still holds the session. -/
inductive Held (s : State τ) (session : SessionRef) : Prop
  | task {request : Request} : (session, request) ∈ s.tasks → Held s session
  | worker {t : τ} {todo : List Op} : s.workers t = .running session todo → Held s session
  | user {userId : String} : s.manager.userMap userId = some session → Held s session

/-- `accept` answers a descriptor for which no session built earlier is held any more. -/
def Fresh (s : State τ) : Label τ → Prop
  | .accept fd => ∀ session, Held s session → (s.manager.object session).clientFd ≠ fd
  | _ => True

omit [DecidableEq τ] in
/-- After a step that adds no task, what is held was held before, if that is so for the handlers
and the user entries. -/
theorem Held.of_subset {s s' : State τ} {x : SessionRef} (hx : Held s' x)
    (htasks : ∀ p ∈ s'.tasks, p ∈ s.tasks)
    (hworkers : ∀ t todo, s'.workers t = .running x todo → Held s x)
    (husers : ∀ u, s'.manager.userMap u = some x → Held s x) : Held s x := by
  cases hx with
  | task hmem => exact .task (htasks _ hmem)
  | worker hrun => exact hworkers _ _ hrun
  | user hentry => exact husers _ hentry

omit [DecidableEq τ] in
/-- A step that changes neither tasks nor handlers nor user entries holds nothing new. -/
theorem Held.of_eq {s s' : State τ} {x : SessionRef} (hx : Held s' x) (htasks : s'.tasks = s.tasks)
    (hworkers : s'.workers = s.workers) (husers : s'.manager.userMap = s.manager.userMap) :
    Held s x :=
  hx.of_subset (by rw [htasks]; exact fun _ hp => hp)
    (fun _ _ hw => .worker (hworkers ▸ hw)) (fun _ hu => .user (husers ▸ hu))

/-- A worker that moves on within its handler holds the session it held. -/
theorem held_of_setWorker {s : State τ} {t u : τ} {session x : SessionRef} {todo todo' : List Op}
    (hheld : Held s session)
    (hrun : (s.setWorker t (.running session todo)).workers u = .running x todo') : Held s x := by
  simp only [State.setWorker, Function.update_apply] at hrun
  split_ifs at hrun
  · cases hrun
    exact hheld
  · exact .worker hrun

omit [DecidableEq τ] in
/-- The operations of a handler file its own session only. -/
theorem held_of_exec {s : State τ} {t : τ} {session x : SessionRef} {op : Op} {todo ops : List Op}
    {manager : SessionManager} (hrun : s.workers t = .running session (op :: todo))
    (hexec : exec s.manager session op = some (manager, ops)) {userId : String}
    (hx : manager.userMap userId = some x) : Held s x := by
  cases op with
  | registerUser u role =>
    obtain ⟨rfl, -⟩ := Prod.mk.inj (Option.some.inj hexec)
    rw [registerUser_userMap, Function.update_apply] at hx
    split_ifs at hx
    · exact Option.some.inj hx ▸ .worker hrun
    · exact .user hx
  | removeUser u =>
    obtain ⟨rfl, -⟩ := Prod.mk.inj (Option.some.inj hexec)
    rw [removeUser_userMap, Function.update_apply] at hx
    split_ifs at hx
    exact .user hx
  | authenticate u role =>
    obtain ⟨rfl, -⟩ := Prod.mk.inj (Option.some.inj hexec)
    exact .user hx
  | readUserId =>
    obtain ⟨rfl, -⟩ := Prod.mk.inj (Option.some.inj hexec)
    exact .user hx
  | clearAuth =>
    obtain ⟨rfl, -⟩ := Prod.mk.inj (Option.some.inj hexec)
    exact .user hx
  | send send => cases hexec

/-- The descriptor of the session is closed, or has the connection the session was built for. -/
def Attached (s : State τ) (session : SessionRef) : Prop :=
  ∀ conn, s.fdTable (s.manager.object session).clientFd = some conn → conn = s.connOf session

/-- What carries confinement through a run: whatever is held is attached, and between `accept`
and `createSession` nothing held has the new descriptor. -/
structure Confinement (s : State τ) : Prop where
  inv : Inv s
  confined : Confined s
  log_lt : ∀ d ∈ s.log, d.session < s.manager.created
  attached : ∀ session, Held s session → Attached s session
  fresh : ∀ fd, s.net = .accepted fd →
    ∀ session, Held s session → (s.manager.object session).clientFd ≠ fd

omit [DecidableEq τ] in
theorem Confinement.init : Confinement (.init : State τ) where
  inv := .init
  confined := by simp [Confined, State.init]
  log_lt := by simp [State.init]
  attached session hheld := by
    rintro conn hconn
    simp [State.init] at hconn
  fresh := by simp [State.init]

section Step

variable {s : State τ}

omit [DecidableEq τ] in
theorem Confinement.held_lt (h : Confinement s) {session : SessionRef} (hheld : Held s session) :
    session < s.manager.created := by
  cases hheld with
  | task hmem => exact h.inv.tasks_lt session _ hmem
  | worker hrun => exact h.inv.workers_lt _ session _ hrun
  | user hentry => exact h.inv.wellFormed.userMap_lt _ session hentry

omit [DecidableEq τ] in
/-- A session in `sessionMap` is attached. -/
theorem Confinement.attached_of_live (h : Confinement s) {session : SessionRef}
    (hlive : s.manager.Live session) : Attached s session := by
  intro conn hconn
  exact Option.some.inj (hconn.symm.trans (h.inv.connected _ session hlive))

omit [DecidableEq τ] in
/-- What is written through an attached session goes where it should. -/
theorem Confinement.deliver (h : Confinement s) {session : SessionRef}
    (hattached : Attached s session) (hlt : session < s.manager.created) (data : List Byte) :
    Confinement (s.deliver session data) := by
  have hheld : ∀ x, Held (s.deliver session data) x → Held s x :=
    fun x hx => hx.of_eq (by simp) (by simp) (by simp)
  have hlog : ∀ d ∈ (s.deliver session data).log,
      d ∈ s.log ∨ (d.session = session ∧ d.conn = s.connOf session) := by
    intro d hd
    unfold State.deliver at hd
    split at hd
    · next conn hconn =>
      rcases List.mem_append.mp hd with hd | hd
      · exact .inl hd
      · obtain rfl := List.mem_singleton.mp hd
        exact .inr ⟨rfl, hattached conn hconn⟩
    · exact .inl hd
  refine ⟨h.inv.deliver session data, fun d hd => ?_, fun d hd => ?_, fun x hx => ?_,
    fun fd hfd x hx => ?_⟩
  · rw [deliver_connOf]
    rcases hlog d hd with hd | ⟨hsession, hconn⟩
    · exact h.confined d hd
    · rw [hconn, hsession]
  · rw [deliver_manager]
    rcases hlog d hd with hd | ⟨hsession, -⟩
    · exact h.log_lt d hd
    · exact hsession ▸ hlt
  · simpa [Attached] using h.attached x (hheld x hx)
  · rw [deliver_manager]
    exact h.fresh fd (by simpa using hfd) x (hheld x hx)

omit [DecidableEq τ] in
/-- Steps that hold no new session, keep the log and the descriptors of all sessions, and open
no descriptor. -/
theorem Confinement.of_held (h : Confinement s) {s' : State τ} (hinv : Inv s')
    (hheld : ∀ x, Held s' x → Held s x) (hlog : s'.log = s.log) (hconn : s'.connOf = s.connOf)
    (hcreated : s'.manager.created = s.manager.created)
    (hfd : ∀ x, (s'.manager.object x).clientFd = (s.manager.object x).clientFd)
    (htable : ∀ fd conn, s'.fdTable fd = some conn → s.fdTable fd = some conn)
    (hnet : ∀ fd, s'.net = .accepted fd → s.net = .accepted fd) : Confinement s' := by
  refine ⟨hinv, ?_, ?_, fun x hx conn hc => ?_, fun fd hfd' x hx => ?_⟩
  · rw [Confined, hlog, hconn]
    exact h.confined
  · rw [hlog, hcreated]
    exact h.log_lt
  · rw [hfd] at hc
    rw [hconn]
    exact h.attached x (hheld x hx) conn (htable _ conn hc)
  · rw [hfd]
    exact h.fresh fd (hnet fd hfd') x (hheld x hx)

theorem Confinement.step (h : Confinement s) {a : Label τ} {s' : State τ} (hfresh : Fresh s a)
    (hs : Server.step s a = some s') : Confinement s' := by
  have hinv : Inv s' := h.inv.step hs
  cases effect_of_step hs with
  | @accept fd hnet hfd =>
    have hheld : ∀ x, Held (s.accept fd) x → Held s x := fun x hx => hx.of_eq rfl rfl rfl
    refine ⟨hinv, h.confined, h.log_lt, fun x hx conn hc => ?_, fun fd' hfd' x hx => ?_⟩
    · -- nothing that is held has the descriptor that is handed out
      have hne := hfresh x (hheld x hx)
      simp only [State.accept, Function.update_of_ne hne] at hc ⊢
      exact h.attached x (hheld x hx) conn hc
    · obtain rfl : fd = fd' := by simpa [State.accept] using hfd'
      exact hfresh x (hheld x hx)
  | @createSession fd hnet _ =>
    have hheld : ∀ x, Held (s.createSession fd) x → Held s x := fun x hx => hx.of_eq rfl rfl rfl
    have hsame : ∀ x, x < s.manager.created →
        (s.createSession fd).manager.object x = s.manager.object x ∧
          (s.createSession fd).connOf x = s.connOf x := fun x hlt =>
      ⟨createSession_object_of_lt fd hlt, Function.update_of_ne (Nat.ne_of_lt hlt) _ _⟩
    -- what was written or is held is older than the new session
    refine ⟨hinv, fun d hd => ?_, fun d hd => ?_, fun x hx conn hc => ?_, ?_⟩
    · rw [(hsame d.session (h.log_lt d hd)).2]
      exact h.confined d hd
    · exact Nat.lt_succ_of_lt (h.log_lt d hd)
    · obtain ⟨hobj, hconn⟩ := hsame x (h.held_lt (hheld x hx))
      rw [hobj] at hc
      rw [hconn]
      exact h.attached x (hheld x hx) conn hc
    · simp [State.createSession]
  | @welcome session data hnet =>
    have hlive := h.inv.welcoming session hnet
    exact h.deliver (h.attached_of_live hlive) (h.inv.wellFormed.sessionMap_lt _ _ hlive) data
  | @welcomed session hnet =>
    exact h.of_held hinv (fun x hx => hx.of_eq rfl rfl rfl) rfl rfl rfl (fun _ => rfl)
      (fun _ _ hc => hc) (by simp)
  | @receive fd request session hnet hsession =>
    -- the session in `sessionMap` is held by one more task
    have hheld : ∀ x, Held { s with tasks := s.tasks ++ [(session, request)] } x →
        Held s x ∨ x = session := by
      intro x hx
      cases hx with
      | task hmem =>
        rcases List.mem_append.mp hmem with hmem | hmem
        · exact .inl (.task hmem)
        · exact .inr (Prod.mk.inj (List.mem_singleton.mp hmem)).1
      | worker hrun => exact .inl (.worker hrun)
      | user hentry => exact .inl (.user hentry)
    refine ⟨hinv, h.confined, h.log_lt, fun x hx => ?_, by simp [hnet]⟩
    rcases hheld x hx with hx | rfl
    · exact h.attached x hx
    · exact h.attached_of_live (h.inv.wellFormed.live hsession)
  | @removeSession fd _ _ =>
    refine h.of_held hinv (fun x hx => ?_) rfl rfl (by simp) (by simp) (fun _ _ hc => hc)
      (by simp)
    refine hx.of_subset (fun _ hp => hp) (fun _ _ hw => .worker hw) (fun userId hentry => ?_)
    · cases hfd : s.manager.sessionMap fd with
      | none =>
        simp only [removeSession_of_none hfd] at hentry
        exact .user hentry
      | some session =>
        simp only [removeSession_userMap_of_some hfd] at hentry
        split_ifs at hentry
        exact .user hentry
  | @close fd hnet =>
    refine h.of_held hinv (fun x hx => hx.of_eq rfl rfl rfl) rfl rfl rfl (fun _ => rfl)
      (fun fd' conn hc => ?_) (by simp)
    simp only [Function.update_apply] at hc
    split_ifs at hc
    exact hc
  | @start t session request tasks _ htasks =>
    have hheld : Held s session := .task (by rw [htasks]; exact List.mem_cons_self)
    refine h.of_held hinv (fun x hx => ?_) rfl rfl rfl (fun _ => rfl) (fun _ _ hc => hc)
      (fun _ hc => hc)
    exact hx.of_subset (fun p hp => by rw [htasks]; exact List.mem_cons_of_mem _ hp)
      (fun _ _ hw => held_of_setWorker hheld hw) (fun _ hu => .user hu)
  | @advance t session op todo ops manager hrun _ hexec =>
    obtain ⟨hcreated, -, hfd⟩ := exec_frame hexec
    refine h.of_held hinv (fun x hx => ?_) rfl rfl hcreated hfd (fun _ _ hc => hc)
      (fun _ hc => hc)
    exact hx.of_subset (fun _ hp => hp) (fun _ _ hw => held_of_setWorker (.worker hrun) hw)
      (fun _ hu => held_of_exec hrun hexec hu)
  | lock _ _ =>
    exact h.of_held hinv (fun x hx => hx.of_eq rfl rfl rfl) rfl rfl rfl (fun _ => rfl)
      (fun _ _ hc => hc) (fun _ hc => hc)
  | @reply t session todo data hrun =>
    exact h.deliver (h.attached session (.worker hrun)) (h.held_lt (.worker hrun)) data
  | @push t userId session data _ hentry =>
    exact h.deliver (h.attached session (.user hentry)) (h.held_lt (.user hentry)) data
  | @done t session send todo mutex hrun =>
    refine h.of_held hinv (fun x hx => ?_) rfl rfl rfl (fun _ => rfl) (fun _ _ hc => hc)
      (fun _ hc => hc)
    exact hx.of_subset (fun _ hp => hp) (fun _ _ hw => held_of_setWorker (.worker hrun) hw)
      (fun _ hu => .user hu)
  | @finish t session hrun =>
    refine h.of_held hinv (fun x hx => ?_) rfl rfl rfl (fun _ => rfl) (fun _ _ hc => hc)
      (fun _ hc => hc)
    refine hx.of_subset (fun _ hp => hp) (fun u todo hw => ?_) (fun _ hu => .user hu)
    simp only [State.setWorker, Function.update_apply] at hw
    split_ifs at hw
    exact .worker hw

end Step

/-! ### The result -/

/-- **Confinement.** In a run in which `accept` never answers a descriptor while a session built
for it is held, everything ever written went to the connection its session was built for. -/
theorem confined_of_fresh (l : List (Label τ)) (h : Along step Fresh .init l) :
    Always step Confined .init l := by
  have hstep : ∀ (s : State τ) a s', Confinement s → Fresh s a → step s a = some s' →
      Confinement s' := fun _ _ _ hs hfresh hstep => hs.step hfresh hstep
  exact (always_of_along hstep .init h).mono fun _ hs => hs.confined

/-- A client sends a request and disconnects; before its handler replies, the kernel gives the
descriptor to the next client. -/
def misdirected : List (Label Unit) :=
  [.accept 5, .createSession, .welcomed, .receive 5 (.other [.reply]), .start (),
   .removeSession 5, .close, .accept 5, .createSession, .welcomed, .reply () [0x45, 0x43]]

/-- The reply of `misdirected` for the first connection reaches the second one. -/
theorem misdirected_not_confined :
    ∃ s, run step .init misdirected = some s ∧ s.log = [⟨0, 1, [0x45, 0x43]⟩] ∧
      s.connOf 0 = 0 ∧ ¬ Confined s := by
  have hlog : ∀ s, run step .init misdirected = some s →
      s.log = [⟨0, 1, [0x45, 0x43]⟩] ∧ s.connOf 0 = 0 := by
    rintro s ⟨⟩
    decide
  obtain ⟨hs, hconn⟩ := hlog _ rfl
  refine ⟨_, rfl, hs, hconn, fun h => ?_⟩
  have hd := h ⟨0, 1, [0x45, 0x43]⟩ (by rw [hs]; exact List.mem_singleton_self _)
  exact absurd (hd.trans hconn) (by decide)

/-- A client is welcomed and disconnects, and its descriptor is given out again. -/
def orderlyReuse : List (Label Unit) :=
  [.accept 5, .createSession, .welcome [0x45], .welcomed, .removeSession 5, .close, .accept 5]

/-- The rule on `orderlyReuse`, where nobody holds the first session any more. -/
theorem orderlyReuse_confined : Always step Confined .init orderlyReuse := by
  refine confined_of_fresh orderlyReuse ?_
  rintro s₁ ⟨⟩
  refine ⟨fun x hx => ?_, ?_⟩
  · cases hx with
    | task h => cases h
    | worker h => cases h
    | user h => cases h
  rintro s₂ ⟨⟩
  refine ⟨trivial, ?_⟩
  rintro s₃ ⟨⟩
  refine ⟨trivial, ?_⟩
  rintro s₄ ⟨⟩
  refine ⟨trivial, ?_⟩
  rintro s₅ ⟨⟩
  refine ⟨trivial, ?_⟩
  rintro s₆ ⟨⟩
  refine ⟨trivial, ?_⟩
  rintro s₇ ⟨⟩
  refine ⟨fun x hx => ?_, trivial⟩
  cases hx with
  | task h => cases h
  | worker h => cases h
  | user h => cases h

end Server

end ItsBedalyo
