import ItsBedalyo.Network.Server

/-!
# Registry soundness

A push to a user should only ever reach a session that is connected and logged in as that user:
every entry `u → s` of `userMap` should point to a session that is still in `sessionMap`, is
authenticated, and has user id `u`.

The operations do not keep that by themselves. `authenticate` changes the id of a session that
is filed under another one, `registerUser` files a session that has been removed, and
`removeSession` looks for an entry only if the id is not empty. `sound_iff_guarded` gives the
exact condition on the steps of a run under which every state is sound.
-/

namespace ItsBedalyo

namespace Server

open SessionManager Transition

/-- Every user entry points to a session that is live and logged in as that user. -/
def Sound (m : SessionManager) : Prop :=
  ∀ userId session, m.userMap userId = some session → m.LoggedInAs session userId

/-- The session is not filed under any other id. -/
def SoleEntry (m : SessionManager) (session : SessionRef) (userId : String) : Prop :=
  ∀ other, m.userMap other = some session → other = userId

/-- When an operation of a handler for `session` keeps the registry sound. -/
def OpGuarded (m : SessionManager) (session : SessionRef) : Op → Prop
  | .authenticate userId _ => SoleEntry m session userId
  | .registerUser userId _ => m.Live session ∧ SoleEntry m session userId
  | .clearAuth => ∀ userId, m.userMap userId ≠ some session
  | _ => True

variable {τ : Type*} [DecidableEq τ]

/-- When a step keeps the registry sound: a session changes its id only while it is not filed
under another one, registers only while it is live, loses its identity only when it has no
entry, and is not filed under the empty id when it is removed. -/
def Guarded (s : State τ) : Label τ → Prop
  | .removeSession fd => ∀ session, s.manager.sessionMap fd = some session →
      s.manager.userMap "" ≠ some session
  | .advance t =>
    match s.workers t with
    | .running session (op :: _) => OpGuarded s.manager session op
    | _ => True
  | _ => True

/-! ### The operations -/

section Operations

variable {m : SessionManager}

theorem sound_createSession (hm : m.WellFormed) (h : Sound m) {fd : Fd}
    (hfree : m.sessionMap fd = none) : Sound (m.createSession fd) := by
  intro u x hx
  have hin := h u x hx
  have hlt := hm.userMap_lt u x hx
  have hne : (m.object x).clientFd ≠ fd := by
    rintro rfl
    cases hfree.symm.trans hin.live
  have hobj := createSession_object_of_lt fd hlt
  refine ⟨?_, hobj ▸ hin.isAuth, hobj ▸ hin.userId_eq⟩
  rw [Live, hobj, createSession_sessionMap, Function.update_of_ne hne]
  exact hin.live

theorem sound_removeSession_iff (hm : m.WellFormed) (h : Sound m) {fd : Fd} :
    Sound (m.removeSession fd) ↔
      ∀ session, m.sessionMap fd = some session → m.userMap "" ≠ some session := by
  cases hfd : m.sessionMap fd with
  | none =>
    rw [removeSession_of_none hfd]
    exact iff_of_true h (by simp)
  | some session =>
    simp only [Option.some.injEq, forall_eq']
    have hmap := removeSession_userMap_of_some hfd
    constructor
    · -- the entry under the empty id is not looked for, and stays behind
      intro hafter hempty
      have hlive := (hafter "" session (by simp [hmap, hempty])).live
      rw [Live, removeSession_object, hm.sessionMap_fd fd session hfd,
        removeSession_sessionMap, Function.update_self] at hlive
      cases hlive
    · intro hempty u x hx
      rw [hmap] at hx
      split_ifs at hx with hu
      have hin := h u x hx
      have hne : x ≠ session := by
        rintro rfl
        refine hu ⟨hin.userId_eq.symm, ?_⟩
        rintro rfl
        exact hempty hx
      have hfdne : (m.object x).clientFd ≠ fd := by
        rintro rfl
        exact hne (Option.some.inj (hin.live.symm.trans hfd))
      refine ⟨?_, by simpa using hin.isAuth, by simpa using hin.userId_eq⟩
      rw [Live, removeSession_object, removeSession_sessionMap, Function.update_of_ne hfdne]
      exact hin.live

theorem sound_authenticate_iff (h : Sound m) (session : SessionRef) (userId : String) (role : ℤ) :
    Sound (m.authenticate session userId role) ↔ SoleEntry m session userId := by
  constructor
  · -- an entry of this session under another id would now be wrong
    intro h' u hu
    have hid := (h' u session hu).userId_eq
    simpa using hid.symm
  · intro hsole u x hx
    have hin := h u x hx
    by_cases hxs : x = session
    · subst hxs
      obtain rfl := hsole u hx
      exact ⟨by simpa [Live] using hin.live, by simp, by simp⟩
    · have hobj := authenticate_object_of_ne m userId role hxs
      exact ⟨by simpa [Live, hobj] using hin.live, hobj ▸ hin.isAuth, hobj ▸ hin.userId_eq⟩

theorem sound_registerUser_iff (h : Sound m) (session : SessionRef) (userId : String) (role : ℤ) :
    Sound (m.registerUser userId role session) ↔
      m.Live session ∧ SoleEntry m session userId := by
  constructor
  · intro h'
    refine ⟨by simpa [Live] using (h' userId session (by simp)).live, fun u hu => ?_⟩
    by_contra hne
    have hentry : (m.registerUser userId role session).userMap u = some session := by
      rw [registerUser_userMap, Function.update_of_ne hne]
      exact hu
    have hid := (h' u session hentry).userId_eq
    exact hne (by simpa using hid.symm)
  · rintro ⟨hlive, hsole⟩ u x hx
    rw [registerUser_userMap, Function.update_apply] at hx
    split_ifs at hx with hu
    · subst hu
      obtain rfl := Option.some.inj hx
      exact ⟨by simpa [Live] using hlive, by simp, by simp⟩
    · have hin := h u x hx
      have hxs : x ≠ session := by
        rintro rfl
        exact hu (hsole u hx)
      have hobj := authenticate_object_of_ne m userId role hxs
      refine ⟨by simpa [Live, hobj] using hin.live, ?_, ?_⟩
      · simpa [hobj] using hin.isAuth
      · simpa [hobj] using hin.userId_eq

theorem sound_removeUser (h : Sound m) (userId : String) : Sound (m.removeUser userId) := by
  intro u x hx
  rw [removeUser_userMap, Function.update_apply] at hx
  split_ifs at hx
  have hin := h u x hx
  exact ⟨hin.live, hin.isAuth, hin.userId_eq⟩

theorem sound_clearAuth_iff (h : Sound m) (session : SessionRef) :
    Sound (m.clearAuth session) ↔ ∀ userId, m.userMap userId ≠ some session := by
  constructor
  · intro h' u hu
    simpa using (h' u session hu).isAuth
  · intro hnone u x hx
    have hin := h u x hx
    have hxs : x ≠ session := by
      rintro rfl
      exact hnone u hx
    have hobj := clearAuth_object_of_ne m hxs
    exact ⟨by simpa [Live, hobj] using hin.live, hobj ▸ hin.isAuth, hobj ▸ hin.userId_eq⟩

/-- An operation of a handler keeps the registry sound exactly if it is guarded. -/
theorem sound_exec_iff (h : Sound m) {m' : SessionManager} {session : SessionRef} {op : Op}
    {ops : List Op} (hexec : exec m session op = some (m', ops)) :
    Sound m' ↔ OpGuarded m session op := by
  cases op with
  | authenticate userId role =>
    obtain ⟨rfl, -⟩ := Prod.mk.inj (Option.some.inj hexec)
    exact sound_authenticate_iff h session userId role
  | registerUser userId role =>
    obtain ⟨rfl, -⟩ := Prod.mk.inj (Option.some.inj hexec)
    exact sound_registerUser_iff h session userId role
  | readUserId =>
    obtain ⟨rfl, -⟩ := Prod.mk.inj (Option.some.inj hexec)
    exact iff_of_true h trivial
  | removeUser userId =>
    obtain ⟨rfl, -⟩ := Prod.mk.inj (Option.some.inj hexec)
    exact iff_of_true (sound_removeUser h userId) trivial
  | clearAuth =>
    obtain ⟨rfl, -⟩ := Prod.mk.inj (Option.some.inj hexec)
    exact sound_clearAuth_iff h session
  | send send => cases hexec

end Operations

/-! ### The result -/

theorem sound_step_iff {s s' : State τ} {a : Label τ} (hinv : Inv s) (h : Sound s.manager)
    (hs : step s a = some s') : Sound s'.manager ↔ Guarded s a := by
  cases effect_of_step hs with
  | @createSession fd hnet _ =>
    exact iff_of_true (sound_createSession hinv.wellFormed h (hinv.accepted fd hnet).1) trivial
  | @removeSession fd _ _ => exact sound_removeSession_iff hinv.wellFormed h
  | @advance t session op todo ops manager hrun _ hexec =>
    simp only [Guarded, hrun]
    exact sound_exec_iff h hexec
  | welcome _ => exact iff_of_true (by simpa using h) trivial
  | reply _ => exact iff_of_true (by simpa using h) trivial
  | push _ _ => exact iff_of_true (by simpa using h) trivial
  | accept _ _ => exact iff_of_true h trivial
  | welcomed _ => exact iff_of_true h trivial
  | receive _ _ => exact iff_of_true h trivial
  | close _ => exact iff_of_true h trivial
  | start _ _ => exact iff_of_true h trivial
  | lock _ _ => exact iff_of_true h trivial
  | done _ => exact iff_of_true h trivial
  | finish _ => exact iff_of_true h trivial

/-- **Registry soundness, exactly.** Every state of a run of the server is sound if and only if
every step of the run is guarded. -/
theorem sound_iff_guarded (l : List (Label τ)) :
    Always step (fun s => Sound s.manager) .init l ↔ Along step Guarded .init l := by
  have hinv : ∀ (s : State τ) a s', Inv s → step s a = some s' → Inv s' :=
    fun _ _ _ h hs => h.step hs
  have hsound : Sound (State.init : State τ).manager := by
    simp [Sound, State.init, SessionManager.init]
  exact always_iff_along hinv (fun _ _ _ h hI hs => sound_step_iff h hI hs) .init hsound

/-- One client logs in twice on the same socket, under two ids. -/
def loginTwice : List (Label Unit) :=
  [.accept 5, .createSession, .welcomed,
   .receive 5 (.login (some ("kim", 0))), .receive 5 (.login (some ("lee", 0))),
   .start (), .advance (), .advance (), .done (), .finish (),
   .start (), .advance (), .advance (), .done (), .finish ()]

/-- A client disconnects while its login is queued. -/
def loginAfterDisconnect : List (Label Unit) :=
  [.accept 5, .createSession, .welcomed, .receive 5 (.login (some ("kim", 0))),
   .removeSession 5, .close, .start (), .advance (), .advance (), .done (), .finish ()]

/-- After `loginTwice` the entry of the first id points to a session logged in as the second;
after `loginAfterDisconnect` an entry points to a session that has been removed. -/
theorem logins_not_sound :
    (∃ s, run step .init loginTwice = some s ∧ s.manager.userMap "kim" = some 0 ∧
      (s.manager.object 0).userId = "lee" ∧ ¬ Sound s.manager) ∧
    (∃ s, run step .init loginAfterDisconnect = some s ∧ s.manager.userMap "kim" = some 0 ∧
      s.manager.sessionMap 5 = none ∧ ¬ Sound s.manager) := by
  have htwice : ∀ s, run step .init loginTwice = some s →
      s.manager.userMap "kim" = some 0 ∧ (s.manager.object 0).userId = "lee" := by
    rintro s ⟨⟩
    decide
  have hlate : ∀ s, run step .init loginAfterDisconnect = some s →
      s.manager.userMap "kim" = some 0 ∧ (s.manager.object 0).clientFd = 5 ∧
        s.manager.sessionMap 5 = none := by
    rintro s ⟨⟩
    decide
  constructor
  · obtain ⟨hentry, hid⟩ := htwice _ rfl
    refine ⟨_, rfl, hentry, hid, fun h => ?_⟩
    have hkim := (h "kim" 0 hentry).userId_eq
    rw [hid] at hkim
    exact absurd hkim (by decide)
  · obtain ⟨hentry, hfd, hgone⟩ := hlate _ rfl
    refine ⟨_, rfl, hentry, hgone, fun h => ?_⟩
    have hlive := (h "kim" 0 hentry).live
    rw [Live, hfd, hgone] at hlive
    cases hlive

end Server

end ItsBedalyo
