import ItsBedalyo.Session.ClientSession
import Mathlib.Logic.Function.Basic

/-!
# The session registry: `SessionManager`

The manager keeps two maps of `shared_ptr`s to session objects: `sessionMap` by descriptor and
`userMap` by user id. The identity of a session lives in the object itself, so the objects are
part of the state: a `SessionRef` is the identity of one object, `created` counts how many
there are, and `object` is what they hold. An object outlives its entries as long as somebody
still has the pointer, so none is ever taken away here.

Each operation below is what the source does under one lock (`sessionMutex` of the manager, or
the one of the session for `authenticate` and `clearAuth`).
-/

namespace ItsBedalyo

/-- Identity of a session object. -/
abbrev SessionRef := ℕ

/-- `SessionManager`, with the session objects its pointers refer to. -/
structure SessionManager where
  object : SessionRef → ClientSession
  created : ℕ
  sessionMap : Fd → Option SessionRef
  userMap : String → Option SessionRef

namespace SessionManager

/-- The manager before the first connection. -/
def init : SessionManager :=
  { object := fun _ => .new 0, created := 0, sessionMap := fun _ => none, userMap := fun _ => none }

/-- `createSession`. -/
def createSession (m : SessionManager) (fd : Fd) : SessionManager :=
  { m with
    object := Function.update m.object m.created (.new fd)
    created := m.created + 1
    sessionMap := Function.update m.sessionMap fd (some m.created) }

/-- `getSession`. -/
def getSession (m : SessionManager) (fd : Fd) : Option SessionRef := m.sessionMap fd

/-- `getSessionByUserId`. -/
def getSessionByUserId (m : SessionManager) (userId : String) : Option SessionRef :=
  m.userMap userId

/-- `removeSession`: the entry of the session's user goes, whichever session it points to. -/
def removeSession (m : SessionManager) (fd : Fd) : SessionManager :=
  match m.sessionMap fd with
  | none => m
  | some session =>
    let userId := (m.object session).userId
    { m with
      userMap := if userId = "" then m.userMap else Function.update m.userMap userId none
      sessionMap := Function.update m.sessionMap fd none }

/-- `session->authenticate`. -/
def authenticate (m : SessionManager) (session : SessionRef) (userId : String) (role : ℤ) :
    SessionManager :=
  { m with
    object := Function.update m.object session ((m.object session).authenticate userId role) }

/-- `registerUser`. -/
def registerUser (m : SessionManager) (userId : String) (role : ℤ) (session : SessionRef) :
    SessionManager :=
  { m.authenticate session userId role with
    userMap := Function.update m.userMap userId (some session) }

/-- `removeUser`. -/
def removeUser (m : SessionManager) (userId : String) : SessionManager :=
  { m with userMap := Function.update m.userMap userId none }

/-- `session->clearAuth`. -/
def clearAuth (m : SessionManager) (session : SessionRef) : SessionManager :=
  { m with object := Function.update m.object session (m.object session).clearAuth }

/-! ### What the operations leave alone -/

section Frame

variable (m : SessionManager) (fd : Fd) (userId : String) (role : ℤ) (s t : SessionRef)

@[simp] theorem createSession_created : (m.createSession fd).created = m.created + 1 := rfl

@[simp] theorem createSession_userMap : (m.createSession fd).userMap = m.userMap := rfl

@[simp] theorem createSession_sessionMap : (m.createSession fd).sessionMap =
    Function.update m.sessionMap fd (some m.created) := rfl

theorem createSession_object_self : (m.createSession fd).object m.created = .new fd :=
  Function.update_self ..

theorem createSession_object_of_lt {m : SessionManager} {s : SessionRef} (h : s < m.created) :
    (m.createSession fd).object s = m.object s :=
  Function.update_of_ne (Nat.ne_of_lt h) ..

@[simp] theorem removeSession_object : (m.removeSession fd).object = m.object := by
  unfold removeSession
  split <;> rfl

@[simp] theorem removeSession_created : (m.removeSession fd).created = m.created := by
  unfold removeSession
  split <;> rfl

@[simp] theorem removeSession_sessionMap :
    (m.removeSession fd).sessionMap = Function.update m.sessionMap fd none := by
  unfold removeSession
  split
  · next h => exact (Function.update_eq_self_iff.mpr h.symm).symm
  · rfl

@[simp] theorem authenticate_created : (m.authenticate s userId role).created = m.created := rfl

@[simp] theorem authenticate_sessionMap :
    (m.authenticate s userId role).sessionMap = m.sessionMap := rfl

@[simp] theorem authenticate_userMap : (m.authenticate s userId role).userMap = m.userMap := rfl

@[simp] theorem authenticate_object_self : (m.authenticate s userId role).object s =
    (m.object s).authenticate userId role := Function.update_self ..

theorem authenticate_object_of_ne {s t : SessionRef} (h : t ≠ s) :
    (m.authenticate s userId role).object t = m.object t := Function.update_of_ne h ..

@[simp] theorem authenticate_object_clientFd : ((m.authenticate s userId role).object t).clientFd =
    (m.object t).clientFd := by
  by_cases h : t = s
  · simp [h]
  · rw [authenticate_object_of_ne m userId role h]

@[simp] theorem registerUser_object : (m.registerUser userId role s).object =
    (m.authenticate s userId role).object := rfl

@[simp] theorem registerUser_created : (m.registerUser userId role s).created = m.created := rfl

@[simp] theorem registerUser_sessionMap :
    (m.registerUser userId role s).sessionMap = m.sessionMap := rfl

@[simp] theorem registerUser_userMap : (m.registerUser userId role s).userMap =
    Function.update m.userMap userId (some s) := rfl

@[simp] theorem removeUser_object : (m.removeUser userId).object = m.object := rfl

@[simp] theorem removeUser_created : (m.removeUser userId).created = m.created := rfl

@[simp] theorem removeUser_sessionMap : (m.removeUser userId).sessionMap = m.sessionMap := rfl

@[simp] theorem removeUser_userMap : (m.removeUser userId).userMap =
    Function.update m.userMap userId none := rfl

@[simp] theorem clearAuth_created : (m.clearAuth s).created = m.created := rfl

@[simp] theorem clearAuth_sessionMap : (m.clearAuth s).sessionMap = m.sessionMap := rfl

@[simp] theorem clearAuth_userMap : (m.clearAuth s).userMap = m.userMap := rfl

@[simp] theorem clearAuth_object_self : (m.clearAuth s).object s = (m.object s).clearAuth :=
  Function.update_self ..

theorem clearAuth_object_of_ne {s t : SessionRef} (h : t ≠ s) :
    (m.clearAuth s).object t = m.object t := Function.update_of_ne h ..

@[simp] theorem clearAuth_object_clientFd : ((m.clearAuth s).object t).clientFd =
    (m.object t).clientFd := by
  by_cases h : t = s
  · simp [h]
  · rw [clearAuth_object_of_ne m h]

end Frame

/-- The user entries `removeSession` leaves. -/
theorem removeSession_userMap_of_some {m : SessionManager} {fd : Fd} {session : SessionRef}
    (h : m.sessionMap fd = some session) (userId : String) :
    (m.removeSession fd).userMap userId =
      if userId = (m.object session).userId ∧ userId ≠ "" then none else m.userMap userId := by
  unfold removeSession
  rw [h]
  by_cases hempty : (m.object session).userId = ""
  · by_cases hid : userId = ""
    · simp [hempty, hid]
    · simp [hempty, hid]
  · simp only [if_neg hempty, Function.update_apply]
    by_cases hid : userId = (m.object session).userId
    · simp [hid, hempty]
    · simp [hid]

theorem removeSession_of_none {m : SessionManager} {fd : Fd} (h : m.sessionMap fd = none) :
    m.removeSession fd = m := by
  simp [removeSession, h]

/-! ### Live sessions and sound entries -/

/-- The session is in `sessionMap` under its own descriptor. -/
def Live (m : SessionManager) (session : SessionRef) : Prop :=
  m.sessionMap (m.object session).clientFd = some session

/-- The session is live and logged in as `userId`. -/
structure LoggedInAs (m : SessionManager) (session : SessionRef) (userId : String) : Prop where
  live : m.Live session
  isAuth : (m.object session).isAuth = true
  userId_eq : (m.object session).userId = userId

/-- Both maps point to sessions that exist, and a session in `sessionMap` carries the
descriptor it is filed under. -/
structure WellFormed (m : SessionManager) : Prop where
  sessionMap_lt : ∀ fd s, m.sessionMap fd = some s → s < m.created
  sessionMap_fd : ∀ fd s, m.sessionMap fd = some s → (m.object s).clientFd = fd
  userMap_lt : ∀ u s, m.userMap u = some s → s < m.created

theorem WellFormed.init : WellFormed .init := by
  refine ⟨?_, ?_, ?_⟩ <;> simp [SessionManager.init]

section WellFormed

variable {m : SessionManager} (h : m.WellFormed)

include h

theorem WellFormed.live {fd : Fd} {s : SessionRef} (hs : m.sessionMap fd = some s) :
    m.Live s := by
  rw [Live, h.sessionMap_fd fd s hs, hs]

theorem WellFormed.createSession (fd : Fd) : (m.createSession fd).WellFormed := by
  have hcases : ∀ fd' s, (m.createSession fd).sessionMap fd' = some s →
      (fd' = fd ∧ s = m.created) ∨ (m.sessionMap fd' = some s ∧ s < m.created) := by
    intro fd' s hs
    rw [createSession_sessionMap, Function.update_apply] at hs
    split_ifs at hs with hfd
    · exact .inl ⟨hfd, (Option.some.inj hs).symm⟩
    · exact .inr ⟨hs, h.sessionMap_lt fd' s hs⟩
  refine ⟨fun fd' s hs => ?_, fun fd' s hs => ?_, fun u s hs => ?_⟩
  · rcases hcases fd' s hs with ⟨-, rfl⟩ | ⟨-, hlt⟩
    · exact Nat.lt_succ_self _
    · exact Nat.lt_succ_of_lt hlt
  · rcases hcases fd' s hs with ⟨rfl, rfl⟩ | ⟨hs', hlt⟩
    · rw [createSession_object_self, ClientSession.new_clientFd]
    · rw [createSession_object_of_lt fd hlt, h.sessionMap_fd fd' s hs']
  · exact Nat.lt_succ_of_lt (h.userMap_lt u s hs)

theorem WellFormed.removeSession (fd : Fd) : (m.removeSession fd).WellFormed := by
  have hmap : ∀ fd' s, (m.removeSession fd).sessionMap fd' = some s →
      m.sessionMap fd' = some s := by
    intro fd' s hs
    rw [removeSession_sessionMap, Function.update_apply] at hs
    split_ifs at hs
    exact hs
  refine ⟨fun fd' s hs => ?_, fun fd' s hs => ?_, fun u s hs => ?_⟩
  · simpa using h.sessionMap_lt fd' s (hmap fd' s hs)
  · simpa using h.sessionMap_fd fd' s (hmap fd' s hs)
  · rw [removeSession_created]
    cases hfd : m.sessionMap fd with
    | none =>
      rw [removeSession_of_none hfd] at hs
      exact h.userMap_lt u s hs
    | some session =>
      rw [removeSession_userMap_of_some hfd] at hs
      split_ifs at hs
      exact h.userMap_lt u s hs

theorem WellFormed.authenticate (s : SessionRef) (userId : String) (role : ℤ) :
    (m.authenticate s userId role).WellFormed :=
  ⟨h.sessionMap_lt, fun fd t ht => by simpa using h.sessionMap_fd fd t ht, h.userMap_lt⟩

theorem WellFormed.registerUser {s : SessionRef} (hs : s < m.created) (userId : String)
    (role : ℤ) : (m.registerUser userId role s).WellFormed := by
  refine ⟨h.sessionMap_lt, fun fd t ht => by simpa using h.sessionMap_fd fd t ht, ?_⟩
  intro u t ht
  rw [registerUser_userMap, Function.update_apply] at ht
  split_ifs at ht
  · exact Option.some.inj ht ▸ hs
  · exact h.userMap_lt u t ht

theorem WellFormed.removeUser (userId : String) : (m.removeUser userId).WellFormed := by
  refine ⟨h.sessionMap_lt, h.sessionMap_fd, fun u t ht => ?_⟩
  rw [removeUser_userMap, Function.update_apply] at ht
  split_ifs at ht
  exact h.userMap_lt u t ht

theorem WellFormed.clearAuth (s : SessionRef) : (m.clearAuth s).WellFormed :=
  ⟨h.sessionMap_lt, fun fd t ht => by simpa using h.sessionMap_fd fd t ht, h.userMap_lt⟩

end WellFormed

end SessionManager

end ItsBedalyo
