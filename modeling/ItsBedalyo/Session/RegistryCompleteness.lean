import ItsBedalyo.Lib.Transition
import ItsBedalyo.Session.SessionManager

/-!
# Registry completeness

Connects, logins, logouts and disconnects, each handled to completion before the next. The
history `registrar` remembers for every user the session that registered it last, until that
session logs out, disconnects or authenticates again; a push to the user should reach that
session.

The registry forgets such a session in one situation. `removeUser` and `removeSession` erase the
entry of an id without looking at the session it points to, so an older session of the same user
takes the newer one's entry with it. `complete_iff_undisturbed` says that this is the only one.
-/

namespace ItsBedalyo

namespace SessionManager

/-- The registry's part in a successful `handleLogin` or `handleAdminInit`. -/
def handleLogin (m : SessionManager) (session : SessionRef) (userId : String) (role : ℤ) :
    SessionManager :=
  (m.authenticate session userId role).registerUser userId role session

/-- The registry's part in `handleLogout`. -/
def handleLogout (m : SessionManager) (session : SessionRef) : SessionManager :=
  let userId := (m.object session).userId
  if userId = "" then m else (m.removeUser userId).clearAuth session

instance (m : SessionManager) (session : SessionRef) : Decidable (m.Live session) :=
  inferInstanceAs (Decidable (_ = _))

end SessionManager

namespace Completeness

open SessionManager Transition

/-- What happens to the registry, one request or connection after the other. -/
inductive Event
  | connect (fd : Fd)
  | login (session : SessionRef) (userId : String) (role : ℤ)
  | logout (session : SessionRef)
  | disconnect (fd : Fd)
  deriving DecidableEq

/-- The registry, and who registered each user last and still means it. -/
structure Registry where
  manager : SessionManager
  registrar : String → Option SessionRef

/-- Nobody has connected yet. -/
def Registry.init : Registry := ⟨.init, fun _ => none⟩

/-- The session no longer stands for any user. -/
def forget (session : SessionRef) (registrar : String → Option SessionRef) :
    String → Option SessionRef :=
  fun userId => if registrar userId = some session then none else registrar userId

/-- One event, handled to completion. A descriptor is accepted again only after the session
that had it was removed, and requests come from live sessions. -/
def step (r : Registry) : Event → Option Registry
  | .connect fd =>
    if r.manager.sessionMap fd = none then
      some { r with manager := r.manager.createSession fd }
    else none
  | .login session userId role =>
    if r.manager.Live session then
      some ⟨r.manager.handleLogin session userId role,
        Function.update (forget session r.registrar) userId (some session)⟩
    else none
  | .logout session =>
    if r.manager.Live session then
      some ⟨r.manager.handleLogout session, forget session r.registrar⟩
    else none
  | .disconnect fd =>
    match r.manager.sessionMap fd with
    | none => none
    | some session => some ⟨r.manager.removeSession fd, forget session r.registrar⟩

/-- Every user is found in the session that registered it last and still means it. -/
def Complete (r : Registry) : Prop :=
  ∀ userId session, r.registrar userId = some session →
    r.manager.getSessionByUserId userId = some session

/-- The entry under the session's user id is not another live session that is logged in under
that id. -/
def OwnEntry (m : SessionManager) (session : SessionRef) : Prop :=
  (m.object session).userId = "" ∨
    ∀ other, m.userMap (m.object session).userId = some other →
      m.LoggedInAs other (m.object session).userId → other = session

/-- A logout or disconnect finds its own entry. -/
def Undisturbed (r : Registry) : Event → Prop
  | .logout session => OwnEntry r.manager session
  | .disconnect fd => ∀ session, r.manager.sessionMap fd = some session →
      OwnEntry r.manager session
  | _ => True

theorem forget_eq_some {session s : SessionRef} {registrar : String → Option SessionRef}
    {userId : String} :
    forget session registrar userId = some s ↔ registrar userId = some s ∧ s ≠ session := by
  unfold forget
  split_ifs with h
  · simp only [h, Option.some.injEq, false_iff, not_and, not_not]
    exact fun hs => hs.symm
  · refine ⟨fun hs => ⟨hs, ?_⟩, fun hs => hs.1⟩
    rintro rfl
    exact h hs

/-! ### The invariant behind the history -/

/-- The history agrees with the registry: a registrar is logged in as its user, and an entry
whose session is logged in as its user is the registrar. -/
structure Inv (r : Registry) : Prop where
  wellFormed : r.manager.WellFormed
  loggedIn : ∀ u s, r.registrar u = some s → r.manager.LoggedInAs s u
  registrar : ∀ u s, u ≠ "" → r.manager.userMap u = some s → r.manager.LoggedInAs s u →
    r.registrar u = some s

theorem Inv.init : Inv .init where
  wellFormed := .init
  loggedIn := by simp [Registry.init]
  registrar := by simp [Registry.init, SessionManager.init]

/-- Being logged in depends on the session's object and its entry in `sessionMap` only. -/
theorem loggedInAs_congr {m m' : SessionManager} {s : SessionRef} {u : String}
    (hobj : m'.object s = m.object s)
    (hmap : m'.sessionMap (m.object s).clientFd = some s ↔
      m.sessionMap (m.object s).clientFd = some s) :
    m'.LoggedInAs s u ↔ m.LoggedInAs s u := by
  constructor
  · rintro ⟨hlive, hauth, hid⟩
    rw [Live, hobj] at hlive
    exact ⟨hmap.mp hlive, hobj ▸ hauth, hobj ▸ hid⟩
  · rintro ⟨hlive, hauth, hid⟩
    refine ⟨?_, hobj ▸ hauth, hobj ▸ hid⟩
    rw [Live, hobj]
    exact hmap.mpr hlive

section Step

variable {r : Registry}

theorem Inv.connect (h : Inv r) {fd : Fd} (hfree : r.manager.sessionMap fd = none) :
    Inv { r with manager := r.manager.createSession fd } := by
  have hsame : ∀ u s, s < r.manager.created →
      ((r.manager.createSession fd).LoggedInAs s u ↔ r.manager.LoggedInAs s u) := by
    intro u s hlt
    refine loggedInAs_congr (createSession_object_of_lt fd hlt) ?_
    rw [createSession_sessionMap, Function.update_apply]
    split_ifs with hfd
    · rw [hfd, hfree]
      simp [Nat.ne_of_gt hlt]
    · exact Iff.rfl
  refine ⟨h.wellFormed.createSession fd, fun u s hs => ?_, fun u s hu hs hin => ?_⟩
  · have hin := h.loggedIn u s hs
    exact (hsame u s (h.wellFormed.sessionMap_lt _ s hin.live)).mpr hin
  · exact h.registrar u s hu hs ((hsame u s (h.wellFormed.userMap_lt u s hs)).mp hin)

theorem Inv.login (h : Inv r) {session : SessionRef} (hlive : r.manager.Live session)
    (userId : String) (role : ℤ) :
    Inv ⟨r.manager.handleLogin session userId role,
      Function.update (forget session r.registrar) userId (some session)⟩ := by
  have hself : (r.manager.handleLogin session userId role).LoggedInAs session userId := by
    refine ⟨?_, by simp [handleLogin], by simp [handleLogin]⟩
    simpa [Live, handleLogin] using hlive
  have hsame : ∀ u s, s ≠ session →
      ((r.manager.handleLogin session userId role).LoggedInAs s u ↔
        r.manager.LoggedInAs s u) := by
    intro u s hne
    refine loggedInAs_congr ?_ Iff.rfl
    rw [handleLogin, registerUser_object, authenticate_object_of_ne _ _ _ hne,
      authenticate_object_of_ne _ _ _ hne]
  have hlt : session < r.manager.created := h.wellFormed.sessionMap_lt _ _ hlive
  refine ⟨(h.wellFormed.authenticate session userId role).registerUser hlt userId role,
    fun u s hs => ?_, fun u s hu hs hin => ?_⟩
  · by_cases huid : u = userId
    · subst huid
      simp only [Function.update_self, Option.some.injEq] at hs
      exact hs ▸ hself
    · simp only [Function.update_of_ne huid] at hs
      obtain ⟨hs, hne⟩ := forget_eq_some.mp hs
      exact (hsame u s hne).mpr (h.loggedIn u s hs)
  · by_cases huid : u = userId
    · subst huid
      simpa [handleLogin] using hs
    · -- an entry under another id cannot be the session that has just logged in
      have hne : s ≠ session := by
        rintro rfl
        exact huid (hin.userId_eq.symm.trans hself.userId_eq)
      simp only [handleLogin, registerUser_userMap, Function.update_of_ne huid,
        authenticate_userMap] at hs ⊢
      exact forget_eq_some.mpr ⟨h.registrar u s hu hs ((hsame u s hne).mp hin), hne⟩

/-- Logging out and disconnecting alike: the session is no longer logged in, the other sessions
are as before, and no entry is added. -/
theorem Inv.leave (h : Inv r) {session : SessionRef} {m' : SessionManager}
    (hwf : m'.WellFormed) (hout : ∀ u, u ≠ "" → ¬ m'.LoggedInAs session u)
    (hsame : ∀ u s, s ≠ session → (m'.LoggedInAs s u ↔ r.manager.LoggedInAs s u))
    (hmap : ∀ u s, m'.userMap u = some s → r.manager.userMap u = some s) :
    Inv ⟨m', forget session r.registrar⟩ := by
  refine ⟨hwf, fun u s hs => ?_, fun u s hu hs hin => ?_⟩
  · obtain ⟨hs, hne⟩ := forget_eq_some.mp hs
    exact (hsame u s hne).mpr (h.loggedIn u s hs)
  · have hne : s ≠ session := by
      rintro rfl
      exact hout u hu hin
    exact forget_eq_some.mpr ⟨h.registrar u s hu (hmap u s hs) ((hsame u s hne).mp hin), hne⟩

/-- The entries `handleLogout` leaves. -/
theorem handleLogout_userMap (m : SessionManager) (session : SessionRef) (u : String) :
    (m.handleLogout session).userMap u =
      if u = (m.object session).userId ∧ u ≠ "" then none else m.userMap u := by
  unfold handleLogout
  by_cases hempty : (m.object session).userId = ""
  · by_cases hu : u = "" <;> simp [hempty, hu]
  · by_cases hu : u = (m.object session).userId
    · simp [hu, hempty]
    · simp [hu, hempty]

theorem Inv.logout (h : Inv r) {session : SessionRef} :
    Inv ⟨r.manager.handleLogout session, forget session r.registrar⟩ := by
  by_cases hempty : (r.manager.object session).userId = ""
  · have hm : r.manager.handleLogout session = r.manager := by simp [handleLogout, hempty]
    rw [hm]
    refine h.leave h.wellFormed (fun u hu hin => hu ?_) (fun u s _ => Iff.rfl)
      (fun u s hs => hs)
    exact hin.userId_eq.symm.trans hempty
  · have hm : r.manager.handleLogout session =
        (r.manager.removeUser (r.manager.object session).userId).clearAuth session := by
      simp [handleLogout, hempty]
    rw [hm]
    refine h.leave ((h.wellFormed.removeUser _).clearAuth session) (fun u _ hin => ?_)
      (fun u s hne => ?_) (fun u s hs => ?_)
    · simpa using hin.isAuth
    · exact loggedInAs_congr (clearAuth_object_of_ne _ hne) Iff.rfl
    · rw [clearAuth_userMap, removeUser_userMap, Function.update_apply] at hs
      split_ifs at hs
      exact hs

theorem Inv.disconnect (h : Inv r) {fd : Fd} {session : SessionRef}
    (hfd : r.manager.sessionMap fd = some session) :
    Inv ⟨r.manager.removeSession fd, forget session r.registrar⟩ := by
  refine h.leave (h.wellFormed.removeSession fd) (fun u _ hin => ?_) (fun u s hne => ?_)
    (fun u s hs => ?_)
  · have hlive := hin.live
    rw [Live, removeSession_object, h.wellFormed.sessionMap_fd fd session hfd,
      removeSession_sessionMap, Function.update_self] at hlive
    cases hlive
  · refine loggedInAs_congr (by rw [removeSession_object]) ?_
    rw [removeSession_sessionMap, Function.update_apply]
    split_ifs with hfds
    · rw [hfds, hfd]
      simp [Ne.symm hne]
    · exact Iff.rfl
  · rw [removeSession_userMap_of_some hfd] at hs
    split_ifs at hs
    exact hs

theorem Inv.step (h : Inv r) {e : Event} {r' : Registry}
    (hs : Completeness.step r e = some r') : Inv r' := by
  cases e with
  | connect fd =>
    simp only [Completeness.step, Option.ite_none_right_eq_some, Option.some.injEq] at hs
    obtain ⟨hfree, rfl⟩ := hs
    exact h.connect hfree
  | login session userId role =>
    simp only [Completeness.step, Option.ite_none_right_eq_some, Option.some.injEq] at hs
    obtain ⟨hlive, rfl⟩ := hs
    exact h.login hlive userId role
  | logout session =>
    simp only [Completeness.step, Option.ite_none_right_eq_some, Option.some.injEq] at hs
    obtain ⟨-, rfl⟩ := hs
    exact h.logout
  | disconnect fd =>
    simp only [Completeness.step] at hs
    split at hs
    · cases hs
    · next session hfd =>
      obtain rfl := Option.some.inj hs
      exact h.disconnect hfd

end Step

/-! ### The result -/

/-- Erasing the entry of a session's user keeps the registry complete exactly if the entry was
the session's own. -/
theorem complete_forget_iff {r : Registry} (hinv : Inv r) (hc : Complete r)
    {session : SessionRef} {m' : SessionManager}
    (hmap : ∀ u, m'.userMap u = if u = (r.manager.object session).userId ∧ u ≠ "" then none
      else r.manager.userMap u) :
    Complete ⟨m', forget session r.registrar⟩ ↔ OwnEntry r.manager session := by
  constructor
  · intro hc'
    by_cases hempty : (r.manager.object session).userId = ""
    · exact .inl hempty
    · -- the other session is the user's registrar, and its entry has been erased
      refine .inr fun other hother hin => ?_
      by_contra hne
      have hreg := hinv.registrar _ other hempty hother hin
      have hfound := hc' _ other (forget_eq_some.mpr ⟨hreg, hne⟩)
      simp [getSessionByUserId, hmap, hempty] at hfound
  · rintro hown u s hs
    obtain ⟨hs, hne⟩ := forget_eq_some.mp hs
    have hentry : r.manager.userMap u = some s := hc u s hs
    simp only [getSessionByUserId, hmap]
    rw [if_neg]
    · exact hentry
    · -- a registrar under the id that is erased is the session that leaves
      rintro ⟨rfl, hempty⟩
      rcases hown with hown | hown
      · exact hempty hown
      · exact hne (hown s hentry (hinv.loggedIn _ s hs))

theorem complete_step_iff {r : Registry} {e : Event} {r' : Registry} (hinv : Inv r)
    (hc : Complete r) (hs : step r e = some r') : Complete r' ↔ Undisturbed r e := by
  cases e with
  | connect fd =>
    simp only [step, Option.ite_none_right_eq_some, Option.some.injEq] at hs
    obtain ⟨-, rfl⟩ := hs
    exact iff_of_true hc trivial
  | login session userId role =>
    simp only [step, Option.ite_none_right_eq_some, Option.some.injEq] at hs
    obtain ⟨-, rfl⟩ := hs
    refine iff_of_true (fun u s hu => ?_) trivial
    by_cases huid : u = userId
    · subst huid
      simpa [getSessionByUserId, handleLogin] using hu
    · simp only [Function.update_of_ne huid] at hu
      have hentry := hc u s (forget_eq_some.mp hu).1
      simpa [getSessionByUserId, handleLogin, Function.update_of_ne huid] using hentry
  | logout session =>
    simp only [step, Option.ite_none_right_eq_some, Option.some.injEq] at hs
    obtain ⟨-, rfl⟩ := hs
    exact complete_forget_iff hinv hc (handleLogout_userMap r.manager session)
  | disconnect fd =>
    simp only [step] at hs
    split at hs
    · cases hs
    · next session hfd =>
      obtain rfl := Option.some.inj hs
      rw [complete_forget_iff hinv hc (removeSession_userMap_of_some hfd)]
      simp [Undisturbed, hfd]

/-- **Registry completeness, exactly.** The registry is complete in every state of a run if and
only if every logout and disconnect of the run finds its own entry. -/
theorem complete_iff_undisturbed (events : List Event) :
    Always step Complete .init events ↔ Along step Undisturbed .init events := by
  have hinv : ∀ r e r', Inv r → step r e = some r' → Inv r' := fun _ _ _ h hs => h.step hs
  have hcomplete : Complete .init := by simp [Complete, Registry.init]
  exact always_iff_along hinv (fun _ _ _ h hc hs => complete_step_iff h hc hs) .init hcomplete

/-- One user, two devices: the older one logs out. -/
def twoDevices : List Event :=
  [.connect 5, .login 0 "kim" 0, .connect 6, .login 1 "kim" 0, .logout 0]

/-- After `twoDevices` the newer session, logged in and live, is no longer found. -/
theorem twoDevices_not_complete :
    ∃ r, run step .init twoDevices = some r ∧ r.registrar "kim" = some 1 ∧
      r.manager.LoggedInAs 1 "kim" ∧ r.manager.getSessionByUserId "kim" = none ∧
      ¬ Complete r := by
  have hreg : ∀ r, run step .init twoDevices = some r → r.registrar "kim" = some 1 ∧
      r.manager.Live 1 ∧ (r.manager.object 1).isAuth = true ∧
      (r.manager.object 1).userId = "kim" ∧ r.manager.getSessionByUserId "kim" = none := by
    rintro r ⟨⟩
    decide
  obtain ⟨hlast, hlive, hauth, hid, hnone⟩ := hreg _ rfl
  refine ⟨_, rfl, hlast, ⟨hlive, hauth, hid⟩, hnone, fun hc => ?_⟩
  cases hnone.symm.trans (hc "kim" 1 hlast)

end Completeness

end ItsBedalyo
