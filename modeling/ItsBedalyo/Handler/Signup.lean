import ItsBedalyo.Handler.UserHandler

/-!
# Concurrent sign-ups

Any number of `handleSignup` calls, each on its own connection and one operation at a time, in
any interleaving and with any statement or commit throwing. A call's transaction inserts the
`USERS` row and what its role asks for (`SignupRows`), and nothing is published unless it is
complete. While the transaction is open its `USERS` row is locked and absent from the committed
table (`NewUsers`), so racing sign-ups of one id cannot both get there.

Every state satisfies `SignupsCommitted`: the new users have the rows of their role, no row is
without its user, and only calls answered with 200 have published anything.
-/

namespace ItsBedalyo

open RowLocking Interface AccountStatement

section Tables

variable {κ : Type} [DecidableEq κ] (key : String → κ)

namespace AccountTables

/-- The stores of an owner. -/
def storesOf (db : AccountTables κ) (k : κ) : List OwnedStoreRow :=
  db.stores.filter fun store => key store.ownerId = k

/-- User `k` has what a role asks for and nothing else. A table with a primary key on `user_id`
has one row or none for `k`. -/
structure Aligned (db : AccountTables κ) (k : κ) (role : ℤ) : Prop where
  customer : k ∈ db.customers ↔ role = 0
  owner : k ∈ db.owners ↔ role = 1
  stores : (db.storesOf key k).length = if role = 1 then 1 else 0

/-- There is nothing of `k` in the role tables. -/
structure Bare (db : AccountTables κ) (k : κ) : Prop where
  customer : k ∉ db.customers
  owner : k ∉ db.owners
  stores : db.storesOf key k = []

/-- Every row of the role tables has its `USERS` row. -/
def NoOrphans (db : AccountTables κ) : Prop := ∀ k ∉ db.users, db.Bare key k

end AccountTables

/-- What a complete sign-up transaction writes. -/
inductive SignupRows : List (AccountWrite κ) → Prop
  | customer {k : κ} {row : UserRow} {customer : CustomerRow} :
      row.role = 0 → SignupRows [.user k row, .customer k customer]
  | owner {k : κ} {row : UserRow} {owner : OwnerRow} {store : OwnedStoreRow} :
      row.role = 1 → key store.ownerId = k →
      SignupRows [.user k row, .owner k owner, .store store]
  | other {k : κ} {row : UserRow} : row.role ≠ 0 → row.role ≠ 1 → SignupRows [.user k row]

/-- The `USERS` rows of a transaction are not in the committed table. -/
def NewUsers (ws : List (AccountWrite κ)) (db : AccountTables κ) : Prop :=
  ∀ k row, AccountWrite.user k row ∈ ws → k ∉ db.users

variable {key} {db : AccountTables κ} {ws : List (AccountWrite κ)}

/-- Nobody else writes a `USERS` row that is locked. -/
theorem stable_newUsers : Stable (AccountTables.storage key) ws (NewUsers ws) := by
  intro db u hu hnew k row hrow
  have hne := hu (.user k row) hrow (.user k) rfl
  cases u with
  | user k' row' =>
    have hk : k ≠ k' := fun hk => hne (congrArg (fun k => some (AccountRow.user k)) hk.symm)
    exact fun hmem => ((AList.mem_insert _).mp hmem).elim hk (hnew k row hrow)
  | customer | owner | store | addresses => exact hnew k row hrow

/-- A complete sign-up gives its new user what the role asks for, and concerns nobody else. -/
theorem SignupRows.writes (h : SignupRows key ws) (hnew : NewUsers ws db)
    (horphans : db.NoOrphans key) :
    ∃ k row, ((AccountTables.storage key).writes db ws).users = db.users.insert k row ∧
      ((AccountTables.storage key).writes db ws).Aligned key k row.role ∧
      ∀ k' ≠ k, (k' ∈ ((AccountTables.storage key).writes db ws).customers ↔ k' ∈ db.customers) ∧
        (k' ∈ ((AccountTables.storage key).writes db ws).owners ↔ k' ∈ db.owners) ∧
        ((AccountTables.storage key).writes db ws).storesOf key k' = db.storesOf key k' := by
  cases h with
  | @customer k row customer hrole =>
    obtain ⟨-, howner, hstores⟩ := horphans k (hnew k row (.head _))
    refine ⟨k, row, rfl, ⟨?_, ?_, ?_⟩, fun k' hk' => ⟨?_, Iff.rfl, rfl⟩⟩
    · simp [AccountTables.write, hrole]
    · simpa [AccountTables.write, hrole] using howner
    · simpa [AccountTables.write, AccountTables.storesOf, hrole] using hstores
    · simp [AccountTables.write, hk']
  | @owner k row owner store hrole hkey =>
    obtain ⟨hcustomer, -, hstores⟩ := horphans k (hnew k row (.head _))
    refine ⟨k, row, rfl, ⟨?_, ?_, ?_⟩, fun k' hk' => ⟨Iff.rfl, ?_, ?_⟩⟩
    · simpa [AccountTables.write, hrole] using hcustomer
    · simp [AccountTables.write, hrole]
    · have hstores' : db.stores.filter (fun store => key store.ownerId = k) = [] := hstores
      simp [AccountTables.write, AccountTables.storesOf, hrole, hkey, hstores']
    · simp [AccountTables.write, hk']
    · simp [AccountTables.write, AccountTables.storesOf, hkey, hk'.symm]
  | @other k row hzero hone =>
    obtain ⟨hcustomer, howner, hstores⟩ := horphans k (hnew k row (.head _))
    refine ⟨k, row, rfl, ⟨?_, ?_, ?_⟩, fun k' hk' => ⟨Iff.rfl, Iff.rfl, rfl⟩⟩
    · simpa [AccountTables.write, hzero] using hcustomer
    · simpa [AccountTables.write, hone] using howner
    · simpa [AccountTables.write, AccountTables.storesOf, hone] using hstores

end Tables

/-! ### A call -/

/-- A call's connection, whether it has published anything, and whether it has answered. -/
structure SignupState (κ : Type) where
  autoCommit : Bool
  pending : List (AccountWrite κ)
  published : Bool
  replied : Bool

section Call

variable {κ : Type} [DecidableEq κ] (key : String → κ)

namespace SignupState

/-- At the beginning. -/
def fresh : SignupState κ := ⟨true, [], false, false⟩

/-- A statement that the call may run. The `USERS` row comes first. -/
def MayInsert (c : SignupState κ) : AccountStatement → Prop
  | insertUser _ _ _ _ _ => c.autoCommit = false ∧ c.pending = []
  | insertCustomer _ _ | insertOwner _ _ _ | insertStore _ _ _ _ => c.autoCommit = false
  | _ => False

end SignupState

/-- The operations of a sign-up: only a complete transaction is committed, before the answer, and
an answer other than 200 says that nothing was. -/
def signupSpec : DaoSpec AccountStatement AccountQuery AuthResDTO AccountQuery.Answer
    (SignupState κ) where
  pre c
    | .setAutoCommit _ => c.pending = []
    | .executeUpdate stmt => c.MayInsert stmt
    | .commit => SignupRows key c.pending ∧ c.replied = false
    | .sendPacket reply => reply.status ≠ 200 → c.published = false
    | _ => True
  returns c
    | .setAutoCommit on, _, c' => c' = { c with autoCommit := on }
    | .executeUpdate stmt, n, c' => ∃ db id ws, stmt.effect key db id = some (n, ws) ∧
        c' = { c with pending := c.pending ++ ws }
    | .commit, _, c' => c' = { c with pending := [], published := true }
    | .rollback, _, c' => c' = { c with pending := [] }
    | .sendPacket _, _, c' => c' = { c with replied := true }
    | _, _, c' => c' = c
  throws c
    | .executeUpdate _, c' => c' = c ∨ c' = { c with pending := [] }
    | .sendPacket _, _ => False
    | _, c' => c' = c

variable {key}

/-- What `INSERT INTO USERS` writes. -/
theorem effect_insertUser {db : AccountTables κ} {id : ℤ} {n : ℕ} {ws : List (AccountWrite κ)}
    {userId password userName phoneNumber : String} {role : ℤ}
    (h : (insertUser userId password userName phoneNumber role).effect key db id = some (n, ws)) :
    key userId ∉ db.users ∧
      ws = [.user (key userId) ⟨password, userName, phoneNumber, role, defaultGrade⟩] := by
  simp only [effect] at h
  split at h
  · cases h
  · next hnone =>
    cases h
    exact ⟨AList.lookup_eq_none.mp hnone, rfl⟩

theorem effect_insertCustomer {db : AccountTables κ} {id : ℤ} {n : ℕ}
    {ws : List (AccountWrite κ)} {userId address : String}
    (h : (insertCustomer userId address).effect key db id = some (n, ws)) :
    ws = [.customer (key userId) ⟨some address, defaultGrade⟩] := by
  simp only [effect] at h
  split at h <;> cases h
  rfl

theorem effect_insertOwner {db : AccountTables κ} {id : ℤ} {n : ℕ} {ws : List (AccountWrite κ)}
    {userId businessNumber accountNumber : String}
    (h : (insertOwner userId businessNumber accountNumber).effect key db id = some (n, ws)) :
    ws = [.owner (key userId) ⟨some businessNumber, some accountNumber⟩] := by
  simp only [effect] at h
  split at h <;> cases h
  rfl

theorem effect_insertStore {db : AccountTables κ} {id : ℤ} {n : ℕ} {ws : List (AccountWrite κ)}
    {ownerId storeName category storeAddress : String}
    (h : (insertStore ownerId storeName category storeAddress).effect key db id = some (n, ws)) :
    ws = [.store ⟨id, ownerId, storeName, category, some storeAddress⟩] := by
  simp only [effect] at h
  split at h <;> cases h
  rfl

/-- The `USERS` rows of a transaction stay new. -/
theorem SignupState.MayInsert.newUsers {c : SignupState κ} {stmt : AccountStatement}
    (h : c.MayInsert stmt) {db : AccountTables κ} {id : ℤ} {n : ℕ} {ws : List (AccountWrite κ)}
    (heffect : stmt.effect key ((AccountTables.storage key).writes db c.pending) id = some (n, ws))
    (hnew : NewUsers c.pending db) : c.autoCommit = false ∧ NewUsers (c.pending ++ ws) db := by
  cases stmt with
  | insertUser =>
    obtain ⟨hmode, hpending⟩ := h
    rw [hpending, Storage.writes_nil] at heffect
    obtain ⟨hmissing, rfl⟩ := effect_insertUser heffect
    refine ⟨hmode, fun k row hrow => ?_⟩
    rw [hpending, List.nil_append, List.mem_singleton] at hrow
    cases hrow
    exact hmissing
  | insertCustomer =>
    obtain rfl := effect_insertCustomer heffect
    exact ⟨h, fun k row hrow => hnew k row (by simpa using hrow)⟩
  | insertOwner =>
    obtain rfl := effect_insertOwner heffect
    exact ⟨h, fun k row hrow => hnew k row (by simpa using hrow)⟩
  | insertStore =>
    obtain rfl := effect_insertStore heffect
    exact ⟨h, fun k row hrow => hnew k row (by simpa using hrow)⟩
  | _ => exact h.elim

/-- The inserts of a role complete the transaction. -/
theorem wp_insertRole (dto : SignupReqDTO) {row : UserRow} (hrow : row.role = dto.role)
    {Q : Except Exn Unit → SignupState κ → Prop}
    (hok : ∀ ws, SignupRows key ws → Q (.ok ()) ⟨false, ws, false, false⟩)
    (herror : ∀ what ws, Q (.error (.sql what)) ⟨false, ws, false, false⟩) :
    (signupSpec key).interface.wp (UserDAO.insertRole dto) Q
      ⟨false, [.user (key dto.userId) row], false, false⟩ := by
  simp only [UserDAO.insertRole, wp_ite]
  refine ⟨fun hzero => ?_, fun hzero => ⟨fun hone => ?_, fun hone => ?_⟩⟩
  · simp [signupSpec, SignupState.MayInsert, herror]
    rintro c' n db id ws heffect rfl
    rw [effect_insertCustomer heffect]
    exact hok _ (.customer (hrow.trans hzero))
  · simp [signupSpec, SignupState.MayInsert, herror]
    rintro n c' db id ws heffect rfl
    rw [effect_insertOwner heffect]
    refine ⟨⟨rfl, ?_, fun what => ⟨herror _ _, herror _ _⟩⟩, fun what => herror _ _⟩
    rintro n' c' db' id' ws' heffect' rfl
    rw [effect_insertStore heffect']
    exact hok _ (.owner (hrow.trans hone) rfl)
  · exact hok _ (.other (hrow ▸ hzero) (hrow ▸ hone))

/-- `insertUser` publishes a complete sign-up or nothing, and returns `SUCCESS` only if it has
published. -/
theorem wp_insertUser (dto : SignupReqDTO) :
    (signupSpec key).interface.wp (UserDAO.insertUser dto)
      (fun r c => ∃ result, r = .ok result ∧ c.pending = [] ∧ c.replied = false ∧
        (result ≠ .SUCCESS → c.published = false)) .fresh := by
  simp [UserDAO.insertUser, UserDAO.insertRows, signupSpec, SignupState.fresh,
    SignupState.MayInsert]
  rintro n c' db id ws heffect rfl
  rw [(effect_insertUser heffect).2]
  exact wp_insertRole dto rfl (fun ws h => ⟨⟨h, rfl⟩, rfl, rfl⟩) fun what ws => ⟨rfl, rfl⟩

/-- `handleSignup` keeps to the interface. -/
theorem wp_handleSignup (body : Except Exn SignupReqDTO) :
    (signupSpec key).interface.wp (UserHandler.handleSignup body) (fun _ _ => True) .fresh := by
  cases body with
  | error e => simp [UserHandler.handleSignup, signupSpec, SignupState.fresh]
  | ok req =>
    simp only [UserHandler.handleSignup, wp_bind, Dao.wp_catchStd, wp_ofExcept]
    refine wp_mono ?_ (wp_insertUser req)
    rintro r c ⟨result, rfl, -, -, hresult⟩
    cases result with
    | SUCCESS => simp [signupSpec, UserHandler.signupResponse]
    | DUPLICATE_ID | DUPLICATE_PHONE | SERVER_ERROR =>
      simp [signupSpec, UserHandler.signupResponse, hresult]

end Call

/-! ### Any number of calls -/

section Calls

variable {τ κ : Type} [DecidableEq τ] [DecidableEq κ] {key : String → κ}

/-- The world of sign-ups. -/
abbrev SignupWorld (τ κ : Type) :=
  DaoWorld τ (AccountTables κ) (AccountWrite κ) (AccountRow κ) AuthResDTO

/-- What the state of a call says of the world. -/
structure SignupState.Describes (key : String → κ) (w : SignupWorld τ κ) (t : τ)
    (c : SignupState κ) : Prop where
  holds : Holds (AccountTables.storage key) w.server t ⟨c.autoCommit, c.pending⟩
    (NewUsers c.pending)
  silent : c.published = false → ∀ u, (t, u) ∉ w.server.log
  replied : ∀ reply, (t, reply) ∈ w.sent →
    c.replied = true ∧ (reply.status ≠ 200 → c.published = false)

/-- What is committed. -/
structure SignupsCommitted (key : String → κ) (db : AccountTables κ) (w : SignupWorld τ κ) :
    Prop where
  /-- New users have the rows of their role, -/
  aligned : ∀ k row, w.server.tables.users.lookup k = some row → k ∉ db.users →
    w.server.tables.Aligned key k row.role
  /-- no row of the role tables is without its user, -/
  noOrphans : w.server.tables.NoOrphans key
  /-- the tables are the first ones with what the calls have published, -/
  logged : w.server.tables = (AccountTables.storage key).writes db (w.server.log.map Prod.snd)
  /-- and a call that does not answer 200 has published nothing. -/
  unchanged : ∀ t reply, (t, reply) ∈ w.sent → reply.status ≠ 200 → ∀ u, (t, u) ∉ w.server.log

variable {w w' : SignupWorld τ κ} {t : τ} {c : SignupState κ}
  {o : DaoOp AccountStatement AccountQuery AuthResDTO} {e : DaoEnv}
  {r : Except Exn (o.Res AccountQuery.Answer)}

/-- An operation does to its own call what the interface says. -/
theorem SignupState.Describes.exec (h : c.Describes key w t) (hpre : (signupSpec key).pre c o)
    (he : (accountSchema key).exec t o e w = some (r, w')) :
    ∃ c', (signupSpec key).interface.post c o r c' ∧ c'.Describes key w' t := by
  have hconn := h.holds.conns
  cases o with
  | setAutoCommit on =>
    cases e <;> cases he
    -- nothing is pending here, so turning the auto commit on publishes nothing
    have hpending : c.pending = [] := hpre
    rw [hpending] at hconn
    refine ⟨_, rfl, ?_, fun hc => ?_, h.replied⟩
    · rw [hpending]
      refine Holds.of_clean ?_ fun _ _ hu => (nomatch hu)
      rw [Server.setAutoCommit_conns_self, hconn]
      cases on <;> rfl
    · cases on with
      | true =>
        show ∀ u, (t, u) ∉ w.server.log ++ (w.server.conns t).pending.map fun u => (t, u)
        rw [hconn, List.map_nil, List.append_nil]
        exact h.silent hc
      | false => exact h.silent hc
  | prepareStatement =>
    cases e <;> cases he
    · exact ⟨c, rfl, h⟩
    · exact ⟨c, ⟨trivial, rfl⟩, h⟩
  | executeUpdate stmt =>
    cases e with
    | ok => cases he
    | next id =>
      obtain ⟨⟨n, server⟩, hs, heq⟩ := Option.map_eq_some_iff.mp he
      cases heq
      obtain ⟨ws, heffect, rfl⟩ := accountSchema_execute hs
      rw [hconn] at heffect
      -- auto commit is off: the user and the role are kept back together
      obtain ⟨hmode, hnew⟩ := hpre.newUsers heffect h.holds.fits
      have hheld := h.holds
      rw [hmode] at hheld
      refine ⟨{ c with pending := c.pending ++ ws }, ⟨_, id, ws, heffect, rfl⟩, ?_⟩
      rw [hconn, hmode, if_neg Bool.false_ne_true]
      exact ⟨hheld.enqueue_self hnew, h.silent, h.replied⟩
    | fault what =>
      cases he
      exact ⟨c, ⟨trivial, .inl rfl⟩, h⟩
    | deadlock what =>
      cases he
      refine ⟨_, ⟨trivial, .inr rfl⟩, ?_, h.silent, h.replied⟩
      refine Holds.of_clean ?_ fun _ _ hu => (nomatch hu)
      rw [Server.rollback_conns_self, hconn]
  | executeQuery query =>
    cases e <;> cases he
    · exact ⟨c, rfl, h⟩
    · exact ⟨c, ⟨trivial, rfl⟩, h⟩
  | commit =>
    cases e <;> cases he
    · refine ⟨_, rfl, ?_, nofun, fun reply hreply => ?_⟩
      · refine Holds.of_clean ?_ fun _ _ hu => (nomatch hu)
        rw [Server.commit_conns_self, hconn]
      · -- no reply is sent before `COMMIT`
        have hreplied := (h.replied reply hreply).1
        rw [hpre.2] at hreplied
        cases hreplied
    · exact ⟨c, ⟨trivial, rfl⟩, h⟩
  | rollback =>
    cases e <;> cases he
    refine ⟨_, rfl, ?_, h.silent, h.replied⟩
    refine Holds.of_clean ?_ fun _ _ hu => (nomatch hu)
    rw [Server.rollback_conns_self, hconn]
  | sendPacket reply =>
    cases e <;> cases he
    refine ⟨_, rfl, h.holds, h.silent, fun reply' hreply' => ⟨rfl, ?_⟩⟩
    rcases List.mem_append.mp hreply' with hold | hnew
    · exact (h.replied reply' hold).2
    · cases List.mem_singleton.mp hnew
      exact hpre

omit [DecidableEq τ] in
/-- An operation publishes nothing, or commits a complete sign-up. -/
theorem SignupState.Describes.published (h : c.Describes key w t)
    (hpre : (signupSpec key).pre c o) {ws : List (AccountWrite κ)}
    (hpub : DaoSchema.Publishes (accountSchema key) t w.server o e ws) :
    ws = [] ∨ ws = c.pending ∧ SignupRows key ws := by
  have hconn := h.holds.conns
  cases hpub with
  | nothing => exact .inl rfl
  | @statement stmt id n ws hmode heffect =>
    have hauto : c.autoCommit = false := by
      cases stmt <;> first | exact hpre | exact hpre.1 | exact hpre.elim
    rw [hconn, hauto] at hmode
    cases hmode
  | commit =>
    rw [hconn]
    exact .inr ⟨rfl, hpre.1⟩
  | setAutoCommit =>
    rw [hconn]
    exact .inl hpre

/-- What is committed, apart from the answers. -/
structure AlignedWith (key : String → κ) (db : AccountTables κ)
    (server : Server τ (AccountTables κ) (AccountWrite κ) (AccountRow κ)) : Prop where
  aligned : ∀ k row, server.tables.users.lookup k = some row → k ∉ db.users →
    server.tables.Aligned key k row.role
  noOrphans : server.tables.NoOrphans key
  logged : server.tables = (AccountTables.storage key).writes db (server.log.map Prod.snd)

variable {db : AccountTables κ}

/-- A step keeps the tables aligned. -/
theorem AlignedWith.exec (h : AlignedWith key db w.server) (hc : c.Describes key w t)
    (hpre : (signupSpec key).pre c o) (he : (accountSchema key).exec t o e w = some (r, w')) :
    AlignedWith key db w'.server := by
  obtain ⟨ws, hpub, htables, hlog⟩ := DaoSchema.exec_publishes he
  have hlogged : w'.server.tables =
      (AccountTables.storage key).writes db (w'.server.log.map Prod.snd) := by
    rw [htables, hlog, List.map_append, Storage.writes_append, ← h.logged, List.map_map]
    exact congrArg _ (List.map_id _).symm
  rcases hc.published hpre hpub with rfl | ⟨rfl, hrows⟩
  · have htables' : w'.server.tables = w.server.tables := htables
    constructor
    · rw [htables']
      exact h.aligned
    · rw [htables']
      exact h.noOrphans
    · exact hlogged
  · obtain ⟨k, row, husers, haligned, hothers⟩ := hrows.writes hc.holds.fits h.noOrphans
    have htables' : w'.server.tables =
        (AccountTables.storage key).writes w.server.tables c.pending := htables
    rw [← htables'] at husers haligned hothers
    constructor
    · intro k' row' hrow' hk'
      rw [husers] at hrow'
      rcases eq_or_ne k' k with rfl | hne
      · rw [AList.lookup_insert] at hrow'
        cases hrow'
        exact haligned
      · rw [AList.lookup_insert_ne hne] at hrow'
        obtain ⟨hcustomer, howner, hstores⟩ := h.aligned k' row' hrow' hk'
        obtain ⟨hcustomer', howner', hstores'⟩ := hothers k' hne
        exact ⟨hcustomer'.trans hcustomer, howner'.trans howner, hstores' ▸ hstores⟩
    · intro k' hk'
      rw [husers, AList.mem_insert, not_or] at hk'
      obtain ⟨hcustomer, howner, hstores⟩ := h.noOrphans k' hk'.2
      obtain ⟨hcustomer', howner', hstores'⟩ := hothers k' hk'.1
      exact ⟨hcustomer'.not.mpr hcustomer, howner'.not.mpr howner, hstores'.trans hstores⟩
    · exact hlogged

/-- An operation leaves the other calls as they are. -/
theorem SignupState.Describes.exec_of_ne {t' : τ} {c' : SignupState κ}
    (h : c'.Describes key w t') (hc : c.Describes key w t) (ht : t' ≠ t)
    (he : (accountSchema key).exec t o e w = some (r, w')) : c'.Describes key w' t' := by
  obtain ⟨ws, -, -, hlog⟩ := DaoSchema.exec_publishes he
  constructor
  · refine DaoSchema.holds_exec h.holds stable_newUsers ht (fun u hu x hx => ?_) he
    rw [hc.holds.conns] at hu
    exact hc.holds.locked u hu x hx
  · intro hpublished u hu
    rw [hlog, List.mem_append, List.mem_map] at hu
    rcases hu with hu | ⟨v, -, hv⟩
    · exact h.silent hpublished u hu
    · exact ht (congrArg Prod.fst hv).symm
  · intro reply hreply
    rcases DaoSchema.exec_sent he with hsent | ⟨reply', -, hsent⟩
    · exact h.replied reply (hsent ▸ hreply)
    · rw [hsent, List.mem_append, List.mem_singleton] at hreply
      rcases hreply with hreply | hreply
      · exact h.replied reply hreply
      · exact absurd (congrArg Prod.fst hreply) ht

/-- The calls being handled, and the world. -/
abbrev Signups (τ κ : Type) := Threads τ (@DaoOp.Res AccountStatement AccountQuery AuthResDTO
  AccountQuery.Answer) Exn (SignupWorld τ κ)

namespace Signups

/-- Every call is at the beginning of `handleSignup`. -/
def init (body : τ → Except Exn SignupReqDTO) (db : AccountTables κ) : Signups τ κ :=
  ⟨fun t => UserHandler.handleSignup (body t), .init db⟩

/-- One call performs its next operation. -/
def step (key : String → κ) (s : Signups τ κ) (a : τ × DaoEnv) : Option (Signups τ κ) :=
  Threads.step (accountSchema key).exec s a

/-- The states in which every call is where the interface says. -/
def Safe (key : String → κ) (db : AccountTables κ) (s : Signups τ κ) : Prop :=
  Threads.Safe (fun _ => (signupSpec key).interface)
    (fun w g => AlignedWith key db w.server ∧ ∀ t, (g t).Describes key w t) (fun _ _ _ => True) s

variable {body : τ → Except Exn SignupReqDTO} {s s' : Signups τ κ}

omit [DecidableEq τ] in
theorem safe_init (hdb : db.NoOrphans key) : Safe key db (init body db) := by
  refine ⟨fun _ => .fresh, ⟨⟨?_, hdb, rfl⟩, fun t => ⟨?_, ?_, ?_⟩⟩, fun t => wp_handleSignup _⟩
  · intro k row hrow hk
    rw [init, DaoWorld.init, Server.init, AList.lookup_eq_none.mpr hk] at hrow
    cases hrow
  · exact Holds.of_clean rfl fun _ _ hu => (nomatch hu)
  · exact fun _ u hu => (nomatch hu)
  · exact fun reply hreply => (nomatch hreply)

/-- Steps keep every call safe and the tables aligned. -/
theorem Safe.step (h : Safe key db s) {a : τ × DaoEnv} (hs : Signups.step key s a = some s') :
    Safe key db s' := by
  refine Threads.Safe.step (fun w g t o e r w' hJ hpre he => ?_) h hs
  obtain ⟨haligned, hg⟩ := hJ
  obtain ⟨c', hpost, hc'⟩ := (hg t).exec hpre he
  refine ⟨c', hpost, haligned.exec (hg t) hpre he, fun t' => ?_⟩
  rcases eq_or_ne t' t with rfl | ht
  · rwa [Function.update_self]
  · rw [Function.update_of_ne ht]
    exact (hg t').exec_of_ne (hg t) ht he

omit [DecidableEq τ] in
/-- What is committed in a safe state. -/
theorem Safe.committed (h : Safe key db s) : SignupsCommitted key db s.world := by
  obtain ⟨g, ⟨haligned, hg⟩, -⟩ := h
  refine ⟨haligned.aligned, haligned.noOrphans, haligned.logged, fun t reply hreply hne => ?_⟩
  exact (hg t).silent (((hg t).replied reply hreply).2 hne)

/-- **Sign-up is all or nothing.** Whatever the requests ask for and however their operations are
interleaved and fail, every state they visit is as `SignupsCommitted` says. -/
theorem signup_all_or_nothing (key : String → κ) (body : τ → Except Exn SignupReqDTO)
    {db : AccountTables κ} (hdb : db.NoOrphans key) (l : List (τ × DaoEnv)) :
    Transition.Always (step key) (fun s => SignupsCommitted key db s.world) (init body db) l :=
  Transition.Always.mono (fun _ h => Safe.committed h)
    (Transition.always_of_forall (fun _ _ _ h hs => h.step hs) (safe_init hdb))

/-- Two sign-ups of one id, for either role. -/
def racingBody (owner : Bool) : Except Exn SignupReqDTO :=
  .ok ⟨"hong", "pw", "Hong", "010", if owner then 1 else 0, "", "", "", "", "", ""⟩

/-- Both find the id free, one of them gets there and the other has to fail. -/
def racingSteps : List (Bool × DaoEnv) :=
  (List.replicate 4 [(false, .ok), (true, .ok)]).flatten ++
    [(false, .ok), (true, .ok), (false, .ok), (true, .ok), (false, .next 0), (false, .ok),
     (false, .next 0), (false, .ok), (false, .ok), (false, .ok), (true, .fault "duplicate"),
     (true, .ok), (true, .ok), (true, .ok)]

theorem signup_all_or_nothing_racing :
    Transition.Always (step id) (fun s => SignupsCommitted id ⟨∅, ∅, ∅, [], []⟩ s.world)
      (init racingBody ⟨∅, ∅, ∅, [], []⟩) racingSteps :=
  signup_all_or_nothing id racingBody
    (fun _ _ => ⟨AList.notMem_empty _, AList.notMem_empty _, rfl⟩) racingSteps

end Signups

end Calls

end ItsBedalyo
