import ItsBedalyo.Database.DeliveryAddress

/-!
# One default address per user

Any number of `saveAddress`, `deleteAddress`, `setDefaultAddress` and `updateAddress` calls from
any devices, each on its own connection and one operation at a time, in any interleaving and with
any operation throwing. `saveAddress` resets the defaults and inserts its own in one transaction;
`setDefaultAddress` resets them in one statement and sets one in another, and in between the user
has none (`Resetting`). `Careful` says what has to be the case when such a call gets to its second
statement or throws before it, and when a row is deleted; along such runs a user who has
addresses has exactly one default whenever no call is in progress.
-/

namespace ItsBedalyo

open RowLocking Interface AccountStatement

/-- The address calls of the devices. -/
inductive AddressCall
  | saveAddress (dto : ReqAddressSaveDTO)
  | deleteAddress (userId : String) (addressId : ℤ)
  | setDefaultAddress (userId : String) (addressId : ℤ)
  | updateAddress (req : ReqAddressUpdateDTO)

namespace AddressCall

/-- Whose addresses a call is about. -/
def userId : AddressCall → String
  | saveAddress dto => dto.userId
  | deleteAddress userId _ => userId
  | setDefaultAddress userId _ => userId
  | updateAddress req => req.userId

/-- The call; its result goes to the device. -/
def body : AddressCall → AccountDao Empty Unit
  | saveAddress dto => do
    let _ ← AddressDAO.saveAddress dto
    pure ()
  | deleteAddress userId addressId => do
    let _ ← AddressDAO.deleteAddress userId addressId
    pure ()
  | setDefaultAddress userId addressId => do
    let _ ← AddressDAO.setDefaultAddress userId addressId
    pure ()
  | updateAddress req => do
    let _ ← AddressDAO.updateAddress req
    pure ()

end AddressCall

/-! ### A call -/

/-- A call's connection, the number of writes it has published, and whether anything has been
thrown. -/
structure AddressState (κ : Type) where
  autoCommit : Bool
  pending : List (AccountWrite κ)
  published : ℕ
  thrown : Bool

section Call

variable {κ : Type} [DecidableEq κ] (key : String → κ)

/-- No two addresses of a user have the same id. -/
def AccountTables.UniqueIds (db : AccountTables κ) (k : κ) : Prop :=
  ((db.addressesOf key k).map AddressRow.addressId).Nodup

/-- What the transaction of `saveAddress` writes: one default row for user `k`, and nothing for
anybody else. -/
structure SavedRows (k : κ) (ws : List (AccountWrite κ)) : Prop where
  saved : ∃ rows row, rows.filter (fun row => row.isDefault = 1) = [row] ∧
    (rows.map AddressRow.addressId).Nodup ∧
    ∀ db, ((AccountTables.storage key).writes db ws).addressesOf key k = rows
  others : ∀ db, ∀ k' ≠ k,
    ((AccountTables.storage key).writes db ws).addressesOf key k' = db.addressesOf key k'
  several : 2 ≤ ws.length

namespace AddressState

/-- At the beginning. -/
def fresh : AddressState κ := ⟨true, [], 0, false⟩

/-- A statement that a call may run. -/
def MayExecute (c : AddressState κ) : AddressCall → AccountStatement → Prop
  | .saveAddress _, _ => c.autoCommit = false
  | .deleteAddress userId addressId, stmt =>
    c.autoCommit = true ∧ stmt = .deleteAddress userId addressId
  | .setDefaultAddress userId addressId, stmt =>
    c.autoCommit = true ∧ (c.published = 0 ∧ stmt = resetDefaults userId ∨
      c.published = 1 ∧ stmt = setDefault userId addressId ∨
      2 ≤ c.published ∧ ∃ address, stmt = setCustomerAddress address userId)
  | .updateAddress req, stmt =>
    c.autoCommit = true ∧
      stmt = .updateAddress req.detail req.guide req.label req.userId req.addressId

end AddressState

/-- The operations of an address call: its statements in their order, and after an exception
nothing, unless there is a transaction to roll back. -/
def addressSpec (call : AddressCall) :
    DaoSpec AccountStatement AccountQuery Empty AccountQuery.Answer (AddressState κ) where
  pre c o := (c.thrown = true → ∃ dto, call = .saveAddress dto) ∧
    match o with
    | .setAutoCommit _ => c.pending = []
    | .executeUpdate stmt => c.MayExecute call stmt
    | .commit => SavedRows key (key call.userId) c.pending
    | _ => True
  returns c
    | .setAutoCommit on, _, c' => c' = { c with autoCommit := on }
    | .executeUpdate stmt, n, c' => ∃ db id ws, db.UniqueIds key (key call.userId) ∧
        stmt.effect key ((AccountTables.storage key).writes db c.pending) id = some (n, ws) ∧
        c' = if c.autoCommit then { c with published := c.published + ws.length }
          else { c with pending := c.pending ++ ws }
    | .commit, _, c' =>
        c' = { c with pending := [], published := c.published + c.pending.length }
    | .rollback, _, c' => c' = { c with pending := [] }
    | _, _, c' => c' = c
  throws c
    | .executeUpdate _, c' =>
      c' = { c with thrown := true } ∨ c' = { c with pending := [], thrown := true }
    | .sendPacket _, _ => False
    | _, c' => c' = { c with thrown := true }

/-- A `setDefaultAddress` that ends between its two statements has thrown. -/
def AddressCall.Ends (call : AddressCall) (c : AddressState κ) : Prop :=
  (∃ userId addressId, call = .setDefaultAddress userId addressId) → c.published = 1 →
    c.thrown = true

variable {key}

/-- The copy in `CUSTOMERS` is no address. -/
theorem writes_setCustomerAddress {db : AccountTables κ} {address userId : String} {id : ℤ}
    {n : ℕ} {ws : List (AccountWrite κ)}
    (h : (setCustomerAddress address userId).effect key db id = some (n, ws))
    (db' : AccountTables κ) (k : κ) :
    ((AccountTables.storage key).writes db' ws).addressesOf key k = db'.addressesOf key k := by
  simp only [effect] at h
  split at h <;> cases h <;> rfl

/-- A reset and an `INSERT`, and whatever else is not about addresses. -/
theorem savedRows_cons {k : κ} {rows : List AddressRow} {row : AddressRow}
    {ws : List (AccountWrite κ)} (hrows : ∀ row' ∈ rows, key row'.userId = k)
    (hrow : key row.userId = k)
    (hdefault : (rows ++ [row]).filter (fun row => row.isDefault = 1) = [row])
    (hunique : ((rows ++ [row]).map AddressRow.addressId).Nodup)
    (hws : ∀ (db : AccountTables κ) (k : κ),
      ((AccountTables.storage key).writes db ws).addressesOf key k = db.addressesOf key k) :
    SavedRows key k (.addresses k rows :: .addresses k (rows ++ [row]) :: ws) := by
  have hall : ∀ row' ∈ rows ++ [row], key row'.userId = k := by
    intro row' hmem
    rcases List.mem_append.mp hmem with hmem | hmem
    · exact hrows row' hmem
    · rwa [List.mem_singleton.mp hmem]
  refine ⟨⟨_, _, hdefault, hunique, fun db => ?_⟩, fun db k' hk' => ?_, by simp⟩
  · rw [Storage.writes_cons, Storage.writes_cons, hws]
    exact AccountTables.addressesOf_write_self key _ hall
  · rw [Storage.writes_cons, Storage.writes_cons, hws]
    exact (AccountTables.addressesOf_write_of_ne key _ hk' hall).trans
      (AccountTables.addressesOf_write_of_ne key _ hk' hrows)

/-- The three statements of `saveAddress`. -/
theorem savedRows {dto : ReqAddressSaveDTO} {db db' db'' : AccountTables κ}
    {id id' id'' : ℤ} {n n' n'' : ℕ} {ws ws' ws'' : List (AccountWrite κ)}
    (hunique : db.UniqueIds key (key dto.userId))
    (hreset : (resetDefaults dto.userId).effect key db id = some (n, ws))
    (hinsert : (insertAddress dto.userId dto.address dto.detail dto.guide dto.label 1).effect key
      ((AccountTables.storage key).writes db' ws) id' = some (n', ws'))
    (hsync : (setCustomerAddress (dto.address ++ " " ++ dto.detail) dto.userId).effect key db''
      id'' = some (n'', ws'')) :
    SavedRows key (key dto.userId) (ws ++ ws' ++ ws'') := by
  cases hreset
  simp only [effect] at hinsert
  split at hinsert
  · cases hinsert
  next hnew =>
  cases hinsert
  have hrows : ∀ row ∈ (db.addressesOf key (key dto.userId)).map AddressRow.reset,
      key row.userId = key dto.userId := by
    intro row hrow
    obtain ⟨old, hmem, rfl⟩ := List.mem_map.mp hrow
    exact (key_of_mem_addressesOf hmem : key old.userId = key dto.userId)
  have hview := AccountTables.addressesOf_write_self key db' hrows
  show SavedRows key (key dto.userId)
    (.addresses (key dto.userId) ((db.addressesOf key (key dto.userId)).map AddressRow.reset) ::
      .addresses (key dto.userId) ((db'.write key (.addresses (key dto.userId)
        ((db.addressesOf key (key dto.userId)).map AddressRow.reset))).addressesOf key
          (key dto.userId) ++ [dto.row id']) :: ws'')
  rw [hview]
  refine savedRows_cons hrows rfl (filter_default_insert _ dto id') ?_
    (writes_setCustomerAddress hsync)
  have hids : ((db.addressesOf key (key dto.userId)).map AddressRow.reset).map
      AddressRow.addressId = (db.addressesOf key (key dto.userId)).map AddressRow.addressId := by
    rw [List.map_map]
    rfl
  rw [List.map_append]
  refine List.Nodup.append (hids ▸ hunique) (List.nodup_singleton _) ?_
  rw [List.map_singleton, List.disjoint_singleton, ← hview]
  refine fun hmem => hnew ?_
  exact (List.filter_sublist.map _).subset hmem

/-- The calls keep to the interface. -/
theorem AddressCall.wp_body (call : AddressCall) :
    (addressSpec key call).interface.wp call.body (fun _ c => call.Ends c) .fresh := by
  cases call with
  | saveAddress dto =>
    simp [body, AddressDAO.saveAddress, addressSpec, AddressState.fresh,
      AddressState.MayExecute, Ends]
    rintro n c db hunique id ws hreset rfl
    refine ⟨rfl, ?_⟩
    rintro n' c' db' - id' ws' hinsert rfl
    refine ⟨rfl, ?_⟩
    rintro n'' c'' db'' - id'' ws'' hsync rfl
    exact savedRows hunique hreset hinsert hsync
  | deleteAddress userId addressId =>
    simp [body, AddressDAO.deleteAddress, addressSpec, AddressState.fresh,
      AddressState.MayExecute, Ends]
    intro found
    split <;> simp
  | setDefaultAddress userId addressId =>
    simp [body, AddressDAO.setDefaultAddress, addressSpec, AddressState.fresh,
      AddressState.MayExecute, Ends]
    rintro n c db - id ws hreset rfl
    cases hreset
    refine ⟨rfl, ⟨rfl, rfl, rfl⟩, ?_⟩
    rintro n' c' db' - id' ws' hset rfl
    cases hset
    refine ⟨fun _ => ⟨rfl, fun _ => ⟨rfl, ⟨rfl, rfl, le_refl 2⟩, ?_⟩⟩, fun _ hone => ?_⟩
    · rintro n'' c'' db'' - id'' ws'' - rfl hone
      have hmore : 2 + ws''.length = 1 := hone
      omega
    · have htwo : 2 = 1 := hone
      omega
  | updateAddress req =>
    simp [body, AddressDAO.updateAddress, addressSpec, AddressState.fresh,
      AddressState.MayExecute, Ends]

/-- An operation that returns has not thrown. -/
theorem thrown_of_returns {call : AddressCall} {c c' : AddressState κ}
    {o : DaoOp AccountStatement AccountQuery Empty} {x : o.Res AccountQuery.Answer}
    (h : (addressSpec key call).returns c o x c') : c'.thrown = c.thrown := by
  cases o with
  | executeUpdate stmt =>
    obtain ⟨db, id, ws, -, -, rfl⟩ := h
    split_ifs <;> rfl
  | setAutoCommit | prepareStatement | executeQuery | commit | rollback =>
    cases h
    rfl
  | sendPacket reply => exact reply.elim

/-! ### What the operations do to the addresses -/

/-- What an operation of a call does to the addresses of its user. -/
inductive AddressEffect (call : AddressCall) (c c' : AddressState κ) :
    DaoOp AccountStatement AccountQuery Empty → DaoEnv → List AddressRow → List AddressRow → Prop
  | nothing {o : DaoOp AccountStatement AccountQuery Empty} {e : DaoEnv}
      {rows rows' : List AddressRow} : (c.published = 1 → c'.published = 1) → rows' = rows →
      AddressEffect call c c' o e rows rows'
  | saved {o : DaoOp AccountStatement AccountQuery Empty} {e : DaoEnv}
      {rows rows' : List AddressRow} {row : AddressRow} :
      rows'.filter (fun row => row.isDefault = 1) = [row] →
      (rows'.map AddressRow.addressId).Nodup → AddressEffect call c c' o e rows rows'
  | reset {userId : String} {addressId id : ℤ} {rows rows' : List AddressRow} :
      call = .setDefaultAddress userId addressId → c'.published = 1 →
      rows' = rows.map AddressRow.reset →
      AddressEffect call c c' (.executeUpdate (resetDefaults userId)) (.next id) rows rows'
  | selected {userId : String} {addressId id : ℤ} {rows rows' : List AddressRow} :
      call = .setDefaultAddress userId addressId →
      rows' = rows.map (AddressRow.select addressId) →
      AddressEffect call c c' (.executeUpdate (setDefault userId addressId)) (.next id) rows rows'
  | deleted {userId : String} {addressId id : ℤ} {rows rows' : List AddressRow} :
      call = .deleteAddress userId addressId →
      rows' = (rows.filter fun row => row.addressId ≠ addressId) →
      AddressEffect call c c' (.executeUpdate (.deleteAddress userId addressId)) (.next id) rows
        rows'
  | edited {o : DaoOp AccountStatement AccountQuery Empty} {e : DaoEnv}
      {rows rows' : List AddressRow} {req : ReqAddressUpdateDTO} :
      call = .updateAddress req → rows' = rows.map (AddressRow.edit req) →
      AddressEffect call c c' o e rows rows'

omit [DecidableEq κ] in
/-- Ids stay unique. -/
theorem AddressEffect.nodup {call : AddressCall} {c c' : AddressState κ}
    {o : DaoOp AccountStatement AccountQuery Empty} {e : DaoEnv} {rows rows' : List AddressRow}
    (h : AddressEffect call c c' o e rows rows') (hrows : (rows.map AddressRow.addressId).Nodup) :
    (rows'.map AddressRow.addressId).Nodup := by
  cases h with
  | nothing _ heq => exact heq ▸ hrows
  | saved _ hrows' => exact hrows'
  | reset _ _ heq => simpa [heq, Function.comp_def, AddressRow.reset] using hrows
  | selected _ heq => simpa [heq, Function.comp_def] using hrows
  | deleted _ heq => exact heq ▸ hrows.sublist (List.filter_sublist.map _)
  | edited _ heq => simpa [heq, Function.comp_def] using hrows

/-- A statement that publishes at once. -/
theorem AddressState.MayExecute.effect {c : AddressState κ} {call : AddressCall}
    {stmt : AccountStatement} (h : c.MayExecute call stmt) (hmode : c.autoCommit = true)
    {db : AccountTables κ} {id : ℤ} {n : ℕ} {ws : List (AccountWrite κ)}
    (heffect : stmt.effect key db id = some (n, ws)) :
    (∀ k ≠ key call.userId, ((AccountTables.storage key).writes db ws).addressesOf key k =
        db.addressesOf key k) ∧
      AddressEffect call c { c with published := c.published + ws.length } (.executeUpdate stmt)
        (.next id) (db.addressesOf key (key call.userId))
        (((AccountTables.storage key).writes db ws).addressesOf key (key call.userId)) := by
  cases call with
  | saveAddress dto => cases hmode.symm.trans h
  | deleteAddress userId addressId =>
    obtain ⟨-, rfl⟩ := h
    cases heffect
    -- the rows that stay are the user's
    have hrows : ∀ row ∈ (db.addressesOf key (key userId)).filter
        (fun row => row.addressId ≠ addressId), key row.userId = key userId :=
      fun row hrow => key_of_mem_addressesOf (List.mem_of_mem_filter hrow)
    exact ⟨fun k hk => AccountTables.addressesOf_write_of_ne key db hk hrows,
      .deleted rfl (AccountTables.addressesOf_write_self key db hrows)⟩
  | setDefaultAddress userId addressId =>
    -- by the number of writes before: reset, select, then the copy to the customer
    obtain ⟨-, ⟨hpublished, rfl⟩ | ⟨hpublished, rfl⟩ | ⟨hpublished, address, rfl⟩⟩ := h
    · cases heffect
      have hs : AddressStep key (key userId) (List.map AddressRow.reset) none db _ :=
        addressStep_map (fun _ => rfl) fun _ => rfl
      refine ⟨fun k hk => (hs.others k hk).1, .reset rfl ?_ hs.addresses⟩
      exact congrArg (· + 1) hpublished
    · cases heffect
      have hs : AddressStep key (key userId) (List.map (AddressRow.select addressId)) none db _ :=
        addressStep_map (AddressRow.userId_select addressId) (AddressRow.addressId_select addressId)
      exact ⟨fun k hk => (hs.others k hk).1, .selected rfl hs.addresses⟩
    · -- the copy touches no address, and it is not the first write
      have hsynced := writes_setCustomerAddress heffect db
      refine ⟨fun k _ => hsynced k, .nothing (fun hone => ?_) (hsynced _)⟩
      omega
  | updateAddress req =>
    obtain ⟨-, rfl⟩ := h
    cases heffect
    have hs : AddressStep key (key req.userId) (List.map (AddressRow.edit req)) none db _ :=
      addressStep_map (AddressRow.userId_edit req) (AddressRow.addressId_edit req)
    exact ⟨fun k hk => (hs.others k hk).1, .edited rfl hs.addresses⟩

end Call

/-! ### Any number of calls -/

section Calls

variable {τ κ : Type} [DecidableEq τ] [DecidableEq κ] {key : String → κ}

/-- The world of the address calls. -/
abbrev AddressWorld (τ κ : Type) :=
  DaoWorld τ (AccountTables κ) (AccountWrite κ) (AccountRow κ) Empty

/-- The number of writes that a call has published. -/
def publishedBy (w : AddressWorld τ κ) (t : τ) : ℕ := w.server.log.countP fun entry => entry.1 = t

/-- What the state of a call says of the world. -/
structure AddressState.Describes (w : AddressWorld τ κ) (t : τ) (c : AddressState κ) : Prop where
  conns : w.server.conns t = ⟨c.autoCommit, c.pending⟩
  published : publishedBy w t = c.published
  clean : c.autoCommit = true → c.pending = []

variable {w w' : AddressWorld τ κ} {t : τ} {c : AddressState κ} {call : AddressCall}
  {o : DaoOp AccountStatement AccountQuery Empty} {e : DaoEnv}
  {r : Except Exn (o.Res AccountQuery.Answer)}

omit [DecidableEq κ] in
/-- What a call publishes is counted for it and for nobody else. -/
theorem publishedBy_append {ws : List (AccountWrite κ)}
    (hlog : w'.server.log = w.server.log ++ ws.map fun u => (t, u)) (t' : τ) :
    publishedBy w' t' = publishedBy w t' + if t' = t then ws.length else 0 := by
  rw [publishedBy, hlog, List.countP_append, List.countP_map]
  refine congrArg (publishedBy w t' + ·) ?_
  split_ifs with ht
  · exact List.countP_eq_length.mpr fun _ _ => decide_eq_true ht.symm
  · exact List.countP_eq_zero.mpr fun _ _ h => ht (of_decide_eq_true h).symm

/-- An operation leaves the other calls as they are. -/
theorem AddressState.Describes.exec_of_ne {t' : τ} {c' : AddressState κ}
    (h : c'.Describes w t') (ht : t' ≠ t)
    (he : (accountSchema key).exec t o e w = some (r, w')) : c'.Describes w' t' := by
  obtain ⟨ws, -, -, hlog⟩ := DaoSchema.exec_publishes he
  refine ⟨(DaoSchema.exec_conns_of_ne ht he).trans h.conns, ?_, h.clean⟩
  rw [publishedBy_append hlog, if_neg ht]
  exact h.published

/-- An operation does to its own call what the interface says, and to the addresses what
`AddressEffect` says. -/
theorem AddressState.Describes.exec (h : c.Describes w t) (hpre : (addressSpec key call).pre c o)
    (hunique : w.server.tables.UniqueIds key (key call.userId))
    (he : (accountSchema key).exec t o e w = some (r, w')) :
    ∃ c', (addressSpec key call).interface.post c o r c' ∧ c'.Describes w' t ∧
      (∀ k ≠ key call.userId,
        w'.server.tables.addressesOf key k = w.server.tables.addressesOf key k) ∧
      AddressEffect call c c' o e (w.server.tables.addressesOf key (key call.userId))
        (w'.server.tables.addressesOf key (key call.userId)) := by
  have hconns := h.conns
  cases o with
  | setAutoCommit on =>
    cases e <;> cases he
    -- the mode is switched only where nothing is pending, so nothing is published
    have hpending : c.pending = [] := hpre.2
    rw [hpending] at hconns
    have hpublished : (w.server.conns t).pending = [] := by rw [hconns]
    refine ⟨_, rfl, ⟨?_, ?_, fun _ => hpending⟩, ?_⟩
    · rw [Server.setAutoCommit_conns_self, hconns, hpending]
      cases on <;> rfl
    · cases on with
      | true =>
        refine (publishedBy_append (w := w) rfl t).trans ?_
        rw [hpublished, List.length_nil, ite_self]
        exact h.published
      | false => exact h.published
    · cases on with
      | true =>
        have htables : (w.server.setAutoCommit (accountSchema key).storage t true).tables =
            w.server.tables := by
          show (accountSchema key).storage.writes w.server.tables (w.server.conns t).pending = _
          rw [hpublished, Storage.writes_nil]
        refine ⟨fun k _ => congrArg (·.addressesOf key k) htables, .nothing (fun h => h) ?_⟩
        exact congrArg (·.addressesOf key (key call.userId)) htables
      | false => exact ⟨fun _ _ => rfl, .nothing (fun h => h) rfl⟩
  | prepareStatement =>
    cases e <;> cases he
    · exact ⟨c, rfl, h, fun _ _ => rfl, .nothing id rfl⟩
    · exact ⟨_, ⟨trivial, rfl⟩, ⟨h.conns, h.published, h.clean⟩, fun _ _ => rfl, .nothing id rfl⟩
  | executeUpdate stmt =>
    cases e with
    | ok => cases he
    | next id =>
      obtain ⟨⟨n, server⟩, hs, heq⟩ := Option.map_eq_some_iff.mp he
      cases heq
      obtain ⟨ws, heffect, rfl⟩ := accountSchema_execute hs
      rw [hconns] at heffect
      refine ⟨_, ⟨w.server.tables, id, ws, hunique, heffect, rfl⟩, ?_⟩
      -- published at once, or kept back for `COMMIT`
      by_cases hmode : c.autoCommit = true
      · rw [h.clean hmode, Storage.writes_nil] at heffect
        rw [hconns, if_pos hmode, if_pos hmode]
        refine ⟨⟨hconns, ?_, h.clean⟩, hpre.2.effect hmode heffect⟩
        refine (publishedBy_append (w := w) rfl t).trans ?_
        rw [if_pos rfl, h.published]
      · rw [hconns, if_neg hmode, if_neg hmode]
        refine ⟨⟨?_, h.published, fun htrue => absurd htrue hmode⟩, fun _ _ => rfl,
          .nothing (fun h => h) rfl⟩
        rw [Server.enqueue_conns_self, hconns]
    | fault what =>
      cases he
      exact ⟨_, ⟨trivial, .inl rfl⟩, ⟨h.conns, h.published, h.clean⟩, fun _ _ => rfl,
        .nothing (fun h => h) rfl⟩
    | deadlock what =>
      cases he
      refine ⟨_, ⟨trivial, .inr rfl⟩, ⟨?_, h.published, fun _ => rfl⟩, fun _ _ => rfl,
        .nothing (fun h => h) rfl⟩
      rw [Server.rollback_conns_self, hconns]
  | executeQuery query =>
    cases e <;> cases he
    · exact ⟨c, rfl, h, fun _ _ => rfl, .nothing id rfl⟩
    · exact ⟨_, ⟨trivial, rfl⟩, ⟨h.conns, h.published, h.clean⟩, fun _ _ => rfl, .nothing id rfl⟩
  | commit =>
    cases e <;> cases he
    · -- the whole save becomes visible, with its one default
      obtain ⟨rows, row, hdefault, hids, hsaved⟩ := hpre.2.saved
      have htables : (w.server.commit (accountSchema key).storage t).tables =
          (AccountTables.storage key).writes w.server.tables c.pending := by
        rw [Server.commit_tables, hconns]
        rfl
      refine ⟨_, rfl, ⟨?_, ?_, fun _ => rfl⟩, fun k hk => ?_, ?_⟩
      · rw [Server.commit_conns_self, hconns]
      · refine (publishedBy_append (w := w) rfl t).trans ?_
        rw [if_pos rfl, h.published, hconns]
      · exact (congrArg (·.addressesOf key k) htables).trans (hpre.2.others _ k hk)
      · have hrows := (congrArg (·.addressesOf key (key call.userId)) htables).trans (hsaved _)
        exact .saved (hrows ▸ hdefault) (hrows ▸ hids)
    · exact ⟨_, ⟨trivial, rfl⟩, ⟨h.conns, h.published, h.clean⟩, fun _ _ => rfl, .nothing id rfl⟩
  | rollback =>
    cases e <;> cases he
    refine ⟨_, rfl, ⟨?_, h.published, fun _ => rfl⟩, fun _ _ => rfl, .nothing id rfl⟩
    rw [Server.rollback_conns_self, hconns]
  | sendPacket reply => exact reply.elim

/-- The calls being made, and the world. -/
abbrev AddressCalls (τ κ : Type) := Threads τ (@DaoOp.Res AccountStatement AccountQuery Empty
  AccountQuery.Answer) Exn (AddressWorld τ κ)

namespace AddressCalls

/-- Every call has yet to begin. -/
def init (calls : τ → AddressCall) (db : AccountTables κ) : AddressCalls τ κ :=
  ⟨fun t => (calls t).body, .init db⟩

/-- One call performs its next operation. -/
def step (key : String → κ) (s : AddressCalls τ κ) (a : τ × DaoEnv) : Option (AddressCalls τ κ) :=
  Threads.step (accountSchema key).exec s a

/-- The addresses of a user. -/
def rows (key : String → κ) (s : AddressCalls τ κ) (k : κ) : List AddressRow :=
  s.world.server.tables.addressesOf key k

/-- The default addresses of a user. -/
def defaults (key : String → κ) (s : AddressCalls τ κ) (k : κ) : List AddressRow :=
  (s.rows key k).filter fun row => row.isDefault = 1

variable (key : String → κ) (calls : τ → AddressCall) (s : AddressCalls τ κ)

/-- No call is in progress: every one has yet to begin or is over. -/
def Idle : Prop := ∀ t, s.todo t = (calls t).body ∨ s.Finished t

/-- A `setDefaultAddress` that has reset the defaults of user `k` and has yet to set one. -/
def Resetting (t : τ) (k : κ) : Prop :=
  (∃ userId addressId, calls t = .setDefaultAddress userId addressId ∧ key userId = k) ∧
    ¬s.Finished t ∧ publishedBy s.world t = 1

/-- Without call `t`, user `k` has a default address, no address at all, or a call that is going
to set one. -/
def Provided (t : τ) (k : κ) : Prop :=
  s.rows key k = [] ∨ s.defaults key k ≠ [] ∨ ∃ t' ≠ t, s.Resetting key calls t' k

/-- What has to be the case when a call takes its next step. -/
structure Careful (a : τ × DaoEnv) : Prop where
  /-- The address to be set exists and no other is the default, or there is none to be set and it
  does not matter; -/
  sets : ∀ userId addressId id next,
    s.todo a.1 = .call (.executeUpdate (setDefault userId addressId)) next → a.2 = .next id →
      (∃ row ∈ s.rows key (key userId), row.addressId = addressId) ∧
          (∀ row ∈ s.defaults key (key userId), row.addressId = addressId) ∨
        (∀ row ∈ s.rows key (key userId), row.addressId ≠ addressId) ∧
          s.Provided key calls a.1 (key userId)
  /-- the address to be deleted is not the default, or it is the last, or there will be another; -/
  deletes : ∀ userId addressId id next,
    s.todo a.1 = .call (.executeUpdate (.deleteAddress userId addressId)) next → a.2 = .next id →
      (∀ row ∈ s.defaults key (key userId), row.addressId ≠ addressId) ∨
        (∀ row ∈ s.rows key (key userId), row.addressId = addressId) ∨
          ∃ t ≠ a.1, s.Resetting key calls t (key userId)
  /-- and what throws after a reset does not matter. -/
  throws : ∀ k what, a.2 = .fault what ∨ a.2 = .deadlock what →
    s.Resetting key calls a.1 k → s.Provided key calls a.1 k

/-- The states in which every call is where the interface says. -/
def Safe : Prop :=
  Threads.Safe (fun t => (addressSpec key (calls t)).interface)
    (fun w g => (∀ k, w.server.tables.UniqueIds key k) ∧ ∀ t, (g t).Describes w t)
    (fun t _ c => (calls t).Ends c) s

/-- What is kept for a user. -/
structure Kept (k : κ) : Prop where
  atMostOne : (s.defaults key k).length ≤ 1
  provided : s.rows key k = [] ∨ s.defaults key k ≠ [] ∨ ∃ t, s.Resetting key calls t k

variable {key calls s} {s' : AddressCalls τ κ}

theorem safe_init {db : AccountTables κ} (hdb : ∀ k, db.UniqueIds key k) :
    Safe key calls (init calls db) :=
  ⟨fun _ => .fresh, ⟨hdb, fun _ => ⟨rfl, rfl, fun _ => rfl⟩⟩, fun t => (calls t).wp_body⟩

/-- Steps keep every call safe. -/
theorem Safe.step (h : Safe key calls s) {a : τ × DaoEnv}
    (hs : AddressCalls.step key s a = some s') : Safe key calls s' := by
  refine Threads.Safe.step (fun w g t o e r w' hJ hpre he => ?_) h hs
  obtain ⟨hunique, hg⟩ := hJ
  obtain ⟨c', hpost, hc', hothers, heffect⟩ := (hg t).exec hpre (hunique _) he
  refine ⟨c', hpost, fun k => ?_, fun t' => ?_⟩
  · rcases eq_or_ne k (key (calls t).userId) with rfl | hk
    · exact heffect.nodup (hunique _)
    · rw [AccountTables.UniqueIds, hothers k hk]
      exact hunique k
  · rcases eq_or_ne t' t with rfl | ht
    · rwa [Function.update_self]
    · rw [Function.update_of_ne ht]
      exact (hg t').exec_of_ne ht he

/-- A call that does not move is where it was. -/
theorem Resetting.of_ne {a : τ × DaoEnv} (hs : AddressCalls.step key s a = some s') {t : τ}
    {k : κ} (h : s.Resetting key calls t k) (ht : t ≠ a.1) : s'.Resetting key calls t k := by
  obtain ⟨o, next, r, w, -, he, rfl⟩ := Threads.step_eq_some hs
  obtain ⟨hcall, hrunning, hpublished⟩ := h
  obtain ⟨ws, -, -, hlog⟩ := DaoSchema.exec_publishes he
  refine ⟨hcall, fun hfinished => hrunning fun o' next' htodo => hfinished o' next' ?_, ?_⟩
  · exact (Function.update_of_ne ht ..).trans htodo
  · rw [publishedBy_append hlog, if_neg ht]
    exact hpublished

/-- What a step does to the addresses: those of the call's own user change by `AddressEffect`,
and a `setDefaultAddress` that has published one write either throws or is between its two
statements. -/
theorem Safe.effect (h : Safe key calls s) {a : τ × DaoEnv}
    (hs : AddressCalls.step key s a = some s') :
    ∃ (c c' : AddressState κ) (o : _) (next : _), s.todo a.1 = .call o next ∧
      publishedBy s.world a.1 = c.published ∧
      (∀ k ≠ key (calls a.1).userId, s'.rows key k = s.rows key k) ∧
      AddressEffect (calls a.1) c c' o a.2 (s.rows key (key (calls a.1).userId))
        (s'.rows key (key (calls a.1).userId)) ∧
      ((∃ userId addressId, calls a.1 = .setDefaultAddress userId addressId) →
        c'.published = 1 → (∃ what, a.2 = .fault what ∨ a.2 = .deadlock what) ∨
          s'.Resetting key calls a.1 (key (calls a.1).userId)) := by
  obtain ⟨g, ⟨hunique, hg⟩, hwp⟩ := h
  obtain ⟨o, next, r, w, htodo, he, rfl⟩ := Threads.step_eq_some hs
  have hnext := hwp a.1
  rw [htodo] at hnext
  obtain ⟨c', hpost, hc', hothers, heffect⟩ := (hg a.1).exec hnext.1 (hunique _) he
  refine ⟨g a.1, c', o, next, htodo, (hg a.1).published, hothers, heffect, ?_⟩
  rintro ⟨userId, addressId, hcall⟩ hpublished
  cases r with
  | error err => exact .inl (DaoSchema.exec_error he)
  | ok x =>
    right
    -- only a `saveAddress` that throws is recorded, and this operation has returned
    have hthrown : c'.thrown = false := by
      have hbefore : (g a.1).thrown = false := by
        by_contra hne
        obtain ⟨dto, hsave⟩ := hnext.1.1 ((Bool.not_eq_false _).mp hne)
        rw [hcall] at hsave
        cases hsave
      exact (thrown_of_returns hpost).trans hbefore
    have hrest := hnext.2 (.ok x) c' hpost
    -- a call that has one write and has not thrown has not finished either
    refine ⟨⟨userId, addressId, hcall, by rw [hcall]; rfl⟩, fun hfinished => ?_, ?_⟩
    · have htodo' : Function.update s.todo a.1 (next (.ok x)) a.1 = next (.ok x) :=
        Function.update_self ..
      match hp : next (.ok x) with
      | .ret _ | .fail _ =>
        rw [hp] at hrest
        cases hthrown.symm.trans (hrest ⟨userId, addressId, hcall⟩ hpublished)
      | .call o' next' => exact hfinished o' next' (htodo'.trans hp)
    · exact hc'.published.trans hpublished

theorem Safe.unique (h : Safe key calls s) (k : κ) : s.world.server.tables.UniqueIds key k := by
  obtain ⟨_, ⟨hunique, -⟩, -⟩ := h
  exact hunique k

/-- What is provided for without the call that moves stays so, unless the call takes away the
last default. -/
theorem Provided.step {a : τ × DaoEnv} (hs : AddressCalls.step key s a = some s') {k : κ}
    (h : s.Provided key calls a.1 k) (hnone : s.rows key k = [] → s'.rows key k = [])
    (hdefault : s.defaults key k ≠ [] → s'.defaults key k ≠ []) :
    s'.rows key k = [] ∨ s'.defaults key k ≠ [] ∨ ∃ t, s'.Resetting key calls t k := by
  rcases h with hrows | hrows | ⟨t, ht, hresetting⟩
  · exact .inl (hnone hrows)
  · exact .inr (.inl (hdefault hrows))
  · exact .inr (.inr ⟨t, hresetting.of_ne hs ht⟩)

/-- Whatever is kept is provided for without a call that is not between its statements. -/
theorem Kept.provided_of_not {k : κ} (h : s.Kept key calls k) {t : τ}
    (ht : ¬s.Resetting key calls t k) : s.Provided key calls t k := by
  rcases h.provided with hnone | hdefault | ⟨t', hresetting⟩
  · exact .inl hnone
  · exact .inr (.inl hdefault)
  · refine .inr (.inr ⟨t', ?_, hresetting⟩)
    rintro rfl
    exact ht hresetting

omit [DecidableEq κ] in
/-- A call of another user is not between statements. -/
theorem not_resetting_of_ne {t : τ} {k : κ} (hk : k ≠ key (calls t).userId) :
    ¬s.Resetting key calls t k := by
  rintro ⟨⟨userId, addressId, hcall, rfl⟩, -⟩
  rw [hcall] at hk
  exact hk rfl

/-- A step that leaves the addresses alone keeps what is provided for without the call. -/
theorem Kept.of_rows_eq {a : τ × DaoEnv} (hs : AddressCalls.step key s a = some s') {k : κ}
    (h : s.Kept key calls k) (hprovided : s.Provided key calls a.1 k)
    (hrows : s'.rows key k = s.rows key k) : s'.Kept key calls k := by
  have hdefaults : s'.defaults key k = s.defaults key k := by rw [defaults, defaults, hrows]
  refine ⟨hdefaults ▸ h.atMostOne, hprovided.step hs (fun hnone => hrows.trans hnone) ?_⟩
  exact fun hdefault => hdefaults ▸ hdefault

/-- Setting an address to default where no other is. -/
theorem filter_default_select_of_only {rows : List AddressRow} {row : AddressRow}
    (hunique : (rows.map AddressRow.addressId).Nodup) (hrow : row ∈ rows)
    (honly : ∀ row' ∈ rows.filter fun row => row.isDefault = 1, row'.addressId = row.addressId) :
    ((rows.map (AddressRow.select row.addressId)).filter fun row => row.isDefault = 1) =
      [row.select row.addressId] := by
  have hfilter : rows.filter ((fun row => decide (row.isDefault = 1)) ∘
      AddressRow.select row.addressId) =
        rows.filter fun row' => row'.addressId = row.addressId := by
    refine List.filter_congr fun row' hrow' => ?_
    by_cases hid : row'.addressId = row.addressId
    · simp [AddressRow.select, hid]
    · have hnot : row'.isDefault ≠ 1 := fun hdefault =>
        hid (honly row' (List.mem_filter.mpr ⟨hrow', decide_eq_true hdefault⟩))
      simp [AddressRow.select, hid, hnot]
  rw [List.filter_map, hfilter, filter_addressId_eq hunique hrow]
  rfl

/-- **A careful step keeps the default addresses.** -/
theorem Kept.step (hsafe : Safe key calls s) (h : ∀ k, s.Kept key calls k) {a : τ × DaoEnv}
    (hcareful : s.Careful key calls a) (hs : AddressCalls.step key s a = some s') (k : κ) :
    s'.Kept key calls k := by
  obtain ⟨c, c', o, next, htodo, hpublished, hothers, heffect, hresetting⟩ := hsafe.effect hs
  obtain ⟨t, e⟩ := a
  rcases ne_or_eq k (key (calls t).userId) with hk | rfl
  · -- another user's addresses do not change
    exact (h k).of_rows_eq hs ((h k).provided_of_not (not_resetting_of_ne hk)) (hothers k hk)
  have hkept := h (key (calls t).userId)
  generalize hrows : s.rows key (key (calls t).userId) = rows at heffect
  generalize hrows' : s'.rows key (key (calls t).userId) = rows' at heffect
  cases heffect with
  | nothing hstays heq =>
    have hsame := hrows'.trans (heq.trans hrows.symm)
    by_cases ht : s.Resetting key calls t (key (calls t).userId)
    · have hcall : ∃ userId addressId, calls t = .setDefaultAddress userId addressId :=
        ht.1.imp fun _ h => h.imp fun _ h => h.1
      -- between the statements: it throws with another default at hand, or it goes on
      rcases hresetting hcall (hstays (hpublished.symm.trans ht.2.2)) with ⟨what, hwhat⟩ | hthere
      · exact hkept.of_rows_eq hs (hcareful.throws _ what hwhat ht) hsame
      · refine ⟨?_, .inr (.inr ⟨t, hthere⟩)⟩
        rw [defaults, hsame]
        exact hkept.atMostOne
    · exact hkept.of_rows_eq hs (hkept.provided_of_not ht) hsame
  | saved hdefault hids =>
    rw [← hrows'] at hdefault
    refine ⟨?_, .inr (.inl ?_)⟩
    · rw [defaults, hdefault, List.length_singleton]
    · rw [defaults, hdefault]
      exact List.cons_ne_nil _ _
  | @reset userId addressId id _ _ hset hone heq =>
    -- no default is left, and the call is now between its statements
    have hnone : s'.defaults key (key (calls t).userId) = [] := by
      rw [defaults, hrows', heq, filter_default_reset]
    refine ⟨by rw [hnone]; exact Nat.zero_le 1, .inr (.inr ⟨t, ?_⟩)⟩
    rcases hresetting ⟨userId, addressId, hset⟩ hone with ⟨what, hwhat | hwhat⟩ | hthere
    · cases hwhat
    · cases hwhat
    · exact hthere
  | @selected userId addressId id _ _ hset heq =>
    have huser : key (calls t).userId = key userId := by rw [hset]; rfl
    rw [huser] at hkept hrows hrows' ⊢
    rcases hcareful.sets userId addressId id next htodo rfl with
      ⟨⟨row, hrow, rfl⟩, honly⟩ | ⟨hmissing, hprovided⟩
    · have hunique : (rows.map AddressRow.addressId).Nodup := hrows ▸ hsafe.unique (key userId)
      rw [defaults, hrows] at honly
      rw [hrows] at hrow
      have hdefaults : s'.defaults key (key userId) = [row.select row.addressId] := by
        rw [defaults, hrows', heq, filter_default_select_of_only hunique hrow honly]
      refine ⟨?_, .inr (.inl ?_)⟩
      · rw [hdefaults, List.length_singleton]
      · rw [hdefaults]
        exact List.cons_ne_nil _ _
    · -- an address that is not there: the second statement matches nothing
      rw [hrows] at hmissing
      have hsame : rows.map (AddressRow.select addressId) = rows := by
        refine (List.map_congr_left fun row hrow => ?_).trans (List.map_id rows)
        exact if_neg (hmissing row hrow)
      exact hkept.of_rows_eq hs hprovided (hrows'.trans (heq.trans (hsame.trans hrows.symm)))
  | @deleted userId addressId id _ _ hdelete heq =>
    have huser : key (calls t).userId = key userId := by rw [hdelete]; rfl
    rw [huser] at hkept hrows hrows' ⊢
    have hdefaults : s'.defaults key (key userId) =
        (s.defaults key (key userId)).filter fun row => row.addressId ≠ addressId := by
      rw [defaults, defaults, hrows', hrows, heq, List.filter_comm]
    have hnot : ¬s.Resetting key calls t (key userId) := by
      rintro ⟨⟨_, _, hcall, -⟩, -⟩
      cases hdelete.symm.trans hcall
    refine ⟨?_, ?_⟩
    · rw [hdefaults]
      exact le_trans (List.length_filter_le _ _) hkept.atMostOne
    rcases hcareful.deletes userId addressId id next htodo rfl with
      hother | hlast | ⟨t', ht', hnext⟩
    · refine (hkept.provided_of_not hnot).step hs (fun hnone => ?_) fun hdefault => ?_
      · rw [hrows', heq, ← hrows, hnone, List.filter_nil]
      · rwa [hdefaults, List.filter_eq_self.mpr fun row hrow => decide_eq_true (hother row hrow)]
    · left
      rw [hrows', heq, List.filter_eq_nil_iff]
      intro row hrow hne
      exact of_decide_eq_true hne (hlast row (hrows ▸ hrow))
    · exact .inr (.inr ⟨t', hnext.of_ne hs ht'⟩)
  | @edited _ _ _ _ req hupdate heq =>
    have hdefaults : s'.defaults key (key (calls t).userId) =
        (s.defaults key (key (calls t).userId)).map (AddressRow.edit req) := by
      rw [defaults, defaults, hrows', hrows, heq, filter_default_edit]
    have hnot : ¬s.Resetting key calls t (key (calls t).userId) := by
      rintro ⟨⟨_, _, hcall, -⟩, -⟩
      cases hupdate.symm.trans hcall
    refine ⟨?_, (hkept.provided_of_not hnot).step hs (fun hnone => ?_) fun hdefault => ?_⟩
    · rw [hdefaults, List.length_map]
      exact hkept.atMostOne
    · rw [hrows', heq, ← hrows, hnone, List.map_nil]
    · rwa [hdefaults, ne_eq, List.map_eq_nil_iff]

/-- A call that has yet to begin has published nothing. -/
theorem published_eq_zero {userId : String} {addressId : ℤ} {c : AddressState κ}
    {Q : Except Exn Unit → AddressState κ → Prop}
    (h : (addressSpec key (.setDefaultAddress userId addressId)).interface.wp
      (AddressCall.setDefaultAddress userId addressId).body Q c) : c.published = 0 := by
  simp [AddressCall.body, AddressDAO.setDefaultAddress, addressSpec,
    AddressState.MayExecute] at h
  exact h.2.1.1.2.2

/-- When no call is in progress, none is between its statements. -/
theorem Safe.not_resetting (h : Safe key calls s) (hidle : s.Idle calls) (t : τ) (k : κ) :
    ¬s.Resetting key calls t k := by
  rintro ⟨⟨userId, addressId, hcall, -⟩, hrunning, hone⟩
  rcases hidle t with htodo | hfinished
  · obtain ⟨g, ⟨-, hg⟩, hwp⟩ := h
    have hbegin : (addressSpec key (calls t)).interface.wp (s.todo t)
        (fun _ c => (calls t).Ends c) (g t) := hwp t
    rw [htodo, hcall] at hbegin
    rw [(hg t).published, published_eq_zero hbegin] at hone
    cases hone
  · exact hrunning hfinished

/-- Every user who has addresses has exactly one default. -/
def OneDefaultEach (key : String → κ) (db : AccountTables κ) : Prop :=
  ∀ k, db.addressesOf key k ≠ [] → ∃ row, db.defaultAddresses key k = [row]

theorem kept_init {db : AccountTables κ} (hdb : OneDefaultEach key db) (k : κ) :
    (init calls db).Kept key calls k := by
  by_cases hnone : db.addressesOf key k = []
  · refine ⟨?_, .inl hnone⟩
    show ((db.addressesOf key k).filter _).length ≤ 1
    rw [hnone]
    exact Nat.zero_le 1
  · obtain ⟨row, hrow⟩ := hdb k hnone
    refine ⟨?_, .inr (.inl ?_)⟩
    · show (db.defaultAddresses key k).length ≤ 1
      rw [hrow, List.length_singleton]
    · show db.defaultAddresses key k ≠ []
      rw [hrow]
      exact List.cons_ne_nil _ _

/-- **One default address.** Along a run of careful steps, whatever the calls are and however
they are interleaved, in every state in which no call is in progress a user who has addresses has
exactly one default. -/
theorem one_default_of_careful {db : AccountTables κ} (hunique : ∀ k, db.UniqueIds key k)
    (hdb : OneDefaultEach key db) {l : List (τ × DaoEnv)}
    (hl : Transition.Along (step key) (Careful key calls) (init calls db) l) :
    Transition.Always (step key)
      (fun s => s.Idle calls → OneDefaultEach key s.world.server.tables) (init calls db) l := by
  have hinvariant := Transition.always_of_along
    (I := fun s => Safe key calls s ∧ ∀ k, s.Kept key calls k)
    (fun s a s' h hcareful hs => ⟨h.1.step hs, Kept.step h.1 h.2 hcareful hs⟩)
    ⟨safe_init hunique, kept_init hdb⟩ hl
  refine hinvariant.mono ?_
  rintro s ⟨hsafe, hkept⟩ hidle k hrows
  have hdefault : s.defaults key k ≠ [] := by
    rcases (hkept k).provided with hnone | hdefault | ⟨t, hresetting⟩
    · exact absurd hnone hrows
    · exact hdefault
    · exact absurd hresetting (hsafe.not_resetting hidle t k)
  exact List.length_eq_one_iff.mp
    (le_antisymm (hkept k).atMostOne (List.length_pos_iff.mpr hdefault))

/-- A customer with two addresses. -/
def twoAddresses : AccountTables String :=
  ⟨∅, ∅, ∅, [], [⟨1, "hong", "에버랜드로 143", "1층", "", "집", 1⟩,
    ⟨2, "hong", "강남대로 1", "2층", "", "회사", 0⟩]⟩

/-- Both statements are executed, and `CUSTOMERS` is brought up to date. -/
def chosen : List (Unit × DaoEnv) :=
  [((), .ok), ((), .next 0), ((), .ok), ((), .next 0), ((), .ok), ((), .ok), ((), .ok),
   ((), .next 0)]

theorem twoAddresses_unique (k : String) : twoAddresses.UniqueIds id k := by
  have hids : (twoAddresses.addresses.map AddressRow.addressId).Nodup := by decide
  exact hids.sublist (List.filter_sublist.map _)

theorem twoAddresses_oneDefaultEach : OneDefaultEach id twoAddresses := by
  intro k hrows
  by_cases hk : k = "hong"
  · subst hk
    exact ⟨_, rfl⟩
  · have hhong : ∀ row ∈ twoAddresses.addresses, row.userId = "hong" := by decide
    refine absurd (List.filter_eq_nil_iff.mpr fun row hrow huser => ?_) hrows
    exact hk ((of_decide_eq_true huser).symm.trans (hhong row hrow))

theorem one_default_of_careful_chosen :
    Transition.Always (step id)
      (fun s => s.Idle (fun _ : Unit => .setDefaultAddress "hong" 2) →
        OneDefaultEach id s.world.server.tables)
      (init (fun _ : Unit => .setDefaultAddress "hong" 2) twoAddresses) chosen := by
  refine one_default_of_careful twoAddresses_unique twoAddresses_oneDefaultEach ?_
  rintro s ⟨⟩
  refine ⟨⟨nofun, nofun, nofun⟩, ?_⟩
  rintro s ⟨⟩
  refine ⟨⟨nofun, nofun, nofun⟩, ?_⟩
  rintro s ⟨⟩
  refine ⟨⟨nofun, nofun, nofun⟩, ?_⟩
  rintro s ⟨⟩
  refine ⟨⟨?_, nofun, nofun⟩, ?_⟩
  · intro userId addressId id next htodo henv
    cases htodo
    exact .inl ⟨by decide, by decide⟩
  rintro s ⟨⟩
  refine ⟨⟨nofun, nofun, nofun⟩, ?_⟩
  rintro s ⟨⟩
  refine ⟨⟨nofun, nofun, nofun⟩, ?_⟩
  rintro s ⟨⟩
  refine ⟨⟨nofun, nofun, nofun⟩, ?_⟩
  rintro s ⟨⟩
  exact ⟨⟨nofun, nofun, nofun⟩, trivial⟩

/-- An address that the customer does not have is made the default. -/
def unknownChosen : List (Unit × DaoEnv) :=
  [((), .ok), ((), .next 0), ((), .ok), ((), .next 0)]

theorem unknown_address_no_default :
    ¬∀ (calls : Unit → AddressCall) (db : AccountTables String) (l : List (Unit × DaoEnv)),
      (∀ k, db.UniqueIds id k) → OneDefaultEach id db →
        Transition.Always (step id)
          (fun s => s.Idle calls → OneDefaultEach id s.world.server.tables) (init calls db) l := by
  intro h
  have hlast := (h (fun _ => .setDefaultAddress "hong" 7) twoAddresses unknownChosen
    twoAddresses_unique twoAddresses_oneDefaultEach).last rfl
  obtain ⟨row, hrow⟩ := hlast (fun _ => .inr nofun) "hong" (by decide)
  cases hrow

end AddressCalls

end Calls

end ItsBedalyo
