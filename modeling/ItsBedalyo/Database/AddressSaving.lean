import ItsBedalyo.Database.DeliveryAddress

/-!
# `saveAddress` repairs and is atomic

One call of `saveAddress` while other connections run whatever they like on other users' rows, one
operation at a time and in any order, from any tables, and with anything but `rollback` and
`setAutoCommit` throwing.

Nobody else writes the rows of the user (`AccountWrite.About`), so the user's part of the tables
(`SamePart`) is what the call has published onto it, whatever is published in between
(`Describes`). What the operations do to the call's own state (`savingSpec`) is then all that its
result and its writes depend on.
-/

namespace ItsBedalyo

open RowLocking Interface AccountStatement

namespace AddressSaving

variable {κ : Type} [DecidableEq κ] (key : String → κ)

/-! ### The user's part of the tables -/

/-- The statement is about rows of user `k`, in the tables that `saveAddress` writes. -/
def About (k : κ) (stmt : AccountStatement) : Prop :=
  .addresses k ∈ stmt.rows key ∨ .customer k ∈ stmt.rows key

/-- A write that a statement about another user makes. -/
def Elsewhere (k : κ) : AccountWrite κ → Prop
  | .addresses k' rows => k' ≠ k ∧ ∀ row ∈ rows, key row.userId = k'
  | .customer k' _ => k' ≠ k
  | _ => True

/-- A write of rows of the user, in the tables that `saveAddress` writes. -/
def Own (k : κ) : AccountWrite κ → Prop
  | .addresses k' rows => k' = k ∧ ∀ row ∈ rows, key row.userId = k
  | .customer k' _ => k' = k
  | _ => False

/-- The user has the same addresses and the same row in `CUSTOMERS`. -/
structure SamePart (k : κ) (db db' : AccountTables κ) : Prop where
  addresses : db'.addressesOf key k = db.addressesOf key k
  customer : db'.customers.lookup k = db.customers.lookup k

variable {key} {k : κ} {db db' db'' : AccountTables κ}

theorem SamePart.trans (h : SamePart key k db db') (h' : SamePart key k db' db'') :
    SamePart key k db db'' :=
  ⟨h'.addresses.trans h.addresses, h'.customer.trans h.customer⟩

/-- Writes to other rows leave the user's part alone. -/
theorem samePart_writes_of_elsewhere {ws : List (AccountWrite κ)}
    (h : ∀ u ∈ ws, Elsewhere key k u) :
    SamePart key k db ((AccountTables.storage key).writes db ws) := by
  induction ws generalizing db with
  | nil => exact ⟨rfl, rfl⟩
  | cons u ws ih =>
    refine SamePart.trans ?_ (ih fun u' hu' => h u' (.tail _ hu'))
    have hu := h u (.head _)
    cases u with
    | addresses k' rows =>
      exact ⟨AccountTables.addressesOf_write_of_ne key db (Ne.symm hu.1) hu.2, rfl⟩
    | customer k' row => exact ⟨rfl, AList.lookup_insert_ne (Ne.symm hu)⟩
    | user | owner | store => exact ⟨rfl, rfl⟩

/-- What a write makes of the user's part depends on the user's part only. -/
theorem samePart_writes (h : SamePart key k db db') (ws : List (AccountWrite κ)) :
    SamePart key k ((AccountTables.storage key).writes db ws)
      ((AccountTables.storage key).writes db' ws) := by
  induction ws generalizing db db' with
  | nil => exact h
  | cons u ws ih =>
    refine ih ?_
    cases u with
    | addresses k' rows =>
      refine ⟨?_, h.customer⟩
      have hkept (db : AccountTables κ) : (db.write key (.addresses k' rows)).addressesOf key k =
          ((db.addressesOf key k).filter fun row => key row.userId ≠ k') ++
            rows.filter fun row => key row.userId = k := by
        rw [AccountTables.addressesOf, AccountTables.addressesOf, AccountTables.write,
          List.filter_append, List.filter_comm]
      exact (hkept db').trans ((congrArg (fun l => List.filter _ l ++ _) h.addresses).trans
        (hkept db).symm)
    | customer k' row =>
      refine ⟨h.addresses, ?_⟩
      rcases eq_or_ne k k' with rfl | hk
      · exact (AList.lookup_insert db'.customers).trans (AList.lookup_insert db.customers).symm
      · exact (AList.lookup_insert_ne hk).trans (h.customer.trans (AList.lookup_insert_ne hk).symm)
    | user | owner | store => exact ⟨h.addresses, h.customer⟩

/-- What a statement writes to a user's addresses are addresses of that user. -/
theorem key_of_effect {stmt : AccountStatement} {id : ℤ} {n : ℕ} {ws : List (AccountWrite κ)}
    (h : stmt.effect key db id = some (n, ws)) {rows : List AddressRow}
    (hu : AccountWrite.addresses k rows ∈ ws) : ∀ row ∈ rows, key row.userId = k := by
  cases stmt with
  | insertUser | insertCustomer | insertOwner | insertStore =>
    simp only [effect] at h
    split at h
    · cases h
    · cases h
      simp at hu
  | setUserGrade | setCustomerGrade | setCustomerAddress =>
    simp only [effect] at h
    split at h <;> cases h <;> simp at hu
  | insertAddress userId =>
    simp only [effect] at h
    split at h
    · cases h
    · cases h
      obtain ⟨rfl, rfl⟩ := AccountWrite.addresses.inj (List.mem_singleton.mp hu)
      intro row hmem
      rcases List.mem_append.mp hmem with hmem | hmem
      · exact key_of_mem_addressesOf hmem
      · rw [List.mem_singleton.mp hmem]
  | deleteAddress userId =>
    cases h
    obtain ⟨rfl, rfl⟩ := AccountWrite.addresses.inj (List.mem_singleton.mp hu)
    exact fun row hmem => key_of_mem_addressesOf (List.mem_of_mem_filter hmem)
  | resetDefaults userId =>
    cases h
    obtain ⟨rfl, rfl⟩ := AccountWrite.addresses.inj (List.mem_singleton.mp hu)
    intro row hmem
    obtain ⟨old, hold, rfl⟩ := List.mem_map.mp hmem
    exact (key_of_mem_addressesOf hold : key old.userId = key userId)
  | setDefault userId addressId =>
    cases h
    obtain ⟨rfl, rfl⟩ := AccountWrite.addresses.inj (List.mem_singleton.mp hu)
    intro row hmem
    obtain ⟨old, hold, rfl⟩ := List.mem_map.mp hmem
    exact (congrArg key (AddressRow.userId_select addressId old)).trans
      (key_of_mem_addressesOf hold)
  | updateAddress detail guide label userId addressId =>
    cases h
    obtain ⟨rfl, rfl⟩ := AccountWrite.addresses.inj (List.mem_singleton.mp hu)
    intro row hmem
    obtain ⟨old, hold, rfl⟩ := List.mem_map.mp hmem
    have hedit := AddressRow.userId_edit ⟨userId, addressId, detail, guide, label⟩ old
    exact (congrArg key hedit).trans (key_of_mem_addressesOf hold)

/-- A statement about another user writes elsewhere. -/
theorem elsewhere_of_effect {stmt : AccountStatement} (hstmt : ¬About key k stmt) {id : ℤ} {n : ℕ}
    {ws : List (AccountWrite κ)} (h : stmt.effect key db id = some (n, ws)) :
    ∀ u ∈ ws, Elsewhere key k u := by
  intro u hu
  have hrow := row_mem_rows key h u hu
  cases u with
  | addresses k' rows =>
    refine ⟨fun hk => hstmt (.inl ?_), key_of_effect h hu⟩
    exact hk ▸ hrow _ rfl
  | customer k' row => exact fun hk => hstmt (.inr (hk ▸ hrow _ rfl))
  | user | owner | store => trivial

/-! ### The call by itself -/

/-- A call's connection, its `LAST_INSERT_ID()`, what it has published and reported, and whether
anything has been thrown. -/
structure CallState (κ : Type) where
  autoCommit : Bool
  pending : List (AccountWrite κ)
  published : List (AccountWrite κ)
  lastInsertId : ℤ
  reported : List ℤ
  thrown : Bool

namespace CallState

/-- At the beginning. -/
def fresh : CallState κ := ⟨true, [], [], 0, [], false⟩

instance : Inhabited (CallState κ) := ⟨fresh⟩

/-- `commit()`. -/
def commit (c : CallState κ) : CallState κ :=
  { c with published := c.published ++ c.pending, pending := [] }

/-- `setAutoCommit(on)`. -/
def setAutoCommit (c : CallState κ) (on : Bool) : CallState κ :=
  if on then { c.commit with autoCommit := true } else { c with autoCommit := false }

/-- A statement that has made the writes `ws`. -/
def execute (c : CallState κ) (stmt : AccountStatement) (id : ℤ) (ws : List (AccountWrite κ)) :
    CallState κ where
  autoCommit := c.autoCommit
  pending := if c.autoCommit then c.pending else c.pending ++ ws
  published := if c.autoCommit then c.published ++ ws else c.published
  lastInsertId := if stmt.numbers then id else c.lastInsertId
  reported := c.reported
  thrown := c.thrown

end CallState

/-- What the operations do to a call that began with the tables `db`, as long as only it writes the
rows of user `k`. -/
def savingSpec (key : String → κ) (db : AccountTables κ) (k : κ) :
    DaoSpec AccountStatement AccountQuery ℤ AccountQuery.Answer (CallState κ) where
  pre _ _ := True
  returns c
    | .setAutoCommit on, _, c' => c' = c.setAutoCommit on
    | .prepareStatement, _, c' => c' = c
    | .executeUpdate stmt, n, c' => ∃ seen id ws,
        SamePart key k ((AccountTables.storage key).writes db (c.published ++ c.pending)) seen ∧
        stmt.effect key seen id = some (n, ws) ∧ c' = c.execute stmt id ws
    | .executeQuery query, a, c' => (∃ seen, a = query.answer key seen c.lastInsertId) ∧ c' = c
    | .commit, _, c' => c' = c.commit
    | .rollback, _, c' => c' = { c with pending := [] }
    | .sendPacket newId, _, c' => c' = { c with reported := c.reported ++ [newId] }
  throws c
    | .executeUpdate _, c' =>
      c' = { c with thrown := true } ∨ c' = { c with pending := [], thrown := true }
    | .sendPacket _, _ => False
    | _, c' => c' = { c with thrown := true }

/-- `saveAddress`, and what it returns is reported to the caller. -/
def report (dto : ReqAddressSaveDTO) : AccountDao ℤ Unit := do
  let newId ← AddressDAO.saveAddress dto
  Dao.sendPacket newId

/-- Writes to the user's own rows after which the new row is the only default. -/
structure Saves (key : String → κ) (db : AccountTables κ) (dto : ReqAddressSaveDTO) (newId : ℤ)
    (ws : List (AccountWrite κ)) : Prop where
  own : ∀ u ∈ ws, Own key (key dto.userId) u
  addresses : ((AccountTables.storage key).writes db ws).addressesOf key (key dto.userId) =
    (db.addressesOf key (key dto.userId)).map AddressRow.reset ++ [dto.row newId]
  customer : ((AccountTables.storage key).writes db ws).customers.lookup (key dto.userId) =
    (db.customers.lookup (key dto.userId)).map fun row =>
      { row with address := some (dto.address ++ " " ++ dto.detail) }

/-- A change of a table that holds the user's part is a change of the user's part. -/
theorem part_of_addressStep {f : List AddressRow → List AddressRow} {sync : Option String}
    {seen : AccountTables κ} {ws : List (AccountWrite κ)} (hseen : SamePart key k db seen)
    (h : AddressStep key k f sync seen ((AccountTables.storage key).writes seen ws)) :
    ((AccountTables.storage key).writes db ws).addressesOf key k = f (db.addressesOf key k) ∧
      ((AccountTables.storage key).writes db ws).customers.lookup k =
        (db.customers.lookup k).map fun row => { row with address := sync <|> row.address } := by
  have hpart := samePart_writes hseen ws
  refine ⟨?_, ?_⟩
  · rw [← hpart.addresses, h.addresses, hseen.addresses]
  · rw [← hpart.customer, h.customer, hseen.customer]

/-- What the statements of `saveAddress` write. -/
theorem own_of_effect {dto : ReqAddressSaveDTO} {seen seen' seen'' : AccountTables κ}
    {newId : ℤ} (id id'' : ℤ) {n n' n'' : ℕ} {ws ws' ws'' : List (AccountWrite κ)}
    (hreset : (resetDefaults dto.userId).effect key seen id = some (n, ws))
    (hinsert : (insertAddress dto.userId dto.address dto.detail dto.guide dto.label 1).effect key
      seen' newId = some (n', ws'))
    (hsync : (setCustomerAddress (dto.address ++ " " ++ dto.detail) dto.userId).effect key seen''
      id'' = some (n'', ws'')) :
    ∀ u ∈ ws ++ ws' ++ ws'', Own key (key dto.userId) u := by
  intro u hu
  rcases List.mem_append.mp hu with hu | hu
  · rcases List.mem_append.mp hu with hu | hu
    · have hrows (rows) (hmem : AccountWrite.addresses (key dto.userId) rows ∈ ws) :=
        key_of_effect hreset hmem
      cases hreset
      obtain rfl := List.mem_singleton.mp hu
      exact ⟨rfl, hrows _ (.head _)⟩
    · have hrows (rows) (hmem : AccountWrite.addresses (key dto.userId) rows ∈ ws') :=
        key_of_effect hinsert hmem
      simp only [effect] at hinsert
      split at hinsert
      · cases hinsert
      · cases hinsert
        obtain rfl := List.mem_singleton.mp hu
        exact ⟨rfl, hrows _ (.head _)⟩
  · simp only [effect] at hsync
    split at hsync
    · cases hsync
      obtain rfl := List.mem_singleton.mp hu
      exact rfl
    · cases hsync
      cases hu

/-- The three statements of `saveAddress`. -/
theorem saves_of_effect {dto : ReqAddressSaveDTO} {seen seen' seen'' : AccountTables κ}
    {newId : ℤ} (id id'' : ℤ) {n n' n'' : ℕ} {ws ws' ws'' : List (AccountWrite κ)}
    (hseen : SamePart key (key dto.userId) db seen)
    (hreset : (resetDefaults dto.userId).effect key seen id = some (n, ws))
    (hseen' : SamePart key (key dto.userId) ((AccountTables.storage key).writes db ws) seen')
    (hinsert : (insertAddress dto.userId dto.address dto.detail dto.guide dto.label 1).effect key
      seen' newId = some (n', ws'))
    (hseen'' : SamePart key (key dto.userId)
      ((AccountTables.storage key).writes db (ws ++ ws')) seen'')
    (hsync : (setCustomerAddress (dto.address ++ " " ++ dto.detail) dto.userId).effect key seen''
      id'' = some (n'', ws'')) :
    Saves key db dto newId (ws ++ ws' ++ ws'') := by
  have hstep : AddressStep key (key dto.userId) (List.map AddressRow.reset) none seen
      ((AccountTables.storage key).writes seen ws) := by
    cases hreset
    exact addressStep_map (fun _ => rfl) fun _ => rfl
  obtain ⟨haddresses, hcustomer⟩ := part_of_addressStep hseen hstep
  obtain ⟨haddresses', hcustomer'⟩ := part_of_addressStep hseen' (addressStep_insertAddress hinsert)
  obtain ⟨haddresses'', hcustomer''⟩ := part_of_addressStep hseen''
    (addressStep_setCustomerAddress id'' hsync)
  rw [← Storage.writes_append] at haddresses' hcustomer' haddresses'' hcustomer''
  refine ⟨own_of_effect id id'' hreset hinsert hsync, ?_, ?_⟩
  · rw [haddresses'', id_eq, haddresses', haddresses]
  · rw [hcustomer'', hcustomer', hcustomer]
    simp

/-- What a call has done when it is over: everything, or nothing if anything has been thrown. -/
structure Ended (key : String → κ) (db : AccountTables κ) (dto : ReqAddressSaveDTO)
    (c : CallState κ) : Prop where
  failed : c.thrown = true → c.reported = [-1] ∧ c.published = []
  saved : c.thrown = false → ∃ newId, c.reported = [newId] ∧ Saves key db dto newId c.published

theorem ended_of_failed {dto : ReqAddressSaveDTO} {lastInsertId : ℤ} :
    Ended key db dto ⟨true, [], [], lastInsertId, [-1], true⟩ :=
  ⟨fun _ => ⟨rfl, rfl⟩, nofun⟩

/-- **`saveAddress` by itself.** -/
theorem wp_report (dto : ReqAddressSaveDTO) :
    (savingSpec key db (key dto.userId)).interface.wp (report dto) (fun _ c => Ended key db dto c)
      .fresh := by
  simp [report, AddressDAO.saveAddress, savingSpec, CallState.fresh, CallState.setAutoCommit,
    CallState.commit, CallState.execute]
  refine ⟨?_, ended_of_failed⟩
  rintro n c seen hseen id ws hreset rfl
  refine ⟨?_, ended_of_failed⟩
  rintro n' c' seen' hseen' newId ws' hinsert rfl
  refine ⟨?_, ended_of_failed⟩
  rintro last c' seen₀ hlast rfl
  obtain rfl : last = newId := hlast
  refine ⟨?_, ended_of_failed⟩
  rintro n'' c'' seen'' hseen'' id'' ws'' hsync rfl
  refine ⟨⟨fun h => absurd h Bool.false_ne_true, fun _ => ⟨last, rfl, ?_⟩⟩, ended_of_failed⟩
  exact saves_of_effect id id'' hseen hreset hseen' hinsert hseen'' hsync

/-! ### The call among others -/

section Calls

variable {τ : Type} [DecidableEq τ] {t₀ t : τ}

/-- The world of the calls, and what they have been answered so far. -/
abbrev SavingWorld (τ κ : Type) :=
  DaoWorld τ (AccountTables κ) (AccountWrite κ) (AccountRow κ) ℤ × List (τ × DaoEnv)

/-- Some operation of call `t` has thrown. -/
def Threw (t : τ) (answers : List (τ × DaoEnv)) : Prop :=
  ∃ e, (t, e) ∈ answers ∧ e.returns = false

/-- What the world knows of the call `t₀`. -/
structure Describes (key : String → κ) (db : AccountTables κ) (k : κ) (t₀ : τ)
    (w : SavingWorld τ κ) (c : CallState κ) : Prop where
  conns : w.1.server.conns t₀ = ⟨c.autoCommit, c.pending⟩
  lastInsertId : w.1.lastInsertId t₀ = c.lastInsertId
  reported : (w.1.sent.filter fun entry => entry.1 = t₀) = c.reported.map fun newId => (t₀, newId)
  published : (w.1.server.log.filter fun entry => entry.1 = t₀) = c.published.map fun u => (t₀, u)
  part : SamePart key k ((AccountTables.storage key).writes db c.published) w.1.server.tables
  history : w.1.server.tables =
    (AccountTables.storage key).writes db (w.1.server.log.map Prod.snd)
  thrown : c.thrown = true ↔ Threw t₀ w.2

/-- The other calls have written elsewhere, and so they will. -/
def Apart (key : String → κ) (k : κ) (t₀ : τ) (w : SavingWorld τ κ) : Prop :=
  ∀ t ≠ t₀, ∀ u ∈ (w.1.server.conns t).pending, Elsewhere key k u

/-- What another call may do: anything, but no statement about user `k`. -/
def elsewhere (key : String → κ) (k : κ) :
    DaoSpec AccountStatement AccountQuery ℤ AccountQuery.Answer (CallState κ) where
  pre _
    | .executeUpdate stmt => ¬About key k stmt
    | _ => True
  returns _ _ _ _ := True
  throws _ _ _ := True

omit [DecidableEq τ] in
theorem threw_append {t : τ} {e : DaoEnv} {answers : List (τ × DaoEnv)} :
    Threw t₀ (answers ++ [(t, e)]) ↔ Threw t₀ answers ∨ t = t₀ ∧ e.returns = false := by
  simp only [Threw, List.mem_append, List.mem_singleton, Prod.mk.injEq]
  constructor
  · rintro ⟨e', hmem | ⟨rfl, rfl⟩, he⟩
    · exact .inl ⟨e', hmem, he⟩
    · exact .inr ⟨rfl, he⟩
  · rintro (⟨e', hmem, he⟩ | ⟨rfl, he⟩)
    · exact ⟨e', .inl hmem, he⟩
    · exact ⟨e, .inr ⟨rfl, rfl⟩, he⟩

variable {w w' : SavingWorld τ κ} {c : CallState κ} {o : DaoOp AccountStatement AccountQuery ℤ}
  {e : DaoEnv} {r : Except Exn (o.Res AccountQuery.Answer)}

omit [DecidableEq τ] in
/-- What another call publishes is elsewhere. -/
theorem elsewhere_of_publishes (hapart : Apart key k t₀ w) (ht : t ≠ t₀)
    (hpre : (elsewhere key k).pre c o) {ws : List (AccountWrite κ)}
    (h : DaoSchema.Publishes (accountSchema key) t w.1.server o e ws) :
    ∀ u ∈ ws, Elsewhere key k u := by
  cases h with
  | nothing => exact fun _ hu => absurd hu List.not_mem_nil
  | statement _ heffect => exact elsewhere_of_effect hpre heffect
  | commit | setAutoCommit => exact hapart t ht

/-- The other calls stay elsewhere. -/
theorem Apart.exec (hapart : Apart key k t₀ w)
    (hpre : t ≠ t₀ → (elsewhere key k).pre c o)
    (he : (accountSchema key).exec t o e w.1 = some (r, w'.1)) : Apart key k t₀ w' := by
  intro t' ht' u hu
  rcases eq_or_ne t' t with rfl | hne
  · rcases DaoSchema.exec_pending he u hu with hold | ⟨stmt, id, n, ws, rfl, heffect, hws⟩
    · exact hapart t' ht' u hold
    · exact elsewhere_of_effect (hpre ht') heffect u hws
  · rw [DaoSchema.exec_conns_of_ne hne he] at hu
    exact hapart t' ht' u hu

/-- An operation of another call. -/
theorem Describes.exec_of_ne (h : Describes key db k t₀ w c) (hapart : Apart key k t₀ w)
    (ht : t ≠ t₀) (hpre : (elsewhere key k).pre c o)
    (he : (accountSchema key).exec t o e w.1 = some (r, w'.1)) (hw' : w'.2 = w.2 ++ [(t, e)]) :
    Describes key db k t₀ w' c := by
  obtain ⟨ws, hpublishes, htables, hlog⟩ := DaoSchema.exec_publishes he
  have hothers (l : List (AccountWrite κ)) :
      ((l.map fun u => (t, u)).filter fun entry => entry.1 = t₀) = [] := by
    refine List.filter_eq_nil_iff.mpr fun entry hentry => ?_
    obtain ⟨u, -, rfl⟩ := List.mem_map.mp hentry
    exact fun hself => ht (of_decide_eq_true hself)
  refine ⟨(DaoSchema.exec_conns_of_ne ht.symm he).trans h.conns,
    (DaoSchema.exec_lastInsertId_of_ne ht.symm he).trans h.lastInsertId, ?_, ?_, ?_, ?_, ?_⟩
  · rcases DaoSchema.exec_sent he with hsent | ⟨newId, -, hsent⟩
    · rw [hsent, h.reported]
    · rw [hsent, List.filter_append, h.reported]
      simp [ht]
  · rw [hlog, List.filter_append, hothers, List.append_nil, h.published]
  · refine h.part.trans ?_
    rw [htables]
    exact samePart_writes_of_elsewhere (elsewhere_of_publishes hapart ht hpre hpublishes)
  · rw [htables, hlog, List.map_append, Storage.writes_append, ← h.history, List.map_map]
    exact congrArg _ (List.map_id' ws).symm
  · rw [hw', threw_append, h.thrown]
    exact ⟨.inl, fun h => h.resolve_right fun hself => ht hself.1⟩

/-- An operation of the call, by what it publishes. -/
theorem Describes.of_published (h : Describes key db k t₀ w c) {c' : CallState κ}
    (ws : List (AccountWrite κ))
    (htables : w'.1.server.tables = (AccountTables.storage key).writes w.1.server.tables ws)
    (hlog : w'.1.server.log = w.1.server.log ++ ws.map fun u => (t₀, u))
    (hconns : w'.1.server.conns t₀ = ⟨c'.autoCommit, c'.pending⟩)
    (hlast : w'.1.lastInsertId t₀ = c'.lastInsertId)
    (hreported : (w'.1.sent.filter fun entry => entry.1 = t₀) =
      c'.reported.map fun newId => (t₀, newId))
    (hpublished : c'.published = c.published ++ ws)
    (hw' : w'.2 = w.2 ++ [(t₀, e)])
    (hthrown : c'.thrown = true ↔ c.thrown = true ∨ e.returns = false) :
    Describes key db k t₀ w' c' := by
  refine ⟨hconns, hlast, hreported, ?_, ?_, ?_, ?_⟩
  · rw [hlog, List.filter_append, h.published, hpublished, List.map_append]
    simp
  · rw [htables, hpublished, Storage.writes_append]
    exact samePart_writes h.part ws
  · rw [htables, hlog, List.map_append, Storage.writes_append, ← h.history, List.map_map]
    exact congrArg _ (List.map_id' ws).symm
  · rw [hw', threw_append, hthrown, h.thrown]
    simp only [true_and]

/-- An operation of the call that publishes nothing. -/
theorem Describes.of_quiet (h : Describes key db k t₀ w c) {c' : CallState κ}
    (htables : w'.1.server.tables = w.1.server.tables)
    (hlog : w'.1.server.log = w.1.server.log)
    (hconns : w'.1.server.conns t₀ = ⟨c'.autoCommit, c'.pending⟩)
    (hlast : w'.1.lastInsertId t₀ = c'.lastInsertId)
    (hreported : (w'.1.sent.filter fun entry => entry.1 = t₀) =
      c'.reported.map fun newId => (t₀, newId))
    (hpublished : c'.published = c.published)
    (hw' : w'.2 = w.2 ++ [(t₀, e)])
    (hthrown : c'.thrown = true ↔ c.thrown = true ∨ e.returns = false) :
    Describes key db k t₀ w' c' :=
  h.of_published [] htables (hlog.trans (List.append_nil _).symm) hconns hlast hreported
    (hpublished.trans (List.append_nil _).symm) hw' hthrown

/-- An operation of the call that throws, and does nothing else. -/
theorem Describes.of_throw (h : Describes key db k t₀ w c) {answers : List (τ × DaoEnv)}
    (hanswers : answers = w.2 ++ [(t₀, e)]) (he : e.returns = false) :
    Describes key db k t₀ (w.1, answers) { c with thrown := true } :=
  h.of_quiet rfl rfl h.conns h.lastInsertId h.reported rfl hanswers (iff_of_true rfl (.inr he))

/-- A statement of the call, which is published at once in autocommit mode. -/
theorem Describes.execute_self (h : Describes key db k t₀ w c) {stmt : AccountStatement} {id : ℤ}
    {ws : List (AccountWrite κ)} {answers : List (τ × DaoEnv)}
    (hanswers : answers = w.2 ++ [(t₀, .next id)]) :
    Describes key db k t₀
      ({ w.1 with
          server := if (w.1.server.conns t₀).autoCommit then
              w.1.server.publish (AccountTables.storage key) t₀ ws
            else w.1.server.enqueue (AccountTables.storage key) t₀ ws
          lastInsertId := if stmt.numbers then Function.update w.1.lastInsertId t₀ id
            else w.1.lastInsertId }, answers) (c.execute stmt id ws) := by
  have hthrown : c.thrown = true ↔ c.thrown = true ∨ (DaoEnv.next id).returns = false :=
    (or_iff_left Bool.noConfusion).symm
  have hlast : (if stmt.numbers then Function.update w.1.lastInsertId t₀ id
      else w.1.lastInsertId) t₀ = (c.execute stmt id ws).lastInsertId := by
    rw [CallState.execute]
    split
    · exact Function.update_self ..
    · exact h.lastInsertId
  have hconns := h.conns
  cases hauto : c.autoCommit with
  | true =>
    rw [hauto] at hconns
    refine h.of_published ws ?_ ?_ ?_ hlast h.reported ?_ hanswers hthrown
    · simp [hconns]
    · simp [hconns, Server.publish]
    · simp [hconns, CallState.execute, hauto]
    · simp [CallState.execute, hauto]
  | false =>
    rw [hauto] at hconns
    refine h.of_quiet ?_ ?_ ?_ hlast h.reported ?_ hanswers hthrown
    · simp [hconns]
    · simp [hconns]
    · simp [hconns, CallState.execute, hauto]
    · simp [CallState.execute, hauto]

/-- An operation of the call does what `savingSpec` says. -/
theorem Describes.exec_self (h : Describes key db k t₀ w c)
    (he : (accountSchema key).exec t₀ o e w.1 = some (r, w'.1)) (hw' : w'.2 = w.2 ++ [(t₀, e)]) :
    ∃ c', (savingSpec key db k).interface.post c o r c' ∧ Describes key db k t₀ w' c' := by
  obtain ⟨w', answers⟩ := w'
  have hpending : (w.1.server.conns t₀).pending = c.pending :=
    congrArg RowLocking.Connection.pending h.conns
  have hclean : (⟨(w.1.server.conns t₀).autoCommit, []⟩ : RowLocking.Connection (AccountWrite κ)) =
      ⟨c.autoCommit, []⟩ := by
    rw [h.conns]
  -- What the call publishes is what its connection has pending, so its view is the user's part of
  -- the tables after the writes that `c` keeps account of.
  have hview : SamePart key k
      ((AccountTables.storage key).writes db (c.published ++ c.pending))
      (w.1.server.view (AccountTables.storage key) t₀) := by
    rw [Server.view, hpending, Storage.writes_append]
    exact samePart_writes h.part c.pending
  cases o with
  | setAutoCommit on =>
    cases e <;> cases he
    cases on with
    | true =>
      refine ⟨_, rfl, h.of_published c.pending ?_ ?_ ?_ h.lastInsertId h.reported rfl hw' ?_⟩
      · exact congrArg _ hpending
      · exact congrArg (fun l => w.1.server.log ++ l.map fun u => (t₀, u)) hpending
      · exact Server.setAutoCommit_conns_self w.1.server t₀ true
      · exact (or_iff_left Bool.noConfusion).symm
    | false =>
      refine ⟨_, rfl, h.of_quiet rfl rfl ?_ h.lastInsertId h.reported rfl hw' ?_⟩
      · exact (Server.setAutoCommit_conns_self (S := AccountTables.storage key) w.1.server t₀
          false).trans (congrArg (RowLocking.Connection.mk false) hpending)
      · exact (or_iff_left Bool.noConfusion).symm
  | prepareStatement =>
    cases e <;> cases he
    · exact ⟨_, rfl, h.of_quiet rfl rfl h.conns h.lastInsertId h.reported rfl hw'
        (or_iff_left Bool.noConfusion).symm⟩
    · exact ⟨_, ⟨trivial, rfl⟩, h.of_throw hw' rfl⟩
  | executeUpdate stmt =>
    cases e with
    | ok => cases he
    | next id =>
      obtain ⟨⟨n, server⟩, hs, heq⟩ := Option.map_eq_some_iff.mp he
      cases heq
      obtain ⟨ws, heffect, rfl⟩ := accountSchema_execute hs
      exact ⟨c.execute stmt id ws, ⟨_, id, ws, hview, heffect, rfl⟩, h.execute_self hw'⟩
    | fault what =>
      cases he
      exact ⟨_, ⟨trivial, .inl rfl⟩, h.of_throw hw' rfl⟩
    | deadlock what =>
      cases he
      refine ⟨_, ⟨trivial, .inr rfl⟩, h.of_quiet rfl rfl ?_ h.lastInsertId h.reported rfl hw'
        (iff_of_true rfl (.inr rfl))⟩
      exact (Server.rollback_conns_self ..).trans hclean
  | executeQuery query =>
    cases e <;> cases he
    · refine ⟨_, ⟨⟨w.1.server.view (AccountTables.storage key) t₀, ?_⟩, rfl⟩,
        h.of_quiet rfl rfl h.conns h.lastInsertId h.reported rfl hw'
          (or_iff_left Bool.noConfusion).symm⟩
      rw [← h.lastInsertId]
      rfl
    · exact ⟨_, ⟨trivial, rfl⟩, h.of_throw hw' rfl⟩
  | commit =>
    cases e <;> cases he
    · refine ⟨_, rfl, h.of_published c.pending ?_ ?_ ?_ h.lastInsertId h.reported rfl hw' ?_⟩
      · exact congrArg _ hpending
      · exact congrArg (fun l => w.1.server.log ++ l.map fun u => (t₀, u)) hpending
      · exact (Server.commit_conns_self ..).trans hclean
      · exact (or_iff_left Bool.noConfusion).symm
    · exact ⟨_, ⟨trivial, rfl⟩, h.of_throw hw' rfl⟩
  | rollback =>
    cases e <;> cases he
    refine ⟨_, rfl, h.of_quiet rfl rfl ?_ h.lastInsertId h.reported rfl hw'
      (or_iff_left Bool.noConfusion).symm⟩
    exact (Server.rollback_conns_self ..).trans hclean
  | sendPacket newId =>
    cases e <;> cases he
    refine ⟨_, rfl, h.of_quiet rfl rfl h.conns h.lastInsertId ?_ rfl hw'
      (or_iff_left Bool.noConfusion).symm⟩
    show (w.1.sent ++ [(t₀, newId)]).filter _ = _
    rw [List.filter_append, h.reported, List.map_append]
    simp

/-! ### The whole run -/

/-- The calls: `t₀` saves an address, the others do what their programs say. -/
abbrev Calls (τ κ : Type) := Threads τ (@DaoOp.Res AccountStatement AccountQuery ℤ
  AccountQuery.Answer) Exn (DaoWorld τ (AccountTables κ) (AccountWrite κ) (AccountRow κ) ℤ)

/-- One operation of one call. -/
def step (key : String → κ) (s : Calls τ κ) (a : τ × DaoEnv) : Option (Calls τ κ) :=
  Threads.step (fun t o e w => (accountSchema key).exec t o e w) s a

/-- A program that executes no statement about user `k`. -/
def Spares (key : String → κ) (k : κ) (p : AccountDao ℤ Unit) : Prop :=
  (elsewhere key k).interface.wp p (fun _ _ => True) .fresh

/-- The functions that write rows of the account tables, by the user they are called for. -/
inductive AccountCall
  | insertUser (dto : SignupReqDTO)
  | updateMembershipGrade (userId targetGrade : String) (action : ℤ)
  | saveAddress (dto : ReqAddressSaveDTO)
  | deleteAddress (userId : String) (addressId : ℤ)
  | setDefaultAddress (userId : String) (addressId : ℤ)
  | updateAddress (req : ReqAddressUpdateDTO)

namespace AccountCall

def userId : AccountCall → String
  | insertUser dto => dto.userId
  | updateMembershipGrade userId _ _ => userId
  | saveAddress dto => dto.userId
  | deleteAddress userId _ => userId
  | setDefaultAddress userId _ => userId
  | updateAddress req => req.userId

/-- The call; its result is not reported. -/
def program : AccountCall → AccountDao ℤ Unit
  | insertUser dto => do
    let _ ← UserDAO.insertUser dto
  | updateMembershipGrade userId targetGrade action => do
    let _ ← MembershipDAO.updateMembershipGrade userId targetGrade action
  | saveAddress dto => do
    let _ ← AddressDAO.saveAddress dto
  | deleteAddress userId addressId => do
    let _ ← AddressDAO.deleteAddress userId addressId
  | setDefaultAddress userId addressId => do
    let _ ← AddressDAO.setDefaultAddress userId addressId
  | updateAddress req => do
    let _ ← AddressDAO.updateAddress req

omit [DecidableEq κ] in
/-- A call for another user keeps off the rows of user `k`. -/
theorem spares {call : AccountCall} (h : key call.userId ≠ k) : Spares key k call.program := by
  have hk : k ≠ key call.userId := h.symm
  cases call with
  | insertUser dto =>
    simp [Spares, program, elsewhere, UserDAO.insertUser, UserDAO.insertRows, UserDAO.insertRole,
      About, rows]
    exact fun _ => hk
  | updateMembershipGrade userId targetGrade action =>
    simp [Spares, program, elsewhere, MembershipDAO.updateMembershipGrade, About, rows]
    exact hk
  | saveAddress dto =>
    simp [Spares, program, elsewhere, AddressDAO.saveAddress, About, rows]
    exact hk
  | deleteAddress userId addressId =>
    simp [Spares, program, AddressDAO.deleteAddress, elsewhere]
    -- The default address is not deleted, nor is one that does not exist.
    intro a c
    split
    · simp
    · simp [About, rows]
      exact hk
    · simp
  | setDefaultAddress userId addressId =>
    simp [Spares, program, elsewhere, AddressDAO.setDefaultAddress, About, rows]
    exact ⟨hk, fun _ _ => hk⟩
  | updateAddress req =>
    simp [Spares, program, elsewhere, AddressDAO.updateAddress, About, rows]
    exact hk

end AccountCall

/-- The writes that a call has published. -/
def publishedBy (w : DaoWorld τ (AccountTables κ) (AccountWrite κ) (AccountRow κ) ℤ) (t : τ) :
    List (AccountWrite κ) :=
  (w.server.log.filter fun entry => entry.1 = t).map Prod.snd

/-- What a call has returned. -/
def reportedBy (w : DaoWorld τ (AccountTables κ) (AccountWrite κ) (AccountRow κ) ℤ) (t : τ) :
    List ℤ :=
  (w.sent.filter fun entry => entry.1 = t).map Prod.snd

/-- The call has changed no row, and the user's rows are as they were. -/
structure Untouched (key : String → κ) (db : AccountTables κ) (dto : ReqAddressSaveDTO) (t₀ : τ)
    (w : DaoWorld τ (AccountTables κ) (AccountWrite κ) (AccountRow κ) ℤ) : Prop where
  published : publishedBy w t₀ = []
  part : SamePart key (key dto.userId) db w.server.tables

/-- The call has changed rows of the user only: the new row is the only default, and the copy in
`CUSTOMERS` is brought up to date. -/
structure Saved (key : String → κ) (db : AccountTables κ) (dto : ReqAddressSaveDTO) (t₀ : τ)
    (w : DaoWorld τ (AccountTables κ) (AccountWrite κ) (AccountRow κ) ℤ) (newId : ℤ) : Prop where
  own : ∀ u ∈ publishedBy w t₀, Own key (key dto.userId) u
  addresses : w.server.tables.addressesOf key (key dto.userId) =
    (db.addressesOf key (key dto.userId)).map AddressRow.reset ++ [dto.row newId]
  default : w.server.tables.defaultAddresses key (key dto.userId) = [dto.row newId]
  customer : w.server.tables.customers.lookup (key dto.userId) =
    (db.customers.lookup (key dto.userId)).map fun row =>
      { row with address := some (dto.address ++ " " ++ dto.detail) }

/-- The interface of each call. -/
def interfaceOf (key : String → κ) (db : AccountTables κ) (k : κ) (t₀ t : τ) :
    Interface (@DaoOp.Res AccountStatement AccountQuery ℤ AccountQuery.Answer) Exn
      (CallState κ) :=
  if t = t₀ then (savingSpec key db k).interface else (elsewhere key k).interface

/-- The calls, with what they have been answered, in a state where everyone keeps to it. -/
def Safe (key : String → κ) (db : AccountTables κ) (dto : ReqAddressSaveDTO) (t₀ : τ)
    (s : Threads τ (@DaoOp.Res AccountStatement AccountQuery ℤ AccountQuery.Answer) Exn
      (SavingWorld τ κ)) : Prop :=
  Threads.Safe (interfaceOf key db (key dto.userId) t₀)
    (fun w g => Describes key db (key dto.userId) t₀ w (g t₀) ∧ Apart key (key dto.userId) t₀ w)
    (fun t _ c => t = t₀ → Ended key db dto c) s

theorem safe_init {dto : ReqAddressSaveDTO} {calls : τ → AccountDao ℤ Unit}
    (hself : calls t₀ = report dto) (hothers : ∀ t ≠ t₀, Spares key (key dto.userId) (calls t))
    (db : AccountTables κ) : Safe key db dto t₀ ⟨calls, (.init db, [])⟩ := by
  refine ⟨fun _ => .fresh, ⟨⟨rfl, rfl, rfl, rfl, ⟨rfl, rfl⟩, rfl, ?_⟩, fun t _ u hu => ?_⟩,
    fun t => ?_⟩
  · exact iff_of_false Bool.false_ne_true fun ⟨_, hmem, _⟩ => List.not_mem_nil hmem
  · exact absurd hu List.not_mem_nil
  · by_cases ht : t = t₀
    · subst ht
      rw [interfaceOf, if_pos rfl]
      show (savingSpec key db (key dto.userId)).interface.wp (calls t) _ _
      rw [hself]
      exact Interface.wp_mono (fun _ _ h _ => h) (wp_report dto)
    · rw [interfaceOf, if_neg ht]
      exact Interface.wp_mono (fun _ _ _ h => absurd h ht) (hothers t ht)

theorem Safe.step {dto : ReqAddressSaveDTO}
    {s s' : Threads τ (@DaoOp.Res AccountStatement AccountQuery ℤ AccountQuery.Answer) Exn
      (SavingWorld τ κ)} (h : Safe key db dto t₀ s) {a : τ × DaoEnv}
    (hs : Threads.step (Threads.recorded fun t o e w => (accountSchema key).exec t o e w) s a =
      some s') : Safe key db dto t₀ s' := by
  refine Threads.Safe.step (fun w g t o e r w' hJ hpre he => ?_) h hs
  obtain ⟨⟨r', w₁⟩, hexec, heq⟩ := Option.map_eq_some_iff.mp he
  obtain ⟨rfl, rfl⟩ := Prod.mk.inj heq
  by_cases ht : t = t₀
  · subst ht
    rw [interfaceOf, if_pos rfl]
    obtain ⟨c, hpost, hdescribes⟩ :=
      hJ.1.exec_self hexec (show (w₁, w.2 ++ [(t, e)]).2 = w.2 ++ [(t, e)] from rfl)
    refine ⟨c, hpost, ?_, hJ.2.exec (c := c) (fun hne => absurd rfl hne) hexec⟩
    rwa [Function.update_self]
  · rw [interfaceOf, if_neg ht] at hpre ⊢
    refine ⟨.fresh, ?_, ?_, hJ.2.exec (c := g t) (fun _ => hpre) hexec⟩
    · cases r' with
      | ok a => trivial
      | error err => exact ⟨DaoSchema.mayThrow_of_exec hexec, trivial⟩
    rw [Function.update_of_ne (Ne.symm ht)]
    exact hJ.1.exec_of_ne hJ.2 ht hpre hexec rfl

/-- Every operation can be answered, if only by an exception. -/
theorem exec_total (t : τ) (o : DaoOp AccountStatement AccountQuery ℤ)
    (w : DaoWorld τ (AccountTables κ) (AccountWrite κ) (AccountRow κ) ℤ) :
    ∃ e r w', (accountSchema key).exec t o e w = some (r, w') := by
  cases o with
  | executeUpdate stmt => exact ⟨.fault "", _, _, rfl⟩
  | _ => exact ⟨.ok, _, _, rfl⟩

/-- **`saveAddress` among other users' calls.** -/
theorem saveAddress_atomic (dto : ReqAddressSaveDTO) {calls : τ → AccountDao ℤ Unit}
    (hself : calls t₀ = report dto) (hothers : ∀ t ≠ t₀, Spares key (key dto.userId) (calls t))
    (db : AccountTables κ) {l : List (τ × DaoEnv)} {s : Calls τ κ}
    (hrun : Transition.run (step key) ⟨calls, .init db⟩ l = some s) :
    (s.Finished t₀ →
      (Threw t₀ l → reportedBy s.world t₀ = [-1] ∧ Untouched key db dto t₀ s.world) ∧
      (¬Threw t₀ l → ∃ newId, reportedBy s.world t₀ = [newId] ∧
        Saved key db dto t₀ s.world newId)) ∧
    s.world.server.tables =
      (AccountTables.storage key).writes db (s.world.server.log.map Prod.snd) ∧
    ∃ s', Transition.Reaches (step key) s s' ∧ s'.Finished t₀ := by
  have hsafe : Safe key db dto t₀ ⟨s.todo, (s.world, l)⟩ :=
    Transition.invariant_run (fun _ _ _ h hs => h.step hs) (safe_init hself hothers db)
      (Threads.run_recorded [] hrun)
  obtain ⟨g, ⟨hdescribes, -⟩, hwp⟩ := hsafe
  have hreported : reportedBy s.world t₀ = (g t₀).reported := by
    rw [reportedBy, hdescribes.reported, List.map_map]
    exact List.map_id' _
  have hpublished : publishedBy s.world t₀ = (g t₀).published := by
    rw [publishedBy, hdescribes.published, List.map_map]
    exact List.map_id' _
  refine ⟨fun hfinished => ?_, hdescribes.history, Threads.reaches_finished exec_total s t₀⟩
  -- the call has ended, so its postcondition holds of its own state
  have hended : Ended key db dto (g t₀) := by
    obtain ⟨r, hQ⟩ := Threads.Finished.post (I := interfaceOf key db (key dto.userId) t₀)
      (Q := fun t _ c => t = t₀ → Ended key db dto c) (s := ⟨s.todo, (s.world, l)⟩) hfinished
      (hwp t₀)
    exact hQ rfl
  have hpart := hdescribes.part
  refine ⟨fun hthrew => ?_, fun hthrew => ?_⟩
  · obtain ⟨hminus, hnothing⟩ := hended.failed (hdescribes.thrown.mpr hthrew)
    rw [hnothing] at hpart hpublished
    exact ⟨hreported.trans hminus, hpublished, hpart⟩
  · obtain ⟨newId, hnew, hsaves⟩ :=
      hended.saved (eq_false_of_ne_true fun h => hthrew (hdescribes.thrown.mp h))
    -- the other calls spare the user, so the insert is all that has changed
    have haddresses := hpart.addresses.trans hsaves.addresses
    refine ⟨newId, hreported.trans hnew, ?_, haddresses, ?_, hpart.customer.trans hsaves.customer⟩
    · rw [hpublished]
      exact hsaves.own
    · rw [AccountTables.defaultAddresses, haddresses]
      exact filter_default_insert _ dto newId

end Calls

/-- The customer `"hong"` saves an address while `"kim"` does. -/
def twoSaves : Bool → AccountDao ℤ Unit
  | true => report ⟨"hong", "에버랜드로 143", "1층", "", "집"⟩
  | false => AccountCall.program (.saveAddress ⟨"kim", "판교로 1", "2층", "", "회사"⟩)

/-- The inserts of the two calls come one after the other, and `COMMIT` of `"hong"` throws. -/
def commitThrows : List (Bool × DaoEnv) :=
  [(true, .ok), (false, .ok), (true, .ok), (true, .next 0), (false, .ok), (false, .next 0),
    (true, .ok), (true, .next 1), (false, .ok), (false, .next 2), (true, .ok), (true, .ok),
    (true, .ok), (true, .next 0), (true, .fault "commit"), (true, .ok), (true, .ok), (true, .ok)]

/-- The calls afterwards. -/
def afterCommitThrows : Calls Bool String :=
  (Transition.run (step id) ⟨twoSaves, .init ⟨∅, ∅, ∅, [], []⟩⟩ commitThrows).getD
    ⟨twoSaves, .init ⟨∅, ∅, ∅, [], []⟩⟩

theorem saveAddress_atomic_commitThrows :
    Transition.run (step id) ⟨twoSaves, .init ⟨∅, ∅, ∅, [], []⟩⟩ commitThrows =
      some afterCommitThrows ∧
    reportedBy afterCommitThrows.world true = [-1] ∧
    Untouched id ⟨∅, ∅, ∅, [], []⟩ ⟨"hong", "에버랜드로 143", "1층", "", "집"⟩ true
      afterCommitThrows.world := by
  have hothers : ∀ t ≠ true, Spares id (id "hong") (twoSaves t) := by
    intro t ht
    obtain rfl : t = false := eq_false_of_ne_true ht
    exact AccountCall.spares (show id (AccountCall.saveAddress
      ⟨"kim", "판교로 1", "2층", "", "회사"⟩).userId ≠ id "hong" by decide)
  have hreturned : afterCommitThrows.todo true = .ret () := rfl
  have hfinished : afterCommitThrows.Finished true := by
    intro o k h
    rw [hreturned] at h
    cases h
  have hself : twoSaves true = report ⟨"hong", "에버랜드로 143", "1층", "", "집"⟩ := rfl
  refine ⟨rfl, ((saveAddress_atomic _ hself hothers _ (l := commitThrows) rfl).1 hfinished).1 ?_⟩
  exact ⟨.fault "commit", by simp [commitThrows], rfl⟩

end AddressSaving

end ItsBedalyo
