import ItsBedalyo.Database.DeliveryAddress

/-!
# Is `setDefaultAddress` atomic?

`setDefaultAddress` resets the defaults of a user, sets one address as the default and copies it
to `CUSTOMERS`, each in a statement that is published at once. It answers `false` when anything
throws and when the address is not the user's, and what has been published by then stays.

`Atomic` is what the answer promises of the tables. It holds exactly when the call does not stop
halfway, or what it has published so far has changed nothing (`Harmless`). The copy is read up to a
NUL, so that an address with one is not copied as it is.
-/

namespace ItsBedalyo

open RowLocking Interface AccountStatement

namespace DefaultChange

variable {κ : Type} [DecidableEq κ] {key : String → κ} {db db' : AccountTables κ}

/-! ### The same rows -/

/-- `USER_ADDRESSES` and `CUSTOMERS` have the rows they had. -/
structure Unchanged (db db' : AccountTables κ) : Prop where
  addresses : db'.addresses.Perm db.addresses
  customers : ∀ k, db'.customers.lookup k = db.customers.lookup k

/-- A table is known up to the order of its rows when the rows of each user are. -/
theorem addresses_perm (h : ∀ k, db'.addressesOf key k = db.addressesOf key k) :
    db'.addresses.Perm db.addresses := by
  refine List.perm_iff_count.mpr fun row => ?_
  have hcount (db : AccountTables κ) :
      (db.addressesOf key (key row.userId)).count row = db.addresses.count row :=
    List.count_filter (decide_eq_true rfl)
  rw [← hcount db', ← hcount db, h]

/-- A change of single columns changes nothing exactly when it leaves every row as it is. -/
theorem unchanged_iff {k : κ} {f : AddressRow → AddressRow}
    (hstep : AddressStep key k (List.map f) none db db') (hdb : UniqueAddressIds db)
    (hid : ∀ row, (f row).addressId = row.addressId) :
    Unchanged db db' ↔ ∀ row ∈ db.addressesOf key k, f row = row := by
  constructor
  · intro h row hrow
    have hmem : f row ∈ db'.addressesOf key k := by
      rw [hstep.addresses]
      exact List.mem_map_of_mem hrow
    have hold : f row ∈ db.addresses := h.addresses.subset (List.mem_of_mem_filter hmem)
    exact List.inj_on_of_nodup_map hdb hold (List.mem_of_mem_filter hrow) (hid row)
  · intro h
    have hown (k' : κ) : db'.addressesOf key k' = db.addressesOf key k' := by
      rcases eq_or_ne k' k with rfl | hk
      · rw [hstep.addresses, List.map_congr_left h, List.map_id']
      · exact (hstep.others k' hk).1
    refine ⟨addresses_perm hown, fun k' => ?_⟩
    rcases eq_or_ne k' k with rfl | hk
    · exact hstep.customer.trans Option.map_id'
    · exact (hstep.others k' hk).2

theorem reset_eq_self_iff {row : AddressRow} : row.reset = row ↔ row.isDefault = 0 := by
  refine ⟨fun h => (congrArg AddressRow.isDefault h).symm, fun h => ?_⟩
  rw [AddressRow.reset, ← h]

theorem select_reset_eq_self_iff {addressId : ℤ} {row : AddressRow} :
    (AddressRow.select addressId ∘ AddressRow.reset) row = row ↔
      row.isDefault = if row.addressId = addressId then 1 else 0 := by
  by_cases hid : row.addressId = addressId
  · have hselect : (AddressRow.select addressId ∘ AddressRow.reset) row =
        { row with isDefault := 1 } := if_pos hid
    rw [hselect, if_pos hid]
    refine ⟨fun h => (congrArg AddressRow.isDefault h).symm, fun h => ?_⟩
    rw [← h]
  · have hselect : (AddressRow.select addressId ∘ AddressRow.reset) row = row.reset := if_neg hid
    rw [hselect, if_neg hid, reset_eq_self_iff]

/-! ### What the answer promises -/

/-- The address is the only default of the user, and `CUSTOMERS` has it. -/
def Chosen (key : String → κ) (db : AccountTables κ) (userId : String) (addressId : ℤ) : Prop :=
  ∃ row, row.addressId = addressId ∧ db.defaultAddresses key (key userId) = [row] ∧
    ∀ customer, db.customers.lookup (key userId) = some customer →
      customer.address = some row.address

/-- A call that takes `db` to `db'` and ends so has done everything or nothing. -/
def Atomic (key : String → κ) (db : AccountTables κ) (userId : String) (addressId : ℤ) :
    Except Exn Bool → AccountTables κ → Prop
  | .ok true, db' => Chosen key db' userId addressId
  | .ok false, db' => Unchanged db db'
  | .error _, _ => False

/-- One of the first `n` calls to the database throws: preparing and executing the reset are the
first two, preparing and executing the choice of the address the next two. -/
def Throws (n : ℕ) (returned : List Bool) : Prop := false ∈ returned.take n

instance (n : ℕ) (returned : List Bool) : Decidable (Throws n returned) :=
  inferInstanceAs (Decidable (false ∈ returned.take n))

/-- The address is one of the user's, and has no NUL if there is a row of `CUSTOMERS` to copy it
to. -/
def Copyable (key : String → κ) (db : AccountTables κ) (userId : String) (addressId : ℤ) : Prop :=
  ∃ row ∈ db.addressesOf key (key userId), row.addressId = addressId ∧
    ((db.customers.lookup (key userId)).isSome → '\x00' ∉ row.address.toList)

/-- The call throws before the reset, or it gets to its end, or the user's rows already were as
the statements that have been executed leave them when it stops. -/
def Harmless (key : String → κ) (db : AccountTables κ) (userId : String) (addressId : ℤ)
    (returned : List Bool) : Prop :=
  Throws 2 returned ∨
  (Copyable key db userId addressId ∧ false ∉ returned) ∨
  ((Throws 4 returned ∨ ∀ row ∈ db.addressesOf key (key userId), row.addressId ≠ addressId) ∧
    ∀ row ∈ db.addressesOf key (key userId), row.isDefault = 0) ∨
  (¬Throws 4 returned ∧ false ∈ returned) ∧ ∀ row ∈ db.addressesOf key (key userId),
    row.isDefault = if row.addressId = addressId then 1 else 0

/-! ### One lemma for each place where the call can stop -/

variable {userId : String} {addressId : ℤ}

/-- The reset is not made. -/
theorem atomic_iff_of_start {returned : List Bool} (h : Throws 2 returned) :
    Atomic key db userId addressId (.ok false) db ↔ Harmless key db userId addressId returned :=
  iff_of_true ⟨.refl _, fun _ => rfl⟩ (.inl h)

section Harmless

variable {returned : List Bool} (hreset : ¬Throws 2 returned)

include hreset

/-- Only the reset is made, or the second statement finds no row. -/
theorem harmless_iff_of_reset
    (hset : Throws 4 returned ∨
      ∀ row ∈ db.addressesOf key (key userId), row.addressId ≠ addressId) :
    Harmless key db userId addressId returned ↔
      ∀ row ∈ db.addressesOf key (key userId), row.isDefault = 0 := by
  constructor
  · rintro (h | ⟨⟨row, hrow, hid, -⟩, hall⟩ | ⟨-, h⟩ | ⟨⟨h4, -⟩, h⟩)
    · exact absurd h hreset
    · rcases hset with h4 | hnone
      · exact absurd (List.mem_of_mem_take h4) hall
      · exact absurd hid (hnone row hrow)
    · exact h
    · have hnone := hset.resolve_left h4
      exact fun row hrow => (h row hrow).trans (if_neg (hnone row hrow))
  · exact fun h => .inr (.inr (.inl ⟨hset, h⟩))

/-- Both statements are made, and then something throws. -/
theorem harmless_iff_of_select (hset : ¬Throws 4 returned) (hthrown : false ∈ returned)
    (hfound : ∃ row ∈ db.addressesOf key (key userId), row.addressId = addressId) :
    Harmless key db userId addressId returned ↔ ∀ row ∈ db.addressesOf key (key userId),
      row.isDefault = if row.addressId = addressId then 1 else 0 := by
  constructor
  · rintro (h | ⟨-, hall⟩ | ⟨h4 | hnone, -⟩ | ⟨-, h⟩)
    · exact absurd h hreset
    · exact absurd hthrown hall
    · exact absurd h4 hset
    · obtain ⟨row, hrow, hid⟩ := hfound
      exact absurd hid (hnone row hrow)
    · exact h
  · exact fun h => .inr (.inr (.inr ⟨⟨hset, hthrown⟩, h⟩))

end Harmless

/-- Nothing throws, and the second statement finds the row. -/
theorem harmless_iff_of_sync {returned : List Bool} (hall : false ∉ returned)
    (hfound : ∃ row ∈ db.addressesOf key (key userId), row.addressId = addressId) :
    Harmless key db userId addressId returned ↔ Copyable key db userId addressId := by
  have hnever (n : ℕ) : ¬Throws n returned := fun h => hall (List.mem_of_mem_take h)
  constructor
  · rintro (h | ⟨h, -⟩ | ⟨h | hnone, -⟩ | ⟨⟨-, h⟩, -⟩)
    · exact absurd h (hnever 2)
    · exact h
    · exact absurd h (hnever 4)
    · obtain ⟨row, hrow, hid⟩ := hfound
      exact absurd hid (hnone row hrow)
    · exact absurd h hall
  · exact fun h => .inr (.inl ⟨h, hall⟩)

theorem addressStep_reset (id : ℤ) {n : ℕ} {ws : List (AccountWrite κ)}
    (hreset : (resetDefaults userId).effect key db id = some (n, ws)) :
    AddressStep key (key userId) (List.map AddressRow.reset) none db
      ((AccountTables.storage key).writes db ws) := by
  cases hreset
  exact addressStep_map (fun _ => rfl) fun _ => rfl

theorem addressStep_setDefault (id : ℤ) {n : ℕ} {ws : List (AccountWrite κ)}
    (hset : (setDefault userId addressId).effect key db id = some (n, ws)) :
    AddressStep key (key userId) (List.map (AddressRow.select addressId)) none db
      ((AccountTables.storage key).writes db ws) := by
  cases hset
  exact addressStep_map (AddressRow.userId_select addressId) (AddressRow.addressId_select addressId)

/-- The reset is published, and then something throws. -/
theorem unchanged_reset_iff (hdb : UniqueAddressIds db)
    (hstep : AddressStep key (key userId) (List.map AddressRow.reset) none db db') :
    Unchanged db db' ↔ ∀ row ∈ db.addressesOf key (key userId), row.isDefault = 0 :=
  (unchanged_iff hstep hdb fun _ => rfl).trans (forall₂_congr fun _ _ => reset_eq_self_iff)

/-- Both statements are published, and then something throws. -/
theorem unchanged_select_iff (hdb : UniqueAddressIds db)
    (hstep : AddressStep key (key userId)
      (List.map (AddressRow.select addressId ∘ AddressRow.reset)) none db db') :
    Unchanged db db' ↔ ∀ row ∈ db.addressesOf key (key userId),
      row.isDefault = if row.addressId = addressId then 1 else 0 := by
  refine (unchanged_iff hstep hdb fun row => ?_).trans
    (forall₂_congr fun row _ => select_reset_eq_self_iff)
  exact AddressRow.addressId_select addressId row.reset

/-- What the second statement has matched. -/
theorem pos_matched_iff (id : ℤ) {n : ℕ} {ws : List (AccountWrite κ)}
    (hstep : AddressStep key (key userId) (List.map AddressRow.reset) none db db')
    (hset : (setDefault userId addressId).effect key db' id = some (n, ws)) :
    0 < n ↔ ∃ row ∈ db.addressesOf key (key userId), row.addressId = addressId := by
  cases hset
  rw [hstep.addresses, List.length_pos_iff_exists_mem]
  constructor
  · rintro ⟨row, hrow⟩
    obtain ⟨hmem, hid⟩ := List.mem_filter.mp hrow
    obtain ⟨old, hold, rfl⟩ := List.mem_map.mp hmem
    exact ⟨old, hold, of_decide_eq_true hid⟩
  · rintro ⟨row, hrow, hid⟩
    exact ⟨row.reset, List.mem_filter.mpr ⟨List.mem_map_of_mem hrow, decide_eq_true hid⟩⟩

/-- Everything is published: the address that is copied is the one that has been chosen, up to a
NUL. -/
theorem chosen_iff_of_sync (id : ℤ) {n : ℕ} {ws : List (AccountWrite κ)} (hdb : UniqueAddressIds db)
    (hstep : AddressStep key (key userId)
      (List.map (AddressRow.select addressId ∘ AddressRow.reset)) none db db')
    (hfound : ∃ row ∈ db.addressesOf key (key userId), row.addressId = addressId)
    (hsync : (setCustomerAddress (cStr (((db'.addresses.find? fun row =>
      row.addressId = addressId).map AddressRow.address).getD "")) userId).effect key db' id =
        some (n, ws)) :
    Chosen key ((AccountTables.storage key).writes db' ws) userId addressId ↔
      Copyable key db userId addressId := by
  obtain ⟨old, hold, hid⟩ := hfound
  have hsynced := addressStep_setCustomerAddress id hsync
  set row := AddressRow.select addressId old.reset with hrow
  have hrowId : row.addressId = addressId :=
    (AddressRow.addressId_select addressId old.reset).trans hid
  have hids : ((db.addressesOf key (key userId)).map AddressRow.addressId).Nodup :=
    hdb.sublist (List.filter_sublist.map _)
  have hmem : row ∈ db'.addressesOf key (key userId) := by
    rw [hstep.addresses]
    exact List.mem_map_of_mem (f := AddressRow.select addressId ∘ AddressRow.reset) hold
  -- the copy reads the same row, since ids are unique
  have hread := (hstep.unique hdb).find?_eq (List.mem_of_mem_filter hmem)
  rw [hrowId] at hread
  rw [hread] at hsynced
  -- so the row is the only default, and its address reaches the customer cut
  have hdefault : ((AccountTables.storage key).writes db' ws).defaultAddresses key (key userId) =
      [row] := by
    rw [AccountTables.defaultAddresses, hsynced.addresses, id_eq, hstep.addresses,
      filter_default_select, ← hid, filter_addressId_eq hids hold, List.map_singleton, hrow, hid]
    rfl
  have haddress : row.address = old.address := AddressRow.address_select ..
  have hcustomers : ((AccountTables.storage key).writes db' ws).customers.lookup (key userId) =
      (db.customers.lookup (key userId)).map fun customer =>
        { customer with address := some (cStr row.address) } := by
    rw [hsynced.customer, hstep.customer, Option.map_map]
    rfl
  constructor
  · rintro ⟨row', -, hdefault', hcopied⟩
    obtain rfl : row = row' := List.singleton_inj.mp (hdefault.symm.trans hdefault')
    refine ⟨old, hold, hid, fun hsome => ?_⟩
    obtain ⟨customer, hcustomer⟩ := Option.isSome_iff_exists.mp hsome
    rw [hcustomer] at hcustomers
    rw [← haddress, ← cStr_eq_self]
    exact Option.some.inj (hcopied _ hcustomers)
  · rintro ⟨old', hold', hid', hnul⟩
    obtain rfl : old' = old := List.inj_on_of_nodup_map hids hold' hold (hid'.trans hid.symm)
    refine ⟨row, hrowId, hdefault, fun customer hcustomer => ?_⟩
    rw [hcustomers] at hcustomer
    obtain ⟨before, hbefore, rfl⟩ := Option.map_eq_some_iff.mp hcustomer
    have hsome : (db.customers.lookup (key userId)).isSome = true := by rw [hbefore]; rfl
    rw [← haddress] at hnul
    exact congrArg some (cStr_eq_self.mpr (hnul hsome))

/-- **`setDefaultAddress` by itself.** -/
theorem wp_setDefaultAddress (hdb : UniqueAddressIds db) :
    (accountSchema key).aloneSpec.traced.interface.wp
      (AddressDAO.setDefaultAddress userId addressId : AccountDao Empty Bool)
      (fun r c => Atomic key db userId addressId r c.1.session.committed ↔
        Harmless key db userId addressId c.2)
      (.fresh db, []) := by
  simp [AddressDAO.setDefaultAddress, DaoSchema.aloneSpec, DaoSpec.traced, DaoState.fresh,
    Session.fresh, Session.execute, Session.rollback, DaoSchema.executed]
  refine ⟨⟨?_, atomic_iff_of_start (by decide)⟩, atomic_iff_of_start (by decide)⟩
  -- the reset has been executed
  rintro n c returned id ws heffect rfl rfl
  have hreset := addressStep_reset id heffect
  have hunset {returned : List Bool} (h2 : ¬Throws 2 returned) (h4 : Throws 4 returned) :
      Unchanged db _ ↔ Harmless key db userId addressId returned :=
    (unchanged_reset_iff hdb hreset).trans (harmless_iff_of_reset h2 (.inl h4)).symm
  refine ⟨⟨?_, hunset (by decide) (by decide)⟩, hunset (by decide) (by decide)⟩
  -- the select has been executed
  rintro n' c' returned' id' ws' heffect' rfl rfl
  have hselect := hreset.trans (addressStep_setDefault id' heffect')
  rw [List.map_comp_map] at hselect
  have hmatched := pos_matched_iff id' hreset heffect'
  refine ⟨fun hpos => ?_, fun hzero => ?_⟩
  · have hfound := hmatched.mp hpos
    -- whatever throws from here on leaves the customer's copy behind
    have hstopped {returned : List Bool} (h2 : ¬Throws 2 returned) (h4 : ¬Throws 4 returned)
        (hthrown : false ∈ returned) :=
      (unchanged_select_iff hdb hselect).trans (harmless_iff_of_select h2 h4 hthrown hfound).symm
    refine ⟨⟨⟨⟨?_, ?_⟩, ?_⟩, ?_⟩, ?_⟩
    · rintro n'' c'' returned'' id'' ws'' heffect'' rfl rfl
      rw [decide_eq_true hpos]
      exact (chosen_iff_of_sync id'' hdb hselect hfound heffect'').trans
        (harmless_iff_of_sync (by decide) hfound).symm
    all_goals exact hstopped (by decide) (by decide) (by decide)
  · -- nothing matched: `false`, but the reset stays published
    have hnone : ∀ row ∈ db.addressesOf key (key userId), row.addressId ≠ addressId :=
      fun row hrow hid => Nat.ne_of_gt (hmatched.mpr ⟨row, hrow, hid⟩) hzero
    have hsame : Unchanged db ((AccountTables.storage key).writes
        ((AccountTables.storage key).writes db ws) ws') ↔
        ∀ row ∈ db.addressesOf key (key userId), row.isDefault = 0 :=
      (unchanged_select_iff hdb hselect).trans (forall₂_congr fun row hrow => by
        rw [if_neg (hnone row hrow)])
    rw [hzero, decide_eq_false (lt_irrefl 0)]
    exact hsame.trans (harmless_iff_of_reset (by decide) (.inr hnone)).symm

/-- **Exactly when `setDefaultAddress` is atomic.** For any tables, any ids and any outcome of its
calls to the database. -/
theorem atomic_iff (hdb : UniqueAddressIds db) {es : List DaoEnv} {r : Except Exn Bool}
    {w : DaoWorld Unit (AccountTables κ) (AccountWrite κ) (AccountRow κ) Empty}
    (hr : (AddressDAO.setDefaultAddress userId addressId : AccountDao Empty Bool).run
      ((accountSchema key).exec ()) es (.init db) = some (r, w)) :
    Atomic key db userId addressId r w.server.tables ↔
      Harmless key db userId addressId (es.map DaoEnv.returns) := by
  obtain ⟨c, hsees, hspec⟩ := (accountSchema key).run_alone_traced (wp_setDefaultAddress hdb) hr
  rwa [hsees.session.committed]

/-- A customer with a default address. -/
def oneAddress : AccountTables String :=
  ⟨∅, .singleton "hong" ⟨some "에버랜드로 143 1층", defaultGrade⟩, ∅, [],
    [⟨1, "hong", "에버랜드로 143", "1층", "", "집", 1⟩]⟩

theorem uniqueAddressIds_oneAddress : UniqueAddressIds oneAddress := List.nodup_singleton _

/-- The address is chosen again, and everything succeeds. -/
def chosenAgain : List DaoEnv := [.ok, .next 0, .ok, .next 0, .ok, .ok, .ok, .next 0]

theorem atomic_iff_chosenAgain :
    ∃ w : DaoWorld Unit (AccountTables String) (AccountWrite String) (AccountRow String) Empty,
      (AddressDAO.setDefaultAddress "hong" 1 : AccountDao Empty Bool).run
        ((accountSchema id).exec ()) chosenAgain (.init oneAddress) = some (.ok true, w) ∧
      (Atomic id oneAddress "hong" 1 (.ok true) w.server.tables ↔
        Harmless id oneAddress "hong" 1 (chosenAgain.map DaoEnv.returns)) :=
  ⟨_, rfl, atomic_iff uniqueAddressIds_oneAddress rfl⟩

/-- An address that the customer does not have: the answer is `false`, and the default is gone. -/
theorem not_atomic_unknown :
    ¬∀ (db : AccountTables String) (userId : String) (addressId : ℤ) (es : List DaoEnv)
      (r : Except Exn Bool)
      (w : DaoWorld Unit (AccountTables String) (AccountWrite String) (AccountRow String) Empty),
      UniqueAddressIds db →
        (AddressDAO.setDefaultAddress userId addressId : AccountDao Empty Bool).run
          ((accountSchema id).exec ()) es (.init db) = some (r, w) →
        Atomic id db userId addressId r w.server.tables := by
  intro h
  have hsame : Unchanged oneAddress _ :=
    h oneAddress "hong" 7 [.ok, .next 0, .ok, .next 0] (.ok false) _
      uniqueAddressIds_oneAddress rfl
  have hmem : (⟨1, "hong", "에버랜드로 143", "1층", "", "집", 1⟩ : AddressRow) ∈ _ :=
    hsame.addresses.symm.subset (.head _)
  revert hmem
  decide

end DefaultChange

end ItsBedalyo
