import ItsBedalyo.Handler.MenuHandler
import ItsBedalyo.Lib.JsonMeaning
import ItsBedalyo.Lib.Keys
import ItsBedalyo.Lib.Transition

/-!
# The options of a menu, as three readers see them

`Dto.OptionItem` and `Dto.OptionGroup` are given their meaning: which JSON values say such a
record, and which of these are converted to what they say. An item has to have all of its fields,
a group only those without a default.

After an edit that was answered with 200, the list of menus and the details of the store show the
value of the request, and `handleMenuOption` shows what it is converted to, or nothing. All of
them succeed and agree exactly when the store exists and the value is `Readable`
(`readsSame_iff`); what else happens to the database afterwards makes no difference.
-/

namespace ItsBedalyo

open Transition

variable {D : Type} [Double D]

namespace Dto

variable [BEq D]

namespace OptionItem

/-- An option says its number, name, price and place. -/
def Says (j : Json D) (item : OptionItem) : Prop :=
  j.Member "optionId" (Means · item.optionId) ∧
    j.Member "optionName" (Means · item.optionName) ∧
    j.Member "additionalPrice" (Means · item.additionalPrice) ∧
    j.Member "displayOrder" (Means · item.displayOrder)

/-- All four fields are there, with values of their types. -/
def IsOption (j : Json D) : Prop :=
  j.Member "optionId" (Readable Int32) ∧
    j.Member "optionName" (Readable String) ∧
    j.Member "additionalPrice" (Readable Int32) ∧
    j.Member "displayOrder" (Readable Int32)

theorem isOption_iff (j : Json D) :
    IsOption j ↔ ∃ item, decode j = .ok item ∧ Says j item := by
  simp only [IsOption, Json.readable_member]
  constructor
  · rintro ⟨⟨optionId, hid, hid'⟩, ⟨optionName, hname, hname'⟩, ⟨additionalPrice, hprice, hprice'⟩,
      displayOrder, horder, horder'⟩
    refine ⟨⟨optionId, optionName, additionalPrice, displayOrder⟩, ?_, hid', hname', hprice',
      horder'⟩
    show fromJson j = _
    simp only [fromJson, hid, hname, hprice, horder, JsonError.ok_bind, JsonError.pure_eq_ok]
  · rintro ⟨item, hdecode, hid', hname', hprice', horder'⟩
    have hfrom : fromJson j = .ok item := hdecode
    simp only [fromJson, Json.bind_eq_ok] at hfrom
    obtain ⟨optionId, hid, optionName, hname, additionalPrice, hprice, displayOrder, horder,
      hitem⟩ :=
      hfrom
    cases hitem
    exact ⟨⟨_, hid, hid'⟩, ⟨_, hname, hname'⟩, ⟨_, hprice, hprice'⟩, _, horder, horder'⟩

instance : JsonMeaning D OptionItem := ⟨Says, IsOption, isOption_iff⟩

end OptionItem

namespace OptionGroup

/-- A group says its number, name and options, and what else it has. -/
def Says (j : Json D) (group : OptionGroup) : Prop :=
  j.Member "groupId" (Means · group.groupId) ∧
    j.Member "groupName" (Means · group.groupName) ∧
    j.OptMember "isRequired" (Means · group.isRequired) ∧
    j.OptMember "maxCount" (Means · group.maxCount) ∧
    j.OptMember "displayOrder" (Means · group.displayOrder) ∧
    j.Member "options" (Means · group.options)

/-- The number, the name and the options are there, and all fields have values of their types. -/
def IsGroup (j : Json D) : Prop :=
  j.Member "groupId" (Readable Int32) ∧
    j.Member "groupName" (Readable String) ∧
    j.OptMember "isRequired" (Readable Bool) ∧
    j.OptMember "maxCount" (Readable Int32) ∧
    j.OptMember "displayOrder" (Readable Int32) ∧
    j.Member "options" (Readable (List OptionItem))

theorem isGroup_iff (j : Json D) :
    IsGroup j ↔ ∃ group, decode j = .ok group ∧ Says j group := by
  constructor
  · rintro ⟨hid, hname, hrequired, hcount, horder, hoptions⟩
    obtain ⟨isRequired, hrequired, hrequired'⟩ := (hid.readable_optMember false).mp hrequired
    obtain ⟨maxCount, hcount, hcount'⟩ := (hid.readable_optMember 1).mp hcount
    obtain ⟨displayOrder, horder, horder'⟩ := (hid.readable_optMember 99).mp horder
    obtain ⟨groupId, hid, hid'⟩ := Json.readable_member.mp hid
    obtain ⟨groupName, hname, hname'⟩ := Json.readable_member.mp hname
    obtain ⟨options, hoptions, hoptions'⟩ := Json.readable_member.mp hoptions
    refine ⟨⟨groupId, groupName, isRequired, maxCount, displayOrder, options⟩, ?_,
      hid', hname', hrequired', hcount', horder', hoptions'⟩
    show fromJson j = _
    simp only [fromJson, hid, hname, hrequired, hcount, horder, hoptions, JsonError.ok_bind,
      JsonError.pure_eq_ok]
  · rintro ⟨group, hdecode, hid', hname', hrequired', hcount', horder', hoptions'⟩
    have hfrom : fromJson j = .ok group := hdecode
    simp only [fromJson, Json.bind_eq_ok] at hfrom
    obtain ⟨groupId, hid, groupName, hname, isRequired, hrequired, maxCount, hcount, displayOrder,
      horder, options, hoptions, hgroup⟩ := hfrom
    cases hgroup
    exact ⟨Json.readable_member.mpr ⟨_, hid, hid'⟩, Json.readable_member.mpr ⟨_, hname, hname'⟩,
      (hid'.readable_optMember false).mpr ⟨_, hrequired, hrequired'⟩,
      (hid'.readable_optMember 1).mpr ⟨_, hcount, hcount'⟩,
      (hid'.readable_optMember 99).mpr ⟨_, horder, horder'⟩,
      Json.readable_member.mpr ⟨_, hoptions, hoptions'⟩⟩

instance : JsonMeaning D OptionGroup := ⟨Says, IsGroup, isGroup_iff⟩

end OptionGroup

end Dto

/-! ### What an edit leaves in the table -/

/-- The options of a menu of a store are this text. -/
def MenuTable.HasOptions (t : MenuTable) (storeId menuId : Int32) (s : String) : Prop :=
  ∃ row ∈ t.rows, row.menuId = menuId ∧ row.storeId = storeId ∧ row.menuOptions = some s

namespace MenuTable

variable {t t' : MenuTable} {storeId menuId : Int32} {s : String}

theorem HasOptions.insert {row : MenuRow} (h : t.HasOptions storeId menuId s)
    (ht : t.insert row = some t') : t'.HasOptions storeId menuId s := by
  obtain ⟨row', hrow', hids⟩ := h
  unfold MenuTable.insert at ht
  split at ht
  · cases ht
  · cases ht
    exact ⟨row', List.mem_cons_of_mem row hrow', hids⟩

/-- An update that leaves the options of the menu alone. -/
theorem HasOptions.update {cond : MenuRow → Bool} {set : MenuRow → MenuRow}
    (h : t.HasOptions storeId menuId s) (hkey : ∀ row, (set row).menuId = row.menuId)
    (hset : ∀ row, row.menuId = menuId → cond row →
      (set row).storeId = row.storeId ∧ (set row).menuOptions = row.menuOptions) :
    (t.update cond set hkey).HasOptions storeId menuId s := by
  obtain ⟨row, hrow, hmenu, hstore, hs⟩ := h
  refine ⟨_, List.mem_map_of_mem hrow, ?_⟩
  by_cases hcond : cond row = true
  · obtain ⟨hstore', hs'⟩ := hset row hmenu hcond
    rw [if_pos hcond]
    exact ⟨(hkey row).trans hmenu, hstore'.trans hstore, hs'.trans hs⟩
  · rw [if_neg hcond]
    exact ⟨hmenu, hstore, hs⟩

theorem HasOptions.delete {cond : MenuRow → Bool} (h : t.HasOptions storeId menuId s)
    (hcond : ∀ row, row.menuId = menuId → cond row = false) :
    (t.delete cond).HasOptions storeId menuId s := by
  obtain ⟨row, hrow, hids⟩ := h
  have hkept : (!cond row) = true := by rw [hcond row hids.1]; rfl
  exact ⟨row, List.mem_filter.mpr ⟨hrow, hkept⟩, hids⟩

end MenuTable

namespace MenuEdit

variable {text : JsonText D} {req : Json D} {edit : MenuEdit} {newId storeId menuId : Int32}
  {t t' : MenuTable}

/-- The menu that an edit names. -/
def target : MenuEdit → Option Int32
  | modify _ menuId _ _ => some menuId
  | delete _ menuId => some menuId
  | _ => none

/-- The edit writes the options of a menu: of its new one, or of one that the store has. -/
def Writes (newId storeId menuId : Int32) (t : MenuTable) : MenuEdit → Prop
  | add storeId' _ => storeId' = storeId ∧ newId = menuId
  | modify storeId' menuId' _ _ => storeId' = storeId ∧ menuId' = menuId ∧
      ∃ row ∈ t.rows, row.menuId = menuId ∧ row.storeId = storeId
  | _ => False

/-- The value of `optionGroups`; a request without it has no options. -/
def optionGroups (req : Json D) : Json D :=
  ((menuData req).find "optionGroups").getD (.array [])

omit [Double D] in
/-- What is stored parses to the value of the request. -/
theorem parse_menuOptionsStr
    (hround : text.parse (text.dump (optionGroups req)) = some (optionGroups req)) :
    text.parse (menuOptionsStr text (menuData req)) = some (optionGroups req) := by
  unfold menuOptionsStr
  unfold optionGroups at hround ⊢
  cases hfind : (menuData req).find "optionGroups" with
  | some groups =>
    rw [hfind] at hround
    exact hround
  | none => exact text.parse_brackets

omit [Double D] in
theorem nul_not_mem_menuOptionsStr (text : JsonText D) (menuData : Json D) :
    '\x00' ∉ (menuOptionsStr text menuData).toList := by
  unfold menuOptionsStr
  cases menuData.find "optionGroups" with
  | some groups => exact text.nul_not_mem_dump groups
  | none =>
    show '\x00' ∉ "[]".toList
    decide

theorem menuOptions_of_readData {j : Json D} {data : MenuData}
    (h : readData text j = .ok data) : data.menuOptions = menuOptionsStr text j := by
  simp only [readData, Json.bind_eq_ok] at h
  obtain ⟨_, -, _, -, _, -, _, -, _, -, hdata⟩ := h
  cases hdata
  rfl

/-- An edit that writes options stores the text made of the request. -/
theorem hasOptions_of_execute (hread : read text req = .ok edit)
    (hwrites : edit.Writes newId storeId menuId t) (ht : edit.execute newId t = some t') :
    t'.HasOptions storeId menuId (menuOptionsStr text (menuData req)) := by
  simp only [read, Json.bind_eq_ok] at hread
  obtain ⟨storeId', -, actionType, -, hread⟩ := hread
  split at hread
  · obtain ⟨data, hdata, hedit⟩ := Json.bind_eq_ok.mp hread
    cases hedit
    obtain ⟨rfl, rfl⟩ := hwrites
    simp only [execute, MenuTable.insert] at ht
    split at ht
    · cases ht
    · cases ht
      exact ⟨_, List.mem_cons_self, rfl, rfl, congrArg some (menuOptions_of_readData hdata)⟩
  · split at hread
    · simp only [Json.bind_eq_ok] at hread
      obtain ⟨_, -, data, hdata, _, -, hedit⟩ := hread
      cases hedit
      obtain ⟨rfl, rfl, row, hrow, hmenu, hstore⟩ := hwrites
      cases ht
      refine ⟨_, List.mem_map_of_mem hrow, ?_⟩
      rw [if_pos (by simp [hmenu, hstore])]
      exact ⟨hmenu, hstore, congrArg some (menuOptions_of_readData hdata)⟩
    · split at hread
      · obtain ⟨_, -, hedit⟩ := Json.bind_eq_ok.mp hread
        cases hedit
        exact hwrites.elim
      · cases hread
        exact hwrites.elim

/-- An edit of another menu. -/
theorem hasOptions_execute {s : String} (h : t.HasOptions storeId menuId s)
    (hother : edit.target ≠ some menuId) (ht : edit.execute newId t = some t') :
    t'.HasOptions storeId menuId s := by
  cases edit with
  | add storeId' data => exact h.insert ht
  | modify storeId' menuId' data isSoldOut =>
    cases ht
    refine h.update _ fun row hmenu hcond => ?_
    obtain ⟨hmenu', -⟩ := of_decide_eq_true hcond
    exact absurd (congrArg some (hmenu'.symm.trans hmenu)) hother
  | delete storeId' menuId' =>
    cases ht
    refine h.delete fun row hmenu => decide_eq_false ?_
    rintro ⟨hmenu', -⟩
    exact hother (congrArg some (hmenu'.symm.trans hmenu))
  | invalid =>
    cases ht
    exact h

end MenuEdit

/-! ### What happens later -/

/-- Something happens to the tables. -/
inductive MenuAct (D : Type)
  | edit (refused : Bool) (newId : Int32) (jsonBody : String)
  | soldOut (refused : Bool) (jsonBody : String)
  | stores (rows : List (StoreDetailRow D))
  | reviews (rows : List ReviewRow)

namespace MenuAct

variable {text : JsonText D} {db db' : MenuDb D} {storeId menuId : Int32} {s : String}

def step (text : JsonText D) (db : MenuDb D) : MenuAct D → Option (MenuDb D)
  | edit refused newId jsonBody =>
    some { db with menus := (MenuHandler.handleMenuEdit text refused newId jsonBody db.menus).2 }
  | soldOut refused jsonBody =>
    some { db with menus := (MenuHandler.handleMenuSoldOut text refused jsonBody db.menus).2 }
  | stores rows => some { db with stores := rows }
  | reviews rows => some { db with reviews := rows }

/-- A request to edit or delete this menu. -/
def Edits (text : JsonText D) (menuId : Int32) : MenuAct D → Prop
  | edit _ _ jsonBody => ∃ req e, text.parse jsonBody = some req ∧
      MenuEdit.read text req = .ok e ∧ e.target = some menuId
  | _ => False

theorem hasOptions_step {a : MenuAct D} (h : db.menus.HasOptions storeId menuId s)
    (hquiet : ¬a.Edits text menuId) (hs : step text db a = some db') :
    db'.menus.HasOptions storeId menuId s := by
  cases a with
  | edit refused newId jsonBody =>
    cases hs
    show (MenuHandler.handleMenuEdit text refused newId jsonBody db.menus).2.HasOptions _ _ _
    unfold MenuHandler.handleMenuEdit
    split
    · exact h
    · rename_i req hparse
      split
      · exact h
      · exact h
      · rename_i edit _ hread
        split
        · exact h
        · split
          · rename_i t' ht
            exact MenuEdit.hasOptions_execute h
              (fun htarget => hquiet ⟨req, edit, hparse, hread, htarget⟩) ht
          · exact h
  | soldOut refused jsonBody =>
    cases hs
    show (MenuHandler.handleMenuSoldOut text refused jsonBody db.menus).2.HasOptions _ _ _
    unfold MenuHandler.handleMenuSoldOut
    split
    · exact h
    · dsimp only
      split
      · exact h
      · split
        · exact h
        · apply MenuTable.HasOptions.update h
          · exact fun _ => rfl
          · exact fun _ _ _ => ⟨rfl, rfl⟩
  | stores rows =>
    cases hs
    exact h
  | reviews rows =>
    cases hs
    exact h

/-- As long as nobody edits the menu its options stay. -/
theorem hasOptions_run {l : List (MenuAct D)} (h : db.menus.HasOptions storeId menuId s)
    (hquiet : Along (step text) (fun _ a => ¬a.Edits text menuId) db l)
    (hr : run (step text) db l = some db') : db'.menus.HasOptions storeId menuId s :=
  (always_of_along (I := fun db => db.menus.HasOptions storeId menuId s)
    (fun _ _ _ h hquiet hs => hasOptions_step h hquiet hs) h hquiet).last hr

end MenuAct

/-! ### Three readers -/

namespace MenuOptions

open Dto

variable {text : JsonText D} {db : MenuDb D} {storeId menuId : Int32} {listBody optionBody : String}

/-- Requests for the menus of the store, and for the options of the menu. -/
structure Asks (text : JsonText D) (storeId menuId : Int32) (listBody optionBody : String) :
    Prop where
  list : ∃ req, text.parse listBody = some req ∧ req.value "storeId" 0 = .ok storeId
  option : ∃ req, text.parse optionBody = some req ∧
    ReqMenuOptionDTO.fromJson req = .ok ⟨menuId⟩

/-- The three readers succeed; each has the menu once, with the same options. -/
def ReadsSame [BEq D] (text : JsonText D) (db : MenuDb D) (listBody optionBody : String)
    (storeId menuId : Int32) : Prop :=
  let detail := StoreDAO.getStoreDetail text storeId db
  let option := MenuHandler.handleMenuOption text optionBody db
  ∃ list, MenuHandler.handleMenuListRequest text listBody db = some list ∧
    list.status = 200 ∧ detail.status = 200 ∧ option.status = 200 ∧ option.menuId = menuId ∧
    ∃ listed detailed, (list.menus.filter fun menu => menu.menuId = menuId) = [listed] ∧
      (detail.menuList.filter fun menu => menu.menuId = menuId) = [detailed] ∧
      Means listed.optionGroups option.optionGroups ∧
      Means detailed.optionGroups option.optionGroups

/-- The store of the menu is there. -/
def HasStore (db : MenuDb D) (storeId : Int32) : Prop := ∃ row ∈ db.stores, row.storeId = storeId

theorem exists_list (db : MenuDb D) (hasks : Asks text storeId menuId listBody optionBody) :
    ∃ list, MenuHandler.handleMenuListRequest text listBody db = some list ∧ list.status = 200 ∧
      list.menus =
        (db.menus.rows.filter (·.storeId = storeId)).map (MenuHandler.menuEntry text) := by
  obtain ⟨req, hparse, hstore⟩ := hasks.list
  simp only [MenuHandler.handleMenuListRequest, hparse, Option.map_some, hstore]
  exact ⟨_, rfl, rfl, rfl⟩

theorem handleMenuOption_eq (hasks : Asks text storeId menuId listBody optionBody) :
    MenuHandler.handleMenuOption text optionBody db =
      ⟨200, menuId, MenuDAO.getMenuOptionsParsed text menuId db.menus⟩ := by
  obtain ⟨req, hparse, hmenu⟩ := hasks.option
  simp only [MenuHandler.handleMenuOption, hparse, Option.map_some, hmenu]

theorem detail_status : (StoreDAO.getStoreDetail text storeId db).status = 200 ↔
    HasStore db storeId := by
  unfold StoreDAO.getStoreDetail
  cases hfind : db.stores.find? (·.storeId = storeId) with
  | none =>
    refine iff_of_false (by decide : ¬(404 : Int32) = 200) ?_
    rintro ⟨row, hrow, hid⟩
    exact List.find?_eq_none.mp hfind row hrow (decide_eq_true hid)
  | some row =>
    have hid : row.storeId = storeId := by simpa using List.find?_some hfind
    exact iff_of_true rfl ⟨row, List.mem_of_find?_eq_some hfind, hid⟩

theorem detail_menuList (h : HasStore db storeId) :
    (StoreDAO.getStoreDetail text storeId db).menuList =
      (db.menus.rows.filter (·.storeId = storeId)).map (StoreDAO.menuData text storeId) := by
  obtain ⟨row, hrow, hid⟩ := h
  unfold StoreDAO.getStoreDetail
  cases hfind : db.stores.find? (·.storeId = storeId) with
  | none => exact absurd (decide_eq_true hid) (List.find?_eq_none.mp hfind row hrow)
  | some row => rfl

/-- The rows of a store have its menu once. -/
theorem filter_rows {t : MenuTable} {row : MenuRow} (hrow : row ∈ t.rows) :
    (t.rows.filter (·.storeId = row.storeId)).filter (·.menuId = row.menuId) = [row] := by
  have hnodup : ((t.rows.filter (·.storeId = row.storeId)).map (·.menuId)).Nodup :=
    t.nodup.sublist (List.filter_sublist.map _)
  exact List.filter_key_eq hnodup (List.mem_filter.mpr ⟨hrow, decide_eq_true rfl⟩)

variable [BEq D]

/-- What is converted from a value is what it says exactly when it can be read. -/
theorem means_parsed {row : MenuRow} {groups : Json D} (hrow : row ∈ db.menus.rows)
    (hparse : text.parse ((row.menuOptions.map cStr).getD "[]") = some groups) :
    Means groups (MenuDAO.getMenuOptionsParsed text row.menuId db.menus) ↔
      Readable (List OptionGroup) groups := by
  refine Iff.trans ?_ (readable_iff groups).symm
  rw [MenuDAO.getMenuOptionsParsed, List.find?_key_eq db.menus.nodup hrow]
  simp only [hparse]
  cases hdecode : (decode groups : Except JsonError (List OptionGroup)) with
  | ok l => exact ⟨fun h => ⟨l, rfl, h⟩, fun ⟨_, hl, h⟩ => by cases hl; exact h⟩
  | error e =>
    refine iff_of_false (fun hmeans => ?_) fun ⟨_, hl, _⟩ => (nomatch hl)
    -- nothing is shown, so the value is the empty array, which can be read
    cases groups with
    | array elems =>
      cases elems with
      | nil => cases hdecode
      | cons v vs => cases hmeans
    | _ => exact hmeans

/-- **Three readers.** Where the options of a menu parse to a value, the readers agree exactly when
the store is there and the value can be read. -/
theorem readsSame_of_hasOptions {s : String} {groups : Json D}
    (hoptions : db.menus.HasOptions storeId menuId s) (hnul : '\x00' ∉ s.toList)
    (hparse : text.parse s = some groups)
    (hasks : Asks text storeId menuId listBody optionBody) :
    ReadsSame text db listBody optionBody storeId menuId ↔
      HasStore db storeId ∧ Readable (List OptionGroup) groups := by
  obtain ⟨row, hrow, rfl, rfl, hs⟩ := hoptions
  have hparse' : text.parse ((row.menuOptions.map cStr).getD "[]") = some groups := by
    rw [hs, Option.map_some, cStr_eq_self.mpr hnul]
    exact hparse
  have hshown : MenuHandler.parsedOptions text row = groups := by
    rw [MenuHandler.parsedOptions, hparse']
    rfl
  obtain ⟨list, hlist, hstatus, hmenus⟩ := exists_list db hasks
  have hlisted : (list.menus.filter fun menu => menu.menuId = row.menuId) =
      [MenuHandler.menuEntry text row] := by
    rw [hmenus, List.filter_map]
    exact congrArg (List.map _) (filter_rows hrow)
  simp only [ReadsSame, hlist, Option.some.injEq, exists_eq_left', handleMenuOption_eq hasks,
    detail_status, hstatus, hlisted, true_and]
  constructor
  · rintro ⟨hstore, listed, detailed, hlisted', -, hmeans, -⟩
    cases hlisted'
    rw [← means_parsed hrow hparse', ← hshown]
    exact ⟨hstore, hmeans⟩
  · rintro ⟨hstore, hread⟩
    have hdetailed : ((StoreDAO.getStoreDetail text row.storeId db).menuList.filter
        fun menu => menu.menuId = row.menuId) = [StoreDAO.menuData text row.storeId row] := by
      rw [detail_menuList hstore, List.filter_map]
      exact congrArg (List.map _) (filter_rows hrow)
    have hmeans : Means (MenuHandler.parsedOptions text row)
        (MenuDAO.getMenuOptionsParsed text row.menuId db.menus) := by
      rw [hshown, means_parsed hrow hparse']
      exact hread
    exact ⟨hstore, _, _, rfl, hdetailed, hmeans, hmeans⟩

omit [BEq D] in
theorem execute_of_reply {jsonBody : String} {refused : Bool} {newId : Int32} {t t' : MenuTable}
    {req : Json D} {edit : MenuEdit} (hparse : text.parse jsonBody = some req)
    (hread : MenuEdit.read text req = .ok edit)
    (hreply : MenuHandler.handleMenuEdit text refused newId jsonBody t = (some 200, t')) :
    edit.execute newId t = some t' := by
  have hne : ∀ status : Int32, status ≠ 200 → (some status, t) ≠ (some 200, t') := by
    intro status hstatus h
    exact hstatus (Option.some.inj (congrArg Prod.fst h))
  simp only [MenuHandler.handleMenuEdit, hparse, hread] at hreply
  split at hreply
  · rename_i herror
    cases herror
  · exact absurd hreply (hne 400 (by decide))
  · rename_i hedit
    cases hedit
    split at hreply
    · exact absurd hreply (hne 500 (by decide))
    · split at hreply
      · rename_i ht
        cases hreply
        exact ht
      · exact absurd hreply (hne 500 (by decide))

/-- **Options after an edit.** An edit writes the options of a menu and is answered with 200;
whatever happens then, as long as the menu is not edited again the three readers agree on it
exactly when its store is there and the value that the request had for the options can be
read. -/
theorem readsSame_iff {db' : MenuDb D} {jsonBody : String} {refused : Bool} {newId : Int32}
    {t : MenuTable} {req : Json D} {edit : MenuEdit} {l : List (MenuAct D)}
    (hparse : text.parse jsonBody = some req) (hread : MenuEdit.read text req = .ok edit)
    (hwrites : edit.Writes newId storeId menuId db.menus)
    (hreply : MenuHandler.handleMenuEdit text refused newId jsonBody db.menus = (some 200, t))
    (hround : text.parse (text.dump (MenuEdit.optionGroups req)) =
      some (MenuEdit.optionGroups req))
    (hlater : run (MenuAct.step text) { db with menus := t } l = some db')
    (hquiet : Along (MenuAct.step text) (fun _ a => ¬a.Edits text menuId)
      { db with menus := t } l)
    (hasks : Asks text storeId menuId listBody optionBody) :
    ReadsSame text db' listBody optionBody storeId menuId ↔
      HasStore db' storeId ∧ Readable (List OptionGroup) (MenuEdit.optionGroups req) := by
  have hexecute := execute_of_reply hparse hread hreply
  have hoptions := MenuEdit.hasOptions_of_execute hread hwrites hexecute
  exact readsSame_of_hasOptions (MenuAct.hasOptions_run hoptions hquiet hlater)
    (MenuEdit.nul_not_mem_menuOptionsStr text _) (MenuEdit.parse_menuOptionsStr hround) hasks

/-! ### A new menu with one option -/

/-- A group with one option, which has these members beside its number, name and price. -/
def sampleGroups (more : List (String × Json Float)) : Json Float :=
  .array [.object
    [("groupId", .numberUnsigned 1),
     ("groupName", .string "spice"),
     ("options", .array [.object (("additionalPrice", .numberUnsigned 500) :: more ++
       [("optionId", .numberUnsigned 1), ("optionName", .string "hot")])])]]

def placedText : String :=
  "[\x7b\"groupId\":1,\"groupName\":\"spice\",\"options\":[\x7b\"additionalPrice\":500," ++
    "\"displayOrder\":0,\"optionId\":1,\"optionName\":\"hot\"\x7d]\x7d]"

/-- The option does not say where it stands. -/
def unplacedText : String :=
  "[\x7b\"groupId\":1,\"groupName\":\"spice\",\"options\":[\x7b\"additionalPrice\":500," ++
    "\"optionId\":1,\"optionName\":\"hot\"\x7d]\x7d]"

/-- The request to add a menu with these options to a store. -/
def sampleEdit (groupsText : String) : String :=
  "\x7b\"storeId\":1,\"actionType\":0,\"menuData\":\x7b\"menuName\":\"ramen\"," ++
    "\"optionGroups\":" ++ groupsText ++ "\x7d\x7d"

def sampleReq (groups : Json Float) : Json Float :=
  .object
    [("storeId", .numberUnsigned 1),
     ("actionType", .numberUnsigned 0),
     ("menuData", .object [("menuName", .string "ramen"), ("optionGroups", groups)])]

def sampleListBody : String := "\x7b\"storeId\":1\x7d"

def sampleOptionBody : String := "\x7b\"menuId\":7\x7d"

/-- The texts of the sample. -/
def sampleText (groupsText : String) (groups : Json Float)
    (hnul : '\x00' ∉ groupsText.toList := by decide +kernel) : JsonText Float where
  parse s :=
    if s = "[]" then some (.array [])
    else if s = sampleListBody then some (.object [("storeId", .numberUnsigned 1)])
    else if s = sampleOptionBody then some (.object [("menuId", .numberUnsigned 7)])
    else if s = groupsText then some groups
    else if s = sampleEdit groupsText then some (sampleReq groups)
    else none
  dump _ := groupsText
  parse_brackets := rfl
  nul_not_mem_dump _ := hnul

/-- A store without menus. -/
def sampleDb : MenuDb Float where
  menus := ⟨[], List.nodup_nil⟩
  stores := [⟨1, "noodles", none, none, none, "09:00", "21:00", 3000, 10000, none, 0, none, none,
    none, none, none, none⟩]
  reviews := []

def sampleData (groupsText : String) : MenuData := ⟨"ramen", 0, "기본 메뉴", false, "", groupsText⟩

/-- The store with its new menu. -/
def sampleAfter (groupsText : String) : MenuDb Float :=
  { sampleDb with
    menus := ⟨[MenuEdit.newRow 1 7 (sampleData groupsText)], List.nodup_singleton _⟩ }

section Sample

variable {groupsText : String} {groups : Json Float} {hnul : '\x00' ∉ groupsText.toList}

theorem sample_parse_edit (h : sampleEdit groupsText ∉
    ["[]", sampleListBody, sampleOptionBody, groupsText]) :
    (sampleText groupsText groups hnul).parse (sampleEdit groupsText) =
      some (sampleReq groups) := by
  simp only [List.mem_cons, List.not_mem_nil, or_false, not_or] at h
  simp only [sampleText, if_neg h.1, if_neg h.2.1, if_neg h.2.2.1, if_neg h.2.2.2, if_true]

theorem sample_parse_groups (h : groupsText ∉ ["[]", sampleListBody, sampleOptionBody]) :
    (sampleText groupsText groups hnul).parse groupsText = some groups := by
  simp only [List.mem_cons, List.not_mem_nil, or_false, not_or] at h
  simp only [sampleText, if_neg h.1, if_neg h.2.1, if_neg h.2.2, if_true]

theorem sample_read : MenuEdit.read (sampleText groupsText groups hnul) (sampleReq groups) =
    .ok (.add 1 (sampleData groupsText)) := rfl

theorem sample_asks :
    Asks (sampleText groupsText groups hnul) 1 7 sampleListBody sampleOptionBody :=
  ⟨⟨_, rfl, rfl⟩, ⟨_, rfl, rfl⟩⟩

/-- The edit is answered with 200. -/
theorem sample_reply (h : sampleEdit groupsText ∉
    ["[]", sampleListBody, sampleOptionBody, groupsText]) :
    MenuHandler.handleMenuEdit (sampleText groupsText groups hnul) false 7 (sampleEdit groupsText)
      sampleDb.menus = (some 200, (sampleAfter groupsText).menus) := by
  simp only [MenuHandler.handleMenuEdit, sample_parse_edit h, sample_read]
  rfl

end Sample

/-- The option with a place is the same for all readers. -/
theorem readsSame_placed :
    ReadsSame (sampleText placedText (sampleGroups [("displayOrder", .numberUnsigned 0)]))
      (sampleAfter placedText) sampleListBody sampleOptionBody 1 7 := by
  refine (readsSame_iff (l := []) (sample_parse_edit (by decide)) sample_read ⟨rfl, rfl⟩
    (sample_reply (by decide)) (sample_parse_groups (by decide)) rfl trivial sample_asks).mpr ?_
  refine ⟨⟨_, List.mem_singleton.mpr rfl, rfl⟩, List.forall_mem_singleton.mpr ?_⟩
  have h₀ : Readable Int32 (.numberUnsigned 0 : Json Float) := by
    show (0 : UInt64).toNat < 2 ^ 31
    decide
  have h₁ : Readable Int32 (.numberUnsigned 1 : Json Float) := by
    show (1 : UInt64).toNat < 2 ^ 31
    decide
  have h₅₀₀ : Readable Int32 (.numberUnsigned 500 : Json Float) := by
    show (500 : UInt64).toNat < 2 ^ 31
    decide
  have hoption : OptionItem.IsOption (.object [("additionalPrice", .numberUnsigned 500),
      ("displayOrder", .numberUnsigned 0), ("optionId", .numberUnsigned 1),
      ("optionName", .string "hot")] : Json Float) :=
    ⟨⟨_, rfl, h₁⟩, ⟨_, rfl, trivial⟩, ⟨_, rfl, h₅₀₀⟩, ⟨_, rfl, h₀⟩⟩
  show OptionGroup.IsGroup _
  exact ⟨⟨_, rfl, h₁⟩, ⟨_, rfl, trivial⟩, fun _ hv => (nomatch hv), fun _ hv => (nomatch hv),
    fun _ hv => (nomatch hv), _, rfl, List.forall_mem_singleton.mpr hoption⟩

/-- The option without a place is shown by two of the readers only. -/
theorem not_readsSame_unplaced :
    MenuHandler.handleMenuEdit (sampleText unplacedText (sampleGroups [])) false 7
        (sampleEdit unplacedText) sampleDb.menus = (some 200, (sampleAfter unplacedText).menus) ∧
      ¬ReadsSame (sampleText unplacedText (sampleGroups [])) (sampleAfter unplacedText)
        sampleListBody sampleOptionBody 1 7 := by
  refine ⟨sample_reply (by decide), fun h => ?_⟩
  have hoptions : (sampleAfter unplacedText).menus.HasOptions 1 7 unplacedText :=
    ⟨_, List.mem_singleton.mpr rfl, rfl, rfl, rfl⟩
  have hread := ((readsSame_of_hasOptions hoptions (by decide +kernel)
    (sample_parse_groups (by decide)) sample_asks).mp h).2
  obtain ⟨-, -, -, -, -, options, hfind, hread⟩ := hread _ (List.mem_singleton.mpr rfl)
  cases hfind
  obtain ⟨-, -, -, place, hplace, -⟩ := hread _ (List.mem_singleton.mpr rfl)
  cases hplace

end MenuOptions

end ItsBedalyo
