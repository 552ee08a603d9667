import ItsBedalyo.Handler.PageFaults
import ItsBedalyo.Handler.PageReplies

/-!
# Does a page show a failure as a result?

The DAO functions behind eleven read paths catch what their calls throw and return what they have
read so far, an empty list or `false`. Nine of the handlers then answer as if everything had been
read, whatever it is; the search for stores answers `404` where the list is empty, and the details
of a store carry the status of the object that is being filled.

A reply that reports success is `Truthful` if no call has thrown and it is what is sent when none
throws. Which replies are, depends on the call that has thrown (`path_truthful_iff`).
-/

namespace ItsBedalyo

open Interface hiding wp_op
open Faults

variable {D α : Type}

/-- `rs->next()`. -/
def DbOp.isNext : DbOp D → Bool
  | .next => true
  | _ => false

/-- How often `rs->next()` has been called. -/
def fetches (tr : Trace (DbOp D)) : ℕ := tr.countP fun entry => entry.1.isNext

@[simp] theorem fetches_append (tr tr' : Trace (DbOp D)) :
    fetches (tr ++ tr') = fetches tr + fetches tr' := List.countP_append

namespace Pages

variable {answer : (o : PageOp D) → o.Res}

/-! ### The paths -/

/-- The requests that are answered by reading. -/
inductive ReadPath
  | addressList
  | orderHistory
  | orderHistorySearch
  | adminOrderList
  | storeList
  | storeDetail
  | storeSearch
  | menuOption
  | authCheck
  | phoneCheck
  | bizNumCheck

namespace ReadPath

variable [Double D] (text : JsonParser D) (jsonBody : String)

def handler : ReadPath → Page D Unit
  | addressList => AddressHandler.handleAddressList text jsonBody
  | orderHistory => OrderHandler.handleOrderHistory text jsonBody
  | orderHistorySearch => OrderHandler.handleOrderHistorySearch text jsonBody
  | adminOrderList => AdminHandler.handleAdminOrderList text jsonBody
  | storeList => StoreHandler.handleStoreListRequest text jsonBody
  | storeDetail => StoreHandler.handleStoreDetailReq text jsonBody
  | storeSearch => SearchHandler.handleSearchStoreReq text jsonBody
  | menuOption => MenuHandler.handleMenuOption text jsonBody
  | authCheck => UserHandler.handleAuthCheck text jsonBody
  | phoneCheck => UserHandler.handlePhoneCheck text jsonBody
  | bizNumCheck => UserHandler.handleBizNumCheck text jsonBody

/-- The reply reports success. -/
def Reports : ReadPath → Json D → Prop
  | orderHistory, body | orderHistorySearch, body => body.find "status" = some (encode (0 : Int32))
  | authCheck, body | phoneCheck, body | bizNumCheck, body =>
    body.find "isAvailable" = some (encode true)
  | _, body => body.find "status" = some (encode (200 : Int32))

/-- Some reply reports success. -/
def Succeeds (path : ReadPath) (tr : Trace (PageOp D)) : Prop :=
  ∃ cmdId body, (cmdId, some body) ∈ sent tr ∧ path.Reports body

theorem succeeds_of_sent {path : ReadPath} {tr : Trace (PageOp D)} {cmdId : CmdID} {body : Json D}
    (h : sent tr = [(cmdId, some body)]) : path.Succeeds tr ↔ path.Reports body := by
  unfold Succeeds
  rw [h]
  constructor
  · rintro ⟨cmdId', body', hmem, hreports⟩
    obtain ⟨-, hbody⟩ := Prod.mk.inj (List.mem_singleton.mp hmem)
    exact Option.some.inj hbody ▸ hreports
  · exact fun hreports => ⟨cmdId, body, List.mem_singleton.mpr rfl, hreports⟩

/-- A reply that reports success is what is sent when nothing throws, and nothing has thrown. -/
def Truthful (path : ReadPath) (answer : (o : PageOp D) → o.Res) (tr : Trace (PageOp D)) : Prop :=
  path.Succeeds tr → ¬Failed tr ∧
    sent tr = sent (((path.handler text jsonBody).eval answer).2.map (·, true))

/-- A failure comes before anything has been read that a success could be reported of: in the search
for stores before the second `rs->next()`, in the details of a store before one has returned. -/
def FailsEarly : ReadPath → Trace (PageOp D) → Prop
  | storeSearch, tr => fetches (calls tr) ≤ 1
  | storeDetail, tr => (.next, true) ∉ calls tr
  | _, _ => False

end ReadPath

/-! ### What the DAO functions read -/

section Readers

/-- Code that fetches nothing. -/
def NoFetch (answer : (o : PageOp D) → o.Res) (p : DbProg D α) : Prop :=
  (dbFaults answer).wp p (fun _ seg => fetches seg = 0) []

namespace NoFetch

protected theorem pure (a : α) : NoFetch answer (pure a : DbProg D α) := rfl

theorem bind {β : Type} {p : DbProg D α} {f : α → DbProg D β} (hp : NoFetch answer p)
    (hf : ∀ a, NoFetch answer (f a)) : NoFetch answer (p >>= f) := by
  refine (wp_bind _ _).mpr (wp_mono (fun r seg hseg => ?_) hp)
  cases r with
  | ok a =>
    refine wp_iff_nil.mpr (wp_mono (fun r' seg' hseg' => ?_) (hf a))
    rw [fetches_append, hseg, hseg']
  | error e => exact hseg

theorem op {o : DbOp D} (ho : o.isNext = false) : NoFetch answer (Prog.op o) := by
  refine wp_op.mpr ⟨?_, fun _ _ => ?_⟩ <;> simp [fetches, ho]

theorem select (query : String) (params : List SqlParam) :
    NoFetch answer (DbProg.select query params) :=
  bind (op rfl) fun _ => op rfl

theorem getInt (row : ResultRow D) (column : String) : NoFetch answer (DbProg.getInt row column) :=
  op rfl

theorem cString (row : ResultRow D) (column : String) :
    NoFetch answer (DbProg.cString row column) :=
  bind (op rfl) fun _ => .pure _

theorem cStringOr (row : ResultRow D) (column otherwise : String) :
    NoFetch answer (DbProg.cStringOr row column otherwise) := by
  refine bind (op rfl) fun b => ?_
  cases b
  · exact cString row column
  · exact .pure _

theorem intOr (row : ResultRow D) (column : String) (otherwise : Int32) :
    NoFetch answer (DbProg.intOr row column otherwise) := by
  refine bind (op rfl) fun b => ?_
  cases b
  · exact op rfl
  · exact .pure _

theorem doubleOr (row : ResultRow D) (column : String) (otherwise : D) :
    NoFetch answer (DbProg.doubleOr row column otherwise) := by
  refine bind (op rfl) fun b => ?_
  cases b
  · exact op rfl
  · exact .pure _

end NoFetch

/-- What a loop has pushed, wherever it has ended, is one less than it has fetched. -/
theorem wp_pushEach {body : ℕ → ResultRow D → DbProg D α}
    (hbody : ∀ i row, NoFetch answer (body i row)) (i : ℕ) (rows : List (ResultRow D))
    (l : List α) :
    (dbFaults answer).wp (TryBlock.catchFrom (TryBlock.pushEach body i rows) l)
      (fun r seg => ∃ l', r = .ok l' ∧ l'.length + 1 = l.length + fetches seg) [] := by
  induction rows generalizing i l with
  | nil =>
    refine (TryBlock.wp_catchFrom_last _).mpr (wp_op.mpr ⟨⟨l, rfl, rfl⟩, fun _ _ => ?_⟩)
    exact ⟨l, rfl, rfl⟩
  | cons row rows ih =>
    refine (TryBlock.wp_catchFrom_db _ _).mpr (wp_op.mpr ⟨?_, fun _ _ => ⟨l, rfl, rfl⟩⟩)
    refine (TryBlock.wp_catchFrom_db _ _).mpr ?_
    refine wp_iff_nil.mpr (wp_mono (fun r seg hseg => ?_) (hbody i row))
    have hfetched : fetches ([] ++ [(DbOp.next, true)] ++ seg) = 1 := by
      rw [fetches_append, hseg]
      rfl
    cases r with
    | ok a =>
      refine wp_iff_nil.mpr (wp_mono (fun r' seg' hr' => ?_) (ih (i + 1) (l ++ [a])))
      obtain ⟨l', rfl, hl'⟩ := hr'
      refine ⟨l', rfl, ?_⟩
      rw [hl', fetches_append, hfetched, List.length_append, List.length_singleton]
      omega
    | error e => exact ⟨l, rfl, by rw [hfetched]⟩

theorem wp_selectEach (query : String) (params : List SqlParam)
    {body : ℕ → ResultRow D → DbProg D α} (hbody : ∀ i row, NoFetch answer (body i row)) :
    (dbFaults answer).wp (DbProg.selectEach query params body)
      (fun r seg => ∃ l, r = .ok l ∧ l.length = fetches seg - 1) [] := by
  refine (TryBlock.wp_catchFrom_db _ _).mpr
    (wp_mono (fun r seg hseg => ?_) (NoFetch.select query params))
  cases r with
  | ok rows =>
    refine wp_iff_nil.mpr (wp_mono (fun r' seg' hr' => ?_) (wp_pushEach hbody 0 rows []))
    obtain ⟨l, rfl, hl⟩ := hr'
    refine ⟨l, rfl, ?_⟩
    rw [fetches_append, hseg]
    simp only [List.length_nil] at hl
    omega
  | error e =>
    refine ⟨[], rfl, ?_⟩
    rw [hseg]
    rfl

/-- A count that has failed is not positive. -/
theorem wp_countIsPositive (query : String) (params : List SqlParam) :
    (dbFaults answer).wp (countIsPositive query params)
      (fun r seg => ∃ b, r = .ok b ∧ (Failed seg → b = false)) [] := by
  refine (wp_tryCatch _ _).mpr (wp_mono (fun r seg hr => ?_)
    (Prog.Propagates.wp (.bind (.bind (.op _) fun _ => .op _) fun rows => ?_)))
  rotate_left
  · refine .bind (.bind (.op _) fun _ => .pure _) fun row => ?_
    cases row with
    | some row => exact .bind (.op _) fun _ => .pure _
    | none => exact .pure _
  cases r with
  | ok b =>
    refine ⟨b, rfl, fun h => ?_⟩
    obtain ⟨_, he⟩ := hr.mp h
    cases he
  | error e => exact ⟨false, rfl, fun _ => rfl⟩

/-- A block that looks for one row and notes that it is there: it has been, where something fails,
exactly if `rs->next()` has returned. -/
theorem wp_found {σ : Type} {P : σ → Prop} (query : String) (params : List SqlParam) {f : σ → σ}
    {rest : ResultRow D → TryBlock D σ Unit} {s : σ} (hs : ¬P s) (hf : P (f s))
    (hrest : ∀ row, TryBlock.Keeps P (rest row)) :
    (dbFaults answer).wp
      (TryBlock.catchFrom
        (do
          let found ← TryBlock.db (DbProg.select query params)
          match ← TryBlock.db (DbProg.first found) with
          | none => pure ()
          | some row =>
            TryBlock.assign f
            rest row)
        s)
      (fun r seg => ∃ s', r = .ok s' ∧ (Failed seg → (P s' ↔ (DbOp.next, true) ∈ seg))) [] := by
  have hearly {seg : Trace (DbOp D)} (hseg : (DbOp.next, true) ∉ seg) :
      ∃ s', (.ok s : Except SqlException σ) = .ok s' ∧
        (Failed seg → (P s' ↔ (DbOp.next, true) ∈ seg)) := ⟨s, rfl, fun _ => iff_of_false hs hseg⟩
  refine (TryBlock.wp_catchFrom_db _ _).mpr ((wp_bind _ _).mpr ?_)
  refine wp_op.mpr ⟨wp_op.mpr ⟨?_, fun _ _ => hearly (by simp)⟩, fun _ _ => hearly (by simp)⟩
  refine (TryBlock.wp_catchFrom_db _ _).mpr ((wp_bind _ _).mpr ?_)
  refine wp_op.mpr ⟨(wp_pure _).mpr ?_, fun _ _ => hearly (by simp)⟩
  dsimp only
  split
  · -- there is no such row, and nothing has failed
    exact ⟨s, rfl, fun h => absurd h (by simp)⟩
  · refine wp_iff_nil.mpr (wp_mono (fun r seg hr => ?_)
      ((hrest _).wp (I := dbFaults answer) hf fun _ _ => trivial))
    obtain ⟨s', rfl, hs'⟩ := hr
    exact ⟨s', rfl, fun _ => iff_of_true hs' (by simp)⟩

theorem keeps_fillEach {P : Dto.ResStoreDetailDTO D → Prop} {read : ResultRow D → DbProg D α}
    {push : α → Dto.ResStoreDetailDTO D → Dto.ResStoreDetailDTO D}
    (hpush : ∀ a d, P d → P (push a d)) (rows : List (ResultRow D)) :
    TryBlock.Keeps P (StoreDAO.fillEach read push rows) := by
  induction rows with
  | nil => exact TryBlock.keeps_db _
  | cons row rows ih =>
    refine .bind (TryBlock.keeps_db _) fun _ => .bind ?_ fun _ => ih
    exact .bind (TryBlock.keeps_db _) fun a => TryBlock.keeps_assign (hpush a)

variable [Double D]

theorem keeps_readStore (status : Int32) (row : ResultRow D) :
    TryBlock.Keeps (fun d => d.status = status) (StoreDAO.readStore row) := by
  have hfill {β : Type} (read : DbProg D β) (set : β → Dto.StoreDataDTO D → Dto.StoreDataDTO D) :
      TryBlock.Keeps (fun d : Dto.ResStoreDetailDTO D => d.status = status)
        (StoreDAO.fillStore read set) :=
    .bind (TryBlock.keeps_db _) fun a => TryBlock.keeps_assign fun _ h => h
  unfold StoreDAO.readStore
  repeat' first
    | refine TryBlock.Keeps.bind (hfill _ _) fun _ => ?_
    | exact hfill _ _

/-- The details of a store have been found once the first `rs->next()` has returned, if anything
fails after that. -/
theorem wp_getStoreDetail (text : JsonText D) (storeData : Dto.StoreDataDTO D) (storeId : Int32) :
    (dbFaults answer).wp (StoreDAO.getStoreDetail text storeData storeId)
      (fun r seg => ∃ d, r = .ok d ∧
        (Failed seg → (d.status = 200 ↔ (DbOp.next, true) ∈ seg))) [] := by
  refine wp_found (P := fun d : Dto.ResStoreDetailDTO D => d.status = 200) _ _
    (show (404 : Int32) ≠ 200 by decide) rfl fun row => ?_
  refine .bind (keeps_readStore 200 row) fun _ => .bind (TryBlock.keeps_db _) fun menus => ?_
  refine .bind (keeps_fillEach ?_ menus) fun _ => ?_
  · exact fun _ _ h => h
  refine .bind (TryBlock.keeps_db _) fun reviews => keeps_fillEach ?_ reviews
  exact fun _ _ h => h

end Readers

/-! ### The handlers -/

variable [Double D] {text : JsonParser D} {jsonBody : String} {path : ReadPath}

/-- A failure is told apart from a success only where it comes early. -/
def ReadPath.Shows (path : ReadPath) (answer : (o : PageOp D) → o.Res) (p : Page D Unit) : Prop :=
  (pageFaults answer).wp p
    (fun _ tr => Failed tr → (path.Succeeds tr ↔ ¬path.FailsEarly tr)) []

/-- What `declaredStore` reads. -/
def declaredReads : Trace (PageOp D) :=
  [.int, .bool, .int, .double, .int].map fun scalar => (.uninitialised scalar, true)

/-- A body of a `try` that throws before it has called anything, or ends in `P`. -/
def Tries (answer : (o : PageOp D) → o.Res) (P : Trace (PageOp D) → Prop) (p : Page D Unit) :
    Prop :=
  (pageFaults answer).wp p
    (fun r tr => match r with | .ok _ => P tr | .error _ => tr = []) []

namespace Tries

variable {P : Trace (PageOp D) → Prop}

omit [Double D] in
theorem ofExcept {x : Except String α} {f : α → Page D Unit} (h : ∀ a, Tries answer P (f a)) :
    Tries answer P (Page.ofExcept x >>= f) := by
  refine (wp_bind _ _).mpr ((wp_ofExcept _).mpr ?_)
  cases x with
  | ok a => exact h a
  | error e => exact rfl

omit [Double D] in
theorem reply {cmdId : CmdID} {body : Json D} (h : P [(.sendPacket cmdId (some body), true)]) :
    Tries answer P (Page.reply cmdId body) :=
  wp_op.mpr ⟨h, fun _ hthrow => (nomatch hthrow)⟩

omit [Double D] in
/-- The rows are read, and the answer is made of what they are. -/
theorem db_reply {p : DbProg D α} {S : α → Trace (DbOp D) → Prop}
    (hp : (dbFaults answer).wp p (fun r seg => ∃ a, r = .ok a ∧ S a seg) []) {cmdId : CmdID}
    {body : α → Json D}
    (h : ∀ a seg, S a seg → P (lift seg ++ [(.sendPacket cmdId (some (body a)), true)])) :
    Tries answer P (do
      let a ← Page.db p
      Page.reply cmdId (body a)) := by
  refine (wp_bind _ _).mpr (wp_db_faults.mpr (wp_mono (fun r seg hr => ?_) hp))
  obtain ⟨a, rfl, ha⟩ := hr
  exact wp_op.mpr ⟨h a seg ha, fun _ hthrow => (nomatch hthrow)⟩

/-- The rows are read into an object that is declared first. -/
theorem declared_reply {p : Dto.StoreDataDTO D → DbProg D α}
    {S : α → Trace (DbOp D) → Prop}
    (hp : ∀ d, (dbFaults answer).wp (p d) (fun r seg => ∃ a, r = .ok a ∧ S a seg) [])
    {cmdId : CmdID} {body : α → Json D}
    (h : ∀ a seg, S a seg →
      P (declaredReads ++ (lift seg ++ [(.sendPacket cmdId (some (body a)), true)]))) :
    Tries answer P (do
      let d ← StoreHandler.declaredStore
      let a ← Page.db (p d)
      Page.reply cmdId (body a)) := by
  have hread {β : Type} {scalar : Scalar} {f : scalar.Value D → Page D β} {tr : Trace (PageOp D)}
      {Q : Except Exn β → Trace (PageOp D) → Prop} :
      (pageFaults answer).wp (Prog.op (PageOp.uninitialised scalar) >>= f) Q tr ↔
        (pageFaults answer).wp (f (answer (.uninitialised scalar))) Q
          (tr ++ [(.uninitialised scalar, true)]) :=
    (wp_bind _ _).trans (wp_op.trans (and_iff_left fun _ hthrow => nomatch hthrow))
  refine (wp_bind _ _).mpr (hread.mpr (hread.mpr (hread.mpr (hread.mpr (hread.mpr ?_)))))
  refine wp_iff_nil.mpr ((wp_bind _ _).mpr (wp_db_faults.mpr ?_))
  refine wp_mono (fun r seg hr => ?_) (hp _)
  obtain ⟨a, rfl, ha⟩ := hr
  exact wp_op.mpr ⟨h a seg ha, fun _ hthrow => (nomatch hthrow)⟩

omit [Double D] in
/-- `try { … } catch { … }`, where the `catch` answers, or does not. -/
theorem tryCatch {p : Page D Unit} (hp : Tries answer P p) {h : Exn → Page D Unit}
    (hh : ∀ e, (pageFaults answer).wp (h e) (fun _ tr => P tr) []) :
    (pageFaults answer).wp (tryCatch p h) (fun _ tr => P tr) [] := by
  refine (wp_tryCatch _ _).mpr (wp_mono (fun r tr hr => ?_) hp)
  cases r with
  | ok a => exact hr
  | error e =>
    obtain rfl : tr = [] := hr
    exact hh e

end Tries

/-- Nothing has failed when the `catch` answers. -/
theorem shows_reply (cmdId : CmdID) (body : Json D) : path.Shows answer (Page.reply cmdId body) :=
  wp_op.mpr ⟨fun h => absurd h (by simp), fun _ hthrow => (nomatch hthrow)⟩

/-- A handler that reports success whatever has been read. -/
theorem shows_of_returns {cmdId : CmdID} {p : DbProg D α} {body : α → Json D}
    (hp : p.Returns) (hpath : ∀ tr : Trace (PageOp D), ¬path.FailsEarly tr)
    (hbody : ∀ a, path.Reports (body a)) :
    Tries answer (fun tr => Failed tr → (path.Succeeds tr ↔ ¬path.FailsEarly tr)) (do
      let a ← Page.db p
      Page.reply cmdId (body a)) := by
  have hwp : (dbFaults answer).wp p (fun r _ => ∃ a, r = .ok a ∧ True) [] :=
    wp_mono (fun _ _ h => h.1.imp fun _ ha => ⟨ha, trivial⟩)
      (hp.wp (wp_invariant (J := fun _ => True) (fun _ _ _ => trivial) (fun _ _ _ _ _ _ => trivial)
        p trivial))
  refine Tries.db_reply hwp fun a seg _ _ => iff_of_true ⟨cmdId, body a, ?_, hbody a⟩ (hpath _)
  simp [sent]

/-- A check that answers `false` when it has failed, and sends nothing. -/
def Lenient (answer : (o : PageOp D) → o.Res) (isTaken : Page D Bool) : Prop :=
  (pageFaults answer).wp isTaken (fun r tr => sent tr = [] ∧ (Failed tr → r = .ok false)) []

omit [Double D] in
theorem Lenient.ofExcept {x : Except String α} {f : α → Page D Bool}
    (h : ∀ a, Lenient answer (f a)) : Lenient answer (Page.ofExcept x >>= f) := by
  refine (wp_bind _ _).mpr ((wp_ofExcept _).mpr ?_)
  cases x with
  | ok a => exact h a
  | error e => exact ⟨rfl, fun h => absurd h failed_nil⟩

omit [Double D] in
theorem Lenient.count (query : String) (params : List SqlParam) :
    Lenient answer (Page.db (countIsPositive query params)) := by
  refine wp_db_faults.mpr (wp_mono (fun r seg hr => ?_) (wp_countIsPositive query params))
  obtain ⟨b, rfl, hb⟩ := hr
  refine ⟨sent_lift seg, fun hfailed => ?_⟩
  rw [hb (failed_lift.mp hfailed)]
  rfl

/-- A duplicate check that has failed answers that the value is free. -/
theorem shows_check {cmdId : CmdID} {isTaken : Page D Bool} (taken free malformed : String)
    (hpath : ∀ tr : Trace (PageOp D), ¬path.FailsEarly tr)
    (hbody : ∀ body : Json D, body.find "isAvailable" = some (encode true) → path.Reports body)
    (htaken : Lenient answer isTaken) :
    path.Shows answer (UserHandler.check cmdId isTaken taken free malformed) := by
  refine (wp_bind _ _).mpr ((wp_tryCatch _ _).mpr ((wp_bind _ _).mpr (wp_mono ?_ htaken)))
  rintro r tr ⟨hsent, hfailed⟩
  have hvacuous {body : Json D} (hr : r ≠ .ok false) :
      Failed (tr ++ [(PageOp.sendPacket cmdId (some body), true)]) →
        (path.Succeeds (tr ++ [(PageOp.sendPacket cmdId (some body), true)]) ↔
          ¬path.FailsEarly (tr ++ [(PageOp.sendPacket cmdId (some body), true)])) :=
    fun h => absurd (hfailed (by simpa using h)) hr
  cases r with
  | error e => exact wp_op.mpr ⟨hvacuous (by simp), fun _ hthrow => (nomatch hthrow)⟩
  | ok b =>
    cases b
    · refine wp_op.mpr ⟨fun _ => iff_of_true ?_ (hpath _), fun _ hthrow => (nomatch hthrow)⟩
      have hreply : sent (tr ++ [(PageOp.sendPacket cmdId (some (Dto.CheckResDTO.toJson
          (⟨200, true, free⟩))), true)]) =
          [(cmdId, some (Dto.CheckResDTO.toJson ⟨200, true, free⟩))] := by
        rw [sent_append, hsent]
        rfl
      exact (ReadPath.succeeds_of_sent hreply).mpr (hbody _ rfl)
    · exact wp_op.mpr ⟨hvacuous (by simp), fun _ hthrow => (nomatch hthrow)⟩

/-! ### Each path -/

/-- The details of a store are reported as found once the store has been. -/
theorem shows_storeDetail :
    ReadPath.storeDetail.Shows answer (ReadPath.storeDetail.handler text jsonBody) := by
  refine Tries.tryCatch ?_ fun _ => shows_reply _ _
  refine .ofExcept fun j => .ofExcept fun req => ?_
  split
  · exact Tries.reply fun h => absurd h (by simp)
  · refine Tries.declared_reply (fun d => wp_getStoreDetail _ d _) fun d seg hd hfailed => ?_
    have hsent : sent (declaredReads ++ (lift seg ++ [(.sendPacket CmdID.RES_STORE_DETAIL
        (some d.toJson), true)])) = [(CmdID.RES_STORE_DETAIL, some d.toJson)] := by
      rw [sent_append, sent_lift_reply]
      rfl
    have hread : ¬Failed (declaredReads : Trace (PageOp D)) := by simp [declaredReads]
    rw [ReadPath.succeeds_of_sent hsent, ReadPath.FailsEarly, calls_append, calls_lift_reply,
      not_not]
    have hseg := (failed_append.mp hfailed).resolve_left hread
    refine Iff.trans ?_ (hd ((failed_lift_reply _ _ _).mp hseg))
    exact Option.some_inj.trans LawfulCodec.encode_inj

/-- A search is reported as successful once the first store has been found. -/
theorem shows_storeSearch :
    ReadPath.storeSearch.Shows answer (ReadPath.storeSearch.handler text jsonBody) := by
  refine Tries.tryCatch ?_ fun _ h => absurd h failed_nil
  refine .ofExcept fun req => .ofExcept fun keyword => ?_
  refine Tries.db_reply (wp_selectEach _ _ fun _ row => ?_) fun l seg hl hfailed => ?_
  · refine .bind (.getInt _ _) fun _ => .bind (.cString _ _) fun _ => ?_
    refine .bind (.cString _ _) fun _ => .bind (.doubleOr _ _ _) fun _ => ?_
    refine .bind (.intOr _ _ _) fun _ => .bind (.intOr _ _ _) fun _ => ?_
    refine .bind (.cStringOr _ _ _) fun _ => .bind (.intOr _ _ _) fun _ => ?_
    exact .bind (.cStringOr _ _ _) fun _ => .pure _
  · rw [ReadPath.succeeds_of_sent (sent_lift_reply _ _ _), ReadPath.FailsEarly,
      calls_lift_reply, not_le]
    refine (Option.some_inj.trans LawfulCodec.encode_inj).trans ?_
    cases l with
    | nil =>
      refine iff_of_false (show (404 : Int32) ≠ 200 by decide) ?_
      simp only [List.length_nil] at hl
      omega
    | cons store stores =>
      refine iff_of_true rfl ?_
      simp only [List.length_cons] at hl
      omega

theorem ReadPath.shows (path : ReadPath) :
    path.Shows answer (path.handler text jsonBody) := by
  have hreply (cmdId : CmdID) (body : Json D) (e : Exn) :
      (pageFaults answer).wp ((fun _ => Page.reply cmdId body : Exn → Page D Unit) e)
        (fun _ tr => Failed tr → (path.Succeeds tr ↔ ¬path.FailsEarly tr)) [] :=
    shows_reply cmdId body
  -- The lists that are empty when a call throws are reported as successes all the same.
  cases path with
  | addressList =>
    refine Tries.tryCatch ?_ (hreply _ _)
    refine .ofExcept fun req => .ofExcept fun userId => ?_
    exact shows_of_returns (selectEach_returns _ _ _) (fun _ => id) fun _ => rfl
  | orderHistory =>
    refine Tries.tryCatch ?_ (hreply _ _)
    refine .ofExcept fun req => .ofExcept fun userId => ?_
    exact shows_of_returns (selectEach_returns _ _ _) (fun _ => id) fun _ => rfl
  | orderHistorySearch =>
    refine Tries.tryCatch ?_ (hreply _ _)
    refine .ofExcept fun req => .ofExcept fun userId => .ofExcept fun keyword => ?_
    exact shows_of_returns (selectEach_returns _ _ _) (fun _ => id) fun _ => rfl
  | adminOrderList =>
    refine Tries.tryCatch ?_ (hreply _ _)
    refine .ofExcept fun req => .ofExcept fun keyword => .ofExcept fun searchType => ?_
    exact shows_of_returns (selectEach_returns _ _ _) (fun _ => id) fun _ => rfl
  | storeList =>
    refine Tries.tryCatch ?_ (hreply _ _)
    refine .ofExcept fun req => .ofExcept fun categoryId => .ofExcept fun brandName => ?_
    split
    · exact shows_of_returns (selectEach_returns _ _ _) (fun _ => id) fun _ => rfl
    · exact shows_of_returns (selectEach_returns _ _ _) (fun _ => id) fun _ => rfl
  | storeDetail => exact shows_storeDetail
  | storeSearch => exact shows_storeSearch
  | menuOption =>
    refine Tries.tryCatch ?_ (hreply _ _)
    refine .ofExcept fun j => .ofExcept fun req => ?_
    exact shows_of_returns (catchSql_returns _ _) (fun _ => id) fun _ => rfl
  | authCheck =>
    refine shows_check _ _ _ (fun _ => id) (fun _ h => h) ?_
    exact .ofExcept fun req => .ofExcept fun userId => .count _ _
  | phoneCheck =>
    refine shows_check _ _ _ (fun _ => id) (fun _ h => h) ?_
    exact .ofExcept fun req => .ofExcept fun phoneNumber => .ofExcept fun role => .count _ _
  | bizNumCheck =>
    refine shows_check _ _ _ (fun _ => id) (fun _ h => h) ?_
    exact .ofExcept fun req => .ofExcept fun businessNum => .count _ _

/-- **A failure shown as a result.** A run of a read path is truthful exactly when no call has
thrown, or the one that has comes early. -/
theorem path_truthful_iff (path : ReadPath) {es : List (Option Exn)} {r : Except Exn Unit}
    {tr : Trace (PageOp D)}
    (hrun : (path.handler text jsonBody).run (perform answer PageOp.mayThrow) es [] =
      some (r, tr)) :
    path.Truthful text jsonBody answer tr ↔ ¬Failed tr ∨ path.FailsEarly tr := by
  have hshows : Failed tr → (path.Succeeds tr ↔ ¬path.FailsEarly tr) := run_wp path.shows hrun
  constructor
  · intro htruthful
    by_contra hnot
    obtain ⟨hfailed, hearly⟩ := not_or.mp hnot
    exact (htruthful ((hshows (not_not.mp hfailed)).mpr hearly)).1 (not_not.mp hfailed)
  · intro h hsucceeds
    have hok : ¬Failed tr := fun hfailed =>
      ((hshows hfailed).mp hsucceeds) (h.resolve_left (not_not.mpr hfailed))
    refine ⟨hok, ?_⟩
    rw [(run_eval hrun hok).2]
    rfl

/-! ### A connection that is lost -/

/-- A request for the addresses of `"hong"`. -/
def addressBody : String := "\x7b\"userId\":\"hong\"\x7d"

/-- A JSON library that knows this body. -/
def addressText : JsonParser Float where
  parse s :=
    if s = "[]" then some (.array [])
    else if s = addressBody then some (.object [("userId", .string "hong")])
    else none
  dump _ := ""
  parse_brackets := rfl
  nul_not_mem_dump := JsonText.nul_not_mem_empty
  parseError _ := "parse error"
  quotesUtf8 _ := true
  conversionError _ := "type error"

/-- A database in which every query finds one row of ones, and nobody writes. -/
def oneRow : (o : PageOp Float) → o.Res
  | .db (.executeQuery ..) => [fun _ => .int 1]
  | .db (.executeUpdate ..) => (0 : ℕ)
  | .db (.getInt ..) => (1 : Int32)
  | .db (.getDouble ..) => (1.0 : Float)
  | .db (.getString ..) => "1"
  | .db (.isNull ..) | .db (.getBoolean ..) => false
  | .db (.prepareStatement _) | .db .next => ()
  | .account (.executeQuery (.countUserId _)) | .account (.executeQuery (.countPhoneAndRole _ _)) =>
    (0 : ℕ)
  | .account (.executeQuery .lastInsertId) => (0 : ℤ)
  | .account (.executeQuery (.isDefault _ _)) => (none : Option ℤ)
  | .account (.executeQuery (.addressOf _)) => (none : Option String)
  | .account (.executeUpdate _) => (0 : ℕ)
  | .account (.setAutoCommit _) | .account .prepareStatement | .account .commit
  | .account .rollback | .account (.sendPacket _) => ()
  | .getUserId => "hong"
  | .getCurrentDate => "2026-03-17"
  | .uninitialised .int => (0 : Int32)
  | .uninitialised .bool => false
  | .uninitialised .double => (0.0 : Float)
  | .authenticate _ _ | .registerUser _ _ | .sendPacket _ _ => ()

/-- The query for the addresses. -/
def addressQuery : String :=
  "SELECT address_id, address, detail, guide, label, is_default " ++
  "FROM USER_ADDRESSES WHERE user_id = ? ORDER BY is_default DESC, address_id DESC"

/-- The connection is lost before the query is prepared, and the reply is sent. -/
def connectionLost : List (Option Exn) := [some (.sql "Lost connection to server"), none]

/-- What has been called then: the empty list of addresses is sent with status 200. -/
def lostTrace : Trace (PageOp Float) :=
  [(.db (.prepareStatement addressQuery), false),
   (.sendPacket CmdID.RES_ADDRESS_LIST (some (AddressHandler.addressList 200 [])), true)]

theorem run_connectionLost :
    (ReadPath.addressList.handler addressText addressBody).run (perform oneRow PageOp.mayThrow)
      connectionLost [] = some (.ok (), lostTrace) := by
  obtain ⟨k, hlist, hk⟩ : ∃ k, (AddressDAO.getAddressList "hong" : DbProg Float _) =
      .call (.prepareStatement addressQuery) k ∧
        k (.error ⟨"Lost connection to server"⟩) = .ret [] := ⟨_, rfl, rfl⟩
  show Prog.run _ (tryCatch (Page.db (AddressDAO.getAddressList "hong") >>= fun addresses =>
    Page.reply CmdID.RES_ADDRESS_LIST (AddressHandler.addressList 200 addresses)) _) _ _ = _
  rw [hlist, Page.db]
  show Prog.run _ (tryCatch (Page.db (k (.error ⟨"Lost connection to server"⟩)) >>= _) _) _ _ = _
  rw [hk]
  rfl

theorem path_truthful_iff_connectionLost :
    ReadPath.addressList.Truthful addressText addressBody oneRow lostTrace ↔
      ¬Failed lostTrace ∨ ReadPath.addressList.FailsEarly lostTrace :=
  path_truthful_iff _ run_connectionLost

/-- A customer who has an address is told of none. -/
theorem not_truthful_addressList :
    ¬∀ (path : ReadPath) (jsonBody : String) (answer : (o : PageOp Float) → o.Res)
      (es : List (Option Exn)) (r : Except Exn Unit) (tr : Trace (PageOp Float)),
      (path.handler addressText jsonBody).run (perform answer PageOp.mayThrow) es [] =
          some (r, tr) →
        path.Truthful addressText jsonBody answer tr := by
  intro h
  have htruthful := h .addressList addressBody oneRow connectionLost _ _ run_connectionLost
  refine (htruthful ⟨CmdID.RES_ADDRESS_LIST, AddressHandler.addressList 200 [], ?_, rfl⟩).1 ?_
  · exact .head _
  · exact ⟨_, .head _, rfl⟩

end Pages

end ItsBedalyo
