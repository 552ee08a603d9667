import ItsBedalyo.Handler.AnsweredOnce
import ItsBedalyo.Handler.ReadPaths
import ItsBedalyo.Lib.Memory

/-!
# Members that are sent without having been set

`int` members of a DTO that is declared without an initialiser hold what is in memory there. Two
error replies consist of such a DTO, the call of the riders has one such member, and the details of
a store that is not found are sent as they were declared.

`HandlerCall.sent` is what a handler sends in surroundings that are determined, and two runs in the
same surroundings send the same, whatever is in memory, exactly if the handler is `Settled`.
-/

namespace ItsBedalyo

open Prog

variable {D : Type}

/-! ### The handlers -/

/-- Which calls read memory, which return without doing anything, and which send. -/
structure Calls {Op : Type} (Res : Op → Type) where
  reads : Op → Bool
  idle : (o : Op) → Option (Res o) := fun _ => none
  sends : Op → Bool

section

variable {Op : Type} {Res : Op → Type} {ε α σ : Type} (c : Calls Res)
  (answer : σ → (o : Op) → Except ε (Res o) × σ) (p : Prog Res ε α) (s : σ)

/-- The calls that do nothing are answered without the surroundings. -/
def Calls.answers (s : σ) (o : Op) : Except ε (Res o) × σ :=
  match c.idle o with
  | some r => (.ok r, s)
  | none => answer s o

/-- What is sent, with a memory. -/
def Calls.sent (m : Memory Res c.reads) : List Op :=
  (p.play (Memory.remember c.reads answer) (s, m)).2.2.filter c.sends

/-- The same is sent with any memory. -/
def Calls.Settled : Prop := ∀ m m', c.sent answer p s m = c.sent answer p s m'

variable {c answer p s}

theorem Calls.answers_of_idle {o : Op} {r : Res o} (h : c.idle o = some r) :
    c.answers answer s o = (.ok r, s) := by
  rw [Calls.answers, h]

/-- Code in a `try` that ends with a packet. -/
theorem Calls.sent_tryCatch {r : Except ε α} {t : σ × Memory Res c.reads} {pre ops : List Op}
    {packet : Op} {m : Memory Res c.reads} (hsends : c.sends packet = true)
    (hp : p.play (Memory.remember c.reads answer) (s, m) = (r, t, ops))
    (hops : ops = pre ++ [packet]) (h : ε → Prog Res ε α) :
    ∃ tail, c.sent answer (tryCatch p h) s m = pre.filter c.sends ++ packet :: tail := by
  have hfilter (tail : List Op) :
      (pre ++ [packet] ++ tail).filter c.sends =
        pre.filter c.sends ++ packet :: tail.filter c.sends := by
    rw [List.append_assoc, List.filter_append, List.singleton_append,
      List.filter_cons_of_pos hsends]
  rw [Calls.sent, play_tryCatch, hp, hops]
  cases r with
  | error e => exact ⟨_, hfilter _⟩
  | ok a => exact ⟨_, (congrArg (List.filter _) (List.append_nil _).symm).trans (hfilter [])⟩

/-- Packets that differ after the same ones. -/
theorem ne_of_packet_ne {pre rest rest' : List α} {packet packet' : α}
    (h : packet ≠ packet') : pre ++ packet :: rest ≠ pre ++ packet' :: rest' :=
  fun heq => h (List.cons.inj (List.append_cancel_left heq)).1

theorem Calls.settled_of_steady (hp : p.Steady c.reads answer s) : c.Settled answer p s :=
  fun m m' => congrArg (List.filter c.sends) (hp.calls_eq m m')

end

def pageCalls : Calls (@PageOp.Res D) where
  reads
    | .uninitialised _ => true
    | _ => false
  sends
    | .sendPacket _ body => body.isSome
    | _ => false

/-- A broadcast does something if a session of the role is `online`. -/
def statusCalls (online : ℤ → Bool) : Calls StatusOp.Res where
  reads
    | .uninitialised => true
    | _ => false
  idle
    | .broadcastToRole role _ => if online role then none else some ()
    | _ => none
  sends
    | .base (.sendPacket _) | .base (.sendToUser _ _) => true
    | .broadcastToRole role _ => online role
    | _ => false

def accountCalls {Reply : Type} :
    Calls (@DaoOp.Res AccountStatement AccountQuery Reply AccountQuery.Answer) where
  reads _ := false
  sends
    | .sendPacket _ => true
    | _ => false

def connCalls (online : ℤ → Bool) : Calls ConnOp.Res where
  reads _ := false
  idle
    | .chat (.broadcastToRole role _) => if online role then none else some ()
    | _ => none
  sends
    | .chat (.sendPacket _) | .chat (.sendToUser _ _) => true
    | .chat (.broadcastToRole role _) => online role
    | .sendLogin _ | .sendLogout _ _ => true
    | _ => false

/-- The handlers: those of the commands with a response, those of the two commands without one, and
the one that the network thread calls. -/
inductive HandlerCall
  | command (c : Command)
  | category
  | chatClose
  | requestOk

namespace HandlerCall

/-- `roomId` of a body. -/
def roomIdOf [Double D] (j : Json D) : Except JsonError ℤ := do
  let roomId ← j.value "roomId" (-1 : Int32)
  pure roomId.toInt

/-- `ReqChatAcceptDTO`. -/
def chatAcceptReq [Double D] (j : Json D) : Except JsonError ReqChatAcceptDTO := do
  let requesterId ← j.get "requesterId"
  let requesterType ← j.get "requesterType"
  let result ← j.get "result"
  pure ⟨requesterId, requesterType, result⟩

variable [Double D] (text : JsonParser D) (jsonBody : String)

def task : HandlerCall → DispatchTask
  | command c => c.task text jsonBody
  | category => .page (Pages.CategoryHandler.handleCategoryRequest : Page D Unit)
  | chatClose =>
    .conn (ConnProg.chat (ChatHandler.handleChatClose (text.readAs roomIdOf jsonBody)))
  | requestOk =>
    .conn (ConnProg.chat (ChatHandler.handleChatAccept (text.readAs chatAcceptReq jsonBody)))

def calls (online : ℤ → Bool) : (h : HandlerCall) → Calls (h.task text jsonBody).Res
  | category => pageCalls (D := D)
  | chatClose | requestOk => connCalls online
  | command .signup | command .gradeUpdate => accountCalls
  | command .login | command .logout | command .chatConnect | command .chatSend => connCalls online
  | command .orderReject | command .orderCreate | command .orderAccept
  | command .changeOrderState | command .cookTimeSet | command .pickup
  | command .deliveryComplete | command .cancel => statusCalls online
  | command .heartbeat | command .authCheck | command .phoneCheck | command .bizNumCheck
  | command .orderList | command .storeList | command .storeDetail | command .menuList
  | command .storeInfoUpdate | command .storeStatusSet | command .menuEdit | command .menuSoldOut
  | command .checkoutInfo | command .menuOption | command .orderHistory
  | command .orderHistorySearch | command .orderDetail | command .reviewList
  | command .reviewReply | command .salesStat | command .menuReviewList | command .addressSave
  | command .addressList | command .addressDelete | command .addressUpdate
  | command .addressDefault | command .researchWidget | command .researchAdd
  | command .researchDelete | command .researchDelAll | command .searchStore
  | command .riderOrderList | command .adminInit | command .adminOrderList => pageCalls (D := D)

end HandlerCall

/-! ### Code that reads no memory -/

section Avoids

theorem avoids_db {α : Type} (p : DbProg D α) : (Page.db p).Avoids (pageCalls (D := D)).reads := by
  induction p with
  | ret a => trivial
  | fail e => trivial
  | call o k ih =>
    rw [Page.db]
    refine ⟨rfl, fun r => ?_⟩
    rcases r with (what | what) | a
    · exact ih _
    · trivial
    · exact ih _

theorem avoids_account {α : Type} (p : AccountDao Empty α) :
    (Page.account p : Page D α).Avoids (pageCalls (D := D)).reads :=
  @Avoids.embed (PageOp D) PageOp.Res Exn α pageCalls.reads _ PageOp.account (fun _ => rfl) p

theorem avoids_lift {α : Type} {online : ℤ → Bool} (p : Handler α) :
    p.lift.Avoids (statusCalls online).reads :=
  @Avoids.embed StatusOp StatusOp.Res String α (statusCalls online).reads _ StatusOp.base
    (fun _ => rfl) p

variable (text : JsonParser D) (jsonBody : String)

theorem avoids_parse : (Page.parse text jsonBody).Avoids pageCalls.reads := .ofExcept _

section

variable {α : Type} [JsonCodec D α] (req : Json D) (key : String) (otherwise : α)

theorem avoids_value : (Page.value text req key otherwise).Avoids pageCalls.reads := .ofExcept _

theorem avoids_getOr : (Page.getOr text req key otherwise).Avoids pageCalls.reads := .ofExcept _

theorem avoids_get : (Page.get text req key : Page D α).Avoids pageCalls.reads := .ofExcept _

end

theorem avoids_ofExcept {α : Type} (x : Except String α) :
    (Page.ofExcept x : Page D α).Avoids pageCalls.reads := .ofExcept _

theorem avoids_updateTable (success : Bool) (table idColumn : String)
    (clauses : Pages.StoreHandler.Clauses) {id : Page D String} (hid : id.Avoids pageCalls.reads) :
    (Pages.StoreHandler.updateTable success table idColumn clauses id).Avoids pageCalls.reads := by
  unfold Pages.StoreHandler.updateTable
  split
  · exact .bind hid fun _ => avoids_db _
  · exact .pure _

theorem avoids_sendPacket (cmdId : CmdID) (body : Option (Json D)) :
    (Page.sendPacket cmdId body).Avoids pageCalls.reads := .op rfl

variable [Double D]

/-- The handlers that read no memory. -/
theorem HandlerCall.avoids {online : ℤ → Bool} (h : HandlerCall)
    (hdetail : h ≠ .command .storeDetail) (hcheckout : h ≠ .command .checkoutInfo)
    (hreceipt : h ≠ .command .orderDetail)
    (hcook : h ≠ .command .cookTimeSet) :
    (h.task text jsonBody).handler.Avoids (h.calls text jsonBody online).reads := by
  cases h with
  | category =>
    refine .tryCatch ?_ fun _ => avoids_sendPacket _ _
    refine .bind (avoids_db _) fun _ => .bind (avoids_db _) fun _ => ?_
    exact .bind (avoids_db _) fun _ => avoids_sendPacket _ _
  | chatClose | requestOk => exact .of_forall (fun _ => rfl) _
  | command c =>
    cases c with
    | storeDetail => exact absurd rfl hdetail
    | checkoutInfo => exact absurd rfl hcheckout
    | orderDetail => exact absurd rfl hreceipt
    | cookTimeSet => exact absurd rfl hcook
    | signup | gradeUpdate | login | logout | chatConnect | chatSend =>
      exact .of_forall (fun _ => rfl) _
    | orderReject | orderCreate | orderAccept | changeOrderState | pickup | deliveryComplete
    | cancel => exact avoids_lift _
    | _ =>
      refine (?_ : @Avoids (PageOp D) PageOp.Res Exn Unit pageCalls.reads _)
      repeat' first
        | with_reducible exact avoids_db _
        | with_reducible exact avoids_account _
        | with_reducible exact avoids_parse _ _
        | with_reducible exact avoids_value _ _ _ _
        | with_reducible exact avoids_getOr _ _ _ _
        | with_reducible exact avoids_get _ _ _
        | with_reducible exact avoids_sendPacket _ _
        | with_reducible exact avoids_ofExcept _
        | with_reducible refine avoids_updateTable _ _ _ _ ?_
        | with_reducible exact .pure _
        | with_reducible exact .throw _
        | with_reducible refine .ite ?_ ?_
        | with_reducible refine .tryCatch ?_ fun _ => ?_
        | with_reducible refine .bind ?_ fun _ => ?_
        | split
        | unfold Pages.MenuHandler.edit
        | exact .op rfl
        | refine .tryCatch ?_ fun _ => ?_
        | refine .bind ?_ fun _ => ?_

end Avoids

/-! ### The details of a store -/

section Detail

open Pages StoreHandler TryBlock

variable {α β σ : Type} {answer : σ → (o : PageOp D) → Except Exn o.Res × σ} {s : σ}

/-- What a call throws that is no `sql::SQLException` goes through the `try`. -/
theorem play_catchFrom_db {γ : Type} (p : DbProg D α) (f : α → TryBlock D γ Unit) (v : γ) :
    (Page.db (catchFrom (TryBlock.db p >>= f) v)).play answer s =
      match (Page.db p).play answer s with
      | (.ok a, s', ops) =>
        ((Page.db (catchFrom (f a) v)).play answer s').map id (Prod.map id (ops ++ ·))
      | (.error (.sql _), s', ops) => (.ok v, s', ops)
      | (.error (.std what), s', ops) => (.error (.std what), s', ops) := by
  induction p generalizing s with
  | ret a => rfl
  | fail e => rfl
  | call o k ih =>
    show (Page.db (.call o fun r => catchFrom (TryBlock.db (k r) >>= f) v)).play answer s = _
    rw [Page.db, Page.db, play, play]
    rcases (answer s (.db o)).1 with (what | what) | a
    · show ((Page.db (catchFrom (TryBlock.db (k (.error ⟨what⟩)) >>= f) v)).play answer _).map
        _ _ = _
      rw [ih]
      rcases (Page.db (k (.error ⟨what⟩))).play answer (answer s (.db o)).2
        with ⟨(_ | _) | _, s', ops⟩ <;> rfl
    · rfl
    · show ((Page.db (catchFrom (TryBlock.db (k (.ok a)) >>= f) v)).play answer _).map _ _ = _
      rw [ih]
      rcases (Page.db (k (.ok a))).play answer (answer s (.db o)).2
        with ⟨(_ | _) | _, s', ops⟩ <;> rfl

/-- What the five members of `result.storeData` hold when it is declared. -/
structure StoreMemory (D : Type) where
  storeId : Int32
  isOpen : Bool
  minOrderAmount : Int32
  rating : D
  reviewCount : Int32

/-- The store is not found, or the database has thrown before. -/
def Unfilled (r : Except Exn Bool) : Prop := r = .ok false ∨ ∃ what, r = .error (.sql what)

/-- The block, from an object that depends on the memory as `G` says, fills it exactly if `found`
does not come out `Unfilled`. -/
def Fills (answer : σ → (o : PageOp D) → Except Exn o.Res × σ)
    (block : TryBlock D (Dto.ResStoreDetailDTO D) Unit) (found : DbProg D Bool)
    (G : StoreMemory D → Dto.ResStoreDetailDTO D) : Prop :=
  ∀ s,
    (∃ (G' : StoreMemory D → Dto.ResStoreDetailDTO D) (s' : σ) (ops : List (PageOp D)),
      (∀ m, (Page.db (catchFrom block (G m))).play answer s = (.ok (G' m), s', ops)) ∧
      (Unfilled ((Page.db found).play answer s).1 →
        ∀ m, (G' m).storeData.reviewCount = m.reviewCount) ∧
      (¬Unfilled ((Page.db found).play answer s).1 → ∀ m m', G' m = G' m')) ∨
    (¬Unfilled ((Page.db found).play answer s).1 ∧ ∃ e s' ops,
      ∀ m, (Page.db (catchFrom block (G m))).play answer s = (.error e, s', ops))

namespace Fills

variable {G : StoreMemory D → Dto.ResStoreDetailDTO D}
  {block : TryBlock D (Dto.ResStoreDetailDTO D) Unit} {found : DbProg D Bool}

theorem none (hG : ∀ m, (G m).storeData.reviewCount = m.reviewCount) :
    Fills answer (pure ()) (pure false) G :=
  fun s => .inl ⟨G, s, [], fun _ => rfl, fun _ => hG, fun h => absurd (.inl rfl) h⟩

theorem db {p : DbProg D α} {f : α → TryBlock D (Dto.ResStoreDetailDTO D) Unit}
    {y : α → DbProg D Bool} (hG : ∀ m, (G m).storeData.reviewCount = m.reviewCount)
    (h : ∀ a, Fills answer (f a) (y a) G) : Fills answer (TryBlock.db p >>= f) (p >>= y) G := by
  intro s
  simp only [play_catchFrom_db, db_bind, play_bind]
  rcases (Page.db p).play answer s with ⟨(what | what) | a, s', ops⟩
  · exact .inl ⟨G, s', ops, fun _ => rfl, fun _ => hG,
      fun hfound => absurd (.inr ⟨what, rfl⟩) hfound⟩
  · refine .inr ⟨?_, .std what, s', ops, fun _ => rfl⟩
    rintro (h | ⟨_, h⟩) <;> cases h
  · obtain ⟨G', s'', ops', hplay, hsome⟩ | ⟨hfilled, e, s'', ops', hplay⟩ := h a s'
    · exact .inl ⟨G', s'', ops ++ ops', fun m => by simp only [hplay]; rfl, hsome⟩
    · exact .inr ⟨hfilled, e, s'', ops ++ ops', fun m => by simp only [hplay]; rfl⟩

theorem assign {g : Dto.ResStoreDetailDTO D → Dto.ResStoreDetailDTO D}
    (h : Fills answer block found fun m => g (G m)) :
    Fills answer (TryBlock.assign g >>= fun _ => block) found G := h

theorem fill {read : DbProg D α} {set : α → Dto.StoreDataDTO D → Dto.StoreDataDTO D}
    {y : α → DbProg D Bool} (hG : ∀ m, (G m).storeData.reviewCount = m.reviewCount)
    (h : ∀ a, Fills answer block (y a)
      fun m => { G m with storeData := set a (G m).storeData }) :
    Fills answer (StoreDAO.fillStore read set >>= fun _ => block) (read >>= y) G := by
  unfold StoreDAO.fillStore StoreDAO.fill
  rw [Prog.bind_assoc]
  exact .db hG fun a => .assign (h a)

end Fills

variable [Double D]

/-- Nothing depends on the memory any more. -/
theorem Fills.all {G : StoreMemory D → Dto.ResStoreDetailDTO D}
    {block : TryBlock D (Dto.ResStoreDetailDTO D) Unit} (hG : ∀ m m', G m = G m') :
    Fills answer block (pure true) G := by
  have hfilled {s : σ} : ¬Unfilled ((Page.db (pure true : DbProg D Bool)).play answer s).1 := by
    rintro (h | ⟨what, h⟩) <;> cases h
  intro s
  let m₀ : StoreMemory D := ⟨0, false, 0, Double.zero, 0⟩
  rcases hplay : (Page.db (catchFrom block (G m₀))).play answer s with ⟨e | d, s', ops⟩
  · exact .inr ⟨hfilled, e, s', ops, fun m => hG m₀ m ▸ hplay⟩
  · exact .inl ⟨fun _ => d, s', ops, fun m => hG m₀ m ▸ hplay, fun h => absurd h hfilled,
      fun _ _ _ => rfl⟩

def StoreMemory.declared (m : StoreMemory D) : Dto.StoreDataDTO D :=
  let fresh : Dto.StoreDataDTO D := .fresh
  { fresh with
    storeId := m.storeId, isOpen := m.isOpen, minOrderAmount := m.minOrderAmount,
    rating := m.rating, reviewCount := m.reviewCount }

/-- The store's row is read up to the last of the five members. -/
def readUntilReviewCount (row : ResultRow D) : DbProg D Bool := do
  let _ ← DbProg.getInt row "store_id"
  let _ ← DbProg.cString row "store_name"
  let _ ← DbProg.cStringOr row "category" ""
  let _ ← DbProg.cStringOr row "brand_name" ""
  let _ ← DbProg.cStringOr row "pickup_time" "10~15분"
  let _ ← DbProg.cStringOr row "store_address" ""
  let _ ← (do
    let openTime ← DbProg.cString row "open_time"
    let closeTime ← DbProg.cString row "close_time"
    pure (openTime ++ " ~ " ++ closeTime))
  let _ ← DbProg.getInt row "delivery_fee"
  let _ ← DbProg.cStringOr row "image_url" ""
  let _ ← DbProg.getInt row "min_order_amount"
  let _ ← DbProg.doubleOr row "rating" Double.zero
  let _ ← DbProg.getInt row "review_count"
  pure true

/-- Whether the store is found, where its row is read up to there. -/
def storeFound (storeId : Int32) : DbProg D Bool := do
  let found ← DbProg.select
    ("SELECT S.store_id, S.store_name, S.category, S.brand_name, S.store_address, S.open_time, " ++
     "S.close_time, S.delivery_fee, S.min_order_amount, S.rating, S.review_count, S.image_url, " ++
     "S.delivery_time_range, S.pickup_time, " ++
     "U.phone_number, U.user_name AS representative_name, O.business_number FROM STORES S " ++
     "LEFT JOIN USERS U ON S.owner_id = U.user_id LEFT JOIN OWNERS O ON S.owner_id = O.user_id " ++
     "WHERE S.store_id = ?") [.int storeId]
  match ← DbProg.first found with
  | none => pure false
  | some row => readUntilReviewCount row

theorem fills_readDetail (text : JsonText D) (storeId : Int32) :
    Fills answer (StoreDAO.readDetail text storeId) (storeFound storeId) fun m =>
      { status := 404, storeData := m.declared, menuList := [], reviewList := [],
        storeAddress := "" } := by
  refine .db (fun _ => rfl) fun rows => .db (fun _ => rfl) fun found => ?_
  cases found with
  | none => exact .none fun _ => rfl
  | some row =>
    refine .assign ?_
    unfold StoreDAO.readStore
    simp only [Prog.bind_assoc]
    unfold readUntilReviewCount
    iterate 12
      refine .fill ?_ fun _ => ?_
      · exact fun _ => rfl
    exact .all fun _ _ => rfl

end Detail

/-! ### What is sent -/

section Sent

variable {σ : Type} {answer : σ → (o : PageOp D) → Except Exn o.Res × σ} {s : σ}

/-- What is in memory for the handlers of pages. -/
abbrev PageMemory (D : Type) := Memory (@PageOp.Res D) (pageCalls (D := D)).reads

/-- The memory that is left after `n` reads. -/
def PageMemory.drop (m : PageMemory D) (n : ℕ) : PageMemory D := fun i => m (n + i)

theorem PageMemory.drop_drop (m : PageMemory D) (n k : ℕ) : (m.drop n).drop k = m.drop (n + k) :=
  funext fun i => congrArg m (Nat.add_assoc n k i).symm

theorem play_read (scalar : Scalar) (m : PageMemory D) :
    (Prog.op (PageOp.uninitialised scalar)).play (Memory.remember pageCalls.reads answer) (s, m) =
      (.ok (m 0 (.uninitialised scalar) rfl), (s, m.drop 1), [.uninitialised scalar]) := by
  rw [play_op, Memory.remember_of_reads (o := PageOp.uninitialised scalar) rfl]
  exact congrArg (fun m' => (_, (s, m'), _)) (funext fun n => congrArg m (Nat.add_comm n 1))

@[simp] theorem play_uninitialised (m : PageMemory D) :
    (Page.uninitialised : Page D Int32).play (Memory.remember pageCalls.reads answer) (s, m) =
      (.ok (m 0 (.uninitialised .int) rfl), (s, m.drop 1), [.uninitialised .int]) :=
  play_read .int m

@[simp] theorem play_uninitialisedBool (m : PageMemory D) :
    (Page.uninitialisedBool : Page D Bool).play (Memory.remember pageCalls.reads answer) (s, m) =
      (.ok (m 0 (.uninitialised .bool) rfl), (s, m.drop 1), [.uninitialised .bool]) :=
  play_read .bool m

@[simp] theorem play_uninitialisedDouble (m : PageMemory D) :
    (Page.uninitialisedDouble : Page D D).play (Memory.remember pageCalls.reads answer) (s, m) =
      (.ok (m 0 (.uninitialised .double) rfl), (s, m.drop 1), [.uninitialised .double]) :=
  play_read .double m

@[simp] theorem play_sendPacket (cmdId : CmdID) (body : Option (Json D)) (m : PageMemory D) :
    (Page.sendPacket cmdId body).play (Memory.remember pageCalls.reads answer) (s, m) =
      ((answer s (.sendPacket cmdId body)).1, ((answer s (.sendPacket cmdId body)).2, m),
        [.sendPacket cmdId body]) := by
  rw [Page.sendPacket, play_op, Memory.remember_of_not (o := PageOp.sendPacket cmdId body) rfl]

/-- A memory full of one number. -/
def PageMemory.full [Double D] (n : Int32) : PageMemory D := fun _ o h =>
  match o, h with
  | .uninitialised .int, _ => n
  | .uninitialised .bool, _ => false
  | .uninitialised .double, _ => Double.zero

/-- An error reply with five numbers that are not set. -/
def unsetReply (cmdId : CmdID) (body : Int32 → Int32 → Int32 → Int32 → Int32 → Json D) :
    Page D Unit := do
  let a ← Page.uninitialised
  let b ← Page.uninitialised
  let c ← Page.uninitialised
  let d ← Page.uninitialised
  let e ← Page.uninitialised
  Page.reply cmdId (body a b c d e)

theorem play_unsetReply (cmdId : CmdID)
    (body : Int32 → Int32 → Int32 → Int32 → Int32 → Json D) (m : PageMemory D) :
    pageCalls.sent answer (unsetReply cmdId body) s m =
      [.sendPacket cmdId (some (body (m 0 (.uninitialised .int) rfl) (m 1 (.uninitialised .int) rfl)
        (m 2 (.uninitialised .int) rfl) (m 3 (.uninitialised .int) rfl)
        (m 4 (.uninitialised .int) rfl)))] := by
  simp only [Calls.sent, unsetReply, play_bind, play_uninitialised, play_sendPacket]
  rfl

/-- Code whose errors are answered so sends the same with any memory exactly if it returns. -/
theorem settled_iff_returns [Double D] {p : Page D Unit} (hp : p.Avoids pageCalls.reads)
    (cmdId : CmdID) (body : Int32 → Int32 → Int32 → Int32 → Int32 → Json D)
    (hbody : body 0 0 0 0 0 ≠ body 1 1 1 1 1) :
    pageCalls.Settled answer (tryCatch p fun _ => unsetReply cmdId body) s ↔
      IsOk (p.play answer s).1 := by
  constructor
  · intro h
    rcases hplay : p.play answer s with ⟨e | a, s', ops⟩
    · have hsent (m : PageMemory D) :
          pageCalls.sent answer (tryCatch p fun _ => unsetReply cmdId body) s m =
            ops.filter pageCalls.sends ++
              pageCalls.sent answer (unsetReply cmdId body) s' m := by
        rw [Calls.sent, play_tryCatch, hp.play_remember, hplay]
        exact List.filter_append ..
      have heq := h (PageMemory.full 0) (PageMemory.full 1)
      rw [hsent, hsent, play_unsetReply, play_unsetReply] at heq
      refine absurd heq (ne_of_packet_ne fun hpacket => hbody ?_)
      exact Option.some.inj (PageOp.sendPacket.inj hpacket).2
    · exact ⟨a, rfl⟩
  · exact fun hok => Calls.settled_of_steady (.tryCatch_of_ok hp hok)

/-! ### The four handlers that read memory -/

section Cases

open Pages

variable [Double D] (text : JsonParser D) (jsonBody : String)

/-- The `try` of `handleCheckoutInfo`. -/
def checkoutTry : Page D Unit := do
  let req ← Page.parse text jsonBody
  let userId ← Page.getOr text req "userId" ""
  let storeId ← Page.getOr text req "storeId" (0 : Int32)
  let res ← Page.db (OrderHandler.checkoutUser userId { status := 200 })
  let res ← Page.db (OrderHandler.checkoutStore storeId res)
  let appliedDeliveryFee := if res.customerGrade = "와우" then 0 else res.deliveryFee
  Page.reply CmdID.RES_CHECKOUT_INFO (Dto.ResCheckoutInfoDTO.toJson { res with appliedDeliveryFee })

theorem settled_checkoutInfo :
    pageCalls.Settled answer (OrderHandler.handleCheckoutInfo text jsonBody) s ↔
      IsOk ((checkoutTry text jsonBody).play answer s).1 := by
  have hp : (checkoutTry text jsonBody).Avoids pageCalls.reads := by
    refine .bind (avoids_parse _ _) fun req => .bind (avoids_getOr _ _ _ _) fun userId => ?_
    refine .bind (avoids_getOr _ _ _ _) fun storeId => .bind (avoids_db _) fun user => ?_
    exact .bind (avoids_db _) fun res => avoids_sendPacket _ _
  refine settled_iff_returns hp CmdID.RES_CHECKOUT_INFO (fun userPoint appliedDeliveryFee
    minOrderAmount deliveryFee totalPrice => Dto.ResCheckoutInfoDTO.toJson
      { status := 500, userPoint, appliedDeliveryFee, minOrderAmount, deliveryFee, totalPrice }) ?_
  intro heq
  have hpoint := congrArg (Json.find · "userPoint") heq
  exact absurd (LawfulCodec.encode_inj.mp (Option.some.inj hpoint)) (by decide)

/-- The `try` of `handleOrderDetail`. -/
def receiptTry : Page D Unit := do
  let req ← Page.parse text jsonBody
  let orderId ← Page.value text req "orderId" ""
  if orderId = "" then
    throw (.std "주문 번호가 누락되었습니다.")
  else
    match ← Page.db (OrderHandler.findReceipt orderId) with
    | none => throw (.std "해당 주문을 찾을 수 없습니다.")
    | some receipt =>
      let items ← Page.db (OrderHandler.receiptItems text.toJsonText orderId)
      Page.sendPacket CmdID.RES_ORDER_DETAIL (OrderHandler.orderDetail orderId receipt items)

theorem settled_orderDetail :
    pageCalls.Settled answer (Pages.OrderHandler.handleOrderDetail text jsonBody) s ↔
      IsOk ((receiptTry text jsonBody).play answer s).1 := by
  have hp : (receiptTry text jsonBody).Avoids pageCalls.reads := by
    refine .bind (avoids_parse _ _) fun req => .bind (avoids_value _ _ _ _) fun orderId => ?_
    refine .ite (.throw _) (.bind (avoids_db _) fun found => ?_)
    cases found with
    | none => exact .throw _
    | some receipt => exact .bind (avoids_db _) fun items => avoids_sendPacket _ _
  refine settled_iff_returns hp CmdID.RES_ORDER_DETAIL (fun totalMenuPrice deliveryFee
    couponDiscount wowDiscount totalPrice => .object
      [("status", encode (1 : Int32)), ("orderId", encode ""), ("storeName", encode ""),
       ("createdAt", encode ""), ("paymentMethod", encode ""), ("deliveryAddress", encode ""),
       ("totalMenuPrice", encode totalMenuPrice), ("deliveryFee", encode deliveryFee),
       ("couponDiscount", encode couponDiscount), ("wowDiscount", encode wowDiscount),
       ("totalPrice", encode totalPrice), ("items", .array [])]) ?_
  intro heq
  have hprice := congrArg (Json.find · "totalPrice") heq
  exact absurd (LawfulCodec.encode_inj.mp (Option.some.inj hprice)) (by decide)

/-- What `declaredStore` finds in memory. -/
def PageMemory.store (m : PageMemory D) : StoreMemory D :=
  ⟨m 0 (.uninitialised .int) rfl, m 1 (.uninitialised .bool) rfl, m 2 (.uninitialised .int) rfl,
    m 3 (.uninitialised .double) rfl, m 4 (.uninitialised .int) rfl⟩

/-- The reads of `declaredStore`. -/
def declaredCalls : List (PageOp D) :=
  [Scalar.int, .bool, .int, .double, .int].map PageOp.uninitialised

theorem play_declaredStore (m : PageMemory D) :
    StoreHandler.declaredStore.play (Memory.remember pageCalls.reads answer) (s, m) =
      (.ok m.store.declared, (s, m.drop 5), declaredCalls) := by
  simp only [StoreHandler.declaredStore, play_bind, play_uninitialised,
    play_uninitialisedBool, play_uninitialisedDouble, PageMemory.drop_drop]
  rfl

/-- The reply with the details of a store. -/
def detailReply (storeId : Int32) : Page D Unit := do
  let storeData ← StoreHandler.declaredStore
  let storeDetailRes ← Page.db (Pages.StoreDAO.getStoreDetail text.toJsonText storeData storeId)
  Page.reply CmdID.RES_STORE_DETAIL storeDetailRes.toJson

/-- The reply, when `getStoreDetail` returns `detail` to what is declared in memory `m`. -/
theorem play_detailReply {storeId : Int32} {m : PageMemory D} {detail : Dto.ResStoreDetailDTO D}
    {s' : σ} {ops : List (PageOp D)}
    (hplay : (Page.db (Pages.StoreDAO.getStoreDetail text.toJsonText m.store.declared
      storeId)).play answer s = (.ok detail, s', ops)) :
    (detailReply text storeId).play (Memory.remember pageCalls.reads answer) (s, m) =
      ((answer s' (.sendPacket CmdID.RES_STORE_DETAIL (some detail.toJson))).1,
        ((answer s' (.sendPacket CmdID.RES_STORE_DETAIL (some detail.toJson))).2, m.drop 5),
        declaredCalls ++ (ops ++ [.sendPacket CmdID.RES_STORE_DETAIL (some detail.toJson)])) := by
  have hread (k : PageMemory D) :
      (Page.db (Pages.StoreDAO.getStoreDetail text.toJsonText m.store.declared storeId)).play
        (Memory.remember pageCalls.reads answer) (s, k) = (.ok detail, (s', k), ops) := by
    rw [(avoids_db _).play_remember, hplay]
  unfold detailReply
  simp only [play_bind, play_declaredStore, hread, play_sendPacket]
  rfl

/-- There is none, when `getStoreDetail` throws. -/
theorem play_detailReply_error {storeId : Int32} {m : PageMemory D} {e : Exn} {s' : σ}
    {ops : List (PageOp D)}
    (hplay : (Page.db (Pages.StoreDAO.getStoreDetail text.toJsonText m.store.declared
      storeId)).play answer s = (.error e, s', ops)) :
    (detailReply text storeId).play (Memory.remember pageCalls.reads answer) (s, m) =
      (.error e, (s', m.drop 5), declaredCalls ++ ops) := by
  have hread (k : PageMemory D) :
      (Page.db (Pages.StoreDAO.getStoreDetail text.toJsonText m.store.declared storeId)).play
        (Memory.remember pageCalls.reads answer) (s, k) = (.error e, (s', k), ops) := by
    rw [(avoids_db _).play_remember, hplay]
  unfold detailReply
  rw [play_bind, play_declaredStore]
  simp only [play_bind, hread]
  rfl

/-- The details are the same with any memory exactly if the store's row is found and read. -/
theorem settled_detailReply (storeId : Int32) {h : Exn → Page D Unit}
    (hh : ∀ e, (h e).Avoids pageCalls.reads) :
    pageCalls.Settled answer (tryCatch (detailReply text storeId) h) s ↔
      ¬Unfilled ((Page.db (storeFound storeId)).play answer s).1 := by
  have steady (hp : (detailReply text storeId).Steady pageCalls.reads answer s) :
      pageCalls.Settled answer (tryCatch (detailReply text storeId) h) s :=
    Calls.settled_of_steady (hp.tryCatch fun e _ => .of_avoids (hh e))
  have hfills : Fills answer _ _ _ := fills_readDetail text.toJsonText storeId
  obtain ⟨G', s', ops, hplay, hunfilled, hfilled⟩ | ⟨hfilled, e, s', ops, hplay⟩ := hfills s
  · constructor
    · intro hsame hun
      have hsent (m : PageMemory D) : ∃ rest,
          pageCalls.sent answer (tryCatch (detailReply text storeId) h) s m =
            (declaredCalls ++ ops).filter pageCalls.sends ++
              .sendPacket CmdID.RES_STORE_DETAIL (some (G' m.store).toJson) :: rest :=
        Calls.sent_tryCatch (c := pageCalls) rfl (play_detailReply text (hplay m.store))
          (List.append_assoc ..).symm h
      -- A memory of zeros and a memory of ones show as two counts of reviews.
      obtain ⟨rest, hzero⟩ := hsent (PageMemory.full 0)
      obtain ⟨rest', hone⟩ := hsent (PageMemory.full 1)
      have heq := hsame (PageMemory.full 0) (PageMemory.full 1)
      rw [hzero, hone] at heq
      refine ne_of_packet_ne (fun hpacket => ?_) heq
      have hjson := Option.some.inj (PageOp.sendPacket.inj hpacket).2
      have hcount := congrArg (fun j => (j.find "storeData").bind (Json.find · "reviewCount")) hjson
      have hsame := LawfulCodec.encode_inj.mp (Option.some.inj hcount)
      rw [hunfilled hun, hunfilled hun] at hsame
      exact absurd hsame (show (0 : Int32) ≠ 1 by decide)
    · intro hfound
      obtain ⟨d, hd⟩ : ∃ d, ∀ m, G' m = d :=
        ⟨_, fun m => hfilled hfound m ⟨0, false, 0, Double.zero, 0⟩⟩
      have hread (m : StoreMemory D) : (Page.db (Pages.StoreDAO.getStoreDetail text.toJsonText
          m.declared storeId)).play answer s = (.ok d, s', ops) := hd m ▸ hplay m
      exact steady ⟨_, _, _, fun m => ⟨_, play_detailReply text (hread (PageMemory.store m))⟩⟩
  · refine ⟨fun _ => hfilled, fun _ => steady ⟨.error e, s', declaredCalls ++ ops, fun m => ?_⟩⟩
    exact ⟨PageMemory.drop m 5, play_detailReply_error text (hplay (PageMemory.store m))⟩

/-- A decoded request of `handleStoreDetailReq` that is answered with the details. -/
theorem settled_storeDetail :
    pageCalls.Settled answer (StoreHandler.handleStoreDetailReq text jsonBody) s ↔
      ∀ req, text.readAs Dto.ReqStoreDetailDTO.fromJson jsonBody = .ok req → req.storeId ≠ 0 →
        ¬Unfilled ((Page.db (storeFound req.storeId)).play answer s).1 := by
  let failed : Exn → Page D Unit := fun _ =>
    Page.reply CmdID.RES_STORE_DETAIL (Dto.statusMessage 500 "서버 내부 오류")
  have hfailed (e : Exn) : (failed e).Avoids (pageCalls (D := D)).reads := avoids_sendPacket _ _
  have hhandler : StoreHandler.handleStoreDetailReq text jsonBody =
      tryCatch (Page.ofExcept (text.readAs Dto.ReqStoreDetailDTO.fromJson jsonBody) >>= fun req =>
        if req.storeId = 0 then
          Page.reply CmdID.RES_STORE_DETAIL (Dto.statusMessage 400 "storeId가 누락되었습니다.")
        else detailReply text req.storeId) failed := by
    unfold StoreHandler.handleStoreDetailReq Page.parse JsonParser.readAs
    cases text.read jsonBody with
    | error e => rfl
    | ok j =>
      cases text.convert (Dto.ReqStoreDetailDTO.fromJson j) with
      | error e => rfl
      | ok req => rfl
  rw [hhandler]
  rcases text.readAs Dto.ReqStoreDetailDTO.fromJson jsonBody with e | req
  · exact iff_of_true (Calls.settled_of_steady (.of_avoids (.tryCatch (.throw _) hfailed)))
      fun _ h => nomatch h
  · have hreq : (∀ req', (.ok req : Except String Dto.ReqStoreDetailDTO) = .ok req' →
        req'.storeId ≠ 0 → ¬Unfilled ((Page.db (storeFound req'.storeId)).play answer s).1) ↔
        (req.storeId ≠ 0 → ¬Unfilled ((Page.db (storeFound req.storeId)).play answer s).1) :=
      ⟨fun h => h req rfl, fun h req' heq => Except.ok.inj heq ▸ h⟩
    show pageCalls.Settled answer (tryCatch (if req.storeId = 0 then _ else _) failed) s ↔ _
    rw [hreq]
    by_cases hzero : req.storeId = 0
    · rw [if_pos hzero]
      exact iff_of_true (Calls.settled_of_steady (.of_avoids (.tryCatch (avoids_sendPacket _ _)
        hfailed))) fun h => absurd hzero h
    · rw [if_neg hzero, settled_detailReply text req.storeId hfailed]
      exact ⟨fun h _ => h, fun h => h hzero⟩

end Cases

end Sent

/-! ### The call of the riders -/

section CookTime

open Handler StatusHandler

variable {online : ℤ → Bool}

/-- `handleCookTimeSet` up to the declaration of the call. -/
def callAddress (body : Except String ReqCookTimeSetDTO) :
    StatusHandler (ReqCookTimeSetDTO × String) := do
  let req ← Prog.ofExcept body
  prepareStatement.lift
  let row ← selectTimes req.orderId
  let net ← Prog.ofExcept (OrderHandler.netDeliveryTime row)
  let totalEstimatedTime := req.cookTime + net
  (sendPacket { cmdId := CmdID.RES_COOK_TIME_SET, status := 200,
                message := "조리 시간이 성공적으로 설정되었습니다." }).lift
  let customerId ← (getCustomerIdByOrderId req.orderId).lift
  (notify customerId (.orderState req.orderId 1
    ("사장님이 조리를 시작했습니다! (약 " ++ toString totalEstimatedTime ++ "분 내 도착 예정 🛵)"))).lift
  let _ ← (getStoreIdByOrderId req.orderId).lift
  let deliveryAddress ← StatusHandler.getDeliveryAddressByOrderId req.orderId
  pure (req, deliveryAddress)

/-- The call, with the address and what its `totalPrice` holds. -/
def deliveryCall (call : ReqCookTimeSetDTO × String) (totalPrice : ℤ) : NotifyDeliveryCallDTO where
  orderId := call.1.orderId
  pickupAddress := ""
  deliveryAddress := call.2
  deliveryFee := 3500
  menuSummary := "조리 완료까지 " ++ toString call.1.cookTime ++ "분 남음"
  totalPrice

/-- The rest of it: the riders are called, with whatever is found for the price. -/
def callRiders (call : ReqCookTimeSetDTO × String) : StatusHandler Unit := do
  let totalPrice ← StatusHandler.uninitialised
  StatusHandler.broadcastToRole 2 (deliveryCall call totalPrice)

/-- The reply to a call that has thrown. -/
def cookTimeFailed : StatusHandler Unit :=
  (sendPacket { cmdId := CmdID.RES_COOK_TIME_SET, status := 500,
                message := "서버 내부 오류로 설정에 실패했습니다." }).lift

theorem handleCookTimeSet_eq (body : Except String ReqCookTimeSetDTO) :
    OrderHandler.handleCookTimeSet body =
      tryCatch (callAddress body >>= callRiders) fun _ => cookTimeFailed := by
  unfold callAddress
  simp only [Prog.bind_assoc]
  rfl

theorem avoids_callAddress (body : Except String ReqCookTimeSetDTO) :
    (callAddress body).Avoids (statusCalls online).reads := by
  refine .bind (.ofExcept _) fun req => .bind (avoids_lift _) fun _ => .bind (.op rfl) fun row => ?_
  refine .bind (.ofExcept _) fun net => .bind (avoids_lift _) fun _ => ?_
  refine .bind (avoids_lift _) fun customerId => .bind (avoids_lift _) fun _ => ?_
  exact .bind (avoids_lift _) fun _ => .bind (.op rfl) fun _ => .pure _

/-- `StatusOp.uninitialised` finds one number. -/
def numberMemory (n : ℤ) : Memory StatusOp.Res (statusCalls online).reads := fun _ o h =>
  match o, h with
  | .uninitialised, _ => n

section Riders

variable {σ : Type} {answer : σ → (o : StatusOp) → Except String o.Res × σ} {s s' : σ}

/-- The call, and the number it is made with. -/
theorem play_callRiders (call : ReqCookTimeSetDTO × String)
    (m : Memory StatusOp.Res (statusCalls online).reads) :
    (callRiders call).play (Memory.remember (statusCalls online).reads answer) (s, m) =
      ((answer s (.broadcastToRole 2 (deliveryCall call (m 0 .uninitialised rfl)))).1,
        ((answer s (.broadcastToRole 2 (deliveryCall call (m 0 .uninitialised rfl)))).2,
          fun n => m (n + 1)),
        [.uninitialised, .broadcastToRole 2 (deliveryCall call (m 0 .uninitialised rfl))]) := by
  refine (play_bind _ _).trans ?_
  rw [StatusHandler.uninitialised, play_op,
    Memory.remember_of_reads (show (statusCalls online).reads .uninitialised = true from rfl)]
  refine (congrArg (Prod.map id (Prod.map id _)) (play_op _)).trans ?_
  rw [Memory.remember_of_not
    (show (statusCalls online).reads (.broadcastToRole 2 _) = false from rfl)]
  rfl

/-- The whole `try`, when it gets as far as the call. -/
theorem play_callAddress {body : Except String ReqCookTimeSetDTO}
    {call : ReqCookTimeSetDTO × String} {ops : List StatusOp}
    (hplay : (callAddress body).play answer s = (.ok call, s', ops))
    (m : Memory StatusOp.Res (statusCalls online).reads) :
    (callAddress body >>= callRiders).play (Memory.remember (statusCalls online).reads answer)
        (s, m) =
      ((callRiders call).play (Memory.remember (statusCalls online).reads answer) (s', m)).map id
        (Prod.map id (ops ++ ·)) := by
  rw [play_bind, (avoids_callAddress body).play_remember, hplay]

/-- Without riders, the call sends nothing. -/
theorem sent_offline (honline : online 2 = false)
    (hidle : ∀ s notice, answer s (.broadcastToRole 2 notice) = (.ok (), s))
    {body : Except String ReqCookTimeSetDTO} {call : ReqCookTimeSetDTO × String}
    {ops : List StatusOp} (hplay : (callAddress body).play answer s = (.ok call, s', ops))
    (m : Memory StatusOp.Res (statusCalls online).reads) :
    (statusCalls online).sent answer
        (tryCatch (callAddress body >>= callRiders) fun _ => cookTimeFailed) s m =
      ops.filter (statusCalls online).sends := by
  rw [Calls.sent, play_tryCatch, play_callAddress hplay, play_callRiders, hidle s']
  have hcall : [StatusOp.uninitialised, .broadcastToRole 2 (deliveryCall call
      (m 0 .uninitialised rfl))].filter (statusCalls online).sends = [] := by
    simp [statusCalls, honline]
  exact (List.filter_append ..).trans (by rw [hcall, List.append_nil])

/-- The riders are called with whatever is in memory. -/
theorem settled_cookTimeSet
    (hidle : ∀ s notice, online 2 = false → answer s (.broadcastToRole 2 notice) = (.ok (), s))
    (body : Except String ReqCookTimeSetDTO) :
    (statusCalls online).Settled answer (OrderHandler.handleCookTimeSet body) s ↔
      ¬(IsOk ((callAddress body).play answer s).1 ∧ online 2 = true) := by
  rw [handleCookTimeSet_eq]
  rcases hplay : (callAddress body).play answer s with ⟨e | call, s', ops⟩
  · refine iff_of_true (Calls.settled_of_steady (.tryCatch ?_ fun e _ =>
      .of_avoids (avoids_lift _))) fun h => not_isOk_error e h.1
    refine ⟨.error e, s', ops, fun m => ⟨m, ?_⟩⟩
    rw [play_bind, (avoids_callAddress body).play_remember, hplay]
  · cases honline : online 2 with
    | false =>
      have hsent := sent_offline honline (fun s notice => hidle s notice honline) hplay
      exact iff_of_true (fun m m' => (hsent m).trans (hsent m').symm)
        fun h => Bool.false_ne_true h.2
    | true =>
      refine iff_of_false (fun hsame => ?_) fun h => h ⟨⟨call, rfl⟩, rfl⟩
      have hsent (m : Memory StatusOp.Res (statusCalls online).reads) : ∃ tail,
          (statusCalls online).sent answer
              (tryCatch (callAddress body >>= callRiders) fun _ => cookTimeFailed) s m =
            (ops ++ [StatusOp.uninitialised]).filter (statusCalls online).sends ++
              .broadcastToRole 2 (deliveryCall call (m 0 .uninitialised rfl)) :: tail :=
        Calls.sent_tryCatch honline
          ((play_callAddress hplay m).trans (congrArg (Prod.map id _) (play_callRiders call m)))
          (List.append_assoc ops [_] [_]).symm _
      -- The riders are told two prices.
      obtain ⟨tail, hzero⟩ := hsent (numberMemory 0)
      obtain ⟨tail', hone⟩ := hsent (numberMemory 1)
      have heq := hsame (numberMemory 0) (numberMemory 1)
      rw [hzero, hone] at heq
      refine ne_of_packet_ne (fun hpacket => ?_) heq
      have hprice := congrArg NotifyDeliveryCallDTO.totalPrice
        (StatusOp.broadcastToRole.inj hpacket).2
      exact absurd hprice (show (0 : ℤ) ≠ 1 by decide)

end Riders

end CookTime

/-! ### Any handler -/

namespace HandlerCall

variable [Double D] (text : JsonParser D) (jsonBody : String) {σ : Type}

/-- Surroundings that are determined: what each call comes to in each state. -/
abbrev Surroundings (σ : Type) (h : HandlerCall) : Type :=
  σ → (o : (h.task text jsonBody).Op) →
    Except (h.task text jsonBody).ε ((h.task text jsonBody).Res o) × σ

/-- No packet is made of a member that is not set: the two error replies are not sent, the store is
found and its row read, and nobody waits for the call of the riders or it is not reached. -/
def Determined (online : ℤ → Bool) : (h : HandlerCall) → h.Surroundings text jsonBody σ → σ → Prop
  | command .checkoutInfo, answer, s => IsOk ((checkoutTry text jsonBody).play answer s).1
  | command .orderDetail, answer, s => IsOk ((receiptTry text jsonBody).play answer s).1
  | command .storeDetail, answer, s =>
    ∀ req, text.readAs Dto.ReqStoreDetailDTO.fromJson jsonBody = .ok req → req.storeId ≠ 0 →
      ¬Unfilled ((Page.db (storeFound req.storeId)).play answer s).1
  | command .cookTimeSet, answer, s =>
    ¬(IsOk ((callAddress (text.readAs Dispatcher.cookTimeSetReq jsonBody)).play answer s).1 ∧
      online 2 = true)
  | _, _, _ => True

/-- **Packets of inputs.** In the same surroundings a handler sends the same, whatever is in memory,
exactly if no packet is made of a member that is not set. -/
theorem settled_iff (online : ℤ → Bool) (h : HandlerCall) (answer : h.Surroundings text jsonBody σ)
    (s : σ) :
    (h.calls text jsonBody online).Settled ((h.calls text jsonBody online).answers answer)
      (h.task text jsonBody).handler s ↔
      h.Determined text jsonBody online ((h.calls text jsonBody online).answers answer) s := by
  have avoided (hdetail : h ≠ .command .storeDetail) (hcheckout : h ≠ .command .checkoutInfo)
      (hreceipt : h ≠ .command .orderDetail) (hcook : h ≠ .command .cookTimeSet) :
      (h.calls text jsonBody online).Settled ((h.calls text jsonBody online).answers answer)
        (h.task text jsonBody).handler s :=
    Calls.settled_of_steady (.of_avoids (h.avoids text jsonBody hdetail hcheckout hreceipt hcook))
  cases h with
  | category | chatClose | requestOk =>
    exact iff_of_true (avoided (by simp) (by simp) (by simp) (by simp)) trivial
  | command c =>
    cases c with
    | checkoutInfo => exact settled_checkoutInfo text jsonBody
    | orderDetail => exact settled_orderDetail text jsonBody
    | storeDetail => exact settled_storeDetail text jsonBody
    | cookTimeSet =>
      refine settled_cookTimeSet (fun s notice honline => Calls.answers_of_idle ?_) _
      exact if_neg (honline ▸ Bool.false_ne_true)
    | _ => exact iff_of_true (avoided (by simp) (by simp) (by simp) (by simp)) trivial

open Command in
/-- A body that does not parse is answered with what is in memory. -/
theorem not_settled_checkoutInfo :
    ¬((command .checkoutInfo).calls sampleText "" fun _ => true).Settled
      (((command .checkoutInfo).calls sampleText "" fun _ => true).answers
        fun _ o => (.ok (Pages.oneRow o), ()))
      ((command .checkoutInfo).task sampleText "").handler () := by
  intro hsettled
  obtain ⟨a, ha⟩ := (settled_checkoutInfo sampleText "").mp hsettled
  cases ha

end HandlerCall

end ItsBedalyo
