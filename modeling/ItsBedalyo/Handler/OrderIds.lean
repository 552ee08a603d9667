import ItsBedalyo.Handler.OrderHandler
import ItsBedalyo.Lib.Decimal
import ItsBedalyo.Lib.Faults

/-!
# The ids of orders

`handleCreateOrder` builds an id from a prefix, the second, three digits of `rand` and the user's
id: 23 characters and the user's id, for a column of 50 (`order_id VARCHAR(50)`) and user ids of
up to 50. The parts before the user's id have fixed widths, so that an id tells what it was built
from, whatever the user's id looks like.
-/

namespace ItsBedalyo

open Decimal Prog

/-- A date and time of day with a year of four digits, as `localtime` gives them. -/
structure Clock where
  year : ℕ
  month : ℕ
  day : ℕ
  hour : ℕ
  minute : ℕ
  second : ℕ
  year_range : 1000 ≤ year ∧ year ≤ 9999 := by decide
  month_range : 1 ≤ month ∧ month ≤ 12 := by decide
  day_range : 1 ≤ day ∧ day ≤ 31 := by decide
  hour_range : hour ≤ 23 := by decide
  minute_range : minute ≤ 59 := by decide
  second_range : second ≤ 60 := by decide

namespace Clock

/-- `%Y%m%d%H%M%S`. -/
def compact (c : Clock) : List Char :=
  padded 4 c.year ++ (padded 2 c.month ++ (padded 2 c.day ++ (padded 2 c.hour ++
    (padded 2 c.minute ++ padded 2 c.second))))

/-- `%Y-%m-%d %H:%M:%S`. -/
def display (c : Clock) : List Char :=
  padded 4 c.year ++ '-' :: (padded 2 c.month ++ '-' :: (padded 2 c.day ++ ' ' ::
    (padded 2 c.hour ++ ':' :: (padded 2 c.minute ++ ':' :: padded 2 c.second))))

/-- What `strftime` prints. -/
def localTime (c : Clock) : LocalTime where
  compact := String.ofList c.compact
  display := String.ofList c.display
  digits := by
    rw [String.toList_ofList, List.all_eq_true]
    intro d hd
    simp only [compact, List.mem_append] at hd
    rcases hd with hd | hd | hd | hd | hd | hd <;> exact isDigit_of_mem_padded hd

variable {c c' : Clock}

theorem length_compact (c : Clock) : c.compact.length = 14 := by
  have hyear := c.year_range
  have hmonth := c.month_range
  have hday := c.day_range
  have hhour := c.hour_range
  have hminute := c.minute_range
  have hsecond := c.second_range
  simp only [compact, List.length_append]
  rw [length_padded (by decide) (by omega), length_padded (by decide) (by omega),
    length_padded (by decide) (by omega), length_padded (by decide) (by omega),
    length_padded (by decide) (by omega), length_padded (by decide) (by omega)]

/-- The digits tell the second. -/
theorem compact_inj (h : c.compact = c'.compact) : c = c' := by
  obtain ⟨year, month, day, hour, minute, second, hyear, hmonth, hday, hhour, hminute, hsecond⟩ := c
  obtain ⟨year', month', day', hour', minute', second', hyear', hmonth', hday', hhour', hminute',
    hsecond'⟩ := c'
  dsimp only [compact] at h
  obtain ⟨rfl, h₁⟩ := padded_append_inj (by decide) (by omega) (by omega) h
  obtain ⟨rfl, h₂⟩ := padded_append_inj (by decide) (by omega) (by omega) h₁
  obtain ⟨rfl, h₃⟩ := padded_append_inj (by decide) (by omega) (by omega) h₂
  obtain ⟨rfl, h₄⟩ := padded_append_inj (by decide) (by omega) (by omega) h₃
  obtain ⟨rfl, h₅⟩ := padded_append_inj (by decide) (by omega) (by omega) h₄
  obtain rfl := padded_inj h₅
  rfl

end Clock

namespace OrderHandler

/-- `newOrderId`. -/
def newOrderId (now : LocalTime) (randomNum : ℕ) (userId : String) : String :=
  "ORD-" ++ now.compact ++ "-" ++ pad3 (randomNum % 1000) ++ "-" ++ userId

variable {c c' : Clock} {n n' : ℕ} {userId userId' : String}

theorem toList_pad3 (n : ℕ) : (pad3 n).toList = padded 3 n := String.toList_ofList

theorem toList_newOrderId (now : LocalTime) (n : ℕ) (userId : String) :
    (newOrderId now n userId).toList = ['O', 'R', 'D', '-'] ++ (now.compact.toList ++
      ('-' :: (padded 3 (n % 1000) ++ '-' :: userId.toList))) := by
  simp [newOrderId, toList_pad3]

theorem length_newOrderId (c : Clock) (n : ℕ) (userId : String) :
    (newOrderId c.localTime n userId).length = 23 + userId.length := by
  have hrandom : n % 1000 < 10 ^ 3 := Nat.mod_lt n (by decide)
  rw [← String.length_toList, toList_newOrderId, Clock.localTime, String.toList_ofList,
    ← String.length_toList]
  simp only [List.length_append, List.length_cons, List.length_nil, Clock.length_compact,
    length_padded (by decide : 0 < 3) hrandom]
  omega

/-- An id tells its parts. -/
theorem newOrderId_inj (h : newOrderId c.localTime n userId = newOrderId c'.localTime n' userId') :
    c = c' ∧ n % 1000 = n' % 1000 ∧ userId = userId' := by
  have hlists := congrArg String.toList h
  rw [toList_newOrderId, toList_newOrderId, Clock.localTime, Clock.localTime, String.toList_ofList,
    String.toList_ofList] at hlists
  have hrest := List.append_cancel_left hlists
  have hlength : c.compact.length = c'.compact.length := by
    rw [Clock.length_compact, Clock.length_compact]
  obtain ⟨hclock, hrest⟩ := List.append_inj hrest hlength
  obtain ⟨hrandom, huser⟩ := padded_append_inj (by decide) (Nat.mod_lt n (by decide))
    (Nat.mod_lt n' (by decide)) (List.cons.inj hrest).2
  exact ⟨Clock.compact_inj hclock, hrandom, String.toList_inj.mp (List.cons.inj huser).2⟩

/-! ### The id a call inserts -/

/-- The id of the order that an operation inserts. -/
def insertedId : Op → Option String
  | .executeUpdate (.insertOrder orderId _) => some orderId
  | _ => none

/-- The ids of the orders that a call inserts when no operation throws. -/
def insertedIds (answer : (o : Op) → o.Res) (body : Except String OrderCreateReqDTO) :
    List String :=
  ((handleCreateOrder body).eval answer).2.filterMap insertedId

variable (answer : (o : Op) → o.Res)

/-- Looking up option names inserts no order. -/
theorem eval_optionNames (menuId : ℤ) (opts : List (Option ℤ)) :
    ∃ names ops, (optionNames menuId opts).eval answer = (.ok names, ops) ∧
      ops.filterMap insertedId = [] := by
  induction opts with
  | nil => exact ⟨[], [], rfl, rfl⟩
  | cons opt opts ih =>
    cases opt with
    | none => exact ih
    | some optId =>
      obtain ⟨names, ops, heval, hops⟩ := ih
      have hcons : (optionNames menuId (some optId :: opts)).eval answer =
          (.ok (if answer (.query (.getOptionName menuId optId)) ≠ ""
            then answer (.query (.getOptionName menuId optId)) :: names else names),
          .query (.getOptionName menuId optId) :: ops) := by
        simp [optionNames, Handler.getOptionName, heval]
      exact ⟨_, _, hcons, hops⟩

/-- The loop over the items inserts no order. -/
theorem eval_insertItems (orderId : String) (items : List OrderItemDTO) :
    ∃ pushItems ops, (insertItems orderId items).eval answer = (.ok pushItems, ops) ∧
      ops.filterMap insertedId = [] := by
  induction items with
  | nil => exact ⟨[], [], rfl, rfl⟩
  | cons item items ih =>
    obtain ⟨pushItems, ops, heval, hops⟩ := ih
    obtain ⟨names, lookups, hnames, hlookups⟩ :=
      eval_optionNames answer item.menuId (item.selectedOptions.getD [])
    simp only [insertItems, Handler.getMenuName, Handler.executeUpdate, eval_bind, eval_op, hnames,
      heval, eval_pure]
    refine ⟨_, _, rfl, ?_⟩
    simp only [List.filterMap_append, List.filterMap_cons, List.singleton_append, hlookups, hops,
      insertedId, List.append_nil]

/-- A call inserts one order, whose id is built from the clock, `rand` and the user's id. -/
theorem insertedIds_ok (req : OrderCreateReqDTO) :
    insertedIds answer (.ok req) =
      [newOrderId (answer .localtime) (answer .rand) req.userId] := by
  obtain ⟨pushItems, ops, heval, hops⟩ := eval_insertItems answer
    (newOrderId (answer .localtime) (answer .rand) req.userId) req.items
  unfold newOrderId at heval ⊢
  simp only [insertedIds, handleCreateOrder, Handler.getDeliveryFee, Handler.setAutoCommit,
    Handler.localtime, Handler.rand, Handler.prepareStatement, Handler.executeUpdate,
    Handler.commit, Handler.sendPacket, Handler.getOwnerIdByStoreId, Handler.notify, eval_tryCatch,
    eval_bind, eval_ofExcept, eval_op, heval]
  by_cases howner : answer (.query (.getOwnerIdByStoreId req.storeId)) = ""
  · simp only [howner, ne_eq, not_true_eq_false, if_false, eval_pure, Prod.map, id,
      List.filterMap_append, hops, List.singleton_append, List.filterMap_cons, insertedId,
      List.nil_append, List.append_nil, List.filterMap_nil]
  · simp only [howner, ne_eq, not_false_eq_true, if_true, Handler.sendToUser, eval_op, Prod.map, id,
      List.filterMap_append, hops, List.singleton_append, List.filterMap_cons, insertedId,
      List.nil_append, List.append_nil, List.filterMap_nil]

/-- **An id fits its column, and tells the second, the random part and the user, exactly when
the user's id has at most 27 characters.** -/
theorem insertedIds_fit_iff (req : OrderCreateReqDTO) (c : Clock)
    (hnow : answer .localtime = c.localTime)
    (huser : 1 ≤ req.userId.length ∧ req.userId.length ≤ 50) :
    ∃ orderId, insertedIds answer (.ok req) = [orderId] ∧
      ((orderId.length ≤ 50 ∧
        ∀ (answer' : (o : Op) → o.Res) (req' : OrderCreateReqDTO) (c' : Clock),
          answer' .localtime = c'.localTime → insertedIds answer' (.ok req') = [orderId] →
            c = c' ∧ (answer .rand : ℕ) % 1000 = (answer' .rand : ℕ) % 1000 ∧
              req.userId = req'.userId) ↔
        req.userId.length ≤ 27) := by
  refine ⟨_, insertedIds_ok answer req, ?_⟩
  rw [hnow, length_newOrderId]
  constructor
  · rintro ⟨hfits, -⟩
    omega
  · intro hshort
    refine ⟨by omega, fun answer' req' c' hnow' hids => ?_⟩
    rw [insertedIds_ok, hnow'] at hids
    exact newOrderId_inj (List.cons.inj hids).1.symm

/-- Database, clock and `rand` at half past noon. -/
def halfPastNoon : (o : Op) → o.Res
  | .localtime => Clock.localTime ⟨2026, 3, 17, 12, 30, 0, by decide, by decide, by decide,
      by decide, by decide, by decide⟩
  | .rand => 41042
  | .executeUpdate _ => (1 : ℕ)
  | .query (.getCustomerIdByOrderId _) => ("minji" : String)
  | .query (.getStoreIdByOrderId _) => (3 : ℤ)
  | .query (.getOwnerIdByStoreId _) => ("owner1" : String)
  | .query (.getDeliveryFee _) => (3000 : ℤ)
  | .query (.getMenuName _) => ("김치찌개" : String)
  | .query (.getOptionName _ _) => ("곱빼기" : String)
  | .setAutoCommit _ | .prepareStatement | .commit | .rollback => ()
  | .sendPacket _ | .sendToUser _ _ => ()

/-- A request of a user. -/
def lunchOf (userId : String) : OrderCreateReqDTO :=
  ⟨userId, 3, 11000, "서울", [⟨7, 1, 8000, some [some 1]⟩], "", ""⟩

theorem insertedIds_fit_minji :
    ∃ orderId, insertedIds halfPastNoon (.ok (lunchOf "minji")) = [orderId] ∧
      orderId.length ≤ 50 := by
  obtain ⟨orderId, hids, hfit⟩ := insertedIds_fit_iff halfPastNoon (lunchOf "minji") _ rfl
    ⟨by decide, by decide⟩
  exact ⟨orderId, hids, (hfit.mpr (by decide)).1⟩

/-- A user id of 28 characters makes an id of 51. -/
theorem insertedIds_mailAddress :
    "minji.kim.1999@bedalyo.co.kr".length ≤ 50 ∧
      ∃ orderId, insertedIds halfPastNoon (.ok (lunchOf "minji.kim.1999@bedalyo.co.kr")) =
        [orderId] ∧ orderId.length = 51 :=
  ⟨by decide, _, insertedIds_ok _ _, length_newOrderId _ _ _⟩

end OrderHandler

end ItsBedalyo
