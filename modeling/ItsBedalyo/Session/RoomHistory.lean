import ItsBedalyo.Lib.Keys
import ItsBedalyo.Lib.Since
import ItsBedalyo.Lib.Transition
import ItsBedalyo.Session.ChatRoomManager
import Mathlib.Algebra.Group.Nat.Defs

/-!
# The history of the chat rooms

The calls of `ChatRoomManager` in the order in which they hold `roomMutex`, with what they return. A
room is open from the call that creates it to the next one that removes its number. As long as
`nextRoomId` does not leave the range of `int`, the map holds the open rooms and a number is given
once (`neverReused`).
-/

namespace ItsBedalyo

open Transition

/-- A call of `ChatRoomManager`. -/
inductive RoomCall
  | createRoom (customerId adminId : String) (orderId : ℕ)
  | getRoom (roomId : ℤ)
  | getAllRooms
  | removeRoom (roomId : ℤ)

namespace RoomCall

/-- What a call returns. -/
abbrev Res : RoomCall → Type
  | createRoom .. => ℤ
  | getRoom _ => Option ChatRoom
  | getAllRooms => List ChatRoom
  | removeRoom _ => Unit

/-- The rooms after a call; `nextRoomId` is an `int`. -/
def after (m : ChatRoomManager) : RoomCall → ChatRoomManager
  | createRoom customerId adminId orderId =>
    let m' := (m.createRoom customerId adminId orderId).2
    { m' with nextRoomId := Int.bmod m'.nextRoomId (2 ^ 32) }
  | removeRoom roomId => m.removeRoom roomId
  | getRoom _ | getAllRooms => m

/-- A call returns this; the order of `getAllRooms` is that of an `unordered_map`. -/
def Returns (m : ChatRoomManager) : (call : RoomCall) → call.Res → Prop
  | createRoom customerId adminId orderId, roomId =>
    roomId = (m.createRoom customerId adminId orderId).1
  | getRoom roomId, room => room = m.getRoom roomId
  | getAllRooms, rooms => rooms.Perm m.getAllRooms
  | removeRoom _, _ => True

instance (m : ChatRoomManager) : (call : RoomCall) → (r : call.Res) → Decidable (call.Returns m r)
  | createRoom .., _ => inferInstanceAs (Decidable (_ = _))
  | getRoom _, _ => inferInstanceAs (Decidable (_ = _))
  | getAllRooms, _ => inferInstanceAs (Decidable (List.Perm _ _))
  | removeRoom _, _ => inferInstanceAs (Decidable True)

end RoomCall

/-- A call that has returned. -/
structure RoomEvent where
  call : RoomCall
  result : call.Res

namespace RoomEvent

/-- The next call. -/
def step (m : ChatRoomManager) (e : RoomEvent) : Option ChatRoomManager :=
  if e.call.Returns m e.result then some (e.call.after m) else none

theorem step_eq_some {m m' : ChatRoomManager} {e : RoomEvent} :
    step m e = some m' ↔ e.call.Returns m e.result ∧ m' = e.call.after m := by
  rw [step, Option.ite_none_right_eq_some, Option.some.injEq, eq_comm (a := m')]

/-- The number that a call has given. -/
def created : RoomEvent → Option ℤ
  | ⟨.createRoom .., roomId⟩ => some roomId
  | _ => none

/-- The call has created this room. -/
def Opens (room : ChatRoom) (e : RoomEvent) : Prop :=
  e = ⟨.createRoom room.customerId room.adminId room.orderId, room.roomId⟩

/-- The call has removed this number. -/
def Closes (roomId : ℤ) (e : RoomEvent) : Prop := e = ⟨.removeRoom roomId, ()⟩

/-- Every call returns. -/
theorem exists_step (m : ChatRoomManager) (call : RoomCall) :
    ∃ result, step m ⟨call, result⟩ = some (call.after m) := by
  have hreturns : ∃ result, call.Returns m result := by
    cases call with
    | createRoom customerId adminId orderId => exact ⟨m.nextRoomId, rfl⟩
    | getRoom roomId => exact ⟨m.getRoom roomId, rfl⟩
    | getAllRooms => exact ⟨m.getAllRooms, .refl _⟩
    | removeRoom roomId => exact ⟨(), trivial⟩
  obtain ⟨result, hresult⟩ := hreturns
  exact ⟨result, step_eq_some.mpr ⟨hresult, rfl⟩⟩

/-- The calls may come in any order. -/
theorem exists_run (calls : List RoomCall) (m : ChatRoomManager) :
    ∃ history m', history.map RoomEvent.call = calls ∧ run step m history = some m' := by
  induction calls generalizing m with
  | nil => exact ⟨[], m, rfl, rfl⟩
  | cons call calls ih =>
    obtain ⟨result, hs⟩ := exists_step m call
    obtain ⟨history, m', hcalls, hrun⟩ := ih (call.after m)
    exact ⟨⟨call, result⟩ :: history, m', congrArg (call :: ·) hcalls,
      run_cons_eq_some.mpr ⟨_, hs, hrun⟩⟩

end RoomEvent

open RoomEvent

/-- The room has been created and its number has not been removed since. -/
def RoomOpen (history : List RoomEvent) (room : ChatRoom) : Prop :=
  history.Since (Opens room) (Closes room.roomId)

/-- The numbers that have been given, oldest first. -/
def createdIds (history : List RoomEvent) : List ℤ := history.filterMap created

theorem createdIds_concat (history : List RoomEvent) (e : RoomEvent) :
    createdIds (history ++ [e]) = createdIds history ++ e.created.toList := by
  rw [createdIds, List.filterMap_append]
  rcases hcreated : e.created with _ | roomId
  · rw [List.filterMap_cons_none hcreated]
    rfl
  · rw [List.filterMap_cons_some hcreated]
    rfl

theorem length_createdIds_le (past rest : List RoomEvent) :
    (createdIds past).length ≤ (createdIds (past ++ rest)).length := by
  rw [createdIds, createdIds, List.filterMap_append, List.length_append]
  exact Nat.le_add_right _ _

/-- What a history says of its calls. -/
structure NeverReused (history : List RoomEvent) : Prop where
  positive : ∀ roomId ∈ createdIds history, 0 < roomId
  distinct : (createdIds history).Nodup
  /-- `getRoom` returns the open room with the number, and `nullptr` if there is none, -/
  getRoom : ∀ past roomId result rest, history = past ++ ⟨.getRoom roomId, result⟩ :: rest →
    ∀ room, result = some room ↔ RoomOpen past room ∧ room.roomId = roomId
  /-- and `getAllRooms` lists the open rooms, each once. -/
  getAllRooms : ∀ past result rest, history = past ++ ⟨.getAllRooms, result⟩ :: rest →
    (result.map (·.roomId)).Nodup ∧ ∀ room, room ∈ result ↔ RoomOpen past room

/-! ### What the map holds -/

/-- The manager after a history. -/
structure Tracks (history : List RoomEvent) (m : ChatRoomManager) : Prop where
  next : m.nextRoomId = (createdIds history).length + 1
  ids : createdIds history = (List.range (createdIds history).length).map fun i : ℕ => (i : ℤ) + 1
  numbered : m.Numbered
  rooms : ∀ room, room ∈ m.rooms ↔ RoomOpen history room

namespace Tracks

variable {history : List RoomEvent} {m : ChatRoomManager}

theorem init : Tracks [] .init where
  next := rfl
  ids := rfl
  numbered := .init
  rooms _ := iff_of_false List.not_mem_nil List.not_since_nil

/-- The room with a number is found. -/
theorem getRoom_eq_some (h : Tracks history m) {roomId : ℤ} {room : ChatRoom} :
    m.getRoom roomId = some room ↔ RoomOpen history room ∧ room.roomId = roomId := by
  rw [← h.rooms]
  constructor
  · intro hroom
    exact ⟨List.mem_of_find?_eq_some hroom, ChatRoomManager.roomId_of_getRoom hroom⟩
  · rintro ⟨hroom, rfl⟩
    exact List.find?_key_eq h.numbered.nodup hroom

/-- A call that neither creates nor removes a room. -/
theorem skip (h : Tracks history m) {e : RoomEvent} (hcreated : e.created = none)
    (hcloses : ∀ roomId, ¬Closes roomId e) : Tracks (history ++ [e]) m := by
  have hids : createdIds (history ++ [e]) = createdIds history := by
    rw [createdIds_concat, hcreated]
    exact List.append_nil _
  refine ⟨hids ▸ h.next, hids ▸ h.ids, h.numbered, fun room => ?_⟩
  have hopens : ¬Opens room e := by
    rintro rfl
    cases hcreated
  rw [h.rooms, RoomOpen, RoomOpen, List.since_concat, or_iff_right hopens,
    and_iff_left (hcloses room.roomId)]

/-- The next number is the one of no room, open or not. -/
theorem createRoom (h : Tracks history m) (hcount : (createdIds history).length + 2 < 2 ^ 31)
    (customerId adminId : String) (orderId : ℕ) :
    Tracks (history ++ [⟨.createRoom customerId adminId orderId, m.nextRoomId⟩])
      (RoomCall.after m (.createRoom customerId adminId orderId)) := by
  have hids : createdIds (history ++ [⟨.createRoom customerId adminId orderId, m.nextRoomId⟩]) =
      createdIds history ++ [m.nextRoomId] := createdIds_concat ..
  have hnext : (RoomCall.after m (.createRoom customerId adminId orderId)).nextRoomId =
      m.nextRoomId + 1 := by
    have hrange : 0 < m.nextRoomId + 1 ∧ m.nextRoomId + 1 < 2 ^ 31 := by
      have hnext := h.next
      omega
    show Int.bmod (m.nextRoomId + 1) (2 ^ 32) = m.nextRoomId + 1
    exact Int.bmod_eq_of_le_mul_two (by omega) (by omega)
  have hrooms := h.numbered.rooms_createRoom customerId adminId orderId
  have hnumbered := h.numbered.createRoom customerId adminId orderId
  refine ⟨?_, ?_, ⟨fun room hroom => ?_, hnumbered.nodup⟩, fun room => ?_⟩
  · rw [hnext, hids, List.length_append, List.length_singleton, h.next]
    norm_cast
  · rw [hids, List.length_append, List.length_singleton, List.range_succ, List.map_append, ← h.ids,
      h.next]
    rfl
  · rw [hnext]
    exact hnumbered.lt room hroom
  · show room ∈ (m.createRoom customerId adminId orderId).2.rooms ↔ _
    rw [hrooms, List.mem_append, List.mem_singleton, h.rooms, RoomOpen, RoomOpen,
      List.since_concat, or_comm]
    have hopens : Opens room ⟨.createRoom customerId adminId orderId, m.nextRoomId⟩ ↔
        room = ⟨m.nextRoomId, customerId, adminId, orderId⟩ := by
      constructor
      · intro hopens
        obtain ⟨hcall, hresult⟩ := RoomEvent.mk.inj hopens
        obtain ⟨hcustomer, hadmin, horder⟩ := RoomCall.createRoom.inj hcall
        rw [hcustomer, hadmin, horder, eq_of_heq hresult]
      · rintro rfl
        rfl
    have hcloses : ¬Closes room.roomId ⟨.createRoom customerId adminId orderId, m.nextRoomId⟩ := by
      intro hcloses
      cases hcloses
    rw [hopens, and_iff_left hcloses]

theorem removeRoom (h : Tracks history m) (roomId : ℤ) :
    Tracks (history ++ [⟨.removeRoom roomId, ()⟩]) (m.removeRoom roomId) := by
  have hids : createdIds (history ++ [⟨.removeRoom roomId, ()⟩]) = createdIds history :=
    (createdIds_concat ..).trans (List.append_nil _)
  refine ⟨hids ▸ h.next, hids ▸ h.ids, h.numbered.removeRoom roomId, fun room => ?_⟩
  have hopens : ¬Opens room ⟨.removeRoom roomId, ()⟩ := by
    intro hopens
    cases hopens
  rw [ChatRoomManager.removeRoom, List.mem_filter, h.rooms, RoomOpen, RoomOpen,
    List.since_concat, or_iff_right hopens, decide_eq_true_eq]
  refine and_congr_right fun _ => not_congr ⟨fun hid => ?_, fun hcloses => ?_⟩
  · rw [hid]
    rfl
  · cases hcloses
    rfl

/-- The next call. -/
theorem step (h : Tracks history m) {e : RoomEvent} {m' : ChatRoomManager}
    (hcount : (createdIds (history ++ [e])).length < 2 ^ 31 - 1)
    (hs : RoomEvent.step m e = some m') : Tracks (history ++ [e]) m' := by
  obtain ⟨hreturns, rfl⟩ := RoomEvent.step_eq_some.mp hs
  obtain ⟨call, result⟩ := e
  cases call with
  | createRoom customerId adminId orderId =>
    obtain rfl : result = m.nextRoomId := hreturns
    have hids : createdIds (history ++ [⟨.createRoom customerId adminId orderId, m.nextRoomId⟩]) =
        createdIds history ++ [m.nextRoomId] := createdIds_concat ..
    rw [hids, List.length_append, List.length_singleton] at hcount
    exact h.createRoom (by omega) customerId adminId orderId
  | getRoom roomId => exact h.skip rfl fun _ hcloses => by cases hcloses
  | getAllRooms => exact h.skip rfl fun _ hcloses => by cases hcloses
  | removeRoom roomId => exact h.removeRoom roomId

end Tracks

/-- What has been called determines the rooms. -/
theorem tracks_of_run {history : List RoomEvent} {m : ChatRoomManager}
    (hrun : run RoomEvent.step .init history = some m)
    (hcount : (createdIds history).length < 2 ^ 31 - 1) : Tracks history m := by
  refine run_history (I := fun history m =>
    (createdIds history).length < 2 ^ 31 - 1 → Tracks history m) (fun _ => .init)
    (fun history m e m' h hs hcount => ?_) hrun hcount
  exact (h (lt_of_le_of_lt (length_createdIds_le history [e]) hcount)).step hcount hs

/-- **Room numbers are never reused.** For every order of calls with fewer than `2 ^ 31 - 1`
creations. -/
theorem neverReused {history : List RoomEvent} {m : ChatRoomManager}
    (hrun : run RoomEvent.step .init history = some m)
    (hcount : (createdIds history).length < 2 ^ 31 - 1) : NeverReused history := by
  have htracks := tracks_of_run hrun hcount
  have hbefore {past : List RoomEvent} {e : RoomEvent} {rest : List RoomEvent}
      (hsplit : history = past ++ e :: rest) :
      ∃ m₁, Tracks past m₁ ∧ e.call.Returns m₁ e.result := by
    rw [hsplit, run_append, Option.bind_eq_some_iff] at hrun
    obtain ⟨m₁, hpast, hrest⟩ := hrun
    obtain ⟨m₂, hs, -⟩ := run_cons_eq_some.mp hrest
    have hle : (createdIds past).length ≤ (createdIds history).length :=
      hsplit ▸ length_createdIds_le past (e :: rest)
    exact ⟨m₁, tracks_of_run hpast (lt_of_le_of_lt hle hcount), (step_eq_some.mp hs).1⟩
  constructor
  · intro roomId hid
    rw [htracks.ids] at hid
    obtain ⟨i, -, rfl⟩ := List.mem_map.mp hid
    exact Int.lt_add_one_of_le (Int.natCast_nonneg i)
  · rw [htracks.ids]
    refine List.Nodup.map (fun i j hij => ?_) List.nodup_range
    have hij : (i : ℤ) + 1 = j + 1 := hij
    omega
  · intro past roomId result rest hsplit room
    obtain ⟨m₁, htracks₁, hreturns⟩ := hbefore hsplit
    obtain rfl : result = m₁.getRoom roomId := hreturns
    exact htracks₁.getRoom_eq_some
  · intro past result rest hsplit
    obtain ⟨m₁, htracks₁, hreturns⟩ := hbefore hsplit
    have hperm : result.Perm m₁.rooms := hreturns
    refine ⟨(hperm.map _).nodup_iff.mpr htracks₁.numbered.nodup, fun room => ?_⟩
    exact hperm.mem_iff.trans (htracks₁.rooms room)

/-- Two rooms are opened, and the number of the first is not given to a third. -/
def threeRooms : List RoomEvent :=
  [⟨.createRoom "hong" "admin" 1, (1 : ℤ)⟩, ⟨.createRoom "lee" "admin" 2, (2 : ℤ)⟩,
   ⟨.getRoom 1, some ⟨1, "hong", "admin", 1⟩⟩, ⟨.removeRoom 1, ()⟩,
   ⟨.createRoom "kim" "admin" 3, (3 : ℤ)⟩, ⟨.getRoom 1, none⟩,
   ⟨.getAllRooms, [⟨3, "kim", "admin", 3⟩, ⟨2, "lee", "admin", 2⟩]⟩]

theorem neverReused_threeRooms : NeverReused threeRooms :=
  neverReused (m := ⟨[⟨2, "lee", "admin", 2⟩, ⟨3, "kim", "admin", 3⟩], 4⟩) (by decide) (by decide)

end ItsBedalyo
