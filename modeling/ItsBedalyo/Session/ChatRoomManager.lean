import Mathlib.Data.Int.Basic
import Mathlib.Data.List.Nodup

/-!
# The chat rooms: `ChatRoomManager`

`rooms` is the map from room numbers to rooms, as the list of its rooms in the order in which
they were opened; a room carries its own number. Every operation runs under `roomMutex`.
-/

namespace ItsBedalyo

/-- `ChatRoom`. -/
structure ChatRoom where
  roomId : ℤ
  customerId : String
  adminId : String
  orderId : ℕ
  deriving DecidableEq

/-- `ChatRoomManager`. -/
structure ChatRoomManager where
  rooms : List ChatRoom
  nextRoomId : ℤ
  deriving DecidableEq

namespace ChatRoomManager

/-- No room yet. -/
def init : ChatRoomManager := ⟨[], 1⟩

/-- `createRoom`, with the number of the new room. -/
def createRoom (m : ChatRoomManager) (customerId adminId : String) (orderId : ℕ) :
    ℤ × ChatRoomManager :=
  let roomId := m.nextRoomId
  (roomId,
    { rooms := m.rooms.filter (fun room => room.roomId ≠ roomId) ++
        [⟨roomId, customerId, adminId, orderId⟩]
      nextRoomId := roomId + 1 })

/-- `getRoom`; `none` is `nullptr`. -/
def getRoom (m : ChatRoomManager) (roomId : ℤ) : Option ChatRoom :=
  m.rooms.find? fun room => room.roomId = roomId

/-- `getAllRooms`. -/
def getAllRooms (m : ChatRoomManager) : List ChatRoom := m.rooms

/-- `removeRoom`. -/
def removeRoom (m : ChatRoomManager) (roomId : ℤ) : ChatRoomManager :=
  { m with rooms := m.rooms.filter fun room => room.roomId ≠ roomId }

theorem roomId_of_getRoom {m : ChatRoomManager} {roomId : ℤ} {room : ChatRoom}
    (h : m.getRoom roomId = some room) : room.roomId = roomId := by
  have hpos := List.find?_some h
  exact of_decide_eq_true hpos

@[simp] theorem getRoom_removeRoom_self (m : ChatRoomManager) (roomId : ℤ) :
    (m.removeRoom roomId).getRoom roomId = none := by
  rw [getRoom, List.find?_eq_none]
  intro room hroom
  simpa [removeRoom] using (List.mem_filter.mp hroom).2

theorem getRoom_removeRoom_of_ne (m : ChatRoomManager) {roomId roomId' : ℤ}
    (hne : roomId' ≠ roomId) : (m.removeRoom roomId).getRoom roomId' = m.getRoom roomId' := by
  unfold getRoom removeRoom
  rw [List.find?_filter]
  congr 1
  funext room
  by_cases hroom : room.roomId = roomId'
  · simp [hroom, hne]
  · simp [hroom]

/-- The new room is found under its number. -/
@[simp] theorem getRoom_createRoom_self (m : ChatRoomManager) (customerId adminId : String)
    (orderId : ℕ) : (m.createRoom customerId adminId orderId).2.getRoom m.nextRoomId =
      some ⟨m.nextRoomId, customerId, adminId, orderId⟩ := by
  have hnone : (m.removeRoom m.nextRoomId).getRoom m.nextRoomId = none :=
    getRoom_removeRoom_self ..
  simp only [createRoom, getRoom, removeRoom] at hnone ⊢
  rw [List.find?_append, hnone]
  simp

/-- The others are found as before. -/
theorem getRoom_createRoom_of_ne (m : ChatRoomManager) (customerId adminId : String)
    (orderId : ℕ) {roomId : ℤ} (hne : roomId ≠ m.nextRoomId) :
    (m.createRoom customerId adminId orderId).2.getRoom roomId = m.getRoom roomId := by
  have hother := getRoom_removeRoom_of_ne m hne
  simp only [createRoom, getRoom, removeRoom] at hother ⊢
  rw [List.find?_append, hother]
  simp [hne.symm]

/-- Room numbers count up: those in use are below the next one, and no two rooms share one. -/
structure Numbered (m : ChatRoomManager) : Prop where
  lt : ∀ room ∈ m.rooms, room.roomId < m.nextRoomId
  nodup : (m.rooms.map (·.roomId)).Nodup

theorem Numbered.init : Numbered .init := ⟨nofun, List.nodup_nil⟩

/-- A new room is added, and replaces none. -/
theorem Numbered.rooms_createRoom {m : ChatRoomManager} (h : m.Numbered)
    (customerId adminId : String) (orderId : ℕ) :
    (m.createRoom customerId adminId orderId).2.rooms =
      m.rooms ++ [⟨m.nextRoomId, customerId, adminId, orderId⟩] := by
  have hfilter : m.rooms.filter (fun room => decide (room.roomId ≠ m.nextRoomId)) = m.rooms := by
    rw [List.filter_eq_self]
    intro room hroom
    exact decide_eq_true (Int.ne_of_lt (h.lt room hroom))
  simp only [ChatRoomManager.createRoom, hfilter]

theorem Numbered.createRoom {m : ChatRoomManager} (h : m.Numbered)
    (customerId adminId : String) (orderId : ℕ) :
    (m.createRoom customerId adminId orderId).2.Numbered := by
  have hrooms := h.rooms_createRoom customerId adminId orderId
  refine ⟨fun room hroom => ?_, ?_⟩
  · rw [hrooms, List.mem_append, List.mem_singleton] at hroom
    rcases hroom with hroom | rfl
    · exact Int.lt_trans (h.lt room hroom) (Int.lt_succ _)
    · exact Int.lt_succ _
  · rw [hrooms, List.map_append, List.map_cons, List.map_nil]
    refine List.Nodup.append h.nodup (List.nodup_singleton _) ?_
    intro roomId hmem hnew
    obtain ⟨room, hroom, rfl⟩ := List.mem_map.mp hmem
    have hlt := h.lt room hroom
    rw [List.mem_singleton.mp hnew] at hlt
    exact absurd hlt (Int.lt_irrefl _)

theorem Numbered.removeRoom {m : ChatRoomManager} (h : m.Numbered) (roomId : ℤ) :
    (m.removeRoom roomId).Numbered := by
  refine ⟨fun room hroom => h.lt room (List.mem_of_mem_filter hroom), ?_⟩
  exact h.nodup.sublist (List.Sublist.map _ List.filter_sublist)

end ChatRoomManager

end ItsBedalyo
