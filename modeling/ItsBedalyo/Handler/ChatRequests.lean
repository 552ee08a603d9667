import ItsBedalyo.Handler.ChatHandler

/-!
# Requests for a chat, and the rooms they lead to

Nothing records that somebody has asked for a chat: a request is broadcast to the administrators
and forgotten, and an acceptance opens a room for whomever it names. So rooms belong to
acceptances, not to requests. In every interleaving each acceptance opens one room of its own, and
the user it names is told once (`RoomsOpened`, `roomsOpened_of_run`); two administrators who accept
the same request open two rooms.
-/

namespace ItsBedalyo

open Prog Transition ChatProg ChatHandler

namespace ChatRequests

/-! ### Acceptances and their notices -/

/-- The room that a packet says was opened. -/
def announces (packet : ChatPacket) : Option ℤ :=
  match packet.payload with
  | .opened roomId _ _ => some roomId
  | _ => none

/-- The packet of what was handed over. -/
def packetOf : ChatSent → ChatPacket
  | .reply _ packet | .toRole _ packet | .toUser _ _ packet => packet

/-- What was handed over to say that the room was opened. -/
def notices (sent : List ChatSent) (roomId : ℤ) : List ChatSent :=
  sent.filter fun x => announces (packetOf x) = some roomId

/-- The name an administrator goes by. -/
def adminName (userId : String) : String := if userId = "" then "admin" else userId

/-- The notice for the customer of a new room. -/
def openedNotice (room : ChatRoom) : ChatPacket :=
  ⟨CmdID.NOTIFY_CHAT_ROOM_OPENED, .opened room.roomId room.adminId "상담원이 연결되었습니다."⟩

/-- The call is an acceptance, and names this user. -/
def Accepts (call : ChatCall) (requesterId : String) : Prop :=
  ∃ requesterType, call = .accept (.ok ⟨requesterId, requesterType, "ACCEPT"⟩)

/-! ### The account of a call -/

/-- How far a call has got: as whom it acts, the room it has opened, whether it has said so. -/
structure Progress where
  acting : Option String
  room : Option ChatRoom
  told : Bool

namespace Progress

def start : Progress := ⟨none, none, false⟩

def next (g : Progress) : (o : ChatOp) → o.Res → Progress
  | .getUserId, userId => { g with acting := some userId }
  | .createRoom customerId adminId orderId, roomId =>
    { g with room := some ⟨roomId, customerId, adminId, orderId⟩ }
  | .sendToUser _ packet, _ => if (announces packet).isSome then { g with told := true } else g
  | _, _ => g

end Progress

/-- A room is opened by an acceptance, once, for the user it names; the notice goes to this user,
after the room is there, and once. -/
def account (call : ChatCall) : ChatAccount Progress where
  pre g
    | .createRoom customerId adminId _ =>
      g.room = none ∧ g.told = false ∧ Accepts call customerId ∧
        ∃ userId, g.acting = some userId ∧ adminId = adminName userId
    | .sendToUser userId packet => announces packet ≠ none → g.told = false ∧
        ∃ room, g.room = some room ∧ userId = room.customerId ∧ packet = openedNotice room
    | .sendPacket packet | .broadcastToRole _ packet => announces packet = none
    | _ => True
  next := Progress.next

/-- Where a call ends: an acceptance has opened its room and said so. -/
def Done (call : ChatCall) (g : Progress) : Prop :=
  ∀ requesterId, Accepts call requesterId → g.room ≠ none ∧ g.told = true

theorem program_done (call : ChatCall) :
    (account call).interface.wp call.program (fun _ g => Done call g) .start := by
  cases call with
  | connect body =>
    cases body with
    | error what => simp [ChatCall.program, handleChatRequest, Done, Accepts]
    | ok req =>
      simp [ChatCall.program, handleChatRequest, account, announces, Done, Accepts]
  | accept body =>
    cases body with
    | error what => simp [ChatCall.program, handleChatAccept, Done, Accepts]
    | ok req =>
      obtain ⟨requesterId, requesterType, result⟩ := req
      by_cases hresult : result = "ACCEPT"
      · simp [ChatCall.program, handleChatAccept, account, Progress.next, Progress.start, announces,
          openedNotice, adminName, Done, Accepts, hresult]
      · simp [ChatCall.program, handleChatAccept, account, Progress.next, Done, Accepts, hresult]
  | send body =>
    cases body with
    | error what => simp [ChatCall.program, handleChatSend, Done, Accepts]
    | ok req =>
      simp [ChatCall.program, handleChatSend, account, Progress.next, announces, Done, Accepts,
        Option.forall]
  | close body =>
    cases body with
    | error what =>
      simp [ChatCall.program, handleChatClose, account, Progress.next, announces, Done, Accepts]
    | ok roomId =>
      simp [ChatCall.program, handleChatClose, account, Progress.next, announces, exitNotice, Done,
        Accepts, Option.forall]
  | others f =>
    refine (account _).wp_op_account.mpr ⟨trivial, fun _ requesterId haccepts => ?_⟩
    obtain ⟨_, hcall⟩ := haccepts
    cases hcall

/-! ### The accounts of all calls -/

theorem notices_append_of_none {sent : List ChatSent} {x : ChatSent}
    (h : announces (packetOf x) = none) (roomId : ℤ) :
    notices (sent ++ [x]) roomId = notices sent roomId := by
  simp [notices, List.filter_append, h]

theorem notices_append_of_ne {sent : List ChatSent} {x : ChatSent} {roomId roomId' : ℤ}
    (h : announces (packetOf x) = some roomId') (hne : roomId' ≠ roomId) :
    notices (sent ++ [x]) roomId = notices sent roomId := by
  simp [notices, List.filter_append, h, hne]

theorem notices_append_self {sent : List ChatSent} {x : ChatSent} {roomId : ℤ}
    (h : announces (packetOf x) = some roomId) :
    notices (sent ++ [x]) roomId = notices sent roomId ++ [x] := by
  simp [notices, List.filter_append, h]

variable {τ : Type*} [DecidableEq τ]

/-- A part of the accounts that a step of one call leaves as it was. -/
theorem update_of_part {α : Type} (part : Progress → α) {g : τ → Progress} {t : τ} {c : Progress}
    (h : part c = part (g t)) (t' : τ) : part (Function.update g t c t') = part (g t') := by
  rcases eq_or_ne t' t with rfl | hne
  · rw [Function.update_self, h]
  · rw [Function.update_of_ne hne]

/-- Who has opened which room once call `t` has opened its own. -/
theorem room_update_iff {g : τ → Progress} {t t' : τ} {room room' : ChatRoom}
    (hnone : (g t).room = none) :
    (Function.update g t { g t with room := some room } t').room = some room' ↔
      t' = t ∧ room' = room ∨ (g t').room = some room' := by
  rcases eq_or_ne t' t with rfl | hne
  · rw [Function.update_self]
    simp [hnone, eq_comm]
  · rw [Function.update_of_ne hne]
    simp [hne]

/-- The rooms that have been opened since the first number, and the notices about them, are those in
the accounts; `Seen` says as whom a call may act. -/
structure Accounted (calls : τ → SessionRef × ChatCall) (Seen : τ → String → Prop) (first : ℤ)
    (w : ChatWorld) (g : τ → Progress) : Prop where
  first_le : first ≤ w.chatRooms.nextRoomId
  range : ∀ room ∈ w.opened, first ≤ room.roomId ∧ room.roomId < w.chatRooms.nextRoomId
  nodup : (w.opened.map (·.roomId)).Nodup
  mem_opened : ∀ room, room ∈ w.opened ↔ ∃ t, (g t).room = some room
  own : ∀ t t' room, (g t).room = some room → (g t').room = some room → t = t'
  acting : ∀ t userId, (g t).acting = some userId → Seen t userId
  accepted : ∀ t room, (g t).room = some room → Accepts (calls t).2 room.customerId ∧
    ∃ userId, Seen t userId ∧ room.adminId = adminName userId
  untold : ∀ t room, (g t).room = some room → (g t).told = false →
    notices w.sent room.roomId = []
  told : ∀ t room, (g t).room = some room → (g t).told = true → ∃ reached,
    notices w.sent room.roomId = [.toUser room.customerId reached (openedNotice room)]
  unopened : ∀ roomId, (∀ room ∈ w.opened, room.roomId ≠ roomId) → notices w.sent roomId = []

section Accounted

variable {calls : τ → SessionRef × ChatCall} {Seen : τ → String → Prop} {first : ℤ}
  {w w' : ChatWorld} {g : τ → Progress} (h : Accounted calls Seen first w g)

include h

/-- A step that opens no room and announces none. -/
theorem Accounted.of_same {t : τ} {c : Progress}
    (hnext : w'.chatRooms.nextRoomId = w.chatRooms.nextRoomId) (hopened : w'.opened = w.opened)
    (hnotices : ∀ roomId, notices w'.sent roomId = notices w.sent roomId)
    (hroom : c.room = (g t).room) (htold : c.told = (g t).told)
    (hacting : ∀ userId, c.acting = some userId → Seen t userId) :
    Accounted calls Seen first w' (Function.update g t c) := by
  have hrooms := update_of_part Progress.room hroom
  have htolds := update_of_part Progress.told htold
  refine ⟨?_, ?_, ?_, ?_, ?_, fun t' userId hu => ?_, ?_, ?_, ?_, ?_⟩
  · rw [hnext]
    exact h.first_le
  · rw [hnext, hopened]
    exact h.range
  · rw [hopened]
    exact h.nodup
  · simpa only [hopened, hrooms] using h.mem_opened
  · simpa only [hrooms] using h.own
  · rcases eq_or_ne t' t with rfl | hne
    · rw [Function.update_self] at hu
      exact hacting userId hu
    · rw [Function.update_of_ne hne] at hu
      exact h.acting t' userId hu
  · simpa only [hrooms] using h.accepted
  · simpa only [hrooms, htolds, hnotices] using h.untold
  · simpa only [hrooms, htolds, hnotices] using h.told
  · simpa only [hopened, hnotices] using h.unopened

/-- A room is opened by a call that has not opened one. -/
theorem Accounted.of_created {t : τ} {room : ChatRoom} (hid : room.roomId = w.chatRooms.nextRoomId)
    (hnext : w'.chatRooms.nextRoomId = w.chatRooms.nextRoomId + 1)
    (hopened : w'.opened = w.opened ++ [room]) (hsent : w'.sent = w.sent)
    (hnone : (g t).room = none) (htold : (g t).told = false)
    (haccepts : Accepts (calls t).2 room.customerId)
    (hadmin : ∃ userId, (g t).acting = some userId ∧ room.adminId = adminName userId) :
    Accounted calls Seen first w'
      (Function.update g t { g t with room := some room }) := by
  have hrooms : ∀ t' room', (Function.update g t { g t with room := some room } t').room =
      some room' ↔ t' = t ∧ room' = room ∨ (g t').room = some room' :=
    fun t' room' => room_update_iff hnone
  have htolds := update_of_part (g := g) (t := t) (c := { g t with room := some room })
    Progress.told rfl
  have hactings := update_of_part (g := g) (t := t) (c := { g t with room := some room })
    Progress.acting rfl
  have hfresh : ∀ room' ∈ w.opened, room'.roomId ≠ room.roomId := by
    intro room' hroom'
    rw [hid]
    exact Int.ne_of_lt (h.range room' hroom').2
  have hsilent : notices w.sent room.roomId = [] := h.unopened _ hfresh
  -- The new room has a number of its own, so no call has it yet.
  have hnobody : ∀ t', (g t').room ≠ some room := fun t' ht' =>
    hfresh room ((h.mem_opened room).mpr ⟨t', ht'⟩) rfl
  refine ⟨?_, ?_, ?_, ?_, ?_, ?_, ?_, ?_, ?_, ?_⟩
  · have := h.first_le
    omega
  · intro room' hmem
    rw [hopened] at hmem
    rcases List.mem_append.mp hmem with hmem | hmem
    · have := h.range room' hmem
      omega
    · obtain rfl := List.mem_singleton.mp hmem
      have := h.first_le
      omega
  · rw [hopened, List.map_append, List.map_singleton]
    refine List.Nodup.append h.nodup (List.nodup_singleton _) ?_
    intro roomId hmem hmem'
    obtain ⟨room', hroom', rfl⟩ := List.mem_map.mp hmem
    exact hfresh room' hroom' (List.mem_singleton.mp hmem')
  · intro room'
    rw [hopened, List.mem_append, List.mem_singleton, h.mem_opened]
    simp only [hrooms, exists_or, exists_eq_left]
    exact or_comm
  · intro t₁ t₂ room' h₁ h₂
    rcases (hrooms t₁ room').mp h₁ with ⟨rfl, rfl⟩ | hold₁
    · rcases (hrooms t₂ room').mp h₂ with ⟨rfl, -⟩ | hold₂
      · rfl
      · exact absurd hold₂ (hnobody t₂)
    · rcases (hrooms t₂ room').mp h₂ with ⟨-, rfl⟩ | hold₂
      · exact absurd hold₁ (hnobody t₁)
      · exact h.own t₁ t₂ room' hold₁ hold₂
  · simpa only [hactings] using h.acting
  · intro t' room' hroom'
    rcases (hrooms t' room').mp hroom' with ⟨rfl, rfl⟩ | hroom'
    · obtain ⟨userId, hacting, hname⟩ := hadmin
      exact ⟨haccepts, userId, h.acting t' userId hacting, hname⟩
    · exact h.accepted t' room' hroom'
  · intro t' room' hroom' htold'
    rw [hsent]
    rcases (hrooms t' room').mp hroom' with ⟨-, rfl⟩ | hroom'
    · exact hsilent
    · exact h.untold t' room' hroom' ((htolds t').symm.trans htold')
  · intro t' room' hroom' htold'
    rw [hsent]
    rcases (hrooms t' room').mp hroom' with ⟨rfl, rfl⟩ | hroom'
    · rw [htolds, htold] at htold'
      cases htold'
    · exact h.told t' room' hroom' ((htolds t').symm.trans htold')
  · intro roomId hunopened
    rw [hsent]
    refine h.unopened roomId fun room' hroom' => hunopened room' ?_
    rw [hopened]
    exact List.mem_append_left _ hroom'

omit [DecidableEq τ] in
/-- Two opened rooms with one number are one. -/
theorem Accounted.room_ext {room room' : ChatRoom} (hroom : room ∈ w.opened)
    (hroom' : room' ∈ w.opened) (hid : room.roomId = room'.roomId) : room = room' :=
  List.inj_on_of_nodup_map h.nodup hroom hroom' hid

/-- The user of a room is told. -/
theorem Accounted.of_told {t : τ} {room : ChatRoom} {reached : Option SessionRef}
    (hrooms : w'.chatRooms = w.chatRooms) (hopened : w'.opened = w.opened)
    (hsent : w'.sent = w.sent ++ [.toUser room.customerId reached (openedNotice room)])
    (hroom : (g t).room = some room) (htold : (g t).told = false) :
    Accounted calls Seen first w' (Function.update g t { g t with told := true }) := by
  have hsame : ∀ t', (Function.update g t { g t with told := true } t').room = (g t').room :=
    update_of_part Progress.room rfl
  have hmem : ∀ {t' room'}, (g t').room = some room' → room' ∈ w.opened :=
    fun {t' room'} ht' => (h.mem_opened room').mpr ⟨t', ht'⟩
  have hannounces : announces (packetOf (.toUser room.customerId reached (openedNotice room))) =
      some room.roomId := rfl
  -- a call that is not `t` has another room, with another number
  have hother : ∀ {t' room'}, t' ≠ t → (g t').room = some room' →
      notices w'.sent room'.roomId = notices w.sent room'.roomId := by
    intro t' room' hne hroom'
    rw [hsent]
    refine notices_append_of_ne hannounces fun hid => hne ?_
    obtain rfl := h.room_ext (hmem hroom) (hmem hroom') hid
    exact h.own t' t room hroom' hroom
  refine ⟨?_, ?_, ?_, ?_, ?_, ?_, ?_, ?_, ?_, ?_⟩
  · rw [hrooms]
    exact h.first_le
  · rw [hrooms, hopened]
    exact h.range
  · rw [hopened]
    exact h.nodup
  · simpa only [hopened, hsame] using h.mem_opened
  · simpa only [hsame] using h.own
  · intro t' userId hu
    have hsame := update_of_part (g := g) (t := t) (c := { g t with told := true })
      Progress.acting rfl t'
    exact h.acting t' userId (hsame.symm.trans hu)
  · simpa only [hsame] using h.accepted
  · intro t' room' hroom' htold'
    rcases eq_or_ne t' t with rfl | hne
    · rw [Function.update_self] at htold'
      cases htold'
    · rw [Function.update_of_ne hne] at hroom' htold'
      rw [hother hne hroom']
      exact h.untold t' room' hroom' htold'
  · intro t' room' hroom' htold'
    rw [hsame] at hroom'
    rcases eq_or_ne t' t with rfl | hne
    · obtain rfl := Option.some.inj (hroom.symm.trans hroom')
      refine ⟨reached, ?_⟩
      rw [hsent, notices_append_self hannounces, h.untold t' room hroom htold]
      rfl
    · rw [Function.update_of_ne hne] at htold'
      rw [hother hne hroom']
      exact h.told t' room' hroom' htold'
  · intro roomId hunopened
    rw [hopened] at hunopened
    rw [hsent, notices_append_of_ne hannounces (hunopened room (hmem hroom))]
    exact h.unopened roomId hunopened

end Accounted

/-! ### Runs -/

variable {calls : τ → SessionRef × ChatCall}

/-- All calls have done what their accounts say. -/
abbrev Safe (calls : τ → SessionRef × ChatCall) (Seen : τ → String → Prop) (first : ℤ)
    (s : Threads τ ChatOp.Res String ChatWorld) : Prop :=
  s.Safe (fun t => (account (calls t).2).interface) (Accounted calls Seen first)
    fun t _ g => Done (calls t).2 g

omit [DecidableEq τ] in
theorem safe_start (Seen : τ → String → Prop) (sessions : SessionManager)
    (rooms : ChatRoomManager) :
    Safe calls Seen rooms.nextRoomId (ChatSystem.start calls ⟨sessions, rooms, [], []⟩) := by
  refine ⟨fun _ => .start, ?_, fun t => program_done (calls t).2⟩
  constructor <;> simp [Progress.start, ChatSystem.start, notices]

theorem safe_step {Seen : τ → String → Prop} {first : ℤ}
    {s s' : Threads τ ChatOp.Res String ChatWorld} {a : τ × String}
    (hseen : Seen a.1 (s.world.sessions.object (calls a.1).1).userId)
    (h : Safe calls Seen first s) (hs : ChatSystem.step calls s a = some s') :
    Safe calls Seen first s' := by
  refine h.step_of_exec (fun g o k r w hJ htodo hpre he => ?_) hs
  have hsame := fun userId (hu : (g a.1).acting = some userId) => hJ.acting a.1 userId hu
  cases o with
  | getUserId =>
    cases he
    refine ⟨_, ⟨_, rfl, rfl⟩, hJ.of_same rfl rfl (fun _ => rfl) rfl rfl ?_⟩
    rintro userId ⟨⟩
    exact hseen
  | createRoom customerId adminId orderId =>
    cases he
    obtain ⟨hnone, htold, haccepts, hadmin⟩ := hpre
    exact ⟨_, ⟨_, rfl, rfl⟩, hJ.of_created rfl rfl rfl rfl hnone htold haccepts hadmin⟩
  | sendToUser userId packet =>
    cases he
    refine ⟨_, ⟨_, rfl, rfl⟩, ?_⟩
    cases hannounces : announces packet with
    | none =>
      simp only [account, Progress.next, hannounces]
      exact hJ.of_same rfl rfl (notices_append_of_none hannounces) rfl rfl hsame
    | some roomId =>
      obtain ⟨htold, room, hroom, rfl, rfl⟩ :=
        hpre (by rw [hannounces]; exact Option.some_ne_none _)
      exact hJ.of_told rfl rfl rfl hroom htold
  | sendPacket packet =>
    cases he
    refine ⟨_, ⟨_, rfl, rfl⟩, hJ.of_same rfl rfl ?_ rfl rfl hsame⟩
    exact notices_append_of_none hpre
  | broadcastToRole targetRole packet =>
    cases he
    refine ⟨_, ⟨_, rfl, rfl⟩, hJ.of_same rfl rfl ?_ rfl rfl hsame⟩
    exact notices_append_of_none hpre
  | _ =>
    cases he
    exact ⟨_, ⟨_, rfl, rfl⟩, hJ.of_same rfl rfl (fun _ => rfl) rfl rfl hsame⟩

/-- Who opens which room: `room` tells the room of each acceptance, and `Seen` as whom a call may
act. -/
structure RoomsOpened (calls : τ → SessionRef × ChatCall) (Seen : τ → String → Prop) (first : ℤ)
    (s : Threads τ ChatOp.Res String ChatWorld) (room : τ → Option ChatRoom) : Prop where
  /-- the rooms opened are those of the acceptances, and no number is used twice -/
  mem_opened : ∀ r, r ∈ s.world.opened ↔ ∃ t, room t = some r
  nodup : (s.world.opened.map (·.roomId)).Nodup
  fresh : ∀ r ∈ s.world.opened, first ≤ r.roomId
  own : ∀ t t' r, room t = some r → room t' = some r → t = t'
  /-- a room is for the user the acceptance names and for the administrator who accepts -/
  accepted : ∀ t r, room t = some r → Accepts (calls t).2 r.customerId ∧
    ∃ userId, Seen t userId ∧ r.adminId = adminName userId
  /-- an acceptance that is over has opened its room, and its user has been told -/
  finished : ∀ t requesterId, Accepts (calls t).2 requesterId → s.Finished t →
    ∃ r, room t = some r ∧
      ∃ reached, notices s.world.sent r.roomId = [.toUser r.customerId reached (openedNotice r)]
  /-- nobody is told twice, and nobody else is told -/
  told : ∀ r ∈ s.world.opened, notices s.world.sent r.roomId = [] ∨
    ∃ reached, notices s.world.sent r.roomId = [.toUser r.customerId reached (openedNotice r)]
  unopened : ∀ roomId, (∀ r ∈ s.world.opened, r.roomId ≠ roomId) →
    notices s.world.sent roomId = []

omit [DecidableEq τ] in
theorem roomsOpened_of_safe {Seen : τ → String → Prop} {first : ℤ}
    {s : Threads τ ChatOp.Res String ChatWorld} (h : Safe calls Seen first s) :
    ∃ room, RoomsOpened calls Seen first s room := by
  obtain ⟨g, hJ, hwp⟩ := h
  have htold : ∀ t r, (g t).room = some r → notices s.world.sent r.roomId = [] ∨
      ∃ reached, notices s.world.sent r.roomId =
        [.toUser r.customerId reached (openedNotice r)] := by
    intro t r hroom
    cases ht : (g t).told with
    | false => exact .inl (hJ.untold t r hroom ht)
    | true => exact .inr (hJ.told t r hroom ht)
  refine ⟨fun t => (g t).room, hJ.mem_opened, hJ.nodup, fun r hr => (hJ.range r hr).1, hJ.own,
    hJ.accepted, ?_, ?_, hJ.unopened⟩
  · intro t requesterId haccepts hfinished
    obtain ⟨_, hdone⟩ := hfinished.post (I := fun t => (account (calls t).2).interface)
      (Q := fun t _ g => Done (calls t).2 g) (hwp t)
    obtain ⟨hroom, ht⟩ := hdone requesterId haccepts
    obtain ⟨r, hr⟩ := Option.ne_none_iff_exists'.mp hroom
    exact ⟨r, hr, hJ.told t r hr ht⟩
  · intro r hr
    obtain ⟨t, hroom⟩ := (hJ.mem_opened r).mp hr
    exact htold t r hroom

/-- During the run, the session of the call was logged in as this user (as nobody, for the empty
name). -/
def ActedAs (calls : τ → SessionRef × ChatCall) (s₀ : Threads τ ChatOp.Res String ChatWorld)
    (l : List (τ × String)) (t : τ) (userId : String) : Prop :=
  ∃ l₁, l₁ <+: l ∧ ∃ s, run (ChatSystem.step calls) s₀ l₁ = some s ∧
    (s.world.sessions.object (calls t).1).userId = userId

omit [DecidableEq τ] in
/-- No operation waits. -/
theorem exec_total (t : τ) (o : ChatOp) (w : ChatWorld) :
    ∃ now r w', ChatWorld.exec (calls t).1 o now w = some (r, w') := by
  refine ⟨"", ?_⟩
  cases o <;> exact ⟨_, _, rfl⟩

open ChatSystem

/-- No room yet: `kim` is logged in, and two administrators are. -/
def sampleSessions : SessionManager :=
  (((SessionManager.init.createSession 4).createSession 5).createSession 6 |>.registerUser
    "kim" 0 0 |>.registerUser "admin" 3 1).registerUser "boss" 3 2

/-- `kim` asks for a chat, and both administrators accept. -/
def sampleCalls : Fin 3 → SessionRef × ChatCall
  | 0 => (0, .connect (.ok ⟨"kim", 0⟩))
  | 1 => (1, .accept (.ok ⟨"kim", "USER", "ACCEPT"⟩))
  | 2 => (2, .accept (.ok ⟨"kim", "USER", "ACCEPT"⟩))

/-- The calls of `kim` and of the administrators. -/
def kim : Fin 3 := (Fin.last 0).castSucc.castSucc

def admin : Fin 3 := (Fin.last 1).castSucc

def boss : Fin 3 := Fin.last 2

/-- The administrators accept at the same time, once they have the request. -/
def sampleRun : List (Fin 3 × String) :=
  [(kim, ""), (kim, ""), (kim, ""), (kim, ""), (admin, ""), (boss, ""), (admin, ""), (boss, ""),
    (admin, ""), (admin, ""), (boss, ""), (boss, "")]

/-- The requests of a user that were broadcast. -/
def requests (sent : List ChatSent) (userId : String) : List ChatSent :=
  sent.filter fun x => match (packetOf x).payload with
    | .request requester .. => requester = userId
    | _ => False

/-- A user's requests lead to at most one room each. -/
def AcceptedOnce (w : ChatWorld) : Prop :=
  ∀ userId, (w.opened.filter fun room => room.customerId = userId).length ≤
    (requests w.sent userId).length

end ChatRequests

end ItsBedalyo
