import ItsBedalyo.Handler.ChatHandler

/-!
# Who acts in a chat room

A request may touch a room only if the user its session is logged in as is a participant, and the
message it delivers goes to the other one, in the sender's own name (`Authorised`).

`handleChatClose` takes the user from the session, but asks nobody whether that user is in the
room; `handleChatSend` does not look at the session at all. So requests are `Authorised` exactly
when they need no check: `authorised_iff`.
-/

namespace ItsBedalyo

namespace ChatWorld

/-- What has been sent since. -/
def news (w w' : ChatWorld) : List ChatSent := w'.sent.drop w.sent.length

@[simp] theorem news_eq {w w' : ChatWorld} {l : List ChatSent} (h : w'.sent = w.sent ++ l) :
    news w w' = l := by
  rw [news, h, List.drop_left]

/-- The session is logged in as a participant of the room. -/
def IsParticipant (w : ChatWorld) (session : SessionRef) (room : ChatRoom) : Prop :=
  (w.sessions.object session).isAuth = true ∧
    ((w.sessions.object session).userId = room.customerId ∨
      (w.sessions.object session).userId = room.adminId)

/-- Something about the room reached a user, or the room is no longer what it was. -/
def Affects (w w' : ChatWorld) (room : ChatRoom) : Prop :=
  (∃ userId session packet, .toUser userId (some session) packet ∈ news w w' ∧
      packet.inRoom = some room.roomId) ∨
    w'.chatRooms.getRoom room.roomId ≠ some room

end ChatWorld

/-- The two participants, in one order or the other. -/
def ChatRoom.Opposite (room : ChatRoom) (userId userId' : String) : Prop :=
  (userId = room.customerId ∧ userId' = room.adminId) ∨
    (userId = room.adminId ∧ userId' = room.customerId)

/-- A request of the session acted for its own user, in rooms of that user. -/
structure Authorised (w w' : ChatWorld) (session : SessionRef) : Prop where
  room : ∀ room, w.chatRooms.getRoom room.roomId = some room → w.Affects w' room →
    w.IsParticipant session room
  message : ∀ userId reached cmdId dto,
    .toUser userId (some reached) ⟨cmdId, .recv dto⟩ ∈ w.news w' →
      dto.senderId = (w.sessions.object session).userId ∧
        ∃ room, w.chatRooms.getRoom dto.roomId = some room ∧
          room.Opposite (w.sessions.object session).userId userId

/-- A request to send a message or to close a room. -/
inductive ChatAction
  | send (body : Except String ReqChatSendDTO)
  | close (body : Except String ℤ)

namespace ChatAction

open ChatHandler ChatWorld Interface ChatSystem

/-- The handler of the request. -/
def handler : ChatAction → ChatProg Unit
  | send body => handleChatSend body
  | close body => handleChatClose body

/-- What the handlers would have to check: where a message is about to reach somebody, that the
session is logged in as the sender, and that the sender is in the room; where a room is about to
be closed, that the session is logged in as somebody in the room. -/
def Permitted (w : ChatWorld) (session : SessionRef) : ChatAction → Prop
  | send body => ∀ req room reached, body = .ok req → w.chatRooms.getRoom req.roomId = some room →
      w.sessions.userMap (targetUserId room req.senderId) = some reached →
        (w.sessions.object session).userId = req.senderId ∧ w.IsParticipant session room
  | close body => ∀ roomId room, body = .ok roomId → w.chatRooms.getRoom roomId = some room →
      w.IsParticipant session room

section Rules

variable {w : ChatWorld} {session : SessionRef} {Q : Except String Unit → ChatWorld → Prop}

/-- What a request to send a message does. -/
theorem wp_handleChatSend {body : Except String ReqChatSendDTO} :
    (alone session).wp (handleChatSend body) Q w ↔
      match body with
      | .error _ => Q (.ok ()) w
      | .ok req =>
        match w.chatRooms.getRoom req.roomId with
        | none => Q (.ok ()) w
        | some room => ∀ now, Q (.ok ()) { w with
            sent := w.sent ++ [.toUser (targetUserId room req.senderId)
              (w.sessions.userMap (targetUserId room req.senderId))
              ⟨notifyCmdId room req.senderId, .recv ⟨req.roomId, req.senderId, req.content, now⟩⟩,
              .reply session ⟨CmdID.RES_CHAT_SEND, .sent ⟨200, "전송 완료"⟩⟩] } := by
  cases body with
  | error what => simp [handleChatSend]
  | ok req =>
    cases hroom : w.chatRooms.getRoom req.roomId with
    | none => simp [handleChatSend, hroom]
    | some room => simp [handleChatSend, hroom]

/-- What a request to close a room does. -/
theorem wp_handleChatClose {body : Except String ℤ} :
    (alone session).wp (handleChatClose body) Q w ↔
      match body.toOption.bind w.chatRooms.getRoom with
      | none => Q (.ok ()) { w with sent := w.sent ++ [.reply session
          ⟨CmdID.NOTIFY_CHAT_EXIT, .exitError 1 "종료 처리 중 오류가 발생했습니다."⟩] }
      | some room =>
        let notice := exitNotice room room.roomId (w.sessions.object session).userId
        Q (.ok ()) { w with
          chatRooms := w.chatRooms.removeRoom room.roomId
          sent := w.sent ++ [.toUser room.customerId (w.sessions.userMap room.customerId) notice,
            .toUser room.adminId (w.sessions.userMap room.adminId) notice] } := by
  cases body with
  | error what => simp [handleChatClose, Except.toOption]
  | ok roomId =>
    cases hroom : w.chatRooms.getRoom roomId with
    | none => simp [handleChatClose, hroom, Except.toOption]
    | some room =>
      obtain rfl := ChatRoomManager.roomId_of_getRoom hroom
      simp [handleChatClose, hroom, Except.toOption]

end Rules

/-- A request that reaches nobody and leaves the rooms alone. -/
theorem authorised_of_quiet {w w' : ChatWorld} {session : SessionRef}
    (hrooms : w'.chatRooms = w.chatRooms)
    (hnews : ∀ userId reached packet, .toUser userId (some reached) packet ∉ w.news w') :
    Authorised w w' session := by
  refine ⟨fun room hroom haffects => ?_, fun userId reached cmdId dto hmem => ?_⟩
  · rcases haffects with ⟨userId, reached, packet, hmem, -⟩ | hchanged
    · exact absurd hmem (hnews userId reached packet)
    · rw [hrooms] at hchanged
      exact absurd hroom hchanged
  · exact absurd hmem (hnews userId reached _)

section Exact

variable {w w' : ChatWorld} {session : SessionRef}

/-- A message that reaches somebody. -/
theorem authorised_send_iff {req : ReqChatSendDTO} {room : ChatRoom} {reached : SessionRef}
    {now : String} {reply : ChatPacket} (hroom : w.chatRooms.getRoom req.roomId = some room)
    (hrooms : w'.chatRooms = w.chatRooms)
    (hnews : w.news w' = [.toUser (targetUserId room req.senderId) (some reached)
      ⟨notifyCmdId room req.senderId, .recv ⟨req.roomId, req.senderId, req.content, now⟩⟩,
      .reply session reply]) :
    Authorised w w' session ↔
      (w.sessions.object session).userId = req.senderId ∧ w.IsParticipant session room := by
  have hid : room.roomId = req.roomId := ChatRoomManager.roomId_of_getRoom hroom
  constructor
  · intro h
    have hmem : ChatSent.toUser (targetUserId room req.senderId) (some reached)
        ⟨notifyCmdId room req.senderId, .recv ⟨req.roomId, req.senderId, req.content, now⟩⟩ ∈
          w.news w' := by
      rw [hnews]
      exact List.mem_cons_self
    refine ⟨(h.message _ _ _ _ hmem).1.symm, h.room room (by rw [hid]; exact hroom) (.inl ?_)⟩
    exact ⟨_, _, _, hmem, congrArg some hid.symm⟩
  · rintro ⟨hsender, hin⟩
    -- the only packet that reaches a user is the message
    have honly : ∀ userId reached' packet, .toUser userId (some reached') packet ∈ w.news w' →
        userId = targetUserId room req.senderId ∧ packet = ⟨notifyCmdId room req.senderId,
          .recv ⟨req.roomId, req.senderId, req.content, now⟩⟩ := by
      intro userId reached' packet hmem
      rw [hnews] at hmem
      simp only [List.mem_cons, ChatSent.toUser.injEq, reduceCtorEq, List.not_mem_nil,
        or_false] at hmem
      exact ⟨hmem.1, hmem.2.2⟩
    refine ⟨fun room' hroom' haffects => ?_, fun userId reached' cmdId dto hmem => ?_⟩
    · rcases haffects with ⟨userId, reached', packet, hmem, habout⟩ | hchanged
      · obtain ⟨-, rfl⟩ := honly _ _ _ hmem
        have hsame : req.roomId = room'.roomId := Option.some.inj habout
        rw [← hsame] at hroom'
        obtain rfl := Option.some.inj (hroom.symm.trans hroom')
        exact hin
      · rw [hrooms] at hchanged
        exact absurd hroom' hchanged
    · obtain ⟨rfl, hpacket⟩ := honly _ _ _ hmem
      simp only [ChatPacket.mk.injEq, ChatPayload.recv.injEq] at hpacket
      obtain ⟨-, rfl⟩ := hpacket
      refine ⟨hsender.symm, room, hroom, ?_⟩
      rw [hsender]
      unfold ChatRoom.Opposite targetUserId
      split_ifs with hadmin
      · exact .inr ⟨hadmin, rfl⟩
      · rcases hin.2 with hcustomer | hadmin'
        · exact .inl ⟨hsender ▸ hcustomer, rfl⟩
        · exact absurd (hsender ▸ hadmin') hadmin

/-- A room that is closed. -/
theorem authorised_close_iff {room : ChatRoom} {roomId : ℤ} (requesterId : String)
    (hroom : w.chatRooms.getRoom roomId = some room)
    (hrooms : w'.chatRooms = w.chatRooms.removeRoom roomId)
    (hnews : ∀ sent ∈ w.news w', ∃ userId reached,
      sent = .toUser userId reached (exitNotice room roomId requesterId)) :
    Authorised w w' session ↔ w.IsParticipant session room := by
  obtain rfl := ChatRoomManager.roomId_of_getRoom hroom
  constructor
  · intro h
    refine h.room room hroom (.inr ?_)
    rw [hrooms, ChatRoomManager.getRoom_removeRoom_self]
    exact Option.some_ne_none room |>.symm
  · intro hin
    refine ⟨fun room' hroom' haffects => ?_, fun userId reached cmdId dto hmem => ?_⟩
    · have hsame : room'.roomId = room.roomId := by
        rcases haffects with ⟨userId, reached, packet, hmem, habout⟩ | hchanged
        · obtain ⟨userId', reached', hsent⟩ := hnews _ hmem
          cases hsent
          exact (Option.some.inj habout).symm
        · by_contra hne
          rw [hrooms, ChatRoomManager.getRoom_removeRoom_of_ne _ hne] at hchanged
          exact hchanged hroom'
      rw [hsame] at hroom'
      obtain rfl := Option.some.inj (hroom.symm.trans hroom')
      exact hin
    · obtain ⟨userId', reached', hsent⟩ := hnews _ hmem
      cases hsent

end Exact

/-- **Who may act.** A request to send a message or to close a room is authorised exactly when it
is permitted. -/
theorem authorised_iff {a : ChatAction} {w w' : ChatWorld} {session : SessionRef}
    {times : List String} {r : Except String Unit}
    (hr : a.handler.run (ChatWorld.exec session) times w = some (r, w')) :
    Authorised w w' session ↔ a.Permitted w session := by
  refine run_wp (Q := fun _ w' => Authorised w w' session ↔ a.Permitted w session) ?_ hr
  cases a with
  | send body =>
    refine wp_handleChatSend.mpr ?_
    cases body with
    | error what =>
      refine iff_of_true (authorised_of_quiet rfl ?_) ?_
      · simp [news]
      · rintro req room reached ⟨⟩
    | ok req =>
      cases hroom : w.chatRooms.getRoom req.roomId with
      | none =>
        simp only [hroom]
        refine iff_of_true (authorised_of_quiet rfl ?_) ?_
        · simp [news]
        · rintro _ room reached ⟨⟩ hroom'
          rw [hroom] at hroom'
          cases hroom'
      | some room =>
        simp only [hroom]
        intro now
        cases hreached : w.sessions.userMap (targetUserId room req.senderId) with
        | none =>
          refine iff_of_true (authorised_of_quiet rfl ?_) ?_
          · simp [news]
          · rintro _ room' reached ⟨⟩ hroom' hreached'
            obtain rfl := Option.some.inj (hroom.symm.trans hroom')
            rw [hreached] at hreached'
            cases hreached'
        | some reached =>
          -- the message has reached somebody, so the sender has to be of the room
          refine Iff.trans (authorised_send_iff hroom rfl (news_eq rfl)) ⟨?_, fun h => ?_⟩
          · rintro h _ room' reached' ⟨⟩ hroom' -
            obtain rfl := Option.some.inj (hroom.symm.trans hroom')
            exact h
          · exact h req room reached rfl hroom hreached
  | close body =>
    refine wp_handleChatClose.mpr ?_
    cases hfound : body.toOption.bind w.chatRooms.getRoom with
    | none =>
      refine iff_of_true (authorised_of_quiet rfl ?_) ?_
      · simp [news]
      · rintro roomId room rfl hroom
        exact absurd (hfound.symm.trans hroom) (by simp)
    | some room =>
      obtain ⟨roomId, hbody, hroom⟩ := Option.bind_eq_some_iff.mp hfound
      obtain rfl := ChatRoomManager.roomId_of_getRoom hroom
      -- the room has been closed, so the caller has to be of the room
      refine Iff.trans (authorised_close_iff (w.sessions.object session).userId hroom rfl ?_)
        ⟨?_, fun h => ?_⟩
      · simp [news]
      · rintro h roomId' room' rfl hroom'
        obtain rfl := Option.some.inj (hfound.symm.trans hroom')
        exact h
      · refine h room.roomId room ?_ hroom
        cases body with
        | error what => cases hbody
        | ok roomId' => exact congrArg Except.ok (Option.some.inj hbody)

/-! ### The room of `kim` and the administrator, with `lee` outside -/

/-- The administrator reads what `kim` writes. -/
theorem authorised_kim :
    Authorised sampleWorld
      { sampleWorld with
        sent := [.toUser "admin" (some 1)
            ⟨CmdID.NOTIFY_MSG_TO_ADMIN, .recv ⟨1, "kim", "hi", "12:00"⟩⟩,
          .reply 0 ⟨CmdID.RES_CHAT_SEND, .sent ⟨200, "전송 완료"⟩⟩] } 0 := by
  have hr : (handler (send (.ok ⟨1, "kim", "hi"⟩))).run (ChatWorld.exec 0) ["", "12:00", "", ""]
      sampleWorld = some (.ok (), { sampleWorld with
        sent := [.toUser "admin" (some 1)
            ⟨CmdID.NOTIFY_MSG_TO_ADMIN, .recv ⟨1, "kim", "hi", "12:00"⟩⟩,
          .reply 0 ⟨CmdID.RES_CHAT_SEND, .sent ⟨200, "전송 완료"⟩⟩] }) := rfl
  refine (authorised_iff hr).mpr ?_
  rintro req room reached ⟨⟩ hroom -
  obtain rfl := Option.some.inj hroom
  exact ⟨rfl, rfl, .inl rfl⟩

/-- `lee` writes to the administrator in the name of `kim`, and closes the room. -/
theorem not_authorised_lee :
    (∃ w', (handler (send (.ok ⟨1, "kim", "hi"⟩))).run (ChatWorld.exec 2) ["", "12:00", "", ""]
        sampleWorld = some (.ok (), w') ∧ ¬Authorised sampleWorld w' 2) ∧
      ∃ w', (handler (close (.ok 1))).run (ChatWorld.exec 2) ["", "", "", "", ""] sampleWorld =
        some (.ok (), w') ∧ ¬Authorised sampleWorld w' 2 := by
  refine ⟨⟨_, rfl, fun h => ?_⟩, ⟨_, rfl, fun h => ?_⟩⟩
  · have hsender := (h.message "admin" 1 _ _ List.mem_cons_self).1
    exact absurd hsender (by decide)
  · have hin := h.room ⟨1, "kim", "admin", 0⟩ rfl (.inr ?_)
    · exact absurd hin.2 (by decide)
    · decide

end ChatAction

end ItsBedalyo
