import ItsBedalyo.Handler.ChatHandler

/-!
# The end of a chat

Once a participant has received the exit notice of a room, nothing about the room may reach that
user (`ExitFinal`). Look-up, notices and removal are critical sections of their own, so this is a
matter of how the calls overlap: `Quiet` says of a step that it does not let a packet be sent after
the notice, by what the programs that are under way will still send (`Prog.WillCall`), and the runs
whose steps are quiet keep the law (`exitFinal_of_along`).
-/

namespace ItsBedalyo

open Prog Transition ChatProg ChatHandler

namespace ChatExit

/-! ### The law -/

/-- A packet about the room that reaches the user. -/
def Reaches (userId : String) (roomId : ℤ) : ChatSent → Prop
  | .toUser userId' (some _) packet => userId' = userId ∧ packet.inRoom = some roomId
  | _ => False

/-- An exit notice of the room that reaches the user. -/
def Ends (userId : String) (roomId : ℤ) : ChatSent → Prop
  | .toUser userId' (some _) ⟨_, .exit roomId' _⟩ => userId' = userId ∧ roomId' = roomId
  | _ => False

/-- The user has received the exit notice of the room. -/
def Exited (sent : List ChatSent) (userId : String) (roomId : ℤ) : Prop :=
  ∃ x ∈ sent, Ends userId roomId x

/-- Nothing about a room reaches a user after its exit notice. -/
def ExitFinal (sent : List ChatSent) : Prop :=
  sent.Pairwise fun x y => ∀ userId roomId, Ends userId roomId x → ¬Reaches userId roomId y

theorem exitFinal_append {sent : List ChatSent} {y : ChatSent} :
    ExitFinal (sent ++ [y]) ↔ ExitFinal sent ∧
      ∀ userId roomId, Exited sent userId roomId → ¬Reaches userId roomId y := by
  simp only [ExitFinal, List.pairwise_append, List.pairwise_singleton, List.mem_singleton,
    forall_eq, true_and]
  refine and_congr_right fun _ =>
    ⟨fun h userId roomId hex => ?_, fun h x hx userId roomId hends => ?_⟩
  · obtain ⟨x, hx, hends⟩ := hex
    exact h x hx userId roomId hends
  · exact h userId roomId ⟨x, hx, hends⟩

theorem exited_append {sent : List ChatSent} {y : ChatSent} {userId : String} {roomId : ℤ} :
    Exited (sent ++ [y]) userId roomId ↔ Exited sent userId roomId ∨ Ends userId roomId y := by
  simp only [Exited, List.mem_append, List.mem_singleton, or_and_right, exists_or,
    exists_eq_left]

/-! ### What calls owe -/

/-- The call of an operation that sends the user something about the room. -/
def Sends (userId : String) (roomId : ℤ) (o : ChatOp) : Prop :=
  ∃ packet, o = .sendToUser userId packet ∧ packet.inRoom = some roomId

/-- What a call that has found a room will send about it, in order: to whom. -/
def plan : ChatCall → ChatRoom → List String
  | .send (.ok req), room => [ChatHandler.targetUserId room req.senderId]
  | .close _, room => [room.customerId, room.adminId]
  | _, _ => []

/-- What is still to be sent: a room, and the users it goes to. -/
structure Debt where
  roomId : ℤ
  users : List String

/-- A call that owes nothing. -/
def Debt.none : Debt := ⟨0, []⟩

/-- What becomes of the debt of a call: a room that is found makes it, and each packet about the
room pays the first part of it. -/
def settle (call : ChatCall) (d : Debt) : (o : ChatOp) → o.Res → Debt
  | .getRoom roomId, found =>
    match (found : Option ChatRoom) with
    | some room => ⟨roomId, plan call room⟩
    | none => d
  | .sendToUser _ packet, _ => if packet.inRoom.isSome then ⟨d.roomId, d.users.tail⟩ else d
  | _, _ => d

theorem settle_sendToUser_of_none {call : ChatCall} {d : Debt} {userId : String}
    {packet : ChatPacket} (a : Bool) (h : packet.inRoom = none) :
    settle call d (.sendToUser userId packet) a = d := by
  simp [settle, h]

theorem settle_sendToUser_of_some {call : ChatCall} {d : Debt} {userId : String}
    {packet : ChatPacket} {roomId : ℤ} (a : Bool) (h : packet.inRoom = some roomId) :
    settle call d (.sendToUser userId packet) a = ⟨d.roomId, d.users.tail⟩ := by
  simp [settle, h]

/-- Sending pays, and makes no debt. -/
theorem settle_sendToUser_subset {call : ChatCall} {d : Debt} {userId userId' : String}
    {packet : ChatPacket} {a : Bool}
    (h : userId' ∈ (settle call d (.sendToUser userId packet) a).users) :
    userId' ∈ d.users ∧ (settle call d (.sendToUser userId packet) a).roomId = d.roomId := by
  cases hin : packet.inRoom with
  | none =>
    rw [settle_sendToUser_of_none a hin] at h ⊢
    exact ⟨h, rfl⟩
  | some roomId =>
    rw [settle_sendToUser_of_some a hin] at h ⊢
    exact ⟨List.mem_of_mem_tail h, rfl⟩

/-- A call that looks up a room owes nothing, and what it sends about a room it owes. -/
def ledger (call : ChatCall) : ChatAccount Debt where
  pre d
    | .getRoom _ => d.users = []
    | .sendToUser userId packet =>
      ∀ roomId, packet.inRoom = some roomId → roomId = d.roomId ∧ d.users.head? = some userId
    | _ => True
  next := settle call

/-- Every call pays its debt. -/
theorem program_pays (call : ChatCall) :
    (ledger call).interface.wp call.program (fun _ d => d.users = []) .none := by
  cases call with
  | connect body =>
    cases body with
    | error what => simp [ChatCall.program, handleChatRequest, Debt.none]
    | ok req => simp [ChatCall.program, handleChatRequest, ledger, settle, Debt.none]
  | accept body =>
    cases body with
    | error what => simp [ChatCall.program, handleChatAccept, Debt.none]
    | ok req =>
      simp [ChatCall.program, handleChatAccept, ledger, settle, ChatPacket.inRoom, Debt.none]
  | send body =>
    cases body with
    | error what => simp [ChatCall.program, handleChatSend, Debt.none]
    | ok req =>
      simp [ChatCall.program, handleChatSend, ledger, settle, ChatPacket.inRoom, plan, Debt.none,
        Option.forall]
  | close body =>
    cases body with
    | error what => simp [ChatCall.program, handleChatClose, ledger, settle, Debt.none]
    | ok roomId =>
      simp [ChatCall.program, handleChatClose, ledger, settle, ChatPacket.inRoom, exitNotice, plan,
        Debt.none, Option.forall]
  | others f => exact (ledger _).wp_op_account.mpr ⟨trivial, fun _ => rfl⟩

/-- A call that owes a user something about a room will send it. -/
theorem willCall_of_owes {call : ChatCall} {p : ChatProg Unit} {d : Debt} {userId : String}
    (hwp : (ledger call).interface.wp p (fun _ d => d.users = []) d) (howes : userId ∈ d.users) :
    p.WillCall (Sends userId d.roomId) := by
  refine willCall_of_wp (fun d' => d'.roomId = d.roomId ∧ userId ∈ d'.users) ?_ ?_ ?_ hwp
    ⟨rfl, howes⟩
  · exact fun d' o a _ => ⟨_, a, rfl, rfl⟩
  · rintro d' o _ _ ⟨hroom, hmem⟩ hpre hq ⟨a, -, rfl⟩
    cases o with
    | getRoom roomId =>
      rw [(hpre : d'.users = [])] at hmem
      cases hmem
    | sendToUser userId' packet =>
      cases hin : packet.inRoom with
      | none =>
        show (settle call d' _ a).roomId = _ ∧ _ ∈ (settle call d' _ a).users
        rw [settle_sendToUser_of_none a hin]
        exact ⟨hroom, hmem⟩
      | some roomId =>
        show (settle call d' _ a).roomId = _ ∧ _ ∈ (settle call d' _ a).users
        rw [settle_sendToUser_of_some a hin]
        obtain ⟨rfl, hhead⟩ := hpre roomId hin
        obtain ⟨rest, husers⟩ := List.head?_eq_some_iff.mp hhead
        refine ⟨hroom, ?_⟩
        rw [husers] at hmem ⊢
        rcases List.mem_cons.mp hmem with rfl | hmem
        · exact absurd ⟨packet, rfl, hroom ▸ hin⟩ hq
        · exact hmem
    | _ => exact ⟨hroom, hmem⟩
  · rintro _ d' hpaid ⟨-, hmem⟩
    rw [hpaid] at hmem
    cases hmem

/-! ### Runs -/

variable {τ : Type*} [DecidableEq τ]

/-- A step that lets nothing be sent after an exit notice: a room is found only by calls whose
packets go to users who have not received its notice, and a notice reaches a user only when no call
has still to send that user something about the room. -/
def Quiet (s : Threads τ ChatOp.Res String ChatWorld) (a : τ × String) : Prop :=
  match s.todo a.1 with
  | .call (.getRoom roomId) k => ∀ room userId, s.world.chatRooms.getRoom roomId = some room →
      (k (.ok (some room))).WillCall (Sends userId roomId) → ¬Exited s.world.sent userId roomId
  | .call (.sendToUser userId packet) k => ∀ roomId message, packet.payload = .exit roomId message →
      s.world.sessions.userMap userId ≠ none →
        ∀ t, ¬(Function.update s.todo a.1 (k (.ok true)) t).WillCall (Sends userId roomId)
  | _ => True

/-- The law, and that nobody owes a packet to a user who has received the notice. -/
structure Keeps (w : ChatWorld) (g : τ → Debt) : Prop where
  final : ExitFinal w.sent
  owed : ∀ t, ∀ userId ∈ (g t).users, ¬Exited w.sent userId (g t).roomId

variable {calls : τ → SessionRef × ChatCall} {s s' : Threads τ ChatOp.Res String ChatWorld}

/-- Every call pays what it owes, and nobody is owed anything after the notice. -/
abbrev Safe (calls : τ → SessionRef × ChatCall) :
    Threads τ ChatOp.Res String ChatWorld → Prop :=
  Threads.Safe (fun t => (ledger (calls t).2).interface) Keeps fun _ _ d => d.users = []

omit [DecidableEq τ] in
theorem safe_start {w : ChatWorld} (h : ExitFinal w.sent) :
    Safe calls (ChatSystem.start calls w) := by
  refine ⟨fun _ => .none, ⟨h, fun t userId hmem => ?_⟩, fun t => program_pays _⟩
  cases hmem

theorem Ends.reaches {userId : String} {roomId : ℤ} {x : ChatSent} (h : Ends userId roomId x) :
    Reaches userId roomId x := by
  unfold Ends at h
  split at h
  · obtain ⟨rfl, rfl⟩ := h
    exact ⟨rfl, rfl⟩
  · exact h.elim

theorem Ends.exit {userId : String} {roomId : ℤ} {reached : Option SessionRef}
    {packet : ChatPacket} (h : Ends userId roomId (.toUser userId reached packet)) :
    (∃ session, reached = some session) ∧ ∃ message, packet.payload = .exit roomId message := by
  cases reached with
  | none => exact h.elim
  | some session =>
    obtain ⟨cmdId, payload⟩ := packet
    cases payload with
    | exit roomId' message =>
      obtain ⟨-, rfl⟩ := h
      exact ⟨⟨session, rfl⟩, message, rfl⟩
    | _ => exact h.elim

section Keeps

variable {w w' : ChatWorld} {g : τ → Debt}

/-- A step of a call that owes the same afterwards and reaches no user. -/
theorem Keeps.of_quiet (h : Keeps w g) (t : τ)
    (hsent : w'.sent = w.sent ∨
      ∃ x, w'.sent = w.sent ++ [x] ∧ ∀ userId roomId, ¬Reaches userId roomId x) :
    Keeps w' (Function.update g t (g t)) := by
  rw [Function.update_eq_self]
  rcases hsent with hsent | ⟨x, hsent, hquiet⟩
  · exact ⟨hsent ▸ h.final, hsent ▸ h.owed⟩
  · refine ⟨?_, fun t userId hmem hex => ?_⟩
    · rw [hsent, exitFinal_append]
      exact ⟨h.final, fun userId roomId _ => hquiet userId roomId⟩
    · rw [hsent, exited_append] at hex
      rcases hex with hex | hends
      · exact h.owed t userId hmem hex
      · exact hquiet _ _ hends.reaches

/-- A room is found. -/
theorem Keeps.of_found (h : Keeps w g) (t : τ) {d : Debt}
    (howed : ∀ userId ∈ d.users, ¬Exited w.sent userId d.roomId) :
    Keeps w (Function.update g t d) := by
  refine ⟨h.final, fun t' userId hmem => ?_⟩
  rcases eq_or_ne t' t with rfl | hne
  · rw [Function.update_self] at hmem ⊢
    exact howed userId hmem
  · rw [Function.update_of_ne hne] at hmem ⊢
    exact h.owed t' userId hmem

/-- A packet is sent to a user, by a call that owes it if it is about a room. -/
theorem Keeps.of_sent (h : Keeps w g) (t : τ) {call : ChatCall} {userId : String}
    {reached : Option SessionRef} {packet : ChatPacket} {a : Bool}
    (hsent : w'.sent = w.sent ++ [.toUser userId reached packet])
    (howes : ∀ roomId, packet.inRoom = some roomId →
      roomId = (g t).roomId ∧ (g t).users.head? = some userId)
    (hends : ∀ roomId, Ends userId roomId (.toUser userId reached packet) →
      ∀ t',
        userId ∈
          (Function.update g t (settle call (g t) (.sendToUser userId packet) a) t').users →
        (Function.update g t (settle call (g t) (.sendToUser userId packet) a) t').roomId ≠
          roomId) :
    Keeps w' (Function.update g t (settle call (g t) (.sendToUser userId packet) a)) := by
  refine ⟨?_, fun t' userId' hmem hex => ?_⟩
  · rw [hsent, exitFinal_append]
    refine ⟨h.final, fun userId' roomId hex hreaches => ?_⟩
    cases reached with
    | none => exact hreaches
    | some reached =>
      obtain ⟨rfl, hin⟩ := hreaches
      obtain ⟨rfl, hhead⟩ := howes roomId hin
      exact h.owed t userId (List.mem_of_mem_head? hhead) hex
  · rw [hsent, exited_append] at hex
    rcases hex with hex | hends'
    · -- what was owed before is owed to users who had not received the notice then
      rcases eq_or_ne t' t with rfl | hne
      · rw [Function.update_self] at hmem hex
        obtain ⟨hmem', hroom⟩ := settle_sendToUser_subset hmem
        rw [hroom] at hex
        exact h.owed t' userId' hmem' hex
      · rw [Function.update_of_ne hne] at hmem hex
        exact h.owed t' userId' hmem hex
    · have huser : userId' = userId := by
        have hreaches := hends'.reaches
        cases reached with
        | none => exact hreaches.elim
        | some reached => exact hreaches.1.symm
      rw [huser] at hmem hends'
      exact hends _ hends' t' hmem rfl

end Keeps

theorem safe_step {a : τ × String} (hquiet : Quiet s a) (h : Safe calls s)
    (hs : ChatSystem.step calls s a = some s') : Safe calls s' := by
  refine h.step_of_wp (fun g o k r w hJ hwp htodo he => ?_) hs
  have hnext := hwp a.1
  rw [htodo] at hnext
  unfold Quiet at hquiet
  rw [htodo] at hquiet
  cases o with
  | getRoom roomId =>
    cases he
    refine ⟨_, ⟨_, rfl, rfl⟩, ?_⟩
    cases hfound : s.world.chatRooms.getRoom roomId with
    | none => exact hJ.of_quiet a.1 (.inl rfl)
    | some room =>
      -- the step is quiet: whom the call will send to has not had the notice
      refine hJ.of_found a.1 fun userId hmem => ?_
      refine hquiet room userId hfound ?_
      have hrest := hnext.2 (.ok (some room)) _ ⟨some room, rfl, rfl⟩
      exact willCall_of_owes hrest hmem
  | sendToUser userId packet =>
    cases he
    refine ⟨settle (calls a.1).2 (g a.1) (.sendToUser userId packet)
      (s.world.sessions.userMap userId).isSome, ⟨_, rfl, rfl⟩,
      hJ.of_sent a.1 rfl hnext.1 fun roomId hends t hmem hroom => ?_⟩
    obtain ⟨⟨session, hsession⟩, message, hpayload⟩ := hends.exit
    refine hquiet roomId message hpayload (by rw [hsession]; exact Option.some_ne_none _) t ?_
    -- nobody is owed a packet of the room any more, by this call or another
    rcases eq_or_ne t a.1 with rfl | hne
    · rw [Function.update_self] at hmem hroom ⊢
      have hrest := hnext.2 (.ok true) _ ⟨true, rfl, rfl⟩
      rw [hsession] at hmem hroom
      exact hroom ▸ willCall_of_owes hrest hmem
    · rw [Function.update_of_ne hne] at hmem hroom ⊢
      exact hroom ▸ willCall_of_owes (hwp t) hmem
  | sendPacket packet =>
    cases he
    exact ⟨_, ⟨_, rfl, rfl⟩, hJ.of_quiet a.1 (.inr ⟨_, rfl, fun _ _ h => h⟩)⟩
  | broadcastToRole targetRole packet =>
    cases he
    exact ⟨_, ⟨_, rfl, rfl⟩, hJ.of_quiet a.1 (.inr ⟨_, rfl, fun _ _ h => h⟩)⟩
  | _ =>
    cases he
    exact ⟨_, ⟨_, rfl, rfl⟩, hJ.of_quiet a.1 (.inl rfl)⟩

/-- **The exit is final.** In every run of any calls whose steps are quiet, nothing about a room
reaches a user who has received its exit notice. -/
theorem exitFinal_of_along {w : ChatWorld} (h : ExitFinal w.sent) {l : List (τ × String)}
    (hquiet : Along (ChatSystem.step calls) Quiet (ChatSystem.start calls w) l) :
    Always (ChatSystem.step calls) (fun s => ExitFinal s.world.sent)
      (ChatSystem.start calls w) l := by
  have hsafe := always_of_along (fun s a s' h hquiet hs => safe_step hquiet h hs)
    (safe_start h) hquiet
  exact hsafe.mono fun s ⟨_, hkeeps, _⟩ => hkeeps.final

/-! ### A message and the end of a chat -/

open ChatSystem

/-- `kim` writes, and the administrator closes the room. -/
def sampleCalls : Bool → SessionRef × ChatCall
  | false => (0, .send (.ok ⟨1, "kim", "hi"⟩))
  | true => (1, .close (.ok 1))

/-- One after the other. -/
def sampleRun : List (Bool × String) :=
  [(false, ""), (false, "12:00"), (false, ""), (false, ""),
    (true, ""), (true, ""), (true, ""), (true, ""), (true, "")]

theorem exitFinal_sample :
    Always (ChatSystem.step sampleCalls) (fun s => ExitFinal s.world.sent)
      (start sampleCalls sampleWorld) sampleRun := by
  have hfinal : ExitFinal sampleWorld.sent := List.Pairwise.nil
  refine exitFinal_of_along hfinal ?_
  -- the message
  rintro _ ⟨⟩
  refine ⟨fun room userId _ _ ⟨x, hx, _⟩ => (nomatch hx), ?_⟩
  rintro _ ⟨⟩
  refine ⟨trivial, ?_⟩
  rintro _ ⟨⟩
  refine ⟨fun roomId message hexit => (nomatch hexit), ?_⟩
  rintro _ ⟨⟩
  refine ⟨trivial, ?_⟩
  -- the end
  rintro _ ⟨⟩
  refine ⟨trivial, ?_⟩
  rintro _ ⟨⟩
  refine ⟨fun room userId _ _ ⟨x, hx, hends⟩ => ?_, ?_⟩
  · rcases List.mem_cons.mp hx with rfl | hx
    · exact hends
    · obtain rfl := List.mem_singleton.mp hx
      exact hends
  rintro _ ⟨⟩
  refine ⟨?_, ?_⟩
  · -- `kim` is told, and the administrator is still to be told
    rintro roomId message ⟨⟩ - t h
    cases t with
    | false => exact h
    | true =>
      rcases h with ⟨packet, hop, -⟩ | h
      · exact absurd (ChatOp.sendToUser.inj hop).1 (by decide)
      · rcases h true with ⟨packet, hop, -⟩ | h
        · cases hop
        · exact h ()
  rintro _ ⟨⟩
  refine ⟨?_, ?_⟩
  · rintro roomId message ⟨⟩ - t h
    cases t with
    | false => exact h
    | true =>
      rcases h with ⟨packet, hop, -⟩ | h
      · cases hop
      · exact h ()
  rintro _ ⟨⟩
  exact ⟨trivial, trivial⟩

/-- Both participants close the room, and `kim` is told twice; `kim` looks the room up before it
is closed, and the administrator reads the message after the end. -/
theorem not_exitFinal_overlap :
    (∃ s, run (ChatSystem.step fun t : Bool => (if t then 1 else 0, ChatCall.close (.ok 1)))
        (start (fun t : Bool => (if t then 1 else 0, ChatCall.close (.ok 1))) sampleWorld)
        [(false, ""), (false, ""), (true, ""), (true, ""), (false, ""), (true, "")] = some s ∧
      ¬ExitFinal s.world.sent) ∧
    ∃ s, run (ChatSystem.step sampleCalls) (start sampleCalls sampleWorld)
        [(false, ""), (true, ""), (true, ""), (true, ""), (true, ""), (true, ""), (false, "12:00"),
          (false, "")] = some s ∧
      ¬ExitFinal s.world.sent := by
  refine ⟨⟨_, rfl, fun h => ?_⟩, ⟨_, rfl, fun h => ?_⟩⟩
  · have hlaw := (List.pairwise_cons.mp h).1 _ List.mem_cons_self "kim" 1 ⟨rfl, rfl⟩
    exact hlaw ⟨rfl, rfl⟩
  · obtain ⟨-, hrest⟩ := List.pairwise_cons.mp h
    have hlaw := (List.pairwise_cons.mp hrest).1 _ List.mem_cons_self "admin" 1 ⟨rfl, rfl⟩
    exact hlaw ⟨rfl, rfl⟩

end ChatExit

end ItsBedalyo
