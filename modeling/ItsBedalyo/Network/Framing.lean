import ItsBedalyo.Network.PacketFramer

/-!
# What the framer makes of a stream

A stream of packets built by `sendPacket` is framed back into its messages however it is cut
into chunks.

The proof rests on `peel`, the pass seen as a decoder of one packet: it agrees with `pass` as
long as the size does not wrap, and there the rules of `StreamDecoder` apply.
-/

namespace ItsBedalyo

open StreamDecoder

/-- A message of the protocol: what a caller passes to `sendPacket`. -/
structure Message where
  cmdId : CmdID
  jsonBody : List Byte
  deriving DecidableEq

namespace Message

/-- The bytes `sendPacket` writes for the message. -/
def packet (m : Message) : List Byte := ClientSession.sendBuffer m.cmdId m.jsonBody

/-- The call of `Dispatcher::dispatch` that hands the message over. -/
def dispatched (m : Message) : Dispatch :=
  ⟨ClientSession.header m.cmdId m.jsonBody, some m.jsonBody⟩

/-- The size of the whole packet fits in `totalPacketSize`. -/
def Fits (m : Message) : Prop := PacketHeader.size + m.jsonBody.length < 2 ^ 32

end Message

namespace PacketFramer

/-- A header with the right signature is at the front of the buffer. -/
def SignedHeader (buffer : List Byte) (header : PacketHeader) : Prop :=
  ∃ raw, PacketHeader.ofBytes buffer = some raw ∧ raw.toHost = header ∧
    header.signature = PacketHeader.eatsConnect

theorem SignedHeader.unique {buffer : List Byte} {h₁ h₂ : PacketHeader}
    (s₁ : SignedHeader buffer h₁) (s₂ : SignedHeader buffer h₂) : h₁ = h₂ := by
  obtain ⟨raw₁, hraw₁, rfl, -⟩ := s₁
  obtain ⟨raw₂, hraw₂, rfl, -⟩ := s₂
  rw [Option.some_injective _ (hraw₁.symm.trans hraw₂)]

theorem SignedHeader.size_le {buffer : List Byte} {header : PacketHeader}
    (h : SignedHeader buffer header) : PacketHeader.size ≤ buffer.length := by
  obtain ⟨raw, hraw, -, -⟩ := h
  exact (PacketHeader.ofBytes_isSome_iff buffer).mp (by simp [hraw])

theorem SignedHeader.append {buffer : List Byte} {header : PacketHeader}
    (h : SignedHeader buffer header) (rest : List Byte) :
    SignedHeader (buffer ++ rest) header := by
  obtain ⟨raw, hraw, hhost, hsig⟩ := h
  exact ⟨raw, PacketHeader.ofBytes_append hraw rest, hhost, hsig⟩

/-! ### One pass -/

theorem toNat_totalPacketSize (header : PacketHeader) :
    (totalPacketSize header).toNat =
      (PacketHeader.size + header.bodySize.toNat) % 2 ^ 32 := by
  simp [totalPacketSize, PacketHeader.size]

/-- Below the top of the range the sum is the real one. -/
theorem toNat_totalPacketSize_of_lt {header : PacketHeader}
    (h : PacketHeader.size + header.bodySize.toNat < 2 ^ 32) :
    (totalPacketSize header).toNat = PacketHeader.size + header.bodySize.toNat := by
  rw [toNat_totalPacketSize, Nat.mod_eq_of_lt h]

/-- In the top eight values of `bodySize` the sum wraps to less than a header. -/
theorem toNat_totalPacketSize_of_le {header : PacketHeader}
    (h : 2 ^ 32 ≤ PacketHeader.size + header.bodySize.toNat) :
    (totalPacketSize header).toNat < PacketHeader.size := by
  have hlt : header.bodySize.toNat < 2 ^ 32 := header.bodySize.isLt
  rw [toNat_totalPacketSize]
  simp only [PacketHeader.size] at h ⊢
  omega

/-- What a pass that dispatches has seen. -/
theorem pass_eq_dispatch_iff {buffer : List Byte} {call : Dispatch} {total : BitVec 32} :
    pass buffer = .dispatch call total ↔
      SignedHeader buffer call.header ∧ total = totalPacketSize call.header ∧
        total.toNat ≤ buffer.length ∧
        call.jsonBody = slice buffer PacketHeader.size call.header.bodySize.toNat := by
  constructor
  · intro h
    unfold pass at h
    split at h
    · cases h
    · next raw hraw =>
      simp only at h
      split_ifs at h with hsig hlen
      cases h
      exact ⟨⟨raw, hraw, rfl, not_not.mp hsig⟩, rfl, Nat.le_of_not_lt hlen, rfl⟩
  · rintro ⟨⟨raw, hraw, hhost, hsig⟩, rfl, hlen, hbody⟩
    obtain ⟨header, jsonBody⟩ := call
    simp only at hhost hsig hlen hbody
    simp [pass, hraw, hhost, hsig, hbody, Nat.not_lt.mpr hlen]

/-- A pass dispatches as soon as the buffer holds as much as the header announces. -/
theorem pass_eq_dispatch_of_le {buffer : List Byte} {header : PacketHeader}
    (h : SignedHeader buffer header) (hle : (totalPacketSize header).toNat ≤ buffer.length) :
    pass buffer = .dispatch ⟨header, slice buffer PacketHeader.size header.bodySize.toNat⟩
      (totalPacketSize header) :=
  pass_eq_dispatch_iff.mpr ⟨h, rfl, hle, rfl⟩

/-- A pass waits on a buffer that is shorter than what it announces. -/
theorem pass_eq_wait_of_lt {buffer : List Byte} {header : PacketHeader}
    (h : SignedHeader buffer header) (hlt : buffer.length < (totalPacketSize header).toNat) :
    pass buffer = .wait := by
  obtain ⟨raw, hraw, rfl, hsig⟩ := h
  simp [pass, hraw, hsig, hlt]

/-- A pass waits on less than a header. -/
theorem pass_eq_wait_of_short {buffer : List Byte} (h : buffer.length < PacketHeader.size) :
    pass buffer = .wait := by
  have hnone : PacketHeader.ofBytes buffer = none := by
    rw [← Option.not_isSome_iff_eq_none, PacketHeader.ofBytes_isSome_iff]
    exact Nat.not_le.mpr h
  simp [pass, hnone]

/-! ### The pass as a decoder -/

/-- The pass as a decoder of one packet, where the size does not wrap. -/
def peel (buffer : List Byte) : Option (Dispatch × List Byte) :=
  match pass buffer with
  | .dispatch call total =>
    if PacketHeader.size + call.header.bodySize.toNat < 2 ^ 32 then
      some (call, buffer.drop total.toNat)
    else none
  | _ => none

/-- What `peel` takes off: a signed header, and a body that lies in the buffer. -/
theorem peel_eq_some_iff {buffer rest : List Byte} {call : Dispatch} :
    peel buffer = some (call, rest) ↔
      SignedHeader buffer call.header ∧
        PacketHeader.size + call.header.bodySize.toNat < 2 ^ 32 ∧
        PacketHeader.size + call.header.bodySize.toNat ≤ buffer.length ∧
        call.jsonBody = some ((buffer.drop PacketHeader.size).take call.header.bodySize.toNat) ∧
        rest = buffer.drop (PacketHeader.size + call.header.bodySize.toNat) := by
  constructor
  · intro h
    unfold peel at h
    split at h
    · next call' total hpass =>
      split_ifs at h with hlt
      cases h
      obtain ⟨hsigned, rfl, hlen, hbody⟩ := pass_eq_dispatch_iff.mp hpass
      rw [toNat_totalPacketSize_of_lt hlt] at hlen ⊢
      rw [slice, if_pos hlen] at hbody
      exact ⟨hsigned, hlt, hlen, hbody, rfl⟩
    · cases h
  · rintro ⟨hsigned, hlt, hlen, hbody, rfl⟩
    have htotal := toNat_totalPacketSize_of_lt hlt
    have hpass : pass buffer = .dispatch call (totalPacketSize call.header) := by
      refine pass_eq_dispatch_iff.mpr ⟨hsigned, rfl, htotal ▸ hlen, ?_⟩
      rw [slice, if_pos hlen, hbody]
    simp only [peel, hpass, if_pos hlt, htotal]

/-- The pass behind a successful `peel`. -/
theorem pass_of_peel {buffer rest : List Byte} {call : Dispatch}
    (h : peel buffer = some (call, rest)) :
    pass buffer = .dispatch call (totalPacketSize call.header) := by
  obtain ⟨hsigned, hlt, hlen, hbody, -⟩ := peel_eq_some_iff.mp h
  refine pass_eq_dispatch_iff.mpr ⟨hsigned, rfl, ?_, ?_⟩
  · rw [toNat_totalPacketSize_of_lt hlt]
    exact hlen
  · rw [slice, if_pos hlen, hbody]

theorem peel_local : Local peel := by
  intro buffer call rest h c
  obtain ⟨hsigned, hlt, hlen, hbody, rfl⟩ := peel_eq_some_iff.mp h
  refine peel_eq_some_iff.mpr ⟨hsigned.append c, hlt, ?_, ?_, ?_⟩
  · rw [List.length_append]
    omega
  · -- the body was complete before `c` arrived, so the cut does not reach into `c`
    have hsize : PacketHeader.size ≤ buffer.length := by omega
    have hcut : call.header.bodySize.toNat ≤ (buffer.drop PacketHeader.size).length := by
      rw [List.length_drop]
      omega
    rw [List.drop_append_of_le_length hsize, List.take_append_of_le_length hcut, hbody]
  · rw [List.drop_append_of_le_length hlen]

/-- Where the size does not wrap, a pass that finds nothing to peel waits or clears. -/
theorem pass_of_peel_eq_none {buffer : List Byte} (h : peel buffer = none)
    (hwrap : ∀ header, SignedHeader buffer header →
      PacketHeader.size + header.bodySize.toNat < 2 ^ 32) :
    pass buffer = .wait ∨ pass buffer = .badSignature := by
  cases hpass : pass buffer with
  | wait => exact .inl rfl
  | badSignature => exact .inr rfl
  | dispatch call total =>
    have hlt := hwrap call.header (pass_eq_dispatch_iff.mp hpass).1
    simp only [peel, hpass, if_pos hlt, reduceCtorEq] at h

/-- The session after its buffer has become `rest`. -/
def withBuffer (session : ClientSession) (rest : List Byte) : ClientSession :=
  { session with readBuffer := rest }

theorem removeReadData_of_le {session : ClientSession} {len : ℕ}
    (h : len ≤ session.readBuffer.length) :
    session.removeReadData len = withBuffer session (session.readBuffer.drop len) := by
  rw [ClientSession.removeReadData, if_pos h, withBuffer]

/-- What one pass does when there is a packet to peel. -/
theorem processBuffer_of_peel {session : ClientSession} {call : Dispatch} {rest : List Byte}
    (h : peel session.readBuffer = some (call, rest)) (fuel : ℕ) :
    processBuffer (fuel + 1) session =
      (processBuffer fuel (withBuffer session rest)).map fun (calls, session') =>
        (call :: calls, session') := by
  obtain ⟨-, hlt, hlen, -, rfl⟩ := peel_eq_some_iff.mp h
  have hremove : session.removeReadData (totalPacketSize call.header).toNat =
      withBuffer session (session.readBuffer.drop
        (PacketHeader.size + call.header.bodySize.toNat)) := by
    rw [toNat_totalPacketSize_of_lt hlt, removeReadData_of_le hlen]
  simp only [processBuffer, pass_of_peel h, hremove]

/-- The loop follows the drain of its buffer, and ends as the last pass ends. -/
theorem processBuffer_of_drains {buffer rest : List Byte} {calls : List Dispatch}
    (h : Drains peel buffer calls rest) {session session' : ClientSession}
    (hbuf : session.readBuffer = buffer)
    (hend : processBuffer 1 (withBuffer session rest) = some ([], session')) :
    ∃ fuel, processBuffer fuel session = some (calls, session') := by
  induction h generalizing session with
  | stop _ =>
    subst hbuf
    exact ⟨1, hend⟩
  | more hpeel _ ih =>
    obtain ⟨fuel, hfuel⟩ := @ih (withBuffer session _) rfl hend
    refine ⟨fuel + 1, ?_⟩
    rw [processBuffer_of_peel (hbuf ▸ hpeel), hfuel]
    rfl

theorem processBuffer_of_wait {session : ClientSession} (h : pass session.readBuffer = .wait) :
    processBuffer 1 session = some ([], session) := by
  simp only [processBuffer, h]

theorem processBuffer_of_badSignature {session : ClientSession}
    (h : pass session.readBuffer = .badSignature) :
    processBuffer 1 session =
      some ([], session.removeReadData session.readBuffer.length) := by
  simp only [processBuffer, h]

/-! ### Round trip -/

theorem signedHeader_packet (m : Message) (rest : List Byte) :
    SignedHeader (m.packet ++ rest) (ClientSession.header m.cmdId m.jsonBody) := by
  refine ⟨(ClientSession.header m.cmdId m.jsonBody).toNetwork, ?_,
    PacketHeader.toHost_toNetwork _, rfl⟩
  rw [Message.packet, ClientSession.sendBuffer, List.append_assoc]
  exact PacketHeader.ofBytes_toBytes_append _ _

theorem toNat_bodySize_header {m : Message} (h : m.Fits) :
    (ClientSession.header m.cmdId m.jsonBody).bodySize.toNat = m.jsonBody.length := by
  have hlt : m.jsonBody.length < 2 ^ 32 := Nat.lt_of_le_of_lt (Nat.le_add_left _ _) h
  rw [ClientSession.header, BitVec.toNat_ofNat, Nat.mod_eq_of_lt hlt]

@[simp] theorem length_packet (m : Message) :
    m.packet.length = PacketHeader.size + m.jsonBody.length :=
  ClientSession.length_sendBuffer _ _

/-- **A packet is read back.** Whatever follows it is left in the buffer. -/
theorem peel_packet {m : Message} (h : m.Fits) (rest : List Byte) :
    peel (m.packet ++ rest) = some (m.dispatched, rest) := by
  have hsize := toNat_bodySize_header h
  refine peel_eq_some_iff.mpr ⟨signedHeader_packet m rest, ?_, ?_, ?_, ?_⟩
  all_goals simp only [Message.dispatched, hsize]
  · exact h
  · simp
  · rw [Message.packet, ClientSession.sendBuffer, List.append_assoc,
      List.drop_left' (PacketHeader.length_toBytes _), List.take_left]
  · rw [← length_packet m, List.drop_left]

/-- A pass waits on a packet that has not arrived completely. -/
theorem pass_take_packet {m : Message} (h : m.Fits) {k : ℕ} (hk : k < m.packet.length) :
    pass (m.packet.take k) = .wait := by
  have hlen : (m.packet.take k).length = k := List.length_take_of_le (Nat.le_of_lt hk)
  by_cases hshort : k < PacketHeader.size
  · exact pass_eq_wait_of_short (hlen.symm ▸ hshort)
  · -- the header is complete and announces more than there is
    have hheader : SignedHeader (m.packet.take k) (ClientSession.header m.cmdId m.jsonBody) := by
      have hcut : m.packet.take k = (ClientSession.header m.cmdId m.jsonBody).toNetwork.toBytes ++
          m.jsonBody.take (k - PacketHeader.size) := by
        rw [Message.packet, ClientSession.sendBuffer, List.take_append,
          PacketHeader.length_toBytes, List.take_of_length_le]
        exact Nat.le_of_not_lt hshort
      rw [hcut]
      exact ⟨_, PacketHeader.ofBytes_toBytes_append _ _, PacketHeader.toHost_toNetwork _, rfl⟩
    refine pass_eq_wait_of_lt hheader ?_
    have hsize := toNat_bodySize_header h
    rw [toNat_totalPacketSize_of_lt (by rw [hsize]; exact h), hsize, hlen]
    simpa using hk

/-- A pass waits on what is left of a stream of packets. -/
theorem pass_rest {msgs : List Message} (hfits : ∀ m ∈ msgs, m.Fits) {b rest : List Byte} {n : ℕ}
    (h : Splits Message.packet msgs b n rest) : pass rest = .wait := by
  obtain rfl | ⟨m, hm, k, hk, rfl⟩ := h.rest_cases
  · exact pass_eq_wait_of_short (by simp [PacketHeader.size])
  · exact pass_take_packet (hfits m hm) hk

theorem peel_eq_none_of_wait {buffer : List Byte} (h : pass buffer = .wait) :
    peel buffer = none := by
  simp [peel, h]

/-- Draining what has arrived of a stream of packets takes off the complete ones. -/
theorem drains_of_splits {msgs : List Message} (hfits : ∀ m ∈ msgs, m.Fits) {b rest : List Byte}
    {n : ℕ} (h : Splits Message.packet msgs b n rest) :
    Drains peel b ((msgs.take n).map Message.dispatched) rest :=
  h.drains (fun m hm => peel_packet (hfits m hm)) (peel_eq_none_of_wait (pass_rest hfits h))

theorem length_lt_of_peel (buffer : List Byte) (call : Dispatch) (rest : List Byte)
    (h : peel buffer = some (call, rest)) : rest.length < buffer.length := by
  obtain ⟨-, -, hlen, -, rfl⟩ := peel_eq_some_iff.mp h
  rw [List.length_drop]
  simp only [PacketHeader.size] at hlen ⊢
  omega

theorem peel_nil : peel [] = none :=
  peel_eq_none_of_wait (pass_eq_wait_of_short (by simp [PacketHeader.size]))

/-- The framer makes of the chunks of a stream what the decoder makes of them: after each
chunk the loop ends with a pass that waits. -/
theorem receives_of_feeds {msgs : List Message} (hfits : ∀ m ∈ msgs, m.Fits) (fd : Fd)
    {chunks : List (List Byte)} {calls : List Dispatch} {rest : List Byte}
    (h : Feeds peel chunks calls rest) (hstream : chunks.flatten <+: msgs.flatMap Message.packet) :
    Receives (.new fd) chunks calls (withBuffer (.new fd) rest) := by
  induction h with
  | nil => exact .nil
  | @snoc c e e' cs ms ms' hf hd ih =>
    have hpast : cs.flatten <+: msgs.flatMap Message.packet := by
      rw [List.flatten_append] at hstream
      exact (List.prefix_append _ _).trans hstream
    obtain ⟨n, rest, hsplit⟩ := exists_splits hstream
    -- what is in the buffer now is what is left of the whole stream so far, so the pass waits
    have hall := (hf.snoc hd).drains peel_local peel_nil
    obtain ⟨-, rfl⟩ := hall.unique (drains_of_splits hfits hsplit)
    have hend := processBuffer_of_wait
      (show pass (withBuffer ((withBuffer (.new fd) e).appendToReadBuffer c) e').readBuffer = .wait
        from pass_rest hfits hsplit)
    obtain ⟨fuel, hfuel⟩ := processBuffer_of_drains hd rfl hend
    exact (ih hpast).snoc hfuel

/-- **Framing round trip.** Cut a stream of packets into chunks in any way and pass them to
`onReceiveData`: after each chunk, exactly the messages that have arrived completely have been
dispatched, in order and once each, and the buffer holds what there is of the next one. -/
theorem framing_round_trip (fd : Fd) (msgs : List Message) (hfits : ∀ m ∈ msgs, m.Fits)
    (chunks : List (List Byte)) (hcut : chunks.flatten = msgs.flatMap Message.packet) (k : ℕ) :
    ∃ n rest, Splits Message.packet msgs (chunks.take k).flatten n rest ∧
      ∀ calls session, Receives (.new fd) (chunks.take k) calls session ↔
        calls = (msgs.take n).map Message.dispatched ∧
          session = { ClientSession.new fd with readBuffer := rest } := by
  have hstream : (chunks.take k).flatten <+: msgs.flatMap Message.packet := by
    rw [← hcut]
    exact (List.take_prefix k chunks).flatten
  obtain ⟨n, rest, hsplit⟩ := exists_splits hstream
  obtain ⟨calls₀, rest₀, hfeeds⟩ := exists_feeds length_lt_of_peel (chunks.take k)
  obtain ⟨rfl, rfl⟩ :=
    (hfeeds.drains peel_local peel_nil).unique (drains_of_splits hfits hsplit)
  have hreceives := receives_of_feeds hfits fd hfeeds hstream
  refine ⟨n, rest₀, hsplit, fun calls session => ⟨fun h => h.unique hreceives, ?_⟩⟩
  rintro ⟨rfl, rfl⟩
  exact hreceives

/-- A message without a body, cut inside its header. -/
theorem framing_round_trip_split_header :
    ∃ n rest, Splits Message.packet [⟨1030, []⟩] [0x45, 0x43, 0x04] n rest ∧
      ∀ calls session, Receives (.new 5) [[0x45, 0x43, 0x04]] calls session ↔
        calls = (([⟨1030, []⟩] : List Message).take n).map Message.dispatched ∧
          session = { ClientSession.new 5 with readBuffer := rest } :=
  framing_round_trip 5 [⟨1030, []⟩] (by simp [Message.Fits, PacketHeader.size])
    [[0x45, 0x43, 0x04], [0x06, 0, 0, 0, 0]] (by decide) 1

end PacketFramer

end ItsBedalyo
