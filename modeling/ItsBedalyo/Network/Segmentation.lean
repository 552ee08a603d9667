import ItsBedalyo.Network.FramerSafety

/-!
# A malformed stream, cut into chunks

On a wrong signature `processBuffer` announces that the session has to be terminated, but it
only clears the buffer and goes on with whatever arrives next. How much is thrown away depends
on how much had been buffered by then, so a packet behind the bad header is dispatched or not
according to where the stream was cut.

`cutIndependent_iff` says for which streams the cut does not matter all the same: no header
before the bad one announces a size that wraps, and no packet is complete at any position
behind the bad header.
-/

namespace ItsBedalyo

namespace PacketFramer

open StreamDecoder

/-- The command and the body a call of the dispatcher hands over. -/
def received (call : Dispatch) : BitVec 16 × Option (List Byte) :=
  (call.header.cmdId, call.jsonBody)

/-- However the stream is cut into chunks, `onReceiveData` returns for each of them and the
same commands and bodies are dispatched. -/
def CutIndependent (fd : Fd) (stream : List Byte) : Prop :=
  ∃ pairs, ∀ chunks : List (List Byte), chunks.flatten = stream →
    ∃ calls session, Receives (.new fd) chunks calls session ∧ calls.map received = pairs

/-- At no position behind the header of `rest` does the buffer hold a complete packet. -/
def NothingBehind (rest : List Byte) : Prop :=
  ∀ p, PacketHeader.size ≤ p → ∀ call total, pass (rest.drop p) ≠ .dispatch call total

/-! ### Wrong signatures and complete packets do not depend on what follows -/

/-- What a pass that clears has seen. -/
theorem pass_eq_badSignature_iff {buffer : List Byte} :
    pass buffer = .badSignature ↔
      ∃ raw, PacketHeader.ofBytes buffer = some raw ∧
        raw.toHost.signature ≠ PacketHeader.eatsConnect := by
  constructor
  · intro h
    unfold pass at h
    split at h
    · cases h
    · next raw hraw =>
      simp only at h
      split_ifs at h with hsig
      exact ⟨raw, hraw, hsig⟩
  · rintro ⟨raw, hraw, hsig⟩
    simp [pass, hraw, hsig]

theorem size_le_of_badSignature {buffer : List Byte} (h : pass buffer = .badSignature) :
    PacketHeader.size ≤ buffer.length := by
  obtain ⟨raw, hraw, -⟩ := pass_eq_badSignature_iff.mp h
  exact (PacketHeader.ofBytes_isSome_iff buffer).mp (by simp [hraw])

theorem badSignature_append {buffer : List Byte} (h : pass buffer = .badSignature)
    (rest : List Byte) : pass (buffer ++ rest) = .badSignature := by
  obtain ⟨raw, hraw, hsig⟩ := pass_eq_badSignature_iff.mp h
  exact pass_eq_badSignature_iff.mpr ⟨raw, PacketHeader.ofBytes_append hraw rest, hsig⟩

/-- The first eight bytes of a buffer decide about its header. -/
theorem ofBytes_take {buffer : List Byte} {raw : PacketHeader}
    (h : PacketHeader.ofBytes buffer = some raw) {p : ℕ} (hp : PacketHeader.size ≤ p) :
    PacketHeader.ofBytes (buffer.take p) = some raw := by
  have hlen : PacketHeader.size ≤ buffer.length :=
    (PacketHeader.ofBytes_isSome_iff buffer).mp (by simp [h])
  have htake : PacketHeader.size ≤ (buffer.take p).length := by
    rw [List.length_take]
    omega
  obtain ⟨raw', hraw'⟩ :=
    Option.isSome_iff_exists.mp ((PacketHeader.ofBytes_isSome_iff (buffer.take p)).mpr htake)
  have hall := PacketHeader.ofBytes_append hraw' (buffer.drop p)
  rw [List.take_append_drop, h] at hall
  rw [hraw', hall]

theorem badSignature_take {buffer : List Byte} (h : pass buffer = .badSignature) {p : ℕ}
    (hp : PacketHeader.size ≤ p) : pass (buffer.take p) = .badSignature := by
  obtain ⟨raw, hraw, hsig⟩ := pass_eq_badSignature_iff.mp h
  exact pass_eq_badSignature_iff.mpr ⟨raw, ofBytes_take hraw hp, hsig⟩

theorem signedHeader_take {buffer : List Byte} {header : PacketHeader}
    (h : SignedHeader buffer header) {p : ℕ} (hp : PacketHeader.size ≤ p) :
    SignedHeader (buffer.take p) header := by
  obtain ⟨raw, hraw, hhost, hsig⟩ := h
  exact ⟨raw, ofBytes_take hraw hp, hhost, hsig⟩

theorem not_signedHeader_of_badSignature {buffer : List Byte} {header : PacketHeader}
    (h : pass buffer = .badSignature) : ¬ SignedHeader buffer header := by
  rintro ⟨raw, hraw, rfl, hsig⟩
  obtain ⟨raw', hraw', hsig'⟩ := pass_eq_badSignature_iff.mp h
  rw [hraw] at hraw'
  obtain rfl := Option.some.inj hraw'
  exact hsig' hsig

theorem peel_eq_none_of_badSignature {buffer : List Byte} (h : pass buffer = .badSignature) :
    peel buffer = none := by
  simp [peel, h]

/-- A pass that dispatches also dispatches when more bytes are in the buffer. -/
theorem dispatch_append {buffer : List Byte} {call : Dispatch} {total : BitVec 32}
    (h : pass buffer = .dispatch call total) (rest : List Byte) :
    ∃ call' total', pass (buffer ++ rest) = .dispatch call' total' := by
  obtain ⟨hsigned, rfl, hlen, -⟩ := pass_eq_dispatch_iff.mp h
  refine ⟨_, _, pass_eq_dispatch_of_le (hsigned.append rest) ?_⟩
  rw [List.length_append]
  omega

/-! ### Boundaries and draining -/

theorem Boundary.trans {buffer middle rest : List Byte} (h : Boundary buffer middle)
    (h' : Boundary middle rest) : Boundary buffer rest := by
  induction h with
  | here => exact h'
  | next hsigned hlen _ ih => exact .next hsigned hlen (ih h')

theorem Boundary.append {buffer rest : List Byte} (h : Boundary buffer rest) (c : List Byte) :
    Boundary (buffer ++ c) (rest ++ c) := by
  induction h with
  | here => exact .here
  | next hsigned hlen _ ih =>
    refine .next (hsigned.append c) (by rw [List.length_append]; omega) ?_
    rwa [List.drop_append_of_le_length hlen]

theorem NoWrap.of_boundary {buffer rest : List Byte} (h : NoWrap buffer)
    (hb : Boundary buffer rest) : NoWrap rest :=
  fun rest' header hb' => h rest' header (hb.trans hb')

theorem NoWrap.of_append {buffer c : List Byte} (h : NoWrap (buffer ++ c)) : NoWrap buffer :=
  fun _ _ hb hsigned => h _ _ (hb.append c) (hsigned.append c)

/-- Draining goes through all the boundaries up to where it stops. -/
theorem boundary_of_drains_of_boundary {buffer rest stop : List Byte} {calls : List Dispatch}
    (hd : Drains peel buffer calls stop) (hb : Boundary buffer rest) :
    Boundary rest stop ∨ Boundary stop rest := by
  induction hd with
  | stop _ => exact .inr hb
  | more hpeel hd ih =>
    cases hb with
    | here => exact .inl (boundary_of_drains (.more hpeel hd))
    | next hsigned hlen hb =>
      obtain ⟨hsigned', -, -, -, rfl⟩ := peel_eq_some_iff.mp hpeel
      obtain rfl := hsigned.unique hsigned'
      exact ih hb

/-- A bad header is the last boundary. -/
theorem Boundary.eq_of_badSignature {buffer rest : List Byte} (h : Boundary buffer rest)
    (hbad : pass buffer = .badSignature) : rest = buffer := by
  cases h with
  | here => rfl
  | next hsigned _ _ => exact absurd hsigned (not_signedHeader_of_badSignature hbad)

/-- If no header wraps where draining stops, none did before. -/
theorem noWrap_of_drains {buffer stop : List Byte} {calls : List Dispatch}
    (hd : Drains peel buffer calls stop)
    (hstop : ∀ header, SignedHeader stop header → SizeFits header) : NoWrap buffer := by
  induction hd with
  | @stop buffer hnone =>
    intro rest header hb hsigned
    cases hb with
    | here => exact hstop header hsigned
    | @next _ _ header' hsigned' hlen _ =>
      -- a complete packet with a size that fits would have been peeled
      have hpeel : peel buffer = some (⟨header', some ((buffer.drop PacketHeader.size).take
          header'.bodySize.toNat)⟩, buffer.drop (PacketHeader.size + header'.bodySize.toNat)) :=
        peel_eq_some_iff.mpr ⟨hsigned', hstop _ hsigned', hlen, rfl, rfl⟩
      rw [hnone] at hpeel
      cases hpeel
  | more hpeel _ ih =>
    obtain ⟨hsigned', hfits, -, -, rfl⟩ := peel_eq_some_iff.mp hpeel
    intro rest header hb hsigned
    cases hb with
    | here => exact hsigned.unique hsigned' ▸ hfits
    | next hsigned'' _ hb =>
      obtain rfl := hsigned''.unique hsigned'
      exact ih hstop rest header hb hsigned

/-- Where no header wraps, draining gets to the bad header. -/
theorem exists_drains_of_boundary {buffer rest : List Byte} (hwrap : NoWrap buffer)
    (hb : Boundary buffer rest) (hbad : pass rest = .badSignature) :
    ∃ calls, Drains peel buffer calls rest := by
  induction hb with
  | here => exact ⟨[], .stop (peel_eq_none_of_badSignature hbad)⟩
  | @next buffer rest header hsigned hlen _ ih =>
    obtain ⟨calls, hd⟩ := ih (hwrap.drop hsigned hlen) hbad
    have hpeel : peel buffer = some (⟨header, some ((buffer.drop PacketHeader.size).take
        header.bodySize.toNat)⟩, buffer.drop (PacketHeader.size + header.bodySize.toNat)) :=
      peel_eq_some_iff.mpr ⟨hsigned, hwrap _ _ .here hsigned, hlen, rfl, rfl⟩
    exact ⟨_, .more hpeel hd⟩

/-- What is peeled off does not depend on the bytes behind it. -/
theorem exists_front_of_peel {buffer rest : List Byte} {call : Dispatch}
    (h : peel buffer = some (call, rest)) :
    ∃ front, buffer = front ++ rest ∧ ∀ c, peel (front ++ c) = some (call, c) := by
  obtain ⟨hsigned, hfits, hlen, hbody, rfl⟩ := peel_eq_some_iff.mp h
  have hfront : (buffer.take (PacketHeader.size + call.header.bodySize.toNat)).length =
      PacketHeader.size + call.header.bodySize.toNat := List.length_take_of_le hlen
  refine ⟨_, (List.take_append_drop _ _).symm, fun c => ?_⟩
  refine peel_eq_some_iff.mpr
    ⟨(signedHeader_take hsigned (Nat.le_add_right _ _)).append c, hfits, ?_, ?_, ?_⟩
  · rw [List.length_append]
    omega
  · rw [hbody, List.drop_append_of_le_length (by omega), List.take_append_of_le_length ?_,
      List.drop_take, Nat.add_sub_cancel_left, List.take_take, Nat.min_self]
    rw [List.length_drop]
    omega
  · exact (List.drop_left' hfront).symm

/-- The bytes that draining takes off drain in the same way in front of any others. -/
theorem exists_front_of_drains {buffer stop : List Byte} {calls : List Dispatch}
    (hd : Drains peel buffer calls stop) :
    ∃ front, buffer = front ++ stop ∧ ∀ c ms e, Drains peel c ms e →
      Drains peel (front ++ c) (calls ++ ms) e := by
  induction hd with
  | stop _ => exact ⟨[], rfl, fun c ms e h => h⟩
  | more hpeel _ ih =>
    obtain ⟨front, rfl, hfront⟩ := exists_front_of_peel hpeel
    obtain ⟨front', rfl, hfront'⟩ := ih
    refine ⟨front ++ front', (List.append_assoc _ _ _).symm, fun c ms e h => ?_⟩
    rw [List.append_assoc]
    exact .more (hfront _) (hfront' c ms e h)

/-! ### Enough -/

/-- A pass on a wrong signature throws away all there is. -/
theorem processBuffer_clear {session : ClientSession}
    (h : pass session.readBuffer = .badSignature) :
    processBuffer 1 session = some ([], withBuffer session []) := by
  rw [processBuffer_of_badSignature h, removeReadData_of_le (Nat.le_refl _), List.drop_length]

/-- Behind a cleared header nothing is dispatched, however the rest arrives. -/
theorem receives_nothing {rest : List Byte} (hnone : NothingBehind rest)
    {session : ClientSession} {chunks : List (List Byte)} {p : ℕ} (hp : PacketHeader.size ≤ p)
    (h : session.readBuffer ++ chunks.flatten = rest.drop p) :
    ∃ session', Receives session chunks [] session' := by
  induction chunks generalizing session p with
  | nil => exact ⟨session, .nil⟩
  | cons c cs ih =>
    rw [List.flatten_cons, ← List.append_assoc] at h
    cases hpass : pass (session.appendToReadBuffer c).readBuffer with
    | wait =>
      have hret : onReceiveData 1 session c = some ([], _) := processBuffer_of_wait hpass
      obtain ⟨session', hr⟩ := @ih (session.appendToReadBuffer c) p hp h
      exact ⟨session', .cons hret hr⟩
    | badSignature =>
      -- what is in the buffer is thrown away, so the next position is behind it
      have hret : onReceiveData 1 session c = some ([], _) := processBuffer_clear hpass
      have hrest : cs.flatten = rest.drop (p + (session.readBuffer ++ c).length) := by
        rw [← List.drop_drop, ← h, List.drop_left]
      obtain ⟨session', hr⟩ := @ih (withBuffer (session.appendToReadBuffer c) []) _
        (Nat.le_add_right_of_le hp) hrest
      exact ⟨session', .cons hret hr⟩
    | dispatch call total =>
      obtain ⟨call', total', hall⟩ := dispatch_append hpass cs.flatten
      exact absurd (h ▸ hall) (hnone p hp call' total')

/-- The packets before the bad header are dispatched, however the stream arrives, and nothing
else is. -/
theorem receives_front {rest : List Byte} (hbad : pass rest = .badSignature)
    (hnone : NothingBehind rest) {session : ClientSession} {chunks : List (List Byte)}
    {calls : List Dispatch} (hwait : pass session.readBuffer = .wait)
    (hwrap : NoWrap (session.readBuffer ++ chunks.flatten))
    (hd : Drains peel (session.readBuffer ++ chunks.flatten) calls rest) :
    ∃ session', Receives session chunks calls session' := by
  induction chunks generalizing session calls with
  | nil =>
    -- the bad header would have been seen
    rw [List.flatten_nil, List.append_nil] at hd
    obtain ⟨-, rfl⟩ := hd.unique (.stop (peel_eq_none_of_wait hwait))
    rw [hwait] at hbad
    cases hbad
  | cons c cs ih =>
    rw [List.flatten_cons, ← List.append_assoc] at hd hwrap
    obtain ⟨ms, e, hds⟩ := exists_drains length_lt_of_peel (session.readBuffer ++ c)
    obtain ⟨ms', e', hds'⟩ := exists_drains length_lt_of_peel (e ++ cs.flatten)
    obtain ⟨rfl, rfl⟩ := hd.unique (hds.append peel_local hds')
    have hboundary := boundary_of_drains hds
    have hfits : ∀ header, SignedHeader e header → SizeFits header :=
      fun header hsigned => hwrap.of_append e header hboundary hsigned
    rcases pass_of_peel_eq_none hds.peel_rest hfits with hpass | hpass
    · have hend : processBuffer 1 (withBuffer (session.appendToReadBuffer c) e) = some ([], _) :=
        processBuffer_of_wait hpass
      obtain ⟨fuel, hfuel⟩ := processBuffer_of_drains hds rfl hend
      obtain ⟨session', hr⟩ := @ih (withBuffer (session.appendToReadBuffer c) e) ms' hpass
        (hwrap.of_boundary (hboundary.append _)) hds'
      exact ⟨session', .cons hfuel hr⟩
    · have hend : processBuffer 1 (withBuffer (session.appendToReadBuffer c) e) = some ([], _) :=
        processBuffer_clear hpass
      obtain ⟨fuel, hfuel⟩ := processBuffer_of_drains hds rfl hend
      -- the bad header is complete: the rest of the stream is behind it
      obtain ⟨rfl, rfl⟩ :=
        hds'.unique (.stop (peel_eq_none_of_badSignature (badSignature_append hpass _)))
      have hrest : cs.flatten = (e ++ cs.flatten).drop e.length := List.drop_left.symm
      obtain ⟨session', hr⟩ := @receives_nothing _ hnone
        (withBuffer (session.appendToReadBuffer c) []) cs _ (size_le_of_badSignature hpass) hrest
      exact ⟨session', .cons hfuel hr⟩

/-! ### Needed -/

/-- What the first chunk makes of a stream. -/
theorem receives_first {fd : Fd} {chunk : List Byte} {chunks : List (List Byte)}
    {calls : List Dispatch} {session : ClientSession}
    (h : Receives (.new fd) (chunk :: chunks) calls session) :
    ∃ fuel calls₁ calls₂ session₁,
      processBuffer fuel (withBuffer (.new fd) chunk) = some (calls₁, session₁) ∧
        Receives session₁ chunks calls₂ session ∧ calls = calls₁ ++ calls₂ := by
  cases h with
  | @cons _ session₁ _ _ _ calls₁ calls₂ fuel hret hr =>
    exact ⟨fuel, calls₁, calls₂, session₁, hret, hr, rfl⟩

/-- The calls of the loop begin with those of the packets in front, and go on with what the
next pass dispatches. -/
theorem prefix_of_drains {buffer stop : List Byte} {calls ms : List Dispatch}
    (hd : Drains peel buffer ms stop) {call : Dispatch} {total : BitVec 32}
    (hpass : pass stop = .dispatch call total) {fuel : ℕ} {session session' : ClientSession}
    (hbuf : session.readBuffer = buffer)
    (h : processBuffer fuel session = some (calls, session')) : ms ++ [call] <+: calls := by
  induction hd generalizing fuel session session' calls with
  | stop _ =>
    subst hbuf
    cases fuel with
    | zero => cases h
    | succ fuel =>
      simp only [processBuffer, hpass, Option.map_eq_some_iff] at h
      obtain ⟨⟨calls', session''⟩, -, heq⟩ := h
      obtain ⟨rfl, -⟩ := Prod.mk.inj heq
      exact List.prefix_append [call] calls'
  | more hpeel _ ih =>
    subst hbuf
    cases fuel with
    | zero => cases h
    | succ fuel =>
      rw [processBuffer_of_peel hpeel, Option.map_eq_some_iff] at h
      obtain ⟨⟨calls', session''⟩, hrest, heq⟩ := h
      obtain ⟨rfl, -⟩ := Prod.mk.inj heq
      exact List.cons_prefix_cons.mpr ⟨rfl, ih hpass rfl hrest⟩

/-- A loop whose first pass dispatches makes a call. -/
theorem ne_nil_of_dispatch {fuel : ℕ} {session session' : ClientSession}
    {calls : List Dispatch} {call : Dispatch} {total : BitVec 32}
    (hpass : pass session.readBuffer = .dispatch call total)
    (h : processBuffer fuel session = some (calls, session')) : calls ≠ [] := by
  cases fuel with
  | zero => cases h
  | succ fuel =>
    simp only [processBuffer, hpass, Option.map_eq_some_iff] at h
    obtain ⟨⟨calls', session''⟩, -, heq⟩ := h
    obtain ⟨rfl, -⟩ := Prod.mk.inj heq
    exact List.cons_ne_nil _ _

/-- Calls that hand over the same begin with the same. -/
theorem received_eq_of_prefix {ms calls calls' : List Dispatch} {call call' : Dispatch}
    (h : ms ++ [call] <+: calls) (h' : ms ++ [call'] <+: calls')
    (heq : calls.map received = calls'.map received) : received call = received call' := by
  have hp := h.map received
  have hp' := h'.map received
  rw [← heq] at hp'
  have hlen : ((ms ++ [call]).map received).length = ((ms ++ [call']).map received).length := by
    simp
  have hall := (List.prefix_of_prefix_length_le hp hp' (Nat.le_of_eq hlen)).eq_of_length hlen
  simpa using hall

/-- Where the cut does not matter, no header before the bad one wraps. -/
theorem CutIndependent.noWrap {fd : Fd} {stream rest : List Byte} (h : CutIndependent fd stream)
    (hb : Boundary stream rest) (hbad : pass rest = .badSignature) : NoWrap stream := by
  obtain ⟨ms, stop, hd⟩ := exists_drains length_lt_of_peel stream
  refine noWrap_of_drains hd fun header hsigned => ?_
  by_contra hwrap
  have htotal := toNat_totalPacketSize_of_le (Nat.le_of_not_lt hwrap)
  have hsize := hsigned.size_le
  -- the packet of `header` lies in the stream, since the bad header comes later
  have hlen : PacketHeader.size + header.bodySize.toNat ≤ stop.length := by
    rcases boundary_of_drains_of_boundary hd hb with hb' | hb'
    · obtain rfl := hb'.eq_of_badSignature hbad
      exact absurd hsigned (not_signedHeader_of_badSignature hbad)
    · cases hb' with
      | here => exact absurd hsigned (not_signedHeader_of_badSignature hbad)
      | next hsigned' hlen _ => exact hsigned.unique hsigned' ▸ hlen
  obtain ⟨front, rfl, hfront⟩ := exists_front_of_drains hd
  obtain ⟨pairs, hpairs⟩ := h
  -- in one chunk, the body is in the buffer
  obtain ⟨calls, session, hr, hcalls⟩ := hpairs [front ++ stop] (by simp)
  obtain ⟨fuel, calls₁, calls₂, session₁, hfuel, -, rfl⟩ := receives_first hr
  have hwhole := prefix_of_drains hd (pass_eq_dispatch_of_le hsigned (by omega)) rfl hfuel
  -- cut behind the header, it is not
  have hshort := signedHeader_take hsigned (Nat.le_refl PacketHeader.size)
  have htake : (stop.take PacketHeader.size).length = PacketHeader.size :=
    List.length_take_of_le hsize
  have hpass := pass_eq_dispatch_of_le hshort (by omega)
  have hnone : peel (stop.take PacketHeader.size) = none := by
    rw [peel, hpass]
    exact if_neg hwrap
  obtain ⟨calls', session', hr', hcalls'⟩ :=
    hpairs [front ++ stop.take PacketHeader.size, stop.drop PacketHeader.size] (by simp)
  obtain ⟨fuel', calls₁', calls₂', session₁', hfuel', -, rfl⟩ := receives_first hr'
  have hd' := hfront _ [] _ (.stop hnone)
  rw [List.append_nil] at hd'
  have hcut := prefix_of_drains hd' hpass rfl hfuel'
  have heq := received_eq_of_prefix (hwhole.trans (List.prefix_append _ _))
    (hcut.trans (List.prefix_append _ _)) (hcalls.trans hcalls'.symm)
  -- the body that is cut out once is not there the other time
  have hbody : 0 < header.bodySize.toNat := by
    simp only [SizeFits, PacketHeader.size] at hwrap
    omega
  have hinside : slice stop PacketHeader.size header.bodySize.toNat =
      slice (stop.take PacketHeader.size) PacketHeader.size header.bodySize.toNat :=
    congrArg Prod.snd heq
  rw [slice, if_pos hlen, slice, if_neg (by omega)] at hinside
  cases hinside

/-- Where the cut does not matter, nothing behind the bad header is dispatched. -/
theorem CutIndependent.nothingBehind {fd : Fd} {stream rest : List Byte}
    (h : CutIndependent fd stream) (hb : Boundary stream rest)
    (hbad : pass rest = .badSignature) : NothingBehind rest := by
  obtain ⟨ms, hd⟩ := exists_drains_of_boundary (h.noWrap hb hbad) hb hbad
  obtain ⟨front, rfl, hfront⟩ := exists_front_of_drains hd
  obtain ⟨pairs, hpairs⟩ := h
  intro p hp call total hpass
  -- in one chunk, everything behind the bad header is thrown away
  obtain ⟨calls, session, hr, hcalls⟩ := hpairs [front ++ rest] (by simp)
  obtain ⟨fuel, calls₁, calls₂, session₁, hfuel, hrest, rfl⟩ := receives_first hr
  obtain ⟨fuel₀, hfuel₀⟩ := processBuffer_of_drains hd
    (show (withBuffer (ClientSession.new fd) (front ++ rest)).readBuffer = front ++ rest from rfl)
    (processBuffer_clear hbad)
  cases processBuffer_unique hfuel hfuel₀
  cases hrest
  -- cut at `p`, the header is thrown away and the packet at `p` is dispatched
  obtain ⟨calls', session', hr', hcalls'⟩ :=
    hpairs [front ++ rest.take p, rest.drop p] (by simp)
  obtain ⟨fuel', calls₁', calls₂', session₁', hfuel', hrest', rfl⟩ := receives_first hr'
  have hbad' := badSignature_take hbad hp
  have hd' := hfront _ [] _ (.stop (peel_eq_none_of_badSignature hbad'))
  obtain ⟨fuel₀', hfuel₀'⟩ := processBuffer_of_drains hd'
    (show (withBuffer (ClientSession.new fd) (front ++ rest.take p)).readBuffer =
      front ++ rest.take p from rfl) (processBuffer_clear hbad')
  cases processBuffer_unique hfuel' hfuel₀'
  obtain ⟨fuel'', calls₁'', calls₂'', session₁'', hfuel'', -, rfl⟩ := receives_first hrest'
  have hlen := congrArg List.length (hcalls.trans hcalls'.symm)
  simp only [List.length_map, List.length_append, List.length_nil] at hlen
  refine ne_nil_of_dispatch hpass hfuel'' (List.eq_nil_of_length_eq_zero ?_)
  omega

/-- **Segmentation, exactly.** For a stream with a bad header at a packet boundary, what is
dispatched is the same for every way of cutting it if and only if no header before the bad one
wraps and no packet is complete anywhere behind it. -/
theorem cutIndependent_iff (fd : Fd) {stream rest : List Byte} (hb : Boundary stream rest)
    (hbad : pass rest = .badSignature) :
    CutIndependent fd stream ↔ NoWrap stream ∧ NothingBehind rest := by
  refine ⟨fun h => ⟨h.noWrap hb hbad, h.nothingBehind hb hbad⟩, fun ⟨hwrap, hnone⟩ => ?_⟩
  obtain ⟨calls, hd⟩ := exists_drains_of_boundary hwrap hb hbad
  refine ⟨calls.map received, fun chunks hchunks => ?_⟩
  subst hchunks
  have hwait : pass (ClientSession.new fd).readBuffer = .wait :=
    pass_eq_wait_of_short (by simp [ClientSession.new, PacketHeader.size])
  obtain ⟨session, hr⟩ := receives_front hbad hnone hwait hwrap hd
  exact ⟨calls, session, hr, rfl⟩

/-- Eight zero bytes and nothing else. -/
theorem cutIndependent_zeros :
    CutIndependent 5 (List.replicate 8 0) ↔
      NoWrap (List.replicate 8 0) ∧ NothingBehind (List.replicate 8 0) :=
  cutIndependent_iff 5 .here (by decide)

/-- Eight zero bytes, and a packet without a body behind them: in one chunk nothing is
dispatched, in two the packet is. -/
theorem zeros_packet_not_cutIndependent :
    pass (List.replicate 8 0 ++ (⟨1030, []⟩ : Message).packet) = .badSignature ∧
      Receives (.new 5) [List.replicate 8 0 ++ (⟨1030, []⟩ : Message).packet] [] (.new 5) ∧
      Receives (.new 5) [List.replicate 8 0, (⟨1030, []⟩ : Message).packet]
        [(⟨1030, []⟩ : Message).dispatched] (.new 5) ∧
      ¬ CutIndependent 5 (List.replicate 8 0 ++ (⟨1030, []⟩ : Message).packet) := by
  have hone : Receives (.new 5) [List.replicate 8 0 ++ (⟨1030, []⟩ : Message).packet] []
      (.new 5) :=
    .cons (show onReceiveData 1 _ _ = some ([], .new 5) by decide) .nil
  have htwo : Receives (.new 5) [List.replicate 8 0, (⟨1030, []⟩ : Message).packet]
      [(⟨1030, []⟩ : Message).dispatched] (.new 5) :=
    .cons (show onReceiveData 1 _ _ = some ([], .new 5) by decide)
      (.cons (show onReceiveData 2 _ _ =
        some ([(⟨1030, []⟩ : Message).dispatched], .new 5) by decide) .nil)
  refine ⟨by decide, hone, htwo, ?_⟩
  rintro ⟨pairs, hpairs⟩
  obtain ⟨calls, session, hr, hcalls⟩ := hpairs [_] (List.append_nil _)
  obtain ⟨calls', session', hr', hcalls'⟩ := hpairs
    [List.replicate 8 0, (⟨1030, []⟩ : Message).packet] (by simp)
  obtain ⟨rfl, -⟩ := hr.unique hone
  obtain ⟨rfl, -⟩ := hr'.unique htwo
  rw [← hcalls] at hcalls'
  cases hcalls'

end PacketFramer

end ItsBedalyo
