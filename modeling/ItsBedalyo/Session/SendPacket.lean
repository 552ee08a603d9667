import ItsBedalyo.Lib.Transition
import ItsBedalyo.Session.ClientSession
import Mathlib.Data.List.Pairwise
import Mathlib.Logic.Function.Basic

/-!
# Sending: `ClientSession::sendPacket`

Any thread may call `sendPacket` on a session. The packet is built first; then the thread takes
`writeMutex` and writes in a loop until everything is sent or a `write` does not take any
bytes. On `EAGAIN` the loop breaks, the mutex is released, and the rest of the packet is never
sent.

The steps below are those of the callers of one session, in any order the mutex allows, with
the answer of each `write` as part of the label. `packets` is history: the packets in the order
in which their senders got the mutex, with the number of bytes the socket took of each.
`intact_iff_noResume` says when the stream stays a sequence of whole packets.
-/

namespace ItsBedalyo

namespace SendPacket

/-- What `write` answers: some bytes taken, `EAGAIN` or `EWOULDBLOCK`, or any other failure. -/
inductive WriteResult
  | sent (count : ℕ)
  | again
  | error
  deriving DecidableEq

/-- Where a caller of `sendPacket` is. -/
inductive Sender
  | idle
  | waiting (sendBuffer : List Byte)
  | writing (sendBuffer : List Byte) (totalSent : ℕ)
  | leaving
  deriving DecidableEq

/-- A step of one caller. -/
inductive Label (τ : Type*)
  | call (t : τ) (cmdId : CmdID) (jsonBody : List Byte)
  | lock (t : τ)
  | write (t : τ) (result : WriteResult)
  | unlock (t : τ)
  deriving DecidableEq

/-- One session and its callers. -/
structure State (τ : Type*) where
  senders : τ → Sender
  writeMutex : Option τ
  /-- The bytes the socket has taken. -/
  socket : List Byte
  /-- The packets in lock order, with the number of bytes the socket took of each. -/
  packets : List (List Byte × ℕ)

namespace State

variable {τ : Type*}

/-- A session nobody has written to. -/
def init : State τ :=
  { senders := fun _ => .idle, writeMutex := none, socket := [], packets := [] }

/-- The whole packets, in lock order. -/
def lockOrder (s : State τ) : List (List Byte) := s.packets.map Prod.fst

variable [DecidableEq τ]

/-- Caller `t` moves on to `sender`. -/
def goto (s : State τ) (t : τ) (sender : Sender) : State τ :=
  { s with senders := Function.update s.senders t sender }

@[simp] theorem goto_socket (s : State τ) (t : τ) (c : Sender) :
    (s.goto t c).socket = s.socket := rfl

@[simp] theorem goto_packets (s : State τ) (t : τ) (c : Sender) :
    (s.goto t c).packets = s.packets := rfl

@[simp] theorem goto_writeMutex (s : State τ) (t : τ) (c : Sender) :
    (s.goto t c).writeMutex = s.writeMutex := rfl

@[simp] theorem goto_self (s : State τ) (t : τ) (c : Sender) : (s.goto t c).senders t = c :=
  Function.update_self ..

theorem goto_of_ne (s : State τ) {t u : τ} (h : u ≠ t) (c : Sender) :
    (s.goto t c).senders u = s.senders u :=
  Function.update_of_ne h ..

end State

variable {τ : Type*}

section Steps

variable [DecidableEq τ]

/-- The steps of `sendPacket`. -/
def step (s : State τ) : Label τ → Option (State τ)
  | .call t cmdId jsonBody =>
    match s.senders t with
    | .idle => some (s.goto t (.waiting (ClientSession.sendBuffer cmdId jsonBody)))
    | _ => none
  | .lock t =>
    match s.senders t, s.writeMutex with
    | .waiting sendBuffer, none =>
      some { s.goto t (.writing sendBuffer 0) with
        writeMutex := some t
        packets := s.packets ++ [(sendBuffer, 0)] }
    | _, _ => none
  | .write t result =>
    match s.senders t with
    | .writing sendBuffer totalSent =>
      if totalSent < sendBuffer.length then
        match result with
        | .sent count =>
          if 0 < count ∧ count ≤ sendBuffer.length - totalSent then
            some { s.goto t (.writing sendBuffer (totalSent + count)) with
              socket := s.socket ++ (sendBuffer.drop totalSent).take count
              packets := s.packets.dropLast ++ [(sendBuffer, totalSent + count)] }
          else none
        | .again => some (s.goto t .leaving) -- the rest of the packet is given up
        | .error => some (s.goto t .leaving)
      else none
    | _ => none
  | .unlock t =>
    match s.senders t with
    | .writing sendBuffer totalSent =>
      if totalSent < sendBuffer.length then none
      else some { s.goto t .idle with writeMutex := none }
    | .leaving => some { s.goto t .idle with writeMutex := none }
    | _ => none

/-- What a step can do. -/
theorem step_cases {s s' : State τ} {a : Label τ} (h : step s a = some s') :
    (∃ t cmdId jsonBody, a = .call t cmdId jsonBody ∧ s.senders t = .idle ∧
      s' = s.goto t (.waiting (ClientSession.sendBuffer cmdId jsonBody))) ∨
    (∃ t sendBuffer, a = .lock t ∧ s.senders t = .waiting sendBuffer ∧ s.writeMutex = none ∧
      s' = { s.goto t (.writing sendBuffer 0) with
        writeMutex := some t, packets := s.packets ++ [(sendBuffer, 0)] }) ∨
    (∃ t sendBuffer totalSent count, a = .write t (.sent count) ∧
      s.senders t = .writing sendBuffer totalSent ∧ 0 < count ∧
      totalSent + count ≤ sendBuffer.length ∧
      s' = { s.goto t (.writing sendBuffer (totalSent + count)) with
        socket := s.socket ++ (sendBuffer.drop totalSent).take count
        packets := s.packets.dropLast ++ [(sendBuffer, totalSent + count)] }) ∨
    (∃ t sendBuffer totalSent result, a = .write t result ∧ (result = .again ∨ result = .error) ∧
      s.senders t = .writing sendBuffer totalSent ∧ totalSent < sendBuffer.length ∧
      s' = s.goto t .leaving) ∨
    (∃ t, a = .unlock t ∧
      (s.senders t = .leaving ∨ ∃ sendBuffer totalSent,
        s.senders t = .writing sendBuffer totalSent ∧ sendBuffer.length ≤ totalSent) ∧
      s' = { s.goto t .idle with writeMutex := none }) := by
  cases a with
  | call t cmdId jsonBody =>
    simp only [step] at h
    split at h
    · next hpc => exact .inl ⟨t, cmdId, jsonBody, rfl, hpc, (Option.some.inj h).symm⟩
    · cases h
  | lock t =>
    simp only [step] at h
    split at h
    · next hpc hfree => exact .inr (.inl ⟨t, _, rfl, hpc, hfree, (Option.some.inj h).symm⟩)
    · cases h
  | write t result =>
    simp only [step] at h
    split at h
    · next sendBuffer totalSent hpc =>
      split_ifs at h with hlt
      cases result with
      | sent count =>
        simp only [Option.ite_none_right_eq_some, Option.some.injEq] at h
        obtain ⟨⟨hpos, hle⟩, rfl⟩ := h
        exact .inr (.inr (.inl ⟨t, sendBuffer, totalSent, count, rfl, hpc, hpos, by omega, rfl⟩))
      | again =>
        exact .inr (.inr (.inr (.inl ⟨t, sendBuffer, totalSent, _, rfl, .inl rfl, hpc, hlt,
          (Option.some.inj h).symm⟩)))
      | error =>
        exact .inr (.inr (.inr (.inl ⟨t, sendBuffer, totalSent, _, rfl, .inr rfl, hpc, hlt,
          (Option.some.inj h).symm⟩)))
    · cases h
  | unlock t =>
    simp only [step] at h
    split at h
    · next sendBuffer totalSent hpc =>
      split_ifs at h with hlt
      exact .inr (.inr (.inr (.inr ⟨t, rfl, .inr ⟨sendBuffer, totalSent, hpc,
        Nat.le_of_not_lt hlt⟩, (Option.some.inj h).symm⟩)))
    · next hpc => exact .inr (.inr (.inr (.inr ⟨t, rfl, .inl hpc, (Option.some.inj h).symm⟩)))
    · cases h

end Steps

/-! ### Intact streams -/

/-- A packet of which the socket has taken bytes comes after complete packets only: nothing is
cut off, or dropped, and then followed by another packet. -/
def Uncut (packets : List (List Byte × ℕ)) : Prop :=
  packets.Pairwise fun p q => 0 < q.2 → p.2 = p.1.length

/-- Some packet is incomplete. -/
def Cut (packets : List (List Byte × ℕ)) : Prop :=
  ∃ p ∈ packets, p.2 < p.1.length

/-- What the receiver relies on: the stream is a prefix of the packets in lock order, made up of
whole packets except for the last one. -/
structure Intact (s : State τ) : Prop where
  isPrefix : s.socket <+: s.lockOrder.flatten
  uncut : Uncut s.packets

theorem uncut_concat {packets : List (List Byte × ℕ)} {q : List Byte × ℕ} :
    Uncut (packets ++ [q]) ↔
      Uncut packets ∧ (0 < q.2 → ∀ p ∈ packets, p.2 = p.1.length) := by
  simp only [Uncut, List.pairwise_append, List.pairwise_singleton, List.mem_singleton,
    forall_eq, true_and]
  exact and_congr_right fun _ => ⟨fun h hq p hp => h p hp hq, fun h p hp hq => h hq p hp⟩

theorem not_cut_iff {packets : List (List Byte × ℕ)} (hle : ∀ p ∈ packets, p.2 ≤ p.1.length) :
    ¬ Cut packets ↔ ∀ p ∈ packets, p.2 = p.1.length := by
  simp only [Cut, not_exists, not_and, not_lt]
  exact forall₂_congr fun p hp => ⟨fun h => Nat.le_antisymm (hle p hp) h, fun h => h.ge⟩

/-- What has been taken of packets that are not cut is a prefix of them. -/
theorem isPrefix_of_uncut {packets : List (List Byte × ℕ)} (h : Uncut packets) :
    (packets.flatMap fun p => p.1.take p.2) <+: (packets.map Prod.fst).flatten := by
  induction packets with
  | nil => exact List.prefix_rfl
  | cons p packets ih =>
    obtain ⟨hp, hrest⟩ := List.pairwise_cons.mp h
    rw [List.flatMap_cons, List.map_cons, List.flatten_cons]
    by_cases hfull : p.2 = p.1.length
    · rw [hfull, List.take_length]
      exact (List.prefix_append_right_inj _).mpr (ih hrest)
    · -- nothing has been taken of the packets after an incomplete one
      have hnone : (packets.flatMap fun q => q.1.take q.2) = [] := by
        rw [List.flatMap_eq_nil_iff]
        intro q hq
        have hzero : q.2 = 0 := by
          by_contra hpos
          exact hfull (hp q hq (Nat.pos_of_ne_zero hpos))
        rw [hzero, List.take_zero]
      rw [hnone, List.append_nil]
      exact (List.take_prefix _ _).trans (List.prefix_append _ _)

/-! ### When writes resume -/

/-- A `write` that takes nothing, after which the loop is left. -/
def Label.Interrupts (a : Label τ) : Prop :=
  ∃ t, a = .write t .again ∨ a = .write t .error

/-- A `write` that takes bytes. -/
def Label.Accepts (a : Label τ) : Prop :=
  ∃ t count, a = .write t (.sent count)

/-- Some `write` has taken nothing. -/
def Interrupted (l : List (Label τ)) : Prop :=
  ∃ a ∈ l, a.Interrupts

/-- Once a `write` has taken nothing, no later `write` takes bytes. -/
def NoResume (l : List (Label τ)) : Prop :=
  l.Pairwise fun a b => a.Interrupts → ¬ b.Accepts

theorem interrupted_concat {l : List (Label τ)} {a : Label τ} :
    Interrupted (l ++ [a]) ↔ Interrupted l ∨ a.Interrupts := by
  simp [Interrupted, or_and_right, exists_or]

theorem noResume_concat {l : List (Label τ)} {a : Label τ} :
    NoResume (l ++ [a]) ↔ NoResume l ∧ (a.Accepts → ¬ Interrupted l) := by
  simp only [NoResume, List.pairwise_append, List.pairwise_singleton, List.mem_singleton,
    forall_eq, true_and, Interrupted, not_exists, not_and]
  exact and_congr_right fun _ =>
    ⟨fun h ha b hb hi => h b hb hi ha, fun h b hb hi ha => h ha b hb hi⟩

/-- The thread is inside the part guarded by `writeMutex`. -/
def Sender.Inside : Sender → Prop
  | .idle | .waiting _ => False
  | .writing _ _ | .leaving => True

/-- What holds after the steps `l`. The thread in the guarded part is the one that has the
mutex; a packet is incomplete for good exactly if a `write` has taken nothing. -/
structure Inv (l : List (Label τ)) (s : State τ) : Prop where
  inside : ∀ t, (s.senders t).Inside ↔ s.writeMutex = some t
  socket_eq : s.socket = s.packets.flatMap fun p => p.1.take p.2
  le_length : ∀ p ∈ s.packets, p.2 ≤ p.1.length
  writing : ∀ t sendBuffer totalSent, s.senders t = .writing sendBuffer totalSent →
    ∃ past, s.packets = past ++ [(sendBuffer, totalSent)] ∧ (Interrupted l ↔ Cut past)
  notWriting : (∀ t sendBuffer totalSent, s.senders t ≠ .writing sendBuffer totalSent) →
    (Interrupted l ↔ Cut s.packets)
  exact : Uncut s.packets ↔ NoResume l

theorem Inv.init : Inv ([] : List (Label τ)) (.init) where
  inside t := by simp [State.init, Sender.Inside]
  socket_eq := rfl
  le_length := by simp [State.init]
  writing := by simp [State.init]
  notWriting _ := by simp [State.init, Interrupted, Cut]
  exact := by simp [State.init, Uncut, NoResume]

section Step

variable {l : List (Label τ)} {s : State τ} {t : τ}

/-- Nobody else is inside while `t` has the mutex. -/
theorem Inv.not_writing_of_ne (h : Inv l s) {u : τ} (hmutex : s.writeMutex = some t) (hu : u ≠ t)
    (sendBuffer : List Byte) (totalSent : ℕ) : s.senders u ≠ .writing sendBuffer totalSent := by
  intro hpc
  have hin : s.writeMutex = some u := (h.inside u).mp (by simp [hpc, Sender.Inside])
  exact hu (Option.some.inj (hin.symm.trans hmutex))

/-- A step that neither interrupts nor takes bytes leaves both histories alone. -/
theorem interrupted_concat_of_not {a : Label τ} (hi : ¬ a.Interrupts) :
    Interrupted (l ++ [a]) ↔ Interrupted l := by
  simp [interrupted_concat, hi]

theorem noResume_concat_of_not {a : Label τ} (ha : ¬ a.Accepts) :
    NoResume (l ++ [a]) ↔ NoResume l := by
  simp [noResume_concat, ha]

variable [DecidableEq τ]

theorem Inv.call (h : Inv l s) (hpc : s.senders t = .idle) (sendBuffer : List Byte)
    {a : Label τ} (hi : ¬ a.Interrupts) (ha : ¬ a.Accepts) :
    Inv (l ++ [a]) (s.goto t (.waiting sendBuffer)) where
  inside u := by
    by_cases hu : u = t
    · have hout := h.inside t
      rw [hu, State.goto_self]
      simpa [hpc, Sender.Inside] using hout
    · rw [State.goto_of_ne s hu]
      exact h.inside u
  socket_eq := h.socket_eq
  le_length := h.le_length
  writing u b n hu := by
    have hne : u ≠ t := by
      rintro rfl
      simp at hu
    rw [State.goto_of_ne s hne] at hu
    simpa [interrupted_concat_of_not hi] using h.writing u b n hu
  notWriting hnone := by
    rw [interrupted_concat_of_not hi]
    refine h.notWriting fun u b n hu => ?_
    have hne : u ≠ t := by
      rintro rfl
      simp [hpc] at hu
    exact hnone u b n (by rwa [State.goto_of_ne s hne])
  exact := by
    rw [noResume_concat_of_not ha]
    exact h.exact

theorem Inv.lock (h : Inv l s) {sendBuffer : List Byte} (hfree : s.writeMutex = none)
    {a : Label τ} (hi : ¬ a.Interrupts) (ha : ¬ a.Accepts) :
    Inv (l ++ [a]) { s.goto t (.writing sendBuffer 0) with
      writeMutex := some t, packets := s.packets ++ [(sendBuffer, 0)] } := by
  have hout : ∀ u, ¬ (s.senders u).Inside := fun u => by simp [h.inside u, hfree]
  -- nobody is writing while the mutex is free
  have hcut : Interrupted l ↔ Cut s.packets := by
    refine h.notWriting fun u b n hu => hout u ?_
    simp [hu, Sender.Inside]
  refine ⟨fun u => ?_, ?_, ?_, fun u b n hu => ?_, fun hnone => ?_, ?_⟩
  · by_cases hu : u = t
    · simp [hu, Sender.Inside]
    · simp [State.goto_of_ne s hu, hout u, Ne.symm hu]
  · simp [h.socket_eq]
  · simpa [or_imp, forall_and] using h.le_length
  · have hu' : u = t := by
      by_contra hne
      refine hout u ?_
      simp only [State.goto_of_ne s hne] at hu
      simp [hu, Sender.Inside]
    subst hu'
    simp only [State.goto_self, Sender.writing.injEq] at hu
    obtain ⟨rfl, rfl⟩ := hu
    exact ⟨s.packets, rfl, (interrupted_concat_of_not hi).trans hcut⟩
  · exact absurd (State.goto_self ..) (hnone t sendBuffer 0)
  · rw [noResume_concat_of_not ha, ← h.exact]
    simp [uncut_concat]

theorem Inv.sent (h : Inv l s) {sendBuffer : List Byte} {totalSent count : ℕ}
    (hpc : s.senders t = .writing sendBuffer totalSent) (hpos : 0 < count)
    (hle : totalSent + count ≤ sendBuffer.length) :
    Inv (l ++ [.write t (.sent count)]) { s.goto t (.writing sendBuffer (totalSent + count)) with
      socket := s.socket ++ (sendBuffer.drop totalSent).take count
      packets := s.packets.dropLast ++ [(sendBuffer, totalSent + count)] } := by
  obtain ⟨past, hpast, hcut⟩ := h.writing t sendBuffer totalSent hpc
  have hmutex : s.writeMutex = some t := (h.inside t).mp (by simp [hpc, Sender.Inside])
  have hi : ¬ (Label.write t (.sent count)).Interrupts := by simp [Label.Interrupts]
  have ha : (Label.write t (.sent count)).Accepts := ⟨t, count, rfl⟩
  have hlepast : ∀ p ∈ past, p.2 ≤ p.1.length := fun p hp => h.le_length p (by simp [hpast, hp])
  refine ⟨fun u => ?_, ?_, ?_, fun u b n hu => ?_, fun hnone => ?_, ?_⟩
  · by_cases hu : u = t
    · simp [hu, Sender.Inside, hmutex]
    · simpa [State.goto_of_ne s hu] using h.inside u
  · simp only [h.socket_eq, hpast, List.dropLast_concat, List.flatMap_append,
      List.flatMap_singleton, List.append_assoc, List.take_add]
  · intro p hp
    simp only [hpast, List.dropLast_concat, List.mem_append, List.mem_singleton] at hp
    obtain hp | rfl := hp
    · exact hlepast p hp
    · exact hle
  · have hu' : u = t := by
      by_contra hne
      simp only [State.goto_of_ne s hne] at hu
      exact h.not_writing_of_ne hmutex hne b n hu
    subst hu'
    simp only [State.goto_self, Sender.writing.injEq] at hu
    obtain ⟨rfl, rfl⟩ := hu
    refine ⟨past, by simp [hpast], (interrupted_concat_of_not hi).trans hcut⟩
  · exact absurd (State.goto_self ..) (hnone t sendBuffer (totalSent + count))
  · -- bytes are taken: harmless exactly if nothing before this packet is incomplete
    have hexact := h.exact
    rw [hpast, uncut_concat] at hexact
    rw [hpast, List.dropLast_concat, uncut_concat, noResume_concat, ← hexact, hcut,
      not_cut_iff hlepast]
    have hpos' : 0 < totalSent + count := by omega
    tauto

theorem Inv.gaveUp (h : Inv l s) {sendBuffer : List Byte} {totalSent : ℕ}
    (hpc : s.senders t = .writing sendBuffer totalSent) (hlt : totalSent < sendBuffer.length)
    {a : Label τ} (hi : a.Interrupts) (ha : ¬ a.Accepts) :
    Inv (l ++ [a]) (s.goto t .leaving) := by
  obtain ⟨past, hpast, -⟩ := h.writing t sendBuffer totalSent hpc
  have hmutex : s.writeMutex = some t := (h.inside t).mp (by simp [hpc, Sender.Inside])
  refine ⟨fun u => ?_, h.socket_eq, h.le_length, fun u b n hu => ?_, fun _ => ?_, ?_⟩
  · by_cases hu : u = t
    · simp [hu, Sender.Inside, hmutex]
    · simpa [State.goto_of_ne s hu] using h.inside u
  · have hne : u ≠ t := by
      rintro rfl
      simp at hu
    rw [State.goto_of_ne s hne] at hu
    exact absurd hu (h.not_writing_of_ne hmutex hne b n)
  · have hcut : Cut s.packets := ⟨(sendBuffer, totalSent), by simp [hpast], hlt⟩
    simp [interrupted_concat, hi, hcut]
  · rw [noResume_concat_of_not ha]
    exact h.exact

theorem Inv.unlock (h : Inv l s)
    (hpc : s.senders t = .leaving ∨ ∃ sendBuffer totalSent,
      s.senders t = .writing sendBuffer totalSent ∧ sendBuffer.length ≤ totalSent)
    {a : Label τ} (hi : ¬ a.Interrupts) (ha : ¬ a.Accepts) :
    Inv (l ++ [a]) { s.goto t .idle with writeMutex := none } := by
  have hin : (s.senders t).Inside := by
    rcases hpc with hpc | ⟨b, n, hpc, -⟩ <;> simp [hpc, Sender.Inside]
  have hmutex : s.writeMutex = some t := (h.inside t).mp hin
  have hcut : Interrupted l ↔ Cut s.packets := by
    rcases hpc with hpc | ⟨b, n, hpc, hfull⟩
    · refine h.notWriting fun u b n hu => ?_
      by_cases hne : u = t
      · simp [hne, hpc] at hu
      · exact h.not_writing_of_ne hmutex hne b n hu
    · -- the packet just written is complete, so it adds nothing
      obtain ⟨past, hpast, hpastcut⟩ := h.writing t b n hpc
      rw [hpastcut, hpast]
      simp [Cut, or_and_right, exists_or, hfull]
  refine ⟨fun u => ?_, h.socket_eq, h.le_length, fun u b n hu => ?_, fun _ => ?_, ?_⟩
  · by_cases hu : u = t
    · simp [hu, Sender.Inside]
    · have hinside := h.inside u
      simp only [hmutex, Option.some.injEq] at hinside
      simp [State.goto_of_ne s hu, hinside, Ne.symm hu]
  · have hne : u ≠ t := by
      rintro rfl
      simp at hu
    simp only [State.goto_of_ne s hne] at hu
    exact absurd hu (h.not_writing_of_ne hmutex hne b n)
  · exact (interrupted_concat_of_not hi).trans hcut
  · rw [noResume_concat_of_not ha]
    exact h.exact

/-- **Step lemma.** -/
theorem Inv.step (h : Inv l s) {a : Label τ} {s' : State τ}
    (hs : SendPacket.step s a = some s') : Inv (l ++ [a]) s' := by
  rcases step_cases hs with ⟨t, cmdId, jsonBody, rfl, hpc, rfl⟩ |
    ⟨t, sendBuffer, rfl, -, hfree, rfl⟩ |
    ⟨t, sendBuffer, totalSent, count, rfl, hpc, hpos, hle, rfl⟩ |
    ⟨t, sendBuffer, totalSent, result, rfl, hresult, hpc, hlt, rfl⟩ | ⟨t, rfl, hpc, rfl⟩
  · exact h.call hpc _ (by simp [Label.Interrupts]) (by simp [Label.Accepts])
  · exact h.lock hfree (by simp [Label.Interrupts]) (by simp [Label.Accepts])
  · exact h.sent hpc hpos hle
  · refine h.gaveUp hpc hlt ⟨t, ?_⟩ ?_
    · rcases hresult with rfl | rfl <;> simp
    · rcases hresult with rfl | rfl <;> simp [Label.Accepts]
  · exact h.unlock hpc (by simp [Label.Interrupts]) (by simp [Label.Accepts])

end Step

/-! ### The result -/

variable [DecidableEq τ]

/-- **Stream integrity, exactly.** After any run of senders on one session, the stream is
intact if and only if no `write` took bytes after one that had taken none. -/
theorem intact_iff_noResume {l : List (Label τ)} {s : State τ}
    (h : Transition.run step .init l = some s) : Intact s ↔ NoResume l := by
  have hinv : Inv l s := Transition.run_history Inv.init (fun _ _ _ _ hI hs => hI.step hs) h
  refine ⟨fun hs => hinv.exact.mp hs.uncut, fun hl => ?_⟩
  have huncut := hinv.exact.mpr hl
  refine ⟨?_, huncut⟩
  rw [hinv.socket_eq]
  exact isPrefix_of_uncut huncut

/-- Two threads push to one session: the first packet is cut after five bytes by `EAGAIN`, the
second one is then written completely. -/
def cutRun : List (Label (Fin 2)) :=
  [.call 0 CmdID.NOTIFY_NEW_ORDER [0x7b, 0x7d], .call 1 CmdID.NOTIFY_ORDER_STATE [0x7b, 0x7d],
   .lock 0, .write 0 (.sent 5), .write 0 .again, .unlock 0,
   .lock 1, .write 1 (.sent 10), .unlock 1]

/-- After `cutRun` the socket has taken the second packet's header inside the first packet. -/
theorem cutRun_not_intact :
    ∃ s, Transition.run step .init cutRun = some s ∧
      ¬ s.socket <+: s.lockOrder.flatten ∧ ¬ Intact s := by
  have hprefix : ∀ s, Transition.run step .init cutRun = some s →
      ¬ s.socket <+: s.lockOrder.flatten := by
    rintro s ⟨⟩
    decide
  refine ⟨_, rfl, hprefix _ rfl, fun h => hprefix _ rfl h.isPrefix⟩

/-- The rule on a run in which the second packet waits until everything is written. -/
theorem intact_iff_noResume_partial :
    ∃ s, Transition.run step .init
        [.call 0 CmdID.NOTIFY_NEW_ORDER [], .lock 0, .write 0 (.sent 3),
          .write (0 : Fin 2) (.sent 5),
         .unlock 0] = some s ∧ (Intact s ↔ NoResume
        [.call 0 CmdID.NOTIFY_NEW_ORDER [], .lock 0, .write 0 (.sent 3),
          .write (0 : Fin 2) (.sent 5),
         .unlock 0]) :=
  ⟨_, rfl, intact_iff_noResume rfl⟩

end SendPacket

end ItsBedalyo
