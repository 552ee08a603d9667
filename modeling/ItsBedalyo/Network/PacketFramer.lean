import ItsBedalyo.Lib.StreamDecoder
import ItsBedalyo.Session.ClientSession

/-!
# Framing: `PacketFramer`

`processBuffer` runs passes over the session's read buffer: a pass waits for more bytes,
clears the buffer on a wrong signature, or hands one packet to `Dispatcher::dispatch` and
removes it. `pass` is one iteration of the loop, with the arithmetic of the source:
`totalPacketSize` is a `uint32_t`, so the sum of header and body size wraps, while the body
itself is cut out with the full `bodySize`. A cut that leaves the buffer reads foreign memory,
which `slice` records as `none`.

The loop has no bound of its own, so `processBuffer` takes fuel, and a call *returns* when
some fuel is enough.
-/

namespace ItsBedalyo

open StreamDecoder

/-- `std::string(data + offset, len)`: the bytes, if they all lie in the buffer. -/
def slice (buffer : List Byte) (offset len : ℕ) : Option (List Byte) :=
  if offset + len ≤ buffer.length then some ((buffer.drop offset).take len) else none

/-- A call of `Dispatcher::dispatch`: the header in host byte order and the body, `none` when
the body was cut out beyond the end of the buffer. -/
structure Dispatch where
  header : PacketHeader
  jsonBody : Option (List Byte)
  deriving DecidableEq

namespace PacketFramer

/-- What one iteration of the loop in `processBuffer` decides. -/
inductive Pass
  | wait
  | badSignature
  | dispatch (call : Dispatch) (totalPacketSize : BitVec 32)
  deriving DecidableEq

/-- `uint32_t totalPacketSize = sizeof(PacketHeader) + header.bodySize`. -/
def totalPacketSize (header : PacketHeader) : BitVec 32 :=
  BitVec.ofNat 32 PacketHeader.size + header.bodySize

/-- One iteration of the loop in `processBuffer`. -/
def pass (buffer : List Byte) : Pass :=
  match PacketHeader.ofBytes buffer with
  | none => .wait -- fewer than `sizeof(PacketHeader)` bytes: the loop condition fails
  | some raw =>
    let header := raw.toHost
    if header.signature ≠ PacketHeader.eatsConnect then .badSignature
    else if buffer.length < (totalPacketSize header).toNat then .wait
    else
      .dispatch ⟨header, slice buffer PacketHeader.size header.bodySize.toNat⟩
        (totalPacketSize header)

/-- `processBuffer`, run for at most `fuel` iterations: the calls made to the dispatcher and
the session afterwards. -/
def processBuffer : ℕ → ClientSession → Option (List Dispatch × ClientSession)
  | 0, _ => none
  | fuel + 1, session =>
    match pass session.readBuffer with
    | .wait => some ([], session)
    | .badSignature => some ([], session.removeReadData session.readBuffer.length)
    | .dispatch call total =>
      (processBuffer fuel (session.removeReadData total.toNat)).map fun (calls, session') =>
        (call :: calls, session')

/-- `onReceiveData`. -/
def onReceiveData (fuel : ℕ) (session : ClientSession) (buffer : List Byte) :
    Option (List Dispatch × ClientSession) :=
  processBuffer fuel (session.appendToReadBuffer buffer)

/-- `Receives session chunks calls session'`: passing the chunks to `onReceiveData` one after
the other returns each time, makes `calls` in total and leaves `session'`. -/
inductive Receives : ClientSession → List (List Byte) → List Dispatch → ClientSession → Prop
  | nil {session : ClientSession} : Receives session [] [] session
  | cons {session session₁ session₂ : ClientSession} {chunk : List Byte}
      {chunks : List (List Byte)} {calls calls' : List Dispatch} {fuel : ℕ} :
      onReceiveData fuel session chunk = some (calls, session₁) →
      Receives session₁ chunks calls' session₂ →
      Receives session (chunk :: chunks) (calls ++ calls') session₂

/-! ### The loop returns at most one result -/

theorem processBuffer_mono {fuel fuel' : ℕ} (hle : fuel ≤ fuel') {session : ClientSession}
    {res : List Dispatch × ClientSession} (h : processBuffer fuel session = some res) :
    processBuffer fuel' session = some res := by
  induction fuel generalizing fuel' session res with
  | zero => simp [processBuffer] at h
  | succ fuel ih =>
    obtain ⟨fuel', rfl⟩ : ∃ k, fuel' = k + 1 := ⟨fuel' - 1, by omega⟩
    unfold processBuffer at h ⊢
    cases hpass : pass session.readBuffer with
    | wait => simpa [hpass] using h
    | badSignature => simpa [hpass] using h
    | dispatch call total =>
      simp only [hpass, Option.map_eq_some_iff] at h ⊢
      obtain ⟨p, hp, rfl⟩ := h
      exact ⟨p, ih (Nat.le_of_succ_le_succ hle) hp, rfl⟩

theorem processBuffer_unique {fuel fuel' : ℕ} {session : ClientSession}
    {res res' : List Dispatch × ClientSession} (h : processBuffer fuel session = some res)
    (h' : processBuffer fuel' session = some res') : res = res' := by
  rcases Nat.le_total fuel fuel' with hle | hle
  · exact Option.some_injective _ ((processBuffer_mono hle h).symm.trans h')
  · exact Option.some_injective _ (h.symm.trans (processBuffer_mono hle h'))

theorem Receives.unique {session s₁ s₂ : ClientSession} {chunks : List (List Byte)}
    {calls₁ calls₂ : List Dispatch} (h₁ : Receives session chunks calls₁ s₁)
    (h₂ : Receives session chunks calls₂ s₂) : calls₁ = calls₂ ∧ s₁ = s₂ := by
  induction h₁ generalizing calls₂ s₂ with
  | nil =>
    cases h₂
    exact ⟨rfl, rfl⟩
  | cons hd _ ih =>
    cases h₂ with
    | cons hd' ht' =>
      cases processBuffer_unique hd hd'
      obtain ⟨rfl, rfl⟩ := ih ht'
      exact ⟨rfl, rfl⟩

/-- One more chunk. -/
theorem Receives.snoc {session s₁ s₂ : ClientSession} {chunks : List (List Byte)}
    {chunk : List Byte} {calls calls' : List Dispatch} {fuel : ℕ}
    (h : Receives session chunks calls s₁)
    (hlast : onReceiveData fuel s₁ chunk = some (calls', s₂)) :
    Receives session (chunks ++ [chunk]) (calls ++ calls') s₂ := by
  induction h with
  | nil => simpa using Receives.cons hlast .nil
  | cons hd _ ih =>
    rw [List.cons_append, List.append_assoc]
    exact .cons hd (ih hlast)

end PacketFramer

end ItsBedalyo
