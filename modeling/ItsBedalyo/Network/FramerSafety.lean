import ItsBedalyo.Network.Framing
import Mathlib.Logic.Relation

/-!
# The framer on arbitrary bytes

`processBuffer` compares the buffer with `totalPacketSize`, a `uint32_t`, and removes that
many bytes, but cuts the body out with the full `bodySize`. For the top eight values of
`bodySize` the sum wraps to less than a header: the check passes, the cut leaves the buffer,
and at `0xFFFFFFF8` nothing is removed, so the loop never ends.

`Safe` says what a careful framer would guarantee on every buffer. `safe_iff_noWrap` is the
exact condition under which this one does: at no packet boundary of the buffer, counted with
the real sizes, stands a signed header whose size wraps.
-/

namespace ItsBedalyo

namespace PacketFramer

open StreamDecoder Relation

/-- What a dispatching pass must do: the body lies in the buffer, and header and body are what
is removed. -/
structure PassSafe (session : ClientSession) (call : Dispatch) (total : BitVec 32) : Prop where
  inside : PacketHeader.size + call.header.bodySize.toNat ≤ session.readBuffer.length
  body : call.jsonBody =
    some ((session.readBuffer.drop PacketHeader.size).take call.header.bodySize.toNat)
  removed : (session.removeReadData total.toNat).readBuffer =
    session.readBuffer.drop (PacketHeader.size + call.header.bodySize.toNat)

/-- One dispatching pass takes the session to the next one. -/
def PassTo (session session' : ClientSession) : Prop :=
  ∃ call total, pass session.readBuffer = .dispatch call total ∧
    session' = session.removeReadData total.toNat

/-- Every dispatching pass of the loop is safe. -/
def PassesSafe (session : ClientSession) : Prop :=
  ∀ session', ReflTransGen PassTo session session' →
    ∀ call total, pass session'.readBuffer = .dispatch call total → PassSafe session' call total

/-- The loop ends, and every pass of it is safe. -/
def Safe (session : ClientSession) : Prop :=
  (∃ fuel res, processBuffer fuel session = some res) ∧ PassesSafe session

/-- `Boundary buffer rest`: a whole number of signed packets, their sizes added without wrap,
lies in the buffer before `rest`. -/
inductive Boundary : List Byte → List Byte → Prop
  | here {buffer : List Byte} : Boundary buffer buffer
  | next {buffer rest : List Byte} {header : PacketHeader} :
      SignedHeader buffer header →
      PacketHeader.size + header.bodySize.toNat ≤ buffer.length →
      Boundary (buffer.drop (PacketHeader.size + header.bodySize.toNat)) rest →
      Boundary buffer rest

/-- The size of a packet with this header fits in a `uint32_t`. -/
def SizeFits (header : PacketHeader) : Prop :=
  PacketHeader.size + header.bodySize.toNat < 2 ^ 32

/-- No signed header at a packet boundary of the buffer announces a size that wraps. -/
def NoWrap (buffer : List Byte) : Prop :=
  ∀ rest header, Boundary buffer rest → SignedHeader rest header → SizeFits header

theorem NoWrap.drop {buffer : List Byte} {header : PacketHeader} (h : NoWrap buffer)
    (hsigned : SignedHeader buffer header)
    (hlen : PacketHeader.size + header.bodySize.toNat ≤ buffer.length) :
    NoWrap (buffer.drop (PacketHeader.size + header.bodySize.toNat)) :=
  fun rest header' hb hs => h rest header' (.next hsigned hlen hb) hs

/-- Draining stops at a packet boundary. -/
theorem boundary_of_drains {buffer rest : List Byte} {calls : List Dispatch}
    (h : Drains peel buffer calls rest) : Boundary buffer rest := by
  induction h with
  | stop _ => exact .here
  | more hpeel _ ih =>
    obtain ⟨hsigned, -, hlen, -, rfl⟩ := peel_eq_some_iff.mp hpeel
    exact .next hsigned hlen ih

/-! ### Enough -/

/-- A dispatching pass is safe when its size does not wrap. -/
theorem passSafe_of_sizeFits {session : ClientSession} {call : Dispatch} {total : BitVec 32}
    (hpass : pass session.readBuffer = .dispatch call total) (hfits : SizeFits call.header) :
    PassSafe session call total := by
  obtain ⟨-, rfl, hlen, hbody⟩ := pass_eq_dispatch_iff.mp hpass
  rw [toNat_totalPacketSize_of_lt hfits] at hlen
  refine ⟨hlen, ?_, ?_⟩
  · rw [hbody, slice, if_pos hlen]
  · rw [toNat_totalPacketSize_of_lt hfits, removeReadData_of_le hlen, withBuffer]

/-- The condition survives every pass. -/
theorem NoWrap.of_passTo {session session' : ClientSession} (h : NoWrap session.readBuffer)
    (hpass : PassTo session session') : NoWrap session'.readBuffer := by
  obtain ⟨call, total, hdispatch, rfl⟩ := hpass
  have hsigned := (pass_eq_dispatch_iff.mp hdispatch).1
  have hsafe := passSafe_of_sizeFits hdispatch (h _ _ .here hsigned)
  rw [hsafe.removed]
  exact h.drop hsigned hsafe.inside

theorem NoWrap.passesSafe {session : ClientSession} (h : NoWrap session.readBuffer) :
    PassesSafe session := by
  intro session' hreach call total hpass
  have h' : NoWrap session'.readBuffer := by
    -- the condition is carried from pass to pass
    clear hpass
    induction hreach with
    | refl => exact h
    | tail _ hstep ih => exact ih.of_passTo hstep
  exact passSafe_of_sizeFits hpass (h' _ _ .here (pass_eq_dispatch_iff.mp hpass).1)

/-- The loop ends: it drains the buffer, and the pass after that waits or clears. -/
theorem NoWrap.returns {session : ClientSession} (h : NoWrap session.readBuffer) :
    ∃ fuel res, processBuffer fuel session = some res := by
  obtain ⟨calls, rest, hdrains⟩ := exists_drains length_lt_of_peel session.readBuffer
  have hfits : ∀ header, SignedHeader rest header → SizeFits header :=
    fun header => h rest header (boundary_of_drains hdrains)
  rcases pass_of_peel_eq_none hdrains.peel_rest hfits with hwait | hbad
  · have hend : processBuffer 1 (withBuffer session rest) = some ([], _) :=
      processBuffer_of_wait hwait
    obtain ⟨fuel, hfuel⟩ := processBuffer_of_drains hdrains rfl hend
    exact ⟨fuel, _, hfuel⟩
  · have hend : processBuffer 1 (withBuffer session rest) = some ([], _) :=
      processBuffer_of_badSignature hbad
    obtain ⟨fuel, hfuel⟩ := processBuffer_of_drains hdrains rfl hend
    exact ⟨fuel, _, hfuel⟩

/-! ### Needed -/

/-- A signed header whose size wraps makes the very next pass dispatch and go wrong. -/
theorem sizeFits_of_passesSafe {session : ClientSession} (h : PassesSafe session)
    {header : PacketHeader} (hsigned : SignedHeader session.readBuffer header) :
    SizeFits header := by
  by_contra hwrap
  have htotal := toNat_totalPacketSize_of_le (Nat.le_of_not_lt hwrap)
  have hsize := hsigned.size_le
  have hsafe := h session .refl _ _ (pass_eq_dispatch_of_le hsigned (by omega))
  -- less than a header has been removed, where 2^32 bytes at least should have been
  have hlen := congrArg List.length hsafe.removed
  rw [removeReadData_of_le (by omega)] at hlen
  simp only [withBuffer, List.length_drop] at hlen
  have hinside := hsafe.inside
  simp only [SizeFits, PacketHeader.size] at hwrap hinside hlen htotal hsize
  omega

theorem PassesSafe.of_passTo {session session' : ClientSession} (h : PassesSafe session)
    (hpass : PassTo session session') : PassesSafe session' :=
  fun session'' hreach => h session'' (.head hpass hreach)

theorem sizeFits_of_boundary {buffer rest : List Byte} {header : PacketHeader}
    (hb : Boundary buffer rest) (hsigned : SignedHeader rest header) {session : ClientSession}
    (hbuf : session.readBuffer = buffer) (h : PassesSafe session) : SizeFits header := by
  induction hb generalizing session with
  | here => exact sizeFits_of_passesSafe h (hbuf ▸ hsigned)
  | @next buffer rest header₀ hs hlen _ ih =>
    -- the packet before the boundary is a safe pass, which takes the loop to the rest
    subst hbuf
    have hfits := sizeFits_of_passesSafe h hs
    have htotal := toNat_totalPacketSize_of_lt hfits
    have hstep : PassTo session (withBuffer session
        (session.readBuffer.drop (PacketHeader.size + header₀.bodySize.toNat))) := by
      refine ⟨_, _, pass_eq_dispatch_of_le hs (htotal ▸ hlen), ?_⟩
      rw [htotal, removeReadData_of_le hlen]
    exact ih hsigned rfl (h.of_passTo hstep)

/-- **Framer safety, exactly.** The loop ends and all its passes are safe if and only if no
signed header at a packet boundary of the buffer announces a size that wraps. -/
theorem safe_iff_noWrap (session : ClientSession) :
    Safe session ↔ NoWrap session.readBuffer :=
  ⟨fun h _ _ hb hsigned => sizeFits_of_boundary hb hsigned rfl h.2,
    fun h => ⟨h.returns, h.passesSafe⟩⟩

/-- Eight bytes that a client can send: a login header with `bodySize = 0xFFFFFFF8`. -/
def hostile : ClientSession :=
  { ClientSession.new 5 with readBuffer := [0x45, 0x43, 0x03, 0xF2, 0xFF, 0xFF, 0xFF, 0xF8] }

/-- On these bytes the loop dispatches a body from outside the buffer, removes nothing, and
does so forever. -/
theorem hostile_not_safe :
    pass hostile.readBuffer =
        .dispatch ⟨⟨PacketHeader.eatsConnect, CmdID.REQ_LOGIN, 0xFFFFFFF8⟩, none⟩ 0 ∧
      (∀ fuel, processBuffer fuel hostile = none) ∧ ¬ Safe hostile := by
  have hpass : pass hostile.readBuffer =
      .dispatch ⟨⟨PacketHeader.eatsConnect, CmdID.REQ_LOGIN, 0xFFFFFFF8⟩, none⟩ 0 := by
    decide
  have hnever : ∀ fuel, processBuffer fuel hostile = none := by
    intro fuel
    induction fuel with
    | zero => rfl
    | succ fuel ih =>
      have hsame : hostile.removeReadData (0 : BitVec 32).toNat = hostile := by decide
      simp only [processBuffer, hpass, hsame, ih, Option.map_none]
  refine ⟨hpass, hnever, ?_⟩
  rintro ⟨⟨fuel, res, hres⟩, -⟩
  simp [hnever fuel] at hres

end PacketFramer

end ItsBedalyo
