import ItsBedalyo.Handler.Ledger
import ItsBedalyo.Lib.Linearization

/-!
# Pages that seem to be done one after another

Where the tables after a call are a function of the event that is written down for it, a page that
changes them at most with its first event, and whose packet fits this event, is as good as done at
once: whatever other pages do meanwhile, there is an order of the pages that explains their packets
and the tables (`linearizes_of_run`).
-/

namespace ItsBedalyo.Pages.Ledger

open Journal Linearization Transition

variable {ι σ ρ D E : Type} [DecidableEq ι] [Double D]

/-- A packet. -/
abbrev Packet (D : Type) := CmdID × Option (Json D)

/-- What a page does if it is done at once: whether calls of it have failed, the tables, its packet,
and the tables afterwards. -/
abbrev Spec (D σ : Type) := Prop → σ → Packet D → σ → Prop

/-- What an event of a ledger does to the tables, what holds of the tables before it, and which
packet it is. -/
structure OneStep (ledger : Ledger D σ ρ E) where
  effect : E → σ → σ
  holds : σ → E → Prop
  packet : E → Option (Packet D)
  write : ∀ {s choice query params n event},
    ledger.write s choice query params = some (n, some event) → holds s event
  find : ∀ {s choice query params rows event},
    ledger.find s choice query params = some (rows, some event) → holds s event
  sent : ∀ s cmdId body, holds s (ledger.sent cmdId body) ∧ effect (ledger.sent cmdId body) s = s
  failed : ∀ s, holds s ledger.failed ∧ effect ledger.failed s = s
  after : ∀ s choice event, ledger.after s choice event = effect event s
  packet_sent : ∀ cmdId body, packet (ledger.sent cmdId body) = some (cmdId, body)
  packet_failed : packet ledger.failed = none

namespace OneStep

variable {ledger : Ledger D σ ρ E} (one : OneStep ledger)

section Pages

variable (spec : Spec D σ)

/-- A packet fits an event: the page may do this at once, whatever the tables are where the event
happens. -/
def Fits (failed : Prop) (event : E) (packet : Packet D) : Prop :=
  ∀ s, one.holds s event → spec failed s packet (one.effect event s)

/-- What a page may do, after what it has done: some packet fits its first event, no other event
changes the tables, and it sends one packet, which fits the first event. -/
structure May (done : List E) (event : E) : Prop where
  begins : done = [] → ∃ packet, one.Fits spec (ledger.failed = event) event packet
  stays : done ≠ [] → ∀ s, one.holds s event → one.effect event s = s
  once : one.packet event ≠ none → ∀ e ∈ done, one.packet e = none
  sends : ∀ packet, one.packet event = some packet →
    one.Fits spec (ledger.failed ∈ done) (done.headD event) packet

end Pages

/-! ### What a page may do -/

section Rules

variable {one} {spec : Spec D σ} {done : List E} {event : E} {packet : Packet D}

/-- That calls have failed allows more. -/
def Widens (spec : Spec D σ) : Prop :=
  ∀ {p q : Prop} s packet s', (p → q) → spec p s packet s' → spec q s packet s'

omit [Double D] in
theorem Fits.mono (hwidens : Widens spec) {p q : Prop} (h : one.Fits spec p event packet)
    (hpq : p → q) : one.Fits spec q event packet :=
  fun s hs => hwidens s packet _ hpq (h s hs)

omit [Double D] in
/-- The first event. -/
theorem May.first (hwidens : Widens spec) (hpacket : one.packet event = none)
    (h : one.Fits spec False event packet) : one.May spec [] event where
  begins _ := ⟨packet, h.mono hwidens False.elim⟩
  stays hne := absurd rfl hne
  once hne := absurd hpacket hne
  sends r hr := by rw [hpacket] at hr; cases hr

omit [Double D] in
/-- A call that fails. -/
theorem may_failed (h : one.Fits spec True ledger.failed packet) (done : List E) :
    one.May spec done ledger.failed where
  begins _ := ⟨packet, by rwa [eq_self]⟩
  stays _ s _ := (one.failed s).2
  once hne := absurd one.packet_failed hne
  sends r hr := by rw [one.packet_failed] at hr; cases hr

/-- The packet. -/
theorem wp_send (hwidens : Widens spec) {cmdId : CmdID} {body : Json D}
    (honce : ∀ e ∈ done, one.packet e = none)
    (h : one.Fits spec (ledger.failed ∈ done) (done.headD (ledger.sent cmdId (some body)))
      (cmdId, some body)) {Q : Except Exn Unit → List E → Prop} (hQ : ∀ done', Q (.ok ()) done') :
    (ledger.permits (one.May spec)).wp (Page.reply cmdId body) Q done := by
  refine wp_reply ⟨fun hnil => ?_, fun _ s _ => (one.sent s _ _).2, fun _ => honce,
    fun r hr => ?_⟩ hQ
  · subst hnil
    exact ⟨_, h.mono hwidens fun hmem => absurd hmem List.not_mem_nil⟩
  · rw [one.packet_sent] at hr
    obtain rfl := Option.some.inj hr
    exact h

variable (one) in
/-- An event that neither changes the tables nor is a packet. -/
structure Quiet (event : E) : Prop where
  packet : one.packet event = none
  effect : ∀ s, one.effect event s = s

omit [Double D] in
theorem quiet_failed : one.Quiet ledger.failed := ⟨one.packet_failed, fun s => (one.failed s).2⟩

/-- The packet after a call has failed, where no call has changed anything. -/
theorem wp_send_failed (hwidens : Widens spec) {cmdId : CmdID} {body : Json D}
    (hquiet : ∀ e ∈ done, one.Quiet e)
    (h : ∀ event, (∀ s, one.effect event s = s) → one.Fits spec True event (cmdId, some body))
    {Q : Except Exn Unit → List E → Prop} (hQ : ∀ done', Q (.ok ()) done') :
    (ledger.permits (one.May spec)).wp (Page.reply cmdId body) Q (done ++ [ledger.failed]) := by
  have hall : ∀ e ∈ done ++ [ledger.failed], one.Quiet e := by
    intro e he
    rcases List.mem_append.mp he with he | he
    · exact hquiet e he
    · exact List.mem_singleton.mp he ▸ quiet_failed
  have hhead : (done ++ [ledger.failed]).headD (ledger.sent cmdId (some body)) ∈
      done ++ [ledger.failed] := by
    cases done <;> exact List.mem_cons_self
  refine wp_send hwidens (fun e he => (hall e he).packet) ?_ hQ
  exact (h _ (hall _ hhead).effect).mono hwidens fun _ =>
    List.mem_append_right _ List.mem_cons_self

end Rules

/-! ### Runs -/

variable {one} {specs : ι → Spec D σ} {first : σ}

variable (one) in
omit [DecidableEq ι] [Double D] in
/-- The journal tells the tables. -/
theorem tells : Tells ledger (fun s (log : List (ι × E)) => s = replay first one.effect log)
    (fun log event => one.holds (replay first one.effect log) event) where
  write {s log choice query params n event} h hwrite := h ▸ one.write hwrite
  find {s log choice query params rows event} h hfind := h ▸ one.find hfind
  sent _ _ _ := (one.sent _ _ _).1
  failed _ := (one.failed _).1
  after {s log} choice t event h _ := by rw [one.after, h, replay_concat]

variable (one specs) in
/-- **Pages in any order.** Whatever the calls of the pages are interleaved like and which of them
fail, the packets and the tables are as if the pages had been done one after another. -/
theorem linearizes_of_run
    (hwidens : ∀ t, Widens (specs t))
    {todo : ι → Page D Unit}
    (htodo : ∀ t, (ledger.permits (one.May (specs t))).wp (todo t) (fun _ _ => True) [])
    (l : List (ι × Reply D ρ)) :
    Always (Threads.step ledger.exec)
      (fun s => ∃ history, Linearizes (fun t => specs t ((t, ledger.failed) ∈ s.world.log)) first
        one.packet s.world.log s.world.tables history)
      ⟨todo, ⟨first, []⟩⟩ l := by
  refine (always_recorded (tells one) rfl htodo l).mono fun s hs => ?_
  obtain ⟨htables, hlog⟩ := hs
  rw [htables]
  suffices h : Throughout (AtOnce (fun t => specs t ((t, ledger.failed) ∈ s.world.log)) first
      one.packet one.effect (fun t => one.Fits (specs t) ((t, ledger.failed) ∈ s.world.log)))
      s.world.log from exists_linearizes h
  rintro before ⟨t, event⟩ after heq
  obtain ⟨hmay, hholds⟩ := hlog before _ after heq
  have hmem {e : E} (he : e ∈ own before t) : (t, e) ∈ s.world.log :=
    heq ▸ List.mem_append_left _ (mem_own.mp he)
  refine ⟨fun hfirst => ?_, fun _ r hfits => hfits _ hholds,
    fun hlater => hmay.stays hlater _ hholds,
    fun r hr => (hmay.sends r hr).mono (hwidens t) hmem, hmay.once⟩
  obtain ⟨packet, hfits⟩ := hmay.begins hfirst
  refine ⟨packet, hfits.mono (hwidens t) fun hfailed => ?_⟩
  rw [hfailed, heq]
  exact List.mem_append_right _ List.mem_cons_self

end OneStep

end ItsBedalyo.Pages.Ledger
