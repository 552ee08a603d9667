import Mathlib.Data.List.Induction

/-!
# Incremental decoding of a byte stream

A decoder of a stream that arrives in chunks keeps a buffer and, after each chunk, takes
messages off the front as long as it can. `peel` is the attempt to take one message:
`peel b = some (m, r)` when `m` is at the front of `b` and `r` is left. `Drains` iterates it,
and `Feeds` runs it chunk by chunk.

When peeling is *local* (bytes that come later do not change a message that is complete),
chunking does not matter: feeding the chunks drains their concatenation (`Feeds.drains`).
When the stream is a concatenation of encodings that `peel` recognises, the messages taken
off a prefix are those whose bytes all lie in it (`exists_splits`, `Splits.drains`).
-/

namespace StreamDecoder

variable {β μ : Type*}

section Drain

variable (peel : List β → Option (μ × List β))

/-- Peeling does not depend on what follows a complete message. -/
def Local : Prop :=
  ∀ ⦃b m r⦄, peel b = some (m, r) → ∀ c, peel (b ++ c) = some (m, r ++ c)

/-- `Drains peel b ms e`: peeling as long as possible takes `ms` off `b`, in order, and
leaves `e`. -/
inductive Drains : List β → List μ → List β → Prop
  | stop {b : List β} : peel b = none → Drains b [] b
  | more {b r e : List β} {m : μ} {ms : List μ} :
      peel b = some (m, r) → Drains r ms e → Drains b (m :: ms) e

/-- `Feeds peel cs ms e`: starting with nothing in the buffer, receiving the chunks `cs` one
by one and draining after each takes `ms` off in total and leaves `e`. -/
inductive Feeds : List (List β) → List μ → List β → Prop
  | nil : Feeds [] [] []
  | snoc {c e e' : List β} {cs : List (List β)} {ms ms' : List μ} :
      Feeds cs ms e → Drains peel (e ++ c) ms' e' → Feeds (cs ++ [c]) (ms ++ ms') e'

variable {peel}

/-- Draining has one outcome. -/
theorem Drains.unique {b e e' : List β} {ms ms' : List μ} (h : Drains peel b ms e)
    (h' : Drains peel b ms' e') : ms = ms' ∧ e = e' := by
  induction h generalizing ms' with
  | stop hb =>
    cases h' with
    | stop _ => exact ⟨rfl, rfl⟩
    | more hb' _ => cases hb.symm.trans hb'
  | more hb _ ih =>
    cases h' with
    | stop hb' => cases hb.symm.trans hb'
    | more hb' hd' =>
      cases hb.symm.trans hb'
      obtain ⟨rfl, rfl⟩ := ih hd'
      exact ⟨rfl, rfl⟩

/-- If every message takes some bytes, draining comes to an end. -/
theorem exists_drains (hshrink : ∀ b m r, peel b = some (m, r) → r.length < b.length)
    (b : List β) : ∃ ms e, Drains peel b ms e := by
  induction hn : b.length using Nat.strongRecOn generalizing b with
  | ind n ih =>
    cases hp : peel b with
    | none => exact ⟨[], b, .stop hp⟩
    | some p =>
      obtain ⟨m, r⟩ := p
      obtain ⟨ms, e, hd⟩ := ih r.length (hn ▸ hshrink b m r hp) r rfl
      exact ⟨m :: ms, e, .more hp hd⟩

/-- What is left after draining holds no complete message. -/
theorem Drains.peel_rest {b e : List β} {ms : List μ} (h : Drains peel b ms e) :
    peel e = none := by
  induction h with
  | stop hb => exact hb
  | more _ _ ih => exact ih

/-- **Draining in two steps.** Drain, receive more, drain again: the same as receiving
everything first. -/
theorem Drains.append (hloc : Local peel) {b e c e' : List β} {ms ms' : List μ}
    (h : Drains peel b ms e) (h' : Drains peel (e ++ c) ms' e') :
    Drains peel (b ++ c) (ms ++ ms') e' := by
  induction h with
  | stop _ => exact h'
  | more hb _ ih => exact .more (hloc hb c) (ih h')

/-- **Chunking does not matter.** Feeding chunks one by one drains what they add up to. -/
theorem Feeds.drains (hloc : Local peel) (hnil : peel [] = none) {cs : List (List β)}
    {ms : List μ} {e : List β} (h : Feeds peel cs ms e) : Drains peel cs.flatten ms e := by
  induction h with
  | nil => exact .stop hnil
  | snoc _ hd ih => simpa using ih.append hloc hd

/-- If every message takes some bytes, any chunks can be fed. -/
theorem exists_feeds (hshrink : ∀ b m r, peel b = some (m, r) → r.length < b.length)
    (cs : List (List β)) : ∃ ms e, Feeds peel cs ms e := by
  induction cs using List.reverseRecOn with
  | nil => exact ⟨[], [], .nil⟩
  | append_singleton cs c ih =>
    obtain ⟨ms, e, hf⟩ := ih
    obtain ⟨ms', e', hd⟩ := exists_drains hshrink (e ++ c)
    exact ⟨ms ++ ms', e', .snoc hf hd⟩

end Drain

section Encode

variable (encode : μ → List β)

/-- `Splits encode ms b n rest`: the bytes `b`, received from the stream of the messages `ms`,
are the first `n` messages followed by `rest`, a proper prefix of the message after them. -/
structure Splits (ms : List μ) (b : List β) (n : ℕ) (rest : List β) : Prop where
  eq_append : b = (ms.take n).flatMap encode ++ rest
  next : ∀ m, ms[n]? = some m → ∃ k < (encode m).length, rest = (encode m).take k
  last : ms[n]? = none → rest = []

variable {encode}

/-- Whatever has been received of the stream splits into complete messages and a rest. -/
theorem exists_splits {ms : List μ} {b : List β} (hb : b <+: ms.flatMap encode) :
    ∃ n rest, Splits encode ms b n rest := by
  induction ms generalizing b with
  | nil => exact ⟨0, [], by simpa using hb, by simp, fun _ => rfl⟩
  | cons m ms ih =>
    rw [List.flatMap_cons] at hb
    by_cases hle : (encode m).length ≤ b.length
    · -- the first message is complete: split what follows it
      obtain ⟨b', rfl⟩ : encode m <+: b :=
        List.prefix_of_prefix_length_le (List.prefix_append _ _) hb hle
      obtain ⟨n, rest, hsplit⟩ := ih ((List.prefix_append_right_inj _).mp hb)
      refine ⟨n + 1, rest, ?_, by simpa using hsplit.next, by simpa using hsplit.last⟩
      rw [hsplit.eq_append, List.take_succ_cons, List.flatMap_cons, List.append_assoc]
    · -- the first message is cut
      have hlt : b.length < (encode m).length := Nat.lt_of_not_le hle
      have hprefix : b <+: encode m :=
        List.prefix_of_prefix_length_le hb (List.prefix_append _ _) (Nat.le_of_lt hlt)
      refine ⟨0, b, by simp, ?_, by simp⟩
      intro m' hm'
      obtain rfl : m = m' := by simpa using hm'
      exact ⟨b.length, hlt, List.prefix_iff_eq_take.mp hprefix⟩

/-- What is left over is nothing, or a proper prefix of some message. -/
theorem Splits.rest_cases {ms : List μ} {b rest : List β} {n : ℕ}
    (h : Splits encode ms b n rest) :
    rest = [] ∨ ∃ m ∈ ms, ∃ k < (encode m).length, rest = (encode m).take k := by
  cases hm : ms[n]? with
  | none => exact .inl (h.last hm)
  | some m => exact .inr ⟨m, List.mem_of_getElem? hm, h.next m hm⟩

/-- **What a prefix of the stream decodes to.** If `peel` reads every message back as `decode`
says and finds nothing in the rest, draining takes off exactly the messages that have
arrived. -/
theorem Splits.drains {ν : Type*} {peel : List β → Option (ν × List β)} {decode : μ → ν}
    {ms : List μ} {b rest : List β} {n : ℕ} (h : Splits encode ms b n rest)
    (hread : ∀ m ∈ ms, ∀ c, peel (encode m ++ c) = some (decode m, c))
    (hrest : peel rest = none) : Drains peel b ((ms.take n).map decode) rest := by
  have hread' : ∀ m ∈ ms.take n, ∀ c, peel (encode m ++ c) = some (decode m, c) :=
    fun m hm => hread m (List.mem_of_mem_take hm)
  rw [h.eq_append]
  generalize ms.take n = done at hread' ⊢
  induction done with
  | nil => exact .stop hrest
  | cons m done ih =>
    rw [List.flatMap_cons, List.append_assoc]
    exact .more (hread' m List.mem_cons_self _) (ih fun m' hm' =>
      hread' m' (List.mem_cons_of_mem m hm'))

end Encode

end StreamDecoder
