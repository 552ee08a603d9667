import ItsBedalyo.Lib.Json
import Mathlib.Algebra.Group.Nat.Defs
import Mathlib.Data.List.Forall2

/-!
# Conversions that lose nothing

A conversion succeeds on values that do not say what it makes of them: `4294967297` is read as
the `int` 1, and so is `true`. `Means j a` is that the JSON value `j` says `a`, whatever else it
has, and `Readable` picks out the values that the conversion reads as what they say
(`readable_iff`). `Member` and `OptMember` carry both to the members of an object.
-/

/-- What JSON values say, beside the conversion that reads them. -/
class JsonMeaning (D α : Type) [JsonCodec D α] where
  Means : Json D → α → Prop
  Readable : Json D → Prop
  readable_iff : ∀ j, Readable j ↔ ∃ a, decode j = .ok a ∧ Means j a

export JsonMeaning (Means readable_iff)

/-- The value is read as what it says. -/
abbrev Readable {D : Type} (α : Type) [JsonCodec D α] [JsonMeaning D α] (j : Json D) : Prop :=
  JsonMeaning.Readable α j

namespace Json

variable {D α : Type}

/-- The object has the key, with such a value. -/
def Member (j : Json D) (key : String) (P : Json D → Prop) : Prop :=
  ∃ v, j.find key = some v ∧ P v

/-- The value of the key, if the object has it, is such. -/
def OptMember (j : Json D) (key : String) (P : Json D → Prop) : Prop :=
  ∀ v, j.find key = some v → P v

theorem bind_eq_ok {β : Type} {x : Except JsonError α} {f : α → Except JsonError β} {b : β} :
    (x >>= f) = .ok b ↔ ∃ a, x = .ok a ∧ f a = .ok b := by
  cases x with
  | ok a => exact ⟨fun h => ⟨a, rfl, h⟩, fun ⟨_, ha, h⟩ => by cases ha; exact h⟩
  | error e => exact ⟨fun h => (nomatch h), fun ⟨_, ha, _⟩ => (nomatch ha)⟩

section Codec

variable [JsonCodec D α] {j : Json D} {key : String} {a : α}

theorem get_eq_ok : j.get key = .ok a ↔ ∃ v, j.find key = some v ∧ decode v = .ok a := by
  cases j with
  | object members =>
    rw [get_object, find]
    cases members.lookup key with
    | some v => simp only [Option.some.injEq, exists_eq_left']
    | none => simp only [reduceCtorEq, false_and, exists_false]
  | _ => simp [get, item, find]

/-- An object that has some key reads its other keys, or takes their defaults. -/
theorem Member.value_eq_ok {key' : String} {P : Json D → Prop} {d : α} (h : j.Member key' P) :
    j.value key d = .ok a ↔
      (∃ v, j.find key = some v ∧ decode v = .ok a) ∨ j.find key = none ∧ a = d := by
  obtain ⟨v, hv, -⟩ := h
  cases j with
  | object members =>
    rw [value_object, find]
    cases members.lookup key with
    | some v => simp only [Option.some.injEq, exists_eq_left', reduceCtorEq, false_and, or_false]
    | none => simp only [reduceCtorEq, false_and, exists_false, true_and, false_or,
        Except.ok.injEq, eq_comm]
  | _ => exact absurd hv (by simp only [find, reduceCtorEq, not_false_eq_true])

variable [JsonMeaning D α]

/-- A member that has to be there. -/
theorem readable_member :
    j.Member key (Readable α) ↔ ∃ a : α, j.get key = .ok a ∧ j.Member key (Means · a) := by
  constructor
  · rintro ⟨v, hv, hread⟩
    obtain ⟨a, hdecode, hmeans⟩ := (readable_iff v).mp hread
    exact ⟨a, get_eq_ok.mpr ⟨v, hv, hdecode⟩, v, hv, hmeans⟩
  · rintro ⟨a, hget, v, hv, hmeans⟩
    obtain ⟨v', hv', hdecode⟩ := get_eq_ok.mp hget
    obtain rfl := Option.some.inj (hv.symm.trans hv')
    exact ⟨v, hv, (readable_iff v).mpr ⟨a, hdecode, hmeans⟩⟩

/-- A member that has a default. -/
theorem Member.readable_optMember {key' : String} {P : Json D → Prop} (h : j.Member key' P)
    (d : α) : j.OptMember key (Readable α) ↔
      ∃ a : α, j.value key d = .ok a ∧ j.OptMember key (Means · a) := by
  constructor
  · intro hread
    cases hv : j.find key with
    | none =>
      refine ⟨d, h.value_eq_ok.mpr (.inr ⟨hv, rfl⟩), fun v hv' => ?_⟩
      rw [hv] at hv'
      cases hv'
    | some v =>
      obtain ⟨a, hdecode, hmeans⟩ := (readable_iff v).mp (hread v hv)
      refine ⟨a, h.value_eq_ok.mpr (.inl ⟨v, hv, hdecode⟩), fun v' hv' => ?_⟩
      rw [hv] at hv'
      cases hv'
      exact hmeans
  · rintro ⟨a, hvalue, hmeans⟩ v hv
    obtain ⟨v', hv', hdecode⟩ | ⟨hnone, -⟩ := h.value_eq_ok.mp hvalue
    · obtain rfl := Option.some.inj (hv.symm.trans hv')
      exact (readable_iff v).mpr ⟨a, hdecode, hmeans v hv⟩
    · rw [hnone] at hv
      cases hv

end Codec

end Json

/-! ### The basic types -/

namespace JsonMeaning

variable {D α : Type}

instance : JsonMeaning D String where
  Means
    | .string s, t => s = t
    | _, _ => False
  Readable
    | .string _ => True
    | _ => False
  readable_iff j := by
    cases j with
    | string s => exact iff_of_true trivial ⟨s, rfl, rfl⟩
    | _ => exact iff_of_false id fun ⟨_, h, _⟩ => (nomatch h)

instance : JsonMeaning D Bool where
  Means
    | .boolean b, c => b = c
    | _, _ => False
  Readable
    | .boolean _ => True
    | _ => False
  readable_iff j := by
    cases j with
    | boolean b => exact iff_of_true trivial ⟨b, rfl, rfl⟩
    | _ => exact iff_of_false id fun ⟨_, h, _⟩ => (nomatch h)

/-- An unsigned number survives the narrowing exactly when it is small. -/
theorem toInt_toInt32_toInt64 (m : UInt64) :
    (m.toNat : ℤ) = m.toInt64.toInt32.toInt ↔ m.toNat < 2 ^ 31 := by
  have hwide : m.toInt64.toInt = (m.toNat : ℤ).bmod (2 ^ 64) := BitVec.toInt_eq_toNat_bmod _
  rw [Int64.toInt_toInt32, hwide, Int.bmod_bmod_of_dvd (by decide), Int.bmod_def]
  split <;> omega

/-- A number says the `int` it is equal to. -/
instance [Double D] [BEq D] : JsonMeaning D Int32 where
  Means
    | .numberInteger m, n => m = n.toInt64
    | .numberUnsigned m, n => (m.toNat : ℤ) = n.toInt
    | .numberFloat x, n => (x == Double.ofInt n.toInt) = true
    | _, _ => False
  Readable
    | .numberInteger m => m = m.toInt32.toInt64
    | .numberUnsigned m => m.toNat < 2 ^ 31
    | .numberFloat x => (x == Double.ofInt (Double.toInt32 x).toInt) = true
    | _ => False
  readable_iff j := by
    cases j with
    | numberInteger m =>
      exact ⟨fun h => ⟨_, rfl, h⟩, fun ⟨_, hdecode, h⟩ => by cases hdecode; exact h⟩
    | numberUnsigned m =>
      refine (toInt_toInt32_toInt64 m).symm.trans ?_
      exact ⟨fun h => ⟨_, rfl, h⟩, fun ⟨_, hdecode, h⟩ => by cases hdecode; exact h⟩
    | numberFloat x =>
      exact ⟨fun h => ⟨_, rfl, h⟩, fun ⟨_, hdecode, h⟩ => by cases hdecode; exact h⟩
    | _ => exact iff_of_false id fun ⟨_, _, h⟩ => h

theorem forall_readable_iff [JsonCodec D α] [JsonMeaning D α] (elems : List (Json D)) :
    (∀ v ∈ elems, Readable α v) ↔
      ∃ l : List α, JsonCodec.readAll elems = .ok l ∧ List.Forall₂ Means elems l := by
  induction elems with
  | nil => exact iff_of_true (fun _ hv => (nomatch hv)) ⟨[], rfl, .nil⟩
  | cons v vs ih =>
    rw [List.forall_mem_cons, ih, readable_iff]
    constructor
    · rintro ⟨⟨a, hdecode, hmeans⟩, l, hread, hall⟩
      exact ⟨a :: l, by simp only [JsonCodec.readAll, hdecode, hread, JsonError.ok_bind,
        JsonError.pure_eq_ok], .cons hmeans hall⟩
    · rintro ⟨l, hread, hall⟩
      simp only [JsonCodec.readAll, Json.bind_eq_ok] at hread
      obtain ⟨a, hdecode, rest, hrest, hl⟩ := hread
      cases hl
      obtain ⟨hmeans, hall⟩ := List.forall₂_cons.mp hall
      exact ⟨⟨a, hdecode, hmeans⟩, rest, hrest, hall⟩

/-- An array says the list of what its elements say. -/
instance [JsonCodec D α] [JsonMeaning D α] : JsonMeaning D (List α) where
  Means
    | .array elems, l => List.Forall₂ Means elems l
    | _, _ => False
  Readable
    | .array elems => ∀ v ∈ elems, Readable α v
    | _ => False
  readable_iff j := by
    cases j with
    | array elems => exact forall_readable_iff elems
    | _ => exact iff_of_false id fun ⟨_, _, h⟩ => h

end JsonMeaning
