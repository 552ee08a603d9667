import Mathlib.Data.Int.Notation
import Mathlib.Data.List.Basic
import Mathlib.Logic.Basic

/-!
# JSON values and conversions

JSON values as a C++ program holds them: numbers are signed, unsigned or floating, and an object
maps keys to values. Conversions to other types are partial and lenient, in one way for each
basic type: an `int` is read from every kind of number and from a `bool`, with a narrowing cast, a
string only from a string. `value` reads a member or takes a default where it is missing, but
does not take it for a member of the wrong type.

`JsonCodec` pairs the two directions of a conversion; a codec is `Lawful` at a value that comes
back as it was. Floating-point numbers are a parameter, `Double`.
-/

/-- What is thrown, with the number of the error. -/
inductive JsonError
  | typeError (id : ℕ)
  | outOfRange (id : ℕ)
  deriving DecidableEq

/-- Floating-point numbers, and their casts from and to integers. -/
class Double (D : Type) where
  zero : D
  ofInt : ℤ → D
  toInt32 : D → Int32

instance : Double Float := ⟨0.0, Float.ofInt, Float.toInt32⟩

/-- A JSON value. -/
inductive Json (D : Type)
  | null
  | boolean (b : Bool)
  | numberInteger (n : Int64)
  | numberUnsigned (n : UInt64)
  | numberFloat (x : D)
  | string (s : String)
  | array (elems : List (Json D))
  | object (members : List (String × Json D))

/-- The two directions of a conversion. -/
class JsonCodec (D : Type) (α : Type) where
  encode : α → Json D
  decode : Json D → Except JsonError α

export JsonCodec (encode decode)

namespace Json

variable {D α : Type} [JsonCodec D α]

/-- `is_array()`. -/
def isArray : Json D → Bool
  | array _ => true
  | _ => false

/-- The member of a key, if this is an object that has it. -/
def find (j : Json D) (key : String) : Option (Json D) :=
  match j with
  | object members => members.lookup key
  | _ => none

/-- `contains(key)`. -/
def contains (j : Json D) (key : String) : Bool := (j.find key).isSome

/-- `at(key)`. -/
def item (j : Json D) (key : String) : Except JsonError (Json D) :=
  match j with
  | object members =>
    match members.lookup key with
    | some v => .ok v
    | none => .error (.outOfRange 403)
  | _ => .error (.typeError 304)

/-- `value(key, default_value)`. -/
def value (j : Json D) (key : String) (default : α) : Except JsonError α :=
  match j with
  | object members =>
    match members.lookup key with
    | some v => decode v
    | none => .ok default
  | _ => .error (.typeError 306)

/-- `at(key).get_to(…)`. -/
def get (j : Json D) (key : String) : Except JsonError α := do
  let v ← j.item key
  decode v

/-- `value(camel, value(snake, default_value))`. -/
def value₂ (j : Json D) (camel snake : String) (default : α) : Except JsonError α := do
  let fallback ← j.value snake default
  j.value camel fallback

/-! ### Members of an object -/

section Members

variable (members : List (String × Json D)) (key : String)

@[simp] theorem get_object : (object members).get key = match members.lookup key with
    | some v => (decode v : Except JsonError α)
    | none => .error (.outOfRange 403) := by
  simp only [get, item]
  cases members.lookup key with
  | some v => rfl
  | none => rfl

@[simp] theorem value_object (default : α) : (object members).value key default =
    match members.lookup key with
    | some v => decode v
    | none => .ok default := rfl

omit [JsonCodec D α] in
@[simp] theorem contains_object : (object members).contains key = (members.lookup key).isSome := rfl

end Members

end Json

namespace JsonError

variable {α β : Type}

/-- A conversion that has succeeded goes on. -/
@[simp] theorem ok_bind (a : α) (f : α → Except JsonError β) : (Except.ok a >>= f) = f a := rfl

@[simp] theorem error_bind (e : JsonError) (f : α → Except JsonError β) :
    (Except.error e >>= f) = .error e := rfl

@[simp] theorem pure_eq_ok (a : α) : (pure a : Except JsonError α) = .ok a := rfl

end JsonError

/-! ### The basic types -/

namespace JsonCodec

variable {D α : Type}

/-- Any JSON value is read as itself. -/
instance : JsonCodec D (Json D) := ⟨id, .ok⟩

instance : JsonCodec D String where
  encode := .string
  decode
    | .string s => .ok s
    | _ => .error (.typeError 302)

instance : JsonCodec D Bool where
  encode := .boolean
  decode
    | .boolean b => .ok b
    | _ => .error (.typeError 302)

instance [Double D] : JsonCodec D Int32 where
  encode n := .numberInteger n.toInt64
  decode
    | .numberUnsigned n => .ok n.toInt64.toInt32
    | .numberInteger n => .ok n.toInt32
    | .numberFloat x => .ok (Double.toInt32 x)
    | .boolean b => .ok (if b then 1 else 0)
    | _ => .error (.typeError 302)

instance [Double D] : JsonCodec D D where
  encode := .numberFloat
  decode
    | .numberUnsigned n => .ok (Double.ofInt n.toNat)
    | .numberInteger n => .ok (Double.ofInt n.toInt)
    | .numberFloat x => .ok x
    | _ => .error (.typeError 302)

/-- The elements of an array, up to the first that cannot be read. -/
def readAll [JsonCodec D α] : List (Json D) → Except JsonError (List α)
  | [] => .ok []
  | v :: vs => do
    let a ← decode v
    let rest ← readAll vs
    pure (a :: rest)

instance [JsonCodec D α] : JsonCodec D (List α) where
  encode l := .array (l.map encode)
  decode
    | .array elems => readAll elems
    | _ => .error (.typeError 302)

end JsonCodec

/-! ### Lawful codecs -/

/-- What is written is read as it was. -/
class LawfulCodec (D : Type) (α : Type) [JsonCodec D α] : Prop where
  decode_encode : ∀ v : α, decode (encode v : Json D) = .ok v

export LawfulCodec (decode_encode)

attribute [simp] decode_encode

namespace LawfulCodec

variable {D α : Type}

instance : LawfulCodec D (Json D) := ⟨fun _ => rfl⟩

instance : LawfulCodec D String := ⟨fun _ => rfl⟩

instance : LawfulCodec D Bool := ⟨fun _ => rfl⟩

instance [Double D] : LawfulCodec D Int32 :=
  ⟨fun n => congrArg Except.ok (Int32.toInt32_toInt64 n)⟩

instance [Double D] : LawfulCodec D D := ⟨fun _ => rfl⟩

theorem encode_inj [JsonCodec D α] [LawfulCodec D α] {a b : α} :
    (encode a : Json D) = encode b ↔ a = b := by
  refine ⟨fun h => ?_, fun h => congrArg encode h⟩
  have hdecode := congrArg (decode : Json D → Except JsonError α) h
  rw [decode_encode, decode_encode] at hdecode
  exact Except.ok.inj hdecode

theorem readAll_map_encode [JsonCodec D α] [LawfulCodec D α] (l : List α) :
    JsonCodec.readAll (l.map (encode : α → Json D)) = .ok l := by
  induction l with
  | nil => rfl
  | cons a l ih =>
    rw [List.map_cons, JsonCodec.readAll, decode_encode, ih]
    rfl

instance [JsonCodec D α] [LawfulCodec D α] : LawfulCodec D (List α) := ⟨readAll_map_encode⟩

end LawfulCodec
