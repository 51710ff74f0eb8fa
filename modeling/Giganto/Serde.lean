import Mathlib.Data.List.Basic

/-!
# The serde interface

The `Deserialize` impls this crate derives or writes (`Config`, `PeerIdentity`,
`deserialize_socket_addr`, `deserialize_peer_addr`) are generic over the deserializer. A
`Deserializer` here is the part of `serde::Deserializer`, `MapAccess` and `SeqAccess` those
impls drive, for a format whose values are `V` and whose errors are `E`: for each kind of
visitor, what the format hands it or the error it raises. `de::Error`'s provided methods build
their messages with `custom`, as serde does.
-/

namespace Giganto.Serde

/-- `serde::de::Unexpected`, for the values a format can hold. -/
inductive Unexpected where
  | bool (b : Bool)
  | signed (i : Int)
  | float (repr : String)
  | str (s : String)
  | unit
  | seq
  | map
deriving DecidableEq, Repr

/-- `{:?}` of a string: quoted, with `"`, `\`, and the control characters escaped. Rust also
escapes some printable-looking Unicode characters; those are written as they are here. -/
def debugString (s : String) : String :=
  let escape (c : Char) : List Char :=
    if c = '"' then ['\\', '"']
    else if c = '\\' then ['\\', '\\']
    else if c = '\n' then ['\\', 'n']
    else if c = '\r' then ['\\', 'r']
    else if c = '\t' then ['\\', 't']
    else if c = '\x00' then ['\\', '0']
    else if c.toNat < 0x20 ∨ c.toNat = 0x7f then
      "\\u\x7b".toList ++ Nat.toDigits 16 c.toNat ++ ['\x7d']
    else [c]
  ⟨'"' :: s.toList.flatMap escape ++ ['"']⟩

/-- `Display for Unexpected`. -/
def Unexpected.toString : Unexpected → String
  | .bool b => "boolean `" ++ (if b then "true" else "false") ++ "`"
  | .signed i => "integer `" ++ ToString.toString i ++ "`"
  | .float r => "floating point `" ++ r ++ "`"
  | .str s => "string " ++ debugString s
  | .unit => "unit value"
  | .seq => "sequence"
  | .map => "map"

/-- `de::Error::invalid_type`. -/
def invalidType (unexp : Unexpected) (expected : String) : String :=
  "invalid type: " ++ unexp.toString ++ ", expected " ++ expected

/-- `de::Error::invalid_value`. -/
def invalidValue (unexp : Unexpected) (expected : String) : String :=
  "invalid value: " ++ unexp.toString ++ ", expected " ++ expected

/-- `de::Error::missing_field`. -/
def missingField (field : String) : String := "missing field `" ++ field ++ "`"

/-- `de::Error::duplicate_field`. -/
def duplicateField (field : String) : String := "duplicate field `" ++ field ++ "`"

/-- The calls the `Deserialize` impls of this crate make on a format with values `V` and errors
`E`. -/
structure Deserializer (V E : Type) where
  /-- `de::Error::custom`. -/
  custom : String → E
  /-- What an error inside the value of a map entry becomes (`MapAccess::next_value`). -/
  addKey : String → E → E
  /-- `deserialize_str` or `deserialize_string` with a visitor that takes a string and expects
  `expecting` otherwise: the string handed to `visit_str`. -/
  str : (expecting : String) → V → Except E String
  /-- The primitive visitor of an integer type named `ty` with the bounds `lo` and `hi`. -/
  int : (ty : String) → (lo hi : Int) → V → Except E {x : Int // lo ≤ x ∧ x ≤ hi}
  /-- `deserialize_option`: whether it calls `visit_none`. -/
  isNone : V → Bool
  /-- `deserialize_seq`: the elements `SeqAccess` hands out, in order. -/
  seq : (expecting : String) → V → Except E (List V)
  /-- `deserialize_struct`: the entries `MapAccess` hands `visit_map`, in order. -/
  map : (expecting : String) → V → Except E (List (String × V))

variable {V E : Type} (D : Deserializer V E)

/-- `MapAccess::next_value` for an entry: the value's error carries the key. -/
def Deserializer.value {α : Type} (key : String) (read : V → Except E α) (v : V) : Except E α :=
  match read v with
  | .ok a => .ok a
  | .error e => .error (D.addKey key e)

/-- One field of a derived `visit_map`: an error if it was read before (`duplicate_field`),
else its value. -/
def Deserializer.field {α : Type} (key : String) (seen : Option α) (read : V → Except E α)
    (v : V) : Except E (Option α) :=
  if seen.isSome then .error (D.custom (duplicateField key))
  else (D.value key read v).map some

/-- A required field after the loop of a derived `visit_map`: `missing_field` if absent. -/
def Deserializer.required {α : Type} (key : String) : Option α → Except E α
  | some a => .ok a
  | none => .error (D.custom (missingField key))

@[simp] theorem ok_bind {α β : Type} (a : α) (f : α → Except E β) : (Except.ok a >>= f) = f a :=
  rfl

@[simp] theorem map_ok {α β : Type} (f : α → β) (a : α) :
    Except.map f (Except.ok a : Except E α) = .ok (f a) := rfl

@[simp] theorem mapError_ok {α E' : Type} (f : E → E') (a : α) :
    Except.mapError f (Except.ok a : Except E α) = .ok a := rfl

theorem bind_eq_ok {α β : Type} {x : Except E α} {f : α → Except E β} {b : β} :
    x >>= f = .ok b ↔ ∃ a, x = .ok a ∧ f a = .ok b := by
  cases x <;> simp [bind, Except.bind]

theorem map_eq_ok {α β : Type} {x : Except E α} {f : α → β} {b : β} :
    x.map f = .ok b ↔ ∃ a, x = .ok a ∧ f a = b := by
  cases x <;> simp [Except.map]

theorem map_eq_error {α β : Type} {x : Except E α} {f : α → β} {e : E} :
    x.map f = .error e ↔ x = .error e := by
  cases x <;> simp [Except.map]

theorem mapError_eq_ok {α E' : Type} {x : Except E α} {f : E → E'} {a : α} :
    x.mapError f = .ok a ↔ x = .ok a := by
  cases x <;> simp [Except.mapError]

theorem mem_of_mapM_eq_ok {α β : Type} {f : α → Except E β} {l : List α} {r : List β}
    (h : l.mapM f = .ok r) {b : β} (hb : b ∈ r) : ∃ a ∈ l, f a = .ok b := by
  induction l generalizing r with
  | nil => cases h; cases hb
  | cons a l ih =>
    rw [List.mapM_cons] at h
    obtain ⟨b', hb', h⟩ := bind_eq_ok.mp h
    obtain ⟨bs, hbs, h⟩ := bind_eq_ok.mp h
    cases h
    rcases List.mem_cons.mp hb with rfl | hb
    · exact ⟨a, .head _, hb'⟩
    · obtain ⟨a', ha', hf⟩ := ih hbs hb
      exact ⟨a', .tail _ ha', hf⟩

theorem mapM_map_ok {α β γ : Type} {f : β → Except E γ} (g : α → β) (h : α → γ) (l : List α)
    (hf : ∀ a ∈ l, f (g a) = .ok (h a)) : (l.map g).mapM f = .ok (l.map h) := by
  induction l with
  | nil => rfl
  | cons a l ih =>
    rw [List.map_cons, List.mapM_cons, hf a (.head _), ok_bind,
      ih fun b hb => hf b (.tail _ hb)]
    rfl

/-- An invariant of each step of a fallible loop holds after the whole loop. -/
theorem foldlM_invariant {σ α : Type} {f : σ → α → Except E σ} (P : σ → Prop)
    (hstep : ∀ s a s', f s a = .ok s' → P s → P s') :
    ∀ (l : List α) (s s' : σ), l.foldlM f s = .ok s' → P s → P s'
  | [], s, s', h, hs => by cases h; exact hs
  | a :: l, s, s', h, hs => by
    rw [List.foldlM_cons] at h
    obtain ⟨s₁, h₁, h⟩ := bind_eq_ok.mp h
    exact foldlM_invariant P hstep l s₁ s' h (hstep s a s₁ h₁ hs)

theorem Deserializer.required_eq_ok {α : Type} {key : String} {o : Option α} {a : α} :
    D.required key o = .ok a ↔ o = some a := by
  cases o <;> simp [Deserializer.required]

theorem Deserializer.field_eq_ok {α : Type} {key : String} {seen : Option α}
    {read : V → Except E α} {v : V} {a : Option α} (h : D.field key seen read v = .ok a) :
    seen = none ∧ ∃ x, read v = .ok x ∧ a = some x := by
  cases seen with
  | some _ => cases h
  | none =>
    refine ⟨rfl, ?_⟩
    unfold Deserializer.field Deserializer.value at h
    cases hr : read v with
    | error e => rw [hr] at h; cases h
    | ok x =>
      rw [hr] at h
      cases h
      exact ⟨x, rfl, rfl⟩

theorem Deserializer.field_of_none {α : Type} {key : String} {seen : Option α}
    {read : V → Except E α} {v : V} {x : α} (hs : seen = none) (h : read v = .ok x) :
    D.field key seen read v = .ok (some x) := by
  simp [Deserializer.field, Deserializer.value, hs, h]

end Giganto.Serde
