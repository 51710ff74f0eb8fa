import Giganto.Toml.Document
import Giganto.Serde

/-!
# Deserializing from a document

`toml::from_str`: toml_edit's `ValueDeserializer` over the items of the parsed document. A text
is modelled by the document it parses to, so reading a text is reading its document; an entry
`IndexMut` left as `Item::None` is not part of the text and is not read. An error carries its
message and the keys of the entries it was found under (`TomlError`'s `keys`); the position in
the text that `Display` would add is not modelled.
-/

namespace Giganto.Toml

open Serde

/-- `toml::de::Error`: the message and the path of keys. -/
structure DeError where
  message : String
  keys : List String := []
deriving DecidableEq, Repr

/-- What `deserialize_any` hands a visitor that does not take it. -/
def Item.unexpected : Item → Unexpected
  | .value (.string s _ _) => .str s
  | .value (.integer i _ _) => .signed i.1
  | .value (.float r _) => .float r
  | .value (.boolean b _ _) => .bool b
  | .value (.datetime _ _) => .map
  | .value (.array _) | .arrayOfTables _ => .seq
  | .value (.inlineTable _) | .table _ => .map
  | .none => .unit

/-- The entries of a table `TableMapAccess` hands out: those the text has. -/
def visibleEntries : List (Key × Item) → List (String × Item)
  | [] => []
  | (_, .none) :: rest => visibleEntries rest
  | (k, it) :: rest => (k.name, it) :: visibleEntries rest

/-- toml_edit's `ValueDeserializer`: a string to a string visitor, an `i64` to an integer
visitor (which checks its bounds, as serde's primitive visitors do), arrays and arrays of tables
as sequences, tables and inline tables as maps; TOML has no null, so `deserialize_option`
always calls `visit_some`. -/
def tomlDeserializer : Deserializer Item DeError where
  custom msg := ⟨msg, []⟩
  addKey k e := { e with keys := k :: e.keys }
  str expecting
    | .value (.string s _ _) => .ok s
    | it => .error ⟨invalidType it.unexpected expecting, []⟩
  int ty lo hi
    | .value (.integer i _ _) =>
      if h : lo ≤ i.1 ∧ i.1 ≤ hi then .ok ⟨i.1, h⟩
      else .error ⟨invalidValue (.signed i.1) ty, []⟩
    | it => .error ⟨invalidType it.unexpected ty, []⟩
  isNone _ := false
  seq expecting
    | .value (.array a) => .ok (a.values.map .value)
    | .arrayOfTables ts => .ok (ts.map .table)
    | it => .error ⟨invalidType it.unexpected expecting, []⟩
  map expecting
    | .table t => .ok (visibleEntries t.items)
    | .value (.inlineTable t) => .ok (t.items.map fun (k, v) => (k.name, .value v))
    | it => .error ⟨invalidType it.unexpected expecting, []⟩

theorem visibleEntries_ne_none (items : List (Key × Item)) :
    ∀ e ∈ visibleEntries items, e.2 ≠ .none := by
  induction items with
  | nil => simp [visibleEntries]
  | cons p rest ih =>
    obtain ⟨k, it⟩ := p
    cases it <;> simpa [visibleEntries] using ih

/-- `toml::from_str` on a text, given as the document it parses to, for a type whose
`Deserialize` reads its value through `deserialize`. -/
def fromStr {α : Type} (deserialize : Deserializer Item DeError → Item → Except DeError α)
    (doc : DocumentMut) : Except DeError α :=
  deserialize tomlDeserializer (.table doc.root)

end Giganto.Toml
