import Mathlib.Data.List.Basic

/-!
# toml_edit documents

`toml_edit::DocumentMut` and the items it holds, with the formatting that makes an edit
preserve what it does not touch: every key and value keeps its own text (`repr`) and the
whitespace and comments around it (`Decor`). Floats and datetimes are kept by their text only;
dotted keys and the document positions of tables are not modelled.
-/

namespace Giganto.Toml

/-- A TOML integer: an `i64`, from `-2^63` to `2^63 - 1`. -/
def I64 : Type := {v : Int // -9223372036854775808 ≤ v ∧ v < 9223372036854775808}

instance : DecidableEq I64 :=
  inferInstanceAs (DecidableEq {v : Int // -9223372036854775808 ≤ v ∧ v < 9223372036854775808})

/-- `Decor`: the text before (`prefix`) and after (`suffix`) a key, value or table header;
`none` leaves the choice to the encoder. -/
structure Decor where
  before : Option String := none
  after : Option String := none
deriving DecidableEq, Repr

/-- `Key`: its name, the text it was written as, and its decor. -/
structure Key where
  name : String
  repr : Option String := none
  decor : Decor := {}
deriving DecidableEq, Repr

/-- `Array`, over its element type. -/
@[ext] structure ArrayOf (α : Type) where
  values : List α
  trailing : String := ""
  trailingComma : Bool := false
  decor : Decor := {}

/-- `InlineTable`, over its value type. -/
structure InlineTableOf (α : Type) where
  items : List (Key × α)
  preamble : String := ""
  decor : Decor := {}

/-- `Value`: a scalar keeps its value, its text (`repr`, `none` for one built in code) and its
decor. -/
inductive Value where
  | string (value : String) (repr : Option String) (decor : Decor)
  | integer (value : I64) (repr : Option String) (decor : Decor)
  | float (repr : String) (decor : Decor)
  | boolean (value : Bool) (repr : Option String) (decor : Decor)
  | datetime (repr : String) (decor : Decor)
  | array (a : ArrayOf Value)
  | inlineTable (t : InlineTableOf Value)

/-- `Table`, over its entry type: the entries in order, the header's decor, and whether the
header is implicit. -/
structure TableOf (α : Type) where
  items : List (Key × α)
  decor : Decor := {}
  implicit : Bool := false

/-- `Item`: `Item::None` is the placeholder an `IndexMut` lookup leaves for a missing key. -/
inductive Item where
  | none
  | value (v : Value)
  | table (t : TableOf Item)
  | arrayOfTables (ts : List (TableOf Item))

abbrev Array := ArrayOf Value
abbrev InlineTable := InlineTableOf Value
abbrev Table := TableOf Item

/-- `DocumentMut`: the root table and the text after its last item. -/
structure DocumentMut where
  root : Table
  trailing : String := ""

/-! ## Values and items -/

/-- `Value::decor`. -/
def Value.decor : Value → Decor
  | .string _ _ d | .integer _ _ d | .float _ d | .boolean _ _ d | .datetime _ d => d
  | .array a => a.decor
  | .inlineTable t => t.decor

/-- `Value::decorate`: replace the decor by the given texts. -/
def Value.decorate (v : Value) (before after : String) : Value :=
  let d : Decor := ⟨some before, some after⟩
  match v with
  | .string s r _ => .string s r d
  | .integer i r _ => .integer i r d
  | .float r _ => .float r d
  | .boolean b r _ => .boolean b r d
  | .datetime r _ => .datetime r d
  | .array a => .array { a with decor := d }
  | .inlineTable t => .inlineTable { t with decor := d }

/-- `toml_edit::value` of a `String`: a string value with no text and default decor. -/
def value (s : String) : Item := .value (.string s none {})

def Item.isNone : Item → Bool
  | .none => true
  | _ => false

/-- `Item::as_value`. -/
def Item.asValue : Item → Option Value
  | .value v => some v
  | _ => Option.none

/-- `Item::as_str`. -/
def Item.asStr : Item → Option String
  | .value (.string s _ _) => some s
  | _ => Option.none

/-- `Item::as_array_mut`: the inline array the item holds, if it is one. -/
def Item.asArray : Item → Option Array
  | .value (.array a) => some a
  | _ => Option.none

/-- `Array::clear`: no values; the decor and trailing text stay. -/
def ArrayOf.clear {α : Type} (a : ArrayOf α) : ArrayOf α := { a with values := [] }

/-- `Array::push`: the value gets the decor `" "` before it, or none for the first element. -/
def ArrayOf.push (a : Array) (v : Value) : Array :=
  { a with values := a.values ++ [v.decorate (if a.values.isEmpty then "" else " ") ""] }

/-- `InlineTable::new`. -/
def InlineTableOf.new : InlineTable := ⟨[], "", {}⟩

/-- Replace the value of the first entry named `key`, or append an entry. -/
def insertEntry {α : Type} (key : String) (v : α) : List (Key × α) → List (Key × α)
  | [] => [(⟨key, none, {}⟩, v)]
  | (k, w) :: rest => if k.name = key then (k, v) :: rest else (k, w) :: insertEntry key v rest

/-- `InlineTable::insert`. -/
def InlineTableOf.insert (t : InlineTable) (key : String) (v : Value) : InlineTable :=
  { t with items := insertEntry key v t.items }

/-! ## Tables -/

/-- The entry of `key` in an `IndexMap` of entries. -/
def lookup {α : Type} (key : String) : List (Key × α) → Option α
  | [] => none
  | (k, v) :: rest => if k.name = key then some v else lookup key rest

/-- The entry of `key`. -/
def TableOf.find? {α : Type} (t : TableOf α) (key : String) : Option α := lookup key t.items

/-- `Table::get`: the entry of `key`, unless it is `Item::None`. -/
def Table.get (t : Table) (key : String) : Option Item :=
  (t.find? key).filter (!·.isNone)

/-- Replace the first entry named `key` by `f` of it. -/
def modifyEntry {α : Type} (key : String) (f : α → α) : List (Key × α) → List (Key × α)
  | [] => []
  | (k, v) :: rest => if k.name = key then (k, f v) :: rest else (k, v) :: modifyEntry key f rest

/-- `IndexMut for Table`, `entry(key).or_insert(Item::None)`: a missing key gets an
`Item::None` entry at the end. -/
def Table.entryOrInsertNone (t : Table) (key : String) : Table :=
  if (t.find? key).isSome then t else { t with items := t.items ++ [(⟨key, none, {}⟩, .none)] }

/-- `DocumentMut::get`. -/
def DocumentMut.get (doc : DocumentMut) (key : String) : Option Item := doc.root.get key

/-- `doc[key]` through `IndexMut`: the document once the entry exists. -/
def DocumentMut.indexMut (doc : DocumentMut) (key : String) : DocumentMut :=
  { doc with root := doc.root.entryOrInsertNone key }

/-- The item `doc[key]` refers to. -/
def DocumentMut.item (doc : DocumentMut) (key : String) : Item := (doc.root.find? key).getD .none

/-- Write through `doc[key]`. -/
def DocumentMut.modifyItem (doc : DocumentMut) (key : String) (f : Item → Item) : DocumentMut :=
  { doc with root := { doc.root with items := modifyEntry key f doc.root.items } }

/-! ## Lemmas -/

@[simp] theorem ArrayOf.clear_values {α : Type} (a : ArrayOf α) : a.clear.values = [] := rfl

@[simp] theorem ArrayOf.push_values (a : Array) (v : Value) :
    (a.push v).values = a.values ++ [v.decorate (if a.values.isEmpty then "" else " ") ""] := rfl

@[simp] theorem ArrayOf.push_decor (a : Array) (v : Value) : (a.push v).decor = a.decor := rfl

@[simp] theorem ArrayOf.push_trailing (a : Array) (v : Value) :
    (a.push v).trailing = a.trailing := rfl

@[simp] theorem ArrayOf.clear_decor {α : Type} (a : ArrayOf α) : a.clear.decor = a.decor := rfl

@[simp] theorem ArrayOf.clear_trailing {α : Type} (a : ArrayOf α) :
    a.clear.trailing = a.trailing := rfl

@[simp] theorem asValue_value (s : String) : (value s).asValue = some (.string s none {}) := rfl

theorem lookup_append {α : Type} (key : String) (l₁ l₂ : List (Key × α)) :
    lookup key (l₁ ++ l₂) = (lookup key l₁).or (lookup key l₂) := by
  induction l₁ with
  | nil => rfl
  | cons e l₁ ih => by_cases h : e.1.name = key <;> simp [lookup, h, ih]

theorem lookup_modifyEntry {α : Type} (key k : String) (f : α → α) (l : List (Key × α)) :
    lookup k (modifyEntry key f l) = if key = k then (lookup k l).map f else lookup k l := by
  induction l with
  | nil => by_cases h : key = k <;> simp [modifyEntry, lookup, h]
  | cons e l ih =>
    obtain ⟨ek, ev⟩ := e
    by_cases he : ek.name = key
    · subst he
      by_cases hk : ek.name = k <;> simp [modifyEntry, lookup, hk]
    · by_cases hk : ek.name = k
      · subst hk
        simp [modifyEntry, lookup, he, Ne.symm he]
      · simp [modifyEntry, lookup, he, hk, ih]

theorem lookup_insertEntry {α : Type} (key k : String) (v : α) (l : List (Key × α)) :
    lookup k (insertEntry key v l) = if key = k then some v else lookup k l := by
  induction l with
  | nil => by_cases h : key = k <;> simp [insertEntry, lookup, h]
  | cons e l ih =>
    obtain ⟨ek, ev⟩ := e
    by_cases he : ek.name = key
    · subst he
      by_cases hk : ek.name = k <;> simp [insertEntry, lookup, hk]
    · by_cases hk : ek.name = k
      · subst hk
        simp [insertEntry, lookup, he, Ne.symm he]
      · simp [insertEntry, lookup, he, hk, ih]

theorem map_fst_modifyEntry {α : Type} (key : String) (f : α → α) (l : List (Key × α)) :
    (modifyEntry key f l).map (·.1) = l.map (·.1) := by
  induction l with
  | nil => rfl
  | cons e l ih => by_cases he : e.1.name = key <;> simp [modifyEntry, he, ih]

theorem Table.get_eq_some {t : Table} {key : String} {it : Item} :
    t.get key = some it ↔ t.find? key = some it ∧ it.isNone = false := by
  unfold Table.get
  cases t.find? key with
  | none => simp
  | some x => cases hx : x.isNone <;> simp [Option.filter, hx] <;> exact fun h => h ▸ hx

/-- `IndexMut` leaves every key's `get` as it was: the entry it may add is `Item::None`. -/
theorem Table.get_entryOrInsertNone (t : Table) (key k : String) :
    (t.entryOrInsertNone key).get k = t.get k := by
  unfold Table.entryOrInsertNone
  split_ifs with h
  · rfl
  · simp only [Table.get, TableOf.find?, lookup_append, lookup]
    cases hk : lookup k t.items with
    | some x => rfl
    | none => by_cases hkk : key = k <;> simp [hkk, Item.isNone]

end Giganto.Toml
