import Giganto.Toml.Display

/-!
# Serializing into a document

`toml::to_string`: serde's `Serialize` drives toml_edit's `ValueSerializer`, which builds one
inline table for a struct, leaving out the fields that are `None`; `write_document` turns it into
the root table and `DocumentFormatter` formats it. Every inline table becomes a table, every
nonempty array of inline tables an array of tables (`[[key]]`), and every decor goes back to the
encoder's default. Only the values a serializer writes reach the formatter, so it is modelled on
values; the conversion it would make of a table inside an inline table is left out, since no
value serialized here holds one.
-/

namespace Giganto.Toml

/-- `toml::ser::Error`. -/
inductive SerError where
  | unsupportedType (ty : Option String)
  | outOfRange (ty : Option String)
  | unsupportedNone
  | keyNotString
  | dateInvalid
  | custom (msg : String)
deriving DecidableEq, Repr

/-- `Display for ser::Error`. -/
def SerError.toString : SerError → String
  | .unsupportedType (some t) => "unsupported " ++ t ++ " type"
  | .unsupportedType none => "unsupported rust type"
  | .outOfRange (some t) => "out-of-range value for " ++ t ++ " type"
  | .outOfRange none => "out-of-range value"
  | .unsupportedNone => "unsupported None value"
  | .keyNotString => "map key was not a string"
  | .dateInvalid => "a serialized date was invalid"
  | .custom msg => msg

/-! ## `ValueSerializer` -/

/-- `serialize_str`. -/
def serializeStr (s : String) : Except SerError Value := .ok (.string s none {})

/-- `serialize_i64`, which `serialize_i32`, `serialize_u32` and `serialize_u16` call with their
value. -/
def serializeI64 (v : I64) : Except SerError Value := .ok (.integer v none {})

/-- `serialize_u64`: an `i64` if it fits. -/
def serializeU64 (v : UInt64) : Except SerError Value :=
  if h : v.toNat < 9223372036854775808 then serializeI64 ⟨v.toNat, by omega, by omega⟩
  else .error (.outOfRange (some "u64"))

/-- `serialize_none` and `serialize_some`: `None` is an error the table serializer catches. -/
def serializeOption {α : Type} (f : α → Except SerError Value) : Option α → Except SerError Value
  | none => .error .unsupportedNone
  | some a => f a

/-- `serialize_seq`: the elements in order, an inline array. -/
def serializeSeq (elems : List (Except SerError Value)) : Except SerError Value :=
  (elems.mapM id).map fun vs => .array ⟨vs, "", false, {}⟩

/-- `SerializeInlineTable::serialize_field`: a field whose value is `None` is left out. -/
def serializeField (items : List (Key × Value)) (field : String × Except SerError Value) :
    Except SerError (List (Key × Value)) :=
  match field.2 with
  | .ok v => .ok (insertEntry field.1 v items)
  | .error .unsupportedNone => .ok items
  | .error e => .error e

/-- `serialize_struct`, one `serialize_field` per field in order, then `end`. -/
def serializeStruct (fields : List (String × Except SerError Value)) : Except SerError Value :=
  (fields.foldlM serializeField []).map fun items => .inlineTable ⟨items, "", {}⟩

/-! ## `write_document` -/

/-- Whether a value is an inline table. -/
def Value.isInlineTable : Value → Bool
  | .inlineTable _ => true
  | _ => false

/-- `Value::decor_mut().clear()`. -/
def Value.clearDecor : Value → Value
  | .string s r _ => .string s r {}
  | .integer i r _ => .integer i r {}
  | .float r _ => .float r {}
  | .boolean b r _ => .boolean b r {}
  | .datetime r _ => .datetime r {}
  | .array a => .array { a with decor := {} }
  | .inlineTable t => .inlineTable { t with decor := {} }

/-- The decor of an entry's value cleared. -/
def Item.clearValueDecor : Item → Item
  | .value v => .value v.clearDecor
  | it => it

mutual
/-- `DocumentFormatter::visit_item_mut` on an entry holding a value: an inline table becomes a
table, a nonempty array of inline tables an array of tables, and the result is visited. -/
def formatValueItem : Value → Item
  | .inlineTable t => .table (formatInline t)
  | .array a =>
    if !a.values.isEmpty && a.values.all Value.isInlineTable then
      .arrayOfTables (formatInlineArray a.values)
    else .value (.array (formatArray a))
  | v => .value (formatValue v)
/-- `InlineTable::into_table` then `DocumentFormatter::visit_table_mut`: no decor, implicit
unless empty. `into_table` clears the decor of the keys and values; the formatter does not look
at it, so it is cleared after. -/
def formatInline : InlineTable → Table
  | ⟨items, _, _⟩ => ⟨formatInlineEntries items, {}, !items.isEmpty⟩
def formatInlineEntries : List (Key × Value) → List (Key × Item)
  | [] => []
  | (k, v) :: rest =>
    ({ k with decor := {} }, (formatValueItem v).clearValueDecor) :: formatInlineEntries rest
/-- `ArrayOfTables` from an array of inline tables: each element as a table. -/
def formatInlineArray : List Value → List Table
  | [] => []
  | .inlineTable t :: rest => formatInline t :: formatInlineArray rest
  | _ :: rest => formatInlineArray rest
/-- `DocumentFormatter::visit_array_mut`: the values visited, no trailing text or comma. -/
def formatArray : ArrayOf Value → ArrayOf Value
  | ⟨vs, _, _, d⟩ => ⟨formatValues vs, "", false, d⟩
def formatValues : List Value → List Value
  | [] => []
  | v :: vs => formatValue v :: formatValues vs
/-- `visit_value_mut`: a string loses its decor (`visit_string_mut`), an array is visited. -/
def formatValue : Value → Value
  | .string s r _ => .string s r {}
  | .array a => .array (formatArray a)
  | .inlineTable ⟨items, p, d⟩ => .inlineTable ⟨formatValueEntries items, p, d⟩
  | v => v
def formatValueEntries : List (Key × Value) → List (Key × Value)
  | [] => []
  | (k, v) :: rest => (k, formatValue v) :: formatValueEntries rest
end

/-- `write_document`: the serialized value as the root table, formatted, as a document. -/
def writeDocument : Value → Except SerError DocumentMut
  | .inlineTable t => .ok ⟨formatInline t, ""⟩
  | _ => .error (.unsupportedType none)

/-! ## Lemmas -/

theorem serializeField_ok {items : List (Key × Value)} {key : String} {v : Value} :
    serializeField items (key, .ok v) = .ok (insertEntry key v items) := rfl

theorem serializeField_none {items : List (Key × Value)} {key : String} :
    serializeField items (key, .error .unsupportedNone) = .ok items := rfl

/-- The entries a struct's fields serialize to: those whose value is not `None`, in order. -/
def presentEntries : List (String × Except SerError Value) → List (Key × Value)
  | [] => []
  | (k, .ok v) :: rest => (⟨k, none, {}⟩, v) :: presentEntries rest
  | _ :: rest => presentEntries rest

/-- A field's serializer writes a value or reports `None`, the one error a struct skips. -/
def WritesOrSkips (r : Except SerError Value) : Prop := ∀ e, r = .error e → e = .unsupportedNone

theorem insertEntry_of_fresh {α : Type} {key : String} (v : α) {items : List (Key × α)}
    (h : ∀ p ∈ items, p.1.name ≠ key) :
    insertEntry key v items = items ++ [(⟨key, none, {}⟩, v)] := by
  induction items with
  | nil => rfl
  | cons p items ih =>
    simp only [List.mem_cons, forall_eq_or_imp] at h
    simp [insertEntry, h.1, ih h.2]

theorem foldlM_serializeField (fields : List (String × Except SerError Value))
    (items : List (Key × Value)) (hnodup : (fields.map Prod.fst).Nodup)
    (hfresh : ∀ f ∈ fields, ∀ p ∈ items, p.1.name ≠ f.1) (hok : ∀ f ∈ fields, WritesOrSkips f.2) :
    fields.foldlM serializeField items = .ok (items ++ presentEntries fields) := by
  induction fields generalizing items with
  | nil => simp [presentEntries]; rfl
  | cons f fields ih =>
    obtain ⟨k, r⟩ := f
    simp only [List.map_cons, List.nodup_cons, List.mem_map] at hnodup
    have hk : ∀ f ∈ fields, k ≠ f.1 := fun f hf he => hnodup.1 ⟨f, hf, he.symm⟩
    rw [List.foldlM_cons]
    cases r with
    | ok v =>
      rw [serializeField_ok, insertEntry_of_fresh v (hfresh _ (.head _))]
      refine (ih _ hnodup.2 ?_ fun f hf => hok f (.tail _ hf)).trans ?_
      · intro f hf p hp
        rcases List.mem_append.mp hp with hp | hp
        · exact hfresh f (.tail _ hf) p hp
        · simp only [List.mem_singleton] at hp
          subst hp
          exact hk f hf
      · simp [presentEntries]
    | error e =>
      obtain rfl := hok _ (.head _) e rfl
      exact ih _ hnodup.2 (fun f hf => hfresh f (.tail _ hf)) fun f hf => hok f (.tail _ hf)

/-- A struct whose fields have distinct names and serialize, or are `None`, is the inline table
of its present fields. -/
theorem serializeStruct_eq {fields : List (String × Except SerError Value)}
    (hnodup : (fields.map Prod.fst).Nodup) (hok : ∀ f ∈ fields, WritesOrSkips f.2) :
    serializeStruct fields = .ok (.inlineTable ⟨presentEntries fields, "", {}⟩) := by
  rw [serializeStruct, foldlM_serializeField fields [] hnodup (by simp) hok]
  rfl

end Giganto.Toml
