import Giganto.Toml.Document

/-!
# Writing a document

`Display for DocumentMut` (toml_edit's `encode`): every key and value is written with its own
text and decor, or with the encoder's default when it has none. The tables come in the order
`visit_nested_tables` meets them. A string without a text is written as a basic string; the
encoder's choice of a literal string where that needs fewer escapes is not modelled.
-/

namespace Giganto.Toml

/-- An upper-case hex digit. -/
def hexUpper (d : Nat) : Char := if d < 10 then Char.ofNat (48 + d) else Char.ofNat (55 + d)

/-- One character of a basic string: `"` and `\` escaped, control characters as `\b \t \n \f
\r` or `\uXXXX`. -/
def escapeChar (c : Char) : List Char :=
  if c = '\x08' then ['\\', 'b']
  else if c = '\t' then ['\\', 't']
  else if c = '\n' then ['\\', 'n']
  else if c = '\x0c' then ['\\', 'f']
  else if c = '\r' then ['\\', 'r']
  else if c = '"' then ['\\', '"']
  else if c = '\\' then ['\\', '\\']
  else if c.toNat ≤ 0x1f ∨ c.toNat = 0x7f then
    ['\\', 'u', '0', '0', hexUpper (c.toNat / 16), hexUpper (c.toNat % 16)]
  else [c]

/-- A string as a TOML basic string. -/
def basicString (s : String) : String := ⟨'"' :: s.toList.flatMap escapeChar ++ ['"']⟩

/-- Whether a key can be written bare. -/
def isBareKey (s : String) : Bool :=
  !s.isEmpty && s.all fun c => c.isAlphanum || c = '_' || c = '-'

/-- The text of a key: as it was written, or bare, or quoted. -/
def Key.display (k : Key) : String :=
  k.repr.getD (if isBareKey k.name then k.name else basicString k.name)

/-- `Decor::prefix_encode`, the body, `Decor::suffix_encode`. -/
def Decor.encode (d : Decor) (dflt : String × String) (body : String) : String :=
  d.before.getD dflt.1 ++ body ++ d.after.getD dflt.2

/-- `encode_key` with its leaf decor. -/
def Key.encode (k : Key) (dflt : String × String) : String := k.decor.encode dflt k.display

mutual
/-- `encode_value`, with the decor the position in the document gives by default. -/
def Value.encode : Value → String × String → String
  | .string s r d, dflt => d.encode dflt (r.getD (basicString s))
  | .integer i r d, dflt => d.encode dflt (r.getD (toString i.1))
  | .float r d, dflt => d.encode dflt r
  | .boolean b r d, dflt => d.encode dflt (r.getD (if b then "true" else "false"))
  | .datetime r d, dflt => d.encode dflt r
  | .array ⟨vs, trailing, comma, d⟩, dflt =>
    d.encode dflt ("[" ++ encodeValues vs true ++
      (if comma && !vs.isEmpty then "," else "") ++ trailing ++ "]")
  | .inlineTable ⟨items, preamble, d⟩, dflt =>
    d.encode dflt ("\x7b" ++ preamble ++ encodeEntries items true ++ "\x7d")
/-- The elements of `encode_array`: no decor before the first, `" "` before the others. -/
def encodeValues : List Value → Bool → String
  | [], _ => ""
  | v :: vs, first =>
    (if first then v.encode ("", "") else "," ++ v.encode (" ", "")) ++ encodeValues vs false
/-- The entries of `encode_table` for an inline table. -/
def encodeEntries : List (Key × Value) → Bool → String
  | [], _ => ""
  | (k, v) :: kvs, first =>
    (if first then "" else ",") ++ k.encode (" ", " ") ++ "=" ++
      v.encode (if kvs.isEmpty then (" ", " ") else (" ", "")) ++ encodeEntries kvs false
end

mutual
/-- `visit_nested_tables`: the table, then the tables under it, each with its path and whether
it is an element of an array of tables. -/
def collectTables : Table → List Key → Bool → List (Table × List Key × Bool)
  | t@⟨items, _, _⟩, path, isArray => (t, path, isArray) :: collectItems items path
def collectItems : List (Key × Item) → List Key → List (Table × List Key × Bool)
  | [], _ => []
  | (k, .table t) :: rest, path => collectTables t (path ++ [k]) false ++ collectItems rest path
  | (k, .arrayOfTables ts) :: rest, path => collectArray ts (path ++ [k]) ++ collectItems rest path
  | _ :: rest, path => collectItems rest path
def collectArray : List Table → List Key → List (Table × List Key × Bool)
  | [], _ => []
  | t :: ts, path => collectTables t path true ++ collectArray ts path
end

/-- `Table::get_values`: the entries that are values. -/
def tableValues : List (Key × Item) → List (Key × Value)
  | [] => []
  | (k, .value v) :: rest => (k, v) :: tableValues rest
  | _ :: rest => tableValues rest

/-- A table header, `[path]` or `[[path]]`. -/
def header (t : Table) (path : List Key) (brackets : String × String) (dflt : String × String) :
    String :=
  t.decor.encode dflt (brackets.1 ++ ".".intercalate (path.map Key.display) ++ brackets.2) ++ "\n"

/-- `visit_table`: the header (none for the root, none for an implicit table without values),
then the values; `first` says no header was written yet. -/
def visitTable (t : Table) (path : List Key) (isArray first : Bool) : String × Bool :=
  let children := tableValues t.items
  let (head, first) :=
    if path.isEmpty then ("", first && children.isEmpty)
    else if isArray then
      (header t path ("[[", "]]") (if first then ("", "") else ("\n", "")), false)
    else if !(t.implicit && children.isEmpty) then
      (header t path ("[", "]") (if first then ("", "") else ("\n", "")), false)
    else ("", first)
  (head ++ String.join (children.map fun (k, v) => k.encode ("", " ") ++ "=" ++
    v.encode (" ", "") ++ "\n"), first)

/-- The tables in order, each written by `visit_table`. -/
def renderTables : List (Table × List Key × Bool) → Bool → String
  | [], _ => ""
  | (t, path, isArray) :: ts, first =>
    (visitTable t path isArray first).1 ++ renderTables ts (visitTable t path isArray first).2

/-- `DocumentMut::to_string`. -/
def DocumentMut.toString (doc : DocumentMut) : String :=
  renderTables (collectTables doc.root [] false) true ++ doc.trailing

/-! ## A placeholder entry writes nothing -/

theorem tableValues_append_none (l : List (Key × Item)) (k : Key) :
    tableValues (l ++ [(k, .none)]) = tableValues l := by
  induction l with
  | nil => rfl
  | cons e l ih =>
    obtain ⟨k', it⟩ := e
    cases it <;> simp [tableValues, ih]

theorem collectItems_append_none (l : List (Key × Item)) (k : Key) (path : List Key) :
    collectItems (l ++ [(k, .none)]) path = collectItems l path := by
  induction l with
  | nil => simp [collectItems]
  | cons e l ih =>
    obtain ⟨k', it⟩ := e
    cases it <;> simp [collectItems, ih]

/-- The text of a document does not show the entry `IndexMut` adds for a missing key. -/
theorem toString_indexMut (doc : DocumentMut) (key : String) :
    (doc.indexMut key).toString = doc.toString := by
  obtain ⟨⟨items, decor, implicit⟩, trailing⟩ := doc
  simp only [DocumentMut.indexMut, Table.entryOrInsertNone]
  split_ifs
  · rfl
  · simp [DocumentMut.toString, collectTables, collectItems_append_none, renderTables,
      visitTable, tableValues_append_none]

end Giganto.Toml
