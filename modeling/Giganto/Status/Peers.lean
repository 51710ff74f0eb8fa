import Giganto.Toml.Display
import Giganto.Peer

/-!
# Editing the configuration document

`insert_toml_peers` and `parse_toml_element_to_string` of `graphql/status.rs`: the edits the
service makes to the configuration document, and the one read. An edit is a function from the
document before the call to the document after it (`&mut doc`) and the result.
-/

namespace Giganto.Status

open Toml

/-- `TomlPeers`: a peer as the configuration document writes it. -/
class TomlPeers (T : Type) where
  getHostname : T → String
  getAddr : T → String

export TomlPeers (getHostname getAddr)

/-- Modelled from the spec: `TomlPeers for PeerIdentity` of `crate::peer`, the hostname and the
address as `to_string` writes it. -/
instance : TomlPeers PeerIdentity where
  getHostname p := p.hostname
  getAddr p := p.addr.toString

variable {T : Type} [TomlPeers T]

/-- The loop of `insert_toml_peers`: one inline table `{ addr, hostname }` pushed per peer,
with an early return when a value is missing. -/
def pushPeers (array : Array) : List T → Array × Except String Unit
  | [] => (array, .ok ())
  | peer :: rest =>
    let table := InlineTableOf.new
    match (value (getAddr peer)).asValue, (value (getHostname peer)).asValue with
    | some addr, some hostname =>
      let table := (table.insert "addr" addr).insert "hostname" hostname
      pushPeers (array.push (.inlineTable table)) rest
    | _, _ => (array, .error "insert failed: peer's `addr`, `hostname` option not found.")

/-- `insert_toml_peers`: the document after the call, and the result. -/
def insertTomlPeers (doc : DocumentMut) : Option (List T) → DocumentMut × Except String Unit
  | none => (doc, .ok ())
  | some peerList =>
    let doc := doc.indexMut "peers"
    match (doc.item "peers").asArray with
    | none => (doc, .error "insert failed: peers option not found")
    | some array =>
      let (array, result) := pushPeers array.clear peerList
      (doc.modifyItem "peers" fun _ => .value (.array array), result)

/-- `parse_toml_element_to_string`. -/
def parseTomlElementToString (key : String) (doc : DocumentMut) : Except String String :=
  match doc.get key with
  | none => .error s!"{key} not found."
  | some item =>
    match item.asStr with
    | none => .error s!"parse failed: {key}'s item format is not available."
    | some v => .ok v

/-- `parse_toml_element_to_string` returns a text exactly when the document has a string under
the key. -/
theorem parseTomlElementToString_ok_iff {key v : String} {doc : DocumentMut} :
    parseTomlElementToString key doc = .ok v ↔
      ∃ r d, doc.get key = some (.value (.string v r d)) := by
  unfold parseTomlElementToString
  cases doc.get key with
  | none => simp
  | some it =>
    cases it with
    | value x => cases x <;> simp [Item.asStr]
    | _ => simp [Item.asStr]

/-! ## The peers array -/

/-- The inline table of one peer: `addr` then `hostname`, as strings. -/
def peerTable (p : T) : InlineTable :=
  ⟨[(⟨"addr", none, {}⟩, .string (getAddr p) none {}),
    (⟨"hostname", none, {}⟩, .string (getHostname p) none {})], "", {}⟩

/-- One step of the loop, once it is known not to fail. -/
def pushPeer (array : Array) (p : T) : Array := array.push (.inlineTable (peerTable p))

/-- The array once the peers are written: its own decor and trailing text, and one inline table
per peer in order, separated by `", "`. -/
def peersArray (array : Array) (ps : List T) : Array :=
  { array with values := ps.mapIdx fun i p =>
      (Value.inlineTable (peerTable p)).decorate (if i = 0 then "" else " ") "" }

/-- `value(s).as_value()` is never `None`: the loop's error branch cannot be taken. -/
theorem pushPeers_eq_foldl (array : Array) (ps : List T) :
    pushPeers array ps = (ps.foldl pushPeer array, .ok ()) := by
  induction ps generalizing array with
  | nil => rfl
  | cons p ps ih =>
    simp only [pushPeers, asValue_value, List.foldl_cons]
    exact ih _

theorem foldl_pushPeer_values (array : Array) (ps : List T) :
    (ps.foldl pushPeer array).values = array.values ++ ps.mapIdx fun i p =>
      (Value.inlineTable (peerTable p)).decorate
        (if array.values.length + i = 0 then "" else " ") "" := by
  induction ps generalizing array with
  | nil => simp
  | cons p ps ih =>
    rw [List.foldl_cons, ih, List.mapIdx_cons]
    have hx : (if array.values.isEmpty then "" else " ") =
        (if array.values.length + 0 = 0 then "" else " ") := by
      cases array.values <;> rfl
    simp [pushPeer, hx]

theorem foldl_pushPeer_format (ps : List T) (array : Array) :
    (ps.foldl pushPeer array).trailing = array.trailing ∧
      (ps.foldl pushPeer array).trailingComma = array.trailingComma ∧
      (ps.foldl pushPeer array).decor = array.decor := by
  induction ps generalizing array with
  | nil => simp
  | cons p ps ih => exact ih (pushPeer array p)

theorem foldl_pushPeer_clear (array : Array) (ps : List T) :
    ps.foldl pushPeer array.clear = peersArray array ps := by
  have hv := foldl_pushPeer_values array.clear ps
  simp only [ArrayOf.clear_values, List.length_nil, Nat.zero_add, List.nil_append] at hv
  obtain ⟨h1, h2, h3⟩ := foldl_pushPeer_format ps array.clear
  ext <;> simp_all [peersArray, ArrayOf.clear]

/-! ## The document edit -/

/-- A document with a key before an empty `peers` array. -/
def peersDoc : DocumentMut :=
  ⟨⟨[(⟨"x", none, {}⟩, .value (.integer ⟨1, by decide, by decide⟩ none {})),
    (⟨"peers", none, {}⟩, .value (.array ⟨[], "", false, {}⟩))], {}, false⟩, ""⟩

/-- Two peers, on loopback ports 1 and 2. -/
def twoPeers : List PeerIdentity :=
  [⟨.v4 ⟨⟨127, 0, 0, 1⟩, 1⟩, "a"⟩, ⟨.v4 ⟨⟨127, 0, 0, 1⟩, 2⟩, "b"⟩]

/-- The peers entry of a document, when `get` sees it. -/
theorem indexMut_item_of_get {doc : DocumentMut} {it : Item} (h : doc.get "peers" = some it) :
    doc.indexMut "peers" = doc ∧ doc.item "peers" = it := by
  obtain ⟨hf, -⟩ := Table.get_eq_some.mp h
  refine ⟨?_, by simp [DocumentMut.item, hf]⟩
  simp [DocumentMut.indexMut, Table.entryOrInsertNone, hf]

/-- The spec of `insert_toml_peers` on a document whose `peers` is an inline array. -/
theorem insertTomlPeers_of_array {doc : DocumentMut} {a : Array}
    (h : doc.get "peers" = some (.value (.array a))) (ps : List T) :
    insertTomlPeers doc (some ps) =
      (doc.modifyItem "peers" fun _ => .value (.array (peersArray a ps)), .ok ()) := by
  obtain ⟨h1, h2⟩ := indexMut_item_of_get h
  simp only [insertTomlPeers, h1, h2, Item.asArray, pushPeers_eq_foldl, foldl_pushPeer_clear]

/-- The spec of `insert_toml_peers` on a document whose `peers` is missing or not an inline
array: the error, and the document with the entry `IndexMut` made. -/
theorem insertTomlPeers_of_not_array {doc : DocumentMut}
    (h : ¬∃ a, doc.get "peers" = some (.value (.array a))) (ps : List T) :
    insertTomlPeers doc (some ps) =
      (doc.indexMut "peers", .error "insert failed: peers option not found") := by
  have hitem : ((doc.indexMut "peers").item "peers").asArray = none := by
    cases hf : doc.root.find? "peers" with
    | none =>
      simp only [TableOf.find?] at hf
      simp [DocumentMut.indexMut, DocumentMut.item, Table.entryOrInsertNone, TableOf.find?, hf,
        lookup_append, lookup, Item.asArray]
    | some it =>
      have hidx : doc.indexMut "peers" = doc := by
        simp [DocumentMut.indexMut, Table.entryOrInsertNone, hf]
      rw [hidx]
      simp only [DocumentMut.item, hf, Option.getD_some]
      match it with
      | .value (.array a) =>
        exact absurd ⟨a, Table.get_eq_some.mpr ⟨hf, rfl⟩⟩ h
      | .none | .table _ | .arrayOfTables _ => rfl
      | .value (.string ..) | .value (.integer ..) | .value (.float ..) | .value (.boolean ..)
      | .value (.datetime ..) | .value (.inlineTable _) => rfl
  simp only [insertTomlPeers, hitem]

/-- A table's entries split at the first entry of `key`. -/
theorem exists_split_lookup {α : Type} {l : List (Key × α)} {key : String} {a : α}
    (h : lookup key l = some a) :
    ∃ pre post k, l = pre ++ (k, a) :: post ∧ k.name = key ∧ lookup key pre = none := by
  induction l with
  | nil => cases h
  | cons e l ih =>
    obtain ⟨ek, ev⟩ := e
    by_cases he : ek.name = key
    · simp only [lookup, he, if_true, Option.some.injEq] at h
      subst h
      exact ⟨[], l, ek, rfl, he, rfl⟩
    · simp only [lookup, he, if_false] at h
      obtain ⟨pre, post, k, rfl, hk, hpre⟩ := ih h
      exact ⟨(ek, ev) :: pre, post, k, rfl, hk, by simp [lookup, he, hpre]⟩

theorem modifyEntry_split {α : Type} (pre post : List (Key × α)) (k : Key) (a : α)
    (f : α → α) (hpre : lookup k.name pre = none) :
    modifyEntry k.name f (pre ++ (k, a) :: post) = pre ++ (k, f a) :: post := by
  induction pre with
  | nil => simp [modifyEntry]
  | cons e pre ih =>
    obtain ⟨ek, ev⟩ := e
    by_cases he : ek.name = k.name
    · simp [lookup, he] at hpre
    · simp only [lookup, he, if_false] at hpre
      simp [modifyEntry, he, ih hpre]

/-- `insert_toml_peers` replaces exactly the peers array: `None` changes nothing; `Some ps`
succeeds exactly when `peers` holds an inline array, and then that array, keeping its own
formatting, holds one inline table `{ addr, hostname }` per peer in order, while every other
entry of the document keeps its key, item, position and decor. -/
theorem insertTomlPeers_replaces_peers (doc : DocumentMut) :
    insertTomlPeers doc (none : Option (List T)) = (doc, .ok ()) ∧
    ∀ ps : List T,
      ((insertTomlPeers doc (some ps)).2 = .ok () ↔
        ∃ a, doc.get "peers" = some (.value (.array a))) ∧
      ∀ a, doc.get "peers" = some (.value (.array a)) →
        ∃ pre post k, k.name = "peers" ∧
          doc.root.items = pre ++ (k, .value (.array a)) :: post ∧
          (insertTomlPeers doc (some ps)).1 =
            { doc with root := { doc.root with
                items := pre ++ (k, .value (.array (peersArray a ps))) :: post } } := by
  refine ⟨rfl, fun ps => ⟨⟨fun h => ?_, fun ⟨a, ha⟩ => ?_⟩, fun a ha => ?_⟩⟩
  · by_contra hna
    rw [insertTomlPeers_of_not_array hna] at h
    cases h
  · rw [insertTomlPeers_of_array ha]
  · obtain ⟨pre, post, k, hsplit, hk, hpre⟩ :=
      exists_split_lookup (Table.get_eq_some.mp ha).1
    refine ⟨pre, post, k, hk, hsplit, ?_⟩
    rw [insertTomlPeers_of_array ha]
    simp only [DocumentMut.modifyItem, hsplit, ← hk, modifyEntry_split _ _ _ _ _ (hk ▸ hpre)]

/-- A document `x = 1` then `peers = []`: two peers written in place of the empty array. -/
theorem insertTomlPeers_replaces_peers_two :
    ∃ pre post k, k.name = "peers" ∧
      peersDoc.root.items = pre ++ (k, .value (.array ⟨[], "", false, {}⟩)) :: post ∧
      (insertTomlPeers peersDoc (some twoPeers)).1 =
        { peersDoc with root := { peersDoc.root with
            items := pre ++ (k, .value (.array (peersArray ⟨[], "", false, {}⟩ twoPeers))) ::
              post } } :=
  ((insertTomlPeers_replaces_peers peersDoc).2 twoPeers).2 _ rfl

/-- A failed `insert_toml_peers` leaves the document's text and every key's `get` as they
were; the loop itself never fails. -/
theorem insertTomlPeers_error_atomic (doc : DocumentMut) (input : Option (List T)) (e : String)
    (h : (insertTomlPeers doc input).2 = .error e) :
    (insertTomlPeers doc input).1.toString = doc.toString ∧
      (∀ k, (insertTomlPeers doc input).1.get k = doc.get k) ∧
      ∀ (array : Array) (ps : List T), (pushPeers array ps).2 = .ok () := by
  refine ⟨?_, ?_, fun array ps => by rw [pushPeers_eq_foldl]⟩ <;>
  · rcases input with _ | ps
    · cases h
    · by_cases ha : ∃ a, doc.get "peers" = some (.value (.array a))
      · obtain ⟨a, ha⟩ := ha
        rw [insertTomlPeers_of_array ha] at h
        cases h
      · rw [insertTomlPeers_of_not_array ha]
        first
        | exact toString_indexMut doc "peers"
        | exact fun k => Table.get_entryOrInsertNone doc.root "peers" k

/-- A document without `peers`: the edit fails and the document reads as before. -/
theorem insertTomlPeers_error_atomic_missing :
    let doc : DocumentMut := ⟨⟨[], {}, false⟩, ""⟩
    (insertTomlPeers doc (some twoPeers)).2 = .error "insert failed: peers option not found" ∧
      (insertTomlPeers doc (some twoPeers)).1.toString = doc.toString ∧
      ∀ k, (insertTomlPeers doc (some twoPeers)).1.get k = doc.get k :=
  ⟨rfl, (insertTomlPeers_error_atomic ⟨⟨[], {}, false⟩, ""⟩ (some twoPeers)
    "insert failed: peers option not found" rfl).1,
    (insertTomlPeers_error_atomic ⟨⟨[], {}, false⟩, ""⟩ (some twoPeers)
    "insert failed: peers option not found" rfl).2.1⟩

end Giganto.Status
