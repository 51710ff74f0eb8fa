import Giganto.Settings.Defaults
import Giganto.Status.Peers

/-!
# The document of the live settings

`settings_to_doc` and `write_toml_file` of `graphql/status.rs`, and what `insert_toml_peers`
does to the document `settings_to_doc` makes. That document holds the peers the way
`to_toml_string` writes them: an empty set as an empty inline array, which `insert_toml_peers`
can fill, and any other set as an array of tables, which it cannot edit.
-/

namespace Giganto.Status

open Net Serde Toml

/-- `settings_to_doc`: the document of the text `to_toml_string` writes. That text always
parses, and a text is modelled by the document it parses to, so parsing it is the identity. -/
def settingsToDoc (s : Settings) : Except String DocumentMut :=
  s.toTomlString.mapError SerError.toString

/-- `write_toml_file`: the file at `path` must exist, as it is opened to write and truncate
but not to create; its contents become the document's text and a newline (`writeln!`). The
files are their contents by path; a failure is `none`, its `io::Error` text not modelled. -/
def writeTomlFile (fs : String → Option String) (doc : DocumentMut) (path : String) :
    Option (String → Option String) :=
  match fs path with
  | none => none
  | some _ => some (Function.update fs path (some (doc.toString ++ "\n")))

/-- `CONFIG_PUBLISH_SRV_ADDR`. -/
def configPublishSrvAddr : String := "publish_srv_addr"

/-- `CONFIG_GRAPHQL_SRV_ADDR`. -/
def configGraphqlSrvAddr : String := "graphql_srv_addr"

variable {T : Type} [TomlPeers T]

theorem get_configItems {c : Config} {hmb : c.maxMbOfLevelBase.toNat < 9223372036854775808}
    {it : Item} (hit : it ≠ .none) (d : Decor) (i : Bool) (trailing : String) :
    (⟨⟨keyed (configItems c hmb (some it)), d, i⟩, trailing⟩ : DocumentMut).get "peers" =
      some it := by
  cases ha : c.addrToPeers <;>
    simp [DocumentMut.get, Table.get, TableOf.find?, configItems, baseItems, keyed, lookup, ha,
      ConfigField.key, Option.filter, hit, Item.isNone]

theorem modifyEntry_configItems {c : Config}
    {hmb : c.maxMbOfLevelBase.toNat < 9223372036854775808} (it : Item) (f : Item → Item) :
    modifyEntry "peers" f (keyed (configItems c hmb (some it))) =
      keyed (configItems c hmb (some (f it))) := by
  cases ha : c.addrToPeers <;>
    simp [configItems, baseItems, keyed, modifyEntry, ha, ConfigField.key]

theorem deserialize_peerTable {p : T} {a : SocketAddr} (h : parseSocketAddr (getAddr p) = .ok a)
    (before after : String) :
    PeerIdentity.deserialize tomlDeserializer
      (.value ((Value.inlineTable (peerTable p)).decorate before after)) =
      .ok ⟨a, getHostname p⟩ :=
  PeerIdentity.deserialize_of_map tomlDeserializer rfl rfl h rfl

theorem mapM_map_mapIdx_ok {α β γ δ : Type} {F : δ → Except DeError γ} (w : β → δ)
    (h : α → γ) : ∀ (l : List α) (f : Nat → α → β), (∀ i, ∀ a ∈ l, F (w (f i a)) = .ok (h a)) →
      ((l.mapIdx f).map w).mapM F = .ok (l.map h)
  | [], _, _ => rfl
  | a :: l, f, hf => by
    rw [List.mapIdx_cons, List.map_cons, List.mapM_cons, hf 0 a (.head _), ok_bind,
      mapM_map_mapIdx_ok w h l _ fun i b hb => hf (i + 1) b (.tail _ hb)]
    rfl

/-- The array `insert_toml_peers` writes reads back as the set of the peers' parsed addresses and
hostnames. -/
theorem deserializePeers_peersArray (a : Array) {ps : List T} {addrOf : T → SocketAddr}
    (haddr : ∀ p ∈ ps, parseSocketAddr (getAddr p) = .ok (addrOf p)) :
    deserializePeers tomlDeserializer (.value (.array (peersArray a ps))) =
      .ok (some (HashSet.ofList (ps.map fun p => ⟨addrOf p, getHostname p⟩))) := by
  refine deserializePeers_of_seq tomlDeserializer rfl rfl ?_
  exact mapM_map_mapIdx_ok _ _ ps _ fun i p hp => deserialize_peerTable (haddr p hp) _ _

/-- The peers entry of a set with peers is an array of tables, not an inline array. -/
theorem not_array_peersItem {c : Config} {hmb : c.maxMbOfLevelBase.toNat < 9223372036854775808}
    {set : HashSet PeerIdentity} (h : set.elems ≠ []) :
    ¬∃ a, (⟨⟨keyed (configItems c hmb (some (peersItem set))), {}, true⟩, ""⟩ : DocumentMut).get
      "peers" = some (.value (.array a)) := by
  rintro ⟨a, ha⟩
  unfold peersItem at ha
  split at ha
  · exact h ‹_›
  · rw [get_configItems (by simp)] at ha
    cases ha

/-- Editing the peers of the document of decoded settings whose peers are a set: the edit
succeeds exactly when the set is empty, and the edited document then reads back as the live
configuration with the peers replaced by the set of the new peers and a sentinel peer address
dropped, every new peer's address being what its text parses to. -/
theorem insertTomlPeers_settingsToDoc {V E : Type} {D : Deserializer V E} {v : V}
    {s : Settings} {set : HashSet PeerIdentity} {doc : DocumentMut} {ps : List T}
    {addrOf : T → SocketAddr} (hdec : Config.deserialize D v = .ok s.config)
    (hpeers : s.config.peers = some set) (hdoc : settingsToDoc s = .ok doc)
    (haddr : ∀ p ∈ ps, parseSocketAddr (getAddr p) = .ok (addrOf p)) :
    ((insertTomlPeers doc (some ps)).2 = .ok () ↔ set.elems = []) ∧
      (set.elems = [] → fromStr Config.deserialize (insertTomlPeers doc (some ps)).1 =
        .ok { s.config with
              addrToPeers := dropSentinel s.config.addrToPeers,
              peers := some (HashSet.ofList (ps.map fun p => ⟨addrOf p, getHostname p⟩)) }) := by
  have hc := Config.deserialize_flowinfoFree D hdec
  obtain ⟨hmb, rfl⟩ := Config.toTomlString_eq_ok (mapError_eq_ok.mp hdoc)
  rw [hpeers, Option.map_some']
  obtain ⟨elems, nodup⟩ := set
  cases elems with
  | nil =>
    have hpi : peersItem ⟨[], nodup⟩ = .value (.array ⟨[], "", false, {}⟩) := rfl
    have hget : (⟨⟨keyed (configItems s.config hmb (some (.value (.array ⟨[], "", false, {}⟩)))),
        {}, true⟩, ""⟩ : DocumentMut).get "peers" = some _ := get_configItems (by simp) _ _ _
    rw [hpi, insertTomlPeers_of_array hget]
    refine ⟨by simp, fun _ => ?_⟩
    have hit : ∀ it ∈ some (Item.value (.array (peersArray ⟨[], "", false, {}⟩ ps))),
        it ≠ .none := by simp
    rw [fromStr, Config.deserialize, DocumentMut.modifyItem, modifyEntry_configItems, map_table,
      ok_bind, visibleEntries_keyed (configItems_ne_none hit),
      Config.visit_configItems hc hmb (fun it hit => by
        cases hit; exact deserializePeers_peersArray _ haddr) (by simp)]
  | cons p rest =>
    rw [insertTomlPeers_of_not_array (not_array_peersItem (by simp))]
    simp

/-- A configuration text setting only `peers`, to an empty array. -/
def noPeersDoc : DocumentMut :=
  ⟨⟨[(⟨"peers", none, {}⟩, .value (.array ⟨[], "", false, {}⟩))], {}, false⟩, ""⟩

/-- Settings read from that text: adding two peers to their document reads back as the two
peers. -/
theorem insertTomlPeers_settingsToDoc_noPeers :
    ∃ s doc, Settings.fromServer noPeersDoc "db" "logs/apps" "export" = .ok s ∧
      settingsToDoc s = .ok doc ∧ (insertTomlPeers doc (some twoPeers)).2 = .ok () ∧
      fromStr Config.deserialize (insertTomlPeers doc (some twoPeers)).1 =
        .ok { s.config with
          addrToPeers := dropSentinel s.config.addrToPeers,
          peers := some (HashSet.ofList (twoPeers.map fun p => ⟨p.addr, p.hostname⟩)) } := by
  obtain ⟨s, hs, hdec, hpeers, doc, hdoc⟩ : ∃ s, Settings.fromServer noPeersDoc "db" "logs/apps"
      "export" = .ok s ∧ Config.deserialize tomlDeserializer (tableOf (mergeSource
        (defaultConfigBuilder "db" "logs/apps" "export") (visibleEntries noPeersDoc.root.items))) =
        .ok s.config ∧ s.config.peers = some ⟨[], List.nodup_nil⟩ ∧
      ∃ doc, settingsToDoc s = .ok doc :=
    ⟨_, rfl, rfl, rfl, _, rfl⟩
  have haddr : ∀ p ∈ twoPeers, parseSocketAddr (getAddr p) = .ok p.addr := by
    intro p hp
    simp only [twoPeers, List.mem_cons, List.mem_singleton, List.not_mem_nil, or_false] at hp
    rcases hp with rfl | rfl <;> rfl
  have h := @insertTomlPeers_settingsToDoc PeerIdentity _ _ _ _ _ _ _ _ twoPeers PeerIdentity.addr
    hdec hpeers hdoc haddr
  exact ⟨s, doc, hs, hdoc, h.1.mpr rfl, h.2 rfl⟩

/-- A configuration text setting only `peers`, to one peer. -/
def onePeerDoc : DocumentMut :=
  ⟨⟨[(⟨"peers", none, {}⟩, .value (.array ⟨[.inlineTable ⟨[
      (⟨"addr", none, {}⟩, .string "127.0.0.1:1" none {}),
      (⟨"hostname", none, {}⟩, .string "a" none {})], "", {}⟩], "", false, {}⟩))], {}, false⟩, ""⟩

/-- Settings read from that text hold a peer; their document holds the peers as an array of
tables, so adding peers to it fails. -/
theorem insertTomlPeers_settingsToDoc_onePeer :
    ∃ s doc, Settings.fromServer onePeerDoc "db" "logs/apps" "export" = .ok s ∧
      s.config.peers.isSome ∧ settingsToDoc s = .ok doc ∧
      (insertTomlPeers doc (some twoPeers)).2 = .error "insert failed: peers option not found" := by
  obtain ⟨s, hs, p, hpeers, doc, hdoc⟩ : ∃ s, Settings.fromServer onePeerDoc "db" "logs/apps"
      "export" = .ok s ∧ ∃ p, s.config.peers = some ⟨[p], List.nodup_singleton p⟩ ∧
        ∃ doc, settingsToDoc s = .ok doc :=
    ⟨_, rfl, _, rfl, _, rfl⟩
  refine ⟨s, doc, hs, by simp [hpeers], hdoc, ?_⟩
  obtain ⟨hmb, rfl⟩ := Config.toTomlString_eq_ok (mapError_eq_ok.mp hdoc)
  rw [hpeers, Option.map_some', insertTomlPeers_of_not_array (not_array_peersItem (by simp))]

end Giganto.Status
