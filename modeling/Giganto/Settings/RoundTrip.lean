import Giganto.Settings.Decode

/-!
# Writing a configuration and reading it back

`Settings::to_toml_string` writes a configuration as a document with one entry per field that is
not `None`: strings for the addresses, paths and retention, integers for the counts, and the
peers as an empty inline array or, when there are peers, as an array of tables (`[[peers]]`).
`toml::from_str` reads that document back to the same configuration, except for one field: an
`addr_to_peers` equal to the sentinel address is written as the sentinel's text, which the
decoder reads as no address.
-/

namespace Giganto

open Net Humantime Serde Toml

/-! ## The document `to_toml_string` writes -/

/-- A string value as the serializer writes it. -/
def strItem (s : String) : Item := .value (.string s none {})

/-- An integer value as the serializer writes it. -/
def intItem (i : I64) : Item := .value (.integer i none {})

/-- The inline table a peer serializes to. -/
def peerValue (p : PeerIdentity) : Value :=
  .inlineTable ⟨[(⟨"addr", none, {}⟩, .string p.addr.toString none {}),
    (⟨"hostname", none, {}⟩, .string p.hostname none {})], "", {}⟩

/-- The table of a peer in an array of tables. -/
def peerTableItem (p : PeerIdentity) : Table :=
  ⟨[(⟨"addr", none, {}⟩, strItem p.addr.toString), (⟨"hostname", none, {}⟩, strItem p.hostname)],
    {}, true⟩

/-- The entry of a set of peers: an empty inline array, or an array of tables, one per peer. -/
def peersItem (s : HashSet PeerIdentity) : Item :=
  match s.elems with
  | [] => .value (.array ⟨[], "", false, {}⟩)
  | ps => .arrayOfTables (ps.map peerTableItem)

/-- The entries of a table whose keys are written in code, with no text or decor of their own. -/
def keyed (entries : List (String × Item)) : List (Key × Item) :=
  entries.map fun e => (⟨e.1, none, {}⟩, e.2)

/-- The entries of the document `to_toml_string` writes for the fields of a configuration before
`addr_to_peers`. -/
def baseItems (c : Config) (hmb : c.maxMbOfLevelBase.toNat < 9223372036854775808) :
    List (String × Item) :=
  [(ConfigField.ingestSrvAddr.key, strItem c.ingestSrvAddr.toString),
    (ConfigField.publishSrvAddr.key, strItem c.publishSrvAddr.toString),
    (ConfigField.dataDir.key, strItem c.dataDir),
    (ConfigField.retention.key, strItem (formatDuration c.retention)),
    (ConfigField.graphqlSrvAddr.key, strItem c.graphqlSrvAddr.toString),
    (ConfigField.logDir.key, strItem c.logDir),
    (ConfigField.exportDir.key, strItem c.exportDir),
    (ConfigField.maxOpenFiles.key, intItem c.maxOpenFiles.toI64),
    (ConfigField.maxMbOfLevelBase.key, intItem ⟨c.maxMbOfLevelBase.toNat, by omega, by omega⟩),
    (ConfigField.numOfThread.key, intItem c.numOfThread.toI64),
    (ConfigField.maxSubCompactions.key,
      intItem (i64OfNat c.maxSubCompactions.toNat c.maxSubCompactions.toNat_lt_size))]

/-- The entries of the document `to_toml_string` writes for a configuration, as `visit_map`
reads them, with the entry of the peers, if any, given. -/
def configItems (c : Config) (hmb : c.maxMbOfLevelBase.toNat < 9223372036854775808)
    (peers : Option Item) : List (String × Item) :=
  baseItems c hmb ++
    (c.addrToPeers.map fun a => (ConfigField.addrToPeers.key, strItem a.toString)).toList ++
    (peers.map fun it => (ConfigField.peers.key, it)).toList ++
    [(ConfigField.ackTransmission.key, intItem (i64OfNat c.ackTransmission.toNat
      (Nat.lt_trans c.ackTransmission.toNat_lt_size (by decide))))]

theorem formatInlineEntries_eq (items : List (Key × Value)) :
    formatInlineEntries items =
      items.map fun e => ({ e.1 with decor := {} }, (formatValueItem e.2).clearValueDecor) := by
  induction items with
  | nil => rfl
  | cons e items ih => rw [formatInlineEntries, ih]; rfl

theorem visibleEntries_keyed {l : List (String × Item)} (h : ∀ e ∈ l, e.2 ≠ .none) :
    visibleEntries (keyed l) = l := by
  induction l with
  | nil => rfl
  | cons e l ih =>
    obtain ⟨k, it⟩ := e
    have hit : it ≠ .none := h _ (.head _)
    have ih' := ih fun e he => h e (.tail _ he)
    cases it <;> first | exact absurd rfl hit | exact congrArg _ ih'

theorem configItems_ne_none {c : Config} {hmb : c.maxMbOfLevelBase.toNat < 9223372036854775808}
    {peers : Option Item} (hp : ∀ it ∈ peers, it ≠ .none) :
    ∀ e ∈ configItems c hmb peers, e.2 ≠ .none := by
  intro e he
  simp only [configItems, baseItems, List.mem_append, List.mem_cons, Option.mem_toList,
    Option.mem_def, Option.map_eq_some', List.mem_nil_iff, or_false] at he
  rcases he with ((he | ⟨a, -, rfl⟩) | ⟨it, hit, rfl⟩) | rfl
  · rcases he with rfl | rfl | rfl | rfl | rfl | rfl | rfl | rfl | rfl | rfl | rfl <;>
      simp [strItem, intItem]
  · simp [strItem]
  · exact hp it hit
  · simp [intItem]

theorem formatValueItem_string (s : String) :
    (formatValueItem (.string s none {})).clearValueDecor = strItem s := rfl

theorem formatValueItem_integer (i : I64) :
    (formatValueItem (.integer i none {})).clearValueDecor = intItem i := rfl

theorem formatInlineArray_map_peerValue (ps : List PeerIdentity) :
    formatInlineArray (ps.map peerValue) = ps.map peerTableItem := by
  induction ps with
  | nil => rfl
  | cons p ps ih => simp only [List.map_cons, peerValue, formatInlineArray, ih]; rfl

theorem formatValueItem_peers (s : HashSet PeerIdentity) :
    (formatValueItem (.array ⟨s.elems.map peerValue, "", false, {}⟩)).clearValueDecor =
      peersItem s := by
  unfold peersItem
  cases s.elems with
  | nil => rfl
  | cons p ps =>
    have hall : ((p :: ps).map peerValue).all Value.isInlineTable = true := by
      simp [peerValue, Value.isInlineTable]
    simp only [formatValueItem, hall, List.map_cons, List.isEmpty_cons, Bool.not_false,
      Bool.and_self, if_true, ← List.map_cons, formatInlineArray_map_peerValue]
    rfl

theorem PeerIdentity.serialize_eq : PeerIdentity.serialize = fun p => .ok (peerValue p) := rfl

theorem serializeSeq_map_ok {α : Type} (f : α → Value) (l : List α) :
    serializeSeq (l.map fun a => .ok (f a)) = .ok (.array ⟨l.map f, "", false, {}⟩) := by
  induction l with
  | nil => rfl
  | cons a l ih =>
    simp only [serializeSeq, List.map_cons, List.mapM_cons] at ih ⊢
    revert ih
    cases (l.map fun a => (Except.ok (f a) : Except SerError Value)).mapM id <;>
      simp [Except.map]

theorem serializeU64_of_lt {v : UInt64} (h : v.toNat < 9223372036854775808) :
    serializeU64 v = .ok (.integer ⟨v.toNat, by omega, by omega⟩ none {}) := by
  simp [serializeU64, h, serializeI64]

/-- Below the `i64` bound, `to_toml_string` writes the fields in order, those that are `None`
left out. -/
theorem Config.toTomlString_of_lt {c : Config}
    (hmb : c.maxMbOfLevelBase.toNat < 9223372036854775808) :
    c.toTomlString = .ok ⟨⟨keyed (configItems c hmb (c.peers.map peersItem)), {}, true⟩, ""⟩ := by
  rw [Config.toTomlString, Config.serialize, serializeStruct_eq, ok_bind, writeDocument]
  · simp only [formatInline, formatInlineEntries_eq, serializeU64_of_lt hmb]
    cases ha : c.addrToPeers <;> cases hp : c.peers <;>
      simp [ha, hp, presentEntries, serializeSocketAddr, serializeStr, serializeI64,
        serializeOption, configItems, PeerIdentity.serialize_eq, serializeSeq_map_ok,
        formatValueItem_peers, formatValueItem_string, formatValueItem_integer, baseItems,
        ConfigField.key, keyed]
  · simp
  · cases c.addrToPeers <;> cases c.peers <;>
      simp [WritesOrSkips, serializeSocketAddr, serializeStr, serializeI64, serializeU64_of_lt hmb,
        serializeOption, PeerIdentity.serialize_eq, serializeSeq_map_ok]

/-- From the `i64` bound on, `serialize_u64` fails, and with it `to_toml_string`. -/
theorem Config.toTomlString_of_ge {c : Config}
    (h : 9223372036854775808 ≤ c.maxMbOfLevelBase.toNat) :
    c.toTomlString = .error (.outOfRange (some "u64")) := by
  have hu : serializeU64 c.maxMbOfLevelBase = .error (.outOfRange (some "u64")) := by
    simp [serializeU64, Nat.not_lt.mpr h]
  simp [Config.toTomlString, Config.serialize, serializeStruct, List.foldlM_cons, serializeField,
    hu, serializeSocketAddr, serializeStr, serializeI64]
  rfl

/-- `Settings::to_toml_string` fails exactly when `max_mb_of_level_base` does not fit an `i64`,
with `serialize_u64`'s out-of-range error; otherwise its document holds one entry per field that
is not `None`, in declaration order. -/
theorem Settings.toTomlString_eq (s : Settings) :
    s.toTomlString =
      if hmb : s.config.maxMbOfLevelBase.toNat < 9223372036854775808 then
        .ok ⟨⟨keyed (configItems s.config hmb (s.config.peers.map peersItem)), {}, true⟩, ""⟩
      else .error (.outOfRange (some "u64")) := by
  split
  · exact Config.toTomlString_of_lt _
  · exact Config.toTomlString_of_ge (Nat.not_lt.mp ‹_›)

theorem Config.toTomlString_eq_ok {c : Config} {doc : DocumentMut} (h : c.toTomlString = .ok doc) :
    ∃ hmb : c.maxMbOfLevelBase.toNat < 9223372036854775808,
      doc = ⟨⟨keyed (configItems c hmb (c.peers.map peersItem)), {}, true⟩, ""⟩ := by
  by_cases hmb : c.maxMbOfLevelBase.toNat < 9223372036854775808
  · rw [Config.toTomlString_of_lt hmb] at h
    cases h
    exact ⟨hmb, rfl⟩
  · rw [Config.toTomlString_of_ge (Nat.not_lt.mp hmb)] at h
    cases h

/-! ## Reading the fields back -/

/-- What `addr_to_peers` reads back as: the sentinel address becomes no address. -/
def dropSentinel : Option SocketAddr → Option SocketAddr
  | some a => if a = sentinelAddr then none else some a
  | none => none

theorem isNone_toml (it : Item) : tomlDeserializer.isNone it = false := rfl

theorem str_strItem (expecting s : String) : tomlDeserializer.str expecting (strItem s) = .ok s :=
  rfl

theorem deserializeSocketAddr_strItem {a : SocketAddr} (h : a.flowinfo = 0) :
    deserializeSocketAddr tomlDeserializer (strItem a.toString) = .ok a := by
  simp [deserializeSocketAddr, str_strItem, parseAddr_eq_ok.mpr (parseSocketAddr_toString a h)]

theorem deserializeDuration_strItem (d : Duration) :
    deserializeDuration tomlDeserializer (strItem (formatDuration d)) = .ok d := by
  simp [deserializeDuration, str_strItem, parseDuration_formatDuration]

theorem int_intItem (ty : String) (lo hi : Int) (i : I64) (h : lo ≤ i.1 ∧ i.1 ≤ hi) :
    tomlDeserializer.int ty lo hi (intItem i) = .ok ⟨i.1, h⟩ := by
  simp [tomlDeserializer, intItem, h]

theorem I32.toI64_val (v : I32) : v.toI64.1 = v.1 := by rw [I32.toI64]

theorem deserializeI32_intItem (v : I32) :
    deserializeI32 tomlDeserializer (intItem v.toI64) = .ok v := by
  have h : -2147483648 ≤ v.toI64.1 ∧ v.toI64.1 ≤ 2147483647 := by rw [I32.toI64_val]; exact v.2
  unfold deserializeI32
  rw [int_intItem _ _ _ _ h]
  exact congrArg Except.ok (Subtype.ext (I32.toI64_val v))

theorem int_intItem_natCast (ty : String) (hi : Int) {n : Nat} (h1 h2) (h : (n : Int) ≤ hi) :
    tomlDeserializer.int ty 0 hi (intItem ⟨n, h1, h2⟩) = .ok ⟨n, Int.natCast_nonneg n, h⟩ :=
  int_intItem _ _ _ _ _

theorem deserializeU64_intItem (v : UInt64) (h : v.toNat < 9223372036854775808) :
    deserializeU64 tomlDeserializer (intItem ⟨v.toNat, by omega, by omega⟩) = .ok v := by
  have := v.toNat_lt_size
  simp only [UInt64.size, UInt32.size, UInt16.size] at this
  unfold deserializeU64
  rw [int_intItem_natCast _ _ (by omega) (by omega) (by omega)]
  simp [uint64_ofNat_toNat]

theorem deserializeU32_intItem (v : UInt32) :
    deserializeU32 tomlDeserializer (intItem (i64OfNat v.toNat v.toNat_lt_size)) = .ok v := by
  have := v.toNat_lt_size
  simp only [UInt64.size, UInt32.size, UInt16.size] at this
  unfold deserializeU32
  rw [i64OfNat, int_intItem_natCast _ _ (by omega) (by omega) (by omega)]
  simp [uint32_ofNat_toNat]

theorem deserializeU16_intItem (v : UInt16) (h : v.toNat < 2 ^ 32) :
    deserializeU16 tomlDeserializer (intItem (i64OfNat v.toNat h)) = .ok v := by
  have := v.toNat_lt_size
  simp only [UInt64.size, UInt32.size, UInt16.size] at this
  unfold deserializeU16
  rw [i64OfNat, int_intItem_natCast _ _ (by omega) (by omega) (by omega)]
  simp [uint16_ofNat_toNat]

theorem deserializePeerAddr_strItem {a : SocketAddr} (h : a.flowinfo = 0) :
    deserializePeerAddr tomlDeserializer (strItem a.toString) = .ok (dropSentinel (some a)) := by
  have hp : peerAddr a.toString = .ok (dropSentinel (some a)) := by
    by_cases ha : a = sentinelAddr
    · subst ha
      simp [dropSentinel, peerAddr_eq_ok_none, toString_sentinelAddr]
    · rw [dropSentinel, if_neg ha]
      refine peerAddr_eq_ok_some.mpr ⟨fun he => ha ?_, parseSocketAddr_toString a h⟩
      have := parseSocketAddr_toString a h
      rw [he, parseSocketAddr_defaultInvalidAddrToPeers] at this
      cases this
      rfl
  simp [deserializePeerAddr, isNone_toml, str_strItem, hp]

theorem PeerIdentity.deserialize_peerTableItem {p : PeerIdentity} (h : p.addr.flowinfo = 0) :
    PeerIdentity.deserialize tomlDeserializer (.table (peerTableItem p)) = .ok p :=
  PeerIdentity.deserialize_of_map tomlDeserializer rfl (str_strItem _ _)
    (parseSocketAddr_toString p.addr h) (str_strItem _ _)

theorem deserializePeers_peersItem {s : HashSet PeerIdentity}
    (h : ∀ p ∈ s.elems, p.addr.flowinfo = 0) :
    deserializePeers tomlDeserializer (peersItem s) = .ok (some s) := by
  obtain ⟨elems, nodup⟩ := s
  cases elems with
  | nil => rfl
  | cons p ps =>
    have hseq : tomlDeserializer.seq "a sequence" (.arrayOfTables ((p :: ps).map peerTableItem)) =
        .ok ((p :: ps).map fun q => .table (peerTableItem q)) := by
      simp [tomlDeserializer]
    have hps := mapM_map_ok _ id _ fun q hq => PeerIdentity.deserialize_peerTableItem (h q hq)
    rw [List.map_id] at hps
    exact (deserializePeers_of_seq tomlDeserializer (isNone_toml _) hseq hps).trans
      (by rw [HashSet.ofList_elems])

/-- The fields before `addr_to_peers`, as `visit_map` has them once it has read them back. -/
def baseFields (c : Config) : ConfigFields :=
  { ingestSrvAddr := some c.ingestSrvAddr, publishSrvAddr := some c.publishSrvAddr,
    dataDir := some c.dataDir, retention := some c.retention,
    graphqlSrvAddr := some c.graphqlSrvAddr, logDir := some c.logDir, exportDir := some c.exportDir,
    maxOpenFiles := some c.maxOpenFiles, maxMbOfLevelBase := some c.maxMbOfLevelBase,
    numOfThread := some c.numOfThread, maxSubCompactions := some c.maxSubCompactions }

/-- The fields before `addr_to_peers` read back, after an `addr_to_peers` read or not. -/
theorem Config.foldlM_baseItems {c : Config} (hc : c.FlowinfoFree)
    (hmb : c.maxMbOfLevelBase.toNat < 9223372036854775808) (x : Option (Option SocketAddr)) :
    (baseItems c hmb).foldlM (Config.visitEntry tomlDeserializer) { addrToPeers := x } =
      .ok { baseFields c with addrToPeers := x } := by
  simp [baseItems, Config.visitEntry, ConfigField.ofKey_key, Deserializer.field,
    Deserializer.value, deserializeSocketAddr_strItem hc.1, deserializeSocketAddr_strItem hc.2,
    deserializeSocketAddr_strItem hc.3, deserializePathBuf, str_strItem,
    deserializeDuration_strItem, deserializeI32_intItem, deserializeU64_intItem _ hmb,
    deserializeU32_intItem, baseFields]

/-- The same read after the sentinel default of `addr_to_peers`, where the document has no
`addr_to_peers` of its own. -/
theorem Config.visit_configItems_from {c : Config} (hc : c.FlowinfoFree)
    (hmb : c.maxMbOfLevelBase.toNat < 9223372036854775808) {peers : Option Item}
    {q : Option (HashSet PeerIdentity)}
    (hq : ∀ it ∈ peers, deserializePeers tomlDeserializer it = .ok q)
    (hnone : peers = none → q = none) {x : Option (Option SocketAddr)}
    (hx : x = none ∨ c.addrToPeers = none ∧ x = some none) :
    ((configItems c hmb peers).foldlM (Config.visitEntry tomlDeserializer) { addrToPeers := x } >>=
      Config.ofFields tomlDeserializer) =
      .ok { c with addrToPeers := dropSentinel c.addrToPeers, peers := q } := by
  rw [configItems, List.foldlM_append, List.foldlM_append, List.foldlM_append,
    Config.foldlM_baseItems hc hmb, ok_bind]
  have hack := deserializeU16_intItem c.ackTransmission
    (Nat.lt_trans c.ackTransmission.toNat_lt_size (by decide))
  have haddr (a : SocketAddr) (ha : c.addrToPeers = some a) :=
    deserializePeerAddr_strItem (hc.addrToPeers a ha)
  rcases hx with rfl | ⟨ha, rfl⟩
  · cases ha : c.addrToPeers <;> cases peers <;>
      simp [hnone, hq, ha, haddr, hack, baseFields, Config.visitEntry, ConfigField.ofKey_key,
        Deserializer.field, Deserializer.value, Config.ofFields, Deserializer.required,
        dropSentinel]
  · cases peers <;>
      simp [hnone, hq, ha, hack, baseFields, Config.visitEntry, ConfigField.ofKey_key,
        Deserializer.field, Deserializer.value, Config.ofFields, Deserializer.required,
        dropSentinel]

/-- The document `to_toml_string` writes for a configuration reads back, field by field, to the
configuration, but for an `addr_to_peers` equal to the sentinel address, and with the peers as
their entry, if any, reads. -/
theorem Config.visit_configItems {c : Config} (hc : c.FlowinfoFree)
    (hmb : c.maxMbOfLevelBase.toNat < 9223372036854775808) {peers : Option Item}
    {q : Option (HashSet PeerIdentity)}
    (hq : ∀ it ∈ peers, deserializePeers tomlDeserializer it = .ok q)
    (hnone : peers = none → q = none) :
    ((configItems c hmb peers).foldlM (Config.visitEntry tomlDeserializer) {} >>=
      Config.ofFields tomlDeserializer) =
      .ok { c with addrToPeers := dropSentinel c.addrToPeers, peers := q } :=
  Config.visit_configItems_from hc hmb hq hnone (.inl rfl)

theorem map_table (t : Table) (expecting : String) :
    tomlDeserializer.map expecting (.table t) = .ok (visibleEntries t.items) := rfl

/-- The entries a reader sees in the document `to_toml_string` writes. -/
theorem Config.visibleEntries_toTomlString {c : Config} {doc : DocumentMut}
    (h : c.toTomlString = .ok doc) :
    ∃ hmb, visibleEntries doc.root.items = configItems c hmb (c.peers.map peersItem) := by
  obtain ⟨hmb, rfl⟩ := Config.toTomlString_eq_ok h
  exact ⟨hmb, visibleEntries_keyed (configItems_ne_none fun it hit => by
    obtain ⟨s, -, rfl⟩ := Option.mem_map.mp hit; unfold peersItem; split <;> simp)⟩

theorem deserializePeers_map_peersItem {c : Config} (hc : c.FlowinfoFree) :
    ∀ it ∈ c.peers.map peersItem, deserializePeers tomlDeserializer it = .ok c.peers := by
  intro it hit
  obtain ⟨s, hs, rfl⟩ := Option.mem_map.mp hit
  rw [Option.mem_def.mp hs]
  exact deserializePeers_peersItem (hc.peers s hs)

/-- `toml::from_str` reads the document `to_toml_string` writes back to the configuration, but
for an `addr_to_peers` equal to the sentinel address, which is written as the sentinel's text and
read back as no address. -/
theorem Config.fromStr_toTomlString {c : Config} {doc : DocumentMut} (hc : c.FlowinfoFree)
    (h : c.toTomlString = .ok doc) :
    fromStr Config.deserialize doc = .ok { c with addrToPeers := dropSentinel c.addrToPeers } := by
  obtain ⟨hmb, hvis⟩ := Config.visibleEntries_toTomlString h
  rw [fromStr, Config.deserialize, map_table, ok_bind, hvis,
    Config.visit_configItems hc hmb (deserializePeers_map_peersItem hc) Option.map_eq_none.mp]

end Giganto
