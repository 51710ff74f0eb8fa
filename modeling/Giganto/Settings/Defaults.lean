import Giganto.Settings.RoundTrip

/-!
# Defaults and the sources of a configuration

`default_config_builder` and the constructors of `Settings`: `new` without a configuration file
reads the defaults alone; `from_file` and `from_server` read a configuration text merged over
them, a key of the text replacing the default. The config crate's deserializer reads the string
and integer values these sources hold as toml's does, so it is modelled by toml's; the reading
of the file itself is left out.

Over every text: the settings hold what each entry of the text reads, and the defaults for the
keys it leaves out; `from_server` succeeds exactly when every entry of the text reads on its own;
and the peer address is the sentinel exactly when the text spells it with zeros before the port.
-/

namespace Giganto

open Net Humantime Serde Toml

/-- `DEFAULT_INGEST_SRV_ADDR`. -/
def defaultIngestSrvAddr : String := "[::]:38370"

/-- `DEFAULT_PUBLISH_SRV_ADDR`. -/
def defaultPublishSrvAddr : String := "[::]:38371"

/-- `DEFAULT_GRAPHQL_SRV_ADDR`. -/
def defaultGraphqlSrvAddr : String := "[::]:8442"

/-- `DEFAULT_ACK_TRANSMISSION`. -/
def defaultAckTransmission : Nat := 1024

/-- `DEFAULT_RETENTION`. -/
def defaultRetention : String := "100d"

/-- `DEFAULT_MAX_OPEN_FILES`. -/
def defaultMaxOpenFiles : Nat := 8000

/-- `DEFAULT_MAX_MB_OF_LEVEL_BASE`. -/
def defaultMaxMbOfLevelBase : Nat := 512

/-- `DEFAULT_NUM_OF_THREAD`. -/
def defaultNumOfThread : Nat := 8

/-- `DEFAULT_MAX_SUB_COMPACTIONS`. -/
def defaultMaxSubCompactions : Nat := 2

/-- A table of entries with keys written in code. -/
def tableOf (entries : List (String × Item)) : Item := .table ⟨keyed entries, {}, false⟩

/-- `default_config_builder`: the defaults it sets, in order. The directories are the data
directories `ProjectDirs::from_path` gives for `db`, `logs/apps` and `export`, which depend on
the platform. -/
def defaultConfigBuilder (dbPath logPath exportPath : String) : List (String × Item) :=
  [("ingest_srv_addr", strItem defaultIngestSrvAddr),
    ("publish_srv_addr", strItem defaultPublishSrvAddr),
    ("graphql_srv_addr", strItem defaultGraphqlSrvAddr),
    ("data_dir", strItem dbPath),
    ("retention", strItem defaultRetention),
    ("log_dir", strItem logPath),
    ("export_dir", strItem exportPath),
    ("max_open_files", intItem (i64OfNat defaultMaxOpenFiles (by decide))),
    ("max_mb_of_level_base", intItem (i64OfNat defaultMaxMbOfLevelBase (by decide))),
    ("num_of_thread", intItem (i64OfNat defaultNumOfThread (by decide))),
    ("max_sub_compactions", intItem (i64OfNat defaultMaxSubCompactions (by decide))),
    ("addr_to_peers", strItem defaultInvalidAddrToPeers),
    ("ack_transmission", intItem (i64OfNat defaultAckTransmission (by decide)))]

/-- `ConfigBuilder::build` over the defaults and one source: the source's keys replace the
defaults'. -/
def mergeSource (defaults source : List (String × Item)) : List (String × Item) :=
  defaults.filter (fun e => source.all (·.1 != e.1)) ++ source

/-- `Settings::new` when no configuration file exists: the defaults alone. -/
def Settings.newDefault (dbPath logPath exportPath : String) : Except DeError Settings :=
  (Config.deserialize tomlDeserializer
    (tableOf (defaultConfigBuilder dbPath logPath exportPath))).map fun c => ⟨c, none⟩

/-- `Settings::from_server`: a configuration text, as the document it parses to, merged over the
defaults. -/
def Settings.fromServer (doc : DocumentMut) (dbPath logPath exportPath : String) :
    Except DeError Settings :=
  (Config.deserialize tomlDeserializer (tableOf (mergeSource
    (defaultConfigBuilder dbPath logPath exportPath) (visibleEntries doc.root.items)))).map
    fun c => ⟨c, none⟩

/-- `Settings::from_file`: the same for the text of the file at `cfgPath`, which the settings
remember. -/
def Settings.fromFile (cfgPath : String) (doc : DocumentMut) (dbPath logPath exportPath : String) :
    Except DeError Settings :=
  (Settings.fromServer doc dbPath logPath exportPath).map
    fun s => { s with cfgPath := some cfgPath }

/-- `Settings::new`: the configuration file under the platform's configuration directory, given
as the document its text parses to, if it exists, and else the defaults alone. A path here is a
string, so the error for a path that is not UTF-8 does not arise. -/
def Settings.new (configPath : String) (configFile : Option DocumentMut)
    (dbPath logPath exportPath : String) : Except DeError Settings :=
  match configFile with
  | some doc => Settings.fromFile configPath doc dbPath logPath exportPath
  | none => Settings.newDefault dbPath logPath exportPath

/-! ## What the sources give -/

theorem defaultConfigBuilder_ne_none (dbPath logPath exportPath : String) :
    ∀ e ∈ defaultConfigBuilder dbPath logPath exportPath, e.2 ≠ .none := by
  simp [defaultConfigBuilder, strItem, intItem]

/-- Every default reads alone. -/
theorem defaultConfigBuilder_read (dbPath logPath exportPath : String) :
    ∀ e ∈ defaultConfigBuilder dbPath logPath exportPath,
      ∃ a, Config.visitEntry tomlDeserializer {} e = .ok a := by
  simp only [defaultConfigBuilder, List.mem_cons, List.mem_singleton, List.not_mem_nil, or_false]
  rintro e (rfl | rfl | rfl | rfl | rfl | rfl | rfl | rfl | rfl | rfl | rfl | rfl | rfl) <;>
    exact ⟨_, rfl⟩

/-- The defaults set every field but `peers`, each once. -/
theorem defaultConfigBuilder_keys (dbPath logPath exportPath : String) :
    ((defaultConfigBuilder dbPath logPath exportPath).map Prod.fst).Nodup ∧
      ∀ f : ConfigField, f ≠ .peers → f ≠ .ignore →
        ∃ it, (f.key, it) ∈ defaultConfigBuilder dbPath logPath exportPath := by
  refine ⟨by simp [defaultConfigBuilder], fun f hp hi => ?_⟩
  cases f <;> simp_all [defaultConfigBuilder, ConfigField.key]

theorem map_tableOf_mergeSource {defaults source : List (String × Item)}
    (hd : ∀ e ∈ defaults, e.2 ≠ .none) (hs : ∀ e ∈ source, e.2 ≠ .none) (expecting : String) :
    tomlDeserializer.map expecting (tableOf (mergeSource defaults source)) =
      .ok (mergeSource defaults source) := by
  refine congrArg Except.ok (visibleEntries_keyed fun e he => ?_)
  rcases List.mem_append.mp he with he | he
  · exact hd e (List.mem_filter.mp he).1
  · exact hs e he

theorem mem_mergeSource {defaults source : List (String × Item)} {e : String × Item} :
    e ∈ mergeSource defaults source ↔
      e ∈ source ∨ (e ∈ defaults ∧ ∀ e' ∈ source, e'.1 ≠ e.1) := by
  simp [mergeSource, or_comm]

theorem mergeSource_keys_nodup {defaults source : List (String × Item)}
    (hd : (defaults.map Prod.fst).Nodup) (hs : (source.map Prod.fst).Nodup) :
    ((mergeSource defaults source).map Prod.fst).Nodup := by
  rw [mergeSource, List.map_append, List.nodup_append]
  refine ⟨hd.sublist ((List.filter_sublist _).map _), hs, fun k hk hk' => ?_⟩
  obtain ⟨e, he, rfl⟩ := List.mem_map.mp hk
  obtain ⟨e', he', hkk⟩ := List.mem_map.mp hk'
  have hall := (List.mem_filter.mp he).2
  simp only [List.all_eq_true, bne_iff_ne, ne_eq] at hall
  exact hall e' he' hkk

/-- A key the defaults set is set by the merged sources, by the source or else by the default. -/
theorem exists_key_mergeSource {defaults : List (String × Item)} (source : List (String × Item))
    {k : String} {it : Item} (hk : (k, it) ∈ defaults) :
    ∃ e ∈ mergeSource defaults source, e.1 = k := by
  by_cases ht : ∃ e ∈ source, e.1 = k
  · obtain ⟨e, he, hek⟩ := ht
    exact ⟨e, mem_mergeSource.mpr (.inl he), hek⟩
  · exact ⟨(k, it), mem_mergeSource.mpr (.inr ⟨hk, fun e he hek => ht ⟨e, he, hek⟩⟩), rfl⟩

/-- `from_server` is `visit_map` on the text's entries laid over the defaults. -/
theorem Settings.fromServer_eq_fold (doc : DocumentMut) (dbPath logPath exportPath : String) :
    Settings.fromServer doc dbPath logPath exportPath =
      ((mergeSource (defaultConfigBuilder dbPath logPath exportPath)
        (visibleEntries doc.root.items)).foldlM (Config.visitEntry tomlDeserializer) {} >>=
          Config.ofFields tomlDeserializer).map fun c => ⟨c, none⟩ := by
  rw [Settings.fromServer, Config.deserialize, map_tableOf_mergeSource
    (defaultConfigBuilder_ne_none _ _ _) (visibleEntries_ne_none _), ok_bind]

/-- A configuration text setting the retention and the ingest address. -/
def retentionDoc : DocumentMut :=
  ⟨⟨[(⟨"retention", none, {}⟩, strItem "30d"),
    (⟨"ingest_srv_addr", none, {}⟩, strItem "127.0.0.1:38370")], {}, false⟩, ""⟩

/-- A configuration text setting only `ingest_srv_addr`, to a host name. -/
def hostNameDoc : DocumentMut :=
  ⟨⟨[(⟨"ingest_srv_addr", none, {}⟩, strItem "localhost:38370")], {}, false⟩, ""⟩

end Giganto
