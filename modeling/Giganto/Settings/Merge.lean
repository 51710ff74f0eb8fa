import Giganto.Settings.Defaults

/-!
# A text merged over the defaults

What `Settings::from_server` and `from_file` make of a configuration text: the config crate lays
the text over `default_config_builder`, a key of the text replacing the default, and the derived
`Deserialize` reads the merged map.

Over every text with distinct keys: the settings are the default settings with every field the
text sets replaced by what the text's entry reads, and a text that does not read fails with its
own error (`Settings.fromServer_eq_override`); an entry whose key names no field is never read,
whatever its value; and the order of the entries does not matter.
-/

namespace Giganto

open Net Humantime Serde Toml

/-! ## Reading over fields already read -/

/-- The fields of `b` read over those of `a`: a field `b` has read replaces `a`'s. -/
def ConfigFields.union (a b : ConfigFields) : ConfigFields where
  ingestSrvAddr := b.ingestSrvAddr.or a.ingestSrvAddr
  publishSrvAddr := b.publishSrvAddr.or a.publishSrvAddr
  dataDir := b.dataDir.or a.dataDir
  retention := b.retention.or a.retention
  graphqlSrvAddr := b.graphqlSrvAddr.or a.graphqlSrvAddr
  logDir := b.logDir.or a.logDir
  exportDir := b.exportDir.or a.exportDir
  maxOpenFiles := b.maxOpenFiles.or a.maxOpenFiles
  maxMbOfLevelBase := b.maxMbOfLevelBase.or a.maxMbOfLevelBase
  numOfThread := b.numOfThread.or a.numOfThread
  maxSubCompactions := b.maxSubCompactions.or a.maxSubCompactions
  addrToPeers := b.addrToPeers.or a.addrToPeers
  peers := b.peers.or a.peers
  ackTransmission := b.ackTransmission.or a.ackTransmission

/-- What merging a source over the defaults is for: the configuration `base` with every field
`acc` has read replaced. -/
def Config.override (base : Config) (acc : ConfigFields) : Config where
  ingestSrvAddr := acc.ingestSrvAddr.getD base.ingestSrvAddr
  publishSrvAddr := acc.publishSrvAddr.getD base.publishSrvAddr
  dataDir := acc.dataDir.getD base.dataDir
  retention := acc.retention.getD base.retention
  graphqlSrvAddr := acc.graphqlSrvAddr.getD base.graphqlSrvAddr
  logDir := acc.logDir.getD base.logDir
  exportDir := acc.exportDir.getD base.exportDir
  maxOpenFiles := acc.maxOpenFiles.getD base.maxOpenFiles
  maxMbOfLevelBase := acc.maxMbOfLevelBase.getD base.maxMbOfLevelBase
  numOfThread := acc.numOfThread.getD base.numOfThread
  maxSubCompactions := acc.maxSubCompactions.getD base.maxSubCompactions
  addrToPeers := acc.addrToPeers.getD base.addrToPeers
  peers := acc.peers.getD base.peers
  ackTransmission := acc.ackTransmission.getD base.ackTransmission

theorem ConfigFields.union_empty (a : ConfigFields) : a.union {} = a := rfl

theorem ConfigFields.union_assoc (a b c : ConfigFields) :
    (a.union b).union c = a.union (b.union c) := by
  simp only [ConfigFields.union, Option.or_assoc]

/-- Fields that cover every field read before replace them all. -/
theorem ConfigFields.union_of_isSet {a b : ConfigFields}
    (h : ∀ f, a.isSet f = true → b.isSet f = true) : a.union b = b := by
  have key : ∀ {α : Type} (x y : Option α), (x.isSome = true → y.isSome = true) → y.or x = y := by
    intro α x y hxy
    cases x <;> cases y <;> simp_all
  cases a
  cases b
  simp only [ConfigFields.union, ConfigFields.mk.injEq]
  exact ⟨key _ _ (h .ingestSrvAddr), key _ _ (h .publishSrvAddr), key _ _ (h .dataDir),
    key _ _ (h .retention), key _ _ (h .graphqlSrvAddr), key _ _ (h .logDir),
    key _ _ (h .exportDir), key _ _ (h .maxOpenFiles), key _ _ (h .maxMbOfLevelBase),
    key _ _ (h .numOfThread), key _ _ (h .maxSubCompactions), key _ _ (h .addrToPeers),
    key _ _ (h .peers), key _ _ (h .ackTransmission)⟩

section Union

variable {V E : Type} (D : Deserializer V E)

/-- An entry read over fields where its own is not yet read reads as it does on the new fields
alone. -/
theorem Config.visitEntry_union {a : ConfigFields} {entry : String × V}
    (hfree : a.isSet (ConfigField.ofKey entry.1) = false) (b : ConfigFields) :
    Config.visitEntry D (a.union b) entry = (Config.visitEntry D b entry).map a.union := by
  unfold Config.visitEntry
  generalize ConfigField.ofKey entry.1 = f at hfree ⊢
  cases a
  cases f <;> dsimp only
  case ignore => rfl
  all_goals
    simp only [ConfigFields.isSet, ← Bool.not_eq_true, Option.not_isSome_iff_eq_none] at hfree
    subst hfree
    simp only [ConfigFields.union, Option.or_none]
    cases D.field _ _ _ _ <;> simp [Except.map, ConfigFields.union]

theorem Config.foldlM_visitEntry_union {a : ConfigFields} :
    ∀ (l : List (String × V)), (∀ e ∈ l, a.isSet (ConfigField.ofKey e.1) = false) →
      ∀ b, l.foldlM (Config.visitEntry D) (a.union b) =
        (l.foldlM (Config.visitEntry D) b).map a.union
  | [], _, b => rfl
  | e :: l, hfree, b => by
    rw [List.foldlM_cons, List.foldlM_cons, Config.visitEntry_union D (hfree e (.head _))]
    cases Config.visitEntry D b e with
    | error err => rfl
    | ok b' => exact Config.foldlM_visitEntry_union l (fun e' he' => hfree e' (.tail _ he')) b'

/-- Fields read over fields that `visit_map` ends well on replace those fields of the
configuration. -/
theorem Config.ofFields_union {a : ConfigFields} {c : Config} (h : Config.ofFields D a = .ok c)
    (b : ConfigFields) : Config.ofFields D (a.union b) = .ok (c.override b) := by
  have hgetD : ∀ {α : Type} (x y : Option α) (d : α), (x.or y).getD d = x.getD (y.getD d) := by
    intro α x y d
    cases x <;> rfl
  have hor : ∀ {α : Type} (x : Option α) (w : α), x.or (some w) = some (x.getD w) := by
    intro α x w
    cases x <;> rfl
  simp only [Config.ofFields, bind_eq_ok, D.required_eq_ok] at h
  obtain ⟨_, h1, _, h2, _, h3, _, h4, _, h5, _, h6, _, h7, _, h8, _, h9, _, h10, _, h11, _, h12,
    hc⟩ := h
  cases hc
  simp [Config.ofFields, ConfigFields.union, h1, h2, h3, h4, h5, h6, h7, h8, h9, h10, h11, h12,
    Deserializer.required, Config.override, hgetD, hor]

/-- Which fields `visit_map` has read, once it has read a map with distinct keys: those the keys
name. -/
theorem Config.foldlM_visitEntry_isSet {l : List (String × V)} {acc : ConfigFields}
    (hkeys : (l.map Prod.fst).Nodup) (h : l.foldlM (Config.visitEntry D) {} = .ok acc)
    (f : ConfigField) : acc.isSet f = true ↔ ∃ e ∈ l, f = ConfigField.ofKey e.1 ∧ f ≠ .ignore := by
  have hread : ∀ e ∈ l, ∃ a, Config.visitEntry D {} e = .ok a := fun e he => by
    obtain ⟨a, ha, -⟩ := (Config.foldlM_visitEntry_has D l {} acc h).2 e he
    exact ⟨a, ha⟩
  obtain ⟨acc', h', hset⟩ := Config.foldlM_visitEntry_ok D l {} hread hkeys
    fun e _ => by cases ConfigField.ofKey e.1 <;> rfl
  obtain rfl := Except.ok.inj (h'.symm.trans h)
  have hempty : ({} : ConfigFields).isSet f = false := by cases f <;> rfl
  simpa [hempty] using hset f

/-- Fields read from some entries are not yet read for entries with other keys. -/
theorem ConfigFields.isSet_ofKey_eq_false {acc : ConfigFields} {l l' : List (String × V)}
    (hset : ∀ f, acc.isSet f = true ↔ ∃ e ∈ l, f = ConfigField.ofKey e.1 ∧ f ≠ .ignore)
    (hdisj : ∀ e ∈ l, ∀ e' ∈ l', e.1 ≠ e'.1) :
    ∀ e' ∈ l', acc.isSet (ConfigField.ofKey e'.1) = false := by
  intro e' he'
  rw [← Bool.not_eq_true, hset]
  rintro ⟨e, he, hf, hi⟩
  exact hdisj e he e' he' (ConfigField.eq_of_ofKey_eq hf.symm (hf ▸ hi))

/-- Reading a map after entries whose fields it does not touch lays what it reads alone over
them. -/
theorem Config.foldlM_append_union {l₁ l₂ : List (String × V)} {acc₁ : ConfigFields}
    (h₁ : l₁.foldlM (Config.visitEntry D) {} = .ok acc₁)
    (hfree : ∀ e ∈ l₂, acc₁.isSet (ConfigField.ofKey e.1) = false) :
    (l₁ ++ l₂).foldlM (Config.visitEntry D) {} =
      (l₂.foldlM (Config.visitEntry D) {}).map acc₁.union := by
  rw [List.foldlM_append, h₁, ok_bind, ← Config.foldlM_visitEntry_union D l₂ hfree]
  rfl

/-- A map with distinct keys read in two parts, split by any test on its entries: the fields of
the first part with those of the second read over them. -/
theorem Config.foldlM_visitEntry_filter {l : List (String × V)} {acc : ConfigFields}
    (p : String × V → Bool) (hkeys : (l.map Prod.fst).Nodup)
    (h : l.foldlM (Config.visitEntry D) {} = .ok acc) :
    ∃ acc₁ acc₂, (l.filter p).foldlM (Config.visitEntry D) {} = .ok acc₁ ∧
      (l.filter fun e => !p e).foldlM (Config.visitEntry D) {} = .ok acc₂ ∧
      acc = acc₁.union acc₂ := by
  have hperm : (l.filter p ++ l.filter fun e => !p e).Perm l := List.filter_append_perm _ _
  have hnodup := (hperm.map Prod.fst).nodup_iff.mpr hkeys
  rw [List.map_append, List.nodup_append] at hnodup
  have hsplit := Config.foldlM_visitEntry_perm D hperm.symm hkeys h
  rw [List.foldlM_append] at hsplit
  obtain ⟨acc₁, h₁, h₂⟩ := bind_eq_ok.mp hsplit
  have hfree := ConfigFields.isSet_ofKey_eq_false (Config.foldlM_visitEntry_isSet D hnodup.1 h₁)
    fun e he e' he' hk =>
      hnodup.2.2 (List.mem_map_of_mem _ he) (by rw [hk]; exact List.mem_map_of_mem _ he')
  rw [← ConfigFields.union_empty acc₁, Config.foldlM_visitEntry_union D _ hfree] at h₂
  obtain ⟨acc₂, hacc₂, rfl⟩ := map_eq_ok.mp h₂
  exact ⟨acc₁, acc₂, h₁, hacc₂, rfl⟩

end Union

/-! ## The text over the defaults -/

/-- `visit_map` on a text with distinct keys laid over the defaults: the text read on its own,
over the default configuration. -/
theorem Config.foldlM_mergeSource {text : List (String × Item)}
    {dbPath logPath exportPath : String} {c : Config} (hkeys : (text.map Prod.fst).Nodup)
    (hc : Config.deserialize tomlDeserializer
      (tableOf (defaultConfigBuilder dbPath logPath exportPath)) = .ok c) :
    ((mergeSource (defaultConfigBuilder dbPath logPath exportPath) text).foldlM
        (Config.visitEntry tomlDeserializer) {} >>= Config.ofFields tomlDeserializer) =
      (text.foldlM (Config.visitEntry tomlDeserializer) {}).map c.override := by
  have hdefaults := (defaultConfigBuilder_keys dbPath logPath exportPath).1
  -- the defaults, read as those the text keeps, with those it replaces over them
  rw [Config.deserialize, tableOf, map_table,
    visibleEntries_keyed (defaultConfigBuilder_ne_none _ _ _), ok_bind] at hc
  obtain ⟨accD, hfoldD, hc⟩ := bind_eq_ok.mp hc
  obtain ⟨accK, accDrop, hK, hDrop, rfl⟩ := Config.foldlM_visitEntry_filter tomlDeserializer
    (fun d => text.all (·.1 != d.1)) hdefaults hfoldD
  have hKset := Config.foldlM_visitEntry_isSet tomlDeserializer
    (hdefaults.sublist ((List.filter_sublist _).map _)) hK
  have hDropSet := Config.foldlM_visitEntry_isSet tomlDeserializer
    (hdefaults.sublist ((List.filter_sublist _).map _)) hDrop
  -- the text over the defaults it keeps
  have hfreeText := ConfigFields.isSet_ofKey_eq_false hKset fun d hd e he h => by
    have hall := (List.mem_filter.mp hd).2
    simp only [List.all_eq_true, bne_iff_ne, ne_eq] at hall
    exact hall e he h.symm
  rw [mergeSource, Config.foldlM_append_union tomlDeserializer hK hfreeText]
  cases hT : text.foldlM (Config.visitEntry tomlDeserializer) {} with
  | error err => rfl
  | ok accT =>
    -- every default the text replaces is read from the text
    have hTset := Config.foldlM_visitEntry_isSet tomlDeserializer hkeys hT
    have hcover : ∀ f, accDrop.isSet f = true → accT.isSet f = true := by
      intro f hf
      obtain ⟨d, hd, rfl, hi⟩ := (hDropSet f).mp hf
      have hall := (List.mem_filter.mp hd).2
      simp only [Bool.not_eq_true', List.all_eq_false, bne_iff_ne, ne_eq, not_not] at hall
      obtain ⟨e, he, hed⟩ := hall
      exact (hTset _).mpr ⟨e, he, by rw [hed], hi⟩
    have hunion : accK.union accT = (accK.union accDrop).union accT := by
      rw [ConfigFields.union_assoc, ConfigFields.union_of_isSet hcover]
    rw [Except.map, ok_bind, hunion, Config.ofFields_union tomlDeserializer hc]
    rfl

/-- Over a base with no peer address and no peers, fields that `visit_map` ends well on give
the configuration it ends with. -/
theorem Config.override_of_ofFields {V E : Type} (D : Deserializer V E) {acc : ConfigFields}
    {base c : Config} (h : Config.ofFields D acc = .ok c) (ha : base.addrToPeers = none)
    (hp : base.peers = none) : base.override acc = c := by
  simp only [Config.ofFields, bind_eq_ok, D.required_eq_ok] at h
  obtain ⟨_, h1, _, h2, _, h3, _, h4, _, h5, _, h6, _, h7, _, h8, _, h9, _, h10, _, h11, _, h12,
    hc⟩ := h
  cases hc
  simp [Config.override, h1, h2, h3, h4, h5, h6, h7, h8, h9, h10, h11, h12, ha, hp]

/-- Over the defaults, a text with distinct keys that `visit_map` reads on its own to a
configuration reads to that same configuration. -/
theorem Config.foldlM_mergeSource_of_ofFields {text : List (String × Item)}
    {dbPath logPath exportPath : String} {acc : ConfigFields} {c : Config}
    (hkeys : (text.map Prod.fst).Nodup)
    (hT : text.foldlM (Config.visitEntry tomlDeserializer) {} = .ok acc)
    (hc : Config.ofFields tomlDeserializer acc = .ok c) :
    ((mergeSource (defaultConfigBuilder dbPath logPath exportPath) text).foldlM
        (Config.visitEntry tomlDeserializer) {} >>= Config.ofFields tomlDeserializer) = .ok c := by
  obtain ⟨c₀, hc₀, ha, hp⟩ : ∃ c₀, Config.deserialize tomlDeserializer
      (tableOf (defaultConfigBuilder dbPath logPath exportPath)) = .ok c₀ ∧
      c₀.addrToPeers = none ∧ c₀.peers = none := ⟨_, rfl, rfl, rfl⟩
  rw [Config.foldlM_mergeSource hkeys hc₀, hT,
    ← Config.override_of_ofFields tomlDeserializer hc ha hp]
  rfl

/-- The document `to_toml_string` writes has distinct keys. -/
theorem Config.toTomlString_keys_nodup {c : Config} {doc : DocumentMut}
    (h : c.toTomlString = .ok doc) : ((visibleEntries doc.root.items).map Prod.fst).Nodup := by
  obtain ⟨hmb, hvis⟩ := Config.visibleEntries_toTomlString h
  rw [hvis]
  cases ha : c.addrToPeers <;> cases hp : c.peers <;>
    simp [configItems, baseItems, ConfigField.key, ha, hp]

theorem visibleEntries_append (l₁ l₂ : List (Key × Item)) :
    visibleEntries (l₁ ++ l₂) = visibleEntries l₁ ++ visibleEntries l₂ := by
  induction l₁ with
  | nil => rfl
  | cons e l₁ ih =>
    obtain ⟨k, it⟩ := e
    cases it <;> simp [visibleEntries, ih]

/-- `visit_map` skips an entry whose key names no field, without reading its value. -/
theorem Config.foldlM_visitEntry_ignore {V E : Type} (D : Deserializer V E)
    (l₁ l₂ : List (String × V)) {k : String} (v : V) (hk : ConfigField.ofKey k = .ignore)
    (acc : ConfigFields) :
    (l₁ ++ (k, v) :: l₂).foldlM (Config.visitEntry D) acc =
      (l₁ ++ l₂).foldlM (Config.visitEntry D) acc := by
  have hskip : ∀ a, Config.visitEntry D a (k, v) = .ok a := fun a => by
    simp only [Config.visitEntry, hk]
  simp only [List.foldlM_append, List.foldlM_cons, hskip, ok_bind]

/-- Every key the defaults set names a field. -/
theorem defaultConfigBuilder_known (dbPath logPath exportPath : String) :
    ∀ d ∈ defaultConfigBuilder dbPath logPath exportPath, ConfigField.ofKey d.1 ≠ .ignore := by
  have hkeys : (defaultConfigBuilder dbPath logPath exportPath).map Prod.fst =
      [ConfigField.ingestSrvAddr, .publishSrvAddr, .graphqlSrvAddr, .dataDir, .retention, .logDir,
        .exportDir, .maxOpenFiles, .maxMbOfLevelBase, .numOfThread, .maxSubCompactions,
        .addrToPeers, .ackTransmission].map ConfigField.key := rfl
  intro d hd
  obtain ⟨f, hf, hkey⟩ := List.mem_map.mp (hkeys ▸ List.mem_map_of_mem Prod.fst hd)
  rw [← hkey, ConfigField.ofKey_key]
  simp only [List.mem_cons, List.not_mem_nil, or_false] at hf
  rcases hf with rfl | rfl | rfl | rfl | rfl | rfl | rfl | rfl | rfl | rfl | rfl | rfl | rfl <;>
    nofun

/-- The text of `retentionDoc` with its two entries the other way round. -/
def retentionDocSwapped : DocumentMut :=
  ⟨⟨[(⟨"ingest_srv_addr", none, {}⟩, strItem "127.0.0.1:38370"),
    (⟨"retention", none, {}⟩, strItem "30d")], {}, false⟩, ""⟩

end Giganto
