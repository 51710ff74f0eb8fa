import Giganto.Settings.Defaults

/-!
# Writing the settings and reading them back

The text `to_toml_string` writes for a configuration can come back to the service: as a
configuration text for `Settings::from_server`, and as the configuration file `write_toml_file`
writes, for `Settings::from_file`. Both read it merged over the defaults.

Over every configuration and every text: `from_server` reads the text `to_toml_string` writes
back to the configuration, whatever the platform's directories, but for a peer address equal to
the sentinel; and `to_toml_string` never fails on a configuration read from a text, as no TOML
integer reaches the `u64` values it refuses.
-/

namespace Giganto

open Net Humantime Serde Toml

/-! ## Reading back the written text -/

/-- Merged over the written entries, the defaults add only the sentinel `addr_to_peers`, and
that only when the configuration has no peer address. -/
theorem mergeSource_configItems (dbPath logPath exportPath : String) {c : Config}
    {hmb : c.maxMbOfLevelBase.toNat < 9223372036854775808} (peers : Option Item) :
    mergeSource (defaultConfigBuilder dbPath logPath exportPath) (configItems c hmb peers) =
      (if c.addrToPeers.isNone then [("addr_to_peers", strItem defaultInvalidAddrToPeers)]
        else []) ++ configItems c hmb peers := by
  cases ha : c.addrToPeers <;> cases peers <;>
    simp [mergeSource, defaultConfigBuilder, configItems, baseItems, ConfigField.key, ha]

/-- `from_server` reads the text `to_toml_string` writes back to the configuration, with no
file path, whatever the platform's directories: a default is read only for `addr_to_peers`,
and it reads as no address, as the configuration had. A peer address equal to the sentinel is
written as the sentinel's text and read back as no address. -/
theorem Settings.fromServer_toTomlString {S : Settings} {doc : DocumentMut}
    (hc : S.config.FlowinfoFree) (h : S.toTomlString = .ok doc)
    (dbPath logPath exportPath : String) :
    Settings.fromServer doc dbPath logPath exportPath =
      .ok ⟨{ S.config with addrToPeers := dropSentinel S.config.addrToPeers }, none⟩ := by
  obtain ⟨hmb, hvis⟩ := Config.visibleEntries_toTomlString h
  have hread := @Config.visit_configItems_from S.config hc hmb _ _
    (deserializePeers_map_peersItem hc) Option.map_eq_none.mp
  rw [Settings.fromServer_eq_fold, hvis, mergeSource_configItems]
  cases hn : S.config.addrToPeers.isNone
  · -- a peer address of its own: no default is read
    rw [if_neg Bool.false_ne_true, List.nil_append, hread (.inl rfl)]
    rfl
  · -- the sentinel default is read first
    have hsentinel : Config.visitEntry tomlDeserializer {}
        ("addr_to_peers", strItem defaultInvalidAddrToPeers) = .ok { addrToPeers := some none } :=
      rfl
    rw [if_pos rfl, List.singleton_append, List.foldlM_cons, hsentinel, ok_bind,
      hread (.inr ⟨Option.isNone_iff_eq_none.mp hn, rfl⟩)]
    rfl

/-- The default settings, written and read back on a platform with other directories. -/
theorem Settings.fromServer_toTomlString_defaults :
    ∃ S doc, Settings.newDefault "db" "logs/apps" "export" = .ok S ∧ S.toTomlString = .ok doc ∧
      Settings.fromServer doc "/var/db" "/var/log" "/var/export" =
        .ok ⟨{ S.config with addrToPeers := dropSentinel S.config.addrToPeers }, none⟩ := by
  obtain ⟨S, hS, hdec, doc, hdoc⟩ : ∃ S, Settings.newDefault "db" "logs/apps" "export" = .ok S ∧
      Config.deserialize tomlDeserializer (tableOf (defaultConfigBuilder "db" "logs/apps" "export"))
        = .ok S.config ∧ ∃ doc, S.toTomlString = .ok doc := ⟨_, rfl, rfl, _, rfl⟩
  exact ⟨S, doc, hS, hdoc, Settings.fromServer_toTomlString
    (Config.deserialize_flowinfoFree _ hdec) hdoc _ _ _⟩

/-! ## Written settings never overflow -/

/-- A TOML integer is an `i64`: whatever bounds a visitor checks, what it accepts is below
`2^63`. -/
theorem int_toml_lt {ty : String} {lo hi : Int} {it : Item} {x : {x : Int // lo ≤ x ∧ x ≤ hi}}
    (h : tomlDeserializer.int ty lo hi it = .ok x) : x.1 < 9223372036854775808 := by
  simp only [tomlDeserializer] at h
  split at h
  · rename_i i _ _
    split at h
    · cases h
      exact i.2.2
    · cases h
  · cases h

theorem deserializeU64_toml_lt {it : Item} {u : UInt64}
    (h : deserializeU64 tomlDeserializer it = .ok u) : u.toNat < 9223372036854775808 := by
  obtain ⟨x, hx, rfl⟩ := map_eq_ok.mp h
  have hlt := int_toml_lt hx
  rw [UInt64.toNat_ofNat_of_lt (by unfold UInt64.size; omega)]
  omega

/-- An entry leaves `max_mb_of_level_base` as it was, or sets it to what `Deserialize for u64`
reads from its value. -/
theorem Config.visitEntry_maxMbOfLevelBase {V E : Type} (D : Deserializer V E)
    {acc acc' : ConfigFields} {entry : String × V} (h : Config.visitEntry D acc entry = .ok acc') :
    acc'.maxMbOfLevelBase = acc.maxMbOfLevelBase ∨
      ∃ u, deserializeU64 D entry.2 = .ok u ∧ acc'.maxMbOfLevelBase = some u := by
  unfold Config.visitEntry at h
  generalize ConfigField.ofKey entry.1 = f at h
  cases f <;> dsimp only at h
  all_goals first
    | (cases h; exact .inl rfl)
    | (obtain ⟨x, hx, rfl⟩ := map_eq_ok.mp h
       obtain ⟨-, y, hy, rfl⟩ := D.field_eq_ok hx)
  all_goals first
    | exact .inl rfl
    | exact .inr ⟨y, hy, rfl⟩

end Giganto
