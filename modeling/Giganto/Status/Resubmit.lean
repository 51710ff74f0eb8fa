import Giganto.Settings.Merge
import Giganto.Status.Schema

/-!
# Querying and submitting the live configuration

What `config` answers for the default settings, and what `set_config` does with the text of the
live configuration that `Settings::to_toml_string` writes. The configuration read back from that
text is the live one but for `addr_to_peers`: an address equal to the sentinel reads back as no
address. So submitting it is "No changes" exactly when the live configuration's peer address is
not the sentinel, and a configuration can only carry the sentinel when its text spelled the
sentinel with zeros before the port.

Over every run, what the reload channel carries is a text `Settings::from_server` reads to the
configuration `set_config` compared, and that configuration is not the live one.
-/

namespace Giganto.Status

open Net Serde Toml

theorem Config.beq_addrToPeers (c : Config) (o : Option SocketAddr) :
    c.beq { c with addrToPeers := o } = decide (c.addrToPeers = o) := by
  dsimp only [Config.beq]
  cases c.peers <;> simp [HashSet.beq_iff]

theorem dropSentinel_eq_self_iff (o : Option SocketAddr) :
    dropSentinel o = o ↔ o ≠ some sentinelAddr := by
  cases o with
  | none => simp [dropSentinel]
  | some a => by_cases h : a = sentinelAddr <;> simp [dropSentinel, h]

/-- The text `to_toml_string` writes for a configuration that a decoder produced reads back to
that configuration with a sentinel peer address dropped; submitting it to a remote service whose
live settings they are answers "No changes" and spawns nothing, unless the live peer address is
the sentinel, when it is accepted as a change and handed to the reload channel. -/
theorem setConfig_toTomlString {V E : Type} {D : Deserializer V E} {v : V} {S : Settings}
    {t : DocumentMut} (hdec : Config.deserialize D v = .ok S.config)
    (ht : S.toTomlString = .ok t) :
    fromStr Config.deserialize t =
        .ok { S.config with addrToPeers := dropSentinel S.config.addrToPeers } ∧
      ∀ svc : Service, svc.isLocal = false → svc.settings = S →
        setConfig svc t = if S.config.addrToPeers = some sentinelAddr
          then ({ svc with pending := svc.pending ++ [t] }, .ok true)
          else (svc, .error (.message "No changes")) := by
  have hread := Config.fromStr_toTomlString (Config.deserialize_flowinfoFree D hdec) ht
  refine ⟨hread, fun svc hl hs => ?_⟩
  have hbeq := Config.beq_addrToPeers S.config (dropSentinel S.config.addrToPeers)
  have hiff := dropSentinel_eq_self_iff S.config.addrToPeers
  unfold setConfig
  rw [hl, hs, hread]
  simp only [Bool.false_eq_true, if_false, hbeq, decide_eq_true_eq]
  by_cases h : S.config.addrToPeers = some sentinelAddr
  · have hne : S.config.addrToPeers ≠ dropSentinel S.config.addrToPeers :=
      fun he => hiff.mp he.symm h
    rw [if_neg hne, if_pos h]
  · have he : S.config.addrToPeers = dropSentinel S.config.addrToPeers := (hiff.mpr h).symm
    rw [if_pos he, if_neg h]

/-- The default settings: submitting their text to a remote service running them is "No
changes". -/
theorem setConfig_toTomlString_defaults :
    ∃ S t, Settings.newDefault "db" "logs/apps" "export" = .ok S ∧ S.toTomlString = .ok t ∧
      setConfig ⟨false, S, [], [], fun _ => false⟩ t =
        (⟨false, S, [], [], fun _ => false⟩, .error (.message "No changes")) := by
  have h := @setConfig_toTomlString _ _ tomlDeserializer
    (tableOf (defaultConfigBuilder "db" "logs/apps" "export")) ⟨_, none⟩ _ rfl rfl
  exact ⟨_, _, rfl, rfl, (h.2 ⟨false, ⟨_, none⟩, [], [], fun _ => false⟩ rfl rfl).trans rfl⟩

/-- A configuration text setting only `addr_to_peers`, to the sentinel address with a zero
before its port. -/
def sentinelSpellingDoc : DocumentMut :=
  ⟨⟨[(⟨"addr_to_peers", none, {}⟩, strItem "254.254.254.254:038383")], {}, false⟩, ""⟩

/-- Settings read from that text hold the sentinel as their peer address; their own text,
submitted back, is accepted as a change and handed to the reload channel. -/
theorem setConfig_toTomlString_sentinel :
    ∃ S t, Settings.fromServer sentinelSpellingDoc "db" "logs/apps" "export" = .ok S ∧
      S.config.addrToPeers = some sentinelAddr ∧ S.toTomlString = .ok t ∧
      setConfig ⟨false, S, [], [], fun _ => false⟩ t =
        (⟨false, S, [t], [], fun _ => false⟩, .ok true) := by
  obtain ⟨S, hS, hdec, haddr, t, ht⟩ : ∃ S, Settings.fromServer sentinelSpellingDoc "db"
      "logs/apps" "export" = .ok S ∧ Config.deserialize tomlDeserializer (tableOf (mergeSource
        (defaultConfigBuilder "db" "logs/apps" "export")
        (visibleEntries sentinelSpellingDoc.root.items))) = .ok S.config ∧
      S.config.addrToPeers = some sentinelAddr ∧ ∃ t, S.toTomlString = .ok t :=
    ⟨_, rfl, rfl, rfl, _, rfl⟩
  refine ⟨S, t, hS, haddr, ht, ?_⟩
  have hread := Config.fromStr_toTomlString (Config.deserialize_flowinfoFree _ hdec) ht
  have hne : S.config.beq { S.config with addrToPeers := dropSentinel S.config.addrToPeers } =
      false := by
    rw [Config.beq_addrToPeers, haddr]
    simp [dropSentinel]
  simp only [setConfig, Bool.false_eq_true, if_false, hread, hne]
  rfl

/-- The configuration of a remote service listening on the loopback address. -/
def loopbackConfig : Config :=
  ⟨.v4 ⟨⟨127, 0, 0, 1⟩, 38370⟩, .v4 ⟨⟨127, 0, 0, 1⟩, 38371⟩, "db", ⟨0, 0⟩,
    .v4 ⟨⟨127, 0, 0, 1⟩, 8442⟩, "logs", "export", ⟨8000, by decide⟩, 512, ⟨8, by decide⟩, 2, none,
    none, 1024⟩

theorem PeerIdentity.toObject_inj {p q : PeerIdentity} (hp : p.addr.flowinfo = 0)
    (hq : q.addr.flowinfo = 0) (h : p.toObject = q.toObject) : p = q := by
  obtain ⟨a, n⟩ := p
  obtain ⟨b, m⟩ := q
  simp only [PeerIdentity.toObject, PeerObject.mk.injEq] at h
  obtain rfl : a = b := SocketAddr.eq_of_toString_eq hp hq h.1
  rw [h.2]

theorem map_peerToObject_inj : ∀ {l l' : List PeerIdentity}, (∀ p ∈ l, p.addr.flowinfo = 0) →
    (∀ p ∈ l', p.addr.flowinfo = 0) →
    l.map PeerIdentity.toObject = l'.map PeerIdentity.toObject → l = l'
  | [], [], _, _, _ => rfl
  | p :: l, q :: l', hl, hl', h => by
    obtain ⟨hpq, hrest⟩ := List.cons.inj h
    rw [PeerIdentity.toObject_inj (hl p (.head _)) (hl' q (.head _)) hpq,
      map_peerToObject_inj (fun r hr => hl r (.tail _ hr)) (fun r hr => hl' r (.tail _ hr)) hrest]
  | [], _ :: _, _, _, h | _ :: _, [], _, _, h => nomatch h

/-- Two configurations whose addresses carry the flow information `0`, as every configuration
a decoder returns, are equal when `config` answers them alike: each field the schema resolves
is a text or a number its reader reads back, and a set of peers is listed element by element.
So the answer of `config` shows every change `set_config` would accept. -/
theorem Config.eq_of_toObject_eq {c c' : Config} (hc : c.FlowinfoFree) (hc' : c'.FlowinfoFree)
    (h : c.toObject = c'.toObject) : c = c' := by
  obtain ⟨i, p, d, r, g, l, e, o, m, n, s, a, ps, k⟩ := c
  obtain ⟨i', p', d', r', g', l', e', o', m', n', s', a', ps', k'⟩ := c'
  simp only [Config.toObject, ConfigObject.mk.injEq] at h
  obtain ⟨hi, hp, hg, hr, rfl, rfl, rfl, ho, hm, hn, hs, ha, hps, hk⟩ := h
  have haddr : a = a' := by
    cases a <;> cases a' <;> simp only [Option.map_none', Option.map_some', reduceCtorEq,
      Option.some.injEq] at ha ⊢
    exact SocketAddr.eq_of_toString_eq (hc.addrToPeers _ rfl) (hc'.addrToPeers _ rfl) ha
  have hpeers : ps = ps' := by
    cases ps <;> cases ps' <;> simp only [Option.map_none', Option.map_some', reduceCtorEq,
      Option.some.injEq] at hps ⊢
    rename_i s s'
    obtain ⟨el, _⟩ := s
    obtain ⟨el', _⟩ := s'
    obtain rfl := map_peerToObject_inj (hc.peers _ rfl) (hc'.peers _ rfl) hps
    rfl
  obtain rfl : i = i' := SocketAddr.eq_of_toString_eq hc.1 hc'.1 hi
  obtain rfl : p = p' := SocketAddr.eq_of_toString_eq hc.2 hc'.2 hp
  obtain rfl : g = g' := SocketAddr.eq_of_toString_eq hc.3 hc'.3 hg
  obtain rfl := Humantime.formatDuration_injective hr
  obtain rfl : o = o' := Subtype.ext ho
  obtain rfl : n = n' := Subtype.ext hn
  obtain rfl := UInt64.toNat.inj (toString_nat_injective hm)
  obtain rfl := UInt32.toNat.inj (toString_nat_injective hs)
  obtain rfl := UInt16.toNat.inj hk
  rw [haddr, hpeers]

/-- The loopback configuration, answered alike twice. -/
theorem Config.eq_of_toObject_eq_loopback :
    ∃ c c' : Config, c.FlowinfoFree ∧ c'.FlowinfoFree ∧ c.toObject = c'.toObject ∧ c = c' :=
  have hfree : loopbackConfig.FlowinfoFree :=
    ⟨rfl, rfl, rfl, fun _ h => (by cases h), fun _ h => (by cases h)⟩
  ⟨loopbackConfig, loopbackConfig, hfree, hfree, rfl, Config.eq_of_toObject_eq hfree hfree rfl⟩

end Giganto.Status
