import Giganto.Settings.Config
import Giganto.Net.RoundTrip
import Mathlib.Data.String.Basic

/-!
# What the decoders produce

The readers of `Config`'s fields over any deserializer: the peer address decoder case by case on
its text, and the invariant of the derived `visit_map` that every address it holds has flow
information `0`, as the address parser never reads one. `Settings::from_file`, `from_server`,
`new` and `toml::from_str` all decode through these impls, each with its own deserializer.

`visit_map` reads each entry into the field its key names: what an entry reads on its own is
what the configuration holds, and the loop succeeds once every entry reads on its own, no key
repeats and every required field has an entry.
-/

namespace Giganto

open Net Humantime Serde

/-- `254.254.254.254:38383`, the address `DEFAULT_INVALID_ADDR_TO_PEERS` parses to. -/
def sentinelAddr : SocketAddr := .v4 ⟨⟨254, 254, 254, 254⟩, 38383⟩

theorem parseSocketAddr_defaultInvalidAddrToPeers :
    parseSocketAddr defaultInvalidAddrToPeers = .ok sentinelAddr := rfl

theorem toString_sentinelAddr : sentinelAddr.toString = defaultInvalidAddrToPeers := rfl

theorem parseSocketAddr_empty : ∀ a, parseSocketAddr "" ≠ .ok a := by
  intro a h
  cases h

/-- The texts of the sentinel: its own text with any number of zeros before the port. -/
theorem parseSocketAddr_eq_sentinel (s : String) :
    parseSocketAddr s = .ok sentinelAddr ↔
      ∃ k, s.toList = "254.254.254.254:".toList ++ List.replicate k '0' ++ "38383".toList := by
  rw [sentinelAddr, parseSocketAddr_v4_iff]
  rfl

theorem parseAddr_eq_ok {s : String} {a : SocketAddr} :
    parseAddr s = .ok a ↔ parseSocketAddr s = .ok a := mapError_eq_ok

/-! ## The peer address -/

/-- The closure of `deserialize_peer_addr` compares the raw text before it parses it. -/
theorem peerAddr_eq_ok_none {s : String} :
    peerAddr s = .ok none ↔ s = defaultInvalidAddrToPeers ∨ s = "" := by
  unfold peerAddr
  split_ifs with h
  · simpa [String.isEmpty_iff] using h
  · simp only [String.isEmpty_iff] at h
    simp [h, map_eq_ok]

theorem peerAddr_eq_ok_some {s : String} {a : SocketAddr} :
    peerAddr s = .ok (some a) ↔ s ≠ defaultInvalidAddrToPeers ∧ parseSocketAddr s = .ok a := by
  unfold peerAddr
  split_ifs with h
  · simp only [String.isEmpty_iff] at h
    rcases h with rfl | rfl
    · simp
    · simpa using fun _ => parseSocketAddr_empty a
  · simp only [String.isEmpty_iff, not_or] at h
    simp [h.1, map_eq_ok, parseAddr_eq_ok]

theorem peerAddr_eq_error {s : String} :
    (∃ e, peerAddr s = .error e) ↔
      s ≠ defaultInvalidAddrToPeers ∧ s ≠ "" ∧ ∀ a, parseSocketAddr s ≠ .ok a := by
  unfold peerAddr
  split_ifs with h
  · simp only [String.isEmpty_iff] at h
    simp only [exists_false, false_iff]
    rintro ⟨h1, h2, -⟩
    tauto
  · simp only [String.isEmpty_iff, not_or] at h
    simp only [h, ne_eq, not_false_eq_true, true_and, parseAddr]
    cases parseSocketAddr s <;> simp [Except.map, Except.mapError]

/-- The texts the closure reads as the sentinel address: the sentinel's own text with one or more
zeros before the port. -/
theorem peerAddr_eq_ok_sentinel {s : String} :
    peerAddr s = .ok (some sentinelAddr) ↔
      ∃ k, 0 < k ∧ s.toList = "254.254.254.254:".toList ++ List.replicate k '0' ++
        "38383".toList := by
  rw [peerAddr_eq_ok_some, parseSocketAddr_eq_sentinel]
  constructor
  · rintro ⟨hne, k, hk⟩
    refine ⟨k, Nat.pos_of_ne_zero fun h0 => hne (String.ext ?_), hk⟩
    simpa [h0] using hk
  · rintro ⟨k, hk, hs⟩
    refine ⟨fun h => ?_, k, hs⟩
    have hlen := congrArg List.length hs
    simp [h, defaultInvalidAddrToPeers] at hlen
    omega

section Readers

variable {V E : Type} (D : Deserializer V E)

/-- `deserialize_peer_addr` on a string: `None` for the sentinel's own text and the empty text,
compared before parsing; otherwise the address the text parses to, which is the sentinel for its
texts with zeros before the port; an error for any other text. -/
theorem deserializePeerAddr_text {v : V} {s : String} (hnone : D.isNone v = false)
    (hs : D.str "a string" v = .ok s) :
    (deserializePeerAddr D v = .ok none ↔ s = defaultInvalidAddrToPeers ∨ s = "") ∧
    (∀ a, deserializePeerAddr D v = .ok (some a) ↔
      s ≠ defaultInvalidAddrToPeers ∧ parseSocketAddr s = .ok a) ∧
    ((∃ e, deserializePeerAddr D v = .error e) ↔
      s ≠ defaultInvalidAddrToPeers ∧ s ≠ "" ∧ ∀ a, parseSocketAddr s ≠ .ok a) ∧
    (deserializePeerAddr D v = .ok (some sentinelAddr) ↔
      ∃ k, 0 < k ∧ s.toList = "254.254.254.254:".toList ++ List.replicate k '0' ++
        "38383".toList) := by
  have hdef : deserializePeerAddr D v = (peerAddr s).mapError D.custom := by
    simp [deserializePeerAddr, hnone, hs]
  have herr : (∃ e, (peerAddr s).mapError D.custom = .error e) ↔ ∃ e, peerAddr s = .error e := by
    cases peerAddr s <;> simp [Except.mapError]
  refine ⟨?_, fun a => ?_, ?_, ?_⟩
  · rw [hdef, mapError_eq_ok, peerAddr_eq_ok_none]
  · rw [hdef, mapError_eq_ok, peerAddr_eq_ok_some]
  · rw [hdef, herr, peerAddr_eq_error]
  · rw [hdef, mapError_eq_ok, peerAddr_eq_ok_sentinel]

/-- The empty text decodes to no address. -/
theorem deserializePeerAddr_text_empty :
    deserializePeerAddr Toml.tomlDeserializer (.value (.string "" none {})) = .ok none :=
  (@deserializePeerAddr_text _ _ Toml.tomlDeserializer (.value (.string "" none {})) "" rfl
    rfl).1.mpr (.inr rfl)

/-- The text `254.254.254.254:038383` decodes to the sentinel address. -/
theorem deserializePeerAddr_sentinel_spelling :
    deserializePeerAddr Toml.tomlDeserializer (.value (.string "254.254.254.254:038383" none {})) =
      .ok (some sentinelAddr) := rfl

/-! ## Every decoded address has flow information `0` -/

/-- Every address of a configuration has no flow information, as the address parser never
reads one. -/
structure Config.FlowinfoFree (c : Config) : Prop where
  ingestSrvAddr : c.ingestSrvAddr.flowinfo = 0
  publishSrvAddr : c.publishSrvAddr.flowinfo = 0
  graphqlSrvAddr : c.graphqlSrvAddr.flowinfo = 0
  addrToPeers : ∀ a ∈ c.addrToPeers, a.flowinfo = 0
  peers : ∀ s ∈ c.peers, ∀ p ∈ s.elems, p.addr.flowinfo = 0

/-- The same of every address the derived `visit_map` has read so far. -/
structure ConfigFields.FlowinfoFree (acc : ConfigFields) : Prop where
  ingestSrvAddr : ∀ a ∈ acc.ingestSrvAddr, a.flowinfo = 0
  publishSrvAddr : ∀ a ∈ acc.publishSrvAddr, a.flowinfo = 0
  graphqlSrvAddr : ∀ a ∈ acc.graphqlSrvAddr, a.flowinfo = 0
  addrToPeers : ∀ o ∈ acc.addrToPeers, ∀ a ∈ o, a.flowinfo = 0
  peers : ∀ o ∈ acc.peers, ∀ s ∈ o, ∀ p ∈ s.elems, p.addr.flowinfo = 0

theorem deserializeSocketAddr_flowinfo {v : V} {a : SocketAddr}
    (h : deserializeSocketAddr D v = .ok a) : a.flowinfo = 0 := by
  obtain ⟨s, -, hs⟩ := bind_eq_ok.mp h
  exact parseSocketAddr_flowinfo (parseAddr_eq_ok.mp (mapError_eq_ok.mp hs))

theorem deserializePeerAddr_flowinfo {v : V} {o : Option SocketAddr}
    (h : deserializePeerAddr D v = .ok o) : ∀ a ∈ o, a.flowinfo = 0 := by
  intro a ha
  rw [Option.mem_def] at ha
  subst ha
  unfold deserializePeerAddr at h
  split_ifs at h
  · cases h
  obtain ⟨s, -, hs⟩ := bind_eq_ok.mp h
  exact parseSocketAddr_flowinfo (peerAddr_eq_ok_some.mp (mapError_eq_ok.mp hs)).2

theorem PeerIdentity.visitEntry_flowinfo {acc acc' : PeerIdentityFields} {entry : String × V}
    (h : PeerIdentity.visitEntry D acc entry = .ok acc') (hacc : ∀ a ∈ acc.addr, a.flowinfo = 0) :
    ∀ a ∈ acc'.addr, a.flowinfo = 0 := by
  unfold PeerIdentity.visitEntry at h
  split at h
  · obtain ⟨x, hx, rfl⟩ := map_eq_ok.mp h
    obtain ⟨-, y, hy, rfl⟩ := D.field_eq_ok hx
    rintro a ⟨⟩
    obtain ⟨s, -, hs⟩ := bind_eq_ok.mp hy
    exact parseSocketAddr_flowinfo (mapError_eq_ok.mp hs)
  · obtain ⟨x, -, rfl⟩ := map_eq_ok.mp h
    exact hacc
  · cases h
    exact hacc

theorem PeerIdentity.deserialize_flowinfo {v : V} {p : PeerIdentity}
    (h : PeerIdentity.deserialize D v = .ok p) : p.addr.flowinfo = 0 := by
  obtain ⟨entries, -, h⟩ := bind_eq_ok.mp h
  obtain ⟨acc, hacc, h⟩ := bind_eq_ok.mp h
  obtain ⟨a, ha, h⟩ := bind_eq_ok.mp h
  obtain ⟨n, -, h⟩ := bind_eq_ok.mp h
  cases h
  exact foldlM_invariant (fun acc : PeerIdentityFields => ∀ a ∈ acc.addr, a.flowinfo = 0)
    (fun _ _ _ => PeerIdentity.visitEntry_flowinfo D) entries {} acc hacc (by simp) a
    (D.required_eq_ok.mp ha)

theorem deserializePeers_flowinfo {v : V} {o : Option (HashSet PeerIdentity)}
    (h : deserializePeers D v = .ok o) : ∀ s ∈ o, ∀ p ∈ s.elems, p.addr.flowinfo = 0 := by
  intro s hs p hp
  rw [Option.mem_def] at hs
  subst hs
  unfold deserializePeers at h
  split_ifs at h
  · cases h
  obtain ⟨vs, -, h⟩ := bind_eq_ok.mp h
  obtain ⟨ps, hps, h⟩ := bind_eq_ok.mp h
  cases h
  obtain ⟨w, -, hw⟩ := mem_of_mapM_eq_ok hps ((HashSet.mem_ofList ps p).mp hp)
  exact PeerIdentity.deserialize_flowinfo D hw

/-- The derived `Deserialize for PeerIdentity` on a map of the two fields in order. -/
theorem PeerIdentity.deserialize_of_map {v va vh : V} {s host : String} {a : SocketAddr}
    (hmap : D.map "struct PeerIdentity" v = .ok [("addr", va), ("hostname", vh)])
    (haddr : D.str "socket address" va = .ok s) (hparse : parseSocketAddr s = .ok a)
    (hhost : D.str "a string" vh = .ok host) :
    PeerIdentity.deserialize D v = .ok ⟨a, host⟩ := by
  simp [PeerIdentity.deserialize, hmap, PeerIdentity.visitEntry, Deserializer.field,
    Deserializer.value, deserializeStdSocketAddr, haddr, hparse, hhost, Deserializer.required]

theorem deserializePeers_of_seq {v : V} {vs : List V} {ps : List PeerIdentity}
    (hnone : D.isNone v = false) (hseq : D.seq "a sequence" v = .ok vs)
    (hps : vs.mapM (PeerIdentity.deserialize D) = .ok ps) :
    deserializePeers D v = .ok (some (HashSet.ofList ps)) := by
  simp only [deserializePeers, hnone, Bool.false_eq_true, if_false, hseq, ok_bind, hps]
  rfl

/-- One entry of `visit_map` keeps every address read free of flow information. -/
theorem Config.visitEntry_flowinfoFree {acc acc' : ConfigFields} {entry : String × V}
    (h : Config.visitEntry D acc entry = .ok acc') (hacc : acc.FlowinfoFree) :
    acc'.FlowinfoFree := by
  obtain ⟨h1, h2, h3, h4, h5⟩ := hacc
  unfold Config.visitEntry at h
  generalize ConfigField.ofKey entry.1 = f at h
  cases f
  all_goals first
    | (cases h; exact ⟨h1, h2, h3, h4, h5⟩)
    | (obtain ⟨x, hx, rfl⟩ := map_eq_ok.mp h
       obtain ⟨-, y, hy, rfl⟩ := D.field_eq_ok hx)
  all_goals first
    | exact ⟨h1, h2, h3, h4, h5⟩
    | skip
  · exact ⟨by rintro a ⟨⟩; exact deserializeSocketAddr_flowinfo D hy, h2, h3, h4, h5⟩
  · exact ⟨h1, by rintro a ⟨⟩; exact deserializeSocketAddr_flowinfo D hy, h3, h4, h5⟩
  · exact ⟨h1, h2, by rintro a ⟨⟩; exact deserializeSocketAddr_flowinfo D hy, h4, h5⟩
  · exact ⟨h1, h2, h3, by rintro o ⟨⟩; exact deserializePeerAddr_flowinfo D hy, h5⟩
  · exact ⟨h1, h2, h3, h4, by rintro o ⟨⟩; exact deserializePeers_flowinfo D hy⟩

theorem Config.ofFields_flowinfoFree {acc : ConfigFields} {c : Config}
    (h : Config.ofFields D acc = .ok c) (hacc : acc.FlowinfoFree) : c.FlowinfoFree := by
  simp only [Config.ofFields, bind_eq_ok, D.required_eq_ok] at h
  obtain ⟨x1, h1, x2, h2, _, _, _, _, x5, h5, _, _, _, _, _, _, _, _, _, _, _, _, _, _, hc⟩ := h
  cases hc
  refine ⟨hacc.1 _ h1, hacc.2 _ h2, hacc.3 _ h5, ?_, ?_⟩
  · cases ha : acc.addrToPeers with
    | none => rintro a ⟨⟩
    | some o => exact hacc.4 o ha
  · cases hp : acc.peers with
    | none => rintro s ⟨⟩
    | some o => exact hacc.5 o hp

/-- Every configuration the derived `Deserialize` produces, from any format, has addresses with
no flow information. -/
theorem Config.deserialize_flowinfoFree {v : V} {c : Config}
    (h : Config.deserialize D v = .ok c) : c.FlowinfoFree := by
  obtain ⟨entries, -, h⟩ := bind_eq_ok.mp h
  obtain ⟨acc, hacc, h⟩ := bind_eq_ok.mp h
  refine Config.ofFields_flowinfoFree D h ?_
  exact foldlM_invariant ConfigFields.FlowinfoFree (fun _ _ _ => Config.visitEntry_flowinfoFree D)
    entries {} acc hacc ⟨by rintro a ⟨⟩, by rintro a ⟨⟩, by rintro a ⟨⟩, by rintro a ⟨⟩,
      by rintro a ⟨⟩⟩

/-! ## Every entry is read into the configuration -/

/-- A field of `Config` with a value. -/
inductive FieldValue where
  | ingestSrvAddr (x : SocketAddr)
  | publishSrvAddr (x : SocketAddr)
  | dataDir (x : String)
  | retention (x : Duration)
  | graphqlSrvAddr (x : SocketAddr)
  | logDir (x : String)
  | exportDir (x : String)
  | maxOpenFiles (x : I32)
  | maxMbOfLevelBase (x : UInt64)
  | numOfThread (x : I32)
  | maxSubCompactions (x : UInt32)
  | addrToPeers (x : Option SocketAddr)
  | peers (x : Option (HashSet PeerIdentity))
  | ackTransmission (x : UInt16)

/-- Whether the fields read so far hold a field with the given value. -/
def ConfigFields.Has (a : ConfigFields) : FieldValue → Prop
  | .ingestSrvAddr x => a.ingestSrvAddr = some x
  | .publishSrvAddr x => a.publishSrvAddr = some x
  | .dataDir x => a.dataDir = some x
  | .retention x => a.retention = some x
  | .graphqlSrvAddr x => a.graphqlSrvAddr = some x
  | .logDir x => a.logDir = some x
  | .exportDir x => a.exportDir = some x
  | .maxOpenFiles x => a.maxOpenFiles = some x
  | .maxMbOfLevelBase x => a.maxMbOfLevelBase = some x
  | .numOfThread x => a.numOfThread = some x
  | .maxSubCompactions x => a.maxSubCompactions = some x
  | .addrToPeers x => a.addrToPeers = some x
  | .peers x => a.peers = some x
  | .ackTransmission x => a.ackTransmission = some x

/-- Whether a configuration's field has the given value. -/
def Config.Has (c : Config) : FieldValue → Prop
  | .ingestSrvAddr x => c.ingestSrvAddr = x
  | .publishSrvAddr x => c.publishSrvAddr = x
  | .dataDir x => c.dataDir = x
  | .retention x => c.retention = x
  | .graphqlSrvAddr x => c.graphqlSrvAddr = x
  | .logDir x => c.logDir = x
  | .exportDir x => c.exportDir = x
  | .maxOpenFiles x => c.maxOpenFiles = x
  | .maxMbOfLevelBase x => c.maxMbOfLevelBase = x
  | .numOfThread x => c.numOfThread = x
  | .maxSubCompactions x => c.maxSubCompactions = x
  | .addrToPeers x => c.addrToPeers = x
  | .peers x => c.peers = x
  | .ackTransmission x => c.ackTransmission = x

/-- Whether the derived `visit_map` has read a field. -/
def ConfigFields.isSet (acc : ConfigFields) : ConfigField → Bool
  | .ingestSrvAddr => acc.ingestSrvAddr.isSome
  | .publishSrvAddr => acc.publishSrvAddr.isSome
  | .dataDir => acc.dataDir.isSome
  | .retention => acc.retention.isSome
  | .graphqlSrvAddr => acc.graphqlSrvAddr.isSome
  | .logDir => acc.logDir.isSome
  | .exportDir => acc.exportDir.isSome
  | .maxOpenFiles => acc.maxOpenFiles.isSome
  | .maxMbOfLevelBase => acc.maxMbOfLevelBase.isSome
  | .numOfThread => acc.numOfThread.isSome
  | .maxSubCompactions => acc.maxSubCompactions.isSome
  | .addrToPeers => acc.addrToPeers.isSome
  | .peers => acc.peers.isSome
  | .ackTransmission => acc.ackTransmission.isSome
  | .ignore => false

/-- One entry of `visit_map` keeps the fields read before, and adds what the entry read alone
gives. -/
theorem Config.visitEntry_has {acc acc' : ConfigFields} {entry : String × V}
    (h : Config.visitEntry D acc entry = .ok acc') :
    (∀ fv, acc.Has fv → acc'.Has fv) ∧
      ∃ a, Config.visitEntry D {} entry = .ok a ∧ ∀ fv, a.Has fv → acc'.Has fv := by
  unfold Config.visitEntry at h ⊢
  generalize ConfigField.ofKey entry.1 = f at h ⊢
  cases f <;> dsimp only at h ⊢
  all_goals first
    | (cases h; exact ⟨fun _ => id, _, rfl, fun fv hfv => by cases fv <;> cases hfv⟩)
    | (obtain ⟨x, hx, rfl⟩ := map_eq_ok.mp h
       obtain ⟨hnone, y, hy, rfl⟩ := D.field_eq_ok hx
       refine ⟨fun fv hfv => ?_, _, by rw [D.field_of_none rfl hy]; rfl, fun fv hfv => ?_⟩ <;>
         cases fv <;>
           first | exact hfv | cases hfv | (rw [ConfigFields.Has, hnone] at hfv; cases hfv))

theorem Config.foldlM_visitEntry_has :
    ∀ (l : List (String × V)) (acc acc' : ConfigFields),
      l.foldlM (Config.visitEntry D) acc = .ok acc' →
      (∀ fv, acc.Has fv → acc'.Has fv) ∧
        ∀ e ∈ l, ∃ a, Config.visitEntry D {} e = .ok a ∧ ∀ fv, a.Has fv → acc'.Has fv
  | [], acc, acc', h => by
    cases h
    exact ⟨fun _ => id, fun e he => by cases he⟩
  | e :: l, acc, acc', h => by
    rw [List.foldlM_cons] at h
    obtain ⟨acc₁, h₁, h⟩ := bind_eq_ok.mp h
    obtain ⟨hle, hrest⟩ := Config.foldlM_visitEntry_has l acc₁ acc' h
    obtain ⟨hle₁, a, ha, ha'⟩ := Config.visitEntry_has D h₁
    refine ⟨fun fv hfv => hle fv (hle₁ fv hfv), fun e' he' => ?_⟩
    rcases List.mem_cons.mp he' with rfl | he'
    · exact ⟨a, ha, fun fv hfv => hle fv (ha' fv hfv)⟩
    · exact hrest e' he'

theorem Config.ofFields_has {acc : ConfigFields} {c : Config} (h : Config.ofFields D acc = .ok c) :
    ∀ fv, acc.Has fv → c.Has fv := by
  simp only [Config.ofFields, bind_eq_ok, D.required_eq_ok] at h
  obtain ⟨_, h1, _, h2, _, h3, _, h4, _, h5, _, h6, _, h7, _, h8, _, h9, _, h10, _, h11, _, h12,
    hc⟩ := h
  cases hc
  intro fv hfv
  cases fv <;> simp_all [ConfigFields.Has, Config.Has]

/-- An `addr_to_peers` entry read alone gives what `deserialize_peer_addr` reads from it. -/
theorem Config.visitEntry_addrToPeers {v : V} {a : ConfigFields}
    (h : Config.visitEntry D {} ("addr_to_peers", v) = .ok a) :
    ∃ o, deserializePeerAddr D v = .ok o ∧ a.Has (.addrToPeers o) := by
  obtain ⟨x, hx, rfl⟩ := map_eq_ok.mp h
  obtain ⟨-, o, ho, rfl⟩ := D.field_eq_ok hx
  exact ⟨o, ho, rfl⟩

/-- Every entry of a map the derived `Deserialize` accepts is read into the configuration: the
field value the entry gives, read alone, is the configuration's. -/
theorem Config.deserialize_has {v : V} {c : Config} {entries : List (String × V)}
    (h : Config.deserialize D v = .ok c) (hmap : D.map "struct Config" v = .ok entries) :
    ∀ e ∈ entries, ∃ a, Config.visitEntry D {} e = .ok a ∧ ∀ fv, a.Has fv → c.Has fv := by
  obtain ⟨entries', hm, h⟩ := bind_eq_ok.mp h
  rw [hmap] at hm
  cases hm
  obtain ⟨acc, hacc, h⟩ := bind_eq_ok.mp h
  intro e he
  obtain ⟨a, ha, ha'⟩ := (Config.foldlM_visitEntry_has D entries {} acc hacc).2 e he
  exact ⟨a, ha, fun fv hfv => Config.ofFields_has D h fv (ha' fv hfv)⟩

/-! ## Every field is read from an entry -/

/-- After one entry of `visit_map`, a field holds what it held before, or what the entry read
alone gives. -/
theorem Config.visitEntry_from {acc acc' : ConfigFields} {entry : String × V}
    (h : Config.visitEntry D acc entry = .ok acc') (fv : FieldValue) (hfv : acc'.Has fv) :
    acc.Has fv ∨ ∃ a, Config.visitEntry D {} entry = .ok a ∧ a.Has fv := by
  unfold Config.visitEntry at h ⊢
  generalize ConfigField.ofKey entry.1 = f at h ⊢
  cases f <;> dsimp only at h ⊢
  all_goals first
    | (cases h; exact .inl hfv)
    | (obtain ⟨x, hx, rfl⟩ := map_eq_ok.mp h
       obtain ⟨-, y, hy, rfl⟩ := D.field_eq_ok hx
       rw [D.field_of_none rfl hy]
       cases fv <;> first | exact .inl hfv | exact .inr ⟨_, rfl, hfv⟩)

theorem Config.foldlM_visitEntry_from :
    ∀ (l : List (String × V)) (acc acc' : ConfigFields),
      l.foldlM (Config.visitEntry D) acc = .ok acc' → ∀ fv, acc'.Has fv →
      acc.Has fv ∨ ∃ e ∈ l, ∃ a, Config.visitEntry D {} e = .ok a ∧ a.Has fv
  | [], acc, acc', h, fv, hfv => by
    cases h
    exact .inl hfv
  | e :: l, acc, acc', h, fv, hfv => by
    rw [List.foldlM_cons] at h
    obtain ⟨acc₁, h₁, h⟩ := bind_eq_ok.mp h
    rcases Config.foldlM_visitEntry_from l acc₁ acc' h fv hfv with hfv₁ | ⟨e', he', hread⟩
    · rcases Config.visitEntry_from D h₁ fv hfv₁ with hacc | hread
      · exact .inl hacc
      · exact .inr ⟨e, .head _, hread⟩
    · exact .inr ⟨e', .tail _ he', hread⟩

/-- The end of `visit_map` adds nothing but the two defaults: no peer address and no peers. -/
theorem Config.ofFields_from {acc : ConfigFields} {c : Config} (h : Config.ofFields D acc = .ok c)
    (fv : FieldValue) (hfv : c.Has fv) :
    acc.Has fv ∨ (fv = .addrToPeers none ∧ acc.addrToPeers = none) ∨
      (fv = .peers none ∧ acc.peers = none) := by
  simp only [Config.ofFields, bind_eq_ok, D.required_eq_ok] at h
  obtain ⟨_, h1, _, h2, _, h3, _, h4, _, h5, _, h6, _, h7, _, h8, _, h9, _, h10, _, h11, _, h12,
    hc⟩ := h
  cases hc
  cases fv <;> simp only [Config.Has] at hfv <;> subst hfv
  all_goals first
    | exact .inl ‹_›
    | skip
  · cases ha : acc.addrToPeers
    · exact .inr (.inl ⟨by simp [ha], rfl⟩)
    · exact .inl (by simp [ConfigFields.Has, ha])
  · cases hp : acc.peers
    · exact .inr (.inr ⟨by simp [hp], rfl⟩)
    · exact .inl (by simp [ConfigFields.Has, hp])

/-- Every field of a configuration the derived `Deserialize` produces is read from an entry of
the map, but for a missing `addr_to_peers` or `peers`, which are `None`. -/
theorem Config.deserialize_from {v : V} {c : Config} {entries : List (String × V)}
    (h : Config.deserialize D v = .ok c) (hmap : D.map "struct Config" v = .ok entries)
    (fv : FieldValue) (hfv : c.Has fv) :
    (∃ e ∈ entries, ∃ a, Config.visitEntry D {} e = .ok a ∧ a.Has fv) ∨
      fv = .addrToPeers none ∨ fv = .peers none := by
  obtain ⟨entries', hm, h⟩ := bind_eq_ok.mp h
  rw [hmap] at hm
  cases hm
  obtain ⟨acc, hacc, h⟩ := bind_eq_ok.mp h
  rcases Config.ofFields_from D h fv hfv with hfv | ⟨rfl, -⟩ | ⟨rfl, -⟩
  · rcases Config.foldlM_visitEntry_from D entries {} acc hacc fv hfv with hnone | hread
    · cases fv <;> cases hnone
    · exact .inl hread
  · exact .inr (.inl rfl)
  · exact .inr (.inr rfl)

/-! ## When the decoder succeeds -/

/-- An entry that reads alone reads into any fields where its own is not yet read, and marks
its field read. -/
theorem Config.visitEntry_of_alone {acc a : ConfigFields} {entry : String × V}
    (ha : Config.visitEntry D {} entry = .ok a)
    (hfree : acc.isSet (ConfigField.ofKey entry.1) = false) :
    ∃ acc', Config.visitEntry D acc entry = .ok acc' ∧ ∀ f, acc'.isSet f = true ↔
      acc.isSet f = true ∨ (f = ConfigField.ofKey entry.1 ∧ f ≠ .ignore) := by
  unfold Config.visitEntry at ha ⊢
  generalize ConfigField.ofKey entry.1 = g at ha hfree ⊢
  cases g <;> dsimp only at ha ⊢
  all_goals first
    | exact ⟨acc, rfl, fun f => by simp⟩
    | (obtain ⟨x, hx, -⟩ := map_eq_ok.mp ha
       obtain ⟨-, y, hy, -⟩ := D.field_eq_ok hx
       have hnone := Option.not_isSome_iff_eq_none.mp (by simpa [ConfigFields.isSet] using hfree)
       refine ⟨_, by rw [D.field_of_none hnone hy]; rfl, fun f => ?_⟩
       cases f <;> simp [ConfigFields.isSet])

theorem Config.foldlM_visitEntry_ok :
    ∀ (l : List (String × V)) (acc : ConfigFields),
      (∀ e ∈ l, ∃ a, Config.visitEntry D {} e = .ok a) → (l.map Prod.fst).Nodup →
      (∀ e ∈ l, acc.isSet (ConfigField.ofKey e.1) = false) →
      ∃ acc', l.foldlM (Config.visitEntry D) acc = .ok acc' ∧ ∀ f, acc'.isSet f = true ↔
        acc.isSet f = true ∨ ∃ e ∈ l, f = ConfigField.ofKey e.1 ∧ f ≠ .ignore
  | [], acc, _, _, _ => ⟨acc, rfl, fun f => by simp⟩
  | e :: l, acc, hread, hnodup, hfree => by
    obtain ⟨a, ha⟩ := hread e (.head _)
    obtain ⟨acc₁, h₁, hset₁⟩ := Config.visitEntry_of_alone D ha (hfree e (.head _))
    rw [List.map_cons, List.nodup_cons] at hnodup
    have hfree₁ : ∀ e' ∈ l, acc₁.isSet (ConfigField.ofKey e'.1) = false := by
      intro e' he'
      refine Bool.eq_false_iff.mpr fun hs => ?_
      rcases (hset₁ _).mp hs with hs | ⟨hk, hig⟩
      · exact absurd hs (by simp [hfree e' (.tail _ he')])
      · exact hnodup.1 (List.mem_map.mpr ⟨e', he', ConfigField.eq_of_ofKey_eq hk hig⟩)
    obtain ⟨acc', h, hset⟩ := Config.foldlM_visitEntry_ok l acc₁
      (fun e' he' => hread e' (.tail _ he')) hnodup.2 hfree₁
    refine ⟨acc', by rw [List.foldlM_cons, h₁, ok_bind, h], fun f => ?_⟩
    rw [hset, hset₁]
    simp only [List.mem_cons, exists_eq_or_imp, or_assoc]

/-- An entry that fails on its own fails where its field is not yet read, with the same error. -/
theorem Config.visitEntry_error_of_alone {acc : ConfigFields} {entry : String × V} {err : E}
    (h : Config.visitEntry D {} entry = .error err)
    (hfree : acc.isSet (ConfigField.ofKey entry.1) = false) :
    Config.visitEntry D acc entry = .error err := by
  unfold Config.visitEntry at h ⊢
  generalize ConfigField.ofKey entry.1 = g at h hfree ⊢
  cases g <;> dsimp only at h ⊢
  all_goals first
    | cases h
    | (have hnone := Option.not_isSome_iff_eq_none.mp (by simpa [ConfigFields.isSet] using hfree)
       rw [hnone]
       exact map_eq_error.mpr (map_eq_error.mp h))

/-- `visit_map` stops at the first entry that fails on its own, with its error, when the entries
before it read and no key repeats. -/
theorem Config.foldlM_visitEntry_error {pre post : List (String × V)} {e : String × V}
    {acc : ConfigFields} {err : E} (hpre : ∀ e' ∈ pre, ∃ a, Config.visitEntry D {} e' = .ok a)
    (hnodup : ((pre ++ [e]).map Prod.fst).Nodup)
    (hfree : ∀ e' ∈ pre ++ [e], acc.isSet (ConfigField.ofKey e'.1) = false)
    (hbad : Config.visitEntry D {} e = .error err) :
    (pre ++ e :: post).foldlM (Config.visitEntry D) acc = .error err := by
  rw [List.map_append, List.nodup_append] at hnodup
  obtain ⟨acc₁, h₁, hset⟩ := Config.foldlM_visitEntry_ok D pre acc hpre hnodup.1
    fun e' he' => hfree e' (List.mem_append_left _ he')
  have hfree₁ : acc₁.isSet (ConfigField.ofKey e.1) = false := by
    refine Bool.eq_false_iff.mpr fun hs => ?_
    rcases (hset _).mp hs with hs | ⟨e', he', hk, hig⟩
    · exact absurd hs (by simp [hfree e (by simp)])
    · exact hnodup.2.2 (List.mem_map.mpr ⟨e', he', (ConfigField.eq_of_ofKey_eq hk hig).symm⟩)
        (by simp)
  rw [List.foldlM_append, h₁, ok_bind, List.foldlM_cons,
    Config.visitEntry_error_of_alone D hbad hfree₁]
  rfl

/-- `visit_map` ends well once every field but the two with a default has been read. -/
theorem Config.ofFields_ok {acc : ConfigFields}
    (h : ∀ f, f ≠ .addrToPeers → f ≠ .peers → f ≠ .ignore → acc.isSet f = true) :
    ∃ c, Config.ofFields D acc = .ok c := by
  obtain ⟨x1, h1⟩ := Option.isSome_iff_exists.mp (h .ingestSrvAddr nofun nofun nofun)
  obtain ⟨x2, h2⟩ := Option.isSome_iff_exists.mp (h .publishSrvAddr nofun nofun nofun)
  obtain ⟨x3, h3⟩ := Option.isSome_iff_exists.mp (h .dataDir nofun nofun nofun)
  obtain ⟨x4, h4⟩ := Option.isSome_iff_exists.mp (h .retention nofun nofun nofun)
  obtain ⟨x5, h5⟩ := Option.isSome_iff_exists.mp (h .graphqlSrvAddr nofun nofun nofun)
  obtain ⟨x6, h6⟩ := Option.isSome_iff_exists.mp (h .logDir nofun nofun nofun)
  obtain ⟨x7, h7⟩ := Option.isSome_iff_exists.mp (h .exportDir nofun nofun nofun)
  obtain ⟨x8, h8⟩ := Option.isSome_iff_exists.mp (h .maxOpenFiles nofun nofun nofun)
  obtain ⟨x9, h9⟩ := Option.isSome_iff_exists.mp (h .maxMbOfLevelBase nofun nofun nofun)
  obtain ⟨x10, h10⟩ := Option.isSome_iff_exists.mp (h .numOfThread nofun nofun nofun)
  obtain ⟨x11, h11⟩ := Option.isSome_iff_exists.mp (h .maxSubCompactions nofun nofun nofun)
  obtain ⟨x12, h12⟩ := Option.isSome_iff_exists.mp (h .ackTransmission nofun nofun nofun)
  simp only [Config.ofFields, h1, h2, h3, h4, h5, h6, h7, h8, h9, h10, h11, h12]
  exact ⟨_, rfl⟩

/-! ## The order of the entries -/

/-- Fields read so far are equal when they hold the same field values. -/
theorem ConfigFields.ext_has {a b : ConfigFields} (h : ∀ fv, a.Has fv ↔ b.Has fv) : a = b := by
  cases a
  cases b
  simp only [ConfigFields.mk.injEq]
  exact ⟨Option.ext fun x => h (.ingestSrvAddr x), Option.ext fun x => h (.publishSrvAddr x),
    Option.ext fun x => h (.dataDir x), Option.ext fun x => h (.retention x),
    Option.ext fun x => h (.graphqlSrvAddr x), Option.ext fun x => h (.logDir x),
    Option.ext fun x => h (.exportDir x), Option.ext fun x => h (.maxOpenFiles x),
    Option.ext fun x => h (.maxMbOfLevelBase x), Option.ext fun x => h (.numOfThread x),
    Option.ext fun x => h (.maxSubCompactions x), Option.ext fun x => h (.addrToPeers x),
    Option.ext fun x => h (.peers x), Option.ext fun x => h (.ackTransmission x)⟩

/-- Once `visit_map` has read a map, a field holds a value exactly when an entry of the map,
read alone, gives it. -/
theorem Config.foldlM_visitEntry_has_iff {l : List (String × V)} {acc : ConfigFields}
    (h : l.foldlM (Config.visitEntry D) {} = .ok acc) (fv : FieldValue) :
    acc.Has fv ↔ ∃ e ∈ l, ∃ a, Config.visitEntry D {} e = .ok a ∧ a.Has fv := by
  constructor
  · intro hfv
    rcases Config.foldlM_visitEntry_from D l {} acc h fv hfv with hnone | hread
    · cases fv <;> cases hnone
    · exact hread
  · rintro ⟨e, he, a, ha, hfv⟩
    obtain ⟨a', ha', hle⟩ := (Config.foldlM_visitEntry_has D l {} acc h).2 e he
    obtain rfl := Except.ok.inj (ha.symm.trans ha')
    exact hle fv hfv

/-- On a map with distinct keys, `visit_map` reads the same fields in any order of the
entries. -/
theorem Config.foldlM_visitEntry_perm {l l' : List (String × V)} {acc : ConfigFields}
    (hperm : l.Perm l') (hkeys : (l.map Prod.fst).Nodup)
    (h : l.foldlM (Config.visitEntry D) {} = .ok acc) :
    l'.foldlM (Config.visitEntry D) {} = .ok acc := by
  have hread : ∀ e ∈ l', ∃ a, Config.visitEntry D {} e = .ok a := fun e he => by
    obtain ⟨a, ha, -⟩ := (Config.foldlM_visitEntry_has D l {} acc h).2 e (hperm.mem_iff.mpr he)
    exact ⟨a, ha⟩
  obtain ⟨acc', h', -⟩ := Config.foldlM_visitEntry_ok D l' {} hread
    ((hperm.map _).nodup_iff.mp hkeys) fun e _ => by cases ConfigField.ofKey e.1 <;> rfl
  refine h'.trans (congrArg _ (ConfigFields.ext_has fun fv => ?_))
  rw [Config.foldlM_visitEntry_has_iff D h' fv, Config.foldlM_visitEntry_has_iff D h fv]
  exact exists_congr fun e => and_congr_left' hperm.mem_iff.symm

end Readers

end Giganto
