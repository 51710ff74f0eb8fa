import Giganto.Humantime
import Giganto.Toml.Ser
import Giganto.Toml.De
import Giganto.Peer
import Mathlib.Data.Finset.Basic

/-!
# The configuration and its serde impls

`Config` and `Settings` of `settings.rs`, with the impls serde derives for them: `Serialize`
writes the fields in declaration order, leaving out those that are `None`; `Deserialize` reads
the entries of a map in their order, refusing a field read twice, ignoring unknown keys, and
then requires every field but the two `Option`s. Three fields are read by the crate's own code:
the socket addresses by `deserialize_socket_addr`, `addr_to_peers` by `deserialize_peer_addr`
(with `default`), and `retention` by `humantime_serde`. The deserializer is any `Deserializer`,
as the derived impls are generic over it; `toml::from_str` is `fromStr` with toml's.

A `PathBuf` is modelled by its text: every path read from a text is valid UTF-8, so its
serializer never fails.
-/

namespace Giganto

open Net Humantime Serde Toml

/-- `i32`. -/
def I32 : Type := {v : Int // -2147483648 ≤ v ∧ v ≤ 2147483647}

instance : DecidableEq I32 :=
  inferInstanceAs (DecidableEq {v : Int // -2147483648 ≤ v ∧ v ≤ 2147483647})

/-- `DEFAULT_INVALID_ADDR_TO_PEERS`: the text that stands for no peer address. -/
def defaultInvalidAddrToPeers : String := "254.254.254.254:38383"

/-- `Config`. -/
structure Config where
  ingestSrvAddr : SocketAddr
  publishSrvAddr : SocketAddr
  dataDir : String
  retention : Duration
  graphqlSrvAddr : SocketAddr
  logDir : String
  exportDir : String
  maxOpenFiles : I32
  maxMbOfLevelBase : UInt64
  numOfThread : I32
  maxSubCompactions : UInt32
  addrToPeers : Option SocketAddr
  peers : Option (HashSet PeerIdentity)
  ackTransmission : UInt16

/-- `Settings`. -/
structure Settings where
  config : Config
  cfgPath : Option String

/-- `PartialEq for Config` (derived): field by field, with `PartialEq for HashSet` on the
peers. -/
def Config.beq (c d : Config) : Bool :=
  c.ingestSrvAddr = d.ingestSrvAddr && c.publishSrvAddr = d.publishSrvAddr &&
    c.dataDir = d.dataDir && c.retention = d.retention && c.graphqlSrvAddr = d.graphqlSrvAddr &&
    c.logDir = d.logDir && c.exportDir = d.exportDir && c.maxOpenFiles = d.maxOpenFiles &&
    c.maxMbOfLevelBase = d.maxMbOfLevelBase && c.numOfThread = d.numOfThread &&
    c.maxSubCompactions = d.maxSubCompactions && c.addrToPeers = d.addrToPeers &&
    (match c.peers, d.peers with
      | none, none => true
      | some s, some t => s.beq t
      | _, _ => false) &&
    c.ackTransmission = d.ackTransmission

/-- Two configurations are equal for the derived `PartialEq` exactly when they agree on every
field but the peers, and both have no peers or have the same set of peers. -/
theorem Config.beq_iff (c d : Config) :
    c.beq d = true ↔ { c with peers := none } = { d with peers := none } ∧
      c.peers.map (·.elems.toFinset) = d.peers.map (·.elems.toFinset) := by
  obtain ⟨a1, a2, a3, a4, a5, a6, a7, a8, a9, a10, a11, a12, p, a14⟩ := c
  obtain ⟨b1, b2, b3, b4, b5, b6, b7, b8, b9, b10, b11, b12, q, b14⟩ := d
  cases p <;> cases q <;> simp [Config.beq, HashSet.beq_iff, Finset.ext_iff, and_assoc]
  -- two sets of peers: the derived impl compares them before the acknowledgement count
  intros; exact and_comm

/-! ## `Serialize` -/

/-- `Serialize for SocketAddr` on a human-readable format: its `Display` text. -/
def serializeSocketAddr (a : SocketAddr) : Except SerError Value := serializeStr a.toString

/-- Modelled from the spec: `Serialize for PeerIdentity`, derived: `addr`, then `hostname`. -/
def PeerIdentity.serialize (p : PeerIdentity) : Except SerError Value :=
  serializeStruct [("addr", serializeSocketAddr p.addr), ("hostname", serializeStr p.hostname)]

/-- An `i32` as `serialize_i32` hands it to `serialize_i64`. -/
def I32.toI64 (v : I32) : I64 := ⟨v.1, by have := v.2; omega, by have := v.2; omega⟩

/-- A `u32` or `u16` as `serialize_u32` or `serialize_u16` hands it to `serialize_i64`. -/
def i64OfNat (n : Nat) (h : n < 2 ^ 32) : I64 := ⟨n, by omega, by omega⟩

/-- `Serialize for Config`, derived; `retention` through `humantime_serde::serialize`. -/
def Config.serialize (c : Config) : Except SerError Value :=
  serializeStruct [
    ("ingest_srv_addr", serializeSocketAddr c.ingestSrvAddr),
    ("publish_srv_addr", serializeSocketAddr c.publishSrvAddr),
    ("data_dir", serializeStr c.dataDir),
    ("retention", serializeStr (formatDuration c.retention)),
    ("graphql_srv_addr", serializeSocketAddr c.graphqlSrvAddr),
    ("log_dir", serializeStr c.logDir),
    ("export_dir", serializeStr c.exportDir),
    ("max_open_files", serializeI64 c.maxOpenFiles.toI64),
    ("max_mb_of_level_base", serializeU64 c.maxMbOfLevelBase),
    ("num_of_thread", serializeI64 c.numOfThread.toI64),
    ("max_sub_compactions",
      serializeI64 (i64OfNat c.maxSubCompactions.toNat c.maxSubCompactions.toNat_lt_size)),
    ("addr_to_peers", serializeOption serializeSocketAddr c.addrToPeers),
    ("peers", serializeOption (fun s => serializeSeq (s.elems.map PeerIdentity.serialize)) c.peers),
    ("ack_transmission", serializeI64 (i64OfNat c.ackTransmission.toNat
      (Nat.lt_trans c.ackTransmission.toNat_lt_size (by decide))))]

/-- `toml::to_string` on a `Config`, as the document its text parses to. -/
def Config.toTomlString (c : Config) : Except SerError DocumentMut :=
  c.serialize >>= writeDocument

/-- `Settings::to_toml_string`. -/
def Settings.toTomlString (s : Settings) : Except SerError DocumentMut := s.config.toTomlString

/-! ## `Deserialize` -/

section Deserialize

variable {V E : Type} (D : Deserializer V E)

/-- `addr.parse().map_err(...)` of `deserialize_socket_addr` and `deserialize_peer_addr`: the
message names the text and the parser's error. -/
def parseAddr (addr : String) : Except String SocketAddr :=
  (parseSocketAddr addr).mapError fun e => s!"invalid address \"{addr}\": {e}"

/-- `deserialize_socket_addr`. -/
def deserializeSocketAddr (v : V) : Except E SocketAddr := do
  let addr ← D.str "a string" v
  (parseAddr addr).mapError D.custom

/-- The closure of `deserialize_peer_addr`: the sentinel and the empty text are no address. -/
def peerAddr (addr : String) : Except String (Option SocketAddr) :=
  if addr = defaultInvalidAddrToPeers ∨ addr.isEmpty then .ok none
  else (parseAddr addr).map some

/-- `deserialize_peer_addr`: `Option::<String>::deserialize`, then the closure on the text. -/
def deserializePeerAddr (v : V) : Except E (Option SocketAddr) :=
  if D.isNone v then .ok none
  else do
    let addr ← D.str "a string" v
    (peerAddr addr).mapError D.custom

/-- `humantime_serde::deserialize`: a string, read by `parse_duration`. -/
def deserializeDuration (v : V) : Except E Duration := do
  let s ← D.str "a duration" v
  match parseDuration s with
  | some d => .ok d
  | none => .error (D.custom (invalidValue (.str s) "a duration"))

/-- `Deserialize for PathBuf`. -/
def deserializePathBuf (v : V) : Except E String := D.str "path string" v

/-- `Deserialize for i32`. -/
def deserializeI32 (v : V) : Except E I32 := D.int "i32" (-2147483648) 2147483647 v

/-- `Deserialize for u64`. -/
def deserializeU64 (v : V) : Except E UInt64 :=
  (D.int "u64" 0 18446744073709551615 v).map fun x => UInt64.ofNat x.1.toNat

/-- `Deserialize for u32`. -/
def deserializeU32 (v : V) : Except E UInt32 :=
  (D.int "u32" 0 4294967295 v).map fun x => UInt32.ofNat x.1.toNat

/-- `Deserialize for u16`. -/
def deserializeU16 (v : V) : Except E UInt16 :=
  (D.int "u16" 0 65535 v).map fun x => UInt16.ofNat x.1.toNat

/-- `Deserialize for SocketAddr` on a human-readable format: a string, parsed. -/
def deserializeStdSocketAddr (v : V) : Except E SocketAddr := do
  let s ← D.str "socket address" v
  (parseSocketAddr s).mapError D.custom

/-- The fields the derived `visit_map` of `PeerIdentity` has read so far. -/
structure PeerIdentityFields where
  addr : Option SocketAddr := none
  hostname : Option String := none

/-- One entry of the derived `visit_map` of `PeerIdentity`. -/
def PeerIdentity.visitEntry (acc : PeerIdentityFields) : String × V → Except E PeerIdentityFields
  | ("addr", v) => (D.field "addr" acc.addr (deserializeStdSocketAddr D) v).map
      fun x => { acc with addr := x }
  | ("hostname", v) => (D.field "hostname" acc.hostname (D.str "a string") v).map
      fun x => { acc with hostname := x }
  | _ => .ok acc

/-- Modelled from the spec: `Deserialize for PeerIdentity`, derived. -/
def PeerIdentity.deserialize (v : V) : Except E PeerIdentity := do
  let entries ← D.map "struct PeerIdentity" v
  let acc ← entries.foldlM (PeerIdentity.visitEntry D) {}
  let addr ← D.required "addr" acc.addr
  let hostname ← D.required "hostname" acc.hostname
  pure ⟨addr, hostname⟩

/-- `Deserialize for Option<HashSet<PeerIdentity>>`: the elements inserted in order. -/
def deserializePeers (v : V) : Except E (Option (HashSet PeerIdentity)) :=
  if D.isNone v then .ok none
  else do
    let vs ← D.seq "a sequence" v
    let peers ← vs.mapM (PeerIdentity.deserialize D)
    pure (some (HashSet.ofList peers))

/-- The fields the derived `visit_map` of `Config` has read so far. -/
structure ConfigFields where
  ingestSrvAddr : Option SocketAddr := none
  publishSrvAddr : Option SocketAddr := none
  dataDir : Option String := none
  retention : Option Duration := none
  graphqlSrvAddr : Option SocketAddr := none
  logDir : Option String := none
  exportDir : Option String := none
  maxOpenFiles : Option I32 := none
  maxMbOfLevelBase : Option UInt64 := none
  numOfThread : Option I32 := none
  maxSubCompactions : Option UInt32 := none
  addrToPeers : Option (Option SocketAddr) := none
  peers : Option (Option (HashSet PeerIdentity)) := none
  ackTransmission : Option UInt16 := none

/-- `__Field` of the derived `Deserialize for Config`: the field a key names, or `__ignore`. -/
inductive ConfigField where
  | ingestSrvAddr
  | publishSrvAddr
  | dataDir
  | retention
  | graphqlSrvAddr
  | logDir
  | exportDir
  | maxOpenFiles
  | maxMbOfLevelBase
  | numOfThread
  | maxSubCompactions
  | addrToPeers
  | peers
  | ackTransmission
  | ignore

/-- `__FieldVisitor::visit_str`: the field of a key; any other key is ignored. -/
def ConfigField.ofKey : String → ConfigField
  | "ingest_srv_addr" => .ingestSrvAddr
  | "publish_srv_addr" => .publishSrvAddr
  | "data_dir" => .dataDir
  | "retention" => .retention
  | "graphql_srv_addr" => .graphqlSrvAddr
  | "log_dir" => .logDir
  | "export_dir" => .exportDir
  | "max_open_files" => .maxOpenFiles
  | "max_mb_of_level_base" => .maxMbOfLevelBase
  | "num_of_thread" => .numOfThread
  | "max_sub_compactions" => .maxSubCompactions
  | "addr_to_peers" => .addrToPeers
  | "peers" => .peers
  | "ack_transmission" => .ackTransmission
  | _ => .ignore

/-- The key of a field, as the derived impls name it (`FIELDS`), and the variant's own name for
`__ignore`. -/
def ConfigField.key : ConfigField → String
  | .ingestSrvAddr => "ingest_srv_addr"
  | .publishSrvAddr => "publish_srv_addr"
  | .dataDir => "data_dir"
  | .retention => "retention"
  | .graphqlSrvAddr => "graphql_srv_addr"
  | .logDir => "log_dir"
  | .exportDir => "export_dir"
  | .maxOpenFiles => "max_open_files"
  | .maxMbOfLevelBase => "max_mb_of_level_base"
  | .numOfThread => "num_of_thread"
  | .maxSubCompactions => "max_sub_compactions"
  | .addrToPeers => "addr_to_peers"
  | .peers => "peers"
  | .ackTransmission => "ack_transmission"
  | .ignore => "__ignore"

theorem ConfigField.ofKey_key (f : ConfigField) : ConfigField.ofKey f.key = f := by
  cases f <;> rfl

theorem ConfigField.key_ofKey {k : String} (h : ConfigField.ofKey k ≠ .ignore) :
    (ConfigField.ofKey k).key = k := by
  revert h
  unfold ConfigField.ofKey
  split <;> intro h <;> first | rfl | exact absurd rfl h

/-- Two keys that name the same field are the same key. -/
theorem ConfigField.eq_of_ofKey_eq {k k' : String} (h : ConfigField.ofKey k = ConfigField.ofKey k')
    (hi : ConfigField.ofKey k ≠ .ignore) : k = k' :=
  calc k = (ConfigField.ofKey k).key := (ConfigField.key_ofKey hi).symm
    _ = (ConfigField.ofKey k').key := by rw [h]
    _ = k' := ConfigField.key_ofKey (h ▸ hi)

/-- One entry of the derived `visit_map` of `Config`: the field of its key read, or the entry
ignored. -/
def Config.visitEntry (acc : ConfigFields) (entry : String × V) : Except E ConfigFields :=
  match ConfigField.ofKey entry.1 with
  | .ingestSrvAddr =>
    (D.field "ingest_srv_addr" acc.ingestSrvAddr (deserializeSocketAddr D) entry.2).map
      fun x => { acc with ingestSrvAddr := x }
  | .publishSrvAddr =>
    (D.field "publish_srv_addr" acc.publishSrvAddr (deserializeSocketAddr D) entry.2).map
      fun x => { acc with publishSrvAddr := x }
  | .dataDir => (D.field "data_dir" acc.dataDir (deserializePathBuf D) entry.2).map
      fun x => { acc with dataDir := x }
  | .retention => (D.field "retention" acc.retention (deserializeDuration D) entry.2).map
      fun x => { acc with retention := x }
  | .graphqlSrvAddr =>
    (D.field "graphql_srv_addr" acc.graphqlSrvAddr (deserializeSocketAddr D) entry.2).map
      fun x => { acc with graphqlSrvAddr := x }
  | .logDir => (D.field "log_dir" acc.logDir (deserializePathBuf D) entry.2).map
      fun x => { acc with logDir := x }
  | .exportDir => (D.field "export_dir" acc.exportDir (deserializePathBuf D) entry.2).map
      fun x => { acc with exportDir := x }
  | .maxOpenFiles => (D.field "max_open_files" acc.maxOpenFiles (deserializeI32 D) entry.2).map
      fun x => { acc with maxOpenFiles := x }
  | .maxMbOfLevelBase =>
    (D.field "max_mb_of_level_base" acc.maxMbOfLevelBase (deserializeU64 D) entry.2).map
      fun x => { acc with maxMbOfLevelBase := x }
  | .numOfThread => (D.field "num_of_thread" acc.numOfThread (deserializeI32 D) entry.2).map
      fun x => { acc with numOfThread := x }
  | .maxSubCompactions =>
    (D.field "max_sub_compactions" acc.maxSubCompactions (deserializeU32 D) entry.2).map
      fun x => { acc with maxSubCompactions := x }
  | .addrToPeers => (D.field "addr_to_peers" acc.addrToPeers (deserializePeerAddr D) entry.2).map
      fun x => { acc with addrToPeers := x }
  | .peers => (D.field "peers" acc.peers (deserializePeers D) entry.2).map
      fun x => { acc with peers := x }
  | .ackTransmission =>
    (D.field "ack_transmission" acc.ackTransmission (deserializeU16 D) entry.2).map
      fun x => { acc with ackTransmission := x }
  | .ignore => .ok acc

/-- The end of the derived `visit_map` of `Config`: the required fields in declaration order;
`addr_to_peers` defaults to `None`, and `peers`, an `Option`, is `None` when missing. -/
def Config.ofFields (acc : ConfigFields) : Except E Config := do
  let ingestSrvAddr ← D.required "ingest_srv_addr" acc.ingestSrvAddr
  let publishSrvAddr ← D.required "publish_srv_addr" acc.publishSrvAddr
  let dataDir ← D.required "data_dir" acc.dataDir
  let retention ← D.required "retention" acc.retention
  let graphqlSrvAddr ← D.required "graphql_srv_addr" acc.graphqlSrvAddr
  let logDir ← D.required "log_dir" acc.logDir
  let exportDir ← D.required "export_dir" acc.exportDir
  let maxOpenFiles ← D.required "max_open_files" acc.maxOpenFiles
  let maxMbOfLevelBase ← D.required "max_mb_of_level_base" acc.maxMbOfLevelBase
  let numOfThread ← D.required "num_of_thread" acc.numOfThread
  let maxSubCompactions ← D.required "max_sub_compactions" acc.maxSubCompactions
  let ackTransmission ← D.required "ack_transmission" acc.ackTransmission
  pure ⟨ingestSrvAddr, publishSrvAddr, dataDir, retention, graphqlSrvAddr, logDir, exportDir,
    maxOpenFiles, maxMbOfLevelBase, numOfThread, maxSubCompactions, acc.addrToPeers.getD none,
    acc.peers.getD none, ackTransmission⟩

/-- `Deserialize for Config`, derived. -/
def Config.deserialize (v : V) : Except E Config := do
  let entries ← D.map "struct Config" v
  let acc ← entries.foldlM (Config.visitEntry D) {}
  Config.ofFields D acc

end Deserialize

end Giganto
