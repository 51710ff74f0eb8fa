import Giganto.Settings.Config
import Mathlib.Logic.Function.Basic

/-!
# The configuration resolvers

`StatusQuery::config` and `ping`, and `ConfigMutation`'s `set_config`, `stop`, `reboot` and
`shutdown` of `graphql/status.rs`, over the data the schema holds: whether the configuration is
local, the live `Settings`, the reload channel's `Sender`, and three `Notify`s. A resolver is a
function from the service before the request to the service after it and the reply.

`set_config` does not send the draft itself: it spawns a task that sends it on the reload channel
after a delay, so a run interleaves requests with the wake-ups of those tasks, in any order. The
channel is modelled as always open with room to spare; the task's error when the receiver has
gone (`"Failed to send config"`) only reaches the log.

Over every run: the live settings and the mode never change, no draft is lost or sent twice, a
draft's answer does not depend on what ran before it, and a local service hands out nothing.
The `config` query's value is the `#[Object] impl Config` of the live configuration.
-/

namespace Giganto

/-- `#[Object] impl PeerIdentity`: what the schema resolves for a peer. -/
structure PeerObject where
  addr : String
  hostname : String

/-- `#[Object] impl Config`: what the schema resolves for each field of a configuration; the
`StringNumber`s resolve to the decimal text of their number. -/
structure ConfigObject where
  ingestSrvAddr : String
  publishSrvAddr : String
  graphqlSrvAddr : String
  retention : String
  dataDir : String
  logDir : String
  exportDir : String
  maxOpenFiles : Int
  maxMbOfLevelBase : String
  numOfThread : Int
  maxSubCompactions : String
  addrToPeers : Option String
  peers : Option (List PeerObject)
  ackTransmission : Nat

/-- The getters of `#[Object] impl PeerIdentity`. -/
def PeerIdentity.toObject (p : PeerIdentity) : PeerObject := ⟨p.addr.toString, p.hostname⟩

/-- The getters of `#[Object] impl Config`; a set of peers is listed in its iteration order. -/
def Config.toObject (c : Config) : ConfigObject where
  ingestSrvAddr := c.ingestSrvAddr.toString
  publishSrvAddr := c.publishSrvAddr.toString
  graphqlSrvAddr := c.graphqlSrvAddr.toString
  retention := Humantime.formatDuration c.retention
  dataDir := c.dataDir
  logDir := c.logDir
  exportDir := c.exportDir
  maxOpenFiles := c.maxOpenFiles.1
  maxMbOfLevelBase := toString c.maxMbOfLevelBase.toNat
  numOfThread := c.numOfThread.1
  maxSubCompactions := toString c.maxSubCompactions.toNat
  addrToPeers := c.addrToPeers.map Net.SocketAddr.toString
  peers := c.peers.map fun s => s.elems.map PeerIdentity.toObject
  ackTransmission := c.ackTransmission.toNat

end Giganto

namespace Giganto.Status

open Toml Serde

/-- Modelled from the spec: the error of a resolver's `Result`, `async_graphql::Error`: a
`toml::de::Error` through `?`, or a message. -/
inductive ResolverError where
  | toml (e : DeError)
  | message (msg : String)
deriving DecidableEq

/-- `TerminateNotify`, `RebootNotify` and `PowerOffNotify`. -/
inductive Signal where
  | terminate
  | reboot
  | powerOff
deriving DecidableEq

/-- What the schema holds: `is_local`, the live settings, the drafts of the spawned tasks not
yet sent, the drafts sent on the reload channel in the order sent, and each `Notify`'s permit. -/
structure Service where
  isLocal : Bool
  settings : Settings
  pending : List DocumentMut
  reloads : List DocumentMut
  permits : Signal → Bool

/-- `StatusQuery::config`. -/
def config (svc : Service) : Except ResolverError Config :=
  if svc.isLocal then .error (.message "Config is local") else .ok svc.settings.config

/-- `StatusQuery::ping`. -/
def ping : Except ResolverError Bool := .ok true

/-- `ConfigMutation::set_config`: refused in local mode; otherwise the draft is decoded, compared
with the live configuration, and, if it differs, handed to a new task. -/
def setConfig (svc : Service) (draft : DocumentMut) : Service × Except ResolverError Bool :=
  if svc.isLocal then (svc, .ok false)
  else
    match fromStr Config.deserialize draft with
    | .error e => (svc, .error (.toml e))
    | .ok configDraft =>
      if svc.settings.config.beq configDraft then (svc, .error (.message "No changes"))
      else ({ svc with pending := svc.pending ++ [draft] }, .ok true)

/-- `notify_one` on a `Notify` from a resolver: with no task waiting, the `Notify` keeps one
permit, however often it is notified. -/
def notifyOne (svc : Service) (sig : Signal) : Service × Except ResolverError Bool :=
  ({ svc with permits := Function.update svc.permits sig true }, .ok true)

/-- `ConfigMutation::stop`. -/
def stop (svc : Service) : Service × Except ResolverError Bool := notifyOne svc .terminate

/-- `ConfigMutation::reboot`. -/
def reboot (svc : Service) : Service × Except ResolverError Bool := notifyOne svc .reboot

/-- `ConfigMutation::shutdown`. -/
def shutdown (svc : Service) : Service × Except ResolverError Bool := notifyOne svc .powerOff

/-- The spawned task of `set_config` holding the `i`-th pending draft wakes and sends it. -/
def deliver (svc : Service) (i : Nat) : Service :=
  match svc.pending.drop i with
  | [] => svc
  | d :: rest => { svc with pending := svc.pending.take i ++ rest, reloads := svc.reloads ++ [d] }

/-- What can happen next: a request, or the wake-up of a spawned task. -/
inductive Event where
  | setConfig (draft : DocumentMut)
  | stop
  | reboot
  | shutdown
  | deliver (i : Nat)

/-- The service after an event. -/
def step (svc : Service) : Event → Service
  | .setConfig d => (setConfig svc d).1
  | .stop => (stop svc).1
  | .reboot => (reboot svc).1
  | .shutdown => (shutdown svc).1
  | .deliver i => deliver svc i

/-- The service after a run of events. -/
def run (svc : Service) (events : List Event) : Service := events.foldl step svc

/-- The drafts an event hands to a new task: that of an accepted `set_config`. -/
def accepted (svc : Service) : Event → List DocumentMut
  | .setConfig d =>
    match (setConfig svc d).2 with
    | .ok true => [d]
    | _ => []
  | _ => []

/-- The drafts a run hands to new tasks, in order. -/
def acceptedIn : Service → List Event → List DocumentMut
  | _, [] => []
  | svc, e :: es => accepted svc e ++ acceptedIn (step svc e) es

/-! ## One spec lemma per resolver -/

/-- `set_config` either changes nothing or spawns one task for the draft, and returns `Ok(true)`
exactly when the service is remote and the draft decodes to a configuration other than the live
one. -/
theorem setConfig_cases (svc : Service) (d : DocumentMut) :
    ((setConfig svc d).1 = svc ∧ (setConfig svc d).2 ≠ .ok true) ∨
      (svc.isLocal = false ∧ (∃ c, fromStr Config.deserialize d = .ok c ∧
        svc.settings.config.beq c = false) ∧
        (setConfig svc d).1 = { svc with pending := svc.pending ++ [d] } ∧
        (setConfig svc d).2 = .ok true) := by
  unfold setConfig
  cases hl : svc.isLocal
  · simp only [Bool.false_eq_true, if_false]
    cases hd : fromStr Config.deserialize d with
    | error e => exact .inl ⟨rfl, by simp⟩
    | ok c =>
      cases hb : svc.settings.config.beq c
      · exact .inr ⟨trivial, ⟨c, rfl, hb⟩, by simp [hb], by simp [hb]⟩
      · exact .inl ⟨by simp [hb], by simp [hb]⟩
  · exact .inl ⟨rfl, by simp⟩

theorem deliver_perm (svc : Service) (i : Nat) :
    List.Perm ((deliver svc i).pending ++ (deliver svc i).reloads)
      (svc.pending ++ svc.reloads) := by
  unfold deliver
  have h := List.take_append_drop i svc.pending
  split
  · exact .refl _
  · rename_i d rest hd
    rw [hd] at h
    conv_rhs => rw [← h]
    simp only [List.append_assoc, List.cons_append]
    refine List.Perm.append_left _ ?_
    rw [← List.append_assoc]
    exact List.perm_append_singleton _ _

theorem deliver_settings (svc : Service) (i : Nat) :
    (deliver svc i).settings = svc.settings ∧ (deliver svc i).isLocal = svc.isLocal := by
  unfold deliver
  split <;> exact ⟨rfl, rfl⟩

/-! ## What every run keeps -/

/-- Every draft a task holds or has sent decodes to a configuration other than the live one,
and a local service holds and sends none. -/
structure Service.Inv (svc : Service) : Prop where
  differs : ∀ d ∈ svc.pending ++ svc.reloads,
    ∃ c, fromStr Config.deserialize d = .ok c ∧ svc.settings.config.beq c = false
  local_idle : svc.isLocal = true → svc.pending = [] ∧ svc.reloads = []

theorem step_settings (svc : Service) (e : Event) :
    (step svc e).settings = svc.settings ∧ (step svc e).isLocal = svc.isLocal := by
  cases e with
  | setConfig d =>
    rcases setConfig_cases svc d with ⟨h, -⟩ | ⟨-, -, h, -⟩ <;> simp [step, h]
  | deliver i => exact deliver_settings svc i
  | _ => exact ⟨rfl, rfl⟩

/-- Each event keeps the drafts in flight or sent as they were, plus the one it accepts. -/
theorem step_perm (svc : Service) (e : Event) :
    List.Perm ((step svc e).pending ++ (step svc e).reloads)
      (svc.pending ++ svc.reloads ++ accepted svc e) := by
  cases e with
  | setConfig d =>
    rcases setConfig_cases svc d with ⟨h1, h2⟩ | ⟨-, -, h1, h2⟩
    · simp [step, accepted, h1, h2]
    · simp only [step, accepted, h1, h2, if_true, List.append_assoc]
      exact List.Perm.append_left _ List.perm_append_comm
  | deliver i => simpa [accepted] using deliver_perm svc i
  | _ => simp [step, accepted, stop, reboot, shutdown, notifyOne]

theorem mem_accepted {svc : Service} {e : Event} {d : DocumentMut} (h : d ∈ accepted svc e) :
    e = .setConfig d ∧ svc.isLocal = false ∧
      ∃ c, fromStr Config.deserialize d = .ok c ∧ svc.settings.config.beq c = false := by
  cases e with
  | setConfig d' =>
    revert h
    dsimp only [accepted]
    split
    · rename_i hok
      intro h
      obtain rfl := List.mem_singleton.mp h
      rcases setConfig_cases svc d with ⟨-, h2⟩ | ⟨hl, hc, -, -⟩
      · exact absurd hok h2
      · exact ⟨rfl, hl, hc⟩
    · intro h
      cases h
  | _ => cases h

theorem step_inv {svc : Service} (e : Event) (h : svc.Inv) : (step svc e).Inv := by
  obtain ⟨hs, hl⟩ := step_settings svc e
  have hmem : ∀ d ∈ (step svc e).pending ++ (step svc e).reloads,
      d ∈ svc.pending ++ svc.reloads ∨ d ∈ accepted svc e := fun d hd =>
    List.mem_append.mp ((step_perm svc e).mem_iff.mp hd)
  refine ⟨fun d hd => ?_, fun hloc => ?_⟩
  · rw [hs]
    rcases hmem d hd with hd | hd
    · exact h.differs d hd
    · exact (mem_accepted hd).2.2
  · have hloc' : svc.isLocal = true := hl ▸ hloc
    have hnil : (step svc e).pending ++ (step svc e).reloads = [] := by
      refine List.eq_nil_of_subset_nil fun d hd => ?_
      rcases hmem d hd with hd | hd
      · rwa [(h.local_idle hloc').1, (h.local_idle hloc').2] at hd
      · exact absurd hloc' (by simp [(mem_accepted hd).2.1])
    exact List.append_eq_nil.mp hnil

theorem run_settings (svc : Service) (events : List Event) :
    (run svc events).settings = svc.settings ∧ (run svc events).isLocal = svc.isLocal := by
  induction events generalizing svc with
  | nil => exact ⟨rfl, rfl⟩
  | cons e events ih =>
    obtain ⟨hs, hl⟩ := ih (step svc e)
    obtain ⟨hs', hl'⟩ := step_settings svc e
    exact ⟨hs.trans hs', hl.trans hl'⟩

theorem run_inv (svc : Service) (h : svc.Inv) (events : List Event) : (run svc events).Inv := by
  induction events generalizing svc with
  | nil => exact h
  | cons e events ih => exact ih (step svc e) (step_inv e h)

theorem run_perm (svc : Service) (events : List Event) :
    List.Perm ((run svc events).pending ++ (run svc events).reloads)
      (svc.pending ++ svc.reloads ++ acceptedIn svc events) := by
  induction events generalizing svc with
  | nil => simp [run, acceptedIn]
  | cons e events ih =>
    refine (ih (step svc e)).trans ?_
    simp only [acceptedIn, ← List.append_assoc]
    exact (step_perm svc e).append_right _

theorem setConfig_reply_congr {svc svc' : Service} (hl : svc.isLocal = svc'.isLocal)
    (hs : svc.settings = svc'.settings) (d : DocumentMut) :
    (setConfig svc d).2 = (setConfig svc' d).2 := by
  unfold setConfig
  rw [hl, hs]
  split
  · rfl
  · split
    · rfl
    · split <;> rfl

end Giganto.Status
