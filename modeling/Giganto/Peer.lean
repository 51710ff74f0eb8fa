import Giganto.Net.Display

/-!
# Peer identities

`crate::peer::PeerIdentity`, which `Config.peers` holds and `TomlPeers` writes into the
configuration document. Its module is not part of these sources.
-/

namespace Giganto

open Net

/-- Modelled from the spec: `PeerIdentity` of `crate::peer`, "hostname + network address",
serialized field by field (`addr`, then `hostname`) with serde's derived impls. -/
structure PeerIdentity where
  addr : SocketAddr
  hostname : String
deriving DecidableEq, Repr

/-- `HashSet`: the elements in iteration order, each once. -/
structure HashSet (α : Type) where
  elems : List α
  nodup : elems.Nodup

namespace HashSet

variable {α : Type} [DecidableEq α]

/-- `HashSet::insert`: an element already present is kept where it is. -/
def insert (s : HashSet α) (a : α) : HashSet α :=
  if h : a ∈ s.elems then s else ⟨s.elems ++ [a], List.nodup_append.mpr ⟨s.nodup,
    List.nodup_singleton a, by simpa using h⟩⟩

/-- `HashSet::from_iter`: the elements inserted in order. -/
def ofList (l : List α) : HashSet α := l.foldl insert ⟨[], List.nodup_nil⟩

/-- `PartialEq for HashSet`: the same length, and every element of one in the other. -/
def beq (s t : HashSet α) : Bool := s.elems.length == t.elems.length && s.elems.all (· ∈ t.elems)

/-- Two sets are `==` exactly when they have the same elements. -/
theorem beq_iff (s t : HashSet α) : s.beq t = true ↔ ∀ a, a ∈ s.elems ↔ a ∈ t.elems := by
  simp only [beq, Bool.and_eq_true, beq_iff_eq, List.all_eq_true, decide_eq_true_eq]
  constructor
  · rintro ⟨hl, hs⟩
    have hsub : s.elems ⊆ t.elems := hs
    have hperm := (List.subperm_of_subset s.nodup hsub).perm_of_length_le (by omega)
    exact fun a => hperm.mem_iff
  · intro h
    refine ⟨?_, fun a ha => (h a).mp ha⟩
    exact List.Perm.length_eq ((List.perm_ext_iff_of_nodup s.nodup t.nodup).mpr h)

theorem mem_insert (s : HashSet α) (a b : α) : b ∈ (s.insert a).elems ↔ b = a ∨ b ∈ s.elems := by
  unfold insert
  split_ifs with h
  · constructor
    · exact Or.inr
    · rintro (rfl | hb)
      · exact h
      · exact hb
  · simp [or_comm]

theorem mem_ofList (l : List α) (b : α) : b ∈ (ofList l).elems ↔ b ∈ l := by
  suffices ∀ s : HashSet α, b ∈ (l.foldl insert s).elems ↔ b ∈ l ∨ b ∈ s.elems by
    simpa using this ⟨[], List.nodup_nil⟩
  induction l with
  | nil => simp
  | cons a l ih =>
    intro s
    simp only [List.foldl_cons, ih, mem_insert, List.mem_cons]
    tauto

/-- Inserting the elements of a set in order rebuilds it. -/
theorem ofList_elems (s : HashSet α) : ofList s.elems = s := by
  suffices ∀ (l : List α) (t : HashSet α) (h : (t.elems ++ l).Nodup),
      l.foldl insert t = ⟨t.elems ++ l, h⟩ by
    obtain ⟨l, hl⟩ := s
    simpa [ofList] using this l ⟨[], List.nodup_nil⟩ (by simpa using hl)
  intro l
  induction l with
  | nil => intro t _; simp
  | cons a l ih =>
    intro t hnd
    have ha : a ∉ t.elems := by
      intro h
      exact (List.nodup_append.mp hnd).2.2 h (List.mem_cons_self a l)
    have : t.insert a = ⟨t.elems ++ [a], List.nodup_append.mpr ⟨t.nodup,
        List.nodup_singleton a, by simpa using ha⟩⟩ := by
      simp [insert, ha]
    rw [List.foldl_cons, this, ih _ (by simpa using hnd)]
    simp

end HashSet

end Giganto
