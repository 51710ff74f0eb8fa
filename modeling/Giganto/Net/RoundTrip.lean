import Giganto.Net.Spellings

/-!
# Reading back what `Display` writes

`str::parse::<SocketAddr>` reads back every address `to_string` writes, but for the flow
information of an IPv6 address, which `Display` leaves out and the parser sets to `0`
(`parseSocketAddr_toString`). For IPv6 this covers the three forms `Display` chooses from: the
eight groups, the groups around the first longest run of zero groups written `::`, and the
IPv4-mapped `::ffff:a.b.c.d`.
-/

namespace Giganto.Net

/-! ## Where a group ends -/

/-- What may follow a group in a text: the end, or a character that continues neither a hex
group nor an IPv4 address. -/
def GroupEnd : List Char → Prop
  | [] => True
  | c :: _ => toDigit 16 c = none ∧ c ≠ '.'

theorem groupEnd_colon (s : List Char) : GroupEnd (':' :: s) :=
  show toDigit 16 ':' = none ∧ ':' ≠ '.' by decide

theorem groupEnd_percent (s : List Char) : GroupEnd ('%' :: s) :=
  show toDigit 16 '%' = none ∧ '%' ≠ '.' by decide

theorem groupEnd_bracket (s : List Char) : GroupEnd (']' :: s) :=
  show toDigit 16 ']' = none ∧ ']' ≠ '.' by decide

theorem toDigit_sixteen_of_ten {c : Char} {d : Nat} (h : toDigit 10 c = some d) :
    toDigit 16 c = some d := by
  rw [toDigit_ten] at h
  split_ifs at h with h1
  cases h
  simp only [toDigit]
  rw [if_pos (by omega)]

theorem noDigitHead_of_groupEnd {s : List Char} (h : GroupEnd s) : NoDigitHead 16 s := by
  cases s with
  | nil => trivial
  | cons c s => exact h.1

theorem noDigitHead_ten_of_groupEnd {s : List Char} (h : GroupEnd s) : NoDigitHead 10 s := by
  cases s with
  | nil => trivial
  | cons c s =>
    show toDigit 10 c = none
    cases hc : toDigit 10 c with
    | none => rfl
    | some d => exact absurd (toDigit_sixteen_of_ten hc) (by rw [h.1]; simp)

/-- Before a character that is not a digit, `read_number` reads nothing. -/
theorem readNumber_noDigitHead (hr : 0 < radix) {maxDigits : Option Nat} {azp : Bool}
    {bits : Nat} {s : List Char} (h : NoDigitHead radix s) :
    readNumber radix maxDigits azp bits s = none := by
  have := @readNumber_append radix hr maxDigits azp bits [] s (by simp) h
  simpa [acceptsDigits] using this

theorem readIpv4Addr_noDigitHead {s : List Char} (h : NoDigitHead 10 s) :
    readIpv4Addr s = none := by
  simp [readIpv4Addr, readSeparator_zero, readOctet, readNumber_noDigitHead (by omega) h]

theorem readHexGroup_noDigitHead {s : List Char} (h : NoDigitHead 16 s) :
    readHexGroup s = none :=
  readNumber_noDigitHead (by omega) h

theorem readSeparator_pos_cons {α : Type} {sep : Char} {i : Nat} (hi : 0 < i)
    (inner : List Char → Option (α × List Char)) (s : List Char) :
    readSeparator sep i inner (sep :: s) = inner s := by
  simp [readSeparator, readGivenChar, hi]

theorem readSeparator_pos_of_ne {α : Type} {sep : Char} {i : Nat} (hi : 0 < i)
    (inner : List Char → Option (α × List Char)) {s : List Char} (hs : s.head? ≠ some sep) :
    readSeparator sep i inner s = none := by
  cases s with
  | nil => simp [readSeparator, readGivenChar, hi]
  | cons c s =>
    have hc : c ≠ sep := fun h => hs (by rw [h]; rfl)
    simp [readSeparator, readGivenChar, hi, hc]

/-! ## Hex groups -/

theorem hex_length {n : Nat} (h : n < 65536) : (hex n).length ≤ 4 :=
  Nat.toDigitsCore_length 16 (by omega) _ _ 4 h (by omega)

theorem hex_digits (n : Nat) : ∀ c ∈ hex n, toDigit 16 c ≠ none :=
  toDigits_digits (by omega) (by omega) n

/-- A group reads back. -/
theorem readHexGroup_hex (g : UInt16) {rest : List Char} (hrest : GroupEnd rest) :
    readHexGroup (hex g.toNat ++ rest) = some (g.toNat, rest) :=
  readNumber_toDigits (by omega) (by omega) g.toNat_lt_size
    (fun _ hm => by cases hm; exact hex_length g.toNat_lt_size) (noDigitHead_of_groupEnd hrest)

/-- No IPv4 address starts with a group: its first octet would need a `.` where the group
ends. -/
theorem readIpv4Addr_hex (n : Nat) {rest : List Char} (hrest : GroupEnd rest) :
    readIpv4Addr (hex n ++ rest) = none := by
  cases h : readIpv4Addr (hex n ++ rest) with
  | none => rfl
  | some r =>
    obtain ⟨ip, r⟩ := r
    obtain ⟨hs, -⟩ := readIpv4Addr_eq_some.mp h
    simp only [Ipv4Addr.display, List.append_assoc, List.cons_append] at hs
    exfalso
    rcases List.append_eq_append_iff.mp hs with ⟨a', hd, hr⟩ | ⟨c', hh, hd⟩
    · rcases a' with _ | ⟨x, a'⟩
      · subst hr
        exact hrest.2 rfl
      · subst hr
        have hx := decimal_digits ip.a.toNat x (by rw [hd]; simp)
        obtain ⟨d, hd'⟩ := Option.ne_none_iff_exists'.mp hx
        exact absurd (toDigit_sixteen_of_ten hd') (by rw [hrest.1]; simp)
    · rcases c' with _ | ⟨x, c'⟩
      · simp only [List.nil_append] at hd
        subst hd
        exact hrest.2 rfl
      · simp only [List.cons_append, List.cons.injEq] at hd
        obtain ⟨rfl, -⟩ := hd
        exact hex_digits n '.' (by rw [hh]; simp) (by decide)

/-! ## `read_groups` over written groups -/

/-- A text at which `read_groups` stops, whatever the slot. -/
def StopsGroups (s : List Char) : Prop :=
  ∀ i, readSeparator ':' i readIpv4Addr s = none ∧ readSeparator ':' i readHexGroup s = none

/-- `read_groups` stops before `::`. -/
theorem stopsGroups_colons (t : List Char) : StopsGroups (':' :: ':' :: t) := by
  have h4 : ∀ s, readIpv4Addr (':' :: s) = none := fun s =>
    readIpv4Addr_noDigitHead (noDigitHead_colon s)
  have hg : ∀ s, readHexGroup (':' :: s) = none := fun s =>
    readHexGroup_noDigitHead (show toDigit 16 ':' = none by decide)
  intro i
  rcases Nat.eq_zero_or_pos i with rfl | hi
  · exact ⟨h4 (':' :: t), hg (':' :: t)⟩
  · rw [readSeparator_pos_cons hi, readSeparator_pos_cons hi]
    exact ⟨h4 t, hg t⟩

/-- `read_groups` stops at the end of the address, before `%`, `]` or the end of the text. -/
theorem stopsGroups_of_groupEnd {s : List Char} (hs : GroupEnd s) (hc : s.head? ≠ some ':') :
    StopsGroups s := by
  intro i
  rcases Nat.eq_zero_or_pos i with rfl | hi
  · exact ⟨readIpv4Addr_noDigitHead (noDigitHead_ten_of_groupEnd hs),
      readHexGroup_noDigitHead (noDigitHead_of_groupEnd hs)⟩
  · exact ⟨readSeparator_pos_of_ne hi _ hc, readSeparator_pos_of_ne hi _ hc⟩

theorem readGroups_stop (limit i remaining : Nat) {s : List Char} (hs : StopsGroups s) :
    readGroups limit i remaining s = ([], false, s) := by
  cases remaining with
  | zero => rfl
  | succ r => simp only [readGroups, (hs i).1, (hs i).2, ite_self]

theorem groupEnd_flatMap_append (gs : List UInt16) {rest : List Char} (hrest : GroupEnd rest) :
    GroupEnd (gs.flatMap (fun g => ':' :: hex g.toNat) ++ rest) := by
  cases gs with
  | nil => exact hrest
  | cons g gs => exact groupEnd_colon _

/-- After the first group, each `:g` takes one slot. -/
theorem readGroups_tail (limit : Nat) (gs : List UInt16) {rest : List Char}
    (hrest : GroupEnd rest) :
    ∀ i remaining, 0 < i → gs.length ≤ remaining →
      readGroups limit i remaining (gs.flatMap (fun g => ':' :: hex g.toNat) ++ rest) =
        ((gs.map UInt16.toNat ++
            (readGroups limit (i + gs.length) (remaining - gs.length) rest).1),
          (readGroups limit (i + gs.length) (remaining - gs.length) rest).2) := by
  induction gs with
  | nil => intro i remaining _ _; rfl
  | cons g gs ih =>
    intro i remaining hi hlen
    obtain ⟨r, rfl⟩ : ∃ r, remaining = r + 1 := ⟨remaining - 1, by simp at hlen; omega⟩
    have hX := groupEnd_flatMap_append gs hrest
    simp only [List.flatMap_cons, List.cons_append, List.append_assoc, readGroups,
      readSeparator_pos_cons hi, readIpv4Addr_hex _ hX, ite_self, readHexGroup_hex g hX]
    rw [ih (i + 1) r (by omega) (by simp at hlen; omega)]
    simp only [List.length_cons, List.map_cons, List.cons_append, Nat.add_sub_add_right,
      Nat.add_assoc, Nat.add_comm 1]

/-- `read_groups` reads the groups `fmt_subslice` writes, up to a text where it stops. -/
theorem readGroups_fmtSubslice (limit remaining : Nat) (segs : List UInt16)
    (hlen : segs.length ≤ remaining) {rest : List Char} (hrest : GroupEnd rest)
    (hstop : StopsGroups rest) :
    readGroups limit 0 remaining (fmtSubslice segs ++ rest) =
      (segs.map UInt16.toNat, false, rest) := by
  cases segs with
  | nil => exact readGroups_stop limit 0 remaining hstop
  | cons g gs =>
    obtain ⟨r, rfl⟩ : ∃ r, remaining = r + 1 := ⟨remaining - 1, by simp at hlen; omega⟩
    have hX := groupEnd_flatMap_append gs hrest
    simp only [fmtSubslice, List.append_assoc, readGroups, readSeparator_zero,
      readIpv4Addr_hex _ hX, ite_self, readHexGroup_hex g hX]
    rw [readGroups_tail limit gs hrest 1 r (by omega) (by simp at hlen; omega),
      readGroups_stop _ _ _ hstop]
    simp

/-! ## The run of zeros `Display` writes as `::` -/

/-- A run `(start, len)` of zero segments within `segs`. -/
def ZeroRun (segs : List UInt16) (run : Nat × Nat) : Prop :=
  run.1 + run.2 ≤ segs.length ∧ ∀ k, run.1 ≤ k → k < run.1 + run.2 → segs[k]? = some 0

/-- The search after a prefix of the segments: both runs are zero runs, and the current one
ends at the end of the prefix unless it is empty. -/
def SpanInv (segs : List UInt16) (spans : (Nat × Nat) × (Nat × Nat)) : Prop :=
  ZeroRun segs spans.1 ∧ ZeroRun segs spans.2 ∧
    (spans.2.2 = 0 ∨ spans.2.1 + spans.2.2 = segs.length)

theorem zeroRun_append {segs : List UInt16} {run : Nat × Nat} (h : ZeroRun segs run)
    (x : UInt16) : ZeroRun (segs ++ [x]) run := by
  obtain ⟨hlen, hzero⟩ := h
  refine ⟨by simp only [List.length_append, List.length_singleton]; omega, fun k h1 h2 => ?_⟩
  rw [List.getElem?_append_left (by omega)]
  exact hzero k h1 h2

/-- One step of the search keeps its invariant. -/
theorem spanInv_step {segs : List UInt16} {spans : (Nat × Nat) × (Nat × Nat)}
    (h : SpanInv segs spans) (x : UInt16) :
    SpanInv (segs ++ [x]) (zeroSpanStep spans (segs.length, x)) := by
  obtain ⟨⟨ls, ll⟩, ⟨cs, cl⟩⟩ := spans
  obtain ⟨hl, ⟨hclen, hczero⟩, hend⟩ := h
  dsimp only at hclen hczero hend
  by_cases hx : x = 0
  · subst hx
    have hstart : (if cl = 0 then segs.length else cs) + (cl + 1) = segs.length + 1 := by
      split_ifs <;> omega
    have hcur : ZeroRun (segs ++ [0]) (if cl = 0 then segs.length else cs, cl + 1) := by
      refine ⟨by simp only [List.length_append, List.length_singleton]; omega, fun k h1 h2 => ?_⟩
      dsimp only at h1 h2
      by_cases hk : k < segs.length
      · rw [List.getElem?_append_left hk]
        split_ifs at h1 with h0
        · omega
        · exact hczero k h1 (by omega)
      · obtain rfl : k = segs.length := by omega
        exact List.getElem?_concat_length segs 0
    unfold SpanInv zeroSpanStep
    dsimp only at hl ⊢
    rw [if_pos rfl]
    dsimp only
    generalize (if cl = 0 then segs.length else cs) = cs' at hstart hcur ⊢
    refine ⟨?_, hcur, Or.inr (by simp only [List.length_append, List.length_singleton]; omega)⟩
    split_ifs
    · exact hcur
    · exact zeroRun_append hl 0
  · unfold SpanInv zeroSpanStep
    dsimp only
    rw [if_neg hx]
    exact ⟨zeroRun_append hl x, ⟨by simp, fun k _ h2 => by simp at h2⟩, Or.inl rfl⟩

/-- The run `Display` finds is a run of zeros. -/
theorem zeroRun_longestZeroSpan (segs : List UInt16) : ZeroRun segs (longestZeroSpan segs) := by
  suffices SpanInv segs (segs.enum.foldl zeroSpanStep ((0, 0), (0, 0))) from this.1
  induction segs using List.reverseRecOn with
  | nil => exact ⟨⟨by simp, fun k _ h2 => by simp at h2⟩, ⟨by simp, fun k _ h2 => by simp at h2⟩,
      Or.inl rfl⟩
  | append_singleton segs x ih =>
    rw [List.enum_append, List.enumFrom_singleton, List.foldl_append, List.foldl_cons,
      List.foldl_nil]
    exact spanInv_step ih x

/-- The segments are those before a run of zeros, the zeros, and those after it. -/
theorem splice_zeroRun {segs : List UInt16} {start len : Nat} (h : ZeroRun segs (start, len)) :
    segs.take start ++ List.replicate len 0 ++ segs.drop (start + len) = segs := by
  obtain ⟨hlen, hzero⟩ := h
  simp only at hlen hzero
  have hz : (segs.drop start).take len = List.replicate len 0 := by
    rw [List.eq_replicate_iff]
    refine ⟨by simp only [List.length_take, List.length_drop]; omega, fun b hb => ?_⟩
    obtain ⟨k, hk⟩ := List.mem_iff_getElem?.mp hb
    rw [List.getElem?_take] at hk
    split_ifs at hk with hkl
    rw [List.getElem?_drop, hzero (start + k) (by omega) (by omega)] at hk
    exact (Option.some.inj hk).symm
  conv_rhs => rw [← List.take_append_drop start segs,
    ← List.take_append_drop len (segs.drop start)]
  rw [hz, List.drop_drop, List.append_assoc]

/-! ## IPv6 addresses -/

theorem ofGroups_toNat (ip : Ipv6Addr) : Ipv6Addr.ofGroups (ip.segments.map UInt16.toNat) = ip := by
  obtain ⟨segs, hlen⟩ := ip
  have hid : (UInt16.ofNat ∘ UInt16.toNat) = id := funext uint16_ofNat_toNat
  simp only [Ipv6Addr.ofGroups, List.map_map, hid, List.map_id, List.take_left' hlen]

/-- The segments of an IPv4-mapped address. -/
theorem toIpv4Mapped_eq_some {ip : Ipv6Addr} {v4 : Ipv4Addr} (h : ip.toIpv4Mapped = some v4) :
    ip.segments = [0, 0, 0, 0, 0, 0xffff, UInt16.ofNat (v4.a.toNat * 256 + v4.b.toNat),
      UInt16.ofNat (v4.c.toNat * 256 + v4.d.toNat)] := by
  unfold Ipv6Addr.toIpv4Mapped at h
  split at h
  · rename_i s0 s1 s2 s3 s4 s5 ab cd hsegs
    split_ifs at h with hc
    cases h
    obtain ⟨rfl, rfl, rfl, rfl, rfl, rfl⟩ := hc
    have hab : ab.toNat < 65536 := ab.toNat_lt_size
    have hcd : cd.toNat < 65536 := cd.toNat_lt_size
    rw [hsegs, UInt8.toNat_ofNat_of_lt (show ab.toNat / 256 < 256 by omega),
      UInt8.toNat_ofNat_of_lt (show ab.toNat % 256 < 256 by omega),
      UInt8.toNat_ofNat_of_lt (show cd.toNat / 256 < 256 by omega),
      UInt8.toNat_ofNat_of_lt (show cd.toNat % 256 < 256 by omega),
      Nat.div_add_mod', Nat.div_add_mod', uint16_ofNat_toNat, uint16_ofNat_toNat]
  · cases h

/-- `read_ipv6_addr` when `read_groups` fills all eight slots. -/
theorem readIpv6Addr_full {s rest : List Char} {head : List Nat} {flag : Bool}
    (h : readGroups 8 0 8 s = (head, flag, rest)) (hlen : head.length = 8) :
    readIpv6Addr s = some (Ipv6Addr.ofGroups head, rest) := by
  simp [readIpv6Addr, h, hlen]

/-- `read_ipv6_addr` when the groups stop before `::`: the groups after it fill the slots from
the end. -/
theorem readIpv6Addr_compressed {s rest t : List Char} {head tail : List Nat} {flag : Bool}
    (h : readGroups 8 0 8 s = (head, false, ':' :: ':' :: t)) (hlen : head.length ≠ 8)
    (ht : readGroups (8 - (head.length + 1)) 0 (8 - (head.length + 1)) t = (tail, flag, rest)) :
    readIpv6Addr s =
      some (Ipv6Addr.ofGroups (head ++ List.replicate (8 - head.length - tail.length) 0 ++ tail),
        rest) := by
  have ht' : readGroups (7 - head.length) 0 (7 - head.length) t = (tail, flag, rest) := by
    rw [show 7 - head.length = 8 - (head.length + 1) by omega]
    exact ht
  simp [readIpv6Addr, h, hlen, ht', readGivenChar]

/-- A slot of `read_groups` that reads an IPv4 address: the last two groups. -/
theorem readGroups_ipv4 {limit i r : Nat} (hi : i < limit - 1) {s rest : List Char}
    {v4 : Ipv4Addr} (h : readSeparator ':' i readIpv4Addr s = some (v4, rest)) :
    readGroups limit i (r + 1) s =
      ([v4.a.toNat * 256 + v4.b.toNat, v4.c.toNat * 256 + v4.d.toNat], true, rest) := by
  rw [readGroups.eq_2]
  simp only [if_pos hi, h]

/-- A slot of `read_groups` that reads a group. -/
theorem readGroups_group {limit i r : Nat} {s rest : List Char} {g : Nat}
    (h4 : (if i < limit - 1 then readSeparator ':' i readIpv4Addr s else none) = none)
    (h : readSeparator ':' i readHexGroup s = some (g, rest)) :
    readGroups limit i (r + 1) s =
      (g :: (readGroups limit (i + 1) r rest).1, (readGroups limit (i + 1) r rest).2) := by
  rw [readGroups.eq_2]
  simp only [h4, h]

/-- After `::ffff:`, `read_groups` reads `ffff` and then the IPv4 address as two groups. -/
theorem readGroups_mapped (v4 : Ipv4Addr) {rest : List Char} (hrest : NoDigitHead 10 rest) :
    readGroups 7 0 7 ("ffff:".toList ++ v4.display ++ rest) =
      ([0xffff, v4.a.toNat * 256 + v4.b.toNat, v4.c.toNat * 256 + v4.d.toNat], true, rest) := by
  have htext : "ffff:".toList ++ v4.display ++ rest =
      hex (0xffff : UInt16).toNat ++ ':' :: (v4.display ++ rest) := rfl
  have hv4 : readSeparator ':' 1 readIpv4Addr (':' :: (v4.display ++ rest)) = some (v4, rest) := by
    rw [readSeparator_pos_cons Nat.one_pos]
    exact readIpv4Addr_eq_some.mpr ⟨rfl, hrest⟩
  rw [htext,
    readGroups_group (by rw [if_pos (by decide)]; exact readIpv4Addr_hex _ (groupEnd_colon _))
    (by rw [readSeparator_zero]; exact readHexGroup_hex _ (groupEnd_colon _)),
    readGroups_ipv4 (by decide) hv4]
  rfl

/-- `read_ipv6_addr` reads back what `Display for Ipv6Addr` writes, in each of its three
forms, up to `%`, `]` or the end of the text. -/
theorem readIpv6Addr_display (ip : Ipv6Addr) {rest : List Char} (hrest : GroupEnd rest)
    (hc : rest.head? ≠ some ':') : readIpv6Addr (ip.display ++ rest) = some (ip, rest) := by
  have hstop := stopsGroups_of_groupEnd hrest hc
  unfold Ipv6Addr.display
  split
  · -- `::ffff:a.b.c.d`
    rename_i v4 hv4
    have htext : "::ffff:".toList ++ v4.display ++ rest =
        ':' :: ':' :: ("ffff:".toList ++ v4.display ++ rest) := rfl
    rw [htext, readIpv6Addr_compressed (readGroups_stop 8 0 8 (stopsGroups_colons _))
      (by simp) (readGroups_mapped v4 (noDigitHead_ten_of_groupEnd hrest))]
    obtain ⟨segs, hlen⟩ := ip
    have hsegs := toIpv4Mapped_eq_some hv4
    simp only at hsegs
    subst hsegs
    rfl
  · have hz := zeroRun_longestZeroSpan ip.segments
    rcases hspan : longestZeroSpan ip.segments with ⟨start, len⟩
    rw [hspan] at hz
    have hlen8 := ip.length_eq
    dsimp only
    split_ifs with hlen
    · -- the groups around `::`
      have hrun : start + len ≤ ip.segments.length := hz.1
      have htext : fmtSubslice (ip.segments.take start) ++ "::".toList ++
          fmtSubslice (ip.segments.drop (start + len)) ++ rest =
          fmtSubslice (ip.segments.take start) ++
            ':' :: ':' :: (fmtSubslice (ip.segments.drop (start + len)) ++ rest) := by
        simp
      rw [htext, readIpv6Addr_compressed
        (readGroups_fmtSubslice 8 8 _ (by simp [hlen8]) (groupEnd_colon _) (stopsGroups_colons _))
        (by simp; omega)
        (readGroups_fmtSubslice _ _ _ (by simp; omega) hrest hstop)]
      have hcount : 8 - (List.map UInt16.toNat (List.take start ip.segments)).length -
          (List.map UInt16.toNat (List.drop (start + len) ip.segments)).length = len := by
        simp; omega
      rw [hcount, show List.replicate len 0 = (List.replicate len (0 : UInt16)).map UInt16.toNat
        by simp, ← List.map_append, ← List.map_append, splice_zeroRun hz, ofGroups_toNat]
    · -- the eight groups
      rw [readIpv6Addr_full (readGroups_fmtSubslice 8 8 _ (by omega) hrest hstop) (by simp [hlen8]),
        ofGroups_toNat]

/-! ## Socket addresses -/

/-- `read_scope_id`, or the scope `0` when there is none, on what `Display` writes after the
address. -/
theorem readScopeId_display (scopeId : UInt32) (t : List Char) :
    (readScopeId ((if scopeId = 0 then [] else '%' :: decimal scopeId.toNat) ++ ']' :: t)).getD
      (0, (if scopeId = 0 then [] else '%' :: decimal scopeId.toNat) ++ ']' :: t) =
      (scopeId, ']' :: t) := by
  split_ifs with h0
  · simp [readScopeId, readGivenChar, h0]
  · have hn : readNumber 10 none true 32 (decimal scopeId.toNat ++ ']' :: t) =
        some (scopeId.toNat, ']' :: t) :=
      readNumber_toDigits (by omega) (by omega) scopeId.toNat_lt_size (by simp)
        (show toDigit 10 ']' = none by decide)
    simp [readScopeId, readGivenChar, hn, uint32_ofNat_toNat]

/-- `read_socket_addr_v6` reads back what `Display for SocketAddrV6` writes, with the flow
information `0`. -/
theorem readSocketAddrV6_display (a : SocketAddrV6) :
    readSocketAddrV6 a.display = some ({ a with flowinfo := 0 }, []) := by
  have hrest : GroupEnd ((if a.scopeId = 0 then [] else '%' :: decimal a.scopeId.toNat) ++
      ']' :: ':' :: decimal a.port.toNat) := by
    split_ifs
    · exact groupEnd_bracket _
    · exact groupEnd_percent _
  have hc : ((if a.scopeId = 0 then [] else '%' :: decimal a.scopeId.toNat) ++
      ']' :: ':' :: decimal a.port.toNat).head? ≠ some ':' := by
    split_ifs <;> simp
  have hport : readPort (':' :: decimal a.port.toNat) = some (a.port, []) :=
    readPort_eq_some.mpr ⟨0, by simp, trivial⟩
  have htext : a.display = '[' :: (a.ip.display ++
      ((if a.scopeId = 0 then [] else '%' :: decimal a.scopeId.toNat) ++
        ']' :: ':' :: decimal a.port.toNat)) := by
    simp [SocketAddrV6.display]
  rw [htext]
  simp only [readSocketAddrV6, readGivenChar, if_true, Option.bind_eq_bind, Option.some_bind,
    readIpv6Addr_display a.ip hrest hc, readScopeId_display, hport]
  rfl

/-- Every address `read_socket_addr_v6` returns has the flow information `0`. -/
theorem readSocketAddrV6_flowinfo {s rest : List Char} {a : SocketAddrV6}
    (h : readSocketAddrV6 s = some (a, rest)) : a.flowinfo = 0 := by
  simp only [readSocketAddrV6, Option.bind_eq_bind, Option.bind_eq_some, Option.pure_def,
    Option.some.injEq] at h
  obtain ⟨_, -, _, -, _, -, _, -, h⟩ := h
  rw [← (Prod.mk.inj h).1]

/-- The flow information of an address: `SocketAddrV6::flowinfo`, and `0` for IPv4. -/
def SocketAddr.flowinfo : SocketAddr → UInt32
  | .v4 _ => 0
  | .v6 a => a.flowinfo

theorem readSocketAddrV4_bracket (t : List Char) : readSocketAddrV4 ('[' :: t) = none := by
  have h : readIpv4Addr ('[' :: t) = none :=
    readIpv4Addr_noDigitHead (show toDigit 10 '[' = none by decide)
  simp [readSocketAddrV4, h]

/-- `parse::<SocketAddr>` reads back what `to_string` writes, but for the flow information of
an IPv6 address, which reads back as `0`. -/
theorem parseSocketAddr_toString (a : SocketAddr) (h : a.flowinfo = 0) :
    parseSocketAddr a.toString = .ok a := by
  cases a with
  | v4 a =>
    exact (parseSocketAddr_v4_iff _ a).mpr ⟨0, by simp [SocketAddr.toString, SocketAddr.display,
      SocketAddrV4.display]⟩
  | v6 a =>
    have hv6 := readSocketAddrV6_display a
    rw [show { a with flowinfo := 0 } = a from by rw [← show a.flowinfo = 0 from h]] at hv6
    have hv4 : readSocketAddrV4 a.display = none := readSocketAddrV4_bracket a.display.tail
    have hr : readSocketAddr a.display = some (.v6 a, []) := by
      simp [readSocketAddr, hv4, hv6]
    simp [parseSocketAddr, SocketAddr.toString, SocketAddr.display, hr]

/-- Two addresses with the flow information `0` are written alike only when they are equal. -/
theorem SocketAddr.eq_of_toString_eq {a b : SocketAddr} (ha : a.flowinfo = 0)
    (hb : b.flowinfo = 0) (h : a.toString = b.toString) : a = b := by
  have hread := parseSocketAddr_toString a ha
  rw [h, parseSocketAddr_toString b hb] at hread
  cases hread
  rfl

/-- Every address the parser returns has the flow information `0`. -/
theorem parseSocketAddr_flowinfo {s : String} {a : SocketAddr} (h : parseSocketAddr s = .ok a) :
    a.flowinfo = 0 := by
  unfold parseSocketAddr readSocketAddr at h
  split at h
  · rename_i a' h'
    cases h
    split at h'
    · cases h'
      rfl
    · obtain ⟨⟨b, r⟩, hb, heq⟩ := Option.map_eq_some'.mp h'
      cases heq
      exact readSocketAddrV6_flowinfo hb
  · cases h

/-- Parse, write, parse: an address the parser returns is written as a text that parses back to
it, whatever spelling it was read from. -/
theorem parseSocketAddr_reparse {s : String} {a : SocketAddr} (h : parseSocketAddr s = .ok a) :
    parseSocketAddr a.toString = .ok a :=
  parseSocketAddr_toString a (parseSocketAddr_flowinfo h)

/-- The loopback address spelled with explicit zero groups and a zero before the port. -/
theorem parseSocketAddr_reparse_loopback :
    parseSocketAddr "[0:0::1]:08442" = .ok (.v6 ⟨⟨[0, 0, 0, 0, 0, 0, 0, 1], rfl⟩, 8442, 0, 0⟩) ∧
      parseSocketAddr (SocketAddr.v6 ⟨⟨[0, 0, 0, 0, 0, 0, 0, 1], rfl⟩, 8442, 0, 0⟩).toString =
        .ok (.v6 ⟨⟨[0, 0, 0, 0, 0, 0, 0, 1], rfl⟩, 8442, 0, 0⟩) :=
  have h : parseSocketAddr "[0:0::1]:08442" =
      .ok (.v6 ⟨⟨[0, 0, 0, 0, 0, 0, 0, 1], rfl⟩, 8442, 0, 0⟩) := rfl
  ⟨h, parseSocketAddr_reparse h⟩

end Giganto.Net
