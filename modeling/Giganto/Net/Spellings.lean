import Giganto.Net.Display

/-!
# The spellings of an IPv4 socket address

An octet has one spelling, its decimal digits, since `read_ipv4_addr` refuses leading zeros;
a port is read with `allow_zero_prefix`, so any number of zeros may stand before its digits.
`parseSocketAddr_v4_iff` says exactly which texts parse to a given IPv4 socket address.
-/

namespace Giganto.Net

theorem toDigit_ten (c : Char) :
    toDigit 10 c = if 48 ≤ c.toNat ∧ c.toNat < 58 then some (c.toNat - 48) else none := by
  simp only [toDigit]
  split_ifs <;> first | rfl | omega

theorem digitChar_eq_ofNat_all : ∀ d < 10, Nat.digitChar d = Char.ofNat (48 + d) := by decide

theorem lt_ten_of_toDigit {c : Char} {d : Nat} (h : toDigit 10 c = some d) : d < 10 := by
  rw [toDigit_ten] at h
  split_ifs at h with h1
  cases h
  omega

theorem eq_digitChar_of_toDigit {c : Char} {d : Nat} (h : toDigit 10 c = some d) :
    c = Nat.digitChar d := by
  have hd := lt_ten_of_toDigit h
  rw [toDigit_ten] at h
  split_ifs at h with h1
  cases h
  rw [digitChar_eq_ofNat_all _ hd, show 48 + (c.toNat - 48) = c.toNat by omega,
    Char.ofNat_toNat]

theorem digitsValue_append_single (ds : List Char) {c : Char} {d : Nat}
    (h : toDigit 10 c = some d) : digitsValue 10 (ds ++ [c]) = digitsValue 10 ds * 10 + d := by
  simp [digitsValue, pushDigit, h]

theorem digitsValue_pos {c : Char} {ds : List Char} (hd : toDigit 10 c ≠ none) (h0 : c ≠ '0') :
    0 < digitsValue 10 (c :: ds) := by
  obtain ⟨d, hcd⟩ := Option.ne_none_iff_exists'.mp hd
  have hpos : 0 < d := by
    rcases Nat.eq_zero_or_pos d with rfl | h
    · exact absurd (eq_digitChar_of_toDigit hcd) (by simpa using h0)
    · exact h
  have := le_foldl_pushDigit (show 0 < 10 by omega) ds (pushDigit 10 0 c)
  simp only [digitsValue, List.foldl_cons, pushDigit_of_toDigit hcd] at this ⊢
  omega

/-- A run of decimal digits without a leading zero is the decimal writing of its value. -/
theorem decimal_digitsValue {ds : List Char} (hds : ∀ c ∈ ds, toDigit 10 c ≠ none)
    (hne : ds ≠ []) (h0 : ds.head? ≠ some '0') : decimal (digitsValue 10 ds) = ds := by
  induction ds using List.reverseRecOn with
  | nil => exact absurd rfl hne
  | append_singleton init c ih =>
    obtain ⟨d, hcd⟩ := Option.ne_none_iff_exists'.mp (hds c (by simp))
    have hd10 := lt_ten_of_toDigit hcd
    rw [digitsValue_append_single _ hcd, decimal, toDigits_eq (by omega)]
    rcases init with _ | ⟨c0, init⟩
    · simp [digitsValue, Nat.mod_eq_of_lt hd10, hd10, eq_digitChar_of_toDigit hcd]
    · have hpos : 0 < digitsValue 10 (c0 :: init) :=
        digitsValue_pos (hds c0 (by simp)) (by simpa using h0)
      have hq : (digitsValue 10 (c0 :: init) * 10 + d) / 10 = digitsValue 10 (c0 :: init) := by
        omega
      have hr : (digitsValue 10 (c0 :: init) * 10 + d) % 10 = d := by omega
      rw [if_neg (by omega), hq, hr, ← eq_digitChar_of_toDigit hcd]
      rw [decimal] at ih
      rw [ih (fun c hc => hds c (List.mem_append_left _ hc)) (by simp) (by simpa using h0)]

theorem digitsValue_zeros_append (k : Nat) (ds : List Char) :
    digitsValue 10 (List.replicate k '0' ++ ds) = digitsValue 10 ds := by
  have hz : (List.replicate k '0').foldl (pushDigit 10) 0 = 0 := by
    induction k with
    | zero => rfl
    | succ k ih => simpa [List.replicate_succ, pushDigit, toDigit] using ih
  simp [digitsValue, List.foldl_append, hz]

/-- A run of decimal digits is zeros before the decimal writing of its value. -/
theorem exists_zeros_decimal {ds : List Char} (hds : ∀ c ∈ ds, toDigit 10 c ≠ none)
    (hne : ds ≠ []) : ∃ k, ds = List.replicate k '0' ++ decimal (digitsValue 10 ds) := by
  induction ds with
  | nil => exact absurd rfl hne
  | cons c ds ih =>
    by_cases hc : c = '0'
    · subst hc
      rcases ds with _ | ⟨c', ds⟩
      · exact ⟨0, rfl⟩
      · obtain ⟨k, hk⟩ := ih (fun c hc => hds c (by simp [hc])) (by simp)
        refine ⟨k + 1, ?_⟩
        have hv := digitsValue_zeros_append 1 (c' :: ds)
        simp only [List.replicate_one, List.singleton_append] at hv
        rw [hv, List.replicate_succ, List.cons_append, ← hk]
    · exact ⟨0, by rw [decimal_digitsValue hds hne (by simpa using hc)]; rfl⟩

theorem decimal_lt_1000 {n : Nat} (h : n < 1000) : (decimal n).length ≤ 3 :=
  Nat.toDigitsCore_length 10 (by omega) _ _ 3 h (by omega)

theorem decimal_digits (n : Nat) : ∀ c ∈ decimal n, toDigit 10 c ≠ none :=
  toDigits_digits (by omega) (by omega) n

theorem decimal_ne_nil (n : Nat) : decimal n ≠ [] := toDigits_ne_nil (by omega) n

theorem uint8_ofNat_toNat (o : UInt8) : UInt8.ofNat o.toNat = o :=
  UInt8.toNat.inj (UInt8.toNat_ofNat_of_lt o.toNat_lt_size)

theorem uint16_ofNat_toNat (p : UInt16) : UInt16.ofNat p.toNat = p :=
  UInt16.toNat.inj (UInt16.toNat_ofNat_of_lt p.toNat_lt_size)

theorem uint32_ofNat_toNat (p : UInt32) : UInt32.ofNat p.toNat = p :=
  UInt32.toNat.inj (UInt32.toNat_ofNat_of_lt p.toNat_lt_size)

theorem uint64_ofNat_toNat (p : UInt64) : UInt64.ofNat p.toNat = p :=
  UInt64.toNat.inj (UInt64.toNat_ofNat_of_lt p.toNat_lt_size)

/-! ## The parser, one spec lemma per function -/

theorem readGivenChar_eq_some {c : Char} {s rest : List Char} {u : Unit} :
    readGivenChar c s = some (u, rest) ↔ s = c :: rest := by
  cases s with
  | nil => simp [readGivenChar]
  | cons d s =>
    by_cases h : d = c
    · simp [readGivenChar, h]
    · simp [readGivenChar, h]

theorem readSeparator_succ_eq_some {α : Type} {sep : Char} {i : Nat}
    {inner : List Char → Option (α × List Char)} {s rest : List Char} {a : α} :
    readSeparator sep (i + 1) inner s = some (a, rest) ↔
      ∃ s', s = sep :: s' ∧ inner s' = some (a, rest) := by
  simp only [readSeparator, Nat.succ_pos, if_pos, Option.bind_eq_some, Prod.exists,
    readGivenChar_eq_some]
  constructor
  · rintro ⟨u, s', rfl, h⟩
    exact ⟨s', rfl, h⟩
  · rintro ⟨s', rfl, h⟩
    exact ⟨(), s', rfl, h⟩

/-- An octet has one spelling: its decimal digits. -/
theorem readOctet_eq_some {s rest : List Char} {o : UInt8} :
    readOctet s = some (o, rest) ↔ s = decimal o.toNat ++ rest ∧ NoDigitHead 10 rest := by
  constructor
  · intro h
    simp only [readOctet, Option.map_eq_some', Prod.mk.injEq] at h
    obtain ⟨⟨v, rest'⟩, hv, rfl, rfl⟩ := h
    obtain ⟨ds, rfl, hds, hrest, hacc, rfl⟩ := readNumber_inv (by omega) hv
    simp only [acceptsDigits, Bool.and_eq_true, Bool.not_eq_true', List.isEmpty_eq_false,
      Option.all_some, decide_eq_true_eq, Bool.false_or, Bool.or_eq_true, bne_iff_ne] at hacc
    obtain ⟨⟨⟨hne, -⟩, hz⟩, hlt⟩ := hacc
    have hv : (UInt8.ofNat (digitsValue 10 ds)).toNat = digitsValue 10 ds :=
      UInt8.toNat_ofNat_of_lt (by simpa using hlt)
    refine ⟨?_, hrest⟩
    rw [hv]
    rcases hz with hz | hz
    · rw [decimal_digitsValue hds (by simpa using hne) hz]
    · obtain ⟨k, hk⟩ := exists_zeros_decimal hds (by simpa using hne)
      have hlen := congrArg List.length hk
      simp only [List.length_append, List.length_replicate] at hlen
      have := List.length_pos.mpr (decimal_ne_nil (digitsValue 10 ds))
      obtain rfl : k = 0 := by omega
      exact congrArg (· ++ rest') hk
  · rintro ⟨rfl, hrest⟩
    have ho : o.toNat < 256 := o.toNat_lt_size
    rw [readOctet, decimal, readNumber_toDigits (by omega) (by omega) (by simpa using ho)
      (fun m hm => by cases hm; exact decimal_lt_1000 (by omega)) hrest]
    simp [uint8_ofNat_toNat]

theorem noDigitHead_dot (s : List Char) : NoDigitHead 10 ('.' :: s) := by
  show toDigit 10 '.' = none
  decide

theorem noDigitHead_colon (s : List Char) : NoDigitHead 10 (':' :: s) := by
  show toDigit 10 ':' = none
  decide

theorem readSeparator_zero {α : Type} (sep : Char) (inner : List Char → Option (α × List Char))
    (s : List Char) : readSeparator sep 0 inner s = inner s := rfl

theorem readSeparator_pos_eq_some {α : Type} {sep : Char} {i : Nat} (hi : 0 < i)
    {inner : List Char → Option (α × List Char)} {s rest : List Char} {a : α} :
    readSeparator sep i inner s = some (a, rest) ↔
      ∃ s', s = sep :: s' ∧ inner s' = some (a, rest) := by
  obtain ⟨i, rfl⟩ : ∃ j, i = j + 1 := ⟨i - 1, by omega⟩
  exact readSeparator_succ_eq_some

theorem readIpv4Addr_eq_some {s rest : List Char} {ip : Ipv4Addr} :
    readIpv4Addr s = some (ip, rest) ↔ s = ip.display ++ rest ∧ NoDigitHead 10 rest := by
  simp only [readIpv4Addr, Option.bind_eq_bind, Option.bind_eq_some, Option.pure_def,
    Option.some.injEq, Prod.exists, Prod.mk.injEq, readSeparator_zero, readOctet_eq_some,
    readSeparator_pos_eq_some (Nat.zero_lt_succ _)]
  constructor
  · rintro ⟨a, s1, ⟨rfl, -⟩, b, s2, ⟨s1, rfl, rfl, -⟩, c, s3, ⟨s2, rfl, rfl, -⟩, d, s4,
      ⟨s3, rfl, rfl, hrest⟩, rfl, rfl⟩
    simp [Ipv4Addr.display, hrest]
  · rintro ⟨rfl, hrest⟩
    exact ⟨_, _, ⟨by simp [Ipv4Addr.display], noDigitHead_dot _⟩, _, _,
      ⟨_, rfl, rfl, noDigitHead_dot _⟩, _, _, ⟨_, rfl, rfl, noDigitHead_dot _⟩, _, _,
      ⟨_, rfl, rfl, hrest⟩, rfl, rfl⟩
theorem readPort_eq_some {s rest : List Char} {p : UInt16} :
    readPort s = some (p, rest) ↔
      ∃ k, s = ':' :: (List.replicate k '0' ++ decimal p.toNat ++ rest) ∧ NoDigitHead 10 rest := by
  simp only [readPort, Option.bind_eq_bind, Option.bind_eq_some, Option.pure_def,
    Option.some.injEq, Prod.exists, Prod.mk.injEq, readGivenChar_eq_some]
  constructor
  · rintro ⟨u, s', rfl, n, r, hn, rfl, rfl⟩
    obtain ⟨ds, rfl, hds, hrest, hacc, rfl⟩ := readNumber_inv (by omega) hn
    simp only [acceptsDigits, Bool.and_eq_true, Bool.not_eq_true', List.isEmpty_eq_false,
      Option.all_none, decide_eq_true_eq, Bool.true_or, Bool.and_true] at hacc
    obtain ⟨hne, hlt⟩ := hacc
    obtain ⟨k, hk⟩ := exists_zeros_decimal hds (by simpa using hne)
    refine ⟨k, ?_, hrest⟩
    rw [UInt16.toNat_ofNat_of_lt (by simpa using hlt), ← hk]
  · rintro ⟨k, rfl, hrest⟩
    have hp : p.toNat < 65536 := p.toNat_lt_size
    have hds : ∀ c ∈ List.replicate k '0' ++ decimal p.toNat, toDigit 10 c ≠ none := by
      intro c hc
      rcases List.mem_append.mp hc with hc | hc
      · rw [(List.mem_replicate.mp hc).2]; decide
      · exact decimal_digits _ c hc
    have hacc : acceptsDigits 10 none true 16 (List.replicate k '0' ++ decimal p.toNat) := by
      simp [acceptsDigits, digitsValue_zeros_append, decimal,
        digitsValue_toDigits (show 2 ≤ 10 by omega) (show 10 ≤ 16 by omega), hp,
        toDigits_ne_nil (show 2 ≤ 10 by omega)]
    refine ⟨(), _, rfl, p.toNat, rest, ?_, uint16_ofNat_toNat p, rfl⟩
    rw [readNumber_append (by omega) hds hrest, if_pos hacc, digitsValue_zeros_append, decimal,
      digitsValue_toDigits (by omega) (by omega)]

theorem readSocketAddrV4_eq_some {s rest : List Char} {a : SocketAddrV4} :
    readSocketAddrV4 s = some (a, rest) ↔
      ∃ k, s = a.ip.display ++ ':' :: (List.replicate k '0' ++ decimal a.port.toNat ++ rest) ∧
        NoDigitHead 10 rest := by
  simp only [readSocketAddrV4, Option.bind_eq_bind, Option.bind_eq_some, Option.pure_def,
    Option.some.injEq, Prod.exists, Prod.mk.injEq, readIpv4Addr_eq_some, readPort_eq_some]
  constructor
  · rintro ⟨ip, s1, ⟨rfl, -⟩, p, r, ⟨k, rfl, hrest⟩, rfl, rfl⟩
    exact ⟨k, rfl, hrest⟩
  · rintro ⟨k, rfl, hrest⟩
    exact ⟨_, _, ⟨rfl, noDigitHead_colon _⟩, _, _, ⟨k, rfl, hrest⟩, rfl, rfl⟩

theorem readSocketAddr_v4_eq_some {s rest : List Char} {a : SocketAddrV4} :
    readSocketAddr s = some (.v4 a, rest) ↔ readSocketAddrV4 s = some (a, rest) := by
  unfold readSocketAddr
  split
  · rename_i a' r h
    rw [h]
    simp
  · rename_i h
    simp [h]

/-- The texts that parse to an IPv4 socket address: its display, with any number of zeros
before the port's digits. -/
theorem parseSocketAddr_v4_iff (s : String) (a : SocketAddrV4) :
    parseSocketAddr s = .ok (.v4 a) ↔
      ∃ k, s.toList = a.ip.display ++ ':' :: (List.replicate k '0' ++ decimal a.port.toNat) := by
  unfold parseSocketAddr
  constructor
  · intro h
    split at h
    · rename_i a' h'
      cases h
      obtain ⟨k, hk, -⟩ := readSocketAddrV4_eq_some.mp (readSocketAddr_v4_eq_some.mp h')
      exact ⟨k, by simpa using hk⟩
    · cases h
  · rintro ⟨k, hk⟩
    have h : readSocketAddr s.toList = some (.v4 a, []) :=
      readSocketAddr_v4_eq_some.mpr (readSocketAddrV4_eq_some.mpr ⟨k, by simpa using hk, trivial⟩)
    rw [h]

end Giganto.Net
