import Giganto.Net.Spellings

/-!
# Durations as humantime writes and reads them

`Config.retention` goes through `humantime_serde`: `humantime::format_duration` writes it and
`humantime::parse_duration` reads it. The writer splits the seconds into years of 365.25 days,
months of 30.44 days, days, hours, minutes and seconds, and the nanoseconds into milli-, micro-
and nanoseconds; the reader adds up `<number><unit>` items with the same table, so what one
writes the other reads back as the same duration (`parseDuration_formatDuration`).

The reader's errors (`humantime::DurationError`) are all `none` here: `humantime_serde`
discards them for its own.
-/

namespace Giganto.Humantime

open Net

/-- `std::time::Duration`: whole seconds, and the nanoseconds below one second. -/
structure Duration where
  secs : UInt64
  nanos : Fin 1000000000
deriving DecidableEq, Repr

/-- `Duration::new`: nanoseconds past a second carry into the seconds; `none` is its panic on
overflow. -/
def Duration.new (secs : UInt64) (nanos : UInt32) : Option Duration :=
  if h : nanos.toNat < 1000000000 then some ⟨secs, ⟨nanos.toNat, h⟩⟩
  else if secs.toNat + nanos.toNat / 1000000000 < 2 ^ 64 then
    some ⟨UInt64.ofNat (secs.toNat + nanos.toNat / 1000000000),
      ⟨nanos.toNat % 1000000000, Nat.mod_lt _ (by decide)⟩⟩
  else none

/-! ## `format_duration` -/

/-- `item_plural` and `item` of `Display for FormattedDuration`, by whether the unit takes a
plural `s`: a nonzero value, after a space unless nothing was written before it. The flag is
`started`. -/
def writeItem (plural : Bool) (name : String) (value : Nat) (out : List Char × Bool) :
    List Char × Bool :=
  if 0 < value then
    (out.1 ++ (if out.2 then [' '] else []) ++ decimal value ++ name.toList ++
      (if plural ∧ 1 < value then ['s'] else []), true)
  else out

/-- `item_plural`. -/
def itemPlural (name : String) (value : Nat) (out : List Char × Bool) : List Char × Bool :=
  writeItem true name value out

/-- `item`. -/
def item (name : String) (value : Nat) (out : List Char × Bool) : List Char × Bool :=
  writeItem false name value out

/-- `humantime::format_duration(d).to_string()`. -/
def formatDuration (d : Duration) : String :=
  let secs := d.secs.toNat
  let nanos := d.nanos.val
  if secs = 0 ∧ nanos = 0 then "0s"
  else
    let years := secs / 31557600
    let ydays := secs % 31557600
    let months := ydays / 2630016
    let mdays := ydays % 2630016
    let days := mdays / 86400
    let daySecs := mdays % 86400
    let hours := daySecs / 3600
    let minutes := daySecs % 3600 / 60
    let seconds := daySecs % 60
    let millis := nanos / 1000000
    let micros := nanos / 1000 % 1000
    let nanosec := nanos % 1000
    let out := itemPlural "year" years ([], false)
    let out := itemPlural "month" months out
    let out := itemPlural "day" days out
    let out := item "h" hours out
    let out := item "m" minutes out
    let out := item "s" seconds out
    let out := item "ms" millis out
    let out := item "us" micros out
    let out := item "ns" nanosec out
    ⟨out.1⟩

/-! ## `parse_duration` -/

/-- `char::is_whitespace`: the characters of Unicode's `White_Space` property. -/
def isWhitespace (c : Char) : Bool :=
  let n := c.toNat
  decide (9 ≤ n ∧ n ≤ 13) || n == 32 || n == 0x85 || n == 0xa0 || n == 0x1680 ||
    decide (0x2000 ≤ n ∧ n ≤ 0x200a) || n == 0x2028 || n == 0x2029 || n == 0x202f ||
    n == 0x205f || n == 0x3000

/-- `OverflowOp` on `u64`: the value, or `none` (`NumberOverflow`) past `u64::MAX`. -/
def checkedU64 (n : Nat) : Option Nat := if n < 2 ^ 64 then some n else none

/-- The units `parse_unit` knows, each as the seconds and the nanoseconds of one of it. -/
def unitScale (unit : String) : Option (Nat × Nat) :=
  match unit with
  | "nanos" | "nsec" | "ns" => some (0, 1)
  | "usec" | "us" => some (0, 1000)
  | "millis" | "msec" | "ms" => some (0, 1000000)
  | "seconds" | "second" | "secs" | "sec" | "s" => some (1, 0)
  | "minutes" | "minute" | "min" | "mins" | "m" => some (60, 0)
  | "hours" | "hour" | "hr" | "hrs" | "h" => some (3600, 0)
  | "days" | "day" | "d" => some (86400, 0)
  | "weeks" | "week" | "w" => some (604800, 0)
  | "months" | "month" | "M" => some (2630016, 0)
  | "years" | "year" | "y" => some (31557600, 0)
  | _ => none

/-- The units `format_duration` writes, as `parse_unit` scales them. -/
theorem unitScale_written :
    unitScale "year" = some (31557600, 0) ∧ unitScale "month" = some (2630016, 0) ∧
      unitScale "day" = some (86400, 0) ∧ unitScale "h" = some (3600, 0) ∧
      unitScale "m" = some (60, 0) ∧ unitScale "s" = some (1, 0) ∧
      unitScale "ms" = some (0, 1000000) ∧ unitScale "us" = some (0, 1000) ∧
      unitScale "ns" = some (0, 1) := by
  decide

/-- `Parser::parse_unit`: `n` of `unit` added to the running `(seconds, nanoseconds)`; the
nanoseconds carry into the seconds only once they exceed one second. -/
def parseUnit (current : Nat × Nat) (n : Nat) (unit : List Char) : Option (Nat × Nat) := do
  let (perSec, perNsec) ← unitScale ⟨unit⟩
  let sec ← checkedU64 (n * perSec)
  let nsec ← checkedU64 (n * perNsec)
  let nsec ← checkedU64 (current.2 + nsec)
  let (sec, nsec) ←
    if 1000000000 < nsec then
      (checkedU64 (sec + nsec / 1000000000)).map fun sec => (sec, nsec % 1000000000)
    else some (sec, nsec)
  let sec ← checkedU64 (current.1 + sec)
  pure (sec, nsec)

mutual
/-- The first loop of `Parser::parse`: the digits of the number `n`, blanks among them skipped,
up to the first letter of its unit. At the end of the input the unit is empty, which
`parse_unit` refuses. -/
def parseNumber (current : Nat × Nat) (n : Nat) : List Char → Option (Nat × Nat)
  | [] => parseUnit current n []
  | c :: cs =>
    if c.isDigit then
      (checkedU64 (n * 10 + (c.toNat - 48))).bind fun n => parseNumber current n cs
    else if isWhitespace c then parseNumber current n cs
    else if c.isAlpha then parseUnitName current n [c] cs
    else none
/-- The second loop of `Parser::parse`: the letters of the unit, then `parse_unit`, up to a
digit (the next number) or a blank. At the end of the input, where `parse_first_char` finds
nothing, the total is the result. -/
def parseUnitName (current : Nat × Nat) (n : Nat) (unit : List Char) :
    List Char → Option (Nat × Nat)
  | [] => parseUnit current n unit
  | c :: cs =>
    if c.isDigit then
      (parseUnit current n unit).bind fun current => parseNumber current (c.toNat - 48) cs
    else if isWhitespace c then
      (parseUnit current n unit).bind fun current => parseFirstChar current false cs
    else if c.isAlpha then parseUnitName current n (unit ++ [c]) cs
    else none
/-- `Parser::parse_first_char`: blanks, then the first digit of the next number. At the end of
the input the total is the result, except at the start (`Error::Empty`). -/
def parseFirstChar (current : Nat × Nat) (atStart : Bool) : List Char → Option (Nat × Nat)
  | [] => if atStart then none else some current
  | c :: cs =>
    if c.isDigit then parseNumber current (c.toNat - 48) cs
    else if isWhitespace c then parseFirstChar current atStart cs
    else none
end

/-- `humantime::parse_duration`. -/
def parseDuration (s : String) : Option Duration :=
  (parseFirstChar (0, 0) true s.toList).bind fun (sec, nsec) =>
    Duration.new (UInt64.ofNat sec) (UInt32.ofNat nsec)

/-! ## Character classes -/

theorem isDigit_iff (c : Char) : c.isDigit = true ↔ 48 ≤ c.toNat ∧ c.toNat ≤ 57 := by
  simp only [Char.isDigit, Bool.and_eq_true, decide_eq_true_eq, ge_iff_le, UInt32.le_def,
    Char.toNat]
  constructor <;> intro h <;> simpa [UInt32.toNat, Fin.le_def] using h

theorem isAlpha_iff (c : Char) :
    c.isAlpha = true ↔ (65 ≤ c.toNat ∧ c.toNat ≤ 90) ∨ (97 ≤ c.toNat ∧ c.toNat ≤ 122) := by
  simp only [Char.isAlpha, Char.isUpper, Char.isLower, Bool.or_eq_true, Bool.and_eq_true,
    decide_eq_true_eq, ge_iff_le, UInt32.le_def, Char.toNat]
  rfl

/-- A decimal digit, as `toDigit` reads it, is what the duration parser takes for one. -/
theorem isDigit_of_toDigit {c : Char} {d : Nat} (h : toDigit 10 c = some d) :
    c.isDigit = true ∧ d = c.toNat - 48 := by
  rw [toDigit_ten] at h
  split_ifs at h with h1
  cases h
  exact ⟨(isDigit_iff c).mpr (by omega), rfl⟩

/-- A letter is neither a digit nor a blank. -/
theorem not_isDigit_of_isAlpha {c : Char} (h : c.isAlpha = true) :
    c.isDigit = false ∧ isWhitespace c = false := by
  rw [isAlpha_iff] at h
  have hd : ¬(48 ≤ c.toNat ∧ c.toNat ≤ 57) := by omega
  rw [← isDigit_iff] at hd
  refine ⟨by simpa using hd, ?_⟩
  simp only [isWhitespace, Bool.or_eq_false_iff, decide_eq_false_iff_not, beq_eq_false_iff_ne]
  omega

/-! ## Reading items -/

/-- A unit name as the writer spells it: letters, at least one. -/
def IsUnitName (u : String) : Prop := u.toList ≠ [] ∧ ∀ c ∈ u.toList, c.isAlpha = true

instance : DecidablePred IsUnitName := fun u =>
  inferInstanceAs (Decidable (u.toList ≠ [] ∧ ∀ c ∈ u.toList, c.isAlpha = true))

theorem parseNumber_digits (current : Nat × Nat) {ds : List Char}
    (hds : ∀ c ∈ ds, toDigit 10 c ≠ none) (n : Nat) (rest : List Char)
    (hlt : ds.foldl (pushDigit 10) n < 2 ^ 64) :
    parseNumber current n (ds ++ rest) = parseNumber current (ds.foldl (pushDigit 10) n) rest := by
  induction ds generalizing n with
  | nil => rfl
  | cons c ds ih =>
    obtain ⟨d, hd⟩ := Option.ne_none_iff_exists'.mp (hds c (List.mem_cons_self c ds))
    obtain ⟨hdig, rfl⟩ := isDigit_of_toDigit hd
    have hpush : pushDigit 10 n c = n * 10 + (c.toNat - 48) := pushDigit_of_toDigit hd n
    have hle := le_foldl_pushDigit (show 0 < 10 by omega) ds (pushDigit 10 n c)
    rw [List.foldl_cons] at hlt ⊢
    rw [← ih (fun c hc => hds c (List.mem_cons_of_mem _ hc)) _ hlt, List.cons_append,
      parseNumber, if_pos hdig, checkedU64, if_pos (by omega), Option.some_bind, hpush]

theorem parseUnitName_letters (current : Nat × Nat) (n : Nat) {ls : List Char}
    (hls : ∀ c ∈ ls, c.isAlpha = true) (unit rest : List Char) :
    parseUnitName current n unit (ls ++ rest) = parseUnitName current n (unit ++ ls) rest := by
  induction ls generalizing unit with
  | nil => simp
  | cons c ls ih =>
    have hc := hls c (List.mem_cons_self c ls)
    obtain ⟨hd, hw⟩ := not_isDigit_of_isAlpha hc
    rw [List.cons_append, parseUnitName, if_neg (by simp [hd]), if_neg (by simp [hw]), if_pos hc,
      ih (fun c h => hls c (List.mem_cons_of_mem _ h))]
    simp

/-- One item `<v><unit>` read from the start of a number: the unit is read whole and then
added. -/
theorem parseFirstChar_item (current : Nat × Nat) (atStart : Bool) {v : Nat} (hv : v < 2 ^ 64)
    {u : String} (hu : IsUnitName u) (rest : List Char) :
    parseFirstChar current atStart (decimal v ++ u.toList ++ rest) =
      parseUnitName current v u.toList rest := by
  obtain ⟨hne, hletters⟩ := hu
  obtain ⟨d0, ds, hdec⟩ := List.exists_cons_of_ne_nil (decimal_ne_nil v)
  obtain ⟨u0, us, hus⟩ := List.exists_cons_of_ne_nil hne
  have hdigits := decimal_digits v
  rw [hdec] at hdigits
  obtain ⟨d, hd⟩ := Option.ne_none_iff_exists'.mp (hdigits d0 (List.mem_cons_self d0 ds))
  obtain ⟨hdig, rfl⟩ := isDigit_of_toDigit hd
  have hval : ds.foldl (pushDigit 10) (d0.toNat - 48) = v := by
    have := digitsValue_toDigits (show 2 ≤ 10 by omega) (show 10 ≤ 16 by omega) v
    rw [← decimal, hdec, digitsValue, List.foldl_cons, pushDigit_of_toDigit hd] at this
    simpa using this
  have hu0 := hletters u0 (hus ▸ List.mem_cons_self u0 us)
  obtain ⟨hu0d, hu0w⟩ := not_isDigit_of_isAlpha hu0
  rw [hdec, List.cons_append, List.cons_append, parseFirstChar, if_pos hdig, List.append_assoc,
    parseNumber_digits _ (fun c hc => hdigits c (List.mem_cons_of_mem _ hc)) _ _ (hval ▸ hv),
    hval, hus, List.cons_append, parseNumber, if_neg (by simp [hu0d]), if_neg (by simp [hu0w]),
    if_pos hu0,
    parseUnitName_letters _ _ (fun c hc => hletters c (hus ▸ List.mem_cons_of_mem u0 hc))]
  rfl

/-- Items `<v><unit>` separated by single spaces, as `format_duration` writes them. -/
def itemsText : List (Nat × String) → List Char
  | [] => []
  | (v, u) :: its => decimal v ++ u.toList ++ (if its.isEmpty then [] else ' ' :: itemsText its)

/-- The running total after each item, `parse_unit` by `parse_unit`. -/
def addItems (current : Nat × Nat) (its : List (Nat × String)) : Option (Nat × Nat) :=
  its.foldlM (fun current (v, u) => parseUnit current v u.toList) current

/-- The parser reads written items as the sum of their values, in order. -/
theorem parseFirstChar_itemsText (atStart : Bool) {its : List (Nat × String)} (hne : its ≠ [])
    (hits : ∀ x ∈ its, x.1 < 2 ^ 64 ∧ IsUnitName x.2) (current : Nat × Nat) :
    parseFirstChar current atStart (itemsText its) = addItems current its := by
  induction its generalizing current atStart with
  | nil => exact absurd rfl hne
  | cons x its ih =>
    obtain ⟨v, u⟩ := x
    obtain ⟨hv, hu⟩ := hits (v, u) (List.mem_cons_self _ _)
    rw [itemsText, parseFirstChar_item _ _ hv hu]
    rcases its with _ | ⟨y, its⟩
    · simp [parseUnitName, addItems, parseFirstChar]
    · have hrest := ih false (List.cons_ne_nil y its)
        (fun x hx => hits x (List.mem_cons_of_mem _ hx))
      simp only [List.isEmpty_cons, Bool.false_eq_true, if_false, parseUnitName]
      rw [if_neg (by decide), if_pos (by decide)]
      simp only [addItems, List.foldlM_cons]
      congr 1
      funext current
      exact hrest current

/-! ## Writing items -/

/-- The unit an item is written with: the plural `s` after a value above one. -/
def itemName (plural : Bool) (name : String) (value : Nat) : String :=
  if plural ∧ 1 < value then name ++ "s" else name

/-- The nine `item_plural` and `item` calls of `format_duration`: plural flag, unit, value. -/
def durationParts (d : Duration) : List (Bool × String × Nat) :=
  let secs := d.secs.toNat
  let nanos := d.nanos.val
  let ydays := secs % 31557600
  let mdays := ydays % 2630016
  let daySecs := mdays % 86400
  [(true, "year", secs / 31557600), (true, "month", ydays / 2630016),
    (true, "day", mdays / 86400), (false, "h", daySecs / 3600),
    (false, "m", daySecs % 3600 / 60), (false, "s", daySecs % 60),
    (false, "ms", nanos / 1000000), (false, "us", nanos / 1000 % 1000), (false, "ns", nanos % 1000)]

/-- The item one call writes, unless its value is zero. -/
def partItem (x : Bool × String × Nat) : Option (Nat × String) :=
  if 0 < x.2.2 then some (x.2.2, itemName x.1 x.2.1 x.2.2) else none

theorem itemsText_append_single (its : List (Nat × String)) (x : Nat × String) :
    itemsText (its ++ [x]) =
      itemsText its ++ (if its.isEmpty then [] else [' ']) ++ decimal x.1 ++ x.2.toList := by
  induction its with
  | nil => simp [itemsText]
  | cons y its ih => cases its <;> simp_all [itemsText]

theorem writeItem_itemsText (x : Bool × String × Nat) (its : List (Nat × String)) :
    writeItem x.1 x.2.1 x.2.2 (itemsText its, !its.isEmpty) =
      (itemsText (its ++ (partItem x).toList), !(its ++ (partItem x).toList).isEmpty) := by
  obtain ⟨plural, name, v⟩ := x
  unfold writeItem partItem
  by_cases hv : 0 < v
  · simp only [hv, if_true, Option.toList_some, itemsText_append_single, itemName]
    by_cases hp : plural = true ∧ 1 < v <;> cases its <;> simp [hp, String.data_append]
  · simp [hv]

/-- The chain of calls writes the nonzero items, separated by spaces. -/
theorem foldl_writeItem (P : List (Bool × String × Nat)) (its : List (Nat × String)) :
    P.foldl (fun out x => writeItem x.1 x.2.1 x.2.2 out) (itemsText its, !its.isEmpty) =
      (itemsText (its ++ P.filterMap partItem), !(its ++ P.filterMap partItem).isEmpty) := by
  induction P generalizing its with
  | nil => simp
  | cons x P ih =>
    rw [List.foldl_cons, writeItem_itemsText, ih, List.filterMap_cons]
    cases partItem x <;> simp

theorem formatDuration_eq (d : Duration) (h : ¬(d.secs.toNat = 0 ∧ d.nanos.val = 0)) :
    (formatDuration d).toList = itemsText ((durationParts d).filterMap partItem) := by
  have := foldl_writeItem (durationParts d) []
  simp only [formatDuration, if_neg h]
  exact congrArg Prod.fst this

/-! ## Adding up items -/

/-- The scale of a part's unit. -/
def partScale (x : Bool × String × Nat) : Nat × Nat := (unitScale x.2.1).getD (0, 0)

theorem parseUnit_eq {current : Nat × Nat} {n : Nat} {unit : String} {s ns : Nat}
    (hu : unitScale unit = some (s, ns)) (h1 : current.1 + n * s < 2 ^ 64)
    (h2 : current.2 + n * ns ≤ 1000000000) :
    parseUnit current n unit.toList = some (current.1 + n * s, current.2 + n * ns) := by
  have hu' : unitScale ⟨unit.data⟩ = some (s, ns) := hu
  have hs : n * s < 18446744073709551616 := by omega
  have hns : n * ns < 18446744073709551616 := by omega
  have hsum : current.2 + n * ns < 18446744073709551616 := by omega
  have hsec : current.1 + n * s < 18446744073709551616 := by omega
  have hcarry : ¬1000000000 < current.2 + n * ns := by omega
  simp [parseUnit, hu', checkedU64, hs, hns, hsum, hcarry, hsec]

/-- Adding up the nonzero items of some parts: no overflow and no carry while the totals stay
below `u64::MAX` seconds and one second. -/
theorem addItems_filterMap (P : List (Bool × String × Nat))
    (hP : ∀ x ∈ P, unitScale (itemName x.1 x.2.1 x.2.2) = some (partScale x))
    (current : Nat × Nat)
    (h1 : current.1 + (P.map fun x => x.2.2 * (partScale x).1).sum < 2 ^ 64)
    (h2 : current.2 + (P.map fun x => x.2.2 * (partScale x).2).sum ≤ 1000000000) :
    addItems current (P.filterMap partItem) =
      some (current.1 + (P.map fun x => x.2.2 * (partScale x).1).sum,
        current.2 + (P.map fun x => x.2.2 * (partScale x).2).sum) := by
  induction P generalizing current with
  | nil => rfl
  | cons x P ih =>
    have hP' := fun y hy => hP y (List.mem_cons_of_mem x hy)
    simp only [List.map_cons, List.sum_cons] at h1 h2 ⊢
    rw [List.filterMap_cons]
    by_cases hv : 0 < x.2.2
    · have hx := hP x (List.mem_cons_self x P)
      rw [show partItem x = some (x.2.2, itemName x.1 x.2.1 x.2.2) from if_pos hv]
      generalize partScale x = sc at hx h1 h2 ⊢
      obtain ⟨s, ns⟩ := sc
      simp only at h1 h2
      simp only [addItems, List.foldlM_cons]
      rw [parseUnit_eq hx (by omega) (by omega), Option.bind_eq_bind, Option.some_bind, ← addItems,
        ih hP' _ (by simp only; omega) (by simp only; omega)]
      simp only [Nat.add_assoc]
    · have hx : x.2.2 = 0 := by omega
      rw [show partItem x = none from if_neg hv]
      simp only [hx, Nat.zero_mul, Nat.zero_add] at h1 h2 ⊢
      exact ih hP' current h1 h2

theorem durationParts_scale (d : Duration) :
    ∀ x ∈ durationParts d, unitScale (itemName x.1 x.2.1 x.2.2) = some (partScale x) ∧
      IsUnitName (itemName x.1 x.2.1 x.2.2) := by
  intro x hx
  simp only [durationParts, List.mem_cons, List.mem_singleton, List.not_mem_nil, or_false] at hx
  rcases hx with rfl | rfl | rfl | rfl | rfl | rfl | rfl | rfl | rfl <;>
    simp only [itemName, partScale, Bool.false_eq_true, false_and, true_and, if_false] <;>
    (try split_ifs) <;> decide

/-- The parts add up to the seconds of the duration. -/
theorem durationParts_secs (d : Duration) :
    ((durationParts d).map fun x => x.2.2 * (partScale x).1).sum = d.secs.toNat := by
  obtain ⟨u1, u2, u3, u4, u5, u6, u7, u8, u9⟩ := unitScale_written
  simp only [durationParts, partScale, List.map_cons, List.map_nil, List.sum_cons,
    List.sum_nil, u1, u2, u3, u4, u5, u6, u7, u8, u9, Option.getD_some]
  omega

/-- The parts add up to the nanoseconds of the duration. -/
theorem durationParts_nanos (d : Duration) :
    ((durationParts d).map fun x => x.2.2 * (partScale x).2).sum = d.nanos.val := by
  obtain ⟨u1, u2, u3, u4, u5, u6, u7, u8, u9⟩ := unitScale_written
  simp only [durationParts, partScale, List.map_cons, List.map_nil, List.sum_cons,
    List.sum_nil, u1, u2, u3, u4, u5, u6, u7, u8, u9, Option.getD_some]
  omega

/-- A nonzero duration writes at least one item. -/
theorem durationItems_ne_nil {d : Duration} (h : ¬(d.secs.toNat = 0 ∧ d.nanos.val = 0)) :
    (durationParts d).filterMap partItem ≠ [] := by
  intro hnil
  have hzero : ∀ x ∈ durationParts d, x.2.2 = 0 := fun x hx => by
    have := List.filterMap_eq_nil_iff.mp hnil x hx
    unfold partItem at this
    split_ifs at this with hv
    omega
  apply h
  rw [← durationParts_secs d, ← durationParts_nanos d]
  constructor <;>
  · apply List.sum_eq_zero
    simp only [List.mem_map]
    rintro _ ⟨x, hx, rfl⟩
    simp [hzero x hx]

/-- Every written item has a `u64` value and a unit of letters. -/
theorem durationItems_valid (d : Duration) :
    ∀ x ∈ (durationParts d).filterMap partItem, x.1 < 2 ^ 64 ∧ IsUnitName x.2 := by
  intro x hx
  obtain ⟨y, hy, hxy⟩ := List.mem_filterMap.mp hx
  unfold partItem at hxy
  split_ifs at hxy
  cases hxy
  refine ⟨?_, (durationParts_scale d y hy).2⟩
  have hsecs : d.secs.toNat < 18446744073709551616 := d.secs.toNat_lt_size
  have := d.nanos.isLt
  simp only [durationParts, List.mem_cons, List.mem_singleton, List.not_mem_nil, or_false] at hy
  rcases hy with rfl | rfl | rfl | rfl | rfl | rfl | rfl | rfl | rfl <;> simp only <;> omega

/-- What `format_duration` writes, `parse_duration` reads back as the same duration. -/
theorem parseDuration_formatDuration (d : Duration) :
    parseDuration (formatDuration d) = some d := by
  by_cases h0 : d.secs.toNat = 0 ∧ d.nanos.val = 0
  · obtain ⟨secs, nanos⟩ := d
    obtain ⟨hs, hn⟩ := h0
    obtain rfl : secs = 0 := UInt64.toNat.inj hs
    obtain rfl : nanos = 0 := Fin.ext hn
    decide
  · have hsum := addItems_filterMap _ (fun x hx => (durationParts_scale d x hx).1) (0, 0)
      (by rw [durationParts_secs]; simp [d.secs.toNat_lt_size])
      (by rw [durationParts_nanos]; have := d.nanos.isLt; omega)
    rw [durationParts_secs, durationParts_nanos] at hsum
    have hn : (UInt32.ofNat d.nanos.val).toNat = d.nanos.val :=
      UInt32.toNat_ofNat_of_lt (Nat.lt_trans d.nanos.isLt (by decide))
    rw [parseDuration, formatDuration_eq _ h0,
      parseFirstChar_itemsText true (durationItems_ne_nil h0) (durationItems_valid d), hsum]
    simp [Duration.new, hn, uint64_ofNat_toNat]

/-- Distinct durations are written as distinct texts. -/
theorem formatDuration_injective : Function.Injective formatDuration := fun d d' h =>
  Option.some_injective _ <| by
    rw [← parseDuration_formatDuration d, h, parseDuration_formatDuration]

end Giganto.Humantime
