import Mathlib.Data.Nat.Digits

/-!
# Digits

`core::net::parser` reads every number of an address with `read_number`, and the `Display`
impls of the integer types write them with the digits of `Nat.toDigits`. The parser works on
the bytes of the text; every byte it accepts is ASCII, so the model reads its `List Char`.
-/

namespace Giganto.Net

/-- `char::to_digit`: the value of `c` as a base-`radix` digit, letters in either case. -/
def toDigit (radix : Nat) (c : Char) : Option Nat :=
  let n := c.toNat
  if 48 ≤ n ∧ n < 48 + min radix 10 then some (n - 48)
  else if 97 ≤ n ∧ n + 10 < 97 + radix then some (n - 87)
  else if 65 ≤ n ∧ n + 10 < 65 + radix then some (n - 55)
  else none

/-- One step of `result * radix + digit`. -/
def pushDigit (radix acc : Nat) (c : Char) : Nat := acc * radix + (toDigit radix c).getD 0

/-- The number a run of digits denotes, most significant digit first. -/
def digitsValue (radix : Nat) (ds : List Char) : Nat := ds.foldl (pushDigit radix) 0

/-- `read_number`'s loop under a digit limit: `u32` arithmetic, and failure as soon as more
than `maxDigits` digits were read. Returns the value, the digit count and the rest. -/
def readDigitsBounded (radix maxDigits : Nat) :
    Nat → Nat → List Char → Option (Nat × Nat × List Char)
  | result, count, [] => some (result, count, [])
  | result, count, c :: cs =>
    match toDigit radix c with
    | none => some (result, count, c :: cs)
    | some d =>
      if maxDigits < count + 1 then none
      else readDigitsBounded radix maxDigits (result * radix + d) (count + 1) cs

/-- `read_number`'s loop without a digit limit: `checked_mul` then `checked_add` in the target
type, whose values lie below `bound`; the two succeed exactly when the sum fits. -/
def readDigitsChecked (radix bound : Nat) :
    Nat → Nat → List Char → Option (Nat × Nat × List Char)
  | result, count, [] => some (result, count, [])
  | result, count, c :: cs =>
    match toDigit radix c with
    | none => some (result, count, c :: cs)
    | some d =>
      if result * radix + d < bound then
        readDigitsChecked radix bound (result * radix + d) (count + 1) cs
      else none

/-- `Parser::read_number` into a `bits`-bit unsigned integer: the value and the rest of the
input, or `none` (the input untouched, as `read_atomically` restores it) on no digit, too
many digits, a forbidden leading zero, or a value that does not fit. -/
def readNumber (radix : Nat) (maxDigits : Option Nat) (allowZeroPrefix : Bool) (bits : Nat)
    (s : List Char) : Option (Nat × List Char) :=
  let hasLeadingZero := s.head? == some '0'
  let loop : Option (Option Nat × Nat × List Char) :=
    match maxDigits with
    | some m => (readDigitsBounded radix m 0 0 s).map fun (v, n, rest) =>
        (if v < 2 ^ bits then some v else none, n, rest)
    | none => (readDigitsChecked radix (2 ^ bits) 0 0 s).map fun (v, n, rest) => (some v, n, rest)
  match loop with
  | none => none
  | some (result, count, rest) =>
    if count = 0 then none
    else if !allowZeroPrefix && hasLeadingZero && 1 < count then none
    else result.map (·, rest)

/-- `rest` does not continue a run of base-`radix` digits. -/
def NoDigitHead (radix : Nat) : List Char → Prop
  | [] => True
  | c :: _ => toDigit radix c = none

/-- When `read_number` accepts the run of digits `ds`. -/
def acceptsDigits (radix : Nat) (maxDigits : Option Nat) (allowZeroPrefix : Bool) (bits : Nat)
    (ds : List Char) : Bool :=
  !ds.isEmpty && maxDigits.all (ds.length ≤ ·) &&
    (allowZeroPrefix || ds.head? != some '0' || ds.length ≤ 1) &&
    decide (digitsValue radix ds < 2 ^ bits)

variable {radix : Nat}

theorem le_foldl_pushDigit (hr : 0 < radix) (ds : List Char) (acc : Nat) :
    acc ≤ ds.foldl (pushDigit radix) acc := by
  induction ds generalizing acc with
  | nil => exact le_rfl
  | cons c ds ih =>
    refine le_trans ?_ (ih _)
    simp only [pushDigit]
    nlinarith

theorem pushDigit_of_toDigit {c : Char} {d : Nat} (h : toDigit radix c = some d) (acc : Nat) :
    pushDigit radix acc c = acc * radix + d := by
  simp [pushDigit, h]

theorem readDigitsBounded_append {m : Nat} {ds rest : List Char}
    (hds : ∀ c ∈ ds, toDigit radix c ≠ none) (hrest : NoDigitHead radix rest)
    (result count : Nat) (hc : count ≤ m) :
    readDigitsBounded radix m result count (ds ++ rest) =
      if count + ds.length ≤ m then
        some (ds.foldl (pushDigit radix) result, count + ds.length, rest)
      else none := by
  induction ds generalizing result count with
  | nil =>
    cases rest with
    | nil => simp [readDigitsBounded, hc]
    | cons c cs => simp [readDigitsBounded, show toDigit radix c = none from hrest, hc]
  | cons c ds ih =>
    obtain ⟨d, hd⟩ := Option.ne_none_iff_exists'.mp (hds c (List.mem_cons_self _ _))
    rw [List.cons_append, readDigitsBounded.eq_2, hd]
    simp only [List.length_cons, List.foldl_cons, pushDigit_of_toDigit hd]
    by_cases h : m < count + 1
    · rw [if_pos h, if_neg (by omega)]
    · rw [if_neg h, ih (fun c hc => hds c (List.mem_cons_of_mem _ hc)) _ _ (by omega)]
      simp only [Nat.add_assoc, Nat.add_comm 1]

theorem readDigitsChecked_append {bound : Nat} (hr : 0 < radix) {ds rest : List Char}
    (hds : ∀ c ∈ ds, toDigit radix c ≠ none) (hrest : NoDigitHead radix rest)
    (result count : Nat) (hb : result < bound) :
    readDigitsChecked radix bound result count (ds ++ rest) =
      if ds.foldl (pushDigit radix) result < bound then
        some (ds.foldl (pushDigit radix) result, count + ds.length, rest)
      else none := by
  induction ds generalizing result count with
  | nil =>
    cases rest with
    | nil => simp [readDigitsChecked, hb]
    | cons c cs => simp [readDigitsChecked, show toDigit radix c = none from hrest, hb]
  | cons c ds ih =>
    obtain ⟨d, hd⟩ := Option.ne_none_iff_exists'.mp (hds c (List.mem_cons_self _ _))
    rw [List.cons_append, readDigitsChecked.eq_2, hd]
    simp only [List.length_cons, List.foldl_cons, pushDigit_of_toDigit hd]
    by_cases h : result * radix + d < bound
    · rw [if_pos h, ih (fun c hc => hds c (List.mem_cons_of_mem _ hc)) _ _ h]
      simp only [Nat.add_assoc, Nat.add_comm 1]
    · have := le_foldl_pushDigit hr ds (result * radix + d)
      rw [if_neg h, if_neg (by omega)]

/-- The spec of `read_number`: it reads the maximal run of digits and accepts it or fails. -/
theorem readNumber_append (hr : 0 < radix) {maxDigits : Option Nat} {azp : Bool} {bits : Nat}
    {ds rest : List Char} (hds : ∀ c ∈ ds, toDigit radix c ≠ none)
    (hrest : NoDigitHead radix rest) :
    readNumber radix maxDigits azp bits (ds ++ rest) =
      if acceptsDigits radix maxDigits azp bits ds then some (digitsValue radix ds, rest)
      else none := by
  unfold readNumber acceptsDigits digitsValue
  rcases ds with _ | ⟨c, ds⟩
  · cases rest with
    | nil => cases maxDigits <;> simp [readDigitsBounded, readDigitsChecked]
    | cons c cs =>
      have hc : toDigit radix c = none := hrest
      cases maxDigits <;> simp [readDigitsBounded, readDigitsChecked, hc]
  · have hz : ∀ x : Option (Nat × List Char),
        (if (azp = false ∧ c = '0') ∧ 0 < ds.length then none else x) =
          if ((azp = true ∨ ¬c = '0') ∨ ds = []) then x else none := by
      intro x
      cases azp <;> by_cases hc : c = '0' <;> rcases ds with _ | ⟨d, ds⟩ <;> simp [hc]
    cases maxDigits with
    | none =>
      dsimp only
      rw [readDigitsChecked_append hr hds hrest 0 0 (Nat.two_pow_pos bits)]
      simp only [List.foldl_cons]
      by_cases hv : ds.foldl (pushDigit radix) (pushDigit radix 0 c) < 2 ^ bits
      · simp [hv, hz]
      · simp [hv]
    | some m =>
      dsimp only
      rw [readDigitsBounded_append hds hrest 0 0 (Nat.zero_le m)]
      simp only [List.foldl_cons, List.length_cons, Nat.zero_add]
      by_cases hm : ds.length + 1 ≤ m
      · by_cases hv : ds.foldl (pushDigit radix) (pushDigit radix 0 c) < 2 ^ bits
        · simp [hv, hz, hm]
        · simp [hv, hm]
      · simp [hm]

/-- Every text splits into its leading run of digits and a rest that does not continue it. -/
theorem exists_digit_split (radix : Nat) (s : List Char) :
    ∃ ds rest, s = ds ++ rest ∧ (∀ c ∈ ds, toDigit radix c ≠ none) ∧ NoDigitHead radix rest := by
  induction s with
  | nil => exact ⟨[], [], rfl, by simp, trivial⟩
  | cons c s ih =>
    by_cases hc : toDigit radix c = none
    · exact ⟨[], c :: s, rfl, by simp, hc⟩
    · obtain ⟨ds, rest, rfl, hds, hrest⟩ := ih
      refine ⟨c :: ds, rest, rfl, ?_, hrest⟩
      simpa [hc] using hds

/-- What a successful `read_number` consumed. -/
theorem readNumber_inv (hr : 0 < radix) {maxDigits : Option Nat} {azp : Bool} {bits : Nat}
    {s rest : List Char} {v : Nat} (h : readNumber radix maxDigits azp bits s = some (v, rest)) :
    ∃ ds, s = ds ++ rest ∧ (∀ c ∈ ds, toDigit radix c ≠ none) ∧ NoDigitHead radix rest ∧
      acceptsDigits radix maxDigits azp bits ds = true ∧ v = digitsValue radix ds := by
  obtain ⟨ds, rest', rfl, hds, hrest⟩ := exists_digit_split radix s
  rw [readNumber_append hr hds hrest] at h
  split_ifs at h with ha
  obtain ⟨rfl, rfl⟩ := Prod.mk.inj (Option.some.inj h)
  exact ⟨ds, rfl, hds, hrest, ha, rfl⟩

/-! ## Digits of `Nat.toDigits` -/

theorem toDigitsCore_acc (b : Nat) :
    ∀ f n (acc : List Char), Nat.toDigitsCore b f n acc = Nat.toDigitsCore b f n [] ++ acc := by
  intro f
  induction f with
  | zero => simp [Nat.toDigitsCore]
  | succ f ih =>
    intro n acc
    simp only [Nat.toDigitsCore]
    split_ifs
    · rfl
    · rw [ih, ih _ [_]]
      simp

theorem toDigitsCore_fuel {b : Nat} (hb : 2 ≤ b) :
    ∀ f f' n, n < f → n < f' → Nat.toDigitsCore b f n [] = Nat.toDigitsCore b f' n [] := by
  intro f
  induction f with
  | zero => intro f' n h; omega
  | succ f ih =>
    intro f' n hf hf'
    obtain ⟨f', rfl⟩ : ∃ g, f' = g + 1 := ⟨f' - 1, by omega⟩
    simp only [Nat.toDigitsCore]
    split_ifs with h0
    · rfl
    · have hlt : n / b < n :=
        Nat.div_lt_self (Nat.pos_of_ne_zero fun hn => h0 (by simp [hn])) (by omega)
      rw [toDigitsCore_acc, toDigitsCore_acc _ f', ih f' (n / b) (by omega) (by omega)]

/-- `Nat.toDigits` writes the last digit after the digits of the quotient. -/
theorem toDigits_eq {b : Nat} (hb : 2 ≤ b) (n : Nat) :
    Nat.toDigits b n =
      (if n < b then [] else Nat.toDigits b (n / b)) ++ [Nat.digitChar (n % b)] := by
  by_cases h : n < b
  · simp [Nat.toDigits, Nat.toDigitsCore, Nat.div_eq_of_lt h, h]
  · have h0 : n / b ≠ 0 := by
      rw [Ne, Nat.div_eq_zero_iff (by omega)]
      omega
    rw [if_neg h]
    conv_lhs => rw [Nat.toDigits, Nat.toDigitsCore]
    rw [if_neg h0, toDigitsCore_acc,
      toDigitsCore_fuel hb n (n / b + 1) _ (Nat.div_lt_self (by omega) (by omega)) (by omega)]
    rfl

theorem toDigit_digitChar_all :
    ∀ r < 17, ∀ d < 16, 2 ≤ r → d < r → toDigit r (Nat.digitChar d) = some d := by
  decide

theorem toDigit_digitChar {r d : Nat} (hr : r ≤ 16) (h2 : 2 ≤ r) (hd : d < r) :
    toDigit r (Nat.digitChar d) = some d :=
  toDigit_digitChar_all r (by omega) d (by omega) h2 hd

theorem digitChar_ne_zero_all : ∀ d < 16, d ≠ 0 → Nat.digitChar d ≠ '0' := by decide

section Radix

variable {b : Nat} (hb2 : 2 ≤ b) (hb : b ≤ 16)
include hb2 hb

theorem toDigits_digits (n : Nat) : ∀ c ∈ Nat.toDigits b n, toDigit b c ≠ none := by
  induction n using Nat.strong_induction_on with
  | _ n ih =>
    rw [toDigits_eq hb2]
    intro c hc
    simp only [List.mem_append, List.mem_singleton] at hc
    rcases hc with hc | rfl
    · split_ifs at hc with h
      · simp at hc
      · exact ih (n / b) (Nat.div_lt_self (by omega) (by omega)) c hc
    · rw [toDigit_digitChar hb hb2 (Nat.mod_lt _ (by omega))]
      simp

theorem digitsValue_toDigits (n : Nat) : digitsValue b (Nat.toDigits b n) = n := by
  induction n using Nat.strong_induction_on with
  | _ n ih =>
    rw [toDigits_eq hb2]
    simp only [digitsValue, List.foldl_append, List.foldl_cons, List.foldl_nil,
      pushDigit, toDigit_digitChar hb hb2 (Nat.mod_lt n (by omega)), Option.getD_some]
    split_ifs with h
    · simp [Nat.mod_eq_of_lt h]
    · have := ih (n / b) (Nat.div_lt_self (by omega) (by omega))
      simp only [digitsValue] at this
      rw [this, Nat.div_add_mod']

omit hb in
theorem toDigits_ne_nil (n : Nat) : Nat.toDigits b n ≠ [] := by
  rw [toDigits_eq hb2]
  simp

theorem toDigits_head_of_pos (n : Nat) (hn : 0 < n) : (Nat.toDigits b n).head? ≠ some '0' := by
  induction n using Nat.strong_induction_on with
  | _ n ih =>
    rw [toDigits_eq hb2]
    split_ifs with h
    · simpa using digitChar_ne_zero_all (n % b) (Nat.lt_of_lt_of_le (Nat.mod_lt _ (by omega)) hb)
        (by rw [Nat.mod_eq_of_lt h]; omega)
    · have hq : 0 < n / b := Nat.div_pos (by omega) (by omega)
      obtain ⟨c, cs, hcs⟩ := List.exists_cons_of_ne_nil (toDigits_ne_nil hb2 (n / b))
      have := ih (n / b) (Nat.div_lt_self (by omega) (by omega)) hq
      rw [hcs] at this ⊢
      simpa using this

theorem acceptsDigits_toDigits {maxDigits : Option Nat} {azp : Bool} {bits n : Nat}
    (hn : n < 2 ^ bits) (hm : ∀ m, maxDigits = some m → (Nat.toDigits b n).length ≤ m) :
    acceptsDigits b maxDigits azp bits (Nat.toDigits b n) = true := by
  have hz : (Nat.toDigits b n).head? ≠ some '0' ∨ (Nat.toDigits b n).length ≤ 1 := by
    rcases Nat.eq_zero_or_pos n with rfl | hpos
    · right; simp [Nat.toDigits, Nat.toDigitsCore]
    · left; exact toDigits_head_of_pos hb2 hb n hpos
  have hmd : maxDigits.all ((Nat.toDigits b n).length ≤ ·) = true := by
    cases maxDigits <;> simp_all
  simp only [acceptsDigits, digitsValue_toDigits hb2 hb, hn, hmd, Bool.and_eq_true,
    Bool.or_eq_true, bne_iff_ne, decide_eq_true_eq, List.isEmpty_eq_false, Bool.not_eq_true',
    toDigits_ne_nil hb2]
  have : Nat.toDigits b n ≠ [] := toDigits_ne_nil hb2 n
  tauto

/-- `read_number` reads back what `Display` wrote. -/
theorem readNumber_toDigits {maxDigits : Option Nat} {azp : Bool} {bits n : Nat}
    (hn : n < 2 ^ bits) (hm : ∀ m, maxDigits = some m → (Nat.toDigits b n).length ≤ m)
    {rest : List Char} (hrest : NoDigitHead b rest) :
    readNumber b maxDigits azp bits (Nat.toDigits b n ++ rest) = some (n, rest) := by
  rw [readNumber_append (by omega) (toDigits_digits hb2 hb n) hrest,
    acceptsDigits_toDigits hb2 hb hn hm, if_pos rfl, digitsValue_toDigits hb2 hb]

end Radix

/-- Decimal texts of numbers are equal only for equal numbers. -/
theorem toString_nat_injective : Function.Injective (toString : Nat → String) := fun n m h => by
  have hd : Nat.toDigits 10 n = Nat.toDigits 10 m := congrArg String.data h
  rw [← digitsValue_toDigits (by decide) (by decide : 10 ≤ 16) n, hd,
    digitsValue_toDigits (by decide) (by decide : 10 ≤ 16)]

end Giganto.Net
