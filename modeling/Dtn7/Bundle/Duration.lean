import Mathlib.Data.List.Basic

/-!
# Go's `time.ParseDuration`

The builder's `bldrParseLifetime` hands a lifetime given as a string to `time.ParseDuration`,
which is not among the sources: it is modelled from Go's standard library, in the `int64`
version of the Go releases the source was written against.  A duration string is
`[-+]?([0-9]*(\.[0-9]*)?[a-z]+)+`, or `0`; each component is a decimal number with an
optional fraction and a unit among `ns`, `us`, `µs`, `μs`, `ms`, `s`, `m` and `h`, and the
components add up.  Every overflow of `int64` is an error: in `leadingInt`, when a value is
scaled by its unit, and when the components are summed.

Two departures.  Go adds a fraction as `int64(float64(f) * (float64(unit) / scale))`; the model
takes the exact quotient `f * unit / scale`, rounded down, so it may differ from Go in the last
nanosecond of a fraction.  Go walks the string's bytes, the model its characters: the two agree
on every string of valid UTF-8, since no byte of a multi-byte character is a digit or a dot.

The one fact the builder needs is `ParseDuration_us`: the string `<n>us` is `n` microseconds
when `n * 1000` nanoseconds fit in an `int64`, and an invalid duration otherwise.
-/

namespace Dtn7

/-- The largest `int64`, `1<<63 - 1`. -/
def maxInt64 : Nat := 9223372036854775807

/-- The value of a decimal digit, `uint64(c) - '0'`. -/
def digitValue (c : Char) : Nat := c.toNat - '0'.toNat

/-- `leadingInt`: the leading `[0-9]*` of `s` read as decimal digits after `x`, and the rest of
`s`; `none` when the value leaves `int64` (`errLeadingInt`). -/
def leadingInt : List Char → Nat → Option (Nat × List Char)
  | [], x => some (x, [])
  | c :: s, x =>
    if c.isDigit then
      if x > maxInt64 / 10 then none
      else if x * 10 + digitValue c > maxInt64 then none
      else leadingInt s (x * 10 + digitValue c)
    else some (x, c :: s)

/-- `leadingFraction`: the leading `[0-9]*` of `s` as the fraction `x / scale`; once one more
digit would leave `int64`, the remaining digits are skipped. -/
def leadingFraction : List Char → Nat → Nat → Bool → Nat × Nat × List Char
  | [], x, scale, _ => (x, scale, [])
  | c :: s, x, scale, overflow =>
    if c.isDigit then
      if overflow then leadingFraction s x scale true
      else if x > maxInt64 / 10 then leadingFraction s x scale true
      else if x * 10 + digitValue c > maxInt64 then leadingFraction s x scale true
      else leadingFraction s (x * 10 + digitValue c) (scale * 10) false
    else (x, scale, c :: s)

/-- `unitMap`: the nanoseconds of each unit. -/
def unitMap : String → Option Nat
  | "ns" => some 1
  | "us" => some 1000
  | "µs" => some 1000
  | "μs" => some 1000
  | "ms" => some 1000000
  | "s" => some 1000000000
  | "m" => some 60000000000
  | "h" => some 3600000000000
  | _ => none

/-- The optional `.` and fraction after a component's integer part: the fraction
`f / scale`, the rest of the string, and whether a digit followed the dot (`post`). -/
def fractionPart : List Char → Nat × Nat × List Char × Bool
  | '.' :: s =>
    let (f, scale, s') := leadingFraction s 0 1 false
    (f, scale, s', s'.length != s.length)
  | s => (0, 1, s, false)

/-- One component `[0-9]*(\.[0-9]*)?[a-z]+` at the head of `s`: its nanoseconds and the rest of
`s`.  `orig` is the whole string, for the error texts. -/
def component (orig : String) : List Char → Except String (Nat × List Char)
  | [] => .error ("time: invalid duration " ++ orig)
  | c :: s =>
    if !(c == '.' || c.isDigit) then .error ("time: invalid duration " ++ orig) else
    match leadingInt (c :: s) 0 with
    | none => .error ("time: invalid duration " ++ orig)
    | some (v, s₁) =>
      let pre := s₁.length != (c :: s).length
      let (f, scale, s₂, post) := fractionPart s₁
      if !pre && !post then .error ("time: invalid duration " ++ orig) else
      let (u, s₃) := s₂.span fun c => !(c == '.' || c.isDigit)
      if u.isEmpty then .error ("time: missing unit in duration " ++ orig) else
      match unitMap (String.mk u) with
      | none => .error ("time: unknown unit " ++ String.mk u ++ " in duration " ++ orig)
      | some unit =>
        if v > maxInt64 / unit then .error ("time: invalid duration " ++ orig) else
        let v := v * unit + (if f > 0 then f * unit / scale else 0)
        if f > 0 ∧ v > maxInt64 then .error ("time: invalid duration " ++ orig) else
        .ok (v, s₃)

/-- The loop of `ParseDuration` over the components after the sign, each added to the
nanoseconds `d` so far.  Every component consumes a character at least, so `s.length` rounds
are enough. -/
def components (orig : String) : Nat → List Char → Nat → Except String Nat
  | _, [], d => .ok d
  | 0, _ :: _, _ => .error ("time: invalid duration " ++ orig)
  | fuel + 1, c :: s, d =>
    match component orig (c :: s) with
    | .error e => .error e
    | .ok (v, s') =>
      if d + v > maxInt64 then .error ("time: invalid duration " ++ orig)
      else components orig fuel s' (d + v)

/-- The sign of a duration string: `-` negates, `+` is dropped. -/
def stripSign : List Char → Bool × List Char
  | '-' :: t => (true, t)
  | '+' :: t => (false, t)
  | t => (false, t)

/-- `time.ParseDuration`: the duration in nanoseconds. -/
def ParseDuration (s : String) : Except String Int :=
  let (neg, t) := stripSign s.toList
  if t = ['0'] then .ok 0
  else if t = [] then .error ("time: invalid duration " ++ s)
  else match components s t.length t 0 with
    | .ok d => .ok (if neg then -(d : Int) else d)
    | .error e => .error e

example : ParseDuration "1.5h" = .ok 5400000000000 := rfl
example : ParseDuration "-3m2s" = .ok (-182000000000) := rfl
example : ParseDuration "10" = .error "time: missing unit in duration 10" := rfl

/-! ## Reading decimal digits -/

/-- The number the digits `ds` make after the digits of `x`. -/
def readDigits (x : Nat) (ds : List Char) : Nat := ds.foldl (fun a c => a * 10 + digitValue c) x

theorem le_readDigits (x : Nat) (ds : List Char) : x ≤ readDigits x ds := by
  induction ds generalizing x with
  | nil => exact le_refl x
  | cons c ds ih => exact (show x ≤ x * 10 + digitValue c by omega).trans (ih _)

/-- `leadingInt` reads a run of digits as `readDigits`, and fails exactly when the number
leaves `int64`: every prefix of the digits is a smaller number. -/
theorem leadingInt_digits (ds rest : List Char) (hds : ∀ c ∈ ds, c.isDigit = true)
    (hrest : ∀ c ∈ rest.head?, c.isDigit = false) (x : Nat) (hx : x ≤ maxInt64) :
    leadingInt (ds ++ rest) x =
      if readDigits x ds ≤ maxInt64 then some (readDigits x ds, rest) else none := by
  induction ds generalizing x with
  | nil =>
    cases rest with
    | nil => simp [leadingInt, readDigits, hx]
    | cons c rest => simp_all [leadingInt, readDigits]
  | cons c ds ih =>
    have hle := le_readDigits (x * 10 + digitValue c) ds
    rw [List.cons_append, leadingInt, if_pos (hds c (List.mem_cons_self _ _))]
    change _ = if readDigits (x * 10 + digitValue c) ds ≤ maxInt64 then _ else _
    by_cases h₁ : x > maxInt64 / 10
    · rw [if_pos h₁, if_neg (by omega)]
    by_cases h₂ : x * 10 + digitValue c > maxInt64
    · rw [if_neg h₁, if_pos h₂, if_neg (by omega)]
    · rw [if_neg h₁, if_neg h₂,
        ih (fun c hc => hds c (List.mem_cons_of_mem _ hc)) _ (by omega)]
      rfl

private theorem div_ten_lt {n : Nat} (h : ¬ n < 10) : n / 10 < n := by omega

/-- One step of `Nat.toDigitsCore` in base ten. -/
theorem toDigitsCore_succ (fuel n : Nat) (ds : List Char) :
    Nat.toDigitsCore 10 (fuel + 1) n ds =
      if n / 10 = 0 then Nat.digitChar (n % 10) :: ds
      else Nat.toDigitsCore 10 fuel (n / 10) (Nat.digitChar (n % 10) :: ds) := rfl

/-- `Nat.toDigitsCore` puts its digits before the accumulator. -/
theorem toDigitsCore_acc (fuel n : Nat) (ds : List Char) :
    Nat.toDigitsCore 10 fuel n ds = Nat.toDigitsCore 10 fuel n [] ++ ds := by
  induction fuel generalizing n ds with
  | zero => rfl
  | succ fuel ih =>
    rw [toDigitsCore_succ, toDigitsCore_succ]
    split_ifs
    · rfl
    · rw [ih, ih _ [_], List.append_assoc, List.singleton_append]

/-- Enough fuel gives `Nat.toDigits`. -/
theorem toDigitsCore_fuel (n : Nat) : ∀ fuel, n < fuel →
    Nat.toDigitsCore 10 fuel n [] = Nat.toDigits 10 n := by
  induction n using Nat.strong_induction_on with
  | _ n ih =>
    intro fuel hfuel
    obtain ⟨fuel, rfl⟩ : ∃ f, fuel = f + 1 := ⟨fuel - 1, by omega⟩
    show _ = Nat.toDigitsCore 10 (n + 1) n []
    rw [toDigitsCore_succ, toDigitsCore_succ]
    split_ifs
    · rfl
    · have hlt : n / 10 < n := div_ten_lt (by omega)
      rw [toDigitsCore_acc, toDigitsCore_acc n, ih _ hlt _ (by omega), ih _ hlt _ (by omega)]

/-- The decimal digits of `n`: those of `n / 10`, then the last one. -/
theorem toDigits_eq (n : Nat) : Nat.toDigits 10 n =
    (if n < 10 then [] else Nat.toDigits 10 (n / 10)) ++ [Nat.digitChar (n % 10)] := by
  show Nat.toDigitsCore 10 (n + 1) n [] = _
  rw [toDigitsCore_succ]
  split_ifs
  · rfl
  · omega
  · omega
  · rw [toDigitsCore_acc, toDigitsCore_fuel _ _ (div_ten_lt (by omega))]

theorem digitChar_digit : ∀ d < 10,
    (Nat.digitChar d).isDigit = true ∧ digitValue (Nat.digitChar d) = d := by
  decide

theorem toDigits_isDigit (n : Nat) : ∀ c ∈ Nat.toDigits 10 n, c.isDigit = true := by
  induction n using Nat.strong_induction_on with
  | _ n ih =>
    rw [toDigits_eq]
    intro c hc
    simp only [List.mem_append, List.mem_singleton] at hc
    rcases hc with hc | rfl
    · split at hc
      · simp at hc
      · exact ih _ (div_ten_lt ‹_›) c hc
    · exact (digitChar_digit _ (Nat.mod_lt _ (by decide))).1

theorem readDigits_toDigits (n : Nat) : readDigits 0 (Nat.toDigits 10 n) = n := by
  induction n using Nat.strong_induction_on with
  | _ n ih =>
    rw [toDigits_eq]
    have hd := (digitChar_digit (n % 10) (Nat.mod_lt _ (by decide))).2
    split
    · simp [readDigits, hd]
      omega
    · have := ih _ (div_ten_lt ‹_›)
      simp only [readDigits, List.foldl_append, List.foldl_cons, List.foldl_nil] at this ⊢
      rw [this, hd]
      omega

theorem toDigits_ne_nil (n : Nat) : Nat.toDigits 10 n ≠ [] := by
  rw [toDigits_eq]
  simp

/-! ## Durations in microseconds -/

theorem stripSign_of_isDigit {c : Char} (hc : c.isDigit = true) (t : List Char) :
    stripSign (c :: t) = (false, c :: t) := by
  unfold stripSign
  split <;> simp_all [Char.isDigit]

/-- A component `<digits>us` is that many microseconds, when they fit in an `int64` as
nanoseconds. -/
theorem component_us (orig : String) (ds : List Char) (hne : ds ≠ [])
    (hds : ∀ c ∈ ds, c.isDigit = true) :
    component orig (ds ++ ['u', 's']) =
      if readDigits 0 ds ≤ maxInt64 / 1000 then .ok (readDigits 0 ds * 1000, [])
      else .error ("time: invalid duration " ++ orig) := by
  obtain ⟨c, cs, rfl⟩ := List.exists_cons_of_ne_nil hne
  have hlead := leadingInt_digits (c :: cs) ['u', 's'] hds (by simp) 0 (Nat.zero_le _)
  rw [List.cons_append] at hlead ⊢
  by_cases hn : readDigits 0 (c :: cs) ≤ maxInt64
  · rw [if_pos hn] at hlead
    have hfrac : fractionPart ['u', 's'] = (0, 1, ['u', 's'], false) := rfl
    have hspan : (['u', 's'] : List Char).span (fun c => !(c == '.' || c.isDigit)) =
      (['u', 's'], []) := rfl
    have hunit : unitMap (String.mk ['u', 's']) = some 1000 := rfl
    have hpre : (['u', 's'].length != (c :: (cs ++ ['u', 's'])).length) = true := by simp
    simp only [component, hds c (List.mem_cons_self _ _), hlead, hfrac, hspan, hunit, hpre,
      Bool.or_true, Bool.not_true, Bool.false_and, Bool.false_eq_true, if_false,
      List.isEmpty_cons, Nat.lt_irrefl, gt_iff_lt, false_and]
    split_ifs <;> first | omega | simp
  · rw [if_neg hn] at hlead
    simp only [component, hds c (List.mem_cons_self _ _), hlead, Bool.or_true, Bool.not_true,
      Bool.false_eq_true, if_false]
    rw [if_neg (by omega)]

/-- `<n>us` is `n` microseconds when `n * 1000` nanoseconds fit in an `int64`, and an invalid
duration otherwise. -/
theorem ParseDuration_us (n : Nat) : ParseDuration (toString n ++ "us") =
    if n ≤ maxInt64 / 1000 then .ok (n * 1000 : Nat)
    else .error ("time: invalid duration " ++ (toString n ++ "us")) := by
  obtain ⟨c, cs, hcs⟩ := List.exists_cons_of_ne_nil (toDigits_ne_nil n)
  have hc : c.isDigit = true := toDigits_isDigit n c (by rw [hcs]; exact List.mem_cons_self _ _)
  have hcomp := component_us (toString n ++ "us") _ (toDigits_ne_nil n) (toDigits_isDigit n)
  have hchars : (toString n ++ "us").toList = c :: (cs ++ ['u', 's']) := by
    rw [← List.cons_append, ← hcs]; rfl
  rw [readDigits_toDigits, hcs, List.cons_append] at hcomp
  simp only [ParseDuration, hchars, stripSign_of_isDigit hc, List.length_cons]
  rw [if_neg (by simp), if_neg (by simp), components, hcomp]
  by_cases h : n ≤ maxInt64 / 1000
  · simp only [if_pos h]
    rw [if_neg (by omega), components]
    simp
  · simp only [if_neg h]

end Dtn7
