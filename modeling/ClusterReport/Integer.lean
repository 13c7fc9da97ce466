/-
**Integers of 64 bits and their decimal texts.**

Counters and sizes are integers, kept within 64 bits where a text is read or a number is narrowed;
arithmetic that goes beyond the range wraps around.
An integer's text is an optional sign and decimal digits.

Main definitions:

* `ClusterReport.Integer.int64Min`, `int64Max`, `nat64Max` — the ends of the two ranges;
* `ClusterReport.Integer.wrapInt64`, `wrapNat64` — integers wrapped around into them;
* `ClusterReport.Integer.sum`, `natSum` — the sum of integers, and of counts;
* `ClusterReport.Integer.toText` — the decimal text of an integer;
* `ClusterReport.Integer.digitsValue` — the number that a run of digits stands for;
* `ClusterReport.Integer.int64Of?`, `ClusterReport.Integer.nat64Of?` — integers read from text.

Main results:

* `ClusterReport.Integer.nat64Of?_toDigits`, `ClusterReport.Integer.int64Of?_toText` — the decimal
  text of an integer within the range reads back;
* `ClusterReport.Integer.nat64Of?_le` — nothing beyond the range is read;
* `ClusterReport.Integer.not_mem_toText` — it holds nothing but digits and a sign.
-/

set_option relaxedAutoImplicit false
set_option autoImplicit false

namespace ClusterReport.Integer

/-! ### Ranges -/

/-- The least signed integer of 64 bits. -/
def int64Min : Int := -9223372036854775808

/-- The greatest signed integer of 64 bits. -/
def int64Max : Int := 9223372036854775807

/-- The greatest unsigned integer of 64 bits. -/
def nat64Max : Nat := 18446744073709551615

def fitsInt64 (n : Int) : Bool := int64Min ≤ n && n ≤ int64Max

/-- The nearest integer of the signed range. -/
def clampInt64 (n : Int) : Int := min int64Max (max int64Min n)

theorem fitsInt64_iff (n : Int) :
    fitsInt64 n = true ↔ -9223372036854775808 ≤ n ∧ n ≤ 9223372036854775807 := by
  unfold fitsInt64
  rw [Bool.and_eq_true, decide_eq_true_eq, decide_eq_true_eq, int64Min, int64Max]

theorem fitsInt64_clampInt64 (n : Int) : fitsInt64 (clampInt64 n) = true := by
  rw [fitsInt64_iff]
  unfold clampInt64 int64Min int64Max
  omega

theorem clampInt64_of_fits (n : Int) (h : fitsInt64 n = true) : clampInt64 n = n := by
  rw [fitsInt64_iff] at h
  unfold clampInt64 int64Min int64Max
  omega

/-- The signed integer of 64 bits that arithmetic ends up with, instead of one beyond the range. -/
def wrapInt64 (n : Int) : Int := n.bmod (nat64Max + 1)

/-- The unsigned integer of 64 bits that arithmetic ends up with, instead of one beyond the
range. -/
def wrapNat64 (n : Nat) : Nat := n % (nat64Max + 1)

theorem fitsInt64_wrapInt64 (n : Int) : fitsInt64 (wrapInt64 n) = true := by
  have hlow := Int.le_bmod (x := n) (m := nat64Max + 1) (Nat.succ_pos _)
  have hhigh := Int.bmod_lt (x := n) (m := nat64Max + 1) (Nat.succ_pos _)
  rw [fitsInt64_iff, wrapInt64]
  unfold nat64Max at hlow hhigh ⊢
  omega

theorem wrapNat64_of_le {n : Nat} (h : n ≤ nat64Max) : wrapNat64 n = n :=
  Nat.mod_eq_of_lt (Nat.lt_succ_of_le h)

/-! ### Sums -/

/-- The sum of integers. -/
def sum : List Int → Int
  | [] => 0
  | n :: rest => n + sum rest

@[simp] theorem sum_cons (n : Int) (rest : List Int) : sum (n :: rest) = n + sum rest := rfl

/-- The sum of counts. -/
def natSum : List Nat → Nat
  | [] => 0
  | n :: rest => n + natSum rest

@[simp] theorem natSum_nil : natSum [] = 0 := rfl

@[simp] theorem natSum_cons (n : Nat) (rest : List Nat) : natSum (n :: rest) = n + natSum rest :=
  rfl

theorem natSum_append (ms ns : List Nat) : natSum (ms ++ ns) = natSum ms + natSum ns := by
  induction ms with
  | nil => rw [List.nil_append, natSum_nil, Nat.zero_add]
  | cons m rest ih => rw [List.cons_append, natSum_cons, ih, natSum_cons, Nat.add_assoc]

/-! ### Texts -/

/-- The decimal text of an integer. -/
def toText (n : Int) : List Char :=
  if n < 0 then '-' :: Nat.toDigits 10 n.natAbs else Nat.toDigits 10 n.natAbs

theorem toText_natCast (n : Nat) : toText n = Nat.toDigits 10 n :=
  if_neg (Int.not_lt.2 (Int.natCast_nonneg n))

theorem ofList_toText (n : Int) : String.ofList (toText n) = toString n := by
  unfold toText
  split
  case isTrue h =>
    obtain ⟨m, rfl⟩ := Int.eq_negSucc_of_lt_zero h
    exact @String.ofList_append ['-'] _
  case isFalse h =>
    obtain ⟨m, rfl⟩ := Int.eq_ofNat_of_zero_le (Int.not_lt.1 h)
    rfl

theorem not_mem_toDigits {c : Char} (hc : c.isDigit = false) (n : Nat) :
    c ∉ Nat.toDigits 10 n := by
  intro h
  rw [Nat.isDigit_of_mem_toDigits (by decide) (by decide) h] at hc
  cases hc

/-- The text of an integer holds nothing but digits and a sign. -/
theorem not_mem_toText {c : Char} (hc : c.isDigit = false) (hsign : c ≠ '-') (n : Int) :
    c ∉ toText n := by
  unfold toText
  split
  · rw [List.mem_cons, not_or]
    exact ⟨hsign, not_mem_toDigits hc _⟩
  · exact not_mem_toDigits hc _

/-- The number that a run of digits stands for. -/
def digitsValue (ds : List Char) : Nat := Nat.ofDigitChars 10 ds 0

@[simp] theorem digitsValue_toDigits (n : Nat) : digitsValue (Nat.toDigits 10 n) = n :=
  Nat.ofDigitChars_ten_toDigits

theorem digitsValue_replicate_append (zeros : Nat) (ds : List Char) :
    digitsValue (List.replicate zeros '0' ++ ds) = digitsValue ds := by
  induction zeros with
  | zero => rfl
  | succ k ih =>
    rw [List.replicate_succ, List.cons_append, ← ih]
    exact Nat.ofDigitChars_cons

/-- Digits stand for a number of no more digits. -/
theorem digitsValue_lt {ds : List Char} (h : ∀ c ∈ ds, c.isDigit = true) :
    digitsValue ds < Nat.pow 10 ds.length := by
  induction ds with
  | nil => exact Nat.one_pos
  | cons c rest ih =>
    obtain ⟨hc, hrest⟩ := List.forall_mem_cons.1 h
    have hdigit : c.toNat - '0'.toNat ≤ 9 := by
      have hle := (Char.isDigit_iff_toNat.1 hc).2
      exact Nat.sub_le_sub_right hle 48
    have hmul := Nat.mul_le_mul_left (Nat.pow 10 rest.length) hdigit
    have hrest := ih hrest
    unfold digitsValue at hrest ⊢
    rw [Nat.pow_eq] at hmul hrest ⊢
    rw [Nat.ofDigitChars_cons, Nat.ofDigitChars_eq_ofDigitChars_zero, Nat.mul_zero, Nat.zero_add,
      List.length_cons, Nat.pow_succ]
    omega

/-- The number that a run of at least one digit and nothing else stands for. -/
def natOf? (ds : List Char) : Option Nat :=
  if !ds.isEmpty && ds.all Char.isDigit then some (digitsValue ds) else none

@[simp] theorem natOf?_toDigits (n : Nat) : natOf? (Nat.toDigits 10 n) = some n := by
  have hall : (Nat.toDigits 10 n).all Char.isDigit = true := by
    rw [List.all_eq_true]
    intro c hc
    exact Nat.isDigit_of_mem_toDigits (by decide) (by decide) hc
  have hne : (Nat.toDigits 10 n).isEmpty = false := by
    simp [Nat.toDigits_ne_nil]
  simp [natOf?, hall, hne]

/-- The sign at the start of a text, and the rest. -/
def splitSign : List Char → Bool × List Char
  | '-' :: rest => (true, rest)
  | '+' :: rest => (false, rest)
  | s => (false, s)

theorem splitSign_of_isDigit (c : Char) (rest : List Char) (h : c.isDigit = true) :
    splitSign (c :: rest) = (false, c :: rest) := by
  unfold splitSign
  split
  · rename_i heq
    injection heq with hc _
    subst hc
    exact absurd h (by decide)
  · rename_i heq
    injection heq with hc _
    subst hc
    exact absurd h (by decide)
  · rfl

@[simp] theorem splitSign_toDigits (n : Nat) :
    splitSign (Nat.toDigits 10 n) = (false, Nat.toDigits 10 n) := by
  cases h : Nat.toDigits 10 n with
  | nil => exact absurd h Nat.toDigits_ne_nil
  | cons c rest =>
    refine splitSign_of_isDigit c rest ?_
    exact Nat.isDigit_of_mem_toDigits (b := 10) (n := n) (by decide) (by decide) (by simp [h])

/-- An unsigned integer of 64 bits: digits behind an optional plus sign. -/
def nat64Of? (s : List Char) : Option Nat :=
  match splitSign s with
  | (true, _) => none
  | (false, digits) => (natOf? digits).filter (· ≤ nat64Max)

/-- A signed integer of 64 bits: digits behind an optional sign. -/
def int64Of? (s : List Char) : Option Int :=
  match splitSign s with
  | (true, digits) => ((natOf? digits).map fun n => -Int.ofNat n).filter fitsInt64
  | (false, digits) => ((natOf? digits).map Int.ofNat).filter fitsInt64

/-- What is read is within the range. -/
theorem nat64Of?_le {s : List Char} {n : Nat} (h : nat64Of? s = some n) : n ≤ nat64Max := by
  unfold nat64Of? at h
  split at h
  · cases h
  · exact of_decide_eq_true (Option.filter_eq_some_iff.1 h).2

/-- The digits of a number within the range read back. -/
theorem nat64Of?_toDigits (n : Nat) (h : n ≤ nat64Max) :
    nat64Of? (Nat.toDigits 10 n) = some n := by
  simp [nat64Of?, h]

/-- The text of an integer within the range reads back. -/
theorem int64Of?_toText (n : Int) (h : fitsInt64 n = true) : int64Of? (toText n) = some n := by
  unfold toText
  split
  · rename_i hneg
    have habs : -Int.ofNat n.natAbs = n := by rw [Int.ofNat_eq_natCast]; omega
    simp only [int64Of?, splitSign, natOf?_toDigits, Option.map_some, habs]
    simp [h]
  · rename_i hpos
    have habs : Int.ofNat n.natAbs = n := by rw [Int.ofNat_eq_natCast]; omega
    simp only [int64Of?, splitSign_toDigits, natOf?_toDigits, Option.map_some, habs]
    simp [h]

end ClusterReport.Integer
