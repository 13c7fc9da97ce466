/-
**Blank characters.**

The blank characters are those with the Unicode property `White_Space`.  Numbers written as text
are read after trimming them, and long titles are broken at them.

Main definitions:

* `ClusterReport.Text.isBlank` — the property, as a table of ranges;
* `ClusterReport.Text.trim` — a text without the blanks at its two ends.

Main results:

* `ClusterReport.Text.isBlank_of_mem_toDigits` — the digits of a number are no blanks;
* `ClusterReport.Text.trim_of_edges` — a text that neither starts nor ends with a blank is left
  as it is;
* `ClusterReport.Text.trim_of_none` — and so is a text without blanks.
-/

set_option relaxedAutoImplicit false
set_option autoImplicit false

namespace ClusterReport.Text

/-- The characters with the Unicode property `White_Space`. -/
def isBlank (c : Char) : Bool :=
  let n := c.toNat
  (9 ≤ n && n ≤ 13) || n == 0x20 || n == 0x85 || n == 0xA0 || n == 0x1680
    || (0x2000 ≤ n && n ≤ 0x200A) || n == 0x2028 || n == 0x2029 || n == 0x202F
    || n == 0x205F || n == 0x3000

theorem isBlank_of_isDigit {c : Char} (h : c.isDigit = true) : isBlank c = false := by
  have hc : 48 ≤ c.toNat ∧ c.toNat ≤ 57 := Char.isDigit_iff_toNat.mp h
  have heq : ∀ n : Nat, n < 48 ∨ 57 < n → (c.toNat == n) = false := by
    intro n hn
    rw [beq_eq_false_iff_ne]
    omega
  have hlow : (decide (c.toNat ≤ 13)) = false := by simp; omega
  have hhigh : (decide (0x2000 ≤ c.toNat)) = false := by simp; omega
  simp only [isBlank, hlow, hhigh, Bool.and_false, Bool.false_and]
  simp [heq]

/-- The digits of a number are no blanks. -/
theorem isBlank_of_mem_toDigits {n : Nat} {c : Char} (h : c ∈ Nat.toDigits 10 n) :
    isBlank c = false :=
  isBlank_of_isDigit (Nat.isDigit_of_mem_toDigits (by decide) (by decide) h)

/-- The text without the blanks at its start and at its end. -/
def trim (s : List Char) : List Char :=
  ((s.dropWhile isBlank).reverse.dropWhile isBlank).reverse

/-- A text whose first and last characters are no blanks is its own trimmed form. -/
theorem trim_of_edges (s : List Char)
    (hfirst : ∀ c ∈ s.head?, isBlank c = false) (hlast : ∀ c ∈ s.getLast?, isBlank c = false) :
    trim s = s := by
  have keep : ∀ t : List Char, (∀ c ∈ t.head?, isBlank c = false) → t.dropWhile isBlank = t := by
    intro t ht
    cases t with
    | nil => rfl
    | cons c r => simp [List.dropWhile, ht c (by simp)]
  unfold trim
  rw [keep s hfirst, keep s.reverse (by simpa using hlast), List.reverse_reverse]

/-- A text without blanks is its own trimmed form. -/
theorem trim_of_none {s : List Char} (h : ∀ c ∈ s, isBlank c = false) : trim s = s :=
  trim_of_edges s (fun c hc => h c (List.mem_of_mem_head? hc))
    fun c hc => h c (List.mem_of_getLast? hc)

end ClusterReport.Text
