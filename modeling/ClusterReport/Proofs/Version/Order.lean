/-
**The order of builds.**

Versions are ordered by their parts, and parts by their numbers and words, so that any two builds
can be compared and the comparisons agree with each other.  Builds in which numbers are written
compare as the lists of these numbers.  What a release decides by reaching a bound therefore grows
along the order: a later build never falls back behind the bound.

Main definitions:

* `ClusterReport.Version.OrdersByParts` — a comparison of versions is an order of their parts;
* `ClusterReport.ReleaseGate.Grows` — a figure grows along the order of versions.

Main results:

* `ClusterReport.Version.ordersByParts` — the order of versions is one of their parts;
* `ClusterReport.ReleaseGate.grows_of_atLeast` — what a bound decides grows;
* `ClusterReport.ReleaseGate.orders_builds` — **the order of builds, and what grows along it**.
-/

import ClusterReport.Proofs.Cell.Exact
import ClusterReport.Proofs.Version.Parts
import ClusterReport.ReleaseGate

set_option relaxedAutoImplicit false
set_option autoImplicit false

universe u

namespace ClusterReport

open Std (LawfulEqCmp LawfulEqOrd OrientedCmp OrientedOrd ReflCmp TransCmp TransOrd)

/-! ### Lists -/

theorem compareLex_append_cons {α : Type u} {cmp : α → α → Ordering} [ReflCmp cmp]
    (xs : List α) (y : α) (ys : List α) : List.compareLex cmp xs (xs ++ y :: ys) = .lt := by
  induction xs with
  | nil => rfl
  | cons x xs ih =>
    have hself : cmp x x = .eq := ReflCmp.compare_self
    rw [List.cons_append, List.compareLex_cons_cons, hself, ih]
    rfl

namespace Version

/-! ### Parts -/

/-- Parts are equal when their order has them in one place. -/
instance : LawfulEqCmp Part.compare where
  compare_self {p} := p.compare_self
  eq_of_compare {p q} h := by
    cases p with
    | number m =>
      cases q with
      | number n => rw [Nat.compare_eq_eq.1 h]
      | word t => cases h
    | word s =>
      cases q with
      | number n => cases h
      | word t => rw [LawfulEqOrd.compare_eq_iff_eq.1 h]

/-- The order of parts is total and transitive. -/
instance : TransCmp Part.compare where
  eq_swap {p q} := by
    cases p with
    | number m =>
      cases q with
      | number n => exact OrientedOrd.eq_swap
      | word t => rfl
    | word s =>
      cases q with
      | number n => rfl
      | word t => exact OrientedOrd.eq_swap
  isLE_trans {p q r} hpq hqr := by
    cases p with
    | number m =>
      cases r with
      | number k =>
        cases q with
        | number n => exact TransOrd.isLE_trans hpq hqr
        | word t => cases hqr
      | word t => rfl
    | word s =>
      cases q with
      | number n => cases hpq
      | word t =>
        cases r with
        | number k => cases hqr
        | word u => exact TransOrd.isLE_trans hpq hqr

theorem compareLex_map_number (ms ns : List Nat) :
    List.compareLex Part.compare (ms.map .number) (ns.map .number) =
      List.compareLex Ord.compare ms ns := by
  induction ms generalizing ns with
  | nil => cases ns <;> rfl
  | cons m ms ih =>
    cases ns with
    | nil => rfl
    | cons n ns =>
      rw [List.map_cons, List.map_cons, List.compareLex_cons_cons, List.compareLex_cons_cons, ih]
      rfl

/-! ### Versions -/

/-- The order of versions is total and transitive. -/
instance : TransCmp compare where
  eq_swap {a b} := by
    unfold compare
    exact OrientedCmp.eq_swap
  isLE_trans {a b c} hab hbc := by
    unfold compare at hab hbc ⊢
    exact TransCmp.isLE_trans hab hbc

theorem compare_eq_iff (a b : Version) : a.compare b = .eq ↔ a.parts = b.parts := by
  unfold compare
  exact LawfulEqCmp.compare_eq_iff_eq

/-- A comparison of versions orders them by their parts. -/
structure OrdersByParts (cmp : Version → Version → Ordering) : Prop where
  /-- The comparison is a total preorder, and its equality is that of the parts. -/
  preorder : OrdersTotally cmp fun a b => decide (a.parts = b.parts)
  /-- A version whose parts are the first ones of another's comes before it. -/
  first : ∀ a b : Version, a.parts <+: b.parts → a.parts ≠ b.parts → cmp a b = .lt
  /-- Versions in which numbers of 64 bits are written compare as the lists of these numbers. -/
  numbers : ∀ (a b : Version) (ms ns : List Nat), (∀ m ∈ ms, m < 2 ^ 64) → (∀ n ∈ ns, n < 2 ^ 64) →
    Spells ms a.text.toList → Spells ns b.text.toList → cmp a b = List.compareLex Ord.compare ms ns

/-- **The order of versions is an order of their parts.** -/
theorem ordersByParts : OrdersByParts compare where
  preorder := .of_transCmp fun a b => by rw [decide_eq_true_iff, compare_eq_iff]
  first a b hfirst hne := by
    obtain ⟨rest, hrest⟩ := hfirst
    cases rest with
    | nil => exact absurd (by rw [← hrest, List.append_nil]) hne
    | cons p ps =>
      rw [compare, ← hrest]
      exact compareLex_append_cons a.parts p ps
  numbers a b ms ns hms hns ha hb := by
    rw [compare, parts, parts, partsOf_of_spells ha hms, partsOf_of_spells hb hns]
    exact compareLex_map_number ms ns

/-- Numbers beyond 64 bits are not told apart. -/
example : compare ⟨"6.18446744073709551615"⟩ ⟨"6.99999999999999999999"⟩ = .eq := by decide +kernel

/-- What is not before a bound is followed by nothing that is. -/
theorem atLeast_of_isLE {a b bound : Version} (hle : (a.compare b).isLE = true)
    (ha : a.atLeast bound = true) : b.atLeast bound = true := by
  unfold atLeast at ha ⊢
  rw [OrientedCmp.isGE_iff_isLE] at ha ⊢
  exact TransCmp.isLE_trans ha hle

end Version

/-! ### Gates -/

namespace ReleaseGate

/-- A figure grows along the order of versions. -/
def Grows {α : Type u} [LE α] (figure : Version → α) : Prop :=
  ∀ a b : Version, (a.compare b).isLE = true → figure a ≤ figure b

/-- **What a bound decides grows**, if it is no less from the bound on. -/
theorem grows_of_atLeast {α : Type u} [Preorder α] {figure : Version → α} {bound : Version}
    {early late : α} (h : ∀ a, figure a = if a.atLeast bound then late else early)
    (hle : early ≤ late) : Grows figure := by
  intro a b hab
  rw [h a, h b]
  by_cases ha : a.atLeast bound = true
  · rw [if_pos ha, if_pos (Version.atLeast_of_isLE hab ha)]
  · rw [if_neg ha]
    split
    · exact hle
    · exact le_refl early

theorem lookup_from (bound : Version) (value default : Int) (build : Version) :
    lookup [(⟨some bound, none⟩, value)] default build =
      if build.atLeast bound then value else default := by
  cases h : build.atLeast bound <;> simp [lookup, VersionRange.contains, h]

/-- Reaching a bound is not being before it: the empty build, which reaches nothing, is before every
bound that has a part. -/
theorem reaches_some {bound : Version} (hbound : bound.parts ≠ []) (build : String) :
    reaches bound (some build) = Version.atLeast ⟨build⟩ bound := by
  by_cases hbuild : build = ""
  · have hbefore : Version.compare ⟨""⟩ bound = .lt := by
      unfold Version.compare
      cases h : bound.parts with
      | nil => exact absurd h hbound
      | cons p ps => rfl
    rw [hbuild, Version.atLeast, hbefore]
    rfl
  · rw [reaches, bne_iff_ne.2 hbuild, Bool.true_and]

/-- What a known release does from a bound on grows. -/
theorem grows_reaches {bound : Version} (hbound : bound.parts ≠ []) :
    Grows fun v => reaches bound (some v.text) := by
  have hgate : ∀ v : Version, reaches bound (some v.text) =
      if v.atLeast bound then true else false := by
    intro v
    rw [reaches_some hbound]
    cases v.atLeast bound <;> rfl
  exact grows_of_atLeast hgate (Bool.false_le true)

/-- **Builds are ordered by their parts, parts that are written read back, and the overhead of a
record and the formats of histograms and latencies grow along the order.** -/
theorem orders_builds :
    Version.OrdersByParts Version.compare ∧
      (∀ v : Version, (Version.ofParts v.parts).parts = v.parts) ∧
      Grows recordOverhead ∧
      Grows (fun v => hasNewHistograms (some v.text)) ∧
      Grows (fun v => hasNewLatencies (some v.text)) := by
  refine ⟨Version.ordersByParts, Version.parts_ofParts, ?_, ?_, ?_⟩
  · exact grows_of_atLeast (lookup_from ⟨"7.0.0"⟩ 39 35) (by decide)
  · exact grows_reaches (by decide)
  · exact grows_reaches (by decide)

end ReleaseGate
end ClusterReport
