/-
**What reductions make of cells.**

A reduction reads the values among some cells and nothing else.  Absent cells may be put in or left
out anywhere, the first error decides, and without errors and values there is nothing to show.  The
least and the greatest value are among the values and bound all of them.  Integers that are not
negative are added exactly: the running total never exceeds their sum, so it stays within 64 bits
to the end if the sum does, and in whatever order they come it leaves them if the sum does not.

Main definitions:

* `ClusterReport.Sheet.present` — the cells that are not absent;
* `ClusterReport.Sheet.Holds` — that cells without errors hold some values;
* `ClusterReport.Sheet.ReducesCells` — what reductions make of cells.

Main results:

* `ClusterReport.Sheet.Reduction.ofCells_of_holds` — only the values count;
* `ClusterReport.Sheet.Reduction.foldlM_add_int` — the running total of integers;
* `ClusterReport.Sheet.Reduction.reducesCells_ofCells` — **absent cells are passed over, the first
  error decides, the least and the greatest value bound all values, and integers are added exactly
  in every order**.
-/

import ClusterReport.Proofs.Cell.Exact
import ClusterReport.Sheet.Reduction
import Mathlib.Algebra.BigOperators.Group.List.Basic
import Mathlib.Algebra.Order.BigOperators.Group.List

set_option relaxedAutoImplicit false
set_option autoImplicit false

universe u

namespace ClusterReport.Sheet

/-! ### Cells and their values -/

/-- The cells that are not absent. -/
def present (cells : List (Cell Scalar)) : List (Cell Scalar) :=
  cells.filter fun c => !c.isAbsent

/-- Cells hold some values if none is an error and these are the values among them. -/
structure Holds (cells : List (Cell Scalar)) (values : List Scalar) : Prop where
  isError_eq_false : ∀ c ∈ cells, c.isError = false
  filterMap_eq : cells.filterMap Cell.value? = values

theorem Holds.exists_perm {cells cells' : List (Cell Scalar)} {values : List Scalar}
    (h : Holds cells values) (hperm : cells.Perm cells') :
    ∃ values', values.Perm values' ∧ Holds cells' values' := by
  refine ⟨cells'.filterMap Cell.value?, ?_, fun c hc => ?_, rfl⟩
  · rw [← h.filterMap_eq]
    exact hperm.filterMap _
  · exact h.isError_eq_false c (hperm.mem_iff.2 hc)

namespace Reduction

theorem filterMap_present {β : Type u} {f : Cell Scalar → Option β} (h : f .absent = none)
    (cells : List (Cell Scalar)) : (present cells).filterMap f = cells.filterMap f := by
  rw [present, List.filterMap_filter]
  refine List.filterMap_congr fun c _ => ?_
  cases c with
  | absent => exact h.symm
  | value value => rfl
  | error cause => rfl

/-- The first error is found whatever is absent before it. -/
theorem firstError?_eq_head? (cells : List (Cell Scalar)) :
    firstError? cells = ((present cells).filterMap fun
      | .error cause => some cause
      | _ => none).head? := by
  rw [filterMap_present rfl, List.head?_filterMap]
  rfl

theorem firstError?_eq_none {cells : List (Cell Scalar)} (h : ∀ c ∈ cells, c.isError = false) :
    firstError? cells = none := by
  rw [firstError?, List.findSome?_eq_none_iff]
  intro c hc
  cases c with
  | value value => rfl
  | absent => rfl
  | error cause => exact absurd (h _ hc) (by simp [Cell.isError])

theorem firstError?_append {before : List (Cell Scalar)} (h : ∀ c ∈ before, c.isError = false)
    (cause : String) (after : List (Cell Scalar)) :
    firstError? (before ++ .error cause :: after) = some cause := by
  have hnone := firstError?_eq_none h
  rw [firstError?] at hnone ⊢
  rw [List.findSome?_append, hnone]
  rfl

theorem ofCells_congr (r : Reduction) {cells cells' : List (Cell Scalar)}
    (h : present cells = present cells') : r.ofCells cells = r.ofCells cells' := by
  have hvalues : ∀ cs : List (Cell Scalar),
      cs.filterMap Cell.value? = (present cs).filterMap Cell.value? := fun cs =>
    (filterMap_present rfl cs).symm
  unfold ofCells
  rw [firstError?_eq_head? cells, firstError?_eq_head? cells', hvalues cells, hvalues cells', h]

/-- Cells without errors are reduced as the values they hold. -/
theorem ofCells_of_holds (r : Reduction) {cells : List (Cell Scalar)} {values : List Scalar}
    (h : Holds cells values) (hvalues : values ≠ []) :
    r.ofCells cells =
      match r.ofValues values with
      | some value => .value value
      | none => .error "cannot aggregate non-numeric values" := by
  obtain ⟨first, rest, rfl⟩ := List.exists_cons_of_ne_nil hvalues
  rewrite [ofCells, firstError?_eq_none h.isError_eq_false, h.filterMap_eq]
  rfl

/-! ### Least and greatest values -/

/-- A running choice that is below what it was made of ends below everything. -/
theorem foldl_choice (choose : Scalar → Scalar → Scalar) (below : Scalar → Scalar → Prop)
    (hrefl : ∀ a, below a a) (htrans : ∀ a b c, below a b → below b c → below a c)
    (hchoice : ∀ a b, choose a b = a ∨ choose a b = b)
    (hbelow : ∀ a b, below (choose a b) a ∧ below (choose a b) b) (first : Scalar)
    (rest : List Scalar) :
    rest.foldl choose first ∈ first :: rest ∧
      ∀ w ∈ first :: rest, below (rest.foldl choose first) w := by
  induction rest generalizing first with
  | nil => exact ⟨List.mem_cons_self, List.forall_mem_singleton.2 (hrefl first)⟩
  | cons second rest ih =>
      obtain ⟨hmem, hall⟩ := ih (choose first second)
      have hchosen := hall _ List.mem_cons_self
      have hrest := (List.forall_mem_cons.1 hall).2
      refine ⟨?_, List.forall_mem_cons.2 ⟨?_, List.forall_mem_cons.2 ⟨?_, hrest⟩⟩⟩
      · rw [List.foldl_cons]
        rcases List.mem_cons.1 hmem with hmem | hmem
        · rw [hmem]
          rcases hchoice first second with h | h <;> simp [h]
        · exact List.mem_cons_of_mem _ (List.mem_cons_of_mem _ hmem)
      · exact htrans _ _ _ hchosen (hbelow first second).1
      · exact htrans _ _ _ hchosen (hbelow first second).2

theorem ordersTotally_compare : OrdersTotally Scalar.compare Scalar.same :=
  .of_transCmp Scalar.same_iff

theorem isLE_compare_self (a : Scalar) : (a.compare a).isLE = true := by
  rw [ordersTotally_compare.refl a]
  rfl

theorem exists_least? {values : List Scalar} (h : values ≠ []) :
    ∃ v ∈ values, least? values = some v ∧ ∀ w ∈ values, (v.compare w).isLE = true := by
  obtain ⟨first, rest, rfl⟩ := List.exists_cons_of_ne_nil h
  obtain ⟨hmem, hall⟩ := foldl_choice (fun best v => if (best.compare v).isLE then best else v)
    (fun a b => (a.compare b).isLE = true) isLE_compare_self
    ordersTotally_compare.trans (fun a b => ite_eq_or_eq _ a b)
    (fun a b => by
      split
      case isTrue hle => exact ⟨isLE_compare_self a, hle⟩
      case isFalse hgt =>
        exact ⟨(ordersTotally_compare.total a b).resolve_left hgt, isLE_compare_self b⟩) first rest
  exact ⟨_, hmem, rfl, hall⟩

theorem exists_greatest? {values : List Scalar} (h : values ≠ []) :
    ∃ v ∈ values, greatest? values = some v ∧ ∀ w ∈ values, (w.compare v).isLE = true := by
  obtain ⟨first, rest, rfl⟩ := List.exists_cons_of_ne_nil h
  obtain ⟨hmem, hall⟩ := foldl_choice (fun best v => if (best.compare v).isLE then v else best)
    (fun a b => (b.compare a).isLE = true) isLE_compare_self
    (fun a b c hba hcb => ordersTotally_compare.trans c b a hcb hba)
    (fun a b => (ite_eq_or_eq _ b a).symm)
    (fun a b => by
      split
      case isTrue hle => exact ⟨hle, isLE_compare_self b⟩
      case isFalse hgt =>
        exact ⟨isLE_compare_self a, (ordersTotally_compare.total a b).resolve_left hgt⟩) first rest
  exact ⟨_, hmem, rfl, hall⟩

/-! ### Sums -/

/-- The running total of integers that are not negative reaches their sum if that fits 64 bits, and
fails if it does not. -/
theorem foldlM_add_int {start : Int} (hstart : Integer.fitsInt64 start = true) {ns : List Int}
    (h : ∀ n ∈ ns, 0 ≤ n) :
    (ns.map Scalar.int).foldlM add (.int start) =
      if Integer.fitsInt64 (start + ns.sum) then some (.int (start + ns.sum)) else none := by
  induction ns generalizing start with
  | nil => simp [hstart]
  | cons n rest ih =>
      obtain ⟨hn, hrest⟩ := List.forall_mem_cons.1 h
      rw [List.map_cons, List.foldlM_cons, List.sum_cons, ← Int.add_assoc]
      change (if Integer.fitsInt64 (start + n) then some (Scalar.int (start + n)) else none).bind
        _ = _
      split
      case isTrue hfits => exact ih hfits hrest
      case isFalse hlarge =>
        -- what has left 64 bits upwards does not come back
        have hsum : 0 ≤ rest.sum := List.sum_nonneg hrest
        have hstill : ¬ Integer.fitsInt64 (start + n + rest.sum) = true := by
          rw [Integer.fitsInt64_iff] at hstart hlarge ⊢
          omega
        rw [if_neg hstill]
        rfl

/-! ### Reductions -/

end Reduction

/-- What reductions make of cells: absent cells are passed over, the first error decides, and the
values are compared and added exactly. -/
structure ReducesCells (reduce : List (Cell Scalar) → Reduction → Cell Scalar) : Prop where
  /-- Absent cells may be put in or left out anywhere. -/
  absent : ∀ (r : Reduction) (cells cells' : List (Cell Scalar)),
    present cells = present cells' → reduce cells r = reduce cells' r
  /-- The first error decides. -/
  error : ∀ (r : Reduction) (before : List (Cell Scalar)) (cause : String)
    (after : List (Cell Scalar)), (∀ c ∈ before, c.isError = false) →
      reduce (before ++ .error cause :: after) r = .error cause
  /-- Without errors and values there is nothing to show. -/
  nothing : ∀ (r : Reduction) (cells : List (Cell Scalar)), (∀ c ∈ cells, c = .absent) →
    reduce cells r = .absent
  /-- The least value is one of the values and at most all of them. -/
  least : ∀ (cells : List (Cell Scalar)) (values : List Scalar), Holds cells values →
    values ≠ [] → ∃ v ∈ values, reduce cells .least = .value v ∧
      ∀ w ∈ values, (v.compare w).isLE = true
  /-- The greatest value is one of the values and at least all of them. -/
  greatest : ∀ (cells : List (Cell Scalar)) (values : List Scalar), Holds cells values →
    values ≠ [] → ∃ v ∈ values, reduce cells .greatest = .value v ∧
      ∀ w ∈ values, (w.compare v).isLE = true
  /-- Integers that are not negative make their exact sum in every order, or an error if it does not
  fit 64 bits. -/
  sum : ∀ (cells : List (Cell Scalar)) (ns : List Int), Holds cells (ns.map .int) → ns ≠ [] →
    (∀ n ∈ ns, 0 ≤ n) → ∀ cells', cells.Perm cells' →
      reduce cells' .sum =
        if Integer.fitsInt64 ns.sum then .value (.int ns.sum)
        else .error "cannot aggregate non-numeric values"

namespace Reduction

/-- **Reductions pass over absent cells, are decided by the first error, and compare and add values
exactly.** -/
theorem reducesCells_ofCells : ReducesCells ofCells where
  absent r cells cells' h := ofCells_congr r h
  error r before cause after h := ofCells_error r _ cause (firstError?_append h cause after)
  nothing := ofCells_absent
  least cells values h hvalues := by
    obtain ⟨v, hv, hleast, hall⟩ := exists_least? hvalues
    refine ⟨v, hv, ?_, hall⟩
    rw [ofCells_of_holds .least h hvalues, ofValues, hleast]
  greatest cells values h hvalues := by
    obtain ⟨v, hv, hgreatest, hall⟩ := exists_greatest? hvalues
    refine ⟨v, hv, ?_, hall⟩
    rw [ofCells_of_holds .greatest h hvalues, ofValues, hgreatest]
  sum cells ns h hns hnonneg cells' hperm := by
    obtain ⟨values', hvalues, h'⟩ := h.exists_perm hperm
    -- what is held in another order are the same integers in another order
    obtain ⟨ns', rfl, hns'⟩ : ∃ ns' : List Int, values' = ns'.map .int ∧ ns'.Perm ns :=
      (congrFun₂ (List.eq_map_comp_perm Scalar.int) values' ns).mpr hvalues.symm
    have hnonempty : ns'.map Scalar.int ≠ [] := by
      rw [Ne, List.map_eq_nil_iff]
      rintro rfl
      exact hns hns'.nil_eq.symm
    have hzero : Integer.fitsInt64 0 = true := rfl
    have htotal := foldlM_add_int hzero fun n hn => hnonneg n (hns'.mem_iff.1 hn)
    rw [Int.zero_add, hns'.sum_eq] at htotal
    rw [ofCells_of_holds .sum h' hnonempty, ofValues, total, htotal]
    cases Integer.fitsInt64 ns.sum <;> rfl

/-- One more than the greatest integer of 64 bits is no sum. -/
example : sum.ofCells [.value (.int 9223372036854775807), .absent, .value (.int 1)] =
    .error "cannot aggregate non-numeric values" := rfl

end Reduction
end ClusterReport.Sheet
