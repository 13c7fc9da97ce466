/-
**Stable sorting and runs.**

Elements compared by a total and transitive order are sorted stably: those that have the same place
stand in the sorted list as they stood before.  A sorted list is cut into runs of elements of one
place, and each run holds all elements of its place, so that the runs partition the list by place
and stand in strictly increasing order.

Main results:

* `ClusterReport.filter_mergeSort`, `pairwise_mergeSort_of_pairwise` — **sorting keeps the elements
  of one place in their order**;
* `ClusterReport.pairwise_runs` — the runs of a sorted list increase strictly;
* `ClusterReport.eq_filter_of_mem_runs` — a run holds all elements of its place.
-/

import Mathlib.Data.List.SplitBy

set_option relaxedAutoImplicit false
set_option autoImplicit false

universe u

namespace ClusterReport

open Std (OrientedCmp ReflCmp TransCmp)

variable {α : Type u} {cmp : α → α → Ordering} [TransCmp cmp]

/-! ### Sorting -/

theorem isLE_total (a b : α) : ((cmp a b).isLE || (cmp b a).isLE) = true := by
  rw [@OrientedCmp.eq_swap α cmp _ b a]
  cases cmp a b <;> rfl

theorem pairwise_isLE_mergeSort (l : List α) :
    (l.mergeSort fun a b => (cmp a b).isLE).Pairwise fun a b => (cmp a b).isLE = true :=
  List.pairwise_mergeSort (fun _ _ _ => TransCmp.isLE_trans) isLE_total l

/-- **Sorting keeps the elements of one place in their order.** -/
theorem filter_mergeSort (p : α → Bool)
    (hp : ∀ a b, p a = true → p b = true → (cmp a b).isLE = true) (l : List α) :
    (l.mergeSort fun a b => (cmp a b).isLE).filter p = l.filter p := by
  -- the kept elements are in order as they stand, so they are a sublist of the sorted list
  have hle : (l.filter p).Pairwise fun a b => (cmp a b).isLE = true := by
    rw [List.pairwise_filter]
    exact List.pairwise_of_forall fun a b ha hb => hp a b ha hb
  have hsub : (l.filter p).Sublist (l.mergeSort fun a b => (cmp a b).isLE) :=
    List.sublist_mergeSort (fun _ _ _ => TransCmp.isLE_trans) isLE_total hle List.filter_sublist
  have hsub' : (l.filter p).Sublist ((l.mergeSort fun a b => (cmp a b).isLE).filter p) := by
    have h := hsub.filter p
    rwa [List.filter_filter, funext fun a => Bool.and_self (p a)] at h
  -- and there are as many of them in both
  have hperm := (List.mergeSort_perm l fun a b => (cmp a b).isLE).filter p
  exact (hsub'.eq_of_length hperm.length_eq.symm).symm

/-- Sorted elements stand in the order, and those of one place go on as they did. -/
theorem pairwise_mergeSort_of_pairwise {r : α → α → Prop} {l : List α} (h : l.Pairwise r) :
    (l.mergeSort fun a b => (cmp a b).isLE).Pairwise fun a b =>
      cmp a b = .lt ∨ cmp a b = .eq ∧ r a b := by
  have hsorted : (l.mergeSort fun a b => (cmp a b).isLE).Pairwise fun a b =>
      (cmp a b).isLE = true := pairwise_isLE_mergeSort l
  rw [List.pairwise_iff_forall_sublist] at h hsorted ⊢
  intro a b hsub
  have hle := hsorted hsub
  cases hab : cmp a b with
  | lt => exact .inl rfl
  | gt => rw [hab] at hle; cases hle
  | eq =>
      -- both have the place of the first one, and elements of one place keep their order
      have hplace : ∀ c d, (cmp a c == .eq) = true → (cmp a d == .eq) = true →
          (cmp c d).isLE = true := fun c d hc hd => by
        rw [TransCmp.eq_trans (OrientedCmp.eq_symm (beq_iff_eq.1 hc)) (beq_iff_eq.1 hd)]
        rfl
      have hpair := hsub.filter fun c => cmp a c == .eq
      rw [filter_mergeSort _ hplace l] at hpair
      simp only [List.filter_cons, ReflCmp.compare_self, hab, beq_self_eq_true, if_true,
        List.filter_nil] at hpair
      exact .inr ⟨rfl, h (hpair.trans List.filter_sublist)⟩

/-! ### Runs -/

theorem compare_eq_of_mem_run {l run : List α} (h : run ∈ l.splitBy fun a b => cmp a b == .eq)
    {a b : α} (ha : a ∈ run) (hb : b ∈ run) : cmp a b = .eq := by
  have hchain : run.IsChain fun x y => cmp x y = .eq :=
    (List.isChain_of_mem_splitBy h).imp fun x y hxy => by simpa using hxy
  -- having one place is transitive, so it holds of any two elements and not only of neighbours
  let htrans : Trans (fun x y : α => cmp x y = .eq) (fun x y => cmp x y = .eq)
      (fun x y => cmp x y = .eq) := ⟨fun hxy hyz => TransCmp.eq_trans hxy hyz⟩
  have hpair : run.Pairwise fun x y => cmp x y = .eq := List.isChain_iff_pairwise.1 hchain
  exact hpair.forall_of_forall_of_flip (fun x _ => ReflCmp.compare_self)
    (hpair.imp fun hxy => OrientedCmp.eq_symm hxy) ha hb

theorem pairwise_lt_of_isChain : ∀ {runs : List (List α)},
    (∀ r ∈ runs, r ≠ [] ∧ ∀ a ∈ r, ∀ b ∈ r, cmp a b = .eq) →
    runs.Pairwise (fun r s => ∀ a ∈ r, ∀ b ∈ s, (cmp a b).isLE = true) →
    runs.IsChain (fun r s => ∃ ha hb, (cmp (r.getLast ha) (s.head hb) == .eq) = false) →
    runs.Pairwise fun r s => ∀ a ∈ r, ∀ b ∈ s, cmp a b = .lt
  | [], _, _, _ => List.Pairwise.nil
  | [r], _, _, _ => List.pairwise_singleton _ r
  | r :: s :: rest, hone, hle, hchain => by
      have ih := pairwise_lt_of_isChain (fun t ht => hone t (List.mem_cons_of_mem _ ht))
        (List.pairwise_cons.1 hle).2 (List.isChain_cons_cons.1 hchain).2
      obtain ⟨hlast, hhead, hne⟩ := (List.isChain_cons_cons.1 hchain).1
      -- the last element of `r` is before the first of `s`, and the others have their places
      have hrs : ∀ a ∈ r, ∀ b ∈ s, cmp a b = .lt := by
        intro a ha b hb
        have hfirst : cmp a b ≠ .eq := by
          intro hab
          have h₁ := (hone r (by simp)).2 _ (List.getLast_mem hlast) a ha
          have h₂ := (hone s (by simp)).2 b hb _ (List.head_mem hhead)
          have h := TransCmp.eq_trans (TransCmp.eq_trans h₁ hab) h₂
          simp [h] at hne
        have hle' := (List.pairwise_cons.1 hle).1 s (by simp) a ha b hb
        cases hab : cmp a b with
        | lt => rfl
        | eq => exact absurd hab hfirst
        | gt => simp [hab] at hle'
      refine List.pairwise_cons.2 ⟨fun t ht => ?_, ih⟩
      rcases List.mem_cons.1 ht with rfl | ht
      · exact hrs
      · intro a ha b hb
        exact TransCmp.lt_trans (hrs a ha _ (List.head_mem hhead))
          ((List.pairwise_cons.1 ih).1 t ht _ (List.head_mem hhead) b hb)

/-- The runs of a sorted list increase strictly. -/
theorem pairwise_runs {l : List α} (hl : l.Pairwise fun a b => (cmp a b).isLE = true) :
    (l.splitBy fun a b => cmp a b == .eq).Pairwise fun r s => ∀ a ∈ r, ∀ b ∈ s, cmp a b = .lt := by
  refine pairwise_lt_of_isChain (fun r hr => ?_) ?_
    (List.isChain_getLast_head_splitBy (fun a b => cmp a b == .eq) l)
  · exact ⟨List.ne_nil_of_mem_splitBy hr, fun a ha b hb => compare_eq_of_mem_run hr ha hb⟩
  · rw [← List.flatten_splitBy (fun a b => cmp a b == .eq) l] at hl
    exact (List.pairwise_flatten.1 hl).2

/-- **A run of a sorted list holds all elements of its place.** -/
theorem eq_filter_of_mem_runs {l run : List α} (hl : l.Pairwise fun a b => (cmp a b).isLE = true)
    (h : run ∈ l.splitBy fun a b => cmp a b == .eq) {a : α} (ha : a ∈ run) :
    run = l.filter fun b => cmp b a == .eq := by
  have hruns := pairwise_runs hl
  obtain ⟨before, after, hsplit⟩ := List.append_of_mem h
  rw [hsplit, List.pairwise_append, List.pairwise_cons] at hruns
  obtain ⟨-, ⟨hafter, -⟩, hbefore⟩ := hruns
  -- nothing of the runs before and after has the place of `a`, and everything in the run has it
  have h₁ : before.flatten.filter (fun b => cmp b a == .eq) = [] := by
    rw [List.filter_eq_nil_iff]
    intro b hb
    obtain ⟨r, hr, hbr⟩ := List.mem_flatten.1 hb
    simp [hbefore r hr run (by simp) b hbr a ha]
  have h₂ : run.filter (fun b => cmp b a == .eq) = run := by
    rw [List.filter_eq_self]
    intro b hb
    simp [compare_eq_of_mem_run h hb ha]
  have h₃ : after.flatten.filter (fun b => cmp b a == .eq) = [] := by
    rw [List.filter_eq_nil_iff]
    intro b hb
    obtain ⟨r, hr, hbr⟩ := List.mem_flatten.1 hb
    simp [OrientedCmp.gt_of_lt (hafter r hr a ha b hbr)]
  conv_rhs => rw [← List.flatten_splitBy (fun a b => cmp a b == .eq) l, hsplit]
  rw [List.flatten_append, List.flatten_cons, List.filter_append, List.filter_append, h₁, h₂, h₃]
  simp

end ClusterReport
