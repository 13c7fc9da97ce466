/-
**Numbers and their texts.**

Servers report most figures as texts, and captured data may have them as numbers as well.  An
integer of 64 bits and its decimal text are two spellings of one value: both are read as the same
integer and as the same text, neither is missing where the other is there, and as both are leaves,
merging treats them alike.  Only as truth values do they differ, since zero is false and its text is
not.

Main definitions:

* `ClusterReport.Json.Respelled` — a value before and after it may have been spelled the other way;
* `ClusterReport.Json.spelled` — a value with an integer spelled as a text.

Main results:

* `ClusterReport.Json.Respelled.spelled_eq` — both spellings are spelled as the same text;
* `ClusterReport.Json.toInt?_spelled`, `toText?_spelled` — **readings do not depend on the
  spelling**;
* `ClusterReport.Json.spelled_merge` — neither does merging.
-/

import ClusterReport.Attribute.Reported
import ClusterReport.Proofs.Json.Merge

set_option relaxedAutoImplicit false
set_option autoImplicit false

namespace ClusterReport

namespace Json

/-- A value before and after an integer of 64 bits may have been replaced by its decimal text, or
such a text by the integer. -/
inductive Respelled : Json → Json → Prop where
  | same (j : Json) : Respelled j j
  | written {n : Int} (h : Integer.fitsInt64 n = true) : Respelled (.int n) (.str (toString n))
  | native {n : Int} (h : Integer.fitsInt64 n = true) : Respelled (.str (toString n)) (.int n)

/-- The value with an integer of 64 bits spelled as a text. -/
def spelled : Json → Json
  | .int n => if Integer.fitsInt64 n then .str (toString n) else .int n
  | j => j

theorem spelled_int {n : Int} (h : Integer.fitsInt64 n = true) :
    spelled (.int n) = .str (toString n) := if_pos h

@[simp] theorem spelled_object (fields : List (String × Json)) :
    spelled (.object fields) = .object fields := rfl

/-- A value is the same as before, or it was an integer and is now its text. -/
theorem respelled_spelled (j : Json) : Respelled j j.spelled := by
  cases j with
  | int n =>
      rw [spelled]
      split
      case isTrue h => exact .written h
      case isFalse => exact .same _
  | _ => exact .same _

/-- Both spellings are spelled as the same text. -/
theorem Respelled.spelled_eq {j k : Json} (h : Respelled j k) : j.spelled = k.spelled := by
  cases h with
  | same => rfl
  | written h => exact spelled_int h
  | native h => exact (spelled_int h).symm

/-! ### Readings -/

/-- **The same integer is read from both spellings.** -/
theorem Respelled.toInt?_eq {j k : Json} (h : Respelled j k) : k.toInt? = j.toInt? := by
  cases h with
  | same => rfl
  | written h => rw [← Integer.ofList_toText, toInt?_toText _ h]
  | native h => rw [← Integer.ofList_toText, toInt?_toText _ h]

/-- **The same text is read from both spellings.** -/
theorem Respelled.toText?_eq {j k : Json} (h : Respelled j k) : k.toText? = j.toText? := by
  cases h <;> rfl

@[simp] theorem toInt?_spelled (j : Json) : j.spelled.toInt? = j.toInt? :=
  (respelled_spelled j).toInt?_eq

@[simp] theorem toText?_spelled (j : Json) : j.spelled.toText? = j.toText? :=
  (respelled_spelled j).toText?_eq

/-! ### Merging -/

@[simp] theorem isObject_spelled (j : Json) : j.spelled.isObject = j.isObject := by
  have hspelled := respelled_spelled j
  generalize j.spelled = k at hspelled ⊢
  cases hspelled <;> rfl

/-- **Merging does not depend on the spelling.** -/
theorem spelled_merge (base overlay : Json) :
    (base.merge overlay).spelled = base.spelled.merge overlay.spelled := by
  cases hoverlay : overlay.isObject with
  | false =>
      rw [merge_of_not_object _ _ hoverlay, merge_of_not_object]
      rw [isObject_spelled, hoverlay]
  | true =>
      obtain ⟨theirs, rfl⟩ : ∃ theirs, overlay = .object theirs := by
        cases overlay with
        | object theirs => exact ⟨theirs, rfl⟩
        | _ => cases hoverlay
      cases hbase : base.isObject with
      | false =>
          rw [merge_object_of_not_object _ _ hbase]
          exact (merge_object_of_not_object _ _ ((isObject_spelled base).trans hbase)).symm
      | true =>
          cases base with
          | object mine =>
              rw [merge_object, spelled_object, spelled_object, spelled_object, merge_object]
          | _ => cases hbase

end Json
end ClusterReport
