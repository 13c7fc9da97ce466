/-
**When license usage is estimated.**

The usage is filled in from the answer of the agent, or from the statistics of the namespaces where
the answer is of no use.  Whatever is wrong with the answer, and wherever in it, the estimate starts
from the usage as it was, so that the outcome is the one there would be without an answer.  An
answer that is of use is all that the outcome depends on: the statistics and the releases of the
nodes do not matter then.

Main definitions:

* `ClusterReport.Licenses.Useless` — the ways in which an answer is of no use.

Main results:

* `ClusterReport.Licenses.run_fill_of_unfilled` — without anything filled in from the answer the
  estimate starts from the usage as it was;
* `ClusterReport.Licenses.run_fill_of_answer` — **a useless answer is as good as none, and a useful
  one makes the statistics irrelevant**.
-/

import ClusterReport.License.Estimate
import ClusterReport.Proofs.License.Samples

set_option relaxedAutoImplicit false
set_option autoImplicit false

namespace ClusterReport.Licenses

/-- The ways in which an answer of the agent, or the lack of one, is of no use: it is missing, null,
an empty object or no answer that can be read, or filling in what it shows fails or says that no
entry counted. -/
inductive Useless (allowUnstable : Bool) (s : Summary) : Option Json → Prop
  | missing : Useless allowUnstable s none
  | null : Useless allowUnstable s (some .null)
  | blank : Useless allowUnstable s (some (.object []))
  | unreadable {document : Json} (h : AgentResponse.ofJson? document = none) :
      Useless allowUnstable s (some document)
  | failed {document : Json} {response : AgentResponse} {cause : AgentError} {after : Summary}
      (h : AgentResponse.ofJson? document = some response)
      (h' : (fillFromAgent allowUnstable response).run s = .error cause after) :
      Useless allowUnstable s (some document)
  | idle {document : Json} {response : AgentResponse} {after : Summary}
      (h : AgentResponse.ofJson? document = some response)
      (h' : (fillFromAgent allowUnstable response).run s = .ok false after) :
      Useless allowUnstable s (some document)

theorem isAnswer_of_ofJson? {document : Json} {response : AgentResponse}
    (h : AgentResponse.ofJson? document = some response) : isAnswer document = true := by
  cases document with
  | null => cases h
  | object fields =>
      cases fields with
      | nil => cases h
      | cons f rest => rfl
  | _ => rfl

/-- What becomes of the usage when the document says something. -/
theorem run_fill_some (builds : Dict String) (stats : Dict NodeStats) {document : Json}
    (h : isAnswer document = true) (allowUnstable : Bool) (s : Summary) :
    (fill builds stats (some document) allowUnstable).run s =
      match (fillFromDocument allowUnstable document).run s with
      | .ok true s => .ok () s
      | .ok false s => (fillFromStats builds stats).run s
      | .error _ s => (fillFromStats builds stats).run s := by
  rw [fill, Option.filter_some, if_pos h]
  simp only [EStateM.run_bind, Summary.Update.run_attempt]
  cases (fillFromDocument allowUnstable document).run s with
  | error cause after => rfl
  | ok filled after => cases filled <;> rfl

/-- If an answer is not filled in, the estimate starts from the usage as it was. -/
theorem run_fill_of_unfilled (builds : Dict String) (stats : Dict NodeStats) {document : Json}
    {response : AgentResponse} (hread : AgentResponse.ofJson? document = some response)
    {allowUnstable : Bool} {s : Summary}
    (h : ∀ after, (fillFromAgent allowUnstable response).run s ≠ .ok true after) :
    (fill builds stats (some document) allowUnstable).run s =
      (fillFromStats builds stats).run s := by
  rw [run_fill_some builds stats (isAnswer_of_ofJson? hread), fillFromDocument, hread]
  rcases run_fillFromAgent_outcome allowUnstable response s with
    ⟨after, hrun⟩ | hrun | ⟨cause, hrun⟩
  · exact absurd hrun (h after)
  · simp only [hrun]
  · simp only [hrun]

/-- **A useless answer is as good as none, and a useful one makes the statistics irrelevant.** -/
theorem run_fill_of_answer (allowUnstable : Bool) (s : Summary) (agent : Option Json) :
    (Useless allowUnstable s agent → ∀ builds stats,
      (fill builds stats agent allowUnstable).run s =
        (fill builds stats none allowUnstable).run s) ∧
    ∀ document response after, agent = some document →
      AgentResponse.ofJson? document = some response →
      (fillFromAgent allowUnstable response).run s = .ok true after → ∀ builds stats,
        (fill builds stats agent allowUnstable).run s = .ok () after := by
  constructor
  · intro h builds stats
    cases h with
    | missing => rfl
    | null => rfl
    | blank => rfl
    | @unreadable document hread =>
        cases hanswer : isAnswer document with
        | false => rw [fill, Option.filter_some, hanswer]; rfl
        | true =>
            rw [run_fill_some builds stats hanswer, fillFromDocument, hread]
            rfl
    | failed hread hrun =>
        refine run_fill_of_unfilled builds stats hread fun after h => ?_
        rw [hrun] at h
        cases h
    | idle hread hrun =>
        refine run_fill_of_unfilled builds stats hread fun after h => ?_
        rw [hrun] at h
        cases h
  · rintro document response after rfl hread hrun builds stats
    rw [run_fill_some builds stats (isAnswer_of_ofJson? hread), fillFromDocument, hread]
    simp only [hrun]

/-- An answer with the given fields of its last entry, behind a sample of 100 bytes. -/
def answerEndingIn (fields : List (String × Json)) : Json :=
  let sample : Json := .object [("time", .str "2024-01-01T00:00:00Z"), ("level", .str "info"),
    ("unique_data_bytes", .int 100), ("cluster_stable", .bool true)]
  .object [("license_usage", .object [("entries", .array [sample, .object fields])])]

/-- A last entry of another level is passed over, and one of this level that does not say how much
data there was makes the answer useless. -/
theorem run_fill_of_answerEndingIn :
    (∀ builds stats,
      (fill builds stats (some (answerEndingIn [("time", .str ""), ("level", .str "info")]))
        true).run {} = (fill builds stats none true).run {}) ∧
    ∃ after, ∀ builds stats,
      (fill builds stats (some (answerEndingIn [("time", .str ""), ("level", .str "warn")]))
        true).run {} = .ok () after :=
  ⟨(run_fill_of_answer true {} _).1 (.failed rfl rfl),
    _, (run_fill_of_answer true {} _).2 _ _ _ rfl rfl rfl⟩

end ClusterReport.Licenses
