/-
**Padding.**

Columns of text are lined up by blanks.  A text is as wide as it has characters, and one that is
wider than asked for is left as it is.

Main definitions:

* `ClusterReport.Text.padEnd`, `ClusterReport.Text.padStart`, `ClusterReport.Text.padBoth` — a
  text filled up to a width behind, in front, or on both sides.

Main results:

* `ClusterReport.Text.length_padEnd`, `ClusterReport.Text.length_padStart`,
  `ClusterReport.Text.length_padBoth` — how wide the filled text is.
-/

set_option relaxedAutoImplicit false
set_option autoImplicit false

namespace ClusterReport.Text

def repeated (c : Char) (n : Nat) : String := String.ofList (List.replicate n c)

@[simp] theorem length_repeated (c : Char) (n : Nat) : (repeated c n).length = n := by
  simp [repeated]

def blanks (n : Nat) : String := repeated ' ' n

@[simp] theorem length_blanks (n : Nat) : (blanks n).length = n := length_repeated ' ' n

/-- The text filled up behind. -/
def padEnd (width : Nat) (s : String) : String := s ++ blanks (width - s.length)

/-- The text filled up in front. -/
def padStart (width : Nat) (s : String) : String := blanks (width - s.length) ++ s

/-- The text filled up on both sides with a character, one more behind if they do not divide. -/
def surround (fill : Char) (width : Nat) (s : String) : String :=
  let missing := width - s.length
  repeated fill (missing / 2) ++ s ++ repeated fill (missing - missing / 2)

/-- The text filled up with blanks on both sides. -/
def padBoth (width : Nat) (s : String) : String := surround ' ' width s

@[simp] theorem length_padEnd (width : Nat) (s : String) :
    (padEnd width s).length = max width s.length := by
  simp only [padEnd, String.length_append, length_blanks]
  omega

@[simp] theorem length_padStart (width : Nat) (s : String) :
    (padStart width s).length = max width s.length := by
  simp only [padStart, String.length_append, length_blanks]
  omega

@[simp] theorem length_surround (fill : Char) (width : Nat) (s : String) :
    (surround fill width s).length = max width s.length := by
  simp only [surround, String.length_append, length_repeated]
  omega

@[simp] theorem length_padBoth (width : Nat) (s : String) :
    (padBoth width s).length = max width s.length := length_surround ' ' width s

end ClusterReport.Text
