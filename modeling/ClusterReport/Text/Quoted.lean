/-
**Quoted text.**

Messages show a text that could not be used in quotes.  Quotes and backslashes are escaped, line
breaks and tabs have letters of their own, and characters that leave no mark are written by their
code.

Main definitions:

* `ClusterReport.Text.escaped` — a character as it stands inside quotes;
* `ClusterReport.Text.quoted` — a text in quotes.
-/

import ClusterReport.Text.Hidden

set_option relaxedAutoImplicit false
set_option autoImplicit false

namespace ClusterReport.Text

/-- A character as it stands inside quotes. -/
def escaped (c : Char) : List Char :=
  match c with
  | '"' => ['\\', '"']
  | '\\' => ['\\', '\\']
  | '\n' => ['\\', 'n']
  | '\r' => ['\\', 'r']
  | '\t' => ['\\', 't']
  | '\x00' => ['\\', '0']
  | c =>
    if isHidden c then ['\\', 'u', '\x7b'] ++ Nat.toDigits 16 c.toNat ++ ['\x7d'] else [c]

/-- A text in quotes. -/
def quoted (s : List Char) : List Char := '"' :: s.flatMap escaped ++ ['"']

end ClusterReport.Text
