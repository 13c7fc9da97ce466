/-
**Writing JSON text.**

A document is written compactly, with no blanks, or over several lines with an indent of two
spaces per level.  In texts only quotes, backslashes and control characters are escaped.  A number
that is not finite is written as null.

Main definitions:

* `ClusterReport.Json.quote` — a text in quotes;
* `ClusterReport.Json.compact`, `ClusterReport.Json.sortedText` — the document on one line, as it
  stands or with its objects in key order;
* `ClusterReport.Json.pretty` — the document over several lines.
-/

import ClusterReport.Json.Basic
import ClusterReport.Binary64.Layout

set_option relaxedAutoImplicit false
set_option autoImplicit false

namespace ClusterReport.Json

/-! ### Texts -/

def hexDigit (n : Nat) : Char := Nat.digitChar n

def escapeChar (c : Char) : List Char :=
  match c with
  | '"' => ['\\', '"']
  | '\\' => ['\\', '\\']
  | '\x08' => ['\\', 'b']
  | '\x0c' => ['\\', 'f']
  | '\n' => ['\\', 'n']
  | '\r' => ['\\', 'r']
  | '\t' => ['\\', 't']
  | c =>
    if c.toNat < 0x20 then ['\\', 'u', '0', '0', hexDigit (c.toNat / 16), hexDigit (c.toNat % 16)]
    else [c]

/-- A text in quotes. -/
def quote (s : String) : String :=
  String.ofList ('"' :: s.toList.flatMap escapeChar ++ ['"'])

/-- The text of a leaf: anything but an array or an object. -/
def leafText : Json → String
  | .null => "null"
  | .bool b => if b then "true" else "false"
  | .int n => toString n
  | .float x => x.toJsonText?.getD "null"
  | .str s => quote s
  | .array _ => "[]"
  | .object _ => "\x7b\x7d"

/-! ### One line -/

mutual

/-- The document on one line, without blanks. -/
def compact : Json → String
  | .array items => "[" ++ ",".intercalate (compactItems items) ++ "]"
  | .object fields => "\x7b" ++ ",".intercalate (compactFields fields) ++ "\x7d"
  | leaf => leafText leaf

def compactItems : List Json → List String
  | [] => []
  | item :: rest => compact item :: compactItems rest

def compactFields : List (String × Json) → List String
  | [] => []
  | (key, value) :: rest => (quote key ++ ":" ++ compact value) :: compactFields rest

end

/-- The document on one line with the fields of every object in key order. -/
def sortedText (j : Json) : String := j.canonical.compact

/-! ### Several lines -/

/-- A bracketed list with one entry a line. -/
def block (opening closing indent : String) (entries : List String) : String :=
  if entries.isEmpty then opening ++ closing
  else opening ++ "\n" ++ ",\n".intercalate (entries.map fun e => indent ++ "  " ++ e)
    ++ "\n" ++ indent ++ closing

mutual

/-- The document over several lines; every line after the first starts with the indent. -/
def prettyAt (indent : String) : Json → String
  | .array items => block "[" "]" indent (prettyItems (indent ++ "  ") items)
  | .object fields => block "\x7b" "\x7d" indent (prettyFields (indent ++ "  ") fields)
  | leaf => leafText leaf

/-- The items of an array, as they stand behind an indent. -/
def prettyItems (indent : String) : List Json → List String
  | [] => []
  | item :: rest => prettyAt indent item :: prettyItems indent rest

/-- The fields of an object, as they stand behind an indent. -/
def prettyFields (indent : String) : List (String × Json) → List String
  | [] => []
  | (key, value) :: rest =>
    (quote key ++ ": " ++ prettyAt indent value) :: prettyFields indent rest

end

/-- The document over several lines. -/
def pretty (j : Json) : String := prettyAt "" j

end ClusterReport.Json
