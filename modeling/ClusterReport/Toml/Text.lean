/-
**Texts in settings documents.**

A text stands between double quotes, with escapes, or between single quotes, as it is; three
quotes instead of one let it go over several lines, whose ends belong to the text as they are.
Control characters other than the tab stand in no text.  A text is written in the first of these
ways that needs no escapes but that of the tab: double quotes, single quotes, three double quotes,
three single quotes; if none does, it is escaped.

Main definitions:

* `ClusterReport.Toml.Reader` — readers of the start of a text;
* `ClusterReport.Toml.readText` — a text as a value;
* `ClusterReport.Toml.quoteText` — how a text is written.
-/

import ClusterReport.Text.Pieces

set_option relaxedAutoImplicit false
set_option autoImplicit false

namespace ClusterReport.Toml

/-- A reader of the start of a text, which returns the rest. -/
abbrev Reader (α : Type) := List Char → Option (α × List Char)

/-! ### Characters -/

def isBlank (c : Char) : Bool := c = ' ' || c = '\t'

def isPrintable (c : Char) : Bool := c = '\t' || (0x20 ≤ c.toNat && c.toNat ≠ 0x7f)

def isLiteral (c : Char) : Bool := isPrintable c && c ≠ '\''

/-- The value of a digit of a base up to sixteen. -/
def digitOf? (base : Nat) (c : Char) : Option Nat :=
  let digit :=
    if c.isDigit then some (c.toNat - '0'.toNat)
    else if 'a' ≤ c && c ≤ 'f' then some (c.toNat - 'a'.toNat + 10)
    else if 'A' ≤ c && c ≤ 'F' then some (c.toNat - 'A'.toNat + 10)
    else none
  digit.filter (· < base)

def numberOf? (base : Nat) (digits : List Char) : Option Nat :=
  digits.foldlM (fun n c => (digitOf? base c).map (base * n + ·)) 0

/-! ### Reading -/

/-- The character with this many hexadecimal digits as its number. -/
def readCode (digits : Nat) : Reader Char := fun s =>
  if (s.take digits).length = digits then
    ((numberOf? 16 (s.take digits)).filter Nat.isValidChar).map fun n =>
      (Char.ofNat n, s.drop digits)
  else none

/-- The character that an escape stands for, behind its backslash. -/
def readEscape : Reader Char
  | 'b' :: s => some ('\x08', s)
  | 't' :: s => some ('\t', s)
  | 'n' :: s => some ('\n', s)
  | 'f' :: s => some ('\x0c', s)
  | 'r' :: s => some ('\r', s)
  | 'e' :: s => some ('\x1b', s)
  | '"' :: s => some ('"', s)
  | '\\' :: s => some ('\\', s)
  | 'x' :: s => readCode 2 s
  | 'u' :: s => readCode 4 s
  | 'U' :: s => readCode 8 s
  | _ => none

/-- A text up to its closing double quote, in so many steps. -/
def readEscaped : Nat → Reader (List Char)
  | 0, _ => none
  | _ + 1, [] => none
  | _ + 1, '"' :: s => some ([], s)
  | fuel + 1, '\\' :: s => do
    let (c, s) ← readEscape s
    let (cs, s) ← readEscaped fuel s
    some (c :: cs, s)
  | fuel + 1, c :: s =>
    if isPrintable c then (readEscaped fuel s).map fun (cs, s) => (c :: cs, s) else none

/-- A text up to its closing single quote. -/
def readLiteral : Reader (List Char) := fun s =>
  match s.dropWhile isLiteral with
  | '\'' :: rest => some (s.takeWhile isLiteral, rest)
  | _ => none

/-- The rest behind the quotes that end a text of several lines, with up to two quotes that still
belong to it. -/
def closing (quote : Char) : List Char → List Char × List Char
  | c :: d :: s =>
    if c = quote then if d = quote then ([c, d], s) else ([c], d :: s) else ([], c :: d :: s)
  | [c] => if c = quote then ([c], []) else ([], [c])
  | [] => ([], [])

/-- The rest behind an end of line. -/
def lineEnd? : List Char → Option (List Char)
  | '\n' :: s => some s
  | '\r' :: '\n' :: s => some s
  | _ => none

/-- The rest behind blanks and ends of lines. -/
def dropGaps : List Char → List Char
  | ' ' :: s => dropGaps s
  | '\t' :: s => dropGaps s
  | '\n' :: s => dropGaps s
  | '\r' :: '\n' :: s => dropGaps s
  | s => s

/-- The rest behind a backslash that joins lines: it ends its line, and everything up to the next
character that is no blank is left out. -/
def joinLines? (s : List Char) : Option (List Char) :=
  (lineEnd? (s.dropWhile isBlank)).map dropGaps

/-- A text of several lines up to its closing double quotes, in so many steps. -/
def readEscapedLines : Nat → Reader (List Char)
  | 0, _ => none
  | _ + 1, [] => none
  | _ + 1, '"' :: '"' :: '"' :: s => some (closing '"' s)
  | fuel + 1, '\\' :: s =>
    -- a backslash at the end of its line joins lines, and otherwise starts an escape
    match joinLines? s with
    | some s => readEscapedLines fuel s
    | none => do
      let (c, s) ← readEscape s
      let (cs, s) ← readEscapedLines fuel s
      some (c :: cs, s)
  | fuel + 1, '\r' :: '\n' :: s =>
    (readEscapedLines fuel s).map fun (cs, s) => ('\r' :: '\n' :: cs, s)
  | fuel + 1, c :: s =>
    if isPrintable c || c = '\n' then
      (readEscapedLines fuel s).map fun (cs, s) => (c :: cs, s)
    else none

/-- A text of several lines up to its closing single quotes. -/
def readLiteralLines : Reader (List Char)
  | [] => none
  | '\'' :: '\'' :: '\'' :: s => some (closing '\'' s)
  | '\r' :: '\n' :: s => (readLiteralLines s).map fun (cs, s) => ('\r' :: '\n' :: cs, s)
  | c :: s =>
    if isPrintable c || c = '\n' then (readLiteralLines s).map fun (cs, s) => (c :: cs, s)
    else none

/-- The rest behind an end of line that directly follows the opening quotes. -/
def dropFirstEnd (s : List Char) : List Char := (lineEnd? s).getD s

def readLine : Reader String
  | '"' :: s => (readEscaped (s.length + 1) s).map fun (cs, s) => (String.ofList cs, s)
  | '\'' :: s => (readLiteral s).map fun (cs, s) => (String.ofList cs, s)
  | _ => none

/-- A text on one line or on several. -/
def readText : Reader String
  | '"' :: '"' :: '"' :: s =>
    let s := dropFirstEnd s
    (readEscapedLines (s.length + 1) s).map fun (cs, s) => (String.ofList cs, s)
  | '\'' :: '\'' :: '\'' :: s =>
    (readLiteralLines (dropFirstEnd s)).map fun (cs, s) => (String.ofList cs, s)
  | s => readLine s

/-! ### Writing -/

/-- The longest run of a character in a text; the first argument is the run before it. -/
def longestRun (quote : Char) : Nat → List Char → Nat
  | run, [] => run
  | run, c :: s =>
    if c = quote then longestRun quote (run + 1) s else max run (longestRun quote 0 s)

/-- Whether a character can only be written as an escape. -/
def needsCode (c : Char) : Bool := !isPrintable c && c ≠ '\n'

def fourDigits (n : Nat) : List Char :=
  let digits := (Nat.toDigits 16 n).map Char.toUpper
  List.replicate (4 - digits.length) '0' ++ digits

/-- A character between double quotes, on one line or on several. -/
def escapeChar (lines : Bool) (c : Char) : List Char :=
  match c with
  | '\\' => ['\\', '\\']
  | '\x08' => ['\\', 'b']
  | '\t' => ['\\', 't']
  | '\n' => if lines then ['\n'] else ['\\', 'n']
  | '\x0c' => ['\\', 'f']
  | '\r' => ['\\', 'r']
  | c => if isPrintable c then [c] else ['\\', 'u'] ++ fourDigits c.toNat

/-- A text between double quotes; a quote is escaped if more than so many would stand together. -/
def escapeText (lines : Bool) (allowed : Nat) : (run : Nat) → List Char → List Char
  | _, [] => []
  | run, '"' :: s =>
    if run < allowed then '"' :: escapeText lines allowed (run + 1) s
    else ['\\', '"'] ++ escapeText lines allowed 0 s
  | _, c :: s => escapeChar lines c ++ escapeText lines allowed 0 s

/-- How a text is written. -/
def quoteText (text : String) : String :=
  let s := text.toList
  let lines := s.contains '\n'
  let escapes := s.any needsCode
  let backslashes := s.contains '\\'
  let doubles := longestRun '"' 0 s
  let singles := longestRun '\'' 0 s
  let opening := if lines then ['\n'] else []
  let onOneLine := ['"'] ++ escapeText false 0 0 s ++ ['"']
  let onLines := ['"', '"', '"'] ++ opening ++ escapeText true 2 0 s ++ ['"', '"', '"']
  String.ofList <|
    if !escapes && !backslashes && doubles = 0 && !lines then onOneLine
    else if !escapes && singles = 0 && !lines then ['\''] ++ s ++ ['\'']
    else if !escapes && !backslashes && doubles ≤ 2 then onLines
    else if !escapes && singles ≤ 2 then
      ['\'', '\'', '\''] ++ opening ++ s ++ ['\'', '\'', '\'']
    else if lines then onLines
    else onOneLine

end ClusterReport.Toml
