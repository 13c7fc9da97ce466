/-
**Reading settings documents.**

A document in TOML is read line by line.  A line is blank, holds an entry, or opens a table or an
element of a list of tables, to which the entries after it belong; any line may end in a comment.
Arrays, and tables between braces, may go over several lines and may be nested up to a fixed depth;
dotted keys have as many parts at most.

Main definitions:

* `ClusterReport.Toml.Statement` — what a line says;
* `ClusterReport.Toml.statementsOf?` — the statements of a document;
* `ClusterReport.Toml.tableOf?` — the table that statements make;
* `ClusterReport.Toml.ofText?` — the table that a document holds.
-/

import ClusterReport.Toml.Number

set_option relaxedAutoImplicit false
set_option autoImplicit false

namespace ClusterReport.Toml

/-! ### Blanks and comments -/

def dropBlanks (s : List Char) : List Char := s.dropWhile isBlank

/-- The rest behind blanks, ends of lines and comments. -/
def dropLines? : (inComment : Bool) → List Char → Option (List Char)
  | _, [] => some []
  | inComment, c :: s =>
    if c = '\n' then dropLines? false s
    else if c = '\r' then if s.head? = some '\n' then dropLines? inComment s else none
    else if inComment then if isPrintable c then dropLines? true s else none
    else if c = '#' then dropLines? true s
    else if isBlank c then dropLines? false s
    else some (c :: s)

/-- The rest behind a comment, if there is one, and the end of its line. -/
def finishLine? (s : List Char) : Option (List Char) :=
  let s := dropBlanks s
  let s := if s.head? = some '#' then s.dropWhile isPrintable else s
  if s.isEmpty then some [] else lineEnd? s

/-! ### Keys -/

def isKeyChar (c : Char) : Bool := c.isAlphanum || c = '-' || c = '_'

def readKey : Reader String := fun s =>
  if (s.takeWhile isKeyChar).isEmpty then readLine s
  else some (String.ofList (s.takeWhile isKeyChar), s.dropWhile isKeyChar)

/-- The greatest number of parts of a dotted key. -/
def maxParts : Nat := 80

/-- A dotted key of at most so many parts; there may be blanks around its dots. -/
def readPath : Nat → Reader (List String)
  | 0, _ => none
  | parts + 1, s => do
    let (key, s) ← readKey (dropBlanks s)
    match dropBlanks s with
    | '.' :: s => (readPath parts s).map fun (path, s) => (key :: path, s)
    | s => some ([key], s)

/-- A dotted key and the rest behind its equals sign. -/
def readAssigned : Reader (List String) := fun s =>
  match readPath maxParts s with
  | some (path, '=' :: s) => some (path, s)
  | _ => none

/-! ### Values -/

def isWordChar (c : Char) : Bool := isKeyChar c || c = '+' || c = '.' || c = ':'

/-- A bare word; a date may be followed by one blank and a time of day. -/
def readWord : Reader Value := fun s =>
  let word := s.takeWhile isWordChar
  let rest := s.dropWhile isWordChar
  match afterDate? word, rest with
  | some [], ' ' :: s =>
    if s.head?.any Char.isDigit then
      (wordOf? (word ++ ' ' :: s.takeWhile isWordChar)).map fun v => (v, s.dropWhile isWordChar)
    else (wordOf? word).map fun v => (v, rest)
  | _, _ => (wordOf? word).map fun v => (v, rest)

/-- The items of an array up to its closing bracket, in so many steps. -/
def readItems (readItem : Reader Value) : Nat → Reader (List Value)
  | 0, _ => none
  | fuel + 1, s => do
    match ← dropLines? false s with
    | ']' :: s => some ([], s)
    | s =>
      let (item, s) ← readItem s
      match ← dropLines? false s with
      | ']' :: s => some ([item], s)
      | ',' :: s => (readItems readItem fuel s).map fun (items, s) => (item :: items, s)
      | _ => none

/-- The entries of a table up to its closing brace, added to those before them, in so many
steps. -/
def readEntries (readItem : Reader Value) : Nat → Table → Reader Table
  | 0, _, _ => none
  | fuel + 1, t, s => do
    match ← dropLines? false s with
    | '}' :: s => some (t, s)
    | s =>
      let (path, s) ← readAssigned s
      let (value, s) ← readItem (dropBlanks s)
      let t ← assign? value false false path t
      match ← dropLines? false s with
      | '}' :: s => some (t, s)
      | ',' :: s => readEntries readItem fuel t s
      | _ => none

/-- How deep arrays and tables between braces may be nested. -/
def maxDepth : Nat := 80

/-- A value, in which arrays and tables are nested up to a depth. -/
def readValue : (depth : Nat) → Reader Value
  | _, '"' :: s => (readText ('"' :: s)).map fun (t, s) => (.text t, s)
  | _, '\'' :: s => (readText ('\'' :: s)).map fun (t, s) => (.text t, s)
  | 0, '[' :: _ => none
  | 0, '{' :: _ => none
  | depth + 1, '[' :: s =>
    (readItems (readValue depth) (s.length + 1) s).map fun (items, s) => (.array items, s)
  | depth + 1, '{' :: s =>
    (readEntries (readValue depth) (s.length + 1) [] s).map fun (t, s) => (.table .braces t, s)
  | _, s => readWord s

/-! ### Statements -/

/-- What a line says: an entry of the table that is open, or which table is opened. -/
inductive Statement where
  | entry (path : List String) (value : Value)
  | table (path : List String)
  | element (path : List String)

def readStatement : Reader Statement
  | '[' :: '[' :: s =>
    match readPath maxParts s with
    | some (path, ']' :: ']' :: s) => some (.element path, s)
    | _ => none
  | '[' :: s =>
    match readPath maxParts s with
    | some (path, ']' :: s) => some (.table path, s)
    | _ => none
  | s => do
    let (path, s) ← readAssigned s
    let (value, s) ← readValue maxDepth (dropBlanks s)
    some (.entry path value, s)

def statements? : Nat → List Char → Option (List Statement)
  | 0, _ => none
  | fuel + 1, s => do
    match ← dropLines? false s with
    | [] => some []
    | s =>
      let (statement, s) ← readStatement s
      let s ← finishLine? s
      (statements? fuel s).map (statement :: ·)

/-- The statements of a document, which may start with a byte order mark. -/
def statementsOf? (text : String) : Option (List Statement) :=
  let s := match text.toList with
    | '\uFEFF' :: s => s
    | s => s
  statements? (s.length + 1) s

/-! ### Tables -/

/-- The entries at the start of some statements. -/
def leadingEntries : List Statement → List (List String × Value)
  | .entry path value :: rest => (path, value) :: leadingEntries rest
  | _ => []

/-- A table with entries put into it. -/
def fill? (entries : List (List String × Value)) (t : Table) : Option Table :=
  entries.foldlM (fun t e => assign? e.2 false false e.1 t) t

/-- A table after the tables that statements open, each with the entries that follow it. -/
def openTables? : List Statement → Table → Option Table
  | [], t => some t
  | .entry _ _ :: rest, t => openTables? rest t
  | .table path :: rest, t => do
    let t ← alongHeader? (openTable? (fill? (leadingEntries rest))) path t
    openTables? rest t
  | .element path :: rest, t => do
    let t ← alongHeader? (openElement? (fill? (leadingEntries rest))) path t
    openTables? rest t

/-- The table that statements make. -/
def tableOf? (statements : List Statement) : Option Table := do
  let t ← fill? (leadingEntries statements) []
  openTables? statements t

/-- The table that a document holds. -/
def ofText? (text : String) : Option Table := (statementsOf? text).bind tableOf?

end ClusterReport.Toml
