/-
**Tokens of JSON text.**

The text is cut into tokens by an automaton that looks at one character at a time: between tokens,
inside a text, after a backslash, inside the four digits of an escape, inside a number or inside a
word.  Numbers are checked against their grammar when they end.  A text is read as a row of units;
an escape gives one unit, and two of them may join to one character.

Main definitions:

* `ClusterReport.Json.Token` — the tokens, some of which have no value;
* `ClusterReport.Json.numberOf?` — the number that a run of number characters stands for;
* `ClusterReport.Json.ofUnits?` — the characters that units stand for;
* `ClusterReport.Json.tokens?` — the tokens of a text.
-/

import ClusterReport.Json.Basic
import ClusterReport.Binary64.Reading

set_option relaxedAutoImplicit false
set_option autoImplicit false

namespace ClusterReport.Json

/-- A token of JSON text; numbers, texts and words stand for values of their own.  A number beyond
the format and a text with half of a surrogate pair are tokens without a value. -/
inductive Token where
  | openArray
  | closeArray
  | openObject
  | closeObject
  | colon
  | comma
  | text (value : Option String)
  | leaf (value : Option Json)

/-! ### Numbers -/

/-- Whether a text is what may follow the whole part of a number: a point and digits, an exponent,
both in this order, or nothing. -/
def isFractionAndExponent (s : List Char) : Bool :=
  let afterFraction := match s with
    | '.' :: rest =>
      if (Integer.natOf? (rest.takeWhile Char.isDigit)).isSome then
        some (rest.dropWhile Char.isDigit)
      else none
    | _ => some s
  match afterFraction with
  | none => false
  | some [] => true
  | some (c :: rest) => (c = 'e' || c = 'E') && (Integer.natOf? (Integer.splitSign rest).2).isSome

/-- A whole number: exact within 64 bits, signed or unsigned, and the nearest binary number
elsewhere.  The negative zero is a binary number, as no integer stands for it. -/
def ofWhole (negative : Bool) (magnitude : Nat) : Json :=
  if negative then
    if 0 < magnitude ∧ magnitude ≤ Nat.pow 2 63 then .int (-(magnitude : Int))
    else .float (Binary64.ofDecimal true magnitude 0)
  else if magnitude < Nat.pow 2 64 then .int magnitude
  else .float (Binary64.ofDecimal false magnitude 0)

/-- The number that a run of number characters stands for; one beyond the format is infinite. -/
def numberOf? (s : List Char) : Option Json :=
  let (negative, magnitude) := match s with
    | '-' :: rest => (true, rest)
    | _ => (false, s)
  let whole := magnitude.takeWhile Char.isDigit
  let rest := magnitude.dropWhile Char.isDigit
  if whole.isEmpty || (whole.head? = some '0' && 1 < whole.length) then none
  else
    match rest with
    | [] => some (ofWhole negative (Integer.digitsValue whole))
    | _ =>
      if isFractionAndExponent rest then (Binary64.unsignedOf? negative magnitude).map .float
      else none

/-- A number within the format. -/
def finite? : Json → Option Json
  | .float (.infinite _) => none
  | number => some number

def numberToken? (s : List Char) : Option Token := (numberOf? s).map fun v => .leaf (finite? v)

def wordToken? (s : List Char) : Option Token :=
  match String.ofList s with
  | "null" => some (.leaf (some .null))
  | "true" => some (.leaf (some (.bool true)))
  | "false" => some (.leaf (some (.bool false)))
  | _ => none

/-! ### Units -/

/-- Whether a unit is the first half of a surrogate pair. -/
def isHigh (unit : Nat) : Bool := 0xD800 ≤ unit && unit ≤ 0xDBFF

/-- Whether a unit is the second half of a surrogate pair. -/
def isLow (unit : Nat) : Bool := 0xDC00 ≤ unit && unit ≤ 0xDFFF

/-- The character that a surrogate pair stands for. -/
def pairChar (high low : Nat) : Char :=
  Char.ofNat (0x10000 + (high - 0xD800) * 0x400 + (low - 0xDC00))

/-- The characters that units in reverse order stand for, in front of those already known; half of
a surrogate pair stands for nothing. -/
def ofUnits? (known : List Char) : List Nat → Option (List Char)
  | [] => some known
  | [unit] => if isHigh unit || isLow unit then none else some (Char.ofNat unit :: known)
  | unit :: before :: rest =>
    if isLow unit then
      if isHigh before then ofUnits? (pairChar before unit :: known) rest else none
    else if isHigh unit then none
    else ofUnits? (Char.ofNat unit :: known) (before :: rest)

/-- The token of a text whose units are given in reverse order. -/
def textToken (held : List Nat) : Token := .text ((ofUnits? [] held).map String.ofList)

/-! ### The automaton -/

/-- Where the automaton stands; units and characters already read are held in reverse order. -/
inductive Scan where
  | between
  | inText (held : List Nat)
  | escaped (held : List Nat)
  | unicode (held : List Nat) (value digits : Nat)
  | inNumber (held : List Char)
  | inWord (held : List Char)

/-- The automaton with the tokens found so far, in reverse order. -/
structure Scanner where
  scan : Scan
  found : List Token

def hexValue? (c : Char) : Option Nat :=
  if c.isDigit then some (c.toNat - '0'.toNat)
  else if 'a' ≤ c ∧ c ≤ 'f' then some (c.toNat - 'a'.toNat + 10)
  else if 'A' ≤ c ∧ c ≤ 'F' then some (c.toNat - 'A'.toNat + 10)
  else none

/-- The character that a letter after a backslash stands for. -/
def escapeOf? : Char → Option Char
  | '"' => some '"'
  | '\\' => some '\\'
  | '/' => some '/'
  | 'b' => some '\x08'
  | 'f' => some '\x0c'
  | 'n' => some '\n'
  | 'r' => some '\r'
  | 't' => some '\t'
  | _ => none

def punctuation? : Char → Option Token
  | '[' => some .openArray
  | ']' => some .closeArray
  | '\x7b' => some .openObject
  | '\x7d' => some .closeObject
  | ':' => some .colon
  | ',' => some .comma
  | _ => none

def isNumberChar (c : Char) : Bool :=
  c.isDigit || c = '-' || c = '+' || c = '.' || c = 'e' || c = 'E'

def stepBetween (found : List Token) (c : Char) : Option Scanner :=
  if c = ' ' || c = '\t' || c = '\n' || c = '\r' then some ⟨.between, found⟩
  else if c = '"' then some ⟨.inText [], found⟩
  else if c = '-' || c.isDigit then some ⟨.inNumber [c], found⟩
  else if c.isLower then some ⟨.inWord [c], found⟩
  else (punctuation? c).map fun t => ⟨.between, t :: found⟩

def Scanner.step (s : Scanner) (c : Char) : Option Scanner :=
  match s.scan with
  | .between => stepBetween s.found c
  | .inText held =>
    if c = '"' then some ⟨.between, textToken held :: s.found⟩
    else if c = '\\' then some ⟨.escaped held, s.found⟩
    else if c.toNat < 0x20 then none
    else some ⟨.inText (c.toNat :: held), s.found⟩
  | .escaped held =>
    if c = 'u' then some ⟨.unicode held 0 0, s.found⟩
    else (escapeOf? c).map fun e => ⟨.inText (e.toNat :: held), s.found⟩
  | .unicode held value digits =>
    (hexValue? c).map fun digit =>
      let unit := value * 16 + digit
      if digits = 3 then ⟨.inText (unit :: held), s.found⟩
      else ⟨.unicode held unit (digits + 1), s.found⟩
  | .inNumber held =>
    if isNumberChar c then some ⟨.inNumber (c :: held), s.found⟩
    else (numberToken? held.reverse).bind fun t => stepBetween (t :: s.found) c
  | .inWord held =>
    -- a word ends at the first character that cannot be in it, which is then read anew
    if c.isLower then some ⟨.inWord (c :: held), s.found⟩
    else (wordToken? held.reverse).bind fun t => stepBetween (t :: s.found) c

/-- The end of the text. -/
def Scanner.finish (s : Scanner) : Option (List Token) :=
  match s.scan with
  | .between => some s.found.reverse
  | .inNumber held => (numberToken? held.reverse).map fun t => (t :: s.found).reverse
  | .inWord held => (wordToken? held.reverse).map fun t => (t :: s.found).reverse
  | _ => none

/-- The tokens of a text, if it consists of tokens. -/
def tokens? (s : List Char) : Option (List Token) :=
  (s.foldlM Scanner.step ⟨.between, []⟩).bind Scanner.finish

end ClusterReport.Json
