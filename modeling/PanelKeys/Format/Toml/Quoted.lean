import PanelKeys.Format.Toml.Blank
import PanelKeys.Text.Numeral

/-!
# Quoted text in TOML

There are four kinds: between quotes, with escapes, or between apostrophes, as it stands; and each
of these on one line, or on several between threefold marks.

* `basic?`, `literal?` — the two kinds on one line, behind their opening mark;
* `longBasic?`, `longLiteral?` — the two on several lines.  **One or two marks in a row are text; of
  three to five the last three close**; a backslash at the end of a line takes the newline away,
  with all blanks and newlines behind it;
* `quoted?` — any of the four.
-/

namespace PanelKeys.Toml

open PanelKeys.Text

/-- The character behind a backslash, if it is one of the short escapes. -/
def escaped? : Char → Option Char
  | 'b' => some '\x08'
  | 'f' => some '\x0c'
  | 'n' => some '\n'
  | 'r' => some '\r'
  | 't' => some '\t'
  | '"' => some '"'
  | '\\' => some '\\'
  | _ => none

/-- The character that hexadecimal digits name. -/
def named? (digits : List Char) : Option Char := (radixNumber? 16 digits).bind scalar?

/-- Puts a character in front of what has been read. -/
def consChar (c : Char) (r : List Char × List Char) : List Char × List Char := (c :: r.1, r.2)

/-- A text with escapes, behind its opening quote. -/
def basic? : List Char → Option (List Char × List Char)
  | [] => none
  | '"' :: rest => some ([], rest)
  | '\\' :: 'u' :: a :: b :: c :: d :: rest => do
      some (consChar (← named? [a, b, c, d]) (← basic? rest))
  | '\\' :: 'U' :: a :: b :: c :: d :: e :: f :: g :: h :: rest => do
      some (consChar (← named? [a, b, c, d, e, f, g, h]) (← basic? rest))
  | '\\' :: c :: rest => do some (consChar (← escaped? c) (← basic? rest))
  | c :: rest => if isPlain c then (basic? rest).map (consChar c) else none

/-- A text as it stands, behind its opening apostrophe. -/
def literal? : List Char → Option (List Char × List Char)
  | [] => none
  | '\x27' :: rest => some ([], rest)
  | c :: rest => if isPlain c then (literal? rest).map (consChar c) else none

/-- Behind a backslash nothing stands on the line. -/
def foldsLine (cs : List Char) : Bool := (newline? (dropBlanks cs)).isSome

/-- A text with escapes on several lines; while a line is folded, blanks and newlines are
dropped. -/
def longBasic? (folding : Bool) : List Char → Option (List Char × List Char)
  | [] => none
  | '"' :: '"' :: '"' :: '"' :: '"' :: rest => some (['"', '"'], rest)
  | '"' :: '"' :: '"' :: '"' :: rest => some (['"'], rest)
  | '"' :: '"' :: '"' :: rest => some ([], rest)
  | '\\' :: 'u' :: a :: b :: c :: d :: rest => do
      some (consChar (← named? [a, b, c, d]) (← longBasic? false rest))
  | '\\' :: 'U' :: a :: b :: c :: d :: e :: f :: g :: h :: rest => do
      some (consChar (← named? [a, b, c, d, e, f, g, h]) (← longBasic? false rest))
  | '\\' :: c :: rest =>
      if foldsLine (c :: rest) then longBasic? true (c :: rest)
      else do some (consChar (← escaped? c) (← longBasic? false rest))
  | '\n' :: rest =>
      if folding then longBasic? true rest else (longBasic? false rest).map (consChar '\n')
  | '\r' :: '\n' :: rest =>
      if folding then longBasic? true rest else (longBasic? false rest).map (consChar '\n')
  | c :: rest =>
      if folding && isBlank c then longBasic? true rest
      else if isPlain c then (longBasic? false rest).map (consChar c)
      else none

/-- A text as it stands, on several lines. -/
def longLiteral? : List Char → Option (List Char × List Char)
  | [] => none
  | '\x27' :: '\x27' :: '\x27' :: '\x27' :: '\x27' :: rest => some (['\x27', '\x27'], rest)
  | '\x27' :: '\x27' :: '\x27' :: '\x27' :: rest => some (['\x27'], rest)
  | '\x27' :: '\x27' :: '\x27' :: rest => some ([], rest)
  | '\n' :: rest => (longLiteral? rest).map (consChar '\n')
  | '\r' :: '\n' :: rest => (longLiteral? rest).map (consChar '\n')
  | c :: rest => if isPlain c then (longLiteral? rest).map (consChar c) else none

/-- A newline right behind the opening marks is no part of the text. -/
def dropFirstNewline (cs : List Char) : List Char := (newline? cs).getD cs

/-- A quoted text of any kind. -/
def quoted? (cs : List Char) : Option (String × List Char) :=
  let read := match cs with
    | '"' :: '"' :: '"' :: rest => longBasic? false (dropFirstNewline rest)
    | '"' :: rest => basic? rest
    | '\x27' :: '\x27' :: '\x27' :: rest => longLiteral? (dropFirstNewline rest)
    | '\x27' :: rest => literal? rest
    | _ => none
  read.map fun (text, rest) => (String.ofList text, rest)

example : longBasic? false "a\"\"\"\"".toList = some (['a', '"'], []) := by decide

example : longBasic? false "a\\\n  b\"\"\"".toList = some (['a', 'b'], []) := by decide

end PanelKeys.Toml
