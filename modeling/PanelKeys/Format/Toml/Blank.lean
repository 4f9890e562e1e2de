/-!
# Between the words of a TOML text

Blanks stand within a line, newlines and comments end it.  A carriage return counts only in front of
a line feed; alone it stands nowhere.

* `mark?` — one character that must come next; `newline?` — one end of line;
* `lineEnd?` — the rest of a line on which nothing more may stand;
* `dropGap?` — blanks, lines and comments between the items of an array.
-/

namespace PanelKeys.Toml

def isBlank (c : Char) : Bool := c = ' ' || c = '\t'

def dropBlanks (cs : List Char) : List Char := cs.dropWhile isBlank

/-- What may stand in a comment or a string as it is: no control characters but the tab. -/
def isPlain (c : Char) : Bool := c = '\t' || (' ' ≤ c && c ≠ '\x7f')

/-- Goes over a mark that must come next. -/
def mark? (mark : Char) : List Char → Option (List Char)
  | c :: rest => if c = mark then some rest else none
  | [] => none

/-- One end of line. -/
def newline? : List Char → Option (List Char)
  | '\n' :: rest => some rest
  | '\r' :: '\n' :: rest => some rest
  | _ => none

def dropComment : List Char → List Char
  | '#' :: rest => rest.dropWhile isPlain
  | cs => cs

/-- Blanks, perhaps a comment, and the end of the line or of the text. -/
def lineEnd? (cs : List Char) : Option (List Char) :=
  match dropComment (dropBlanks cs) with
  | [] => some []
  | rest => newline? rest

/-- Drops blanks, newlines and comments; a comment that no newline ends is refused. -/
def dropGap? (inComment : Bool) : List Char → Option (List Char)
  | [] => if inComment then none else some []
  | '\n' :: rest => dropGap? false rest
  | '\r' :: '\n' :: rest => dropGap? false rest
  | '\r' :: _ => none
  | c :: rest =>
      if inComment then
        if isPlain c then dropGap? true rest else none
      else if isBlank c then dropGap? false rest
      else if c = '#' then dropGap? true rest
      else some (c :: rest)

end PanelKeys.Toml
