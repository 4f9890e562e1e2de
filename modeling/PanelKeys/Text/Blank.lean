/-!
# Blank characters and trimming

Texts from the panel, from the keyboard and from the settings are trimmed before they are read.
What is blank is the Unicode property `White_Space`: twenty-five characters, among them the
no-break space and the line separators, but not the zero-width space.

* `isBlank` — membership in the property;
* `trimChars`, `trim` — a text without its leading and trailing blanks.
-/

namespace PanelKeys.Text

/-- Membership in the Unicode property `White_Space`. -/
def isBlank (c : Char) : Bool :=
  let n := c.toNat
  (9 ≤ n && n ≤ 13) || n == 0x20 || n == 0x85 || n == 0xA0 || n == 0x1680
    || (0x2000 ≤ n && n ≤ 0x200A) || n == 0x2028 || n == 0x2029 || n == 0x202F
    || n == 0x205F || n == 0x3000

def dropBlanks (cs : List Char) : List Char := cs.dropWhile isBlank

/-- Blanks go at both ends and stay in the middle. -/
def trimChars (cs : List Char) : List Char :=
  (dropBlanks (dropBlanks cs).reverse).reverse

def trim (s : String) : String := String.ofList (trimChars s.toList)

/-- A text that consists of blanks alone trims to nothing. -/
def isBlankText (s : String) : Bool := s.toList.all isBlank

example : trim "\u00A0 a b\u3000" = "a b" := by decide

example : trim "\u200Ba" = "\u200Ba" := by decide

end PanelKeys.Text
