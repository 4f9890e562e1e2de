import PanelKeys.Text.Numeral

/-!
# JSON texts

Fixtures come as JSON.  A text is read into a `JsonValue`, or refused if it breaks the grammar
anywhere, also in parts that nobody will look at.

* `JsonValue` — the values.  A string whose escapes name half of a surrogate pair spells no text,
  but it is still a string: `JsonValue.string none`;
* `JsonValue.read?` — the value of a whole text;
* `JsonValue.fields?` — the fields of a record, given by name in an object or by place in an array.
-/

namespace PanelKeys

open PanelKeys.Text

/-- A number as it is written: `plain` numerals have neither fraction nor exponent. -/
structure JsonNumber where
  negative : Bool
  whole : Nat
  plain : Bool
  deriving DecidableEq

/-- The values of JSON; members stay in the order of the text. -/
inductive JsonValue where
  | null
  | bool (value : Bool)
  | number (value : JsonNumber)
  | string (text : Option String)
  | array (items : List JsonValue)
  | object (members : List (Option String × JsonValue))

namespace JsonValue

def isBlank (c : Char) : Bool := c = ' ' || c = '\t' || c = '\n' || c = '\r'

def dropBlanks (cs : List Char) : List Char := cs.dropWhile isBlank

/-! ## Strings -/

/-- A piece of a string: a character, or the number of an escape. -/
inductive Piece where
  | char (c : Char)
  | unit (n : Nat)

def escaped? : Char → Option Char
  | '"' => some '"'
  | '\\' => some '\\'
  | '/' => some '/'
  | 'b' => some '\x08'
  | 'f' => some '\x0c'
  | 'n' => some '\n'
  | 'r' => some '\r'
  | 't' => some '\t'
  | _ => none

/-- The pieces up to the closing quote, and what follows it.  Control characters must be escaped. -/
def pieces? : List Char → Option (List Piece × List Char)
  | [] => none
  | '"' :: rest => some ([], rest)
  | '\\' :: 'u' :: a :: b :: c :: d :: rest => do
      let n ← radixNumber? 16 [a, b, c, d]
      let (ps, after) ← pieces? rest
      some (.unit n :: ps, after)
  | '\\' :: c :: rest => do
      let e ← escaped? c
      let (ps, after) ← pieces? rest
      some (.char e :: ps, after)
  | c :: rest =>
      if c.toNat < 0x20 then none
      else do
        let (ps, after) ← pieces? rest
        some (.char c :: ps, after)

def isHighSurrogate (n : Nat) : Bool := 0xD800 ≤ n && n ≤ 0xDBFF

def isLowSurrogate (n : Nat) : Bool := 0xDC00 ≤ n && n ≤ 0xDFFF

/-- The character of a surrogate pair. -/
def pairChar (high low : Nat) : Char :=
  Char.ofNat (0x10000 + (high - 0xD800) * 0x400 + (low - 0xDC00))

/-- The text of the pieces; `none` if a surrogate stands without its partner. -/
def textOf? : List Piece → Option (List Char)
  | [] => some []
  | .char c :: rest => (textOf? rest).map (c :: ·)
  | .unit high :: .unit low :: rest =>
      if isHighSurrogate high then
        if isLowSurrogate low then (textOf? rest).map (pairChar high low :: ·) else none
      else if isLowSurrogate high then none
      else (textOf? (.unit low :: rest)).map (Char.ofNat high :: ·)
  | .unit n :: rest =>
      if isHighSurrogate n || isLowSurrogate n then none
      else (textOf? rest).map (Char.ofNat n :: ·)

/-- A string behind its opening quote. -/
def string? (cs : List Char) : Option (Option String × List Char) :=
  (pieces? cs).map fun (ps, rest) => ((textOf? ps).map String.ofList, rest)

/-! ## Numbers -/

/-- One digit or more. -/
def digits? (cs : List Char) : Option (List Char × List Char) :=
  let ds := cs.takeWhile Char.isDigit
  if ds.isEmpty then none else some (ds, cs.dropWhile Char.isDigit)

/-- The digits before the point: a zero alone, or digits that begin with none. -/
def whole? (cs : List Char) : Option (List Char × List Char) :=
  match cs with
  | '0' :: rest => some (['0'], rest)
  | _ => digits? cs

def fraction? (cs : List Char) : Option (Bool × List Char) :=
  match cs with
  | '.' :: rest => (digits? rest).map fun (_, after) => (true, after)
  | _ => some (false, cs)

def dropSign : List Char → List Char
  | '+' :: rest => rest
  | '-' :: rest => rest
  | rest => rest

def exponent? (cs : List Char) : Option (Bool × List Char) :=
  match cs with
  | 'e' :: rest | 'E' :: rest => (digits? (dropSign rest)).map fun (_, after) => (true, after)
  | _ => some (false, cs)

def number? (cs : List Char) : Option (JsonNumber × List Char) := do
  let (negative, body) := match cs with
    | '-' :: rest => (true, rest)
    | rest => (false, rest)
  let (whole, rest) ← whole? body
  let (hasFraction, rest) ← fraction? rest
  let (hasExponent, rest) ← exponent? rest
  some (⟨negative, Nat.ofDigitChars 10 whole 0, !hasFraction && !hasExponent⟩, rest)

/-! ## Values -/

mutual

/-- A value at the front of a text, and what follows it. -/
def value? (fuel : Nat) (cs : List Char) : Option (JsonValue × List Char) :=
  match fuel with
  | 0 => none
  | fuel + 1 =>
      match dropBlanks cs with
      | 'n' :: 'u' :: 'l' :: 'l' :: rest => some (.null, rest)
      | 't' :: 'r' :: 'u' :: 'e' :: rest => some (.bool true, rest)
      | 'f' :: 'a' :: 'l' :: 's' :: 'e' :: rest => some (.bool false, rest)
      | '"' :: rest => (string? rest).map fun (s, after) => (.string s, after)
      | '[' :: rest =>
          match dropBlanks rest with
          | ']' :: after => some (.array [], after)
          | _ => (items? fuel rest).map fun (items, after) => (.array items, after)
      | '{' :: rest =>
          match dropBlanks rest with
          | '}' :: after => some (.object [], after)
          | _ => (members? fuel rest).map fun (members, after) => (.object members, after)
      | rest => (number? rest).map fun (n, after) => (.number n, after)

/-- The items of an array up to its closing bracket. -/
def items? (fuel : Nat) (cs : List Char) : Option (List JsonValue × List Char) :=
  match fuel with
  | 0 => none
  | fuel + 1 => do
      let (v, rest) ← value? fuel cs
      match dropBlanks rest with
      | ']' :: after => some ([v], after)
      | ',' :: rest =>
          let (vs, after) ← items? fuel rest
          some (v :: vs, after)
      | _ => none

/-- The members of an object up to its closing brace. -/
def members? (fuel : Nat) (cs : List Char) :
    Option (List (Option String × JsonValue) × List Char) :=
  match fuel with
  | 0 => none
  | fuel + 1 =>
      match dropBlanks cs with
      | '"' :: rest => do
          let (key, rest) ← string? rest
          match dropBlanks rest with
          | ':' :: rest => do
              let (v, rest) ← value? fuel rest
              match dropBlanks rest with
              | '}' :: after => some ([(key, v)], after)
              | ',' :: rest =>
                  let (vs, after) ← members? fuel rest
                  some ((key, v) :: vs, after)
              | _ => none
          | _ => none
      | _ => none

end

/-- The value of a whole text; every nested value takes a character, so the fuel is never short. -/
def read? (s : String) : Option JsonValue :=
  let cs := s.toList
  match value? (2 * cs.length + 2) cs with
  | some (v, rest) => if (dropBlanks rest).isEmpty then some v else none
  | none => none

/-! ## Records -/

/-- How often a name occurs among the members. -/
def occurrences (name : String) (members : List (Option String × JsonValue)) : Nat :=
  members.countP fun m => m.1 = some name

/-- The fields of a record with these names: the members of an object, each known name at most once,
or the items of an array in the order of the names.  Members with other names are passed over. -/
def fields? (names : List String) : JsonValue → Option (String → Option JsonValue)
  | object members =>
      if members.all (fun m => m.1.isSome) && names.all (fun n => occurrences n members ≤ 1) then
        some fun name => (members.find? fun m => m.1 = some name).map Prod.snd
      else none
  | array items =>
      if items.length ≤ names.length then
        some fun name => ((names.zip items).find? fun p => p.1 = name).map Prod.snd
      else none
  | _ => none

def asText? : JsonValue → Option String
  | string text => text
  | _ => none

def asArray? : JsonValue → Option (List JsonValue)
  | array items => some items
  | _ => none

/-- The first number that 64 bits do not hold. -/
def countLimit : Nat := 18446744073709551616

/-- A numeral without sign, fraction or exponent that 64 bits hold. -/
def asCount? : JsonValue → Option Nat
  | number n => if n.plain && !n.negative && n.whole < countLimit then some n.whole else none
  | _ => none

/-- A value that may be missing, or stand as `null`. -/
def optional? {α : Type} (read : JsonValue → Option α) : Option JsonValue → Option (Option α)
  | none => some none
  | some null => some none
  | some v => (read v).map some

/-- A value that has a default where it is missing. -/
def withDefault? {α : Type} (dflt : α) (read : JsonValue → Option α) : Option JsonValue → Option α
  | none => some dflt
  | some v => read v

end JsonValue

end PanelKeys
