import DepartureRules.Json.Number
import DepartureRules.Json.Text

/-!
# Passing over a value

A record may hold fields that its reader does not know. Their values have to be well formed, at any depth
of nesting, but nothing in them is looked at.

* `isJsonBlank` and `dropBlanks`, the four characters allowed between the parts of a document;
* `literal`, the rest of `null`, `true` or `false`;
* `nextPart`, what follows in a list or an object: its end or one more part;
* `skipValue`, a value of any kind.

Each call of `skipValue`, `skipItems` and `skipEntries` beyond the first has used up a character, so the
length of the text bounds their number.
-/

namespace DepartureRules.Json
set_option autoImplicit false

/-! ## Between the parts -/

/-- The characters allowed between the parts of a document. -/
def isJsonBlank (c : Char) : Bool :=
  c = ' ' || c = '\n' || c = '\t' || c = '\r'

/-- A text without the blanks at its head. -/
def dropBlanks (s : List Char) : List Char :=
  s.dropWhile isJsonBlank

/-- Reads the remaining letters of a literal. -/
def literal (letters s : List Char) : Except Fault (List Char) :=
  match letters, s with
  | [], rest => .ok rest
  | _ :: _, [] => .error .ended
  | c :: letters, d :: rest => if c = d then literal letters rest else .error .malformed

/-- What follows in a list or an object. -/
inductive Part
  /-- The closing bracket stood here; the text after it. -/
  | closed (rest : List Char)
  /-- Another part begins here. -/
  | more (rest : List Char)

/-- Finds the next part of a list or an object that ends in `close`. A comma stands between two parts
and neither before the first nor after the last. -/
def nextPart (close : Char) (first : Bool) (s : List Char) : Except Fault Part :=
  match dropBlanks s with
  | [] => .error .ended
  | c :: rest =>
    if c = close then .ok (.closed rest)
    else if first then .ok (.more (c :: rest))
    else if c = ',' then
      match dropBlanks rest with
      | [] => .error .ended
      | d :: after => if d = close then .error .malformed else .ok (.more (d :: after))
    else .error .malformed

/-- Reads the quote that opens the name of a field. -/
def openName (s : List Char) : Except Fault (List Char) :=
  match s with
  | [] => .error .ended
  | c :: rest => if c = '"' then .ok rest else .error .malformed

/-- Reads the colon between a name and its value. -/
def colon (s : List Char) : Except Fault (List Char) :=
  match dropBlanks s with
  | [] => .error .ended
  | c :: rest => if c = ':' then .ok rest else .error .malformed

/-! ## Values -/

mutual

/-- Passes over a value. -/
def skipValue (fuel : Nat) (s : List Char) : Except Fault (List Char) :=
  match fuel with
  | 0 => .error .ended
  | fuel + 1 =>
    match dropBlanks s with
    | [] => .error .ended
    | c :: rest =>
      if c = 'n' then literal ['u', 'l', 'l'] rest
      else if c = 't' then literal ['r', 'u', 'e'] rest
      else if c = 'f' then literal ['a', 'l', 's', 'e'] rest
      else if c = '"' then skipString rest
      else if c = '-' then skipNumber rest
      else if Text.isAsciiDigit c then skipNumber (c :: rest)
      else if c = '[' then skipItems fuel true rest
      else if c = '\x7b' then skipEntries fuel true rest
      else .error .malformed

/-- Passes over the items of a list and its closing bracket. -/
def skipItems (fuel : Nat) (first : Bool) (s : List Char) : Except Fault (List Char) :=
  match fuel with
  | 0 => .error .ended
  | fuel + 1 =>
    match nextPart ']' first s with
    | .error f => .error f
    | .ok (.closed rest) => .ok rest
    | .ok (.more rest) =>
      match skipValue fuel rest with
      | .error f => .error f
      | .ok rest => skipItems fuel false rest

/-- Passes over the entries of an object and its closing brace. -/
def skipEntries (fuel : Nat) (first : Bool) (s : List Char) : Except Fault (List Char) :=
  match fuel with
  | 0 => .error .ended
  | fuel + 1 =>
    match nextPart '\x7d' first s with
    | .error f => .error f
    | .ok (.closed rest) => .ok rest
    | .ok (.more rest) =>
      match openName rest with
      | .error f => .error f
      | .ok rest =>
        match skipString rest with
        | .error f => .error f
        | .ok rest =>
          match colon rest with
          | .error f => .error f
          | .ok rest =>
            match skipValue fuel rest with
            | .error f => .error f
            | .ok rest => skipEntries fuel false rest

end

/-- A number of calls that is enough for every text of this length. -/
def enoughFor (s : List Char) : Nat :=
  2 * s.length + 2

/-! ## Values of the wrong kind -/

/-- The fault of a value of the wrong kind that begins at the head of the text. A literal, a number or a
string is read to its end first, so a fault inside it comes first; a list or an object is not entered. -/
def wrongKind (s : List Char) : Fault :=
  let settle (read : Except Fault (List Char)) : Fault :=
    match read with
    | .error f => f
    | .ok _ => .mismatched
  match s with
  | [] => .malformed
  | c :: rest =>
    if c = 'n' then settle (literal ['u', 'l', 'l'] rest)
    else if c = 't' then settle (literal ['r', 'u', 'e'] rest)
    else if c = 'f' then settle (literal ['a', 'l', 's', 'e'] rest)
    else if c = '-' then settle ((readNumber true rest).map (·.2))
    else if Text.isAsciiDigit c then settle ((readNumber false (c :: rest)).map (·.2))
    else if c = '"' then settle ((stringBody rest).map (·.2))
    else if c = '[' || c = '\x7b' then .mismatched
    else .malformed

/-! ## Facts about blanks -/

theorem dropBlanks_cons {c : Char} (h : isJsonBlank c = false) (s : List Char) :
    dropBlanks (c :: s) = c :: s := by
  simp [dropBlanks, h]

end DepartureRules.Json
