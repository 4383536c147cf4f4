import DepartureRules.Json.Skip

/-!
# Readers of documents

A `Reader α` takes a text to the value at its head and the text after it, or to the first fault met. The
readers here know what they expect, so a document that is wrong in two places is refused for the first:

* `Reader.flag`, `Reader.natural`, `Reader.text` read single values;
* `Reader.optional`, `Reader.list` read a value that may be `null` and the items of a list;
* `Reader.record` reads a record from its `RecordField`s, in either of its two written forms: an object
  with named fields in any order, or a list of the fields in their own order;
* `Reader.choice` reads one of finitely many names;
* `Reader.refine` adds a condition, and `Reader.document` reads a whole text.
-/

namespace DepartureRules.Json
set_option autoImplicit false

/-- Reads the value at the head of a text. -/
abbrev Reader (α : Type) : Type :=
  List Char → Except Fault (α × List Char)

namespace Reader

/-! ## Single values -/

/-- Reads `true` or `false`. -/
def flag : Reader Bool := fun s =>
  match dropBlanks s with
  | [] => .error .ended
  | c :: rest =>
    if c = 't' then (literal ['r', 'u', 'e'] rest).map (true, ·)
    else if c = 'f' then (literal ['a', 'l', 's', 'e'] rest).map (false, ·)
    else .error (wrongKind (c :: rest))

/-- Checks a number that has been read against its greatest admitted value. -/
def bounded (limit : Nat) (number : Except Fault (Option Nat × List Char)) :
    Except Fault (Nat × List Char) :=
  match number with
  | .error f => .error f
  | .ok (none, _) => .error .mismatched
  | .ok (some n, rest) => if n ≤ limit then .ok (n, rest) else .error .mismatched

/-- Reads a natural number up to `limit`. -/
def natural (limit : Nat) : Reader Nat := fun s =>
  match dropBlanks s with
  | [] => .error .ended
  | c :: rest =>
    if c = '-' then bounded limit (readNumber true rest)
    else if Text.isAsciiDigit c then bounded limit (readNumber false (c :: rest))
    else .error (wrongKind (c :: rest))

/-- Reads a string. -/
def text : Reader String := fun s =>
  match dropBlanks s with
  | [] => .error .ended
  | c :: rest =>
    if c = '"' then (stringBody rest).map fun (body, after) => (String.ofList body, after)
    else .error (wrongKind (c :: rest))

/-- Reads `null` and nothing else. -/
def nothing : Reader Unit := fun s =>
  match dropBlanks s with
  | [] => .error .ended
  | c :: rest =>
    if c = 'n' then (literal ['u', 'l', 'l'] rest).map ((), ·)
    else .error (wrongKind (c :: rest))

/-- Reads a value that has to satisfy a condition and may be changed by it. -/
def refine {α β : Type} (item : Reader α) (accept : α → Option β) : Reader β := fun s =>
  match item s with
  | .error f => .error f
  | .ok (a, rest) =>
    match accept a with
    | some b => .ok (b, rest)
    | none => .error .mismatched

/-! ## Optional values and lists -/

/-- Reads `null` or a value. -/
def optional {α : Type} (item : Reader α) : Reader (Option α) := fun s =>
  match dropBlanks s with
  | [] => .error .ended
  | c :: rest =>
    if c = 'n' then (literal ['u', 'l', 'l'] rest).map (none, ·)
    else (item (c :: rest)).map fun (a, after) => (some a, after)

/-- Reads the items of a list and its closing bracket. -/
def items {α : Type} (item : Reader α) (fuel : Nat) (first : Bool) : Reader (List α) := fun s =>
  match fuel with
  | 0 => .error .ended
  | fuel + 1 =>
    match nextPart ']' first s with
    | .error f => .error f
    | .ok (.closed rest) => .ok ([], rest)
    | .ok (.more rest) =>
      match item rest with
      | .error f => .error f
      | .ok (a, rest) =>
        match items item fuel false rest with
        | .error f => .error f
        | .ok (as, rest) => .ok (a :: as, rest)

/-- Reads a list. -/
def list {α : Type} (item : Reader α) : Reader (List α) := fun s =>
  match dropBlanks s with
  | [] => .error .ended
  | c :: rest =>
    if c = '[' then items item (enoughFor rest) true rest
    else .error (wrongKind (c :: rest))

end Reader

/-! ## Records -/

/-- A field of the records `α`: its name in a document, whether a document has to hold it, and how its
value is put into a record whose other fields may still be blank. -/
structure RecordField (α : Type) where
  name : String
  required : Bool
  read : α → Reader α

/-- A field that is read by `item` and stored by `put`. -/
def RecordField.of {α β : Type} (name : String) (required : Bool) (item : Reader β)
    (put : α → β → α) : RecordField α where
  name := name
  required := required
  read draft s := (item s).map fun (b, rest) => (put draft b, rest)

namespace Reader

/-- Reads the entries of an object and its closing brace. A field may be named once; a name that no field
has is passed over with its value; every required field has to be named. -/
def entries {α : Type} (fields : List (RecordField α)) (fuel : Nat) (first : Bool) (seen : List String)
    (draft : α) : Reader α := fun s =>
  match fuel with
  | 0 => .error .ended
  | fuel + 1 =>
    match nextPart '\x7d' first s with
    | .error f => .error f
    | .ok (.closed rest) =>
      if fields.all fun field => !field.required || seen.contains field.name then .ok (draft, rest)
      else .error .mismatched
    | .ok (.more rest) =>
      match openName rest with
      | .error f => .error f
      | .ok rest =>
        match stringBody rest with
        | .error f => .error f
        | .ok (letters, rest) =>
          let name := String.ofList letters
          match fields.find? fun field => field.name == name with
          | none =>
            match colon rest with
            | .error f => .error f
            | .ok rest =>
              match skipValue (enoughFor rest) rest with
              | .error f => .error f
              | .ok rest => entries fields fuel false seen draft rest
          | some field =>
            if seen.contains name then .error .mismatched
            else
              match colon rest with
              | .error f => .error f
              | .ok rest =>
                match field.read draft rest with
                | .error f => .error f
                | .ok (draft, rest) => entries fields fuel false (name :: seen) draft rest

/-- The end of a record that is written as a list: nothing may follow its last field. -/
def closeList (s : List Char) : Except Fault (List Char) :=
  match dropBlanks s with
  | [] => .error .ended
  | c :: rest => if c = ']' then .ok rest else .error .malformed

/-- Reads the fields of a record that is written as a list, in their own order. The list may be shorter
than the record when none of the fields left out is required. -/
def positions {α : Type} (fields : List (RecordField α)) (first : Bool) (draft : α) : Reader α := fun s =>
  match fields with
  | [] => (closeList s).map (draft, ·)
  | field :: others =>
    match nextPart ']' first s with
    | .error f => .error f
    | .ok (.closed rest) =>
      if (field :: others).any (·.required) then .error .mismatched else .ok (draft, rest)
    | .ok (.more rest) =>
      match field.read draft rest with
      | .error f => .error f
      | .ok (draft, rest) => positions others false draft rest

/-- Reads a record in either of its written forms. `blank` holds the values of the fields left out. -/
def record {α : Type} (fields : List (RecordField α)) (blank : α) : Reader α := fun s =>
  match dropBlanks s with
  | [] => .error .ended
  | c :: rest =>
    if c = '\x7b' then entries fields (enoughFor rest) true [] blank rest
    else if c = '[' then positions fields true blank rest
    else .error (wrongKind (c :: rest))

/-! ## Names of values -/

/-- The value that a name stands for. -/
def named {α : Type} (names : List (String × α)) (name : String) : Except Fault α :=
  match names.find? fun entry => entry.1 == name with
  | some entry => .ok entry.2
  | none => .error .mismatched

/-- The end of an object that has a single entry. -/
def closeObject (s : List Char) : Except Fault (List Char) :=
  match dropBlanks s with
  | [] => .error .ended
  | c :: rest => if c = '\x7d' then .ok rest else .error .malformed

/-- Reads a name, written as a string or as an object whose single entry has that name and the value
`null`. -/
def choice {α : Type} (names : List (String × α)) : Reader α := fun s =>
  match dropBlanks s with
  | [] => .error .ended
  | c :: rest =>
    if c = '"' then
      match stringBody rest with
      | .error f => .error f
      | .ok (letters, rest) => (named names (String.ofList letters)).map (·, rest)
    else if c = '\x7b' then
      match text rest with
      | .error f => .error f
      | .ok (name, rest) =>
        match named names name with
        | .error f => .error f
        | .ok a =>
          match colon rest with
          | .error f => .error f
          | .ok rest =>
            match nothing rest with
            | .error f => .error f
            | .ok (_, rest) => (closeObject rest).map (a, ·)
    else .error .malformed

/-! ## Whole documents -/

/-- Reads a text that holds one value and nothing but blanks around it. -/
def document {α : Type} (item : Reader α) (s : String) : Except Fault α :=
  match item s.toList with
  | .error f => .error f
  | .ok (a, rest) => if (dropBlanks rest).isEmpty then .ok a else .error .malformed

end Reader

end DepartureRules.Json
