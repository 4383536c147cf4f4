import DepartureRules.Json.Text

/-!
# Written documents

The values that the library writes, and their two written forms:

* `Value.compact` puts nothing between the parts of a document;
* `Value.pretty` puts every item and every entry on a line of its own, indented by two blanks a level.

An empty list or object is written by its two brackets in both forms.
-/

namespace DepartureRules.Json
set_option autoImplicit false

/-- A value of a document. -/
inductive Value
  | null
  | flag (value : Bool)
  | number (value : Nat)
  | text (value : String)
  | list (items : List Value)
  | object (entries : List (String × Value))
  deriving Inhabited

/-- The digits of a natural number. -/
def decimal (n : Nat) : List Char :=
  Nat.toDigits 10 n

namespace Value

/-- A value, or `null` where there is none. -/
def ofOption {α : Type} (write : α → Value) : Option α → Value
  | none => .null
  | some a => write a

/-- A list of values. -/
def ofList {α : Type} (write : α → Value) (as : List α) : Value :=
  .list (as.map write)

/-- A list of strings. -/
def texts (strings : List String) : Value :=
  ofList .text strings

/-! ## The compact form -/

mutual

/-- A value with nothing between its parts. -/
def compactChars : Value → List Char
  | .null => ['n', 'u', 'l', 'l']
  | .flag true => ['t', 'r', 'u', 'e']
  | .flag false => ['f', 'a', 'l', 's', 'e']
  | .number n => decimal n
  | .text s => quotedString s
  | .list [] => ['[', ']']
  | .list (item :: items) => '[' :: compactChars item ++ compactItems items
  | .object [] => ['\x7b', '\x7d']
  | .object ((name, value) :: entries) =>
    '\x7b' :: quotedString name ++ ':' :: compactChars value ++ compactEntries entries

/-- The further items of a list and its closing bracket. -/
def compactItems : List Value → List Char
  | [] => [']']
  | item :: items => ',' :: compactChars item ++ compactItems items

/-- The further entries of an object and its closing brace. -/
def compactEntries : List (String × Value) → List Char
  | [] => ['\x7d']
  | (name, value) :: entries =>
    ',' :: quotedString name ++ ':' :: compactChars value ++ compactEntries entries

end

/-- The compact form of a value. -/
def compact (v : Value) : String :=
  String.ofList (compactChars v)

/-! ## The indented form -/

/-- A line break and the indentation of a level. -/
def newLine (level : Nat) : List Char :=
  '\n' :: List.replicate (2 * level) ' '

mutual

/-- A value whose parts stand on lines of their own, one level deeper than the value. -/
def prettyChars (level : Nat) : Value → List Char
  | .null => ['n', 'u', 'l', 'l']
  | .flag true => ['t', 'r', 'u', 'e']
  | .flag false => ['f', 'a', 'l', 's', 'e']
  | .number n => decimal n
  | .text s => quotedString s
  | .list [] => ['[', ']']
  | .list (item :: items) =>
    '[' :: newLine (level + 1) ++ prettyChars (level + 1) item ++ prettyItems level items
  | .object [] => ['\x7b', '\x7d']
  | .object ((name, value) :: entries) =>
    '\x7b' :: newLine (level + 1) ++ quotedString name ++ ':' :: ' ' ::
      prettyChars (level + 1) value ++ prettyEntries level entries

/-- The further items of a list at a level and its closing bracket. -/
def prettyItems (level : Nat) : List Value → List Char
  | [] => newLine level ++ [']']
  | item :: items =>
    ',' :: newLine (level + 1) ++ prettyChars (level + 1) item ++ prettyItems level items

/-- The further entries of an object at a level and its closing brace. -/
def prettyEntries (level : Nat) : List (String × Value) → List Char
  | [] => newLine level ++ ['\x7d']
  | (name, value) :: entries =>
    ',' :: newLine (level + 1) ++ quotedString name ++ ':' :: ' ' ::
      prettyChars (level + 1) value ++ prettyEntries level entries

end

/-- The indented form of a value. -/
def pretty (v : Value) : String :=
  String.ofList (prettyChars 0 v)

end Value

end DepartureRules.Json
