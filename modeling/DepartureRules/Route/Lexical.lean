import DepartureRules.Text.DecimalDigit
import DepartureRules.Text.Uppercase

/-!
# Lexical classes of route words

A class is a list of shapes, and a shape is a row of character classes. A word is in the class when it fits
one of the shapes, character by character:

* `speedLevels`, as in `N0450F350`, and `climbs`, as in `N0450F350F390` or `N0450F350PLUS`;
* `airports`, four letters, possibly with a runway;
* `airways`, among them the word `DCT`;
* `points`, names of points and coordinates.

Letters are `A` to `Z`; digits are all decimal digits, except where a shape asks for `1` to `9`. `FitsShape` is
the same relation as an inductive predicate, and `fits_iff` ties the two together.
-/

namespace DepartureRules.Lexical
open DepartureRules.Text
set_option autoImplicit false

/-! ## Shapes -/

/-- A row of character classes. -/
abbrev Shape : Type :=
  List (Char → Bool)

/-- The word has the length of the shape, and each of its characters is in the class in its place. -/
def fits : Shape → List Char → Bool
  | [], [] => true
  | p :: shape, c :: word => p c && fits shape word
  | _, _ => false

/-- The word fits one of the shapes. -/
def fitsAny (shapes : List Shape) (word : List Char) : Bool :=
  shapes.any fun shape => fits shape word

/-- The word and the shape go together. -/
inductive FitsShape : Shape → List Char → Prop
  | nil : FitsShape [] []
  | cons {p : Char → Bool} {c : Char} {shape : Shape} {word : List Char} (head : p c = true)
      (tail : FitsShape shape word) : FitsShape (p :: shape) (c :: word)

theorem fits_iff {shape : Shape} {word : List Char} : fits shape word = true ↔ FitsShape shape word := by
  induction shape generalizing word with
  | nil =>
    cases word with
    | nil => exact ⟨fun _ => .nil, fun _ => rfl⟩
    | cons c word => exact ⟨fun h => by simp [fits] at h, fun h => by cases h⟩
  | cons p shape ih =>
    cases word with
    | nil => exact ⟨fun h => by simp [fits] at h, fun h => by cases h⟩
    | cons c word =>
      simp only [fits, Bool.and_eq_true, ih]
      constructor
      · rintro ⟨head, tail⟩
        exact .cons head tail
      · intro h
        cases h with
        | cons head tail => exact ⟨head, tail⟩

theorem length_of_fits {shape : Shape} {word : List Char} (h : fits shape word = true) :
    word.length = shape.length := by
  induction shape generalizing word with
  | nil =>
    cases word with
    | nil => rfl
    | cons => simp [fits] at h
  | cons p shape ih =>
    cases word with
    | nil => simp [fits] at h
    | cons c word =>
      simp only [fits, Bool.and_eq_true] at h
      simp [ih h.2]

theorem fits_append {shape more : Shape} {word rest : List Char} (h : fits shape word = true)
    (hrest : fits more rest = true) : fits (shape ++ more) (word ++ rest) = true := by
  induction shape generalizing word with
  | nil =>
    cases word with
    | nil => exact hrest
    | cons => simp [fits] at h
  | cons p shape ih =>
    cases word with
    | nil => simp [fits] at h
    | cons c word =>
      simp only [fits, Bool.and_eq_true] at h
      simp only [List.cons_append, fits, Bool.and_eq_true]
      exact ⟨h.1, ih h.2⟩

/-! ## Rows of one class -/

/-- A row of letters. -/
def letters (n : Nat) : Shape :=
  List.replicate n isUpperLetter

/-- A row of decimal digits. -/
def digits (n : Nat) : Shape :=
  List.replicate n isDecimalDigit

/-- One of the given characters. -/
def oneOf (chars : List Char) : Shape :=
  [fun c => chars.contains c]

/-- The given characters, one after another. -/
def exactly (chars : List Char) : Shape :=
  chars.map fun d c => c == d

/-- One of the digits `1` to `9`. -/
def nonZeroDigit : Shape :=
  [fun c => isAsciiDigit c && c != '0']

/-- Every shape of the one list followed by every shape of the other. -/
def followedBy (shapes more : List Shape) : List Shape :=
  shapes.flatMap fun shape => more.map fun next => shape ++ next

/-- The shapes, or nothing. -/
def optionally (shapes : List Shape) : List Shape :=
  [] :: shapes

/-! ## Speeds and levels -/

/-- A Mach number in hundredths, or a speed in knots or kilometres per hour. -/
def speeds : List Shape := [
  exactly ['M'] ++ digits 3,
  oneOf ['N', 'K'] ++ digits 4]

/-- A level in hundreds of feet, or in tens of metres. -/
def levels : List Shape := [
  oneOf ['F', 'A'] ++ digits 3,
  oneOf ['S', 'M'] ++ digits 4]

/-- A speed and a level. -/
def speedLevels : List Shape :=
  followedBy speeds levels

/-- A speed and the band of levels of a climb, which may be open above. -/
def climbs : List Shape :=
  followedBy speedLevels (levels ++ [exactly ['P', 'L', 'U', 'S']])

/-! ## Airports, airways and points -/

/-- A runway: two digits and possibly a side. -/
def runways : List Shape :=
  followedBy [digits 2] (optionally [oneOf ['L', 'C', 'R']])

/-- Four letters and possibly a runway behind a slash. -/
def airports : List Shape :=
  followedBy [letters 4] (optionally (followedBy [exactly ['/']] runways))

/-- Names that belong to departures and arrivals: letters, a digit and possibly a letter. -/
def terminalRoutes : List Shape :=
  followedBy [letters 2, letters 3, letters 4, letters 5]
    (followedBy [digits 1] (optionally [letters 1]))

/-- Numbered airways: a letter and a number of up to three digits, with a letter before and after them
that may be missing. -/
def numberedAirways : List Shape :=
  followedBy (optionally [oneOf ['U', 'S', 'K']])
    (followedBy [letters 1 ++ nonZeroDigit]
      (followedBy [[], digits 1, digits 2] (optionally [letters 1])))

/-- The airways, the tracks across the North Atlantic and the word for no airway. -/
def airways : List Shape :=
  terminalRoutes ++ numberedAirways ++ [exactly ['N', 'A', 'T'] ++ letters 1, exactly ['D', 'C', 'T']]

/-- Names of points, possibly with a bearing and a distance. -/
def namedPoints : List Shape :=
  followedBy [letters 2, letters 3, letters 4, letters 5] (optionally [digits 6])

/-- Coordinates in degrees, possibly with minutes. -/
def coordinates : List Shape :=
  followedBy (followedBy [digits 2] (optionally [digits 2]))
    (followedBy [oneOf ['N', 'S'] ++ digits 3]
      (followedBy (optionally [digits 2]) [oneOf ['E', 'W']]))

/-- Names of points and coordinates. -/
def points : List Shape :=
  namedPoints ++ coordinates

/-! ## Classes of words -/

/-- The word is a speed and a level. -/
def isSpeedLevel (word : List Char) : Bool :=
  fitsAny speedLevels word

/-- The word is a speed with the levels of a climb. -/
def isClimb (word : List Char) : Bool :=
  fitsAny climbs word

/-- The word is an airport, possibly with a runway. -/
def isAirport (word : List Char) : Bool :=
  fitsAny airports word

/-- The word is an airway or the word for none. -/
def isAirway (word : List Char) : Bool :=
  fitsAny airways word

/-- The word is the name of a point or coordinates. -/
def isPoint (word : List Char) : Bool :=
  fitsAny points word

end DepartureRules.Lexical
