import DepartureRules.Proofs.Guarded.Basic
import DepartureRules.Proofs.Route.Recorded

/-!
# Reading routes with guarded operations

A word is compared with an expression that says where the match ends and what its groups are; the groups are looked at
by number and the rest of the word is cut off at a byte.

* `Matched` is what an expression matched, `airportMatch?` and `waypointMatch?` are the two expressions with groups;
* `waypoint?_eq`: whatever the word, no group is missing and no character is cut;
* `parse_eq`: so it is for the words of a whole route.
-/

namespace DepartureRules.Guarded
open Text Route
set_option autoImplicit false

/-! ## Matches -/

/-- A match at the beginning of a word. -/
structure Matched where
  /-- The byte at which the match ends. -/
  stop : Nat
  /-- The whole match and then the groups, of which some may have no part in it. -/
  groups : List (Option (List Char))

/-- A group that has to have a part in the match. -/
def Matched.group (m : Matched) (n : Nat) : Guarded (List Char) :=
  match m.groups[n]? with
  | some (some part) => .ok part
  | _ => .error .position

def airportMatch? (word : List Char) : Option Matched :=
  let runway := behindSlash word
  if Lexical.isAirport word then
    some ⟨byteLength word, [some word, some (beforeSlash word), if runway.isEmpty then none else some runway]⟩
  else none

/-- A point that ends with the word or with a slash, which is part of the match. -/
def waypointMatch? (word : List Char) : Option Matched :=
  let ident := beforeSlash word
  let whole := if ident = word then word else ident ++ ['/']
  if Lexical.isPoint ident then some ⟨byteLength whole, [some whole, some ident]⟩ else none

/-! ## Single words -/

def airport? (word : String) : Guarded (Option RouteToken) :=
  match airportMatch? word.toList with
  | none => return none
  | some m => do
    let ident ← m.group 1
    return some (.airport (String.ofList ident) ((m.groups[2]?.join).map String.ofList))

theorem airport?_eq (word : String) : airport? word = .ok (Route.airport? word) := by
  by_cases hairport : Lexical.isAirport word.toList = true
  · have hmatch : airportMatch? word.toList = some _ := if_pos hairport
    simp only [airport?, hmatch, Route.airport?, hairport, if_true, nonEmpty]
    cases (behindSlash word.toList).isEmpty <;> rfl
  · have hmatch : airportMatch? word.toList = none := if_neg hairport
    simp only [airport?, hmatch, Route.airport?, if_neg hairport]
    rfl

def waypoint? (word : String) : Guarded (Except RouteError (Option RouteToken)) :=
  let (climb, body) := climbSign word.toList
  match waypointMatch? body with
  | none => return .ok none
  | some m => do
    let ident ← m.group 1
    let change ← behind body m.stop
    if change.isEmpty then
      if climb then return .error .climbWithoutChange
      else return .ok (some (.waypoint (String.ofList ident) none false))
    else if if climb then Lexical.isClimb change else Lexical.isSpeedLevel change then
      return .ok (some (.waypoint (String.ofList ident) (some (String.ofList change)) climb))
    else return .error .invalidChange

/-- The match of a waypoint ends where a character does, before the change. -/
theorem behind_of_waypointMatch? {body : List Char} {m : Matched} (h : waypointMatch? body = some m) :
    Lexical.isPoint (beforeSlash body) = true ∧ m.group 1 = .ok (beforeSlash body) ∧
      behind body m.stop = .ok (behindSlash body) := by
  by_cases hpoint : Lexical.isPoint (beforeSlash body) = true
  · rw [waypointMatch?, if_pos hpoint] at h
    cases h
    refine ⟨hpoint, rfl, ?_⟩
    rcases slash_cases body with ⟨hwhole, hnone⟩ | hslash
    · have hcut := behind_append body []
      rw [List.append_nil] at hcut
      simp only [hwhole, if_true, hcut, hnone]
    · have hne : beforeSlash body ≠ body := by
        intro heq
        have hlength := congrArg List.length hslash
        rw [heq, List.length_append, List.length_cons] at hlength
        omega
      have hcut := behind_append (beforeSlash body ++ ['/']) (behindSlash body)
      rw [List.append_assoc, List.singleton_append, ← hslash] at hcut
      simp only [if_neg hne, hcut]
  · rw [waypointMatch?, if_neg hpoint] at h
    cases h

/-- No word is cut inside a character when it is read as a waypoint. -/
theorem waypoint?_eq (word : String) : waypoint? word = .ok (Route.waypoint? word) := by
  unfold waypoint? Route.waypoint?
  generalize climbSign word.toList = sign
  obtain ⟨climb, body⟩ := sign
  cases hmatch : waypointMatch? body with
  | none =>
    have hpoint : ¬Lexical.isPoint (beforeSlash body) = true := by
      intro hpoint
      rw [waypointMatch?, if_pos hpoint] at hmatch
      cases hmatch
    simp only [hmatch, if_neg hpoint]
    rfl
  | some m =>
    obtain ⟨hpoint, hident, hchange⟩ := behind_of_waypointMatch? hmatch
    simp only [hmatch, hident, hchange, hpoint, ok_bind, pure_eq_ok, if_true]
    cases (behindSlash body).isEmpty <;> cases climb <;> simp [apply_ite]

/-! ## Whole routes -/

/-- The result of reading with guarded operations. -/
abbrev Reading (α : Type) : Type :=
  ExceptT RouteError Guarded α

/-- What was read without a fault. -/
def Reading.of {α : Type} (result : Except RouteError α) : Reading α :=
  ExceptT.mk (.ok result)

namespace Reading
variable {α β : Type}

@[simp] theorem of_ok_bind (a : α) (next : α → Reading β) : (of (.ok a) >>= next) = next a := rfl

@[simp] theorem of_error_bind (e : RouteError) (next : α → Reading β) : (of (.error e) >>= next) = of (.error e) := rfl

@[simp] theorem lift_ok_bind (a : α) (next : α → Reading β) :
    ((liftM (Except.ok a : Guarded α) : Reading α) >>= next) = next a := rfl

theorem of_map (result : Except RouteError α) (f : α → β) :
    (do return f (← of result) : Reading β) = of (result.map f) := by
  cases result <;> rfl

end Reading

def point? (word : String) : Reading (Option RouteToken) :=
  if Lexical.isAirport word.toList then return none else ExceptT.mk (waypoint? word)

def takeAirport (code : String) (mismatch : RouteError) : List String → Reading (List RouteToken × List String)
  | [] => return ([], [])
  | word :: words => do
    match ← (airport? word : Guarded _) with
    | none => return ([], word :: words)
    | some (.airport ident runway) =>
      if ident = code then return ([.airport ident runway], words) else throw mismatch
    | some _ => throw mismatch

def legs : List String → Reading (List RouteToken × List String)
  | [] => return ([], [])
  | word :: words =>
    match airway? word with
    | none => do
      match ← point? word with
      | none => return ([], word :: words)
      | some point => return prepend [point] (← legs words)
    | some airway =>
      match words with
      | [] => return ([airway], [])
      | next :: words => do
        match ← point? next with
        | none => return ([airway], next :: words)
        | some point => return prepend [airway, point] (← legs words)

def ofWords (words : List String) (origin destination : String) : Reading Route := do
  if words.isEmpty then throw .empty
  let (lead, words) := takeSpeedLevel words
  if words.isEmpty then throw .noRoute
  let (start, words) ← takeAirport origin .originMismatch words
  let (speed, words) := takeSpeedLevel words
  let (middle, words) ← legs words
  let (finish, words) ← takeAirport destination .destinationMismatch words
  match words with
  | [] => return ⟨lead ++ start ++ speed ++ middle ++ finish⟩
  | word :: _ => throw (.invalidToken word)

def parse (text origin destination : String) : Guarded (Except RouteError Route) :=
  (ofWords ((wordsOf text).map uppercased) origin destination).run

theorem point?_eq (word : String) : point? word = .of (Route.point? word) := by
  unfold point? Route.point?
  split
  · rfl
  · exact congrArg ExceptT.mk (waypoint?_eq word)

theorem takeAirport_eq (code : String) (mismatch : RouteError) (words : List String) :
    takeAirport code mismatch words = .of (Route.takeAirport code mismatch words) := by
  cases words with
  | nil => rfl
  | cons word words =>
    simp only [takeAirport, Route.takeAirport, airport?_eq, Reading.lift_ok_bind]
    cases Route.airport? word with
    | none => rfl
    | some token =>
      cases token with
      | airport ident runway =>
        simp only
        split <;> rfl
      | _ => rfl

theorem legs_eq (words : List String) : legs words = .of (Route.legs words) := by
  fun_induction Route.legs words with
  | case1 => rfl
  | case2 word words hairway e hpoint =>
    simp only [legs, hairway, point?_eq, hpoint, Reading.of_error_bind]
  | case3 word words hairway hpoint =>
    simp only [legs, hairway, point?_eq, hpoint, Reading.of_ok_bind]
    rfl
  | case4 word words hairway point hpoint ih =>
    simp only [legs, hairway, point?_eq, hpoint, Reading.of_ok_bind, ih, Reading.of_map]
  | case5 word airway hairway =>
    simp only [legs, hairway]
    rfl
  | case6 word airway hairway next words e hpoint =>
    simp only [legs, hairway, point?_eq, hpoint, Reading.of_error_bind]
  | case7 word airway hairway next words hpoint =>
    simp only [legs, hairway, point?_eq, hpoint, Reading.of_ok_bind]
    rfl
  | case8 word airway hairway next words point hpoint ih =>
    simp only [legs, hairway, point?_eq, hpoint, Reading.of_ok_bind, ih, Reading.of_map]

theorem ofWords_eq (words : List String) (origin destination : String) :
    ofWords words origin destination = .of (Route.ofWords words origin destination) := by
  unfold ofWords Route.ofWords
  simp only [takeAirport_eq, legs_eq]
  cases words.isEmpty with
  | true => rfl
  | false =>
    cases (takeSpeedLevel words).2.isEmpty with
    | true => rfl
    | false =>
      simp only [Bool.false_eq_true, if_false]
      cases Route.takeAirport origin .originMismatch (takeSpeedLevel words).2 with
      | error e => rfl
      | ok start =>
        simp only [Reading.of_ok_bind, ok_bind]
        cases Route.legs (takeSpeedLevel start.2).2 with
        | error e => rfl
        | ok middle =>
          simp only [Reading.of_ok_bind, ok_bind]
          cases Route.takeAirport destination .destinationMismatch middle.2 with
          | error e => rfl
          | ok finish =>
            obtain ⟨tokens, rest⟩ := finish
            cases rest <;> rfl

/-- A route is read without a fault, whatever stands in it. -/
theorem parse_eq (text origin destination : String) :
    parse text origin destination = .ok (Route.parse text origin destination) := by
  rw [parse, ofWords_eq]
  rfl

end DepartureRules.Guarded
