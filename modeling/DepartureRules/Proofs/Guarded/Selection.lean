import DepartureRules.Proofs.Guarded.Basic
import DepartureRules.Selection.Ranking

/-!
# Selecting with guarded operations

The checks of constraints with numbers of fixed width, with rows that are looked at by position, and with a counter of
one byte.

* `Narrow` says of times that their parts are bytes, as they are wherever they are read;
* `windowContains_eq`: the window of a clause, whose first and last day are kept in a row of two;
* `checkLevelBlock_ok` and `checkLevelParity_ok`: a level of 32 bits leads to no number beyond them;
* `candidate_eq` and `select_eq`: so the rules of a departure lead to its report without a fault.
-/

namespace DepartureRules
set_option autoImplicit false

/-! ## Times of two bytes -/

/-- The hour and the minute are bytes. -/
def TimeOfDay.Narrow (t : TimeOfDay) : Prop :=
  t.hour < 256 ∧ t.minute < 256

def Moment.Narrow (m : Moment) : Prop :=
  ∀ time ∈ m.time, time.Narrow

structure Restriction.Narrow (r : Restriction) : Prop where
  start : ∀ start ∈ r.start, start.Narrow
  finish : ∀ finish ∈ r.finish, finish.Narrow

structure RuleSet.Narrow (rules : RuleSet) : Prop where
  restrictions : ∀ r ∈ rules.restrictions, r.Narrow
  constraints : ∀ c ∈ rules.constraints, ∀ r ∈ c.restrictions, r.Narrow

/-- The numbers of a departure fit their widths. -/
structure Departure.Narrow (d : Departure) : Prop where
  rules : d.rules.Narrow
  cruiseLevel : Guarded.Fits32 d.cruiseLevel
  now : d.circumstances.now.Narrow

namespace Guarded

/-! ## Windows -/

def minutes (t : TimeOfDay) : Guarded Nat := do
  let hours ← unsigned 65536 (t.hour * 60)
  unsigned 65536 (hours + t.minute)

theorem minutes_eq {t : TimeOfDay} (h : t.Narrow) : minutes t = .ok t.minutes := by
  obtain ⟨hhour, hminute⟩ := h
  rw [minutes, unsigned_eq (by omega), ok_bind, unsigned_eq (by omega)]
  rfl

/-- Whether a day is the first and whether it is the last day of a window. The smaller of the two is the last one when
the window wraps. -/
def boundary (first last day : Nat) : Guarded (List Bool) := do
  let wraps := decide (last < first)
  let row ← if day = min first last then write [false, false] wraps.toNat true else pure [false, false]
  if day = max first last then write row (!wraps).toNat true else pure row

theorem boundary_eq (first last day : Nat) : boundary first last day = .ok [day == first, day == last] := by
  unfold boundary
  rcases Nat.lt_trichotomy first last with hlt | heq | hgt
  · have hne : first ≠ last := Nat.ne_of_lt hlt
    rw [Nat.min_eq_left (Nat.le_of_lt hlt), Nat.max_eq_right (Nat.le_of_lt hlt), decide_eq_false (Nat.lt_asymm hlt)]
    by_cases hfirst : day = first
    · subst hfirst
      simp [write, hne]
    · by_cases hlast : day = last <;> simp [write, hfirst, hlast, hne.symm]
  · subst heq
    by_cases hday : day = first <;> simp [hday, write]
  · have hne : first ≠ last := Nat.ne_of_gt hgt
    rw [Nat.min_eq_right (Nat.le_of_lt hgt), Nat.max_eq_left (Nat.le_of_lt hgt), decide_eq_true hgt]
    by_cases hfirst : day = first
    · subst hfirst
      simp [write, hne]
    · by_cases hlast : day = last <;> simp [write, hfirst, hlast, hne.symm]

/-- The times of the ends count on the first and on the last day. -/
def dayWindow (start finish : Moment) (first last day minute : Nat) : Guarded Bool := do
  let row ← boundary first last day
  let onFirst ← item row 0
  let onLast ← item row 1
  if decide (last < first) == Window.between first last day && !onFirst && !onLast then return false
  match start.time, finish.time with
  | some opening, some closing =>
    let opens ← minutes opening
    let closes ← minutes closing
    return !(onFirst && minute < opens) && !(onLast && closes < minute)
  | _, _ => return true

def timeWindow (start finish : Moment) (minute : Nat) : Guarded Bool :=
  match start.time, finish.time with
  | some opening, some closing => return Window.coversMinute (← minutes opening) (← minutes closing) minute
  | _, _ => return true

def windowContains (start finish now : Moment) : Guarded Bool :=
  match now.time with
  | none => return true
  | some time => do
    let minute ← minutes time
    match start.day, finish.day with
    | some first, some last =>
      match now.day with
      | none => return false
      | some day => dayWindow start finish first last day minute
    | _, _ => timeWindow start finish minute

theorem dayWindow_eq {start finish : Moment} (hstart : start.Narrow) (hfinish : finish.Narrow)
    (first last day minute : Nat) : dayWindow start finish first last day minute =
      .ok (Window.coversDay first last day && Window.timesAdmit start finish first last day minute) := by
  simp only [dayWindow, boundary_eq, ok_bind, item_zero, item_one, Window.timesAdmit, Window.coversDay]
  have hcovers : (decide (last < first) == Window.between first last day && !day == first && !day == last) =
      !(day == first || day == last || decide (last < first) != Window.between first last day) := by
    cases day == first <;> cases day == last <;> simp [bne]
  rw [hcovers]
  cases day == first || day == last || decide (last < first) != Window.between first last day with
  | false => rfl
  | true =>
    cases hopening : start.time with
    | none => rfl
    | some opening =>
      cases hclosing : finish.time with
      | none => rfl
      | some closing =>
        simp only [minutes_eq (hstart opening hopening), minutes_eq (hfinish closing hclosing), ok_bind]
        rfl

theorem timeWindow_eq {start finish : Moment} (hstart : start.Narrow) (hfinish : finish.Narrow) (minute : Nat) :
    timeWindow start finish minute = .ok (match start.time, finish.time with
      | some opening, some closing => Window.coversMinute opening.minutes closing.minutes minute
      | _, _ => true) := by
  unfold timeWindow
  cases hopening : start.time with
  | none => rfl
  | some opening =>
    cases hclosing : finish.time with
    | none => rfl
    | some closing =>
      simp only [minutes_eq (hstart opening hopening), minutes_eq (hfinish closing hclosing), ok_bind]
      rfl

theorem windowContains_eq {start finish now : Moment} (hstart : start.Narrow) (hfinish : finish.Narrow)
    (hnow : now.Narrow) : windowContains start finish now = .ok (Window.contains start finish now) := by
  unfold windowContains Window.contains
  cases htime : now.time with
  | none => rfl
  | some time =>
    simp only [minutes_eq (hnow time htime), ok_bind, dayWindow_eq hstart hfinish, timeWindow_eq hstart hfinish]
    cases start.day with
    | none => rfl
    | some first =>
      cases finish.day with
      | none => rfl
      | some last => cases now.day <;> rfl

/-! ## Verdicts -/

def applies (r : Restriction) (c : Circumstances) : Guarded Bool := do
  let opened ←
    match r.start, r.finish with
    | some start, some finish => windowContains start finish c.now
    | _, _ => pure true
  return opened && r.suffixAdmitted c.suffix && r.typeAdmitted c.engineType c.aircraftType

theorem applies_eq {r : Restriction} {c : Circumstances} (hr : r.Narrow) (hnow : c.now.Narrow) :
    applies r c = .ok (r.applies c) := by
  unfold applies Restriction.applies Restriction.windowOpen
  cases hstart : r.start with
  | none => rfl
  | some start =>
    cases hfinish : r.finish with
    | none => rfl
    | some finish =>
      simp only [windowContains_eq (hr.start start hstart) (hr.finish finish hfinish) hnow]
      rfl

def verdict (restrictions : List Restriction) (c : Circumstances) : Guarded Verdict := do
  if restrictions.isEmpty then return ⟨.success, false, none⟩
  match ← restrictions.findM? fun r => applies r c with
  | none => return ⟨.conditionFail, false, some "no conditions match"⟩
  | some r =>
    if r.banned then return ⟨.conditionBan, false, some "banned condition matches"⟩
    else return ⟨.success, r.clearsSid, none⟩

theorem verdict_eq {restrictions : List Restriction} {c : Circumstances} (h : ∀ r ∈ restrictions, r.Narrow)
    (hnow : c.now.Narrow) : verdict restrictions c = .ok (DepartureRules.verdict restrictions c) := by
  unfold verdict DepartureRules.verdict
  have hfind := findM?_ok (p := fun r => applies r c) fun r hr => applies_eq (h r hr) hnow
  rw [hfind]
  cases restrictions.isEmpty with
  | true => rfl
  | false =>
    simp only [ok_bind, Bool.false_eq_true, if_false]
    cases restrictions.find? fun r => r.applies c with
    | none => rfl
    | some r => cases hbanned : r.banned <;> simp [hbanned]

/-! ## Checks -/

def checkRestrictions (c : Constraint) (d : Departure) (whole : Verdict) : Guarded CheckAnswer := do
  let own ← verdict c.restrictions d.circumstances
  if !own.passed then
    return .error ⟨own.outcome, own.note.toList ++ (suggestions c.restrictions).toList⟩
  else if whole.passed then return pass
  else if own.clearsSid then return .ok ["overridden by matching constrained condition"]
  else return .error ⟨whole.outcome, (suggestions d.rules.restrictions).toList⟩

def checkLevelBlock (c : Constraint) (cruiseLevel : Int) : Guarded CheckAnswer := do
  let level ← quotient cruiseLevel 100
  if c.lowest.any fun (lowest : Nat) => decide (level < (lowest : Int)) then
    return reject .levelBlock "requested level beneath minimum"
  else if c.highest.any fun (highest : Nat) => decide ((highest : Int) < level) then
    return reject .levelBlock "requested level above maximum"
  else return pass

def checkLevelParity (c : Constraint) (cruiseLevel : Int) : Guarded CheckAnswer := do
  if (← remainder cruiseLevel 1000) ≠ 0 then return reject .levelSeries "requested level not IFR"
  match c.direction with
  | none => return pass
  | some direction =>
    let level ← quotient cruiseLevel 1000
    if level ≤ lastThousand then
      if (← remainder level 2) = direction.parity then return pass
      else return reject .levelParity "requested level has incorrect parity"
    else
      let raised ← signed32 (2 + level)
      let above ← signed32 (raised - lastThousand)
      if (← remainder above 4) = (← signed32 (direction.parity * 2)) then return pass
      else return reject .levelParity "requested RVSM level has incorrect parity"

/-- The first element of a pattern is looked at by its position. -/
def matchesRoute (pattern : String) (route : List String) (anchored : Bool) : Guarded Bool := do
  if pattern = "*" then return true
  let elements := Pattern.elements pattern
  if route.isEmpty then return false
  if anchored then
    let first ← item elements 0
    return Pattern.fits elements (Pattern.anchor first route)
  return Pattern.fits elements route

def checkRoute (c : Constraint) (route : List String) (fix : String) : Guarded CheckAnswer := do
  let matching (pattern : String) : Guarded Bool := matchesRoute pattern route (!fix.isEmpty)
  if ← c.excludedRoutes.anyM matching then return reject .route "route matches blacklist"
  else if !c.routes.isEmpty && !(← c.routes.anyM matching) then return reject .route "route not in whitelist"
  else return pass

theorem checkRestrictions_ok {c : Constraint} {d : Departure} (h : ∀ r ∈ c.restrictions, r.Narrow)
    (hnow : d.circumstances.now.Narrow) (whole : Verdict) :
    checkRestrictions c d whole = .ok (DepartureRules.checkRestrictions c d whole) := by
  simp only [checkRestrictions, verdict_eq h hnow, ok_bind, pure_eq_ok, DepartureRules.checkRestrictions,
    apply_ite Except.ok]

theorem checkLevelBlock_ok (c : Constraint) {cruiseLevel : Int} (h : Fits32 cruiseLevel) :
    checkLevelBlock c cruiseLevel = .ok (DepartureRules.checkLevelBlock c cruiseLevel) := by
  simp only [checkLevelBlock, quotient_eq h (by decide : (0 : Int) < 100), ok_bind, pure_eq_ok,
    DepartureRules.checkLevelBlock, apply_ite Except.ok]

/-- Thousands of feet are far from the limits of 32 bits. -/
theorem thousands_le {cruiseLevel : Int} (h : Fits32 cruiseLevel) :
    -2147483 ≤ cruiseLevel.tdiv 1000 ∧ cruiseLevel.tdiv 1000 ≤ 2147483 := by
  unfold Fits32 at h
  have habs : (cruiseLevel.tdiv 1000).natAbs = cruiseLevel.natAbs / 1000 := Int.natAbs_tdiv cruiseLevel 1000
  omega

theorem checkLevelParity_ok (c : Constraint) {cruiseLevel : Int} (h : Fits32 cruiseLevel) :
    checkLevelParity c cruiseLevel = .ok (DepartureRules.checkLevelParity c cruiseLevel) := by
  obtain ⟨hlow, hhigh⟩ := thousands_le h
  have hthousand : (0 : Int) < 1000 := by decide
  have hlevel : Fits32 (cruiseLevel.tdiv 1000) := fits32_tdiv h hthousand
  have hraised : Fits32 (2 + cruiseLevel.tdiv 1000) := by
    unfold Fits32
    omega
  have habove : Fits32 (2 + cruiseLevel.tdiv 1000 - lastThousand) := by
    unfold Fits32 lastThousand
    omega
  have hparity (direction : Direction) : Fits32 (direction.parity * 2) := by
    cases direction <;> decide
  unfold checkLevelParity DepartureRules.checkLevelParity
  rw [remainder_eq h hthousand, quotient_eq h hthousand]
  simp only [ok_bind, pure_eq_ok, remainder_eq hlevel (by decide : (0 : Int) < 2), signed32_eq hraised,
    signed32_eq habove, remainder_eq habove (by decide : (0 : Int) < 4), signed32_eq (hparity _)]
  cases c.direction with
  | none => simp only [apply_ite Except.ok]
  | some direction => simp only [apply_ite Except.ok]

theorem matchesRoute_eq (pattern : String) (route : List String) (anchored : Bool) :
    matchesRoute pattern route anchored = .ok (Pattern.matchesRoute pattern route anchored) := by
  unfold matchesRoute Pattern.matchesRoute
  by_cases hany : pattern = "*"
  · simp only [hany, if_true]
    rfl
  · simp only [if_neg hany]
    obtain ⟨first, others, helements⟩ := List.exists_cons_of_ne_nil (Pattern.elements_ne_nil pattern)
    rw [helements]
    cases route with
    | nil => cases anchored <;> rfl
    | cons word route => cases anchored <;> rfl

theorem checkRoute_ok (c : Constraint) (route : List String) (fix : String) :
    checkRoute c route fix = .ok (DepartureRules.checkRoute c route fix) := by
  have hany (patterns : List String) :
      (patterns.anyM fun pattern => matchesRoute pattern route (!fix.isEmpty)) =
        .ok (patterns.any fun pattern => Pattern.matchesRoute pattern route (!fix.isEmpty)) :=
    anyM_ok fun pattern _ => matchesRoute_eq pattern route _
  simp only [checkRoute, hany, ok_bind, pure_eq_ok, DepartureRules.checkRoute, apply_ite Except.ok]

/-! ## Candidates -/

/-- The answers of the checks, each of which may be a fault. -/
def checks (c : Constraint) (d : Departure) (whole : Verdict) : List (Guarded CheckAnswer) := [
  .ok (checkDestination c d.destination),
  .ok (checkExitPoint c d.points),
  checkRestrictions c d whole,
  checkLevelBlock c d.cruiseLevel,
  checkLevelParity c d.cruiseLevel,
  checkRoute c d.route d.fix,
  .ok (checkAlerts c)]

/-- The checks are run up to the first rejection, and the passed ones are counted in a byte. -/
def runChecks (passes : Nat) : List (Guarded CheckAnswer) → Guarded Candidate
  | [] => return ⟨passes, .success, []⟩
  | answer :: answers => do
    match ← answer with
    | .error rejection => return ⟨passes, rejection.outcome, rejection.notes⟩
    | .ok notes =>
      let rest ← runChecks (← unsigned 256 (passes + 1)) answers
      return { rest with trail := notes ++ rest.trail }

def candidate (c : Constraint) (d : Departure) (whole : Verdict) : Guarded Candidate :=
  runChecks 0 (checks c d whole)

theorem runChecks_eq {answers : List CheckAnswer} {passes : Nat} (h : passes + answers.length < 256) :
    runChecks passes (answers.map .ok) = .ok ⟨passes + (DepartureRules.runChecks answers).passes,
      (DepartureRules.runChecks answers).outcome, (DepartureRules.runChecks answers).trail⟩ := by
  induction answers generalizing passes with
  | nil => rfl
  | cons answer answers ih =>
    cases answer with
    | error rejection => rfl
    | ok notes =>
      rw [List.length_cons] at h
      have hcount : unsigned 256 (passes + 1) = .ok (passes + 1) := unsigned_eq (by omega)
      have hrest := @ih (passes + 1) (by omega)
      have hsum : passes + 1 + (DepartureRules.runChecks answers).passes =
          passes + ((DepartureRules.runChecks answers).passes + 1) := by
        omega
      rw [List.map_cons, runChecks, ok_bind]
      simp only [hcount, hrest, hsum, ok_bind, pure_eq_ok, DepartureRules.runChecks]

theorem checks_ok {c : Constraint} {d : Departure} (hc : ∀ r ∈ c.restrictions, r.Narrow) (hd : d.Narrow)
    (whole : Verdict) : checks c d whole = (DepartureRules.checks c d whole).map .ok := by
  simp only [checks, DepartureRules.checks, List.map_cons, List.map_nil, checkRestrictions_ok hc hd.now,
    checkLevelBlock_ok c hd.cruiseLevel, checkLevelParity_ok c hd.cruiseLevel, checkRoute_ok]

/-- No more checks are counted than there are. -/
theorem candidate_eq {c : Constraint} {d : Departure} (hc : ∀ r ∈ c.restrictions, r.Narrow) (hd : d.Narrow)
    (whole : Verdict) : candidate c d whole = .ok (DepartureRules.candidate c d whole) := by
  have hcount : 0 + (DepartureRules.checks c d whole).length < 256 := by
    simp [DepartureRules.checks]
  rw [candidate, checks_ok hc hd, runChecks_eq hcount, Nat.zero_add]
  rfl

/-! ## Selection -/

/-- The report on a departure with these candidates. -/
def reportOn (whole : Verdict) (candidates : List Candidate) : Report :=
  let notes := whole.note.toList
  match candidates.find? fun c => c.outcome == .success with
  | some winner => ⟨.success, notes ++ winner.trail ++ ["candidate constraint passed"]⟩
  | none =>
    match best? candidates with
    | none => ⟨.sidUnknown, notes ++ ["departure has no constraints"]⟩
    | some best => ⟨best.outcome, notes ++ bestNotes best.trail⟩

def select (d : Departure) : Guarded Report := do
  let whole ← verdict d.rules.restrictions d.circumstances
  let candidates ← d.rules.constraints.mapM fun c => candidate c d whole
  return reportOn whole candidates

/-- Rules are applied to a departure without a fault, whatever their texts and levels. -/
theorem select_eq {d : Departure} (h : d.Narrow) : select d = .ok (DepartureRules.select d) := by
  have hcandidates := mapM_ok fun c hc =>
    candidate_eq (h.rules.constraints c hc) h (DepartureRules.verdict d.rules.restrictions d.circumstances)
  rw [select, verdict_eq h.rules.restrictions h.now, ok_bind, hcandidates]
  rfl

end Guarded

end DepartureRules
