import DepartureRules.Proofs.Live.Advance
import DepartureRules.Proofs.Live.Serving

/-!
# Files that are not loaded

A source that is given a file that it cannot read, or that holds no document, goes on as if it had not been given it.

* `NoDocument`: why a file is not loaded, and `load_eq_error_iff`: a source refuses it then and only then;
* `State.moves_load_of_noDocument` and `State.run_load_of_noDocument`: a refused file can be left out of a row of moves
  or a run, wherever it stands;
* `Session.after`: a session after commands. `Session.files_perform` and `Session.atRest_perform` say what every
  command keeps, and `Session.after_set_of_noDocument` that a refused file can be left out of the commands;
* `refused_file_changes_nothing` puts this together for what a session is given.
-/

namespace DepartureRules.Live
set_option autoImplicit false

/-! ## Refused files -/

/-- A file with this content, if it has one, is not loaded for this reason. -/
def NoDocument (content : Option String) : State.LoadError → Prop
  | .unreadable => content = none
  | .faulty fault => ∃ text ∈ content, readAirports text = .error fault

namespace State
variable {s : State} {content : Option String} {e : LoadError}

theorem load_eq_error_iff : (s.load content).1 = .error e ↔ NoDocument content e := by
  cases content with
  | none => cases e <;> simp [load, NoDocument]
  | some text =>
    cases hread : readAirports text with
    | ok airports => cases e <;> simp [load, NoDocument, hread]
    | error fault => cases e <;> simp [load, NoDocument, hread]

theorem load_of_noDocument (h : NoDocument content e) (s : State) : s.load content = (.error e, s) := by
  have hfails : (s.load content).1 = .error e := load_eq_error_iff.2 h
  revert hfails
  unfold load
  split
  · exact fun hfails => Prod.ext hfails rfl
  · split
    · exact fun hfails => Prod.ext hfails rfl
    · exact nofun

/-- What comes after a refused file, old answers included, has the effect that it has without it. -/
theorem moves_load_of_noDocument (h : NoDocument content e) (s : State) (ms ms' : List Move) :
    s.moves (ms ++ .event (.load content) :: ms') = s.moves (ms ++ ms') := by
  have hsame : (s.moves ms).move (.event (.load content)) = s.moves ms := by
    rw [move, apply, load_of_noDocument h]
  rw [moves_append, moves_append, moves_cons, hsame]

theorem step_load_of_noDocument (h : NoDocument content e) (rest : s.settled = s) : s.step (.load content) = s := by
  rw [step, apply, load_of_noDocument h, rest]

theorem settled_run (rest : s.settled = s) (es : List Event) : (s.run es).settled = s.run es := by
  induction es generalizing s with
  | nil => exact rest
  | cons e es ih => exact ih (settled_settled _)

theorem run_load_of_noDocument (h : NoDocument content e) (rest : s.settled = s) (es es' : List Event) :
    s.run (es ++ .load content :: es') = s.run (es ++ es') := by
  rw [run, run, List.foldl_append, List.foldl_append, List.foldl_cons]
  exact congrArg (fun t => es'.foldl step t) (step_load_of_noDocument h (settled_run rest es))

end State

/-! ## Commands of a session -/

namespace Session
variable {s t : Session} {path : String} {e : State.LoadError}

/-- The session after commands. -/
def after (s : Session) (commands : List Command) : Session :=
  commands.foldl (fun s c => (s.perform c).2) s

/-- Nothing is left to do for the source of the session. -/
def AtRest (s : Session) : Prop :=
  s.state.settled = s.state

theorem Follows.files_eq (h : s.Follows t) : t.files = s.files := by
  induction h with
  | refl => rfl
  | reply _ _ _ ih => exact ih
  | pass _ _ ih => exact ih

theorem Follows.atRest (h : s.Follows t) (rest : s.AtRest) : t.AtRest := by
  cases h with
  | refl => exact rest
  | reply => exact State.settled_settled _
  | pass => exact State.settled_settled _

theorem atRest_step (s : Session) (e : Event) : (s.step e).AtRest :=
  State.settled_settled _

theorem answer_eq_some {target : String} (h : s.answer target = some t) : ∃ r, t = s.reply r target := by
  unfold answer at h
  split at h
  · cases h
  · exact ⟨_, (Option.some.inj h).symm⟩

theorem files_perform (s : Session) (c : Command) : (s.perform c).2.files = s.files := by
  cases c with
  | set text =>
    simp only [perform, set]
    split
    · rfl
    · split <;> rfl
  | answer target =>
    simp only [perform]
    split
    · rename_i next hnext
      obtain ⟨r, rfl⟩ := answer_eq_some hnext
      rfl
    · rfl
  | settle => exact (follows_settle s).files_eq
  | _ => rfl

theorem atRest_perform (rest : s.AtRest) (c : Command) : (s.perform c).2.AtRest := by
  cases c with
  | airport icao => exact atRest_step s _
  | rules icao point => exact rest
  | moment => exact rest
  | base => exact rest
  | set text =>
    simp only [perform, set]
    split
    · exact atRest_step s _
    · split
      · exact atRest_step s _
      · exact atRest_step s _
  | invalidate => exact atRest_step s _
  | update => exact atRest_step s _
  | check plan => exact State.settled_settled _
  | script target entry => exact rest
  | answer target =>
    simp only [perform]
    split
    · rename_i next hnext
      obtain ⟨r, rfl⟩ := answer_eq_some hnext
      exact atRest_step s _
    · exact rest
  | settle => exact (follows_settle s).atRest rest
  | advance span => exact atRest_step s _

theorem after_keeps (rest : s.AtRest) (commands : List Command) :
    (s.after commands).files = s.files ∧ (s.after commands).AtRest := by
  induction commands generalizing s with
  | nil => exact ⟨rfl, rest⟩
  | cons c commands ih =>
    obtain ⟨hfiles, hrest⟩ := ih (atRest_perform rest c)
    exact ⟨hfiles.trans (files_perform s c), hrest⟩

theorem set_of_noDocument (rest : s.AtRest) (file : Address.namesServer path = false)
    (h : NoDocument (s.files.lookup path) e) : s.set (some path) = (.error e, s) := by
  simp only [set, file, Bool.false_eq_true, if_false, State.load_of_noDocument h, step,
    State.step_load_of_noDocument h rest]

/-- A refused file can be left out of the commands, wherever it stands among them. -/
theorem after_set_of_noDocument (rest : s.AtRest) (file : Address.namesServer path = false)
    (h : NoDocument (s.files.lookup path) e) (commands commands' : List Command) :
    s.after (commands ++ .set (some path) :: commands') = s.after (commands ++ commands') := by
  obtain ⟨hfiles, hrest⟩ := after_keeps rest commands
  rw [← hfiles] at h
  rw [after, after, List.foldl_append, List.foldl_append, List.foldl_cons]
  exact congrArg (fun t => after t commands') (congrArg Prod.snd (set_of_noDocument hrest file h))

theorem set_eq_error_iff {text : Option String} :
    (s.set text).1 = .error e ↔
      ∃ path, text = some path ∧ Address.namesServer path = false ∧ NoDocument (s.files.lookup path) e := by
  cases text with
  | none => simp [set]
  | some path =>
    cases file : Address.namesServer path with
    | true => simp [set, file]
    | false => simp [set, file, State.load_eq_error_iff]

/-- A file that is loaded begins a new generation. -/
theorem generation_set_of_loaded (file : Address.namesServer path = false) (loaded : (s.set (some path)).1 = .ok ()) :
    (s.set (some path)).2.state.generation = s.state.generation + 1 := by
  simp only [set, file, Bool.false_eq_true, if_false] at loaded ⊢
  cases hcontent : s.files.lookup path with
  | none =>
    rw [hcontent] at loaded
    cases loaded
  | some text =>
    cases hread : readAirports text with
    | error fault =>
      simp [hcontent, State.load, hread] at loaded
    | ok airports =>
      show (s.state.apply (.load (some text))).settled.generation = _
      rw [State.generation_settled]
      exact State.generation_of_renews (.load hread)

/-- A session that is given a file and reports an error has been given a name that is no address, of a file that cannot
be read or whose text holds a fault. The source is as before, with everything that it knows and has in flight. Whatever
moves it made before, whatever moves it makes and whichever answers arrive afterwards, are as if the file had not been
given, and so are the commands of a session that is at rest. Only a file that is loaded makes a difference. -/
theorem refused_file_changes_nothing (s : Session) (text : Option String) :
    (∀ e, (s.set text).1 = .error e →
      ∃ path, text = some path ∧ Address.namesServer path = false ∧ NoDocument (s.files.lookup path) e ∧
        s.state.load (s.files.lookup path) = (.error e, s.state) ∧
        (∀ ms ms', s.state.moves (ms ++ .event (.load (s.files.lookup path)) :: ms') = s.state.moves (ms ++ ms')) ∧
        (s.AtRest → (s.set text).2 = s ∧
          (∀ commands commands', s.after (commands ++ .set text :: commands') = s.after (commands ++ commands')) ∧
          ∀ es es', s.state.run (es ++ .load (s.files.lookup path) :: es') = s.state.run (es ++ es'))) ∧
      ∀ path, text = some path → Address.namesServer path = false → (s.set text).1 = .ok () →
        (s.set text).2.state.generation = s.state.generation + 1 := by
  constructor
  · intro e refused
    obtain ⟨path, rfl, file, hnone⟩ := set_eq_error_iff.1 refused
    refine ⟨path, rfl, file, hnone, State.load_of_noDocument hnone _, State.moves_load_of_noDocument hnone _,
      fun rest => ⟨?_, after_set_of_noDocument rest file hnone, State.run_load_of_noDocument hnone rest⟩⟩
    rw [set_of_noDocument rest file hnone]
  · rintro path rfl file loaded
    exact generation_set_of_loaded file loaded

/-- A session that fetches an airport. Of its two files the first begins with that airport, and has a fault in a rule of
the next one. -/
def fetchingSession : Session where
  state := (State.start .up "http://h/" 20000 0).step (.lookup "EGLL")
  server := Server.script .empty "http://h/airport?icao=EGLL"
    (some { body := "[\x7b\"icao\":\"EGLL\",\"sids\":[\x7b\"point\":\"CPT\"\x7d]\x7d]" })
  files := [
    ("rules.json", "[\x7b\"icao\":\"EGLL\"\x7d,\x7b\"icao\":\"EGCC\",\"sids\":[" ++
      "\x7b\"point\":\"WAL\",\"constraints\":[\x7b\"max\":\"FL190\"\x7d]\x7d]\x7d]"),
    ("empty.json", "[]")]

/-- The airport is still being fetched after the refused file, and its rules arrive. -/
theorem refused_rulesFile :
    fetchingSession.AtRest ∧
      (fetchingSession.set (some "rules.json")).1 = .error (.faulty .mismatched) ∧
      (fetchingSession.set (some "rules.json")).2 = fetchingSession ∧
      (fetchingSession.state.lookup "EGLL").1 = .pending ∧
      (fetchingSession.after ([] ++ .set (some "rules.json") :: [.answer "http://h/airport?icao=EGLL"])).state.rules?
        "EGLL" "CPT" = some {} ∧
      (fetchingSession.set (some "empty.json")).1 = .ok () ∧
      (fetchingSession.set (some "empty.json")).2.state.generation = fetchingSession.state.generation + 1 := by
  have rest : fetchingSession.AtRest := State.settled_settled _
  have hrefused : (fetchingSession.set (some "rules.json")).1 = .error (.faulty .mismatched) := by decide +kernel
  have hloaded : (fetchingSession.set (some "empty.json")).1 = .ok () := by decide +kernel
  obtain ⟨path, -, -, -, -, -, hkept⟩ := (refused_file_changes_nothing fetchingSession (some "rules.json")).1 _ hrefused
  obtain ⟨hsame, hafter, -⟩ := hkept rest
  refine ⟨rest, hrefused, hsame, by decide +kernel, ?_, hloaded,
    (refused_file_changes_nothing fetchingSession (some "empty.json")).2 _ rfl (by decide) hloaded⟩
  rw [hafter]
  decide +kernel

end Session

end DepartureRules.Live
