import DepartureRules.Proofs.Live.Fetches
import DepartureRules.Proofs.Live.Provenance

/-!
# The last moment to arrive

The reference time is what the last answer to a request for it said, whichever request that was. Requests are told
apart by the generation of their launch and by nothing else, so within a generation an older request can be answered
after a newer one, and then its answer counts.

* `State.arrival?` is the moment that a move brings, and `now_moves` says that the last one is the reference time;
* `State.LoneRefresh`: no request of the refresh loop is in flight but its last one;
* `State.Overtaken`: of two requests in one generation the newer one is answered first;
* `Overtaken.now_move` says what the end of the older one changes then, and `Overtaken.not_ofLoop` that two requests of
  the refresh loop never come into this position;
* `older_moment_returns` is a run in which the reference time goes back to an older answer.
-/

namespace DepartureRules.Live
set_option autoImplicit false

namespace State
variable {s s' : State} {m : Move} {ms : List Move}

/-! ## Moments that arrive -/

/-- The moment that a move brings. -/
def arrival? (s : State) (m : Move) : Option Moment :=
  (s.ending? m).bind fun ended => s.momentOf? ended.1 ended.2

/-- The moments that a row of moves brings. -/
def arrivals (s : State) : List Move → List Moment
  | [] => []
  | m :: ms => (s.arrival? m).toList ++ (s.move m).arrivals ms

theorem now_move_of_not_ending? (h : s.ending? m = none) : (s.move m).now = s.now := by
  cases hm : m.choosesSource with
  | true => exact now_move_of_choosesSource s hm
  | false =>
    have hturn := turn_move s hm
    generalize s.move m = s' at hturn ⊢
    cases hturn with
    | finish r hr reply ends =>
      rw [h] at ends
      cases ends
    | _ => rfl

theorem now_move (s : State) (m : Move) : (s.move m).now = (s.arrival? m).getD s.now := by
  cases hending : s.ending? m with
  | none => rw [arrival?, hending, now_move_of_not_ending? hending, Option.bind_none, Option.getD_none]
  | some ended =>
    rw [arrival?, hending, (move_of_ending? hending).2]
    exact nowAfter_eq s ended.1 ended.2

theorem now_moves (s : State) (ms : List Move) : (s.moves ms).now = (s.arrivals ms).getLast?.getD s.now := by
  induction ms generalizing s with
  | nil => rfl
  | cons m ms ih =>
    rw [moves_cons, ih, now_move, arrivals, List.getLast?_append]
    cases s.arrival? m <;> cases ((s.move m).arrivals ms).getLast? <;> rfl

/-! ## Requests of the refresh loop -/

/-- A number that has been given stays given. -/
theorem given_effect (he : Effect s s') {id : RequestId} (h : s.given id = true) : s'.given id = true := by
  have hasked {t : State} (hle : s.asked ≤ t.asked) (hloop : t.loop = s.loop) : t.given id = true := by
    cases id with
    | asked number => exact decide_eq_true (Nat.lt_of_lt_of_le (of_decide_eq_true h) hle)
    | loop number =>
      rw [given, hloop]
      exact h
  cases he with
  | quiet base span loopBase unread => exact hasked (Nat.le_refl _) rfl
  | fetch icao unknown => exact hasked (Nat.le_succ _) rfl
  | update => exact hasked (Nat.le_succ _) rfl
  | finish r hr reply => exact hasked (Nat.le_refl _) rfl
  | redirect r hr location first => exact hasked (Nat.le_refl _) rfl
  | replace airports => exact hasked (Nat.le_succ _) rfl
  | fire l hl due idle =>
    cases id with
    | asked number => exact h
    | loop number =>
      rw [given, hl, Option.any_some] at h
      exact decide_eq_true (Nat.lt_succ_of_lt (of_decide_eq_true h))

theorem given_moves (ms : List Move) {id : RequestId} (h : s.given id = true) : (s.moves ms).given id = true := by
  induction ms generalizing s with
  | nil => exact h
  | cons m ms ih => exact ih (given_effect (effect_move s m) h)

theorem lt_of_given_of_not_given {n k : Nat} (h : s.given (.loop n) = true) (h' : s.given (.loop k) = false) :
    n < k := by
  cases hloop : s.loop with
  | none =>
    rw [given, hloop] at h
    cases h
  | some l =>
    rw [given, hloop, Option.any_some] at h h'
    exact Nat.lt_of_lt_of_le (of_decide_eq_true h) (Nat.le_of_not_lt (of_decide_eq_false h'))

theorem exists_loop_of_ofLoop {id : RequestId} (h : id.ofLoop = true) : ∃ number, id = .loop number := by
  cases id with
  | asked number => cases h
  | loop number => exact ⟨number, rfl⟩

/-- A request of the refresh loop that is in flight is the last one that the loop has launched. -/
def LoneRefresh (s : State) : Prop :=
  ∀ r ∈ s.inFlight, ∀ n, r.id = .loop n → s.given (.loop (n + 1)) = false

theorem LoneRefresh.concat (h : s.LoneRefresh) {r : Request} (hr : r.id.ofLoop = false)
    (hflight : s'.inFlight = s.inFlight ++ [r]) (hloop : s'.loop = s.loop) : s'.LoneRefresh := by
  rw [LoneRefresh, hflight]
  refine forall_mem_concat (fun r' hr' n hid => ?_) fun n hid => ?_
  · rw [given, hloop]
    exact h r' hr' n hid
  · rw [hid] at hr
    cases hr

/-- The loop waits until its request has ended, so the new request is the only one. -/
theorem LoneRefresh.fire {l : RefreshLoop} (idle : s.loopIdle = true) : (s.fire l).LoneRefresh := by
  refine forall_mem_concat (fun r hr n hid => ?_) fun n hid => ?_
  · have hnot := List.all_eq_true.1 idle r hr
    rw [hid] at hnot
    cases hnot
  · cases hid
    exact decide_eq_false (Nat.lt_irrefl _)

theorem LoneRefresh.effect (h : s.LoneRefresh) (he : Effect s s') : s'.LoneRefresh := by
  cases he with
  | quiet base span loopBase unread => exact h
  | fetch icao unknown => exact h.concat rfl rfl rfl
  | update => exact h.concat rfl rfl rfl
  | fire l hl due idle => exact .fire idle
  | finish r hr reply => exact fun r' hr' => h r' (mem_inFlightWithout.1 hr').1
  | redirect r hr location first =>
    exact forall_mem_concat (fun r' hr' => h r' (mem_inFlightWithout.1 hr').1) (h r hr)
  | replace airports => exact h.concat rfl rfl rfl

theorem Visited.loneRefresh (h : Visited s) : s.LoneRefresh :=
  h.induct (fun _ _ _ _ => nofun) fun _ _ hs he => hs.effect he

/-! ## Older requests -/

/-- Two requests for the reference time were launched one after the other in one generation: the older one before the
state and the newer one behind it. The newer one ends with a move, its answer counts, and the older one is still in
flight after some more moves. -/
structure Overtaken (s : State) (ms : List Move) (m : Move) (ms' : List Move) (older newer : Request) : Prop where
  launched : s.given older.id = true
  later : s.given newer.id = false
  purpose : older.purpose = .referenceTime
  generation : older.generation = newer.generation
  answered : ∃ reply moment, (s.moves ms).ending? m = some (newer, reply) ∧
    (s.moves ms).momentOf? newer reply = some moment
  waiting : older ∈ (s.moves (ms ++ m :: ms')).inFlight

namespace Overtaken
variable {ms' : List Move} {older newer : Request}

theorem not_ofLoop (h : s.Overtaken ms m ms' older newer) (visited : Visited s) :
    ¬(older.id.ofLoop = true ∧ newer.id.ofLoop = true) := by
  rintro ⟨holder, hnewer⟩
  obtain ⟨reply, -, hends, -⟩ := h.answered
  have hgiven : (s.moves (ms ++ m :: ms')).given newer.id = true := by
    rw [moves_append]
    exact given_moves _ ((visited.moves ms).numbered.given (move_of_ending? hends).1)
  obtain ⟨first, hid⟩ := exists_loop_of_ofLoop holder
  obtain ⟨second, hid'⟩ := exists_loop_of_ofLoop hnewer
  -- The newer number is behind the older one, and has been given while the older one is the last of the loop.
  have hlone := (visited.moves _).loneRefresh older h.waiting first hid
  have hlater := h.later
  have hlaunched := h.launched
  rw [hid'] at hgiven hlater
  rw [hid] at hlaunched
  have hle : second < first + 1 := lt_of_given_of_not_given hgiven hlone
  have hlt : first < second := lt_of_given_of_not_given hlaunched hlater
  omega

/-- The older request is of the present generation unless this began after the newer one was answered. -/
theorem generation_eq_iff (h : s.Overtaken ms m ms' older newer) :
    older.generation = (s.moves (ms ++ m :: ms')).generation ↔ ∀ n ∈ ms', ¬n.Renews := by
  obtain ⟨reply, moment, hends, hmoment⟩ := h.answered
  have hcounts : newer.generation = (s.moves ms).generation := (Option.ite_none_right_eq_some.1 hmoment).1.2
  have hmove : ((s.moves ms).move m).generation = (s.moves ms).generation := by
    rw [(move_of_ending? hends).2]
    rfl
  rw [moves_append, moves_cons, ← generation_moves_eq_iff, hmove, h.generation, hcounts, eq_comm]

theorem now_move (h : s.Overtaken ms m ms' older newer) {m' : Move} {reply : Reply}
    (ends : (s.moves (ms ++ m :: ms')).ending? m' = some (older, reply)) :
    ((s.moves (ms ++ m :: ms')).move m').now =
      if ∀ n ∈ ms', ¬n.Renews then (momentIn? reply).getD (s.moves (ms ++ m :: ms')).now
      else (s.moves (ms ++ m :: ms')).now := by
  rw [State.now_move, arrival?, ends, Option.bind_some]
  simp only [momentOf?, h.purpose, true_and, h.generation_eq_iff]
  split <;> rfl

end Overtaken

/-- The reference time is the last moment to arrive: the one in the last version record that ended a request for it of
the generation at that time. So when the newer of two such requests in one generation has been answered and the older
one ends, the reference time is set to the moment in the reply to the older one, if this is a version record and no
generation has begun in between, and is kept otherwise. Two requests of the refresh loop are never in this position. -/
theorem last_arrival_counts (h : Visited s) :
    (∀ ms, (s.moves ms).now = (s.arrivals ms).getLast?.getD s.now) ∧
      ∀ ms m ms' older newer, s.Overtaken ms m ms' older newer →
        (∀ m' reply, (s.moves (ms ++ m :: ms')).ending? m' = some (older, reply) →
          ((s.moves (ms ++ m :: ms')).move m').now =
            if ∀ n ∈ ms', ¬n.Renews then (momentIn? reply).getD (s.moves (ms ++ m :: ms')).now
            else (s.moves (ms ++ m :: ms')).now) ∧
          ¬(older.id.ofLoop = true ∧ newer.id.ofLoop = true) :=
  ⟨now_moves s, fun _ _ _ _ _ ho => ⟨fun _ _ ends => ho.now_move ends, ho.not_ofLoop h⟩⟩

/-! ## A moment that returns -/

/-- A source whose refresh loop has launched a request. -/
def refreshing : State :=
  (opening .up "http://h/" 20000 1000).moves [.event .update, .event (.pass 1000), .fire]

/-- A version record of Wednesday. -/
def wednesdayAt (time : String) : Reply :=
  .document ("\x7b\"time\":\"" ++ time ++ "\",\"day\":3\x7d")

/-- The request of the loop, after a redirection. -/
def slowRefresh : Request :=
  ⟨.loop 0, .referenceTime, 0, 1000, "http://h/version", some "http://h/slow", true⟩

/-- A request that is asked for after it. -/
def quickRefresh : Request :=
  ⟨.asked 2, .referenceTime, 0, 1000, "http://h/version", some "http://h/version", false⟩

theorem overtaken_refreshing :
    refreshing.Overtaken [.event (.lookup "EGLL"), .event .update] (.event (.answer (.asked 2) (wednesdayAt "1200")))
      [.event (.answer (.loop 0) (.redirect "http://h/slow")), .event (.pass 500)] slowRefresh quickRefresh where
  launched := by decide +kernel
  later := by decide +kernel
  purpose := rfl
  generation := rfl
  answered := ⟨wednesdayAt "1200", ⟨some 3, some ⟨12, 0⟩⟩, by decide +kernel, by decide +kernel⟩
  waiting := by decide +kernel

/-- The answer to the older request counts although it comes last. -/
theorem arrivals_of_refreshing :
    Visited refreshing ∧ ∃ ms m ms', refreshing.Overtaken ms m ms' slowRefresh quickRefresh ∧
      (refreshing.moves (ms ++ m :: ms')).now = ⟨some 3, some ⟨12, 0⟩⟩ ∧
      ((refreshing.moves (ms ++ m :: ms')).move (.event (.answer (.loop 0) (wednesdayAt "1100")))).now =
        ⟨some 3, some ⟨11, 0⟩⟩ ∧
      slowRefresh.id.ofLoop = true ∧ quickRefresh.id.ofLoop = false := by
  have hvisited : Visited refreshing := (Visited.opening .up "http://h/" 20000 1000).moves _
  obtain ⟨hlast, hovertaken⟩ := last_arrival_counts hvisited
  obtain ⟨hset, -⟩ := hovertaken _ _ _ _ _ overtaken_refreshing
  refine ⟨hvisited, _, _, _, overtaken_refreshing, ?_, ?_, rfl, rfl⟩
  · rw [hlast]
    decide +kernel
  · rw [hset (.event (.answer (.loop 0) (wednesdayAt "1100"))) (wednesdayAt "1100") (by decide +kernel)]
    decide +kernel

/-- The older request of two can set the reference time back to an older moment. -/
theorem older_moment_returns :
    ¬∀ s, Visited s → ∀ ms m ms' older newer, s.Overtaken ms m ms' older newer → ∀ m' reply,
      (s.moves (ms ++ m :: ms')).ending? m' = some (older, reply) →
        ((s.moves (ms ++ m :: ms')).move m').now = (s.moves (ms ++ m :: ms')).now := by
  intro hkept
  have hvisited : Visited refreshing := (Visited.opening .up "http://h/" 20000 1000).moves _
  have hsame := hkept refreshing hvisited _ _ _ _ _ overtaken_refreshing
    (.event (.answer (.loop 0) (wednesdayAt "1100"))) (wednesdayAt "1100") (by decide +kernel)
  exact absurd hsame (by decide +kernel)

end State
end DepartureRules.Live
