import Mathlib.Data.List.Perm.Subperm
import DepartureRules.Proofs.Live.Refreshes
import DepartureRules.Proofs.Live.Resting

/-!
# The requests of the refresh loop

The refresh loop has one request in flight at most, and it launches its requests a period apart, less the lateness that
it admits. However long a request is held and however far the clock jumps, it does not make up for what it has missed.

* `RefreshLoop.Admits`: the loop can launch requests at these times, one after the other. What a schedule says of its
  launches is proved here, on lists of times: `Admits.apart`, `Admits.apart_of_late`;
* `State.refreshTimes` are the times at which the loop launches requests along a row of moves, and
  `follows_schedule` says that its schedule admits them;
* `Visited.loop_length_le_one`: no two requests of the loop are in flight;
* `loop_settled_of_late`: a loop that is late launches one request as soon as the last one has ended;
* `refreshes_spaced` puts this together.
-/

namespace DepartureRules.Live
set_option autoImplicit false

/-! ## Times of launches -/

namespace RefreshLoop
variable {l : RefreshLoop} {now i k a b : Nat} {times : List Nat}

@[simp] theorem period_fired (l : RefreshLoop) (now : Nat) : (l.fired now).period = l.period := rfl

/-- The next refresh is due a period after this one if this one is late. -/
theorem due_fired_of_late (late : l.due + lateness < now) : (l.fired now).due = now + l.period := by
  rw [fired, if_pos late]

theorem due_add_period_le_due_fired (l : RefreshLoop) (now : Nat) : l.due + l.period ≤ (l.fired now).due := by
  simp only [fired]
  split <;> omega

/-- The loop can launch requests at these times, one after the other. -/
def Admits (l : RefreshLoop) : List Nat → Prop
  | [] => True
  | now :: times => l.due ≤ now ∧ (l.fired now).Admits times

/-- The schedule after launches at these times. -/
def after (l : RefreshLoop) (times : List Nat) : RefreshLoop :=
  times.foldl fired l

theorem period_after (l : RefreshLoop) (times : List Nat) : (l.after times).period = l.period := by
  induction times generalizing l with
  | nil => rfl
  | cons now times ih => exact ih (l.fired now)

namespace Admits

/-- Each launch puts the next one off by a period at least. -/
theorem due_le (h : l.Admits times) (hb : times[i]? = some b) : l.due + i * l.period ≤ b := by
  induction times generalizing l i with
  | nil => cases hb
  | cons now times ih =>
    obtain ⟨hdue, hrest⟩ := h
    cases i with
    | zero =>
      cases hb
      rw [Nat.zero_mul]
      exact hdue
    | succ i =>
      have hlater := ih hrest hb
      have hnext := l.due_add_period_le_due_fired now
      rw [period_fired] at hlater
      rw [Nat.succ_mul]
      omega

/-- From one launch to another there is a period for each that comes behind the first, less the lateness once. -/
theorem apart (h : l.Admits times) (ha : times[i]? = some a) (hb : times[i + k]? = some b) :
    a + k * l.period ≤ b + lateness := by
  induction times generalizing l i with
  | nil => cases ha
  | cons now times ih =>
    obtain ⟨-, hrest⟩ := h
    cases i with
    | succ i =>
      rw [Nat.succ_add] at hb
      have hlater := ih hrest ha hb
      rwa [period_fired] at hlater
    | zero =>
      obtain rfl : now = a := Option.some.inj ha
      rw [Nat.zero_add] at hb
      cases k with
      | zero =>
        cases hb
        omega
      | succ k =>
        have hlater := hrest.due_le hb
        have hnext := l.launch_le_due_fired now
        rw [period_fired] at hlater
        rw [Nat.succ_mul]
        omega

/-- After a late launch none comes before its time. -/
theorem apart_of_late (h : l.Admits times) (late : ∀ t ∈ times, l.due + lateness < t) (ha : times[0]? = some a)
    (hb : times[k]? = some b) : a + k * l.period ≤ b := by
  cases times with
  | nil => cases ha
  | cons now times =>
    obtain rfl : now = a := Option.some.inj ha
    cases k with
    | zero =>
      cases hb
      omega
    | succ k =>
      have hlater := h.2.due_le hb
      rw [due_fired_of_late (late now List.mem_cons_self), period_fired] at hlater
      rw [Nat.succ_mul]
      omega

end Admits

/-- Launches between two moments, each of them a period after the first for each one in between, less a slack. -/
theorem length_le_of_apart {low high period slack : Nat} (positive : 0 < period) (hlow : ∀ t ∈ times, low ≤ t)
    (hhigh : ∀ t ∈ times, t ≤ high)
    (hapart : ∀ k a b, times[0]? = some a → times[k]? = some b → a + k * period ≤ b + slack) :
    times.length ≤ 1 + (high - low + slack) / period := by
  cases times with
  | nil => exact Nat.zero_le _
  | cons now times =>
    obtain ⟨last, hlast⟩ : ∃ last, (now :: times)[times.length]? = some last :=
      ⟨_, List.getElem?_eq_getElem (Nat.lt_succ_self times.length)⟩
    have hspan := hapart times.length now last rfl hlast
    have hfirst := hlow now List.mem_cons_self
    have hend := hhigh last (List.mem_of_getElem? hlast)
    have hcount : times.length ≤ (high - low + slack) / period := by
      rw [Nat.le_div_iff_mul_le positive]
      omega
    rw [List.length_cons]
    omega

end RefreshLoop

namespace State
variable {s t : State} {ms : List Move}

/-! ## Launches along a row of moves -/

/-- The requests of the refresh loop that are in flight in the second state and had not been launched in the first. -/
def refreshed (s t : State) : List Request :=
  t.inFlight.filter fun r => !s.given r.id && r.id.ofLoop

/-- The times at which the refresh loop launches requests along a row of moves. -/
def refreshTimes (s : State) : List Move → List Nat
  | [] => []
  | m :: ms => (s.refreshed (s.move m)).map Request.began ++ (s.move m).refreshTimes ms

theorem refreshed_eq_nil (h : s.Numbered)
    (hold : ∀ r ∈ t.inFlight, (∃ r' ∈ s.inFlight, r.id = r'.id) ∨ r.id.ofLoop = false) : s.refreshed t = [] :=
  filter_launched_eq_nil h hold

theorem refreshed_fire (h : s.Numbered) {l : RefreshLoop} (hl : s.loop = some l) :
    s.refreshed (s.fire l) = [s.loopRequest l] := by
  have hnew : s.given (.loop l.launches.length) = false := by
    rw [given, hl]
    exact decide_eq_false (Nat.lt_irrefl _)
  have hlaunched : s.refreshed (s.fire l) = _ := filter_launched_concat h rfl _
  rw [hlaunched, if_pos ⟨hnew, rfl⟩]

/-- A move leaves the refresh loop as it is, or is a launch that is due. -/
theorem refreshed_move (h : s.Numbered) (m : Move) :
    (s.refreshed (s.move m)).map Request.began = [] ∧ (s.move m).loop = s.loop ∨
      (s.refreshed (s.move m)).map Request.began = [s.clock] ∧
        ∃ l, s.loop = some l ∧ l.due ≤ s.clock ∧ (s.move m).loop = some (l.fired s.clock) := by
  have heffect := effect_move s m
  have hkeeps : ∀ r ∈ s.inFlight, (∃ r' ∈ s.inFlight, r.id = r'.id) ∨ r.id.ofLoop = false :=
    fun r hr => .inl ⟨r, hr, rfl⟩
  have hnone {t : State} (hold : ∀ r ∈ t.inFlight, (∃ r' ∈ s.inFlight, r.id = r'.id) ∨ r.id.ofLoop = false) :
      (s.refreshed t).map Request.began = [] := by
    rw [refreshed_eq_nil h hold, List.map_nil]
  generalize s.move m = s' at heffect ⊢
  cases heffect with
  | quiet base span loopBase unread => exact .inl ⟨hnone hkeeps, rfl⟩
  | fetch icao unknown => exact .inl ⟨hnone (forall_mem_concat hkeeps (.inr rfl)), rfl⟩
  | update => exact .inl ⟨hnone (forall_mem_concat hkeeps (.inr rfl)), rfl⟩
  | replace airports => exact .inl ⟨hnone (forall_mem_concat hkeeps (.inr rfl)), rfl⟩
  | finish r hr reply => exact .inl ⟨hnone fun r' hr' => hkeeps r' (mem_inFlightWithout.1 hr').1, rfl⟩
  | redirect r hr location first =>
    have hothers := fun r' (hr' : r' ∈ s.inFlightWithout r.id) => hkeeps r' (mem_inFlightWithout.1 hr').1
    exact .inl ⟨hnone (forall_mem_concat hothers (.inl ⟨r, hr, rfl⟩)), rfl⟩
  | fire l hl due idle =>
    refine .inr ⟨?_, l, hl, due, rfl⟩
    rw [refreshed_fire h hl]
    rfl

/-- The loop launches its requests when its schedule admits it, and keeps to the schedule after them. -/
theorem follows_schedule (h : Visited s) {l : RefreshLoop} (hl : s.loop = some l) (ms : List Move) :
    l.Admits (s.refreshTimes ms) ∧ (s.moves ms).loop = some (l.after (s.refreshTimes ms)) := by
  induction ms generalizing s l with
  | nil => exact ⟨trivial, hl⟩
  | cons m ms ih =>
    rcases refreshed_move h.numbered m with ⟨hnone, hloop⟩ | ⟨hone, l', hl', due, hloop⟩
    · rw [refreshTimes, hnone]
      exact ih (h.move m) (hloop.trans hl)
    · obtain rfl : l = l' := Option.some.inj (hl.symm.trans hl')
      obtain ⟨hadmits, hafter⟩ := ih (h.move m) hloop
      rw [refreshTimes, hone]
      exact ⟨⟨due, hadmits⟩, hafter⟩

/-- A request is launched at the time that the clock shows then. -/
theorem refreshTimes_bounds (h : Visited s) {time : Nat} (htime : time ∈ s.refreshTimes ms) :
    s.clock ≤ time ∧ time ≤ (s.moves ms).clock := by
  induction ms generalizing s with
  | nil => cases htime
  | cons m ms ih =>
    have hmove := clock_le_clock_move s m
    have hmoves := clock_le_clock_moves (s.move m) ms
    rw [refreshTimes, List.mem_append] at htime
    rcases htime with hnow | hlater
    · rcases refreshed_move h.numbered m with ⟨hnone, -⟩ | ⟨hone, -⟩
      · rw [hnone] at hnow
        cases hnow
      · rw [hone, List.mem_singleton] at hnow
        exact ⟨hnow.ge, hnow.le.trans (hmove.trans hmoves)⟩
    · obtain ⟨hfrom, hupto⟩ := ih (h.move m) hlater
      exact ⟨hmove.trans hfrom, hupto⟩

/-! ## One request at a time -/

theorem Visited.eq_of_ofLoop (h : Visited s) {r r' : Request} (hr : r ∈ s.inFlight) (hr' : r' ∈ s.inFlight)
    (hloop : r.id.ofLoop = true) (hloop' : r'.id.ofLoop = true) : r = r' := by
  obtain ⟨number, hid⟩ := exists_loop_of_ofLoop hloop
  obtain ⟨number', hid'⟩ := exists_loop_of_ofLoop hloop'
  -- Both have the last number of the loop.
  have hle : number < number' + 1 :=
    lt_of_given_of_not_given (hid ▸ h.numbered.given hr) (h.loneRefresh r' hr' number' hid')
  have hge : number' < number + 1 :=
    lt_of_given_of_not_given (hid' ▸ h.numbered.given hr') (h.loneRefresh r hr number hid)
  refine h.numbered.eq_of_id_eq hr hr' ?_
  rw [hid, hid', show number = number' by omega]

/-- The requests in flight are different, so there is at most one of the refresh loop. -/
theorem Visited.loop_length_le_one (h : Visited s) : (s.inFlight.filter fun r => r.id.ofLoop).length ≤ 1 := by
  have hnodup : (s.inFlight.filter fun r => r.id.ofLoop).Nodup := h.numbered.nodup.of_map.filter _
  cases hloop : s.inFlight.filter fun r => r.id.ofLoop with
  | nil => exact Nat.zero_le _
  | cons r requests =>
    have hmem {r' : Request} (hr' : r' ∈ r :: requests) : r' ∈ s.inFlight ∧ r'.id.ofLoop = true :=
      List.mem_filter.1 (hloop ▸ hr')
    obtain ⟨hr, hr_loop⟩ := hmem List.mem_cons_self
    have hsub : r :: requests ⊆ [r] := fun r' hr' => by
      obtain ⟨hr', hr'_loop⟩ := hmem hr'
      exact List.mem_singleton.2 (h.eq_of_ofLoop hr' hr hr'_loop hr_loop)
    exact (List.subperm_of_subset (hloop ▸ hnodup) hsub).length_le

/-! ## At rest -/

/-- A loop that is late launches one request, as soon as the last one has ended. -/
theorem loop_settled_of_late {l : RefreshLoop} (hl : s.loop = some l) (late : l.due + lateness < s.clock) :
    s.settled.loop = some (if s.dropDead.loopIdle then l.fired s.clock else l) := by
  rw [settled_of_loop hl]
  by_cases idle : s.dropDead.loopIdle = true
  · have hfired : (s.dropDead.fire l).loop = some (l.fired s.clock) := by rw [loop_fire, clock_dropDead]
    -- The next refresh is a whole period away, so no second one follows.
    have hnext : ¬(l.fired s.clock).due ≤ (s.dropDead.fire l).clock := by
      have hperiod := l.period_pos
      rw [RefreshLoop.due_fired_of_late late, clock_fire, clock_dropDead]
      omega
    rw [if_pos ⟨by omega, idle⟩, if_pos idle, settled_of_loop hfired, if_neg fun h => hnext h.1]
    exact (loop_dropDead _).trans hfired
  · rw [if_neg fun h => idle h.2, if_neg idle]
    exact (loop_dropDead s).trans hl

/-! ## Whole runs -/

/-- The refresh loop never has two requests in flight, and two launches in a row are a period apart, less the admitted
lateness. More generally a launch and the one that is number `k` after it are `k` periods apart, less the lateness once,
so there is one launch for each period in a span of time, and one more. A loop that is late, because a request was held
or because the clock has jumped, launches one request as soon as the last one has ended, and none of those that it has
missed: from then on there is at most one launch for each period that passes. -/
theorem refreshes_spaced (network : Network) (server : String) (timeout : Nat) {period : Nat} (positive : 0 < period)
    (before : List Move) (hs : s = (opening network server timeout period).moves before) :
    (s.inFlight.filter fun r => r.id.ofLoop).length ≤ 1 ∧
      ∃ l, s.loop = some l ∧ l.period = period ∧
        (∀ ms,
          (∀ i k a b, (s.refreshTimes ms)[i]? = some a → (s.refreshTimes ms)[i + k]? = some b →
            a + k * period ≤ b + lateness) ∧
          (s.refreshTimes ms).length ≤ 1 + ((s.moves ms).clock - s.clock + lateness) / period ∧
          (l.due + lateness < s.clock →
            (s.refreshTimes ms).length ≤ 1 + ((s.moves ms).clock - s.clock) / period)) ∧
        (l.due + lateness < s.clock →
          s.settled.loop = some (if s.dropDead.loopIdle then l.fired s.clock else l)) := by
  have hvisited : Visited s := hs ▸ (Visited.opening network server timeout period).moves before
  obtain ⟨l, hl, hperiod⟩ : ∃ l, s.loop = some l ∧ l.period = period := by
    have hopening : (opening network server timeout period).loop = some ⟨period, positive, period, []⟩ :=
      dif_pos positive
    have hloop := (follows_schedule (.opening network server timeout period) hopening before).2
    exact ⟨_, hs ▸ hloop, RefreshLoop.period_after _ _⟩
  refine ⟨hvisited.loop_length_le_one, l, hl, hperiod, fun ms => ?_, loop_settled_of_late hl⟩
  obtain ⟨hadmits, -⟩ := follows_schedule hvisited hl ms
  have hfrom : ∀ t ∈ s.refreshTimes ms, s.clock ≤ t := fun t ht => (refreshTimes_bounds hvisited ht).1
  have hupto : ∀ t ∈ s.refreshTimes ms, t ≤ (s.moves ms).clock := fun t ht => (refreshTimes_bounds hvisited ht).2
  subst hperiod
  refine ⟨fun i k a b => hadmits.apart, ?_, fun late => ?_⟩
  · refine RefreshLoop.length_le_of_apart positive hfrom hupto fun k a b ha hb => hadmits.apart ha ?_
    rwa [Nat.zero_add]
  · have hcount : (s.refreshTimes ms).length ≤ 1 + ((s.moves ms).clock - s.clock + 0) / l.period :=
      RefreshLoop.length_le_of_apart positive hfrom hupto fun k a b ha hb =>
        hadmits.apart_of_late (fun t ht => late.trans_le (hfrom t ht)) ha hb
    rwa [Nat.add_zero] at hcount

/-- A source with a refresh loop of a second. -/
def ticking : State :=
  opening .up "http://h/" (Duration.ofMillis 2000) (Duration.ofMillis 1000)

/-- The first request of the loop is launched three milliseconds late. The second one is held until it has run out of
time. -/
def held : List Move := [
  .event .update,
  .event (.pass (Duration.ofMillis 1003)),
  .fire,
  .event (.answer (.loop 0) .failed),
  .event (.pass (Duration.ofMillis 997)),
  .fire,
  .event (.pass (Duration.ofMillis 2500))]

/-- The held request is dropped, and its successors are answered at once. -/
def released : List Move := [
  .expire (.loop 1),
  .fire,
  .event (.answer (.loop 2) .notFound),
  .fire,
  .event (.pass (Duration.ofMillis 999)),
  .fire,
  .event (.pass (Duration.ofMillis 1)),
  .fire]

/-- A late launch with the schedule kept, and a long one without. The bounds are reached: the second launch comes three
milliseconds early, and the last one comes a period after the late one. -/
theorem spaced_released :
    0 < Duration.ofMillis 1000 ∧
      ticking.refreshTimes (held ++ released) = [1003, 2000, 4500, 5500].map Duration.ofMillis ∧
      Duration.ofMillis 1003 + 1 * Duration.ofMillis 1000 ≤ Duration.ofMillis 2000 + lateness ∧
      ((ticking.moves held).refreshTimes released).length = 2 ∧
      ((ticking.moves held).refreshTimes released).length ≤ 1 +
        (((ticking.moves held).moves released).clock - (ticking.moves held).clock) / Duration.ofMillis 1000 ∧
      (ticking.moves held).settled.loop.map RefreshLoop.due = some (Duration.ofMillis 5500) := by
  have positive : 0 < Duration.ofMillis 1000 := by decide
  obtain ⟨-, _, -, -, hwhole, -⟩ :=
    refreshes_spaced .up "http://h/" (Duration.ofMillis 2000) positive [] (s := ticking) rfl
  obtain ⟨-, l, hl, hperiod, hruns, hrest⟩ :=
    refreshes_spaced .up "http://h/" (Duration.ofMillis 2000) positive held (s := ticking.moves held) rfl
  have htimes : ticking.refreshTimes (held ++ released) = [1003, 2000, 4500, 5500].map Duration.ofMillis := by
    decide +kernel
  have hclock : (ticking.moves held).clock = Duration.ofMillis 4500 := by decide +kernel
  have hidle : (ticking.moves held).dropDead.loopIdle = true := by decide +kernel
  have hdue : (ticking.moves held).loop.map RefreshLoop.due = some (Duration.ofMillis 3000) := by decide +kernel
  have hlate : l.due + lateness < (ticking.moves held).clock := by
    rw [hl] at hdue
    rw [hclock, Option.some.inj hdue]
    decide
  refine ⟨positive, htimes, ?_, by decide +kernel, (hruns released).2.2 hlate, ?_⟩
  · exact (hwhole (held ++ released)).1 0 1 _ _ (htimes ▸ rfl) (htimes ▸ rfl)
  · rw [hrest hlate, if_pos hidle, Option.map_some, RefreshLoop.due_fired_of_late hlate, hclock, hperiod]
    decide

end State

end DepartureRules.Live
