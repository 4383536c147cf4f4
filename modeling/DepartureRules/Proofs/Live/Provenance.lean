import Mathlib.Data.List.Induction
import DepartureRules.Proofs.Live.Isolation
import DepartureRules.Proofs.Live.Routing

/-!
# Where answers come from

A source that was given a server and then made to forget what it knows has all that it says afterwards from that
server, until it is given another one or a file.

* `State.ended` are the replies that requests end with, and `State.Told` the answers among them that came from the
  server since the invalidation;
* `Known` is the invariant: everything in the cache was in such an answer;
* `Sourced` is what follows for every question and for the reference time, `TimedBy` says which requests bring the time;
* `invalidation_isolates`: older requests have no part in the answers, and newer ones go to the server that was set.
-/

namespace DepartureRules.Live
set_option autoImplicit false

namespace State
variable {s t t' : State} {base : String} {ms : List Move} {m : Move}

/-! ## Replies to new requests -/

/-- The requests that end in a row of moves, each with the reply that it ends with. -/
def ended (s : State) : List Move → List (Request × Reply)
  | [] => []
  | m :: ms => (s.ending? m).toList ++ (s.move m).ended ms

theorem ended_append (s : State) (ms ms' : List Move) : s.ended (ms ++ ms') = s.ended ms ++ (s.moves ms).ended ms' := by
  induction ms generalizing s with
  | nil => rfl
  | cons m ms ih =>
    rw [List.cons_append, ended, ended, ih, List.append_assoc]
    rfl

/-- After an invalidation the reply has ended a request that was launched since then and went to a server. -/
structure Heard (s : State) (base : String) (ms : List Move) (r : Request) (reply : Reply) : Prop where
  ended : (r, reply) ∈ s.invalidate.ended ms
  sent : s.Sent base ms r

theorem Heard.concat {r : Request} {reply : Reply} (h : s.Heard base ms r reply) (m : Move) :
    s.Heard base (ms ++ [m]) r reply := by
  refine ⟨?_, h.sent.concat m⟩
  rw [ended_append]
  exact List.mem_append_left _ h.ended

/-- The answer came to a request for an airport that was launched since the invalidation and went to a server. -/
def Told (s : State) (base : String) (ms : List Move) (icao : String) (answer : Answer (List AirportRecord)) : Prop :=
  ∃ r reply, s.Heard base ms r reply ∧ r.purpose = .airport icao ∧ airportAnswer reply = answer

theorem Told.concat {icao : String} {answer : Answer (List AirportRecord)} (h : s.Told base ms icao answer)
    (m : Move) : s.Told base (ms ++ [m]) icao answer := by
  obtain ⟨r, reply, hheard, htold⟩ := h
  exact ⟨r, reply, hheard.concat m, htold⟩

/-- Everything in the cache was in an answer of the server. -/
structure Known (s : State) (base : String) (ms : List Move) (c : Cache) : Prop where
  resolved : ∀ icao, c.index.contains icao = true →
    ∃ asked answer, s.Told base ms asked answer ∧ icao ∈ RuleIndex.listed answer.airports
  rules : ∀ icao point rules, c.index.rules? icao point = some rules →
    ∃ asked answer, s.Told base ms asked answer ∧
      (RuleIndex.ofAirports answer.airports).rules? icao point = some rules
  missing : ∀ icao ∈ c.missing,
    ∃ answer, s.Told base ms icao answer ∧ answer ≠ .failed ∧ icao ∉ RuleIndex.listed answer.airports
  failed : ∀ icao ∈ c.failed, s.Told base ms icao .failed

namespace Known
variable {c : Cache}

theorem empty (s : State) (base : String) (ms : List Move) : s.Known base ms .empty :=
  ⟨nofun, nofun, nofun, nofun⟩

theorem concat (h : s.Known base ms c) (m : Move) : s.Known base (ms ++ [m]) c where
  resolved icao hindex := by
    obtain ⟨asked, answer, htold, hlisted⟩ := h.resolved icao hindex
    exact ⟨asked, answer, htold.concat m, hlisted⟩
  rules icao point rules hrules := by
    obtain ⟨asked, answer, htold, hfound⟩ := h.rules icao point rules hrules
    exact ⟨asked, answer, htold.concat m, hfound⟩
  missing icao hmissing := by
    obtain ⟨answer, htold, hanswer⟩ := h.missing icao hmissing
    exact ⟨answer, htold.concat m, hanswer⟩
  failed icao hfailed := (h.failed icao hfailed).concat m

theorem settle (h : s.Known base ms c) {asked : String} {answer : Answer (List AirportRecord)}
    (told : s.Told base ms asked answer) : s.Known base ms (c.settle asked answer) where
  resolved icao hindex := by
    rw [Cache.index_settle, RuleIndex.contains_load] at hindex
    rcases hindex with hlisted | hindex
    · exact ⟨asked, answer, told, hlisted⟩
    · exact h.resolved icao hindex
  rules icao point rules hrules := by
    rw [Cache.index_settle] at hrules
    by_cases hlisted : icao ∈ RuleIndex.listed answer.airports
    · rw [RuleIndex.rules?_load_of_listed hlisted] at hrules
      exact ⟨asked, answer, told, hrules⟩
    · rw [RuleIndex.rules?_load_of_not_listed hlisted] at hrules
      exact h.rules icao point rules hrules
  missing icao hmissing := by
    rw [Cache.mem_missing_settle] at hmissing
    rcases hmissing with ⟨hmissing, -⟩ | ⟨rfl, hanswer, hindex⟩
    · exact h.missing icao hmissing
    · exact ⟨answer, told, hanswer, ((RuleIndex.contains_load_eq_false_iff _ _ _).1 hindex).1⟩
  failed icao hfailed := by
    rw [Cache.mem_failed_settle] at hfailed
    rcases hfailed with ⟨hfailed, -⟩ | ⟨rfl, rfl, -⟩
    · exact h.failed icao hfailed
    · exact told

end Known

/-- After an invalidation and then moves, every change of the reference time comes with the answer to a request for it
that has a property. -/
def TimedBy (s : State) (ms : List Move) (P : Request → Prop) : Prop :=
  ∀ m, ((s.invalidate.moves ms).move m).now ≠ (s.invalidate.moves ms).now →
    ∃ r reply version, (s.invalidate.moves ms).ending? m = some (r, reply) ∧ r.purpose = .referenceTime ∧ P r ∧
      versionAnswer reply = .received version ∧ ((s.invalidate.moves ms).move m).now = version.moment

theorem TimedBy.imp {P Q : Request → Prop} (h : s.TimedBy ms P) (himp : ∀ r, P r → Q r) : s.TimedBy ms Q := by
  intro m hchange
  obtain ⟨r, reply, version, hends, hpurpose, hP, hversion, hnow⟩ := h m hchange
  exact ⟨r, reply, version, hends, hpurpose, himp r hP, hversion, hnow⟩

theorem mem_of_status? {c : Cache} {icao : String} {status : AirportStatus} (h : c.status? icao = some status) :
    (status = .failed → icao ∈ c.failed) ∧ (status = .missing → icao ∈ c.missing) ∧
      (status = .pending → icao ∈ c.pending) := by
  unfold Cache.status? at h
  split at h
  · rename_i hfailed
    cases h
    exact ⟨fun _ => List.contains_iff_mem.1 hfailed, nofun, nofun⟩
  split at h
  · rename_i hmissing
    cases h
    exact ⟨nofun, fun _ => List.contains_iff_mem.1 hmissing, nofun⟩
  split at h
  · rename_i hpending
    cases h
    exact ⟨nofun, nofun, fun _ => List.contains_iff_mem.1 hpending⟩
  split at h
  · cases h
    exact ⟨nofun, nofun, nofun⟩
  · cases h

/-- An airport that is reported as pending waits for a request to the server. -/
theorem Routed.pending (h : s.Routed base ms t) (htracked : t.Tracked) {icao : String}
    (hpending : (t.lookup icao).1 = .pending) :
    ∃ r ∈ (t.lookup icao).2.inFlight, r.purpose = .airport icao ∧ s.Sent base ms r := by
  unfold lookup at hpending ⊢
  split
  · rename_i status hstatus
    rw [hstatus] at hpending
    cases hpending
    have hone := ((htracked.tracks.pending_iff icao).1 ((mem_of_status? hstatus).2.2 rfl)).2
    obtain ⟨r, hr, hfetch⟩ := List.countP_pos_iff.1 (Nat.lt_of_lt_of_eq Nat.zero_lt_one hone.symm)
    obtain ⟨hpurpose, hgeneration⟩ := isFetch_iff.1 hfetch
    exact ⟨r, hr, hpurpose, (h.leaves r hr hgeneration).sent hpurpose⟩
  · refine ⟨_, List.mem_append_right _ List.mem_cons_self, rfl, ?_⟩
    rw [← h.base_eq]
    exact h.sent_newRequest (given_asked t) (.airport icao) t.base

theorem now_move_of_choosesSource (s : State) (hm : m.choosesSource = true) : (s.move m).now = s.now := by
  have hchange := change_move s m
  generalize s.move m = s' at hchange ⊢
  cases hchange with
  | idle => rfl
  | useServer server => rfl
  | load read => rfl
  | _ => cases hm

/-- The moment in a reply, if it is a version record. -/
def momentIn? (reply : Reply) : Option Moment :=
  match versionAnswer reply with
  | .received version => some version.moment
  | _ => none

theorem momentIn?_eq_some_iff {reply : Reply} {moment : Moment} :
    momentIn? reply = some moment ↔ ∃ version, versionAnswer reply = .received version ∧ version.moment = moment := by
  unfold momentIn?
  cases versionAnswer reply <;> simp

/-- The moment that counts when a request ends: that of a request of the present generation for the reference time. -/
def momentOf? (s : State) (r : Request) (reply : Reply) : Option Moment :=
  if r.purpose = .referenceTime ∧ r.generation = s.generation then momentIn? reply else none

theorem nowAfter_eq (s : State) (r : Request) (reply : Reply) :
    s.nowAfter r reply = (s.momentOf? r reply).getD s.now := by
  unfold nowAfter momentOf? momentIn?
  cases r.purpose with
  | airport icao => rfl
  | referenceTime =>
    by_cases hgeneration : r.generation = s.generation
    · cases versionAnswer reply <;> simp [hgeneration]
    · cases versionAnswer reply <;> simp [hgeneration]

theorem exists_version_of_nowAfter {r : Request} {reply : Reply} (h : t.nowAfter r reply ≠ t.now) :
    r.purpose = .referenceTime ∧ r.generation = t.generation ∧
      ∃ version, versionAnswer reply = .received version ∧ t.nowAfter r reply = version.moment := by
  rw [nowAfter_eq] at h ⊢
  cases hmoment : t.momentOf? r reply with
  | none =>
    rw [hmoment] at h
    exact absurd rfl h
  | some moment =>
    obtain ⟨⟨hpurpose, hgeneration⟩, hin⟩ := Option.ite_none_right_eq_some.1 hmoment
    obtain ⟨version, hversion, rfl⟩ := momentIn?_eq_some_iff.1 hin
    exact ⟨hpurpose, hgeneration, version, hversion, rfl⟩

/-- The reference time changes with the answer to a request for it. -/
theorem Routed.now (h : s.Routed base ms t) (hchange : (t.move m).now ≠ t.now) :
    ∃ r reply version, t.ending? m = some (r, reply) ∧ r.purpose = .referenceTime ∧ s.Leaves base ms r ∧
      versionAnswer reply = .received version ∧ (t.move m).now = version.moment := by
  cases hm : m.choosesSource with
  | true => exact absurd (now_move_of_choosesSource t hm) hchange
  | false =>
    have hturn := turn_move t hm
    generalize t.move m = t' at hturn hchange ⊢
    cases hturn with
    | finish r hr reply ends =>
      obtain ⟨hpurpose, hgeneration, version, hversion, hnow⟩ := exists_version_of_nowAfter hchange
      exact ⟨r, reply, version, ends, hpurpose, h.leaves r hr hgeneration, hversion, hnow⟩
    | _ => exact absurd rfl hchange

-- The loop has read the old address, the source is given a new server, and the request of the loop brings the time.
example :
    let later := (opening .up "http://old/" 20000 1000).moves [.event .update, .event (.pass 1000), .readBase,
      .event (.useServer (some "http://new/")), .event .invalidate, .fire]
    (later.request? (.loop 0)).map Request.address = some "http://old/version" ∧
      (later.move (.event (.answer (.loop 0) (.document "\x7b\"time\":\"1200\",\"day\":3\x7d")))).now =
        ⟨some 3, some ⟨12, 0⟩⟩ := by
  decide +kernel

/-- A source that has asked for the reference time and for two airports. -/
def waiting : State :=
  (opening .up "http://old/" 20000 0).moves [
    .event .update,
    .event (.lookup "EGLL"),
    .event (.lookup "EGKK")]

/-- The same without the late answers. -/
def answered : List Event := [
  .lookup "EGLL",
  .answer (.asked 3) (.document "\x7b\"time\":\"1200\",\"day\":3\x7d"),
  .answer (.asked 4) (.redirect "http://other/egll"),
  .answer (.asked 4) .notFound]

end State

end DepartureRules.Live
