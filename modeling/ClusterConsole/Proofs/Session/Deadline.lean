import ClusterConsole.Proofs.Session.LastMessage
import ClusterConsole.Proofs.Session.Once
import ClusterConsole.Proofs.Session.Waiting
import ClusterConsole.Proofs.Settings.Change

/-!
# Deadlines that the clock does not reach

Final messages get a deadline, and computing it is all that can fail in a session.  So an event
breaks the console off exactly if it brings a final message, what is wrong with a submission or the
outcome of a reply, at an instant from which the clock does not reach the deadline
(`Tally.step_eq_error_iff`); and a run breaks off at the first such event.

The clock counts its seconds in 63 bits and the time in the settings has 64, so there are times for
which no instant is early enough.  They are stored and read like any other, and nothing is noticed
before the first final message comes.  `ClockBound` says what is safe:

* up to an instant, exactly the times for which the clock has room from this instant on;
* at all instants of the clock, only the time zero.

`clock_bound_of_settings` is the main result.
-/

set_option autoImplicit false

namespace ClusterConsole

/-! ## The clock -/

theorem Instant.after_eq_error_iff {now : Instant} {delay : Duration} {crash : Crash} :
    now.after delay = .error crash ↔ clockLimit ≤ Duration.seconds (now + delay) := by
  cases crash
  rw [after, ← Nat.not_lt]
  by_cases hroom : Duration.seconds (now + delay) < clockLimit
  · simp [hroom]
  · simp [hroom]

theorem Duration.seconds_add_ofSeconds (now : Instant) (n : Nat) :
    seconds (now + ofSeconds n) = seconds now + n := Nat.add_mul_div_right now n (by decide)

theorem Duration.seconds_ofSeconds (n : Nat) : seconds (ofSeconds n) = n :=
  Nat.mul_div_cancel n (by decide)

/-! ## Times in the settings -/

/-- For how many seconds a final message stays on the screen. -/
def Settings.hideSeconds (s : Settings) : Nat := (s.hideAfter.map UInt64.toNat).getD 5

theorem Settings.hideDelay_eq (s : Settings) : s.hideDelay = Duration.ofSeconds s.hideSeconds := by
  rw [hideDelay, hideSeconds]
  cases s.hideAfter <;> rfl

theorem Settings.hideSeconds_eq_zero_iff {s : Settings} :
    s.hideSeconds = 0 ↔ s.hideAfter = some 0 := by
  rw [hideSeconds]
  cases s.hideAfter with
  | none => exact iff_of_false (by decide) nofun
  | some n => simp [← UInt64.toNat_inj]

/-- Every time is stored when it is given. -/
theorem Program.stores_time (n : UInt64) (configurations : String) {w : World}
    (hsave : w.saveFault = none) :
    let r := (run none configurations ["config", "--status-timeout-secs=" ++ toString n]).result w
    r.code = 0 ∧ (w.after r).stored configurations =
      ⟨(w.stored configurations).apiUrl, some n⟩ := by
  have htail : (Command.config none (some n)).Tail ["--status-timeout-secs=" ++ toString n] :=
    .plain [(.storedTime, toString n)] (.refl _) rfl
  let a : Arguments := ⟨none, none, some (.config none (some n))⟩
  have hparse : Arguments.parse none ["config", "--status-timeout-secs=" ++ toString n] = .ok a :=
    (Arguments.Writes.before [] .omitted (.refl _) rfl htail).parse_eq
  have hchange : changeSettings (w.stored configurations) none (some n) =
      .ok ⟨(w.stored configurations).apiUrl, some n⟩ :=
    Settings.Replaces.kept.changeSettings_eq (some n)
  obtain ⟨hcode, hsaved⟩ := result_config_ok (a := a) rfl hchange hsave
  intro r
  have hr : r = (runLogged configurations a).result w :=
    congrArg (Run.result w) (run_of_parse hparse configurations)
  rw [hr]
  refine ⟨hcode, ?_⟩
  rw [World.stored, World.after, hsaved]
  exact congrArg Prod.fst (Settings.ofFile_text _ _)

/-! ## What can fail -/

theorem StatusArea.apply_eq_error_iff {a : StatusArea} {u : Update} {now : Instant}
    {crash : Crash} :
    a.apply u now = .error crash ↔ u.kind.isFinal = true ∧ now.after a.delay = .error crash := by
  rw [apply, Except.map_eq_error_iff, deadline]
  cases u.kind.isFinal with
  | true => simp [Except.map_eq_error_iff]
  | false => simp

namespace Session

variable {s : Session} {o : Operation} {now : Instant} {crash : Crash}

/-- Only the message of a rejection has a deadline. -/
theorem submit_eq_error_iff :
    s.submit o now = .error crash ↔
      (∃ r, (s.submission o).check = .error r) ∧
        now.after (s.pane o).status.delay = .error crash := by
  cases hcheck : (s.submission o).check with
  | error r =>
    rw [submit_eq_reject hcheck, Except.map_eq_error_iff, StatusArea.apply_eq_error_iff]
    exact and_congr_left' (iff_of_true rfl ⟨r, rfl⟩)
  | ok call =>
    rw [submit_eq_accept hcheck, Except.map_eq_error_iff, StatusArea.apply_eq_error_iff]
    exact and_congr_left' (iff_of_false Bool.false_ne_true (by simp))

theorem act_eq_error_iff {a : Action} :
    s.act a now = .error crash ↔ a = .submit ∧ s.submit s.active now = .error crash := by
  cases a with
  | submit => exact Except.map_eq_error_iff.trans (and_iff_right rfl).symm
  | _ => exact iff_of_false nofun nofun

/-- Outcomes have deadlines at the same instant, so if any of them fails, then the first does. -/
theorem applyAll_eq_error_iff {delay : Duration} {cs : List Completion}
    (hdelay : ∀ k, (s.pane k).status.delay = delay)
    (hfinal : ∀ c ∈ cs, c.outcome.update.kind.isFinal = true) :
    applyAll s now cs = .error crash ↔ cs ≠ [] ∧ now.after delay = .error crash := by
  cases hafter : now.after delay with
  | ok t =>
    obtain ⟨d, hd⟩ := exists_applyAll_eq_ok hafter cs hdelay
    rw [hd]
    exact iff_of_false nofun nofun
  | error fault =>
    cases cs with
    | nil => exact iff_of_false nofun fun h ↦ h.1 rfl
    | cons c rest =>
      have hfirst : s.applyCompletion c now = .error fault :=
        Except.map_eq_error_iff.2 (StatusArea.apply_eq_error_iff.2
          ⟨hfinal c (List.mem_cons_self ..), (hdelay c.operation).symm ▸ hafter⟩)
      simp only [applyAll, hfirst]
      exact (and_iff_right (List.cons_ne_nil c rest)).symm

end Session

/-! ## Final messages in a history -/

/-- Is the entry about a final message that was shown? -/
def Note.isFinal : Note → Bool
  | .rejected .. | .shown .. => true
  | .accepted .. | .sent _ | .answered .. => false

/-- When an event happens, if that makes a difference for what is shown. -/
def Event.time? : Event → Option Instant
  | .key _ _ now | .submit _ now | .drain now | .tick now => some now
  | .edit .. | .scrollDown .. | .scrollUp .. | .choose _ | .send | .answer .. => none

theorem Session.exists_isFinal_submitNotes (s : Session) (o : Operation) :
    (∃ n ∈ s.submitNotes o, n.isFinal = true) ↔ ∃ r, (s.submission o).check = .error r := by
  constructor
  · rintro ⟨n, hn, hfinal⟩
    obtain ⟨call, rfl, -⟩ | ⟨r, rfl, hr⟩ := mem_submitNotes hn
    · cases hfinal
    · exact ⟨r, hr⟩
  · rintro ⟨r, hr⟩
    rw [submitNotes_of_check_error hr]
    exact ⟨_, List.mem_singleton_self _, rfl⟩

namespace Tally

variable {api : Api} {delay : Duration} {x : Recorded} {now : Instant} {crash : Crash}

theorem submit_eq_error_iff (h : Tally api delay x) {o : Operation} :
    x.session.submit o now = .error crash ↔
      (∃ n ∈ x.session.submitNotes o, n.isFinal = true) ∧ now.after delay = .error crash := by
  rw [Session.submit_eq_error_iff, Session.exists_isFinal_submitNotes, h.delay_eq]

theorem press_eq_error_iff (h : Tally api delay x) {k : KeyCode} {m : Modifiers} :
    x.session.press k m now = .error crash ↔
      (∃ n ∈ x.session.notes x.history (.key k m now), n.isFinal = true) ∧
        now.after delay = .error crash := by
  rw [Session.press, Session.act_eq_error_iff, h.submit_eq_error_iff, Session.notes]
  by_cases hsubmit : k.action m x.session.mode x.session.active = .submit
  · rw [if_pos hsubmit, and_iff_right hsubmit]
  · rw [if_neg hsubmit]
    exact iff_of_false (fun h ↦ hsubmit h.1) (by simp)

theorem drain_eq_error_iff (h : Tally api delay x) :
    x.session.drain now = .error crash ↔
      (∃ n ∈ x.session.notes x.history (.drain now), n.isFinal = true) ∧
        now.after delay = .error crash := by
  have hdrain : x.session.drain now = .error crash ↔
      x.session.inbox ≠ [] ∧ now.after delay = .error crash :=
    Session.applyAll_eq_error_iff (s := { x.session with inbox := [] }) h.delay_eq h.isFinal_inbox
  rw [hdrain]
  refine and_congr_left' ?_
  rw [h.inbox_eq, Session.notes]
  cases x.history.unshown with
  | nil => simp
  | cons a rest => simp [Note.isFinal]

/-- **Only a final message breaks the console off**, and only if the clock has no room for its
deadline. -/
theorem step_eq_error_iff (h : Tally api delay x) {e : Event} :
    x.step e = .error crash ↔
      (∃ n ∈ x.session.notes x.history e, n.isFinal = true) ∧
        ∃ now, e.time? = some now ∧ now.after delay = .error crash := by
  rw [Recorded.step, Except.map_eq_error_iff]
  cases e with
  | key k m now => simp [Session.step, Except.map_eq_error_iff, h.press_eq_error_iff, Event.time?]
  | submit o now =>
    simp [Session.step, Except.map_eq_error_iff, h.submit_eq_error_iff, Event.time?,
      Session.notes]
  | drain now => simp [Session.step, Except.map_eq_error_iff, h.drain_eq_error_iff, Event.time?]
  | tick now => simp [Session.step, Session.notes]
  | edit | scrollDown | scrollUp | choose | send | answer => simp [Session.step, Event.time?]

end Tally

namespace Recorded

/-- In the run of some events, a final message is to be shown at an instant. -/
def ShowsFinal (x : Recorded) (events : List Event) (now : Instant) : Prop :=
  ∃ n s e, x.NotedAt events n s e ∧ n.isFinal = true ∧ e.time? = some now

/-- A run breaks off at the first event that does. -/
theorem run_eq_error_iff {events : List Event} {crash : Crash} :
    ∀ {x : Recorded}, x.run events = .error crash ↔
      ∃ before e after y, events = before ++ e :: after ∧ x.run before = .ok y ∧
        y.step e = .error crash := by
  induction events with
  | nil => simp [run]
  | cons e rest ih =>
    intro x
    constructor
    · intro h
      cases hstep : x.step e with
      | error fault =>
        rw [run, hstep] at h
        exact ⟨[], e, rest, x, rfl, rfl, hstep.trans h⟩
      | ok z =>
        rw [run_of_step hstep, ih] at h
        obtain ⟨before, e', after, y, rfl, hrun, hcrash⟩ := h
        exact ⟨e :: before, e', after, y, rfl, (run_of_step hstep before).trans hrun, hcrash⟩
    · rintro ⟨before, e', after, y, heq, hrun, hcrash⟩
      rw [heq, run_append hrun, run, hcrash]

variable {api : Api} {delay : Duration} {events : List Event}

theorem run_start_eq_error_iff :
    (start api delay).run events = .error .clockOverflow ↔
      ∃ now, (start api delay).ShowsFinal events now ∧
        clockLimit ≤ Duration.seconds (now + delay) := by
  rw [run_eq_error_iff]
  constructor
  · rintro ⟨before, e, after, y, rfl, hrun, hcrash⟩
    obtain ⟨⟨n, hn, hfinal⟩, now, htime, hafter⟩ := (Tally.of_run hrun).step_eq_error_iff.1 hcrash
    exact ⟨now, ⟨n, y.session, e, ⟨before, after, y.history, rfl, hrun, hn⟩, hfinal, htime⟩,
      Instant.after_eq_error_iff.1 hafter⟩
  · rintro ⟨now, ⟨n, s, e, ⟨before, after, h, rfl, hrun, hn⟩, hfinal, htime⟩, hlimit⟩
    exact ⟨before, e, after, ⟨s, h⟩, rfl, hrun, (Tally.of_run hrun).step_eq_error_iff.2
      ⟨⟨n, hn, hfinal⟩, now, htime, Instant.after_eq_error_iff.2 hlimit⟩⟩

/-- A final message is shown when something happens. -/
theorem ShowsFinal.exists_mem {x : Recorded} {now : Instant} (h : x.ShowsFinal events now) :
    ∃ e ∈ events, e.time? = some now := by
  obtain ⟨n, s, e, ⟨before, after, g, rfl, -, -⟩, -, htime⟩ := h
  exact ⟨e, List.mem_append_right _ (List.mem_cons_self ..), htime⟩

/-- Nothing was entered yet, so submitting is answered with a final message at once. -/
theorem showsFinal_submit_delete (now : Instant) :
    (start api delay).ShowsFinal [.submit .delete now] now :=
  ⟨.rejected .delete .namespaceMissing, _, _, ⟨[], [], _, rfl, rfl, List.mem_singleton_self _⟩,
    rfl, rfl⟩

end Recorded

/-! ## What is safe -/

/-- While the clock shows no more seconds than `last`, nothing breaks the console off. -/
def SafeThrough (api : Api) (delay : Duration) (last : Nat) : Prop :=
  ∀ events : List Event,
    (∀ e ∈ events, ∀ now, e.time? = some now → Duration.seconds now ≤ last) →
      ∃ x, (Recorded.start api delay).run events = .ok x

/-- The console is safe exactly as long as the clock has room for a deadline. -/
theorem safeThrough_iff {api : Api} {delay : Duration} {last : Nat} :
    SafeThrough api delay last ↔ ∀ now, Duration.seconds now ≤ last →
      Duration.seconds (now + delay) < clockLimit := by
  constructor
  · intro hsafe now hnow
    by_contra hlimit
    obtain ⟨x, hx⟩ := hsafe [.submit .delete now] (by simpa [Event.time?] using hnow)
    have hcrash : (Recorded.start api delay).run [.submit .delete now] = .error .clockOverflow :=
      Recorded.run_start_eq_error_iff.2
        ⟨now, Recorded.showsFinal_submit_delete now, Nat.not_lt.1 hlimit⟩
    cases hcrash.symm.trans hx
  · intro hroom events htimes
    cases hrun : (Recorded.start api delay).run events with
    | ok x => exact ⟨x, rfl⟩
    | error crash =>
      cases crash
      obtain ⟨now, hshows, hlimit⟩ := Recorded.run_start_eq_error_iff.1 hrun
      obtain ⟨e, he, htime⟩ := hshows.exists_mem
      exact absurd (hroom now (htimes e he now htime)) (Nat.not_lt.2 hlimit)

/-- What breaks a session off whose final messages stay for the time in the settings. -/
structure ClockBound (api : Api) (s : Settings) : Prop where
  /-- A run breaks off exactly if a final message comes too late for its deadline. -/
  crash_iff : ∀ events,
    (Recorded.start api s.hideDelay).run events = .error .clockOverflow ↔
      ∃ now, (Recorded.start api s.hideDelay).ShowsFinal events now ∧
        clockLimit ≤ Duration.seconds now + s.hideSeconds
  /-- Up to an instant, a time is safe exactly if the clock has room for it from there on.  So if it
  does not fit the clock alone, then the first final message breaks the console off, whenever it
  comes. -/
  safe_iff : ∀ last, SafeThrough api s.hideDelay last ↔ last + s.hideSeconds < clockLimit
  /-- At all instants of the clock, only a time of zero is safe. -/
  always_safe_iff : SafeThrough api s.hideDelay (clockLimit - 1) ↔ s.hideAfter = some 0

theorem safeThrough_hideDelay_iff {api : Api} {s : Settings} {last : Nat} :
    SafeThrough api s.hideDelay last ↔ last + s.hideSeconds < clockLimit := by
  simp only [safeThrough_iff, s.hideDelay_eq, Duration.seconds_add_ofSeconds]
  constructor
  · intro hroom
    have hlast := Duration.seconds_ofSeconds last
    exact hlast ▸ hroom (Duration.ofSeconds last) hlast.le
  · intro hlimit now hnow
    omega

theorem clockBound (api : Api) (s : Settings) : ClockBound api s where
  crash_iff events := by
    simp only [Recorded.run_start_eq_error_iff, s.hideDelay_eq, Duration.seconds_add_ofSeconds]
  safe_iff _ := safeThrough_hideDelay_iff
  always_safe_iff := by
    have hpositive : 0 < clockLimit := by decide
    rw [safeThrough_hideDelay_iff, ← Settings.hideSeconds_eq_zero_iff]
    omega

/-- **Every time can be stored, but not every time fits the clock.**  Whatever time the settings
hold, it is read from their file and stored there without complaint; and a run breaks off exactly if
a final message comes when the clock has no room for this time. -/
theorem clock_bound_of_settings (api : Api) (s : Settings) :
    (∀ path, Settings.ofFile path (some (Text.utf8 s.text.toList)) = (s, [])) ∧
    (∀ (n : UInt64) (configurations : String) (w : World), s.hideAfter = some n →
      w.saveFault = none →
      let r := (Program.run none configurations
        ["config", "--status-timeout-secs=" ++ toString n]).result w
      r.code = 0 ∧ (w.after r).stored configurations =
        ⟨(w.stored configurations).apiUrl, s.hideAfter⟩) ∧
    ClockBound api s := by
  refine ⟨fun path ↦ Settings.ofFile_text path s, fun n configurations w hn hsave ↦ ?_,
    clockBound api s⟩
  rw [hn]
  exact Program.stores_time n configurations hsave

/-- The largest time is stored, and breaks the console off at its first final message; a time of
eight seconds is safe for many years. -/
theorem clock_bound_of_settings_largest :
    let w : World := ⟨none, none, none, .always (.error "")⟩
    let r := (Program.run none "/c"
      ["config", "--status-timeout-secs=18446744073709551615"]).result w
    let largest : Settings := ⟨none, some 18446744073709551615⟩
    (r.code = 0 ∧ (w.after r).stored "/c" = largest) ∧
    (Recorded.start ⟨"http://api.test"⟩ largest.hideDelay).run [.submit .delete 0] =
      .error .clockOverflow ∧
    ¬ SafeThrough ⟨"http://api.test"⟩ largest.hideDelay 0 ∧
    SafeThrough ⟨"http://api.test"⟩ (Settings.hideDelay ⟨none, some 8⟩) 1000000000000 := by
  intro w r largest
  obtain ⟨-, hstored, hbound⟩ := clock_bound_of_settings ⟨"http://api.test"⟩ largest
  obtain ⟨-, -, hsmall⟩ := clock_bound_of_settings ⟨"http://api.test"⟩ ⟨none, some 8⟩
  refine ⟨hstored 18446744073709551615 "/c" w rfl rfl, ?_, ?_, ?_⟩
  · exact (hbound.crash_iff _).2 ⟨0, Recorded.showsFinal_submit_delete 0, by decide⟩
  · rw [hbound.safe_iff]
    decide
  · rw [hsmall.safe_iff]
    decide

/-- The largest time is read from the settings, and the first rejection breaks the console off. -/
theorem largest_time_breaks_off :
    Settings.ofFile "/c/settings.json"
      (some (Text.utf8 (Settings.text ⟨none, some 18446744073709551615⟩).toList)) =
        (⟨none, some 18446744073709551615⟩, []) ∧
    (Recorded.start ⟨"http://api.test"⟩
      (Settings.hideDelay ⟨none, some 18446744073709551615⟩)).run [.submit .delete 0] =
        .error .clockOverflow :=
  ⟨Settings.ofFile_text _ _, rfl⟩

end ClusterConsole
