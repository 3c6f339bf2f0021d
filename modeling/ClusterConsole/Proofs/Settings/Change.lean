import ClusterConsole.Program
import ClusterConsole.Proofs.CommandLine.Written
import ClusterConsole.Proofs.Outcome
import ClusterConsole.Proofs.Settings.Reading

/-!
# Changing the settings

The command for settings reads what is stored, replaces what is given, and stores the whole again.
It is done either completely or not at all: a base URL that is refused keeps the time from being
stored as well, and leaves the file as it was, even if there was none or nothing to be made out of
it.

* `World.after` is the world that a run leaves behind, in which what was saved is stored.
* `Program.result_runLogged` says what a run comes to once the settings are known.  Whether there
  is a log makes no difference but for the log itself and a complaint that it cannot be opened.
* `config_changes_settings` is the main result.
-/

set_option autoImplicit false

namespace ClusterConsole

/-- The world that a run leaves behind: what was saved is stored. -/
def World.after (w : World) (r : Result) : World :=
  { w with settings := (r.saved.map fun text ↦ Text.utf8 text.toList).or w.settings }

/-- The settings that a run finds in a world. -/
def World.stored (w : World) (configurations : String) : Settings :=
  (Settings.ofFile (Place.settings configurations) w.settings).1

namespace Program

variable {w : World} {configurations : String} {a : Arguments} {limit : Option Level}

/-! ## Runs with the settings known -/

/-- The limit of the log that a run has: none if there is no log to be had. -/
def keptLimit (w : World) (a : Arguments) : Option Level :=
  if w.logFault.isSome then none else a.limit

/-- What a run complains about its log. -/
def logComplaint (w : World) (configurations : String) (a : Arguments) : String :=
  match a.limit, w.logFault with
  | some _, some cause =>
    "Failed to open log file " ++ Text.quoted (Place.log configurations) ++ ": " ++ cause ++ "\n"
  | _, _ => ""

/-- Apart from its log, a run comes to what it comes to with the settings that are stored. -/
theorem result_runLogged (w : World) (configurations : String) (a : Arguments) :
    ∃ log, (runLogged configurations a).result w =
      let r := (runWith a (keptLimit w a) (w.stored configurations)).result w
      { r with log, complaints := logComplaint w configurations a ++ r.complaints } := by
  have harguments : ∀ limit, ∃ log, (runArguments configurations a limit).result w =
      { (runWith a limit (w.stored configurations)).result w with log } :=
    fun limit ↦ result_record w limit _ _
  rw [runLogged, logComplaint, keptLimit]
  cases a.limit with
  | none =>
    obtain ⟨log, hlog⟩ := harguments none
    exact ⟨log, by simpa using hlog⟩
  | some limit =>
    cases hfault : w.logFault with
    | none =>
      obtain ⟨log, hlog⟩ := harguments (some limit)
      simp only [Run.result, hfault, record, hlog, String.empty_append]
      exact ⟨_, rfl⟩
    | some cause =>
      obtain ⟨log, hlog⟩ := harguments none
      simp only [Run.result, hfault, hlog]
      exact ⟨log, rfl⟩

/-! ## Storing settings -/

theorem result_fail (w : World) (chain : List String) :
    (fail chain).result w = ⟨1, "", errorText chain, none, none, []⟩ := by
  simp [fail, Run.result]

/-- Settings are stored as their text, if nothing keeps the file from being written. -/
theorem result_store (hsave : w.saveFault = none) (s : Settings) :
    (store s).result w = ⟨0, s.text ++ "\n", "", none, some s.text, []⟩ := by
  simp [store, Run.result, hsave]

end Program

/-! ## Changes -/

namespace Settings

variable {s : Settings} {given url : Option String} {raw : String}

/-- What is stored as the base URL, after what it was and what is given for it: the same if nothing
is given, and else what the base URL of a run with the given one would be. -/
inductive Replaces (s : Settings) : (given url : Option String) → Prop
  | kept : s.Replaces none s.apiUrl
  | replaced {raw url : String} (h : s.baseUrl (some raw) = .ok url) :
    s.Replaces (some raw) (some url)

/-- A base URL that is given is either stored or refused. -/
theorem refused_or_replaces (s : Settings) (given : Option String) :
    (∃ raw fault, given = some raw ∧ s.baseUrl (some raw) = .error fault) ∨
      ∃ url, s.Replaces given url := by
  cases given with
  | none => exact .inr ⟨_, .kept⟩
  | some raw =>
    cases h : s.baseUrl (some raw) with
    | error fault => exact .inl ⟨raw, fault, rfl, h⟩
    | ok url => exact .inr ⟨_, .replaced h⟩

theorem changeSettings_of_refused {fault : BaseUrl.Fault} (h : s.baseUrl (some raw) = .error fault)
    (hideAfter : Option UInt64) :
    Program.changeSettings s (some raw) hideAfter = .error fault := by
  have hread : BaseUrl.read raw = .error fault := h
  simp only [Program.changeSettings, hread]

theorem Replaces.changeSettings_eq (h : s.Replaces given url) (hideAfter : Option UInt64) :
    Program.changeSettings s given hideAfter = .ok ⟨url, hideAfter.or s.hideAfter⟩ := by
  cases h with
  | kept => rfl
  | @replaced raw url h =>
    have hread : BaseUrl.read raw = .ok url := h
    simp only [Program.changeSettings, hread]

end Settings

/-- What the command for settings does in a world, given the result of its run. -/
structure ChangesSettings (w : World) (configurations : String) (apiUrl : Option String)
    (hideAfter : Option UInt64) (r : Result) : Prop where
  /-- If the base URL is refused, then nothing is stored, the time neither. -/
  refused : ∀ raw fault, apiUrl = some raw →
    (w.stored configurations).baseUrl (some raw) = .error fault →
    r.code = 1 ∧ r.saved = none ∧ w.after r = w
  /-- Else what is stored is read back, without complaint, as the old settings with those replaced
  that are given. -/
  changed : ∀ url, (w.stored configurations).Replaces apiUrl url →
    r.code = 0 ∧ Settings.ofFile (Place.settings configurations) (w.after r).settings =
      (⟨url, hideAfter.or (w.stored configurations).hideAfter⟩, [])
  refused_or_changed : (∃ raw fault, apiUrl = some raw ∧
    (w.stored configurations).baseUrl (some raw) = .error fault) ∨
      ∃ url, (w.stored configurations).Replaces apiUrl url

namespace Program

variable {fromEnvironment : Option String} {configurations : String} {arguments : List String}
  {a : Arguments} {apiUrl : Option String} {hideAfter : Option UInt64} {w : World}

theorem run_of_parse (h : Arguments.parse fromEnvironment arguments = .ok a)
    (configurations : String) :
    run fromEnvironment configurations arguments = runLogged configurations a := by
  rw [run, h]

theorem result_config_error (hcommand : a.command = some (.config apiUrl hideAfter))
    {fault : BaseUrl.Fault}
    (h : changeSettings (w.stored configurations) apiUrl hideAfter = .error fault) :
    ((runLogged configurations a).result w).code = 1 ∧
      ((runLogged configurations a).result w).saved = none := by
  obtain ⟨log, hlog⟩ := result_runLogged w configurations a
  have hrun : runWith a (keptLimit w a) (w.stored configurations) = fail fault.chain := by
    rw [runWith, hcommand]
    simp only [h]
  rw [hlog, hrun, result_fail]
  exact ⟨rfl, rfl⟩

theorem result_config_ok (hcommand : a.command = some (.config apiUrl hideAfter)) {s : Settings}
    (h : changeSettings (w.stored configurations) apiUrl hideAfter = .ok s)
    (hsave : w.saveFault = none) :
    ((runLogged configurations a).result w).code = 0 ∧
      ((runLogged configurations a).result w).saved = some s.text := by
  obtain ⟨log, hlog⟩ := result_runLogged w configurations a
  have hrun : runWith a (keptLimit w a) (w.stored configurations) = store s := by
    rw [runWith, hcommand]
    simp only [h]
  rw [hlog, hrun, result_store hsave]
  exact ⟨rfl, rfl⟩

end Program

/-- **Changing the settings is done completely or not at all, and settings are read back as they
were stored.** -/
theorem config_changes_settings (fromEnvironment : Option String) (configurations : String)
    (arguments : List String) {a : Arguments} {apiUrl : Option String} {hideAfter : Option UInt64}
    (hparse : Arguments.parse fromEnvironment arguments = .ok a)
    (hcommand : a.command = some (.config apiUrl hideAfter)) {w : World}
    (hsave : w.saveFault = none) :
    (∀ path s, Settings.ofFile path (some (Text.utf8 s.text.toList)) = (s, [])) ∧
    ChangesSettings w configurations apiUrl hideAfter
      ((Program.run fromEnvironment configurations arguments).result w) := by
  rw [Program.run_of_parse hparse]
  refine ⟨Settings.ofFile_text, fun raw fault hgiven hrefused ↦ ?_, fun url hreplaces ↦ ?_,
    Settings.refused_or_replaces _ _⟩
  · subst hgiven
    obtain ⟨hcode, hsaved⟩ := Program.result_config_error hcommand
      (Settings.changeSettings_of_refused hrefused hideAfter)
    exact ⟨hcode, hsaved, by rw [World.after, hsaved]; rfl⟩
  · obtain ⟨hcode, hsaved⟩ := Program.result_config_ok hcommand
      (hreplaces.changeSettings_eq hideAfter) hsave
    refine ⟨hcode, ?_⟩
    rw [World.after, hsaved]
    exact Settings.ofFile_text _ _

/-- Settings are stored where there was a file of one byte that is no text, and a base URL that is
refused leaves that file. -/
theorem config_changes_settings_spoilt :
    let w : World := ⟨some [0xff], none, none, .always (.error "")⟩
    let stored := (Program.run none "/c" ["config", "--api-url=http://h/",
      "--status-timeout-secs=7"]).result w
    let refused := (Program.run none "/c" ["config", "--api-url=ftp://h",
      "--status-timeout-secs=7"]).result w
    stored.code = 0 ∧ Settings.ofFile (Place.settings "/c") (w.after stored).settings =
      (⟨some "http://h", some 7⟩, []) ∧
    refused.code = 1 ∧ w.after refused = w := by
  intro w stored refused
  have hstored : (Command.config (some "http://h/") (some 7)).Tail
      ["--api-url=http://h/", "--status-timeout-secs=7"] :=
    .plain [(.storedUrl, "http://h/"), (.storedTime, "7")] (.refl _) rfl
  have hrefused : (Command.config (some "ftp://h") (some 7)).Tail
      ["--api-url=ftp://h", "--status-timeout-secs=7"] :=
    .plain [(.storedUrl, "ftp://h"), (.storedTime, "7")] (.refl _) rfl
  have hparse : ∀ {c : Command} {tail : List String}, c.Tail tail →
      Arguments.parse none (c.name.text :: tail) = .ok ⟨none, none, some c⟩ := fun htail ↦
    (Arguments.Writes.before [] .omitted (.refl _) rfl htail).parse_eq
  have hchanged := (config_changes_settings none "/c" _ (hparse hstored) rfl (w := w) rfl).2.changed
    (some "http://h") (.replaced (by decide +kernel))
  have hkept := (config_changes_settings none "/c" _ (hparse hrefused) rfl (w := w) rfl).2.refused
    "ftp://h" (.notWeb "ftp://h") rfl (by decide +kernel)
  exact ⟨hchanged.1, hchanged.2, hkept.1, hkept.2.2⟩

end ClusterConsole
