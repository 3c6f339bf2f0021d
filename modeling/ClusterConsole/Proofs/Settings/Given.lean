import ClusterConsole.Proofs.Command
import ClusterConsole.Proofs.Settings.BaseUrl
import ClusterConsole.Proofs.Settings.Change

/-!
# Base URLs that are given, and base URLs that are stored

A base URL can be given with a run, in its arguments or by the environment, or be stored for later
runs.  What is stored is not what was given but what is kept of it, and in a later run that is read
again.  So it has to be accepted again, and to lead to the same server: dropping slashes from the
end of a URL must not touch what stands before its path.

* `SameUrl` lists what a base URL and what is kept of it have in common, and `sameUrl_of_read` says
  that this is so for all that are accepted.
* `result_runLogged_congr` and `result_runLogged_given` compare runs: where the stored URL is used
  with runs where it is given, and where one is given with runs where other settings are stored.
* `sent_of_given` says where the requests of a run go: below what is kept of the URL that is given.
* `urls_agree` puts these together.
-/

set_option autoImplicit false

namespace ClusterConsole

open Url (WebText)

/-! ## The same server -/

/-- What is kept of a base URL stands for it. -/
structure SameUrl (raw url : String) : Prop where
  trimmed : TrimmedTo raw url
  /-- It is accepted, and kept as it is. -/
  read_again : ∀ s : Settings, s.baseUrl (some url) = .ok url
  /-- Both are read as URLs with the same scheme, and with the same user, host and port. -/
  same_server : ∃ first second authority, Url.parse raw.toList = .ok first ∧
    Url.parse url.toList = .ok second ∧ second.scheme = first.scheme ∧
    first.authority = some authority ∧ second.authority = some authority
  /-- Calls are made below the same URL, whichever of the two they are made with. -/
  same_base : (Api.ofUrl raw).base = url ∧ (Api.ofUrl url).base = url

/-- What is kept of a base URL is accepted. -/
theorem BaseUrl.read_of_reads {w : WebText} {a : Url.Authority} {url : String}
    (h : w.Reads url.toList a) (hweb : (w.url a).isWeb = true)
    (hlast : url.toList.getLast? ≠ some '/') : read url = .ok url := by
  rw [read, h.parse_eq]
  simp only [hweb, if_true]
  rw [trimSlashes_eq_self_iff.2 hlast]

theorem sameUrl_of_read {raw url : String} (h : BaseUrl.read raw = .ok url) : SameUrl raw url := by
  obtain ⟨hurl_eq, first, hfirst, hweb⟩ := BaseUrl.eq_of_read h
  have htrimmed : TrimmedTo raw url := hurl_eq ▸ trimmedTo_trimSlashes raw
  have hlast : url.toList.getLast? ≠ some '/' := fun heq ↦ htrimmed.ends_without '/' heq rfl
  obtain ⟨n, hn⟩ := htrimmed.append_slashes
  obtain ⟨w₀, a, hreads₀, rfl⟩ := Url.exists_reads hfirst hweb
  obtain ⟨w, hreads, hscheme⟩ := WebText.Reads.of_append (hn ▸ hreads₀)
  have hscheme' : (w.url a).scheme = (w₀.url a).scheme := hscheme
  have hweb' : (w.url a).isWeb = true := by rwa [Url.isWeb, hscheme', ← Url.isWeb]
  exact
    { trimmed := htrimmed
      read_again := fun _ ↦ BaseUrl.read_of_reads hreads hweb' hlast
      same_server := ⟨_, _, a, hfirst, hreads.parse_eq, hscheme', rfl, rfl⟩
      same_base := ⟨hurl_eq.symm, trimSlashes_eq_self_iff.2 hlast⟩ }

/-! ## The environment -/

/-- The environment gives a base URL to the arguments that have none, and changes nothing else. -/
theorem parse_environment (fromEnvironment : Option String) (arguments : List String) :
    Arguments.parse fromEnvironment arguments =
      (Arguments.parse none arguments).map
        fun a ↦ { a with apiUrl := a.apiUrl.or fromEnvironment } := by
  rw [Arguments.parse, Arguments.parse]
  split
  · rfl
  split
  · rfl
  split
  · rfl
  · simp only [CommandLine.assemble, Except.map, Option.or_none]

namespace Program

variable {w : World} {configurations : String} {a b : Arguments} {s : Settings}
  {raw url given : String}

/-! ## Comparing runs -/

/-- Two runs with the same limit for the log come to the same, if they do once the settings are
known. -/
theorem result_runLogged_congr (hlimit : a.limit = b.limit)
    (h : ∀ limit, runWith a limit (w.stored configurations) =
      runWith b limit (w.stored configurations)) :
    (runLogged configurations a).result w = (runLogged configurations b).result w := by
  have harguments : ∀ limit, (runArguments configurations a limit).result w =
      (runArguments configurations b limit).result w := fun limit ↦
    congrArg (fun rest ↦ (record limit _ rest).result w) (h limit)
  rw [runLogged, runLogged, hlimit]
  cases b.limit with
  | none => exact harguments none
  | some limit =>
    cases hfault : w.logFault with
    | none => simp only [Run.result, hfault, record, harguments]
    | some cause => simp only [Run.result, hfault, harguments]

/-- A base URL that is stored is used as the one it was stored for. -/
theorem runWith_stored (hread : BaseUrl.read raw = .ok url) (hstored : s.apiUrl = some url)
    (hnone : a.apiUrl = none) (limit : Option Level) :
    runWith a limit s = runWith { a with apiUrl := some raw } limit s := by
  have hgiven : s.baseUrl (some raw) = .ok url := hread
  have hagain : s.baseUrl a.apiUrl = .ok url := by
    rw [Settings.baseUrl, Settings.chosenUrl, hnone, hstored]
    exact (sameUrl_of_read hread).read_again s
  rw [runWith, runWith, hgiven, hagain]

/-- A run with a base URL that is given. -/
def runGiven (a : Arguments) (limit : Option Level) (given : String) : Run :=
  match BaseUrl.read given with
  | .error fault => fail fault.chain
  | .ok url => runAgainst limit (.ofUrl url) a.command

/-- Without a command for settings, a base URL that is given is all that a run needs. -/
theorem result_runWith_given (hgiven : a.apiUrl = some given)
    (hcommand : ∀ apiUrl hideAfter, a.command ≠ some (.config apiUrl hideAfter))
    (limit : Option Level) (s : Settings) :
    ∃ log, (runWith a limit s).result w = { (runGiven a limit given).result w with log } := by
  have hurl : s.baseUrl (some given) = BaseUrl.read given := rfl
  rw [runWith]
  split
  · next apiUrl hideAfter heq => exact absurd heq (hcommand apiUrl hideAfter)
  · rw [hgiven, hurl, runGiven]
    cases BaseUrl.read given with
    | error fault => exact ⟨_, rfl⟩
    | ok url => exact result_record w limit _ _

theorem result_record_settings (limit : Option Level) (entries : Log) {rest : Run}
    {content : Option (List UInt8)}
    (h : rest.result { w with settings := content } = rest.result w) :
    (record limit entries rest).result { w with settings := content } =
      (record limit entries rest).result w := by
  cases limit with
  | none => exact h
  | some limit => simp only [record, Run.result, h]

/-- A run against a server looks at no settings. -/
theorem result_runAgainst_settings (limit : Option Level) (api : Api) (command : Option Command)
    (content : Option (List UInt8)) :
    (runAgainst limit api command).result { w with settings := content } =
      (runAgainst limit api command).result w := by
  have hsubmission : ∀ s : Submission,
      (runSubmission limit api s).result { w with settings := content } =
        (runSubmission limit api s).result w := by
    intro s
    rw [runSubmission]
    split
    · exact result_record_settings limit _ rfl
    · simp only [Run.result]
      rw [finishSubmission, result_record_settings limit _ rfl]
  rcases command with _ | c
  · rfl
  · cases c with
    | health =>
      simp only [runAgainst, runHealth, Run.result]
      rw [result_record_settings limit _ rfl]
    | config apiUrl hideAfter => rfl
    | _ => rw [runAgainst_of_submission? rfl, hsubmission]

theorem result_runGiven_settings (limit : Option Level) (content : Option (List UInt8)) :
    (runGiven a limit given).result { w with settings := content } =
      (runGiven a limit given).result w := by
  rw [runGiven]
  split
  · rfl
  · exact result_runAgainst_settings ..

end Program

/-! ## What a run sends -/

/-- The calls that a command makes, none if something is wrong with what it submits. -/
def Command.calls : Option Command → List Call
  | none => []
  | some .health => [.health]
  | some c => (c.submission?.bind fun s ↦ s.check.toOption).toList

/-- Requests for these calls, all of them below a base URL. -/
structure Below (url : String) (calls : List Call) (sent : List Http.Request) : Prop where
  sent_eq : sent = calls.map (Api.ofUrl url).request
  url_eq : sent.map Http.Request.url = calls.map fun call ↦ url ++ call.path

namespace Program

variable {w : World} {configurations : String} {a : Arguments} {raw url given : String}

theorem sent_runAgainst (w : World) (limit : Option Level) (api : Api) (command : Option Command) :
    ((runAgainst limit api command).result w).sent =
      (Command.calls command).map api.request := by
  have hsubmission : ∀ s : Submission, ((runSubmission limit api s).result w).sent =
      s.check.toOption.toList.map api.request := by
    intro s
    rw [(result_runSubmission w limit api s).2.2]
    cases hcheck : s.check with
    | ok call => rw [Api.execute_of_check_ok hcheck]; rfl
    | error r => rw [Api.execute_of_check_error hcheck]; rfl
  rcases command with _ | c
  · rfl
  · cases c with
    | health =>
      obtain ⟨log, hlog⟩ := result_record w limit (api.probe w.send).log
        (.print (api.probe w.send).printed (conclude (api.probe w.send).ok))
      have hsent := congrArg Result.sent hlog
      exact congrArg (api.request .health :: ·) hsent
    | config apiUrl hideAfter => rfl
    | _ =>
      rw [runAgainst_of_submission? rfl, hsubmission]
      rfl

/-- A base URL that is accepted has all requests of its run below it. -/
theorem sent_of_given (hgiven : a.apiUrl = some given) (hread : BaseUrl.read given = .ok url)
    (hcommand : ∀ apiUrl hideAfter, a.command ≠ some (.config apiUrl hideAfter)) :
    Below url (Command.calls a.command) ((runLogged configurations a).result w).sent := by
  obtain ⟨log, hlog⟩ := result_runLogged w configurations a
  obtain ⟨log', hlog'⟩ := result_runWith_given (w := w) hgiven hcommand (keptLimit w a)
    (w.stored configurations)
  have hsent : ((runLogged configurations a).result w).sent =
      (Command.calls a.command).map (Api.ofUrl url).request := by
    rw [hlog, hlog', runGiven, hread]
    exact sent_runAgainst ..
  refine ⟨hsent, ?_⟩
  rw [hsent, List.map_map]
  refine List.map_congr_left fun call _ ↦ ?_
  rw [Function.comp_apply, Api.url_request, (sameUrl_of_read hread).same_base.2]

end Program

/-! ## Stored and given -/

/-- What a run comes to, apart from its log. -/
def Result.unlogged (r : Result) : Result := { r with log := none }

/-- In this world `url` is stored, and has the meaning of `raw`. -/
structure World.StandsFor (w : World) (configurations raw url : String) : Prop where
  resolved : (w.stored configurations).baseUrl none = .ok url ∧
    ∀ s : Settings, s.baseUrl (some raw) = .ok url
  /-- A run without a base URL comes to what it comes to with `raw`, wherever that is given. -/
  same_run : ∀ fromEnvironment arguments a fromEnvironment' arguments',
    Arguments.parse fromEnvironment arguments = .ok a → a.apiUrl = none →
    Arguments.parse fromEnvironment' arguments' = .ok { a with apiUrl := some raw } →
    (Program.run fromEnvironment configurations arguments).result w =
      (Program.run fromEnvironment' configurations arguments').result w

/-- In this world a run saves what is stored already, which is `saved`. -/
def World.Settled (w : World) (run : Run) (saved : Option String) : Prop :=
  (run.result w).saved = saved ∧ w.after (run.result w) = w

/-- How base URLs that are given and that are stored go together. -/
structure UrlsAgree (configurations : String) : Prop where
  same_url : ∀ (s : Settings) raw url, s.baseUrl (some raw) = .ok url → SameUrl raw url
  /-- After `raw` was stored, what is stored stands for it in every later run, and storing it once
  more writes the same. -/
  stored : ∀ fromEnvironment arguments a raw url hideAfter (w : World),
    Arguments.parse fromEnvironment arguments = .ok a →
    a.command = some (.config (some raw) hideAfter) →
    (w.stored configurations).baseUrl (some raw) = .ok url → w.saveFault = none →
    let run := Program.run fromEnvironment configurations arguments
    ∀ later : World, later.settings = (w.after (run.result w)).settings →
      later.StandsFor configurations raw url ∧
        (later.saveFault = none → later.Settled run (run.result w).saved)
  environment : ∀ fromEnvironment arguments, Arguments.parse fromEnvironment arguments =
    (Arguments.parse none arguments).map
      fun a ↦ { a with apiUrl := a.apiUrl.or fromEnvironment }
  /-- A base URL that is given is used or refused, whatever is stored. -/
  given : ∀ fromEnvironment arguments a given (w : World) content,
    Arguments.parse fromEnvironment arguments = .ok a → a.apiUrl = some given →
    (∀ apiUrl hideAfter, a.command ≠ some (.config apiUrl hideAfter)) →
    let r := (Program.runGiven a (Program.keptLimit w a) given).result w
    ((Program.run fromEnvironment configurations arguments).result
        { w with settings := content }).unlogged =
      { r with complaints := Program.logComplaint w configurations a ++ r.complaints }.unlogged
  /-- If it is used, then what is kept of it has all requests of the run below it. -/
  given_below : ∀ fromEnvironment arguments a given url (w : World),
    Arguments.parse fromEnvironment arguments = .ok a → a.apiUrl = some given →
    (∀ apiUrl hideAfter, a.command ≠ some (.config apiUrl hideAfter)) →
    (w.stored configurations).baseUrl (some given) = .ok url →
    Below url (Command.calls a.command)
      ((Program.run fromEnvironment configurations arguments).result w).sent

/-- **A base URL that is stored means what it means when it is given, and one that is given comes
before all that is stored.** -/
theorem urls_agree (configurations : String) : UrlsAgree configurations where
  same_url _ _ _ h := sameUrl_of_read h
  stored := by
    intro fromEnvironment arguments a raw url hideAfter w hparse hcommand hurl hsave run later
      hlater
    let settings : Settings := ⟨some url, hideAfter.or (w.stored configurations).hideAfter⟩
    have hread : BaseUrl.read raw = .ok url := hurl
    have hrun : run = Program.runLogged configurations a := Program.run_of_parse hparse _
    have hsaved : (run.result w).saved = some settings.text := by
      rw [hrun]
      exact (Program.result_config_ok hcommand
        ((Settings.Replaces.replaced hurl).changeSettings_eq hideAfter) hsave).2
    have hcontent : later.settings = some (Text.utf8 settings.text.toList) := by
      rw [hlater, World.after, hsaved]
      rfl
    have hstored : later.stored configurations = settings := by
      rw [World.stored, hcontent, Settings.ofFile_text]
    refine ⟨⟨⟨?_, fun _ ↦ hread⟩, ?_⟩, fun hsave' ↦ ?_⟩
    · rw [hstored]
      exact (sameUrl_of_read hread).read_again settings
    · intro _ _ b _ _ hb hnone hb'
      rw [Program.run_of_parse hb, Program.run_of_parse hb']
      exact Program.result_runLogged_congr rfl
        (Program.runWith_stored hread (congrArg Settings.apiUrl hstored) hnone)
    · -- the time that is stored by now is the one that would be stored
      have hagain : Program.changeSettings (later.stored configurations) (some raw) hideAfter =
          .ok settings := by
        rw [hstored, (Settings.Replaces.replaced hread).changeSettings_eq]
        cases hideAfter <;> rfl
      have hsaved' : (run.result later).saved = some settings.text := by
        rw [hrun]
        exact (Program.result_config_ok hcommand hagain hsave').2
      refine ⟨hsaved'.trans hsaved.symm, ?_⟩
      rw [World.after, hsaved', Option.map_some, Option.some_or, ← hcontent]
  environment := parse_environment
  given := by
    intro fromEnvironment arguments a given w content hparse hgiven hcommand r
    let w' : World := { w with settings := content }
    obtain ⟨log, hlog⟩ := Program.result_runLogged w' configurations a
    obtain ⟨log', hlog'⟩ := Program.result_runWith_given (w := w') hgiven hcommand
      (Program.keptLimit w' a) (w'.stored configurations)
    have hsettings : (Program.runGiven a (Program.keptLimit w a) given).result w' = r :=
      Program.result_runGiven_settings _ content
    rw [Program.run_of_parse hparse, hlog, hlog', ← hsettings]
    rfl
  given_below := by
    intro fromEnvironment arguments a given url w hparse hgiven hcommand hread
    rw [Program.run_of_parse hparse]
    exact Program.sent_of_given hgiven hread hcommand

/-- A base URL with a blank between two slashes at its end: the blank comes to stand at the end of
what is stored, where it does not count. -/
theorem urls_agree_blank :
    let raw := "http://h/ /"
    let w : World := ⟨none, none, none, .always (.error "")⟩
    let config := Program.run none "/c" ["config", "--api-url=http://h/ /"]
    let later := w.after (config.result w)
    Settings.empty.baseUrl (some raw) = .ok "http://h/ " ∧ SameUrl raw "http://h/ " ∧
    (config.result later).saved = (config.result w).saved ∧
    (Program.run none "/c" ["list"]).result later =
      (Program.run none "/c" ["--api-url=http://h/ /", "list"]).result later ∧
    ((Program.run none "/c" ["--api-url=http://h/ /", "list"]).result later).unlogged =
      ((Program.run none "/c" ["--api-url=http://h/ /", "list"]).result w).unlogged := by
  intro raw w config later
  have hread : ∀ s : Settings, s.baseUrl (some raw) = .ok "http://h/ " := by
    have hempty : Settings.empty.baseUrl (some raw) = .ok "http://h/ " := by decide +kernel
    exact fun _ ↦ hempty
  have htail : (Command.config (some raw) none).Tail ["--api-url=http://h/ /"] :=
    .plain [(.storedUrl, raw)] (.refl _) rfl
  have hconfig : Arguments.parse none ["config", "--api-url=http://h/ /"] =
      .ok ⟨none, none, some (.config (some raw) none)⟩ :=
    (Arguments.Writes.before (c := .config (some raw) none) [] .omitted (.refl _) rfl
      htail).parse_eq
  have hlist : Arguments.parse none ["list"] = .ok ⟨none, none, some .list⟩ :=
    (Arguments.Writes.before (c := .list) [] .omitted (.refl _) rfl
      (.plain [] (.refl _) rfl)).parse_eq
  have hgiven : Arguments.parse none ["--api-url=http://h/ /", "list"] =
      .ok ⟨some raw, none, some .list⟩ :=
    (Arguments.Writes.before (c := .list) [(.apiUrl, raw)] .omitted (.refl _) rfl
      (.plain [] (.refl _) rfl)).parse_eq
  obtain ⟨hstands, hsettled⟩ :=
    (urls_agree "/c").stored none _ _ raw _ none w hconfig rfl (hread _) rfl later rfl
  have hany := fun content ↦
    (urls_agree "/c").given none _ _ raw w content hgiven rfl nofun
  exact ⟨hread _, (urls_agree "/c").same_url .empty _ _ (hread _), (hsettled rfl).1,
    hstands.same_run none _ _ none _ hlist rfl hgiven,
    (hany later.settings).trans (hany w.settings).symm⟩

end ClusterConsole
