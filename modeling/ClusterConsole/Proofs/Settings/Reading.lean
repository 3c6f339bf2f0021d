import ClusterConsole.Proofs.Json.Typed
import ClusterConsole.Proofs.Text.Utf8
import ClusterConsole.Settings.Reader

/-!
# Settings survive being written

Settings are written by the general printer of JSON values, and read by a reader of their own that
knows which members there are and what type each of them has.  `ofFile_text` says that the two fit
together: whatever the base URL and the time are, and whether they are there or not, a file with
the text of settings holds these settings.

Both members are written like values that may be missing, and each is read wherever it ends
(`readMember_apiUrl`, `readMember_hideAfter`); what is left of the text behind each of them is
`urlTail` and `timeTail`.
-/

set_option autoImplicit false

namespace ClusterConsole

open Json (Blanks EndsNumber Reading)

namespace Settings

open Json (Value Quoted.encodeChar)

variable {fuel : Nat} {g : Gathered} {s : Settings}

/-! ## The text -/

/-- The base URL as it is written. -/
def urlText (s : Settings) : List Char := ((s.apiUrl.map Value.string).getD .null).compact

/-- The time as it is written. -/
def timeText (s : Settings) : List Char :=
  ((s.hideAfter.map fun n ↦ Value.number (.whole n.toNat)).getD .null).compact

/-- The text of settings behind the name of the time. -/
def timeTail (s : Settings) : List Char := ':' :: ' ' :: (s.timeText ++ (Json.breakTo 0 ++ ['}']))

/-- The text of settings behind the name of the base URL. -/
def urlTail (s : Settings) : List Char :=
  ':' :: ' ' :: (s.urlText ++ ',' :: (Json.breakTo 1 ++
    '"' :: (hideAfterName.toList.flatMap Quoted.encodeChar ++ '"' :: s.timeTail)))

/-- The text of settings, taken apart: two members on lines of their own. -/
theorem toList_text (s : Settings) :
    s.text.toList = '{' :: (Json.breakTo 1 ++
      '"' :: (apiUrlName.toList.flatMap Quoted.encodeChar ++ '"' :: s.urlTail)) := by
  have hurl : ((s.apiUrl.map Value.string).getD .null).prettyAt 1 = s.urlText := by
    rw [urlText]
    cases s.apiUrl <;> rfl
  have htime : ((s.hideAfter.map fun n ↦ Value.number (.whole n.toNat)).getD .null).prettyAt 1 =
      s.timeText := by
    rw [timeText]
    cases s.hideAfter <;> rfl
  rw [text, Value.prettyString, String.toList_ofList, value, Value.pretty, Value.prettyAt,
    Json.prettyMembers, Json.prettyMembers, hurl, htime]
  · simp [urlTail, timeTail, Json.nameText, Json.Quoted.encode]
  · simp
  · simp

/-! ## Reading it -/

theorem readAfterColon_colon {α : Type} (value : List Char → Reading α) (rest : List Char) :
    readAfterColon value (':' :: rest) = value rest := by
  rw [readAfterColon, Json.readColon, Json.skipBlanks_cons rfl]
  rfl

theorem readMember_apiUrl (hg : g.apiUrl = none) (h : ∀ url ∈ s.apiUrl, url.toList.length < fuel)
    (rest : List Char) :
    readMember fuel g apiUrlName (':' :: ' ' :: (s.urlText ++ rest)) =
      .ok ({ g with apiUrl := some s.apiUrl }, rest) := by
  have hread : Json.readOptional (Json.readText fuel) (' ' :: (s.urlText ++ rest)) =
      .ok (s.apiUrl, rest) :=
    (Json.readOptional_append_blanks Blanks.space).trans (Json.readOptional_text s.apiUrl h)
  rw [readMember, if_pos rfl, hg, readAfterColon_colon, hread]
  rfl

theorem readMember_hideAfter (hg : g.hideAfter = none) {rest : List Char}
    (hrest : EndsNumber rest) :
    readMember fuel g hideAfterName (':' :: ' ' :: (s.timeText ++ rest)) =
      .ok ({ g with hideAfter := some s.hideAfter }, rest) := by
  have hread : Json.readOptional (Json.readWord64 fuel) (' ' :: (s.timeText ++ rest)) =
      .ok (s.hideAfter, rest) :=
    (Json.readOptional_append_blanks Blanks.space).trans
      (Json.readOptional_word64 s.hideAfter hrest)
  rw [readMember, if_neg (by decide), if_pos rfl, hg, readAfterColon_colon, hread]
  rfl

/-- The base URL is no longer than it is written. -/
theorem length_lt_urlText {url : String} (h : url ∈ s.apiUrl) :
    url.toList.length < s.urlText.length := by
  have hle := Json.Quoted.length_le_flatMap_encodeChar url.toList
  rw [urlText, Option.mem_def.1 h]
  simp only [Option.map_some, Option.getD_some, Value.compact, Json.Quoted.encode,
    List.length_cons, List.length_append]
  omega

/-- There is room for the names of both members and for the base URL. -/
theorem length_toList_text (s : Settings) : s.urlText.length + 30 ≤ s.text.toList.length := by
  have hnames : (apiUrlName.toList.flatMap Quoted.encodeChar).length = 7 ∧
      (hideAfterName.toList.flatMap Quoted.encodeChar).length = 19 := by decide
  rw [toList_text, urlTail]
  simp only [List.length_cons, List.length_append, hnames]
  omega

theorem skipBlanks_breakTo (level : Nat) (rest : List Char) :
    Json.skipBlanks (Json.breakTo level ++ '"' :: rest) = '"' :: rest := by
  rw [Json.skipBlanks_append (Json.blanks_breakTo level), Json.skipBlanks_cons rfl]

theorem begins_breakTo (level : Nat) (rest : List Char) :
    Json.Begins (Json.skipBlanks (Json.breakTo level ++ '"' :: rest)) :=
  ⟨'"', rest, skipBlanks_breakTo level rest, by decide, by decide, by decide⟩

/-- **Settings are read back from their text.** -/
theorem parse_text (s : Settings) : parse s.text.toList = .ok s := by
  have hlength := length_toList_text s
  -- one turn of the loop for each member, and one for the closing brace
  obtain ⟨k, hk⟩ : ∃ k, s.text.toList.length + 1 = k + 3 := ⟨s.text.toList.length - 2, by omega⟩
  have hurl : ∀ url ∈ s.apiUrl, url.toList.length < k + 3 := fun url hmem ↦ by
    have := length_lt_urlText hmem
    omega
  have hname : apiUrlName.toList.length < k + 3 ∧ hideAfterName.toList.length < k + 2 := by
    have hnames : apiUrlName.toList.length = 7 ∧ hideAfterName.toList.length = 19 := by decide
    omega
  have hclose : Json.readMembers (readMember (k + 3)) (k + 1) false
      ⟨some s.apiUrl, some s.hideAfter⟩ (Json.breakTo 0 ++ ['}']) =
        .ok (⟨some s.apiUrl, some s.hideAfter⟩, []) :=
    Json.readMembers_close (Json.blanks_breakTo 0)
  have hend : EndsNumber (Json.breakTo 0 ++ ['}']) :=
    (Json.blanks_breakTo 0).endsNumber (by rintro c ⟨⟩; decide)
  have hmembers : Json.readMembers (readMember (k + 3)) (k + 3) true ⟨none, none⟩
      (Json.breakTo 1 ++ '"' :: (apiUrlName.toList.flatMap Quoted.encodeChar ++
        '"' :: s.urlTail)) = .ok (⟨some s.apiUrl, some s.hideAfter⟩, []) := by
    rw [Json.readMembers_first (begins_breakTo ..), skipBlanks_breakTo, Json.next_name hname.1,
      urlTail, readMember_apiUrl rfl hurl, Reading.andThen,
      Json.readMembers_comma (begins_breakTo ..), skipBlanks_breakTo, Json.next_name hname.2,
      timeTail, readMember_hideAfter rfl hend, Reading.andThen, hclose]
  rw [parse, hk, toList_text, readFront, Json.skipBlanks_cons rfl]
  simp only [hmembers]
  cases s
  rfl

/-- **A file with the text of settings holds these settings.** -/
theorem ofFile_text (path : String) (s : Settings) :
    ofFile path (some (Text.utf8 s.text.toList)) = (s, []) := by
  rw [ofFile, Option.bind_some, Text.Utf8.decode?_utf8]
  simp only [parse_text]

end Settings
end ClusterConsole
