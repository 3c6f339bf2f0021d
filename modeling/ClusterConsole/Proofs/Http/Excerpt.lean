import ClusterConsole.Http.Exchange
import ClusterConsole.Proofs.Text.Cut
import ClusterConsole.Proofs.Text.Printable

/-!
# What the log shows of a response is one line, and not too long

A body is written by the server, and the log is read by people and by programs line by line.  So
nothing of a body may end a line or look like one of its own.

The text that takes the place of the rest of a long body goes through the same filter as the body,
and passes it unchanged (`printed_excerptMark`).  Hence both kinds of bodies come to the same: the
beginning without the characters that do not print, and behind it, if the body was long, how many
bytes it had.  `printable_responseEntry` carries this over to the whole entry of the log, and
`excerpted` is the main result.
-/

set_option autoImplicit false

namespace ClusterConsole
namespace Http

open Text (Printable printable_iff printable_of_all printable_of_mem_toString)

/-- A text without the characters that do not print. -/
def printed (s : List Char) : List Char := s.filter fun c ↦ Printable c

theorem isLoggable_iff {c : Char} : isLoggable c = true ↔ Printable c := by
  rw [isLoggable, Bool.and_eq_true, decide_eq_true_iff, decide_eq_true_iff, printable_iff]
  omega

theorem filter_isLoggable (s : List Char) : s.filter isLoggable = printed s := by
  refine List.filter_congr fun c _ ↦ ?_
  rw [Bool.eq_iff_iff, isLoggable_iff, decide_eq_true_iff]

/-! ## Both kinds of bodies -/

/-- What takes the place of the rest of a long body passes the filter. -/
theorem printable_of_mem_excerptMark {n : Nat} {c : Char} (h : c ∈ (excerptMark n).toList) :
    Printable c := by
  have hfirst := printable_of_all (s := "... [truncated, ") (by decide)
  have hlast := printable_of_all (s := " bytes total]") (by decide)
  unfold excerptMark at h
  simp only [String.toList_append, List.mem_append] at h
  rcases h with (h | h) | h
  · exact hfirst c h
  · exact printable_of_mem_toString h
  · exact hlast c h

theorem printed_excerptMark (n : Nat) : printed (excerptMark n).toList = (excerptMark n).toList :=
  List.filter_eq_self.2 fun _ hc ↦ decide_eq_true (printable_of_mem_excerptMark hc)

theorem excerpt_of_le {body : String} (h : body.length ≤ 200) :
    excerpt body = String.ofList (printed body.toList) := by
  rw [← String.length_toList, ← Nat.not_lt, ← excerptLength] at h
  rw [excerpt, if_neg h, filter_isLoggable]

theorem excerpt_of_lt {body : String} (h : 200 < body.length) :
    excerpt body =
      String.ofList (printed (body.toList.take 200)) ++ excerptMark body.utf8ByteSize := by
  have hsize : Text.byteCount body.toList = body.utf8ByteSize := by
    rw [Text.byteCount_eq_utf8Len, ← String.utf8ByteSize_ofList, String.ofList_toList]
  rw [← String.length_toList, ← excerptLength] at h
  rw [excerpt, if_pos h, filter_isLoggable, hsize]
  refine String.toList_injective ?_
  rw [String.toList_append, String.toList_ofList, String.toList_ofList, printed,
    List.filter_append]
  exact congrArg (_ ++ ·) (printed_excerptMark _)

theorem printable_of_mem_printed {s : List Char} {c : Char} (h : c ∈ printed s) : Printable c :=
  of_decide_eq_true (List.mem_filter.1 h).2

theorem printable_excerpt (body : String) : ∀ c ∈ (excerpt body).toList, Printable c := by
  intro c hc
  rcases Nat.lt_or_ge 200 body.length with hlong | hshort
  · rw [excerpt_of_lt hlong, String.toList_append, String.toList_ofList, List.mem_append] at hc
    exact hc.elim printable_of_mem_printed printable_of_mem_excerptMark
  · rw [excerpt_of_le hshort, String.toList_ofList] at hc
    exact printable_of_mem_printed hc

/-- What was filtered once passes the filter again, and is no longer than before. -/
theorem excerpt_excerpt {body : String} (h : body.length ≤ 200) :
    excerpt (excerpt body) = excerpt body := by
  have hlength : (excerpt body).length ≤ 200 := by
    rw [excerpt_of_le h, String.length_ofList]
    exact Nat.le_trans (List.length_filter_le _ _) h
  rw [excerpt_of_le hlength, excerpt_of_le h, String.toList_ofList, printed, printed,
    List.filter_filter]
  simp only [Bool.and_self]

/-! ## Entries of the log -/

theorem printable_reason {status : Nat} {text : String} (h : reason? status = some text) :
    ∀ c ∈ text.toList, Printable c := by
  refine printable_of_all ?_
  unfold reason? at h
  split at h
  all_goals cases h
  all_goals decide

theorem printable_statusText (status : Nat) : ∀ c ∈ (statusText status).toList, Printable c := by
  intro c hc
  simp only [statusText, String.toList_append, List.mem_append] at hc
  rcases hc with (hc | hc) | hc
  · exact printable_of_mem_toString hc
  · rw [show c = ' ' by simpa using hc]
    exact .inl rfl
  · cases hreason : reason? status with
    | none =>
      rw [hreason] at hc
      exact printable_of_all (s := "<unknown status code>") (by decide) c hc
    | some text =>
      rw [hreason] at hc
      exact printable_reason hreason c hc

/-- Every entry about a response is one line. -/
theorem printable_responseEntry (r : Response) :
    ∀ c ∈ (responseEntry r).text.toList, Printable c := by
  intro c hc
  rw [responseEntry] at hc
  split at hc
  · simp only [String.toList_append, List.mem_append] at hc
    rcases hc with ((((hc | hc) | hc) | hc) | hc) | hc
    · exact printable_of_all (s := Log.requestMark) (by decide) c hc
    · exact printable_of_all (s := " ") (by decide) c hc
    · exact printable_statusText _ c hc
    · exact printable_of_all (s := " (") (by decide) c hc
    · exact printable_of_mem_toString hc
    · exact printable_of_all (s := " bytes)") (by decide) c hc
  · simp only [String.toList_append, List.mem_append] at hc
    rcases hc with (((hc | hc) | hc) | hc) | hc
    · exact printable_of_all (s := Log.requestMark) (by decide) c hc
    · exact printable_of_all (s := " API error: ") (by decide) c hc
    · exact printable_statusText _ c hc
    · exact printable_of_all (s := " - ") (by decide) c hc
    · exact printable_excerpt _ c hc

/-! ## The result -/

/-- What can be said of the excerpt of a body. -/
structure Excerpted (body : String) : Prop where
  /-- Nothing of it ends a line or moves the cursor. -/
  printable : ∀ c ∈ (excerpt body).toList, Printable c
  /-- Of a short body all that prints is kept, in order. -/
  short : body.length ≤ 200 → excerpt body = String.ofList (printed body.toList)
  /-- Of a long body only the beginning counts: what prints of it stands before the number of bytes
  of the whole, so that there are no more than 200 characters before the mark. -/
  long : 200 < body.length → ∃ shown : String,
    shown.toList = printed (body.toList.take 200) ∧ shown.length ≤ 200 ∧
      excerpt body =
        shown ++ ("... [truncated, " ++ toString body.utf8ByteSize ++ " bytes total]")
  /-- Two long bodies with the same beginning and as many bytes cannot be told apart. -/
  congr : ∀ other : String, 200 < body.length → 200 < other.length →
    body.toList.take 200 = other.toList.take 200 → body.utf8ByteSize = other.utf8ByteSize →
      excerpt body = excerpt other
  /-- What was taken of a short body is taken whole. -/
  idem : body.length ≤ 200 → excerpt (excerpt body) = excerpt body
  /-- The entry about a refusal ends with the excerpt, and no entry about a response with this body
  has anything in it that does not print. -/
  entry : ∀ r : Response, r.body = body →
    (isSuccess r.status = false → (responseEntry r).text =
        "[ID] API error: " ++ statusText r.status ++ " - " ++ excerpt body) ∧
      ∀ c ∈ (responseEntry r).text.toList, Printable c

/-- **What the log shows of a body is one line: its beginning without the characters that do not
print, and how many bytes it had if that is not all of it.** -/
theorem excerpted (body : String) : Excerpted body where
  printable := printable_excerpt body
  short := excerpt_of_le
  long h := by
    refine ⟨String.ofList (printed (body.toList.take 200)), String.toList_ofList, ?_,
      excerpt_of_lt h⟩
    rw [String.length_ofList]
    exact Nat.le_trans (List.length_filter_le _ _) (List.length_take_le _ _)
  congr other h h' hbeginning hbytes := by
    rw [excerpt_of_lt h, excerpt_of_lt h', hbeginning, hbytes]
  idem := excerpt_excerpt
  entry r hbody := by
    refine ⟨fun hrefused ↦ ?_, printable_responseEntry r⟩
    rw [responseEntry, if_neg (by rw [hrefused]; decide), hbody]
    rfl

/-- Line feeds, tabs and letters beyond ASCII are left out. -/
example : excerpt "a\nb\tc \u00e9d" = "abc d" := by decide

end Http
end ClusterConsole
