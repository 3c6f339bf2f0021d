import ClusterConsole.Proofs.Text.Cut
import ClusterConsole.Proofs.Url.Authority
import ClusterConsole.Proofs.Url.Path
import ClusterConsole.Url

/-!
# URLs of the web

A text that is read as a URL of the web has four parts after the blanks around it are dropped: the
scheme, the slashes after its colon, the authority, which is never empty, and the rest.  `WebText`
holds the parts with what is known about them, and `WebText.Reads` says that a text has them and
that its authority can be read, so that it is a URL (`WebText.Reads.parse_eq`).  There is no other
way to read a URL of the web (`exists_reads`).

What is appended to such a text after a slash is appended to the rest (`WebText.Reads.append`): it
belongs to the path if the rest has no query and no fragment (`WebText.isPath_iff`).  Slashes that
are dropped from the end are dropped from the rest as well, and the scheme and the authority stay as
they are (`WebText.Reads.of_append`).
-/

set_option autoImplicit false

namespace ClusterConsole
namespace Url

/-! ## What counts in a text -/

/-- A text without blanks and controls at its front, and without line breaks. -/
def front (s : List Char) : List Char := (s.dropWhile isTrimmed).filter (!isSkipped ·)

/-- The last character of a text that is neither a tab nor part of a line break. -/
def last? (s : List Char) : Option Char := (s.filter (!isSkipped ·)).getLast?

/-- The text ends in a character that counts, but for tabs and line breaks. -/
def EndsVisibly (s : List Char) : Prop := ∃ c ∈ last? s, isTrimmed c = false

theorem isSkipped_of_not_trimmed {c : Char} (h : isTrimmed c = false) : isSkipped c = false := by
  refine Bool.eq_false_iff.2 fun hc ↦ ?_
  simp only [isSkipped, Bool.or_eq_true, beq_iff_eq] at hc
  rcases hc with (rfl | rfl) | rfl <;> exact absurd h (by decide)

theorem isTrimmed_of_isSkipped {c : Char} (h : isSkipped c = true) : isTrimmed c = true := by
  by_contra hc
  rw [isSkipped_of_not_trimmed (Bool.eq_false_iff.2 hc)] at h
  cases h

theorem front_concat (s : List Char) {c : Char} (h : isTrimmed c = false) :
    front (s ++ [c]) = front s ++ [c] := by
  have hfilter : [c].filter (!isSkipped ·) = [c] := by simp [isSkipped_of_not_trimmed h]
  rw [front, front, List.dropWhile_append]
  split
  · next hnil =>
    rw [List.isEmpty_iff.1 hnil, List.dropWhile_cons_of_neg (by simp [h]), hfilter]
    rfl
  · rw [List.filter_append, hfilter]

theorem last?_concat (s : List Char) {c : Char} (h : isTrimmed c = false) :
    last? (s ++ [c]) = some c := by
  rw [last?, List.filter_append, List.filter_cons_of_pos (by simp [isSkipped_of_not_trimmed h]),
    List.filter_nil, List.getLast?_concat]

/-- Blanks and controls at the end do not count. -/
theorem relevant_append_trimmed (s : List Char) {t : List Char}
    (ht : ∀ c ∈ t, isTrimmed c = true) : relevant (s ++ t) = relevant s := by
  have hreversed : ∀ c ∈ t.reverse, isTrimmed c = true := fun c hc ↦ ht c (List.mem_reverse.1 hc)
  have hnil : t.dropWhile isTrimmed = [] := List.dropWhile_eq_nil_iff.2 ht
  rw [relevant, relevant, List.dropWhile_append]
  split
  · next hempty => rw [hnil, List.isEmpty_iff.1 hempty]
  · rw [List.reverse_append, List.dropWhile_append_of_pos hreversed]

theorem front_append_skipped (s : List Char) {t : List Char}
    (ht : ∀ c ∈ t, isSkipped c = true) : front (s ++ t) = front s := by
  have hnil : t.dropWhile isTrimmed = [] :=
    List.dropWhile_eq_nil_iff.2 fun c hc ↦ isTrimmed_of_isSkipped (ht c hc)
  have hfilter : t.filter (!isSkipped ·) = [] := List.filter_eq_nil_iff.2 (by simpa using ht)
  rw [front, front, List.dropWhile_append]
  split
  · next hempty => rw [hnil, List.isEmpty_iff.1 hempty]
  · rw [List.filter_append, hfilter, List.append_nil]

theorem relevant_concat (s : List Char) {c : Char} (h : isTrimmed c = false) :
    relevant (s ++ [c]) = front (s ++ [c]) := by
  have hlast : ∃ t, (s ++ [c]).dropWhile isTrimmed = t ++ [c] := by
    rw [List.dropWhile_append]
    split
    · exact ⟨[], by rw [List.dropWhile_cons_of_neg (by simp [h]), List.nil_append]⟩
    · exact ⟨_, rfl⟩
  obtain ⟨t, ht⟩ := hlast
  rw [relevant, front, ht, List.reverse_concat, List.dropWhile_cons_of_neg (by simp [h]),
    ← List.reverse_concat, List.reverse_reverse]

/-- What follows the last character that counts is skipped. -/
theorem EndsVisibly.exists_eq {s : List Char} (h : EndsVisibly s) :
    ∃ init c tail, s = init ++ [c] ++ tail ∧ last? s = some c ∧ isTrimmed c = false ∧
      ∀ d ∈ tail, isSkipped d = true := by
  obtain ⟨c, hc, htrimmed⟩ := h
  obtain ⟨kept, hkept⟩ := List.getLast?_eq_some_iff.1 hc
  obtain ⟨first, second, rfl, -, hsecond⟩ := List.filter_eq_append_iff.1 hkept
  obtain ⟨skipped, tail, rfl, -, -, htail⟩ := List.filter_eq_cons_iff.1 hsecond
  refine ⟨first ++ skipped, c, tail, by simp, hc, htrimmed, fun d hd ↦ ?_⟩
  simpa using List.filter_eq_nil_iff.1 htail d hd

theorem relevant_eq_front {s : List Char} (h : EndsVisibly s) : relevant s = front s := by
  obtain ⟨init, c, tail, rfl, -, htrimmed, htail⟩ := h.exists_eq
  rw [relevant_append_trimmed _ fun d hd ↦ isTrimmed_of_isSkipped (htail d hd),
    relevant_concat init htrimmed, front_append_skipped _ htail]

/-- What does not count at the end is blanks and controls. -/
theorem exists_front_eq (s : List Char) :
    ∃ t, front s = relevant s ++ t ∧ ∀ c ∈ t, isTrimmed c = true := by
  let kept := s.dropWhile isTrimmed
  have hsplit : kept = (kept.reverse.dropWhile isTrimmed).reverse ++
      (kept.reverse.takeWhile isTrimmed).reverse := by
    rw [← List.reverse_append, List.takeWhile_append_dropWhile, List.reverse_reverse]
  refine ⟨(kept.reverse.takeWhile isTrimmed).reverse.filter (!isSkipped ·), ?_, fun c hc ↦ ?_⟩
  · exact (congrArg (List.filter (!isSkipped ·)) hsplit).trans (List.filter_append ..)
  · exact List.all_eq_true.1 List.all_takeWhile c
      (List.mem_reverse.1 (List.mem_of_mem_filter hc))

theorem front_append {t : List Char} (ht : ∀ c ∈ t, isTrimmed c = false) :
    ∀ s, front (s ++ t) = front s ++ t := by
  induction t with
  | nil => simp
  | cons c rest ih =>
    intro s
    rw [List.append_cons, ih (fun d hd ↦ ht d (List.mem_cons_of_mem c hd)),
      front_concat s (ht c (List.mem_cons_self ..)), List.append_assoc]
    rfl

theorem EndsVisibly.append {s t : List Char} (h : EndsVisibly s)
    (ht : ∀ c ∈ t, isTrimmed c = false) : EndsVisibly (s ++ t) := by
  rcases List.eq_nil_or_concat' t with rfl | ⟨init, c, rfl⟩
  · rwa [List.append_nil]
  · have hc : isTrimmed c = false := ht c (by simp)
    refine ⟨c, ?_, hc⟩
    rw [← List.append_assoc, last?_concat _ hc]
    rfl

/-- What is appended to a text counts, if none of it is a blank or a control. -/
theorem relevant_append {s t : List Char} (h : EndsVisibly s)
    (ht : ∀ c ∈ t, isTrimmed c = false) : relevant (s ++ t) = relevant s ++ t := by
  rw [relevant_eq_front (h.append ht), front_append ht, relevant_eq_front h]

theorem getLast?_relevant {s : List Char} (h : EndsVisibly s) :
    (relevant s).getLast? = last? s := by
  rw [relevant_eq_front h]
  obtain ⟨init, c, tail, rfl, hlast, htrimmed, htail⟩ := h.exists_eq
  rw [front_append_skipped _ htail, front_concat init htrimmed, List.getLast?_concat, hlast]

theorem relevant_subset (s : List Char) : relevant s ⊆ s := by
  intro c hc
  have hreversed := List.mem_reverse.1 (List.mem_of_mem_filter hc)
  exact List.dropWhile_subset _ (List.mem_reverse.1 (List.dropWhile_subset _ hreversed))

/-- A character that is no blank and no control counts. -/
theorem mem_relevant_iff {s : List Char} (h : EndsVisibly s) {c : Char}
    (hc : isTrimmed c = false) : c ∈ relevant s ↔ c ∈ s := by
  rw [relevant_eq_front h, front, List.mem_filter]
  constructor
  · exact fun hmem ↦ List.dropWhile_subset _ hmem.1
  · intro hmem
    refine ⟨?_, by simp [isSkipped_of_not_trimmed hc]⟩
    rw [← List.takeWhile_append_dropWhile (p := isTrimmed) (l := s), List.mem_append] at hmem
    refine hmem.resolve_left fun htake ↦ ?_
    have htrimmed : isTrimmed c = true := List.all_eq_true.1 List.all_takeWhile c htake
    rw [hc] at htrimmed
    cases htrimmed

/-! ## Taking a text apart -/

open Text (takeWhile_append_eq dropWhile_append_eq not_of_mem_head?_dropWhile)

/-- A scheme is a letter and what can follow it up to the first colon. -/
theorem splitScheme?_eq_some_iff {s scheme after : List Char} :
    splitScheme? s = some (scheme, after) ↔
      ∃ name, s = name ++ ':' :: after ∧ (∀ c ∈ name, isSchemeChar c = true) ∧
        (∃ c ∈ name.head?, c.isAlpha = true) ∧ name.map Char.toLower = scheme := by
  constructor
  · intro h
    have hsplit := List.takeWhile_append_dropWhile (p := isSchemeChar) (l := s)
    have hdrop : s.drop (s.takeWhile isSchemeChar).length = s.dropWhile isSchemeChar := by
      calc s.drop (s.takeWhile isSchemeChar).length
          = (s.takeWhile isSchemeChar ++ s.dropWhile isSchemeChar).drop
              (s.takeWhile isSchemeChar).length := by rw [hsplit]
        _ = s.dropWhile isSchemeChar := List.drop_left
    rw [splitScheme?, hdrop] at h
    split at h
    · next c rest after' hname hafter =>
      split at h
      · next halpha =>
        cases h
        refine ⟨s.takeWhile isSchemeChar, hafter ▸ hsplit.symm,
          List.all_eq_true.1 List.all_takeWhile, ⟨c, ?_, halpha⟩, rfl⟩
        rw [hname]
        rfl
      · cases h
    · cases h
  · rintro ⟨name, rfl, hname, ⟨c, hc, halpha⟩, rfl⟩
    have htake : (name ++ ':' :: after).takeWhile isSchemeChar = name :=
      takeWhile_append_eq hname (by simp; decide)
    obtain ⟨rest, rfl⟩ := List.head?_eq_some_iff.1 hc
    rw [splitScheme?, htake, List.drop_left]
    simp only [halpha, if_true]

/-- The parts of a text that counts, when it is read as a URL of the web. -/
structure WebText where
  name : List Char
  slashes : List Char
  authority : List Char
  rest : List Char
  name_chars : ∀ c ∈ name, isSchemeChar c = true
  name_head : ∃ c ∈ name.head?, c.isAlpha = true
  slashes_chars : ∀ c ∈ slashes, isSlash true c = true
  authority_ne_nil : authority ≠ []
  authority_chars : ∀ c ∈ authority, endsAuthority true c = false
  rest_head : ∀ c ∈ rest.head?, endsAuthority true c = true

namespace WebText

variable {w : WebText} {s : List Char} {a : Authority}

/-- The parts put together. -/
def text (w : WebText) : List Char := w.name ++ ':' :: (w.slashes ++ (w.authority ++ w.rest))

/-- The scheme, in small letters. -/
def scheme (w : WebText) : List Char := w.name.map Char.toLower

/-- The URL with an authority that has been read. -/
def url (w : WebText) (a : Authority) : Url :=
  assemble true w.scheme (some a) (.segments (readSegments true w.rest)) w.rest

/-- What counts in the text `s` are these parts, and its authority is read as `a`. -/
structure Reads (w : WebText) (s : List Char) (a : Authority) : Prop where
  relevant_eq : relevant s = w.text
  authority_eq : ∃ usual, Authority.defaultPort? w.scheme = some usual ∧
    Authority.parse usual w.authority = .ok a

/-- A text with these parts can be read if its authority can. -/
theorem parse_of_relevant_eq {usual : Nat} (h : relevant s = w.text)
    (hport : Authority.defaultPort? w.scheme = some usual) :
    parse s = (Authority.parse usual w.authority).map w.url := by
  have hscheme : splitScheme? w.text =
      some (w.scheme, w.slashes ++ (w.authority ++ w.rest)) :=
    splitScheme?_eq_some_iff.2 ⟨w.name, rfl, w.name_chars, w.name_head, rfl⟩
  have hslashes : (w.slashes ++ (w.authority ++ w.rest)).dropWhile (isSlash true) =
      w.authority ++ w.rest := by
    refine dropWhile_append_eq w.slashes_chars fun c hc ↦ ?_
    rw [List.head?_append_of_ne_nil _ w.authority_ne_nil] at hc
    have hends := w.authority_chars c (List.mem_of_mem_head? hc)
    simp only [endsAuthority, Bool.or_eq_false_iff] at hends
    exact hends.1.1
  have hauthority_chars : ∀ c ∈ w.authority, (!endsAuthority true c) = true :=
    fun c hc ↦ by simp [w.authority_chars c hc]
  have hrest_head : ∀ c ∈ w.rest.head?, (!endsAuthority true c) = false :=
    fun c hc ↦ by simp [w.rest_head c hc]
  rw [parse, h, hscheme]
  simp only [hport]
  rw [parseSpecial, hslashes]
  simp only [takeWhile_append_eq hauthority_chars hrest_head,
    dropWhile_append_eq hauthority_chars hrest_head]
  cases Authority.parse usual w.authority with
  | error fault => rfl
  | ok a => rfl

theorem Reads.parse_eq (h : w.Reads s a) : parse s = .ok (w.url a) := by
  obtain ⟨usual, hport, hauthority⟩ := h.authority_eq
  rw [parse_of_relevant_eq h.relevant_eq hport, hauthority]
  rfl

end WebText

/-- An authority is not empty. -/
theorem Authority.ne_nil_of_parse {usual : Nat} {s : List Char} {a : Authority}
    (h : parse usual s = .ok a) : s ≠ [] := by
  rintro rfl
  cases h

theorem scheme_parseFile {scheme s : List Char} {url : Url} (h : parseFile scheme s = .ok url) :
    url.scheme = scheme := by
  have hwithHost : ∀ {authority rest}, Except.ok (parseFile.withHost scheme authority rest) =
      Except.ok (ε := Fault) url → url.scheme = scheme := by
    rintro authority rest ⟨⟩
    rfl
  rw [parseFile.eq_def] at h
  split at h
  · split at h
    · simp only at h
      split at h
      · exact hwithHost h
      · split at h
        · cases h
        · exact hwithHost h
        · exact hwithHost h
    · exact hwithHost h
  · exact hwithHost h

theorem scheme_parsePlain {scheme s : List Char} {url : Url} (h : parsePlain scheme s = .ok url) :
    url.scheme = scheme := by
  rw [parsePlain.eq_def] at h
  split at h
  · simp only at h
    split at h
    · cases h
    · cases h
      rfl
  · cases h
    rfl
  · cases h
    rfl

/-- The schemes of the web have a port of their own. -/
theorem defaultPort?_of_isWeb {url : Url} (h : url.isWeb = true) :
    (Authority.defaultPort? url.scheme).isSome = true := by
  rw [isWeb, Bool.or_eq_true, beq_iff_eq, beq_iff_eq] at h
  rcases h with h | h
  all_goals
    rw [h]
    rfl

/-- **A URL of the web is always read in this way.** -/
theorem exists_reads {s : List Char} {url : Url} (h : parse s = .ok url)
    (hweb : url.isWeb = true) : ∃ w a, WebText.Reads w s a ∧ url = w.url a := by
  rw [parse] at h
  split at h
  · cases h
  next scheme after hscheme =>
  obtain ⟨name, htext, hchars, hhead, rfl⟩ := splitScheme?_eq_some_iff.1 hscheme
  split at h
  · next usual hport =>
    rw [parseSpecial] at h
    split at h
    · cases h
    next a hauthority =>
    let place := after.dropWhile (isSlash true)
    let w : WebText :=
      { name := name
        slashes := after.takeWhile (isSlash true)
        authority := place.takeWhile (!endsAuthority true ·)
        rest := place.dropWhile (!endsAuthority true ·)
        name_chars := hchars
        name_head := hhead
        slashes_chars := List.all_eq_true.1 List.all_takeWhile
        authority_ne_nil := Authority.ne_nil_of_parse hauthority
        authority_chars := fun c hc ↦ by
          simpa using List.all_eq_true.1 (List.all_takeWhile (l := place)) c hc
        rest_head := fun c hc ↦ by simpa using not_of_mem_head?_dropWhile hc }
    refine ⟨w, a, ⟨?_, usual, hport, hauthority⟩, (Except.ok.inj h).symm⟩
    rw [htext, WebText.text, List.takeWhile_append_dropWhile, List.takeWhile_append_dropWhile]
  · next hport =>
    have hscheme : url.scheme = name.map Char.toLower := by
      split at h
      · exact scheme_parseFile h
      · exact scheme_parsePlain h
    have hsome := defaultPort?_of_isWeb hweb
    rw [hscheme, hport] at hsome
    cases hsome

/-! ## Appending -/

/-- A character that is kept in a path counts. -/
theorem Path.KeptChar.isTrimmed {c : Char} (h : Path.KeptChar c) : isTrimmed c = false := by
  rcases h with hplain | hmem
  · have hlow := (Text.Percent.range_of_isUnreserved hplain).1
    simp only [Url.isTrimmed, decide_eq_false_iff_not]
    omega
  · simpa using List.all_eq_true.1 (show ['/', '%'].all (!Url.isTrimmed ·) = true by decide) c hmem

/-- It does not end the path, and is no slash in disguise. -/
theorem Path.KeptChar.ne {c d : Char} (h : Path.KeptChar c) (hd : d ∈ ['?', '#', '\\']) :
    c ≠ d := by
  have hreserved : ['?', '#', '\\'].all
      (fun d ↦ !Text.Percent.isUnreserved d && d ∉ ['/', '%']) = true := by decide
  have hd := List.all_eq_true.1 hreserved d hd
  rintro rfl
  rcases h with hplain | hmem
  · simp [hplain] at hd
  · simp [hmem] at hd

theorem Path.KeptChar.endsPath_eq {c : Char} (h : Path.KeptChar c) : endsPath c = false := by
  simp [endsPath, h.ne]

theorem Path.map_slash {t : List Char} (h : ∀ c ∈ t, Path.KeptChar c) :
    ('/' :: t).map (fun c ↦ if isSlash true c then '/' else c) = '/' :: t := by
  refine (List.map_congr_left fun c hc ↦ ?_).trans (List.map_id _)
  rcases List.mem_cons.1 hc with rfl | hc
  · rfl
  · by_cases hslash : c = '/'
    · rw [hslash]
      rfl
    · simp [isSlash, hslash, (h c hc).ne]

theorem Path.Kept.readSegments_eq {t : List Char} (h : Path.Kept t) :
    readSegments true ('/' :: t) = Path.segments t := by
  have htake : ('/' :: t).takeWhile (!endsPath ·) = '/' :: t := by
    refine List.takeWhile_eq_self_iff.2 (List.forall_mem_cons.2 ⟨rfl, fun c hc ↦ ?_⟩)
    simp [(h.chars c hc).endsPath_eq]
  rw [readSegments, htake, map_slash h.chars]
  rfl

namespace WebText

variable {w : WebText} {s t : List Char} {a : Authority}

/-- The parts with more behind them, after a slash. -/
def append (w : WebText) (t : List Char) : WebText :=
  { w with
    rest := w.rest ++ '/' :: t
    rest_head := by
      intro c hc
      cases hrest : w.rest with
      | nil =>
        rw [hrest] at hc
        cases hc
        rfl
      | cons d more =>
        rw [hrest] at hc
        exact w.rest_head c (hrest ▸ hc) }

theorem text_append (w : WebText) (t : List Char) : (w.append t).text = w.text ++ '/' :: t := by
  simp [text, append]

theorem Reads.append (h : w.Reads s a) (hs : EndsVisibly s) (ht : ∀ c ∈ t, Path.KeptChar c) :
    (w.append t).Reads (s ++ '/' :: t) a where
  relevant_eq := by
    have hall : ∀ c ∈ '/' :: t, isTrimmed c = false := 
      List.forall_mem_cons.2 ⟨by decide, fun c hc ↦ (ht c hc).isTrimmed⟩
    rw [relevant_append hs hall, h.relevant_eq, text_append]
  authority_eq := h.authority_eq

/-- What stands at the end belongs to the rest, if an authority cannot end in it. -/
theorem exists_rest (h : w.text = s ++ t) (hlast : ∀ c ∈ w.authority.getLast?, c ∉ t) :
    ∃ more, s = w.name ++ ':' :: (w.slashes ++ w.authority) ++ more ∧ w.rest = more ++ t := by
  have heq : w.name ++ ':' :: (w.slashes ++ w.authority) ++ w.rest = s ++ t := by
    rw [← h, text]
    simp
  rcases List.append_eq_append_iff.1 heq with ⟨more, hs, hrest⟩ | ⟨more, hs, ht⟩
  · exact ⟨more, hs, hrest⟩
  · rcases List.eq_nil_or_concat' more with rfl | ⟨init, c, rfl⟩
    · exact ⟨[], by simpa using hs.symm, ht.symm⟩
    · -- the last character of the authority would be at the end
      have hauthority : w.authority.getLast? = some c := by
        have hwhole := congrArg List.getLast? hs
        rw [← List.append_assoc, List.getLast?_concat, List.getLast?_append, List.getLast?_cons,
          List.getLast?_append, List.getLast?_eq_some_getLast w.authority_ne_nil] at hwhole
        rw [List.getLast?_eq_some_getLast w.authority_ne_nil]
        exact hwhole
      exact absurd (by simp [ht]) (hlast c hauthority)

/-- A text has its parts without slashes at its end as well.  Without them there may be blanks and
controls at its end that do not count any more; these belong to the rest, as the slashes do. -/
theorem Reads.of_append {n : Nat} (h : w.Reads (s ++ List.replicate n '/') a) :
    ∃ w' : WebText, w'.Reads s a ∧ w'.scheme = w.scheme := by
  cases n with
  | zero => exact ⟨w, by simpa using h, rfl⟩
  | succ n =>
    obtain ⟨t, hfront, ht⟩ := exists_front_eq s
    have hslash : ∀ c ∈ List.replicate (n + 1) '/', c = '/' := fun c ↦ List.eq_of_mem_replicate
    have hends : EndsVisibly (s ++ List.replicate (n + 1) '/') := by
      refine ⟨'/', ?_, rfl⟩
      rw [List.replicate_succ', ← List.append_assoc, last?_concat _ rfl]
      rfl
    have htext : w.text = relevant s ++ (t ++ List.replicate (n + 1) '/') := by
      rw [← h.relevant_eq, relevant_eq_front hends,
        front_append (fun c hc ↦ by rw [hslash c hc]; rfl), hfront, List.append_assoc]
    have hlast : ∀ c ∈ w.authority.getLast?, c ∉ t ++ List.replicate (n + 1) '/' := by
      obtain ⟨usual, -, hauthority⟩ := h.authority_eq
      intro c hc hmem
      rcases List.mem_append.1 hmem with hmem | hmem
      · have hnot := Authority.not_trimmed_of_parse hauthority hc
        rw [ht c hmem] at hnot
        cases hnot
      · have hchar := w.authority_chars c (List.mem_of_getLast? hc)
        rw [hslash c hmem] at hchar
        cases hchar
    obtain ⟨more, hmore, hrest⟩ := exists_rest htext hlast
    have hhead : ∀ c ∈ more.head?, endsAuthority true c = true := by
      intro c hc
      refine w.rest_head c ?_
      rw [hrest, List.head?_append_of_ne_nil _ (fun hnil ↦ by simp [hnil] at hc)]
      exact hc
    refine ⟨{ w with rest := more, rest_head := hhead }, ⟨?_, h.authority_eq⟩, rfl⟩
    rw [hmore, text]
    simp

/-! ## The path, and what comes after it -/

/-- The rest is a path, without query and fragment. -/
def IsPath (w : WebText) : Prop := ∀ c ∈ w.rest, endsPath c = false

theorem isPath_iff (w : WebText) (a : Authority) :
    w.IsPath ↔ (w.url a).query = none ∧ (w.url a).fragment = none := by
  change _ ↔ (readEnd true (w.rest.dropWhile (!endsPath ·))).1 = none ∧
    (readEnd true (w.rest.dropWhile (!endsPath ·))).2 = none
  cases hend : w.rest.dropWhile (!endsPath ·) with
  | nil =>
    refine iff_of_true (fun c hc ↦ ?_) ⟨rfl, rfl⟩
    simpa using List.dropWhile_eq_nil_iff.1 hend c hc
  | cons c more =>
    have hmark : endsPath c = true := by
      simpa using not_of_mem_head?_dropWhile (p := (!endsPath ·)) (s := w.rest) (by rw [hend]; rfl)
    have hmem : c ∈ w.rest := List.dropWhile_subset _ (hend ▸ List.mem_cons_self ..)
    refine iff_of_false (fun hpath ↦ ?_) ?_
    · rw [hpath c hmem] at hmark
      cases hmark
    · rw [endsPath, Bool.or_eq_true, beq_iff_eq, beq_iff_eq] at hmark
      rcases hmark with rfl | rfl
      · exact fun hnone ↦ by cases hnone.1
      · exact fun hnone ↦ by cases hnone.2

/-- The path without the slash at its front. -/
def path (w : WebText) : List Char :=
  (w.rest.map fun c ↦ if isSlash true c then '/' else c).drop 1

/-- A path begins with a slash, if there is one. -/
theorem isSlash_of_isPath (h : w.IsPath) {c : Char} (hc : c ∈ w.rest.head?) :
    isSlash true c = true := by
  have hends := w.rest_head c hc
  have hpath := h c (List.mem_of_mem_head? hc)
  rw [endsPath, Bool.or_eq_false_iff] at hpath
  simpa [endsAuthority, hpath.1, hpath.2] using hends

theorem readSegments_eq (h : w.IsPath) : readSegments true w.rest = Path.segments w.path := by
  have htake : w.rest.takeWhile (!endsPath ·) = w.rest :=
    List.takeWhile_eq_self_iff.2 fun c hc ↦ by simp [h c hc]
  rw [readSegments, htake, path]
  cases hrest : w.rest with
  | nil => rfl
  | cons c more =>
    have hslash : isSlash true c = true := isSlash_of_isPath h (by rw [hrest]; rfl)
    simp [hslash]

/-- Where a path leads that is put behind the rest. -/
def stem (w : WebText) : List Char := if w.rest = [] then [] else Path.stem w.path

theorem isPath_append_iff (ht : ∀ c ∈ t, Path.KeptChar c) : (w.append t).IsPath ↔ w.IsPath := by
  constructor
  · exact fun h c hc ↦ h c (List.mem_append_left _ hc)
  · intro h c hc
    rcases List.mem_append.1 hc with hc | hc
    · exact h c hc
    rcases List.mem_cons.1 hc with rfl | hc
    · rfl
    · exact (ht c hc).endsPath_eq

theorem path_append (ht : ∀ c ∈ t, Path.KeptChar c) :
    (w.append t).path = if w.rest = [] then t else w.path ++ '/' :: t := by
  change ((w.rest ++ '/' :: t).map fun c ↦ if isSlash true c then '/' else c).drop 1 = _
  rw [List.map_append, Path.map_slash ht, path]
  cases w.rest <;> rfl

/-- **What is appended goes on from the stem.** -/
theorem text_path_append (h : w.IsPath) (ht : Path.Kept t) (a : Authority) :
    ((w.append t).url a).path.text = w.stem ++ '/' :: t := by
  change Path.text (readSegments true (w.append t).rest) = _
  rw [readSegments_eq ((isPath_append_iff ht.chars).2 h), path_append ht.chars, stem]
  split
  · exact Path.text_segments_of_kept ht
  · exact Path.text_segments_append w.path ht

/-- The stem is the path, apart from a slash if the last segment of the path is not kept. -/
theorem stem_cases (h : w.IsPath) (a : Authority) :
    ((∃ c ∈ w.rest.getLast?, isSlash true c = true) ∧
      (w.url a).path.text = w.stem ∧ w.stem.getLast? = some '/') ∨
    ((∀ c ∈ w.rest.getLast?, isSlash true c = false) ∧
      ((w.url a).path.text = w.stem ++ ['/'] ∨
        (w.url a).path.text = w.stem ∧ w.stem.getLast? ≠ some '/')) := by
  have htext : (w.url a).path.text = Path.text (Path.segments w.path) :=
    congrArg Path.text (readSegments_eq h)
  rw [htext, stem]
  cases hrest : w.rest with
  | nil =>
    refine .inr ⟨nofun, .inl ?_⟩
    rw [path, hrest]
    rfl
  | cons c more =>
    have hslash : isSlash true c = true := isSlash_of_isPath h (by rw [hrest]; rfl)
    have hpath : '/' :: w.path = w.rest.map fun c ↦ if isSlash true c then '/' else c := by
      simp [path, hrest, hslash]
    have hnorm : ∀ d, (if isSlash true d then '/' else d) = '/' ↔ isSlash true d = true := by
      intro d
      split
      · next hd => exact iff_of_true rfl hd
      · next hd => exact iff_of_false (fun heq ↦ hd (by rw [heq]; rfl)) hd
    have hlast : ('/' :: w.path).getLast? = some '/' ↔
        ∃ d ∈ (c :: more).getLast?, isSlash true d = true := by
      rw [hpath, hrest, List.getLast?_map, Option.map_eq_some_iff]
      exact exists_congr fun d ↦ and_congr_right fun _ ↦ hnorm d
    rw [if_neg (List.cons_ne_nil c more)]
    rcases Path.stem_cases w.path with ⟨hends, hstem⟩ | ⟨hends, hstem⟩
    · exact .inl ⟨hlast.1 hends, hstem⟩
    · exact .inr ⟨fun d hd ↦ Bool.eq_false_iff.2 fun hd' ↦ hends (hlast.2 ⟨d, hd, hd'⟩), hstem⟩

/-! ## The ends of a text -/

/-- A character at the end of the rest is the last of all. -/
theorem getLast?_text {c : Char} (h : c ∈ w.rest.getLast?) : w.text.getLast? = some c := by
  obtain ⟨init, hrest⟩ := List.getLast?_eq_some_iff.1 h
  have htext : w.text = w.name ++ ':' :: (w.slashes ++ (w.authority ++ init)) ++ [c] := by
    rw [text, hrest]
    simp
  rw [htext, List.getLast?_concat]

/-- A slash or backslash at the end of all is at the end of the rest. -/
theorem mem_getLast?_rest {c : Char} (hc : isSlash true c = true)
    (h : w.text.getLast? = some c) : c ∈ w.rest.getLast? := by
  rcases List.eq_nil_or_concat' w.rest with hrest | ⟨init, d, hrest⟩
  · rw [text, hrest, List.append_nil, List.getLast?_append, List.getLast?_cons,
      List.getLast?_append, List.getLast?_eq_some_getLast w.authority_ne_nil] at h
    have hchar := w.authority_chars c (Option.some.inj h ▸ List.getLast_mem w.authority_ne_nil)
    simp [endsAuthority, hc] at hchar
  · have hd : d ∈ w.rest.getLast? := by rw [hrest, List.getLast?_concat]; rfl
    cases (getLast?_text hd).symm.trans h
    exact hd

theorem mem_text_of_mem_rest {c : Char} (h : c ∈ w.rest) : c ∈ w.text := by
  simp [text, h]

/-- A mark that ends a path is in the rest if it is anywhere. -/
theorem mem_rest {c : Char} (hc : endsPath c = true) (h : c ∈ w.text) : c ∈ w.rest := by
  have hmark : isSchemeChar c = false ∧ c ≠ ':' ∧ isSlash true c = false ∧
      endsAuthority true c = true := by
    rw [endsPath, Bool.or_eq_true, beq_iff_eq, beq_iff_eq] at hc
    rcases hc with rfl | rfl <;> decide
  simp only [text, List.mem_append, List.mem_cons] at h
  rcases h with hname | hcolon | hslashes | hauthority | hrest
  · exact absurd (w.name_chars c hname) (by simp [hmark])
  · exact absurd hcolon hmark.2.1
  · exact absurd (w.slashes_chars c hslashes) (by simp [hmark])
  · exact absurd (w.authority_chars c hauthority) (by simp [hmark])
  · exact hrest

end WebText

end Url
end ClusterConsole
