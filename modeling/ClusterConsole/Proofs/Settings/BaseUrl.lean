import ClusterConsole.Proofs.Request
import ClusterConsole.Proofs.Url.Web
import ClusterConsole.Settings.BaseUrl

/-!
# Base URLs and the URLs of calls

A base URL is checked by reading it, but it is kept as a text, and the URL of a call is made by
putting a path behind that text and read anew.  So the path is looked for at the right host always,
but whether it arrives there as a path depends on how the text ends.  `BaseUrl.Fit` lists what can
stand in the way: a query or a fragment, of which the path becomes part; a backslash at the end, or
a slash before a line break, which count as slashes but are not dropped; and a path that leads to
one with two slashes at its end, of which one stays.

`calls_under_base` says that nothing else can, for a text that does not end in a blank or a control
other than tabs and line breaks.
-/

set_option autoImplicit false

namespace ClusterConsole

open Url (EndsVisibly WebText)

/-! ## Slashes at the end -/

theorem trimSlashes_eq_self_iff {s : String} :
    trimSlashes s = s ↔ s.toList.getLast? ≠ some '/' := by
  constructor
  · intro h hlast
    exact (trimmedTo_trimSlashes s).ends_without '/' (by rw [h]; exact hlast) rfl
  · intro h
    have hhead : s.toList.reverse.dropWhile (· == '/') = s.toList.reverse := by
      cases hs : s.toList.reverse with
      | nil => rfl
      | cons c rest =>
        refine List.dropWhile_cons_of_neg fun hc ↦ h ?_
        rw [← List.head?_reverse, hs, ← beq_iff_eq.1 hc]
        rfl
    rw [trimSlashes, hhead, List.reverse_reverse, String.ofList_toList]

theorem trimSlashes_append_slash (s : String) : trimSlashes (s ++ "/") = trimSlashes s := by
  simp [trimSlashes]

/-! ## The path of a call -/

/-- What is asked for at the server by a call. -/
def Call.path : Call → String
  | .create _ | .delete _ | .list => "/clusters"
  | .details ns => "/clusters/" ++ String.ofList (Text.Percent.encode ns.toList)
  | .scale _ _ => "/clusters/scale"
  | .health => "/health"

theorem Api.url_request (api : Api) (call : Call) :
    (api.request call).url = api.base ++ call.path := by
  cases call with
  | details ns => exact String.append_assoc ..
  | _ => rfl

theorem Call.path_details (ns : String) :
    (details ns).path.toList =
      '/' :: ("clusters".toList ++ '/' :: Text.Percent.encode ns.toList) := by
  simp only [path, String.toList_append, String.toList_ofList]
  rfl

theorem keptChar_of_mem_encode {s : List Char} {c : Char} (h : c ∈ Text.Percent.encode s) :
    Url.Path.KeptChar c := by
  rcases (Text.Percent.Segment.encode s).isUnreserved_or_eq h with hplain | rfl
  · exact .inl hplain
  · exact .inr (by decide)

theorem keptChar_of_mem_details {ns : String} {c : Char}
    (h : c ∈ "clusters".toList ++ '/' :: Text.Percent.encode ns.toList) :
    Url.Path.KeptChar c := by
  have hclusters : Url.Path.Kept "clusters".toList := by decide
  rcases List.mem_append.1 h with h | h
  · exact hclusters.chars c h
  rcases List.mem_cons.1 h with rfl | h
  · exact .inr (by decide)
  · exact keptChar_of_mem_encode h

/-- The path to a cluster is kept as it is written, unless the namespace consists of points that
have a meaning in a path. -/
theorem kept_details {ns : String} (hhere : ns ≠ ".") (hback : ns ≠ "..") :
    Url.Path.Kept ("clusters".toList ++ '/' :: Text.Percent.encode ns.toList) := by
  have hpiece : '/' ∉ Text.Percent.encode ns.toList := fun hmem ↦
    ((Text.Percent.Segment.encode ns.toList).not_mem_delimiters hmem).1 (by decide)
  have hclusters : Url.Path.Kept "clusters".toList := by decide
  refine ⟨fun c ↦ keptChar_of_mem_details, fun piece hmem ↦ ?_⟩
  rw [Text.pieces_append_mark, Text.pieces_of_not_mem hpiece, List.mem_append,
    List.mem_singleton] at hmem
  rcases hmem with hmem | rfl
  · exact hclusters.not_points piece hmem
  · refine ⟨Bool.eq_false_iff.2 fun h ↦ hhere ?_, Bool.eq_false_iff.2 fun h ↦ hback ?_⟩
    · exact String.toList_injective (Url.Path.isHere_encode.1 h)
    · exact String.toList_injective (Url.Path.isBack_encode.1 h)

/-- Every call has a path that is kept as it is written, but for two namespaces. -/
theorem Call.exists_kept {call : Call} (hhere : call ≠ .details ".")
    (hback : call ≠ .details "..") :
    ∃ t, call.path.toList = '/' :: t ∧ Url.Path.Kept t := by
  have hclusters : ∃ t, "/clusters".toList = '/' :: t ∧ Url.Path.Kept t := ⟨_, rfl, by decide⟩
  have hscale : ∃ t, "/clusters/scale".toList = '/' :: t ∧ Url.Path.Kept t := ⟨_, rfl, by decide⟩
  have hhealth : ∃ t, "/health".toList = '/' :: t ∧ Url.Path.Kept t := ⟨_, rfl, by decide⟩
  cases call with
  | create spec => exact hclusters
  | delete ns => exact hclusters
  | list => exact hclusters
  | scale ns replicas => exact hscale
  | health => exact hhealth
  | details ns =>
    exact ⟨_, path_details ns, kept_details (fun h ↦ hhere (h ▸ rfl)) fun h ↦ hback (h ▸ rfl)⟩

/-! ## Where a call goes -/

/-- The path of the URL `v` is that of a call, put behind the path of the base URL, and nothing of
it has become part of a query or a fragment. -/
structure PathUnder (base v : Url) (path : String) : Prop where
  path_eq : String.ofList v.path.text = trimSlashes (String.ofList base.path.text) ++ path
  query_eq : v.query = none
  fragment_eq : v.fragment = none

/-- Calls can be put behind a base URL: the text given for it has no query and no fragment, what is
kept of the text does not end in what counts as a slash, and its path does not end in two slashes.
-/
structure BaseUrl.Fit (raw url : String) (base : Url) : Prop where
  no_query : '?' ∉ raw.toList
  no_fragment : '#' ∉ raw.toList
  no_slash : ∀ c ∈ Url.last? url.toList, Url.isSlash true c = false
  no_slashes : ¬['/', '/'] <:+ base.path.text

section

variable {w : WebText} {raw u : String} {a : Url.Authority}

/-- What is kept of a text has the marks of the text. -/
theorem mem_iff_of_trimmedTo (h : TrimmedTo raw u) {c : Char} (hc : c ≠ '/') :
    c ∈ raw.toList ↔ c ∈ u.toList := by
  obtain ⟨n, hn⟩ := h.append_slashes
  rw [hn, List.mem_append]
  exact or_iff_left fun hmem ↦ hc (List.eq_of_mem_replicate hmem)

/-- The text has no query and no fragment exactly if the rest of its parts is a path. -/
theorem isPath_iff_not_mem (hreads : w.Reads u.toList a) (hu : EndsVisibly u.toList)
    (hraw : TrimmedTo raw u) : w.IsPath ↔ '?' ∉ raw.toList ∧ '#' ∉ raw.toList := by
  have hmem : ∀ c, Url.endsPath c = true → Url.isTrimmed c = false → c ≠ '/' →
      (c ∈ raw.toList ↔ c ∈ w.rest) := by
    intro c hends htrimmed hslash
    rw [mem_iff_of_trimmedTo hraw hslash, ← Url.mem_relevant_iff hu htrimmed,
      hreads.relevant_eq]
    exact ⟨WebText.mem_rest hends, WebText.mem_text_of_mem_rest⟩
  rw [hmem '?' rfl rfl (by decide), hmem '#' rfl rfl (by decide)]
  constructor
  · intro h
    exact ⟨fun hquery ↦ absurd (h _ hquery) (by decide),
      fun hfragment ↦ absurd (h _ hfragment) (by decide)⟩
  · rintro ⟨hquery, hfragment⟩ c hc
    refine Bool.eq_false_iff.2 fun hends ↦ ?_
    rw [Url.endsPath, Bool.or_eq_true, beq_iff_eq, beq_iff_eq] at hends
    rcases hends with rfl | rfl
    · exact hquery hc
    · exact hfragment hc

/-- Only a slash at the end of the stem keeps a call from being put behind the path. -/
theorem path_eq_iff (hpath : w.IsPath) {t : List Char} (ht : Url.Path.Kept t) {path : String}
    (hpath_eq : path.toList = '/' :: t) :
    String.ofList ((w.append t).url a).path.text =
        trimSlashes (String.ofList (w.url a).path.text) ++ path ↔
      w.stem.getLast? ≠ some '/' := by
  have htext : String.ofList ((w.append t).url a).path.text = String.ofList w.stem ++ path := by
    rw [WebText.text_path_append hpath ht, ← hpath_eq, String.ofList_append, String.ofList_toList]
  have hself : trimSlashes (String.ofList w.stem) = String.ofList w.stem ↔
      w.stem.getLast? ≠ some '/' := by
    rw [trimSlashes_eq_self_iff, String.toList_ofList]
  have htrim : trimSlashes (String.ofList (w.url a).path.text) =
      trimSlashes (String.ofList w.stem) := by
    rcases WebText.stem_cases hpath a with ⟨-, heq, -⟩ | ⟨-, heq | ⟨heq, -⟩⟩
    · rw [heq]
    · rw [heq, String.ofList_append]
      exact trimSlashes_append_slash _
    · rw [heq]
  rw [htext, htrim, String.append_left_inj, eq_comm, hself]

/-- The stem ends in a slash because the text does, or because the path ends in two slashes. -/
theorem getLast?_stem_iff (hreads : w.Reads u.toList a) (hu : EndsVisibly u.toList)
    (hpath : w.IsPath) :
    w.stem.getLast? ≠ some '/' ↔
      (∀ c ∈ Url.last? u.toList, Url.isSlash true c = false) ∧
        ¬['/', '/'] <:+ (w.url a).path.text := by
  rw [← Url.getLast?_relevant hu, hreads.relevant_eq]
  rcases WebText.stem_cases hpath a with ⟨⟨c, hc, hslash⟩, -, hstem⟩ | ⟨hno, hcases⟩
  · refine iff_of_false (fun h ↦ h hstem) fun h ↦ ?_
    exact Bool.eq_false_iff.1 (h.1 c (WebText.getLast?_text hc)) hslash
  · have hnone : ∀ c ∈ w.text.getLast?, Url.isSlash true c = false := by
      intro c hc
      refine Bool.eq_false_iff.2 fun hslash ↦ ?_
      exact Bool.eq_false_iff.1 (hno c (WebText.mem_getLast?_rest hslash hc)) hslash
    rw [and_iff_right hnone]
    rcases hcases with heq | ⟨heq, hstem⟩
    · rw [heq, not_iff_not, List.getLast?_eq_some_iff]
      constructor
      · rintro ⟨init, hinit⟩
        exact ⟨init, by rw [hinit, List.append_assoc]; rfl⟩
      · rintro ⟨init, hinit⟩
        have hcancel : init ++ ['/'] ++ ['/'] = w.stem ++ ['/'] := by
          rw [← hinit, List.append_assoc]
          rfl
        exact ⟨init, (List.append_cancel_right hcancel).symm⟩
    · refine iff_of_true hstem fun hsuffix ↦ hstem ?_
      obtain ⟨init, hinit⟩ := hsuffix
      rw [← heq, ← hinit]
      simp

end

theorem BaseUrl.eq_of_read {raw u : String} (h : read raw = .ok u) :
    u = trimSlashes raw ∧ ∃ url, Url.parse raw.toList = .ok url ∧ url.isWeb = true := by
  rw [read] at h
  split at h
  · cases h
  next url hurl =>
  split at h
  · next hweb => exact ⟨(Except.ok.inj h).symm, url, hurl, hweb⟩
  · cases h

theorem colon_mem_of_reads {w : WebText} {s : List Char} {a : Url.Authority} (h : w.Reads s a) :
    ':' ∈ s := by
  have hcolon : ':' ∈ w.text := by simp [WebText.text]
  exact Url.relevant_subset s (h.relevant_eq ▸ hcolon)

/-- **A base URL that is accepted leads every call to the right host, and to the right path exactly
if calls can be put behind it.** -/
theorem calls_under_base (s : Settings) {raw u : String} (h : s.baseUrl (some raw) = .ok u)
    (hend : ∀ c ∈ Url.last? u.toList, Url.isTrimmed c = false) :
    ∃ url base : Url, Url.parse raw.toList = .ok url ∧ Url.parse u.toList = .ok base ∧
      ∀ call, call ≠ .details "." → call ≠ .details ".." →
        ∃ v : Url, Url.parse ((Api.ofUrl u).request call).url.toList = .ok v ∧
          v.scheme = url.scheme ∧ v.authority = url.authority ∧
          (PathUnder base v call.path ↔ BaseUrl.Fit raw u base) := by
  have hread : BaseUrl.read raw = .ok u := h
  obtain ⟨hu_eq, url, hurl, hweb⟩ := BaseUrl.eq_of_read hread
  have hraw : TrimmedTo raw u := hu_eq ▸ trimmedTo_trimSlashes raw
  obtain ⟨n, hn⟩ := hraw.append_slashes
  obtain ⟨w₀, a, hreads₀, rfl⟩ := Url.exists_reads hurl hweb
  have hu : EndsVisibly u.toList := by
    cases hlast : Url.last? u.toList with
    | some c => exact ⟨c, hlast, hend c hlast⟩
    | none =>
      have hcolon := (mem_iff_of_trimmedTo hraw (by decide)).1 (colon_mem_of_reads hreads₀)
      have hnil := List.getLast?_eq_none_iff.1 hlast
      exact absurd (List.filter_eq_nil_iff.1 hnil _ hcolon) (by decide)
  obtain ⟨w, hreads, hscheme⟩ := WebText.Reads.of_append (hn ▸ hreads₀)
  refine ⟨w₀.url a, w.url a, hurl, hreads.parse_eq, fun call hhere hback ↦ ?_⟩
  obtain ⟨t, hpath_eq, ht⟩ := Call.exists_kept hhere hback
  have htrimmed : trimSlashes u = u :=
    trimSlashes_eq_self_iff.2 fun hlast ↦ hraw.ends_without '/' hlast rfl
  have hrequest : ((Api.ofUrl u).request call).url.toList = u.toList ++ '/' :: t := by
    rw [Api.url_request, Api.ofUrl, htrimmed, String.toList_append, hpath_eq]
  refine ⟨(w.append t).url a, hrequest ▸ (hreads.append hu ht.chars).parse_eq, hscheme, rfl, ?_⟩
  constructor
  · intro hunder
    have hpath : w.IsPath := (WebText.isPath_append_iff ht.chars).1
      ((WebText.isPath_iff _ a).2 ⟨hunder.query_eq, hunder.fragment_eq⟩)
    obtain ⟨hquery, hfragment⟩ := (isPath_iff_not_mem hreads hu hraw).1 hpath
    obtain ⟨hslash, hslashes⟩ := (getLast?_stem_iff hreads hu hpath).1
      ((path_eq_iff hpath ht hpath_eq).1 hunder.path_eq)
    exact ⟨hquery, hfragment, hslash, hslashes⟩
  · intro hfit
    have hpath : w.IsPath :=
      (isPath_iff_not_mem hreads hu hraw).2 ⟨hfit.no_query, hfit.no_fragment⟩
    have hstem := (getLast?_stem_iff hreads hu hpath).2
      ⟨hfit.no_slash, hfit.no_slashes⟩
    obtain ⟨hquery, hfragment⟩ :=
      (WebText.isPath_iff _ a).1 ((WebText.isPath_append_iff ht.chars).2 hpath)
    exact ⟨(path_eq_iff hpath ht hpath_eq).2 hstem, hquery, hfragment⟩

/-- A base URL with a path and a slash at its end, and a call with a blank in its path. -/
theorem calls_under_base_path :
    let url : Url := ⟨['h', 't', 't', 'p'], some ⟨[], none, .name ['h'], none⟩,
      .segments [['v', '1']], none, none⟩
    Settings.empty.baseUrl (some "http://h/v1/") = .ok "http://h/v1" ∧
    (∀ c ∈ Url.last? "http://h/v1".toList, Url.isTrimmed c = false) ∧
    BaseUrl.Fit "http://h/v1/" "http://h/v1" url ∧
    ∃ v : Url, Url.parse ((Api.ofUrl "http://h/v1").request (.details "a b")).url.toList = .ok v ∧
      v.authority = url.authority ∧ PathUnder url v "/clusters/a%20b" := by
  intro url
  have hraw : Url.parse "http://h/v1/".toList =
      .ok { url with path := .segments [['v', '1'], []] } := by decide +kernel
  have hbase : Url.parse "http://h/v1".toList = .ok url := by decide +kernel
  have hread : Settings.empty.baseUrl (some "http://h/v1/") = .ok "http://h/v1" := by
    decide +kernel
  have hend : ∀ c ∈ Url.last? "http://h/v1".toList, Url.isTrimmed c = false := by
    rintro c ⟨⟩
    rfl
  have hfit : BaseUrl.Fit "http://h/v1/" "http://h/v1" url :=
    ⟨by decide, by decide, by rintro c ⟨⟩; rfl, by decide⟩
  obtain ⟨url', base, hurl', hbase', hcalls⟩ := calls_under_base Settings.empty hread hend
  cases hraw.symm.trans hurl'
  cases hbase.symm.trans hbase'
  obtain ⟨v, hv, -, hauthority, hiff⟩ := hcalls (.details "a b") (by simp) (by simp)
  exact ⟨hread, hend, hfit, v, hv, hauthority, hiff.2 hfit⟩

/-- A path behind a query becomes part of it. -/
theorem not_pathUnder_query :
    Settings.empty.baseUrl (some "http://h?x") = .ok "http://h?x" ∧
    ∃ base v : Url, Url.parse "http://h?x".toList = .ok base ∧
      Url.parse ((Api.ofUrl "http://h?x").request .list).url.toList = .ok v ∧
      v.query = some "x/clusters".toList ∧ ¬PathUnder base v Call.list.path := by
  let base : Url := ⟨['h', 't', 't', 'p'], some ⟨[], none, .name ['h'], none⟩,
    .segments [[]], some ['x'], none⟩
  refine ⟨by decide +kernel, base, { base with query := some "x/clusters".toList },
    by decide +kernel, by decide +kernel, rfl, fun h ↦ ?_⟩
  cases h.query_eq

end ClusterConsole
