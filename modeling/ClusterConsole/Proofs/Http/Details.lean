import ClusterConsole.Proofs.Http.Redirected
import ClusterConsole.Proofs.Settings.BaseUrl

/-!
# Where the details of a cluster are asked for

The URL for the details of a cluster is made from its namespace by percent-encoding, and then read
anew by what sends the request.  The two do not treat points alike: encoding leaves them as they
are, but in a path a segment of one point stays where the path has got to, and one of two points
goes back.

* `Reaches` says what is asked for at the server: a segment for the namespace below the path of the
  clusters, apart from the namespaces of one and of two points.
* `namespaceAt?` reads the namespace back, so no two namespaces are asked for at the same path.
* `details_reach` puts this together for a submission that is run over a network.
-/

set_option autoImplicit false

namespace ClusterConsole

open Http (Network Wire)
open Url (EndsVisibly WebText)

/-! ## What is asked for -/

/-- For the namespace `ns`, this is asked for at the server. -/
inductive Reaches : String → String → Prop
  | segment {ns : String} {seg : List Char} (hhere : ns ≠ ".") (hback : ns ≠ "..")
      (hseg : SegmentOf ns seg) : Reaches ns ("/clusters/" ++ String.ofList seg)
  | here : Reaches "." "/clusters/"
  | back : Reaches ".." "/"

/-- The namespace for which something is asked for at the server. -/
def namespaceAt? (target : String) : Option (List Char) :=
  if target = "/" then some ['.', '.']
  else if target = "/clusters/" then some ['.']
  else Text.Utf8.decode? (Text.Percent.decode (target.toList.drop "/clusters/".length))

namespace Reaches

variable {ns ns' target : String}

theorem namespaceAt?_eq (h : Reaches ns target) : namespaceAt? target = some ns.toList := by
  cases h with
  | @segment _ seg _ _ hseg =>
    have hlist : ("/clusters/" ++ String.ofList seg).toList = "/clusters/".toList ++ seg := by
      rw [String.toList_append, String.toList_ofList (l := seg)]
    have hback : "/clusters/" ++ String.ofList seg ≠ "/" := by
      intro heq
      have hlength := congrArg (List.length ∘ String.toList) heq
      simp [hlist] at hlength
    have hhere : "/clusters/" ++ String.ofList seg ≠ "/clusters/" := by
      intro heq
      have hnil := List.append_right_eq_self.1 (hlist.symm.trans (congrArg String.toList heq))
      exact hseg.ne_nil hnil
    rw [namespaceAt?, if_neg hback, if_neg hhere, hlist]
    exact hseg.decode_eq
  | here => rfl
  | back => rfl

/-- Different namespaces are asked for in different places. -/
theorem inj (h : Reaches ns target) (h' : Reaches ns' target) : ns = ns' :=
  String.toList_injective (Option.some.inj (h.namespaceAt?_eq.symm.trans h'.namespaceAt?_eq))

/-- Only one namespace leads away from the clusters. -/
theorem isPrefix_iff (h : Reaches ns target) :
    "/clusters/".toList <+: target.toList ↔ ns ≠ ".." := by
  cases h with
  | segment hhere hback hseg =>
    refine iff_of_true ?_ hback
    rw [String.toList_append]
    exact List.prefix_append ..
  | here => exact iff_of_true (by decide) (by decide)
  | back => exact iff_of_false (by decide) (by decide)

end Reaches

/-- The path to a cluster is read as what is asked for. -/
theorem reaches_readSegments {ns : String} (h : ns ≠ "") :
    Reaches ns (String.ofList (Url.Path.text
      (Url.readSegments true (Call.details ns).path.toList))) := by
  by_cases hhere : ns = "."
  · subst hhere
    exact Reaches.here
  by_cases hback : ns = ".."
  · subst hback
    exact Reaches.back
  have hkept := kept_details hhere hback
  rw [Call.path_details, hkept.readSegments_eq, Url.Path.text_segments_of_kept hkept,
    ← Call.path_details, String.ofList_toList]
  exact .segment hhere hback (segmentOf_encode h)

/-! ## Going over the network -/

/-- For a submission one request is made, and it goes over the network as `w`. -/
def Api.Sends (api : Api) (network : Network) (s : Submission) (w : Wire) : Prop :=
  ∃ q, (api.execute s (Http.transport network)).sent = [q] ∧
    (Http.exchange network q).sent.head? = some w

theorem Api.Sends.unique {api : Api} {network : Network} {s : Submission} {w w' : Wire}
    (h : api.Sends network s w) (h' : api.Sends network s w') : w = w' := by
  obtain ⟨q, hsent, hw⟩ := h
  obtain ⟨q', hsent', hw'⟩ := h'
  cases List.singleton_inj.1 (hsent.symm.trans hsent')
  exact Option.some.inj (hw.symm.trans hw')

/-- A submission that sends something passes its check. -/
theorem Api.Sends.exists_check {api : Api} {network : Network} {s : Submission} {w : Wire}
    (h : api.Sends network s w) : ∃ call, s.check = .ok call := by
  obtain ⟨q, hsent, -⟩ := h
  cases hcheck : s.check with
  | ok call => exact ⟨call, rfl⟩
  | error r =>
    rw [Api.execute_of_check_error hcheck] at hsent
    cases hsent

/-! ## Hosts -/

/-- With `http://` before it, `host` is the URL of a server, and nothing in it is more than the
authority `a`. -/
structure IsHost (host : String) (a : Url.Authority) : Prop where
  parses : ∃ url, Url.parse ("http://" ++ host).toList = .ok url ∧ url.authority = some a
  chars : ∀ c ∈ host.toList, Url.isTrimmed c = false ∧ Url.endsAuthority true c = false

namespace IsHost

variable {host : String} {a : Url.Authority}

theorem of_parse {url : Url} (hurl : Url.parse ("http://" ++ host).toList = .ok url)
    (ha : url.authority = some a)
    (hchars : host.toList.all (fun c ↦ !Url.isTrimmed c && !Url.endsAuthority true c) = true) :
    IsHost host a where
  parses := ⟨url, hurl, ha⟩
  chars c hc := by simpa using List.all_eq_true.1 hchars c hc

theorem ne_nil (h : IsHost host a) : host.toList ≠ [] := by
  intro hnil
  obtain ⟨url, hurl, -⟩ := h.parses
  have hempty : Url.parse "http://".toList = .error .emptyHost := by decide +kernel
  rw [String.toList_append, hnil, List.append_nil, hempty] at hurl
  cases hurl

/-- The parts of its URL. -/
theorem exists_reads (h : IsHost host a) : ∃ w : WebText,
    w.Reads ("http://" ++ host).toList a ∧ w.scheme = ['h', 't', 't', 'p'] ∧ w.rest = [] := by
  let w : WebText :=
    { name := ['h', 't', 't', 'p']
      slashes := ['/', '/']
      authority := host.toList
      rest := []
      name_chars := List.all_eq_true.1 rfl
      name_head := ⟨'h', rfl, rfl⟩
      slashes_chars := List.all_eq_true.1 rfl
      authority_ne_nil := h.ne_nil
      authority_chars := fun c hc ↦ (h.chars c hc).2
      rest_head := nofun }
  have hrelevant : Url.relevant ("http://" ++ host).toList = w.text := by
    rw [String.toList_append, Url.relevant_append ⟨'/', rfl, rfl⟩ fun c hc ↦ (h.chars c hc).1,
      WebText.text, List.append_nil]
    rfl
  have hport : Url.Authority.defaultPort? w.scheme = some 80 := rfl
  obtain ⟨url, hurl, hauthority⟩ := h.parses
  rw [WebText.parse_of_relevant_eq hrelevant hport] at hurl
  obtain ⟨a', ha', rfl⟩ := Except.map_eq_ok_iff.1 hurl
  cases hauthority
  exact ⟨w, ⟨hrelevant, 80, hport, ha'⟩, rfl, rfl⟩

theorem base_eq (h : IsHost host a) : (Api.ofUrl ("http://" ++ host)).base = "http://" ++ host := by
  refine trimSlashes_eq_self_iff.2 fun hlast ↦ ?_
  rw [String.toList_append, List.getLast?_append_of_ne_nil _ h.ne_nil] at hlast
  have hends := (h.chars '/' (List.mem_of_getLast? hlast)).2
  cases hends

/-- A path behind the URL of a host is asked for there, as it is read. -/
theorem exists_url (h : IsHost host a) {t : List Char} (ht : ∀ c ∈ t, Url.Path.KeptChar c) :
    ∃ url, Url.parse (("http://" ++ host).toList ++ '/' :: t) = .ok url ∧
      url.webAuthority? = some a ∧
      url.target = Url.Path.text (Url.readSegments true ('/' :: t)) := by
  obtain ⟨w, hreads, hscheme, hrest⟩ := h.exists_reads
  have hvisible : EndsVisibly ("http://" ++ host).toList := by
    obtain ⟨init, c, hhost⟩ := (List.eq_nil_or_concat' host.toList).resolve_left h.ne_nil
    have hc : Url.isTrimmed c = false := (h.chars c (by simp [hhost])).1
    refine ⟨c, ?_, hc⟩
    rw [String.toList_append, hhost, ← List.append_assoc]
    exact Url.last?_concat _ hc
  have hpath : (w.append t).IsPath :=
    (WebText.isPath_append_iff ht).2 fun c hc ↦ by simp [hrest] at hc
  have hquery := ((WebText.isPath_iff _ a).1 hpath).1
  refine ⟨(w.append t).url a, (hreads.append hvisible ht).parse_eq, ?_, ?_⟩
  · have hweb : ((w.append t).url a).isWeb = true := by
      rw [Url.isWeb, show ((w.append t).url a).scheme = w.scheme from rfl, hscheme]
      rfl
    rw [Url.webAuthority?, if_pos hweb]
    rfl
  · have hlocation : ((w.append t).url a).path =
        .segments (Url.readSegments true (w.rest ++ '/' :: t)) := rfl
    rw [Url.target, hquery, hlocation, hrest]
    exact List.append_nil _

end IsHost

/-! ## Where details are asked for -/

/-- The request for the details of a cluster asks for what is read in its path. -/
theorem sends_details {host ns : String} {a : Url.Authority} (h : IsHost host a)
    {network : Network} (hconnected : network.arrived ≠ []) (hns : ns ≠ "") :
    (Api.ofUrl ("http://" ++ host)).Sends network (.details ns)
      ⟨"GET", String.ofList (Url.Path.text (Url.readSegments true (Call.details ns).path.toList)),
        Wire.allFields a none, ""⟩ := by
  have hcheck : (Submission.details ns).check = .ok (.details ns) := by
    rw [Submission.check, Submission.checkNamespace, if_neg (by simpa using hns)]
    rfl
  have hkept : ∀ c ∈ "clusters".toList ++ '/' :: Text.Percent.encode ns.toList,
      Url.Path.KeptChar c := fun c ↦ keptChar_of_mem_details
  obtain ⟨url, hurl, ha, htarget⟩ := h.exists_url hkept
  refine ⟨_, by rw [Api.execute_of_check_ok hcheck], ?_⟩
  have hrequest : ((Api.ofUrl ("http://" ++ host)).request (.details ns)).url.toList =
      ("http://" ++ host).toList ++ '/' :: ("clusters".toList ++ '/' ::
        Text.Percent.encode ns.toList) := by
    rw [Api.url_request, h.base_eq, String.toList_append, Call.path_details]
  rw [Http.head?_sent_exchange (hrequest ▸ hurl) ha hconnected, Call.path_details, ← htarget]
  rfl

/-- Where requests for details go over a network to the host `a`. -/
structure DetailsReach (api : Api) (network : Network) (a : Url.Authority) : Prop where
  /-- One request is made for a namespace, which is told by what is asked for. -/
  sends : ∀ ns, ns ≠ "" → ∃ target, Reaches ns target ∧
    api.Sends network (.details ns) ⟨"GET", target, Wire.allFields a none, ""⟩
  /-- Different namespaces are asked for at different paths. -/
  inj : ∀ ns ns' w w', api.Sends network (.details ns) w → api.Sends network (.details ns') w' →
    w.target = w'.target → ns = ns'
  /-- All paths but one are below the path of the clusters. -/
  isPrefix_iff : ∀ ns w, api.Sends network (.details ns) w →
    ("/clusters/".toList <+: w.target.toList ↔ ns ≠ "..")

end ClusterConsole
