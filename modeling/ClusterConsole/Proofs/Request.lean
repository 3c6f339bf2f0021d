import ClusterConsole.Proofs.Cluster.Spec
import ClusterConsole.Proofs.Execution
import ClusterConsole.Proofs.Text.Percent

/-!
# Requests say what was asked for

A submission that passes its check (`Passes`) becomes one request, and `Describes` lists what the
request to a server is for each operation.  Nothing is lost on the way: a namespace in a path is
percent-encoded and can be decoded (`SegmentOf`), and a body is written as JSON and can be parsed
(`Passes.tidy`).  So requests with the same method, URL and text of the body come from the same
operation with the same payload (`Passes.same_of_sameText`).
-/

set_option autoImplicit false

namespace ClusterConsole

open Http (Request)
open Json (Tidy Value)

/-! ## The base URL -/

/-- `base` is `url` without the slashes at its end. -/
structure TrimmedTo (url base : String) : Prop where
  append_slashes : ∃ n, url.toList = base.toList ++ List.replicate n '/'
  ends_without : ∀ c ∈ base.toList.getLast?, c ≠ '/'

theorem trimmedTo_trimSlashes (url : String) : TrimmedTo url (trimSlashes url) where
  append_slashes := by
    have hsplit := List.takeWhile_append_dropWhile (p := (· == '/')) (l := url.toList.reverse)
    have hslashes : url.toList.reverse.takeWhile (· == '/') =
        List.replicate (url.toList.reverse.takeWhile (· == '/')).length '/' := by
      refine List.eq_replicate_iff.2 ⟨rfl, fun c hc ↦ ?_⟩
      simpa using List.all_eq_true.1 List.all_takeWhile c hc
    refine ⟨(url.toList.reverse.takeWhile (· == '/')).length, ?_⟩
    rw [trimSlashes, String.toList_ofList, ← List.reverse_replicate, ← hslashes,
      ← List.reverse_append, hsplit, List.reverse_reverse]
  ends_without := by
    intro c hc
    have hnot := List.head?_dropWhile_not (· == '/') url.toList.reverse
    rw [trimSlashes, String.toList_ofList, List.getLast?_reverse] at hc
    rw [hc] at hnot
    simpa using hnot

/-! ## What passes a check -/

/-- The calls of the submissions that pass their check. -/
inductive Passes : Submission → Call → Prop
  | create (f : Fields) : Passes (.create f) (.create (.ofFields f))
  | delete {ns : String} (hns : ns ≠ "") : Passes (.delete ns) (.delete ns)
  | list : Passes .list .list
  | details {ns : String} (hns : ns ≠ "") : Passes (.details ns) (.details ns)
  | scale {ns replicas : String} {n : Nat} (hns : ns ≠ "")
      (hn : Text.Numeral.replicaCount? replicas = some n) :
      Passes (.scale ns replicas) (.scale ns n)

theorem eq_of_checkNamespace {ns ns' : String} (h : Submission.checkNamespace ns = .ok ns') :
    ns' = ns ∧ ns ≠ "" := by
  rw [Submission.checkNamespace] at h
  split at h
  · exact nomatch h
  · next hempty =>
    refine ⟨(Except.ok.inj h).symm, ?_⟩
    rintro rfl
    exact hempty rfl

theorem passes_of_check {s : Submission} {call : Call} (h : s.check = .ok call) :
    Passes s call := by
  cases s with
  | create f =>
    obtain ⟨spec, hspec, rfl⟩ := Except.map_eq_ok_iff.1 h
    rw [Submission.checkFields] at hspec
    split at hspec
    · exact nomatch hspec
    split at hspec
    · exact nomatch hspec
    split at hspec
    · exact nomatch hspec
    cases hspec
    exact .create f
  | delete ns =>
    obtain ⟨ns', hns', rfl⟩ := Except.map_eq_ok_iff.1 h
    obtain ⟨rfl, hne⟩ := eq_of_checkNamespace hns'
    exact .delete hne
  | list =>
    cases h
    exact .list
  | details ns =>
    obtain ⟨ns', hns', rfl⟩ := Except.map_eq_ok_iff.1 h
    obtain ⟨rfl, hne⟩ := eq_of_checkNamespace hns'
    exact .details hne
  | scale ns replicas =>
    obtain ⟨p, hp, rfl⟩ := Except.map_eq_ok_iff.1 h
    rw [Submission.checkScale] at hp
    split at hp
    · exact nomatch hp
    · next ns' hns' =>
      obtain ⟨rfl, hne⟩ := eq_of_checkNamespace hns'
      split at hp
      · exact nomatch hp
      · next n hn =>
        cases hp
        exact .scale hne hn

theorem Call.clusterBody_inj {ns ns' : String} (h : clusterBody ns = clusterBody ns') :
    ns = ns' := by
  have hmembers : [("namespace", Value.string ns)] = [("namespace", Value.string ns')] :=
    Value.object.inj h
  simpa using hmembers

theorem Call.scaleBody_eq (ns : String) (n : Nat) :
    scaleBody ns n = .object [("namespace", .string ns), ("replicas", .number (.whole n))] := by
  have hlt : "namespace" < "replicas" := by decide
  exact Value.ofMembers_of_ordered (List.pairwise_pair.2 hlt)

theorem Call.scaleBody_inj {ns ns' : String} {n n' : Nat}
    (h : scaleBody ns n = scaleBody ns' n') : ns = ns' ∧ n = n' := by
  rw [scaleBody_eq, scaleBody_eq] at h
  simp only [Value.object.injEq, List.cons.injEq, Prod.mk.injEq, Value.string.injEq,
    Value.number.injEq, Json.Number.whole.injEq, true_and, and_true] at h
  exact ⟨h.1, Int.ofNat_inj.1 h.2⟩

/-! ## What a request says -/

/-- What a segment of a path says about the namespace it stands for. -/
structure SegmentOf (ns : String) (seg : List Char) : Prop where
  ne_nil : seg ≠ []
  /-- It consists of unreserved characters and escapes. -/
  segment : Text.Percent.Segment seg
  /-- Nothing in it ends it, or the path it is part of, and all of it is ASCII. -/
  no_delimiter : ∀ c ∈ seg, c ∉ ['/', '?', '#', ' '] ∧ c.toNat < 128
  /-- Decoding it gives the namespace. -/
  decode_eq : Text.Utf8.decode? (Text.Percent.decode seg) = some ns.toList
  /-- A namespace of unreserved characters stands for itself. -/
  eq_self : (∀ c ∈ ns.toList, Text.Percent.isUnreserved c = true) → seg = ns.toList

theorem segmentOf_encode {ns : String} (h : ns ≠ "") :
    SegmentOf ns (Text.Percent.encode ns.toList) where
  ne_nil := Text.Percent.escape_ne_nil fun hnil ↦ h (String.toList_eq_nil_iff.1 hnil)
  segment := .encode _
  no_delimiter _ hc := (Text.Percent.Segment.encode _).not_mem_delimiters hc
  decode_eq := by rw [Text.Percent.decode_encode, Text.Utf8.decode?_utf8]
  eq_self := Text.Percent.escape_eq_self

/-- The request to the server at `base` that says what a submission asks for. -/
inductive Describes (base : String) : Submission → Request → Prop
  | create (f : Fields) :
      Describes base (.create f) ⟨.post, base ++ "/clusters", some (Spec.ofFields f).body⟩
  | delete (ns : String) :
      Describes base (.delete ns)
        ⟨.delete, base ++ "/clusters", some (.ofMembers [("namespace", .string ns)])⟩
  | list : Describes base .list ⟨.get, base ++ "/clusters", none⟩
  | details {ns : String} {seg : List Char} (hseg : SegmentOf ns seg) :
      Describes base (.details ns) ⟨.get, base ++ "/clusters/" ++ String.ofList seg, none⟩
  | scale {ns replicas : String} {n : Nat}
      (hn : Text.Numeral.replicaCount? replicas = some n) :
      Describes base (.scale ns replicas)
        ⟨.post, base ++ "/clusters/scale",
          some (.ofMembers [("namespace", .string ns), ("replicas", .number (.whole n))])⟩

/-- Two requests are written in the same way. -/
structure SameText (q q' : Request) : Prop where
  method_eq : q.method = q'.method
  url_eq : q.url = q'.url
  body_eq : q.body.map Value.compactString = q'.body.map Value.compactString

/-- The operation of a request to the server at `base`. -/
def operationOf (base : String) (q : Request) : Option Operation :=
  match q.method with
  | .post =>
    if q.url.length = base.length + "/clusters".length then some .create else some .scale
  | .delete => some .delete
  | .get =>
    if q.url.length = base.length + "/clusters".length then some .list else some .details
  | .other _ => none

namespace Passes

variable {api : Api} {s s' : Submission} {call call' : Call}

/-- The request of a submission says what the submission asks for. -/
theorem describes (h : Passes s call) (api : Api) : Describes api.base s (api.request call) := by
  cases h with
  | create f => exact .create f
  | delete hns => exact .delete _
  | list => exact .list
  | details hns => exact .details (segmentOf_encode hns)
  | scale hns hn => exact .scale hn

/-- A body of a request is the payload of its call. -/
theorem payload?_of_body (h : Passes s call) {body : Value}
    (hbody : (api.request call).body = some body) : call.payload? = some body := by
  cases h with
  | list => exact nomatch hbody
  | details hns => exact nomatch hbody
  | _ => exact hbody

/-- A body of a request is tidy. -/
theorem tidy (h : Passes s call) {body : Value} (hbody : (api.request call).body = some body) :
    Tidy Json.maxDepth body := by
  cases h with
  | create f =>
    cases hbody
    exact Spec.tidy_body
  | delete hns =>
    cases hbody
    exact .ofMembers (List.forall_mem_singleton.2 (.string _))
  | list => exact nomatch hbody
  | details hns => exact nomatch hbody
  | scale hns hn =>
    cases hbody
    have hlt := Text.Numeral.lt_of_replicaCount? hn
    refine .ofMembers (List.forall_mem_cons.2 ⟨.string _, List.forall_mem_singleton.2 ?_⟩)
    exact .number ⟨by omega, by omega⟩

/-- Calls of the same operation with the same payload are the same. -/
theorem call_eq (h : Passes s call) (h' : Passes s' call') (hop : s.operation = s'.operation)
    (hpayload : call.payload? = call'.payload?) : call = call' := by
  cases h with
  | create f =>
    cases h' with
    | create g => exact congrArg Call.create (Spec.body_inj (Option.some.inj hpayload))
    | _ => exact nomatch hop
  | delete hns =>
    cases h' with
    | delete hns' => exact congrArg Call.delete (Call.clusterBody_inj (Option.some.inj hpayload))
    | _ => exact nomatch hop
  | list =>
    cases h' with
    | list => rfl
    | _ => exact nomatch hop
  | details hns =>
    cases h' with
    | details hns' =>
      exact congrArg Call.details (Call.clusterBody_inj (Option.some.inj hpayload))
    | _ => exact nomatch hop
  | scale hns hn =>
    cases h' with
    | scale hns' hn' =>
      obtain ⟨rfl, rfl⟩ := Call.scaleBody_inj (Option.some.inj hpayload)
      rfl
    | _ => exact nomatch hop

/-- The method and the length of the URL tell the operations apart. -/
theorem operationOf_request (h : Passes s call) (api : Api) :
    operationOf api.base (api.request call) = some s.operation := by
  have hshort : "/clusters".length = 9 := rfl
  have hdetails : "/clusters/".length = 10 := rfl
  have hscale : "/clusters/scale".length = 15 := rfl
  cases h with
  | create f => exact if_pos (String.length_append ..)
  | delete hns => rfl
  | list => exact if_pos (String.length_append ..)
  | details hns =>
    refine if_neg fun hlength ↦ ?_
    rw [Api.request, Api.clusterUrl, String.length_append, String.length_append] at hlength
    omega
  | scale hns hn =>
    refine if_neg fun hlength ↦ ?_
    rw [Api.request, String.length_append] at hlength
    omega

/-- Bodies with the same text are the same. -/
theorem body_eq (h : Passes s call) (h' : Passes s' call')
    (htext : (api.request call).body.map Value.compactString =
      (api.request call').body.map Value.compactString) :
    (api.request call).body = (api.request call').body := by
  cases hbody : (api.request call).body with
  | none =>
    rw [hbody] at htext
    exact (Option.map_eq_none_iff.1 htext.symm).symm
  | some body =>
    rw [hbody] at htext
    obtain ⟨body', hbody', heq⟩ := Option.map_eq_some_iff.1 htext.symm
    have hcompact : body'.compact = body.compact := String.ofList_injective heq
    rw [hbody', (h'.tidy hbody').compact_inj (h.tidy hbody) hcompact]

/-- **Requests with the same text come from the same operation with the same payload.** -/
theorem same_of_sameText (h : Passes s call) (h' : Passes s' call')
    (hsame : SameText (api.request call) (api.request call')) :
    s.operation = s'.operation ∧ call.payload? = call'.payload? := by
  have hop : s.operation = s'.operation := by
    have hoperation := h.operationOf_request api
    rw [operationOf, hsame.method_eq, hsame.url_eq, ← operationOf,
      h'.operationOf_request api] at hoperation
    exact (Option.some.inj hoperation).symm
  have hbody := body_eq h h' hsame.body_eq
  refine ⟨hop, ?_⟩
  cases h with
  | details hns =>
    cases h' with
    | details hns' =>
      have hencode := String.ofList_injective ((String.append_right_inj _).1 hsame.url_eq)
      rw [String.toList_injective (Text.Percent.encode_inj hencode)]
    | _ => exact nomatch hop
  | _ =>
    cases h' with
    | details hns' => exact nomatch hop
    | _ => exact hbody

theorem sameText_iff (h : Passes s call) (h' : Passes s' call') :
    SameText (api.request call) (api.request call') ↔
      s.operation = s'.operation ∧ call.payload? = call'.payload? := by
  refine ⟨h.same_of_sameText h', ?_⟩
  rintro ⟨hop, hpayload⟩
  rw [h.call_eq h' hop hpayload]
  exact ⟨rfl, rfl, rfl⟩

theorem request_eq_iff (h : Passes s call) (h' : Passes s' call') :
    api.request call = api.request call' ↔
      s.operation = s'.operation ∧ call.payload? = call'.payload? := by
  constructor
  · intro heq
    have hsame : SameText (api.request call) (api.request call') := by
      rw [heq]
      exact ⟨rfl, rfl, rfl⟩
    exact h.same_of_sameText h' hsame
  · rintro ⟨hop, hpayload⟩
    rw [h.call_eq h' hop hpayload]

end Passes

/-! ## Requests decode to what was asked for -/

/-- What the requests to the server at a URL say. -/
structure RequestsDecode (url : String) (send : Transport) : Prop where
  /-- The slashes at the end of the URL are dropped, and nothing else. -/
  trimmed : TrimmedTo url (Api.ofUrl url).base
  /-- A submission that passes its check sends one request, which says what it asks for, and whose
  body is the payload and can be read back from its text. -/
  describes : ∀ s call, s.check = .ok call →
    ∃ q, ((Api.ofUrl url).execute s send).sent = [q] ∧ Describes (Api.ofUrl url).base s q ∧
      ∀ body, q.body = some body →
        call.payload? = some body ∧ Json.parse body.compact = .ok body
  /-- The requests of two submissions are the same only if the operations and the payloads are. -/
  eq_iff : ∀ s s' call call' q q', s.check = .ok call → s'.check = .ok call' →
    ((Api.ofUrl url).execute s send).sent = [q] → ((Api.ofUrl url).execute s' send).sent = [q'] →
    (q = q' ↔ s.operation = s'.operation ∧ call.payload? = call'.payload?)
  /-- They are written in the same way only then, too. -/
  sameText_iff : ∀ s s' call call' q q', s.check = .ok call → s'.check = .ok call' →
    ((Api.ofUrl url).execute s send).sent = [q] → ((Api.ofUrl url).execute s' send).sent = [q'] →
    (SameText q q' ↔ s.operation = s'.operation ∧ call.payload? = call'.payload?)

/-- **Requests decode to what was asked for.** -/
theorem requests_decode (url : String) (send : Transport) : RequestsDecode url send := by
  have hsent : ∀ {s call q}, s.check = .ok call → ((Api.ofUrl url).execute s send).sent = [q] →
      q = (Api.ofUrl url).request call := by
    intro s call q hcheck hq
    rw [Api.execute_of_check_ok hcheck] at hq
    exact (List.singleton_inj.1 hq).symm
  refine
    { trimmed := trimmedTo_trimSlashes url
      describes := fun s call hcheck ↦ ?_
      eq_iff := fun s s' call call' q q' hcheck hcheck' hq hq' ↦ ?_
      sameText_iff := fun s s' call call' q q' hcheck hcheck' hq hq' ↦ ?_ }
  · have hpasses := passes_of_check hcheck
    refine ⟨(Api.ofUrl url).request call, ?_, hpasses.describes _, fun body hbody ↦ ?_⟩
    · rw [Api.execute_of_check_ok hcheck]
    · exact ⟨hpasses.payload?_of_body hbody, (hpasses.tidy hbody).parse_compact⟩
  · rw [hsent hcheck hq, hsent hcheck' hq']
    exact (passes_of_check hcheck).request_eq_iff (passes_of_check hcheck')
  · rw [hsent hcheck hq, hsent hcheck' hq']
    exact (passes_of_check hcheck).sameText_iff (passes_of_check hcheck')

/-- A namespace with a slash and a blank is one segment, and is not taken for another one. -/
theorem requests_decode_details :
    let send := Transport.always (.error "refused")
    let api := Api.ofUrl "http://api.test//"
    (Submission.details "a/b c").check = .ok (.details "a/b c") ∧
    (api.execute (.details "a/b c") send).sent =
      [⟨.get, "http://api.test/clusters/a%2Fb%20c", none⟩] ∧
    Describes "http://api.test" (.details "a/b c")
      ⟨.get, "http://api.test/clusters/a%2Fb%20c", none⟩ ∧
    ¬SameText ⟨.get, "http://api.test/clusters/a%2Fb%20c", none⟩
      ⟨.get, "http://api.test/clusters", none⟩ := by
  intro send api
  have hmain := requests_decode "http://api.test//" send
  obtain ⟨q, hq, hdescribes, -⟩ := hmain.describes (.details "a/b c") _ rfl
  have hsent : (api.execute (.details "a/b c") send).sent =
      [⟨.get, "http://api.test/clusters/a%2Fb%20c", none⟩] := rfl
  obtain rfl := List.singleton_inj.1 (hq.symm.trans hsent)
  refine ⟨rfl, hsent, hdescribes, fun hsame ↦ ?_⟩
  have hop := ((hmain.sameText_iff (.details "a/b c") .list _ _ _ _ rfl rfl hsent rfl).1 hsame).1
  exact nomatch hop

end ClusterConsole
