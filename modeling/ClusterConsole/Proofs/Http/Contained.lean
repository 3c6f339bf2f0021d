import ClusterConsole.Proofs.Http.Apart
import ClusterConsole.Proofs.Http.Details

/-!
# No input breaks out of its request

What the user enters for an operation reaches the server in two places only, percent-encoded in the
target, or as a text in the body.  The fields of a request are fixed by the host and by whether
there is a body, apart from its length (`Wire.fixedFields`), and the body is an object that has no
members but those of its operation (`Carries`).

The server gets this request, and no other one unless it answers with a redirection.  Then the
request is sent on to where the answer leads, so there can be up to eleven requests, each of which
is read as what was sent (`GoesAs`).

`request_contained` puts this together for a submission that passes its check, and
`request_redirected` is a server that redirects.
-/

set_option autoImplicit false

namespace ClusterConsole

open Json (Value)

namespace Http

/-! ## Fields of a request -/

namespace Wire

/-- The names of the fields, in order. -/
def fieldNames (a : Url.Authority) (hasBody : Bool) : List String :=
  ["accept"] ++ (if (credentials? a).isSome then ["authorization"] else []) ++
    (if hasBody then ["content-length", "content-type"] else []) ++ ["host", "user-agent"]

/-- All fields beside the length of the body. -/
def fixedFields (a : Url.Authority) (hasBody : Bool) : List (String × String) :=
  [("accept", "*/*")] ++ ((credentials? a).map userField).toList ++
    (if hasBody then [("content-type", "application/json")] else []) ++
    [hostField a, ("user-agent", agent)]

variable (a : Url.Authority) (body : Option String)

theorem allFields_eq : allFields a body = [("accept", "*/*")] ++
    ((credentials? a).map userField).toList ++ (body.map bodyFields).getD [] ++
      [hostField a, ("user-agent", agent)] := by
  simp [allFields, fieldsFrom, Origin.first]

theorem map_fst_allFields : (allFields a body).map Prod.fst = fieldNames a body.isSome := by
  cases huser : credentials? a <;> cases body <;>
    simp [allFields_eq, fieldNames, bodyFields, userField, hostField, huser]

theorem filter_allFields :
    (allFields a body).filter (·.1 != "content-length") = fixedFields a body.isSome := by
  cases huser : credentials? a <;> cases body <;>
    simp [allFields_eq, fixedFields, bodyFields, userField, hostField, huser]

theorem contentType_mem_allFields :
    ("content-type", "application/json") ∈ allFields a body ↔ body.isSome = true := by
  cases huser : credentials? a <;> cases body <;>
    simp [allFields_eq, bodyFields, userField, hostField, huser]

theorem contentLength_mem_allFields (v : String) :
    ("content-length", v) ∈ allFields a body ↔
      body.isSome = true ∧ v = toString (Text.utf8 (body.getD "").toList).length := by
  cases huser : credentials? a <;> cases body <;>
    simp [allFields_eq, bodyFields, userField, hostField, huser, Text.Utf8.length_utf8]

end Wire
end Http

/-! ## Bodies -/

namespace Operation

/-- The method of its request. -/
def method : Operation → String
  | .create | .scale => "POST"
  | .delete => "DELETE"
  | .list | .details => "GET"

/-- Does its request have a body? -/
def hasBody : Operation → Bool
  | .create | .delete | .scale => true
  | .list | .details => false

/-- The names of the members that its body can have. -/
def memberNames : Operation → List String
  | .create => Key.all.map Key.name
  | .delete => ["namespace"]
  | .scale => ["namespace", "replicas"]
  | .list | .details => []

end Operation

namespace Passes

variable {s : Submission} {call : Call}

theorem request_eq (h : Passes s call) (api : Api) :
    (api.request call).method.text = s.operation.method ∧
      (api.request call).body = if s.operation.hasBody then call.payload? else none := by
  cases h <;> exact ⟨rfl, rfl⟩

/-- The payload of an operation with a body is an object, with no member but its own. -/
theorem exists_members (h : Passes s call) (hbody : s.operation.hasBody = true) :
    ∃ ms, call.payload? = some (.object ms) ∧ ∀ m ∈ ms, m.1 ∈ s.operation.memberNames := by
  have hmade : ∀ given : List (String × Value),
      (∀ m ∈ given, m.1 ∈ s.operation.memberNames) → call.payload? = some (.ofMembers given) →
      ∃ ms, call.payload? = some (.object ms) ∧ ∀ m ∈ ms, m.1 ∈ s.operation.memberNames := by
    intro given hgiven hpayload
    obtain ⟨ms, hms, -, hmem⟩ := Value.exists_ofMembers given
    exact ⟨ms, hms ▸ hpayload, fun m hm ↦ hgiven m (hmem m hm)⟩
  cases h with
  | create f =>
    refine hmade _ (fun m hm ↦ ?_) rfl
    obtain ⟨e, -, rfl⟩ := List.mem_map.1 hm
    exact List.mem_map_of_mem (Key.mem_all e.1)
  | delete hns => exact hmade _ (by simp [Submission.operation, Operation.memberNames]) rfl
  | scale hns hn => exact hmade _ (by simp [Submission.operation, Operation.memberNames]) rfl
  | _ => cases hbody

end Passes

/-- The body of a request is the payload of its operation, as a text, and nothing in that text adds
a member to it. -/
structure Carries (s : Submission) (call : Call) (body : String) : Prop where
  none : s.operation.hasBody = false → body = ""
  some : s.operation.hasBody = true → ∃ ms, call.payload? = .some (.object ms) ∧
    body = (Value.object ms).compactString ∧ Json.parse body.toList = .ok (.object ms) ∧
    ∀ m ∈ ms, m.1 ∈ s.operation.memberNames

theorem Passes.carries {s : Submission} {call : Call} (h : Passes s call) (api : Api) :
    Carries s call (((api.request call).body.map Value.compactString).getD "") where
  none hnone := by rw [(h.request_eq api).2, hnone]; rfl
  some hsome := by
    obtain ⟨ms, hpayload, hmem⟩ := h.exists_members hsome
    have hbody : (api.request call).body = .some (.object ms) := by
      rw [(h.request_eq api).2, if_pos hsome, hpayload]
    have hparse := (h.tidy hbody).parse_compact
    rw [hbody]
    exact ⟨ms, hpayload, rfl, by simpa [Value.compactString] using hparse, hmem⟩

/-! ## What a submission puts into its request -/

open Http (Arrived Network Request Wire octets)

/-- What a submission says is held in its request: it is in the target, which stays one word, and in
the body, and nowhere else. -/
structure Contained (a : Url.Authority) (s : Submission) (call : Call) (w : Wire) : Prop where
  method_eq : w.method = s.operation.method
  target_head : w.target.toList.head? = some '/'
  target_visible : ∀ c ∈ w.target.toList, Url.isVisible c = true
  target_eq : call ≠ .details "." → call ≠ .details ".." → w.target = call.path
  names_eq : w.fields.map Prod.fst = Wire.fieldNames a s.operation.hasBody
  fixed : w.fields.filter (·.1 != "content-length") = Wire.fixedFields a s.operation.hasBody
  content_type : ("content-type", "application/json") ∈ w.fields ↔ s.operation.hasBody = true
  content_length : ∀ v, ("content-length", v) ∈ w.fields ↔
    s.operation.hasBody = true ∧ v = toString (Text.utf8 w.body.toList).length
  carries : Carries s call w.body
  read_eq : ∀ more, Wire.read (octets w.text.toList ++ more) = some (w, more)

/-- For a submission the one request `q` is made, which is sent as `w`.  Nothing else is sent unless
the answer redirects it, and what is sent then goes on from `w`. -/
structure GoesAs (api : Api) (s : Submission) (q : Request) (w : Wire) : Prop where
  sent_eq : ∀ network : Network, (api.execute s (Http.transport network)).sent = [q]
  first : ∀ network : Network, network.arrived ≠ [] →
    (Http.exchange network q).sent.head? = some w
  /-- If the answer is no redirection, then this is the only request. -/
  alone : ∀ (network : Network) (answer : Arrived) (more : List Arrived),
    network.arrived = answer :: more → ¬Http.Redirects q answer →
    (Http.exchange network q).sent = [w]
  /-- At most ten redirections are followed, and no more is sent than something comes back for. -/
  few : ∀ network : Network,
    (Http.exchange network q).sent.length ≤ min 11 network.arrived.length
  /-- What follows the request goes where an answer leads, as the same request or as a question. -/
  goes_on : ∀ network, ∀ v ∈ (Http.exchange network q).sent,
    v = w ∨ w.GoesOn network.arrived v
  /-- The request and all that follow it stay apart. -/
  read_eq : ∀ network, ∀ v ∈ (Http.exchange network q).sent, ∀ more,
    Wire.read (octets v.text.toList ++ more) = some (v, more)

/-- Nothing in the path of a call ends the path. -/
theorem Call.exists_keptChar (call : Call) :
    ∃ t, call.path.toList = '/' :: t ∧ ∀ c ∈ t, Url.Path.KeptChar c := by
  by_cases hdetails : ∃ ns, call = .details ns
  · obtain ⟨ns, rfl⟩ := hdetails
    exact ⟨_, path_details ns, fun c ↦ keptChar_of_mem_details⟩
  · have hne : ∀ ns, call ≠ .details ns := fun ns h ↦ hdetails ⟨ns, h⟩
    obtain ⟨t, ht, hkept⟩ := exists_kept (hne ".") (hne "..")
    exact ⟨t, ht, hkept.chars⟩

theorem Operation.isVisible_of_mem_method {o : Operation} {c : Char} (h : c ∈ o.method.toList) :
    Url.isVisible c = true := by
  have hall : ∀ o ∈ all, o.method.toList.all Url.isVisible = true := by decide
  exact List.all_eq_true.1 (hall o (mem_all o)) c h

/-- The URL of a call to a host can be read, and what is asked for there is the path of the call,
but for two namespaces of points. -/
theorem IsHost.exists_url_request {host : String} {a : Url.Authority} (h : IsHost host a)
    (call : Call) :
    ∃ url, Url.parse ((Api.ofUrl ("http://" ++ host)).request call).url.toList = .ok url ∧
      url.webAuthority? = some a ∧
      (call ≠ .details "." → call ≠ .details ".." → String.ofList url.target = call.path) := by
  obtain ⟨t, hpath, hchars⟩ := call.exists_keptChar
  obtain ⟨url, hurl, ha, htarget⟩ := h.exists_url hchars
  refine ⟨url, ?_, ha, fun hhere hback ↦ ?_⟩
  · rw [Api.url_request, h.base_eq, String.toList_append, hpath]
    exact hurl
  · obtain ⟨t', ht', hkept⟩ := Call.exists_kept hhere hback
    cases hpath.symm.trans ht'
    rw [htarget, hkept.readSegments_eq, Url.Path.text_segments_of_kept hkept, ← hpath,
      String.ofList_toList]

namespace Passes

variable {s : Submission} {call : Call} {url : Url} {a : Url.Authority}

theorem isVisible_method (h : Passes s call) (api : Api) :
    ∀ c ∈ (api.request call).method.text.toList, Url.isVisible c = true := by
  rw [(h.request_eq api).1]
  exact fun c ↦ Operation.isVisible_of_mem_method

theorem goesAs (h : Passes s call) (hcheck : s.check = .ok call) (api : Api)
    (hurl : Url.parse (api.request call).url.toList = .ok url) (ha : url.webAuthority? = some a) :
    GoesAs api s (api.request call) (.ofRequest (api.request call) url a) where
  sent_eq network := by rw [Api.execute_of_check_ok hcheck]
  first network := Http.head?_sent_exchange hurl ha
  alone network answer more := Http.sent_exchange_of_not_redirects hurl ha
  few network := Http.length_sent_exchange_le hurl ha network
  goes_on network v := by
    have hhead : (api.request call).method.text ≠ "HEAD" := by
      have hall : ∀ o ∈ Operation.all, o.method ≠ "HEAD" := by decide
      rw [(h.request_eq api).1]
      exact hall _ (Operation.mem_all _)
    exact Http.goesOn_of_mem_sent_exchange hurl ha hhead
  read_eq network v hv more :=
    (Http.apart_of_mem_sent hurl ha (h.isVisible_method api) hv).read_text more

theorem contained (h : Passes s call) (api : Api) (hurl : url.Sendable a)
    (htarget : call ≠ .details "." → call ≠ .details ".." → String.ofList url.target = call.path) :
    Contained a s call (.ofRequest (api.request call) url a) := by
  have hsome : ((api.request call).body.map Value.compactString).isSome = s.operation.hasBody := by
    rw [(h.request_eq api).2]
    cases h <;> rfl
  exact
    { method_eq := (h.request_eq api).1
      target_head := by simpa [Wire.ofRequest, Wire.ofRequestFrom] using hurl.target_head
      target_visible := fun c hc ↦
        hurl.target_chars c (by simpa [Wire.ofRequest, Wire.ofRequestFrom] using hc)
      target_eq := htarget
      names_eq := hsome ▸ Wire.map_fst_allFields a _
      fixed := hsome ▸ Wire.filter_allFields a _
      content_type := hsome ▸ Wire.contentType_mem_allFields a _
      content_length := hsome ▸ Wire.contentLength_mem_allFields a _
      carries := h.carries api
      read_eq := (Http.apart_ofRequestFrom Http.Wire.Origin.sendable_first hurl
        (h.isVisible_method api)).read_text }

end Passes

end ClusterConsole
