import ClusterConsole.Http.Exchange
import ClusterConsole.Proofs.Text.Numeral

/-!
# What is sent when answers redirect a request

The first request of an exchange is the one that was to be sent.  It is also the last one, unless
the answer to it is a redirection (`Redirects`): then the request is sent on to where the answer
leads, and what comes back there may redirect it again, ten times in all.

`sent_follow_cons` says what one answer can do; everything else is derived from it.  What is sent on
has nothing of the request but its method and its body, and maybe not even these (`GoesOn`).
-/

set_option autoImplicit false

namespace ClusterConsole
namespace Http

variable {first url target : Url} {a : Url.Authority} {o : Wire.Origin} {r : Request}
  {method : String} {status : Nat} {answer : Arrived} {more arrived : List Arrived}

/-! ## Answers that redirect -/

/-- The answer redirects some request to a URL. -/
def Leads (answer : Arrived) (target : Url) : Prop :=
  ∃ first url method status, readAnswer first url method answer = .ok (.redirection status target)

/-- The answer to the request redirects it. -/
def Redirects (r : Request) (answer : Arrived) : Prop :=
  ∃ first url status target, Url.parse r.url.toList = .ok url ∧
    readAnswer first url r.method.text answer = .ok (.redirection status target)

/-- A redirection comes from the head of the answer, which names the URL. -/
theorem exists_head_of_redirection
    (h : readAnswer first url method answer = .ok (.redirection status target)) :
    ∃ head rest, Head.read ((characters answer).length + 1) (characters answer) = .ok (head, rest) ∧
      head.status = status ∧ head.target? url = some target := by
  rw [readAnswer] at h
  split at h
  · cases h
  next head rest hhead =>
  split at h
  · cases h
  split at h
  · next htarget =>
    cases h
    exact ⟨head, rest, hhead, rfl, htarget⟩
  · split at h <;> cases h

theorem Head.exists_parse_of_target? {head : Head} (h : head.target? url = some target) :
    [301, 302, 303, 307, 308].contains head.status = true ∧ ∃ s, Url.parse s = .ok target := by
  rw [target?] at h
  split at h
  · next hstatus =>
    split at h
    · split at h
      · exact ⟨hstatus, _, Text.Numeral.eq_ok_of_toOption h⟩
      · cases h
    · cases h
  · cases h

/-- An answer redirects by its status code only. -/
theorem not_redirects_of_status {head : Head} {rest : List Char}
    (hread : Head.read ((characters answer).length + 1) (characters answer) = .ok (head, rest))
    (hstatus : [301, 302, 303, 307, 308].contains head.status = false) : ¬Redirects r answer := by
  rintro ⟨first, url, status, target, -, h⟩
  obtain ⟨head', rest', hread', -, htarget⟩ := exists_head_of_redirection h
  cases hread.symm.trans hread'
  rw [(Head.exists_parse_of_target? htarget).1] at hstatus
  cases hstatus

/-! ## What is sent -/

/-- When something comes back, one request was sent.  It is sent on if the answer is a redirection
to a URL of the web, and there were not too many of them already. -/
theorem sent_follow_cons (refusal : String) (first : Url) (budget : Nat) (o : Wire.Origin)
    (r : Request) (url : Url) (a : Url.Authority) (answer : Arrived) (more : List Arrived) :
    (follow refusal first budget o r url a (answer :: more)).sent = [.ofRequestFrom o r url a] ∨
    ∃ n status target next, budget = n + 1 ∧
      readAnswer first url r.method.text answer = .ok (.redirection status target) ∧
      target.webAuthority? = some next ∧
      (follow refusal first budget o r url a (answer :: more)).sent = .ofRequestFrom o r url a ::
        (follow refusal first n (o.redirected url target) (r.redirected status) target next
          more).sent := by
  rw [follow.eq_def]
  simp only
  split
  · exact .inl rfl
  · exact .inl rfl
  · next status target hanswer =>
    split
    · exact .inl rfl
    · exact .inl rfl
    · next n next hnext => exact .inr ⟨n, status, target, next, rfl, hanswer, hnext, rfl⟩

/-- No more is sent than something comes back for, and than redirections are followed. -/
theorem length_sent_follow_le (refusal : String) (first : Url) :
    ∀ {arrived : List Arrived} {budget : Nat} {o : Wire.Origin} {r : Request} {url : Url}
      {a : Url.Authority},
      (follow refusal first budget o r url a arrived).sent.length ≤
        min (budget + 1) arrived.length := by
  intro arrived
  induction arrived with
  | nil =>
    intro budget o r url a
    rw [follow]
    exact Nat.zero_le _
  | cons answer more ih =>
    intro budget o r url a
    rcases sent_follow_cons refusal first budget o r url a answer more with
      h | ⟨n, status, target, next, rfl, -, -, h⟩
    · rw [h, List.length_singleton, List.length_cons]
      omega
    · rw [h, List.length_cons, List.length_cons, Nat.succ_min_succ]
      exact Nat.succ_le_succ ih

/-! ## What is sent on -/

/-- A request is sent on as it is, or as a question. -/
def Request.SentOnAs (r r' : Request) : Prop :=
  r'.method = r.method ∧ r'.body = r.body ∨ r'.method = .get ∧ r'.body = none

theorem Request.SentOnAs.redirected {r r' : Request} (h : r.SentOnAs r')
    (hhead : r.method.text ≠ "HEAD") (status : Nat) : r.SentOnAs (r'.redirected status) := by
  have hhead' : r'.method.text ≠ "HEAD" := by
    rcases h with ⟨hmethod, -⟩ | ⟨hmethod, -⟩ <;> rw [hmethod]
    · exact hhead
    · decide
  rw [Request.redirected, if_neg hhead']
  split
  · exact .inr ⟨rfl, rfl⟩
  · split
    · exact .inr ⟨rfl, rfl⟩
    · exact h

/-- The request `v` is one that follows `w`: it goes where one of the answers leads, has the method
and the body of `w` or asks for something, and has no fields but those of `w` and those that say
where it goes and where it comes from. -/
structure Wire.GoesOn (arrived : List Arrived) (w v : Wire) : Prop where
  same_or_question : v.method = w.method ∧ v.body = w.body ∨ v.method = "GET" ∧ v.body = ""
  fields : ∀ f ∈ v.fields, f ∈ w.fields ∨ f.1 = "host" ∨ f.1 = "referer"
  leads : ∃ answer ∈ arrived, ∃ target next, Leads answer target ∧
    target.webAuthority? = some next ∧ v.target = String.ofList target.target ∧
    hostField next ∈ v.fields

namespace Wire

variable {body : Option String}

theorem mem_fieldsFrom {f : String × String} : f ∈ fieldsFrom o a body ↔
    f = ("accept", "*/*") ∨ (∃ user ∈ o.user, f = userField user) ∨
      (∃ text ∈ body, f ∈ bodyFields text) ∨ f = hostField a ∨
      (∃ referer ∈ o.referer, f = refererField referer) ∨ f = ("user-agent", agent) := by
  cases body <;> cases huser : o.user <;> cases hreferer : o.referer <;>
    simp [fieldsFrom, huser, hreferer]

theorem GoesOn.mono {w v : Wire} (h : GoesOn more w v) : GoesOn (answer :: more) w v where
  same_or_question := h.same_or_question
  fields := h.fields
  leads := h.leads.imp fun _ h ↦ ⟨List.mem_cons_of_mem answer h.1, h.2⟩

theorem goesOn_ofRequestFrom {o' : Origin} {r' : Request} {next : Url.Authority}
    (huser : ∀ user ∈ o'.user, user ∈ o.user) (hr : r.SentOnAs r') (hmem : answer ∈ arrived)
    (hleads : Leads answer target) (hnext : target.webAuthority? = some next) :
    GoesOn arrived (ofRequestFrom o r url a) (ofRequestFrom o' r' target next) where
  same_or_question := by
    rcases hr with ⟨hmethod, hbody⟩ | ⟨hmethod, hbody⟩
    · exact .inl ⟨congrArg Method.text hmethod,
        congrArg (fun b ↦ (b.map Json.Value.compactString).getD "") hbody⟩
    · exact .inr ⟨congrArg Method.text hmethod,
        congrArg (fun b ↦ (b.map Json.Value.compactString).getD "") hbody⟩
  fields f hf := by
    have hbody : ∀ text ∈ r'.body.map Json.Value.compactString,
        text ∈ r.body.map Json.Value.compactString := by
      rcases hr with ⟨-, hbody⟩ | ⟨-, hbody⟩ <;> rw [hbody]
      · exact fun _ ↦ id
      · exact nofun
    rcases mem_fieldsFrom.1 hf with rfl | ⟨user, h, rfl⟩ | ⟨text, h, hf⟩ | rfl | ⟨referer, -, rfl⟩ |
      rfl
    · exact .inl (mem_fieldsFrom.2 (.inl rfl))
    · exact .inl (mem_fieldsFrom.2 (.inr (.inl ⟨user, huser user h, rfl⟩)))
    · exact .inl (mem_fieldsFrom.2 (.inr (.inr (.inl ⟨text, hbody text h, hf⟩))))
    · exact .inr (.inl rfl)
    · exact .inr (.inr rfl)
    · exact .inl (mem_fieldsFrom.2 (by simp))
  leads := ⟨answer, hmem, target, next, hleads, hnext, rfl, mem_fieldsFrom.2 (by simp)⟩

theorem Origin.mem_user_redirected {url target : Url} {user : List Char × Option (List Char)}
    (h : user ∈ (o.redirected url target).user) : user ∈ o.user := by
  rw [redirected] at h
  split at h
  · exact h
  · cases h

end Wire

/-- What is sent after a request goes on from it. -/
theorem goesOn_of_mem_sent_follow {o₀ : Wire.Origin} {r₀ : Request} {url₀ : Url}
    {a₀ : Url.Authority} (hhead : r₀.method.text ≠ "HEAD") (refusal : String) (first : Url)
    {arrived : List Arrived} :
    ∀ {budget : Nat} {o : Wire.Origin} {r : Request} {url : Url} {a : Url.Authority},
      (∀ user ∈ o.user, user ∈ o₀.user) → r₀.SentOnAs r →
      ∀ v ∈ (follow refusal first budget o r url a arrived).sent,
        v = .ofRequestFrom o r url a ∨ (Wire.ofRequestFrom o₀ r₀ url₀ a₀).GoesOn arrived v := by
  induction arrived with
  | nil =>
    intro budget o r url a _ _ v hv
    rw [follow] at hv
    cases hv
  | cons answer more ih =>
    intro budget o r url a huser hr v hv
    rcases sent_follow_cons refusal first budget o r url a answer more with
      h | ⟨n, status, target, next, rfl, hanswer, hnext, h⟩
    · rw [h, List.mem_singleton] at hv
      exact .inl hv
    · rw [h, List.mem_cons] at hv
      refine hv.imp_right fun hv ↦ ?_
      have huser' : ∀ user ∈ (o.redirected url target).user, user ∈ o₀.user :=
        fun user h ↦ huser user (Wire.Origin.mem_user_redirected h)
      have hr' := hr.redirected hhead status
      rcases ih huser' hr' v hv with rfl | hgoes
      · exact Wire.goesOn_ofRequestFrom huser' hr' (List.mem_cons_self ..)
          ⟨first, url, _, status, hanswer⟩ hnext
      · exact hgoes.mono

/-! ## Exchanges -/

section

variable {network : Network} (hurl : Url.parse r.url.toList = .ok url)
  (ha : url.webAuthority? = some a)

include hurl ha

theorem exists_exchange_eq (network : Network) : ∃ first, exchange network r =
    follow network.refusal first maxRedirections (.first a) r url a network.arrived := by
  rw [exchange, hurl]
  simp only [ha]
  exact ⟨_, rfl⟩

/-- The first request that is sent is the one that was to be sent. -/
theorem head?_sent_exchange (hconnected : network.arrived ≠ []) :
    (exchange network r).sent.head? = some (.ofRequest r url a) := by
  obtain ⟨answer, more, harrived⟩ := List.exists_cons_of_ne_nil hconnected
  obtain ⟨first, heq⟩ := exists_exchange_eq hurl ha network
  rw [heq, harrived]
  rcases sent_follow_cons network.refusal first maxRedirections (.first a) r url a answer more with
    h | ⟨_, _, _, _, -, -, -, h⟩
  · rw [h]
    rfl
  · rw [h]
    rfl

/-- It is the only one, unless the answer to it is a redirection. -/
theorem sent_exchange_of_not_redirects (harrived : network.arrived = answer :: more)
    (hanswer : ¬Redirects r answer) : (exchange network r).sent = [.ofRequest r url a] := by
  obtain ⟨first, heq⟩ := exists_exchange_eq hurl ha network
  rw [heq, harrived]
  rcases sent_follow_cons network.refusal first maxRedirections (.first a) r url a answer more with
    h | ⟨_, status, target, _, -, hredirection, -, -⟩
  · exact h
  · exact absurd ⟨first, url, status, target, hurl, hredirection⟩ hanswer

theorem length_sent_exchange_le (network : Network) :
    (exchange network r).sent.length ≤ min (maxRedirections + 1) network.arrived.length := by
  obtain ⟨first, heq⟩ := exists_exchange_eq hurl ha network
  rw [heq]
  exact length_sent_follow_le _ _

/-- **What is sent after the first request goes on from it.** -/
theorem goesOn_of_mem_sent_exchange (hhead : r.method.text ≠ "HEAD") {v : Wire}
    (hv : v ∈ (exchange network r).sent) :
    v = .ofRequest r url a ∨ (Wire.ofRequest r url a).GoesOn network.arrived v := by
  obtain ⟨first, heq⟩ := exists_exchange_eq hurl ha network
  rw [heq] at hv
  exact goesOn_of_mem_sent_follow hhead _ _ (fun _ ↦ id) (.inl ⟨rfl, rfl⟩) v hv

end

end Http
end ClusterConsole
