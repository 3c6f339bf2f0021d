import ClusterConsole.Proofs.Http.Received
import ClusterConsole.Proofs.Http.Redirected
import ClusterConsole.Proofs.Url.Sendable

/-!
# Requests stay apart

A request that is sent is read by the server as that request, and ends where it was meant to end
(`Wire.Apart`).  This needs nothing of the request but that its method is a word
(`apart_of_mem_sent`): the URL it is sent to has been read, and the fields are made of the host in
it, of the user in letters of six bits, of the URL it was redirected from, and of the length of the
body.  It holds for every request that is sent, also when an answer makes one go on elsewhere.
-/

set_option autoImplicit false

namespace ClusterConsole

/-- The characters of six bits are visible. -/
theorem Text.Base64.isVisible_letter (n : Nat) : Url.isVisible (letter n) = true := by
  have hall : ∀ n < 64, Url.isVisible (letter n) = true := by decide
  by_cases hn : n < 64
  · exact hall n hn
  · have hlast : letter n = '/' := by
      rw [letter, if_neg (by omega), if_neg (by omega), if_neg (by omega), if_neg (by omega)]
    rw [hlast]
    rfl

theorem Text.Base64.isVisible_of_mem_encode {bytes : List UInt8} {c : Char}
    (h : c ∈ encode bytes) : Url.isVisible c = true := by
  have hmark : Url.isVisible mark = true := rfl
  fun_induction encode bytes with
  | case1 => cases h
  | case2 a =>
    simp only [List.mem_cons, List.not_mem_nil, or_false] at h
    rcases h with rfl | rfl | rfl | rfl <;> simp [isVisible_letter, hmark]
  | case3 a b =>
    simp only [List.mem_cons, List.not_mem_nil, or_false] at h
    rcases h with rfl | rfl | rfl | rfl <;> simp [isVisible_letter, hmark]
  | case4 a b c rest ih =>
    simp only [List.mem_cons] at h
    rcases h with rfl | rfl | rfl | rfl | h
    case inr.inr.inr.inr => exact ih h
    all_goals exact isVisible_letter _

theorem Text.Base64.encode_ne_nil {bytes : List UInt8} (h : bytes ≠ []) : encode bytes ≠ [] := by
  fun_cases encode bytes with
  | case1 => exact absurd rfl h
  | _ => exact List.cons_ne_nil _ _

namespace Http

/-! ## Fields on their lines -/

theorem isTextChar_of_printing {c : Char} (h : Url.Printing c ∨ 0x80 ≤ c.toNat) :
    Head.isTextChar c = true ∧ Head.isGap c = false := by
  have hlow : 0x20 < c.toNat ∧ c ≠ '\x7f' := by
    rcases h with h | h
    · exact ⟨by simpa [Url.isTrimmed] using h.1, h.2⟩
    · refine ⟨by omega, ?_⟩
      rintro rfl
      exact absurd h (by decide)
  have hgap : c ≠ ' ' ∧ c ≠ '\t' := by
    constructor <;> rintro rfl <;> exact absurd hlow.1 (by decide)
  refine ⟨?_, by simp [Head.isGap, hgap]⟩
  simp [Head.isTextChar, hlow.2, hlow.1.le]

/-- A value without blanks and controls stays on its line. -/
theorem oneLine_of_printing {name : List Char} {value : String} (hname : IsName name)
    (hvalue : ∀ c ∈ value.toList, Url.Printing c) : OneLine name (octets value.toList) := by
  have hchars : ∀ c ∈ octets value.toList, Head.isTextChar c = true ∧ Head.isGap c = false :=
    fun c hc ↦ isTextChar_of_printing ((mem_of_mem_octets hc).imp_left (hvalue c))
  exact ⟨hname, fun c hc ↦ (hchars c hc).1, fun c hc ↦ (hchars c (List.mem_of_mem_head? hc)).2,
    fun c hc ↦ (hchars c (List.mem_of_getLast? hc)).2⟩

/-- Who asks is told on one line. -/
theorem oneLine_userField (user : List Char × Option (List Char)) :
    OneLine (octets (Wire.userField user).1.toList) (octets (Wire.userField user).2.toList) := by
  let bytes := Text.utf8 (user.1 ++ ':' :: user.2.getD [])
  let letters := Text.Base64.encode bytes
  have hletters : ∀ c ∈ letters, Url.isVisible c = true :=
    fun c ↦ Text.Base64.isVisible_of_mem_encode
  have hvalue : octets (Wire.userField user).2.toList = "Basic ".toList ++ letters := by
    have hbasic : octets "Basic ".toList = "Basic ".toList := rfl
    have hsplit : (Wire.userField user).2.toList = "Basic ".toList ++ letters := by
      simp [Wire.userField, letters, bytes]
    rw [hsplit, octets_append, hbasic, octets_of_isVisible hletters]
  have hne : letters ≠ [] := by
    have hcolon : (58 : UInt8) ∈ bytes := List.mem_flatMap.2 ⟨':', by simp, by decide⟩
    refine Text.Base64.encode_ne_nil (List.ne_nil_of_mem hcolon)
  have htext : ∀ c ∈ letters, Head.isTextChar c = true ∧ Head.isGap c = false :=
    fun c hc ↦ isTextChar_of_printing (.inl (Url.printing_of_isVisible (hletters c hc)))
  rw [hvalue]
  refine ⟨show IsName (octets "authorization".toList) by decide, fun c hc ↦ ?_, ?_, fun c hc ↦ ?_⟩
  · rcases List.mem_append.1 hc with hc | hc
    · exact List.all_eq_true.1 (show "Basic ".toList.all Head.isTextChar = true by decide) c hc
    · exact (htext c hc).1
  · rintro c ⟨⟩
    rfl
  · rw [List.getLast?_append_of_ne_nil _ hne] at hc
    exact (htext c (List.mem_of_getLast? hc)).2

/-! ## Requests apart from each other -/

namespace Wire

variable {o : Origin} {a : Url.Authority} {body : Option String}

theorem length_fieldsFrom_le : (fieldsFrom o a body).length ≤ 7 := by
  cases body <;> cases huser : o.user <;> cases hreferer : o.referer <;>
    simp [fieldsFrom, bodyFields, huser, hreferer]

/-- The fields announce the body, and nothing else. -/
theorem announced?_fieldsFrom {room : Nat} (h : Text.byteCount (body.getD "").toList ≤ room) :
    announced? room (fieldsFrom o a body) = some (Text.byteCount (body.getD "").toList) := by
  have hlength : (fieldsFrom o a body).filter (·.1 == "content-length") = (body.map fun text ↦
      ("content-length", toString (Text.byteCount text.toList))).toList := by
    cases body <;> cases huser : o.user <;> cases hreferer : o.referer <;>
      simp [fieldsFrom, bodyFields, userField, hostField, refererField, huser, hreferer]
  have hencoding : (fieldsFrom o a body).any (·.1 == "transfer-encoding") = false := by
    cases body <;> cases huser : o.user <;> cases hreferer : o.referer <;>
      simp [fieldsFrom, bodyFields, userField, hostField, refererField, huser, hreferer]
  rw [announced?, hencoding, hlength]
  cases body with
  | none => rfl
  | some text =>
    have hread : Text.Numeral.natural room (toString (Text.byteCount text.toList)).toList =
        .ok (Text.byteCount text.toList) := by
      rw [show (toString (Text.byteCount text.toList)).toList =
        Nat.toDigits 10 (Text.byteCount text.toList) from Nat.toList_repr]
      exact Text.Numeral.natural_toDigits h
    exact congrArg Except.toOption hread

/-- The URL that a request was redirected from stays on its line. -/
def Origin.Sendable (o : Origin) : Prop := ∀ referer ∈ o.referer, ∀ c ∈ referer, Url.Printing c

theorem Origin.sendable_first : (first a).Sendable := nofun

theorem Origin.sendable_redirected {url : Url} (h : url.Sendable a) (target : Url) :
    (o.redirected url target).Sendable := by
  intro referer hreferer
  simp only [redirected] at hreferer
  split at hreferer
  · cases hreferer
  · cases hreferer
    exact h.bare_chars

/-- Every field of a request to a URL of the web stays on its line. -/
theorem oneLine_of_mem_fieldsFrom (ho : o.Sendable) (ha : ∀ c ∈ a.hostText, Url.Printing c)
    {f : String × String} (hf : f ∈ fieldsFrom o a body) :
    OneLine (octets f.1.toList) (octets f.2.toList) := by
  have hplain : ∀ {name value : String}, IsName (octets name.toList) →
      value.toList.all (fun c ↦ Url.isVisible c) = true →
      OneLine (octets name.toList) (octets value.toList) := fun hname hvalue ↦
    oneLine_of_printing hname fun c hc ↦ Url.printing_of_isVisible (List.all_eq_true.1 hvalue c hc)
  rcases mem_fieldsFrom.1 hf with rfl | ⟨user, -, rfl⟩ | ⟨text, -, hf⟩ | rfl | ⟨referer, h, rfl⟩ |
    rfl
  · exact hplain (by decide) (by decide)
  · exact oneLine_userField user
  · rw [bodyFields, List.mem_pair] at hf
    rcases hf with rfl | rfl
    · refine oneLine_of_printing (show IsName (octets "content-length".toList) by decide)
        fun c hc ↦ ?_
      rw [show (toString (Text.byteCount text.toList)).toList =
        Nat.toDigits 10 (Text.byteCount text.toList) from Nat.toList_repr] at hc
      exact Url.printing_of_mem_toDigits (by decide) (by decide) hc
    · exact hplain (by decide) (by decide)
  · refine oneLine_of_printing (show IsName (octets "host".toList) by decide) fun c hc ↦ ?_
    exact ha c (by simpa [hostField] using hc)
  · refine oneLine_of_printing (show IsName (octets "referer".toList) by decide) fun c hc ↦ ?_
    exact ho referer h c (by simpa [refererField] using hc)
  · exact hplain (by decide) (by decide)

end Wire

variable {o : Wire.Origin} {r : Request} {url : Url} {a : Url.Authority}

/-- A request to a URL of the web stays apart from what comes after it. -/
theorem apart_ofRequestFrom (ho : o.Sendable) (h : url.Sendable a)
    (hmethod : ∀ c ∈ r.method.text.toList, Url.isVisible c = true) :
    (Wire.ofRequestFrom o r url a).Apart where
  method_chars := hmethod
  target_chars c hc := h.target_chars c (by simpa [Wire.ofRequestFrom] using hc)
  oneLine _ hf := Wire.oneLine_of_mem_fieldsFrom ho h.host_chars hf
  few := Wire.length_fieldsFrom_le.trans (by decide)
  announced _ hroom := Wire.announced?_fieldsFrom hroom

/-- Whatever comes back, every request that is sent stays apart. -/
theorem apart_of_mem_sent_follow (refusal : String) (first : Url) {arrived : List Arrived} :
    ∀ {budget : Nat} {o : Wire.Origin} {r : Request} {url : Url} {a : Url.Authority},
      o.Sendable → url.Sendable a → (∀ c ∈ r.method.text.toList, Url.isVisible c = true) →
      ∀ w ∈ (follow refusal first budget o r url a arrived).sent, w.Apart := by
  induction arrived with
  | nil =>
    intro _ _ _ _ _ _ _ _ w hw
    rw [follow] at hw
    cases hw
  | cons answer more ih =>
    intro budget o r url a ho hurl hmethod w hw
    have hfirst : (Wire.ofRequestFrom o r url a).Apart := apart_ofRequestFrom ho hurl hmethod
    have hredirected : ∀ status, ∀ c ∈ (r.redirected status).method.text.toList,
        Url.isVisible c = true := by
      have hget : ∀ c ∈ Method.get.text.toList, Url.isVisible c = true :=
        List.all_eq_true.1 (show "GET".toList.all Url.isVisible = true by decide)
      intro status
      rw [Request.redirected]
      split
      · split
        · exact hmethod
        · exact hget
      · split
        · exact hget
        · exact hmethod
    rcases sent_follow_cons refusal first budget o r url a answer more with
      h | ⟨n, status, target, next, -, hanswer, hnext, h⟩
    · rw [h, List.mem_singleton] at hw
      exact hw ▸ hfirst
    · rw [h, List.mem_cons] at hw
      rcases hw with rfl | hw
      · exact hfirst
      · obtain ⟨head, -, -, -, htarget⟩ := exists_head_of_redirection hanswer
        obtain ⟨-, s, hs⟩ := Head.exists_parse_of_target? htarget
        exact ih (Wire.Origin.sendable_redirected hurl target) (Url.sendable_of_parse hs hnext)
          (hredirected status) w hw

/-- **Every request that is sent stays apart.** -/
theorem apart_of_mem_sent (hurl : Url.parse r.url.toList = .ok url)
    (ha : url.webAuthority? = some a) (hmethod : ∀ c ∈ r.method.text.toList, Url.isVisible c = true)
    {network : Network} {w : Wire} (hw : w ∈ (exchange network r).sent) : w.Apart := by
  obtain ⟨first, heq⟩ := exists_exchange_eq hurl ha network
  rw [heq] at hw
  exact apart_of_mem_sent_follow _ _ Wire.Origin.sendable_first (Url.sendable_of_parse hurl ha)
    hmethod w hw

end Http
end ClusterConsole
