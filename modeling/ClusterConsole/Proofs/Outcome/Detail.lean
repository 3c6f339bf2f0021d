import ClusterConsole.Proofs.Json.Pretty
import ClusterConsole.Proofs.Json.Shape
import ClusterConsole.Proofs.Outcome

/-!
# What is shown is what the server said

The operations that read show the server's answer below their message, not as it came but spread
over lines.  Nothing is lost by that: the lines are read back as the value that the answer was read
as, and since every line break was put there by the printer, no name and no string is torn apart.

Only doubles are left out, which are not always read as the double nearest to what is written, so
that what is shown for one need not be read as the same.
-/

set_option autoImplicit false

namespace ClusterConsole

open Http (Response)
open Json (Integral Value)

/-- The text says the value `v`, and only what the value itself is made of is cut into lines. -/
structure Says (v : Value) (text : String) : Prop where
  parse_eq : Json.parse text.toList = .ok v
  breaksOutside : Json.BreaksOutside text.toList

theorem says_prettyString {v : Value} (h : Json.Tidy Json.maxDepth v) : Says v v.prettyString := by
  have htext : v.prettyString.toList = v.pretty := String.toList_ofList
  exact ⟨htext ▸ h.parse_pretty, htext ▸ (h.writes_prettyAt 0).breaksOutside⟩

/-- What is shown for a response in which the value `v` was read. -/
structure ShowsValue (api : Api) (send : Transport) (v : Value) : Prop where
  /-- Asked for one cluster, the console shows the value. -/
  details : ∀ ns, ns ≠ "" → ∃ detail,
    (api.execute (.details ns) send).outcome =
      ⟨⟨.success, "query succeeded", some detail⟩, false⟩ ∧ Says v detail
  /-- Asked for the list of clusters, it shows an array with its items and tells how many there
  are.  A list that is missing is an empty one. -/
  list : ∀ items, v = .array items ∨ v = .null ∧ items = [] → ∃ detail,
    (api.execute .list send).outcome =
      ⟨⟨.success, "found " ++ toString items.length ++ " clusters", some detail⟩, false⟩ ∧
    Says (.array items) detail

/-- **The further lines of a result are the server's data.** -/
theorem shows_value_of_parse (api : Api) {send : Transport} {resp : Response} {v : Value}
    (hsend : ∀ q, (send q).reply = .ok resp) (hresp : resp.Succeeds)
    (hbody : Json.parse resp.body.toList = .ok v) (hv : Integral v) : ShowsValue api send v := by
  have htidy : Json.Tidy Json.maxDepth v := Json.tidy_of_parse hbody hv
  refine ⟨fun ns hns ↦ ⟨v.prettyString, ?_, says_prettyString htidy⟩, fun items hitems ↦ ?_⟩
  · have hcheck : (Submission.details ns).check = .ok (.details ns) := by
      simp [Submission.check, Submission.checkNamespace, hns, Except.map]
    exact (Ends.shown hcheck rfl hresp rfl hbody).outcome_eq hsend
  · have hread : Json.parse resp.body.toList = .ok (.array items) ∨
        Json.parse resp.body.toList = .ok .null ∧ items = [] := by
      rcases hitems with rfl | ⟨rfl, hempty⟩
      · exact .inl hbody
      · exact .inr ⟨hbody, hempty⟩
    refine ⟨(Value.array items).prettyString, ?_, says_prettyString ?_⟩
    · exact (Ends.listed (s := .list) rfl rfl hresp rfl hread).outcome_eq hsend
    · rcases hitems with rfl | ⟨-, rfl⟩
      · exact htidy
      · exact .array (List.forall_mem_nil _)

/-- Two clusters, one with a member that is there twice, and with a line break and a quotation mark
in a text. -/
theorem shows_value_of_parse_twoClusters :
    let body := "[\x7b\"b\":\"x\\n\\\"\",\"a\":7,\"a\":[-0,18446744073709551615]\x7d, null]"
    let v : Value := .array [.object [("a", .array [.number (.real true .zero),
      .number (.whole 18446744073709551615)]), ("b", .string "x\n\"")], .null]
    let send := Transport.always (.ok ⟨200, "OK", body⟩)
    Json.parse body.toList = .ok v ∧ Integral v ∧ ShowsValue ⟨"http://api.test"⟩ send v := by
  intro body v send
  have hbody : Json.parse body.toList = .ok v := by cbv
  have hcluster : Integral (.object [("a", .array [.number (.real true .zero),
      .number (.whole 18446744073709551615)]), ("b", .string "x\n\"")]) := by
    refine .object (List.forall_mem_cons.2 ⟨.array (List.forall_mem_cons.2 ⟨.zero true, ?_⟩),
      List.forall_mem_singleton.2 (.string _)⟩)
    exact List.forall_mem_singleton.2 (.number ⟨by decide, by decide⟩)
  have hv : Integral v :=
    .array (List.forall_mem_cons.2 ⟨hcluster, List.forall_mem_singleton.2 .null⟩)
  exact ⟨hbody, hv, shows_value_of_parse _ (fun _ ↦ rfl) ⟨by decide, by decide⟩ hbody hv⟩

end ClusterConsole
