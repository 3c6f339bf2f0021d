import ClusterConsole.Proofs.Text.Percent
import ClusterConsole.Proofs.Text.Pieces
import ClusterConsole.Url.Path

/-!
# Putting one path behind another

Where the path of a URL leads is decided segment by segment, and only the last one is treated in a
way of its own (`Path.follow_append`).  So if a path is put behind another one, then the first path
leads to a place, its stem, and the second goes on from there.

* `Path.Kept` says that a path is kept as it is written: its segments need no escapes, and none of
  them stays or goes back.
* `Path.stem` is what a path becomes when another one is put behind it, and
  `Path.text_segments_append` says so.
* `Path.stem_cases` compares the stem with what the path is on its own.  They differ by a slash if
  the last segment is one that is not kept.
* `Path.isHere_encode` and `Path.isBack_encode` say which percent-encoded texts are such segments.
-/

set_option autoImplicit false

namespace ClusterConsole

namespace Url
namespace Path

open Text (pieces)
open Text.Percent (encode escape)

/-! ## Points -/

theorem hexValue?_of_toLower {c : Char} (h : c.toLower = 'e') :
    Text.Percent.hexValue? c = some 14 := by
  rw [Char.toLower] at h
  split at h
  · next hc =>
    have hval : (c.val + 32).toNat = 101 := congrArg (fun d : Char ↦ d.val.toNat) h
    have hupper : c.val.toNat ≤ 90 := UInt32.le_iff_toNat_le.1 hc.2
    have h32 : (32 : UInt32).toNat = 32 := rfl
    have hE : 'E'.val.toNat = 69 := rfl
    have hc : c = 'E' := by
      rw [UInt32.toNat_add] at hval
      refine Char.ext (UInt32.toNat_inj.1 ?_)
      omega
    rw [hc]
    rfl
  · rw [h]
    rfl

/-- A point and its escape stand for the same byte. -/
theorem decode_pointsOf (s : List Char) :
    Text.Percent.decode (pointsOf s) = Text.Percent.decode s := by
  fun_induction pointsOf s with
  | case1 e rest he ih =>
    have hvalue : Text.Percent.hexValue? e = some 14 := hexValue?_of_toLower he
    have hdigit : Text.Percent.hexValue? '2' = some 2 := rfl
    rw [Text.Percent.decode_cons (by decide), ih, Text.Percent.decode, hdigit, hvalue]
    rfl
  | case2 => rfl
  | case3 rest ih =>
    rw [Text.Percent.decode_cons (by decide), Text.Percent.decode_cons (by decide), ih]
  | case4 => rfl

/-- A percent-encoded text is taken for points only if it is one of points. -/
theorem eq_of_pointsOf_encode {s t : List Char} (h : pointsOf (encode s) = encode t) : s = t := by
  refine Text.Utf8.utf8_inj ?_
  rw [← Text.Percent.decode_encode, ← decode_pointsOf, h, Text.Percent.decode_encode]

theorem isHere_encode {s : List Char} : isHere (encode s) = true ↔ s = ['.'] := by
  rw [isHere, beq_iff_eq]
  constructor
  · intro h
    exact eq_of_pointsOf_encode (t := ['.']) h
  · rintro rfl
    rfl

theorem isBack_encode {s : List Char} : isBack (encode s) = true ↔ s = ['.', '.'] := by
  rw [isBack, beq_iff_eq]
  constructor
  · intro h
    exact eq_of_pointsOf_encode (t := ['.', '.']) h
  · rintro rfl
    rfl

/-! ## Going along segments -/

/-- Goes along a segment that is not the last. -/
def enter (done : List (List Char)) (s : List Char) : List (List Char) :=
  if isBack s then goBack done else if isHere s then done else s :: done

theorem follow_cons (done : List (List Char)) (s : List Char) {rest : List (List Char)}
    (h : rest ≠ []) : follow done (s :: rest) = follow (enter done s) rest := by
  obtain ⟨t, more, rfl⟩ := List.exists_cons_of_ne_nil h
  rw [follow, enter]
  · split
    · rfl
    · split <;> rfl
  · simp

/-- Only the last of the segments is treated in a way of its own. -/
theorem follow_append (first : List (List Char)) {rest : List (List Char)} (h : rest ≠ []) :
    ∀ done, follow done (first ++ rest) = follow (first.foldl enter done) rest := by
  induction first with
  | nil => exact fun _ ↦ rfl
  | cons s more ih =>
    intro done
    rw [List.cons_append, follow_cons done s (by simp [h]), ih]
    rfl

/-- Segments that neither stay nor go back are all kept. -/
theorem follow_of_forall {segs : List (List Char)}
    (h : ∀ s ∈ segs, isHere s = false ∧ isBack s = false) :
    ∀ done, follow done segs = done.reverse ++ segs := by
  induction segs with
  | nil => exact fun done ↦ (List.append_nil _).symm
  | cons s rest ih =>
    intro done
    obtain ⟨hhere, hback⟩ := h s (List.mem_cons_self ..)
    have hrest := ih fun t ht ↦ h t (List.mem_cons_of_mem s ht)
    cases rest with
    | nil => simp [follow, hhere, hback]
    | cons t more => simp [follow_cons, enter, hhere, hback, hrest]

/-! ## The text of a path -/

@[simp] theorem text_append (first rest : List (List Char)) :
    text (first ++ rest) = text first ++ text rest := List.flatMap_append ..

/-- Cutting a path at its slashes loses nothing. -/
theorem text_pieces (s : List Char) : text (pieces '/' s) = '/' :: s := by
  have hjoin : ∀ l : List (List Char), l ≠ [] → text l = '/' :: Text.join '/' l := by
    intro l
    induction l with
    | nil => exact fun h ↦ absurd rfl h
    | cons piece rest ih =>
      intro _
      cases rest with
      | nil => exact List.append_nil _
      | cons next more =>
        rw [Text.join_cons _ _ (List.cons_ne_nil next more), ← ih (List.cons_ne_nil next more)]
        rfl
  rw [hjoin _ (Text.pieces_ne_nil '/' s), Text.join_pieces]

/-- A character that needs no escape in a path, and ends nothing there but a segment. -/
def KeptChar (c : Char) : Prop := Text.Percent.isUnreserved c = true ∨ c ∈ ['/', '%']

/-- A path, given without the slash at its front, that is kept as it is written. -/
structure Kept (s : List Char) : Prop where
  chars : ∀ c ∈ s, KeptChar c
  not_points : ∀ piece ∈ pieces '/' s, isHere piece = false ∧ isBack piece = false

theorem kept_iff (s : List Char) :
    Kept s ↔ (s.all fun c ↦ Text.Percent.isUnreserved c || ['/', '%'].contains c) = true ∧
      ((pieces '/' s).all fun piece ↦ !isHere piece && !isBack piece) = true := by
  simp only [List.all_eq_true, Bool.or_eq_true, Bool.and_eq_true, Bool.not_eq_true',
    List.contains_iff_mem]
  exact ⟨fun h ↦ ⟨h.chars, h.not_points⟩, fun h ↦ ⟨h.1, h.2⟩⟩

instance (s : List Char) : Decidable (Kept s) := decidable_of_iff _ (kept_iff s).symm

/-- What is unreserved needs no escape in a path. -/
theorem isPathPlain_of_isUnreserved {c : Char} (h : Text.Percent.isUnreserved c = true) :
    isPathPlain c = true := by
  obtain ⟨hlow, hhigh⟩ := Text.Percent.range_of_isUnreserved h
  have hreserved : (['"', '<', '>', '\x60'] ++ ['#', '?', '{', '}']).all
      (!Text.Percent.isUnreserved ·) = true := by decide
  have hnot : c ∉ ['"', '<', '>', '\x60'] ++ ['#', '?', '{', '}'] := by
    intro hmem
    simpa [h] using List.all_eq_true.1 hreserved c hmem
  rw [List.mem_append, not_or] at hnot
  simp only [isPathPlain, isFragmentPlain, isVisible, hnot.1, hnot.2, not_false_eq_true,
    decide_true, Bool.and_true, Bool.and_eq_true, decide_eq_true_eq]
  omega

theorem KeptChar.isPathPlain {c : Char} (h : KeptChar c) : isPathPlain c = true := by
  rcases h with hplain | hmem
  · exact isPathPlain_of_isUnreserved hplain
  · exact List.all_eq_true.1 (show ['/', '%'].all Url.isPathPlain = true by decide) c hmem

/-- Where a path leads when another one is put behind it. -/
def stem (s : List Char) : List Char :=
  text (((pieces '/' s).map (escape isPathPlain)).foldl enter []).reverse

theorem Kept.map_escape {s : List Char} (h : Kept s) :
    (pieces '/' s).map (escape Url.isPathPlain) = pieces '/' s := by
  refine (List.map_congr_left fun piece hpiece ↦ ?_).trans (List.map_id _)
  exact Text.Percent.escape_eq_self fun c hc ↦
    (h.chars c (Text.mem_of_mem_pieces hpiece hc)).isPathPlain

theorem text_segments_of_kept {s : List Char} (h : Kept s) : text (segments s) = '/' :: s := by
  rw [segments, h.map_escape, follow_of_forall h.not_points]
  exact text_pieces s

/-- **A path that is kept goes on from the stem of the path before it.** -/
theorem text_segments_append (s : List Char) {t : List Char} (h : Kept t) :
    text (segments (s ++ '/' :: t)) = stem s ++ '/' :: t := by
  rw [segments, Text.pieces_append_mark, List.map_append, h.map_escape,
    follow_append _ (Text.pieces_ne_nil '/' t), follow_of_forall h.not_points, text_append,
    text_pieces, stem]

/-- The stem of a path is what the path is on its own, apart from a slash if its last segment is one
that is not kept. -/
theorem stem_cases (s : List Char) :
    (('/' :: s).getLast? = some '/' ∧ text (segments s) = stem s ∧ (stem s).getLast? = some '/') ∨
    (('/' :: s).getLast? ≠ some '/' ∧
      (text (segments s) = stem s ++ ['/'] ∨
        text (segments s) = stem s ∧ (stem s).getLast? ≠ some '/')) := by
  obtain ⟨first, last, hpieces⟩ : ∃ first last, pieces '/' s = first ++ [last] :=
    List.eq_nil_or_concat' (pieces '/' s) |>.resolve_left (Text.pieces_ne_nil '/' s)
  have hslash : ('/' :: s).getLast? = some '/' ↔ last = [] := by
    rw [← Text.getLast?_pieces_eq_nil_iff, hpieces]
    simp
  have hmem : last ∈ pieces '/' s :=
    hpieces ▸ List.mem_append_right first (List.mem_singleton_self _)
  let done := (first.map (escape isPathPlain)).foldl enter []
  have hsegments : segments s = follow done [escape isPathPlain last] := by
    rw [segments, hpieces, List.map_append, List.map_singleton,
      follow_append _ (List.cons_ne_nil _ _)]
  have hstem : stem s = text (enter done (escape isPathPlain last)).reverse := by
    rw [stem, hpieces, List.map_append, List.foldl_append]
    rfl
  rw [Ne, hslash, hsegments, hstem, follow, enter]
  by_cases hlast : last = []
  · subst hlast
    refine .inl ⟨rfl, rfl, ?_⟩
    simp [escape, isBack, isHere, pointsOf, text]
  refine .inr ⟨hlast, ?_⟩
  by_cases hback : isBack (escape isPathPlain last) = true
  · refine .inl ?_
    rw [if_pos hback, if_pos hback, List.reverse_cons, text_append]
    rfl
  by_cases hhere : isHere (escape isPathPlain last) = true
  · refine .inl ?_
    rw [if_neg hback, if_neg hback, if_pos hhere, if_pos hhere, List.reverse_cons, text_append]
    rfl
  -- the last segment is kept, and has no slash in it
  rw [if_neg hback, if_neg hback, if_neg hhere, if_neg hhere, List.reverse_cons, text_append]
  refine .inr ⟨rfl, fun hends ↦ ?_⟩
  have hin : '/' ∈ escape isPathPlain last := by
    refine List.mem_of_getLast? ?_
    have hne : escape isPathPlain last ≠ [] := Text.Percent.escape_ne_nil hlast
    obtain ⟨c, rest, hescape⟩ := List.exists_cons_of_ne_nil hne
    rw [hescape] at hends ⊢
    simpa [text, List.getLast?_cons] using hends
  rcases Text.Percent.mem_escape hin with ⟨hin, -⟩ | hin | hin
  · exact Text.not_mem_of_mem_pieces hmem hin
  · exact absurd hin (by decide)
  · exact absurd hin (by decide)

end Path
end Url
end ClusterConsole
