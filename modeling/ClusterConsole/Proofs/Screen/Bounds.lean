import ClusterConsole.Proofs.Screen.Cells
import ClusterConsole.Screen.View

/-!
# What drawing leaves alone

The parts of the screen are drawn one after the other onto the same canvas, and nothing but their
areas keeps them apart.  `ChangesOnly P` says of a step that no cell has changed where `P` fails; it
is a preorder, so a bound for every step is a bound for all of them.

Every part stays in its rows and does not go to the left of its area (`Area.Strip`).  To the right
nothing is said, since that would depend on how titles and lines are cut off.  A frame leaves alone
what lies within it, too (`Area.Border`).
-/

set_option autoImplicit false

namespace ClusterConsole
namespace Screen

/-! ## Places -/

namespace Area

/-- The place is in the area. -/
def Has (a : Area) (x y : Nat) : Prop :=
  a.x ≤ x ∧ x < a.x + a.width ∧ a.y ≤ y ∧ y < a.y + a.height

/-- The place is in one of the rows of the area, and not to the left of it. -/
def Strip (a : Area) (x y : Nat) : Prop := a.x ≤ x ∧ a.y ≤ y ∧ y < a.y + a.height

/-- The place is in the strip, but not within a border. -/
def Border (a : Area) (x y : Nat) : Prop := a.Strip x y ∧ ¬a.inner.Has x y

variable {a : Area} {x y : Nat}

theorem Has.strip (h : a.Has x y) : a.Strip x y := ⟨h.1, h.2.2.1, h.2.2.2⟩

theorem strip_of_inner (h : a.inner.Strip x y) : a.Strip x y := by
  simp only [Strip, inner] at h ⊢
  omega

end Area

namespace Canvas

/-! ## A preorder -/

/-- No cell has changed but at such places. -/
structure ChangesOnly (P : Nat → Nat → Prop) (c c' : Canvas) : Prop where
  cell?_eq : ∀ {x y : Nat}, ¬P x y → c'.cell? x y = c.cell? x y

namespace ChangesOnly

variable {P Q : Nat → Nat → Prop} {c c' c'' : Canvas}

theorem refl (c : Canvas) : ChangesOnly P c c := ⟨fun _ ↦ rfl⟩

theorem trans (h : ChangesOnly P c c') (h' : ChangesOnly P c' c'') : ChangesOnly P c c'' :=
  ⟨fun hP ↦ (h'.cell?_eq hP).trans (h.cell?_eq hP)⟩

theorem mono (h : ChangesOnly P c c') (hPQ : ∀ x y, P x y → Q x y) : ChangesOnly Q c c' :=
  ⟨fun hQ ↦ h.cell?_eq fun hP ↦ hQ (hPQ _ _ hP)⟩

theorem foldl {α : Type} {f : Canvas → α → Canvas} {l : List α}
    (h : ∀ i ∈ l, ∀ c, ChangesOnly P c (f c i)) (c : Canvas) : ChangesOnly P c (l.foldl f c) := by
  induction l generalizing c with
  | nil => exact refl c
  | cons i l ih =>
    rw [List.forall_mem_cons] at h
    exact (h.1 c).trans (ih h.2 (f c i))

end ChangesOnly

/-! ## Cells, glyphs and rows of them -/

section

variable (c : Canvas) (a : Area)

theorem changesOnly_modify (x y : Nat) (change : Cell → Cell) :
    ChangesOnly (fun x' y' ↦ x' = x ∧ y' = y) c (c.modify x y change) :=
  ⟨fun h ↦ by rw [cell?_modify, if_neg h]⟩

theorem changesOnly_modifyArea (change : Cell → Cell) :
    ChangesOnly a.Has c (c.modifyArea a change) := by
  refine .foldl (fun j hj c ↦ .foldl (fun i hi c ↦ ?_) c) c
  rw [List.mem_range] at hi hj
  refine (changesOnly_modify c _ _ change).mono fun x y h ↦ ?_
  obtain ⟨rfl, rfl⟩ := h
  simp only [Area.Has]
  omega

theorem changesOnly_putAll (x y : Nat) (gs : List Glyph) :
    ChangesOnly (fun x' y' ↦ x ≤ x' ∧ y' = y) c (c.putAll x y gs) :=
  ⟨fun h ↦ by rw [cell?_putAll, if_neg fun h' ↦ h ⟨h'.2, h'.1⟩]⟩

theorem changesOnly_putRows (centered : Bool) (rows : List (List Glyph)) :
    ChangesOnly a.Strip c (c.putRows a centered rows) := by
  refine ⟨fun {x y} h ↦ ?_⟩
  rw [cell?_putRows]
  split
  · next hy =>
    split
    · next row hrow =>
      -- the row is one of those of the area, so the place is to the left of it
      have hindex := (List.getElem?_eq_some_iff.1 hrow).1
      rw [List.length_take] at hindex
      have hleft : ¬rowStart a centered row ≤ x := fun hx ↦
        h ⟨Nat.le_trans (Nat.le_add_right _ _) hx, hy, by omega⟩
      exact (changesOnly_putAll c _ _ row).cell?_eq fun h' ↦ hleft h'.1
    · rfl
  · rfl

theorem changesOnly_drawLines (centered : Bool) (lines : List Line) :
    ChangesOnly a.Strip c (c.drawLines a centered lines) := by
  rw [drawLines]
  split
  · exact .refl c
  · exact changesOnly_putRows c a centered _

theorem changesOnly_drawWrapped (scroll : Nat) (lines : List Line) :
    ChangesOnly a.Strip c (c.drawWrapped a scroll lines) := by
  rw [drawWrapped]
  split
  · exact .refl c
  · exact changesOnly_putRows c a false _

/-! ## Frames -/

theorem changesOnly_drawBorder (s : Style) (h : a.isEmpty = false) :
    ChangesOnly a.Border c (c.drawBorder a s) := by
  rw [Area.isEmpty_eq_false] at h
  have hedge : ∀ (edge : Area), (∀ x y, edge.Has x y → a.Border x y) → ∀ (symbol : Char) c,
      ChangesOnly a.Border c (c.fill edge symbol s) := fun edge hedge symbol c ↦
    (changesOnly_modifyArea c edge _).mono hedge
  have hcorner : ∀ x y, a.Border x y → ∀ (g : Glyph) c, ChangesOnly a.Border c (c.put x y g) :=
    fun x y hcorner g c ↦ (changesOnly_modify c x y g.onto).mono fun x' y' h' ↦ by
      rwa [h'.1, h'.2]
  refine (hedge _ ?_ _ c).trans <| (hedge _ ?_ _ _).trans <| (hedge _ ?_ _ _).trans <|
    (hedge _ ?_ _ _).trans <| (hcorner _ _ ?_ _ _).trans <| (hcorner _ _ ?_ _ _).trans <|
    (hcorner _ _ ?_ _ _).trans (hcorner _ _ ?_ _ _)
  all_goals simp only [Area.Border, Area.Strip, Area.Has, Area.inner]
  all_goals omega

theorem changesOnly_drawTitle (title : Span) (h : a.isEmpty = false) :
    ChangesOnly a.Border c (c.drawTitle a title) := by
  rw [Area.isEmpty_eq_false] at h
  have hrow : ∀ x gs, a.x ≤ x → ChangesOnly a.Border c (c.putAll x a.y gs) := by
    intro x gs hx
    refine (changesOnly_putAll c x a.y gs).mono fun x' y' h' ↦ ?_
    simp only [Area.Border, Area.Strip, Area.Has, Area.inner]
    omega
  rw [drawTitle]
  split
  · exact hrow _ _ (by omega)
  split
  · exact hrow _ _ (by omega)
  · exact hrow _ _ (by omega)

theorem changesOnly_drawFrame (border : Style) (title : Span) :
    ChangesOnly a.Border c (c.drawFrame a border title) := by
  rw [drawFrame]
  split
  · exact .refl c
  · next h =>
    rw [Bool.not_eq_true] at h
    exact (changesOnly_drawBorder c a border h).trans (changesOnly_drawTitle _ a title h)

variable {c a} in
/-- A frame, and something drawn within it. -/
theorem ChangesOnly.framed {c' : Canvas} {border : Style} {title : Span}
    (h : ChangesOnly a.inner.Strip (c.drawFrame a border title) c') : ChangesOnly a.Strip c c' :=
  ((changesOnly_drawFrame c a border title).mono fun _ _ h ↦ h.1).trans
    (h.mono fun _ _ ↦ Area.strip_of_inner)

end

end Canvas

/-! ## The parts of the screen -/

section

open Canvas

variable (c : Canvas) (a : Area)

theorem changesOnly_drawHeader (base : String) (inFlight : Nat) :
    ChangesOnly a.Strip c (drawHeader c a base inFlight) :=
  .framed (changesOnly_drawLines _ a.inner _ _)

theorem changesOnly_drawTabs (inFlight : Operation → Nat) (active : Operation) :
    ChangesOnly a.Strip c (drawTabs c a inFlight active) :=
  ((changesOnly_modifyArea c a _).mono fun _ _ ↦ Area.Has.strip).trans
    (changesOnly_drawLines _ a _ _)

theorem changesOnly_drawForm (f : Form) : ChangesOnly a.Strip c (drawForm c a f) := by
  rw [drawForm]
  split
  · exact .framed (changesOnly_drawLines _ a.inner _ _)
  · exact .framed (changesOnly_drawLines _ a.inner _ _)

theorem changesOnly_drawResult (timeOfDay : Instant → String) (s : StatusArea) :
    ChangesOnly a.Strip c (drawResult timeOfDay c a s) := by
  rw [drawResult]
  split
  · exact .framed (changesOnly_drawWrapped _ a.inner _ _)
  · exact (changesOnly_drawFrame c a _ _).mono fun _ _ h ↦ h.1

theorem changesOnly_drawFooter (hasFields : Bool) :
    ChangesOnly a.Strip c (drawFooter c a hasFields) := changesOnly_drawLines c a _ _

end

end Screen
end ClusterConsole
