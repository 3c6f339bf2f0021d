import ClusterConsole.Proofs.StatusArea

/-!
# Only the newest message is ever hidden

A message that is final hides itself some time after it came, and the danger is that the deadline of
an old message is still there when a new one is shown.  So visibility is described by what was done
with the area, not by its deadline: `Last` picks the last message among the operations and those
that came after it, and `Stage` says what an area is by these alone.  Every operation leads from one
stage to another (`Stage.step`), whatever the times are, which need not be in order.

`auto_hide_of_run` is the main result.
-/

set_option autoImplicit false

namespace ClusterConsole

theorem Kind.isFinal_iff {k : Kind} : k.isFinal = true ↔ k = .success ∨ k = .error := by
  cases k <;> decide

theorem Kind.isFinal_eq_false_iff {k : Kind} : k.isFinal = false ↔ k = .info := by
  cases k <;> decide

theorem Instant.eq_of_after {now d : Instant} {delay : Duration} (h : now.after delay = .ok d) :
    d = now + delay := by
  rw [after] at h
  split at h
  · exact (Except.ok.inj h).symm
  · cases h

namespace StatusArea

/-! ## Operations -/

/-- What can be done with a status area. -/
inductive Op where
  | apply (u : Update) (now : Instant)
  | tick (now : Instant)
  | scrollDown (amount : Nat)
  | scrollUp (amount : Nat)

/-- The area after an operation. -/
def step (a : StatusArea) : Op → Except Crash StatusArea
  | .apply u now => a.apply u now
  | .tick now => .ok (a.tick now)
  | .scrollDown amount => .ok (a.scrollDown amount)
  | .scrollUp amount => .ok (a.scrollUp amount)

/-- The area after several operations. -/
def run (a : StatusArea) : List Op → Except Crash StatusArea
  | [] => .ok a
  | op :: rest =>
    match a.step op with
    | .error crash => .error crash
    | .ok b => run b rest

/-- What holds before any operation and is kept by each holds after all of them. -/
theorem run_induction {P : List Op → StatusArea → Prop} {a b : StatusArea} {ops : List Op}
    (hstart : P [] a) (hstep : ∀ done a op b, P done a → a.step op = .ok b → P (done ++ [op]) b)
    (h : a.run ops = .ok b) : P ops b := by
  have hrun : ∀ (rest done : List Op) (a : StatusArea), P done a → a.run rest = .ok b →
      P (done ++ rest) b := by
    intro rest
    induction rest with
    | nil =>
      rintro done a ha ⟨⟩
      exact (List.append_nil done).symm ▸ ha
    | cons op rest ih =>
      intro done a ha h
      rw [run] at h
      split at h
      · exact nomatch h
      · next c hc =>
        rw [List.append_cons]
        exact ih (done ++ [op]) c (hstep done a op c ha hc) h
  exact hrun ops [] a hstart h

theorem delay_step {a b : StatusArea} {op : Op} (h : a.step op = .ok b) : b.delay = a.delay := by
  cases op with
  | apply u now => exact delay_of_apply h
  | tick now =>
    cases h
    exact a.delay_tick now
  | scrollDown amount =>
    cases h
    rfl
  | scrollUp amount =>
    cases h
    rfl

/-- The clock has room for the deadlines of all final messages. -/
def HasRoom (delay : Duration) (ops : List Op) : Prop :=
  ∀ u t, .apply u t ∈ ops → u.kind.isFinal = true → t.after delay = .ok (t + delay)

/-- If the clock has room, then every operation can be done. -/
theorem exists_run_eq_ok {delay : Duration} :
    ∀ {ops : List Op} {a : StatusArea}, a.delay = delay → HasRoom delay ops →
      ∃ b, a.run ops = .ok b := by
  intro ops
  induction ops with
  | nil => exact fun _ _ ↦ ⟨_, rfl⟩
  | cons op rest ih =>
    intro a hdelay hroom
    have hstep : ∃ b, a.step op = .ok b := by
      cases op with
      | apply u now =>
        cases hfinal : u.kind.isFinal with
        | true =>
          have hafter := hroom u now (List.mem_cons_self ..) hfinal
          exact exists_apply_eq_ok (hdelay.symm ▸ hafter) u
        | false =>
          refine ⟨a.showing u now none, ?_⟩
          rw [step, apply, deadline, hfinal]
          rfl
      | _ => exact ⟨_, rfl⟩
    obtain ⟨b, hb⟩ := hstep
    obtain ⟨c, hc⟩ := ih ((delay_step hb).trans hdelay) fun u t hu ↦
      hroom u t (List.mem_cons_of_mem _ hu)
    refine ⟨c, ?_⟩
    rw [run, hb]
    exact hc

/-! ## Ticks -/

theorem isDue_eq_true_iff {a : StatusArea} {now : Instant} :
    a.isDue now = true ↔ ∃ d, a.hideAt = some d ∧ d ≤ now := by
  rw [isDue]
  cases a.hideAt with
  | none => simp
  | some d => simp

@[simp] theorem scroll_tick (a : StatusArea) (now : Instant) : (a.tick now).scroll = a.scroll := by
  rw [tick]
  split <;> rfl

/-- A tick never makes an area visible. -/
theorem visible_of_tick {a : StatusArea} {now : Instant} (h : (a.tick now).visible = true) :
    a.visible = true := by
  rw [tick] at h
  split at h
  · cases h
  · exact h

/-! ## The last message -/

/-- Among the operations, `u` at the time `t` is the last message, and `since` are those after
it. -/
structure Last (ops : List Op) (u : Update) (t : Instant) (since : List Op) : Prop where
  eq_append : ∃ before, ops = before ++ .apply u t :: since
  not_mem : ∀ v t', .apply v t' ∉ since

namespace Last

variable {ops since since' : List Op} {u u' : Update} {t t' : Instant}

theorem of_apply (ops : List Op) (u : Update) (t : Instant) :
    Last (ops ++ [.apply u t]) u t [] := ⟨⟨ops, rfl⟩, fun _ _ ↦ List.not_mem_nil⟩

/-- Operations that are no messages leave the last one what it is. -/
theorem append (h : Last ops u t since) {more : List Op} (hmore : ∀ v t', .apply v t' ∉ more) :
    Last (ops ++ more) u t (since ++ more) := by
  obtain ⟨⟨before, rfl⟩, hnot⟩ := h
  refine ⟨⟨before, by simp⟩, fun v t' hmem ↦ ?_⟩
  exact (List.mem_append.1 hmem).elim (hnot v t') (hmore v t')

theorem mem (h : Last ops u t since) : .apply u t ∈ ops := by
  obtain ⟨⟨before, rfl⟩, -⟩ := h
  exact List.mem_append_right _ (List.mem_cons_self ..)

/-- There is only one last message. -/
theorem unique (h : Last ops u t since) (h' : Last ops u' t' since') :
    u = u' ∧ t = t' ∧ since = since' := by
  obtain ⟨⟨before, rfl⟩, hnot⟩ := h
  obtain ⟨⟨before', heq⟩, hnot'⟩ := h'
  rcases List.append_eq_append_iff.1 heq with ⟨between, -, hbetween⟩ | ⟨between, -, hbetween⟩
  · cases between with
    | nil =>
      obtain ⟨hop, hsince⟩ := List.cons.inj hbetween
      cases hop
      exact ⟨rfl, rfl, hsince⟩
    | cons op between =>
      -- the message on the right would be among the operations after that on the left
      have hmem : .apply u' t' ∈ since := by
        rw [(List.cons.inj hbetween).2]
        exact List.mem_append_right _ (List.mem_cons_self ..)
      exact absurd hmem (hnot u' t')
  · cases between with
    | nil =>
      obtain ⟨hop, hsince⟩ := List.cons.inj hbetween
      cases hop
      exact ⟨rfl, rfl, hsince.symm⟩
    | cons op between =>
      have hmem : .apply u t ∈ since' := by
        rw [(List.cons.inj hbetween).2]
        exact List.mem_append_right _ (List.mem_cons_self ..)
      exact absurd hmem (hnot' u t)

end Last

/-! ## The stages of an area -/

/-- What an area is after the operations `ops`. -/
inductive Stage (delay : Duration) (ops : List Op) (a : StatusArea) : Prop
  /-- No message has come. -/
  | unset (hnone : ∀ u t, .apply u t ∉ ops) (hvisible : a.visible = false)
      (hhideAt : a.hideAt = none)
  /-- The last message is not final, and stays. -/
  | pending {u : Update} {t : Instant} {since : List Op} (hlast : Last ops u t since)
      (hupdate : a.update = u) (hkind : u.kind.isFinal = false) (hvisible : a.visible = true)
      (hhideAt : a.hideAt = none)
  /-- The last message is final, and its deadline has not been seen to pass. -/
  | waiting {u : Update} {t : Instant} {since : List Op} (hlast : Last ops u t since)
      (hupdate : a.update = u) (hkind : u.kind.isFinal = true)
      (hticks : ∀ t', .tick t' ∈ since → t' < t + delay) (hvisible : a.visible = true)
      (hhideAt : a.hideAt = some (t + delay))
  /-- The last message is final, and a tick has hidden it. -/
  | ended {u : Update} {t : Instant} {since : List Op} (hlast : Last ops u t since)
      (hupdate : a.update = u) (hkind : u.kind.isFinal = true)
      (htick : ∃ t', .tick t' ∈ since ∧ t + delay ≤ t') (hvisible : a.visible = false)
      (hhideAt : a.hideAt = none)

namespace Stage

variable {delay : Duration} {ops : List Op} {a b : StatusArea}

/-- A message begins a stage of its own, whatever was there before. -/
theorem of_apply {u : Update} {now : Instant} (hdelay : a.delay = delay)
    (h : a.apply u now = .ok b) : Stage delay (ops ++ [.apply u now]) b := by
  obtain ⟨hideAt, hdeadline, rfl⟩ := eq_showing_of_apply h
  rw [deadline, hdelay] at hdeadline
  cases hfinal : u.kind.isFinal with
  | true =>
    rw [hfinal, if_pos rfl] at hdeadline
    obtain ⟨d, hd, rfl⟩ := Except.exists_of_map_eq_ok hdeadline
    exact .waiting (.of_apply ..) rfl hfinal (fun _ ht ↦ absurd ht List.not_mem_nil) rfl
      (congrArg some (Instant.eq_of_after hd))
  | false =>
    rw [hfinal] at hdeadline
    cases hdeadline
    exact .pending (.of_apply ..) rfl hfinal rfl rfl

/-- An operation that changes neither message nor visibility leaves the stage, unless it is a tick
at the deadline. -/
theorem quiet {op : Op} (h : Stage delay ops a) (hop : ∀ u t, .apply u t ∉ [op])
    (hticks : ∀ t d, op = .tick t → a.hideAt = some d → t < d) (hupdate : b.update = a.update)
    (hvisible : b.visible = a.visible) (hhideAt : b.hideAt = a.hideAt) :
    Stage delay (ops ++ [op]) b := by
  cases h with
  | unset hnone hvisible' hhideAt' =>
    refine .unset (fun u t hmem ↦ ?_) (hvisible.trans hvisible') (hhideAt.trans hhideAt')
    exact (List.mem_append.1 hmem).elim (hnone u t) (hop u t)
  | pending hlast hupdate' hkind hvisible' hhideAt' =>
    exact .pending (hlast.append hop) (hupdate.trans hupdate') hkind (hvisible.trans hvisible')
      (hhideAt.trans hhideAt')
  | waiting hlast hupdate' hkind hbefore hvisible' hhideAt' =>
    refine .waiting (hlast.append hop) (hupdate.trans hupdate') hkind (fun t' hmem ↦ ?_)
      (hvisible.trans hvisible') (hhideAt.trans hhideAt')
    rcases List.mem_append.1 hmem with hmem | hmem
    · exact hbefore t' hmem
    · exact hticks t' _ (List.mem_singleton.1 hmem).symm hhideAt'
  | ended hlast hupdate' hkind htick hvisible' hhideAt' =>
    obtain ⟨t', hmem, hle⟩ := htick
    exact .ended (hlast.append hop) (hupdate.trans hupdate') hkind
      ⟨t', List.mem_append_left _ hmem, hle⟩ (hvisible.trans hvisible') (hhideAt.trans hhideAt')

/-- A tick ends the stage of a message whose deadline has passed, and no other. -/
theorem tick (h : Stage delay ops a) (now : Instant) :
    Stage delay (ops ++ [.tick now]) (a.tick now) := by
  by_cases hdue : a.isDue now = true
  · obtain ⟨d, hd, hle⟩ := isDue_eq_true_iff.1 hdue
    rw [StatusArea.tick, if_pos hdue]
    cases h with
    | unset hnone hvisible hhideAt => cases hd.symm.trans hhideAt
    | pending hlast hupdate hkind hvisible hhideAt => cases hd.symm.trans hhideAt
    | ended hlast hupdate hkind htick hvisible hhideAt => cases hd.symm.trans hhideAt
    | waiting hlast hupdate hkind hticks hvisible hhideAt =>
      cases hd.symm.trans hhideAt
      exact .ended (hlast.append (by simp)) hupdate hkind ⟨now, by simp, hle⟩ rfl rfl
  · rw [StatusArea.tick, if_neg hdue]
    refine h.quiet (by simp) (fun t d ht hd ↦ ?_) rfl rfl rfl
    cases ht
    rw [isDue, hd] at hdue
    simpa using hdue

/-- **Every operation leads from one stage to another.** -/
theorem step {op : Op} (h : Stage delay ops a) (hdelay : a.delay = delay)
    (hstep : a.step op = .ok b) : Stage delay (ops ++ [op]) b := by
  cases op with
  | apply u now => exact .of_apply hdelay hstep
  | tick now =>
    cases hstep
    exact h.tick now
  | scrollDown amount =>
    cases hstep
    exact h.quiet (by simp) nofun rfl rfl rfl
  | scrollUp amount =>
    cases hstep
    exact h.quiet (by simp) nofun rfl rfl rfl

theorem of_run (h : (StatusArea.hidden delay).run ops = .ok a) : Stage delay ops a := by
  have hboth : a.delay = delay ∧ Stage delay ops a := by
    refine run_induction (P := fun ops a ↦ a.delay = delay ∧ Stage delay ops a) ?_ ?_ h
    · exact ⟨rfl, .unset (fun _ _ ↦ List.not_mem_nil) rfl rfl⟩
    · rintro done a op b ⟨hdelay, hstage⟩ hstep
      exact ⟨(delay_step hstep).trans hdelay, hstage.step hdelay hstep⟩
  exact hboth.2

/-! ### What a stage tells -/

theorem update_eq (h : Stage delay ops a) {u : Update} {t : Instant} {since : List Op}
    (hlast : Last ops u t since) : a.update = u := by
  cases h with
  | unset hnone hvisible hhideAt => exact absurd hlast.mem (hnone u t)
  | pending hlast' hupdate hkind hvisible hhideAt => exact hupdate.trans (hlast'.unique hlast).1
  | waiting hlast' hupdate hkind hticks hvisible hhideAt =>
    exact hupdate.trans (hlast'.unique hlast).1
  | ended hlast' hupdate hkind htick hvisible hhideAt => exact hupdate.trans (hlast'.unique hlast).1

theorem visible_iff (h : Stage delay ops a) :
    a.visible = true ↔ ∃ u t since, Last ops u t since ∧
      (u.kind.isFinal = false ∨ ∀ t', .tick t' ∈ since → t' < t + delay) := by
  cases h with
  | unset hnone hvisible hhideAt =>
    rw [hvisible]
    refine ⟨nofun, ?_⟩
    rintro ⟨u, t, since, hlast, -⟩
    exact absurd hlast.mem (hnone u t)
  | pending hlast hupdate hkind hvisible hhideAt =>
    exact iff_of_true hvisible ⟨_, _, _, hlast, .inl hkind⟩
  | waiting hlast hupdate hkind hticks hvisible hhideAt =>
    exact iff_of_true hvisible ⟨_, _, _, hlast, .inr hticks⟩
  | ended hlast hupdate hkind htick hvisible hhideAt =>
    rw [hvisible]
    refine ⟨nofun, ?_⟩
    rintro ⟨u', t', since', hlast', hor⟩
    obtain ⟨rfl, rfl, rfl⟩ := hlast.unique hlast'
    obtain ⟨now, hmem, hle⟩ := htick
    rcases hor with hkind' | hticks
    · exact nomatch hkind.symm.trans hkind'
    · exact absurd hle (Nat.not_le.2 (hticks now hmem))

/-- The deadline is there until a tick has seen it pass. -/
theorem hideAt_eq_some_iff (h : Stage delay ops a) {d : Instant} :
    a.hideAt = some d ↔ ∃ u t since, Last ops u t since ∧ u.kind.isFinal = true ∧ d = t + delay ∧
      ∀ t', .tick t' ∈ since → t' < t + delay := by
  cases h with
  | unset hnone hvisible hhideAt =>
    rw [hhideAt]
    refine ⟨nofun, ?_⟩
    rintro ⟨u, t, since, hlast, -⟩
    exact absurd hlast.mem (hnone u t)
  | pending hlast hupdate hkind hvisible hhideAt =>
    rw [hhideAt]
    refine ⟨nofun, ?_⟩
    rintro ⟨u', t', since', hlast', hkind', -⟩
    obtain ⟨rfl, rfl, rfl⟩ := hlast.unique hlast'
    exact nomatch hkind.symm.trans hkind'
  | waiting hlast hupdate hkind hticks hvisible hhideAt =>
    rw [hhideAt, Option.some.injEq]
    constructor
    · rintro rfl
      exact ⟨_, _, _, hlast, hkind, rfl, hticks⟩
    · rintro ⟨u', t', since', hlast', -, rfl, -⟩
      obtain ⟨rfl, rfl, rfl⟩ := hlast.unique hlast'
      rfl
  | ended hlast hupdate hkind htick hvisible hhideAt =>
    rw [hhideAt]
    refine ⟨nofun, ?_⟩
    rintro ⟨u', t', since', hlast', -, -, hticks⟩
    obtain ⟨rfl, rfl, rfl⟩ := hlast.unique hlast'
    obtain ⟨now, hmem, hle⟩ := htick
    exact absurd hle (Nat.not_le.2 (hticks now hmem))

/-- A deadline is set for the visible messages that are final. -/
theorem isSome_hideAt_iff (h : Stage delay ops a) :
    a.hideAt.isSome = true ↔ a.visible = true ∧ a.kind.isFinal = true := by
  cases h with
  | unset hnone hvisible hhideAt => simp [hvisible, hhideAt]
  | pending hlast hupdate hkind hvisible hhideAt =>
    cases hupdate
    simpa [hvisible, hhideAt, update] using hkind
  | waiting hlast hupdate hkind hticks hvisible hhideAt =>
    cases hupdate
    simpa [hvisible, hhideAt, update] using hkind
  | ended hlast hupdate hkind htick hvisible hhideAt => simp [hvisible, hhideAt]

/-- What a tick answers is decided by the last message and the ticks since then. -/
theorem isDue_iff (h : Stage delay ops a) (now : Instant) :
    a.isDue now = true ↔ ∃ u t since, Last ops u t since ∧ u.kind.isFinal = true ∧
      t + delay ≤ now ∧ ∀ t', .tick t' ∈ since → t' < t + delay := by
  rw [isDue_eq_true_iff]
  simp only [h.hideAt_eq_some_iff]
  constructor
  · rintro ⟨d, ⟨u, t, since, hlast, hkind, rfl, hticks⟩, hle⟩
    exact ⟨u, t, since, hlast, hkind, hle, hticks⟩
  · rintro ⟨u, t, since, hlast, hkind, hle, hticks⟩
    exact ⟨t + delay, ⟨u, t, since, hlast, hkind, rfl, hticks⟩, hle⟩

/-- A tick answers that it hides exactly if the area was visible and is not any more. -/
theorem isDue_iff_hides (h : Stage delay ops a) (now : Instant) :
    a.isDue now = true ↔ a.visible = true ∧ (a.tick now).visible = false := by
  by_cases hdue : a.isDue now = true
  · obtain ⟨d, hd, -⟩ := isDue_eq_true_iff.1 hdue
    have hvisible := (h.isSome_hideAt_iff.1 (hd ▸ rfl)).1
    rw [StatusArea.tick, if_pos hdue]
    exact iff_of_true hdue ⟨hvisible, rfl⟩
  · rw [StatusArea.tick, if_neg hdue]
    refine iff_of_false hdue ?_
    rintro ⟨hvisible, hvisible'⟩
    cases hvisible.symm.trans hvisible'

/-- After a tick that hides, no tick hides until another message comes. -/
theorem isDue_eq_false {before since : List Op} {t : Instant}
    (h : Stage delay (before ++ .tick t :: since) a) (hb : Stage delay before b)
    (hdue : b.isDue t = true) (hsince : ∀ u t', .apply u t' ∉ since) (now : Instant) :
    a.isDue now = false := by
  rw [Bool.eq_false_iff]
  intro hcontra
  obtain ⟨u, t₀, mid, hlast, -, hle, -⟩ := (hb.isDue_iff t).1 hdue
  obtain ⟨u', t₀', since', hlast', -, -, hticks⟩ := (h.isDue_iff now).1 hcontra
  have happend : Last (before ++ .tick t :: since) u t₀ (mid ++ .tick t :: since) :=
    hlast.append (by simpa using hsince)
  obtain ⟨rfl, rfl, rfl⟩ := happend.unique hlast'
  exact absurd hle (Nat.not_le.2 (hticks t (by simp)))

end Stage

/-! ## Visibility -/

/-- The area `a` is what the operations `ops` have made of an area that hides final messages after
`delay`. -/
structure AutoHide (delay : Duration) (ops : List Op) (a : StatusArea) : Prop where
  /-- The last message is in the area, visible or not. -/
  update_eq : ∀ u t since, Last ops u t since → a.update = u
  /-- The area is visible if a message came and either the last one is not final or no tick since
  then was at its deadline or later. -/
  visible_iff : a.visible = true ↔ ∃ u t since, Last ops u t since ∧
    (u.kind = .info ∨ ∀ t', .tick t' ∈ since → t' < t + delay)
  /-- A deadline is set for visible final messages. -/
  isSome_hideAt_iff : a.hideAt.isSome = true ↔
    a.visible = true ∧ (a.kind = .success ∨ a.kind = .error)
  /-- The deadline is that of the last message. -/
  hideAt_eq : ∀ d, a.hideAt = some d → ∃ u t since, Last ops u t since ∧ d = t + delay
  /-- A tick answers that it hides the message exactly if it makes a visible area invisible. -/
  isDue_iff_hides : ∀ now, a.isDue now = true ↔ a.visible = true ∧ (a.tick now).visible = false
  /-- A tick never makes an area visible. -/
  visible_of_tick : ∀ now, (a.tick now).visible = true → a.visible = true
  /-- Only the last message is hidden, and only if it is final: the first tick since then that is
  not before its deadline hides it. -/
  isDue_iff : ∀ now, a.isDue now = true ↔ ∃ u t since, Last ops u t since ∧
    (u.kind = .success ∨ u.kind = .error) ∧ t + delay ≤ now ∧
      ∀ t', .tick t' ∈ since → t' < t + delay
  /-- After a tick that hides, no tick hides until another message comes. -/
  hides_once : ∀ before t since b, ops = before ++ .tick t :: since →
    (hidden delay).run before = .ok b → b.isDue t = true → (∀ u t', .apply u t' ∉ since) →
      ∀ now, a.isDue now = false
  /-- A tick changes neither the message nor from where it is seen. -/
  tick_keeps : ∀ now, (a.tick now).update = a.update ∧ (a.tick now).scroll = a.scroll

/-- **Whether an area is visible is decided by the last message alone**, whatever came before it and
in whatever order the times are.  No deadline of an older message ever hides a newer one. -/
theorem auto_hide_of_run {delay : Duration} {ops : List Op} (hroom : HasRoom delay ops) :
    ∃ a, (hidden delay).run ops = .ok a ∧ AutoHide delay ops a := by
  obtain ⟨a, ha⟩ := exists_run_eq_ok (a := hidden delay) rfl hroom
  have hstage := Stage.of_run ha
  refine ⟨a, ha, ?_⟩
  constructor
  case update_eq => exact fun u t since hlast ↦ hstage.update_eq hlast
  case visible_iff => simpa only [Kind.isFinal_eq_false_iff] using hstage.visible_iff
  case isSome_hideAt_iff => simpa only [Kind.isFinal_iff] using hstage.isSome_hideAt_iff
  case hideAt_eq =>
    intro d hd
    obtain ⟨u, t, since, hlast, -, heq, -⟩ := hstage.hideAt_eq_some_iff.1 hd
    exact ⟨u, t, since, hlast, heq⟩
  case isDue_iff_hides => exact hstage.isDue_iff_hides
  case visible_of_tick => exact fun now ↦ visible_of_tick
  case isDue_iff =>
    intro now
    simpa only [Kind.isFinal_iff] using hstage.isDue_iff now
  case hides_once =>
    rintro before t since b rfl hb hdue hsince now
    exact hstage.isDue_eq_false (.of_run hb) hdue hsince now
  case tick_keeps => exact fun now ↦ ⟨a.update_tick now, a.scroll_tick now⟩

/-- Two final messages, of which the second comes before the deadline of the first, and ticks that
do not come in order: the second message is still there at the deadline of the first. -/
theorem auto_hide_of_run_replaced :
    HasRoom 5 [.apply ⟨.success, "one", none⟩ 0, .tick 2, .apply ⟨.error, "two", none⟩ 3, .tick 7,
      .tick 6] ∧
    ∃ a, (hidden 5).run [.apply ⟨.success, "one", none⟩ 0, .tick 2, .apply ⟨.error, "two", none⟩ 3,
      .tick 7, .tick 6] = .ok a ∧ a.visible = true ∧ a.hideAt = some 8 ∧
      AutoHide 5 [.apply ⟨.success, "one", none⟩ 0, .tick 2, .apply ⟨.error, "two", none⟩ 3,
        .tick 7, .tick 6] a := by
  have hroom : HasRoom 5 [.apply ⟨.success, "one", none⟩ 0, .tick 2,
      .apply ⟨.error, "two", none⟩ 3, .tick 7, .tick 6] := by
    intro u t hmem _
    simp only [List.mem_cons, Op.apply.injEq, reduceCtorEq, false_or, or_false,
      List.not_mem_nil] at hmem
    rcases hmem with ⟨rfl, rfl⟩ | ⟨rfl, rfl⟩ <;> rfl
  obtain ⟨a, ha, hauto⟩ := auto_hide_of_run hroom
  cases ha
  exact ⟨hroom, _, rfl, rfl, rfl, hauto⟩

end StatusArea
end ClusterConsole
