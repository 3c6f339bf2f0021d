import ClusterConsole.Text.Utf8

/-!
# Text survives being written as bytes

`decode?_utf8`: the bytes of a text are read back as that text, so two texts with the same bytes
are the same (`utf8_inj`).

The reader goes byte by byte and keeps the character it has begun, while the bytes of a character
are given by four formulas, one for each length.  `Begins` is where the two meet: the first byte of
a character announces how many follow, and the range it allows for the second byte contains the one
that comes.  This is the only place where the gaps in the ranges matter.

Of bytes that need not be those of a text, this much can be said: if they can be read at all, every
byte of ASCII among them is a character (`mem_of_decode?`).
-/

set_option autoImplicit false

namespace ClusterConsole
namespace Text
namespace Utf8

/-- A list is read as a whole if each of its elements can be read. -/
theorem mapM_eq_some_iff {α β : Type} {f : α → Option β} {l : List α} {s : List β} :
    l.mapM f = some s ↔ l.map f = s.map some := by
  induction l generalizing s with
  | nil => cases s <;> simp
  | cons x rest ih =>
    rw [List.mapM_cons]
    cases hx : f x with
    | none => cases s <;> simp [hx]
    | some y =>
      cases s with
      | nil => cases hrest : rest.mapM f <;> simp
      | cons z more =>
        cases hrest : rest.mapM f <;> simp [hx, ← ih, hrest]

/-! ## The bytes of one character -/

section

variable {c : Char}

theorem utf8EncodeChar_one (h : c.toNat ≤ 0x7f) :
    String.utf8EncodeChar c = [UInt8.ofNat c.toNat] := if_pos h

theorem utf8EncodeChar_two (h : 0x7f < c.toNat) (h' : c.toNat ≤ 0x7ff) :
    String.utf8EncodeChar c =
      [UInt8.ofNat (c.toNat / 0x40 % 0x20 + 0xc0), UInt8.ofNat (c.toNat % 0x40 + 0x80)] :=
  (if_neg (Nat.not_le.2 h)).trans (if_pos h')

theorem utf8EncodeChar_three (h : 0x7ff < c.toNat) (h' : c.toNat ≤ 0xffff) :
    String.utf8EncodeChar c =
      [UInt8.ofNat (c.toNat / 0x1000 % 0x10 + 0xe0), UInt8.ofNat (c.toNat / 0x40 % 0x40 + 0x80),
        UInt8.ofNat (c.toNat % 0x40 + 0x80)] := by
  have h₁ : ¬c.toNat ≤ 0x7f := by omega
  exact (if_neg h₁).trans ((if_neg (Nat.not_le.2 h)).trans (if_pos h'))

theorem utf8EncodeChar_four (h : 0xffff < c.toNat) :
    String.utf8EncodeChar c =
      [UInt8.ofNat (c.toNat / 0x40000 % 0x08 + 0xf0),
        UInt8.ofNat (c.toNat / 0x1000 % 0x40 + 0x80), UInt8.ofNat (c.toNat / 0x40 % 0x40 + 0x80),
        UInt8.ofNat (c.toNat % 0x40 + 0x80)] := by
  have h₁ : ¬c.toNat ≤ 0x7f := by omega
  have h₂ : ¬c.toNat ≤ 0x7ff := by omega
  exact (if_neg h₁).trans ((if_neg h₂).trans (if_neg (Nat.not_le.2 h)))

/-- The bytes of a character beyond ASCII are beyond ASCII. -/
theorem le_of_mem_utf8EncodeChar (h : 0x7f < c.toNat) {b : UInt8}
    (hb : b ∈ String.utf8EncodeChar c) : 0x80 ≤ b.toNat := by
  by_cases h2 : c.toNat ≤ 0x7ff
  · rw [utf8EncodeChar_two h h2] at hb
    simp at hb
    rcases hb with rfl | rfl <;> simp <;> omega
  by_cases h3 : c.toNat ≤ 0xffff
  · rw [utf8EncodeChar_three (by omega) h3] at hb
    simp at hb
    rcases hb with rfl | rfl | rfl <;> simp <;> omega
  · rw [utf8EncodeChar_four (by omega)] at hb
    simp at hb
    rcases hb with rfl | rfl | rfl | rfl <;> simp <;> omega

end

/-- A code point is no half of a pair, and not beyond the last one. -/
theorem toNat_valid (c : Char) : c.toNat < 0xd800 ∨ 0xdfff < c.toNat ∧ c.toNat < 0x110000 := c.valid

/-! ## The first byte -/

/-- The byte `b` begins a character of which `n` more bytes come, the next of them `next`. -/
def Begins (b : UInt8) (n bits next : Nat) : Prop :=
  ∃ low high, start b = .several ⟨n, low, high, bits⟩ ∧ low ≤ next ∧ next ≤ high

theorem start_of_lead {b : UInt8} {l : Lead} (h : 0x80 ≤ b.toNat) (hl : lead? b.toNat = some l) :
    start b = .several ⟨l.following, l.low, l.high, l.bits⟩ := by
  rw [start, if_neg (Nat.not_lt.2 h), hl]

theorem begins_two {n : Nat} (h : 0x7f < n) (h' : n ≤ 0x7ff) :
    Begins (UInt8.ofNat (n / 0x40 % 0x20 + 0xc0)) 1 (n / 0x40) (n % 0x40 + 0x80) := by
  have hb : (UInt8.ofNat (n / 0x40 % 0x20 + 0xc0)).toNat = n / 0x40 + 0xc0 := by
    rw [UInt8.toNat_ofNat']
    omega
  have hlead : lead? (n / 0x40 + 0xc0) = some ⟨1, 0x80, 0xbf, n / 0x40⟩ := by
    rw [lead?, if_pos (by simp; omega), Nat.add_sub_cancel]
  refine ⟨0x80, 0xbf, start_of_lead (by omega) (hb ▸ hlead), by omega, by omega⟩

/-- The ranges of the second byte keep out what two bytes could say, and the halves of pairs. -/
theorem begins_three {n : Nat} (h : 0x7ff < n) (h' : n ≤ 0xffff) (hn : n < 0xd800 ∨ 0xdfff < n) :
    Begins (UInt8.ofNat (n / 0x1000 % 0x10 + 0xe0)) 2 (n / 0x1000) (n / 0x40 % 0x40 + 0x80) := by
  have hb : (UInt8.ofNat (n / 0x1000 % 0x10 + 0xe0)).toNat = n / 0x1000 + 0xe0 := by
    rw [UInt8.toNat_ofNat']
    omega
  rcases Nat.eq_zero_or_pos (n / 0x1000) with hzero | hpos
  · have hlead : lead? (n / 0x1000 + 0xe0) = some ⟨2, 0xa0, 0xbf, n / 0x1000⟩ := by
      rw [hzero]
      rfl
    exact ⟨0xa0, 0xbf, start_of_lead (by omega) (hb ▸ hlead), by omega, by omega⟩
  by_cases hd : n / 0x1000 = 0xd
  · have hlead : lead? (n / 0x1000 + 0xe0) = some ⟨2, 0x80, 0x9f, n / 0x1000⟩ := by
      rw [hd]
      rfl
    exact ⟨0x80, 0x9f, start_of_lead (by omega) (hb ▸ hlead), by omega, by omega⟩
  · have hlead : lead? (n / 0x1000 + 0xe0) = some ⟨2, 0x80, 0xbf, n / 0x1000⟩ := by
      rw [lead?, if_neg (by simp), if_neg (by simp; omega), if_neg (by simp; omega),
        if_pos (by simp; omega), Nat.add_sub_cancel]
    exact ⟨0x80, 0xbf, start_of_lead (by omega) (hb ▸ hlead), by omega, by omega⟩

/-- The ranges of the second byte keep out what three bytes could say, and what is beyond the last
code point. -/
theorem begins_four {n : Nat} (h : 0xffff < n) (h' : n < 0x110000) :
    Begins (UInt8.ofNat (n / 0x40000 % 0x08 + 0xf0)) 3 (n / 0x40000)
      (n / 0x1000 % 0x40 + 0x80) := by
  have hb : (UInt8.ofNat (n / 0x40000 % 0x08 + 0xf0)).toNat = n / 0x40000 + 0xf0 := by
    rw [UInt8.toNat_ofNat']
    omega
  rcases Nat.eq_zero_or_pos (n / 0x40000) with hzero | hpos
  · have hlead : lead? (n / 0x40000 + 0xf0) = some ⟨3, 0x90, 0xbf, n / 0x40000⟩ := by
      rw [hzero]
      rfl
    exact ⟨0x90, 0xbf, start_of_lead (by omega) (hb ▸ hlead), by omega, by omega⟩
  by_cases hfour : n / 0x40000 = 4
  · have hlead : lead? (n / 0x40000 + 0xf0) = some ⟨3, 0x80, 0x8f, n / 0x40000⟩ := by
      rw [hfour]
      rfl
    exact ⟨0x80, 0x8f, start_of_lead (by omega) (hb ▸ hlead), by omega, by omega⟩
  · have hlead : lead? (n / 0x40000 + 0xf0) = some ⟨3, 0x80, 0xbf, n / 0x40000⟩ := by
      rw [lead?, if_neg (by simp), if_neg (by simp), if_neg (by simp), if_neg (by simp),
        if_neg (by simp; omega), if_pos (by simp; omega), Nat.add_sub_cancel]
    exact ⟨0x80, 0xbf, start_of_lead (by omega) (hb ▸ hlead), by omega, by omega⟩

/-! ## Reading on -/

variable {done : List (Option Char)} {rest : List UInt8}

/-- A byte that is allowed and not the last adds its bits. -/
theorem scan_more {missing low high bits x : Nat} (hlow : low ≤ x % 0x40 + 0x80)
    (hhigh : x % 0x40 + 0x80 ≤ high) :
    scan done (some ⟨missing + 2, low, high, bits⟩) (UInt8.ofNat (x % 0x40 + 0x80) :: rest) =
      scan done (some ⟨missing + 1, 0x80, 0xbf, bits * 64 + x % 0x40⟩) rest := by
  have hb : (UInt8.ofNat (x % 0x40 + 0x80)).toNat = x % 0x40 + 0x80 := by
    rw [UInt8.toNat_ofNat']
    omega
  rw [scan, hb, if_pos (by simp [hlow, hhigh]), Nat.add_sub_cancel]
  exact if_neg (by simp)

/-- The last byte of a character ends it. -/
theorem scan_last {low high bits x : Nat} (hlow : low ≤ x % 0x40 + 0x80)
    (hhigh : x % 0x40 + 0x80 ≤ high) :
    scan done (some ⟨1, low, high, bits⟩) (UInt8.ofNat (x % 0x40 + 0x80) :: rest) =
      scan (some (Char.ofNat (bits * 64 + x % 0x40)) :: done) none rest := by
  have hb : (UInt8.ofNat (x % 0x40 + 0x80)).toNat = x % 0x40 + 0x80 := by
    rw [UInt8.toNat_ofNat']
    omega
  rw [scan, hb, if_pos (by simp [hlow, hhigh]), Nat.add_sub_cancel]
  exact if_pos (Nat.le_refl 1)

/-- The bytes of a character are read as that character. -/
theorem scan_utf8EncodeChar (c : Char) :
    scan done none (String.utf8EncodeChar c ++ rest) = scan (some c :: done) none rest := by
  have hvalid := toNat_valid c
  have hchar : ∀ n, n = c.toNat → Char.ofNat n = c := fun n h ↦ h ▸ Char.ofNat_toNat c
  by_cases h₁ : c.toNat ≤ 0x7f
  · have hb : (UInt8.ofNat c.toNat).toNat = c.toNat := by
      rw [UInt8.toNat_ofNat']
      omega
    have hstart : start (UInt8.ofNat c.toNat) = .char c := by
      rw [start, hb, if_pos (by omega), hchar _ rfl]
    rw [utf8EncodeChar_one h₁, List.singleton_append, scan, hstart]
  by_cases h₂ : c.toNat ≤ 0x7ff
  · obtain ⟨low, high, hstart, hlow, hhigh⟩ := begins_two (Nat.not_le.1 h₁) h₂
    rw [utf8EncodeChar_two (by omega) h₂, List.cons_append, scan, hstart]
    refine (scan_last hlow hhigh).trans ?_
    rw [hchar _ (by omega)]
    rfl
  by_cases h₃ : c.toNat ≤ 0xffff
  · obtain ⟨low, high, hstart, hlow, hhigh⟩ := begins_three (Nat.not_le.1 h₂) h₃ (by omega)
    rw [utf8EncodeChar_three (by omega) h₃, List.cons_append, scan, hstart]
    refine (scan_more hlow hhigh).trans ((scan_last (by omega) (by omega)).trans ?_)
    rw [hchar _ (by omega)]
    rfl
  · obtain ⟨low, high, hstart, hlow, hhigh⟩ := begins_four (Nat.not_le.1 h₃) (by omega)
    rw [utf8EncodeChar_four (by omega), List.cons_append, scan, hstart]
    refine (scan_more hlow hhigh).trans ((scan_more (by omega) (by omega)).trans
      ((scan_last (by omega) (by omega)).trans ?_))
    rw [hchar _ (by omega)]
    rfl

theorem scan_utf8 (s : List Char) (done : List (Option Char)) :
    scan done none (utf8 s) = done.reverse ++ s.map some := by
  induction s generalizing done with
  | nil =>
    rw [List.map_nil, List.append_nil]
    rfl
  | cons c rest ih =>
    rw [utf8, List.flatMap_cons, scan_utf8EncodeChar]
    refine (ih _).trans ?_
    rw [List.reverse_cons, List.append_assoc, List.map_cons]
    rfl

/-- **The bytes of a text are read back as that text.** -/
theorem decode?_utf8 (s : List Char) : decode? (utf8 s) = some s := by
  rw [decode?, scan_utf8, List.reverse_nil, List.nil_append, mapM_eq_some_iff, List.map_id]

/-- The reading that never fails agrees. -/
theorem decode_utf8 (s : List Char) : decode (utf8 s) = s := by
  rw [decode, scan_utf8, List.reverse_nil, List.nil_append, List.map_map]
  exact List.map_id s

theorem length_utf8 (s : List Char) : (utf8 s).length = byteCount s := by
  induction s with
  | nil => rfl
  | cons c rest ih =>
    rw [utf8, List.flatMap_cons, List.length_append, String.length_utf8EncodeChar]
    exact congrArg (c.utf8Size + ·) ih

/-- Different texts have different bytes. -/
theorem utf8_inj {s t : List Char} (h : utf8 s = utf8 t) : s = t := by
  have hsome : some s = some t := by rw [← decode?_utf8 s, h, decode?_utf8]
  exact Option.some_inj.1 hsome

/-! ## Bytes of ASCII -/

section

variable {bytes : List UInt8}

/-- What has been read stays. -/
theorem mem_scan {x : Option Char} : ∀ {done : List (Option Char)} {o : Option Open}, x ∈ done →
    x ∈ scan done o bytes := by
  induction bytes with
  | nil =>
    intro done o h
    cases o <;> simp [scan, h]
  | cons b rest ih =>
    intro done o h
    cases o with
    | none =>
      rw [scan]
      split <;> exact ih (by simp [h])
    | some o =>
      rw [scan]
      split
      · simp only
        split <;> exact ih (by simp [h])
      · split <;> exact ih (by simp [h])

/-- The second byte of a character of several bytes is beyond ASCII. -/
theorem le_low_of_start {b : UInt8} {o : Open} (h : start b = .several o) : 0x80 ≤ o.low := by
  have hlead : ∀ {n : Nat} {l : Lead}, lead? n = some l → 0x80 ≤ l.low := by
    intro n l hl
    rw [lead?] at hl
    repeat' split at hl
    all_goals
      cases hl
      try exact Nat.le_refl _
    all_goals decide
  rw [start] at h
  split at h
  · cases h
  · split at h
    · next l hl =>
      cases h
      exact hlead hl
    · cases h

/-- A byte of ASCII is read as a character wherever it stands, since it neither begins nor continues
a longer one. -/
theorem mem_scan_of_ascii {b : UInt8} (hb : b.toNat < 0x80) :
    ∀ {done : List (Option Char)} {o : Option Open}, (∀ p ∈ o, 0x80 ≤ p.low) → b ∈ bytes →
      some (Char.ofNat b.toNat) ∈ scan done o bytes := by
  have hstart : start b = .char (Char.ofNat b.toNat) := by rw [start, if_pos hb]
  have hlow : ∀ {c : UInt8} {o : Open}, start c = .several o → ∀ p ∈ some o, 0x80 ≤ p.low := by
    rintro c o h p ⟨⟩
    exact le_low_of_start h
  induction bytes with
  | nil => exact fun _ hmem ↦ absurd hmem List.not_mem_nil
  | cons c rest ih =>
    intro done o ho hmem
    rcases List.mem_cons.1 hmem with rfl | hrest
    · cases o with
      | none =>
        rw [scan, hstart]
        exact mem_scan (by simp)
      | some o =>
        have hnot : ¬(o.low ≤ b.toNat && b.toNat ≤ o.high) = true := by
          have := ho o rfl
          simp only [Bool.and_eq_true, decide_eq_true_eq]
          omega
        rw [scan, if_neg hnot, hstart]
        exact mem_scan (by simp)
    · cases o with
      | none =>
        rw [scan]
        split
        · exact ih nofun hrest
        · next hs => exact ih (hlow hs) hrest
        · exact ih nofun hrest
      | some o =>
        rw [scan]
        split
        · simp only
          split
          · exact ih nofun hrest
          · exact ih (by rintro p ⟨⟩; exact Nat.le_refl _) hrest
        · split
          · exact ih nofun hrest
          · next hs => exact ih (hlow hs) hrest
          · exact ih nofun hrest

/-- In a text that has been read, every byte of ASCII is a character. -/
theorem mem_of_decode? {s : List Char} {b : UInt8} (h : decode? bytes = some s)
    (hb : b.toNat < 0x80) (hmem : b ∈ bytes) : Char.ofNat b.toNat ∈ s := by
  have hscan : some (Char.ofNat b.toNat) ∈ scan [] none bytes := mem_scan_of_ascii hb nofun hmem
  rw [decode?, mapM_eq_some_iff, List.map_id] at h
  rw [h] at hscan
  obtain ⟨c, hc, heq⟩ := List.mem_map.1 hscan
  exact Option.some.inj heq ▸ hc

end

end Utf8
end Text
end ClusterConsole
