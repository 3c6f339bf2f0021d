import ClusterConsole.Proofs.Text.Percent
import ClusterConsole.Proofs.Text.Pieces
import ClusterConsole.Url

/-!
# What a name is read as

A name that can be read was made of labels that can be read (`Name.Reads`), and two things follow
about it.  Nothing in the text it was read from is a blank or a control
(`Name.not_trimmed_of_parse`), which is seen after escapes are resolved and bytes are read: this
keeps every character that is in no escape and of a single byte.  And it is in ASCII, whatever it
was read from (`Name.isAscii_of_parse`): a label with other characters is written by its ASCII
characters, hyphens and digits.

A text that is in ASCII already is read as its small letters (`Name.parse_of_isAscii`), so nothing
of what is said about other characters matters to it.
-/

set_option autoImplicit false

namespace ClusterConsole
namespace Url

/-! ## Labels in ASCII -/

namespace Punycode

variable {c : Char}

theorem isAscii_digit {d : Nat} (h : d < base) : isAscii (digit d) = true := by
  have hall : ∀ d < base, isAscii (digit d) = true := by decide
  exact hall d h

/-- Numbers are written in ASCII. -/
theorem isAscii_of_mem_digits {bias k q : Nat} (h : c ∈ digits bias k q) : isAscii c = true := by
  have hlow := one_le_threshold k bias
  have hhigh := threshold_le k bias
  rw [digits] at h
  split at h
  · next hq =>
    rw [List.mem_singleton.1 h]
    exact isAscii_digit (hq.trans_le (hhigh.trans (by decide)))
  · rcases List.mem_cons.1 h with rfl | h
    · have hmod := Nat.mod_lt (q - threshold k bias) (y := base - threshold k bias)
        (by rw [base]; omega)
      exact isAscii_digit (by omega)
    · exact isAscii_of_mem_digits h
termination_by q
decreasing_by exact (Nat.div_le_self _ _).trans_lt (by omega)

namespace Writer

variable {label : List Char} {n ascii : Nat} {w : Writer}

theorem isAscii_visit (h : w.written.all isAscii = true) (d : Char) :
    (w.visit n ascii d).written.all isAscii = true := by
  rw [visit]
  split
  · exact h
  · split
    · rw [List.all_append, h, Bool.true_and]
      exact List.all_eq_true.2 fun _ ↦ isAscii_of_mem_digits
    · exact h

theorem isAscii_foldl_visit (h : w.written.all isAscii = true) :
    (label.foldl (visit n ascii) w).written.all isAscii = true := by
  induction label generalizing w with
  | nil => exact h
  | cons d rest ih => exact ih (isAscii_visit h d)

/-- What is written stays in ASCII. -/
theorem isAscii_write {numbers : List Nat} {first : Nat} (h : w.written.all isAscii = true) :
    (w.write label ascii first numbers).written.all isAscii = true := by
  induction numbers generalizing w first with
  | nil => exact h
  | cons n more ih => exact ih (isAscii_foldl_visit h)

end Writer

theorem isAscii_encode (label : List Char) : (encode label).all isAscii = true := by
  have hascii : (label.filter isAscii).all isAscii = true := by simp
  have hhyphen : (if (label.filter isAscii).isEmpty then [] else ['-']).all isAscii = true := by
    split <;> rfl
  rw [encode, List.all_append, List.all_append, hascii, hhyphen, Writer.isAscii_write rfl]
  rfl

end Punycode

/-- A label is written in ASCII. -/
theorem Label.isAscii_of_read {s : List Char} {label : Label} (h : read s = some label) :
    label.written.all isAscii = true := by
  rw [read] at h
  split at h
  · split at h
    · cases h
    · cases h
      exact Punycode.isAscii_encode s
  · next hascii =>
    have hs : s.all isAscii = true := by simpa using hascii
    split at h
    · split at h
      · cases h
      · split at h
        · cases h
        · cases h
          exact hs
    · cases h
      exact hs

/-! ## Names -/

namespace Name

/-- The name is made of the labels, which were read from the characters `t` in a text. -/
structure Reads (s t : List Char) (labels : List Label) (name : List Char) : Prop where
  decode_eq : Text.Utf8.decode? (Text.Percent.decode s) = some t
  not_control : ∀ c ∈ t, isControl c = false
  read_eq : (Text.pieces '.' (Text.normal (t.flatMap Label.plain))).map Label.read =
    labels.map some
  directed : isDirected labels = true
  name_eq : name = Text.join '.' (labels.map Label.written)
  not_reserved : ∀ c ∈ name, isReserved c = false
  ne_nil : name ≠ []

theorem exists_reads {s name : List Char} (h : parse s = .ok name) :
    ∃ t labels, Reads s t labels name := by
  rw [parse] at h
  split at h
  · cases h
  next t ht =>
  split at h
  · cases h
  next hcontrol =>
  split at h
  · cases h
  next labels hlabels =>
  simp only at h
  split at h
  · cases h
  next hreserved =>
  split at h
  · cases h
  next hne =>
  cases h
  rw [Bool.or_eq_true, not_or, Bool.not_eq_true, Bool.not_eq_true, Bool.not_eq_false'] at hreserved
  exact ⟨t, labels,
    { decode_eq := ht
      not_control := by simpa using hcontrol
      read_eq := Text.Utf8.mapM_eq_some_iff.1 hlabels
      directed := hreserved.2
      name_eq := rfl
      not_reserved := by simpa using hreserved.1
      ne_nil := by simpa using hne }⟩

/-- The name of a host has no blanks and no controls. -/
theorem not_trimmed_of_parse {s name : List Char} (h : parse s = .ok name) {c : Char}
    (hc : c ∈ s) : isTrimmed c = false := by
  refine Bool.eq_false_iff.2 fun htrimmed ↦ ?_
  have hle : c.toNat ≤ 0x20 := by simpa [isTrimmed] using htrimmed
  -- such a character is no part of an escape, and is its own byte
  have hlow : ∀ n ≤ 0x20, Text.Percent.hexValue? (Char.ofNat n) = none ∧ Char.ofNat n ≠ '%' ∧
      UInt8.ofNat n ∈ String.utf8EncodeChar (Char.ofNat n) ∧ (UInt8.ofNat n).toNat = n := by decide
  obtain ⟨hhex, hpercent, hbyte, hnat⟩ := hlow c.toNat hle
  rw [Char.ofNat_toNat] at hhex hpercent hbyte
  obtain ⟨t, labels, hreads⟩ := exists_reads h
  have hmem : c ∈ t := by
    have hdecoded := Text.Utf8.mem_of_decode? hreads.decode_eq (by omega)
      (Text.Percent.mem_decode hpercent hhex hbyte hc)
    rwa [hnat, Char.ofNat_toNat] at hdecoded
  exact Bool.eq_false_iff.1 (hreads.not_control c hmem) htrimmed

/-- **The name of a host is read in ASCII.** -/
theorem isAscii_of_parse {s name : List Char} (h : parse s = .ok name) {c : Char}
    (hc : c ∈ name) : isAscii c = true := by
  obtain ⟨t, labels, hreads⟩ := exists_reads h
  rw [hreads.name_eq] at hc
  rcases Text.eq_or_mem_of_mem_join hc with rfl | ⟨written, hwritten, hc⟩
  · rfl
  obtain ⟨label, hlabel, rfl⟩ := List.mem_map.1 hwritten
  have hmem : some label ∈ labels.map some := List.mem_map_of_mem hlabel
  rw [← hreads.read_eq] at hmem
  obtain ⟨piece, -, hread⟩ := List.mem_map.1 hmem
  exact List.all_eq_true.1 (Label.isAscii_of_read hread) c hc

example : parse "①.Bücher".toList = .ok "1.xn--bcher-kva".toList := by decide +kernel

/-! ## Names that are in ASCII already -/

/-- What happens to an ASCII character happens to all of them. -/
theorem forall_of_isAscii {p : Char → Prop} (h : ∀ n < 0x80, p (Char.ofNat n)) {c : Char}
    (hc : isAscii c = true) : p c := by
  have hcase := h c.toNat (by simpa [isAscii] using hc)
  rwa [Char.ofNat_toNat] at hcase

variable {s : List Char}

theorem isAscii_toLower {c : Char} (h : isAscii c = true) : isAscii c.toLower = true :=
  forall_of_isAscii (p := fun c ↦ isAscii c.toLower = true) (by decide) h

theorem isReserved_toLower {c : Char} (h : isAscii c = true) :
    isReserved c.toLower = isReserved c :=
  forall_of_isAscii (p := fun c ↦ isReserved c.toLower = isReserved c) (by decide) h

theorem isLeftwards_of_isAscii {c : Char} (h : isAscii c = true) : Label.isLeftwards c = false :=
  forall_of_isAscii (p := fun c ↦ Label.isLeftwards c = false) (by decide) h

theorem normal_of_isAscii (h : ∀ c ∈ s, isAscii c = true) : Text.normal s = s := by
  refine if_pos (List.all_eq_true.2 fun c hc ↦ ?_)
  have hlow : c.toNat < 0x80 := by simpa [isAscii] using h c hc
  exact decide_eq_true (by omega)

theorem flatMap_plain (h : ∀ c ∈ s, isAscii c = true) :
    s.flatMap Label.plain = s.map Char.toLower :=
  (List.flatMap_congr fun c hc ↦ if_pos (h c hc)).trans (List.map_eq_flatMap ..).symm

theorem read_of_isAscii (h : ∀ c ∈ s, isAscii c = true)
    (hplain : Label.announced.isPrefixOf s = false) : Label.read s = some (.ofAscii s) := by
  have hall : s.all isAscii = true := List.all_eq_true.2 h
  rw [Label.read, hall, hplain]
  rfl

theorem isDirected_of_isAscii {labels : List Label}
    (h : ∀ label ∈ labels, ∀ c ∈ label.meant, isAscii c = true) : isDirected labels = true := by
  have hnone : (labels.any fun label ↦ label.meant.any Label.isLeftwards) = false :=
    List.any_eq_false.2 fun label hlabel ↦ Bool.eq_false_iff.1 <|
      List.any_eq_false.2 fun c hc ↦
        Bool.eq_false_iff.1 (isLeftwards_of_isAscii (h label hlabel c hc))
  rw [isDirected, hnone]
  rfl

/-- Pieces of ASCII are labels that stand for themselves. -/
theorem reads_of_isAscii {pieces : List (List Char)}
    (h : ∀ piece ∈ pieces, ∀ c ∈ piece, isAscii c = true)
    (hplain : ∀ piece ∈ pieces, Label.announced.isPrefixOf piece = false) :
    pieces.mapM Label.read = some (pieces.map .ofAscii) ∧
      isDirected (pieces.map .ofAscii) = true ∧
      (pieces.map Label.ofAscii).map Label.written = pieces := by
  refine ⟨?_, isDirected_of_isAscii ?_, ?_⟩
  · rw [Text.Utf8.mapM_eq_some_iff, List.map_map]
    exact List.map_congr_left fun piece hmem ↦ read_of_isAscii (h piece hmem) (hplain piece hmem)
  · intro label hlabel
    obtain ⟨piece, hmem, rfl⟩ := List.mem_map.1 hlabel
    exact h piece hmem
  · rw [List.map_map]
    exact List.map_id pieces

/-- **A name in ASCII is read as its small letters**, unless one of its labels stands for another
one. -/
theorem parse_of_isAscii (hne : s ≠ []) (hascii : ∀ c ∈ s, isAscii c = true)
    (hreserved : ∀ c ∈ s, isReserved c = false)
    (hplain : ∀ piece ∈ Text.pieces '.' (s.map Char.toLower),
      Label.announced.isPrefixOf piece = false) :
    parse s = .ok (s.map Char.toLower) := by
  have hpercent : '%' ∉ s := fun h ↦ absurd (hreserved _ h) (by decide)
  have hcontrol : s.any isControl = false := by
    refine List.any_eq_false.2 fun c hc hcontrol ↦ ?_
    simpa [isReserved, hcontrol] using hreserved c hc
  have hlower : ∀ c ∈ s.map Char.toLower, isAscii c = true := by
    simpa using fun c hc ↦ isAscii_toLower (hascii c hc)
  have hfree : (s.map Char.toLower).any isReserved = false := by
    rw [List.any_map]
    refine List.any_eq_false.2 fun c hc ↦ ?_
    simp [isReserved_toLower (hascii c hc), hreserved c hc]
  obtain ⟨hread, hdirected, hwritten⟩ := reads_of_isAscii
    (fun piece hpiece c hc ↦ hlower c (Text.mem_of_mem_pieces hpiece hc)) hplain
  rw [parse, Text.Percent.decode_of_not_mem hpercent, Text.Utf8.decode?_utf8]
  simp only [hcontrol, flatMap_plain hascii, normal_of_isAscii hlower, hread, hwritten,
    Text.join_pieces, hfree, hdirected]
  simp [hne]

end Name
end Url
end ClusterConsole
