import ClusterConsole.Http.Exchange
import ClusterConsole.Proofs.Text.Integer
import ClusterConsole.Proofs.Text.Utf8

/-!
# Requests as they are received

What goes over a connection are bytes, and the server has to find out from them alone where the
line of a request ends, where each of its fields does, and where the body does.  `Wire.read` is that
reading: two words and a version, fields up to the empty line, and then as many bytes as the fields
announce.

`Wire.Apart.read_text` says when it gives the request back that was sent, and leaves what comes
after it: if the words are visible, every field stays on its line (`OneLine`), and the length that
is announced is that of the body.
-/

set_option autoImplicit false

namespace ClusterConsole
namespace Http

/-! ## Bytes as characters -/

/-- The bytes of a text, as the characters with the same numbers. -/
def octets (s : List Char) : List Char := characters (Text.utf8 s)

@[simp] theorem octets_append (s t : List Char) : octets (s ++ t) = octets s ++ octets t := by
  simp [octets, characters, Text.utf8]

theorem octets_flatMap {α : Type} (l : List α) (f : α → List Char) :
    octets (l.flatMap f) = l.flatMap fun x ↦ octets (f x) := by
  induction l with
  | nil => rfl
  | cons x rest ih => simp [ih]

theorem length_octets (s : List Char) : (octets s).length = Text.byteCount s := by
  rw [octets, characters, List.length_map, Text.Utf8.length_utf8]

theorem toNat_ofNat_toNat (b : UInt8) : (Char.ofNat b.toNat).toNat = b.toNat := by
  have hb : b.toNat < 256 := b.toNat_lt
  rw [Char.toNat_ofNat, if_pos (.inl (by omega))]

/-- The bytes of a text are told as that text. -/
theorem bodyText_octets (s : List Char) : bodyText (octets s) = String.ofList s := by
  have hbytes : (octets s).map (fun c ↦ UInt8.ofNat c.toNat) = Text.utf8 s := by
    rw [octets, characters, List.map_map]
    refine (List.map_congr_left fun b _ ↦ ?_).trans (List.map_id _)
    simp [toNat_ofNat_toNat]
  rw [bodyText, hbytes, Text.Utf8.decode_utf8]

@[simp] theorem bodyText_octets_toList (s : String) : bodyText (octets s.toList) = s := by
  rw [bodyText_octets, String.ofList_toList]

/-- A character of ASCII is its only byte. -/
theorem octets_cons {c : Char} (h : c.toNat ≤ 0x7f) (rest : List Char) :
    octets (c :: rest) = c :: octets rest := by
  have hbyte : (UInt8.ofNat c.toNat).toNat = c.toNat := by
    rw [UInt8.toNat_ofNat']
    omega
  rw [octets, Text.utf8, List.flatMap_cons, Text.Utf8.utf8EncodeChar_one h]
  simp [characters, hbyte, octets, Text.utf8]

theorem octets_of_isVisible {s : List Char} (h : ∀ c ∈ s, Url.isVisible c = true) :
    octets s = s := by
  induction s with
  | nil => rfl
  | cons c rest ih =>
    rw [List.forall_mem_cons] at h
    have hrange := h.1
    simp only [Url.isVisible, Bool.and_eq_true, decide_eq_true_eq] at hrange
    rw [octets_cons (by omega), ih h.2]

/-- Among the bytes of a text those of ASCII are its own characters. -/
theorem mem_of_mem_octets {s : List Char} {c : Char} (h : c ∈ octets s) :
    c ∈ s ∨ 0x80 ≤ c.toNat := by
  obtain ⟨b, hb, rfl⟩ := List.mem_map.1 h
  obtain ⟨d, hd, hb⟩ := List.mem_flatMap.1 hb
  by_cases hascii : d.toNat ≤ 0x7f
  · have hsingle : Char.ofNat b.toNat ∈ octets [d] :=
      List.mem_map.2 ⟨b, List.mem_flatMap.2 ⟨d, List.mem_singleton_self d, hb⟩, rfl⟩
    rw [octets_cons hascii] at hsingle
    exact .inl (List.mem_singleton.1 hsingle ▸ hd)
  · refine .inr ?_
    rw [toNat_ofNat_toNat]
    exact Text.Utf8.le_of_mem_utf8EncodeChar (by omega) hb

/-! ## Reading a request -/

/-- Reads up to a blank; only visible characters may stand before it. -/
def readWord : List Char → Option (List Char × List Char)
  | [] => none
  | ' ' :: rest => some ([], rest)
  | c :: rest =>
    if Url.isVisible c then (readWord rest).map fun p ↦ (c :: p.1, p.2) else none

/-- Reads the version at the end of the first line, and the line break. -/
def readVersion (s : List Char) : Option (List Char) :=
  match Head.readVersion Head.versionMark s with
  | .ok (false, '\r' :: '\n' :: rest) => some rest
  | _ => none

/-- How many bytes the body has, of which there is room for so many.  Fields that do not settle this
make the request unreadable. -/
def announced? (room : Nat) (fields : List (String × String)) : Option Nat :=
  if fields.any (·.1 == "transfer-encoding") then none
  else
    match fields.filter (·.1 == "content-length") with
    | [] => some 0
    | [f] => (Text.Numeral.natural room f.2.toList).toOption
    | _ => none

/-- Reads a request; gives it, and what comes after it. -/
def Wire.read (s : List Char) : Option (Wire × List Char) :=
  (readWord s).bind fun (method, s) ↦ (readWord s).bind fun (target, s) ↦
    (readVersion s).bind fun s ↦
      (Head.readFields Head.maxFields [] s).toOption.bind fun (fields, s) ↦
        let fields := fields.map fun f ↦ (bodyText f.name, bodyText f.value)
        (announced? s.length fields).map fun n ↦
          (⟨bodyText method, bodyText target, fields, bodyText (s.take n)⟩, s.drop n)

theorem readWord_append {s : List Char} (h : ∀ c ∈ s, Url.isVisible c = true) (rest : List Char) :
    readWord (s ++ ' ' :: rest) = some (s, rest) := by
  induction s with
  | nil => rfl
  | cons c more ih =>
    rw [List.forall_mem_cons] at h
    have hne : c ≠ ' ' := by
      rintro rfl
      exact absurd h.1 (by decide)
    rw [List.cons_append, readWord.eq_3 _ _ hne, if_pos h.1, ih h.2, Option.map_some]

/-! ## Fields -/

/-- A name of a field, as it is sent: it is made of small letters and marks. -/
def IsName (name : List Char) : Prop :=
  name ≠ [] ∧ ∀ c ∈ name, Head.isNameChar c = true ∧ c.toLower = c

instance (name : List Char) : Decidable (IsName name) :=
  decidable_of_iff
    (name ≠ [] ∧ name.all (fun c ↦ Head.isNameChar c && c.toLower == c) = true)
    (by simp [IsName])

/-- A name and a value, as they are sent, that stay on their line: the value has no controls, and no
blank at its ends. -/
structure OneLine (name value : List Char) : Prop where
  name : IsName name
  chars : ∀ c ∈ value, Head.isTextChar c = true
  first : ∀ c ∈ value.head?, Head.isGap c = false
  last : ∀ c ∈ value.getLast?, Head.isGap c = false

/-- A field on its line, as it is sent. -/
def octetLine (name value : List Char) : List Char := name ++ ':' :: ' ' :: (value ++ ['\r', '\n'])

namespace Head

theorem readName_append {name : List Char}
    (h : ∀ c ∈ name, isNameChar c = true ∧ c.toLower = c) (rest : List Char) :
    ∀ {done : List Char}, done ++ name ≠ [] →
      readName done (name ++ ':' :: rest) = .ok (done.reverse ++ name, rest) := by
  induction name with
  | nil =>
    intro done hne
    rw [List.nil_append, readName, if_neg (by simpa using hne), List.append_nil]
  | cons c more ih =>
    intro done _
    rw [List.forall_mem_cons] at h
    have hne : c ≠ ':' := by
      rintro rfl
      exact absurd h.1.1 (by decide)
    rw [List.cons_append, readName.eq_3 _ _ _ hne, if_pos h.1.1, h.1.2, ih h.2 (by simp)]
    simp

/-- No line break is in a value. -/
theorem ne_of_isTextChar {c : Char} (h : isTextChar c = true) : c ≠ '\r' ∧ c ≠ '\n' := by
  constructor <;> rintro rfl <;> exact absurd h (by decide)

theorem readValue_append {value : List Char} (h : ∀ c ∈ value, isTextChar c = true)
    (rest : List Char) : ∀ {done : List Char},
      readValue done (value ++ '\r' :: '\n' :: rest) =
        .ok (((value.reverse ++ done).dropWhile isGap).reverse.dropWhile isGap, rest) := by
  induction value with
  | nil => exact rfl
  | cons c more ih =>
    intro done
    rw [List.forall_mem_cons] at h
    obtain ⟨hreturn, hbreak⟩ := ne_of_isTextChar h.1
    rw [List.cons_append, readValue.eq_5 _ _ _ (by simp [hreturn]) (by simp [hreturn]) hbreak,
      if_pos h.1, ih h.2, List.reverse_cons, List.append_assoc]
    rfl

/-- The blank before a value does not count. -/
theorem trim_blank_append {value : List Char} (hhead : ∀ c ∈ value.head?, isGap c = false)
    (hlast : ∀ c ∈ value.getLast?, isGap c = false) :
    ((value.reverse ++ [' ']).dropWhile isGap).reverse.dropWhile isGap = value := by
  have hkept : ∀ {s : List Char}, (∀ c ∈ s.head?, isGap c = false) → s.dropWhile isGap = s := by
    intro s hs
    cases s with
    | nil => rfl
    | cons c rest => exact List.dropWhile_cons_of_neg (by simp [hs c rfl])
  rcases List.eq_nil_or_concat' value with rfl | ⟨init, c, rfl⟩
  · rfl
  · rw [List.getLast?_concat] at hlast
    have hreversed : ((init ++ [c]).reverse ++ [' ']).dropWhile isGap =
        (init ++ [c]).reverse ++ [' '] := hkept (by simpa using hlast)
    rw [hreversed, List.reverse_append, List.reverse_reverse]
    exact (List.dropWhile_cons_of_pos rfl).trans (hkept hhead)

theorem readFields_octetLine {name value : List Char} (h : OneLine name value) (room : Nat)
    (done : List Field) (rest : List Char) :
    readFields (room + 1) done (octetLine name value ++ rest) =
      readFields room (⟨name, value⟩ :: done) rest := by
  obtain ⟨c, more, rfl⟩ := List.exists_cons_of_ne_nil h.name.1
  have hc := (h.name.2 c (List.mem_cons_self ..)).1
  have hreturn : c ≠ '\r' := by
    rintro rfl
    exact absurd hc (by decide)
  have hbreak : c ≠ '\n' := by
    rintro rfl
    exact absurd hc (by decide)
  have hline : octetLine (c :: more) value ++ rest =
      (c :: more) ++ ':' :: ' ' :: (value ++ '\r' :: '\n' :: rest) := by simp [octetLine]
  have hvalue : readValue [] (' ' :: (value ++ '\r' :: '\n' :: rest)) = .ok (value, rest) := by
    have hblank : ∀ c ∈ ' ' :: value, isTextChar c = true :=
      List.forall_mem_cons.2 ⟨rfl, h.chars⟩
    rw [← List.cons_append, readValue_append hblank, List.reverse_cons, List.append_nil,
      trim_blank_append h.first h.last]
  rw [hline, List.cons_append, readFields.eq_6 _ _ _ (by simp) (by simp [hreturn])
    (by simp [hreturn]) (by simp [hbreak]), ← List.cons_append,
    readName_append h.name.2 _ (by simp)]
  simp only [Part.andThen, hvalue]
  rfl

/-- **Fields that stay on their lines are read back.** -/
theorem readFields_append (rest : List Char) : ∀ {fields : List (List Char × List Char)},
    (∀ f ∈ fields, OneLine f.1 f.2) → ∀ {room : Nat}, fields.length ≤ room →
    ∀ {done : List Field},
      readFields room done (fields.flatMap (fun f ↦ octetLine f.1 f.2) ++ '\r' :: '\n' :: rest) =
        .ok (done.reverse ++ fields.map fun f ↦ ⟨f.1, f.2⟩, rest) := by
  intro fields
  induction fields with
  | nil =>
    intro _ room _ done
    rw [List.flatMap_nil, List.nil_append, List.map_nil, List.append_nil, readFields]
  | cons f more ih =>
    intro h room hroom done
    rw [List.forall_mem_cons] at h
    obtain ⟨room, rfl⟩ : ∃ n, room = n + 1 :=
      ⟨room - 1, by rw [List.length_cons] at hroom; omega⟩
    rw [List.flatMap_cons, List.append_assoc, readFields_octetLine h.1,
      ih h.2 (by simpa using hroom)]
    simp

end Head

/-! ## Whole requests -/

namespace Wire

/-- A request that stays apart from what comes after it, line by line. -/
structure Apart (w : Wire) : Prop where
  method_chars : ∀ c ∈ w.method.toList, Url.isVisible c = true
  target_chars : ∀ c ∈ w.target.toList, Url.isVisible c = true
  oneLine : ∀ f ∈ w.fields, OneLine (octets f.1.toList) (octets f.2.toList)
  few : w.fields.length ≤ Head.maxFields
  announced : ∀ room, Text.byteCount w.body.toList ≤ room →
    announced? room w.fields = some (Text.byteCount w.body.toList)

/-- Lines with a mark between them, and one behind them, are lines with a mark each. -/
theorem intercalate_append (mark first : List Char) (rest : List (List Char)) :
    mark.intercalate (first :: rest) ++ mark = first ++ mark ++ rest.flatMap (· ++ mark) := by
  induction rest generalizing first with
  | nil => simp
  | cons next more ih =>
    simp only [List.intercalate_cons_cons, List.append_assoc, ih, List.flatMap_cons]

theorem toList_text (w : Wire) :
    w.text.toList = w.method.toList ++ ' ' :: (w.target.toList ++ ' ' ::
      ("HTTP/1.1\r\n".toList ++
        (w.fields.flatMap (fun f ↦ octetLine f.1.toList f.2.toList) ++
          '\r' :: '\n' :: w.body.toList))) := by
  have hmark : "\r\n\r\n".toList = "\r\n".toList ++ "\r\n".toList := rfl
  have hlines : (w.fields.map fieldLine).map String.toList = w.fields.map fun f ↦
      f.1.toList ++ ':' :: ' ' :: f.2.toList := by
    simp [fieldLine, Function.comp_def]
  have hhead := intercalate_append "\r\n".toList w.line.toList
    ((w.fields.map fieldLine).map String.toList)
  rw [text, String.toList_append, String.toList_append, String.toList_intercalate,
    List.map_cons, hmark, ← List.append_assoc, hhead, hlines, List.flatMap_map]
  simp [line, octetLine]

theorem octets_octetLine (name value : List Char) :
    octets (octetLine name value) = octetLine (octets name) (octets value) := by
  have hbreak : octets ['\r', '\n'] = ['\r', '\n'] := rfl
  simp [octetLine, octets_cons (c := ':') (by decide), octets_cons (c := ' ') (by decide), hbreak]

namespace Apart

variable {w : Wire}

/-- The bytes of a request, and what comes after it. -/
theorem octets_text_append (h : w.Apart) (more : List Char) :
    octets w.text.toList ++ more = w.method.toList ++ ' ' :: (w.target.toList ++ ' ' ::
      ("HTTP/1.1\r\n".toList ++
        (w.fields.flatMap (fun f ↦ octetLine (octets f.1.toList) (octets f.2.toList)) ++
          '\r' :: '\n' :: (octets w.body.toList ++ more)))) := by
  have hversion : octets "HTTP/1.1\r\n".toList = "HTTP/1.1\r\n".toList := rfl
  simp only [toList_text, octets_append, octets_cons (c := ' ') (by decide),
    octets_cons (c := '\r') (by decide), octets_cons (c := '\n') (by decide), hversion,
    octets_of_isVisible h.method_chars, octets_of_isVisible h.target_chars, octets_flatMap,
    octets_octetLine, List.append_assoc, List.cons_append]

/-- The fields of a request are read up to the empty line. -/
theorem readFields_eq (h : w.Apart) (rest : List Char) :
    Head.readFields Head.maxFields []
      (w.fields.flatMap (fun f ↦ octetLine (octets f.1.toList) (octets f.2.toList)) ++
        '\r' :: '\n' :: rest) =
      .ok (w.fields.map fun f ↦ ⟨octets f.1.toList, octets f.2.toList⟩, rest) := by
  have hlines : w.fields.flatMap (fun f ↦ octetLine (octets f.1.toList) (octets f.2.toList)) =
      (w.fields.map fun f ↦ (octets f.1.toList, octets f.2.toList)).flatMap
        fun f ↦ octetLine f.1 f.2 := by
    rw [List.flatMap_map]
  have honeLine : ∀ f ∈ w.fields.map fun f ↦ (octets f.1.toList, octets f.2.toList),
      OneLine f.1 f.2 := List.forall_mem_map.2 h.oneLine
  rw [hlines, Head.readFields_append rest honeLine (by simpa using h.few), List.map_map]
  rfl

/-- The length of the body is known from the fields. -/
theorem announced?_eq (h : w.Apart) (more : List Char) :
    announced? (octets w.body.toList ++ more).length w.fields =
      some (octets w.body.toList).length := by
  rw [length_octets]
  refine h.announced _ ?_
  rw [List.length_append, length_octets]
  omega

/-- **A request that stays apart is read back, and what comes after it is left.** -/
theorem read_text (h : w.Apart) (more : List Char) :
    read (octets w.text.toList ++ more) = some (w, more) := by
  have hversion : ∀ s, readVersion ("HTTP/1.1\r\n".toList ++ s) = some s := fun _ ↦ rfl
  have hmethod : bodyText w.method.toList = w.method := by
    simpa [octets_of_isVisible h.method_chars] using bodyText_octets_toList w.method
  have htarget : bodyText w.target.toList = w.target := by
    simpa [octets_of_isVisible h.target_chars] using bodyText_octets_toList w.target
  simp only [read, h.octets_text_append, readWord_append h.method_chars,
    readWord_append h.target_chars, hversion, h.readFields_eq, Except.toOption, Option.bind_some,
    List.map_map, Function.comp_def, bodyText_octets_toList, hmethod, htarget, List.map_id',
    h.announced?_eq, Option.map_some, List.take_left, List.drop_left]

end Apart
end Wire
end Http
end ClusterConsole
