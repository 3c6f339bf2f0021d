import ClusterConsole.Proofs.Cluster.Spec
import ClusterConsole.Proofs.Command
import ClusterConsole.Proofs.CommandLine.Flags

/-!
# Flags with their values as arguments of their own

The value of a flag may also stand as the next argument after it.  Then the two are told apart by
what they look like, before it is known what they are for: an argument that begins with a hyphen,
and is not just that hyphen, is taken for a flag.  So such a text is no value in this way, whatever
the flag is that waits for one.

* `scan_spacedAll` says that a row of flags, each with a word after it, is found as if the words
  were attached, apart from the last value, which has not been looked at yet.
* `stop_of_looksLikeFlag` says that a text that looks like a flag stops the reading, where a flag
  waits for its value.
* `numbers_read` puts this together for the numbers of a new cluster.
-/

set_option autoImplicit false

namespace ClusterConsole
namespace CommandLine

/-- A flag without its value. -/
def Flag.lone (f : Flag) : String := "--" ++ f.name

/-- Flags with their values as arguments of their own. -/
def spacedAll (vs : List (Flag × String)) : List String := vs.flatMap fun v ↦ [v.1.lone, v.2]

/-- The text begins with a hyphen, and is not just that hyphen. -/
def LooksLikeFlag (text : String) : Prop := ∃ c rest, text.toList = '-' :: c :: rest

variable {c : Name} {s t : Scan} {f : Flag} {v : String} {vs : List (Flag × String)}

/-! ## What the arguments look like -/

/-- Words are the texts that do not look like a flag. -/
theorem form_eq_word_iff : Form.of v = .word ↔ ¬LooksLikeFlag v := by
  rw [Form.of.eq_def]
  constructor
  · rintro h ⟨c, rest, heq⟩
    rw [heq] at h
    split at h
    · cases h
    · cases h
    · cases h
    · next hnone => exact hnone c rest rfl
  · intro h
    split
    · next heq => exact absurd ⟨_, _, heq⟩ h
    · next heq => exact absurd ⟨_, _, heq⟩ h
    · next heq => exact absurd ⟨_, _, heq⟩ h
    · rfl

theorem splitValue_of_not_mem {name : List Char} (h : '=' ∉ name) :
    splitValue name = (String.ofList name, none) := by
  have hname : ∀ c ∈ name, (c != '=') = true := fun c hc ↦ bne_iff_ne.2 fun heq ↦ h (heq ▸ hc)
  rw [splitValue, List.takeWhile_eq_self_iff.2 hname, List.dropWhile_eq_nil_iff.2 hname]

theorem form_lone (f : Flag) : Form.of f.lone = .long f.name none := by
  have hlist : f.lone.toList = '-' :: '-' :: f.name.toList := by simp [Flag.lone]
  have hname : f.name.toList ≠ [] := by
    cases f with
    | input k => cases k <;> decide
    | _ => decide
  rw [form_of_hyphens hlist hname, splitValue_of_not_mem (not_mem_name f), String.ofList_toList]

/-- In the scope of a command there are no commands. -/
theorem commandAt?_command (c : Name) (s : Scan) (argument : String) :
    commandAt? (.command c) s argument = none := ite_self none

/-! ## A value that is a word -/

/-- A flag waits for its value, once the value of the flag before it is in order. -/
theorem scan_lone (hf : f ∈ (Scope.command c).flags) (hs : s.settle (.command c) = .ok t)
    (rest : List String) :
    scan (.command c) s (f.lone :: rest) =
      scan (.command c) { t with pending := .waiting f } rest := by
  have hfollow : followLong (.command c) s f.name none rest =
      .ok { t with pending := .waiting f } := by
    simp only [followLong, flag?_name hf, hs]
  rw [scan, commandAt?_command]
  simp only [form_lone, hfollow]

/-- A flag that waits for its value takes a word. -/
theorem scan_word (hv : ¬LooksLikeFlag v) (hs : s.pending = .waiting f) (rest : List String) :
    scan (.command c) s (v :: rest) =
      scan (.command c) { s with pending := .holding f v } rest := by
  rw [scan, commandAt?_command]
  simp only [form_eq_word_iff.2 hv, followWord, hs]

/-- A value that is in order is found, once it is looked at. -/
theorem settle_holding (scope : Scope) (hnew : s.has f = false) (hcheck : f.check v = .ok ()) :
    Scan.settle scope { s with pending := .holding f v } =
      .ok { s with values := s.values ++ [(f, v)], pending := .none } := by
  have hhas : Scan.has { s with pending := .holding f v } f = false := hnew
  simp only [Scan.settle, Scan.accept, hhas, hcheck]
  rfl

/-- Whatever is pending is settled before a flag with its value attached. -/
theorem scan_attached_settle (hf : f ∈ (Scope.command c).flags)
    (hs : s.settle (.command c) = .ok t) (ht : t.pending = .none) (rest : List String) :
    scan (.command c) s (f.attached v :: rest) = scan (.command c) t (f.attached v :: rest) := by
  have hsettle : t.settle (.command c) = .ok t := by rw [Scan.settle, ht]
  rw [scan, scan, commandAt?_command, commandAt?_command]
  simp only [form_attached, followLong, flag?_name hf, hs, hsettle]

/-- **A row of flags, each with a word after it, is found, if no flag stands twice.** -/
theorem scan_spacedAll (hscope : ∀ p ∈ vs, p.1 ∈ (Scope.command c).flags)
    (hcheck : ∀ p ∈ vs, p.1.check p.2 = .ok ()) (hwords : ∀ p ∈ vs, ¬LooksLikeFlag p.2)
    (rest : List String) :
    ∀ {s t : Scan}, s.settle (.command c) = .ok t → t.pending = .none →
      (t.settled ++ vs.map (·.1)).Nodup →
      ∃ s', scan (.command c) s (spacedAll vs ++ rest) = scan (.command c) s' rest ∧
        s'.settle (.command c) = .ok { t with values := t.values ++ vs } := by
  -- the last value is held back until the next flag comes, so what is kept along the row is what
  -- has been found once that value is looked at
  induction vs with
  | nil =>
    intro s t hs ht _
    exact ⟨s, rfl, by rw [hs, List.append_nil]⟩
  | cons p vs ih =>
    intro s t hs ht hnodup
    rw [List.forall_mem_cons] at hscope hcheck hwords
    let held : Scan := { t with pending := .holding p.1 p.2 }
    let t' : Scan := { t with values := t.values ++ [p] }
    have hnew : t.has p.1 = false :=
      Scan.has_eq_false_iff.2 fun hmem ↦ List.disjoint_of_nodup_append hnodup hmem (by simp)
    have hheld : held.settle (.command c) = .ok t' := by
      rw [settle_holding _ hnew hcheck.1, ← ht]
    have hstep : scan (.command c) s (spacedAll (p :: vs) ++ rest) =
        scan (.command c) held (spacedAll vs ++ rest) :=
      (scan_lone hscope.1 hs _).trans (scan_word hwords.1 rfl _)
    have hnodup' : (t'.settled ++ vs.map (·.1)).Nodup := by
      simpa [t', Scan.settled] using hnodup
    obtain ⟨s', hscan, hsettle⟩ := ih hscope.2 hcheck.2 hwords.2 hheld ht hnodup'
    exact ⟨s', hstep.trans hscan, by simpa [t'] using hsettle⟩

/-! ## A value that looks like a flag -/

/-- The value of a flag that waits for one cannot be looked at. -/
theorem settle_of_waiting (scope : Scope) (hs : s.pending = .waiting f) :
    s.settle scope = .error (scope.valueFault (.valueMissing f) []) := by
  rw [Scan.settle, hs]

/-- Where a flag waits for its value, nothing else can follow. -/
theorem exists_followLong_eq_error (scope : Scope) (hs : s.pending = .waiting f) (name : String)
    (value : Option String) (rest : List String) :
    ∃ fault, followLong scope s name value rest = .error (.fault fault) := by
  have hsettle := settle_of_waiting scope hs
  rw [followLong.eq_def]
  cases scope.flag? name with
  | some g => cases value <;> simp [hsettle]
  | none =>
    simp only [stopAt, hsettle]
    split
    · cases value <;> simp
    · simp

theorem exists_followLetters_eq_error (scope : Scope) (hs : s.pending = .waiting f) (first : Char) :
    ∃ fault, followLetters scope s first = .error (.fault fault) := by
  have hsettle := settle_of_waiting scope hs
  simp only [followLetters, stopAt, hsettle]
  split
  · exact ⟨_, rfl⟩
  · split <;> exact ⟨_, rfl⟩

/-- **A text that looks like a flag is no value for a flag that waits for one.** -/
theorem stop_of_looksLikeFlag (hs : s.pending = .waiting f) (hv : LooksLikeFlag v) :
    (∃ fault, scan (.command c) s [v] = .error (.fault fault)) ∨
      scan (.command c) s [v] = .ok ⟨s, none⟩ := by
  rw [scan, commandAt?_command]
  cases hform : Form.of v with
  | close => exact .inr rfl
  | long name value =>
    obtain ⟨fault, hfollow⟩ := exists_followLong_eq_error (.command c) hs name value []
    simp [hfollow]
  | letters first more =>
    obtain ⟨fault, hfollow⟩ := exists_followLetters_eq_error (.command c) hs first
    simp [hfollow]
  | word => exact absurd hv (form_eq_word_iff.1 hform)

/-! ## A number for a new cluster -/

/-- The inputs that a new cluster needs. -/
def neededInputs : List (Flag × String) :=
  [(.input .tenantOrgId, "org"), (.input .user, "u"), (.input .serviceName, "svc")]

variable {k : Key}

theorem needed_mem (p : Flag × String) (hp : p ∈ neededInputs) :
    p.1 ∈ (Scope.command .create).flags ∧ p.1.check p.2 = .ok () ∧ ¬LooksLikeFlag p.2 := by
  have hall : ∀ p ∈ neededInputs, p.1 ∈ (Scope.command .create).flags ∧
      p.1.check p.2 = .ok () ∧ Form.of p.2 = .word := by decide
  obtain ⟨hflag, hcheck, hword⟩ := hall p hp
  exact ⟨hflag, hcheck, form_eq_word_iff.1 hword⟩

/-- After the inputs that are needed, the reading goes on with these found. -/
theorem exists_scan_needed (rest : List String) :
    ∃ s, scan (.command .create) .start (spacedAll neededInputs ++ rest) =
        scan (.command .create) s rest ∧
      s.settle (.command .create) = .ok ⟨neededInputs, [], .none⟩ :=
  scan_spacedAll (t := .start) (fun p hp ↦ (needed_mem p hp).1)
    (fun p hp ↦ (needed_mem p hp).2.1) (fun p hp ↦ (needed_mem p hp).2.2) rest rfl rfl (by decide)

end CommandLine

open CommandLine

namespace Arguments

/-- The arguments that create a cluster with a text for one more input, as an argument of its
own. -/
def creating (k : Key) (v : String) : List String :=
  ["create", "--tenant-org-id", "org", "--user", "u", "--service-name", "svc",
    (Flag.input k).lone, v]

/-- The same with the text attached to its flag. -/
def creatingAttached (k : Key) (v : String) : List String :=
  ["create", "--tenant-org-id", "org", "--user", "u", "--service-name", "svc",
    (Flag.input k).attached v]

/-- What is entered then. -/
def created (k : Key) (v : String) : Fields :=
  (((Fields.empty.set .tenantOrgId "org").set .user "u").set .serviceName "svc").set k v

/-- The arguments are read as a command that creates a cluster from `f`, and submits what the form
with the same texts does. -/
def Creates (fromEnvironment : Option String) (arguments : List String) (f : Fields) : Prop :=
  ∃ inputs : Creation,
    Arguments.parse fromEnvironment arguments =
      .ok ⟨fromEnvironment, none, some (.create inputs)⟩ ∧
    inputs.fields = f ∧
    ∀ form : Form, form.Holds .create f.text →
      (Command.create inputs).submission? = some form.submission

variable {k : Key} {v : String} {fromEnvironment : Option String}

/-- After its name, the command that creates a cluster is all that counts. -/
theorem parse_create (fromEnvironment : Option String) (arguments : List String) :
    Arguments.parse fromEnvironment ("create" :: arguments) =
      (parseCommand .create arguments).map fun command ↦ ⟨fromEnvironment, none, some command⟩ := by
  have hscan : scan .top .start ("create" :: arguments) =
      .ok ⟨.start, some (.create, arguments)⟩ := rfl
  rw [Arguments.parse, hscan]
  simp only [parseFollowing]
  cases parseCommand .create arguments <;> rfl

/-- What has been found for a new cluster makes the command that creates it. -/
theorem creates_of_scanAll (hk : k.shape = .number) {arguments : List String}
    (h : scanAll (.command .create) arguments = .ok ⟨neededInputs ++ [(.input k, v)], [], .none⟩) :
    Creates fromEnvironment ("create" :: arguments) (created k v) := by
  let s : Scan := ⟨neededInputs ++ [(.input k, v)], [], .none⟩
  let given : Key → Option String := fun j ↦ s.value? (.input j)
  have htext : ∀ j, (given j).getD "" = (created k v).text j := by
    cases k <;> cases hk <;> intro j <;> cases j <;> rfl
  have hcomplete : ∀ j ∈ Key.all, j.shape = .required → (given j).isSome = true := by
    intro j _ hj
    cases j <;> cases hj <;> rfl
  let inputs : Creation := ⟨given, fun j ↦ hcomplete j (Key.mem_all j)⟩
  have hcommand : command? .create s = some (.create inputs) := by
    rw [command?, Creation.ofGiven?, dif_pos hcomplete]
    rfl
  have hparse : parseCommand .create arguments = .ok (.create inputs) := by
    rw [parseCommand, h]
    simp only [s] at hcommand
    simp only [hcommand]
  have hgives : (Command.create inputs).Gives .create (created k v).text := .create htext
  refine ⟨inputs, ?_, Fields.ext (funext htext), fun form hform ↦ hgives.submission?_eq hform⟩
  rw [parse_create, hparse]
  rfl

/-- A text that looks like a flag is refused where a value is waited for. -/
theorem refused_of_scan {arguments : List String} {s : Scan} {f : Flag}
    (h : scan (.command .create) .start arguments = scan (.command .create) s [v])
    (hs : s.pending = .waiting f) (hv : LooksLikeFlag v) :
    ∃ fault, Arguments.parse fromEnvironment ("create" :: arguments) = .error (.fault fault) := by
  have hstop : ∃ fault, scanAll (.command .create) arguments = .error (.fault fault) := by
    rw [scanAll, h]
    rcases stop_of_looksLikeFlag hs hv with ⟨fault, hfault⟩ | hend
    · exact ⟨fault, by rw [hfault]⟩
    · rw [hend]
      exact ⟨_, congrArg orStop (settle_of_waiting _ hs)⟩
  obtain ⟨fault, hfault⟩ := hstop
  exact ⟨fault, by rw [parse_create, parseCommand, hfault]; rfl⟩

theorem spacedAll_needed : spacedAll neededInputs =
    ["--tenant-org-id", "org", "--user", "u", "--service-name", "svc"] := by decide

theorem mem_flags_create (k : Key) : Flag.input k ∈ (Scope.command .create).flags :=
  List.mem_map_of_mem (Key.mem_all k)

/-- A flag for one more input can follow. -/
theorem has_needed (hk : k.shape = .number) :
    Scan.has ⟨neededInputs, [], .none⟩ (.input k) = false := by
  cases k <;> cases hk <;> rfl

theorem creates_of_word (hk : k.shape = .number) (hv : ¬LooksLikeFlag v) :
    Creates fromEnvironment (creating k v) (created k v) := by
  obtain ⟨s, hscan, hs⟩ := exists_scan_needed [(Flag.input k).lone, v]
  rw [scan_lone (mem_flags_create k) hs, scan_word hv rfl, spacedAll_needed] at hscan
  have hheld := settle_holding (v := v) (.command .create) (has_needed hk) rfl
  refine creates_of_scanAll hk ?_
  simp only [List.cons_append, List.nil_append] at hscan
  rw [scanAll, hscan]
  exact congrArg orStop hheld

theorem creates_of_attached (hk : k.shape = .number) (v : String) :
    Creates fromEnvironment (creatingAttached k v) (created k v) := by
  obtain ⟨s, hscan, hs⟩ := exists_scan_needed [(Flag.input k).attached v]
  rw [scan_attached_settle (mem_flags_create k) hs rfl,
    scan_attached (mem_flags_create k) rfl rfl (has_needed hk), spacedAll_needed] at hscan
  refine creates_of_scanAll hk ?_
  simp only [List.cons_append, List.nil_append] at hscan
  rw [scanAll, hscan]
  rfl

theorem refused_of_looksLikeFlag (fromEnvironment : Option String) (k : Key)
    (hv : LooksLikeFlag v) :
    ∃ fault, Arguments.parse fromEnvironment (creating k v) = .error (.fault fault) := by
  obtain ⟨s, hscan, hs⟩ := exists_scan_needed [(Flag.input k).lone, v]
  rw [scan_lone (mem_flags_create k) hs, spacedAll_needed] at hscan
  exact refused_of_scan hscan rfl hv

/-- How the text of a number of a new cluster is read. -/
structure NumberRead (fromEnvironment : Option String) (k : Key) : Prop where
  /-- As an argument of its own, it is read if it does not look like a flag. -/
  word : ∀ v, ¬LooksLikeFlag v → Creates fromEnvironment (creating k v) (created k v)
  /-- Else the command line is refused. -/
  refused : ∀ v, LooksLikeFlag v →
    ∃ fault, Arguments.parse fromEnvironment (creating k v) = .error (.fault fault)
  /-- Attached to its flag, it is always read. -/
  attached : ∀ v, Creates fromEnvironment (creatingAttached k v) (created k v)
  /-- What is read passes its check. -/
  check_eq : ∀ v, (Submission.create (created k v)).check =
    .ok (.create (.ofFields (created k v)))
  /-- It is sent as the number that it is, and left out if it is none. -/
  mem_entries_iff : ∀ v w, (k, w) ∈ (Spec.ofFields (created k v)).entries ↔
    ∃ n, Text.Numeral.fieldNumber? v = some n ∧ w = .number (.whole n)

/-- **A number of a new cluster is read with any text that does not look like a flag, and refused
with any other, unless it is attached to its flag.** -/
theorem numbers_read (hk : k.shape = .number) (fromEnvironment : Option String) :
    NumberRead fromEnvironment k where
  word _ := creates_of_word hk
  refused _ := refused_of_looksLikeFlag fromEnvironment k
  attached := creates_of_attached hk
  check_eq v := by cases k <;> cases hk <;> rfl
  mem_entries_iff v w := by
    have htext : (created k v).text k = v := by simp [created]
    rw [Spec.mem_entries, htext, hk, Shape.value?]
    simp [eq_comm]

/-- A number in words is read, and one below zero only where it is attached to its flag. -/
theorem numbers_read_replicas :
    Key.replicas.shape = .number ∧
    Creates none (creating .replicas "three") (created .replicas "three") ∧
    (∃ fault, Arguments.parse none (creating .replicas "-3") = .error (.fault fault)) ∧
    Creates none (creatingAttached .replicas "-3") (created .replicas "-3") := by
  have hread : NumberRead none .replicas := numbers_read rfl none
  have hthree : ¬LooksLikeFlag "three" := form_eq_word_iff.1 (by decide)
  exact ⟨rfl, hread.word _ hthree, hread.refused _ ⟨'3', [], rfl⟩, hread.attached _⟩

/-- A number below zero can be sent, but is refused as an argument of its own. -/
theorem negative_refused :
    Text.Numeral.fieldNumber? "-3" = some (-3) ∧
    ¬Creates none (creating .replicas "-3") (created .replicas "-3") := by
  refine ⟨by decide, ?_⟩
  rintro ⟨inputs, hparse, -⟩
  obtain ⟨fault, hfault⟩ := refused_of_looksLikeFlag none .replicas (v := "-3") ⟨'3', [], rfl⟩
  cases hparse.symm.trans hfault

end Arguments
end ClusterConsole
