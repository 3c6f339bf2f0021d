import ClusterConsole.Proofs.CommandLine.Flags
import ClusterConsole.Proofs.Text.Integer

/-!
# Command lines that are written and read

What a command line says can be written down again: for everything that is given a flag with its
value attached, those of the top scope before the name of the command and those of the command
after it, and the texts for places behind a separator.  The flags of a scope may stand in any
order.  So there are many ways to write the same, and `Arguments.Writes` is the relation between
what is said and the ways to say it.

`parse_written` is the main result: whichever way is taken, reading gives back what was said.  The
two scopes are gone through one after the other, each from nothing (`scan_top`, `scanAll_tail`);
what has been found at the end of a scope does not depend on the order, because values are looked
up by their flags.
-/

set_option autoImplicit false

namespace ClusterConsole

open CommandLine

/-! ## Writing -/

namespace Command

/-- The name of a command. -/
def name : Command → Name
  | .create _ => .create
  | .delete _ => .delete
  | .list => .list
  | .get _ => .get
  | .scale _ _ => .scale
  | .health => .health
  | .config _ _ => .config

/-- What a command gives for a flag. -/
def value? : Command → Flag → Option String
  | .create inputs, .input k => inputs.given k
  | .config apiUrl _, .storedUrl => apiUrl
  | .config _ hideAfter, .storedTime => hideAfter.map toString
  | _, _ => none

/-- What a command gives for its places. -/
def places : Command → List String
  | .delete ns => [ns]
  | .get ns => [ns]
  | .scale ns replicas => [ns, replicas]
  | _ => []

/-- The ways to write a command after its name: its flags in any order, and its places behind a
separator, which is not needed if there are none. -/
inductive Tail (c : Command) : List String → Prop
  | closed (vs : List (Flag × String)) (h : vs.Perm ((Scope.command c.name).given c.value?)) :
    c.Tail (attachedAll vs ++ "--" :: c.places)
  | plain (vs : List (Flag × String)) (h : vs.Perm ((Scope.command c.name).given c.value?))
    (hplaces : c.places = []) : c.Tail (attachedAll vs)

end Command

/-- The ways to say which limit the log has: by its name, or not at all if nothing is logged. -/
inductive LimitSaid : Option Level → Option String → Prop
  | named (limit : Option Level) : LimitSaid limit (some (limitName limit))
  | omitted : LimitSaid none none

namespace Arguments

/-- What the arguments give for a flag of the top scope, the limit of the log in words. -/
def value? (a : Arguments) (limit : Option String) : Flag → Option String
  | .apiUrl => a.apiUrl
  | .logLevel => limit
  | _ => none

/-- The ways to write what a command line says. -/
inductive Writes (a : Arguments) : List String → Prop
  | alone {limit : Option String} (vs : List (Flag × String)) (hlimit : LimitSaid a.limit limit)
    (hvs : vs.Perm (Scope.top.given (a.value? limit))) (hcommand : a.command = none) :
    a.Writes (attachedAll vs)
  | before {limit : Option String} (vs : List (Flag × String)) {c : Command} {tail : List String}
    (hlimit : LimitSaid a.limit limit) (hvs : vs.Perm (Scope.top.given (a.value? limit)))
    (hcommand : a.command = some c) (htail : c.Tail tail) :
    a.Writes (attachedAll vs ++ c.name.text :: tail)

end Arguments

/-- There is a way to write everything. -/
theorem Arguments.exists_writes (a : Arguments) : ∃ arguments, a.Writes arguments := by
  cases hcommand : a.command with
  | none => exact ⟨_, .alone _ (.named _) (.refl _) hcommand⟩
  | some c => exact ⟨_, .before _ (.named _) (.refl _) hcommand (.closed _ (.refl _))⟩

namespace CommandLine

/-! ## Values -/

/-- A limit of the log is known by its name. -/
theorem limit?_limitName (l : Option Level) : limit? (limitName l) = some l := by
  rcases l with _ | l
  · rfl
  · cases l <;> decide

theorem natural_toString (n : UInt64) :
    Text.Numeral.natural maxTime (toString n).toList = .ok n.toNat := by
  have htext : (toString n).toList = Nat.toDigits 10 n.toNat := String.toList_ofList
  rw [htext]
  exact Text.Numeral.natural_toDigits (Nat.le_pred_of_lt n.toNat_lt)

/-- A time is read back from its decimal text. -/
theorem time?_toString (n : UInt64) : time? (toString n) = some n := by
  rw [time?, natural_toString]
  exact congrArg some UInt64.ofNat_toNat

theorem check_toString (n : UInt64) : Flag.storedTime.check (toString n) = .ok () := by
  simp only [Flag.check, natural_toString]

end CommandLine

/-- A limit that is said is known. -/
theorem LimitSaid.limit?_eq {l : Option Level} {text : String} (h : LimitSaid l (some text)) :
    limit? text = some l := by
  cases h with
  | named => exact limit?_limitName l

/-- What is said about the limit is read back. -/
theorem LimitSaid.join_eq {l : Option Level} {text : Option String} (h : LimitSaid l text) :
    (text.bind limit?).join = l := by
  cases h with
  | named => rw [Option.bind_some, limit?_limitName, Option.join_some]
  | omitted => rfl

/-- What the arguments give for a flag passes its check. -/
theorem Arguments.check_value? {a : Arguments} {limit : Option String}
    (hlimit : LimitSaid a.limit limit) {f : Flag} {v : String} (h : a.value? limit f = some v) :
    f.check v = .ok () := by
  cases f with
  | logLevel =>
    cases (h : limit = some v)
    simp only [Flag.check, hlimit.limit?_eq]
  | storedTime => cases h
  | _ => rfl

/-- What a command gives for a flag passes its check. -/
theorem Command.check_value? {c : Command} {f : Flag} {v : String} (h : c.value? f = some v) :
    f.check v = .ok () := by
  cases f with
  | storedTime =>
    cases c with
    | config apiUrl hideAfter =>
      obtain ⟨n, -, rfl⟩ := Option.map_eq_some_iff.1 h
      exact check_toString n
    | _ => cases h
  | logLevel => cases c <;> cases h
  | _ => rfl

/-! ## Going through a scope -/

namespace CommandLine

variable {scope : Scope} {vs : List (Flag × String)} {value? : Flag → Option String}

/-- The flags that are given for a scope are found in it. -/
theorem scan_given (hvs : vs.Perm (scope.given value?))
    (hcheck : ∀ {f v}, value? f = some v → f.check v = .ok ()) (rest : List String) :
    scan scope .start (attachedAll vs ++ rest) = scan scope ⟨vs, [], .none⟩ rest := by
  have hmem : ∀ p ∈ vs, p.1 ∈ scope.flags ∧ value? p.1 = some p.2 := fun p hp ↦
    mem_given.1 (hvs.mem_iff.1 hp)
  have hnodup : (Scan.start.settled ++ vs.map (·.1)).Nodup :=
    ((hvs.map _).nodup_iff).2 (given_nodup scope value?)
  exact scan_attachedAll (fun p hp ↦ (hmem p hp).1) (fun p hp ↦ hcheck (hmem p hp).2) rest rfl
    hnodup

/-- Texts behind a separator go to the places of a scope, as long as there are any. -/
theorem scanPlaces_eq {texts : List String} :
    ∀ {s : Scan}, s.pending = .none → s.places.length + texts.length ≤ scope.places.length →
      scanPlaces scope s texts = .ok ⟨{ s with places := s.places ++ texts }, none⟩ := by
  induction texts with
  | nil =>
    intro s _ _
    rw [List.append_nil]
    rfl
  | cons t texts ih =>
    intro s hpending hlength
    rw [List.length_cons] at hlength
    let s' : Scan := { s with places := s.places ++ [t] }
    have hplace : s.place scope true t = .ok s' := by
      rw [Scan.place, if_pos (by omega), Scan.settle, hpending]
      rfl
    have hlength' : s'.places.length + texts.length ≤ scope.places.length := by
      rw [List.length_append, List.length_singleton]
      omega
    rw [scanPlaces, hplace]
    simp only [ih (s := s') hpending hlength']
    rw [List.append_assoc]
    rfl

/-- In the scope of a command, a separator is followed by what is for places. -/
theorem scan_separator {c : Name} (s : Scan) (texts : List String) :
    scan (.command c) s ("--" :: texts) = scanPlaces (.command c) s texts := by
  have hcommand : commandAt? (.command c) s "--" = none := ite_self none
  rw [scan, hcommand]
  rfl

/-- The top scope ends at the name of a command. -/
theorem scan_name {c : Command} {s : Scan} (hpending : s.pending = .none) (rest : List String) :
    scan .top s (c.name.text :: rest) = .ok ⟨s, some (c.name, rest)⟩ := by
  have hcommand : commandAt? .top s c.name.text = some c.name := by
    rw [commandAt?, Scan.isWaiting, hpending]
    cases c <;> rfl
  rw [scan, hcommand]
  cases c <;> rfl

/-- Every command has places for what it gives. -/
theorem length_places (c : Command) : c.places.length ≤ (Scope.command c.name).places.length := by
  cases c <;> exact Nat.le_refl _

/-- **All that a command gives is found after its name.** -/
theorem scanAll_tail {c : Command} {tail : List String} (h : c.Tail tail) :
    ∃ vs : List (Flag × String), vs.Perm ((Scope.command c.name).given c.value?) ∧
      scanAll (.command c.name) tail = .ok ⟨vs, c.places, .none⟩ := by
  cases h with
  | closed vs hvs =>
    refine ⟨vs, hvs, ?_⟩
    have hlength := length_places c
    rw [scanAll, scan_given hvs Command.check_value?, scan_separator,
      scanPlaces_eq rfl (by simpa using hlength)]
    rfl
  | plain vs hvs hplaces =>
    refine ⟨vs, hvs, ?_⟩
    have hscan := scan_given hvs Command.check_value? []
    rw [List.append_nil] at hscan
    rw [scanAll, hscan, hplaces]
    rfl

/-! ## Reading -/

theorem ofGiven?_given (inputs : Creation) : Creation.ofGiven? inputs.given = some inputs := by
  rw [Creation.ofGiven?, dif_pos fun k _ ↦ inputs.complete k]

/-- A command is made again from all that it gives. -/
theorem command?_eq {c : Command} (hvs : vs.Perm ((Scope.command c.name).given c.value?)) :
    command? c.name ⟨vs, c.places, .none⟩ = some c := by
  have hvalue : ∀ f ∈ (Scope.command c.name).flags,
      Scan.value? ⟨vs, c.places, .none⟩ f = c.value? f := fun f hf ↦ Scan.value?_eq_of_perm hvs hf
  cases c with
  | create inputs =>
    have hgiven : (fun k ↦ Scan.value? ⟨vs, [], .none⟩ (.input k)) = inputs.given :=
      funext fun k ↦ hvalue (.input k) (List.mem_map_of_mem (Key.mem_all k))
    simp only [Command.name, command?, Command.places, hgiven, ofGiven?_given, Option.map_some]
  | config apiUrl hideAfter =>
    have hurl : Scan.value? ⟨vs, [], .none⟩ .storedUrl = apiUrl :=
      hvalue .storedUrl (by simp [Command.name, Scope.flags])
    have htime : Scan.value? ⟨vs, [], .none⟩ .storedTime = hideAfter.map toString :=
      hvalue .storedTime (by simp [Command.name, Scope.flags])
    have hback : (hideAfter.map toString).bind time? = hideAfter := by
      cases hideAfter with
      | none => rfl
      | some n => exact time?_toString n
    simp only [Command.name, command?, Command.places, hurl, htime, hback]
  | _ => rfl

theorem parseCommand_tail {c : Command} {tail : List String} (h : c.Tail tail) :
    parseCommand c.name tail = .ok c := by
  obtain ⟨vs, hvs, hscan⟩ := scanAll_tail h
  simp only [parseCommand, hscan, command?_eq hvs]

/-- What is found in the top scope makes the arguments again. -/
theorem assemble_eq {a : Arguments} {limit : Option String} (hlimit : LimitSaid a.limit limit)
    (hvs : vs.Perm (Scope.top.given (a.value? limit))) :
    assemble none ⟨vs, [], .none⟩ a.command = a := by
  have hvalue : ∀ f ∈ Scope.top.flags, Scan.value? ⟨vs, [], .none⟩ f = a.value? limit f :=
    fun f hf ↦ Scan.value?_eq_of_perm hvs hf
  have hurl : Scan.value? ⟨vs, [], .none⟩ .apiUrl = a.apiUrl := hvalue .apiUrl (by decide)
  have hlog : Scan.value? ⟨vs, [], .none⟩ .logLevel = limit := hvalue .logLevel (by decide)
  rw [assemble, hurl, hlog, hlimit.join_eq, Option.or_none]

end CommandLine

/-- **Whichever way it is written, what a command line says is read back.** -/
theorem Arguments.Writes.parse_eq {a : Arguments} {arguments : List String}
    (h : a.Writes arguments) : Arguments.parse none arguments = .ok a := by
  cases h with
  | @alone limit vs hlimit hvs hcommand =>
    have hscan : scan .top .start (attachedAll vs) = .ok ⟨⟨vs, [], .none⟩, none⟩ := by
      have hgiven := scan_given hvs (Arguments.check_value? hlimit) []
      rwa [List.append_nil] at hgiven
    have hassemble : assemble none ⟨vs, [], .none⟩ none = a := hcommand ▸ assemble_eq hlimit hvs
    simp only [Arguments.parse, hscan, parseFollowing, Scan.settle, hassemble]
  | @before limit vs c tail hlimit hvs hcommand htail =>
    have hscan : scan .top .start (attachedAll vs ++ c.name.text :: tail) =
        .ok ⟨⟨vs, [], .none⟩, some (c.name, tail)⟩ :=
      (scan_given hvs (Arguments.check_value? hlimit) _).trans (scan_name rfl tail)
    have hassemble : assemble none ⟨vs, [], .none⟩ (some c) = a :=
      hcommand ▸ assemble_eq hlimit hvs
    simp only [Arguments.parse, hscan, parseFollowing, parseCommand_tail htail, Except.map,
      Scan.settle, hassemble]

/-! ## The inputs for a new cluster -/

namespace CommandLine

variable {scope : Scope} {f : Flag} {v : String} {vs : List (Flag × String)}
  {value? : Flag → Option String}

/-- A flag with a value stands among the arguments exactly if that value is given for it. -/
theorem attached_mem_iff (hvs : vs.Perm (scope.given value?)) (hf : f ∈ scope.flags) :
    f.attached v ∈ attachedAll vs ↔ value? f = some v := by
  rw [attachedAll, List.mem_map]
  constructor
  · rintro ⟨⟨g, w⟩, hmem, heq⟩
    obtain ⟨hg, hvalue⟩ := mem_given.1 (hvs.mem_iff.1 hmem)
    obtain ⟨hname, rfl⟩ := name_eq_of_attached_eq heq
    have hsame : some g = some f := (flag?_name hg).symm.trans (hname ▸ flag?_name hf)
    exact Option.some.inj hsame ▸ hvalue
  · exact fun hvalue ↦ ⟨(f, v), hvs.mem_iff.2 (mem_given.2 ⟨hf, hvalue⟩), rfl⟩

/-- A flag of the top scope is not one for an input. -/
theorem attached_not_mem_top {k : Key} (hvs : vs.Perm (Scope.top.given value?)) :
    (Flag.input k).attached v ∉ attachedAll vs := by
  rw [attachedAll, List.mem_map]
  rintro ⟨⟨g, w⟩, hmem, heq⟩
  obtain ⟨hg, -⟩ := mem_given.1 (hvs.mem_iff.1 hmem)
  have hall : ∀ g ∈ Scope.top.flags, g.name ≠ (Flag.input k).name := by
    cases k <;> decide
  exact hall g hg (name_eq_of_attached_eq heq).1

theorem attached_mem_tail {inputs : Creation} {k : Key} {tail : List String}
    (h : (Command.create inputs).Tail tail) :
    (Flag.input k).attached v ∈ tail ↔ inputs.given k = some v := by
  have hk : Flag.input k ∈ (Scope.command .create).flags := List.mem_map_of_mem (Key.mem_all k)
  cases h with
  | closed vs hvs =>
    have hseparator : (Flag.input k).attached v ≠ "--" := fun heq ↦ by
      cases heq ▸ form_attached (.input k) v
    have hplaces : (Command.create inputs).places = [] := rfl
    rw [List.mem_append, hplaces, List.mem_singleton, or_iff_left hseparator]
    exact attached_mem_iff hvs hk
  | plain vs hvs => exact attached_mem_iff hvs hk

end CommandLine

/-- In a command line that creates a cluster, an input stands with a value exactly if that value is
given for it. -/
theorem Arguments.Writes.attached_mem_iff {a : Arguments} {arguments : List String}
    {inputs : Creation} (h : a.Writes arguments) (hcommand : a.command = some (.create inputs))
    (k : Key) (v : String) :
    (Flag.input k).attached v ∈ arguments ↔ inputs.given k = some v := by
  cases h with
  | alone vs hlimit hvs hnone => cases hcommand.symm.trans hnone
  | @before limit vs c tail _ hvs hsome htail =>
    cases Option.some.inj (hcommand.symm.trans hsome)
    have hname : (Flag.input k).attached v ≠ Name.create.text := (text_ne_attached _ _ _).symm
    rw [List.mem_append, or_iff_right (attached_not_mem_top hvs), List.mem_cons,
      Command.name, or_iff_right hname]
    exact attached_mem_tail htail

/-- What is read from `arguments`, in which `a` is written. -/
structure Arguments.ReadBack (a : Arguments) (arguments : List String) (b : Arguments) : Prop where
  eq : b = a
  submission?_eq : b.command.bind Command.submission? = a.command.bind Command.submission?
  /-- Every input for a new cluster gets the value that stands behind its flag, and an empty text
  if its flag is left out. -/
  create : ∀ inputs, a.command = some (.create inputs) → ∃ fields : Fields,
    b.command.bind Command.submission? = some (.create fields) ∧
    (∀ k v, (Flag.input k).attached v ∈ arguments → fields.text k = v) ∧
    ∀ k, (∀ v, (Flag.input k).attached v ∉ arguments) → fields.text k = ""

/-- **Everything that a command line can say can be written, and whichever way it is written, it is
read back.** -/
theorem parse_written (a : Arguments) :
    (∃ arguments, a.Writes arguments) ∧
    ∀ arguments, a.Writes arguments →
      ∃ b, Arguments.parse none arguments = .ok b ∧ a.ReadBack arguments b := by
  refine ⟨a.exists_writes, fun arguments h ↦ ⟨a, h.parse_eq, rfl, rfl, fun inputs hcommand ↦ ?_⟩⟩
  have htext : ∀ k, inputs.fields.text k = (inputs.given k).getD "" := fun _ ↦ rfl
  refine ⟨inputs.fields, by rw [hcommand]; rfl, fun k v hmem ↦ ?_, fun k hnone ↦ ?_⟩
  · have hgiven : inputs.given k = some v := (h.attached_mem_iff hcommand k v).1 hmem
    rw [htext, hgiven, Option.getD_some]
  · have hgiven : inputs.given k = none := Option.eq_none_iff_forall_ne_some.2 fun v hv ↦
      hnone v ((h.attached_mem_iff hcommand k v).2 hv)
    rw [htext, hgiven, Option.getD_none]

/-- A new cluster with inputs that are empty, begin with a hyphen and have an equals sign in them,
their flags in another order than that of the keys. -/
theorem parse_written_create :
    let given : Key → Option String := fun k ↦
      match k with
      | .tenantOrgId => some ""
      | .user => some "-u"
      | .serviceName => some "a=b"
      | .ns => some "ñ"
      | _ => none
    let inputs : Creation := ⟨given, fun k h ↦ by cases k <;> first | rfl | cases h⟩
    let a : Arguments := ⟨some "", some .debug, some (.create inputs)⟩
    let arguments := ["--log-level=debug", "--api-url=", "create", "--namespace=ñ",
      "--service-name=a=b", "--user=-u", "--tenant-org-id=", "--"]
    a.Writes arguments ∧
    ∃ b, Arguments.parse none arguments = .ok b ∧ a.ReadBack arguments b := by
  intro given inputs a arguments
  have htail : (Command.create inputs).Tail ["--namespace=ñ", "--service-name=a=b", "--user=-u",
      "--tenant-org-id=", "--"] :=
    .closed [(.input .ns, "ñ"), (.input .serviceName, "a=b"), (.input .user, "-u"),
      (.input .tenantOrgId, "")] (by decide)
  have hwrites : a.Writes arguments :=
    .before [(.logLevel, "debug"), (.apiUrl, "")] (.named (some .debug)) (by decide) rfl htail
  exact ⟨hwrites, (parse_written a).2 arguments hwrites⟩

end ClusterConsole
