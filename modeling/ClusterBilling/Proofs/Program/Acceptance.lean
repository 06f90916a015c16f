import Mathlib
import ClusterBilling.Program.LogSettings

/-!
What an accepted command line holds. Each option that it gives is one of those that there are, with
a value that the option may have; so the log can be set up as it says.
-/
namespace ClusterBilling

/-- The option of a word, if it has one, is one of these. -/
def Word.Among (specs : List OptionSpec) : Word → Prop
  | option o _ | letters o _ => o ∈ specs
  | operand _ | separator | unknown _ => True

/-- A value that the option may have. -/
def OptionSpec.Admits (o : OptionSpec) (value : Text) : Prop :=
  o.takesValue = true → o.choices = [] ∨ value ∈ o.choices

/-- The options that were read are some of these, with values that they may have. -/
def Parsed.Obeys (specs : List OptionSpec) (p : Parsed) : Prop :=
  ∀ x ∈ p.values, x.1 ∈ specs ∧ x.1.Admits x.2

section
variable {specs : List OptionSpec}

theorem mem_of_mem_namedOptions {name : Text} {o : OptionSpec}
    (h : (name, o) ∈ namedOptions specs) : o ∈ specs := by
  obtain ⟨o', ho, hn⟩ := List.mem_flatMap.mp h
  obtain ⟨name', -, he⟩ := List.mem_map.mp hn
  cases he
  exact ho

theorem mem_of_lookup {name : Text} {o : OptionSpec}
    (h : (namedOptions specs).lookup name = some o) : o ∈ specs := by
  obtain ⟨l, r, he, -⟩ := List.lookup_eq_some_iff.mp h
  have hmem : (name, o) ∈ namedOptions specs := by simp [he]
  exact mem_of_mem_namedOptions hmem

theorem among_of_mem_candidates {argument : Text} {x : Text × Word}
    (h : x ∈ candidates specs argument) : x.2.Among specs := by
  unfold candidates at h
  split at h
  · obtain ⟨⟨name, o⟩, ho, he⟩ := List.mem_filterMap.mp h
    dsimp only at he
    split_ifs at he
    cases he
    exact mem_of_mem_namedOptions ho
  · obtain ⟨⟨name, o⟩, ho, he⟩ := List.mem_filterMap.mp h
    dsimp only at he
    split_ifs at he <;> cases he <;> exact mem_of_mem_namedOptions ho

theorem among_of_classify {argument : Text} {w : Word} (h : classify specs argument = .ok w) :
    w.Among specs := by
  unfold classify at h
  dsimp only at h
  split at h
  · cases h
    trivial
  · split at h
    · next o ho =>
      cases h
      exact mem_of_lookup ho
    · split at h
      · cases h
        trivial
      · split at h
        · next o value ho _ =>
          cases h
          exact mem_of_lookup ho
        · split at h
          · next name word hc =>
            cases h
            exact among_of_mem_candidates (x := (name, w)) (by rw [hc]; simp)
          · cases h
            split_ifs <;> trivial
          · cases h

theorem among_of_classifyAll {arguments : List Text} {words : List (Text × Word)}
    (h : classifyAll specs arguments = .ok words) : ∀ x ∈ words, x.2.Among specs := by
  induction arguments generalizing words with
  | nil =>
    cases h
    exact nofun
  | cons a as ih =>
    rw [classifyAll] at h
    split_ifs at h
    · cases h
      simp [Word.Among]
    · split at h
      · cases h
      · next w hw =>
        cases hr : classifyAll specs as with
        | error e => rw [hr] at h; cases h
        | ok words' =>
          rw [hr] at h
          cases h
          exact List.forall_mem_cons.mpr ⟨among_of_classify hw, ih hr⟩

theorem Parsed.Obeys.withValue {o : OptionSpec} {value : Text} {rest : Except UsageError Parsed}
    {p : Parsed} (ho : o ∈ specs) (hr : ∀ p, rest = .ok p → p.Obeys specs)
    (h : withValue o value rest = .ok p) : p.Obeys specs := by
  unfold Parsed.withValue checkChoice at h
  by_cases hc : (o.choices.isEmpty || o.choices.contains value) = true
  · rw [if_pos hc] at h
    cases rest with
    | error e => cases h
    | ok p' =>
      cases h
      have hadmits : o.Admits value := fun _ => by simpa using hc
      exact List.forall_mem_cons.mpr ⟨⟨ho, hadmits⟩, hr p' rfl⟩
  · rw [if_neg hc] at h
    cases h

theorem Parsed.obeys_map {rest : Except UsageError Parsed} {f : Parsed → Parsed} {p : Parsed}
    (hf : ∀ p, (f p).values = p.values) (hr : ∀ p, rest = .ok p → p.Obeys specs)
    (h : rest.map f = .ok p) : p.Obeys specs := by
  cases rest with
  | error e => cases h
  | ok p' =>
    cases h
    unfold Obeys
    rw [hf]
    exact hr p' rfl

theorem Parsed.obeys_flag {o : OptionSpec} (ho : o ∈ specs) (ht : ¬ o.takesValue = true) :
    (Parsed.mk [(o, "")] [] []).Obeys specs :=
  List.forall_mem_singleton.mpr ⟨ho, fun h => absurd h ht⟩

/-- What is read of words obeys the options that the words are of. -/
theorem obeys_of_readWords {stops : Bool} {words : List (Text × Word)} {p : Parsed}
    (hw : ∀ x ∈ words, x.2.Among specs) (h : readWords stops words = .ok p) : p.Obeys specs := by
  fun_induction readWords stops words generalizing p with
  | case1 | case2 | case4 =>
    cases h
    exact nofun
  | case3 _ _ ws _ ih | case5 _ ws _ ih | case6 _ _ ws ih =>
    have hws := (List.forall_mem_cons.mp hw).2
    refine Parsed.obeys_map ?_ (fun _ hr => ih hws hr) h
    exact fun _ => rfl
  | case7 _ o _ ws _ ih | case10 _ o _ ws _ ih =>
    obtain ⟨ho, hws⟩ := List.forall_mem_cons.mp hw
    exact .withValue ho (fun _ hr => ih hws hr) h
  | case12 _ o _ _ _ ws ih =>
    obtain ⟨ho, hws⟩ := List.forall_mem_cons.mp hw
    exact .withValue ho (fun _ hr => ih (List.forall_mem_cons.mp hws).2 hr) h
  | case9 _ o _ _ ht _ | case14 _ o _ ht =>
    cases h
    exact Parsed.obeys_flag (List.forall_mem_cons.mp hw).1 ht
  | case8 | case11 | case13 => cases h

theorem obeys_of_readOptions {stops : Bool} {arguments : List Text} {p : Parsed}
    (h : readOptions specs stops arguments = .ok p) : p.Obeys specs := by
  unfold readOptions at h
  split at h
  · cases h
  · next words hc => exact obeys_of_readWords (among_of_classifyAll hc) h

/-- The value that was given to an option by one of its names. -/
theorem Parsed.Obeys.value {p : Parsed} (h : p.Obeys specs) {name value : Text}
    (hv : p.value? name = some value) :
    ∃ o ∈ specs, o.names.contains name ∧ o.Admits value := by
  obtain ⟨⟨o, v⟩, hfind, rfl⟩ := Option.map_eq_some_iff.mp hv
  obtain ⟨ho, hadmits⟩ := h (o, v) (List.mem_reverse.mp (List.mem_of_find?_eq_some hfind))
  have hname : o.names.contains name = true := by simpa using List.find?_some hfind
  exact ⟨o, ho, hname, hadmits⟩

end

section
variable {arguments : List Text} {i : Invocation}

theorem exists_options_of_readCommand {program : Parsed} {name : Text}
    (h : readCommand program name arguments = .ok (.report i)) :
    ∃ options command, i = .ofOptions program options command := by
  unfold readCommand at h
  split at h
  · cases h
  · next options _ =>
    split at h
    · cases h
    · split at h
      · cases h
      · dsimp only at h
        split at h
        · cases h
        · cases h
          exact ⟨options, _, rfl⟩
        · cases h

theorem exists_options_of_accepted (h : readCommandLine arguments = .ok (.report i)) :
    ∃ program options command, program.Obeys programOptions ∧
      i = .ofOptions program options command := by
  unfold readCommandLine at h
  split at h
  · cases h
  · next program hp =>
    suffices ∃ options command, i = .ofOptions program options command by
      obtain ⟨options, command, hi⟩ := this
      exact ⟨program, options, command, obeys_of_readOptions hp, hi⟩
    split at h
    · cases h
    · split at h
      · cases h
      · next name arguments _ =>
        split at h
        · exact exists_options_of_readCommand h
        · cases h

/-- The levels that a command line may set. -/
def givenLevels : List Text := ["debug", "info", "warning", "error"]

theorem mem_choices {program : Parsed} (hp : program.Obeys programOptions) {name default : Text}
    {choices : List Text} (hd : default ∈ choices)
    (hc : ∀ o ∈ programOptions, o.names.contains name → o.takesValue = true ∧ o.choices = choices) :
    (program.value? name).getD default ∈ choices := by
  cases hv : program.value? name with
  | none => exact hd
  | some value =>
    obtain ⟨o, ho, hname, hadmits⟩ := hp.value hv
    obtain ⟨ht, rfl⟩ := hc o ho hname
    exact (hadmits ht).resolve_left (List.ne_nil_of_mem hd)

/-- The log of an accepted command line has one of the levels and formats that there are. -/
theorem log_of_accepted (h : readCommandLine arguments = .ok (.report i)) :
    i.logLevel ∈ givenLevels ∧ i.logFormat ∈ logFormats := by
  obtain ⟨program, options, command, hp, rfl⟩ := exists_options_of_accepted h
  exact ⟨mem_choices hp (by decide) (by decide), mem_choices hp (by decide) (by decide)⟩

/-- So it can be set up. -/
theorem exists_logSettings_of_accepted (h : readCommandLine arguments = .ok (.report i)) :
    ∃ log, LogSettings.ofNames i.logLevel i.logFormat = .ok log := by
  have hall : ∀ level ∈ givenLevels, ∀ format ∈ logFormats,
      (LogSettings.ofNames level format).isOk = true := by decide +kernel
  obtain ⟨hlevel, hformat⟩ := log_of_accepted h
  have hok := hall _ hlevel _ hformat
  cases hl : LogSettings.ofNames i.logLevel i.logFormat with
  | error e =>
    rw [hl] at hok
    cases hok
  | ok log => exact ⟨log, rfl⟩

end
end ClusterBilling
