import OrgService.CommandLine.Run
import OrgService.Proofs.CommandLine.Variables
import OrgService.Proofs.Trace

/-!
# Runs that read the environment

A run that leaves the null policy, the treatment of repeated identities and the generator of
identifiers to the environment should have those of a context that is made there, and be refused
where there can be no such context. It does if, and only if, the environment reads alike for
options and settings, unless it is refused by both.
-/

namespace OrgService.CommandLine

namespace Session

variable {α β : Type}

@[simp] theorem result_bind (x : Session α) (f : α → Session β) :
    (x >>= f).result = x.result >>= fun a ↦ (f a).result := by
  obtain ⟨reports, result⟩ := x
  cases result <;> rfl

@[simp] theorem result_pure (a : α) : (pure a : Session α).result = .ok a := rfl

@[simp] theorem checked_ok_bind (a : α) (f : α → Session β) : (checked (.ok a) >>= f) = f a := rfl

@[simp] theorem result_checked (x : Except UsageFault α) :
    (checked x).result = x.mapError .usage := rfl

end Session

/-! ## Looking at options -/

namespace ProgramOption

variable {s : Scanned ProgramOption} {o : OptionSpec ProgramOption}

/-- The options that stand for settings of the environment. -/
def mirrored : List ProgramOption := [.nullPolicy, .rejectDuplicates, .idScheme]

theorem mem_mirrored_iff {key : ProgramOption} :
    key ∈ mirrored ↔ key = .nullPolicy ∨ key = .rejectDuplicates ∨ key = .idScheme := by
  simp [mirrored]

@[simp] theorem key_spec (key : ProgramOption) : (spec key).key = key := by
  cases key <;> rfl

theorem exists_of_mem_order (ho : o ∈ grammar.order s) : ∃ key, o = spec key := by
  have hoptions : o ∈ grammar.options := by
    simp only [Grammar.order, List.mem_append, List.mem_filter, List.mem_filterMap] at ho
    rcases ho with ⟨⟨k, -, hfound⟩ | ⟨hmem, -⟩, -⟩ | ⟨⟨k, -, hfound⟩ | ⟨hmem, -⟩, -⟩
    · exact List.mem_of_find?_eq_some hfound
    · exact hmem
    · exact List.mem_of_find?_eq_some hfound
    · exact hmem
  obtain ⟨key, -, rfl⟩ := List.mem_map.mp hoptions
  exact ⟨key, rfl⟩

theorem mem_order {key : ProgramOption} (h : s.callsOf key = []) : spec key ∈ grammar.order s := by
  have huncalled : s.calls.any (fun c ↦ c.1 = (spec key).key) = false := by
    rw [key_spec, List.any_eq_false]
    intro c hc hkey
    have hcall : c.2 ∈ s.callsOf key := List.mem_filterMap.mpr ⟨c, hc, if_pos (by simpa using hkey)⟩
    rw [h] at hcall
    contradiction
  have hoption : spec key ∈ grammar.options := List.mem_map_of_mem (by cases key <;> decide)
  simp only [Grammar.order, List.mem_append, List.mem_filter]
  cases (spec key).eager
  · exact .inr ⟨.inr ⟨hoption, by rw [huncalled]; rfl⟩, rfl⟩
  · exact .inl ⟨.inr ⟨hoption, by rw [huncalled]; rfl⟩, rfl⟩

end ProgramOption

section run

variable {s : Scanned ProgramOption} {around : Surroundings} {arguments : List String}

open ProgramSettings (check)

theorem lookAt_cons (hversion : s.callsOf .version = []) (hhelp : s.callsOf .help = [])
    (o : OptionSpec ProgramOption) (rest : List (OptionSpec ProgramOption)) :
    lookAt s around (o :: rest) =
      Session.checked (check s around o.key) >>= fun _ ↦ lookAt s around rest := by
  rw [lookAt]
  cases hkey : o.key with
  | version =>
      simp only [hversion]
      rfl
  | help =>
      simp only [hhelp]
      rfl
  | _ => rfl

/-- Options are looked at one after the other, up to the first that makes no sense. -/
theorem lookAt_cases (hversion : s.callsOf .version = []) (hhelp : s.callsOf .help = [])
    (specs : List (OptionSpec ProgramOption)) :
    ((lookAt s around specs).result = .ok () ∧ ∀ o ∈ specs, check s around o.key = .ok ()) ∨
      ∃ o ∈ specs, ∃ fault, check s around o.key = .error fault ∧
        (lookAt s around specs).result = .error (.usage fault) := by
  induction specs with
  | nil => exact .inl ⟨rfl, by simp⟩
  | cons o rest ih =>
      rw [lookAt_cons hversion hhelp, Session.result_bind, Session.result_checked]
      cases hcheck : check s around o.key with
      | error fault => exact .inr ⟨o, List.mem_cons_self, fault, hcheck, rfl⟩
      | ok u =>
          rcases ih with ⟨hok, hall⟩ | ⟨o', ho', fault, hfault, hresult⟩
          · exact .inl ⟨hok, List.forall_mem_cons.mpr ⟨hcheck, hall⟩⟩
          · exact .inr ⟨o', .tail _ ho', fault, hfault, hresult⟩

/-- Nothing but the three options left to the environment can keep a run from starting. -/
structure StartsOtherwise (around : Surroundings) (arguments : List String)
    (s : Scanned ProgramOption) : Prop where
  scanned : ProgramOption.grammar.scan arguments = .ok s
  left : ∀ key ∈ ProgramOption.mirrored, s.callsOf key = []
  version : s.callsOf .version = []
  help : s.callsOf .help = []
  others : ∀ key ∉ ProgramOption.mirrored, check s around key = .ok ()
  command : ∃ chosen, chooseCommand s.others = .ok chosen

/-- The fault lies in the value of an option. -/
def UsageFault.Blames (fault : UsageFault) (o : OptionSpec ProgramOption) : Prop :=
  ∃ problem, fault = .invalidValue o.hint problem

/-- A run is refused over the value of one of the three options. -/
def Outcome.IsRefused (o : Outcome) : Prop :=
  o.settings = none ∧ ∃ key ∈ ProgramOption.mirrored, ∃ fault : UsageFault,
    fault.Blames (ProgramOption.spec key) ∧ o.ending = some (.usage fault)

theorem blames_of_blame {α : Type} {o : OptionSpec ProgramOption}
    {x : Except ValueProblem α} {fault : UsageFault} (h : Scanned.blame o x = .error fault) :
    fault.Blames o := by
  obtain ⟨problem, -, rfl⟩ := mapError_eq_error_iff.mp h
  exact ⟨problem, rfl⟩

theorem blames_of_value {α : Type} {o : OptionSpec ProgramOption} {default : α}
    {read : String → Except ValueProblem α} {fault : UsageFault}
    (h : s.value around.env o default read = .error fault) : fault.Blames o := by
  rw [Scanned.value] at h
  split at h
  · exact blames_of_blame h
  · split at h
    · exact blames_of_blame h
    · contradiction

theorem blames_of_switch {o : OptionSpec ProgramOption} {default : Bool}
    {fault : UsageFault} (h : s.switch around.env o default = .error fault) : fault.Blames o := by
  rw [Scanned.switch] at h
  split at h
  · contradiction
  · split at h
    · exact blames_of_blame h
    · contradiction

theorem blames_of_check {key : ProgramOption} (hkey : key ∈ ProgramOption.mirrored)
    {fault : UsageFault} (h : check s around key = .error fault) :
    fault.Blames (ProgramOption.spec key) := by
  rcases ProgramOption.mem_mirrored_iff.mp hkey with rfl | rfl | rfl
  · exact blames_of_value (map_eq_error_iff.mp h)
  · exact blames_of_switch (map_eq_error_iff.mp h)
  · exact blames_of_value (map_eq_error_iff.mp h)

/-- Settings exist if all options make sense. -/
theorem exists_resolve_eq_ok (h : ∀ key, check s around key = .ok ()) :
    ∃ p, ProgramSettings.resolve s around = .ok p ∧
      ProgramSettings.nullPolicyOf s around = .ok p.nullPolicy ∧
      ProgramSettings.rejectDuplicatesOf s around = .ok p.rejectDuplicates ∧
      ProgramSettings.idSchemeOf s around = .ok p.idScheme := by
  obtain ⟨_, hverbosity, -⟩ := map_eq_ok_iff.mp (h .verbose)
  obtain ⟨_, hquietness, -⟩ := map_eq_ok_iff.mp (h .quiet)
  obtain ⟨_, hdebug, -⟩ := map_eq_ok_iff.mp (h .debugMode)
  obtain ⟨_, hpath, -⟩ := map_eq_ok_iff.mp (h .logPath)
  obtain ⟨_, hcapacity, -⟩ := map_eq_ok_iff.mp (h .capacity)
  obtain ⟨_, hrecorder, -⟩ := map_eq_ok_iff.mp (h .flightRecorder)
  obtain ⟨_, hflush, -⟩ := map_eq_ok_iff.mp (h .forceFlush)
  obtain ⟨_, hoverrides, -⟩ := map_eq_ok_iff.mp (h .loggerLevels)
  obtain ⟨policy, hpolicy, -⟩ := map_eq_ok_iff.mp (h .nullPolicy)
  obtain ⟨reject, hreject, -⟩ := map_eq_ok_iff.mp (h .rejectDuplicates)
  obtain ⟨scheme, hscheme, -⟩ := map_eq_ok_iff.mp (h .idScheme)
  have hresolve : ∃ logging,
      ProgramSettings.resolve s around = .ok ⟨logging, policy, reject, scheme⟩ := by
    simp only [ProgramSettings.resolve, hverbosity, hquietness, hdebug, hpath, hcapacity, hrecorder,
      hflush, hoverrides, hpolicy, hreject, hscheme]
    exact ⟨_, rfl⟩
  obtain ⟨logging, hresolve⟩ := hresolve
  exact ⟨_, hresolve, hpolicy, hreject, hscheme⟩

theorem result_prepare (h : StartsOtherwise around arguments s) :
    ∃ command rest, (prepare around arguments).result =
      (lookAt s around (ProgramOption.grammar.order s)).result >>= fun _ ↦
        ((ProgramSettings.resolve s around).mapError .usage).map fun p ↦ (p, command, rest) := by
  obtain ⟨⟨command, rest⟩, hcommand⟩ := h.command
  refine ⟨command, rest, ?_⟩
  simp only [prepare, h.scanned, hcommand, Session.checked_ok_bind, Session.result_bind,
    Session.result_checked]
  cases ProgramSettings.resolve s around <;> rfl

theorem settings_run_of_prepare {p : ProgramSettings} {command : Command} {rest : List String}
    (h : (prepare around arguments).result = .ok (p, command, rest)) :
    (run around arguments).settings = some p := by
  simp only [run, h]

theorem run_of_prepare_eq_error {fault : UsageFault}
    (h : (prepare around arguments).result = .error (.usage fault)) :
    (run around arguments).settings = none ∧
      (run around arguments).ending = some (.usage fault) := by
  simp only [run, h, and_self]

/-- A run starts with what the three options come to, or is refused over one of them. -/
theorem run_cases (h : StartsOtherwise around arguments s) :
    (∃ p, (run around arguments).settings = some p ∧
      ProgramSettings.nullPolicyOf s around = .ok p.nullPolicy ∧
      ProgramSettings.rejectDuplicatesOf s around = .ok p.rejectDuplicates ∧
      ProgramSettings.idSchemeOf s around = .ok p.idScheme) ∨
    ((run around arguments).IsRefused ∧
      ∃ key ∈ ProgramOption.mirrored, check s around key ≠ .ok ()) := by
  obtain ⟨command, rest, hprepare⟩ := result_prepare h
  rcases lookAt_cases h.version h.help (ProgramOption.grammar.order s) with
    ⟨hlook, hall⟩ | ⟨o, ho, fault, hfault, hlook⟩
  · left
    have hchecks : ∀ key, check s around key = .ok () := by
      intro key
      by_cases hkey : key ∈ ProgramOption.mirrored
      · simpa using hall _ (ProgramOption.mem_order (h.left key hkey))
      · exact h.others key hkey
    obtain ⟨p, hresolve, hp⟩ := exists_resolve_eq_ok hchecks
    rw [hlook, hresolve] at hprepare
    exact ⟨p, settings_run_of_prepare hprepare, hp⟩
  · right
    obtain ⟨key, rfl⟩ := ProgramOption.exists_of_mem_order ho
    rw [ProgramOption.key_spec] at hfault
    have hkey : key ∈ ProgramOption.mirrored := by
      by_contra hkey
      have hboth := hfault.symm.trans (h.others key hkey)
      contradiction
    rw [hlook] at hprepare
    obtain ⟨hnone, hending⟩ := run_of_prepare_eq_error hprepare
    have hblames := blames_of_check hkey hfault
    exact ⟨⟨hnone, key, hkey, fault, hblames, hending⟩, key, hkey, by simp [hfault]⟩

/-! ## What the options left to the environment come to -/

theorem toOption_nullPolicyOf (h : StartsOtherwise around arguments s) :
    (ProgramSettings.nullPolicyOf s around).toOption = optionNamed? NullPolicy.all NullPolicy.text
      .omit (around.env.text Settings.nullPolicyVariable) :=
  toOption_value rfl (h.left .nullPolicy (by decide))

theorem toOption_idSchemeOf (h : StartsOtherwise around arguments s) :
    (ProgramSettings.idSchemeOf s around).toOption = optionNamed? IdScheme.all IdScheme.text
      .uuid4 (around.env.text Settings.idSchemeVariable) :=
  toOption_value rfl (h.left .idScheme (by decide))

theorem toOption_rejectDuplicatesOf_left (h : StartsOtherwise around arguments s) :
    (ProgramSettings.rejectDuplicatesOf s around).toOption =
      truth? yesWords noWords around.env.duplicatesText :=
  toOption_rejectDuplicatesOf (h.left .rejectDuplicates (by decide))

theorem failsOptions_iff (h : StartsOtherwise around arguments s) : around.env.FailsOptions ↔
    (ProgramSettings.nullPolicyOf s around).toOption = none ∨
      (ProgramSettings.rejectDuplicatesOf s around).toOption = none ∨
      (ProgramSettings.idSchemeOf s around).toOption = none := by
  rw [toOption_nullPolicyOf h, toOption_rejectDuplicatesOf_left h, toOption_idSchemeOf h,
    Environment.FailsOptions]

theorem failsOptions_of_check (h : StartsOtherwise around arguments s) {key : ProgramOption}
    (hkey : key ∈ ProgramOption.mirrored) (hcheck : check s around key ≠ .ok ()) :
    around.env.FailsOptions := by
  have hfails {α : Type} {x : Except UsageFault α} (hx : x.map (fun _ ↦ ()) ≠ .ok ()) :
      x.toOption = none := by
    cases x with
    | error e => rfl
    | ok a => exact absurd rfl hx
  rw [failsOptions_iff h]
  rcases ProgramOption.mem_mirrored_iff.mp hkey with rfl | rfl | rfl
  · exact .inl (hfails hcheck)
  · exact .inr (.inl (hfails hcheck))
  · exact .inr (.inr (hfails hcheck))

theorem isRefused_iff (h : StartsOtherwise around arguments s) :
    (run around arguments).IsRefused ↔ around.env.FailsOptions := by
  rcases run_cases h with ⟨p, hrun, hpolicy, hreject, hscheme⟩ | ⟨hrefused, key, hkey, hcheck⟩
  · refine iff_of_false (fun hrefused ↦ ?_) ?_
    · simp [hrefused.1] at hrun
    · rw [failsOptions_iff h, hpolicy, hreject, hscheme]
      simp [Except.toOption]
  · exact iff_of_true hrefused (failsOptions_of_check h hkey hcheck)

end run

/-! ## Contexts -/

theorem IdScheme.scheme_generator (streams : IdStreams) (scheme : IdScheme) :
    (scheme.generator streams).scheme = some scheme := by
  cases scheme <;> rfl

theorem IdScheme.generator_injective (streams : IdStreams) :
    Function.Injective (IdScheme.generator streams) := by
  intro x y h
  have hsame := congrArg IdGenerator.scheme h
  rw [scheme_generator, scheme_generator] at hsame
  exact Option.some.inj hsame

theorem context_eq_iff {p : ProgramSettings} {streams : IdStreams} {policy : NullPolicy}
    {reject : Bool} {scheme : IdScheme} :
    p.context streams = ⟨Store.new (scheme.generator streams) reject, policy⟩ ↔
      p.nullPolicy = policy ∧ p.rejectDuplicates = reject ∧ p.idScheme = scheme := by
  simp only [ProgramSettings.context, Store.new, Context.mk.injEq, Store.mk.injEq, true_and,
    (IdScheme.generator_injective streams).eq_iff]
  exact and_comm

/-- A context has what the settings come to, or cannot be made as one of them means nothing. -/
theorem create_cases (env : Environment) (streams : IdStreams) :
    (∃ policy reject scheme, Settings.nullPolicy env = .ok policy ∧
      Settings.rejectDuplicates env = .ok reject ∧ Settings.idScheme env = .ok scheme ∧
      Context.create env streams ⟨none, none, .ofEnvironment⟩ =
        .ok ⟨Store.new (scheme.generator streams) reject, policy⟩) ∨
    (env.FailsSettings ∧
      ∃ fault, Context.create env streams ⟨none, none, .ofEnvironment⟩ = .error fault) := by
  rw [Environment.failsSettings_iff]
  simp only [Context.create, givenOr, GeneratorChoice.resolve]
  cases Settings.nullPolicy env with
  | error fault => exact .inr ⟨.inl rfl, fault, rfl⟩
  | ok policy =>
      cases Settings.rejectDuplicates env with
      | error fault => exact .inr ⟨.inr (.inl rfl), fault, rfl⟩
      | ok reject =>
          cases Settings.idScheme env with
          | error fault => exact .inr ⟨.inr (.inr rfl), fault, rfl⟩
          | ok scheme => exact .inl ⟨policy, reject, scheme, rfl, rfl, rfl, rfl⟩

section mirrors

variable {s : Scanned ProgramOption} {around : Surroundings} {arguments : List String}

/-- A run comes to the context that is made where it runs, or is refused where none can be made. -/
def Mirrors (around : Surroundings) (arguments : List String) : Prop :=
  match Context.create around.env around.streams ⟨none, none, .ofEnvironment⟩ with
  | .ok c => ∃ p, (run around arguments).settings = some p ∧ p.context around.streams = c
  | .error _ => (run around arguments).IsRefused

/-- A run that leaves the three options to the environment mirrors a context that is made there if,
and only if, the environment reads alike or fails for both. -/
theorem mirrors_iff_readsAlike (h : StartsOtherwise around arguments s) :
    Mirrors around arguments ↔
      around.env.ReadsAlike ∨ (around.env.FailsSettings ∧ around.env.FailsOptions) := by
  rcases create_cases around.env around.streams with
    ⟨policy, reject, scheme, hpolicy, hreject, hscheme, hcreate⟩ | ⟨hfails, fault, hcreate⟩
  · have hworks : ¬around.env.FailsSettings := by
      rw [Environment.failsSettings_iff, hpolicy, hreject, hscheme]
      simp [Except.toOption]
    simp only [Mirrors, hcreate, hworks, false_and, or_false]
    rcases run_cases h with ⟨p, hrun, hpolicy', hreject', hscheme'⟩ | ⟨hrefused, -⟩
    · rw [Environment.readsAlike_iff, ← toOption_nullPolicyOf h,
        ← toOption_rejectDuplicatesOf_left h, ← toOption_idSchemeOf h,
        ← Settings.toOption_nullPolicy, ← Settings.toOption_rejectDuplicates,
        ← Settings.toOption_idScheme, hpolicy, hreject, hscheme, hpolicy', hreject', hscheme']
      simp [hrun, context_eq_iff, Except.toOption]
    · refine iff_of_false ?_ fun halike ↦ ?_
      · rintro ⟨p, hrun, -⟩
        simp [hrefused.1] at hrun
      · exact hworks (halike.failsOptions_iff.mp ((isRefused_iff h).mp hrefused))
  · simp only [Mirrors, hcreate, hfails, true_and]
    rw [isRefused_iff h]
    refine ⟨.inr, ?_⟩
    rintro (halike | hoptions)
    · exact halike.failsOptions_iff.mpr hfails
    · exact hoptions

/-- An environment with some variables, without files. -/
def Surroundings.ofVariables (bindings : List (String × String)) : Surroundings :=
  ⟨.ofList bindings, fun _ ↦ .unavailable "No such file or directory", "latest.log", [], 0⟩

theorem mirrors_iff_readsAlike_example :
    StartsOtherwise
        (.ofVariables [("FAKEORG_NULL_POLICY", "RETAIN"), ("FAKEORG_ID_GENERATOR", "Ulid")])
        ["-q", "query"] ⟨[(.quiet, .on)], ["query"]⟩ ∧
      Mirrors (.ofVariables [("FAKEORG_NULL_POLICY", "RETAIN"), ("FAKEORG_ID_GENERATOR", "Ulid")])
        ["-q", "query"] := by
  have hstarts : StartsOtherwise
      (.ofVariables [("FAKEORG_NULL_POLICY", "RETAIN"), ("FAKEORG_ID_GENERATOR", "Ulid")])
      ["-q", "query"] ⟨[(.quiet, .on)], ["query"]⟩ := {
    scanned := by rfl
    left := by decide
    version := rfl
    help := rfl
    others := fun key _ ↦ by cases key <;> rfl
    command := ⟨_, rfl⟩ }
  exact ⟨hstarts, (mirrors_iff_readsAlike hstarts).mpr (.inl {
    nullPolicy := fun h ↦ absurd (by decide +kernel) h
    idScheme := fun h ↦ absurd (by decide +kernel) h
    longS := by decide +kernel
    letters := by decide +kernel
    secondVariable := by decide +kernel })⟩

/-- Blanks around the name of a null policy keep a run from starting, but not a context from being
made. -/
theorem not_mirrors_paddedPolicy :
    ¬Mirrors (.ofVariables [("FAKEORG_NULL_POLICY", " retain ")])
      ["-q", "-q", "--no-flight-recorder", "retrieve", "seed.json", "child",
        "00000000-0000-0000-0000-000000000001", "-c", "name"] := by
  rintro ⟨p, hrun, -⟩
  have hnone : (run (.ofVariables [("FAKEORG_NULL_POLICY", " retain ")])
      ["-q", "-q", "--no-flight-recorder", "retrieve", "seed.json", "child",
        "00000000-0000-0000-0000-000000000001", "-c", "name"]).settings = none := by
    rfl
  rw [hnone] at hrun
  cases hrun

end mirrors

end OrgService.CommandLine
