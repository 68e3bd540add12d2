import Mathlib.Data.List.Find
import OrgService.CommandLine.Program
import OrgService.Proofs.Text.PlainWords
import OrgService.Proofs.Trace

/-!
# Two readings of the environment

The settings and the options of the program read the same variables, but not in the same way. Only
the settings drop blanks around a name; only the options fold it, and let a truth value be given by
a single letter or by a second variable. Apart from that both readings agree on every text.
-/

namespace OrgService

namespace Text

theorem lowerCase_eq_empty_iff {text : String} : lowerCase text = "" ↔ text = "" := by
  rw [lowerCase_eq_iff (by decide), Spells]
  simp

end Text

namespace Environment

variable (env : Environment)

/-- The text of a variable; empty if it is unset. -/
def text (variableName : String) : String :=
  (env variableName).getD ""

/-- The text that tells options how to treat repeated identities, out of the first of two variables
that is set. -/
def duplicatesText : String :=
  if env.text Settings.rejectDuplicatesVariable = "" then env.text "FAKEORG_REJECT_DUPLICATES"
  else env.text Settings.rejectDuplicatesVariable

end Environment

open Text (trimBlank lowerCase caseFold Spells Avoids)

/-! ## Names -/

section names

variable {α : Type} (items : List α) (name : α → String) (default : α)

/-- What a text names as a setting. -/
def settingNamed? (text : String) : Option α :=
  if trimBlank text = "" then some default
  else items.find? fun x ↦ name x == lowerCase (trimBlank text)

/-- What a text names as an option. -/
def optionNamed? (text : String) : Option α :=
  if text = "" then some default else items.find? fun x ↦ caseFold (name x) == caseFold text

/-- A text is neither blank nor a name with blanks around it. -/
def NamesNothing (text : String) : Prop :=
  trimBlank text ≠ "" ∧ ∀ x ∈ items, ¬Spells (trimBlank text) (name x)

end names

variable {α : Type} {items : List α} {name : α → String} {default : α} {text : String}

theorem settingNamed?_eq_none_iff (hplain : ∀ x ∈ items, Avoids ['k'] (name x).toList) :
    settingNamed? items name default text = none ↔ NamesNothing items name text := by
  unfold settingNamed? NamesNothing
  split
  · rename_i hblank
    simp [hblank]
  · rename_i hword
    rw [and_iff_right hword, List.find?_eq_none]
    refine forall₂_congr fun x hx ↦ not_congr ?_
    rw [beq_iff_eq, eq_comm, Text.lowerCase_eq_iff (hplain x hx)]

/-- The readings of a name agree if it has no blanks around it or means nothing anyway, provided
that folding makes no difference to it. -/
theorem optionNamed?_eq_iff (hplain : ∀ x ∈ items, Avoids ['k'] (name x).toList)
    (hblank : ∀ x ∈ items, (name x).toList.any Text.isBlank = false)
    (hfold : ∀ x ∈ items, caseFold (name x) = caseFold text ↔ Spells text (name x)) :
    optionNamed? items name default text = settingNamed? items name default text ↔
      (trimBlank text ≠ text → NamesNothing items name text) := by
  by_cases hpadded : trimBlank text = text
  · refine iff_of_true ?_ fun h ↦ absurd hpadded h
    unfold optionNamed? settingNamed?
    rw [hpadded]
    split
    · rfl
    · apply List.find?_congr
      intro x hx
      rw [Bool.eq_iff_iff, beq_iff_eq, beq_iff_eq, hfold x hx,
        ← Text.lowerCase_eq_iff (hplain x hx), eq_comm]
  · have htext : text ≠ "" := by
      rintro rfl
      exact hpadded rfl
    have hnone : optionNamed? items name default text = none := by
      rw [optionNamed?, if_neg htext, List.find?_eq_none]
      intro x hx hsame
      have hspells := (hfold x hx).mp (beq_iff_eq.mp hsame)
      exact hpadded (Text.trimBlank_of_spells hspells (hblank x hx))
    rw [hnone, eq_comm, settingNamed?_eq_none_iff hplain, imp_iff_right hpadded]

theorem optionNamed?_nullPolicy_iff : optionNamed? NullPolicy.all NullPolicy.text .omit text =
    settingNamed? NullPolicy.all NullPolicy.text .omit text ↔
      (trimBlank text ≠ text → NamesNothing NullPolicy.all NullPolicy.text text) := by
  have hfolded : ∀ p ∈ NullPolicy.all, caseFold p.text = p.text := by decide +kernel
  have hplain : ∀ p ∈ NullPolicy.all, Avoids ['f', 'k', 's'] p.text.toList := by decide
  refine optionNamed?_eq_iff (by decide) (by decide) fun p hp ↦ ?_
  rw [hfolded p hp, eq_comm, Text.caseFold_eq_iff (hplain p hp)]

/-- An s that may be written as a long one is in the name of one kind of generators. -/
theorem caseFold_idScheme_iff {scheme : IdScheme} (hscheme : scheme ∈ IdScheme.all) :
    caseFold scheme.text = caseFold text ↔
      Spells text scheme.text ∨ (scheme = .sequential ∧ Spells text "\u017fequential") := by
  have hfolded : ∀ scheme ∈ IdScheme.all, caseFold scheme.text = scheme.text := by decide +kernel
  rw [hfolded scheme hscheme, eq_comm]
  cases scheme with
  | sequential =>
      rw [and_iff_right rfl]
      exact Text.caseFold_eq_cons_iff (w := "equential".toList) (by decide) (by decide)
  | _ =>
      rw [Text.caseFold_eq_iff (by decide)]
      simp

theorem optionNamed?_idScheme_iff : optionNamed? IdScheme.all IdScheme.text .uuid4 text =
    settingNamed? IdScheme.all IdScheme.text .uuid4 text ↔
      (trimBlank text ≠ text → NamesNothing IdScheme.all IdScheme.text text) ∧
        ¬Spells text "\u017fequential" := by
  by_cases hlong : Spells text "\u017fequential"
  · refine iff_of_false (fun hsame ↦ ?_) fun h ↦ h.2 hlong
    have htrim : trimBlank text = text := Text.trimBlank_of_spells hlong (by decide)
    have htext : text ≠ "" := by
      rintro rfl
      exact absurd hlong (by decide)
    have hnothing : NamesNothing IdScheme.all IdScheme.text text := by
      rw [NamesNothing, htrim]
      have hdiffer : ∀ scheme ∈ IdScheme.all, "\u017fequential" ≠ scheme.text := by decide
      exact ⟨htext, fun scheme hscheme hspells ↦ hdiffer scheme hscheme (hlong.unique hspells)⟩
    rw [(settingNamed?_eq_none_iff (by decide)).mpr hnothing, optionNamed?, if_neg htext,
      List.find?_eq_none] at hsame
    have hsequential : IdScheme.sequential ∈ IdScheme.all := by decide
    have hfold := (caseFold_idScheme_iff hsequential).mpr (.inr ⟨rfl, hlong⟩)
    exact hsame _ hsequential (beq_iff_eq.mpr hfold)
  · rw [and_iff_left hlong]
    refine optionNamed?_eq_iff (by decide) (by decide) fun scheme hscheme ↦ ?_
    rw [caseFold_idScheme_iff hscheme, or_iff_left fun h ↦ hlong h.2]

/-! ## What is assumed of options -/

open CommandLine

/-- What a text says when some words mean yes and others mean no. -/
def truth? (yes no : List String) (text : String) : Option Bool :=
  if yes.contains (lowerCase (trimBlank text)) then some true
  else if no.contains (lowerCase (trimBlank text)) then some false
  else none

/-- What is assumed of the library that reads the options: an empty variable counts as unset, a
choice compares texts after folding but does not trim them, and a flag is trimmed, put into lower
case and looked up among some words, nothing at all being a no. -/
structure OptionAssumptions : Prop where
  emptyIsUnset (o : OptionSpec ProgramOption) (env : Environment) :
    o.variableText? env = (o.variableNames.map env.text).find? (· ≠ "")
  choiceFolds {α : Type} (items : List α) (name : α → String) (text : String) :
    (readNamed items name text).toOption =
      items.find? fun x ↦ caseFold (name x) == caseFold text
  flagWords (text : String) :
    (readBoolean text).toOption = truth? ["1", "true", "t", "yes", "y", "on"]
      ["", "0", "false", "f", "no", "n", "off"] text

theorem optionAssumptions : OptionAssumptions where
  emptyIsUnset o env := by
    rw [OptionSpec.variableText?]
    induction o.variableNames with
    | nil => rfl
    | cons v vs ih =>
        rw [List.findSome?_cons, List.map_cons, List.find?_cons, ← ih, Environment.text]
        cases env v with
        | none => rfl
        | some text => by_cases htext : text = "" <;> simp [htext, Option.filter]
  choiceFolds items name text := by
    rw [readNamed]
    cases items.find? fun x ↦ caseFold (name x) == caseFold text <;> rfl
  flagWords text := by
    change (readBoolean text).toOption = truth? yesWords noWords text
    rw [readBoolean, truth?]
    split
    · rfl
    · split <;> rfl

/-! ## Readings of a variable -/

variable {s : Scanned ProgramOption} {around : Surroundings} {env : Environment}

theorem Environment.trimmed_eq (env : Environment) (v : String) :
    env.trimmed v = trimBlank (env.text v) := rfl

theorem Settings.toOption_nullPolicy : (Settings.nullPolicy env).toOption =
    settingNamed? NullPolicy.all NullPolicy.text .omit (env.text nullPolicyVariable) := by
  rw [nullPolicy, Environment.trimmed_eq]
  by_cases hblank : trimBlank (env.text nullPolicyVariable) = ""
  · rw [if_pos hblank, settingNamed?, if_pos hblank]
    rfl
  · rw [if_neg hblank, settingNamed?, if_neg hblank, ← NullPolicy.ofText?]
    cases NullPolicy.ofText? (lowerCase (trimBlank (env.text nullPolicyVariable))) <;> rfl

theorem Settings.toOption_idScheme : (Settings.idScheme env).toOption =
    settingNamed? IdScheme.all IdScheme.text .uuid4 (env.text idSchemeVariable) := by
  rw [idScheme, Environment.trimmed_eq]
  by_cases hblank : trimBlank (env.text idSchemeVariable) = ""
  · rw [if_pos (Text.lowerCase_eq_empty_iff.mpr hblank), settingNamed?, if_pos hblank]
    rfl
  · rw [if_neg (mt Text.lowerCase_eq_empty_iff.mp hblank), settingNamed?, if_neg hblank,
      ← IdScheme.ofText?]
    cases IdScheme.ofText? (lowerCase (trimBlank (env.text idSchemeVariable))) <;> rfl

theorem toOption_value {o : OptionSpec ProgramOption} {v : String} (hv : o.variableNames = [v])
    (hcalls : s.callsOf o.key = []) :
    (s.value env o default (readNamed items name)).toOption =
      optionNamed? items name default (env.text v) := by
  have htexts : (s.textsOf o.key).getLast? = none := by simp [Scanned.textsOf, hcalls]
  rw [Scanned.value, htexts, optionAssumptions.emptyIsUnset, hv, List.map_singleton, optionNamed?]
  by_cases hempty : env.text v = ""
  · rw [hempty, if_pos rfl]
    rfl
  · rw [List.find?_cons_of_pos (by simpa using hempty), if_neg hempty]
    simp only [Scanned.blame, toOption_mapError, optionAssumptions.choiceFolds]

/-! ## Truth values -/

theorem Settings.toOption_rejectDuplicates : (Settings.rejectDuplicates env).toOption =
    truth? affirmations negations (env.text rejectDuplicatesVariable) := by
  rw [rejectDuplicates, Environment.trimmed_eq, truth?]
  split
  · rfl
  · split <;> rfl

/-- Four letters mean something to the options only. -/
theorem truth?_eq_iff : truth? yesWords noWords text =
    truth? Settings.affirmations Settings.negations text ↔
      ∀ letter ∈ ["t", "y", "f", "n"], ¬Spells (trimBlank text) letter := by
  have hspells : ∀ letter ∈ ["t", "y", "f", "n"],
      (Spells (trimBlank text) letter ↔ lowerCase (trimBlank text) = letter) := by
    intro letter hletter
    have hplain : ∀ letter ∈ ["t", "y", "f", "n"], Avoids ['k'] letter.toList := by decide
    exact (Text.lowerCase_eq_iff (hplain letter hletter)).symm
  unfold truth?
  generalize lowerCase (trimBlank text) = word at hspells
  by_cases hletter : word ∈ ["t", "y", "f", "n"]
  · refine iff_of_false ?_ fun h ↦ h word hletter ((hspells word hletter).mpr rfl)
    have hdiffer : ∀ letter ∈ ["t", "y", "f", "n"],
        (if yesWords.contains letter then some true
          else if noWords.contains letter then some false else none) ≠
        if Settings.affirmations.contains letter then some true
          else if Settings.negations.contains letter then some false else none := by decide
    exact hdiffer word hletter
  · refine iff_of_true ?_ fun letter h hsame ↦ hletter ((hspells letter h).mp hsame ▸ h)
    simp only [List.mem_cons, List.not_mem_nil, or_false, not_or] at hletter
    simp [yesWords, noWords, Settings.affirmations, Settings.negations, hletter]

theorem truth?_eq_false_iff : truth? yesWords noWords text = some false ↔
    ∃ word ∈ noWords, Spells (trimBlank text) word := by
  have hspells : ∀ word ∈ noWords,
      (Spells (trimBlank text) word ↔ lowerCase (trimBlank text) = word) := by
    intro word hword
    have hplain : ∀ word ∈ noWords, Avoids ['k'] word.toList := by decide
    exact (Text.lowerCase_eq_iff (hplain word hword)).symm
  rw [exists_congr fun word ↦ and_congr_right (hspells word), exists_eq_right', truth?]
  generalize lowerCase (trimBlank text) = said
  have hapart : ∀ word ∈ noWords, word ∉ yesWords := by decide
  by_cases hno : said ∈ noWords
  · simp [hno, hapart said hno]
  · by_cases hyes : said ∈ yesWords <;> simp [hno, hyes]

theorem toOption_rejectDuplicatesOf (hcalls : s.callsOf .rejectDuplicates = []) :
    (ProgramSettings.rejectDuplicatesOf s around).toOption =
      truth? yesWords noWords around.env.duplicatesText := by
  have hcalls' : (s.callsOf (ProgramOption.spec .rejectDuplicates).key).getLast? = none := by
    rw [show (ProgramOption.spec .rejectDuplicates).key = .rejectDuplicates from rfl, hcalls]
    rfl
  have hvariables : (ProgramOption.spec .rejectDuplicates).variableNames =
    [Settings.rejectDuplicatesVariable, "FAKEORG_REJECT_DUPLICATES"] := rfl
  rw [ProgramSettings.rejectDuplicatesOf, Scanned.switch, hcalls', optionAssumptions.emptyIsUnset,
    hvariables, Environment.duplicatesText]
  by_cases hset : around.env.text Settings.rejectDuplicatesVariable = ""
  · rw [List.map_cons, List.find?_cons_of_neg (by simpa using hset), if_pos hset]
    by_cases hother : around.env.text "FAKEORG_REJECT_DUPLICATES" = ""
    · rw [List.map_singleton, List.find?_cons_of_neg (by simpa using hother), hother]
      rfl
    · rw [List.map_singleton, List.find?_cons_of_pos (by simpa using hother)]
      simp only [Scanned.blame, toOption_mapError, optionAssumptions.flagWords, yesWords, noWords]
  · rw [List.map_cons, List.find?_cons_of_pos (by simpa using hset), if_neg hset]
    simp only [Scanned.blame, toOption_mapError, optionAssumptions.flagWords, yesWords, noWords]

theorem truth?_duplicatesText_iff :
    truth? yesWords noWords env.duplicatesText =
        truth? Settings.affirmations Settings.negations
          (env.text Settings.rejectDuplicatesVariable) ↔
      (∀ letter ∈ ["t", "y", "f", "n"],
        ¬Spells (trimBlank (env.text Settings.rejectDuplicatesVariable)) letter) ∧
      (env.text Settings.rejectDuplicatesVariable = "" →
        ∃ word ∈ noWords, Spells (trimBlank (env.text "FAKEORG_REJECT_DUPLICATES")) word) := by
  rw [Environment.duplicatesText]
  by_cases hset : env.text Settings.rejectDuplicatesVariable = ""
  · have hempty : truth? Settings.affirmations Settings.negations "" = some false := rfl
    have hletters : ∀ letter ∈ ["t", "y", "f", "n"], ¬Spells (trimBlank "") letter := by decide
    rw [if_pos hset, hset, hempty, truth?_eq_false_iff, and_iff_right hletters, imp_iff_right rfl]
  · rw [if_neg hset, truth?_eq_iff, and_iff_left fun h ↦ absurd h hset]

/-! ## All variables -/

namespace Environment

variable (env : Environment)

/-- Where both readings of an environment agree: blanks do not stand around names, no s is a long
one, no truth value is a letter that means nothing to the settings, and where none is given, the
second variable does not say yes. -/
structure ReadsAlike : Prop where
  nullPolicy : trimBlank (env.text Settings.nullPolicyVariable) ≠
      env.text Settings.nullPolicyVariable →
    NamesNothing NullPolicy.all NullPolicy.text (env.text Settings.nullPolicyVariable)
  idScheme : trimBlank (env.text Settings.idSchemeVariable) ≠ env.text Settings.idSchemeVariable →
    NamesNothing IdScheme.all IdScheme.text (env.text Settings.idSchemeVariable)
  longS : ¬Spells (env.text Settings.idSchemeVariable) "\u017fequential"
  letters : ∀ letter ∈ ["t", "y", "f", "n"],
    ¬Spells (trimBlank (env.text Settings.rejectDuplicatesVariable)) letter
  secondVariable : env.text Settings.rejectDuplicatesVariable = "" →
    ∃ word ∈ noWords, Spells (trimBlank (env.text "FAKEORG_REJECT_DUPLICATES")) word

/-- Some variable means nothing as a setting. -/
def FailsSettings : Prop :=
  settingNamed? NullPolicy.all NullPolicy.text .omit (env.text Settings.nullPolicyVariable) = none ∨
    truth? Settings.affirmations Settings.negations
      (env.text Settings.rejectDuplicatesVariable) = none ∨
    settingNamed? IdScheme.all IdScheme.text .uuid4 (env.text Settings.idSchemeVariable) = none

/-- Some variable means nothing as an option. -/
def FailsOptions : Prop :=
  optionNamed? NullPolicy.all NullPolicy.text .omit (env.text Settings.nullPolicyVariable) = none ∨
    truth? yesWords noWords env.duplicatesText = none ∨
    optionNamed? IdScheme.all IdScheme.text .uuid4 (env.text Settings.idSchemeVariable) = none

variable {env}

theorem failsSettings_iff : env.FailsSettings ↔
    (Settings.nullPolicy env).toOption = none ∨ (Settings.rejectDuplicates env).toOption = none ∨
      (Settings.idScheme env).toOption = none := by
  rw [Settings.toOption_nullPolicy, Settings.toOption_rejectDuplicates, Settings.toOption_idScheme,
    FailsSettings]

theorem readsAlike_iff : env.ReadsAlike ↔
    optionNamed? NullPolicy.all NullPolicy.text .omit (env.text Settings.nullPolicyVariable) =
        settingNamed? NullPolicy.all NullPolicy.text .omit (env.text Settings.nullPolicyVariable) ∧
      truth? yesWords noWords env.duplicatesText =
        truth? Settings.affirmations Settings.negations
          (env.text Settings.rejectDuplicatesVariable) ∧
      optionNamed? IdScheme.all IdScheme.text .uuid4 (env.text Settings.idSchemeVariable) =
        settingNamed? IdScheme.all IdScheme.text .uuid4 (env.text Settings.idSchemeVariable) := by
  rw [optionNamed?_nullPolicy_iff, truth?_duplicatesText_iff, optionNamed?_idScheme_iff]
  constructor
  · intro h
    exact ⟨h.nullPolicy, ⟨h.letters, h.secondVariable⟩, h.idScheme, h.longS⟩
  · rintro ⟨hpolicy, ⟨hletters, hsecond⟩, hscheme, hlong⟩
    exact ⟨hpolicy, hscheme, hlong, hletters, hsecond⟩

theorem ReadsAlike.failsOptions_iff (h : env.ReadsAlike) :
    env.FailsOptions ↔ env.FailsSettings := by
  obtain ⟨hpolicy, hduplicates, hscheme⟩ := readsAlike_iff.mp h
  rw [FailsOptions, FailsSettings, hpolicy, hduplicates, hscheme]

end Environment

end OrgService
