/-
Module: ScopedQuery.Proofs.EnvironmentAnswers
Purpose: What loading settings from the environment answers, for every state of
  the two variables.
Trusted boundary: that of Config.Environment; the proofs add none
Main exports:
  Violation.BrokenBy, Config.brokenRules, Config.validate_of_not_valid,
  VariableText, VariableDepth, readVariable_of_text, readDepth_of_depth,
  ofEnvironment_unset, Environment.Answers, ofEnvironment_answers
-/
import ScopedQuery.Proofs.LoadedConfig
import ScopedQuery.Proofs.Numeral

namespace ScopedQuery

/-!
Four things can go wrong, and they are looked for in a fixed order: a prefix that
is no text, a depth that is no text, a depth that is no number, and settings that
break rules.  Of the first three only one is reported, of the rules all that are
broken.  The answers are given here as a relation with one rule for each; that
loading has exactly these answers says that one of them always applies and that
no two apply together.
-/

/-! ## Rules -/

namespace Violation

/-- Every rule, in the order in which they are checked. -/
def all : List Violation :=
  [.emptyAliasPrefix, .aliasPrefixNotIdentifier, .maxLiftDepthOutOfRange]

/-- The settings break a rule: the prefix is empty, it is no identifier, or the
depth does not lie between one and a thousand. -/
def BrokenBy (config : Config) : Violation → Prop
  | .emptyAliasPrefix => config.aliasPrefix = ""
  | .aliasPrefixNotIdentifier =>
      config.aliasPrefix.toList ∉ Identifier.words
  | .maxLiftDepthOutOfRange =>
      ¬ (1 ≤ config.maxLiftDepth.toNat ∧ config.maxLiftDepth.toNat ≤ 1000)

instance (config : Config) : DecidablePred (BrokenBy config)
  | .emptyAliasPrefix => inferInstanceAs (Decidable (_ = _))
  | .aliasPrefixNotIdentifier =>
      decidable_of_iff (¬ Config.isIdentifier config.aliasPrefix = true)
        (not_congr (Config.isIdentifier_iff config.aliasPrefix))
  | .maxLiftDepthOutOfRange => inferInstanceAs (Decidable (¬ (_ ∧ _)))

end Violation

namespace Config

variable {config : Config}

/-- The rules that settings break, in the order of all rules. -/
def brokenRules (config : Config) : List Violation :=
  Violation.all.filter fun rule => rule.BrokenBy config

/-- A rule that is broken stands before the other rules that are. -/
theorem filter_brokenBy_cons (rule : Violation) (rules : List Violation) :
    (rule :: rules).filter (fun rule => rule.BrokenBy config) =
      (if rule.BrokenBy config then [rule] else []) ++
        rules.filter fun rule => rule.BrokenBy config := by
  by_cases broken : rule.BrokenBy config
  · simp [broken]
  · simp [broken]

/-- Checking the rules finds all that are broken. -/
theorem violations_eq_brokenRules (config : Config) :
    config.violations = config.brokenRules := by
  have emptyRule :
      (if config.aliasPrefix.isEmpty then [.emptyAliasPrefix] else []) =
        if Violation.emptyAliasPrefix.BrokenBy config then
          [Violation.emptyAliasPrefix] else [] :=
    if_congr String.isEmpty_iff rfl rfl
  have identifierRule :
      (if isIdentifier config.aliasPrefix then []
        else [.aliasPrefixNotIdentifier]) =
        if Violation.aliasPrefixNotIdentifier.BrokenBy config then
          [Violation.aliasPrefixNotIdentifier] else [] := by
    rw [← ite_not]
    exact if_congr (not_congr (isIdentifier_iff config.aliasPrefix)) rfl rfl
  have depthRule :
      (if 1 ≤ config.maxLiftDepth ∧ config.maxLiftDepth ≤ greatestLiftDepth
        then [] else [.maxLiftDepthOutOfRange]) =
        if Violation.maxLiftDepthOutOfRange.BrokenBy config then
          [Violation.maxLiftDepthOutOfRange] else [] := by
    rw [← ite_not]
    exact if_congr (not_congr (depth_inRange_iff config.maxLiftDepth)) rfl rfl
  rw [violations, emptyRule, identifierRule, depthRule, brokenRules,
    Violation.all]
  simp only [filter_brokenBy_cons, List.filter_nil, List.append_nil,
    List.append_assoc]

/-- Valid settings pass. -/
theorem validate_of_valid (valid : config.Valid) :
    config.validate = .ok config := by
  rw [validate, (violations_eq_nil_iff config).mpr valid]

/-- Other settings are refused with the rules that they break. -/
theorem validate_of_not_valid (invalid : ¬ config.Valid) :
    config.validate = .error (.invalid config.brokenRules) := by
  rw [validate]
  split
  · next unbroken =>
      exact absurd ((violations_eq_nil_iff config).mp unbroken) invalid
  · rw [violations_eq_brokenRules]

/-- An empty prefix breaks two rules. -/
theorem broken_of_empty_aliasPrefix (empty : config.aliasPrefix = "") :
    .emptyAliasPrefix ∈ config.brokenRules ∧
      .aliasPrefixNotIdentifier ∈ config.brokenRules := by
  have noIdentifier : config.aliasPrefix.toList ∉ Identifier.words := by
    rw [← isIdentifier_iff, empty]
    decide
  constructor
  · exact List.mem_filter.mpr ⟨by decide, decide_eq_true empty⟩
  · exact List.mem_filter.mpr ⟨by decide, decide_eq_true noIdentifier⟩

end Config

/-! ## Variables -/

/-- The text of a variable, or the default where it is not set.  A variable that is
set to nothing has the empty text. -/
inductive VariableText (default : String) : Option ByteArray → String → Prop where
  | unset : VariableText default none default
  | set (text : String) : VariableText default (some text.toUTF8) text

/-- The number that the text of a variable denotes, or the default where it is not
set. -/
inductive VariableDepth (default : UInt32) : Option ByteArray → UInt32 → Prop where
  | unset : VariableDepth default none default
  | set {text : String} {depth : UInt32}
      (denotes : Text.Denotes text.toList depth.toNat) :
      VariableDepth default (some text.toUTF8) depth

theorem fromUTF8?_toUTF8 (text : String) :
    String.fromUTF8? text.toUTF8 = some text :=
  dif_pos text.isValidUTF8

/-- The bytes of a variable are no text unless they are those of one. -/
theorem fromUTF8?_eq_none_iff {bytes : ByteArray} :
    String.fromUTF8? bytes = none ↔ ¬ bytes.IsValidUTF8 := by
  simp [String.fromUTF8?]

theorem eq_toUTF8_of_fromUTF8? {bytes : ByteArray} {text : String}
    (read : String.fromUTF8? bytes = some text) : bytes = text.toUTF8 := by
  unfold String.fromUTF8? at read
  split at read
  · cases read
    rfl
  · cases read

/-- A variable is unset, or it is set to the bytes of a text, or to bytes that are
no text. -/
theorem variable_cases (bytes? : Option ByteArray) :
    bytes? = none ∨ (∃ text : String, bytes? = some text.toUTF8) ∨
      ∃ bytes, bytes? = some bytes ∧ ¬ bytes.IsValidUTF8 := by
  cases bytes? with
  | none => exact Or.inl rfl
  | some bytes =>
      cases read : String.fromUTF8? bytes with
      | some text =>
          exact Or.inr (Or.inl ⟨text, by rw [eq_toUTF8_of_fromUTF8? read]⟩)
      | none =>
          exact Or.inr (Or.inr ⟨bytes, rfl, fromUTF8?_eq_none_iff.mp read⟩)

/-! ## Settings -/

section Settings

variable {unset text : String} {bytes? : Option ByteArray} {bytes : ByteArray}
  {depth : UInt32}

/-- A variable that is a text is read, and so is the given text where it is not
set. -/
theorem readVariable_of_text (readable : VariableText unset bytes? text) :
    readVariable unset bytes? = .ok text := by
  cases readable with
  | unset => rfl
  | set => rw [readVariable, fromUTF8?_toUTF8]

theorem readVariable_of_not_valid (foreign : ¬ bytes.IsValidUTF8) :
    readVariable unset (some bytes) = .error (.variableNotUnicode bytes) := by
  rw [readVariable, fromUTF8?_eq_none_iff.mpr foreign]

/-- Of the depth, the text that was read is parsed, be it the given one or that of
the variable. -/
theorem readDepth_of_text (readable : VariableText unset bytes? text) :
    readDepth unset bytes? =
      (Text.readUInt32 text).mapError (.depthNotNumber text) := by
  rw [readDepth, readVariable_of_text readable]
  simp only [bind, Except.bind]
  cases Text.readUInt32 text with
  | ok depth => rfl
  | error fault => rfl

theorem readDepth_of_denotes (readable : VariableText unset bytes? text)
    (denotes : Text.Denotes text.toList depth.toNat) :
    readDepth unset bytes? = .ok depth := by
  rw [readDepth_of_text readable, Text.readUInt32_eq_ok_iff.mpr denotes]
  rfl

theorem readDepth_of_refused {fault : Text.NumberFault}
    (readable : VariableText unset bytes? text)
    (refused : Text.Refused text.toList fault) :
    readDepth unset bytes? = .error (.depthNotNumber text fault) := by
  rw [readDepth_of_text readable, Text.readUInt32_eq_error_iff.mpr refused]
  rfl

theorem readDepth_of_not_valid (foreign : ¬ bytes.IsValidUTF8) :
    readDepth unset (some bytes) = .error (.variableNotUnicode bytes) := by
  rw [readDepth, readVariable_of_not_valid foreign]
  rfl

/-- Where the given text denotes the default, the depth is the one that the variable
denotes or the default. -/
theorem readDepth_of_depth {default : UInt32}
    (written : Text.Denotes unset.toList default.toNat)
    (numbered : VariableDepth default bytes? depth) :
    readDepth unset bytes? = .ok depth := by
  cases numbered with
  | unset => exact readDepth_of_denotes .unset written
  | set denotes => exact readDepth_of_denotes (.set _) denotes

end Settings

/-! ## Defaults -/

/-- The text for a depth that is not set denotes thirty-two. -/
theorem denotes_unset_depth : Text.Denotes "32".toList (32 : UInt32).toNat :=
  Text.denotes_toString 32

/-- A prefix that is not set is read as the default settings have it. -/
theorem readVariable_unset :
    readVariable "c" none = .ok ({} : Config).aliasPrefix :=
  readVariable_of_text .unset

/-- A depth that is not set is read as the default settings have it. -/
theorem readDepth_unset :
    readDepth "32" none = .ok ({} : Config).maxLiftDepth :=
  readDepth_of_depth denotes_unset_depth .unset

/-- The default settings obey the rules. -/
theorem Config.default_valid : Config.Valid {} where
  aliasPrefix := (isIdentifier_iff "c").mp (by decide)
  atLeastOne := by decide
  atMostThousand := by decide

/-- With neither variable set, the default settings are loaded. -/
theorem ofEnvironment_unset : Config.ofEnvironment {} = .ok {} := by
  rw [Config.ofEnvironment, readVariable_unset, readDepth_unset]
  exact Config.validate_of_valid Config.default_valid

/-! ## Answers -/

/-- What loading settings from an environment answers.  The prefix is reported
before the depth, and faults of reading before broken rules. -/
inductive Environment.Answers (environment : Environment) :
    Except ConfigError Config → Prop where
  | aliasPrefixNotUnicode {bytes : ByteArray}
      (set : environment.aliasPrefix = some bytes)
      (foreign : ¬ bytes.IsValidUTF8) :
      Answers environment (.error (.variableNotUnicode bytes))
  | depthNotUnicode {stem : String} {bytes : ByteArray}
      (readable : VariableText "c" environment.aliasPrefix stem)
      (set : environment.maxLiftDepth = some bytes)
      (foreign : ¬ bytes.IsValidUTF8) :
      Answers environment (.error (.variableNotUnicode bytes))
  | depthNotNumber {stem text : String} {fault : Text.NumberFault}
      (readable : VariableText "c" environment.aliasPrefix stem)
      (set : environment.maxLiftDepth = some text.toUTF8)
      (unnumbered : ∀ value < UInt32.size, ¬ Text.Denotes text.toList value)
      (refused : Text.Refused text.toList fault) :
      Answers environment (.error (.depthNotNumber text fault))
  | loaded {stem : String} {depth : UInt32}
      (readable : VariableText "c" environment.aliasPrefix stem)
      (numbered : VariableDepth 32 environment.maxLiftDepth depth)
      (valid : (Config.mk stem depth).Valid) :
      Answers environment (.ok ⟨stem, depth⟩)
  | invalid {stem : String} {depth : UInt32}
      (readable : VariableText "c" environment.aliasPrefix stem)
      (numbered : VariableDepth 32 environment.maxLiftDepth depth)
      (broken : ¬ (Config.mk stem depth).Valid) :
      Answers environment
        (.error (.invalid (Config.mk stem depth).brokenRules))

/-- What the relation tells is what loading answers. -/
theorem Environment.Answers.ofEnvironment_eq {environment : Environment}
    {outcome : Except ConfigError Config}
    (answers : environment.Answers outcome) :
    Config.ofEnvironment environment = outcome := by
  cases answers with
  | aliasPrefixNotUnicode set foreign =>
      rw [Config.ofEnvironment, set, readVariable_of_not_valid foreign]
      rfl
  | depthNotUnicode readable set foreign =>
      rw [Config.ofEnvironment, readVariable_of_text readable, set,
        readDepth_of_not_valid foreign]
      rfl
  | @depthNotNumber _ text _ readable set _ refused =>
      rw [Config.ofEnvironment, readVariable_of_text readable, set,
        readDepth_of_refused (.set text) refused]
      rfl
  | loaded readable numbered valid =>
      rw [Config.ofEnvironment, readVariable_of_text readable,
        readDepth_of_depth denotes_unset_depth numbered]
      exact Config.validate_of_valid valid
  | invalid readable numbered broken =>
      rw [Config.ofEnvironment, readVariable_of_text readable,
        readDepth_of_depth denotes_unset_depth numbered]
      exact Config.validate_of_not_valid broken

/-- With a depth that can be read, the rules decide. -/
theorem Environment.exists_answer_of_depth {environment : Environment}
    {stem : String} {depth : UInt32}
    (readable : VariableText "c" environment.aliasPrefix stem)
    (numbered : VariableDepth 32 environment.maxLiftDepth depth) :
    ∃ outcome, environment.Answers outcome := by
  by_cases valid : (Config.mk stem depth).Valid
  · exact ⟨_, .loaded readable numbered valid⟩
  · exact ⟨_, .invalid readable numbered valid⟩

/-- With a prefix that can be read, the depth decides. -/
theorem Environment.exists_answer_of_text {environment : Environment}
    {stem : String}
    (readable : VariableText "c" environment.aliasPrefix stem) :
    ∃ outcome, environment.Answers outcome := by
  rcases variable_cases environment.maxLiftDepth with
    unset | ⟨text, set⟩ | ⟨bytes, set, foreign⟩
  · apply exists_answer_of_depth readable
    rw [unset]
    exact .unset
  · cases read : Text.readUInt32 text with
    | ok depth =>
        apply exists_answer_of_depth readable
        rw [set]
        exact .set (Text.readUInt32_eq_ok_iff.mp read)
    | error fault =>
        have refused := Text.readUInt32_eq_error_iff.mp read
        have unnumbered := Text.exists_refused_iff.mp ⟨fault, refused⟩
        exact ⟨_, .depthNotNumber readable set unnumbered refused⟩
  · exact ⟨_, .depthNotUnicode readable set foreign⟩

/-- Some rule always applies. -/
theorem Environment.exists_answer (environment : Environment) :
    ∃ outcome, environment.Answers outcome := by
  rcases variable_cases environment.aliasPrefix with
    unset | ⟨text, set⟩ | ⟨bytes, set, foreign⟩
  · have readable : VariableText "c" environment.aliasPrefix "c" := by
      rw [unset]
      exact .unset
    exact exists_answer_of_text readable
  · have readable : VariableText "c" environment.aliasPrefix text := by
      rw [set]
      exact .set text
    exact exists_answer_of_text readable
  · exact ⟨_, .aliasPrefixNotUnicode set foreign⟩

/-- Loading settings from the environment, for every state of the two variables.
A prefix that is no text is reported with its bytes, then a depth that is no text
with its own, then a depth that denotes no number below two to the thirty-second
with the variable and its text.  Otherwise the settings are loaded if they obey the
rules, and refused with all the rules that they break if not; an empty prefix breaks
two of them. -/
theorem ofEnvironment_answers (environment : Environment)
    (outcome : Except ConfigError Config) :
    (Config.ofEnvironment environment = outcome ↔
      environment.Answers outcome) ∧
    (∀ text fault, (ConfigError.depthNotNumber text fault).unread? =
      some ("RELEXPR_MAX_LIFT_DEPTH", text)) ∧
    (∀ config : Config, config.aliasPrefix = "" →
      .emptyAliasPrefix ∈ config.brokenRules ∧
        .aliasPrefixNotIdentifier ∈ config.brokenRules) := by
  refine ⟨?_, fun _ _ => rfl, fun _ => Config.broken_of_empty_aliasPrefix⟩
  constructor
  · intro loading
    rcases environment.exists_answer with ⟨answer, answers⟩
    rw [← loading, answers.ofEnvironment_eq]
    exact answers
  · exact Environment.Answers.ofEnvironment_eq

/-- An empty prefix is not a missing one, and a depth may have a sign and zeros
before it. -/
example :
    Config.ofEnvironment ⟨some "".toUTF8, some "+0000000000001001".toUTF8⟩ =
      .error (.invalid Violation.all) := by
  rfl

end ScopedQuery
