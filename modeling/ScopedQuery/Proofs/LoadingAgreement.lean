/-
Module: ScopedQuery.Proofs.LoadingAgreement
Purpose: Settings that are written as lines of a text, and settings that are given
  in the environment, load with the same outcome.
Trusted boundary: that of the YAML modules and of Config.Environment; the proofs
  add none
Main exports:
  Yaml.natural?_toString, settingLines, settingsText, settingsEnvironment,
  ofText_settingsText, ofEnvironment_settingsEnvironment,
  text_and_environment_agree
-/
import ScopedQuery.Proofs.EnvironmentAnswers
import ScopedQuery.Proofs.PlainMapping

namespace ScopedQuery

/-!
A text and the environment are read by separate readers, whose defaults are written
down separately and agree.  Where a prefix is an identifier and a depth is written
in decimal, both readers see the same settings: an identifier means nothing else in
YAML, whatever word it is, and a decimal number denotes the same depth to both.
Which of the settings are present, and which line comes first, makes no difference.
-/

/-! ## Words -/

/-- A character of an identifier means nothing by itself in YAML. -/
theorem inert_of_isIdentifierRest {char : Char}
    (belongs : Config.isIdentifierRest char = true) : Yaml.Inert char := by
  have table : ∀ code : Fin 128,
      Config.isIdentifierRest (Char.ofNat code) = true →
        Yaml.isAllowed (Char.ofNat code) = true ∧
          Yaml.isSpace (Char.ofNat code) = false ∧
          Yaml.isIndicator (Char.ofNat code) = false ∧
          Char.ofNat code ≠ '.' ∧ Char.ofNat code ≠ '\ufeff' := by
    decide
  have ascii : char.toNat < 128 := by
    simp only [Config.isIdentifierRest, Char.isAlphanum, Char.isAlpha,
      Char.isUpper, Char.isLower, Char.isDigit, UInt32.le_iff_toNat_le,
      Bool.or_eq_true, Bool.and_eq_true, decide_eq_true_eq, beq_iff_eq,
      ge_iff_le] at belongs
    rcases belongs with belongs | rfl
    · have code : char.toNat = char.val.toNat := rfl
      have least : ('z' : Char).val.toNat < 128 := by decide
      have upper : ('Z' : Char).val.toNat < 128 := by decide
      have digit : ('9' : Char).val.toNat < 128 := by decide
      omega
    · decide
  have row := table ⟨char.toNat, ascii⟩
  rw [Char.ofNat_toNat] at row
  rcases row belongs with
    ⟨allowed, unspaced, unmarked, noPoint, noOrderMark⟩
  exact ⟨allowed, unspaced, unmarked, noPoint, noOrderMark⟩

theorem isIdentifierRest_of_isIdentifierStart {char : Char}
    (start : Config.isIdentifierStart char = true) :
    Config.isIdentifierRest char = true := by
  rw [Config.isIdentifierStart, Bool.or_eq_true] at start
  rw [Config.isIdentifierRest, Char.isAlphanum, Bool.or_eq_true,
    Bool.or_eq_true]
  rcases start with letter | underscore
  · exact Or.inl (Or.inl letter)
  · exact Or.inr underscore

/-- An identifier is a word, be it `true`, `null` or any other. -/
theorem isWord_of_mem_words {stem : String}
    (identifier : stem.toList ∈ Identifier.words) :
    Yaml.IsWord stem.toList := by
  rw [← Config.isIdentifier_iff, Config.isIdentifier] at identifier
  split at identifier
  · cases identifier
  · next first others spelled =>
      rcases Bool.and_eq_true_iff.mp identifier with ⟨start, rest⟩
      rw [spelled]
      constructor
      · exact List.cons_ne_nil first others
      · intro char member
        apply inert_of_isIdentifierRest
        rcases List.mem_cons.mp member with rfl | later
        · exact isIdentifierRest_of_isIdentifierStart start
        · exact List.all_eq_true.mp rest char later

/-- A decimal number is a word. -/
theorem isWord_toString (number : Nat) :
    Yaml.IsWord (toString number).toList := by
  constructor
  · rw [Text.toList_toString]
    exact Nat.toDigits_ne_nil
  · intro char member
    have digit := Text.allDigits_toString number char member
    apply inert_of_isIdentifierRest
    rw [Config.isIdentifierRest, Char.isAlphanum, digit, Bool.or_true,
      Bool.true_or]

/-! ## Decimal numbers -/

namespace Yaml

/-- Decimal digits are read as the number that they denote. -/
theorem digitsValue?_of_allDigits {digits : List Char}
    (all : Text.AllDigits digits) (value : Nat) :
    digitsValue? 10 value digits =
      some (Nat.ofDigitChars 10 digits value) := by
  induction digits generalizing value with
  | nil => rfl
  | cons char digits inductionHypothesis =>
      rcases Text.allDigits_cons.mp all with ⟨digit, later⟩
      have bounds : '0' ≤ char ∧ char ≤ '9' := by
        simpa [Char.isDigit, Char.le_def] using digit
      have small : char.toNat - '0'.toNat < 10 := by
        have atMost : char.val.toNat ≤ 57 :=
          UInt32.le_iff_toNat_le.mp bounds.2
        have code : char.toNat = char.val.toNat := rfl
        have zero : '0'.toNat = 48 := rfl
        omega
      rw [digitsValue?, Text.hexDigit?, if_pos bounds, Nat.ofDigitChars_cons,
        Nat.mul_comm 10]
      simp only [bind, Option.bind, if_pos small]
      exact inductionHypothesis later _

theorem natural?_of_allDigits {digits : List Char}
    (all : Text.AllDigits digits) :
    natural? digits = unsignedValue? digits := by
  unfold natural?
  split
  · have sign : ('+' : Char).isDigit = true := all '+' List.mem_cons_self
    cases sign
  · rfl

/-- Without a zero in front, a number has no mark of its base. -/
theorem unsignedValue?_of_head_ne_zero {digits : List Char}
    (head : digits.head? ≠ some '0') :
    unsignedValue? digits = baseValue? 10 digits := by
  cases digits with
  | nil => rfl
  | cons first others =>
      have noZero : first ≠ '0' := by simpa using head
      simp [unsignedValue?, noZero]

/-- No number but zero is written with a zero in front: the first digit is that of
the tenth part, down to a single digit. -/
theorem head_toDigits_ne_zero {number : Nat} (positive : 0 < number) :
    (Nat.toDigits 10 number).head? ≠ some '0' := by
  induction number using Nat.strong_induction_on with
  | _ number inductionHypothesis =>
      by_cases single : number < 10
      · have table : ∀ digit : Fin 10, 0 < digit.val →
            Nat.digitChar digit.val ≠ '0' := by decide
        rw [Nat.toDigits_of_lt_base single, List.head?_cons, ne_eq,
          Option.some_inj]
        exact table ⟨number, single⟩ positive
      · rw [Nat.toDigits_of_base_le (by decide) (Nat.le_of_not_lt single),
          List.head?_append_of_ne_nil _ Nat.toDigits_ne_nil]
        exact inductionHypothesis (number / 10) (by omega) (by omega)

/-- A number that is written in decimal is read back. -/
theorem natural?_toString (number : Nat) :
    natural? (toString number).toList = some number := by
  have digits := Text.allDigits_toString number
  rcases Nat.eq_zero_or_pos number with rfl | positive
  · rfl
  · have nonempty : ¬ (Nat.toDigits 10 number).isEmpty = true := by
      simp [Nat.toDigits_ne_nil]
    rw [natural?_of_allDigits digits]
    rw [Text.toList_toString] at digits ⊢
    rw [unsignedValue?_of_head_ne_zero (head_toDigits_ne_zero positive),
      baseValue?, if_neg nonempty, digitsValue?_of_allDigits digits,
      Nat.ofDigitChars_toDigits (by decide) (by decide)]

end Yaml

/-! ## Texts -/

/-- The line that sets the prefix. -/
def aliasPrefixLine (stem : String) : String :=
  "alias_prefix: " ++ stem

/-- The line that sets the depth, which is written in decimal. -/
def maxLiftDepthLine (depth : UInt32) : String :=
  "max_lift_depth: " ++ toString depth.toNat

/-- The lines of the settings that are present. -/
def settingLines (stem? : Option String) (depth? : Option UInt32) :
    List String :=
  (stem?.map aliasPrefixLine).toList ++ (depth?.map maxLiftDepthLine).toList

/-- Lines as a text.  What ends the last of them may be missing. -/
def settingsText (lines : List String) (ending : String) : String :=
  "\n".intercalate lines ++ ending

/-- The same settings as variables. -/
def settingsEnvironment (stem? : Option String) (depth? : Option UInt32) :
    Environment where
  aliasPrefix := stem?.map String.toUTF8
  maxLiftDepth := depth?.map fun depth => (toString depth.toNat).toUTF8

/-- The line of a prefix as an entry. -/
def aliasPrefixEntry {stem : String}
    (identifier : stem.toList ∈ Identifier.words) : Yaml.PlainEntry where
  key := "alias_prefix".toList
  value := stem.toList
  keyIsWord :=
    isWord_of_mem_words ((Config.isIdentifier_iff _).mp (by decide))
  valueIsWord := isWord_of_mem_words identifier
  keyFits := by decide

/-- The line of a depth as an entry. -/
def maxLiftDepthEntry (depth : UInt32) : Yaml.PlainEntry where
  key := "max_lift_depth".toList
  value := (toString depth.toNat).toList
  keyIsWord :=
    isWord_of_mem_words ((Config.isIdentifier_iff _).mp (by decide))
  valueIsWord := isWord_toString depth.toNat
  keyFits := by decide

section Texts

variable {stem : String} {depth : UInt32} {ending : String}
  {document : Yaml.Document} {settings : Settings}

theorem text_aliasPrefixEntry (identifier : stem.toList ∈ Identifier.words) :
    (aliasPrefixLine stem).toList = (aliasPrefixEntry identifier).text := by
  have parts : (aliasPrefixLine stem).toList =
      "alias_prefix: ".toList ++ stem.toList := String.toList_append
  rw [parts]
  rfl

theorem text_maxLiftDepthEntry (depth : UInt32) :
    (maxLiftDepthLine depth).toList = (maxLiftDepthEntry depth).text := by
  have parts : (maxLiftDepthLine depth).toList =
      "max_lift_depth: ".toList ++ (toString depth.toNat).toList :=
    String.toList_append
  rw [parts]
  rfl

theorem scalar?_nodes_fst (entry : Yaml.PlainEntry) :
    document.scalar? entry.nodes.1 = some ⟨none, ⟨.plain, entry.key⟩⟩ := rfl

theorem scalar?_nodes_snd (entry : Yaml.PlainEntry) :
    document.scalar? entry.nodes.2 = some ⟨none, ⟨.plain, entry.value⟩⟩ := rfl

/-- The text of a prefix is taken as it stands. -/
theorem take_aliasPrefixEntry (identifier : stem.toList ∈ Identifier.words)
    (missing : settings.aliasPrefix = none) :
    settings.take document (aliasPrefixEntry identifier).nodes =
      some { settings with aliasPrefix := some stem } := by
  have named :
      String.ofList (aliasPrefixEntry identifier).key = "alias_prefix" :=
    String.ofList_toList
  have text : String.ofList (aliasPrefixEntry identifier).value = stem :=
    String.ofList_toList
  simp only [Settings.take, scalar?_nodes_fst, scalar?_nodes_snd, bind,
    Option.bind, named, text, missing, Option.isSome_none, if_true,
    Bool.false_eq_true, if_false]

theorem depth?_toString (depth : UInt32) :
    Settings.depth? ⟨none, ⟨.plain, (toString depth.toNat).toList⟩⟩ =
      some depth := by
  have read :
      Yaml.TaggedScalar.natural?
          ⟨none, ⟨.plain, (toString depth.toNat).toList⟩⟩ =
        some depth.toNat :=
    Yaml.natural?_toString depth.toNat
  simp only [Settings.depth?, read, bind, Option.bind,
    if_pos depth.toNat_lt_size, UInt32.ofNat_toNat]

/-- The number of a depth is taken. -/
theorem take_maxLiftDepthEntry (missing : settings.maxLiftDepth = none) :
    settings.take document (maxLiftDepthEntry depth).nodes =
      some { settings with maxLiftDepth := some depth } := by
  have named :
      String.ofList (maxLiftDepthEntry depth).key = "max_lift_depth" :=
    String.ofList_toList
  have other : "max_lift_depth" ≠ "alias_prefix" := by decide
  have read :
      Settings.depth? ⟨none, ⟨.plain, (maxLiftDepthEntry depth).value⟩⟩ =
        some depth :=
    depth?_toString depth
  simp only [Settings.take, scalar?_nodes_fst, scalar?_nodes_snd, bind,
    Option.bind, named, if_neg other, read, missing, Option.isSome_none,
    if_true, Bool.false_eq_true, if_false]

/-- The entries of a mapping are taken one after the other, and what is missing has
its default. -/
theorem ofDocument?_mappingRoot (entries : List Yaml.PlainEntry) :
    Config.ofDocument? ⟨Yaml.mappingRoot entries, {}⟩ =
      ((entries.map Yaml.PlainEntry.nodes).foldlM
        (Settings.take ⟨Yaml.mappingRoot entries, {}⟩) {}).map
          Settings.complete := by
  cases entries with
  | nil => rfl
  | cons entry entries => rfl

/-- A text of entries loads the settings that they are taken for. -/
theorem ofText_of_entries (entries : List Yaml.PlainEntry)
    {lines : List String} {stem? : Option String} {depth? : Option UInt32}
    (ends : ending = "" ∨ ending = "\n")
    (written : lines.map String.toList = entries.map Yaml.PlainEntry.text)
    (taken : ∀ document, (entries.map Yaml.PlainEntry.nodes).foldlM
      (Settings.take document) {} = some ⟨stem?, depth?⟩) :
    Config.ofText (settingsText lines ending) =
      (Settings.complete ⟨stem?, depth?⟩).validate := by
  have closing : ending.toList = [] ∨ ending.toList = ['\n'] := by
    rcases ends with rfl | rfl
    · exact Or.inl rfl
    · exact Or.inr rfl
  have spelled :
      (settingsText lines ending).toList =
        Yaml.mappingText entries ++ ending.toList := by
    rw [settingsText, String.toList_append, String.toList_intercalate, written]
    rfl
  rw [Config.ofText, Yaml.parse?_mappingText closing spelled,
    Option.bind_some, ofDocument?_mappingRoot, taken]
  rfl

end Texts

/-- A text with the lines of settings loads them, with defaults for the others.
There are five texts: of no line, of one of the two, and of both in either order. -/
theorem ofText_settingsText {stem? : Option String} {depth? : Option UInt32}
    (identifier : ∀ stem ∈ stem?, stem.toList ∈ Identifier.words)
    {lines : List String} (present : lines.Perm (settingLines stem? depth?))
    {ending : String} (ends : ending = "" ∨ ending = "\n") :
    Config.ofText (settingsText lines ending) =
      (Settings.complete ⟨stem?, depth?⟩).validate := by
  cases stem? with
  | none =>
      cases depth? with
      | none =>
          rw [List.perm_nil.mp present]
          exact ofText_of_entries [] ends rfl fun _ => rfl
      | some depth =>
          rw [List.perm_singleton.mp present]
          apply ofText_of_entries [maxLiftDepthEntry depth] ends
          · simp [text_maxLiftDepthEntry]
          · simp [take_maxLiftDepthEntry]
  | some stem =>
      have isIdentifier := identifier stem rfl
      cases depth? with
      | none =>
          rw [List.perm_singleton.mp present]
          apply ofText_of_entries [aliasPrefixEntry isIdentifier] ends
          · simp [text_aliasPrefixEntry isIdentifier]
          · simp [take_aliasPrefixEntry]
      | some depth =>
          rcases List.perm_pair.mp present with rfl | rfl
          · apply ofText_of_entries
              [aliasPrefixEntry isIdentifier, maxLiftDepthEntry depth] ends
            · simp [text_aliasPrefixEntry isIdentifier, text_maxLiftDepthEntry]
            · simp [take_aliasPrefixEntry, take_maxLiftDepthEntry]
          · apply ofText_of_entries
              [maxLiftDepthEntry depth, aliasPrefixEntry isIdentifier] ends
            · simp [text_aliasPrefixEntry isIdentifier, text_maxLiftDepthEntry]
            · simp [take_aliasPrefixEntry, take_maxLiftDepthEntry]

/-! ## Agreement -/

/-- A prefix is read from its variable, and where that is not set it is the default
that settings without a prefix have. -/
theorem readVariable_stem (stem? : Option String) :
    readVariable "c" (stem?.map String.toUTF8) =
      .ok (stem?.getD ({} : Config).aliasPrefix) := by
  cases stem? with
  | none => exact readVariable_unset
  | some stem => exact readVariable_of_text (.set stem)

/-- A depth that is written in decimal is read from its variable, likewise. -/
theorem readDepth_toString (depth? : Option UInt32) :
    readDepth "32" (depth?.map fun depth => (toString depth.toNat).toUTF8) =
      .ok (depth?.getD ({} : Config).maxLiftDepth) := by
  cases depth? with
  | none => exact readDepth_unset
  | some depth =>
      exact readDepth_of_denotes (.set _) (Text.denotes_toString depth.toNat)

/-- The environment with the same settings loads them, with the same defaults. -/
theorem ofEnvironment_settingsEnvironment (stem? : Option String)
    (depth? : Option UInt32) :
    Config.ofEnvironment (settingsEnvironment stem? depth?) =
      (Settings.complete ⟨stem?, depth?⟩).validate := by
  rw [Config.ofEnvironment, settingsEnvironment, readVariable_stem,
    readDepth_toString]
  rfl

/-- A file has the settings of its text. -/
theorem ofFile_toUTF8 (content : String) :
    Config.ofFile (some content.toUTF8) = Config.ofText content := by
  rw [Config.ofFile, fromUTF8?_toUTF8]

/-- With an identifier as the prefix, only the depth can break a rule. -/
theorem validate_of_identifier {stem : String}
    (identifier : stem.toList ∈ Identifier.words) (depth : UInt32) :
    (Config.mk stem depth).validate =
      if 1 ≤ depth.toNat ∧ depth.toNat ≤ 1000 then .ok ⟨stem, depth⟩
      else .error (.invalid [.maxLiftDepthOutOfRange]) := by
  by_cases inRange : 1 ≤ depth.toNat ∧ depth.toNat ≤ 1000
  · rw [if_pos inRange]
    exact Config.validate_of_valid ⟨identifier, inRange.1, inRange.2⟩
  · have invalid : ¬ (Config.mk stem depth).Valid := by
      intro valid
      exact inRange ⟨valid.atLeastOne, valid.atMostThousand⟩
    have nonempty :
        ¬ Violation.emptyAliasPrefix.BrokenBy (Config.mk stem depth) := by
      intro empty
      have missing : stem = "" := empty
      rw [missing, ← Config.isIdentifier_iff] at identifier
      cases identifier
    have spelled :
        ¬ Violation.aliasPrefixNotIdentifier.BrokenBy (Config.mk stem depth) :=
      not_not_intro identifier
    have outOfRange :
        Violation.maxLiftDepthOutOfRange.BrokenBy (Config.mk stem depth) :=
      inRange
    rw [if_neg inRange, Config.validate_of_not_valid invalid,
      Config.brokenRules, Violation.all, Config.filter_brokenBy_cons,
      Config.filter_brokenBy_cons, Config.filter_brokenBy_cons,
      if_neg nonempty, if_neg spelled, if_pos outOfRange]
    rfl

/-- A text, a file and the environment agree on settings.  For any prefix that is an
identifier and any depth, each of them present or not, and the lines of those that
are present in either order, the text and a file with it load what the environment
loads: the settings with defaults for the missing ones, or the rule that the depth
breaks. -/
theorem text_and_environment_agree {stem? : Option String}
    {depth? : Option UInt32}
    (identifier : ∀ stem ∈ stem?, stem.toList ∈ Identifier.words)
    {lines : List String} (present : lines.Perm (settingLines stem? depth?))
    {ending : String} (ends : ending = "" ∨ ending = "\n") :
    Config.ofText (settingsText lines ending) =
        Config.ofEnvironment (settingsEnvironment stem? depth?) ∧
      Config.ofFile (some (settingsText lines ending).toUTF8) =
        Config.ofEnvironment (settingsEnvironment stem? depth?) ∧
      Config.ofEnvironment (settingsEnvironment stem? depth?) =
        if 1 ≤ (depth?.getD 32).toNat ∧ (depth?.getD 32).toNat ≤ 1000 then
          .ok ⟨stem?.getD "c", depth?.getD 32⟩
        else .error (.invalid [.maxLiftDepthOutOfRange]) := by
  have given : (stem?.getD "c").toList ∈ Identifier.words := by
    cases stem? with
    | none => exact Config.default_valid.aliasPrefix
    | some stem => exact identifier stem rfl
  have completed : Settings.complete ⟨stem?, depth?⟩ =
      ⟨stem?.getD "c", depth?.getD 32⟩ := rfl
  have loaded := ofText_settingsText identifier present ends
  refine ⟨?_, ?_, ?_⟩
  · rw [loaded, ofEnvironment_settingsEnvironment]
  · rw [ofFile_toUTF8, loaded, ofEnvironment_settingsEnvironment]
  · rw [ofEnvironment_settingsEnvironment, completed,
      validate_of_identifier given]

/-- A prefix that is a word of its own in YAML, behind a depth that is too large and
without a break at the end: both ways refuse the depth and nothing else. -/
theorem nullPrefix_agrees :
    "null".toList ∈ Identifier.words ∧
      settingsText ["max_lift_depth: 1001", "alias_prefix: null"] "" =
        "max_lift_depth: 1001\nalias_prefix: null" ∧
      Config.ofText "max_lift_depth: 1001\nalias_prefix: null" =
        .error (.invalid [.maxLiftDepthOutOfRange]) ∧
      Config.ofEnvironment ⟨some "null".toUTF8, some "1001".toUTF8⟩ =
        .error (.invalid [.maxLiftDepthOutOfRange]) := by
  have identifier : "null".toList ∈ Identifier.words :=
    (Config.isIdentifier_iff "null").mp (by decide)
  have text :
      settingsText ["max_lift_depth: 1001", "alias_prefix: null"] "" =
        "max_lift_depth: 1001\nalias_prefix: null" := by decide
  have identifiers : ∀ stem ∈ some "null", stem.toList ∈ Identifier.words := by
    intro stem given
    cases given
    exact identifier
  have present :
      ["max_lift_depth: 1001", "alias_prefix: null"].Perm
        (settingLines (some "null") (some 1001)) :=
    .swap _ _ []
  rcases text_and_environment_agree identifiers present (Or.inl rfl) with
    ⟨ofText, -, ofEnvironment⟩
  rw [text, ofEnvironment] at ofText
  exact ⟨identifier, text, ofText, ofEnvironment⟩

end ScopedQuery
