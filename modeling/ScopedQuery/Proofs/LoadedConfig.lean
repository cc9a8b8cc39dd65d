/-
Module: ScopedQuery.Proofs.LoadedConfig
Purpose: Settings that have been loaded obey the rules, and with such settings
  flattening makes no alias that is no identifier and fails only on an empty
  projection or on a reference that is already too deep.
Trusted boundary: none
Main exports:
  Config.Valid, Config.Loaded, Config.Loaded.valid,
  Expr.limit_lt_outerDepth_iff, loaded_config_flattens_safely
-/
import ScopedQuery.Config.Document
import ScopedQuery.Config.Environment
import ScopedQuery.Proofs.Flattening
import ScopedQuery.Proofs.Identifier
import ScopedQuery.Proofs.Parts
import ScopedQuery.Proofs.Reading

namespace ScopedQuery

/-!
Settings come from the environment, from a text or from a file, and all three
ways end with the rules.  The rules are what flattening needs: an alias is the
prefix with a number, and a limit of at least one leaves room for the one
reference that a column, an alias or a generated alias gets.  Flattening itself
takes any settings.
-/

/-! ## Loading -/

namespace Config

/-- Settings that obey the rules. -/
structure Valid (config : Config) : Prop where
  aliasPrefix : config.aliasPrefix.toList ∈ Identifier.words
  atLeastOne : 1 ≤ config.maxLiftDepth.toNat
  atMostThousand : config.maxLiftDepth.toNat ≤ 1000

/-- Settings that some way of loading them gives. -/
inductive Loaded (config : Config) : Prop where
  | environment (environment : Environment)
      (loaded : ofEnvironment environment = .ok config)
  | text (content : String) (loaded : ofText content = .ok config)
  | file (bytes : Option ByteArray) (loaded : ofFile bytes = .ok config)

theorem not_isEmpty_of_isIdentifier {text : String}
    (identifier : isIdentifier text = true) : text.isEmpty = false := by
  rw [String.isEmpty_eq_false_iff]
  rintro rfl
  cases identifier

/-- The rule for the depth is about the number that it is. -/
theorem depth_inRange_iff (depth : UInt32) :
    (1 ≤ depth ∧ depth ≤ greatestLiftDepth) ↔
      1 ≤ depth.toNat ∧ depth.toNat ≤ 1000 := by
  rw [UInt32.le_iff_toNat_le, UInt32.le_iff_toNat_le]
  rfl

/-- Settings break none of the rules exactly when they are valid. -/
theorem violations_eq_nil_iff (config : Config) :
    config.violations = [] ↔ config.Valid := by
  simp only [violations, depth_inRange_iff, List.append_eq_nil_iff,
    ite_eq_left_iff, ite_eq_right_iff, List.cons_ne_nil, imp_false, not_not,
    isIdentifier_iff]
  constructor
  · rintro ⟨⟨-, identifier⟩, atLeast, atMost⟩
    exact ⟨identifier, atLeast, atMost⟩
  · rintro ⟨identifier, atLeast, atMost⟩
    refine ⟨⟨?_, identifier⟩, atLeast, atMost⟩
    simp [not_isEmpty_of_isIdentifier ((isIdentifier_iff _).mpr identifier)]

/-- Settings that pass the rules are valid. -/
theorem validate_gives (config : Config) : Gives config.validate Valid := by
  unfold validate
  split
  · next unbroken => exact .ok ((violations_eq_nil_iff config).mp unbroken)
  · exact .error

theorem ofEnvironment_gives (environment : Environment) :
    Gives (ofEnvironment environment) Valid := by
  apply Gives.bind .any
  intro aliasPrefix _
  apply Gives.bind .any
  intro maxLiftDepth _
  exact validate_gives _

theorem ofText_gives (content : String) : Gives (ofText content) Valid := by
  unfold ofText
  split
  · next config _ => exact validate_gives config
  · exact .error

theorem ofFile_gives (bytes : Option ByteArray) :
    Gives (ofFile bytes) Valid := by
  cases bytes with
  | none => exact .error
  | some bytes =>
      rw [ofFile]
      split
      · next content _ => exact ofText_gives content
      · exact .error

/-- However settings were loaded, they obey the rules. -/
theorem Loaded.valid {config : Config} (loaded : config.Loaded) :
    config.Valid := by
  cases loaded with
  | environment environment loaded =>
      exact (ofEnvironment_gives environment).holds config loaded
  | text content loaded => exact (ofText_gives content).holds config loaded
  | file bytes loaded => exact (ofFile_gives bytes).holds config loaded

end Config

/-! ## Failures -/

namespace Expr

/-- An entry that is no reference gets one reference at most. -/
theorem outerDepth_le_one {entry : Expr} (plain : ¬ entry.IsReference) :
    entry.outerDepth ≤ 1 := by
  have flat : entry.referenceDepth = 0 := by
    cases entry with
    | reference inner scope => exact absurd ⟨inner, scope, rfl⟩ plain
    | _ => rfl
  rw [outerDepth, flat]
  split
  · exact Nat.le_refl 1
  · split
    · exact Nat.zero_le 1
    · exact Nat.le_refl 1

/-- Where one reference is allowed, an entry can only exceed the limit by the
references that it has already. -/
theorem limit_lt_outerDepth_iff {limit : Nat} {entry : Expr}
    (atLeastOne : 1 ≤ limit) :
    limit < entry.outerDepth ↔
      entry.IsReference ∧ limit ≤ entry.referenceDepth := by
  by_cases isReference : entry.IsReference
  · obtain ⟨inner, scope, rfl⟩ := isReference
    simp only [outerDepth, isReferenceable_reference, if_true, Nat.lt_succ_iff]
    exact (and_iff_right ⟨inner, scope, rfl⟩).symm
  · have shallow := outerDepth_le_one isReference
    simp only [isReference, false_and, iff_false]
    omega

end Expr

variable {config : Config} {select : Select}

/-- Flattening with valid settings fails exactly on an empty projection, and at
the first entry that is a reference as deep as the limit. -/
theorem Config.Valid.flatten_eq_error_iff (valid : config.Valid)
    {fault : FlattenError} :
    select.flatten config = .error fault ↔
      (select.projection = [] ∧
        fault = .emptyProjection select.scope.aliasName) ∨
      ∃ before inner seen after,
        select.projection = before ++ .reference inner seen :: after ∧
        config.maxLiftDepth.toNat ≤
          (Expr.reference inner seen).referenceDepth ∧
        (∀ earlier ∈ before, earlier.IsReference →
          earlier.referenceDepth < config.maxLiftDepth.toNat) ∧
        fault = .liftDepthExceeded select.scope.aliasName
          ((Expr.reference inner seen).referenceDepth + 1)
          config.maxLiftDepth := by
  have exceeds := fun entry : Expr =>
    entry.limit_lt_outerDepth_iff valid.atLeastOne
  have within : ∀ entry : Expr,
      entry.outerDepth ≤ config.maxLiftDepth.toNat ↔
        (entry.IsReference →
          entry.referenceDepth < config.maxLiftDepth.toNat) := by
    intro entry
    rw [← Nat.not_lt, exceeds, not_and, Nat.not_le]
  rw [Select.flatten_eq_error_iff]
  simp only [exceeds, within]
  refine or_congr_right ?_
  constructor
  · rintro ⟨before, entry, after, split, ⟨⟨inner, seen, rfl⟩, deep⟩, earlier,
      rfl⟩
    exact ⟨before, inner, seen, after, split, deep, earlier, rfl⟩
  · rintro ⟨before, inner, seen, after, split, deep, earlier, rfl⟩
    exact ⟨before, _, after, split, ⟨⟨inner, seen, rfl⟩, deep⟩, earlier, rfl⟩

/-! ## Aliases -/

/-- The aliases that are generated with valid settings are identifiers. -/
theorem Config.Valid.alias_mem_words (valid : config.Valid)
    {decision : Decision} {aliasName : String}
    (member : decision ∈ select.decisions config.aliasPrefix)
    (generated : decision.aliasName? = some aliasName) :
    aliasName.toList ∈ Identifier.words := by
  obtain ⟨number, rfl⟩ := decideEntries_alias_numbered member generated
  exact AliasName.numbered_mem_words valid.aliasPrefix number

/-- An alias around an entry of the input is one that was generated. -/
theorem Select.generated_of_aliased {position : Nat} {entry : Expr}
    {aliasName : String} {result : Flattened}
    (flattened : select.flatten config = .ok result)
    (before : select.projection[position]? = some entry)
    (after : result.subquery.projection[position]? =
      some (.aliased entry aliasName)) :
    ∃ decision ∈ select.decisions config.aliasPrefix,
      decision.aliasName? = some aliasName := by
  obtain ⟨decision, decided, -, rfl⟩ := decision_at config.aliasPrefix before
  refine ⟨decision, List.mem_of_getElem? decided, ?_⟩
  rw [eq_carryOut_of_flatten flattened] at after
  simp only [carryOut, List.getElem?_map, decided, Option.map_some,
    Option.some.injEq] at after
  cases decision with
  | name entry generated =>
      cases after
      rfl
  | lift entry | inline entry =>
      -- An entry is smaller than an alias of it.
      have larger := congrArg sizeOf after
      simp only [Decision.inner, Decision.entry, Expr.aliased.sizeOf_spec]
        at larger
      omega

/-- The attempt to lift an entry tells of no alias. -/
theorem Expr.aliasing_ne_liftRecord (expr entry : Expr) (scope : Table)
    (aliasName scopeAlias : String) :
    .aliasing entry aliasName scopeAlias ≠ expr.liftRecord scope := by
  unfold liftRecord
  split
  · exact LogRecord.noConfusion
  · exact LogRecord.noConfusion

/-- Among the records of a decision, only that of a generated alias tells of
one. -/
theorem Decision.aliasName?_of_record {decision : Decision} {entry : Expr}
    {scope : Table} {aliasName scopeAlias : String}
    (recorded : .aliasing entry aliasName scopeAlias ∈
      decision.records scope) :
    decision.aliasName? = some aliasName := by
  have notLift := fun expr : Expr =>
    expr.aliasing_ne_liftRecord entry scope aliasName scopeAlias
  cases decision with
  | lift _ | inline _ => simp [records, notLift] at recorded
  | name _ generated =>
      simp only [records, List.mem_cons, notLift, false_or,
        LogRecord.aliasing.injEq, List.not_mem_nil, or_false] at recorded
      rw [recorded.2.1]
      rfl

/-- An alias that a record tells of is one that was generated. -/
theorem Select.generated_of_record {entry : Expr}
    {aliasName scopeAlias : String}
    (recorded : .aliasing entry aliasName scopeAlias ∈
      select.flattenRecords config) :
    ∃ decision ∈ select.decisions config.aliasPrefix,
      decision.aliasName? = some aliasName := by
  obtain ⟨decision, carried, here⟩ := List.mem_flatMap.mp recorded
  exact ⟨decision, mem_of_mem_upToFirstFailing carried,
    decision.aliasName?_of_record here⟩

/-- However settings were loaded, flattening with them is safe.  The alias prefix
is an identifier and the limit lies between one and a thousand.  Every alias that
is generated, in a run that succeeds or in one that fails, is an identifier.  And
flattening fails exactly on an empty projection, and at the first entry that is a
reference as deep as the limit: no column, alias or generated alias makes it
fail. -/
theorem loaded_config_flattens_safely {config : Config}
    (loaded : config.Loaded) :
    config.aliasPrefix.toList ∈ Identifier.words ∧
    1 ≤ config.maxLiftDepth.toNat ∧ config.maxLiftDepth.toNat ≤ 1000 ∧
    ∀ select : Select,
      (∀ (result : Flattened) (position : Nat) (entry : Expr)
          (aliasName : String),
        select.flatten config = .ok result →
        select.projection[position]? = some entry →
        result.subquery.projection[position]? =
          some (.aliased entry aliasName) →
        aliasName.toList ∈ Identifier.words) ∧
      (∀ (entry : Expr) (aliasName scopeAlias : String),
        .aliasing entry aliasName scopeAlias ∈ select.flattenRecords config →
        aliasName.toList ∈ Identifier.words) ∧
      ∀ fault : FlattenError,
        select.flatten config = .error fault ↔
          (select.projection = [] ∧
            fault = .emptyProjection select.scope.aliasName) ∨
          ∃ before inner seen after,
            select.projection = before ++ .reference inner seen :: after ∧
            config.maxLiftDepth.toNat ≤
              (Expr.reference inner seen).referenceDepth ∧
            (∀ earlier ∈ before, earlier.IsReference →
              earlier.referenceDepth < config.maxLiftDepth.toNat) ∧
            fault = .liftDepthExceeded select.scope.aliasName
              ((Expr.reference inner seen).referenceDepth + 1)
              config.maxLiftDepth := by
  have valid := loaded.valid
  refine ⟨valid.aliasPrefix, valid.atLeastOne, valid.atMostThousand, ?_⟩
  intro select
  refine ⟨?_, ?_, fun fault => valid.flatten_eq_error_iff⟩
  · intro result position entry aliasName flattened before after
    obtain ⟨decision, member, generated⟩ :=
      Select.generated_of_aliased flattened before after
    exact valid.alias_mem_words member generated
  · intro entry aliasName scopeAlias recorded
    obtain ⟨decision, member, generated⟩ :=
      Select.generated_of_record recorded
    exact valid.alias_mem_words member generated

/-- A nested query that projects a compound expression and then a reference into
a further one. -/
def referenceInside : Select :=
  .under "t1" ⟨3⟩
    [.other "a + b",
      .reference (.column ⟨⟨"Id", "id"⟩, .physical "Customers" "c" ⟨1⟩⟩)
        (.subquery "t0" ⟨2⟩)]

/-- With a limit of one, the compound expression gets an alias that is an
identifier, and the reference makes flattening fail. -/
theorem referenceInside_flattens_safely :
    Config.ofText "alias_prefix: sub_1\nmax_lift_depth: 1\n" =
        .ok ⟨"sub_1", 1⟩ ∧
      .aliasing (.other "a + b") "sub_10" "t1" ∈
        referenceInside.flattenRecords ⟨"sub_1", 1⟩ ∧
      "sub_10".toList ∈ Identifier.words ∧
      referenceInside.flatten ⟨"sub_1", 1⟩ =
        .error (.liftDepthExceeded "t1" 2 1) := by
  have loaded : Config.ofText "alias_prefix: sub_1\nmax_lift_depth: 1\n" =
      .ok ⟨"sub_1", 1⟩ := by cbv
  have recorded : .aliasing (.other "a + b") "sub_10" "t1" ∈
      referenceInside.flattenRecords ⟨"sub_1", 1⟩ :=
    List.mem_of_getElem? (i := 1) rfl
  obtain ⟨-, -, -, safe⟩ := loaded_config_flattens_safely (.text _ loaded)
  obtain ⟨-, identifiers, failures⟩ := safe referenceInside
  refine ⟨loaded, recorded, identifiers _ _ _ recorded, ?_⟩
  apply (failures _).mpr
  refine Or.inr ⟨[.other "a + b"], _, _, [], rfl, Nat.le_refl 1, ?_, rfl⟩
  intro earlier member isReference
  obtain ⟨inner, seen, same⟩ := isReference
  rw [List.mem_singleton.mp member] at same
  cases same

end ScopedQuery
