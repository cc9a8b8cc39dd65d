/-
Module: ScopedQuery.Proofs.RecordReading
Purpose: Reading the entries of a record in the order in which they were written
  finds what looking for each field finds.
Trusted boundary: that of the JSON forms; the proofs add none
Main exports:
  DistinctNames, DistinctNames.lookup_perm, Record.field?,
  Record.foldlM_readEntry, Record.readPair_toOption, Record.readSingle_toOption
-/
import Mathlib.Data.List.Nodup
import Mathlib.Data.Option.Basic
import ScopedQuery.Expr.Decode

namespace ScopedQuery

/-!
A reader of a record goes through the entries and stops at the first fault, so
which fault it reports depends on the order of the entries.  Whether it succeeds,
and with what, does not: as long as no name occurs twice, each field is read as
if it had been looked for on its own.
-/

/-! ## Looking up distinct names -/

/-- No name occurs twice. -/
def DistinctNames (fields : List (String × Json)) : Prop :=
  (fields.map Prod.fst).Nodup

instance (fields : List (String × Json)) : Decidable (DistinctNames fields) :=
  inferInstanceAs (Decidable (fields.map Prod.fst).Nodup)

/-- A name that is not the first is looked up among the others. -/
theorem lookup_cons_of_ne {fields : List (String × Json)}
    {name sought : String} {value : Json} (different : sought ≠ name) :
    List.lookup sought ((name, value) :: fields) = fields.lookup sought := by
  rw [List.lookup_cons, beq_eq_false_iff_ne.mpr different]

/-- The other names stand for the values that they stood for. -/
theorem lookup_replace {before after : List (String × Json)}
    {name sought : String} {value other : Json} (different : sought ≠ name) :
    (before ++ (name, value) :: after).lookup sought =
      (before ++ (name, other) :: after).lookup sought := by
  simp only [List.lookup_append, lookup_cons_of_ne different]

namespace DistinctNames

variable {fields others before after : List (String × Json)}
  {name : String} {value other : Json}

/-- A name stands for a value if the two stand together. -/
theorem lookup_eq_some_iff (distinct : DistinctNames fields) :
    fields.lookup name = some value ↔ (name, value) ∈ fields := by
  induction fields with
  | nil => simp
  | cons entry fields inductionHypothesis =>
      obtain ⟨head, headValue⟩ := entry
      obtain ⟨apart, rest⟩ := List.nodup_cons.mp distinct
      by_cases same : name = head
      · subst same
        have absent : (name, value) ∉ fields := fun member =>
          apart (List.mem_map.mpr ⟨(name, value), member, rfl⟩)
        simp [absent, eq_comm]
      · rw [lookup_cons_of_ne same, inductionHypothesis rest]
        simp [same]

/-- The order of the fields is of no account. -/
theorem lookup_perm (distinct : DistinctNames fields)
    (permuted : fields.Perm others) (name : String) :
    fields.lookup name = others.lookup name := by
  have distinctOthers : DistinctNames others :=
    (permuted.map Prod.fst).nodup_iff.mp distinct
  ext value
  rw [distinct.lookup_eq_some_iff, distinctOthers.lookup_eq_some_iff,
    permuted.mem_iff]

/-- The first of distinct names is not found behind itself. -/
theorem lookup_tail (distinct : DistinctNames ((name, value) :: fields)) :
    fields.lookup name = none := by
  rw [List.lookup_eq_none_iff]
  intro entry member
  have apart : name ∉ fields.map Prod.fst := (List.nodup_cons.mp distinct).1
  exact bne_iff_ne.mpr fun same =>
    apart (List.mem_map.mpr ⟨entry, member, same.symm⟩)

/-- Without the first of them, names are still distinct. -/
theorem tail (distinct : DistinctNames ((name, value) :: fields)) :
    DistinctNames fields :=
  (List.nodup_cons.mp distinct).2

/-- A name amid others stands for the value beside it. -/
theorem lookup_amid
    (distinct : DistinctNames (before ++ (name, value) :: after)) :
    (before ++ (name, value) :: after).lookup name = some value :=
  distinct.lookup_eq_some_iff.mpr (by simp)

/-- Distinct names stay distinct if one of them stands for another value. -/
theorem replace (distinct : DistinctNames (before ++ (name, value) :: after)) :
    DistinctNames (before ++ (name, other) :: after) := by
  simpa [DistinctNames] using distinct

end DistinctNames

/-! ## Reading without regard to faults -/

section Faults

variable {fault first second : Type}

theorem toOption_bind (computation : Except fault first)
    (next : first → Except fault second) :
    (computation >>= next).toOption =
      computation.toOption.bind fun found => (next found).toOption := by
  cases computation with
  | error reason => rfl
  | ok found => rfl

theorem toOption_map (computation : Except fault first)
    (result : first → second) :
    (computation.map result).toOption = computation.toOption.map result := by
  cases computation with
  | error reason => rfl
  | ok found => rfl

theorem toOption_eq_some_iff {computation : Except fault first}
    {found : first} :
    computation.toOption = some found ↔ computation = .ok found := by
  cases computation with
  | error reason => simp [Except.toOption]
  | ok value => simp [Except.toOption]

theorem toOption_required (found : Option first) :
    (Record.required found).toOption = found := by
  cases found with
  | none => rfl
  | some value => rfl

theorem toOption_mapM (items : List first)
    (read : first → Except fault second) :
    (items.mapM read).toOption = items.mapM fun item => (read item).toOption := by
  induction items with
  | nil => rfl
  | cons item items inductionHypothesis =>
      simp only [List.mapM_cons, toOption_bind, inductionHypothesis]
      rfl

end Faults

/-! ## Reading records -/

namespace Record

variable {first second : Type} {name firstName secondName : String} {json : Json}
  {entries : List (String × Json)}

/-- A field that has been looked for: what it was read as, or what was known before
if it is not among the entries. -/
def settle (name : String) (read : Json → Except DecodeError first)
    (entries : List (String × Json)) (known : Option first) :
    Option (Option first) :=
  match entries.lookup name with
  | some value => (read value).toOption.map some
  | none => some known

/-- The entries of a record of two fields are read as if each field were looked
for on its own. -/
theorem foldlM_readEntry {readFirst : Json → Except DecodeError first}
    {readSecond : Json → Except DecodeError second}
    (different : firstName ≠ secondName) (distinct : DistinctNames entries)
    (found : Option first × Option second) :
    (entries.foldlM (readEntry firstName readFirst secondName readSecond)
        found).toOption =
      (settle firstName readFirst entries found.1).bind fun left =>
        (settle secondName readSecond entries found.2).bind fun right =>
          some (left, right) := by
  -- By induction on the entries: an entry settles its own field, which none of
  -- the entries behind it settles again.
  induction entries generalizing found with
  | nil => rfl
  | cons entry entries inductionHypothesis =>
      obtain ⟨head, value⟩ := entry
      have behind := inductionHypothesis distinct.tail
      rw [List.foldlM_cons, toOption_bind, readEntry]
      by_cases isFirst : head = firstName
      · subst isFirst
        simp only [if_true, toOption_map, behind, settle,
          List.lookup_cons_self, lookup_cons_of_ne different.symm,
          distinct.lookup_tail]
        cases (readFirst value).toOption with
        | none => rfl
        | some left => rfl
      · by_cases isSecond : head = secondName
        · subst isSecond
          simp only [if_neg isFirst, if_true, toOption_map, behind, settle,
            List.lookup_cons_self, lookup_cons_of_ne different,
            distinct.lookup_tail]
          cases (readSecond value).toOption with
          | none => cases entries.lookup firstName <;> simp
          | some right => rfl
        · simp only [if_neg isFirst, if_neg isSecond, settle,
            lookup_cons_of_ne (Ne.symm isFirst),
            lookup_cons_of_ne (Ne.symm isSecond)]
          exact behind found

/-- The entries of a record of one field are read as if the field were looked
for. -/
theorem foldlM_readField {read : Json → Except DecodeError first}
    (distinct : DistinctNames entries) (found : Option first) :
    (entries.foldlM
        (fun (found : Option first) entry =>
          if entry.1 = name then (read entry.2).map some else .ok found)
        found).toOption =
      settle name read entries found := by
  induction entries generalizing found with
  | nil => rfl
  | cons entry entries inductionHypothesis =>
      obtain ⟨head, value⟩ := entry
      have behind := inductionHypothesis distinct.tail
      rw [List.foldlM_cons, toOption_bind]
      by_cases own : head = name
      · subst own
        simp only [if_true, toOption_map, behind, settle,
          List.lookup_cons_self, distinct.lookup_tail]
        cases (read value).toOption with
        | none => rfl
        | some left => rfl
      · simp only [if_neg own, settle, lookup_cons_of_ne (Ne.symm own)]
        exact behind found

/-- A field of a record, read if it is there. -/
def field? (entries : List (String × Json)) (name : String)
    (read : Json → Except DecodeError first) : Option first :=
  (entries.lookup name).bind fun value => (read value).toOption

theorem settle_bind (read : Json → Except DecodeError first)
    (next : first → Option second) :
    ((settle name read entries none).bind fun known => known.bind next) =
      (field? entries name read).bind next := by
  unfold settle field?
  cases entries.lookup name with
  | none => rfl
  | some value =>
      simp only [Option.bind_some]
      cases (read value).toOption with
      | none => rfl
      | some found => rfl

/-- A reader of a record goes through its entries and then makes its result, unless
items are left over. -/
theorem toOption_of_parts {state result : Type} (names : List String)
    (json : Json)
    (step : state → String × Json → Except DecodeError state) (start : state)
    (finish : state → Except DecodeError result) :
    Except.toOption (do
        let parts ← required (json.parts? names)
        let found ← parts.foldlM
          (fun found part => step found (part.1, part.2.val)) start
        if json.fitsRecord names then finish found
          else throw DecodeError.malformed) =
      (json.record? names).bind fun entries =>
        (entries.foldlM step start).toOption.bind fun found =>
          (finish found).toOption := by
  simp only [toOption_bind, toOption_required, Json.record?]
  rw [← json.map_parts?]
  by_cases fits : json.fitsRecord names
  · simp only [fits, if_true]
    cases json.parts? names with
    | none => rfl
    | some parts =>
        simp only [Option.map_some, Option.bind_some, List.foldlM_map]
  · simp [fits, throw, throwThe, MonadExceptOf.throw, Except.toOption]

/-- Reading a record of two fields is looking for each of them. -/
theorem readPair_toOption (readFirst : Json → Except DecodeError first)
    (readSecond : Json → Except DecodeError second)
    (different : firstName ≠ secondName)
    (distinct : ∀ entries ∈ json.record? [firstName, secondName],
      DistinctNames entries) :
    (readPair json firstName (fun part => readFirst part.val)
        secondName fun part => readSecond part.val).toOption =
      (json.record? [firstName, secondName]).bind fun entries =>
        (field? entries firstName readFirst).bind fun left =>
          (field? entries secondName readSecond).bind fun right =>
            some (left, right) := by
  have folded := toOption_of_parts [firstName, secondName] json
    (readEntry firstName readFirst secondName readSecond) (none, none)
    fun found => do return (← required found.1, ← required found.2)
  refine folded.trans (Option.bind_congr fun entries isRecord => ?_)
  rw [foldlM_readEntry different (distinct entries isRecord)]
  let left? := settle firstName readFirst entries none
  let right? := settle secondName readSecond entries none
  have finish : ∀ found : Option first × Option second,
      (do return (← required found.1, ← required found.2) :
          Except DecodeError (first × second)).toOption =
        found.1.bind fun left => found.2.bind fun right =>
          some (left, right) := by
    rintro ⟨left, right⟩
    simp only [toOption_bind, toOption_required]
    rfl
  simp only [finish, Option.bind_assoc, Option.bind_some]
  -- Whether the second field is right is asked before the first one is missed.
  calc
    left?.bind (fun known => right?.bind fun found =>
          known.bind fun left => found.bind fun right =>
            some (left, right)) =
        left?.bind fun known => known.bind fun left =>
          right?.bind fun found => found.bind fun right =>
            some (left, right) := by
      simp only [Option.bind_comm right?]
    _ = (field? entries firstName readFirst).bind fun left =>
          right?.bind fun found => found.bind fun right =>
            some (left, right) :=
      settle_bind readFirst _
    _ = _ := by
      simp only [right?, settle_bind]

/-- Reading a record of one field is looking for it. -/
theorem readSingle_toOption (read : Json → Except DecodeError first)
    (distinct : ∀ entries ∈ json.record? [name], DistinctNames entries) :
    (readSingle json name fun part => read part.val).toOption =
      (json.record? [name]).bind fun entries => field? entries name read := by
  have folded := toOption_of_parts [name] json
    (fun (found : Option first) entry =>
      if entry.1 = name then (read entry.2).map some else .ok found)
    none required
  refine folded.trans (Option.bind_congr fun entries isRecord => ?_)
  rw [foldlM_readField (distinct entries isRecord)]
  simp only [toOption_required]
  simpa using settle_bind read some

end Record

end ScopedQuery
