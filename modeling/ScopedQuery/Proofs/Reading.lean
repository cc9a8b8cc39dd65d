/-
Module: ScopedQuery.Proofs.Reading
Purpose: What is known of the values that reading gives: an expression that has
  been read is well formed.
Trusted boundary: none
Main exports:
  Gives, Record.readPair_gives, Record.readSingle_gives, Record.readItems_gives,
  Expr.decode_gives, Select.decode_gives
-/
import ScopedQuery.Expr.Decode
import ScopedQuery.Proofs.Parts

namespace ScopedQuery

/-!
A computation that can fail is described by a property of everything that it
gives.  The property of a composed computation follows from those of its steps,
so that a reader of records is described once for all readers of their fields.
-/

/-- Whatever the computation gives has the property. -/
structure Gives {fault value : Type} (computation : Except fault value)
    (property : value → Prop) : Prop where
  holds : ∀ found, computation = .ok found → property found

namespace Gives

variable {fault first second : Type} {property : first → Prop}
  {later : second → Prop}

theorem ok {found : first} (holds : property found) :
    Gives (.ok found : Except fault first) property where
  holds := by
    intro given same
    cases same
    exact holds

theorem error {reason : fault} :
    Gives (.error reason : Except fault first) property where
  holds := by
    intro given same
    cases same

theorem bind {computation : Except fault first}
    {next : first → Except fault second}
    (gives : Gives computation property)
    (step : ∀ found, property found → Gives (next found) later) :
    Gives (computation >>= next) later := by
  cases computation with
  | error reason => exact error
  | ok found => exact step found (gives.holds found rfl)

/-- Where nothing is asked of the values, nothing has to be known. -/
theorem any {computation : Except fault first} :
    Gives computation fun _ => True where
  holds := fun _ _ => trivial

theorem map {computation : Except fault first} {result : first → second}
    (gives : Gives computation property)
    (step : ∀ found, property found → later (result found)) :
    Gives (computation.map result) later := by
  cases computation with
  | error reason => exact error
  | ok found => exact ok (step found (gives.holds found rfl))

/-- What remains of a computation when its faults are forgotten. -/
theorem of_toOption {computation : Except fault first} {found : first}
    (gives : Gives computation property)
    (given : computation.toOption = some found) : property found := by
  cases computation with
  | error reason => cases given
  | ok value =>
      cases given
      exact gives.holds found rfl

/-- A property that every step of a fold keeps holds at its end. -/
theorem foldlM {items : List second} {step : first → second → Except fault first}
    {start : first} (initially : property start)
    (keeps : ∀ found item, property found → Gives (step found item) property) :
    Gives (items.foldlM step start) property := by
  induction items generalizing start with
  | nil => exact ok initially
  | cons item items inductionHypothesis =>
      rw [List.foldlM_cons]
      exact bind (keeps start item initially) fun found holds =>
        inductionHypothesis holds

/-- A property of what each item gives holds of all that a list gives. -/
theorem mapM {items : List second} {read : second → Except fault first}
    (each : ∀ item, Gives (read item) property) :
    Gives (items.mapM read) fun found => ∀ value ∈ found, property value := by
  induction items with
  | nil => exact ok (by simp)
  | cons item items inductionHypothesis =>
      rw [List.mapM_cons]
      apply Gives.bind (each item)
      intro value holds
      apply Gives.bind inductionHypothesis
      intro values rest
      exact ok (List.forall_mem_cons.mpr ⟨holds, rest⟩)

end Gives

/-! ## Records -/

namespace Record

variable {part first second : Type} {ofFirst : first → Prop}
  {ofSecond : second → Prop} {json : Json} {name firstName secondName : String}

theorem required_gives {found : Option first}
    (holds : ∀ value ∈ found, ofFirst value) :
    Gives (required found) ofFirst := by
  cases found with
  | none => exact .error
  | some value => exact .ok (holds value rfl)

/-- The fields that have been found have their properties. -/
def FoundHold (ofFirst : first → Prop) (ofSecond : second → Prop)
    (found : Option first × Option second) : Prop :=
  (∀ value ∈ found.1, ofFirst value) ∧ ∀ value ∈ found.2, ofSecond value

/-- Taking an entry keeps what is known of the fields, in whatever order they
come. -/
theorem readEntry_gives {readFirst : part → Except DecodeError first}
    {readSecond : part → Except DecodeError second}
    {found : Option first × Option second} {entry : String × part}
    (givesFirst : ∀ part, Gives (readFirst part) ofFirst)
    (givesSecond : ∀ part, Gives (readSecond part) ofSecond)
    (holds : FoundHold ofFirst ofSecond found) :
    Gives (readEntry firstName readFirst secondName readSecond found entry)
      (FoundHold ofFirst ofSecond) := by
  unfold readEntry
  split
  · apply Gives.map (givesFirst entry.2)
    intro value isFirst
    exact ⟨by simpa using isFirst, holds.2⟩
  · split
    · apply Gives.map (givesSecond entry.2)
      intro value isSecond
      exact ⟨holds.1, by simpa using isSecond⟩
    · exact .ok holds

/-- A record of two fields consists of what the readers of the fields give. -/
theorem readPair_gives {readFirst : json.Part → Except DecodeError first}
    {readSecond : json.Part → Except DecodeError second}
    (givesFirst : ∀ part, Gives (readFirst part) ofFirst)
    (givesSecond : ∀ part, Gives (readSecond part) ofSecond) :
    Gives (readPair json firstName readFirst secondName readSecond)
      fun pair => ofFirst pair.1 ∧ ofSecond pair.2 := by
  apply Gives.bind .any
  intro parts _
  have fields : Gives
      (parts.foldlM (readEntry firstName readFirst secondName readSecond)
        (none, none))
      (FoundHold ofFirst ofSecond) := by
    apply Gives.foldlM
    · exact ⟨by simp, by simp⟩
    · intro found entry holds
      exact readEntry_gives givesFirst givesSecond holds
  apply Gives.bind fields
  intro found holds
  split
  · apply Gives.bind (required_gives holds.1)
    intro left isFirst
    apply Gives.bind (required_gives holds.2)
    intro right isSecond
    exact .ok ⟨isFirst, isSecond⟩
  · exact .error

/-- A record of one field is what the reader of the field gives. -/
theorem readSingle_gives {read : json.Part → Except DecodeError first}
    (gives : ∀ part, Gives (read part) ofFirst) :
    Gives (readSingle json name read) ofFirst := by
  apply Gives.bind .any
  intro parts _
  have field : Gives
      (parts.foldlM
        (fun (found : Option first) entry =>
          if entry.1 = name then (read entry.2).map some else .ok found)
        none)
      fun found => ∀ value ∈ found, ofFirst value := by
    apply Gives.foldlM
    · simp
    · intro found entry holds
      split
      · apply Gives.map (gives entry.2)
        intro value isFirst
        simpa using isFirst
      · exact .ok holds
  apply Gives.bind field
  intro found holds
  split
  · exact required_gives holds
  · exact .error

/-- The items of an array are what their reader gives. -/
theorem readItems_gives {read : json.Part → Except DecodeError first}
    (gives : ∀ part, Gives (read part) ofFirst) :
    Gives (readItems json read) fun items => ∀ item ∈ items, ofFirst item :=
  .bind .any fun _ _ => .mapM gives

end Record

/-! ## Expressions -/

namespace Expr

/-- A reference that passes the check sees a node with a name. -/
theorem checkedReference_gives {inner : Expr} {scope : Table}
    (wellFormed : inner.WellFormed) :
    Gives (checkedReference inner scope) WellFormed := by
  unfold checkedReference
  split
  · next named => exact .ok ⟨named, wellFormed⟩
  · exact .error

/-- An expression that has been read is well formed, whatever was written. -/
theorem decode_gives (json : Json) : Gives (decode json) WellFormed := by
  -- Only the check of a reference does more than to pass on what the readers of
  -- the fields give.
  fun_induction decode json with
  | case1 tag body unknown => exact .error
  | case2 tag body column => exact .map .any fun _ _ => trivial
  | case3 tag body aliased inductionHypothesis =>
      apply Gives.bind (Record.readPair_gives inductionHypothesis fun _ => .any)
      rintro ⟨inner, aliasName⟩ ⟨wellFormed, -⟩
      exact .ok wellFormed
  | case4 tag body reference inductionHypothesis =>
      apply Gives.bind (Record.readPair_gives inductionHypothesis fun _ => .any)
      rintro ⟨inner, scope⟩ ⟨wellFormed, -⟩
      exact checkedReference_gives wellFormed
  | case5 tag body nullable inductionHypothesis =>
      apply Gives.bind (Record.readSingle_gives inductionHypothesis)
      intro operand wellFormed
      exact .ok wellFormed
  | case6 tag body convert inductionHypothesis =>
      apply Gives.bind (Record.readPair_gives inductionHypothesis fun _ => .any)
      rintro ⟨operand, targetType⟩ ⟨wellFormed, -⟩
      exact .ok wellFormed
  | case7 tag body table => exact .map .any fun _ _ => trivial
  | case8 tag body select inductionHypothesis =>
      have items : ∀ part : body.Part, Gives
          (Record.readItems part.val fun item => decode item.val)
          fun items => ∀ item ∈ items, item.WellFormed :=
        fun part => Record.readItems_gives (inductionHypothesis part)
      apply Gives.bind (Record.readPair_gives (fun _ => .any) items)
      rintro ⟨scope, projection⟩ ⟨-, wellFormed⟩
      exact .ok ((wellFormedItems_iff projection).mpr wellFormed)
  | case9 tag body constant => exact .map .any fun _ _ => trivial
  | case10 tag body parameter => exact .map .any fun _ _ => trivial
  | case11 tag body other => exact .map .any fun _ _ => trivial
  | case12 json shape => exact .error

end Expr

/-- The entries of a nested query that has been read are well formed. -/
theorem Select.decode_gives (json : Json) :
    Gives (Select.decode json) fun select =>
      ∀ entry ∈ select.projection, entry.WellFormed := by
  have items : ∀ part : json.Part, Gives
      (Record.readItems part.val fun item => Expr.decode item.val)
      fun items => ∀ item ∈ items, item.WellFormed :=
    fun part => Record.readItems_gives fun item => Expr.decode_gives item.val
  apply Gives.bind (Record.readPair_gives (fun _ => .any) items)
  rintro ⟨scope, projection⟩ ⟨-, wellFormed⟩
  exact .ok wellFormed

end ScopedQuery
