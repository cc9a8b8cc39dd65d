/-
Module: ScopedQuery.Proofs.Presentation
Purpose: What is read from a JSON value does not depend on how its records are
  presented.
Trusted boundary: that of the JSON forms; the proofs add none
Main exports:
  RecordShape, Form, Restyling, RecordShape.gather, RecordShape.decode?_eq,
  decode_node, Restyling.decode?_eq, decode_ignores_presentation
-/
import Mathlib.Logic.Relation
import ScopedQuery.Proofs.RecordReading
import ScopedQuery.Proofs.RoundTrip

namespace ScopedQuery

/-!
A record can be presented in many ways.  The fields of an object come in any
order, fields that the record does not know are passed over, the array of the
fields does as well as an object, and a schema that is absent is null or not
there at all.  A restyling is one such difference, somewhere inside a value.
Values that are linked by restylings, in either direction, are presentations of
the same thing.

What a record is read as depends on what each of its fields is read as and on
nothing else, and a node is read as what its body is read as.  A restyling leaves
the fields of its record as they are, so every record around it is read as before.
-/

/-! ## Records and their presentations -/

/-- The records that occur in expressions. -/
inductive RecordShape where
  | column
  | aliased
  | reference
  | nullable
  | convert
  | select
  | table
  | property
  | physical
deriving Repr, DecidableEq

/-- What a value stands for in an expression, which tells how it is read. -/
inductive Form where
  | expr
  | exprs
  | kind
  | schema
  | text
  | source
  | literal
  | record (shape : RecordShape)
deriving Repr, DecidableEq

namespace RecordShape

/-- The fields of a record in the order of their declaration, and what their values
stand for. -/
def fields : RecordShape → List (String × Form)
  | .column => [("property", .record .property), ("table", .record .table)]
  | .aliased => [("expr", .expr), ("alias", .text)]
  | .reference => [("expr", .expr), ("table", .record .table)]
  | .nullable => [("operand", .expr)]
  | .convert => [("operand", .expr), ("target_type", .text)]
  | .select => [("table", .record .table), ("projection", .exprs)]
  | .table => [("kind", .kind), ("alias", .text), ("query_source", .source)]
  | .property => [("name", .text), ("column_name", .text)]
  | .physical => [("name", .text), ("schema", .schema)]

/-- The names of the fields. -/
def names (shape : RecordShape) : List String :=
  shape.fields.map Prod.fst

/-- Every record but that of a physical table can be an array of its fields. -/
def mayBeArray : RecordShape → Bool
  | .physical => false
  | _ => true

end RecordShape

/-- What the body of a node stands for. -/
def NodeKind.bodyForm : NodeKind → Form
  | .column => .record .column
  | .aliased => .record .aliased
  | .reference => .record .reference
  | .nullable => .record .nullable
  | .convert => .record .convert
  | .table => .record .table
  | .select => .record .select
  | .constant => .literal
  | .parameter => .text
  | .other => .text

/-- Two values that stand for the same thing differ in the presentation of one
record, somewhere inside.  The first four cases are the differences, the others say
where a record can be. -/
inductive Restyling : Form → Json → Json → Prop where
  | reordered {shape : RecordShape} {fields others : List (String × Json)}
      (distinct : DistinctNames fields) (permuted : fields.Perm others) :
      Restyling (.record shape) (.object fields) (.object others)
  | unknown {shape : RecordShape} {fields : List (String × Json)}
      {name : String} {value : Json}
      (distinct : DistinctNames ((name, value) :: fields))
      (foreign : name ∉ shape.names) :
      Restyling (.record shape) (.object fields)
        (.object ((name, value) :: fields))
  | array {shape : RecordShape} {values : List Json}
      (allowed : shape.mayBeArray = true)
      (complete : values.length = shape.names.length) :
      Restyling (.record shape) (.object (shape.names.zip values))
        (.array values)
  | omitted {fields : List (String × Json)}
      (distinct : DistinctNames (("schema", .null) :: fields)) :
      Restyling (.record .physical) (.object fields)
        (.object (("schema", .null) :: fields))
  | field {shape : RecordShape} (before : List (String × Json))
      {after : List (String × Json)} {name : String} {form : Form}
      {value other : Json}
      (distinct : DistinctNames (before ++ (name, value) :: after))
      (known : (name, form) ∈ shape.fields)
      (inside : Restyling form value other) :
      Restyling (.record shape) (.object (before ++ (name, value) :: after))
        (.object (before ++ (name, other) :: after))
  | position {shape : RecordShape} {before after : List Json}
      {name : String} {form : Form} {value other : Json}
      (known : shape.fields[before.length]? = some (name, form))
      (inside : Restyling form value other) :
      Restyling (.record shape) (.array (before ++ value :: after))
        (.array (before ++ other :: after))
  | item {before after : List Json} {value other : Json}
      (inside : Restyling .expr value other) :
      Restyling .exprs (.array (before ++ value :: after))
        (.array (before ++ other :: after))
  | node (kind : NodeKind) {body other : Json}
      (inside : Restyling kind.bodyForm body other) :
      Restyling .expr (.object [(kind.tag, body)])
        (.object [(kind.tag, other)])
  | physical {body other : Json}
      (inside : Restyling (.record .physical) body other) :
      Restyling .kind (.object [("Table", body)])
        (.object [("Table", other)])

/-! ## What is read -/

namespace RecordShape

/-- What a record is read as. -/
def Value : RecordShape → Type
  | .column => Column
  | .aliased => Expr × String
  | .reference => Expr × Table
  | .nullable => Expr
  | .convert => Expr × String
  | .select => Table × List Expr
  | .table => Table
  | .property => Property
  | .physical => TableKind

/-- Read a record, with no regard to the fault if there is one. -/
def decode? : (shape : RecordShape) → Json → Option shape.Value
  | .column, json => Column.decode? json
  | .aliased, json =>
      (Record.readPair json "expr" (fun part => Expr.decode part.val)
        "alias" fun part => Record.readText part.val).toOption
  | .reference, json =>
      (Record.readPair json "expr" (fun part => Expr.decode part.val)
        "table" fun part =>
          Record.required (Table.decode? part.val)).toOption
  | .nullable, json =>
      (Record.readSingle json "operand" fun part =>
        Expr.decode part.val).toOption
  | .convert, json =>
      (Record.readPair json "operand" (fun part => Expr.decode part.val)
        "target_type" fun part => Record.readText part.val).toOption
  | .select, json =>
      (Record.readPair json
        "table" (fun part => Record.required (Table.decode? part.val))
        "projection" fun part =>
          Record.readItems part.val fun item => Expr.decode item.val).toOption
  | .table, json => Table.decode? json
  | .property, json => Property.decode? json
  | .physical, json => TableKind.decode? (.object [("Table", json)])

end RecordShape

namespace Form

/-- What a value is read as. -/
def Value : Form → Type
  | .expr => Expr
  | .exprs => List Expr
  | .kind => TableKind
  | .schema => Option String
  | .text => String
  | .source => SourceId
  | .literal => Literal
  | .record shape => shape.Value

/-- Read a value by what it stands for. -/
def decode? : (form : Form) → Json → Option form.Value
  | .expr, json => (Expr.decode json).toOption
  | .exprs, json =>
      (Record.readItems json fun item => Expr.decode item.val).toOption
  | .kind, json => TableKind.decode? json
  | .schema, json => TableKind.decodeSchema? (some json)
  | .text, json => json.text?
  | .source, json => SourceId.decode? json
  | .literal, json => Literal.decode? json
  | .record shape, json => shape.decode? json

/-- What is read where there is no value: only a schema can be missing. -/
def absent? : (form : Form) → Option form.Value
  | .schema => some none
  | _ => none

/-- Read the value of a field, if the field is there. -/
def decodeField? (form : Form) : Option Json → Option form.Value
  | some json => form.decode? json
  | none => form.absent?

end Form

namespace RecordShape

/-- Make what a record is read as from what its fields are read as. -/
def assemble : (shape : RecordShape) →
    ((name : String) → (form : Form) → Option form.Value) → Option shape.Value
  | .column, field => do
      let property ← field "property" (.record .property)
      let table ← field "table" (.record .table)
      some (⟨property, table⟩ : Column)
  | .aliased, field => do
      let inner ← field "expr" .expr
      let aliasName ← field "alias" .text
      some (inner, aliasName)
  | .reference, field => do
      let inner ← field "expr" .expr
      let scope ← field "table" (.record .table)
      some (inner, scope)
  | .nullable, field => field "operand" .expr
  | .convert, field => do
      let operand ← field "operand" .expr
      let targetType ← field "target_type" .text
      some (operand, targetType)
  | .select, field => do
      let scope ← field "table" (.record .table)
      let projection ← field "projection" .exprs
      some (scope, projection)
  | .table, field => do
      let kind ← field "kind" .kind
      let aliasName ← field "alias" .text
      let source ← field "query_source" .source
      some (⟨kind, aliasName, source⟩ : Table)
  | .property, field => do
      let name ← field "name" .text
      let columnName ← field "column_name" .text
      some (⟨name, columnName⟩ : Property)
  | .physical, field => do
      let name ← field "name" .text
      let schema ← field "schema" .schema
      some (TableKind.physical name schema)

/-- The named values of a record. -/
def entries? (shape : RecordShape) (json : Json) :
    Option (List (String × Json)) :=
  if shape.mayBeArray then json.record? shape.names
  else
    match json with
    | .object fields => some fields
    | _ => none

/-- What a record is read as, given its named values. -/
def gather (shape : RecordShape) (entries : List (String × Json)) :
    Option shape.Value :=
  shape.assemble fun name form => form.decodeField? (entries.lookup name)

end RecordShape

/-! ## Records by their fields -/

namespace Form

/-- What cannot be missing is read where it is there. -/
theorem decodeField?_eq_bind (form : Form) (needed : form.absent? = none)
    (value : Option Json) : form.decodeField? value = value.bind form.decode? := by
  cases value with
  | none => exact needed
  | some json => rfl

theorem decode?_record (shape : RecordShape) (json : Json) :
    (record shape).decode? json = shape.decode? json := rfl

theorem decode?_exprs_array (items : List Json) :
    exprs.decode? (.array items) =
      items.mapM fun item => (Expr.decode item).toOption := by
  rw [← toOption_mapM, ← Record.readItems_array]
  rfl

theorem decodeField?_schema (value : Option Json) :
    schema.decodeField? value = TableKind.decodeSchema? value := by
  cases value with
  | none => rfl
  | some json => rfl

end Form

namespace RecordShape

theorem entries?_object (shape : RecordShape) (fields : List (String × Json)) :
    shape.entries? (.object fields) = some fields := by
  cases shape <;> rfl

theorem entries?_array (shape : RecordShape) (values : List Json) :
    shape.entries? (.array values) =
      if shape.mayBeArray ∧ values.length ≤ shape.names.length then
        some (shape.names.zip values)
      else none := by
  by_cases allowed : shape.mayBeArray
  · simp [entries?, allowed, Json.record?, Json.fitsRecord, Json.entries?]
  · simp [entries?, allowed]

/-- The names of an array's items are distinct. -/
theorem distinctNames_zip (shape : RecordShape) (values : List Json) :
    DistinctNames (shape.names.zip values) := by
  have named : ∀ (names : List String) (values : List Json),
      ((names.zip values).map Prod.fst).Sublist names := by
    intro names values
    induction names generalizing values with
    | nil => simp
    | cons name names inductionHypothesis =>
        cases values with
        | nil => simp
        | cons value values =>
            exact (inductionHypothesis values).cons_cons name
  have distinct : shape.names.Nodup := by
    cases shape <;> decide
  exact distinct.sublist (named shape.names values)

/-- A record whose names are distinct is read as what its fields are read as. -/
theorem decode?_eq {shape : RecordShape} {json : Json}
    (distinct : ∀ entries ∈ shape.entries? json, DistinctNames entries) :
    shape.decode? json = (shape.entries? json).bind shape.gather := by
  have expr := Form.decodeField?_eq_bind .expr rfl
  have exprs := Form.decodeField?_eq_bind .exprs rfl
  have kind := Form.decodeField?_eq_bind .kind rfl
  have text := Form.decodeField?_eq_bind .text rfl
  have source := Form.decodeField?_eq_bind .source rfl
  have record := fun shape => Form.decodeField?_eq_bind (.record shape) rfl
  cases shape with
  | column =>
      refine Option.bind_congr fun entries _ => ?_
      simp only [gather, assemble, record, bind, Option.bind_assoc]
      rfl
  | aliased =>
      refine (Record.readPair_toOption Expr.decode Record.readText (by decide)
        distinct).trans (Option.bind_congr fun entries _ => ?_)
      simp only [gather, assemble, expr, text, Record.field?, Record.readText,
        toOption_required]
      rfl
  | reference =>
      refine (Record.readPair_toOption Expr.decode
        (fun json => Record.required (Table.decode? json)) (by decide)
        distinct).trans (Option.bind_congr fun entries _ => ?_)
      simp only [gather, assemble, expr, record, Record.field?,
        toOption_required]
      rfl
  | nullable =>
      refine (Record.readSingle_toOption Expr.decode distinct).trans
        (Option.bind_congr fun entries _ => ?_)
      exact (expr _).symm
  | convert =>
      refine (Record.readPair_toOption Expr.decode Record.readText (by decide)
        distinct).trans (Option.bind_congr fun entries _ => ?_)
      simp only [gather, assemble, expr, text, Record.field?, Record.readText,
        toOption_required]
      rfl
  | select =>
      refine (Record.readPair_toOption
        (fun json => Record.required (Table.decode? json))
        (fun json => Record.readItems json fun item => Expr.decode item.val)
        (by decide) distinct).trans (Option.bind_congr fun entries _ => ?_)
      simp only [gather, assemble, record, exprs, Record.field?,
        toOption_required]
      rfl
  | table =>
      refine Option.bind_congr fun entries _ => ?_
      simp only [gather, assemble, kind, text, source, bind, Option.bind_assoc]
      rfl
  | property =>
      refine Option.bind_congr fun entries _ => ?_
      simp only [gather, assemble, text, bind, Option.bind_assoc]
      rfl
  | physical =>
      cases json with
      | object fields =>
          rw [entries?_object, Option.bind_some]
          simp only [gather, assemble, text, Form.decodeField?_schema, bind,
            Option.bind_assoc]
          rfl
      | _ => rfl

/-- Only the values of its own fields make a difference to a record. -/
theorem gather_congr {shape : RecordShape} {left right : List (String × Json)}
    (same : ∀ name form, (name, form) ∈ shape.fields →
      form.decodeField? (left.lookup name) =
        form.decodeField? (right.lookup name)) :
    shape.gather left = shape.gather right := by
  cases shape with
  -- The record of one field is read as the field itself.
  | nullable => exact same "operand" .expr (List.mem_singleton_self _)
  | _ =>
      simp only [fields, List.mem_cons, Prod.mk.injEq, List.not_mem_nil,
        or_false] at same
      simp only [gather, assemble, same, true_or, or_true, and_self]

theorem decode?_object {shape : RecordShape} {fields : List (String × Json)}
    (distinct : DistinctNames fields) :
    shape.decode? (.object fields) = shape.gather fields := by
  have entries := shape.entries?_object fields
  rw [decode?_eq, entries, Option.bind_some]
  intro found given
  cases entries.symm.trans given
  exact distinct

theorem decode?_array (shape : RecordShape) (values : List Json) :
    shape.decode? (.array values) =
      if shape.mayBeArray ∧ values.length ≤ shape.names.length then
        shape.gather (shape.names.zip values)
      else none := by
  have entries := shape.entries?_array values
  rw [decode?_eq, entries]
  · split <;> rfl
  · intro found given
    rw [entries] at given
    split at given
    · cases given
      exact shape.distinctNames_zip values
    · cases given

/-- The name of a field tells what its value stands for. -/
theorem form_unique {shape : RecordShape} {name : String} {form other : Form}
    (known : (name, form) ∈ shape.fields)
    (alsoKnown : (name, other) ∈ shape.fields) : form = other := by
  have distinct : (shape.fields.map Prod.fst).Nodup := by
    cases shape <;> decide
  exact congrArg Prod.snd
    (List.inj_on_of_nodup_map distinct known alsoKnown rfl)

/-- A record is read alike if a field of it is. -/
theorem gather_field {shape : RecordShape} {before after : List (String × Json)}
    {name : String} {form : Form} {value other : Json}
    (distinct : DistinctNames (before ++ (name, value) :: after))
    (known : (name, form) ∈ shape.fields)
    (same : form.decode? value = form.decode? other) :
    shape.gather (before ++ (name, value) :: after) =
      shape.gather (before ++ (name, other) :: after) := by
  apply gather_congr
  intro sought soughtForm isField
  by_cases found : sought = name
  · subst found
    cases form_unique known isField
    rw [distinct.lookup_amid, distinct.replace.lookup_amid]
    exact same
  · rw [lookup_replace found]

/-- The item at the position of a field is the value of the field. -/
theorem zip_amid {shape : RecordShape} {before : List Json}
    {name : String} {form : Form} (after : List Json)
    (known : shape.fields[before.length]? = some (name, form)) :
    ∃ first last : List (String × Json), ∀ value,
      shape.names.zip (before ++ value :: after) =
        first ++ (name, value) :: last := by
  obtain ⟨inside, here⟩ := List.getElem?_eq_some_iff.mp known
  let earlier := (shape.fields.take before.length).map Prod.fst
  let later := (shape.fields.drop (before.length + 1)).map Prod.fst
  have parted : shape.names = earlier ++ name :: later := by
    conv => lhs; rw [names, ← List.take_append_drop before.length shape.fields]
    rw [List.map_append, List.drop_eq_getElem_cons inside, here, List.map_cons]
  have aligned : earlier.length = before.length := by
    rw [List.length_map, List.length_take_of_le inside.le]
  refine ⟨earlier.zip before, later.zip after, fun value => ?_⟩
  rw [parted, List.zip_append aligned, List.zip_cons_cons]

end RecordShape

/-! ## Nodes -/

/-- Make a node of what its body is read as. -/
def NodeKind.build? : (kind : NodeKind) → kind.bodyForm.Value → Option Expr
  | .column => fun (column : Column) => some (.column column)
  | .aliased => fun (body : Expr × String) => some (.aliased body.1 body.2)
  | .reference => fun (body : Expr × Table) =>
      (Expr.checkedReference body.1 body.2).toOption
  | .nullable => fun (operand : Expr) => some (.nullable operand)
  | .convert => fun (body : Expr × String) => some (.convert body.1 body.2)
  | .table => fun (table : Table) => some (.table table)
  | .select => fun (body : Table × List Expr) =>
      some (.select body.1 body.2)
  | .constant => fun (literal : Literal) => some (.constant literal)
  | .parameter => fun (text : String) => some (.parameter text)
  | .other => fun (text : String) => some (.other text)

/-- A node is read as what its body is read as. -/
theorem decode_node (kind : NodeKind) (body : Json) :
    (Expr.decode (.object [(kind.tag, body)])).toOption =
      (kind.bodyForm.decode? body).bind kind.build? := by
  rw [Expr.decode, NodeKind.ofTag?_tag]
  cases kind with
  | column =>
      simp only [toOption_map, toOption_required]
      exact Option.map_eq_bind
  | aliased =>
      simp only [toOption_bind]
      rfl
  | reference =>
      simp only [toOption_bind]
      rfl
  | nullable =>
      simp only [toOption_bind]
      rfl
  | convert =>
      simp only [toOption_bind]
      rfl
  | table =>
      simp only [toOption_map, toOption_required]
      exact Option.map_eq_bind
  | select =>
      simp only [toOption_bind]
      rfl
  | constant =>
      simp only [toOption_map, toOption_required]
      exact Option.map_eq_bind
  | parameter =>
      simp only [toOption_map, Record.readText, toOption_required]
      exact Option.map_eq_bind
  | other =>
      simp only [toOption_map, Record.readText, toOption_required]
      exact Option.map_eq_bind

/-! ## Presentations -/

/-- One difference in presentation changes nothing in what is read. -/
theorem Restyling.decode?_eq {form : Form} {left right : Json}
    (restyling : Restyling form left right) :
    form.decode? left = form.decode? right := by
  -- Of a record only the fields that it knows have to be compared.  Where the
  -- difference is further inside, it has been read already.
  induction restyling with
  | reordered distinct permuted =>
      have distinctOthers : DistinctNames _ :=
        (permuted.map Prod.fst).nodup_iff.mp distinct
      rw [Form.decode?_record, Form.decode?_record,
        RecordShape.decode?_object distinct,
        RecordShape.decode?_object distinctOthers]
      apply RecordShape.gather_congr
      intro name form _
      rw [distinct.lookup_perm permuted]
  | unknown distinct foreign =>
      rw [Form.decode?_record, Form.decode?_record,
        RecordShape.decode?_object distinct.tail,
        RecordShape.decode?_object distinct]
      apply RecordShape.gather_congr
      intro sought form known
      have different := ne_of_mem_of_not_mem
        (List.mem_map_of_mem (f := Prod.fst) known) foreign
      rw [lookup_cons_of_ne different]
  | @array shape values allowed complete =>
      have fits : shape.mayBeArray ∧ values.length ≤ shape.names.length :=
        ⟨allowed, complete.le⟩
      rw [Form.decode?_record, Form.decode?_record,
        RecordShape.decode?_object (shape.distinctNames_zip values),
        RecordShape.decode?_array, if_pos fits]
  | omitted distinct =>
      rw [Form.decode?_record, Form.decode?_record,
        RecordShape.decode?_object distinct.tail,
        RecordShape.decode?_object distinct]
      apply RecordShape.gather_congr
      intro sought form known
      by_cases isSchema : sought = "schema"
      · subst isSchema
        have isField : ("schema", Form.schema) ∈ RecordShape.physical.fields := by
          decide
        cases RecordShape.form_unique known isField
        rw [distinct.lookup_tail, List.lookup_cons_self]
        rfl
      · rw [lookup_cons_of_ne isSchema]
  | field before distinct known inside same =>
      rw [Form.decode?_record, Form.decode?_record,
        RecordShape.decode?_object distinct,
        RecordShape.decode?_object distinct.replace]
      exact RecordShape.gather_field distinct known same
  | @position shape before after name form value other known inside same =>
      obtain ⟨first, last, zipped⟩ := RecordShape.zip_amid after known
      have distinct := shape.distinctNames_zip (before ++ value :: after)
      rw [zipped] at distinct
      have asLong : (before ++ value :: after).length =
          (before ++ other :: after).length := by
        simp only [List.length_append, List.length_cons]
      rw [Form.decode?_record, Form.decode?_record,
        RecordShape.decode?_array, RecordShape.decode?_array, asLong, zipped,
        zipped,
        RecordShape.gather_field distinct (List.mem_of_getElem? known) same]
  | @item before after value other inside same =>
      have sameItem : (Expr.decode value).toOption =
        (Expr.decode other).toOption := same
      rw [Form.decode?_exprs_array, Form.decode?_exprs_array,
        List.mapM_append, List.mapM_append, List.mapM_cons, List.mapM_cons,
        sameItem]
  | @node kind body other inside same =>
      change (Expr.decode (.object [(kind.tag, body)])).toOption =
        (Expr.decode (.object [(kind.tag, other)])).toOption
      rw [decode_node, decode_node, same]
  | physical inside same => exact same

/-- The same expression is read from a value in every presentation of its
records. -/
theorem decode_ignores_presentation {left right : Json}
    (same : Relation.EqvGen (Restyling .expr) left right) (found : Expr) :
    Expr.decode left = .ok found ↔ Expr.decode right = .ok found := by
  have read : (Expr.decode left).toOption = (Expr.decode right).toOption := by
    induction same with
    | rel left right restyling => exact restyling.decode?_eq
    | refl json => rfl
    | symm left right _ read => exact read.symm
    | trans left middle right _ _ first second => exact first.trans second
  rw [← toOption_eq_some_iff, read, toOption_eq_some_iff]

/-- A table is read from what it is written as, and so it is when the schema that
it lacks is left out, its kind has a foreign field, and the rest is an array. -/
theorem table_in_another_presentation :
    let source : SourceId := ⟨0⟩
    let expr : Expr := .table (Table.physical "orders" "o" source)
    let restyled : Json := .object [("Table", .array
      [.object [("Table",
          .object [("note", .boolean true), ("name", .text "orders")])],
        .text "o", source.encode])]
    Relation.EqvGen (Restyling .expr) expr.encode restyled ∧
      Expr.decode restyled = .ok expr := by
  intro source expr restyled
  let name : String × Json := ("name", .text "orders")
  let schema : String × Json := ("schema", .null)
  let note : String × Json := ("note", .boolean true)
  let items (kind : List (String × Json)) : List Json :=
    [.object [("Table", .object kind)], .text "o", source.encode]
  let node (kind : List (String × Json)) : Json :=
    .object [("Table", .object (RecordShape.table.names.zip (items kind)))]
  have inKind {left right : List (String × Json)}
      (inside : Restyling (.record .physical) (.object left) (.object right)) :
      Restyling .expr (node left) (node right) :=
    .node .table (.field [] (RecordShape.table.distinctNames_zip (items left))
      (by decide) (.physical inside))
  have schemaFirst : Restyling .expr expr.encode (node [schema, name]) :=
    inKind (.reordered (by decide) (List.Perm.swap schema name []))
  have schemaNull : Restyling .expr (node [name]) (node [schema, name]) :=
    inKind (.omitted (by decide))
  have noted : Restyling .expr (node [name]) (node [note, name]) :=
    inKind (.unknown (by decide) (by decide))
  have listed : Restyling .expr (node [note, name]) restyled :=
    .node .table (.array rfl rfl)
  have same : Relation.EqvGen (Restyling .expr) expr.encode restyled :=
    .trans _ _ _ (.rel _ _ schemaFirst)
      (.trans _ _ _ (.symm _ _ (.rel _ _ schemaNull))
        (.trans _ _ _ (.rel _ _ noted) (.rel _ _ listed)))
  have read : Expr.decode expr.encode = .ok expr := by
    rw [Expr.encode, Expr.tagged, Expr.decode, NodeKind.ofTag?_tag]
    simp only [Table.decode?_encode]
    rfl
  exact ⟨same, (decode_ignores_presentation same expr).mp read⟩

end ScopedQuery
