/-
Module: ScopedQuery.Proofs.RoundTrip
Purpose: An expression that has been written is read back as it was, unless a
  reference in it sees something without a name; then the first such reference in
  post-order is what reading complains of.
Trusted boundary: that of SourceId and of the JSON forms; the proofs add none
Main exports:
  Expr.postOrder, Expr.objection?, Expr.FloatFree, Expr.decode_encode,
  decode_encode_of_any_tree
-/
import ScopedQuery.Expr.Lifting
import ScopedQuery.Proofs.Encoding
import ScopedQuery.Proofs.Parts

namespace ScopedQuery

/-!
Any tree can be written, also one with references to things that have no name.
Reading goes through the written form from the inside to the outside and from
left to right, and checks a reference when all of it has been read.  So it meets
the nodes in post-order, and the first reference that it refuses decides what
the fault is.  Floats are left out: some of them have no written form.
-/

/-- A value, or the fault that stands against it. -/
def valueUnless {value : Type} (fault : Option DecodeError) (found : value) :
    Except DecodeError value :=
  match fault with
  | some fault => .error fault
  | none => .ok found

section Unless

variable {value result : Type} {fault later : Option DecodeError}
  {found : value} {made : result}

theorem valueUnless_map (make : value → result) :
    (valueUnless fault found).map make = valueUnless fault (make found) := by
  cases fault with
  | some fault => rfl
  | none => rfl

/-- The fault of the first step goes before that of the second. -/
theorem valueUnless_bind {next : value → Except DecodeError result}
    (step : next found = valueUnless later made) :
    (valueUnless fault found >>= next) =
      valueUnless (fault.or later) made := by
  cases fault with
  | some fault => rfl
  | none => exact step

theorem valueUnless_eq_ok_iff {other : value} :
    valueUnless fault found = .ok other ↔ fault = none ∧ found = other := by
  cases fault with
  | some fault => simp [valueUnless]
  | none => simp [valueUnless]

end Unless

namespace Expr

/-! ## Post-order -/

mutual

/-- The nodes of an expression: what is inside a node, from left to right, and
then the node itself. -/
def postOrder : Expr → List Expr
  | .aliased inner aliasName => inner.postOrder ++ [.aliased inner aliasName]
  | .reference inner scope => inner.postOrder ++ [.reference inner scope]
  | .nullable operand => operand.postOrder ++ [.nullable operand]
  | .convert operand targetType =>
      operand.postOrder ++ [.convert operand targetType]
  | .select scope projection =>
      postOrderItems projection ++ [.select scope projection]
  | expr => [expr]

/-- The nodes of a list of expressions. -/
def postOrderItems : List Expr → List Expr
  | [] => []
  | item :: items => item.postOrder ++ postOrderItems items

end

theorem postOrderItems_eq_flatMap (items : List Expr) :
    postOrderItems items = items.flatMap postOrder := by
  induction items with
  | nil => rfl
  | cons item items inductionHypothesis =>
      simp [postOrderItems, inductionHypothesis]

theorem postOrder_eq (expr : Expr) :
    expr.postOrder = expr.children.flatMap postOrder ++ [expr] := by
  cases expr with
  | select scope projection =>
      simp [postOrder, children, postOrderItems_eq_flatMap]
  | _ => simp [postOrder, children]

/-- Post-order has the parts of an expression and nothing else. -/
theorem mem_postOrder_iff {node expr : Expr} :
    node ∈ expr.postOrder ↔ Part node expr := by
  induction expr using induction_on_children with
  | step expr inductionHypothesis =>
      rw [postOrder_eq, List.mem_append, List.mem_flatMap, List.mem_singleton]
      constructor
      · rintro (⟨child, isChild, below⟩ | rfl)
        · exact .inside isChild ((inductionHypothesis child isChild).mp below)
        · exact .self
      · intro part
        cases part with
        | self => exact Or.inr rfl
        | inside isChild below =>
            exact Or.inl ⟨_, isChild,
              (inductionHypothesis _ isChild).mpr below⟩

/-! ## Objections -/

/-- The node is a reference to something without a name. -/
def isIllFormedReference : Expr → Bool
  | .reference inner _ => !inner.isReferenceable
  | _ => false

/-- What reading objects to at a node. -/
def objection? : Expr → Option DecodeError
  | .reference inner scope =>
      if inner.isReferenceable then none
      else some (.illFormedReference scope.aliasName inner)
  | _ => none

/-- The first objection to some nodes. -/
def firstObjection? (nodes : List Expr) : Option DecodeError :=
  nodes.findSome? objection?

theorem objection?_eq_some_iff {node : Expr} {fault : DecodeError} :
    node.objection? = some fault ↔
      ∃ inner scope, node = .reference inner scope ∧
        inner.isReferenceable = false ∧
        fault = .illFormedReference scope.aliasName inner := by
  cases node with
  | reference inner scope =>
      cases named : inner.isReferenceable with
      | true => simp [objection?, named]
      | false =>
          simp only [objection?, named, Bool.false_eq_true, if_false,
            Option.some.injEq]
          constructor
          · rintro rfl
            exact ⟨inner, scope, rfl, named, rfl⟩
          · rintro ⟨_, _, same, -, rfl⟩
            cases same
            rfl
  | _ => simp [objection?]

theorem objection?_eq_none_iff {node : Expr} :
    node.objection? = none ↔ node.isIllFormedReference = false := by
  cases node with
  | reference inner scope => simp [objection?, isIllFormedReference]
  | _ => simp [objection?, isIllFormedReference]

/-- The first objection is to the first ill-formed reference. -/
theorem find?_of_firstObjection? {nodes : List Expr} {fault : DecodeError}
    (first : firstObjection? nodes = some fault) :
    ∃ inner scope,
      nodes.find? isIllFormedReference = some (.reference inner scope) ∧
      fault = .illFormedReference scope.aliasName inner := by
  obtain ⟨before, node, after, split, objected, earlier⟩ :=
    List.findSome?_eq_some_iff.mp first
  obtain ⟨inner, scope, rfl, unnamed, rfl⟩ :=
    objection?_eq_some_iff.mp objected
  refine ⟨inner, scope, List.find?_eq_some_iff_append.mpr ?_, rfl⟩
  refine ⟨by simp [isIllFormedReference, unnamed], before, after, split, ?_⟩
  intro node member
  simpa using objection?_eq_none_iff.mp (earlier node member)

/-- There is no objection to a tree whose references all see something with a
name. -/
theorem firstObjection?_postOrder_eq_none_iff {expr : Expr} :
    firstObjection? expr.postOrder = none ↔
      ∀ inner scope, Part (.reference inner scope) expr →
        inner.isReferenceable = true := by
  rw [firstObjection?, List.findSome?_eq_none_iff]
  simp only [mem_postOrder_iff, objection?_eq_none_iff]
  constructor
  · intro all inner scope part
    simpa [isIllFormedReference] using all _ part
  · intro all node part
    cases node with
    | reference inner scope =>
        simpa [isIllFormedReference] using all inner scope part
    | _ => rfl

/-- The objections inside a node go before the one to the node. -/
theorem firstObjection?_postOrder (expr : Expr) :
    firstObjection? expr.postOrder =
      (firstObjection? (expr.children.flatMap postOrder)).or
        expr.objection? := by
  rw [firstObjection?, postOrder_eq, List.findSome?_append,
    List.findSome?_singleton]
  rfl

theorem checkedReference_eq (inner : Expr) (scope : Table) :
    checkedReference inner scope =
      valueUnless (objection? (.reference inner scope))
        (.reference inner scope) := by
  rw [checkedReference, objection?]
  split
  · rfl
  · rfl

/-! ## Reading written nodes -/

section Written

variable (inner operand : Json) (scope : Table) (items : List Json)
  (aliasName targetType : String)

theorem decode_tagged_aliased :
    decode (tagged .aliased
        (.object [("expr", inner), ("alias", .text aliasName)])) =
      (decode inner).map (.aliased · aliasName) := by
  rw [tagged, decode, NodeKind.ofTag?_tag]
  simp only
  rw [Record.readPair_object (by decide)]
  cases decode inner with
  | error fault => rfl
  | ok inner => rfl

theorem decode_tagged_reference :
    decode (tagged .reference
        (.object [("expr", inner), ("table", scope.encode)])) =
      (decode inner >>= fun inner => checkedReference inner scope) := by
  rw [tagged, decode, NodeKind.ofTag?_tag]
  simp only
  rw [Record.readPair_object (by decide) inner scope.encode decode
    fun json => Record.required (Table.decode? json), Table.decode?_encode]
  cases decode inner with
  | error fault => rfl
  | ok inner => rfl

theorem decode_tagged_nullable :
    decode (tagged .nullable (.object [("operand", operand)])) =
      (decode operand).map .nullable := by
  rw [tagged, decode, NodeKind.ofTag?_tag]
  simp only
  rw [Record.readSingle_object]
  cases decode operand with
  | error fault => rfl
  | ok operand => rfl

theorem decode_tagged_convert :
    decode (tagged .convert
        (.object [("operand", operand), ("target_type", .text targetType)])) =
      (decode operand).map (.convert · targetType) := by
  rw [tagged, decode, NodeKind.ofTag?_tag]
  simp only
  rw [Record.readPair_object (by decide)]
  cases decode operand with
  | error fault => rfl
  | ok operand => rfl

theorem decode_tagged_select :
    decode (tagged .select
        (.object [("table", scope.encode), ("projection", .array items)])) =
      (items.mapM decode).map (.select scope) := by
  rw [tagged, decode, NodeKind.ofTag?_tag]
  simp only
  rw [Record.readPair_object (by decide) scope.encode (.array items)
    (fun json => Record.required (Table.decode? json))
    fun json => Record.readItems json fun item => decode item.val,
    Table.decode?_encode, Record.readItems_array]
  cases items.mapM decode with
  | error fault => rfl
  | ok projection => rfl

end Written

/-! ## Whole trees -/

/-- No literal anywhere in the expression is a float. -/
def FloatFree (expr : Expr) : Prop :=
  ∀ value, ¬ Part (.constant (.float value)) expr

theorem FloatFree.child {child expr : Expr} (floatFree : expr.FloatFree)
    (isChild : child ∈ expr.children) : child.FloatFree :=
  fun value part => floatFree value (.inside isChild part)

/-- If each item is read back or refused for its first objection, so is a list of
items for the first objection of all. -/
theorem mapM_decode_encode {items : List Expr}
    (each : ∀ item ∈ items, decode item.encode =
      valueUnless (firstObjection? item.postOrder) item) :
    (items.map encode).mapM decode =
      valueUnless (firstObjection? (items.flatMap postOrder)) items := by
  induction items with
  | nil => rfl
  | cons item items inductionHypothesis =>
      obtain ⟨first, rest⟩ := List.forall_mem_cons.mp each
      rw [List.map_cons, List.mapM_cons, List.flatMap_cons, firstObjection?,
        List.findSome?_append, first]
      apply valueUnless_bind
      rw [inductionHypothesis rest]
      exact valueUnless_map _

/-- A written tree is read back unless there is an objection to one of its nodes,
and then the first one is the fault. -/
theorem decode_encode {expr : Expr} (floatFree : expr.FloatFree) :
    decode expr.encode =
      valueUnless (firstObjection? expr.postOrder) expr := by
  induction expr using induction_on_children with
  | step expr inductionHypothesis =>
      have below : ∀ child ∈ expr.children, decode child.encode =
          valueUnless (firstObjection? child.postOrder) child := by
        intro child isChild
        exact inductionHypothesis child isChild (floatFree.child isChild)
      rw [firstObjection?_postOrder]
      cases expr with
      | aliased inner aliasName =>
          rw [encode, decode_tagged_aliased,
            below inner (List.mem_singleton_self inner), valueUnless_map]
          simp [children, objection?]
      | reference inner scope =>
          rw [encode, decode_tagged_reference,
            below inner (List.mem_singleton_self inner)]
          simp only [children, List.flatMap_singleton]
          exact valueUnless_bind (checkedReference_eq inner scope)
      | nullable operand =>
          rw [encode, decode_tagged_nullable,
            below operand (List.mem_singleton_self operand), valueUnless_map]
          simp [children, objection?]
      | convert operand targetType =>
          rw [encode, decode_tagged_convert,
            below operand (List.mem_singleton_self operand), valueUnless_map]
          simp [children, objection?]
      | select scope projection =>
          have items := mapM_decode_encode below
          simp only [children] at items ⊢
          rw [encode, decode_tagged_select, encodeItems_eq_map, items,
            valueUnless_map]
          simp [objection?]
      | column exposed =>
          rw [encode, tagged, decode, NodeKind.ofTag?_tag]
          simp only [Column.decode?_encode]
          rfl
      | table marker =>
          rw [encode, tagged, decode, NodeKind.ofTag?_tag]
          simp only [Table.decode?_encode]
          rfl
      | constant literal =>
          have exact : ∀ value, literal ≠ .float value := by
            rintro value rfl
            exact floatFree value .self
          rw [encode, tagged, decode, NodeKind.ofTag?_tag]
          simp only [Literal.decode?_encode exact]
          rfl
      | parameter _ | other _ =>
          rw [encode, tagged, decode, NodeKind.ofTag?_tag]
          rfl

end Expr

/-- Reading undoes writing, and refuses exactly the references to something
without a name.  Any tree without floats is read back as it was when every
reference in it sees a column, an alias or a further reference, and is not read
at all otherwise.  The fault is then that of the first ill-formed reference in
post-order, with the alias of its scope and the text of what it sees.  So a
written reference to a tree that can be read is accepted exactly when the tree
can be lifted, and gives what lifting gives. -/
theorem decode_encode_of_any_tree {expr : Expr} (floatFree : expr.FloatFree) :
    (∀ found, Expr.decode expr.encode = .ok found ↔
      (∀ inner scope, Expr.Part (.reference inner scope) expr →
        inner.isReferenceable = true) ∧ found = expr) ∧
    (¬ (∀ inner scope, Expr.Part (.reference inner scope) expr →
        inner.isReferenceable = true) →
      ∃ inner scope,
        expr.postOrder.find? Expr.isIllFormedReference =
          some (.reference inner scope) ∧
        Expr.decode expr.encode =
          .error (.illFormedReference scope.aliasName inner) ∧
        (DecodeError.illFormedReference scope.aliasName inner).message? =
          some ("column reference into '" ++ scope.aliasName ++
            "' cannot wrap " ++ inner.render)) ∧
    ((∃ found, Expr.decode expr.encode = .ok found) →
      ∀ scope found, Expr.decode (Expr.reference expr scope).encode =
        .ok found ↔ expr.lift? scope = some found) := by
  have readBack := Expr.decode_encode floatFree
  refine ⟨?_, ?_, ?_⟩
  · intro found
    rw [readBack, valueUnless_eq_ok_iff,
      Expr.firstObjection?_postOrder_eq_none_iff, eq_comm (a := expr)]
  · intro illFormed
    rw [← Expr.firstObjection?_postOrder_eq_none_iff] at illFormed
    obtain ⟨fault, first⟩ := Option.ne_none_iff_exists'.mp illFormed
    obtain ⟨inner, scope, found, rfl⟩ := Expr.find?_of_firstObjection? first
    refine ⟨inner, scope, found, ?_, rfl⟩
    rw [readBack, first]
    rfl
  · rintro ⟨found, read⟩ scope lifted
    rw [readBack, valueUnless_eq_ok_iff] at read
    rw [Expr.encode, Expr.decode_tagged_reference, readBack, read.1]
    change Expr.checkedReference expr scope = .ok lifted ↔ _
    unfold Expr.checkedReference Expr.lift?
    split
    · simp
    · simp

/-- A nested query in which two references see things without a name, the first
of them underneath a reference that is in order. -/
def misplacedReferences : Expr :=
  .select (.subquery "t0" ⟨1⟩)
    [.reference
        (.aliased
          (.reference (.constant (.text "O'Brien")) (.subquery "t1" ⟨2⟩)) "n")
        (.subquery "t2" ⟨3⟩),
      .reference (.parameter "p") (.subquery "t3" ⟨4⟩)]

/-- Reading complains of the innermost reference. -/
theorem misplacedReferences_refused :
    misplacedReferences.FloatFree ∧
      Expr.decode misplacedReferences.encode =
        .error (.illFormedReference "t1" (.constant (.text "O'Brien"))) ∧
      (DecodeError.illFormedReference "t1"
          (.constant (.text "O'Brien"))).message? =
        some "column reference into 't1' cannot wrap 'O''Brien'" := by
  have floatFree : misplacedReferences.FloatFree := by
    intro value part
    have inside := Expr.mem_postOrder_iff.mpr part
    simp [misplacedReferences, Expr.postOrder, Expr.postOrderItems] at inside
  have illFormed : ¬ ∀ inner scope,
      Expr.Part (.reference inner scope) misplacedReferences →
        inner.isReferenceable = true := by
    intro all
    have part : Expr.Part (.reference (.constant (.text "O'Brien"))
        (.subquery "t1" ⟨2⟩)) misplacedReferences :=
      Expr.mem_postOrder_iff.mp (List.mem_of_getElem? (i := 1) rfl)
    cases all _ _ part
  obtain ⟨-, refused, -⟩ := decode_encode_of_any_tree floatFree
  obtain ⟨inner, scope, first, fault, -⟩ := refused illFormed
  cases first
  exact ⟨floatFree, fault, by decide⟩

end ScopedQuery
