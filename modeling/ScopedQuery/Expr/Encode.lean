/-
Module: ScopedQuery.Expr.Encode
Purpose: Expressions as JSON values.
Trusted boundary: agreement with the JSON forms that serde 1 derives is assumed,
  not proved
Main exports:
  Expr.encode, Select.encode
-/
import ScopedQuery.Expr.Basic
import ScopedQuery.Expr.NodeKind

namespace ScopedQuery

/-!
A node is an object whose only key is the tag of the node's kind.  All fields
of a record are written, in their order.
-/

namespace Expr

/-- The body of a node under its tag. -/
def tagged (kind : NodeKind) (body : Json) : Json :=
  .object [(kind.tag, body)]

mutual

/-- An expression as a JSON value. -/
def encode : Expr → Json
  | .column exposed => tagged .column exposed.encode
  | .aliased inner aliasName =>
      tagged .aliased
        (.object [("expr", inner.encode), ("alias", .text aliasName)])
  | .reference inner scope =>
      tagged .reference
        (.object [("expr", inner.encode), ("table", scope.encode)])
  | .nullable operand =>
      tagged .nullable (.object [("operand", operand.encode)])
  | .convert operand targetType =>
      tagged .convert
        (.object [("operand", operand.encode),
          ("target_type", .text targetType)])
  | .table marker => tagged .table marker.encode
  | .select scope projection =>
      tagged .select
        (.object [("table", scope.encode),
          ("projection", .array (encodeItems projection))])
  | .constant literal => tagged .constant literal.encode
  | .parameter name => tagged .parameter (.text name)
  | .other text => tagged .other (.text text)

/-- Expressions as JSON values, one by one. -/
def encodeItems : List Expr → List Json
  | [] => []
  | item :: items => item.encode :: encodeItems items

end

theorem encodeItems_eq_map (items : List Expr) :
    encodeItems items = items.map encode := by
  induction items with
  | nil => rfl
  | cons item items inductionHypothesis =>
      simp [encodeItems, inductionHypothesis]

end Expr

/-- A nested query as a JSON record. -/
def Select.encode (select : Select) : Json :=
  .object [("table", select.scope.encode),
    ("projection", .array (select.projection.map Expr.encode))]

end ScopedQuery
