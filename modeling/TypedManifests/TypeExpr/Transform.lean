/-
Module: TypedManifests.TypeExpr.Transform
Purpose: Changing a type from the leaves to the root: the parts of a node are changed first, then
  the rebuilt node is offered to the rule.
Main exports: transform, offered
-/
import TypedManifests.TypeExpr.Basic

namespace TypedManifests.TypeExpr

mutual

/-- The type after `rule` was applied to every node, the parts of a node before the node. -/
def transform (rule : TypeExpr → TypeExpr) : TypeExpr → TypeExpr
  | .scalar name => rule (.scalar name)
  | .optional t => rule (.optional (transform rule t))
  | .list t => rule (.list (transform rule t))
  | .record fields => rule (.record (transformFields rule fields))

def transformFields (rule : TypeExpr → TypeExpr) :
    List (String × TypeExpr) → List (String × TypeExpr)
  | [] => []
  | (label, t) :: rest => (label, transform rule t) :: transformFields rule rest

end

mutual

/-- The nodes that `transform` offers to `rule`, in the order in which it does. -/
def offered (rule : TypeExpr → TypeExpr) : TypeExpr → List TypeExpr
  | .scalar name => [.scalar name]
  | .optional t => offered rule t ++ [.optional (transform rule t)]
  | .list t => offered rule t ++ [.list (transform rule t)]
  | .record fields => offeredFields rule fields ++ [.record (transformFields rule fields)]

def offeredFields (rule : TypeExpr → TypeExpr) : List (String × TypeExpr) → List TypeExpr
  | [] => []
  | (_, t) :: rest => offered rule t ++ offeredFields rule rest

end

end TypedManifests.TypeExpr
