/-!
# Written types

The type of a field as a declaration writes it. Only what names a type is kept: paths with their
arguments, and tuples. Other forms of types are told apart and no more.
-/

namespace RowMap

inductive TypeExpr
  /-- Names with two colons between them, each with its arguments. An argument that is no type is
  none. -/
  | path (segments : List (String × List (Option TypeExpr)))
  | tuple (parts : List TypeExpr)
  | array
  | slice
  | reference
  /-- Functions, pointers, interfaces and whatever else has no name. -/
  | other

namespace TypeExpr

/-- The type inside an optional type: the first argument of a path that ends in `Option`. -/
def optional? : TypeExpr → Option TypeExpr
  | .path segments =>
    match segments.getLast? with
    | some ("Option", some inner :: _) => some inner
    | _ => none
  | _ => none

/-! ## Writing -/

mutual

/-- The text that describes a type. Arguments that are no types are left out. -/
def text : TypeExpr → String
  | .path segments => "::".intercalate (segmentTexts segments)
  | .tuple parts => "(" ++ ", ".intercalate (partTexts parts) ++ ")"
  | .array => "array"
  | .slice => "slice"
  | .reference => "reference"
  | .other => "unknown"

def segmentTexts : List (String × List (Option TypeExpr)) → List String
  | [] => []
  | (name, arguments) :: rest =>
    let inside := argumentTexts arguments
    (if inside.isEmpty then name else name ++ "<" ++ ", ".intercalate inside ++ ">") ::
      segmentTexts rest

def argumentTexts : List (Option TypeExpr) → List String
  | [] => []
  | none :: rest => argumentTexts rest
  | some t :: rest => text t :: argumentTexts rest

def partTexts : List TypeExpr → List String
  | [] => []
  | t :: rest => text t :: partTexts rest

end

end TypeExpr

end RowMap
