import ExceptionFlow.Hierarchy.Depth
import ExceptionFlow.Node

set_option autoImplicit false

/-! # Useless tags

A tag is useless when it repeats another tag, or when it names a subtype of another tag's type and
says nothing about it. A subtype with a description documents a special failure and is kept. -/

namespace ExceptionFlow.TagFinding

variable (H : Hierarchy)

/-- Whether a tag adds nothing to the useful types. -/
def isUseless (useful : List ClassName) (tag : ThrowsTag) : Bool :=
  useful.any (fun seen => H.isSameClass seen tag.type) ||
    (!tag.isDescribed && useful.any (fun seen => H.isSubclass tag.type seen))

/-- The useless types among tags, given the useful ones before them. -/
def uselessAmong (useful : List ClassName) : List ThrowsTag → List ClassName
  | [] => []
  | tag :: rest =>
    if isUseless H useful tag then tag.type :: uselessAmong useful rest
    else uselessAmong (useful ++ [tag.type]) rest

/-- The useless types, supertypes first. Of tags for one class the first written is the useful one.
    -/
def uselessTypes (tags : List ThrowsTag) : List ClassName :=
  uselessAmong H [] (H.sortSupertypesFirst ThrowsTag.type tags)

end ExceptionFlow.TagFinding
