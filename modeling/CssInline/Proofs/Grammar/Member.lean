import CssInline.Proofs.Grammar.Basic

/-! Elements and the members of objects and classes keep to their text. -/

namespace CssInline.Code.Grammar

open Placed

variable {start : Cursor} {rules : Rules} [Keeping rules] {within : Within}

/-! Elements -/

@[simp] theorem keeps_markupString : Keeps start markupString := by
  unfold markupString
  repeat' first | with_reducible refine Keeps.bind ?_ fun _ _ => ?_ | split | simp_all

@[simp] theorem keeps_containerInside : Keeps start (containerInside rules within) := by
  unfold containerInside
  repeat' first | with_reducible refine Keeps.bind ?_ fun _ _ => ?_ | split | simp_all

@[simp] theorem keeps_attributeValue : Keeps start (attributeValue rules within) := by
  unfold attributeValue
  repeat' first | with_reducible refine Keeps.bind ?_ fun _ _ => ?_ | split | simp_all

@[simp] theorem keeps_markupAttribute : Keeps start (markupAttribute rules within) := by
  unfold markupAttribute
  repeat' first | with_reducible refine Keeps.bind ?_ fun _ _ => ?_ | split | simp_all

@[simp] theorem keeps_attributeList : Keeps start (attributeList rules within) := by
  unfold attributeList
  refine Keeps.iterate (fun _ _ => ?_) (by simp)
  repeat' first | with_reducible refine Keeps.bind ?_ fun _ _ => ?_ | split | simp_all

@[simp] theorem keeps_childStep {done : List Tree} (placed : isPlaced start done) :
    Keeps start (childStep rules within done) := by
  unfold childStep
  repeat' first | with_reducible refine Keeps.bind ?_ fun _ _ => ?_ | split | simp_all

@[simp] theorem keeps_element : Keeps start (element rules within) := by
  unfold element
  have content : Keeps start (Reader.iterate (childStep rules within) []) :=
    Keeps.iterate (fun _ placed => keeps_childStep placed) isPlaced_nil
  repeat' first | with_reducible refine Keeps.bind ?_ fun _ _ => ?_ | split | simp_all

/-! Objects -/

@[simp] theorem keeps_accessorCallable (accessor : Accessor) (tight : Bool) :
    Keeps start (accessorCallable rules within accessor tight) := by
  unfold accessorCallable
  repeat' first | with_reducible refine Keeps.bind ?_ fun _ _ => ?_ | split | simp_all

@[simp] theorem keeps_shorthandProperty : Keeps start (shorthandProperty rules within) := by
  unfold shorthandProperty
  repeat' first | with_reducible refine Keeps.bind ?_ fun _ _ => ?_ | split | simp_all

@[simp] theorem keeps_leadingKey : Keeps start (leadingKey rules within) := by
  unfold leadingKey
  repeat' first | with_reducible refine Keeps.bind ?_ fun _ _ => ?_ | split | simp_all

@[simp] theorem keeps_keyedProperty (isAsync isGenerator : Bool) {key : Tree}
    (placed : key.IsPlaced start) :
    Keeps start (keyedProperty rules within isAsync isGenerator key) := by
  unfold keyedProperty
  repeat' first
    | with_reducible refine Keeps.bindRule fun _ _ _ => ?_
    | with_reducible refine Keeps.bind ?_ fun _ _ => ?_
    | split
    | simp_all

@[simp] theorem keeps_accessorProperty (accessor : Accessor) :
    Keeps start (accessorProperty rules within accessor) := by
  unfold accessorProperty
  repeat' first | with_reducible refine Keeps.bind ?_ fun _ _ => ?_ | split | simp_all

@[simp] theorem keeps_property : Keeps start (property rules within) := by
  unfold property
  repeat' first
    | with_reducible refine Keeps.bindRule fun _ _ _ => ?_
    | with_reducible refine Keeps.bind ?_ fun _ _ => ?_
    | split
    | simp_all

@[simp] theorem keeps_object : Keeps start (object rules within) := by
  unfold object
  repeat' first | with_reducible refine Keeps.bind ?_ fun _ _ => ?_ | split | simp_all

/-! Classes -/

@[simp] theorem keeps_memberKeyTree : Keeps start (memberKeyTree rules within) := by
  unfold memberKeyTree
  repeat' first | with_reducible refine Keeps.bind ?_ fun _ _ => ?_ | split | simp_all

@[simp] theorem keeps_fieldFrom {key : Tree} (placed : key.IsPlaced start) (words : String) :
    Keeps start (fieldFrom rules within words key) := by
  unfold fieldFrom
  repeat' first | with_reducible refine Keeps.bind ?_ fun _ _ => ?_ | split | simp_all

@[simp] theorem keeps_accessorMember (words : String) (accessor : Accessor) :
    Keeps start (accessorMember rules within words accessor) := by
  unfold accessorMember
  repeat' first | with_reducible refine Keeps.bind ?_ fun _ _ => ?_ | split | simp_all

@[simp] theorem keeps_keyedMember (words : String) :
    Keeps start (keyedMember rules within words) := by
  unfold keyedMember
  repeat' first | with_reducible refine Keeps.bind ?_ fun _ _ => ?_ | split | simp_all

@[simp] theorem keeps_staticBlock : Keeps start (staticBlock rules within) := by
  unfold staticBlock
  repeat' first | with_reducible refine Keeps.bind ?_ fun _ _ => ?_ | split | simp_all

@[simp] theorem keeps_classMember : Keeps start (classMember rules within) := by
  unfold classMember
  repeat' first | with_reducible refine Keeps.bind ?_ fun _ _ => ?_ | split | simp_all

@[simp] theorem keeps_classBody : Keeps start (classBody rules within) := by
  unfold classBody
  repeat' first
    | with_reducible refine Keeps.bind ?_ fun _ _ => ?_
    | with_reducible refine Keeps.iterate (fun _ _ => ?_) ?_
    | split
    | simp_all

@[simp] theorem keeps_superclass : Keeps start (superclass rules within) := by
  unfold superclass
  repeat' first | with_reducible refine Keeps.bind ?_ fun _ _ => ?_ | split | simp_all

omit [Keeping rules] in
@[simp] theorem keeps_interfaces : Keeps start (interfaces rules within) := by
  unfold interfaces
  repeat' first | with_reducible refine Keeps.bind ?_ fun _ _ => ?_ | split | simp_all

@[simp] theorem keeps_classTree (named : Bool) : Keeps start (classTree rules within named) := by
  unfold classTree
  repeat' first | with_reducible refine Keeps.bind ?_ fun _ _ => ?_ | split | simp_all

end CssInline.Code.Grammar
