import CssInline.Proofs.Grammar.Statement

/-! Declarations, imports and exports keep to their text. -/

namespace CssInline.Code.Grammar

open Placed

/-! Imports and exports of names -/

section Names

variable {start : Cursor} {within : Within}

@[simp] theorem keeps_importFrom (typeOnly : Bool) : Keeps start (importFrom within typeOnly) := by
  unfold importFrom
  repeat' first | with_reducible refine Keeps.bind ?_ fun _ _ => ?_ | split | simp_all

@[simp] theorem keeps_bareImport : Keeps start (bareImport within) := by
  unfold bareImport
  repeat' first | with_reducible refine Keeps.bind ?_ fun _ _ => ?_ | split | simp_all

@[simp] theorem keeps_importAlias : Keeps start (importAlias within) := by
  unfold importAlias
  repeat' first | with_reducible refine Keeps.bind ?_ fun _ _ => ?_ | split | simp_all

@[simp] theorem keeps_importDeclaration : Keeps start (importDeclaration within) := by
  unfold importDeclaration
  repeat' first | with_reducible refine Keeps.bind ?_ fun _ _ => ?_ | split | simp_all

@[simp] theorem keeps_exportedNames (typeOnly : Bool) :
    Keeps start (exportedNames within typeOnly) := by
  unfold exportedNames
  repeat' first | with_reducible refine Keeps.bind ?_ fun _ _ => ?_ | split | simp_all

@[simp] theorem keeps_exportAll : Keeps start (exportAll within) := by
  unfold exportAll
  repeat' first | with_reducible refine Keeps.bind ?_ fun _ _ => ?_ | split | simp_all

end Names

variable {start : Cursor} {rules : Rules} {within : Within}

/-! Declarations -/

@[simp] theorem keeps_interface : Keeps start (interface rules within) := by
  unfold interface
  repeat' first | with_reducible refine Keeps.bind ?_ fun _ _ => ?_ | split | simp_all

variable [Keeping rules]

@[simp] theorem keeps_typeAlias : Keeps start (typeAlias rules within) := by
  unfold typeAlias
  repeat' first | with_reducible refine Keeps.bind ?_ fun _ _ => ?_ | split | simp_all

@[simp] theorem keeps_enumMember : Keeps start (enumMember rules within) := by
  unfold enumMember
  repeat' first | with_reducible refine Keeps.bind ?_ fun _ _ => ?_ | split | simp_all

@[simp] theorem keeps_enumeration : Keeps start (enumeration rules within) := by
  unfold enumeration
  repeat' first | with_reducible refine Keeps.bind ?_ fun _ _ => ?_ | split | simp_all

@[simp] theorem keeps_namespaceBlock (keyword : String) :
    Keeps start (namespaceBlock rules within keyword) := by
  unfold namespaceBlock
  repeat' first | with_reducible refine Keeps.bind ?_ fun _ _ => ?_ | split | simp_all

@[simp] theorem keeps_abstractClass : Keeps start (abstractClass rules within) := by
  unfold abstractClass
  repeat' first | with_reducible refine Keeps.bind ?_ fun _ _ => ?_ | split | simp_all

@[simp] theorem keeps_ambient : Keeps start (ambient rules within) := by
  unfold ambient
  repeat' first | with_reducible refine Keeps.bind ?_ fun _ _ => ?_ | split | simp_all

@[simp] theorem keeps_typeDeclaration? : Keeps start (typeDeclaration? rules within) := by
  unfold typeDeclaration?
  repeat' first | with_reducible refine Keeps.bind ?_ fun _ _ => ?_ | split | simp_all

@[simp] theorem keeps_functionDeclaration (named : Bool) :
    Keeps start (functionDeclaration rules within named) := by
  unfold functionDeclaration
  repeat' first | with_reducible refine Keeps.bind ?_ fun _ _ => ?_ | split | simp_all

@[simp] theorem keeps_classDeclaration (named : Bool) :
    Keeps start (classDeclaration rules within named) := by
  unfold classDeclaration
  repeat' first | with_reducible refine Keeps.bind ?_ fun _ _ => ?_ | split | simp_all

@[simp] theorem keeps_declaration? : Keeps start (declaration? rules within) := by
  unfold declaration?
  repeat' first | with_reducible refine Keeps.bind ?_ fun _ _ => ?_ | split | simp_all

@[simp] theorem keeps_plainItem : Keeps start (plainItem rules within) := by
  unfold plainItem
  repeat' first | with_reducible refine Keeps.bind ?_ fun _ _ => ?_ | split | simp_all

@[simp] theorem keeps_item : Keeps start (item rules within) := by
  unfold item
  repeat' first | with_reducible refine Keeps.bind ?_ fun _ _ => ?_ | split | simp_all

/-! Exports of declarations -/

@[simp] theorem keeps_exportDefault : Keeps start (exportDefault rules within) := by
  unfold exportDefault
  repeat' first | with_reducible refine Keeps.bind ?_ fun _ _ => ?_ | split | simp_all

@[simp] theorem keeps_exportItem : Keeps start (exportItem rules within) := by
  unfold exportItem
  repeat' first | with_reducible refine Keeps.bind ?_ fun _ _ => ?_ | split | simp_all

@[simp] theorem keeps_plainModuleItem : Keeps start (plainModuleItem rules within) := by
  unfold plainModuleItem
  repeat' first | with_reducible refine Keeps.bind ?_ fun _ _ => ?_ | split | simp_all

@[simp] theorem keeps_moduleItem : Keeps start (moduleItem rules within) := by
  unfold moduleItem
  repeat' first | with_reducible refine Keeps.bind ?_ fun _ _ => ?_ | split | simp_all

end CssInline.Code.Grammar
