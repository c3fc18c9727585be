import HandlerRecognition.Template.Basic

/-!
# Catalogs

A `Catalog` is a list of templates in which every template has a slot and no two
share a name. `Catalog.fault?` is the first thing wrong with a list: templates
are examined in order, each for having a slot and then for having a new name.

Several templates of a catalog may have the same target. Templates are looked up
by name, and listed by target in the order of the catalog.
-/

namespace HandlerRecognition

inductive CatalogFault where
  /-- A template without a slot. -/
  | noSlots (name : String)
  /-- A template with the name of an earlier one. -/
  | repeatedName (name : String)
  deriving DecidableEq

def CatalogFault.message : CatalogFault → String
  | .noSlots name => "Template '" ++ name ++ "' has no slots"
  | .repeatedName name => "Template '" ++ name ++ "' is already registered"

namespace Catalog

/-- The fault of a template, given the names of the templates before it. -/
def templateFault? (seen : List String) (t : Template) : Option CatalogFault :=
  if t.isEmpty then some (.noSlots t.name)
  else if seen.contains t.name then some (.repeatedName t.name)
  else none

/-- The first fault of a list of templates, given the names of the templates
before it. -/
def fault? (seen : List String) : List Template → Option CatalogFault
  | [] => none
  | t :: ts =>
    match templateFault? seen t with
    | some fault => some fault
    | none => fault? (t.name :: seen) ts

end Catalog

/-- A list of templates without a fault. -/
structure Catalog where
  templates : List Template
  sound : Catalog.fault? [] templates = none

namespace Catalog

/-- The catalog of a list of templates, or the first fault of the list. -/
def build (templates : List Template) : Except CatalogFault Catalog :=
  match h : fault? [] templates with
  | none => .ok ⟨templates, h⟩
  | some fault => .error fault

def empty : Catalog := ⟨[], rfl⟩

def find? (c : Catalog) (name : String) : Option Template :=
  c.templates.find? fun t => t.name == name

/-- The templates that can bind a handler, in order. -/
def bound (c : Catalog) : List Template :=
  c.templates.filter fun t => !t.isInternal

/-- The templates with a target, in order. -/
def withTarget (c : Catalog) (o : Opcode) : List Template :=
  c.templates.filter fun t => t.target? == some o

/-- The targets of the templates, without repetition, in opcode order. -/
def targets (c : Catalog) : List Opcode :=
  Opcode.sorted (c.templates.filterMap Template.target?)

def size (c : Catalog) : Nat :=
  c.templates.length

theorem build_eq_error_iff {ts : List Template} {fault : CatalogFault} :
    build ts = .error fault ↔ fault? [] ts = some fault := by
  unfold build
  split <;> simp_all

theorem build_eq_ok_iff {ts : List Template} {c : Catalog} :
    build ts = .ok c ↔ c.templates = ts := by
  obtain ⟨templates, sound⟩ := c
  unfold build
  split
  · simp [eq_comm]
  · rename_i fault h
    simp only [reduceCtorEq, false_iff]
    rintro rfl
    simp [sound] at h

@[simp] theorem mem_targets {c : Catalog} {o : Opcode} :
    o ∈ c.targets ↔ ∃ t ∈ c.templates, t.target? = some o := by
  simp [targets]

end Catalog

end HandlerRecognition
