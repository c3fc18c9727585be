import HandlerRecognition.Catalog.Builtin

/-!
# Catalogs with an index

A `CatalogBuilder` collects templates, one at a time, in lists or as the table
of the built-in ones. `CatalogBuilder.build` goes through them once. It stops at
the first template that has no slot or has the name of an earlier one, and
otherwise leaves behind where templates stand, by name and by target. Positions
are indices into the list of templates, so a lookup never goes past the end.

Templates of one target are listed in the order in which they were added. The
order of the targets among each other means nothing.
-/

namespace HandlerRecognition

/-- Positions in a list of templates, by name and by target. -/
structure Catalog.Index (ts : List Template) where
  names : List (String × Fin ts.length)
  targets : List (Opcode × List (Fin ts.length))

namespace Catalog.Index

variable {ts : List Template}

def empty : Index ts := ⟨[], []⟩

def position? (x : Index ts) (name : String) : Option (Fin ts.length) :=
  x.names.lookup name

/-- The positions of the templates with a target. -/
def positions (x : Index ts) (o : Opcode) : List (Fin ts.length) :=
  (x.targets.lookup o).getD []

/-- One more value behind those under a key, or the first one. -/
def push {κ α : Type} [DecidableEq κ] (key : κ) (a : α) :
    List (κ × List α) → List (κ × List α)
  | [] => [(key, [a])]
  | e :: rest =>
    if e.1 = key then (key, e.2 ++ [a]) :: rest else e :: push key a rest

/-- The index with one more position, whatever is at it. -/
def insert (x : Index ts) (i : Fin ts.length) : Index ts where
  names := ((ts.get i).name, i) :: x.names
  targets :=
    match (ts.get i).target? with
    | some o => push o i x.targets
    | none => x.targets

/-- The index with one more position, if the template at it has a slot and a new
name. -/
def add (x : Index ts) (i : Fin ts.length) : Except CatalogFault (Index ts) :=
  if (ts.get i).isEmpty then .error (.noSlots (ts.get i).name)
  else if (x.position? (ts.get i).name).isSome then
    .error (.repeatedName (ts.get i).name)
  else .ok (x.insert i)

/-- The index with more positions, added one after the other. -/
def addAll (x : Index ts) :
    List (Fin ts.length) → Except CatalogFault (Index ts)
  | [] => .ok x
  | i :: rest =>
    match x.add i with
    | .ok x => x.addAll rest
    | .error fault => .error fault

/-- The index of all positions. -/
def build (ts : List Template) : Except CatalogFault (Index ts) :=
  empty.addAll (List.finRange ts.length)

end Catalog.Index

/-- Templates with an index of their positions. -/
structure IndexedCatalog where
  templates : List Template
  index : Catalog.Index templates

namespace IndexedCatalog

def find? (c : IndexedCatalog) (name : String) : Option Template :=
  (c.index.position? name).map c.templates.get

/-- The templates that can bind a handler, in order. -/
def bound (c : IndexedCatalog) : List Template :=
  c.templates.filter fun t => !t.isInternal

/-- The templates with a target, in order. -/
def withTarget (c : IndexedCatalog) (o : Opcode) : List Template :=
  (c.index.positions o).map c.templates.get

/-- The targets of the templates, without repetition, in opcode order. -/
def targets (c : IndexedCatalog) : List Opcode :=
  Opcode.sorted (c.index.targets.map Prod.fst)

end IndexedCatalog

/-- Templates that are added to a catalog in one go. -/
inductive Addition where
  | single (t : Template)
  | several (ts : List Template)
  /-- The table of the built-in templates. -/
  | builtin

def Addition.templates : Addition → List Template
  | .single t => [t]
  | .several ts => ts
  | .builtin => Builtin.templates

/-- The templates that were added so far. -/
structure CatalogBuilder where
  templates : List Template

namespace CatalogBuilder

def empty : CatalogBuilder := ⟨[]⟩

def add (b : CatalogBuilder) (addition : Addition) : CatalogBuilder :=
  ⟨b.templates ++ addition.templates⟩

def addAll (b : CatalogBuilder) (additions : List Addition) : CatalogBuilder :=
  additions.foldl add b

/-- The templates with their index, or the first fault. -/
def build (b : CatalogBuilder) : Except CatalogFault IndexedCatalog :=
  match Catalog.Index.build b.templates with
  | .ok index => .ok ⟨b.templates, index⟩
  | .error fault => .error fault

end CatalogBuilder

end HandlerRecognition
