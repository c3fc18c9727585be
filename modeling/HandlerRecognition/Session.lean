import HandlerRecognition.Catalog.Builtin
import HandlerRecognition.Resolution.Resolver

/-!
# Sessions

A `Session` holds records, groups of templates, handlers and a configuration
while they are being edited. `Session.report` builds the store and the catalog
anew and, if both can be built, resolves all handlers.
-/

namespace HandlerRecognition

/-- A change of a list. -/
inductive Edit (α : Type) where
  | append (item : α)
  | replace (index : Nat) (item : α)
  | remove (index : Nat)

/-- The list after a change. A change of an index past the end has no
effect. -/
def Edit.apply {α : Type} : Edit α → List α → List α
  | .append item, items => items ++ [item]
  | .replace index item, items => items.set index item
  | .remove index, items => items.eraseIdx index

/-- Everything that is being edited. -/
structure Session where
  records : List Record
  /-- The templates, in the groups in which they were added. -/
  templates : List (List Template)
  handlers : List Handler
  config : Config

inductive Step where
  | records (edit : Edit Record)
  | templates (edit : Edit (List Template))
  | handlers (edit : Edit Handler)
  | config (config : Config)

structure SessionReport where
  store : Except RecordFault Store
  catalog : Except CatalogFault Catalog
  /-- The outcomes, if the store and the catalog could be built. -/
  resolution? : Option Resolution

namespace Session

def empty : Session := ⟨[], [], [], .standard⟩

def apply (s : Session) : Step → Session
  | .records edit => { s with records := edit.apply s.records }
  | .templates edit => { s with templates := edit.apply s.templates }
  | .handlers edit => { s with handlers := edit.apply s.handlers }
  | .config config => { s with config := config }

/-- The store, the catalog and the outcomes. -/
def report (s : Session) : SessionReport :=
  let store := Store.build s.records
  let catalog := Catalog.build s.templates.flatten
  let resolution? :=
    match store, catalog with
    | .ok store, .ok catalog =>
      some ((Resolver.mk catalog store s.config).resolve s.handlers)
    | _, _ => none
  ⟨store, catalog, resolution?⟩

def reports (s : Session) : List Step → List SessionReport
  | [] => []
  | step :: steps =>
    let next := s.apply step
    next.report :: next.reports steps

end Session

end HandlerRecognition
