import HandlerRecognition.Proofs.Matching.Similarity
import HandlerRecognition.Proofs.Matching.Simulation
import HandlerRecognition.Proofs.Metadata.Renumbering

/-!
# Renumbering sites

When the tokens of a store and of a body are renumbered alike, each question a
verifier asks of a site has the renumbered answer. Names, signatures and counts
of fields have no tokens in them, so inspections decide as before, and the
helpers of a renumbered site are the renumbered helpers. Renumbering therefore
is a simulation between sites.
-/

namespace HandlerRecognition

variable (p : Renumbering)

namespace Environment

def renumber (env : Environment) : Environment :=
  { env with store := env.store.renumber p }

theorem descend?_renumber (env : Environment) :
    (env.renumber p).descend? = env.descend?.map (renumber p) := by
  by_cases h : env.depth < env.maxDepth <;> simp [descend?, renumber, h]

end Environment

namespace Site

def renumber (s : Site) : Site :=
  ⟨s.env.renumber p, s.body.renumber p, s.start⟩

@[simp] theorem catalog_renumber (s : Site) :
    (s.renumber p).env.catalog = s.env.catalog := rfl

@[simp] theorem store_renumber (s : Site) :
    (s.renumber p).env.store = s.env.store.renumber p := rfl

variable (s : Site) (offset : Nat)

@[simp] theorem instruction?_renumber :
    (s.renumber p).instruction? offset =
      (s.instruction? offset).map (Instruction.renumber p) :=
  Body.getElem?_renumber p s.body _

@[simp] theorem methodToken?_renumber :
    (s.renumber p).methodToken? offset = (s.methodToken? offset).map p := by
  simp [methodToken?, Option.bind_map, Option.map_bind]

@[simp] theorem method?_renumber :
    (s.renumber p).method? offset =
      (s.method? offset).map (MethodRecord.renumber p) := by
  simp [method?, Option.bind_map, Option.map_bind]

@[simp] theorem member?_renumber :
    (s.renumber p).member? offset =
      (s.member? offset).map (MemberRecord.renumber p) := by
  simp [member?, Option.bind_map, Option.map_bind, Option.bind_assoc]

@[simp] theorem field?_renumber :
    (s.renumber p).field? offset =
      (s.field? offset).map (FieldRecord.renumber p) := by
  simp [field?, Option.bind_map, Option.map_bind, Option.bind_assoc]

@[simp] theorem constructedType?_renumber :
    (s.renumber p).constructedType? offset =
      (s.constructedType? offset).map (TypeRecord.renumber p) := by
  simp [constructedType?, Option.filter_map, Option.bind_map, Option.map_bind,
    Option.bind_assoc, Function.comp_def]

@[simp] theorem returnsType_renumber (typeName : String) :
    (s.renumber p).returnsType offset typeName =
      s.returnsType offset typeName := by
  simp [returnsType, Option.any_map]

@[simp] theorem takesTypes_renumber (typeNames : List String) :
    (s.renumber p).takesTypes offset typeNames =
      s.takesTypes offset typeNames := by
  simp [takesTypes, Option.any_map]

theorem helper?_renumber (name : String) :
    (s.renumber p).helper? offset name =
      (s.helper? offset name).map fun (t, body) => (t, body.renumber p) := by
  simp [helper?, Option.bind_map, Option.map_bind, Function.comp_def]

end Site

namespace Inspection

theorem isWrapperBase_renumber (t : TypeRecord) :
    isWrapperBase (t.renumber p) = isWrapperBase t := by
  simp [isWrapperBase]

theorem wrapsOnly_renumber (valueName : String) (t : TypeRecord) :
    wrapsOnly valueName (t.renumber p) = wrapsOnly valueName t := by
  rw [wrapsOnly, wrapsOnly, TypeRecord.fields_renumber]
  generalize t.fields = fields
  match fields with
  | [] => rfl
  | [f] => rfl
  | _ :: _ :: _ => rfl

theorem constructsWrapper_renumber (s : Site) (valueName : String) :
    constructsWrapper (s.renumber p) valueName =
      constructsWrapper s valueName := by
  simp [constructsWrapper, Option.any_map, wrapsOnly_renumber,
    isWrapperBase_renumber]

theorem called?_renumber (s : Site) (offset : Nat) :
    called? (s.renumber p) offset = called? s offset := by
  simp [called?, Function.comp_def]

theorem holds_renumber (i : Inspection) (s : Site) :
    i.holds (s.renumber p) = i.holds s := by
  cases i <;>
    simp [holds, Option.any_map, constructsWrapper_renumber, readsThrough,
      called?_renumber]

end Inspection

namespace Site

/-- Verdicts do not tell a site from the renumbered one. -/
theorem simulation_renumber :
    Simulation (fun _ => True) fun s s' => s' = s.renumber p where
  budget h := by
    subst h
    rfl
  fitsAt h _ := by
    subst h
    refine Template.fitsAt_congr (Template.indifferent_eq _) ?_ _
    rw [List.forall₂_eq_eq_eq]
    exact (Body.opcodes_renumber p _).symm
  holds h i := by
    subst h
    exact (i.holds_renumber p _).symm
  helper? {s s'} h offset name := by
    subst h
    rw [helper?_renumber]
    cases s.helper? offset name with
    | none => exact .none
    | some a =>
        obtain ⟨t, body⟩ := a
        refine .some ⟨rfl, trivial, (body.length_renumber p).symm, ?_⟩
        intro deeper deeper' start hd hd'
        change (s.env.renumber p).descend? = _ at hd'
        rw [Environment.descend?_renumber, hd] at hd'
        obtain rfl := Option.some.inj hd'
        rfl

end Site

/-- So a template has the same attempt in a renumbered body. -/
theorem Environment.attempt_renumber (env : Environment) (t : Template)
    (body : Body) :
    Matcher.attempt (env.renumber p).verifies t (body.renumber p) =
      Matcher.attempt env.verifies t body :=
  ((Site.simulation_renumber p).attempt_eq trivial
    (body.length_renumber p).symm fun _ => rfl).symm

end HandlerRecognition
