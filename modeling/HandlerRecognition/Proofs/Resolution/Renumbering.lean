import HandlerRecognition.Proofs.Matching.Renumbering
import HandlerRecognition.Proofs.Resolution.Comparison

/-!
# Renumbered batches

The rows of metadata tables are numbered as a compiler or an obfuscator sees
fit, and recognition does not depend on it. If the records and the handlers are
renumbered alike, then the records build a store as before, the same identifiers
are in conflict, and every handler has the same outcome. An outcome has no
tokens in it, so the resolutions are equal.
-/

namespace HandlerRecognition

variable (p : Renumbering)

namespace Handler

def renumber (h : Handler) : Handler :=
  { h with body? := h.body?.map (Body.renumber p) }

@[simp] theorem id_renumber (h : Handler) : (h.renumber p).id = h.id := rfl

@[simp] theorem body?_renumber (h : Handler) :
    (h.renumber p).body? = h.body?.map (Body.renumber p) := rfl

theorem withId_renumber (handlers : List Handler) (id : HandlerId) :
    withId (handlers.map (renumber p)) id =
      (withId handlers id).map (renumber p) := by
  simp [withId, List.filter_map, Function.comp_def]

end Handler

def Submission.renumber (s : Submission) : Submission :=
  { s with handler := s.handler.renumber p }

/-- What is kept of renumbered handlers is what was kept, renumbered. Renumbered
bodies differ if and only if the bodies did. -/
theorem Batch.find?_ofHandlers_renumber (handlers : List Handler)
    (id : HandlerId) :
    (ofHandlers (handlers.map (Handler.renumber p))).find? id =
      ((ofHandlers handlers).find? id).map (Submission.renumber p) := by
  rw [find?_ofHandlers, find?_ofHandlers, Handler.withId_renumber]
  cases Handler.withId handlers id with
  | nil => rfl
  | cons first others =>
      simp [Submission.renumber, List.any_map, Function.comp_def,
        Body.same?_renumber]

namespace Resolver

def renumber (r : Resolver) : Resolver :=
  { r with store := r.store.renumber p }

variable (r : Resolver)

theorem trials_renumber (body : Body) :
    (r.renumber p).trials (body.renumber p) = r.trials body := by
  have henv : (r.renumber p).environment = r.environment.renumber p := rfl
  simp only [trials, trialsBy, Matcher.trials, henv,
    Environment.attempt_renumber]
  rfl

theorem resolveOne_renumber (h : Handler) :
    (r.renumber p).resolveOne (h.renumber p) = r.resolveOne h := by
  rw [resolveOne, resolveOne, resolveOneBy, resolveOneBy,
    Handler.body?_renumber]
  cases h.body? with
  | none => rfl
  | some body =>
      have htrials := r.trials_renumber p body
      rw [trials, trials] at htrials
      simp only [Option.map_some, Body.isEmpty_renumber, Handler.id_renumber,
        htrials]

theorem resolve_map_renumber (handlers : List Handler) :
    (r.renumber p).resolve (handlers.map (Handler.renumber p)) =
      r.resolve handlers := by
  refine resolve_eq_of_outcomes fun id => ?_
  have houtcome (s : Submission) :
      (r.renumber p).outcomeOf (s.renumber p) = r.outcomeOf s := by
    rw [outcomeOf, outcomeOf, ← r.resolveOne_renumber p]
    rfl
  rw [Batch.find?_ofHandlers_renumber, Option.map_map]
  exact congrArg (Option.map · _) (funext houtcome)

/-- Renumbering the tokens of all records and of all handler bodies keeps
whether the records build a store, renumbers their fault if they do not, and
keeps the resolution if they do. -/
theorem resolve_renumber (p : Renumbering) (records : List Record) :
    ((∃ s', Store.build (records.map (Record.renumber p)) = .ok s') ↔
        ∃ s, Store.build records = .ok s) ∧
      (∀ fault, Store.build records = .error fault →
        Store.build (records.map (Record.renumber p)) =
          .error (fault.renumber p)) ∧
      ∀ s s', Store.build records = .ok s →
        Store.build (records.map (Record.renumber p)) = .ok s' →
        ∀ (c : Catalog) (config : Config) (handlers : List Handler),
          (Resolver.mk c s' config).resolve
              (handlers.map (Handler.renumber p)) =
            (Resolver.mk c s config).resolve handlers := by
  refine ⟨?_, fun _ => Store.build_renumber_of_error p, ?_⟩
  · cases hbuild : Store.build records with
    | ok s => simp [Store.build_renumber_of_ok p hbuild]
    | error fault => simp [Store.build_renumber_of_error p hbuild]
  · intro s s' hs hs' c config handlers
    rw [Store.build_renumber_of_ok p hs] at hs'
    obtain rfl := Except.ok.inj hs'
    exact (Resolver.mk c s config).resolve_map_renumber p handlers

/-- Two methods of which only one is a helper of the right shape. When they
change places, the handler has to be renumbered with them. -/
theorem resolve_renumber_exchanged_methods :
    let a : Token := .ofParts Token.methodTable 1
    let b : Token := .ofParts Token.methodTable 2
    let p : Renumbering := .exchange a b (by decide)
    let method (t : Token) (o : Opcode) : Record :=
      .method ⟨t, "", none, ⟨none, []⟩, some [⟨0, o, .none⟩]⟩
    let records : List Record := [method a .ret, method b .nop]
    let outer : Template :=
      Template.window "Outer" (some .nop) [.ldarg0, .callvirt]
    let c : Catalog := ⟨[outer.verifiedBy (.delegation .endsInterpreter),
      Template.window Builtin.enableReturnName none [.ret]], by decide⟩
    let s : Store := ⟨.ofList records, by decide⟩
    let g : Handler :=
      ⟨⟨7⟩, some [⟨0, .ldarg0, .none⟩, ⟨1, .callvirt, .token a⟩]⟩
    Store.build records = .ok s ∧
      Store.build (records.map (Record.renumber p)) = .ok (s.renumber p) ∧
      (Resolver.new c s).resolveOne g =
        .bound ⟨⟨7⟩, .nop, "Outer", 0, true⟩ ∧
      (Resolver.new c (s.renumber p)).resolveOne g =
        .unresolved (.rejected ["Outer"]) ∧
      (Resolver.new c (s.renumber p)).resolve [g.renumber p] =
        (Resolver.new c s).resolve [g] := by
  intro a b p method records outer c s g
  have hs : Store.build records = .ok s := Store.ofRecordSet_eq_ok_iff.mpr rfl
  have hs' : Store.build (records.map (Record.renumber p)) =
      .ok (s.renumber p) := Store.ofRecordSet_eq_ok_iff.mpr rfl
  obtain ⟨-, -, hresolve⟩ := resolve_renumber p records
  exact ⟨hs, hs', by decide, by decide,
    hresolve s (s.renumber p) hs hs' c .standard [g]⟩

end Resolver

end HandlerRecognition
