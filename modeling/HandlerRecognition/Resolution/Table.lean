import HandlerRecognition.Resolution.Handler

/-!
# Tables by identifier

A `Table` holds values under the identifiers of handlers, at most one value
under each, and lists them by ascending identifier. `Table.revise` is the only
way in which a table grows or changes: it replaces what is held under one
identifier, or puts something there if nothing is. A table is determined by what
can be found in it.
-/

namespace HandlerRecognition

/-- Values by ascending identifier. -/
structure Table (α : Type) where
  entries : List (HandlerId × α)
  ascending : entries.Pairwise fun a b => a.1 < b.1
  deriving DecidableEq

namespace Table

variable {α β : Type}

def empty : Table α := ⟨[], .nil⟩

def find? (t : Table α) (id : HandlerId) : Option α :=
  (t.entries.find? fun e => e.1 == id).map Prod.snd

/-- The identifiers that have a value, in ascending order. -/
def keys (t : Table α) : List HandlerId :=
  t.entries.map Prod.fst

def size (t : Table α) : Nat :=
  t.entries.length

/-- An ascending list with the value under an identifier replaced by what
`change` makes of it. If there is none, the new value goes to its place. -/
def reviseEntries (id : HandlerId) (change : Option α → α) :
    List (HandlerId × α) → List (HandlerId × α)
  | [] => [(id, change none)]
  | e :: rest =>
    if id < e.1 then (id, change none) :: e :: rest
    else if id = e.1 then (id, change (some e.2)) :: rest
    else e :: reviseEntries id change rest

theorem key_of_mem_reviseEntries {id : HandlerId} {change : Option α → α}
    {entries : List (HandlerId × α)} {e : HandlerId × α}
    (h : e ∈ reviseEntries id change entries) : e.1 = id ∨ e ∈ entries := by
  induction entries with
  | nil => simp_all [reviseEntries]
  | cons first rest ih =>
      unfold reviseEntries at h
      grind

theorem ascending_reviseEntries {id : HandlerId} {change : Option α → α}
    {entries : List (HandlerId × α)}
    (h : entries.Pairwise fun a b => a.1 < b.1) :
    (reviseEntries id change entries).Pairwise fun a b => a.1 < b.1 := by
  induction entries with
  | nil => simp [reviseEntries]
  | cons first rest ih =>
      obtain ⟨hfirst, hrest⟩ := List.pairwise_cons.mp h
      unfold reviseEntries
      split
      case isTrue hlt =>
          refine List.pairwise_cons.mpr ⟨fun e he => ?_, h⟩
          rcases List.mem_cons.mp he with rfl | he
          · exact hlt
          · exact HandlerId.lt_trans hlt (hfirst e he)
      case isFalse hlt =>
          split
          case isTrue heq =>
              subst heq
              exact List.pairwise_cons.mpr ⟨hfirst, hrest⟩
          case isFalse hne =>
              refine List.pairwise_cons.mpr ⟨fun e he => ?_, ih hrest⟩
              rcases key_of_mem_reviseEntries he with hid | he
              · rw [hid]
                exact HandlerId.lt_of_not_lt_of_ne hlt hne
              · exact hfirst e he

/-- The table with the value under an identifier replaced by what `change` makes
of it. -/
def revise (t : Table α) (id : HandlerId) (change : Option α → α) : Table α :=
  ⟨reviseEntries id change t.entries, ascending_reviseEntries t.ascending⟩

/-- The table with a value under an identifier, whatever was there. -/
def insert (t : Table α) (id : HandlerId) (value : α) : Table α :=
  t.revise id fun _ => value

def map (f : α → β) (t : Table α) : Table β where
  entries := t.entries.map fun e => (e.1, f e.2)
  ascending := List.pairwise_map.mpr t.ascending

@[simp] theorem find?_empty (id : HandlerId) :
    (empty : Table α).find? id = none := rfl

/-- Nothing but the value under the one identifier is changed. -/
theorem find?_revise (t : Table α) (id other : HandlerId)
    (change : Option α → α) :
    (t.revise id change).find? other =
      if other = id then some (change (t.find? id)) else t.find? other := by
  obtain ⟨entries, h⟩ := t
  simp only [revise, find?]
  induction entries with
  | nil => grind [reviseEntries]
  | cons first rest ih =>
      obtain ⟨hfirst, hrest⟩ := List.pairwise_cons.mp h
      -- Whatever is below the first identifier is not listed at all.
      have hsmaller (hlt : id < first.1) :
          (first :: rest).find? (fun e => e.1 == id) = none := by
        refine List.find?_eq_none.mpr fun e he => ?_
        have hle : id < e.1 := by
          rcases List.mem_cons.mp he with rfl | he
          · exact hlt
          · exact HandlerId.lt_trans hlt (hfirst e he)
        simpa using (HandlerId.ne_of_lt hle).symm
      unfold reviseEntries
      split
      case isTrue hlt =>
          rw [hsmaller hlt]
          grind
      case isFalse hlt =>
          grind

theorem mem_entries_iff {t : Table α} {id : HandlerId} {value : α} :
    (id, value) ∈ t.entries ↔ t.find? id = some value := by
  obtain ⟨entries, h⟩ := t
  simp only [find?]
  induction entries with
  | nil => simp
  | cons first rest ih =>
      obtain ⟨hfirst, hrest⟩ := List.pairwise_cons.mp h
      by_cases hid : first.1 = id
      · have hlater : (id, value) ∉ rest := fun hmem =>
          HandlerId.ne_of_lt (hfirst _ hmem) hid
        grind
      · grind

theorem mem_keys_iff {t : Table α} {id : HandlerId} :
    id ∈ t.keys ↔ (t.find? id).isSome := by
  simp [keys, Option.isSome_iff_exists, ← mem_entries_iff]

theorem nodup_keys (t : Table α) : t.keys.Nodup :=
  List.pairwise_map.mpr (t.ascending.imp HandlerId.ne_of_lt)

theorem nodup_entries (t : Table α) : t.entries.Nodup :=
  t.ascending.imp fun hlt heq => HandlerId.ne_of_lt hlt (congrArg Prod.fst heq)

/-- A table is determined by what is found in it. -/
theorem ext_find? {t t' : Table α} (h : ∀ id, t.find? id = t'.find? id) :
    t = t' := by
  have hperm : t.entries.Perm t'.entries := by
    refine (List.perm_ext_iff_of_nodup t.nodup_entries t'.nodup_entries).mpr ?_
    rintro ⟨id, value⟩
    rw [mem_entries_iff, mem_entries_iff, h]
  have hentries : t.entries = t'.entries := by
    refine hperm.eq_of_pairwise (fun a b _ _ hab hba => ?_) t.ascending
      t'.ascending
    exact absurd (HandlerId.lt_trans hab hba) (HandlerId.lt_irrefl _)
  obtain ⟨entries, _⟩ := t
  subst hentries
  rfl

@[simp] theorem find?_map (f : α → β) (t : Table α) (id : HandlerId) :
    (t.map f).find? id = (t.find? id).map f := by
  simp only [map, find?, List.find?_map, Option.map_map]
  rfl

@[simp] theorem size_map (f : α → β) (t : Table α) :
    (t.map f).size = t.size := by
  simp [size, map]

@[simp] theorem length_keys (t : Table α) : t.keys.length = t.size := by
  simp [keys, size]

@[simp] theorem find?_insert (t : Table α) (id other : HandlerId) (value : α) :
    (t.insert id value).find? other =
      if other = id then some value else t.find? other :=
  t.find?_revise id other _

end Table

end HandlerRecognition
