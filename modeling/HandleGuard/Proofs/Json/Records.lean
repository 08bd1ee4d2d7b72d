import HandleGuard.Json.Decode
import HandleGuard.Proofs.Lists

/-!
# Records in any order

An object says the same in whatever order its fields stand, and whatever else it holds under names
that nobody asks for.

* `Document.Record`            an object that holds given fields and others
* `Document.Record.record?_eq` what it is read as
* `Document.Record.untag`      the same for the fields beside a tag
-/

namespace HandleGuard.Json.Document

/-- The object with the given fields. -/
def ofFields (fields : List (String × Document)) : Document :=
  .object (fields.map fun f => (some f.1, f.2))

/-- An object that holds the fields `known` in any order. It may hold others too, under names that
are not among `names`, if their values are allowed. -/
inductive Record (Allowed : Document → Prop) (names : List String)
    (known : List (String × Document)) : Document → Prop where
  | fields {others written : List (String × Document)}
    (hothers : ∀ f ∈ others, f.1 ∉ names ∧ Allowed f.2) (hwritten : written.Perm (known ++ others)) :
    Record Allowed names known (ofFields written)

variable {Allowed : Document → Prop} {names : List String} {known : List (String × Document)}
  {d : Document}

/-! ### Looking fields up -/

theorem filter_eq_lookup (hnodup : (known.map Prod.fst).Nodup) (name : String) :
    known.filter (·.1 == name) = (known.lookup name).toList.map (name, ·) := by
  induction known with
  | nil => rfl
  | cons f known ih =>
    obtain ⟨key, value⟩ := f
    rw [List.map_cons, List.nodup_cons] at hnodup
    by_cases h : key = name
    · subst h
      -- The key occurs only once, so nothing is left to be found behind it.
      have hrest : known.filter (·.1 == key) = [] := by
        rw [List.filter_eq_nil_iff]
        rintro ⟨k, v⟩ hmem heq
        exact hnodup.1 (List.mem_map.mpr ⟨(k, v), hmem, eq_of_beq heq⟩)
      rw [List.filter_cons_of_pos (by simp), hrest, List.lookup_cons_self]
      rfl
    · rw [List.filter_cons_of_neg (by simpa using h), ih hnodup.2,
        List.lookup_cons, beq_eq_false_iff_ne.mpr (Ne.symm h)]

theorem pick_eq {written : List (String × Document)}
    (h : ∀ name ∈ names, written.filter (·.1 == name) = (known.lookup name).toList.map (name, ·)) :
    pick written names = some (names.map (known.lookup ·)) := by
  induction names with
  | nil => rfl
  | cons name names ih =>
    have hrest := ih fun n hn => h n (List.mem_cons_of_mem name hn)
    have hname := h name List.mem_cons_self
    rw [pick, hname, hrest, List.map_cons]
    cases known.lookup name <;> rfl

/-- A record is read as what its known fields hold, and the order does not matter. -/
theorem Record.record?_eq (hd : Record Allowed names known d)
    (hnodup : (known.map Prod.fst).Nodup) :
    d.record? names = some (names.map (known.lookup ·)) := by
  obtain ⟨hothers, hwritten⟩ := hd
  rename_i others written
  have hkeys := List.mapM_map_some (f := fun f : Option String × Document => f.1.map (·, f.2))
    (g := fun f => (some f.1, f.2)) (fun _ => rfl) written
  rw [ofFields, record?]
  refine (congrArg (·.bind (pick · names)) hkeys).trans (pick_eq fun name hname => ?_)
  have hunknown : others.filter (·.1 == name) = [] := by
    rw [List.filter_eq_nil_iff]
    rintro f hf heq
    exact (hothers f hf).1 (eq_of_beq heq ▸ hname)
  have hperm := hwritten.filter (·.1 == name)
  rw [List.filter_append, hunknown, List.append_nil, filter_eq_lookup hnodup] at hperm
  -- At most one field has that name, and such a list has no other order.
  cases hlookup : known.lookup name with
  | none => rw [hlookup] at hperm; exact hperm.eq_nil
  | some value => rw [hlookup] at hperm; exact List.perm_singleton.mp hperm

/-! ### Tags -/

/-- The field with a tag is found wherever it stands, and the rest is a record without it. -/
theorem Record.untag {tag : String} {value : Document}
    (hd : Record Allowed (tag :: names) ((tag, value) :: known) d) (htag : tag ∉ known.map Prod.fst) :
    ∃ fields, d = .object fields ∧ fields.filter (·.1 == some tag) = [(some tag, value)] ∧
      Record Allowed names known (.object (fields.filter (·.1 != some tag))) := by
  obtain ⟨hothers, hwritten⟩ := hd
  rename_i others written
  have hrest : ∀ f ∈ known ++ others, f.1 ≠ tag := by
    intro f hf heq
    obtain hf | hf := List.mem_append.mp hf
    · exact htag (List.mem_map.mpr ⟨f, hf, heq⟩)
    · exact (hothers f hf).1 (heq ▸ List.mem_cons_self)
  refine ⟨_, rfl, ?_, ?_⟩
  · have hnone : (known ++ others).filter (some ·.1 == some tag) = [] :=
      List.filter_eq_nil_iff.mpr fun f hf => by simpa using hrest f hf
    have hperm := hwritten.filter (some ·.1 == some tag)
    rw [List.cons_append, List.filter_cons_of_pos (by simp), hnone] at hperm
    rw [List.filter_map]
    exact congrArg (List.map _) (List.perm_singleton.mp hperm)
  · have hall : (known ++ others).filter (some ·.1 != some tag) = known ++ others :=
      List.filter_eq_self.mpr fun f hf => by simpa using hrest f hf
    have hperm := hwritten.filter (some ·.1 != some tag)
    rw [List.cons_append, List.filter_cons_of_neg (by simp), hall] at hperm
    have hknown : ∀ f ∈ others, f.1 ∉ names ∧ Allowed f.2 := fun f hf =>
      ⟨fun h => (hothers f hf).1 (List.mem_cons_of_mem tag h), (hothers f hf).2⟩
    rw [List.filter_map]
    exact .fields hknown hperm

/-! ### Holding records -/

theorem areHeld_iff {room : Nat} {ds : List Document} :
    areHeld room ds ↔ ∀ d ∈ ds, isHeld room d := by
  induction ds with
  | nil => simp [areHeld]
  | cons d ds ih => rw [areHeld, Bool.and_eq_true, ih, List.forall_mem_cons]

theorem isHeld_ofFields {room : Nat} {fields : List (String × Document)} :
    isHeld (room + 1) (ofFields fields) ↔ ∀ f ∈ fields, isHeld room f.2 := by
  have hfields : fieldsAreHeld room (fields.map fun f => (some f.1, f.2)) ↔
      ∀ f ∈ fields, isHeld room f.2 := by
    induction fields with
    | nil => simp [fieldsAreHeld]
    | cons f fields ih =>
      rw [List.map_cons, fieldsAreHeld, Bool.and_eq_true, ih, List.forall_mem_cons,
        Option.isSome_some, Bool.true_and]
  rw [ofFields, isHeld, Bool.and_eq_true, decide_eq_true_eq, Nat.add_sub_cancel, hfields]
  exact and_iff_right room.succ_pos

theorem Record.isHeld {room : Nat} (hd : Record (Document.isHeld room ·) names known d)
    (hknown : ∀ f ∈ known, Document.isHeld room f.2) : Document.isHeld (room + 1) d := by
  obtain ⟨hothers, hwritten⟩ := hd
  rw [isHeld_ofFields]
  intro f hf
  obtain hf | hf := List.mem_append.mp (hwritten.mem_iff.mp hf)
  · exact hknown f hf
  · exact (hothers f hf).2

end HandleGuard.Json.Document
