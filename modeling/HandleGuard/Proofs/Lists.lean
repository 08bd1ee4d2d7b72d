/-!
# List lemmas

Generic lemmas about listings by position, association lists, maps that may fail, last elements and
lists appended pair by pair, which the proofs about tables, stores and logs need and the library does
not have.
-/

namespace List

variable {α β : Type}

/-! ## Listings by position -/

/-- A listing changes with the element at one position as that element says, and the other
elements say what they said before. -/
theorem filterMap_zipIdx_set (f : α × Nat → Option β) {l : List α} {i : Nat} {a : α}
    (hi : l[i]? = some a) :
    ∃ rest, (l.zipIdx.filterMap f).Perm ((f (a, i)).toList ++ rest) ∧
      ∀ b, ((l.set i b).zipIdx.filterMap f).Perm ((f (b, i)).toList ++ rest) := by
  obtain ⟨hlt, rfl⟩ := getElem?_eq_some_iff.mp hi
  refine ⟨(l.take i).zipIdx.filterMap f ++ ((l.drop (i + 1)).zipIdx (i + 1)).filterMap f, ?_⟩
  have hset : ∀ b, ((l.set i b).zipIdx.filterMap f).Perm ((f (b, i)).toList ++
      ((l.take i).zipIdx.filterMap f ++ ((l.drop (i + 1)).zipIdx (i + 1)).filterMap f)) := by
    intro b
    have hlen : (l.take i).length = i := length_take_of_le (by omega)
    rw [set_eq_take_append_cons_drop, if_pos hlt, zipIdx_append, zipIdx_cons, hlen, Nat.zero_add,
      filterMap_append, ← append_assoc]
    cases hf : f (b, i) with
    | none => simp [hf]
    | some c => simp [hf]
  -- The list itself is the one that has its own element set.
  refine ⟨?_, hset⟩
  have hself := hset l[i]
  rwa [set_getElem_self] at hself

/-- What a listing says comes in the order of the positions. -/
theorem pairwise_filterMap_zipIdx (f : α × Nat → Option β) {l : List α} {R : β → β → Prop}
    (hlt : ∀ {i j : Nat} {a b : α} {c d : β}, i < j → l[i]? = some a → l[j]? = some b →
      f (a, i) = some c → f (b, j) = some d → R c d) : (l.zipIdx.filterMap f).Pairwise R := by
  have hpositions : l.zipIdx.Pairwise fun p q => p.2 < q.2 := by
    rw [← pairwise_map, zipIdx_map_snd]
    exact pairwise_lt_range'
  rw [pairwise_filterMap]
  refine hpositions.imp_of_mem fun {p q} hp hq hpq c hc d hd => ?_
  rw [mem_zipIdx_iff_getElem?] at hp hq
  exact hlt hpq hp hq hc hd

/-- A listing in which no two positions say the same has no duplicates. -/
theorem nodup_filterMap_zipIdx (f : α × Nat → Option β) {l : List α}
    (hinj : ∀ {i j : Nat} {a b : α} {c : β}, l[i]? = some a → l[j]? = some b →
      f (a, i) = some c → f (b, j) = some c → i = j) : (l.zipIdx.filterMap f).Nodup := by
  refine pairwise_filterMap_zipIdx f fun {i j a b c d} hij hi hj hc hd heq => ?_
  subst heq
  exact Nat.ne_of_lt hij (hinj hi hj hc hd)

theorem toList_append_filterMap (f : α → Option β) (a : α) (l : List α) :
    (f a).toList ++ l.filterMap f = (a :: l).filterMap f := by
  rw [filterMap_cons]
  cases f a <;> rfl

/-! ## Association lists -/

/-- Look-up finds the entry of a key that occurs once. -/
theorem lookup_of_mem [BEq α] [LawfulBEq α] {l : List (α × β)} (hnodup : (l.map Prod.fst).Nodup)
    {a : α} {b : β} (hmem : (a, b) ∈ l) : l.lookup a = some b := by
  obtain ⟨l₁, l₂, rfl⟩ := append_of_mem hmem
  rw [map_append, map_cons, nodup_append] at hnodup
  refine lookup_eq_some_iff.mpr ⟨l₁, l₂, rfl, fun p hp => bne_iff_ne.mpr ?_⟩
  exact (hnodup.2.2 p.1 (mem_map_of_mem hp) a mem_cons_self).symm

/-- Look-up in a list whose entries are mapped. -/
theorem lookup_map_snd [BEq α] {γ : Type} (f : β → γ) (l : List (α × β)) (a : α) :
    (l.map fun p => (p.1, f p.2)).lookup a = (l.lookup a).map f := by
  induction l with
  | nil => rfl
  | cons p l ih =>
    rw [map_cons, lookup_cons, lookup_cons, ih]
    cases a == p.1 <;> rfl

/-- Look-up after entries were taken out by their keys. -/
theorem lookup_filter_fst [BEq α] [LawfulBEq α] (q : α → Bool) (l : List (α × β)) (a : α) :
    (l.filter fun p => q p.1).lookup a = if q a then l.lookup a else none := by
  induction l with
  | nil => simp
  | cons p l ih =>
    rw [filter_cons, lookup_cons]
    cases heq : a == p.1 with
    | false =>
      -- Another key: whether it stays makes no difference.
      split
      · rw [lookup_cons, heq, ih]
      · exact ih
    | true =>
      rw [← eq_of_beq heq]
      split
      · rw [lookup_cons, heq]
      · rename_i hq
        rw [ih, if_neg hq]

/-- What is found by look-up is in the list. -/
theorem mem_of_lookup [BEq α] [LawfulBEq α] {l : List (α × β)} {a : α} {b : β}
    (h : l.lookup a = some b) : (a, b) ∈ l := by
  obtain ⟨l₁, l₂, rfl, -⟩ := lookup_eq_some_iff.mp h
  exact mem_append_right l₁ mem_cons_self

/-! ## Maps that may fail -/

/-- Either every element has an image, and they make up the result, or the first element without one
fails as the whole. -/
theorem mapM_except {ε : Type} (f : α → Except ε β) (l : List α) :
    match l.mapM f with
    | .ok bs => ∀ a ∈ l, ∃ b ∈ bs, f a = .ok b
    | .error e => ∃ l₁ a l₂, l = l₁ ++ a :: l₂ ∧ (∀ b ∈ l₁, ∃ c, f b = .ok c) ∧ f a = .error e := by
  induction l with
  | nil => exact fun _ h => absurd h not_mem_nil
  | cons a l ih =>
    rw [mapM_cons]
    cases ha : f a with
    | error e => exact ⟨[], a, l, rfl, fun _ h => absurd h not_mem_nil, ha⟩
    | ok b =>
      cases hl : l.mapM f with
      | error e =>
        rw [hl] at ih
        obtain ⟨l₁, a', l₂, rfl, hbefore, ha'⟩ := ih
        exact ⟨a :: l₁, a', l₂, rfl, forall_mem_cons.mpr ⟨⟨b, ha⟩, hbefore⟩, ha'⟩
      | ok bs =>
        rw [hl] at ih
        refine forall_mem_cons.mpr ⟨⟨b, mem_cons_self, ha⟩, fun a' hmem => ?_⟩
        obtain ⟨b', hmem', ha'⟩ := ih a' hmem
        exact ⟨b', mem_cons_of_mem b hmem', ha'⟩

/-- The first element without an image fails as the whole. -/
theorem mapM_eq_error {ε : Type} {f : α → Except ε β} {l₁ l₂ : List α} {a : α} {e : ε}
    (hbefore : ∀ b ∈ l₁, ∃ c, f b = .ok c) (ha : f a = .error e) :
    (l₁ ++ a :: l₂).mapM f = .error e := by
  induction l₁ with
  | nil =>
    rw [nil_append, mapM_cons, ha]
    rfl
  | cons b l₁ ih =>
    obtain ⟨⟨c, hb⟩, hrest⟩ := forall_mem_cons.mp hbefore
    rw [cons_append, mapM_cons, hb, ih hrest]
    rfl

/-- What has an inverse is undone element by element. -/
theorem mapM_map_some {f : β → Option α} {g : α → β} (h : ∀ a, f (g a) = some a) (l : List α) :
    (l.map g).mapM f = some l := by
  induction l with
  | nil => rfl
  | cons a l ih =>
    rw [map_cons, mapM_cons, h, ih]
    rfl

/-! ## Last elements -/

/-- The last element of a list is in each part that reaches to its end. -/
theorem mem_cons_of_concat_eq {l l₁ l₂ : List α} {a b : α} (h : l ++ [a] = l₁ ++ b :: l₂) :
    a ∈ b :: l₂ := by
  have hlast := congrArg getLast? h
  rw [getLast?_concat, getLast?_append, getLast?_cons, Option.some_or] at hlast
  rw [← getLast?_cons] at hlast
  exact mem_of_getLast? hlast.symm

/-- Of the last `n` elements and more, the last `n` are those of the whole list. -/
theorem drop_length_sub_append (l l' : List α) (n : Nat) :
    (l.drop (l.length - n) ++ l').drop ((l.drop (l.length - n) ++ l').length - n) =
      (l ++ l').drop ((l ++ l').length - n) := by
  rw [← drop_append_of_le_length (Nat.sub_le l.length n), drop_drop]
  congr 1
  simp only [length_drop, length_append]
  omega

/-! ## Lists appended pair by pair -/

theorem length_flatten_zipWith_append {ls ks : List (List α)} (h : ls.length = ks.length) :
    (zipWith (· ++ ·) ls ks).flatten.length = ls.flatten.length + ks.flatten.length := by
  induction ls generalizing ks with
  | nil =>
    rw [eq_nil_of_length_eq_zero h.symm]
    rfl
  | cons l ls ih =>
    obtain _ | ⟨k, ks⟩ := ks
    · cases h
    · have hrest := ih (Nat.succ.inj h)
      simp only [zipWith_cons_cons, flatten_cons, length_append] at hrest ⊢
      omega

theorem flatten_sublist_zipWith_append {ls ks : List (List α)} (h : ls.length = ks.length) :
    ks.flatten.Sublist (zipWith (· ++ ·) ls ks).flatten := by
  induction ls generalizing ks with
  | nil =>
    rw [eq_nil_of_length_eq_zero h.symm]
    exact nil_sublist _
  | cons l ls ih =>
    obtain _ | ⟨k, ks⟩ := ks
    · cases h
    · rw [zipWith_cons_cons, flatten_cons, flatten_cons]
      exact (sublist_append_right l k).append (ih (Nat.succ.inj h))

end List
