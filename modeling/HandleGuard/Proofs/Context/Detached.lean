import HandleGuard.Proofs.Context.Alike
import HandleGuard.Proofs.Context.Forest

/-!
# Contexts out of their forest

A debug context lies in a forest among others, but only the contexts above it know of it. A call on
anything lower neither looks at it nor changes it (`respond_putContext`). So the context can be taken
out of the forest and stand beside it, with the forest as the state of its universal context, and
answers every call as it does in its place (`respond_detached`).
-/

namespace HandleGuard.Forest

variable {s : Forest} {i j : Nat} {c : AttachedContext} {d : DebugContext}

/-- Puts another debug context in the place of context `i`, before the same universal context. -/
def putContext (s : Forest) (i : Nat) (d : DebugContext) : Forest :=
  (context i).modify (fun _ => d) s

@[simp] theorem stores_putContext (s : Forest) (i : Nat) (d : DebugContext) :
    (s.putContext i d).stores = s.stores := rfl

@[simp] theorem size_putContext (s : Forest) (i : Nat) (d : DebugContext) :
    (s.putContext i d).contexts.size = s.contexts.size :=
  Array.size_setIfInBounds

theorem getElem?_putContext (hc : s.contexts[i]? = some c) (d : DebugContext) (j : Nat) :
    (s.putContext i d).contexts[j]? =
      if i = j then some { c with context := d } else s.contexts[j]? := by
  have hlt := (Array.getElem?_eq_some_iff.mp hc).1
  simp only [putContext, Focus.modify, context, hc, Option.getD_some, Array.getElem?_setIfInBounds,
    if_pos hlt]

theorem getElem?_putContext_ne (s : Forest) (d : DebugContext) (hij : i ≠ j) :
    (s.putContext i d).contexts[j]? = s.contexts[j]? :=
  Array.getElem?_setIfInBounds_ne hij

theorem putContext_self (hc : s.contexts[i]? = some c) : s.putContext i c.context = s := by
  have hcontexts : (s.putContext i c.context).contexts = s.contexts := by
    refine Array.ext_getElem? fun j => ?_
    rw [getElem?_putContext hc]
    split
    · rename_i hij
      rw [← hij, hc]
    · rfl
  calc s.putContext i c.context = ⟨s.stores, (s.putContext i c.context).contexts⟩ := rfl
    _ = s := by rw [hcontexts]

/-- What the focus does to a context that was put in its place. -/
theorem update_putContext (hlt : i < s.contexts.size) (d : DebugContext) {α : Type}
    (f : DebugContext → α × DebugContext) :
    (context i).update f (s.putContext i d) = ((f d).1, s.putContext i (f d).2) := by
  simp only [putContext, Focus.modify, context, Array.getElem?_setIfInBounds, if_pos hlt, if_true,
    Option.getD_some, Array.setIfInBounds_setIfInBounds]

/-- Other contexts do not notice it. -/
theorem update_putContext_ne (hij : i ≠ j) (s : Forest) (d : DebugContext) {α : Type}
    (f : DebugContext → α × DebugContext) :
    (context j).update f (s.putContext i d) =
      (((context j).update f s).1, ((context j).update f s).2.putContext i d) := by
  have hsame := getElem?_putContext_ne s d hij
  simp only [context, hsame]
  refine Prod.ext rfl ?_
  simp only [putContext, Focus.modify, context, Array.getElem?_setIfInBounds_ne hij.symm]
  rw [Array.setIfInBounds_comm _ _ hij]

theorem modify_putContext (hlt : i < s.contexts.size) (d : DebugContext)
    (f : DebugContext → DebugContext) :
    (context i).modify f (s.putContext i d) = s.putContext i (f d) := by
  rw [Focus.modify, update_putContext hlt]

theorem modify_putContext_ne (hij : i ≠ j) (s : Forest) (d : DebugContext)
    (f : DebugContext → DebugContext) :
    (context j).modify f (s.putContext i d) = ((context j).modify f s).putContext i d := by
  rw [Focus.modify, update_putContext_ne hij]
  rfl

/-- A call on something lower than context `i` does not notice what is in its place. -/
theorem respond_putContext {ref : ContextRef} (hlow : height ref < height (.debug i))
    (d : DebugContext) (r : Request) (s : Forest) :
    respond ref r (s.putContext i d) = ((respond ref r s).1, (respond ref r s).2.putContext i d) := by
  -- Induction on the height: a context passes calls on to a lower one.
  induction hheight : height ref using Nat.strongRecOn generalizing ref r s with
  | ind n ih =>
    cases ref with
    | store k =>
      simp only [respond, stores_putContext]
      cases s.stores[k]? <;> rfl
    | debug j =>
      have hij : i ≠ j := by
        simp only [height] at hlow
        omega
      simp only [respond, getElem?_putContext_ne s d hij]
      cases s.contexts[j]? with
      | none => rfl
      | some c =>
        dsimp only
        by_cases hlt : height c.universal < height (.debug j)
        · have halike : DebugContext.Alike (fun _ a a' => a = a') (context j)
              (respond c.universal) (context j) (respond c.universal)
              fun s' s => s' = s.putContext i d := {
            conveys := .eq
            hook := by
              rintro _ s rfl
              rw [Focus.get, update_putContext_ne hij]
              rfl
            table := by
              rintro op _ s rfl
              rw [update_putContext_ne hij]
              exact ⟨rfl, rfl⟩
            record := by
              rintro e _ s rfl
              exact modify_putContext_ne hij s d _
            noteHook := by
              rintro e _ s rfl
              exact modify_putContext_ne hij s d _
            noteCall := by
              rintro _ a _ rfl _ s rfl
              exact modify_putContext_ne hij s d _
            universal := by
              rintro r _ s rfl
              rw [ih _ (hheight ▸ hlt) (Nat.lt_trans hlt hlow) r s rfl]
              exact ⟨rfl, rfl⟩ }
          rw [if_pos hlt, if_pos hlt]
          obtain ⟨hanswer, hstate⟩ := halike.respond rfl r
          exact Prod.ext hanswer hstate
        · rw [if_neg hlt, if_neg hlt]

/-- A context answers in its forest as it does beside it. -/
theorem respond_detached (hc : s.contexts[i]? = some c)
    (hlow : height c.universal < height (.debug i)) (r : Request) :
    let p := DebugContext.respond .first (Universal.beside (respond c.universal)) r (c.context, s)
    respond (.debug i) r s = (p.1, p.2.2.putContext i p.2.1) := by
  let R : Forest → DebugContext × Forest → Prop := fun s p =>
    i < p.2.contexts.size ∧ s = p.2.putContext i p.1
  have halike : DebugContext.Alike (fun _ a a' => a = a') (context i) (respond c.universal)
      Focus.first (Universal.beside (respond c.universal)) R := {
    conveys := .eq
    hook := by
      rintro _ ⟨d, s⟩ ⟨hlt, rfl⟩
      rw [Focus.get, update_putContext hlt]
      rfl
    table := by
      rintro op _ ⟨d, s⟩ ⟨hlt, rfl⟩
      rw [update_putContext hlt]
      exact ⟨rfl, hlt, rfl⟩
    record := by
      rintro e _ ⟨d, s⟩ ⟨hlt, rfl⟩
      exact ⟨hlt, modify_putContext hlt d _⟩
    noteHook := by
      rintro e _ ⟨d, s⟩ ⟨hlt, rfl⟩
      exact ⟨hlt, modify_putContext hlt d _⟩
    noteCall := by
      rintro _ a _ rfl _ ⟨d, s⟩ ⟨hlt, rfl⟩
      exact ⟨hlt, modify_putContext hlt d _⟩
    universal := by
      rintro r _ ⟨d, s⟩ ⟨hlt, rfl⟩
      rw [respond_putContext hlow]
      exact ⟨rfl, (respond_evolves c.universal r s).size_eq ▸ hlt, rfl⟩ }
  have hself : R s (c.context, s) :=
    ⟨(Array.getElem?_eq_some_iff.mp hc).1, (putContext_self hc).symm⟩
  obtain ⟨hanswer, -, hstate⟩ := halike.respond hself r
  have hrespond : respond (.debug i) r s =
      DebugContext.respond (context i) (respond c.universal) r s := by
    simp only [respond, hc]
    rw [if_pos hlow]
  rw [hrespond]
  exact Prod.ext hanswer hstate

end HandleGuard.Forest
