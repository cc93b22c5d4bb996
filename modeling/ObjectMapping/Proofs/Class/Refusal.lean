import ObjectMapping.Proofs.Class.PlainStorage

/-!
# Refused stores

Storing an attribute can be refused at many places: by guards, by the class, by a
package. None of them has changed anything by then
(`ClassTable.writeAttribute_failsCleanly`), as long as packages refuse cleanly. What
can fail midway is code of a property alone, and a model whose constructor never
prepared it. `ClassTable.AnswersStoring` names these two.
-/

namespace ObjectMapping

namespace ClassTable

variable {classes : ClassTable Code} {r : Instance} {address : Nat} {name : String} {v : Value}
  {w : World}

theorem putAttribute_failsCleanly : (putAttribute address name v).FailsCleanly w := by
  refine .bind (Run.ends_object? address w) ?_
  split
  · exact .of_ends (Run.ends_replace _ _ w)
  · exact .of_throw _

theorem putOpen_failsCleanly : (classes.putOpen address r name v).FailsCleanly w := by
  rw [putOpen]
  split
  · exact putAttribute_failsCleanly
  · exact .of_throw _

theorem changeClass_failsCleanly : (classes.changeClass address r v).FailsCleanly w := by
  fun_cases changeClass classes address r v
  case case1 => exact .of_ends (Run.ends_replace _ _ w)
  all_goals exact .of_throw _

theorem storeUnguarded_failsCleanly [Packages] (lawful : Packages.RefusesCleanly)
    (found : w.heap.get? address = some (.record r))
    (noCode : ∀ p, (classes.changed w.changes).member? r.classId name ≠ some (.property p)) :
    (classes.storeUnguarded (.object address) name v).FailsCleanly w := by
  refine .bind (now_ends classes w) (.bind (Run.ends_object? address w) ?_)
  simp only [found]
  cases member : (classes.changed w.changes).member? r.classId name with
  | none =>
    simp only
    split
    · exact changeClass_failsCleanly
    · exact putOpen_failsCleanly
  | some m =>
    cases m with
    | property p => exact absurd member (noCode p)
    | slot => exact putAttribute_failsCleanly
    | column => exact lawful.column found
    | collection => exact lawful.collection found
    | constant | abstractMethod => exact putOpen_failsCleanly

/-- A property of a class was one before the changes. -/
theorem Outlasts.member?_eq_property {β : Type} [Inhabited β] {table later : ClassTable β}
    (outlasts : table.Outlasts later) {c : ClassId} {name : String} {p : Property β}
    (found : later.member? c name = some (.property p)) :
    table.member? c name = some (.property p) := by
  simp only [member?_eq, outlasts.lineage] at found ⊢
  generalize (table.info c).lineage = lineage at found ⊢
  induction lineage with
  | nil => cases found
  | cons ancestor rest ih =>
    simp only [List.map_cons, List.findSome?_cons] at found ⊢
    rcases outlasts.members ancestor name with same | ⟨shared, added⟩
    · rw [same] at found
      cases own : Entries.get? (table.info ancestor).members name with
      | none => exact ih (by simpa only [own] using found)
      | some m => simpa only [own] using found
    · rw [added] at found
      cases found

theorem storeGuarded_failsCleanly [Packages] (lawful : Packages.RefusesCleanly)
    (found : w.heap.get? address = some (.record r))
    (noCode : ∀ p, (classes.changed w.changes).member? r.classId name ≠ some (.property p))
    {line : List (ClassInfo Code)}
    (prepared : ∀ ancestor ∈ line, ancestor.guard? = some .model → r.isPrepared = true) :
    (classes.storeGuarded r address name v line).FailsCleanly w := by
  induction line with
  | nil => exact storeUnguarded_failsCleanly lawful found noCode
  | cons ancestor rest ih =>
    have later := ih fun other mem => prepared other (List.mem_cons_of_mem _ mem)
    rw [storeGuarded]
    cases guard : ancestor.guard? with
    | none => exact later
    | some guard' =>
      cases guard' with
      | frozenSlotted => exact lawful.frozen
      | frozenRecord fields isSlotted =>
        dsimp only
        split
        · exact .of_throw _
        split
        · exact .of_throw _
        · exact later
      | model =>
        dsimp only
        split
        · exact lawful.model found (prepared _ List.mem_cons_self guard)
            (storeUnguarded_failsCleanly lawful found noCode)
        · exact storeUnguarded_failsCleanly lawful found noCode

theorem storeOnType_failsCleanly (t : TypeExpr) : (storeOnType name v t).FailsCleanly w := by
  have ends (c : ClassId) : (Run.change c (.stored name v)).Ends w () {
    w with changes := w.changes ++ [(c, .stored name v)] } := rfl
  fun_induction storeOnType name v t
  case case1 => exact .of_ends (ends _)
  all_goals first | assumption | exact .of_throw _ | exact .of_ends (Run.ends_pure _ _)

/-- Code of its own answers when the attribute of a value is stored: the setter of a
property, or that of a model that was never prepared. -/
def AnswersStoring (classes : ClassTable Code) (w : World) (target : Value) (name : String) :
    Prop :=
  ∃ address r, target = .object address ∧ w.heap.get? address = some (.record r) ∧
    ((∃ p, (classes.changed w.changes).member? r.classId name = some (.property p)) ∨
      r.isPrepared = false ∧
        ∃ ancestor ∈ (classes.changed w.changes).line r.classId, ancestor.guard? = some .model)

/-- Storing an attribute that fails has changed nothing, unless code of its own
answers. -/
theorem writeAttribute_failsCleanly [Packages] (lawful : Packages.RefusesCleanly) {target : Value}
    (silent : ¬ classes.AnswersStoring w target name) :
    (classes.writeAttribute target name v).FailsCleanly w := by
  refine .bind (now_ends classes w) ?_
  cases target with
  | object address =>
    refine .bind (Run.ends_object? address w) ?_
    cases found : w.heap.get? address with
    | none => exact .of_throw _
    | some object =>
      cases object with
      | record r =>
        refine storeGuarded_failsCleanly lawful found ?_ ?_
        · intro p property
          have earlier := (outlasts_changed _ w.changes).member?_eq_property property
          exact silent ⟨address, r, rfl, found, .inl ⟨p, earlier⟩⟩
        · intro ancestor mem guard
          cases prepared : r.isPrepared with
          | true => rfl
          | false =>
            exact absurd ⟨address, r, rfl, found, .inr ⟨prepared, ancestor, mem, guard⟩⟩ silent
      | _ => exact .of_throw _
  | type t making =>
    dsimp only
    split
    · exact .of_throw _
    · exact storeOnType_failsCleanly t
  | _ => exact .of_throw _

end ClassTable

end ObjectMapping
