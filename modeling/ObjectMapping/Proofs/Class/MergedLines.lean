import ObjectMapping.Class.Linearization

/-!
# Merged lines

The line of a class is merged from the lines of its bases and from the bases
themselves. If there is a line at all that holds these in their order, the merge is one
(`Mergeable.sublist_mergeLines`): taking the first head that stands behind nothing never
runs into a dead end. Where there is none, the merge stops early.
-/

namespace ObjectMapping

/-- There is a line without repetitions that holds all the given lines in their order. -/
def Mergeable (lines : List (List ClassId)) : Prop :=
  ∃ order : List ClassId, order.Nodup ∧ ∀ line ∈ lines, line.Sublist order

/-- The lines that the line of a class with some bases is merged from. -/
def linesBehind (bases : List ClassId) (lineOf : ClassId → List ClassId) : List (List ClassId) :=
  bases.map lineOf ++ [bases]

variable {lines : List (List ClassId)} {steps : Nat} {c : ClassId}

/-! ## The next class -/

theorem standsBehind_eq_false_iff :
    standsBehind lines c = false ↔ ∀ line ∈ lines, c ∉ line.drop 1 := by
  simp only [standsBehind, List.any_eq_false, List.contains_iff_mem]

/-- The next class leads some line and stands behind no class in any. -/
theorem of_nextOfLines?_eq_some (next : nextOfLines? lines = some c) :
    (∃ rest, c :: rest ∈ lines) ∧ ∀ line ∈ lines, c ∉ line.drop 1 := by
  obtain ⟨line, mem, found⟩ := List.exists_of_findSome?_eq_some next
  split at found
  · cases found
  · next head rest =>
    split at found
    · cases found
    · next inFront =>
      cases found
      exact ⟨⟨rest, mem⟩, standsBehind_eq_false_iff.mp (eq_false_of_ne_true inFront)⟩

/-- Among lines that can be merged there is a next class until all of them are used up. -/
theorem exists_nextOfLines? (mergeable : Mergeable lines) {line : List ClassId}
    (mem : line ∈ lines) (more : line ≠ []) : ∃ c, nextOfLines? lines = some c := by
  obtain ⟨order, distinct, all⟩ := mergeable
  induction order with
  | nil => exact absurd (List.sublist_nil.mp (all line mem)) more
  | cons first order ih =>
    rw [List.nodup_cons] at distinct
    -- The first class of the order is the next one, unless no line holds it.
    have tail {line : List ClassId} (mem : line ∈ lines) : (line.drop 1).Sublist order :=
      List.drop_one ▸ (all line mem).tail
    by_cases leads : ∃ rest, first :: rest ∈ lines
    · obtain ⟨rest, led⟩ := leads
      have inFront : standsBehind lines first = false :=
        standsBehind_eq_false_iff.mpr fun line mem within => distinct.1 ((tail mem).subset within)
      refine Option.isSome_iff_exists.mp (List.findSome?_isSome_iff.mpr ⟨_, led, ?_⟩)
      simp [inFront]
    · refine ih distinct.2 fun line mem => ?_
      rcases List.sublist_cons_iff.mp (all line mem) with without | ⟨rest, rfl, -⟩
      · exact without
      · exact absurd ⟨rest, mem⟩ leads

/-! ## The merge -/

/-- Merging adds nothing. -/
theorem exists_of_mem_mergeLines (mem : c ∈ mergeLines steps lines) : ∃ line ∈ lines, c ∈ line := by
  induction steps generalizing lines with
  | zero => cases mem
  | succ steps ih =>
    rw [mergeLines] at mem
    split at mem
    · cases mem
    · next next isNext =>
      rcases List.mem_cons.mp mem with rfl | later
      · obtain ⟨⟨rest, led⟩, -⟩ := of_nextOfLines?_eq_some isNext
        exact ⟨_, led, List.mem_cons_self⟩
      · obtain ⟨left, isLeft, within⟩ := ih later
        obtain ⟨line, mem, rfl⟩ := List.mem_map.mp isLeft
        exact ⟨line, mem, (List.mem_filter.mp within).1⟩

/-- A class that stands behind no other is the first of a line or not in it at all. -/
theorem sublist_cons_of_filter {line merged : List ClassId} (inFront : c ∉ line.drop 1)
    (left : (line.filter (· != c)).Sublist merged) : line.Sublist (c :: merged) := by
  cases line with
  | nil => exact List.nil_sublist _
  | cons head rest =>
    have others : rest.filter (· != c) = rest :=
      List.filter_eq_self.mpr fun other mem => bne_iff_ne.mpr fun same => inFront (same ▸ mem)
    by_cases isHead : head = c
    · subst isHead
      rw [List.filter_cons_of_neg (by simp), others] at left
      exact left.cons_cons head
    · rw [List.filter_cons_of_pos (by simpa using isHead), others] at left
      exact left.cons c

/-- What can be merged is merged as a whole, given enough steps. -/
theorem Mergeable.sublist_mergeLines (mergeable : Mergeable lines)
    (enough : lines.flatten.length ≤ steps) {line : List ClassId} (mem : line ∈ lines) :
    line.Sublist (mergeLines steps lines) := by
  induction steps generalizing lines line with
  | zero =>
    have none : lines.flatten = [] := List.length_eq_zero_iff.mp (by omega)
    rw [List.flatten_eq_nil_iff.mp none line mem]
    exact List.nil_sublist _
  | succ steps ih =>
    by_cases more : line = []
    · rw [more]
      exact List.nil_sublist _
    obtain ⟨c, isNext⟩ := exists_nextOfLines? mergeable mem more
    obtain ⟨⟨rest, led⟩, inFront⟩ := of_nextOfLines?_eq_some isNext
    rw [mergeLines, isNext]
    refine sublist_cons_of_filter (inFront line mem) (ih ?_ ?_ (List.mem_map_of_mem mem))
    · obtain ⟨order, distinct, all⟩ := mergeable
      refine ⟨order, distinct, fun left isLeft => ?_⟩
      obtain ⟨line, mem, rfl⟩ := List.mem_map.mp isLeft
      exact List.filter_sublist.trans (all line mem)
    · have fewer : (lines.flatten.filter (· != c)).length < lines.flatten.length :=
        List.length_filter_lt_length_iff_exists.mpr
          ⟨c, List.mem_flatten_of_mem led List.mem_cons_self, by simp⟩
      rw [List.filter_flatten] at fewer
      exact Nat.le_of_lt_succ (Nat.lt_of_lt_of_le fewer enough)

/-! ## The line of a class -/

section Linearize

variable {bases : List ClassId} {lineOf : ClassId → List ClassId}
  (mergeable : Mergeable (linesBehind bases lineOf))

include mergeable

/-- Behind a class stand its bases in the order in which they are declared, and those that
are behind a base in their order there. -/
theorem sublist_linearize {line : List ClassId} (mem : line ∈ linesBehind bases lineOf) :
    line.Sublist ((linearize c bases lineOf).drop 1) := by
  cases bases with
  | nil =>
    obtain rfl : line = [] := List.mem_singleton.mp mem
    exact List.nil_sublist _
  | cons base others => exact mergeable.sublist_mergeLines (Nat.le_refl _) mem

/-- A class has itself, its bases and all that are behind these in its line. -/
theorem mem_linearize_iff (some : bases ≠ []) {x : ClassId} :
    x ∈ linearize c bases lineOf ↔ x = c ∨ ∃ base ∈ bases, x = base ∨ x ∈ lineOf base := by
  have isLine : linearize c bases lineOf = c :: (linearize c bases lineOf).drop 1 := by
    cases bases with
    | nil => exact absurd rfl some
    | cons base others => rfl
  rw [isLine, List.mem_cons]
  refine or_congr_right ⟨fun behind => ?_, ?_⟩
  · have merged : x ∈ mergeLines (linesBehind bases lineOf).flatten.length
        (linesBehind bases lineOf) := by
      cases bases with
      | nil => exact absurd rfl some
      | cons base others => exact behind
    obtain ⟨line, mem, within⟩ := exists_of_mem_mergeLines merged
    rcases List.mem_append.mp mem with ofBase | isBases
    · obtain ⟨base, isBase, rfl⟩ := List.mem_map.mp ofBase
      exact ⟨base, isBase, .inr within⟩
    · obtain rfl := List.mem_singleton.mp isBases
      exact ⟨x, within, .inl rfl⟩
  · rintro ⟨base, isBase, rfl | within⟩
    · exact (sublist_linearize mergeable (by simp [linesBehind])).subset isBase
    · exact (sublist_linearize mergeable
        (List.mem_append_left _ (List.mem_map_of_mem isBase))).subset within

end Linearize

end ObjectMapping
