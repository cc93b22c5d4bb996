import ObjectMapping.Collection.Entries

/-!
# Looking up entries

What is found under a key after maps were merged, filtered or put into another
form. Looking up stops at the first entry with a key. Putting entries one after
another leaves the value of the last one, so that a merged map reads as expected
only where the map that is put has no key twice.
-/

namespace ObjectMapping.Entries

variable {κ ν μ : Type} [BEq κ] [LawfulBEq κ]

/-- A changed map reads as before but for the changed key. -/
theorem get?_alter [DecidableEq κ] (change : Option ν → ν) (entries : Entries κ ν)
    (key other : κ) :
    get? (alter change entries key) other =
      if key = other then some (change (get? entries other)) else get? entries other := by
  split
  · next same =>
    subst same
    exact get?_alter_self change entries key
  · next apart => exact get?_alter_of_ne change entries apart

/-- Nothing is found under a key that no entry has. -/
theorem get?_eq_none_iff (entries : Entries κ ν) (key : κ) :
    get? entries key = none ↔ key ∉ keys entries := by
  rw [← contains_iff_mem_keys, contains]
  cases get? entries key <;> simp

/-- Where no key is there twice, the entries are what is found. -/
theorem mem_iff_get? {entries : Entries κ ν} (distinct : (keys entries).Nodup) (key : κ)
    (value : ν) : (key, value) ∈ entries ↔ get? entries key = some value :=
  ⟨get?_eq_some_of_mem distinct, mem_of_get?_eq_some⟩

/-- Putting a value under a key adds no other entry. -/
theorem mem_of_mem_put {entries : Entries κ ν} {key : κ} {value : ν} {entry : κ × ν}
    (mem : entry ∈ put entries key value) : entry = (key, value) ∨ entry ∈ entries := by
  induction entries with
  | nil => exact .inl (List.mem_singleton.mp mem)
  | cons first rest ih =>
    obtain ⟨k, v⟩ := first
    rw [put, alter] at mem
    split at mem
    · next same =>
      rw [eq_of_beq same] at mem
      exact (List.mem_cons.mp mem).imp_right (List.mem_cons_of_mem _)
    · rcases List.mem_cons.mp mem with rfl | later
      · exact .inr List.mem_cons_self
      · exact (ih later).imp_right (List.mem_cons_of_mem _)

/-- A merged map has no entries but those of both. -/
theorem mem_of_mem_merge {first second : Entries κ ν} {entry : κ × ν}
    (mem : entry ∈ merge first second) : entry ∈ first ∨ entry ∈ second := by
  induction second generalizing first with
  | nil => exact .inl mem
  | cons added rest ih =>
    rcases ih mem with put | later
    · rcases mem_of_mem_put put with rfl | earlier
      · exact .inr List.mem_cons_self
      · exact .inl earlier
    · exact .inr (List.mem_cons_of_mem _ later)

/-- A merged map has the values of the second map, and behind them those of the first. -/
theorem get?_merge [DecidableEq κ] (first : Entries κ ν) {second : Entries κ ν}
    (distinct : (keys second).Nodup) (key : κ) :
    get? (merge first second) key = (get? second key).or (get? first key) := by
  induction second generalizing first with
  | nil => rfl
  | cons entry rest ih =>
    obtain ⟨k, v⟩ := entry
    obtain ⟨notLater, distinctRest⟩ := List.nodup_cons.mp distinct
    show get? (merge (put first k v) rest) key = _
    rw [ih (put first k v) distinctRest, put, get?_alter]
    by_cases same : k = key
    · subst same
      have nothing : get? rest k = none := (get?_eq_none_iff rest k).mpr notLater
      simp [get?, nothing]
    · simp [get?, same]

/-- A map to which absent entries were added reads as before, and behind that as the
second map. -/
theorem get?_mergeAbsent [DecidableEq κ] (first second : Entries κ ν) (key : κ) :
    get? (mergeAbsent first second) key = (get? first key).or (get? second key) := by
  induction second generalizing first with
  | nil => simp [mergeAbsent, get?]
  | cons entry rest ih =>
    obtain ⟨k, v⟩ := entry
    show get? (mergeAbsent (putIfAbsent first k v) rest) key = _
    rw [ih, putIfAbsent, get?_alter]
    by_cases same : k = key
    · subst same
      cases get? first k <;> simp [get?]
    · simp [get?, same]

/-- Of the entries that are kept, those are found that were found before. -/
theorem get?_filter {entries : Entries κ ν} (distinct : (keys entries).Nodup)
    (keep : κ × ν → Bool) (key : κ) :
    get? (entries.filter keep) key = (get? entries key).filter fun v => keep (key, v) := by
  induction entries with
  | nil => rfl
  | cons entry rest ih =>
    obtain ⟨k, v⟩ := entry
    obtain ⟨notLater, distinctRest⟩ := List.nodup_cons.mp distinct
    rw [List.filter_cons]
    by_cases same : k = key
    · subst same
      have nothing : get? rest k = none := (get?_eq_none_iff rest k).mpr notLater
      cases kept : keep (k, v) with
      | true => simp [get?, Option.filter, kept]
      | false => simp [get?, Option.filter, kept, ih distinctRest, nothing]
    · cases kept : keep (k, v) with
      | true => simp [get?, same, ih distinctRest]
      | false => simp [get?, same, ih distinctRest]

/-- Values that are put into another form are found in that form. -/
theorem get?_map (f : κ → ν → μ) (entries : Entries κ ν) (key : κ) :
    get? (entries.map fun entry => (entry.1, f entry.1 entry.2)) key =
      (get? entries key).map (f key) := by
  induction entries with
  | nil => rfl
  | cons entry rest ih =>
    obtain ⟨k, v⟩ := entry
    by_cases same : k = key
    · simp [get?, same]
    · simpa [get?, same] using ih

/-- An erased key is not found, and all others are. -/
theorem get?_erase [DecidableEq κ] (entries : Entries κ ν) (key other : κ) :
    get? (erase entries key) other = if key = other then none else get? entries other := by
  induction entries with
  | nil => simp [erase, get?]
  | cons entry rest ih =>
    obtain ⟨k, v⟩ := entry
    simp only [erase, List.filter_cons] at ih ⊢
    by_cases erased : k = key
    · subst erased
      by_cases same : k = other
      · simpa [get?, same] using ih
      · simpa [get?, same] using ih
    · by_cases same : k = other
      · subst same
        simp [get?, erased, Ne.symm erased]
      · simpa [get?, erased, same] using ih

omit [BEq κ] [LawfulBEq κ] in
/-- Keeping some of the entries makes no key come twice. -/
theorem nodup_keys_filter {entries : Entries κ ν} (distinct : (keys entries).Nodup)
    (keep : κ × ν → Bool) : (keys (entries.filter keep)).Nodup :=
  distinct.sublist (List.filter_sublist.map _)

omit [BEq κ] [LawfulBEq κ] in
theorem nodup_keys_nil : (keys ([] : Entries κ ν)).Nodup :=
  List.nodup_nil

/-- Changing one key after another makes no key come twice. -/
theorem nodup_keys_foldl_alter (key : μ → κ) (change : μ → Option ν → ν)
    {entries : Entries κ ν} (distinct : (keys entries).Nodup) (list : List μ) :
    (keys (list.foldl (fun found a => alter (change a) found (key a)) entries)).Nodup := by
  induction list generalizing entries with
  | nil => exact distinct
  | cons a rest ih => exact ih (nodup_keys_alter _ (key a) distinct)

/-- Adding absent entries makes no key come twice. -/
theorem nodup_keys_mergeAbsent {first : Entries κ ν} (second : Entries κ ν)
    (distinct : (keys first).Nodup) : (keys (mergeAbsent first second)).Nodup :=
  nodup_keys_foldl_alter Prod.fst (fun (entry : κ × ν) present => present.getD entry.2)
    distinct second

/-- Changing one key after another adds the new ones at the end, each where it comes first. -/
theorem keys_foldl_alter (key : μ → κ) (change : μ → Option ν → ν) (entries : Entries κ ν)
    (list : List μ) :
    keys (list.foldl (fun found a => alter (change a) found (key a)) entries) =
      keys entries ++ ((list.map key).filter (!(keys entries).contains ·)).eraseDups := by
  induction list generalizing entries with
  | nil => simp
  | cons a rest ih =>
    rw [List.foldl_cons, ih, List.map_cons, List.filter_cons]
    by_cases present : key a ∈ keys entries
    · rw [keys_alter_of_mem _ entries present]
      simp [present]
    · rw [keys_alter_of_not_mem _ entries present]
      have kept : (!(keys entries).contains (key a)) = true := by simpa using present
      rw [if_pos kept, List.eraseDups_cons, List.append_assoc, List.singleton_append,
        List.filter_filter]
      congr 4
      funext k
      rw [Bool.eq_iff_iff]
      simp [or_comm]

/-- Changing one key after another from nothing leaves each key where it comes first. -/
theorem keys_foldl_alter_nil (key : μ → κ) (change : μ → Option ν → ν) (list : List μ) :
    keys (list.foldl (fun found a => alter (change a) found (key a)) []) =
      (list.map key).eraseDups := by
  have all : (list.map key).filter (!(keys ([] : Entries κ ν)).contains ·) = list.map key :=
    List.filter_eq_self.mpr fun _ _ => rfl
  rw [keys_foldl_alter, all]
  rfl

/-- Where no key comes twice, the entries are the keys with what is found under each. -/
theorem eq_map_of_get? {entries : Entries κ ν} (distinct : (keys entries).Nodup) {f : κ → ν}
    (found : ∀ k ∈ keys entries, get? entries k = some (f k)) :
    entries = (keys entries).map fun k => (k, f k) := by
  rw [keys, List.map_map]
  refine (List.map_id entries).symm.trans (List.map_congr_left fun entry mem => ?_)
  have here : get? entries entry.1 = some entry.2 := get?_eq_some_of_mem distinct mem
  have there : get? entries entry.1 = some (f entry.1) := found entry.1 (List.mem_map_of_mem mem)
  exact Prod.ext rfl (Option.some.inj (here.symm.trans there))

end ObjectMapping.Entries
