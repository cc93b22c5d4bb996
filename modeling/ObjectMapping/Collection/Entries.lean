/-!
# Entries in insertion order

A finite map as the list of its entries. A key keeps the place at which it was
first put; putting it again replaces its value and moves nothing.
-/

namespace ObjectMapping

/-- Key and value pairs in the order in which their keys were first put. -/
abbrev Entries (κ ν : Type) := List (κ × ν)

namespace Entries

variable {κ ν : Type} [BEq κ]

/-- The value under a key. -/
def get? : Entries κ ν → κ → Option ν
  | [], _ => none
  | (k, v) :: rest, key => if k == key then some v else get? rest key

/-- Some entry has the key. -/
def contains (entries : Entries κ ν) (key : κ) : Bool :=
  (get? entries key).isSome

/-- Changes the value under a key in its place, or adds an entry at the end. -/
def alter (change : Option ν → ν) : Entries κ ν → κ → Entries κ ν
  | [], key => [(key, change none)]
  | (k, v) :: rest, key =>
      if k == key then (k, change (some v)) :: rest else (k, v) :: alter change rest key

/-- Puts a value under a key. -/
def put (entries : Entries κ ν) (key : κ) (value : ν) : Entries κ ν :=
  alter (fun _ => value) entries key

/-- Puts a value under a key that has none yet. -/
def putIfAbsent (entries : Entries κ ν) (key : κ) (value : ν) : Entries κ ν :=
  alter (fun present => present.getD value) entries key

/-- Removes every entry with the key. -/
def erase (entries : Entries κ ν) (key : κ) : Entries κ ν :=
  entries.filter fun entry => !(entry.1 == key)

/-- Puts all entries of the second map into the first. -/
def merge (first second : Entries κ ν) : Entries κ ν :=
  second.foldl (fun merged entry => put merged entry.1 entry.2) first

/-- Adds to the first map the entries of the second whose keys it lacks. -/
def mergeAbsent (first second : Entries κ ν) : Entries κ ν :=
  second.foldl (fun merged entry => putIfAbsent merged entry.1 entry.2) first

/-- The map that results from putting each pair in turn. -/
def ofList (pairs : List (κ × ν)) : Entries κ ν :=
  merge [] pairs

/-- The keys in order. -/
def keys (entries : Entries κ ν) : List κ :=
  entries.map (·.1)

/-! What reading and the keys say of each way to change a map. -/

variable [LawfulBEq κ]

/-- A changed key reads as the change of what it read as before. -/
@[simp] theorem get?_alter_self (change : Option ν → ν) (entries : Entries κ ν) (key : κ) :
    get? (alter change entries key) key = some (change (get? entries key)) := by
  induction entries with
  | nil => simp [alter, get?]
  | cons entry rest ih =>
    obtain ⟨k, v⟩ := entry
    by_cases equal : k = key <;> simp [alter, get?, equal, ih]

/-- Changing a key leaves every other key as it was. -/
theorem get?_alter_of_ne (change : Option ν → ν) (entries : Entries κ ν) {key other : κ}
    (apart : key ≠ other) : get? (alter change entries key) other = get? entries other := by
  induction entries with
  | nil => simp [alter, get?, apart]
  | cons entry rest ih =>
    obtain ⟨k, v⟩ := entry
    by_cases equal : k = key
    · simp [alter, get?, equal, apart]
    · simp [alter, get?, equal, ih]

/-- A value that was put is found. -/
@[simp] theorem get?_put_self (entries : Entries κ ν) (key : κ) (value : ν) :
    get? (put entries key value) key = some value :=
  get?_alter_self _ entries key

/-- Putting a value changes no other key. -/
theorem get?_put_of_ne (entries : Entries κ ν) {key other : κ} (value : ν)
    (apart : key ≠ other) : get? (put entries key value) other = get? entries other :=
  get?_alter_of_ne _ entries apart

/-- Exactly the keys of the entries are found. -/
theorem contains_iff_mem_keys (entries : Entries κ ν) (key : κ) :
    contains entries key = true ↔ key ∈ keys entries := by
  induction entries with
  | nil => simp [contains, get?, keys]
  | cons entry rest ih =>
    obtain ⟨k, v⟩ := entry
    by_cases equal : k = key
    · simp [contains, get?, keys, equal]
    · simpa [contains, get?, keys, equal, Ne.symm equal] using ih

/-- A value that is found is that of an entry. -/
theorem mem_of_get?_eq_some {entries : Entries κ ν} {key : κ} {value : ν}
    (found : get? entries key = some value) : (key, value) ∈ entries := by
  induction entries with
  | nil => simp [get?] at found
  | cons entry rest ih =>
    obtain ⟨k, v⟩ := entry
    by_cases equal : k = key
    · simp_all [get?]
    · exact List.mem_cons_of_mem _ (ih (by simpa [get?, equal] using found))

/-- Where no key is there twice, the value of an entry is found. -/
theorem get?_eq_some_of_mem {entries : Entries κ ν} {key : κ} {value : ν}
    (distinct : (keys entries).Nodup) (mem : (key, value) ∈ entries) :
    get? entries key = some value := by
  induction entries with
  | nil => simp at mem
  | cons entry rest ih =>
    obtain ⟨k, v⟩ := entry
    have apart : k ∉ keys rest := (List.nodup_cons.mp distinct).1
    rcases List.mem_cons.mp mem with equal | later
    · cases equal
      simp [get?]
    · have different : k ≠ key := by
        intro equal
        exact apart (equal ▸ List.mem_map_of_mem (f := Prod.fst) later)
      simpa [get?, different] using ih (List.nodup_cons.mp distinct).2 later

/-- Changing a key that is present moves nothing. -/
theorem keys_alter_of_mem (change : Option ν → ν) (entries : Entries κ ν) {key : κ}
    (present : key ∈ keys entries) : keys (alter change entries key) = keys entries := by
  induction entries with
  | nil => simp [keys] at present
  | cons entry rest ih =>
    obtain ⟨k, v⟩ := entry
    by_cases equal : k = key
    · simp [alter, keys, equal]
    · have later : key ∈ keys rest := by simpa [keys, Ne.symm equal] using present
      simpa [alter, keys, equal] using ih later

/-- A new key goes to the end. -/
theorem keys_alter_of_not_mem (change : Option ν → ν) (entries : Entries κ ν) {key : κ}
    (absent : key ∉ keys entries) : keys (alter change entries key) = keys entries ++ [key] := by
  induction entries with
  | nil => simp [alter, keys]
  | cons entry rest ih =>
    obtain ⟨k, v⟩ := entry
    have equal : k ≠ key := by
      intro equal
      simp [keys, equal] at absent
    have later : key ∉ keys rest := by
      intro present
      exact absent (List.mem_cons_of_mem _ present)
    simpa [alter, keys, equal] using ih later

/-- No key is there twice if none was. -/
theorem nodup_keys_alter (change : Option ν → ν) {entries : Entries κ ν} (key : κ)
    (distinct : (keys entries).Nodup) : (keys (alter change entries key)).Nodup := by
  by_cases present : key ∈ keys entries
  · rwa [keys_alter_of_mem change entries present]
  · rw [keys_alter_of_not_mem change entries present]
    refine List.nodup_append.mpr ⟨distinct, by simp, ?_⟩
    intro k found other added equal
    rw [List.mem_singleton.mp added] at equal
    exact present (equal ▸ found)

/-- A merged map has no key twice if the first had none. -/
theorem nodup_keys_merge {first : Entries κ ν} (second : Entries κ ν)
    (distinct : (keys first).Nodup) : (keys (merge first second)).Nodup := by
  induction second generalizing first with
  | nil => exact distinct
  | cons entry rest ih => exact ih (nodup_keys_alter _ entry.1 distinct)

/-- A map that is made by putting has no key twice. -/
theorem nodup_keys_ofList (pairs : List (κ × ν)) : (keys (ofList pairs)).Nodup :=
  nodup_keys_merge pairs List.nodup_nil

end Entries

end ObjectMapping
