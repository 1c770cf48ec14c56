/-!
# Dictionaries of texts

A finite map from texts to texts whose entries are kept in increasing order of their keys.  The
order of texts is by code point, which for UTF-8 is the order of the bytes.  Strict order is part
of the type, so a key occurs once and two dictionaries with the same entries are equal.

`insertNew` keeps the entry that is there, `insert` replaces it.  `get?_insertNew` and
`get?_insert` say what each does to look-ups.
-/

namespace Gatehouse.Text

set_option autoImplicit false

/-- Entries in strictly increasing order of their keys. -/
def Ascending {α : Type} (entries : List (String × α)) : Prop :=
  entries.Pairwise fun former latter => former.1 < latter.1

/-- A map from texts to texts, ordered by key. -/
structure Dictionary where
  entries : List (String × String)
  ascending : Ascending entries

namespace Dictionary

/-- The dictionary without entries. -/
def empty : Dictionary := ⟨[], List.Pairwise.nil⟩

/-- The text stored under a key. -/
def get? (dictionary : Dictionary) (key : String) : Option String :=
  (dictionary.entries.find? fun entry => entry.1 == key).map Prod.snd

/-- The number of entries. -/
def size (dictionary : Dictionary) : Nat :=
  dictionary.entries.length

/-- Whether there are no entries. -/
def isEmpty (dictionary : Dictionary) : Bool :=
  dictionary.entries.isEmpty

/-- Two texts neither of which precedes the other are equal. -/
theorem eq_of_not_lt {former latter : String} (notBefore : ¬ former < latter)
    (notAfter : ¬ latter < former) : former = latter :=
  String.le_antisymm (String.not_lt.1 notAfter) (String.not_lt.1 notBefore)

/-! ## Entries -/

section

variable {α : Type}

/-- Puts an entry where its key belongs; what the key has already, if it has something, is changed
instead. -/
def insertEntry (combine : α → α) (key : String) (value : α) :
    List (String × α) → List (String × α)
  | [] => [(key, value)]
  | entry :: rest =>
      if key < entry.1 then (key, value) :: entry :: rest
      else if entry.1 < key then entry :: insertEntry combine key value rest
      else (key, combine entry.2) :: rest

/-- The keys after an insertion are the old ones and the new one. -/
theorem fst_of_mem_insertEntry {combine : α → α} {key : String} {value : α}
    {entries : List (String × α)} {entry : String × α}
    (present : entry ∈ insertEntry combine key value entries) :
    entry.1 = key ∨ entry ∈ entries := by
  induction entries with
  | nil => simp_all [insertEntry]
  | cons head rest ih =>
      rw [insertEntry] at present
      split at present
      · grind
      · split at present <;> grind

/-- Insertion keeps the entries in order. -/
theorem ascending_insertEntry (combine : α → α) (key : String) (value : α)
    {entries : List (String × α)} (ordered : Ascending entries) :
    Ascending (insertEntry combine key value entries) := by
  induction entries with
  | nil => simp [insertEntry, Ascending]
  | cons head rest ih =>
      obtain ⟨below, tail⟩ := List.pairwise_cons.1 ordered
      rw [insertEntry]
      split
      · rename_i first
        refine List.pairwise_cons.2 ⟨?_, ordered⟩
        intro entry present
        rcases List.mem_cons.1 present with rfl | later
        · exact first
        · exact String.lt_trans first (below entry later)
      · rename_i notFirst
        split
        · rename_i behind
          refine List.pairwise_cons.2 ⟨?_, ih tail⟩
          intro entry present
          rcases fst_of_mem_insertEntry present with same | old
          · exact same ▸ behind
          · exact below entry old
        · rename_i notBehind
          refine List.pairwise_cons.2 ⟨?_, tail⟩
          intro entry later
          rw [eq_of_not_lt notFirst notBehind]
          exact below entry later

/-- Looks a key up among entries. -/
def lookup (key : String) (entries : List (String × α)) : Option α :=
  (entries.find? fun entry => entry.1 == key).map Prod.snd

/-- Where the keys ascend, a key is found with each value that it has an entry with. -/
theorem lookup_eq_some_iff {entries : List (String × α)} (ordered : Ascending entries)
    {key : String} {value : α} : lookup key entries = some value ↔ (key, value) ∈ entries := by
  rw [lookup, Option.map_eq_some_iff]
  constructor
  · rintro ⟨entry, isFound, rfl⟩
    have isKey := List.find?_some isFound
    rw [← eq_of_beq isKey]
    exact List.mem_of_find?_eq_some isFound
  · intro present
    induction entries with
    | nil => cases present
    | cons head rest ih =>
        obtain ⟨below, tail⟩ := List.pairwise_cons.1 ordered
        rcases List.mem_cons.1 present with rfl | later
        · exact ⟨(key, value), by simp, rfl⟩
        · have different : head.1 ≠ key := String.ne_of_lt (below _ later)
          simpa [List.find?_cons, different] using ih tail later

/-- What an insertion does to a look-up. -/
theorem lookup_insertEntry (combine : α → α) (key : String) (value : α) (other : String)
    {entries : List (String × α)} (ordered : Ascending entries) :
    lookup other (insertEntry combine key value entries) =
      if other = key then some (((lookup key entries).map combine).getD value)
      else lookup other entries := by
  induction entries with
  | nil =>
      by_cases same : other = key
      · subst same
        simp [insertEntry, lookup]
      · simp [insertEntry, lookup, same, Ne.symm same]
  | cons head rest ih =>
      obtain ⟨below, tail⟩ := List.pairwise_cons.1 ordered
      have step := ih tail
      simp only [lookup] at step ⊢
      rw [insertEntry]
      split
      · rename_i first
        have absent : (head :: rest).find? (fun entry => entry.1 == key) = none := by
          rw [List.find?_eq_none]
          intro entry present equal
          have : entry.1 = key := by simpa using equal
          rcases List.mem_cons.1 present with rfl | later
          · exact String.lt_irrefl _ (this ▸ first)
          · exact String.lt_irrefl _ (String.lt_trans (this ▸ first) (this ▸ below entry later))
        by_cases same : other = key
        · subst same
          rw [absent]
          simp
        · simp [List.find?_cons, Ne.symm same, same]
      · rename_i notFirst
        split
        · rename_i behind
          have different : head.1 ≠ key := fun equal => String.lt_irrefl _ (equal ▸ behind)
          by_cases same : other = key
          · subst same
            simpa [List.find?_cons, different] using step
          · by_cases here : head.1 = other
            · simp [here, same]
            · simpa [here, same, List.find?_cons] using step
        · rename_i notBehind
          have equal : key = head.1 := eq_of_not_lt notFirst notBehind
          by_cases same : other = key
          · subst same
            simp [← equal]
          · have here : head.1 ≠ other := fun found => same (found ▸ equal ▸ rfl)
            simp [same, here, Ne.symm same]

end

/-! ## Insertion -/

/-- Adds an entry unless its key has one. -/
def insertNew (dictionary : Dictionary) (key text : String) : Dictionary :=
  ⟨insertEntry id key text dictionary.entries,
   ascending_insertEntry id key text dictionary.ascending⟩

/-- Adds an entry, in place of the one its key may have. -/
def insert (dictionary : Dictionary) (key text : String) : Dictionary :=
  ⟨insertEntry (fun _ => text) key text dictionary.entries,
   ascending_insertEntry (fun _ => text) key text dictionary.ascending⟩

/-- The dictionary of a list of entries; of entries with one key the last counts. -/
def ofList (entries : List (String × String)) : Dictionary :=
  entries.foldl (fun dictionary entry => dictionary.insert entry.1 entry.2) empty

/-! ## Look-ups -/

/-- A new entry is found unless its key had one, and no other look-up changes. -/
theorem get?_insertNew (dictionary : Dictionary) (key text other : String) :
    (dictionary.insertNew key text).get? other =
      if other = key then some ((dictionary.get? key).getD text) else dictionary.get? other := by
  have found := lookup_insertEntry id key text other dictionary.ascending
  simpa [get?, insertNew, lookup] using found

/-- An inserted entry is found, and no other look-up changes. -/
theorem get?_insert (dictionary : Dictionary) (key text other : String) :
    (dictionary.insert key text).get? other =
      if other = key then some text else dictionary.get? other := by
  have found := lookup_insertEntry (fun _ => text) key text other dictionary.ascending
  by_cases same : other = key
  · subst same
    rw [if_pos rfl] at found ⊢
    rw [get?, insert]
    simp only [lookup] at found
    rw [found]
    cases dictionary.entries.find? (fun entry => entry.1 == other) <;> rfl
  · simpa [get?, insert, lookup, same] using found

end Dictionary

end Gatehouse.Text
