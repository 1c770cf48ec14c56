/-!
# JSON values

The tree of a JSON text.  A number is kept as it was written, since the service reads no numbers,
and an object keeps its members in the order written, repeated keys included; which member of a
repeated key counts is decided by `member?`.
-/

namespace Gatehouse

set_option autoImplicit false

/-- A JSON value. -/
inductive Json where
  | null
  | boolean (value : Bool)
  | number (literal : String)
  | string (text : String)
  | array (elements : List Json)
  | object (members : List (String × Json))

namespace Json

/-- The value of a key among the members of an object: the last one written counts. -/
def member? (members : List (String × Json)) (key : String) : Option Json :=
  (members.reverse.find? fun member => member.1 == key).map Prod.snd

/-- A key that is not written has no value. -/
theorem member?_eq_none {members : List (String × Json)} {key : String}
    (absent : key ∉ members.map Prod.fst) : member? members key = none := by
  rw [member?, Option.map_eq_none_iff, List.find?_eq_none]
  intro member present same
  rw [← eq_of_beq same] at absent
  exact absent (List.mem_map_of_mem (List.mem_reverse.1 present))

/-- The keys that are written have a value. -/
theorem exists_member?_iff {members : List (String × Json)} {key : String} :
    (∃ value, member? members key = some value) ↔ ∃ member ∈ members, member.1 = key := by
  constructor
  · rintro ⟨value, isValue⟩
    obtain ⟨member, isFound, rfl⟩ := Option.map_eq_some_iff.1 isValue
    have present := List.mem_reverse.1 (List.mem_of_find?_eq_some isFound)
    exact ⟨member, present, eq_of_beq (List.find?_some isFound :)⟩
  · rintro ⟨member, present, rfl⟩
    refine Option.ne_none_iff_exists'.1 fun absent => ?_
    rw [member?, Option.map_eq_none_iff, List.find?_eq_none] at absent
    exact absent member (List.mem_reverse.2 present) (beq_self_eq_true _)

/-- Where no key is repeated, every key has the value it is written with. -/
theorem member?_of_mem {members : List (String × Json)} (distinct : (members.map Prod.fst).Nodup)
    {member : String × Json} (present : member ∈ members) :
    member? members member.1 = some member.2 := by
  induction members with
  | nil => cases present
  | cons first rest ih =>
      obtain ⟨isNew, distinct'⟩ := List.nodup_cons.1 distinct
      simp only [member?, List.reverse_cons, List.find?_append]
      rcases List.mem_cons.1 present with rfl | later
      · have absent := Option.map_eq_none_iff.1 (member?_eq_none isNew)
        simp [absent]
      · obtain ⟨other, found, isValue⟩ := Option.map_eq_some_iff.1 (ih distinct' later)
        simp [found, isValue]

/-- The JSON number that writes an integer. -/
def ofInt (value : Int) : Json :=
  .number (toString value)

/-- The object that maps each key to a text, in the order given. -/
def ofTexts (entries : List (String × String)) : Json :=
  .object (entries.map fun entry => (entry.1, .string entry.2))

end Json

end Gatehouse
