import Mathlib.Data.Finset.Card
import Mathlib.Data.List.Sort
import Gatehouse.Json.Printer
import Gatehouse.Proofs.Text.ByteOrder
import Gatehouse.Proofs.Validation.Profiles

/-!
# Sequences of notes

A report is made by notes, of which some say that a field broke a rule and others check a rule first.
Those that say something are told by their fields and messages (`saidBy`).  Of a field the report
keeps what is said of it first, and nothing else matters: neither what is said of it later nor in
which order other fields come in between (`get?_ofNotes`).

The entries of a report are in strictly increasing order, so a report is told by what it says of each
field (`Report.eq_of_get?`), and with it the texts that are made of it.
-/

namespace Gatehouse

set_option autoImplicit false

/-! ## Dictionaries by their look-ups -/

namespace Text.Dictionary

variable {former latter : Dictionary}

theorem mem_entries_iff {dictionary : Dictionary} {key text : String} :
    (key, text) ∈ dictionary.entries ↔ dictionary.get? key = some text :=
  (lookup_eq_some_iff dictionary.ascending).symm

/-- Dictionaries with the same look-ups are equal. -/
theorem eq_of_get? (same : ∀ key, former.get? key = latter.get? key) : former = latter := by
  have sameEntries : former.entries = latter.entries := by
    refine List.Pairwise.eq_of_mem_iff former.ascending latter.ascending ?_
    rintro ⟨key, text⟩
    rw [mem_entries_iff, mem_entries_iff, same]
  cases former
  cases latter
  cases sameEntries
  rfl

end Text.Dictionary

namespace Validation

/-! ## Notes -/

/-- What is done to a report. -/
inductive Note where
  /-- It is noted that a field broke a rule. -/
  | add (field message : String)
  /-- It is noted that a field broke a rule, unless it kept it. -/
  | check (isKept : Bool) (field message : String)
  deriving DecidableEq, Repr

namespace Note

/-- The report after a note. -/
def apply (report : Report) : Note → Report
  | .add field message => report.add field message
  | .check isKept field message => report.check isKept field message

/-- The field and the message of a note, if it says something. -/
def said? : Note → Option (String × String)
  | .add field message => some (field, message)
  | .check isKept field message => if isKept then none else some (field, message)

end Note

/-- What a sequence of notes says, in order. -/
def saidBy (notes : List Note) : List (String × String) :=
  notes.filterMap Note.said?

/-- The message that a sequence of notes says of a field first. -/
def firstSaid? (notes : List Note) (field : String) : Option String :=
  ((saidBy notes).find? fun said => said.1 == field).map Prod.snd

theorem firstSaid?_cons (note : Note) (notes : List Note) (field : String) :
    firstSaid? (note :: notes) field = (firstSaid? [note] field).or (firstSaid? notes field) := by
  rw [firstSaid?, saidBy, List.filterMap_cons]
  cases isSaid : note.said? with
  | none => simp [firstSaid?, saidBy, isSaid]
  | some said =>
      by_cases same : said.1 = field
      · simp [firstSaid?, saidBy, isSaid, same]
      · simp [firstSaid?, saidBy, isSaid, same]

namespace Report

/-- The report that a sequence of notes makes. -/
def ofNotes (notes : List Note) : Report :=
  notes.foldl Note.apply empty

variable {former latter : Report} {notes : List Note}

/-- Reports that say the same of every field are equal. -/
theorem eq_of_get? (same : ∀ field, former.get? field = latter.get? field) : former = latter :=
  congrArg Report.mk (Text.Dictionary.eq_of_get? same)

/-- What a report says of a field after a note is what it said before, or else what the note
says. -/
theorem get?_apply (report : Report) (note : Note) (field : String) :
    (note.apply report).get? field = (report.get? field).or (firstSaid? [note] field) := by
  cases note with
  | add name message =>
      rw [Note.apply, get?_add]
      by_cases same : name = field
      · subst same
        cases report.get? name <;> simp [firstSaid?, saidBy, Note.said?]
      · simp [firstSaid?, saidBy, Note.said?, same, Ne.symm same]
  | check isKept name message =>
      rw [Note.apply, get?_check]
      by_cases same : name = field
      · subst same
        cases isKept <;> cases report.get? name <;> simp [firstSaid?, saidBy, Note.said?]
      · cases isKept <;> simp [firstSaid?, saidBy, Note.said?, same, Ne.symm same]

/-- What a report says of a field after notes is what it said before, or else what is said first. -/
theorem get?_foldl (report : Report) (notes : List Note) (field : String) :
    (notes.foldl Note.apply report).get? field =
      (report.get? field).or (firstSaid? notes field) := by
  induction notes generalizing report with
  | nil => exact (Option.or_none).symm
  | cons note notes ih =>
      rw [List.foldl_cons, ih, get?_apply, Option.or_assoc, ← firstSaid?_cons]

/-- **Of each field a report says what was said of it first.** -/
theorem get?_ofNotes (notes : List Note) (field : String) :
    (ofNotes notes).get? field = firstSaid? notes field := by
  rw [ofNotes, get?_foldl, get?_empty, Option.none_or]

/-- The fields of a report are those of which something is said. -/
theorem mem_fields_ofNotes {field : String} :
    field ∈ (ofNotes notes).fields ↔ field ∈ (saidBy notes).map Prod.fst := by
  rw [mem_fields_iff, get?_ofNotes, firstSaid?, Option.isSome_map, List.find?_isSome]
  simp

/-- A report has as many entries as there are fields of which something is said. -/
theorem size_ofNotes (notes : List Note) :
    (ofNotes notes).size = ((saidBy notes).map Prod.fst).toFinset.card := by
  have sameFields : (ofNotes notes).fields.toFinset = ((saidBy notes).map Prod.fst).toFinset := by
    ext field
    rw [List.mem_toFinset, List.mem_toFinset, mem_fields_ofNotes]
  rw [← sameFields, List.toFinset_card_of_nodup (nodup_fields _), fields, List.length_map]
  rfl

/-- A report is acceptable if nothing is said. -/
theorem isAcceptable_ofNotes : (ofNotes notes).isAcceptable = true ↔ saidBy notes = [] := by
  simp only [isAcceptable_iff, mem_fields_ofNotes, ← List.eq_nil_iff_forall_not_mem,
    List.map_eq_nil_iff]

/-- **A report keeps what is said of each field first, and nothing else.**  Take any sequence of
notes.

* The report says of each field what is said of it first, and nothing if nothing is.
* It has as many entries as there are fields of which something is said.
* It is accepted if nothing is said, and is the fault otherwise.
* Another sequence that says the same of each field first makes the same report, with the same text
  and the same JSON text.
* Its text lists the fields in strictly increasing order of their bytes, each with what is said of
  it first. -/
theorem ofNotes_keeps_first (notes : List Note) :
    (∀ field, (ofNotes notes).get? field = firstSaid? notes field) ∧
      (ofNotes notes).size = ((saidBy notes).map Prod.fst).toFinset.card ∧
      Service.accept (ofNotes notes) =
        (if saidBy notes = [] then .ok () else .error (.validation (ofNotes notes))) ∧
      (∀ others, (∀ field, firstSaid? others field = firstSaid? notes field) →
        ofNotes others = ofNotes notes ∧ (ofNotes others).text = (ofNotes notes).text ∧
          (Json.ofTexts (ofNotes others).messages.entries).text =
            (Json.ofTexts (ofNotes notes).messages.entries).text) ∧
      ∃ entries : List (String × String),
        (ofNotes notes).text =
          "; ".intercalate (entries.map fun entry => entry.1 ++ " " ++ entry.2) ∧
        (entries.Pairwise fun former latter => Text.bytes former.1 < Text.bytes latter.1) ∧
        ∀ field message, (field, message) ∈ entries ↔ firstSaid? notes field = some message := by
  refine ⟨get?_ofNotes notes, size_ofNotes notes, ?_, fun others agree => ?_,
    (ofNotes notes).messages.entries, rfl, ?_, fun field message => ?_⟩
  · simp only [Service.accept, isAcceptable_ofNotes]
  · have same : ofNotes others = ofNotes notes :=
      eq_of_get? fun field => by rw [get?_ofNotes, get?_ofNotes, agree]
    rw [same]
    exact ⟨rfl, rfl, rfl⟩
  · exact (ofNotes notes).messages.ascending.imp Text.bytes_lt_bytes_iff.2
  · rw [Text.Dictionary.mem_entries_iff, ← get?_ofNotes]
    rfl

/-- Notes on two fields, one after the other, with a rule that is kept in between. -/
def interleavedNotes : List Note :=
  [.add "clé" "first", .check false "clz" "second", .check true "age" "kept", .add "clé" "later",
    .check false "clz" "latest"]

/-- The same notes, as far as they say something of a field first, the other way round. -/
def separateNotes : List Note :=
  [.check false "clz" "second", .add "clé" "first"]

/-- The fields are in the order of their bytes, in which the accented letter is the last. -/
theorem interleaved_notes_make_same_report :
    (∀ field, firstSaid? interleavedNotes field = firstSaid? separateNotes field) ∧
      ofNotes interleavedNotes = ofNotes separateNotes ∧
      (ofNotes interleavedNotes).text = "clz second; clé first" := by
  have agree : ∀ field, firstSaid? interleavedNotes field = firstSaid? separateNotes field := by
    intro field
    by_cases isAccented : "clé" = field
    · subst isAccented
      decide
    · by_cases isPlain : "clz" = field
      · subst isPlain
        decide
      · simp [firstSaid?, saidBy, interleavedNotes, separateNotes, Note.said?, isAccented, isPlain]
  obtain ⟨-, -, -, determines, -⟩ := ofNotes_keeps_first separateNotes
  obtain ⟨same, sameText, -⟩ := determines interleavedNotes agree
  exact ⟨agree, same, sameText.trans (by decide)⟩

end Report

end Validation

end Gatehouse
