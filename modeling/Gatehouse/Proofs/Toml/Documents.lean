import Mathlib.Data.List.Nodup
import Gatehouse.Toml.Syntax

/-!
# What documents are made of

In a value that a document may hold, the keys of each table are distinct and integers fit into 64
bits with a sign (`Value.IsSound`).  Tables under definition keep this from statement to statement:
an assignment and a header refuse a key that they may not use, and replace what a key has in its
place (`Entries.Sound.set`).  Whatever reads values gives sound ones, so that a document which is
read at all has each of its keys once, and so has each table in it (`isSound_of_parse?`).
-/

namespace Gatehouse.Toml

set_option autoImplicit false

open Text (Reader)

/-! ## Sound values -/

/-- The keys of entries, in order. -/
def keys {α : Type} (entries : List (String × α)) : List String :=
  entries.map Prod.fst

/-- Whether the keys of all tables in a value are distinct and all its integers fit. -/
inductive Value.IsSound : Value → Prop
  | string (text : String) : Value.IsSound (.string text)
  | integer {value : Int} (least : -9223372036854775808 ≤ value)
      (most : value ≤ 9223372036854775807) : Value.IsSound (.integer value)
  | float : Value.IsSound .float
  | boolean (value : Bool) : Value.IsSound (.boolean value)
  | dateTime : Value.IsSound .dateTime
  | array {elements : List Value} (areSound : ∀ element ∈ elements, element.IsSound) :
      Value.IsSound (.array elements)
  | table {entries : List (String × Value)} (areDistinct : (keys entries).Nodup)
      (areSound : ∀ entry ∈ entries, entry.2.IsSound) : Value.IsSound (.table entries)

/-- Whether the keys of a node's tables are distinct and its values are sound. -/
inductive Node.IsSound : Node → Prop
  | value {value : Value} (isSound : value.IsSound) : Node.IsSound (.value value)
  | table (origin : Origin) {entries : List (String × Node)} (areDistinct : (keys entries).Nodup)
      (areSound : ∀ entry ∈ entries, entry.2.IsSound) : Node.IsSound (.table origin entries)
  | tables {elements : List (List (String × Node))}
      (areDistinct : ∀ entries ∈ elements, (keys entries).Nodup)
      (areSound : ∀ entries ∈ elements, ∀ entry ∈ entries, entry.2.IsSound) :
      Node.IsSound (.tables elements)

/-- Whether the keys of a table under definition are distinct and its nodes are sound. -/
structure Entries.Sound (entries : Entries) : Prop where
  areDistinct : (keys entries).Nodup
  areSound : ∀ entry ∈ entries, entry.2.IsSound

/-! ## Tables under definition -/

namespace Entries

variable {entries after : Entries} {key : String} {node : Node}

theorem Sound.empty : Sound [] := ⟨List.nodup_nil, nofun⟩

theorem Sound.get? (sound : entries.Sound) (isFound : entries.get? key = some node) :
    node.IsSound := by
  obtain ⟨entry, isEntry, rfl⟩ := Option.map_eq_some_iff.1 isFound
  exact sound.areSound entry (List.mem_of_find?_eq_some isEntry)

theorem keys_set (entries : Entries) (key : String) (node : Node) :
    keys (entries.set key node) =
      if key ∈ keys entries then keys entries else keys entries ++ [key] := by
  have hasKey : entries.any (fun entry => entry.1 == key) = true ↔ key ∈ keys entries := by
    simp [keys]
  rw [set]
  by_cases isThere : key ∈ keys entries
  · rw [if_pos isThere, if_pos (hasKey.2 isThere), keys, keys, List.map_map]
    apply List.map_congr_left
    intro entry _
    by_cases same : entry.1 = key <;> simp [same]
  · rw [if_neg isThere, if_neg (mt hasKey.1 isThere), keys, List.map_append]
    rfl

/-- What a key is given takes the place of what it had. -/
theorem Sound.set (sound : entries.Sound) (key : String) (isSound : node.IsSound) :
    (entries.set key node).Sound where
  areDistinct := by
    rw [keys_set]
    split
    · exact sound.areDistinct
    next notThere =>
      refine List.nodup_append'.2 ⟨sound.areDistinct, List.nodup_singleton key, ?_⟩
      exact List.disjoint_singleton.2 notThere
  areSound := by
    intro entry isEntry
    unfold Entries.set at isEntry
    split at isEntry
    · obtain ⟨former, isFormer, rfl⟩ := List.mem_map.1 isEntry
      split
      · exact isSound
      · exact sound.areSound former isFormer
    · rcases List.mem_append.1 isEntry with isFormer | isNew
      · exact sound.areSound entry isFormer
      · obtain rfl := List.mem_singleton.1 isNew
        exact isSound

/-- A table that has been changed under a key. -/
theorem Sound.set_table (sound : entries.Sound) (key : String) (origin : Origin) {inner : Entries}
    (isSound : inner.Sound) : (entries.set key (.table origin inner)).Sound :=
  sound.set key (.table origin isSound.areDistinct isSound.areSound)

/-- The table that a key has. -/
theorem Sound.of_table {origin : Origin} {inner : Entries} (sound : entries.Sound)
    (isFound : entries.get? key = some (.table origin inner)) : inner.Sound := by
  cases sound.get? isFound with
  | table _ areDistinct areSound => exact ⟨areDistinct, areSound⟩

/-- The open table of the array that a key has. -/
theorem Sound.of_last {elements : List Entries} {last : Entries} (sound : entries.Sound)
    (isFound : entries.get? key = some (.tables elements))
    (isLast : elements.getLast? = some last) : last.Sound := by
  cases sound.get? isFound with
  | tables areDistinct areSound =>
      have isElement := List.mem_of_getLast? isLast
      exact ⟨areDistinct last isElement, areSound last isElement⟩

/-- A table put behind the elements of an array, or some of them. -/
theorem isSound_concat {elements front : List Entries} {last : Entries}
    (isSound : (Node.tables elements).IsSound) (isFront : front ⊆ elements) (isLast : last.Sound) :
    (Node.tables (front ++ [last])).IsSound := by
  cases isSound with
  | tables areDistinct areSound =>
      constructor
      · intro entries isElement
        rcases List.mem_append.1 isElement with isFormer | isNew
        · exact areDistinct entries (isFront isFormer)
        · obtain rfl := List.mem_singleton.1 isNew
          exact isLast.areDistinct
      · intro entries isElement
        rcases List.mem_append.1 isElement with isFormer | isNew
        · exact areSound entries (isFront isFormer)
        · obtain rfl := List.mem_singleton.1 isNew
          exact isLast.areSound

/-- An array whose open table has been replaced. -/
theorem Sound.set_last {elements : List Entries} {last : Entries} (sound : entries.Sound)
    (isFound : entries.get? key = some (.tables elements)) (isLast : last.Sound) :
    (entries.set key (.tables (elements.dropLast ++ [last]))).Sound :=
  sound.set key (isSound_concat (sound.get? isFound) (List.dropLast_subset _) isLast)

/-- An assignment keeps tables sound. -/
theorem Sound.assign {value : Value} (isSound : value.IsSound) {path : List String}
    (sound : entries.Sound) (isAssigned : assign value path entries = some after) :
    after.Sound := by
  induction path generalizing entries after with
  | nil => cases isAssigned
  | cons key rest ih =>
      cases rest with
      | nil =>
          rw [Entries.assign] at isAssigned
          split at isAssigned
          · cases isAssigned
          · cases isAssigned
            exact sound.set key (.value isSound)
      | cons next rest =>
          rw [Entries.assign] at isAssigned
          split at isAssigned
          next =>
            obtain ⟨inner, isInner, rfl⟩ := Option.map_eq_some_iff.1 isAssigned
            exact sound.set_table key .dotted (ih .empty isInner)
          next => cases isAssigned
          next origin inner isFound =>
            split at isAssigned
            · obtain ⟨inner', isInner, rfl⟩ := Option.map_eq_some_iff.1 isAssigned
              exact sound.set_table key origin (ih (sound.of_table isFound) isInner)
            · cases isAssigned
          next elements isFound =>
            split at isAssigned
            · cases isAssigned
            · obtain ⟨last, isLast, isMapped⟩ := Option.bind_eq_some_iff.1 isAssigned
              obtain ⟨last', isChanged, rfl⟩ := Option.map_eq_some_iff.1 isMapped
              exact sound.set_last isFound (ih (sound.of_last isFound isLast) isChanged)

/-- A change that keeps tables sound does so wherever a path leads. -/
theorem Sound.alter {change : Entries → Option Entries}
    (keeps : ∀ entries after, Sound entries → change entries = some after → Sound after)
    {path : List String} (sound : entries.Sound)
    (isAltered : alter change path entries = some after) : after.Sound := by
  induction path generalizing entries after with
  | nil => exact keeps entries after sound isAltered
  | cons key rest ih =>
      rw [Entries.alter] at isAltered
      split at isAltered
      next =>
        obtain ⟨inner, isInner, rfl⟩ := Option.map_eq_some_iff.1 isAltered
        exact sound.set_table key .implied (ih .empty isInner)
      next => cases isAltered
      next origin inner isFound =>
        obtain ⟨inner', isInner, rfl⟩ := Option.map_eq_some_iff.1 isAltered
        exact sound.set_table key origin (ih (sound.of_table isFound) isInner)
      next elements isFound =>
        obtain ⟨last, isLast, isMapped⟩ := Option.bind_eq_some_iff.1 isAltered
        obtain ⟨last', isChanged, rfl⟩ := Option.map_eq_some_iff.1 isMapped
        exact sound.set_last isFound (ih (sound.of_last isFound isLast) isChanged)

theorem Sound.openTable (sound : entries.Sound) (isOpened : openTable key entries = some after) :
    after.Sound := by
  unfold Entries.openTable at isOpened
  split at isOpened
  next =>
    cases isOpened
    exact sound.set_table key .opened .empty
  next inner isFound =>
    cases isOpened
    exact sound.set_table key .opened (sound.of_table isFound)
  next => cases isOpened

theorem Sound.openElement (sound : entries.Sound)
    (isOpened : openElement key entries = some after) : after.Sound := by
  unfold Entries.openElement at isOpened
  split at isOpened
  next =>
    cases isOpened
    have noElements : (Node.tables []).IsSound := .tables nofun nofun
    exact sound.set key (isSound_concat noElements (List.nil_subset _) .empty)
  next elements isFound =>
    cases isOpened
    exact sound.set key (isSound_concat (sound.get? isFound) (List.Subset.refl _) .empty)
  next => cases isOpened

theorem Sound.alterLast {change : String → Entries → Option Entries}
    (keeps : ∀ key entries after, Sound entries → change key entries = some after → Sound after)
    {path : List String} (sound : entries.Sound)
    (isAltered : alterLast change path entries = some after) : after.Sound := by
  obtain ⟨key, -, isAltered⟩ := Option.bind_eq_some_iff.1 isAltered
  exact sound.alter (keeps key) isAltered

end Entries

/-! ## Documents under definition -/

/-- Whether a statement assigns a sound value, if it assigns one. -/
def Statement.IsSound : Statement → Prop
  | .assignment _ value => value.IsSound
  | _ => True

namespace Draft

variable {draft after : Draft}

theorem sound_add {statement : Statement} (isSound : statement.IsSound)
    (sound : draft.entries.Sound) (isAdded : draft.add statement = some after) :
    after.entries.Sound := by
  cases statement with
  | assignment key value =>
      obtain ⟨entries, isAltered, rfl⟩ := Option.map_eq_some_iff.1 isAdded
      exact sound.alter (fun _ _ sound isAssigned => sound.assign isSound isAssigned) isAltered
  | header path =>
      obtain ⟨entries, isAltered, rfl⟩ := Option.map_eq_some_iff.1 isAdded
      exact sound.alterLast (fun _ _ _ sound isOpened => sound.openTable isOpened) isAltered
  | elementHeader path =>
      obtain ⟨entries, isAltered, rfl⟩ := Option.map_eq_some_iff.1 isAdded
      exact sound.alterLast (fun _ _ _ sound isOpened => sound.openElement isOpened) isAltered

theorem sound_addAll {statements : List Statement}
    (areSound : ∀ statement ∈ statements, statement.IsSound) (sound : draft.entries.Sound)
    (areAdded : draft.addAll statements = some after) : after.entries.Sound := by
  induction statements generalizing draft with
  | nil =>
      cases areAdded
      exact sound
  | cons statement rest ih =>
      obtain ⟨isSound, restIsSound⟩ := List.forall_mem_cons.1 areSound
      obtain ⟨between, isAdded, areAdded⟩ := Option.bind_eq_some_iff.1 areAdded
      exact ih restIsSound (sound_add isSound sound isAdded) areAdded

end Draft

theorem entriesToValues_eq (entries : List (String × Node)) :
    entriesToValues entries = entries.map fun entry => (entry.1, entry.2.toValue) := by
  induction entries with
  | nil => rw [entriesToValues, List.map_nil]
  | cons entry rest ih => rw [entriesToValues, ih, List.map_cons]

theorem elementsToValues_eq (elements : List (List (String × Node))) :
    elementsToValues elements = elements.map fun entries => .table (entriesToValues entries) := by
  induction elements with
  | nil => rw [elementsToValues, List.map_nil]
  | cons entries rest ih => rw [elementsToValues, ih, List.map_cons]

theorem keys_entriesToValues (entries : List (String × Node)) :
    keys (entriesToValues entries) = keys entries := by
  rw [entriesToValues_eq, keys, keys, List.map_map]
  rfl

theorem forall_mem_entriesToValues {entries : List (String × Node)}
    (areSound : ∀ entry ∈ entries, entry.2.toValue.IsSound) :
    ∀ entry ∈ entriesToValues entries, entry.2.IsSound := by
  rw [entriesToValues_eq]
  intro entry isEntry
  obtain ⟨source, isSource, rfl⟩ := List.mem_map.1 isEntry
  exact areSound source isSource

/-- The value of a sound node is sound. -/
theorem Node.IsSound.toValue {node : Node} (isSound : node.IsSound) : node.toValue.IsSound := by
  induction isSound with
  | value isSound =>
      rw [Node.toValue]
      exact isSound
  | @table origin entries areDistinct areSound ih =>
      rw [Node.toValue]
      refine .table ?_ (forall_mem_entriesToValues ih)
      rw [keys_entriesToValues]
      exact areDistinct
  | @tables elements areDistinct areSound ih =>
      rw [Node.toValue, elementsToValues_eq]
      refine .array fun element isElement => ?_
      obtain ⟨entries, isSource, rfl⟩ := List.mem_map.1 isElement
      refine .table ?_ (forall_mem_entriesToValues (ih entries isSource))
      rw [keys_entriesToValues]
      exact areDistinct entries isSource

/-- Statements that assign sound values define a sound table. -/
theorem isSound_of_tableOfStatements? {statements : List Statement}
    {entries : List (String × Value)} (areSound : ∀ statement ∈ statements, statement.IsSound)
    (isDefined : tableOfStatements? statements = some entries) : (Value.table entries).IsSound := by
  obtain ⟨draft, areAdded, rfl⟩ := Option.map_eq_some_iff.1 isDefined
  have sound := Draft.sound_addAll areSound .empty areAdded
  refine .table ?_ (forall_mem_entriesToValues fun entry isEntry => ?_)
  · rw [keys_entriesToValues]
    exact sound.areDistinct
  · exact (sound.areSound entry isEntry).toValue

/-! ## Readers -/

/-- Whether a reader gives sound values only. -/
def ReadsSound (read : Reader Value) : Prop :=
  ∀ cs value rest, read cs = some (value, rest) → value.IsSound

variable {cs rest : List Char}

theorem isSound_of_integerOf? {number : Int} {value : Value}
    (isInteger : integerOf? number = some value) : value.IsSound := by
  unfold integerOf? at isInteger
  split at isInteger
  next fits =>
    cases isInteger
    exact .integer fits.1 fits.2
  next => cases isInteger

theorem isSound_of_integerOfDigits? {base : Nat} {isNegative : Bool} {digits : List Char}
    {value : Value} (isInteger : integerOfDigits? base isNegative digits = some value) :
    value.IsSound := by
  unfold integerOfDigits? at isInteger
  dsimp only at isInteger
  split at isInteger
  · cases isInteger
  · exact isSound_of_integerOf? isInteger

theorem readsSound_readInteger (base : Nat) : ReadsSound (readInteger base) := by
  intro cs value rest isRead
  obtain ⟨⟨digits, more⟩, -, isRead⟩ := Option.bind_eq_some_iff.1 isRead
  obtain ⟨number, isNumber, same⟩ := Option.bind_eq_some_iff.1 isRead
  cases same
  exact isSound_of_integerOfDigits? isNumber

theorem readsSound_readDecimal (isNegative : Bool) : ReadsSound (readDecimal isNegative) := by
  intro cs value rest isRead
  obtain ⟨⟨whole, more⟩, -, isRead⟩ := Option.bind_eq_some_iff.1 isRead
  obtain ⟨⟨fraction, more⟩, -, isRead⟩ := Option.bind_eq_some_iff.1 isRead
  obtain ⟨⟨exponent, more⟩, -, isRead⟩ := Option.bind_eq_some_iff.1 isRead
  dsimp only at isRead
  split at isRead
  · obtain ⟨number, isNumber, same⟩ := Option.bind_eq_some_iff.1 isRead
    cases same
    exact isSound_of_integerOfDigits? isNumber
  · split at isRead
    · cases isRead
      exact .float
    · cases isRead

theorem readsSound_readNumeral : ReadsSound readNumeral := by
  intro cs value rest isRead
  unfold readNumeral at isRead
  split at isRead
  · exact readsSound_readInteger 16 _ _ _ isRead
  · exact readsSound_readInteger 8 _ _ _ isRead
  · exact readsSound_readInteger 2 _ _ _ isRead
  · dsimp only at isRead
    split at isRead
    · cases isRead
      exact .float
    · cases isRead
      exact .float
    · exact readsSound_readDecimal _ _ _ _ isRead

theorem readsSound_readScalarValue : ReadsSound readScalarValue := by
  intro cs value rest isRead
  unfold readScalarValue at isRead
  split at isRead
  · obtain ⟨⟨text, more⟩, -, same⟩ := Option.map_eq_some_iff.1 isRead
    cases same
    exact .string text
  · obtain ⟨⟨text, more⟩, -, same⟩ := Option.map_eq_some_iff.1 isRead
    cases same
    exact .string text
  · cases isRead
    exact .boolean true
  · cases isRead
    exact .boolean false
  · split at isRead
    · obtain ⟨more, -, same⟩ := Option.map_eq_some_iff.1 isRead
      cases same
      exact .dateTime
    · exact readsSound_readNumeral _ _ _ isRead

section

variable {read : Reader Value}

theorem isSound_of_readElements (readsSound : ReadsSound read) {elements : List Value}
    (areRead : readElements read cs = some (elements, rest)) :
    ∀ element ∈ elements, element.IsSound := by
  fun_induction readElements read cs generalizing elements rest with
  | case1 =>
      cases areRead
      nofun
  | case2 => cases areRead
  | case3 _ last _ _ _ _ isRead =>
      cases areRead
      exact List.forall_mem_singleton.2 (readsSound _ _ _ isRead)
  | case4 _ first _ _ _ _ _ isRead ih =>
      obtain ⟨⟨others, behind⟩, othersAreRead, same⟩ := Option.map_eq_some_iff.1 areRead
      cases same
      exact List.forall_mem_cons.2 ⟨readsSound _ _ _ isRead, ih othersAreRead⟩
  | case5 => cases areRead
  | case6 => cases areRead

theorem isSound_of_readAssignment (readsSound : ReadsSound read)
    {assignment : List String × Value} (isRead : readAssignment read cs = some (assignment, rest)) :
    assignment.2.IsSound := by
  unfold readAssignment at isRead
  split at isRead
  · obtain ⟨⟨value, more⟩, isRead, same⟩ := Option.map_eq_some_iff.1 isRead
    cases same
    exact readsSound _ _ _ isRead
  · cases isRead

theorem isSound_of_readMembers (readsSound : ReadsSound read)
    {members : List (List String × Value)} (areRead : readMembers read cs = some (members, rest)) :
    ∀ member ∈ members, member.2.IsSound := by
  fun_induction readMembers read cs generalizing members rest with
  | case1 => cases areRead
  | case2 _ last _ isRead =>
      cases areRead
      exact List.forall_mem_singleton.2 (isSound_of_readAssignment readsSound isRead)
  | case3 _ first _ isRead _ _ _ ih =>
      obtain ⟨⟨others, behind⟩, othersAreRead, same⟩ := Option.map_eq_some_iff.1 areRead
      cases same
      exact List.forall_mem_cons.2
        ⟨isSound_of_readAssignment readsSound isRead, ih othersAreRead⟩
  | case4 => cases areRead
  | case5 => cases areRead

theorem readsSound_readInlineTable (readsSound : ReadsSound read) :
    ReadsSound (readInlineTable read) := by
  intro cs value rest isRead
  unfold readInlineTable at isRead
  split at isRead
  · cases isRead
    exact .table List.nodup_nil nofun
  · obtain ⟨⟨members, more⟩, areRead, isRead⟩ := Option.bind_eq_some_iff.1 isRead
    obtain ⟨entries, isDefined, same⟩ := Option.bind_eq_some_iff.1 isRead
    cases same
    refine isSound_of_tableOfStatements? ?_ isDefined
    intro statement isStatement
    obtain ⟨member, isMember, rfl⟩ := List.mem_map.1 isStatement
    exact isSound_of_readMembers readsSound areRead member isMember

end

/-- Every value that is read is sound, however deep it is. -/
theorem readsSound_readValue (levels : Nat) : ReadsSound (readValue levels) := by
  induction levels with
  | zero =>
      intro cs value rest isRead
      unfold readValue at isRead
      split at isRead
      · cases isRead
      · cases isRead
      · contradiction
      · contradiction
      · exact readsSound_readScalarValue _ _ _ isRead
  | succ levels ih =>
      intro cs value rest isRead
      unfold readValue at isRead
      split at isRead
      · contradiction
      · contradiction
      next fewer _ isSame =>
        obtain rfl : levels = fewer := Nat.succ.inj isSame
        obtain ⟨⟨elements, more⟩, areRead, same⟩ := Option.map_eq_some_iff.1 isRead
        cases same
        exact .array (isSound_of_readElements ih areRead)
      next fewer _ isSame =>
        obtain rfl : levels = fewer := Nat.succ.inj isSame
        exact readsSound_readInlineTable ih _ _ _ isRead
      · exact readsSound_readScalarValue _ _ _ isRead

/-! ## Documents -/

theorem isSound_of_readStatement {statement : Statement}
    (isRead : readStatement cs = some (statement, rest)) : statement.IsSound := by
  unfold readStatement at isRead
  split at isRead
  · unfold readHeader at isRead
    split at isRead
    · split at isRead
      · cases isRead
        trivial
      · cases isRead
    · split at isRead
      · cases isRead
        trivial
      · cases isRead
  · obtain ⟨⟨⟨key, value⟩, more⟩, isRead, same⟩ := Option.map_eq_some_iff.1 isRead
    cases same
    exact isSound_of_readAssignment (readsSound_readValue _) isRead

theorem isSound_of_readStatements {statements : List Statement}
    (areRead : readStatements cs = some statements) :
    ∀ statement ∈ statements, statement.IsSound := by
  fun_induction readStatements cs generalizing statements with
  | case1 =>
      cases areRead
      nofun
  | case2 => cases areRead
  | case3 => cases areRead
  | case4 _ first _ _ _ _ _ isRead ih =>
      obtain ⟨others, othersAreRead, rfl⟩ := Option.map_eq_some_iff.1 areRead
      exact List.forall_mem_cons.2 ⟨isSound_of_readStatement isRead, ih othersAreRead⟩
  | case5 => cases areRead

/-- **A document that is read has each of its keys once, and so has each table in it.** -/
theorem isSound_of_parse? {text : String} {document : List (String × Value)}
    (isRead : parse? text = some document) : (Value.table document).IsSound := by
  obtain ⟨statements, areRead, isDefined⟩ := Option.bind_eq_some_iff.1 isRead
  exact isSound_of_tableOfStatements? (isSound_of_readStatements areRead) isDefined

end Gatehouse.Toml
