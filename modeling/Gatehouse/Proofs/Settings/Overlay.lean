import Gatehouse.Proofs.Toml.Documents
import Gatehouse.Settings

/-!
# The default settings overlaid

What a document says about the settings is which values it gives for which keys (`Gives`), whatever
the order of its sections and keys.  A setting that is given takes the value, if the value is of its
kind, and one that is not given keeps its default (`Overlaid`).  This is all that reading settings
comes to (`ofDocument?_eq_some_iff`): the keys of a document are distinct, so that the value found
first is the only one (`find?_eq_some_iff`), and a section that is missing has the defaults of its
keys (`sectionOf?_eq`).

The main statement is `parse_is_overlay`, which also tells what the environment changes.
-/

namespace Gatehouse.Settings

set_option autoImplicit false

/-! ## Documents -/

/-- Whether a document gives a value for a key of a section. -/
def Gives (document : List (String × Toml.Value)) (heading key : String) (value : Toml.Value) :
    Prop :=
  ∃ entries, (heading, .table entries) ∈ document ∧ (key, value) ∈ entries

/-- The headings of the sections. -/
def headings : List String := ["server", "database", "mail", "logging"]

/-- Whether the sections that a document has are tables. -/
def HasTables (document : List (String × Toml.Value)) : Prop :=
  ∀ heading ∈ headings, ∀ value, (heading, value) ∈ document → ∃ entries, value = .table entries

/-- Whether a value is a table. -/
def isTable : Toml.Value → Bool
  | .table _ => true
  | _ => false

theorem hasTables_iff {document : List (String × Toml.Value)} :
    HasTables document ↔
      ∀ entry ∈ document, entry.1 ∈ headings → isTable entry.2 = true := by
  have isTable_iff (value : Toml.Value) :
      isTable value = true ↔ ∃ entries, value = .table entries := by
    cases value <;> simp [isTable]
  simp only [isTable_iff, Prod.forall]
  constructor
  · intro hasTables heading value isEntry isHeading
    exact hasTables heading isHeading value isEntry
  · intro areTables heading isHeading value isEntry
    exact areTables heading value isEntry isHeading

instance {document : List (String × Toml.Value)} : Decidable (HasTables document) :=
  decidable_of_iff _ hasTables_iff.symm

/-- A key with a meaning, and the values that it may have. -/
structure KnownKey where
  heading : String
  key : String
  Fits : Toml.Value → Prop

/-- Whether a value is a text. -/
def IsText (value : Toml.Value) : Prop :=
  ∃ text, value = .string text

/-- Whether a value is a natural number. -/
def IsNatural (value : Toml.Value) : Prop :=
  ∃ number : Nat, value = .integer number

/-- Whether a value is a natural number up to a greatest one. -/
def IsNaturalUpTo (greatest : Nat) (value : Toml.Value) : Prop :=
  ∃ number : Nat, number ≤ greatest ∧ value = .integer number

/-- The keys with a meaning. -/
def knownKeys : List KnownKey :=
  [⟨"server", "host", IsText⟩,
   ⟨"server", "port", IsNaturalUpTo 65535⟩,
   ⟨"server", "shutdown_timeout_secs", IsNatural⟩,
   ⟨"database", "url", IsText⟩,
   ⟨"database", "max_connections", IsNaturalUpTo 4294967295⟩,
   ⟨"mail", "smtp_url", IsText⟩,
   ⟨"mail", "sender", IsText⟩,
   ⟨"logging", "level", IsText⟩,
   ⟨"logging", "file", IsText⟩]

/-- Whether all that a document gives for keys with a meaning fits them. -/
def Fits (document : List (String × Toml.Value)) : Prop :=
  ∀ known ∈ knownKeys, ∀ value, Gives document known.heading known.key value → known.Fits value

/-- What a setting becomes: what is given for it, or its default. -/
inductive Overlaid {α : Type} (document : List (String × Toml.Value)) (heading key : String)
    (means : Toml.Value → α → Prop) (otherwise : α) : α → Prop
  | given {value : Toml.Value} {setting : α} (isGiven : Gives document heading key value)
      (isMeant : means value setting) : Overlaid document heading key means otherwise setting
  | absent (notGiven : ∀ value, ¬Gives document heading key value) :
      Overlaid document heading key means otherwise otherwise

/-- Whether settings are the default ones overlaid with those of a document. -/
structure IsOverlay (settings : Settings) (document : List (String × Toml.Value)) : Prop where
  host : Overlaid document "server" "host" (fun value text => value = .string text)
    default.server.host settings.server.host
  port : Overlaid document "server" "port"
    (fun value (port : UInt16) => value = .integer port.toNat)
    default.server.port settings.server.port
  shutdownTimeout : Overlaid document "server" "shutdown_timeout_secs"
    (fun value (seconds : Nat) => value = .integer seconds)
    default.server.shutdownTimeout settings.server.shutdownTimeout
  url : Overlaid document "database" "url" (fun value text => value = .string text)
    default.database.url settings.database.url
  maxConnections : Overlaid document "database" "max_connections"
    (fun value (count : UInt32) => value = .integer count.toNat)
    default.database.maxConnections settings.database.maxConnections
  relayUrl : Overlaid document "mail" "smtp_url"
    (fun value url => ∃ text, value = .string text ∧ url = some text)
    default.mail.relayUrl settings.mail.relayUrl
  sender : Overlaid document "mail" "sender" (fun value text => value = .string text)
    default.mail.sender settings.mail.sender
  level : Overlaid document "logging" "level" (fun value text => value = .string text)
    default.log.level settings.log.level
  file : Overlaid document "logging" "file"
    (fun value file => ∃ text, value = .string text ∧ file = some text)
    default.log.file settings.log.file

/-! ## Look-ups -/

/-- The value that a document gives for a key of a section that is a table. -/
def find? (document : List (String × Toml.Value)) (heading key : String) : Option Toml.Value :=
  match valueOf? document heading with
  | some (.table entries) => valueOf? entries key
  | _ => none

/-- What a setting is read as from the value that is given for it, if one is. -/
def overlay? {α : Type} (read : Toml.Value → Option α) (otherwise : α) :
    Option Toml.Value → Option α
  | some value => read value
  | none => some otherwise

variable {document : List (String × Toml.Value)} {heading key : String}

theorem valueOf?_eq_some_iff {entries : List (String × Toml.Value)} {value : Toml.Value}
    (areDistinct : (Toml.keys entries).Nodup) :
    valueOf? entries key = some value ↔ (key, value) ∈ entries := by
  rw [valueOf?, Option.map_eq_some_iff]
  constructor
  · rintro ⟨entry, isFound, rfl⟩
    have isKey : entry.1 = key := by simpa using List.find?_some isFound
    rw [← isKey]
    exact List.mem_of_find?_eq_some isFound
  · intro isEntry
    induction entries with
    | nil => cases isEntry
    | cons first rest ih =>
        obtain ⟨isNew, areDistinct⟩ := List.nodup_cons.1 areDistinct
        rcases List.mem_cons.1 isEntry with rfl | isLater
        · exact ⟨(key, value), by simp, rfl⟩
        · have isOther : first.1 ≠ key := by
            rintro rfl
            exact isNew (List.mem_map.2 ⟨_, isLater, rfl⟩)
          simpa [List.find?_cons, isOther] using ih areDistinct isLater

/-- In a sound document the value that is found is the one that is given. -/
theorem find?_eq_some_iff (isSound : (Toml.Value.table document).IsSound) {value : Toml.Value} :
    find? document heading key = some value ↔ Gives document heading key value := by
  cases isSound with
  | table areDistinct areSound =>
      have distinctWithin {entries : List (String × Toml.Value)}
          (isEntry : (heading, .table entries) ∈ document) : (Toml.keys entries).Nodup := by
        cases areSound _ isEntry with
        | table areDistinct _ => exact areDistinct
      constructor
      · intro isFound
        unfold find? at isFound
        split at isFound
        next entries isSection =>
          have isEntry := (valueOf?_eq_some_iff areDistinct).1 isSection
          exact ⟨entries, isEntry, (valueOf?_eq_some_iff (distinctWithin isEntry)).1 isFound⟩
        next => cases isFound
      · rintro ⟨entries, isEntry, isGiven⟩
        rw [find?, (valueOf?_eq_some_iff areDistinct).2 isEntry]
        exact (valueOf?_eq_some_iff (distinctWithin isEntry)).2 isGiven

theorem isSound_of_gives (isSound : (Toml.Value.table document).IsSound) {value : Toml.Value}
    (isGiven : Gives document heading key value) : value.IsSound := by
  obtain ⟨entries, isEntry, isGiven⟩ := isGiven
  cases isSound with
  | table _ areSound =>
      cases areSound _ isEntry with
      | table _ areSound => exact areSound _ isGiven

/-! ## Kinds of settings -/

/-- Whether a reader reads from the values that fit, and from no others, what they mean. -/
structure Reads {α : Type} (read : Toml.Value → Option α) (means : Toml.Value → α → Prop)
    (fits : Toml.Value → Prop) : Prop where
  means_iff : ∀ {value : Toml.Value}, value.IsSound →
    ∀ setting, read value = some setting ↔ means value setting
  fits_iff : ∀ {value : Toml.Value}, (∃ setting, means value setting) ↔ fits value

theorem textOf?_eq_some_iff {value : Toml.Value} {text : String} :
    textOf? value = some text ↔ value = .string text := by
  cases value <;> simp [textOf?]

theorem reads_text : Reads textOf? (fun value text => value = .string text) IsText where
  means_iff _ _ := textOf?_eq_some_iff
  fits_iff := Iff.rfl

theorem reads_optionalText :
    Reads (fun value => (textOf? value).map some)
      (fun value setting => ∃ text, value = .string text ∧ setting = some text) IsText where
  means_iff {value} _ setting := by
    rw [Option.map_eq_some_iff]
    constructor
    · rintro ⟨text, isText, rfl⟩
      exact ⟨text, textOf?_eq_some_iff.1 isText, rfl⟩
    · rintro ⟨text, isText, rfl⟩
      exact ⟨text, textOf?_eq_some_iff.2 isText, rfl⟩
  fits_iff {value} := by
    constructor
    · rintro ⟨setting, text, isText, -⟩
      exact ⟨text, isText⟩
    · rintro ⟨text, isText⟩
      exact ⟨some text, text, isText, rfl⟩

theorem naturalOf?_eq_some_iff {limit number : Nat} {value : Toml.Value} :
    naturalOf? limit value = some number ↔ number < limit ∧ value = .integer number := by
  cases value with
  | integer given =>
      simp only [naturalOf?, Toml.Value.integer.injEq]
      split
      next isWithin =>
        rw [Option.some_inj]
        omega
      next notWithin =>
        simp only [reduceCtorEq, false_iff]
        omega
  | _ => simp [naturalOf?]

/-- An integer is short enough to be a number of seconds. -/
theorem reads_natural :
    Reads (naturalOf? UInt64.size) (fun value (number : Nat) => value = .integer number)
      IsNatural where
  means_iff {value} isSound number := by
    rw [naturalOf?_eq_some_iff, and_iff_right_iff_imp]
    rintro rfl
    cases isSound with
    | integer least most =>
        have size : UInt64.size = 18446744073709551616 := rfl
        omega
  fits_iff := Iff.rfl

/-- A setting that is kept as a word takes the natural numbers that fit into the word. -/
theorem reads_word {α : Type} {toNat : α → Nat} {ofNat : Nat → α} {greatest : Nat}
    (toNat_lt : ∀ word, toNat word < greatest + 1) (ofNat_toNat : ∀ word, ofNat (toNat word) = word)
    (toNat_ofNat : ∀ {number}, number < greatest + 1 → toNat (ofNat number) = number) :
    Reads (fun value => (naturalOf? (greatest + 1) value).map ofNat)
      (fun value word => value = .integer (toNat word)) (IsNaturalUpTo greatest) where
  means_iff {value} _ word := by
    rw [Option.map_eq_some_iff]
    constructor
    · rintro ⟨number, isRead, rfl⟩
      obtain ⟨isShort, rfl⟩ := naturalOf?_eq_some_iff.1 isRead
      rw [toNat_ofNat isShort]
    · rintro rfl
      exact ⟨toNat word, naturalOf?_eq_some_iff.2 ⟨toNat_lt word, rfl⟩, ofNat_toNat word⟩
  fits_iff {value} := by
    constructor
    · rintro ⟨word, rfl⟩
      exact ⟨toNat word, Nat.le_of_lt_succ (toNat_lt word), rfl⟩
    · rintro ⟨number, isShort, rfl⟩
      refine ⟨ofNat number, ?_⟩
      rw [toNat_ofNat (Nat.lt_succ_of_le isShort)]

theorem reads_port :
    Reads (fun value => (naturalOf? UInt16.size value).map UInt16.ofNat)
      (fun value (port : UInt16) => value = .integer port.toNat) (IsNaturalUpTo 65535) :=
  reads_word UInt16.toNat_lt (fun _ => UInt16.ofNat_toNat) UInt16.toNat_ofNat_of_lt'

theorem reads_count :
    Reads (fun value => (naturalOf? UInt32.size value).map UInt32.ofNat)
      (fun value (count : UInt32) => value = .integer count.toNat) (IsNaturalUpTo 4294967295) :=
  reads_word UInt32.toNat_lt (fun _ => UInt32.ofNat_toNat) UInt32.toNat_ofNat_of_lt'

/-! ## Settings one by one -/

section

variable {α : Type} {read : Toml.Value → Option α} {means : Toml.Value → α → Prop}
  {fits : Toml.Value → Prop} {otherwise : α}

theorem overlay?_eq_some_iff (reads : Reads read means fits)
    (isSound : (Toml.Value.table document).IsSound) {setting : α} :
    overlay? read otherwise (find? document heading key) = some setting ↔
      Overlaid document heading key means otherwise setting := by
  constructor
  · intro isRead
    cases isFound : find? document heading key with
    | none =>
        rw [isFound] at isRead
        cases isRead
        refine .absent fun value isGiven => ?_
        rw [← find?_eq_some_iff isSound, isFound] at isGiven
        cases isGiven
    | some value =>
        rw [isFound] at isRead
        have isGiven := (find?_eq_some_iff isSound).1 isFound
        exact .given isGiven ((reads.means_iff (isSound_of_gives isSound isGiven) setting).1 isRead)
  · rintro (⟨isGiven, isMeant⟩ | notGiven)
    · rw [(find?_eq_some_iff isSound).2 isGiven]
      exact (reads.means_iff (isSound_of_gives isSound isGiven) setting).2 isMeant
    · have notFound : find? document heading key = none := by
        rw [Option.eq_none_iff_forall_ne_some]
        intro value isFound
        exact notGiven value ((find?_eq_some_iff isSound).1 isFound)
      rw [notFound]
      rfl

/-- A setting can be overlaid exactly if what is given for it fits. -/
theorem exists_overlaid_iff (reads : Reads read means fits)
    (isSound : (Toml.Value.table document).IsSound) :
    (∃ setting, Overlaid document heading key means otherwise setting) ↔
      ∀ value, Gives document heading key value → fits value := by
  constructor
  · rintro ⟨setting, isOverlaid⟩ value isGiven
    have isFound := (find?_eq_some_iff isSound).2 isGiven
    have isRead := (overlay?_eq_some_iff reads isSound).2 isOverlaid
    rw [isFound] at isRead
    have isMeant := (reads.means_iff (isSound_of_gives isSound isGiven) setting).1 isRead
    exact reads.fits_iff.1 ⟨setting, isMeant⟩
  · intro fitting
    by_cases isGiven : ∃ value, Gives document heading key value
    · obtain ⟨value, isGiven⟩ := isGiven
      obtain ⟨setting, isMeant⟩ := reads.fits_iff.2 (fitting value isGiven)
      exact ⟨setting, .given isGiven isMeant⟩
    · exact ⟨otherwise, .absent (not_exists.1 isGiven)⟩

theorem setting_eq_overlay? (given : Option Toml.Value) :
    setting read otherwise (some given) = overlay? read otherwise given := by
  cases given <;> rfl

end

/-! ## Sections -/

section

variable (isSound : (Toml.Value.table document).IsSound) (hasTables : HasTables document)

include isSound hasTables

/-- A section is missing or a table. -/
theorem section_cases (isHeading : heading ∈ headings) :
    valueOf? document heading = none ∨
      ∃ entries, valueOf? document heading = some (.table entries) := by
  cases isSection : valueOf? document heading with
  | none => exact .inl rfl
  | some value =>
      cases isSound with
      | table areDistinct _ =>
          have isEntry := (valueOf?_eq_some_iff areDistinct).1 isSection
          obtain ⟨entries, rfl⟩ := hasTables heading isHeading value isEntry
          exact .inr ⟨entries, rfl⟩

/-- If a section has the same default as its settings have one by one, it does not matter to them
whether the section is missing or they are missing in it. -/
theorem sectionOf?_eq {α : Type} {read : Toml.Value → Option α} {names : List String}
    {build : List (Option Toml.Value) → Option α} {otherwise : α} (isHeading : heading ∈ headings)
    (isRead : ∀ value, read value = (givenBy names value).bind build)
    (sameDefault : build (names.map fun _ => none) = some otherwise) :
    sectionOf? read otherwise document heading = build (names.map (find? document heading)) := by
  rcases section_cases isSound hasTables isHeading with isMissing | ⟨entries, isThere⟩
  · have noneGiven : names.map (find? document heading) = names.map fun _ => none := by
      apply List.map_congr_left
      intro name _
      rw [find?, isMissing]
    rw [sectionOf?, isMissing, noneGiven, sameDefault]
  · have asGiven : names.map (find? document heading) = names.map (valueOf? entries) := by
      apply List.map_congr_left
      intro name _
      rw [find?, isThere]
    rw [sectionOf?, isThere, asGiven]
    exact isRead _

theorem server_eq_some_iff {server : ServerSettings} :
    sectionOf? serverIn? default.server document "server" = some server ↔
      overlay? textOf? default.server.host (find? document "server" "host") = some server.host ∧
      overlay? (fun value => (naturalOf? UInt16.size value).map UInt16.ofNat) default.server.port
        (find? document "server" "port") = some server.port ∧
      overlay? (naturalOf? UInt64.size) default.server.shutdownTimeout
        (find? document "server" "shutdown_timeout_secs") = some server.shutdownTimeout := by
  obtain ⟨host, port, shutdownTimeout⟩ := server
  have isSection : sectionOf? serverIn? default.server document "server" = _ :=
    sectionOf?_eq isSound hasTables (by decide) (fun _ => rfl) rfl
  rw [isSection]
  simp [← setting_eq_overlay?, Option.bind_eq_some_iff]

theorem database_eq_some_iff {database : DatabaseSettings} :
    sectionOf? databaseIn? default.database document "database" = some database ↔
      overlay? textOf? default.database.url (find? document "database" "url") =
        some database.url ∧
      overlay? (fun value => (naturalOf? UInt32.size value).map UInt32.ofNat)
        default.database.maxConnections (find? document "database" "max_connections") =
        some database.maxConnections := by
  obtain ⟨url, maxConnections⟩ := database
  have isSection : sectionOf? databaseIn? default.database document "database" = _ :=
    sectionOf?_eq isSound hasTables (by decide) (fun _ => rfl) rfl
  rw [isSection]
  simp [← setting_eq_overlay?, Option.bind_eq_some_iff]

theorem mail_eq_some_iff {mail : MailSettings} :
    sectionOf? mailIn? default.mail document "mail" = some mail ↔
      overlay? (fun value => (textOf? value).map some) default.mail.relayUrl
        (find? document "mail" "smtp_url") = some mail.relayUrl ∧
      overlay? textOf? default.mail.sender (find? document "mail" "sender") = some mail.sender := by
  obtain ⟨relayUrl, sender⟩ := mail
  have isSection : sectionOf? mailIn? default.mail document "mail" = _ :=
    sectionOf?_eq isSound hasTables (by decide) (fun _ => rfl) rfl
  rw [isSection]
  simp [← setting_eq_overlay?, Option.bind_eq_some_iff]

theorem log_eq_some_iff {log : LogSettings} :
    sectionOf? logIn? default.log document "logging" = some log ↔
      overlay? textOf? default.log.level (find? document "logging" "level") = some log.level ∧
      overlay? (fun value => (textOf? value).map some) default.log.file
        (find? document "logging" "file") = some log.file := by
  obtain ⟨level, file⟩ := log
  have isSection : sectionOf? logIn? default.log document "logging" = _ :=
    sectionOf?_eq isSound hasTables (by decide) (fun _ => rfl) rfl
  rw [isSection]
  simp [← setting_eq_overlay?, Option.bind_eq_some_iff]

/-- What a document is read as is the default settings overlaid with it. -/
theorem ofDocument?_eq_some_iff {settings : Settings} :
    ofDocument? document = some settings ↔ settings.IsOverlay document := by
  obtain ⟨server, database, mail, log⟩ := settings
  have parts : ofDocument? document = some ⟨server, database, mail, log⟩ ↔
      sectionOf? serverIn? default.server document "server" = some server ∧
      sectionOf? databaseIn? default.database document "database" = some database ∧
      sectionOf? mailIn? default.mail document "mail" = some mail ∧
      sectionOf? logIn? default.log document "logging" = some log := by
    simp [ofDocument?, Option.bind_eq_some_iff]
  rw [parts, server_eq_some_iff isSound hasTables, database_eq_some_iff isSound hasTables,
    mail_eq_some_iff isSound hasTables, log_eq_some_iff isSound hasTables]
  simp only [overlay?_eq_some_iff reads_text isSound, overlay?_eq_some_iff reads_port isSound,
    overlay?_eq_some_iff reads_natural isSound, overlay?_eq_some_iff reads_count isSound,
    overlay?_eq_some_iff reads_optionalText isSound]
  constructor
  · rintro ⟨⟨host, port, shutdownTimeout⟩, ⟨url, maxConnections⟩, ⟨relayUrl, sender⟩, level, file⟩
    exact ⟨host, port, shutdownTimeout, url, maxConnections, relayUrl, sender, level, file⟩
  · rintro ⟨host, port, shutdownTimeout, url, maxConnections, relayUrl, sender, level, file⟩
    exact ⟨⟨host, port, shutdownTimeout⟩, ⟨url, maxConnections⟩, ⟨relayUrl, sender⟩, level, file⟩

omit hasTables in
/-- There are settings for a document exactly if what it gives fits. -/
theorem exists_isOverlay_iff :
    (∃ settings : Settings, settings.IsOverlay document) ↔ Fits document := by
  simp only [Fits, knownKeys, List.forall_mem_cons, List.not_mem_nil, false_implies, implies_true,
    and_true]
  constructor
  · rintro ⟨settings, isOverlay⟩
    exact ⟨(exists_overlaid_iff reads_text isSound).1 ⟨_, isOverlay.host⟩,
      (exists_overlaid_iff reads_port isSound).1 ⟨_, isOverlay.port⟩,
      (exists_overlaid_iff reads_natural isSound).1 ⟨_, isOverlay.shutdownTimeout⟩,
      (exists_overlaid_iff reads_text isSound).1 ⟨_, isOverlay.url⟩,
      (exists_overlaid_iff reads_count isSound).1 ⟨_, isOverlay.maxConnections⟩,
      (exists_overlaid_iff reads_optionalText isSound).1 ⟨_, isOverlay.relayUrl⟩,
      (exists_overlaid_iff reads_text isSound).1 ⟨_, isOverlay.sender⟩,
      (exists_overlaid_iff reads_text isSound).1 ⟨_, isOverlay.level⟩,
      (exists_overlaid_iff reads_optionalText isSound).1 ⟨_, isOverlay.file⟩⟩
  · rintro ⟨host, port, shutdownTimeout, url, maxConnections, relayUrl, sender, level, file⟩
    obtain ⟨host, isHost⟩ := (exists_overlaid_iff reads_text isSound).2 host
    obtain ⟨port, isPort⟩ := (exists_overlaid_iff reads_port isSound).2 port
    obtain ⟨seconds, isTimeout⟩ := (exists_overlaid_iff reads_natural isSound).2 shutdownTimeout
    obtain ⟨url, isUrl⟩ := (exists_overlaid_iff reads_text isSound).2 url
    obtain ⟨count, isCount⟩ := (exists_overlaid_iff reads_count isSound).2 maxConnections
    obtain ⟨relayUrl, isRelayUrl⟩ := (exists_overlaid_iff reads_optionalText isSound).2 relayUrl
    obtain ⟨sender, isSender⟩ := (exists_overlaid_iff reads_text isSound).2 sender
    obtain ⟨level, isLevel⟩ := (exists_overlaid_iff reads_text isSound).2 level
    obtain ⟨file, isFile⟩ := (exists_overlaid_iff reads_optionalText isSound).2 file
    exact ⟨⟨⟨host, port, seconds⟩, ⟨url, count⟩, ⟨relayUrl, sender⟩, ⟨level, file⟩⟩,
      isHost, isPort, isTimeout, isUrl, isCount, isRelayUrl, isSender, isLevel, isFile⟩

end

/-- Whether two documents give the same values for the keys with a meaning. -/
def AgreeOnKnown (first second : List (String × Toml.Value)) : Prop :=
  ∀ known ∈ knownKeys, ∀ value,
    Gives first known.heading known.key value ↔ Gives second known.heading known.key value

theorem AgreeOnKnown.symm {first second : List (String × Toml.Value)}
    (agree : AgreeOnKnown first second) : AgreeOnKnown second first :=
  fun known isKnown value => (agree known isKnown value).symm

theorem Overlaid.congr {α : Type} {first second : List (String × Toml.Value)}
    {means : Toml.Value → α → Prop} {otherwise setting : α}
    (agree : ∀ value, Gives first heading key value ↔ Gives second heading key value)
    (isOverlaid : Overlaid first heading key means otherwise setting) :
    Overlaid second heading key means otherwise setting := by
  rcases isOverlaid with ⟨isGiven, isMeant⟩ | notGiven
  · exact .given ((agree _).1 isGiven) isMeant
  · exact .absent fun value => mt (agree value).2 (notGiven value)

/-- Only what a document gives for keys with a meaning counts. -/
theorem IsOverlay.congr {settings : Settings} {first second : List (String × Toml.Value)}
    (agree : AgreeOnKnown first second) (isOverlay : settings.IsOverlay first) :
    settings.IsOverlay second := by
  simp only [AgreeOnKnown, knownKeys, List.forall_mem_cons, List.not_mem_nil, false_implies,
    implies_true, and_true] at agree
  obtain ⟨host, port, shutdownTimeout, url, maxConnections, relayUrl, sender, level, file⟩ := agree
  exact ⟨isOverlay.host.congr host, isOverlay.port.congr port,
    isOverlay.shutdownTimeout.congr shutdownTimeout, isOverlay.url.congr url,
    isOverlay.maxConnections.congr maxConnections, isOverlay.relayUrl.congr relayUrl,
    isOverlay.sender.congr sender, isOverlay.level.congr level, isOverlay.file.congr file⟩

/-! ## The environment -/

/-- What a setting becomes: the text of a variable that is set and not empty, or what it was. -/
inductive Replaced {α : Type} (given : Option String) (means : String → α) (former : α) : α → Prop
  | set {text : String} (isSet : given = some text) (notEmpty : text ≠ "") :
      Replaced given means former (means text)
  | kept (notSet : ∀ text, given = some text → text = "") :
      Replaced given means former former

/-- Whether settings are others of which those that the environment gives have been replaced. -/
structure IsOverridden (settings : Settings) (environment : Environment) (after : Settings) :
    Prop where
  url : Replaced environment.databaseUrl id settings.database.url after.database.url
  relayUrl : Replaced environment.relayUrl some settings.mail.relayUrl after.mail.relayUrl
  server : after.server = settings.server
  maxConnections : after.database.maxConnections = settings.database.maxConnections
  sender : after.mail.sender = settings.mail.sender
  log : after.log = settings.log

theorem replaced_iff {α : Type} {given : Option String} {means : String → α}
    {former after : α} :
    Replaced given means former after ↔
      after = ((nonEmpty? given).map means).getD former := by
  constructor
  · rintro (⟨isSet, notEmpty⟩ | notSet)
    · rw [isSet, nonEmpty?, if_neg (by simpa using notEmpty)]
      rfl
    · cases given with
      | none => rfl
      | some text =>
          rw [notSet text rfl]
          rfl
  · rintro rfl
    cases given with
    | none => exact .kept nofun
    | some text =>
        rw [nonEmpty?]
        by_cases isEmpty : text = ""
        · rw [if_pos (by simp [isEmpty])]
          exact .kept fun _ same => Option.some.inj same ▸ isEmpty
        · rw [if_neg (by simpa using isEmpty)]
          exact .set rfl isEmpty

theorem isOverridden_iff {settings after : Settings} {environment : Environment} :
    IsOverridden settings environment after ↔ after = settings.override environment := by
  have or_eq (given former : Option String) : given.or former = (given.map some).getD former := by
    cases given <;> rfl
  obtain ⟨server, ⟨url, maxConnections⟩, ⟨relayUrl, sender⟩, log⟩ := after
  simp only [override, mk.injEq, DatabaseSettings.mk.injEq, MailSettings.mk.injEq]
  constructor
  · rintro ⟨url, relayUrl, server, maxConnections, sender, log⟩
    rw [or_eq]
    refine ⟨server, ⟨?_, maxConnections⟩, ⟨replaced_iff.1 relayUrl, sender⟩, log⟩
    simpa using replaced_iff.1 url
  · rintro ⟨server, ⟨url, maxConnections⟩, ⟨relayUrl, sender⟩, log⟩
    rw [or_eq] at relayUrl
    refine ⟨?_, replaced_iff.2 relayUrl, server, maxConnections, sender, log⟩
    exact replaced_iff.2 (by simpa using url)

/-- What the environment gives is not changed by what it gives. -/
theorem override_override (settings : Settings) (environment : Environment) :
    (settings.override environment).override environment = settings.override environment := by
  simp only [override]
  cases nonEmpty? environment.relayUrl <;> cases nonEmpty? environment.databaseUrl <;> rfl

/-! ## Texts -/

theorem parse_eq_ok_iff {text : String} {settings : Settings} :
    parse text = .ok settings ↔
      ∃ document, Toml.parse? text = some document ∧ ofDocument? document = some settings := by
  rw [← Option.bind_eq_some_iff, parse]
  cases (Toml.parse? text).bind ofDocument? <;> simp

theorem parse_eq_ok_iff_isOverlay {text : String} {settings : Settings}
    {document : List (String × Toml.Value)} (isRead : Toml.parse? text = some document)
    (hasTables : HasTables document) : parse text = .ok settings ↔ settings.IsOverlay document := by
  rw [← ofDocument?_eq_some_iff (Toml.isSound_of_parse? isRead) hasTables, parse_eq_ok_iff, isRead]
  simp

/-- Settings are read, or there is one fault. -/
theorem parse_cases (text : String) :
    (∃ settings, parse text = .ok settings) ∨ parse text = .error parseFault := by
  unfold parse
  split
  · exact .inr rfl
  next settings _ => exact .inl ⟨settings, rfl⟩

/-- **Settings are the default ones overlaid with a document and then with the environment.**  They
are read exactly if the text is a document in which all that is given for keys with a meaning fits,
and the fault is one of the configuration otherwise.  What is read has the values that are given for
these keys and the defaults for the others; so documents that give the same for them, in whatever
order and beside whatever other keys and sections, are read alike.  Of the environment each variable
that is set and not empty replaces its setting, once and for all. -/
theorem parse_is_overlay (text : String)
    (hasTables : ∀ document, Toml.parse? text = some document → HasTables document) :
    ((∃ settings, parse text = .ok settings) ↔
      ∃ document, Toml.parse? text = some document ∧ Fits document) ∧
    (∀ fault, parse text = .error fault → ∃ message, fault = .configuration message) ∧
    (∀ document, Toml.parse? text = some document →
      ∀ settings, parse text = .ok settings ↔ settings.IsOverlay document) ∧
    (∀ document other otherDocument, Toml.parse? text = some document →
      Toml.parse? other = some otherDocument → HasTables otherDocument →
      AgreeOnKnown document otherDocument → parse other = parse text) ∧
    (∀ (settings : Settings) environment after,
      IsOverridden settings environment after ↔ after = settings.override environment) ∧
    ∀ (settings : Settings) environment,
      (settings.override environment).override environment = settings.override environment := by
  refine ⟨⟨?_, ?_⟩, ?_, ?_, ?_, fun _ _ _ => isOverridden_iff, override_override⟩
  · rintro ⟨settings, isParsed⟩
    obtain ⟨document, isRead, -⟩ := parse_eq_ok_iff.1 isParsed
    have isOverlay := (parse_eq_ok_iff_isOverlay isRead (hasTables document isRead)).1 isParsed
    exact ⟨document, isRead,
      (exists_isOverlay_iff (Toml.isSound_of_parse? isRead)).1 ⟨settings, isOverlay⟩⟩
  · rintro ⟨document, isRead, fitting⟩
    obtain ⟨settings, isOverlay⟩ :=
      (exists_isOverlay_iff (Toml.isSound_of_parse? isRead)).2 fitting
    exact ⟨settings, (parse_eq_ok_iff_isOverlay isRead (hasTables document isRead)).2 isOverlay⟩
  · intro fault isFault
    rcases parse_cases text with ⟨settings, isParsed⟩ | isParseFault
    · rw [isParsed] at isFault
      cases isFault
    · rw [isParseFault] at isFault
      cases isFault
      exact ⟨_, rfl⟩
  · intro document isRead settings
    exact parse_eq_ok_iff_isOverlay isRead (hasTables document isRead)
  · intro document other otherDocument isRead otherIsRead otherHasTables agree
    have sameSettings (settings : Settings) :
        parse other = .ok settings ↔ parse text = .ok settings := by
      rw [parse_eq_ok_iff_isOverlay otherIsRead otherHasTables,
        parse_eq_ok_iff_isOverlay isRead (hasTables document isRead)]
      exact ⟨.congr agree.symm, .congr agree⟩
    rcases parse_cases text with ⟨settings, isParsed⟩ | isFault
    · rw [isParsed]
      exact (sameSettings settings).2 isParsed
    · rcases parse_cases other with ⟨settings, isParsed⟩ | otherIsFault
      · rw [isParsed]
        exact ((sameSettings settings).1 isParsed).symm
      · rw [isFault, otherIsFault]

/-- A text with a section that gives a setting and an unknown key, and one that gives nothing. -/
def sampleText : String := "[server]\nport = 8080\ncolour = 'red'\n\n[mail]\n"

theorem parse_is_overlay_sampleText :
    ∃ document, Toml.parse? sampleText = some document ∧ HasTables document ∧
      IsOverlay { default with server := { default.server with port := 8080 } } document := by
  have hasTables : ∀ document ∈ Toml.parse? sampleText, HasTables document := by decide +kernel
  have isDefined : (Toml.parse? sampleText).bind ofDocument? =
      some { default with server := { default.server with port := 8080 } } := by
    decide +kernel
  have isParsed := parse_eq_ok_iff.2 (Option.bind_eq_some_iff.1 isDefined)
  have isOverlay := parse_is_overlay sampleText hasTables
  obtain ⟨document, isRead, -⟩ := isOverlay.1.1 ⟨_, isParsed⟩
  exact ⟨document, isRead, hasTables document isRead,
    (isOverlay.2.2.1 document isRead _).1 isParsed⟩

end Gatehouse.Settings
