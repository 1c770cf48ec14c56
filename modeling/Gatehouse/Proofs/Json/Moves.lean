import Gatehouse.Proofs.Json.Runs

/-!
# What a byte can do to the reader

`Moves` lists, without regard to bytes, what the reader may do next: go on inside a string, a bare
word or a number, open a container, take a value or a key, turn to what comes next, or close a
container.  Every byte leads along such moves (`leads_of_step`); a byte behind a number makes two
of them.  What holds of a reader and survives every move therefore survives every text.

Two such facts are drawn here.  A reader that has begun with a value does not return to where it
has not (`Begun`), and a number that was read or is being read stays in the value that is read
(`ShowsNumber`).
-/

namespace Gatehouse.Json

set_option autoImplicit false

/-! ## Moves -/

/-- The values of a container that is open. -/
def Frame.values : Frame → List Json
  | .array reversed => reversed
  | .object reversed _ => reversed.map Prod.snd

/-- The container when it is closed. -/
def Frame.toJson : Frame → Json
  | .array reversed => .array reversed.reverse
  | .object reversed _ => .object reversed.reverse

namespace Mode

/-- Whether the reader is inside a string, a bare word or a number. -/
def IsToken : Mode → Prop
  | .text _ _ _ | .word _ _ | .number _ => True
  | _ => False

/-- Whether the reader is neither inside a number nor behind the value. -/
def IsAtRest : Mode → Prop
  | .number _ | .finished _ _ => False
  | _ => True

end Mode

namespace Reader

/-- What the reader may do next. -/
inductive Moves : Reader → Reader → Prop
  /-- It goes on or begins a string, a bare word or a number. -/
  | token {stack : List Frame} {mode mode' : Mode} (rest : mode.IsAtRest)
      (isToken : mode'.IsToken) : Moves ⟨stack, mode⟩ ⟨stack, mode'⟩
  /-- It goes on inside a number. -/
  | number {stack : List Frame} {numeral numeral' : Numeral} :
      Moves ⟨stack, .number numeral⟩ ⟨stack, .number numeral'⟩
  /-- A number ends. -/
  | ended {stack : List Frame} {numeral : Numeral} :
      Moves ⟨stack, .number numeral⟩ (accept stack numeral.toJson false)
  /-- It takes another value. -/
  | accepted {stack : List Frame} {mode : Mode} {value : Json} {isDelimited : Bool}
      (rest : mode.IsAtRest) : Moves ⟨stack, mode⟩ (accept stack value isDelimited)
  /-- It opens a container. -/
  | opened {stack : List Frame} {mode mode' : Mode} {frame : Frame} (rest : mode.IsAtRest)
      (rest' : mode'.IsAtRest) : Moves ⟨stack, mode⟩ ⟨frame :: stack, mode'⟩
  /-- It takes a key. -/
  | named {members : List (String × Json)} {key key' : String} {outer : List Frame} {mode : Mode}
      (rest : mode.IsAtRest) :
      Moves ⟨.object members key :: outer, mode⟩ ⟨.object members key' :: outer, .colon⟩
  /-- It turns to what comes next in a container. -/
  | turned {stack : List Frame} {mode mode' : Mode} (rest : mode = .colon ∨ mode = .afterValue)
      (rest' : mode'.IsAtRest) : Moves ⟨stack, mode⟩ ⟨stack, mode'⟩
  /-- It closes a container. -/
  | closed {frame : Frame} {outer : List Frame} {mode : Mode} (rest : mode.IsAtRest) :
      Moves ⟨frame :: outer, mode⟩ (accept outer frame.toJson true)
  /-- It takes a blank behind the value. -/
  | finished {stack : List Frame} {value : Json} {isDelimited : Bool} :
      Moves ⟨stack, .finished value isDelimited⟩ ⟨[], .finished value true⟩

/-- Whether moves lead from one state to another. -/
inductive Leads : Reader → Reader → Prop
  | refl (reader : Reader) : Leads reader reader
  | head {reader middle last : Reader} (first : Moves reader middle) (others : Leads middle last) :
      Leads reader last

theorem Leads.trans {reader middle last : Reader} (front : Leads reader middle)
    (back : Leads middle last) : Leads reader last := by
  induction front with
  | refl => exact back
  | head first others ih => exact .head first (ih back)

/-- What survives every move survives all of them. -/
theorem Leads.keeps {holds : Reader → Prop}
    (keeps : ∀ {reader next}, Moves reader next → holds reader → holds next)
    {reader last : Reader} (leads : Leads reader last) (first : holds reader) : holds last := by
  induction leads with
  | refl => exact first
  | head move others ih => exact ih (keeps move first)

theorem Moves.leads {reader last : Reader} (move : Moves reader last) : Leads reader last :=
  .head move (.refl last)

/-! ## Every byte leads along moves -/

variable {stack : List Frame} {mode : Mode} {byte : UInt8} {next : Reader}

theorem leads_of_token (rest : mode.IsAtRest) {mode' : Mode}
    (stepped : (.ok ⟨stack, mode'⟩ : Except Refusal Reader) = .ok next)
    (isToken : mode'.IsToken) :
    Leads ⟨stack, mode⟩ next := by
  cases stepped
  exact (Moves.token rest isToken).leads

theorem leads_of_openFrame (rest : mode.IsAtRest) {frame : Frame} {mode' : Mode}
    (stepped : openFrame stack frame mode' = .ok next) (rest' : mode'.IsAtRest) :
    Leads ⟨stack, mode⟩ next := by
  rw [openFrame] at stepped
  split at stepped <;> cases stepped
  exact (Moves.opened rest rest').leads

theorem leads_of_beginValue (rest : mode.IsAtRest)
    (stepped : beginValue stack mode byte = .ok next) : Leads ⟨stack, mode⟩ next := by
  simp only [beginValue] at stepped
  repeat' split at stepped
  · cases stepped
    exact .refl _
  · exact leads_of_token rest stepped trivial
  · exact leads_of_openFrame rest stepped trivial
  · exact leads_of_openFrame rest stepped trivial
  · exact leads_of_token rest stepped trivial
  · exact leads_of_token rest stepped trivial
  · exact leads_of_token rest stepped trivial
  · exact leads_of_token rest stepped trivial
  · cases stepped

theorem leads_of_beginKey (rest : mode.IsAtRest)
    (stepped : beginKey stack mode byte = .ok next) : Leads ⟨stack, mode⟩ next := by
  simp only [beginKey] at stepped
  repeat' split at stepped
  · cases stepped
    exact .refl _
  · exact leads_of_token rest stepped trivial
  · cases stepped

theorem leads_of_continueContainer (stepped : continueContainer stack byte = .ok next) :
    Leads ⟨stack, .afterValue⟩ next := by
  simp only [continueContainer] at stepped
  repeat' split at stepped
  all_goals cases stepped
  · exact .refl _
  · exact (Moves.turned (.inr rfl) (by trivial)).leads
  · exact (@Moves.closed (.array _) _ _ (by trivial)).leads
  · exact (Moves.turned (.inr rfl) (by trivial)).leads
  · exact (@Moves.closed (.object _ _) _ _ (by trivial)).leads

theorem leads_of_continueFinished {value : Json} {isDelimited : Bool}
    (stepped : continueFinished value isDelimited byte = .ok next) :
    Leads ⟨stack, .finished value isDelimited⟩ next := by
  simp only [continueFinished] at stepped
  repeat' split at stepped
  all_goals cases stepped
  exact Moves.finished.leads

theorem leads_of_endText (rest : mode.IsAtRest) {purpose : Purpose} {draft : TextDraft}
    (stepped : endText stack purpose draft = .ok next) : Leads ⟨stack, mode⟩ next := by
  simp only [endText] at stepped
  repeat' split at stepped
  all_goals cases stepped
  · exact (Moves.accepted rest).leads
  · exact (Moves.named rest).leads

theorem leads_of_endEscape (rest : mode.IsAtRest) {purpose : Purpose} {draft : TextDraft}
    {value leading : Option Nat} (stepped : endEscape stack purpose draft value leading = .ok next) :
    Leads ⟨stack, mode⟩ next := by
  simp only [endEscape] at stepped
  repeat' split at stepped
  all_goals first | exact leads_of_token rest stepped trivial | cases stepped

theorem leads_of_continueText (rest : mode.IsAtRest) {purpose : Purpose} {stage : TextStage}
    {draft : TextDraft} (stepped : continueText stack purpose stage draft byte = .ok next) :
    Leads ⟨stack, mode⟩ next := by
  simp only [continueText] at stepped
  repeat' split at stepped
  all_goals first
    | exact leads_of_token rest stepped trivial
    | exact leads_of_endText rest stepped
    | exact leads_of_endEscape rest stepped
    | cases stepped

theorem leads_of_continueWord (rest : mode.IsAtRest) {expected : List UInt8} {value : Json}
    (stepped : continueWord stack expected value byte = .ok next) : Leads ⟨stack, mode⟩ next := by
  simp only [continueWord] at stepped
  repeat' split at stepped
  all_goals cases stepped
  · exact (Moves.accepted rest).leads
  · exact leads_of_token rest rfl trivial

theorem leads_of_continueAccepted {value : Json} {isDelimited : Bool}
    (stepped : continueAccepted (accept stack value isDelimited) byte = .ok next) :
    Leads (accept stack value isDelimited) next := by
  cases stack with
  | nil => exact leads_of_continueFinished stepped
  | cons frame outer => cases frame <;> exact leads_of_continueContainer stepped

theorem leads_of_continueNumber {numeral : Numeral}
    (stepped : continueNumber stack numeral byte = .ok next) :
    Leads ⟨stack, .number numeral⟩ next := by
  simp only [continueNumber] at stepped
  repeat' split at stepped
  · cases stepped
    exact Moves.number.leads
  · cases stepped
  · exact .head .ended (leads_of_continueAccepted stepped)
  · cases stepped

/-- Every byte leads along moves. -/
theorem leads_of_step {reader : Reader} (stepped : reader.step byte = .ok next) :
    Leads reader next := by
  obtain ⟨stack, mode⟩ := reader
  cases mode with
  | value => exact leads_of_beginValue trivial stepped
  | firstElement =>
      simp only [step] at stepped
      repeat' split at stepped
      · cases stepped
        exact (@Moves.closed (.array _) _ _ (by trivial)).leads
      · exact leads_of_beginValue trivial stepped
      · cases stepped
  | firstKey =>
      simp only [step] at stepped
      repeat' split at stepped
      · cases stepped
        exact (@Moves.closed (.object _ _) _ _ (by trivial)).leads
      · exact leads_of_beginKey trivial stepped
      · cases stepped
  | key => exact leads_of_beginKey trivial stepped
  | colon =>
      simp only [step] at stepped
      repeat' split at stepped
      all_goals cases stepped
      · exact .refl _
      · exact (Moves.turned (.inl rfl) (by trivial)).leads
  | afterValue => exact leads_of_continueContainer stepped
  | text purpose stage draft => exact leads_of_continueText trivial stepped
  | word expected value => exact leads_of_continueWord trivial stepped
  | number numeral => exact leads_of_continueNumber stepped
  | finished value isDelimited => exact leads_of_continueFinished stepped

/-- Every text leads along moves. -/
theorem leads_of_reads {reader last : Reader} {bytes : List UInt8}
    (run : Reads reader bytes last) : Leads reader last := by
  induction bytes generalizing reader with
  | nil =>
      rw [run.nil_cases]
      exact .refl reader
  | cons byte bytes ih =>
      obtain ⟨middle, stepped, others⟩ := run.cons_cases
      exact (leads_of_step stepped).trans (ih others)

/-! ## Having begun -/

/-- Whether the reader has taken more than blanks: it is inside a token or a container, or behind
the value. -/
def Begun (reader : Reader) : Prop :=
  reader.stack = [] → reader.mode.IsToken ∨ ∃ value isDelimited,
    reader.mode = .finished value isDelimited

/-- Inside a container the value has begun. -/
theorem begun_of_cons (frame : Frame) (outer : List Frame) (mode : Mode) :
    Begun ⟨frame :: outer, mode⟩ :=
  fun empty => absurd empty (List.cons_ne_nil frame outer)

theorem begun_accept (stack : List Frame) (value : Json) (isDelimited : Bool) :
    (accept stack value isDelimited).Begun := by
  cases stack with
  | nil => exact fun _ => .inr ⟨value, isDelimited, rfl⟩
  | cons frame outer => cases frame <;> exact begun_of_cons _ _ _

/-- A move does not lead back to where nothing has begun. -/
theorem Moves.begun {reader next : Reader} (move : Moves reader next) (begun : reader.Begun) :
    next.Begun := by
  cases move with
  | token rest isToken => exact fun _ => .inl isToken
  | number => exact fun _ => .inl trivial
  | ended => exact begun_accept _ _ _
  | accepted rest => exact begun_accept _ _ _
  | opened rest rest' => exact begun_of_cons _ _ _
  | named rest => exact begun_of_cons _ _ _
  | turned rest rest' =>
      intro empty
      rcases begun empty with isToken | ⟨value, isDelimited, isFinished⟩
      · rcases rest with rfl | rfl <;> exact isToken.elim
      · rcases rest with rfl | rfl <;> cases isFinished
  | closed rest => exact begun_accept _ _ _
  | finished => exact fun _ => .inr ⟨_, _, rfl⟩

/-! ## Numbers -/

end Reader

/-- Whether there is a number in a value. -/
inductive HasNumber : Json → Prop
  | number (literal : String) : HasNumber (.number literal)
  | element {value : Json} {elements : List Json} (present : value ∈ elements)
      (hasNumber : HasNumber value) : HasNumber (.array elements)
  | member {member : String × Json} {members : List (String × Json)} (present : member ∈ members)
      (hasNumber : HasNumber member.2) : HasNumber (.object members)

/-- Whether there is a number in a container that is open. -/
def Frame.ShowsNumber (frame : Frame) : Prop :=
  ∃ value ∈ frame.values, HasNumber value

/-- A number in a container stays in it when it is closed. -/
theorem Frame.ShowsNumber.toJson {frame : Frame} (shows : frame.ShowsNumber) :
    HasNumber frame.toJson := by
  obtain ⟨value, present, hasNumber⟩ := shows
  cases frame with
  | array reversed => exact .element (List.mem_reverse.2 present) hasNumber
  | object reversed key =>
      obtain ⟨member, present', rfl⟩ := List.mem_map.1 present
      exact .member (List.mem_reverse.2 present') hasNumber

namespace Reader

/-- Whether the reader is inside a number, or a number was read into what will be the value. -/
def ShowsNumber (reader : Reader) : Prop :=
  match reader.mode with
  | .number _ => True
  | .finished value _ => HasNumber value
  | _ => ∃ frame ∈ reader.stack, frame.ShowsNumber

/-- At rest a number shows in the containers only. -/
theorem showsNumber_iff_of_isAtRest {stack : List Frame} {mode : Mode} (rest : mode.IsAtRest) :
    ShowsNumber ⟨stack, mode⟩ ↔ ∃ frame ∈ stack, frame.ShowsNumber := by
  cases mode <;> first | exact Iff.rfl | exact rest.elim

/-- A number in a container or in the value it takes stays there. -/
theorem showsNumber_accept {stack : List Frame} {value : Json} {isDelimited : Bool}
    (shows : HasNumber value ∨ ∃ frame ∈ stack, frame.ShowsNumber) :
    (accept stack value isDelimited).ShowsNumber := by
  cases stack with
  | nil =>
      rcases shows with hasNumber | ⟨frame, absent, _⟩
      · exact hasNumber
      · cases absent
  | cons frame outer =>
      -- The innermost container has the values it had and the one it takes.
      obtain ⟨grown, isGrown, values⟩ : ∃ grown : Frame,
          accept (frame :: outer) value isDelimited = ⟨grown :: outer, .afterValue⟩ ∧
            grown.values = value :: frame.values := by
        cases frame <;> exact ⟨_, rfl, rfl⟩
      rw [isGrown]
      change ∃ frame ∈ grown :: outer, frame.ShowsNumber
      rcases shows with hasNumber | ⟨shown, present, element, isElement, hasNumber⟩
      · exact ⟨grown, .head _, value, values ▸ .head _, hasNumber⟩
      · rcases List.mem_cons.1 present with rfl | later
        · exact ⟨grown, .head _, element, values ▸ .tail _ isElement, hasNumber⟩
        · exact ⟨shown, .tail _ later, element, isElement, hasNumber⟩

/-- A move keeps numbers. -/
theorem Moves.showsNumber {reader next : Reader} (move : Moves reader next)
    (shows : reader.ShowsNumber) : next.ShowsNumber := by
  cases move with
  | @token stack mode mode' rest isToken =>
      rw [showsNumber_iff_of_isAtRest rest] at shows
      cases mode' <;> first | exact shows | trivial
  | number => trivial
  | ended => exact showsNumber_accept (.inl (.number _))
  | accepted rest =>
      rw [showsNumber_iff_of_isAtRest rest] at shows
      exact showsNumber_accept (.inr shows)
  | opened rest rest' =>
      rw [showsNumber_iff_of_isAtRest rest] at shows
      rw [showsNumber_iff_of_isAtRest rest']
      obtain ⟨frame, present, shows⟩ := shows
      exact ⟨frame, .tail _ present, shows⟩
  | @named members key key' outer mode rest =>
      rw [showsNumber_iff_of_isAtRest rest] at shows
      change ∃ frame ∈ Frame.object members key' :: outer, frame.ShowsNumber
      obtain ⟨frame, present, shows⟩ := shows
      rcases List.mem_cons.1 present with rfl | later
      · exact ⟨.object members key', .head _, shows⟩
      · exact ⟨frame, .tail _ later, shows⟩
  | turned rest rest' =>
      rcases rest with rfl | rfl <;> exact (showsNumber_iff_of_isAtRest rest').2 shows
  | closed rest =>
      rw [showsNumber_iff_of_isAtRest rest] at shows
      obtain ⟨frame, present, shows⟩ := shows
      rcases List.mem_cons.1 present with rfl | later
      · exact showsNumber_accept (.inl shows.toJson)
      · exact showsNumber_accept (.inr ⟨frame, later, shows⟩)
  | finished => exact shows

end Reader

end Gatehouse.Json
