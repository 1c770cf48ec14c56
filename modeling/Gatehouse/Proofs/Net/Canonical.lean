import Gatehouse.Proofs.Net.Hosts
import Gatehouse.Settings

/-!
# The text written for an address

The text written for an IP address is one of those that stand for it (`hostText_text`), whichever
form is written: the dotted form for an embedded IPv4 address, a double colon for the longest run
of zeros if it is longer than one group, or all groups.

A port is written behind the last colon of a socket address, in digits, so that what stands before
that colon is what was written there and nothing in it is taken for the port
(`SocketAddress.parse?_append_port`).  Two statements follow from this: which hosts can be listened
on (`Settings.socketAddress_of_host`), and that an address is read back from its text.
-/

namespace Gatehouse.Net

set_option autoImplicit false

/-! ## Joined texts -/

theorem toList_joined {α : Type} (separator : Char) (text : α → String) (values : List α) :
    ((String.singleton separator).intercalate (values.map text)).toList =
      [separator].intercalate (values.map fun value => (text value).toList) := by
  rw [String.toList_intercalate, List.map_map, String.toList_singleton]
  rfl

theorem byteText_toString (byte : UInt8) : ByteText (toString byte.toNat).toList byte := by
  refine ⟨Number.numeral_toString byte.toNat, fun isZero => ?_⟩
  rw [Nat.toString_eq_repr, Nat.toList_repr] at isZero
  rw [Number.eq_zero_of_head?_toDigits (by decide) isZero]
  rfl

theorem dottedText_dotted {values : List UInt8} {bytes : Vector UInt8 4}
    (areBytes : bytes.toList = values) : DottedText (dotted values).toList bytes := by
  rw [dotted, show "." = String.singleton '.' from rfl, toList_joined]
  refine .mk ?_
  rw [areBytes, List.forall₂_map_left_iff, List.forall₂_same]
  exact fun byte _ => byteText_toString byte

theorem groupText_groupText (group : UInt16) : GroupText (groupText group).toList group := by
  rw [groupText, String.toList_ofList]
  refine ⟨Number.numeral_toDigits (by decide) group.toNat, ?_⟩
  exact (Nat.length_toDigits_le_iff (by decide) (by decide)).2 group.toNat_lt

/-- The texts of groups. -/
theorem exists_groupsText (groups : List UInt16) :
    ∃ pieces, List.Forall₂ GroupText pieces groups ∧
      (groupsText groups).toList = [':'].intercalate pieces := by
  refine ⟨groups.map fun group => (groupText group).toList, ?_, toList_joined ':' groupText groups⟩
  rw [List.forall₂_map_left_iff, List.forall₂_same]
  exact fun group _ => groupText_groupText group

/-! ## Runs of zeros -/

theorem zerosInFront_splits (groups : List UInt16) :
    groups = List.replicate (zerosInFront groups) 0 ++ groups.dropWhile (· == 0) := by
  have areZeros : groups.takeWhile (· == 0) = List.replicate (zerosInFront groups) 0 := by
    refine List.eq_replicate_iff.2 ⟨rfl, fun group isThere => ?_⟩
    simpa using List.all_eq_true.1 List.all_takeWhile group isThere
  rw [← areZeros, List.takeWhile_append_dropWhile]

/-- The longest run of zeros is a run of zeros at its place. -/
theorem longestZeros_splits (groups : List UInt16) (position : Nat) :
    ∃ front back, groups = front ++ List.replicate (longestZeros position groups).2 0 ++ back ∧
      (longestZeros position groups).1 = position + front.length := by
  induction groups generalizing position with
  | nil => exact ⟨[], [], rfl, rfl⟩
  | cons group groups ih =>
      rw [longestZeros]
      split
      next => exact ⟨[], _, zerosInFront_splits (group :: groups), rfl⟩
      next =>
        obtain ⟨front, back, splits, isPlace⟩ := ih (position + 1)
        refine ⟨group :: front, back, ?_, ?_⟩
        · exact congrArg (group :: ·) splits
        · rw [isPlace, List.length_cons]
          omega

/-! ## IP addresses -/

/-- A group has a high byte and a low one. -/
theorem toNat_eq_bytes (group : UInt16) :
    group.toNat = (group / 256).toUInt8.toNat * 256 + group.toUInt8.toNat := by
  have isBase : (256 : UInt16).toNat = 256 := rfl
  have isSmall := group.toNat_lt
  rw [UInt16.toNat_toUInt8, UInt16.toNat_toUInt8, UInt16.toNat_div, isBase]
  omega

/-- The form for an embedded IPv4 address. -/
theorem literal_mapped {groups : Vector UInt16 8} {high low : UInt16}
    (isMapped : groups.toList = [0, 0, 0, 0, 0, 0xffff, high, low]) :
    Literal ("::ffff:" ++ dotted [(high / 256).toUInt8, high.toUInt8, (low / 256).toUInt8,
      low.toUInt8]).toList groups := by
  have isDotted := dottedText_dotted
    (rfl : #v[(high / 256).toUInt8, high.toUInt8, (low / 256).toUInt8, low.toUInt8].toList = _)
  have isLast : GroupText ['f', 'f', 'f', 'f'] 0xffff := groupText_groupText 0xffff
  have arePieces := Pieces.cons isLast
    (.embedded isDotted (toNat_eq_bytes high) (toNat_eq_bytes low))
  have isLiteral := Literal.compressed .nil arePieces (Nat.zero_lt_succ 4) isMapped
  simpa using isLiteral

/-- The form with a double colon. -/
theorem literal_compressed {groups : Vector UInt16 8} {front back : List UInt16} {zeros : Nat}
    (splits : groups.toList = front ++ List.replicate zeros 0 ++ back) (notIdle : 0 < zeros) :
    Literal (groupsText front ++ "::" ++ groupsText back).toList groups := by
  obtain ⟨before, areGroups, beforeText⟩ := exists_groupsText front
  obtain ⟨behind, areBackGroups, behindText⟩ := exists_groupsText back
  have isLiteral := Literal.compressed areGroups (pieces_of_groups areBackGroups) notIdle splits
  rw [← beforeText, ← behindText] at isLiteral
  simpa using isLiteral

theorem literal_ipv6Text {values : List UInt16} {groups : Vector UInt16 8}
    (areGroups : groups.toList = values) : Literal (ipv6Text values).toList groups := by
  unfold ipv6Text
  split
  next => exact literal_mapped areGroups
  next =>
    obtain ⟨front, back, splits, isPlace⟩ := longestZeros_splits values 0
    generalize longestZeros 0 values = run at splits isPlace
    obtain ⟨position, length⟩ := run
    obtain rfl : position = front.length := isPlace.trans (Nat.zero_add _)
    dsimp only at splits ⊢
    split
    next isLong =>
      have isFront : values.take front.length = front := by
        rw [splits, List.append_assoc, List.take_left]
      have isBack : values.drop (front.length + length) = back := by
        rw [splits, List.drop_left' (by simp)]
      rw [isFront, isBack]
      exact literal_compressed (areGroups.trans splits) (Nat.zero_lt_of_lt isLong)
    next =>
      obtain ⟨pieces, arePieces, piecesText⟩ := exists_groupsText values
      rw [piecesText]
      exact .full (pieces_of_groups (areGroups ▸ arePieces))

/-- **The text written for an IP address stands for it.** -/
theorem hostText_text (ip : IpAddress) : HostText ip.text.toList ip := by
  cases ip with
  | v4 bytes => exact .v4 (dottedText_dotted rfl)
  | v6 groups scope =>
      have isLiteral := literal_ipv6Text (rfl : groups.toList = groups.toList)
      by_cases noScope : scope = 0
      · subst noScope
        simpa [IpAddress.text] using HostText.v6 isLiteral
      · have isScope := Number.numeral_toString scope.toNat
        simpa [IpAddress.text, noScope] using HostText.v6Scoped isLiteral isScope

/-! ## Ports -/

/-- What is written before a port is read as an IP address, and the port as it is. -/
theorem SocketAddress.parse?_append_port (host : String) (port : UInt16) :
    SocketAddress.parse? (host ++ ":" ++ toString port.toNat) =
      (IpAddress.parse? host.toList).map fun ip => ⟨ip, port⟩ := by
  have numeral := Number.numeral_toString port.toNat
  have isCut : Text.cutAtLast (· == ':') (host ++ ":" ++ toString port.toNat).toList =
      some (host.toList, (toString port.toNat).toList) := by
    refine Text.cutAtLast_eq_some.2 ⟨':', ?_, rfl, fun c isThere => beq_false_of_ne ?_⟩
    · simp
    · rintro rfl
      exact numeral.not_mem (by decide) rfl isThere
  have isPort : Number.decimalBelow? UInt16.size (toString port.toNat).toList = some port.toNat :=
    Number.decimalBelow?_eq_some_iff.2 ⟨numeral, port.toNat_lt⟩
  rw [SocketAddress.parse?, isCut]
  simp only [Option.bind_eq_bind, Option.bind_some, isPort, UInt16.ofNat_toNat]
  cases IpAddress.parse? host.toList <;> rfl

/-- An address is read back from the text written for it. -/
theorem SocketAddress.parse?_text (address : SocketAddress) :
    SocketAddress.parse? address.text = some address := by
  rw [SocketAddress.text, parse?_append_port, IpAddress.parse?_eq_some_iff.2 (hostText_text _)]
  rfl

end Gatehouse.Net

namespace Gatehouse.Settings

open Net

/-- **Exactly the hosts that stand for an IP address can be listened on.**  The address has that IP
address and the port of the settings, whatever the host is; for any other host there is a fault of
the configuration.  And an address is read back from the text written for it. -/
theorem socketAddress_of_host (settings : Settings) :
    ((∃ address, settings.socketAddress = .ok address) ↔
      ∃ ip, HostText settings.server.host.toList ip) ∧
    (∀ address, settings.socketAddress = .ok address ↔
      HostText settings.server.host.toList address.ip ∧ address.port = settings.server.port) ∧
    (∀ fault, settings.socketAddress = .error fault → ∃ message, fault = .configuration message) ∧
    ∀ address : SocketAddress, SocketAddress.parse? address.text = some address := by
  have isRead (address : SocketAddress) : settings.socketAddress = .ok address ↔
      HostText settings.server.host.toList address.ip ∧ address.port = settings.server.port := by
    rw [socketAddress, bindAddress, SocketAddress.parse?_append_port,
      ← IpAddress.parse?_eq_some_iff]
    obtain ⟨ip, port⟩ := address
    cases IpAddress.parse? settings.server.host.toList <;> simp [eq_comm]
  refine ⟨⟨?_, ?_⟩, isRead, ?_, SocketAddress.parse?_text⟩
  · rintro ⟨address, isAddress⟩
    exact ⟨address.ip, ((isRead address).1 isAddress).1⟩
  · rintro ⟨ip, isHost⟩
    exact ⟨⟨ip, settings.server.port⟩, (isRead _).2 ⟨isHost, rfl⟩⟩
  · intro fault isFault
    unfold socketAddress at isFault
    split at isFault
    next =>
      cases isFault
      exact ⟨_, rfl⟩
    next => cases isFault

end Gatehouse.Settings
