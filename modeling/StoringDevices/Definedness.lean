import StoringDevices.Ledger

/-! # No partial operation fails

A handler is `none` when one of its partial operations is.  The replacements are
guarded by a look-up of the key; the offsets stay inside because a matched text
has its label, and because a failed search leaves an empty text in which `npos + 1`
wraps around to 0. -/
set_option autoImplicit false

namespace StoringDevices

/-! ## Offsets -/

/-- The patterns whose matched text is cut past its `=`. -/
def idRegexes : List (Regex Char) := [idVendorRegex, idProductRegex]

/-- The patterns whose matched text is cut past its `: `. -/
def textRegexes : List (Regex Char) := [serialNumberRegex, productNameRegex, manufacturerRegex]

/-- Where the cuts of a line start.  The ids are cut also after a failed search,
the texts only after a search that found something. -/
structure OffsetsInside (line : LogLine) : Prop where
  ids : ∀ regex ∈ idRegexes,
    findPlus (str (regexSearch line.text regex)) '=' 1 ≤ (str (regexSearch line.text regex)).length
  texts : ∀ regex ∈ textRegexes, ∀ found, regexSearch line.text regex = some found →
    findPlus found ':' 2 ≤ found.length

theorem findPlus_labelled (label rest : CppString) {found : CppString} {accepts : Char → Bool}
    {c : Char} (fresh : c ∉ label)
    (run : Regex.Matches (Regex.labelled (label ++ c :: rest) accepts) found) :
    findPlus found c (rest.length + 1) ≤ found.length := by
  obtain ⟨more, rfl⟩ := Regex.matches_labelled run
  rw [List.append_assoc, List.cons_append, findPlus_append fresh]
  simp only [List.length_append, List.length_cons]
  omega

theorem offsets_inside (line : LogLine) : OffsetsInside line := by
  constructor
  · intro regex known
    cases search : regexSearch line.text regex with
    | none => exact Nat.le_refl 0
    | some found =>
        have run := (regexSearch_some search).2
        simp only [idRegexes, List.mem_cons, List.not_mem_nil, or_false] at known
        rcases known with rfl | rfl
        · exact findPlus_labelled "idVendor".toList [] (by decide) run
        · exact findPlus_labelled "idProduct".toList [] (by decide) run
  · intro regex known found search
    have run := (regexSearch_some search).2
    simp only [textRegexes, List.mem_cons, List.not_mem_nil, or_false] at known
    rcases known with rfl | rfl | rfl
    · exact findPlus_labelled "SerialNumber".toList [' '] (by decide) run
    · exact findPlus_labelled "Product".toList [' '] (by decide) run
    · exact findPlus_labelled "Manufacturer".toList [' '] (by decide) run

/-! ## Handlers -/

/-- Every handler of a line returns, from these maps. -/
structure HandlersDefined (line : LogLine) (state : State) : Prop where
  storage : (checkIfStorageDevice line.text state.usbInterfacesMap).isSome = true
  information : (checkIfInformationAboutDeviceFound line state.usbInterfacesMap).isSome = true
  new : (checkIfNewDeviceConnected line.text state.usbInterfacesMap).isSome = true
  disconnected :
    (checkIfDeviceDisconnected line.text state.usbInterfacesMap state.usbMap).isSome = true

theorem handlers_defined (line : LogLine) (state : State) : HandlersDefined line state where
  storage := by rw [checkIfStorageDevice_eq, Option.isSome_some]
  information := by rw [checkIfInformationAboutDeviceFound_eq, Option.isSome_some]
  new := by rw [checkIfNewDeviceConnected_eq, Option.isSome_some]
  disconnected := by
    rw [checkIfDeviceDisconnected_getD line _ _ rfl, Option.isSome_some]

/-- Reading a log is defined: each line from the state the lines before it leave,
whatever handlers it reaches, and the flush at the end. -/
theorem reading_defined (log : List LogLine) :
    (∀ before line after, log = before ++ line :: after →
      ∃ state next, readLines before {} = some state ∧ processLine line state = some next ∧
        OffsetsInside line ∧ ∀ reached : State, HandlersDefined line reached) ∧
    ∃ state flushed, readLines log {} = some state ∧
      saveInterfacesInfoInUSBsMap state = some flushed ∧ getUSBsInfo log = some flushed.usbMap := by
  constructor
  · intro before line after _
    exact ⟨_, _, readLines_log before, processLine_eq line _, offsets_inside line,
      handlers_defined line⟩
  · obtain ⟨interfaces, flush⟩ :=
      saveInterfacesInfoInUSBsMap_usbMap ⟨loopInterfaces log, loopUsbMap log⟩
    exact ⟨_, _, readLines_log log, flush, getUSBsInfo_eq log⟩

end StoringDevices
