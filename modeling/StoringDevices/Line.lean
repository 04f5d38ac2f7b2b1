import Mathlib.Data.List.Infix
import StoringDevices.Usb

/-! # What a line of the log says

The ports a line names and what it announces, read off by the patterns of the
handlers.  Every partial operation on a matched text is defined: `substr` never
starts past the end. -/
set_option autoImplicit false

namespace StoringDevices

open Regex (Matches Occurs literal)

/-! ## Ports -/

/-- A key of the port-record map: one digit, a dash, one digit. -/
def IsPort (port : CppString) : Prop :=
  ∃ bus number, isDigit bus = true ∧ isDigit number = true ∧ port = [bus, '-', number]

instance (port : CppString) : Decidable (IsPort port) :=
  match port with
  | [bus, dash, number] =>
      decidable_of_iff (isDigit bus = true ∧ isDigit number = true ∧ dash = '-') (by
        simp only [IsPort, List.cons.injEq, and_true]
        constructor
        · rintro ⟨hb, hn, hd⟩; exact ⟨bus, number, hb, hn, rfl, hd, rfl⟩
        · rintro ⟨b, n, hb, hn, rfl, hd, rfl⟩; exact ⟨hb, hn, hd⟩)
  | [] => isFalse (by simp [IsPort])
  | [_] => isFalse (by simp [IsPort])
  | [_, _] => isFalse (by simp [IsPort])
  | _ :: _ :: _ :: _ :: _ => isFalse (by simp [IsPort])

theorem IsPort.length {port : CppString} (h : IsPort port) : port.length = 3 := by
  obtain ⟨_, _, _, _, rfl⟩ := h
  rfl

/-- A decimal number. -/
def IsNumber (s : CppString) : Prop := s ≠ [] ∧ ∀ c ∈ s, isDigit c = true

instance (s : CppString) : Decidable (IsNumber s) := inferInstanceAs (Decidable (_ ∧ _))

theorem isSpace_of_isDigit {c : Char} (digit : isDigit c = true) : isSpace c = false := by
  cases space : isSpace c with
  | false => rfl
  | true =>
      exfalso
      simp only [isSpace, Bool.or_eq_true, decide_eq_true_eq] at space
      rcases space with ((((rfl | rfl) | rfl) | rfl) | rfl) | rfl <;> revert digit <;> decide

/-- The characters of a device path. -/
def OfPath (path : CppString) : Prop := ∀ c ∈ path, isDigit c = true ∨ c = '-' ∨ c = '.'

theorem IsPort.ofPath {port : CppString} (isPort : IsPort port) : OfPath port := by
  obtain ⟨bus, number, isBus, isNumber, rfl⟩ := isPort
  intro c member
  simp only [List.mem_cons, List.not_mem_nil, or_false] at member
  rcases member with rfl | rfl | rfl
  · exact .inl isBus
  · exact .inr (.inl rfl)
  · exact .inl isNumber

theorem OfPath.not_mem {path : CppString} (ofPath : OfPath path) {c : Char}
    (digit : isDigit c = false) (dash : c ≠ '-') (dot : c ≠ '.') : c ∉ path := by
  intro member
  rcases ofPath c member with isDigit | isDash | isDot
  · rw [digit] at isDigit
    cases isDigit
  · exact dash isDash
  · exact dot isDot

theorem OfPath.noNul {path : CppString} (ofPath : OfPath path) : '\x00' ∉ path :=
  ofPath.not_mem (by decide) (by decide) (by decide)

theorem matches_interfaceIdRegex_iff (w : CppString) : Matches interfaceIdRegex w ↔ IsPort w := by
  unfold interfaceIdRegex digit IsPort
  simp only [Regex.matches_seq_iff, Regex.matches_one_iff, Regex.matches_literal_iff]
  constructor
  · intro h
    obtain ⟨_, _, rfl, ⟨bus, hb, rfl⟩, _, _, rfl, rfl, number, hn, rfl⟩ := h
    exact ⟨bus, number, hb, hn, rfl⟩
  · intro h
    obtain ⟨bus, number, hb, hn, rfl⟩ := h
    exact ⟨[bus], ['-', number], rfl, ⟨bus, hb, rfl⟩, ['-'], [number], rfl, rfl, number, hn, rfl⟩

/-! ## Searches -/

theorem regexSearch_some {line w : CppString} {regex : Regex Char}
    (found : regexSearch line regex = some w) : w <:+: cStr line ∧ Matches regex w := by
  obtain ⟨where_, success, rfl⟩ := Option.map_eq_some_iff.mp found
  obtain ⟨split, run⟩ := Regex.search_sound regex _ where_ success
  exact ⟨⟨where_.before, where_.after, split.symm⟩, run⟩

theorem regexSearch_isSome_iff (line : CppString) (regex : Regex Char) :
    (regexSearch line regex).isSome = true ↔ ∃ w, w <:+: cStr line ∧ Matches regex w := by
  unfold regexSearch
  rw [Option.isSome_map, Regex.search_isSome_iff]
  constructor
  · intro h
    obtain ⟨a, w, b, split, run⟩ := h
    exact ⟨w, ⟨a, b, split.symm⟩, run⟩
  · intro h
    obtain ⟨w, ⟨a, b, split⟩, run⟩ := h
    exact ⟨a, w, b, split.symm, run⟩

theorem cStr_append {front : CppString} (clean : ∀ c ∈ front, c ≠ '\x00') (s : CppString) :
    cStr (front ++ s) = front ++ cStr s := by
  unfold cStr
  rw [List.takeWhile_append_of_pos]
  intro c hc
  exact decide_eq_true (clean c hc)

/-- Reading the port back from a matched text whose prefix has no digit. -/
theorem getInterfaceIdFromRegex_append (front port after : CppString) (isPort : IsPort port)
    (clean : ∀ c ∈ front, isDigit c = false ∧ c ≠ '\x00') :
    getInterfaceIdFromRegex (front ++ (port ++ after)) = port := by
  obtain ⟨bus, number, hb, hn, rfl⟩ := isPort
  have busClean : bus ≠ '\x00' := by rintro rfl; revert hb; decide
  have numberClean : number ≠ '\x00' := by rintro rfl; revert hn; decide
  have text : cStr (front ++ ([bus, '-', number] ++ after)) =
      front ++ ([bus, '-', number] ++ cStr after) := by
    rw [cStr_append fun c hc => (clean c hc).2, cStr_append]
    simp [busClean, numberClean]
  have skipped := Regex.search_skip interfaceIdRegex ([bus, '-', number] ++ cStr after) front (by
    intro a b w rest split ne tail run
    obtain ⟨x, y, hx, _, rfl⟩ := (matches_interfaceIdRegex_iff w).mp run
    cases b with
    | nil => exact ne rfl
    | cons c b =>
        simp only [List.cons_append, List.cons.injEq] at tail
        have inFront : c ∈ front := by rw [split]; simp
        rw [← tail.1, (clean c inFront).1] at hx
        exact absurd hx (by simp))
  have width : (cStr after).length + 1 + 1 + 1 - (cStr after).length = 3 := by omega
  have here : Regex.matchHere interfaceIdRegex ([bus, '-', number] ++ cStr after) =
      some ⟨[], [bus, '-', number], cStr after⟩ := by
    simp [Regex.matchHere, interfaceIdRegex, digit, Regex.ends, Regex.literal, hb, hn, width]
  have first : Regex.search interfaceIdRegex ([bus, '-', number] ++ cStr after) =
      some ⟨[], [bus, '-', number], cStr after⟩ := by
    rw [← here]
    simp only [List.cons_append, Regex.search] at here ⊢
    rw [here]
  unfold getInterfaceIdFromRegex str regexSearch
  rw [text, skipped, first]
  rfl

/-! ## The ports a line names -/

def storagePort (line : LogLine) : Option CppString :=
  (regexSearch line.text storageRegex).map getInterfaceIdFromRegex

def usbPort (line : LogLine) : Option CppString :=
  (regexSearch line.text usbRegex).map getInterfaceIdFromRegex

def newPort (line : LogLine) : Option CppString :=
  (regexSearch line.text newUsbRegex).map getInterfaceIdFromRegex

theorem matches_storageRegex_iff (w : CppString) :
    Matches storageRegex w ↔ ∃ port, IsPort port ∧ w = "usb-storage ".toList ++ port := by
  unfold storageRegex
  simp only [Regex.matches_seq_iff, Regex.matches_literal_iff, matches_interfaceIdRegex_iff]
  constructor
  · rintro ⟨_, port, rfl, rfl, isPort⟩; exact ⟨port, isPort, rfl⟩
  · rintro ⟨port, isPort, rfl⟩; exact ⟨_, port, rfl, rfl, isPort⟩

theorem matches_usbRegex_iff (w : CppString) :
    Matches usbRegex w ↔ ∃ port, IsPort port ∧ w = "usb ".toList ++ port := by
  unfold usbRegex
  simp only [Regex.matches_seq_iff, Regex.matches_literal_iff, matches_interfaceIdRegex_iff]
  constructor
  · rintro ⟨_, port, rfl, rfl, isPort⟩; exact ⟨port, isPort, rfl⟩
  · rintro ⟨port, isPort, rfl⟩; exact ⟨_, port, rfl, rfl, isPort⟩

theorem matches_newUsbRegex_iff (w : CppString) :
    Matches newUsbRegex w ↔ ∃ port, IsPort port ∧ w = "usb ".toList ++ (port ++ ": new".toList) := by
  unfold newUsbRegex
  rw [Regex.matches_seq_iff]
  simp only [matches_usbRegex_iff, Regex.matches_literal_iff]
  constructor
  · intro h
    obtain ⟨_, _, rfl, ⟨port, isPort, rfl⟩, rfl⟩ := h
    exact ⟨port, isPort, List.append_assoc _ _ _⟩
  · intro h
    obtain ⟨port, isPort, rfl⟩ := h
    exact ⟨_, _, (List.append_assoc _ _ _).symm, ⟨port, isPort, rfl⟩, rfl⟩

/-- `front` before a port, as in the three patterns that name one. -/
def names (front : CppString) (line : LogLine) (port after : CppString) : Prop :=
  IsPort port ∧ front ++ (port ++ after) <:+: cStr line.text

instance (front : CppString) (line : LogLine) (port after : CppString) :
    Decidable (names front line port after) :=
  inferInstanceAs (Decidable (_ ∧ _))

theorem portOf_some {line : LogLine} {regex : Regex Char} {front after port : CppString}
    (shape : ∀ w, Matches regex w ↔ ∃ port, IsPort port ∧ w = front ++ (port ++ after))
    (clean : ∀ c ∈ front, isDigit c = false ∧ c ≠ '\x00')
    (found : (regexSearch line.text regex).map getInterfaceIdFromRegex = some port) :
    names front line port after := by
  obtain ⟨w, success, rfl⟩ := Option.map_eq_some_iff.mp found
  obtain ⟨inside, run⟩ := regexSearch_some success
  obtain ⟨port, isPort, rfl⟩ := (shape w).mp run
  rw [getInterfaceIdFromRegex_append front port after isPort clean]
  exact ⟨isPort, inside⟩

theorem portOf_none {line : LogLine} {regex : Regex Char} {front after : CppString}
    (shape : ∀ w, Matches regex w ↔ ∃ port, IsPort port ∧ w = front ++ (port ++ after))
    (failed : (regexSearch line.text regex).map getInterfaceIdFromRegex = none) (port : CppString) :
    ¬ names front line port after := by
  intro h
  obtain ⟨isPort, inside⟩ := h
  have success := (regexSearch_isSome_iff line.text regex).mpr
    ⟨_, inside, (shape _).mpr ⟨port, isPort, rfl⟩⟩
  rw [Option.map_eq_none_iff.mp failed] at success
  exact absurd success (by simp)

theorem storageFront_clean : ∀ c ∈ "usb-storage ".toList, isDigit c = false ∧ c ≠ '\x00' := by
  simp [isDigit]

theorem usbFront_clean : ∀ c ∈ "usb ".toList, isDigit c = false ∧ c ≠ '\x00' := by
  simp [isDigit]

abbrev NamesStorage (line : LogLine) (port : CppString) : Prop :=
  names "usb-storage ".toList line port []

abbrev NamesUsb (line : LogLine) (port : CppString) : Prop := names "usb ".toList line port []

abbrev NamesNew (line : LogLine) (port : CppString) : Prop :=
  names "usb ".toList line port ": new".toList

theorem storagePort_some {line : LogLine} {port : CppString} (h : storagePort line = some port) :
    NamesStorage line port :=
  portOf_some (by simpa using matches_storageRegex_iff) storageFront_clean h

theorem usbPort_some {line : LogLine} {port : CppString} (h : usbPort line = some port) :
    NamesUsb line port :=
  portOf_some (by simpa using matches_usbRegex_iff) usbFront_clean h

theorem newPort_some {line : LogLine} {port : CppString} (h : newPort line = some port) :
    NamesNew line port :=
  portOf_some matches_newUsbRegex_iff usbFront_clean h

theorem storagePort_none {line : LogLine} (h : storagePort line = none) (port : CppString) :
    ¬ NamesStorage line port :=
  portOf_none (by simpa using matches_storageRegex_iff) h port

theorem usbPort_none {line : LogLine} (h : usbPort line = none) (port : CppString) :
    ¬ NamesUsb line port :=
  portOf_none (by simpa using matches_usbRegex_iff) h port

theorem NamesNew.usb {line : LogLine} {port : CppString} (h : NamesNew line port) :
    NamesUsb line port := by
  refine ⟨h.1, List.IsInfix.trans ⟨[], ": new".toList, ?_⟩ h.2⟩
  simp

/-! ## What a line announces -/

/-- The matched text after a label of `width` characters. -/
def announcedText (line : LogLine) (regex : Regex Char) (width : Nat) : Option CppString :=
  (regexSearch line.text regex).map fun found => found.drop width

def announcedSerialNumber (line : LogLine) : Option CppString :=
  announcedText line serialNumberRegex "SerialNumber: ".length

def announcedProductName (line : LogLine) : Option CppString :=
  announcedText line productNameRegex "Product: ".length

def announcedManufacturer (line : LogLine) : Option CppString :=
  announcedText line manufacturerRegex "Manufacturer: ".length

/-- The vendor id of a line, `none` when the extraction assigns nothing. -/
def parsedIdVendor (line : LogLine) : Option Int :=
  stringToInt ((str (regexSearch line.text idVendorRegex)).drop "idVendor=".length)

def parsedIdProduct (line : LogLine) : Option Int :=
  stringToInt ((str (regexSearch line.text idProductRegex)).drop "idProduct=".length)

def describesIds (line : LogLine) : Bool :=
  (regexSearch line.text idVendorAndIdProductRegex).isSome

def disconnects (line : LogLine) : Bool :=
  (regexSearch line.text disconnectionFoundRegex).isSome

def logTime (line : LogLine) : CppString := str (regexSearch line.text dateRegex)

/-- The record of the line's port after the information handler. -/
def announce (line : LogLine) (element : UsbInterface) : UsbInterface :=
  if describesIds line then
    { element with
      idVendor := (parsedIdVendor line).getD line.unsetVendor
      idProduct := (parsedIdProduct line).getD line.unsetProduct }
  else
    match announcedSerialNumber line with
    | some serialNumber => { element with serialNumber := serialNumber }
    | none =>
        match announcedProductName line with
        | some productName => { element with productName := productName }
        | none =>
            match announcedManufacturer line with
            | some manufacturer => { element with manufacturer := manufacturer }
            | none => element

theorem findPlus_append {label : CppString} {c : Char} (fresh : c ∉ label) (rest : CppString)
    (offset : Nat) : findPlus (label ++ c :: rest) c offset = label.length + offset := by
  have position : (label ++ c :: rest).idxOf? c = some label.length := by
    rw [List.idxOf?_eq_some_iff]
    refine ⟨by simp, by simp, ?_⟩
    intro j hj
    simp only [List.getElem_append_left hj]
    intro same
    exact fresh (same ▸ List.getElem_mem hj)
  simp [findPlus, position]

theorem substr_drop (s : CppString) (position : Nat) (inside : position ≤ s.length) :
    substr s position s.length = some (s.drop position) := by
  unfold substr
  rw [if_pos inside, List.take_of_length_le (by simp)]

theorem textAfterColon_label (name w : CppString) (fresh : ':' ∉ name)
    (run : Matches (.seq (literal (name ++ ": ".toList)) (.star anyChar)) w) :
    textAfterColon w = some (w.drop (name.length + 2)) := by
  obtain ⟨label, text, rfl, same, _⟩ := (Regex.matches_seq_iff _ _ _).mp run
  rw [(Regex.matches_literal_iff _ _).mp same]
  have position : findPlus (name ++ ": ".toList ++ text) ':' 2 = name.length + 2 := by
    rw [List.append_assoc]
    exact findPlus_append fresh _ 2
  unfold textAfterColon
  rw [position, substr_drop]
  simp

theorem idAfterEquals_label (name : CppString) (found : Option CppString) (fresh : '=' ∉ name)
    (run : ∀ w ∈ found, Matches (.seq (literal (name ++ "=".toList)) (.star digit)) w) :
    idAfterEquals (str found) = some (stringToInt ((str found).drop (name.length + 1))) := by
  cases found with
  | none => rfl
  | some w =>
      obtain ⟨label, text, rfl, same, _⟩ := (Regex.matches_seq_iff _ _ _).mp (run w rfl)
      rw [(Regex.matches_literal_iff _ _).mp same]
      have position : findPlus (name ++ "=".toList ++ text) '=' 1 = name.length + 1 := by
        rw [List.append_assoc]
        exact findPlus_append fresh _ 1
      simp only [idAfterEquals, str, Option.getD_some]
      rw [position, substr_drop _ _ (by simp)]
      rfl

end StoringDevices
