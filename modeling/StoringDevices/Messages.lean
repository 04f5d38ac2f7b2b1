import Mathlib.Data.List.TakeWhile
import StoringDevices.Ledger

/-! # Kernel messages

A message of the USB core is a syslog header, `usb`, the path of the device, and
a text.  The header matches none of the patterns of the handlers; the port is
then read of the path, and the first label of the text is where its pattern is
found. -/
set_option autoImplicit false

namespace StoringDevices

open Regex (Matches Dead labelled literal)

/-- The patterns by which the handlers tell lines apart and read them. -/
def handlerRegexes : List (Regex Char) :=
  [storageRegex, usbRegex, newUsbRegex, disconnectionFoundRegex, idVendorAndIdProductRegex,
    idVendorRegex, idProductRegex, serialNumberRegex, productNameRegex, manufacturerRegex]

/-- A syslog header. -/
structure PlainHeader (header : CppString) : Prop where
  noNul : '\x00' ∉ header
  noPattern : ∀ regex ∈ handlerRegexes, regexSearch header regex = none

def usbMessage (header path message : CppString) : CppString :=
  header ++ ("usb ".toList ++ (path ++ (": ".toList ++ message)))

theorem cStr_of_noNul {s : CppString} (noNul : '\x00' ∉ s) : cStr s = s := by
  apply List.takeWhile_eq_self_iff.mpr
  intro c member
  apply decide_eq_true
  intro nul
  exact noNul (nul ▸ member)

theorem cStr_front {front : CppString} (noNul : '\x00' ∉ front) (s : CppString) :
    cStr (front ++ s) = front ++ cStr s := by
  apply cStr_append
  intro c member nul
  exact noNul (nul ▸ member)

theorem cStr_eq_self_iff {s : CppString} : cStr s = s ↔ '\x00' ∉ s := by
  constructor
  · intro same nul
    have kept := List.takeWhile_eq_self_iff.mp same '\x00' nul
    exact absurd kept (by simp)
  · exact cStr_of_noNul

theorem noHeader_plain : PlainHeader [] := by
  refine ⟨by simp, ?_⟩
  intro regex known
  simp only [handlerRegexes, List.mem_cons, List.not_mem_nil, or_false] at known
  rcases known with rfl | rfl | rfl | rfl | rfl | rfl | rfl | rfl | rfl | rfl <;> decide +kernel

namespace PlainHeader
variable {header : CppString} (plain : PlainHeader header)
include plain

theorem not_infix {regex : Regex Char} (known : regex ∈ handlerRegexes) {w : CppString}
    (run : Matches regex w) : ¬ w <:+: header := by
  intro inside
  have found := (regexSearch_isSome_iff header regex).mpr
    ⟨w, by rw [cStr_of_noNul plain.noNul]; exact inside, run⟩
  rw [plain.noPattern regex known] at found
  cases found

end PlainHeader

/-! ## The labels of the patterns -/

theorem matches_label {label : CppString} {accepts : Char → Bool} :
    Matches (labelled label accepts) label := by
  rw [← List.append_nil label]
  apply Matches.seq
  · rw [List.append_nil]
    exact (Regex.matches_literal_iff label label).mpr rfl
  · exact .starNil

/-- No proper rest of the label agrees with `usb ` as far as both go. -/
def Uncrossed (label : CppString) : Prop :=
  ∀ n < label.length, 0 < n → ¬ label.drop n <+: "usb ".toList ∧ ¬ "usb ".toList <+: label.drop n

instance (label : CppString) : Decidable (Uncrossed label) :=
  inferInstanceAs (Decidable (∀ n < label.length, 0 < n → _ ∧ _))

theorem Uncrossed.split {label : CppString} (uncrossed : Uncrossed label) (more : CppString) :
    ∀ a b, label = a ++ b → a ≠ [] → b ≠ [] → ¬ b <+: "usb ".toList ++ more := by
  intro a b shape before after begins
  have first := List.length_pos_iff.mpr before
  have last := List.length_pos_iff.mpr after
  have here := uncrossed a.length (by rw [shape, List.length_append]; omega) first
  rw [shape, List.drop_left] at here
  rcases Nat.le_total b.length "usb ".toList.length with short | long
  · exact here.1 (List.prefix_of_prefix_length_le begins (List.prefix_append _ _) short)
  · exact here.2 (List.prefix_of_prefix_length_le (List.prefix_append _ _) begins long)

/-- A label of a pattern does not begin in a plain header before `usb`. -/
theorem PlainHeader.dead {header label : CppString} {regex : Regex Char} (plain : PlainHeader header)
    (known : regex ∈ handlerRegexes) (run : Matches regex label) (uncrossed : Uncrossed label)
    (more : CppString) : Dead label header ("usb ".toList ++ more) :=
  Regex.dead_of_not_infix (plain.not_infix known run) (uncrossed.split more)

/-! ## The port of a message -/

theorem uncrossed_of_not_mem {label : CppString} (absent : 'u' ∉ label.tail) : Uncrossed label := by
  intro n inside pos
  obtain ⟨c, rest, shape⟩ : ∃ c rest, label.drop n = c :: rest := by
    apply List.exists_cons_of_ne_nil
    intro empty
    have width := congrArg List.length empty
    rw [List.length_drop, List.length_nil] at width
    omega
  have member : c ∈ label.tail := by
    have later : label.drop n = label.tail.drop (n - 1) := by
      rw [List.drop_tail]
      congr 1
      omega
    have inDrop : c ∈ label.tail.drop (n - 1) := by
      rw [← later, shape]
      exact List.mem_cons_self
    exact List.mem_of_mem_drop inDrop
  have ne : c ≠ 'u' := fun same => absent (same ▸ member)
  rw [shape]
  constructor
  · intro begins
    obtain ⟨_, tail⟩ := begins
    exact ne (List.cons.inj tail).1
  · intro begins
    obtain ⟨_, tail⟩ := begins
    exact ne (List.cons.inj tail).1.symm

theorem uncrossed_usb {port : CppString} (isPort : IsPort port) :
    Uncrossed ("usb ".toList ++ port) := by
  have rest : ("usb ".toList ++ port).tail = "sb ".toList ++ port := by simp
  apply uncrossed_of_not_mem
  rw [rest]
  intro member
  rcases List.mem_append.mp member with front | inside
  · exact absurd front (by simp)
  · exact isPort.ofPath.not_mem (by decide) (by decide) (by decide) inside

theorem matchHere_usbRegex {port : CppString} (isPort : IsPort port) (after : CppString) :
    Regex.matchHere usbRegex ("usb ".toList ++ (port ++ after)) =
      some ⟨[], "usb ".toList ++ port, after⟩ := by
  obtain ⟨bus, number, isBus, isNumber, rfl⟩ := isPort
  have width : after.length + 1 + 1 + 1 + 1 + 1 + 1 + 1 - after.length = 7 := by omega
  simp [Regex.matchHere, usbRegex, interfaceIdRegex, digit, Regex.ends, Regex.literal, isBus,
    isNumber, width]

theorem cStr_usbMessage {header path message : CppString} (plain : PlainHeader header)
    (clean : '\x00' ∉ path) :
    cStr (usbMessage header path message) = usbMessage header path (cStr message) := by
  unfold usbMessage
  rw [cStr_front plain.noNul, cStr_front (by simp), cStr_front clean, cStr_front (by simp)]

/-- The port is read of the first mention, whatever follows it. -/
theorem usbPort_message {line : LogLine} {header port message : CppString}
    (plain : PlainHeader header) (isPort : IsPort port)
    (text : line.text = usbMessage header port message) : usbPort line = some port := by
  have noNul : '\x00' ∉ port := isPort.ofPath.noNul
  have here : Regex.search usbRegex ("usb ".toList ++ (port ++ (": ".toList ++ cStr message))) =
      some ⟨[], "usb ".toList ++ port, ": ".toList ++ cStr message⟩ := by
    have first := matchHere_usbRegex isPort (": ".toList ++ cStr message)
    simp only [String.reduceToList, List.cons_append, Regex.search] at first ⊢
    rw [first]
  have skipped := Regex.search_skip usbRegex
    ("usb ".toList ++ (port ++ (": ".toList ++ cStr message))) header (by
      intro a b w rest split ne tail run
      obtain ⟨other, isOther, rfl⟩ := (matches_usbRegex_iff w).mp run
      have dead := plain.dead (by simp [handlerRegexes]) run (uncrossed_usb isOther)
        (port ++ (": ".toList ++ cStr message))
      apply dead a b split ne
      rw [tail]
      exact List.prefix_append _ _)
  have found : regexSearch line.text usbRegex = some ("usb ".toList ++ port) := by
    unfold regexSearch
    rw [text, cStr_usbMessage plain noNul]
    unfold usbMessage
    rw [skipped, here]
    rfl
  have read := getInterfaceIdFromRegex_append "usb ".toList port [] isPort usbFront_clean
  rw [List.append_nil] at read
  unfold usbPort
  rw [found, Option.map_some, read]

/-- The state after one connection line. -/
theorem readLines_plugged {line : LogLine} {port : CppString}
    (here : effect line ∅ = .connect port port) :
    readLines [line] {} = some ⟨(∅ : InterfacesMap).insert port (connected line none), ∅⟩ := by
  rw [readLines_eq, Option.some.injEq, State.mk.injEq]
  constructor
  · change stepInterfaces line ∅ = _
    unfold stepInterfaces
    rw [here]
    apply Std.ExtTreeMap.ext_getElem?
    intro k
    rw [apply_connect_getElem?, informed_getElem?, getElem?_insert_eq,
      Std.ExtTreeMap.getElem?_empty]
    by_cases own : port = k <;> simp [own]
  · simp [runClosings, closingOf, here, Effect.closing]

end StoringDevices
