import Mathlib.Data.List.Basic
import StoringDevices.Lib.Regex

/-! # The syslog reader of usb.cpp

A `std::string` is the list of its characters, a byte being the character with
that code, and a `std::map` keyed by strings is an ordered map.  What C++ leaves
undefined is an `Option`: the dereference of `find` in the two replacement
functions when the key is absent, and `substr` past the end. -/
set_option autoImplicit false

namespace StoringDevices

/-! ## Strings, streams and regular expressions -/

abbrev CppString := List Char

abbrev CppMap (V : Type) := Std.ExtTreeMap CppString V

/-- What a `c_str` argument holds: the string up to its first NUL. -/
def cStr (s : CppString) : CppString := s.takeWhile fun c => c ≠ '\x00'

/-- `regex_search` on `line.c_str()`; the result is the matched text. -/
def regexSearch (line : CppString) (regex : Regex Char) : Option CppString :=
  (regex.search (cStr line)).map Regex.Found.text

/-- `regex_found.str()`, which is empty after a failed search. -/
def str (found : Option CppString) : CppString := found.getD []

/-- `s.find(c) + offset`; `npos + offset` wraps around to `offset - 1`. -/
def findPlus (s : CppString) (c : Char) (offset : Nat) : Nat :=
  match s.idxOf? c with
  | some position => position + offset
  | none => offset - 1

/-- `s.substr(position, length)`, which throws when it starts past the end. -/
def substr (s : CppString) (position length : Nat) : Option CppString :=
  if position ≤ s.length then some ((s.drop position).take length) else none

def isSpace (c : Char) : Bool :=
  c = ' ' || c = '\t' || c = '\n' || c = '\x0b' || c = '\x0c' || c = '\r'

def isDigit (c : Char) : Bool := '0' ≤ c && c ≤ '9'

def decimalValue (digits : CppString) : Nat :=
  digits.foldl (fun value c => value * 10 + (c.toNat - '0'.toNat)) 0

/-- The `int` nearest to a number. -/
def nearestInt (value : Int) : Int :=
  if value < -2147483648 then -2147483648 else if 2147483647 < value then 2147483647 else value

/-- Stream extraction into an `int`.  `none` is the extraction that finds
nothing but blanks and returns before it writes; a text that is not a number
stores 0, and a number out of range the nearest bound. -/
def stringToInt (stringToConvert : CppString) : Option Int :=
  match stringToConvert.dropWhile isSpace with
  | [] => none
  | c :: rest =>
      let magnitude : Int := decimalValue ((if c = '-' ∨ c = '+' then rest else c :: rest).takeWhile isDigit)
      let value := if c = '-' then -magnitude else magnitude
      some (nearestInt value)

def digit : Regex Char := .one isDigit

/-- `.` matches everything but a line terminator. -/
def anyChar : Regex Char := .one fun c => c ≠ '\n' ∧ c ≠ '\r'

def interfaceIdRegex : Regex Char := .seq digit (.seq (Regex.literal "-".toList) digit)

def storageRegex : Regex Char := .seq (Regex.literal "usb-storage ".toList) interfaceIdRegex

def usbRegex : Regex Char := .seq (Regex.literal "usb ".toList) interfaceIdRegex

def newUsbRegex : Regex Char := .seq usbRegex (Regex.literal ": new".toList)

def disconnectionFoundRegex : Regex Char := Regex.literal "USB disconnect".toList

def idVendorAndIdProductRegex : Regex Char := Regex.literal "USB device found".toList

def idVendorRegex : Regex Char := .seq (Regex.literal "idVendor=".toList) (.star digit)

def idProductRegex : Regex Char := .seq (Regex.literal "idProduct=".toList) (.star digit)

def serialNumberRegex : Regex Char := .seq (Regex.literal "SerialNumber: ".toList) (.star anyChar)

def productNameRegex : Regex Char := .seq (Regex.literal "Product: ".toList) (.star anyChar)

def manufacturerRegex : Regex Char := .seq (Regex.literal "Manufacturer: ".toList) (.star anyChar)

/-- `([A-Z]|[a-z]){3}.*[1-31].*[0-9]{2}:[0-9]{2}:[0-9]{2}`; the class `[1-31]`
is the range from 1 to 3 and the character 1. -/
def dateRegex : Regex Char :=
  let letter : Regex Char :=
    .alt (.one fun c => 'A' ≤ c && c ≤ 'Z') (.one fun c => 'a' ≤ c && c ≤ 'z')
  let twoDigits : Regex Char := .seq digit digit
  let colon : Regex Char := Regex.literal ":".toList
  .seq letter (.seq letter (.seq letter (.seq (.star anyChar)
    (.seq (.one fun c => ('1' ≤ c && c ≤ '3') || c = '1') (.seq (.star anyChar)
      (.seq twoDigits (.seq colon (.seq twoDigits (.seq colon twoDigits)))))))))

/-! ## Records -/

structure UsbInterface where
  isEmpty : Bool := true
  isStorageDevice : Bool := false
  connectionTime : CppString
  disconnectionTime : CppString
  idVendor : Int
  idProduct : Int
  productName : CppString
  manufacturer : CppString
  serialNumber : CppString
  deriving DecidableEq

/-- Every field is assigned, so the record passed in does not matter. -/
def initializeUsbInterface : UsbInterface where
  isEmpty := true
  isStorageDevice := false
  connectionTime := []
  disconnectionTime := []
  idVendor := 0
  idProduct := 0
  productName := []
  manufacturer := []
  serialNumber := []

structure UsbInfo where
  connectionTimes : List CppString := []
  disconnectionTimes : List CppString := []
  idVendor : Int := 0
  idProduct : Int := 0
  productName : CppString := []
  manufacturer : CppString := []
  serialNumber : CppString := []
  deriving DecidableEq

abbrev InterfacesMap := CppMap UsbInterface

abbrev UsbMap := CppMap UsbInfo

/-- A line of the log, with the values that the uninitialised `result` of
`stringToInt` holds in its two calls on this line. -/
structure LogLine where
  text : CppString
  unsetVendor : Int := 0
  unsetProduct : Int := 0
  deriving DecidableEq

/-- `find`, read the old element, `erase`, `insert`. -/
def replaceInMap {V : Type} (map : CppMap V) (key : CppString) (new : V) : Option (CppMap V) :=
  match map[key]? with
  | none => none
  | some _ => some ((map.erase key).insertIfNew key new)

def replaceInUSBsMap (map : UsbMap) (key : CppString) (usbInfoNew : UsbInfo) : Option UsbMap :=
  replaceInMap map key usbInfoNew

def replaceInInterfacesMap (map : InterfacesMap) (key : CppString)
    (usbInterfaceElementNew : UsbInterface) : Option InterfacesMap :=
  replaceInMap map key usbInterfaceElementNew

/-! ## The handlers of a line -/

def getInterfaceIdFromRegex (regexResult : CppString) : CppString :=
  str (regexSearch regexResult interfaceIdRegex)

def checkIfStorageDevice (line : CppString) (usbInterfacesMap : InterfacesMap) :
    Option (Bool × InterfacesMap) :=
  match regexSearch line storageRegex with
  | none => some (false, usbInterfacesMap)
  | some idStorageFound =>
      let interfaceId := getInterfaceIdFromRegex idStorageFound
      match usbInterfacesMap[interfaceId]? with
      | none => some (true, usbInterfacesMap)
      | some element => do
          let usbInterfacesMap ← replaceInInterfacesMap usbInterfacesMap interfaceId
            { element with isStorageDevice := true }
          some (true, usbInterfacesMap)

def checkIfNewDeviceConnected (line : CppString) (usbInterfacesMap : InterfacesMap) :
    Option (Bool × InterfacesMap) :=
  match regexSearch line newUsbRegex with
  | none => some (false, usbInterfacesMap)
  | some regexFound =>
      let interfaceId := getInterfaceIdFromRegex regexFound
      match usbInterfacesMap[interfaceId]? with
      | some element =>
          if element.isEmpty then do
            let usbInterfacesMap ← replaceInInterfacesMap usbInterfacesMap interfaceId
              { element with isEmpty := false, connectionTime := str (regexSearch line dateRegex) }
            some (true, usbInterfacesMap)
          else
            -- the missing-disconnect case is commented out in the source
            some (false, usbInterfacesMap)
      | none =>
          some (true, usbInterfacesMap.insertIfNew interfaceId
            { initializeUsbInterface with
              isEmpty := false, connectionTime := str (regexSearch line dateRegex) })

def checkIfDeviceDisconnected (line : CppString) (usbInterfacesMap : InterfacesMap)
    (usbMap : UsbMap) : Option (Bool × InterfacesMap × UsbMap) :=
  match regexSearch line disconnectionFoundRegex with
  | none => some (false, usbInterfacesMap, usbMap)
  | some _ =>
      let interfaceId :=
        match regexSearch line usbRegex with
        | some usbRegexFound => getInterfaceIdFromRegex usbRegexFound
        | none => []
      match usbInterfacesMap[interfaceId]? with
      | none => some (true, usbInterfacesMap, usbMap)
      | some element =>
          let time := str (regexSearch line dateRegex)
          if !element.isEmpty && element.isStorageDevice then do
            let usbMap ←
              match usbMap[element.serialNumber]? with
              | some usbElement =>
                  replaceInUSBsMap usbMap element.serialNumber
                    { usbElement with
                      connectionTimes := usbElement.connectionTimes ++ [element.connectionTime]
                      disconnectionTimes := usbElement.disconnectionTimes ++ [time] }
              | none =>
                  some (usbMap.insertIfNew element.serialNumber
                    { connectionTimes := [element.connectionTime]
                      disconnectionTimes := [time]
                      idVendor := element.idVendor
                      idProduct := element.idProduct
                      productName := element.productName
                      manufacturer := element.manufacturer
                      serialNumber := element.serialNumber })
            let usbInterfacesMap ←
              replaceInInterfacesMap usbInterfacesMap interfaceId initializeUsbInterface
            some (true, usbInterfacesMap, usbMap)
          else
            some (true, usbInterfacesMap, usbMap)

/-- `found.substr(found.find("=") + 1, found.length())`, converted. -/
def idAfterEquals (found : CppString) : Option (Option Int) := do
  let digits ← substr found (findPlus found '=' 1) found.length
  some (stringToInt digits)

/-- `found.substr(found.find(":") + 2, found.length())`. -/
def textAfterColon (found : CppString) : Option CppString :=
  substr found (findPlus found ':' 2) found.length

def checkIfInformationAboutDeviceFound (line : LogLine) (usbInterfacesMap : InterfacesMap) :
    Option (Bool × InterfacesMap) :=
  match regexSearch line.text usbRegex with
  | none => some (false, usbInterfacesMap)
  | some regexFound =>
      let interfaceId := getInterfaceIdFromRegex regexFound
      match usbInterfacesMap[interfaceId]? with
      | none => some (false, usbInterfacesMap)
      | some element =>
          if (regexSearch line.text idVendorAndIdProductRegex).isSome then do
            let idVendor ← idAfterEquals (str (regexSearch line.text idVendorRegex))
            let idProduct ← idAfterEquals (str (regexSearch line.text idProductRegex))
            let usbInterfacesMap ← replaceInInterfacesMap usbInterfacesMap interfaceId
              { element with
                idVendor := idVendor.getD line.unsetVendor
                idProduct := idProduct.getD line.unsetProduct }
            some (false, usbInterfacesMap)
          else if (regexSearch line.text serialNumberRegex).isSome then do
            let serialNumber ← textAfterColon (str (regexSearch line.text serialNumberRegex))
            let usbInterfacesMap ← replaceInInterfacesMap usbInterfacesMap interfaceId
              { element with serialNumber := serialNumber }
            some (false, usbInterfacesMap)
          else if (regexSearch line.text productNameRegex).isSome then do
            let productName ← textAfterColon (str (regexSearch line.text productNameRegex))
            let usbInterfacesMap ← replaceInInterfacesMap usbInterfacesMap interfaceId
              { element with productName := productName }
            some (false, usbInterfacesMap)
          else if (regexSearch line.text manufacturerRegex).isSome then do
            let manufacturer ← textAfterColon (str (regexSearch line.text manufacturerRegex))
            let usbInterfacesMap ← replaceInInterfacesMap usbInterfacesMap interfaceId
              { element with manufacturer := manufacturer }
            some (false, usbInterfacesMap)
          else
            some (false, usbInterfacesMap)

/-! ## The line loop and the final flush -/

/-- The two maps `getUSBsInfo` works on. -/
structure State where
  usbInterfacesMap : InterfacesMap := ∅
  usbMap : UsbMap := ∅

/-- The body of the line loop. -/
def processLine (line : LogLine) (state : State) : Option State := do
  let (isStorage, interfaces) ← checkIfStorageDevice line.text state.usbInterfacesMap
  if isStorage then
    some { state with usbInterfacesMap := interfaces }
  else if (regexSearch line.text usbRegex).isSome then
    let (isInformation, interfaces) ← checkIfInformationAboutDeviceFound line interfaces
    if isInformation then
      some { state with usbInterfacesMap := interfaces }
    else
      let (isNew, interfaces) ← checkIfNewDeviceConnected line.text interfaces
      if isNew then
        some { state with usbInterfacesMap := interfaces }
      else
        let (_, interfaces, usbMap) ←
          checkIfDeviceDisconnected line.text interfaces state.usbMap
        some ⟨interfaces, usbMap⟩
  else
    some { state with usbInterfacesMap := interfaces }

/-- `while (getline(file, line))`, from the state given. -/
def readLines (lines : List LogLine) (state : State) : Option State :=
  lines.foldlM (fun state line => processLine line state) state

/-- The entry the flush writes back for a serial already in the map: a new
connection time, and the fields not known before. -/
def mergeInterface (usbElement : UsbInfo) (element : UsbInterface) : UsbInfo where
  connectionTimes := usbElement.connectionTimes ++ [element.connectionTime]
  disconnectionTimes := usbElement.disconnectionTimes
  idVendor := if usbElement.idVendor = 0 then element.idVendor else usbElement.idVendor
  idProduct := if usbElement.idProduct = 0 then element.idProduct else usbElement.idProduct
  productName := if usbElement.productName = [] then element.productName else usbElement.productName
  manufacturer :=
    if usbElement.manufacturer = [] then element.manufacturer else usbElement.manufacturer
  serialNumber :=
    if usbElement.serialNumber = [] then element.serialNumber else usbElement.serialNumber

/-- The body of the flush loop, at the port key the iterator points to. -/
def saveInterface (state : State) (key : CppString) : Option State := do
  let element ← state.usbInterfacesMap[key]?
  if element.isEmpty then
    some state
  else
    let usbMap ←
      match state.usbMap[element.serialNumber]? with
      | some usbElement =>
          replaceInUSBsMap state.usbMap element.serialNumber (mergeInterface usbElement element)
      | none =>
          if element.isStorageDevice then
            some (state.usbMap.insertIfNew element.serialNumber
              { connectionTimes := [element.connectionTime]
                idVendor := element.idVendor
                idProduct := element.idProduct
                productName := element.productName
                manufacturer := element.manufacturer
                serialNumber := element.serialNumber })
          else
            some state.usbMap
    let interfaces ← replaceInInterfacesMap state.usbInterfacesMap key initializeUsbInterface
    some ⟨interfaces, usbMap⟩

/-- The loop of the flush, visiting each port key once in increasing order. -/
def saveInterfacesInfoInUSBsMap (state : State) : Option State :=
  state.usbInterfacesMap.keys.foldlM saveInterface state

/-- `log` holds the lines of the syslog; a syslog that cannot be opened is read
as one without lines. -/
def getUSBsInfo (log : List LogLine) : Option UsbMap := do
  let state ← readLines log {}
  let state ← saveInterfacesInfoInUSBsMap state
  some state.usbMap

end StoringDevices
