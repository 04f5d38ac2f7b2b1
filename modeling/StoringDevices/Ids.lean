import Mathlib.Data.Nat.Digits.Lemmas
import StoringDevices.Messages
import StoringDevices.Session

/-! # Vendor and product ids

The kernel prints an id as four hexadecimal digits.  The handler reads the
decimal digits it starts with as a decimal number, and reads none of an id that
starts with a letter. -/
set_option autoImplicit false

namespace StoringDevices

open Regex (Dead labelled)

/-! ## Decimal numerals -/

def digitValue (c : Char) : Nat := c.toNat - '0'.toNat

theorem decimalValue_snoc (digits : CppString) (c : Char) :
    decimalValue (digits ++ [c]) = decimalValue digits * 10 + digitValue c := by
  unfold decimalValue
  rw [List.foldl_append]
  rfl

theorem decimalValue_eq_ofDigits (digits : CppString) :
    decimalValue digits = Nat.ofDigits 10 (digits.map digitValue).reverse := by
  induction digits using List.reverseRecOn with
  | nil => rfl
  | append_singleton digits c ih =>
      rw [decimalValue_snoc, ih, List.map_append, List.map_singleton, List.reverse_append,
        List.reverse_singleton, List.singleton_append, Nat.ofDigits_cons]
      omega

theorem isDigit_iff {c : Char} : isDigit c = true ↔ 48 ≤ c.toNat ∧ c.toNat ≤ 57 := by
  simp [isDigit, Char.le_def, UInt32.le_iff_toNat_le]

theorem digitValue_lt {c : Char} (digit : isDigit c = true) : digitValue c < 10 := by
  have range := isDigit_iff.mp digit
  have zero : '0'.toNat = 48 := rfl
  unfold digitValue
  omega

theorem digitValue_inj {c c' : Char} (digit : isDigit c = true) (digit' : isDigit c' = true)
    (same : digitValue c = digitValue c') : c = c' := by
  have range := isDigit_iff.mp digit
  have range' := isDigit_iff.mp digit'
  have zero : '0'.toNat = 48 := rfl
  unfold digitValue at same
  apply Char.toNat_inj.mp
  omega

theorem map_digitValue_lt {digits : CppString} (areDigits : ∀ c ∈ digits, isDigit c = true) :
    ∀ n ∈ (digits.map digitValue).reverse, n < 10 := by
  intro n member
  obtain ⟨c, inside, rfl⟩ := List.mem_map.mp (List.mem_reverse.mp member)
  exact digitValue_lt (areDigits c inside)

theorem decimalValue_lt {digits : CppString} (areDigits : ∀ c ∈ digits, isDigit c = true) :
    decimalValue digits < 10 ^ digits.length := by
  have bound := Nat.ofDigits_lt_base_pow_length (by omega) (map_digitValue_lt areDigits)
  rw [decimalValue_eq_ofDigits]
  simpa using bound

theorem decimalValue_zeros (digits : CppString) :
    decimalValue (digits.dropWhile fun c => c = '0') = decimalValue digits := by
  induction digits with
  | nil => rfl
  | cons c digits ih =>
      by_cases zero : c = '0'
      · rw [List.dropWhile_cons_of_pos (by simp [zero]), ih, zero]
        rfl
      · rw [List.dropWhile_cons_of_neg (by simp [zero])]

/-- Numerals without leading zeros are told apart by their values. -/
theorem decimalValue_inj {digits digits' : CppString} (areDigits : ∀ c ∈ digits, isDigit c = true)
    (areDigits' : ∀ c ∈ digits', isDigit c = true) (lead : digits.head? ≠ some '0')
    (lead' : digits'.head? ≠ some '0') (same : decimalValue digits = decimalValue digits') :
    digits = digits' := by
  have back : ∀ digits : CppString, (∀ c ∈ digits, isDigit c = true) → digits.head? ≠ some '0' →
      Nat.digits 10 (decimalValue digits) = (digits.map digitValue).reverse := by
    intro digits areDigits lead
    rw [decimalValue_eq_ofDigits]
    apply Nat.digits_ofDigits 10 (by omega) _ (map_digitValue_lt areDigits)
    intro ne zero
    rw [List.getLast_reverse] at zero
    cases digits with
    | nil => exact ne rfl
    | cons c digits =>
        apply lead
        have isZero : digitValue c = digitValue '0' := zero
        rw [digitValue_inj (areDigits c List.mem_cons_self) (by decide) isZero]
        rfl
  have images := (back digits areDigits lead).symm.trans
    ((congrArg (Nat.digits 10) same).trans (back digits' areDigits' lead'))
  have maps := List.reverse_injective images
  clear images same back lead lead'
  induction digits generalizing digits' with
  | nil =>
      cases digits' with
      | nil => rfl
      | cons c rest => cases maps
  | cons c digits ih =>
      cases digits' with
      | nil => cases maps
      | cons c' digits' =>
          rw [List.map_cons, List.map_cons, List.cons.injEq] at maps
          rw [digitValue_inj (areDigits c List.mem_cons_self) (areDigits' c' List.mem_cons_self)
              maps.1,
            ih (fun d member => areDigits d (List.mem_cons_of_mem _ member))
              (fun d member => areDigits' d (List.mem_cons_of_mem _ member)) maps.2]

/-! ## What is stored of an id -/

def isHexDigit (c : Char) : Bool := isDigit c || ('a' ≤ c && c ≤ 'f')

/-- An id as the kernel prints it. -/
def IsHexId (id : CppString) : Prop := id.length = 4 ∧ ∀ c ∈ id, isHexDigit c = true

/-- The value stored of an id, when `result` held `unset`. -/
def storedId (id : CppString) (unset : Int) : Int :=
  if id.takeWhile isDigit = [] then unset else decimalValue (id.takeWhile isDigit)

/-- The decimal digits an id starts with, without leading zeros. -/
def significant (id : CppString) : CppString := (id.takeWhile isDigit).dropWhile fun c => c = '0'

def zeroId : CppString := "0000".toList

/-- The values stored of two ids tell the ids apart, and 0 stands for the id 0000. -/
def Identifies (id id' : CppString) (stored stored' : Int) : Prop :=
  (id ≠ id' → stored ≠ stored') ∧ (stored = 0 → id = zeroId) ∧ (stored' = 0 → id' = zeroId)

/-- Of two ids, each has significant digits or is 0000, and they have different
ones unless they are the same id. -/
structure ToldApart (id id' : CppString) : Prop where
  known : significant id ≠ [] ∨ id = zeroId
  known' : significant id' ≠ [] ∨ id' = zeroId
  differ : id = id' ∨ significant id ≠ significant id'

theorem takeWhile_isDigit (id : CppString) : ∀ c ∈ id.takeWhile isDigit, isDigit c = true :=
  fun _ member => List.mem_takeWhile_imp member

theorem significant_isDigit (id : CppString) : ∀ c ∈ significant id, isDigit c = true :=
  fun c member => takeWhile_isDigit id c ((List.dropWhile_suffix _).subset member)

theorem significant_head (id : CppString) : (significant id).head? ≠ some '0' := by
  intro zero
  have first := List.head?_dropWhile_not (fun c : Char => c = '0') (id.takeWhile isDigit)
  unfold significant at zero
  rw [zero] at first
  simp at first

theorem decimalValue_eq_iff (id id' : CppString) :
    decimalValue (id.takeWhile isDigit) = decimalValue (id'.takeWhile isDigit) ↔
      significant id = significant id' := by
  rw [← decimalValue_zeros (id.takeWhile isDigit), ← decimalValue_zeros (id'.takeWhile isDigit)]
  constructor
  · intro same
    exact decimalValue_inj (significant_isDigit id) (significant_isDigit id') (significant_head id)
      (significant_head id') same
  · intro same
    unfold significant at same
    rw [same]

theorem decimalValue_eq_zero_iff (id : CppString) :
    decimalValue (id.takeWhile isDigit) = 0 ↔ significant id = [] :=
  decimalValue_eq_iff id []

theorem digits_of_known {id : CppString} (known : significant id ≠ [] ∨ id = zeroId) :
    id.takeWhile isDigit ≠ [] := by
  rcases known with some_ | rfl
  · intro none_
    apply some_
    unfold significant
    rw [none_]
    rfl
  · decide

theorem zero_means_zeroId_iff {id : CppString} :
    (∀ unset, storedId id unset = 0 → id = zeroId) ↔ significant id ≠ [] ∨ id = zeroId := by
  constructor
  · intro means
    by_cases none_ : significant id = []
    · right
      apply means 0
      unfold storedId
      split
      · rfl
      · rw [(decimalValue_eq_zero_iff id).mpr none_]
        rfl
    · exact .inl none_
  · intro known unset zero
    rcases known with some_ | same
    · exfalso
      unfold storedId at zero
      rw [if_neg (digits_of_known (.inl some_))] at zero
      exact some_ ((decimalValue_eq_zero_iff id).mp (Int.ofNat_eq_zero.mp zero))
    · exact same

theorem identifies_iff {id id' : CppString} :
    (∀ unset unset', Identifies id id' (storedId id unset) (storedId id' unset')) ↔
      ToldApart id id' := by
  constructor
  · intro identifies
    have known := zero_means_zeroId_iff.mp fun unset => (identifies unset 0).2.1
    have known' := zero_means_zeroId_iff.mp fun unset' => (identifies 0 unset').2.2
    refine ⟨known, known', ?_⟩
    by_cases same : id = id'
    · exact .inl same
    · right
      intro digits
      apply (identifies 0 0).1 same
      unfold storedId
      rw [if_neg (digits_of_known known), if_neg (digits_of_known known'),
        (decimalValue_eq_iff id id').mpr digits]
  · intro told unset unset'
    refine ⟨?_, zero_means_zeroId_iff.mpr told.known unset,
      zero_means_zeroId_iff.mpr told.known' unset'⟩
    intro ne stored
    rcases told.differ with same | digits
    · exact ne same
    · apply digits
      unfold storedId at stored
      rw [if_neg (digits_of_known told.known), if_neg (digits_of_known told.known')] at stored
      exact (decimalValue_eq_iff id id').mp (Int.ofNat.inj stored)

/-! ## The line that gives the ids -/

theorem stringToInt_digits {digits : CppString} (areDigits : ∀ c ∈ digits, isDigit c = true)
    (short : digits.length ≤ 4) :
    stringToInt digits = if digits = [] then none else some (decimalValue digits : Int) := by
  cases digits with
  | nil => rfl
  | cons d digits =>
      have digit := areDigits d List.mem_cons_self
      have start : (d :: digits).dropWhile isSpace = d :: digits := by
        rw [List.dropWhile_cons_of_neg (by rw [isSpace_of_isDigit digit]; simp)]
      have minus : d ≠ '-' := by
        rintro rfl
        cases digit
      have plus : d ≠ '+' := by
        rintro rfl
        cases digit
      have whole : (d :: digits).takeWhile isDigit = d :: digits :=
        List.takeWhile_eq_self_iff.mpr areDigits
      have bound := decimalValue_lt areDigits
      have limit : 10 ^ (d :: digits).length ≤ 10 ^ 4 := Nat.pow_le_pow_right (by omega) short
      unfold stringToInt
      rw [start]
      simp only [minus, plus, or_self, if_false, whole, reduceCtorEq, Option.some.injEq]
      unfold nearestInt
      rw [if_neg (by omega), if_neg (by omega)]

theorem isHexDigit_ne {c : Char} (hex : isHexDigit c = true) : c ≠ 'i' ∧ c ≠ '\x00' := by
  constructor
  · rintro rfl
    cases hex
  · rintro rfl
    cases hex

theorem takeWhile_id (id more : CppString) :
    (id ++ (',' :: more)).takeWhile isDigit = id.takeWhile isDigit := by
  rw [List.takeWhile_append]
  split
  · next whole =>
      have same := (List.takeWhile_prefix isDigit).eq_of_length whole
      rw [same, List.takeWhile_cons_of_neg (by decide), List.append_nil]
  · rfl

/-- A message that gives the ids of a device. -/
structure FoundMessage where
  header : CppString
  port : CppString
  idVendor : CppString
  idProduct : CppString
  rest : CppString
  plain : PlainHeader header
  isPort : IsPort port
  vendorHex : IsHexId idVendor
  productHex : IsHexId idProduct

namespace FoundMessage
variable (found : FoundMessage)

/-- The text from the product id on. -/
def productPart : CppString :=
  "idProduct=".toList ++ (found.idProduct ++ (", bcdDevice=".toList ++ found.rest))

def message : CppString :=
  "New USB device found, ".toList ++
    ("idVendor=".toList ++ (found.idVendor ++ (", ".toList ++ found.productPart)))

def line (unsetVendor unsetProduct : Int) : LogLine where
  text := usbMessage found.header found.port found.message
  unsetVendor := unsetVendor
  unsetProduct := unsetProduct

theorem vendor_noNul : '\x00' ∉ found.idVendor :=
  fun member => (isHexDigit_ne (found.vendorHex.2 _ member)).2 rfl

theorem product_noNul : '\x00' ∉ found.idProduct :=
  fun member => (isHexDigit_ne (found.productHex.2 _ member)).2 rfl

/-- The text before the vendor id. -/
def vendorFront : CppString :=
  found.header ++ ("usb ".toList ++ (found.port ++ ": New USB device found, ".toList))

/-- The text after the vendor id and before the product id. -/
def productFront : CppString :=
  found.vendorFront ++ ("idVendor=".toList ++ (found.idVendor ++ ", ".toList))

theorem cStr_line (unsetVendor unsetProduct : Int) :
    cStr (found.line unsetVendor unsetProduct).text =
      found.productFront ++ ("idProduct=".toList ++
        (found.idProduct ++ (',' :: (" bcdDevice=".toList ++ cStr found.rest)))) := by
  have noNul : '\x00' ∉ found.port := found.isPort.ofPath.noNul
  unfold line
  rw [cStr_usbMessage found.plain noNul]
  unfold message productPart
  rw [cStr_front (by decide +kernel), cStr_front (by decide +kernel), cStr_front found.vendor_noNul,
    cStr_front (by decide +kernel), cStr_front (by decide +kernel), cStr_front found.product_noNul,
    cStr_front (by decide +kernel)]
  simp [usbMessage, productFront, vendorFront]

theorem vendorFront_dead (label : CppString) {regex : Regex Char} (known : regex ∈ handlerRegexes)
    (run : Regex.Matches regex ('i' :: label)) (uncrossed : Uncrossed ('i' :: label))
    (apart : ∀ n < ": New USB device found, ".toList.length,
      ¬ 'i' :: label <+: ": New USB device found, ".toList.drop n ∧
        ¬ ": New USB device found, ".toList.drop n <+: 'i' :: label) (more : CppString) :
    Dead ('i' :: label) found.vendorFront more := by
  have inHeader := found.plain.dead known run uncrossed
    (found.port ++ (": New USB device found, ".toList ++ more))
  have inPort : 'i' ∉ "usb ".toList ++ found.port := by
    intro member
    rcases List.mem_append.mp member with front | inside
    · exact absurd front (by decide)
    · exact found.isPort.ofPath.not_mem (by decide) (by decide) (by decide) inside
  have inMention : Dead ('i' :: label) ("usb ".toList ++ found.port)
      (": New USB device found, ".toList ++ more) := Regex.dead_of_not_mem inPort _
  have inText := Regex.dead_of_apart apart more
  unfold vendorFront
  apply Regex.Dead.append
  · simpa only [List.append_assoc] using inHeader
  · rw [← List.append_assoc]
    exact inMention.append inText

theorem idVendor_dead (more : CppString) : Dead "idVendor=".toList found.vendorFront more := by
  have known : idVendorRegex ∈ handlerRegexes := by simp [handlerRegexes]
  exact found.vendorFront_dead "dVendor=".toList known matches_label (by decide +kernel)
    (by decide +kernel) more

theorem idProduct_dead (more : CppString) : Dead "idProduct=".toList found.productFront more := by
  have known : idProductRegex ∈ handlerRegexes := by simp [handlerRegexes]
  have inFront := found.vendorFront_dead "dProduct=".toList known matches_label (by decide +kernel)
    (by decide +kernel) ("idVendor=".toList ++ (found.idVendor ++ ", ".toList) ++ more)
  have inLabel : Dead "idProduct=".toList "idVendor=".toList
      (found.idVendor ++ ", ".toList ++ more) := Regex.dead_of_apart (by decide +kernel) _
  have absent : 'i' ∉ found.idVendor ++ ", ".toList := by
    intro member
    rcases List.mem_append.mp member with inside | front
    · exact (isHexDigit_ne (found.vendorHex.2 _ inside)).1 rfl
    · exact absurd front (by decide)
  have inId : Dead "idProduct=".toList (found.idVendor ++ ", ".toList) more :=
    Regex.dead_of_not_mem absent more
  exact inFront.append (inLabel.append inId)

theorem search_idVendor (unsetVendor unsetProduct : Int) :
    regexSearch (found.line unsetVendor unsetProduct).text idVendorRegex =
      some ("idVendor=".toList ++ found.idVendor.takeWhile isDigit) := by
  have split : cStr (found.line unsetVendor unsetProduct).text = found.vendorFront ++
      ("idVendor=".toList ++ (found.idVendor ++ (',' :: (" idProduct=".toList ++
        (found.idProduct ++ (',' :: (" bcdDevice=".toList ++ cStr found.rest))))))) := by
    rw [found.cStr_line]
    simp [productFront]
  have shape : idVendorRegex = labelled "idVendor=".toList isDigit := rfl
  unfold regexSearch
  rw [split, shape, Regex.search_labelled _ (found.idVendor_dead _), Option.map_some, takeWhile_id]

theorem search_idProduct (unsetVendor unsetProduct : Int) :
    regexSearch (found.line unsetVendor unsetProduct).text idProductRegex =
      some ("idProduct=".toList ++ found.idProduct.takeWhile isDigit) := by
  have shape : idProductRegex = labelled "idProduct=".toList isDigit := rfl
  unfold regexSearch
  rw [found.cStr_line, shape, Regex.search_labelled _ (found.idProduct_dead _), Option.map_some,
    takeWhile_id]

theorem describes (unsetVendor unsetProduct : Int) :
    describesIds (found.line unsetVendor unsetProduct) = true := by
  unfold describesIds
  rw [regexSearch_isSome_iff]
  refine ⟨"USB device found".toList, ?_, (Regex.matches_literal_iff _ _).mpr rfl⟩
  rw [found.cStr_line]
  refine ⟨found.header ++ ("usb ".toList ++ (found.port ++ ": New ".toList)), ", ".toList ++
    ("idVendor=".toList ++ (found.idVendor ++ (", ".toList ++ ("idProduct=".toList ++
      (found.idProduct ++ (',' :: (" bcdDevice=".toList ++ cStr found.rest))))))), ?_⟩
  simp [productFront, vendorFront]

theorem stored_of_search {id label : CppString} (hex : IsHexId id) (unset : Int) :
    (stringToInt ((str (some (label ++ id.takeWhile isDigit))).drop label.length)).getD unset =
      storedId id unset := by
  have short : (id.takeWhile isDigit).length ≤ 4 := by
    rw [← hex.1]
    exact (List.takeWhile_prefix isDigit).length_le
  unfold str storedId
  rw [Option.getD_some, List.drop_left, stringToInt_digits (takeWhile_isDigit id) short]
  by_cases none_ : id.takeWhile isDigit = []
  · rw [if_pos none_, if_pos none_, Option.getD_none]
  · rw [if_neg none_, if_neg none_, Option.getD_some]

/-- The record of the port after the information handler. -/
theorem stored {interfaces : InterfacesMap} {element : UsbInterface}
    (present : interfaces[found.port]? = some element) (unsetVendor unsetProduct : Int) :
    checkIfInformationAboutDeviceFound (found.line unsetVendor unsetProduct) interfaces =
      some (false, interfaces.insert found.port
        { element with
          idVendor := storedId found.idVendor unsetVendor
          idProduct := storedId found.idProduct unsetProduct }) := by
  have usb : usbPort (found.line unsetVendor unsetProduct) = some found.port :=
    usbPort_message found.plain found.isPort rfl
  have vendor : (parsedIdVendor (found.line unsetVendor unsetProduct)).getD unsetVendor =
      storedId found.idVendor unsetVendor := by
    unfold parsedIdVendor
    rw [found.search_idVendor]
    exact stored_of_search found.vendorHex unsetVendor
  have product : (parsedIdProduct (found.line unsetVendor unsetProduct)).getD unsetProduct =
      storedId found.idProduct unsetProduct := by
    unfold parsedIdProduct
    rw [found.search_idProduct]
    exact stored_of_search found.productHex unsetProduct
  have unsets : (found.line unsetVendor unsetProduct).unsetVendor = unsetVendor ∧
      (found.line unsetVendor unsetProduct).unsetProduct = unsetProduct := ⟨rfl, rfl⟩
  rw [checkIfInformationAboutDeviceFound_eq, usb]
  unfold informed
  simp only [modify_eq_insert present, announce, found.describes, if_true, unsets, vendor, product]

end FoundMessage

/-- Two messages, each in a state that has a record of its port. -/
theorem ids_identified_iff (found found' : FoundMessage) {interfaces interfaces' : InterfacesMap}
    {element element' : UsbInterface} (present : interfaces[found.port]? = some element)
    (present' : interfaces'[found'.port]? = some element') :
    (∀ unsetVendor unsetProduct unsetVendor' unsetProduct' : Int, ∃ stored stored',
      checkIfInformationAboutDeviceFound (found.line unsetVendor unsetProduct) interfaces =
        some (false, interfaces.insert found.port stored) ∧
      checkIfInformationAboutDeviceFound (found'.line unsetVendor' unsetProduct') interfaces' =
        some (false, interfaces'.insert found'.port stored') ∧
      Identifies found.idVendor found'.idVendor stored.idVendor stored'.idVendor ∧
      Identifies found.idProduct found'.idProduct stored.idProduct stored'.idProduct) ↔
    ToldApart found.idVendor found'.idVendor ∧ ToldApart found.idProduct found'.idProduct := by
  rw [← identifies_iff, ← identifies_iff]
  constructor
  · intro identified
    have values : ∀ unsetVendor unsetProduct unsetVendor' unsetProduct' : Int,
        Identifies found.idVendor found'.idVendor (storedId found.idVendor unsetVendor)
            (storedId found'.idVendor unsetVendor') ∧
          Identifies found.idProduct found'.idProduct (storedId found.idProduct unsetProduct)
            (storedId found'.idProduct unsetProduct') := by
      intro unsetVendor unsetProduct unsetVendor' unsetProduct'
      obtain ⟨stored, stored', here, here', vendor, product⟩ :=
        identified unsetVendor unsetProduct unsetVendor' unsetProduct'
      have record : ∀ {m : InterfacesMap} {port : CppString} {a b : UsbInterface},
          some (false, m.insert port a) = some (false, m.insert port b) → a = b := by
        intro m port a b same
        have maps := congrArg (fun m : InterfacesMap => m[port]?) (Prod.mk.inj (Option.some.inj same)).2
        simpa using maps
      rw [← record ((found.stored present _ _).symm.trans here),
        ← record ((found'.stored present' _ _).symm.trans here')] at vendor product
      exact ⟨vendor, product⟩
    exact ⟨fun u u' => (values u 0 u' 0).1, fun u u' => (values 0 u 0 u').2⟩
  · intro identified unsetVendor unsetProduct unsetVendor' unsetProduct'
    exact ⟨_, _, found.stored present _ _, found'.stored present' _ _,
      identified.1 unsetVendor unsetVendor', identified.2 unsetProduct unsetProduct'⟩

/-! Two vendors whose ids start with a zero and a letter. -/

def zeroPlugged : LogLine := { text := "Jan 1 09:00:01 usb 1-5: new".toList }

theorem zeroPort : IsPort "1-5".toList := by decide

theorem hex_0bda : IsHexId "0bda".toList := by simp [IsHexId, isHexDigit, isDigit]

theorem hex_0bdb : IsHexId "0bdb".toList := by simp [IsHexId, isHexDigit, isDigit]

theorem hex_8153 : IsHexId "8153".toList := by simp [IsHexId, isHexDigit, isDigit]

def zeroVendor (idVendor : CppString) (hex : IsHexId idVendor) : FoundMessage where
  header := []
  port := "1-5".toList
  idVendor := idVendor
  idProduct := "8153".toList
  rest := " 1.00".toList
  plain := noHeader_plain
  isPort := zeroPort
  vendorHex := hex
  productHex := hex_8153

theorem zeroVendors_compared :
    (∀ unsetVendor unsetProduct unsetVendor' unsetProduct' : Int, ∃ stored stored',
      checkIfInformationAboutDeviceFound
          ((zeroVendor _ hex_0bda).line unsetVendor unsetProduct)
          ((∅ : InterfacesMap).insert "1-5".toList initializeUsbInterface) =
        some (false, ((∅ : InterfacesMap).insert "1-5".toList initializeUsbInterface).insert
          "1-5".toList stored) ∧
      checkIfInformationAboutDeviceFound
          ((zeroVendor _ hex_0bdb).line unsetVendor' unsetProduct')
          ((∅ : InterfacesMap).insert "1-5".toList initializeUsbInterface) =
        some (false, ((∅ : InterfacesMap).insert "1-5".toList initializeUsbInterface).insert
          "1-5".toList stored') ∧
      Identifies "0bda".toList "0bdb".toList stored.idVendor stored'.idVendor ∧
      Identifies "8153".toList "8153".toList stored.idProduct stored'.idProduct) ↔
    ToldApart "0bda".toList "0bdb".toList ∧ ToldApart "8153".toList "8153".toList :=
  ids_identified_iff (zeroVendor _ hex_0bda) (zeroVendor _ hex_0bdb)
    (by rw [getElem?_insert_eq]; exact if_pos rfl) (by rw [getElem?_insert_eq]; exact if_pos rfl)

/-- In the state after a connection line both vendor ids are stored as 0. -/
theorem vendor_ids_lost :
    ∃ state element, readLines [zeroPlugged] {} = some state ∧
      state.usbInterfacesMap["1-5".toList]? = some element ∧
      ∀ unset unset' : Int, ∃ stored stored',
        checkIfInformationAboutDeviceFound ((zeroVendor _ hex_0bda).line unset 0)
          state.usbInterfacesMap = some (false, state.usbInterfacesMap.insert "1-5".toList stored) ∧
        checkIfInformationAboutDeviceFound ((zeroVendor _ hex_0bdb).line unset' 0)
          state.usbInterfacesMap = some (false, state.usbInterfacesMap.insert "1-5".toList stored') ∧
        ¬ Identifies "0bda".toList "0bdb".toList stored.idVendor stored'.idVendor := by
  have present : ((∅ : InterfacesMap).insert "1-5".toList (connected zeroPlugged none))["1-5".toList]? =
      some (connected zeroPlugged none) := by rw [getElem?_insert_eq, if_pos rfl]
  refine ⟨_, _, readLines_plugged (by decide +kernel), present, ?_⟩
  intro unset unset'
  refine ⟨_, _, (zeroVendor _ hex_0bda).stored present unset 0,
    (zeroVendor _ hex_0bdb).stored present unset' 0, ?_⟩
  intro identifies
  exact identifies.1 (by decide) rfl

end StoringDevices
