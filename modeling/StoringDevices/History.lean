import StoringDevices.Ledger
import StoringDevices.Lib.Lists

/-! # Closed history is append-only

Entries of `usb_map` are replaced, not written in place.  A closing line and the
flush each continue the entry they replace, by different rules: the closing line
leaves the ids and names as they are, the flush fills in those not known yet. -/
set_option autoImplicit false

namespace StoringDevices

open Keyed (Grows)

/-! ## The line loop -/

/-- What a closing line keeps of an entry. -/
structure Continues (earlier later : UsbInfo) : Prop where
  connections : earlier.connectionTimes <+: later.connectionTimes
  disconnections : earlier.disconnectionTimes <+: later.disconnectionTimes
  idVendor : later.idVendor = earlier.idVendor
  idProduct : later.idProduct = earlier.idProduct
  productName : later.productName = earlier.productName
  manufacturer : later.manufacturer = earlier.manufacturer
  serialNumber : later.serialNumber = earlier.serialNumber

theorem Continues.refl (entry : UsbInfo) : Continues entry entry :=
  ⟨List.prefix_refl _, List.prefix_refl _, rfl, rfl, rfl, rfl, rfl⟩

theorem Continues.trans {first second third : UsbInfo} (early : Continues first second)
    (late : Continues second third) : Continues first third where
  connections := early.connections.trans late.connections
  disconnections := early.disconnections.trans late.disconnections
  idVendor := late.idVendor.trans early.idVendor
  idProduct := late.idProduct.trans early.idProduct
  productName := late.productName.trans early.productName
  manufacturer := late.manufacturer.trans early.manufacturer
  serialNumber := late.serialNumber.trans early.serialNumber

theorem closeInto_continues (closing : Closing) (entry : UsbInfo) :
    Continues entry (closeInto closing (some entry)) :=
  ⟨List.prefix_append _ _, List.prefix_append _ _, rfl, rfl, rfl, rfl, rfl⟩

theorem recordClosings_grow (closings : List Closing) (usbMap : UsbMap) :
    Grows Continues usbMap (closings.foldl recordClosing usbMap) := by
  rw [foldl_recordClosing]
  apply Keyed.run_grows Continues.refl fun _ _ _ => Continues.trans
  intro closing entry
  exact ⟨_, rfl, closeInto_continues closing entry⟩

/-- Every closing changes the map. -/
theorem recordClosings_eq_self_iff {closings : List Closing} {usbMap : UsbMap} :
    closings.foldl recordClosing usbMap = usbMap ↔ closings = [] := by
  cases closings with
  | nil => simp
  | cons closing closings =>
      refine iff_of_false ?_ (by simp)
      intro same
      have first : (recordClosing usbMap closing)[closing.record.serialNumber]? =
          some (closeInto closing usbMap[closing.record.serialNumber]?) := by
        rw [recordClosing, getElem?_alter_eq, if_pos rfl]
      -- the entry of the first closing only grows, so it was never shorter
      obtain ⟨entry, here, continues⟩ := recordClosings_grow closings _ _ _ first
      rw [List.foldl_cons] at same
      rw [same] at here
      rw [here] at continues
      have shorter := continues.disconnections.length_le
      simp only [closeInto, List.length_append, List.length_singleton] at shorter
      omega

/-- Lines read from any state. -/
theorem readLines_grow {lines : List LogLine} {state later : State}
    (run : readLines lines state = some later) : Grows Continues state.usbMap later.usbMap := by
  rw [readLines_eq, Option.some.injEq] at run
  subst run
  exact recordClosings_grow _ _

theorem readLines_append (lines more : List LogLine) (state : State) :
    readLines (lines ++ more) state = (readLines lines state).bind fun next => readLines more next :=
  List.foldlM_append

/-! ## The flush -/

/-- What the flush keeps of an entry. -/
structure FilledIn (entry final : UsbInfo) : Prop where
  connections : entry.connectionTimes <+: final.connectionTimes
  disconnections : final.disconnectionTimes = entry.disconnectionTimes
  idVendor : entry.idVendor ≠ 0 → final.idVendor = entry.idVendor
  idProduct : entry.idProduct ≠ 0 → final.idProduct = entry.idProduct
  productName : entry.productName ≠ [] → final.productName = entry.productName
  manufacturer : entry.manufacturer ≠ [] → final.manufacturer = entry.manufacturer
  serialNumber : entry.serialNumber ≠ [] → final.serialNumber = entry.serialNumber

theorem FilledIn.refl (entry : UsbInfo) : FilledIn entry entry :=
  ⟨List.prefix_refl _, rfl, fun _ => rfl, fun _ => rfl, fun _ => rfl, fun _ => rfl, fun _ => rfl⟩

theorem FilledIn.trans {first second third : UsbInfo} (early : FilledIn first second)
    (late : FilledIn second third) : FilledIn first third where
  connections := early.connections.trans late.connections
  disconnections := late.disconnections.trans early.disconnections
  idVendor := Lists.known_trans early.idVendor late.idVendor
  idProduct := Lists.known_trans early.idProduct late.idProduct
  productName := Lists.known_trans early.productName late.productName
  manufacturer := Lists.known_trans early.manufacturer late.manufacturer
  serialNumber := Lists.known_trans early.serialNumber late.serialNumber

theorem mergeInterface_filledIn (entry : UsbInfo) (element : UsbInterface) :
    FilledIn entry (mergeInterface entry element) :=
  ⟨List.prefix_append _ _, rfl, fun known => if_neg known, fun known => if_neg known,
    fun known => if_neg known, fun known => if_neg known, fun known => if_neg known⟩

theorem flush_grows {state final : State} (flush : saveInterfacesInfoInUSBsMap state = some final) :
    Grows FilledIn state.usbMap final.usbMap := by
  obtain ⟨interfaces, result⟩ := saveInterfacesInfoInUSBsMap_usbMap state
  rw [result, Option.some.injEq] at flush
  subst flush
  apply Keyed.run_grows FilledIn.refl fun _ _ _ => FilledIn.trans
  intro slot entry
  exact ⟨_, flusher_next_some slot entry, mergeInterface_filledIn entry slot.2⟩

/-- Any log and any continuation of it, and the flush of any state. -/
theorem history_append_only :
    (∀ log more : List LogLine, ∃ state later, readLines log {} = some state ∧
      readLines (log ++ more) {} = some later ∧ Grows Continues state.usbMap later.usbMap) ∧
    ∀ state : State, ∃ final, saveInterfacesInfoInUSBsMap state = some final ∧
      Grows FilledIn state.usbMap final.usbMap := by
  constructor
  · intro log more
    have rest := readLines_eq more ⟨loopInterfaces log, loopUsbMap log⟩
    refine ⟨_, _, readLines_log log, ?_, readLines_grow rest⟩
    rw [readLines_append, readLines_log, Option.bind_some]
    exact rest
  · intro state
    obtain ⟨interfaces, flush⟩ := saveInterfacesInfoInUSBsMap_usbMap state
    exact ⟨_, flush, flush_grows flush⟩

end StoringDevices
