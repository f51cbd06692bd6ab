import RuuviGateway.GwCfgJson.Instance
import RuuviGateway.GwCfgJson.Ops

/-!
# The scan filter

`gw_cfg_json_parse_scan_filter` reads the addresses of the filter, `adv_post_on_gw_cfg_change`
copies them into the cache of the receiver, and `adv_post_check_if_mac_filtered_out` looks an
address up there.

The loop of the parser steps to the next place of the list whether or not the string was an
address, and does not look at the size of the list.  So a string that is no address leaves in
its place what was there before, and more than 100 strings are written over what lies behind.
-/

namespace RuuviGateway
namespace GwCfgJson

open CJson CString

/-! ## The list -/

/-- The addresses of the filter: the first `scan_filter_length` of the list. -/
def ScanFilter.macs (f : ScanFilter) : List MacAddr :=
  f.scanFilterList.toList.take f.scanFilterLength

section parse

variable [Components]

/-- `mac_addr_from_str` accepts the strings that denote an address, and otherwise leaves the
address as it is. -/
def ReadsMac (macOf : List Char → Option MacAddr) : Prop :=
  ∀ s old, macAddrFromStr s old = (s.bind macOf).getD old

/-- The address that an element of the document denotes. -/
def itemMac (macOf : List Char → Option MacAddr) (item : Json) : Option MacAddr :=
  (getStringValue item).bind macOf

/-- What the loop leaves at each place of the list. -/
theorem parseScanFilterList_getElem {items : List Json} {i : Nat}
    {list list' : Vector MacAddr 100} (h : parseScanFilterList items i list = some list')
    (k : Nat) :
    list'[k]? = if i ≤ k then
      match items[k - i]? with
      | some item => list[k]?.map (macAddrFromStr (getStringValue item))
      | none => list[k]?
    else list[k]? := by
  induction items generalizing i list with
  | nil =>
    rw [parseScanFilterList, Option.some.injEq] at h
    subst h
    split <;> simp
  | cons item items ih =>
    rw [parseScanFilterList] at h
    split at h
    · rename_i hi
      rw [ih h]
      rcases Nat.lt_trichotomy k i with hlt | rfl | hgt
      · rw [if_neg (by omega), if_neg (by omega), Vector.getElem?_set_ne _ (by omega)]
      · rw [if_neg (by omega), if_pos (Nat.le_refl k), Nat.sub_self, List.getElem?_cons_zero]
        simp [hi]
      · obtain ⟨m, hm⟩ : ∃ m, k - i = m + 1 := ⟨k - i - 1, by omega⟩
        have hm' : k - (i + 1) = m := by omega
        rw [if_pos (by omega), if_pos (by omega), hm, hm', List.getElem?_cons_succ,
          Vector.getElem?_set_ne _ (by omega)]
    · exact absurd h (by simp)

/-- The loop ends inside the list if and only if it is long enough. -/
theorem parseScanFilterList_isSome_iff (items : List Json) (list : Vector MacAddr 100) :
    (parseScanFilterList items 0 list).isSome = true ↔ items.length ≤ 100 := by
  constructor
  · intro h
    obtain ⟨list', hlist⟩ := Option.isSome_iff_exists.mp h
    have hlen := parseScanFilterList_length hlist (Nat.zero_le 100)
    rwa [Nat.zero_add] at hlen
  · intro h
    exact parseScanFilterList_isSome_of_length items 0 list (by rwa [Nat.zero_add])

/-- Addresses that are all valid are read in order. -/
theorem take_parseScanFilterList {macOf : List Char → Option MacAddr} (hmac : ReadsMac macOf)
    {items : List Json} {list list' : Vector MacAddr 100}
    (h : parseScanFilterList items 0 list = some list')
    (hvalid : ∀ item ∈ items, (itemMac macOf item).isSome = true) :
    list'.toList.take items.length = items.filterMap (itemMac macOf) := by
  have hlen := parseScanFilterList_length h (Nat.zero_le 100)
  rw [Nat.zero_add] at hlen
  have hfilter : (items.filterMap (itemMac macOf)).length = items.length :=
    List.filterMap_length_eq_length.mpr hvalid
  have hmap : (items.filterMap (itemMac macOf)).map some = items.map (itemMac macOf) := by
    clear h hlen hfilter
    induction items with
    | nil => rfl
    | cons item items ih =>
      rw [List.forall_mem_cons] at hvalid
      obtain ⟨a, ha⟩ := Option.isSome_iff_exists.mp hvalid.1
      rw [List.filterMap_cons_some ha, List.map_cons, List.map_cons, ih hvalid.2, ha]
  refine List.ext_getElem? fun k => ?_
  by_cases hk : k < items.length
  · have hkth := congrArg (fun l => l[k]?) hmap
    simp only [List.getElem?_map, List.getElem?_eq_getElem hk, Option.map_some] at hkth
    have hread := parseScanFilterList_getElem h k
    have hold : list[k]? = some list[k] := Vector.getElem?_eq_getElem (by omega)
    rw [if_pos (Nat.zero_le k), Nat.sub_zero, List.getElem?_eq_getElem hk, hold] at hread
    simp only [Option.map_some] at hread
    have hitem := hvalid items[k] (List.getElem_mem hk)
    obtain ⟨a, ha⟩ := Option.isSome_iff_exists.mp hitem
    have hset : macAddrFromStr (getStringValue items[k]) list[k] = a := by
      rw [hmac, show (getStringValue items[k]).bind macOf = some a from ha, Option.getD_some]
    rw [List.getElem?_take_of_lt hk, Vector.getElem?_toList, hread, hset]
    rw [ha] at hkth
    cases hget : (items.filterMap (itemMac macOf))[k]? with
    | none => simp [hget] at hkth
    | some b =>
      rw [hget, Option.map_some, Option.some.injEq] at hkth
      exact hkth.symm
  · rw [List.getElem?_eq_none (by rw [List.length_take]; omega),
      List.getElem?_eq_none (by omega)]

end parse

/-! ## The cache of the receiver -/

/-- The fields of `adv_post_cfg_cache_t` that belong to the filter; the array is allocated. -/
structure ScanFilterCache where
  scanFilterAllowListed : Bool
  scanFilterLength : Nat
  arrOfScanFilterMac : Option (List MacAddr)
  deriving DecidableEq

/-- `adv_post_on_gw_cfg_change_handle_scan_filter`, with what `os_calloc` answers, for a length
that is not beyond the list: the cache, and whether it succeeded. -/
def advPostOnGwCfgChangeHandleScanFilter (calloc : Bool) (cache : ScanFilterCache)
    (f : ScanFilter) : ScanFilterCache × Bool :=
  let cache := { cache with scanFilterAllowListed := f.scanFilterAllowListed }
  if f.scanFilterLength ≠ 0 ∧ calloc = false then
    ({ cache with arrOfScanFilterMac := none, scanFilterLength := 0 }, false)
  else
    let arr := if f.scanFilterLength ≠ 0 then some [] else cache.arrOfScanFilterMac
    match arr with
    | some _ =>
        ({ cache with
            arrOfScanFilterMac := some f.macs
            scanFilterLength := f.scanFilterLength }, true)
    | none => ({ cache with arrOfScanFilterMac := none, scanFilterLength := 0 }, true)

/-- `adv_post_on_gw_cfg_change`, as far as the filter goes: the previous array is freed, and
without memory for the new one the gateway is restarted, which is `none`. -/
def advPostOnGwCfgChange (calloc : Bool) (cache : ScanFilterCache) (f : ScanFilter) :
    Option ScanFilterCache :=
  let cache := if cache.arrOfScanFilterMac.isSome then
      { cache with scanFilterLength := 0, arrOfScanFilterMac := none }
    else cache
  match advPostOnGwCfgChangeHandleScanFilter calloc cache f with
  | (cache, true) => some cache
  | (_, false) => none

/-- The loops of `adv_post_check_if_mac_filtered_out`: an address is among the first `n` of the
array. -/
def macFound (mac : MacAddr) : Nat → List MacAddr → Bool
  | 0, _ => false
  | _ + 1, [] => false
  | n + 1, a :: arr => if mac = a then true else macFound mac n arr

/-- `adv_post_check_if_mac_filtered_out`. -/
def advPostCheckIfMacFilteredOut (cache : ScanFilterCache) (mac : MacAddr) : Bool :=
  if cache.scanFilterLength = 0 then false
  else
    let found := macFound mac cache.scanFilterLength (cache.arrOfScanFilterMac.getD [])
    if cache.scanFilterAllowListed then
      if found then false else true
    else if found then true else false

theorem macFound_iff (mac : MacAddr) (n : Nat) (arr : List MacAddr) :
    macFound mac n arr = true ↔ mac ∈ arr.take n := by
  induction n generalizing arr with
  | zero => simp [macFound]
  | succ n ih =>
    cases arr with
    | nil => simp [macFound]
    | cons a arr =>
      rw [macFound, List.take_succ_cons, List.mem_cons]
      split
      · rename_i heq
        exact iff_of_true rfl (Or.inl heq)
      · rename_i hne
        rw [ih]
        exact (or_iff_right hne).symm

/-- The cache holds the filter, however it was before. -/
theorem advPostOnGwCfgChange_cases {calloc : Bool} {cache cache' : ScanFilterCache}
    {f : ScanFilter} (h : advPostOnGwCfgChange calloc cache f = some cache') :
    cache'.scanFilterAllowListed = f.scanFilterAllowListed ∧
      cache'.scanFilterLength = f.scanFilterLength ∧
      cache'.arrOfScanFilterMac = if f.scanFilterLength = 0 then none else some f.macs := by
  have hfreed : (if cache.arrOfScanFilterMac.isSome then
      { cache with scanFilterLength := 0, arrOfScanFilterMac := none }
      else cache).arrOfScanFilterMac = none := by
    split
    · rfl
    · rename_i hnone
      simpa using hnone
  simp only [advPostOnGwCfgChange] at h
  generalize (if cache.arrOfScanFilterMac.isSome then
      { cache with scanFilterLength := 0, arrOfScanFilterMac := none } else cache) = c at h hfreed
  by_cases hlen : f.scanFilterLength = 0
  · simp only [advPostOnGwCfgChangeHandleScanFilter, hlen, ne_eq, not_true_eq_false, false_and,
      if_false, hfreed, Option.some.injEq] at h
    subst h
    exact ⟨rfl, hlen.symm, by rw [if_pos hlen]⟩
  · cases calloc with
    | false => simp [advPostOnGwCfgChangeHandleScanFilter, hlen] at h
    | true =>
      simp only [advPostOnGwCfgChangeHandleScanFilter, hlen, ne_eq, not_false_eq_true,
        Bool.true_eq_false, and_false, if_false, if_true, Option.some.injEq] at h
      subst h
      exact ⟨rfl, rfl, by rw [if_neg hlen]⟩

/-- An address is filtered out if the filter has addresses and this being one of them is not
what is allowed. -/
theorem filteredOut_iff {calloc : Bool} {cache cache' : ScanFilterCache} {f : ScanFilter}
    (hok : f.Ok) (h : advPostOnGwCfgChange calloc cache f = some cache') (mac : MacAddr) :
    advPostCheckIfMacFilteredOut cache' mac = true ↔
      f.macs ≠ [] ∧ decide (mac ∈ f.macs) ≠ f.scanFilterAllowListed := by
  obtain ⟨hallow, hlen, harr⟩ := advPostOnGwCfgChange_cases h
  have hmacs : f.macs.length = f.scanFilterLength := by
    rw [ScanFilter.macs, List.length_take, Vector.length_toList]
    exact Nat.min_eq_left hok
  unfold advPostCheckIfMacFilteredOut
  rw [hlen, hallow, harr]
  by_cases hzero : f.scanFilterLength = 0
  · rw [if_pos hzero]
    have hnil : f.macs = [] := List.length_eq_zero_iff.mp (hmacs.trans hzero)
    simp [hnil]
  · rw [if_neg hzero, if_neg hzero, Option.getD_some]
    have hne : f.macs ≠ [] := by
      intro hnil
      rw [hnil, List.length_nil] at hmacs
      exact hzero hmacs.symm
    have hfound : macFound mac f.scanFilterLength f.macs = decide (mac ∈ f.macs) := by
      rw [Bool.eq_iff_iff, macFound_iff, decide_eq_true_eq, ← hmacs, List.take_length]
    simp only [hfound, hne, ne_eq, not_false_eq_true, true_and]
    cases f.scanFilterAllowListed <;> cases decide (mac ∈ f.macs) <;> simp

/-! ## The filter of a document -/

/-- The filter `f'` is the one of the document: it fits into the list, its addresses are the
valid ones of the document's list, or those of `f` if this has none, and they decide which
addresses are filtered out. -/
structure ScanFilterExact (macOf : List Char → Option MacAddr) (j : Json) (f f' : ScanFilter) :
    Prop where
  length : f'.scanFilterLength ≤ 100
  macs : ∀ v, getObjectItem j "scan_filter_list" = some v →
    f'.macs = (arrayItems v).filterMap (itemMac macOf)
  missing : getObjectItem j "scan_filter_list" = none → f'.macs = f.macs
  filteredOut : ∀ calloc cache cache', advPostOnGwCfgChange calloc cache f' = some cache' →
    ∀ mac, advPostCheckIfMacFilteredOut cache' mac = true ↔
      f'.macs ≠ [] ∧ decide (mac ∈ f'.macs) ≠ f'.scanFilterAllowListed

/-- The document's list has room in `scan_filter_list` and only valid addresses; without a list,
the previous one has room. -/
structure ScanFilterListOk (macOf : List Char → Option MacAddr) (j : Json) (f : ScanFilter) :
    Prop where
  length : ∀ v, getObjectItem j "scan_filter_list" = some v → (arrayItems v).length ≤ 100
  valid : ∀ v, getObjectItem j "scan_filter_list" = some v →
    ∀ item ∈ arrayItems v, (itemMac macOf item).isSome = true
  missing : getObjectItem j "scan_filter_list" = none → f.scanFilterLength ≤ 100

section cfg

variable [Components]

/-- **When the scan filter is parsed exactly.**  The parser stays inside the list and makes the
filter of the document, if and only if the document's list is not too long and has only valid
addresses. -/
theorem scanFilter_exact_iff {macOf : List Char → Option MacAddr} (hmac : ReadsMac macOf)
    (j : Json) (f : ScanFilter) :
    (∃ f', gwCfgJsonParseScanFilter j f = some f' ∧ ScanFilterExact macOf j f f') ↔
      ScanFilterListOk macOf j f := by
  unfold gwCfgJsonParseScanFilter
  cases hv : getObjectItem j "scan_filter_list" with
  | none =>
    simp only [Option.some.injEq, exists_eq_left']
    constructor
    · intro h
      exact ⟨fun v hv' => by simp [hv] at hv', fun v hv' => by simp [hv] at hv', fun _ => h.length⟩
    · intro h
      exact ⟨h.missing hv, fun v hv' => by simp [hv] at hv', fun _ => rfl,
        fun _ _ _ => filteredOut_iff (show ScanFilter.Ok _ from h.missing hv)⟩
  | some v =>
    simp only [Option.bind_eq_bind, Option.bind_eq_some_iff, Option.some.injEq]
    constructor
    · rintro ⟨f', ⟨list', hlist, rfl⟩, h⟩
      have hlen : (arrayItems v).length ≤ 100 := h.length
      have hmacs := congrArg List.length (h.macs v hv)
      rw [ScanFilter.macs, List.length_take, Vector.length_toList,
        Nat.min_eq_left hlen] at hmacs
      refine ⟨fun w hw => ?_, fun w hw => ?_, fun hnone => absurd (hv.symm.trans hnone) (by simp)⟩
      · rw [← Option.some.inj (hv.symm.trans hw)]
        exact hlen
      · rw [← Option.some.inj (hv.symm.trans hw)]
        exact List.filterMap_length_eq_length.mp hmacs.symm
    · intro h
      obtain ⟨list', hlist⟩ := Option.isSome_iff_exists.mp
        ((parseScanFilterList_isSome_iff (arrayItems v) f.scanFilterList).mpr (h.length v hv))
      refine ⟨_, ⟨list', hlist, rfl⟩, ⟨h.length v hv, fun w hw => ?_,
        fun hnone => absurd (hv.symm.trans hnone) (by simp),
        fun _ _ _ => filteredOut_iff (show ScanFilter.Ok _ from h.length v hv)⟩⟩
      rw [← Option.some.inj (hv.symm.trans hw)]
      exact take_parseScanFilterList hmac hlist (h.valid v hv)

end cfg

/-! ## Examples -/

open Sample

/-- The address that six bytes between colons denote. -/
def macOfText (s : List Char) : Option MacAddr :=
  let digits := s.filter fun c => c != ':'
  if digits.length = 12 ∧ macText digits = s ∧ digits.all fun c => (hexDigit c).isSome then
    some (BitVec.ofNat 48 (hexValue 0 digits))
  else none

/-- The submodules, with a `mac_addr_from_str` that looks at the form of its string. -/
@[reducible] def strictComponents : Components :=
  { components with macAddrFromStr := fun s old => (s.bind macOfText).getD old }

theorem strictComponents_readsMac : @ReadsMac strictComponents macOfText := fun _ _ => rfl

/-- A document with a list of addresses. -/
def scanFilterDocument (texts : List String) : Json := .object [
  ("scan_filter_allow_listed", .bool true),
  ("scan_filter_list", .array (texts.map lit))]

/-- A filter of two addresses. -/
def twoMacs : ScanFilter where
  scanFilterAllowListed := true
  scanFilterLength := 2
  scanFilterList := (Vector.replicate 100 0).set 0 0x111111111111 |>.set 1 0x222222222222

theorem scanFilterDocument_exact :
    ∃ f', @gwCfgJsonParseScanFilter strictComponents
        (scanFilterDocument ["AA:BB:CC:DD:EE:FF", "A0:B0:C0:D0:E0:F0"]) twoMacs = some f' ∧
      ScanFilterExact macOfText
        (scanFilterDocument ["AA:BB:CC:DD:EE:FF", "A0:B0:C0:D0:E0:F0"]) twoMacs f' := by
  refine (@scanFilter_exact_iff strictComponents macOfText strictComponents_readsMac _ _).mpr ?_
  have hlist : ∀ v, getObjectItem (scanFilterDocument ["AA:BB:CC:DD:EE:FF", "A0:B0:C0:D0:E0:F0"])
      "scan_filter_list" = some v →
      v = .array [lit "AA:BB:CC:DD:EE:FF", lit "A0:B0:C0:D0:E0:F0"] := by
    intro v hv
    exact (Option.some.inj hv).symm
  refine ⟨fun v hv => ?_, fun v hv => ?_, fun hnone => ?_⟩
  · rw [hlist v hv]
    decide
  · rw [hlist v hv]
    decide +kernel
  · exact absurd hnone (by decide +kernel)

/-- A string that is no address leaves the previous one in its place, which then passes the
filter; and with 101 strings the loop writes behind the list. -/
theorem invalid_string_keeps_previous :
    (∃ f', @gwCfgJsonParseScanFilter strictComponents
        (scanFilterDocument ["AA:BB:CC:DD:EE:FF", "no address"]) twoMacs = some f' ∧
      f'.macs = [0xAABBCCDDEEFF, 0x222222222222] ∧
      ¬ ScanFilterExact macOfText
        (scanFilterDocument ["AA:BB:CC:DD:EE:FF", "no address"]) twoMacs f') ∧
    @gwCfgJsonParseScanFilter strictComponents
      (scanFilterDocument (List.replicate 101 "AA:BB:CC:DD:EE:FF")) twoMacs = none := by
  constructor
  · have hrun : ((@gwCfgJsonParseScanFilter strictComponents
        (scanFilterDocument ["AA:BB:CC:DD:EE:FF", "no address"]) twoMacs).map
          ScanFilter.macs) = some [0xAABBCCDDEEFF, 0x222222222222] := by decide +kernel
    obtain ⟨f', hparse, hmacs⟩ := Option.map_eq_some_iff.mp hrun
    refine ⟨f', hparse, hmacs, fun h => ?_⟩
    have hexact := h.macs (.array [lit "AA:BB:CC:DD:EE:FF", lit "no address"]) rfl
    rw [hmacs] at hexact
    exact absurd hexact (by decide +kernel)
  · decide +kernel

end GwCfgJson
end RuuviGateway
