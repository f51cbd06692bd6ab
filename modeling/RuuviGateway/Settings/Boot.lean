import RuuviGateway.GwCfgJson.Instance
import RuuviGateway.GwCfgJson.Ops

/-!
# What a boot may do to the stored configuration

A boot with failures is safe (`BootSafe`) if it leaves behind what a boot without failures would
have found: the blobs are given up only for a text that holds their settings, a stored
configuration is not replaced by the empty one, and the next boot finds the configuration of the
user.

The code is safe for some patterns of failures and not for others (`bootSafe_iff`).  Four things
go wrong.  Where NVS runs out of space, the whole partition is erased.  A configuration that
could not be read counts as one that does not exist, so the empty one is written in its place,
or the one of an old blob.  And the blob of the Wi-Fi component is given up without a look at
whether its settings have been saved; when nothing has been read, they have not been.
-/

namespace RuuviGateway
namespace Settings

variable {Text Cfg GwBlob WifiBlob : Type} [DecidableEq Text]
variable (k : Codec Text Cfg GwBlob WifiBlob)

/-! ## What NVS holds -/

/-- The configuration of the stored text. -/
def Codec.jsonCfg (n : Nvs Text GwBlob WifiBlob) : Option Cfg :=
  n.json.bind fun t => if t = k.empty then none else k.parse t

/-- The configuration of the blob of the gateway, if this is valid. -/
def Codec.blobCfg (n : Nvs Text GwBlob WifiBlob) : Option Cfg :=
  (n.gwBlob.filter k.isBlobValid).map k.convertBlob

/-- The configuration of the user, apart from the blob of the Wi-Fi component: the empty string
says that there is none. -/
def Codec.userCfg (n : Nvs Text GwBlob WifiBlob) : Option Cfg :=
  if n.json = some k.empty then none else (k.jsonCfg n).or (k.blobCfg n)

/-- The stored text holds the Wi-Fi settings of a blob. -/
def Codec.HoldsWifi (n : Nvs Text GwBlob WifiBlob) (w : WifiBlob) : Prop :=
  ∃ c, n.json = some (k.generate (k.setWifi w c))

/-- NVS holds a configuration that would be lost with it. -/
def Codec.HasCfg (n : Nvs Text GwBlob WifiBlob) : Prop :=
  (k.jsonCfg n).isSome = true ∨ (k.blobCfg n).isSome = true ∨ n.wifiBlob.isSome = true

/-! ## A safe boot -/

/-- No failure. -/
def Faults.none : Faults where
  calloc := true
  nvsOpen := true
  json := ⟨true, true, true, true⟩
  blob := ⟨true, true, true⟩
  wifiRead := true
  generate := true
  save := ⟨⟨true, true, .ok⟩, true, ⟨true, true, .ok⟩⟩
  eraseBlob := ⟨true, true⟩
  markDeprecated := true

/-- `c'` is the configuration `c` of the user with the Wi-Fi settings of the blob in `n`, as it
is loaded later: from where it was; after it has been saved without these settings, or with
them; or with the blob given up because the stored text holds its settings. -/
def Codec.Kept (n : Nvs Text GwBlob WifiBlob) (c c' : Cfg) : Prop :=
  c' = k.withWifi n.wifiBlob c ∨
  (∃ r, k.parse (k.generate c) = some r ∧ c' = k.withWifi n.wifiBlob r) ∨
  (∃ r, k.parse (k.generate (k.withWifi n.wifiBlob c)) = some r ∧
    (c' = r ∨ c' = k.withWifi n.wifiBlob r)) ∨
  ∃ w, n.wifiBlob = some w ∧ k.HoldsWifi n w ∧ c' = c

/-- A boot is safe: in every content `m` that NVS goes through, a blob is gone only if the text
holds its settings, and a configuration has not become empty; and a boot without failures finds
the configuration of the user in what is left. -/
structure BootSafe (allow : Bool) (f : Faults) (n : Nvs Text GwBlob WifiBlob) : Prop where
  gwBlob : ∀ c, k.blobCfg n = some c → ∀ m ∈ (settingsGetFromFlash k allow f n).contents,
    m.gwBlob = none →
      ∃ w, (w = none ∨ w = n.wifiBlob) ∧ m.json = some (k.generate (k.withWifi w c))
  wifiBlob : ∀ w, n.wifiBlob = some w → ∀ m ∈ (settingsGetFromFlash k allow f n).contents,
    m.wifiBlob = none → k.HoldsWifi m w
  json : (k.jsonCfg n).isSome = true →
    ∀ m ∈ (settingsGetFromFlash k allow f n).contents, m.json ≠ some k.empty
  reboot : ∀ c, k.userCfg n = some c → ∃ c', k.Kept n c c' ∧
    (settingsGetFromFlash k true .none (settingsGetFromFlash k allow f n).nvs).result =
      some (.ok, c')

/-! ## When it is safe -/

/-- The text that is saved by the boot, if one is. -/
def bootText (f : Faults) (n : Nvs Text GwBlob WifiBlob) : Option Text :=
  let r := readSettings k f n
  if r.status = .notExist then some k.empty
  else if r.blobUsed || (readWifi f n).isSome then
    if f.generate then some (k.generate (k.withWifi (readWifi f n) r.cfg)) else none
  else none

/-- The attempt leaves its text behind, if it is made. -/
def SaveAttempt.stores (a : SaveAttempt) : Bool :=
  a.nvsOpen && match a.write with
    | .ok => true
    | .notEnoughSpace => false
    | .error written => written

/-- Saving leaves its text behind, if the partition is not erased. -/
def SaveFaults.stores (f : SaveFaults) : Bool :=
  f.first.stores ||
    (f.first.nvsOpen && decide (f.first.write = .notEnoughSpace) && f.second.stores)

/-- The partition is erased when `t` is saved. -/
def SaveFaults.erases (f : SaveFaults) (t : Text) (n : Nvs Text GwBlob WifiBlob) : Bool :=
  f.first.nvsOpen && !(f.first.readPrev && decide (n.json = some t)) &&
    decide (f.first.write = .notEnoughSpace) && f.erase

/-- The blob of the Wi-Fi component after a boot that does not erase the partition. -/
def wifiLeft (f : Faults) (n : Nvs Text GwBlob WifiBlob) : Option WifiBlob :=
  if (readWifi f n).isSome && f.markDeprecated then none else n.wifiBlob

/-- The failures and the content of NVS with which a boot is safe. -/
structure SafeFor (f : Faults) (n : Nvs Text GwBlob WifiBlob) : Prop where
  /-- The partition is erased only if it holds no configuration. -/
  space : ∀ t, bootText k f n = some t → f.save.erases t n = true → ¬ k.HasCfg n
  /-- If the configuration of the user could not be read, the empty one is not stored. -/
  read : (k.userCfg n).isSome = true → (readSettings k f n).status = .notExist →
    f.save.stores = false
  /-- If a blob has been read in place of the stored text, and is stored, then it is the same
  configuration. -/
  older : ∀ c, k.jsonCfg n = some c → (readSettings k f n).blobUsed = true →
    f.generate = true → f.save.stores = true → ∀ r,
      k.parse (k.generate (k.withWifi (readWifi f n) (readSettings k f n).cfg)) = some r →
        k.Kept n c (k.withWifi (wifiLeft f n) r)
  /-- If the blob of the Wi-Fi component is marked as deprecated, then its settings are stored
  with a configuration, or they have been before and the empty string is not stored. -/
  wifi : ∀ w, readWifi f n = some w → f.markDeprecated = true →
    ((readSettings k f n).status ≠ .notExist ∧ f.generate = true ∧ f.save.stores = true) ∨
    (k.HoldsWifi n w ∧
      ¬ ((readSettings k f n).status = .notExist ∧ f.save.stores = true))

variable {k}

/-! ## Reading -/

omit [DecidableEq Text] in
theorem readWifi_eq_some {f : Faults} {n : Nvs Text GwBlob WifiBlob} {w : WifiBlob}
    (h : readWifi f n = some w) : n.wifiBlob = some w := by
  unfold readWifi at h
  split at h
  · exact h
  · cases h

omit [DecidableEq Text] in
/-- What is read of the blob is its configuration. -/
theorem blobCfg_of_read {f : BlobFaults} {n : Nvs Text GwBlob WifiBlob} {c : Cfg}
    (h : settingsReadFromBlob k f n = some c) : k.blobCfg n = some c := by
  unfold settingsReadFromBlob settingsGetGwCfgBlobFromNvs at h
  split at h
  · split at h
    · exact h
    · cases h
  · cases h

/-- What is read at boot is the stored text, the blob, or nothing. -/
theorem readSettings_cases (k : Codec Text Cfg GwBlob WifiBlob) (f : Faults)
    (n : Nvs Text GwBlob WifiBlob) :
    (n.json = some k.empty ∧ readSettings k f n = ⟨.empty, false, k.default⟩) ∨
    (∃ c, k.jsonCfg n = some c ∧ readSettings k f n = ⟨.ok, false, c⟩) ∨
    (∃ c, k.blobCfg n = some c ∧ readSettings k f n = ⟨.ok, true, c⟩) ∨
    readSettings k f n = ⟨.notExist, false, k.default⟩ := by
  have hjson : settingsGetGwCfgFromNvs k f.json n = (.notExist, k.default) ∨
      (n.json = some k.empty ∧ settingsGetGwCfgFromNvs k f.json n = (.empty, k.default)) ∨
      ∃ c, k.jsonCfg n = some c ∧ settingsGetGwCfgFromNvs k f.json n = (.ok, c) := by
    unfold settingsGetGwCfgFromNvs settingsReadGwCfgJsonFromNvs
    by_cases hread : (f.json.size && f.json.malloc && f.json.str) = true
    · rw [if_pos hread]
      cases hn : n.json with
      | none => exact .inl rfl
      | some t =>
        by_cases ht : t = k.empty
        · exact .inr (.inl ⟨congrArg some ht, by simp [ht]⟩)
        · cases hparse : k.parse t with
          | none => exact .inl (by simp [ht, hparse])
          | some c =>
            cases hmem : f.json.parse with
            | false => exact .inl (by simp [ht, hparse])
            | true => exact .inr (.inr ⟨c, by simp [Codec.jsonCfg, hn, ht, hparse],
                by simp [ht, hparse]⟩)
    · rw [if_neg hread]
      exact .inl rfl
  unfold readSettings
  by_cases hopen : (!f.nvsOpen) = true
  · rw [if_pos hopen]
    exact .inr (.inr (.inr rfl))
  · rw [if_neg hopen]
    rcases hjson with h | ⟨hempty, h⟩ | ⟨c, hc, h⟩
    · rw [h]
      cases hblob : settingsReadFromBlob k f.blob n with
      | none => exact .inr (.inr (.inr rfl))
      | some c => exact .inr (.inr (.inl ⟨c, blobCfg_of_read hblob, rfl⟩))
    · rw [h]
      exact .inl ⟨hempty, rfl⟩
    · rw [h]
      exact .inr (.inl ⟨c, hc, rfl⟩)

/-- Without failures the stored text is read. -/
theorem fromNvs_of_jsonCfg {m : Nvs Text GwBlob WifiBlob} {c : Cfg} (h : k.jsonCfg m = some c) :
    settingsGetGwCfgFromNvs k Faults.none.json m = (.ok, c) := by
  unfold Codec.jsonCfg at h
  cases hm : m.json with
  | none => simp [hm] at h
  | some t =>
    have ht : t ≠ k.empty := fun he => by simp [hm, he] at h
    have hparse : k.parse t = some c := by simpa [hm, ht] using h
    simp [settingsGetGwCfgFromNvs, settingsReadGwCfgJsonFromNvs, Faults.none, hm, ht, hparse]

theorem fromNvs_of_not_jsonCfg {m : Nvs Text GwBlob WifiBlob} (hempty : m.json ≠ some k.empty)
    (h : k.jsonCfg m = none) :
    settingsGetGwCfgFromNvs k Faults.none.json m = (.notExist, k.default) := by
  unfold Codec.jsonCfg at h
  cases hm : m.json with
  | none => simp [settingsGetGwCfgFromNvs, settingsReadGwCfgJsonFromNvs, Faults.none, hm]
  | some t =>
    have ht : t ≠ k.empty := fun he => hempty (hm.trans (congrArg some he))
    have hparse : k.parse t = none := by simpa [hm, ht] using h
    simp [settingsGetGwCfgFromNvs, settingsReadGwCfgJsonFromNvs, Faults.none, hm, ht, hparse]

theorem fromNvs_of_empty {m : Nvs Text GwBlob WifiBlob} (h : m.json = some k.empty) :
    settingsGetGwCfgFromNvs k Faults.none.json m = (.empty, k.default) := by
  simp [settingsGetGwCfgFromNvs, settingsReadGwCfgJsonFromNvs, Faults.none, h]

/-- A boot without failures finds the configuration of the user. -/
theorem reboot_eq_ok_iff {m : Nvs Text GwBlob WifiBlob} {c' : Cfg} :
    (settingsGetFromFlash k true .none m).result = some (.ok, c') ↔
      ∃ c, k.userCfg m = some c ∧ c' = k.withWifi m.wifiBlob c := by
  have hresult : (settingsGetFromFlash k true .none m).result =
      some ((readSettings k .none m).status,
        k.withWifi m.wifiBlob (readSettings k .none m).cfg) := rfl
  have hblob : settingsReadFromBlob k Faults.none.blob m = k.blobCfg m := rfl
  rw [hresult, readSettings, Codec.userCfg, if_neg (by simp [Faults.none]), hblob]
  by_cases hempty : m.json = some k.empty
  · rw [fromNvs_of_empty hempty]
    simp [hempty]
  · rw [if_neg hempty]
    cases hjson : k.jsonCfg m with
    | some c =>
      rw [fromNvs_of_jsonCfg hjson]
      simp [eq_comm]
    | none =>
      rw [fromNvs_of_not_jsonCfg hempty hjson]
      cases k.blobCfg m with
      | some c => simp [eq_comm]
      | none => simp

/-! ## Saving -/

omit [DecidableEq Text] in
theorem Nvs.setJson_of_eq {t : Text} {n : Nvs Text GwBlob WifiBlob} (h : n.json = some t) :
    { n with json := some t } = n := by
  rw [← h]

theorem saveAttempt_eq {a : SaveAttempt} {t : Text} {n : Nvs Text GwBlob WifiBlob}
    (h : ¬ (a.readPrev = true ∧ n.json = some t)) (hopen : a.nvsOpen = true) :
    settingsSaveToFlashCjsonRetErr a t n = match a.write with
      | .ok => (.ok, { n with json := some t })
      | .notEnoughSpace => (.notEnoughSpace, n)
      | .error written => (.fail, if written then { n with json := some t } else n) := by
  unfold settingsSaveToFlashCjsonRetErr
  refine (if_neg (by simp [hopen])).trans ?_
  exact if_neg (by simpa using h)

/-- What an attempt leaves behind. -/
theorem saveAttempt_nvs (a : SaveAttempt) (t : Text) (n : Nvs Text GwBlob WifiBlob) :
    (settingsSaveToFlashCjsonRetErr a t n).2 =
      if a.stores then { n with json := some t } else n := by
  by_cases hopen : a.nvsOpen = true
  · by_cases hprev : a.readPrev = true ∧ n.json = some t
    · have hstay : (settingsSaveToFlashCjsonRetErr a t n).2 = n := by
        unfold settingsSaveToFlashCjsonRetErr
        rw [if_neg (by simp [hopen]), if_pos (by simpa using hprev)]
      rw [hstay, Nvs.setJson_of_eq hprev.2, ite_self]
    · rw [saveAttempt_eq hprev hopen]
      unfold SaveAttempt.stores
      rw [hopen]
      cases a.write with
      | ok => rfl
      | notEnoughSpace => rfl
      | error written => cases written <;> rfl
  · have hstay : (settingsSaveToFlashCjsonRetErr a t n).2 = n := by
      unfold settingsSaveToFlashCjsonRetErr
      rw [if_pos (by simpa using hopen)]
    rw [hstay, SaveAttempt.stores, Bool.not_eq_true] at *
    rw [hopen, Bool.false_and, if_neg Bool.false_ne_true]

/-- An attempt runs out of space where the text has to be written. -/
theorem saveAttempt_notEnoughSpace_iff {a : SaveAttempt} {t : Text}
    {n : Nvs Text GwBlob WifiBlob} :
    (settingsSaveToFlashCjsonRetErr a t n).1 = .notEnoughSpace ↔
      a.nvsOpen = true ∧ ¬ (a.readPrev = true ∧ n.json = some t) ∧
        a.write = .notEnoughSpace := by
  by_cases hopen : a.nvsOpen = true
  · by_cases hprev : a.readPrev = true ∧ n.json = some t
    · unfold settingsSaveToFlashCjsonRetErr
      rw [if_neg (by simp [hopen]), if_pos (by simpa using hprev)]
      simp [hprev]
    · rw [saveAttempt_eq hprev hopen]
      cases hw : a.write <;> simp [hopen, hprev]
  · unfold settingsSaveToFlashCjsonRetErr
    rw [if_pos (by simpa using hopen)]
    simp [hopen]

/-- What saving leaves behind, if the partition is not erased. -/
theorem save_of_not_erases {f : SaveFaults} {t : Text} {n : Nvs Text GwBlob WifiBlob}
    (h : f.erases t n = false) :
    (settingsSaveToFlashCjson f t n).nvs = (if f.stores then { n with json := some t } else n) ∧
      ∀ m ∈ (settingsSaveToFlashCjson f t n).between, m = n := by
  have hfirst := saveAttempt_nvs f.first t n
  unfold settingsSaveToFlashCjson
  by_cases hspace : (settingsSaveToFlashCjsonRetErr f.first t n).1 = .notEnoughSpace
  · obtain ⟨hopen, hprev, hwrite⟩ := saveAttempt_notEnoughSpace_iff.mp hspace
    have hprev' : (!(f.first.readPrev && decide (n.json = some t))) = true := by
      by_contra hne
      exact hprev (by simpa using hne)
    have herase : f.erase = false := by
      simpa [SaveFaults.erases, hopen, hwrite, hprev'] using h
    have hstay : f.first.stores = false := by
      simp [SaveAttempt.stores, hwrite]
    rw [saveAttempt_eq hprev hopen, hwrite]
    simp only [herase, Bool.false_eq_true, if_false, saveAttempt_nvs, List.mem_singleton,
      imp_self, implies_true, and_true]
    simp [SaveFaults.stores, hstay, hopen, hwrite]
  · have hstores : f.stores = f.first.stores ∨ (f.first.readPrev = true ∧ n.json = some t) := by
      by_cases hprev : f.first.readPrev = true ∧ n.json = some t
      · exact .inr hprev
      · left
        have : f.first.nvsOpen = true → f.first.write ≠ .notEnoughSpace := fun hopen hwrite =>
          hspace (saveAttempt_notEnoughSpace_iff.mpr ⟨hopen, hprev, hwrite⟩)
        unfold SaveFaults.stores
        cases hopen : f.first.nvsOpen with
        | false => simp
        | true => simp [this hopen]
    split
    · rename_i n' heq
      exact absurd (congrArg Prod.fst heq) hspace
    · refine ⟨?_, by simp⟩
      rw [hfirst]
      rcases hstores with hs | ⟨-, hjson⟩
      · rw [hs]
      · rw [Nvs.setJson_of_eq hjson, ite_self, ite_self]

/-- The erased partition is among the contents, and what is written later is the text. -/
theorem save_of_erases {f : SaveFaults} {t : Text} {n : Nvs Text GwBlob WifiBlob}
    (h : f.erases t n = true) :
    (settingsSaveToFlashCjson f t n).between = [Nvs.erased] ∧
      ((settingsSaveToFlashCjson f t n).nvs = Nvs.erased ∨
        (settingsSaveToFlashCjson f t n).nvs = ⟨some t, none, none⟩) := by
  simp only [SaveFaults.erases, Bool.and_eq_true, Bool.not_eq_true', decide_eq_true_eq] at h
  obtain ⟨⟨⟨hopen, hprev⟩, hwrite⟩, herase⟩ := h
  have hprev' : ¬ (f.first.readPrev = true ∧ n.json = some t) := by
    simpa using hprev
  unfold settingsSaveToFlashCjson
  rw [saveAttempt_eq hprev' hopen, hwrite]
  simp only [herase, if_true, saveAttempt_nvs]
  refine ⟨trivial, ?_⟩
  cases f.second.stores with
  | true => exact .inr rfl
  | false => exact .inl rfl

/-! ## The contents of NVS -/

theorem saveSettings_of_some {f : Faults} {n : Nvs Text GwBlob WifiBlob} {t : Text}
    (h : bootText k f n = some t) : saveSettings k f n = settingsSaveToFlashCjson f.save t n := by
  unfold bootText at h
  unfold saveSettings
  by_cases hstatus : (readSettings k f n).status = .notExist
  · simp only [if_pos hstatus, Option.some.injEq] at h ⊢
    rw [h]
  · by_cases hused : ((readSettings k f n).blobUsed || (readWifi f n).isSome) = true
    · cases hgen : f.generate with
      | false => simp [hstatus, hused, hgen] at h
      | true =>
        simp only [if_neg hstatus, if_pos hused, hgen, if_true, Option.some.injEq] at h ⊢
        rw [← h]
        rfl
    · simp [hstatus, hused] at h

theorem saveSettings_of_none {f : Faults} {n : Nvs Text GwBlob WifiBlob}
    (h : bootText k f n = none) :
    (saveSettings k f n).between = [] ∧ (saveSettings k f n).nvs = n := by
  unfold bootText at h
  unfold saveSettings
  by_cases hstatus : (readSettings k f n).status = .notExist
  · simp [hstatus] at h
  · by_cases hused : ((readSettings k f n).blobUsed || (readWifi f n).isSome) = true
    · cases hgen : f.generate with
      | false => simp [hstatus, hused, settingsSaveToFlash]
      | true => simp [hstatus, hused, hgen] at h
    · simp [hstatus, hused]

/-- NVS after saving, if the partition is not erased. -/
def storedNvs (k : Codec Text Cfg GwBlob WifiBlob) (f : Faults) (n : Nvs Text GwBlob WifiBlob) :
    Nvs Text GwBlob WifiBlob :=
  match bootText k f n with
  | none => n
  | some t => if f.save.stores then { n with json := some t } else n

/-- The blob of the gateway is never erased on its own: its handle has been closed. -/
theorem boot_nvs {f : Faults} (n : Nvs Text GwBlob WifiBlob) (hcalloc : f.calloc = true) :
    settingsGetFromFlash k true f n = ⟨some ((readSettings k f n).status,
        k.withWifi (readWifi f n) (readSettings k f n).cfg),
      (saveSettings k f n).between ++ [(saveSettings k f n).nvs, (saveSettings k f n).nvs,
        if (readWifi f n).isSome && f.markDeprecated then
          { (saveSettings k f n).nvs with wifiBlob := none } else (saveSettings k f n).nvs],
      if (readWifi f n).isSome && f.markDeprecated then
        { (saveSettings k f n).nvs with wifiBlob := none } else (saveSettings k f n).nvs⟩ := by
  have herase : ∀ m : Nvs Text GwBlob WifiBlob, settingsEraseGwCfgBlobIfExist
      (if f.nvsOpen then Handle.closed else Handle.null) f.eraseBlob m = m := by
    intro m
    unfold settingsEraseGwCfgBlobIfExist
    cases f.nvsOpen <;> simp
  unfold settingsGetFromFlash
  rw [if_neg (by simp [hcalloc])]
  simp only [Bool.not_true, Bool.false_eq_true, if_false, herase]

theorem storedNvs_wifiBlob (f : Faults) (n : Nvs Text GwBlob WifiBlob) :
    (storedNvs k f n).wifiBlob = n.wifiBlob ∧ (storedNvs k f n).gwBlob = n.gwBlob := by
  unfold storedNvs
  split
  · exact ⟨rfl, rfl⟩
  · split <;> exact ⟨rfl, rfl⟩

theorem boot_of_not_erases {f : Faults} {n : Nvs Text GwBlob WifiBlob} (hcalloc : f.calloc = true)
    (h : ∀ t, bootText k f n = some t → f.save.erases t n = false) :
    (settingsGetFromFlash k true f n).nvs =
        { storedNvs k f n with wifiBlob := wifiLeft f n } ∧
      (settingsGetFromFlash k true f n).nvs ∈ (settingsGetFromFlash k true f n).contents ∧
      ∀ m ∈ (settingsGetFromFlash k true f n).contents,
        m = n ∨ m = storedNvs k f n ∨ m = (settingsGetFromFlash k true f n).nvs := by
  have hsaved : (saveSettings k f n).nvs = storedNvs k f n ∧
      ∀ m ∈ (saveSettings k f n).between, m = n := by
    unfold storedNvs
    cases ht : bootText k f n with
    | none =>
      obtain ⟨hbetween, hnvs⟩ := saveSettings_of_none ht
      rw [hbetween]
      exact ⟨hnvs, by simp⟩
    | some t =>
      rw [saveSettings_of_some ht]
      exact save_of_not_erases (h t ht)
  rw [boot_nvs n hcalloc, hsaved.1]
  have hmarked : (if (readWifi f n).isSome && f.markDeprecated then
      { storedNvs k f n with wifiBlob := none } else storedNvs k f n) =
        { storedNvs k f n with wifiBlob := wifiLeft f n } := by
    unfold wifiLeft
    split
    · rfl
    · rw [← (storedNvs_wifiBlob f n).1]
  refine ⟨hmarked, by simp, ?_⟩
  intro m hm
  simp only [List.mem_append, List.mem_cons, List.not_mem_nil, or_false] at hm
  rcases hm with hm | rfl | rfl | rfl
  · exact .inl (hsaved.2 m hm)
  · exact .inr (.inl rfl)
  · exact .inr (.inl rfl)
  · exact .inr (.inr rfl)

/-! ## What is left for the next boot -/

theorem userCfg_of_generated {m : Nvs Text GwBlob WifiBlob} {c r : Cfg}
    (h : m.json = some (k.generate c)) (hr : k.parse (k.generate c) = some r) :
    k.userCfg m = some r := by
  have hne : m.json ≠ some k.empty := by
    rw [h]
    exact fun heq => k.generate_ne_empty c (Option.some.inj heq)
  rw [Codec.userCfg, if_neg hne, Codec.jsonCfg, h, Option.bind_some,
    if_neg (k.generate_ne_empty c), hr, Option.some_or]

theorem userCfg_of_jsonCfg {n : Nvs Text GwBlob WifiBlob} {c : Cfg} (h : k.jsonCfg n = some c) :
    k.userCfg n = some c := by
  have hne : n.json ≠ some k.empty := by
    intro heq
    rw [Codec.jsonCfg, heq, Option.bind_some, if_pos rfl] at h
    cases h
  rw [Codec.userCfg, if_neg hne, h, Option.some_or]

theorem userCfg_isSome {n : Nvs Text GwBlob WifiBlob} (h : (k.userCfg n).isSome = true) :
    n.json ≠ some k.empty ∧ ((k.jsonCfg n).isSome = true ∨ (k.blobCfg n).isSome = true) := by
  unfold Codec.userCfg at h
  split at h
  · cases h
  · rename_i hne
    exact ⟨hne, by simpa using h⟩

/-- A text other than the empty one is saved because of a blob. -/
theorem bootText_cases {f : Faults} {n : Nvs Text GwBlob WifiBlob} {t : Text}
    (h : bootText k f n = some t) :
    ((readSettings k f n).status = .notExist ∧ t = k.empty) ∨
    ((readSettings k f n).status ≠ .notExist ∧ f.generate = true ∧
      t = k.generate (k.withWifi (readWifi f n) (readSettings k f n).cfg) ∧
      ((readSettings k f n).blobUsed = true ∨ (readWifi f n).isSome = true)) := by
  unfold bootText at h
  by_cases hstatus : (readSettings k f n).status = .notExist
  · simp only [if_pos hstatus, Option.some.injEq] at h
    exact .inl ⟨hstatus, h.symm⟩
  · by_cases hused : ((readSettings k f n).blobUsed || (readWifi f n).isSome) = true
    · cases hgen : f.generate with
      | false => simp [hstatus, hused, hgen] at h
      | true =>
        simp only [if_neg hstatus, if_pos hused, hgen, if_true, Option.some.injEq] at h
        exact .inr ⟨hstatus, rfl, h.symm, by simpa using hused⟩
    · simp [hstatus, hused] at h

theorem bootText_of_notExist {f : Faults} {n : Nvs Text GwBlob WifiBlob}
    (h : (readSettings k f n).status = .notExist) : bootText k f n = some k.empty := by
  simp only [bootText, if_pos h]

theorem bootText_of_used {f : Faults} {n : Nvs Text GwBlob WifiBlob}
    (h : (readSettings k f n).status ≠ .notExist) (hgen : f.generate = true)
    (hused : (readSettings k f n).blobUsed = true ∨ (readWifi f n).isSome = true) :
    bootText k f n = some (k.generate (k.withWifi (readWifi f n) (readSettings k f n).cfg)) := by
  have hused' : ((readSettings k f n).blobUsed || (readWifi f n).isSome) = true := by
    simpa using hused
  simp only [bootText, if_neg h, if_pos hused', hgen, if_true]

theorem storedNvs_of_stores {f : Faults} {n : Nvs Text GwBlob WifiBlob} {t : Text}
    (ht : bootText k f n = some t) (hs : f.save.stores = true) :
    storedNvs k f n = { n with json := some t } := by
  simp only [storedNvs, ht, hs, if_true]

/-- The Wi-Fi settings that were read are stored, or have been before. -/
theorem holdsWifi_stored_iff {f : Faults} {n : Nvs Text GwBlob WifiBlob} {w : WifiBlob}
    (hw : readWifi f n = some w) :
    k.HoldsWifi (storedNvs k f n) w ↔
      ((readSettings k f n).status ≠ .notExist ∧ f.generate = true ∧ f.save.stores = true) ∨
      (k.HoldsWifi n w ∧
        ¬ ((readSettings k f n).status = .notExist ∧ f.save.stores = true)) := by
  cases hs : f.save.stores with
  | false =>
    have hstay : storedNvs k f n = n := by
      unfold storedNvs
      split <;> simp [hs]
    rw [hstay]
    simp
  | true =>
    by_cases hstatus : (readSettings k f n).status = .notExist
    · rw [storedNvs_of_stores (bootText_of_notExist hstatus) hs]
      refine iff_of_false ?_ (by simp [hstatus])
      rintro ⟨c, hc⟩
      exact k.generate_ne_empty _ (Option.some.inj hc).symm
    · cases hgen : f.generate with
      | false =>
        have hstay : storedNvs k f n = n := by
          have hnone : bootText k f n = none := by
            simp [bootText, hstatus, hgen]
          simp only [storedNvs, hnone]
        rw [hstay]
        simp [hstatus]
      | true =>
        rw [storedNvs_of_stores (bootText_of_used hstatus hgen (.inr (by simp [hw]))) hs, hw]
        exact iff_of_true ⟨_, rfl⟩ (.inl ⟨hstatus, rfl, rfl⟩)

omit [DecidableEq Text] in
theorem wifiLeft_cases (f : Faults) (n : Nvs Text GwBlob WifiBlob) :
    wifiLeft f n = n.wifiBlob ∨
      (wifiLeft f n = none ∧ f.markDeprecated = true ∧ ∃ w, readWifi f n = some w) := by
  unfold wifiLeft
  split
  · rename_i h
    rw [Bool.and_eq_true] at h
    exact .inr ⟨rfl, h.2, Option.isSome_iff_exists.mp h.1⟩
  · exact .inl rfl

/-- In a boot that is safe, the configuration of the user is kept by what is left. -/
theorem kept_of_safeFor {f : Faults} {n : Nvs Text GwBlob WifiBlob} {c : Cfg}
    (hsafe : SafeFor k f n) (hc : k.userCfg n = some c) :
    ∃ r, k.userCfg (storedNvs k f n) = some r ∧ k.Kept n c (k.withWifi (wifiLeft f n) r) := by
  have hunchanged (hstay : storedNvs k f n = n) : k.Kept n c (k.withWifi (wifiLeft f n) c) := by
    rcases wifiLeft_cases f n with h | ⟨h, hmark, w, hw⟩
    · rw [h]
      exact .inl rfl
    · have hholds := (holdsWifi_stored_iff hw).mpr (hsafe.wifi w hw hmark)
      rw [hstay] at hholds
      rw [h]
      exact .inr (.inr (.inr ⟨w, readWifi_eq_some hw, hholds, rfl⟩))
  by_cases hstay : storedNvs k f n = n
  · exact ⟨c, hstay.symm ▸ hc, hunchanged hstay⟩
  · have htext : ∃ t, bootText k f n = some t ∧ f.save.stores = true := by
      unfold storedNvs at hstay
      split at hstay
      · exact absurd rfl hstay
      · rename_i t ht
        by_cases hs : f.save.stores = true
        · exact ⟨t, ht, hs⟩
        · exact absurd (if_neg hs) hstay
    obtain ⟨t, ht, hs⟩ := htext
    have hsome : (k.userCfg n).isSome = true := by
      rw [hc, Option.isSome_some]
    rcases bootText_cases ht with ⟨hstatus, -⟩ | ⟨hstatus, hgen, rfl, hused⟩
    · exact absurd (hsafe.read hsome hstatus) (by simp [hs])
    · obtain ⟨r, hr⟩ := k.parse_generate (k.withWifi (readWifi f n) (readSettings k f n).cfg)
      have hjson : (storedNvs k f n).json =
          some (k.generate (k.withWifi (readWifi f n) (readSettings k f n).cfg)) := by
        rw [storedNvs_of_stores ht hs]
      refine ⟨r, userCfg_of_generated hjson hr, ?_⟩
      -- the settings that were read are those of the blob, and the blob may be left
      have hmerged : (readSettings k f n).cfg = c →
          k.Kept n c (k.withWifi (wifiLeft f n) r) := by
        intro hcfg
        rw [hcfg] at hr
        cases hw : readWifi f n with
        | none =>
          have hleft : wifiLeft f n = n.wifiBlob := by
            simp [wifiLeft, hw]
          rw [hw] at hr
          rw [hleft]
          exact .inr (.inl ⟨r, hr, rfl⟩)
        | some w =>
          rw [hw, ← readWifi_eq_some hw] at hr
          refine .inr (.inr (.inl ⟨r, hr, ?_⟩))
          rcases wifiLeft_cases f n with h | ⟨h, -⟩
          · exact .inr (by rw [h])
          · exact .inl (by rw [h]; rfl)
      rcases readSettings_cases k f n with ⟨hempty, -⟩ | ⟨u, hu, hread⟩ | ⟨b, hb, hread⟩ | hread
      · exact absurd hempty (userCfg_isSome hsome).1
      · refine hmerged ?_
        rw [hread]
        exact Option.some.inj ((userCfg_of_jsonCfg hu).symm.trans hc)
      · cases hj : k.jsonCfg n with
        | some u =>
          have huc : u = c := Option.some.inj ((userCfg_of_jsonCfg hj).symm.trans hc)
          exact hsafe.older c (huc ▸ hj) (by rw [hread]) hgen hs r hr
        | none =>
          refine hmerged ?_
          rw [Codec.userCfg, if_neg (userCfg_isSome hsome).1, hj, Option.none_or] at hc
          rw [hread]
          exact Option.some.inj (hb.symm.trans hc)
      · exact absurd (by rw [hread]) hstatus

/-! ## A boot that erases the partition -/

theorem hasCfg_of_used {f : Faults} {n : Nvs Text GwBlob WifiBlob}
    (h : (readSettings k f n).blobUsed = true ∨ (readWifi f n).isSome = true) :
    (k.blobCfg n).isSome = true ∨ n.wifiBlob.isSome = true := by
  rcases h with h | h
  · rcases readSettings_cases k f n with ⟨-, hread⟩ | ⟨u, -, hread⟩ | ⟨b, hb, -⟩ | hread
    · rw [hread] at h
      cases h
    · rw [hread] at h
      cases h
    · exact .inl (by rw [hb, Option.isSome_some])
    · rw [hread] at h
      cases h
  · obtain ⟨w, hw⟩ := Option.isSome_iff_exists.mp h
    exact .inr (by rw [readWifi_eq_some hw, Option.isSome_some])

/-- If the partition is erased, a boot is safe if and only if there was nothing in it. -/
theorem bootSafe_of_erases {f : Faults} {n : Nvs Text GwBlob WifiBlob} {t : Text}
    (hcalloc : f.calloc = true) (ht : bootText k f n = some t) (he : f.save.erases t n = true) :
    BootSafe k true f n ↔ ¬ k.HasCfg n := by
  obtain ⟨hbetween, hnvs⟩ := save_of_erases he
  have hmem : Nvs.erased ∈ (settingsGetFromFlash k true f n).contents := by
    rw [boot_nvs n hcalloc, saveSettings_of_some ht, hbetween]
    simp
  constructor
  · intro hs hcfg
    have hblobs : (k.blobCfg n).isSome = true ∨ n.wifiBlob.isSome = true → False := by
      rintro (h | h)
      · obtain ⟨c, hc⟩ := Option.isSome_iff_exists.mp h
        obtain ⟨w, -, hjson⟩ := hs.gwBlob c hc _ hmem rfl
        cases hjson
      · obtain ⟨w, hw⟩ := Option.isSome_iff_exists.mp h
        obtain ⟨c, hjson⟩ := hs.wifiBlob w hw _ hmem rfl
        cases hjson
    rcases hcfg with h | h
    · obtain ⟨c, hc⟩ := Option.isSome_iff_exists.mp h
      rcases bootText_cases ht with ⟨-, rfl⟩ | ⟨-, -, -, hused⟩
      · obtain ⟨c', -, hresult⟩ := hs.reboot c (userCfg_of_jsonCfg hc)
        obtain ⟨c'', hc'', -⟩ := reboot_eq_ok_iff.mp hresult
        have hleft : ∀ m : Nvs Text GwBlob WifiBlob,
            m.json = none ∨ m.json = some k.empty → m.gwBlob = none → k.userCfg m = none := by
          rintro m (hm | hm) hgw
          · simp [Codec.userCfg, Codec.jsonCfg, Codec.blobCfg, hm, hgw]
          · simp [Codec.userCfg, hm]
        have hfinal : k.userCfg (settingsGetFromFlash k true f n).nvs = none := by
          rw [boot_nvs n hcalloc, saveSettings_of_some ht]
          rcases hnvs with hnvs | hnvs <;> rw [hnvs]
          · exact hleft _ (.inl (by split <;> rfl)) (by split <;> rfl)
          · exact hleft _ (.inr (by split <;> rfl)) (by split <;> rfl)
        rw [hfinal] at hc''
        cases hc''
      · exact hblobs (hasCfg_of_used hused)
    · exact hblobs h
  · intro hno
    simp only [Codec.HasCfg, not_or, Bool.not_eq_true, Option.isSome_eq_false_iff,
      Option.isNone_iff_eq_none] at hno
    obtain ⟨hjson, hblob, hwifi⟩ := hno
    refine ⟨?_, ?_, ?_, ?_⟩
    · intro c hc
      rw [hblob] at hc
      cases hc
    · intro w hw
      rw [hwifi] at hw
      cases hw
    · intro h
      rw [hjson] at h
      cases h
    · intro c hc
      have hsome := (userCfg_isSome (by rw [hc, Option.isSome_some])).2
      rw [hjson, hblob] at hsome
      simp at hsome

theorem safeFor_of_erases {f : Faults} {n : Nvs Text GwBlob WifiBlob} {t : Text}
    (ht : bootText k f n = some t) (he : f.save.erases t n = true) :
    SafeFor k f n ↔ ¬ k.HasCfg n := by
  constructor
  · intro hs
    exact hs.space t ht he
  · intro hno
    refine ⟨fun _ _ _ => hno, ?_, ?_, ?_⟩
    · intro h
      exact absurd ((userCfg_isSome h).2.elim .inl fun h => .inr (.inl h)) hno
    · intro c hc
      exact absurd (.inl (by rw [hc, Option.isSome_some])) hno
    · intro w hw
      exact absurd (.inr (.inr (by rw [readWifi_eq_some hw, Option.isSome_some]))) hno

/-! ## When a boot is safe -/

theorem bootSafe_of_safeFor {f : Faults} {n : Nvs Text GwBlob WifiBlob} (hcalloc : f.calloc = true)
    (he : ∀ t, bootText k f n = some t → f.save.erases t n = false) (hs : SafeFor k f n) :
    BootSafe k true f n := by
  obtain ⟨hfinal, -, hall⟩ := boot_of_not_erases hcalloc he
  obtain ⟨hwifi, hgw⟩ := storedNvs_wifiBlob (k := k) f n
  refine ⟨?_, ?_, ?_, ?_⟩
  · intro c hc m hm hnone
    have hsame : m.gwBlob = n.gwBlob := by
      rcases hall m hm with rfl | rfl | rfl
      · rfl
      · exact hgw
      · rw [hfinal]
        exact hgw
    rw [Codec.blobCfg, ← hsame, hnone] at hc
    cases hc
  · intro w hw m hm hnone
    rcases hall m hm with rfl | rfl | rfl
    · rw [hw] at hnone
      cases hnone
    · rw [hwifi, hw] at hnone
      cases hnone
    · rw [hfinal] at hnone ⊢
      rcases wifiLeft_cases f n with h | ⟨-, hmark, w', hw'⟩
      · have : n.wifiBlob = none := h.symm.trans hnone
        rw [this] at hw
        cases hw
      · have hww : w' = w := Option.some.inj ((readWifi_eq_some hw').symm.trans hw)
        rw [hww] at hw'
        exact (holdsWifi_stored_iff hw').mpr (hs.wifi w hw' hmark)
  · intro hj m hm
    obtain ⟨c, hc⟩ := Option.isSome_iff_exists.mp hj
    have huser : (k.userCfg n).isSome = true := by
      rw [userCfg_of_jsonCfg hc, Option.isSome_some]
    have hne := (userCfg_isSome huser).1
    have hstored : (storedNvs k f n).json ≠ some k.empty := by
      unfold storedNvs
      cases ht : bootText k f n with
      | none => exact hne
      | some t =>
        by_cases hst : f.save.stores = true
        · simp only [hst, if_true]
          intro h
          have hempty : t = k.empty := Option.some.inj h
          rcases bootText_cases ht with ⟨hstatus, -⟩ | ⟨-, -, htext, -⟩
          · exact absurd (hs.read huser hstatus) (by simp [hst])
          · exact k.generate_ne_empty _ (htext.symm.trans hempty)
        · simp only [if_neg hst]
          exact hne
    rcases hall m hm with rfl | rfl | rfl
    · exact hne
    · exact hstored
    · rw [hfinal]
      exact hstored
  · intro c hc
    obtain ⟨r, hr, hkept⟩ := kept_of_safeFor hs hc
    refine ⟨_, hkept, reboot_eq_ok_iff.mpr ⟨r, ?_, ?_⟩⟩
    · rw [hfinal]
      exact hr
    · rw [hfinal]

theorem safeFor_of_bootSafe {f : Faults} {n : Nvs Text GwBlob WifiBlob} (hcalloc : f.calloc = true)
    (he : ∀ t, bootText k f n = some t → f.save.erases t n = false) (hs : BootSafe k true f n) :
    SafeFor k f n := by
  obtain ⟨hfinal, hmem, -⟩ := boot_of_not_erases hcalloc he
  have hreboot : ∀ c, k.userCfg n = some c → ∃ r, k.userCfg (storedNvs k f n) = some r ∧
      k.Kept n c (k.withWifi (wifiLeft f n) r) := by
    intro c hc
    obtain ⟨c', hkept, hresult⟩ := hs.reboot c hc
    obtain ⟨r, hr, rfl⟩ := reboot_eq_ok_iff.mp hresult
    rw [hfinal] at hr hkept
    exact ⟨r, hr, hkept⟩
  refine ⟨?_, ?_, ?_, ?_⟩
  · intro t ht herases
    rw [he t ht] at herases
    cases herases
  · intro huser hstatus
    by_contra hst
    obtain ⟨c, hc⟩ := Option.isSome_iff_exists.mp huser
    obtain ⟨r, hr, -⟩ := hreboot c hc
    rw [storedNvs_of_stores (bootText_of_notExist hstatus) (by simpa using hst)] at hr
    exact (userCfg_isSome (by rw [hr, Option.isSome_some])).1 rfl
  · intro c hc hused hgen hst r hr
    obtain ⟨r', hr', hkept⟩ := hreboot c (userCfg_of_jsonCfg hc)
    have hstatus : (readSettings k f n).status ≠ .notExist := by
      rcases readSettings_cases k f n with ⟨-, hread⟩ | ⟨u, -, hread⟩ | ⟨b, -, hread⟩ | hread <;>
        rw [hread] at hused ⊢ <;> simp at hused ⊢
    have hjson : (storedNvs k f n).json =
        some (k.generate (k.withWifi (readWifi f n) (readSettings k f n).cfg)) := by
      rw [storedNvs_of_stores (bootText_of_used hstatus hgen (.inl hused)) hst]
    have hrr : r' = r := Option.some.inj (hr'.symm.trans (userCfg_of_generated hjson hr))
    rw [← hrr]
    exact hkept
  · intro w hw hmark
    refine (holdsWifi_stored_iff hw).mp ?_
    have hgone : (settingsGetFromFlash k true f n).nvs.wifiBlob = none := by
      rw [hfinal]
      simp [wifiLeft, hw, hmark]
    have hholds := hs.wifiBlob w (readWifi_eq_some hw) _ hmem hgone
    rw [hfinal] at hholds
    exact hholds

/-- A boot that may not write, or that has no memory at all, changes nothing. -/
theorem bootSafe_of_unchanged {allow : Bool} {f : Faults} {n : Nvs Text GwBlob WifiBlob}
    (hcontents : (settingsGetFromFlash k allow f n).contents = [])
    (hnvs : (settingsGetFromFlash k allow f n).nvs = n) : BootSafe k allow f n := by
  refine ⟨?_, ?_, ?_, ?_⟩
  · intro c _ m hm
    simp [hcontents] at hm
  · intro w _ m hm
    simp [hcontents] at hm
  · intro _ m hm
    simp [hcontents] at hm
  · intro c hc
    refine ⟨_, .inl rfl, ?_⟩
    rw [hnvs]
    exact reboot_eq_ok_iff.mpr ⟨c, hc, rfl⟩

theorem bootSafe_iff_safeFor {f : Faults} {n : Nvs Text GwBlob WifiBlob}
    (hcalloc : f.calloc = true) : BootSafe k true f n ↔ SafeFor k f n := by
  by_cases he : ∃ t, bootText k f n = some t ∧ f.save.erases t n = true
  · obtain ⟨t, ht, herases⟩ := he
    exact (bootSafe_of_erases hcalloc ht herases).trans (safeFor_of_erases ht herases).symm
  · have he' : ∀ t, bootText k f n = some t → f.save.erases t n = false := by
      intro t ht
      by_contra hne
      exact he ⟨t, ht, by simpa using hne⟩
    exact ⟨safeFor_of_bootSafe hcalloc he', bootSafe_of_safeFor hcalloc he'⟩

/-- **When a boot is safe.**  A boot that may write is safe for exactly the failures and the
contents of NVS that are listed in `SafeFor`. -/
theorem bootSafe_iff (k : Codec Text Cfg GwBlob WifiBlob) (allow : Bool) (f : Faults)
    (n : Nvs Text GwBlob WifiBlob) :
    BootSafe k allow f n ↔ (allow = true → f.calloc = true → SafeFor k f n) := by
  cases hcalloc : f.calloc with
  | false =>
    refine iff_of_true (bootSafe_of_unchanged ?_ ?_) (fun _ h => by cases h) <;>
      simp [settingsGetFromFlash, hcalloc]
  | true =>
    cases allow with
    | false =>
      refine iff_of_true (bootSafe_of_unchanged ?_ ?_) (fun h => by cases h) <;>
        simp [settingsGetFromFlash, hcalloc]
    | true =>
      simp only [forall_const]
      exact bootSafe_iff_safeFor hcalloc

/-! ## Boots that lose a configuration -/

open GwCfgJson GwCfgJson.Sample

/-- Three boots that are not safe: with the stored text left unread for lack of memory; with
the partition erased because it is full, and the second write failing; and without any failure,
if there is nothing in NVS but a Wi-Fi blob. -/
theorem boot_loses_configuration :
    ∃ d, gwCfgDefaultInit param = some d ∧
      (∃ n, ((settingsCodec d).jsonCfg n).isSome = true ∧
        ¬ BootSafe (settingsCodec d) true
          { Faults.none with json := ⟨true, false, true, true⟩ } n) ∧
      (∃ n, ((settingsCodec d).jsonCfg n).isSome = true ∧
        ¬ BootSafe (settingsCodec d) true { Faults.none with
          save := ⟨⟨true, false, .notEnoughSpace⟩, true, ⟨true, true, .error false⟩⟩ } n) ∧
      ¬ BootSafe (settingsCodec d) true .none ⟨none, none, some (d.wifiAp, d.wifiSta)⟩ := by
  have hsome : (gwCfgDefaultInit param).isSome = true := by decide +kernel
  obtain ⟨d, hd⟩ := Option.isSome_iff_exists.mp hsome
  -- the default configuration, once it has been saved
  have hsaved : ∀ w, ∃ c, (settingsCodec d).jsonCfg
      ⟨some ((settingsCodec d).generate (toStore d)), none, w⟩ = some c := by
    intro w
    obtain ⟨c, hc⟩ := (settingsCodec d).parse_generate (toStore d)
    refine ⟨c, ?_⟩
    rw [Codec.jsonCfg, Option.bind_some, if_neg ((settingsCodec d).generate_ne_empty _), hc]
  refine ⟨d, hd, ?_, ?_, ?_⟩
  · obtain ⟨c, hc⟩ := hsaved none
    refine ⟨_, Option.isSome_iff_exists.mpr ⟨c, hc⟩, fun hsafe => ?_⟩
    have hread := ((bootSafe_iff_safeFor rfl).mp hsafe).read
      (by rw [userCfg_of_jsonCfg hc, Option.isSome_some]) rfl
    cases hread
  · obtain ⟨c, hc⟩ := hsaved (some (d.wifiAp, d.wifiSta))
    refine ⟨_, Option.isSome_iff_exists.mpr ⟨c, hc⟩, fun hsafe => ?_⟩
    have hspace := ((bootSafe_iff_safeFor rfl).mp hsafe).space
    by_cases hstatus : (readSettings (settingsCodec d) { Faults.none with
        save := ⟨⟨true, false, .notEnoughSpace⟩, true, ⟨true, true, .error false⟩⟩ }
        ⟨some ((settingsCodec d).generate (toStore d)), none, some (d.wifiAp, d.wifiSta)⟩).status =
          .notExist
    · exact hspace _ (bootText_of_notExist hstatus) rfl
        (.inl (Option.isSome_iff_exists.mpr ⟨c, hc⟩))
    · exact hspace _ (bootText_of_used hstatus rfl (.inr rfl)) rfl
        (.inl (Option.isSome_iff_exists.mpr ⟨c, hc⟩))
  · intro hsafe
    rcases ((bootSafe_iff_safeFor rfl).mp hsafe).wifi (d.wifiAp, d.wifiSta) rfl rfl with
      ⟨hstatus, -, -⟩ | ⟨⟨c, hjson⟩, -⟩
    · exact hstatus rfl
    · cases hjson

end Settings
end RuuviGateway
