import RuuviGateway.FwUpdate.DownloadExact

/-!
# When the partition holds the whole file

`Exact` also asks that every request starts where it should.  Here only the contents of the
partition count, for a download that reports success.  The one run that tells the two apart
has received all of the file before the two counters part: whatever the later requests ask
for, nothing of the file is missing.

After an attempt the counters are in step (`Synced`), or the file is complete (`Filled`), or
a part of it has been passed over (`Behind`), and then no later attempt asks for it.
-/

namespace RuuviGateway
namespace FwUpdate

variable {file : List UInt8} {n : Nat} {a : Attempt} {rest : List Attempt} {p : PartitionInfo}

/-- The image has been fully written: its download reports success, and the partition holds
the file. -/
def FullyWritten (file : List UInt8) (attempts : List Attempt) : Prop :=
  (downloadWithRetries attempts).reportsSuccess = true ∧
    (downloadWithRetries attempts).info.partition = file

instance (file : List UInt8) (attempts : List Attempt) :
    Decidable (FullyWritten file attempts) :=
  inferInstanceAs (Decidable (_ ∧ _))

/-- An attempt that is followed by another one receives no data with a redirect, unless it
also receives everything that is missing of the file, and the last one is not cut short. -/
def WholeLoop : List UInt8 → List Attempt → Prop
  | _, [] => True
  | missing, a :: rest =>
      if a.retried then
        (a.redirectsEmpty = true ∨ bytesOf (fileData a.events) = missing) ∧
          WholeLoop (missing.drop (bytesOf (fileData a.events)).length) rest
      else a.cutShort = false

/-- The condition, on the attempts the loop can make. -/
def Whole (file : List UInt8) (attempts : List Attempt) : Prop :=
  WholeLoop file (attempts.take fwUpdateMaxRetries)

instance decidableWholeLoop : (missing : List UInt8) → (l : List Attempt) →
    Decidable (WholeLoop missing l)
  | _, [] => isTrue trivial
  | missing, a :: rest =>
      have := decidableWholeLoop (missing.drop (bytesOf (fileData a.events)).length) rest
      inferInstanceAs (Decidable (ite _ _ _))

instance (file : List UInt8) (attempts : List Attempt) : Decidable (Whole file attempts) :=
  inferInstanceAs (Decidable (WholeLoop _ _))

/-! ## One attempt of a successful run -/

/-- An error of the callback is kept. -/
theorem downloadLoop_isError (attempts : List Attempt) (n : Nat) (p : PartitionInfo)
    (hp : p.isError = true) : (downloadLoop attempts n p).info.isError = true := by
  induction attempts generalizing n p with
  | nil => exact hp
  | cons a rest ih =>
    have herr : (download a n p).2.info.isError = true := by
      rw [download_snd, foldl_isError a.events ⟨n, p⟩ hp]
      exact hp
    rw [downloadLoop]
    cases (download a n p).1 with
    | success => exact herr
    | failed => exact herr
    | retry => exact ih _ _ herr

/-- An attempt whose data is all written. -/
theorem download_append (h : ∀ r ∈ a.responses, r.Serves file n) (hwf : p.Wf)
    (hp : p.isError = false) (hw : a.writesOk = true) :
    (download a n p).2.info = p.append (bytesOf (fileData a.events)) := by
  rw [download_snd]
  exact (foldl_info a.events (carriesFile_attempt h).status ⟨n, p⟩ hwf hp).1 hw

/-- What it carries is counted, and is no more than the rest of the file. -/
theorem length_le_of_serves (h : ∀ r ∈ a.responses, r.Serves file n) :
    n + (bytesOf (fileData a.events)).length ≤ (download a n p).2.downloadedSize ∧
      (bytesOf (fileData a.events)).length ≤ file.length - n := by
  constructor
  · rw [download_snd, foldl_downloadedSize]
    exact Nat.add_le_add_left (length_fileData a.events).1 n
  · rw [← List.length_drop]
    exact (carriesFile_attempt h).isPrefix.length_le

/-- In a run that reports success every write is done, and an attempt is followed by another
one or answered. -/
theorem success_cases (h : ∀ r ∈ a.responses, r.Serves file n) (hwf : p.Wf)
    (hp : p.isError = false) (hok : (downloadLoop (a :: rest) n p).reportsSuccess = true) :
    a.writesOk = true ∧
      (a.retried = true ∧
          (downloadLoop rest (download a n p).2.downloadedSize
            (download a n p).2.info).reportsSuccess = true ∨
        a.retried = false ∧ (∃ r, a.answer = some r) ∧
          (downloadLoop (a :: rest) n p).info = (download a n p).2.info) := by
  obtain ⟨hsuccess, herr⟩ := Bool.and_eq_true_iff.mp hok
  have herror : a.writesOk = false → (download a n p).2.info.isError = true := fun hw => by
    rw [download_snd]
    exact ((foldl_info a.events (carriesFile_attempt h).status ⟨n, p⟩ hwf hp).2 hw).1
  cases hret : a.retried with
  | true =>
    rw [downloadLoop_retried hret] at hok herr
    refine ⟨?_, Or.inl ⟨rfl, hok⟩⟩
    by_contra hw
    have hstuck := downloadLoop_isError rest (download a n p).2.downloadedSize _
      (herror (Bool.eq_false_iff.mpr hw))
    rw [hstuck] at herr
    exact Bool.noConfusion herr
  | false =>
    cases hans : a.answer with
    | none =>
      rw [downloadLoop, download_failed hret hans] at hsuccess
      exact Bool.noConfusion hsuccess
    | some r =>
      have hloop : (downloadLoop (a :: rest) n p).info = (download a n p).2.info := by
        rw [downloadLoop, download_answered h hans]
      refine ⟨?_, Or.inr ⟨rfl, ⟨r, rfl⟩, hloop⟩⟩
      by_contra hw
      rw [hloop, herror (Bool.eq_false_iff.mpr hw)] at herr
      exact Bool.noConfusion herr

/-! ## After the counters have parted -/

/-- The partition holds the file, and the next request starts at its end or behind. -/
structure Filled (file : List UInt8) (n : Nat) (p : PartitionInfo) : Prop where
  wf : p.Wf
  isError : p.isError = false
  partition : p.partition = file
  length_le : file.length ≤ n

/-- A part of the file is missing from the partition, and the next request starts behind its
beginning. -/
structure Behind (file : List UInt8) (n : Nat) (p : PartitionInfo) : Prop where
  wf : p.Wf
  isError : p.isError = false
  offset_lt_length : p.offset < file.length
  offset_lt : p.offset < n

/-- An attempt behind the end of the file carries nothing. -/
theorem Filled.download (hf : Filled file n p) (h : ∀ r ∈ a.responses, r.Serves file n)
    (hw : a.writesOk = true) :
    bytesOf (fileData a.events) = [] ∧
      Filled file (download a n p).2.downloadedSize (download a n p).2.info := by
  obtain ⟨hcount, hlen⟩ := length_le_of_serves (p := p) h
  have hle := hf.length_le
  have hnil : bytesOf (fileData a.events) = [] := List.length_eq_zero_iff.mp (by omega)
  have hinfo := download_append h hf.wf hf.isError hw
  rw [hnil, PartitionInfo.append_nil hf.isError] at hinfo
  rw [hinfo]
  exact ⟨hnil, hf.wf, hf.isError, hf.partition, by omega⟩

/-- The last attempt of a successful run is not cut short if nothing is missing. -/
theorem cutShort_eq_false (h : ∀ r ∈ a.responses, r.Serves file n)
    (hall : bytesOf (fileData a.events) = file.drop n) : a.cutShort = false := by
  rw [Attempt.cutShort]
  cases hans : a.answer with
  | none => rfl
  | some r =>
    have hfin := ((carriesFile_attempt h).answered r hans).2.2.2
    exact decide_eq_false fun hend => hfin hend hall

/-- Once the file is complete it stays so, and the condition holds of the other attempts. -/
theorem Filled.whole (attempts : List Attempt) (n : Nat) (p : PartitionInfo)
    (hf : Filled file n p) (hserved : ServedLoop file attempts n p)
    (hok : (downloadLoop attempts n p).reportsSuccess = true) :
    (downloadLoop attempts n p).info.partition = file ∧ WholeLoop [] attempts := by
  induction attempts generalizing n p with
  | nil => exact ⟨hf.partition, trivial⟩
  | cons a rest ih =>
    obtain ⟨hw, hcases⟩ := success_cases hserved.head hf.wf hf.isError hok
    obtain ⟨hnil, hnext⟩ := hf.download hserved.head hw
    rw [WholeLoop]
    rcases hcases with ⟨hret, hrest⟩ | ⟨hret, -, hinfo⟩
    · obtain ⟨hpart, hwhole⟩ := ih _ _ hnext (hserved.tail hret) hrest
      rw [if_pos hret, downloadLoop_retried hret]
      exact ⟨hpart, Or.inr hnil, by rwa [List.drop_nil]⟩
    · rw [if_neg (by simp [hret]), hinfo]
      refine ⟨hnext.partition, cutShort_eq_false hserved.head ?_⟩
      rw [hnil, List.drop_of_length_le hf.length_le]

/-- What has been passed over stays missing. -/
theorem Behind.length_lt (attempts : List Attempt) (n : Nat) (p : PartitionInfo)
    (hb : Behind file n p) (hserved : ServedLoop file attempts n p)
    (hok : (downloadLoop attempts n p).reportsSuccess = true) :
    (downloadLoop attempts n p).info.partition.length < file.length := by
  induction attempts generalizing n p with
  | nil => exact absurd hok (by simp [downloadLoop, DownloadResult.reportsSuccess])
  | cons a rest ih =>
    obtain ⟨hw, hcases⟩ := success_cases hserved.head hb.wf hb.isError hok
    obtain ⟨hcount, hlen⟩ := length_le_of_serves (p := p) hserved.head
    have hinfo := download_append hserved.head hb.wf hb.isError hw
    have hlt := hb.offset_lt
    have hlength := hb.offset_lt_length
    have hoffset : (download a n p).2.info.offset =
        p.offset + (bytesOf (fileData a.events)).length := by
      rw [hinfo]
      rfl
    have hwf : (download a n p).2.info.Wf := hinfo ▸ hb.wf.append _
    rcases hcases with ⟨hret, hrest⟩ | ⟨-, -, hlast⟩
    · rw [downloadLoop_retried hret]
      refine ih _ _ ⟨hwf, by rw [hinfo]; rfl, ?_, ?_⟩ (hserved.tail hret) hrest
      · omega
      · omega
    · rw [hlast, hwf]
      omega

/-! ## All attempts -/

/-- An attempt that loses nothing, with the counters in step: they stay in step, or the file
is complete. -/
theorem download_lossless (hs : Synced file n p) (h : ∀ r ∈ a.responses, r.Serves file n)
    (hw : a.writesOk = true)
    (hloss : a.redirectsEmpty = true ∨ bytesOf (fileData a.events) = file.drop n) :
    Synced file (download a n p).2.downloadedSize (download a n p).2.info ∧
        (download a n p).2.downloadedSize = n + (bytesOf (fileData a.events)).length ∨
      bytesOf (fileData a.events) = file.drop n ∧
        Filled file (download a n p).2.downloadedSize (download a n p).2.info := by
  obtain ⟨hinfo, hsync⟩ := download_written h hs hw
  rcases hloss with hred | hall
  · have hsize : (download a n p).2.downloadedSize =
        n + (bytesOf (fileData a.events)).length := by
      rw [download_snd, foldl_downloadedSize, (length_fileData a.events).2.mpr hred]
    rw [hsize, hinfo]
    exact Or.inl ⟨hsync, rfl⟩
  · have hcount := (length_le_of_serves (p := p) h).1
    refine Or.inr ⟨hall, hinfo ▸ hsync.wf, hinfo ▸ hsync.isError,
      (partition_eq_file_iff h hs hw).mpr hall, ?_⟩
    have hlen : (bytesOf (fileData a.events)).length = file.length - n := by
      rw [hall, List.length_drop]
    omega

/-- Any other attempt passes over a part of the file. -/
theorem download_lossy (hs : Synced file n p) (h : ∀ r ∈ a.responses, r.Serves file n)
    (hw : a.writesOk = true) (hred : ¬ a.redirectsEmpty = true)
    (hall : ¬ bytesOf (fileData a.events) = file.drop n) :
    Behind file (download a n p).2.downloadedSize (download a n p).2.info := by
  obtain ⟨hinfo, hsync⟩ := download_written h hs hw
  refine ⟨hinfo ▸ hsync.wf, hinfo ▸ hsync.isError, ?_,
    download_unsynced h hs fun hboth => hred hboth.1⟩
  have hpre := (carriesFile_attempt h).isPrefix
  have hlt : (bytesOf (fileData a.events)).length < (file.drop n).length :=
    Nat.lt_of_le_of_ne hpre.length_le fun heq => hall (hpre.eq_of_length heq)
  have hoffset := hs.offset
  rw [List.length_drop] at hlt
  rw [hinfo]
  show p.offset + _ < _
  omega

/-- **The induction on the attempts** of a run that reports success, as long as the counters
agree. -/
theorem partitionLoop_iff_whole (attempts : List Attempt) (n : Nat) (p : PartitionInfo)
    (hs : Synced file n p) (hserved : ServedLoop file attempts n p)
    (hok : (downloadLoop attempts n p).reportsSuccess = true) :
    (downloadLoop attempts n p).info.partition = file ↔ WholeLoop (file.drop n) attempts := by
  induction attempts generalizing n p with
  | nil => exact absurd hok (by simp [downloadLoop, DownloadResult.reportsSuccess])
  | cons a rest ih =>
    obtain ⟨hw, ⟨hret, hrest⟩ | ⟨hret, ⟨r, hans⟩, hlast⟩⟩ :=
      success_cases hserved.head hs.wf hs.isError hok
    · have htail := hserved.tail hret
      rw [WholeLoop, if_pos hret, downloadLoop_retried hret]
      by_cases hloss : a.redirectsEmpty = true ∨ bytesOf (fileData a.events) = file.drop n
      · rw [and_iff_right hloss]
        rcases download_lossless hs hserved.head hw hloss with ⟨hsync, hsize⟩ | ⟨hall, hfilled⟩
        · have hdrop : (file.drop n).drop (bytesOf (fileData a.events)).length =
              file.drop (download a n p).2.downloadedSize := by rw [List.drop_drop, hsize]
          rw [hdrop]
          exact ih _ _ hsync htail hrest
        · rw [hall, List.drop_of_length_le (Nat.le_refl _)]
          obtain ⟨hpart, hwhole⟩ := hfilled.whole rest _ _ htail hrest
          exact iff_of_true hpart hwhole
      · obtain ⟨hred, hall⟩ := not_or.mp hloss
        have hlt := (download_lossy hs hserved.head hw hred hall).length_lt rest _ _ htail hrest
        refine iff_of_false (fun heq => ?_) fun h => hloss h.1
        rw [heq] at hlt
        exact Nat.lt_irrefl _ hlt
    · rw [WholeLoop, if_neg (by simp [hret]), hlast, partition_eq_file_iff hserved.head hs hw]
      obtain ⟨-, hnf, hcomplete, hfin⟩ := (carriesFile_attempt hserved.head).answered r hans
      refine ⟨cutShort_eq_false hserved.head, fun hcut => hcomplete ?_⟩
      rw [Attempt.cutShort, hans] at hcut
      cases hend : r.ending with
      | complete => rfl
      | closedByFin => exact absurd hend (of_decide_eq_false hcut)
      | failed => exact absurd hend hnf

/-- **When the partition holds the file** after a download that reports success, if every
request is answered by what it asks for. -/
theorem fullyWritten_iff {attempts : List Attempt} (h : Served file attempts)
    (hok : (downloadWithRetries attempts).reportsSuccess = true) :
    FullyWritten file attempts ↔ Whole file attempts :=
  (and_iff_right hok).trans (partitionLoop_iff_whole _ 0 _ synced_start h hok)

end FwUpdate
end RuuviGateway
