import CustomModels.Client.Fetch

/-!
# The download loop

Every turn of the loop that another one follows has received some bytes, and no more than are left of the expected
size. This bounds the turns as well as the bytes. A turn goes on exactly if its answers bring data, so that the answers
alone tell whether the loop comes to the end of the data.
-/

namespace CustomModels.Client
open CustomModels.Shared

namespace WinHttpFetchBackend

variable {download : Download} {available : UInt32} {answers : Answers} {transfer : Transfer} {index fuel : Nat}

theorem mapWinHttpError_ne_none (error : UInt32) : mapWinHttpError error ≠ .none := by
  unfold mapWinHttpError
  split <;> nofun

/-! ## States between turns -/

namespace Download

theorem bytesBefore_succ (download : Download) (index : Nat) :
    download.bytesBefore (index + 1) =
      download.bytesBefore index ++ (download.turns index).data.toOption.getD [] := by
  unfold bytesBefore
  rw [List.range_succ, List.flatMap_append, List.flatMap_singleton]

/-- The turns before this one have brought what is received and in the file, each at least one byte. -/
structure Going (download : Download) (index : Nat) (transfer : Transfer) : Prop where
  carried : ∀ earlier < index, download.Carries earlier
  destination : transfer.destination = download.bytesBefore index
  received : transfer.received.toNat = (download.bytesBefore index).length
  fits : transfer.received.toNat ≤ download.expectedSize.toNat
  progress : index ≤ transfer.received.toNat

theorem start_going (download : Download) : download.Going 0 .start :=
  ⟨nofun, rfl, rfl, Nat.zero_le _, Nat.le_refl _⟩

theorem Going.note (h : download.Going index transfer) (call : FetchCall) : download.Going index (transfer.note call) :=
  ⟨h.carried, h.destination, h.received, h.fits, h.progress⟩

theorem Going.length_le (h : download.Going index transfer) :
    transfer.destination.length ≤ download.expectedSize.toNat := by
  rw [h.destination, ← h.received]
  exact h.fits

/-- The subtraction does not underflow. -/
theorem Going.toNat_left (h : download.Going index transfer) :
    (download.expectedSize - transfer.received).toNat =
      download.expectedSize.toNat - (download.bytesBefore index).length := by
  rw [UInt64.toNat_sub_of_le _ _ (UInt64.le_iff_toNat_le.mpr h.fits), h.received]

/-- The turn does not find the end of the data in time, nor does it bring any. -/
def Stuck (download : Download) (index : Nat) : Prop :=
  ¬ download.Carries index ∧ ¬ (download.InTime index ∧ (download.turns index).available = .ok 0)

/-- What a turn may end with that was begun with this state. -/
def Follows (download : Download) (index : Nat) : Turned → Prop
  | .again next => download.Going (index + 1) next
  | .ended last => download.Going index last ∧ download.InTime index ∧ (download.turns index).available = .ok 0
  | .returned error last =>
      error ≠ .none ∧ last.destination.length ≤ download.expectedSize.toNat ∧ download.Stuck index

/-! ## One turn -/

theorem inTime_iff (download : Download) (index : Nat) :
    download.InTime index ↔
      ¬ download.transferTimeoutMilliseconds.toUInt64 < (download.turns index).tick - download.started := by
  rw [UInt64.lt_iff_toNat_lt, UInt32.toNat_toUInt64, Nat.not_lt]
  rfl

/-- The end of the data brings none. -/
theorem Carries.available_ne (h : download.Carries index) : (download.turns index).available ≠ .ok 0 := by
  obtain ⟨-, count, -, havailable, hcount, -⟩ := h
  rw [havailable]
  exact fun hzero => hcount (Except.ok.inj hzero)

/-- A turn whose answers are not these is stuck, if data is announced. -/
theorem stuck_of_announced (havailable : (download.turns index).available = .ok available) (hnonzero : available ≠ 0)
    (hn : ∀ bytes, available.toNat ≤ download.expectedSize.toNat - (download.bytesBefore index).length →
      (download.turns index).data = .ok bytes → bytes ≠ [] → (download.turns index).write ≠ none) :
    download.Stuck index := by
  constructor
  · rintro ⟨-, count, bytes, hcount, -, hfits, hdata, hne, hwrite⟩
    cases hcount.symm.trans havailable
    exact hn bytes hfits hdata hne hwrite
  · rintro ⟨-, hzero⟩
    exact hnonzero (Except.ok.inj (havailable.symm.trans hzero))

theorem toNat_bytesRead {bytes : List UInt8} (h : bytes.length ≤ (requestSize available).toNat) :
    (UInt32.ofNat bytes.length).toNat = bytes.length :=
  UInt32.toNat_ofNat_of_lt (lt_of_le_of_lt h (requestSize available).toNat_lt)

theorem Going.carry (h : download.Going index transfer) (hcarries : download.Carries index) {bytes : List UInt8}
    (hdata : (download.turns index).data = .ok bytes) {count : UInt32} (hcount : count.toNat = bytes.length)
    (hne : bytes ≠ [])
    (hfits : bytes.length ≤ download.expectedSize.toNat - (download.bytesBefore index).length) :
    download.Going (index + 1)
      { transfer with
        destination := transfer.destination ++ bytes
        received := transfer.received + count.toUInt64 } := by
  have hreceived := h.received
  have hbefore := h.fits
  have hprogress := h.progress
  have hpositive := List.length_pos_of_ne_nil hne
  have hsum : (transfer.received + count.toUInt64).toNat = transfer.received.toNat + bytes.length := by
    have hsize := download.expectedSize.toNat_lt
    rw [UInt64.toNat_add, UInt32.toNat_toUInt64, hcount]
    exact Nat.mod_eq_of_lt (by omega)
  have hbytes : download.bytesBefore (index + 1) = download.bytesBefore index ++ bytes := by
    rw [bytesBefore_succ, hdata]
    rfl
  refine ⟨fun earlier he => ?_, ?_, ?_, ?_, ?_⟩
  · rcases Nat.lt_succ_iff_lt_or_eq.mp he with he | rfl
    · exact h.carried earlier he
    · exact hcarries
  · rw [hbytes, ← h.destination]
  · rw [hbytes, List.length_append, ← hreceived]
    exact hsum
  · exact hsum.trans_le (by omega)
  · exact le_of_le_of_eq (by omega) hsum.symm

theorem Going.readTurn_follows (h : download.Going index transfer) (hinTime : download.InTime index)
    (havailable : (download.turns index).available = .ok available) (hnonzero : available ≠ 0)
    (hfits : available.toNat ≤ download.expectedSize.toNat - (download.bytesBefore index).length) :
    download.Follows index (readTurn download.expectedSize (download.turns index) available transfer) := by
  unfold readTurn
  cases hdata : (download.turns index).data with
  | error error =>
      refine ⟨mapWinHttpError_ne_none error, h.length_le, ?_⟩
      refine stuck_of_announced havailable hnonzero fun bytes _ hbytes => ?_
      cases hdata.symm.trans hbytes
  | ok bytes =>
      have hread := h.note (.readData (requestSize available) (some bytes.length))
      have hbound := (download.turns index).atMost available bytes havailable hdata
      have hbytes := toNat_bytesRead hbound
      have hrequest : (requestSize available).toNat ≤ available.toNat := by
        unfold requestSize
        split
        · exact Nat.le_refl _
        · rename_i hlarge
          exact UInt32.le_iff_toNat_le.mp (UInt32.le_of_lt (UInt32.not_le.mp hlarge))
      simp only
      split
      · rename_i hrefused
        refine ⟨nofun, h.length_le, stuck_of_announced havailable hnonzero fun other _ hother hne => ?_⟩
        cases hdata.symm.trans hother
        rw [UInt64.lt_iff_toNat_lt, UInt32.toNat_toUInt64, hread.toNat_left, hbytes] at hrefused
        rcases hrefused with hzero | hlarge
        · have hlength : bytes.length = 0 := hbytes.symm.trans (congrArg UInt32.toNat hzero)
          exact absurd (List.length_eq_zero_iff.mp hlength) hne
        · omega
      · rename_i haccepted
        have hne : bytes ≠ [] := by
          rintro rfl
          exact haccepted (.inl rfl)
        cases hwrite : (download.turns index).write with
        | some count =>
            refine ⟨nofun, ?_, stuck_of_announced havailable hnonzero fun _ _ _ _ => by simp [hwrite]⟩
            have htaken : (bytes.take count).length ≤ bytes.length := List.length_take_le' count bytes
            have hlength := h.received
            show (transfer.destination ++ bytes.take count).length ≤ download.expectedSize.toNat
            rw [List.length_append, h.destination]
            have hbefore := h.fits
            omega
        | none =>
            exact (hread.note (.write true)).carry
              ⟨hinTime, available, bytes, havailable, hnonzero, hfits, hdata, hne, hwrite⟩ hdata hbytes hne (by omega)

theorem Going.turn_follows (h : download.Going index transfer) :
    download.Follows index (turn download.expectedSize download.transferTimeoutMilliseconds download.started
      (download.turns index) transfer) := by
  have htick := h.note (.getTickCount (download.turns index).tick)
  unfold turn
  simp only
  split
  · rename_i hexpired
    have hlate : ¬ download.InTime index := fun hin => (inTime_iff download index).mp hin hexpired
    exact ⟨nofun, h.length_le, fun hc => hlate hc.inTime, fun he => hlate he.1⟩
  · rename_i hexpired
    have hinTime := (inTime_iff download index).mpr hexpired
    cases havailable : (download.turns index).available with
    | error error =>
        refine ⟨mapWinHttpError_ne_none error, h.length_le, ?_, ?_⟩
        · rintro ⟨-, count, -, hcount, -⟩
          cases havailable.symm.trans hcount
        · rintro ⟨-, hzero⟩
          cases havailable.symm.trans hzero
    | ok available =>
        have hquery := htick.note (.queryDataAvailable (some available))
        simp only
        split
        · rename_i hzero
          exact ⟨hquery, hinTime, by rw [havailable, hzero]⟩
        · rename_i hnonzero
          split
          · rename_i hlarge
            refine ⟨nofun, h.length_le, stuck_of_announced havailable hnonzero fun _ hfits => ?_⟩
            rw [UInt64.lt_iff_toNat_lt, UInt32.toNat_toUInt64, hquery.toNat_left] at hlarge
            omega
          · rename_i hfits
            rw [UInt64.lt_iff_toNat_lt, UInt32.toNat_toUInt64, hquery.toNat_left, Nat.not_lt] at hfits
            exact hquery.readTurn_follows hinTime havailable hnonzero hfits

/-! ## What is returned -/

/-- What the loop returns and leaves in the file: at most the expected bytes are written, and success is told exactly
if every answer was as it should be. -/
structure Outcome (download : Download) (result : FetchResult) (destination : List UInt8) : Prop where
  fits : destination.length ≤ download.expectedSize.toNat
  success : result.error = .none ↔ ∃ count, download.Complete count
  whole : ∀ count, download.Complete count →
    result.bytesReceived = download.expectedSize ∧ destination = download.bytesBefore count

/-- A turn that is stuck, with nothing wrong in the turns before it, does not become complete. -/
theorem Stuck.not_complete (h : download.Stuck index) (hcarried : ∀ earlier < index, download.Carries earlier)
    (count : Nat) : ¬ download.Complete count := by
  intro hc
  rcases Nat.lt_trichotomy count index with hlt | rfl | hlt
  · exact (hcarried count hlt).available_ne hc.ended
  · exact h.2 ⟨hc.inTime, hc.ended⟩
  · exact h.1 (hc.carries index hlt)

theorem Complete.eq {count : Nat} (hc : download.Complete count)
    (hcarried : ∀ earlier < index, download.Carries earlier) (hended : (download.turns index).available = .ok 0) :
    count = index := by
  rcases Nat.lt_trichotomy count index with hlt | rfl | hlt
  · exact absurd hc.ended (hcarried count hlt).available_ne
  · rfl
  · exact absurd hended (hc.carries index hlt).available_ne

theorem finish_error (expectedSize : UInt64) (closed : Bool) (transfer : Transfer) :
    (finish expectedSize closed transfer).1.error = .none ↔ closed = true ∧ transfer.received = expectedSize := by
  cases closed with
  | false => exact iff_of_false nofun nofun
  | true =>
      show (if transfer.received = expectedSize then FetchError.none else .sizeMismatch) = .none ↔ _
      split
      · exact iff_of_true rfl ⟨rfl, ‹_›⟩
      · exact iff_of_false nofun fun hs => absurd hs.2 ‹_›

theorem Going.finish_outcome (h : download.Going index transfer) (hinTime : download.InTime index)
    (hended : (download.turns index).available = .ok 0) :
    Outcome download (finish download.expectedSize download.closed transfer).1
      (finish download.expectedSize download.closed transfer).2.destination := by
  refine ⟨h.length_le, ?_, fun count hc => ?_⟩
  · rw [finish_error]
    constructor
    · rintro ⟨hclosed, hsize⟩
      exact ⟨index, h.carried, hinTime, hended, by rw [← h.received, hsize], hclosed⟩
    · rintro ⟨count, hc⟩
      obtain rfl := hc.eq h.carried hended
      exact ⟨hc.closed, UInt64.toNat_inj.mp (h.received.trans hc.size)⟩
  · obtain rfl := hc.eq h.carried hended
    exact ⟨UInt64.toNat_inj.mp (h.received.trans hc.size), h.destination⟩

/-! ## All turns -/

theorem before_going (h : download.before index = some transfer) : download.Going index transfer := by
  induction index generalizing transfer with
  | zero =>
      cases h
      exact download.start_going
  | succ index ih =>
      obtain ⟨previous, hprevious, hturn⟩ := Option.bind_eq_some_iff.mp h
      have hfollows := (ih hprevious).turn_follows
      split at hturn
      · rename_i next hnext
        cases hturn
        rw [hnext] at hfollows
        exact hfollows
      · cases hturn

theorem run_succ (download : Download) (fuel index : Nat) (transfer : Transfer) :
    download.run (fuel + 1) index transfer =
      match turn download.expectedSize download.transferTimeoutMilliseconds download.started
          (download.turns index) transfer with
      | .again transfer => run download fuel (index + 1) transfer
      | .ended transfer => some (finish download.expectedSize download.closed transfer)
      | .returned error transfer => some (⟨error, transfer.received⟩, transfer) := rfl

/-- More turns than there are bytes are never made: with that much fuel the loop ends, and more changes nothing. -/
theorem Going.run_ends (h : download.Going index transfer) (hf : download.expectedSize.toNat < fuel + index) :
    ∃ result final, Outcome download result final.destination ∧
      ∀ more, download.run (fuel + more) index transfer = some (result, final) := by
  induction fuel generalizing index transfer with
  | zero =>
      have hprogress := h.progress
      have hfits := h.fits
      omega
  | succ fuel ih =>
      have hfollows := h.turn_follows
      have hsucc : ∀ more, fuel + 1 + more = fuel + more + 1 := fun more => by omega
      simp only [hsucc, run_succ]
      generalize turn download.expectedSize download.transferTimeoutMilliseconds download.started
        (download.turns index) transfer = turned at hfollows ⊢
      cases turned with
      | again next => exact ih hfollows (by omega)
      | ended last =>
          obtain ⟨hlast, hinTime, hended⟩ := hfollows
          exact ⟨_, _, hlast.finish_outcome hinTime hended, fun _ => rfl⟩
      | returned error last =>
          obtain ⟨herror, hfits, hstuck⟩ := hfollows
          have hnone := hstuck.not_complete h.carried
          refine ⟨_, _, ⟨hfits, iff_of_false herror ?_, fun count hc => absurd hc (hnone count)⟩, fun _ => rfl⟩
          rintro ⟨count, hc⟩
          exact hnone count hc

/-- As many turns as there are bytes, and one more, are enough. -/
theorem run_outcome (download : Download) :
    ∃ result final, Outcome download result final.destination ∧
      ∀ fuel, download.expectedSize.toNat < fuel → download.run fuel 0 .start = some (result, final) := by
  obtain ⟨result, final, houtcome, hrun⟩ := download.start_going.run_ends (Nat.lt_succ_self _)
  refine ⟨result, final, houtcome, fun fuel hfuel => ?_⟩
  obtain ⟨more, rfl⟩ := Nat.exists_eq_add_of_le (Nat.succ_le_of_lt hfuel)
  exact hrun more

end Download

end WinHttpFetchBackend

end CustomModels.Client
