import CustomModels.Shared.Layout

/-!
# Reports

How a client ends with an asset, and the message that tells its server.
-/

namespace CustomModels.Shared

/-- The reasons that the protocol knows. -/
def AssetErrorReason.Known (reason : AssetErrorReason) : Prop :=
  1 ≤ reason.value.toNat ∧ reason.value.toNat ≤ 8

/-- An asset is Ready, or it failed for a reason. -/
structure AssetEnd where
  assetId : UInt32
  error : Option AssetErrorReason
  deriving DecidableEq

/-- The report of an end, for the manifest with the revision. -/
def AssetEnd.report (revision : UInt64) (ended : AssetEnd) : Message :=
  match ended.error with
  | none => .assetReady ⟨revision, ended.assetId⟩
  | some reason => .assetError ⟨revision, ended.assetId, reason⟩

/-- What the message reports on an asset of the manifest with the revision: a failure with its reason, or
none. -/
def Message.reportOn (revision : UInt64) (assetId : UInt32) : Message → Option (Option AssetErrorReason)
  | .assetReady ready =>
      if ready.manifestRevision = revision ∧ ready.assetId = assetId then some none else none
  | .assetError error =>
      if error.manifestRevision = revision ∧ error.assetId = assetId then some (some error.reason) else none
  | _ => none

theorem AssetEnd.report_encodable {revision : UInt64} (hr : revision ≠ 0) {ended : AssetEnd}
    (hid : ended.assetId ≠ 0) (hknown : ∀ reason ∈ ended.error, reason.Known) :
    (ended.report revision).Encodable := by
  unfold report
  split
  · exact ⟨hr, hid⟩
  · rename_i reason he
    exact ⟨hr, hid, hknown reason he⟩

theorem AssetEnd.report_eq_assetError {revision : UInt64} {ended : AssetEnd} {error : AssetError} :
    ended.report revision = .assetError error ↔
      revision = error.manifestRevision ∧ ended = ⟨error.assetId, some error.reason⟩ := by
  obtain ⟨assetId, _ | reason⟩ := ended
  · simp [AssetEnd.report]
  · obtain ⟨_, _, _⟩ := error
    simp [AssetEnd.report]

end CustomModels.Shared
