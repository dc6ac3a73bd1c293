import CustomModels.Client.Accounts
import CustomModels.Client.Lemmas.Streams

/-!
# The metadata bytes of a manifest

Every state of a receiver that its calls reach has accepted messages of the length that it has counted.
-/

namespace CustomModels.Client
open CustomModels.Shared CustomModels.Lib

/-! ## Payload lengths -/

theorem payloadLength_of_encodable {message : Message} (h : message.Encodable) :
    payloadLength message = message.payload.length := by
  rw [payloadLength, encodePacket_of_encodable h]
  simp

theorem encodePacket_length {message : Message} (h : message.Encodable) :
    ∃ bytes, encodePacket message kProtocolVersion = .ok bytes ∧
      bytes.length = kHeaderSize + payloadLength message := by
  refine ⟨message.packet, encodePacket_of_encodable h, ?_⟩
  rw [payloadLength_of_encodable h]
  exact message.packet_length

/-- The sum that `SerializedAssetBytes` takes by hand is the length of what is written. -/
theorem payloadLength_manifestAsset {item : ManifestAsset} (h : (Message.manifestAsset item).Encodable) :
    payloadLength (.manifestAsset item) = serializedAssetBytes item.asset := by
  rw [payloadLength_of_encodable h, serializedAssetBytes_of_valid h.2.2]
  simp only [Message.payload, List.length_append, be32_length, be64_length, AssetDescription.layout_length]
  omega

theorem payloadLength_boundary {revision total : UInt64} {count : UInt32} (h : ManifestBoundary revision count total) :
    payloadLength (.manifestBegin ⟨revision, count, total⟩) = 20 ∧
      payloadLength (.manifestEnd ⟨revision, count, total⟩) = 20 := by
  have hlength : (boundaryLayout revision count total).length = 20 := by simp [boundaryLayout]
  constructor
  · exact (@payloadLength_of_encodable (.manifestBegin ⟨revision, count, total⟩) h).trans hlength
  · exact (@payloadLength_of_encodable (.manifestEnd ⟨revision, count, total⟩) h).trans hlength

theorem sum_payloadLength_entryMessages {revision : UInt64} (hr : revision ≠ 0) {assets : List AssetDescription}
    (hv : ∀ asset ∈ assets, isAssetDescriptionValid asset = true) {index : Nat} (hi : index + assets.length ≤ 256) :
    ((Manifest.entryMessages revision index assets).map payloadLength).sum =
      (assets.map serializedAssetBytes).sum := by
  induction assets generalizing index with
  | nil => rfl
  | cons asset assets ih =>
      have hencodable := Manifest.entryMessages_encodable hr hv hi _ List.mem_cons_self
      rw [List.length_cons] at hi
      have hrest := ih (fun a ha => hv a (List.mem_cons_of_mem _ ha)) (by omega : index + 1 + assets.length ≤ 256)
      rw [Manifest.entryMessages, List.map_cons, List.sum_cons, List.map_cons, List.sum_cons, hrest,
        payloadLength_manifestAsset hencodable]

theorem sum_payloadLength_begin {revision total : UInt64} {count : UInt32} {assets : List AssetDescription}
    (hb : ManifestBoundary revision count total) (he : EntriesValid assets) (hl : assets.length ≤ count.toNat) :
    ((Message.manifestBegin ⟨revision, count, total⟩ :: Manifest.entryMessages revision 0 assets).map
      payloadLength).sum = metadataBytes assets := by
  have hcount := hb.2.1
  rw [List.map_cons, List.sum_cons, (payloadLength_boundary hb).1,
    sum_payloadLength_entryMessages hb.1 he.valid (by omega)]
  rfl

namespace ManifestReceiver

variable {receiver : ManifestReceiver} {message : Message} {account : Account}

/-! ## Refusals -/

/-- A message that is refused leaves the counter as it is, unless that is what refuses the end message. -/
theorem manifestBytes_of_refused (hr : (receiver.handle message).1.Refused)
    (hend : receiver.state = .receiving → ¬ UInt32.ofNat kMaximumManifestBytes < receiver.manifestBytes + 20) :
    (receiver.handle message).2.manifestBytes = receiver.manifestBytes := by
  cases message with
  | manifestBegin value =>
      simp only [handle, handleBegin] at hr ⊢
      split_ifs at hr ⊢
      · rfl
      · rfl
      · exact absurd hr not_refused_accepted
  | manifestAsset item =>
      simp only [handle, handleAsset] at hr ⊢
      split_ifs at hr ⊢
      · rfl
      · rfl
      · rfl
      · rfl
      · exact absurd hr not_refused_accepted
  | manifestEnd value =>
      simp only [handle, handleEnd] at hr ⊢
      split
      · rfl
      · rename_i horder
        rw [if_neg horder] at hr
        cases hsum : sumFileSizes 0 receiver.manifest.assets with
        | none => rfl
        | some total =>
            simp only [hsum] at hr ⊢
            split_ifs at hr ⊢ with htotal hlimit
            · rfl
            · rw [not_or, not_not] at horder
              exact absurd hlimit (hend horder.1)
            · exact absurd hr not_refused_complete
  | _ => rfl

/-! ## The invariant -/

/-- The counter is the sum of the payload bytes of messages that can be encoded, and within its limit. -/
structure Account.Balanced (account : Account) : Prop where
  messages : ∀ message ∈ account.accepted, isManifestMessage message = true ∧ message.Encodable
  bytes : account.receiver.manifestBytes.toNat = (account.accepted.map payloadLength).sum
  limit : account.receiver.manifestBytes.toNat ≤ kMaximumManifestBytes

/-- How the accepted messages led to the state of the receiver. -/
inductive Accounted : Account → Prop where
  | idle : Accounted ⟨fresh, []⟩
  | receiving (revision : UInt64) (count : UInt32) (total : UInt64) (assets : List AssetDescription)
      (boundary : ManifestBoundary revision count total) (entries : EntriesValid assets)
      (length : assets.length ≤ count.toNat) :
      Accounted ⟨receiving revision count total assets,
        .manifestBegin ⟨revision, count, total⟩ :: Manifest.entryMessages revision 0 assets⟩
  | ended (account : Account) (state : account.receiver.state = .complete ∨ account.receiver.state = .failed)
      (balanced : account.Balanced) : Accounted account

theorem Accounted.balanced (h : Accounted account) : account.Balanced := by
  cases h with
  | idle => exact ⟨nofun, rfl, Nat.zero_le _⟩
  | receiving revision count total assets hb he hl =>
      have hcount := hb.2.1
      obtain ⟨hexact, hsmall⟩ := manifestBytes_receiving he (by omega)
      refine ⟨?_, ?_, ?_⟩
      · intro message hm
        rcases List.mem_cons.mp hm with rfl | hm
        · exact ⟨rfl, hb⟩
        · exact ⟨Manifest.entryMessages_isManifestMessage revision 0 assets message hm,
            Manifest.entryMessages_encodable hb.1 he.valid (by omega) message hm⟩
      · rw [sum_payloadLength_begin hb he hl]
        exact hexact
      · show (UInt32.ofNat (metadataBytes assets)).toNat ≤ kMaximumManifestBytes
        rw [hexact, kMaximumManifestBytes]
        omega
  | ended account hstate hbalanced => exact hbalanced

/-- A receiver in the middle of a stream is behind its begin message and some entries. -/
theorem Accounted.of_receiving (h : Accounted account) (hs : account.receiver.state = .receiving) :
    ∃ revision count total assets, account.receiver = .receiving revision count total assets ∧
      ManifestBoundary revision count total ∧ EntriesValid assets ∧ assets.length ≤ count.toNat := by
  cases h with
  | idle => cases hs
  | receiving revision count total assets hb he hl => exact ⟨revision, count, total, assets, rfl, hb, he, hl⟩
  | ended account hstate hbalanced =>
      rw [hs] at hstate
      rcases hstate with hstate | hstate
      all_goals cases hstate

/-- The limit on metadata does not refuse an end message. -/
theorem Accounted.fits_end (h : Accounted account) (hs : account.receiver.state = .receiving) :
    ¬ UInt32.ofNat kMaximumManifestBytes < account.receiver.manifestBytes + 20 := by
  obtain ⟨revision, count, total, assets, heq, hb, he, hl⟩ := h.of_receiving hs
  have hcount := hb.2.1
  rw [heq]
  exact (metadata_fits_end he (by omega)).2

/-- A valid entry that comes in order and has a new id and a new name is accepted. -/
theorem Accounted.accepts_entry (h : Accounted account) {item : ManifestAsset}
    (hs : account.receiver.state = .receiving) (hr : item.manifestRevision = account.receiver.manifest.revision)
    (hi : item.assetIndex.toNat = account.receiver.manifest.assets.length)
    (hl : account.receiver.manifest.assets.length < account.receiver.expectedCount.toNat)
    (hv : isAssetDescriptionValid item.asset = true)
    (hid : item.asset.assetId ∉ account.receiver.manifest.assets.map AssetDescription.assetId)
    (hname : item.asset.logicalName ∉ account.receiver.manifest.assets.map AssetDescription.logicalName) :
    (account.receiver.handle (.manifestAsset item)).1 = .accepted := by
  obtain ⟨revision, count, total, assets, heq, hb, he, -⟩ := h.of_receiving hs
  rw [heq] at hr hi hl hid hname ⊢
  have hcontinues : Continues revision count assets item :=
    ⟨hr, hi, hl, (entriesValid_append_singleton he).mpr ⟨hv, hid, hname⟩⟩
  rw [handle, handleAsset_receiving hcontinues hb.2.1]

/-- An end message that comes in order is refused only where the sizes of the entries are not what was announced. -/
theorem Accounted.ends (h : Accounted account) {value : ManifestEnd} (hs : account.receiver.state = .receiving)
    (hr : value.manifestRevision = account.receiver.manifest.revision)
    (hc : value.assetCount = account.receiver.expectedCount)
    (hl : value.assetCount.toNat = account.receiver.manifest.assets.length)
    (ht : value.totalDownloadSize = account.receiver.manifest.totalDownloadSize) :
    (account.receiver.handle (.manifestEnd value)).1 =
      if sizeSum account.receiver.manifest.assets = account.receiver.manifest.totalDownloadSize.toNat then .complete
      else .invalidManifest := by
  obtain ⟨revision, count, total, assets, heq, hb, he, -⟩ := h.of_receiving hs
  obtain ⟨_, _, announced⟩ := value
  rw [heq] at hr hc hl ht ⊢
  simp only [ManifestReceiver.receiving] at hr hc hl ht
  subst hr hc ht
  by_cases hsum : sizeSum assets = announced.toNat
  · obtain ⟨final, hfinal, -⟩ := handleEnd_receiving ⟨rfl, hl, hsum⟩ he hb.2.1 hb.2.2.1
    rw [handle, hfinal]
    exact (if_pos hsum).symm
  · exact (handleEnd_receiving_wrong hl hsum).trans (if_neg hsum).symm

/-! ## Calls -/

theorem call_handle (message : Message) {accepted : List Message} {result : ManifestInputResult}
    {next : ManifestReceiver} (h : receiver.handle message = (result, next)) :
    Account.call ⟨receiver, accepted⟩ (.handle message) = ⟨next, noteAnswer accepted message result⟩ := by
  simp only [Account.call, h]

theorem noteAnswer_of_refused {result : ManifestInputResult} (h : result.Refused) (accepted : List Message)
    (message : Message) : noteAnswer accepted message result = accepted := by
  rcases h with h | h
  all_goals
    rw [h]
    rfl

/-- The end message is counted like the begin message. -/
theorem Account.Balanced.closed {revision total : UInt64} {count : UInt32} {assets : List AssetDescription}
    {value : ManifestEnd} {final : ManifestReceiver} {accepted : List Message}
    (h : Account.Balanced ⟨receiving revision count total assets, accepted⟩)
    (hb : ManifestBoundary revision count total) (he : EntriesValid assets) (hl : assets.length ≤ count.toNat)
    (hc : Closes revision count total assets value)
    (hf : final.manifestBytes = UInt32.ofNat (metadataBytes assets) + 20) :
    Account.Balanced ⟨final, accepted ++ [.manifestEnd value]⟩ := by
  have hcount := hb.2.1
  obtain ⟨hexact, hsmall⟩ := manifestBytes_receiving he (by omega)
  obtain ⟨hadd, -⟩ := metadata_fits_end he (by omega)
  have hbytes : metadataBytes assets = (accepted.map payloadLength).sum := hexact ▸ h.bytes
  obtain ⟨rfl, -, -⟩ := hc
  refine ⟨?_, ?_, ?_⟩
  · intro message hm
    rcases List.mem_append.mp hm with hm | hm
    · exact h.messages message hm
    · rw [List.mem_singleton.mp hm]
      exact ⟨rfl, hb⟩
  · simp only [List.map_append, List.sum_append, List.map_singleton, List.sum_singleton,
      (payloadLength_boundary hb).2, ← hbytes, hf, hadd]
  · simp only [hf, hadd, kMaximumManifestBytes]
    omega

/-- A refused message changes neither the counter nor what it counts. -/
theorem Accounted.refused (h : Accounted account) (hf : Fails (account.receiver.handle message)) :
    Accounted (account.call (.handle message)) := by
  have hbytes := manifestBytes_of_refused hf.1 h.fits_end
  have hsame : account.call (.handle message) = ⟨(account.receiver.handle message).2, account.accepted⟩ := by
    simp only [Account.call, noteAnswer_of_refused hf.1]
  rw [hsame]
  refine .ended _ (.inr hf.2) ⟨h.balanced.messages, ?_, ?_⟩
  · rw [hbytes]
    exact h.balanced.bytes
  · rw [hbytes]
    exact h.balanced.limit

theorem Accounted.handle (h : Accounted account) (message : Message) :
    Accounted (account.call (.handle message)) := by
  cases hm : isManifestMessage message with
  | false =>
      rw [call_handle message (handle_other hm)]
      exact h
  | true =>
      cases h with
      | idle =>
          cases message with
          | manifestBegin value =>
              by_cases hb : ManifestBoundary value.manifestRevision value.assetCount value.totalDownloadSize
              · rw [call_handle (.manifestBegin value) (handleBegin_fresh hb)]
                exact .receiving _ _ _ [] hb entriesValid_nil (Nat.zero_le _)
              · exact Accounted.idle.refused (handleBegin_fresh_fails hb)
          | manifestAsset value => exact Accounted.idle.refused ⟨.inl rfl, rfl⟩
          | manifestEnd value => exact Accounted.idle.refused ⟨.inl rfl, rfl⟩
          | _ => cases hm
      | receiving revision count total assets hb he hl =>
          have haccounted := Accounted.receiving revision count total assets hb he hl
          cases message with
          | manifestBegin value => exact haccounted.refused ⟨.inl rfl, rfl⟩
          | manifestAsset item =>
              by_cases hc : Continues revision count assets item
              · rw [call_handle (.manifestAsset item) (handleAsset_receiving hc hb.2.1)]
                simp only [noteAnswer, hc.stream_append count total]
                exact .receiving _ _ _ _ hb hc.2.2.2 (by rw [List.length_append]; exact hc.2.2.1)
              · exact haccounted.refused (handleAsset_receiving_fails hc he)
          | manifestEnd value =>
              by_cases hc : Closes revision count total assets value
              · obtain ⟨final, hfinal, hstate, -, hbytes⟩ := handleEnd_receiving hc he hb.2.1 hb.2.2.1
                rw [call_handle (.manifestEnd value) hfinal]
                exact .ended _ (.inl hstate) (haccounted.balanced.closed hb he hl hc hbytes)
              · exact haccounted.refused (handleEnd_receiving_fails hc)
          | _ => cases hm
      | ended account hstate hbalanced =>
          exact (Accounted.ended account hstate hbalanced).refused (handle_fails_of_over hstate hm)

theorem Accounted.call (h : Accounted account) (call : Call) : Accounted (account.call call) := by
  cases call with
  | handle message => exact h.handle message
  | reset => exact .idle

end ManifestReceiver

end CustomModels.Client
