import CustomModels.Shared.Lemmas.Manifests
import CustomModels.Client.Lemmas.Receiver

/-!
# The receiver along a sequence of messages

Where the receiver stands says which manifest messages it has seen, and it takes the stream of every well
formed manifest to its end.
-/

namespace CustomModels.Client
open CustomModels.Shared

namespace ManifestReceiver

variable {receiver : ManifestReceiver} {message : Message} {messages : List Message}

/-! ## Other messages do not count -/

theorem handle_other (h : isManifestMessage message = false) :
    receiver.handle message = (.ignored, receiver) := by
  cases message with
  | manifestBegin value => cases h
  | manifestAsset value => cases h
  | manifestEnd value => cases h
  | _ => rfl

theorem afterMessages_append (receiver : ManifestReceiver) (xs ys : List Message) :
    receiver.afterMessages (xs ++ ys) = (receiver.afterMessages xs).afterMessages ys := List.foldl_append

theorem afterMessages_filter (receiver : ManifestReceiver) (messages : List Message) :
    receiver.afterMessages messages = receiver.afterMessages (messages.filter isManifestMessage) := by
  induction messages generalizing receiver with
  | nil => rfl
  | cons message messages ih =>
      cases h : isManifestMessage message with
      | false =>
          rw [List.filter_cons_of_neg (by simp [h]), ← ih]
          simp only [afterMessages, List.foldl_cons, handle_other h]
      | true =>
          rw [List.filter_cons_of_pos h]
          exact ih _

/-! ## What the state says about the messages -/

/-- How the manifest messages so far led to the state of the receiver. -/
inductive Tracks : List Message → ManifestReceiver → Prop where
  | idle : Tracks [] fresh
  | receiving (revision : UInt64) (count : UInt32) (total : UInt64) (assets : List AssetDescription)
      (boundary : ManifestBoundary revision count total) (entries : EntriesValid assets)
      (length : assets.length ≤ count.toNat) :
      Tracks (.manifestBegin ⟨revision, count, total⟩ :: Manifest.entryMessages revision 0 assets)
        (receiving revision count total assets)
  | complete (manifest : Manifest) (receiver : ManifestReceiver) (wellFormed : manifest.WellFormed)
      (state : receiver.state = .complete) (completed : receiver.completed = some manifest) :
      Tracks manifest.stream receiver
  | failed (messages : List Message) (receiver : ManifestReceiver) (state : receiver.state = .failed) :
      Tracks messages receiver

/-- What the answer to one more manifest message says. -/
structure Answered (messages : List Message) (message : Message)
    (handled : ManifestInputResult × ManifestReceiver) : Prop where
  tracks : Tracks (messages ++ [message]) handled.2
  complete : handled.1 = .complete → ∃ manifest : Manifest, manifest.WellFormed ∧
    messages ++ [message] = manifest.stream ∧ handled.2.completed = some manifest
  refused : handled.1.Refused → handled.2.state = .failed

theorem Fails.answered {handled : ManifestInputResult × ManifestReceiver} (h : Fails handled)
    (messages : List Message) (message : Message) : Answered messages message handled := by
  refine ⟨.failed _ _ h.2, fun hc => ?_, fun _ => h.2⟩
  rcases h.1 with hr | hr <;> rw [hr] at hc <;> cases hc

theorem not_refused_accepted : ¬ ManifestInputResult.accepted.Refused := by
  rintro (h | h) <;> cases h

theorem not_refused_complete : ¬ ManifestInputResult.complete.Refused := by
  rintro (h | h) <;> cases h

theorem Answered.accepted {next : ManifestReceiver} (h : Tracks (messages ++ [message]) next) :
    Answered messages message (.accepted, next) where
  tracks := h
  complete := nofun
  refused := fun hr => absurd hr not_refused_accepted

/-- The next entry lengthens the stream by one message. -/
theorem Continues.stream_append {revision : UInt64} {limit : UInt32} {assets : List AssetDescription}
    {item : ManifestAsset} (h : Continues revision limit assets item) (count : UInt32) (total : UInt64) :
    .manifestBegin ⟨revision, count, total⟩ :: Manifest.entryMessages revision 0 assets ++ [.manifestAsset item] =
      .manifestBegin ⟨revision, count, total⟩ :: Manifest.entryMessages revision 0 (assets ++ [item.asset]) := by
  have hitem : item = ⟨revision, UInt32.ofNat assets.length, item.asset⟩ := by
    rw [← h.1, ← h.2.1, UInt32.ofNat_toNat]
  rw [Manifest.entryMessages_append, Nat.zero_add, List.cons_append]
  conv_lhs => rw [hitem]
  rfl

/-- The begin message, the entries and an end message that closes them are the stream of a manifest. -/
theorem stream_of_closes {revision total : UInt64} {count : UInt32} {assets : List AssetDescription}
    {value : ManifestEnd} (hb : ManifestBoundary revision count total) (he : EntriesValid assets)
    (h : Closes revision count total assets value) :
    Manifest.WellFormed ⟨revision, assets, total⟩ ∧
      .manifestBegin ⟨revision, count, total⟩ :: Manifest.entryMessages revision 0 assets ++
        [.manifestEnd value] = Manifest.stream ⟨revision, assets, total⟩ := by
  obtain ⟨rfl, hl, hs⟩ := h
  obtain ⟨hr, hc, ht, -⟩ := hb
  have hcount : UInt32.ofNat assets.length = count := by rw [← hl, UInt32.ofNat_toNat]
  refine ⟨⟨hr, by rw [← hl]; exact hc, ht, he, hs⟩, ?_⟩
  simp only [Manifest.stream, Manifest.beginMessage, Manifest.endMessage, hcount]

/-- One manifest message: the state keeps saying what was seen, and only a whole stream is complete. -/
theorem Tracks.handle (h : Tracks messages receiver) (hm : isManifestMessage message = true) :
    Answered messages message (receiver.handle message) := by
  cases h with
  | idle =>
      cases message with
      | manifestBegin value =>
          obtain ⟨revision, count, total⟩ := value
          by_cases hb : ManifestBoundary revision count total
          · rw [ManifestReceiver.handle, handleBegin_fresh hb]
            exact .accepted (.receiving _ _ _ [] hb entriesValid_nil (Nat.zero_le _))
          · exact (handleBegin_fresh_fails hb).answered _ _
      | manifestAsset value => exact Fails.answered ⟨.inl rfl, rfl⟩ _ _
      | manifestEnd value => exact Fails.answered ⟨.inl rfl, rfl⟩ _ _
      | _ => cases hm
  | receiving revision count total assets hb he hl =>
      cases message with
      | manifestBegin value => exact Fails.answered ⟨.inl rfl, rfl⟩ _ _
      | manifestAsset item =>
          by_cases hc : Continues revision count assets item
          · rw [ManifestReceiver.handle, handleAsset_receiving hc hb.2.1]
            refine .accepted ?_
            rw [hc.stream_append count total]
            exact .receiving _ _ _ _ hb hc.2.2.2 (by rw [List.length_append]; exact hc.2.2.1)
          · exact (handleAsset_receiving_fails hc he).answered _ _
      | manifestEnd value =>
          by_cases hc : Closes revision count total assets value
          · obtain ⟨final, hfinal, hstate, hcompleted, -⟩ := handleEnd_receiving hc he hb.2.1 hb.2.2.1
            obtain ⟨hw, hstream⟩ := stream_of_closes hb he hc
            rw [ManifestReceiver.handle, hfinal]
            refine ⟨?_, fun _ => ⟨_, hw, hstream, hcompleted⟩, fun hr => absurd hr not_refused_complete⟩
            rw [hstream]
            exact .complete _ _ hw hstate hcompleted
          · exact (handleEnd_receiving_fails hc).answered _ _
      | _ => cases hm
  | complete manifest receiver hw hs _ => exact (handle_fails_of_over (.inl hs) hm).answered _ _
  | failed messages receiver hs => exact (handle_fails_of_over (.inr hs) hm).answered _ _

theorem tracks_afterMessages (messages : List Message) :
    Tracks (messages.filter isManifestMessage) (fresh.afterMessages messages) := by
  induction messages using List.reverseRecOn with
  | nil => exact .idle
  | append_singleton messages message ih =>
      rw [afterMessages_append, List.filter_append]
      cases h : isManifestMessage message with
      | false =>
          rw [List.filter_cons_of_neg (by simp [h]), List.filter_nil, List.append_nil]
          simpa only [afterMessages, List.foldl_cons, List.foldl_nil, handle_other h] using ih
      | true =>
          rw [List.filter_cons_of_pos h, List.filter_nil]
          exact (ih.handle h).tracks

/-! ## Refusal lasts -/

theorem failed_afterMessages (messages : List Message) (h : receiver.state = .failed) :
    (receiver.afterMessages messages).state = .failed := by
  induction messages generalizing receiver with
  | nil => exact h
  | cons message messages ih =>
      have hstep : (receiver.handle message).2.state = .failed := by
        cases hm : isManifestMessage message with
        | false => rw [handle_other hm, h]
        | true => exact (handle_fails_of_over (.inr h) hm).2
      exact ih hstep

/-! ## Whole streams -/

theorem afterMessages_entryMessages (revision total : UInt64) {count : UInt32}
    (hc : count.toNat ≤ 256) (xs : List AssetDescription) {ys : List AssetDescription}
    (h : EntriesValid (xs ++ ys)) (hl : (xs ++ ys).length ≤ count.toNat) :
    (receiving revision count total xs).afterMessages (Manifest.entryMessages revision xs.length ys) =
        receiving revision count total (xs ++ ys) ∧
      (receiving revision count total xs).results (Manifest.entryMessages revision xs.length ys) =
        List.replicate ys.length .accepted := by
  induction ys generalizing xs with
  | nil => exact ⟨by rw [List.append_nil]; rfl, rfl⟩
  | cons y ys ih =>
      rw [List.append_cons] at h hl
      have hlength : (xs ++ [y]).length = xs.length + 1 := by simp
      have hxs : xs.length < count.toNat := by
        rw [List.length_append, hlength] at hl
        omega
      have hindex : (UInt32.ofNat xs.length).toNat = xs.length :=
        UInt32.toNat_ofNat_of_lt' (by rw [UInt32.size]; omega)
      have hstep : (receiving revision count total xs).handleAsset ⟨revision, UInt32.ofNat xs.length, y⟩ =
          (.accepted, receiving revision count total (xs ++ [y])) :=
        handleAsset_receiving ⟨rfl, hindex, hxs, h.of_append⟩ hc
      obtain ⟨ihs, ihr⟩ := ih (xs ++ [y]) h hl
      rw [hlength] at ihs ihr
      rw [List.append_cons]
      simp only [Manifest.entryMessages, afterMessages, List.foldl_cons, results, ManifestReceiver.handle,
        hstep, List.length_cons, List.replicate_succ, ihr] at ihs ⊢
      exact ⟨ihs, trivial⟩

/-- Behind all but the last message of a well formed stream, every entry is in. -/
theorem afterMessages_stream {manifest : Manifest} (h : manifest.WellFormed) :
    fresh.afterMessages
        (manifest.beginMessage :: Manifest.entryMessages manifest.revision 0 manifest.assets) =
      receiving manifest.revision (UInt32.ofNat manifest.assets.length) manifest.totalDownloadSize
        manifest.assets ∧
    fresh.results (manifest.beginMessage :: Manifest.entryMessages manifest.revision 0 manifest.assets) =
      List.replicate (manifest.assets.length + 1) .accepted := by
  have hbegin : fresh.handle manifest.beginMessage =
      (.accepted, receiving manifest.revision (UInt32.ofNat manifest.assets.length)
        manifest.totalDownloadSize []) := handleBegin_fresh h.boundary
  obtain ⟨hafter, hresults⟩ := afterMessages_entryMessages manifest.revision manifest.totalDownloadSize
    h.boundary.2.1 [] h.entries h.count_toNat.ge
  simp only [afterMessages, List.foldl_cons, results, hbegin, List.length_nil, List.nil_append,
    List.replicate_succ] at hafter hresults ⊢
  exact ⟨hafter, by rw [hresults]⟩

theorem handle_endMessage {manifest : Manifest} (h : manifest.WellFormed) :
    ∃ final, (receiving manifest.revision (UInt32.ofNat manifest.assets.length) manifest.totalDownloadSize
        manifest.assets).handle manifest.endMessage = (.complete, final) ∧
      final.state = .complete ∧ final.completed = some manifest := by
  obtain ⟨final, hfinal, hstate, hcompleted, -⟩ :=
    handleEnd_receiving ⟨rfl, h.count_toNat, h.sum⟩ h.entries h.boundary.2.1 h.total
  exact ⟨final, hfinal, hstate, hcompleted⟩

theorem results_append (receiver : ManifestReceiver) (xs ys : List Message) :
    receiver.results (xs ++ ys) = receiver.results xs ++ (receiver.afterMessages xs).results ys := by
  induction xs generalizing receiver with
  | nil => rfl
  | cons x xs ih =>
      rw [List.cons_append, results, results, ih]
      rfl

/-- A well formed stream is accepted message by message, and completed by its last one. -/
theorem results_stream {manifest : Manifest} (h : manifest.WellFormed) :
    fresh.results manifest.stream =
        List.replicate (manifest.assets.length + 1) .accepted ++ [.complete] ∧
      (fresh.afterMessages manifest.stream).completed = some manifest := by
  obtain ⟨hafter, hresults⟩ := afterMessages_stream h
  obtain ⟨final, hfinal, -, hcompleted⟩ := handle_endMessage h
  rw [Manifest.stream, results_append, afterMessages_append, hafter, hresults]
  refine ⟨by rw [results, hfinal]; rfl, ?_⟩
  simp only [afterMessages, List.foldl_cons, List.foldl_nil, hfinal, hcompleted]

/-- Other messages in between do not keep a well formed stream from being completed. -/
theorem completes_stream {manifest : Manifest} (h : manifest.WellFormed)
    (hm : isManifestMessage message = true)
    (hs : (messages ++ [message]).filter isManifestMessage = manifest.stream) :
    ∃ final, (fresh.afterMessages messages).handle message = (.complete, final) ∧
      final.completed = some manifest := by
  rw [List.filter_append, List.filter_cons_of_pos hm, List.filter_nil] at hs
  obtain ⟨hbefore, hlast⟩ := List.append_inj' hs rfl
  obtain ⟨final, hfinal, -, hcompleted⟩ := handle_endMessage h
  rw [afterMessages_filter, hbefore, (afterMessages_stream h).1, List.singleton_inj.mp hlast]
  exact ⟨final, hfinal, hcompleted⟩

theorem results_length (receiver : ManifestReceiver) (messages : List Message) :
    (receiver.results messages).length = messages.length := by
  induction messages generalizing receiver with
  | nil => rfl
  | cons message messages ih => rw [results, List.length_cons, List.length_cons, ih]

/-- Within a well formed stream a message is accepted, or it is the last one and completes. -/
theorem handle_stream {manifest : Manifest} (h : manifest.WellFormed) {seen rest : List Message}
    (hs : manifest.stream = seen ++ message :: rest) :
    ((fresh.afterMessages seen).handle message).1 = if rest = [] then .complete else .accepted := by
  have hresults := (results_stream h).1
  have hlength := manifest.stream_length
  rw [hs, List.length_append, List.length_cons] at hlength
  rw [hs, results_append, results] at hresults
  have hget := congrArg (fun results => results[seen.length]?) hresults
  simp only [List.getElem?_append_right (results_length fresh seen).le, results_length, Nat.sub_self,
    List.getElem?_cons_zero] at hget
  split
  · rename_i hrest
    rw [hrest, List.length_nil] at hlength
    have hlast : seen.length =
        (List.replicate (manifest.assets.length + 1) ManifestInputResult.accepted).length := by
      rw [List.length_replicate]
      omega
    rw [hlast, List.getElem?_concat_length] at hget
    exact Option.some.inj hget
  · rename_i hrest
    have hpos := List.length_pos_iff.mpr hrest
    rw [List.getElem?_append_left (by rw [List.length_replicate]; omega),
      List.getElem?_replicate_of_lt (by omega)] at hget
    exact Option.some.inj hget

end ManifestReceiver

end CustomModels.Client
