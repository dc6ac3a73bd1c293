import CustomModels.Client.Requests
import CustomModels.Client.Lemmas.Fetch

/-!
# Requests

Each part of `Fetch` leaves the handles as it has found them, and it comes to the loop exactly if every call before is
answered as it should be.
-/

namespace CustomModels.Client
open CustomModels.Shared CustomModels.Lib

namespace WinHttpFetchBackend

variable {held : List InternetHandle} {handle : InternetHandle} {granted : Prop}
  {body : FetchResult → List UInt8 → Prop} {calls front : List HttpCall} {fetched : Fetched}
  {part : Nat → Option Fetched} {size : Nat} {C D : List HttpCall → Prop}

/-! ## Calls -/

/-- The request is not sent. -/
def Silent (calls : List HttpCall) : Prop := .used .request .sendRequest ∉ calls

/-- The request is sent once at most, and behind these calls. -/
structure Sends (front calls : List HttpCall) : Prop where
  behind : .used .request .sendRequest ∈ calls → front ++ [.used .request .sendRequest] <+: calls
  once : calls.count (.used .request .sendRequest) ≤ 1

theorem silent_nil : Silent [] := nofun

theorem Silent.cons {call : HttpCall} (h : Silent calls) (hc : call ≠ .used .request .sendRequest) :
    Silent (call :: calls) := by
  simp [Silent, hc.symm, show .used .request .sendRequest ∉ calls from h]

theorem Silent.sends (h : Silent calls) : Sends front calls :=
  ⟨fun hm => absurd hm h, (List.count_eq_zero.mpr h).trans_le (Nat.zero_le 1)⟩

theorem Silent.sent (h : Silent calls) : Sends [] (.used .request .sendRequest :: calls) := by
  refine ⟨fun _ => List.cons_prefix_cons.mpr ⟨rfl, List.nil_prefix⟩, ?_⟩
  rw [List.count_cons_self, List.count_eq_zero.mpr h]

theorem Sends.cons {call : HttpCall} (h : Sends front calls) (hc : call ≠ .used .request .sendRequest) :
    Sends (call :: front) (call :: calls) := by
  refine ⟨fun hm => ?_, ?_⟩
  · have hrest := (List.mem_cons.mp hm).resolve_left hc.symm
    exact List.cons_prefix_cons.mpr ⟨rfl, h.behind hrest⟩
  · rw [List.count_cons_of_ne hc]
    exact h.once

theorem Sends.append_closed (h : Sends front calls) (handle : InternetHandle) :
    Sends front (calls ++ [.closed handle]) := by
  refine ⟨fun hm => ?_, ?_⟩
  · have hcalls : .used .request .sendRequest ∈ calls := by simpa using hm
    exact (h.behind hcalls).trans (List.prefix_append _ _)
  · rw [List.count_append]
    simpa using h.once

/-! ## Parts -/

/-- What a part of `Fetch` does that finds these handles open: it opens the destination exactly if it is granted, and
succeeds only then. -/
structure Follows (held : List InternetHandle) (granted : Prop) (body : FetchResult → List UInt8 → Prop)
    (fetched : Fetched) : Prop where
  holds : Walk Holds held (fetched.calls.flatMap HttpCall.holding) held
  opens : fetched.destination.isSome = true ↔ granted
  writes : ∀ destination, fetched.destination = some destination → body fetched.result destination
  fails : fetched.destination = none → fetched.result.error ≠ .none

/-- With more fuel than the size, the part ends like that, and its calls have the property. -/
def Yields (size : Nat) (held : List InternetHandle) (granted : Prop) (body : FetchResult → List UInt8 → Prop)
    (C : List HttpCall → Prop) (part : Nat → Option Fetched) : Prop :=
  ∃ fetched, (∀ fuel, size < fuel → part fuel = some fetched) ∧ Follows held granted body fetched ∧ C fetched.calls

theorem Yields.congr {other : Prop} (h : Yields size held granted body C part) (hg : granted ↔ other) :
    Yields size held other body C part := by
  obtain ⟨fetched, heq, hf, hc⟩ := h
  exact ⟨fetched, heq, { hf with opens := hf.opens.trans hg }, hc⟩

theorem yields_returned {error : FetchError} (he : error ≠ .none) (hg : ¬ granted) (hc : C []) :
    Yields size held granted body C fun _ => some (.returned error) :=
  ⟨_, fun _ _ => rfl, ⟨.nil, by simpa [Fetched.returned] using hg, nofun, fun _ => he⟩, hc⟩

theorem Yields.behind (h : Yields size held granted body C part) (hh : handle ∈ held) (operation : HttpOperation)
    (hd : ∀ calls, C calls → D (.used handle operation :: calls)) :
    Yields size held granted body D fun fuel => (part fuel).map (·.behind (.used handle operation)) := by
  obtain ⟨fetched, heq, hf, hc⟩ := h
  exact ⟨fetched.behind (.used handle operation), fun fuel hfuel => congrArg (Option.map _) (heq fuel hfuel),
    ⟨walk_uses hh hf.holds, hf.opens, hf.writes, hf.fails⟩, hd _ hc⟩

theorem Yields.attempt (h : Yields size held granted body C part) (hh : handle ∈ held) (operation : HttpOperation)
    (failure : Option UInt32) (hn : C []) (hd : ∀ calls, C calls → D (.used handle operation :: calls)) :
    Yields size held (failure = none ∧ granted) body D fun fuel => attempt handle operation failure (part fuel) := by
  cases failure with
  | none => exact (h.behind hh operation hd).congr (by simp)
  | some error => exact (yields_returned (mapWinHttpError_ne_none error) (by simp) hn).behind hh operation hd

theorem Yields.within (h : Yields size (handle :: held) granted body (Sends front) part) (hn : handle ∉ held) :
    Yields size held granted body (Sends (.opened handle :: front)) fun fuel => within handle (part fuel) := by
  obtain ⟨fetched, heq, hf, hc⟩ := h
  refine ⟨_, fun fuel hfuel => congrArg (Option.map _) (heq fuel hfuel), ⟨?_, hf.opens, hf.writes, hf.fails⟩,
    (hc.append_closed handle).cons nofun⟩
  simp only [List.flatMap_cons, List.flatMap_append, HttpCall.holding, List.flatMap_nil, List.append_nil,
    List.cons_append, List.nil_append]
  exact walk_scope hn hf.holds

/-! ## `Fetch` -/

namespace FetchRequest

variable (request : FetchRequest)

theorem receiveBody_yields (hh : .request ∈ held) :
    Yields request.expectedSize.toNat held (request.answers.output = true) request.download.Outcome Silent
      request.receiveBody := by
  unfold receiveBody
  cases houtput : request.answers.output with
  | false =>
      refine ⟨_, fun _ _ => rfl, ⟨.nil, by simp [Fetched.behind, Fetched.returned], nofun, fun _ => nofun⟩,
        silent_nil.cons nofun⟩
  | true =>
      obtain ⟨result, transfer, houtcome, hrun⟩ := request.download.run_outcome
      refine ⟨⟨result, some transfer.destination, .openedOutput true :: transfer.calls.map .transferred⟩, ?_,
        ⟨?_, by simp, ?_, nofun⟩, ?_⟩
      · intro fuel hfuel
        simp only [Bool.not_true, Bool.false_eq_true, ↓reduceIte]
        rw [hrun fuel hfuel]
        rfl
      · refine walk_all_uses fun action ha => ⟨.request, hh, ?_⟩
        obtain ⟨call, hcall, hholding⟩ := List.mem_flatMap.mp ha
        rcases List.mem_cons.mp hcall with rfl | hcall
        · cases hholding
        · obtain ⟨call, -, rfl⟩ := List.mem_map.mp hcall
          cases call with
          | queryDataAvailable available => exact List.mem_singleton.mp hholding
          | readData requested bytesRead => exact List.mem_singleton.mp hholding
          | getTickCount tick => cases hholding
          | write good => cases hholding
          | close good => cases hholding
      · rintro destination ⟨⟩
        exact houtcome
      · simp [Silent]

/-- The server tells the expected length, or none. -/
def LengthFits : Prop :=
  (∃ length, request.answers.contentLength = .ok length ∧ length.toUInt64 = request.expectedSize) ∨
    request.answers.contentLength = .error errorWinHttpHeaderNotFound

theorem checkLength_yields (hh : .request ∈ held) :
    Yields request.expectedSize.toNat held (request.LengthFits ∧ request.answers.output = true)
      request.download.Outcome Silent request.checkLength := by
  have hbody := request.receiveBody_yields hh
  refine Yields.behind (C := Silent) ?_ hh .queryContentLength fun _ hc => hc.cons nofun
  unfold LengthFits
  cases request.answers.contentLength with
  | error error =>
      by_cases herror : error = errorWinHttpHeaderNotFound
      · subst herror
        exact hbody.congr (by simp)
      · simp only [bne_iff_ne.mpr herror, ↓reduceIte]
        exact yields_returned (mapWinHttpError_ne_none error) (by simp [herror]) silent_nil
  | ok length =>
      by_cases hlength : length.toUInt64 = request.expectedSize
      · simp only [hlength, bne_self_eq_false, Bool.false_eq_true, ↓reduceIte]
        exact hbody.congr (by simp [hlength])
      · simp only [bne_iff_ne.mpr hlength, ↓reduceIte]
        exact yields_returned nofun (by simp [hlength]) silent_nil

theorem checkStatus_yields (hh : .request ∈ held) :
    Yields request.expectedSize.toNat held
      (request.answers.status = .ok 200 ∧ request.LengthFits ∧ request.answers.output = true)
      request.download.Outcome Silent request.checkStatus := by
  have hquery : ∀ {granted : Prop} {part : Nat → Option Fetched},
      Yields request.expectedSize.toNat held granted request.download.Outcome Silent part →
        Yields request.expectedSize.toNat held granted request.download.Outcome Silent
          fun fuel => attempt .request .queryStatus none (part fuel) := by
    intro granted part hpart
    exact (hpart.attempt hh .queryStatus none silent_nil fun _ hc => hc.cons nofun).congr (by simp)
  unfold checkStatus
  cases request.answers.status with
  | error error => exact hquery (yields_returned (mapWinHttpError_ne_none error) (by simp) silent_nil)
  | ok status =>
      refine hquery ?_
      by_cases hstatus : status = 200
      · simp only [hstatus, bne_self_eq_false, Bool.false_eq_true, ↓reduceIte]
        exact (request.checkLength_yields hh).congr (by simp)
      · simp only [bne_iff_ne.mpr hstatus, ↓reduceIte]
        exact yields_returned nofun (by simp [hstatus]) silent_nil

/-- The calls on the request before it is sent. -/
def preparation : List HttpCall :=
  [.used .request (.setMaximumRedirects request.options.redirectLimit), .used .request .rejectCredentials]

theorem exchange_yields (hh : .request ∈ held) :
    Yields request.expectedSize.toNat held
      (request.answers.setMaximumRedirects = none ∧ request.answers.sendRequest = none ∧
        request.answers.receiveResponse = none ∧ request.answers.status = .ok 200 ∧ request.LengthFits ∧
        request.answers.output = true) request.download.Outcome (Sends request.preparation) request.exchange := by
  have hreceived := (request.checkStatus_yields hh).attempt (D := Silent) hh .receiveResponse
    request.answers.receiveResponse silent_nil fun _ hc => hc.cons nofun
  have hsent := hreceived.attempt (D := Sends []) hh .sendRequest request.answers.sendRequest silent_nil
    fun _ hc => hc.sent
  have hprepared := hsent.attempt hh .rejectCredentials none silent_nil.sends fun _ hc => hc.cons nofun
  have hlimited := hprepared.attempt hh (.setMaximumRedirects request.options.redirectLimit)
    request.answers.setMaximumRedirects silent_nil.sends fun _ hc => hc.cons nofun
  exact hlimited.congr (by simp)

theorem send_yields {parsed : ParsedUrl} (url : isDownloadUrlValid request.url = true)
    (size : request.expectedSize ≠ 0 ∧ request.expectedSize ≤ kMaximumIndividualFileSize)
    (hparsed : parseUrl request.answers.crackUrl request.url = some parsed) :
    Yields request.expectedSize.toNat [] (∃ parsed, request.Granted parsed) request.download.Outcome
      (Sends (request.introduction parsed)) (request.send parsed) := by
  have hopened := ((@exchange_yields [.request, .connection, .session] request List.mem_cons_self).within
    (by simp)).attempt List.mem_cons_self (.openRequest parsed.target parsed.secure) request.answers.openRequest
      silent_nil.sends fun _ hc => hc.cons nofun
  have hconnected := (hopened.within (by simp)).attempt List.mem_cons_self (.connect parsed.host parsed.port)
    request.answers.connect silent_nil.sends fun _ hc => hc.cons nofun
  have hredirecting := hconnected.attempt List.mem_cons_self .disallowHttpsToHttp request.answers.setRedirectPolicy
    silent_nil.sends fun _ hc => hc.cons nofun
  have htimed := (hredirecting.attempt List.mem_cons_self
    (.setTimeouts (min request.options.connectionTimeoutMilliseconds 0x7FFFFFFF)) request.answers.setTimeouts
    silent_nil.sends fun _ hc => hc.cons nofun).within (by simp)
  unfold send
  cases hsession : request.answers.openSession with
  | none =>
      refine htimed.congr ⟨?_, ?_⟩
      · rintro ⟨h1, h2, h3, h4, h5, h6, h7, h8, h9, h10⟩
        exact ⟨parsed, url, size, hparsed, hsession, h1, h2, h3, h4, h5, h6, h7, h8, h9, h10⟩
      · rintro ⟨_, hg⟩
        exact ⟨hg.setTimeouts, hg.setRedirectPolicy, hg.connect, hg.openRequest, hg.setMaximumRedirects,
          hg.sendRequest, hg.receiveResponse, hg.status, hg.contentLength, hg.output⟩
  | some error =>
      refine yields_returned (mapWinHttpError_ne_none error) ?_ silent_nil.sends
      rintro ⟨_, hg⟩
      cases hg.openSession.symm.trans hsession

theorem fetch_yields : ∃ fetched, (∀ fuel, request.expectedSize.toNat < fuel → request.fetch fuel = some fetched) ∧
    Follows [] (∃ parsed, request.Granted parsed) request.download.Outcome fetched ∧
    (fetched.calls ≠ [] → isDownloadUrlValid request.url = true ∧
      ∃ parsed, parseUrl request.answers.crackUrl request.url = some parsed) ∧
    ∀ parsed, parseUrl request.answers.crackUrl request.url = some parsed →
      Sends (request.introduction parsed) fetched.calls := by
  have hrefused : ∀ {error : FetchError}, error ≠ .none → (¬ ∃ parsed, request.Granted parsed) →
      Follows [] (∃ parsed, request.Granted parsed) request.download.Outcome (.returned error) :=
    fun he hg => ⟨.nil, by simpa [Fetched.returned] using hg, nofun, fun _ => he⟩
  unfold fetch
  split
  · rename_i hinvalid
    refine ⟨_, fun _ _ => rfl, hrefused nofun ?_, fun h => absurd rfl h, fun _ _ => silent_nil.sends⟩
    rintro ⟨_, hg⟩
    simp [hg.url, hg.size.1, UInt64.not_lt.mpr hg.size.2] at hinvalid
  · rename_i hvalid
    simp only [Bool.or_eq_true, Bool.not_eq_true', beq_iff_eq, decide_eq_true_eq, not_or, Bool.not_eq_false,
      UInt64.not_lt] at hvalid
    obtain ⟨⟨hurl, hzero⟩, hmaximum⟩ := hvalid
    cases hparsed : parseUrl request.answers.crackUrl request.url with
    | none =>
        refine ⟨_, fun _ _ => rfl, hrefused nofun ?_, fun h => absurd rfl h, nofun⟩
        rintro ⟨_, hg⟩
        cases hg.parsed.symm.trans hparsed
    | some parsed =>
        obtain ⟨fetched, heq, hf, hc⟩ := request.send_yields hurl ⟨hzero, hmaximum⟩ hparsed
        exact ⟨fetched, heq, hf, fun _ => ⟨hurl, parsed, rfl⟩, by rintro _ ⟨⟩; exact hc⟩

end FetchRequest

end WinHttpFetchBackend

end CustomModels.Client
