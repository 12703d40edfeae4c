import RpiDashboard.Weather.Diagnostics
import RpiDashboard.Weather.LocationLaws

/-! Laws of the diagnostics: nothing but the URLs is changed, and none of them keeps a query or
a fragment. -/

namespace RpiDashboard.Weather

open Qt

section Urls

/-- An `http` or `https` token. -/
def IsUrl (token : List Char) : Prop :=
  ∃ scheme ∈ schemes, ∃ rest,
    rest ≠ [] ∧ (∀ c ∈ rest, white c = false) ∧ token = scheme ++ rest

/-- Without the characters that start a query or a fragment. -/
def Plain (text : List Char) : Prop := '?' ∉ text ∧ '#' ∉ text

/-- No token, wherever it starts and ends, has a query or a fragment. -/
def WithoutQueries (text : List Char) : Prop :=
  ∀ token, IsUrl token → token <:+: text → Plain token

/-- The text is over, or a white character comes next. -/
def Ends (text : List Char) : Prop := ∀ c ∈ text.head?, white c = true

variable {scheme token rest text after u : List Char} {c : Char}

theorem scheme_plain (h : scheme ∈ schemes) :
    (∀ c ∈ scheme, white c = false) ∧ Plain scheme := by
  have hall : schemes.all fun scheme =>
      scheme.all (fun c => !white c) && !scheme.contains '?' && !scheme.contains '#' := by decide
  have hscheme := List.all_eq_true.mp hall scheme h
  simpa [Plain, and_assoc] using hscheme

theorem Plain.of_subset (h : Plain text) (hsub : u ⊆ text) : Plain u :=
  ⟨fun hc => h.1 (hsub hc), fun hc => h.2 (hsub hc)⟩

theorem Plain.append (h : Plain text) (hafter : Plain after) : Plain (text ++ after) := by
  simpa [Plain, not_or] using ⟨⟨h.1, hafter.1⟩, h.2, hafter.2⟩

theorem find_scheme (h : scheme ∈ schemes) (after : List Char) :
    schemes.find? (fun scheme' => scheme'.isPrefixOf (scheme ++ after)) = some scheme := by
  simp only [schemes, List.mem_cons, List.not_mem_nil, or_false] at h
  rcases h with rfl | rfl <;> rfl

theorem urlLength_ne_none (h : scheme ∈ schemes) (hc : white c = false) :
    urlLength (scheme ++ c :: after) ≠ none := by
  simp [urlLength, find_scheme h, hc]

theorem IsUrl.not_white (h : IsUrl token) : ∀ c ∈ token, white c = false := by
  obtain ⟨scheme, hscheme, rest, -, hrest, rfl⟩ := h
  exact List.forall_mem_append.mpr ⟨(scheme_plain hscheme).1, hrest⟩

theorem IsUrl.ne_nil (h : IsUrl token) : token ≠ [] := by
  obtain ⟨scheme, -, rest, hne, -, rfl⟩ := h
  exact List.append_ne_nil_of_right_ne_nil scheme hne

theorem IsUrl.urlLength_ne_none (h : IsUrl token) : urlLength (token ++ after) ≠ none := by
  obtain ⟨scheme, hscheme, rest, hne, hrest, rfl⟩ := h
  obtain ⟨c, rest, rfl⟩ := List.exists_cons_of_ne_nil hne
  rw [List.append_assoc]
  exact Weather.urlLength_ne_none hscheme (hrest c List.mem_cons_self)

/-- What a match takes is a token, and as much of it as there is. -/
theorem isUrl_of_urlLength (h : urlLength (token ++ rest) = some token.length) :
    IsUrl token ∧ Ends rest := by
  obtain ⟨scheme, hscheme, body, after, htext, hne, hbody, hafter, hlength⟩ :=
    exists_of_urlLength h
  rw [← List.append_assoc] at htext
  rw [← List.length_append] at hlength
  obtain ⟨rfl, rfl⟩ := List.append_inj htext hlength
  exact ⟨⟨scheme, hscheme, body, hne, hbody, rfl⟩, hafter⟩

/-- Nothing without a white character reaches beyond where the text ends. -/
theorem prefix_of_ends (hu : ∀ c ∈ u, white c = false) (hrest : Ends rest)
    (h : u <+: text ++ rest) : u <+: text := by
  rcases List.prefix_or_prefix_of_prefix h (List.prefix_append text rest) with hu' | ⟨beyond, rfl⟩
  · exact hu'
  · cases beyond with
    | nil => rw [List.append_nil]
    | cons c beyond =>
      rw [List.prefix_append_right_inj] at h
      obtain ⟨after, rfl⟩ := h
      have hc : white c = true := hrest c rfl
      simp [hu c (by simp)] at hc

end Urls

section Sanitizing

variable {s gap token rest last u : List Char} {pieces : List (List Char × List Char)}
  {f : List Char → List Char}

theorem ends_replaced (h : Tokens urlExpression s pieces last) (hs : Ends s) :
    Ends (replaced f pieces last) := by
  cases h with
  | last => exact hs
  | @token gap token rest last pieces hclear ht h =>
    rw [replaced_cons]
    cases gap with
    | nil =>
      obtain ⟨c, token, rfl⟩ := List.exists_cons_of_length_pos (urlLength_bound ht).1
      have hc : white c = true := hs c rfl
      simp [(isUrl_of_urlLength ht).1.not_white c List.mem_cons_self] at hc
    | cons c gap => exact hs

/-- A token that starts in a gap holds no more of it than a part of its scheme. -/
theorem plain_of_gap {v after : List Char} (hclear : urlLength (v ++ (token ++ rest)) = none)
    (ht : IsUrl token) (hafter : Plain after) (hu : IsUrl u) (h : u <+: v ++ after) : Plain u := by
  obtain ⟨scheme, hscheme, body, hbody, hwhite, rfl⟩ := hu
  rcases List.prefix_or_prefix_of_prefix ((List.prefix_append scheme body).trans h)
    (List.prefix_append v after) with ⟨v, rfl⟩ | hv
  case inl =>
    rw [List.append_assoc] at hclear
    cases v with
    | nil =>
      obtain ⟨c, token, rfl⟩ := List.exists_cons_of_ne_nil ht.ne_nil
      exact absurd hclear (urlLength_ne_none hscheme (ht.not_white c List.mem_cons_self))
    | cons c v =>
      rw [List.append_assoc, List.prefix_append_right_inj] at h
      obtain ⟨d, body, rfl⟩ := List.exists_cons_of_ne_nil hbody
      obtain rfl : d = c := (List.cons_prefix_cons.mp h).1
      exact absurd hclear (urlLength_ne_none hscheme (hwhite d List.mem_cons_self))
  case inr =>
    have hplain := (scheme_plain hscheme).2.of_subset hv.subset
    exact (hplain.append hafter).of_subset h.subset

theorem withoutQueries_replaced (hf : ∀ token, Plain (f token))
    (h : Tokens urlExpression s pieces last) : WithoutQueries (replaced f pieces last) := by
  induction h with
  | @last s hclear =>
    rintro u hu ⟨before, after, rfl⟩
    have hmatch := hclear (u ++ after) ⟨before, (List.append_assoc ..).symm⟩
      (List.append_ne_nil_of_left_ne_nil hu.ne_nil after)
    rw [List.append_nil] at hmatch
    exact absurd hmatch hu.urlLength_ne_none
  | @token gap token rest last pieces hclear ht h ih =>
    rintro u hu ⟨before, after, heq⟩
    obtain ⟨hurl, hrest⟩ := isUrl_of_urlLength ht
    have hends : Ends (replaced f pieces last) := ends_replaced h hrest
    rw [replaced_cons, List.append_assoc] at heq
    -- It starts in the gap, in what the token became, or after that.
    rcases List.append_eq_append_iff.mp heq with ⟨v, rfl, htail⟩ | ⟨before, rfl, htail⟩
    · have hu' : u <+: v ++ f token := prefix_of_ends hu.not_white hends
        ⟨after, by rw [htail, List.append_assoc]⟩
      by_cases hv : v = []
      · subst hv
        exact (hf token).of_subset hu'.subset
      · have hmatch := hclear v ⟨before, rfl⟩ hv
        exact plain_of_gap hmatch hurl (hf token) hu hu'
    · rcases List.append_eq_append_iff.mp htail with ⟨before, rfl, hafter⟩ | ⟨v, hv, hafter⟩
      · exact ih u hu ⟨before, after, by rw [hafter, List.append_assoc]⟩
      · have hu' : u <+: v := prefix_of_ends hu.not_white hends ⟨after, hafter⟩
        have hsub : u ⊆ f token := fun c hc => by
          rw [hv]
          exact List.mem_append_right before (hu'.subset hc)
        exact (hf token).of_subset hsub

end Sanitizing

section Service

variable {qt : QtText} {service : WeatherService} {now : QDateTime} {P : QString → Prop}

namespace WeatherService

theorem startOperation_diagnostics (hempty : P "") (h : P service.diagnostics) (manual : Bool) :
    P (service.startOperation manual).diagnostics := by
  unfold startOperation
  split
  · exact h
  split
  · exact h
  · exact hempty

theorem setLocation_diagnostics (hempty : P "") (h : P service.diagnostics) (location : Location) :
    P (service.setLocation qt location now).diagnostics := by
  unfold setLocation
  refine startOperation_diagnostics hempty ?_ false
  split <;> exact h

theorem scheduleLocalHourBoundary_diagnostics :
    (service.scheduleLocalHourBoundary now).diagnostics = service.diagnostics := by
  obtain ⟨localHourTimer, heq⟩ := service.scheduleLocalHourBoundary_frame now
  rw [heq]

theorem publish_diagnostics (snapshot : Snapshot) :
    (service.publish qt snapshot now).diagnostics = "" := by
  obtain ⟨_, _, _, _, _, _, _, _, heq⟩ := service.publish_frame now snapshot
  rw [heq]

theorem fail_diagnostics (diagnostic : QString) (authenticationFailure : Bool) (retry : Int) :
    (service.fail qt diagnostic authenticationFailure retry).diagnostics =
      qt.withoutQueries diagnostic := by
  cases authenticationFailure <;> rfl

theorem saveCache_diagnostics : service.saveCache.diagnostics = service.diagnostics := by
  obtain ⟨saved, heq⟩ := service.saveCache_frame
  rw [heq]

theorem restore_diagnostics {cached : Snapshot} :
    (service.restore cached now).diagnostics = service.diagnostics := by
  obtain ⟨_, _, _, _, _, _, _, _, heq⟩ := service.restore_frame now cached
  rw [heq]

theorem initialized_diagnostics (hempty : P "") (config : WeatherConfig) {diagnostics : QString}
    (h : P diagnostics) (cached : Option Snapshot) :
    P (initialized qt config diagnostics cached now).diagnostics := by
  have hrestored : P (restored config diagnostics cached now).diagnostics := by
    cases cached with
    | none => exact h
    | some cached => exact restore_diagnostics.symm ▸ h
  refine initialized_cases (P := fun service => P service.diagnostics) ?_ ?_ ?_
  · exact fun _ => hrestored
  · exact fun _ => setLocation_diagnostics hempty hrestored _
  · exact startOperation_diagnostics hempty hrestored false

end WeatherService

/-- A diagnostic shown is empty, what it was before, or a sanitized one. -/
theorem World.Handled.diagnostics {w : World} {e : Event} (hhandled : w.Handled qt e service)
    (hempty : P "") (hsanitized : ∀ diagnostic, P (qt.withoutQueries diagnostic))
    (h : P w.service.diagnostics) : P service.diagnostics := by
  cases hhandled with
  | refresh => exact WeatherService.startOperation_diagnostics hempty h true
  | timeout =>
    have hstopped : P { w.service with refreshTimer := none }.diagnostics := h
    exact WeatherService.startOperation_diagnostics hempty hstopped false
  | solarTimeout => exact h
  | localHourTimeout =>
    rw [WeatherService.scheduleLocalHourBoundary_diagnostics]
    exact h
  | resolved => exact WeatherService.setLocation_diagnostics hempty h _
  | forecastReady =>
    rw [WeatherService.publish_diagnostics]
    exact hempty
  | failed =>
    rw [WeatherService.fail_diagnostics]
    exact hsanitized _
  | airQualityReady =>
    rw [WeatherService.airQualityReady, WeatherService.saveCache_diagnostics]
    exact h
  | airQualityFailed => exact hsanitized _

theorem World.step_diagnostics {w : World} (hempty : P "")
    (hsanitized : ∀ diagnostic, P (qt.withoutQueries diagnostic)) (h : P w.service.diagnostics)
    (e : Event) : P (w.step qt e).service.diagnostics := by
  rcases step_service qt w e with heq | hhandled
  · rw [heq]
    exact h
  · exact hhandled.diagnostics hempty hsanitized h

theorem World.run_diagnostics {w : World} (hempty : P "")
    (hsanitized : ∀ diagnostic, P (qt.withoutQueries diagnostic)) (h : P w.service.diagnostics)
    (es : List Event) : P (run (World.step qt) w es).service.diagnostics :=
  run_invariant (P := fun w : World => P w.service.diagnostics) h fun _ e _ h =>
    step_diagnostics hempty hsanitized h e

theorem World.opened_diagnostics (hempty : P "") (config : WeatherConfig) {diagnostics : QString}
    (h : P diagnostics) (cached : Option Snapshot) :
    P (opened qt config diagnostics cached now).service.diagnostics :=
  WeatherService.initialized_diagnostics hempty config h cached

end Service

section Sanitized

variable {Url : Type} {qurl : QtUrl Url}

/-- What a URL is written as has no query and no fragment. -/
def QtUrl.Removes (qurl : QtUrl Url) : Prop := ∀ url, Plain (qurl.toText url).toList

/-- What `sanitizedDiagnostic` does to a diagnostic. -/
structure Sanitized (qurl : QtUrl Url) (diagnostic : QString) : Prop where
  terminates : ∀ passes, diagnostic.toList.length < passes →
    sanitizedLoop qurl passes diagnostic.toList 0 =
      some (sanitizedDiagnostic qurl diagnostic).toList
  outside : ∃ pieces last, Tokens urlExpression diagnostic.toList pieces last ∧
    (∀ piece ∈ pieces, IsUrl piece.2) ∧
    (sanitizedDiagnostic qurl diagnostic).toList = replaced (sanitizedUrl qurl) pieces last
  clean : WithoutQueries (sanitizedDiagnostic qurl diagnostic).toList

theorem sanitizedDiagnostic_tokens {diagnostic : QString} {last : List Char}
    {pieces : List (List Char × List Char)}
    (h : Tokens urlExpression diagnostic.toList pieces last) :
    (sanitizedDiagnostic qurl diagnostic).toList = replaced (sanitizedUrl qurl) pieces last := by
  have hloop : sanitizedLoop qurl (diagnostic.toList.length + 1) diagnostic.toList 0 = _ :=
    sanitizedLoop_tokens h (Nat.lt_succ_of_le h.length_le) []
  simp [sanitizedDiagnostic, hloop]

theorem sanitized (h : qurl.Removes) (diagnostic : QString) : Sanitized qurl diagnostic := by
  obtain ⟨pieces, last, htokens⟩ := exists_tokens urlExpression diagnostic.toList
  have hresult : (sanitizedDiagnostic qurl diagnostic).toList = _ :=
    sanitizedDiagnostic_tokens htokens
  constructor
  case terminates =>
    intro passes hp
    rw [hresult]
    exact sanitizedLoop_tokens htokens (htokens.length_le.trans_lt hp) []
  case outside =>
    refine ⟨pieces, last, htokens, fun piece hpiece => ?_, hresult⟩
    obtain ⟨rest, hrest⟩ := htokens.matched piece hpiece
    exact (isUrl_of_urlLength hrest).1
  case clean =>
    rw [hresult]
    exact withoutQueries_replaced (fun _ => h _) htokens

theorem withoutQueries_nil : WithoutQueries "".toList := by
  intro token hurl htoken
  exact absurd (List.infix_nil.mp htoken) hurl.ne_nil

theorem missingCredential_clean (config : WeatherConfig)
    (openWeatherKey ipGeolocationKey : QByteArray) :
    WithoutQueries (missingCredential config openWeatherKey ipGeolocationKey).toList := by
  intro token _ htoken
  have hplain : Plain (missingCredential config openWeatherKey ipGeolocationKey).toList := by
    unfold missingCredential
    split
    · simp [Plain]
    split <;> simp [Plain]
  exact hplain.of_subset htoken.subset

/-- Sanitizing a diagnostic ends, changes nothing but the tokens, and leaves none of them a
query or a fragment; so no diagnostic of the service has one, in any run. -/
theorem diagnostics_sanitized {Url : Type} (qurl : QtUrl Url) (h : qurl.Removes) :
    (∀ diagnostic, Sanitized qurl diagnostic) ∧
      ∀ (qt : QtText) (config : WeatherConfig) (openWeatherKey ipGeolocationKey : QByteArray)
        (cached : Option Snapshot) (now : QDateTime) (es : List Event),
        let qt := { qt with withoutQueries := sanitizedDiagnostic qurl }
        let w := World.opened qt config
          (missingCredential config openWeatherKey ipGeolocationKey) cached now
        WithoutQueries (run (World.step qt) w es).service.diagnostics.toList := by
  refine ⟨sanitized h, fun qt config openWeatherKey ipGeolocationKey cached now es => ?_⟩
  intro qt w
  have hmissing := missingCredential_clean config openWeatherKey ipGeolocationKey
  have hclean (diagnostic : QString) : WithoutQueries (qt.withoutQueries diagnostic).toList :=
    (sanitized h diagnostic).clean
  have hw : WithoutQueries w.service.diagnostics.toList :=
    World.opened_diagnostics (P := fun text => WithoutQueries text.toList) withoutQueries_nil
      config hmissing cached
  exact World.run_diagnostics (P := fun text => WithoutQueries text.toList) withoutQueries_nil
    hclean hw es

/-- The text of a URL up to its query or fragment. -/
def plainUrl : QtUrl QString where
  ofText text := text
  setQuery url _ := url
  setFragment url _ := url
  toText url := String.ofList (url.toList.takeWhile fun c => c != '?' && c != '#')

theorem plainUrl_removes : plainUrl.Removes := by
  intro url
  have htaken : ∀ c ∈ (plainUrl.toText url).toList, c != '?' && c != '#' := by
    rw [plainUrl, String.toList_ofList]
    exact fun c => List.mem_takeWhile_imp
  exact ⟨fun hc => absurd (htaken _ hc) (by decide), fun hc => absurd (htaken _ hc) (by decide)⟩

theorem diagnostics_sanitized_secret :
    Sanitized plainUrl "Weather request failed: https://api.example.test/data?appid=secret&x=1" ∧
      sanitizedDiagnostic plainUrl
        "Weather request failed: https://api.example.test/data?appid=secret&x=1" =
          "Weather request failed: https://api.example.test/data" :=
  ⟨(diagnostics_sanitized plainUrl plainUrl_removes).1 _, by decide⟩

end Sanitized

end RpiDashboard.Weather
