import Mathlib.Data.List.TakeWhile
import RpiDashboard.Data.Replace
import RpiDashboard.Weather.Operations

/-! Diagnostics are shown without the query and the fragment of the URLs in them
(`weather/weather_service.cpp`). -/

namespace RpiDashboard.Weather

open Qt

/-- `QUrl`, as far as a diagnostic needs it. -/
structure QtUrl (Url : Type) where
  /-- The constructor from a text. -/
  ofText : QString → Url
  /-- `QUrl::setQuery`; none is the null text. -/
  setQuery : Url → Option QString → Url
  setFragment : Url → Option QString → Url
  /-- `QUrl::toString` with `RemoveQuery` and `RemoveFragment`. -/
  toText : Url → QString

/-- `\s` of `QRegularExpression`. -/
def white (c : Char) : Bool := c = ' ' || (9 ≤ c.toNat && c.toNat ≤ 13)

/-- `https?://`, the longer one first. -/
def schemes : List (List Char) := ["https://".toList, "http://".toList]

/-- How much of the text `https?://[^\s]+` takes at its front. -/
def urlLength (text : List Char) : Option Nat := do
  let scheme ← schemes.find? fun scheme => scheme.isPrefixOf text
  let rest := (text.drop scheme.length).takeWhile fun c => !white c
  if rest.isEmpty then none else some (scheme.length + rest.length)

/-- A match is a scheme, and what follows it up to the first white character. -/
theorem exists_of_urlLength {text : List Char} {n : Nat} (h : urlLength text = some n) :
    ∃ scheme ∈ schemes, ∃ rest after, text = scheme ++ (rest ++ after) ∧ rest ≠ [] ∧
      (∀ c ∈ rest, white c = false) ∧ (∀ c ∈ after.head?, white c = true) ∧
      n = scheme.length + rest.length := by
  simp only [urlLength, Option.bind_eq_bind, Option.bind_eq_some_iff] at h
  obtain ⟨scheme, hscheme, h⟩ := h
  have hfront : scheme.isPrefixOf text := by
    simpa only using List.find?_some hscheme
  obtain ⟨text, rfl⟩ := List.isPrefixOf_iff_prefix.mp hfront
  rw [List.drop_left] at h
  split at h
  case isTrue => cases h
  case isFalse hne =>
    refine ⟨scheme, List.mem_of_find?_eq_some hscheme, text.takeWhile fun c => !white c,
      text.dropWhile fun c => !white c, ?_, ?_, ?_, ?_, (Option.some.inj h).symm⟩
    · rw [List.takeWhile_append_dropWhile]
    · exact mt List.isEmpty_iff.mpr hne
    · intro c hc
      simpa using List.mem_takeWhile_imp hc
    · intro c hc
      have hhead := List.head?_dropWhile_not (fun c => !white c) text
      simpa [Option.mem_def.mp hc] using hhead

theorem urlLength_bound {text : List Char} {n : Nat} (h : urlLength text = some n) :
    0 < n ∧ n ≤ text.length := by
  obtain ⟨scheme, -, rest, after, rfl, hne, -, -, rfl⟩ := exists_of_urlLength h
  have hpos := List.length_pos_iff.mpr hne
  simp only [List.length_append]
  omega

def urlExpression : Pattern Char where
  matched := urlLength
  matched_bound := urlLength_bound

/-- `urlExpression.match(diagnostic, offset)`: where the match starts, and its length. -/
def urlMatch (diagnostic : List Char) (offset : Nat) : Option (Nat × Nat) :=
  (firstMatch urlExpression (diagnostic.drop offset)).map fun (start, n) => (offset + start, n)

/-- `QString::replace` of so many characters from a position on. -/
def replaceAt (text : List Char) (start n : Nat) (after : List Char) : List Char :=
  text.take start ++ (after ++ text.drop (start + n))

variable {Url : Type} (qurl : QtUrl Url)

/-- What a captured URL is replaced by. -/
def sanitizedUrl (captured : List Char) : List Char :=
  let url := qurl.ofText (String.ofList captured)
  let url := qurl.setQuery url none
  let url := qurl.setFragment url none
  (qurl.toText url).toList

/-- The loop of `sanitizedDiagnostic`, for so many passes. -/
def sanitizedLoop : Nat → List Char → Nat → Option (List Char)
  | 0, _, _ => none
  | passes + 1, diagnostic, offset =>
    match urlMatch diagnostic offset with
    | none => some diagnostic
    | some (start, n) =>
      let sanitized := sanitizedUrl qurl ((diagnostic.drop start).take n)
      sanitizedLoop passes (replaceAt diagnostic start n sanitized) (start + sanitized.length)

section Passes

variable {qurl} {s gap token rest last : List Char} {pieces : List (List Char × List Char)}

theorem urlMatch_clear (done : List Char) (h : Clear urlExpression s []) :
    urlMatch (done ++ s) done.length = none := by
  rw [urlMatch, List.drop_left, firstMatch_eq_none_iff.mpr h, Option.map_none]

theorem urlMatch_token (done : List Char) (h : Clear urlExpression gap (token ++ rest))
    (ht : urlLength (token ++ rest) = some token.length) :
    urlMatch (done ++ (gap ++ (token ++ rest))) done.length =
      some ((done ++ gap).length, token.length) := by
  rw [urlMatch, List.drop_left, firstMatch_append h ht, Option.map_some, List.length_append]

theorem captured_token (done : List Char) :
    ((done ++ (token ++ rest)).drop done.length).take token.length = token := by
  rw [List.drop_left, List.take_left]

theorem replaceAt_token (done after : List Char) :
    replaceAt (done ++ (token ++ rest)) done.length token.length after =
      done ++ (after ++ rest) := by
  rw [replaceAt, List.take_left, List.drop_length_add_append, List.drop_left]

/-- What is before the offset stays; of the text from there on each pass replaces one token. -/
theorem sanitizedLoop_tokens (h : Tokens urlExpression s pieces last) {passes : Nat}
    (hp : pieces.length < passes) (done : List Char) :
    sanitizedLoop qurl passes (done ++ s) done.length =
      some (done ++ replaced (sanitizedUrl qurl) pieces last) := by
  induction h generalizing passes done with
  | last hclear =>
    obtain ⟨passes, rfl⟩ := Nat.exists_eq_add_of_lt hp
    rw [sanitizedLoop, urlMatch_clear done hclear, replaced_nil]
  | @token gap token rest last pieces hclear ht h ih =>
    obtain ⟨passes, rfl⟩ := Nat.exists_eq_succ_of_ne_zero (Nat.ne_zero_of_lt hp)
    have hp : pieces.length < passes := Nat.lt_of_succ_lt_succ hp
    rw [sanitizedLoop, urlMatch_token done hclear ht]
    dsimp only
    rw [← List.append_assoc done, captured_token, replaceAt_token, ← List.length_append,
      ← List.append_assoc, ih hp, replaced_cons]
    simp only [List.append_assoc]

theorem sanitizedLoop_isSome (diagnostic : List Char) :
    (sanitizedLoop qurl (diagnostic.length + 1) diagnostic 0).isSome := by
  obtain ⟨pieces, last, h⟩ := exists_tokens urlExpression diagnostic
  have hp : pieces.length < diagnostic.length + 1 := Nat.lt_succ_of_le h.length_le
  have hloop : sanitizedLoop qurl (diagnostic.length + 1) diagnostic 0 = _ :=
    sanitizedLoop_tokens h hp []
  rw [hloop, Option.isSome_some]

end Passes

/-- The passes suffice: each of them leaves less of the text to scan. -/
def sanitizedDiagnostic (diagnostic : QString) : QString :=
  String.ofList ((sanitizedLoop qurl (diagnostic.toList.length + 1) diagnostic.toList 0).get
    (sanitizedLoop_isSome diagnostic.toList))

/-- What the constructor has to say about the credentials. -/
def missingCredential (config : WeatherConfig) (openWeatherKey ipGeolocationKey : QByteArray) :
    QString :=
  if config.locationMode = .automatic && ipGeolocationKey.isEmpty then
    "Automatic location credential is unavailable"
  else if openWeatherKey.isEmpty then "OpenWeather credential is unavailable"
  else ""

end RpiDashboard.Weather
