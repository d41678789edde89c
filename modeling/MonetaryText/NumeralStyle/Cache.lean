import MonetaryText.Locale.Data
import MonetaryText.Log.Notice
import MonetaryText.NumeralStyle.Basic
import MonetaryText.Settings
import MonetaryText.Text.UpperCase

/-!
The numeral style of a locale and a currency, and a cache of the styles that were asked for. What
the cache answers is what would be worked out without it; only the notice that a locale is not known,
or of no use, is given once as long as the style is held.
-/

namespace MonetaryText

namespace NumeralStyle

/-- Everything that a style depends on. -/
structure Request where
  localeId : String
  currency : Option String
  rounding : RoundingMode
  defaultDigits : Nat
  deriving DecidableEq, Repr

namespace Request

/-- A currency in capitals; the empty code is none. -/
def currencyKey (code : Option String) : Option String :=
  code.bind fun code =>
    let capitals := String.ofList (Text.upperCase code.toList)
    if capitals.isEmpty then none else some capitals

def of (settings : Settings) (locale : LocaleRef) (currency : Option String)
    (rounding : RoundingMode) : Request :=
  ⟨locale.normalized, currencyKey currency, rounding, settings.defaultDigits⟩

variable (request : Request) (data : LocaleData)

/-- The digits of the currency; without one, those of the currency of the territory. -/
def fractionDigits (territory? : Option String) : Nat :=
  match request.currency with
  | some code => data.currencyDigits code
  | none => (territory?.bind data.territoryDigits?).getD request.defaultDigits

/-- The style is western where the locale is not known or its separators are of no use. -/
def style : NumeralStyle :=
  match data.parse request.localeId with
  | .error _ =>
    western (if request.localeId.isEmpty then "und" else request.localeId)
      (request.fractionDigits data none) request.rounding
  | .ok locale =>
    let places := request.fractionDigits data locale.territory?
    match locale.conventions? with
    | none => western request.localeId places request.rounding
    | some conventions => ofConventions locale.id conventions places request.rounding

/-- What there is to tell about a request that is worked out. -/
def notices : List Notice :=
  match data.parse request.localeId with
  | .error error => [.localeFallback request.localeId error]
  | .ok locale =>
    match locale.conventions? with
    | none => [.separatorsFallback request.localeId locale.point locale.group]
    | some _ => []

end Request

/-- The styles of the latest requests, the latest first. -/
structure Cache (data : LocaleData) where
  entries : List (Request × NumeralStyle)
  coherent : ∀ entry ∈ entries, entry.2 = entry.1.style data

namespace Cache

variable {data : LocaleData}

def capacity : Nat := 256

theorem coherent_nil :
    ∀ entry ∈ ([] : List (Request × NumeralStyle)), entry.2 = entry.1.style data := by
  simp

def empty : Cache data := ⟨[], coherent_nil⟩

theorem style_of_lookup (cache : Cache data) {request : Request} {style : NumeralStyle}
    (found : cache.entries.lookup request = some style) : style = request.style data := by
  obtain ⟨front, back, split, _⟩ := List.lookup_eq_some_iff.mp found
  exact cache.coherent (request, style) (by simp [split])

/-- Puts a request in front, behind which the oldest ones fall out. -/
def hold (cache : Cache data) (request : Request) (style : NumeralStyle)
    (same : style = request.style data) : Cache data where
  entries := ((request, style) :: cache.entries.filter (·.1 != request)).take capacity
  coherent := by
    intro entry member
    rcases List.mem_cons.mp (List.mem_of_mem_take member) with rfl | older
    · exact same
    · exact cache.coherent entry (List.mem_filter.mp older).1

/-- The style for a request, and a notice if it is worked out without the conventions of a locale. -/
def resolve (cache : Cache data) (request : Request) : NumeralStyle × List Notice × Cache data :=
  match found : cache.entries.lookup request with
  | some style => (style, [], cache.hold request style (cache.style_of_lookup found))
  | none => (request.style data, request.notices data, cache.hold request (request.style data) rfl)

@[simp] theorem resolve_style (cache : Cache data) (request : Request) :
    (cache.resolve request).1 = request.style data := by
  unfold resolve
  split
  · exact cache.style_of_lookup ‹_›
  · rfl

/-- The style for a locale and a currency, under a mode given by name. -/
def ask (cache : Cache data) (settings : Settings) (locale : LocaleRef)
    (currency : Option String) (rounding : String) :
    Except UnknownRoundingMode NumeralStyle × List Notice × Cache data :=
  match settings.roundingFor rounding with
  | .error unknown => (.error unknown, [], cache)
  | .ok mode =>
    let (style, notices, cache) := cache.resolve (.of settings locale currency mode)
    (.ok style, notices, cache)

end Cache

end NumeralStyle

end MonetaryText
