import MonetaryText.Locale.Basic

/-!
What is known of locales and currencies all over the world. It comes from outside, so that everything
that depends on it takes it as a parameter.
-/

namespace MonetaryText

structure LocaleData where
  /-- The locale that an identifier names, or a message why it names none. -/
  parse : String → Except String Locale
  /-- The fraction digits of a currency. -/
  currencyDigits : String → Nat
  /-- The currencies of a territory, the one that counts first. -/
  territoryCurrencies : String → List String
  /-- The symbol that a locale writes for a currency. -/
  currencySymbol : String → Locale → String
  /-- The codes of all currencies, in any order. -/
  currencies : List String

namespace LocaleData

variable (data : LocaleData)

def territoryDigits? (territory : String) : Option Nat :=
  (data.territoryCurrencies territory).head?.map data.currencyDigits

/-- The symbol of a currency; the code itself where the locale is not known. -/
def symbol (code : String) (locale : LocaleRef) : String :=
  match data.parse locale.normalized with
  | .error _ => code
  | .ok locale => data.currencySymbol code locale

/-- All codes in alphabetical order. -/
def availableCodes : List String :=
  data.currencies.mergeSort fun first second => Text.precedes first.toList second.toList

end LocaleData

end MonetaryText
