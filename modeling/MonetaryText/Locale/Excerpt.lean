import MonetaryText.Locale.Data
import MonetaryText.Locale.Excerpt.Currencies
import MonetaryText.Locale.Excerpt.Identifier

/-!
An excerpt of what is known of locales and currencies, enough to work with.
-/

namespace MonetaryText

namespace Excerpt

/-- Every code has two fraction digits unless the table says otherwise. -/
def currencyDigits (code : String) : Nat :=
  ((codesByDigits.find? fun row => row.2.contains code).map (·.1)).getD 2

/-- The symbol of a currency in a locale; the code itself where no symbol is known. -/
def currencySymbol (code : String) (locale : Locale) : String :=
  (((symbolsByLocale.lookup locale.id).getD []).lookup code).getD code

end Excerpt

def LocaleData.excerpt : LocaleData where
  parse id := (Excerpt.parse id).mapError Excerpt.IdentifierError.message
  currencyDigits := Excerpt.currencyDigits
  territoryCurrencies territory := (Excerpt.currenciesByTerritory.lookup territory).getD []
  currencySymbol := Excerpt.currencySymbol
  currencies := Excerpt.currencies

end MonetaryText
