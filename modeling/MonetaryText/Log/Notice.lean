import MonetaryText.Decimal.Basic
import MonetaryText.Log.Record

/-!
What the library itself has to tell while it works.
-/

namespace MonetaryText

inductive Notice where
  /-- A locale is not known. -/
  | localeFallback (localeId error : String)
  /-- The separators of a locale are of no use. -/
  | separatorsFallback (localeId : String) (point group : Text)
  | amountInvalid (code message locale : String) (calculable : Bool)
  | amountEvaluated (locale : String) (amount : Extended) (text : Text)
      (currency : Option String)
  deriving DecidableEq, Repr

/-- The event that a notice is logged as. -/
def Notice.event : Notice → Log.Event
  | localeFallback localeId error =>
    ⟨.info, "locale_profile_fallback",
      [("locale", .text localeId), ("error", .text error)]⟩
  | separatorsFallback localeId point group =>
    ⟨.info, "locale_profile_fallback",
      [("locale", .text localeId), ("decimal_separator", .text (String.ofList point)),
        ("group_separator", .text (String.ofList group))]⟩
  | amountInvalid code message locale calculable =>
    ⟨.info, "amount_invalid",
      [("code", .text code), ("error", .text message), ("locale", .text locale),
        ("calculable", .flag calculable)]⟩
  | amountEvaluated locale amount text currency =>
    ⟨.debug, "amount_evaluated",
      [("locale", .text locale), ("amount", .decimal amount.toNumber),
        ("text", .text (String.ofList text)),
        ("currency", (currency.map Log.Value.text).getD .null)]⟩

end MonetaryText
