import MonetaryText.Locale.Excerpt
import MonetaryText.Proofs.NumeralStyle.Requested
import MonetaryText.Proofs.Outcome

/-!
The locales and currencies of the excerpt are as expected: their separators are neither digits nor signs,
and they have few fraction digits.
-/

namespace MonetaryText

namespace Excerpt

/-- What is parsed is a row of the table, up to its identifier. -/
theorem exists_row_of_parse {id : String} {locale : Locale} (parsed : parse id = .ok locale) :
    ∃ row ∈ locales, locale.point = row.point ∧ locale.group = row.group := by
  unfold parse at parsed
  split at parsed
  · cases parsed
  · simp only at parsed
    obtain ⟨tags, _, parsed⟩ := Outcome.bind_eq_ok_iff.mp parsed
    split at parsed
    · rename_i row found
      cases parsed
      exact ⟨row, List.mem_of_find?_eq_some found, rfl, rfl⟩
    · cases parsed

theorem currencyDigits_le (code : String) : currencyDigits code ≤ 10 := by
  have rows : ∀ row ∈ codesByDigits, row.1 ≤ 10 := by decide
  unfold currencyDigits
  cases found : codesByDigits.find? fun row => row.2.contains code with
  | none => decide
  | some row => exact rows row (List.mem_of_find?_eq_some found)

end Excerpt

theorem LocaleData.excerpt_isConventional : excerpt.IsConventional where
  apart id locale parsed := by
    have rows : Excerpt.locales.all (fun row => (row.point ++ row.group).all fun c =>
        c.isDigit = false ∧ c ∉ ['+', '-', '\u2012', '\u2013', '\u2212']) = true := by decide +kernel
    obtain ⟨row, member, point, group⟩ :=
      Excerpt.exists_row_of_parse (Outcome.mapError_eq_ok_iff.mp parsed)
    rw [point, group]
    exact Text.forall_mem_of_all (List.all_eq_true.mp rows row member)
  few_digits := Excerpt.currencyDigits_le

end MonetaryText
