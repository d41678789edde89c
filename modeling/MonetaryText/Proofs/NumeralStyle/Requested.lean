import MonetaryText.Money
import MonetaryText.NumeralStyle.Cache
import MonetaryText.Proofs.Amount.Layout

/-!
Styles that are asked for by locale and currency. What is known of locales and currencies comes from
outside; as long as no separator is a digit or a sign and no currency has many fraction digits, every such
style is a conventional one (`Request.isConventional_style`). A currency decides on the fraction digits
and on nothing else (`Request.style_exchanged`), and where there is one, the locale has no say in them.
-/

namespace MonetaryText

/-- What is expected of locales and currencies. -/
structure LocaleData.IsConventional (data : LocaleData) : Prop where
  apart : ∀ id locale, data.parse id = .ok locale → ∀ c ∈ locale.point ++ locale.group,
    c.isDigit = false ∧ c ∉ ['+', '-', '\u2012', '\u2013', '\u2212']
  few_digits : ∀ code, data.currencyDigits code ≤ 10

/-! ### Currency codes -/

theorem Text.isUpper_iff {c : Char} : c.isUpper = true ↔ 'A' ≤ c ∧ c ≤ 'Z' :=
  decide_eq_true_iff

theorem Text.capital_of_isUpper {c : Char} (upper : c.isUpper = true) : capital c = [c] := by
  have letters : ∀ n ≤ 90, 65 ≤ n → capital (Char.ofNat n) = [Char.ofNat n] := by
    decide +kernel
  obtain ⟨least, greatest⟩ := isUpper_iff.mp upper
  have known := letters c.toNat (UInt32.le_iff_toNat_le.mp greatest)
    (UInt32.le_iff_toNat_le.mp least)
  rwa [Char.ofNat_toNat] at known

theorem Text.upperCase_of_isUpper {text : Text} (upper : ∀ c ∈ text, c.isUpper = true) :
    upperCase text = text := by
  induction text with
  | nil => rfl
  | cons c rest ih =>
    have first := capital_of_isUpper (upper c List.mem_cons_self)
    have others := ih fun d member => upper d (List.mem_cons_of_mem c member)
    simp only [upperCase, List.flatMap_cons] at others ⊢
    rw [first, others]
    rfl

theorem Currency.isCode_iff {code : String} :
    isCode code = true ↔ code.length = 3 ∧ ∀ c ∈ code.toList, 'A' ≤ c ∧ c ≤ 'Z' := by
  simp [isCode, Text.isUpper_iff]

theorem Currency.ne_empty_of_isCode {code : String} (known : isCode code = true) : code ≠ "" := by
  rintro rfl
  obtain ⟨three, _⟩ := isCode_iff.mp known
  cases three

/-! ### Styles -/

namespace NumeralStyle

/-- Neither the identifier nor the lengths of the groups nor the rounding matter. -/
theorem isConventional_ofConventions {conventions : Conventions}
    (apart : ∀ c ∈ [conventions.point, conventions.group],
      c.isDigit = false ∧ c ∉ ['+', '-', '\u2012', '\u2013', '\u2212'])
    {places : Nat} (few : places ≤ 10) (id : String) (rounding : RoundingMode) :
    (ofConventions id conventions places rounding).IsConventional := by
  have blanks : ∀ c ∈ Separator.blanks,
      c.isDigit = false ∧ c ∉ ['+', '-', '\u2012', '\u2013', '\u2212'] :=
    Text.forall_mem_of_all (by decide)
  have single : ∀ group ∈ Separator.recognised conventions.group, ∃ c, group = [c] := by
    unfold Separator.recognised
    split <;> simp
  refine ⟨fun group member => ?_, fun c member => ?_, few⟩
  · obtain ⟨c, rfl⟩ := single group member
    rfl
  · rcases List.mem_cons.mp member with rfl | grouping
    · exact apart _ List.mem_cons_self
    · obtain ⟨group, recognised, within⟩ := List.mem_flatten.mp grouping
      obtain ⟨d, rfl⟩ := single group recognised
      obtain rfl := List.mem_singleton.mp within
      rcases Separator.eq_or_mem_blanks recognised with rfl | blank
      · exact apart _ (by simp)
      · exact blanks c blank

namespace Request

variable {data : LocaleData}

theorem fractionDigits_le (conventional : data.IsConventional) {request : Request}
    (few : request.defaultDigits ≤ 10) (territory? : Option String) :
    request.fractionDigits data territory? ≤ 10 := by
  unfold fractionDigits
  cases request.currency with
  | some code => exact conventional.few_digits code
  | none =>
    cases known : territory?.bind data.territoryDigits? with
    | none => exact few
    | some places =>
      obtain ⟨territory, _, found⟩ := Option.bind_eq_some_iff.mp known
      obtain ⟨code, _, rfl⟩ := Option.map_eq_some_iff.mp found
      exact conventional.few_digits code

/-- The locale decides on everything but the fraction digits and the rounding. -/
theorem exists_style (data : LocaleData) (localeId : String) :
    ∃ id conventions territory?,
      (∀ request : Request, request.localeId = localeId → request.style data =
        ofConventions id conventions (request.fractionDigits data territory?) request.rounding) ∧
      (conventions = .western ∨
        ∃ locale, data.parse localeId = .ok locale ∧ locale.conventions? = some conventions) := by
  cases parsed : data.parse localeId with
  | error message =>
    refine ⟨if localeId.isEmpty then "und" else localeId, .western, none, ?_, .inl rfl⟩
    rintro request rfl
    simp only [style, parsed, western]
  | ok locale =>
    cases usable : locale.conventions? with
    | none =>
      refine ⟨localeId, .western, locale.territory?, ?_, .inl rfl⟩
      rintro request rfl
      simp only [style, parsed, usable, western]
    | some conventions =>
      refine ⟨locale.id, conventions, locale.territory?, ?_, .inr ⟨locale, rfl, usable⟩⟩
      rintro request rfl
      simp only [style, parsed, usable]

/-- Whatever locale, currency and mode are asked for under whatever settings. -/
theorem isConventional_style (conventional : data.IsConventional) (settings : Settings)
    (locale : LocaleRef) (currency : Option String) (rounding : RoundingMode) :
    ((of settings locale currency rounding).style data).IsConventional := by
  have few : (of settings locale currency rounding).defaultDigits ≤ 10 := settings.defaultDigits_le
  generalize of settings locale currency rounding = request at *
  obtain ⟨id, conventions, territory?, style, origin⟩ := exists_style data request.localeId
  rw [style request rfl]
  refine isConventional_ofConventions ?_ (fractionDigits_le conventional few territory?) id _
  rcases origin with rfl | ⟨locale, parsed, usable⟩
  · exact Text.forall_mem_of_all (by decide)
  · have apart := conventional.apart _ _ parsed
    obtain ⟨point, group⟩ := Locale.separators_of_conventions? usable
    rwa [point, group] at apart

/-- A code is in capitals already. -/
theorem currencyKey_of_isCode {code : String} (known : Currency.isCode code = true) :
    currencyKey (some code) = some code := by
  have upper : ∀ c ∈ code.toList, c.isUpper = true := by
    simp only [Currency.isCode, Bool.and_eq_true, List.all_eq_true] at known
    exact known.2
  simp [currencyKey, Text.upperCase_of_isUpper upper, Currency.ne_empty_of_isCode known]

variable (data)

theorem style_exchanged (request : Request) (currency : Option String) :
    ({ request with currency }).style data =
      { request.style data with
        fractionDigits := (({ request with currency }).style data).fractionDigits } := by
  obtain ⟨_, _, _, style, _⟩ := exists_style data request.localeId
  rw [style request rfl, style { request with currency } rfl]
  rfl

theorem rounding_style (request : Request) : (request.style data).rounding = request.rounding := by
  obtain ⟨_, _, _, style, _⟩ := exists_style data request.localeId
  rw [style request rfl]
  rfl

theorem fractionDigits_style {request : Request} {code : String}
    (given : request.currency = some code) :
    (request.style data).fractionDigits = data.currencyDigits code := by
  obtain ⟨_, _, _, style, _⟩ := exists_style data request.localeId
  rw [style request rfl]
  simp [ofConventions, fractionDigits, given]

end Request

end NumeralStyle

end MonetaryText
