import MonetaryText.Locale.Basic

/-!
Some locales, the identifiers that stand for others, and the currencies of the territories.
-/

namespace MonetaryText.Excerpt

/-- Locales in order of their canonical identifiers. -/
def locales : List Locale :=
  [
    { id := "af_ZA", territory? := some "ZA", point := [','], group := ['\u00a0'] },
    { id := "ar", point := ['.'], group := [','] },
    { id := "ar_BH", territory? := some "BH", point := ['.'], group := [','] },
    { id := "ar_EG", territory? := some "EG", point := ['.'], group := [','] },
    { id := "ar_KW", territory? := some "KW", point := ['.'], group := [','] },
    { id := "az_Latn_AZ", territory? := some "AZ", point := [','], group := ['.'] },
    { id := "bn_BD", territory? := some "BD", point := ['.'], group := [','],
      grouping? := some (3, 2) },
    { id := "ca_ES_VALENCIA", territory? := some "ES", point := [','], group := ['.'] },
    { id := "ckb_IQ", territory? := some "IQ", point := ['.'], group := [','] },
    { id := "cs_CZ", territory? := some "CZ", point := [','], group := ['\u00a0'] },
    { id := "da_DK", territory? := some "DK", point := [','], group := ['.'] },
    { id := "de", point := [','], group := ['.'] },
    { id := "de_AT", territory? := some "AT", point := [','], group := ['.'] },
    { id := "de_CH", territory? := some "CH", point := ['.'], group := ['\u2019'] },
    { id := "de_DE", territory? := some "DE", point := [','], group := ['.'] },
    { id := "de_LI", territory? := some "LI", point := ['.'], group := ['\u2019'] },
    { id := "dz_BT", territory? := some "BT", point := ['.'], group := [','],
      grouping? := some (3, 2) },
    { id := "el_GR", territory? := some "GR", point := [','], group := ['.'] },
    { id := "en", point := ['.'], group := [','] },
    { id := "en_150", territory? := some "150", point := ['.'], group := [','] },
    { id := "en_AU", territory? := some "AU", point := ['.'], group := [','] },
    { id := "en_CA", territory? := some "CA", point := ['.'], group := [','] },
    { id := "en_CH", territory? := some "CH", point := ['.'], group := ['\u2019'] },
    { id := "en_GB", territory? := some "GB", point := ['.'], group := [','] },
    { id := "en_IN", territory? := some "IN", point := ['.'], group := [','],
      grouping? := some (3, 2) },
    { id := "en_US", territory? := some "US", point := ['.'], group := [','] },
    { id := "en_US_POSIX", territory? := some "US", point := ['.'], group := [','],
      grouping? := some (1000, 1000) },
    { id := "en_ZA", territory? := some "ZA", point := [','], group := ['\u00a0'] },
    { id := "es_419", territory? := some "419", point := ['.'], group := [','] },
    { id := "es_AR", territory? := some "AR", point := [','], group := ['.'] },
    { id := "es_CL", territory? := some "CL", point := [','], group := ['.'] },
    { id := "es_CR", territory? := some "CR", point := [','], group := ['\u00a0'] },
    { id := "es_ES", territory? := some "ES", point := [','], group := ['.'] },
    { id := "es_MX", territory? := some "MX", point := ['.'], group := [','] },
    { id := "et_EE", territory? := some "EE", point := [','], group := ['\u00a0'] },
    { id := "fa_IR", territory? := some "IR", point := ['.'], group := [','] },
    { id := "ff_Adlm_GN", territory? := some "GN", point := ['.'], group := ['\u2e41'] },
    { id := "fi_FI", territory? := some "FI", point := [','], group := ['\u00a0'] },
    { id := "fil_PH", territory? := some "PH", point := ['.'], group := [','] },
    { id := "fr_CA", territory? := some "CA", point := [','], group := ['\u00a0'] },
    { id := "fr_CH", territory? := some "CH", point := [','], group := ['\u202f'] },
    { id := "fr_FR", territory? := some "FR", point := [','], group := ['\u202f'] },
    { id := "gsw_CH", territory? := some "CH", point := ['.'], group := ['\u2019'] },
    { id := "gu_IN", territory? := some "IN", point := ['.'], group := [','],
      grouping? := some (3, 2) },
    { id := "he_IL", territory? := some "IL", point := ['.'], group := [','] },
    { id := "hi_IN", territory? := some "IN", point := ['.'], group := [','],
      grouping? := some (3, 2) },
    { id := "hu_HU", territory? := some "HU", point := [','], group := ['\u00a0'] },
    { id := "hy_AM", territory? := some "AM", point := [','], group := ['\u00a0'] },
    { id := "id_ID", territory? := some "ID", point := [','], group := ['.'] },
    { id := "is_IS", territory? := some "IS", point := [','], group := ['.'] },
    { id := "it_CH", territory? := some "CH", point := ['.'], group := ['\u2019'] },
    { id := "it_IT", territory? := some "IT", point := [','], group := ['.'] },
    { id := "ja", point := ['.'], group := [','] },
    { id := "ja_JP", territory? := some "JP", point := ['.'], group := [','] },
    { id := "ka_GE", territory? := some "GE", point := [','], group := ['\u00a0'] },
    { id := "kn_IN", territory? := some "IN", point := ['.'], group := [','] },
    { id := "ko_KR", territory? := some "KR", point := ['.'], group := [','] },
    { id := "ks_Arab_IN", territory? := some "IN", point := ['.'], group := ['\u060c'] },
    { id := "lo_LA", territory? := some "LA", point := [','], group := ['.'] },
    { id := "mfe_MU", territory? := some "MU", point := ['.'], group := ['\u00a0'] },
    { id := "mn_MN", territory? := some "MN", point := ['.'], group := [','] },
    { id := "mr_IN", territory? := some "IN", point := ['.'], group := [','],
      grouping? := some (3, 2) },
    { id := "my_MM", territory? := some "MM", point := ['.'], group := [','] },
    { id := "nb_NO", territory? := some "NO", point := [','], group := ['\u00a0'] },
    { id := "ne_NP", territory? := some "NP", point := ['.'], group := [','],
      grouping? := some (3, 2) },
    { id := "nl_NL", territory? := some "NL", point := [','], group := ['.'] },
    { id := "no", point := [','], group := ['\u00a0'] },
    { id := "pa_Guru_IN", territory? := some "IN", point := ['.'], group := [','],
      grouping? := some (3, 2) },
    { id := "pl_PL", territory? := some "PL", point := [','], group := ['\u00a0'] },
    { id := "ps_AF", territory? := some "AF", point := [','], group := ['.'] },
    { id := "pt_BR", territory? := some "BR", point := [','], group := ['.'] },
    { id := "pt_PT", territory? := some "PT", point := [','], group := ['\u00a0'] },
    { id := "root", point := ['.'], group := [','] },
    { id := "ru_RU", territory? := some "RU", point := [','], group := ['\u00a0'] },
    { id := "sr_Cyrl_RS", territory? := some "RS", point := [','], group := ['.'] },
    { id := "sr_Latn_RS", territory? := some "RS", point := [','], group := ['.'] },
    { id := "sv_SE", territory? := some "SE", point := [','], group := ['\u00a0'] },
    { id := "ta_IN", territory? := some "IN", point := ['.'], group := [','],
      grouping? := some (3, 2) },
    { id := "th_TH", territory? := some "TH", point := ['.'], group := [','] },
    { id := "tok", point := [','], group := ['\u00a0'], grouping? := some (2, 2) },
    { id := "tok_001", territory? := some "001", point := [','], group := ['\u00a0'],
      grouping? := some (2, 2) },
    { id := "tr_TR", territory? := some "TR", point := [','], group := ['.'] },
    { id := "uk_UA", territory? := some "UA", point := [','], group := ['\u00a0'] },
    { id := "ur_PK", territory? := some "PK", point := ['.'], group := [','] },
    { id := "uz_Arab_AF", territory? := some "AF", point := [','], group := ['.'] },
    { id := "vi_VN", territory? := some "VN", point := [','], group := ['.'] },
    { id := "yue_Hant_HK", territory? := some "HK", point := ['.'], group := [','] },
    { id := "zh", point := ['.'], group := [','] },
    { id := "zh_Hans_CN", territory? := some "CN", point := ['.'], group := [','] },
    { id := "zh_Hant", point := ['.'], group := [','] },
    { id := "zh_Hant_TW", territory? := some "TW", point := ['.'], group := [','] }
  ]

/-- Identifiers whose most likely full form is another one. -/
def likelyForms : List (String × String) :=
  [
    ("az_AZ", "az_Latn_AZ"), ("de_DE_1996", "de_DE"), ("en_Latn_US", "en_US"), ("iw", "he_IL"),
    ("ks_IN", "ks_Arab_IN"), ("pa_IN", "pa_Guru_IN"), ("sr_RS", "sr_Cyrl_RS"),
    ("tl_PH", "fil_PH"), ("und", "en_US"), ("uz_AF", "uz_Arab_AF"), ("yue_HK", "yue_Hant_HK"),
    ("zh_CN", "zh_Hans_CN"), ("zh_TW", "zh_Hant_TW")
  ]

/-- The currencies of territories, the current one first. -/
def currenciesByTerritory : List (String × List String) :=
  [
    ("AF", ["AFN"]), ("AM", ["AMD"]), ("AR", ["ARS"]), ("AT", ["EUR"]), ("AU", ["AUD"]),
    ("AZ", ["AZN"]), ("BD", ["BDT"]), ("BH", ["BHD"]), ("BR", ["BRL"]), ("BT", ["INR", "BTN"]),
    ("CA", ["CAD"]), ("CH", ["CHF"]), ("CL", ["CLP"]), ("CN", ["CNY"]), ("CR", ["CRC"]),
    ("CZ", ["CZK"]), ("DE", ["EUR"]), ("DK", ["DKK"]), ("EE", ["EUR"]), ("EG", ["EGP"]),
    ("ES", ["EUR"]), ("FI", ["EUR"]), ("FR", ["EUR"]), ("GB", ["GBP"]), ("GE", ["GEL"]),
    ("GN", ["GNF"]), ("GR", ["EUR"]), ("HK", ["HKD"]), ("HU", ["HUF"]), ("ID", ["IDR"]),
    ("IL", ["ILS"]), ("IN", ["INR"]), ("IQ", ["IQD"]), ("IR", ["IRR"]), ("IS", ["ISK"]),
    ("IT", ["EUR"]), ("JP", ["JPY"]), ("KR", ["KRW"]), ("KW", ["KWD"]), ("LA", ["LAK"]),
    ("LI", ["CHF"]), ("MM", ["MMK"]), ("MN", ["MNT"]), ("MU", ["MUR"]), ("MX", ["MXN"]),
    ("NL", ["EUR"]), ("NO", ["NOK"]), ("NP", ["NPR"]), ("PH", ["PHP"]), ("PK", ["PKR"]),
    ("PL", ["PLN"]), ("PT", ["EUR"]), ("RS", ["RSD"]), ("RU", ["RUB"]), ("SE", ["SEK"]),
    ("TH", ["THB"]), ("TR", ["TRY"]), ("TW", ["TWD"]), ("UA", ["UAH"]), ("US", ["USD"]),
    ("VN", ["VND"]), ("ZA", ["ZAR"])
  ]

end MonetaryText.Excerpt
