/-!
Currencies: the known codes, the codes with other than two fraction digits, and the symbols that
locales write instead of a code.
-/

namespace MonetaryText.Excerpt

/-- All codes in alphabetical order. -/
def currencies : List String :=
  [
    "ADP", "AED", "AFA", "AFN", "ALK", "ALL", "AMD", "ANG", "AOA", "AOK", "AON", "AOR", "ARA",
    "ARL", "ARM", "ARP", "ARS", "ATS", "AUD", "AWG", "AZM", "AZN", "BAD", "BAM", "BAN", "BBD",
    "BDT", "BEC", "BEF", "BEL", "BGL", "BGM", "BGN", "BGO", "BHD", "BIF", "BMD", "BND", "BOB",
    "BOL", "BOP", "BOV", "BRB", "BRC", "BRE", "BRL", "BRN", "BRR", "BRZ", "BSD", "BTN", "BUK",
    "BWP", "BYB", "BYN", "BYR", "BZD", "CAD", "CDF", "CHE", "CHF", "CHW", "CLE", "CLF", "CLP",
    "CNH", "CNX", "CNY", "COP", "COU", "CRC", "CSD", "CSK", "CUC", "CUP", "CVE", "CYP", "CZK",
    "DDM", "DEM", "DJF", "DKK", "DOP", "DZD", "ECS", "ECV", "EEK", "EGP", "ERN", "ESA", "ESB",
    "ESP", "ETB", "EUR", "FIM", "FJD", "FKP", "FRF", "GBP", "GEK", "GEL", "GHC", "GHS", "GIP",
    "GMD", "GNF", "GNS", "GQE", "GRD", "GTQ", "GWE", "GWP", "GYD", "HKD", "HNL", "HRD", "HRK",
    "HTG", "HUF", "IDR", "IEP", "ILP", "ILR", "ILS", "INR", "IQD", "IRR", "ISJ", "ISK", "ITL",
    "JMD", "JOD", "JPY", "KES", "KGS", "KHR", "KMF", "KPW", "KRH", "KRO", "KRW", "KWD", "KYD",
    "KZT", "LAK", "LBP", "LKR", "LRD", "LSL", "LTL", "LTT", "LUC", "LUF", "LUL", "LVL", "LVR",
    "LYD", "MAD", "MAF", "MCF", "MDC", "MDL", "MGA", "MGF", "MKD", "MKN", "MLF", "MMK", "MNT",
    "MOP", "MRO", "MRU", "MTL", "MTP", "MUR", "MVP", "MVR", "MWK", "MXN", "MXP", "MXV", "MYR",
    "MZE", "MZM", "MZN", "NAD", "NGN", "NIC", "NIO", "NLG", "NOK", "NPR", "NZD", "OMR", "PAB",
    "PEI", "PEN", "PES", "PGK", "PHP", "PKR", "PLN", "PLZ", "PTE", "PYG", "QAR", "RHD", "ROL",
    "RON", "RSD", "RUB", "RUR", "RWF", "SAR", "SBD", "SCR", "SDD", "SDG", "SDP", "SEK", "SGD",
    "SHP", "SIT", "SKK", "SLE", "SLL", "SOS", "SRD", "SRG", "SSP", "STD", "STN", "SUR", "SVC",
    "SYP", "SZL", "THB", "TJR", "TJS", "TMM", "TMT", "TND", "TOP", "TPE", "TRL", "TRY", "TTD",
    "TWD", "TZS", "UAH", "UAK", "UGS", "UGX", "USD", "USN", "USS", "UYI", "UYP", "UYU", "UYW",
    "UZS", "VEB", "VED", "VEF", "VES", "VND", "VNN", "VUV", "WST", "XAF", "XAG", "XAU", "XBA",
    "XBB", "XBC", "XBD", "XCD", "XCG", "XDR", "XEU", "XFO", "XFU", "XOF", "XPD", "XPF", "XPT",
    "XRE", "XSU", "XTS", "XUA", "XXX", "YDD", "YER", "YUD", "YUM", "YUN", "YUR", "ZAL", "ZAR",
    "ZMK", "ZMW", "ZRN", "ZRZ", "ZWD", "ZWG", "ZWL", "ZWR"
  ]

/-- Codes by their number of fraction digits; every other code has two. -/
def codesByDigits : List (Nat × List String) :=
  [
    (0, [
      "ADP", "AFN", "ALL", "BIF", "BYR", "CLP", "DJF", "ESP", "GNF", "IQD", "IRR", "ISK", "ITL",
      "JPY", "KMF", "KPW", "KRW", "LAK", "LBP", "LUF", "MGA", "MGF", "MMK", "MRO", "PYG", "RSD",
      "RWF", "SLL", "SOS", "STD", "SYP", "TMM", "TRL", "UGX", "UYI", "VND", "VUV", "XAF", "XOF",
      "XPF", "YER", "ZMK", "ZWD"]),
    (3, [
      "BHD", "JOD", "KWD", "LYD", "OMR", "TND"]),
    (4, [
      "CLF", "UYW"])
  ]

/-- Symbols by canonical locale; a code that is not listed is its own symbol. -/
def symbolsByLocale : List (String × List (String × String)) :=
  [
    ("ar_KW", [
      ("EUR", "\u20ac"), ("JPY", "JP\u00a5"), ("KWD", "\u062f.\u0643.\u200f"), ("USD", "US$")]),
    ("de", [
      ("EUR", "\u20ac"), ("JPY", "\u00a5"), ("USD", "$")]),
    ("de_CH", [
      ("JPY", "\u00a5"), ("USD", "$")]),
    ("de_DE", [
      ("CAD", "CA$"), ("CNY", "CN\u00a5"), ("EUR", "\u20ac"), ("JPY", "\u00a5"), ("USD", "$")]),
    ("en_CA", [
      ("CNY", "CN\u00a5"), ("INR", "\u20b9"), ("USD", "US$")]),
    ("en_IN", [
      ("CAD", "CA$"), ("CNY", "CN\u00a5"), ("EUR", "\u20ac"), ("JPY", "JP\u00a5"), ("USD", "$")]),
    ("en_US", [
      ("CAD", "CA$"), ("CNY", "CN\u00a5"), ("EUR", "\u20ac"), ("GBP", "\u00a3"),
      ("INR", "\u20b9"), ("JPY", "\u00a5"), ("MXN", "MX$"), ("USD", "$")]),
    ("fr_CA", [
      ("JPY", "\u00a5"), ("USD", "$\u00a0US")]),
    ("fr_FR", [
      ("EUR", "\u20ac"), ("USD", "$US")]),
    ("hi_IN", [
      ("EUR", "\u20ac"), ("JPY", "JP\u00a5"), ("USD", "$")]),
    ("ja_JP", [
      ("CAD", "CA$"), ("EUR", "\u20ac"), ("JPY", "\uffe5")]),
    ("pl_PL", [
      ("EUR", "\u20ac"), ("PLN", "z\u0142")]),
    ("root", [
      ("CAD", "CA$"), ("CNY", "CN\u00a5"), ("EUR", "\u20ac"), ("INR", "\u20b9"),
      ("JPY", "JP\u00a5"), ("MXN", "MX$")]),
    ("tok", [
      ("EUR", "\u20ac"), ("JPY", "JP\u00a5"), ("USD", "US$")]),
    ("zh_Hans_CN", [
      ("EUR", "\u20ac")])
  ]

end MonetaryText.Excerpt
