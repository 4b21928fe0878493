/-! # Currencies

The currency codes that amounts may carry: the ISO 4217 codes current when the list was
drawn up, together with withdrawn, historic and unofficial ones (the offshore yuan, the
European currency unit, the lira and mark before the euro, the Isle of Man pound, the Tuvalu
dollar). Codes issued later, such as the Zimbabwe gold or the Caribbean guilder, are not
known. Each has a number of minor-unit
digits from the same data: two unless listed otherwise, so an unknown code also has two. -/
namespace Billing.Currency

/-- The accepted currency codes, in alphabetical order. -/
def codes : List String :=
  ["ADP", "AED", "AFA", "AFN", "ALK", "ALL", "AMD", "ANG", "AOA", "AOK", "AON", "AOR", "ARA",
   "ARL", "ARM", "ARP", "ARS", "ATS", "AUD", "AWG", "AZM", "AZN", "BAD", "BAM", "BAN", "BBD",
   "BDT", "BEC", "BEF", "BEL", "BGL", "BGM", "BGN", "BGO", "BHD", "BIF", "BMD", "BND", "BOB",
   "BOL", "BOP", "BOV", "BRB", "BRC", "BRE", "BRL", "BRN", "BRR", "BRZ", "BSD", "BTN", "BUK",
   "BWP", "BYB", "BYN", "BYR", "BZD", "CAD", "CDF", "CHE", "CHF", "CHW", "CLE", "CLF", "CLP",
   "CNH", "CNX", "CNY", "COP", "COU", "CRC", "CSD", "CSK", "CUC", "CUP", "CVE", "CYP", "CZK",
   "DDM", "DEM", "DJF", "DKK", "DOP", "DZD", "ECS", "ECV", "EEK", "EGP", "ERN", "ESA", "ESB",
   "ESP", "ETB", "EUR", "FIM", "FJD", "FKP", "FRF", "GBP", "GEK", "GEL", "GHC", "GHS", "GIP",
   "GMD", "GNF", "GNS", "GQE", "GRD", "GTQ", "GWE", "GWP", "GYD", "HKD", "HNL", "HRD", "HRK",
   "HTG", "HUF", "IDR", "IEP", "ILP", "ILR", "ILS", "IMP", "INR", "IQD", "IRR", "ISJ", "ISK", "ITL",
   "JMD", "JOD", "JPY", "KES", "KGS", "KHR", "KMF", "KPW", "KRH", "KRO", "KRW", "KWD", "KYD",
   "KZT", "LAK", "LBP", "LKR", "LRD", "LSL", "LTL", "LTT", "LUC", "LUF", "LUL", "LVL", "LVR",
   "LYD", "MAD", "MAF", "MCF", "MDC", "MDL", "MGA", "MGF", "MKD", "MKN", "MLF", "MMK", "MNT",
   "MOP", "MRO", "MRU", "MTL", "MTP", "MUR", "MVP", "MVR", "MWK", "MXN", "MXP", "MXV", "MYR",
   "MZE", "MZM", "MZN", "NAD", "NGN", "NIC", "NIO", "NLG", "NOK", "NPR", "NZD", "OMR", "PAB",
   "PEI", "PEN", "PES", "PGK", "PHP", "PKR", "PLN", "PLZ", "PTE", "PYG", "QAR", "RHD", "ROL",
   "RON", "RSD", "RUB", "RUR", "RWF", "SAR", "SBD", "SCR", "SDD", "SDG", "SDP", "SEK", "SGD",
   "SHP", "SIT", "SKK", "SLE", "SLL", "SOS", "SRD", "SRG", "SSP", "STD", "STN", "SUR", "SVC",
   "SYP", "SZL", "THB", "TJR", "TJS", "TMM", "TMT", "TND", "TOP", "TPE", "TRL", "TRY", "TTD",
   "TVD", "TWD", "TZS", "UAH", "UAK", "UGS", "UGX", "USD", "USN", "USS", "UYI", "UYP", "UYU", "UYW",
   "UZS", "VEB", "VED", "VEF", "VES", "VND", "VNN", "VUV", "WST", "XAF", "XAG", "XAU", "XBA",
   "XBB", "XBC", "XBD", "XCD", "XDR", "XEU", "XFO", "XFU", "XOF", "XPD", "XPF", "XPT",
   "XRE", "XSU", "XTS", "XUA", "XXX", "YDD", "YER", "YUD", "YUM", "YUN", "YUR", "ZAL", "ZAR",
   "ZMK", "ZMW", "ZRN", "ZRZ", "ZWD", "ZWL", "ZWN", "ZWR"]

/-- Whether a code is an accepted currency code. -/
def isKnown (code : String) : Bool := codes.contains code

/-- Minor-unit digits that differ from two. -/
def digitsTable : List (String × Nat) :=
  [("ADP", 0), ("AFN", 0), ("ALL", 0), ("BHD", 3), ("BIF", 0), ("BYR", 0), ("CLF", 4),
   ("CLP", 0), ("DJF", 0), ("ESP", 0), ("GNF", 0), ("IQD", 0), ("IRR", 0), ("ISK", 0),
   ("ITL", 0), ("JOD", 3), ("JPY", 0), ("KMF", 0), ("KPW", 0), ("KRW", 0), ("KWD", 3),
   ("LAK", 0), ("LBP", 0), ("LUF", 0), ("LYD", 3), ("MGA", 0), ("MGF", 0), ("MMK", 0),
   ("MRO", 0), ("OMR", 3), ("PYG", 0), ("RSD", 0), ("RWF", 0), ("SLL", 0), ("SOS", 0),
   ("STD", 0), ("SYP", 0), ("TMM", 0), ("TND", 3), ("TRL", 0), ("UGX", 0), ("UYI", 0),
   ("UYW", 4), ("VND", 0), ("VUV", 0), ("XAF", 0), ("XOF", 0), ("XPF", 0), ("YER", 0),
   ("ZMK", 0), ("ZWD", 0)]

/-- The number of minor-unit digits of a currency: two unless the table says otherwise. -/
def precision (code : String) : Nat := (digitsTable.lookup code).getD 2

example : precision "USD" = 2 := by decide
example : precision "JPY" = 0 := by decide

end Billing.Currency
