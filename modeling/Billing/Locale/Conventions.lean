import Billing.Locale.Catalog

/-! # How locales write amounts of money

Each locale may set its decimal and group separators, its pattern for an amount of money
and its symbols for currencies; what it leaves out it takes from its parent, and the root
sets all but symbols for most currencies. A currency without a symbol anywhere in the
lineage is written by its code. The pattern is the standard currency pattern in Latin
digits: `¤` marks the symbol, `#,##0.00` the number, and an optional second pattern after
`;` the negative form. -/
namespace Billing.Locale

/-- What one locale sets itself for writing amounts of money. -/
structure Convention where
  name : String
  decimal : Option String
  group : Option String
  pattern : Option String
  symbols : List (String × String)

/-- The settings of the locales that set something themselves, a locale a line: its name,
its decimal separator, its group separator and its currency pattern, each left empty when
the locale does not set it, and then its currency symbols as `code=symbol` pairs separated
by tildes; the fields are separated by bars. -/
def conventionLines : List String :=
  ["root|.|,|¤\u00a0#,##0.00|AUD=A$~BRL=R$~CAD=CA$~CNY=CN¥~EUR=€~GBP=£~HKD=HK$~ILS=₪~INR=₹~JPY=JP¥~KRW=₩~MXN=MX$~NZD=NZ$~PHP=₱~TWD=NT$~USD=US$~VND=₫~XAF=FCFA~XCD=EC$~XOF=F\u202fCFA~XPF=CFPF~XXX=¤",
   "af|,|\u00a0|¤#,##0.00|CAD=CAD~MXN=MXN~PHP=PHP~THB=฿~USD=USD~ZAR=R",
   "af_NA||||NAD=$",
   "agq|,|\u00a0|#,##0.00¤|",
   "ak|||¤#,##0.00|GHS=GH₵~IQD=Irak dinaa~XOF=AAS",
   "am|||¤#,##0.00|AUD=AU$~ETB=ብር~PHP=PHP~THB=฿",
   "ar|||\u200f#,##0.00\u00a0¤;\u200f-#,##0.00\u00a0¤|AED=د.إ.\u200f~AUD=AU$~BHD=د.ب.\u200f~DZD=د.ج.\u200f~EGP=ج.م.\u200f~GBP=UK£~IQD=د.ع.\u200f~IRR=ر.إ.~JOD=د.أ.\u200f~KWD=د.ك.\u200f~LBP=ل.ل.\u200f~LYD=د.ل.\u200f~MAD=د.م.\u200f~MRU=أ.م.~OMR=ر.ع.\u200f~PHP=PHP~QAR=ر.ق.\u200f~SAR=ر.س.\u200f~SDD=د.س.~SDG=ج.س.~SYP=ل.س.\u200f~THB=฿~TND=د.ت.\u200f~YER=ر.ي.\u200f",
   "ar_DJ||||DJF=Fdj",
   "ar_DZ|,|.||",
   "ar_ER||||ERN=Nfk",
   "ar_KM||||KMF=CF",
   "ar_LB|,|.||SDG=SDG",
   "ar_LY|,|.||",
   "ar_MA|,|.||",
   "ar_MR|,|.||",
   "ar_SO||||SOS=S",
   "ar_SS||||GBP=GB£~SSP=£",
   "ar_TN|,|.||",
   "as|||¤\u00a0#,##,##0.00|PHP=PHP",
   "asa|||#,##0.00\u00a0¤|TZS=TSh",
   "ast|,|.|#,##0.00\u00a0¤|JPY=¥~PHP=PHP~THB=฿~USD=$~XXX=XXX",
   "az|,|.|#,##0.00\u00a0¤|AZN=₼~PHP=PHP~THB=฿",
   "az_Cyrl|||#,##0.00\u00a0¤|AZN=₼",
   "ba||\u00a0|#,##0.00\u00a0¤|RUR=р.~USD=$~XOF=F CFA",
   "bas|,|\u00a0|#,##0.00\u00a0¤|",
   "be|,|\u00a0|#,##0.00\u00a0¤|BRL=BRL~BYN=Br~CAD=CAD~JPY=¥~NZD=NZD~PHP=PHP~RUB=₽~USD=$",
   "bem|||¤#,##0.00|ZMW=K",
   "bez|||#,##0.00¤|TZS=TSh",
   "bg|,|\u00a0|#,##0.00\u00a0¤|AUD=AUD~BGN=лв.~BRL=BRL~CAD=CAD~CNY=CNY~GBP=GBP~HKD=HKD~ILS=ILS~INR=INR~JPY=JPY~KRW=KRW~MXN=MXN~NZD=NZD~PHP=PHP~TWD=TWD~USD=щ.д.~VND=VND~XCD=XCD",
   "bgn|٫|،||",
   "bho|||¤#,##0.00|",
   "blo|,|\u00a0|¤\u00a0#,##0.00;¤\u00a0-#,##0.00|",
   "bm|||¤#,##0.00|",
   "bn|||#,##,##0.00¤|BDT=৳~PHP=PHP~THB=฿",
   "bn_IN|||¤#,##,##0.00|USD=$",
   "bo||||CNY=¥",
   "bo_IN||||CNY=CN¥",
   "br|,|\u00a0|#,##0.00\u00a0¤|AUD=$A~BRL=BRL~CAD=$CA~CNY=CNY~GBP=£ RU~HKD=$ HK~ILS=ILS~JPY=JPY~KRW=KRW~NZD=$ ZN~PHP=PHP~TWD=TWD~USD=$ SU~VND=VND~XCD=XCD~XXX=XXX",
   "brx|||¤\u00a0#,##,##0.00|AED=ए.इ.दि~ALL=अल~AMD=ए.एम.दि~ANG=ए.एन.जि~AOA=ए.अ.ए~ARS=ए.आर.एस~AWG=ए.दब्ल्यु.जि~AZN=ए.जेत.एन~BAM=बि.ए.एम~BBD=बि.बि.दि~BGN=बि.जि.एन~BHD=बि.ऐत्स.दि~BIF=बि.आइ.एफ~BMD=बि.एम.डि~BOB=बि.अ.बि~BSD=बि.एस.दि~BWP=बि.दब्ल्यु.पि~BYN=बि.वाई.एन~BZD=बि.जेद.डि~CAD=सि.ए $~CDF=सि.दि.एफ~CHF=सि.ऐत्स.एफ~CLP=सि.एल.पि~CNH=सि.एन.ऐत्स~CNY=सिएन¥~COP=सि.अ.पि~CRC=सि.आर.सि~CUC=सि.इउ.सि~CUP=सि.इउ.पि~CVE=सि.भि.इ~CZK=सि.जेद.के~DJF=दि.जे.एफ~DKK=दि.के.के~DOP=डि.अ.पि~DZD=दि.जेत.दि~EGP=ई.जि.पि~ERN=इ.आर.एन~ETB=इ.ति.बि~FKP=एफ.के.पि~GEL=जि.इ.एल~GHS=जि.ऐत्स.एस~GIP=जि.आइ.पि~GMD=जि.एम.दि~GNF=जि.एन.एफ~GTQ=जि.ति.किउ~GYD=जि.वाई.दि~HKD=ऐत्स.के$~HNL=ऐत्स.एन.एल~HRK=ऐत्स.आर.के~HTG=ऐत्स.ति.जि~HUF=ऐत्स.इउ.एफ~IQD=आइ.किउ.दि~ISK=आई.एस.के~JMD=जे.एम.दि~JOD=जे.अ.दि~KES=के.इ.एस~KGS=के.जि.एस~KMF=के.एम.एफ~KPW=के.पि.दब्ल्यु~KWD=के.दब्ल्यु.दि~KYD=के.वाई.दि~KZT=के.जेत.ति~LBP=एल.बि.पि~LRD=एल.आर.दि~LSL=एल.एस.एल~LYD=एल.वाई.दि~MAD=एम.ए.दि~MDL=एम.डि.एल~MGA=एम.जि.ए~MKD=एम.के.दि~MNT=एम.एन.ति~MOP=एम.अ.पि~MRU=एम.आर.इउ~MUR=एम.इउ.आर~MWK=एम.दब्ल्यु.के~MXN=एम.एक्स $~MZN=एम.जेत.एन~NAD=एन.ए.दि~NGN=एन.जि.एन~NIO=एन.आई.अ~NOK=एन.अ.के~OMR=अ.एम.आर~PAB=पि.ए.बि~PEN=पि.इ.एन~PLN=पि.एल.एन~PYG=पि.आई.जि~QAR=किउ.ए.आर~RON=आर.अ.एन~RSD=आर.एस.दि~RUB=रूब~SAR=एस.ए.आर~SCR=एस.सि.आर~SDG=एस.दि.जि~SEK=एस.इ.के~SHP=एस.ऐत्स.पि~SLE=एस.एल.इ~SLL=एस.एल.एल~SOS=एस.अ.एस~SRD=एस.आर.डि~SSP=एस.एस.पि~STN=एस.ति.एन~SYP=एस.वाई.पि~SZL=एस.जेत.एल~TJS=ति.जे.एस~TMT=ति.एम.ति~TND=ति.एन.दि~TRY=ति.आर.वाई~TTD=ति.ति.डि~TWD=एन.ति$~TZS=ति.जेत.एस~UAH=इउ.ए.ऐत्स~UGX=इउ.जि.एक्स~USD=$~UYU=इउ.वाई.इउ~UZS=इउ.जेत.एस~VES=भि.इ.एस~XCD=इ.सि $~YER=वाई.इ.आर~ZAR=जेत.ए.आर",
   "bs|,|.|#,##0.00\u00a0¤|AUD=AUD~BAM=KM~BRL=BRL~CAD=CAD~CNY=CNY~GBP=GBP~HKD=HKD~HRK=kn~ILS=ILS~JPY=¥~MXN=MXN~NZD=NZD~PHP=PHP~RSD=din.~THB=฿~USD=USD~XCD=XCD~XPF=XPF",
   "bs_Cyrl|,|.|#,##0.00\u00a0¤|BAM=КМ~CZK=Кч~JPY=¥~PLN=зл~RSD=дин.~TRY=Тл",
   "ca|,|.|#,##0.00\u00a0¤|AUD=AU$~BRL=BRL~CAD=CAD~CNY=CNY~ESP=₧~JPY=¥~MXN=MXN~PHP=PHP~THB=฿~USD=USD~XCD=XCD~XXX=XXX",
   "ca_FR||||FRF=F",
   "ccp|||#,##,##0.00¤|BDT=৳~PHP=PHP~THB=฿",
   "ce|||#,##0.00\u00a0¤|PHP=PHP~RUB=₽",
   "ceb|||¤#,##0.00|USD=US $",
   "cgg|||¤#,##0.00|UGX=USh",
   "chr|||¤#,##0.00|PHP=PHP~USD=$",
   "ckb||||IQD=د.ع.",
   "cs|,|\u00a0|#,##0.00\u00a0¤|AUD=AU$~CSK=Kčs~CZK=Kč~ILS=ILS~INR=INR~PHP=PHP~VND=VND~XEU=ECU~XXX=XXX",
   "cv|,|\u00a0|#,##0.00\u00a0¤|RUB=₽~USD=$",
   "cy|||¤#,##0.00|KRW=KRW~PHP=PHP~THB=฿~XXX=XXX",
   "da|,|.|#,##0.00\u00a0¤|AUD=AU$~DKK=kr.~PHP=PHP~THB=฿",
   "dav|||¤#,##0.00|KES=Ksh",
   "de|,|.|#,##0.00\u00a0¤|ATS=öS~AUD=AU$~BGM=BGK~BGO=BGJ~JPY=¥~PHP=PHP~THB=฿~USD=$~XXX=XXX",
   "de_AT|||¤\u00a0#,##0.00|",
   "de_CH|.|’|¤\u00a0#,##0.00;¤-#,##0.00|EUR=EUR",
   "de_LI|.|’|¤\u00a0#,##0.00|EUR=EUR",
   "de_LU||||LUF=F",
   "dje||\u00a0|#,##0.00¤|",
   "doi|||¤#,##0.00|JPY=¥~USD=$",
   "dsb|,|.|#,##0.00\u00a0¤|AUD=AUD~JPY=¥~PLN=zł~THB=฿~USD=$",
   "dua|,|\u00a0|#,##0.00\u00a0¤|",
   "dyo|,|\u00a0|#,##0.00\u00a0¤|",
   "dz|||¤#,##,##0.00|AUD=AU$~BTN=Nu.~ILS=ILS~KRW=KR₩~THB=TH฿~XAF=XAF",
   "ebu|||¤#,##0.00|KES=Ksh",
   "ee|||¤#,##0.00|AUD=AU$~GHS=GH₵~THB=฿",
   "el|,|.|#,##0.00\u00a0¤|GRD=Δρχ~PHP=PHP~THB=฿~USD=$",
   "en|||¤#,##0.00|JPY=¥~USD=$",
   "en_001||||JPY=JP¥~USD=US$",
   "en_150|||#,##0.00\u00a0¤|",
   "en_AE||||JPY=¥~USD=$",
   "en_AG||||XCD=$",
   "en_AI||||XCD=$",
   "en_AT|,|.|¤\u00a0#,##0.00|",
   "en_AU||||AUD=$~BRL=BRL~CAD=CAD~CNY=CNY~EUR=EUR~GBP=GBP~HKD=HKD~ILS=ILS~INR=INR~JPY=JPY~KRW=KRW~MXN=MXN~NZD=NZD~PHP=PHP~SCR=Rs~TWD=TWD~USD=USD~VND=VND~XAF=XAF~XCD=XCD~XOF=XOF~XPF=CFP",
   "en_BB||||BBD=$",
   "en_BE|||¤#,##0.00|",
   "en_BI||||BIF=FBu",
   "en_BM||||BMD=$",
   "en_BS||||BSD=$",
   "en_BW||||BWP=P",
   "en_BZ||||BZD=$",
   "en_CA||||CAD=$",
   "en_CC||||AUD=$",
   "en_CH||’|¤\u00a0#,##0.00;¤-#,##0.00|",
   "en_CK||||NZD=$",
   "en_CX||||AUD=$",
   "en_CZ|,|\u00a0||",
   "en_DE|||¤#,##0.00|",
   "en_DK|,|.||DKK=kr.",
   "en_DM||||XCD=$",
   "en_EE|||¤#,##0.00|",
   "en_ER||||ERN=Nfk",
   "en_ES|||¤#,##0.00|",
   "en_FI|||¤#,##0.00|",
   "en_FJ||||FJD=$",
   "en_FK||||FKP=£~GBP=GB£",
   "en_FR|||¤#,##0.00|",
   "en_GD||||XCD=$",
   "en_GE|,|\u202f|#,##0.00\u00a0¤|GEL=₾",
   "en_GH||||GHS=GH₵",
   "en_GI||||GBP=GB£~GIP=£",
   "en_GM||||GMD=D",
   "en_GY||||GYD=$",
   "en_HU|,|\u00a0||",
   "en_ID|,|.||IDR=Rp",
   "en_IN|||¤#,##,##0.00|USD=$",
   "en_IT|||¤#,##0.00|",
   "en_JM||||JMD=$",
   "en_JP||||JPY=¥~USD=$",
   "en_KE||||KES=Ksh",
   "en_KI||||AUD=$",
   "en_KN||||XCD=$",
   "en_KY||||KYD=$",
   "en_LC||||XCD=$",
   "en_LR||||LRD=$",
   "en_LS||||ZAR=R",
   "en_LT|||¤#,##0.00|",
   "en_LV|||¤#,##0.00|",
   "en_MG||||MGA=Ar",
   "en_MO||||MOP=MOP$",
   "en_MS||||XCD=$",
   "en_MT||||GBP=GB£",
   "en_MU||||MUR=Rs",
   "en_MV|||¤\u00a0#,##0.00|MVR=Rf",
   "en_MW||||MWK=MK",
   "en_MY||||MYR=RM",
   "en_NA||||NAD=$",
   "en_NF||||AUD=$",
   "en_NG||||NGN=₦",
   "en_NL|||¤#,##0.00|",
   "en_NO|,|\u00a0||NOK=kr",
   "en_NR||||AUD=$",
   "en_NU||||NZD=$",
   "en_NZ||||NZD=$",
   "en_PG||||PGK=K",
   "en_PK||||PKR=Rs",
   "en_PL|,|.||",
   "en_PN||||NZD=$",
   "en_PT|||¤#,##0.00|",
   "en_RO|,|.||",
   "en_RW||||RWF=RF",
   "en_SB||||SBD=$",
   "en_SC||||SCR=SR",
   "en_SE|,|\u00a0||SEK=kr",
   "en_SG||||SGD=$",
   "en_SH||||GBP=GB£~SHP=£",
   "en_SI|||¤#,##0.00|",
   "en_SK|||¤#,##0.00|",
   "en_SL||||SLE=Le",
   "en_SS||||GBP=GB£~SSP=£",
   "en_SX||||ANG=NAf.",
   "en_SZ||||SZL=E",
   "en_TK||||NZD=$",
   "en_TO||||TOP=T$",
   "en_TT||||TTD=$",
   "en_TV||||AUD=$",
   "en_TZ||||TZS=TSh",
   "en_UA|,|\u00a0||",
   "en_UG||||UGX=USh",
   "en_US_POSIX|||¤\u00a00.00|",
   "en_VC||||XCD=$",
   "en_VG||||JPY=JP¥~USD=US$",
   "en_VU||||VUV=VT",
   "en_WS||||WST=WS$",
   "en_ZA|,|\u00a0||ZAR=R",
   "en_ZM||||ZMW=K",
   "eo|,|\u00a0||",
   "es|,|.|#,##0.00\u00a0¤|AUD=AUD~BRL=BRL~CAD=CAD~CNY=CNY~ESP=₧~GBP=GBP~HKD=HKD~ILS=ILS~INR=INR~JPY=JPY~KRW=KRW~MXN=MXN~NZD=NZD~PHP=PHP~THB=฿~TWD=TWD~XAF=XAF~XCD=XCD~XOF=XOF",
   "es_419|.|,|¤#,##0.00|EUR=EUR~THB=THB~USD=USD~VND=VND",
   "es_AR|,|.|¤\u00a0#,##0.00|ARS=$~USD=US$",
   "es_BO|,|.||BOB=Bs",
   "es_BR||||BRL=R$",
   "es_BZ||||BZD=$",
   "es_CL|,|.|¤#,##0.00;¤-#,##0.00|CLP=$~USD=US$",
   "es_CO|,|.|¤\u00a0#,##0.00|COP=$~USD=US$",
   "es_CR|,|\u00a0||CRC=₡",
   "es_CU||||CUP=$~USD=US$",
   "es_DO||||DOP=RD$~USD=US$",
   "es_EC|,|.|¤#,##0.00;¤-#,##0.00|USD=$",
   "es_GQ||||XAF=FCFA",
   "es_GT||||GTQ=Q",
   "es_HN||||HNL=L",
   "es_MX||||MRO=MRU~MRU=UM~MXN=$",
   "es_NI||||NIO=C$",
   "es_PA||||PAB=B/.",
   "es_PE|||¤\u00a0#,##0.00|PEN=S/",
   "es_PH||||PHP=₱",
   "es_PR||||USD=$",
   "es_PY|,|.|¤\u00a0#,##0.00;¤\u00a0-#,##0.00|PYG=Gs.",
   "es_SV||||USD=$",
   "es_US||||JPY=¥~USD=$",
   "es_UY|,|.|¤\u00a0#,##0.00|USD=US$~UYU=$~UYW=UP",
   "es_VE|,|.|¤#,##0.00;¤-#,##0.00|VEF=Bs.~VES=Bs.S",
   "et|,|\u00a0|#,##0.00\u00a0¤|AUD=AU$~EEK=kr~JPY=¥~PHP=PHP~THB=฿~USD=$",
   "eu|,|.|#,##0.00\u00a0¤|ESP=₧~PHP=PHP~THB=฿",
   "ewo|,|\u00a0|#,##0.00\u00a0¤|",
   "fa|||\u200e¤\u00a0#,##0.00|AFN=؋~CAD=$CA~CNY=¥CN~HKD=$HK~IRR=ریال~JPY=¥~MXN=$MX~NZD=$NZ~PHP=PHP~THB=฿~USD=$~XCD=$EC~XOF=فرانک\u202fCFA",
   "fa_AF|||¤\u00a0#,##0.00|",
   "ff|,|\u00a0|#,##0.00\u00a0¤|",
   "ff_Adlm||⹁||AFA=𞤀𞤊𞤀~GNF=FG~NGN=𞤐𞤐𞤘~PGK=𞤑𞤆𞤘~PHP=𞤆𞤆𞤖~XAF=𞤊𞤅𞤊𞤀~XOF=𞤅𞤊𞤀",
   "ff_Adlm_BF||||GNF=GNF",
   "ff_Adlm_CM||||GNF=GNF",
   "ff_Adlm_GH||||GHS=GH₵~GNF=GNF",
   "ff_Adlm_GM||||GMD=D~GNF=GNF",
   "ff_Adlm_GW||||GNF=GNF",
   "ff_Adlm_LR||||GNF=GNF~LRD=$",
   "ff_Adlm_MR||||GNF=GNF~MRU=UM",
   "ff_Adlm_NE||||GNF=GNF",
   "ff_Adlm_NG||||GNF=GNF~NGN=₦",
   "ff_Adlm_SL||||GNF=GNF~SLE=Le",
   "ff_Adlm_SN||||GNF=GNF",
   "ff_Latn_GH||||GHS=GH₵",
   "ff_Latn_GM||||GMD=D",
   "ff_Latn_GN||||GNF=FG",
   "ff_Latn_LR||||LRD=$",
   "ff_Latn_MR||||MRU=UM",
   "ff_Latn_NG||||NGN=₦",
   "ff_Latn_SL||||SLE=Le",
   "fi|,|\u00a0|#,##0.00\u00a0¤|AUD=AUD~BRL=BRL~CAD=CAD~CNY=CNY~FIM=mk~HKD=HKD~ILS=ILS~INR=INR~JPY=¥~KRW=KRW~MXN=MXN~NZD=NZD~PHP=PHP~TWD=TWD~USD=$~VND=VND~XCD=XCD~XPF=XPF~XXX=XXX",
   "fil|||¤#,##0.00|JPY=¥~THB=฿~USD=$",
   "fo|,|.|#,##0.00\u00a0¤|DKK=kr~PHP=PHP",
   "fo_DK||||DKK=kr.",
   "fr|,|\u202f|#,##0.00\u00a0¤|ARS=$AR~AUD=$AU~BEF=FB~BMD=$BM~BND=$BN~BZD=$BZ~CAD=$CA~CLP=$CL~CNY=CNY~COP=$CO~CYP=£CY~FJD=$FJ~FKP=£FK~FRF=F~GBP=£GB~GIP=£GI~HKD=HKD~IEP=£IE~ILP=£IL~ITL=₤IT~JPY=JPY~LBP=£LB~MTP=£MT~MXN=$MX~NAD=$NA~NZD=$NZ~PHP=PHP~RHD=$RH~SBD=$SB~SGD=$SG~SRD=$SR~TTD=$TT~TWD=TWD~USD=$US~UYU=$UY~WST=$WS~XCD=XCD~XPF=FCFP",
   "fr_BI||||BIF=FBu",
   "fr_CA||\u00a0||ARS=ARS~AUD=$\u00a0AU~BMD=BMD~BND=BND~BZD=BZD~CAD=$~CLP=CLP~CNY=CN¥~COP=COP~FJD=FJD~FKP=FKP~GBP=£~GIP=GIP~HKD=$\u00a0HK~ILS=ILS~INR=INR~JPY=¥~KRW=KRW~LBP=LBP~MXN=MXN~NAD=NAD~NZD=$\u00a0NZ~SBD=SBD~SGD=$\u00a0SG~SRD=SRD~TTD=TTD~USD=$\u00a0US~UYU=UYU~VND=VND~WST=WST~XAF=XAF~XOF=XOF~XPF=XPF",
   "fr_CD||||CDF=FC",
   "fr_DJ||||DJF=Fdj",
   "fr_DZ||||DZD=DA",
   "fr_GN||||GNF=FG",
   "fr_HT||||HTG=G",
   "fr_KM||||KMF=CF",
   "fr_LU||.||FRF=FRF~LUF=F",
   "fr_MG||||MGA=Ar",
   "fr_MR||||MRU=UM",
   "fr_MU||||MUR=Rs",
   "fr_RW||||RWF=RF",
   "fr_SC||||SCR=SR",
   "fr_SY||||SYP=LS",
   "fr_TN||||TND=DT",
   "fr_VU||||VUV=VT",
   "fur|,|.||",
   "fy|,|.|¤\u00a0#,##0.00;¤\u00a0#,##0.00-|AUD=AU$~CAD=C$~FJD=FJ$~SBD=SI$~THB=฿~XPF=XPF",
   "ga|||¤#,##0.00|JPY=¥~THB=฿~USD=$~XXX=XXX",
   "gd|||¤#,##0.00|PHP=PHP~THB=฿~USD=$~XXX=XXX",
   "gl|,|.|#,##0.00\u00a0¤|ESP=₧~MXN=$MX~PHP=PHP~THB=฿~USD=$~XCD=XCD",
   "gsw||’|#,##0.00\u00a0¤|ATS=öS~JPY=¥~USD=$",
   "gu|||¤#,##,##0.00|PHP=PHP~THB=฿",
   "guz|||¤#,##0.00|KES=Ksh",
   "gv|||¤#,##0.00|",
   "ha||||JPY=¥~NGN=₦~USD=$",
   "ha_GH||||GHS=GH₵",
   "haw|||¤#,##0.00|USD=$",
   "he|||\u200f#,##0.00\u00a0\u200f¤;\u200f-#,##0.00\u00a0\u200f¤|ILP=ל״י~JPY=¥~PHP=PHP~THB=฿~USD=$",
   "hi|||¤#,##,##0.00|PHP=PHP~THB=฿~USD=$",
   "hr|,|.|#,##0.00\u00a0¤|AUD=AUD~BRL=BRL~CAD=CAD~CNY=CNY~GBP=GBP~HKD=HKD~HRK=kn~ILS=ILS~INR=INR~JPY=JPY~KRW=KRW~MXN=MXN~NZD=NZD~PHP=PHP~TWD=TWD~USD=USD~VND=VND~XCD=XCD~XPF=XPF~XXX=XXX",
   "hr_BA||||BAM=KM",
   "hsb|,|.|#,##0.00\u00a0¤|AUD=AUD~JPY=¥~PLN=zł~THB=฿~USD=$",
   "hu|,|\u00a0|#,##0.00\u00a0¤|AUD=AUD~BRL=BRL~CAD=CAD~CNY=CNY~EUR=EUR~GBP=GBP~HKD=HKD~HUF=Ft~ILS=ILS~INR=INR~JPY=¥~KRW=KRW~MXN=MXN~NZD=NZD~PHP=PHP~TWD=TWD~USD=USD~VND=VND~XCD=XCD",
   "hy|,|\u00a0|#,##0.00\u00a0¤|AMD=֏~PHP=PHP~THB=฿~USD=$",
   "ia|,|.||NLG=ƒ~RUB=₽",
   "id|,|.|¤#,##0.00|AUD=AU$~IDR=Rp~INR=Rs~PHP=PHP~THB=฿~XXX=XXX",
   "ie|,|\u00a0|¤\u00a0#,##0.00;¤\u00a0-#,##0.00|",
   "ig|||¤#,##0.00|JPY=¥~NGN=₦~USD=$",
   "ii||||CNY=¥",
   "is|,|.|#,##0.00\u00a0¤|AUD=AUD~BRL=BRL~CAD=CAD~EUR=EUR~GBP=GBP~INR=INR~ISK=kr.~KRW=KRW~MXN=MXN~NZD=NZD~PHP=PHP~TWD=TWD~USD=USD~VND=VND",
   "it|,|.|#,##0.00\u00a0¤|BRL=BRL~HKD=HKD~INR=INR~JPY=JPY~KRW=KRW~MXN=MXN~THB=฿~TWD=TWD~USD=USD~VND=VND",
   "it_CH|.|’|¤\u00a0#,##0.00;¤-#,##0.00|",
   "ja|||¤#,##0.00|CNY=元~JPY=￥~PHP=PHP~USD=$~XXX=XXX",
   "jgo|,|.||",
   "jmc|||¤#,##0.00|TZS=TSh",
   "jv|,|.||IDR=Rp",
   "ka|,|\u00a0|#,##0.00\u00a0¤|AUD=AUD~CNY=CNY~GEL=₾~HKD=HKD~ILS=ILS~INR=INR~JPY=JPY~KRW=KRW~NZD=NZD~PHP=PHP~VND=VND",
   "kab|,|\u00a0|#,##0.00¤|DZD=DA",
   "kam|||¤#,##0.00|KES=Ksh",
   "kde|||¤#,##0.00|TZS=TSh",
   "kea|,|\u00a0|#,##0.00\u00a0¤|AUD=AU$~CVE=\u200b~THB=฿",
   "kea_CV|$|||",
   "kgp|,|.||AUD=AU$~FJD=FJC~PHP=PHP~PTE=Vẽj.~THB=฿~XOF=CFA~ZMK=SMK",
   "khq||\u00a0|#,##0.00¤|",
   "ki|||¤#,##0.00|KES=Ksh",
   "kk|,|\u00a0|#,##0.00\u00a0¤|KZT=₸~LSL=ЛСЛ~PHP=PHP~RUB=₽~THB=฿~USD=$",
   "kk_Arab||||KZT=₸",
   "kkj|,|.||",
   "kl|,|.|¤#,##0.00;¤-#,##0.00|DKK=kr.",
   "kln|||¤#,##0.00|KES=Ksh",
   "km|||#,##0.00¤|KHR=៛~LSL=ឡូទី~PHP=PHP~THB=฿~USD=$",
   "kn|||¤#,##0.00|PHP=PHP~THB=฿~USD=$",
   "ko|||¤#,##0.00|AUD=AU$~PHP=PHP",
   "kok|||¤#,##,##0.00|PHP=PHP~RON=रॉन",
   "kok_Latn|||¤#,##,##0.00|",
   "ks||،|¤#,##0.00|JPY=¥~USD=$",
   "ks_Deva||||USD=$",
   "ksb|||#,##0.00¤|TZS=TSh",
   "ksf|,|\u00a0|#,##0.00\u00a0¤|",
   "ksh|,|\u00a0|#,##0.00\u00a0¤|",
   "ku|,|.|#,##0.00\u00a0¤|TRY=₺",
   "kw|||¤#,##0.00|",
   "kxv|||¤#,##,##0.00|",
   "kxv_Deva|||¤#,##,##0.00|",
   "kxv_Orya|||¤#,##,##0.00|",
   "kxv_Telu|||¤#,##,##0.00|",
   "ky|,|\u00a0|#,##0.00\u00a0¤|AUD=AUD~BRL=BRL~CAD=CAD~GBP=GBP~HKD=HKD~ILS=ILS~INR=INR~KGS=сом~KRW=KRW~MXN=MXN~NZD=NZD~PHP=PHP~THB=฿~TWD=TWD~USD=USD~XCD=XCD",
   "lb|,|.|#,##0.00\u00a0¤|ATS=öS~AUD=AU$~JPY=¥~PHP=PHP~THB=฿~USD=$",
   "lg|||#,##0.00¤|UGX=USh",
   "lij|,|.|#,##0.00\u00a0¤|",
   "lmo|,|’||",
   "ln|,|.|#,##0.00\u00a0¤|CDF=FC",
   "ln_AO||||AOA=Kz",
   "lo|,|.|¤#,##0.00;¤-#,##0.00|LAK=₭~PHP=PHP~THB=฿",
   "lrc||||IQD=د.ع.",
   "lt|,|\u00a0|#,##0.00\u00a0¤|AUD=AUD~BRL=BRL~CAD=CAD~CNY=CNY~GBP=GBP~HKD=HKD~ILS=ILS~INR=INR~JPY=JPY~KRW=KRW~MXN=MXN~NZD=NZD~PHP=PHP~TWD=TWD~USD=USD~VND=VND~XAF=XAF~XCD=XCD~XOF=XOF~XPF=XPF",
   "lu|,|.|#,##0.00¤|CDF=FC",
   "luo|||#,##0.00¤|KES=Ksh",
   "luy|||¤#,##0.00;¤-\u00a0#,##0.00|KES=Ksh",
   "lv|,|\u00a0|#,##0.00\u00a0¤|AUD=AU$~JPY=¥~LVL=Ls~PHP=PHP~THB=฿~USD=$",
   "mai||||USD=$",
   "mas|||¤#,##0.00|KES=Ksh",
   "mas_TZ||||TZS=TSh",
   "mer|||¤#,##0.00|KES=Ksh",
   "mfe||\u00a0||MUR=Rs",
   "mg||||MGA=Ar",
   "mgh|,|.||MZN=MTn",
   "mi||||JPY=¥~NZD=$",
   "mk|,|.|#,##0.00\u00a0¤|AUD=AUD~CNY=CNY~GBP=GBP~HKD=HKD~ILS=ILS~INR=INR~JPY=JPY~KRW=KRW~MKD=ден.~NZD=NZD~PHP=PHP~TWD=TWD~VND=VND",
   "ml|||¤#,##0.00|JPY=¥~PHP=PHP~THB=฿~USD=$",
   "mn||||MNT=₮~PHP=PHP~THB=฿~USD=$",
   "mn_Mong|||¤#,##0.00|",
   "mni||||USD=$",
   "mr|||¤#,##0.00|PHP=PHP~THB=฿~USD=$",
   "ms|||¤#,##0.00|CAD=CAD~MXN=MXN~MYR=RM~PHP=PHP~USD=USD",
   "ms_Arab|||¤#,##0.00|",
   "ms_BN|,|.|¤\u00a0#,##0.00|BND=$",
   "ms_ID|,|.||IDR=Rp",
   "ms_SG||||SGD=$",
   "mt|||¤#,##0.00|PHP=PHP",
   "mua|,|.|¤#,##0.00|",
   "my|||#,##0.00\u00a0¤|ANG=NAf~AWG=Afl~HTG=G~MMK=K~PAB=B/.~THB=฿~TTD=TT$",
   "mzn||||PHP=PHP~USD=$",
   "naq|||¤#,##0.00|NAD=$",
   "nd|||¤#,##0.00|",
   "nds|,|.|#,##0.00\u00a0¤|",
   "ne|||¤\u00a0#,##,##0.00|NPR=नेरू~PHP=PHP~THB=฿",
   "nl|,|.|¤\u00a0#,##0.00;¤\u00a0-#,##0.00|AUD=AU$~CAD=C$~FJD=FJ$~PHP=PHP~SBD=SI$~THB=฿~XPF=XPF~XXX=XXX",
   "nl_AW||||AWG=Afl.",
   "nl_BQ||||USD=$",
   "nl_CW||||ANG=NAf.",
   "nl_SR||||SRD=$",
   "nl_SX||||ANG=NAf.",
   "nmg|,|\u00a0|#,##0.00\u00a0¤|",
   "nn||||GBP=GBP",
   "nnh|,|.||",
   "no|,|\u00a0|#,##0.00\u00a0¤|AUD=AUD~BRL=BRL~CAD=CAD~CNY=CNY~HKD=HKD~ILS=ILS~INR=INR~JPY=JPY~KRW=KRW~MXN=MXN~NOK=kr~NZD=NZD~PHP=PHP~TWD=TWD~USD=USD~VND=VND~XAF=XAF~XCD=XCD~XPF=XPF~XXX=XXX",
   "nqo||،||AED=ߊߐߘ~AFN=ߊߝߊ~ALL=ߊߟߟ~AMD=ߊߡߘ~ANG=ߊ߲ߕߝ~AOA=ߊ߲ߜ߭ߎ~AON=ߊߜ߭ߞ~AOR=ߊߜ߭ߝ~ARS=ߊߖ߭ߔ~AUD=$ߐ~AWG=ߊߥߖ߭~AZN=ߊߖߣ~BAM=ߓߍߡ~BBD=ߓߓߘ~BDT=ߓߘߕ~BGN=ߓߜ߭ߟ~BHD=ߓߤߘ~BIF=ߓߙߝ~BMD=ߓߡߘ~BND=ߓߣߘ~BOB=ߓߏߓ~BSD=ߓߛߘ~BTN=ߓߕߒ~BWP=ߓߥߔ~BYN=ߓߌߙ~CDF=ߞߝ~CHF=ߛߥߝ~CLP=ߛߟߔ~CNH=ߛߦߤ~CNY=ߛߣߦ~COP=ߞߐߔ~CRC=ߞߙߞ~CUC=ߞߎ߳ߞ~CUP=ߞߎ߳ߔ~CVE=ߍߛߞ~CZK=ߗߞߞ~DJF=ߖߓߝ~DKK=ߘߞߞ~DOP=ߘߏߔ~DZD=ߊߟߘ~EGP=ߡߛߔ~ERN=ߋߙߝ~ETB=ߋߗߓ~FJD=$ ߝߖ~FKP=ߝߞߔ~GEL=ߖ߭ߐߟ~GHS=ߜ߭ߛߘ~GIP=ߖ߭ߓߔ£~GMD=ߜ߭ߓߘ~GNF=߿~GNS=ߖߛ߾~GQE=ߕߖߋ~GTQ=ߜ߭ߕߞ~GWE=ߖߓߍ~GWP=ߖߓߔ~GYD=ߜ߭ߎ߳ߘ~HKD=ߤߞߘ~HNL=ߤߘߟ~HRK=ߞߛߞ~HTG=ߤߕߜ߭~HUF=ߤߜ߭ߝ~IDR=ߍ߲ߘߙ~IQD=ߌߞߘ~IRR=ߌߙߙ~ISK=ߌߛߞ~JMD=ߖߡߘ~JOD=ߖߐߘ~JPY=ߗ߭ߔߦ~KES=ߞߋߛ~KGS=ߞߜ߭ߛ~KHR=ߞߓߙ~KMF=ߞߡߝ~KPW=ߞߞߥ~KWD=ߞߥߘ~KYD=ߞߌߘ~KZT=ߞߗ߭ߕ~LAK=ߟߊߞ~LBP=ߟߓ£~LKR=ߟߞߙ~LRD=ߟ߾~LSL=ߟߛߟ~LYD=ߟߓߘ~MAD=ߡߘߤ~MAF=ߡߙߝ~MDL=ߡߘߟ~MGA=ߡߘߙ~MGF=ߡߘߝ~MKD=ߡߞߘ~MLF=ߡߝ~MMK=ߡߡߞ~MNT=ߡߣߕ~MOP=ߡߏߔ~MRO=ߡߙߏ~MRU=ߡߎߜ߭~MUR=ߡߙߔ~MVR=ߡߝ߭ߙ~MWK=ߡߟߞ~MXN=ߡߞ$~MYR=ߡߦߙ~MZE=ߡߖ߭ߋ~MZM=ߡߖߡ~MZN=ߡߖ߭ߡ~NAD=ߣߡߘ~NGN=ߖߣ~NIO=ߣߌߏ~NOK=ߣߐߞ~NPR=ߣߔߙ~NZD=$ߣߖ߭~OMR=ߏߡߙ~PAB=ߔߊߓ~PEN=ߔߋߛ~PGK=ߔߖߞ~PKR=ߔߞߙ~PLN=ߔߟߗ߭~PYG=ߔߙߜ߭~QAR=ߞߊߙ~RHD=ߖ߭ߓߘ~RON=ߙߎߟ~RSD=ߙߛߘ~RUB=ߌߎߙ~RWF=ߙߥߝ~SAR=ߛߊߙ~SBD=ߛߓߘ~SCR=ߛߛߥ~SDD=ߛߘߘ~SDG=ߛߘߜ߭~SDP=ߛߘߔ~SEK=ߛߥߞ~SGD=ߛߜ߭ߘ~SHP=ߛߤߔ~SLE=ߛߙߔ~SLL=ߛߟߟ~SOS=ߛߡߛ~SRD=ߛߎߘ~SSP=ߛߛߔ~STD=ߛߕߘ~STN=ߛߔߘ~SYP=ߛߌߔ~SZL=ߛߖ߭ߟ~THB=ߕߘߓ~TJS=ߕߖߛ~TMT=ߕߡߕ~TND=ߕߣߘ~TOP=ߕߏߔ~TRY=ߕߎߟ~TTD=ߕߕߘ~TWD=ߕߥߘ~TZS=ߕߖ߭ߛ~UAH=ߌߞߤ~UGS=ߎߜ߭ߥ~UGX=ߎߜ߭ߛ~USD=ߊߞߘ$~UYU=ߎ߳ߔ~UZS=ߎߗ߭ߛ~VES=ߝ߭ߋߓ~VUV=ߝ߭ߕߝ߭~WST=$ߥߛ~XAF=ߝߛߝ~XCD=ߛߟߘ~XOF=߾~XPF=߾ ߝߛߝ~YER=ߦߡߙ~ZAR=ߥߝߙ~ZMK=ߖ߭ߓߞ~ZMW=ߖ߭ߓߥ~ZRN=ߖ߭ߙ~ZRZ=ߖ߭ߙߖ߭~ZWD=ߖ߭ߥߘ~ZWL=ߖ߭ߥߟ~ZWR=ߖ߭ߥߙ",
   "nso||||ZAR=R",
   "nus|||¤#,##0.00|GBP=GB£~SSP=£",
   "nyn|||¤#,##0.00|UGX=USh",
   "oc|,|\u00a0|#,##0.00¤|",
   "om|||¤#,##0.00|ETB=Br",
   "om_KE||||KES=Ksh",
   "or|||¤#,##0.00|JPY=¥~PHP=PHP~USD=$",
   "os|,|\u00a0||GEL=₾~USD=$",
   "os_RU||||GEL=GEL~RUB=₽",
   "pa|||¤#,##,##0.00|PHP=PHP~THB=฿~XXX=XXX",
   "pa_Arab||||PKR=ر",
   "pcm|||¤#,##0.00|CAD=KA$~NGN=₦~PHP=PHP",
   "pl|,|\u00a0|#,##0.00\u00a0¤|AUD=AUD~CAD=CAD~CNY=CNY~GBP=GBP~HKD=HKD~ILS=ILS~INR=INR~JPY=JPY~KRW=KRW~MXN=MXN~NZD=NZD~PHP=PHP~PLN=zł~TWD=TWD~USD=USD~VND=VND",
   "prg|,|\u00a0|#,##0.00\u00a0¤|",
   "ps|,|.||AFN=؋~USD=$",
   "ps_PK||||PKR=Rs",
   "pt|,|.||AUD=AU$~PHP=PHP~PTE=Esc.~THB=฿",
   "pt_AO||||AOA=Kz",
   "pt_CV|$|||CVE=\u200b~PTE=PTE",
   "pt_LU||||LUF=F",
   "pt_MO||||MOP=MOP$",
   "pt_MZ||||MZN=MTn",
   "pt_PT||\u00a0|#,##0.00\u00a0¤|PTE=\u200b",
   "pt_ST||||STN=Db",
   "qu||||BBD=BBG~BMD=DBM~BZD=DBZ~CAD=$CA~PEN=S/~PHP=PHP~USD=$US",
   "qu_BO|,|.||BOB=Bs~PEN=PEN",
   "qu_EC||||PEN=PEN~USD=$",
   "rm|,|\u202f|¤#,##0.00|USD=$",
   "rn|,|.|#,##0.00¤|BIF=FBu",
   "ro|,|.|#,##0.00\u00a0¤|AUD=AUD~BRL=BRL~CAD=CAD~CNY=CNY~EUR=EUR~GBP=GBP~HKD=HKD~ILS=ILS~INR=INR~JPY=JPY~KRW=KRW~MXN=MXN~NZD=NZD~PHP=PHP~TWD=TWD~USD=USD~VND=VND~XCD=XCD",
   "ro_MD||||MDL=L",
   "rof|||¤#,##0.00|TZS=TSh",
   "ru|,|\u00a0|#,##0.00\u00a0¤|JPY=¥~PHP=PHP~RUB=₽~RUR=р.~THB=฿~TMT=ТМТ~UAH=₴~USD=$",
   "ru_BY||||BYN=Br~RUR=RUR",
   "ru_KG||||KGS=сом",
   "ru_KZ||||KZT=₸",
   "ru_MD||||MDL=L",
   "rw|,|.||RWF=RF",
   "rwk|||#,##0.00¤|TZS=TSh",
   "sa|||¤#,##,##0.00|",
   "sah|,|\u00a0|#,##0.00\u00a0¤|RUB=₽",
   "saq|||¤#,##0.00|KES=Ksh",
   "sbp|||#,##0.00¤|TZS=TSh",
   "sc|,|.|#,##0.00\u00a0¤|XDR=DIP",
   "scn|,|.||",
   "sd||||PHP=PHP~PKR=Rs",
   "sd_Deva||||JPY=¥~USD=$",
   "se|,|\u00a0|#,##0.00\u00a0¤|DKK=Dkr~NOK=kr~SEK=Skr~THB=฿",
   "se_SE||||NOK=Nkr~SEK=kr",
   "seh|,|.|#,##0.00¤|MZN=MTn",
   "ses||\u00a0|#,##0.00¤|",
   "sg|,|.|¤#,##0.00;¤-#,##0.00|",
   "shi|,|\u00a0|#,##0.00¤|",
   "shi_Latn|,|\u00a0|#,##0.00¤|",
   "si|||¤#,##0.00|LKR=රු.~PHP=PHP~THB=฿~XOF=සිෆ්එ",
   "sk|,|\u00a0|#,##0.00\u00a0¤|AUD=AUD~BRL=BRL~CAD=CAD~CNY=CNY~GBP=GBP~HKD=HKD~ILS=NIS~INR=INR~JPY=JPY~KRW=KRW~NZD=NZD~PHP=PHP~TWD=TWD~USD=USD~VND=VND~XXX=XXX",
   "sl|,|.|#,##0.00\u00a0¤|AUD=AUD~BRL=BRL~CAD=CAD~GBP=GBP~JPY=¥~MXN=MXN~NZD=NZD~PHP=PHP~TWD=TWD~USD=$~XCD=XCD",
   "smn|,|\u00a0|#,##0.00\u00a0¤|",
   "sn|||¤#,##0.00|",
   "so|||¤#,##0.00|BBD=DBB~SOS=S",
   "so_DJ||||DJF=Fdj",
   "so_ET||||ETB=Br",
   "so_KE||||KES=Ksh",
   "sq|,|\u00a0|#,##0.00\u00a0¤|ALL=Lekë~BRL=BRL~PHP=PHP~THB=฿",
   "sq_MK||||MKD=den",
   "sr|,|.|#,##0.00\u00a0¤|AUD=AUD~BAM=КМ~JPY=¥~KRW=KRW~NZD=NZD~PHP=PHP~VND=VND",
   "sr_Cyrl_ME||||BAM=KM",
   "sr_Latn|,|.|#,##0.00\u00a0¤|AUD=AUD~BAM=KM~JPY=¥~KRW=KRW~NZD=NZD~PHP=PHP~VND=VND",
   "st|||¤#,##0.00|ZAR=R",
   "st_LS||||LSL=M",
   "su|,|.|¤#,##0.00|IDR=Rp~JPY=¥~USD=$",
   "sv|,|\u00a0|#,##0.00\u00a0¤|AUD=AUD~BBD=Bds$~BMD=BM$~BRL=BR$~BSD=BS$~BZD=BZ$~CNY=CNY~DKK=Dkr~DOP=RD$~EEK=Ekr~EGP=EG£~GBP=GBP~HKD=HKD~IEP=IE£~INR=INR~ISK=Ikr~JMD=JM$~JPY=JPY~KRW=KRW~NOK=Nkr~NZD=NZD~PHP=PHP~SEK=kr~TWD=TWD~VND=VND",
   "sw||||KES=Ksh~PHP=PHP~THB=฿~TZS=TSh",
   "sw_CD|,|.||CDF=FC",
   "sw_UG||||UGX=USh",
   "syr||||SYP=ل.س.",
   "szl|,|\u00a0|#,##0.00\u00a0¤|PLN=zł",
   "ta|||¤#,##,##0.00|JPY=¥~PHP=PHP~THB=฿~USD=$",
   "ta_LK||||LKR=Rs.",
   "ta_MY|||¤\u00a0#,##0.00|MYR=RM~SGD=S$",
   "ta_SG|||¤\u00a0#,##0.00|MYR=RM~SGD=$~USD=US$",
   "te|||¤#,##,##0.00|PHP=PHP~THB=฿~USD=$",
   "teo|||¤#,##0.00|UGX=USh",
   "teo_KE||||KES=Ksh",
   "tg|,|\u00a0|#,##0.00\u00a0¤|TJS=сом.~USD=$",
   "th|||¤#,##0.00|AUD=AU$~JPY=¥~PHP=PHP~THB=฿~XXX=XXX",
   "ti|||¤#,##0.00|CNY=CNY~ETB=Br~JPY=JPY",
   "ti_ER||||ERN=Nfk",
   "tk|,|\u00a0|#,##0.00\u00a0¤|EUR=EUR~GBP=GBP~PHP=PHP",
   "tn||’|¤#,##0.00|ZAR=R",
   "tn_BW||||BWP=P",
   "to||||AUD=AUD$~NZD=NZD$~TOP=T$",
   "tok|,|\u00a0|¤#,#0.00|",
   "tr|,|.|¤#,##0.00|AUD=AU$~JPY=¥~PHP=PHP~THB=฿~TRY=₺~USD=$",
   "tt|,|\u00a0|#,##0.00\u00a0¤|RUB=₽~USD=$",
   "twq||\u00a0|#,##0.00¤|",
   "tyv||\u00a0||",
   "tzm|,|\u00a0|#,##0.00\u00a0¤|",
   "ug|||¤#,##0.00|CNY=￥~USD=$",
   "uk|,|\u00a0|#,##0.00\u00a0¤|AUD=AUD~BRL=BRL~CAD=CAD~CNY=CNY~EUR=EUR~GBP=GBP~HKD=HKD~ILS=ILS~INR=INR~JPY=¥~KRW=KRW~MXN=MXN~NZD=NZD~PHP=PHP~TWD=TWD~UAH=₴~UAK=крб.~USD=USD~VND=VND~XCD=XCD",
   "ur|||¤#,##0.00|PHP=PHP~PKR=Rs~THB=฿~USD=$",
   "ur_IN||||PKR=PKR",
   "uz|,|\u00a0|#,##0.00\u00a0¤|PHP=PHP~UZS=soʻm",
   "uz_Arab|,|.||AFN=؋",
   "uz_Cyrl|,|\u00a0|#,##0.00\u00a0¤|THB=฿~UZS=сўм",
   "vai|||¤#,##0.00|LRD=$",
   "vai_Latn|||¤#,##0.00|LRD=$",
   "vec|,|\u202f|#,##0.00\u202f¤|AUD=AUD~BRL=BRL~CAD=CAD~CNY=CNY~EUR=EUR~GBP=GBP~HKD=HKD~ILS=ILS~INR=INR~JPY=JPY~KRW=KRW~MXN=MXN~NZD=NZD~PHP=PHP~TWD=TWD~USD=USD~VND=VND~XAF=XAF~XCD=XCD~XOF=XOF~XPF=XPF",
   "vi|,|.|#,##0.00\u00a0¤|AUD=AU$~JPY=¥~PHP=PHP~THB=฿~XXX=XXX",
   "vmw|,|.|#,##0.00\u00a0¤|",
   "vun|||¤#,##0.00|TZS=TSh",
   "wae|,|’||JPY=¥~USD=$",
   "wo|,|.||EGP=EGPP~GHS=GHS.~GIP=GIIP~GTQ=GT Q~HRK=HRKS~MDL=Vote MDL~NGN=NGN.~USD=$",
   "xh||\u00a0|¤#,##0.00|CNH=I-CNH~JPY=¥~USD=$~ZAR=R",
   "xnr|||¤#,##,##0.00|",
   "xog|||#,##0.00\u00a0¤|UGX=USh",
   "yav|,|\u00a0|#,##0.00\u00a0¤|",
   "yo|||¤#,##0.00|NGN=₦~RUB=₽~USD=$",
   "yrl|,|.||AUD=AU$~BOB=BUB~COP=$~PHP=PHP~PTE=Esc.~SCR=SCRu~THB=฿~VES=Bs.S~XAF=FCF~XOF=CFA~XPF=CFP",
   "yue|||¤#,##0.00|AUD=AU$~JPY=¥~KRW=￦~PHP=PHP~XXX=XXX",
   "yue_Hans|||¤#,##0.00|AUD=AU$~JPY=¥~KRW=￦~PHP=PHP~XXX=XXX",
   "zgh|,|\u00a0|#,##0.00¤|",
   "zh|||¤#,##0.00|AUD=AU$~CNY=¥~ILR=ILS~PHP=PHP~XXX=XXX",
   "zh_Hans_HK||||CNY=CN¥",
   "zh_Hans_MO||||CNY=CN¥~MOP=MOP$",
   "zh_Hans_SG||||CNY=CN¥~SGD=$",
   "zh_Hant|||¤#,##0.00|AUD=AU$~JPY=¥~KRW=￦~PHP=PHP~TWD=$~XXX=XXX",
   "zh_Hant_HK||||KRW=₩~TWD=NT$",
   "zh_Hant_MO||||MOP=MOP$",
   "zu|||¤#,##0.00|PHP=PHP~THB=฿~USD=$~ZAR=R"]

/-- A field of the table: an empty one is not set. -/
def setting (s : String) : Option String := if s.isEmpty then none else some s

/-- Reads a line of the table. -/
def Convention.ofLine? (line : String) : Option Convention :=
  match line.splitOn "|" with
  | [name, decimal, group, pattern, symbols] =>
    let pairs := (symbols.splitOn "~").filterMap fun entry =>
      match entry.splitOn "=" with
      | [code, symbol] => some (code, symbol)
      | _ => none
    some ⟨name, setting decimal, setting group, setting pattern, pairs⟩
  | _ => none

/-- Every locale that sets something of its own. -/
def conventions : List Convention := conventionLines.filterMap Convention.ofLine?

/-- What a locale sets itself, if anything. -/
def Convention.own? (name : String) : Option Convention := conventions.find? (·.name == name)

/-- A setting of a locale: its own, or the nearest ancestor's. -/
def setting? {α : Type} (name : String) (get : Convention → Option α) : Option α :=
  (lineage name).findSome? fun n => (Convention.own? n).bind get

/-- The decimal separator of a locale. -/
def decimalSymbol (name : String) : String := (setting? name (·.decimal)).getD "."

/-- The group separator of a locale. -/
def groupSymbol (name : String) : String := (setting? name (·.group)).getD ","

/-- The currency pattern of a locale. -/
def currencyPattern (name : String) : String := (setting? name (·.pattern)).getD "¤\u00a0#,##0.00"

/-- The symbol of a currency in a locale, or its code when no locale of the lineage has
one. -/
def currencySymbol (name code : String) : String :=
  (setting? name fun c => c.symbols.lookup code).getD code

end Billing.Locale
