import Billing.Locale.Tag

/-! # The locales with data

The catalog names every locale that has data, how a requested identifier is resolved to one
of them, and the parent each takes what it does not set from. An identifier is looked up
as it stands (without regard to case), then without its modifier. Failing that, its
language and territory are replaced by their current codes (`iw` becomes `he`, `UK`
becomes `GB`) and the identifier is completed by its likely subtags: first those listed for
the whole identifier, then those of its language alone with the territory kept. A
completed identifier is tried whole and then as language and territory alone, so
`zh_TW` resolves to `zh_Hant_TW`, `und` to `en_US` and `de_DE_1996` to `de_DE`.

A locale's parent is given by a table for regional groupings (`en_GB` takes from
`en_001`), is the root for a language written in a script other than its usual one
(`zh_Hant`), and is otherwise the identifier without its last part. -/
namespace Billing.Locale

/-- The names of the locales with data, several to a line. -/
def nameTable : List String :=
  ["aa aa_DJ aa_ER aa_ET ab ab_GE af af_NA af_ZA agq agq_CM ak ak_GH am am_ET an an_ES ann",
   "ann_NG apc apc_SY ar ar_001 ar_AE ar_BH ar_DJ ar_DZ ar_EG ar_EH ar_ER ar_IL ar_IQ ar_JO",
   "ar_KM ar_KW ar_LB ar_LY ar_MA ar_MR ar_OM ar_PS ar_QA ar_SA ar_SD ar_SO ar_SS ar_SY ar_TD",
   "ar_TN ar_YE arn arn_CL as as_IN asa asa_TZ ast ast_ES az az_Arab az_Arab_IQ az_Arab_IR",
   "az_Arab_TR az_Cyrl az_Cyrl_AZ az_Latn az_Latn_AZ ba ba_RU bal bal_Arab bal_Arab_PK bal_Latn",
   "bal_Latn_PK bas bas_CM be be_BY be_tarask bem bem_ZM bew bew_ID bez bez_TZ bg bg_BG bgc",
   "bgc_IN bgn bgn_AE bgn_AF bgn_IR bgn_OM bgn_PK bho bho_IN blo blo_BJ blt blt_VN bm bm_ML",
   "bm_Nkoo bm_Nkoo_ML bn bn_BD bn_IN bo bo_CN bo_IN br br_FR brx brx_IN bs bs_Cyrl bs_Cyrl_BA",
   "bs_Latn bs_Latn_BA bss bss_CM byn byn_ER ca ca_AD ca_ES ca_ES_valencia ca_FR ca_IT cad",
   "cad_US cch cch_NG ccp ccp_BD ccp_IN ce ce_RU ceb ceb_PH cgg cgg_UG cho cho_US chr chr_US",
   "cic cic_US ckb ckb_IQ ckb_IR co co_FR cop cop_EG cs cs_CZ csw csw_CA cu cu_RU cv cv_RU cy",
   "cy_GB da da_DK da_GL dav dav_KE de de_AT de_BE de_CH de_DE de_IT de_LI de_LU dje dje_NE doi",
   "doi_IN dsb dsb_DE dua dua_CM dv dv_MV dyo dyo_SN dz dz_BT ebu ebu_KE ee ee_GH ee_TG el",
   "el_CY el_GR el_POLYTON en en_001 en_150 en_AE en_AG en_AI en_AS en_AT en_AU en_BB en_BE",
   "en_BI en_BM en_BS en_BW en_BZ en_CA en_CC en_CH en_CK en_CM en_CX en_CY en_CZ en_DE en_DG",
   "en_DK en_DM en_Dsrt en_Dsrt_US en_EE en_ER en_ES en_FI en_FJ en_FK en_FM en_FR en_GB en_GD",
   "en_GE en_GG en_GH en_GI en_GM en_GS en_GU en_GY en_HK en_HU en_ID en_IE en_IL en_IM en_IN",
   "en_IO en_IT en_JE en_JM en_JP en_KE en_KI en_KN en_KY en_LC en_LR en_LS en_LT en_LV en_MG",
   "en_MH en_MO en_MP en_MS en_MT en_MU en_MV en_MW en_MY en_NA en_NF en_NG en_NL en_NO en_NR",
   "en_NU en_NZ en_PG en_PH en_PK en_PL en_PN en_PR en_PT en_PW en_RO en_RW en_SB en_SC en_SD",
   "en_SE en_SG en_SH en_SI en_SK en_SL en_SS en_SX en_SZ en_Shaw en_Shaw_GB en_TC en_TK en_TO",
   "en_TT en_TV en_TZ en_UA en_UG en_UM en_US en_US_POSIX en_VC en_VG en_VI en_VU en_WS en_ZA",
   "en_ZM en_ZW eo eo_001 es es_419 es_AR es_BO es_BR es_BZ es_CL es_CO es_CR es_CU es_DO es_EA",
   "es_EC es_ES es_GQ es_GT es_HN es_IC es_MX es_NI es_PA es_PE es_PH es_PR es_PY es_SV es_US",
   "es_UY es_VE et et_EE eu eu_ES ewo ewo_CM fa fa_AF fa_IR ff ff_Adlm ff_Adlm_BF ff_Adlm_CM",
   "ff_Adlm_GH ff_Adlm_GM ff_Adlm_GN ff_Adlm_GW ff_Adlm_LR ff_Adlm_MR ff_Adlm_NE ff_Adlm_NG",
   "ff_Adlm_SL ff_Adlm_SN ff_Latn ff_Latn_BF ff_Latn_CM ff_Latn_GH ff_Latn_GM ff_Latn_GN",
   "ff_Latn_GW ff_Latn_LR ff_Latn_MR ff_Latn_NE ff_Latn_NG ff_Latn_SL ff_Latn_SN fi fi_FI fil",
   "fil_PH fo fo_DK fo_FO fr fr_BE fr_BF fr_BI fr_BJ fr_BL fr_CA fr_CD fr_CF fr_CG fr_CH fr_CI",
   "fr_CM fr_DJ fr_DZ fr_FR fr_GA fr_GF fr_GN fr_GP fr_GQ fr_HT fr_KM fr_LU fr_MA fr_MC fr_MF",
   "fr_MG fr_ML fr_MQ fr_MR fr_MU fr_NC fr_NE fr_PF fr_PM fr_RE fr_RW fr_SC fr_SN fr_SY fr_TD",
   "fr_TG fr_TN fr_VU fr_WF fr_YT frr frr_DE fur fur_IT fy fy_NL ga ga_GB ga_IE gaa gaa_GH gd",
   "gd_GB gez gez_ER gez_ET gl gl_ES gn gn_PY gsw gsw_CH gsw_FR gsw_LI gu gu_IN guz guz_KE gv",
   "gv_IM ha ha_Arab ha_Arab_NG ha_Arab_SD ha_GH ha_NE ha_NG haw haw_US he he_IL hi hi_IN",
   "hi_Latn hi_Latn_IN hnj hnj_Hmnp hnj_Hmnp_US hr hr_BA hr_HR hsb hsb_DE ht ht_HT hu hu_HU hy",
   "hy_AM ia ia_001 id id_ID ie ie_EE ig ig_NG ii ii_CN io io_001 is is_IS it it_CH it_IT it_SM",
   "it_VA iu iu_CA iu_Latn iu_Latn_CA ja ja_JP jbo jbo_001 jgo jgo_CM jmc jmc_TZ jv jv_ID ka",
   "ka_GE kaa kaa_Cyrl kaa_Cyrl_UZ kaa_Latn kaa_Latn_UZ kab kab_DZ kaj kaj_NG kam kam_KE kcg",
   "kcg_NG kde kde_TZ kea kea_CV ken ken_CM kgp kgp_BR khq khq_ML ki ki_KE kk kk_Arab",
   "kk_Arab_CN kk_Cyrl kk_Cyrl_KZ kk_KZ kkj kkj_CM kl kl_GL kln kln_KE km km_KH kn kn_IN ko",
   "ko_CN ko_KP ko_KR kok kok_Deva kok_Deva_IN kok_IN kok_Latn kok_Latn_IN kpe kpe_GN kpe_LR ks",
   "ks_Arab ks_Arab_IN ks_Deva ks_Deva_IN ksb ksb_TZ ksf ksf_CM ksh ksh_DE ku ku_TR kw kw_GB",
   "kxv kxv_Deva kxv_Deva_IN kxv_Latn kxv_Latn_IN kxv_Orya kxv_Orya_IN kxv_Telu kxv_Telu_IN ky",
   "ky_KG la la_VA lag lag_TZ lb lb_LU lg lg_UG lij lij_IT lkt lkt_US lld lld_IT lmo lmo_IT ln",
   "ln_AO ln_CD ln_CF ln_CG lo lo_LA lrc lrc_IQ lrc_IR lt lt_LT ltg ltg_LV lu lu_CD luo luo_KE",
   "luy luy_KE lv lv_LV mai mai_IN mas mas_KE mas_TZ mdf mdf_RU mer mer_KE mfe mfe_MU mg mg_MG",
   "mgh mgh_MZ mgo mgo_CM mhn mhn_IT mi mi_NZ mic mic_CA mk mk_MK ml ml_IN mn mn_MN mn_Mong",
   "mn_Mong_CN mn_Mong_MN mni mni_Beng mni_Beng_IN mni_Mtei mni_Mtei_IN moh moh_CA mr mr_IN ms",
   "ms_Arab ms_Arab_BN ms_Arab_MY ms_BN ms_ID ms_MY ms_SG mt mt_MT mua mua_CM mus mus_US my",
   "my_MM myv myv_RU mzn mzn_IR naq naq_NA nb nb_NO nb_SJ nd nd_ZW nds nds_DE nds_NL ne ne_IN",
   "ne_NP nl nl_AW nl_BE nl_BQ nl_CW nl_NL nl_SR nl_SX nmg nmg_CM nn nn_NO nnh nnh_CM no nqo",
   "nqo_GN nr nr_ZA nso nso_ZA nus nus_SS nv nv_US ny ny_MW nyn nyn_UG oc oc_ES oc_FR om om_ET",
   "om_KE or or_IN os os_GE os_RU osa osa_US pa pa_Arab pa_Arab_PK pa_Guru pa_Guru_IN pap",
   "pap_AW pap_CW pcm pcm_NG pis pis_SB pl pl_PL prg prg_PL ps ps_AF ps_PK pt pt_AO pt_BR pt_CH",
   "pt_CV pt_GQ pt_GW pt_LU pt_MO pt_MZ pt_PT pt_ST pt_TL qu qu_BO qu_EC qu_PE quc quc_GT raj",
   "raj_IN rhg rhg_Rohg rhg_Rohg_BD rhg_Rohg_MM rif rif_MA rm rm_CH rn rn_BI ro ro_MD ro_RO rof",
   "rof_TZ root ru ru_BY ru_KG ru_KZ ru_MD ru_RU ru_UA rw rw_RW rwk rwk_TZ sa sa_IN sah sah_RU",
   "saq saq_KE sat sat_Deva sat_Deva_IN sat_Olck sat_Olck_IN sbp sbp_TZ sc sc_IT scn scn_IT sd",
   "sd_Arab sd_Arab_PK sd_Deva sd_Deva_IN sdh sdh_IQ sdh_IR se se_FI se_NO se_SE seh seh_MZ ses",
   "ses_ML sg sg_CF shi shi_Latn shi_Latn_MA shi_Tfng shi_Tfng_MA shn shn_MM shn_TH si si_LK",
   "sid sid_ET sk sk_SK skr skr_PK sl sl_SI sma sma_NO sma_SE smj smj_NO smj_SE smn smn_FI sms",
   "sms_FI sn sn_ZW so so_DJ so_ET so_KE so_SO sq sq_AL sq_MK sq_XK sr sr_Cyrl sr_Cyrl_BA",
   "sr_Cyrl_ME sr_Cyrl_RS sr_Cyrl_XK sr_Latn sr_Latn_BA sr_Latn_ME sr_Latn_RS sr_Latn_XK ss",
   "ss_SZ ss_ZA ssy ssy_ER st st_LS st_ZA su su_Latn su_Latn_ID sv sv_AX sv_FI sv_SE sw sw_CD",
   "sw_KE sw_TZ sw_UG syr syr_IQ syr_SY szl szl_PL ta ta_IN ta_LK ta_MY ta_SG te te_IN teo",
   "teo_KE teo_UG tg tg_TJ th th_TH ti ti_ER ti_ET tig tig_ER tk tk_TM tn tn_BW tn_ZA to to_TO",
   "tok tok_001 tpi tpi_PG tr tr_CY tr_TR trv trv_TW trw trw_PK ts ts_ZA tt tt_RU twq twq_NE",
   "tyv tyv_RU tzm tzm_MA ug ug_CN uk uk_UA ur ur_IN ur_PK uz uz_Arab uz_Arab_AF uz_Cyrl",
   "uz_Cyrl_UZ uz_Latn uz_Latn_UZ vai vai_Latn vai_Latn_LR vai_Vaii vai_Vaii_LR ve ve_ZA vec",
   "vec_IT vi vi_VN vmw vmw_MZ vo vo_001 vun vun_TZ wa wa_BE wae wae_CH wal wal_ET wbp wbp_AU",
   "wo wo_SN xh xh_ZA xnr xnr_IN xog xog_UG yav yav_CM yi yi_UA yo yo_BJ yo_NG yrl yrl_BR",
   "yrl_CO yrl_VE yue yue_Hans yue_Hans_CN yue_Hant yue_Hant_CN yue_Hant_HK za za_CN zgh zgh_MA",
   "zh zh_Hans zh_Hans_CN zh_Hans_HK zh_Hans_MO zh_Hans_MY zh_Hans_SG zh_Hant zh_Hant_HK",
   "zh_Hant_MO zh_Hant_MY zh_Hant_TW zh_Latn zh_Latn_CN zu zu_ZA"]

/-- The names of the locales with data. -/
def names : List String := nameTable.flatMap (·.splitOn " ")

/-- The pairs `from>to` of a table, several to a line. -/
def pairs (text : List String) : List (String × String) :=
  (text.flatMap (·.splitOn " ")).filterMap fun e =>
    match e.splitOn ">" with
    | [a, b] => some (a, b)
    | _ => none

/-- Likely subtags: the full identifier an identifier or a language stands for. -/
def likelyTable : List String :=
  ["aa>aa_Latn_ET ab>ab_Cyrl_GE af>af_Latn_ZA agq>agq_Latn_CM ak>ak_Latn_GH am>am_Ethi_ET",
   "an>an_Latn_ES ann>ann_Latn_NG apc>apc_Arab_SY ar>ar_Arab_EG arn>arn_Latn_CL as>as_Beng_IN",
   "asa>asa_Latn_TZ ast>ast_Latn_ES az>az_Latn_AZ az_Arab>az_Arab_IR az_IQ>az_Arab_IQ",
   "az_IR>az_Arab_IR az_RU>az_Cyrl_RU ba>ba_Cyrl_RU bal>bal_Arab_PK bas>bas_Latn_CM",
   "be>be_Cyrl_BY bem>bem_Latn_ZM bew>bew_Latn_ID bez>bez_Latn_TZ bg>bg_Cyrl_BG bgc>bgc_Deva_IN",
   "bgn>bgn_Arab_PK bho>bho_Deva_IN blo>blo_Latn_BJ blt>blt_Tavt_VN bm>bm_Latn_ML bn>bn_Beng_BD",
   "bo>bo_Tibt_CN br>br_Latn_FR brx>brx_Deva_IN bs>bs_Latn_BA bss>bss_Latn_CM byn>byn_Ethi_ER",
   "ca>ca_Latn_ES cad>cad_Latn_US cch>cch_Latn_NG ccp>ccp_Cakm_BD ce>ce_Cyrl_RU ceb>ceb_Latn_PH",
   "cgg>cgg_Latn_UG cho>cho_Latn_US chr>chr_Cher_US cic>cic_Latn_US ckb>ckb_Arab_IQ",
   "co>co_Latn_FR cop>cop_Copt_EG cs>cs_Latn_CZ csw>csw_Cans_CA cu>cu_Cyrl_RU",
   "cu_Glag>cu_Glag_BG cv>cv_Cyrl_RU cy>cy_Latn_GB da>da_Latn_DK dav>dav_Latn_KE de>de_Latn_DE",
   "dje>dje_Latn_NE doi>doi_Deva_IN dsb>dsb_Latn_DE dua>dua_Latn_CM dv>dv_Thaa_MV",
   "dyo>dyo_Latn_SN dz>dz_Tibt_BT ebu>ebu_Latn_KE ee>ee_Latn_GH el>el_Grek_GR en>en_Latn_US",
   "en_Shaw>en_Shaw_GB eo>eo_Latn_001 es>es_Latn_ES et>et_Latn_EE eu>eu_Latn_ES ewo>ewo_Latn_CM",
   "fa>fa_Arab_IR ff>ff_Latn_SN ff_Adlm>ff_Adlm_GN fi>fi_Latn_FI fil>fil_Latn_PH fo>fo_Latn_FO",
   "fr>fr_Latn_FR frr>frr_Latn_DE fur>fur_Latn_IT fy>fy_Latn_NL ga>ga_Latn_IE gaa>gaa_Latn_GH",
   "gd>gd_Latn_GB gez>gez_Ethi_ET gl>gl_Latn_ES gn>gn_Latn_PY gsw>gsw_Latn_CH gu>gu_Gujr_IN",
   "guz>guz_Latn_KE gv>gv_Latn_IM ha>ha_Latn_NG ha_CM>ha_Arab_CM ha_SD>ha_Arab_SD",
   "haw>haw_Latn_US he>he_Hebr_IL hi>hi_Deva_IN hnj>hnj_Hmnp_US hnj_Hmng>hnj_Hmng_LA",
   "hr>hr_Latn_HR hsb>hsb_Latn_DE ht>ht_Latn_HT hu>hu_Latn_HU hy>hy_Armn_AM ia>ia_Latn_001",
   "id>id_Latn_ID ie>ie_Latn_EE ig>ig_Latn_NG ii>ii_Yiii_CN io>io_Latn_001 is>is_Latn_IS",
   "it>it_Latn_IT iu>iu_Cans_CA ja>ja_Jpan_JP jbo>jbo_Latn_001 jgo>jgo_Latn_CM jmc>jmc_Latn_TZ",
   "jv>jv_Latn_ID ka>ka_Geor_GE kaa>kaa_Cyrl_UZ kab>kab_Latn_DZ kaj>kaj_Latn_NG kam>kam_Latn_KE",
   "kcg>kcg_Latn_NG kde>kde_Latn_TZ kea>kea_Latn_CV ken>ken_Latn_CM kgp>kgp_Latn_BR",
   "khq>khq_Latn_ML ki>ki_Latn_KE kk>kk_Cyrl_KZ kk_AF>kk_Arab_AF kk_Arab>kk_Arab_CN",
   "kk_CN>kk_Arab_CN kk_IR>kk_Arab_IR kk_MN>kk_Arab_MN kkj>kkj_Latn_CM kl>kl_Latn_GL",
   "kln>kln_Latn_KE km>km_Khmr_KH kn>kn_Knda_IN ko>ko_Kore_KR kok>kok_Deva_IN kpe>kpe_Latn_LR",
   "ks>ks_Arab_IN ksb>ksb_Latn_TZ ksf>ksf_Latn_CM ksh>ksh_Latn_DE ku>ku_Latn_TR",
   "ku_AM>ku_Cyrl_AM ku_AZ>ku_Cyrl_AZ ku_Arab>ku_Arab_IQ ku_Cyrl>ku_Cyrl_AM ku_GE>ku_Cyrl_GE",
   "ku_IQ>ku_Arab_IQ ku_IR>ku_Arab_IR ku_LB>ku_Arab_LB ku_TM>ku_Cyrl_TM kw>kw_Latn_GB",
   "kxv>kxv_Latn_IN ky>ky_Cyrl_KG ky_Arab>ky_Arab_CN ky_CN>ky_Arab_CN ky_Latn>ky_Latn_TR",
   "ky_TR>ky_Latn_TR la>la_Latn_VA lag>lag_Latn_TZ lb>lb_Latn_LU lg>lg_Latn_UG lij>lij_Latn_IT",
   "lkt>lkt_Latn_US lld>lld_Latn_IT lmo>lmo_Latn_IT ln>ln_Latn_CD lo>lo_Laoo_LA lrc>lrc_Arab_IR",
   "lt>lt_Latn_LT ltg>ltg_Latn_LV lu>lu_Latn_CD luo>luo_Latn_KE luy>luy_Latn_KE lv>lv_Latn_LV",
   "mai>mai_Deva_IN mas>mas_Latn_KE mdf>mdf_Cyrl_RU mer>mer_Latn_KE mfe>mfe_Latn_MU",
   "mg>mg_Latn_MG mgh>mgh_Latn_MZ mgo>mgo_Latn_CM mhn>mhn_Latn_IT mi>mi_Latn_NZ mic>mic_Latn_CA",
   "mk>mk_Cyrl_MK ml>ml_Mlym_IN mn>mn_Cyrl_MN mn_CN>mn_Mong_CN mn_Mong>mn_Mong_CN",
   "mni>mni_Beng_IN moh>moh_Latn_CA mr>mr_Deva_IN ms>ms_Latn_MY ms_CC>ms_Arab_CC mt>mt_Latn_MT",
   "mua>mua_Latn_CM mus>mus_Latn_US my>my_Mymr_MM myv>myv_Cyrl_RU mzn>mzn_Arab_IR",
   "naq>naq_Latn_NA nb>nb_Latn_NO nd>nd_Latn_ZW nds>nds_Latn_DE ne>ne_Deva_NP nl>nl_Latn_NL",
   "nmg>nmg_Latn_CM nn>nn_Latn_NO nnh>nnh_Latn_CM no>no_Latn_NO nqo>nqo_Nkoo_GN nr>nr_Latn_ZA",
   "nso>nso_Latn_ZA nus>nus_Latn_SS nv>nv_Latn_US ny>ny_Latn_MW nyn>nyn_Latn_UG oc>oc_Latn_FR",
   "om>om_Latn_ET or>or_Orya_IN os>os_Cyrl_GE osa>osa_Osge_US pa>pa_Guru_IN pa_Arab>pa_Arab_PK",
   "pa_PK>pa_Arab_PK pap>pap_Latn_CW pcm>pcm_Latn_NG pis>pis_Latn_SB pl>pl_Latn_PL",
   "prg>prg_Latn_PL ps>ps_Arab_AF pt>pt_Latn_BR qu>qu_Latn_PE quc>quc_Latn_GT raj>raj_Deva_IN",
   "rhg>rhg_Rohg_MM rif>rif_Latn_MA rm>rm_Latn_CH rn>rn_Latn_BI ro>ro_Latn_RO rof>rof_Latn_TZ",
   "ru>ru_Cyrl_RU rw>rw_Latn_RW rwk>rwk_Latn_TZ sa>sa_Deva_IN sah>sah_Cyrl_RU saq>saq_Latn_KE",
   "sat>sat_Olck_IN sbp>sbp_Latn_TZ sc>sc_Latn_IT scn>scn_Latn_IT sd>sd_Arab_PK",
   "sd_Deva>sd_Deva_IN sd_IN>sd_Deva_IN sd_Khoj>sd_Khoj_IN sd_Sind>sd_Sind_IN sdh>sdh_Arab_IR",
   "se>se_Latn_NO seh>seh_Latn_MZ ses>ses_Latn_ML sg>sg_Latn_CF shi>shi_Tfng_MA shn>shn_Mymr_MM",
   "si>si_Sinh_LK sid>sid_Latn_ET sk>sk_Latn_SK skr>skr_Arab_PK sl>sl_Latn_SI sma>sma_Latn_SE",
   "smj>smj_Latn_SE smn>smn_Latn_FI sms>sms_Latn_FI sn>sn_Latn_ZW so>so_Latn_SO sq>sq_Latn_AL",
   "sr>sr_Cyrl_RS sr_ME>sr_Latn_ME sr_RO>sr_Latn_RO sr_TR>sr_Latn_TR ss>ss_Latn_ZA",
   "ssy>ssy_Latn_ER st>st_Latn_ZA su>su_Latn_ID sv>sv_Latn_SE sw>sw_Latn_TZ syr>syr_Syrc_IQ",
   "szl>szl_Latn_PL ta>ta_Taml_IN te>te_Telu_IN teo>teo_Latn_UG tg>tg_Cyrl_TJ",
   "tg_Arab>tg_Arab_PK tg_PK>tg_Arab_PK th>th_Thai_TH ti>ti_Ethi_ET tig>tig_Ethi_ER",
   "tk>tk_Latn_TM tn>tn_Latn_ZA to>to_Latn_TO tok>tok_Latn_001 tpi>tpi_Latn_PG tr>tr_Latn_TR",
   "trv>trv_Latn_TW trw>trw_Arab_PK ts>ts_Latn_ZA tt>tt_Cyrl_RU twq>twq_Latn_NE tyv>tyv_Cyrl_RU",
   "tzm>tzm_Latn_MA ug>ug_Arab_CN ug_Cyrl>ug_Cyrl_KZ ug_KZ>ug_Cyrl_KZ ug_MN>ug_Cyrl_MN",
   "uk>uk_Cyrl_UA und>en_Latn_US und_001>en_Latn_001 und_002>en_Latn_002 und_003>en_Latn_003",
   "und_005>en_Latn_005 und_009>en_Latn_009 und_011>en_Latn_011 und_013>en_Latn_013",
   "und_014>en_Latn_014 und_015>en_Latn_015 und_017>en_Latn_017 und_018>en_Latn_018",
   "und_019>en_Latn_019 und_021>en_Latn_021 und_029>en_Latn_029 und_030>en_Latn_030",
   "und_034>en_Latn_034 und_035>en_Latn_035 und_039>en_Latn_039 und_053>en_Latn_053",
   "und_054>en_Latn_054 und_057>en_Latn_057 und_061>en_Latn_061 und_142>en_Latn_142",
   "und_143>en_Latn_143 und_145>en_Latn_145 und_150>en_Latn_150 und_151>en_Latn_151",
   "und_154>en_Latn_154 und_155>en_Latn_155 und_202>en_Latn_202 und_419>es_Latn_419",
   "und_AA>en_Latn_AA und_AB>en_Latn_AB und_AC>en_Latn_AC und_AD>ca_Latn_AD und_AE>ar_Arab_AE",
   "und_AF>fa_Arab_AF und_AG>en_Latn_AG und_AH>en_Latn_AH und_AI>en_Latn_AI und_AJ>en_Latn_AJ",
   "und_AK>en_Latn_AK und_AL>sq_Latn_AL und_AM>hy_Armn_AM und_AN>pap_Latn_CW und_AO>pt_Latn_AO",
   "und_AP>en_Latn_AP und_AQ>en_Latn_AQ und_AR>es_Latn_AR und_AS>sm_Latn_AS und_AT>de_Latn_AT",
   "und_AU>en_Latn_AU und_AV>en_Latn_AV und_AW>nl_Latn_AW und_AX>sv_Latn_AX und_AY>en_Latn_AY",
   "und_AZ>az_Latn_AZ und_Adlm>ff_Adlm_GN und_Aghb>xag_Aghb_AZ und_Arab>ar_Arab_EG",
   "und_Armn>hy_Armn_AM und_BA>bs_Latn_BA und_BB>en_Latn_BB und_BC>en_Latn_BC und_BD>bn_Beng_BD",
   "und_BE>nl_Latn_BE und_BF>fr_Latn_BF und_BG>bg_Cyrl_BG und_BH>ar_Arab_BH und_BI>rn_Latn_BI",
   "und_BJ>fr_Latn_BJ und_BK>en_Latn_BK und_BL>fr_Latn_BL und_BM>en_Latn_BM und_BN>ms_Latn_BN",
   "und_BO>es_Latn_BO und_BP>en_Latn_BP und_BQ>pap_Latn_BQ und_BR>pt_Latn_BR und_BS>en_Latn_BS",
   "und_BT>dz_Tibt_BT und_BU>my_Mymr_MM und_BV>no_Latn_BV und_BW>en_Latn_BW und_BX>en_Latn_BX",
   "und_BY>ru_Cyrl_BY und_BZ>en_Latn_BZ und_Bali>ban_Bali_ID und_Bamu>bax_Bamu_CM",
   "und_Beng>bn_Beng_BD und_Bopo>zh_Bopo_TW und_Brai>fr_Brai_FR und_CA>en_Latn_CA",
   "und_CB>en_Latn_CB und_CC>ms_Arab_CC und_CD>fr_Latn_CD und_CE>en_Latn_CE und_CF>sg_Latn_CF",
   "und_CG>fr_Latn_CG und_CH>de_Latn_CH und_CI>fr_Latn_CI und_CJ>en_Latn_CJ und_CK>en_Latn_CK",
   "und_CL>es_Latn_CL und_CM>fr_Latn_CM und_CN>zh_Hans_CN und_CO>es_Latn_CO und_CP>en_Latn_CP",
   "und_CQ>en_Latn_CQ und_CR>es_Latn_CR und_CS>sr_Cyrl_RS und_CT>en_Latn_KI und_CU>es_Latn_CU",
   "und_CV>pt_Latn_CV und_CW>pap_Latn_CW und_CX>en_Latn_CX und_CY>el_Grek_CY und_CZ>cs_Latn_CZ",
   "und_Cakm>ccp_Cakm_BD und_Cans>iu_Cans_CA und_Cher>chr_Cher_US und_Copt>cop_Copt_EG",
   "und_Cyrl>ru_Cyrl_RU und_DA>en_Latn_DA und_DB>en_Latn_DB und_DC>en_Latn_DC und_DD>de_Latn_DE",
   "und_DE>de_Latn_DE und_DF>en_Latn_DF und_DG>en_Latn_DG und_DH>en_Latn_DH und_DI>en_Latn_DI",
   "und_DJ>fr_Latn_DJ und_DK>da_Latn_DK und_DL>en_Latn_DL und_DM>en_Latn_DM und_DN>en_Latn_DN",
   "und_DO>es_Latn_DO und_DP>en_Latn_DP und_DQ>en_Latn_DQ und_DR>en_Latn_DR und_DS>en_Latn_DS",
   "und_DT>en_Latn_DT und_DU>en_Latn_DU und_DV>en_Latn_DV und_DW>en_Latn_DW und_DX>en_Latn_DX",
   "und_DY>fr_Latn_BJ und_DZ>ar_Arab_DZ und_Deva>hi_Deva_IN und_Dsrt>en_Dsrt_US",
   "und_EA>es_Latn_EA und_EB>en_Latn_EB und_EC>es_Latn_EC und_ED>en_Latn_ED und_EE>et_Latn_EE",
   "und_EF>en_Latn_EF und_EG>ar_Arab_EG und_EH>ar_Arab_EH und_EI>en_Latn_EI und_EJ>en_Latn_EJ",
   "und_EK>en_Latn_EK und_EL>en_Latn_EL und_EM>en_Latn_EM und_EN>en_Latn_EN und_EO>en_Latn_EO",
   "und_EP>en_Latn_EP und_EQ>en_Latn_EQ und_ER>ti_Ethi_ER und_ES>es_Latn_ES und_ET>am_Ethi_ET",
   "und_EU>en_Latn_EU und_EV>en_Latn_EV und_EW>en_Latn_EW und_EX>en_Latn_EX und_EY>en_Latn_EY",
   "und_EZ>en_Latn_EZ und_Ethi>am_Ethi_ET und_FA>en_Latn_FA und_FB>en_Latn_FB und_FC>en_Latn_FC",
   "und_FD>en_Latn_FD und_FE>en_Latn_FE und_FF>en_Latn_FF und_FG>en_Latn_FG und_FH>en_Latn_FH",
   "und_FI>fi_Latn_FI und_FJ>en_Latn_FJ und_FK>en_Latn_FK und_FL>en_Latn_FL und_FM>en_Latn_FM",
   "und_FN>en_Latn_FN und_FO>fo_Latn_FO und_FP>en_Latn_FP und_FQ>en_Latn_AQ und_FR>fr_Latn_FR",
   "und_FS>en_Latn_FS und_FT>en_Latn_FT und_FU>en_Latn_FU und_FV>en_Latn_FV und_FW>en_Latn_FW",
   "und_FX>fr_Latn_FR und_FY>en_Latn_FY und_FZ>en_Latn_FZ und_GA>fr_Latn_GA und_GB>en_Latn_GB",
   "und_GC>en_Latn_GC und_GD>en_Latn_GD und_GE>ka_Geor_GE und_GF>fr_Latn_GF und_GG>en_Latn_GG",
   "und_GH>ak_Latn_GH und_GI>en_Latn_GI und_GJ>en_Latn_GJ und_GK>en_Latn_GK und_GL>kl_Latn_GL",
   "und_GM>en_Latn_GM und_GN>fr_Latn_GN und_GO>en_Latn_GO und_GP>fr_Latn_GP und_GQ>es_Latn_GQ",
   "und_GR>el_Grek_GR und_GS>en_Latn_GS und_GT>es_Latn_GT und_GU>en_Latn_GU und_GV>en_Latn_GV",
   "und_GW>pt_Latn_GW und_GX>en_Latn_GX und_GY>en_Latn_GY und_GZ>en_Latn_GZ und_Geor>ka_Geor_GE",
   "und_Glag>cu_Glag_BG und_Gong>wsg_Gong_IN und_Goth>got_Goth_UA und_Grek>el_Grek_GR",
   "und_Gujr>gu_Gujr_IN und_Guru>pa_Guru_IN und_HA>en_Latn_HA und_HB>en_Latn_HB",
   "und_HC>en_Latn_HC und_HD>en_Latn_HD und_HE>en_Latn_HE und_HF>en_Latn_HF und_HG>en_Latn_HG",
   "und_HH>en_Latn_HH und_HI>en_Latn_HI und_HJ>en_Latn_HJ und_HK>zh_Hant_HK und_HL>en_Latn_HL",
   "und_HM>en_Latn_HM und_HN>es_Latn_HN und_HO>en_Latn_HO und_HP>en_Latn_HP und_HQ>en_Latn_HQ",
   "und_HR>hr_Latn_HR und_HS>en_Latn_HS und_HT>ht_Latn_HT und_HU>hu_Latn_HU und_HV>fr_Latn_BF",
   "und_HW>en_Latn_HW und_HX>en_Latn_HX und_HY>en_Latn_HY und_HZ>en_Latn_HZ und_Hanb>zh_Hanb_TW",
   "und_Hang>ko_Hang_KR und_Hani>zh_Hani_CN und_Hans>zh_Hans_CN und_Hant>zh_Hant_TW",
   "und_Hebr>he_Hebr_IL und_Hira>ja_Hira_JP und_Hmng>hnj_Hmng_LA und_Hmnp>mww_Hmnp_US",
   "und_IA>en_Latn_IA und_IB>en_Latn_IB und_IC>es_Latn_IC und_ID>id_Latn_ID und_IE>en_Latn_IE",
   "und_IF>en_Latn_IF und_IG>en_Latn_IG und_IH>en_Latn_IH und_II>en_Latn_II und_IJ>en_Latn_IJ",
   "und_IK>en_Latn_IK und_IL>he_Hebr_IL und_IM>en_Latn_IM und_IN>hi_Deva_IN und_IO>en_Latn_IO",
   "und_IP>en_Latn_IP und_IQ>ar_Arab_IQ und_IR>fa_Arab_IR und_IS>is_Latn_IS und_IT>it_Latn_IT",
   "und_IU>en_Latn_IU und_IV>en_Latn_IV und_IW>en_Latn_IW und_IX>en_Latn_IX und_IY>en_Latn_IY",
   "und_IZ>en_Latn_IZ und_JA>en_Latn_JA und_JB>en_Latn_JB und_JC>en_Latn_JC und_JD>en_Latn_JD",
   "und_JE>en_Latn_JE und_JF>en_Latn_JF und_JG>en_Latn_JG und_JH>en_Latn_JH und_JI>en_Latn_JI",
   "und_JJ>en_Latn_JJ und_JK>en_Latn_JK und_JL>en_Latn_JL und_JM>en_Latn_JM und_JN>en_Latn_JN",
   "und_JO>ar_Arab_JO und_JP>ja_Jpan_JP und_JQ>en_Latn_JQ und_JR>en_Latn_JR und_JS>en_Latn_JS",
   "und_JT>en_Latn_UM und_JU>en_Latn_JU und_JV>en_Latn_JV und_JW>en_Latn_JW und_JX>en_Latn_JX",
   "und_JY>en_Latn_JY und_JZ>en_Latn_JZ und_Jamo>ko_Jamo_KR und_Java>jv_Java_ID",
   "und_Jpan>ja_Jpan_JP und_KA>en_Latn_KA und_KB>en_Latn_KB und_KC>en_Latn_KC und_KD>en_Latn_KD",
   "und_KE>sw_Latn_KE und_KF>en_Latn_KF und_KG>ky_Cyrl_KG und_KH>km_Khmr_KH und_KI>en_Latn_KI",
   "und_KJ>en_Latn_KJ und_KK>en_Latn_KK und_KL>en_Latn_KL und_KM>ar_Arab_KM und_KN>en_Latn_KN",
   "und_KO>en_Latn_KO und_KP>ko_Kore_KP und_KQ>en_Latn_KQ und_KR>ko_Kore_KR und_KS>en_Latn_KS",
   "und_KT>en_Latn_KT und_KU>en_Latn_KU und_KV>en_Latn_KV und_KW>ar_Arab_KW und_KX>en_Latn_KX",
   "und_KY>en_Latn_KY und_KZ>ru_Cyrl_KZ und_Kali>eky_Kali_MM und_Kana>ja_Kana_JP",
   "und_Kawi>kaw_Kawi_ID und_Khmr>km_Khmr_KH und_Khoj>sd_Khoj_IN und_Knda>kn_Knda_IN",
   "und_Kore>ko_Kore_KR und_Krai>bap_Krai_IN und_LA>lo_Laoo_LA und_LB>ar_Arab_LB",
   "und_LC>en_Latn_LC und_LD>en_Latn_LD und_LE>en_Latn_LE und_LF>en_Latn_LF und_LG>en_Latn_LG",
   "und_LH>en_Latn_LH und_LI>de_Latn_LI und_LJ>en_Latn_LJ und_LK>si_Sinh_LK und_LL>en_Latn_LL",
   "und_LM>en_Latn_LM und_LN>en_Latn_LN und_LO>en_Latn_LO und_LP>en_Latn_LP und_LQ>en_Latn_LQ",
   "und_LR>en_Latn_LR und_LS>st_Latn_LS und_LT>lt_Latn_LT und_LU>fr_Latn_LU und_LV>lv_Latn_LV",
   "und_LW>en_Latn_LW und_LX>en_Latn_LX und_LY>ar_Arab_LY und_LZ>en_Latn_LZ und_Laoo>lo_Laoo_LA",
   "und_Latn>en_Latn_US und_Lisu>lis_Lisu_CN und_MA>ar_Arab_MA und_MB>en_Latn_MB",
   "und_MC>fr_Latn_MC und_MD>ro_Latn_MD und_ME>sr_Latn_ME und_MF>fr_Latn_MF und_MG>mg_Latn_MG",
   "und_MH>en_Latn_MH und_MI>en_Latn_UM und_MJ>en_Latn_MJ und_MK>mk_Cyrl_MK und_ML>bm_Latn_ML",
   "und_MM>my_Mymr_MM und_MN>mn_Cyrl_MN und_MO>zh_Hant_MO und_MP>en_Latn_MP und_MQ>fr_Latn_MQ",
   "und_MR>ar_Arab_MR und_MS>en_Latn_MS und_MT>mt_Latn_MT und_MU>fr_Latn_MU und_MV>dv_Thaa_MV",
   "und_MW>en_Latn_MW und_MX>es_Latn_MX und_MY>ms_Latn_MY und_MZ>pt_Latn_MZ und_Mlym>ml_Mlym_IN",
   "und_Mong>mn_Mong_CN und_Mtei>mni_Mtei_IN und_Mymr>my_Mymr_MM und_NA>af_Latn_NA",
   "und_NB>en_Latn_NB und_NC>fr_Latn_NC und_ND>en_Latn_ND und_NE>ha_Latn_NE und_NF>en_Latn_NF",
   "und_NG>en_Latn_NG und_NH>bi_Latn_VU und_NI>es_Latn_NI und_NJ>en_Latn_NJ und_NK>en_Latn_NK",
   "und_NL>nl_Latn_NL und_NM>en_Latn_NM und_NN>en_Latn_NN und_NO>nb_Latn_NO und_NP>ne_Deva_NP",
   "und_NQ>en_Latn_AQ und_NR>en_Latn_NR und_NS>en_Latn_NS und_NT>ar_Arab_SA und_NU>en_Latn_NU",
   "und_NV>en_Latn_NV und_NW>en_Latn_NW und_NX>en_Latn_NX und_NY>en_Latn_NY und_NZ>en_Latn_NZ",
   "und_Nagm>unr_Nagm_IN und_Nkoo>man_Nkoo_GN und_OA>en_Latn_OA und_OB>en_Latn_OB",
   "und_OC>en_Latn_OC und_OD>en_Latn_OD und_OE>en_Latn_OE und_OF>en_Latn_OF und_OG>en_Latn_OG",
   "und_OH>en_Latn_OH und_OI>en_Latn_OI und_OJ>en_Latn_OJ und_OK>en_Latn_OK und_OL>en_Latn_OL",
   "und_OM>ar_Arab_OM und_ON>en_Latn_ON und_OO>en_Latn_OO und_OP>en_Latn_OP und_OQ>en_Latn_OQ",
   "und_OR>en_Latn_OR und_OS>en_Latn_OS und_OT>en_Latn_OT und_OU>en_Latn_OU und_OV>en_Latn_OV",
   "und_OW>en_Latn_OW und_OX>en_Latn_OX und_OY>en_Latn_OY und_OZ>en_Latn_OZ",
   "und_Olck>sat_Olck_IN und_Onao>unr_Onao_IN und_Orya>or_Orya_IN und_Osge>osa_Osge_US",
   "und_PA>es_Latn_PA und_PB>en_Latn_PB und_PC>en_Latn_FM und_PD>en_Latn_PD und_PE>es_Latn_PE",
   "und_PF>fr_Latn_PF und_PG>tpi_Latn_PG und_PH>fil_Latn_PH und_PI>en_Latn_PI und_PJ>en_Latn_PJ",
   "und_PK>ur_Arab_PK und_PL>pl_Latn_PL und_PM>fr_Latn_PM und_PN>en_Latn_PN und_PO>en_Latn_PO",
   "und_PP>en_Latn_PP und_PQ>en_Latn_PQ und_PR>es_Latn_PR und_PS>ar_Arab_PS und_PT>pt_Latn_PT",
   "und_PU>en_Latn_UM und_PV>en_Latn_PV und_PW>pau_Latn_PW und_PX>en_Latn_PX und_PY>gn_Latn_PY",
   "und_PZ>es_Latn_PA und_QA>ar_Arab_QA und_QB>en_Latn_QB und_QC>en_Latn_QC und_QD>en_Latn_QD",
   "und_QE>en_Latn_QE und_QF>en_Latn_QF und_QG>en_Latn_QG und_QH>en_Latn_QH und_QI>en_Latn_QI",
   "und_QJ>en_Latn_QJ und_QK>en_Latn_QK und_QL>en_Latn_QL und_QM>en_Latn_QM und_QN>en_Latn_QN",
   "und_QO>en_Latn_QO und_QP>en_Latn_QP und_QQ>en_Latn_QQ und_QR>en_Latn_QR und_QS>en_Latn_QS",
   "und_QT>en_Latn_QT und_QU>en_Latn_EU und_QV>en_Latn_QV und_QW>en_Latn_QW und_QX>en_Latn_QX",
   "und_QY>en_Latn_QY und_QZ>en_Latn_QZ und_RA>en_Latn_RA und_RB>en_Latn_RB und_RC>en_Latn_RC",
   "und_RD>en_Latn_RD und_RE>fr_Latn_RE und_RF>en_Latn_RF und_RG>en_Latn_RG und_RH>sn_Latn_ZW",
   "und_RI>en_Latn_RI und_RJ>en_Latn_RJ und_RK>en_Latn_RK und_RL>en_Latn_RL und_RM>en_Latn_RM",
   "und_RN>en_Latn_RN und_RO>ro_Latn_RO und_RP>en_Latn_RP und_RQ>en_Latn_RQ und_RR>en_Latn_RR",
   "und_RS>sr_Cyrl_RS und_RT>en_Latn_RT und_RU>ru_Cyrl_RU und_RV>en_Latn_RV und_RW>rw_Latn_RW",
   "und_RX>en_Latn_RX und_RY>en_Latn_RY und_RZ>en_Latn_RZ und_Rohg>rhg_Rohg_MM",
   "und_Runr>non_Runr_SE und_SA>ar_Arab_SA und_SB>en_Latn_SB und_SC>fr_Latn_SC",
   "und_SD>ar_Arab_SD und_SE>sv_Latn_SE und_SF>en_Latn_SF und_SG>en_Latn_SG und_SH>en_Latn_SH",
   "und_SI>sl_Latn_SI und_SJ>nb_Latn_SJ und_SK>sk_Latn_SK und_SL>en_Latn_SL und_SM>it_Latn_SM",
   "und_SN>wo_Latn_SN und_SO>so_Latn_SO und_SP>en_Latn_SP und_SQ>en_Latn_SQ und_SR>nl_Latn_SR",
   "und_SS>ar_Arab_SS und_ST>pt_Latn_ST und_SU>ru_Cyrl_RU und_SV>es_Latn_SV und_SW>en_Latn_SW",
   "und_SX>en_Latn_SX und_SY>ar_Arab_SY und_SZ>en_Latn_SZ und_Shaw>en_Shaw_GB",
   "und_Sind>sd_Sind_IN und_Sinh>si_Sinh_LK und_Sund>su_Sund_ID und_Sunu>suz_Sunu_NP",
   "und_Syrc>syr_Syrc_IQ und_TA>en_Latn_TA und_TB>en_Latn_TB und_TC>en_Latn_TC",
   "und_TD>ar_Arab_TD und_TE>en_Latn_TE und_TF>fr_Latn_TF und_TG>fr_Latn_TG und_TH>th_Thai_TH",
   "und_TI>en_Latn_TI und_TJ>tg_Cyrl_TJ und_TK>tkl_Latn_TK und_TL>pt_Latn_TL und_TM>tk_Latn_TM",
   "und_TN>ar_Arab_TN und_TO>to_Latn_TO und_TP>pt_Latn_TL und_TQ>en_Latn_TQ und_TR>tr_Latn_TR",
   "und_TS>en_Latn_TS und_TT>en_Latn_TT und_TU>en_Latn_TU und_TV>tvl_Latn_TV und_TW>zh_Hant_TW",
   "und_TX>en_Latn_TX und_TY>en_Latn_TY und_TZ>sw_Latn_TZ und_Taml>ta_Taml_IN",
   "und_Telu>te_Telu_IN und_Tfng>zgh_Tfng_MA und_Tglg>fil_Tglg_PH und_Thaa>dv_Thaa_MV",
   "und_Thai>th_Thai_TH und_Tibt>bo_Tibt_CN und_Tnsa>nst_Tnsa_IN und_UA>uk_Cyrl_UA",
   "und_UB>en_Latn_UB und_UC>en_Latn_UC und_UD>en_Latn_UD und_UE>en_Latn_UE und_UF>en_Latn_UF",
   "und_UG>sw_Latn_UG und_UH>en_Latn_UH und_UI>en_Latn_UI und_UJ>en_Latn_UJ und_UK>en_Latn_GB",
   "und_UL>en_Latn_UL und_UM>en_Latn_UM und_UN>en_Latn_UN und_UO>en_Latn_UO und_UP>en_Latn_UP",
   "und_UQ>en_Latn_UQ und_UR>en_Latn_UR und_US>en_Latn_US und_UT>en_Latn_UT und_UU>en_Latn_UU",
   "und_UV>en_Latn_UV und_UW>en_Latn_UW und_UX>en_Latn_UX und_UY>es_Latn_UY und_UZ>uz_Latn_UZ",
   "und_VA>it_Latn_VA und_VB>en_Latn_VB und_VC>en_Latn_VC und_VD>vi_Latn_VN und_VE>es_Latn_VE",
   "und_VF>en_Latn_VF und_VG>en_Latn_VG und_VH>en_Latn_VH und_VI>en_Latn_VI und_VJ>en_Latn_VJ",
   "und_VK>en_Latn_VK und_VL>en_Latn_VL und_VM>en_Latn_VM und_VN>vi_Latn_VN und_VO>en_Latn_VO",
   "und_VP>en_Latn_VP und_VQ>en_Latn_VQ und_VR>en_Latn_VR und_VS>en_Latn_VS und_VT>en_Latn_VT",
   "und_VU>bi_Latn_VU und_VV>en_Latn_VV und_VW>en_Latn_VW und_VX>en_Latn_VX und_VY>en_Latn_VY",
   "und_VZ>en_Latn_VZ und_Vaii>vai_Vaii_LR und_WA>en_Latn_WA und_WB>en_Latn_WB",
   "und_WC>en_Latn_WC und_WD>en_Latn_WD und_WE>en_Latn_WE und_WF>fr_Latn_WF und_WG>en_Latn_WG",
   "und_WH>en_Latn_WH und_WI>en_Latn_WI und_WJ>en_Latn_WJ und_WK>en_Latn_UM und_WL>en_Latn_WL",
   "und_WM>en_Latn_WM und_WN>en_Latn_WN und_WO>en_Latn_WO und_WP>en_Latn_WP und_WQ>en_Latn_WQ",
   "und_WR>en_Latn_WR und_WS>sm_Latn_WS und_WT>en_Latn_WT und_WU>en_Latn_WU und_WV>en_Latn_WV",
   "und_WW>en_Latn_WW und_WX>en_Latn_WX und_WY>en_Latn_WY und_WZ>en_Latn_WZ und_XA>en_Latn_XA",
   "und_XB>en_Latn_XB und_XC>en_Latn_XC und_XD>en_Latn_XD und_XE>en_Latn_XE und_XF>en_Latn_XF",
   "und_XG>en_Latn_XG und_XH>en_Latn_XH und_XI>en_Latn_XI und_XJ>en_Latn_XJ und_XK>sq_Latn_XK",
   "und_XL>en_Latn_XL und_XM>en_Latn_XM und_XN>en_Latn_XN und_XO>en_Latn_XO und_XP>en_Latn_XP",
   "und_XQ>en_Latn_XQ und_XR>en_Latn_XR und_XS>en_Latn_XS und_XT>en_Latn_XT und_XU>en_Latn_XU",
   "und_XV>en_Latn_XV und_XW>en_Latn_XW und_XX>en_Latn_XX und_XY>en_Latn_XY und_XZ>en_Latn_XZ",
   "und_YA>en_Latn_YA und_YB>en_Latn_YB und_YC>en_Latn_YC und_YD>ar_Arab_YE und_YE>ar_Arab_YE",
   "und_YF>en_Latn_YF und_YG>en_Latn_YG und_YH>en_Latn_YH und_YI>en_Latn_YI und_YJ>en_Latn_YJ",
   "und_YK>en_Latn_YK und_YL>en_Latn_YL und_YM>en_Latn_YM und_YN>en_Latn_YN und_YO>en_Latn_YO",
   "und_YP>en_Latn_YP und_YQ>en_Latn_YQ und_YR>en_Latn_YR und_YS>en_Latn_YS und_YT>fr_Latn_YT",
   "und_YU>sr_Cyrl_RS und_YV>en_Latn_YV und_YW>en_Latn_YW und_YX>en_Latn_YX und_YY>en_Latn_YY",
   "und_YZ>en_Latn_YZ und_Yiii>ii_Yiii_CN und_ZA>en_Latn_ZA und_ZB>en_Latn_ZB und_ZC>en_Latn_ZC",
   "und_ZD>en_Latn_ZD und_ZE>en_Latn_ZE und_ZF>en_Latn_ZF und_ZG>en_Latn_ZG und_ZH>en_Latn_ZH",
   "und_ZI>en_Latn_ZI und_ZJ>en_Latn_ZJ und_ZK>en_Latn_ZK und_ZL>en_Latn_ZL und_ZM>en_Latn_ZM",
   "und_ZN>en_Latn_ZN und_ZO>en_Latn_ZO und_ZP>en_Latn_ZP und_ZQ>en_Latn_ZQ und_ZR>fr_Latn_CD",
   "und_ZS>en_Latn_ZS und_ZT>en_Latn_ZT und_ZU>en_Latn_ZU und_ZV>en_Latn_ZV und_ZW>sn_Latn_ZW",
   "und_ZX>en_Latn_ZX und_ZY>en_Latn_ZY ur>ur_Arab_PK uz>uz_Latn_UZ uz_AF>uz_Arab_AF",
   "uz_Arab>uz_Arab_AF uz_CN>uz_Cyrl_CN vai>vai_Vaii_LR ve>ve_Latn_ZA vec>vec_Latn_IT",
   "vi>vi_Latn_VN vmw>vmw_Latn_MZ vo>vo_Latn_001 vun>vun_Latn_TZ wa>wa_Latn_BE wae>wae_Latn_CH",
   "wal>wal_Ethi_ET wbp>wbp_Latn_AU wo>wo_Latn_SN xh>xh_Latn_ZA xnr>xnr_Deva_IN xog>xog_Latn_UG",
   "yav>yav_Latn_CM yi>yi_Hebr_UA yo>yo_Latn_NG yrl>yrl_Latn_BR yue>yue_Hant_HK",
   "yue_CN>yue_Hans_CN yue_Hans>yue_Hans_CN za>za_Latn_CN zgh>zgh_Tfng_MA zh>zh_Hans_CN",
   "zh_AU>zh_Hant_AU zh_BN>zh_Hant_BN zh_Bopo>zh_Bopo_TW zh_GB>zh_Hant_GB zh_GF>zh_Hant_GF",
   "zh_HK>zh_Hant_HK zh_Hanb>zh_Hanb_TW zh_Hant>zh_Hant_TW zh_ID>zh_Hant_ID zh_MO>zh_Hant_MO",
   "zh_PA>zh_Hant_PA zh_PF>zh_Hant_PF zh_PH>zh_Hant_PH zh_PZ>zh_Hant_PA zh_SR>zh_Hant_SR",
   "zh_TH>zh_Hant_TH zh_TW>zh_Hant_TW zh_UK>zh_Hant_GB zh_US>zh_Hant_US zh_VD>zh_Hant_VN",
   "zh_VN>zh_Hant_VN zu>zu_Latn_ZA"]

/-- Parents that are not the identifier without its last part. -/
def parentTable : List String :=
  ["en_150>en_001 en_AE>en_001 en_AG>en_001 en_AI>en_001 en_AU>en_001 en_BB>en_001 en_BM>en_001",
   "en_BS>en_001 en_BW>en_001 en_BZ>en_001 en_CA>en_001 en_CC>en_001 en_CK>en_001 en_CM>en_001",
   "en_CX>en_001 en_CY>en_001 en_DG>en_001 en_DM>en_001 en_ER>en_001 en_FJ>en_001 en_FK>en_001",
   "en_FM>en_001 en_GB>en_001 en_GD>en_001 en_GE>en_001 en_GG>en_001 en_GH>en_001 en_GI>en_001",
   "en_GM>en_001 en_GS>en_001 en_GY>en_001 en_HK>en_001 en_ID>en_001 en_IE>en_001 en_IL>en_001",
   "en_IM>en_001 en_IN>en_001 en_IO>en_001 en_JE>en_001 en_JM>en_001 en_JP>en_001 en_KE>en_001",
   "en_KI>en_001 en_KN>en_001 en_KY>en_001 en_LC>en_001 en_LR>en_001 en_LS>en_001 en_MG>en_001",
   "en_MO>en_001 en_MS>en_001 en_MT>en_001 en_MU>en_001 en_MV>en_001 en_MW>en_001 en_MY>en_001",
   "en_NA>en_001 en_NF>en_001 en_NG>en_001 en_NR>en_001 en_NU>en_001 en_NZ>en_001 en_PG>en_001",
   "en_PK>en_001 en_PN>en_001 en_PW>en_001 en_RW>en_001 en_SB>en_001 en_SC>en_001 en_SD>en_001",
   "en_SG>en_001 en_SH>en_001 en_SL>en_001 en_SS>en_001 en_SX>en_001 en_SZ>en_001 en_TC>en_001",
   "en_TK>en_001 en_TO>en_001 en_TT>en_001 en_TV>en_001 en_TZ>en_001 en_UG>en_001 en_VC>en_001",
   "en_VU>en_001 en_WS>en_001 en_ZA>en_001 en_ZM>en_001 en_ZW>en_001 en_AT>en_150 en_BE>en_150",
   "en_CH>en_150 en_CZ>en_150 en_DE>en_150 en_DK>en_150 en_EE>en_150 en_ES>en_150 en_FI>en_150",
   "en_FR>en_150 en_HU>en_150 en_IT>en_150 en_LT>en_150 en_LV>en_150 en_NL>en_150 en_NO>en_150",
   "en_PL>en_150 en_PT>en_150 en_RO>en_150 en_SE>en_150 en_SI>en_150 en_SK>en_150 en_UA>en_150",
   "es_AR>es_419 es_BO>es_419 es_BR>es_419 es_BZ>es_419 es_CL>es_419 es_CO>es_419 es_CR>es_419",
   "es_CU>es_419 es_DO>es_419 es_EC>es_419 es_GT>es_419 es_HN>es_419 es_MX>es_419 es_NI>es_419",
   "es_PA>es_419 es_PE>es_419 es_PR>es_419 es_PY>es_419 es_SV>es_419 es_US>es_419 es_UY>es_419",
   "es_VE>es_419 pt_AO>pt_PT pt_CH>pt_PT pt_CV>pt_PT pt_GQ>pt_PT pt_GW>pt_PT pt_LU>pt_PT",
   "pt_MO>pt_PT pt_MZ>pt_PT pt_ST>pt_PT pt_TL>pt_PT zh_Hant_MO>zh_Hant_HK hi_Latn>en_IN nb>no",
   "nn>no"]

/-- Language codes replaced by current ones. -/
def languageAliasTable : List String :=
  ["aam>aas aar>aa abk>ab adp>dz afr>af agp>apf ais>ami ajp>apc ajt>aeb aju>jrb aka>ak alb>sq",
   "als>sq amh>am ara>ar arb>ar arg>an arm>hy asd>snz asm>as aue>ktz ava>av ave>ae aym>ay",
   "ayr>ay ayx>nun aze>az azj>az bak>ba bam>bm baq>eu baz>nvo bcc>bal bcl>bik bel>be ben>bn",
   "bgm>bcg bhk>fbl bic>bir bih>bho bis>bi bjd>drl bjq>bzc bkb>ebk blg>iba bod>bo bos>bs bre>br",
   "btb>beb bul>bg bur>my bxk>luy bxr>bua cat>ca ccq>rki ces>cs cha>ch che>ce chi>zh chu>cu",
   "chv>cv cjr>mom cka>cmr cld>syr cls>sa cmk>xch cmn>zh cnr>sr_ME cor>kw cos>co coy>pij",
   "cqu>quh cre>cr cwd>cr cym>cy cze>cs daf>dnj dan>da dap>njz dek>sqm deu>de dgo>doi dhd>mwr",
   "dik>din diq>zza dit>dif div>dv djl>dze dkl>aqd drh>mn drr>kzk drw>fa_AF dud>uth duj>dwu",
   "dut>nl dwl>dbt dzo>dz ekk>et ell>el elp>amq emk>man eng>en epo>eo esk>ik est>et eus>eu",
   "ewe>ee fao>fo fas>fa fat>ak fij>fj fin>fi fra>fr fre>fr fry>fy fuc>ff ful>ff gav>dev gaz>om",
   "gbc>wny gbo>grb geo>ka ger>de gfx>vaj ggn>gvr ggo>esg ggr>gtu gio>aou gla>gd gle>ga glg>gl",
   "gli>kzk glv>gv gno>gon gom>kok gre>el grn>gn gti>nyc gug>gn guj>gu guv>duz gya>gba hat>ht",
   "hau>ha hbs>sr_Latn hdn>hai hea>hmn heb>he her>hz him>srx hin>hi hmo>ho hrr>jal hrv>hr",
   "hun>hu hye>hy ibi>opa ibo>ig ice>is ido>io iii>ii ike>iu iku>iu ile>ie ill>ilm ilw>gal",
   "in>id ina>ia ind>id ipk>ik isl>is ita>it iw>he izi>eza jar>jgk jav>jv jaw>jv jeg>oyb ji>yi",
   "jpn>ja jw>jv kal>kl kan>kn kas>ks kat>ka kau>kr kaz>kk kdv>zkd kgc>tdf kgd>ncq kgh>kml",
   "kgm>plu khk>mn khm>km kik>ki kin>rw kir>ky kmr>ku knc>kr kng>kg koj>kwv kom>kv kon>kg",
   "kor>ko kpp>jkm kpv>kv krm>bmf ktr>dtp kua>kj kur>ku kvs>gdj kwq>yam kxe>tvd kxl>kru kzh>dgl",
   "kzj>dtp kzt>dtp lak>ksp lao>lo lat>la lav>lv lbk>bnc leg>enl lii>raq lim>li lin>ln lit>lt",
   "llo>ngt lmm>rmx ltz>lb lub>lu lug>lg lvs>lv mac>mk mah>mh mal>ml mao>mi mar>mr may>ms",
   "meg>cir mgx>jbk mhr>chm mkd>mk mlg>mg mlt>mt mnt>wnn mo>ro mof>xnt mol>ro mon>mn mri>mi",
   "msa>ms mst>mry mup>raj mwd>dmw mwj>vaj mya>my myd>aog myt>mry nad>xny nau>na nav>nv nbf>nru",
   "nbl>nr nbx>gll ncp>kdz nde>nd ndo>ng nep>ne nld>nl nln>azd nlr>nrk nno>nn nns>nbr nnx>ngv",
   "nob>nb nom>cbr noo>dtd nor>no npi>ne nte>eko nts>pij nxu>bpp nya>ny oci>oc ojg>oj oji>oj",
   "ori>or orm>om ory>or oss>os oun>vaj pan>pa pat>kxr pbu>ps pcr>adx per>fa pes>fa pli>pi",
   "plt>mg pmc>huw pmk>crr pmu>phr pnb>lah pol>pl por>pt ppa>bfy ppr>lcq prp>gu prs>fa_AF",
   "pry>prt pus>ps puz>pub que>qu quz>qu rmr>emx rmy>rom roh>rm ron>ro rum>ro run>rn rus>ru",
   "sag>sg san>sa sap>aqt sca>hle scc>sr scr>hr sgl>isk sh>sr_Latn sin>si skk>oyb slk>sk slo>sk",
   "slv>sl smd>kmb sme>se smo>sm sna>sn snb>iba snd>sd som>so sot>st spa>es spy>kln sqi>sq",
   "src>sc srd>sc srp>sr ssw>ss sul>sgd sum>ulw sun>su swa>sw swc>sw_CD swe>sv swh>sw szd>umi",
   "tah>ty tam>ta tat>tt tdu>dtp tel>te tgg>bjp tgk>tg tgl>fil tha>th thc>tpo thw>ola thx>oyb",
   "tib>bo tid>itd tie>ras tir>ti tkk>twm tl>fil tlw>weo tmk>tdg tmp>tyj tne>kak tnf>fa_AF",
   "ton>to tpw>tpn tsf>taj tsn>tn tso>ts ttq>tmh tuk>tk tur>tr twi>ak uig>ug ukr>uk umu>del",
   "unp>wro uok>ema urd>ur uzb>uz uzn>uz ven>ve vie>vi vol>vo wel>cy wgw>wgb wit>nol wiw>nwo",
   "wln>wa wol>wo xba>cax xho>xh xia>acn xkh>waw xpe>kpe xrq>dmw xsj>suj xsl>den xss>zko",
   "ybd>rki ydd>yi yen>ynq yid>yi yiy>yrm yma>lrr ymt>mtm yor>yo yos>zom yuu>yug zai>zap zha>za",
   "zho>zh zir>scv zkb>kjh zsm>ms zul>zu zyb>za"]

/-- Territory codes replaced by current ones. -/
def territoryAliasTable : List String :=
  ["004>AF 008>AL 010>AQ 012>DZ 016>AS 020>AD 024>AO 028>AG 031>AZ 032>AR 036>AU 040>AT 044>BS",
   "048>BH 050>BD 051>AM 052>BB 056>BE 060>BM 062>034 064>BT 068>BO 070>BA 072>BW 074>BV 076>BR",
   "084>BZ 086>IO 090>SB 092>VG 096>BN 100>BG 104>MM 108>BI 112>BY 116>KH 120>CM 124>CA 132>CV",
   "136>KY 140>CF 144>LK 148>TD 152>CL 156>CN 158>TW 162>CX 166>CC 170>CO 172>RU 174>KM 175>YT",
   "178>CG 180>CD 184>CK 188>CR 191>HR 192>CU 196>CY 200>CZ 203>CZ 204>BJ 208>DK 212>DM 214>DO",
   "218>EC 222>SV 226>GQ 230>ET 231>ET 232>ER 233>EE 234>FO 238>FK 239>GS 242>FJ 246>FI 248>AX",
   "249>FR 250>FR 254>GF 258>PF 260>TF 262>DJ 266>GA 268>GE 270>GM 275>PS 276>DE 278>DE 280>DE",
   "288>GH 292>GI 296>KI 300>GR 304>GL 308>GD 312>GP 316>GU 320>GT 324>GN 328>GY 332>HT 334>HM",
   "336>VA 340>HN 344>HK 348>HU 352>IS 356>IN 360>ID 364>IR 368>IQ 372>IE 376>IL 380>IT 384>CI",
   "388>JM 392>JP 398>KZ 400>JO 404>KE 408>KP 410>KR 414>KW 417>KG 418>LA 422>LB 426>LS 428>LV",
   "430>LR 434>LY 438>LI 440>LT 442>LU 446>MO 450>MG 454>MW 458>MY 462>MV 466>ML 470>MT 474>MQ",
   "478>MR 480>MU 484>MX 492>MC 496>MN 498>MD 499>ME 500>MS 504>MA 508>MZ 512>OM 516>NA 520>NR",
   "524>NP 528>NL 530>CW 531>CW 532>CW 533>AW 534>SX 535>BQ 536>SA 540>NC 548>VU 554>NZ 558>NI",
   "562>NE 566>NG 570>NU 574>NF 578>NO 580>MP 581>UM 582>FM 583>FM 584>MH 585>PW 586>PK 591>PA",
   "598>PG 600>PY 604>PE 608>PH 612>PN 616>PL 620>PT 624>GW 626>TL 630>PR 634>QA 638>RE 642>RO",
   "643>RU 646>RW 652>BL 654>SH 659>KN 660>AI 662>LC 663>MF 666>PM 670>VC 674>SM 678>ST 682>SA",
   "686>SN 688>RS 690>SC 694>SL 702>SG 703>SK 704>VN 705>SI 706>SO 710>ZA 716>ZW 720>YE 724>ES",
   "728>SS 729>SD 732>EH 736>SD 740>SR 744>SJ 748>SZ 752>SE 756>CH 760>SY 762>TJ 764>TH 768>TG",
   "772>TK 776>TO 780>TT 784>AE 788>TN 792>TR 795>TM 796>TC 798>TV 800>UG 804>UA 807>MK 810>RU",
   "818>EG 826>GB 830>JE 831>GG 832>JE 833>IM 834>TZ 840>US 850>VI 854>BF 858>UY 860>UZ 862>VE",
   "876>WF 882>WS 886>YE 887>YE 890>RS 891>RS 894>ZM 958>AA 959>QM 960>QN 962>QP 963>QQ 964>QR",
   "965>QS 966>QT 967>EU 968>QV 969>QW 970>QX 971>QY 972>QZ 973>XA 974>XB 975>XC 976>XD 977>XE",
   "978>XF 979>XG 980>XH 981>XI 982>XJ 983>XK 984>XL 985>XM 986>XN 987>XO 988>XP 989>XQ 990>XR",
   "991>XS 992>XT 993>XU 994>XV 995>XW 996>XX 997>XY 998>XZ 999>ZZ AN>CW BU>MM CS>RS CT>KI",
   "DD>DE DY>BJ FQ>AQ FX>FR HV>BF JT>UM MI>UM NH>VU NQ>AQ NT>SA PC>FM PU>UM PZ>PA QU>EU RH>ZW",
   "SU>RU TP>TL UK>GB VD>VN WK>UM YD>YE YU>RS ZR>CD"]

/-- The locale with data of a name, compared without regard to case. -/
def find? (name : String) : Option String :=
  let key := Text.lower name
  names.find? (fun n => n.toLower == key)

/-- Whether a language has locale data of its own. -/
def isLanguage (language : String) : Bool :=
  language != "root" && names.any (fun n => (n.splitOn "_").headD "" == language)

/-- The likely subtags of an identifier or a language: from the table, or for another
language with data, the language alone. -/
def likely? (key : String) : Option Tag :=
  match (pairs likelyTable).lookup key with
  | some full => Tag.parse? full
  | none => if isLanguage key then some ⟨key, none, none, none, none⟩ else none

/-- The locale with data for a tag: its full name, or its name without the modifier. -/
def load? (t : Tag) : Option String := (find? t.name).orElse fun _ => find? t.baseName

/-- The locale with data for a tag, or for its language and territory alone. -/
def loadReducing? (t : Tag) : Option String := (load? t).orElse fun _ => load? t.reduced

/-- A tag with current language and territory codes; an unknown territory (`ZZ`) or script
(`Zzzz`) is dropped. -/
def Tag.canonical (t : Tag) : Tag :=
  let language := ((pairs languageAliasTable).lookup t.language).getD t.language
  let territory := t.territory.map fun x => ((pairs territoryAliasTable).lookup x).getD x
  let territory := if territory = some "ZZ" then none else territory
  let script := if t.script = some "Zzzz" then none else t.script
  ⟨language, territory, script, t.variant, t.modifier⟩

/-- The locale with data that an identifier resolves to, or `none` for an identifier that is
malformed or has no data. -/
def resolve? (id : String) : Option String := do
  let t ← Tag.parse? id
  match load? t with
  | some n => some n
  | none =>
    let c := t.canonical
    let whole := (likely? c.name).bind loadReducing?
    whole.orElse fun _ =>
      (likely? c.language).bind fun l => loadReducing? ⟨l.language, c.territory, l.script, none, none⟩

/-- Whether a locale name is a language and a script alone, with a script other than the
language's likely one. -/
def hasUnlikelyScript (name : String) : Bool :=
  match Tag.parse? name with
  | some ⟨language, none, some script, none, none⟩ =>
    match likely? language with
    | some l => l.script != some script
    | none => true
  | _ => false

/-- The locale a locale takes what it does not set from. -/
def parent (name : String) : String :=
  match (pairs parentTable).lookup name with
  | some p => p
  | none =>
    if hasUnlikelyScript name then "root"
    else
      match name.splitOn "_" with
      | [] | [_] => "root"
      | parts => "_".intercalate parts.dropLast

/-- A locale and its ancestors up to the root, the locale first. -/
def lineage (name : String) : List String :=
  go name 8
where
  /-- The ancestors within a bound on their number. -/
  go (n : String) : Nat → List String
    | 0 => [n]
    | fuel + 1 => if n = "root" then [n] else n :: go (parent n) fuel

end Billing.Locale
