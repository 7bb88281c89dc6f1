import ReleaseRefs.Ref.Name

/-!
# `ReleaseRefs.Cli.Emoji.Flag`: flags of regions

A region has a code: two capital letters, or some more small ones for a part of a country. Its flag
is written with one special character for each letter.

- `flagOfCode` is the flag of a code.
- `flagFor?` finds a flag by the name of the region, or by that name behind `flag_for_`.
-/

set_option autoImplicit false

namespace ReleaseRefs.Cli

/-- Regions with their codes, whose flags have both kinds of name. -/
def regions : List (String × String) := [
  ("afghanistan", "AF"), ("albania", "AL"), ("algeria", "DZ"), ("american_samoa", "AS"),
  ("andorra", "AD"), ("angola", "AO"), ("anguilla", "AI"), ("antarctica", "AQ"),
  ("antigua_&_barbuda", "AG"), ("argentina", "AR"), ("armenia", "AM"), ("aruba", "AW"),
  ("ascension_island", "AC"), ("australia", "AU"), ("austria", "AT"), ("azerbaijan", "AZ"),
  ("bahamas", "BS"), ("bahrain", "BH"), ("bangladesh", "BD"), ("barbados", "BB"), ("belarus", "BY"),
  ("belgium", "BE"), ("belize", "BZ"), ("benin", "BJ"), ("bermuda", "BM"), ("bhutan", "BT"),
  ("bolivia", "BO"), ("bosnia_&_herzegovina", "BA"), ("botswana", "BW"), ("bouvet_island", "BV"),
  ("brazil", "BR"), ("british_indian_ocean_territory", "IO"), ("british_virgin_islands", "VG"),
  ("brunei", "BN"), ("bulgaria", "BG"), ("burkina_faso", "BF"), ("burundi", "BI"),
  ("cambodia", "KH"), ("cameroon", "CM"), ("canada", "CA"), ("canary_islands", "IC"),
  ("cape_verde", "CV"), ("caribbean_netherlands", "BQ"), ("cayman_islands", "KY"),
  ("central_african_republic", "CF"), ("ceuta_&_melilla", "EA"), ("chad", "TD"), ("chile", "CL"),
  ("china", "CN"), ("christmas_island", "CX"), ("clipperton_island", "CP"), ("colombia", "CO"),
  ("comoros", "KM"), ("cook_islands", "CK"), ("costa_rica", "CR"), ("croatia", "HR"),
  ("cuba", "CU"), ("curaçao", "CW"), ("cyprus", "CY"), ("côte_d’ivoire", "CI"), ("denmark", "DK"),
  ("diego_garcia", "DG"), ("djibouti", "DJ"), ("dominica", "DM"), ("dominican_republic", "DO"),
  ("ecuador", "EC"), ("egypt", "EG"), ("el_salvador", "SV"), ("equatorial_guinea", "GQ"),
  ("eritrea", "ER"), ("estonia", "EE"), ("ethiopia", "ET"), ("european_union", "EU"),
  ("falkland_islands", "FK"), ("faroe_islands", "FO"), ("fiji", "FJ"), ("finland", "FI"),
  ("france", "FR"), ("french_guiana", "GF"), ("french_polynesia", "PF"),
  ("french_southern_territories", "TF"), ("gabon", "GA"), ("gambia", "GM"), ("georgia", "GE"),
  ("germany", "DE"), ("ghana", "GH"), ("gibraltar", "GI"), ("greece", "GR"), ("greenland", "GL"),
  ("grenada", "GD"), ("guadeloupe", "GP"), ("guam", "GU"), ("guatemala", "GT"), ("guernsey", "GG"),
  ("guinea", "GN"), ("guyana", "GY"), ("haiti", "HT"), ("heard_&_mcdonald_islands", "HM"),
  ("honduras", "HN"), ("hungary", "HU"), ("iceland", "IS"), ("india", "IN"), ("indonesia", "ID"),
  ("iran", "IR"), ("iraq", "IQ"), ("ireland", "IE"), ("isle_of_man", "IM"), ("israel", "IL"),
  ("italy", "IT"), ("jamaica", "JM"), ("jersey", "JE"), ("jordan", "JO"), ("kazakhstan", "KZ"),
  ("kenya", "KE"), ("kiribati", "KI"), ("kosovo", "XK"), ("kuwait", "KW"), ("kyrgyzstan", "KG"),
  ("laos", "LA"), ("latvia", "LV"), ("lebanon", "LB"), ("lesotho", "LS"), ("liberia", "LR"),
  ("libya", "LY"), ("liechtenstein", "LI"), ("lithuania", "LT"), ("luxembourg", "LU"),
  ("macedonia", "MK"), ("madagascar", "MG"), ("malawi", "MW"), ("malaysia", "MY"),
  ("maldives", "MV"), ("mali", "ML"), ("malta", "MT"), ("marshall_islands", "MH"),
  ("martinique", "MQ"), ("mauritania", "MR"), ("mauritius", "MU"), ("mayotte", "YT"),
  ("mexico", "MX"), ("micronesia", "FM"), ("moldova", "MD"), ("monaco", "MC"), ("mongolia", "MN"),
  ("montenegro", "ME"), ("montserrat", "MS"), ("morocco", "MA"), ("mozambique", "MZ"),
  ("namibia", "NA"), ("nauru", "NR"), ("nepal", "NP"), ("netherlands", "NL"),
  ("new_caledonia", "NC"), ("new_zealand", "NZ"), ("nicaragua", "NI"), ("niger", "NE"),
  ("nigeria", "NG"), ("niue", "NU"), ("norfolk_island", "NF"), ("north_korea", "KP"),
  ("northern_mariana_islands", "MP"), ("norway", "NO"), ("oman", "OM"), ("pakistan", "PK"),
  ("palau", "PW"), ("palestinian_territories", "PS"), ("panama", "PA"), ("papua_new_guinea", "PG"),
  ("paraguay", "PY"), ("peru", "PE"), ("philippines", "PH"), ("pitcairn_islands", "PN"),
  ("poland", "PL"), ("portugal", "PT"), ("puerto_rico", "PR"), ("qatar", "QA"), ("romania", "RO"),
  ("russia", "RU"), ("rwanda", "RW"), ("réunion", "RE"), ("samoa", "WS"), ("san_marino", "SM"),
  ("saudi_arabia", "SA"), ("senegal", "SN"), ("serbia", "RS"), ("seychelles", "SC"),
  ("sierra_leone", "SL"), ("singapore", "SG"), ("sint_maarten", "SX"), ("slovakia", "SK"),
  ("slovenia", "SI"), ("solomon_islands", "SB"), ("somalia", "SO"), ("south_africa", "ZA"),
  ("south_georgia_&_south_sandwich_islands", "GS"), ("south_korea", "KR"), ("south_sudan", "SS"),
  ("spain", "ES"), ("sri_lanka", "LK"), ("st._barthélemy", "BL"), ("st._helena", "SH"),
  ("st._kitts_&_nevis", "KN"), ("st._lucia", "LC"), ("st._martin", "MF"),
  ("st._pierre_&_miquelon", "PM"), ("st._vincent_&_grenadines", "VC"), ("sudan", "SD"),
  ("suriname", "SR"), ("svalbard_&_jan_mayen", "SJ"), ("swaziland", "SZ"), ("sweden", "SE"),
  ("switzerland", "CH"), ("syria", "SY"), ("são_tomé_&_príncipe", "ST"), ("taiwan", "TW"),
  ("tajikistan", "TJ"), ("tanzania", "TZ"), ("thailand", "TH"), ("togo", "TG"), ("tokelau", "TK"),
  ("tonga", "TO"), ("trinidad_&_tobago", "TT"), ("tristan_da_cunha", "TA"), ("tunisia", "TN"),
  ("turkmenistan", "TM"), ("turks_&_caicos_islands", "TC"), ("tuvalu", "TV"),
  ("u.s._outlying_islands", "UM"), ("u.s._virgin_islands", "VI"), ("uganda", "UG"),
  ("ukraine", "UA"), ("united_arab_emirates", "AE"), ("united_kingdom", "GB"),
  ("united_states", "US"), ("uruguay", "UY"), ("uzbekistan", "UZ"), ("vanuatu", "VU"),
  ("vatican_city", "VA"), ("venezuela", "VE"), ("vietnam", "VN"), ("wallis_&_futuna", "WF"),
  ("western_sahara", "EH"), ("yemen", "YE"), ("zambia", "ZM"), ("zimbabwe", "ZW"),
  ("åland_islands", "AX")]

/-- Regions with their codes, whose flags go by the name of the region only. -/
def plainRegions : List (String × String) := [
  ("cocos_(keeling)_islands", "CC"), ("congo_-_brazzaville", "CG"), ("congo_-_kinshasa", "CD"),
  ("czechia", "CZ"), ("england", "gbeng"), ("guinea-bissau", "GW"), ("hong_kong_sar_china", "HK"),
  ("macau_sar_china", "MO"), ("myanmar_(burma)", "MM"), ("scotland", "gbsct"),
  ("timor-leste", "TL"), ("united_nations", "UN"), ("wales", "gbwls")]

/-- Regions with their codes, whose flags go by the longer name only. -/
def longNamedRegions : List (String × String) := [
  ("cocos__islands", "CC"), ("congo____brazzaville", "CG"), ("congo____kinshasa", "CD"),
  ("czech_republic", "CZ"), ("guinea__bissau", "GW"), ("hong_kong", "HK"), ("macau", "MO"),
  ("myanmar", "MM"), ("timor__leste", "TL")]

/-- The special character for a capital letter, by its distance from `A`. -/
def letterSign (letter : Char) : Char := Char.ofNat (0x1F1E6 + (letter.toNat - 'A'.toNat))

/-- The flag of a code. That of a part of a country is a black flag with invisible letters behind it
and a mark at their end. -/
def flagOfCode (code : String) : String :=
  let letters := code.toList
  if letters.all Char.isUpper then String.ofList (letters.map letterSign)
  else String.ofList (Char.ofNat 0x1F3F4 ::
    letters.map (fun c => Char.ofNat (0xE0000 + c.toNat)) ++ [Char.ofNat 0xE007F])

/-- What the longer names of flags start with. -/
def flagStart : String := "flag_for_"

def flagFor? (name : String) : Option String :=
  let code := match Ref.dropStart? flagStart name with
    | some region => (regions ++ longNamedRegions).lookup region
    | none => (regions ++ plainRegions).lookup name
  code.map flagOfCode

end ReleaseRefs.Cli
