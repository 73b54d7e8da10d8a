import Reckon.Unit.Known

/-!
# The unit registry

A registry knows units by their spellings. A text that is no known spelling may still be a known
one with a prefix in front, such as `kilo`, or a plural `s` behind. A prefixed unit that has been
formed once is known by its name from then on.
-/

namespace Reckon

/-- A prefix for units in one of its spellings. The empty prefix counts as one. -/
structure Prefix where
  /-- How the prefix is written. -/
  spelling : String
  /-- The name of the prefix. -/
  name : String
  /-- The symbol of the prefix. -/
  symbol : String
  /-- The factor that the prefix stands for. -/
  scale : Scalar

/-- A unit with a prefix in front. -/
def Prefix.apply (p : Prefix) (u : Unit) : Unit :=
  .multiple (p.name ++ u.name) (p.symbol ++ u.symbol) p.scale [(u, 1)]

/-- The units that can be named. -/
structure Registry where
  /-- The defined units by their spellings. -/
  definitions : List (String × Unit)
  /-- The spellings of the prefixes, in the order in which they are tried. -/
  prefixes : List Prefix
  /-- The prefixed units that have been formed so far. -/
  formed : List Unit

/-- The outcome of looking up a name: a unit, or the absence of any. -/
inductive Named where
  /-- A unit. -/
  | unit (u : Unit)
  /-- The word for having no unit. -/
  | dimensionless

namespace Registry

/-- The unit with a known spelling. -/
def find? (r : Registry) (spelling : String) : Option Unit :=
  match r.definitions.lookup spelling with
  | some u => some u
  | none => r.formed.find? (·.name == spelling)

/-- The text between a prefix and an ending, if it starts and ends with them. -/
def stem? (text front ending : String) : Option String :=
  let cs := text.toList
  let front := front.toList
  let ending := ending.toList
  if front.isPrefixOf cs && ending.isSuffixOf cs then
    some (String.ofList ((cs.drop front.length).take (cs.length - front.length - ending.length)))
  else none

/-- The known units that a text is made of with the given ending; a plural of a single letter does
not count. -/
def readings (r : Registry) (text ending : String) : List (Prefix × Unit) :=
  r.prefixes.filterMap fun p =>
    (stem? text p.spelling ending).bind fun stem =>
      if ending = "s" && stem.length == 1 then none else (r.find? stem).map fun u => (p, u)

/-- Whether two readings have the same prefix and the same unit. -/
def sameReading (a b : Prefix × Unit) : Bool := a.1.name == b.1.name && a.2.name == b.2.name

/-- All readings of a text. A reading without a prefix is left out if another one spells the same
name with one. -/
def candidates (r : Registry) (text : String) : List (Prefix × Unit) :=
  let all := (r.readings text "" ++ r.readings text "s").eraseDupsBy sameReading
  all.filter fun (p, u) =>
    !(p.name == "" && all.any fun (p', u') => p'.name != "" && p'.name ++ u'.name == u.name)

/-- What a text names: a known spelling, or else the first reading. Units that are not
multiplicative take no prefix. -/
def recognize? (r : Registry) (text : String) : Option Named :=
  if text = "dimensionless" then some .dimensionless
  else
    match r.find? text with
    | some u => some (.unit u)
    | none =>
      match r.candidates text with
      | [] => none
      | (p, u) :: _ =>
        if p.name = "" then some (.unit u)
        else if u.isMultiplicative then some (.unit (p.apply u))
        else none

/-- The registry after a unit has been named: a prefixed unit is known from then on. -/
def remember (r : Registry) (u : Unit) : Registry :=
  if (r.find? u.name).isSome then r else { r with formed := r.formed ++ [u] }

/-- The registry without the prefixed units that have been formed. -/
def renewed (r : Registry) : Registry := { r with formed := [] }

/-- The units of measure and the spellings besides their names. -/
def standardUnits : List (Unit × List String) :=
  open Unit.Known in
  [(meter, ["m", "metre"]), (second, ["s", "sec"]), (ampere, ["A", "amp"]),
    (candela, ["cd", "candle"]), (gram, ["g"]), (mole, ["mol"]),
    (kelvin, ["K", "degK", "°K", "degree_Kelvin", "degreeK"]), (radian, ["rad"]), (bit, []),
    (count, []), (pi, ["π"]), (tansec, []), (ln10, []), (wien_x, []), (wien_u, []),
    (eulers_number, []), (speed_of_light, ["c", "c_0"]), (planck_constant, ["ℎ"]),
    (elementary_charge, ["e"]), (avogadro_number, []), (boltzmann_constant, ["k", "k_B"]),
    (standard_gravity, ["g_0", "g0", "g_n", "gravity"]),
    (standard_atmosphere, ["atm", "atmosphere"]), (conventional_josephson_constant, ["K_J90"]),
    (conventional_von_klitzing_constant, ["R_K90"]), (conventional_water_density, ["ρH2O"]),
    (conventional_mercury_density, ["ρHg"]), (zeta, ["ζ"]),
    (dirac_constant, ["ħ", "hbar", "atomic_unit_of_action", "a_u_action"]),
    (avogadro_constant, ["N_A"]), (molar_gas_constant, ["R"]), (faraday_constant, []),
    (conductance_quantum, ["G_0"]), (magnetic_flux_quantum, ["Φ_0", "Phi_0"]),
    (josephson_constant, ["K_J"]), (von_klitzing_constant, ["R_K"]),
    (stefan_boltzmann_constant, ["σ", "sigma"]), (first_radiation_constant, ["c_1"]),
    (second_radiation_constant, ["c_2"]), (wien_wavelength_displacement_law_constant, []),
    (wien_frequency_displacement_law_constant, []),
    (newtonian_constant_of_gravitation, ["gravitational_constant"]),
    (rydberg_constant, ["R_∞", "R_inf"]), (electron_g_factor, ["g_e"]),
    (atomic_mass_constant, ["m_u"]), (electron_mass, ["m_e", "atomic_unit_of_mass", "a_u_mass"]),
    (proton_mass, ["m_p"]), (neutron_mass, ["m_n"]), (x_unit_Cu, ["Xu_Cu"]),
    (x_unit_Mo, ["Xu_Mo"]), (angstrom_star, ["Å_star"]), (water_density_4C, ["ρH2O_4C"]),
    (water_density_60F, ["ρH2O_60F"]), (mercury_density_0C, ["ρHg_0C"]),
    (mercury_density_32F, ["ρHg_32F"]), (mercury_density_60F, ["ρHg_60F"]),
    (fine_structure_constant, ["α", "alpha"]),
    (vacuum_permeability, ["µ_0", "mu_0", "mu0", "magnetic_constant"]),
    (vacuum_permittivity, ["ε_0", "epsilon_0", "eps_0", "eps0", "electric_constant"]),
    (impedance_of_free_space, ["Z_0", "characteristic_impedance_of_vacuum"]),
    (coulomb_constant, ["k_C"]), (classical_electron_radius, ["r_e"]),
    (thomson_cross_section, ["σ_e", "sigma_e"]), (turn, ["revolution", "cycle", "circle"]),
    (degree, ["deg", "arcdeg", "arcdegree", "angular_degree"]),
    (arcminute, ["arcmin", "arc_minute", "angular_minute"]),
    (arcsecond, ["arcsec", "arc_second", "angular_second"]), (milliarcsecond, ["mas"]),
    (grade, ["grad", "gon", "gradian"]), (mil, []), (steradian, ["sr"]),
    (square_degree, ["sq_deg", "sqdeg"]), (baud, ["Bd", "bps"]), (byte, ["B", "octet"]),
    (percent, ["%"]), (permille, ["‰"]), (ppm, []), (strain, ["ε", "ϵ"]),
    (angstrom, ["Å", "ångström", "Å"]), (micron, ["µ", "μ"]), (fermi, ["fm"]),
    (light_year, ["ly", "lightyear"]), (astronomical_unit, ["au"]), (parsec, ["pc"]),
    (nautical_mile, ["nmi"]),
    (bohr, ["a_0", "a0", "bohr_radius", "atomic_unit_of_length", "a_u_length"]),
    (planck_length, []), (metric_ton, ["t", "tonne"]), (unified_atomic_mass_unit, ["u", "amu"]),
    (dalton, ["Da"]), (grain, ["gr"]), (gamma_mass, []), (carat, ["ct"]), (planck_mass, []),
    (minute, ["min"]), (hour, ["h", "hr"]), (day, ["d"]), (week, []), (fortnight, []),
    (year, ["a", "yr", "julian_year"]), (month, []), (century, ["centuries"]),
    (millennium, ["millennia"]), (eon, []), (shake, []), (svedberg, []),
    (atomic_unit_of_time, ["a_u_time"]), (gregorian_year, []), (sidereal_year, []),
    (tropical_year, []), (common_year, []), (leap_year, []), (sidereal_day, []),
    (sidereal_month, []), (tropical_month, []), (synodic_month, ["lunar_month"]),
    (planck_time, []), (degree_Celsius, ["°C", "celsius", "degC", "degreeC"]),
    (delta_degree_Celsius,
      ["Δ°C", "Δcelsius", "ΔdegC", "ΔdegreeC", "delta_celsius", "delta_degC", "delta_degreeC"]),
    (degree_Rankine, ["°R", "rankine", "degR", "degreeR"]),
    (degree_Fahrenheit, ["°F", "fahrenheit", "degF", "degreeF"]),
    (delta_degree_Fahrenheit,
      ["Δ°F", "Δfahrenheit", "ΔdegF", "ΔdegreeF", "delta_fahrenheit", "delta_degF",
        "delta_degreeF"]),
    (degree_Reaumur, ["°Re", "reaumur", "degRe", "degreeRe", "degree_Réaumur", "réaumur"]),
    (delta_degree_Reaumur,
      ["Δ°Re", "Δreaumur", "ΔdegRe", "ΔdegreeRe", "Δdegree_Réaumur", "Δréaumur", "delta_reaumur",
        "delta_degRe", "delta_degreeRe", "delta_degree_Réaumur", "delta_réaumur"]),
    (atomic_unit_of_temperature, ["a_u_temp"]), (planck_temperature, []), (are, []),
    (barn, ["b"]), (darcy, []), (hectare, ["ha"]), (liter, ["l", "L", "ℓ", "litre"]),
    (cubic_centimeter, ["cc"]), (lambda, ["λ"]), (stere, []), (hertz, ["Hz"]),
    (revolutions_per_minute, ["rpm"]), (revolutions_per_second, ["rps"]),
    (counts_per_second, ["cps"]), (reciprocal_centimeter, ["cm_1", "kayser"]),
    (knot, ["kn", "kt", "knot_international", "international_knot"]),
    (mile_per_hour, ["mph", "MPH"]), (kilometer_per_hour, ["kph", "KPH"]),
    (kilometer_per_second, ["kps"]), (meter_per_second, ["mps"]), (foot_per_second, ["fps"]),
    (sverdrup, ["sv"]), (galileo, ["Gal"]), (meter_per_second_squared, []), (newton, ["N"]),
    (dyne, ["dyn"]), (force_kilogram, ["kgf", "kilogram_force"]),
    (force_gram, ["gf", "gram_force", "pond"]),
    (force_metric_ton, ["tf", "metric_ton_force", "force_t", "t_force"]),
    (atomic_unit_of_force, ["a_u_force"]), (joule, ["J"]), (erg, []),
    (watt_hour, ["Wh", "watthour"]), (electron_volt, ["eV", "electronvolt"]), (rydberg, ["Ry"]),
    (hartree, ["E_h", "Eh", "hartree_energy", "atomic_unit_of_energy", "a_u_energy"]),
    (calorie, ["cal", "thermochemical_calorie", "cal_th"]),
    (international_calorie, ["cal_it", "international_steam_table_calorie"]),
    (fifteen_degree_calorie, ["cal_15"]), (british_thermal_unit, ["Btu", "BTU", "Btu_iso"]),
    (international_british_thermal_unit, ["Btu_it"]),
    (thermochemical_british_thermal_unit, ["Btu_th"]), (quadrillion_Btu, ["quad"]),
    (therm, ["thm", "EC_therm"]), (US_therm, []), (ton_TNT, ["tTNT"]),
    (tonne_of_oil_equivalent, ["toe"]), (atmosphere_liter, ["atm_l"]), (watt, ["W"]),
    (volt_ampere, ["VA"]), (horsepower, ["hp", "UK_horsepower", "hydraulic_horsepower"]),
    (boiler_horsepower, []), (metric_horsepower, []), (electrical_horsepower, []),
    (refrigeration_ton, ["ton_of_refrigeration"]), (cooling_tower_ton, []),
    (standard_liter_per_minute, ["slpm", "slm"]), (conventional_watt_90, ["W_90"]),
    (pascal, ["Pa"]), (barye, ["Ba", "barie", "barad", "barrie", "baryd"]), (bar, []),
    (technical_atmosphere, ["at"]), (torr, []), (pound_force_per_square_inch, ["psi"]),
    (kip_per_square_inch, ["ksi"]), (meter_H2O, ["mH2O", "m_H2O"]),
    (meter_H2O_4C, ["mH2O_4C", "m_H2O_4C"]), (meter_H2O_60F, ["mH2O_60F", "m_H2O_60F"]),
    (inch_H2O, ["inH2O", "in_H2O", "inchesH2O", "inches_H2O"]),
    (inch_H2O_4C, ["inH2O_4C", "in_H2O_4C", "inchesH2O_4C", "inches_H2O_4C"]),
    (inch_H2O_60F, ["inH2O_60F", "in_H2O_60F", "inchesH2O_60F", "inches_H2O_60F"]),
    (foot_H2O, ["ftH2O", "ft_H2O", "feetH2O", "feet_H2O"]),
    (foot_H2O_4C, ["ftH2O_4C", "ft_H2O_4C", "feetH2O_4C", "feet_H2O_4C"]),
    (foot_H2O_60F, ["ftH2O_60F", "ft_H2O_60F", "feetH2O_60F", "feet_H2O_60F"]),
    (meter_Hg, ["mHg", "m_Hg"]), (meter_Hg_0C, ["mHg_0C", "m_Hg_0C"]),
    (meter_Hg_32F, ["mHg_32F", "m_Hg_32F"]), (meter_Hg_60F, ["mHg_60F", "m_Hg_60F"]),
    (inch_Hg, ["inHg", "in_Hg", "inchesHg", "inches_Hg"]),
    (inch_Hg_0C, ["inHg_0C", "in_Hg_0C", "inchesHg_0C", "inches_Hg_0C"]),
    (inch_Hg_32F, ["inHg_32F", "in_Hg_32F", "inchesHg_32F", "inches_Hg_32F"]),
    (inch_Hg_60F, ["inHg_60F", "in_Hg_60F", "inchesHg_60F", "inches_Hg_60F"]),
    (foot_Hg, ["ftHg", "ft_Hg", "feetHg", "feet_Hg"]),
    (foot_Hg_0C, ["ftHg_0C", "ft_Hg_0C", "feetHg_0C", "feet_Hg_0C"]),
    (foot_Hg_32F, ["ftHg_32F", "ft_Hg_32F", "feetHg_32F", "feet_Hg_32F"]),
    (foot_Hg_60F, ["ftHg_60F", "ft_Hg_60F", "feetHg_60F", "feet_Hg_60F"]),
    (sound_pressure_level, ["SPL"]), (foot_pound, ["ft_lb", "footpound"]), (poise, ["P"]),
    (reyn, []), (stokes, ["St"]), (rhe, []), (particle, ["molec", "molecule"]), (molar, ["M"]),
    (katal, ["kat"]), (enzyme_unit, ["U", "enzymeunit"]), (clausius, ["Cl"]),
    (entropy_unit, ["eu"]), (becquerel, ["Bq"]), (curie, ["Ci"]), (rutherford, ["Rd"]),
    (gray, ["Gy"]), (sievert, ["Sv"]), (rads, []), (rem, []), (roentgen, ["röntgen"]),
    (peak_sun_hour, ["PSH"]), (langley, ["Ly"]), (nit, []), (stilb, []), (lambert, []),
    (lumen, ["lm"]), (lux, ["lx"]), (atomic_unit_of_intensity, ["a_u_intensity"]), (biot, ["Bi"]),
    (abampere, ["abA"]), (atomic_unit_of_current, ["a_u_current"]),
    (mean_international_ampere, ["A_it"]), (US_international_ampere, ["A_US"]),
    (conventional_ampere_90, ["A_90"]), (planck_current, []), (coulomb, ["C"]),
    (abcoulomb, ["abC"]), (faraday, []), (conventional_coulomb_90, ["C_90"]),
    (ampere_hour, ["Ah"]), (volt, ["V"]), (abvolt, ["abV"]), (mean_international_volt, ["V_it"]),
    (US_international_volt, ["V_US"]), (conventional_volt_90, ["V_90"]),
    (atomic_unit_of_electric_field, ["a_u_electric_field"]),
    (atomic_unit_of_electric_field_gradient, ["a_u_efg"]), (townsend, ["Td"]), (ohm, ["Ω"]),
    (abohm, ["abΩ"]), (mean_international_ohm, ["Ω_it", "ohm_it"]),
    (US_international_ohm, ["Ω_US", "ohm_US"]), (conventional_ohm_90, ["Ω_90", "ohm_90"]),
    (siemens, ["S", "mho"]), (absiemens, ["abS", "abmho"]), (farad, ["F"]), (abfarad, ["abF"]),
    (conventional_farad_90, ["F_90"]), (weber, ["Wb"]), (unit_pole, []), (henry, ["H"]),
    (abhenry, ["abH"]), (conventional_henry_90, ["H_90"]), (tesla, ["T"]), (gamma, ["γ"]),
    (ampere_turn, ["At"]), (biot_turn, []), (gilbert, ["Gb"]), (debye, ["D"]), (buckingham, []),
    (bohr_magneton, ["µ_B", "mu_B"]), (nuclear_magneton, ["µ_N", "mu_N"]),
    (refractive_index_unit, ["RIU"]), (absorbance_unit, ["AU"]), (LMH, []),
    (decibelwatt, ["dBW"]), (decibelmilliwatt, ["dBm"]), (decibelmicrowatt, ["dBu"]),
    (decibel, ["dB"]), (decade, []), (octave, ["oct"]), (neper, ["Np"]),
    (thou, ["th", "mil_length"]),
    (inch, ["in", "international_inch", "inches", "international_inches"]), (hand, []),
    (foot, ["ft", "international_foot", "feet", "international_feet"]),
    (yard, ["yd", "international_yard"]), (mile, ["mi", "international_mile"]),
    (circular_mil, ["cmil"]), (square_inch, ["sq_in", "square_inches"]),
    (square_foot, ["sq_ft", "square_feet"]), (square_yard, ["sq_yd"]), (square_mile, ["sq_mi"]),
    (cubic_inch, ["cu_in"]), (cubic_foot, ["cu_ft", "cubic_feet"]), (cubic_yard, ["cu_yd"]),
    (link, ["li", "survey_link"]), (survey_foot, ["sft"]), (fathom, []),
    (rod, ["rd", "pole", "perch"]), (chain, []), (furlong, ["fur"]), (cables_length, []),
    (survey_mile, ["smi", "us_statute_mile"]), (league, []),
    (square_rod, ["sq_rod", "sq_pole", "sq_perch"]), (acre, []),
    (square_survey_mile, ["section"]), (square_league, []), (acre_foot, ["acre_feet"]),
    (dry_pint, ["dpi", "US_dry_pint"]), (dry_quart, ["dqt", "US_dry_quart"]),
    (dry_gallon, ["dgal", "US_dry_gallon"]), (peck, ["pk"]), (bushel, ["bu"]),
    (dry_barrel, ["US_dry_barrel"]),
    (board_foot,
      ["FBM", "board_feet", "BF", "BDFT", "super_foot", "superficial_foot", "super_feet",
        "superficial_feet"]),
    (minim, []), (fluid_dram, ["fldr", "fluidram", "US_fluid_dram", "US_liquid_dram"]),
    (fluid_ounce, ["floz", "US_fluid_ounce", "US_liquid_ounce"]),
    (gill, ["gi", "liquid_gill", "US_liquid_gill"]), (pint, ["pt", "liquid_pint", "US_pint"]),
    (fifth, ["US_liquid_fifth"]), (quart, ["qt", "liquid_quart", "US_liquid_quart"]),
    (gallon, ["gal", "liquid_gallon", "US_liquid_gallon"]), (teaspoon, ["tsp"]),
    (tablespoon, ["tbsp"]), (shot, ["jig", "US_shot"]),
    (cup, ["cp", "liquid_cup", "US_liquid_cup"]), (barrel, ["bbl"]), (oil_barrel, ["oil_bbl"]),
    (beer_barrel, ["beer_bbl"]), (hogshead, []), (dram, ["dr", "avoirdupois_dram", "avdp_dram"]),
    (ounce, ["oz", "avoirdupois_ounce", "avdp_ounce"]),
    (pound, ["lb", "avoirdupois_pound", "avdp_pound"]), (stone, []), (quarter, []), (bag, []),
    (hundredweight, ["cwt", "short_hundredweight"]), (long_hundredweight, []),
    (ton, ["short_ton"]), (long_ton, []), (slug, []), (slinch, ["blob", "slugette"]),
    (force_ounce, ["ozf", "ounce_force"]), (force_pound, ["lbf", "pound_force"]),
    (force_ton, ["ton_force", "force_short_ton", "short_ton_force"]),
    (force_long_ton, ["long_ton_force"]), (kip, []), (poundal, ["pdl"]),
    (UK_hundredweight, ["UK_cwt"]), (UK_ton, []), (UK_force_ton, ["UK_ton_force"]),
    (US_hundredweight, ["US_cwt"]), (US_ton, []), (US_force_ton, ["US_ton_force"]),
    (pennyweight, ["dwt"]), (troy_ounce, ["toz", "ozt"]), (troy_pound, ["tlb", "lbt"]),
    (scruple, []), (apothecary_dram, ["ap_dr", "apothecary_drachm", "drachm"]),
    (apothecary_ounce, ["ap_oz"]), (apothecary_pound, ["ap_lb"]), (imperial_minim, []),
    (imperial_fluid_scruple, []),
    (imperial_fluid_drachm, ["imperial_fldr", "imperial_fluid_dram"]),
    (imperial_fluid_ounce, ["imperial_floz", "UK_fluid_ounce"]),
    (imperial_gill, ["imperial_gi", "UK_gill"]), (imperial_cup, ["imperial_cp", "UK_cup"]),
    (imperial_pint, ["imperial_pt", "UK_pint"]), (imperial_quart, ["imperial_qt", "UK_quart"]),
    (imperial_gallon, ["imperial_gal", "UK_gallon"]), (imperial_peck, ["imperial_pk", "UK_pk"]),
    (imperial_bushel, ["imperial_bu", "UK_bushel"]),
    (imperial_barrel, ["imperial_bbl", "UK_bbl"]), (pica, ["printers_pica"]),
    (point, ["pp", "printers_point", "big_point", "bp"]), (didot, []), (cicero, []),
    (tex_point, []), (tex_pica, []), (tex_didot, []), (tex_cicero, []), (scaled_point, []),
    (css_pixel, ["px"]), (pixel, ["dot", "pel", "picture_element"]),
    (pixels_per_centimeter, ["PPCM"]),
    (pixels_per_inch, ["dots_per_inch", "PPI", "ppi", "DPI", "printers_dpi"]),
    (bits_per_pixel, ["bpp"]), (tex, ["Tt"]), (dtex, []), (denier, ["den"]), (jute, ["Tj"]),
    (aberdeen, ["Ta"]), (RKM, []), (number_english, ["Ne", "NeC", "ECC"]), (number_meter, ["Nm"]),
    (franklin, ["Fr", "statcoulomb", "statC", "esu"]), (statvolt, ["statV"]),
    (statampere, ["statA"]), (gauss, ["G"]), (maxwell, ["Mx"]), (oersted, ["Oe", "ørsted"]),
    (statohm, ["statΩ"]), (statfarad, ["statF"]), (statmho, []), (statweber, ["statWb"]),
    (stattesla, ["statT"]), (stathenry, ["statH"]), (kilogram, []), (centimeter, []),
    (milligram, []), (decimeter, []), (kilometer, []), (micrometer, []), (microgram, []),
    (decitex, []), (femtometer, []), (microliter, []), (micromole, []), (centipoise, [])]

/-- The spellings of the prefixes. -/
def standardPrefixes : List Prefix :=
  [⟨"", "", "", 1⟩, ⟨"quecto", "quecto", "q", 1e-30⟩, ⟨"q", "quecto", "q", 1e-30⟩,
    ⟨"ronto", "ronto", "r", 1e-27⟩, ⟨"r", "ronto", "r", 1e-27⟩, ⟨"yocto", "yocto", "y", 1e-24⟩,
    ⟨"y", "yocto", "y", 1e-24⟩, ⟨"zepto", "zepto", "z", 1e-21⟩, ⟨"z", "zepto", "z", 1e-21⟩,
    ⟨"atto", "atto", "a", 1e-18⟩, ⟨"a", "atto", "a", 1e-18⟩, ⟨"femto", "femto", "f", 1e-15⟩,
    ⟨"f", "femto", "f", 1e-15⟩, ⟨"pico", "pico", "p", 1e-12⟩, ⟨"p", "pico", "p", 1e-12⟩,
    ⟨"nano", "nano", "n", 1e-09⟩, ⟨"n", "nano", "n", 1e-09⟩, ⟨"micro", "micro", "µ", 1e-06⟩,
    ⟨"µ", "micro", "µ", 1e-06⟩, ⟨"μ", "micro", "µ", 1e-06⟩, ⟨"u", "micro", "µ", 1e-06⟩,
    ⟨"mu", "micro", "µ", 1e-06⟩, ⟨"mc", "micro", "µ", 1e-06⟩, ⟨"milli", "milli", "m", 0.001⟩,
    ⟨"m", "milli", "m", 0.001⟩, ⟨"centi", "centi", "c", 0.01⟩, ⟨"c", "centi", "c", 0.01⟩,
    ⟨"deci", "deci", "d", 0.1⟩, ⟨"d", "deci", "d", 0.1⟩, ⟨"deca", "deca", "da", 10.0⟩,
    ⟨"da", "deca", "da", 10.0⟩, ⟨"deka", "deca", "da", 10.0⟩, ⟨"hecto", "hecto", "h", 100.0⟩,
    ⟨"h", "hecto", "h", 100.0⟩, ⟨"kilo", "kilo", "k", 1000.0⟩, ⟨"k", "kilo", "k", 1000.0⟩,
    ⟨"mega", "mega", "M", 1000000.0⟩, ⟨"M", "mega", "M", 1000000.0⟩,
    ⟨"giga", "giga", "G", 1000000000.0⟩, ⟨"G", "giga", "G", 1000000000.0⟩,
    ⟨"tera", "tera", "T", 1000000000000.0⟩, ⟨"T", "tera", "T", 1000000000000.0⟩,
    ⟨"peta", "peta", "P", 1000000000000000.0⟩, ⟨"P", "peta", "P", 1000000000000000.0⟩,
    ⟨"exa", "exa", "E", 1e18⟩, ⟨"E", "exa", "E", 1e18⟩, ⟨"zetta", "zetta", "Z", 1e21⟩,
    ⟨"Z", "zetta", "Z", 1e21⟩, ⟨"yotta", "yotta", "Y", 1e24⟩, ⟨"Y", "yotta", "Y", 1e24⟩,
    ⟨"ronna", "ronna", "R", 1e27⟩, ⟨"R", "ronna", "R", 1e27⟩, ⟨"quetta", "quetta", "Q", 1e30⟩,
    ⟨"Q", "quetta", "Q", 1e30⟩, ⟨"kibi", "kibi", "Ki", 1024⟩, ⟨"Ki", "kibi", "Ki", 1024⟩,
    ⟨"mebi", "mebi", "Mi", 1048576⟩, ⟨"Mi", "mebi", "Mi", 1048576⟩,
    ⟨"gibi", "gibi", "Gi", 1073741824⟩, ⟨"Gi", "gibi", "Gi", 1073741824⟩,
    ⟨"tebi", "tebi", "Ti", 1099511627776⟩, ⟨"Ti", "tebi", "Ti", 1099511627776⟩,
    ⟨"pebi", "pebi", "Pi", 1125899906842624⟩, ⟨"Pi", "pebi", "Pi", 1125899906842624⟩,
    ⟨"exbi", "exbi", "Ei", 1152921504606846976⟩, ⟨"Ei", "exbi", "Ei", 1152921504606846976⟩,
    ⟨"zebi", "zebi", "Zi", 1180591620717411303424⟩, ⟨"Zi", "zebi", "Zi", 1180591620717411303424⟩,
    ⟨"yobi", "yobi", "Yi", 1208925819614629174706176⟩,
    ⟨"Yi", "yobi", "Yi", 1208925819614629174706176⟩, ⟨"semi", "semi", "semi", 0.5⟩,
    ⟨"demi", "semi", "semi", 0.5⟩, ⟨"sesqui", "sesqui", "sesqui", 1.5⟩]

/-- Every spelling of every unit. -/
def spelled (units : List (Unit × List String)) : List (String × Unit) :=
  units.flatMap fun (u, others) => (u.name :: others).map fun spelling => (spelling, u)

/-- The registry before any prefixed unit has been formed. -/
def standard : Registry := ⟨spelled standardUnits, standardPrefixes, []⟩

end Registry

end Reckon
