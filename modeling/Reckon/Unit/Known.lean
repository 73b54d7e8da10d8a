import Reckon.Unit

/-!
# The known units

Every unit stands after the units that define it: base units first, then constants of nature, and
the metric, imperial and customary units.
-/

namespace Reckon.Unit.Known

def meter : Unit := .base "meter" "m" (some .length)

def second : Unit := .base "second" "s" (some .time)

def ampere : Unit := .base "ampere" "A" (some .current)

def candela : Unit := .base "candela" "cd" (some .luminosity)

def gram : Unit := .base "gram" "g" (some .mass)

def mole : Unit := .base "mole" "mol" (some .substance)

def kelvin : Unit := .base "kelvin" "K" (some .temperature)

def radian : Unit := .base "radian" "rad" none

def bit : Unit := .base "bit" "bit" none

def count : Unit := .base "count" "count" none

def pi : Unit := .multiple "pi" "π" 3.141592653589793 []

def tansec : Unit := .multiple "tansec" "tansec" 4.848136811133344e-06 []

def ln10 : Unit := .multiple "ln10" "ln10" 2.302585092994046 []

def wien_x : Unit := .multiple "wien_x" "wien_x" 4.965114231744276 []

def wien_u : Unit := .multiple "wien_u" "wien_u" 2.8214393721220787 []

def eulers_number : Unit := .multiple "eulers_number" "eulers_number" 2.718281828459045 []

def speed_of_light : Unit := .multiple "speed_of_light" "c" 299792458.0 [(meter, 1), (second, -1)]

def kilogram : Unit := .multiple "kilogram" "kg" 1000.0 [(gram, 1)]

def newton : Unit := .multiple "newton" "N" 1.0 [(kilogram, 1), (meter, 1), (second, -2)]

def joule : Unit := .multiple "joule" "J" 1 [(newton, 1), (meter, 1)]

def planck_constant : Unit :=
  .multiple "planck_constant" "ℎ" 6.62607015e-34 [(joule, 1), (second, 1)]

def coulomb : Unit := .multiple "coulomb" "C" 1 [(ampere, 1), (second, 1)]

def elementary_charge : Unit := .multiple "elementary_charge" "e" 1.602176634e-19 [(coulomb, 1)]

def avogadro_number : Unit := .multiple "avogadro_number" "avogadro_number" 6.02214076e23 []

def boltzmann_constant : Unit :=
  .multiple "boltzmann_constant" "k" 1.380649e-23 [(joule, 1), (kelvin, -1)]

def standard_gravity : Unit := .multiple "standard_gravity" "g_0" 9.80665 [(meter, 1), (second, -2)]

def pascal : Unit := .multiple "pascal" "Pa" 1.0 [(newton, 1), (meter, -2)]

def standard_atmosphere : Unit := .multiple "standard_atmosphere" "atm" 101325.0 [(pascal, 1)]

def hertz : Unit := .multiple "hertz" "Hz" 1.0 [(second, -1)]

def volt : Unit := .multiple "volt" "V" 1.0 [(joule, 1), (coulomb, -1)]

def conventional_josephson_constant : Unit :=
  .multiple "conventional_josephson_constant" "K_J90" 483597900000000.0 [(hertz, 1), (volt, -1)]

def ohm : Unit := .multiple "ohm" "Ω" 1.0 [(volt, 1), (ampere, -1)]

def conventional_von_klitzing_constant : Unit :=
  .multiple "conventional_von_klitzing_constant" "R_K90" 25812.807 [(ohm, 1)]

def conventional_water_density : Unit :=
  .multiple "conventional_water_density" "ρH2O" 1000.0 [(kilogram, 1), (meter, -3)]

def conventional_mercury_density : Unit :=
  .multiple "conventional_mercury_density" "ρHg" 13595.1 [(kilogram, 1), (meter, -3)]

def centimeter : Unit := .multiple "centimeter" "cm" 0.01 [(meter, 1)]

def zeta : Unit := .multiple "zeta" "ζ" 1.0 [(speed_of_light, 1), (centimeter, -1), (second, 1)]

def dirac_constant : Unit := .multiple "dirac_constant" "ħ" 0.5 [(planck_constant, 1), (pi, -1)]

def avogadro_constant : Unit :=
  .multiple "avogadro_constant" "N_A" 1.0 [(avogadro_number, 1), (mole, -1)]

def molar_gas_constant : Unit :=
  .multiple "molar_gas_constant" "R" 1 [(boltzmann_constant, 1), (avogadro_constant, 1)]

def faraday_constant : Unit :=
  .multiple "faraday_constant" "faraday_constant" 1 [(elementary_charge, 1), (avogadro_constant, 1)]

def conductance_quantum : Unit :=
  .multiple "conductance_quantum" "G_0" 2.0 [(elementary_charge, 2), (planck_constant, -1)]

def magnetic_flux_quantum : Unit :=
  .multiple "magnetic_flux_quantum" "Φ_0" 0.5 [(planck_constant, 1), (elementary_charge, -1)]

def josephson_constant : Unit :=
  .multiple "josephson_constant" "K_J" 2.0 [(elementary_charge, 1), (planck_constant, -1)]

def von_klitzing_constant : Unit :=
  .multiple "von_klitzing_constant" "R_K" 1.0 [(planck_constant, 1), (elementary_charge, -2)]

def stefan_boltzmann_constant : Unit :=
  .multiple "stefan_boltzmann_constant" "σ" 0.13333333333333333 [(pi, 5), (boltzmann_constant, 4),
    (planck_constant, -3), (speed_of_light, -2)]

def first_radiation_constant : Unit :=
  .multiple "first_radiation_constant" "c_1" 2 [(pi, 1), (planck_constant, 1), (speed_of_light, 2)]

def second_radiation_constant : Unit :=
  .multiple "second_radiation_constant" "c_2" 1.0 [(planck_constant, 1), (speed_of_light, 1),
    (boltzmann_constant, -1)]

def wien_wavelength_displacement_law_constant : Unit :=
  .multiple "wien_wavelength_displacement_law_constant" "wien_wavelength_displacement_law_constant"
    1.0 [(planck_constant, 1), (speed_of_light, 1), (boltzmann_constant, -1), (wien_x, -1)]

def wien_frequency_displacement_law_constant : Unit :=
  .multiple "wien_frequency_displacement_law_constant" "wien_frequency_displacement_law_constant"
    1.0 [(wien_u, 1), (boltzmann_constant, 1), (planck_constant, -1)]

def newtonian_constant_of_gravitation : Unit :=
  .multiple "newtonian_constant_of_gravitation" "newtonian_constant_of_gravitation" 6.6743e-11
    [(meter, 3), (kilogram, -1), (second, -2)]

def rydberg_constant : Unit := .multiple "rydberg_constant" "R_∞" 10973731.568157 [(meter, -1)]

def electron_g_factor : Unit := .multiple "electron_g_factor" "g_e" (-2.00231930436092) []

def atomic_mass_constant : Unit :=
  .multiple "atomic_mass_constant" "m_u" 1.66053906892e-27 [(kilogram, 1)]

def electron_mass : Unit := .multiple "electron_mass" "m_e" 9.1093837139e-31 [(kilogram, 1)]

def proton_mass : Unit := .multiple "proton_mass" "m_p" 1.67262192595e-27 [(kilogram, 1)]

def neutron_mass : Unit := .multiple "neutron_mass" "m_n" 1.67492750056e-27 [(kilogram, 1)]

def x_unit_Cu : Unit := .multiple "x_unit_Cu" "Xu_Cu" 1.00207697e-13 [(meter, 1)]

def x_unit_Mo : Unit := .multiple "x_unit_Mo" "Xu_Mo" 1.00209952e-13 [(meter, 1)]

def angstrom_star : Unit := .multiple "angstrom_star" "Å_star" 1.00001495e-10 [(meter, 1)]

def water_density_4C : Unit :=
  .multiple "water_density_4C" "ρH2O_4C" 999.972 [(kilogram, 1), (meter, -3)]

def water_density_60F : Unit :=
  .multiple "water_density_60F" "ρH2O_60F" 999.001 [(kilogram, 1), (meter, -3)]

def mercury_density_0C : Unit :=
  .multiple "mercury_density_0C" "ρHg_0C" 13595.1 [(kilogram, 1), (meter, -3)]

def mercury_density_32F : Unit :=
  .multiple "mercury_density_32F" "ρHg_32F" 13595.1 [(kilogram, 1), (meter, -3)]

def mercury_density_60F : Unit :=
  .multiple "mercury_density_60F" "ρHg_60F" 13556.8 [(kilogram, 1), (meter, -3)]

def fine_structure_constant : Unit :=
  .multiple "fine_structure_constant" "α" 1.4142135623730951 [(planck_constant, 0.5),
    (rydberg_constant, 0.5), (electron_mass, -0.5), (speed_of_light, -0.5)]

def vacuum_permeability : Unit :=
  .multiple "vacuum_permeability" "µ_0" 2.0 [(fine_structure_constant, 1), (planck_constant, 1),
    (elementary_charge, -2), (speed_of_light, -1)]

def vacuum_permittivity : Unit :=
  .multiple "vacuum_permittivity" "ε_0" 0.5 [(elementary_charge, 2), (fine_structure_constant, -1),
    (planck_constant, -1), (speed_of_light, -1)]

def impedance_of_free_space : Unit :=
  .multiple "impedance_of_free_space" "Z_0" 2.0 [(fine_structure_constant, 1), (planck_constant,
    1), (elementary_charge, -2)]

def coulomb_constant : Unit :=
  .multiple "coulomb_constant" "k_C" 1.0 [(fine_structure_constant, 1), (dirac_constant, 1),
    (speed_of_light, 1), (elementary_charge, -2)]

def classical_electron_radius : Unit :=
  .multiple "classical_electron_radius" "r_e" 1.0 [(fine_structure_constant, 1), (dirac_constant,
    1), (electron_mass, -1), (speed_of_light, -1)]

def thomson_cross_section : Unit :=
  .multiple "thomson_cross_section" "σ_e" 2.6666666666666665 [(pi, 1), (classical_electron_radius,
    2)]

def turn : Unit := .multiple "turn" "turn" 2 [(pi, 1), (radian, 1)]

def degree : Unit := .multiple "degree" "deg" 0.005555555555555556 [(pi, 1), (radian, 1)]

def arcminute : Unit := .multiple "arcminute" "arcmin" 0.016666666666666666 [(degree, 1)]

def arcsecond : Unit := .multiple "arcsecond" "arcsec" 0.016666666666666666 [(arcminute, 1)]

def milliarcsecond : Unit := .multiple "milliarcsecond" "mas" 0.001 [(arcsecond, 1)]

def grade : Unit := .multiple "grade" "grad" 0.005 [(pi, 1), (radian, 1)]

def mil : Unit := .multiple "mil" "mil" 3.125e-05 [(pi, 1), (radian, 1)]

def steradian : Unit := .multiple "steradian" "sr" 1 [(radian, 2)]

def square_degree : Unit :=
  .multiple "square_degree" "sq_deg" 3.08641975308642e-05 [(pi, 2), (steradian, 1)]

def baud : Unit := .multiple "baud" "Bd" 1.0 [(bit, 1), (second, -1)]

def byte : Unit := .multiple "byte" "B" 8 [(bit, 1)]

def percent : Unit := .multiple "percent" "%" 0.01 []

def permille : Unit := .multiple "permille" "‰" 0.001 []

def ppm : Unit := .multiple "ppm" "ppm" 1e-06 []

def strain : Unit := .multiple "strain" "ε" 1 []

def angstrom : Unit := .multiple "angstrom" "Å" 1e-10 [(meter, 1)]

def micrometer : Unit := .multiple "micrometer" "µm" 1e-06 [(meter, 1)]

def micron : Unit := .multiple "micron" "µ" 1 [(micrometer, 1)]

def femtometer : Unit := .multiple "femtometer" "fm" 1e-15 [(meter, 1)]

def fermi : Unit := .multiple "fermi" "fm" 1 [(femtometer, 1)]

def minute : Unit := .multiple "minute" "min" 60 [(second, 1)]

def hour : Unit := .multiple "hour" "h" 60 [(minute, 1)]

def day : Unit := .multiple "day" "d" 24 [(hour, 1)]

def year : Unit := .multiple "year" "a" 365.25 [(day, 1)]

def light_year : Unit := .multiple "light_year" "ly" 1 [(speed_of_light, 1), (year, 1)]

def astronomical_unit : Unit := .multiple "astronomical_unit" "au" 149597870700 [(meter, 1)]

def parsec : Unit := .multiple "parsec" "pc" 1.0 [(tansec, -1), (astronomical_unit, 1)]

def nautical_mile : Unit := .multiple "nautical_mile" "nmi" 1852 [(meter, 1)]

def bohr : Unit :=
  .multiple "bohr" "a_0" 1.0 [(dirac_constant, 1), (fine_structure_constant, -1), (electron_mass,
    -1), (speed_of_light, -1)]

def planck_length : Unit :=
  .multiple "planck_length" "planck_length" 1.0 [(dirac_constant, 0.5),
    (newtonian_constant_of_gravitation, 0.5), (speed_of_light, -1.5)]

def metric_ton : Unit := .multiple "metric_ton" "t" 1000.0 [(kilogram, 1)]

def unified_atomic_mass_unit : Unit :=
  .multiple "unified_atomic_mass_unit" "u" 1 [(atomic_mass_constant, 1)]

def dalton : Unit := .multiple "dalton" "Da" 1 [(atomic_mass_constant, 1)]

def milligram : Unit := .multiple "milligram" "mg" 0.001 [(gram, 1)]

def grain : Unit := .multiple "grain" "gr" 64.79891 [(milligram, 1)]

def microgram : Unit := .multiple "microgram" "µg" 1e-06 [(gram, 1)]

def gamma_mass : Unit := .multiple "gamma_mass" "gamma_mass" 1 [(microgram, 1)]

def carat : Unit := .multiple "carat" "ct" 200 [(milligram, 1)]

def planck_mass : Unit :=
  .multiple "planck_mass" "planck_mass" 1.0 [(dirac_constant, 0.5), (speed_of_light, 0.5),
    (newtonian_constant_of_gravitation, -0.5)]

def week : Unit := .multiple "week" "week" 7 [(day, 1)]

def fortnight : Unit := .multiple "fortnight" "fortnight" 2 [(week, 1)]

def month : Unit := .multiple "month" "month" 0.08333333333333333 [(year, 1)]

def century : Unit := .multiple "century" "century" 100 [(year, 1)]

def millennium : Unit := .multiple "millennium" "millennium" 1000.0 [(year, 1)]

def eon : Unit := .multiple "eon" "eon" 1000000000.0 [(year, 1)]

def shake : Unit := .multiple "shake" "shake" 1e-08 [(second, 1)]

def svedberg : Unit := .multiple "svedberg" "svedberg" 1e-13 [(second, 1)]

def rydberg : Unit :=
  .multiple "rydberg" "Ry" 1 [(planck_constant, 1), (speed_of_light, 1), (rydberg_constant, 1)]

def hartree : Unit := .multiple "hartree" "E_h" 2 [(rydberg, 1)]

def atomic_unit_of_time : Unit :=
  .multiple "atomic_unit_of_time" "a_u_time" 1.0 [(dirac_constant, 1), (hartree, -1)]

def gregorian_year : Unit := .multiple "gregorian_year" "gregorian_year" 365.2425 [(day, 1)]

def sidereal_year : Unit := .multiple "sidereal_year" "sidereal_year" 365.256363004 [(day, 1)]

def tropical_year : Unit := .multiple "tropical_year" "tropical_year" 365.242190402 [(day, 1)]

def common_year : Unit := .multiple "common_year" "common_year" 365 [(day, 1)]

def leap_year : Unit := .multiple "leap_year" "leap_year" 366 [(day, 1)]

def sidereal_day : Unit := .multiple "sidereal_day" "sidereal_day" 0.997269566329084 [(day, 1)]

def sidereal_month : Unit := .multiple "sidereal_month" "sidereal_month" 27.32166155 [(day, 1)]

def tropical_month : Unit := .multiple "tropical_month" "tropical_month" 27.321582 [(day, 1)]

def synodic_month : Unit := .multiple "synodic_month" "synodic_month" 29.530589 [(day, 1)]

def planck_time : Unit :=
  .multiple "planck_time" "planck_time" 1.0 [(dirac_constant, 0.5),
    (newtonian_constant_of_gravitation, 0.5), (speed_of_light, -2.5)]

def degree_Celsius : Unit := .derived "degree_Celsius" "°C" (.shifted 1 273.15) [(kelvin, 1)]

def delta_degree_Celsius : Unit := .multiple "delta_degree_Celsius" "Δ°C" 1 [(kelvin, 1)]

def degree_Rankine : Unit := .multiple "degree_Rankine" "°R" 0.5555555555555556 [(kelvin, 1)]

def degree_Fahrenheit : Unit :=
  .derived "degree_Fahrenheit" "°F" (.shifted 0.5555555555555556 255.37222222222223) [(kelvin, 1)]

def delta_degree_Fahrenheit : Unit :=
  .multiple "delta_degree_Fahrenheit" "Δ°F" 0.5555555555555556 [(kelvin, 1)]

def degree_Reaumur : Unit := .derived "degree_Reaumur" "°Re" (.shifted 1.25 273.15) [(kelvin, 1)]

def delta_degree_Reaumur : Unit := .multiple "delta_degree_Reaumur" "Δ°Re" 1.25 [(kelvin, 1)]

def atomic_unit_of_temperature : Unit :=
  .multiple "atomic_unit_of_temperature" "a_u_temp" 1.0 [(hartree, 1), (boltzmann_constant, -1)]

def planck_temperature : Unit :=
  .multiple "planck_temperature" "planck_temperature" 1.0 [(dirac_constant, 0.5),
    (speed_of_light, 2.5), (newtonian_constant_of_gravitation, -0.5), (boltzmann_constant, -1.0)]

def are : Unit := .multiple "are" "are" 100 [(meter, 2)]

def barn : Unit := .multiple "barn" "b" 1e-28 [(meter, 2)]

def poise : Unit := .multiple "poise" "P" 0.1 [(pascal, 1), (second, 1)]

def centipoise : Unit := .multiple "centipoise" "cP" 0.01 [(poise, 1)]

def darcy : Unit :=
  .multiple "darcy" "darcy" 1.0 [(centipoise, 1), (centimeter, 2), (second, -1),
    (standard_atmosphere, -1)]

def hectare : Unit := .multiple "hectare" "ha" 100 [(are, 1)]

def decimeter : Unit := .multiple "decimeter" "dm" 0.1 [(meter, 1)]

def liter : Unit := .multiple "liter" "l" 1 [(decimeter, 3)]

def cubic_centimeter : Unit := .multiple "cubic_centimeter" "cc" 1 [(centimeter, 3)]

def microliter : Unit := .multiple "microliter" "µl" 1e-06 [(liter, 1)]

def lambda : Unit := .multiple "lambda" "λ" 1 [(microliter, 1)]

def stere : Unit := .multiple "stere" "stere" 1 [(meter, 3)]

def revolutions_per_minute : Unit :=
  .multiple "revolutions_per_minute" "rpm" 1.0 [(turn, 1), (minute, -1)]

def revolutions_per_second : Unit :=
  .multiple "revolutions_per_second" "rps" 1.0 [(turn, 1), (second, -1)]

def counts_per_second : Unit := .multiple "counts_per_second" "cps" 1.0 [(count, 1), (second, -1)]

def reciprocal_centimeter : Unit := .multiple "reciprocal_centimeter" "cm_1" 1.0 [(centimeter, -1)]

def knot : Unit := .multiple "knot" "kn" 1.0 [(nautical_mile, 1), (hour, -1)]

def yard : Unit := .multiple "yard" "yd" 0.9144 [(meter, 1)]

def mile : Unit := .multiple "mile" "mi" 1760 [(yard, 1)]

def mile_per_hour : Unit := .multiple "mile_per_hour" "mph" 1.0 [(mile, 1), (hour, -1)]

def kilometer : Unit := .multiple "kilometer" "km" 1000.0 [(meter, 1)]

def kilometer_per_hour : Unit :=
  .multiple "kilometer_per_hour" "kph" 1.0 [(kilometer, 1), (hour, -1)]

def kilometer_per_second : Unit :=
  .multiple "kilometer_per_second" "kps" 1.0 [(kilometer, 1), (second, -1)]

def meter_per_second : Unit := .multiple "meter_per_second" "mps" 1.0 [(meter, 1), (second, -1)]

def foot : Unit := .multiple "foot" "ft" 0.3333333333333333 [(yard, 1)]

def foot_per_second : Unit := .multiple "foot_per_second" "fps" 1.0 [(foot, 1), (second, -1)]

def sverdrup : Unit := .multiple "sverdrup" "sv" 1000000.0 [(meter, 3), (second, -1)]

def galileo : Unit := .multiple "galileo" "Gal" 1.0 [(centimeter, 1), (second, -2)]

def meter_per_second_squared : Unit :=
  .multiple "meter_per_second_squared" "meter_per_second_squared" 1.0 [(meter, 1), (second, -2)]

def dyne : Unit := .multiple "dyne" "dyn" 1.0 [(gram, 1), (centimeter, 1), (second, -2)]

def force_kilogram : Unit :=
  .multiple "force_kilogram" "kgf" 1 [(standard_gravity, 1), (kilogram, 1)]

def force_gram : Unit := .multiple "force_gram" "gf" 1 [(standard_gravity, 1), (gram, 1)]

def force_metric_ton : Unit :=
  .multiple "force_metric_ton" "tf" 1 [(standard_gravity, 1), (metric_ton, 1)]

def atomic_unit_of_force : Unit :=
  .multiple "atomic_unit_of_force" "a_u_force" 1.0 [(hartree, 1), (bohr, -1)]

def erg : Unit := .multiple "erg" "erg" 1 [(dyne, 1), (centimeter, 1)]

def watt : Unit := .multiple "watt" "W" 1.0 [(joule, 1), (second, -1)]

def watt_hour : Unit := .multiple "watt_hour" "Wh" 1 [(watt, 1), (hour, 1)]

def electron_volt : Unit := .multiple "electron_volt" "eV" 1 [(elementary_charge, 1), (volt, 1)]

def calorie : Unit := .multiple "calorie" "cal" 4.184 [(joule, 1)]

def international_calorie : Unit := .multiple "international_calorie" "cal_it" 4.1868 [(joule, 1)]

def fifteen_degree_calorie : Unit := .multiple "fifteen_degree_calorie" "cal_15" 4.1855 [(joule, 1)]

def british_thermal_unit : Unit := .multiple "british_thermal_unit" "Btu" 1055.056 [(joule, 1)]

def pound : Unit := .multiple "pound" "lb" 7000.0 [(grain, 1)]

def international_british_thermal_unit : Unit :=
  .multiple "international_british_thermal_unit" "Btu_it" 1000.0 [(pound, 1), (kilogram, -1),
    (degree_Rankine, 1), (kelvin, -1), (international_calorie, 1)]

def thermochemical_british_thermal_unit : Unit :=
  .multiple "thermochemical_british_thermal_unit" "Btu_th" 1000.0 [(pound, 1), (kilogram, -1),
    (degree_Rankine, 1), (kelvin, -1), (calorie, 1)]

def quadrillion_Btu : Unit :=
  .multiple "quadrillion_Btu" "quad" 1000000000000000.0 [(british_thermal_unit, 1)]

def therm : Unit := .multiple "therm" "thm" 100000.0 [(british_thermal_unit, 1)]

def US_therm : Unit := .multiple "US_therm" "US_therm" 105480400.0 [(joule, 1)]

def ton_TNT : Unit := .multiple "ton_TNT" "tTNT" 1000000000.0 [(calorie, 1)]

def tonne_of_oil_equivalent : Unit :=
  .multiple "tonne_of_oil_equivalent" "toe" 10000000000.0 [(international_calorie, 1)]

def atmosphere_liter : Unit :=
  .multiple "atmosphere_liter" "atm_l" 1 [(standard_atmosphere, 1), (liter, 1)]

def volt_ampere : Unit := .multiple "volt_ampere" "VA" 1 [(volt, 1), (ampere, 1)]

def force_pound : Unit := .multiple "force_pound" "lbf" 1 [(standard_gravity, 1), (pound, 1)]

def horsepower : Unit :=
  .multiple "horsepower" "hp" 550.0 [(foot, 1), (force_pound, 1), (second, -1)]

def boiler_horsepower : Unit :=
  .multiple "boiler_horsepower" "boiler_horsepower" 33475.0 [(british_thermal_unit, 1), (hour, -1)]

def metric_horsepower : Unit :=
  .multiple "metric_horsepower" "metric_horsepower" 75.0 [(force_kilogram, 1), (meter, 1), (second,
    -1)]

def electrical_horsepower : Unit :=
  .multiple "electrical_horsepower" "electrical_horsepower" 746 [(watt, 1)]

def refrigeration_ton : Unit :=
  .multiple "refrigeration_ton" "refrigeration_ton" 12000.0 [(british_thermal_unit, 1), (hour, -1)]

def cooling_tower_ton : Unit :=
  .multiple "cooling_tower_ton" "cooling_tower_ton" 1.25 [(refrigeration_ton, 1)]

def standard_liter_per_minute : Unit :=
  .multiple "standard_liter_per_minute" "slpm" 1.0 [(standard_atmosphere, 1), (liter, 1), (minute,
    -1)]

def conventional_watt_90 : Unit :=
  .multiple "conventional_watt_90" "W_90" 1.0 [(conventional_josephson_constant, 2),
    (conventional_von_klitzing_constant, 1), (josephson_constant, -2), (von_klitzing_constant, -1),
    (watt, 1)]

def barye : Unit := .multiple "barye" "Ba" 1.0 [(dyne, 1), (centimeter, -2)]

def bar : Unit := .multiple "bar" "bar" 100000.0 [(pascal, 1)]

def technical_atmosphere : Unit :=
  .multiple "technical_atmosphere" "at" 1.0 [(kilogram, 1), (standard_gravity, 1), (centimeter, -2)]

def torr : Unit := .multiple "torr" "torr" 0.0013157894736842105 [(standard_atmosphere, 1)]

def inch : Unit := .multiple "inch" "in" 0.027777777777777776 [(yard, 1)]

def pound_force_per_square_inch : Unit :=
  .multiple "pound_force_per_square_inch" "psi" 1.0 [(force_pound, 1), (inch, -2)]

def kip : Unit := .multiple "kip" "kip" 1000.0 [(force_pound, 1)]

def kip_per_square_inch : Unit := .multiple "kip_per_square_inch" "ksi" 1.0 [(kip, 1), (inch, -2)]

def meter_H2O : Unit :=
  .multiple "meter_H2O" "mH2O" 1 [(meter, 1), (conventional_water_density, 1), (standard_gravity,
    1)]

def meter_H2O_4C : Unit :=
  .multiple "meter_H2O_4C" "mH2O_4C" 1 [(meter, 1), (water_density_4C, 1), (standard_gravity, 1)]

def meter_H2O_60F : Unit :=
  .multiple "meter_H2O_60F" "mH2O_60F" 1 [(meter, 1), (water_density_60F, 1), (standard_gravity, 1)]

def inch_H2O : Unit :=
  .multiple "inch_H2O" "inH2O" 1 [(inch, 1), (conventional_water_density, 1), (standard_gravity, 1)]

def inch_H2O_4C : Unit :=
  .multiple "inch_H2O_4C" "inH2O_4C" 1 [(inch, 1), (water_density_4C, 1), (standard_gravity, 1)]

def inch_H2O_60F : Unit :=
  .multiple "inch_H2O_60F" "inH2O_60F" 1 [(inch, 1), (water_density_60F, 1), (standard_gravity, 1)]

def foot_H2O : Unit :=
  .multiple "foot_H2O" "ftH2O" 1 [(foot, 1), (conventional_water_density, 1), (standard_gravity, 1)]

def foot_H2O_4C : Unit :=
  .multiple "foot_H2O_4C" "ftH2O_4C" 1 [(foot, 1), (water_density_4C, 1), (standard_gravity, 1)]

def foot_H2O_60F : Unit :=
  .multiple "foot_H2O_60F" "ftH2O_60F" 1 [(foot, 1), (water_density_60F, 1), (standard_gravity, 1)]

def meter_Hg : Unit :=
  .multiple "meter_Hg" "mHg" 1 [(meter, 1), (conventional_mercury_density, 1), (standard_gravity,
    1)]

def meter_Hg_0C : Unit :=
  .multiple "meter_Hg_0C" "mHg_0C" 1 [(meter, 1), (mercury_density_0C, 1), (standard_gravity, 1)]

def meter_Hg_32F : Unit :=
  .multiple "meter_Hg_32F" "mHg_32F" 1 [(meter, 1), (mercury_density_32F, 1), (standard_gravity, 1)]

def meter_Hg_60F : Unit :=
  .multiple "meter_Hg_60F" "mHg_60F" 1 [(meter, 1), (mercury_density_60F, 1), (standard_gravity, 1)]

def inch_Hg : Unit :=
  .multiple "inch_Hg" "inHg" 1 [(inch, 1), (conventional_mercury_density, 1), (standard_gravity, 1)]

def inch_Hg_0C : Unit :=
  .multiple "inch_Hg_0C" "inHg_0C" 1 [(inch, 1), (mercury_density_0C, 1), (standard_gravity, 1)]

def inch_Hg_32F : Unit :=
  .multiple "inch_Hg_32F" "inHg_32F" 1 [(inch, 1), (mercury_density_32F, 1), (standard_gravity, 1)]

def inch_Hg_60F : Unit :=
  .multiple "inch_Hg_60F" "inHg_60F" 1 [(inch, 1), (mercury_density_60F, 1), (standard_gravity, 1)]

def foot_Hg : Unit :=
  .multiple "foot_Hg" "ftHg" 1 [(foot, 1), (conventional_mercury_density, 1), (standard_gravity, 1)]

def foot_Hg_0C : Unit :=
  .multiple "foot_Hg_0C" "ftHg_0C" 1 [(foot, 1), (mercury_density_0C, 1), (standard_gravity, 1)]

def foot_Hg_32F : Unit :=
  .multiple "foot_Hg_32F" "ftHg_32F" 1 [(foot, 1), (mercury_density_32F, 1), (standard_gravity, 1)]

def foot_Hg_60F : Unit :=
  .multiple "foot_Hg_60F" "ftHg_60F" 1 [(foot, 1), (mercury_density_60F, 1), (standard_gravity, 1)]

def sound_pressure_level : Unit := .multiple "sound_pressure_level" "SPL" 2e-05 [(pascal, 1)]

def foot_pound : Unit := .multiple "foot_pound" "ft_lb" 1 [(foot, 1), (force_pound, 1)]

def reyn : Unit := .multiple "reyn" "reyn" 1 [(pound_force_per_square_inch, 1), (second, 1)]

def stokes : Unit := .multiple "stokes" "St" 1.0 [(centimeter, 2), (second, -1)]

def rhe : Unit := .multiple "rhe" "rhe" 1.0 [(poise, -1)]

def particle : Unit := .multiple "particle" "particle" 1.0 [(avogadro_constant, -1)]

def molar : Unit := .multiple "molar" "M" 1.0 [(mole, 1), (liter, -1)]

def katal : Unit := .multiple "katal" "kat" 1.0 [(mole, 1), (second, -1)]

def micromole : Unit := .multiple "micromole" "µmol" 1e-06 [(mole, 1)]

def enzyme_unit : Unit := .multiple "enzyme_unit" "U" 1.0 [(micromole, 1), (minute, -1)]

def clausius : Unit := .multiple "clausius" "Cl" 1.0 [(calorie, 1), (kelvin, -1)]

def entropy_unit : Unit :=
  .multiple "entropy_unit" "eu" 1.0 [(calorie, 1), (kelvin, -1), (mole, -1)]

def becquerel : Unit := .multiple "becquerel" "Bq" 1 [(counts_per_second, 1)]

def curie : Unit := .multiple "curie" "Ci" 37000000000.0 [(becquerel, 1)]

def rutherford : Unit := .multiple "rutherford" "Rd" 1000000.0 [(becquerel, 1)]

def gray : Unit := .multiple "gray" "Gy" 1.0 [(joule, 1), (kilogram, -1)]

def sievert : Unit := .multiple "sievert" "Sv" 1.0 [(joule, 1), (kilogram, -1)]

def rads : Unit := .multiple "rads" "rads" 0.01 [(gray, 1)]

def rem : Unit := .multiple "rem" "rem" 0.01 [(sievert, 1)]

def roentgen : Unit := .multiple "roentgen" "roentgen" 0.000258 [(coulomb, 1), (kilogram, -1)]

def peak_sun_hour : Unit := .multiple "peak_sun_hour" "PSH" 1000.0 [(watt_hour, 1), (meter, -2)]

def langley : Unit := .multiple "langley" "Ly" 1.0 [(calorie, 1), (centimeter, -2)]

def nit : Unit := .multiple "nit" "nit" 1.0 [(candela, 1), (meter, -2)]

def stilb : Unit := .multiple "stilb" "stilb" 1.0 [(candela, 1), (centimeter, -2)]

def lambert : Unit := .multiple "lambert" "lambert" 1.0 [(pi, -1), (candela, 1), (centimeter, -2)]

def lumen : Unit := .multiple "lumen" "lm" 1 [(candela, 1), (steradian, 1)]

def lux : Unit := .multiple "lux" "lx" 1.0 [(lumen, 1), (meter, -2)]

def atomic_unit_of_electric_field : Unit :=
  .multiple "atomic_unit_of_electric_field" "a_u_electric_field" 1.0 [(elementary_charge, 1),
    (coulomb_constant, 1), (bohr, -2)]

def atomic_unit_of_intensity : Unit :=
  .multiple "atomic_unit_of_intensity" "a_u_intensity" 0.5 [(vacuum_permittivity, 1),
    (speed_of_light, 1), (atomic_unit_of_electric_field, 2)]

def biot : Unit := .multiple "biot" "Bi" 10 [(ampere, 1)]

def abampere : Unit := .multiple "abampere" "abA" 1 [(biot, 1)]

def atomic_unit_of_current : Unit :=
  .multiple "atomic_unit_of_current" "a_u_current" 1.0 [(elementary_charge, 1),
    (atomic_unit_of_time, -1)]

def mean_international_volt : Unit := .multiple "mean_international_volt" "V_it" 1.00034 [(volt, 1)]

def mean_international_ohm : Unit := .multiple "mean_international_ohm" "Ω_it" 1.00049 [(ohm, 1)]

def mean_international_ampere : Unit :=
  .multiple "mean_international_ampere" "A_it" 1.0 [(mean_international_volt, 1),
    (mean_international_ohm, -1)]

def US_international_volt : Unit := .multiple "US_international_volt" "V_US" 1.00033 [(volt, 1)]

def US_international_ohm : Unit := .multiple "US_international_ohm" "Ω_US" 1.000495 [(ohm, 1)]

def US_international_ampere : Unit :=
  .multiple "US_international_ampere" "A_US" 1.0 [(US_international_volt, 1),
    (US_international_ohm, -1)]

def conventional_ampere_90 : Unit :=
  .multiple "conventional_ampere_90" "A_90" 1.0 [(conventional_josephson_constant, 1),
    (conventional_von_klitzing_constant, 1), (josephson_constant, -1), (von_klitzing_constant, -1),
    (ampere, 1)]

def planck_current : Unit :=
  .multiple "planck_current" "planck_current" 1.0 [(speed_of_light, 3.0),
    (newtonian_constant_of_gravitation, -0.5), (coulomb_constant, -0.5)]

def abcoulomb : Unit := .multiple "abcoulomb" "abC" 10 [(coulomb, 1)]

def faraday : Unit :=
  .multiple "faraday" "faraday" 1 [(elementary_charge, 1), (avogadro_constant, 1), (mole, 1)]

def conventional_coulomb_90 : Unit :=
  .multiple "conventional_coulomb_90" "C_90" 1.0 [(conventional_josephson_constant, 1),
    (conventional_von_klitzing_constant, 1), (josephson_constant, -1), (von_klitzing_constant, -1),
    (coulomb, 1)]

def ampere_hour : Unit := .multiple "ampere_hour" "Ah" 1 [(ampere, 1), (hour, 1)]

def abvolt : Unit := .multiple "abvolt" "abV" 1e-08 [(volt, 1)]

def conventional_volt_90 : Unit :=
  .multiple "conventional_volt_90" "V_90" 1.0 [(conventional_josephson_constant, 1),
    (josephson_constant, -1), (volt, 1)]

def atomic_unit_of_electric_field_gradient : Unit :=
  .multiple "atomic_unit_of_electric_field_gradient" "a_u_efg" 1.0 [(hartree, 1), (bohr, -2),
    (elementary_charge, -1)]

def townsend : Unit := .multiple "townsend" "Td" 1e-21 [(volt, 1), (meter, 2)]

def abohm : Unit := .multiple "abohm" "abΩ" 1e-09 [(ohm, 1)]

def conventional_ohm_90 : Unit :=
  .multiple "conventional_ohm_90" "Ω_90" 1.0 [(von_klitzing_constant, 1),
    (conventional_von_klitzing_constant, -1), (ohm, 1)]

def siemens : Unit := .multiple "siemens" "S" 1.0 [(ampere, 1), (volt, -1)]

def absiemens : Unit := .multiple "absiemens" "abS" 1000000000.0 [(siemens, 1)]

def farad : Unit := .multiple "farad" "F" 1.0 [(coulomb, 1), (volt, -1)]

def abfarad : Unit := .multiple "abfarad" "abF" 1000000000.0 [(farad, 1)]

def conventional_farad_90 : Unit :=
  .multiple "conventional_farad_90" "F_90" 1.0 [(conventional_von_klitzing_constant, 1),
    (von_klitzing_constant, -1), (farad, 1)]

def weber : Unit := .multiple "weber" "Wb" 1 [(volt, 1), (second, 1)]

def unit_pole : Unit :=
  .multiple "unit_pole" "unit_pole" 1 [(vacuum_permeability, 1), (biot, 1), (centimeter, 1)]

def henry : Unit := .multiple "henry" "H" 1.0 [(weber, 1), (ampere, -1)]

def abhenry : Unit := .multiple "abhenry" "abH" 1e-09 [(henry, 1)]

def conventional_henry_90 : Unit :=
  .multiple "conventional_henry_90" "H_90" 1.0 [(von_klitzing_constant, 1),
    (conventional_von_klitzing_constant, -1), (henry, 1)]

def tesla : Unit := .multiple "tesla" "T" 1.0 [(weber, 1), (meter, -2)]

def gamma : Unit := .multiple "gamma" "γ" 1e-09 [(tesla, 1)]

def ampere_turn : Unit := .multiple "ampere_turn" "At" 1 [(ampere, 1)]

def biot_turn : Unit := .multiple "biot_turn" "biot_turn" 1 [(biot, 1)]

def gilbert : Unit := .multiple "gilbert" "Gb" 0.25 [(pi, -1), (biot_turn, 1)]

def debye : Unit := .multiple "debye" "D" 1e-09 [(zeta, -1), (coulomb, 1), (angstrom, 1)]

def buckingham : Unit := .multiple "buckingham" "buckingham" 1 [(debye, 1), (angstrom, 1)]

def bohr_magneton : Unit :=
  .multiple "bohr_magneton" "µ_B" 0.5 [(elementary_charge, 1), (dirac_constant, 1), (electron_mass,
    -1)]

def nuclear_magneton : Unit :=
  .multiple "nuclear_magneton" "µ_N" 0.5 [(elementary_charge, 1), (dirac_constant, 1),
    (proton_mass, -1)]

def refractive_index_unit : Unit := .base "refractive_index_unit" "RIU" none

def absorbance_unit : Unit := .base "absorbance_unit" "AU" none

def LMH : Unit := .multiple "LMH" "LMH" 1.0 [(liter, 1), (meter, -2), (hour, -1)]

def decibelwatt : Unit := .derived "decibelwatt" "dBW" (.logarithmic 1 10 10) [(watt, 1)]

def decibelmilliwatt : Unit :=
  .derived "decibelmilliwatt" "dBm" (.logarithmic 0.001 10 10) [(watt, 1)]

def decibelmicrowatt : Unit :=
  .derived "decibelmicrowatt" "dBu" (.logarithmic 1e-06 10 10) [(watt, 1)]

def decibel : Unit := .derived "decibel" "dB" (.logarithmic 1 10 10) []

def decade : Unit := .derived "decade" "decade" (.logarithmic 1 10 1) []

def octave : Unit := .derived "octave" "oct" (.logarithmic 1 2 1) []

def neper : Unit := .derived "neper" "Np" (.logarithmic 1 2.718281828459045 0.5) []

def thou : Unit := .multiple "thou" "th" 0.001 [(inch, 1)]

def hand : Unit := .multiple "hand" "hand" 4 [(inch, 1)]

def circular_mil : Unit := .multiple "circular_mil" "cmil" 0.25 [(pi, 1), (thou, 2)]

def square_inch : Unit := .multiple "square_inch" "sq_in" 1 [(inch, 2)]

def square_foot : Unit := .multiple "square_foot" "sq_ft" 1 [(foot, 2)]

def square_yard : Unit := .multiple "square_yard" "sq_yd" 1 [(yard, 2)]

def square_mile : Unit := .multiple "square_mile" "sq_mi" 1 [(mile, 2)]

def cubic_inch : Unit := .multiple "cubic_inch" "cu_in" 1 [(inch, 3)]

def cubic_foot : Unit := .multiple "cubic_foot" "cu_ft" 1 [(foot, 3)]

def cubic_yard : Unit := .multiple "cubic_yard" "cu_yd" 1 [(yard, 3)]

def survey_foot : Unit := .multiple "survey_foot" "sft" 0.3048006096012192 [(meter, 1)]

def rod : Unit := .multiple "rod" "rd" 16.5 [(survey_foot, 1)]

def chain : Unit := .multiple "chain" "chain" 4 [(rod, 1)]

def link : Unit := .multiple "link" "li" 0.01 [(chain, 1)]

def fathom : Unit := .multiple "fathom" "fathom" 6 [(survey_foot, 1)]

def furlong : Unit := .multiple "furlong" "fur" 40 [(rod, 1)]

def cables_length : Unit := .multiple "cables_length" "cables_length" 120 [(fathom, 1)]

def survey_mile : Unit := .multiple "survey_mile" "smi" 5280 [(survey_foot, 1)]

def league : Unit := .multiple "league" "league" 3 [(survey_mile, 1)]

def square_rod : Unit := .multiple "square_rod" "sq_rod" 1 [(rod, 2)]

def acre : Unit := .multiple "acre" "acre" 10 [(chain, 2)]

def square_survey_mile : Unit :=
  .multiple "square_survey_mile" "square_survey_mile" 1 [(survey_mile, 2)]

def square_league : Unit := .multiple "square_league" "square_league" 1 [(league, 2)]

def acre_foot : Unit := .multiple "acre_foot" "acre_foot" 1 [(acre, 1), (survey_foot, 1)]

def bushel : Unit := .multiple "bushel" "bu" 2150.42 [(cubic_inch, 1)]

def dry_pint : Unit := .multiple "dry_pint" "dpi" 0.015625 [(bushel, 1)]

def dry_quart : Unit := .multiple "dry_quart" "dqt" 0.03125 [(bushel, 1)]

def dry_gallon : Unit := .multiple "dry_gallon" "dgal" 0.125 [(bushel, 1)]

def peck : Unit := .multiple "peck" "pk" 0.25 [(bushel, 1)]

def dry_barrel : Unit := .multiple "dry_barrel" "dry_barrel" 7056 [(cubic_inch, 1)]

def board_foot : Unit := .multiple "board_foot" "FBM" 1 [(foot, 2), (inch, 1)]

def gallon : Unit := .multiple "gallon" "gal" 231 [(cubic_inch, 1)]

def quart : Unit := .multiple "quart" "qt" 0.25 [(gallon, 1)]

def pint : Unit := .multiple "pint" "pt" 0.5 [(quart, 1)]

def minim : Unit := .multiple "minim" "minim" 0.00013020833333333333 [(pint, 1)]

def fluid_dram : Unit := .multiple "fluid_dram" "fldr" 0.0078125 [(pint, 1)]

def fluid_ounce : Unit := .multiple "fluid_ounce" "floz" 0.0625 [(pint, 1)]

def gill : Unit := .multiple "gill" "gi" 0.25 [(pint, 1)]

def fifth : Unit := .multiple "fifth" "fifth" 0.2 [(gallon, 1)]

def teaspoon : Unit := .multiple "teaspoon" "tsp" 0.16666666666666666 [(fluid_ounce, 1)]

def tablespoon : Unit := .multiple "tablespoon" "tbsp" 0.5 [(fluid_ounce, 1)]

def shot : Unit := .multiple "shot" "jig" 3 [(tablespoon, 1)]

def cup : Unit := .multiple "cup" "cp" 0.5 [(pint, 1)]

def barrel : Unit := .multiple "barrel" "bbl" 31.5 [(gallon, 1)]

def oil_barrel : Unit := .multiple "oil_barrel" "oil_bbl" 42 [(gallon, 1)]

def beer_barrel : Unit := .multiple "beer_barrel" "beer_bbl" 31 [(gallon, 1)]

def hogshead : Unit := .multiple "hogshead" "hogshead" 63 [(gallon, 1)]

def dram : Unit := .multiple "dram" "dr" 0.00390625 [(pound, 1)]

def ounce : Unit := .multiple "ounce" "oz" 0.0625 [(pound, 1)]

def stone : Unit := .multiple "stone" "stone" 14 [(pound, 1)]

def quarter : Unit := .multiple "quarter" "quarter" 28 [(pound, 1)]

def bag : Unit := .multiple "bag" "bag" 94 [(pound, 1)]

def hundredweight : Unit := .multiple "hundredweight" "cwt" 100 [(pound, 1)]

def long_hundredweight : Unit :=
  .multiple "long_hundredweight" "long_hundredweight" 112 [(pound, 1)]

def ton : Unit := .multiple "ton" "ton" 2000.0 [(pound, 1)]

def long_ton : Unit := .multiple "long_ton" "long_ton" 2240 [(pound, 1)]

def slug : Unit :=
  .multiple "slug" "slug" 1.0 [(standard_gravity, 1), (pound, 1), (second, 2), (foot, -1)]

def slinch : Unit :=
  .multiple "slinch" "blob" 1.0 [(standard_gravity, 1), (pound, 1), (second, 2), (inch, -1)]

def force_ounce : Unit := .multiple "force_ounce" "ozf" 1 [(standard_gravity, 1), (ounce, 1)]

def force_ton : Unit := .multiple "force_ton" "force_ton" 1 [(standard_gravity, 1), (ton, 1)]

def force_long_ton : Unit :=
  .multiple "force_long_ton" "force_long_ton" 1 [(standard_gravity, 1), (long_ton, 1)]

def poundal : Unit := .multiple "poundal" "pdl" 1.0 [(pound, 1), (foot, 1), (second, -2)]

def UK_hundredweight : Unit := .multiple "UK_hundredweight" "UK_cwt" 1 [(long_hundredweight, 1)]

def UK_ton : Unit := .multiple "UK_ton" "UK_ton" 1 [(long_ton, 1)]

def UK_force_ton : Unit := .multiple "UK_force_ton" "UK_force_ton" 1 [(force_long_ton, 1)]

def US_hundredweight : Unit := .multiple "US_hundredweight" "US_cwt" 1 [(hundredweight, 1)]

def US_ton : Unit := .multiple "US_ton" "US_ton" 1 [(ton, 1)]

def US_force_ton : Unit := .multiple "US_force_ton" "US_force_ton" 1 [(force_ton, 1)]

def pennyweight : Unit := .multiple "pennyweight" "dwt" 24 [(grain, 1)]

def troy_ounce : Unit := .multiple "troy_ounce" "toz" 480 [(grain, 1)]

def troy_pound : Unit := .multiple "troy_pound" "tlb" 12 [(troy_ounce, 1)]

def scruple : Unit := .multiple "scruple" "scruple" 20 [(grain, 1)]

def apothecary_dram : Unit := .multiple "apothecary_dram" "ap_dr" 3 [(scruple, 1)]

def apothecary_ounce : Unit := .multiple "apothecary_ounce" "ap_oz" 8 [(apothecary_dram, 1)]

def apothecary_pound : Unit := .multiple "apothecary_pound" "ap_lb" 12 [(apothecary_ounce, 1)]

def imperial_gallon : Unit := .multiple "imperial_gallon" "imperial_gal" 4.54609 [(liter, 1)]

def imperial_pint : Unit := .multiple "imperial_pint" "imperial_pt" 0.125 [(imperial_gallon, 1)]

def imperial_fluid_ounce : Unit :=
  .multiple "imperial_fluid_ounce" "imperial_floz" 0.05 [(imperial_pint, 1)]

def imperial_minim : Unit :=
  .multiple "imperial_minim" "imperial_minim" 0.0020833333333333333 [(imperial_fluid_ounce, 1)]

def imperial_fluid_scruple : Unit :=
  .multiple "imperial_fluid_scruple" "imperial_fluid_scruple" 0.041666666666666664
    [(imperial_fluid_ounce, 1)]

def imperial_fluid_drachm : Unit :=
  .multiple "imperial_fluid_drachm" "imperial_fldr" 0.125 [(imperial_fluid_ounce, 1)]

def imperial_gill : Unit := .multiple "imperial_gill" "imperial_gi" 0.25 [(imperial_pint, 1)]

def imperial_cup : Unit := .multiple "imperial_cup" "imperial_cp" 0.5 [(imperial_pint, 1)]

def imperial_quart : Unit := .multiple "imperial_quart" "imperial_qt" 0.25 [(imperial_gallon, 1)]

def imperial_peck : Unit := .multiple "imperial_peck" "imperial_pk" 2 [(imperial_gallon, 1)]

def imperial_bushel : Unit := .multiple "imperial_bushel" "imperial_bu" 8 [(imperial_gallon, 1)]

def imperial_barrel : Unit := .multiple "imperial_barrel" "imperial_bbl" 36 [(imperial_gallon, 1)]

def pica : Unit := .multiple "pica" "pica" 0.16666666666666666 [(inch, 1)]

def point : Unit := .multiple "point" "pp" 0.08333333333333333 [(pica, 1)]

def didot : Unit := .multiple "didot" "didot" 0.00037593984962406017 [(meter, 1)]

def cicero : Unit := .multiple "cicero" "cicero" 12 [(didot, 1)]

def tex_point : Unit := .multiple "tex_point" "tex_point" 0.013837000138370002 [(inch, 1)]

def tex_pica : Unit := .multiple "tex_pica" "tex_pica" 12 [(tex_point, 1)]

def tex_didot : Unit := .multiple "tex_didot" "tex_didot" 1.070008643042351 [(tex_point, 1)]

def tex_cicero : Unit := .multiple "tex_cicero" "tex_cicero" 12 [(tex_didot, 1)]

def scaled_point : Unit :=
  .multiple "scaled_point" "scaled_point" 1.52587890625e-05 [(tex_point, 1)]

def css_pixel : Unit := .multiple "css_pixel" "px" 0.010416666666666666 [(inch, 1)]

def pixel : Unit := .base "pixel" "pixel" (some .printing)

def pixels_per_centimeter : Unit :=
  .multiple "pixels_per_centimeter" "PPCM" 1.0 [(pixel, 1), (centimeter, -1)]

def pixels_per_inch : Unit :=
  .multiple "pixels_per_inch" "dots_per_inch" 1.0 [(pixel, 1), (inch, -1)]

def bits_per_pixel : Unit := .multiple "bits_per_pixel" "bpp" 1.0 [(bit, 1), (pixel, -1)]

def tex : Unit := .multiple "tex" "Tt" 1.0 [(gram, 1), (kilometer, -1)]

def decitex : Unit := .multiple "decitex" "dTt" 0.1 [(tex, 1)]

def dtex : Unit := .multiple "dtex" "dtex" 1 [(decitex, 1)]

def denier : Unit := .multiple "denier" "den" 0.1111111111111111 [(gram, 1), (kilometer, -1)]

def jute : Unit := .multiple "jute" "Tj" 6.944444444444444e-05 [(pound, 1), (yard, -1)]

def aberdeen : Unit := .multiple "aberdeen" "Ta" 1 [(jute, 1)]

def RKM : Unit := .multiple "RKM" "RKM" 1.0 [(force_gram, 1), (tex, -1)]

def number_english : Unit := .multiple "number_english" "Ne" 840.0 [(yard, 1), (pound, -1)]

def number_meter : Unit := .multiple "number_meter" "Nm" 1.0 [(kilometer, 1), (kilogram, -1)]

def franklin : Unit := .multiple "franklin" "Fr" 1.0 [(erg, 0.5), (centimeter, 0.5)]

def statvolt : Unit := .multiple "statvolt" "statV" 1.0 [(erg, 1), (franklin, -1)]

def statampere : Unit := .multiple "statampere" "statA" 1.0 [(franklin, 1), (second, -1)]

def gauss : Unit := .multiple "gauss" "G" 1.0 [(dyne, 1), (franklin, -1)]

def maxwell : Unit := .multiple "maxwell" "Mx" 1 [(gauss, 1), (centimeter, 2)]

def oersted : Unit := .multiple "oersted" "Oe" 1.0 [(dyne, 1), (maxwell, -1)]

def statohm : Unit := .multiple "statohm" "statΩ" 1.0 [(statvolt, 1), (statampere, -1)]

def statfarad : Unit := .multiple "statfarad" "statF" 1.0 [(franklin, 1), (statvolt, -1)]

def statmho : Unit := .multiple "statmho" "statmho" 1.0 [(statampere, 1), (statvolt, -1)]

def statweber : Unit := .multiple "statweber" "statWb" 1 [(statvolt, 1), (second, 1)]

def stattesla : Unit := .multiple "stattesla" "statT" 1.0 [(statweber, 1), (centimeter, -2)]

def stathenry : Unit := .multiple "stathenry" "statH" 1.0 [(statweber, 1), (statampere, -1)]

end Reckon.Unit.Known
