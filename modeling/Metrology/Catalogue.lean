import Metrology.Quantity

/-!
The built-in catalogue. Every unit is defined by algebra from the base units, so
its conversion is derived and not written out. There are two tables: the
international units, and customary, astronomical and other units.
-/

namespace Metrology

/-- Units by their names in the catalogue, in order. -/
structure Catalogue where
  international : List (String × StandardUnit)
  customary : List (String × StandardUnit)

namespace Catalogue

/-! ## Constants -/

/-- A double written in decimal: digits times a power of ten. -/
def decimal (digits : Nat) (exponent : Int) : Binary64 := .ofDecimal false digits exponent

def avogadro : Binary64 := decimal 602214199 15
def elementaryCharge : Binary64 := decimal 1602176462 (-28)
def pi : Binary64 := decimal 3141592653589793 (-15)

def gramPerMole : Binary64 := (decimal 1 (-3)).div avogadro
def faradayConstant : Binary64 := elementaryCharge.mul avogadro
def fullTurn : Binary64 := (decimal 2 0).mul pi
def fullSphere : Binary64 := (decimal 4 0).mul pi
def gilbertScale : Binary64 := (decimal 10 0).div fullSphere

/-- A pound force is a pound under standard gravity. -/
def poundForceDividend : Number := .int (45359237 * 980665)
def poundForceDivisor : Number := .int (100000000 * 100000)

/-! ## Units -/

/-- A derived unit that exists. -/
def known (derived : Result StandardUnit)
    (succeeds : derived.toBool = true := by decide +kernel) : StandardUnit :=
  match derived with
  | .ok unit => unit
  | .error _ => absurd succeeds (by simp [Except.toBool])

/-- A derived unit under a symbol of its own. -/
def named (symbol : String) (derived : Result StandardUnit)
    (succeeds : derived.toBool = true := by decide +kernel) : StandardUnit :=
  (known derived succeeds).withSymbol symbol

/-- The unit that is a common fraction of another; the dividend alone has no symbol. -/
def fraction (unit : StandardUnit) (dividend divisor : Number) : Result StandardUnit := do
  ((← unit.scale dividend).withSymbol "").part divisor

/-! ### Base units -/

def one : StandardUnit := .one

def metre : StandardUnit := .ofSymbol .length "m"

def kilogram : StandardUnit := .ofSymbol .mass "kg"

def second : StandardUnit := .ofSymbol .time "s"

def ampere : StandardUnit := .ofSymbol .electricCurrent "A"

def kelvin : StandardUnit := .ofSymbol .temperature "K"

def mole : StandardUnit := .ofSymbol .amountOfSubstance "mol"

def candela : StandardUnit := .ofSymbol .luminousIntensity "cd"

/-! ### Pure numbers -/

def radian : StandardUnit := .ofSymbol .dimensionless "rad"

def steradian : StandardUnit := .ofSymbol .dimensionless "sr"

def bit : StandardUnit := .ofSymbol .dimensionless "bit"

/-! ### Lengths and masses -/

def millimetre : StandardUnit := named "mm" (metre.part 1000)

def centimetre : StandardUnit := named "cm" (metre.part 100)

def kilometre : StandardUnit := named "km" (metre.scale 1000)

def gram : StandardUnit := named "g" (kilogram.part 1000)

def milligram : StandardUnit := named "mg" (gram.part 1000)

/-! ### Derived units with names -/

def hertz : StandardUnit := named "Hz" (one.divide second)

def newton : StandardUnit :=
  named "N" ((known (metre.times kilogram)).divide (known (second.powerNat 2)))

def pascal : StandardUnit := named "Pa" (newton.divide (known (metre.powerNat 2)))

def joule : StandardUnit := named "J" (newton.times metre)

def watt : StandardUnit := named "W" (joule.divide second)

def coulomb : StandardUnit := named "C" (second.times ampere)

def volt : StandardUnit := named "V" (watt.divide ampere)

def farad : StandardUnit := named "F" (coulomb.divide volt)

def ohm : StandardUnit := named "Ω" (volt.divide ampere)

def siemens : StandardUnit := named "S" (ampere.divide volt)

def weber : StandardUnit := named "Wb" (volt.times second)

def tesla : StandardUnit := named "T" (weber.divide (known (metre.powerNat 2)))

def henry : StandardUnit := named "H" (weber.divide ampere)

def celsius : StandardUnit := named "°C" (kelvin.shift (decimal 27315 (-2)))

def lumen : StandardUnit := named "lm" (candela.times steradian)

def lux : StandardUnit := named "lx" (lumen.divide (known (metre.powerNat 2)))

def becquerel : StandardUnit := named "Bq" (one.divide second)

def gray : StandardUnit := named "Gy" (joule.divide kilogram)

def sievert : StandardUnit := named "Sv" (joule.divide kilogram)

def katal : StandardUnit := named "kat" (mole.divide second)

/-! ### Derived units without -/

def squareMetre : StandardUnit := known (metre.times metre)

def cubicMetre : StandardUnit := known (squareMetre.times metre)

def metresPerSecond : StandardUnit := known (metre.divide second)

def metresPerSquareSecond : StandardUnit := known (metresPerSecond.divide second)

/-! ### Shares and counts -/

def percent : StandardUnit := named "prcnt" (one.part 100)

def atom : StandardUnit := named "atom" (mole.part avogadro)

/-! ### Length -/

def foot : StandardUnit := named "ft" (fraction metre 3048 10000)

def footSurveyUs : StandardUnit := named "foot_survey_us" (fraction metre 1200 3937)

def yard : StandardUnit := named "yd" (foot.scale 3)

def inch : StandardUnit := named "in" (foot.part 12)

def mile : StandardUnit := named "mi" (fraction metre 1609344 1000)

def nauticalMile : StandardUnit := named "nmi" (metre.scale 1852)

def angstrom : StandardUnit := named "Å" (metre.part 10000000000)

def astronomicalUnit : StandardUnit := named "ua" (metre.scale (decimal 1495978706910 (-1)))

def lightYear : StandardUnit := named "ly" (metre.scale (decimal 9460528405 6))

def parsec : StandardUnit := named "pc" (metre.scale (decimal 30856770 9))

def point : StandardUnit := named "pt" (fraction inch 13837 1000000)

def pixel : StandardUnit := named "px" (inch.part 72)

/-! ### Time -/

def minute : StandardUnit := named "min" (second.scale 60)

def hour : StandardUnit := named "hr" (minute.scale 60)

def day : StandardUnit := named "d" (hour.scale 24)

def week : StandardUnit := named "week" (day.scale 7)

def year : StandardUnit := named "year" (second.scale 31556952)

def month : StandardUnit := named "month" (year.part 12)

def daySidereal : StandardUnit := named "day_sidereal" (second.scale (decimal 8616409 (-2)))

def yearSidereal : StandardUnit := named "year_sidereal" (day.scale 365)

def calendarYear : StandardUnit :=
  named "year_calendar" (second.scale (decimal 3155814954 (-2)))

/-! ### Mass -/

def atomicMass : StandardUnit := named "u" (kilogram.scale gramPerMole)

def electronMass : StandardUnit := named "me" (kilogram.scale (decimal 910938188 (-39)))

def pound : StandardUnit := named "lb" (fraction kilogram 45359237 100000000)

def ounce : StandardUnit := named "oz" (pound.part 16)

def tonUs : StandardUnit := named "ton_us" (pound.scale 2000)

def tonUk : StandardUnit := named "ton_uk" (pound.scale 2240)

def metricTon : StandardUnit := named "t" (kilogram.scale 1000)

/-! ### Charge -/

def electronCharge : StandardUnit := named "e" (coulomb.scale elementaryCharge)

def faraday : StandardUnit := named "Fd" (coulomb.scale faradayConstant)

def franklin : StandardUnit := named "Fr" (coulomb.scale (decimal 33356 (-14)))

/-! ### Temperature -/

def rankine : StandardUnit := named "°R" (fraction kelvin 5 9)

def fahrenheit : StandardUnit := named "°F" (rankine.shift (decimal 45967 (-2)))

/-! ### Angle -/

def revolution : StandardUnit := named "rev" (radian.scale fullTurn)

def degreeAngle : StandardUnit := named "°" (revolution.part 360)

def minuteAngle : StandardUnit := named "\"" (degreeAngle.part 60)

def secondAngle : StandardUnit := named "'" (minuteAngle.part 60)

def centiradian : StandardUnit := named "centiradian" (radian.part 100)

def grade : StandardUnit := named "grade" (revolution.part 400)

/-! ### Speed and acceleration -/

def milesPerHour : StandardUnit := known (mile.divide hour)

def kilometresPerHour : StandardUnit := known (kilometre.divide hour)

def knot : StandardUnit := named "kn" (nauticalMile.divide hour)

def mach : StandardUnit := named "Mach" (metresPerSecond.scale (decimal 3316 (-1)))

def speedOfLight : StandardUnit := named "c" (metresPerSecond.scale 299792458)

def standardGravity : StandardUnit :=
  named "grav" (fraction metresPerSquareSecond 980665 100000)

/-! ### Area -/

def are : StandardUnit := named "a" (squareMetre.scale 100)

def hectare : StandardUnit := named "ha" (are.scale 100)

def acre : StandardUnit := named "ac" ((known (yard.powerNat 2)).scale 4840)

/-! ### Information -/

def byte : StandardUnit := named "byte" (bit.scale 8)

/-! ### Magnetism, energy, force, power and pressure -/

def gilbert : StandardUnit := named "Gi" (ampere.scale gilbertScale)

def erg : StandardUnit := named "Erg" (joule.part 10000000)

def electronVolt : StandardUnit := named "eV" (joule.scale elementaryCharge)

def lambert : StandardUnit := named "La" (lux.scale 10000)

def maxwell : StandardUnit := named "Mx" (weber.part 100000000)

def gauss : StandardUnit := named "G" (tesla.part 10000)

def dyne : StandardUnit := named "dyn" (newton.part 100000)

def kilogramForce : StandardUnit := named "kgf" (fraction newton 980665 100000)

def poundForce : StandardUnit :=
  named "lbf" (fraction newton poundForceDividend poundForceDivisor)

def horsepower : StandardUnit := named "hp" (watt.scale (decimal 735499 (-3)))

def atmosphere : StandardUnit := named "atm" (pascal.scale 101325)

def bar : StandardUnit := named "bar" (pascal.scale 100000)

def millimeterOfMercury : StandardUnit := named "mmHg" (pascal.scale (decimal 133322 (-3)))

def inchOfMercury : StandardUnit := named "inHg" (pascal.scale (decimal 3386388 (-3)))

/-! ### Radiation -/

def rad : StandardUnit := named "rd" (gray.part 100)

def rem : StandardUnit := named "rem" (sievert.part 100)

def curie : StandardUnit := named "Ci" (becquerel.scale 37000000000)

def rutherford : StandardUnit := named "Rd" (becquerel.scale 1000000)

def roentgen : StandardUnit :=
  named "Roentgen" ((known (coulomb.divide kilogram)).scale (decimal 258 (-6)))

/-! ### Solid angle -/

def sphere : StandardUnit := named "sphere" (steradian.scale fullSphere)

/-! ### Volume -/

def litre : StandardUnit := named "L" (cubicMetre.part 1000)

def cubicInch : StandardUnit := known (inch.powerNat 3)

def gallonLiquidUs : StandardUnit := named "gal" (cubicInch.scale 231)

def ounceLiquidUs : StandardUnit := named "oz_fl" (gallonLiquidUs.part 128)

def gallonDryUs : StandardUnit := named "gal_dry_us" (cubicInch.scale (decimal 2688025 (-4)))

def gallonUk : StandardUnit := named "gal_uk" (fraction litre 454609 100000)

def ounceLiquidUk : StandardUnit := named "oz_fl_uk" (gallonUk.part 160)

/-! ### Viscosity -/

def poise : StandardUnit := known (gram.divide (known (centimetre.times second)))

def stoke : StandardUnit := known ((known (centimetre.powerNat 2)).divide second)

/-! ## Tables -/

/-- The catalogue. -/
def standard : Catalogue where
  international := [
      ("ONE", one), ("METRE", metre), ("METER", metre), ("KILOGRAM", kilogram),
      ("SECOND", second), ("AMPERE", ampere), ("KELVIN", kelvin), ("MOLE", mole),
      ("CANDELA", candela), ("RADIAN", radian), ("STERADIAN", steradian), ("BIT", bit),
      ("MILLIMETRE", millimetre), ("MILLIMETER", millimetre), ("CENTIMETRE", centimetre),
      ("CENTIMETER", centimetre), ("KILOMETRE", kilometre), ("KILOMETER", kilometre),
      ("GRAM", gram), ("MILLIGRAM", milligram), ("HERTZ", hertz), ("NEWTON", newton),
      ("PASCAL", pascal), ("JOULE", joule), ("WATT", watt), ("COULOMB", coulomb), ("VOLT", volt),
      ("FARAD", farad), ("OHM", ohm), ("SIEMENS", siemens), ("WEBER", weber), ("TESLA", tesla),
      ("HENRY", henry), ("CELSIUS", celsius), ("LUMEN", lumen), ("LUX", lux),
      ("BECQUEREL", becquerel), ("GRAY", gray), ("SIEVERT", sievert), ("KATAL", katal),
      ("SQUARE_METRE", squareMetre), ("SQUARE_METER", squareMetre), ("CUBIC_METRE", cubicMetre),
      ("CUBIC_METER", cubicMetre), ("METRES_PER_SECOND", metresPerSecond),
      ("METERS_PER_SECOND", metresPerSecond), ("KILOMETRES_PER_HOUR", kilometresPerHour),
      ("KILOMETERS_PER_HOUR", kilometresPerHour),
      ("METRES_PER_SQUARE_SECOND", metresPerSquareSecond),
      ("METERS_PER_SQUARE_SECOND", metresPerSquareSecond) ]
  customary := [
      ("PERCENT", percent), ("ATOM", atom), ("FOOT", foot), ("FOOT_SURVEY_US", footSurveyUs),
      ("YARD", yard), ("INCH", inch), ("MILE", mile), ("NAUTICAL_MILE", nauticalMile),
      ("ANGSTROM", angstrom), ("ASTRONOMICAL_UNIT", astronomicalUnit), ("LIGHT_YEAR", lightYear),
      ("PARSEC", parsec), ("POINT", point), ("PIXEL", pixel), ("MINUTE", minute), ("HOUR", hour),
      ("DAY", day), ("WEEK", week), ("YEAR", year), ("MONTH", month),
      ("DAY_SIDEREAL", daySidereal), ("YEAR_SIDEREAL", yearSidereal),
      ("YEAR_CALENDAR", calendarYear), ("ATOMIC_MASS", atomicMass),
      ("ELECTRON_MASS", electronMass), ("POUND", pound), ("OUNCE", ounce), ("TON_US", tonUs),
      ("TON_UK", tonUk), ("METRIC_TON", metricTon), ("E", electronCharge), ("FARADAY", faraday),
      ("FRANKLIN", franklin), ("RANKINE", rankine), ("FAHRENHEIT", fahrenheit),
      ("REVOLUTION", revolution), ("DEGREE_ANGLE", degreeAngle), ("MINUTE_ANGLE", minuteAngle),
      ("SECOND_ANGLE", secondAngle), ("CENTIRADIAN", centiradian), ("GRADE", grade),
      ("MILES_PER_HOUR", milesPerHour), ("KNOT", knot), ("MACH", mach), ("C", speedOfLight),
      ("G", standardGravity), ("ARE", are), ("HECTARE", hectare), ("ACRE", acre), ("BYTE", byte),
      ("GILBERT", gilbert), ("ERG", erg), ("ELECTRON_VOLT", electronVolt), ("LAMBERT", lambert),
      ("MAXWELL", maxwell), ("GAUSS", gauss), ("DYNE", dyne), ("KILOGRAM_FORCE", kilogramForce),
      ("POUND_FORCE", poundForce), ("HORSEPOWER", horsepower), ("ATMOSPHERE", atmosphere),
      ("BAR", bar), ("MILLIMETER_OF_MERCURY", millimeterOfMercury),
      ("INCH_OF_MERCURY", inchOfMercury), ("RAD", rad), ("REM", rem), ("CURIE", curie),
      ("RUTHERFORD", rutherford), ("SPHERE", sphere), ("LITRE", litre), ("CUBIC_INCH", cubicInch),
      ("GALLON_LIQUID_US", gallonLiquidUs), ("OUNCE_LIQUID_US", ounceLiquidUs),
      ("GALLON_DRY_US", gallonDryUs), ("GALLON_UK", gallonUk), ("OUNCE_LIQUID_UK", ounceLiquidUk),
      ("POISE", poise), ("STOKE", stoke), ("ROENTGEN", roentgen) ]

/-! ## Names -/

/-- All entries, the international ones first. -/
def entries (catalogue : Catalogue) : List (String × StandardUnit) :=
  catalogue.international ++ catalogue.customary

/-- The unit under a name of the catalogue. -/
def find? (catalogue : Catalogue) (name : String) : Option StandardUnit :=
  (catalogue.entries.find? fun (other, _) => other == name).map (·.2)

/-- The public names: the two tables, then all units in alphabetical order. -/
def publicNames (catalogue : Catalogue) : List String :=
  ["SI", "NON_SI"] ++ orderNames (catalogue.entries.map (·.1))

end Catalogue
end Metrology
