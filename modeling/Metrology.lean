import Metrology.PublicNames
import Metrology.Worksheet.LoneCall
import Metrology.Proofs.Conversion.Inversion
import Metrology.Proofs.Dimension.Checking
import Metrology.Proofs.Expression.CanonicalSpelling
import Metrology.Proofs.Expression.Homomorphism
import Metrology.Proofs.Expression.Lexing
import Metrology.Proofs.Expression.Recursion
import Metrology.Proofs.Expression.Spacing
import Metrology.Proofs.Fraction.NormalForm
import Metrology.Proofs.MeasurementUnit.Invertibility
import Metrology.Proofs.MeasurementUnit.Powers
import Metrology.Proofs.Number.TrialDivision
import Metrology.Proofs.Quantity.Arithmetic
import Metrology.Proofs.Quantity.Keys
import Metrology.Proofs.Quantity.Truncation
import Metrology.Proofs.Ratio.Group
import Metrology.Proofs.Ratio.LowestTerms
import Metrology.Proofs.Ratio.Reduced
import Metrology.Proofs.Ratio.Signs
import Metrology.Proofs.Registry.Retrieval
import Metrology.Proofs.Registry.UserUnits
