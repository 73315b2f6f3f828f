import PoolFees.Fault.Kind
import PoolFees.Fee

/-!
# Constants

The numbers that callers may rely on, and the list of what the library offers, under the names that
they are known by.
-/

namespace PoolFees.Constants

/-- What the library offers, in alphabetical order. -/
def exports : List String :=
  ["FeeCalculator", "FeeConfig", "FeesModel", "InvalidFeeConfig", "InvalidInstructionData",
    "SwapMathError", "WidthOverflow", "__version__", "mul_div", "mul_div_imbalanced", "require_fee"]

def version : String := "0.1.0"

/-- All constants with their names. -/
def all : List (String × Value) :=
  [("MAX", .whole MulDiv.balanced.left),
    ("MAX_BIG", .whole MulDiv.imbalanced.left),
    ("MAX_SMALL", .whole MulDiv.imbalanced.right),
    ("NORMALIZED_FEE_FACTOR", .whole normalizationFactor),
    ("U8_MAX", .whole (capacity coinsWidth - 1)),
    ("U64_MAX", .whole (capacity MulDiv.amountWidth - 1)),
    ("U128_MAX", .whole (capacity MulDiv.productWidth - 1)),
    ("exports", .list (exports.map .text) []),
    ("version", .text version)]

end PoolFees.Constants
