/-! The integers that can index or count. They are machine words with a sign, so an integer below the least of them is
refused before it is compared with any length. No upper bound is needed: what lies past the end of a sequence is met
as the end, however far it is. -/
namespace DigitCalc.Index

def least : Int := -9223372036854775808

def refusal : String := "cannot fit 'int' into an index-sized integer"

end DigitCalc.Index
