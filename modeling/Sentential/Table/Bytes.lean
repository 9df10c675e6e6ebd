import Sentential.Formula.Bytes
import Sentential.Rows

/-! Filling a table with bytes, row by row as a cursor comes to them. -/
namespace Sentential.TruthTable

end Sentential.TruthTable
