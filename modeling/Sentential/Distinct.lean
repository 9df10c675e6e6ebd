/-! Lists without repeats: the first element of each class, in order. -/
namespace Sentential

def distinctBy (same : α → α → Bool) : List α → List α
  | [] => []
  | x :: xs => x :: (distinctBy same xs).filter fun y => !same x y

/-- The elements of a list, each at its first occurrence. -/
def distinct [BEq α] (xs : List α) : List α := distinctBy (· == ·) xs

end Sentential
