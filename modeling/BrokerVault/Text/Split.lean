/-! Cutting a text at separators. -/
namespace BrokerVault.Text

def splitOn (isSeparator : Char → Bool) : List Char → List (List Char)
  | [] => [[]]
  | c :: rest =>
    match splitOn isSeparator rest with
    | piece :: pieces =>
      if isSeparator c then [] :: piece :: pieces else (c :: piece) :: pieces
    | [] => [[]]

theorem splitOnNotNil (isSeparator : Char → Bool) (text : List Char) :
    splitOn isSeparator text ≠ [] := by
  cases text with
  | nil => simp [splitOn]
  | cons c rest =>
    unfold splitOn
    split
    · split <;> simp
    · simp

end BrokerVault.Text
