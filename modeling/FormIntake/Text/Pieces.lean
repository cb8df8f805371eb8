namespace FormIntake.Text

/-- The pieces of `cs` between separators; one more than there are separators. -/
def pieces (separator : Char) : List Char → List (List Char)
  | [] => [[]]
  | c :: rest =>
    if c = separator then [] :: pieces separator rest
    else
      match pieces separator rest with
      | piece :: others => (c :: piece) :: others
      | [] => [[c]]

/-- `cs` in front of the first separator, and behind it; nothing behind if there is none. -/
def cut (separator : Char) (cs : List Char) : List Char × List Char :=
  (cs.takeWhile (· ≠ separator), (cs.dropWhile (· ≠ separator)).drop 1)

end FormIntake.Text
