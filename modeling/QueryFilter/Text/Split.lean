/-
Splitting text at separators.

`splitWhere` cuts at every character a test picks out, and the test may look at the text that follows
the character. Main statement: putting the separator back between the pieces gives the text again, so
splitting loses nothing but the choice of where to cut.
-/
namespace QueryFilter.Text

/-- Puts a character in front of the first piece. -/
def extendFirst (c : Char) : List (List Char) → List (List Char)
  | [] => [[c]]
  | piece :: pieces => (c :: piece) :: pieces

/-- The pieces between the characters `isSeparator` picks out, given the text after each; there is
always at least one piece. -/
def splitWhere (isSeparator : Char → List Char → Bool) : List Char → List (List Char)
  | [] => [[]]
  | c :: rest =>
    if isSeparator c rest then [] :: splitWhere isSeparator rest
    else extendFirst c (splitWhere isSeparator rest)

/-- The pieces between all occurrences of a character. -/
def splitOn (separator : Char) (cs : List Char) : List (List Char) :=
  splitWhere (fun c _ => c == separator) cs

/-- The text before the first occurrence of a character, and the text after it if it occurs. -/
def cut (separator : Char) : List Char → List Char × Option (List Char)
  | [] => ([], none)
  | c :: rest =>
    if c == separator then ([], some rest)
    else
      let (before, after) := cut separator rest
      (c :: before, after)

/-- The pieces with a separator between neighbours. -/
def joinWith (separator : Char) : List (List Char) → List Char
  | [] => []
  | [piece] => piece
  | piece :: next :: pieces => piece ++ separator :: joinWith separator (next :: pieces)

theorem splitWhere_ne_nil (isSeparator : Char → List Char → Bool) (cs : List Char) :
    splitWhere isSeparator cs ≠ [] := by
  cases cs with
  | nil => simp [splitWhere]
  | cons c rest =>
    rw [splitWhere]
    split
    · simp
    · cases splitWhere isSeparator rest <;> simp [extendFirst]

theorem joinWith_extendFirst (separator c : Char) (pieces : List (List Char)) :
    joinWith separator (extendFirst c pieces) = c :: joinWith separator pieces := by
  match pieces with
  | [] => rfl
  | [_] => rfl
  | _ :: _ :: _ => rfl

/-- When only one character ever separates, putting it back between the pieces restores the text. -/
theorem joinWith_splitWhere {isSeparator : Char → List Char → Bool} {separator : Char}
    (only : ∀ c rest, isSeparator c rest = true → c = separator) (cs : List Char) :
    joinWith separator (splitWhere isSeparator cs) = cs := by
  induction cs with
  | nil => rfl
  | cons c rest ih =>
    rw [splitWhere]
    split
    · rename_i h
      have hc := only c rest h
      cases hs : splitWhere isSeparator rest with
      | nil => exact absurd hs (splitWhere_ne_nil _ _)
      | cons piece pieces =>
        rw [hs] at ih
        simp [joinWith, ih, hc]
    · rw [joinWith_extendFirst, ih]

end QueryFilter.Text
