/-! Blank characters and blank text.
A character is blank when Unicode gives it the property White_Space; a text is blank
when all its characters are, the empty text included. -/
namespace SearchCriteria.Text

/-- The runs of characters with the property White_Space, ends included. -/
def blankRanges : List (Nat × Nat) :=
  [(0x9, 0xD), (0x20, 0x20), (0x85, 0x85), (0xA0, 0xA0), (0x1680, 0x1680), (0x2000, 0x200A),
   (0x2028, 0x2029), (0x202F, 0x202F), (0x205F, 0x205F), (0x3000, 0x3000)]

def inRanges (ranges : List (Nat × Nat)) (n : Nat) : Bool :=
  ranges.any fun r => r.1 ≤ n && n ≤ r.2

def isBlankChar (c : Char) : Bool := inRanges blankRanges c.toNat

def isBlank (s : String) : Bool := s.toList.all isBlankChar

@[simp] theorem isBlank_empty : isBlank "" = true := by decide

@[simp] theorem isBlank_append (s t : String) :
    isBlank (s ++ t) = (isBlank s && isBlank t) := by
  simp [isBlank]

end SearchCriteria.Text
