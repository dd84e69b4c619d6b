/-
Lines of a text, each with its terminator. Which characters end a line is a parameter; a carriage
return directly before a line feed always belongs to one terminator. Law: the lines joined are the
text.
-/
namespace StructuralTyping.Text

/-- The ends of a line in general: all the characters that Unicode knows as such, and the file,
group and record separators. -/
def isLineEnd (c : Char) : Bool :=
  let n := c.toNat
  (0x0a ≤ n && n ≤ 0x0d) || (0x1c ≤ n && n ≤ 0x1e) || n == 0x85 || n == 0x2028 || n == 0x2029

/-- The ends of a row of source text: line feed and carriage return only. -/
def isRowEnd (c : Char) : Bool := c == '\n' || c == '\r'

/-- Puts a character in front of the first line. -/
def consLine (c : Char) : List (List Char) → List (List Char)
  | [] => [[c]]
  | line :: lines => (c :: line) :: lines

/-- The lines of a text with their terminators. A text that ends in a terminator has no empty line
after it. -/
def splitLines (ends : Char → Bool) : List Char → List (List Char)
  | [] => []
  | '\r' :: '\n' :: rest => ['\r', '\n'] :: splitLines ends rest
  | c :: rest => if ends c then [c] :: splitLines ends rest else consLine c (splitLines ends rest)

/-- Every line terminator written as a line feed. -/
def unifyNewlines : List Char → List Char
  | [] => []
  | '\r' :: '\n' :: rest => '\n' :: unifyNewlines rest
  | '\r' :: rest => '\n' :: unifyNewlines rest
  | c :: rest => c :: unifyNewlines rest

theorem flatten_consLine (c : Char) (lines : List (List Char)) :
    (consLine c lines).flatten = c :: lines.flatten := by
  cases lines <;> simp [consLine]

/-- Nothing is lost or moved: the lines joined are the text. -/
theorem flatten_splitLines (ends : Char → Bool) (text : List Char) :
    (splitLines ends text).flatten = text := by
  fun_induction splitLines ends text with
  | case1 => rfl
  | case2 rest ih => simp [ih]
  | case3 c rest _ _ ih => simp [ih]
  | case4 c rest _ _ ih => simp [flatten_consLine, ih]

end StructuralTyping.Text
