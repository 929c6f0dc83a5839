/-! White space at the edges of a text, by the Unicode property White_Space. Trimming removes it on
both sides; a text that trims to nothing is blank. -/
namespace PullDecoration
namespace Text

/-- The twenty-five characters of the Unicode property White_Space. -/
def isBlankChar (c : Char) : Bool :=
  let n := c.toNat
  (9 ≤ n && n ≤ 13) || n == 0x20 || n == 0x85 || n == 0xA0 || n == 0x1680 ||
    (0x2000 ≤ n && n ≤ 0x200A) || n == 0x2028 || n == 0x2029 || n == 0x202F ||
    n == 0x205F || n == 0x3000

def trimStartChars (cs : List Char) : List Char := cs.dropWhile isBlankChar

def trimEndChars (cs : List Char) : List Char := (cs.reverse.dropWhile isBlankChar).reverse

def trimChars (cs : List Char) : List Char := trimEndChars (trimStartChars cs)

def trim (s : String) : String := String.ofList (trimChars s.toList)

def isBlank (s : String) : Bool := s.toList.all isBlankChar

/-- The trimmed text, unless nothing is left of it. -/
def nonBlank? (s : String) : Option String :=
  let t := trim s
  if t = "" then none else some t

@[simp] theorem trim_toList (s : String) : (trim s).toList = trimChars s.toList := by simp [trim]

theorem trimEndChars_cons {c : Char} (h : isBlankChar c = false) (cs : List Char) :
    trimEndChars (c :: cs) = c :: trimEndChars cs := by
  unfold trimEndChars
  rw [List.reverse_cons, List.dropWhile_append]
  split
  · rename_i hempty
    have hnil : cs.reverse.dropWhile isBlankChar = [] := by simpa using hempty
    simp [hnil, h]
  · simp

end Text
end PullDecoration
